import Mathlib.Tactic.IntervalCases
import Handycam.Control
import Handycam.Ebml
import Handycam.Mealy

/-!
# The command mailbox

Transport commands and scan commands go through the same mailbox. A transport
command carries a sequence nibble `n` in its word `00 n1 cc n0`; the words of
the scan family are `00 n9 10 n1`, and only these are acknowledged by a token.
The second nibble of the second byte keeps them apart.
-/

namespace Handycam

/-- A vendor request that writes a register or a buffer. -/
structure RegisterWrite where
  /-- the register, or the start of the buffer -/
  index : UInt16
  /-- what is written -/
  data : List UInt8
  deriving DecidableEq

/-- The mailbox with a command word. -/
def commandBlock (command : UInt32) : List UInt8 :=
  List.replicate commandWordOffset 0 ++ Ebml.bytesBE 4 command.toNat

/-- The request that writes the mailbox. -/
def commandWrite (command : UInt32) : RegisterWrite where
  index := commandBlockIndex
  data := commandBlock command

/-- The tape transport operations. -/
inductive TransportCommand where
  | play
  | pause
  | stop
  | fastForward
  | rewind
  deriving DecidableEq

/-- The command byte of an operation. -/
def TransportCommand.commandByte : TransportCommand → UInt8
  | .play => 0x1a
  | .pause => 0x19
  | .stop => 0x18
  | .fastForward => 0x1c
  | .rewind => 0x1b

/-- The encoder of transport commands. Its fields can only be set through a
mask, so the sequence is a nibble. -/
structure TransportCommandEncoder where
  /-- the nibble of the last command -/
  sequence : UInt8
  /-- it is a nibble -/
  sequence_lt : sequence.toNat < 16

namespace TransportCommandEncoder

theorem and_nibble_lt (byte : UInt8) : (byte &&& 0x0f).toNat < 16 := by
  rw [UInt8.toNat_and]
  exact Nat.lt_of_le_of_lt Nat.and_le_right (by decide)

/-- An encoder that goes on from a sequence number. -/
def withSequence (sequence : UInt8) : TransportCommandEncoder where
  sequence := sequence &&& 0x0f
  sequence_lt := and_nibble_lt sequence

/-- The word of a command; the sequence is incremented before. -/
def encode (encoder : TransportCommandEncoder) (command : TransportCommand) :
    TransportCommandEncoder × UInt32 :=
  let sequence := (encoder.sequence + 1) &&& 0x0f
  let word := sequence.toUInt32
  (⟨sequence, and_nibble_lt _⟩,
    (word <<< 20) ||| ((1 : UInt32) <<< 16) ||| (command.commandByte.toUInt32 <<< 8) ||| (word <<< 4))

/-- The request that writes a command into the mailbox. -/
def commandWrite (encoder : TransportCommandEncoder) (command : TransportCommand) :
    TransportCommandEncoder × RegisterWrite :=
  let (encoder, word) := encoder.encode command
  (encoder, Handycam.commandWrite word)

end TransportCommandEncoder

/-! ## Words by their nibbles -/

/-- The byte with two given hexadecimal digits. -/
def nibbles (high low : ℕ) : UInt8 := UInt8.ofNat (16 * high + low)

/-- The word `00 n9 10 n1`. -/
def scanWord (n : ℕ) : UInt32 := UInt32.ofNat (Ebml.valueBE [0x00, nibbles n 9, 0x10, nibbles n 1])

/-- The mailbox with the bytes `00 q1 cc q0` at its end. -/
def transportBlock (q : ℕ) (command : TransportCommand) : List UInt8 :=
  List.replicate 60 0 ++ [0x00, nibbles q 1, command.commandByte, nibbles q 0]

theorem nibbles_inj {n m low : ℕ} (hn : n < 16) (hm : m < 16)
    (h : nibbles n low = nibbles m low) : n = m := by
  have hbytes := congrArg UInt8.toNat h
  rw [nibbles, nibbles, UInt8.toNat_ofNat', UInt8.toNat_ofNat'] at hbytes
  omega

theorem commandByte_injective : Function.Injective TransportCommand.commandByte := by
  intro command other h
  cases command <;> cases other <;> first | rfl | exact absurd h (by decide)

/-- A scan word in the mailbox. -/
theorem commandBlock_scanWord {n : ℕ} (hn : n < 16) :
    commandBlock (scanWord n) =
      List.replicate 60 0 ++ [0x00, nibbles n 9, 0x10, nibbles n 1] := by
  have hbytes : ∀ n < 16, Ebml.bytesBE 4 (scanWord n).toNat =
      [0x00, nibbles n 9, 0x10, nibbles n 1] := by decide
  rw [commandBlock, hbytes n hn]
  rfl

/-- A byte that ends in the digit 9, and the token made of it. -/
theorem scan_nibble {byte : UInt8} (h : byte &&& 0x0f = 0x09) :
    ∃ n < 16, byte = nibbles n 9 ∧ (byte &&& 0xf0) ||| 0x01 = nibbles n 1 := by
  have hall : ∀ k < 256, UInt8.ofNat k &&& 0x0f = 0x09 → UInt8.ofNat k = nibbles (k / 16) 9 ∧
      (UInt8.ofNat k &&& 0xf0) ||| 0x01 = nibbles (k / 16) 1 := by decide +kernel
  have hk := hall byte.toNat byte.toNat_lt
  rw [UInt8.ofNat_toNat] at hk
  exact ⟨byte.toNat / 16, by have := byte.toNat_lt; omega, hk h⟩

/-- **Scan commands.** A slice is acknowledged exactly when it is the mailbox
with a word of the scan family, by the last byte of that word. -/
theorem scanAckToken_eq_some {block : List UInt8} {token : UInt8} :
    scanAckToken block = some token ↔
      ∃ n < 16, block = commandBlock (scanWord n) ∧ token = nibbles n 1 := by
  constructor
  · intro h
    rw [scanAckToken] at h
    by_cases hshape : block.length ≠ commandBlockSize ∨ (block.take commandWordOffset).any (· ≠ 0)
    · rw [if_pos hshape] at h
      cases h
    rw [if_neg hshape] at h
    obtain ⟨hlength, hzero⟩ := not_or.mp hshape
    have hfirst : block.take commandWordOffset = List.replicate 60 0 := by
      refine List.eq_replicate_iff.mpr ⟨?_, fun byte hbyte => ?_⟩
      · rw [List.length_take, not_not.mp hlength]
        rfl
      · by_contra hne
        exact hzero (List.any_eq_true.mpr ⟨byte, hbyte, by simpa using hne⟩)
    rcases hword : block.drop commandWordOffset with _ | ⟨c₀, _ | ⟨c₁, _ | ⟨c₂, _ | ⟨c₃, _ | _⟩⟩⟩⟩ <;>
      rw [hword] at h <;> simp only [reduceCtorEq] at h
    by_cases hscan : c₀ = 0 ∧ c₁ &&& 0x0f = 0x09 ∧ c₂ = 0x10 ∧ c₃ = (c₁ &&& 0xf0) ||| 0x01
    · rw [if_pos hscan, Option.some_inj] at h
      obtain ⟨rfl, hnine, rfl, hthird⟩ := hscan
      obtain ⟨n, hn, hsecond, htoken⟩ := scan_nibble hnine
      rw [htoken] at hthird
      refine ⟨n, hn, ?_, by rw [← h, hthird]⟩
      rw [commandBlock_scanWord hn, ← hfirst, ← hsecond, ← hthird, ← hword,
        List.take_append_drop]
    · rw [if_neg hscan] at h
      cases h
  · rintro ⟨n, hn, rfl, rfl⟩
    have hall : ∀ n < 16, scanAckToken (List.replicate 60 0 ++
        [0x00, nibbles n 9, 0x10, nibbles n 1]) = some (nibbles n 1) := by decide +kernel
    rw [commandBlock_scanWord hn, hall n hn]

/-! ## Transport commands -/

/-- The mailbox determines the command and its nibble. -/
theorem transportBlock_inj {q r : ℕ} (hq : q < 16) (hr : r < 16) {command other : TransportCommand}
    (h : transportBlock q command = transportBlock r other) : command = other ∧ q = r := by
  have hword := List.append_cancel_left h
  simp only [List.cons.injEq, and_true, true_and] at hword
  obtain ⟨-, hbyte, hlast⟩ := hword
  exact ⟨commandByte_injective hbyte, nibbles_inj hq hr hlast⟩

/-- A transport command is not taken for a scan. -/
theorem scanAckToken_transportBlock (q : ℕ) (command : TransportCommand) :
    scanAckToken (transportBlock q command) = none := by
  rcases htoken : scanAckToken (transportBlock q command) with _ | token
  · rfl
  · obtain ⟨n, hn, hblock, -⟩ := scanAckToken_eq_some.mp htoken
    rw [commandBlock_scanWord hn] at hblock
    have hword := List.append_cancel_left hblock
    simp only [List.cons.injEq, and_true, true_and] at hword
    have hdigits := congrArg UInt8.toNat hword.1
    rw [nibbles, nibbles, UInt8.toNat_ofNat', UInt8.toNat_ofNat'] at hdigits
    omega

namespace TransportCommandEncoder

variable (encoder : TransportCommandEncoder) (command : TransportCommand)

/-- The sequence goes on by one, modulo 16. -/
theorem encode_sequence :
    (encoder.encode command).1.sequence.toNat = (encoder.sequence.toNat + 1) % 16 := by
  have hmask : (0x0f : UInt8).toNat = 2 ^ 4 - 1 := by decide
  have hlt := encoder.sequence_lt
  rw [encode, UInt8.toNat_and, hmask, Nat.and_two_pow_sub_one_eq_mod, UInt8.toNat_add]
  simp only [UInt8.toNat_one]
  omega

/-- The word of a command has its new sequence twice. -/
theorem commandBlock_encode :
    commandBlock (encoder.encode command).2 =
      transportBlock ((encoder.sequence.toNat + 1) % 16) command := by
  have hall : ∀ q < 16, Ebml.bytesBE 4 ((UInt8.ofNat q).toUInt32 <<< 20 ||| (1 : UInt32) <<< 16 |||
      command.commandByte.toUInt32 <<< 8 ||| (UInt8.ofNat q).toUInt32 <<< 4).toNat =
        [0x00, nibbles q 1, command.commandByte, nibbles q 0] := by
    cases command <;> decide
  have hsequence := encode_sequence encoder command
  have hword := hall _ (Nat.mod_lt (encoder.sequence.toNat + 1) (by decide))
  rw [← hsequence, UInt8.ofNat_toNat] at hword
  rw [commandBlock, transportBlock, ← hsequence, ← hword]
  rfl

end TransportCommandEncoder

/-- The mailboxes of a sequence of commands from one encoder. -/
def mailboxBlocks (encoder : TransportCommandEncoder) (commands : List TransportCommand) :
    List (List UInt8) :=
  (Mealy.outputs TransportCommandEncoder.commandWrite encoder commands).map RegisterWrite.data

theorem getElem?_mailboxBlocks (encoder : TransportCommandEncoder)
    (commands : List TransportCommand) (k : ℕ) :
    (mailboxBlocks encoder commands)[k]? =
      commands[k]?.map (transportBlock ((encoder.sequence.toNat + (k + 1)) % 16)) := by
  induction commands generalizing encoder k with
  | nil => rfl
  | cons command commands ih =>
    have hcons : mailboxBlocks encoder (command :: commands) =
        commandBlock (encoder.encode command).2 ::
          mailboxBlocks (encoder.encode command).1 commands := rfl
    rw [hcons, TransportCommandEncoder.commandBlock_encode]
    cases k with
    | zero => rfl
    | succ k =>
      have hsum : ((encoder.sequence.toNat + 1) % 16 + (k + 1)) % 16 =
          (encoder.sequence.toNat + (k + 1 + 1)) % 16 := by omega
      rw [List.getElem?_cons_succ, List.getElem?_cons_succ, ih,
        TransportCommandEncoder.encode_sequence, hsum]

/-- **The mailbox.** A slice has an acknowledgement token exactly when it is
the mailbox with a word `00 n9 10 n1`, and the token is `n1`. The `k`-th block
of an encoder that starts from `start` ends in `00 q1 cc q0` with
`q = (start + k) mod 16`, counted from one; the command and `q` can be read
off, blocks less than sixteen apart differ, and none has a token. -/
theorem mailbox_commands :
    (∀ (block : List UInt8) (token : UInt8), scanAckToken block = some token ↔
      ∃ n < 16, block = commandBlock (scanWord n) ∧ token = nibbles n 1) ∧
    (∀ (command other : TransportCommand) (q r : ℕ), q < 16 → r < 16 →
      transportBlock q command = transportBlock r other → command = other ∧ q = r) ∧
    ∀ (start : UInt8) (commands : List TransportCommand),
      let blocks := mailboxBlocks (.withSequence start) commands
      blocks.length = commands.length ∧
        (∀ (k : ℕ) (command : TransportCommand), commands[k]? = some command →
          blocks[k]? = some (transportBlock ((start.toNat + (k + 1)) % 16) command)) ∧
        (∀ i j : ℕ, i < j → j < blocks.length → j < i + 16 → blocks[i]? ≠ blocks[j]?) ∧
        ∀ block ∈ blocks, block.length = 64 ∧ scanAckToken block = none := by
  refine ⟨fun _ _ => scanAckToken_eq_some, fun _ _ _ _ hq hr h => transportBlock_inj hq hr h, ?_⟩
  intro start commands blocks
  have hstart : (TransportCommandEncoder.withSequence start).sequence.toNat = start.toNat % 16 := by
    have hmask : (0x0f : UInt8).toNat = 2 ^ 4 - 1 := by decide
    rw [TransportCommandEncoder.withSequence, UInt8.toNat_and, hmask,
      Nat.and_two_pow_sub_one_eq_mod]
  have hblock : ∀ k : ℕ, blocks[k]? =
      commands[k]?.map (transportBlock ((start.toNat + (k + 1)) % 16)) := by
    intro k
    rw [getElem?_mailboxBlocks, hstart, Nat.mod_add_mod]
  have hlt : ∀ k : ℕ, (start.toNat + (k + 1)) % 16 < 16 := fun k => Nat.mod_lt _ (by decide)
  have hlength : blocks.length = commands.length := by
    simp [blocks, mailboxBlocks]
  refine ⟨hlength, ?_, ?_, ?_⟩
  · intro k command hcommand
    rw [hblock, hcommand]
    rfl
  · -- equal blocks have sequence numbers that agree modulo 16
    intro i j hij hj hnear heq
    rw [hlength] at hj
    rw [hblock, hblock, List.getElem?_eq_getElem hj, List.getElem?_eq_getElem (hij.trans hj)] at heq
    obtain ⟨-, hsequence⟩ := transportBlock_inj (hlt i) (hlt j) (Option.some.inj heq)
    omega
  · intro block hmem
    obtain ⟨k, hk, rfl⟩ := List.mem_iff_getElem.mp hmem
    have hget := hblock k
    rw [List.getElem?_eq_getElem hk, List.getElem?_eq_getElem (hlength ▸ hk)] at hget
    rw [Option.some.inj hget]
    refine ⟨?_, scanAckToken_transportBlock _ _⟩
    rw [transportBlock, List.length_append, List.length_replicate]
    rfl

end Handycam
