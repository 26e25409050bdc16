import Mathlib.Data.List.Basic

/-!
# Register and mailbox commands

The camera is driven by vendor requests that read and write its registers. A
64-byte mailbox takes command words; the scan commands among them are
acknowledged in a status block by a token.
-/

namespace Handycam

/-- `COMMAND_BLOCK_INDEX`: the index of the command mailbox. -/
def commandBlockIndex : UInt16 := 0x0300

/-- `COMMAND_BLOCK_SIZE`: the size of the mailbox. -/
def commandBlockSize : ℕ := 64

/-- `COMMAND_WORD_OFFSET`: where the big-endian command word is in it. -/
def commandWordOffset : ℕ := 60

/-- `SCALE_FACTOR_INDEX`: the register of the JPEG scale factor. -/
def scaleFactorIndex : UInt16 := 0x007c

/-- The token that acknowledges a scan command: `n1` for a mailbox that is zero
up to its word `00 n9 10 n1`. -/
def scanAckToken (block : List UInt8) : Option UInt8 :=
  if block.length ≠ commandBlockSize ∨ (block.take commandWordOffset).any (· ≠ 0) then
    none
  else
    match block.drop commandWordOffset with
    | [command₀, command₁, command₂, command₃] =>
      if command₀ = 0 ∧ command₁ &&& 0x0f = 0x09 ∧ command₂ = 0x10 ∧
          command₃ = (command₁ &&& 0xf0) ||| 0x01 then
        some command₃
      else
        none
    | _ => none

/-- `ScaleFactor`: larger factors give lower quality. -/
structure ScaleFactor where
  /-- the register value -/
  value : UInt8
  /-- `ScaleFactor::MIN` -/
  min_le : 4 ≤ value
  /-- `ScaleFactor::MAX` -/
  le_max : value ≤ 128

end Handycam
