import Mathlib.Data.List.Basic

/-!
# Streams of self-delimiting items

An item reader takes one item off the front of a stream and returns what is
left. `readAll` repeats it until the stream is used up. If the reader undoes a
writer in front of what follows, `readAll` undoes the concatenation of what the
writer wrote: the stream splits in one way only (`readAll_flatMap`).
-/

namespace Framing

universe u v

variable {α : Type u} {β : Type v}

/-- `readAll` with a bound on the number of items. -/
def readUpTo (read : List α → Option (β × List α)) : ℕ → List α → Option (List β)
  | _, [] => some []
  | 0, _ :: _ => none
  | fuel + 1, a :: stream =>
    match read (a :: stream) with
    | none => none
    | some (item, rest) => (readUpTo read fuel rest).map (item :: ·)

/-- Read items until nothing is left. An item takes one symbol at least, so
the length of the stream bounds their number. -/
def readAll (read : List α → Option (β × List α)) (stream : List α) : Option (List β) :=
  readUpTo read stream.length stream

variable {read : List α → Option (β × List α)}

@[simp] theorem readUpTo_nil (fuel : ℕ) : readUpTo read fuel [] = some [] := by
  cases fuel <;> rfl

theorem readUpTo_some {fuel : ℕ} {stream rest : List α} {item : β} (hne : stream ≠ [])
    (h : read stream = some (item, rest)) :
    readUpTo read (fuel + 1) stream = (readUpTo read fuel rest).map (item :: ·) := by
  obtain ⟨a, tail, rfl⟩ := List.exists_cons_of_ne_nil hne
  rw [readUpTo, h]

/-- The items written one after another are read back, given a turn for each.
The reader only has to undo the writer in front of what follows the item. -/
theorem readUpTo_flatMap {ι : Type*} {write : ι → List α} {item : ι → β} {items : List ι}
    (hread : ∀ i tail, i :: tail <:+ items →
      read (write i ++ tail.flatMap write) = some (item i, tail.flatMap write))
    (hwrite : ∀ i ∈ items, write i ≠ []) {fuel : ℕ} (hfuel : items.length ≤ fuel) :
    readUpTo read fuel (items.flatMap write) = some (items.map item) := by
  induction items generalizing fuel with
  | nil => exact readUpTo_nil fuel
  | cons i items ih =>
    obtain ⟨fuel, rfl⟩ : ∃ n, fuel = n + 1 := ⟨fuel - 1, by simp at hfuel; omega⟩
    have hi : write i ++ items.flatMap write ≠ [] := by simp [hwrite i]
    have hrest := ih (fun j tail hj => hread j tail (hj.trans (List.suffix_cons i items)))
      (fun j hj => hwrite j (List.mem_cons_of_mem _ hj)) (Nat.le_of_succ_le_succ hfuel)
    rw [List.flatMap_cons, readUpTo_some hi (hread i items List.suffix_rfl), hrest]
    rfl

/-- **A prefix code.** If a reader finds two written items whatever follows
them, neither is written at the start of the other. -/
theorem prefixFree_of_read {first second : List α} {item other : β}
    (hfirst : ∀ rest, read (first ++ rest) = some (item, rest))
    (hsecond : ∀ rest, read (second ++ rest) = some (other, rest)) (h : first <+: second) :
    item = other ∧ first = second := by
  obtain ⟨more, rfl⟩ := h
  have hread := hsecond []
  rw [List.append_nil, hfirst more] at hread
  obtain ⟨hitem, hmore⟩ := Prod.mk.inj (Option.some.inj hread)
  refine ⟨hitem, ?_⟩
  rw [hmore, List.append_nil]

theorem length_le_flatMap {ι : Type*} {write : ι → List α} {items : List ι}
    (hwrite : ∀ i ∈ items, write i ≠ []) : items.length ≤ (items.flatMap write).length := by
  induction items with
  | nil => exact Nat.zero_le _
  | cons i items ih =>
    have hi : 0 < (write i).length := List.length_pos_iff.mpr (hwrite i (List.mem_cons_self ..))
    have hrest := ih fun j hj => hwrite j (List.mem_cons_of_mem _ hj)
    rw [List.flatMap_cons, List.length_append, List.length_cons]
    omega

/-- **Splitting a stream.** A reader that undoes the writer in front of what
follows splits the written stream into its items. -/
theorem readAll_flatMap {ι : Type*} {write : ι → List α} {item : ι → β} {items : List ι}
    (hread : ∀ i tail, i :: tail <:+ items →
      read (write i ++ tail.flatMap write) = some (item i, tail.flatMap write))
    (hwrite : ∀ i ∈ items, write i ≠ []) :
    readAll read (items.flatMap write) = some (items.map item) :=
  readUpTo_flatMap hread hwrite (length_le_flatMap hwrite)

end Framing
