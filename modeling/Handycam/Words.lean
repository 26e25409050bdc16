import Mathlib

/-!
# Saturating words

Arithmetic of 64-bit words that stops at the ends of the range, each operation
next to its meaning on numbers.
-/

namespace UInt64

/-- `checked_sub`. -/
def checkedSub (a b : UInt64) : Option UInt64 := if b ≤ a then some (a - b) else none

/-- `saturating_sub`. -/
def saturatingSub (a b : UInt64) : UInt64 := (a.checkedSub b).getD 0

/-- `saturating_add`. -/
def saturatingAdd (a b : UInt64) : UInt64 := ofNatClamp (a.toNat + b.toNat)

/-- `saturating_mul`. -/
def saturatingMul (a b : UInt64) : UInt64 := ofNatClamp (a.toNat * b.toNat)

theorem toNat_ofNatClamp (n : ℕ) : (ofNatClamp n).toNat = min n (2 ^ 64 - 1) := by
  rcases Nat.lt_or_ge n size with h | h
  · rw [toNat_ofNatClamp_of_lt h]
    exact (Nat.min_eq_left (Nat.le_pred_of_lt h)).symm
  · rw [toNat_ofNatClamp_of_le h]
    exact (Nat.min_eq_right (Nat.le_trans (Nat.pred_le _) h)).symm

theorem toNat_saturatingAdd (a b : UInt64) :
    (a.saturatingAdd b).toNat = min (a.toNat + b.toNat) (2 ^ 64 - 1) := toNat_ofNatClamp _

theorem toNat_saturatingMul (a b : UInt64) :
    (a.saturatingMul b).toNat = min (a.toNat * b.toNat) (2 ^ 64 - 1) := toNat_ofNatClamp _

theorem checkedSub_eq_some {a b c : UInt64} :
    a.checkedSub b = some c ↔ b.toNat ≤ a.toNat ∧ c.toNat = a.toNat - b.toNat := by
  rw [checkedSub]
  by_cases h : b ≤ a
  · rw [if_pos h, Option.some_inj, ← UInt64.toNat_inj, UInt64.toNat_sub_of_le a b h, eq_comm]
    exact (and_iff_right (le_iff_toNat_le.mp h)).symm
  · rw [if_neg h]
    exact iff_of_false (by simp) fun hc => h (le_iff_toNat_le.mpr hc.1)

theorem checkedSub_eq_none {a b : UInt64} : a.checkedSub b = none ↔ a.toNat < b.toNat := by
  rw [checkedSub]
  by_cases h : b ≤ a
  · exact iff_of_false (by simp [h]) (Nat.not_lt.mpr (le_iff_toNat_le.mp h))
  · exact iff_of_true (by simp [h]) (Nat.lt_of_not_le fun hle => h (le_iff_toNat_le.mpr hle))

theorem toNat_saturatingSub (a b : UInt64) :
    (a.saturatingSub b).toNat = a.toNat - b.toNat := by
  rw [saturatingSub]
  rcases h : a.checkedSub b with _ | c
  · exact (Nat.sub_eq_zero_of_le (Nat.le_of_lt (checkedSub_eq_none.mp h))).symm
  · exact (checkedSub_eq_some.mp h).2

end UInt64
