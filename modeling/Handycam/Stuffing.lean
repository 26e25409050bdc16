import Mathlib.Data.List.Basic

/-!
# Symbol stuffing

A stuffed stream carries arbitrary data next to in-band markers: every escape
symbol `esc` of the data is followed by the filler `pad`, and a marker is an
escape symbol followed by anything else. This file has the writer (`stuff`),
the reader of the data up to the first marker (`scan`), and the fact that the
reader undoes the writer and finds no marker inside the data (`scan_stuff`).
-/

namespace Stuffing

universe u

variable {α : Type u} [DecidableEq α]

/-- Put `pad` after every `esc`. -/
def stuff (esc pad : α) (data : List α) : List α :=
  data.flatMap fun a => if a = esc then [esc, pad] else [a]

/-- Read stuffed data up to the first marker. The result is the data with the
filler removed, the symbol that makes the marker, and what follows it. There
is none when the stream ends before a marker. -/
def scan (esc pad : α) : List α → Option (List α × α × List α)
  | [] => none
  | [_] => none
  | a :: b :: rest =>
    if a = esc then
      if b = pad then (scan esc pad rest).map fun r => (esc :: r.1, r.2)
      else some ([], b, rest)
    else (scan esc pad (b :: rest)).map fun r => (a :: r.1, r.2)

variable {esc pad : α}

@[simp] theorem stuff_nil : stuff esc pad [] = [] := rfl

theorem stuff_cons_esc (data : List α) :
    stuff esc pad (esc :: data) = esc :: pad :: stuff esc pad data := by
  simp [stuff]

theorem stuff_cons_ne {a : α} (h : a ≠ esc) (data : List α) :
    stuff esc pad (a :: data) = a :: stuff esc pad data := by
  simp [stuff, h]

theorem scan_esc_pad (rest : List α) :
    scan esc pad (esc :: pad :: rest) = (scan esc pad rest).map fun r => (esc :: r.1, r.2) := by
  simp [scan]

theorem scan_marker {code : α} (h : code ≠ pad) (rest : List α) :
    scan esc pad (esc :: code :: rest) = some ([], code, rest) := by
  simp [scan, h]

theorem scan_cons_ne {a : α} (h : a ≠ esc) (rest : List α) :
    scan esc pad (a :: rest) = (scan esc pad rest).map fun r => (a :: r.1, r.2) := by
  cases rest with
  | nil => simp [scan]
  | cons b rest => simp [scan, h]

/-- **Unstuffing.** The reader recovers any data, stops at the marker after it
and at none before, and leaves the rest of the stream alone. -/
theorem scan_stuff {code : α} (hcode : code ≠ pad) (data rest : List α) :
    scan esc pad (stuff esc pad data ++ esc :: code :: rest) = some (data, code, rest) := by
  induction data with
  | nil => exact scan_marker hcode rest
  | cons a data ih =>
    by_cases ha : a = esc
    · subst ha
      rw [stuff_cons_esc, List.cons_append, List.cons_append, scan_esc_pad, ih]
      rfl
    · rw [stuff_cons_ne ha, List.cons_append, scan_cons_ne ha, ih]
      rfl

end Stuffing
