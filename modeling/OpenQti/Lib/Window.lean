import Mathlib.Data.List.Basic
import Mathlib.Logic.Function.Basic

/-!
# Sliding windows

A log of bounded length in an array: records are entered from index `1` up to `last`, and from then
on all entries are moved down by one before a record is entered at `last`. `Window` says which
record of the history each entry holds. The records and the entries are related by any relation, so
that entries may be changed in place between two records.
-/

namespace Window

variable {α β : Type*} {holds : α → β → Prop} {free : β → Prop} {last : Nat}
  {history : List α} {record : α} {table next : Nat → β}

/-- After `n` records the entry `p` holds the record `p + (n - last) - 1`, counted from `0`. The
other entries are free. -/
structure Slides (holds : α → β → Prop) (free : β → Prop) (last : Nat) (history : List α)
    (table : Nat → β) : Prop where
  used : ∀ (k p : Nat) (hk : k < history.length), k + 1 = p + (history.length - last) → p ≤ last →
    holds history[k] (table p)
  unused : ∀ p, p ≤ last → (p + (history.length - last) = 0 ∨ history.length < p) → free (table p)

theorem slides_nil (h : ∀ p, free (table p)) : Slides holds free last [] table where
  used := fun k _ hk => absurd hk (Nat.not_lt_zero k)
  unused := fun p _ _ => h p

/-- A record is entered while there is room. -/
theorem Slides.fill (h : Slides holds free last history table) (hroom : history.length < last)
    (hrecord : holds record (next (history.length + 1)))
    (hothers : ∀ p, p ≠ history.length + 1 → next p = table p) :
    Slides holds free last (history ++ [record]) next := by
  have hlength : (history ++ [record]).length = history.length + 1 := by simp
  constructor
  case used =>
    intro k p hk hposition hp
    rw [hlength] at hk hposition
    rw [List.getElem_append]
    split_ifs with hold
    · rw [hothers p (by omega)]
      exact h.used k p hold (by omega) hp
    · have hlast : p = history.length + 1 := by omega
      rw [hlast, List.getElem_singleton]
      exact hrecord
  case unused =>
    intro p hp hfree
    rw [hlength] at hfree
    rw [hothers p (by omega)]
    exact h.unused p hp (by omega)

/-- A record is entered after all entries have been moved. -/
theorem Slides.shift (h : Slides holds free last history table) (hfull : last ≤ history.length)
    (hrecord : holds record (next last))
    (hmoved : ∀ p, p < last → next p = table (p + 1)) :
    Slides holds free last (history ++ [record]) next := by
  have hlength : (history ++ [record]).length = history.length + 1 := by simp
  constructor
  case used =>
    intro k p hk hposition hp
    rw [hlength] at hk hposition
    rw [List.getElem_append]
    split_ifs with hold
    · rw [hmoved p (by omega)]
      exact h.used k (p + 1) hold (by omega) (by omega)
    · have hnew : p = last := by omega
      rw [hnew, List.getElem_singleton]
      exact hrecord
  case unused =>
    intro p hp hfree
    rw [hlength] at hfree
    omega

/-- The entries are changed in place. -/
theorem Slides.change (h : Slides holds free last history table)
    (hholds : ∀ p record, p ≤ last → holds record (table p) → holds record (next p))
    (hfree : ∀ p, p ≤ last → free (table p) → free (next p)) :
    Slides holds free last history next where
  used := fun k p hk hposition hp => hholds p _ hp (h.used k p hk hposition hp)
  unused := fun p hp hunused => hfree p hp (h.unused p hp hunused)

end Window
