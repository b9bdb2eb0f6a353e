import Mathlib.Data.List.Basic
import Mathlib.Logic.Function.Basic

/-!
# Arrays of slots

An array in which some slots are in use, scanned from the first slot on. `contents` lists what the
slots in use hold, in the order of the array. A slot that is written splits the list into what is
before it and what is behind it, and the first slot that a scan finds has nothing before it.
-/

namespace Slots

variable {β : Type*} {used : β → Bool} {n i : Nat} {table : Nat → β} {value : β}

/-- What the slots in use among the first `n` hold. -/
def contents (used : β → Bool) (n : Nat) (table : Nat → β) : List β :=
  ((List.range n).map table).filter used

/-- What the slots in use behind slot `i` hold. -/
def behind (used : β → Bool) (n : Nat) (table : Nat → β) (i : Nat) : List β :=
  ((List.range' (i + 1) (n - (i + 1))).map table).filter used

/-- The contents before a slot, in it and behind it. -/
theorem contents_eq (h : i < n) :
    contents used n table = contents used i table ++ [table i].filter used ++
      behind used n table i := by
  have hrange : List.range n = List.range i ++ [i] ++ List.range' (i + 1) (n - (i + 1)) := by
    have hsplit := List.range'_append_1 (s := 0) (m := i + 1) (n := n - (i + 1))
    rw [Nat.zero_add, Nat.add_sub_cancel' h, ← List.range_eq_range', ← List.range_eq_range',
      List.range_succ] at hsplit
    exact hsplit.symm
  rw [contents, hrange, List.map_append, List.map_append, List.filter_append, List.filter_append]
  rfl

theorem contents_congr {other : Nat → β} (h : ∀ j, j < n → table j = other j) :
    contents used n table = contents used n other := by
  rw [contents, contents, List.map_congr_left fun j hj => h j (List.mem_range.1 hj)]

theorem behind_update :
    behind used n (Function.update table i value) i = behind used n table i := by
  refine congrArg (List.filter used) (List.map_congr_left fun j hj => ?_)
  have hlt := (List.mem_range'_1.1 hj).1
  exact Function.update_of_ne (by omega) _ _

/-- The contents after a slot has been written. -/
theorem contents_update (h : i < n) :
    contents used n (Function.update table i value) =
      contents used i table ++ [value].filter used ++ behind used n table i := by
  rw [contents_eq h, Function.update_self, behind_update,
    contents_congr fun j hj => Function.update_of_ne (Nat.ne_of_lt hj) _ _]

theorem contents_eq_nil (h : ∀ j, j < n → used (table j) = false) : contents used n table = [] := by
  rw [contents, List.filter_eq_nil_iff]
  intro value hvalue
  obtain ⟨j, hj, rfl⟩ := List.mem_map.1 hvalue
  simp [h j (List.mem_range.1 hj)]

theorem length_contents (h : ∀ j, j < n → used (table j)) : (contents used n table).length = n := by
  rw [contents, List.filter_eq_self.2, List.length_map, List.length_range]
  intro value hvalue
  obtain ⟨j, hj, rfl⟩ := List.mem_map.1 hvalue
  exact h j (List.mem_range.1 hj)

/-- What all slots have, and what is written has as well. -/
theorem forall_update (holds : β → Prop) (h : ∀ j, j < n → holds (table j))
    (hvalue : holds value) : ∀ j, j < n → holds (Function.update table i value j) := by
  intro j hj
  by_cases hji : j = i
  · rw [hji, Function.update_self]
    exact hvalue
  · rw [Function.update_of_ne hji]
    exact h j hj

/-- The contents stay if every slot does that is in use, before or after. -/
theorem contents_same {other : Nat → β}
    (h : ∀ j, j < n → other j = table j ∨ used (other j) = false ∧ used (table j) = false) :
    contents used n other = contents used n table := by
  induction n with
  | zero => rfl
  | succ n ih =>
      have hfront := ih fun j hj => h j (Nat.lt_succ_of_lt hj)
      simp only [contents, List.range_succ, List.map_append, List.filter_append] at hfront ⊢
      rw [hfront]
      congr 1
      rcases h n (Nat.lt_succ_self n) with hsame | ⟨hother, htable⟩
      · rw [List.map_singleton, List.map_singleton, hsame]
      · rw [List.map_singleton, List.map_singleton, List.filter_singleton, List.filter_singleton,
          hother, htable]
        rfl

/-- Not all slots are in use if one of them is free. -/
theorem length_contents_lt (h : i < n) (hfree : used (table i) = false) :
    (contents used n table).length < n := by
  have hbefore : (contents used i table).length ≤ i := by
    refine Nat.le_trans (List.length_filter_le _ _) (Nat.le_of_eq ?_)
    rw [List.length_map, List.length_range]
  have hbehind : (behind used n table i).length ≤ n - (i + 1) := by
    refine Nat.le_trans (List.length_filter_le _ _) (Nat.le_of_eq ?_)
    rw [List.length_map, List.length_range']
  rw [contents_eq h, List.filter_singleton, hfree]
  simp only [List.length_append, Bool.cond_false, List.length_nil]
  omega

/-- A free slot is taken. -/
theorem length_contents_take (h : i < n) (hfree : used (table i) = false) (hvalue : used value) :
    (contents used n (Function.update table i value)).length =
      (contents used n table).length + 1 := by
  rw [contents_update h, contents_eq h, List.filter_singleton, List.filter_singleton,
    hfree, hvalue]
  simp only [List.length_append, Bool.cond_false, Bool.cond_true, List.length_nil, List.length_cons]
  omega

/-- A slot in use is given back. -/
theorem length_contents_release (h : i < n) (hused : used (table i)) (hvalue : used value = false) :
    (contents used n (Function.update table i value)).length + 1 =
      (contents used n table).length := by
  rw [contents_update h, contents_eq h, List.filter_singleton, List.filter_singleton,
    hused, hvalue]
  simp only [List.length_append, Bool.cond_false, Bool.cond_true, List.length_nil, List.length_cons]
  omega

/-- The slot that a scan from the first one on finds. -/
theorem find_some {found : Nat → Bool} (h : (List.range n).find? found = some i) :
    i < n ∧ found i ∧ ∀ j, j < i → found j = false := by
  obtain ⟨hfound, hi, hbefore⟩ := List.find?_range_eq_some.1 h
  exact ⟨List.mem_range.1 hi, hfound, fun j hj => by simpa using hbefore j hj⟩

/-- A scan that finds nothing. -/
theorem find_none {found : Nat → Bool} (h : (List.range n).find? found = none) {j : Nat}
    (hj : j < n) : found j = false := by
  simpa using List.find?_eq_none.1 h j (List.mem_range.2 hj)

/-- The contents of a table in which the scan for a slot in use ends at slot `i`. -/
theorem contents_of_first (h : (List.range n).find? (fun j => used (table j)) = some i) :
    contents used n table = table i :: behind used n table i ∧ contents used i table = [] := by
  obtain ⟨hi, hused, hbefore⟩ := find_some h
  have hfront : contents used i table = [] := contents_eq_nil hbefore
  rw [contents_eq hi, hfront]
  simp [hused]

/-! ## Sweeps -/

/-- Each of the first `n` slots is rewritten if it is affected, one after the other. -/
def sweep (affected : β → Bool) (rewrite : β → β) (n : Nat) (table : Nat → β) : Nat → β :=
  (List.range n).foldl
    (fun table j =>
      if affected (table j) then Function.update table j (rewrite (table j)) else table) table

/-- The slots after a sweep. -/
theorem sweep_apply (affected : β → Bool) (rewrite : β → β) (j : Nat) :
    sweep affected rewrite n table j =
      if j < n ∧ affected (table j) then rewrite (table j) else table j := by
  induction n generalizing j with
  | zero => simp [sweep]
  | succ n ih =>
      have hlast : sweep affected rewrite (n + 1) table =
          if affected (sweep affected rewrite n table n) then
            Function.update (sweep affected rewrite n table) n
              (rewrite (sweep affected rewrite n table n))
          else sweep affected rewrite n table := by
        rw [sweep, List.range_succ, List.foldl_append]
        rfl
      have hsame : sweep affected rewrite n table n = table n := by
        rw [ih, if_neg fun h => Nat.lt_irrefl n h.1]
      rw [hlast, hsame]
      by_cases hj : j = n
      · rw [hj]
        by_cases haffected : affected (table n)
        · rw [if_pos haffected, Function.update_self, if_pos ⟨Nat.lt_succ_self n, haffected⟩]
        · rw [if_neg haffected, hsame, if_neg fun h => haffected h.2]
      · have hlt : j < n + 1 ↔ j < n := by omega
        simp only [hlt]
        rw [← ih]
        split_ifs
        · exact Function.update_of_ne hj _ _
        · rfl

end Slots
