import Mathlib.Logic.Function.Basic
import OpenQti.Lib.Bytes
import OpenQti.Lib.Text

/-!
# Arrays of characters

An array of fixed size is a memory of which the first `capacity` bytes may be stored to; a
store behind them is an `Overflow`. A string in an array is the bytes before the first 0, and
there is none if the array holds no 0.
-/

namespace Buffer

/-- A store past the end of an array. -/
structure Overflow where
  capacity : Nat
  index : Nat
  deriving DecidableEq, Repr

/-- `array[i] = value`. -/
def put (capacity : Nat) (array : Bytes) (i : Nat) (value : UInt8) : Except Overflow Bytes :=
  if i < capacity then .ok (Function.update array i value) else .error ⟨capacity, i⟩

/-- Bytes that are stored one after the other, from an index on. -/
def putAll (capacity : Nat) (array : Bytes) (i : Nat) : List UInt8 → Except Overflow Bytes
  | [] => .ok array
  | value :: rest => do
      let array ← put capacity array i value
      putAll capacity array (i + 1) rest

/-- `strncpy(array, text, n)`, which fills up with zeros after a text of fewer bytes. -/
def strncpy (capacity : Nat) (text : List UInt8) (n : Nat) (array : Bytes) :
    Except Overflow Bytes :=
  (List.range n).foldlM (fun array k => put capacity array k (text.getD k 0)) array

/-- `memcpy(array, source, n)`. -/
def memcpy (capacity : Nat) (source : Bytes) (n : Nat) (array : Bytes) : Except Overflow Bytes :=
  if n ≤ capacity then .ok fun k => if k < n then source k else array k
  else .error ⟨capacity, capacity⟩

/-- `snprintf(array, n, …)`, for the text that it is asked for. -/
def snprintf (capacity n : Nat) (text : List UInt8) (array : Bytes) : Except Overflow Bytes :=
  if n = 0 then .ok array else putAll capacity array 0 (text.take (n - 1) ++ [0])

/-- The string in an array, if it is terminated there. -/
def string (capacity : Nat) (array : Bytes) : Option (List UInt8) :=
  let text := ((List.range capacity).map array).takeWhile (· ≠ 0)
  if text.length < capacity then some text else none

variable {capacity n : Nat} {array : Bytes} {text : List UInt8}

/-- A byte is stored behind those that have been stored. -/
theorem update_ofList (bytes : List UInt8) (value : UInt8) :
    Function.update (Bytes.ofList bytes) bytes.length value = Bytes.ofList (bytes ++ [value]) := by
  funext i
  by_cases hlast : i = bytes.length
  · simp [hlast, Bytes.ofList]
  · rw [Function.update_of_ne hlast]
    simp only [Bytes.ofList, List.getD_eq_getElem?_getD]
    by_cases hlt : i < bytes.length
    · rw [List.getElem?_append_left hlt]
    · have hbehind : (bytes ++ [value]).length ≤ i := by
        rw [List.length_append, List.length_singleton]
        omega
      rw [List.getElem?_eq_none (by omega), List.getElem?_eq_none hbehind]

/-- An array is filled from its start: what is stored is appended, if it fits. -/
theorem put_all_ofList (bytes data : List UInt8) (hinside : bytes.length ≤ capacity) :
    putAll capacity (Bytes.ofList bytes) bytes.length data =
      if bytes.length + data.length ≤ capacity then .ok (Bytes.ofList (bytes ++ data))
      else .error ⟨capacity, capacity⟩ := by
  induction data generalizing bytes with
  | nil => simp [putAll, hinside]
  | cons value rest ih =>
      rw [putAll, put, List.length_cons]
      by_cases hroom : bytes.length < capacity
      · have hnext : (bytes ++ [value]).length = bytes.length + 1 := by simp
        have hrest := ih (bytes ++ [value]) (by omega)
        rw [hnext, List.append_assoc, List.singleton_append, ← update_ofList] at hrest
        rw [if_pos hroom, show bytes.length + (rest.length + 1) = bytes.length + 1 + rest.length by
          omega]
        exact hrest
      · have hfull : bytes.length = capacity := by omega
        rw [if_neg hroom, if_neg (by omega), hfull]
        rfl

/-- What is stored inside an array stands there, and nothing else changes. -/
theorem put_all_spec (array : Bytes) (data : List UInt8) {i : Nat}
    (hfits : i + data.length ≤ capacity) :
    ∃ result, putAll capacity array i data = .ok result ∧ result.Holds i data ∧
      ∀ j, j < i ∨ i + data.length ≤ j → result j = array j := by
  induction data generalizing array i with
  | nil => exact ⟨array, rfl, Bytes.holds_nil _ _, fun _ _ => rfl⟩
  | cons value rest ih =>
      rw [List.length_cons] at hfits
      obtain ⟨result, hput, hholds, hframe⟩ :=
        ih (Function.update array i value) (by omega : i + 1 + rest.length ≤ capacity)
      refine ⟨result, ?_, Bytes.holds_cons.2 ⟨?_, hholds⟩, fun j hj => ?_⟩
      · rw [putAll, put, if_pos (by omega)]
        exact hput
      · rw [hframe i (.inl (Nat.lt_succ_self i)), Function.update_self]
      · rw [List.length_cons] at hj
        rw [hframe j (by omega), Function.update_of_ne (by omega)]

/-- The front of an array after a store: what was there up to the store, and what was stored. -/
theorem put_all_front (array : Bytes) (data : List UInt8) {i : Nat}
    (hfits : i + data.length ≤ capacity) :
    ∃ result, putAll capacity array i data = .ok result ∧
      (List.range (i + data.length)).map result = (List.range i).map array ++ data := by
  obtain ⟨result, hput, hholds, hframe⟩ := put_all_spec array data hfits
  refine ⟨result, hput, ?_⟩
  rw [List.range_add, List.map_append, List.map_map]
  congr 1
  · exact List.map_congr_left fun j hj => hframe j (.inl (List.mem_range.1 hj))
  · refine List.ext_getElem (by simp) fun k hk _ => ?_
    rw [List.getElem_map, List.getElem_range]
    exact hholds k (by simpa using hk)

/-- Bytes that do not fit are stored behind the array. -/
theorem put_all_overflow (array : Bytes) {data : List UInt8} {i : Nat} (hne : data ≠ [])
    (hlong : capacity < i + data.length) :
    ∃ fault, putAll capacity array i data = .error fault := by
  induction data generalizing array i with
  | nil => exact absurd rfl hne
  | cons value rest ih =>
      rw [putAll, put]
      rw [List.length_cons] at hlong
      by_cases hroom : i < capacity
      · rw [if_pos hroom]
        refine ih _ ?_ (by omega)
        rintro rfl
        rw [List.length_nil] at hlong
        omega
      · rw [if_neg hroom]
        exact ⟨_, rfl⟩

theorem strncpy_eq (text : List UInt8) (array : Bytes) (hfits : n ≤ capacity) :
    strncpy capacity text n array = .ok fun k => if k < n then text.getD k 0 else array k := by
  unfold strncpy
  induction n with
  | zero => rfl
  | succ n ih =>
      rw [List.range_succ, List.foldlM_append, ih (Nat.le_of_succ_le hfits)]
      simp only [bind, Except.bind, List.foldlM_cons, List.foldlM_nil, put,
        if_pos (Nat.lt_of_succ_le hfits)]
      refine congrArg Except.ok (funext fun k => ?_)
      by_cases hk : k = n
      · rw [hk, Function.update_self, if_pos (Nat.lt_succ_self n)]
      · rw [Function.update_of_ne hk]
        by_cases hlt : k < n
        · rw [if_pos hlt, if_pos (by omega)]
        · rw [if_neg hlt, if_neg (by omega)]

/-- The first bytes of an array are those of a string and its terminator. -/
theorem map_range_eq (hlength : text.length < capacity) (htext : array.Holds 0 text)
    (hend : array text.length = 0) :
    (List.range capacity).map array =
      text ++ 0 :: ((List.range capacity).map array).drop (text.length + 1) := by
  have htake : ((List.range capacity).map array).take text.length = text := by
    refine List.ext_getElem (by simp; omega) fun k hk _ => ?_
    rw [List.getElem_take, List.getElem_map, List.getElem_range, ← htext k (by simp at hk; omega),
      Nat.zero_add]
  conv_lhs => rw [← List.take_append_drop text.length ((List.range capacity).map array)]
  rw [htake, List.drop_eq_getElem_cons (by simpa using hlength), List.getElem_map,
    List.getElem_range, hend]

/-- The bytes of an array up to the first 0, and the byte that they end at. -/
theorem take_while_spec (capacity : Nat) (array : Bytes) :
    array.Holds 0 (((List.range capacity).map array).takeWhile (· ≠ 0)) ∧
      ((((List.range capacity).map array).takeWhile (· ≠ 0)).length < capacity →
        array (((List.range capacity).map array).takeWhile (· ≠ 0)).length = 0) := by
  have hparts := List.takeWhile_append_dropWhile (p := fun b : UInt8 => decide (b ≠ 0))
    (l := (List.range capacity).map array)
  have hstop := List.head?_dropWhile_not (fun b : UInt8 => decide (b ≠ 0))
    ((List.range capacity).map array)
  generalize ((List.range capacity).map array).takeWhile (· ≠ 0) = text at *
  generalize ((List.range capacity).map array).dropWhile (· ≠ 0) = rest at *
  have htotal : text.length + rest.length = capacity := by
    simpa using congrArg List.length hparts
  have hget : ∀ k < capacity, (text ++ rest)[k]? = some (array k) := by
    intro k hk
    rw [hparts]
    simp [hk]
  refine ⟨fun k hk => ?_, fun hlength => ?_⟩
  · have hbyte := hget k (by omega)
    rw [List.getElem?_append_left hk, List.getElem?_eq_getElem hk, Option.some.injEq] at hbyte
    rw [Nat.zero_add, hbyte]
  · have hbyte := hget _ hlength
    rw [List.getElem?_append_right (Nat.le_refl _), Nat.sub_self] at hbyte
    cases rest with
    | nil => simp at hbyte
    | cons b rest =>
        rw [List.getElem?_cons_zero, Option.some.injEq] at hbyte
        rw [← hbyte]
        simpa using hstop

/-- What stands before a terminator is read. -/
theorem take_while_eq (hlength : text.length < capacity) (hclean : 0 ∉ text)
    (htext : array.Holds 0 text) (hend : array text.length = 0) :
    ((List.range capacity).map array).takeWhile (· ≠ 0) = text := by
  rw [map_range_eq hlength htext hend, Text.take_while_append hclean,
    List.takeWhile_cons_of_neg (by simp), List.append_nil]

/-- A string is what stands before a terminator. -/
theorem string_eq_some_iff :
    string capacity array = some text ↔
      text.length < capacity ∧ 0 ∉ text ∧ array.Holds 0 text ∧ array text.length = 0 := by
  simp only [string]
  constructor
  · intro h
    split_ifs at h with hlength
    cases h
    obtain ⟨htext, hend⟩ := take_while_spec capacity array
    exact ⟨hlength, Text.zero_not_mem_take_while _, htext, hend hlength⟩
  · rintro ⟨hlength, hclean, htext, hend⟩
    rw [take_while_eq hlength hclean htext hend, if_pos hlength]

/-- `snprintf` leaves the text, as far as it fits, with its terminator. -/
theorem snprintf_spec (text : List UInt8) (array : Bytes) (hpos : 0 < n) (hfits : n ≤ capacity)
    (hclean : 0 ∉ text) :
    ∃ result, snprintf capacity n text array = .ok result ∧
      string capacity result = some (text.take (n - 1)) ∧
      ∀ j, (text.take (n - 1)).length < j → result j = array j := by
  have hlength : (text.take (n - 1) ++ [0]).length = (text.take (n - 1)).length + 1 := by simp
  have hshort : (text.take (n - 1)).length ≤ n - 1 := List.length_take_le _ _
  obtain ⟨result, hput, hholds, hframe⟩ :=
    put_all_spec array (text.take (n - 1) ++ [0]) (i := 0) (by omega : _ ≤ capacity)
  rw [Bytes.holds_append, Bytes.holds_cons, Nat.zero_add] at hholds
  refine ⟨result, ?_, ?_, fun j hj => hframe j (by omega)⟩
  · rw [snprintf, if_neg (by omega), hput]
  · exact string_eq_some_iff.2 ⟨by omega, fun h => hclean (List.mem_of_mem_take h), hholds.1,
      hholds.2.1⟩

end Buffer
