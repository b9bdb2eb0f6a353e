import Mathlib.Algebra.Group.Nat.Defs
import Mathlib.Data.List.Basic

/-!
# Bytes behind a pointer

A `Bytes` is what memory holds from some address on. A packet of `len` bytes is its first
`len` entries; the entries behind them are whatever the enclosing buffer holds there, so a
read past the end of the packet has a value, too, but not one the packet determines.

`Holds` relates such a memory to a byte string, and `le16` and `le32` read the packed
little-endian integers that C structures overlay on it.
-/

/-- The bytes found at a pointer and behind it. -/
abbrev Bytes := Nat → UInt8

namespace Bytes

/-- The memory whose first bytes are `data`, with `0` behind them. -/
def ofList (data : List UInt8) : Bytes := fun i => data.getD i 0

/-- The little-endian 16-bit integer at an offset. -/
def le16 (bytes : Bytes) (offset : Nat) : Nat :=
  (bytes offset).toNat + 256 * (bytes (offset + 1)).toNat

/-- The little-endian 32-bit integer at an offset. -/
def le32 (bytes : Bytes) (offset : Nat) : Nat :=
  le16 bytes offset + 65536 * le16 bytes (offset + 2)

/-- The memory holds the byte string `data` at `offset`. -/
def Holds (bytes : Bytes) (offset : Nat) (data : List UInt8) : Prop :=
  ∀ i (h : i < data.length), bytes (offset + i) = data[i]

/-- The bytes of a part of a memory. -/
theorem ofList_map_range (bytes : Bytes) {n i : Nat} (h : i < n) :
    ofList ((List.range n).map bytes) i = bytes i := by
  simp [ofList, h]

theorem holds_ofList (data : List UInt8) : Holds (ofList data) 0 data := by
  intro i h
  rw [Nat.zero_add, ofList, List.getD_eq_getElem?_getD, List.getElem?_eq_getElem h,
    Option.getD_some]

theorem holds_nil (bytes : Bytes) (offset : Nat) : Holds bytes offset [] := by
  intro i h
  simp at h

theorem holds_cons {bytes : Bytes} {offset : Nat} {byte : UInt8} {data : List UInt8} :
    Holds bytes offset (byte :: data) ↔
      bytes offset = byte ∧ Holds bytes (offset + 1) data := by
  constructor
  · intro h
    refine ⟨h 0 (by simp), fun i hi => ?_⟩
    have hnext := h (i + 1) (by simpa using hi)
    rw [show offset + 1 + i = offset + (i + 1) by omega]
    simpa using hnext
  · rintro ⟨hhead, htail⟩ i hi
    cases i with
    | zero => simpa using hhead
    | succ i =>
        have hnext := htail i (by simpa using hi)
        rw [show offset + 1 + i = offset + (i + 1) by omega] at hnext
        simpa using hnext

theorem holds_append {bytes : Bytes} {offset : Nat} {first rest : List UInt8} :
    Holds bytes offset (first ++ rest) ↔
      Holds bytes offset first ∧ Holds bytes (offset + first.length) rest := by
  induction first generalizing offset with
  | nil => simp [holds_nil]
  | cons byte first ih =>
      simp only [List.cons_append, holds_cons, ih, List.length_cons, and_assoc]
      rw [show offset + 1 + first.length = offset + (first.length + 1) by omega]

/-- A byte string stays where the memory does not change. -/
theorem Holds.congr {bytes other : Bytes} {offset : Nat} {data : List UInt8}
    (h : Holds bytes offset data)
    (hsame : ∀ i < data.length, other (offset + i) = bytes (offset + i)) :
    Holds other offset data := by
  intro i hi
  rw [hsame i hi]
  exact h i hi

end Bytes
