import OpenQti.Lib.Text
import OpenQti.Nas.Reports
import OpenQti.Qmi.Tlv

/-!
# The location of the serving cell

`update_cell_location_information` takes the TLVs of a message of the baseband one by one, notes the
network that they report, and hands what it has found to `process_current_network_data`. This module
translates it, with the country code and the network code of the current network that are kept between
messages.

TLVs that are only written to the log are looked up but not read. The database of OpenCellid, which is
opened for another network before the TLVs are read, is left out.
-/

namespace OpenQti.Nas

open Bytes Qmi Text

/-- The TLVs of `NAS_GET_CELL_LOCATION_INFO`. -/
inductive CellLacInfo where
  | cellId
  | umtsCellInfo
  | cdmaCellInfo
  | lteIntraInfo
  | lteInterInfo
  | lteInfoNeighbourGsm
  | lteInfoNeighbourWcdma
  | umtsCellId
  | wcdmaInfoLteNeighbour
  | cdmaRxInfo
  | hdrRxInfo
  | gsmCellInfoExtended
  | wcdmaCellInfoExtended
  | wcdmaGsmNeighbourCellExtended
  | lteInfoTimingAdv
  | wcdmaInfoActiveSet
  | wcdmaActiveSetRefRadioLink
  | extendedGeranInfo
  | umtsExtendedInfo
  | wcdmaExtendedInfoAs
  | scellGeranConf
  | currentL1Timeslot
  | dopplerMeasurementHz
  | lteInfoExtendedIntraEarfcn
  | lteInfoExtendedInterEarfcn
  | wcdmaInfoExtendedLteNeighbourEarfcn
  | nasInfoEmmState
  | nasRrcState
  | lteInfoRrcState
  deriving DecidableEq, Repr

def CellLacInfo.code : CellLacInfo → UInt8
  | .cellId => 0x10
  | .umtsCellInfo => 0x11
  | .cdmaCellInfo => 0x12
  | .lteIntraInfo => 0x13
  | .lteInterInfo => 0x14
  | .lteInfoNeighbourGsm => 0x15
  | .lteInfoNeighbourWcdma => 0x16
  | .umtsCellId => 0x17
  | .wcdmaInfoLteNeighbour => 0x18
  | .cdmaRxInfo => 0x19
  | .hdrRxInfo => 0x1a
  | .gsmCellInfoExtended => 0x1b
  | .wcdmaCellInfoExtended => 0x1c
  | .wcdmaGsmNeighbourCellExtended => 0x1d
  | .lteInfoTimingAdv => 0x1e
  | .wcdmaInfoActiveSet => 0x1f
  | .wcdmaActiveSetRefRadioLink => 0x20
  | .extendedGeranInfo => 0x21
  | .umtsExtendedInfo => 0x22
  | .wcdmaExtendedInfoAs => 0x23
  | .scellGeranConf => 0x24
  | .currentL1Timeslot => 0x25
  | .dopplerMeasurementHz => 0x26
  | .lteInfoExtendedIntraEarfcn => 0x27
  | .lteInfoExtendedInterEarfcn => 0x28
  | .wcdmaInfoExtendedLteNeighbourEarfcn => 0x29
  | .nasInfoEmmState => 0x2a
  | .nasRrcState => 0x2c
  | .lteInfoRrcState => 0x2d

/-- `available_tlvs`. -/
def availableTlvs : List CellLacInfo :=
  [.umtsCellInfo, .cdmaCellInfo, .lteIntraInfo, .lteInterInfo, .lteInfoNeighbourGsm,
    .lteInfoNeighbourWcdma, .umtsCellId, .wcdmaInfoLteNeighbour, .cdmaRxInfo, .hdrRxInfo,
    .gsmCellInfoExtended, .wcdmaCellInfoExtended, .wcdmaGsmNeighbourCellExtended,
    .lteInfoTimingAdv, .wcdmaInfoActiveSet, .wcdmaActiveSetRefRadioLink, .extendedGeranInfo,
    .umtsExtendedInfo, .wcdmaExtendedInfoAs, .scellGeranConf, .currentL1Timeslot,
    .dopplerMeasurementHz, .lteInfoExtendedIntraEarfcn, .lteInfoExtendedInterEarfcn,
    .wcdmaInfoExtendedLteNeighbourEarfcn, .nasInfoEmmState, .nasRrcState, .lteInfoRrcState]

/-- The rounds of the loop over `available_tlvs`. The last TLV is not looked up. -/
def searchedTlvs : List CellLacInfo := availableTlvs.take 27

/-- The three bytes of a PLMN. -/
structure Plmn where
  first : UInt8
  second : UInt8
  third : UInt8
  deriving DecidableEq, Repr

def Plmn.zero : Plmn := ⟨0, 0, 0⟩

def plmnAt (bytes : Bytes) (offset : Nat) : Plmn :=
  ⟨bytes offset, bytes (offset + 1), bytes (offset + 2)⟩

/-- The digits that are stored for a country code. -/
def Plmn.mccDigits (plmn : Plmn) : List UInt8 :=
  [(plmn.first &&& 0x0f) + 0x30, ((plmn.first &&& 0xf0) >>> 4) + 0x30,
    (plmn.second &&& 0x0f) + 0x30]

/-- The digits that are stored for a network code; a third one is not. -/
def Plmn.mncDigits (plmn : Plmn) : List UInt8 :=
  [(plmn.third &&& 0x0f) + 0x30, ((plmn.third &&& 0xf0) >>> 4) + 0x30]

/-- A country code or a network code from its digits. -/
def networkNumber (digits : List UInt8) : UInt16 := UInt16.ofInt (atoi digits)

/-- The current network: `mcc` and `mnc` of `curr_state`, `curr_plmn` and `prev_plmn`. -/
structure CurrentNetwork where
  mcc : List UInt8
  mnc : List UInt8
  currPlmn : Plmn
  prevPlmn : Plmn
  deriving DecidableEq, Repr

/-- The state at start-up. -/
def CurrentNetwork.zero : CurrentNetwork := ⟨[], [], .zero, .zero⟩

inductive LocationFault where
  /-- A loop over TLVs never ends. -/
  | loops
  deriving DecidableEq, Repr

/-- A walk over the TLVs ends. -/
def walked (result : Option Nat) : Except LocationFault Nat :=
  match result with
  | some result => .ok result
  | none => .error .loops

/-- The local variables of `update_cell_location_information` that TLVs set. -/
structure LocationData where
  lac : UInt16
  bcch : UInt16
  psc : UInt16
  arfcn : UInt16
  srxLev : UInt16
  rxLev : UInt16
  typeOfService : UInt8
  bsic : UInt8
  cellId : UInt32
  reportedPlmn : Plmn
  deriving DecidableEq, Repr

def LocationData.zero : LocationData := ⟨0, 0, 0, 0, 0, 0, 0, 0, 0, .zero⟩

/-- The fields of the structures, by their offset. -/
def field8 (bytes : Bytes) (offset : Nat) : UInt8 := bytes offset
def field16 (bytes : Bytes) (offset : Nat) : UInt16 := UInt16.ofNat (le16 bytes offset)
def field32 (bytes : Bytes) (offset : Nat) : UInt32 := UInt32.ofNat (le32 bytes offset)

/-- The `switch` over a TLV that has been found at an offset. -/
def readTlv (bytes : Bytes) (offset : Nat) (data : LocationData) (tlv : CellLacInfo) :
    LocationData :=
  match tlv with
  | .umtsCellInfo =>
      { data with
        typeOfService := 0x05
        cellId := (field16 bytes (offset + 3)).toUInt32
        reportedPlmn := plmnAt bytes (offset + 5)
        lac := field16 bytes (offset + 8)
        arfcn := field16 bytes (offset + 10)
        psc := field16 bytes (offset + 12)
        srxLev := field16 bytes (offset + 14) }
  | .lteIntraInfo =>
      { data with
        typeOfService := 0x0b
        reportedPlmn := plmnAt bytes (offset + 4)
        lac := field16 bytes (offset + 7)
        cellId := field32 bytes (offset + 9)
        arfcn := field16 bytes (offset + 13) }
  | .umtsCellId => { data with cellId := field32 bytes (offset + 3) }
  | .gsmCellInfoExtended => { data with bcch := field16 bytes (offset + 5) }
  | .extendedGeranInfo =>
      { data with
        cellId := field32 bytes (offset + 3)
        reportedPlmn := plmnAt bytes (offset + 7)
        lac := field16 bytes (offset + 10)
        arfcn := field16 bytes (offset + 12)
        bsic := field8 bytes (offset + 14)
        rxLev := field16 bytes (offset + 19) }
  | .umtsExtendedInfo =>
      { data with
        reportedPlmn := plmnAt bytes (offset + 5)
        lac := field16 bytes (offset + 8)
        arfcn := field16 bytes (offset + 10)
        psc := field16 bytes (offset + 12)
        srxLev := field16 bytes (offset + 20) }
  | .lteInfoExtendedIntraEarfcn => { data with arfcn := (field32 bytes (offset + 3)).toUInt16 }
  | .lteInfoExtendedInterEarfcn => { data with arfcn := (field32 bytes (offset + 3)).toUInt16 }
  | _ => data

/-- One round of the loop over `available_tlvs`. -/
def searchTlv (bytes : Bytes) (len : Nat) (data : LocationData) (tlv : CellLacInfo) :
    Except LocationFault LocationData := do
  let offset ← walked (getTlvOffsetById bytes len tlv.code)
  .ok (if offset > 0 then readTlv bytes offset data tlv else data)

/-- What the loop finds. -/
def searchTlvs (bytes : Bytes) (len : Nat) : Except LocationFault LocationData :=
  searchedTlvs.foldlM (searchTlv bytes len) .zero

variable (s : CurrentNetwork)

/-- The reported network becomes the current one. -/
def CurrentNetwork.report (plmn : Plmn) : CurrentNetwork :=
  if s.currPlmn ≠ plmn then
    { mcc := plmn.mccDigits, mnc := plmn.mncDigits, currPlmn := plmn, prevPlmn := s.currPlmn }
  else s

/-- The arguments of `process_current_network_data`. -/
def LocationData.cell (data : LocationData) (mcc mnc : UInt16) : CellData where
  mcc := mcc
  mnc := mnc
  typeOfService := data.typeOfService
  lac := data.lac
  phyCellId := 0
  cellId := data.cellId
  bsic := data.bsic
  bcch := data.bcch
  psc := data.psc
  arfcn := data.arfcn
  srxLev := data.srxLev.toInt16
  rxLev := data.rxLev

/-- The end of `update_cell_location_information`, from the loop on. -/
def locateCell (mcc mnc : UInt16) (bytes : Bytes) (len : Nat) :
    Except LocationFault (CurrentNetwork × Option CellData) := do
  let _ ← walked (countTlvsInMessage bytes len)
  let data ← searchTlvs bytes len
  .ok (s.report data.reportedPlmn,
    if mcc ≠ 0 ∧ mnc ≠ 0 then some (data.cell mcc mnc) else none)

/-- `update_cell_location_information(buf, buf_len)`: the current network, and the arguments with
which `process_current_network_data` is called, if it is. -/
def updateCellLocationInformation (signalTracking : Bool) (bytes : Bytes) (len : Nat) :
    Except LocationFault (CurrentNetwork × Option CellData) :=
  let mcc := networkNumber s.mcc
  let mnc := networkNumber s.mnc
  if !signalTracking then .ok (s, none)
  else do
    let result ← walked (didQmiOpFail bytes len)
    -- 'QMI_RESULT_SUCCESS'
    if result ≠ 0 then .ok (s, none) else locateCell s mcc mnc bytes len

end OpenQti.Nas
