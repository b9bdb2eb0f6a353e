import Mathlib.Data.List.Basic

/-!
# The database of OpenCellid

A cell that `nas_client.c` has not seen before can be looked up in a file of OpenCellid. A record
names the technology of its cell by the codes of the file. The lookup compares them with the type of
the network as `nas_update_network_data` numbers it, and only WCDMA has the same number in both.
`verification_exact_iff` says for which databases the lookup is right nevertheless.

Operator, country and network code of the file, and the texts that are sent to the user, are left
out.
-/

namespace OpenQti.Nas

/-- `struct ocid_cell_slim`. The coordinates are kept as they are in the file. -/
structure OcidCellSlim where
  radio : UInt8
  area : UInt32
  cell : UInt32
  lon : UInt32
  lat : UInt32
  range : UInt32
  updated : UInt32
  averageSignal : Int16
  deriving DecidableEq, Repr

/-- A zeroed record. -/
def OcidCellSlim.zero : OcidCellSlim := ⟨0, 0, 0, 0, 0, 0, 0, 0⟩

/-- `sizeof(struct ocid_cell_slim)`. -/
def sizeofOcidCell : Nat := 27

/-- A file of OpenCellid: records, and what is left behind the last one. -/
structure OcidFile where
  records : List OcidCellSlim
  rest : Nat
  rest_lt : rest < sizeofOcidCell

def OcidFile.size (file : OcidFile) : Nat := file.records.length * sizeofOcidCell + file.rest

/-- `enum ocid_radio_type`. -/
inductive OcidRadioType where
  | gsm
  | cdma
  | umts
  | lte
  | nr
  deriving DecidableEq, Repr

def OcidRadioType.code : OcidRadioType → UInt8
  | .gsm => 0x01
  | .cdma => 0x02
  | .umts => 0x05
  | .lte => 0x0b
  | .nr => 0x0e

/-- The types of a signal report. -/
inductive SignalReport where
  | cdma
  | cdmaHdr
  | gsm
  | wcdma
  | lte
  deriving DecidableEq, Repr

def SignalReport.code : SignalReport → UInt8
  | .cdma => 0x10
  | .cdmaHdr => 0x11
  | .gsm => 0x12
  | .wcdma => 0x13
  | .lte => 0x14

/-- The technology of a report as the file names it. -/
def SignalReport.radio : SignalReport → OcidRadioType
  | .cdma => .cdma
  | .cdmaHdr => .cdma
  | .gsm => .gsm
  | .wcdma => .umts
  | .lte => .lte

/-- The fields of `curr_state` and `prev_state` that a signal report changes. -/
structure NetworkStatus where
  networkType : UInt8
  signalLevel : UInt8
  deriving DecidableEq, Repr

/-- The part of `nas_runtime` that the lookup uses. `cellid_data_missing` is 0 if the data is
missing, 1 if it is ready, and 2 if it is missing and has been asked for. -/
structure OcidRuntime where
  currState : NetworkStatus
  prevState : NetworkStatus
  cellidDataMissing : UInt8
  currOcidDbFp : Option OcidFile
  openCellidNumItems : Nat

/-- The settings that `nas_update_network_data` reads, and the id of the current call. -/
structure DowngradeEnv where
  signalTracking : Bool
  downgradeNotification : Bool
  currentCallId : UInt8

variable (s : OcidRuntime)

/-- `nas_update_network_data(network_type, signal_level)`: the new state, and whether the user is
warned. -/
def nasUpdateNetworkData (env : DowngradeEnv) (networkType signalLevel : UInt8) :
    OcidRuntime × Bool :=
  let type :=
    if networkType = SignalReport.cdma.code ∨ networkType = SignalReport.cdmaHdr.code then 1
    else if networkType = SignalReport.gsm.code then 4
    else if networkType = SignalReport.wcdma.code then 5
    else if networkType = SignalReport.lte.code then 8
    else 0
  let level := if signalLevel > 0 then signalLevel / 2 else 0
  ({ s with prevState := s.currState, currState := ⟨type, level⟩ },
    env.signalTracking && env.downgradeNotification && env.currentCallId ≠ 0 &&
      type < s.currState.networkType)

/-- `get_opencellid_data()`, with the file of the current network, if there is one. A file that was
open is closed. -/
def getOpencellidData (file : Option OcidFile) : OcidRuntime :=
  let s := if s.currOcidDbFp.isSome then { s with openCellidNumItems := 0 } else s
  match file with
  | none =>
      let s := { s with currOcidDbFp := none }
      if s.cellidDataMissing < 2 then { s with cellidDataMissing := 2 } else s
  | some file =>
      { s with
        currOcidDbFp := some file
        openCellidNumItems := file.size / sizeofOcidCell
        cellidDataMissing := 1 }

/-- The record is about the cell, in the technology with the code `radio`. -/
def OcidCellSlim.isCell (record : OcidCellSlim) (radio : UInt8) (cellId : UInt32) (lac : UInt16) :
    Bool :=
  radio = record.radio ∧ cellId = record.cell ∧ record.area = lac.toUInt32

/-- What the loop of `get_opencellid_cell_info` comes to. -/
inductive ScanResult where
  | found (record : OcidCellSlim)
  | notFound
  /-- `fread` has not found a record. -/
  | readError
  deriving DecidableEq, Repr

/-- The loop of `get_opencellid_cell_info`, with the number of rounds that are left and the records
behind the position of the file. -/
def scanRecords (found : OcidCellSlim → Bool) : Nat → List OcidCellSlim → ScanResult
  | 0, _ => .notFound
  | _ + 1, [] => .readError
  | n + 1, record :: records => if found record then .found record else scanRecords found n records

/-- `get_opencellid_cell_info(cell_id, lac)`. -/
def getOpencellidCellInfo (cellId : UInt32) (lac : UInt16) : OcidCellSlim × OcidRuntime :=
  if s.cellidDataMissing ≠ 1 then (.zero, s)
  else
    match s.currOcidDbFp with
    | none => (.zero, { s with cellidDataMissing := 0 })
    | some file =>
        match scanRecords (fun record => record.isCell s.currState.networkType cellId lac)
          s.openCellidNumItems file.records with
        | .found record => (record, s)
        | .notFound => (.zero, s)
        | .readError => (.zero, { s with currOcidDbFp := none })

/-- `EINVAL`. -/
def einval : Int := 22

/-- `is_cell_id_in_db(cell_id, lac)`. -/
def isCellIdInDb (cellId : UInt32) (lac : UInt16) : Int × OcidRuntime :=
  if s.cellidDataMissing ≠ 1 then (-einval, s)
  else
    let (record, s) := getOpencellidCellInfo s cellId lac
    (if record.isCell s.currState.networkType cellId lac then 1 else 0, s)

/-! ## The lookup -/

/-- The records have one about the cell, in the technology with the code `radio`. -/
def Contains (db : List OcidCellSlim) (radio : UInt8) (cellId : UInt32) (lac : UInt16) : Prop :=
  ∃ record ∈ db, record.radio = radio ∧ record.cell = cellId ∧ record.area = lac.toUInt32

/-- The records have been loaded. -/
structure Loaded (db : List OcidCellSlim) (s : OcidRuntime) : Prop where
  ready : s.cellidDataMissing = 1
  items : s.openCellidNumItems = db.length
  file : ∃ file, s.currOcidDbFp = some file ∧ file.records = db

/-- After the report the lookup finds a cell if and only if the records have it, in the technology of
the report. -/
def ExactFor (s : OcidRuntime) (db : List OcidCellSlim) (env : DowngradeEnv) (report : SignalReport)
    (signalLevel : UInt8) (cellId : UInt32) (lac : UInt16) : Prop :=
  (isCellIdInDb (nasUpdateNetworkData s env report.code signalLevel).1 cellId lac).1 = 1 ↔
    Contains db report.radio.code cellId lac

/-- The lookup is right. -/
def VerificationExact : Prop :=
  ∀ s db env report signalLevel cellId lac, Loaded db s →
    ExactFor s db env report signalLevel cellId lac

/-- The records have the cell under the number of the type of the network and under the code of the
file, or under neither. -/
def NumberedAlike (db : List OcidCellSlim) (report : SignalReport) (cellId : UInt32) (lac : UInt16) :
    Prop :=
  match report with
  | .cdma | .cdmaHdr => Contains db 1 cellId lac ↔ Contains db 2 cellId lac
  | .gsm => Contains db 4 cellId lac ↔ Contains db 1 cellId lac
  | .wcdma => True
  | .lte => Contains db 8 cellId lac ↔ Contains db 11 cellId lac

variable {s} {db : List OcidCellSlim} {cellId : UInt32} {lac : UInt16}

/-- A file that is found is loaded. -/
theorem opencellid_loaded (file : OcidFile) :
    Loaded file.records (getOpencellidData s (some file)) where
  ready := rfl
  items := by
    have hsize : file.size / sizeofOcidCell = file.records.length := by
      have hrest := file.rest_lt
      simp only [OcidFile.size, sizeofOcidCell] at hrest ⊢
      omega
    exact hsize
  file := ⟨file, rfl, rfl⟩

theorem Loaded.update (h : Loaded db s) (env : DowngradeEnv) (networkType signalLevel : UInt8) :
    Loaded db (nasUpdateNetworkData s env networkType signalLevel).1 :=
  ⟨h.ready, h.items, h.file⟩

theorem isCell_iff {record : OcidCellSlim} {radio : UInt8} :
    record.isCell radio cellId lac = true ↔
      record.radio = radio ∧ record.cell = cellId ∧ record.area = lac.toUInt32 := by
  simp only [OcidCellSlim.isCell, decide_eq_true_eq]
  exact and_congr eq_comm (and_congr_left' eq_comm)

/-- A scan through all records finds the first one that is looked for. -/
theorem scan_records (found : OcidCellSlim → Bool) (records : List OcidCellSlim) :
    scanRecords found records.length records =
      match records.find? found with
      | some record => .found record
      | none => .notFound := by
  induction records with
  | nil => rfl
  | cons record records ih =>
      rw [List.length_cons, scanRecords, ih]
      by_cases hfound : found record = true
      · rw [if_pos hfound, List.find?_cons_of_pos hfound]
      · rw [if_neg hfound, List.find?_cons_of_neg hfound]

/-- The lookup finds a cell under the number of the type of the network. A zeroed record is never
taken for one that has been found, as the type of a network is not zero. -/
theorem in_db_iff (h : Loaded db s) (htype : s.currState.networkType ≠ 0) :
    (isCellIdInDb s cellId lac).1 = 1 ↔ Contains db s.currState.networkType cellId lac := by
  obtain ⟨file, hfile, rfl⟩ := h.file
  have hready : ¬ s.cellidDataMissing ≠ 1 := fun hmissing => hmissing h.ready
  have hzero : OcidCellSlim.zero.isCell s.currState.networkType cellId lac = false := by
    rw [Bool.eq_false_iff]
    intro hcell
    exact htype (isCell_iff.1 hcell).1.symm
  simp only [isCellIdInDb, getOpencellidCellInfo, if_neg hready, hfile, h.items, scan_records]
  cases hfind : file.records.find?
      fun record => record.isCell s.currState.networkType cellId lac with
  | none =>
      simp only [hzero, Bool.false_eq_true, if_false]
      constructor
      · intro hone
        cases hone
      · rintro ⟨record, hmem, hcell⟩
        exact absurd (isCell_iff.2 hcell) (List.find?_eq_none.1 hfind record hmem)
  | some record =>
      have hcell := List.find?_some hfind
      simp only [hcell, if_true, true_iff]
      exact ⟨record, List.mem_of_find?_eq_some hfind, isCell_iff.1 hcell⟩

/-- The type of the network after a report. -/
theorem update_type (env : DowngradeEnv) (report : SignalReport) (signalLevel : UInt8) :
    (nasUpdateNetworkData s env report.code signalLevel).1.currState.networkType =
      match report with
      | .cdma | .cdmaHdr => 1
      | .gsm => 4
      | .wcdma => 5
      | .lte => 8 := by
  cases report <;> rfl

/-- After a report the lookup is right exactly if the technology has the same number in the file, or
the records have the cell under both numbers or under neither. -/
theorem verification_exact_iff (h : Loaded db s) (env : DowngradeEnv) (report : SignalReport)
    (signalLevel : UInt8) (cellId : UInt32) (lac : UInt16) :
    ExactFor s db env report signalLevel cellId lac ↔ NumberedAlike db report cellId lac := by
  have htype := update_type (s := s) env report signalLevel
  have hloaded := h.update env report.code signalLevel
  rw [ExactFor, in_db_iff hloaded (by rw [htype]; cases report <;> decide), htype]
  cases report with
  | wcdma => exact iff_true_intro Iff.rfl
  | cdma | cdmaHdr | gsm | lte => exact Iff.rfl

/-- A cell of a network of LTE. -/
def sampleRecord : OcidCellSlim := ⟨0x0b, 0x2711, 0x1a2b3c, 0, 0, 1000, 0, -90⟩

def sampleFile : OcidFile := ⟨[sampleRecord], 0, by decide⟩

/-- The state at start-up, with a file of one record. -/
def sampleLoaded : OcidRuntime :=
  getOpencellidData ⟨⟨0, 0⟩, ⟨0, 0⟩, 0, none, 0⟩ (some sampleFile)

/-- A cell of LTE is not found. -/
theorem lte_cell_not_found : ¬ VerificationExact := by
  intro h
  have hexact := h sampleLoaded [sampleRecord] ⟨false, false, 0⟩ .lte 40 0x1a2b3c 0x2711
    (opencellid_loaded sampleFile)
  have hfound := hexact.2 ⟨sampleRecord, List.mem_singleton_self _, rfl, rfl, rfl⟩
  exact absurd hfound (by decide)

/-- The cell of LTE is not taken for one of WCDMA. -/
theorem wcdma_cell_exact :
    ExactFor sampleLoaded [sampleRecord] ⟨false, false, 0⟩ .wcdma 40 0x1a2b3c 0x2711 :=
  (verification_exact_iff (opencellid_loaded sampleFile) _ .wcdma _ _ _).2 trivial

end OpenQti.Nas
