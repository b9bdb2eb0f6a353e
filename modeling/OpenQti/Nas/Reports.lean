import Mathlib.Data.List.Basic
import Mathlib.Logic.Function.Basic

/-!
# Reports about the cells of the network

`nas_client.c` keeps a table of the cells to which the modem has been connected. A new cell is
learned or, in the strict modes, makes the modem shut down; a known one has its signal levels
brought up to date. This module translates the table, `process_current_network_data`, and the
storage of the table over a restart.

The results of `is_cell_id_in_db` and of the settings are arguments. The texts that are sent to the
user, the log `cell_history`, and the calls of `store_report_data` during an update, which leave the
table alone, are left out.
-/

namespace OpenQti.Nas

/-- `MAX_REPORT_NUM`. -/
def maxReportNum : Nat := 4096

/-- `struct nas_report`. -/
structure NasReport where
  mcc : UInt16
  mnc : UInt16
  typeOfService : UInt8
  lac : UInt16
  phyCellId : UInt16
  cellId : UInt32
  bsic : UInt8
  bcch : UInt16
  psc : UInt16
  arfcn : UInt16
  srxLevelMin : Int16
  srxLevelMax : Int16
  srxLevelAvg : Int16
  rxLevelMin : UInt16
  rxLevelMax : UInt16
  rxLevelAvg : UInt16
  foundInNetwork : UInt8
  opencellidVerified : UInt8
  deriving DecidableEq, Repr

/-- `struct network_status_reports`. -/
structure StatusReport where
  inUse : UInt8
  report : NasReport
  deriving DecidableEq, Repr

/-- An entry of a zeroed table. -/
def StatusReport.zero : StatusReport :=
  ⟨0, 0, 0, 0, 0, 0, 0, 0, 0, 0, 0, 0, 0, 0, 0, 0, 0, 0, 0⟩

/-- The size of `struct network_status_reports`, with the padding before `cell_id`, after
`in_use` and at the end. -/
def sizeofStatusReport : Nat := 44

/-- The part of `nas_runtime` that the reports use. -/
structure NasRuntime where
  currentReport : UInt16
  data : Nat → StatusReport
  currentCellId : UInt32
  currentLac : UInt16

/-- The state at start-up. -/
def NasRuntime.zero : NasRuntime where
  currentReport := 0
  data := fun _ => .zero
  currentCellId := 0
  currentLac := 0

/-- An entry outside of `nas_runtime.data` is accessed. -/
inductive ReportFault where
  | index (entry : Nat)
  deriving DecidableEq, Repr

/-- What identifies a cell. -/
structure CellKey where
  mcc : UInt16
  mnc : UInt16
  typeOfService : UInt8
  cellId : UInt32
  lac : UInt16
  deriving DecidableEq, Repr

/-- The arguments of `add_report` and of `process_current_network_data`. -/
structure CellData where
  mcc : UInt16
  mnc : UInt16
  typeOfService : UInt8
  lac : UInt16
  phyCellId : UInt16
  cellId : UInt32
  bsic : UInt8
  bcch : UInt16
  psc : UInt16
  arfcn : UInt16
  srxLev : Int16
  rxLev : UInt16
  deriving DecidableEq, Repr

def CellData.key (cell : CellData) : CellKey :=
  ⟨cell.mcc, cell.mnc, cell.typeOfService, cell.cellId, cell.lac⟩

def NasReport.key (report : NasReport) : CellKey :=
  ⟨report.mcc, report.mnc, report.typeOfService, report.cellId, report.lac⟩

variable (s : NasRuntime)

/-- Change an entry of the table. -/
def NasRuntime.setEntry (i : Nat) (entry : StatusReport) : NasRuntime :=
  { s with data := Function.update s.data i entry }

/-! ## The table -/

/-- The loop that moves the entries down by one: `data[k - 1] = data[k]` from `k = 1` on. -/
def rotateLog (data : Nat → StatusReport) : Nat → StatusReport :=
  (List.range' 1 (maxReportNum - 1)).foldl (fun data k => Function.update data (k - 1) (data k))
    data

/-- The fields that `add_report` writes; the averages stay as they are. -/
def fillReport (old : StatusReport) (cell : CellData) : StatusReport where
  inUse := 1
  report :=
    { old.report with
      foundInNetwork := 1
      mcc := cell.mcc
      mnc := cell.mnc
      typeOfService := cell.typeOfService
      lac := cell.lac
      phyCellId := cell.phyCellId
      cellId := cell.cellId
      bsic := cell.bsic
      bcch := cell.bcch
      psc := cell.psc
      arfcn := cell.arfcn
      srxLevelMin := cell.srxLev
      srxLevelMax := cell.srxLev
      rxLevelMin := cell.rxLev
      rxLevelMax := cell.rxLev
      opencellidVerified := 0 }

/-- `add_report(..)`: the index of the report and the new state. -/
def addReport (cell : CellData) : Except ReportFault (Nat × NasRuntime) :=
  let s :=
    if s.currentReport.toNat ≥ maxReportNum - 1 then { s with data := rotateLog s.data }
    else { s with currentReport := s.currentReport + 1 }
  let reportId := s.currentReport.toNat
  if reportId < maxReportNum then
    .ok (reportId, s.setEntry reportId (fillReport (s.data reportId) cell))
  else .error (.index reportId)

/-- What `is_in_report` writes to an entry that matches. -/
def markFound (entry : StatusReport) : StatusReport :=
  { inUse := 1, report := { entry.report with foundInNetwork := 1 } }

/-- One pass of the loop of `is_in_report`; the index found so far is carried along. -/
def matchEntry (key : CellKey) (found : Int × NasRuntime) (i : Nat) :
    Except ReportFault (Int × NasRuntime) :=
  if i < maxReportNum then
    if (found.2.data i).report.key = key then
      .ok (i, found.2.setEntry i (markFound (found.2.data i)))
    else .ok found
  else .error (.index i)

/-- `is_in_report(mcc, mnc, type_of_service, cell_id, lac)`. -/
def isInReport (key : CellKey) : Except ReportFault (Int × NasRuntime) :=
  (List.range s.currentReport.toNat).foldlM (matchEntry key) (-1, s)

/-- The signal levels of a known cell, and the fields that go with them. -/
def updateLevels (entry : StatusReport) (cell : CellData) : StatusReport :=
  let report :=
    if cell.srxLev < entry.report.srxLevelMin then
      { entry.report with srxLevelMin := cell.srxLev }
    else if cell.srxLev > entry.report.srxLevelMax then
      { entry.report with srxLevelMax := cell.srxLev }
    else entry.report
  { entry with
    report :=
      { report with
        phyCellId := cell.phyCellId
        bsic := cell.bsic
        bcch := cell.bcch
        psc := cell.psc
        arfcn := cell.arfcn } }

/-- `get_current_cell_report()`. -/
def getCurrentCellReport : Except ReportFault NasReport :=
  if s.currentReport.toNat < maxReportNum then .ok (s.data s.currentReport.toNat).report
  else .error (.index s.currentReport.toNat)

/-! ## A new measurement -/

/-- The settings and the result of `is_cell_id_in_db` during a call. -/
structure NetworkEnv where
  signalTrackingMode : UInt8
  cellChangeNotification : UInt8
  opencellidRes : Int

/-- What `process_current_network_data` does besides updates. -/
inductive NasAction where
  | addReport (reportId : Nat)
  | emergencyBasebandPowerdown (cellId : UInt32) (lac : UInt16) (opencellidRes : Int)
  | notifyCellidChange (cellId : UInt32) (lac : UInt16)
  deriving DecidableEq, Repr

/-- `add_report` in a learning mode, and the mark of a cell that OpenCellid knows. -/
def learnCell (cell : CellData) (verified : Bool) :
    Except ReportFault (NasRuntime × List NasAction) := do
  let (reportId, s) ← addReport s cell
  let entry := s.data reportId
  let s :=
    if verified then
      s.setEntry reportId { entry with report := { entry.report with opencellidVerified := 1 } }
    else s
  .ok (s, [.addReport reportId])

/-- The switch over the signal tracking mode. -/
def trackCell (env : NetworkEnv) (cell : CellData) (cellIsKnown : Bool) :
    Except ReportFault (NasRuntime × List NasAction) :=
  if env.signalTrackingMode = 0 then
    if !cellIsKnown then learnCell s cell false else .ok (s, [])
  else if env.signalTrackingMode = 1 then
    if !cellIsKnown then .ok (s, [.emergencyBasebandPowerdown cell.cellId cell.lac (-1)])
    else .ok (s, [])
  else if env.signalTrackingMode = 2 then
    if !cellIsKnown then learnCell s cell (env.opencellidRes = 1) else .ok (s, [])
  else if env.signalTrackingMode = 3 then
    if env.opencellidRes = 1 ∧ !cellIsKnown then learnCell s cell true
    else if !cellIsKnown then
      .ok (s, [.emergencyBasebandPowerdown cell.cellId cell.lac env.opencellidRes])
    else .ok (s, [])
  else .ok (s, [])

/-- The end of `process_current_network_data`: has the modem moved to another cell? -/
def noteCell (env : NetworkEnv) (cell : CellData) (cellIsKnown : Bool) :
    NasRuntime × List NasAction :=
  if cell.cellId ≠ s.currentCellId ∨ cell.lac ≠ s.currentLac then
    ({ s with currentCellId := cell.cellId, currentLac := cell.lac },
      if env.cellChangeNotification = 2 ∨ env.cellChangeNotification = 1 ∧ !cellIsKnown then
        [.notifyCellidChange cell.cellId cell.lac]
      else [])
  else (s, [])

/-- The lookup and the update of the levels at the start of `process_current_network_data`: whether
the cell is known, and the new state. -/
def updateKnownCell (cell : CellData) : Except ReportFault (Bool × NasRuntime) := do
  let (reportId, s) ← isInReport s cell.key
  if reportId ≥ 0 then
    .ok (true, s.setEntry reportId.toNat (updateLevels (s.data reportId.toNat) cell))
  else .ok (false, s)

/-- `process_current_network_data(..)`: the new state, and what has been done. -/
def processCurrentNetworkData (env : NetworkEnv) (cell : CellData) :
    Except ReportFault (NasRuntime × List NasAction) :=
  if cell.lac = 0 ∨ cell.cellId = 0 then .ok (s, [])
  else do
    let (cellIsKnown, s) ← updateKnownCell s cell
    let (s, actions) ← trackCell s env cell cellIsKnown
    let (s, notes) := noteCell s env cell cellIsKnown
    .ok (s, actions ++ notes)

/-! ## Storage -/

/-- The content of the file of reports. -/
abbrev ReportFile := List StatusReport

/-- `store_report_data()`, with the outcomes of making the partition writable, of opening the file
and of making the partition read-only again: the value returned and the file. -/
def storeReportData (writable opened restored : Bool) (file : Option ReportFile) :
    Int × Option ReportFile :=
  if !writable then (-1, file)
  else if !opened then (-1, file)
  else (if restored then 0 else -1, some ((List.range maxReportNum).map s.data))

/-- The loop of `load_report_data` over the records that have been read. -/
def loadEntry (reports : Nat → StatusReport) (s : NasRuntime) (i : Nat) : NasRuntime :=
  if (reports i).inUse ≠ 0 then
    { s.setEntry i (reports i) with currentReport := s.currentReport + 1 }
  else s

/-- `load_report_data()`: the value returned, the signal tracking mode and the new state. The array
`reports` is not initialised behind what `fread` has read. -/
def loadReportData (signalTrackingMode : UInt8) (uninitialised : Nat → StatusReport)
    (file : Option ReportFile) : Int × UInt8 × NasRuntime :=
  match file with
  | none =>
      (-1, if signalTrackingMode = 1 then 0 else if signalTrackingMode = 3 then 2
        else signalTrackingMode, s)
  | some records =>
      let ret := min records.length maxReportNum
      let reports := fun i => (records.take maxReportNum).getD i (uninitialised i)
      (0, signalTrackingMode,
        if ret ≥ sizeofStatusReport then (List.range maxReportNum).foldl (loadEntry reports) s
        else s)

end OpenQti.Nas
