import Mathlib.Data.List.Induction
import OpenQti.Nas.ReportTable

/-!
# Reports over a restart

`store_report_data` writes all entries of the table, and `load_report_data` takes those that are in
use and counts them: the count becomes the index of the current report. While the entry 0 is free the
two are the same. Once the table has been moved it is in use as well, and the count is one more than
the last index, outside of the table.
-/

namespace OpenQti.Nas

open Machine Window

variable {s : NasRuntime} {cells : List CellData}

/-- `add_report` for one cell after the other. -/
def addReports (cells : List CellData) : Except ReportFault NasRuntime :=
  exec (fun s cell => (addReport s cell).map Prod.snd) .zero cells

/-- The outcome of the system calls while the reports are stored and loaded: whether the partition
was made read-only again, the file before, the mode, and what was in the memory of `reports`. -/
structure RestartEnv where
  restored : Bool
  file : Option ReportFile
  signalTrackingMode : UInt8
  uninitialised : Nat → StatusReport

/-- The state after the reports have been stored and then loaded into a zeroed state. -/
def restart (env : RestartEnv) (s : NasRuntime) : NasRuntime :=
  (loadReportData .zero env.signalTrackingMode env.uninitialised
    (storeReportData s true true env.restored env.file).2).2.2

/-- The reports in use are where they were, and the current report is the same, inside of the
table. -/
structure SurvivesRestart (env : RestartEnv) (s : NasRuntime) : Prop where
  entries : ∀ i, i < maxReportNum → (s.data i).inUse ≠ 0 → (restart env s).data i = s.data i
  current : (restart env s).currentReport = s.currentReport
  bounded : (restart env s).currentReport.toNat ≤ 4095
  getter : ∃ report, getCurrentCellReport (restart env s) = .ok report
  adding : ∀ cell, ∃ next, addReport (restart env s) cell = .ok next

/-- Whatever reports have been added, they survive a restart. -/
def ReportsSurvive : Prop :=
  ∀ (cells : List CellData) (env : RestartEnv) (s : NasRuntime),
    addReports cells = .ok s → SurvivesRestart env s

/-! ## The entries in use -/

/-- The number of entries in use below `n`. -/
def usedBelow (data : Nat → StatusReport) (n : Nat) : Nat :=
  (List.range n).countP fun i => (data i).inUse ≠ 0

theorem usedBelow_succ (data : Nat → StatusReport) (n : Nat) :
    usedBelow data (n + 1) = usedBelow data n + if (data n).inUse ≠ 0 then 1 else 0 := by
  simp [usedBelow, List.range_succ, List.countP_append, List.countP_cons]

theorem usedBelow_le (data : Nat → StatusReport) (n : Nat) : usedBelow data n ≤ n := by
  have hle := List.countP_le_length (p := fun i => decide ((data i).inUse ≠ 0)) (l := List.range n)
  rwa [List.length_range] at hle

/-- While the table is filled there are as many entries in use as reports. -/
theorem Tabled.used_filling (h : Tabled s cells) (hfew : cells.length ≤ maxReportNum - 1) {n : Nat}
    (hn : n ≤ maxReportNum) : usedBelow s.data n = min (n - 1) cells.length := by
  induction n with
  | zero => rfl
  | succ n ih =>
      rw [usedBelow_succ, ih (by omega)]
      split_ifs with huse
      · rw [h.inUse_iff (by omega)] at huse
        omega
      · rw [h.inUse_iff (by omega), not_not] at huse
        omega

/-- Afterwards all entries are in use. -/
theorem Tabled.used_sliding (h : Tabled s cells) (hmany : maxReportNum - 1 < cells.length) {n : Nat}
    (hn : n ≤ maxReportNum) : usedBelow s.data n = n := by
  induction n with
  | zero => rfl
  | succ n ih =>
      rw [usedBelow_succ, ih (by omega), if_pos]
      rw [h.inUse_iff (by omega)]
      omega

/-! ## Loading -/

/-- The loop of `load_report_data` after `n` records. -/
theorem load_prefix (reports : Nat → StatusReport) {n : Nat} (hn : n ≤ maxReportNum) :
    ((List.range n).foldl (loadEntry reports) .zero).currentReport.toNat = usedBelow reports n ∧
      ∀ i, i < n → (reports i).inUse ≠ 0 →
        ((List.range n).foldl (loadEntry reports) .zero).data i = reports i := by
  induction n with
  | zero => exact ⟨rfl, fun i hi => absurd hi (Nat.not_lt_zero i)⟩
  | succ n ih =>
      obtain ⟨hcount, hentries⟩ := ih (by omega)
      have hone : (1 : UInt16).toNat = 1 := rfl
      have hmax : maxReportNum = 4096 := rfl
      have hbound := usedBelow_le reports n
      rw [List.range_succ, List.foldl_concat, usedBelow_succ, loadEntry]
      split_ifs with huse
      · refine ⟨?_, fun i hi hused => ?_⟩
        · show (UInt16.toNat (_ + 1)) = _
          rw [UInt16.toNat_add, hcount, hone]
          omega
        · rw [data_setEntry, Function.update_apply]
          split_ifs with hin
          · rw [hin]
          · exact hentries i (by omega) hused
      · refine ⟨hcount, fun i hi hused => ?_⟩
        rcases Nat.lt_succ_iff_lt_or_eq.1 hi with hlt | rfl
        · exact hentries i hlt hused
        · exact absurd hused huse

/-- What `load_report_data` finds in the file of the table. -/
theorem restart_eq (env : RestartEnv) (s : NasRuntime) :
    ∃ reports : Nat → StatusReport, (∀ i, i < maxReportNum → reports i = s.data i) ∧
      restart env s = (List.range maxReportNum).foldl (loadEntry reports) .zero := by
  refine ⟨fun i => ((List.range maxReportNum).map s.data).getD i (env.uninitialised i),
    fun i hi => ?_, ?_⟩
  · simp [List.getD, hi]
  · have hlength : ((List.range maxReportNum).map s.data).length = maxReportNum := by simp
    have htake : ((List.range maxReportNum).map s.data).take maxReportNum =
        (List.range maxReportNum).map s.data := List.take_of_length_le (Nat.le_of_eq hlength)
    have hread : min ((List.range maxReportNum).map s.data).length maxReportNum ≥
        sizeofStatusReport := by
      rw [hlength]
      decide
    simp only [restart, storeReportData, loadReportData, Bool.not_true, Bool.false_eq_true, if_false,
      if_pos hread, htake]

theorem usedBelow_congr {data other : Nat → StatusReport} {n : Nat}
    (h : ∀ i, i < n → data i = other i) : usedBelow data n = usedBelow other n := by
  refine List.countP_congr fun i hi => ?_
  rw [h i (List.mem_range.1 hi)]

/-- What is restored: the entries in use, and their number as the current report. -/
theorem restart_spec (env : RestartEnv) (s : NasRuntime) :
    (restart env s).currentReport.toNat = usedBelow s.data maxReportNum ∧
      ∀ i, i < maxReportNum → (s.data i).inUse ≠ 0 → (restart env s).data i = s.data i := by
  obtain ⟨reports, hreports, hrestart⟩ := restart_eq env s
  obtain ⟨hcount, hentries⟩ := load_prefix reports (Nat.le_refl _)
  rw [hrestart]
  refine ⟨by rw [hcount, usedBelow_congr hreports], fun i hi huse => ?_⟩
  rw [hentries i hi (by rw [hreports i hi]; exact huse), hreports i hi]

/-- The reports survive exactly if the table has not been moved. -/
theorem Tabled.survives_iff (h : Tabled s cells) (env : RestartEnv) :
    SurvivesRestart env s ↔ cells.length ≤ 4095 := by
  have hmax : maxReportNum = 4096 := rfl
  obtain ⟨hcount, hentries⟩ := restart_spec env s
  have hcurrent := h.current
  constructor
  · intro hsurvives
    by_contra hmany
    have hbounded := hsurvives.bounded
    rw [hcount, h.used_sliding (by omega) (Nat.le_refl _)] at hbounded
    omega
  · intro hfew
    have hnumber : (restart env s).currentReport.toNat = cells.length := by
      rw [hcount, h.used_filling (by omega) (Nat.le_refl _)]
      omega
    have hsame : (restart env s).currentReport = s.currentReport :=
      UInt16.toNat.inj (show _ = s.currentReport.toNat by omega)
    refine ⟨hentries, hsame, by omega, ?_, fun cell => ?_⟩
    · rw [getCurrentCellReport, if_pos (by omega)]
      exact ⟨_, rfl⟩
    · rcases Nat.lt_or_eq_of_le (show (restart env s).currentReport.toNat ≤ maxReportNum - 1 by
        omega) with hroom | hfull
      · exact ⟨_, addReport_fill _ hroom⟩
      · exact ⟨_, addReport_shift _ hfull⟩

/-- The table after a sequence of reports. -/
theorem addReports_tabled (cells : List CellData) :
    ∃ s, addReports cells = .ok s ∧ Tabled s cells := by
  induction cells using List.reverseRecOn with
  | nil => exact ⟨.zero, rfl, tabled_zero⟩
  | append_singleton cells cell ih =>
      obtain ⟨s, hs, htabled⟩ := ih
      obtain ⟨next, reportId, _, hadd, _, hnext⟩ := htabled.add cell
      refine ⟨next, ?_, hnext⟩
      rw [addReports, exec_snoc hs, hadd]
      rfl

/-- The reports survive a restart exactly if there have been at most 4095 of them. -/
theorem reports_survive_iff (cells : List CellData) (env : RestartEnv) :
    ∃ s, addReports cells = .ok s ∧ (SurvivesRestart env s ↔ cells.length ≤ 4095) := by
  obtain ⟨s, hs, htabled⟩ := addReports_tabled cells
  exact ⟨s, hs, htabled.survives_iff env⟩

/-- A cell with these ids. -/
def sampleCell (cellId : UInt32) : CellData where
  mcc := 214
  mnc := 7
  typeOfService := 8
  lac := 0x1234
  phyCellId := 1
  cellId := cellId
  bsic := 0
  bcch := 0
  psc := 0
  arfcn := 100
  srxLev := -80
  rxLev := 20

/-- The current report is outside of the table after 4096 reports and a restart. -/
theorem reports_lost_after_rotation : ¬ ReportsSurvive := by
  intro h
  obtain ⟨s, hs, htabled⟩ := addReports_tabled (List.replicate 4096 (sampleCell 1))
  have hfew := (htabled.survives_iff ⟨true, none, 0, fun _ => .zero⟩).1 (h _ _ s hs)
  rw [List.length_replicate] at hfew
  omega

end OpenQti.Nas
