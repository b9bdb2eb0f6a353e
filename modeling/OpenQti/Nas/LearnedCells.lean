import Mathlib.Data.Finset.Card
import OpenQti.Nas.ReportTable

/-!
# Cells that have been learned

A cell that has been entered into the table should be known from then on, so that no strict mode
shuts the modem down because of it. `is_in_report` looks at the entries below the current one, and
the current one is the report that was added last: a second measurement of that cell finds nothing.
`learned_cells_known` says that this is the only measurement that goes wrong.
-/

namespace OpenQti.Nas

open Machine Window

/-- A call of `process_current_network_data`, with the settings at that time. -/
structure Measurement where
  env : NetworkEnv
  cell : CellData

/-- The table, the cells that have been added to it, and those that have been measured. -/
structure Learning where
  runtime : NasRuntime
  added : List CellData
  seen : Finset CellKey

def Learning.initial : Learning := ⟨.zero, [], ∅⟩

/-- A measurement is processed. -/
def learnStep (state : Learning) (call : Measurement) : Except ReportFault Learning :=
  match processCurrentNetworkData state.runtime call.env call.cell with
  | .ok (next, actions) =>
      .ok ⟨next, state.added ++ learned call.cell actions, insert call.cell.key state.seen⟩
  | .error fault => .error fault

/-- The cell has an area code and an id, and fewer than 4095 cells have been measured with it. -/
structure FewCells (state : Learning) (call : Measurement) : Prop where
  lac : call.cell.lac ≠ 0
  cellId : call.cell.cellId ≠ 0
  few : (insert call.cell.key state.seen).card < 4095

/-- No two reports in use are of the same cell. -/
def UniqueKeys (s : NasRuntime) : Prop :=
  ∀ i j, i < maxReportNum → j < maxReportNum → (s.data i).inUse ≠ 0 → (s.data j).inUse ≠ 0 →
    (s.data i).report.key = (s.data j).report.key → i = j

/-- The cell has been added by an earlier call. -/
def Learning.HasAdded (state : Learning) (key : CellKey) : Prop :=
  key ∈ state.added.map CellData.key

/-- The measurement finds its cell if it has been added, does not add it again, and shuts the modem
down only if it has not been added. -/
structure KnowsLearned (state : Learning) (call : Measurement) : Prop where
  found : state.HasAdded call.cell.key →
    ∃ reportId next, isInReport state.runtime call.cell.key = .ok (reportId, next) ∧ 0 ≤ reportId
  outcome : ∃ next actions,
    processCurrentNetworkData state.runtime call.env call.cell = .ok (next, actions) ∧
      UniqueKeys next ∧
      ∀ action ∈ actions, action.isPowerdown → ¬ state.HasAdded call.cell.key

/-- Every measurement knows the cells that have been learned before. -/
def LearnedCellsKnown : Prop :=
  ∀ (calls : List Measurement) (state : Learning),
    Run learnStep FewCells .initial calls state →
    ∀ call, FewCells state call → KnowsLearned state call

/-- The measurement is not of the cell that has been added last. -/
def NotNewest (state : Learning) (call : Measurement) : Prop :=
  (state.runtime.data state.runtime.currentReport.toNat).report.key ≠ call.cell.key

instance (state : Learning) (call : Measurement) : Decidable (NotNewest state call) :=
  inferInstanceAs (Decidable (_ ≠ _))

/-! ## The table while cells are learned -/

variable {state next : Learning} {call : Measurement}

/-- The cells in the table are different from each other and have all been measured. -/
structure Learns (state : Learning) : Prop where
  tabled : Tabled state.runtime state.added
  nodup : (state.added.map CellData.key).Nodup
  measured : ∀ key, state.HasAdded key → key ∈ state.seen
  few : state.seen.card < 4095

theorem learns_initial : Learns .initial where
  tabled := tabled_zero
  nodup := List.nodup_nil
  measured := fun _ h => absurd h List.not_mem_nil
  few := by decide

/-- Distinct keys among those that have been measured. -/
theorem length_lt_of_nodup {cells : List CellData} {seen : Finset CellKey}
    (hnodup : (cells.map CellData.key).Nodup)
    (hmeasured : ∀ key ∈ cells.map CellData.key, key ∈ seen) (hfew : seen.card < 4095) :
    cells.length < 4095 := by
  have hsubset : (cells.map CellData.key).toFinset ⊆ seen := by
    intro key hkey
    exact hmeasured key (List.mem_toFinset.1 hkey)
  have hcard := Finset.card_le_card hsubset
  rw [List.toFinset_card_of_nodup hnodup, List.length_map] at hcard
  omega

theorem Learns.length_lt (h : Learns state) : state.added.length < 4095 :=
  length_lt_of_nodup h.nodup h.measured h.few

/-- The entry of a cell that has been added. -/
theorem entry_key {s : NasRuntime} {cells : List CellData} (h : Tabled s cells)
    (hfew : cells.length < 4095) {k : Nat} (hk : k < cells.length) :
    (s.data (k + 1)).report.key = cells[k].key := by
  have hmax : maxReportNum - 1 = 4095 := rfl
  exact (h.slides.used k (k + 1) hk (by omega) (by omega)).key

/-- An entry that matches a cell with an area code is one that has been filled. -/
theorem filled_of_match {s : NasRuntime} {cells : List CellData} {cell : CellData} {i : Nat}
    (h : Tabled s cells) (hfew : cells.length < 4095) (hlac : cell.lac ≠ 0)
    (hi : i ≤ cells.length) (hkey : (s.data i).report.key = cell.key) :
    ∃ k, ∃ hk : k < cells.length, i = k + 1 ∧ cells[k].key = cell.key := by
  cases i with
  | zero =>
      have hmax : maxReportNum - 1 = 4095 := rfl
      rw [h.slides.unused 0 (by omega) (.inl (by omega))] at hkey
      exact absurd (congrArg CellKey.lac hkey).symm hlac
  | succ k =>
      have hk : k < cells.length := by omega
      exact ⟨k, hk, rfl, by rw [← entry_key h hfew hk, hkey]⟩

/-- The keys are different. -/
theorem same_of_key {cells : List CellData} {i j : Nat} (hnodup : (cells.map CellData.key).Nodup)
    (hi : i < cells.length) (hj : j < cells.length) (hkey : cells[i].key = cells[j].key) : i = j := by
  have hlength : (cells.map CellData.key).length = cells.length := List.length_map _
  have hsame : (cells.map CellData.key)[i] = (cells.map CellData.key)[j] := by
    rw [List.getElem_map, List.getElem_map, hkey]
  exact hnodup.getElem_inj_iff.1 hsame

theorem unique_of_nodup {s : NasRuntime} {cells : List CellData} (h : Tabled s cells)
    (hfew : cells.length < 4095) (hnodup : (cells.map CellData.key).Nodup) : UniqueKeys s := by
  have hmax : maxReportNum - 1 = 4095 := rfl
  intro i j hi hj huse huse' hkey
  rw [h.inUse_iff hi] at huse
  rw [h.inUse_iff hj] at huse'
  obtain ⟨i, rfl⟩ : ∃ k, i = k + 1 := ⟨i - 1, by omega⟩
  obtain ⟨j, rfl⟩ : ∃ k, j = k + 1 := ⟨j - 1, by omega⟩
  rw [entry_key h hfew (by omega), entry_key h hfew (by omega)] at hkey
  rw [same_of_key hnodup (by omega) (by omega) hkey]

/-- The current report is the one that has been added last. -/
theorem Learns.current (h : Learns state) :
    state.runtime.currentReport.toNat = state.added.length := by
  have hlength := h.length_lt
  have hmax : maxReportNum - 1 = 4095 := rfl
  rw [h.tabled.current]
  omega

/-- A cell that has been added, and not last, is known. -/
theorem Learns.known (h : Learns state) (hadded : state.HasAdded call.cell.key)
    (hnewest : NotNewest state call) :
    ∃ i, i < state.runtime.currentReport.toNat ∧
      (state.runtime.data i).report.key = call.cell.key := by
  obtain ⟨cell, hcell, hkey⟩ := List.mem_map.1 hadded
  obtain ⟨k, hk, rfl⟩ := List.getElem_of_mem hcell
  have hentry := (entry_key h.tabled h.length_lt hk).trans hkey
  refine ⟨k + 1, ?_, hentry⟩
  have hcurrent := h.current
  rcases Nat.lt_or_eq_of_le (show k + 1 ≤ state.added.length by omega) with hlt | hlast
  · omega
  · rw [NotNewest, hcurrent, ← hlast] at hnewest
    exact absurd hentry hnewest

/-- A measurement of another cell than the last keeps the cells apart. -/
theorem Learns.step (h : Learns state) (hcall : FewCells state call)
    (hnewest : NotNewest state call) :
    KnowsLearned state call ∧ ∀ next, learnStep state call = .ok next → Learns next := by
  obtain ⟨known, after, actions, hprocess, hknown, hquiet, hlearned, htabled⟩ :=
    h.tabled.process call.env hcall.lac hcall.cellId
  have hnotadded : learned call.cell actions = [call.cell] → ¬ state.HasAdded call.cell.key := by
    intro hcell hadded
    rw [(hquiet (hknown.2 (h.known hadded hnewest))).1] at hcell
    cases hcell
  have hnodup : ((state.added ++ learned call.cell actions).map CellData.key).Nodup := by
    rcases hlearned with hnone | hcell
    · rw [hnone, List.append_nil]
      exact h.nodup
    · rw [hcell, List.map_append, List.map_singleton]
      exact h.nodup.append (List.nodup_singleton _) (List.disjoint_singleton.2 (hnotadded hcell))
  have hmeasured : ∀ key ∈ (state.added ++ learned call.cell actions).map CellData.key,
      key ∈ insert call.cell.key state.seen := by
    intro key hkey
    rw [List.map_append, List.mem_append] at hkey
    rcases hkey with hold | hnew
    · exact Finset.mem_insert_of_mem (h.measured key hold)
    · rcases hlearned with hnone | hcell
      · rw [hnone] at hnew
        cases hnew
      · rw [hcell, List.map_singleton, List.mem_singleton] at hnew
        rw [hnew]
        exact Finset.mem_insert_self _ _
  refine ⟨⟨fun hadded => ?_, after, actions, hprocess, ?_, fun action haction hpowerdown hadded => ?_⟩,
    fun next hnext => ?_⟩
  · have hmax : maxReportNum = 4096 := rfl
    have hlength := h.length_lt
    have hcurrent := h.current
    obtain ⟨i, hi, hkey⟩ := h.known hadded hnewest
    rw [isInReport_eq (by omega)]
    refine ⟨_, _, rfl, ?_⟩
    rcases lastMatch_cases call.cell.key state.runtime.data state.runtime.currentReport.toNat with
      ⟨_, hothers⟩ | ⟨j, _, hfound, _⟩
    · exact absurd hkey (hothers i hi)
    · rw [hfound]
      omega
  · exact unique_of_nodup htabled (length_lt_of_nodup hnodup hmeasured hcall.few) hnodup
  · exact (hquiet (hknown.2 (h.known hadded hnewest))).2 action haction hpowerdown
  · rw [learnStep, hprocess] at hnext
    cases hnext
    exact ⟨htabled, hnodup, hmeasured, hcall.few⟩

/-- A measurement of the last cell does not find it. -/
theorem Learns.newest_missed (h : Learns state) (hcall : FewCells state call)
    (hknows : KnowsLearned state call) : NotNewest state call := by
  have hmax : maxReportNum = 4096 := rfl
  have hlength := h.length_lt
  have hcurrent := h.current
  intro hnewest
  obtain ⟨last, hlast, hposition, hkey⟩ :=
    filled_of_match h.tabled hlength hcall.lac (Nat.le_of_eq hcurrent) hnewest
  have hadded : state.HasAdded call.cell.key :=
    List.mem_map.2 ⟨state.added[last], List.getElem_mem hlast, hkey⟩
  obtain ⟨reportId, after, hfound, hpositive⟩ := hknows.found hadded
  rw [isInReport_eq (by omega)] at hfound
  rcases lastMatch_cases call.cell.key state.runtime.data state.runtime.currentReport.toNat with
    ⟨hnone, _⟩ | ⟨i, hi, _, hmatch⟩
  · rw [hnone] at hfound
    cases hfound
    omega
  · obtain ⟨k, hk, rfl, hsame⟩ :=
      filled_of_match h.tabled hlength hcall.lac (by omega) hmatch
    have hequal := same_of_key h.nodup hk hlast (hsame.trans hkey.symm)
    omega

/-! ## Runs -/

/-- In every run in which no measurement is of the cell that was added last, the reports are of
different cells, and the next measurement knows what has been learned exactly if it is not of the cell
that was added last either. -/
theorem learned_cells_known {calls : List Measurement}
    (h : Run learnStep (fun state call => FewCells state call ∧ NotNewest state call) .initial calls
      state) :
    UniqueKeys state.runtime ∧
      ∀ call, FewCells state call → (KnowsLearned state call ↔ NotNewest state call) := by
  have hlearns : Learns state := by
    refine Run.invariant Learns learns_initial ?_ h
    intro state call next hlearns hcall hnext
    exact (hlearns.step hcall.1 hcall.2).2 next hnext
  refine ⟨unique_of_nodup hlearns.tabled hlearns.length_lt hlearns.nodup, fun call hcall => ?_⟩
  exact ⟨hlearns.newest_missed hcall, fun hnewest => (hlearns.step hcall hnewest).1⟩

/-- A cell is measured in a mode without a database. -/
def sampleMeasurement (mode : UInt8) (cellId : UInt32) : Measurement where
  env := ⟨mode, 0, -22⟩
  cell :=
    { mcc := 214, mnc := 7, typeOfService := 8, lac := 0x1234, phyCellId := 1, cellId := cellId
      bsic := 0, bcch := 0, psc := 0, arfcn := 100, srxLev := -80, rxLev := 20 }

theorem fewCells_sample (mode : UInt8) (cellId : UInt32) (hid : cellId ≠ 0)
    (hseen : state.seen.card < 4094) : FewCells state (sampleMeasurement mode cellId) where
  lac := by simp [sampleMeasurement]
  cellId := hid
  few := Nat.lt_of_le_of_lt (Finset.card_insert_le _ _) (by omega)

/-- A cell is learned, and measured once more in the strict mode. -/
theorem learned_cell_missed : ¬ LearnedCellsKnown := by
  intro h
  have hrun : ∃ next, Run learnStep FewCells .initial [sampleMeasurement 0 5] next ∧
      next.seen.card = 1 ∧ next.HasAdded (sampleMeasurement 1 5).cell.key ∧
      ∃ after, isInReport next.runtime (sampleMeasurement 1 5).cell.key = .ok (-1, after) := by
    refine ⟨_, .snoc (.nil _) (fewCells_sample 0 5 (by decide) (by decide)) rfl, by decide, ?_,
      _, rfl⟩
    exact List.mem_singleton.2 rfl
  obtain ⟨next, hrun, hseen, hadded, after, hmissed⟩ := hrun
  obtain ⟨reportId, _, hfound, hpositive⟩ := (h _ _ hrun (sampleMeasurement 1 5)
    (fewCells_sample 1 5 (by decide) (by omega))).found hadded
  rw [hmissed] at hfound
  cases hfound
  omega

/-- Two cells are learned, and the first one is measured in the strict mode. -/
theorem learned_cell_found :
    ∃ state, Run learnStep (fun state call => FewCells state call ∧ NotNewest state call) .initial
        [sampleMeasurement 0 5, sampleMeasurement 0 6] state ∧
      KnowsLearned state (sampleMeasurement 1 5) := by
  have hrun : ∃ state, Run learnStep (fun state call => FewCells state call ∧ NotNewest state call)
      .initial [sampleMeasurement 0 5, sampleMeasurement 0 6] state ∧ state.seen.card = 2 ∧
      NotNewest state (sampleMeasurement 1 5) := by
    refine ⟨_, .snoc (.snoc (.nil _) ⟨fewCells_sample 0 5 (by decide) (by decide), ?_⟩ rfl)
      ⟨fewCells_sample 0 6 (by decide) ?_, ?_⟩ rfl, ?_, ?_⟩
    all_goals decide
  obtain ⟨state, hrun, hseen, hnewest⟩ := hrun
  exact ⟨state, hrun, ((learned_cells_known hrun).2 _
    (fewCells_sample 1 5 (by decide) (by omega))).2 hnewest⟩

end OpenQti.Nas
