import OpenQti.Lib.Run
import OpenQti.Lib.Window
import OpenQti.Nas.Reports

/-!
# The table of reports as a sliding window

The table is filled from index 1 on and then moved down by one for each new report. The entries are
described by the cells for which `add_report` has been called, in the order of the calls, as an
instance of `Window.Slides`; the updates of known cells change entries in place.
-/

namespace OpenQti.Nas

open Machine Window

variable {s next : NasRuntime} {cell : CellData} {key : CellKey} {entry : StatusReport}

/-! ## The operations -/

@[simp]
theorem data_setEntry (i : Nat) : (s.setEntry i entry).data = Function.update s.data i entry := rfl

/-- The first `n` passes of the loop that moves the entries. -/
theorem rotate_prefix (data : Nat → StatusReport) (n i : Nat) :
    (List.range' 1 n).foldl (fun data k => Function.update data (k - 1) (data k)) data i =
      if i < n then data (i + 1) else data i := by
  induction n generalizing i with
  | zero => rfl
  | succ n ih =>
      rw [List.range'_concat, List.foldl_concat, Function.update_apply, ih, ih]
      split_ifs <;> grind

theorem rotateLog_apply (data : Nat → StatusReport) (i : Nat) :
    rotateLog data i = if i < maxReportNum - 1 then data (i + 1) else data i :=
  rotate_prefix data _ i

/-- The index of the last of the first `n` entries that match, or `-1`. -/
def lastMatch (key : CellKey) (data : Nat → StatusReport) : Nat → Int
  | 0 => -1
  | n + 1 => if (data n).report.key = key then n else lastMatch key data n

/-- The first `n` entries, marked where they match. -/
def markMatches (key : CellKey) (data : Nat → StatusReport) (n i : Nat) : StatusReport :=
  if i < n ∧ (data i).report.key = key then markFound (data i) else data i

/-- `is_in_report` stays inside of the table and returns the last match. -/
theorem isInReport_prefix {n : Nat} (hn : n ≤ maxReportNum) :
    (List.range n).foldlM (matchEntry key) (-1, s) =
      .ok (lastMatch key s.data n, { s with data := markMatches key s.data n }) := by
  induction n with
  | zero =>
      have hnone : markMatches key s.data 0 = s.data := by
        funext i
        simp [markMatches]
      rw [hnone]
      rfl
  | succ n ih =>
      have hsame : markMatches key s.data n n = s.data n := by simp [markMatches]
      rw [List.range_succ, List.foldlM_append, ih (by omega)]
      show List.foldlM (matchEntry key) (_, _) [n] = _
      simp only [List.foldlM_cons, List.foldlM_nil, bind_pure, matchEntry, hsame, lastMatch,
        if_pos (show n < maxReportNum by omega)]
      split_ifs with hmatch
      · simp only [NasRuntime.setEntry, Except.ok.injEq, Prod.mk.injEq, NasRuntime.mk.injEq, true_and,
          and_true]
        funext i
        rw [Function.update_apply]
        simp only [markMatches]
        split_ifs <;> grind
      · simp only [Except.ok.injEq, Prod.mk.injEq, NasRuntime.mk.injEq, true_and, and_true]
        funext i
        simp only [markMatches]
        split_ifs <;> grind

theorem isInReport_eq (h : s.currentReport.toNat ≤ maxReportNum) :
    isInReport s key = .ok (lastMatch key s.data s.currentReport.toNat,
      { s with data := markMatches key s.data s.currentReport.toNat }) :=
  isInReport_prefix h

/-- What `is_in_report` returns: `-1`, or the index of an entry that matches. -/
theorem lastMatch_cases (key : CellKey) (data : Nat → StatusReport) (n : Nat) :
    (lastMatch key data n = -1 ∧ ∀ i, i < n → (data i).report.key ≠ key) ∨
      ∃ i, i < n ∧ lastMatch key data n = i ∧ (data i).report.key = key := by
  induction n with
  | zero => exact .inl ⟨rfl, fun i hi => absurd hi (Nat.not_lt_zero i)⟩
  | succ n ih =>
      by_cases hmatch : (data n).report.key = key
      · exact .inr ⟨n, by omega, if_pos hmatch, hmatch⟩
      · rw [lastMatch, if_neg hmatch]
        rcases ih with ⟨hnone, hothers⟩ | ⟨i, hi, hfound, hkey⟩
        · refine .inl ⟨hnone, fun i hi => ?_⟩
          rcases Nat.lt_succ_iff_lt_or_eq.1 hi with hlt | rfl
          · exact hothers i hlt
          · exact hmatch
        · exact .inr ⟨i, by omega, hfound, hkey⟩

theorem addReport_fill (cell : CellData) (h : s.currentReport.toNat < maxReportNum - 1) :
    addReport s cell = .ok (s.currentReport.toNat + 1,
      { s with
        currentReport := s.currentReport + 1
        data := Function.update s.data (s.currentReport.toNat + 1)
          (fillReport (s.data (s.currentReport.toNat + 1)) cell) }) := by
  have hone : (1 : UInt16).toNat = 1 := rfl
  have hmax : maxReportNum = 4096 := rfl
  have hnext : (s.currentReport + 1).toNat = s.currentReport.toNat + 1 := by
    rw [UInt16.toNat_add, hone]
    omega
  have hroom : ¬ s.currentReport.toNat ≥ maxReportNum - 1 := by omega
  have hinside : s.currentReport.toNat + 1 < maxReportNum := by omega
  simp only [addReport, if_neg hroom, hnext, if_pos hinside, NasRuntime.setEntry]

theorem addReport_shift (cell : CellData) (h : s.currentReport.toNat = maxReportNum - 1) :
    addReport s cell = .ok (maxReportNum - 1,
      { s with
        data := Function.update (rotateLog s.data) (maxReportNum - 1)
          (fillReport (s.data (maxReportNum - 1)) cell) }) := by
  have hlast : rotateLog s.data (maxReportNum - 1) = s.data (maxReportNum - 1) := by
    rw [rotateLog_apply, if_neg (Nat.lt_irrefl _)]
  have hfull : s.currentReport.toNat ≥ maxReportNum - 1 := by omega
  have hinside : maxReportNum - 1 < maxReportNum := by decide
  simp only [addReport, if_pos hfull, NasRuntime.setEntry]
  simp only [h, hlast, if_pos hinside]

/-! ## The report of a cell -/

/-- The entry is the report of the cell: the fields that updates leave alone are those of the call
of `add_report`, and the signal level of that call is in the range. -/
structure IsReportOf (cell : CellData) (entry : StatusReport) : Prop where
  inUse : entry.inUse = 1
  found : entry.report.foundInNetwork = 1
  key : entry.report.key = cell.key
  rxMin : entry.report.rxLevelMin = cell.rxLev
  rxMax : entry.report.rxLevelMax = cell.rxLev
  srxMin : entry.report.srxLevelMin ≤ cell.srxLev
  srxMax : cell.srxLev ≤ entry.report.srxLevelMax

theorem isReportOf_fill (old : StatusReport) : IsReportOf cell (fillReport old cell) :=
  ⟨rfl, rfl, rfl, rfl, rfl, Int16.le_refl _, Int16.le_refl _⟩

/-- A change that is not seen in the reports: an entry stays the report of its cell, and an entry
that has never been used stays as it is. -/
structure InPlace (before after : StatusReport) : Prop where
  holds : ∀ {cell}, IsReportOf cell before → IsReportOf cell after
  unused : before = .zero → after = .zero

theorem InPlace.refl (entry : StatusReport) : InPlace entry entry := ⟨id, id⟩

theorem InPlace.trans {first second third : StatusReport} (h : InPlace first second)
    (h' : InPlace second third) : InPlace first third :=
  ⟨fun hreport => h'.holds (h.holds hreport), fun hzero => h'.unused (h.unused hzero)⟩

theorem ne_zero_of_lac (h : entry.report.lac ≠ 0) : entry ≠ .zero := by
  rintro rfl
  exact h rfl

theorem inPlace_markFound (h : entry.report.lac ≠ 0) : InPlace entry (markFound entry) :=
  ⟨fun hreport => { hreport with inUse := rfl, found := rfl },
    fun hzero => absurd hzero (ne_zero_of_lac h)⟩

theorem inPlace_updateLevels (h : entry.report.lac ≠ 0) :
    InPlace entry (updateLevels entry cell) := by
  refine ⟨fun hreport => ?_, fun hzero => absurd hzero (ne_zero_of_lac h)⟩
  unfold updateLevels
  split_ifs with hlow hhigh
  · exact ⟨hreport.inUse, hreport.found, hreport.key, hreport.rxMin, hreport.rxMax,
      Int16.le_trans (Int16.le_of_lt hlow) hreport.srxMin, hreport.srxMax⟩
  · exact ⟨hreport.inUse, hreport.found, hreport.key, hreport.rxMin, hreport.rxMax,
      hreport.srxMin, Int16.le_trans hreport.srxMax (Int16.le_of_lt hhigh)⟩
  · exact ⟨hreport.inUse, hreport.found, hreport.key, hreport.rxMin, hreport.rxMax,
      hreport.srxMin, hreport.srxMax⟩

/-- The lookup of a cell and the update of its levels: the cell is known if an entry below the
current one matches, and the entries change in place. -/
theorem updateKnownCell_spec (hcurrent : s.currentReport.toNat ≤ maxReportNum)
    (hlac : cell.lac ≠ 0) :
    ∃ known next, updateKnownCell s cell = .ok (known, next) ∧
      (known = true ↔ ∃ i, i < s.currentReport.toNat ∧ (s.data i).report.key = cell.key) ∧
      next.currentReport = s.currentReport ∧ ∀ i, InPlace (s.data i) (next.data i) := by
  have hmatch : ∀ {entry : StatusReport}, entry.report.key = cell.key → entry.report.lac ≠ 0 := by
    intro entry hkey hzero
    exact hlac (hzero ▸ (congrArg CellKey.lac hkey).symm)
  have hmarked : ∀ i, InPlace (s.data i) (markMatches cell.key s.data s.currentReport.toNat i) := by
    intro i
    unfold markMatches
    split_ifs with hfound
    · exact inPlace_markFound (hmatch hfound.2)
    · exact .refl _
  rw [updateKnownCell, isInReport_eq hcurrent]
  rcases lastMatch_cases cell.key s.data s.currentReport.toNat with ⟨hnone, hothers⟩ |
    ⟨i, hi, hfound, hkey⟩
  · rw [hnone]
    refine ⟨false, _, rfl, ?_, rfl, hmarked⟩
    constructor
    · intro h
      cases h
    · rintro ⟨i, hi, hkey⟩
      exact absurd hkey (hothers i hi)
  · have hlac : (markMatches cell.key s.data s.currentReport.toNat i).report.lac ≠ 0 := by
      rw [markMatches, if_pos ⟨hi, hkey⟩]
      exact hmatch hkey
    have hpositive : (i : Int) ≥ 0 := by omega
    simp only [hfound, bind, Except.bind, if_pos hpositive]
    refine ⟨true, _, rfl, ⟨fun _ => ⟨i, hi, hkey⟩, fun _ => rfl⟩, rfl, fun j => ?_⟩
    rw [data_setEntry, Int.toNat_natCast]
    by_cases hj : j = i
    · subst hj
      rw [Function.update_self]
      exact (hmarked j).trans (inPlace_updateLevels hlac)
    · rw [Function.update_of_ne hj]
      exact hmarked j

/-! ## The window -/

/-- The table after reports of these cells. -/
structure Tabled (s : NasRuntime) (cells : List CellData) : Prop where
  slides : Slides IsReportOf (· = .zero) (maxReportNum - 1) cells s.data
  current : s.currentReport.toNat = min cells.length (maxReportNum - 1)

theorem tabled_zero : Tabled .zero [] where
  slides := slides_nil fun _ => rfl
  current := rfl

variable {cells : List CellData}

theorem Tabled.current_le (h : Tabled s cells) : s.currentReport.toNat ≤ maxReportNum - 1 := by
  rw [h.current]
  exact Nat.min_le_right _ _

/-- The entries that are in use. -/
theorem Tabled.inUse_iff (h : Tabled s cells) {i : Nat} (hi : i < maxReportNum) :
    (s.data i).inUse ≠ 0 ↔ ¬ (i + (cells.length - (maxReportNum - 1)) = 0 ∨ cells.length < i) := by
  constructor
  · intro huse hfree
    rw [h.slides.unused i (by omega) hfree] at huse
    exact huse rfl
  · intro hused hfree
    have hreport := h.slides.used (i + (cells.length - (maxReportNum - 1)) - 1) i (by omega)
      (by omega) (by omega)
    rw [hreport.inUse] at hfree
    cases hfree

/-- A change in place. -/
theorem Tabled.change (h : Tabled s cells) (hcurrent : next.currentReport = s.currentReport)
    (hdata : ∀ i, InPlace (s.data i) (next.data i)) : Tabled next cells where
  slides := h.slides.change (fun p _ _ hreport => (hdata p).holds hreport)
    fun p _ hzero => (hdata p).unused hzero
  current := by rw [hcurrent, h.current]

/-- `add_report` stays inside of the table and enters the cell as the newest one. -/
theorem Tabled.add (h : Tabled s cells) (cell : CellData) :
    ∃ next reportId old, addReport s cell = .ok (reportId, next) ∧
      next.data reportId = fillReport old cell ∧ Tabled next (cells ++ [cell]) := by
  have hone : (1 : UInt16).toNat = 1 := rfl
  have hmax : maxReportNum = 4096 := rfl
  have hcurrent := h.current
  by_cases hroom : cells.length < maxReportNum - 1
  · have hlength : s.currentReport.toNat = cells.length := by omega
    have hnext : (s.currentReport + 1).toNat = cells.length + 1 := by
      rw [UInt16.toNat_add, hone]
      omega
    have hadd := addReport_fill (s := s) cell (by omega)
    rw [hlength] at hadd
    refine ⟨_, _, s.data (cells.length + 1), hadd, by simp only [Function.update_self],
      h.slides.fill hroom ?_ fun p hp => Function.update_of_ne hp _ _, ?_⟩
    · simp only [Function.update_self]
      exact isReportOf_fill _
    · simp only [hnext, List.length_append, List.length_singleton]
      omega
  · have hlast : s.currentReport.toNat = maxReportNum - 1 := by omega
    have hadd := addReport_shift cell hlast
    refine ⟨_, _, s.data (maxReportNum - 1), hadd, by simp only [Function.update_self],
      h.slides.shift (by omega) ?_ fun p hp => ?_, ?_⟩
    · simp only [Function.update_self]
      exact isReportOf_fill _
    · simp only [Function.update_of_ne (Nat.ne_of_lt hp), rotateLog_apply, if_pos hp]
    · simp only [hlast, List.length_append, List.length_singleton]
      omega

/-- The action is a call of `add_report`. -/
def NasAction.isAddReport : NasAction → Bool
  | .addReport _ => true
  | _ => false

/-- The cell, once for each call of `add_report`. -/
def learned (cell : CellData) (actions : List NasAction) : List CellData :=
  (actions.filter NasAction.isAddReport).map fun _ => cell

theorem inPlace_verified (h : entry.inUse = 1) :
    InPlace entry { entry with report := { entry.report with opencellidVerified := 1 } } := by
  refine ⟨fun hreport => ?_, fun hzero => ?_⟩
  · exact ⟨hreport.inUse, hreport.found, hreport.key, hreport.rxMin, hreport.rxMax, hreport.srxMin,
      hreport.srxMax⟩
  · rw [hzero] at h
    cases h

theorem Tabled.learn (h : Tabled s cells) (cell : CellData) (verified : Bool) :
    ∃ next reportId, learnCell s cell verified = .ok (next, [.addReport reportId]) ∧
      Tabled next (cells ++ [cell]) := by
  obtain ⟨added, reportId, old, hadd, hentry, htabled⟩ := h.add cell
  simp only [learnCell, hadd, bind, Except.bind]
  refine ⟨_, _, rfl, ?_⟩
  split_ifs
  · refine htabled.change rfl fun i => ?_
    rw [data_setEntry]
    by_cases hi : i = reportId
    · subst hi
      rw [Function.update_self]
      exact inPlace_verified (by rw [hentry]; rfl)
    · rw [Function.update_of_ne hi]
      exact .refl _
  · exact htabled

theorem learned_append (cell : CellData) (actions others : List NasAction) :
    learned cell (actions ++ others) = learned cell actions ++ learned cell others := by
  simp [learned]

/-- The end of a call leaves the table alone. -/
theorem noteCell_spec (env : NetworkEnv) (cell : CellData) (known : Bool) :
    (noteCell s env cell known).1.data = s.data ∧
      (noteCell s env cell known).1.currentReport = s.currentReport ∧
      ∀ action ∈ (noteCell s env cell known).2, action = .notifyCellidChange cell.cellId cell.lac := by
  unfold noteCell
  split_ifs <;> simp

theorem learned_notes (env : NetworkEnv) (cell : CellData) (known : Bool) :
    learned cell (noteCell s env cell known).2 = [] := by
  have hnotes : (noteCell s env cell known).2.filter NasAction.isAddReport = [] := by
    rw [List.filter_eq_nil_iff]
    intro action haction
    rw [(noteCell_spec env cell known).2.2 action haction]
    simp [NasAction.isAddReport]
  rw [learned, hnotes, List.map_nil]

/-- The switch over the modes leaves a known cell alone. An unknown one is learned, or it is not and
the table stays as it is. -/
theorem trackCell_cases (env : NetworkEnv) (cell : CellData) (known : Bool) :
    (∃ actions, trackCell s env cell known = .ok (s, actions) ∧ learned cell actions = [] ∧
      (known = true → actions = [])) ∨
      known = false ∧ ∃ verified, trackCell s env cell known = learnCell s cell verified := by
  cases known with
  | true =>
      left
      refine ⟨[], ?_, rfl, fun _ => rfl⟩
      simp only [trackCell, Bool.not_true, Bool.false_eq_true, and_false, if_false, ite_self]
  | false =>
      simp only [trackCell, Bool.not_false, if_true, and_true, true_and]
      split_ifs
      · exact .inr ⟨_, rfl⟩
      · exact .inl ⟨_, rfl, rfl, fun h => by cases h⟩
      · exact .inr ⟨_, rfl⟩
      · exact .inr ⟨_, rfl⟩
      · exact .inl ⟨_, rfl, rfl, fun h => by cases h⟩
      · exact .inl ⟨_, rfl, rfl, fun h => by cases h⟩

/-- The action is a shutdown of the modem. -/
def NasAction.isPowerdown : NasAction → Bool
  | .emergencyBasebandPowerdown _ _ _ => true
  | _ => false

/-- A new measurement stays inside of the table. A known cell is neither learned nor a reason to
shut down, and one that is not known is learned at most once. -/
theorem Tabled.process (h : Tabled s cells) (env : NetworkEnv) (hlac : cell.lac ≠ 0)
    (hid : cell.cellId ≠ 0) :
    ∃ known next actions, processCurrentNetworkData s env cell = .ok (next, actions) ∧
      (known = true ↔ ∃ i, i < s.currentReport.toNat ∧ (s.data i).report.key = cell.key) ∧
      (known = true → learned cell actions = [] ∧ ∀ action ∈ actions, ¬ action.isPowerdown) ∧
      (learned cell actions = [] ∨ learned cell actions = [cell]) ∧
      Tabled next (cells ++ learned cell actions) := by
  have hmax : maxReportNum = 4096 := rfl
  have hcurrent := h.current_le
  obtain ⟨known, updated, hupdate, hknown, hsame, hdata⟩ :=
    updateKnownCell_spec (s := s) (by omega) hlac
  have hupdated : Tabled updated cells := h.change hsame hdata
  have hprocess : ∀ tracked actions, trackCell updated env cell known = .ok (tracked, actions) →
      processCurrentNetworkData s env cell = .ok ((noteCell tracked env cell known).1,
        actions ++ (noteCell tracked env cell known).2) := by
    intro tracked actions htrack
    rw [processCurrentNetworkData, if_neg (by simp [hlac, hid]), hupdate]
    simp only [bind, Except.bind, htrack]
  have hnoted : ∀ tracked reported, Tabled tracked reported →
      Tabled (noteCell tracked env cell known).1 reported := by
    intro tracked reported htracked
    obtain ⟨hnotes, hkept, _⟩ := noteCell_spec (s := tracked) env cell known
    exact htracked.change hkept fun i => by rw [hnotes]; exact .refl _
  rcases trackCell_cases (s := updated) env cell known with ⟨actions, htrack, hquiet, hactions⟩ |
    ⟨hunknown, verified, htrack⟩
  · refine ⟨known, _, _, hprocess _ _ htrack, hknown, fun hk => ⟨?_, fun action haction => ?_⟩, ?_, ?_⟩
    · rw [learned_append, hquiet, learned_notes]
      rfl
    · rw [hactions hk, List.nil_append] at haction
      rw [(noteCell_spec env cell known).2.2 action haction]
      simp [NasAction.isPowerdown]
    · rw [learned_append, hquiet, learned_notes]
      exact .inl rfl
    · rw [learned_append, hquiet, learned_notes, List.append_nil, List.append_nil]
      exact hnoted _ _ hupdated
  · obtain ⟨tracked, reportId, hlearn, htracked⟩ := hupdated.learn cell verified
    rw [hlearn] at htrack
    refine ⟨known, _, _, hprocess _ _ htrack, hknown, fun hk => ?_, ?_, ?_⟩
    · rw [hunknown] at hk
      cases hk
    · rw [learned_append, learned_notes]
      exact .inr rfl
    · rw [learned_append, learned_notes]
      exact hnoted _ _ htracked

/-! ## Runs -/

/-- A report is added, or a measurement is processed. -/
inductive ReportOp where
  | addReport (cell : CellData)
  | process (env : NetworkEnv) (cell : CellData)

/-- The table together with the cells for which `add_report` has been called. -/
def tableStep (state : NasRuntime × List CellData) (op : ReportOp) :
    Except ReportFault (NasRuntime × List CellData) :=
  match op with
  | .addReport cell =>
      match addReport state.1 cell with
      | .ok (_, next) => .ok (next, state.2 ++ [cell])
      | .error fault => .error fault
  | .process env cell =>
      match processCurrentNetworkData state.1 env cell with
      | .ok (next, actions) => .ok (next, state.2 ++ learned cell actions)
      | .error fault => .error fault

/-- Up to 4095 reports are in the entries from 1 on, and the others are not in use. From then on the
table ends with the most recent reports. The signal levels of a report are a range. -/
structure SlidingWindow (s : NasRuntime) (cells : List CellData) : Prop where
  filling : cells.length ≤ 4095 →
    (∀ k (hk : k < cells.length), IsReportOf cells[k] (s.data (k + 1))) ∧
      ∀ i, i < 4096 → i = 0 ∨ cells.length < i → (s.data i).inUse = 0
  sliding : ∀ (_ : 4095 < cells.length) (k : Nat) (hk : k < min cells.length 4096),
    IsReportOf cells[cells.length - min cells.length 4096 + k]
      (s.data (4096 - min cells.length 4096 + k))
  current : s.currentReport.toNat = min cells.length 4095
  levels : ∀ i, i < 4096 → (s.data i).inUse ≠ 0 →
    (s.data i).report.srxLevelMin ≤ (s.data i).report.srxLevelMax

theorem Tabled.window (h : Tabled s cells) : SlidingWindow s cells := by
  have hmax : maxReportNum - 1 = 4095 := rfl
  have hslides := h.slides
  rw [hmax] at hslides
  constructor
  case filling =>
    intro hfew
    refine ⟨fun k hk => hslides.used k (k + 1) hk (by omega) (by omega), fun i hi hfree => ?_⟩
    rw [hslides.unused i (by omega) (by omega)]
    rfl
  case sliding =>
    intro hmany k hk
    exact hslides.used _ _ (by omega) (by omega) (by omega)
  case current => exact h.current
  case levels =>
    intro i hi huse
    by_cases hfree : i + (cells.length - 4095) = 0 ∨ cells.length < i
    · rw [hslides.unused i (by omega) hfree] at huse
      exact absurd rfl huse
    · have hreport := hslides.used (i + (cells.length - 4095) - 1) i (by omega) (by omega) (by omega)
      exact Int16.le_trans hreport.srxMin hreport.srxMax

theorem Tabled.step (h : Tabled s cells) (op : ReportOp) :
    ∃ next reported, tableStep (s, cells) op = .ok (next, reported) ∧ Tabled next reported := by
  cases op with
  | addReport cell =>
      obtain ⟨next, reportId, _, hadd, _, htabled⟩ := h.add cell
      exact ⟨next, _, by simp only [tableStep, hadd], htabled⟩
  | process env cell =>
      by_cases hcell : cell.lac = 0 ∨ cell.cellId = 0
      · refine ⟨s, cells, ?_, h⟩
        simp [tableStep, processCurrentNetworkData, if_pos hcell, learned]
      · rw [not_or] at hcell
        obtain ⟨_, next, actions, hprocess, _, _, _, htabled⟩ := h.process env hcell.1 hcell.2
        exact ⟨next, _, by simp only [tableStep, hprocess], htabled⟩

/-- Reports may be added and measurements processed in any order: every access is inside of the
table, and the table is a window over the reports in the order of the calls. -/
theorem reports_slide (ops : List ReportOp) :
    ∃ s cells, exec tableStep (.zero, []) ops = .ok (s, cells) ∧ SlidingWindow s cells := by
  have htabled : ∀ (ops : List ReportOp) s cells, Tabled s cells →
      ∃ next reported, exec tableStep (s, cells) ops = .ok (next, reported) ∧
        Tabled next reported := by
    intro ops
    induction ops with
    | nil => exact fun s cells h => ⟨s, cells, rfl, h⟩
    | cons op ops ih =>
        intro s cells h
        obtain ⟨after, reported, hstep, hafter⟩ := h.step op
        obtain ⟨next, all, hexec, hnext⟩ := ih after reported hafter
        exact ⟨next, all, by rw [exec, hstep]; exact hexec, hnext⟩
  obtain ⟨s, cells, hexec, h⟩ := htabled ops .zero [] tabled_zero
  exact ⟨s, cells, hexec, h.window⟩

end OpenQti.Nas
