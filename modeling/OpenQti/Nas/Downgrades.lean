import OpenQti.Audio.Routing
import OpenQti.Nas.OpenCellid

/-!
# Warnings about a downgrade

`nas_update_network_data` compares the type of the network in a signal report with the one before,
and warns the user if it is lower. A network may be left for a slower one just because of a call,
so there is to be no warning during a call; the code asks for a call where it means to ask for none.
`downgrade_warned_iff` follows both histories, that of the reports and that of the calls, and says
that a report is treated right exactly if it is no downgrade.

Signal tracking and the notification of downgrades are enabled throughout.
-/

namespace OpenQti.Nas

open Audio Machine

/-- The audio, with the id of the call that is active, and the state of the network. -/
structure NetworkState where
  audio : AudioState
  nas : OcidRuntime

/-- A step of one of the two: something about a call, or a signal report. -/
inductive NetworkOp where
  | audio (op : AudioOp)
  | report (networkType signalLevel : UInt8)

/-- `get_current_call_id()`. -/
def getCurrentCallId (s : AudioState) : UInt8 := s.currentActiveCallId

/-- What `nas_update_network_data` reads, with both settings on. -/
def trackingEnv (s : AudioState) : DowngradeEnv := ⟨true, true, getCurrentCallId s⟩

def networkStep (s : NetworkState) : NetworkOp → Except AudioFault NetworkState
  | .audio op => do
      let audio ← audioStep s.audio op
      .ok { s with audio := audio }
  | .report networkType signalLevel =>
      .ok { s with
        nas := (nasUpdateNetworkData s.nas (trackingEnv s.audio) networkType signalLevel).1 }

/-- The report has the warning put into the queue. -/
def warns (s : NetworkState) (networkType signalLevel : UInt8) : Bool :=
  (nasUpdateNetworkData s.nas (trackingEnv s.audio) networkType signalLevel).2

/-! ## The property -/

/-- The type of a network as the reports number it. -/
def typeNumber (networkType : UInt8) : UInt8 :=
  if networkType = SignalReport.cdma.code ∨ networkType = SignalReport.cdmaHdr.code then 1
  else if networkType = SignalReport.gsm.code then 4
  else if networkType = SignalReport.wcdma.code then 5
  else if networkType = SignalReport.lte.code then 8
  else 0

/-- The type of the network before a step: that of the last report, or the one at the start. -/
def typeBefore (start : NetworkState) (ops : List NetworkOp) : UInt8 :=
  (ops.filterMap fun
    | .report networkType _ => some (typeNumber networkType)
    | .audio _ => none).getLastD start.nas.currState.networkType

/-- The report is about a lower network than the one before. -/
def Downgrade (start : NetworkState) (ops : List NetworkOp) (networkType : UInt8) : Prop :=
  typeNumber networkType < typeBefore start ops

/-- After these steps, a report is warned of exactly if it is a downgrade and no call is active. -/
def WarnedRight (start : NetworkState) (ops : List NetworkOp) (s : NetworkState)
    (networkType signalLevel : UInt8) : Prop :=
  warns s networkType signalLevel = true ↔
    Downgrade start ops networkType ∧ s.audio.currentActiveCallId = 0

/-- Every report is treated right, whatever happened before. -/
def AlwaysWarnedRight : Prop :=
  ∀ (start : NetworkState) (ops : List NetworkOp) (s : NetworkState),
    Run networkStep Anything start ops s →
    ∀ networkType signalLevel, WarnedRight start ops s networkType signalLevel

/-! ## The steps -/

variable {start s next : NetworkState} {ops : List NetworkOp}

theorem current_type_report (networkType signalLevel : UInt8) :
    (nasUpdateNetworkData s.nas (trackingEnv s.audio) networkType
      signalLevel).1.currState.networkType = typeNumber networkType := rfl

/-- What a step does to the type of the network: a report sets it, nothing else does. -/
theorem network_step_type {op : NetworkOp} (h : networkStep s op = .ok next) :
    (∃ audio, op = .audio audio ∧
        next.nas.currState.networkType = s.nas.currState.networkType) ∨
      ∃ networkType signalLevel, op = .report networkType signalLevel ∧
        next.nas.currState.networkType = typeNumber networkType := by
  cases op with
  | audio op =>
      obtain ⟨audio, -, hnext⟩ := Except.bind_ok h
      cases hnext
      exact .inl ⟨op, rfl, rfl⟩
  | report networkType signalLevel =>
      cases h
      exact .inr ⟨networkType, signalLevel, rfl, current_type_report _ _⟩

/-- The state remembers the type of the last report. -/
theorem type_before_eq (h : Run networkStep Anything start ops s) :
    s.nas.currState.networkType = typeBefore start ops := by
  induction h with
  | nil => rfl
  | snoc hrun _ hstep ih =>
      rw [typeBefore, List.filterMap_append]
      obtain ⟨audio, rfl, htype⟩ | ⟨networkType, signalLevel, rfl, htype⟩ :=
        network_step_type hstep
      · rw [htype, ih]
        simp [typeBefore]
      · rw [htype]
        simp

/-- A report is warned of if it is a downgrade during a call. -/
theorem warns_iff (networkType signalLevel : UInt8) :
    warns s networkType signalLevel = true ↔
      typeNumber networkType < s.nas.currState.networkType ∧
        s.audio.currentActiveCallId ≠ 0 := by
  have hwarns : warns s networkType signalLevel =
      (decide (s.audio.currentActiveCallId ≠ 0) &&
        decide (typeNumber networkType < s.nas.currState.networkType)) := rfl
  rw [hwarns, Bool.and_eq_true, decide_eq_true_iff, decide_eq_true_iff, and_comm]

/-! ## Runs -/

/-- In every state that is reached, a report is treated right exactly if it is no downgrade: a
downgrade is warned of during a call, and not without one. -/
theorem downgrade_warned_iff (h : Run networkStep Anything start ops s)
    (networkType signalLevel : UInt8) :
    WarnedRight start ops s networkType signalLevel ↔ ¬ Downgrade start ops networkType := by
  rw [WarnedRight, warns_iff, type_before_eq h]
  by_cases hlower : Downgrade start ops networkType
  · have hlt : typeNumber networkType < typeBefore start ops := hlower
    simp only [hlt, hlower, true_and, not_true_eq_false, iff_false]
    intro hsame
    by_cases hcall : s.audio.currentActiveCallId = 0
    · exact hsame.2 hcall hcall
    · exact hcall (hsame.1 hcall)
  · have hnot : ¬ typeNumber networkType < typeBefore start ops := hlower
    simp only [hnot, hlower, false_and, not_false_eq_true]

/-- Before the first report and the first call. -/
def initialNetwork : NetworkState where
  audio := .default
  nas := ⟨⟨0, 0⟩, ⟨0, 0⟩, 0, none, 0⟩

/-- LTE is left for GSM and no call is active: the user is not warned. -/
theorem downgrade_without_call : ¬ AlwaysWarnedRight := by
  intro h
  have hrun : Run networkStep Anything initialNetwork [.report 0x14 60]
      { initialNetwork with nas := ⟨⟨8, 30⟩, ⟨0, 0⟩, 0, none, 0⟩ } :=
    .snoc (.nil _) trivial rfl
  have hright := (h _ _ _ hrun 0x12 40).2 ⟨by unfold Downgrade; decide, rfl⟩
  exact absurd hright (by decide)

/-- A report of LTE after one of GSM, during a call. -/
theorem upgrade_in_call :
    ∃ s, Run networkStep Anything initialNetwork
        [.report 0x12 40, .audio (sampleOp .established)] s ∧
      WarnedRight initialNetwork [.report 0x12 40, .audio (sampleOp .established)] s 0x14 60 := by
  have hrun : ∃ s, Run networkStep Anything initialNetwork
      [.report 0x12 40, .audio (sampleOp .established)] s :=
    ⟨_, .snoc (.snoc (.nil _) trivial rfl) trivial rfl⟩
  obtain ⟨s, hrun⟩ := hrun
  exact ⟨s, hrun, (downgrade_warned_iff hrun 0x14 60).2 (by unfold Downgrade; decide)⟩

end OpenQti.Nas
