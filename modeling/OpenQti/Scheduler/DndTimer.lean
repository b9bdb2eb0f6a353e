import OpenQti.Call.FreshCalls
import OpenQti.Chat.QueueWrites
import OpenQti.Scheduler.Tasks

/-!
# The timer of the do-not-disturb mode

The do-not-disturb mode is entered together with a task that ends it. The command that leaves the
mode removes the task, and the task is removed when it has run. Two steps forget about the other
half: a simulated call that times out resets the mode and leaves the task, and the command that
deletes a task leaves the mode, for good. A task that is read at start-up has no mode either.
`dnd_timed` says that the mode is on exactly as long as there is a task, if none of this happens.
-/

namespace OpenQti.Scheduler

open Call Chat Machine Slots Except

/-- The task is to end the do-not-disturb mode. -/
def Task.isTimer (task : Task) : Bool := task.type = .dndClear ∧ task.status = .pending

/-- The tasks that are to end the do-not-disturb mode. -/
def timers (s : SchRuntime) : List Task := contents Task.isTimer maxNumTasks s.tasks

/-- The mode is on if and only if there is exactly one task that is to end it. -/
def Timed (s : SchRuntime) : Prop := s.call.doNotDisturb = true ↔ (timers s).length = 1

/-- A step of the simulated calls. The mode is set by other steps. -/
structure CallEvent where
  op : CallOp
  other : ∀ en, op ≠ .setDoNotDisturb en

/-- A task that has nothing to do with the mode. -/
structure OtherTask where
  task : Task
  other : task.type ≠ .dndClear

/-- What can happen to the tasks and the mode. -/
inductive TaskOp where
  /-- 'enable dnd for'. -/
  | enableDnd (env : ChatEnv) (clock : Clock) (command : List UInt8)
  | disableDnd
  | deleteTask (command : List UInt8)
  | pass (curTime : Int)
  | call (event : CallEvent)
  | addTask (clock : Clock) (added : OtherTask)

def taskStep (s : SchRuntime) (op : TaskOp) : Except TaskFault SchRuntime :=
  match op with
  | .enableDnd env clock command => .ok (suspendCallNotifications s env clock command)
  | .disableDnd => .ok (disableDnd s)
  | .deleteTask command => deleteTask s command
  | .pass curTime => schedulerPass s curTime
  | .call event =>
      match callNext s.call event.op with
      | .error fault => .error (.call fault)
      | .ok call => .ok { s with call := call }
  | .addTask clock added => .ok (addTask s clock added.task).2

/-- The mode always ends. -/
def DndAlwaysEnds : Prop :=
  ∀ (stored : Option (Nat → Task)) (ops : List TaskOp) (s : SchRuntime),
    Run taskStep Anything (startUp stored) ops s → Timed s

/-- The step ends a simulated call in which nothing has been said, or which nobody has answered, for
too long. -/
def TimesOut (s : CallRt) (op : CallOp) : Prop := op = .pass false ∧ Calling s ∧ Ends s

/-- The step forgets neither the mode nor the task: a task that is deleted is not one that ends the
mode, and no simulated call times out in the mode. -/
def KeepsTimer (s : SchRuntime) : TaskOp → Prop
  | .deleteTask command =>
      ∀ i : Nat, i < maxNumTasks → taskToDelete command = some ↑i → (s.tasks i).isTimer = false
  | .call event => s.call.doNotDisturb = true → ¬ TimesOut s.call event.op
  | _ => True

/-- No task that ends the mode is found at start-up. -/
def NoTimers (stored : Option (Nat → Task)) : Prop := timers (startUp stored) = []

variable {s next : SchRuntime} {op : TaskOp} {i : Nat}

/-! ## The array -/

theorem removed_isTimer (task : Task) : task.removed.isTimer = false := rfl

/-- Slots that neither held nor hold a timer. -/
theorem timers_same (h : ∀ j, j < maxNumTasks → next.tasks j = s.tasks j ∨
    (next.tasks j).isTimer = false ∧ (s.tasks j).isTimer = false) : timers next = timers s :=
  contents_same h

/-- A slot is written that neither held nor holds a timer. -/
theorem timers_update {task : Task} (hbefore : (s.tasks i).isTimer = false)
    (hafter : task.isTimer = false) (hnext : next.tasks = Function.update s.tasks i task) :
    timers next = timers s := by
  refine timers_same fun j _ => ?_
  rw [hnext]
  by_cases hj : j = i
  · rw [hj, Function.update_self]
    exact .inr ⟨hafter, hbefore⟩
  · exact .inl (Function.update_of_ne hj _ _)

/-- All timers are removed. -/
theorem remove_all_timers (s : SchRuntime) : timers (removeAllTasksByType s .dndClear) = [] := by
  refine contents_eq_nil fun j hj => ?_
  simp only [removeAllTasksByType, sweep_apply]
  split_ifs with haffected
  · rfl
  · have htype : (s.tasks j).type ≠ .dndClear := fun h => haffected ⟨hj, by simpa using h⟩
    simp [Task.isTimer, htype]

/-- What is cleaned up is not a timer. -/
theorem cleanup_timers (s : SchRuntime) : timers (cleanupTasks s) = timers s := by
  refine timers_same fun j _ => ?_
  simp only [cleanupTasks, sweep_apply]
  split_ifs with haffected
  · refine .inr ⟨rfl, ?_⟩
    have hstatus := haffected.2
    simp only [decide_eq_true_eq] at hstatus
    rcases hstatus with hdone | hfailed
    · simp [Task.isTimer, hdone]
    · simp [Task.isTimer, hfailed]
  · exact .inl rfl

theorem free_spec (h : findFreeTaskSlot s = some i) :
    i < maxNumTasks ∧ (s.tasks i).isTimer = false := by
  obtain ⟨hi, hfree, _⟩ := find_some h
  have hstatus : (s.tasks i).status = .free := by simpa using hfree
  exact ⟨hi, by simp [Task.isTimer, hstatus]⟩

/-- Another task is added. -/
theorem add_other (clock : Clock) (added : OtherTask) :
    timers (addTask s clock added.task).2 = timers s ∧
      (addTask s clock added.task).2.call = s.call := by
  unfold addTask
  cases hslot : findFreeTaskSlot s with
  | none => exact ⟨rfl, rfl⟩
  | some taskId =>
      obtain ⟨_, hfree⟩ := free_spec hslot
      refine ⟨timers_update hfree ?_ rfl, rfl⟩
      simp [Task.isTimer, added.other]

/-- A timer is added, if there is a slot for it. -/
theorem add_timer (clock : Clock) {task : Task} (htype : task.type = .dndClear) :
    (∃ taskId, (addTask s clock task).1 = some taskId ∧
      (timers (addTask s clock task).2).length = (timers s).length + 1 ∧
      (addTask s clock task).2.call = s.call) ∨
    (addTask s clock task).1 = none ∧ (addTask s clock task).2 = s := by
  unfold addTask
  cases hslot : findFreeTaskSlot s with
  | none => exact .inr ⟨rfl, rfl⟩
  | some taskId =>
      obtain ⟨hi, hfree⟩ := free_spec hslot
      refine .inl ⟨taskId, rfl, ?_, rfl⟩
      exact length_contents_take hi hfree (by simp [Task.isTimer, htype])

/-! ## The thread -/

theorem inProgress_isTimer {task : Task} (h : task.status = .inProgress) :
    task.isTimer = false := by
  simp [Task.isTimer, h]

/-- A task is performed: only the one that ends the mode does so. -/
theorem perform_spec (hstatus : (s.tasks i).status = .inProgress)
    (h : performTask s i = .ok next) :
    timers next = timers s ∧ next.call.doNotDisturb =
      if (s.tasks i).type = .dndClear then false else s.call.doNotDisturb := by
  have hbefore := inProgress_isTimer hstatus
  unfold performTask at h
  cases htype : (s.tasks i).type with
  | sms =>
      rw [htype] at h
      cases h
      exact ⟨timers_update hbefore (by simp [Task.isTimer]) rfl, rfl⟩
  | call =>
      simp only [htype] at h
      split_ifs at h with hmode
      · cases h
        refine ⟨timers_update hbefore ?_ rfl, rfl⟩
        exact inProgress_isTimer hstatus
      · cases hadd : addVoiceMessageToQueue (setLoopedMessage (setPendingCallFlag s.call true) true)
          (s.tasks i).arguments with
        | error fault =>
            rw [hadd] at h
            cases h
        | ok call =>
            rw [hadd] at h
            cases h
            obtain ⟨msg, hframe⟩ := add_frame hadd
            refine ⟨timers_update hbefore (by simp [Task.isTimer]) rfl, ?_⟩
            rw [hframe]
            rfl
  | wakeHost =>
      rw [htype] at h
      cases h
      exact ⟨timers_update hbefore (by simp [Task.isTimer]) rfl, rfl⟩
  | dndClear =>
      rw [htype] at h
      cases h
      exact ⟨timers_update hbefore (by simp [Task.isTimer]) rfl, rfl⟩

/-- A task that is due is run: a timer ends the mode and is gone, and another task leaves both as
they are. -/
theorem run_spec (hi : i < maxNumTasks) (hpending : (s.tasks i).status = .pending)
    (h : runTask s i = .ok next) :
    (next.call.doNotDisturb = false ∧ (timers next).length + 1 = (timers s).length) ∨
      (next.call.doNotDisturb = s.call.doNotDisturb ∧ timers next = timers s) := by
  simp only [runTask, if_neg (Nat.not_le.2 hi), hpending] at h
  obtain ⟨performed, hperform, h⟩ := bind_ok h
  have hnext := Except.ok.inj h
  have hslot : ((setStatus s i .inProgress).tasks i) = { s.tasks i with status := .inProgress } :=
    Function.update_self _ _ _
  have hstatus : ((setStatus s i .inProgress).tasks i).status = .inProgress := by rw [hslot]
  obtain ⟨htimers, hmode⟩ := perform_spec hstatus hperform
  rw [hslot] at hmode
  rw [← hnext, cleanup_timers, htimers]
  by_cases htype : (s.tasks i).type = .dndClear
  · refine .inl ⟨?_, ?_⟩
    · rw [if_pos htype] at hmode
      exact hmode
    · have htimer : (s.tasks i).isTimer = true := by simp [Task.isTimer, htype, hpending]
      exact length_contents_release hi htimer (inProgress_isTimer rfl)
  · refine .inr ⟨?_, ?_⟩
    · rw [if_neg htype] at hmode
      exact hmode
    · exact timers_update (by simp [Task.isTimer, htype]) (by simp [Task.isTimer]) rfl

/-! ## The steps -/

/-- There is one timer in the mode, and none outside of it. -/
structure Tracked (s : SchRuntime) : Prop where
  on : s.call.doNotDisturb = true → (timers s).length = 1
  off : s.call.doNotDisturb = false → timers s = []

theorem Tracked.timed (h : Tracked s) : Timed s := by
  refine ⟨h.on, fun hone => ?_⟩
  cases hmode : s.call.doNotDisturb with
  | true => rfl
  | false =>
      rw [h.off hmode] at hone
      cases hone

/-- Neither the mode nor the timers change. -/
theorem Tracked.same (h : Tracked s) (hmode : next.call.doNotDisturb = s.call.doNotDisturb)
    (htimers : timers next = timers s) : Tracked next where
  on := fun hon => by rw [htimers, h.on (hmode ▸ hon)]
  off := fun hoff => by rw [htimers, h.off (hmode ▸ hoff)]

theorem tracked_off (hmode : s.call.doNotDisturb = false) (htimers : timers s = []) :
    Tracked s where
  on := fun hon => by rw [hmode] at hon; cases hon
  off := fun _ => htimers

theorem Tracked.length_le (h : Tracked s) : (timers s).length ≤ 1 := by
  cases hmode : s.call.doNotDisturb with
  | true => exact Nat.le_of_eq (h.on hmode)
  | false => simp [h.off hmode]

theorem Tracked.run (h : Tracked s) (hpending : (s.tasks i).status = .pending)
    (hrun : runTask s i = .ok next) : Tracked next := by
  by_cases hi : i < maxNumTasks
  · rcases run_spec hi hpending hrun with ⟨hmode, htimers⟩ | ⟨hmode, htimers⟩
    · have hlength := h.length_le
      exact tracked_off hmode (List.length_eq_zero_iff.1 (by omega))
    · exact h.same hmode htimers
  · rw [runTask, if_pos (Nat.not_lt.1 hi)] at hrun
    cases hrun
    exact h

theorem Tracked.pass (h : Tracked s) {curTime : Int} (hpass : schedulerPass s curTime = .ok next) :
    Tracked next := by
  refine foldlM_invariant Tracked h ?_ hpass
  intro s i next h hcheck
  unfold checkTask at hcheck
  split_ifs at hcheck with hdue
  · exact h.run hdue.1 hcheck
  · cases hcheck
    exact h

/-- A timer is added in the mode, or the mode is left again. -/
theorem tracked_add (hon : s.call.doNotDisturb = true) (hnone : timers s = []) (clock : Clock)
    {task : Task} (htype : task.type = .dndClear) : Tracked (addDndTask s clock task) := by
  unfold addDndTask
  rcases add_timer (s := s) clock htype with ⟨taskId, hadded, hlength, hcall⟩ | ⟨hfull, hsame⟩
  · rw [show addTask s clock task = (some taskId, (addTask s clock task).2) by rw [← hadded]]
    refine ⟨fun _ => ?_, fun hoff => ?_⟩
    · rw [hlength, hnone]
      rfl
    · rw [hcall, hon] at hoff
      cases hoff
  · rw [show addTask s clock task = (none, s) from Prod.ext hfull hsame]
    exact tracked_off rfl hnone

/-- The mode is entered with a timer, or not at all. -/
theorem tracked_enter (clock : Clock) {task : Task} (htype : task.type = .dndClear) :
    Tracked (enterDnd s clock task) :=
  tracked_add rfl (remove_all_timers _) clock htype

theorem tracked_disable (s : SchRuntime) : Tracked (disableDnd s) := by
  unfold disableDnd
  exact tracked_off rfl (remove_all_timers _)

theorem Tracked.suspend (h : Tracked s) (env : ChatEnv) (clock : Clock) (command : List UInt8) :
    Tracked (suspendCallNotifications s env clock command) := by
  unfold suspendCallNotifications
  split_ifs
  · cases wordLoop (dndRound env) 0 ⟨true, 0, 0, .nothing⟩ (splitWords 0 [] command) with
    | error reply => exact h
    | ok time => exact tracked_enter clock rfl
  · exact h

/-- The mode is on as long as there is a timer. -/
theorem Tracked.on_of_timer (h : Tracked s) (hsome : 0 < (timers s).length) :
    s.call.doNotDisturb = true := by
  cases hmode : s.call.doNotDisturb with
  | true => rfl
  | false =>
      rw [h.off hmode] at hsome
      exact absurd hsome (Nat.lt_irrefl 0)

/-- The mode stays on without the timer if that is removed. -/
theorem Tracked.not_timed (h : Tracked s) (hi : i < maxNumTasks)
    (htimer : (s.tasks i).isTimer = true) :
    ¬ Timed { s with tasks := Function.update s.tasks i (s.tasks i).removed } := by
  intro htimed
  have hlength : (timers { s with
      tasks := Function.update s.tasks i (s.tasks i).removed }).length + 1 =
      (timers s).length := length_contents_release hi htimer (removed_isTimer _)
  have hon := h.on_of_timer (by omega)
  have hone := h.on hon
  have hleft := htimed.1 hon
  omega

/-- A task is deleted: the mode keeps its timer exactly if another task is meant. -/
theorem delete_spec (h : Tracked s) {command : List UInt8}
    (hnext : deleteTask s command = .ok next) :
    (KeepsTimer s (.deleteTask command) → Tracked next) ∧
      (Timed next → KeepsTimer s (.deleteTask command)) := by
  have hunchanged : next = s → (∀ i : Nat, i < maxNumTasks → taskToDelete command ≠ some ↑i) →
      (KeepsTimer s (.deleteTask command) → Tracked next) ∧
        (Timed next → KeepsTimer s (.deleteTask command)) := by
    intro hsame hother
    rw [hsame]
    exact ⟨fun _ => h, fun _ i hi hcommand => absurd hcommand (hother i hi)⟩
  unfold deleteTask at hnext
  cases hcommand : taskToDelete command with
  | none =>
      rw [hcommand] at hnext
      cases hnext
      exact hunchanged rfl fun i _ => by simp [hcommand]
  | some taskId =>
      simp only [hcommand, removeTask] at hnext
      split_ifs at hnext with hupper hlower
      · cases hnext
        obtain ⟨i, rfl⟩ := Int.eq_ofNat_of_zero_le hlower
        have hi : i < maxNumTasks := Int.ofNat_lt.1 hupper
        cases htimer : (s.tasks i).isTimer with
        | false =>
            refine ⟨fun _ => h.same rfl (timers_update htimer (removed_isTimer _) rfl), ?_⟩
            intro _ j _ hdeleted
            rw [hcommand, Option.some.injEq, Int.ofNat_inj] at hdeleted
            rw [← hdeleted]
            exact htimer
        | true =>
            refine ⟨fun hkeeps => ?_, fun htimed => absurd htimed (h.not_timed hi htimer)⟩
            rw [hkeeps i hi hcommand] at htimer
            cases htimer
      · cases hnext
        refine hunchanged rfl fun i hi hdeleted => hupper ?_
        rw [hcommand, Option.some.injEq] at hdeleted
        rw [hdeleted]
        exact Int.ofNat_lt.2 hi

/-- The end of a call that times out leaves the mode. -/
theorem notify_mode {call : CallRt} (hcalling : Calling call) (hends : Ends call) :
    (notifySimulatedCall call).1.doNotDisturb = false := by
  simp only [notifySimulatedCall]
  by_cases hidle : call.callSimulationMode ∧ call.emptyMessageLoop.toNat > callMaxLoops
  · simp only [closeIdleCall, if_pos hidle]
    unfold killUnansweredCall
    split_ifs
    all_goals rfl
  · obtain ⟨hringing, hlong⟩ := hends.resolve_left fun h => hidle ⟨hcalling.simulated, h⟩
    simp only [closeIdleCall, if_neg hidle, killUnansweredCall, if_pos hringing, if_pos hlong]
    rfl

/-- What a pass of the proxy loop does to the mode. -/
theorem pass_mode (call : CallRt) (messagesPending : Bool) :
    (TimesOut call (.pass messagesPending) →
        (processSimulatedCalls call messagesPending).1.doNotDisturb = false) ∧
      (¬ TimesOut call (.pass messagesPending) →
        (processSimulatedCalls call messagesPending).1.doNotDisturb = call.doNotDisturb) := by
  by_cases hcalling : messagesPending = false ∧ Calling call
  · obtain ⟨rfl, hcalling⟩ := hcalling
    have hpass : processSimulatedCalls call false = notifySimulatedCall call :=
      Except.ok.inj hcalling.pass
    refine ⟨fun hends => ?_, fun hends => ?_⟩
    · rw [hpass]
      exact notify_mode hcalling hends.2.2
    · have hgoes := pass_of_goes_on hcalling fun h => hends ⟨rfl, hcalling, h⟩
      rw [show processSimulatedCalls call false = _ from Except.ok.inj hgoes]
      split_ifs
      all_goals rfl
  · refine ⟨fun hends => absurd ⟨CallOp.pass.inj hends.1, hends.2.1⟩ hcalling, fun _ => ?_⟩
    unfold processSimulatedCalls
    split_ifs with hmessages hpending hmode
    · rfl
    · rfl
    · exact absurd ⟨by simpa using hmessages, hmode, by simpa using hpending⟩ hcalling
    · rfl

/-- What a step of the simulated calls does to the mode. -/
theorem call_mode {call after : CallRt} (event : CallEvent)
    (h : callNext call event.op = .ok after) :
    (TimesOut call event.op → after.doNotDisturb = false) ∧
      (¬ TimesOut call event.op → after.doNotDisturb = call.doNotDisturb) := by
  obtain ⟨outputs, hstep⟩ := callNext_ok h
  obtain ⟨op, hother⟩ := event
  cases step_effect hstep with
  | mode en => exact absurd rfl (hother en)
  | pending | looped | added | spoken | finished =>
      exact ⟨fun hends => absurd hends.1 (by simp), fun _ => rfl⟩
  | passed messagesPending => exact pass_mode call messagesPending
  | handled hservice =>
      exact ⟨fun hends => absurd hends.1 (by simp), fun _ => (service_keeps hservice).2.2⟩

/-- A step of the simulated calls: the timer keeps its mode exactly if no call times out in it. -/
theorem call_spec (h : Tracked s) {event : CallEvent}
    (hnext : taskStep s (.call event) = .ok next) :
    (KeepsTimer s (.call event) → Tracked next) ∧ (Timed next → KeepsTimer s (.call event)) := by
  simp only [taskStep] at hnext
  cases hcall : callNext s.call event.op with
  | error fault =>
      rw [hcall] at hnext
      cases hnext
  | ok call =>
      rw [hcall] at hnext
      cases hnext
      obtain ⟨hends, hgoes⟩ := call_mode event hcall
      by_cases htimeout : TimesOut s.call event.op
      · have hoff := hends htimeout
        refine ⟨fun hkeeps => ?_, fun htimed hon => ?_⟩
        · cases hmode : s.call.doNotDisturb with
          | true => exact absurd htimeout (hkeeps hmode)
          | false => exact tracked_off hoff (h.off hmode)
        · have hone : call.doNotDisturb = true := htimed.2 (h.on hon)
          rw [hoff] at hone
          cases hone
      · exact ⟨fun _ => h.same (hgoes htimeout) rfl, fun _ _ => htimeout⟩

/-- Every step: the mode and its timers stay together exactly if neither is forgotten. -/
theorem step_spec (h : Tracked s) (hnext : taskStep s op = .ok next) :
    (KeepsTimer s op → Tracked next) ∧ (Timed next → KeepsTimer s op) := by
  cases op with
  | enableDnd env clock command =>
      cases hnext
      exact ⟨fun _ => h.suspend env clock command, fun _ => trivial⟩
  | disableDnd =>
      have hsame : disableDnd s = next := Except.ok.inj hnext
      rw [← hsame]
      exact ⟨fun _ => tracked_disable s, fun _ => trivial⟩
  | deleteTask command => exact delete_spec h hnext
  | pass curTime => exact ⟨fun _ => h.pass hnext, fun _ => trivial⟩
  | call event => exact call_spec h hnext
  | addTask clock added =>
      cases hnext
      obtain ⟨htimers, hcall⟩ := add_other (s := s) clock added
      exact ⟨fun _ => h.same (by rw [hcall]) htimers, fun _ => trivial⟩

/-! ## Runs -/

theorem tracked_start {stored : Option (Nat → Task)} (h : NoTimers stored) :
    Tracked (startUp stored) := tracked_off rfl h

/-- In every run from a start-up without timers in which no timer is deleted and no simulated call
times out in the mode, the mode is on if and only if there is exactly one task that is to end it. A
next step keeps it so exactly if it is not one of these either. -/
theorem dnd_timed {stored : Option (Nat → Task)} {ops : List TaskOp} (hstored : NoTimers stored)
    (h : Run taskStep KeepsTimer (startUp stored) ops s) :
    Timed s ∧ ∀ op next, taskStep s op = .ok next → (Timed next ↔ KeepsTimer s op) := by
  have htracked : Tracked s := by
    refine Run.invariant Tracked (tracked_start hstored) ?_ h
    intro s op next htracked hkeeps hnext
    exact (step_spec htracked hnext).1 hkeeps
  refine ⟨htracked.timed, fun op next hnext => ?_⟩
  obtain ⟨hkeeps, htimed⟩ := step_spec htracked hnext
  exact ⟨htimed, fun h => (hkeeps h).timed⟩

/-- A clock that stands at the epoch. -/
def sampleClock : Clock := ⟨0, 0, fun _ hh mm => hh.toNat * 3600 + mm.toNat * 60⟩

/-- The mode is entered for two hours. -/
def sampleEnable : TaskOp := .enableDnd freshEnv sampleClock (Text.ascii "enable dnd for 2")

/-- The state after that, from a start-up without tasks. -/
def sampleDnd : SchRuntime where
  tasks := Function.update (fun _ => .empty) 0
    { dndTask freshEnv 2 0 with time := ⟨7200, .timeCountdown, 2, 0⟩ }
  call := setDoNotDisturb .zero true

/-- Nothing is removed if there is no task of the type. -/
theorem remove_all_none {type : TaskType} (h : ∀ i, (s.tasks i).type ≠ type) :
    removeAllTasksByType s type = s := by
  have htasks : sweep (fun task => task.type = type) Task.removed maxNumTasks s.tasks =
      s.tasks := by
    funext j
    rw [sweep_apply, if_neg]
    exact fun haffected => h j (by simpa using haffected.2)
  rw [removeAllTasksByType, htasks]

theorem sample_enabled : taskStep (startUp none) sampleEnable = .ok sampleDnd := by
  have hwords : wordLoop (dndRound freshEnv) 0 ⟨true, 0, 0, .nothing⟩
      (splitWords 0 [] (Text.ascii "enable dnd for 2")) = .ok ⟨true, 2, 0, .blockHours 2⟩ := rfl
  have hcontains : Text.contains (cmdOf .actionEnableDnd) (Text.ascii "enable dnd for 2") = true :=
    rfl
  have henter : enterDnd (startUp none) sampleClock (dndTask freshEnv 2 0) = sampleDnd := by
    rw [enterDnd, remove_all_none fun _ h => by cases h]
    rfl
  rw [sampleEnable, taskStep, suspendCallNotifications, if_pos hcontains, hwords]
  simp only [henter]

/-- The mode has been entered, and its timer is the only one. -/
theorem dnd_enabled_timed :
    Run taskStep KeepsTimer (startUp none) [sampleEnable] sampleDnd ∧ Timed sampleDnd ∧
      sampleDnd.call.doNotDisturb = true := by
  have hstored : NoTimers none := contents_eq_nil fun _ _ => rfl
  have hrun : Run taskStep KeepsTimer (startUp none) [sampleEnable] sampleDnd :=
    .snoc (.nil _) trivial sample_enabled
  exact ⟨hrun, (dnd_timed hstored hrun).1, rfl⟩

/-- The timer is deleted, and the mode is on for good. -/
theorem dnd_without_timer : ¬ DndAlwaysEnds := by
  intro h
  have hstored : NoTimers none := contents_eq_nil fun _ _ => rfl
  have htracked := (step_spec (tracked_start hstored) sample_enabled).1 trivial
  have hcommand : taskToDelete (Text.ascii "delete task 0") = some ((0 : Nat) : Int) := rfl
  have hdelete : ∃ next, taskStep sampleDnd (.deleteTask (Text.ascii "delete task 0")) =
      .ok next := by
    simp only [taskStep, deleteTask, hcommand]
    exact ⟨_, rfl⟩
  obtain ⟨next, hnext⟩ := hdelete
  have hrun : Run taskStep Anything (startUp none)
      [sampleEnable, .deleteTask (Text.ascii "delete task 0")] next :=
    .snoc (.snoc (.nil _) trivial sample_enabled) trivial hnext
  have hother := (step_spec htracked hnext).2 (h none _ _ hrun) 0 (by decide) hcommand
  cases hother

end OpenQti.Scheduler
