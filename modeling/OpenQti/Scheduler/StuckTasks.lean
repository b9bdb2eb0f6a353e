import OpenQti.Lib.Ensures
import OpenQti.Lib.Run
import OpenQti.Scheduler.Storage

/-!
# Tasks that get stuck

A task that is due is run and given back, and the file follows. In two cases it does not come to
that. A call task that is due during a simulated call is put off by a minute, but it stays in
progress, and is not looked at again. And a task that is added or removed after a start of the program
and before the first pass writes the file that has not been read yet. `tasks_fair` says that every
task is treated well as long as neither of this happens.
-/

namespace OpenQti.Scheduler

open Call Slots Machine Except

/-- The slots of the file. -/
def SchState.stored (st : SchState) : Nat → Task := st.file.getD fun _ => .empty

/-- The slots as the thread sees them, now or when it has read the file. -/
def SchState.held (st : SchState) : Nat → Task :=
  match st.thread with
  | none => st.stored
  | some _ => st.rt.tasks

def Task.Settled (task : Task) : Prop := task.status = .free ∨ task.status = .pending

/-- The step runs the task in slot `i`. -/
def Runs (st : SchState) (op : SchedulerOp) (i : Nat) : Prop :=
  op = .check ∧ i < maxNumTasks ∧
    ∃ curTime, st.thread = some (curTime, i) ∧ Due curTime (st.rt.tasks i)

/-- The step puts a task into slot `i`. -/
def Adds (st : SchState) (op : SchedulerOp) (i : Nat) : Prop :=
  ∃ clock task, op = .addTask clock task ∧ (addTask st.rt clock task).1 = some i

/-- The task in slot `i` has its effect, once, and the slot is given back. -/
structure Executed (st : SchState) (i : Nat) (after : SchState) (effects : List TaskEffect) :
    Prop where
  once : effects = [(st.rt.tasks i).effect]
  effect : (st.rt.tasks i).effect.on st.rt.call = .ok after.rt.call
  free : (after.rt.tasks i).status = .free

/-- The task in slot `i` waits for the end of a simulated call. -/
structure PutOff (st : SchState) (i : Nat) (after : SchState) (effects : List TaskEffect) :
    Prop where
  call : (st.rt.tasks i).type = .call
  simulated : st.rt.call.callSimulationMode = true
  none : effects = []
  pending : (after.rt.tasks i).status = .pending
  later : (st.rt.tasks i).time.execTime < (after.rt.tasks i).time.execTime

/-- The step treats the tasks well: each slot is free or pending; what is still due at the end of a
pass has come into its slot during the pass; a task that is run is executed or put off, and nothing
else has an effect; and a slot stays as it is unless its task is removed or run. -/
structure Fair (st : SchState) (op : SchedulerOp) (after : SchState) (effects : List TaskEffect) :
    Prop where
  settled : ∀ i, i < maxNumTasks → (after.held i).Settled
  visited : ∀ curTime, after.thread = some (curTime, maxNumTasks) →
    ∀ i, i < maxNumTasks → Due curTime (after.rt.tasks i) → after.written i = true
  run : ∀ i, Runs st op i → Executed st i after effects ∨ PutOff st i after effects
  silent : (∀ i, ¬ Runs st op i) → effects = []
  kept : ∀ i, i < maxNumTasks → (st.held i).status ≠ .free → ¬ Adds st op i ∧
    (after.held i = st.held i ∨ op = .removeTask i ∨ Runs st op i)

/-- No task ever gets stuck. -/
def NeverStuck : Prop :=
  ∀ (ops : List SchedulerOp) (st : SchState), Run schedulerNext Anything (.boot none) ops st →
    ∀ op after effects, schedulerStep st op = .ok (after, effects) → Fair st op after effects

/-- The step writes the file by order of a command. -/
def Saves (st : SchState) : SchedulerOp → Prop
  | .addTask _ _ => findFreeTaskSlot st.rt ≠ none
  | .removeTask taskId => taskId < maxNumTasks
  | _ => False

/-- No call task is run during a simulated call; and before the first pass a task is added or removed
only if the tasks of the file, the one that is removed apart, are in memory as well. -/
structure Unhindered (st : SchState) (op : SchedulerOp) : Prop where
  call : ∀ i, Runs st op i →
    ¬ ((st.rt.tasks i).type = .call ∧ st.rt.call.callSimulationMode = true)
  file : st.thread = none → Saves st op → ∀ i, i < maxNumTasks → op ≠ .removeTask i →
    (st.stored i).status ≠ .free → st.rt.tasks i = st.stored i

variable {st after : SchState} {op : SchedulerOp} {effects : List TaskEffect} {i : Nat}

/-! ## The state -/

/-- In memory and in the file every slot is free or pending; they agree from the first pass on; and
the slots that have been visited in a pass hold nothing that is due but what has come into them. -/
structure Synced (st : SchState) : Prop where
  memory : ∀ i, i < maxNumTasks → (st.rt.tasks i).Settled
  storage : ∀ i, i < maxNumTasks → (st.stored i).Settled
  same : st.thread ≠ none → st.stored = st.rt.tasks
  missing : st.file = none → st.rt.tasks = fun _ => .empty
  visited : ∀ curTime n, st.thread = some (curTime, n) →
    ∀ i, i < n → Due curTime (st.rt.tasks i) → st.written i = true

theorem Synced.held (h : Synced st) : st.held = st.stored := by
  unfold SchState.held
  cases hthread : st.thread with
  | none => rfl
  | some position =>
      have hstarted : st.thread ≠ none := by simp [hthread]
      exact (h.same hstarted).symm

theorem empty_settled : Task.empty.Settled := .inl rfl

theorem Synced.boot_stored (h : Synced st) : Synced (.boot st.file) where
  memory := fun _ _ => empty_settled
  storage := h.storage
  same := fun hstarted => absurd rfl hstarted
  missing := fun _ => rfl
  visited := fun curTime n hthread => by cases hthread

theorem synced_start : Synced (.boot none) where
  memory := fun _ _ => empty_settled
  storage := fun _ _ => empty_settled
  same := fun hstarted => absurd rfl hstarted
  missing := fun _ => rfl
  visited := fun curTime n hthread => by cases hthread

/-- A step that runs nothing and leaves the slots as they are. -/
theorem Synced.fair_of_held (h : Synced after) (hheld : after.held = st.held)
    (hruns : ∀ i, ¬ Runs st op i) (hadds : ∀ i, ¬ Adds st op i) : Fair st op after [] where
  settled := by
    rw [h.held]
    exact h.storage
  visited := fun curTime hthread i hi hdue => h.visited curTime _ hthread i hi hdue
  run := fun i hrun => absurd hrun (hruns i)
  silent := fun _ => rfl
  kept := fun i _ _ => ⟨hadds i, .inl (congrFun hheld i)⟩

/-- A step of which nothing is asked. -/
theorem unhindered_of_idle (hruns : ∀ i, ¬ Runs st op i) (hsaves : ¬ Saves st op) :
    Unhindered st op where
  call := fun i hrun => absurd hrun (hruns i)
  file := fun _ hsave => absurd hsave hsaves

theorem not_runs (hop : op ≠ .check) : ¬ Runs st op i := fun hrun => hop hrun.1

/-- A step that does nothing to the slots keeps everything, whatever it is. -/
theorem Synced.idle (h : Synced after) (hheld : after.held = st.held)
    (hruns : ∀ i, ¬ Runs st op i) (hadds : ∀ i, ¬ Adds st op i) (hsaves : ¬ Saves st op) :
    (Unhindered st op → Synced after) ∧ (Fair st op after [] ↔ Unhindered st op) :=
  ⟨fun _ => h, fun _ => unhindered_of_idle hruns hsaves,
    fun _ => h.fair_of_held hheld hruns hadds⟩

/-! ## Commands -/

/-- A slot is written, and the file with it. -/
theorem Synced.saved (h : Synced st) {task : Task} (hsettled : task.Settled)
    (htasks : after.rt.tasks = Function.update st.rt.tasks i task)
    (hfile : after.file = some after.rt.tasks) (hthread : after.thread = st.thread)
    (hwritten : ∀ j, st.written j = true → after.written j = true)
    (hadded : task.status = .pending → after.written i = true) : Synced after := by
  have hstored : after.stored = after.rt.tasks := by rw [SchState.stored, hfile, Option.getD_some]
  have hmemory : ∀ j, j < maxNumTasks → (after.rt.tasks j).Settled := by
    rw [htasks]
    exact forall_update Task.Settled h.memory hsettled
  refine ⟨hmemory, hstored ▸ hmemory, fun _ => hstored, fun hnone => ?_, ?_⟩
  · rw [hfile] at hnone
    cases hnone
  · intro curTime n hposition j hj hdue
    rw [hthread] at hposition
    rw [htasks] at hdue
    by_cases hji : j = i
    · rw [hji, Function.update_self] at hdue
      rw [hji]
      exact hadded hdue.1
    · rw [Function.update_of_ne hji] at hdue
      exact hwritten j (h.visited curTime n hposition j hj hdue)

/-- A command writes slot `i`, and the file with it: what the file held is kept exactly if it was in
memory. -/
theorem Synced.command (h : Synced st) (hafter : Synced after) {task : Task}
    (htasks : after.rt.tasks = Function.update st.rt.tasks i task)
    (hfile : after.file = some after.rt.tasks) (hop : op ≠ .check) (hsaves : Saves st op)
    (hadds : ∀ j, Adds st op j → j = i)
    (hcommand : (Adds st op i ∧ (st.rt.tasks i).status = .free ∧ ∀ j : Nat, op ≠ .removeTask j) ∨
      op = .removeTask i) :
    Fair st op after [] ↔ Unhindered st op := by
  have hheld : after.held = Function.update st.rt.tasks i task := by
    rw [hafter.held, SchState.stored, hfile, Option.getD_some, htasks]
  have hruns : ∀ j, ¬ Runs st op j := fun j => not_runs hop
  constructor
  · intro hfair
    refine ⟨fun j hrun => absurd hrun (hruns j), fun _ _ j hj hother hused => ?_⟩
    rw [← h.held] at hused ⊢
    obtain ⟨hnot, hsame | hremoved | hrun⟩ := hfair.kept j hj hused
    -- the slot that the command writes is the only one that may differ
    · have hji : j ≠ i := by
        rintro rfl
        rcases hcommand with ⟨hadd, _⟩ | hremove
        · exact hnot hadd
        · exact hother hremove
      rw [hheld, Function.update_of_ne hji] at hsame
      exact hsame
    · exact absurd hremoved hother
    · exact absurd hrun (hruns j)
  · intro hunhindered
    -- once a pass has begun memory and file agree; before that it is the condition
    have hagree : ∀ j : Nat, j < maxNumTasks → op ≠ .removeTask j →
        (st.stored j).status ≠ .free → st.rt.tasks j = st.stored j := by
      intro j hj hother hused
      by_cases hnone : st.thread = none
      · exact hunhindered.file hnone hsaves j hj hother hused
      · rw [h.same hnone]
    refine ⟨?_, fun curTime hthread j hj hdue => hafter.visited curTime _ hthread j hj hdue,
      fun j hrun => absurd hrun (hruns j), fun _ => rfl, fun j hj hused => ?_⟩
    · rw [hafter.held]
      exact hafter.storage
    · rw [h.held] at hused ⊢
      by_cases hremoved : op = .removeTask j
      · refine ⟨?_, .inr (.inl hremoved)⟩
        rintro ⟨clock, added, hadd, _⟩
        rw [hremoved] at hadd
        cases hadd
      · have hsame := hagree j hj hremoved hused
        have hji : j ≠ i := by
          rintro rfl
          rcases hcommand with ⟨_, hfree, _⟩ | hremove
          · rw [hsame] at hfree
            exact hused hfree
          · exact hremoved hremove
        refine ⟨fun hadd => hji (hadds j hadd), .inl ?_⟩
        rw [hheld, Function.update_of_ne hji]
        exact hsame

theorem Synced.add (h : Synced st) (clock : Clock) (task : Task) :
    Synced (addStep st clock task) ∧
      (Fair st (.addTask clock task) (addStep st clock task) [] ↔
        Unhindered st (.addTask clock task)) := by
  cases hslot : findFreeTaskSlot st.rt with
  | none =>
      have hadd : addTask st.rt clock task = (none, st.rt) := by rw [addTask, hslot]
      have hstep : addStep st clock task = st := by rw [addStep, hadd]
      have hadds : ∀ j, ¬ Adds st (.addTask clock task) j := by
        rintro j ⟨_, _, hop, hsome⟩
        cases hop
        rw [hadd] at hsome
        cases hsome
      have hsaves : ¬ Saves st (.addTask clock task) := fun hsaves => hsaves hslot
      rw [hstep]
      exact ⟨h, (h.idle rfl (fun _ => not_runs (by simp)) hadds hsaves).2⟩
  | some taskId =>
      obtain ⟨hi, hfree, _⟩ := find_some hslot
      have hstatus : (st.rt.tasks taskId).status = .free := by simpa using hfree
      have hsome : (addTask st.rt clock task).1 = some taskId := by rw [addTask, hslot]
      have hadds : ∀ j, Adds st (.addTask clock task) j ↔ j = taskId := by
        intro j
        constructor
        · rintro ⟨_, _, hop, hfound⟩
          cases hop
          exact (Option.some.inj (hsome.symm.trans hfound)).symm
        · rintro rfl
          exact ⟨clock, task, rfl, hsome⟩
      have hstep : addStep st clock task =
          { st.save (addTask st.rt clock task).2 with
            written := Function.update st.written taskId true } := by
        rw [addStep]
        rw [show addTask st.rt clock task = (some taskId, (addTask st.rt clock task).2) by
          rw [← hsome]]
      have htasks : (addTask st.rt clock task).2.tasks = Function.update st.rt.tasks taskId
          { task with
            status := .pending
            time := { task.time with execTime := clock.execTime task.time } } := by
        rw [addTask, hslot]
      rw [hstep]
      have hsynced : Synced { st.save (addTask st.rt clock task).2 with
          written := Function.update st.written taskId true } := by
        refine h.saved (.inr rfl) htasks rfl rfl ?_ fun _ => Function.update_self _ _ _
        intro j hwritten
        by_cases hj : j = taskId
        · rw [hj]
          exact Function.update_self _ _ _
        · exact (Function.update_of_ne hj _ _).trans hwritten
      refine ⟨hsynced, h.command hsynced htasks rfl (by simp) ?_ (fun j => (hadds j).1)
        (.inl ⟨(hadds taskId).2 rfl, hstatus, by simp⟩)⟩
      simp [Saves, hslot]

theorem Synced.remove (h : Synced st) {taskId : Int} (hstep : removeStep st taskId = .ok after) :
    Synced after ∧ (Fair st (.removeTask taskId) after [] ↔ Unhindered st (.removeTask taskId)) := by
  have hadds : ∀ j, ¬ Adds st (.removeTask taskId) j := by
    rintro j ⟨_, _, hop, _⟩
    cases hop
  obtain ⟨rt, hremove, hsave⟩ := bind_ok hstep
  unfold removeTask at hremove
  split_ifs at hremove with hupper hlower
  · obtain ⟨i, rfl⟩ := Int.eq_ofNat_of_zero_le hlower
    rw [if_pos hupper] at hsave
    cases hsave
    cases hremove
    have hsynced : Synced (st.save { st.rt with
        tasks := Function.update st.rt.tasks i (st.rt.tasks i).removed }) := by
      have hsettled : (st.rt.tasks i).removed.Settled := .inl rfl
      refine h.saved hsettled rfl rfl rfl (fun _ => id) fun hpending => ?_
      cases hpending
    exact ⟨hsynced, h.command hsynced rfl rfl (by simp) hupper (fun j hadd => absurd hadd (hadds j))
      (.inr rfl)⟩
  · rw [if_neg hupper] at hsave
    cases hsave
    cases hremove
    exact ⟨h, (h.idle rfl (fun _ => not_runs (by simp)) hadds hupper).2⟩

/-! ## The thread -/

/-- A task that is not put off has its effect, and is done. -/
theorem perform_effect {s performed : SchRuntime}
    (hgoes : ¬ ((s.tasks i).type = .call ∧ s.call.callSimulationMode = true))
    (h : performTask s i = .ok performed) :
    taskEffects s i = [(s.tasks i).effect] ∧
      ∃ call, (s.tasks i).effect.on s.call = .ok call ∧
        performed = setStatus { s with call := call } i .done := by
  unfold performTask at h
  unfold taskEffects Task.effect
  cases htype : (s.tasks i).type with
  | sms =>
      rw [htype] at h
      cases h
      exact ⟨rfl, _, rfl, rfl⟩
  | call =>
      have hmode : ¬ s.call.callSimulationMode = true := fun hmode => hgoes ⟨htype, hmode⟩
      simp only [htype, if_neg hmode] at h
      refine ⟨if_neg hmode, ?_⟩
      simp only [TaskEffect.on]
      cases hadd : addVoiceMessageToQueue
          (setLoopedMessage (setPendingCallFlag s.call true) true) (s.tasks i).arguments with
      | error fault =>
          rw [hadd] at h
          cases h
      | ok call =>
          rw [hadd] at h
          cases h
          exact ⟨call, rfl, rfl⟩
  | wakeHost =>
      rw [htype] at h
      cases h
      exact ⟨rfl, _, rfl, rfl⟩
  | dndClear =>
      rw [htype] at h
      cases h
      exact ⟨rfl, _, rfl, rfl⟩

/-- Nothing is cleaned up if nothing is done or has failed. -/
theorem cleanup_none {s : SchRuntime}
    (h : ∀ j, j < maxNumTasks → (s.tasks j).status ≠ .done ∧ (s.tasks j).status ≠ .failed) :
    cleanupTasks s = s := by
  have htasks : sweep (fun task => task.status = .done ∨ task.status = .failed) Task.removed
      maxNumTasks s.tasks = s.tasks := by
    funext j
    rw [sweep_apply, if_neg]
    rintro ⟨hj, hover⟩
    rcases of_decide_eq_true hover with hdone | hfailed
    · exact (h j hj).1 hdone
    · exact (h j hj).2 hfailed
  rw [cleanupTasks, htasks]

/-- The task in slot `i` is done, and is cleaned up; the others are left alone. -/
theorem cleanup_done {s : SchRuntime} {tasks : Nat → Task} {task : Task} (hi : i < maxNumTasks)
    (hothers : ∀ j, j < maxNumTasks → (tasks j).Settled) (hdone : task.status = .done)
    (htasks : s.tasks = Function.update tasks i task) :
    needsWrite s = true ∧
      cleanupTasks s = { s with tasks := Function.update tasks i task.removed } := by
  have hslot : s.tasks i = task := by rw [htasks, Function.update_self]
  constructor
  · refine List.any_eq_true.2 ⟨i, List.mem_range.2 hi, ?_⟩
    simp [hslot, hdone]
  · have hswept : sweep (fun task => task.status = .done ∨ task.status = .failed) Task.removed
        maxNumTasks s.tasks = Function.update tasks i task.removed := by
      funext j
      rw [sweep_apply]
      by_cases hj : j = i
      · rw [hj, hslot, if_pos ⟨hi, by simp [hdone]⟩, Function.update_self]
      · have hother : s.tasks j = tasks j := by rw [htasks, Function.update_of_ne hj]
        rw [hother, Function.update_of_ne hj, if_neg]
        rintro ⟨hlt, hover⟩
        rcases hothers j hlt with hfree | hpending
        · simp [hfree] at hover
        · simp [hpending] at hover
    rw [cleanupTasks, hswept]

/-- The state after a task has been run that is not put off. -/
theorem run_goes {result : SchState × List TaskEffect} (h : Synced st) (hi : i < maxNumTasks)
    (hgoes : ¬ ((st.rt.tasks i).type = .call ∧ st.rt.call.callSimulationMode = true))
    (hrun : runStep st i = .ok result) :
    result.2 = [(st.rt.tasks i).effect] ∧
      (st.rt.tasks i).effect.on st.rt.call = .ok result.1.rt.call ∧
      (∃ task, task.status = .free ∧ result.1.rt.tasks = Function.update st.rt.tasks i task) ∧
      result.1.file = some result.1.rt.tasks ∧ result.1.thread = st.thread ∧
      result.1.written = Function.update st.written i true := by
  obtain ⟨performed, hperform, hresult⟩ := bind_ok hrun
  have hslot : (setStatus st.rt i .inProgress).tasks i =
      { st.rt.tasks i with status := .inProgress } := Function.update_self _ _ _
  have heffect : ((setStatus st.rt i .inProgress).tasks i).effect = (st.rt.tasks i).effect := by
    rw [hslot]
    rfl
  have hgoes' : ¬ (((setStatus st.rt i .inProgress).tasks i).type = .call ∧
      (setStatus st.rt i .inProgress).call.callSimulationMode = true) := by
    rw [hslot]
    exact hgoes
  obtain ⟨heffects, call, hon, hperformed⟩ := perform_effect hgoes' hperform
  rw [heffect] at heffects hon
  have htasks : performed.tasks = Function.update st.rt.tasks i
      { st.rt.tasks i with status := .done } := by
    rw [hperformed]
    simp only [setStatus, Function.update_self, Function.update_idem]
  obtain ⟨hneeds, hcleanup⟩ := cleanup_done hi h.memory rfl htasks
  rw [if_pos hneeds, hcleanup] at hresult
  cases hresult
  refine ⟨heffects, ?_, ⟨_, rfl, rfl⟩, rfl, rfl, rfl⟩
  rw [hperformed]
  exact hon

/-- A call task that is run during a simulated call stays in progress. -/
theorem run_stays {result : SchState × List TaskEffect} (h : Synced st)
    (htype : (st.rt.tasks i).type = .call) (hmode : st.rt.call.callSimulationMode = true)
    (hrun : runStep st i = .ok result) :
    (result.1.rt.tasks i).status = .inProgress ∧ result.1.thread = st.thread := by
  obtain ⟨performed, hperform, hresult⟩ := bind_ok hrun
  have hslot : (setStatus st.rt i .inProgress).tasks i =
      { st.rt.tasks i with status := .inProgress } := Function.update_self _ _ _
  have hdelayed : performTask (setStatus st.rt i .inProgress) i =
      .ok (delayTaskExecution (setStatus st.rt i .inProgress) i 60) := by
    have hcall : (setStatus st.rt i .inProgress).call.callSimulationMode = true := hmode
    rw [performTask, hslot]
    simp only [htype, if_pos hcall]
  rw [hdelayed] at hperform
  cases hperform
  -- nothing is done or has failed, so nothing is cleaned up and the status stays
  have hstatus : ∀ j, j < maxNumTasks →
      ((delayTaskExecution (setStatus st.rt i .inProgress) i 60).tasks j).status ≠ .done ∧
        ((delayTaskExecution (setStatus st.rt i .inProgress) i 60).tasks j).status ≠ .failed := by
    intro j hj
    by_cases hji : j = i
    · rw [hji]
      simp [delayTaskExecution, setStatus]
    · rcases h.memory j hj with hfree | hpending
      · simp [delayTaskExecution, setStatus, Function.update_of_ne hji, hfree]
      · simp [delayTaskExecution, setStatus, Function.update_of_ne hji, hpending]
  rw [cleanup_none hstatus] at hresult
  have hafter : (delayTaskExecution (setStatus st.rt i .inProgress) i 60).tasks i =
      { st.rt.tasks i with
        status := .inProgress
        time := { (st.rt.tasks i).time with
          execTime := (st.rt.tasks i).time.execTime + (60 : UInt8).toNat } } := by
    simp [delayTaskExecution, setStatus]
  have hresult := Except.ok.inj hresult
  rw [← hresult]
  split_ifs
  · exact ⟨by simp only [SchState.save]; rw [hafter], rfl⟩
  · exact ⟨by simp only []; rw [hafter], rfl⟩

/-- The thread goes on to the next slot. -/
theorem Synced.advance (h : Synced st) {curTime : Int} (hthread : st.thread = some (curTime, i))
    (hslot : Due curTime (st.rt.tasks i) → st.written i = true) :
    Synced { st with thread := some (curTime, i + 1) } := by
  refine ⟨h.memory, h.storage, fun _ => h.same (by simp [hthread]), h.missing, ?_⟩
  intro time n hposition j hj hdue
  cases hposition
  by_cases hji : j = i
  · rw [hji] at hdue ⊢
    exact hslot hdue
  · exact h.visited curTime i hthread j (by omega) hdue

/-- The slot that a step of the thread runs. -/
theorem Runs.slot {curTime : Int} {j : Nat} (h : Runs st op j)
    (hthread : st.thread = some (curTime, i)) : j = i := by
  obtain ⟨_, _, time, hposition, _⟩ := h
  rw [hthread] at hposition
  cases hposition
  rfl

theorem not_adds_check {j : Nat} : ¬ Adds st .check j := by
  rintro ⟨_, _, hop, _⟩
  cases hop

/-- A task is run that is not put off. -/
theorem Synced.goes (h : Synced st) {curTime : Int} {result : SchState × List TaskEffect}
    (hthread : st.thread = some (curTime, i)) (hi : i < maxNumTasks)
    (hrun : Runs st .check i)
    (hgoes : ¬ ((st.rt.tasks i).type = .call ∧ st.rt.call.callSimulationMode = true))
    (hstep : runStep st i = .ok result) :
    Synced { result.1 with thread := some (curTime, i + 1) } ∧
      Fair st .check { result.1 with thread := some (curTime, i + 1) } result.2 := by
  obtain ⟨heffects, hcall, ⟨task, hfree, htasks⟩, hfile, hposition, hwritten⟩ :=
    run_goes h hi hgoes hstep
  have hslot : result.1.rt.tasks i = task := by rw [htasks, Function.update_self]
  have hsaved : Synced result.1 := by
    refine h.saved (.inl hfree) htasks hfile hposition (fun j hj => ?_) fun _ => ?_
    · rw [hwritten]
      by_cases hji : j = i
      · rw [hji, Function.update_self]
      · rw [Function.update_of_ne hji]
        exact hj
    · rw [hwritten, Function.update_self]
  have hsynced := hsaved.advance (hposition.trans hthread) fun _ => by
    rw [hwritten, Function.update_self]
  refine ⟨hsynced, ?_, fun time hend j hj hdue => hsynced.visited time _ hend j hj hdue, ?_, ?_, ?_⟩
  · rw [hsynced.held]
    exact hsynced.storage
  · intro j hj
    rw [hj.slot hthread]
    exact .inl ⟨heffects, hcall, by rw [hslot]; exact hfree⟩
  · intro hnone
    exact absurd hrun (hnone i)
  · intro j hj _
    refine ⟨not_adds_check, ?_⟩
    by_cases hji : j = i
    · rw [hji]
      exact .inr (.inr hrun)
    · refine .inl ?_
      rw [SchState.held, SchState.held, hthread]
      simp only [htasks, Function.update_of_ne hji]

/-- A step of the thread: all is well exactly if no call task meets a simulated call. -/
theorem Synced.check (h : Synced st) (hstep : checkStep st = .ok (after, effects)) :
    (Unhindered st .check → Synced after) ∧
      (Fair st .check after effects ↔ Unhindered st .check) := by
  have hsaves : ¬ Saves st .check := fun hsaves => hsaves
  unfold checkStep at hstep
  cases hthread : st.thread with
  | none =>
      rw [hthread] at hstep
      cases hstep
      refine h.idle rfl ?_ (fun _ => not_adds_check) hsaves
      rintro i ⟨_, _, curTime, hposition, _⟩
      rw [hthread] at hposition
      cases hposition
  | some position =>
      obtain ⟨curTime, i⟩ := position
      simp only [hthread] at hstep
      split_ifs at hstep with hi
      · obtain ⟨result, hslot, hresult⟩ := bind_ok hstep
        cases hresult
        unfold slotStep at hslot
        split_ifs at hslot with hdue
        · have hrun : Runs st .check i := ⟨rfl, hi, curTime, hthread, hdue⟩
          -- neither outcome is fair for a task that is left in progress
          by_cases hmeets : (st.rt.tasks i).type = .call ∧ st.rt.call.callSimulationMode = true
          · obtain ⟨hstatus, _⟩ := run_stays h hmeets.1 hmeets.2 hslot
            refine ⟨fun hunhindered => absurd hmeets (hunhindered.call i hrun), fun hfair => ?_,
              fun hunhindered => absurd hmeets (hunhindered.call i hrun)⟩
            rcases hfair.run i hrun with hexecuted | hputoff
            · cases hstatus.symm.trans hexecuted.free
            · cases hstatus.symm.trans hputoff.pending
          · obtain ⟨hsynced, hfair⟩ := h.goes hthread hi hrun hmeets hslot
            refine ⟨fun _ => hsynced, fun _ => ⟨fun j hj => ?_, fun _ hsave => absurd hsave hsaves⟩,
              fun _ => hfair⟩
            rw [hj.slot hthread]
            exact hmeets
        · cases hslot
          have hruns : ∀ j, ¬ Runs st .check j := by
            intro j hrun
            obtain rfl := hrun.slot hthread
            obtain ⟨_, _, time, hposition, hother⟩ := hrun
            rw [hthread] at hposition
            cases hposition
            exact hdue hother
          have hsynced := h.advance hthread fun hother => absurd hother hdue
          refine hsynced.idle ?_ hruns (fun _ => not_adds_check) hsaves
          rw [SchState.held, SchState.held, hthread]
      · cases hstep
        refine h.idle rfl ?_ (fun _ => not_adds_check) hsaves
        intro j hrun
        obtain rfl := hrun.slot hthread
        exact hi hrun.2.1

theorem Synced.tick (h : Synced st) (now : Int) :
    Synced (tickStep st now) ∧ (tickStep st now).held = st.held := by
  unfold tickStep
  cases hthread : st.thread with
  | none =>
      have hread : st.read.tasks = st.stored := by
        cases hfile : st.file with
        | none => simp [SchState.read, SchState.stored, hfile, h.missing hfile]
        | some tasks => simp [SchState.read, SchState.stored, hfile]
      refine ⟨⟨?_, h.storage, fun _ => hread.symm, fun hnone => ?_, ?_⟩, ?_⟩
      · simp only [hread]
        exact h.storage
      · have hfile : st.file = none := hnone
        simp only [hread, SchState.stored, hfile, Option.getD_none]
      · intro curTime n hposition j hj
        cases hposition
        exact absurd hj (Nat.not_lt_zero j)
      · simp only [SchState.held, hthread]
        exact hread
  | some position =>
      obtain ⟨curTime, i⟩ := position
      simp only []
      split_ifs
      · exact ⟨h, rfl⟩
      · refine ⟨⟨h.memory, h.storage, fun _ => h.same (by simp [hthread]), h.missing, ?_⟩, ?_⟩
        · intro time n hposition j hj
          cases hposition
          exact absurd hj (Nat.not_lt_zero j)
        · simp only [SchState.held, hthread]

/-- Every step: the tasks are treated well exactly if nothing stands in the way. -/
theorem Synced.step (h : Synced st) (hstep : schedulerStep st op = .ok (after, effects)) :
    (Unhindered st op → Synced after) ∧ (Fair st op after effects ↔ Unhindered st op) := by
  cases op with
  | addTask clock task =>
      cases hstep
      obtain ⟨hsynced, hfair⟩ := h.add clock task
      exact ⟨fun _ => hsynced, hfair⟩
  | removeTask taskId =>
      obtain ⟨next, hremove, hnext⟩ := bind_ok hstep
      cases hnext
      obtain ⟨hsynced, hfair⟩ := h.remove hremove
      exact ⟨fun _ => hsynced, hfair⟩
  | call op =>
      obtain ⟨next, hcall, hnext⟩ := bind_ok hstep
      cases hnext
      unfold callStep at hcall
      cases hop : callNext st.rt.call op with
      | error fault =>
          rw [hop] at hcall
          cases hcall
      | ok call =>
          rw [hop] at hcall
          cases hcall
          have hsynced : Synced { st with rt := { st.rt with call := call } } :=
            ⟨h.memory, h.storage, h.same, h.missing, h.visited⟩
          refine hsynced.idle rfl (fun _ => not_runs (by simp)) ?_ fun hsaves => hsaves
          rintro j ⟨_, _, hadd, _⟩
          cases hadd
  | tick now =>
      cases hstep
      obtain ⟨hsynced, hheld⟩ := h.tick now
      refine hsynced.idle hheld (fun _ => not_runs (by simp)) ?_ fun hsaves => hsaves
      rintro j ⟨_, _, hadd, _⟩
      cases hadd
  | check => exact h.check hstep
  | restart =>
      cases hstep
      have hheld : (SchState.boot st.file).held = st.held := h.held.symm
      refine h.boot_stored.idle hheld (fun _ => not_runs (by simp)) ?_ fun hsaves => hsaves
      rintro j ⟨_, _, hadd, _⟩
      cases hadd

/-! ## Runs -/

theorem synced_run {ops : List SchedulerOp}
    (hrun : Run schedulerNext Unhindered (.boot none) ops st) : Synced st := by
  refine Run.invariant Synced synced_start ?_ hrun
  intro before op next hbefore hunhindered hnext
  obtain ⟨⟨_, effects⟩, hstep, rfl⟩ := of_map_ok hnext
  exact (hbefore.step hstep).1 hunhindered

/-- In a run in which no call task meets a simulated call, and no file is written over before it has
been read, a next step treats the tasks well exactly if it meets the same condition. -/
theorem tasks_fair {ops : List SchedulerOp}
    (hrun : Run schedulerNext Unhindered (.boot none) ops st) :
    ∀ op after effects, schedulerStep st op = .ok (after, effects) →
      (Fair st op after effects ↔ Unhindered st op) := by
  intro op after effects hstep
  exact ((synced_run hrun).step hstep).2

/-- A task without an argument that is due at once. -/
def sampleTask (type : Chat.TaskType) : Task := ⟨type, 0, .pending, ⟨0, .timeCountdown, 0, 0⟩, []⟩

/-- A clock that stands at the epoch. -/
def epoch : Clock := ⟨0, 0, fun _ hh mm => hh.toNat * 3600 + mm.toNat * 60⟩

/-- The host calls the number of the modem. -/
def sampleDial : CallOp := .packet 0 .fromHost (sampleRequest 0x20 8 0) 28

/-- The first task may be added at any time. -/
theorem first_task_unhindered (task : Task) :
    Unhindered (.boot none) (.addTask epoch task) where
  call := fun _ => (not_runs (by simp)).elim
  file := fun _ _ _ _ _ hused => absurd rfl hused

/-- A task that wakes the host is due. -/
theorem wake_task_executed :
    ∃ st after, Run schedulerNext Unhindered (.boot none)
        [.addTask epoch (sampleTask .wakeHost), .tick 0] st ∧
      schedulerStep st .check = .ok (after, [.pulseRingIn]) ∧
      Fair st .check after [.pulseRingIn] := by
  have hrun : ∃ st after, Run schedulerNext Unhindered (.boot none)
      [.addTask epoch (sampleTask .wakeHost), .tick 0] st ∧
      schedulerStep st .check = .ok (after, [.pulseRingIn]) ∧ st.thread = some (0, 0) ∧
      (st.rt.tasks 0).type = .wakeHost := by
    refine ⟨_, _, .snoc (.snoc (.nil _) (first_task_unhindered _) rfl) ?_ rfl, rfl, rfl, rfl⟩
    exact unhindered_of_idle (fun _ => not_runs (by simp)) fun hsaves => hsaves
  obtain ⟨st, after, hrun, hstep, hthread, htype⟩ := hrun
  refine ⟨st, after, hrun, hstep, (tasks_fair hrun _ _ _ hstep).2 ⟨?_, ?_⟩⟩
  · intro i hruns hmeets
    rw [hruns.slot hthread, htype] at hmeets
    cases hmeets.1
  · intro _ hsaves
    exact hsaves.elim

/-- A call task is due during a simulated call. -/
theorem call_task_stuck : ¬ NeverStuck := by
  intro h
  have hrun : ∃ st after effects, Run schedulerNext Unhindered (.boot none)
      [.addTask epoch (sampleTask .call), .call sampleDial, .tick 0] st ∧
      schedulerStep st .check = .ok (after, effects) ∧ Runs st .check 0 ∧
      (st.rt.tasks 0).type = .call ∧ st.rt.call.callSimulationMode = true := by
    refine ⟨_, _, _, .snoc (.snoc (.snoc (.nil _) (first_task_unhindered _) rfl) ?_ rfl) ?_ rfl,
      rfl, ⟨rfl, by decide, 0, rfl, by decide⟩, rfl, rfl⟩
    · exact unhindered_of_idle (fun _ => not_runs (by simp)) fun hsaves => hsaves
    · exact unhindered_of_idle (fun _ => not_runs (by simp)) fun hsaves => hsaves
  obtain ⟨st, after, effects, hrun, hstep, hruns, htype, hmode⟩ := hrun
  have hfair := h _ st (hrun.mono fun _ _ _ => trivial) _ _ _ hstep
  have hunhindered := ((synced_run hrun).step hstep).2.1 hfair
  exact hunhindered.call 0 hruns ⟨htype, hmode⟩

end OpenQti.Scheduler
