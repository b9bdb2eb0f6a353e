import OpenQti.Scheduler.Tasks

/-!
# The scheduler and its file

The tasks are written to a file whenever one is added or removed, and the thread of the scheduler
reads it when the network is in service, before its first pass. A pass takes the time once and goes
through the slots; tasks may be added and removed, and simulated calls may begin and end, between any
two of them. This module translates the thread slot by slot, with the file and with what a task does
to other parts of the program.

The file can be written, and is read as it has been written.
-/

namespace OpenQti.Scheduler

open Call Slots

/-- What the `switch` of `run_task` does to other parts of the program. -/
inductive TaskEffect where
  /-- `TASK_TYPE_SMS`. It is only written to the log. -/
  | sendSms
  | callAdmin (text : List UInt8)
  | pulseRingIn
  | clearDoNotDisturb
  deriving DecidableEq, Repr

/-- What a task is for. -/
def Task.effect (task : Task) : TaskEffect :=
  match task.type with
  | .sms => .sendSms
  | .call => .callAdmin task.arguments
  | .wakeHost => .pulseRingIn
  | .dndClear => .clearDoNotDisturb

/-- What an effect does to the simulated calls. -/
def TaskEffect.on (effect : TaskEffect) (call : CallRt) : Except CallFault CallRt :=
  match effect with
  | .sendSms => .ok call
  | .callAdmin text =>
      addVoiceMessageToQueue (setLoopedMessage (setPendingCallFlag call true) true) text
  | .pulseRingIn => .ok call
  | .clearDoNotDisturb => .ok (setDoNotDisturb call false)

/-- The effects of the `switch` of `run_task`. -/
def taskEffects (s : SchRuntime) (taskId : Nat) : List TaskEffect :=
  match (s.tasks taskId).type with
  | .sms => [.sendSms]
  | .call =>
      if s.call.callSimulationMode then [] else [.callAdmin (s.tasks taskId).arguments]
  | .wakeHost => [.pulseRingIn]
  | .dndClear => [.clearDoNotDisturb]

/-- `needs_write` of `cleanup_tasks`. -/
def needsWrite (s : SchRuntime) : Bool :=
  (List.range maxNumTasks).any fun i => (s.tasks i).status = .done ∨ (s.tasks i).status = .failed

/-- The tasks, the file, and the time and the slot of the thread, which is not there before its first
pass. `written` holds the slots to which a task has been added, or whose task has been run, since the
pass began; no function reads it. -/
structure SchState where
  rt : SchRuntime
  file : Option (Nat → Task)
  thread : Option (Int × Nat)
  written : Nat → Bool

/-- The state after a start of the program. -/
def SchState.boot (file : Option (Nat → Task)) : SchState :=
  ⟨startUp none, file, none, fun _ => false⟩

variable (st : SchState)

/-- The tasks are written to the file. -/
def SchState.save (rt : SchRuntime) : SchState :=
  { st with rt := rt, file := some rt.tasks }

/-- `read_tasks_from_storage()`. The number of tasks in a file, 255, is more than the size of a task,
with which it is compared. -/
def SchState.read : SchRuntime := { st.rt with tasks := st.file.getD st.rt.tasks }

inductive SchedulerOp where
  | addTask (clock : Clock) (task : Task)
  | removeTask (taskId : Int)
  | call (op : CallOp)
  /-- A pass begins, at some time. -/
  | tick (now : Int)
  /-- The thread goes on with the next slot. -/
  | check
  | restart

def addStep (clock : Clock) (task : Task) : SchState :=
  match addTask st.rt clock task with
  | (none, rt) => { st with rt := rt }
  | (some taskId, rt) =>
      { st.save rt with written := Function.update st.written taskId true }

def removeStep (taskId : Int) : Except TaskFault SchState := do
  let rt ← removeTask st.rt taskId
  .ok (if taskId < maxNumTasks then st.save rt else { st with rt := rt })

def callStep (op : CallOp) : Except TaskFault SchState :=
  match callNext st.rt.call op with
  | .error fault => .error (.call fault)
  | .ok call => .ok { st with rt := { st.rt with call := call } }

/-- A pass begins if the last one has come to its end. The file is read before the first one. -/
def tickStep (now : Int) : SchState :=
  match st.thread with
  | none => { st with rt := st.read, thread := some (now, 0), written := fun _ => false }
  | some (_, i) =>
      if i < maxNumTasks then st
      else { st with thread := some (now, 0), written := fun _ => false }

/-- The end of `run_task`, from the `switch` on. -/
def runStep (taskId : Nat) : Except TaskFault (SchState × List TaskEffect) := do
  let running := setStatus st.rt taskId .inProgress
  -- a call task that is delayed comes back from here still in progress
  let performed ← performTask running taskId
  let st := if needsWrite performed then st.save (cleanupTasks performed)
    else { st with rt := cleanupTasks performed }
  .ok ({ st with written := Function.update st.written taskId true }, taskEffects running taskId)

/-- The task is to be run in a pass with the time `curTime`. -/
def Due (curTime : Int) (task : Task) : Prop :=
  task.status = .pending ∧ curTime ≥ task.time.execTime

instance (curTime : Int) (task : Task) : Decidable (Due curTime task) :=
  inferInstanceAs (Decidable (_ ∧ _))

/-- The task in slot `i` is run if it is due. -/
def slotStep (curTime : Int) (i : Nat) : Except TaskFault (SchState × List TaskEffect) :=
  if Due curTime (st.rt.tasks i) then runStep st i else .ok (st, [])

/-- The thread goes on from slot `i` to the next one. -/
def visitStep (curTime : Int) (i : Nat) : Except TaskFault (SchState × List TaskEffect) := do
  let (st, effects) ← slotStep st curTime i
  .ok ({ st with thread := some (curTime, i + 1) }, effects)

def checkStep : Except TaskFault (SchState × List TaskEffect) :=
  match st.thread with
  | none => .ok (st, [])
  | some (curTime, i) => if i < maxNumTasks then visitStep st curTime i else .ok (st, [])

/-- One step, with the effects of tasks. -/
def schedulerStep (op : SchedulerOp) : Except TaskFault (SchState × List TaskEffect) :=
  match op with
  | .addTask clock task => .ok (addStep st clock task, [])
  | .removeTask taskId => do
      let st ← removeStep st taskId
      .ok (st, [])
  | .call op => do
      let st ← callStep st op
      .ok (st, [])
  | .tick now => .ok (tickStep st now, [])
  | .check => checkStep st
  | .restart => .ok (.boot st.file, [])

/-- The state after a step. -/
def schedulerNext (op : SchedulerOp) : Except TaskFault SchState :=
  (schedulerStep st op).map Prod.fst

variable {st}

/-- A task is run as `run_task` does it. -/
theorem run_step_eq {taskId : Nat} (hslot : taskId < maxNumTasks)
    (hpending : (st.rt.tasks taskId).status = .pending) :
    (runStep st taskId).map (fun result => result.1.rt) = runTask st.rt taskId := by
  simp only [runTask, if_neg (Nat.not_le.2 hslot), hpending, runStep]
  cases performTask (setStatus st.rt taskId .inProgress) taskId with
  | error fault => rfl
  | ok performed =>
      show Except.ok _ = Except.ok _
      split_ifs
      · rfl
      · rfl

end OpenQti.Scheduler
