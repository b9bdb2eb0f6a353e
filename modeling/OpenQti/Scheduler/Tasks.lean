import OpenQti.Call.Steps
import OpenQti.Chat.Schedule
import OpenQti.Lib.Slots

/-!
# The scheduler

`scheduler.c` keeps an array of tasks. Its thread goes through the array every second and runs the
tasks that are due. Tasks are added by chat commands: a call task for a reminder or a wake-up, and
one that ends the do-not-disturb mode. The file in which the tasks are kept is read before the first
pass only; that it is written is left out, and so are the messages that answer the commands.

The local time and `mktime` are those of the C library, given by a `Clock`.
-/

namespace OpenQti.Scheduler

open Call Chat Slots Text

/-- `MAX_NUM_TASKS`. -/
def maxNumTasks : Nat := 255

/-- The states of a slot of the array. -/
inductive TaskStatus where
  | free
  | pending
  | inProgress
  | done
  | failed
  deriving DecidableEq, Repr

/-- At a time of the day, or in some time from now on. -/
inductive TimeMode where
  | timeAt
  | timeCountdown
  deriving DecidableEq, Repr

/-- `struct execution_time`. -/
structure ExecutionTime where
  execTime : Int
  mode : TimeMode
  hh : UInt8
  mm : UInt8
  deriving DecidableEq, Repr

/-- `struct task_p`. The array holds the text and zeros behind it. -/
structure Task where
  type : TaskType
  param : UInt8
  status : TaskStatus
  time : ExecutionTime
  arguments : List UInt8
  deriving DecidableEq, Repr

/-- A slot at start-up. -/
def Task.empty : Task := ⟨.sms, 0, .free, ⟨0, .timeAt, 0, 0⟩, []⟩

/-- The tasks, and the state of the simulated calls on which they work. -/
structure SchRuntime where
  tasks : Nat → Task
  call : CallRt

/-- The state before the first pass. `read_tasks_from_storage` finds a file, or there is none. -/
def startUp (stored : Option (Nat → Task)) : SchRuntime where
  tasks := stored.getD fun _ => .empty
  call := .zero

/-- What the C library says about the time: the current time, its hour, and `mktime` for an hour and
a minute of this day or of the next one. -/
structure Clock where
  now : Int
  hour : Nat
  mktime : (nextDay : Bool) → (hh mm : UInt8) → Int

inductive TaskFault where
  /-- An index that is not in the array. -/
  | index (taskId : Int)
  | call (fault : CallFault)
  deriving DecidableEq, Repr

variable (s : SchRuntime)

/-! ## The array -/

/-- `find_free_task_slot()`. -/
def findFreeTaskSlot : Option Nat :=
  (List.range maxNumTasks).find? fun i => (s.tasks i).status = .free

/-- When a task that is added is to be run. -/
def Clock.execTime (clock : Clock) (time : ExecutionTime) : Int :=
  match time.mode with
  | .timeAt => clock.mktime (clock.hour > time.hh.toNat) time.hh time.mm
  | .timeCountdown => clock.now + time.hh.toNat * 3600 + time.mm.toNat * 60

/-- `add_task(task)`. There may be no slot for it. -/
def addTask (clock : Clock) (task : Task) : Option Nat × SchRuntime :=
  match findFreeTaskSlot s with
  | none => (none, s)
  | some taskId =>
      let time := { task.time with execTime := clock.execTime task.time }
      (some taskId, { s with
        tasks := Function.update s.tasks taskId { task with status := .pending, time := time } })

/-- What `remove_task` leaves of a task. -/
def Task.removed (task : Task) : Task where
  type := .sms
  param := 0
  status := .free
  time := { task.time with mode := .timeAt, hh := 0, mm := 0 }
  arguments := []

/-- `remove_task(taskID)`. Only the upper end of the array is checked. -/
def removeTask (taskId : Int) : Except TaskFault SchRuntime :=
  if taskId < maxNumTasks then
    if 0 ≤ taskId then
      .ok { s with
        tasks := Function.update s.tasks taskId.toNat (s.tasks taskId.toNat).removed }
    else .error (.index taskId)
  else .ok s

/-- `remove_all_tasks_by_type(task_type)`. -/
def removeAllTasksByType (type : TaskType) : SchRuntime :=
  { s with tasks := sweep (fun task => task.type = type) Task.removed maxNumTasks s.tasks }

/-- `cleanup_tasks()`. -/
def cleanupTasks : SchRuntime :=
  { s with
    tasks := sweep (fun task => task.status = .done ∨ task.status = .failed) Task.removed
      maxNumTasks s.tasks }

/-! ## The thread -/

/-- A task gets another state. -/
def setStatus (taskId : Nat) (status : TaskStatus) : SchRuntime :=
  { s with
    tasks := Function.update s.tasks taskId { s.tasks taskId with status := status } }

/-- `delay_task_execution(taskID, seconds)`. -/
def delayTaskExecution (taskId : Nat) (seconds : UInt8) : SchRuntime :=
  let task := s.tasks taskId
  let time := { task.time with execTime := task.time.execTime + seconds.toNat }
  { s with tasks := Function.update s.tasks taskId { task with time := time } }

/-- The `switch` of `run_task`. A call task is put off during a simulated call, and stays in
progress. -/
def performTask (taskId : Nat) : Except TaskFault SchRuntime :=
  match (s.tasks taskId).type with
  | .sms => .ok (setStatus s taskId .done)
  | .call =>
      if s.call.callSimulationMode then .ok (delayTaskExecution s taskId 60)
      else
        let call := setLoopedMessage (setPendingCallFlag s.call true) true
        match addVoiceMessageToQueue call (s.tasks taskId).arguments with
        | .error fault => .error (.call fault)
        | .ok call => .ok (setStatus { s with call := call } taskId .done)
  | .wakeHost => .ok (setStatus s taskId .done)
  | .dndClear => .ok (setStatus { s with call := setDoNotDisturb s.call false } taskId .done)

/-- `run_task(taskID)`. -/
def runTask (taskId : Nat) : Except TaskFault SchRuntime :=
  if maxNumTasks ≤ taskId then .ok s
  else
    match (s.tasks taskId).status with
    | .free => .ok s
    | .done => .ok s
    | .failed => .ok s
    | _ => do
        let s ← performTask (setStatus s taskId .inProgress) taskId
        .ok (cleanupTasks s)

/-- One slot in a pass of `start_scheduler_thread` with `cur_time`. -/
def checkTask (curTime : Int) (s : SchRuntime) (taskId : Nat) : Except TaskFault SchRuntime :=
  if (s.tasks taskId).status = .pending ∧ curTime ≥ (s.tasks taskId).time.execTime then
    runTask s taskId
  else .ok s

/-- A pass of `start_scheduler_thread`. -/
def schedulerPass (curTime : Int) : Except TaskFault SchRuntime :=
  (List.range maxNumTasks).foldlM (checkTask curTime) s

/-! ## The commands -/

/-- The task that ends the do-not-disturb mode after some hours and minutes. Its `exec_time` is set
when it is added. -/
def dndTask (env : ChatEnv) (hh mm : UInt8) : Task where
  type := .dndClear
  param := 0
  status := .pending
  time := ⟨0, .timeCountdown, hh, mm⟩
  arguments :=
    (sprintf "Hi %s, as requested, I'm disabling DND now!" [env.userName]).take
      (Sms.maxMessageSize - 1)

/-- The task that ends the do-not-disturb mode is added, or the mode is left again. -/
def addDndTask (clock : Clock) (task : Task) : SchRuntime :=
  match addTask s clock task with
  | (none, s) => { s with call := setDoNotDisturb s.call false }
  | (some _, s) => s

/-- The end of `cmd_suspend_call_notifications`: the mode is entered. -/
def enterDnd (clock : Clock) (task : Task) : SchRuntime :=
  addDndTask (removeAllTasksByType { s with call := setDoNotDisturb s.call true } .dndClear) clock
    task

/-- `cmd_suspend_call_notifications(command)`. -/
def suspendCallNotifications (env : ChatEnv) (clock : Clock) (command : List UInt8) : SchRuntime :=
  if contains (cmdOf .actionEnableDnd) command then
    match wordLoop (dndRound env) 0 ⟨true, 0, 0, .nothing⟩ (splitWords 0 [] command) with
    | .error _ => s
    | .ok time => enterDnd s clock (dndTask env time.hh time.mm)
  else s

/-- The command `disable dnd`. -/
def disableDnd : SchRuntime :=
  removeAllTasksByType { s with call := setDoNotDisturb s.call false } .dndClear

/-- The task that `cmd_delete_task(command)` removes, if the command has an argument. -/
def taskToDelete (command : List UInt8) : Option Int :=
  match arguments .actionDeleteTask command with
  | none => none
  | some [] => none
  | some args => some (atoi args)

/-- `cmd_delete_task(command)`. -/
def deleteTask (command : List UInt8) : Except TaskFault SchRuntime :=
  match taskToDelete command with
  | none => .ok s
  | some taskId => removeTask s taskId

end OpenQti.Scheduler
