import OpenQti.Chat.QueueWrites
import OpenQti.Scheduler.Tasks

/-!
# Deleting a task

`cmd_delete_task` reads a number with `atoi`, and `remove_task` compares it with the upper end of
the array only. A text that is no number is taken for slot 0, or for the digits it begins with; a
negative number is a slot before the array; and a slot that is free is cleared, although the answer
is that there is no such task. `delete_touches_named_iff` says for which commands and which tables
this makes no difference.
-/

namespace OpenQti.Scheduler

open Chat Text

variable (s : SchRuntime) (env : ChatEnv)

/-- `remove_task(taskID)` returns 0. -/
def removedTask (taskId : Int) : Bool :=
  0 ≤ taskId ∧ taskId < maxNumTasks ∧ (s.tasks taskId.toNat).status ≠ .free

/-- `cmd_delete_task(command)`, with the texts that are sent. -/
def deleteTaskReplies (command : List UInt8) : Except TaskFault (SchRuntime × List Reply) := do
  let next ← deleteTask s command
  .ok (next, cmdDeleteTask { env with taskRemoved := removedTask s } command)

/-! ## The property -/

/-- The slot is in use, it is freed and no other slot is touched, and the answer says so. -/
def Removed (next : SchRuntime) (replies : List Reply) (taskId : Nat) : Prop :=
  taskId < maxNumTasks ∧ (s.tasks taskId).status ≠ .free ∧ (next.tasks taskId).status = .free ∧
    (∀ other, other ≠ taskId → next.tasks other = s.tasks other) ∧
    replies = [sprintf "Removed task %i \n" [signed taskId]]

/-- No slot is touched, and the answer says that there is no such task. -/
def Refused (next : SchRuntime) (replies : List Reply) : Prop :=
  next.tasks = s.tasks ∧
    ∃ taskId : Int, replies = [sprintf "Remove task %i failed: It doesn't exist!\n" [signed taskId]]

/-- The task that the argument names is removed, or nothing is. -/
def TouchesOnlyNamed (command args : List UInt8) : Prop :=
  ∃ next replies, deleteTaskReplies s env command = .ok (next, replies) ∧
    ((∃ taskId : Nat, Denotes args taskId ∧ Removed s next replies taskId) ∨
      Refused s next replies)

/-! ## The outcome -/

variable {s env} {command args : List UInt8}

/-- The command with an argument removes the task with the number that is read. -/
theorem delete_task_replies_eq (hargs : arguments .actionDeleteTask command = some args)
    (hne : args ≠ []) :
    deleteTaskReplies s env command =
      (removeTask s (atoi args)).map fun next =>
        (next, [if removedTask s (atoi args) then
            sprintf "Removed task %i \n" [signed (atoi args)]
          else sprintf "Remove task %i failed: It doesn't exist!\n" [signed (atoi args)]]) := by
  obtain ⟨c, rest, rfl⟩ := List.exists_cons_of_ne_nil hne
  simp only [deleteTaskReplies, deleteTask, taskToDelete, cmdDeleteTask, withArguments, hargs]
  cases removeTask s (atoi (c :: rest)) with
  | error fault => rfl
  | ok next => rfl

/-- A text that is a number is the one that is read, if it is small. -/
theorem denotes_of_atoi {value : Int} {taskId : Nat} (hnumber : Denotes args value)
    (hread : atoi args = taskId) (hsmall : taskId < maxNumTasks) : Denotes args taskId := by
  have hvalue := atoi_of_denotes hnumber
  unfold maxNumTasks at hsmall
  have hsame : value = taskId := by omega
  rwa [hsame] at hnumber

/-- For a number of a slot: what is touched is the slot that is named, or nothing. -/
theorem touches_slot_iff (hargs : arguments .actionDeleteTask command = some args)
    (hne : args ≠ []) {taskId : Nat} (hread : atoi args = taskId) (hslot : taskId < maxNumTasks) :
    TouchesOnlyNamed s env command args ↔
      ((s.tasks taskId).status ≠ .free → ∃ value, Denotes args value) ∧
        ((s.tasks taskId).status = .free → (s.tasks taskId).removed = s.tasks taskId) := by
  have hremoved : removedTask s taskId = true ↔ (s.tasks taskId).status ≠ .free := by
    simp [removedTask, hslot]
  have hremove : removeTask s taskId = .ok { s with
      tasks := Function.update s.tasks taskId (s.tasks taskId).removed } := by
    have hint : (taskId : Int) < maxNumTasks := by omega
    rw [removeTask, if_pos hint, if_pos (Int.natCast_nonneg taskId), Int.toNat_natCast]
  unfold TouchesOnlyNamed
  rw [delete_task_replies_eq hargs hne, hread, hremove]
  by_cases hfree : (s.tasks taskId).status = .free
  · have hkept : ¬ removedTask s taskId = true := by
      rw [hremoved]
      exact not_not.2 hfree
    simp only [hfree, ne_eq, not_true_eq_false, false_implies, true_and, forall_const,
      Except.map, if_neg hkept]
    constructor
    · rintro ⟨next, replies, hdone, ⟨named, hnamed, -, huse, -⟩ | ⟨hsame, -⟩⟩
      · cases hdone
        have hvalue := atoi_of_denotes hnamed
        rw [hread] at hvalue
        unfold maxNumTasks at hslot
        have heq : named = taskId := by omega
        rw [heq] at huse
        exact absurd hfree huse
      · cases hdone
        have hslot := congrFun hsame taskId
        simpa using hslot
    · intro hclear
      refine ⟨_, _, rfl, .inr ⟨?_, taskId, rfl⟩⟩
      simp [hclear]
  · have hdeleted : removedTask s taskId = true := hremoved.2 hfree
    simp only [hfree, ne_eq, not_false_eq_true, forall_const, false_implies, and_true,
      Except.map, if_pos hdeleted]
    constructor
    · rintro ⟨next, replies, hdone, ⟨named, hnamed, -⟩ | ⟨hsame, -⟩⟩
      · exact ⟨named, hnamed⟩
      · cases hdone
        have hstatus := congrArg Task.status (congrFun hsame taskId)
        simp only [Function.update_self] at hstatus
        exact absurd hstatus.symm hfree
    · rintro ⟨value, hvalue⟩
      refine ⟨_, _, rfl, .inl ⟨taskId, denotes_of_atoi hvalue hread hslot, hslot, hfree, ?_,
        fun other hother => Function.update_of_ne hother _ _, rfl⟩⟩
      simp only [Function.update_self]
      rfl

/-- For every table and every command with an argument, what is touched is the task that the
argument names, or nothing, if and only if the number that is read is not negative, and, where it is
that of a slot, the argument is a number if the slot is in use, and the slot has been cleared if it
is free. -/
theorem delete_touches_named_iff (s : SchRuntime) (env : ChatEnv) (command args : List UInt8)
    (hargs : arguments .actionDeleteTask command = some args) (hne : args ≠ []) :
    TouchesOnlyNamed s env command args ↔
      0 ≤ atoi args ∧ ∀ taskId : Nat, atoi args = taskId → taskId < maxNumTasks →
        ((s.tasks taskId).status ≠ .free → ∃ value, Denotes args value) ∧
          ((s.tasks taskId).status = .free → (s.tasks taskId).removed = s.tasks taskId) := by
  by_cases hpos : 0 ≤ atoi args
  · obtain ⟨taskId, hread⟩ := Int.eq_ofNat_of_zero_le hpos
    simp only [hpos, true_and]
    by_cases hslot : taskId < maxNumTasks
    · rw [touches_slot_iff hargs hne hread hslot]
      constructor
      · intro h other hother _
        have heq : other = taskId := by omega
        rw [heq]
        exact h
      · intro h
        exact h taskId hread hslot
    · refine iff_of_true ?_ fun other hother hlt => absurd hlt (by omega)
      have hlarge : ¬ atoi args < maxNumTasks := by omega
      have hkept : ¬ removedTask s (atoi args) = true := by
        simp only [removedTask, decide_eq_true_eq]
        exact fun h => hlarge h.2.1
      refine ⟨s, _, ?_, .inr ⟨rfl, atoi args, rfl⟩⟩
      rw [delete_task_replies_eq hargs hne, removeTask, if_neg hlarge, if_neg hkept]
      rfl
  · refine iff_of_false ?_ fun h => hpos h.1
    rintro ⟨next, replies, hdone, -⟩
    have hsmall : atoi args < maxNumTasks := by omega
    rw [delete_task_replies_eq hargs hne, removeTask, if_pos hsmall, if_neg hpos] at hdone
    cases hdone

/-- A slot that has never been used stays as it is, and the answer says that it is free. -/
theorem delete_unused_slot :
    TouchesOnlyNamed (startUp none) freshEnv (ascii "delete task 3") (ascii "3") := by
  refine (delete_touches_named_iff (startUp none) freshEnv _ _ (by decide +kernel)
    (by decide)).2 ⟨by decide, fun taskId _ _ => ⟨fun huse => absurd rfl huse, fun _ => rfl⟩⟩

/-- A negative number is taken for a slot before the array. -/
theorem negative_task_out_of_array :
    ¬ ∀ (s : SchRuntime) (env : ChatEnv) (command args : List UInt8),
      arguments .actionDeleteTask command = some args → args ≠ [] →
        TouchesOnlyNamed s env command args := by
  intro h
  obtain ⟨next, replies, hdone, -⟩ := h (startUp none) freshEnv (ascii "delete task -1")
    (ascii "-1") (by decide +kernel) (by decide)
  rw [delete_task_replies_eq (by decide +kernel : _ = some (ascii "-1")) (by decide)] at hdone
  have hread : atoi (ascii "-1") = -1 := by decide
  rw [hread] at hdone
  cases hdone

end OpenQti.Scheduler
