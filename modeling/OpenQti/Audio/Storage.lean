import OpenQti.Lib.Files
import OpenQti.Lib.Text

/-!
# The space that is left

`/tmp` and `/persist` hold the logs, the settings and the recordings of calls. When one of them gets
full, files are removed from it: some of the logs first, and then everything but a few files. The
file that is being recorded is handed to `cleanup_storage` with its whole path, which is never part
of the name of a file, so `exclude_file` does not exclude it (`is_removed_path`).
-/

namespace OpenQti.Audio

open Files Text

/-- The file systems of `RAM_STORAGE_PATH_BASE` and `PERSISTENT_STORAGE_PATH_BASE`. -/
inductive Storage where
  | ram
  | persist
  deriving DecidableEq, Repr

def Storage.base : Storage → List UInt8
  | .ram => ascii "/tmp"
  | .persist => ascii "/persist"

/-- `storage_id`. -/
def Storage.id : Storage → Int
  | .ram => 0
  | .persist => 1

/-- A name in one of the directories. -/
structure Path where
  storage : Storage
  name : List UInt8
  deriving DecidableEq, Repr

/-- The path as a text. -/
def Path.text (path : Path) : List UInt8 := path.storage.base ++ ascii "/" ++ path.name

/-- The files of both storages. -/
abbrev Disk := FileSystem Path

/-! ## Cleaning -/

/-- The names that `cleanup_storage` always leaves alone. -/
def isProtected (dName : List UInt8) : Bool :=
  dName = ascii ".." || dName = ascii "." || dName = ascii "openqti.conf" ||
    dName = ascii "openqti.lock" || contains (ascii ".bin") dName ||
    contains (ascii ".autostart") dName || contains (ascii ".apps") dName ||
    contains (ascii ".raw") dName

/-- `cleanup_storage` removes a file of this name. -/
def isRemoved (aggressive : Bool) (excludeFile dName : List UInt8) : Bool :=
  !isProtected dName &&
    if aggressive then !contains excludeFile dName
    else contains (ascii "log") dName || contains (ascii "csv") dName

/-- A call of `cleanup_storage`, whether the directory can be opened, and which of the files can be
removed. -/
structure Cleanup where
  storageId : Int
  aggressive : Bool
  excludeFile : List UInt8
  opens : Bool
  removable : Path → Bool

/-- The path that is chosen by `switch (storage_id)`. -/
def storageOf (storageId : Int) : Option Storage :=
  if storageId = 0 then some .ram else if storageId = 1 then some .persist else none

/-- A file is listed in the directory if there is no further directory in its name. -/
def Cleanup.removes (cleanup : Cleanup) (path : Path) : Bool :=
  storageOf cleanup.storageId = some path.storage && cleanup.opens && !path.name.contains 47 &&
    isRemoved cleanup.aggressive cleanup.excludeFile path.name && cleanup.removable path

/-- `cleanup_storage`. -/
def cleanupStorage (cleanup : Cleanup) (disk : Disk) : Disk := disk.removeAll cleanup.removes

/-! ## Watching -/

/-- What `watch_storage` does about the space that is left. -/
inductive Watch where
  | kill
  | clean (aggressive : Bool)
  | lowerLogLevel
  | nothing
  deriving DecidableEq, Repr

/-- `-EINVAL` as it is compared with a `uint32_t`. -/
def einval : UInt32 := 4294967274

/-- The branches of `watch_storage`, for the space of the storage that is used. -/
def watch (avail : UInt32) : Watch :=
  if avail ≠ einval ∧ avail < 2 then .kill
  else if avail ≠ einval ∧ avail < 3 then .clean true
  else if avail ≠ einval ∧ avail < 5 then .clean false
  else if avail ≠ einval ∧ avail < 10 then .lowerLogLevel
  else .nothing

/-- What `watch_storage` finds: the value of `use_persistent_logging`, the space of both storages,
and what it finds when it cleans. -/
structure WatchEnv where
  persistent : Bool
  availPersist : UInt32
  availTmpfs : UInt32
  opens : Bool
  removable : Path → Bool

/-- The storage that is watched. -/
def WatchEnv.storage (env : WatchEnv) : Storage := if env.persistent then .persist else .ram

def WatchEnv.avail (env : WatchEnv) : UInt32 :=
  if env.persistent then env.availPersist else env.availTmpfs

/-- The call of `cleanup_storage` by `watch_storage(filename)`. -/
def watchStorage (filename : List UInt8) (env : WatchEnv) : Option Cleanup :=
  match watch env.avail with
  | .clean aggressive => some ⟨env.storage.id, aggressive, filename, env.opens, env.removable⟩
  | _ => none

/-- What `start_scheduler_thread` finds every eleven seconds or so. -/
structure Tock where
  availPersist : UInt32
  availTmpfs : UInt32
  opens : Bool
  removable : Path → Bool

def Tock.avail (tock : Tock) : Storage → UInt32
  | .ram => tock.availTmpfs
  | .persist => tock.availPersist

/-- The call of `cleanup_storage` by `start_scheduler_thread`, for one of the storages. -/
def Tock.clean (tock : Tock) (storage : Storage) : List Cleanup :=
  if tock.avail storage ≠ einval ∧ tock.avail storage < 1 then
    [⟨storage.id, true, ascii "openqti.lock", tock.opens, tock.removable⟩]
  else []

/-- What `start_scheduler_thread` sends, for one of the storages. -/
def Tock.notice (tock : Tock) (storage : Storage) (text : List UInt8) : List (List UInt8) :=
  if tock.avail storage ≠ einval ∧ tock.avail storage < 1 then [text] else []

/-- What `start_scheduler_thread` sends. -/
def Tock.messages (tock : Tock) : List (List UInt8) :=
  tock.notice .persist (ascii "I'm running out of storage, cleaning /persist\n") ++
    tock.notice .ram (ascii "I'm running out of memory, cleaning /tmp\n")

/-- The calls of `cleanup_storage` by `start_scheduler_thread`. -/
def Tock.cleanups (tock : Tock) : List Cleanup :=
  tock.clean .persist ++ tock.clean .ram

/-! ## What is removed -/

variable {disk : Disk} {cleanups : List Cleanup} {path : Path} {needle text : List UInt8}
  {c : UInt8}

/-- A text does not contain what has a character that it does not have. -/
theorem not_contains_of_not_mem (hneedle : c ∈ needle) (htext : c ∉ text) :
    contains needle text = false :=
  Bool.eq_false_iff.2 fun h => htext ((contains_iff.1 h).subset hneedle)

/-- The name of a file that is listed has no slash, and a path has one. -/
theorem not_contains_path (path : Path) {dName : List UInt8} (hname : 47 ∉ dName) :
    contains path.text dName = false :=
  not_contains_of_not_mem (c := 47)
    (List.mem_append_left _ (List.mem_append_right _ (by decide))) hname

/-- An exclusion by a path excludes nothing. -/
theorem is_removed_path (path : Path) {dName : List UInt8} (hname : 47 ∉ dName) :
    isRemoved true path.text dName = !isProtected dName := by
  unfold isRemoved
  rw [if_pos rfl, not_contains_path path hname, Bool.not_false, Bool.and_true]

/-- Some calls of `cleanup_storage`, one after the other. -/
def cleanAll (disk : Disk) (cleanups : List Cleanup) : Disk :=
  cleanups.foldl (fun disk cleanup => cleanupStorage cleanup disk) disk

theorem content_clean_all (disk : Disk) (cleanups : List Cleanup) :
    (cleanAll disk cleanups).content = disk.content := by
  unfold cleanAll
  induction cleanups generalizing disk with
  | nil => rfl
  | cons cleanup cleanups ih => exact ih (cleanupStorage cleanup disk)

/-- A name is left if none of the calls removes it. -/
theorem link_clean_all (disk : Disk) (cleanups : List Cleanup) (path : Path) :
    (cleanAll disk cleanups).link path =
      if cleanups.any (·.removes path) then none else disk.link path := by
  unfold cleanAll
  induction cleanups generalizing disk with
  | nil => rfl
  | cons cleanup cleanups ih =>
      rw [List.foldl_cons, ih, List.any_cons]
      show (if _ then none else if cleanup.removes path then none else disk.link path) = _
      cases cleanup.removes path <;> simp

end OpenQti.Audio
