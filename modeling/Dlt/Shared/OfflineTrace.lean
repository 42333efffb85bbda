import Dlt.Lib.Directory
import Dlt.Lib.TextFile
import Dlt.Shared.Types
import Mathlib.Data.List.Sort

/-!
# The offline trace

* `dltOfflineTraceInit`, `dltOfflineTraceWrite` — the calls of the daemon.
-/

namespace Dlt.Shared

open Dlt.Lib

/-! ## Data -/

abbrev TraceFiles := Directory (List UInt8) UInt8

/-- `ohandle`. -/
inductive OHandle
  /-- `-1`. -/
  | closed
  /-- A descriptor of a file of the directory, at an offset. -/
  | file (i off : ℕ)
  /-- Another descriptor, as `0` before the first file is opened. -/
  | foreign
deriving DecidableEq, Repr

/-- Source: `dlt_offline_trace.h`, `DltOfflineTrace` -/
structure DltOfflineTrace where
  directory : List UInt8
  filename : List UInt8
  fileSize : ℤ
  maxSize : ℤ
  filenameTimestampBased : Bool
  ohandle : OHandle
deriving DecidableEq

/-- The memory of a trace that is not initialised is filled with zeros. -/
def DltOfflineTrace.fresh : DltOfflineTrace := ⟨[], [], 0, 0, false, .foreign⟩

/-- The trace and the directory. -/
structure OfflineState where
  trace : DltOfflineTrace
  files : TraceFiles
deriving DecidableEq

/-- What the operating system answers during one call. -/
structure TraceSystem where
  /-- The time that files are marked with. -/
  now : ℤ
  /-- The local time as `%Y%m%d_%H%M%S`. -/
  localtime : List UInt8
  /-- `stat` and `access` on the directory succeed. -/
  accessible : Bool
  /-- `scandir` succeeds. -/
  scans : Bool
  /-- `opendir` succeeds when the sizes are added up, at each time. -/
  opensToCount : ℕ → Bool
  /-- `opendir` succeeds at each deletion. -/
  opensToDelete : ℕ → Bool
  /-- The order in which `readdir` lists the names at each deletion. -/
  order : ℕ → List UInt8 → ℕ
  /-- The `remove` of each deletion succeeds. -/
  removes : ℕ → Bool
  /-- `open` succeeds. -/
  opens : Bool
  /-- `lseek` on a descriptor that is not of the directory. -/
  tell : ℤ
  /-- How many bytes each `write` takes at most, negative if it fails. -/
  writes : ℕ → ℤ

/-- A buffer that is passed to `dlt_offline_trace_write`. -/
inductive TracePart
  | null (size : ℕ)
  | data (bytes : List UInt8)
deriving DecidableEq

namespace TracePart

def size : TracePart → ℕ
  | null size => size
  | data bytes => bytes.length

def bytes : TracePart → List UInt8
  | null _ => []
  | data bytes => bytes

end TracePart

/-! ## File names -/

/-- Source: `DLT_OFFLINETRACE_FILENAME_BASE` -/
def offlinetraceFilenameBase : List UInt8 := ascii "dlt_offlinetrace"

/-- Source: `DLT_OFFLINETRACE_FILENAME_EXT` -/
def offlinetraceFilenameExt : List UInt8 := ascii ".dlt"

/-- The files that are counted and deleted: `strstr` finds the base in the name. -/
def isTraceName (name : List UInt8) : Bool := offlinetraceFilenameBase <:+: name

/-- The name by the clock. Source: `dlt_offline_trace.c`, `dlt_offline_trace_create_new_file` -/
def timestampName (localtime : List UInt8) : List UInt8 :=
  offlinetraceFilenameBase ++ ascii "_" ++ localtime ++ offlinetraceFilenameExt

/-- Source: `dlt_offline_trace_file_name` -/
def dltOfflineTraceFileName (name : List UInt8) (idx : ℕ) : List UInt8 :=
  name ++ ascii "." ++ printPadded 10 idx ++ offlinetraceFilenameExt

theorem isTraceName_append (rest : List UInt8) : isTraceName (offlinetraceFilenameBase ++ rest) = true :=
  decide_eq_true (List.prefix_append _ _).isInfix

@[simp] theorem isTraceName_timestampName (localtime : List UInt8) :
    isTraceName (timestampName localtime) = true := by
  unfold timestampName
  rw [List.append_assoc, List.append_assoc]
  exact isTraceName_append _

@[simp] theorem isTraceName_dltOfflineTraceFileName (idx : ℕ) :
    isTraceName (dltOfflineTraceFileName offlinetraceFilenameBase idx) = true := by
  unfold dltOfflineTraceFileName
  rw [List.append_assoc, List.append_assoc]
  exact isTraceName_append _

/-! ## The newest file -/

/-- The result of `dlt_offline_trace_storage_dir_info` while it goes through the files. -/
structure StorageDirInfo where
  num : ℕ
  /-- `tmp_old`. -/
  oldest : Option (List UInt8)
  /-- `tmp_new`. -/
  newest : Option (List UInt8)
deriving DecidableEq

/-- A name belongs to the files named by number. -/
def hasIndexName (fileName name : List UInt8) : Bool :=
  name.take fileName.length = fileName ∧ name[fileName.length]? = some 46

/-- The shorter name is older, then the smaller one. -/
def olderName (old : Option (List UInt8)) (name : List UInt8) : List UInt8 :=
  match old with
  | none => name
  | some old => if name.length < old.length ∨ name.length = old.length ∧ name < old then name else old

/-- The longer name is newer, then the greater one. -/
def newerName (new : Option (List UInt8)) (name : List UInt8) : List UInt8 :=
  match new with
  | none => name
  | some new => if new.length < name.length ∨ new.length = name.length ∧ new < name then name else new

/-- Source: `dlt_offline_trace_storage_dir_info`, the body of the loop -/
def storageDirInfoStep (fileName : List UInt8) (info : StorageDirInfo) (name : List UInt8) :
    StorageDirInfo :=
  if hasIndexName fileName name then
    ⟨info.num + 1, some (olderName info.oldest name), some (newerName info.newest name)⟩
  else info

/-- `scandir` with `alphasort`. -/
def scandir (files : TraceFiles) : List (List UInt8) :=
  (files.listed.map File.name).insertionSort (· ≤ ·)

/-- The number of the files, the newest and the oldest name. The newest name is copied if the *oldest* one
is shorter than `NAME_MAX`.
Source: `dlt_offline_trace_storage_dir_info` -/
def dltOfflineTraceStorageDirInfo (sys : TraceSystem) (files : TraceFiles) (fileName : List UInt8) :
    ℕ × List UInt8 × List UInt8 :=
  if sys.scans then
    let info := (scandir files).foldl (storageDirInfoStep fileName) ⟨0, none, none⟩
    match info.oldest, info.newest with
    | some oldest, some newest =>
      if oldest.length < 255 then (info.num, newest, oldest) else (info.num, [], [])
    | _, _ => (info.num, [], [])
  else (0, [], [])

/-- The value of `strtol` on any text: a number out of the range of `long` is the bound that it exceeds. -/
def strtolLong (text : List UInt8) : ℤ :=
  max (-9223372036854775808) (min 9223372036854775807 (strtol text 10))

/-- Source: `dlt_offline_trace_get_idx_of_log_file` -/
def dltOfflineTraceGetIdxOfLogFile (file : List UInt8) : ℕ :=
  match (strtok 46 file)[1]? with
  | some token => u32 (strtolLong token)
  | none => 0

/-- The name of the next file that is named by number. -/
def nextIndexName (sys : TraceSystem) (files : TraceFiles) : List UInt8 :=
  let newest := (dltOfflineTraceStorageDirInfo sys files offlinetraceFilenameBase).2.1
  dltOfflineTraceFileName offlinetraceFilenameBase (u32 (dltOfflineTraceGetIdxOfLogFile newest + 1))

/-! ## Opening a file -/

def nextName (sys : TraceSystem) (s : OfflineState) : List UInt8 :=
  if s.trace.filenameTimestampBased then timestampName sys.localtime else nextIndexName sys s.files

/-- The path of a file is too long: the check that is made for files named by number. -/
def pathTooLong (trace : DltOfflineTrace) (name : List UInt8) : Bool :=
  trace.filenameTimestampBased = false ∧ 255 ≤ trace.directory.length + 1 + name.length

/-- Source: `dlt_offline_trace_create_new_file` -/
def dltOfflineTraceCreateNewFile (sys : TraceSystem) (s : OfflineState) : OfflineState × ℤ :=
  let name := nextName sys s
  if pathTooLong s.trace name then
    ({ s with trace := { s.trace with filename := name } }, dltReturnError)
  else if sys.opens then
    let opened := s.files.openCreate sys.now name
    (⟨{ s.trace with filename := name, ohandle := .file opened.2 0 }, opened.1⟩, dltReturnOk)
  else ({ s with trace := { s.trace with filename := name, ohandle := .closed } }, dltReturnError)

/-! ## The limit for all files -/

/-- The sum of the sizes, `-1` if the directory cannot be opened. Source: `dlt_offline_trace_get_total_size` -/
def dltOfflineTraceGetTotalSize (sys : TraceSystem) (k : ℕ) (files : TraceFiles) : ℤ :=
  if sys.opensToCount k then files.total isTraceName else -1

/-- `filename_oldest`, `size_oldest` and `time_oldest`. -/
structure OldestFile where
  filename : Option (List UInt8)
  size : ℕ
  time : ℤ
deriving DecidableEq

/-- Source: `dlt_offline_trace_delete_oldest_file`, the body of the loop -/
def oldestFileStep (oldest : OldestFile) (f : File (List UInt8) UInt8) : OldestFile :=
  if isTraceName f.name then
    if oldest.time = 0 ∨ f.mtime < oldest.time then ⟨some f.name, f.content.length, f.mtime⟩ else oldest
  else oldest

/-- `readdir` at a deletion. -/
def readdir (sys : TraceSystem) (k : ℕ) (files : TraceFiles) : List (File (List UInt8) UInt8) :=
  files.listed.insertionSort fun f g => sys.order k f.name ≤ sys.order k g.name

/-- The file that is deleted, and its size. Source: `dlt_offline_trace_delete_oldest_file` -/
def deleteOldest (sys : TraceSystem) (k : ℕ) (files : TraceFiles) : TraceFiles × ℤ :=
  let oldest := (readdir sys k files).foldl oldestFileStep ⟨none, 0, 0⟩
  match oldest.filename with
  | some name => if sys.removes k then (files.unlink name, i32 oldest.size) else (files, -1)
  | none => (files, -1)

/-- The result of `opendir` is not checked: `readdir` of a null pointer is undefined.
Source: `dlt_offline_trace_delete_oldest_file` -/
def dltOfflineTraceDeleteOldestFile (sys : TraceSystem) (k : ℕ) (files : TraceFiles) : Option (TraceFiles × ℤ) :=
  if sys.opensToDelete k then some (deleteOldest sys k files) else none

/-- The loop of `dlt_offline_trace_check_size`, `none` if a deletion is undefined or the loop is not at its end after so
many tests. -/
def checkSizeLoop (sys : TraceSystem) (limit : ℤ) : ℕ → ℕ → TraceFiles → Option (TraceFiles × ℤ)
  | 0, _, _ => none
  | tests + 1, k, files =>
    let s := dltOfflineTraceGetTotalSize sys k files
    if limit < s then
      (dltOfflineTraceDeleteOldestFile sys k files).bind fun deleted =>
        if deleted.2 < 0 then some (deleted.1, dltReturnError)
        else checkSizeLoop sys limit tests (k + 1) deleted.1
    else some (files, if s = -1 then dltReturnError else dltReturnOk)

/-- The loop is given one test more than there are files.
Source: `dlt_offline_trace_check_size` -/
def dltOfflineTraceCheckSize (sys : TraceSystem) (s : OfflineState) : Option (OfflineState × ℤ) :=
  if sys.accessible then
    (checkSizeLoop sys (s.trace.maxSize - s.trace.fileSize) (s.files.listed.length + 1) 0 s.files).map
      fun checked => ({ s with files := checked.1 }, checked.2)
  else some (s, dltReturnError)

/-- Source: `dlt_offline_trace_init` -/
def dltOfflineTraceInit (sys : TraceSystem) (directory : List UInt8) (fileSize maxSize : ℤ)
    (filenameTimestampBased : Bool) (s : OfflineState) : Option (OfflineState × ℤ) :=
  let trace := { s.trace with
    directory := directory.take 255, fileSize := fileSize, maxSize := maxSize,
    filenameTimestampBased := filenameTimestampBased }
  (dltOfflineTraceCheckSize sys { s with trace := trace }).map
    fun checked => dltOfflineTraceCreateNewFile sys checked.1

/-! ## Writing -/

/-- The value of `lseek(ohandle, 0, SEEK_CUR)`. -/
def OHandle.tell (sys : TraceSystem) : OHandle → ℤ
  | .closed => -1
  | .file _ off => off
  | .foreign => sys.tell

/-- The bytes of a part that one `write` takes. -/
def TraceSystem.taken (sys : TraceSystem) (j : ℕ) (bytes : List UInt8) : List UInt8 :=
  bytes.take (sys.writes j).toNat

/-- `write` of a part that is not null to a descriptor that is not negative, and whether it took all bytes. -/
def writePart (sys : TraceSystem) (j : ℕ) (part : TracePart) (s : OfflineState) : OfflineState × Bool :=
  match part, s.trace.ohandle with
  | .null _, _ => (s, true)
  | .data _, .closed => (s, true)
  | .data bytes, .foreign => (s, bytes.length ≤ sys.writes j)
  | .data bytes, .file i off =>
    (⟨{ s.trace with ohandle := .file i (off + (sys.taken j bytes).length) },
      s.files.write sys.now i off (sys.taken j bytes)⟩, bytes.length ≤ sys.writes j)

/-- The parts are written one after the other until one is not written as a whole. -/
def writeParts (sys : TraceSystem) : ℕ → List TracePart → OfflineState → OfflineState × ℤ
  | _, [], s => (s, dltReturnOk)
  | j, part :: parts, s =>
    let written := writePart sys j part s
    if written.2 then writeParts sys (j + 1) parts written.1 else (written.1, dltReturnError)

/-- The sizes of the buffers of a call. -/
def partsSize (parts : List TracePart) : ℕ := (parts.map TracePart.size).sum

/-- A new file is needed before a message of a size is written. -/
def fileIsFull (sys : TraceSystem) (trace : DltOfflineTrace) (size : ℕ) : Bool :=
  trace.fileSize ≤ trace.ohandle.tell sys + size

/-- The old file is closed and a new one is created. -/
def changeFile (sys : TraceSystem) (s : OfflineState) : Option OfflineState :=
  (dltOfflineTraceCheckSize sys { s with trace := { s.trace with ohandle := .closed } }).map
    fun checked => (dltOfflineTraceCreateNewFile sys checked.1).1

/-- Source: `dlt_offline_trace_write` -/
def dltOfflineTraceWrite (sys : TraceSystem) (data1 data2 data3 : TracePart) (s : OfflineState) :
    Option (OfflineState × ℤ) :=
  let parts := [data1, data2, data3]
  if s.trace.ohandle = .closed then some (s, dltReturnError)
  else if fileIsFull sys s.trace (partsSize parts) then (changeFile sys s).map (writeParts sys 0 parts)
  else some (writeParts sys 0 parts s)

end Dlt.Shared
