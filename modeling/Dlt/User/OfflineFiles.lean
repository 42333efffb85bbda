import Dlt.Lib.Directory
import Dlt.Lib.ExchangeSort
import Dlt.Lib.TextFile

/-!
# The log files of an application

* `Logger.begin`, `Logger.step` — a call of `dlt_offline_on_init` or `dlt_offline_on_write` begins, and it goes
  on by one step.
-/

namespace Dlt.User

open Dlt.Lib

/-! ## Data -/

abbrev LogFiles := Directory (List UInt8) UInt8

/-- What the operating system answers to one step. -/
structure LogSystem where
  /-- The time that files are marked with. -/
  now : ℤ
  /-- The local time as `%04d%02d%02d-%02d%02d%02d`. -/
  stamp : List UInt8
  mkdir : Bool
  /-- `scandir` succeeds. -/
  scans : Bool
  /-- `remove` succeeds. -/
  removes : Bool
  /-- `open` succeeds. -/
  opens : Bool
  /-- How many bytes a `write` takes at most, negative if it fails. -/
  writes : ℤ

/-- The file that is written: a descriptor at an offset, and the counted size.
Source: `dlt_offline.h`, `DltOfflineFileList` -/
structure OpenFile where
  i : ℕ
  off : ℕ
  /-- `size`. -/
  size : ℤ
deriving DecidableEq, Repr

/-- A call of the application. A buffer that is null is `none`. -/
inductive LogCall
  /-- `dlt_offline_on_init`. -/
  | init
  /-- `dlt_offline_on_write`. -/
  | write (data1 data2 : Option (List UInt8))
deriving DecidableEq, Repr

inductive LogPhase
  | idle
  | pop (call : LogCall)
  | access (call : LogCall) (stamp name : List UInt8) (index : ℕ)
  | opening (call : LogCall) (name : List UInt8)
  | write1 (data1 data2 : Option (List UInt8))
  | write2 (data1 data2 : Option (List UInt8))
  /-- A null pointer was dereferenced. -/
  | crashed
deriving DecidableEq, Repr

/-- The file logger of a process. Source: `dlt_user.h`, `DltUser` -/
structure Logger where
  /-- The text of `appID`. -/
  appID : List UInt8
  /-- `file_count`. -/
  fileCount : ℤ
  /-- `file_size`. -/
  fileSize : ℤ
  /-- The names in `file_list`. -/
  fileList : List (List UInt8)
  /-- `dlt_file_handle`. -/
  dltFileHandle : Option OpenFile
  phase : LogPhase
  ret : ℤ
deriving DecidableEq, Repr

/-! ## File names -/

/-- The first name for a time. Source: `dlt_user.c`, `generate_file_name` -/
def plainName (appID stamp : List UInt8) : List UInt8 := appID ++ stamp ++ ascii ".dlt"

/-- The next names for a time. Source: `generate_file_name` -/
def numberedName (appID stamp : List UInt8) (index : ℕ) : List UInt8 :=
  appID ++ stamp ++ ascii "(" ++ printPadded 4 index ++ ascii ")" ++ ascii ".dlt"

/-! ## The files at the start -/

/-- The files whose names the application id occurs in. Source: `dlt_offline.c`, `dlt_offline_scan_file` -/
def dltOfflineScanFile (files : LogFiles) (appID : List UInt8) : List (List UInt8) :=
  ((ascii "." :: ascii ".." :: files.names).insertionSort (· ≤ ·)).filter fun name => appID <:+: name

/-- The longer name is later, then the greater one. -/
def laterName (name name' : List UInt8) : Bool :=
  name'.length < name.length ∨ name.length = name'.length ∧ name' < name

/-- Source: `dlt_offline_sort_file` -/
def dltOfflineSortFile (names : List (List UInt8)) : List (List UInt8) :=
  exchangeSort laterName names.length names

/-! ## The steps of a call -/

namespace Logger

/-- The file that is removed next. Source: `dlt_offline_pop_file` -/
def nextRemoval (p : Logger) : Option (List UInt8) :=
  if 1 < p.fileCount ∧ p.fileCount < p.fileList.length then p.fileList.head? else none

/-- A call ends. -/
def done (p : Logger) (ret : ℤ) : Logger := { p with phase := .idle, ret := ret }

/-- The search for a name begins. Source: `dlt_user.c`, `generate_file_name` -/
def generate (p : Logger) (call : LogCall) (stamp : List UInt8) : Logger :=
  { p with phase := .access call stamp (plainName p.appID stamp) 1 }

/-- A call begins. Source: `dlt_offline_on_init` and `dlt_offline_on_write` -/
def begin (sys : LogSystem) (files : LogFiles) (p : Logger) : LogCall → Logger
  | .init =>
    if sys.mkdir && sys.scans then
      { p with fileList := dltOfflineSortFile (dltOfflineScanFile files p.appID), phase := .pop .init }
    else p.done (-1)
  | .write data1 data2 =>
    match p.dltFileHandle with
    | none => p.done (-1)
    | some handle =>
      if p.fileSize < handle.size then p.generate (.write data1 data2) sys.stamp
      else { p with phase := .write1 data1 data2 }

/-- The files that were to be removed are removed. -/
def popped (sys : LogSystem) (p : Logger) : LogCall → Logger
  | .init => p.generate .init sys.stamp
  | .write data1 data2 => { p with phase := .write1 data1 data2 }

/-- The list with the new file: behind the first file, if one file is to be kept, at the start. -/
def kept (p : Logger) (call : LogCall) : List (List UInt8) :=
  if call = .init ∧ p.fileCount ≤ 1 then p.fileList.take 1 else p.fileList

/-- What follows the opening of a file. -/
def openedNext (p : Logger) (call : LogCall) : Logger :=
  if call = .init then p.done 0 else { p with phase := .pop call }

/-- A file is opened, and its size is read. Without it there is a null pointer in its place.
Source: `dlt_offline.c`, `dlt_offline_open_file` -/
def openFile (sys : LogSystem) (files : LogFiles) (p : Logger) (call : LogCall) (name : List UInt8) :
    LogFiles × Logger :=
  if sys.opens then
    let opened := files.openCreate sys.now name
    let size := (opened.1[opened.2]?.map fun f => f.content.length).getD 0
    (opened.1, openedNext { p with
      fileList := p.kept call ++ [name], dltFileHandle := some ⟨opened.2, 0, size⟩ } call)
  else (files, openedNext { p with fileList := p.kept call, dltFileHandle := none } call)

/-- The bytes that a `write` takes. -/
def taken (sys : LogSystem) (data : List UInt8) : List UInt8 := data.take sys.writes.toNat

/-- A buffer is written to the file that is open.
Source: `dlt_offline_write_file` -/
def writeBuffer (sys : LogSystem) (files : LogFiles) (p : Logger) (data : Option (List UInt8)) (next : Logger) :
    LogFiles × Logger :=
  match data, p.dltFileHandle with
  | none, _ => (files, next)
  | some _, none => (files, { p with phase := .crashed })
  | some data, some handle =>
    (files.write sys.now handle.i handle.off (taken sys data),
      { next with dltFileHandle := some ⟨handle.i, handle.off + (taken sys data).length,
        handle.size + (taken sys data).length⟩ })

/-- One step of a call. Source: `dlt_user.c`, `dlt_offline_on_init`, `dlt_offline_on_write` and
`generate_file_name`, `dlt_offline.c`, `dlt_offline_pop_file` -/
def step (sys : LogSystem) (files : LogFiles) (p : Logger) : LogFiles × Logger :=
  match p.phase with
  | .idle => (files, p)
  | .crashed => (files, p)
  | .pop call =>
    match p.nextRemoval with
    | some name => (if sys.removes then files.unlink name else files, { p with fileList := p.fileList.tail })
    | none => (files, p.popped sys call)
  | .access call stamp name index =>
    if index ≤ 10000 ∧ files.has name then
      (files, { p with phase := .access call stamp (numberedName p.appID stamp index) (index + 1) })
    else (files, { p with phase := .opening call name })
  | .opening call name => p.openFile sys files call name
  | .write1 data1 data2 => p.writeBuffer sys files data1 { p with phase := .write2 data1 data2 }
  | .write2 _ data2 => p.writeBuffer sys files data2 (p.done 1)

end Logger

end Dlt.User
