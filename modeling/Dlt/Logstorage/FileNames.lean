import Dlt.Devices.Lookup
import Dlt.Lib.Directory
import Dlt.Lib.ExchangeSort

/-!
# The names of log files

* `dltLogstorageStorageDirInfo` — the records are read from the directory.

The delimiter is a punctuation character. `strdup` and `remove` succeed.
-/

namespace Dlt.Logstorage.Files

open Dlt.Lib Dlt.Devices

/-! ## Names -/

/-- The largest value of an `unsigned int`. -/
def uintMax : ℕ := 4294967295

/-- The name of a log file. `stamp` is the local time as `%04d%02d%02d-%02d%02d%02d`.
Source: `dlt_offline_logstorage_behavior.c`, `dlt_logstorage_log_file_name` -/
def dltLogstorageLogFileName (fileConfig : DltLogStorageUserConfig) (name stamp : List UInt8) (idx : ℤ) : List UInt8 :=
  let fileIndex := (printDecimal idx).take 9
  let zeros :=
    if fileConfig.logfileMaxcounter ≠ uintMax then
      List.replicate (fileConfig.logfileCounteridxlen - fileIndex.length) 48
    else []
  let time := if fileConfig.logfileTimestamp ≠ 0 then fileConfig.logfileDelimiter :: stamp else []
  name ++ [fileConfig.logfileDelimiter] ++ zeros ++ fileIndex ++ time ++ ascii ".dlt"

/-- The index of a log file. The lengths that the position is computed from cancel out: it is behind the first
delimiter, with and without a time stamp.
Source: `dlt_logstorage_get_idx_of_log_file` -/
def dltLogstorageGetIdxOfLogFile (fileConfig : DltLogStorageUserConfig) (file : List UInt8) : ℕ :=
  match file.dropWhile (· ≠ fileConfig.logfileDelimiter) with
  | [] => uintMax
  | _ :: index => ((scanDecimal index).getD 0 % 4294967296).toNat

/-! ## Records -/

/-- Source: `dlt_offline_logstorage.h`, `DltLogStorageFileList` -/
structure FileRecord where
  name : List UInt8
  idx : ℕ
deriving DecidableEq

/-- The records in the order of their indices. The largest index is what the last pass compares last, and zero for fewer
than two records.
Source: `dlt_offline_logstorage_behavior.c`, `dlt_logstorage_sort_file_name` -/
def dltLogstorageSortFileName (records : List FileRecord) : List FileRecord × ℕ :=
  if records.length < 2 then (records, 0)
  else
    let sorted := exchangeSort (fun nd nx => nd.idx > nx.idx) records.length records
    (sorted, (sorted.getLast?.map FileRecord.idx).getD 0)

/-- The records up to the first gap in their indices, and those behind it. -/
def splitAtGap : List FileRecord → Option (List FileRecord × List FileRecord)
  | nPrev :: n :: rest =>
    if (n.idx + 4294967296 - nPrev.idx) % 4294967296 ≠ 1 then some ([nPrev], n :: rest)
    else (splitAtGap (n :: rest)).map fun parts => (nPrev :: parts.1, parts.2)
  | _ => none

/-- Source: `dlt_logstorage_rearrange_file_name` -/
def dltLogstorageRearrangeFileName (records : List FileRecord) : List FileRecord :=
  if records.length < 2 ∨ (records.head?.map FileRecord.idx) ≠ some 1 then records
  else
    match splitAtGap records with
    | some (wrapPre, wrapPost) => wrapPost ++ wrapPre
    | none => records

/-! ## The directory -/

/-- The files of the device. Their names are absolute paths. -/
abbrev DeviceFiles := Directory (List UInt8) UInt8

/-- A path without empty components. -/
def clean : List UInt8 → List UInt8
  | [] => []
  | c :: rest => if c = 47 ∧ rest.head? = some 47 then clean rest else c :: clean rest

/-- The path of a file, as it is put together. -/
def filePath (storagePath name : List UInt8) : List UInt8 := clean (storagePath ++ name)

/-- The name of a file in a directory. -/
def nameIn (dir path : List UInt8) : Option (List UInt8) :=
  let front := clean (dir ++ [47])
  if front <+: path ∧ 47 ∉ path.drop front.length then some (path.drop front.length) else none

/-- What `scandir` with `alphasort` lists. -/
def scandir (files : DeviceFiles) (dir : List UInt8) : List (List UInt8) :=
  (ascii "." :: ascii ".." :: files.names.filterMap (nameIn dir)).insertionSort (· ≤ ·)

def filesOf (fileConfig : DltLogStorageUserConfig) (fileName dir : List UInt8) (files : DeviceFiles) :
    List (List UInt8) :=
  (scandir files dir).filter fun name =>
    fileName <+: name ∧ name.getD fileName.length 0 = fileConfig.logfileDelimiter

/-- What the system answers while a log file is opened. -/
structure OpenEnv where
  /-- `scandir` succeeds. -/
  scans : Bool
  /-- `malloc` succeeds for the records of the files that are found. -/
  mallocsFound : ℕ → Bool
  /-- `stat` of the working file succeeds if there is one. -/
  statsWorking : Bool
  /-- `stat` of the next file succeeds if there is one. -/
  statsNext : Bool
  /-- `fopen` succeeds. -/
  opens : Bool
  /-- `malloc` succeeds for the record of a new file. -/
  mallocsNew : Bool
  /-- The local time for a name. -/
  stamp : List UInt8
  now : ℤ

/-- The records are read, and whether this succeeds.
Source: `dlt_logstorage_storage_dir_info` -/
def dltLogstorageStorageDirInfo (env : OpenEnv) (fileConfig : DltLogStorageUserConfig) (path fileName : List UInt8)
    (files : DeviceFiles) (records : List FileRecord) : List FileRecord × Bool :=
  if env.scans then
    let names := filesOf fileConfig fileName path files
    let granted := (names.zipIdx.takeWhile fun found => env.mallocsFound found.2).map Prod.fst
    let records := granted.map fun name => ⟨name, dltLogstorageGetIdxOfLogFile fileConfig name⟩
    if granted.length < names.length then (records, false)
    else
      let sorted := dltLogstorageSortFileName records
      if sorted.2 = fileConfig.logfileMaxcounter then (dltLogstorageRearrangeFileName sorted.1, true)
      else (sorted.1, true)
  else (records, false)

end Dlt.Logstorage.Files
