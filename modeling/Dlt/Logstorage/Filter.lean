import Dlt.Lib.TextFile
import Dlt.Shared.Id

/-!
# The filters of a logstorage device

* `dltLogstorageGetConfig`, `dltLogstorageFilter` — the configurations that a message is looked up under, and
  those that it is stored for.
-/

namespace Dlt.Logstorage

open Dlt.Lib Dlt.Shared

/-! ## Data -/

/-- A filter configuration, with what the selection reads.
Source: `dlt_offline_logstorage.h`, `DltLogStorageFilterConfig` -/
structure DltLogStorageFilterConfig where
  /-- The list of the application ids. -/
  apids : Option (List UInt8)
  /-- The list of the context ids. -/
  ctids : Option (List UInt8)
  /-- The ECU id. -/
  ecuid : Option Id4
  logLevel : ℤ
  fileName : Option (List UInt8)
deriving DecidableEq

/-- A configuration with its keys. Source: `DltLogStorageFilterList` -/
structure DltLogStorageFilterList where
  keys : List (List UInt8)
  data : DltLogStorageFilterConfig
deriving DecidableEq

/-- What `dlt_logstorage_write` reads of a message: application and context, if it has an extended header, the
ECU id and the level. -/
structure StorageMessage where
  /-- `apid` and `ctid`. -/
  ids : Option (Id4 × Id4)
  /-- `ecu`. -/
  ecu : Id4
  /-- The level, `DLT_LOG_VERBOSE` without an extended header. -/
  logLevel : ℤ
deriving DecidableEq

def idString (id : Id4) : List UInt8 := idText id.bytes

/-! ## Keys -/

/-- `strncmp` with `.*` and a length of two. -/
def isWildcard (id : List UInt8) : Bool := id.take 2 = ascii ".*"

/-- At most 100 ids, each with at most four characters.
Source: `dlt_offline_logstorage.c`, `dlt_logstorage_get_keys_list` -/
def dltLogstorageGetKeysList (ids : List UInt8) : Option (List (List UInt8)) :=
  match strtok 44 ids with
  | [] => none
  | tokens => some ((tokens.take 100).map (·.take 4))

/-- Source: `dlt_logstorage_create_keys_only_ctid` -/
def dltLogstorageCreateKeysOnlyCtid (ecuid ctid : List UInt8) : List UInt8 := ecuid ++ ascii "::" ++ ctid

/-- Source: `dlt_logstorage_create_keys_only_apid` -/
def dltLogstorageCreateKeysOnlyApid (ecuid apid : List UInt8) : List UInt8 :=
  ecuid ++ ascii ":" ++ apid ++ ascii ":"

/-- Source: `dlt_logstorage_create_keys_multi` -/
def dltLogstorageCreateKeysMulti (ecuid apid ctid : List UInt8) : List UInt8 :=
  ecuid ++ ascii ":" ++ apid ++ ascii ":" ++ ctid

/-- Source: `dlt_logstorage_create_keys_only_ecu` -/
def dltLogstorageCreateKeysOnlyEcu (ecuid : List UInt8) : List UInt8 := ecuid ++ ascii "::"

/-- The key of an application and a context of the lists. -/
def pairKey (ecuid apid ctid : List UInt8) : List UInt8 :=
  if isWildcard apid then dltLogstorageCreateKeysOnlyCtid ecuid ctid
  else if isWildcard ctid then dltLogstorageCreateKeysOnlyApid ecuid apid
  else dltLogstorageCreateKeysMulti ecuid apid ctid

/-- There are no lists, or both begin with the wildcard. -/
def onlyEcu (config : DltLogStorageFilterConfig) : Bool :=
  match config.apids, config.ctids with
  | none, none => true
  | some apids, some ctids => isWildcard apids && isWildcard ctids
  | _, _ => false

/-- The text of the ECU id, empty without one. -/
def ecuString (config : DltLogStorageFilterConfig) : List UInt8 := (config.ecuid.map idString).getD []

/-- Source: `dlt_logstorage_create_keys` -/
def dltLogstorageCreateKeys (config : DltLogStorageFilterConfig) : Option (List (List UInt8)) :=
  if config.ecuid.isSome && onlyEcu config then some [dltLogstorageCreateKeysOnlyEcu (ecuString config)]
  else
    match config.apids, config.ctids with
    | some apids, some ctids =>
      match dltLogstorageGetKeysList apids, dltLogstorageGetKeysList ctids with
      | some apidList, some ctidList =>
        some (apidList.flatMap fun apid => ctidList.map fun ctid => pairKey (ecuString config) apid ctid)
      | _, _ => none
    | _, _ => none

/-- The configurations whose keys can be created are added to the list.
Source: `dlt_logstorage_prepare_table` and `dlt_logstorage_list_add` -/
def dltLogstoragePrepareTable (configs : List DltLogStorageFilterConfig) : List DltLogStorageFilterList :=
  configs.filterMap fun config => (dltLogstorageCreateKeys config).map fun keys => ⟨keys, config⟩

/-! ## Looking up a message -/

/-- The positions of the configurations that have a key.
Source: `dlt_logstorage_list_find` -/
def dltLogstorageListFind (key : List UInt8) (list : List DltLogStorageFilterList) : List ℕ :=
  (List.range list.length).filter fun j => (list[j]?.map fun node => decide (key ∈ node.keys)).getD false

/-- The keys of a message with an application and a context, in the order in which they are looked up. -/
def possibleKeys (apid ctid ecuid : List UInt8) : List (List UInt8) :=
  [ascii ":" ++ apid ++ ascii ":", ascii "::" ++ ctid, ascii ":" ++ apid ++ ascii ":" ++ ctid,
    ecuid ++ ascii ":" ++ apid ++ ascii ":" ++ ctid, ecuid ++ ascii ":" ++ apid ++ ascii ":",
    ecuid ++ ascii "::" ++ ctid, ecuid ++ ascii "::"]

/-- The keys are looked up until as many configurations are found as there are. -/
def searchKeys (list : List DltLogStorageFilterList) : List (List UInt8) → List ℕ → List ℕ
  | [], config => config
  | key :: keys, config =>
    if (config ++ dltLogstorageListFind key list).length = list.length then
      config ++ dltLogstorageListFind key list
    else searchKeys list keys (config ++ dltLogstorageListFind key list)

/-- The positions of the configurations found, for a device that is connected and configured.
Source: `dlt_logstorage_get_config` -/
def dltLogstorageGetConfig (list : List DltLogStorageFilterList) (ids : Option (Id4 × Id4)) (ecuid : Id4) : List ℕ :=
  match ids with
  | none => dltLogstorageListFind (idString ecuid ++ ascii "::") list
  | some (apid, ctid) => searchKeys list (possibleKeys (idString apid) (idString ctid) (idString ecuid)) []

/-- The level and the ECU id of a configuration admit a message. -/
def admits (config : DltLogStorageFilterConfig) (m : StorageMessage) : Bool :=
  m.logLevel ≤ config.logLevel && (config.ecuid.all fun ecuid => idString m.ecu = idString ecuid)

/-- The array of the results, where what is not admitted is null. There is no result if more configurations are
found than the array of 125 entries has room for.
Source: `dlt_logstorage_filter` -/
def dltLogstorageFilter (list : List DltLogStorageFilterList) (m : StorageMessage) : Option (List (Option ℕ)) :=
  let config := dltLogstorageGetConfig list m.ids m.ecu
  if 125 < config.length then none
  else some (config.map fun j =>
    if (list[j]?.map fun node => admits node.data m).getD false then some j else none)

/-- The configurations that a message is written for: those that have a file name.
Source: `dlt_logstorage_write` -/
def dltLogstorageWriteTargets (list : List DltLogStorageFilterList) (m : StorageMessage) : Option (List ℕ) :=
  (dltLogstorageFilter list m).map fun results =>
    results.filterMap fun result => result.filter fun j =>
      (list[j]?.map fun node => node.data.fileName.isSome).getD false

end Dlt.Logstorage
