import Dlt.Daemon.Levels
import Dlt.Logstorage.KeyRoundTrip

/-!
# The storage log levels of the contexts

* `StorageOp`, `storageStep` — devices come and go, applications and contexts register and unregister.

The requests that are forwarded to passive nodes are left out.
-/

namespace Dlt.Daemon

open Dlt.Lib Dlt.Shared Dlt.Logstorage

variable {Buf : Type}

/-! ## Devices -/

/-- A filter with a file name, and with one of the levels that a configuration file can name.
Source: `dlt_offline_logstorage.c`, `dlt_logstorage_check_loglevel` -/
structure FileFilter where
  config : DltLogStorageFilterConfig
  fileName_isSome : config.fileName.isSome
  logLevel_range : 1 ≤ config.logLevel ∧ config.logLevel ≤ dltLogVerbose

/-- What a section of the configuration file is read as. -/
inductive Section
  /-- The general section, with the value of `MaintainLogstorageLogLevel` if it has one. -/
  | general (maintain : Option Bool)
  | filter (filter : FileFilter)
  /-- A filter that lacks a value or has a wrong one. -/
  | filterError
  /-- A section with another name. -/
  | unknown

/-- A logstorage device. Source: `dlt_offline_logstorage.h`, `DltLogStorage` -/
structure DltLogStorage where
  /-- `connection_type` is `DLT_OFFLINE_LOGSTORAGE_DEVICE_CONNECTED`. -/
  connected : Bool
  /-- `config_status` is `DLT_OFFLINE_LOGSTORAGE_CONFIG_DONE`. -/
  configured : Bool
  configList : List DltLogStorageFilterList
  /-- `none` is `DLT_MAINTAIN_LOGSTORAGE_LOGLEVEL_UNDEF`. -/
  maintainLogstorageLoglevel : Option Bool

/-- The sections are read one after the other; a filter without keys ends the loop. The result starts with `-1`, is 1
after an invalid filter, and else 0 after a valid one.
Source: `dlt_offline_logstorage.c`, `dlt_logstorage_store_filters` -/
def storeSections : DltLogStorage → ℤ → List Section → DltLogStorage × ℤ
  | handle, valid, [] => (handle, valid)
  | handle, valid, .general maintain :: sections =>
      storeSections { handle with
        maintainLogstorageLoglevel := maintain <|> handle.maintainLogstorageLoglevel } valid sections
  | handle, valid, .unknown :: sections => storeSections handle valid sections
  | handle, _, .filterError :: sections => storeSections handle 1 sections
  | handle, valid, .filter filter :: sections =>
      match dltLogstorageCreateKeys filter.config with
      | none => (handle, valid)
      | some keys =>
          storeSections { handle with configList := handle.configList ++ [⟨keys, filter.config⟩] }
            (if valid = 1 then 1 else 0) sections

/-- `none` is a file that cannot be opened. Source: `dlt_logstorage_store_filters` -/
def dltLogstorageStoreFilters (handle : DltLogStorage) (file : Option (List Section)) : DltLogStorage × ℤ :=
  match file with
  | none => (handle, -1)
  | some sections => storeSections { handle with maintainLogstorageLoglevel := none } (-1) sections

/-- Source: `dlt_logstorage_load_config` -/
def dltLogstorageLoadConfig (handle : DltLogStorage) (file : Option (List Section)) : DltLogStorage × ℤ :=
  let stored := dltLogstorageStoreFilters handle file
  if stored.2 = 1 then ({ stored.1 with configured := true }, 1)
  else if stored.2 ≠ 0 then (stored.1, -1)
  else ({ stored.1 with configured := true }, 0)

/-- Source: `dlt_logstorage_device_disconnected` -/
def dltLogstorageDeviceDisconnected (handle : DltLogStorage) : DltLogStorage :=
  { handle with
    connected := false
    configured := false
    configList := if handle.configured then [] else handle.configList }

/-- A device that is still connected is disconnected before. The result is 0, or `-1` on an error, or 1 on a warning.
Source: `dlt_logstorage_device_connected` -/
def dltLogstorageDeviceConnected (handle : DltLogStorage) (file : Option (List Section)) : DltLogStorage × ℤ :=
  let handle := if handle.connected then dltLogstorageDeviceDisconnected handle else handle
  dltLogstorageLoadConfig { handle with connected := true, configured := false } file

namespace DltLogStorage

/-- The device is connected and configured. -/
def ready (handle : DltLogStorage) : Bool := handle.connected && handle.configured

/-- The filters at the positions given. -/
def configs (handle : DltLogStorage) (positions : List ℕ) : List DltLogStorageFilterConfig :=
  positions.filterMap fun j => handle.configList[j]?.map (·.data)

/-- The filters found for an application and a context. There is room for 125 of them.
Source: `dlt_logstorage_get_config` -/
def getConfig (handle : DltLogStorage) (ids : Id4 × Id4) (ecuid : Id4) : List DltLogStorageFilterConfig :=
  if handle.ready then handle.configs (dltLogstorageGetConfig handle.configList (some ids) ecuid) else []

end DltLogStorage

/-- `-1` if there is no filter with the key, else the highest level of those that have it.
Source: `dlt_logstorage_get_loglevel_by_key` -/
def dltLogstorageGetLoglevelByKey (handle : DltLogStorage) (key : List UInt8) : ℤ :=
  if handle.ready then
    match handle.configs (dltLogstorageListFind key handle.configList) with
    | [] => -1
    | [config] => config.logLevel
    | configs => configs.foldl (fun logLevel config => max config.logLevel logLevel) 0
  else -1

/-! ## A context that registers -/

/-- The loop over the filters of a device. A filter without a file name ends it, and its level counts. -/
def storageLoglevel : ℤ → List DltLogStorageFilterConfig → ℤ
  | storageLoglevel, [] => storageLoglevel
  | level, config :: configs =>
      if config.fileName.isNone then config.logLevel else storageLoglevel (max config.logLevel level) configs

/-- Source: `dlt_daemon_offline_logstorage.c`, `dlt_daemon_logstorage_get_loglevel` -/
def dltDaemonLogstorageGetLoglevel (storageHandle : List DltLogStorage) (ecuid : Id4) (maxDevice : ℤ)
    (apid ctid : Id4) : ℤ :=
  if maxDevice = 0 then dltReturnWrongParameter
  else (storageHandle.take maxDevice.toNat).foldl
    (fun level handle =>
      if handle.configured then storageLoglevel level (handle.getConfig (apid, ctid) ecuid) else level) (-1)

/-! ## The keys of the filters -/

/-- The ids that a key is read as; the ECU id is empty if it has none. -/
structure SplitKey where
  apid : Id4
  ctid : Id4
  /-- ECU id. -/
  ecuid : Id4
deriving DecidableEq

/-- The id `.*`. -/
def wildcardId : Id4 := dltSetId (ascii ".*")

/-- The ids that a key is read as, where it stands in the list of the keys of its filter. One that cannot be read is
passed over. Source: `dlt_daemon_offline_logstorage.c`, `dlt_logstorage_update_context_loglevel` -/
def splitKey (key : List UInt8) : Option SplitKey :=
  (dltLogstorageSplitKey (keyMemory key) noParts).bind fun (ret, parts) =>
    if ret ≠ dltReturnOk then none else some ⟨dltSetId parts.apid, dltSetId parts.ctid, dltSetId parts.ecuid⟩

/-! ## Running contexts -/

section running

variable (flags : LevelFlags) (outcome : ℕ → WriteOutcome)

/-- The context at a position is told its level. The outcome of a write depends on how many there were before. -/
def tellContext (s : LevelState Buf) (l i : ℕ) : LevelState Buf :=
  match s.context l i with
  | none => s
  | some context => (dltDaemonUserSendLogLevel flags s context (outcome s.writes.length)).1

/-- Source: `dlt_daemon_logstorage_send_log_level` -/
def dltDaemonLogstorageSendLogLevel (s : LevelState Buf) (l i : ℕ) (ecuid : Id4) (loglevel : ℤ) : LevelState Buf :=
  if loglevel > dltLogVerbose ∨ loglevel < dltLogDefault then s
  else if strncmpEq ecuid s.daemon.ecuid then
    match s.context l i with
    | none => s
    | some context =>
      let raised := s.modifyContext l i fun context =>
        { context with storageLogLevel := max loglevel context.storageLogLevel }
      if max loglevel context.storageLogLevel > context.storageLogLevel then tellContext flags outcome raised l i
      else raised
  -- the level is forwarded to the passive node
  else s

/-- Source: `dlt_daemon_logstorage_reset_log_level` -/
def dltDaemonLogstorageResetLogLevel (s : LevelState Buf) (l i : ℕ) (ecuid : Id4) (loglevel : ℤ) : LevelState Buf :=
  if loglevel > dltLogVerbose ∨ loglevel < dltLogDefault then s
  else
    let reset := s.modifyContext l i fun context => { context with storageLogLevel := dltLogDefault }
    if loglevel = 0 ∧ strncmpEq ecuid s.daemon.ecuid then tellContext flags outcome reset l i else reset

/-- A level above 0 is sent, any other one is a request to reset. -/
def setStorageLevel (s : LevelState Buf) (l i : ℕ) (ecuid : Id4) (currLogLevel : ℤ) : LevelState Buf :=
  if currLogLevel > 0 then dltDaemonLogstorageSendLogLevel flags outcome s l i ecuid currLogLevel
  else dltDaemonLogstorageResetLogLevel flags outcome s l i ecuid currLogLevel

/-- Which id of the contexts is compared. Source: `dlt_daemon_offline_logstorage.h`, `DLT_DAEMON_LOGSTORAGE_CMP_APID` -/
inductive CmpFlag
  | apid
  | ctid
  /-- None: both ids are the wildcard. -/
  | ecid
deriving DecidableEq

/-- The id of a context that is compared. -/
def CmpFlag.tmpId (ids : Id4 × Id4) : CmpFlag → Id4
  | apid => dltSetId ids.1.bytes
  | ctid => dltSetId ids.2.bytes
  | ecid => wildcardId

/-- The level of the context at a position is set if the id that is compared is the one given. -/
def updateIfMatches (id : Id4) (currLogLevel : ℤ) (cmpFlag : CmpFlag) (ecuid : Id4) (l : ℕ) (s : LevelState Buf)
    (i : ℕ) : LevelState Buf :=
  match s.context l i with
  | none => s
  | some context =>
    if strncmpEq id (cmpFlag.tmpId context.ids) then setStorageLevel flags outcome s l i ecuid currLogLevel else s

/-- Source: `dlt_daemon_offline_logstorage.c`, `dlt_logstorage_update_all_contexts` -/
def dltLogstorageUpdateAllContexts (s : LevelState Buf) (id : Id4) (currLogLevel : ℤ) (cmpFlag : CmpFlag)
    (ecuid : Id4) : LevelState Buf :=
  match dltDaemonFindUsersList s.daemon ecuid with
  | none => s
  | some l =>
    match s.daemon.userList[l]? with
    | none => s
    | some users =>
        (List.range users.numContexts).foldl (updateIfMatches flags outcome id currLogLevel cmpFlag ecuid l) s

/-- A context that is not found may be one of a passive node, where the request is forwarded.
Source: `dlt_logstorage_update_context` -/
def dltLogstorageUpdateContext (s : LevelState Buf) (apid ctid ecuid : Id4) (currLogLevel : ℤ) : LevelState Buf :=
  match dltDaemonContextFind s.daemon apid ctid ecuid with
  | some (l, i) => setStorageLevel flags outcome s l i ecuid currLogLevel
  | none => s

/-- Source: `dlt_logstorage_update_context_loglevel` -/
def dltLogstorageUpdateContextLoglevel (s : LevelState Buf) (key : List UInt8) (currLogLevel : ℤ) : LevelState Buf :=
  match splitKey key with
  | none => s
  | some split =>
    let ecuid := if split.ecuid.isEmpty then dltSetId s.daemon.ecuid.bytes else split.ecuid
    if split.ctid = wildcardId ∧ split.apid = wildcardId then
      dltLogstorageUpdateAllContexts flags outcome s split.apid currLogLevel .ecid ecuid
    else if split.ctid = wildcardId then
      dltLogstorageUpdateAllContexts flags outcome s split.apid currLogLevel .apid ecuid
    else if split.apid = wildcardId then
      dltLogstorageUpdateAllContexts flags outcome s split.ctid currLogLevel .ctid ecuid
    else dltLogstorageUpdateContext flags outcome s split.apid split.ctid ecuid currLogLevel

/-- All keys of the filters of a device. -/
def DltLogStorage.allKeys (handle : DltLogStorage) : List (List UInt8) := handle.configList.flatMap (·.keys)

/-- The loop over the keys of a device; a key that has no level ends it. -/
def updateKeys (handle : DltLogStorage) : LevelState Buf → List (List UInt8) → LevelState Buf
  | s, [] => s
  | s, key :: keys =>
      if dltLogstorageGetLoglevelByKey handle key < 0 then s
      else updateKeys handle
        (dltLogstorageUpdateContextLoglevel flags outcome s key (dltLogstorageGetLoglevelByKey handle key)) keys

/-- Source: `dlt_daemon_logstorage_update_application_loglevel` -/
def dltDaemonLogstorageUpdateApplicationLoglevel (s : LevelState Buf) (handle : DltLogStorage) : LevelState Buf :=
  if handle.ready then updateKeys flags outcome handle s handle.allKeys else s

/-- The contexts of the filters of a device are reset, then the other devices are looked at again.
Source: `dlt_daemon_logstorage_reset_application_loglevel` -/
def dltDaemonLogstorageResetApplicationLoglevel (s : LevelState Buf) (storageHandle : List DltLogStorage)
    (devNum : ℕ) : LevelState Buf :=
  match storageHandle[devNum]? with
  | none => s
  | some handle =>
    if handle.ready then
      let reset := handle.allKeys.foldl
        (fun s key => dltLogstorageUpdateContextLoglevel flags outcome s key dltLogDefault) s
      (storageHandle.eraseIdx devNum).foldl (dltDaemonLogstorageUpdateApplicationLoglevel flags outcome) reset
    else s

end running

/-! ## Operations -/

/-- The daemon with its logstorage devices. Source: `dlt_daemon_common.h`, `DltDaemon` -/
structure StorageState (Buf : Type) where
  /-- The daemon, and what it told the applications. -/
  levels : LevelState Buf
  /-- The devices, as many as are configured. -/
  storageHandle : List DltLogStorage
  /-- `maintain_logstorage_loglevel` is not `DLT_MAINTAIN_LOGSTORAGE_LOGLEVEL_OFF`. -/
  maintainLogstorageLoglevel : Bool

/-- The configuration, with what depends on the devices. -/
def StorageState.flags (s : StorageState Buf) (flags : LevelFlags) : LevelFlags :=
  { flags with
    offlineLogstorageMaxDevices := s.storageHandle.length
    maintainLogstorageLoglevel := s.maintainLogstorageLoglevel
    getLoglevel := dltDaemonLogstorageGetLoglevel s.storageHandle s.levels.daemon.ecuid (i8 s.storageHandle.length) }

/-- An event. `outcome` is what the writes to applications give. -/
inductive StorageOp
  /-- A device connects, with its configuration file. -/
  | connect (devNum : ℕ) (file : Option (List Section)) (outcome : ℕ → WriteOutcome)
  | disconnect (devNum : ℕ) (outcome : ℕ → WriteOutcome)
  /-- Writing to a device has failed too often. -/
  | writeErrors (devNum : ℕ)
  | registerApplication (malloc : Malloc) (ipc : UserIpc) (apid : Id4) (pid : ℤ) (description : Option (List UInt8))
      (fd : ℤ)
  | registerContext (malloc : Malloc) (slot : DltDaemonContext) (userctxt : DltUserControlMsgRegisterContext)
      (description : List UInt8) (write : WriteOutcome)
  | unregisterApplication (apid : Id4)
  | unregisterContext (apid ctid : Id4)

namespace StorageState

/-- A device connects. Source: `dlt_daemon_client.c`, `dlt_daemon_control_service_logstorage` -/
def connect (flags : LevelFlags) (s : StorageState Buf) (devNum : ℕ) (file : Option (List Section))
    (outcome : ℕ → WriteOutcome) : StorageState Buf :=
  match s.storageHandle[devNum]? with
  | none => s
  | some device =>
    let connected := dltLogstorageDeviceConnected device file
    let s := { s with storageHandle := s.storageHandle.set devNum connected.1 }
    -- the contexts are not looked at after an error, and not after a warning
    if connected.2 ≠ 0 then s
    else
      let s := { s with
        maintainLogstorageLoglevel :=
          connected.1.maintainLogstorageLoglevel.getD s.maintainLogstorageLoglevel }
      { s with levels :=
          dltDaemonLogstorageUpdateApplicationLoglevel (s.flags flags) outcome s.levels connected.1 }

/-- A device is disconnected on request. Source: `dlt_daemon_control_service_logstorage` -/
def disconnect (flags : LevelFlags) (s : StorageState Buf) (devNum : ℕ) (outcome : ℕ → WriteOutcome) :
    StorageState Buf :=
  { s with
    levels := dltDaemonLogstorageResetApplicationLoglevel (s.flags flags) outcome s.levels s.storageHandle devNum
    storageHandle := s.storageHandle.modify devNum dltLogstorageDeviceDisconnected }

/-- A device that a message could not be written to is disconnected.
Source: `dlt_daemon_offline_logstorage.c`, `dlt_daemon_logstorage_write` -/
def writeErrors (s : StorageState Buf) (devNum : ℕ) : StorageState Buf :=
  { s with storageHandle := s.storageHandle.modify devNum fun handle =>
      if handle.configured then dltLogstorageDeviceDisconnected handle else handle }

end StorageState

/-- The state after an event. -/
def storageStep (flags : LevelFlags) (s : StorageState Buf) : StorageOp → StorageState Buf
  | .connect devNum file outcome => s.connect flags devNum file outcome
  | .disconnect devNum outcome => s.disconnect flags devNum outcome
  | .writeErrors devNum => s.writeErrors devNum
  | .registerApplication malloc ipc apid pid description fd =>
      { s with levels := { s.levels with
          daemon := (dltDaemonApplicationAdd malloc ipc s.levels.daemon apid pid description fd
            s.levels.daemon.ecuid).1 } }
  | .registerContext malloc slot userctxt description write =>
      { s with levels :=
          (registerContext (s.flags flags) malloc slot s.levels userctxt description write).1 }
  | .unregisterApplication apid =>
      { s with levels := { s.levels with daemon := unregisterApplication s.levels.daemon apid } }
  | .unregisterContext apid ctid =>
      { s with levels := { s.levels with daemon := unregisterContext s.levels.daemon apid ctid } }

end Dlt.Daemon
