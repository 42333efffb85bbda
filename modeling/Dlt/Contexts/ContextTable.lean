import Dlt.Lib.Cells
import Dlt.Inbox.CheckUserMessage

/-!
# The contexts of an application: `dlt_register_context_ll_ts_llccb` and what uses its table

* `World`, `Op`, `perform` — the table, the cells and the handles of an application, and what happens to them.
  `World.live` remembers for which handles a context is registered, and as what; no function reads it.

The calls are made in the process that has initialised the library, with a handle. The callbacks for injections of
an entry are left out. An index outside the table changes nothing here; it is undefined in the source.
-/

namespace Dlt.Contexts

open Dlt.Lib Dlt.Shared
open Dlt.Inbox (DltUserControlMsgLogLevel)
open Dlt.Daemon (DltUserControlMsgRegisterApplication DltUserControlMsgRegisterContext
  DltUserControlMsgUnregisterContext DltUserControlMsgAppLogLevelTraceStatus)

/-! ## Constants -/

/-- Source: `dlt_user_cfg.h`, `DLT_USER_CONTEXT_ALLOC_SIZE` -/
def dltUserContextAllocSize : ℕ := 500

/-- Source: `DLT_USER_LOG_LEVEL_NOT_SET` -/
def dltUserLogLevelNotSet : ℤ := -2

/-- Source: `DLT_USER_TRACE_STATUS_NOT_SET` -/
def dltUserTraceStatusNotSet : ℤ := -2

/-- Source: `dlt_types.h`, `DLT_LOG_MAX` -/
def dltLogMax : ℤ := 7

/-- Source: `DLT_TRACE_STATUS_MAX` -/
def dltTraceStatusMax : ℤ := 2

/-- Source: `dlt_user_cfg.h`, `DLT_USER_INITIAL_LOG_LEVEL` -/
def dltUserInitialLogLevel : Int8 := 4

/-- Source: `DLT_USER_INITIAL_TRACE_STATUS` -/
def dltUserInitialTraceStatus : Int8 := 0

/-! ## The table and the handles -/

/-- Source: `dlt_user.h`, `dlt_ll_ts_type` -/
structure DltLlTs where
  contextID : Id4
  logLevel : Int8
  logLevelPtr : Option ℕ
  traceStatus : Int8
  traceStatusPtr : Option ℕ
  contextDescription : Option (List UInt8)
  /-- The function that is called when the log level changes. -/
  logLevelChangedCallback : Option ℕ
deriving DecidableEq

/-- A new entry. Source: `dlt_user.c`, `dlt_register_context_ll_ts_llccb` -/
def DltLlTs.initial : DltLlTs where
  contextID := dltSetId []
  logLevel := dltUserInitialLogLevel
  logLevelPtr := none
  traceStatus := dltUserInitialTraceStatus
  traceStatusPtr := none
  contextDescription := none
  logLevelChangedCallback := none

/-- Source: `dlt_user.h`, `DltContext` -/
structure DltContext where
  contextID : Id4
  logLevelPos : Int32
  logLevelPtr : Option ℕ
  traceStatusPtr : Option ℕ
  mcnt : UInt8
deriving DecidableEq

/-- What of a message of a context is used to register it. Source: `DltContextData` -/
structure DltContextData where
  handle : DltContext
  logLevel : ℤ
  traceStatus : ℤ
  contextDescription : Option (List UInt8)
deriving DecidableEq

/-- The messages to the daemon, with the bytes that follow them. -/
inductive UserMessage
  /-- `DLT_USER_MESSAGE_REGISTER_APPLICATION`. -/
  | registerApplication (m : DltUserControlMsgRegisterApplication) (description : List UInt8)
  /-- `DLT_USER_MESSAGE_REGISTER_CONTEXT`. -/
  | registerContext (m : DltUserControlMsgRegisterContext) (description : List UInt8)
  /-- `DLT_USER_MESSAGE_UNREGISTER_CONTEXT`. -/
  | unregisterContext (m : DltUserControlMsgUnregisterContext)
  /-- `DLT_USER_MESSAGE_APP_LL_TS`. -/
  | appLlTs (m : DltUserControlMsgAppLogLevelTraceStatus)
  /-- `DLT_USER_MESSAGE_LOG`: the application id of its extended header, and all other bytes. -/
  | log (apid : Id4) (bytes : List UInt8)
deriving DecidableEq

/-- What of `dlt_user` is used. The length of the table is `dlt_ll_ts_max_num_entries`.
Source: `DltUser` -/
structure DltUser where
  appID : Id4
  applicationDescription : Option (List UInt8)
  dltLogHandle : ℤ
  dltLlTs : Option (List DltLlTs)
  dltLlTsNumEntries : ℕ
  /-- The messages that could not be sent. -/
  startupBuffer : List UserMessage
deriving DecidableEq

/-- What an application registered. -/
structure Registration where
  contextid : List UInt8
  description : Option (List UInt8)
deriving DecidableEq

/-- The library and the application that uses it. -/
structure World where
  /-- The variable `dlt_user`. -/
  user : DltUser
  /-- The cells for levels and trace states. -/
  cells : Cells Int8
  handles : ℕ → DltContext
  /-- The handles whose context is registered. -/
  live : ℕ → Option Registration

def World.table (w : World) : List DltLlTs := w.user.dltLlTs.getD []

def World.setTable (w : World) (entries : List DltLlTs) : World :=
  { w with user := { w.user with dltLlTs := some entries } }

/-! ## Sending -/

/-- The results of the calls that send or store a message. -/
structure Link where
  /-- `dlt_user_log_out3` writes the message, if the pipe is open. -/
  written : Bool
  /-- `dlt_buffer_push3` has room for the message. -/
  room : Bool
deriving DecidableEq

/-- Source: `dlt_user_shared.c`, `dlt_user_log_out3` -/
def dltUserLogOut3 (user : DltUser) (link : Link) : Bool := 0 ≤ user.dltLogHandle ∧ link.written

/-- Source: `dlt_user.c`, `dlt_user_log_out_error_handling` -/
def dltUserLogOutErrorHandling (user : DltUser) (message : UserMessage) (link : Link) : DltUser :=
  if link.room then { user with startupBuffer := user.startupBuffer ++ [message] } else user

/-- A message is sent, or else stored. -/
def sendOrStore (user : DltUser) (message : UserMessage) (link : Link) : DltUser × List UserMessage :=
  if dltUserLogOut3 user link then (user, [message]) else (dltUserLogOutErrorHandling user message link, [])

/-- `strlen` as a number of 32 bits, and the bytes that are sent of the description. -/
def descriptionOf (description : Option (List UInt8)) : UInt32 × List UInt8 :=
  let length := UInt32.ofNat (description.getD []).length
  (length, (description.getD []).take length.toNat)

/-- Source: `dlt_user_log_send_register_context` -/
def registerContextMessage (user : DltUser) (pid : Int32) (log : DltContextData) : UserMessage :=
  .registerContext
    { apid := dltSetId user.appID.bytes
      ctid := dltSetId log.handle.contextID.bytes
      logLevelPos := log.handle.logLevelPos
      logLevel := Int8.ofInt log.logLevel
      traceStatus := Int8.ofInt log.traceStatus
      pid := pid
      descriptionLength := (descriptionOf log.contextDescription).1 }
    (descriptionOf log.contextDescription).2

/-- Source: `dlt_user_log_send_register_context` -/
def dltUserLogSendRegisterContext (user : DltUser) (pid : Int32) (log : DltContextData) (link : Link) :
    DltUser × List UserMessage :=
  if log.handle.contextID.isEmpty then (user, [])
  else if user.appID.isEmpty then
    (dltUserLogOutErrorHandling user (registerContextMessage user pid log) link, [])
  else sendOrStore user (registerContextMessage user pid log) link

/-- Source: `dlt_user_log_send_unregister_context` -/
def dltUserLogSendUnregisterContext (user : DltUser) (pid : Int32) (handle : DltContext) (link : Link) :
    DltUser × List UserMessage :=
  if handle.contextID.isEmpty then (user, [])
  else sendOrStore user
    (.unregisterContext { apid := dltSetId user.appID.bytes, ctid := dltSetId handle.contextID.bytes, pid := pid })
    link

/-- The arguments are checked by the caller already. Source: `dlt_send_app_ll_ts_limit` -/
def dltSendAppLlTsLimit (user : DltUser) (loglevel tracestatus : ℤ) (link : Link) : DltUser × List UserMessage :=
  if user.appID.isEmpty then (user, [])
  else sendOrStore user
    (.appLlTs { apid := dltSetId user.appID.bytes
                logLevel := UInt8.ofInt loglevel
                traceStatus := UInt8.ofInt tracestatus }) link

/-! ## Registering -/

/-- What the application passes to `dlt_register_context_ll_ts_llccb`. -/
structure RegisterContext where
  contextid : List UInt8
  description : Option (List UInt8)
  loglevel : ℤ
  tracestatus : ℤ
  /-- The function that is called when the log level changes. -/
  callback : Option ℕ
deriving DecidableEq

/-- What a registration gets from the system. -/
structure RegisterEnv where
  table : Bool
  description : Bool
  /-- The memory for the log level, with what is in it. -/
  logLevelPtr : Option (ℕ × Int8)
  /-- The memory for the trace status, with what is in it. -/
  traceStatusPtr : Option (ℕ × Int8)
  /-- `dlt_env_adjust_ll_from_env`. -/
  envLogLevel : ℤ
  link : Link
deriving DecidableEq

/-- The level or the trace status is outside its range. -/
def outsideRange (loglevel tracestatus : ℤ) : Bool :=
  loglevel < dltUserLogLevelNotSet ∨ dltLogMax ≤ loglevel ∨ tracestatus < dltUserTraceStatusNotSet ∨
    dltTraceStatusMax ≤ tracestatus

/-- The table with room for one more entry; `none` when there is no memory.
Source: `dlt_register_context_ll_ts_llccb` -/
def expandTable (user : DltUser) (malloc : Bool) : Option (List DltLlTs) :=
  match user.dltLlTs with
  | none => if malloc then some (List.replicate dltUserContextAllocSize .initial) else none
  | some entries =>
      if user.dltLlTsNumEntries % dltUserContextAllocSize = 0 then
        let maxNumEntries :=
          (user.dltLlTsNumEntries / dltUserContextAllocSize + 1) * dltUserContextAllocSize % 4294967296
        if malloc then
          some (entries.take user.dltLlTsNumEntries ++
            List.replicate (maxNumEntries - user.dltLlTsNumEntries) .initial)
        else none
      else some entries

/-- A pointer that is NULL gets a cell; `none` when there is no memory.
Source: `dlt_register_context_ll_ts_llccb` -/
def ensureCell (cells : Cells Int8) (ptr : Option ℕ) (malloc : Option (ℕ × Int8)) :
    Option (Cells Int8 × Option ℕ) :=
  match ptr with
  | some p => some (cells, some p)
  | none => malloc.map fun m => (cells.write (some m.1) m.2, some m.1)

/-- The registration when the entry has all its memory. The last component is the structure that is transferred.
Source: `dlt_register_context_ll_ts_llccb` -/
def completeRegistration (w : World) (handle : ℕ) (r : RegisterContext) (env : RegisterEnv) (entry : DltLlTs) :
    World × DltContextData :=
  let num := w.user.dltLlTsNumEntries
  let loglevel := if env.envLogLevel ≠ dltUserLogLevelNotSet then env.envLogLevel else r.loglevel
  let entry := { entry with
    logLevel := if loglevel ≠ dltUserLogLevelNotSet then Int8.ofInt loglevel else entry.logLevel
    traceStatus := Int8.ofInt r.tracestatus
    logLevelChangedCallback := r.callback }
  let transfer : DltContext := { w.handles handle with
    contextID := dltSetId r.contextid
    logLevelPos := Int32.ofNat num
    logLevelPtr := entry.logLevelPtr
    traceStatusPtr := entry.traceStatusPtr }
  ({ user := { w.user with
       dltLlTs := some (w.table.set num entry)
       dltLlTsNumEntries := (num + 1) % 4294967296 }
     cells := (w.cells.write entry.logLevelPtr entry.logLevel).write entry.traceStatusPtr entry.traceStatus
     handles := Function.update w.handles handle transfer
     live := Function.update w.live handle (some { contextid := r.contextid, description := r.description }) },
    { handle := transfer
      logLevel := loglevel
      traceStatus := r.tracestatus
      contextDescription := entry.contextDescription })

/-- The registration when the table has room. Without the structure to transfer there was no memory.
Source: `dlt_register_context_ll_ts_llccb` -/
def fillEntry (w : World) (handle : ℕ) (r : RegisterContext) (env : RegisterEnv) : World × Option DltContextData :=
  let num := w.user.dltLlTsNumEntries
  let entry := { w.table.getD num .initial with contextID := dltSetId r.contextid, contextDescription := none }
  if r.description.isSome ∧ ¬ env.description then (w.setTable (w.table.set num entry), none)
  else
    let entry := { entry with contextDescription := r.description }
    match ensureCell w.cells entry.logLevelPtr env.logLevelPtr with
    | none => (w.setTable (w.table.set num entry), none)
    | some (cells, logLevelPtr) =>
        let entry := { entry with logLevelPtr := logLevelPtr }
        match ensureCell cells entry.traceStatusPtr env.traceStatusPtr with
        | none => ({ w.setTable (w.table.set num entry) with cells := cells }, none)
        | some (cells, traceStatusPtr) =>
            let entry := { entry with traceStatusPtr := traceStatusPtr }
            let result :=
              completeRegistration { w.setTable (w.table.set num entry) with cells := cells } handle r env entry
            (result.1, some result.2)

/-- Source: `dlt_register_context_ll_ts_llccb` -/
def dltRegisterContextLlTsLlccb (pid : Int32) (w : World) (handle : ℕ) (r : RegisterContext) (env : RegisterEnv) :
    World × List UserMessage :=
  if r.contextid.headD 0 = 0 ∨ outsideRange r.loglevel r.tracestatus then (w, [])
  else
    let w := { w with handles := Function.update w.handles handle { w.handles handle with mcnt := 0 } }
    match expandTable w.user env.table with
    | none => (w, [])
    | some entries =>
        match fillEntry (w.setTable entries) handle r env with
        | (w, none) => (w, [])
        | (w, some log) =>
            let result := dltUserLogSendRegisterContext w.user pid log env.link
            ({ w with user := result.1 }, result.2)

/-! ## The other functions -/

/-- The index that a position stands for. -/
def entryIndex (pos : Int32) : Option ℕ := if 0 ≤ pos.toInt then some pos.toInt.toNat else none

/-- Source: `dlt_unregister_context` -/
def dltUnregisterContext (pid : Int32) (w : World) (handle : ℕ) (link : Link) : World × List UserMessage :=
  let h := { w.handles handle with logLevelPtr := none, traceStatusPtr := none }
  let w := { w with handles := Function.update w.handles handle h, live := Function.update w.live handle none }
  let w := match (entryIndex h.logLevelPos).bind fun i => (w.table[i]?).map (i, ·) with
    | none => w
    | some (i, entry) =>
        { w.setTable (w.table.set i .initial) with
          cells := (w.cells.free entry.logLevelPtr).free entry.traceStatusPtr }
  let result := dltUserLogSendUnregisterContext w.user pid h link
  ({ w with user := result.1 }, result.2)

/-- The level and the trace status of an entry are set in the table and through its pointers.
Source: `dlt_set_application_ll_ts_limit`, `dlt_user_log_check_user_message` -/
def setLevels (w : World) (i : ℕ) (logLevel traceStatus : Int8) : World :=
  match w.table[i]? with
  | none => w
  | some entry =>
      { w.setTable (w.table.set i { entry with logLevel := logLevel, traceStatus := traceStatus }) with
        cells := (w.cells.write entry.logLevelPtr logLevel).write entry.traceStatusPtr traceStatus }

/-- The levels of the first entries are set. Source: `dlt_set_application_ll_ts_limit` -/
def setAllLevels (w : World) (logLevel traceStatus : Int8) : ℕ → World
  | 0 => w
  | n + 1 => setLevels (setAllLevels w logLevel traceStatus n) n logLevel traceStatus

/-- Source: `dlt_set_application_ll_ts_limit` -/
def dltSetApplicationLlTsLimit (w : World) (loglevel tracestatus : ℤ) (link : Link) : World × List UserMessage :=
  if outsideRange loglevel tracestatus ∨ w.user.dltLlTs = none then (w, [])
  else
    let w := setAllLevels w (Int8.ofInt loglevel) (Int8.ofInt tracestatus) w.user.dltLlTsNumEntries
    let result := dltSendAppLlTsLimit w.user loglevel tracestatus link
    ({ w with user := result.1 }, result.2)

/-- A call of a function that wants to know of a new level. -/
structure LevelChanged where
  callback : ℕ
  contextID : Id4
  logLevel : UInt8
  traceStatus : UInt8
deriving DecidableEq

/-- A message `DLT_USER_MESSAGE_LOG_LEVEL`, and the function that is called.
Source: `dlt_user_log_check_user_message` -/
def dltUserLogLevelMessage (w : World) (m : DltUserControlMsgLogLevel) : World × Option LevelChanged :=
  if 0 ≤ m.logLevelPos ∧ m.logLevelPos < Int32.ofNat w.user.dltLlTsNumEntries then
    match (entryIndex m.logLevelPos).bind fun i => (w.table[i]?).map (i, ·) with
    | none => (w, none)
    | some (i, entry) =>
        (setLevels w i (Int8.ofInt m.logLevel.toNat) (Int8.ofInt m.traceStatus.toNat),
          entry.logLevelChangedCallback.map fun f =>
            { callback := f
              contextID := entry.contextID
              logLevel := m.logLevel
              traceStatus := m.traceStatus })
  else (w, none)

/-! ## Attaching again -/

/-- The registration of one stored context.
Source: `dlt_user_log_reattach_to_daemon` -/
def reRegister (user : DltUser) (pid : Int32) (num : ℕ) : List UserMessage :=
  match (user.dltLlTs.getD [])[num]? with
  | none => []
  | some entry =>
      if user.appID.isEmpty ∨ entry.contextID.isEmpty then []
      else
        let handle : DltContext :=
          { contextID := dltSetId entry.contextID.bytes
            logLevelPos := Int32.ofNat num
            logLevelPtr := none
            traceStatusPtr := none
            mcnt := 0 }
        (dltUserLogSendRegisterContext user pid
          { handle
            logLevel := dltUserLogLevelNotSet
            traceStatus := dltUserTraceStatusNotSet
            contextDescription := entry.contextDescription } ⟨true, true⟩).2

/-- The registrations of all stored contexts. Source: `dlt_user_log_reattach_to_daemon` -/
def reRegisterAll (user : DltUser) (pid : Int32) : List UserMessage :=
  (List.range user.dltLlTsNumEntries).flatMap (reRegister user pid)

/-- The application id is added where it is missing. Source: `dlt_user_log_resend_buffer` -/
def UserMessage.addAppID (appID : Id4) : UserMessage → UserMessage
  | .registerContext m description =>
      .registerContext (if m.apid.isEmpty then { m with apid := dltSetId appID.bytes } else m) description
  | .log apid bytes => .log (if apid.isEmpty then dltSetId appID.bytes else apid) bytes
  | m => m

/-- The stored messages are sent when every write succeeds. Source: `dlt_user_log_resend_buffer` -/
def dltUserLogResendBuffer (user : DltUser) : DltUser × List UserMessage :=
  if user.appID.isEmpty then (user, [])
  else ({ user with startupBuffer := [] }, user.startupBuffer.map (UserMessage.addAppID user.appID))

/-- Source: `dlt_user_log_send_register_application` -/
def dltUserLogSendRegisterApplication (user : DltUser) (pid : Int32) : List UserMessage :=
  if user.appID.isEmpty then []
  else [.registerApplication
    { apid := dltSetId user.appID.bytes
      pid := pid
      descriptionLength := (descriptionOf user.applicationDescription).1 }
    (descriptionOf user.applicationDescription).2]

/-- Every write succeeds; `fd` is what opening the pipe gives.
Source: `dlt_user_log_reattach_to_daemon` -/
def dltUserLogReattachToDaemon (pid : Int32) (user : DltUser) (fd : ℤ) : DltUser × List UserMessage :=
  if 0 ≤ user.dltLogHandle then (user, [])
  else if fd < 0 then ({ user with dltLogHandle := -1 }, [])
  else
    let user := { user with dltLogHandle := fd }
    let sent := dltUserLogSendRegisterApplication user pid ++ reRegisterAll user pid
    if reRegisterAll user pid = [] then (user, sent)
    else
      let result := dltUserLogResendBuffer user
      (result.1, sent ++ result.2)

/-! ## Operations -/

/-- What happens to the table. -/
inductive Op
  /-- `dlt_register_context_ll_ts_llccb`. -/
  | register (handle : ℕ) (r : RegisterContext) (env : RegisterEnv)
  /-- `dlt_unregister_context`. -/
  | unregister (handle : ℕ) (link : Link)
  /-- `dlt_set_application_ll_ts_limit`. -/
  | limit (loglevel tracestatus : ℤ) (link : Link)
  /-- A message `DLT_USER_MESSAGE_LOG_LEVEL`. -/
  | logLevel (m : DltUserControlMsgLogLevel)
  /-- `dlt_user_log_reattach_to_daemon`. -/
  | reattach (fd : ℤ)
  /-- The connection to the daemon is lost. -/
  | detach
  /-- A log message is sent or stored. -/
  | log (apid : Id4) (bytes : List UInt8) (link : Link)
deriving DecidableEq

/-- The state behind an operation, and the messages that it sends. -/
def perform (pid : Int32) (w : World) : Op → World × List UserMessage
  | .register handle r env => dltRegisterContextLlTsLlccb pid w handle r env
  | .unregister handle link => dltUnregisterContext pid w handle link
  | .limit loglevel tracestatus link => dltSetApplicationLlTsLimit w loglevel tracestatus link
  | .logLevel m => ((dltUserLogLevelMessage w m).1, [])
  | .reattach fd =>
      let result := dltUserLogReattachToDaemon pid w.user fd
      ({ w with user := result.1 }, result.2)
  | .detach => ({ w with user := { w.user with dltLogHandle := -1 } }, [])
  | .log apid bytes link =>
      let result := sendOrStore w.user (.log apid bytes) link
      ({ w with user := result.1 }, result.2)

/-- The library is initialised. Source: `dlt_init_common` -/
structure World.Initial (w : World) : Prop where
  table : w.user.dltLlTs = none
  numEntries : w.user.dltLlTsNumEntries = 0
  startupBuffer : w.user.startupBuffer = []
  cells : ∀ p, w.cells p = none
  live : ∀ h, w.live h = none

end Dlt.Contexts
