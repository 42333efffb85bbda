import Dlt.Daemon.RegistrationEntries
import Dlt.Daemon.RuntimeCfg

/-!
# Log levels and trace statuses

The functions of the daemon that change the log level and the trace status of contexts, and tell the
applications.

* `LevelOp`, `levelStep` — all of them as operations on the state.

The transport of the responses is left out.
-/

namespace Dlt.Daemon

open Dlt.Lib Dlt.Shared

variable {Buf : Type}

/-! ## The state -/

/-- The configuration of the levels. The configuration parser accepts values in range only.
Source: `dlt-daemon.h`, `DltDaemonFlags`; `dlt_daemon_common.h`, `DltDaemon` -/
structure LevelFlags where
  /-- The configured values must not be exceeded. -/
  enforceContextLLAndTS : Bool
  contextLogLevel : ℤ
  contextTraceStatus : ℤ
  /-- Registered contexts are reported to the clients. -/
  rflag : Bool
  offlineLogstorageMaxDevices : ℕ
  /-- `maintain_logstorage_loglevel` is not `DLT_MAINTAIN_LOGSTORAGE_LOGLEVEL_OFF`. -/
  maintainLogstorageLoglevel : Bool
  /-- The result of `dlt_daemon_logstorage_get_loglevel` for a context. -/
  getLoglevel : Id4 → Id4 → ℤ
  contextLogLevel_range : 0 ≤ contextLogLevel ∧ contextLogLevel ≤ dltLogVerbose
  contextTraceStatus_range : 0 ≤ contextTraceStatus ∧ contextTraceStatus ≤ dltTraceStatusOn

/-- Source: `dlt_user_shared.h`, `DltUserControlMsgLogLevel` -/
structure DltUserControlMsgLogLevel where
  logLevel : UInt8
  traceStatus : UInt8
  /-- Offset of the context in the application. -/
  logLevelPos : ℤ
deriving DecidableEq

/-- What `writev` gives: all bytes are written, or not, with `errno` set to `EPIPE` or not. -/
inductive WriteOutcome
  | ok
  /-- The application has closed its end. -/
  | epipe
  /-- Any other error, or too few bytes are written. -/
  | error
deriving DecidableEq

/-- A level message that was written, or that could not be written. -/
structure LevelWrite where
  ids : Id4 × Id4
  handle : ℤ
  message : DltUserControlMsgLogLevel
  written : Bool
deriving DecidableEq

/-- The status of a response. Source: `dlt_protocol.h`, `DLT_SERVICE_RESPONSE_OK` -/
inductive ServiceResponse
  /-- `DLT_SERVICE_RESPONSE_OK`. -/
  | ok
  /-- `DLT_SERVICE_RESPONSE_ERROR`. -/
  | error
deriving DecidableEq

/-- The daemon, and what it wrote and answered, the last one first. -/
structure LevelState (Buf : Type) where
  daemon : DltDaemon Buf
  writes : List LevelWrite
  /-- The responses to clients: the service and the status. -/
  responses : List (ℕ × ServiceResponse)

/-- `DLT_SERVICE_ID_SET_LOG_LEVEL`. Source: `dlt_protocol.h` -/
def dltServiceIdSetLogLevel : ℕ := 1

/-- `DLT_SERVICE_ID_SET_TRACE_STATUS`. Source: `dlt_protocol.h` -/
def dltServiceIdSetTraceStatus : ℕ := 2

/-- `DLT_SERVICE_ID_SET_DEFAULT_LOG_LEVEL`. Source: `dlt_protocol.h` -/
def dltServiceIdSetDefaultLogLevel : ℕ := 0x11

/-- `DLT_SERVICE_ID_SET_DEFAULT_TRACE_STATUS`. Source: `dlt_protocol.h` -/
def dltServiceIdSetDefaultTraceStatus : ℕ := 0x12

/-- `DLT_SERVICE_ID_SET_ALL_LOG_LEVEL`. Source: `dlt_protocol.h` -/
def dltServiceIdSetAllLogLevel : ℕ := 0xf08

/-- `DLT_SERVICE_ID_SET_ALL_TRACE_STATUS`. Source: `dlt_protocol.h` -/
def dltServiceIdSetAllTraceStatus : ℕ := 0xf09

namespace LevelState

def context (s : LevelState Buf) (l i : ℕ) : Option DltDaemonContext :=
  (s.daemon.userList[l]?).bind fun users => users.contexts[i]?

/-- A change of the context at a position. -/
def modifyContext (s : LevelState Buf) (l i : ℕ) (f : DltDaemonContext → DltDaemonContext) :
    LevelState Buf :=
  { s with daemon := s.daemon.modifyUsers l (·.modifyContext i f) }

/-- A response. Source: `dlt_daemon_client.c`, `dlt_daemon_control_service_response` -/
def respond (s : LevelState Buf) (id : ℕ) (status : ServiceResponse) : LevelState Buf :=
  { s with responses := (id, status) :: s.responses }

/-- The number of contexts in the tables of the daemon's own ECU, and the position of the tables. -/
def ownContexts (s : LevelState Buf) : Option (ℕ × ℕ) := do
  let l ← dltDaemonFindUsersList s.daemon s.daemon.ecuid
  let users ← s.daemon.userList[l]?
  return (l, users.numContexts)

end LevelState

/-- Source: `getStatus` -/
def getStatus (requestLog : UInt8) (contextLog : ℤ) : ℤ :=
  i8 (if (requestLog.toNat : ℤ) ≤ contextLog then requestLog.toNat else contextLog)

/-! ## Telling an application -/

/-- The log level that applies to a context. -/
def effectiveLogLevel (daemon : DltDaemon Buf) (context : DltDaemonContext) : ℤ :=
  if context.logLevel = dltLogDefault then daemon.defaultLogLevel else context.logLevel

/-- The trace status that applies to a context. -/
def effectiveTraceStatus (daemon : DltDaemon Buf) (context : DltDaemonContext) : ℤ :=
  if context.traceStatus = dltTraceStatusDefault then daemon.defaultTraceStatus
  else context.traceStatus

/-- The message with the values of a context.
Source: `dlt_daemon_common.c`, `dlt_daemon_user_send_log_level` -/
def levelMessage (flags : LevelFlags) (daemon : DltDaemon Buf) (context : DltDaemonContext) :
    DltUserControlMsgLogLevel where
  logLevel := UInt8.ofInt <|
    if context.storageLogLevel ≠ dltLogDefault ∧ flags.maintainLogstorageLoglevel then
      if context.logLevel > context.storageLogLevel then context.logLevel
      else context.storageLogLevel
    else effectiveLogLevel daemon context
  traceStatus := UInt8.ofInt (effectiveTraceStatus daemon context)
  logLevelPos := context.logLevelPos

/-- The handle of an application is reset, and the contexts that use it lose it.
Source: `dlt_daemon_user_send_log_level` -/
def resetApplicationOf (daemon : DltDaemon Buf) (apid : Id4) : DltDaemon Buf :=
  match dltDaemonApplicationFind daemon apid daemon.ecuid with
  | none => daemon
  | some (l, i) =>
    match (daemon.userList[l]?).bind fun users => users.applications[i]? with
    | none => daemon
    | some application => dltDaemonApplicationResetUserHandle daemon l i application.userHandle

/-- The state, and whether the message was sent.
Source: `dlt_daemon_user_send_log_level` -/
def dltDaemonUserSendLogLevel (flags : LevelFlags) (s : LevelState Buf) (context : DltDaemonContext)
    (write : WriteOutcome) : LevelState Buf × Bool :=
  -- `dlt_user_log_out2` does not write to a negative handle
  if context.userHandle < 0 then (s, false)
  else
    let s := { s with writes := {
      ids := context.ids, handle := context.userHandle
      message := levelMessage flags s.daemon context, written := write = .ok } :: s.writes }
    match write with
    | .ok => (s, true)
    | .error => (s, false)
    | .epipe => ({ s with daemon := resetApplicationOf s.daemon context.apid }, false)

/-- A message to the context at a position, if its handle is valid. -/
def sendIfValid (flags : LevelFlags) (s : LevelState Buf) (l i : ℕ) (write : WriteOutcome) :
    LevelState Buf × Bool :=
  match s.context l i with
  | none => (s, false)
  | some context =>
    if context.userHandle ≥ dltFdMinimum then dltDaemonUserSendLogLevel flags s context write
    else (s, false)

/-! ## Single contexts -/

/-- The two values of a context that requests change. -/
inductive LevelField
  | logLevel
  | traceStatus
deriving DecidableEq

namespace LevelField

def get : LevelField → DltDaemonContext → ℤ
  | logLevel, context => context.logLevel
  | traceStatus, context => context.traceStatus

/-- The context with another value. -/
def set : LevelField → ℤ → DltDaemonContext → DltDaemonContext
  | logLevel, value, context => { context with logLevel := value }
  | traceStatus, value, context => { context with traceStatus := value }

def configured (flags : LevelFlags) : LevelField → ℤ
  | logLevel => flags.contextLogLevel
  | traceStatus => flags.contextTraceStatus

/-- The service that sets the value of contexts. -/
def service : LevelField → ℕ
  | logLevel => dltServiceIdSetLogLevel
  | traceStatus => dltServiceIdSetTraceStatus

end LevelField

/-- The value of a context is set and the application is told; when that fails, the old value comes
back. Source: `dlt_daemon_client.c`, `dlt_daemon_send_log_level`, `dlt_daemon_send_trace_status` -/
def sendLevel (field : LevelField) (flags : LevelFlags) (s : LevelState Buf) (l i : ℕ) (value : ℤ)
    (write : WriteOutcome) : LevelState Buf :=
  match s.context l i with
  | none => s
  | some context =>
    let sent := sendIfValid flags (s.modifyContext l i (field.set value)) l i write
    if sent.2 then sent.1.respond field.service .ok
    else (sent.1.modifyContext l i (field.set (field.get context))).respond field.service .error

/-! ## Contexts that match -/

/-- `strncmp`: the difference of the first bytes that differ, up to the end of the strings. -/
def strncmp : List UInt8 → List UInt8 → ℕ → ℤ
  | a :: as, b :: bs, n + 1 =>
    if a ≠ b then (a.toNat : ℤ) - b.toNat else if a = 0 then 0 else strncmp as bs n
  | _, _, _ => 0

/-- The loop over the contexts of the own ECU at the positions given. With `appFlag` the application
ids are compared with `str`, and a greater one ends the loop; else the context ids are.
Source: `dlt_daemon_find_multiple_context_and_send_log_level` -/
def findMultiple (field : LevelField) (flags : LevelFlags) (l : ℕ) (appFlag : Bool)
    (str : List UInt8) (len : ℕ) (value : ℤ) (writes : ℕ → WriteOutcome) :
    LevelState Buf → List ℕ → LevelState Buf
  | s, [] => s
  | s, count :: counts =>
    match s.context l count with
    | none => findMultiple field flags l appFlag str len value writes s counts
    | some context =>
      let src := (dltSetId (if appFlag then context.apid else context.ctid).bytes).bytes
      -- the result is converted to `int8_t`
      let ret := i8 (strncmp src str len)
      if ret = 0 then
        findMultiple field flags l appFlag str len value writes
          (sendLevel field flags s l count value (writes count)) counts
      else if ret > 0 ∧ appFlag then s
      else findMultiple field flags l appFlag str len value writes s counts

/-! ## Requests for contexts -/

/-- Source: `dlt_common.h`, `DltServiceSetLogLevel` -/
structure DltServiceSetLogLevel where
  serviceId : UInt32
  apid : Id4
  ctid : Id4
  logLevel : UInt8
  com : Id4
deriving DecidableEq

/-- The layout of `DltServiceSetLogLevel`. -/
def serviceSetLogLevelLayout : Layout DltServiceSetLogLevel :=
  (Layout.uint32.prod (idLayout.prod (idLayout.prod (Layout.uint8.prod idLayout)))).map
    (fun p => ⟨p.1, p.2.1, p.2.2.1, p.2.2.2.1, p.2.2.2.2⟩)
    (fun p => (p.serviceId, p.apid, p.ctid, p.logLevel, p.com)) fun _ => rfl

/-- The last character of a text is `*`. -/
def endsWithStar (text : List UInt8) : Bool := text.getLast? = some 42

/-- The part of `dlt_daemon_control_set_log_level` and of `dlt_daemon_control_set_trace_status` behind
the checks: an id without the other one may name several contexts. The response for a context that is
not found names the service of the log level in both.
Source: `dlt_daemon_client.c`, `dlt_daemon_control_set_log_level` -/
def controlSetLevel (field : LevelField) (flags : LevelFlags) (s : LevelState Buf) (apid ctid : Id4)
    (value : ℤ) (writes : ℕ → WriteOutcome) : LevelState Buf :=
  let apidText := idText apid.bytes
  let ctidText := idText ctid.bytes
  let multiple := fun (appFlag : Bool) (str : List UInt8) (len : ℕ) =>
    match s.ownContexts with
    | none => s
    | some (l, num) => findMultiple field flags l appFlag str len value writes s (List.range num)
  if apidText.length ≠ 0 ∧ endsWithStar apidText ∧ ctid.isEmpty then
    multiple true (dltSetId apid.bytes).bytes (apidText.length - 1)
  else if ctidText.length ≠ 0 ∧ endsWithStar ctidText ∧ apid.isEmpty then
    multiple false (dltSetId ctid.bytes).bytes (ctidText.length - 1)
  else if apidText.length ≠ 0 ∧ ¬ endsWithStar apidText ∧ ctid.isEmpty then
    multiple true (dltSetId apid.bytes).bytes 4
  else if ctidText.length ≠ 0 ∧ ¬ endsWithStar ctidText ∧ apid.isEmpty then
    multiple false (dltSetId ctid.bytes).bytes 4
  else
    match dltDaemonContextFind s.daemon (dltSetId apid.bytes) (dltSetId ctid.bytes)
        s.daemon.ecuid with
    | some (l, i) => sendLevel field flags s l i value (writes i)
    | none => s.respond dltServiceIdSetLogLevel .error

/-- The value of a request for a field: capped when the configuration is enforced, and converted to
`int8_t`. -/
def requestedLevel (field : LevelField) (flags : LevelFlags) (logLevel : UInt8) : ℤ :=
  let logLevel := if flags.enforceContextLLAndTS then
    UInt8.ofInt (getStatus logLevel (field.configured flags)) else logLevel
  i8 logLevel.toNat

/-- Source: `dlt_daemon_control_set_log_level` -/
def dltDaemonControlSetLogLevel (flags : LevelFlags) (s : LevelState Buf) (databuffer : List UInt8)
    (writes : ℕ → WriteOutcome) : LevelState Buf :=
  if databuffer.length < serviceSetLogLevelLayout.size then s
  else
    let req := serviceSetLogLevelLayout.decode databuffer
    controlSetLevel .logLevel flags s req.apid req.ctid (requestedLevel .logLevel flags req.logLevel)
      writes

/-- Source: `dlt_daemon_control_set_trace_status` -/
def dltDaemonControlSetTraceStatus (flags : LevelFlags) (s : LevelState Buf)
    (databuffer : List UInt8) (writes : ℕ → WriteOutcome) : LevelState Buf :=
  if databuffer.length < serviceSetLogLevelLayout.size then s
  else
    let req := serviceSetLogLevelLayout.decode databuffer
    controlSetLevel .traceStatus flags s req.apid req.ctid
      (requestedLevel .traceStatus flags req.logLevel) writes

/-! ## Requests for all contexts -/

/-- Source: `dlt_common.h`, `DltServiceSetDefaultLogLevel` -/
structure DltServiceSetDefaultLogLevel where
  serviceId : UInt32
  logLevel : UInt8
  com : Id4
deriving DecidableEq

/-- The layout of `DltServiceSetDefaultLogLevel`. -/
def serviceSetDefaultLogLevelLayout : Layout DltServiceSetDefaultLogLevel :=
  (Layout.uint32.prod (Layout.uint8.prod idLayout)).map (fun p => ⟨p.1, p.2.1, p.2.2⟩)
    (fun p => (p.serviceId, p.logLevel, p.com)) fun _ => rfl

/-- The loop of `dlt_daemon_user_send_default_update`. -/
def sendDefaultUpdate (flags : LevelFlags) (l : ℕ) (writes : ℕ → WriteOutcome) :
    LevelState Buf → List ℕ → LevelState Buf
  | s, [] => s
  | s, count :: counts =>
    match s.context l count with
    | none => sendDefaultUpdate flags l writes s counts
    | some context =>
      if context.logLevel = dltLogDefault ∨ context.traceStatus = dltTraceStatusDefault then
        sendDefaultUpdate flags l writes (sendIfValid flags s l count (writes count)).1 counts
      else sendDefaultUpdate flags l writes s counts

/-- Source: `dlt_daemon_common.c`, `dlt_daemon_user_send_default_update` -/
def dltDaemonUserSendDefaultUpdate (flags : LevelFlags) (s : LevelState Buf)
    (writes : ℕ → WriteOutcome) : LevelState Buf :=
  match s.ownContexts with
  | none => s
  | some (l, num) => sendDefaultUpdate flags l writes s (List.range num)

/-- The loop over the contexts with a valid handle, which get the value and are told. -/
def sendAllUpdate (field : LevelField) (flags : LevelFlags) (l : ℕ) (value : ℤ)
    (writes : ℕ → WriteOutcome) : LevelState Buf → List ℕ → LevelState Buf
  | s, [] => s
  | s, count :: counts =>
    match s.context l count with
    | none => sendAllUpdate field flags l value writes s counts
    | some context =>
      if context.userHandle ≥ dltFdMinimum then
        sendAllUpdate field flags l value writes
          (sendIfValid flags (s.modifyContext l count (field.set value)) l count (writes count)).1
          counts
      else sendAllUpdate field flags l value writes s counts

/-- Source: `dlt_daemon_user_send_all_log_level_update` -/
def dltDaemonUserSendAllLogLevelUpdate (flags : LevelFlags) (s : LevelState Buf) (logLevel : ℤ)
    (writes : ℕ → WriteOutcome) : LevelState Buf :=
  match s.ownContexts with
  | none => s
  | some (l, num) => sendAllUpdate .logLevel flags l logLevel writes s (List.range num)

/-- Source: `dlt_daemon_user_send_all_trace_status_update` -/
def dltDaemonUserSendAllTraceStatusUpdate (flags : LevelFlags) (s : LevelState Buf)
    (traceStatus : ℤ) (writes : ℕ → WriteOutcome) : LevelState Buf :=
  match s.ownContexts with
  | none => s
  | some (l, num) => sendAllUpdate .traceStatus flags l traceStatus writes s (List.range num)

/-- The value of a request for all contexts. -/
def requestedAll (field : LevelField) (flags : LevelFlags) (logLevel : UInt8) : ℤ :=
  if flags.enforceContextLLAndTS then getStatus logLevel (field.configured flags)
  else i8 logLevel.toNat

/-- Source: `dlt_daemon_client.c`, `dlt_daemon_control_set_default_log_level` -/
def dltDaemonControlSetDefaultLogLevel (flags : LevelFlags) (s : LevelState Buf)
    (databuffer : List UInt8) (writes : ℕ → WriteOutcome) : LevelState Buf :=
  if databuffer.length < serviceSetDefaultLogLevelLayout.size then s
  else
    let req := serviceSetDefaultLogLevelLayout.decode databuffer
    if (req.logLevel.toNat : ℤ) ≤ dltLogVerbose then
      let s := { s with daemon := { s.daemon with
        defaultLogLevel := requestedAll .logLevel flags req.logLevel } }
      (dltDaemonUserSendDefaultUpdate flags s writes).respond dltServiceIdSetDefaultLogLevel .ok
    else s.respond dltServiceIdSetDefaultLogLevel .error

/-- Source: `dlt_daemon_control_set_all_log_level` -/
def dltDaemonControlSetAllLogLevel (flags : LevelFlags) (s : LevelState Buf)
    (databuffer : List UInt8) (writes : ℕ → WriteOutcome) : LevelState Buf :=
  if databuffer.length < serviceSetDefaultLogLevelLayout.size then s
  else
    let req := serviceSetDefaultLogLevelLayout.decode databuffer
    if (req.logLevel.toNat : ℤ) ≤ dltLogVerbose ∨ req.logLevel = UInt8.ofInt dltLogDefault then
      (dltDaemonUserSendAllLogLevelUpdate flags s (requestedAll .logLevel flags req.logLevel)
        writes).respond dltServiceIdSetAllLogLevel .ok
    else s.respond dltServiceIdSetAllLogLevel .error

/-- Source: `dlt_daemon_control_set_default_trace_status` -/
def dltDaemonControlSetDefaultTraceStatus (flags : LevelFlags) (s : LevelState Buf)
    (databuffer : List UInt8) (writes : ℕ → WriteOutcome) : LevelState Buf :=
  if databuffer.length < serviceSetDefaultLogLevelLayout.size then s
  else
    let req := serviceSetDefaultLogLevelLayout.decode databuffer
    if (req.logLevel.toNat : ℤ) = 0 ∨ (req.logLevel.toNat : ℤ) = dltTraceStatusOn then
      let s := { s with daemon := { s.daemon with
        defaultTraceStatus := requestedAll .traceStatus flags req.logLevel } }
      (dltDaemonUserSendDefaultUpdate flags s writes).respond dltServiceIdSetDefaultTraceStatus .ok
    else s.respond dltServiceIdSetDefaultTraceStatus .error

/-- Source: `dlt_daemon_control_set_all_trace_status` -/
def dltDaemonControlSetAllTraceStatus (flags : LevelFlags) (s : LevelState Buf)
    (databuffer : List UInt8) (writes : ℕ → WriteOutcome) : LevelState Buf :=
  if databuffer.length < serviceSetDefaultLogLevelLayout.size then s
  else
    let req := serviceSetDefaultLogLevelLayout.decode databuffer
    if (req.logLevel.toNat : ℤ) ≤ dltTraceStatusOn ∨
        req.logLevel = UInt8.ofInt dltTraceStatusDefault then
      (dltDaemonUserSendAllTraceStatusUpdate flags s (requestedAll .traceStatus flags req.logLevel)
        writes).respond dltServiceIdSetAllTraceStatus .ok
    else s.respond dltServiceIdSetAllTraceStatus .error

/-! ## Messages of applications -/

/-- `DLT_USER_LOG_LEVEL_NOT_SET` and `DLT_USER_TRACE_STATUS_NOT_SET`.
Source: `dlt_user_shared_cfg.h` -/
def dltUserNotSet : ℤ := -2

/-- `sizeof(DltServiceGetLogInfoRequest)`. Source: `dlt_common.h` -/
def sizeofDltServiceGetLogInfoRequest : ℕ := 17

/-- The storage log level of a context that registers.
Source: `dlt-daemon.c`, `dlt_daemon_process_user_message_register_context` -/
def registeredStorageLevel (flags : LevelFlags) (apid ctid : Id4) : ℤ :=
  if flags.offlineLogstorageMaxDevices ≠ 0 then i8 (flags.getLoglevel apid ctid) else dltLogDefault

/-- The log level or trace status of a context that registers: the default one if it is not set, and
`none` if it is out of range.
Source: `dlt_daemon_process_user_message_register_context` -/
def registeredLevel (value default max : ℤ) : Option ℤ :=
  if value = dltUserNotSet then some default
  else if value < default ∨ value > max then none
  else some value

/-- The state, and whether the handler returns another value than `-1`; `slot` is what the memory of a
new context held.
Source: `dlt_daemon_process_user_message_register_context` -/
def registerContext (flags : LevelFlags) (malloc : Malloc) (slot : DltDaemonContext)
    (s : LevelState Buf) (userctxt : DltUserControlMsgRegisterContext) (description : List UInt8)
    (write : WriteOutcome) : LevelState Buf × Bool :=
  let application := do
    let (l, i) ← dltDaemonApplicationFind s.daemon userctxt.apid s.daemon.ecuid
    let users ← s.daemon.userList[l]?
    users.applications[i]?
  match application with
  | none => (s, true)
  | some application =>
    match registeredLevel userctxt.logLevel.toInt dltLogDefault dltLogVerbose,
        registeredLevel userctxt.traceStatus.toInt dltTraceStatusDefault dltTraceStatusOn with
    | some logLevel, some traceStatus =>
        let added := dltDaemonContextAdd malloc slot s.daemon userctxt.apid userctxt.ctid logLevel
          traceStatus userctxt.logLevelPos.toInt application.userHandle (some description)
          s.daemon.ecuid
        let s := { s with daemon := added.1 }
        match added.2 with
        | none => (s, false)
        | some (l, c) =>
          let s := s.modifyContext l c fun context => { context with
            storageLogLevel := registeredStorageLevel flags userctxt.apid userctxt.ctid }
          if flags.rflag ∧ malloc sizeofDltServiceGetLogInfoRequest = none then (s, false)
          else if logLevel = dltLogDefault ∨ traceStatus = dltTraceStatusDefault then
            match s.context l c with
            | none => (s, true)
            | some context =>
              if context.userHandle ≥ dltFdMinimum then
                dltDaemonUserSendLogLevel flags s context write
              else (s, true)
          else (s, true)
    | _, _ => (s, false)

/-- The loop over the contexts of an application.
Source: `dlt_daemon_process_user_message_set_app_ll_ts` -/
def setAppContexts (flags : LevelFlags) (l : ℕ) (logLevel traceStatus : ℤ)
    (writes : ℕ → WriteOutcome) : LevelState Buf → List ℕ → LevelState Buf
  | s, [] => s
  | s, count :: counts =>
    match s.context l count with
    | none => setAppContexts flags l logLevel traceStatus writes s counts
    | some context =>
      let stored := s.modifyContext l count fun context => { context with logLevel, traceStatus }
      if context.userHandle ≥ dltFdMinimum then
        let sent := sendIfValid flags stored l count (writes count)
        setAppContexts flags l logLevel traceStatus writes
          (if sent.2 then sent.1
          else sent.1.modifyContext l count fun c => { c with
            logLevel := context.logLevel, traceStatus := context.traceStatus }) counts
      else setAppContexts flags l logLevel traceStatus writes stored counts

/-- Source: `dlt_daemon_process_user_message_set_app_ll_ts` -/
def setAppLlTs (flags : LevelFlags) (s : LevelState Buf)
    (userctxt : DltUserControlMsgAppLogLevelTraceStatus) (writes : ℕ → WriteOutcome) :
    LevelState Buf :=
  match dltDaemonApplicationFind s.daemon userctxt.apid s.daemon.ecuid with
  | none => s
  | some (l, i) =>
    match s.daemon.userList[l]? with
    | none => s
    | some users =>
      match users.applications[i]? with
      | none => s
      | some application =>
        let base := ((users.applications.take i).map DltDaemonApplication.numContexts).sum.toNat
        setAppContexts flags l (i8 userctxt.logLevel.toNat) (i8 userctxt.traceStatus.toNat) writes s
          (List.range' base application.numContexts.toNat)

/-! ## Operations -/

/-- An operation on the levels. `writes` is what the writes to the contexts at the positions of the
table give. -/
inductive LevelOp
  | registerContext (malloc : Malloc) (slot : DltDaemonContext)
      (userctxt : DltUserControlMsgRegisterContext) (description : List UInt8)
      (write : WriteOutcome)
  | setLogLevel (databuffer : List UInt8) (writes : ℕ → WriteOutcome)
  | setAllLogLevel (databuffer : List UInt8) (writes : ℕ → WriteOutcome)
  | setDefaultLogLevel (databuffer : List UInt8) (writes : ℕ → WriteOutcome)
  | setTraceStatus (databuffer : List UInt8) (writes : ℕ → WriteOutcome)
  /-- A request for the trace status of all contexts. -/
  | setAllTraceStatus (databuffer : List UInt8) (writes : ℕ → WriteOutcome)
  | setDefaultTraceStatus (databuffer : List UInt8) (writes : ℕ → WriteOutcome)
  /-- An application sets the values of its contexts. -/
  | setAppLlTs (userctxt : DltUserControlMsgAppLogLevelTraceStatus) (writes : ℕ → WriteOutcome)
  /-- The contexts are loaded from the configuration file; `applicationsLoaded`: so were the
  applications. -/
  | contextsLoad (malloc : Malloc) (slots : ℕ → DltDaemonContext) (ll ts : ℤ)
      (applicationsLoaded : Bool) (file : Option (List UInt8))

/-- Loading the contexts, as `main` does it. Source: `main` -/
def loadContexts (malloc : Malloc) (slots : ℕ → DltDaemonContext) (ll ts : ℤ)
    (applicationsLoaded : Bool) (file : Option (List UInt8)) (s : LevelState Buf) : LevelState Buf :=
  let load := dltDaemonContextsLoad malloc slots ll ts s.daemon file
  { s with daemon :=
      if applicationsLoaded ∧ load.2 = 0 then { load.1 with runtimeContextCfgLoaded := true }
      else load.1 }

/-- The state after an operation. -/
def levelStep (flags : LevelFlags) (s : LevelState Buf) : LevelOp → LevelState Buf
  | .registerContext malloc slot userctxt description write =>
      (registerContext flags malloc slot s userctxt description write).1
  | .setLogLevel databuffer writes => dltDaemonControlSetLogLevel flags s databuffer writes
  | .setAllLogLevel databuffer writes => dltDaemonControlSetAllLogLevel flags s databuffer writes
  | .setDefaultLogLevel databuffer writes =>
      dltDaemonControlSetDefaultLogLevel flags s databuffer writes
  | .setTraceStatus databuffer writes => dltDaemonControlSetTraceStatus flags s databuffer writes
  | .setAllTraceStatus databuffer writes =>
      dltDaemonControlSetAllTraceStatus flags s databuffer writes
  | .setDefaultTraceStatus databuffer writes =>
      dltDaemonControlSetDefaultTraceStatus flags s databuffer writes
  | .setAppLlTs userctxt writes => setAppLlTs flags s userctxt writes
  | .contextsLoad malloc slots ll ts applicationsLoaded file =>
      loadContexts malloc slots ll ts applicationsLoaded file s

/-- The daemon before the first operation: the default values are the configured ones, the own ECU has
tables, no context is registered, and nothing was written.
Source: `main` -/
structure LevelStart (flags : LevelFlags) (s : LevelState Buf) : Prop where
  defaultLogLevel_eq : s.daemon.defaultLogLevel = flags.contextLogLevel
  defaultTraceStatus_eq : s.daemon.defaultTraceStatus = flags.contextTraceStatus
  forceLlTs_eq : s.daemon.forceLlTs = flags.enforceContextLLAndTS
  own : ∃ l users, Own s.daemon l users
  contexts_nil : ∀ users ∈ s.daemon.userList, users.contexts = []
  writes_nil : s.writes = []

theorem LevelStart.registered {flags : LevelFlags} {s : LevelState Buf} (h : LevelStart flags s) :
    AllRegistered s.daemon := by
  obtain ⟨l, users, hown⟩ := h.own
  exact hown.registered

end Dlt.Daemon
