import Dlt.Daemon.Registration
import Dlt.Shared.MessagePayload

/-!
# The GET_LOG_INFO service

* `dltDaemonClientControlMessage` — the control message that carries a payload.
-/

namespace Dlt.Daemon

open Dlt.Lib Dlt.Shared

variable {Buf : Type}

/-! ## The request -/

/-- Source: `dlt_common.h`, `DltServiceGetLogInfoRequest` -/
structure DltServiceGetLogInfoRequest where
  options : ℕ
  /-- Application id; empty for all applications. -/
  apid : Id4
  /-- Context id; empty for all contexts. -/
  ctid : Id4

/-- What a request selects. Source: `dlt_daemon_client.c`, `dlt_daemon_control_get_log_info` -/
structure LogInfoSelection where
  application : Option DltDaemonApplication
  position : ℕ
  context : Option DltDaemonContext
  numApplications : ℕ
  numContexts : ℕ

/-- Source: `dlt_daemon_control_get_log_info` -/
def DltDaemonRegisteredUsers.select (users : DltDaemonRegisteredUsers)
    (req : DltServiceGetLogInfoRequest) : LogInfoSelection :=
  if req.apid.isEmpty then ⟨none, 0, none, users.numApplications, users.numContexts⟩
  else
    match users.applicationFind req.apid with
    | none => ⟨none, 0, none, 0, 0⟩
    | some i =>
      match users.applications[i]? with
      | none => ⟨none, 0, none, 0, 0⟩
      | some application =>
        if req.ctid.isEmpty then ⟨some application, i, none, 1, application.numContexts.toNat⟩
        else
          match (users.contextFind req.apid req.ctid).bind fun c => users.contexts[c]? with
          | some context => ⟨some application, i, some context, 1, 1⟩
          | none => ⟨some application, i, none, 1, 0⟩

/-- The contexts of the applications before position `i`.
Source: `dlt_daemon_control_get_log_info` -/
def DltDaemonRegisteredUsers.offsetBase (users : DltDaemonRegisteredUsers) (i : ℕ) : ℕ :=
  ((users.applications.take i).map DltDaemonApplication.numContexts).sum.toNat

/-! ## The size of the reply -/

/-- The options 4, 6 and 7 ask for the log levels. -/
def wantsLogLevel (options : ℕ) : Bool := options = 4 ∨ options = 6 ∨ options = 7

/-- The options 5, 6 and 7 ask for the trace statuses. -/
def wantsTraceStatus (options : ℕ) : Bool := options = 5 ∨ options = 6 ∨ options = 7

def descriptionSize (description : Option (List UInt8)) : ℕ := 2 + (description.getD []).length

/-- The size of the descriptions.
Source: `dlt_daemon_control_get_log_info` -/
def logInfoDescriptionsSize (users : DltDaemonRegisteredUsers) (req : DltServiceGetLogInfoRequest)
    (selection : LogInfoSelection) : ℕ :=
  if req.options ≠ 7 then 0
  else if req.apid.isEmpty then
    (users.contexts.map fun context => descriptionSize context.contextDescription).sum +
      (users.applications.map fun application =>
        descriptionSize application.applicationDescription).sum
  else
    match selection.application with
    | none => 0
    | some application =>
      let contexts :=
        if req.ctid.isEmpty then
          (users.contexts.drop (users.offsetBase selection.position)).take
            application.numContexts.toNat
        else selection.context.toList
      (contexts.map fun context => descriptionSize context.contextDescription).sum +
        descriptionSize application.applicationDescription

/-- The size of the whole reply.
Source: `dlt_daemon_control_get_log_info` -/
def logInfoSize (users : DltDaemonRegisteredUsers) (req : DltServiceGetLogInfoRequest)
    (selection : LogInfoSelection) : ℕ :=
  let sizecont :=
    4 + (if wantsLogLevel req.options then 1 else 0) + if wantsTraceStatus req.options then 1 else 0
  4 + 1 + 4 + (selection.numApplications * (4 + 2) + selection.numContexts * sizecont) + 2 +
    logInfoDescriptionsSize users req selection

/-- The field that the size is added up in is an unsigned 32-bit number.
Source: `dlt_daemon_control_get_log_info` -/
def logInfoDatasize (users : DltDaemonRegisteredUsers) (req : DltServiceGetLogInfoRequest)
    (selection : LogInfoSelection) : ℕ :=
  u32 (logInfoSize users req selection)

/-! ## Writing the reply -/

/-- The byte of an `int8_t`. -/
def int8Byte (x : ℤ) : UInt8 := UInt8.ofNat (x % 256).toNat

/-- A description with its length in front, which is zero where there is none.
Source: `dlt_daemon_control_get_log_info` -/
def logInfoDescription (description : Option (List UInt8)) : List UInt8 :=
  leBytes 2 (description.getD []).length ++ description.getD []

/-- Source: `dlt_daemon_control_get_log_info` -/
def logInfoContext (options : ℕ) (context : DltDaemonContext) : List UInt8 :=
  (dltSetId context.ctid.bytes).bytes ++
    (if wantsLogLevel options then [int8Byte context.logLevel] else []) ++
    (if wantsTraceStatus options then [int8Byte context.traceStatus] else []) ++
    if options = 7 then logInfoDescription context.contextDescription else []

/-- The application with id `apid`, found at position `i`.
Source: `dlt_daemon_control_get_log_info` -/
def logInfoApplication (users : DltDaemonRegisteredUsers) (req : DltServiceGetLogInfoRequest)
    (selection : LogInfoSelection) (apid : Id4) (i : ℕ) (application : DltDaemonApplication) :
    List UInt8 :=
  let countConIds :=
    (if req.apid.isEmpty then application.numContexts.toNat else selection.numContexts) % 65536
  let contexts := (List.range countConIds).flatMap fun j =>
    let context :=
      if countConIds = 1 ∧ !req.apid.isEmpty ∧ !req.ctid.isEmpty then selection.context
      else users.contexts[users.offsetBase i + j]?
    match context with
    | some context =>
      if req.ctid.isEmpty ∨ context.ctid = req.ctid then logInfoContext req.options context else []
    | none => []
  (dltSetId apid.bytes).bytes ++ leBytes 2 countConIds ++ contexts ++
    if req.options = 7 then logInfoDescription application.applicationDescription else []

/-- `DLT_SERVICE_ID_GET_LOG_INFO`. Source: `dlt_protocol.h` -/
def dltServiceIdGetLogInfo : ℕ := 3

/-- `DLT_DAEMON_REMO_STRING`. Source: `dlt_daemon_common_cfg.h` -/
def dltDaemonRemoString : List UInt8 := ascii "remo"

/-- What is written into the payload.
Source: `dlt_daemon_client.c`, `dlt_daemon_control_get_log_info` -/
def logInfoWritten (users : DltDaemonRegisteredUsers) (req : DltServiceGetLogInfoRequest)
    (selection : LogInfoSelection) : List UInt8 :=
  let status :=
    if selection.numApplications ≠ 0 ∧ selection.numContexts ≠ 0 then req.options else 8
  let countAppIds := selection.numApplications % 65536
  let applications :=
    if countAppIds = 0 then []
    else leBytes 2 countAppIds ++ (List.range countAppIds).flatMap fun i =>
      let apid :=
        if req.apid.isEmpty then (users.applications[i]?).map DltDaemonApplication.apid
        else some req.apid
      match apid with
      | none => []
      | some apid =>
        match users.applicationFind apid with
        | none => []
        | some a =>
          match users.applications[a]? with
          | none => []
          | some application => logInfoApplication users req selection apid a application
  leBytes 4 dltServiceIdGetLogInfo ++ [UInt8.ofNat status] ++ applications ++
    (dltSetId dltDaemonRemoString).bytes

inductive GetLogInfoReply
  | nothing
  /-- `DLT_SERVICE_RESPONSE_ERROR`. -/
  | error
  | message (databuffer : List UInt8)
deriving DecidableEq

/-- Source: `dlt_daemon_control_get_log_info` -/
def dltDaemonControlGetLogInfo (malloc : Malloc) (daemon : DltDaemon Buf)
    (req : DltServiceGetLogInfoRequest) : GetLogInfoReply :=
  match (dltDaemonFindUsersList daemon daemon.ecuid).bind fun l => daemon.userList[l]? with
  | none => .nothing
  | some users =>
    if req.options < 3 ∨ req.options > 7 then .error
    else
      let selection := users.select req
      let datasize := logInfoDatasize users req selection
      match malloc datasize with
      | none => .error
      | some _ =>
        -- the memory is cleared first
        .message ((logInfoWritten users req selection ++ List.replicate datasize 0).take datasize)

/-! ## The control message -/

/-- The size of the headers of a control message behind the storage header.
Source: `dlt_daemon_client_send_control_message` -/
def controlHeaderSize : ℕ := sizeofDltStandardHeader + 4 + 4 + sizeofDltExtendedHeader

/-- A message that is too long is discarded.
Source: `dlt_daemon_client_send_control_message` -/
def dltDaemonClientControlMessage (databuffer : List UInt8) : Option PayloadMessage :=
  if controlHeaderSize + databuffer.length > 65535 then none
  else
    -- `DLT_HTYP_WEID | DLT_HTYP_WTMS | DLT_HTYP_UEH | DLT_HTYP_PROTOCOL_VERSION1` and
    -- `DLT_MSIN_CONTROL_RESPONSE`
    some { htyp := 0x35, msin := 0x26, noar := 1, databuffer }

end Dlt.Daemon
