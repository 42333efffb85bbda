import Dlt.Control.Requests
import Dlt.Inbox.CheckUserMessage

/-!
# Control requests in the daemon: `dlt_daemon_client_process_control`

* `dltDaemonClientProcessControl` — the dispatcher of a daemon without gateway.
-/

namespace Dlt.Control

open Dlt.Lib Dlt.Shared
open Dlt.Daemon (DltDaemon dltDaemonContextFind DltServiceSetLogLevel serviceSetLogLevelLayout
  DltServiceSetDefaultLogLevel serviceSetDefaultLogLevelLayout)
open Dlt.Inbox (DltUserControlMsgInjection)

variable {Buf : Type}

/-! ## Reading -/

/-- `DLT_SERVICE_ID`. Source: `dlt_protocol.h` -/
def dltServiceId : ℕ := 0

/-- `DLT_SERVICE_ID_CALLSW_CINJECTION`. Source: `dlt_protocol.h` -/
def dltServiceIdCallswCinjection : ℕ := 0xfff

/-- `DLT_DAEMON_INJECTION_MIN`. Source: `dlt_daemon_common_cfg.h` -/
def dltDaemonInjectionMin : ℕ := 0xfff

/-- The field `htyp` of a message. -/
def standardHtyp (msg : DltMessage) : UInt8 := msg.headerbuffer.getD (msg.standardheader.getD 0) 0

/-- `DLT_ENDIAN_GET_32` of the number in four bytes. Source: `dlt_common.h` -/
def dltEndianGet32 (htyp : UInt8) (bytes : List UInt8) : ℕ :=
  if dltIsHtypMsbf htyp then ofBeBytes bytes else ofLeBytes bytes

/-- `DLT_MSG_READ_VALUE` of a number of four bytes, which stays zero when there are fewer: the number, the
pointer and the length. Source: `dlt_common.h` -/
def dltMsgReadUint32 (htyp : UInt8) (ptr : List UInt8) (length : ℤ) : ℕ × List UInt8 × ℤ :=
  if length < 4 then (0, ptr, -1) else (dltEndianGet32 htyp (ptr.take 4), ptr.drop 4, length - 4)

/-- What a handler reads of a message, if there is enough of it.
Source: `dlt_common.c`, `dlt_check_rcv_data_size` -/
def readRequest {α : Type} (layout : Layout α) (msg : DltMessage) : Option α :=
  if msg.datasize < layout.size then none
  else msg.databuffer.map fun databuffer => layout.decode (databuffer.take layout.size)

/-! ## Injections -/

/-- The status of a response. Source: `dlt_protocol.h` -/
inductive ResponseStatus
  /-- `DLT_SERVICE_RESPONSE_OK`. -/
  | ok
  /-- `DLT_SERVICE_RESPONSE_NOT_SUPPORTED`. -/
  | notSupported
  /-- `DLT_SERVICE_RESPONSE_ERROR`. -/
  | error
  /-- `DLT_SERVICE_RESPONSE_PERM_DENIED`. -/
  | permDenied
deriving DecidableEq

/-- What the handler of injections does first. -/
inductive InjectionOutcome
  | none
  /-- A response to the client, with the service and the status. -/
  | respond (id : ℕ) (status : ResponseStatus)
  /-- `dlt_user_log_out3` to the application: its handle, the message and the data. The response tells whether
  this succeeds. -/
  | logOut3 (userHandle : ℤ) (usercontext : DltUserControlMsgInjection) (userbuffer : List UInt8)
deriving DecidableEq

/-- What the injection handler reads of the daemon beside its tables. Source: `dlt-daemon.h`, `DltDaemonFlags` -/
structure InjectionEnv where
  /-- `injectionMode` is not zero. -/
  injectionMode : Bool
  malloc : Malloc

/-- An injection whose ids are known. The size of the memory is not negative, so that its conversion to an
unsigned number changes nothing. Source: `dlt_daemon_client.c`, `dlt_daemon_control_callsw_cinjection` -/
def injectTo (env : InjectionEnv) (daemon : DltDaemon Buf) (msg : DltMessage) (id length : ℕ)
    (ptr : List UInt8) (apid ctid : Id4) : InjectionOutcome :=
  match (dltDaemonContextFind daemon apid ctid daemon.ecuid).bind fun p =>
      (daemon.userList[p.1]?).bind fun users => users.contexts[p.2]? with
  | none => .respond id .error
  | some context =>
      if (length : ℤ) > msg.databuffersize then .respond id .error
      else if env.malloc length = none then .respond id .error
      else
        .logOut3 context.userHandle
          ⟨Int32.ofInt context.logLevelPos, UInt32.ofNat id, UInt32.ofNat length⟩ (ptr.take length)

/-- Source: `dlt_daemon_control_callsw_cinjection` -/
def dltDaemonControlCallswCinjection (env : InjectionEnv) (daemon : DltDaemon Buf) (msg : DltMessage) :
    InjectionOutcome :=
  match msg.databuffer with
  | none => .none
  | some databuffer =>
      let htyp := standardHtyp msg
      let (id, ptr, datalength) := dltMsgReadUint32 htyp databuffer msg.datasize
      if env.injectionMode = false then .respond id .permDenied
      else if dltDaemonInjectionMin ≤ id then
        let (length, ptr, _) := dltMsgReadUint32 htyp ptr datalength
        if dltIsHtypUeh htyp then
          let extended := msg.extendedheader.getD 0
          injectTo env daemon msg id length ptr (dltSetId (field msg.headerbuffer (extended + 2) 4))
            (dltSetId (field msg.headerbuffer (extended + 6) 4))
        else .respond id .error
      else .respond id .notSupported

/-! ## The dispatcher -/

/-- What is done with a control message: the handler and what it reads, or the response. -/
inductive ControlCall
  /-- `dlt_daemon_control_set_log_level`. -/
  | setLogLevel (read : Option DltServiceSetLogLevel)
  /-- `dlt_daemon_control_set_trace_status`. -/
  | setTraceStatus (read : Option DltServiceSetLogLevel)
  /-- `dlt_daemon_control_get_log_info`. -/
  | getLogInfo (read : Option GetLogInfoRequest)
  /-- `dlt_daemon_control_get_default_log_level`. -/
  | getDefaultLogLevel
  /-- `dlt_daemon_applications_save` and `dlt_daemon_contexts_save`, with the response. -/
  | storeConfig
  /-- `dlt_daemon_control_reset_to_factory_default`, with the response. -/
  | resetToFactoryDefault
  /-- `dlt_daemon_control_set_timing_packets`. -/
  | setTimingPackets (read : Option DltServiceSetVerboseMode)
  /-- `dlt_daemon_control_set_default_log_level`. -/
  | setDefaultLogLevel (read : Option DltServiceSetDefaultLogLevel)
  /-- `dlt_daemon_control_set_default_trace_status`. -/
  | setDefaultTraceStatus (read : Option DltServiceSetDefaultLogLevel)
  /-- `dlt_daemon_control_get_software_version`. -/
  | getSoftwareVersion
  /-- `dlt_daemon_control_message_buffer_overflow`. -/
  | messageBufferOverflow
  /-- `dlt_daemon_control_service_logstorage`. -/
  | serviceLogstorage
  /-- `dlt_daemon_control_passive_node_connect`. -/
  | passiveNodeConnect
  /-- `dlt_daemon_control_passive_node_connect_status`. -/
  | passiveNodeConnectStatus
  /-- `dlt_daemon_control_set_all_log_level`. -/
  | setAllLogLevel (read : Option DltServiceSetDefaultLogLevel)
  /-- `dlt_daemon_control_set_all_trace_status`. -/
  | setAllTraceStatus (read : Option DltServiceSetDefaultLogLevel)
  /-- `dlt_daemon_control_service_response`. -/
  | serviceResponse (id : ℕ) (status : ResponseStatus)
  /-- `dlt_daemon_control_callsw_cinjection`. -/
  | callswCinjection (outcome : InjectionOutcome)
deriving DecidableEq

/-- The handler of a service. Source: `dlt_daemon_client_process_control` -/
def controlService (msg : DltMessage) : ℕ → ControlCall
  | 0x01 => .setLogLevel (readRequest serviceSetLogLevelLayout msg)
  | 0x02 => .setTraceStatus (readRequest serviceSetLogLevelLayout msg)
  | 0x03 => .getLogInfo (readRequest serviceGetLogInfoRequestLayout msg)
  | 0x04 => .getDefaultLogLevel
  | 0x05 => .storeConfig
  | 0x06 => .resetToFactoryDefault
  | 0x0b => .setTimingPackets (readRequest serviceSetVerboseModeLayout msg)
  | 0x0c => .serviceResponse 0x0c .ok
  | 0x11 => .setDefaultLogLevel (readRequest serviceSetDefaultLogLevelLayout msg)
  | 0x12 => .setDefaultTraceStatus (readRequest serviceSetDefaultLogLevelLayout msg)
  | 0x13 => .getSoftwareVersion
  | 0x14 => .messageBufferOverflow
  | 0xf05 => .serviceLogstorage
  | 0xf06 => .passiveNodeConnect
  | 0xf07 => .passiveNodeConnectStatus
  | 0xf08 => .setAllLogLevel (readRequest serviceSetDefaultLogLevelLayout msg)
  | 0xf09 => .setAllTraceStatus (readRequest serviceSetDefaultLogLevelLayout msg)
  | id => .serviceResponse id .notSupported

/-- What is done with a message; `none` is the return value `-1`. The gateway mode is off.
Source: `dlt_daemon_client_process_control` -/
def dltDaemonClientProcessControl (env : InjectionEnv) (daemon : DltDaemon Buf) (msg : DltMessage) :
    Option ControlCall :=
  if msg.datasize < 4 then none
  else
    let id := dltEndianGet32 (standardHtyp msg) ((msg.databuffer.getD []).take 4)
    if dltServiceId < id ∧ id < dltServiceIdCallswCinjection then some (controlService msg id)
    else some (.callswCinjection (dltDaemonControlCallswCinjection env daemon msg))

end Dlt.Control
