import Dlt.Gateway.Connections
import Dlt.User.SendLog

/-!
# Control requests of a client: `dlt_client_send_ctrl_msg` and its callers

* `ClientRequest` — a request as the caller asks for it, and `ClientRequest.send` — the call that sends it.

The host is little endian. A write fails or takes all bytes.
-/

namespace Dlt.Control

open Dlt.Lib Dlt.Shared Layout
open Dlt.Daemon (idLayout DltServiceSetLogLevel serviceSetLogLevelLayout DltServiceSetDefaultLogLevel
  serviceSetDefaultLogLevelLayout dltServiceIdSetLogLevel dltServiceIdSetTraceStatus
  dltServiceIdSetDefaultLogLevel dltServiceIdSetDefaultTraceStatus dltServiceIdSetAllLogLevel
  dltServiceIdSetAllTraceStatus dltServiceIdGetLogInfo)
open Dlt.Gateway (dltServiceIdGetDefaultLogLevel dltServiceIdGetSoftwareVersion)
open Dlt.User (dltSetStorageheader dltHtobe16 dltMessageSetExtraparameters)

/-! ## Data -/

/-- `DLT_SERVICE_ID_STORE_CONFIG`. Source: `dlt_protocol.h` -/
def dltServiceIdStoreConfig : ℕ := 0x05

/-- `DLT_SERVICE_ID_RESET_TO_FACTORY_DEFAULT`. Source: `dlt_protocol.h` -/
def dltServiceIdResetToFactoryDefault : ℕ := 0x06

/-- `DLT_SERVICE_ID_SET_TIMING_PACKETS`. Source: `dlt_protocol.h` -/
def dltServiceIdSetTimingPackets : ℕ := 0x0b

/-- Source: `dlt_client.h`, `DltClientMode` -/
inductive DltClientMode
  /-- `DLT_CLIENT_MODE_UNDEFINED`. -/
  | undefined
  /-- `DLT_CLIENT_MODE_TCP`. -/
  | tcp
  /-- `DLT_CLIENT_MODE_SERIAL`. -/
  | serial
  /-- `DLT_CLIENT_MODE_UNIX`. -/
  | unix
  /-- `DLT_CLIENT_MODE_UDP_MULTICAST`. -/
  | udpMulticast
deriving DecidableEq

/-- What sending reads of a client. Source: `DltClient` -/
structure DltClient where
  sock : ℤ
  mode : DltClientMode
  sendSerialHeader : Bool
  /-- ECU id. -/
  ecuid : Id4

/-- What the system gives. -/
structure CtrlEnv where
  /-- The memory of the local variable `msg`. -/
  memory : DltMessage
  memory_length : memory.headerbuffer.length = sizeofHeaderbuffer
  request : Bool
  /-- The memory for the payload of the message. -/
  malloc : Malloc
  /-- `dlt_uptime`. -/
  uptime : UInt32
  /-- The time of day: seconds and microseconds. -/
  time : UInt32 × UInt32
  /-- The writes of a message, in order, succeed. -/
  written : ℕ → Bool

/-! ## The message -/

/-- `DLT_HTYP_WEID | DLT_HTYP_WTMS | DLT_HTYP_UEH | DLT_HTYP_PROTOCOL_VERSION1`. -/
def ctrlHtyp : UInt8 := 0x04 ||| 0x10 ||| 0x01 ||| 0x20

/-- `DLT_MSIN_CONTROL_REQUEST`. Source: `dlt_protocol.h` -/
def dltMsinControlRequest : UInt8 := 0x16

/-- `DLT_CLIENT_DUMMY_APP_ID`. Source: `dlt_client_cfg.h` -/
def dltClientDummyAppId : List UInt8 := ascii "CA1"

/-- `DLT_CLIENT_DUMMY_CON_ID`. Source: `dlt_client_cfg.h` -/
def dltClientDummyConId : List UInt8 := ascii "CC1"

/-- The text, or the other one if it is empty. -/
def orDummy (text dummy : List UInt8) : List UInt8 := if text.headD 0 = 0 then dummy else text

/-- The message up to the parameters behind the standard header.
Source: `dlt_client.c`, `dlt_client_send_ctrl_msg` -/
def ctrlStandard (env : CtrlEnv) (client : DltClient) (msg : DltMessage) : DltMessage :=
  let msg := { msg with
    storageheader := some 0
    headerbuffer := overwrite msg.headerbuffer 0 (dltSetStorageheader env.time []) }
  let msg := { msg with
    standardheader := some sizeofDltStorageHeader
    headerbuffer := overwrite msg.headerbuffer sizeofDltStorageHeader [ctrlHtyp, 0] }
  let msg := { msg with
    headerextra := { msg.headerextra with
      ecu := (dltSetId client.ecuid.bytes).bytes
      tmsp := env.uptime.toNat } }
  dltMessageSetExtraparameters msg ctrlHtyp

/-- All headers but for the length field. Source: `dlt_client_send_ctrl_msg` -/
def ctrlHeaders (env : CtrlEnv) (client : DltClient) (apid ctid : List UInt8) (msg : DltMessage) :
    DltMessage :=
  let msg := ctrlStandard env client msg
  let start := sizeofDltStorageHeader + sizeofDltStandardHeader + dltStandardHeaderExtraSize ctrlHtyp
  { msg with
    extendedheader := some start
    headerbuffer := overwrite msg.headerbuffer start
      ([dltMsinControlRequest, 1] ++ (dltSetId (orDummy apid dltClientDummyAppId)).bytes ++
        (dltSetId (orDummy ctid dltClientDummyConId)).bytes)
    headersize := start + sizeofDltExtendedHeader }

/-- The blocks are written one after the other; `none` is a write that fails. -/
def writeBlocks (written : ℕ → Bool) (blocks : List (List UInt8)) : Option (List UInt8) :=
  if (List.range blocks.length).all written then some blocks.flatten else none

/-- What is written of a message. -/
def ctrlBlocks (client : DltClient) (msg : DltMessage) : List (List UInt8) :=
  (if client.sendSerialHeader then [dltSerialHeader] else []) ++
    [field msg.headerbuffer sizeofDltStorageHeader (msg.headersize - sizeofDltStorageHeader),
      (msg.databuffer.getD []).take msg.datasize.toNat]

/-- Source: `dlt_client_send_message_to_socket` -/
def dltClientSendMessageToSocket (env : CtrlEnv) (client : DltClient) (msg : DltMessage) :
    Option (List UInt8) :=
  if client.sock < 0 ∨ msg.databuffer = none then none
  else writeBlocks env.written (ctrlBlocks client msg)

/-- The bytes that are sent, if the call returns `DLT_RETURN_OK`; for payloads of fewer than `2^31` bytes.
Source: `dlt_client_send_ctrl_msg` -/
def dltClientSendCtrlMsg (env : CtrlEnv) (client : DltClient) (apid ctid payload : List UInt8) :
    Option (List UInt8) :=
  if client.sock < 0 then none
  else
    let size := payload.length
    match env.malloc size with
    | none => none
    | some fresh =>
        let msg := { dltMessageInit env.memory with
          datasize := i32 size
          databuffer := some (overwrite ((List.range size).map fresh) 0 payload)
          databuffersize := i32 size }
        let msg := ctrlHeaders env client apid ctid msg
        let len := i32 (msg.headersize - sizeofDltStorageHeader + msg.datasize)
        if len > 65535 then none
        else
          let msg := { msg with
            headerbuffer := overwrite msg.headerbuffer (sizeofDltStorageHeader + 2)
              (leBytes 2 (dltHtobe16 (u32 len))) }
          if client.mode = .tcp ∨ client.mode = .serial then
            writeBlocks env.written (ctrlBlocks client msg)
          else dltClientSendMessageToSocket env client msg

/-! ## The requests -/

/-- Source: `dlt_common.h`, `DltServiceGetLogInfoRequest` -/
structure GetLogInfoRequest where
  serviceId : UInt32
  options : UInt8
  apid : Id4
  ctid : Id4
  com : Id4
deriving DecidableEq

/-- The layout of `DltServiceGetLogInfoRequest`. -/
def serviceGetLogInfoRequestLayout : Layout GetLogInfoRequest :=
  (uint32.prod (uint8.prod (idLayout.prod (idLayout.prod idLayout)))).map
    (fun p => ⟨p.1, p.2.1, p.2.2.1, p.2.2.2.1, p.2.2.2.2⟩)
    (fun p => (p.serviceId, p.options, p.apid, p.ctid, p.com)) fun _ => rfl

/-- Source: `DltServiceSetVerboseMode` -/
structure DltServiceSetVerboseMode where
  serviceId : UInt32
  newStatus : UInt8
deriving DecidableEq

/-- The layout of `DltServiceSetVerboseMode`. -/
def serviceSetVerboseModeLayout : Layout DltServiceSetVerboseMode :=
  (uint32.prod uint8).map (fun p => ⟨p.1, p.2⟩) (fun p => (p.serviceId, p.newStatus))
    fun _ => rfl

/-- The communication interface of a request: `remo`. -/
def remo : Id4 := dltSetId (ascii "remo")

section requests

variable (env : CtrlEnv) (client : DltClient)

/-- A request with the ids `APP` and `CON`, if there is memory for it. -/
def sendRequest {α : Type} (layout : Layout α) (req : α) : Option (List UInt8) :=
  if env.request then dltClientSendCtrlMsg env client (ascii "APP") (ascii "CON") (layout.encode req)
  else none

/-- A request without ids, if there is memory for it. -/
def sendQuery {α : Type} (layout : Layout α) (req : α) : Option (List UInt8) :=
  if env.request then dltClientSendCtrlMsg env client [] [] (layout.encode req) else none

/-- Source: `dlt_client.c`, `dlt_client_send_log_level` -/
def dltClientSendLogLevel (apid ctid : List UInt8) (logLevel : UInt8) : Option (List UInt8) :=
  sendRequest env client serviceSetLogLevelLayout
    ⟨UInt32.ofNat dltServiceIdSetLogLevel, dltSetId apid, dltSetId ctid, logLevel, remo⟩

/-- Source: `dlt_client_send_trace_status` -/
def dltClientSendTraceStatus (apid ctid : List UInt8) (traceStatus : UInt8) : Option (List UInt8) :=
  sendRequest env client serviceSetLogLevelLayout
    ⟨UInt32.ofNat dltServiceIdSetTraceStatus, dltSetId apid, dltSetId ctid, traceStatus, remo⟩

/-- Source: `dlt_client_send_default_log_level` -/
def dltClientSendDefaultLogLevel (defaultLogLevel : UInt8) : Option (List UInt8) :=
  sendRequest env client serviceSetDefaultLogLevelLayout
    ⟨UInt32.ofNat dltServiceIdSetDefaultLogLevel, defaultLogLevel, remo⟩

/-- Source: `dlt_client_send_all_log_level` -/
def dltClientSendAllLogLevel (logLevel : UInt8) : Option (List UInt8) :=
  sendRequest env client serviceSetDefaultLogLevelLayout
    ⟨UInt32.ofNat dltServiceIdSetAllLogLevel, logLevel, remo⟩

/-- Source: `dlt_client_send_default_trace_status` -/
def dltClientSendDefaultTraceStatus (defaultTraceStatus : UInt8) : Option (List UInt8) :=
  sendRequest env client serviceSetDefaultLogLevelLayout
    ⟨UInt32.ofNat dltServiceIdSetDefaultTraceStatus, defaultTraceStatus, remo⟩

/-- Source: `dlt_client_send_all_trace_status` -/
def dltClientSendAllTraceStatus (traceStatus : UInt8) : Option (List UInt8) :=
  sendRequest env client serviceSetDefaultLogLevelLayout
    ⟨UInt32.ofNat dltServiceIdSetAllTraceStatus, traceStatus, remo⟩

/-- Source: `dlt_client_send_timing_pakets` -/
def dltClientSendTimingPakets (timingPakets : UInt8) : Option (List UInt8) :=
  sendRequest env client serviceSetVerboseModeLayout
    ⟨UInt32.ofNat dltServiceIdSetTimingPackets, timingPakets⟩

/-- The request is a local variable. Source: `dlt_client_send_store_config` -/
def dltClientSendStoreConfig : Option (List UInt8) :=
  dltClientSendCtrlMsg env client (ascii "APP") (ascii "CON")
    (uint32.encode (UInt32.ofNat dltServiceIdStoreConfig))

/-- The request is a local variable.
Source: `dlt_client_send_reset_to_factory_default` -/
def dltClientSendResetToFactoryDefault : Option (List UInt8) :=
  dltClientSendCtrlMsg env client (ascii "APP") (ascii "CON")
    (uint32.encode (UInt32.ofNat dltServiceIdResetToFactoryDefault))

/-- Source: `dlt_client_get_log_info` -/
def dltClientGetLogInfo : Option (List UInt8) :=
  sendQuery env client serviceGetLogInfoRequestLayout
    ⟨UInt32.ofNat dltServiceIdGetLogInfo, 7, dltSetId [], dltSetId [], remo⟩

/-- Source: `dlt_client_get_default_log_level` -/
def dltClientGetDefaultLogLevel : Option (List UInt8) :=
  sendQuery env client uint32 (UInt32.ofNat dltServiceIdGetDefaultLogLevel)

/-- Source: `dlt_client_get_software_version` -/
def dltClientGetSoftwareVersion : Option (List UInt8) :=
  sendQuery env client uint32 (UInt32.ofNat dltServiceIdGetSoftwareVersion)

/-- Source: `dlt_client_send_inject_msg` -/
def dltClientSendInjectMsg (apid ctid : List UInt8) (serviceID : UInt32) (buffer : List UInt8) :
    Option (List UInt8) :=
  if env.request then
    let payload := leBytes 4 serviceID.toNat ++ leBytes 4 (u32 buffer.length) ++ buffer
    dltClientSendCtrlMsg env client apid ctid (payload.take (u32 (4 + 4 + buffer.length)))
  else none

end requests

/-- A request as the caller asks for it. -/
inductive ClientRequest
  | logLevel (apid ctid : List UInt8) (level : UInt8)
  | traceStatus (apid ctid : List UInt8) (status : UInt8)
  | defaultLogLevel (level : UInt8)
  | allLogLevel (level : UInt8)
  | defaultTraceStatus (status : UInt8)
  | allTraceStatus (status : UInt8)
  | timingPakets (status : UInt8)
  | storeConfig
  | resetToFactoryDefault
  | getLogInfo
  | getDefaultLogLevel
  | getSoftwareVersion
  /-- Data for the application with a context. -/
  | injectMsg (apid ctid : List UInt8) (serviceID : UInt32) (buffer : List UInt8)

def ClientRequest.send (env : CtrlEnv) (client : DltClient) : ClientRequest → Option (List UInt8)
  | .logLevel apid ctid level => dltClientSendLogLevel env client apid ctid level
  | .traceStatus apid ctid status => dltClientSendTraceStatus env client apid ctid status
  | .defaultLogLevel level => dltClientSendDefaultLogLevel env client level
  | .allLogLevel level => dltClientSendAllLogLevel env client level
  | .defaultTraceStatus status => dltClientSendDefaultTraceStatus env client status
  | .allTraceStatus status => dltClientSendAllTraceStatus env client status
  | .timingPakets status => dltClientSendTimingPakets env client status
  | .storeConfig => dltClientSendStoreConfig env client
  | .resetToFactoryDefault => dltClientSendResetToFactoryDefault env client
  | .getLogInfo => dltClientGetLogInfo env client
  | .getDefaultLogLevel => dltClientGetDefaultLogLevel env client
  | .getSoftwareVersion => dltClientGetSoftwareVersion env client
  | .injectMsg apid ctid serviceID buffer => dltClientSendInjectMsg env client apid ctid serviceID buffer

end Dlt.Control
