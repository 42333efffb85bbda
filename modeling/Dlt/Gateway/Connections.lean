import Dlt.Daemon.EventHandler
import Dlt.Daemon.GetLogInfo
import Dlt.Daemon.Levels

/-!
# The passive nodes of a gateway

* `dltGatewayForwardControlMessage`, `dltGatewayProcessOnDemandRequest`,
  `dltGatewayParseGetDefaultLogLevel`, `dltDaemonLogstorageUpdatePassiveNodeContext` — what is done for a
  node.
-/

namespace Dlt.Gateway

open Dlt.Lib Dlt.Shared Dlt.Daemon

/-! ## Data -/

/-- Source: `dlt_gateway_types.h`, `connection_status` -/
inductive ConnectionStatus
  /-- `DLT_GATEWAY_UNINITIALIZED`. -/
  | uninitialized
  /-- `DLT_GATEWAY_INITIALIZED`. -/
  | initialized
  /-- `DLT_GATEWAY_CONNECTED`. -/
  | connected
  /-- `DLT_GATEWAY_DISCONNECTED`. -/
  | disconnected
deriving DecidableEq, Repr

/-- Source: `connection_trigger` -/
inductive ConnectionTrigger
  /-- `DLT_GATEWAY_UNDEFINED`. -/
  | undefined
  /-- `DLT_GATEWAY_ON_STARTUP`. -/
  | onStartup
  /-- `DLT_GATEWAY_ON_DEMAND`. -/
  | onDemand
  /-- `DLT_GATEWAY_DISABLED`. -/
  | disabled
deriving DecidableEq, Repr

/-- Source: `control_msg_trigger` -/
inductive ControlMsgTrigger
  /-- `CONTROL_MESSAGE_UNDEFINED`. -/
  | undefined
  /-- `CONTROL_MESSAGE_ON_STARTUP`. -/
  | onStartup
  /-- `CONTROL_MESSAGE_PERIODIC`. -/
  | periodic
  /-- `CONTROL_MESSAGE_BOTH`. -/
  | both
  /-- `CONTROL_MESSAGE_ON_DEMAND`. -/
  | onDemand
deriving DecidableEq, Repr

/-- A control message for a node. Source: `DltPassiveControlMessage` -/
structure DltPassiveControlMessage where
  id : ℕ
  type : ControlMsgTrigger
  /-- `CONTROL_MESSAGE_REQUESTED`. -/
  req : Bool
  interval : ℤ
deriving DecidableEq, Repr

/-- A passive node. Source: `DltGatewayConnection` -/
structure DltGatewayConnection where
  status : ConnectionStatus
  ecuid : List UInt8
  trigger : ConnectionTrigger
  timeoutCnt : ℤ
  /-- The attempts to connect again. -/
  reconnectCnt : ℤ
  sendtime : ℤ
  sendtimeCnt : ℤ
  pControlMsgs : List DltPassiveControlMessage
  /-- The serial header is sent with control messages. -/
  sendSerial : Bool
  /-- `client.sock`. -/
  sock : ℤ
  defaultLogLevel : ℤ
deriving DecidableEq, Repr

inductive NodeMessage
  | serialHeader
  | part (bytes : List UInt8)
  /-- `dlt_client_get_log_info`. -/
  | getLogInfo
  /-- `dlt_client_get_default_log_level`. -/
  | getDefaultLogLevel
  /-- `dlt_client_get_software_version`. -/
  | getSoftwareVersion
  /-- `dlt_client_send_log_level`. -/
  | sendLogLevel (apid ctid : Id4) (logLevel : UInt8)
deriving DecidableEq

/-- The gateway and the event handler of the daemon. -/
structure GatewayState where
  /-- `pGateway.connections`. -/
  connections : List DltGatewayConnection
  /-- `pEvent`. -/
  pEvent : DltEventHandler
  /-- `client_connections`. -/
  clientConnections : ℤ
  /-- What was sent to the node at a position of the table, the last message first. -/
  sent : List (ℕ × NodeMessage)
  /-- Whether the next messages are sent without an error. -/
  sends : ℕ → Bool

/-! ## Searches -/

/-- The loop. `con` is the last connection looked at.
Source: `dlt_gateway.c`, `dlt_gateway_get_connection` -/
def getConnectionFrom (ecu : Id4) : List DltGatewayConnection → ℕ → Option ℕ → Option ℕ
  | [], _, con => con
  | c :: rest, i, _ =>
    if strncmpEq (dltSetId c.ecuid) ecu then some i else getConnectionFrom ecu rest (i + 1) (some i)

/-- The position of the connection. Source: `dlt_gateway_get_connection` -/
def dltGatewayGetConnection (connections : List DltGatewayConnection) (ecu : Id4) : Option ℕ :=
  getConnectionFrom ecu connections 0 none

/-- `strncmp(connections[i].ecuid, ecu, strlen(connections[i].ecuid)) == 0`, for a name of at most four
bytes. Source: `dlt_gateway_forward_control_message` -/
def connectionByPrefix (connections : List DltGatewayConnection) (ecu : Id4) : Option ℕ :=
  connections.findIdx? fun c => strncmp (c.ecuid ++ [0]) ecu.bytes c.ecuid.length = 0

/-- `strncmp(node_id, connections[i].ecuid, DLT_ID_SIZE) == 0`.
Source: `dlt_gateway_process_on_demand_request` -/
def connectionByNodeId (connections : List DltGatewayConnection) (nodeId : Id4) : Option ℕ :=
  connections.findIdx? fun c => strncmpEq nodeId (dltSetId c.ecuid)

/-! ## Sending -/

namespace GatewayState

/-- A message is sent to the node at a position. -/
def send (s : GatewayState) (i : ℕ) (message : NodeMessage) : GatewayState × Bool :=
  ({ s with sent := (i, message) :: s.sent, sends := fun n => s.sends (n + 1) }, s.sends 0)

/-- The node at a position changes. -/
def modify (s : GatewayState) (i : ℕ) (f : DltGatewayConnection → DltGatewayConnection) : GatewayState :=
  { s with connections := s.connections.modify i f }

end GatewayState

/-- Parts are sent one after the other, up to the first that fails. -/
def sendAll (i : ℕ) : List NodeMessage → GatewayState → GatewayState × ℤ
  | [], s => (s, dltReturnOk)
  | message :: rest, s =>
    let result := s.send i message
    if result.2 then sendAll i rest result.1 else (result.1, dltReturnError)

def serialHeaderPart (con : DltGatewayConnection) : List NodeMessage :=
  if con.sendSerial then [.serialHeader] else []

/-- The connection is given by its position. `header` is the message without its storage header and its
payload. Source: `dlt_gateway_forward_control_message` -/
def dltGatewayForwardControlMessage (ecu : Id4) (header databuffer : List UInt8) (s : GatewayState) :
    GatewayState × ℤ :=
  match connectionByPrefix s.connections ecu with
  | none => (s, dltReturnError)
  | some i =>
    match s.connections[i]? with
    | none => (s, dltReturnError)
    | some con =>
      if con.status ≠ .connected then (s, dltReturnError)
      else sendAll i (serialHeaderPart con ++ [.part header, .part databuffer]) s

/-- `DLT_SERVICE_ID_GET_DEFAULT_LOG_LEVEL`. Source: `dlt_protocol.h` -/
def dltServiceIdGetDefaultLogLevel : ℕ := 0x04

/-- `DLT_SERVICE_ID_GET_SOFTWARE_VERSION`. Source: `dlt_protocol.h` -/
def dltServiceIdGetSoftwareVersion : ℕ := 0x13

/-- The message for a service. `none`: there is none for it.
Source: `dlt_gateway.c`, `dlt_gateway_send_control_message` -/
def serviceMessage (id : ℕ) (data : Option (Id4 × Id4 × UInt8)) : Option (List NodeMessage) :=
  if id = dltServiceIdGetLogInfo then some [.getLogInfo]
  else if id = dltServiceIdGetDefaultLogLevel then some [.getDefaultLogLevel]
  else if id = dltServiceIdGetSoftwareVersion then some [.getSoftwareVersion]
  else if id = dltServiceIdSetLogLevel then
    data.map fun (apid, ctid, logLevel) => [.sendLogLevel (dltSetId apid.bytes) (dltSetId ctid.bytes) logLevel]
  else some []

/-- It is not the time for a control message.
Source: `dlt_gateway_send_control_message` -/
def notDue (con : DltGatewayConnection) (controlMsg : DltPassiveControlMessage) : Bool :=
  controlMsg.type ≠ .onDemand && con.sendtimeCnt > 0 &&
    (controlMsg.interval ≤ 0 ||
      (controlMsg.type = .periodic || controlMsg.type = .both) &&
        (con.sendtimeCnt - 1) % controlMsg.interval ≠ 0)

/-- `data` are the ids and the level of `DLT_SERVICE_ID_SET_LOG_LEVEL`.
Source: `dlt_gateway_send_control_message` -/
def dltGatewaySendControlMessage (i : ℕ) (controlMsg : DltPassiveControlMessage)
    (data : Option (Id4 × Id4 × UInt8)) (s : GatewayState) : GatewayState × ℤ :=
  match s.connections[i]? with
  | none => (s, dltReturnWrongParameter)
  | some con =>
    if controlMsg.id = 0 ∨ notDue con controlMsg then (s, dltReturnError)
    else
      let result := sendAll i (serialHeaderPart con) s
      if result.2 ≠ dltReturnOk then result
      else
        match serviceMessage controlMsg.id data with
        | none => (result.1, dltReturnError)
        | some messages => sendAll i messages result.1

/-! ## Requests -/

/-- The level of a node is set. The connection is given by its position.
Source: `dlt_daemon_offline_logstorage.c`, `dlt_daemon_logstorage_update_passive_node_context` -/
def dltDaemonLogstorageUpdatePassiveNodeContext (apid ctid ecuid : Id4) (loglevel : ℤ) (s : GatewayState) :
    GatewayState × ℤ :=
  if loglevel > 6 ∨ loglevel < -1 then (s, dltReturnWrongParameter)
  else
    match dltGatewayGetConnection s.connections ecuid with
    | none => (s, dltReturnError)
    | some i =>
      let ctrl : DltPassiveControlMessage :=
        { id := dltServiceIdSetLogLevel, type := .onDemand, req := false, interval := 0 }
      let req := (dltSetId apid.bytes, dltSetId ctid.bytes, UInt8.ofNat (loglevel % 256).toNat)
      let result := dltGatewaySendControlMessage i ctrl (some req) s
      if result.2 ≠ 0 then (result.1, dltReturnError) else (result.1, dltReturnOk)

/-- The size of `DltServiceGetDefaultLogLevelResponse`. Source: `dlt_common.h` -/
def sizeofGetDefaultLogLevelResponse : ℕ := 6

/-- Source: `dlt_gateway.c`, `dlt_gateway_parse_get_default_log_level` -/
def dltGatewayParseGetDefaultLogLevel (ecu : Id4) (databuffer : List UInt8) (s : GatewayState) :
    GatewayState × ℤ :=
  if databuffer.length < sizeofGetDefaultLogLevelResponse then (s, dltReturnError)
  else
    match dltGatewayGetConnection s.connections ecu with
    | none => (s, dltReturnError)
    | some i =>
      (s.modify i fun con => { con with defaultLogLevel := (databuffer.getD 5 0).toNat }, dltReturnOk)

/-! ## Connecting on demand -/

/-- `grown`: the array of the event handler can be made larger.
Source: `dlt_daemon_connection.c`, `dlt_connection_create` -/
def dltConnectionCreate (grown : Bool) (fd : ℤ) (mask : ℕ) (type : DltConnectionType) (s : GatewayState) :
    GatewayState :=
  if fd < 0 ∨ (dltEventHandlerFindConnection s.pEvent fd).isSome then s
  else
    let registered := dltEventHandlerRegisterConnection grown s.pEvent s.clientConnections fd type mask
    { s with pEvent := registered.1, clientConnections := registered.2 }

/-- The loop over the control messages from the position `k` on: the messages for the start are sent, and
the intervals are multiplied. Source: `dlt_gateway.c`, `dlt_gateway_add_to_event_loop` -/
def sendStartup (i : ℕ) : List DltPassiveControlMessage → ℕ → ℤ → GatewayState → GatewayState × ℤ
  | [], _, sendtime, s => (s, sendtime)
  | controlMsg :: rest, k, sendtime, s =>
    let s :=
      if controlMsg.type = .onStartup ∨ controlMsg.type = .both then
        let result := dltGatewaySendControlMessage i controlMsg none s
        if result.2 = dltReturnOk then
          result.1.modify i fun con =>
            { con with pControlMsgs := con.pControlMsgs.modify k fun m => { m with req := true } }
        else result.1
      else s
    let sendtime :=
      if (controlMsg.type = .periodic ∨ controlMsg.type = .both) ∧ controlMsg.interval > 0 then
        sendtime * controlMsg.interval
      else sendtime
    sendStartup i rest (k + 1) sendtime s

/-- `POLLIN`. -/
def pollin : ℕ := 1

/-- Source: `dlt_gateway_add_to_event_loop` -/
def dltGatewayAddToEventLoop (grown : Bool) (i : ℕ) (s : GatewayState) : GatewayState :=
  let s := s.modify i fun con =>
    { con with status := .connected, reconnectCnt := 0, timeoutCnt := 0, sendtimeCnt := 0 }
  match s.connections[i]? with
  | none => s
  | some con =>
    let s := dltConnectionCreate grown con.sock pollin .gateway s
    let result := sendStartup i con.pControlMsgs 0 1 s
    result.1.modify i fun con => { con with sendtime := result.2, sendtimeCnt := result.2 }

/-- What connecting to a node gives. Source: `dlt_client.c`, `dlt_client_connect` -/
structure ConnectResult where
  /-- `client->sock` afterwards. -/
  sock : ℤ
  /-- The result is `0`. -/
  ok : Bool

/-- The connection is given by its position.
Source: `dlt_gateway.c`, `dlt_gateway_process_on_demand_request` -/
def dltGatewayProcessOnDemandRequest (grown : Bool) (connect : ConnectResult) (nodeId : Id4)
    (connectionStatus : ℤ) (s : GatewayState) : GatewayState × ℤ :=
  match connectionByNodeId s.connections nodeId with
  | none => (s, dltReturnError)
  | some i =>
    match s.connections[i]? with
    | none => (s, dltReturnError)
    | some con =>
      if connectionStatus = 1 then
        if con.status ≠ .connected then
          let s := s.modify i fun con => { con with sock := connect.sock }
          if connect.ok then (dltGatewayAddToEventLoop grown i s, dltReturnOk) else (s, dltReturnError)
        else (s, dltReturnOk)
      else if connectionStatus = 0 then
        let s := s.modify i fun con => { con with status := .disconnected, trigger := .onDemand }
        let left := dltEventHandlerUnregisterConnection s.pEvent s.clientConnections con.sock
        ({ s with pEvent := left.1.1, clientConnections := left.1.2 }, dltReturnOk)
      else (s, dltReturnError)

end Dlt.Gateway
