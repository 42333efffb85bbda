import Dlt.Daemon.EventHandler
import Dlt.Daemon.Levels

/-!
# Sending to clients

* `dltDaemonClientSend` — a message for one client, for all of them, or for the ring buffer. It calls
  itself through the messages that it sends; the number of nested calls is bounded by fuel.
-/

namespace Dlt.Daemon

open Dlt.Lib Dlt.Shared

/-! ## Writing -/

/-- What a call of `send` or `write` gives. -/
inductive IoResult
  /-- `-1`. -/
  | error
  /-- So many bytes and one more are written, or all if there are no more. -/
  | wrote (n : ℕ)
deriving DecidableEq, Repr

structure Written where
  bytes : List UInt8
  ret : ℤ
  /-- The number of calls made so far. -/
  calls : ℕ
deriving DecidableEq, Repr

/-- `DLT_DAEMON_ERROR_OK`. Source: `dlt-daemon.h` -/
abbrev dltDaemonErrorOk : ℤ := 0

/-- `DLT_DAEMON_ERROR_UNKNOWN`. Source: `dlt-daemon.h` -/
abbrev dltDaemonErrorUnknown : ℤ := -1

/-- `DLT_DAEMON_ERROR_BUFFER_FULL`. Source: `dlt-daemon.h` -/
abbrev dltDaemonErrorBufferFull : ℤ := -2

/-- `DLT_DAEMON_ERROR_SEND_FAILED`. Source: `dlt-daemon.h` -/
abbrev dltDaemonErrorSendFailed : ℤ := -3

/-- The next part is sent if everything before it was sent. -/
def Written.andThen (w : Written) (next : ℕ → Written) : Written :=
  if w.ret = dltDaemonErrorOk then
    let n := next w.calls
    { n with bytes := w.bytes ++ n.bytes }
  else w

def sendParts (send : ℕ → List UInt8 → Written) : List (List UInt8) → Written → Written
  | [], w => w
  | part :: parts, w => sendParts send parts (w.andThen fun calls => send calls part)

/-- The loop, for at most `k` bytes. `send` writes at least one byte or fails.
Source: `dlt_daemon_socket.c`, `dlt_daemon_socket_sendreliable` -/
def sendreliableFrom (results : ℕ → IoResult) : ℕ → ℕ → List UInt8 → Written
  | 0, calls, _ => { bytes := [], ret := dltDaemonErrorOk, calls }
  | k + 1, calls, data =>
    if data = [] then { bytes := [], ret := dltDaemonErrorOk, calls }
    else
      match results calls with
      | .error => { bytes := [], ret := dltDaemonErrorSendFailed, calls := calls + 1 }
      | .wrote n =>
        let rest := sendreliableFrom results k (calls + 1) (data.drop (n + 1))
        { rest with bytes := data.take (n + 1) ++ rest.bytes }

/-- Source: `dlt_daemon_socket_sendreliable` -/
def dltDaemonSocketSendreliable (results : ℕ → IoResult) (calls : ℕ) (data : List UInt8) : Written :=
  sendreliableFrom results data.length calls data

/-- One call of `write`, of which the return value is looked at in two ways: `positive`, it has to write
something. -/
def writeOnce (positive : Bool) (error : ℤ) (results : ℕ → IoResult) (calls : ℕ) (data : List UInt8) :
    Written :=
  match results calls with
  | .error => { bytes := [], ret := error, calls := calls + 1 }
  | .wrote n =>
    let bytes := data.take (n + 1)
    { bytes, ret := if positive ∧ bytes = [] then error else dltDaemonErrorOk, calls := calls + 1 }

/-- Source: `dlt_daemon_connection.c`, `dlt_connection_send` -/
def dltConnectionSend (type : DltConnectionType) (results : ℕ → IoResult) (calls : ℕ)
    (data : List UInt8) : Written :=
  match type with
  | .clientMsgSerial => writeOnce true dltDaemonErrorUnknown results calls data
  | .clientMsgTcp => dltDaemonSocketSendreliable results calls data
  | _ => { bytes := [], ret := dltDaemonErrorUnknown, calls }

/-- The serial header, if it is configured. -/
def headerPart (serialheader : Bool) : List (List UInt8) := if serialheader then [dltSerialHeader] else []

/-- A part that is a null pointer is not sent.
Source: `dlt_connection_send_multiple` -/
def dltConnectionSendMultiple (type : DltConnectionType) (results : ℕ → IoResult) (serialheader : Bool)
    (data1 data2 : Option (List UInt8)) : Written :=
  sendParts (dltConnectionSend type results) (headerPart serialheader ++ data1.toList ++ data2.toList)
    { bytes := [], ret := dltDaemonErrorOk, calls := 0 }

/-- A part that is a null pointer or empty is not sent.
Source: `dlt_daemon_socket.c`, `dlt_daemon_socket_send` -/
def dltDaemonSocketSend (results : ℕ → IoResult) (serialheader : Bool)
    (data1 data2 : Option (List UInt8)) : Written :=
  sendParts (dltDaemonSocketSendreliable results)
    (headerPart serialheader ++ (data1.toList ++ data2.toList).filter (· ≠ []))
    { bytes := [], ret := dltDaemonErrorOk, calls := 0 }

/-- Only an error is looked at. Source: `dlt_daemon_serial.c`, `dlt_daemon_serial_send` -/
def dltDaemonSerialSend (results : ℕ → IoResult) (serialheader : Bool)
    (data1 data2 : Option (List UInt8)) : Written :=
  sendParts (writeOnce false dltDaemonErrorSendFailed results)
    (headerPart serialheader ++ (data1.toList ++ data2.toList).filter (· ≠ []))
    { bytes := [], ret := dltDaemonErrorOk, calls := 0 }

/-! ## The state -/

/-- A message that was sent to a client. -/
structure ClientWrite where
  /-- Messages that are sent together have one number. -/
  call : ℕ
  fd : ℤ
  serialheader : Bool
  data1 : Option (List UInt8)
  data2 : Option (List UInt8)
  written : List UInt8
  ret : ℤ
deriving DecidableEq, Repr

/-- The operations of the ring buffer. -/
structure RingOps (Buf : Type) where
  /-- `dlt_buffer_push3`, with no third part. -/
  push3 : Buf → List UInt8 → List UInt8 → Buf × ℤ

/-- What does not change while the daemon runs. -/
structure ClientsEnv (Buf : Type) where
  /-- A serial device is configured: `flags.yvalue[0] != 0`. -/
  yvalue : Bool
  /-- `getpid()`. -/
  pid : ℕ
  /-- What `dlt_uptime` gives, call by call. -/
  uptime : ℕ → ℕ
  ring : RingOps Buf

/-- The daemon and its clients. Allocating the memory of a message succeeds, and what is also written to
an offline trace or a logstorage device is left out. -/
structure ClientsState (Buf : Type) where
  daemon : DltDaemon Buf
  /-- `daemon->connectionState`. -/
  connectionState : Bool
  /-- `daemon_local->pEvent`. -/
  pEvent : DltEventHandler
  /-- `daemon_local->client_connections`. -/
  clientConnections : ℤ
  /-- `uiMsgCount` of `dlt_daemon_log_internal`. -/
  uiMsgCount : ℕ
  /-- The number of calls of `dlt_uptime`. -/
  ticks : ℕ
  /-- What the next writes to applications give. -/
  userWrites : ℕ → WriteOutcome
  /-- What the calls for the messages to a descriptor give: message by message, and call by call. -/
  results : ℤ → ℕ → ℕ → IoResult
  /-- The number of messages sent to a descriptor. -/
  messages : ℤ → ℕ
  /-- The bytes that the other end of a descriptor received. -/
  received : ℤ → List UInt8
  /-- The messages that were sent, the last one first. -/
  sends : List ClientWrite
  /-- The number of messages: those for several clients are one. -/
  calls : ℕ

/-- Where a message goes. Source: `dlt-daemon.h`, `DLT_DAEMON_SEND_TO_ALL` -/
inductive Sock
  /-- `DLT_DAEMON_SEND_TO_ALL`. -/
  | toAll
  /-- `DLT_DAEMON_SEND_FORCE`. -/
  | force
  | fd (sock : ℤ)
deriving DecidableEq, Repr

variable {Buf : Type}

namespace ClientsState

/-- What the calls for the next message to a descriptor give. A descriptor that is closed gives `EBADF`. -/
def nextResults (s : ClientsState Buf) (fd : ℤ) : ℕ → IoResult :=
  match dltEventHandlerFindConnection s.pEvent fd with
  | some _ => s.results fd (s.messages fd)
  | none => fun _ => .error

/-- A message was sent to a descriptor. -/
def record (s : ClientsState Buf) (call : ℕ) (fd : ℤ) (data1 data2 : Option (List UInt8)) (w : Written) :
    ClientsState Buf :=
  { s with
    messages := fun fd' => if fd' = fd then s.messages fd + 1 else s.messages fd'
    received := fun fd' => if fd' = fd then s.received fd ++ w.bytes else s.received fd'
    sends :=
      { call, fd, serialheader := s.daemon.sendserialheader, data1, data2, written := w.bytes
        ret := w.ret } :: s.sends }

/-- `isatty`: the only terminal is the serial device. Source: `dlt-daemon.c`, `dlt_daemon_init_serial` -/
def isatty (s : ClientsState Buf) (fd : ℤ) : Bool :=
  (dltEventHandlerFindConnection s.pEvent fd).any fun con => con.type = .clientMsgSerial

/-- `dlt_uptime`. -/
def tick (s : ClientsState Buf) : ClientsState Buf := { s with ticks := s.ticks + 1 }

end ClientsState

/-! ## Messages of the daemon -/

/-- `DLT_DAEMON_CTRL_APID`. Source: `dlt_daemon_common_cfg.h` -/
def dltDaemonCtrlApid : List UInt8 := ascii "DA1"

/-- `DLT_DAEMON_CTRL_CTID`. Source: `dlt_daemon_common_cfg.h` -/
def dltDaemonCtrlCtid : List UInt8 := ascii "DC1"

/-- The headers of a control message behind the storage header.
Source: `dlt_daemon_client.c`, `dlt_daemon_client_send_control_message` -/
def controlHeader (ecuid : Id4) (tmsp : ℕ) (datasize : ℕ) : List UInt8 :=
  [0x35, 0] ++ beBytes 2 (22 + datasize) ++ ecuid.bytes ++ beBytes 4 tmsp ++ [0x26, 1] ++
    (dltSetId dltDaemonCtrlApid).bytes ++ (dltSetId dltDaemonCtrlCtid).bytes

/-- `DLT_SERVICE_ID_CONNECTION_INFO`. Source: `dlt_protocol.h` -/
def dltServiceIdConnectionInfo : ℕ := 0xf02

/-- `DLT_SERVICE_ID_MESSAGE_BUFFER_OVERFLOW`. Source: `dlt_protocol.h` -/
def dltServiceIdMessageBufferOverflow : ℕ := 0x14

/-- `DLT_CONNECTION_STATUS_DISCONNECTED`. Source: `dlt_protocol.h` -/
def dltConnectionStatusDisconnected : UInt8 := 1

/-- `DltServiceConnectionInfo`, without a communication interface.
Source: `dlt_daemon_client.c`, `dlt_daemon_control_message_connection_info` -/
def connectionInfo (state : UInt8) : List UInt8 :=
  leBytes 4 dltServiceIdConnectionInfo ++ [0, state] ++ (dltSetId []).bytes

/-- `DltServiceMessageBufferOverflowResponse`.
Source: `dlt_daemon_control_message_buffer_overflow` -/
def bufferOverflow (overflowCounter : ℕ) : List UInt8 :=
  leBytes 4 dltServiceIdMessageBufferOverflow ++ [0, 1] ++ leBytes 4 overflowCounter

/-- The payload of an internal message: a text argument.
Source: `dlt-daemon.c`, `dlt_daemon_log_internal` -/
def internalPayload (str : List UInt8) : List UInt8 :=
  leBytes 4 0x200 ++ leBytes 2 (str.length + 1) ++ str ++ [0]

/-- The headers of an internal message behind the storage header.
Source: `dlt_daemon_log_internal` -/
def internalHeader (ecuid : Id4) (uiMsgCount pid tmsp datasize : ℕ) : List UInt8 :=
  [0x3d, UInt8.ofNat uiMsgCount] ++ beBytes 2 (26 + datasize) ++ ecuid.bytes ++ beBytes 4 pid ++
    beBytes 4 tmsp ++ [0x41, 1] ++ (dltSetId (ascii "DLTD")).bytes ++ (dltSetId (ascii "INTM")).bytes

/-- Source: `dlt_daemon_close_socket` -/
def closedText (sock clientConnections : ℤ) : List UInt8 :=
  ascii "Client connection #" ++ printDecimal sock ++ ascii " closed. Total Clients : " ++
    printDecimal clientConnections

section send

/-! ## What is sent by sending -/

variable (env : ClientsEnv Buf)
  (send : Sock → Option (List UInt8) → Option (List UInt8) → ClientsState Buf → Option (ClientsState Buf × ℤ))

/-- A control message is sent. None of the messages of the daemon is too long.
Source: `dlt_daemon_client.c`, `dlt_daemon_client_send_control_message` -/
def dltDaemonClientSendControlMessage (sock : Sock) (databuffer : List UInt8) (s : ClientsState Buf) :
    Option (ClientsState Buf × ℤ) :=
  send sock (some (controlHeader s.daemon.ecuid (env.uptime s.ticks) databuffer.length)) (some databuffer)
    s.tick

/-- Source: `dlt-daemon.c`, `dlt_daemon_log_internal` -/
def dltDaemonLogInternal (str : List UInt8) (s : ClientsState Buf) : Option (ClientsState Buf) := do
  let payload := internalPayload str
  let header := internalHeader s.daemon.ecuid s.uiMsgCount env.pid (env.uptime s.ticks) payload.length
  let (s, _) ← send .toAll (some header) (some payload) { s.tick with uiMsgCount := s.uiMsgCount + 1 }
  pure s

/-- Source: `dlt_daemon_common.c`, `dlt_daemon_user_send_log_state` -/
def dltDaemonUserSendLogState (l i : ℕ) (handle : ℤ) (s : ClientsState Buf) : ClientsState Buf :=
  let write := s.userWrites 0
  let s := { s with userWrites := fun n => s.userWrites (n + 1) }
  match write with
  | .epipe => { s with daemon := dltDaemonApplicationResetUserHandle s.daemon l i handle }
  | _ => s

/-- The loop over the applications. Source: `dlt_daemon_user_send_all_log_state` -/
def sendAllLogState (l : ℕ) : List ℕ → ClientsState Buf → ClientsState Buf
  | [], s => s
  | i :: rest, s =>
    let application := (s.daemon.userList[l]?).bind fun users => users.applications[i]?
    let s :=
      match application with
      | some application =>
          if application.userHandle ≥ dltFdMinimum then
            dltDaemonUserSendLogState l i application.userHandle s
          else s
      | none => s
    sendAllLogState l rest s

/-- Source: `dlt_daemon_user_send_all_log_state` -/
def dltDaemonUserSendAllLogState (s : ClientsState Buf) : ClientsState Buf :=
  match dltDaemonFindUsersList s.daemon s.daemon.ecuid with
  | none => s
  | some l =>
    match s.daemon.userList[l]? with
    | none => s
    | some users => sendAllLogState l (List.range users.numApplications) s

/-- Source: `dlt_daemon_change_state` -/
def dltDaemonChangeState (newState : DltDaemonState) (s : ClientsState Buf) : ClientsState Buf :=
  { s with daemon := { s.daemon with state := newState } }

/-- The connection is unregistered, and with the last client the daemon changes to the buffer state.
Source: `dlt-daemon.c`, `dlt_daemon_close_socket` -/
def unregisterSocket (sock : ℤ) (s : ClientsState Buf) : ClientsState Buf :=
  let left := dltEventHandlerUnregisterConnection s.pEvent s.clientConnections sock
  let s := { s with pEvent := left.1.1, clientConnections := left.1.2 }
  if s.clientConnections = 0 then
    let s := dltDaemonUserSendAllLogState { s with connectionState := false }
    if env.yvalue then s else dltDaemonChangeState .buffer s
  else s

/-- Source: `dlt_daemon_close_socket` -/
def dltDaemonCloseSocket (sock : ℤ) (s : ClientsState Buf) : Option (ClientsState Buf) := do
  let s := unregisterSocket env sock s
  let (s, _) ← dltDaemonClientSendControlMessage env send .toAll
    (connectionInfo dltConnectionStatusDisconnected) s
  dltDaemonLogInternal env send (closedText sock s.clientConnections) s

/-- A message is sent to a client. Source: `dlt_daemon_client.c`, `dlt_daemon_client_send_all_multiple` -/
def sendToClient (call : ℕ) (data1 data2 : Option (List UInt8)) (con : DltConnection)
    (s : ClientsState Buf) : ClientsState Buf × ℤ :=
  let w := dltConnectionSendMultiple con.type (s.nextResults con.fd) s.daemon.sendserialheader data1 data2
  (s.record call con.fd data1 data2 w, w.ret)

/-- The loop from the entry `i` on, over at most `k` entries. Entries may be removed in the loop, and none
is added. Source: `dlt_daemon_client_send_all_multiple` -/
def sendAllFrom (call : ℕ) (data1 data2 : Option (List UInt8)) :
    ℕ → ℕ → ClientsState Buf → ℤ → Option (ClientsState Buf × ℤ)
  | 0, _, s, sent => some (s, sent)
  | k + 1, i, s, sent =>
    match s.pEvent.pfd[i]? with
    | none => some (s, sent)
    | some x =>
      match (dltEventHandlerFindConnection s.pEvent x.fd).filter (·.type.isClient) with
      | none => sendAllFrom call data1 data2 k (i + 1) s sent
      | some con =>
        let result := sendToClient call data1 data2 con s
        if result.2 = dltDaemonErrorOk then sendAllFrom call data1 data2 k (i + 1) result.1 1
        else if con.type = .clientMsgTcp then
          (dltDaemonCloseSocket env send con.fd result.1).bind fun s =>
            sendAllFrom call data1 data2 k (i + 1) s sent
        else sendAllFrom call data1 data2 k (i + 1) result.1 sent

/-- Source: `dlt_daemon_client_send_all_multiple` -/
def dltDaemonClientSendAllMultiple (data1 data2 : Option (List UInt8)) (s : ClientsState Buf) :
    Option (ClientsState Buf × ℤ) :=
  sendAllFrom env send s.calls data1 data2 s.pEvent.pfd.length 0 { s with calls := s.calls + 1 } 0

/-- Source: `dlt-daemon.c`, `dlt_daemon_send_message_overflow` -/
def dltDaemonSendMessageOverflow (s : ClientsState Buf) : Option (ClientsState Buf × ℤ) :=
  dltDaemonClientSendControlMessage env send .toAll (bufferOverflow s.daemon.overflowCounter) s

/-- A message for one descriptor. Source: `dlt_daemon_client.c`, `dlt_daemon_client_send` -/
def sendDirect (sock : ℤ) (data1 data2 : Option (List UInt8)) (s : ClientsState Buf) :
    ClientsState Buf × ℤ :=
  let w :=
    if s.isatty sock then
      dltDaemonSerialSend (s.nextResults sock) s.daemon.sendserialheader data1 data2
    else dltDaemonSocketSend (s.nextResults sock) s.daemon.sendserialheader data1 data2
  ({ s with calls := s.calls + 1 }.record s.calls sock data1 data2 w, w.ret)

/-- The states in which messages go to the ring buffer. -/
def DltDaemonState.isBuffering : DltDaemonState → Bool
  | .buffer => true
  | .sendBuffer => true
  | .bufferFull => true
  | _ => false

/-- The modes in which messages go to clients. -/
def DltUserLogMode.isExternal : DltUserLogMode → Bool
  | .external => true
  | .both => true
  | _ => false

/-- A message is stored in the ring buffer, or counted.
Source: `dlt_daemon_client_send` -/
def storeMessage (data1 data2 : Option (List UInt8)) (s : ClientsState Buf) : ClientsState Buf × ℤ :=
  let s :=
    if s.daemon.state = .bufferFull then s
    else
      let pushed := env.ring.push3 s.daemon.clientRingbuffer (data1.getD []) (data2.getD [])
      let s := { s with daemon := { s.daemon with clientRingbuffer := pushed.1 } }
      if pushed.2 < dltReturnOk then dltDaemonChangeState .bufferFull s else s
  if s.daemon.state = .bufferFull then
    ({ s with daemon := { s.daemon with overflowCounter := (s.daemon.overflowCounter + 1) % 4294967296 } },
      dltDaemonErrorBufferFull)
  else (s, dltDaemonErrorOk)

/-- What was lost is reported to the clients. Source: `dlt_daemon_client_send` -/
def reportOverflow (s : ClientsState Buf) : Option (ClientsState Buf × ℤ) :=
  if s.daemon.overflowCounter > 0 ∧ s.clientConnections > 0 then do
    let (s, ret) ← dltDaemonSendMessageOverflow env send s
    if ret = dltDaemonErrorOk then
      pure ({ s with daemon := { s.daemon with overflowCounter := 0 } }, dltDaemonErrorOk)
    else pure (s, dltDaemonErrorOk)
  else some (s, dltDaemonErrorOk)

/-- A message that is for all clients goes to them.
Source: `dlt_daemon_client_send` -/
def sendToAll (force : Bool) (data1 data2 : Option (List UInt8)) (s : ClientsState Buf) :
    Option (ClientsState Buf × ℤ) :=
  if s.daemon.mode.isExternal ∧ (force ∨ s.daemon.state = .sendDirect) then
    dltDaemonClientSendAllMultiple env send data1 data2 s
  else some (s, 1)

/-- Source: `dlt_daemon_client_send` -/
def clientSend (sock : Sock) (data1 data2 : Option (List UInt8)) (s : ClientsState Buf) :
    Option (ClientsState Buf × ℤ) :=
  match sock with
  | .fd sock =>
      let result := sendDirect sock data1 data2 s
      some result
  | .force => do
      let (s, sent) ← sendToAll env send true data1 data2 s
      if sent = 0 then pure (s, dltDaemonErrorSendFailed) else reportOverflow env send s
  | .toAll => do
      let (s, _) ← sendToAll env send false data1 data2 s
      if s.daemon.state.isBuffering then pure (storeMessage env data1 data2 s)
      else reportOverflow env send s

end send

/-- **A message is sent**, with at most `fuel` nested calls.
Source: `dlt_daemon_client_send` -/
def dltDaemonClientSend (env : ClientsEnv Buf) : ℕ → Sock → Option (List UInt8) → Option (List UInt8) →
    ClientsState Buf → Option (ClientsState Buf × ℤ)
  | 0, _, _, _, _ => none
  | fuel + 1, sock, data1, data2, s => clientSend env (dltDaemonClientSend env fuel) sock data1 data2 s

/-- `DLT_DAEMON_RCVBUFSIZE`. Source: `dlt-daemon_cfg.h` -/
def dltDaemonRcvbufsize : ℕ := 10024

end Dlt.Daemon
