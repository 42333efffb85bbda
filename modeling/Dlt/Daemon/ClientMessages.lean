import Dlt.Shared.MessageFrame
import Dlt.Shared.Receiver

/-!
# Messages from a client: `dlt_daemon_process_client_messages`

* `dltDaemonReadClientMessages` — the loop that reads messages and hands control requests on.
  `dltDaemonProcessClientMessages` — one call, from the receive to the end.
-/

namespace Dlt.Daemon

open Dlt.Lib Dlt.Shared

/-! ## Data -/

/-- `DLT_GET_MSIN_MSTP`. Source: `dlt_protocol.h` -/
def dltGetMsinMstp (msin : UInt8) : UInt8 := (msin &&& 0x0e) >>> 1

/-- `DLT_GET_MSIN_MTIN`. Source: `dlt_protocol.h` -/
def dltGetMsinMtin (msin : UInt8) : UInt8 := (msin &&& 0xf0) >>> 4

/-- `DLT_TYPE_CONTROL`. Source: `dlt_protocol.h` -/
def dltTypeControl : UInt8 := 0x03

/-- `DLT_CONTROL_REQUEST`. Source: `dlt_protocol.h` -/
def dltControlRequest : UInt8 := 0x01

/-- `DLT_MSG_IS_CONTROL_REQUEST`. The first byte of the extended header is `msin`.
Source: `dlt_common.h` -/
def dltMsgIsControlRequest (msg : DltMessage) : Bool :=
  match msg.standardheader, msg.extendedheader with
  | some standard, some extended =>
      let msin := msg.headerbuffer.getD extended 0
      dltIsHtypUeh (msg.headerbuffer.getD standard 0) && dltGetMsinMstp msin == dltTypeControl &&
        dltGetMsinMtin msin == dltControlRequest
  | _, _ => false

/-- The connection of a client, and the daemon. -/
structure ClientState (σ : Type*) where
  buffer : List UInt8
  receiver : DltReceiver
  /-- `receiver->fd`. -/
  fd : ℤ
  /-- `daemon_local->msg`, used for every message. -/
  msg : DltMessage
  /-- `daemon_local->flags.nflag`: look for the serial header when a message does not start with it. -/
  nflag : Bool
  daemon : σ

/-- What the loop over the messages gives. -/
structure ClientMessages (σ : Type*) where
  read : List DltMessage
  state : ClientState σ
  /-- `dlt_receiver_remove` returned `-1`. -/
  failed : Bool

structure ClientCall (σ : Type*) where
  read : List DltMessage
  state : ClientState σ
  closed : Bool
  ret : ℤ

/-! ## The loop -/

section loop

variable {σ : Type*} (malloc : Malloc) (control : σ → ℤ → DltMessage → σ)

/-- `bytes_to_be_removed`. Source: `dlt-daemon.c`, `dlt_daemon_process_client_messages` -/
def bytesToBeRemoved (msg : DltMessage) : ℤ :=
  msg.headersize + msg.datasize - sizeofDltStorageHeader +
    (if msg.foundSerialheader then dltSerialHeader.length else 0) + msg.resyncOffset

/-- A control request is handed on with the connection it came from.
Source: `dlt_daemon_process_client_messages` -/
def handleControlRequest (s : ClientState σ) (msg : DltMessage) : σ :=
  if 0 < s.fd ∧ dltMsgIsControlRequest msg then control s.daemon s.fd msg else s.daemon

/-- The loop. Source: `dlt_daemon_process_client_messages` -/
def dltDaemonReadClientMessages (s : ClientState σ) : ClientMessages σ :=
  let read := dltMessageRead malloc s.msg (s.buffer.drop s.receiver.buf) s.receiver.bytesRcvd s.nflag
  if _h : read.2 = dltMessageErrorOk then
    let daemon := handleControlRequest control s read.1
    let removed := dltReceiverRemove s.receiver (i32 (bytesToBeRemoved read.1))
    let s := { s with receiver := removed.1, msg := read.1, daemon }
    if removed.2 = dltReturnError then { read := [read.1], state := s, failed := true }
    else
      let rest := dltDaemonReadClientMessages s
      { rest with read := read.1 :: rest.read }
  else { read := [], state := { s with msg := read.1 }, failed := false }
termination_by s.receiver.bytesRcvd
decreasing_by exact dltReceiverRemove_lt _ (dltMessageRead_pos _h)

/-- A call when the connection has something to receive. A receive returns no negative value, since
the receiver has a buffer. Source: `dlt_daemon_process_client_messages` -/
def dltDaemonProcessClientMessages (s : ClientState σ) (got : List UInt8) : ClientCall σ :=
  let received := dltReceiverReceive s.buffer s.receiver got
  let looped := dltDaemonReadClientMessages malloc control
    { s with buffer := received.1, receiver := received.2.1 }
  if looped.failed then { read := looped.read, state := looped.state, closed := false, ret := -1 }
  else
    let moved := dltReceiverMoveToBegin malloc looped.state.buffer looped.state.receiver
    let s := { looped.state with receiver := moved.1 }
    if moved.2 = dltReturnError then { read := looped.read, state := s, closed := false, ret := -1 }
    else { read := looped.read, state := s, closed := received.2.2 == 0, ret := 0 }

end loop

end Dlt.Daemon
