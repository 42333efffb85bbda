import Dlt.Lib.Layout
import Dlt.Shared.Id
import Dlt.Shared.Message
import Dlt.Shared.Receiver

/-!
# The messages of applications to the daemon

* `dltDaemonProcessUserMessages` — one receive, the search for user headers and the loop over the
  handlers. `processReceives` — the receives of a connection.
-/

namespace Dlt.Daemon

open Dlt.Lib Dlt.Shared Layout

/-! ## Payloads -/

/-- Source: `dlt_user_shared.h`, `DltUserControlMsgRegisterApplication` -/
structure DltUserControlMsgRegisterApplication where
  apid : Id4
  /-- Process id of the application. -/
  pid : Int32
  descriptionLength : UInt32
deriving DecidableEq

/-- Source: `DltUserControlMsgUnregisterApplication` -/
structure DltUserControlMsgUnregisterApplication where
  apid : Id4
  /-- Process id of the application. -/
  pid : Int32
deriving DecidableEq

/-- Source: `DltUserControlMsgRegisterContext` -/
structure DltUserControlMsgRegisterContext where
  apid : Id4
  ctid : Id4
  /-- Offset of the context in the application. -/
  logLevelPos : Int32
  logLevel : Int8
  traceStatus : Int8
  /-- Process id of the application. -/
  pid : Int32
  descriptionLength : UInt32
deriving DecidableEq

/-- Source: `DltUserControlMsgUnregisterContext` -/
structure DltUserControlMsgUnregisterContext where
  apid : Id4
  ctid : Id4
  /-- Process id of the application. -/
  pid : Int32
deriving DecidableEq

/-- Source: `DltUserControlMsgAppLogLevelTraceStatus` -/
structure DltUserControlMsgAppLogLevelTraceStatus where
  apid : Id4
  logLevel : UInt8
  traceStatus : UInt8
deriving DecidableEq

/-- Source: `DltUserControlMsgBufferOverflow` -/
structure DltUserControlMsgBufferOverflow where
  /-- Number of lost messages. -/
  overflowCounter : UInt32
  apid : Id4
deriving DecidableEq

/-- Source: `DltUserControlMsgLogMode` -/
structure DltUserControlMsgLogMode where
  logMode : Int8
deriving DecidableEq

def idLayout : Layout Id4 where
  size := 4
  encode id := id.bytes
  decode bytes := ⟨bytes.take 4 ++ List.replicate (4 - bytes.length) 0, by
    simp only [List.length_append, List.length_take, List.length_replicate]
    omega⟩
  length_encode id := id.length_eq
  decode_encode id := by
    obtain ⟨bytes, hlen⟩ := id
    simp [hlen, List.take_of_length_le]

/-- The layout of `DltUserControlMsgRegisterApplication`. -/
def registerApplicationLayout : Layout DltUserControlMsgRegisterApplication :=
  (idLayout.prod (int32.prod uint32)).map (fun p => ⟨p.1, p.2.1, p.2.2⟩)
    (fun p => (p.apid, p.pid, p.descriptionLength)) fun _ => rfl

/-- The layout of `DltUserControlMsgUnregisterApplication`. -/
def unregisterApplicationLayout : Layout DltUserControlMsgUnregisterApplication :=
  (idLayout.prod int32).map (fun p => ⟨p.1, p.2⟩) (fun p => (p.apid, p.pid)) fun _ => rfl

/-- The layout of `DltUserControlMsgRegisterContext`. -/
def registerContextLayout : Layout DltUserControlMsgRegisterContext :=
  (idLayout.prod (idLayout.prod (int32.prod (int8.prod (int8.prod
    (int32.prod uint32)))))).map
    (fun p => ⟨p.1, p.2.1, p.2.2.1, p.2.2.2.1, p.2.2.2.2.1, p.2.2.2.2.2.1, p.2.2.2.2.2.2⟩)
    (fun p => (p.apid, p.ctid, p.logLevelPos, p.logLevel, p.traceStatus, p.pid,
      p.descriptionLength)) fun _ => rfl

/-- The layout of `DltUserControlMsgUnregisterContext`. -/
def unregisterContextLayout : Layout DltUserControlMsgUnregisterContext :=
  (idLayout.prod (idLayout.prod int32)).map (fun p => ⟨p.1, p.2.1, p.2.2⟩)
    (fun p => (p.apid, p.ctid, p.pid)) fun _ => rfl

/-- The layout of `DltUserControlMsgAppLogLevelTraceStatus`. -/
def appLogLevelTraceStatusLayout : Layout DltUserControlMsgAppLogLevelTraceStatus :=
  (idLayout.prod (uint8.prod uint8)).map (fun p => ⟨p.1, p.2.1, p.2.2⟩)
    (fun p => (p.apid, p.logLevel, p.traceStatus)) fun _ => rfl

/-- The layout of `DltUserControlMsgBufferOverflow`. -/
def bufferOverflowLayout : Layout DltUserControlMsgBufferOverflow :=
  (uint32.prod idLayout).map (fun p => ⟨p.1, p.2⟩) (fun p => (p.overflowCounter, p.apid))
    fun _ => rfl

/-- The layout of `DltUserControlMsgLogMode`. -/
def logModeLayout : Layout DltUserControlMsgLogMode :=
  int8.map (fun m => ⟨m⟩) (fun p => p.logMode) fun _ => rfl

/-! ## Messages -/

/-- A message, as a handler takes it from the receiver. A description is the text up to its end. -/
inductive UserMessage
  /-- A log message: its headers from the standard header on, and its payload. -/
  | log (header payload : List UInt8)
  | registerApplication (userapp : DltUserControlMsgRegisterApplication) (description : List UInt8)
  | unregisterApplication (userapp : DltUserControlMsgUnregisterApplication)
  | registerContext (userctxt : DltUserControlMsgRegisterContext) (description : List UInt8)
  | unregisterContext (userctxt : DltUserControlMsgUnregisterContext)
  /-- An application lost messages. -/
  | overflow (userpayload : DltUserControlMsgBufferOverflow)
  /-- An application sets the log level and trace status of its contexts. -/
  | setAppLlTs (userctxt : DltUserControlMsgAppLogLevelTraceStatus)
  | marker (userctxt : DltUserControlMsgLogMode)
deriving DecidableEq

/-- What the handlers do with a message that was read. -/
structure UserHandlers (σ : Type*) where
  /-- The daemon after the message, and whether the handler goes on to return another value than
  `-1`. -/
  handle : σ → UserMessage → σ × Bool
  /-- `dlt_daemon_find_users_list` finds the table of the daemon's own ECU. -/
  usersList : σ → Bool

/-- The connection of an application, and the daemon. -/
structure UserState (σ : Type*) where
  buffer : List UInt8
  receiver : DltReceiver
  /-- `daemon_local->msg`, used for every log message. -/
  msg : DltMessage
  daemon : σ

/-- A handler has run. -/
structure UserStep (σ : Type*) where
  state : UserState σ
  /-- The message that it took, if it took one. -/
  dispatched : List UserMessage
  /-- It returned another value than `-1`. -/
  ok : Bool

/-! ## Handlers -/

section handlers

variable {σ α : Type*}

/-- `DLT_DAEMON_DESCSIZE`. Source: `dlt-daemon_cfg.h` -/
def dltDaemonDescsize : ℕ := 256

/-- `"Unknown"`, the description in place of one that cannot be read. Source: `dlt-daemon.c` -/
def unknownDescription : List UInt8 := [0x55, 0x6e, 0x6b, 0x6e, 0x6f, 0x77, 0x6e]

/-- The text in an array that was cleared before, up to its end. -/
def cText (bytes : List UInt8) : List UInt8 := bytes.takeWhile (· ≠ 0)

/-- The handler returns `-1` before it takes a message. -/
def UserState.fail (s : UserState σ) (receiver : DltReceiver) : UserStep σ :=
  { state := { s with receiver }, dispatched := [], ok := false }

/-- The handler has taken a message. -/
def UserState.dispatch (h : UserHandlers σ) (s : UserState σ) (receiver : DltReceiver)
    (m : UserMessage) : UserStep σ :=
  { state := { s with receiver, daemon := (h.handle s.daemon m).1 }
    dispatched := [m], ok := (h.handle s.daemon m).2 }

section fields

variable (h : UserHandlers σ) (s : UserState σ) (receiver : DltReceiver) (m : UserMessage)

@[simp] theorem UserState.fail_ok : (s.fail receiver).ok = false := rfl

@[simp] theorem UserState.fail_receiver : (s.fail receiver).state.receiver = receiver := rfl

@[simp] theorem UserState.dispatch_receiver :
    (s.dispatch h receiver m).state.receiver = receiver := rfl

end fields

/-- A handler of a payload of fixed size. -/
def processFixed (h : UserHandlers σ) (layout : Layout α) (message : α → UserMessage)
    (s : UserState σ) : UserStep σ :=
  let got := dltReceiverCheckAndGet s.buffer s.receiver layout.size ⟨true, true⟩
  if got.ret < 0 then s.fail got.receiver
  else s.dispatch h got.receiver (message (layout.decode got.dest))

/-- A handler of a payload that a description follows. The read pointer is moved for the second
`dlt_receiver_check_and_get`, the counter of bytes is not. -/
def processRegister (h : UserHandlers σ) (layout : Layout α) (descriptionLength : α → UInt32)
    (message : α → List UInt8 → UserMessage) (s : UserState σ) : UserStep σ :=
  let got := dltReceiverCheckAndGet s.buffer s.receiver layout.size ⟨true, false⟩
  if got.ret < 0 then s.fail got.receiver
  else
    let payload := layout.decode got.dest
    let len := min (descriptionLength payload).toNat dltDaemonDescsize
    let advanced := { s.receiver with
      buf := s.receiver.buf + (got.ret.toNat + sizeofDltUserHeader) }
    let read := dltReceiverCheckAndGet s.buffer advanced len ⟨false, false⟩
    let description := if read.ret < 0 then unknownDescription else cText read.dest
    let len := if read.ret < 0 then 0 else len
    let removed := dltReceiverRemove s.receiver
      (i32 (got.ret.toNat + (sizeofDltUserHeader + len) : ℕ))
    if removed.2 ≠ dltReturnOk then s.fail removed.1
    else s.dispatch h removed.1 (message payload description)

/-- Source: `dlt_daemon_process_user_message_not_sup` -/
def dltDaemonProcessUserMessageNotSup (s : UserState σ) : UserStep σ :=
  s.fail (dltReceiverRemove s.receiver sizeofDltUserHeader).1

/-- Source: `dlt_daemon_process_user_message_overflow` -/
def dltDaemonProcessUserMessageOverflow (h : UserHandlers σ) : UserState σ → UserStep σ :=
  processFixed h bufferOverflowLayout .overflow

/-- Source: `dlt_daemon_process_user_message_register_application` -/
def dltDaemonProcessUserMessageRegisterApplication (h : UserHandlers σ) :
    UserState σ → UserStep σ :=
  processRegister h registerApplicationLayout (·.descriptionLength) .registerApplication

/-- Source: `dlt_daemon_process_user_message_register_context` -/
def dltDaemonProcessUserMessageRegisterContext (h : UserHandlers σ) : UserState σ → UserStep σ :=
  processRegister h registerContextLayout (·.descriptionLength) .registerContext

/-- Source: `dlt_daemon_process_user_message_unregister_application` -/
def dltDaemonProcessUserMessageUnregisterApplication (h : UserHandlers σ) :
    UserState σ → UserStep σ :=
  processFixed h unregisterApplicationLayout .unregisterApplication

/-- Source: `dlt_daemon_process_user_message_unregister_context` -/
def dltDaemonProcessUserMessageUnregisterContext (h : UserHandlers σ) :
    UserState σ → UserStep σ :=
  processFixed h unregisterContextLayout .unregisterContext

/-- The table of the daemon's own ECU is looked up before anything is removed.
Source: `dlt_daemon_process_user_message_set_app_ll_ts` -/
def dltDaemonProcessUserMessageSetAppLlTs (h : UserHandlers σ) (s : UserState σ) : UserStep σ :=
  if h.usersList s.daemon then processFixed h appLogLevelTraceStatusLayout .setAppLlTs s
  else s.fail s.receiver

/-- Source: `dlt_daemon_process_user_message_marker` -/
def dltDaemonProcessUserMessageMarker (h : UserHandlers σ) : UserState σ → UserStep σ :=
  processFixed h logModeLayout .marker

/-- The headers from the standard header on, and the payload, as the message that is sent to the
clients holds them. -/
def logOf (msg : DltMessage) : UserMessage :=
  .log ((msg.headerbuffer.drop sizeofDltStorageHeader).take
      (msg.headersize - sizeofDltStorageHeader))
    ((msg.databuffer.getD []).take msg.datasize.toNat)

/-- Without shared memory. The message is sent to the clients before it is removed.
Source: `dlt_daemon_process_user_message_log` -/
def dltDaemonProcessUserMessageLog (malloc : Malloc) (h : UserHandlers σ) (s : UserState σ) :
    UserStep σ :=
  let read := dltMessageRead malloc s.msg
    (s.buffer.drop (s.receiver.buf + sizeofDltUserHeader))
    (u32 (s.receiver.bytesRcvd - sizeofDltUserHeader)) false
  if read.2 ≠ dltMessageErrorOk then { s with msg := read.1 }.fail s.receiver
  else
    let size : ℤ := read.1.headersize + read.1.datasize - sizeofDltStorageHeader +
      sizeofDltUserHeader + (if read.1.foundSerialheader then dltSerialHeader.length else 0)
    let removed := dltReceiverRemove s.receiver (i32 size)
    { state := { s with
        receiver := removed.1, msg := read.1, daemon := (h.handle s.daemon (logOf read.1)).1 }
      dispatched := [logOf read.1]
      ok := decide (removed.2 = dltReturnOk) && (h.handle s.daemon (logOf read.1)).2 }

/-- The handler of each message type. Source: `process_user_func` -/
def processUserFunc (malloc : Malloc) (h : UserHandlers σ) : ℕ → UserState σ → UserStep σ
  | 1 => dltDaemonProcessUserMessageLog malloc h
  | 2 => dltDaemonProcessUserMessageRegisterApplication h
  | 3 => dltDaemonProcessUserMessageUnregisterApplication h
  | 4 => dltDaemonProcessUserMessageRegisterContext h
  | 5 => dltDaemonProcessUserMessageUnregisterContext h
  | 8 => dltDaemonProcessUserMessageOverflow h
  | 9 => dltDaemonProcessUserMessageSetAppLlTs h
  | 13 => dltDaemonProcessUserMessageMarker h
  | _ => dltDaemonProcessUserMessageNotSup

end handlers

/-! ## The loop over the handlers -/

section loop

variable {σ α : Type*}

/-- `DUH` and the byte one. Source: `dlt_user_shared.c`, `dlt_user_set_userheader` -/
def userHeaderPattern : List UInt8 := [0x44, 0x55, 0x48, 1]

/-- Source: `dlt_user_check_userheader` -/
def dltUserCheckUserheader (userheader : List UInt8) : Bool :=
  userheader.take 4 = userHeaderPattern

/-- `userheader->message`. Source: `dlt_user_shared.h`, `DltUserHeader` -/
def userHeaderMessage (userheader : List UInt8) : ℕ := ofLeBytes ((userheader.drop 4).take 4)

/-- The search for a user header, from `offset` on.
Source: `dlt-daemon.c`, `dlt_daemon_process_user_messages` -/
def userHeaderOffset (buffer : List UInt8) (rec : DltReceiver) (offset : ℕ) : ℕ :=
  if _h : dltUserCheckUserheader (buffer.drop (rec.buf + offset)) = false ∧
      offset + sizeofDltUserHeader ≤ rec.bytesRcvd then
    userHeaderOffset buffer rec (offset + 1)
  else offset
termination_by rec.bytesRcvd - offset
decreasing_by
  unfold sizeofDltUserHeader at _h
  omega

/-- One turn of the loop, unless it is left before a handler runs.
Source: `dlt_daemon_process_user_messages` -/
def processUserMessage (malloc : Malloc) (h : UserHandlers σ) (s : UserState σ) :
    Option (UserStep σ) :=
  if s.receiver.bytesRcvd < sizeofDltUserHeader then none
  else
    let offset := userHeaderOffset s.buffer s.receiver 0
    let userheader := s.buffer.drop (s.receiver.buf + offset)
    if dltUserCheckUserheader userheader = false then none
    else
      let receiver :=
        if offset > 0 then (dltReceiverRemove s.receiver offset).1 else s.receiver
      some (processUserFunc malloc h (userHeaderMessage userheader) { s with receiver })

theorem remove_lt {rec : DltReceiver} {size : ℤ} (h : (dltReceiverRemove rec size).2 = dltReturnOk) :
    (dltReceiverRemove rec size).1.bytesRcvd < rec.bytesRcvd := by
  unfold dltReceiverRemove at h ⊢
  split_ifs at h ⊢ with hsize
  · cases h
  · simp only
    omega

theorem remove_le (rec : DltReceiver) (size : ℤ) :
    (dltReceiverRemove rec size).1.bytesRcvd ≤ rec.bytesRcvd := by
  unfold dltReceiverRemove
  split_ifs <;> simp

theorem checkAndGet_lt {buffer : List UInt8} {rec : DltReceiver} {n : ℕ} {skipHeader : Bool}
    (h : ¬ (dltReceiverCheckAndGet buffer rec n ⟨skipHeader, true⟩).ret < 0) :
    (dltReceiverCheckAndGet buffer rec n ⟨skipHeader, true⟩).receiver.bytesRcvd < rec.bytesRcvd := by
  by_cases hshort : (rec.bytesRcvd : ℤ) < i32 (n + (DltRcvFlags.mk skipHeader true).skip : ℕ)
  · rw [checkAndGet_short hshort] at h
    exact absurd (show dltReturnWrongParameter < 0 by decide) h
  rw [checkAndGet_remove hshort rfl] at h ⊢
  by_cases hremove : (dltReceiverRemove rec
      (i32 (n + (DltRcvFlags.mk skipHeader true).skip : ℕ))).2 = dltReturnOk
  · exact remove_lt hremove
  · simp only [ne_eq, hremove, not_false_eq_true, if_true] at h
    exact absurd (show dltReturnError < 0 by decide) h

variable {malloc : Malloc} {h : UserHandlers σ} {s : UserState σ}

theorem processFixed_lt {layout : Layout α} {message : α → UserMessage}
    (hok : (processFixed h layout message s).ok = true) :
    (processFixed h layout message s).state.receiver.bytesRcvd < s.receiver.bytesRcvd := by
  rw [processFixed] at hok ⊢
  split_ifs at hok ⊢ with hfail
  · simp at hok
  · rw [UserState.dispatch_receiver]
    exact checkAndGet_lt hfail

theorem processRegister_lt {layout : Layout α} {descriptionLength : α → UInt32}
    {message : α → List UInt8 → UserMessage}
    (hok : (processRegister h layout descriptionLength message s).ok = true) :
    (processRegister h layout descriptionLength message s).state.receiver.bytesRcvd <
      s.receiver.bytesRcvd := by
  rw [processRegister] at hok ⊢
  dsimp only at hok ⊢
  generalize i32 (_ : ℕ) = size at hok ⊢
  by_cases hfail : (dltReceiverCheckAndGet s.buffer s.receiver layout.size ⟨true, false⟩).ret < 0
  · rw [if_pos hfail] at hok
    simp at hok
  rw [if_neg hfail] at hok ⊢
  by_cases hremove : (dltReceiverRemove s.receiver size).2 ≠ dltReturnOk
  · rw [if_pos hremove] at hok
    simp at hok
  · rw [if_neg hremove, UserState.dispatch_receiver]
    exact remove_lt (not_not.mp hremove)

/-- A handler that returns another value than `-1` takes bytes away. -/
theorem processUserFunc_lt {type : ℕ} (hok : (processUserFunc malloc h type s).ok = true) :
    (processUserFunc malloc h type s).state.receiver.bytesRcvd < s.receiver.bytesRcvd := by
  unfold processUserFunc at hok ⊢
  split at hok
  · unfold dltDaemonProcessUserMessageLog at hok ⊢
    dsimp only at hok ⊢
    generalize i32 _ = size at hok ⊢
    split_ifs at hok ⊢ with hread
    · cases hok
    · simp only [Bool.and_eq_true, decide_eq_true_eq] at hok
      exact remove_lt hok.1
  · exact processRegister_lt hok
  · exact processFixed_lt hok
  · exact processRegister_lt hok
  · exact processFixed_lt hok
  · exact processFixed_lt hok
  · unfold dltDaemonProcessUserMessageSetAppLlTs at hok ⊢
    split_ifs at hok ⊢ with hlist
    · exact processFixed_lt hok
    · cases hok
  · exact processFixed_lt hok
  · cases hok

theorem processUserMessage_lt {step : UserStep σ} (hstep : processUserMessage malloc h s = some step)
    (hok : step.ok = true) :
    step.state.receiver.bytesRcvd < s.receiver.bytesRcvd := by
  unfold processUserMessage at hstep
  dsimp only at hstep
  split_ifs at hstep with hshort hcheck hoffset
  · cases hstep
    exact (processUserFunc_lt hok).trans_le (remove_le _ _)
  · cases hstep
    exact processUserFunc_lt hok

variable (malloc h)

/-- The loop: the messages that the handlers took, and the state when it is left.
Source: `dlt_daemon_process_user_messages` -/
def processUserMessages (s : UserState σ) : List UserMessage × UserState σ :=
  match _hstep : processUserMessage malloc h s with
  | none => ([], s)
  | some step =>
      if _hok : step.ok = true then
        let rest := processUserMessages step.state
        (step.dispatched ++ rest.1, rest.2)
      else (step.dispatched, step.state)
termination_by s.receiver.bytesRcvd
decreasing_by exact processUserMessage_lt _hstep _hok

/-- A call when the connection has something to receive: the messages that the handlers took, the
state after it, and whether the connection was closed.
Source: `dlt_daemon_process_user_messages` -/
def dltDaemonProcessUserMessages (s : UserState σ) (got : List UInt8) :
    List UserMessage × UserState σ × Bool :=
  let received := dltReceiverReceive s.buffer s.receiver got
  let s := { s with buffer := received.1, receiver := received.2.1 }
  if received.2.2 = 0 ∧ s.receiver.type = .socket then ([], s, true)
  else
    let looped := processUserMessages malloc h s
    let moved := dltReceiverMoveToBegin malloc looped.2.buffer looped.2.receiver
    (looped.1, { looped.2 with receiver := moved.1 }, false)

/-- The calls for the receives of a connection, up to its end: the messages that the handlers took,
and the state. -/
def processReceives : UserState σ → List (List UInt8) → List UserMessage × UserState σ
  | s, [] => ([], s)
  | s, got :: rest =>
      let (taken, s', closed) := dltDaemonProcessUserMessages malloc h s got
      if closed then (taken, s')
      else ((taken ++ (processReceives s' rest).1), (processReceives s' rest).2)

/-- Every receive delivers at least one byte, and there is room for what it delivers. -/
def ReceivesFitUser : UserState σ → List (List UInt8) → Prop
  | _, [] => True
  | s, got :: rest =>
      got ≠ [] ∧ s.receiver.bytesRcvd + got.length ≤ s.receiver.buffersize ∧
        ReceivesFitUser (dltDaemonProcessUserMessages malloc h s got).2.1 rest

end loop

end Dlt.Daemon
