import Dlt.Shared.BufferRoom
import Dlt.User.ResendBuffer
import Dlt.User.SendLogRoundTrip

/-!
# Sending a message in daemon mode: the end of `dlt_user_log_send_log`

* `dltUserLogToDaemon`, `dltUserLogSendLogDaemon` — the part behind `dlt_user_log_reattach_to_daemon`, and the
  function.
-/

namespace Dlt.User

open Dlt.Lib Dlt.Shared
open Dlt.Daemon (userHeaderPattern)

/-! ## Storing a message -/

/-- The sum is of type `size_t`. Source: `dlt_common.c`, `dlt_buffer_check_size` -/
def dltBufferCheckSize (buf : DltBuffer) (needed : ℤ) : ℤ :=
  if ((buf.size + sizeofDltBufferHead : ℕ) + needed) % 18446744073709551616 > buf.maxSize then dltReturnError
  else dltReturnOk

/-- The predicate asks for room above the present size, without the header of the block. -/
theorem dltBufferCheckSize_ok_iff {buf : DltBuffer} (hsize : buf.size < 2147483648) {needed : ℕ}
    (hneeded : needed < 2147483648) :
    dltBufferCheckSize buf needed = dltReturnOk ↔ buf.size + sizeofDltBufferHead + needed ≤ buf.maxSize := by
  unfold dltBufferCheckSize sizeofDltBufferHead
  rw [Int.emod_eq_of_lt (by omega) (by omega)]
  split_ifs with hlarge
  · exact iff_of_false (by decide) (by omega)
  · exact iff_of_true rfl (by omega)

/-- Source: `dlt_user.c`, `dlt_user_log_out_error_handling` -/
def dltUserLogOutErrorHandling (malloc : Malloc) (startupBuffer : DltBuffer) (data1 data2 data3 : List UInt8) :
    DltBuffer × ℤ :=
  let ret := dltBufferCheckSize startupBuffer (i32 (data1.length + data2.length + data3.length : ℕ))
  let pushed := dltBufferPush3 malloc startupBuffer data1 data2 data3
  (pushed.1, if pushed.2 = dltReturnError then dltReturnBufferFull else ret)

/-! ## Building the message -/

/-- The bytes of the message behind the user header and before the payload. -/
def headerBytes (msg : DltMessage) : List UInt8 :=
  field msg.headerbuffer sizeofDltStorageHeader (msg.headersize - sizeofDltStorageHeader)

section frame

variable {env : SendEnv} {user : DltUser} {log : DltContextData} {mtype : ℤ}

theorem length_headerBytes {counted : Option DltContext} {msg : DltMessage}
    (h : dltUserLogFrame env user log mtype = .ok (counted, msg)) :
    (headerBytes msg).length = headerLength (dltUserLogHtyp user log) := by
  have hframe := @dltUserLogFrame_spec env user log mtype
  rw [h] at hframe
  obtain ⟨handle, built, -, hheaders, -, rfl⟩ := hframe
  have hspec := dltUserLogHeaders_spec hheaders
  have hextra := extraSize_le (dltUserLogHtyp user log)
  have hroom : ∀ n, sizeofDltStorageHeader + 2 + (leBytes 2 n).length ≤ built.headerbuffer.length := by
    intro n
    rw [hspec.length_eq, length_leBytes]
    decide
  unfold headerBytes
  simp only [hspec.headersize_eq, Nat.add_sub_cancel_left]
  rw [length_field]
  rw [length_overwrite (hroom _), hspec.length_eq, headerLength, sizeofHeaderbuffer]
  omega

end frame

/-! ## Daemon mode -/

/-- What becomes of the writes of a call. -/
structure DaemonWrites where
  /-- The message of the overflow is written completely. -/
  overflow : Bool
  /-- The messages of the startup buffer. -/
  resend : ℕ → WriteOutcome
  message : WriteOutcome

/-- What the function reads and changes of the library in daemon mode. Source: `dlt_user.h`, `DltUser` -/
structure DaemonMode where
  /-- The startup buffer, `resend_buffer` and the connection. -/
  buffers : DltUserBuffers
  /-- `overflow_counter`, a `uint32_t`. -/
  overflowCounter : ℕ

/-- What a call gives. -/
structure SendOutcome where
  ret : ℤ
  state : DaemonMode
  /-- The message itself was written completely. -/
  delivered : Bool

/-- The write of `dlt_user_log_out2`. Source: `dlt_user.c`, `dlt_user_log_send_overflow` -/
def dltUserLogSendOverflow (connected complete : Bool) : ℤ :=
  if connected ∧ complete then dltReturnOk else dltReturnError

section daemon

variable (malloc : Malloc) (writes : DaemonWrites) (appID : Id4)

/-- Discarded messages are reported first. Source: `dlt_user_log_send_log` -/
def reportOverflow (s : DaemonMode) : DaemonMode :=
  if s.overflowCounter ≠ 0 ∧ dltUserLogSendOverflow s.buffers.connected writes.overflow = dltReturnOk then
    { s with overflowCounter := 0 }
  else s

/-- Old messages are sent first. Source: `dlt_user_log_send_log` -/
def resendFirst (user : DltUserBuffers) : ResendResult :=
  if user.connected ∧ ¬ appID.isEmpty then dltUserLogResendBuffer malloc writes.resend appID user
  else { user, ret := dltReturnOk, writes := [] }

/-- The part behind `dlt_user_log_reattach_to_daemon`, with the three parts of the message.
Source: `dlt_user_log_send_log` -/
def dltUserLogToDaemon (data1 data2 data3 : List UInt8) (s : DaemonMode) : SendOutcome :=
  let s := reportOverflow writes s
  let resent := resendFirst malloc writes appID s.buffers
  let tries : Bool := resent.ret = dltReturnOk ∧ ¬ appID.isEmpty
  let ret := if tries then dltUserLogOut3 resent.user.connected writes.message else resent.ret
  let delivered : Bool := tries ∧ ret = dltReturnOk
  let stores : Bool := ret ≠ dltReturnOk ∨ appID.isEmpty
  let handled :=
    if stores then dltUserLogOutErrorHandling malloc resent.user.startupBuffer data1 data2 data3
    else (resent.user.startupBuffer, dltReturnOk)
  let s := { s with buffers := { resent.user with startupBuffer := handled.1 } }
  if handled.2 = dltReturnOk then { ret := dltReturnOk, state := s, delivered }
  else if handled.2 = dltReturnBufferFull then
    { ret := dltReturnBufferFull, state := { s with overflowCounter := u32 (s.overflowCounter + 1) }, delivered }
  else if ret = dltReturnPipeFull then { ret := dltReturnPipeFull, state := s, delivered }
  else if ret = dltReturnPipeError then
    { ret := dltReturnPipeError, state := { s with buffers := { s.buffers with connected := false } }, delivered }
  else if ret = dltReturnOk then { ret := dltReturnOk, state := s, delivered }
  else { ret := dltReturnError, state := s, delivered }

/-- The function in daemon mode, with the state behind `dlt_user_log_reattach_to_daemon`.
Source: `dlt_user_log_send_log` -/
def dltUserLogSendLogDaemon (env : SendEnv) (user : DltUser) (log : DltContextData) (mtype : ℤ) (s : DaemonMode) :
    SendOutcome :=
  match dltUserLogFrame env user log mtype with
  | .error (ret, _) => { ret, state := s, delivered := false }
  | .ok (_, msg) =>
      dltUserLogToDaemon malloc writes user.appID (userHeaderPattern ++ leBytes 4 dltUserMessageLog)
        (headerBytes msg) log.buffer s

end daemon

end Dlt.User
