import Dlt.Daemon.ClientSend
import Dlt.Shared.BufferSane

/-!
# The copies that the daemon makes of its ring buffer: `dlt_daemon_send_ringbuffer_to_client`

* `sendRingbuffer_copies_sane` — **it copies from sane buffers only.**
-/

namespace Dlt.Delivery

open Dlt.Lib Dlt.Shared
open Dlt.Daemon (DltDaemonState dltDaemonErrorOk dltDaemonRcvbufsize)

/-- What the function reads and changes of the daemon. Source: `dlt_daemon_common.h`, `DltDaemon` -/
structure RingbufferDaemon where
  /-- `client_ringbuffer`. -/
  clientRingbuffer : DltBuffer
  /-- `state`. -/
  state : DltDaemonState

/-- What `dlt_daemon_client_send` gives. -/
structure SentForce where
  ret : ℤ
  /-- The messages that it pushes to the ring buffer, in two parts. -/
  stored : List (List UInt8 × List UInt8)
  state : DltDaemonState

/-- The messages are pushed one after the other. Source: `dlt_daemon_client.c`, `dlt_daemon_client_send` -/
def pushAll (malloc : Malloc) (buf : DltBuffer) (stored : List (List UInt8 × List UInt8)) : DltBuffer :=
  stored.foldl (fun buf data => (dltBufferPush3 malloc buf data.1 data.2 []).1) buf

/-- What a number of turns gives. -/
structure SendRingbufferResult where
  daemon : RingbufferDaemon
  /-- The result; none when the loop goes on. -/
  ret : Option ℤ
  /-- The bytes that are handed to `dlt_daemon_client_send`, one entry a call. -/
  sent : List (List UInt8)
  /-- The ring buffers at the calls of `dlt_buffer_copy`. -/
  copies : List DltBuffer

section send

variable (malloc : Malloc) (sends : ℕ → SentForce)

/-- The loop, for at most `n` turns; `num` counts them.
Source: `dlt-daemon.c`, `dlt_daemon_send_ringbuffer_to_client` -/
def sendRingbufferLoop : ℕ → ℕ → RingbufferDaemon → SendRingbufferResult
  | 0, _, daemon => { daemon, ret := none, sent := [], copies := [] }
  | n + 1, num, daemon =>
    let copied := dltBufferCopy malloc daemon.clientRingbuffer dltDaemonRcvbufsize
    if copied.2.ret > 0 then
      let sent := sends num
      let clientRingbuffer := pushAll malloc copied.1 sent.stored
      if sent.ret ≠ 0 then
        { daemon := { clientRingbuffer, state := sent.state }, ret := some sent.ret
          sent := [copied.2.data], copies := [daemon.clientRingbuffer] }
      else
        let clientRingbuffer := (dltBufferRemove malloc clientRingbuffer).1
        if dltBufferGetMessageCount clientRingbuffer ≤ 0 then
          { daemon := { clientRingbuffer, state := .sendDirect }, ret := some dltDaemonErrorOk
            sent := [copied.2.data], copies := [daemon.clientRingbuffer] }
        else
          let rest := sendRingbufferLoop n (num + 1) { clientRingbuffer, state := .sendBuffer }
          { rest with sent := copied.2.data :: rest.sent, copies := daemon.clientRingbuffer :: rest.copies }
    else
      { daemon := { daemon with clientRingbuffer := copied.1 }, ret := some dltDaemonErrorOk
        sent := [], copies := [daemon.clientRingbuffer] }

/-- Source: `dlt_daemon_send_ringbuffer_to_client` -/
def dltDaemonSendRingbufferToClient (turns : ℕ) (daemon : RingbufferDaemon) : SendRingbufferResult :=
  if dltBufferGetMessageCount daemon.clientRingbuffer ≤ 0 then
    { daemon := { daemon with state := .sendDirect }, ret := some dltDaemonErrorOk, sent := [], copies := [] }
  else sendRingbufferLoop malloc sends turns 0 daemon

end send

section sane

variable {daemon : RingbufferDaemon}

theorem pushAll_sane (malloc : Malloc) (stored : List (List UInt8 × List UInt8)) {buf : DltBuffer}
    (h : SaneBuffer buf) : SaneBuffer (pushAll malloc buf stored) := by
  induction stored generalizing buf with
  | nil => exact h
  | cons data stored ih => exact ih (h.push3 malloc data.1 data.2 [])

theorem sendRingbufferLoop_copies_sane (malloc : Malloc) (sends : ℕ → SentForce) (n num : ℕ)
    (h : SaneBuffer daemon.clientRingbuffer) :
    ∀ buf ∈ (sendRingbufferLoop malloc sends n num daemon).copies, SaneBuffer buf := by
  induction n generalizing num daemon with
  | zero =>
    intro buf hbuf
    cases hbuf
  | succ n ih =>
    have hone : ∀ buf ∈ [daemon.clientRingbuffer], SaneBuffer buf := by
      intro buf hbuf
      rw [List.mem_singleton.mp hbuf]
      exact h
    rw [sendRingbufferLoop]
    simp only
    split_ifs
    · exact hone
    · exact hone
    · intro buf hbuf
      rcases List.mem_cons.mp hbuf with rfl | hlater
      · exact h
      · refine ih (num + 1) ?_ buf hlater
        apply SaneBuffer.get
        apply pushAll_sane
        exact h.get malloc true dltDaemonRcvbufsize false
    · exact hone

/-- **The function copies from sane buffers only.** -/
theorem sendRingbuffer_copies_sane (malloc : Malloc) (sends : ℕ → SentForce) (turns : ℕ)
    (h : SaneBuffer daemon.clientRingbuffer) :
    ∀ buf ∈ (dltDaemonSendRingbufferToClient malloc sends turns daemon).copies, SaneBuffer buf := by
  unfold dltDaemonSendRingbufferToClient
  split_ifs
  · intro buf hbuf
    cases hbuf
  · exact sendRingbufferLoop_copies_sane malloc sends turns 0 h

end sane

end Dlt.Delivery
