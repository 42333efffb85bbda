import Dlt.Client.MainLoop
import Dlt.Daemon.ClientMessages
import Dlt.Daemon.UserMessagesChunks

/-!
# A malformed message in a stream

A message whose length field is smaller than its headers makes `dlt_message_read` return
`DLT_MESSAGE_ERROR_CONTENT`. The three reading loops treat this as they treat a message that is not
complete: they leave it in the receiver and wait.

* `malformed_blocks` — **each of the three loops blocks on a malformed message**.
-/

namespace Dlt.Daemon

open Dlt.Lib Dlt.Shared Dlt.Client List
open UserMessage (userHeader)

/-! ## Turns of the loops -/

section turns

variable {σ : Type*} (malloc : Malloc)

/-- One turn of `dlt_client_main_loop`. -/
def clientTurn (s : DltClient × DltMessage) (got : List UInt8) :
    List DltMessage × (DltClient × DltMessage) × Bool :=
  if (dltReceiverReceive s.1.buffer s.1.receiver got).2.2 = 0 then ([], s, true)
  else
    let (client, read, moved) := dltClientRound malloc s.1 s.2 got
    (read.calls, (client, read.msg), read.failed || moved == dltReturnError)

theorem dltClientMainLoop_eq_runTurns (client : DltClient) (msg : DltMessage)
    (chunks : List (List UInt8)) :
    (dltClientMainLoop malloc client msg (chunks.map (·, true))).1 =
      (runTurns (clientTurn malloc) (client, msg) chunks).1 := by
  induction chunks generalizing client msg with
  | nil => rfl
  | cons got chunks ih =>
    rw [map_cons, dltClientMainLoop, runTurns, clientTurn]
    by_cases hrecv : (dltReceiverReceive client.buffer client.receiver got).2.2 = 0
    · rw [if_pos hrecv, if_pos hrecv]
      rfl
    · rw [if_neg hrecv, if_neg hrecv]
      dsimp only
      generalize dltClientRound malloc client msg got = round
      obtain ⟨client', read, moved⟩ := round
      by_cases hfailed : read.failed = true
      · simp [hfailed]
      · by_cases hmoved : moved = dltReturnError
        · simp only [hfailed, hmoved, if_true, Bool.false_or, beq_self_eq_true]
          rfl
        · simp only [hfailed, hmoved, if_false, if_true, Bool.false_or, beq_iff_eq]
          rw [ih]
          rfl

/-- One call of `dlt_daemon_process_client_messages`. -/
def daemonClientTurn (control : σ → ℤ → DltMessage → σ) (s : ClientState σ) (got : List UInt8) :
    List DltMessage × ClientState σ × Bool :=
  let call := dltDaemonProcessClientMessages malloc control s got
  (call.read, call.state, call.closed || decide (call.ret < 0))

/-- One call of `dlt_daemon_process_user_messages`. -/
def userTurn (h : UserHandlers σ) (s : UserState σ) (got : List UInt8) :
    List UserMessage × UserState σ × Bool := dltDaemonProcessUserMessages malloc h s got

end turns

/-! ## What it means to block -/

section blocks

variable {S M : Type*}

/-- A turn takes bytes from the receiver, which keeps `kept s` bytes between two turns, or ends the
connection. -/
def Discards (turn : S → List UInt8 → List M × S × Bool) (kept : S → ℕ) (s : S)
    (got : List UInt8) : Prop :=
  (turn s got).2.2 = true ∨ kept (turn s got).2.1 < kept s + got.length

/-- On malformed input the loop neither discards a byte nor ends the connection, and no message behind
it is dispatched, however the input is split. -/
structure Blocks (turn : S → List UInt8 → List M × S × Bool) (kept : S → ℕ)
    (holds : S → List UInt8 → Prop) (size : ℕ) (malformed : List UInt8 → Prop) : Prop where
  not_discards : ∀ s left got, holds s left → malformed (left ++ got) → got ≠ [] →
    (left ++ got).length ≤ size → ¬ Discards turn kept s got
  /-- Nothing is dispatched, and all the input is kept. -/
  not_dispatched : ∀ s left got chunks, holds s left → malformed (left ++ got) →
    (∀ c ∈ got :: chunks, c ≠ []) → (left ++ (got :: chunks).flatten).length ≤ size →
      (runTurns turn s (got :: chunks)).1 = [] ∧
        holds (runTurns turn s (got :: chunks)).2.1 (left ++ (got :: chunks).flatten)

theorem Blocks.of_stalls {turn : S → List UInt8 → List M × S × Bool} {kept : S → ℕ}
    {holds : S → List UInt8 → Prop} {size : ℕ} {malformed : List UInt8 → Prop}
    (h : Stalls turn holds size malformed)
    (hkept : ∀ s left, holds s left → kept s = left.length) :
    Blocks turn kept holds size malformed := by
  refine ⟨fun s left got hs hbad hne hfit => ?_, fun s left got chunks hs hbad hne hfit => ?_⟩
  · obtain ⟨s', hturn, hs'⟩ := h.turn_eq hs hbad hne hfit
    rintro (hclosed | hless)
    · rw [hturn] at hclosed
      cases hclosed
    · rw [hturn, hkept s left hs, hkept s' _ hs', length_append] at hless
      omega
  · obtain ⟨s', hrun, hs'⟩ := h.run hs hbad hne hfit
    rw [hrun]
    exact ⟨rfl, hs'⟩

end blocks

/-! ## The client -/

section client

variable {malloc : Malloc} {resync : Bool} {size : ℕ}

/-- The bytes that a client has not consumed. -/
structure ClientHolds (resync : Bool) (size : ℕ) (s : DltClient × DltMessage) (left : List UInt8) :
    Prop where
  saved : Saved s.1.buffer s.1.receiver left
  msg : s.2.Wf
  resync_eq : s.1.resyncSerialHeader = resync
  size_eq : s.1.receiver.buffersize = size

theorem dltClientReadMessages_content {buffer : List UInt8} {receiver : DltReceiver} {msg : DltMessage}
    (hbad : (dltMessageRead malloc msg (buffer.drop receiver.buf) receiver.bytesRcvd resync).2 =
      dltMessageErrorContent) :
    dltClientReadMessages malloc resync buffer receiver msg =
      { calls := [], receiver, failed := false
        msg := (dltMessageRead malloc msg (buffer.drop receiver.buf) receiver.bytesRcvd resync).1 } := by
  rw [dltClientReadMessages]
  exact dif_neg (by rw [hbad]; decide)

/-- A view is what `dlt_message_read` is given. -/
theorem View.content {buffer : List UInt8} {receiver : DltReceiver} {msg : DltMessage}
    {bytes : List UInt8} (hm : malloc.Succeeds) (h : View buffer receiver bytes) (hmsg : msg.Wf)
    (hbad : readFrame resync bytes = .error dltMessageErrorContent) :
    (dltMessageRead malloc msg (buffer.drop receiver.buf) receiver.bytesRcvd resync).1.Wf ∧
      (dltMessageRead malloc msg (buffer.drop receiver.buf) receiver.bytesRcvd resync).2 =
        dltMessageErrorContent := by
  have hle : receiver.bytesRcvd ≤ (buffer.drop receiver.buf).length := by
    have := h.le_size
    have := h.bytesRcvd_eq
    have := h.length_buffer
    rw [length_drop]
    omega
  have hview : (buffer.drop receiver.buf).take receiver.bytesRcvd = bytes := h.view_eq
  obtain ⟨hwf, herror, -⟩ := dltMessageRead_eq_readFrame hm hmsg hle resync
  rw [hview] at herror
  exact ⟨hwf, herror _ hbad⟩

theorem clientTurn_stalls (hm : malloc.Succeeds) :
    Stalls (clientTurn malloc) (ClientHolds resync size) size
      (fun bytes => readFrame resync bytes = .error dltMessageErrorContent) := by
  refine ⟨fun {s left got} hs hbad hgot hfit => ?_, fun h more => readFrame_content_append h more⟩
  obtain ⟨client, msg⟩ := s
  obtain ⟨hsaved, hmsg, hresync, hsize⟩ := hs
  simp only at hsaved hmsg hresync hsize
  rw [length_append, ← hsize] at hfit
  obtain ⟨hview, hsize', hret⟩ := receive_view hsaved hgot hfit
  obtain ⟨hwf, hcontent⟩ := View.content hm hview hmsg hbad
  have hread := dltClientReadMessages_content hcontent
  obtain ⟨hsaved', hsize'', hmoved⟩ := moveToBegin_saved hm hview
  have hpos := length_pos_iff.mpr hgot
  refine ⟨({ client with
      buffer := (dltReceiverReceive client.buffer client.receiver got).1
      receiver := (dltReceiverMoveToBegin malloc
        (dltReceiverReceive client.buffer client.receiver got).1
        (dltReceiverReceive client.buffer client.receiver got).2.1).1 }, _), ?_,
    hsaved', hwf, hresync, hsize''.trans (hsize'.trans hsize)⟩
  rw [clientTurn, if_neg (by rw [hret]; omega), dltClientRound]
  simp only [hresync, hread, hmoved]
  rfl

end client

/-! ## The clients of the daemon -/

section daemonClient

variable {σ : Type*} {malloc : Malloc} {control : σ → ℤ → DltMessage → σ} {nflag : Bool} {size : ℕ}

/-- The bytes of a client that the daemon has not consumed. -/
structure ClientStateHolds (nflag : Bool) (size : ℕ) (s : ClientState σ) (left : List UInt8) :
    Prop where
  saved : Saved s.buffer s.receiver left
  msg : s.msg.Wf
  nflag_eq : s.nflag = nflag
  size_eq : s.receiver.buffersize = size

theorem dltDaemonReadClientMessages_content (control : σ → ℤ → DltMessage → σ) {s : ClientState σ}
    (hbad : (dltMessageRead malloc s.msg (s.buffer.drop s.receiver.buf) s.receiver.bytesRcvd
      s.nflag).2 = dltMessageErrorContent) :
    dltDaemonReadClientMessages malloc control s =
      { read := [], failed := false
        state := { s with msg := (dltMessageRead malloc s.msg (s.buffer.drop s.receiver.buf)
          s.receiver.bytesRcvd s.nflag).1 } } := by
  rw [dltDaemonReadClientMessages]
  exact dif_neg (by rw [hbad]; decide)

theorem daemonClientTurn_stalls (hm : malloc.Succeeds) :
    Stalls (daemonClientTurn malloc control) (ClientStateHolds nflag size) size
      (fun bytes => readFrame nflag bytes = .error dltMessageErrorContent) := by
  refine ⟨fun {s left got} hs hbad hgot hfit => ?_, fun h more => readFrame_content_append h more⟩
  obtain ⟨hsaved, hmsg, hnflag, hsize⟩ := hs
  rw [length_append, ← hsize] at hfit
  obtain ⟨hview, hsize', hret⟩ := receive_view hsaved hgot hfit
  obtain ⟨hwf, hcontent⟩ := View.content hm hview hmsg (hnflag ▸ hbad)
  have hread := dltDaemonReadClientMessages_content control (s := { s with
    buffer := (dltReceiverReceive s.buffer s.receiver got).1
    receiver := (dltReceiverReceive s.buffer s.receiver got).2.1 }) hcontent
  obtain ⟨hsaved', hsize'', hmoved⟩ := moveToBegin_saved hm hview
  have hpos := length_pos_iff.mpr hgot
  have hne : ((dltReceiverReceive s.buffer s.receiver got).2.2 == 0) = false := by
    rw [hret, beq_eq_false_iff_ne]
    omega
  refine ⟨{ s with
      buffer := (dltReceiverReceive s.buffer s.receiver got).1
      receiver := (dltReceiverMoveToBegin malloc (dltReceiverReceive s.buffer s.receiver got).1
        (dltReceiverReceive s.buffer s.receiver got).2.1).1
      msg := _ }, ?_, hsaved', hwf, hnflag, hsize''.trans (hsize'.trans hsize)⟩
  rw [daemonClientTurn, dltDaemonProcessClientMessages]
  simp only [hread, hmoved, hne]
  rfl

end daemonClient

/-! ## The applications -/

section user

variable {σ : Type*} {malloc : Malloc} {h : UserHandlers σ}

/-- A log message of an application is malformed. -/
def MalformedLog (bytes : List UInt8) : Prop :=
  ∃ part, bytes = userHeader 1 ++ part ∧ readFrame false part = .error dltMessageErrorContent

theorem processLog_content {s : UserState σ}
    (hbad : (dltMessageRead malloc s.msg (s.buffer.drop (s.receiver.buf + sizeofDltUserHeader))
      (u32 (s.receiver.bytesRcvd - sizeofDltUserHeader)) false).2 = dltMessageErrorContent) :
    dltDaemonProcessUserMessageLog malloc h s =
      { dispatched := [], ok := false
        state := { s with msg := (dltMessageRead malloc s.msg
          (s.buffer.drop (s.receiver.buf + sizeofDltUserHeader))
          (u32 (s.receiver.bytesRcvd - sizeofDltUserHeader)) false).1 } } := by
  rw [dltDaemonProcessUserMessageLog]
  dsimp only
  rw [if_pos (by rw [hbad]; decide)]
  rfl

theorem processUserMessages_malformed (hm : malloc.Succeeds) {s : UserState σ} {bytes : List UInt8}
    (hv : UserView s bytes) (hbad : MalformedLog bytes) :
    (processUserMessages malloc h s).1 = [] ∧ UserView (processUserMessages malloc h s).2 bytes := by
  obtain ⟨part, rfl, hpart⟩ := hbad
  obtain ⟨hlength, hle, hbytes⟩ := hv.log_read (by simp)
  rw [drop_left' (UserMessage.length_userHeader 1)] at hbytes
  obtain ⟨hwf, herror, -⟩ := dltMessageRead_eq_readFrame hm hv.msg hle false
  rw [hbytes] at herror
  have hcontent := herror _ hpart
  rw [← hlength] at hcontent hwf
  have hlog := processLog_content (h := h) hcontent
  have hstep : processUserMessage malloc h s = some (dltDaemonProcessUserMessageLog malloc h s) :=
    processUserMessage_header (by decide) hv
  rw [hlog] at hstep
  rw [processUserMessages_stop hstep rfl]
  exact ⟨rfl, hv.view, hwf, hv.buffersize_eq⟩

/-- The daemon stalls on a malformed message of an application. -/
theorem userTurn_stalls (hm : malloc.Succeeds) :
    Stalls (userTurn malloc h) UserSaved dltReceiveBufsize MalformedLog := by
  refine ⟨fun {s left got} hs hbad hgot hfit => ?_, ?_⟩
  · rw [length_append] at hfit
    obtain ⟨s₁, s', hv, -, hcall, -, hsaved⟩ := process_receive hm hs hgot hfit (h := h)
    obtain ⟨hnone, hleft⟩ := processUserMessages_malformed hm hv hbad (h := h)
    refine ⟨s', ?_, hsaved _ hleft⟩
    rw [userTurn, hcall, hnone]
  · rintro bytes ⟨part, rfl, hpart⟩ more
    exact ⟨part ++ more, append_assoc .., readFrame_content_append hpart more⟩

end user

/-! ## The three loops -/

/-- **Each of the three loops blocks on a malformed message**: where `dlt_message_read` returns
`DLT_MESSAGE_ERROR_CONTENT`, the loop leaves the receiver as it is, and between two receives it keeps
every byte and the connection stays open; so it is in every later turn, however the messages behind
the malformed one arrive, until the receive buffer is full. -/
theorem malformed_blocks {malloc : Malloc} (hm : malloc.Succeeds) :
    ((∀ resync buffer receiver msg,
        (dltMessageRead malloc msg (buffer.drop receiver.buf) receiver.bytesRcvd resync).2 =
            dltMessageErrorContent →
          (dltClientReadMessages malloc resync buffer receiver msg).receiver = receiver) ∧
      ∀ resync size, Blocks (clientTurn malloc) (fun s => s.1.receiver.bytesRcvd)
        (ClientHolds resync size) size
        fun bytes => readFrame resync bytes = .error dltMessageErrorContent) ∧
    (∀ (σ : Type) (control : σ → ℤ → DltMessage → σ),
      (∀ s, (dltMessageRead malloc s.msg (s.buffer.drop s.receiver.buf) s.receiver.bytesRcvd
            s.nflag).2 = dltMessageErrorContent →
          (dltDaemonReadClientMessages malloc control s).state.receiver = s.receiver) ∧
      ∀ nflag size, Blocks (daemonClientTurn malloc control) (fun s => s.receiver.bytesRcvd)
        (ClientStateHolds nflag size) size
        fun bytes => readFrame nflag bytes = .error dltMessageErrorContent) ∧
    ∀ (σ : Type) (h : UserHandlers σ),
      (∀ s, (dltMessageRead malloc s.msg (s.buffer.drop (s.receiver.buf + sizeofDltUserHeader))
            (u32 (s.receiver.bytesRcvd - sizeofDltUserHeader)) false).2 = dltMessageErrorContent →
          (dltDaemonProcessUserMessageLog malloc h s).state.receiver = s.receiver) ∧
      Blocks (userTurn malloc h) (fun s => s.receiver.bytesRcvd) UserSaved dltReceiveBufsize
        MalformedLog := by
  refine ⟨⟨fun resync buffer receiver msg hbad => ?_, fun resync size => ?_⟩,
    fun σ control => ⟨fun s hbad => ?_, fun nflag size => ?_⟩, fun σ h => ⟨fun s hbad => ?_, ?_⟩⟩
  · rw [dltClientReadMessages_content hbad]
  · exact .of_stalls (clientTurn_stalls hm) fun s left hs => hs.saved.bytesRcvd_eq
  · rw [dltDaemonReadClientMessages_content control hbad]
  · exact .of_stalls (daemonClientTurn_stalls hm) fun s left hs => hs.saved.bytesRcvd_eq
  · rw [processLog_content hbad]
  · exact .of_stalls (userTurn_stalls hm) fun s left hs => hs.saved.bytesRcvd_eq

/-- A log message with the length zero. -/
def lengthZero : List UInt8 := [0x20, 0, 0, 0]

/-- A log message behind the malformed one. -/
def behindMalformed : List UInt8 := userHeader 1 ++ [0x20, 0, 0, 4]

theorem malformed_blocks_sample :
    (runTurns (userTurn zeroMalloc sampleHandlers) sampleConnection
      [userHeader 1 ++ lengthZero, behindMalformed]).1 = [] :=
  (((malformed_blocks zeroMalloc_succeeds).2.2 Unit sampleHandlers).2.not_dispatched
    sampleConnection [] (userHeader 1 ++ lengthZero) [behindMalformed]
    ⟨sampleConnection_saved.saved, sampleConnection_saved.msg, sampleConnection_saved.buffersize_eq⟩
    ⟨lengthZero, rfl, by decide⟩ (by decide) (by decide)).1

/-- The daemon's state of a client with a buffer of 100 bytes. -/
def sampleClientState : ClientState Unit where
  buffer := (dltReceiverInit .socket 100).1
  receiver := (dltReceiverInit .socket 100).2
  fd := 5
  msg := sampleMessage
  nflag := true
  daemon := ()

theorem sampleReceiver_saved :
    Saved (dltReceiverInit .socket 100).1 (dltReceiverInit .socket 100).2 [] :=
  saved_init (length_replicate ..) rfl rfl

/-- **A message with the length zero is never discarded** by any of the three loops. -/
theorem malformed_not_discarded :
    ¬ Discards (clientTurn zeroMalloc) (fun s => s.1.receiver.bytesRcvd)
        (resyncClient .socket 100, sampleMessage) (dltSerialHeader ++ lengthZero) ∧
      ¬ Discards (daemonClientTurn zeroMalloc fun d _ _ => d) (fun s => s.receiver.bytesRcvd)
        sampleClientState (dltSerialHeader ++ lengthZero) ∧
      ¬ Discards (userTurn zeroMalloc sampleHandlers) (fun s => s.receiver.bytesRcvd)
        sampleConnection (userHeader 1 ++ lengthZero) := by
  have hclient : Blocks (clientTurn zeroMalloc) (fun s => s.1.receiver.bytesRcvd)
      (ClientHolds true 100) 100 fun bytes => readFrame true bytes = .error dltMessageErrorContent :=
    .of_stalls (clientTurn_stalls zeroMalloc_succeeds) fun s left hs => hs.saved.bytesRcvd_eq
  have hdaemon : Blocks (daemonClientTurn zeroMalloc fun (d : Unit) _ _ => d)
      (fun s => s.receiver.bytesRcvd) (ClientStateHolds true 100) 100
      fun bytes => readFrame true bytes = .error dltMessageErrorContent :=
    .of_stalls (daemonClientTurn_stalls zeroMalloc_succeeds) fun s left hs => hs.saved.bytesRcvd_eq
  have huser : Blocks (userTurn zeroMalloc sampleHandlers) (fun s => s.receiver.bytesRcvd)
      UserSaved dltReceiveBufsize MalformedLog :=
    .of_stalls (userTurn_stalls zeroMalloc_succeeds) fun s left hs => hs.saved.bytesRcvd_eq
  have hcontent : readFrame true (dltSerialHeader ++ lengthZero) = .error dltMessageErrorContent := by
    decide
  refine ⟨?_, ?_, ?_⟩
  · exact hclient.not_discards _ [] _ ⟨sampleReceiver_saved, sampleMessage_wf, rfl, rfl⟩ hcontent
      (by decide) (by decide)
  · exact hdaemon.not_discards _ [] _ ⟨sampleReceiver_saved, sampleMessage_wf, rfl, rfl⟩ hcontent
      (by decide) (by decide)
  · exact huser.not_discards _ [] _ sampleConnection_saved ⟨lengthZero, rfl, by decide⟩
      (by decide) (by decide)

end Dlt.Daemon
