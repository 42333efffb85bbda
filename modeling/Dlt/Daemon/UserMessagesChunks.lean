import Dlt.Daemon.UserMessagesRead

/-!
# Chunks of the stream of an application

* `userMessages_chunks_iff` — the chunks do not matter exactly when no message has a description and
  `StopsHarmless` holds.
-/

namespace Dlt.Daemon

open Dlt.Lib Dlt.Shared List UserMessage
open UserMessage (userHeader)

variable {m : UserMessage} {got : List UInt8} {chunks : List (List UInt8)}

/-! ## Streams -/

/-- The bytes of the messages. -/
def stream (ms : List UserMessage) : List UInt8 := ms.flatMap UserMessage.encode

@[simp] theorem stream_nil : stream [] = [] := rfl

@[simp] theorem stream_cons (m : UserMessage) (ms : List UserMessage) :
    stream (m :: ms) = m.encode ++ stream ms := flatMap_cons ..

@[simp] theorem stream_append (ms ms' : List UserMessage) :
    stream (ms ++ ms') = stream ms ++ stream ms' := flatMap_append ..

variable {ms : List UserMessage}

theorem stream_eq_nil (h : stream ms = []) : ms = [] := by
  cases ms with
  | nil => rfl
  | cons m ms => exact absurd (append_eq_nil_iff.mp h).1 m.encode_ne_nil

section runs

variable {σ : Type*} {malloc : Malloc} {h : UserHandlers σ} {s : UserState σ}
  {bytes : List UInt8}

/-- The daemon after the messages. -/
def runHandlers (h : UserHandlers σ) (daemon : σ) (ms : List UserMessage) : σ :=
  ms.foldl (fun d m => (h.handle d m).1) daemon

variable (h) in
/-- Whenever a handler returns `-1` before the last message, the messages from its own on do not all
fit the receive buffer. -/
def StopsHarmless : σ → List UserMessage → Prop
  | _, [] => True
  | daemon, m :: rest =>
      ((h.handle daemon m).2 = true ∨ rest = [] ∨
        dltReceiveBufsize < (stream (m :: rest)).length) ∧
        StopsHarmless (h.handle daemon m).1 rest

theorem StopsHarmless.right {daemon : σ} {ms ms' : List UserMessage}
    (hstops : StopsHarmless h daemon (ms ++ ms')) :
    StopsHarmless h (runHandlers h daemon ms) ms' := by
  induction ms generalizing daemon with
  | nil => exact hstops
  | cons m ms ih => exact ih hstops.2

/-! ## One turn of the loop -/

/-- A user header in the stream is read where it stands. -/
theorem userHeader_at (before : List UInt8) {type : ℕ} {part : List UInt8} (htype : type < 16)
    (hv : UserView s (before ++ (userHeader type ++ part))) :
    dltUserCheckUserheader (s.buffer.drop (s.receiver.buf + before.length)) = true ∧
      userHeaderMessage (s.buffer.drop (s.receiver.buf + before.length)) = type ∧
      before.length + sizeofDltUserHeader ≤ s.receiver.bytesRcvd := by
  have hlen : (before ++ (userHeader type ++ part)).length =
      before.length + (sizeofDltUserHeader + part.length) := by simp
  have hpattern := hv.view.slice
    (show before.length + 4 ≤ _ by rw [hlen]; unfold sizeofDltUserHeader; omega)
  have hmessage := hv.view.slice
    (show before.length + 4 + 4 ≤ _ by rw [hlen]; unfold sizeofDltUserHeader; omega)
  rw [drop_left] at hpattern
  rw [drop_length_add_append] at hmessage
  refine ⟨?_, ?_, by rw [hv.view.bytesRcvd_eq, hlen]; omega⟩
  · rw [dltUserCheckUserheader, hpattern]
    exact check_userHeader type part
  · rw [userHeaderMessage, drop_drop, Nat.add_assoc, hmessage]
    exact message_userHeader htype part

theorem processUserMessage_header {type : ℕ} {part : List UInt8} (htype : type < 16)
    (hv : UserView s (userHeader type ++ part)) :
    processUserMessage malloc h s = some (processUserFunc malloc h type s) := by
  obtain ⟨hcheck, htypeEq, hrcvd⟩ := userHeader_at [] htype hv
  rw [length_nil] at hcheck htypeEq hrcvd
  have hoffset : userHeaderOffset s.buffer s.receiver 0 = 0 := by
    rw [userHeaderOffset, dif_neg (fun hc => Bool.noConfusion (hcheck.symm.trans hc.1))]
  rw [processUserMessage]
  dsimp only
  rw [if_neg (by omega), hoffset, hcheck, htypeEq, if_neg (by decide), if_neg (by decide)]

variable (malloc) in
theorem processUserMessage_skip {type : ℕ} {b : UInt8} {part : List UInt8} (htype : type < 16)
    (hv : UserView s (b :: (userHeader type ++ part))) :
    ∃ s', processUserMessage malloc h s = some (processUserFunc malloc h type s') ∧
      s'.daemon = s.daemon ∧ UserView s' (userHeader type ++ part) := by
  obtain ⟨hcheck, htypeEq, hrcvd⟩ := userHeader_at [b] htype hv
  rw [length_singleton] at hcheck htypeEq hrcvd
  have hfirst := hv.view.slice (show 0 + 4 ≤ _ by simp [sizeofDltUserHeader]; omega)
  have hcheck0 : dltUserCheckUserheader (s.buffer.drop (s.receiver.buf + 0)) = false := by
    rw [dltUserCheckUserheader, hfirst]
    simp [userHeader, userHeaderPattern]
  have hoffset : userHeaderOffset s.buffer s.receiver 0 = 1 := by
    rw [userHeaderOffset, dif_pos ⟨hcheck0, by omega⟩, userHeaderOffset,
      dif_neg (fun hc => Bool.noConfusion (hcheck.symm.trans hc.1))]
  obtain ⟨hview, -⟩ := remove_view hv.view (show 0 < 1 by decide) (by simp)
  refine ⟨{ s with receiver := (dltReceiverRemove s.receiver (1 : ℕ)).1 }, ?_, rfl, hview, hv.msg,
    (remove_buffersize _ _).trans hv.buffersize_eq⟩
  rw [processUserMessage]
  dsimp only
  rw [if_neg (by omega), hoffset, hcheck, htypeEq, if_neg (by decide), if_pos (by decide)]

theorem processUserMessages_short (hv : UserView s bytes)
    (hshort : bytes.length < sizeofDltUserHeader) : processUserMessages malloc h s = ([], s) := by
  have hnone : processUserMessage malloc h s = none := by
    rw [processUserMessage, if_pos (by rw [hv.view.bytesRcvd_eq]; exact hshort)]
  rw [processUserMessages]
  split
  · rfl
  · rename_i hsome
    rw [hnone] at hsome
    cases hsome

/-- After a handler that did not return `-1` the loop goes on. -/
theorem processUserMessages_next {step : UserStep σ}
    (hstep : processUserMessage malloc h s = some step) (hok : step.ok = true) :
    processUserMessages malloc h s =
      (step.dispatched ++ (processUserMessages malloc h step.state).1,
        (processUserMessages malloc h step.state).2) := by
  conv_lhs => rw [processUserMessages]
  split
  · rename_i hnone
    rw [hstep] at hnone
    cases hnone
  · rename_i hsome
    rw [hstep] at hsome
    cases hsome
    rw [dif_pos hok]

/-- A handler that returned `-1` ends the loop. -/
theorem processUserMessages_stop {step : UserStep σ}
    (hstep : processUserMessage malloc h s = some step) (hok : step.ok = false) :
    processUserMessages malloc h s = (step.dispatched, step.state) := by
  rw [processUserMessages]
  split
  · rename_i hnone
    rw [hstep] at hnone
    cases hnone
  · rename_i hsome
    rw [hstep] at hsome
    cases hsome
    rw [dif_neg (by simp [hok])]

/-- A message that is there is the first one that the loop takes. -/
theorem processUserMessages_message (hm : malloc.Succeeds) (hlist : ∀ d, h.usersList d = true) (hvalid : m.Valid)
    {rest : List UInt8} (hv : UserView s (m.encode ++ rest)) :
    ∃ step, Took h s m.taken (m.description.drop dltDaemonDescsize ++ rest) step ∧
      (step.ok = true → processUserMessages malloc h s =
        (m.taken :: (processUserMessages malloc h step.state).1,
          (processUserMessages malloc h step.state).2)) ∧
      (step.ok = false → processUserMessages malloc h s = ([m.taken], step.state)) := by
  have hheader : UserView s (userHeader m.type ++ (m.payload ++ (m.tail ++ rest))) := by
    simpa [encode] using hv
  have hfunc : processUserMessage malloc h s = some (processUserFunc malloc h m.type s) :=
    processUserMessage_header (type_lt m) hheader
  have htook := processUserFunc_complete hm hlist hvalid hv
  refine ⟨_, htook, fun hok => ?_, fun hok => ?_⟩
  · rw [processUserMessages_next hfunc hok, htook.dispatched_eq]
    rfl
  · rw [processUserMessages_stop hfunc hok, htook.dispatched_eq]

/-! ## The loop on a part of the stream -/

/-- A message of the stream: a correct sender wrote it, and it has no description. -/
def Plain (m : UserMessage) : Prop := m.Valid ∧ m.description = []

/-- Where the loop leaves the stream: behind some messages, with the beginning of the next one or
after a handler that returned `-1`. -/
structure LoopLeft (h : UserHandlers σ) (daemon : σ) (ms : List UserMessage)
    (bytes future : List UInt8) (looped : List UserMessage × UserState σ) (left : List UserMessage)
    (rest : List UInt8) : Prop where
  /-- The messages that were taken, and those that were not. -/
  taken_eq : ms = looped.1 ++ left
  bytes_eq : bytes = stream looped.1 ++ rest
  future_eq : rest ++ future = stream left
  view : UserView looped.2 rest
  daemon_eq : looped.2.daemon = runHandlers h daemon looped.1
  /-- Why the loop was left. -/
  reason : (∀ m ∈ left.head?, rest.length < m.encode.length) ∨
    ∃ before m, looped.1 = before ++ [m] ∧ (h.handle (runHandlers h daemon before) m).2 = false

/-- **The loop** on a part of a stream of messages without description. -/
theorem processUserMessages_stream (hm : malloc.Succeeds) (hlist : ∀ d, h.usersList d = true)
    (hms : ∀ m ∈ ms, Plain m) {future : List UInt8} (hv : UserView s bytes) (hbytes : bytes ++ future = stream ms) :
    ∃ left rest, LoopLeft h s.daemon ms bytes future (processUserMessages malloc h s) left rest := by
  induction ms generalizing s bytes with
  | nil =>
    have hnil : bytes = [] := (append_eq_nil_iff.mp hbytes).1
    subst hnil
    rw [processUserMessages_short hv (by decide)]
    exact ⟨[], [], rfl, rfl, hbytes, hv, rfl, .inl (by simp)⟩
  | cons m ms ih =>
    obtain ⟨hvalid, hdesc⟩ := hms m mem_cons_self
    rw [stream_cons] at hbytes
    by_cases hwhole : m.encode.length ≤ bytes.length
    · -- the whole message is there
      obtain ⟨more, hmore⟩ : m.encode <+: bytes :=
        prefix_of_prefix_length_le (prefix_append m.encode (stream ms))
          (hbytes ▸ prefix_append bytes future) hwhole
      subst hmore
      rw [append_assoc, append_cancel_left_eq] at hbytes
      obtain ⟨step, htook, hnext, hstop⟩ := processUserMessages_message hm hlist hvalid hv
      rw [taken_eq_iff.mpr (by rw [hdesc]; decide)] at htook hnext hstop
      rw [hdesc, drop_nil, nil_append] at htook
      cases hok : step.ok with
      | true =>
        obtain ⟨left, rest, hleft⟩ := ih (fun m' hm' => hms m' (mem_cons_of_mem m hm'))
          htook.view hbytes
        rw [hnext hok]
        refine ⟨left, rest, ?_, ?_, hleft.future_eq, hleft.view, ?_, ?_⟩
        · rw [hleft.taken_eq]
          simp
        · simp [hleft.bytes_eq]
        · rw [hleft.daemon_eq, htook.daemon_eq]
          rfl
        · rcases hleft.reason with hshort | ⟨before, m', hsplit, hfail⟩
          · exact .inl hshort
          · refine .inr ⟨m :: before, m', ?_, ?_⟩
            · rw [hsplit]
              rfl
            · rw [htook.daemon_eq] at hfail
              exact hfail
      | false =>
        rw [hstop hok]
        refine ⟨ms, more, rfl, by simp, hbytes, htook.view, htook.daemon_eq, .inr ?_⟩
        exact ⟨[], m, rfl, htook.ok_eq.symm.trans hok⟩
    · -- only a part of the message is there
      have hpre : bytes <+: m.encode :=
        prefix_of_prefix_length_le (prefix_append bytes future)
          (hbytes ▸ prefix_append m.encode (stream ms)) (by omega)
      have hreason : ∀ m' ∈ (m :: ms).head?, bytes.length < m'.encode.length := by
        intro m' hm'
        rw [head?_cons, Option.mem_some_iff] at hm'
        subst hm'
        omega
      by_cases hshort : bytes.length < sizeofDltUserHeader
      · rw [processUserMessages_short hv hshort]
        exact ⟨m :: ms, bytes, rfl, rfl, hbytes, hv, rfl, .inl hreason⟩
      obtain ⟨part, rfl⟩ : userHeader m.type <+: bytes :=
        prefix_of_prefix_length_le (prefix_append _ _) hpre (by simp; omega)
      obtain ⟨more, hmore⟩ := hpre
      have hpart : part ++ more = m.payload ++ m.tail := by
        simpa [encode] using hmore
      have hne : more ≠ [] := by
        rintro rfl
        rw [← hmore, append_nil] at hwhole
        exact hwhole le_rfl
      have hrefused := processUserFunc_partial hm hvalid hdesc hpart hne hv (h := h)
      rw [processUserMessages_stop (processUserMessage_header (type_lt m) hv) hrefused.ok_eq,
        hrefused.dispatched_eq]
      exact ⟨m :: ms, _, rfl, rfl, hbytes, hrefused.view, hrefused.daemon_eq, .inl hreason⟩

/-! ## Receives -/

/-- Between two receives: the bytes not yet consumed are saved. -/
structure UserSaved (s : UserState σ) (bytes : List UInt8) : Prop where
  /-- The bytes lie in the backup or at the beginning of the buffer. -/
  saved : Saved s.buffer s.receiver bytes
  /-- The record for the log messages. -/
  msg : s.msg.Wf
  /-- The receive buffer is the one of the application receivers. -/
  buffersize_eq : s.receiver.buffersize = dltReceiveBufsize

/-- A receive, by what the loop does with the bytes that are there then. -/
theorem process_receive (hm : malloc.Succeeds) (hs : UserSaved s bytes) (hgot : got ≠ [])
    (hfit : bytes.length + got.length ≤ dltReceiveBufsize) :
    ∃ s₁ s', UserView s₁ (bytes ++ got) ∧ s₁.daemon = s.daemon ∧
      dltDaemonProcessUserMessages malloc h s got =
        ((processUserMessages malloc h s₁).1, s', false) ∧
      s'.daemon = (processUserMessages malloc h s₁).2.daemon ∧
      ∀ rest, UserView (processUserMessages malloc h s₁).2 rest → UserSaved s' rest := by
  obtain ⟨hview, hsize, hret⟩ := receive_view hs.saved hgot (hs.buffersize_eq ▸ hfit)
  have hpos := length_pos_iff.mpr hgot
  obtain ⟨s₁, hs₁⟩ : ∃ s₁ : UserState σ, { s with
      buffer := (dltReceiverReceive s.buffer s.receiver got).1
      receiver := (dltReceiverReceive s.buffer s.receiver got).2.1 } = s₁ := ⟨_, rfl⟩
  refine ⟨s₁, { (processUserMessages malloc h s₁).2 with
      receiver := (dltReceiverMoveToBegin malloc (processUserMessages malloc h s₁).2.buffer
        (processUserMessages malloc h s₁).2.receiver).1 }, ?_, ?_, ?_, rfl, fun rest hrest => ?_⟩
  · rw [← hs₁]
    exact ⟨hview, hs.msg, hsize.trans hs.buffersize_eq⟩
  · rw [← hs₁]
  · rw [dltDaemonProcessUserMessages]
    dsimp only
    rw [if_neg (by rw [hret]; omega), hs₁]
  · obtain ⟨hsaved, hsize', -⟩ := moveToBegin_saved hm hrest.view
    exact ⟨hsaved, hrest.msg, hsize'.trans hrest.buffersize_eq⟩

variable (malloc h) in
/-- The receives `chunks` take the messages `taken` and lead to `s'`. -/
def Advances (s : UserState σ) (chunks : List (List UInt8)) (taken : List UserMessage)
    (s' : UserState σ) : Prop :=
  ∀ more, ReceivesFitUser malloc h s' more →
    ReceivesFitUser malloc h s (chunks ++ more) ∧
      (processReceives malloc h s (chunks ++ more)).1 =
        taken ++ (processReceives malloc h s' more).1

theorem Advances.refl (s : UserState σ) : Advances malloc h s [] [] s := fun _ hfit => ⟨hfit, rfl⟩

theorem Advances.trans {s₁ s₂ s₃ : UserState σ} {chunks₁ chunks₂ : List (List UInt8)}
    {taken₁ taken₂ : List UserMessage} (h₁ : Advances malloc h s₁ chunks₁ taken₁ s₂)
    (h₂ : Advances malloc h s₂ chunks₂ taken₂ s₃) :
    Advances malloc h s₁ (chunks₁ ++ chunks₂) (taken₁ ++ taken₂) s₃ := by
  intro more hmore
  obtain ⟨hfit₂, hrun₂⟩ := h₂ more hmore
  obtain ⟨hfit₁, hrun₁⟩ := h₁ (chunks₂ ++ more) hfit₂
  rw [append_assoc, hrun₁, hrun₂, append_assoc]
  exact ⟨hfit₁, rfl⟩

theorem Advances.of_receive {s' : UserState σ} {taken : List UserMessage} (hs : UserSaved s bytes)
    (hgot : got ≠ []) (hfit : bytes.length + got.length ≤ dltReceiveBufsize)
    (hround : dltDaemonProcessUserMessages malloc h s got = (taken, s', false)) :
    Advances malloc h s [got] taken s' := by
  intro more hmore
  refine ⟨⟨hgot, ?_, ?_⟩, ?_⟩
  · rw [hs.saved.bytesRcvd_eq, hs.buffersize_eq]
    exact hfit
  · rw [hround]
    exact hmore
  · rw [singleton_append, processReceives, hround]
    rfl

theorem Advances.run {s' : UserState σ} {taken : List UserMessage} (hadv : Advances malloc h s chunks taken s') :
    ReceivesFitUser malloc h s chunks ∧ (processReceives malloc h s chunks).1 = taken := by
  have hrun := hadv [] trivial
  simpa [processReceives] using hrun

/-! ## The receives of a stream of messages without description -/

section

variable (hm : malloc.Succeeds) (hlist : ∀ d, h.usersList d = true)
include hm hlist

/-- **The run**: when the bytes at hand and the receives make up a stream of messages without
description, and the handlers that return `-1` do no harm, all messages are taken. -/
theorem processReceives_stream (hms : ∀ m ∈ ms, Plain m) (hs : UserSaved s bytes)
    (hbytes : bytes ++ chunks.flatten = stream ms) (hfit : ReceivesFitUser malloc h s chunks)
    (hstops : StopsHarmless h s.daemon ms) (hlast : chunks = [] → ms = []) :
    (processReceives malloc h s chunks).1 = ms := by
  induction chunks generalizing s bytes ms with
  | nil => rw [hlast rfl, processReceives]
  | cons got chunks ih =>
    obtain ⟨hgot, hroom, hrest⟩ := hfit
    rw [hs.saved.bytesRcvd_eq, hs.buffersize_eq] at hroom
    obtain ⟨s₁, s', hv, hdaemon, hcall, hdaemon', hsaved⟩ := process_receive hm hs hgot hroom (h := h)
    rw [flatten_cons, ← append_assoc] at hbytes
    obtain ⟨left, rest, hleft⟩ := processUserMessages_stream hm hlist hms hv hbytes
    have hsplit := hleft.taken_eq
    have hplain : ∀ m ∈ left, Plain m := fun m hm' =>
      hms m (hsplit ▸ mem_append_right _ hm')
    have hstops' : StopsHarmless h s'.daemon left := by
      rw [hdaemon', hleft.daemon_eq, hdaemon]
      exact (hsplit ▸ hstops).right
    rw [hcall] at hrest
    rw [processReceives, hcall]
    simp only [Bool.false_eq_true, if_false]
    rw [ih hplain (hsaved rest hleft.view) hleft.future_eq hrest hstops' ?_, ← hsplit]
    -- behind the last receive, a message that was not taken would lie behind a harmful stop
    rintro rfl
    have hrestEq : rest = stream left := by simpa using hleft.future_eq
    rcases hleft.reason with hshort | ⟨before, m, hbefore, hfail⟩
    · cases left with
      | nil => rfl
      | cons m left =>
        have hlt := hshort m (by simp)
        rw [hrestEq, stream_cons, length_append] at hlt
        omega
    · have hstopsAt : StopsHarmless h (runHandlers h s.daemon before) (m :: left) := by
        apply StopsHarmless.right
        rw [hsplit, hbefore, append_assoc] at hstops
        exact hstops
      rw [hdaemon] at hfail
      rcases hstopsAt.1 with hok | hnil | hlong
      · rw [hfail] at hok
        cases hok
      · exact hnil
      · have hle := hv.length_le
        rw [hleft.bytes_eq, hbefore, hrestEq, stream_append, stream_cons, stream_nil] at hle
        rw [stream_cons] at hlong
        simp only [length_append, length_nil] at hle hlong
        omega

/-- Without an assumption on the handlers, the messages taken are the first ones of the stream. -/
theorem processReceives_begin (hms : ∀ m ∈ ms, Plain m) {future : List UInt8} (hs : UserSaved s bytes)
    (hbytes : bytes ++ (chunks.flatten ++ future) = stream ms) (hfit : ReceivesFitUser malloc h s chunks) :
    (processReceives malloc h s chunks).1 <+: ms := by
  induction chunks generalizing s bytes ms with
  | nil => exact nil_prefix
  | cons got chunks ih =>
    obtain ⟨hgot, hroom, hrest⟩ := hfit
    rw [hs.saved.bytesRcvd_eq, hs.buffersize_eq] at hroom
    obtain ⟨s₁, s', hv, -, hcall, -, hsaved⟩ := process_receive hm hs hgot hroom (h := h)
    rw [flatten_cons, append_assoc, ← append_assoc] at hbytes
    obtain ⟨left, rest, hleft⟩ := processUserMessages_stream hm hlist hms hv hbytes
    have hsplit := hleft.taken_eq
    have hplain : ∀ m ∈ left, Plain m := fun m hm' =>
      hms m (hsplit ▸ mem_append_right _ hm')
    rw [hcall] at hrest
    rw [processReceives, hcall]
    simp only [Bool.false_eq_true, if_false]
    have hpre := ih hplain (hsaved rest hleft.view) hleft.future_eq hrest
    rw [hsplit]
    exact (prefix_append_right_inj _).mpr hpre

/-! ## Receives of whole messages -/

theorem advances_complete (hvalid : m.Valid) (hdesc : m.description.length ≤ dltDaemonDescsize)
    (hfit : m.encode.length ≤ dltReceiveBufsize) (hs : UserSaved s bytes) (hgot : got ≠ [])
    (hbytes : bytes ++ got = m.encode) :
    ∃ s', Advances malloc h s [got] [m] s' ∧ UserSaved s' [] ∧
      s'.daemon = (h.handle s.daemon m).1 := by
  have hroom : bytes.length + got.length ≤ dltReceiveBufsize := by
    rw [← length_append, hbytes]
    exact hfit
  obtain ⟨s₁, s', hv, hdaemon, hcall, hdaemon', hsaved⟩ := process_receive hm hs hgot hroom (h := h)
  rw [hbytes, ← append_nil m.encode] at hv
  obtain ⟨step, htook, hnext, hstop⟩ := processUserMessages_message hm hlist hvalid hv
  rw [taken_eq_iff.mpr hdesc] at htook hnext hstop
  rw [drop_eq_nil_of_le hdesc, append_nil] at htook
  have hlooped : processUserMessages malloc h s₁ = ([m], step.state) := by
    cases hok : step.ok with
    | true => rw [hnext hok, processUserMessages_short htook.view (by decide)]
    | false => exact hstop hok
  rw [hlooped] at hcall hdaemon' hsaved
  refine ⟨s', .of_receive hs hgot hroom hcall, hsaved [] htook.view, ?_⟩
  rw [hdaemon', htook.daemon_eq, hdaemon]

theorem advances_messages (hvalid : ∀ m ∈ ms, m.Valid) (hdesc : ∀ m ∈ ms, m.description.length ≤ dltDaemonDescsize)
    (hfit : ∀ m ∈ ms, m.encode.length ≤ dltReceiveBufsize) (hs : UserSaved s []) :
    ∃ s', Advances malloc h s (ms.map UserMessage.encode) ms s' ∧ UserSaved s' [] ∧
      s'.daemon = runHandlers h s.daemon ms := by
  induction ms generalizing s with
  | nil => exact ⟨s, .refl s, hs, rfl⟩
  | cons m ms ih =>
    obtain ⟨s₁, hadv, hsaved, hdaemon⟩ := advances_complete hm hlist
      (hvalid m mem_cons_self) (hdesc m mem_cons_self) (hfit m mem_cons_self) hs
      m.encode_ne_nil (nil_append _)
    obtain ⟨s', hadv', hsaved', hdaemon'⟩ := ih
      (fun m' h' => hvalid m' (mem_cons_of_mem m h'))
      (fun m' h' => hdesc m' (mem_cons_of_mem m h'))
      (fun m' h' => hfit m' (mem_cons_of_mem m h')) hsaved
    refine ⟨s', hadv.trans hadv', hsaved', ?_⟩
    rw [hdaemon', hdaemon]
    rfl

end

theorem flatten_encode (ms : List UserMessage) : (ms.map UserMessage.encode).flatten = stream ms :=
  (flatMap_def ..).symm

/-! ## Harmful receives -/

theorem body_ne_nil (hvalid : m.Valid) : m.payload ++ m.tail ≠ [] := by
  intro hnil
  have hpayload := (append_eq_nil_iff.mp hnil).1
  cases m with
  | log header payload =>
    have hpos : 0 < header.length := (bodyFrame_length hvalid.1).1
    have hheader := (append_eq_nil_iff.mp (append_eq_nil_iff.mp hnil).2).1
    rw [hheader, length_nil] at hpos
    omega
  | marker userctxt => exact hvalid.elim
  | _ => exact Layout.encode_ne_nil _ _ (by decide) hpayload

/-- **A registration without its last byte** is lost. -/
theorem advances_lost (hm : malloc.Succeeds) (hvalid : m.Valid) (hdesc : m.description ≠ [])
    (hle : m.description.length ≤ dltDaemonDescsize) (hfit : m.encode.length ≤ dltReceiveBufsize)
    (hs : UserSaved s []) : ∃ s', Advances malloc h s [m.encode.dropLast] [] s' ∧ UserSaved s' [] := by
  have hcut : m.encode.dropLast =
      userHeader m.type ++ (m.payload ++ m.description.dropLast) := by
    have htail : m.tail = m.description := by cases m <;> first | rfl | exact absurd rfl hdesc
    rw [encode, htail, dropLast_append_of_ne_nil (by simp [hdesc]),
      dropLast_append_of_ne_nil hdesc]
  have hne : m.encode.dropLast ≠ [] := by
    rw [hcut]
    simp [userHeader, userHeaderPattern]
  have hroom : ([] : List UInt8).length + m.encode.dropLast.length ≤ dltReceiveBufsize := by
    rw [length_dropLast, length_nil]
    omega
  obtain ⟨s₁, s', hv, -, hcall, -, hsaved⟩ := process_receive hm hs hne hroom (h := h)
  rw [nil_append, hcut] at hv
  have hrefused : Refused s₁ [] (processUserFunc malloc h m.type s₁) :=
    processUserFunc_lost hvalid hdesc hle hv
  have hlooped := processUserMessages_stop (processUserMessage_header (type_lt m) hv)
    hrefused.ok_eq
  rw [hrefused.dispatched_eq] at hlooped
  rw [hlooped] at hcall hsaved
  exact ⟨s', .of_receive hs hne hroom hcall, hsaved [] hrefused.view⟩

/-- One byte, and then a message without its last byte: the byte is skipped, and the message is
completed by the next receive. -/
theorem advances_behind (hm : malloc.Succeeds) (hlist : ∀ d, h.usersList d = true) (hplain : Plain m)
    (hfit : m.encode.length ≤ dltReceiveBufsize) (b : UInt8) (hs : UserSaved s []) :
    ∃ chunks s', Advances malloc h s chunks [m] s' ∧ UserSaved s' [] ∧
      chunks.flatten = b :: m.encode := by
  obtain ⟨hvalid, hdesc⟩ := hplain
  have hbody := body_ne_nil hvalid
  have hcut : m.encode.dropLast = userHeader m.type ++ (m.payload ++ m.tail).dropLast := by
    rw [encode, dropLast_append_of_ne_nil hbody]
  have hwhole : m.encode.dropLast ++ [m.encode.getLast m.encode_ne_nil] = m.encode :=
    dropLast_append_getLast _
  have hpos := length_pos_iff.mpr m.encode_ne_nil
  have hroom : ([] : List UInt8).length + (b :: m.encode.dropLast).length ≤ dltReceiveBufsize := by
    rw [length_cons, length_dropLast, length_nil]
    omega
  obtain ⟨s₁, s', hv, -, hcall, -, hsaved⟩ :=
    process_receive hm hs (cons_ne_nil b m.encode.dropLast) hroom (h := h)
  rw [nil_append, hcut] at hv
  obtain ⟨s₂, hskip, -, hv₂⟩ := processUserMessage_skip malloc (type_lt m) hv (h := h)
  have hrefused := processUserFunc_partial hm hvalid hdesc (dropLast_append_getLast hbody)
    (cons_ne_nil _ _) hv₂ (h := h)
  have hlooped := processUserMessages_stop hskip hrefused.ok_eq
  rw [hrefused.dispatched_eq] at hlooped
  rw [hlooped] at hcall hsaved
  have hsaved' := hsaved _ hrefused.view
  rw [← hcut] at hsaved'
  obtain ⟨s'', hadv, hsaved'', -⟩ := advances_complete hm hlist hvalid (by rw [hdesc]; decide) hfit
    hsaved' (cons_ne_nil _ _) hwhole
  refine ⟨_, s'', (Advances.of_receive hs (cons_ne_nil _ _) hroom hcall).trans hadv,
    hsaved'', ?_⟩
  simp [hwhole]

theorem advances_byte (hm : malloc.Succeeds) (b : UInt8) (hs : UserSaved s []) :
    ∃ s', Advances malloc h s [[b]] [] s' := by
  have hroom : ([] : List UInt8).length + [b].length ≤ dltReceiveBufsize := by
    rw [length_nil, length_singleton]
    decide
  obtain ⟨s₁, s', hv, -, hcall, -, -⟩ := process_receive hm hs (cons_ne_nil b []) hroom (h := h)
  rw [processUserMessages_short hv (by simp [sizeofDltUserHeader])] at hcall
  exact ⟨s', .of_receive hs (cons_ne_nil b []) hroom hcall⟩

/-- **A harmful stop**: the messages behind one whose handler returns `-1` stay in the buffer. -/
theorem advances_stop (hm : malloc.Succeeds) (hlist : ∀ d, h.usersList d = true) (hplain : Plain m)
    (hfail : (h.handle s.daemon m).2 = false) {rest : List UInt8}
    (hfit : (m.encode ++ rest).length ≤ dltReceiveBufsize) (hs : UserSaved s []) :
    ∃ s', Advances malloc h s [m.encode ++ rest] [m] s' := by
  obtain ⟨hvalid, hdesc⟩ := hplain
  have hne : m.encode ++ rest ≠ [] := by simp [m.encode_ne_nil]
  have hroom : ([] : List UInt8).length + (m.encode ++ rest).length ≤ dltReceiveBufsize := by
    rw [length_nil]
    omega
  obtain ⟨s₁, s', hv, hdaemon, hcall, -, -⟩ := process_receive hm hs hne hroom (h := h)
  obtain ⟨step, htook, -, hstop⟩ := processUserMessages_message hm hlist hvalid hv
  rw [taken_eq_iff.mpr (by rw [hdesc]; decide)] at htook hstop
  rw [hstop (by rw [htook.ok_eq, hdaemon]; exact hfail)] at hcall
  exact ⟨s', .of_receive hs hne hroom hcall⟩

/-- **A long description** is cut. -/
theorem advances_cut (hm : malloc.Succeeds) (hlist : ∀ d, h.usersList d = true) (hvalid : m.Valid)
    (hfit : m.encode.length ≤ dltReceiveBufsize) (hs : UserSaved s []) :
    ∃ others s', Advances malloc h s [m.encode] (m.taken :: others) s' := by
  have hroom : ([] : List UInt8).length + m.encode.length ≤ dltReceiveBufsize := by
    rw [length_nil]
    omega
  obtain ⟨s₁, s', hv, -, hcall, -, -⟩ := process_receive hm hs m.encode_ne_nil hroom (h := h)
  rw [nil_append, ← append_nil m.encode] at hv
  obtain ⟨step, -, hnext, hstop⟩ := processUserMessages_message hm hlist hvalid hv
  cases hok : step.ok with
  | true =>
    rw [hnext hok] at hcall
    exact ⟨_, s', .of_receive hs m.encode_ne_nil hroom hcall⟩
  | false =>
    rw [hstop hok] at hcall
    exact ⟨[], s', .of_receive hs m.encode_ne_nil hroom hcall⟩

/-! ## The chunks do not matter -/

variable (malloc h) in
/-- The messages are taken in order and as they are, at every point of the stream, and all of them
at its end. -/
def InOrder (s : UserState σ) (ms : List UserMessage) : Prop :=
  ∀ chunks, ReceivesFitUser malloc h s chunks → chunks.flatten <+: stream ms →
    (processReceives malloc h s chunks).1 <+: ms ∧
      (chunks.flatten = stream ms → (processReceives malloc h s chunks).1 = ms)

variable (malloc h) in
/-- The same messages are taken from the whole stream, whatever the chunks are. -/
def SameForAllChunks (s : UserState σ) (ms : List UserMessage) : Prop :=
  ∀ chunks chunks', ReceivesFitUser malloc h s chunks → chunks.flatten = stream ms →
    ReceivesFitUser malloc h s chunks' → chunks'.flatten = stream ms →
      (processReceives malloc h s chunks).1 = (processReceives malloc h s chunks').1

theorem exists_harmful {daemon : σ} (hstops : ¬ StopsHarmless h daemon ms) :
    ∃ before m rest, ms = before ++ m :: rest ∧
      (h.handle (runHandlers h daemon before) m).2 = false ∧ rest ≠ [] ∧
      (stream (m :: rest)).length ≤ dltReceiveBufsize := by
  induction ms generalizing daemon with
  | nil => exact absurd trivial hstops
  | cons m ms ih =>
    by_cases hrest : StopsHarmless h (h.handle daemon m).1 ms
    · have hhere : ¬ ((h.handle daemon m).2 = true ∨ ms = [] ∨
          dltReceiveBufsize < (stream (m :: ms)).length) := fun hor => hstops ⟨hor, hrest⟩
      rw [not_or, not_or, not_lt, Bool.not_eq_true] at hhere
      exact ⟨[], m, ms, rfl, hhere.1, hhere.2.1, hhere.2.2⟩
    · obtain ⟨before, m', rest, hsplit, hfail, hne, hfit⟩ := ih hrest
      exact ⟨m :: before, m', rest, by rw [hsplit]; rfl, hfail, hne, hfit⟩

theorem exists_first {α : Type*} {p : α → Prop} {xs : List α} (hex : ∃ x ∈ xs, p x) :
    ∃ before x rest, xs = before ++ x :: rest ∧ p x ∧ ∀ y ∈ before, ¬ p y := by
  classical
  obtain ⟨x, hx⟩ := Option.isSome_iff_exists.mp (@find?_isSome α xs (p ·) |>.mpr (by simpa using hex))
  obtain ⟨hpx, before, rest, hsplit, hbefore⟩ := find?_eq_some_iff_append.mp hx
  exact ⟨before, x, rest, hsplit, by simpa using hpx, by simpa using hbefore⟩

theorem exists_last {α : Type*} {p : α → Prop} {xs : List α} (hex : ∃ x ∈ xs, p x) :
    ∃ before x rest, xs = before ++ x :: rest ∧ p x ∧ ∀ y ∈ rest, ¬ p y := by
  obtain ⟨rest, x, before, hsplit, hpx, hrest⟩ := @exists_first α p xs.reverse (by simpa using hex)
  refine ⟨before.reverse, x, rest.reverse, ?_, hpx, by simpa using hrest⟩
  rw [← reverse_reverse xs, hsplit]
  simp

section converse

variable {ms : List UserMessage}

section

variable (hm : malloc.Succeeds)
include hm

section

variable (hlist : ∀ d, h.usersList d = true)
include hlist

section

variable (hvalid : ∀ m ∈ ms, m.Valid) (hdesc : ∀ m ∈ ms, m.description.length ≤ dltDaemonDescsize)
  (hfit : ∀ m ∈ ms, m.encode.length ≤ dltReceiveBufsize) (hs : UserSaved s [])
include hvalid hdesc hfit hs

/-- Messages without a long description can arrive one by one, and then they are all taken. -/
theorem exists_whole :
    ∃ chunks, ReceivesFitUser malloc h s chunks ∧ chunks.flatten = stream ms ∧
      (processReceives malloc h s chunks).1 = ms := by
  obtain ⟨s', hadv, -, -⟩ := advances_messages hm hlist hvalid hdesc hfit hs
  obtain ⟨hfits, hrun⟩ := hadv.run
  exact ⟨_, hfits, flatten_encode ms, hrun⟩

/-- **A description in the stream**: some chunks lose a registration. -/
theorem exists_lost (hex : ∃ m ∈ ms, m.description ≠ []) :
    ∃ chunks, ReceivesFitUser malloc h s chunks ∧ chunks.flatten = stream ms ∧
      (processReceives malloc h s chunks).1.length < ms.length := by
  obtain ⟨before, m, rest, hsplit, hm', hrest⟩ := exists_last hex
  subst hsplit
  simp only [mem_append, mem_cons] at hvalid hdesc hfit
  -- up to the last message with a description, one message after another
  obtain ⟨s₁, hadv₁, hs₁, -⟩ := advances_messages hm hlist
    (fun x hx => hvalid x (.inl hx)) (fun x hx => hdesc x (.inl hx))
    (fun x hx => hfit x (.inl hx)) hs
  obtain ⟨s₂, hadv₂, hs₂⟩ := advances_lost hm (hvalid m (.inr (.inl rfl))) hm'
    (hdesc m (.inr (.inl rfl))) (hfit m (.inr (.inl rfl))) hs₁
  obtain ⟨b, hlast⟩ : ∃ b, m.encode.dropLast ++ [b] = m.encode :=
    ⟨_, dropLast_append_getLast m.encode_ne_nil⟩
  cases rest with
  | nil =>
    obtain ⟨s₃, hadv₃⟩ := advances_byte hm b hs₂
    obtain ⟨hfits, hrun⟩ := ((hadv₁.trans hadv₂).trans hadv₃).run
    refine ⟨_, hfits, ?_, ?_⟩
    · simp [flatten_encode, hlast]
    · rw [hrun]
      simp
  | cons m' rest =>
    simp only [mem_cons] at hvalid hdesc hfit
    have hplain : Plain m' :=
      ⟨hvalid m' (.inr (.inr (.inl rfl))), not_not.mp (hrest m' mem_cons_self)⟩
    obtain ⟨chunks, s₃, hadv₃, hs₃, hflat⟩ := advances_behind hm hlist hplain
      (hfit m' (.inr (.inr (.inl rfl)))) b hs₂
    obtain ⟨s₄, hadv₄, -, -⟩ := advances_messages hm hlist
      (fun x (hx : x ∈ rest) => hvalid x (.inr (.inr (.inr hx))))
      (fun x hx => hdesc x (.inr (.inr (.inr hx))))
      (fun x hx => hfit x (.inr (.inr (.inr hx)))) hs₃
    obtain ⟨hfits, hrun⟩ := (((hadv₁.trans hadv₂).trans hadv₃).trans hadv₄).run
    refine ⟨_, hfits, ?_, ?_⟩
    · rw [stream_append, stream_cons, stream_cons, ← hlast]
      simp [flatten_encode, hflat]
    · rw [hrun]
      simp

end

/-- **A harmful stop**: some chunks leave messages in the buffer. -/
theorem exists_stopped (hplain : ∀ m ∈ ms, Plain m) (hfit : ∀ m ∈ ms, m.encode.length ≤ dltReceiveBufsize)
    (hs : UserSaved s []) (hstops : ¬ StopsHarmless h s.daemon ms) :
    ∃ chunks, ReceivesFitUser malloc h s chunks ∧ chunks.flatten = stream ms ∧
      (processReceives malloc h s chunks).1.length < ms.length := by
  obtain ⟨before, m, rest, hsplit, hfail, hne, hle⟩ := exists_harmful hstops
  subst hsplit
  simp only [mem_append, mem_cons] at hplain hfit
  obtain ⟨s₁, hadv₁, hs₁, hdaemon⟩ := advances_messages hm hlist
    (fun x hx => (hplain x (.inl hx)).1)
    (fun x hx => by rw [(hplain x (.inl hx)).2]; exact Nat.zero_le _)
    (fun x hx => hfit x (.inl hx)) hs
  obtain ⟨s₂, hadv₂⟩ := advances_stop hm hlist (hplain m (.inr (.inl rfl)))
    (by rw [hdaemon]; exact hfail) hle hs₁
  obtain ⟨hfits, hrun⟩ := (hadv₁.trans hadv₂).run
  refine ⟨_, hfits, by simp [flatten_encode], ?_⟩
  have := length_pos_iff.mpr hne
  rw [hrun]
  simp only [length_append, length_cons, length_nil]
  omega

/-- **A long description in the stream** is cut when its message arrives as a whole. -/
theorem exists_cut (hvalid : ∀ m ∈ ms, m.Valid) (hfit : ∀ m ∈ ms, m.encode.length ≤ dltReceiveBufsize)
    (hs : UserSaved s []) (hex : ∃ m ∈ ms, ¬ m.description.length ≤ dltDaemonDescsize) :
    ∃ chunks, ReceivesFitUser malloc h s chunks ∧ chunks.flatten <+: stream ms ∧
      ¬ (processReceives malloc h s chunks).1 <+: ms := by
  obtain ⟨before, m, rest, hsplit, hlong, hbefore⟩ := exists_first hex
  subst hsplit
  simp only [mem_append, mem_cons] at hvalid hfit
  obtain ⟨s₁, hadv₁, hs₁, -⟩ := advances_messages hm hlist
    (fun x hx => hvalid x (.inl hx)) (fun x hx => not_not.mp (hbefore x hx))
    (fun x hx => hfit x (.inl hx)) hs
  obtain ⟨others, s₂, hadv₂⟩ := advances_cut hm hlist (hvalid m (.inr (.inl rfl)))
    (hfit m (.inr (.inl rfl))) hs₁
  obtain ⟨hfits, hrun⟩ := (hadv₁.trans hadv₂).run
  refine ⟨_, hfits, ?_, ?_⟩
  · refine ⟨stream rest, ?_⟩
    simp [flatten_encode]
  · rw [hrun, prefix_append_right_inj, cons_prefix_cons]
    rintro ⟨htaken, -⟩
    exact hlong (taken_eq_iff.mp htaken)

end

end

/-- **Chunks**: the messages of the stream are taken in order and as they are for all chunks exactly
when no message has a description and no handler stops the loop harmfully. When no description is
too long for the daemon, this is also when the chunks do not matter at all. -/
theorem userMessages_chunks_iff (hm : malloc.Succeeds) (hlist : ∀ d, h.usersList d = true)
    (hvalid : ∀ m ∈ ms, m.Valid) (hfit : ∀ m ∈ ms, m.encode.length ≤ dltReceiveBufsize)
    (hs : UserSaved s []) :
    (InOrder malloc h s ms ↔
        (∀ m ∈ ms, m.description = []) ∧ StopsHarmless h s.daemon ms) ∧
      ((∀ m ∈ ms, m.description.length ≤ dltDaemonDescsize) →
        (SameForAllChunks malloc h s ms ↔
          (∀ m ∈ ms, m.description = []) ∧ StopsHarmless h s.daemon ms)) := by
  -- a shorter list of messages is not the whole one
  have hshorter : ∀ {chunks}, (processReceives malloc h s chunks).1.length < ms.length →
      (processReceives malloc h s chunks).1 ≠ ms := by
    intro chunks hlt heq
    rw [heq] at hlt
    omega
  have hcond : (∀ m ∈ ms, m.description.length ≤ dltDaemonDescsize) →
      (∀ chunks, ReceivesFitUser malloc h s chunks → chunks.flatten = stream ms →
        (processReceives malloc h s chunks).1 = ms) →
      (∀ m ∈ ms, m.description = []) ∧ StopsHarmless h s.daemon ms := by
    intro hdesc hall
    have hempty : ∀ m ∈ ms, m.description = [] := by
      by_contra hsome
      push Not at hsome
      obtain ⟨chunks, hfits, hflat, hlt⟩ := exists_lost hm hlist hvalid hdesc hfit hs hsome
      exact hshorter hlt (hall chunks hfits hflat)
    refine ⟨hempty, ?_⟩
    by_contra hstops
    obtain ⟨chunks, hfits, hflat, hlt⟩ := exists_stopped hm hlist
      (fun m hm' => ⟨hvalid m hm', hempty m hm'⟩) hfit hs hstops
    exact hshorter hlt (hall chunks hfits hflat)
  have hrun : (∀ m ∈ ms, m.description = []) ∧ StopsHarmless h s.daemon ms →
      ∀ chunks, ReceivesFitUser malloc h s chunks → chunks.flatten = stream ms →
        (processReceives malloc h s chunks).1 = ms := by
    rintro ⟨hempty, hstops⟩ chunks hfits hflat
    refine processReceives_stream hm hlist (fun m hm' => ⟨hvalid m hm', hempty m hm'⟩) hs
      (by rw [nil_append, hflat]) hfits hstops ?_
    rintro rfl
    exact stream_eq_nil hflat.symm
  refine ⟨⟨fun hin => ?_, fun hc chunks hfits hpre => ⟨?_, fun hflat => ?_⟩⟩,
    fun hdesc => ⟨fun hsame => ?_, fun hc chunks chunks' hfits hflat hfits' hflat' => ?_⟩⟩
  · have hdesc : ∀ m ∈ ms, m.description.length ≤ dltDaemonDescsize := by
      by_contra hsome
      push Not at hsome
      obtain ⟨m, hmem, hlong⟩ := hsome
      obtain ⟨chunks, hfits, hpre, hnot⟩ := exists_cut hm hlist hvalid hfit hs
        ⟨m, hmem, not_le.mpr hlong⟩
      exact hnot (hin chunks hfits hpre).1
    exact hcond hdesc fun chunks hfits hflat =>
      (hin chunks hfits (hflat ▸ prefix_refl _)).2 hflat
  · obtain ⟨future, hfuture⟩ := hpre
    exact processReceives_begin hm hlist (fun m hm' => ⟨hvalid m hm', hc.1 m hm'⟩) hs
      (by rw [nil_append, hfuture]) hfits
  · exact hrun hc chunks hfits hflat
  · obtain ⟨whole, hwholeFits, hwholeFlat, hwhole⟩ := exists_whole hm hlist hvalid hdesc hfit hs
    exact hcond hdesc fun chunks hfits hflat =>
      (hsame chunks whole hfits hflat hwholeFits hwholeFlat).trans hwhole
  · rw [hrun hc chunks hfits hflat, hrun hc chunks' hfits' hflat']

end converse

end runs

/-! ## Samples -/

/-- Handlers that always succeed. -/
def sampleHandlers : UserHandlers Unit := ⟨fun _ _ => ((), true), fun _ => true⟩

/-- A connection before its first receive. -/
def sampleConnection : UserState Unit where
  buffer := List.replicate dltReceiveBufsize 0
  receiver := dltReceiverInitGlobalBuffer .socket
  msg := sampleMessage
  daemon := ()

theorem sampleConnection_saved : UserSaved sampleConnection [] :=
  ⟨saved_init (length_replicate ..) rfl rfl, sampleMessage_wf, rfl⟩

/-- An application unregisters. -/
def sampleUnregistration : UserMessage := .unregisterApplication ⟨dltSetId [0x41], 7⟩

/-- An application registers with the description `A`. -/
def sampleRegistration : UserMessage := .registerApplication ⟨dltSetId [0x41], 7, 1⟩ [0x41]

theorem userMessages_chunks_iff_sample :
    SameForAllChunks zeroMalloc sampleHandlers sampleConnection
      [sampleUnregistration, sampleUnregistration] := by
  have hvalid : ∀ m ∈ [sampleUnregistration, sampleUnregistration], m.Valid := by
    simp [sampleUnregistration, UserMessage.Valid]
  have hfit : ∀ m ∈ [sampleUnregistration, sampleUnregistration],
      m.encode.length ≤ dltReceiveBufsize := by decide
  have hdesc : ∀ m ∈ [sampleUnregistration, sampleUnregistration], m.description = [] := by decide
  refine ((userMessages_chunks_iff zeroMalloc_succeeds (fun _ => rfl) hvalid hfit
    sampleConnection_saved).2 ?_).mpr ⟨hdesc, ?_⟩
  · intro m hm
    rw [hdesc m hm]
    decide
  · exact ⟨.inl rfl, .inl rfl, trivial⟩

/-- **A lost registration**: the registration is taken when it arrives as a whole, and is not when its
last byte arrives later. -/
theorem userMessages_depend_on_chunks :
    ¬ SameForAllChunks zeroMalloc sampleHandlers sampleConnection [sampleRegistration] := by
  intro hsame
  have hvalid : sampleRegistration.Valid := by
    simp [sampleRegistration, UserMessage.Valid]
  have hfit : sampleRegistration.encode.length ≤ dltReceiveBufsize := by decide
  obtain ⟨s₁, hwhole, -, -⟩ := advances_complete (h := sampleHandlers) zeroMalloc_succeeds
    (fun _ => rfl) hvalid (by decide) hfit sampleConnection_saved sampleRegistration.encode_ne_nil
    (nil_append _)
  obtain ⟨s₂, hlost, hs₂⟩ := advances_lost (h := sampleHandlers) zeroMalloc_succeeds hvalid
    (by decide) (by decide) hfit sampleConnection_saved
  obtain ⟨s₃, hbyte⟩ := advances_byte (h := sampleHandlers) zeroMalloc_succeeds 0x41 hs₂
  obtain ⟨hfits, hrun⟩ := hwhole.run
  obtain ⟨hfits', hrun'⟩ := (hlost.trans hbyte).run
  have heq := hsame _ _ hfits (by simp) hfits' (by decide)
  rw [hrun, hrun'] at heq
  cases heq

end Dlt.Daemon
