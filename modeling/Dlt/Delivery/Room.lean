import Dlt.Delivery.SendRingbuffer
import Dlt.Shared.BufferRoom
import Dlt.User.ResendFaithful

/-!
# The memory that receives buffered messages

* `BufferDelivery` — a pull, a copy, the daemon sending its ring buffer, and the library resending its startup buffer.
  `deliveryStores` is what each writes to the memory of the receiver.
* `delivery_contained_iff` — **in every state that calls on a ring buffer reach, a delivery stays inside that memory
  exactly when each block that it takes fits.**
-/

namespace Dlt.Delivery

open Dlt.Lib Dlt.Shared Dlt.User List
open Dlt.Daemon (DltDaemonState dltDaemonRcvbufsize dltUserCheckUserheader userHeaderMessage)

/-! ## Resending -/

/-- `header_size` and the length of the log buffer. The byte at an offset behind this memory is taken for zero.
Source: `dlt_user.c`, `dlt_init_common` -/
def resendBufferSize (logBufLen : ℕ) (useExtendedHeaderForNonVerbose : Bool) : ℕ :=
  logBufLen + (sizeofDltUserHeader + sizeofDltStandardHeader + sizeofDltStandardHeaderExtra +
    if useExtendedHeaderForNonVerbose then sizeofDltExtendedHeader else 0)

/-- The field of a message that is filled with the application id.
Source: `dlt_user_log_resend_buffer` -/
def filledField (memory : List UInt8) : Option ℕ :=
  if dltUserCheckUserheader memory then
    if userHeaderMessage memory = dltUserMessageRegisterContext then
      if memory.getD sizeofDltUserHeader 0 = 0 then some sizeofDltUserHeader else none
    else if userHeaderMessage memory = dltUserMessageLog then
      if memory.getD resendApidOffset 0 = 0 then some resendApidOffset else none
    else none
  else none

section resend

variable (malloc : Malloc) (outcomes : ℕ → WriteOutcome) (appID : Id4)

/-- The states in which the loop copies a message, with `n` turns to go.
Source: `dlt_user_log_resend_buffer` -/
def resendVisits : ℕ → ℕ → DltUserBuffers → List DltUserBuffers
  | 0, _, _ => []
  | n + 1, num, user =>
    let copied := resendCopy malloc user
    user ::
      if copied.2 > 0 then
        let user := { copied.1 with resendBuffer := addApplicationId appID copied.1.resendBuffer }
        if dltUserLogOut3 user.connected (outcomes num) = dltReturnOk then
          resendVisits n (num + 1) { user with startupBuffer := (dltBufferRemove malloc user.startupBuffer).1 }
        else []
      else resendVisits n (num + 1) copied.1

/-- The states in which the function copies a message. -/
def resendCalls (user : DltUserBuffers) : List DltUserBuffers :=
  if appID.isEmpty then []
  else resendVisits malloc outcomes appID (dltBufferGetMessageCount user.startupBuffer).toNat 0 user

end resend

theorem resendVisits_sane (malloc : Malloc) (outcomes : ℕ → WriteOutcome) (appID : Id4) (n num : ℕ)
    {user : DltUserBuffers} (h : SaneBuffer user.startupBuffer) :
    ∀ visit ∈ resendVisits malloc outcomes appID n num user, SaneBuffer visit.startupBuffer := by
  induction n generalizing num user with
  | zero =>
    intro visit hvisit
    cases hvisit
  | succ n ih =>
    have hcopy : SaneBuffer (resendCopy malloc user).1.startupBuffer := h.get malloc true user.logBufLen false
    intro visit hvisit
    rw [resendVisits] at hvisit
    rcases mem_cons.mp hvisit with rfl | hlater
    · exact h
    by_cases hcopied : (resendCopy malloc user).2 > 0
    · rw [if_pos hcopied] at hlater
      simp only at hlater
      split_ifs at hlater with hok
      · exact @ih (num + 1) { (resendCopy malloc user).1 with
          startupBuffer := (dltBufferRemove malloc (resendCopy malloc user).1.startupBuffer).1
          resendBuffer := addApplicationId appID (resendCopy malloc user).1.resendBuffer }
          (hcopy.get malloc false 0 true) visit hlater
      · cases hlater
    · rw [if_neg hcopied] at hlater
      exact ih (num + 1) hcopy visit hlater

/-! ## The deliveries -/

inductive BufferDelivery
  /-- `dlt_buffer_pull`. -/
  | pull (maxSize : ℤ)
  /-- `dlt_buffer_copy`. -/
  | copy (maxSize : ℤ)
  /-- `dlt_daemon_send_ringbuffer_to_client`, with a number of turns. -/
  | sendRingbuffer (sends : ℕ → SentForce) (turns : ℕ) (state : DltDaemonState)
  /-- `dlt_user_log_resend_buffer`, with its memory, the length of the log buffer and the connection. -/
  | resend (outcomes : ℕ → WriteOutcome) (appID : Id4) (resendBuffer : List UInt8) (logBufLen : ℕ) (connected : Bool)

/-- The sizes are those of an `int`, and a pull or a copy has a `max_size`. -/
def BufferDelivery.Sized : BufferDelivery → Prop
  | .pull maxSize | .copy maxSize => 0 < maxSize ∧ maxSize < 2147483648
  | .sendRingbuffer _ _ _ => True
  | .resend _ _ resendBuffer _ _ => resendBuffer.length < 2147483648

/-- What a turn of the resending writes to the memory of `room` bytes. -/
def visitStores (malloc : Malloc) (room : ℕ) (visit : DltUserBuffers) : List Touch :=
  dltBufferGetStores visit.startupBuffer visit.logBufLen room ++
    if (resendCopy malloc visit).2 > 0 then
      (filledField (resendCopy malloc visit).1.resendBuffer).toList.map fun off => ⟨room, off, 4⟩
    else []

/-- What a delivery writes to the memory of the receiver. -/
def deliveryStores (malloc : Malloc) (buf : DltBuffer) : BufferDelivery → List Touch
  | .pull maxSize | .copy maxSize => dltBufferGetStores buf maxSize maxSize.toNat
  | .sendRingbuffer sends turns state =>
      (dltDaemonSendRingbufferToClient malloc sends turns ⟨buf, state⟩).copies.flatMap fun buf =>
        dltBufferGetStores buf dltDaemonRcvbufsize dltDaemonRcvbufsize
  | .resend outcomes appID resendBuffer logBufLen connected =>
      (resendCalls malloc outcomes appID ⟨buf, resendBuffer, logBufLen, connected⟩).flatMap
        (visitStores malloc resendBuffer.length)

/-- **The delivery never writes beyond the memory of the receiver.** -/
def DeliveryContained (malloc : Malloc) (buf : DltBuffer) (delivery : BufferDelivery) : Prop :=
  ∀ touch ∈ deliveryStores malloc buf delivery, touch.Inside

/-- A turn of the resending has room: the block fits, and the field that is filled lies in the memory. -/
def VisitHasRoom (malloc : Malloc) (room : ℕ) (visit : DltUserBuffers) : Prop :=
  BlockHasRoom visit.startupBuffer visit.logBufLen room ∧
    ((resendCopy malloc visit).2 > 0 →
      ∀ off, filledField (resendCopy malloc visit).1.resendBuffer = some off → off + 4 ≤ room)

/-- **Each block that the delivery takes fits.** -/
def DeliveryHasRoom (malloc : Malloc) (buf : DltBuffer) : BufferDelivery → Prop
  | .pull maxSize | .copy maxSize => BlockHasRoom buf maxSize maxSize.toNat
  | .sendRingbuffer sends turns state =>
      ∀ copy ∈ (dltDaemonSendRingbufferToClient malloc sends turns ⟨buf, state⟩).copies,
        BlockHasRoom copy dltDaemonRcvbufsize dltDaemonRcvbufsize
  | .resend outcomes appID resendBuffer logBufLen connected =>
      ∀ visit ∈ resendCalls malloc outcomes appID ⟨buf, resendBuffer, logBufLen, connected⟩,
        VisitHasRoom malloc resendBuffer.length visit

section delivery

variable {malloc : Malloc} {buf : DltBuffer}

/-- What a turn of the resending writes stays inside exactly when it has room. -/
theorem visitStores_inside_iff (malloc : Malloc) {room : ℕ} (hroom : room < 2147483648) {visit : DltUserBuffers}
    (h : SaneBuffer visit.startupBuffer) :
    (∀ touch ∈ visitStores malloc room visit, touch.Inside) ↔ VisitHasRoom malloc room visit := by
  unfold visitStores VisitHasRoom
  rw [forall_mem_append, getStores_inside_iff h hroom]
  refine and_congr_right fun _ => ?_
  by_cases hcopied : (resendCopy malloc visit).2 > 0
  · rw [if_pos hcopied]
    cases hfield : filledField (resendCopy malloc visit).1.resendBuffer with
    | none => simp
    | some off =>
      simp only [Option.toList_some, map_cons, map_nil, mem_singleton, forall_eq, Touch.Inside,
        hcopied, true_implies, Option.some.injEq, forall_eq']
      omega
  · rw [if_neg hcopied]
    exact iff_of_true (fun touch hmem => by cases hmem) fun hyes => absurd hyes hcopied

theorem mem_sendRingbuffer_copies (malloc : Malloc) (sends : ℕ → SentForce) (turns : ℕ) (state : DltDaemonState)
    (h : 0 < buf.shm.count) :
    buf ∈ (dltDaemonSendRingbufferToClient malloc sends (turns + 1) ⟨buf, state⟩).copies := by
  unfold dltDaemonSendRingbufferToClient dltBufferGetMessageCount
  rw [if_neg (by simp only; omega), sendRingbufferLoop]
  simp only
  split_ifs <;> exact mem_cons_self

theorem mem_resendCalls (malloc : Malloc) (outcomes : ℕ → WriteOutcome) {appID : Id4} (hid : appID.isEmpty = false)
    {user : DltUserBuffers} (h : 0 < user.startupBuffer.shm.count) :
    user ∈ resendCalls malloc outcomes appID user := by
  obtain ⟨n, hn⟩ : ∃ n, (dltBufferGetMessageCount user.startupBuffer).toNat = n + 1 :=
    Nat.exists_eq_succ_of_ne_zero (by unfold dltBufferGetMessageCount; omega)
  unfold resendCalls
  rw [if_neg (by rw [hid]; exact Bool.false_ne_true), hn, resendVisits]
  exact mem_cons_self

theorem flatMap_inside_iff {α : Type} {xs : List α} {stores : α → List Touch} {room : α → Prop}
    (h : ∀ x ∈ xs, ((∀ touch ∈ stores x, touch.Inside) ↔ room x)) :
    (∀ touch ∈ xs.flatMap stores, touch.Inside) ↔ ∀ x ∈ xs, room x := by
  rw [forall_mem_flatMap]
  exact forall₂_congr h

/-- **In every state that calls reach, a delivery never writes beyond the memory of the receiver exactly when each
block that it takes fits.** -/
theorem delivery_contained_iff (malloc : Malloc) {init : DltBuffer} (hinit : SaneBuffer init)
    (reach : CallReach init buf) {delivery : BufferDelivery} (hsized : delivery.Sized) :
    DeliveryContained malloc buf delivery ↔ DeliveryHasRoom malloc buf delivery := by
  have h := reach.sane hinit
  unfold DeliveryContained
  cases delivery with
  | pull maxSize =>
    obtain ⟨hpos, hlt⟩ := hsized
    exact getStores_inside_iff h (by omega)
  | copy maxSize =>
    obtain ⟨hpos, hlt⟩ := hsized
    exact getStores_inside_iff h (by omega)
  | sendRingbuffer sends turns state =>
    have hsane := @sendRingbuffer_copies_sane ⟨buf, state⟩ malloc sends turns h
    have hall := flatMap_inside_iff (fun copy hcopy =>
      @getStores_inside_iff copy dltDaemonRcvbufsize dltDaemonRcvbufsize (hsane copy hcopy) (by decide))
    exact hall
  | resend outcomes appID resendBuffer logBufLen connected =>
    have hsane : ∀ visit ∈ resendCalls malloc outcomes appID ⟨buf, resendBuffer, logBufLen, connected⟩,
        SaneBuffer visit.startupBuffer := by
      unfold resendCalls
      split_ifs
      · intro visit hvisit
        cases hvisit
      · exact resendVisits_sane malloc outcomes appID _ 0 h
    exact flatMap_inside_iff fun visit hvisit => visitStores_inside_iff malloc hsized (hsane visit hvisit)

end delivery

/-! ## Messages that are too long -/

/-- A ring buffer of the sizes that are used without a configuration, and with no message. -/
def freshSample : DltBuffer :=
  { shm := { write := 0, read := 0, count := 0 }, size := 49988, mem := List.replicate 49988 0,
    minSize := 50000, maxSize := 500000, stepSize := 50000 }

theorem freshSample_sane : SaneBuffer freshSample :=
  ⟨by decide, by decide, by decide, by decide, length_replicate, intRange_zero, intRange_zero⟩

theorem freshSample_layout : Layout freshSample [] := by
  obtain ⟨buf, hinit, hlayout⟩ := @dltBufferInitDynamic_layout zeroMalloc 50000 500000 50000 zeroMalloc_succeeds
    (by decide) (by decide) (by decide) (by decide) (by decide)
  have hsame : dltBufferInitDynamic zeroMalloc 50000 500000 50000 = .ok freshSample := rfl
  rw [hinit, Except.ok.injEq] at hsame
  rw [← hsame]
  exact hlayout

/-- The ring buffer with one message. -/
def heldSample (m : List UInt8) : DltBuffer := (bufferStep zeroMalloc freshSample (.push3 m [] [])).1

theorem heldSample_reach (m : List UInt8) : CallReach freshSample (heldSample m) :=
  .step zeroMalloc (.push3 m [] []) .init

theorem heldSample_queued {m : List UInt8} (hm : m.length ≤ 49976) : Queued (heldSample m) [m] := by
  have hneeded : pushNeeded m [] [] = 12 + m.length := rfl
  have hfits : Fits freshSample [] (pushNeeded m [] []) := by
    rw [hneeded, Fits, queueBytes_nil, length_nil]
    change 0 + (12 + m.length) ≤ 49988
    omega
  have hlayout := @dltBufferPush3_stores zeroMalloc freshSample [] m [] [] freshSample_layout (by decide)
    (by omega) (.inl hfits) fun _ => hfits
  rw [append_nil, append_nil, nil_append] at hlayout
  exact hlayout.queued

theorem delivery_contained_iff_sample : DeliveryContained zeroMalloc (heldSample [1, 2, 3]) (.pull 3) :=
  (delivery_contained_iff zeroMalloc freshSample_sane (heldSample_reach [1, 2, 3])
    (show BufferDelivery.Sized (.pull 3) from ⟨by decide, by decide⟩)).mpr
      ((blockHasRoom_cons (heldSample_queued (by decide)) (by decide)).mpr (by decide))

/-- A context with a description of 2000 bytes is registered without an application id. -/
def longRegistration : List UInt8 :=
  Dlt.Daemon.userHeaderPattern ++ leBytes 4 dltUserMessageRegisterContext ++ List.replicate 22 0 ++
    List.replicate 2000 0x61

/-- **A message that is too long is copied anyway**: to a smaller `max_size`, to the memory of the daemon, and to
`resend_buffer`. -/
theorem delivery_overflows :
    ¬ DeliveryContained zeroMalloc (heldSample [1, 2, 3, 4]) (.pull 3) ∧
      ¬ DeliveryContained zeroMalloc (heldSample (List.replicate 10025 0))
        (.sendRingbuffer (fun _ => ⟨0, [], .sendBuffer⟩) 1 .buffer) ∧
      ¬ DeliveryContained zeroMalloc (heldSample longRegistration)
        (.resend (fun _ => .complete) (dltSetId (ascii "APP")) (List.replicate (resendBufferSize 1390 true) 0) 1390
          true) := by
  have hlong : ∀ (m : List UInt8) (maxSize : ℤ) (room : ℕ), m.length ≤ 49976 → room < m.length → maxSize ≠ 0 →
      room < 2147483648 → ¬ ∀ touch ∈ dltBufferGetStores (heldSample m) maxSize room, touch.Inside := by
    intro m maxSize room hm hroom hmax hint hall
    rw [getStores_inside_iff ((heldSample_reach m).sane freshSample_sane) hint,
      blockHasRoom_cons (heldSample_queued hm) hmax] at hall
    omega
  have hcount : ∀ m : List UInt8, m.length ≤ 49976 → 0 < (heldSample m).shm.count := by
    intro m hm
    rw [(heldSample_queued hm).count_eq, length_singleton]
    decide
  refine ⟨hlong _ 3 3 (by decide) (by decide) (by decide) (by decide), fun hall => ?_, fun hall => ?_⟩
  · apply hlong (replicate 10025 0) dltDaemonRcvbufsize dltDaemonRcvbufsize
      (by rw [length_replicate]; decide) (by rw [length_replicate]; decide) (by decide) (by decide)
    exact forall_mem_flatMap.mp hall _ (mem_sendRingbuffer_copies zeroMalloc _ 0 .buffer (hcount _ (by
      rw [length_replicate]
      decide)))
  · apply hlong longRegistration 1390 (resendBufferSize 1390 true) (by decide +kernel) (by decide +kernel)
      (by decide) (by decide)
    have hvisit := forall_mem_flatMap.mp hall _ (mem_resendCalls zeroMalloc _ (by decide)
      (hcount longRegistration (by decide +kernel)))
    rw [length_replicate] at hvisit
    exact fun touch htouch => hvisit touch (mem_append_left _ htouch)

end Dlt.Delivery
