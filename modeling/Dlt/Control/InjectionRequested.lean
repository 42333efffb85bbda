import Dlt.Control.RequestsUnderstood

/-!
# What an injection forwards

* `injection_asAsked_iff` — **when this is so**: the length field is compared with the size of the memory, so
  an injection that the handler accepts has to keep inside its payload by itself.
* `received_of_history` — every record that `dlt_message_read` leaves is of this kind.
-/

namespace Dlt.Control

open Dlt.Lib Dlt.Shared List Option
open Dlt.Daemon (DltDaemon dltDaemonContextFind)
open Dlt.Inbox (DltUserControlMsgInjection)

variable {Buf : Type}

/-! ## What is asked for -/

/-- The record when its message is handled, and the memory with its payload. -/
structure Received (msg : DltMessage) (databuffer : List UInt8) : Prop where
  databuffer_eq : msg.databuffer = some databuffer
  databuffersize_eq : msg.databuffersize = databuffer.length
  datasize_nonneg : 0 ≤ msg.datasize
  datasize_le : msg.datasize ≤ databuffer.length

/-- The number in four bytes of the payload, if it has them. -/
def payloadUint32 (msg : DltMessage) (start : ℕ) : Option ℕ :=
  if start + 4 ≤ msg.payload.length then
    some (dltEndianGet32 (standardHtyp msg) (field msg.payload start 4))
  else none

def AsksInjection (msg : DltMessage) : Prop := ∃ id, payloadUint32 msg 0 = some id ∧ dltDaemonInjectionMin ≤ id

/-- An answer with an error, or the bytes of the payload that the length field announces, all of them. -/
def AsAsked (msg : DltMessage) : InjectionOutcome → Prop
  | .none => False
  | .respond _ status => status ≠ .ok
  | .logOut3 _ usercontext userbuffer =>
      ∃ id length, payloadUint32 msg 0 = some id ∧ payloadUint32 msg 4 = some length ∧
        8 + length ≤ msg.payload.length ∧ userbuffer = field msg.payload 8 length ∧
        usercontext.serviceId.toNat = id ∧ usercontext.dataLengthInject.toNat = length

/-! ## When the handler does it -/

/-- The length that the handler takes, which is zero when the payload has no length field. -/
def injectionLength (msg : DltMessage) : ℕ := (payloadUint32 msg 4).getD 0

/-- The context that the extended header names is registered. -/
def injectionContext (daemon : DltDaemon Buf) (msg : DltMessage) :
    Option Dlt.Daemon.DltDaemonContext :=
  (dltDaemonContextFind daemon (dltSetId (field msg.headerbuffer (msg.extendedheader.getD 0 + 2) 4))
      (dltSetId (field msg.headerbuffer (msg.extendedheader.getD 0 + 6) 4)) daemon.ecuid).bind fun p =>
    (daemon.userList[p.1]?).bind fun users => users.contexts[p.2]?

/-- The message passes the checks of the handler. -/
structure Accepted (env : InjectionEnv) (daemon : DltDaemon Buf) (msg : DltMessage) : Prop where
  injectionMode : env.injectionMode = true
  extended : dltIsHtypUeh (standardHtyp msg) = true
  context : (injectionContext daemon msg).isSome
  databuffersize : (injectionLength msg : ℤ) ≤ msg.databuffersize
  malloc : (env.malloc (injectionLength msg)).isSome

section injection

variable {env : InjectionEnv} {daemon : DltDaemon Buf} {msg : DltMessage} {databuffer : List UInt8}

section

variable (h : Received msg databuffer)
include h

theorem Received.payload_eq : msg.payload = databuffer.take msg.datasize.toNat := by
  rw [DltMessage.payload, h.databuffer_eq, getD_some]

theorem Received.length_payload : (msg.payload.length : ℤ) = msg.datasize := by
  have hnonneg := h.datasize_nonneg
  have hle := h.datasize_le
  rw [h.payload_eq, length_take]
  omega

theorem Received.field_payload {off n : ℕ} (hle : off + n ≤ msg.payload.length) :
    field msg.payload off n = field databuffer off n := by
  rw [h.payload_eq, ← field_append (databuffer.drop msg.datasize.toNat) (by rw [← h.payload_eq]; exact hle),
    take_append_drop]

end

/-- A number of four bytes is below `2^32`. -/
theorem dltEndianGet32_lt {htyp : UInt8} {bytes : List UInt8} (h : bytes.length ≤ 4) :
    dltEndianGet32 htyp bytes < 2 ^ 32 := by
  have hpow : 256 ^ bytes.length ≤ 256 ^ 4 := Nat.pow_le_pow_right (by omega) h
  have hnum : (256 : ℕ) ^ 4 = 2 ^ 32 := by norm_num
  unfold dltEndianGet32
  split_ifs
  · exact lt_of_lt_of_le (ofBeBytes_lt bytes) (hnum ▸ hpow)
  · exact lt_of_lt_of_le (ofLeBytes_lt bytes) (hnum ▸ hpow)

/-- A number of the payload is below `2^32`. -/
theorem payloadUint32_lt {start n : ℕ} (h : payloadUint32 msg start = some n) : n < 2 ^ 32 := by
  unfold payloadUint32 at h
  split_ifs at h with hlen
  rw [← Option.some.inj h]
  exact dltEndianGet32_lt (length_field hlen).le

section

variable (h : Received msg databuffer)
include h

/-- The handler reads a number of the payload, or zero at the same place. -/
theorem Received.read (start : ℕ) :
    dltMsgReadUint32 (standardHtyp msg) (databuffer.drop start) (msg.datasize - start) =
      match payloadUint32 msg start with
      | none => (0, databuffer.drop start, -1)
      | some n => (n, databuffer.drop (start + 4), msg.datasize - start - 4) := by
  have hsize := h.length_payload
  unfold dltMsgReadUint32 payloadUint32
  by_cases hlen : start + 4 ≤ msg.payload.length
  · rw [if_neg (by omega), if_pos hlen, h.field_payload hlen, drop_drop]
    rfl
  · rw [if_pos (by omega), if_neg hlen]

section

variable {id : ℕ} (hread : payloadUint32 msg 0 = some id) (hid : dltDaemonInjectionMin ≤ id)
include hread hid

/-- **What the handler does with an injection**, in terms of the payload and the memory behind it. -/
theorem injection_eq :
    dltDaemonControlCallswCinjection env daemon msg =
      if env.injectionMode = false then .respond id .permDenied
      else if dltIsHtypUeh (standardHtyp msg) then
        injectTo env daemon msg id (injectionLength msg)
          (databuffer.drop (if (payloadUint32 msg 4).isSome then 8 else 4))
          (dltSetId (field msg.headerbuffer (msg.extendedheader.getD 0 + 2) 4))
          (dltSetId (field msg.headerbuffer (msg.extendedheader.getD 0 + 6) 4))
      else .respond id .error := by
  have hfirst := h.read 0
  rw [hread, drop_zero, Nat.cast_zero, Int.sub_zero] at hfirst
  have hsecond := h.read 4
  unfold dltDaemonControlCallswCinjection injectionLength
  rw [h.databuffer_eq]
  simp only [hfirst, hid, if_true]
  have hcast : msg.datasize - 4 = msg.datasize - (4 : ℕ) := rfl
  rw [hcast, hsecond]
  cases payloadUint32 msg 4 with
  | none => rfl
  | some n => rfl

theorem injection_of_not_accepted (hnot : ¬ Accepted env daemon msg) :
    ∃ status, dltDaemonControlCallswCinjection env daemon msg = .respond id status ∧ status ≠ .ok := by
  rw [injection_eq h hread hid]
  by_cases hmode : env.injectionMode = false
  · exact ⟨.permDenied, if_pos hmode, by decide⟩
  rw [if_neg hmode]
  by_cases hueh : dltIsHtypUeh (standardHtyp msg) = true
  swap
  · exact ⟨.error, if_neg hueh, by decide⟩
  refine ⟨.error, ?_, by decide⟩
  rw [if_pos hueh]
  unfold injectTo
  cases hcontext : injectionContext daemon msg with
  | none =>
    unfold injectionContext at hcontext
    rw [hcontext]
  | some context =>
    have hsome : (injectionContext daemon msg).isSome := by rw [hcontext]; rfl
    unfold injectionContext at hcontext
    rw [hcontext]
    dsimp only
    by_cases hsize : (injectionLength msg : ℤ) > msg.databuffersize
    · exact if_pos hsize
    rw [if_neg hsize]
    apply if_pos
    by_contra hmalloc
    exact hnot ⟨Bool.not_eq_false _ ▸ hmode, hueh, hsome, by omega,
      isSome_iff_ne_none.mpr hmalloc⟩

theorem injection_of_accepted (haccepted : Accepted env daemon msg) :
    ∃ userHandle logLevelPos, dltDaemonControlCallswCinjection env daemon msg =
      .logOut3 userHandle ⟨logLevelPos, UInt32.ofNat id, UInt32.ofNat (injectionLength msg)⟩
        (field databuffer (if (payloadUint32 msg 4).isSome then 8 else 4) (injectionLength msg)) := by
  obtain ⟨context, hcontext⟩ := isSome_iff_exists.mp haccepted.context
  refine ⟨context.userHandle, Int32.ofInt context.logLevelPos, ?_⟩
  have hsize := haccepted.databuffersize
  unfold injectionContext at hcontext
  rw [injection_eq h hread hid, if_neg (by rw [haccepted.injectionMode]; decide), if_pos haccepted.extended,
    injectTo, hcontext]
  dsimp only
  rw [if_neg (by omega), if_neg (isSome_iff_ne_none.mp haccepted.malloc)]
  rfl

end

end

/-- **The handler does what the message asks for exactly when** a message that passes its checks has a length
field that keeps inside the payload. -/
theorem injection_asAsked_iff (h : Received msg databuffer) (hasks : AsksInjection msg) :
    AsAsked msg (dltDaemonControlCallswCinjection env daemon msg) ↔
      (Accepted env daemon msg → 8 + (injectionLength msg : ℤ) ≤ msg.datasize) := by
  obtain ⟨id, hread, hid⟩ := hasks
  have hsize := h.length_payload
  by_cases haccepted : Accepted env daemon msg
  swap
  · obtain ⟨status, heq, hstatus⟩ := injection_of_not_accepted h hread hid haccepted
    rw [heq]
    exact ⟨fun _ hyes => absurd hyes haccepted, fun _ => hstatus⟩
  obtain ⟨userHandle, logLevelPos, heq⟩ := injection_of_accepted h hread hid haccepted
  rw [heq]
  constructor
  · rintro ⟨id', length, -, hlength, hfits, -⟩ -
    rw [injectionLength, hlength, getD_some]
    omega
  · intro hfits
    have hfits := hfits haccepted
    obtain ⟨length, hlength⟩ : ∃ length, payloadUint32 msg 4 = some length := by
      unfold payloadUint32
      exact ⟨_, if_pos (by omega)⟩
    have heqLength : injectionLength msg = length := by rw [injectionLength, hlength, getD_some]
    rw [heqLength] at hfits ⊢
    have hinside : 8 + length ≤ msg.payload.length := by omega
    refine ⟨id, length, hread, hlength, hinside, ?_, ?_, ?_⟩
    · rw [hlength, h.field_payload hinside]
      rfl
    · exact UInt32.toNat_ofNat_of_lt' (payloadUint32_lt hread)
    · exact UInt32.toNat_ofNat_of_lt' (payloadUint32_lt hlength)

end injection

/-! ## A record that is used again -/

/-- **Every call of `dlt_message_read` that finds a payload leaves such a record**, whatever was read before. -/
theorem received_of_history {malloc : Malloc} (hm : malloc.Succeeds) {msg : DltMessage}
    (h : ReadHistory malloc msg) {buffer : List UInt8} {length : ℕ} {resync : Bool} (hle : length ≤ buffer.length)
    {f : Frame} (hframe : readFrame resync (buffer.take length) = .ok f) (hpayload : f.payload ≠ []) :
    ∃ databuffer, Received (dltMessageRead malloc msg buffer length resync).1 databuffer ∧
      (dltMessageRead malloc msg buffer length resync).1.payload = f.payload := by
  obtain ⟨hwf, -, hok⟩ := dltMessageRead_eq_readFrame hm (h.wf hm) hle resync
  obtain ⟨-, hholds⟩ := hok f hframe
  have hsize := hholds.datasize_eq
  have heq := hholds.payload_eq
  rw [DltMessage.payload] at heq
  cases hdata : (dltMessageRead malloc msg buffer length resync).1.databuffer with
  | none =>
    rw [hdata, getD_none, take_nil] at heq
    exact absurd heq.symm hpayload
  | some databuffer =>
    refine ⟨databuffer, ⟨hdata, hwf.databuffersize_eq databuffer hdata, by omega, ?_⟩, hholds.payload_eq⟩
    have hlength := congrArg List.length heq
    rw [hdata, getD_some, length_take] at hlength
    omega

/-! ## Samples -/

/-- The record after an injection of twenty bytes. -/
def recordAfterSecret : DltMessage :=
  let bytes := sampleBytes false (.injectMsg (ascii "LOG") (ascii "TEST") 4096 (ascii "the former injection"))
  (dltMessageRead zeroMalloc (dltMessageInit sampleMessage) bytes bytes.length false).1

/-- An injection of one byte whose length field says twelve. -/
def shortInjection : List UInt8 :=
  overwrite (sampleBytes false (.injectMsg (ascii "LOG") (ascii "TEST") 4096 (ascii "x"))) 26 (leBytes 4 12)

def recordAfterShort : DltMessage :=
  (dltMessageRead zeroMalloc recordAfterSecret shortInjection shortInjection.length false).1

theorem received_of_history_short : ∃ databuffer, Received recordAfterShort databuffer ∧
    recordAfterShort.payload = leBytes 4 4096 ++ leBytes 4 12 ++ ascii "x" :=
  received_of_history zeroMalloc_succeeds (.read (.init sampleMessage sampleMessage_length) _ _ _ le_rfl) le_rfl
    (f := ⟨false, 0, shortInjection.take 22, leBytes 4 4096 ++ leBytes 4 12 ++ ascii "x"⟩) (by rfl) (by decide)

theorem recordAfterSecret_received :
    Received recordAfterSecret (leBytes 4 4096 ++ leBytes 4 20 ++ ascii "the former injection") :=
  ⟨by decide +kernel, by decide +kernel, by decide +kernel, by decide +kernel⟩

theorem injection_asAsked_iff_sample :
    AsAsked recordAfterSecret (dltDaemonControlCallswCinjection ⟨true, zeroMalloc⟩ sampleDaemon recordAfterSecret) :=
  (injection_asAsked_iff recordAfterSecret_received ⟨4096, by decide +kernel, by decide⟩).mpr fun _ => by
    decide +kernel

/-- The second injection forwards what the memory still holds of the first one. -/
theorem injection_forwards_former :
    ReadHistory zeroMalloc recordAfterShort ∧ AsksInjection recordAfterShort ∧
      recordAfterShort.payload = leBytes 4 4096 ++ leBytes 4 12 ++ ascii "x" ∧
      dltDaemonControlCallswCinjection ⟨true, zeroMalloc⟩ sampleDaemon recordAfterShort =
        .logOut3 5 ⟨2, 4096, 12⟩ (ascii "xhe former i") ∧
      ¬ AsAsked recordAfterShort
        (dltDaemonControlCallswCinjection ⟨true, zeroMalloc⟩ sampleDaemon recordAfterShort) := by
  have hhistory : ReadHistory zeroMalloc recordAfterShort :=
    .read (.read (.init sampleMessage sampleMessage_length) _ _ _ (Nat.le_refl _)) _ _ _ (Nat.le_refl _)
  have hpayload : recordAfterShort.payload = leBytes 4 4096 ++ leBytes 4 12 ++ ascii "x" := by decide +kernel
  have heq : dltDaemonControlCallswCinjection ⟨true, zeroMalloc⟩ sampleDaemon recordAfterShort =
      .logOut3 5 ⟨2, 4096, 12⟩ (ascii "xhe former i") := by decide +kernel
  refine ⟨hhistory, ⟨4096, by decide +kernel, by decide⟩, hpayload, heq, ?_⟩
  rw [heq]
  rintro ⟨id, length, -, -, hfits, -, -, rfl⟩
  rw [hpayload] at hfits
  exact absurd hfits (by decide)

end Dlt.Control
