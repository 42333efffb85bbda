import Dlt.User.ResendBuffer
import Dlt.User.SendLogRoundTrip

/-!
# What resending does to the messages

* `resendFaithful_iff` — **resending is faithful exactly when each message that is sent is patched right.**
-/

namespace Dlt.User

open Dlt.Lib Dlt.Shared List
open Dlt.Daemon (dltUserCheckUserheader userHeaderMessage userHeaderPattern)

/-! ## The application id of a message -/

/-- `htyp` of the standard header behind the user header. -/
def storedHtyp (m : List UInt8) : UInt8 := m.getD sizeofDltUserHeader 0

/-- Where a message has its application id: behind the user header when a context is registered, in the extended
header of a log message. -/
def applicationIdField (m : List UInt8) : Option ℕ :=
  if userHeaderMessage m = dltUserMessageRegisterContext then some sizeofDltUserHeader
  else if userHeaderMessage m = dltUserMessageLog ∧ dltIsHtypUeh (storedHtyp m) then
    some (sizeofDltUserHeader + sizeofDltStandardHeader + dltStandardHeaderExtraSize (storedHtyp m) + 2)
  else none

/-- **The message with its application id**, when the field is there and empty. -/
def withApplicationId (appID : Id4) (m : List UInt8) : List UInt8 :=
  match applicationIdField m with
  | some off => fillId appID off m
  | none => m

/-- A message as the library stores it: the user header, and complete headers behind it. -/
structure StoredMessage (m : List UInt8) : Prop where
  header_le : sizeofDltUserHeader ≤ m.length
  pattern : dltUserCheckUserheader m = true
  /-- Behind the id there is the rest of the message. -/
  field_le : ∀ off, applicationIdField m = some off → off + 8 ≤ m.length

/-- **The fixed offset is right for the message**: it is that of the field, or the byte there is not zero and
there is no empty field elsewhere. -/
def PatchedRight (m : List UInt8) : Prop :=
  userHeaderMessage m = dltUserMessageLog →
    (dltIsHtypUeh (storedHtyp m) = true ∧
        dltStandardHeaderExtraSize (storedHtyp m) = sizeofDltStandardHeaderExtra) ∨
      (resendApidOffset < m.length → m.getD resendApidOffset 0 ≠ 0) ∧
        ∀ off, applicationIdField m = some off → m.getD off 0 ≠ 0

section message

variable {appID : Id4} {m : List UInt8}

theorem extraSize_cases (htyp : UInt8) :
    dltStandardHeaderExtraSize htyp = sizeofDltStandardHeaderExtra ∨ dltStandardHeaderExtraSize htyp + 4 ≤ 12 := by
  unfold dltStandardHeaderExtraSize sizeofDltStandardHeaderExtra
  split_ifs <;> simp

/-- An id that is not empty starts with a byte that is not zero. -/
theorem head_id (h : appID.isEmpty = false) : (dltSetId appID.bytes).bytes.getD 0 0 ≠ 0 := by
  have hcut : (dltSetId appID.bytes).isEmpty = false := by rw [isEmpty_dltSetId, h]
  unfold Id4.isEmpty at hcut
  intro hzero
  rw [getD_eq_getElem?_getD] at hzero
  rw [decide_eq_false_iff_not] at hcut
  apply hcut
  rw [headD_eq_head?_getD, head?_eq_getElem?]
  exact hzero

theorem id_ne_nil (appID : Id4) : (dltSetId appID.bytes).bytes ≠ [] := by
  apply ne_nil_of_length_pos
  rw [Id4.length_eq]
  decide

theorem length_fillId {off : ℕ} (h : off + 4 ≤ m.length) : (fillId appID off m).length = m.length := by
  unfold fillId
  split_ifs
  · apply length_overwrite
    rw [Id4.length_eq]
    exact h
  · rfl

/-- **Filling a field that is empty changes the message.** -/
theorem fillId_eq_iff {off : ℕ} (hid : appID.isEmpty = false) :
    (fillId appID off m).take m.length = m ↔ (off < m.length → m.getD off 0 ≠ 0) := by
  rcases Nat.lt_or_ge off m.length with hlt | hge
  · unfold fillId
    split_ifs with hzero
    · refine iff_of_false (fun heq => ?_) (fun hnot => hnot hlt hzero)
      have hget := congrArg (fun xs : List UInt8 => xs.getD off 0) heq
      simp only [getD_eq_getElem?_getD, getElem?_take_of_lt hlt] at hget
      rw [← getD_eq_getElem?_getD, ← getD_eq_getElem?_getD, hzero,
        getD_overwrite_self hlt.le (id_ne_nil appID)] at hget
      exact head_id hid hget
    · exact iff_of_true take_length fun _ => hzero
  · refine iff_of_true ?_ fun hlt => absurd hlt hge.not_gt
    unfold fillId
    split_ifs
    · unfold overwrite
      rw [append_assoc, take_of_length_le hge, take_left' rfl]
    · exact take_length

/-- **What is sent of a message is right exactly when it is patched right.** -/
theorem sentMessage_eq_iff (hm : StoredMessage m) (hid : appID.isEmpty = false) :
    sentMessage appID m = withApplicationId appID m ↔ PatchedRight m := by
  have hpattern := hm.pattern
  unfold sentMessage addApplicationId withApplicationId PatchedRight
  rw [hpattern, if_pos rfl]
  by_cases hregister : userHeaderMessage m = dltUserMessageRegisterContext
  · have hfield : applicationIdField m = some sizeofDltUserHeader := by rw [applicationIdField, if_pos hregister]
    have hlen := hm.field_le _ hfield
    rw [if_pos hregister, hfield]
    refine iff_of_true ?_ fun hlog => ?_
    · simp only
      apply take_of_length_le
      rw [length_fillId (by omega)]
    · rw [hregister] at hlog
      cases hlog
  rw [if_neg hregister]
  by_cases hlog : userHeaderMessage m = dltUserMessageLog
  swap
  · have hfield : applicationIdField m = none := by
      rw [applicationIdField, if_neg hregister, if_neg fun hboth => hlog hboth.1]
    rw [if_neg hlog, hfield]
    exact iff_of_true take_length fun hfalse => absurd hfalse hlog
  rw [if_pos hlog]
  simp only [hlog, true_implies]
  by_cases hueh : dltIsHtypUeh (storedHtyp m) = true
  swap
  · have hfield : applicationIdField m = none := by
      rw [applicationIdField, if_neg hregister, if_neg fun hboth => hueh hboth.2]
    simp [hfield, hueh, fillId_eq_iff hid, reduceCtorEq]
  · have hfield : applicationIdField m = some (sizeofDltUserHeader + sizeofDltStandardHeader +
        dltStandardHeaderExtraSize (storedHtyp m) + 2) := by
      rw [applicationIdField, if_neg hregister, if_pos ⟨hlog, hueh⟩]
    have hlen := hm.field_le _ hfield
    simp only [hfield, hueh, true_and, Option.some.injEq, forall_eq']
    rcases extraSize_cases (storedHtyp m) with hall | hsome
    · -- all parameters are there: the offset is that of the field
      refine iff_of_true ?_ (.inl hall)
      rw [hall] at hlen ⊢
      apply take_of_length_le
      rw [length_fillId]
      unfold resendApidOffset
      omega
    · have hne : ¬ dltStandardHeaderExtraSize (storedHtyp m) = sizeofDltStandardHeaderExtra := by
        unfold sizeofDltStandardHeaderExtra
        omega
      generalize hoff : sizeofDltUserHeader + sizeofDltStandardHeader + dltStandardHeaderExtraSize (storedHtyp m) + 2 =
        off at hlen ⊢
      have hbefore : off + 4 ≤ resendApidOffset := by
        rw [← hoff]
        unfold resendApidOffset sizeofDltStandardHeaderExtra
        omega
      have hspec : (fillId appID off m).take m.length = fillId appID off m :=
        take_of_length_le (length_fillId (by omega)).le
      have hright := @fillId_eq_iff appID m off hid
      have hfixed := @fillId_eq_iff appID m resendApidOffset hid
      rw [hspec] at hright
      simp only [hne, false_or]
      have hlt : off < m.length := by omega
      constructor
      · intro hsent
        have hkept : resendApidOffset < m.length → m.getD resendApidOffset 0 ≠ 0 := by
          -- the field stays as it was behind its own place, and the fixed offset is behind it
          intro hinside hzero
          have hsame : (fillId appID off m).getD resendApidOffset 0 = 0 := by
            unfold fillId
            split_ifs
            · rw [getD_overwrite_of_ge hlt.le (by rw [Id4.length_eq]; exact hbefore), hzero]
            · exact hzero
          have hchanged : ((fillId appID resendApidOffset m).take m.length).getD resendApidOffset 0 ≠ 0 := by
            rw [getD_eq_getElem?_getD, getElem?_take_of_lt hinside, ← getD_eq_getElem?_getD, fillId,
              if_pos hzero, getD_overwrite_self hinside.le (id_ne_nil appID)]
            exact head_id hid
          rw [hsent] at hchanged
          exact hchanged hsame
        refine ⟨hkept, ?_⟩
        rw [hfixed.mpr hkept] at hsent
        exact hright.mp hsent.symm hlt
      · rintro ⟨hkept, hfield⟩
        rw [hfixed.mpr hkept, hright.mpr fun _ => hfield]

end message

/-! ## The messages that are stored -/

/-- A log message as `dlt_user_log_send_log` stores it, behind its user header. -/
theorem storedMessage_of_sends {env : SendEnv} {user : DltUser} {log : DltContextData} {mtype : ℤ}
    {bytes : List UInt8} (h : (dltUserLogSendLog env user log mtype).Sends bytes) :
    StoredMessage (userHeaderPattern ++ leBytes 4 dltUserMessageLog ++ bytes) := by
  obtain ⟨handle, msg, f, -, hspec, -, hbytes, -, hheader, hhtyp⟩ := dltUserLogSendLog_framed h
  have hpre : (userHeaderPattern ++ leBytes 4 dltUserMessageLog).length = sizeofDltUserHeader := by decide
  have hmessage : userHeaderMessage (userHeaderPattern ++ leBytes 4 dltUserMessageLog ++ bytes) =
      dltUserMessageLog := by
    rw [append_assoc, userHeaderMessage, drop_left' (by decide), take_left' (by decide)]
    decide
  have hfits : sizeofDltStorageHeader + headerLength (dltUserLogHtyp user log) ≤ msg.headerbuffer.length := by
    have := extraSize_le (dltUserLogHtyp user log)
    rw [hspec.length_eq, headerLength, sizeofHeaderbuffer]
    omega
  have hheaderLen : f.header.length = headerLength (dltUserLogHtyp user log) := by
    rw [hheader, length_field hfits]
  have hlen : headerLength (dltUserLogHtyp user log) ≤ bytes.length := by
    rw [hbytes, length_append]
    omega
  have hfour : 4 ≤ headerLength (dltUserLogHtyp user log) := by
    unfold headerLength sizeofDltStandardHeader
    omega
  have hstored : storedHtyp (userHeaderPattern ++ leBytes 4 dltUserMessageLog ++ bytes) =
      dltUserLogHtyp user log := by
    rw [← hhtyp, ← htypOf_append (by omega) f.payload, ← hbytes, storedHtyp, htypOf, getD_eq_getElem?_getD,
      getD_eq_getElem?_getD, getElem?_append_right hpre.le, hpre, Nat.sub_self]
  refine ⟨?_, ?_, ?_⟩
  · rw [length_append, hpre]
    omega
  · unfold dltUserCheckUserheader
    rw [append_assoc, take_left' (by decide)]
    decide
  · intro off hoff
    unfold applicationIdField at hoff
    rw [hmessage, if_neg (by decide), hstored] at hoff
    simp only [true_and, Option.ite_none_right_eq_some, Option.some.injEq] at hoff
    obtain ⟨hueh, rfl⟩ := hoff
    rw [headerLength, if_pos hueh] at hlen
    rw [length_append, hpre]
    unfold sizeofDltExtendedHeader at hlen
    omega

/-! ## The call -/

/-- The messages that are handed to the connection: those that are sent, and the first one that is not. -/
def attempted (outcomes : ℕ → WriteOutcome) (appID : Id4) (user : DltUserBuffers) (q : List (List UInt8)) :
    List (List UInt8) :=
  if appID.isEmpty then [] else q.take (resentCount outcomes user.connected 0 q.length + 1)

/-- Without a log buffer nothing is copied, and `resend_buffer` is as `calloc` gave it. -/
def ResendMemory (user : DltUserBuffers) : Prop :=
  user.logBufLen = 0 → ∀ b ∈ user.resendBuffer, b = 0

/-- **Resending is faithful**: no copy is longer than `resend_buffer`, and what is handed to the connection are
the stored messages with their application ids. -/
structure ResendFaithful (malloc : Malloc) (outcomes : ℕ → WriteOutcome) (appID : Id4) (user : DltUserBuffers)
    (q : List (List UInt8)) : Prop where
  room : ∀ m ∈ attempted outcomes appID user q, m.length ≤ user.resendBuffer.length
  writes_eq : (dltUserLogResendBuffer malloc outcomes appID user).writes =
    (attempted outcomes appID user q).map (withApplicationId appID)

section call

variable {malloc : Malloc} {outcomes : ℕ → WriteOutcome} {appID : Id4} {user : DltUserBuffers} {m : List UInt8}
  {q : List (List UInt8)}

theorem addApplicationId_of_zero {memory : List UInt8} (h : ∀ b ∈ memory, b = 0) :
    addApplicationId appID memory = memory := by
  have hcheck : dltUserCheckUserheader memory = false := by
    unfold dltUserCheckUserheader
    rw [decide_eq_false_iff_not]
    intro hpattern
    have hmem : (0x44 : UInt8) ∈ memory.take 4 := by
      rw [hpattern]
      exact mem_cons_self
    exact absurd (h _ (mem_of_mem_take hmem)) (by decide)
  unfold addApplicationId
  rw [hcheck, if_neg Bool.false_ne_true]

theorem withApplicationId_pattern (hm : StoredMessage m) :
    (withApplicationId appID m).take 4 = userHeaderPattern := by
  have hpattern : m.take 4 = userHeaderPattern := of_decide_eq_true hm.pattern
  have hfill : ∀ off, sizeofDltUserHeader ≤ off → off ≤ m.length → (fillId appID off m).take 4 = m.take 4 := by
    intro off hoff hle
    have hcut : ∀ xs : List UInt8, xs.take 4 = (xs.take off).take 4 := by
      intro xs
      rw [take_take, Nat.min_eq_left]
      unfold sizeofDltUserHeader at hoff
      omega
    unfold fillId
    split_ifs
    · rw [hcut, take_overwrite _ hle, ← hcut]
    · rfl
  unfold withApplicationId
  cases hfield : applicationIdField m with
  | none => exact hpattern
  | some off =>
    have hlen := hm.field_le off hfield
    refine (hfill off ?_ (by omega)).trans hpattern
    unfold applicationIdField at hfield
    split_ifs at hfield <;> simp only [Option.some.injEq] at hfield <;> omega

/-- **Without a log buffer zeros are sent**, and no message is all zeros. -/
theorem resendLoop_zeros (malloc : Malloc) (outcomes : ℕ → WriteOutcome) (appID : Id4)
    (h : Layout user.startupBuffer (m :: q)) (hm : StoredMessage m) (hmemory : ∀ b ∈ user.resendBuffer, b = 0)
    (hlen : user.logBufLen = 0) (num : ℕ) :
    (resendLoop malloc outcomes appID (q.length + 1) num user).writes.head? ≠ some (withApplicationId appID m) := by
  have hne : m ≠ [] := by
    rintro rfl
    exact absurd hm.header_le (by decide)
  obtain ⟨memory, heq, hstep⟩ := resendLoop_succ malloc outcomes appID h hne q.length num
  have hsame : memory = user.resendBuffer := by
    rw [heq, hlen, if_neg (by decide), overwrite_zero]
    simp only [length_nil, drop_zero, nil_append]
    exact addApplicationId_of_zero hmemory
  have hhead : (resendLoop malloc outcomes appID (q.length + 1) num user).writes.head? =
      some (user.resendBuffer.take m.length) := by
    rw [hstep, hsame]
    split_ifs <;> rfl
  rw [hhead]
  intro hsent
  rw [Option.some.injEq] at hsent
  have hpattern := @withApplicationId_pattern appID m hm
  rw [← hsent] at hpattern
  have hmem : (0x44 : UInt8) ∈ (user.resendBuffer.take m.length).take 4 := by
    rw [hpattern]
    exact mem_cons_self
  exact absurd (hmemory _ (mem_of_mem_take (mem_of_mem_take hmem))) (by decide)

/-- **Resending is faithful exactly when each message that is handed to the connection is patched right**, fits in
`resend_buffer`, and there is a log buffer. -/
theorem resendFaithful_iff (malloc : Malloc) (outcomes : ℕ → WriteOutcome) (appID : Id4)
    (h : Layout user.startupBuffer q) (hq : ∀ m ∈ q, StoredMessage m) (hmemory : ResendMemory user) :
    ResendFaithful malloc outcomes appID user q ↔
      ∀ m ∈ attempted outcomes appID user q,
        m.length ≤ user.resendBuffer.length ∧ user.logBufLen ≠ 0 ∧ PatchedRight m := by
  by_cases hid : appID.isEmpty = true
  · have hnone : attempted outcomes appID user q = [] := if_pos hid
    refine iff_of_true ⟨?_, ?_⟩ ?_
    · rw [hnone]
      intro m hm
      cases hm
    · rw [hnone, dltUserLogResendBuffer, if_pos hid]
      rfl
    · rw [hnone]
      intro m hm
      cases hm
  have hsome : attempted outcomes appID user q =
      q.take (resentCount outcomes user.connected 0 q.length + 1) := if_neg hid
  have hcall : dltUserLogResendBuffer malloc outcomes appID user =
      resendLoop malloc outcomes appID q.length 0 user := by
    rw [dltUserLogResendBuffer, if_neg hid, dltBufferGetMessageCount, h.count_eq]
    rfl
  have hright : ∀ m ∈ attempted outcomes appID user q,
      (sentMessage appID m = withApplicationId appID m ↔ PatchedRight m) := by
    intro m hm
    rw [hsome] at hm
    exact sentMessage_eq_iff (hq m (mem_of_mem_take hm)) (by simpa using hid)
  have hwrites : user.logBufLen ≠ 0 →
      (∀ m ∈ attempted outcomes appID user q, m.length ≤ user.resendBuffer.length) →
      (dltUserLogResendBuffer malloc outcomes appID user).writes =
        (attempted outcomes appID user q).map (sentMessage appID) := by
    intro hlen hroom
    rw [hsome] at hroom ⊢
    rw [hcall]
    exact resendLoop_writes malloc outcomes appID h (fun m hm => (hq m hm).header_le) hlen 0 hroom
  constructor
  · intro hfaithful m hm
    have hlen : user.logBufLen ≠ 0 := by
      intro hzero
      cases q with
      | nil =>
        rw [hsome] at hm
        cases hm
      | cons first rest =>
        apply resendLoop_zeros malloc outcomes appID h (hq first mem_cons_self) (hmemory hzero) hzero 0
        have heq := hfaithful.writes_eq
        rw [hcall, hsome, take_succ_cons, map_cons] at heq
        rw [← length_cons, heq]
        rfl
    refine ⟨hfaithful.room m hm, hlen, ?_⟩
    have heq := hfaithful.writes_eq
    rw [hwrites hlen hfaithful.room, map_inj_left] at heq
    exact (hright m hm).mp (heq m hm)
  · intro hall
    refine ⟨fun m hm => (hall m hm).1, ?_⟩
    by_cases hlen : user.logBufLen = 0
    · -- nothing is handed to the connection
      have hnone : attempted outcomes appID user q = [] := by
        rw [eq_nil_iff_forall_not_mem]
        intro m hm
        exact (hall m hm).2.1 hlen
      have hempty : q = [] := by
        rw [hsome, take_eq_nil_iff] at hnone
        exact hnone.resolve_left (by omega)
      subst hempty
      rw [hcall, hnone]
      rfl
    · rw [hwrites hlen fun m hm => (hall m hm).1, map_inj_left]
      intro m hm
      exact (hright m hm).mpr (hall m hm).2.2

end call

/-! ## Two messages -/

/-- An application that is not registered, with the header flags of the message. -/
def unregisteredUser (flags : Bool) : DltUser :=
  { sampleUser with
    appID := dltSetId []
    appID_canonical := canonical_dltSetId_nil
    withSessionId := flags
    withTimestamp := flags
    withEcuId := flags }

/-- The value 256 of 32 bits. -/
def storedLog : DltContextData :=
  { sampleLog with buffer := [0x43, 0, 0, 0, 0, 1, 0, 0], size_le := by decide }

def storedSample (flags : Bool) : List UInt8 :=
  userHeaderPattern ++ leBytes 4 dltUserMessageLog ++
    (dltUserLogSendLog sampleSendEnv (unregisteredUser flags) storedLog 0).stored.getD []

theorem storedSample_stored (flags : Bool) : StoredMessage (storedSample flags) := by
  have hstored : (dltUserLogSendLog sampleSendEnv (unregisteredUser flags) storedLog 0).Sends
      ((dltUserLogSendLog sampleSendEnv (unregisteredUser flags) storedLog 0).stored.getD []) := by
    right
    cases flags <;> rfl
  exact storedMessage_of_sends hstored

/-- A startup buffer of 200 bytes. -/
def startupSample : DltBuffer :=
  { shm := { write := 0, read := 0, count := 0 }, size := 200, mem := List.replicate 200 0,
    minSize := 212, maxSize := 1000, stepSize := 100 }

theorem startupSample_layout : Layout startupSample [] := by
  obtain ⟨buf, hinit, hlayout⟩ := @dltBufferInitDynamic_layout zeroMalloc 212 1000 100 zeroMalloc_succeeds
    (by decide) (by decide) (by decide) (by decide) (by decide)
  have hsame : dltBufferInitDynamic zeroMalloc 212 1000 100 = .ok startupSample := rfl
  rw [hinit, Except.ok.injEq] at hsame
  rw [← hsame]
  exact hlayout

/-- The library with the message in its startup buffer, and a connection. -/
def userSample (flags : Bool) : DltUserBuffers where
  startupBuffer := (dltBufferPush3 zeroMalloc startupSample (storedSample flags) [] []).1
  resendBuffer := List.replicate 100 0
  logBufLen := 66
  connected := true

theorem userSample_layout (flags : Bool) : Layout (userSample flags).startupBuffer [storedSample flags] := by
  have hpush : (dltBufferPush3 zeroMalloc startupSample (storedSample flags) [] []).2 = dltReturnOk := by
    cases flags <;> decide +kernel
  obtain ⟨-, hlayout⟩ | ⟨herror, -⟩ := @dltBufferPush3_layout startupSample [] zeroMalloc startupSample_layout
    (storedSample flags) [] [] (by cases flags <;> decide +kernel)
    (fun _ => .inl (by cases flags <;> decide +kernel))
  · rw [append_nil, append_nil, nil_append] at hlayout
    exact hlayout
  · rw [hpush] at herror
    exact absurd herror (by decide)

/-- A message with all the parameters behind the standard header is sent with its application id. -/
theorem resendFaithful_iff_sample :
    ResendFaithful zeroMalloc (fun _ => .complete) (dltSetId (ascii "APP")) (userSample true) [storedSample true] :=
  (resendFaithful_iff zeroMalloc (fun _ => .complete) (dltSetId (ascii "APP")) (userSample_layout true)
    (fun m hm => by rw [mem_singleton.mp hm]; exact storedSample_stored true)
    (fun hlen => absurd hlen (by decide))).mpr (by
      intro m hm
      have hmem : m = storedSample true := mem_singleton.mp hm
      subst hmem
      exact ⟨by decide +kernel, by decide, fun _ => .inl (by decide +kernel)⟩)

/-- **Without the parameters the id goes into the payload**: the application id stays empty, and of the value 256
the bytes `APP` are sent. -/
theorem resend_overwrites_payload :
    StoredMessage (storedSample false) ∧ Layout (userSample false).startupBuffer [storedSample false] ∧
      withApplicationId (dltSetId (ascii "APP")) (storedSample false) =
        userHeaderPattern ++ leBytes 4 dltUserMessageLog ++ [0x21, 255, 0, 22, 0x41, 1] ++ ascii "APP" ++ [0] ++
          ascii "CTX" ++ [0, 0x43, 0, 0, 0, 0, 1, 0, 0] ∧
      (dltUserLogResendBuffer zeroMalloc (fun _ => .complete) (dltSetId (ascii "APP")) (userSample false)).writes =
        [userHeaderPattern ++ leBytes 4 dltUserMessageLog ++ [0x21, 255, 0, 22, 0x41, 1, 0, 0, 0, 0] ++
          ascii "CTX" ++ [0, 0x43, 0, 0, 0] ++ ascii "APP" ++ [0]] ∧
      ¬ ResendFaithful zeroMalloc (fun _ => .complete) (dltSetId (ascii "APP")) (userSample false)
        [storedSample false] := by
  refine ⟨storedSample_stored false, userSample_layout false, by decide +kernel, by decide +kernel, ?_⟩
  intro hfaithful
  exact absurd hfaithful.writes_eq (by decide +kernel)

end Dlt.User
