import Dlt.User.SendLogDaemon

/-!
# What the result of a log call says

* `sendLogDaemon_truthful_iff` — **the result tells the truth exactly when the message is delivered, or there is no
  room for it, or there is and the size predicate agrees.** An empty buffer must not grow for it.
-/

namespace Dlt.User

open Dlt.Lib Dlt.Shared List
open Dlt.Daemon (userHeaderPattern)

/-! ## The startup buffer -/

/-- The startup buffer with the messages `q`. -/
structure StartupBuffer (buf : DltBuffer) (q : List (List UInt8)) : Prop where
  layout : Layout buf q
  min_le : buf.minSize ≤ buf.size + sizeofDltBufferHead
  /-- Every message has a user header. -/
  nonempty : ∀ m ∈ q, m ≠ []

/-- The size of the data area behind the removal of the last message. -/
def minimizedSize (malloc : Malloc) (buf : DltBuffer) : ℕ :=
  if (malloc buf.minSize).isSome then buf.minSize - sizeofDltBufferHead else buf.size

/-- The limits of the startup buffer behind the removal of its `k` oldest messages. -/
def sizeBehind (malloc : Malloc) (buf : DltBuffer) (q : List (List UInt8)) (k : ℕ) : DltBuffer :=
  { buf with size := if 0 < k ∧ k = q.length then minimizedSize malloc buf else buf.size }

section behind

variable {malloc : Malloc} {buf : DltBuffer} {q : List (List UInt8)} {m : List UInt8}

theorem StartupBuffer.size_pos (h : StartupBuffer buf q) : 0 < buf.size := by
  have := h.layout.head_lt_min
  have := h.min_le
  omega

/-- Removing the oldest message shrinks the buffer when it was the last. -/
theorem remove_limits (malloc : Malloc) (h : Layout buf (m :: q)) :
    SameLimits { buf with size := if q = [] then minimizedSize malloc buf else buf.size }
      (dltBufferRemove malloc buf).1 := by
  obtain ⟨-, shm, -, heq⟩ := dltBufferGet_cons malloc h.queued false 0 true
  rw [if_pos rfl] at heq
  unfold dltBufferRemove
  rw [heq]
  by_cases hq : q = []
  swap
  · rw [if_neg hq, if_neg hq]
    exact ⟨rfl, rfl, rfl, rfl⟩
  rw [if_pos hq, if_pos hq]
  have hmin := h.head_lt_min
  unfold dltBufferMinimizeSize minimizedSize
  by_cases hsame : buf.size + sizeofDltBufferHead = buf.minSize
  · rw [if_pos hsame]
    refine ⟨?_, rfl, rfl, rfl⟩
    simp only
    split_ifs <;> omega
  · rw [if_neg hsame]
    simp only
    cases malloc buf.minSize with
    | none => exact ⟨rfl, rfl, rfl, rfl⟩
    | some fresh => exact ⟨rfl, rfl, rfl, rfl⟩

theorem removed_limits (malloc : Malloc) {k : ℕ} (h : Layout buf q) (hk : k ≤ q.length) :
    SameLimits (sizeBehind malloc buf q k) (removed malloc k buf) := by
  unfold sizeBehind
  induction k generalizing buf q with
  | zero =>
    rw [if_neg (fun hboth => absurd hboth.1 (Nat.lt_irrefl 0))]
    exact ⟨rfl, rfl, rfl, rfl⟩
  | succ k ih =>
    cases q with
    | nil => exact absurd hk (Nat.not_succ_le_zero k)
    | cons m q =>
      have hfirst := remove_limits malloc h
      have hrest := ih (remove_layout malloc h) (Nat.le_of_succ_le_succ hk)
      rw [removed]
      refine ⟨?_, hrest.min_eq.trans hfirst.min_eq, hrest.max_eq.trans hfirst.max_eq,
        hrest.step_eq.trans hfirst.step_eq⟩
      have hsize := hfirst.size_eq
      have hmin := hfirst.min_eq
      rw [hrest.size_eq]
      unfold minimizedSize at hsize ⊢
      simp only [hmin] at hsize ⊢
      rw [hsize, length_cons]
      by_cases hall : k = q.length
      · subst hall
        by_cases hq : q = []
        · subst hq
          simp
        · simp [hq, length_pos_iff.mpr hq]
      · have hq : q ≠ [] := by
          rintro rfl
          exact hall (Nat.le_zero.mp (Nat.le_of_succ_le_succ hk))
        simp [hall, hq]

theorem StartupBuffer.removed (h : StartupBuffer buf q) (malloc : Malloc) {k : ℕ} (hk : k ≤ q.length) :
    StartupBuffer (removed malloc k buf) (q.drop k) := by
  have hlimits := removed_limits malloc h.layout hk
  refine ⟨removed_layout malloc h.layout hk, ?_, fun m hm => h.nonempty m (mem_of_mem_drop hm)⟩
  have hmin := h.min_le
  rw [hlimits.min_eq, hlimits.size_eq]
  unfold sizeBehind minimizedSize
  simp only
  split_ifs <;> omega

end behind

/-! ## The property and the condition -/

/-- The oldest messages that are written before the message. -/
def sentBefore (writes : DaemonWrites) (appID : Id4) (connected : Bool) (q : List (List UInt8)) : ℕ :=
  if appID.isEmpty then 0 else resentCount writes.resend connected 0 q.length

/-- The message itself is written: there is an application id and a connection, and all writes are complete. -/
def Delivers (writes : DaemonWrites) (appID : Id4) (connected : Bool) (q : List (List UInt8)) : Prop :=
  appID.isEmpty = false ∧ connected = true ∧ sentBefore writes appID connected q = q.length ∧
    writes.message = .complete

/-- The counter behind the message of the overflow. -/
def counterBehind (writes : DaemonWrites) (s : DaemonMode) : ℕ :=
  if s.buffers.connected ∧ writes.overflow then 0 else s.overflowCounter

/-- **The result tells the truth**, of a message `m` that follows the messages `left` when it is stored. -/
structure TellsTruth (counter : ℕ) (left : List (List UInt8)) (m : List UInt8) (outcome : SendOutcome) : Prop where
  /-- A message that is delivered or stored is a success. -/
  ok : outcome.delivered = true ∨ Queued outcome.state.buffers.startupBuffer (left ++ [m]) →
    outcome.ret = dltReturnOk
  /-- A message that is neither is discarded and counted. -/
  full : outcome.delivered = false → ¬ Queued outcome.state.buffers.startupBuffer (left ++ [m]) →
    outcome.ret = dltReturnBufferFull ∧ outcome.state.overflowCounter = counter + 1

/-- **When the result tells the truth**: the message is delivered; or there is no room, and the counter does not
overflow; or there is room without growing an empty buffer, and the size predicate agrees. -/
def TruthCondition (malloc : Malloc) (writes : DaemonWrites) (appID : Id4) (length : ℕ) (s : DaemonMode)
    (q : List (List UInt8)) : Prop :=
  let k := sentBefore writes appID s.buffers.connected q
  let limits := sizeBehind malloc s.buffers.startupBuffer q k
  let room := HasRoom malloc limits (q.drop k) (sizeofDltBufferBlockHead + length)
  Delivers writes appID s.buffers.connected q ∨
    (¬ room ∧ counterBehind writes s + 1 < 4294967296) ∨
    (room ∧ (q.drop k = [] → Fits limits (q.drop k) (sizeofDltBufferBlockHead + length)) ∧
      (limits.size + sizeofDltBufferHead + length ≤ limits.maxSize ∨ appID.isEmpty = true))

section daemon

variable {malloc : Malloc} {writes : DaemonWrites} {appID : Id4} {s : DaemonMode} {q : List (List UInt8)}
  {data1 data2 data3 : List UInt8}

theorem sentBefore_le (writes : DaemonWrites) (appID : Id4) (connected : Bool) (q : List (List UInt8)) :
    sentBefore writes appID connected q ≤ q.length := by
  unfold sentBefore resentCount
  split_ifs
  · exact Nat.zero_le _
  · exact leading_le _ _ _
  · exact Nat.zero_le _

theorem reportOverflow_eq (writes : DaemonWrites) (s : DaemonMode) :
    reportOverflow writes s = { s with overflowCounter := counterBehind writes s } := by
  obtain ⟨buffers, counter⟩ := s
  unfold reportOverflow counterBehind dltUserLogSendOverflow
  by_cases hsent : buffers.connected = true ∧ writes.overflow = true
  · simp only [hsent, and_self, if_true, and_true]
    by_cases hzero : counter = 0
    · rw [if_neg (not_not_intro hzero), hzero]
    · rw [if_pos hzero]
  · simp only [hsent, if_false]
    rw [if_neg (fun hboth => absurd hboth.2 (by decide))]

/-- What the startup buffer is behind the messages that are sent first. -/
theorem resendFirst_buffer (malloc : Malloc) (writes : DaemonWrites) (appID : Id4)
    (h : StartupBuffer s.buffers.startupBuffer q) :
    (resendFirst malloc writes appID s.buffers).user.startupBuffer =
      removed malloc (sentBefore writes appID s.buffers.connected q) s.buffers.startupBuffer := by
  unfold resendFirst sentBefore
  by_cases hid : appID.isEmpty = true
  · rw [if_pos hid, if_neg (fun hboth => hboth.2 hid)]
    rfl
  rw [if_neg hid]
  by_cases hconnected : s.buffers.connected = true
  · rw [if_pos ⟨hconnected, hid⟩, dltUserLogResendBuffer, if_neg hid, dltBufferGetMessageCount, h.layout.count_eq]
    exact (resendLoop_resent malloc writes.resend appID h.layout h.nonempty 0).buffer_eq
  · rw [if_neg (fun hboth => hconnected hboth.1), resentCount, if_neg hconnected]
    rfl

/-- What the writes come to before the message is stored: success is delivery, or there is no application id. -/
theorem sendTry (malloc : Malloc) (writes : DaemonWrites) (appID : Id4)
    (h : StartupBuffer s.buffers.startupBuffer q) {resent : ResendResult}
    (hresent : resent = resendFirst malloc writes appID s.buffers) {tries : Bool}
    (htries : tries = decide (resent.ret = dltReturnOk ∧ ¬ appID.isEmpty = true)) {ret : ℤ}
    (hret : ret = if tries = true then dltUserLogOut3 resent.user.connected writes.message else resent.ret) :
    ((tries = true ∧ ret = dltReturnOk) ↔ Delivers writes appID s.buffers.connected q) ∧
      (¬ Delivers writes appID s.buffers.connected q → (ret = dltReturnOk ↔ appID.isEmpty = true)) := by
  unfold Delivers
  by_cases hid : appID.isEmpty = true
  · -- nothing is tried
    have hfirst : resent.ret = dltReturnOk := by
      rw [hresent, resendFirst, if_neg (fun hboth => hboth.2 hid)]
    rw [hid] at htries
    simp only [not_true_eq_false, and_false, decide_false] at htries
    rw [htries] at hret
    simp only [htries, hid, Bool.false_eq_true, false_and, Bool.true_eq_false, not_false_eq_true, true_implies,
      iff_true, true_and]
    rw [hret, if_neg Bool.false_ne_true]
    exact hfirst
  have hidFalse : appID.isEmpty = false := by simpa using hid
  by_cases hconnected : s.buffers.connected = true
  · have hloop := resendLoop_resent malloc writes.resend appID h.layout h.nonempty 0
    have heq : resent = resendLoop malloc writes.resend appID q.length 0 s.buffers := by
      rw [hresent, resendFirst, if_pos ⟨hconnected, hid⟩, dltUserLogResendBuffer, if_neg hid,
        dltBufferGetMessageCount, h.layout.count_eq]
      rfl
    rw [← heq] at hloop
    have hcount : sentBefore writes appID s.buffers.connected q =
        resentCount writes.resend s.buffers.connected 0 q.length := if_neg hid
    rw [hcount]
    by_cases hall : resentCount writes.resend s.buffers.connected 0 q.length = q.length
    · have htrue : tries = true := by rw [htries, hloop.ret_iff.mpr hall, hidFalse]; rfl
      rw [htrue, if_pos rfl, hloop.connected_eq hall] at hret
      have hout := @dltUserLogOut3_ok_iff s.buffers.connected writes.message
      rw [← hret] at hout
      rw [hconnected] at hall hout ⊢
      simp only [htrue, hidFalse, hall, true_and, Bool.false_eq_true, iff_false] at hout ⊢
      exact ⟨hout, fun hnot hok => hnot (hout.mp hok)⟩
    · have hfail : ¬ resent.ret = dltReturnOk := fun hok => hall (hloop.ret_iff.mp hok)
      have hfalse : tries = false := by
        rw [htries, decide_eq_false_iff_not]
        exact fun hboth => hfail hboth.1
      rw [hfalse, if_neg Bool.false_ne_true] at hret
      simp [hfalse, hret, hfail, hall, hid]
  · have hconnectedFalse : s.buffers.connected = false := by simpa using hconnected
    have heq : resent = { user := s.buffers, ret := dltReturnOk, writes := [] } := by
      rw [hresent, resendFirst, if_neg (fun hboth => hconnected hboth.1)]
    have htrue : tries = true := by rw [htries, heq, hidFalse]; rfl
    have hfail : ¬ ret = dltReturnOk := by
      rw [hret, htrue, if_pos rfl, heq, dltUserLogOut3_ok_iff, hconnectedFalse]
      exact fun hboth => absurd hboth.1 Bool.false_ne_true
    simp [hfail, hid, hconnectedFalse]

/-- A message that is delivered leaves the rest of the startup buffer. -/
theorem toDaemon_delivers (h : StartupBuffer s.buffers.startupBuffer q)
    (hd : Delivers writes appID s.buffers.connected q) :
    (dltUserLogToDaemon malloc writes appID data1 data2 data3 s).delivered = true ∧
      (dltUserLogToDaemon malloc writes appID data1 data2 data3 s).ret = dltReturnOk ∧
      (dltUserLogToDaemon malloc writes appID data1 data2 data3 s).state.buffers.startupBuffer =
        removed malloc (sentBefore writes appID s.buffers.connected q) s.buffers.startupBuffer := by
  rw [← resendFirst_buffer malloc writes appID h]
  have hreport : (reportOverflow writes s).buffers = s.buffers := by rw [reportOverflow_eq]
  have hid := hd.1
  unfold dltUserLogToDaemon
  simp only [hreport]
  generalize hresent : resendFirst malloc writes appID s.buffers = resent
  generalize htries : decide (resent.ret = dltReturnOk ∧ ¬ appID.isEmpty = true) = tries
  generalize hret : (if tries = true then dltUserLogOut3 resent.user.connected writes.message else resent.ret) = ret
  obtain ⟨htry, -⟩ := sendTry malloc writes appID h hresent.symm htries.symm hret.symm
  obtain ⟨htrue, hok⟩ := htry.mpr hd
  simp [htrue, hok, hid]

/-- What becomes of a message that is not delivered. -/
structure Handled (malloc : Malloc) (writes : DaemonWrites) (appID : Id4) (data1 data2 data3 : List UInt8)
    (s : DaemonMode) (behind : DltBuffer) (outcome : SendOutcome) : Prop where
  delivered_eq : outcome.delivered = false
  buffer_eq : outcome.state.buffers.startupBuffer = (dltBufferPush3 malloc behind data1 data2 data3).1
  /-- Without room it is counted. -/
  full : (dltBufferPush3 malloc behind data1 data2 data3).2 = dltReturnError →
    outcome.ret = dltReturnBufferFull ∧ outcome.state.overflowCounter = u32 ((counterBehind writes s : ℤ) + 1)
  /-- Else the size predicate decides, unless nothing was tried. -/
  ok_iff : (dltBufferPush3 malloc behind data1 data2 data3).2 = dltReturnOk →
    outcome.ret ≠ dltReturnBufferFull ∧
      (outcome.ret = dltReturnOk ↔
        dltBufferCheckSize behind (i32 (data1.length + data2.length + data3.length : ℕ)) = dltReturnOk ∨
          appID.isEmpty = true)

/-- **A message that is not delivered is handed to the startup buffer.** -/
theorem toDaemon_handled (h : StartupBuffer s.buffers.startupBuffer q)
    (hd : ¬ Delivers writes appID s.buffers.connected q) :
    Handled malloc writes appID data1 data2 data3 s
      (removed malloc (sentBefore writes appID s.buffers.connected q) s.buffers.startupBuffer)
      (dltUserLogToDaemon malloc writes appID data1 data2 data3 s) := by
  have hbehind := resendFirst_buffer malloc writes appID h
  have hreport : (reportOverflow writes s).buffers = s.buffers := by rw [reportOverflow_eq]
  have hcounter : (reportOverflow writes s).overflowCounter = counterBehind writes s := by rw [reportOverflow_eq]
  rw [← hbehind]
  unfold dltUserLogToDaemon
  simp only [hreport, hcounter]
  generalize hresent : resendFirst malloc writes appID s.buffers = resent
  generalize htries : decide (resent.ret = dltReturnOk ∧ ¬ appID.isEmpty = true) = tries
  generalize hret : (if tries = true then dltUserLogOut3 resent.user.connected writes.message else resent.ret) = ret
  obtain ⟨htry, hempty⟩ := sendTry malloc writes appID h hresent.symm htries.symm hret.symm
  replace hempty := hempty hd
  have hdelivered : decide (tries = true ∧ ret = dltReturnOk) = false := by
    rw [decide_eq_false_iff_not, htry]
    exact hd
  have hstores : decide (ret ≠ dltReturnOk ∨ appID.isEmpty = true) = true := by
    rw [decide_eq_true_iff, ← hempty]
    exact (em (ret = dltReturnOk)).symm
  rw [hdelivered, hstores]
  simp only [if_true, dltUserLogOutErrorHandling]
  have hvalues : dltBufferCheckSize resent.user.startupBuffer
      (i32 (data1.length + data2.length + data3.length : ℕ)) = dltReturnOk ∨
      dltBufferCheckSize resent.user.startupBuffer
        (i32 (data1.length + data2.length + data3.length : ℕ)) = dltReturnError := by
    unfold dltBufferCheckSize
    split_ifs
    · exact .inr rfl
    · exact .inl rfl
  by_cases hpush : (dltBufferPush3 malloc resent.user.startupBuffer data1 data2 data3).2 = dltReturnError
  · rw [if_pos hpush, if_neg (by decide), if_pos rfl]
    exact ⟨rfl, rfl, fun _ => ⟨rfl, rfl⟩, fun hok => absurd (hpush.symm.trans hok) (by decide)⟩
  rw [if_neg hpush]
  rcases hvalues with hcheck | hcheck
  · rw [if_pos hcheck]
    exact ⟨rfl, rfl, fun herror => absurd herror hpush,
      fun _ => ⟨by simp only; decide, iff_of_true rfl (.inl hcheck)⟩⟩
  rw [hcheck, if_neg (by decide), if_neg (by decide)]
  -- the result of the writes decides
  by_cases hfull : ret = dltReturnPipeFull
  · rw [if_pos hfull]
    refine ⟨rfl, rfl, fun herror => absurd herror hpush,
      fun _ => ⟨by simp only; decide, iff_of_false (by simp only; decide) ?_⟩⟩
    rw [hcheck, ← hempty, hfull]
    decide
  by_cases hpipe : ret = dltReturnPipeError
  · rw [if_neg hfull, if_pos hpipe]
    refine ⟨rfl, rfl, fun herror => absurd herror hpush,
      fun _ => ⟨by simp only; decide, iff_of_false (by simp only; decide) ?_⟩⟩
    rw [hcheck, ← hempty, hpipe]
    decide
  by_cases hok : ret = dltReturnOk
  · rw [if_neg hfull, if_neg hpipe, if_pos hok]
    exact ⟨rfl, rfl, fun herror => absurd herror hpush,
      fun _ => ⟨by simp only; decide, iff_of_true rfl (.inr (hempty.mp hok))⟩⟩
  · rw [if_neg hfull, if_neg hpipe, if_neg hok]
    refine ⟨rfl, rfl, fun herror => absurd herror hpush, fun _ => ⟨by simp only; decide, iff_of_false ?_ ?_⟩⟩
    · simp only
      decide
    · rintro (herror | herror)
      · rw [hcheck] at herror
        cases herror
      · exact hok (hempty.mpr herror)

/-- **The result of the part behind `dlt_user_log_reattach_to_daemon` tells the truth exactly when the condition
holds.** -/
theorem toDaemon_truthful_iff (h : StartupBuffer s.buffers.startupBuffer q)
    (hlen : pushNeeded data1 data2 data3 < 2147483648) :
    TellsTruth (counterBehind writes s) (q.drop (sentBefore writes appID s.buffers.connected q))
        (data1 ++ data2 ++ data3) (dltUserLogToDaemon malloc writes appID data1 data2 data3 s) ↔
      TruthCondition malloc writes appID (data1.length + data2.length + data3.length) s q := by
  have hk := sentBefore_le writes appID s.buffers.connected q
  have hstored := h.removed malloc hk
  have hlimits := removed_limits malloc h.layout hk
  unfold TruthCondition
  simp only
  by_cases hd : Delivers writes appID s.buffers.connected q
  · obtain ⟨hdelivered, hok, -⟩ := @toDaemon_delivers malloc writes appID s q data1 data2 data3 h hd
    refine iff_of_true ⟨fun _ => hok, fun hnot => ?_⟩ (.inl hd)
    rw [hdelivered] at hnot
    cases hnot
  have hhandled := @toDaemon_handled malloc writes appID s q data1 data2 data3 h hd
  rw [or_iff_right hd]
  generalize dltUserLogToDaemon malloc writes appID data1 data2 data3 s = outcome at *
  generalize sentBefore writes appID s.buffers.connected q = k at *
  generalize removed malloc k s.buffers.startupBuffer = behind at *
  generalize sizeBehind malloc s.buffers.startupBuffer q k = limits at *
  have hpos := hstored.size_pos
  have hroom := hlimits.hasRoom_iff malloc (q.drop k) (pushNeeded data1 data2 data3)
  have hfits : Fits behind (q.drop k) (pushNeeded data1 data2 data3) ↔
      Fits limits (q.drop k) (pushNeeded data1 data2 data3) :=
    hlimits.fits_iff (q.drop k) _
  have hcheck : dltBufferCheckSize behind (i32 (data1.length + data2.length + data3.length : ℕ)) = dltReturnOk ↔
      limits.size + sizeofDltBufferHead + (data1.length + data2.length + data3.length) ≤ limits.maxSize := by
    unfold pushNeeded at hlen
    rw [i32_natCast (by omega), dltBufferCheckSize_ok_iff hstored.layout.size_lt (by omega), hlimits.size_eq,
      hlimits.max_eq]
  obtain ⟨hok, herror⟩ := dltBufferPush3_ok_iff malloc hstored.layout hpos hlen
  rw [← pushNeeded, ← hroom, ← hfits, ← hcheck]
  have hbuffer := hhandled.buffer_eq
  by_cases hyes : HasRoom malloc behind (q.drop k) (pushNeeded data1 data2 data3)
  swap
  · -- no room: the message is counted
    obtain ⟨hret, hcounted⟩ := hhandled.full (herror.mpr hyes)
    have hnot := dltBufferPush3_not_queued hstored.layout hpos hlen hyes (data1 ++ data2 ++ data3)
    rw [← hbuffer] at hnot
    have hcount : u32 ((counterBehind writes s : ℤ) + 1) = counterBehind writes s + 1 ↔
        counterBehind writes s + 1 < 4294967296 := by
      unfold u32
      omega
    rw [← hcounted] at hcount
    constructor
    · intro htruth
      exact .inl ⟨hyes, hcount.mp (htruth.full hhandled.delivered_eq hnot).2⟩
    · rintro (⟨-, hsmall⟩ | ⟨hroomy, -⟩)
      · refine ⟨?_, fun _ _ => ⟨hret, hcount.mpr hsmall⟩⟩
        rintro (hdelivered | hqueued)
        · rw [hhandled.delivered_eq] at hdelivered
          cases hdelivered
        · exact absurd hqueued hnot
      · exact absurd hroomy hyes
  obtain ⟨hnotFull, hretOk⟩ := hhandled.ok_iff (hok.mpr hyes)
  by_cases hsafe : q.drop k = [] → Fits behind (q.drop k) (pushNeeded data1 data2 data3)
  · have hqueued := (dltBufferPush3_stores hstored.layout hpos hlen hyes hsafe).queued
    rw [← hbuffer] at hqueued
    constructor
    · intro htruth
      exact .inr ⟨hyes, hsafe, hretOk.mp (htruth.ok (.inr hqueued))⟩
    · rintro (⟨hno, -⟩ | ⟨-, -, hagrees⟩)
      · exact absurd hyes hno
      · exact ⟨fun _ => hretOk.mpr hagrees, fun _ hnot => absurd hqueued hnot⟩
  · -- an empty buffer grows and loses the message
    have hleft : q.drop k = [] := by
      by_contra hne
      exact hsafe fun hempty => absurd hempty hne
    have hnofit : ¬ Fits behind (q.drop k) (pushNeeded data1 data2 data3) := fun hfit => hsafe fun _ => hfit
    have hlayout := hstored.layout
    rw [hleft] at hlayout hyes hnofit hsafe
    have hlost := dltBufferPush3_loses hlayout hpos hlen hyes hnofit
    rw [← hbuffer] at hlost
    refine iff_of_false (fun htruth => ?_) ?_
    · rw [hleft] at htruth
      exact hnotFull (htruth.full hhandled.delivered_eq hlost).1
    · rw [hleft]
      rintro (⟨hno, -⟩ | ⟨-, hfit, -⟩)
      · exact hno hyes
      · exact hnofit (hfit rfl)

end daemon

/-! ## Runs -/

/-- An empty buffer does not grow for the message. -/
def GrowthSafeCall (malloc : Malloc) (writes : DaemonWrites) (appID : Id4) (length : ℕ) (s : DaemonMode)
    (q : List (List UInt8)) : Prop :=
  let k := sentBefore writes appID s.buffers.connected q
  let limits := sizeBehind malloc s.buffers.startupBuffer q k
  q.drop k = [] → Fits limits (q.drop k) (sizeofDltBufferBlockHead + length) ∨ ¬ CanGrow malloc limits

/-- What a call leaves in the startup buffer: the messages that were not sent, and the message when it is stored. -/
def QueueBehind (malloc : Malloc) (writes : DaemonWrites) (appID : Id4) (m : List UInt8) (s : DaemonMode)
    (q next : List (List UInt8)) : Prop :=
  let k := sentBefore writes appID s.buffers.connected q
  let room := HasRoom malloc (sizeBehind malloc s.buffers.startupBuffer q k) (q.drop k)
    (sizeofDltBufferBlockHead + m.length)
  (Delivers writes appID s.buffers.connected q ∨ ¬ room) ∧ next = q.drop k ∨
    (¬ Delivers writes appID s.buffers.connected q ∧ room) ∧ next = q.drop k ++ [m]

/-- The startup buffers and queues that log calls reach, as long as they do not grow an empty buffer. -/
inductive LogReach (init : DltBuffer) : DltBuffer → List (List UInt8) → Prop
  | init : LogReach init init []
  | call (malloc : Malloc) (writes : DaemonWrites) (appID : Id4) (data1 data2 data3 : List UInt8) (s : DaemonMode)
      {q next : List (List UInt8)} (reach : LogReach init s.buffers.startupBuffer q)
      (hlen : pushNeeded data1 data2 data3 < 2147483648) (hm : data1 ++ data2 ++ data3 ≠ [])
      (hsafe : GrowthSafeCall malloc writes appID (data1.length + data2.length + data3.length) s q)
      (hnext : QueueBehind malloc writes appID (data1 ++ data2 ++ data3) s q next) :
      LogReach init (dltUserLogToDaemon malloc writes appID data1 data2 data3 s).state.buffers.startupBuffer next

section run

variable {malloc : Malloc} {writes : DaemonWrites} {appID : Id4} {s : DaemonMode} {q next : List (List UInt8)}
  {data1 data2 data3 : List UInt8}

/-- **A call keeps the startup buffer**: it stores the messages that are left, and the message when there is room. -/
theorem toDaemon_keeps (h : StartupBuffer s.buffers.startupBuffer q)
    (hlen : pushNeeded data1 data2 data3 < 2147483648) (hm : data1 ++ data2 ++ data3 ≠ [])
    (hsafe : GrowthSafeCall malloc writes appID (data1.length + data2.length + data3.length) s q)
    (hnext : QueueBehind malloc writes appID (data1 ++ data2 ++ data3) s q next) :
    StartupBuffer (dltUserLogToDaemon malloc writes appID data1 data2 data3 s).state.buffers.startupBuffer next := by
  have hk := sentBefore_le writes appID s.buffers.connected q
  have hstored := h.removed malloc hk
  have hlimits := removed_limits malloc h.layout hk
  have htotal : sizeofDltBufferBlockHead + (data1 ++ data2 ++ data3).length = pushNeeded data1 data2 data3 := by
    rw [length_append, length_append, pushNeeded]
  unfold QueueBehind at hnext
  unfold GrowthSafeCall at hsafe
  simp only [htotal] at hnext hsafe
  rw [← pushNeeded] at hsafe
  by_cases hd : Delivers writes appID s.buffers.connected q
  · obtain ⟨-, rfl⟩ | ⟨hno, -⟩ := hnext
    · rw [(toDaemon_delivers h hd).2.2]
      exact hstored
    · exact absurd hd hno.1
  rw [(toDaemon_handled h hd).buffer_eq]
  generalize sentBefore writes appID s.buffers.connected q = k at *
  generalize removed malloc k s.buffers.startupBuffer = behind at *
  generalize sizeBehind malloc s.buffers.startupBuffer q k = limits at *
  rw [← hlimits.hasRoom_iff] at hnext
  rw [← hlimits.fits_iff, ← hlimits.canGrow_iff] at hsafe
  obtain ⟨hsize, hmin⟩ := dltBufferPush3_size malloc behind data1 data2 data3
  have hpos := hstored.size_pos
  have hle := hstored.min_le
  obtain ⟨hroom, rfl⟩ | ⟨⟨-, hroom⟩, rfl⟩ := hnext
  · have hno := hroom.resolve_left hd
    refine ⟨dltBufferPush3_keeps hstored.layout hpos hlen hno fun hempty => ?_, by omega, hstored.nonempty⟩
    exact (hsafe hempty).resolve_left fun hfits => hno (.inl hfits)
  · have hfits : q.drop k = [] → Fits behind (q.drop k) (pushNeeded data1 data2 data3) := by
      intro hempty
      obtain hfits | hnot := hsafe hempty
      · exact hfits
      obtain hfits | ⟨j, hgrows, -⟩ := hroom
      · exact hfits
      · exact absurd (hgrows.eq_zero hnot) (Nat.succ_ne_zero j)
    refine ⟨dltBufferPush3_stores hstored.layout hpos hlen hroom hfits, by omega, fun m hmem => ?_⟩
    rw [mem_append, mem_singleton] at hmem
    obtain hmem | rfl := hmem
    · exact hstored.nonempty m hmem
    · exact hm

/-- **Every startup buffer that log calls reach stores its queue.** -/
theorem LogReach.storesQueue {init buf : DltBuffer} (reach : LogReach init buf q) (hinit : StartupBuffer init []) :
    StartupBuffer buf q := by
  induction reach with
  | init => exact hinit
  | call malloc writes appID data1 data2 data3 s reach hlen hm hsafe hnext ih =>
    exact toDaemon_keeps ih hlen hm hsafe hnext

end run

/-! ## The function -/

def handedOnBytes (msg : DltMessage) (log : DltContextData) : List UInt8 :=
  userHeaderPattern ++ leBytes 4 dltUserMessageLog ++ headerBytes msg ++ log.buffer

def messageLength (user : DltUser) (log : DltContextData) : ℕ :=
  sizeofDltUserHeader + headerLength (dltUserLogHtyp user log) + log.buffer.length

/-- **The result of a call tells the truth**; a call that builds no message changes nothing and is no success. -/
def SendLogTruthful (malloc : Malloc) (writes : DaemonWrites) (env : SendEnv) (user : DltUser)
    (log : DltContextData) (mtype : ℤ) (s : DaemonMode) (q : List (List UInt8)) : Prop :=
  let outcome := dltUserLogSendLogDaemon malloc writes env user log mtype s
  match dltUserLogFrame env user log mtype with
  | .error _ => outcome.ret ≠ dltReturnOk ∧ outcome.delivered = false ∧ outcome.state = s
  | .ok (_, msg) =>
      TellsTruth (counterBehind writes s) (q.drop (sentBefore writes user.appID s.buffers.connected q))
        (handedOnBytes msg log) outcome

section call

variable {malloc : Malloc} {writes : DaemonWrites} {env : SendEnv} {user : DltUser} {log : DltContextData} {mtype : ℤ}
  {s : DaemonMode} {q : List (List UInt8)}

/-- The size of a message fits an `int`. -/
theorem pushNeeded_lt {counted : Option DltContext} {msg : DltMessage}
    (h : dltUserLogFrame env user log mtype = .ok (counted, msg)) :
    (userHeaderPattern ++ leBytes 4 dltUserMessageLog).length + (headerBytes msg).length + log.buffer.length =
        messageLength user log ∧
      pushNeeded (userHeaderPattern ++ leBytes 4 dltUserMessageLog) (headerBytes msg) log.buffer < 2147483648 := by
  have hpre : (userHeaderPattern ++ leBytes 4 dltUserMessageLog).length = sizeofDltUserHeader := by decide
  have hheader := length_headerBytes h
  have hle := headerLength_le (dltUserLogHtyp user log)
  have hpayload := log.size_le
  unfold pushNeeded messageLength
  rw [hpre, hheader]
  refine ⟨rfl, ?_⟩
  unfold sizeofDltBufferBlockHead sizeofDltUserHeader
  omega

/-- **The result of a log call tells the truth exactly when** it builds no message or the condition holds for the
message that it builds. -/
theorem sendLogDaemon_truthful_iff (malloc : Malloc) (writes : DaemonWrites) (env : SendEnv) (user : DltUser)
    (log : DltContextData) (mtype : ℤ) (h : StartupBuffer s.buffers.startupBuffer q) :
    SendLogTruthful malloc writes env user log mtype s q ↔
      (dltUserLogFrame env user log mtype).isOk = false ∨
        TruthCondition malloc writes user.appID (messageLength user log) s q := by
  unfold SendLogTruthful dltUserLogSendLogDaemon
  have hspec := @dltUserLogFrame_spec env user log mtype
  cases hframe : dltUserLogFrame env user log mtype with
  | error early => exact iff_of_true ⟨by rwa [hframe] at hspec, rfl, rfl⟩ (.inl rfl)
  | ok built =>
    obtain ⟨hlength, hsmall⟩ := pushNeeded_lt hframe
    rw [← hlength, or_iff_right (by simp [Except.isOk, Except.toBool])]
    exact toDaemon_truthful_iff h hsmall

end call

/-! ## Two calls -/

/-- An empty startup buffer of 200 bytes that may grow up to `max`. -/
def startupOf (max : ℕ) : DltBuffer :=
  { shm := { write := 0, read := 0, count := 0 }, size := 200, mem := List.replicate 200 0,
    minSize := 212, maxSize := max, stepSize := 100 }

theorem startupOf_startupBuffer {max : ℕ} (hmin : 212 ≤ max) (hmax : max < 2147483648) :
    StartupBuffer (startupOf max) [] := by
  refine ⟨?_, le_rfl, fun m hm => (by cases hm)⟩
  obtain ⟨buf, hinit, hlayout⟩ := @dltBufferInitDynamic_layout zeroMalloc 212 max 100 zeroMalloc_succeeds
    (by decide) hmin (by decide) (by omega) hmax
  have hsame : dltBufferInitDynamic zeroMalloc 212 max 100 = .ok (startupOf max) := by
    unfold dltBufferInitDynamic
    rw [if_neg (by omega), if_neg (by omega), if_neg (by omega)]
    rfl
  rw [hinit, Except.ok.injEq] at hsame
  rw [← hsame]
  exact hlayout

/-- The library without a connection. -/
def closedSample (max : ℕ) : DaemonMode where
  buffers := { startupBuffer := startupOf max, resendBuffer := [], logBufLen := 1390, connected := false }
  overflowCounter := 0

def noWrites : DaemonWrites := { overflow := false, resend := fun _ => .other, message := .other }

theorem logReach_storesQueue_sample :
    StartupBuffer (dltUserLogToDaemon zeroMalloc noWrites sampleUser.appID [1] [2] [3] (closedSample
      1000)).state.buffers.startupBuffer [[1, 2, 3]] :=
  LogReach.storesQueue (.call zeroMalloc noWrites sampleUser.appID [1] [2] [3] (closedSample 1000) .init (by decide)
    (by decide) (fun _ => .inl (by decide)) (.inr ⟨⟨fun h => absurd h.2.1 (by decide), .inl (by decide)⟩, rfl⟩))
    (startupOf_startupBuffer (by decide) (by decide))

/-- Far from its maximum the startup buffer takes the message, and the call succeeds. -/
theorem sendLogDaemon_truthful_iff_sample :
    SendLogTruthful zeroMalloc noWrites sampleSendEnv sampleUser sampleLog 0 (closedSample 1000) [] :=
  (sendLogDaemon_truthful_iff zeroMalloc noWrites sampleSendEnv sampleUser sampleLog 0
    (startupOf_startupBuffer (by decide) (by decide))).mpr
      (.inr (.inr (.inr ⟨.inl (by decide +kernel), fun _ => by decide +kernel, .inl (by decide +kernel)⟩)))

/-- **Near its maximum the startup buffer takes the message, and the call fails**: the predicate asks for the
message above the present size, although nothing of it is used. -/
theorem sendLog_error_for_stored_message :
    StartupBuffer (closedSample 240).buffers.startupBuffer [] ∧
      (dltUserLogSendLogDaemon zeroMalloc noWrites sampleSendEnv sampleUser sampleLog 0 (closedSample 240)).ret =
        dltReturnError ∧
      Queued (dltUserLogSendLogDaemon zeroMalloc noWrites sampleSendEnv sampleUser sampleLog 0
        (closedSample 240)).state.buffers.startupBuffer
          [userHeaderPattern ++ leBytes 4 dltUserMessageLog ++ sampleSent] ∧
      ¬ SendLogTruthful zeroMalloc noWrites sampleSendEnv sampleUser sampleLog 0 (closedSample 240) [] := by
  have hbuffer : StartupBuffer (closedSample 240).buffers.startupBuffer [] :=
    startupOf_startupBuffer (by decide) (by decide)
  have hret : (dltUserLogSendLogDaemon zeroMalloc noWrites sampleSendEnv sampleUser sampleLog 0
      (closedSample 240)).ret = dltReturnError := by
    decide +kernel
  cases hframe : dltUserLogFrame sampleSendEnv sampleUser sampleLog 0 with
  | error early =>
    have hok : (dltUserLogFrame sampleSendEnv sampleUser sampleLog 0).isOk = true := by decide +kernel
    rw [hframe] at hok
    cases hok
  | ok built =>
    obtain ⟨counted, msg⟩ := built
    have hsent : headerBytes msg ++ sampleLog.buffer = sampleSent := by
      have hbytes : (dltUserLogFrame sampleSendEnv sampleUser sampleLog 0).toOption.map
          (fun built => headerBytes built.2 ++ sampleLog.buffer) = some sampleSent := by
        decide +kernel
      rw [hframe] at hbytes
      exact Option.some.inj hbytes
    obtain ⟨hlength, hsmall⟩ := pushNeeded_lt hframe
    have hfits : Fits (startupOf 240) []
        (pushNeeded (userHeaderPattern ++ leBytes 4 dltUserMessageLog) (headerBytes msg) sampleLog.buffer) := by
      rw [pushNeeded, hlength]
      decide +kernel
    have hhandled := @toDaemon_handled zeroMalloc noWrites sampleUser.appID (closedSample 240) []
      (userHeaderPattern ++ leBytes 4 dltUserMessageLog) (headerBytes msg) sampleLog.buffer hbuffer
      (fun hd => absurd hd.2.1 (by decide))
    have hqueued := (@dltBufferPush3_stores zeroMalloc _ _ _ _ _ hbuffer.layout hbuffer.size_pos hsmall
      (.inl hfits) fun _ => hfits).queued
    have hstate : (dltUserLogSendLogDaemon zeroMalloc noWrites sampleSendEnv sampleUser sampleLog 0
        (closedSample 240)).state.buffers.startupBuffer =
        (dltBufferPush3 zeroMalloc (startupOf 240) (userHeaderPattern ++ leBytes 4 dltUserMessageLog)
          (headerBytes msg) sampleLog.buffer).1 := by
      unfold dltUserLogSendLogDaemon
      rw [hframe]
      exact hhandled.buffer_eq
    have hstored : Queued (dltUserLogSendLogDaemon zeroMalloc noWrites sampleSendEnv sampleUser sampleLog 0
        (closedSample 240)).state.buffers.startupBuffer
          [userHeaderPattern ++ leBytes 4 dltUserMessageLog ++ sampleSent] := by
      rw [hstate, ← hsent, ← append_assoc]
      exact hqueued
    refine ⟨hbuffer, hret, hstored, fun htruth => ?_⟩
    unfold SendLogTruthful at htruth
    simp only [hframe] at htruth
    have hok := htruth.ok (.inr (by
      rw [handedOnBytes, append_assoc, hsent]
      exact hstored))
    rw [hret] at hok
    cases hok

end Dlt.User
