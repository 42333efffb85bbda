import Dlt.Daemon.UserMessages
import Dlt.Shared.BufferFifo
import Dlt.User.SendLog

/-!
# Resending the startup buffer: `dlt_user_log_resend_buffer`

* `resendLoop_resent`, `resendLoop_writes` — **the oldest messages leave the buffer one by one**, as long as the
  writes are complete.

The loop counts to the number of messages that the buffer held before it.
-/

namespace Dlt.User

open Dlt.Lib Dlt.Shared List
open Dlt.Daemon (dltUserCheckUserheader userHeaderMessage)

variable {connected : Bool}

/-! ## Writing -/

/-- What becomes of `writev` on an open handle: it is complete, or it is not and `errno` says why. -/
inductive WriteOutcome
  | complete
  /-- `ETIMEDOUT`. -/
  | timedOut
  /-- `EBADF`. -/
  | badHandle
  /-- `EPIPE`. -/
  | brokenPipe
  /-- `EAGAIN`. -/
  | again
  | other
deriving DecidableEq

/-- Source: `dlt_user_shared.c`, `dlt_user_log_out3` -/
def dltUserLogOut3 (connected : Bool) (outcome : WriteOutcome) : ℤ :=
  if ¬ connected then dltReturnError
  else
    match outcome with
    | .complete => dltReturnOk
    | .timedOut | .badHandle | .brokenPipe => dltReturnPipeError
    | .again => dltReturnPipeFull
    | .other => dltReturnError

/-- A message is delivered by a complete write on an open handle. -/
theorem dltUserLogOut3_ok_iff {outcome : WriteOutcome} :
    dltUserLogOut3 connected outcome = dltReturnOk ↔ connected = true ∧ outcome = .complete := by
  unfold dltUserLogOut3
  cases connected <;> cases outcome <;> decide

/-! ## The application id -/

/-- `DLT_USER_MESSAGE_LOG`. Source: `dlt_user_shared_cfg.h` -/
abbrev dltUserMessageLog : ℕ := 1

/-- `DLT_USER_MESSAGE_REGISTER_CONTEXT`. Source: `dlt_user_shared_cfg.h` -/
abbrev dltUserMessageRegisterContext : ℕ := 4

/-- An id field that is empty is filled. Source: `dlt_user.c`, `dlt_user_log_resend_buffer` -/
def fillId (appID : Id4) (off : ℕ) (memory : List UInt8) : List UInt8 :=
  if memory.getD off 0 = 0 then overwrite memory off (dltSetId appID.bytes).bytes else memory

/-- Where the application id of an extended header is looked for: behind a standard header with all its
parameters. Source: `dlt_user_log_resend_buffer` -/
def resendApidOffset : ℕ := sizeofDltUserHeader + sizeofDltStandardHeader + sizeofDltStandardHeaderExtra + 2

/-- Source: `dlt_user_log_resend_buffer` -/
def addApplicationId (appID : Id4) (memory : List UInt8) : List UInt8 :=
  if dltUserCheckUserheader memory then
    if userHeaderMessage memory = dltUserMessageRegisterContext then fillId appID sizeofDltUserHeader memory
    else if userHeaderMessage memory = dltUserMessageLog then fillId appID resendApidOffset memory
    else memory
  else memory

/-! ## The function -/

/-- What the function reads and changes of the library. Source: `dlt_user.h`, `DltUser` -/
structure DltUserBuffers where
  /-- `startup_buffer`. -/
  startupBuffer : DltBuffer
  /-- The memory of `resend_buffer`. -/
  resendBuffer : List UInt8
  /-- `log_buf_len`. -/
  logBufLen : ℕ
  /-- `dlt_log_handle` is open. -/
  connected : Bool

/-- What a call gives: the state, its result, and the bytes it handed to `dlt_user_log_out3`, one entry a
call. -/
structure ResendResult where
  user : DltUserBuffers
  ret : ℤ
  writes : List (List UInt8)

section resend

variable (malloc : Malloc) (outcomes : ℕ → WriteOutcome) (appID : Id4)

/-- The oldest message is copied to `resend_buffer`. Source: `dlt_user.c`, `dlt_user_log_resend_buffer` -/
def resendCopy (user : DltUserBuffers) : DltUserBuffers × ℤ :=
  let got := dltBufferCopy malloc user.startupBuffer user.logBufLen
  ({ user with startupBuffer := got.1, resendBuffer := overwrite user.resendBuffer 0 got.2.data }, got.2.ret)

/-- The loop, with `n` turns to go; `num` counts the turns.
Source: `dlt_user_log_resend_buffer` -/
def resendLoop : ℕ → ℕ → DltUserBuffers → ResendResult
  | 0, _, user => { user, ret := dltReturnOk, writes := [] }
  | n + 1, num, user =>
    let copied := resendCopy malloc user
    if copied.2 > 0 then
      let user := { copied.1 with resendBuffer := addApplicationId appID copied.1.resendBuffer }
      let bytes := user.resendBuffer.take copied.2.toNat
      let ret := dltUserLogOut3 user.connected (outcomes num)
      if ret = dltReturnOk then
        let rest := resendLoop n (num + 1)
          { user with startupBuffer := (dltBufferRemove malloc user.startupBuffer).1 }
        { rest with writes := bytes :: rest.writes }
      else
        -- the message stays in the buffer
        { user := if ret = dltReturnPipeError then { user with connected := false } else user
          ret, writes := [bytes] }
    else resendLoop n (num + 1) copied.1

/-- Source: `dlt_user_log_resend_buffer` -/
def dltUserLogResendBuffer (user : DltUserBuffers) : ResendResult :=
  if appID.isEmpty then { user, ret := dltReturnOk, writes := [] }
  else resendLoop malloc outcomes appID (dltBufferGetMessageCount user.startupBuffer).toNat 0 user

end resend

/-! ## Which messages are sent -/

/-- The complete writes before the first one that is not, among `n` from the turn `num` on. -/
def leading (outcomes : ℕ → WriteOutcome) (num : ℕ) : ℕ → ℕ
  | 0 => 0
  | n + 1 => if outcomes num = .complete then leading outcomes (num + 1) n + 1 else 0

theorem leading_le (outcomes : ℕ → WriteOutcome) (num n : ℕ) : leading outcomes num n ≤ n := by
  induction n generalizing num with
  | zero => exact le_rfl
  | succ n ih =>
    rw [leading]
    split_ifs
    · exact Nat.succ_le_succ (ih (num + 1))
    · exact Nat.zero_le _

/-- The messages that leave the buffer: those before the first write that is not complete. -/
def resentCount (outcomes : ℕ → WriteOutcome) (connected : Bool) (num n : ℕ) : ℕ :=
  if connected then leading outcomes num n else 0

theorem resentCount_of_ok {outcomes : ℕ → WriteOutcome} {num : ℕ} (n : ℕ)
    (h : dltUserLogOut3 connected (outcomes num) = dltReturnOk) :
    resentCount outcomes connected num (n + 1) = resentCount outcomes connected (num + 1) n + 1 := by
  obtain ⟨hconnected, hcomplete⟩ := dltUserLogOut3_ok_iff.mp h
  simp [resentCount, hconnected, leading, hcomplete]

theorem resentCount_of_not_ok {outcomes : ℕ → WriteOutcome} {num : ℕ} (n : ℕ)
    (h : ¬ dltUserLogOut3 connected (outcomes num) = dltReturnOk) :
    resentCount outcomes connected num (n + 1) = 0 := by
  unfold resentCount leading
  split_ifs with hconnected hcomplete
  · exact absurd (dltUserLogOut3_ok_iff.mpr ⟨hconnected, hcomplete⟩) h
  · rfl
  · rfl

/-- The startup buffer without its `k` oldest messages. -/
def removed (malloc : Malloc) : ℕ → DltBuffer → DltBuffer
  | 0, buf => buf
  | k + 1, buf => removed malloc k (dltBufferRemove malloc buf).1

/-- What is handed to `dlt_user_log_out3` of a message: the application id is filled in where the function
looks for it. -/
def sentMessage (appID : Id4) (m : List UInt8) : List UInt8 := (addApplicationId appID m).take m.length

section run

variable {malloc : Malloc} {outcomes : ℕ → WriteOutcome} {appID : Id4} {user : DltUserBuffers} {m : List UInt8}
  {q : List (List UInt8)}

theorem resendCopy_cons (malloc : Malloc) (h : Layout user.startupBuffer (m :: q)) :
    resendCopy malloc user =
      ({ user with
          resendBuffer := overwrite user.resendBuffer 0 (if (user.logBufLen : ℤ) ≠ 0 then m else []) },
        (m.length : ℤ)) := by
  obtain ⟨hres, shm, -, heq⟩ := dltBufferGet_cons malloc h.queued true (user.logBufLen : ℤ) false
  rw [if_neg Bool.false_ne_true] at heq
  unfold resendCopy dltBufferCopy
  simp only [heq, hres, true_and]

/-- What lies behind the message does not matter for what is sent of it. -/
theorem fillId_take (appID : Id4) (off : ℕ) (m stale : List UInt8) :
    (fillId appID off (m ++ stale)).take m.length = (fillId appID off m).take m.length := by
  have hpatched := take_overwrite_append m stale (dltSetId appID.bytes).bytes off
  have hsame : (m ++ stale).take m.length = m.take m.length := by rw [take_left' rfl, take_length]
  unfold fillId
  rcases Nat.lt_or_ge off m.length with hlt | hge
  · have hget : (m ++ stale).getD off 0 = m.getD off 0 := by
      rw [getD_eq_getElem?_getD, getD_eq_getElem?_getD, getElem?_append_left hlt]
    rw [hget]
    split_ifs
    · exact hpatched
    · exact hsame
  · have hbehind : (overwrite m off (dltSetId appID.bytes).bytes).take m.length = m.take m.length := by
      unfold overwrite
      rw [append_assoc, take_of_length_le hge, take_left' rfl, take_length]
    split_ifs
    · exact hpatched
    · exact hpatched.trans hbehind
    · exact hsame.trans hbehind.symm
    · exact hsame

/-- **What is sent of a message is the message with the application id filled in**, whatever the memory held
before. -/
theorem addApplicationId_take (appID : Id4) (hm : sizeofDltUserHeader ≤ m.length) (stale : List UInt8) :
    (addApplicationId appID (m ++ stale)).take m.length = sentMessage appID m := by
  have hcheck : dltUserCheckUserheader (m ++ stale) = dltUserCheckUserheader m := by
    unfold dltUserCheckUserheader
    rw [take_append_of_le_length]
    unfold sizeofDltUserHeader at hm
    omega
  have htype : userHeaderMessage (m ++ stale) = userHeaderMessage m := by
    unfold sizeofDltUserHeader at hm
    unfold userHeaderMessage
    rw [drop_append_of_le_length (by omega), take_append_of_le_length]
    rw [length_drop]
    omega
  have hsame : (m ++ stale).take m.length = m.take m.length := by rw [take_left' rfl, take_length]
  unfold sentMessage addApplicationId
  rw [hcheck, htype]
  split_ifs
  · exact fillId_take appID _ m stale
  · exact fillId_take appID _ m stale
  · exact hsame
  · exact hsame

theorem le_length_addApplicationId (appID : Id4) (memory : List UInt8) :
    memory.length ≤ (addApplicationId appID memory).length := by
  have hfill : ∀ off, memory.length ≤ (fillId appID off memory).length := by
    intro off
    unfold fillId
    split_ifs
    · unfold overwrite
      simp only [length_append, length_take, length_drop]
      omega
    · exact le_rfl
  unfold addApplicationId
  split_ifs
  · exact hfill _
  · exact hfill _
  · exact le_rfl
  · exact le_rfl

theorem remove_layout (malloc : Malloc) {buf : DltBuffer} (h : Layout buf (m :: q)) :
    Layout (dltBufferRemove malloc buf).1 q :=
  (dltBufferGet_layout malloc h false 0 true).2

theorem removed_layout (malloc : Malloc) {buf : DltBuffer} {k : ℕ} (h : Layout buf q) (hk : k ≤ q.length) :
    Layout (removed malloc k buf) (q.drop k) := by
  induction k generalizing buf q with
  | zero => exact h
  | succ k ih =>
    cases q with
    | nil => simp at hk
    | cons m q => exact ih (remove_layout malloc h) (Nat.le_of_succ_le_succ hk)

/-- What the loop does to the buffer and to the connection. -/
structure Resent (malloc : Malloc) (user : DltUserBuffers) (n k : ℕ) (result : ResendResult) : Prop where
  /-- The messages are removed from the startup buffer. -/
  buffer_eq : result.user.startupBuffer = removed malloc k user.startupBuffer
  /-- The loop succeeds when all of them are sent. -/
  ret_iff : result.ret = dltReturnOk ↔ k = n
  connected_eq : k = n → result.user.connected = user.connected
  connected_le : user.connected = false → result.user.connected = false

section

variable (malloc : Malloc) (outcomes : ℕ → WriteOutcome) (appID : Id4)

theorem resendLoop_succ (h : Layout user.startupBuffer (m :: q)) (hm : m ≠ []) (n num : ℕ) :
    ∃ memory, memory = addApplicationId appID
        (overwrite user.resendBuffer 0 (if (user.logBufLen : ℤ) ≠ 0 then m else [])) ∧
      resendLoop malloc outcomes appID (n + 1) num user =
        if dltUserLogOut3 user.connected (outcomes num) = dltReturnOk then
          { resendLoop malloc outcomes appID n (num + 1)
              { user with
                startupBuffer := (dltBufferRemove malloc user.startupBuffer).1
                resendBuffer := memory } with
            writes := memory.take m.length :: (resendLoop malloc outcomes appID n (num + 1)
              { user with
                startupBuffer := (dltBufferRemove malloc user.startupBuffer).1
                resendBuffer := memory }).writes }
        else
          { user :=
              if dltUserLogOut3 user.connected (outcomes num) = dltReturnPipeError then
                { user with resendBuffer := memory, connected := false }
              else { user with resendBuffer := memory }
            ret := dltUserLogOut3 user.connected (outcomes num)
            writes := [memory.take m.length] } := by
  refine ⟨_, rfl, ?_⟩
  have hpos : ((m.length : ℕ) : ℤ) > 0 := by
    have := length_pos_iff.mpr hm
    omega
  rw [resendLoop, resendCopy_cons malloc h]
  simp only [hpos, if_true, Int.toNat_natCast]

/-- **The loop removes the messages before the first write that is not complete.** -/
theorem resendLoop_resent (h : Layout user.startupBuffer q) (hq : ∀ m ∈ q, m ≠ []) (num : ℕ) :
    Resent malloc user q.length (resentCount outcomes user.connected num q.length)
      (resendLoop malloc outcomes appID q.length num user) := by
  induction q generalizing user num with
  | nil =>
    have hnone : resentCount outcomes user.connected num 0 = 0 := by
      unfold resentCount leading
      exact ite_self 0
    rw [length_nil, hnone]
    exact ⟨rfl, ⟨fun _ => rfl, fun _ => rfl⟩, fun _ => rfl, fun hclosed => hclosed⟩
  | cons m q ih =>
    obtain ⟨memory, -, hstep⟩ := resendLoop_succ malloc outcomes appID h (hq m mem_cons_self) q.length num
    rw [length_cons, hstep]
    by_cases hok : dltUserLogOut3 user.connected (outcomes num) = dltReturnOk
    · have hcount := resentCount_of_ok q.length hok
      have hrest := @ih { user with
        startupBuffer := (dltBufferRemove malloc user.startupBuffer).1
        resendBuffer := memory } (remove_layout malloc h) (fun m hm => hq m (mem_cons_of_mem _ hm)) (num + 1)
      rw [if_pos hok, hcount]
      refine ⟨hrest.buffer_eq, ?_, fun hall => ?_, hrest.connected_le⟩
      · rw [Nat.add_right_cancel_iff]
        exact hrest.ret_iff
      · exact hrest.connected_eq (Nat.add_right_cancel hall)
    · have hcount := resentCount_of_not_ok q.length hok
      rw [if_neg hok, hcount]
      refine ⟨?_, ⟨fun hret => absurd hret hok, fun hzero => ?_⟩, fun hzero => ?_, fun hclosed => ?_⟩
      · split_ifs <;> rfl
      · cases hzero
      · cases hzero
      · split_ifs
        · rfl
        · exact hclosed

/-- **What is handed to the connection**: the messages up to the first write that is not complete, as they lie in
`resend_buffer`. -/
theorem resendLoop_writes (h : Layout user.startupBuffer q) (hq : ∀ m ∈ q, sizeofDltUserHeader ≤ m.length)
    (hlen : user.logBufLen ≠ 0) (num : ℕ)
    (hfit : ∀ m ∈ q.take (resentCount outcomes user.connected num q.length + 1),
      m.length ≤ user.resendBuffer.length) :
    (resendLoop malloc outcomes appID q.length num user).writes =
      (q.take (resentCount outcomes user.connected num q.length + 1)).map (sentMessage appID) := by
  induction q generalizing user num with
  | nil => rfl
  | cons m q ih =>
    have hhead := hq m mem_cons_self
    have hne : m ≠ [] := by
      rintro rfl
      exact absurd hhead (by decide)
    have hroom := hfit m (by simp)
    obtain ⟨memory, hmemory, hstep⟩ := resendLoop_succ malloc outcomes appID h hne q.length num
    have hcopy : overwrite user.resendBuffer 0 (if (user.logBufLen : ℤ) ≠ 0 then m else []) =
        m ++ user.resendBuffer.drop m.length := by
      rw [if_pos (by exact_mod_cast hlen), overwrite_zero]
    have hsent : memory.take m.length = sentMessage appID m := by
      rw [hmemory, hcopy]
      exact addApplicationId_take appID hhead _
    have hkept : user.resendBuffer.length ≤ memory.length := by
      have hle := le_length_addApplicationId appID (m ++ user.resendBuffer.drop m.length)
      rw [length_append, length_drop] at hle
      rw [hmemory, hcopy]
      omega
    rw [length_cons, hstep, hsent]
    by_cases hok : dltUserLogOut3 user.connected (outcomes num) = dltReturnOk
    · have hcount := resentCount_of_ok q.length hok
      rw [length_cons, hcount] at hfit
      rw [if_pos hok, hcount, take_succ_cons, map_cons]
      refine congrArg (sentMessage appID m :: ·) (@ih { user with
        startupBuffer := (dltBufferRemove malloc user.startupBuffer).1
        resendBuffer := memory } (remove_layout malloc h) (fun m hm => hq m (mem_cons_of_mem _ hm)) hlen
        (num + 1) fun m' hm' => ?_)
      refine (hfit m' ?_).trans hkept
      rw [take_succ_cons]
      exact mem_cons_of_mem _ hm'
    · have hcount := resentCount_of_not_ok q.length hok
      rw [if_neg hok, hcount]
      rfl

end

end run

end Dlt.User
