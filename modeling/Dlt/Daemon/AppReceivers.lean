import Dlt.Shared.Receiver
import Mathlib.Logic.Function.Basic

/-!
# Application receivers on one buffer

Every application connection of the daemon has a receiver of its own, and all of them receive into
`app_recv_buffer` (`dlt_daemon_connection.c`, `dlt_connection_get_receiver`). The connections take
turns: a round is one receive, the removal of what was processed, and `dlt_receiver_move_to_begin`.

* `AppReceivers` — the shared buffer and the receivers, over any type of connections.
* `appReceivers_isolated` — **isolation**: in runs whose rounds all meet `BackedUp`, a receiver sees
  its own bytes.
-/

namespace Dlt.Daemon

open Dlt.Lib Dlt.Shared Function

variable {ι : Type*} [DecidableEq ι]

/-! ## Rounds -/

structure AppReceivers (ι : Type*) where
  /-- `app_recv_buffer`. -/
  buffer : List UInt8
  receivers : ι → DltReceiver

/-- The receive at the beginning of a round. -/
def appReceive (s : AppReceivers ι) (r : ι) (got : List UInt8) : AppReceivers ι where
  buffer := (dltReceiverReceive s.buffer (s.receivers r) got).1
  receivers := update s.receivers r
    (dltReceiverReceive s.buffer (s.receivers r) got).2.1

/-- The removal of `n` bytes, if there are any to remove. -/
def appRemove (s : AppReceivers ι) (r : ι) (n : ℕ) : AppReceivers ι :=
  if n = 0 then s
  else { s with receivers := update s.receivers r (dltReceiverRemove (s.receivers r) n).1 }

/-- The end of a round. -/
def appMoveToBegin (malloc : Malloc) (s : AppReceivers ι) (r : ι) : AppReceivers ι :=
  { s with
    receivers := update s.receivers r
      (dltReceiverMoveToBegin malloc s.buffer (s.receivers r)).1 }

/-- A round of the connection `r`: it receives `got` and removes `n` bytes. -/
def appRound (malloc : Malloc) (s : AppReceivers ι) (r : ι) (got : List UInt8) (n : ℕ) :
    AppReceivers ι := appMoveToBegin malloc (appRemove (appReceive s r got) r n) r

/-- What the connection `r` sees: `receiver->buf[0..bytesRcvd)`. -/
def AppReceivers.view (s : AppReceivers ι) (r : ι) : List UInt8 := (s.receivers r).view s.buffer

/-- The bytes of each connection that were received and not removed, after a round of `r`. -/
def pendingNext (pending : ι → List UInt8) (r : ι) (got : List UInt8) (n : ℕ) : ι → List UInt8 :=
  update pending r ((pending r ++ got).drop n)

/-- A round the environment may ask for: at least one byte is received, the bytes fit the receive
buffer, and no more is removed than is there. -/
structure RoundOk (pending : ι → List UInt8) (r : ι) (got : List UInt8) (n : ℕ) : Prop where
  got_ne : got ≠ []
  fits : (pending r).length + got.length ≤ dltReceiveBufsize
  le_length : n ≤ (pending r ++ got).length

/-- The states that rounds reach, from receivers initialised on a buffer with any contents, when
every round meets the restriction `safe`. -/
inductive AppReach (safe : AppReceivers ι → ι → Prop) :
    AppReceivers ι → (ι → List UInt8) → Prop
  | init (buffer : List UInt8) (hbuffer : buffer.length = dltReceiveBufsize)
      (types : ι → DltReceiverType) :
      AppReach safe ⟨buffer, fun r => dltReceiverInitGlobalBuffer (types r)⟩ fun _ => []
  | round {s : AppReceivers ι} {pending : ι → List UInt8} {malloc : Malloc} {r : ι}
      {got : List UInt8} {n : ℕ} (reach : AppReach safe s pending) (hm : malloc.Succeeds)
      (ok : RoundOk pending r got n) (hsafe : safe s r) :
      AppReach safe (appRound malloc s r got n) (pendingNext pending r got n)

/-- While `r` receives, the bytes of the other connections are in their backups. -/
def BackedUp (s : AppReceivers ι) (r : ι) : Prop :=
  ∀ r', r' ≠ r → (s.receivers r').bytesRcvd ≠ 0 → (s.receivers r').backupBuf.isSome

/-! ## Isolation -/

/-- The invariant: the bytes of every connection are saved. -/
def AllSaved (s : AppReceivers ι) (pending : ι → List UInt8) : Prop :=
  ∀ r, Saved s.buffer (s.receivers r) (pending r) ∧
    (s.receivers r).buffersize = dltReceiveBufsize

variable {pending : ι → List UInt8} {s : AppReceivers ι}

/-- After the receive, the connection sees its bytes and the others still have theirs saved. -/
theorem appReceive_saved (h : AllSaved s pending) {r : ι} {got : List UInt8} {n : ℕ} (ok : RoundOk pending r got n)
    (hsafe : BackedUp s r) :
    View (appReceive s r got).buffer ((appReceive s r got).receivers r) (pending r ++ got) ∧
      ((appReceive s r got).receivers r).buffersize = dltReceiveBufsize ∧
      ∀ r', r' ≠ r → Saved (appReceive s r got).buffer ((appReceive s r got).receivers r')
        (pending r') ∧ ((appReceive s r got).receivers r').buffersize = dltReceiveBufsize := by
  obtain ⟨hsaved, hsize⟩ := h r
  obtain ⟨hview, hbuffersize, hret⟩ :=
    receive_view hsaved ok.got_ne (by rw [hsize]; exact ok.fits)
  have hself : (appReceive s r got).receivers r =
      (dltReceiverReceive s.buffer (s.receivers r) got).2.1 := update_self ..
  rw [hself]
  refine ⟨hview, hbuffersize.trans hsize, fun r' hr' => ?_⟩
  have hother : (appReceive s r got).receivers r' = s.receivers r' :=
    update_of_ne hr' ..
  rw [hother]
  obtain ⟨hsaved', hsize'⟩ := h r'
  refine ⟨hsaved'.of_backup (fun hne => ?_) ?_, hsize'⟩
  · -- only a backup protects the bytes of another connection
    apply hsafe r' hr'
    rw [hsaved'.bytesRcvd_eq]
    simpa using hne
  · have hlen := hview.length_buffer
    rw [hbuffersize, ← hsaved.length_buffer] at hlen
    exact hlen

/-- The removal, with what it leaves of the connection's bytes. -/
theorem appRemove_view {r : ι} {bytes : List UInt8} {n : ℕ} (h : View s.buffer (s.receivers r) bytes)
    (hn : n ≤ bytes.length) :
    View (appRemove s r n).buffer ((appRemove s r n).receivers r) (bytes.drop n) ∧
      ((appRemove s r n).receivers r).buffersize = (s.receivers r).buffersize ∧
      (appRemove s r n).buffer = s.buffer ∧
      ∀ r', r' ≠ r → (appRemove s r n).receivers r' = s.receivers r' := by
  unfold appRemove
  split_ifs with hzero
  · subst hzero
    exact ⟨h, rfl, rfl, fun _ _ => rfl⟩
  · simp only [update_self]
    refine ⟨(remove_view h (Nat.pos_of_ne_zero hzero) hn).1, ?_, trivial,
      fun r' hr' => update_of_ne hr' ..⟩
    unfold dltReceiverRemove
    split_ifs <;> rfl

theorem appRound_saved (h : AllSaved s pending) {malloc : Malloc} (hm : malloc.Succeeds) {r : ι} {got : List UInt8}
    {n : ℕ} (ok : RoundOk pending r got n) (hsafe : BackedUp s r) :
    AllSaved (appRound malloc s r got n) (pendingNext pending r got n) := by
  obtain ⟨hview, hsize, hothers⟩ := appReceive_saved h ok hsafe
  obtain ⟨hview', hsize', hbuffer, hsame⟩ := appRemove_view hview ok.le_length
  obtain ⟨hsaved, hsize'', -⟩ := moveToBegin_saved hm hview'
  intro r'
  unfold appRound appMoveToBegin pendingNext
  by_cases hr' : r' = r
  · subst hr'
    simp only [update_self]
    exact ⟨hsaved, hsize''.trans (hsize'.trans hsize)⟩
  · simp only [update_of_ne hr', hbuffer, hsame r' hr']
    exact hothers r' hr'

/-- Every state that backed-up rounds reach has the bytes of every connection saved. -/
theorem AppReach.allSaved (h : AppReach BackedUp s pending) : AllSaved s pending := by
  induction h with
  | init buffer hbuffer types => exact fun r => ⟨saved_init hbuffer rfl rfl, rfl⟩
  | round reach hm ok hsafe ih => exact appRound_saved ih hm ok hsafe

/-- **Isolation**: in a round of any run of backed-up rounds, the connection that receives sees its
own bytes that were received and not yet removed, before and after the removal. -/
theorem appReceivers_isolated {s : AppReceivers ι} {pending : ι → List UInt8}
    (reach : AppReach BackedUp s pending) {r : ι} {got : List UInt8} {n : ℕ}
    (ok : RoundOk pending r got n) (hsafe : BackedUp s r) :
    (appReceive s r got).view r = pending r ++ got ∧
      (appRemove (appReceive s r got) r n).view r = (pending r ++ got).drop n := by
  have hview := (appReceive_saved reach.allSaved ok hsafe).1
  exact ⟨hview.view_eq, (appRemove_view hview ok.le_length).1.view_eq⟩

/-! ## The bytes of another connection -/

/-- Two connections before their first round. -/
def sampleReceivers : AppReceivers Bool where
  buffer := List.replicate dltReceiveBufsize 0
  receivers := fun _ => dltReceiverInitGlobalBuffer .fd

theorem sampleReceivers_reach (safe : AppReceivers Bool → Bool → Prop) :
    AppReach safe sampleReceivers fun _ => [] :=
  .init _ (List.length_replicate ..) fun _ => .fd

/-- The first connection has received two bytes and removed one, the second one has received and removed one. -/
def afterTwoRounds : AppReceivers Bool :=
  appRound zeroMalloc (appRound zeroMalloc sampleReceivers true [0x58, 0x41] 1) false [0x42] 1

/-- The unconsumed byte of the first connection is in its backup while the second one receives. -/
theorem backedUp_afterOneRound : BackedUp (appRound zeroMalloc sampleReceivers true [0x58, 0x41] 1) false := by
  rintro (_ | _) hother -
  · exact absurd rfl hother
  · simp [-List.reduceReplicate, appRound, appMoveToBegin, appRemove, appReceive, sampleReceivers, dltReceiverReceive,
      dltReceiverRemove, dltReceiverMoveToBegin, dltReceiverInitGlobalBuffer, zeroMalloc, dltReceiveBufsize]

/-- The second connection has nothing unconsumed when the first one receives again. -/
theorem backedUp_afterTwoRounds : BackedUp afterTwoRounds true := by
  rintro (_ | _) hother hbytes
  · revert hbytes
    simp [-List.reduceReplicate, afterTwoRounds, appRound, appMoveToBegin, appRemove, appReceive, sampleReceivers,
      dltReceiverReceive, dltReceiverRemove, dltReceiverMoveToBegin, dltReceiverInitGlobalBuffer, zeroMalloc,
      dltReceiveBufsize]
  · exact absurd rfl hother

theorem afterTwoRounds_reach :
    AppReach BackedUp afterTwoRounds
      (pendingNext (pendingNext (fun _ => []) true [0x58, 0x41] 1) false [0x42] 1) := by
  have hone : AppReach BackedUp (appRound zeroMalloc sampleReceivers true [0x58, 0x41] 1)
      (pendingNext (fun _ => []) true [0x58, 0x41] 1) :=
    (sampleReceivers_reach BackedUp).round zeroMalloc_succeeds
      ⟨by simp, by simp [dltReceiveBufsize], by simp⟩ fun _ _ h => absurd rfl h
  exact hone.round zeroMalloc_succeeds ⟨by simp, by simp [dltReceiveBufsize, pendingNext], by simp⟩
    backedUp_afterOneRound

theorem appReceivers_isolated_sample :
    (appReceive afterTwoRounds true [0x43]).view true = [0x41] ++ [0x43] ∧
      (appRemove (appReceive afterTwoRounds true [0x43]) true 1).view true = [0x43] :=
  appReceivers_isolated afterTwoRounds_reach
    ⟨by simp, by simp [dltReceiveBufsize, pendingNext], by simp [pendingNext]⟩ backedUp_afterTwoRounds

/-- **The bytes of another connection**: the first connection receives a byte and removes nothing,
the second one receives, and the first one then sees the byte of the second. -/
theorem appReceivers_not_isolated :
    ¬ ∀ (s : AppReceivers Bool) (pending : Bool → List UInt8),
      AppReach (fun _ _ => True) s pending → ∀ r got n, RoundOk pending r got n →
        (appReceive s r got).view r = pending r ++ got := by
  intro hall
  have reach1 : AppReach (fun _ _ => True) (appRound zeroMalloc sampleReceivers true [0x41] 0)
      (pendingNext (fun _ => []) true [0x41] 0) :=
    (sampleReceivers_reach _).round zeroMalloc_succeeds
      ⟨by simp, by simp [dltReceiveBufsize], by simp⟩ trivial
  have reach2 : AppReach (fun _ _ => True)
      (appRound zeroMalloc (appRound zeroMalloc sampleReceivers true [0x41] 0) false [0x42] 0)
      (pendingNext (pendingNext (fun _ => []) true [0x41] 0) false [0x42] 0) :=
    reach1.round zeroMalloc_succeeds
      ⟨by simp, by simp [dltReceiveBufsize, pendingNext], by simp⟩ trivial
  have hseen : (appReceive (appRound zeroMalloc (appRound zeroMalloc sampleReceivers true [0x41] 0)
      false [0x42] 0) true [0x43]).view true = [0x42, 0x43] := by
    simp [-List.reduceReplicate, appRound, appMoveToBegin, appRemove, appReceive, AppReceivers.view, sampleReceivers,
      dltReceiverReceive, dltReceiverMoveToBegin, dltReceiverInitGlobalBuffer, DltReceiver.view,
      overwrite, dltReceiveBufsize]
  have hview := hall _ _ reach2 true [0x43] 0
    ⟨by simp, by simp [dltReceiveBufsize, pendingNext], by simp⟩
  rw [hseen] at hview
  simp [pendingNext] at hview

end Dlt.Daemon
