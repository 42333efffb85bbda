import Dlt.Daemon.ClientSend
import Dlt.Daemon.LevelsInvariant

/-!
# What sending to clients leaves unchanged

* `sendAllLogState_frame`, `unregisterSocket_frame` — what telling applications and closing a connection
  change.
* `dltDaemonClientSend_mono` — **more fuel changes nothing**.
-/

namespace Dlt.Daemon

open Dlt.Lib Dlt.Shared Option

variable {Buf : Type} {env : ClientsEnv Buf} {s : ClientsState Buf}

/-! ## Applications -/

theorem dltDaemonUserSendLogState_frame (l i : ℕ) (handle : ℤ) (s : ClientsState Buf) :
    ∃ daemon userWrites, SameSettings s.daemon daemon ∧
      dltDaemonUserSendLogState l i handle s = { s with daemon, userWrites } := by
  unfold dltDaemonUserSendLogState
  dsimp only
  split
  · exact ⟨_, _, sameSettings_resetUserHandle .., rfl⟩
  · exact ⟨s.daemon, _, .refl _, rfl⟩

theorem sendAllLogState_frame (l : ℕ) (is : List ℕ) (s : ClientsState Buf) :
    ∃ daemon userWrites, SameSettings s.daemon daemon ∧
      sendAllLogState l is s = { s with daemon, userWrites } := by
  induction is generalizing s with
  | nil => exact ⟨s.daemon, s.userWrites, .refl _, rfl⟩
  | cons i is ih =>
    unfold sendAllLogState
    dsimp only
    split
    · split_ifs
      · rename_i application _ _
        obtain ⟨daemon, userWrites, hsame, heq⟩ :=
          dltDaemonUserSendLogState_frame l i application.userHandle s
        rw [heq]
        obtain ⟨daemon', userWrites', hsame', heq'⟩ := ih { s with daemon, userWrites }
        exact ⟨daemon', userWrites', hsame.trans hsame', heq'⟩
      · exact ih s
    · exact ih s

/-- **Telling the applications** changes the tables only. -/
theorem dltDaemonUserSendAllLogState_frame (s : ClientsState Buf) :
    ∃ daemon userWrites, SameSettings s.daemon daemon ∧
      dltDaemonUserSendAllLogState s = { s with daemon, userWrites } := by
  unfold dltDaemonUserSendAllLogState
  split
  · exact ⟨s.daemon, s.userWrites, .refl _, rfl⟩
  · split
    · exact ⟨s.daemon, s.userWrites, .refl _, rfl⟩
    · exact sendAllLogState_frame ..

/-! ## Closing -/

/-- **Unregistering a connection**: with the last client the state may change. -/
theorem unregisterSocket_frame (env : ClientsEnv Buf) (sock : ℤ) (s : ClientsState Buf) :
    ∃ daemon userWrites connectionState, SameSettings s.daemon daemon ∧
      unregisterSocket env sock s =
        { s with
          pEvent := (dltEventHandlerUnregisterConnection s.pEvent s.clientConnections sock).1.1
          clientConnections := (dltEventHandlerUnregisterConnection s.pEvent s.clientConnections sock).1.2
          userWrites, connectionState
          daemon := { daemon with
            state :=
              if (dltEventHandlerUnregisterConnection s.pEvent s.clientConnections sock).1.2 = 0 ∧
                  env.yvalue = false then .buffer
              else s.daemon.state } } := by
  unfold unregisterSocket
  generalize dltEventHandlerUnregisterConnection s.pEvent s.clientConnections sock = left
  dsimp only
  by_cases hzero : left.1.2 = 0
  · rw [if_pos hzero]
    obtain ⟨daemon, userWrites, hsame, heq⟩ := dltDaemonUserSendAllLogState_frame
      { s with pEvent := left.1.1, clientConnections := left.1.2, connectionState := false }
    rw [heq]
    have hstate : daemon.state = s.daemon.state := by rw [hsame]
    cases hy : env.yvalue with
    | true =>
      refine ⟨daemon, userWrites, false, hsame, ?_⟩
      rw [if_pos rfl, if_neg (fun h => absurd h.2 Bool.true_eq_false.mp), ← hstate]
    | false => exact ⟨daemon, userWrites, false, hsame, by rw [if_neg Bool.false_ne_true, if_pos ⟨hzero, rfl⟩]; rfl⟩
  · refine ⟨s.daemon, s.userWrites, s.connectionState, .refl _, ?_⟩
    rw [if_neg hzero, if_neg fun h => hzero h.1]

/-! ## The ring buffer -/

/-- **A message for the ring buffer** concerns no client, and the daemon goes on buffering. -/
theorem storeMessage_frame (env : ClientsEnv Buf) (data1 data2 : Option (List UInt8)) (s : ClientsState Buf)
    (h : s.daemon.state.isBuffering) :
    ∃ clientRingbuffer overflowCounter state, state.isBuffering = true ∧
      (storeMessage env data1 data2 s).1 =
        { s with daemon := { s.daemon with clientRingbuffer, overflowCounter, state } } := by
  unfold storeMessage dltDaemonChangeState
  dsimp only
  by_cases hfull : s.daemon.state = .bufferFull
  · rw [if_pos hfull, if_pos hfull]
    exact ⟨s.daemon.clientRingbuffer, _, s.daemon.state, h, rfl⟩
  · rw [if_neg hfull]
    generalize env.ring.push3 s.daemon.clientRingbuffer (data1.getD []) (data2.getD []) = pushed
    by_cases hpushed : pushed.2 < dltReturnOk
    · rw [if_pos hpushed, if_pos rfl]
      exact ⟨pushed.1, _, .bufferFull, rfl, rfl⟩
    · rw [if_neg hpushed, if_neg hfull]
      exact ⟨pushed.1, s.daemon.overflowCounter, s.daemon.state, h, rfl⟩

/-! ## Fuel -/

section fuel

variable {send send' : Sock → Option (List UInt8) → Option (List UInt8) → ClientsState Buf →
  Option (ClientsState Buf × ℤ)}

/-- `send'` gives what `send` gives, where `send` gives something. -/
def Extends (send send' : Sock → Option (List UInt8) → Option (List UInt8) → ClientsState Buf →
    Option (ClientsState Buf × ℤ)) : Prop :=
  ∀ sock data1 data2 s r, send sock data1 data2 s = some r → send' sock data1 data2 s = some r

namespace Extends

variable {data1 data2 : Option (List UInt8)} {r : ClientsState Buf × ℤ}

section

variable (h : Extends send send')
include h

theorem logInternal {str : List UInt8} {s s' : ClientsState Buf}
    (hsome : dltDaemonLogInternal env send str s = some s') :
    dltDaemonLogInternal env send' str s = some s' := by
  unfold dltDaemonLogInternal at hsome ⊢
  obtain ⟨r, hr, heq⟩ := bind_eq_some_iff.mp hsome
  exact bind_eq_some_iff.mpr ⟨r, h _ _ _ _ _ hr, heq⟩

theorem closeSocket {sock : ℤ} {s s' : ClientsState Buf} (hsome : dltDaemonCloseSocket env send sock s = some s') :
    dltDaemonCloseSocket env send' sock s = some s' := by
  unfold dltDaemonCloseSocket at hsome ⊢
  obtain ⟨r, hr, heq⟩ := bind_eq_some_iff.mp hsome
  exact bind_eq_some_iff.mpr ⟨r, h _ _ _ _ _ hr, h.logInternal heq⟩

theorem sendAllFrom {call : ℕ} (k : ℕ) :
    ∀ (i : ℕ) (s : ClientsState Buf) (sent : ℤ) (r : ClientsState Buf × ℤ),
      sendAllFrom env send call data1 data2 k i s sent = some r →
        sendAllFrom env send' call data1 data2 k i s sent = some r := by
  induction k with
  | zero => exact fun _ _ _ _ hsome => hsome
  | succ k ih =>
    intro i s sent r hsome
    unfold Daemon.sendAllFrom at hsome ⊢
    cases hx : s.pEvent.pfd[i]? with
    | none =>
      rw [hx] at hsome
      exact hsome
    | some x =>
      rw [hx] at hsome
      dsimp only at hsome ⊢
      cases hfind : (dltEventHandlerFindConnection s.pEvent x.fd).filter (·.type.isClient) with
      | none =>
        rw [hfind] at hsome
        exact ih _ _ _ _ hsome
      | some con =>
        rw [hfind] at hsome
        dsimp only at hsome ⊢
        split_ifs at hsome ⊢
        · exact ih _ _ _ _ hsome
        · obtain ⟨s', hs', heq⟩ := bind_eq_some_iff.mp hsome
          exact bind_eq_some_iff.mpr ⟨s', h.closeSocket hs', ih _ _ _ _ heq⟩
        · exact ih _ _ _ _ hsome

theorem sendToAll {force : Bool} {s : ClientsState Buf} (hsome : sendToAll env send force data1 data2 s = some r) :
    sendToAll env send' force data1 data2 s = some r := by
  unfold Daemon.sendToAll at hsome ⊢
  split_ifs at hsome ⊢
  · exact h.sendAllFrom _ _ _ _ _ hsome
  · exact hsome

theorem reportOverflow {s : ClientsState Buf} (hsome : reportOverflow env send s = some r) :
    reportOverflow env send' s = some r := by
  unfold Daemon.reportOverflow at hsome ⊢
  split_ifs at hsome ⊢
  · obtain ⟨r', hr', heq⟩ := bind_eq_some_iff.mp hsome
    exact bind_eq_some_iff.mpr ⟨r', h _ _ _ _ _ hr', heq⟩
  · exact hsome

theorem clientSend : Extends (clientSend env send) (clientSend env send') := by
  intro sock data1 data2 s r hsome
  unfold Daemon.clientSend at hsome ⊢
  cases sock with
  | fd sock => exact hsome
  | force =>
    obtain ⟨r', hr', heq⟩ := bind_eq_some_iff.mp hsome
    refine bind_eq_some_iff.mpr ⟨r', h.sendToAll hr', ?_⟩
    dsimp only at heq ⊢
    split_ifs at heq ⊢
    · exact heq
    · exact h.reportOverflow heq
  | toAll =>
    obtain ⟨r', hr', heq⟩ := bind_eq_some_iff.mp hsome
    refine bind_eq_some_iff.mpr ⟨r', h.sendToAll hr', ?_⟩
    dsimp only at heq ⊢
    split_ifs at heq ⊢
    · exact heq
    · exact h.reportOverflow heq

end

end Extends

/-- **More fuel changes nothing.** -/
theorem dltDaemonClientSend_mono (env : ClientsEnv Buf) {fuel fuel' : ℕ} (hle : fuel ≤ fuel') :
    Extends (dltDaemonClientSend env fuel) (dltDaemonClientSend env fuel') := by
  induction fuel generalizing fuel' with
  | zero => exact fun _ _ _ _ _ hsome => absurd hsome nofun
  | succ fuel ih =>
    obtain ⟨fuel', rfl⟩ := Nat.exists_eq_add_of_le' hle
    exact (ih (Nat.le_add_left fuel fuel')).clientSend

end fuel

end Dlt.Daemon
