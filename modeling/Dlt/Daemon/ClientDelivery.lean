import Dlt.Daemon.ClientBroadcast

/-!
# When all clients get a message

* `delivered_iff` — **a message is delivered** if and only if this is so.
-/

namespace Dlt.Daemon

open Dlt.Lib Dlt.Shared List ClientWrite

variable {Buf : Type} {env : ClientsEnv Buf} {fails : ℤ → Bool} {s s' : ClientsState Buf}
  {data1 data2 : Option (List UInt8)}
variable {con : DltConnection}

/-! ## Messages that are never done -/

/-- Lost messages are to be reported, and a client is left to report them to. -/
structure Stuck (fails : ℤ → Bool) (s : ClientsState Buf) : Prop where
  overflow : 0 < s.daemon.overflowCounter
  buffering : s.daemon.state.isBuffering = false
  left : (depth fails s : ℤ) < s.clientConnections

/-- Closing a client leads there. -/
structure Jams (fails : ℤ → Bool) (s : ClientsState Buf) : Prop where
  overflow : 0 < s.daemon.overflowCounter
  buffering : s.daemon.state.isBuffering = false
  left : if Direct s then (failing fails s : ℤ) < s.clientConnections else 1 < s.clientConnections

theorem Stuck.sentOnly (h : Stuck fails s) (honly : SentOnly s s') : Stuck fails s' := by
  refine ⟨by rw [honly.daemon]; exact h.overflow, by rw [honly.daemon]; exact h.buffering, ?_⟩
  unfold depth failing
  rw [if_congr honly.direct_iff rfl rfl, honly.pEvent, honly.clientConnections]
  exact h.left

theorem Jams.sentOnly (h : Jams fails s) (honly : SentOnly s s') : Jams fails s' := by
  refine ⟨by rw [honly.daemon]; exact h.overflow, by rw [honly.daemon]; exact h.buffering, ?_⟩
  unfold failing
  rw [if_congr honly.direct_iff rfl rfl, honly.pEvent, honly.clientConnections]
  exact h.left

/-- Messages for the clients go to them, and one of them is closed. -/
theorem Stuck.jams (h : Stuck fails s) (hdirect : Direct s) : Jams fails s := by
  refine ⟨h.overflow, h.buffering, ?_⟩
  have hleft := h.left
  unfold depth at hleft
  rw [if_pos hdirect] at hleft ⊢
  exact hleft

theorem Jams.unregistered (h : Jams fails s) (hserving : Serving fails s) (hcon : con ∈ s.pEvent.active)
    (hcloses : closes fails con = true) {s₁ : ClientsState Buf} (hun : Unregistered env con s s₁) :
    Stuck fails s₁ := by
  have hleft := h.left
  have hlt := hun.failing_lt hserving hcon hcloses
  have hmore : 1 < s.clientConnections := by
    split_ifs at hleft <;> omega
  have hstate : s₁.daemon.state = s.daemon.state := by
    rw [hun.state, if_neg]
    rintro ⟨hzero, -⟩
    omega
  refine ⟨by rw [hun.overflowCounter]; exact h.overflow, by rw [hstate]; exact h.buffering, ?_⟩
  unfold depth
  rw [hun.clientConnections]
  split_ifs with hdirect
  · rw [if_pos (hun.direct hdirect)] at hleft
    omega
  · omega

section jam

variable {send : Sock → Option (List UInt8) → Option (List UInt8) → ClientsState Buf →
  Option (ClientsState Buf × ℤ)}

/-- Messages for all clients are never done in such a state. -/
def Hangs (fails : ℤ → Bool)
    (send : Sock → Option (List UInt8) → Option (List UInt8) → ClientsState Buf →
      Option (ClientsState Buf × ℤ)) : Prop :=
  ∀ (s : ClientsState Buf) (data1 data2 : Option (List UInt8)), Serving fails s → Stuck fails s →
    Fated fails data1 data2 s → send .toAll data1 data2 s = none

variable (env) in
/-- **Closing a client is never done.** -/
theorem Hangs.closeSocket (hsend : Hangs fails send) (h : Serving fails s) (hjams : Jams fails s)
    (hcon : con ∈ s.pEvent.active) (hcloses : closes fails con = true) :
    dltDaemonCloseSocket env send con.fd s = none := by
  have hclient := isClient_of_closes hcloses
  have hun := h.unregistered env hcon hclient
  have h₁ := h.of_unregistered hcon hclient hun
  have hstuck := hjams.unregistered h hcon hcloses hun
  have hinfo : dltDaemonClientSendControlMessage env send .toAll
      (connectionInfo dltConnectionStatusDisconnected) (unregisterSocket env con.fd s) = none :=
    hsend (unregisterSocket env con.fd s).tick _ _ (h₁.counters _ _)
      ⟨hstuck.overflow, hstuck.buffering, hstuck.left⟩ (h₁.own _ _ (.disconnected _ _))
  unfold dltDaemonCloseSocket
  dsimp only
  rw [hinfo]
  rfl

variable (env) in
/-- **The loop is never done**, when a client is closed. -/
theorem Hangs.loop (hsend : Hangs fails send) {call : ℕ} (k : ℕ) :
    ∀ (i : ℕ) (s : ClientsState Buf) (sent : ℤ), Serving fails s → Fated fails data1 data2 s →
    s.pEvent.pfd.length ≤ i + k → Jams fails s → (∃ con ∈ s.pEvent.polled.drop i, closes fails con = true) →
    sendAllFrom env send call data1 data2 k i s sent = none := by
  induction k with
  | zero =>
    rintro i s sent h _ hk _ ⟨con, hcon, -⟩
    rw [drop_eq_nil_of_le (by rw [h.consistent.length_polled]; omega)] at hcon
    exact absurd hcon not_mem_nil
  | succ k ih =>
    rintro i s sent h hfated hk hjams ⟨con', hcon', hcloses'⟩
    have hi : i < s.pEvent.polled.length := by
      by_contra hge
      rw [drop_eq_nil_of_le (by omega)] at hcon'
      exact absurd hcon' not_mem_nil
    obtain ⟨con, hget, hdrop⟩ := drop_polled hi
    rw [hdrop] at hcon'
    cases hcloses : closes fails con with
    | false =>
      obtain ⟨s₁, hentry, hstep⟩ := h.step_stays env send call hfated k hget hcloses sent
      have hpEvent := hentry.only.pEvent
      have hrest : con' ∈ s.pEvent.polled.drop (i + 1) := by
        rcases mem_cons.mp hcon' with rfl | hmem
        · rw [hcloses] at hcloses'
          exact Bool.noConfusion hcloses'
        · exact hmem
      rw [hstep]
      apply ih (i + 1) s₁ _ (h.sentOnly hentry.only) (hfated.later hentry.only.later)
        (by rw [hpEvent]; omega) (hjams.sentOnly hentry.only)
      exact ⟨con', hpEvent ▸ hrest, hcloses'⟩
    | true =>
      obtain ⟨s₁, hentry, hactive, hstep⟩ := h.step_closes env send call hfated k hget hcloses sent
      rw [hstep, hsend.closeSocket env (h.sentOnly hentry.only) (hjams.sentOnly hentry.only) hactive hcloses]
      rfl

theorem Hangs.reportOverflow (hsend : Hangs fails send) (h : Serving fails s) (hstuck : Stuck fails s) :
    reportOverflow env send s = none := by
  have hreport : dltDaemonSendMessageOverflow env send s = none :=
    hsend s.tick _ _ (h.counters _ _) ⟨hstuck.overflow, hstuck.buffering, hstuck.left⟩
      (h.own _ _ (.overflow _ _ _))
  have hpos : s.daemon.overflowCounter > 0 ∧ s.clientConnections > 0 := by
    refine ⟨hstuck.overflow, ?_⟩
    have hleft := hstuck.left
    omega
  unfold Daemon.reportOverflow
  rw [if_pos hpos, hreport]
  rfl

end jam

/-- **A message for all clients is never done**, whatever the fuel. -/
theorem hangs_clientSend (env : ClientsEnv Buf) (fuel : ℕ) : Hangs fails (dltDaemonClientSend env fuel) := by
  induction fuel with
  | zero => exact fun _ _ _ _ _ _ => rfl
  | succ fuel ih =>
    intro s data1 data2 h hstuck hfated
    unfold dltDaemonClientSend clientSend
    dsimp only
    by_cases hdirect : Direct s
    · have hstuck₀ : Stuck fails { s with calls := s.calls + 1 } :=
        ⟨hstuck.overflow, hstuck.buffering, hstuck.left⟩
      rw [sendToAll_direct hdirect]
      by_cases hclosed : ∃ con ∈ s.pEvent.polled, closes fails con = true
      · have hloop : dltDaemonClientSendAllMultiple env (dltDaemonClientSend env fuel) data1 data2 s = none :=
          ih.loop env _ 0 _ 0 h.next (hfated.later (.next s))
            (Nat.zero_add _).ge (hstuck₀.jams hdirect) hclosed
        rw [hloop]
        rfl
      · obtain ⟨s₁, hloop, honly, -⟩ := Serving.loopClean env (dltDaemonClientSend env fuel) s.calls
          _ 0 _ 0 h.next (hfated.later (.next s)) (Nat.zero_add _).ge
              (fun con hcon => Bool.eq_false_of_not_eq_true fun hcl => hclosed ⟨con, hcon, hcl⟩)
        have hloop' : dltDaemonClientSendAllMultiple env (dltDaemonClientSend env fuel) data1 data2 s =
            some (s₁, sentTo fails (s.pEvent.polled.drop 0) 0) := hloop
        have hstuck₁ := hstuck₀.sentOnly honly
        rw [hloop']
        simp only [Option.bind_eq_bind, Option.bind_some, hstuck₁.buffering, if_false, Bool.false_eq_true]
        exact ih.reportOverflow (h.next.sentOnly honly) hstuck₁
    · rw [sendToAll_still hdirect]
      simp only [Option.bind_eq_bind, Option.bind_some, hstuck.buffering, if_false, Bool.false_eq_true]
      exact ih.reportOverflow h hstuck

/-! ## Delivery -/

/-- **Every healthy client gets the message once**, the clients that fail are closed and no others, and the
result says whether the message was sent. -/
structure Delivers (fails : ℤ → Bool) (data1 data2 : Option (List UInt8)) (s s' : ClientsState Buf)
    (new : List ClientWrite) (ret : ℤ) : Prop where
  /-- Nothing that was sent is forgotten. -/
  sends : s'.sends = new ++ s.sends
  once : ∀ con ∈ s.pEvent.active, con.type.isClient = true → fails con.fd = false →
    (new.filter fun w => w.call = s.calls ∧ w.fd = con.fd).map outcome =
      [(con.fd, data1, data2, false)]
  removed : s'.pEvent.connections =
    s.pEvent.connections.filter fun con => ¬ (con.status = .active ∧ closes fails con = true)
  result : ret = 1 ↔ ∃ w ∈ new, w.call = s.calls ∧ w.ret = dltDaemonErrorOk

/-- The message is sent, and delivered. -/
def Delivered (env : ClientsEnv Buf) (fails : ℤ → Bool) (data1 data2 : Option (List UInt8))
    (s : ClientsState Buf) : Prop :=
  ∃ fuel s' new ret,
    dltDaemonClientSendAllMultiple env (dltDaemonClientSend env fuel) data1 data2 s = some (s', ret) ∧
      Delivers fails data1 data2 s s' new ret

/-- **No client is passed over.** Either no client is closed, or closing one of them ends, and

* in the direct state, the first client that stays behind the first one that is closed is not healthy,
* in the other states, behind a client that is closed there is none that is healthy or to be closed. -/
def Reaches (fails : ℤ → Bool) (s : ClientsState Buf) : Prop :=
  (∀ con ∈ s.pEvent.polled, closes fails con = false) ∨
    if Direct s then
      (s.daemon.overflowCounter = 0 ∨ s.clientConnections = failing fails s) ∧
        ∀ con ∈ ((s.pEvent.polled.dropWhile (!closes fails ·)).filter (!closes fails ·)).head?,
          ¬ reached fails con = true
    else
      (s.daemon.state.isBuffering = true ∨ s.daemon.overflowCounter = 0 ∨ s.clientConnections ≤ 1) ∧
        s.pEvent.polled.IsChain fun con con' =>
          ¬ (closes fails con ∧ (reached fails con' || closes fails con') = true)

theorem filter_fd {clients : List DltConnection} (hnodup : (clients.map DltConnection.fd).Nodup)
    (hcon : con ∈ clients) : (clients.filter fun c => c.fd = con.fd) = [con] := by
  have hsame : (clients.filter fun c => c.fd = con.fd) = clients.filter fun c => c = con := by
    apply filter_congr
    intro c hc
    exact decide_eq_decide.mpr ⟨inj_on_of_nodup_map hnodup hc hcon, fun h => h ▸ rfl⟩
  rw [hsame, List.filter_eq, count_eq_one_of_mem hnodup.of_map hcon]
  rfl

section outcome

variable {clients : List DltConnection} {new : List ClientWrite} {call : ℕ}

section

variable
  (hmap : (new.filter (·.call = call)).map outcome =
    (clients.map fun con => (con.fd, data1, data2, fails con.fd)).reverse)
include hmap

theorem outcomes_of_fd (fd : ℤ) :
    (new.filter fun w => w.call = call ∧ w.fd = fd).map outcome =
      ((clients.filter fun c => c.fd = fd).map fun con => (con.fd, data1, data2, fails con.fd)).reverse := by
  have hcomm : (new.filter fun w => w.call = call ∧ w.fd = fd).map outcome =
      ((new.filter (·.call = call)).map outcome).filter fun o => o.1 = fd := by
    rw [filter_map, filter_filter]
    congr 1
    apply filter_congr
    intro w _
    rw [Bool.decide_and, Bool.and_comm]
    rfl
  rw [hcomm, hmap, filter_reverse, filter_map]
  rfl

theorem exists_sent_iff :
    (∃ w ∈ new, w.call = call ∧ w.ret = dltDaemonErrorOk) ↔ ∃ con ∈ clients, fails con.fd = false := by
  constructor
  · rintro ⟨w, hw, hcall, hret⟩
    have hmem : w.outcome ∈ (new.filter (·.call = call)).map outcome :=
      mem_map_of_mem (mem_filter.mpr ⟨hw, decide_eq_true hcall⟩)
    rw [hmap, mem_reverse, mem_map] at hmem
    obtain ⟨con, hcon, heq⟩ := hmem
    refine ⟨con, hcon, ?_⟩
    rw [show fails con.fd = _ from congrArg (fun o => o.2.2.2) heq]
    exact decide_eq_false (not_not.mpr hret)
  · rintro ⟨con, hcon, hfails⟩
    have hmem : (con.fd, data1, data2, fails con.fd) ∈
        (new.filter (·.call = call)).map outcome := by
      rw [hmap, mem_reverse]
      exact mem_map_of_mem hcon
    obtain ⟨w, hw, heq⟩ := mem_map.mp hmem
    obtain ⟨hnew, hcall⟩ := mem_filter.mp hw
    refine ⟨w, hnew, of_decide_eq_true hcall, ?_⟩
    have hret : decide (w.ret ≠ dltDaemonErrorOk) = fails con.fd := congrArg (fun o => o.2.2.2) heq
    rw [hfails] at hret
    exact not_not.mp (of_decide_eq_false hret)

end

end outcome

/-- **What a loop delivers** that comes to some entries. -/
theorem Serving.delivers_iff (h : Serving fails s) {entries : List DltConnection}
    (hsub : entries.Sublist s.pEvent.polled)
    (hlogged : Logged fails s.calls data1 data2 { s with calls := s.calls + 1 } s'
      (entries.filter (·.type.isClient))) :
    (∃ new, Delivers fails data1 data2 s s' new (sentTo fails entries 0)) ↔
      (∀ con ∈ s.pEvent.polled, reached fails con = true → con ∈ entries) ∧
        s'.pEvent.connections =
          s.pEvent.connections.filter fun con => ¬ (con.status = .active ∧ closes fails con = true) := by
  obtain ⟨new, hnew, -, hmap⟩ := hlogged
  have hsub' := (filter_sublist (p := (·.type.isClient)) (l := entries)).trans hsub
  have hnodup := (hsub'.map DltConnection.fd).nodup h.consistent.nodup_polled
  have hreached : ∀ {con}, reached fails con = true ↔ con.type.isClient = true ∧ fails con.fd = false := by
    intro con
    unfold reached
    rw [Bool.and_eq_true, Bool.not_eq_true']
  constructor
  · rintro ⟨new', hdelivers⟩
    obtain rfl : new' = new := append_cancel_right (hdelivers.sends.symm.trans hnew)
    refine ⟨fun con hcon hr => ?_, hdelivers.removed⟩
    obtain ⟨hclient, hfails⟩ := hreached.mp hr
    have honce := hdelivers.once con (h.consistent.mem_polled.mp hcon) hclient hfails
    rw [outcomes_of_fd hmap] at honce
    obtain ⟨c, hc⟩ : ∃ c, c ∈ (entries.filter (·.type.isClient)).filter fun c => c.fd = con.fd := by
      apply exists_mem_of_ne_nil
      intro hnil
      rw [hnil] at honce
      exact absurd honce nofun
    obtain ⟨hmem, hfd⟩ := mem_filter.mp hc
    rw [← inj_on_of_nodup_map h.consistent.nodup_polled (hsub'.subset hmem) hcon (of_decide_eq_true hfd)]
    exact (mem_filter.mp hmem).1
  · rintro ⟨hall, hremoved⟩
    refine ⟨new, hnew, fun con hcon hclient hfails => ?_, hremoved, ?_⟩
    · have hmem := hall con (h.consistent.mem_polled.mpr hcon) (hreached.mpr ⟨hclient, hfails⟩)
      rw [outcomes_of_fd hmap, filter_fd hnodup (mem_filter.mpr ⟨hmem, hclient⟩), map_singleton,
        reverse_singleton, hfails]
    · rw [exists_sent_iff hmap]
      unfold sentTo
      by_cases hany : entries.any (reached fails) = true
      · rw [if_pos hany]
        obtain ⟨con, hcon, hr⟩ := any_eq_true.mp hany
        obtain ⟨hclient, hfails⟩ := hreached.mp hr
        exact iff_of_true rfl ⟨con, mem_filter.mpr ⟨hcon, hclient⟩, hfails⟩
      · rw [if_neg hany]
        apply iff_of_false Int.zero_ne_one
        rintro ⟨con, hcon, hfails⟩
        obtain ⟨hmem, hclient⟩ := mem_filter.mp hcon
        exact hany (any_eq_true.mpr ⟨con, hmem, hreached.mpr ⟨hclient, hfails⟩⟩)

/-! ## The connections that are removed -/

namespace DltEventHandler

variable {ev : DltEventHandler}

theorem Consistent.connections_dropping (h : ev.Consistent) {entries : List DltConnection}
    (hsub : entries.Sublist ev.polled) :
    (ev.dropping fun fd => entries.any fun con => con.fd = fd && closes fails con).connections =
        ev.connections.filter (fun con => ¬ (con.status = .active ∧ closes fails con = true)) ↔
      ∀ con ∈ ev.polled, closes fails con = true → con ∈ entries := by
  have hany : ∀ {con}, con ∈ ev.connections →
      ((entries.any fun c => c.fd = con.fd && closes fails c) = true ↔
        con ∈ entries ∧ closes fails con = true) := by
    intro con hcon
    rw [any_eq_true]
    constructor
    · rintro ⟨c, hc, heq⟩
      rw [Bool.and_eq_true, decide_eq_true_iff] at heq
      rw [h.eq_of_fd (h.mem_polled.mp (hsub.subset hc)) hcon heq.1.symm]
      exact ⟨hc, heq.2⟩
    · rintro ⟨hc, hcloses⟩
      exact ⟨con, hc, by rw [hcloses, decide_eq_true rfl]; rfl⟩
  constructor
  · intro heq con hcon hcloses
    obtain ⟨hmem, hactive⟩ := mem_active.mp (h.mem_polled.mp hcon)
    by_contra hnot
    have hleft : con ∈ (ev.dropping fun fd =>
        entries.any fun con => con.fd = fd && closes fails con).connections := by
      refine mem_filter.mpr ⟨hmem, ?_⟩
      rw [Bool.not_eq_true', Bool.eq_false_iff]
      exact fun hgone => hnot ((hany hmem).mp hgone).1
    rw [heq, mem_filter, decide_eq_true_iff] at hleft
    exact hleft.2 ⟨hactive, hcloses⟩
  · intro hall
    apply filter_congr
    intro con hcon
    rw [Bool.eq_iff_iff, Bool.not_eq_true', Bool.eq_false_iff, decide_eq_true_iff, not_iff_not, hany hcon]
    constructor
    · rintro ⟨hmem, hcloses⟩
      exact ⟨(mem_active.mp (h.mem_polled.mp (hsub.subset hmem))).2, hcloses⟩
    · rintro ⟨hactive, hcloses⟩
      exact ⟨hall con (h.mem_polled.mpr (mem_active.mpr ⟨hcon, hactive⟩)) hcloses, hcloses⟩

theorem Consistent.connections_purge (h : ev.Consistent) :
    (ev.purge fails).connections =
      ev.connections.filter fun con => ¬ (con.status = .active ∧ closes fails con = true) :=
  (h.connections_dropping (.refl _)).mpr fun _ hcon _ => hcon

end DltEventHandler

theorem Serving.failing_le (h : Serving fails s) : (failing fails s : ℤ) ≤ s.clientConnections := by
  have hnodup : s.pEvent.polled.Nodup := h.consistent.nodup_polled.of_map
  have hperm : s.pEvent.polled.Perm s.pEvent.active :=
    (perm_ext_iff_of_nodup hnodup h.consistent.nodup.of_map).mpr fun _ => h.consistent.mem_polled
  have hle : failing fails s ≤ s.pEvent.connections.countP (·.type.isClient) := by
    unfold failing
    rw [hperm.countP_eq]
    exact (countP_mono_left fun con _ => isClient_of_closes).trans
      (filter_sublist.countP_le)
  rw [h.count]
  exact_mod_cast hle

/-! ## When a message is delivered -/

theorem delivered_iff_of_eq {fuel : ℕ} {ret : ℤ}
    (hsome : dltDaemonClientSendAllMultiple env (dltDaemonClientSend env fuel) data1 data2 s = some (s', ret)) :
    Delivered env fails data1 data2 s ↔ ∃ new, Delivers fails data1 data2 s s' new ret := by
  constructor
  · rintro ⟨fuel', s'', new, ret', hsome', hdelivers⟩
    have hmono := (dltDaemonClientSend_mono env (le_max_left fuel fuel')).sendAllFrom _ _ _ _ _ hsome
    have hmono' := (dltDaemonClientSend_mono env (le_max_right fuel fuel')).sendAllFrom _ _ _ _ _ hsome'
    obtain ⟨rfl, rfl⟩ := Prod.mk.injEq .. ▸ Option.some.inj (hmono.symm.trans hmono')
    exact ⟨new, hdelivers⟩
  · rintro ⟨new, hdelivers⟩
    exact ⟨fuel, s', new, ret, hsome, hdelivers⟩

theorem not_delivered_of_jams (h : Serving fails s) (hfated : Fated fails data1 data2 s) (hjams : Jams fails s)
    (hclosed : ∃ con ∈ s.pEvent.polled, closes fails con = true) : ¬ Delivered env fails data1 data2 s := by
  rintro ⟨fuel, s', new, ret, hsome, -⟩
  have hnone : dltDaemonClientSendAllMultiple env (dltDaemonClientSend env fuel) data1 data2 s = none :=
    (hangs_clientSend env fuel).loop env _ 0 _ 0 h.next
      (hfated.later (.next s)) (Nat.zero_add _).ge ⟨hjams.overflow, hjams.buffering, hjams.left⟩ hclosed
  rw [hnone] at hsome
  exact absurd hsome nofun

section

variable (env : ClientsEnv Buf) (h : Serving fails s) (hfated : Fated fails data1 data2 s)
include h hfated

theorem delivered_of_clean (hclean : ∀ con ∈ s.pEvent.polled, closes fails con = false) :
    Delivered env fails data1 data2 s := by
  obtain ⟨s', hloop, honly, hlogged⟩ := Serving.loopClean env (dltDaemonClientSend env 0) s.calls _ 0 _ 0
    h.next (hfated.later (.next s)) (Nat.zero_add _).ge hclean
  refine (delivered_iff_of_eq hloop).mpr ((h.delivers_iff (.refl _) hlogged).mpr ⟨fun _ hcon _ => hcon, ?_⟩)
  rw [honly.pEvent, ← h.consistent.connections_purge, DltEventHandler.purge_of_not hclean]

theorem delivered_iff_of_direct (hdirect : Direct s)
    (hsettles : s.daemon.overflowCounter = 0 ∨ s.clientConnections = failing fails s) :
    Delivered env fails data1 data2 s ↔
      ∀ con ∈ ((s.pEvent.polled.dropWhile (!closes fails ·)).filter (!closes fails ·)).head?,
        ¬ reached fails con = true := by
  obtain ⟨s', hloop, hlogged, hpurges⟩ := (sendOk_clientSend env (failing fails s)).loopDirect env s.calls
    _ 0 _ 0 h.next (hfated.later (.next s)) (Nat.lt_succ_self _) (Nat.zero_add _).ge hdirect
        (show Settles fails s by unfold Settles; rw [if_pos hdirect]; exact hsettles)
    le_rfl
    (by intro con hcon; rw [take_zero] at hcon; exact absurd hcon not_mem_nil)
  refine (delivered_iff_of_eq hloop).trans ((h.delivers_iff (visitedOnce_sublist _ _) hlogged).trans ?_)
  rw [← forall_mem_visitedOnce_iff h.consistent.nodup_polled.of_map, and_iff_left]
  · constructor
    · exact fun hall con hcon hr _ => hall con hcon hr
    · intro hall con hcon hr
      apply hall con hcon hr
      apply Bool.eq_false_of_not_eq_true
      intro hcloses
      rw [reached_of_closes hcloses] at hr
      exact Bool.noConfusion hr
  · rw [hpurges.pEvent]
    exact h.consistent.connections_purge

theorem delivered_iff_of_still (hdirect : ¬ Direct s)
    (hsettles : s.daemon.state.isBuffering = true ∨ s.daemon.overflowCounter = 0 ∨ s.clientConnections ≤ 1) :
    Delivered env fails data1 data2 s ↔ s.pEvent.polled.IsChain fun con con' =>
      ¬ (closes fails con ∧ (reached fails con' || closes fails con') = true) := by
  obtain ⟨s', hloop, hlogged, hleft⟩ := (sendOk_clientSend env 1).loopStill env s.calls Nat.one_pos
    _ 0 _ 0 h.next (hfated.later (.next s)) (Nat.lt_succ_self _) (Nat.zero_add _).ge hdirect hsettles
  have hsub := visited_sublist (closes fails) s.pEvent.polled
  refine (delivered_iff_of_eq hloop).trans ((h.delivers_iff hsub hlogged).trans ?_)
  rw [hleft, ← forall_mem_visited_iff h.consistent.nodup_polled.of_map fun con hcloses => by
    rw [hcloses, Bool.or_true]]
  refine (and_congr_right' (h.consistent.connections_dropping hsub)).trans ?_
  constructor
  · rintro ⟨hreached, hcloses⟩ con hcon hkind
    rcases Bool.or_eq_true_iff.mp hkind with hr | hcl
    · exact hreached con hcon hr
    · exact hcloses con hcon hcl
  · intro hall
    exact ⟨fun con hcon hr => hall con hcon (by rw [hr, Bool.true_or]),
      fun con hcon hcl => hall con hcon (by rw [hcl, Bool.or_true])⟩

end

/-- **A message for all clients is delivered** if and only if no client is passed over. -/
theorem delivered_iff (env : ClientsEnv Buf) (h : Serving fails s) (hfated : Fated fails data1 data2 s) :
    Delivered env fails data1 data2 s ↔ Reaches fails s := by
  unfold Reaches
  by_cases hclosed : ∃ con ∈ s.pEvent.polled, closes fails con = true
  · have hnot : ¬ ∀ con ∈ s.pEvent.polled, closes fails con = false := by
      intro hclean
      obtain ⟨con, hcon, hcloses⟩ := hclosed
      rw [hclean con hcon] at hcloses
      exact Bool.noConfusion hcloses
    rw [or_iff_right hnot]
    split_ifs with hdirect
    · by_cases hsettles : s.daemon.overflowCounter = 0 ∨ s.clientConnections = failing fails s
      · rw [delivered_iff_of_direct env h hfated hdirect hsettles, and_iff_right hsettles]
      · refine iff_of_false (not_delivered_of_jams h hfated ⟨?_, ?_, ?_⟩ hclosed) fun hr => hsettles hr.1
        · omega
        · rw [hdirect.2]
          rfl
        · have hle := h.failing_le
          rw [if_pos hdirect]
          omega
    · by_cases hsettles :
        s.daemon.state.isBuffering = true ∨ s.daemon.overflowCounter = 0 ∨ s.clientConnections ≤ 1
      · rw [delivered_iff_of_still env h hfated hdirect hsettles, and_iff_right hsettles]
      · push Not at hsettles
        refine iff_of_false (not_delivered_of_jams h hfated ⟨?_, ?_, ?_⟩ hclosed) fun hr => ?_
        · omega
        · exact Bool.eq_false_of_not_eq_true hsettles.1
        · rw [if_neg hdirect]
          omega
        · rcases hr.1 with hb | hz | hle
          · exact hsettles.1 hb
          · exact hsettles.2.1 hz
          · omega
  · push Not at hclosed
    have hclean : ∀ con ∈ s.pEvent.polled, closes fails con = false :=
      fun con hcon => Bool.eq_false_of_not_eq_true (hclosed con hcon)
    exact iff_of_true (delivered_of_clean env h hfated hclean) (.inl hclean)

/-! ## Clients that fail or not -/

theorem sendParts_ok {send : ℕ → List UInt8 → Written} {parts : List (List UInt8)}
    (hsend : ∀ calls, ∀ part ∈ parts, (send calls part).ret = dltDaemonErrorOk) {w : Written}
    (hw : w.ret = dltDaemonErrorOk) : (sendParts send parts w).ret = dltDaemonErrorOk := by
  induction parts generalizing w with
  | nil => exact hw
  | cons part parts ih =>
    refine ih (fun calls p hp => hsend calls p (mem_cons_of_mem part hp)) ?_
    unfold Written.andThen
    rw [if_pos hw]
    exact hsend w.calls part mem_cons_self

theorem sendParts_failed {send : ℕ → List UInt8 → Written} (parts : List (List UInt8)) {w : Written}
    (hw : w.ret ≠ dltDaemonErrorOk) : sendParts send parts w = w := by
  induction parts with
  | nil => rfl
  | cons part parts ih =>
    unfold sendParts Written.andThen
    rw [if_neg hw]
    exact ih

theorem sendreliableFrom_ok {results : ℕ → IoResult} (hresults : ∀ calls, results calls ≠ .error) (k : ℕ) :
    ∀ (calls : ℕ) (data : List UInt8), (sendreliableFrom results k calls data).ret = dltDaemonErrorOk := by
  induction k with
  | zero => exact fun _ _ => rfl
  | succ k ih =>
    intro calls data
    unfold sendreliableFrom
    split_ifs
    · rfl
    · cases hresult : results calls with
      | error => exact absurd hresult (hresults calls)
      | wrote n => exact ih _ _

theorem sendMultiple_tcp_ok {results : ℕ → IoResult} (hresults : ∀ calls, results calls ≠ .error)
    (serialheader : Bool) (data1 data2 : Option (List UInt8)) :
    (dltConnectionSendMultiple .clientMsgTcp results serialheader data1 data2).ret = dltDaemonErrorOk :=
  sendParts_ok (fun calls part _ => sendreliableFrom_ok hresults part.length calls part) rfl

theorem sendMultiple_tcp_failed {data : List UInt8} (hdata : data ≠ []) (data2 : Option (List UInt8)) :
    (dltConnectionSendMultiple .clientMsgTcp (fun _ => .error) false (some data) data2).ret ≠
      dltDaemonErrorOk := by
  have hfirst : (dltDaemonSocketSendreliable (fun _ => .error) 0 data).ret ≠ dltDaemonErrorOk := by
    cases data with
    | nil => exact absurd rfl hdata
    | cons byte data => exact fun h => absurd (show dltDaemonErrorSendFailed = dltDaemonErrorOk from h) (by decide)
  have hparts : dltConnectionSendMultiple .clientMsgTcp (fun _ => .error) false (some data) data2 =
      sendParts (dltConnectionSend .clientMsgTcp fun _ => .error) data2.toList
        (dltDaemonSocketSendreliable (fun _ => .error) 0 data) := rfl
  rw [hparts, sendParts_failed _ hfirst]
  exact hfirst

theorem OwnMessage.header_ne_nil {header payload : List UInt8} (h : OwnMessage header payload) :
    header ≠ [] := by
  cases h <;> exact nofun

/-! ## A sample -/

/-- A ring buffer that stores nothing. -/
def sampleClientsEnv : ClientsEnv Unit where
  yvalue := false
  pid := 1
  uptime := fun n => n
  ring := { push3 := fun _ _ _ => ((), 0) }

/-- Two TCP clients with the descriptors 5 and 6, and messages for all clients go to them. -/
def sampleClients (fails : ℤ → Bool) : ClientsState Unit where
  daemon := { emptyDaemon with state := .sendDirect }
  connectionState := true
  pEvent := {
    pfd := [⟨5, 1, 0⟩, ⟨6, 1, 0⟩], maxNfds := 64
    connections := [⟨5, .clientMsgTcp, .active, 1⟩, ⟨6, .clientMsgTcp, .active, 1⟩] }
  clientConnections := 2
  uiMsgCount := 0
  ticks := 0
  userWrites := fun _ => .ok
  results := fun fd _ _ => if fails fd then .error else .wrote 1023
  messages := fun _ => 0
  received := fun _ => []
  sends := []
  calls := 0

theorem sampleClients_fated (fails : ℤ → Bool) {data : List UInt8} (hdata : data ≠ [])
    (data2 : Option (List UInt8)) : Fated fails (some data) data2 (sampleClients fails) := by
  intro con hcon _ m _
  have htype : con.type = .clientMsgTcp := by
    have hmem : con ∈ [(⟨5, .clientMsgTcp, .active, 1⟩ : DltConnection), ⟨6, .clientMsgTcp, .active, 1⟩] := hcon
    rcases mem_cons.mp hmem with rfl | hmem
    · rfl
    · rw [mem_singleton.mp hmem]
  have hresults : (sampleClients fails).results con.fd m =
      fun _ => if fails con.fd then .error else .wrote 1023 := rfl
  rw [htype, hresults]
  cases hfails : fails con.fd with
  | false => exact iff_of_true (sendMultiple_tcp_ok (fun _ => by simp) _ _ _) rfl
  | true =>
    apply iff_of_false _ nofun
    simp only [if_true]
    exact sendMultiple_tcp_failed hdata data2

theorem sampleClients_serving (fails : ℤ → Bool) : Serving fails (sampleClients fails) := by
  refine ⟨⟨show ([5, 6] : List ℤ).Nodup by decide, .refl _, ?_⟩, rfl,
      fun _ _ hown => sampleClients_fated fails hown.header_ne_nil _⟩
  intro con hcon hstatus
  have hmem : con ∈ [(⟨5, .clientMsgTcp, .active, 1⟩ : DltConnection), ⟨6, .clientMsgTcp, .active, 1⟩] := hcon
  rcases mem_cons.mp hmem with rfl | hmem
  · exact absurd hstatus nofun
  · rw [mem_singleton.mp hmem] at hstatus
    exact absurd hstatus nofun

theorem delivered_sample :
    Delivered sampleClientsEnv (fun fd => fd = 6) (some [1, 2]) (some [3]) (sampleClients fun fd => fd = 6) := by
  apply (delivered_iff sampleClientsEnv (sampleClients_serving _) (sampleClients_fated _ (by decide) _)).mpr
  right
  rw [if_pos ⟨rfl, rfl⟩]
  exact ⟨.inl rfl, by decide⟩

/-- **The first client fails, and the second one does not get the message.** -/
theorem not_delivered :
    ∃ s : ClientsState Unit, Serving (fun fd => fd = 5) s ∧ Fated (fun fd => fd = 5) (some [1, 2]) (some [3]) s ∧
      ¬ Delivered sampleClientsEnv (fun fd => fd = 5) (some [1, 2]) (some [3]) s := by
  refine ⟨sampleClients fun fd => fd = 5, sampleClients_serving _, sampleClients_fated _ (by decide) _, ?_⟩
  rw [delivered_iff_of_direct sampleClientsEnv (sampleClients_serving _)
    (sampleClients_fated _ (by decide) _) ⟨rfl, rfl⟩ (.inl rfl)]
  decide

end Dlt.Daemon
