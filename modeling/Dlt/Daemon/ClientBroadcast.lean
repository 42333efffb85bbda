import Dlt.Lib.ShrinkingLoop
import Dlt.Daemon.ClientSendFrame

/-!
# A message for all clients

* `sendOk_clientSend` — **nested messages return**, and do no more than this.
-/

namespace Dlt.Daemon

open Dlt.Lib Dlt.Shared List

variable {Buf : Type} {env : ClientsEnv Buf} {fails : ℤ → Bool} {s s' : ClientsState Buf}
  {data1 data2 : Option (List UInt8)}
variable {i : ℕ}

/-! ## Clients that fail -/

/-- A client that fails and is closed. -/
def closes (fails : ℤ → Bool) (con : DltConnection) : Bool := con.type = .clientMsgTcp && fails con.fd

variable {con : DltConnection}

theorem isClient_of_closes (h : closes fails con = true) : con.type.isClient = true := by
  unfold closes at h
  rw [Bool.and_eq_true, decide_eq_true_iff] at h
  rw [h.1]
  rfl

/-- The messages that the daemon sends while it sends a message. -/
inductive OwnMessage : List UInt8 → List UInt8 → Prop
  | disconnected (ecuid : Id4) (tmsp : ℕ) :
      OwnMessage (controlHeader ecuid tmsp (connectionInfo dltConnectionStatusDisconnected).length)
        (connectionInfo dltConnectionStatusDisconnected)
  | internal (ecuid : Id4) (uiMsgCount pid tmsp : ℕ) (str : List UInt8) :
      OwnMessage (internalHeader ecuid uiMsgCount pid tmsp (internalPayload str).length) (internalPayload str)
  | overflow (ecuid : Id4) (tmsp overflowCounter : ℕ) :
      OwnMessage (controlHeader ecuid tmsp (bufferOverflow overflowCounter).length)
        (bufferOverflow overflowCounter)

/-- A message fails at exactly the clients that fail. -/
def Fated (fails : ℤ → Bool) (data1 data2 : Option (List UInt8)) (s : ClientsState Buf) : Prop :=
  ∀ con ∈ s.pEvent.active, con.type.isClient → ∀ m, s.messages con.fd ≤ m →
    ((dltConnectionSendMultiple con.type (s.results con.fd m) s.daemon.sendserialheader data1 data2).ret =
      dltDaemonErrorOk ↔ fails con.fd = false)

/-- The invariant of the event handler. -/
structure Sound (s : ClientsState Buf) : Prop where
  consistent : s.pEvent.Consistent
  /-- `client_connections` counts the clients. -/
  count : s.clientConnections = s.pEvent.connections.countP (·.type.isClient)

/-- The invariant of the event handler, and the clients that fail do so whatever the daemon sends. -/
structure Serving (fails : ℤ → Bool) (s : ClientsState Buf) : Prop where
  consistent : s.pEvent.Consistent
  /-- `client_connections` counts the clients. -/
  count : s.clientConnections = s.pEvent.connections.countP (·.type.isClient)
  own : ∀ header payload, OwnMessage header payload → Fated fails (some header) (some payload) s

theorem Serving.sound (h : Serving fails s) : Sound s := ⟨h.consistent, h.count⟩

/-- What stays while messages are sent. -/
structure Later (s s' : ClientsState Buf) : Prop where
  results : s'.results = s.results
  messages : ∀ fd, s.messages fd ≤ s'.messages fd
  header : s'.daemon.sendserialheader = s.daemon.sendserialheader
  calls : s.calls ≤ s'.calls
  active : ∀ con ∈ s'.pEvent.active, con ∈ s.pEvent.active

theorem Later.refl (s : ClientsState Buf) : Later s s :=
  ⟨rfl, fun _ => le_rfl, rfl, le_rfl, fun _ h => h⟩

variable {s'' : ClientsState Buf}

theorem Later.trans (h : Later s s') (h' : Later s' s'') : Later s s'' :=
  ⟨h'.results.trans h.results, fun fd => (h.messages fd).trans (h'.messages fd), h'.header.trans h.header,
    h.calls.trans h'.calls, fun con hcon => h.active con (h'.active con hcon)⟩

theorem Fated.later (h : Fated fails data1 data2 s) (hlater : Later s s') : Fated fails data1 data2 s' := by
  intro con hcon hclient m hm
  rw [hlater.results, hlater.header]
  exact h con (hlater.active con hcon) hclient m ((hlater.messages con.fd).trans hm)

theorem Serving.later (h : Serving fails s) (hlater : Later s s') (hconsistent : s'.pEvent.Consistent)
    (hcount : s'.clientConnections = s'.pEvent.connections.countP (·.type.isClient)) : Serving fails s' :=
  ⟨hconsistent, hcount, fun header payload hown => (h.own header payload hown).later hlater⟩

/-! ## What was sent -/

/-- What the log says about a message to a client. -/
def ClientWrite.outcome (w : ClientWrite) : ℤ × Option (List UInt8) × Option (List UInt8) × Bool :=
  (w.fd, w.data1, w.data2, decide (w.ret ≠ dltDaemonErrorOk))

/-- The message with the number `call` was sent to some clients, and all others have later numbers. -/
def Logged (fails : ℤ → Bool) (call : ℕ) (data1 data2 : Option (List UInt8)) (s s' : ClientsState Buf)
    (clients : List DltConnection) : Prop :=
  ∃ new, s'.sends = new ++ s.sends ∧ (∀ w ∈ new, w.call = call ∨ s.calls ≤ w.call) ∧
    (new.filter (·.call = call)).map ClientWrite.outcome =
      (clients.map fun con => (con.fd, data1, data2, fails con.fd)).reverse

/-- All messages have later numbers. -/
def LaterSends (s s' : ClientsState Buf) : Prop :=
  ∃ new, s'.sends = new ++ s.sends ∧ ∀ w ∈ new, s.calls ≤ w.call

theorem LaterSends.refl (s : ClientsState Buf) : LaterSends s s :=
  ⟨[], rfl, fun _ hw => absurd hw not_mem_nil⟩

theorem LaterSends.of_sends (h : s'.sends = s.sends) : LaterSends s s' :=
  ⟨[], h, fun _ hw => absurd hw not_mem_nil⟩

theorem LaterSends.trans (h : LaterSends s s') (hcalls : s.calls ≤ s'.calls) (h' : LaterSends s' s'') :
    LaterSends s s'' := by
  obtain ⟨new, hnew, hlater⟩ := h
  obtain ⟨new', hnew', hlater'⟩ := h'
  refine ⟨new' ++ new, by rw [hnew', hnew, append_assoc], fun w hw => ?_⟩
  rcases mem_append.mp hw with hw | hw
  · exact hcalls.trans (hlater' w hw)
  · exact hlater w hw

theorem Logged.nil (call : ℕ) (h : s'.sends = s.sends) : Logged fails call data1 data2 s s' [] :=
  ⟨[], h, fun _ hw => absurd hw not_mem_nil, rfl⟩

theorem LaterSends.logged (h : LaterSends s s') {call : ℕ} (hcall : call < s.calls) :
    Logged fails call data1 data2 s s' [] := by
  obtain ⟨new, hnew, hlater⟩ := h
  refine ⟨new, hnew, fun w hw => .inr (hlater w hw), ?_⟩
  rw [filter_eq_nil_iff.mpr]
  · rfl
  · intro w hw
    have hle := hlater w hw
    simpa using (by omega : w.call ≠ call)

theorem Logged.append {call : ℕ} {clients clients' : List DltConnection}
    (h : Logged fails call data1 data2 s s' clients) (hcalls : s.calls ≤ s'.calls)
    (h' : Logged fails call data1 data2 s' s'' clients') :
    Logged fails call data1 data2 s s'' (clients ++ clients') := by
  obtain ⟨new, hnew, hlater, hmap⟩ := h
  obtain ⟨new', hnew', hlater', hmap'⟩ := h'
  refine ⟨new' ++ new, by rw [hnew', hnew, append_assoc], fun w hw => ?_, ?_⟩
  · rcases mem_append.mp hw with hw | hw
    · exact (hlater' w hw).imp_right hcalls.trans
    · exact hlater w hw
  · rw [filter_append, map_append, hmap, hmap', map_append, reverse_append]

/-! ## Closing all clients that fail -/

/-- Without the clients that fail. -/
def DltEventHandler.purge (fails : ℤ → Bool) (ev : DltEventHandler) : DltEventHandler :=
  ev.dropping fun fd => ev.polled.any fun con => con.fd = fd && closes fails con

open DltEventHandler

namespace DltEventHandler

variable {ev : DltEventHandler}

section

variable (h : ev.Consistent)
include h

theorem Consistent.polled_any (hcon : con ∈ ev.polled) :
    (ev.polled.any fun c => c.fd = con.fd && closes fails c) = closes fails con := by
  rw [Bool.eq_iff_iff, any_eq_true]
  constructor
  · rintro ⟨c, hc, heq⟩
    rw [Bool.and_eq_true, decide_eq_true_iff] at heq
    rw [← inj_on_of_nodup_map h.nodup_polled hc hcon heq.1]
    exact heq.2
  · intro hcloses
    exact ⟨con, hcon, by rw [hcloses, decide_eq_true rfl]; rfl⟩

theorem Consistent.polled_purge :
    (ev.purge fails).polled = ev.polled.filter fun con => !closes fails con := by
  unfold purge
  rw [polled_dropping]
  apply filter_congr
  intro con hcon
  rw [h.polled_any hcon]

section

variable {con : DltConnection} (hi : ev.polled[i]? = some con)
include hi

theorem Consistent.polled_without :
    (ev.without con.fd).polled = ev.polled.eraseIdx i := by
  rw [eraseIdx_eq_filter (f := DltConnection.fd) hi rfl]
  · exact (polled_dropping _).trans (filter_congr fun c _ => decide_not.symm)
  · intro j c hc hfd
    apply (getElem?_inj (by simpa using (List.getElem?_eq_some_iff.mp hc).1) h.nodup_polled).mp
    rw [getElem?_map, getElem?_map, hc, hi, Option.map_some, Option.map_some, hfd]

theorem Consistent.drop_polled_without :
    (ev.without con.fd).polled.drop (i + 1) = (ev.polled.drop (i + 1)).tail := by
  have hlt := (List.getElem?_eq_some_iff.mp hi).1
  rw [h.polled_without hi, eraseIdx_eq_take_drop_succ, drop_append, length_take,
    Nat.min_eq_left hlt.le, Nat.add_sub_cancel_left, drop_one,
    drop_eq_nil_of_le (by rw [length_take]; omega), nil_append]

/-- The loop passes over what is behind the first client that is closed with the others. -/
theorem Consistent.drop_polled_purge (hcloses : closes fails con = true)
    (hbefore : ∀ c ∈ ev.polled.take i, closes fails c = false) :
    (ev.purge fails).polled.drop (i + 1) = ((ev.polled.drop (i + 1)).filter (!closes fails ·)).tail := by
  obtain ⟨hlt, rfl⟩ := List.getElem?_eq_some_iff.mp hi
  have hsplit : ev.polled = ev.polled.take i ++ ev.polled[i] :: ev.polled.drop (i + 1) := by
    rw [← drop_eq_getElem_cons hlt, take_append_drop]
  have htake : (ev.polled.take i).filter (!closes fails ·) = ev.polled.take i := by
    apply filter_eq_self.mpr
    intro c hc
    rw [hbefore c hc]
    rfl
  rw [h.polled_purge]
  conv_lhs => rw [hsplit]
  rw [filter_append, htake, filter_cons_of_neg (by rw [hcloses]; exact Bool.false_ne_true),
    drop_append, length_take, Nat.min_eq_left hlt.le, Nat.add_sub_cancel_left, drop_one,
    drop_eq_nil_of_le (by rw [length_take]; omega), nil_append]

end

end

theorem purge_of_not (hnone : ∀ con ∈ ev.polled, closes fails con = false) : ev.purge fails = ev := by
  unfold purge
  have hfalse : (fun fd => ev.polled.any fun con => con.fd = fd && closes fails con) = fun _ => false := by
    funext fd
    rw [any_eq_false]
    intro con hcon
    rw [hnone con hcon, Bool.and_false]
    exact Bool.false_ne_true
  rw [hfalse]
  exact dropping_false

theorem purge_without (hcon : con ∈ ev.polled) (hcloses : closes fails con = true) :
    (ev.without con.fd).purge fails = ev.purge fails := by
  unfold purge
  rw [show (ev.without con.fd).polled = _ from polled_dropping _]
  unfold without
  rw [dropping_dropping]
  congr 1
  funext fd
  by_cases hfd : fd = con.fd
  · rw [decide_eq_true hfd, Bool.true_or, eq_comm, any_eq_true]
    exact ⟨con, hcon, by rw [hcloses, decide_eq_true hfd.symm]; rfl⟩
  · rw [decide_eq_false hfd, Bool.false_or, any_filter]
    congr 1
    funext c
    by_cases hc : c.fd = fd
    · rw [decide_eq_false (fun h => hfd (hc.symm.trans h))]
      simp
    · rw [decide_eq_false hc]
      simp

end DltEventHandler

/-! ## Nested messages -/

/-- Messages for all clients go to them. -/
def Direct (s : ClientsState Buf) : Prop := s.daemon.mode.isExternal = true ∧ s.daemon.state = .sendDirect

instance (s : ClientsState Buf) : Decidable (Direct s) := inferInstanceAs (Decidable (_ ∧ _))

/-- The number of clients that fail. -/
def failing (fails : ℤ → Bool) (s : ClientsState Buf) : ℕ := s.pEvent.polled.countP (closes fails)

/-- Sending a message does not go on forever: lost messages are not reported, or there is no client left
to report them to. -/
def Settles (fails : ℤ → Bool) (s : ClientsState Buf) : Prop :=
  if Direct s then s.daemon.overflowCounter = 0 ∨ s.clientConnections = failing fails s
  else s.daemon.state.isBuffering = true ∨ s.daemon.overflowCounter = 0 ∨ s.clientConnections ≤ 0

/-- How many clients a message for all clients closes. -/
def depth (fails : ℤ → Bool) (s : ClientsState Buf) : ℕ := if Direct s then failing fails s else 0

/-- **What a nested message does**: in the direct state it closes all clients that fail. -/
structure NestedSend (fails : ℤ → Bool) (s s' : ClientsState Buf) : Prop where
  later : Later s s'
  sends : LaterSends s s'
  pEvent : s'.pEvent = if Direct s then s.pEvent.purge fails else s.pEvent
  count : s'.clientConnections = s'.pEvent.connections.countP (·.type.isClient)
  settles : Settles fails s'
  direct : Direct s' → Direct s

theorem Serving.nested (h : Serving fails s) (hnested : NestedSend fails s s') : Serving fails s' := by
  refine h.later hnested.later ?_ hnested.count
  rw [hnested.pEvent]
  split_ifs
  · exact h.consistent.dropping _
  · exact h.consistent

/-- After a nested message no client is left that fails, or nested messages do not go to the clients. -/
theorem NestedSend.depth_eq_zero (h : Serving fails s) (hnested : NestedSend fails s s') :
    depth fails s' = 0 := by
  unfold depth
  split_ifs with hdirect
  · unfold failing
    rw [hnested.pEvent, if_pos (hnested.direct hdirect), h.consistent.polled_purge, countP_filter,
      countP_eq_zero]
    intro con _
    cases closes fails con <;> simp
  · rfl

theorem Serving.counters (h : Serving fails s) (ticks uiMsgCount : ℕ) :
    Serving fails { s with ticks, uiMsgCount } :=
  ⟨h.consistent, h.count, h.own⟩

theorem NestedSend.of_counters {ticks uiMsgCount : ℕ} (h : NestedSend fails { s with ticks, uiMsgCount } s') :
    NestedSend fails s s' :=
  ⟨⟨h.later.results, h.later.messages, h.later.header, h.later.calls, h.later.active⟩, h.sends, h.pEvent,
    h.count, h.settles, h.direct⟩

/-- Nested messages return that close fewer clients than a bound. -/
def SendOk (fails : ℤ → Bool)
    (send : Sock → Option (List UInt8) → Option (List UInt8) → ClientsState Buf →
      Option (ClientsState Buf × ℤ)) (bound : ℕ) : Prop :=
  ∀ (s : ClientsState Buf) (data1 data2 : Option (List UInt8)), Serving fails s → Settles fails s →
    depth fails s < bound → Fated fails data1 data2 s →
      ∃ s' ret, send .toAll data1 data2 s = some (s', ret) ∧ NestedSend fails s s'

/-! ## Closing a client -/

/-- What unregistering a client changes. -/
structure Unregistered (env : ClientsEnv Buf) (con : DltConnection) (s s' : ClientsState Buf) : Prop where
  pEvent : s'.pEvent = s.pEvent.without con.fd
  clientConnections : s'.clientConnections = s.clientConnections - 1
  sends : s'.sends = s.sends
  messages : s'.messages = s.messages
  results : s'.results = s.results
  calls : s'.calls = s.calls
  header : s'.daemon.sendserialheader = s.daemon.sendserialheader
  overflowCounter : s'.daemon.overflowCounter = s.daemon.overflowCounter
  mode : s'.daemon.mode = s.daemon.mode
  state : s'.daemon.state =
    if s.clientConnections - 1 = 0 ∧ env.yvalue = false then .buffer else s.daemon.state

section close

variable {con : DltConnection}

theorem Sound.pos (h : Sound s) (hcon : con ∈ s.pEvent.active) (hclient : con.type.isClient = true) :
    0 < s.clientConnections := by
  rw [h.count, h.consistent.countP_without hcon hclient]
  omega

theorem Serving.pos (h : Serving fails s) (hcon : con ∈ s.pEvent.active) (hclient : con.type.isClient = true) :
    0 < s.clientConnections := h.sound.pos hcon hclient

theorem Sound.unregistered (h : Sound s) (env : ClientsEnv Buf) (hcon : con ∈ s.pEvent.active)
    (hclient : con.type.isClient = true) : Unregistered env con s (unregisterSocket env con.fd s) := by
  obtain ⟨daemon, userWrites, connectionState, hsame, heq⟩ := unregisterSocket_frame env con.fd s
  have hmax : max 0 (s.clientConnections - 1) = s.clientConnections - 1 := by
    have hpos := h.pos hcon hclient
    omega
  rw [dltEventHandlerUnregisterConnection_eq h.consistent hcon, if_pos hclient, hmax] at heq
  rw [heq, hsame]
  exact ⟨rfl, rfl, rfl, rfl, rfl, rfl, rfl, rfl, rfl, rfl⟩

theorem Serving.unregistered (h : Serving fails s) (env : ClientsEnv Buf) (hcon : con ∈ s.pEvent.active)
    (hclient : con.type.isClient = true) : Unregistered env con s (unregisterSocket env con.fd s) :=
  h.sound.unregistered env hcon hclient

variable {s₁ : ClientsState Buf}

theorem Sound.of_unregistered (h : Sound s) (hcon : con ∈ s.pEvent.active) (hclient : con.type.isClient = true)
    (hun : Unregistered env con s s₁) : Sound s₁ := by
  constructor
  · rw [hun.pEvent]
    exact h.consistent.dropping _
  · rw [hun.clientConnections, hun.pEvent, h.count, h.consistent.countP_without hcon hclient]
    omega

theorem Unregistered.later (hun : Unregistered env con s s₁) : Later s s₁ := by
  refine ⟨hun.results, fun fd => (congrFun hun.messages fd).ge, hun.header, hun.calls.ge, ?_⟩
  intro c hc
  rw [hun.pEvent] at hc
  exact (mem_active_dropping.mp hc).1

theorem Serving.of_unregistered (h : Serving fails s) (hcon : con ∈ s.pEvent.active)
    (hclient : con.type.isClient = true) (hun : Unregistered env con s s₁) : Serving fails s₁ :=
  h.later hun.later (h.sound.of_unregistered hcon hclient hun).consistent
      (h.sound.of_unregistered hcon hclient hun).count

theorem Unregistered.direct (hun : Unregistered env con s s₁) (hdirect : Direct s₁) : Direct s := by
  obtain ⟨hmode, hstate⟩ := hdirect
  rw [hun.mode] at hmode
  rw [hun.state] at hstate
  split_ifs at hstate
  exact ⟨hmode, hstate⟩

theorem Unregistered.failing_lt (h : Serving fails s) (hcon : con ∈ s.pEvent.active)
    (hcloses : closes fails con = true) (hun : Unregistered env con s s₁) :
    failing fails s = failing fails s₁ + 1 := by
  unfold failing
  have hmem := h.consistent.mem_polled.mpr hcon
  obtain ⟨i, hi⟩ := mem_iff_getElem?.mp hmem
  obtain ⟨hlt, rfl⟩ := List.getElem?_eq_some_iff.mp hi
  have hwithout : s₁.pEvent.polled = s.pEvent.polled.eraseIdx i := by
    rw [hun.pEvent, h.consistent.polled_without hi]
  have hsplit : s.pEvent.polled = s.pEvent.polled.take i ++ s.pEvent.polled[i] :: s.pEvent.polled.drop (i + 1) := by
    rw [← drop_eq_getElem_cons hlt, take_append_drop]
  rw [hwithout, eraseIdx_eq_take_drop_succ]
  conv_lhs => rw [hsplit]
  rw [countP_append, countP_append, countP_cons_of_pos hcloses, Nat.add_assoc]

/-- Closing a client that fails keeps the messages from going on forever. -/
theorem Settles.unregistered (hset : Settles fails s) (h : Serving fails s) (hcon : con ∈ s.pEvent.active)
    (hcloses : closes fails con = true) (hun : Unregistered env con s s₁) : Settles fails s₁ := by
  unfold Settles at hset ⊢
  have hpos := h.pos hcon (isClient_of_closes hcloses)
  by_cases hdirect : Direct s₁
  · rw [if_pos hdirect, hun.overflowCounter, hun.clientConnections]
    rw [if_pos (hun.direct hdirect)] at hset
    have hlt := hun.failing_lt h hcon hcloses
    omega
  · rw [if_neg hdirect, hun.overflowCounter, hun.clientConnections]
    by_cases hzero : s.clientConnections - 1 = 0
    · exact .inr (.inr (by omega))
    · have hstate : s₁.daemon.state = s.daemon.state := by rw [hun.state, if_neg fun hz => hzero hz.1]
      have hnot : ¬ Direct s := fun hd => hdirect ⟨hun.mode ▸ hd.1, hstate.trans hd.2⟩
      rw [if_neg hnot] at hset
      rw [hstate]
      rcases hset with hset | hset | hset
      · exact .inl hset
      · exact .inr (.inl hset)
      · omega

variable {send : Sock → Option (List UInt8) → Option (List UInt8) → ClientsState Buf →
  Option (ClientsState Buf × ℤ)} {bound : ℕ}

structure Closed (fails : ℤ → Bool) (s s₁ s' : ClientsState Buf) : Prop where
  serving : Serving fails s'
  later : Later s s'
  sends : LaterSends s s'
  pEvent : s'.pEvent = if Direct s₁ then s₁.pEvent.purge fails else s₁.pEvent
  settles : Settles fails s'
  direct : Direct s' → Direct s₁

/-- **Closing a client** sends two messages. -/
theorem SendOk.closeSocket (hsend : SendOk fails send bound) (h : Serving fails s)
    (hcon : con ∈ s.pEvent.active) (hclient : con.type.isClient = true)
    (hset : Settles fails (unregisterSocket env con.fd s))
    (hdepth : depth fails (unregisterSocket env con.fd s) < bound) :
    ∃ s', dltDaemonCloseSocket env send con.fd s = some s' ∧
      Closed fails s (unregisterSocket env con.fd s) s' := by
  have hun := h.unregistered env hcon hclient
  have h₁ := h.of_unregistered hcon hclient hun
  unfold dltDaemonCloseSocket
  generalize unregisterSocket env con.fd s = s₁ at hun h₁ hset hdepth ⊢
  obtain ⟨s₂, ret, hinfo, hnested⟩ := hsend s₁.tick _ _ (h₁.counters _ _) hset hdepth
    (h₁.own _ _ (.disconnected s₁.daemon.ecuid (env.uptime s₁.ticks)))
  replace hnested : NestedSend fails s₁ s₂ := hnested.of_counters
  have h₂ : Serving fails s₂ := Serving.nested h₁ hnested
  have hzero : depth fails s₂ = 0 := hnested.depth_eq_zero h₁
  obtain ⟨s₄, ret', hlog, hnested'⟩ := hsend { s₂.tick with uiMsgCount := s₂.uiMsgCount + 1 } _ _
    (h₂.counters _ _) hnested.settles (show depth fails s₂ < bound by omega)
    (h₂.own _ _ (.internal s₂.daemon.ecuid s₂.uiMsgCount env.pid (env.uptime s₂.ticks)
      (closedText con.fd s₂.clientConnections)))
  replace hnested' : NestedSend fails s₂ s₄ := NestedSend.of_counters (s := s₂) hnested'
  have hsends : LaterSends s s₁ := .of_sends hun.sends
  have hpEvent : s₄.pEvent = if Direct s₁ then s₁.pEvent.purge fails else s₁.pEvent := by
    rw [hnested'.pEvent, ← hnested.pEvent]
    by_cases hdirect : Direct s₂
    · -- no client is left that fails
      rw [if_pos hdirect]
      apply purge_of_not
      unfold depth at hzero
      rw [if_pos hdirect] at hzero
      intro c hc
      exact Bool.eq_false_iff.mpr (countP_eq_zero.mp hzero c hc)
    · rw [if_neg hdirect]
  refine ⟨s₄, ?_, h₂.nested hnested', ?_, ?_, hpEvent, hnested'.settles,
    fun hdirect => hnested.direct (hnested'.direct hdirect)⟩
  · have hinfo' : dltDaemonClientSendControlMessage env send .toAll
        (connectionInfo dltConnectionStatusDisconnected) s₁ = some (s₂, ret) := hinfo
    have hlog' : dltDaemonLogInternal env send (closedText con.fd s₂.clientConnections) s₂ = some s₄ := by
      unfold dltDaemonLogInternal
      exact congrArg (fun r => r.bind fun x => some x.1) hlog
    simp only [hinfo', Option.bind_eq_bind, Option.bind_some, hlog']
  · exact hun.later.trans (hnested.later.trans hnested'.later)
  · exact (hsends.trans hun.later.calls hnested.sends).trans (hun.later.calls.trans hnested.later.calls)
      hnested'.sends

end close

/-! ## The loop -/

/-- A client that gets a message. -/
def reached (fails : ℤ → Bool) (con : DltConnection) : Bool := con.type.isClient && !fails con.fd

theorem reached_of_closes (h : closes fails con = true) : reached fails con = false := by
  unfold closes at h
  rw [Bool.and_eq_true] at h
  unfold reached
  rw [h.2, Bool.not_true, Bool.and_false]

structure SentOnly (s s' : ClientsState Buf) : Prop where
  daemon : s'.daemon = s.daemon
  pEvent : s'.pEvent = s.pEvent
  clientConnections : s'.clientConnections = s.clientConnections
  calls : s'.calls = s.calls
  results : s'.results = s.results
  messages : ∀ fd, s.messages fd ≤ s'.messages fd

theorem SentOnly.refl (s : ClientsState Buf) : SentOnly s s :=
  ⟨rfl, rfl, rfl, rfl, rfl, fun _ => le_rfl⟩

theorem SentOnly.trans (h : SentOnly s s') (h' : SentOnly s' s'') : SentOnly s s'' :=
  ⟨h'.daemon.trans h.daemon, h'.pEvent.trans h.pEvent, h'.clientConnections.trans h.clientConnections,
    h'.calls.trans h.calls, h'.results.trans h.results, fun fd => (h.messages fd).trans (h'.messages fd)⟩

theorem SentOnly.later (h : SentOnly s s') : Later s s' :=
  ⟨h.results, h.messages, by rw [h.daemon], h.calls.ge, fun con hcon => h.pEvent ▸ hcon⟩

theorem Serving.sentOnly (hs : Serving fails s) (h : SentOnly s s') : Serving fails s' := by
  refine hs.later h.later (h.pEvent ▸ hs.consistent) ?_
  rw [h.clientConnections, h.pEvent]
  exact hs.count

theorem SentOnly.direct_iff (h : SentOnly s s') : Direct s' ↔ Direct s := by
  unfold Direct
  rw [h.daemon]

theorem Settles.sentOnly (hset : Settles fails s) (h : SentOnly s s') : Settles fails s' := by
  unfold Settles failing
  simp only [h.direct_iff, h.daemon, h.clientConnections, h.pEvent]
  exact hset

/-- **A message for one client.** -/
theorem Serving.sendToClient (h : Serving fails s) (hfated : Fated fails data1 data2 s) (call : ℕ)
    (hcon : con ∈ s.pEvent.active) (hclient : con.type.isClient = true) :
    SentOnly s (sendToClient call data1 data2 con s).1 ∧
      Logged fails call data1 data2 s (sendToClient call data1 data2 con s).1 [con] ∧
      ((sendToClient call data1 data2 con s).2 = dltDaemonErrorOk ↔ fails con.fd = false) := by
  have hret := hfated con hcon hclient (s.messages con.fd) le_rfl
  have hresults : s.nextResults con.fd = s.results con.fd (s.messages con.fd) := by
    unfold ClientsState.nextResults
    rw [h.consistent.find hcon]
  unfold Daemon.sendToClient
  rw [hresults]
  dsimp only
  generalize dltConnectionSendMultiple con.type (s.results con.fd (s.messages con.fd))
    s.daemon.sendserialheader data1 data2 = w at hret ⊢
  refine ⟨⟨rfl, rfl, rfl, rfl, rfl, fun fd => ?_⟩, ⟨[_], rfl, fun w' hw' => ?_, ?_⟩, hret⟩
  · show _ ≤ if fd = con.fd then s.messages con.fd + 1 else s.messages fd
    split_ifs with hfd
    · rw [hfd]
      exact Nat.le_succ _
    · exact le_rfl
  · rw [mem_singleton.mp hw']
    exact .inl rfl
  · rw [filter_cons_of_pos (by simp)]
    have houtcome : decide (w.ret ≠ dltDaemonErrorOk) = fails con.fd := by
      cases hfails : fails con.fd with
      | false => exact decide_eq_false (not_not.mpr (hret.mpr hfails))
      | true => exact decide_eq_true fun hok => absurd (hret.mp hok) (by rw [hfails]; exact Bool.noConfusion)
    show [(con.fd, data1, data2, decide (w.ret ≠ dltDaemonErrorOk))] = _
    rw [houtcome]
    rfl

section loop

variable {send : Sock → Option (List UInt8) → Option (List UInt8) → ClientsState Buf →
  Option (ClientsState Buf × ℤ)} {call bound : ℕ}

theorem sendAllFrom_end {k : ℕ} (hi : s.pEvent.pfd.length ≤ i) (sent : ℤ) :
    sendAllFrom env send call data1 data2 k i s sent = some (s, sent) := by
  cases k with
  | zero => rfl
  | succ k =>
    unfold sendAllFrom
    rw [getElem?_eq_none hi]

theorem sendAllFrom_step (h : s.pEvent.Consistent) {k : ℕ} (hcon : s.pEvent.polled[i]? = some con) (sent : ℤ) :
    sendAllFrom env send call data1 data2 (k + 1) i s sent =
      if con.type.isClient then
        if (sendToClient call data1 data2 con s).2 = dltDaemonErrorOk then
          sendAllFrom env send call data1 data2 k (i + 1) (sendToClient call data1 data2 con s).1 1
        else if con.type = .clientMsgTcp then
          (dltDaemonCloseSocket env send con.fd (sendToClient call data1 data2 con s).1).bind fun s =>
            sendAllFrom env send call data1 data2 k (i + 1) s sent
        else sendAllFrom env send call data1 data2 k (i + 1) (sendToClient call data1 data2 con s).1 sent
      else sendAllFrom env send call data1 data2 k (i + 1) s sent := by
  rw [h.polled_getElem?] at hcon
  obtain ⟨x, hx, hfind⟩ := Option.bind_eq_some_iff.mp hcon
  rw [sendAllFrom]
  simp only [hx, hfind]
  cases hclient : con.type.isClient with
  | true => rw [Option.filter_some, if_pos hclient, if_pos rfl]
  | false =>
    rw [Option.filter_some, if_neg (by rw [hclient]; exact Bool.false_ne_true), if_neg Bool.false_ne_true]

/-- What the loop returns. -/
def sentTo (fails : ℤ → Bool) (clients : List DltConnection) (sent : ℤ) : ℤ :=
  if clients.any (reached fails) then 1 else sent

theorem sentTo_cons (con : DltConnection) (rest : List DltConnection) (sent : ℤ) :
    sentTo fails (con :: rest) sent = sentTo fails rest (if reached fails con then 1 else sent) := by
  unfold sentTo
  rw [any_cons]
  cases reached fails con with
  | true => simp
  | false => simp

theorem drop_polled {ev : DltEventHandler} (hi : i < ev.polled.length) :
    ∃ con, ev.polled[i]? = some con ∧ ev.polled.drop i = con :: ev.polled.drop (i + 1) :=
  ⟨ev.polled[i], getElem?_eq_getElem hi, drop_eq_getElem_cons hi⟩

structure AtEntry (fails : ℤ → Bool) (call : ℕ) (data1 data2 : Option (List UInt8)) (con : DltConnection)
    (s s' : ClientsState Buf) : Prop where
  only : SentOnly s s'
  logged : Logged fails call data1 data2 s s' ([con].filter (·.type.isClient))

theorem AtEntry.append {s s₁ s' : ClientsState Buf} {rest : List DltConnection}
    (h : AtEntry fails call data1 data2 con s s₁)
    (hrest : Logged fails call data1 data2 s₁ s' (rest.filter (·.type.isClient))) :
    Logged fails call data1 data2 s s' ((con :: rest).filter (·.type.isClient)) := by
  have hcons : con :: rest = [con] ++ rest := rfl
  rw [hcons, filter_append]
  exact h.logged.append h.only.calls.ge hrest

variable (env send call) in
/-- **The loop at an entry that stays.** -/
theorem Serving.step_stays (h : Serving fails s) (hfated : Fated fails data1 data2 s) (k : ℕ)
    (hget : s.pEvent.polled[i]? = some con) (hstays : closes fails con = false) (sent : ℤ) :
    ∃ s', AtEntry fails call data1 data2 con s s' ∧
      sendAllFrom env send call data1 data2 (k + 1) i s sent =
        sendAllFrom env send call data1 data2 k (i + 1) s' (if reached fails con then 1 else sent) := by
  rw [sendAllFrom_step h.consistent hget]
  by_cases hclient : con.type.isClient = true
  · obtain ⟨honly, hlogged, hret⟩ := h.sendToClient hfated call
      (h.consistent.mem_polled.mp (mem_of_getElem? hget)) hclient
    refine ⟨_, ⟨honly, by rwa [filter_cons, if_pos hclient]⟩, ?_⟩
    rw [if_pos hclient]
    unfold reached
    cases hfails : fails con.fd with
    | false => rw [if_pos (hret.mpr hfails), hclient, Bool.not_false, Bool.true_and, if_pos rfl]
    | true =>
      have htcp : ¬ con.type = .clientMsgTcp := by
        intro htcp
        unfold closes at hstays
        rw [hfails, htcp, decide_eq_true rfl] at hstays
        exact Bool.noConfusion hstays
      have hnot : ¬ (Daemon.sendToClient call data1 data2 con s).2 = dltDaemonErrorOk := fun hok => by
        rw [hret.mp hok] at hfails
        exact Bool.noConfusion hfails
      rw [if_neg hnot, if_neg htcp, Bool.not_true, Bool.and_false, if_neg Bool.false_ne_true]
  · refine ⟨s, ⟨.refl s, ?_⟩, ?_⟩
    · rw [filter_cons, if_neg hclient]
      exact .nil call rfl
    · unfold reached
      rw [if_neg hclient, Bool.eq_false_of_not_eq_true hclient, Bool.false_and, if_neg Bool.false_ne_true]

variable (env send call) in
/-- **The loop at a client that is closed.** -/
theorem Serving.step_closes (h : Serving fails s) (hfated : Fated fails data1 data2 s) (k : ℕ)
    (hget : s.pEvent.polled[i]? = some con) (hcloses : closes fails con = true) (sent : ℤ) :
    ∃ s', AtEntry fails call data1 data2 con s s' ∧ con ∈ s'.pEvent.active ∧
      sendAllFrom env send call data1 data2 (k + 1) i s sent =
        (dltDaemonCloseSocket env send con.fd s').bind fun s =>
          sendAllFrom env send call data1 data2 k (i + 1) s sent := by
  rw [sendAllFrom_step h.consistent hget]
  have hclient := isClient_of_closes hcloses
  have hactive := h.consistent.mem_polled.mp (mem_of_getElem? hget)
  obtain ⟨honly, hlogged, hret⟩ := h.sendToClient hfated call hactive hclient
  unfold closes at hcloses
  rw [Bool.and_eq_true, decide_eq_true_iff] at hcloses
  have hnot : ¬ (Daemon.sendToClient call data1 data2 con s).2 = dltDaemonErrorOk := fun hok => by
    rw [hret.mp hok] at hcloses
    exact Bool.noConfusion hcloses.2
  refine ⟨_, ⟨honly, by rwa [filter_cons, if_pos hclient]⟩, by rwa [honly.pEvent], ?_⟩
  rw [if_pos hclient, if_neg hnot, if_pos hcloses.1]

variable (env send call) in
/-- **The loop, when no client is closed.** -/
theorem Serving.loopClean (k : ℕ) : ∀ (i : ℕ) (s : ClientsState Buf) (sent : ℤ), Serving fails s →
    Fated fails data1 data2 s → s.pEvent.pfd.length ≤ i + k →
    (∀ con ∈ s.pEvent.polled.drop i, closes fails con = false) →
    ∃ s', sendAllFrom env send call data1 data2 k i s sent =
        some (s', sentTo fails (s.pEvent.polled.drop i) sent) ∧ SentOnly s s' ∧
      Logged fails call data1 data2 s s' ((s.pEvent.polled.drop i).filter (·.type.isClient)) := by
  induction k with
  | zero =>
    intro i s sent h _ hk _
    rw [drop_eq_nil_of_le (by rw [h.consistent.length_polled]; omega)]
    exact ⟨s, rfl, .refl s, .nil call rfl⟩
  | succ k ih =>
    intro i s sent h hfated hk hnone
    by_cases hi : i < s.pEvent.polled.length
    · obtain ⟨con, hget, hdrop⟩ := drop_polled hi
      rw [hdrop] at hnone ⊢
      obtain ⟨s₁, hentry, hstep⟩ := h.step_stays env send call hfated k hget (hnone con mem_cons_self) sent
      have hpEvent := hentry.only.pEvent
      obtain ⟨s', hloop, honly, hlogged⟩ := ih (i + 1) s₁ (if reached fails con then 1 else sent)
        (h.sentOnly hentry.only) (hfated.later hentry.only.later) (by rw [hpEvent]; omega)
        (by rw [hpEvent]; exact fun c hc => hnone c (mem_cons_of_mem con hc))
      rw [hpEvent] at hloop hlogged
      rw [hstep, hloop, sentTo_cons]
      refine ⟨s', rfl, hentry.only.trans honly, ?_⟩
      exact hentry.append hlogged
    · have hlength := h.consistent.length_polled
      rw [sendAllFrom_end (by omega), drop_eq_nil_of_le (by omega)]
      exact ⟨s, rfl, .refl s, .nil call rfl⟩

variable (env call) in
/-- **The loop, when nested messages do not go to the clients.** Closing a client removes it only. -/
theorem SendOk.loopStill (hsend : SendOk fails send bound) (hbound : 0 < bound) (k : ℕ) :
    ∀ (i : ℕ) (s : ClientsState Buf) (sent : ℤ), Serving fails s → Fated fails data1 data2 s →
    call < s.calls → s.pEvent.pfd.length ≤ i + k → ¬ Direct s →
    (s.daemon.state.isBuffering = true ∨ s.daemon.overflowCounter = 0 ∨ s.clientConnections ≤ 1) →
    ∃ s', sendAllFrom env send call data1 data2 k i s sent =
        some (s', sentTo fails (visited (closes fails) (s.pEvent.polled.drop i)) sent) ∧
      Logged fails call data1 data2 s s'
        ((visited (closes fails) (s.pEvent.polled.drop i)).filter (·.type.isClient)) ∧
      s'.pEvent = s.pEvent.dropping fun fd =>
        (visited (closes fails) (s.pEvent.polled.drop i)).any fun con => con.fd = fd && closes fails con := by
  induction k with
  | zero =>
    intro i s sent h _ _ hk _ _
    rw [drop_eq_nil_of_le (by rw [h.consistent.length_polled]; omega)]
    exact ⟨s, rfl, .nil call rfl, DltEventHandler.dropping_false.symm⟩
  | succ k ih =>
    intro i s sent h hfated hcall hk hdirect hsettles
    by_cases hi : i < s.pEvent.polled.length
    · obtain ⟨con, hget, hdrop⟩ := drop_polled hi
      cases hcloses : closes fails con with
      | false =>
        obtain ⟨s₁, hentry, hstep⟩ := h.step_stays env send call hfated k hget hcloses sent
        have hpEvent := hentry.only.pEvent
        obtain ⟨s', hloop, hlogged, hleft⟩ := ih (i + 1) s₁ (if reached fails con then 1 else sent)
          (h.sentOnly hentry.only) (hfated.later hentry.only.later) (hentry.only.calls ▸ hcall)
          (by rw [hpEvent]; omega) (fun hd => hdirect (hentry.only.direct_iff.mp hd))
          (by rw [hentry.only.daemon, hentry.only.clientConnections]; exact hsettles)
        rw [hpEvent] at hloop hlogged hleft
        rw [hstep, hloop, hdrop, visited_cons_of_not _ hcloses, sentTo_cons]
        refine ⟨s', rfl, ?_, ?_⟩
        · exact hentry.append hlogged
        · rw [hleft]
          congr 1
          funext fd
          rw [any_cons, hcloses, Bool.and_false, Bool.false_or]
      | true =>
        obtain ⟨s₁, hentry, hactive, hstep⟩ := h.step_closes env send call hfated k hget hcloses sent
        have hclient := isClient_of_closes hcloses
        have h₁ := h.sentOnly hentry.only
        have hun := h₁.unregistered env hactive hclient
        have hnot : ¬ Direct (unregisterSocket env con.fd s₁) := fun hd =>
          hdirect (hentry.only.direct_iff.mp (hun.direct hd))
        have hleft : (unregisterSocket env con.fd s₁).daemon.state.isBuffering = true ∨
            (unregisterSocket env con.fd s₁).daemon.overflowCounter = 0 ∨
              (unregisterSocket env con.fd s₁).clientConnections ≤ 0 := by
          rw [hun.overflowCounter, hun.clientConnections, hentry.only.daemon,
            hentry.only.clientConnections, hun.state, hentry.only.daemon]
          rcases hsettles with hbuffering | hzero | hone
          · left
            split_ifs
            · rfl
            · exact hbuffering
          · exact .inr (.inl hzero)
          · exact .inr (.inr (by omega))
        obtain ⟨s₂, hclosed, hcl⟩ := hsend.closeSocket h₁ hactive hclient
          (show Settles fails _ by unfold Settles; rw [if_neg hnot]; exact hleft)
          (show depth fails _ < bound by unfold depth; rw [if_neg hnot]; exact hbound)
        have hpEvent : s₂.pEvent = s.pEvent.without con.fd := by
          rw [hcl.pEvent, if_neg hnot, hun.pEvent, hentry.only.pEvent]
        have hpolled : s₂.pEvent.polled.drop (i + 1) = (s.pEvent.polled.drop (i + 1)).tail := by
          rw [hpEvent, h.consistent.drop_polled_without hget]
        have hlength : s₂.pEvent.pfd.length ≤ s.pEvent.pfd.length := by
          rw [hpEvent]
          exact length_filter_le ..
        have hsettles₂ := hcl.settles
        unfold Settles at hsettles₂
        rw [if_neg (fun hd => hnot (hcl.direct hd))] at hsettles₂
        obtain ⟨s', hloop, hlogged, hleft'⟩ := ih (i + 1) s₂ sent hcl.serving
          ((hfated.later hentry.only.later).later hcl.later)
          (lt_of_lt_of_le (hentry.only.calls ▸ hcall) hcl.later.calls) (by omega)
          (fun hd => hnot (hcl.direct hd)) (hsettles₂.imp_right (Or.imp_right fun hle => by omega))
        rw [hpolled] at hloop hlogged hleft'
        rw [hstep, hclosed, Option.bind_some, hloop, hdrop, visited_cons_of_gone _ hcloses, sentTo_cons,
          if_neg (by rw [reached_of_closes hcloses]; exact Bool.false_ne_true)]
        refine ⟨s', rfl, ?_, ?_⟩
        · exact hentry.append ((hcl.sends.logged (hentry.only.calls ▸ hcall)).append hcl.later.calls hlogged)
        · rw [hleft', hpEvent]
          unfold DltEventHandler.without
          rw [DltEventHandler.dropping_dropping]
          congr 1
          funext fd
          rw [any_cons, hcloses, Bool.and_true, decide_eq_decide.mpr eq_comm]
    · have hlength := h.consistent.length_polled
      rw [sendAllFrom_end (by omega), drop_eq_nil_of_le (by omega)]
      exact ⟨s, rfl, .nil call rfl, DltEventHandler.dropping_false.symm⟩

theorem Unregistered.pEvent_purge (h : Serving fails s) (hcon : con ∈ s.pEvent.active)
    (hcloses : closes fails con = true) {s₁ : ClientsState Buf} (hserving : Serving fails s₁)
    (hun : Unregistered env con s s₁) (hdirect : Direct s) :
    (if Direct s₁ then s₁.pEvent.purge fails else s₁.pEvent) = s.pEvent.purge fails := by
  rw [← purge_without (h.consistent.mem_polled.mpr hcon) hcloses, ← hun.pEvent]
  split_ifs with hdirect₁
  · rfl
  · symm
    apply purge_of_not
    have hzero : s.clientConnections - 1 = 0 := by
      by_contra hne
      apply hdirect₁
      refine ⟨hun.mode ▸ hdirect.1, ?_⟩
      rw [hun.state, if_neg fun hz => hne hz.1]
      exact hdirect.2
    have hcount := hserving.count
    rw [hun.clientConnections, hzero] at hcount
    have hnone := countP_eq_zero.mp (show s₁.pEvent.connections.countP (·.type.isClient) = 0 by omega)
    intro c hc
    have hmem := mem_active.mp (hserving.consistent.mem_polled.mp hc)
    exact Bool.eq_false_of_not_eq_true fun hcl => hnone c hmem.1 (isClient_of_closes hcl)

/-- What the loop does when nested messages go to the clients. -/
structure Purges (fails : ℤ → Bool) (s s' : ClientsState Buf) : Prop where
  pEvent : s'.pEvent = s.pEvent.purge fails
  serving : Serving fails s'
  later : Later s s'
  settles : Settles fails s'

variable (env call) in
/-- **The loop, when nested messages go to the clients.** With the first client that fails all of them are
closed. -/
theorem SendOk.loopDirect (hsend : SendOk fails send bound) (k : ℕ) :
    ∀ (i : ℕ) (s : ClientsState Buf) (sent : ℤ), Serving fails s → Fated fails data1 data2 s →
    call < s.calls → s.pEvent.pfd.length ≤ i + k → Direct s → Settles fails s → failing fails s ≤ bound →
    (∀ con ∈ s.pEvent.polled.take i, closes fails con = false) →
    ∃ s', sendAllFrom env send call data1 data2 k i s sent =
        some (s', sentTo fails (visitedOnce (closes fails) (s.pEvent.polled.drop i)) sent) ∧
      Logged fails call data1 data2 s s'
        ((visitedOnce (closes fails) (s.pEvent.polled.drop i)).filter (·.type.isClient)) ∧ Purges fails s s' := by
  have hend : ∀ (s : ClientsState Buf) (i : ℕ), Serving fails s → Settles fails s →
      s.pEvent.pfd.length ≤ i → (∀ con ∈ s.pEvent.polled.take i, closes fails con = false) →
        Purges fails s s := by
    intro s i h hsettles hi hbefore
    rw [take_of_length_le (by rw [h.consistent.length_polled]; exact hi)] at hbefore
    exact ⟨(purge_of_not hbefore).symm, h, .refl s, hsettles⟩
  induction k with
  | zero =>
    intro i s sent h _ _ hk _ hsettles _ hbefore
    rw [drop_eq_nil_of_le (by rw [h.consistent.length_polled]; omega)]
    exact ⟨s, rfl, .nil call rfl, hend s i h hsettles (by omega) hbefore⟩
  | succ k ih =>
    intro i s sent h hfated hcall hk hdirect hsettles hbound hbefore
    by_cases hi : i < s.pEvent.polled.length
    · obtain ⟨con, hget, hdrop⟩ := drop_polled hi
      cases hcloses : closes fails con with
      | false =>
        obtain ⟨s₁, hentry, hstep⟩ := h.step_stays env send call hfated k hget hcloses sent
        have hpEvent := hentry.only.pEvent
        have hsettles₁ := hsettles.sentOnly hentry.only
        obtain ⟨s', hloop, hlogged, hpurges⟩ := ih (i + 1) s₁ (if reached fails con then 1 else sent)
          (h.sentOnly hentry.only) (hfated.later hentry.only.later) (hentry.only.calls ▸ hcall)
          (by rw [hpEvent]; omega) (hentry.only.direct_iff.mpr hdirect) hsettles₁
          (by unfold failing; rw [hpEvent]; exact hbound) (by
            rw [hpEvent]
            intro c hc
            rw [take_add_one, hget, mem_append] at hc
            rcases hc with hc | hc
            · exact hbefore c hc
            · rw [mem_singleton.mp hc]
              exact hcloses)
        rw [hpEvent] at hloop hlogged
        have hvisited : visitedOnce (closes fails) (con :: s.pEvent.polled.drop (i + 1)) =
            con :: visitedOnce (closes fails) (s.pEvent.polled.drop (i + 1)) := by
          rw [visitedOnce, if_neg (by rw [hcloses]; exact Bool.false_ne_true)]
        rw [hstep, hloop, hdrop, hvisited, sentTo_cons]
        refine ⟨s', rfl, ?_, hpEvent ▸ hpurges.pEvent, hpurges.serving,
          hentry.only.later.trans hpurges.later, hpurges.settles⟩
        exact hentry.append hlogged
      | true =>
        obtain ⟨s₁, hentry, hactive, hstep⟩ := h.step_closes env send call hfated k hget hcloses sent
        have hpEvent := hentry.only.pEvent
        have hclient := isClient_of_closes hcloses
        have h₁ := h.sentOnly hentry.only
        have hsettles₁ := hsettles.sentOnly hentry.only
        have hun := h₁.unregistered env hactive hclient
        have hdepth : depth fails (unregisterSocket env con.fd s₁) < bound := by
          have hlt := hun.failing_lt h₁ hactive hcloses
          have hsame : failing fails s₁ = failing fails s := by unfold failing; rw [hpEvent]
          unfold depth
          split_ifs <;> omega
        obtain ⟨s₂, hclosed, hcl⟩ := hsend.closeSocket h₁ hactive hclient
          (hsettles₁.unregistered h₁ hactive hcloses hun) hdepth
        have hpurge : s₂.pEvent = s.pEvent.purge fails := by
          rw [hcl.pEvent, hun.pEvent_purge h₁ hactive hcloses (h₁.of_unregistered hactive hclient hun)
            (hentry.only.direct_iff.mpr hdirect), hpEvent]
        have hpolled := h.consistent.drop_polled_purge hget hcloses hbefore
        rw [← hpurge] at hpolled
        have hlength : s₂.pEvent.pfd.length ≤ s.pEvent.pfd.length := by
          rw [hpurge]
          exact length_filter_le ..
        obtain ⟨s', hloop, honly, hlogged⟩ := Serving.loopClean env send call k (i + 1) s₂ sent
          hcl.serving ((hfated.later hentry.only.later).later hcl.later) (by omega) (by
            rw [hpolled]
            intro c hc
            have hmem := mem_filter.mp (mem_of_mem_tail hc)
            exact Bool.eq_false_of_not_eq_true fun hcl => by
              rw [hcl] at hmem
              exact Bool.noConfusion hmem.2)
        rw [hpolled] at hloop hlogged
        have hvisited : visitedOnce (closes fails) (con :: s.pEvent.polled.drop (i + 1)) =
            con :: ((s.pEvent.polled.drop (i + 1)).filter (!closes fails ·)).tail := by
          rw [visitedOnce, if_pos hcloses]
        rw [hstep, hclosed, Option.bind_some, hloop, hdrop, hvisited, sentTo_cons,
          if_neg (by rw [reached_of_closes hcloses]; exact Bool.false_ne_true)]
        refine ⟨s', rfl, ?_, honly.pEvent.trans hpurge, hcl.serving.sentOnly honly,
          (hentry.only.later.trans hcl.later).trans honly.later, hcl.settles.sentOnly honly⟩
        exact hentry.append ((hcl.sends.logged (hentry.only.calls ▸ hcall)).append hcl.later.calls hlogged)
    · have hlength := h.consistent.length_polled
      rw [sendAllFrom_end (by omega), drop_eq_nil_of_le (by omega)]
      exact ⟨s, rfl, .nil call rfl, hend s i h hsettles (by omega) hbefore⟩

end loop

/-! ## Nested messages return -/

theorem not_direct_of_buffering (h : s.daemon.state.isBuffering = true) : ¬ Direct s := by
  intro hdirect
  rw [hdirect.2] at h
  exact Bool.noConfusion h

theorem nestedSend_store {s₁ : ClientsState Buf} (env : ClientsEnv Buf) (data1 data2 : Option (List UInt8))
    (hlater : Later s s₁) (hsends : LaterSends s s₁)
    (hpEvent : s₁.pEvent = if Direct s then s.pEvent.purge fails else s.pEvent)
    (hcount : s₁.clientConnections = s₁.pEvent.connections.countP (·.type.isClient))
    (hbuffering : s₁.daemon.state.isBuffering = true) :
    NestedSend fails s (storeMessage env data1 data2 s₁).1 := by
  obtain ⟨clientRingbuffer, overflowCounter, state, hstate, heq⟩ :=
    storeMessage_frame env data1 data2 s₁ hbuffering
  rw [heq]
  have hnot : ¬ Direct { s₁ with daemon := { s₁.daemon with clientRingbuffer, overflowCounter, state } } :=
    not_direct_of_buffering hstate
  refine ⟨⟨hlater.results, hlater.messages, hlater.header, hlater.calls, hlater.active⟩, hsends, hpEvent,
    hcount, ?_, fun hdirect => absurd hdirect hnot⟩
  unfold Settles
  rw [if_neg hnot]
  exact .inl hstate

section

variable
  {send : Sock → Option (List UInt8) → Option (List UInt8) → ClientsState Buf → Option (ClientsState Buf × ℤ)}

theorem reportOverflow_of_settles (hsettles : Settles fails s) (hbuffering : s.daemon.state.isBuffering = false)
    (hnone : Direct s → failing fails s = 0) :
    reportOverflow env send s = some (s, dltDaemonErrorOk) := by
  unfold reportOverflow
  rw [if_neg]
  rintro ⟨hover, hconnections⟩
  unfold Settles at hsettles
  split_ifs at hsettles with hdirect
  · have hzero := hnone hdirect
    omega
  · rw [hbuffering] at hsettles
    rcases hsettles with h | h | h
    · exact Bool.noConfusion h
    · omega
    · omega

/-- In the direct state a message for all clients goes to them. -/
theorem sendToAll_direct (hdirect : Direct s) :
    sendToAll env send false data1 data2 s = dltDaemonClientSendAllMultiple env send data1 data2 s := by
  unfold sendToAll
  rw [if_pos ⟨hdirect.1, .inr hdirect.2⟩]

theorem sendToAll_still (hdirect : ¬ Direct s) :
    sendToAll env send false data1 data2 s = some (s, 1) := by
  unfold sendToAll
  rw [if_neg]
  rintro ⟨hmode, hforce | hstate⟩
  · exact Bool.noConfusion hforce
  · exact hdirect ⟨hmode, hstate⟩

end

theorem Later.next (s : ClientsState Buf) : Later s { s with calls := s.calls + 1 } :=
  ⟨rfl, fun _ => le_rfl, rfl, Nat.le_succ _, fun _ hc => hc⟩

theorem Serving.next (h : Serving fails s) : Serving fails { s with calls := s.calls + 1 } :=
  h.later (.next s) h.consistent h.count

/-- **Nested messages return**, if there is fuel for every client that they close. -/
theorem sendOk_clientSend (env : ClientsEnv Buf) (fuel : ℕ) :
    SendOk fails (dltDaemonClientSend env fuel) fuel := by
  induction fuel with
  | zero => exact fun _ _ _ _ _ hdepth => absurd hdepth (Nat.not_lt_zero _)
  | succ fuel ih =>
    intro s data1 data2 h hsettles hdepth hfated
    unfold dltDaemonClientSend clientSend
    dsimp only
    by_cases hdirect : Direct s
    · unfold depth at hdepth
      rw [if_pos hdirect] at hdepth
      obtain ⟨s₁, hloop, ⟨new, hnew, hcalls, -⟩, hpurges⟩ := ih.loopDirect env s.calls _ 0 _ 0 h.next
        (hfated.later (.next s)) (Nat.lt_succ_self _) (Nat.zero_add _).ge hdirect hsettles (Nat.lt_succ_iff.mp hdepth)
        (by intro con hcon; rw [take_zero] at hcon; exact absurd hcon not_mem_nil)
      have hloop' : dltDaemonClientSendAllMultiple env (dltDaemonClientSend env fuel) data1 data2 s =
          some (s₁, sentTo fails (visitedOnce (closes fails) (s.pEvent.polled.drop 0)) 0) := hloop
      rw [sendToAll_direct hdirect, hloop']
      have hlater : Later s s₁ := (Later.next s).trans hpurges.later
      have hsends : LaterSends s s₁ := by
        refine ⟨new, hnew, fun w hw => ?_⟩
        rcases hcalls w hw with heq | hle
        · exact heq.ge
        · exact (Nat.le_succ _).trans hle
      have hpEvent : s₁.pEvent = if Direct s then s.pEvent.purge fails else s.pEvent := by
        rw [if_pos hdirect]
        exact hpurges.pEvent
      cases hbuffering : s₁.daemon.state.isBuffering with
      | true =>
        refine ⟨(storeMessage env data1 data2 s₁).1, (storeMessage env data1 data2 s₁).2, ?_,
          nestedSend_store env data1 data2 hlater hsends hpEvent hpurges.serving.count hbuffering⟩
        simp [hbuffering]
      | false =>
        have hzero : failing fails s₁ = 0 := by
          unfold failing
          rw [hpEvent, if_pos hdirect, h.consistent.polled_purge, countP_filter, countP_eq_zero]
          intro con _
          cases closes fails con <;> simp
        refine ⟨s₁, dltDaemonErrorOk, ?_, hlater, hsends, hpEvent, hpurges.serving.count,
          hpurges.settles, fun _ => hdirect⟩
        simp only [Option.bind_eq_bind, Option.bind_some, hbuffering, if_false, Bool.false_eq_true]
        exact reportOverflow_of_settles hpurges.settles hbuffering fun _ => hzero
    · rw [sendToAll_still hdirect]
      have hpEvent : s.pEvent = if Direct s then s.pEvent.purge fails else s.pEvent := by rw [if_neg hdirect]
      cases hbuffering : s.daemon.state.isBuffering with
      | true =>
        refine ⟨(storeMessage env data1 data2 s).1, (storeMessage env data1 data2 s).2, ?_,
          nestedSend_store env data1 data2 (.refl s) (.refl s) hpEvent h.count hbuffering⟩
        simp [hbuffering]
      | false =>
        refine ⟨s, dltDaemonErrorOk, ?_, .refl s, .refl s, hpEvent, h.count, hsettles, id⟩
        simp only [Option.bind_eq_bind, Option.bind_some, hbuffering, if_false, Bool.false_eq_true]
        exact reportOverflow_of_settles hsettles hbuffering fun hd => absurd hd hdirect

end Dlt.Daemon
