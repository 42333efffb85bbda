import Dlt.Daemon.EventHandler
import Dlt.Lib.Runs

/-!
# The event handler over whole runs

* `event_handler_views` — in every run whose operations keep the descriptors, all views agree in every state.
-/

namespace Dlt.Daemon

open Dlt.Lib List

/-! ## Operations -/

/-- `DLT_EV_BASE_FD`. Source: `dlt_daemon_event_handler.c` -/
def dltEvBaseFd : ℕ := 16

/-- Source: `dlt_daemon_prepare_event_handling` -/
def dltDaemonPrepareEventHandling : DltEventHandler := { pfd := [], maxNfds := dltEvBaseFd, connections := [] }

/-- The connection is given by its index. There is memory for a larger array.
Source: `dlt_connection_check_activate` -/
def dltConnectionCheckActivate (ev : DltEventHandler) (i : ℕ) (activate : Bool) : DltEventHandler :=
  match ev.connections[i]? with
  | none => ev
  | some con => if activate then dltConnectionActivate true ev i con else dltConnectionDeactivate ev i con

/-- The event handler, with the connections as they were asked for. -/
structure EventState where
  /-- `pEvent`. -/
  ev : DltEventHandler
  /-- `client_connections`. -/
  clientConnections : ℤ
  /-- The connections that are registered, in the order in which they were. -/
  registered : List DltConnection

/-- What is done with a connection. -/
inductive EventOp
  | register (fd : ℤ) (type : DltConnectionType) (mask : ℕ)
  /-- The connection of a descriptor is unregistered. -/
  | unregister (fd : ℤ)
  /-- The connection at a position of the list is activated or deactivated. -/
  | checkActivate (i : ℕ) (activate : Bool)
deriving DecidableEq

open EventOp

def EventOp.wanted (registered : List DltConnection) : EventOp → List DltConnection
  | .register fd type mask => registered ++ [{ fd, type, status := .active, evMask := mask }]
  | .unregister fd => registered.filter fun con => con.fd ≠ fd
  | .checkActivate i activate =>
      registered.modify i fun con => { con with status := if activate then .active else .inactive }

/-- The state after an operation. -/
def eventStep (s : EventState) (op : EventOp) : EventState :=
  match op with
  | .register fd type mask =>
      let after := dltEventHandlerRegisterConnection true s.ev s.clientConnections fd type mask
      ⟨after.1, after.2, op.wanted s.registered⟩
  | .unregister fd =>
      let after := dltEventHandlerUnregisterConnection s.ev s.clientConnections fd
      ⟨after.1.1, after.1.2, op.wanted s.registered⟩
  | .checkActivate i activate =>
      ⟨dltConnectionCheckActivate s.ev i activate, s.clientConnections, op.wanted s.registered⟩

/-- Nothing is registered. -/
def EventState.start : EventState := ⟨dltDaemonPrepareEventHandling, 0, []⟩

/-- The descriptor of a new connection is not negative, and differs from those of the other ones. -/
def EventOp.Allowed (s : EventState) : EventOp → Prop
  | .register fd _ _ => 0 ≤ fd ∧ ∀ con ∈ s.registered, con.fd ≠ fd
  | .unregister _ => True
  | .checkActivate _ _ => True

/-- No active connection that waits for TCP clients is deactivated. -/
def EventOp.KeepsDescriptors (s : EventState) : EventOp → Prop
  | .register _ _ _ => True
  | .unregister _ => True
  | .checkActivate i activate =>
      activate = false → ∀ con, s.registered[i]? = some con → con.type = .clientConnect → con.status = .inactive

/-! ## The views -/

def DltConnection.entry (con : DltConnection) : ℤ × ℕ := (con.fd, con.evMask)

open DltConnection

def activeOnes (connections : List DltConnection) : List DltConnection :=
  connections.filter fun con => con.status = .active

/-- **All views agree** with the connections that are registered. -/
structure Views (s : EventState) : Prop where
  listed : s.ev.connections = s.registered
  once : (s.registered.map DltConnection.fd).Nodup
  /-- The array has one entry for each active connection. -/
  polled : (s.ev.pfd.map fun x => (x.fd, x.events)).Perm ((activeOnes s.registered).map entry)
  bounded : s.ev.pfd.length ≤ s.ev.maxNfds
  counted : s.clientConnections = (s.registered.countP (·.type.isClient) : ℕ)
  /-- The search gives the connection that was registered with the descriptor. -/
  found : ∀ fd, dltEventHandlerFindConnection s.ev fd = s.registered.find? fun con => con.fd = fd

/-! ## One connection among others -/

section position

variable {before behind : List DltConnection} {con : DltConnection} {i : ℕ}

theorem exists_split {connections : List DltConnection} (h : connections[i]? = some con) :
    ∃ before behind, connections = before ++ con :: behind ∧ before.length = i := by
  obtain ⟨hlt, rfl⟩ := List.getElem?_eq_some_iff.mp h
  refine ⟨connections.take i, connections.drop (i + 1), ?_, ?_⟩
  · rw [getElem_cons_drop, take_append_drop]
  · exact length_take_of_le (Nat.le_of_lt hlt)

theorem set_split (con' : DltConnection) :
    (before ++ con :: behind).set before.length con' = before ++ con' :: behind := by
  rw [set_append_right _ _ (Nat.le_refl _), Nat.sub_self, set_cons_zero]

theorem modify_split (f : DltConnection → DltConnection) :
    (before ++ con :: behind).modify before.length f = before ++ f con :: behind := by
  induction before with
  | nil => rfl
  | cons first before ih =>
    rw [cons_append, length_cons, modify_succ_cons, ih]
    rfl

theorem eraseIdx_split : (before ++ con :: behind).eraseIdx before.length = before ++ behind := by
  rw [eraseIdx_append_of_length_le (Nat.le_refl _), Nat.sub_self, eraseIdx_cons_zero]

section

variable (h : ((before ++ con :: behind).map DltConnection.fd).Nodup)
include h

theorem others_differ : (∀ other ∈ before, other.fd ≠ con.fd) ∧ ∀ other ∈ behind, other.fd ≠ con.fd := by
  rw [map_append, map_cons] at h
  have hmiddle := nodup_middle.mp h
  have hnot := (nodup_cons.mp hmiddle).1
  rw [mem_append, mem_map, mem_map, not_or] at hnot
  exact ⟨fun other hin heq => hnot.1 ⟨other, hin, heq⟩, fun other hin heq => hnot.2 ⟨other, hin, heq⟩⟩

theorem filter_split :
    ((before ++ con :: behind).filter fun other => other.fd ≠ con.fd) = before ++ behind := by
  obtain ⟨hbefore, hbehind⟩ := others_differ h
  rw [filter_append, filter_cons_of_neg (by simp),
    filter_eq_self.mpr fun other hin => decide_eq_true (hbefore other hin),
    filter_eq_self.mpr fun other hin => decide_eq_true (hbehind other hin)]

/-- The entries of the other connections have other descriptors. -/
theorem filter_entries :
    ((activeOnes (before ++ con :: behind)).map entry).filter (fun x => x.1 ≠ con.fd) =
      (activeOnes (before ++ behind)).map entry := by
  rw [← filter_split h, activeOnes, activeOnes, filter_map, filter_comm]
  rfl

end

theorem activeOnes_active (h : con.status = .active) :
    (activeOnes (before ++ con :: behind)).Perm (con :: activeOnes (before ++ behind)) := by
  unfold activeOnes
  rw [filter_append, filter_cons_of_pos (p := fun con : DltConnection => con.status = .active)
    (decide_eq_true h), filter_append]
  exact perm_middle

theorem activeOnes_inactive (h : con.status = .inactive) :
    activeOnes (before ++ con :: behind) = activeOnes (before ++ behind) := by
  unfold activeOnes
  rw [filter_append, filter_cons_of_neg (by simp [h]), filter_append]

end position

/-! ## Steps -/

section steps

variable {s : EventState}

/-- What holds along a run. -/
structure EventKept (s : EventState) : Prop extends Views s where
  room : 0 < s.ev.maxNfds

theorem Views.nodup_entries (h : Views s) : (s.ev.pfd.map Pollfd.fd).Nodup := by
  have hfds : (s.ev.pfd.map Pollfd.fd).Perm ((activeOnes s.registered).map DltConnection.fd) := by
    have hmap := h.polled.map Prod.fst
    rw [map_map, map_map] at hmap
    exact hmap
  rw [hfds.nodup_iff]
  exact h.once.sublist (filter_sublist.map _)

/-- One more entry comes to the array, which is large enough for it. -/
theorem enableFd_eq {ev : DltEventHandler} (hle : ev.pfd.length ≤ ev.maxNfds) (hroom : 0 < ev.maxNfds) (fd : ℤ)
    (mask : ℕ) : ∃ maxNfds, ev.pfd.length + 1 ≤ maxNfds ∧
      dltEventHandlerEnableFd true ev fd mask =
        { pfd := ev.pfd ++ [{ fd, events := mask, revents := 0 }], maxNfds, connections := ev.connections } := by
  unfold dltEventHandlerEnableFd
  dsimp only
  rw [if_neg fun h => h.2 rfl]
  refine ⟨_, ?_, rfl⟩
  split_ifs <;> omega

theorem found_of_listed {ev : DltEventHandler} {registered : List DltConnection} (h : ev.connections = registered)
    (fd : ℤ) : dltEventHandlerFindConnection ev fd = registered.find? fun con => con.fd = fd := by
  rw [dltEventHandlerFindConnection, h]

section

variable (h : EventKept s)
include h

/-- **A connection is registered.** -/
theorem eventKept_register (fd : ℤ) (type : DltConnectionType) (mask : ℕ)
    (hnew : ∀ con ∈ s.registered, con.fd ≠ fd) : EventKept (eventStep s (.register fd type mask)) := by
  let con : DltConnection := { fd, type, status := .active, evMask := mask }
  let added : DltEventHandler := { s.ev with connections := s.ev.connections ++ [{ con with status := .inactive }] }
  obtain ⟨maxNfds, hmax, henable⟩ := enableFd_eq (show added.pfd.length ≤ added.maxNfds from h.bounded) h.room fd mask
  have hlisted : (s.ev.connections ++ [{ con with status := .inactive }]).set s.ev.connections.length con =
      s.registered ++ [con] := by
    rw [set_split, h.listed]
  have hstep : eventStep s (.register fd type mask) =
      { ev :=
          { pfd := s.ev.pfd ++ [{ fd, events := mask, revents := 0 }], maxNfds, connections := s.registered ++ [con] }
        clientConnections := if type.isClient then s.clientConnections + 1 else s.clientConnections
        registered := s.registered ++ [con] } := by
    unfold eventStep dltEventHandlerRegisterConnection dltConnectionActivate
    dsimp only
    rw [henable]
    exact congrArg (fun connections => EventState.mk ⟨_, maxNfds, connections⟩ _ _) hlisted
  rw [hstep]
  refine ⟨⟨rfl, ?_, ?_, ?_, ?_, fun _ => rfl⟩, ?_⟩
  · show ((s.registered ++ [con]).map DltConnection.fd).Nodup
    rw [map_append, nodup_append]
    refine ⟨h.once, nodup_singleton _, ?_⟩
    intro fd' hin fd'' hin'
    obtain ⟨other, hother, rfl⟩ := mem_map.mp hin
    rw [mem_singleton.mp hin']
    exact hnew other hother
  · show ((s.ev.pfd ++ [_]).map _).Perm ((activeOnes (s.registered ++ [con])).map entry)
    rw [activeOnes, filter_append, map_append, map_append]
    exact h.polled.append_right _
  · show (s.ev.pfd ++ [_]).length ≤ maxNfds
    rw [length_append]
    exact hmax
  · show (if type.isClient then s.clientConnections + 1 else s.clientConnections) =
      ((s.registered ++ [con]).countP _ : ℕ)
    rw [countP_append, h.counted]
    cases hclient : type.isClient <;> simp [con, hclient]
  · exact Nat.lt_of_lt_of_le (Nat.succ_pos _) hmax

/-- **A connection is unregistered.** -/
theorem eventKept_unregister (fd : ℤ) : EventKept (eventStep s (.unregister fd)) := by
  unfold eventStep wanted dltEventHandlerUnregisterConnection
  dsimp only
  cases hidx : s.ev.connections.findIdx? fun con => con.fd = fd with
  | none =>
    have hother : ∀ con ∈ s.registered, con.fd ≠ fd := by
      intro con hin
      have hnot := findIdx?_eq_none_iff.mp hidx con (h.listed ▸ hin)
      exact of_decide_eq_false hnot
    rw [filter_eq_self.mpr fun con hin => decide_eq_true (hother con hin)]
    exact h
  | some i =>
    obtain ⟨hlt, hmatch, -⟩ := findIdx?_eq_some_iff_getElem.mp hidx
    obtain ⟨con, hget⟩ : ∃ con, s.ev.connections[i]? = some con := ⟨_, getElem?_eq_getElem hlt⟩
    obtain rfl : con.fd = fd := by
      rw [getElem?_eq_getElem hlt] at hget
      exact Option.some.inj hget ▸ of_decide_eq_true hmatch
    dsimp only
    rw [hget]
    dsimp only
    obtain ⟨before, behind, hsplit, rfl⟩ := exists_split hget
    have hregistered : s.registered = before ++ con :: behind := h.listed.symm.trans hsplit
    have honce := h.once
    have hpolled := h.polled
    rw [hregistered] at honce hpolled
    rw [hregistered, filter_split honce]
    have hleft : ((before ++ behind).map DltConnection.fd).Nodup :=
      honce.sublist (((sublist_cons_self con behind).append_left before).map _)
    have hcount : (if con.type.isClient then max 0 (s.clientConnections - 1) else s.clientConnections) =
        ((before ++ behind).countP (·.type.isClient) : ℕ) := by
      rw [h.counted, hregistered, countP_append, countP_cons, countP_append]
      cases con.type.isClient <;> simp
      omega
    have hlisted : ∀ con' : DltConnection, (s.ev.connections.set before.length con').eraseIdx before.length =
        before ++ behind := by
      intro con'
      rw [eraseIdx_set_eq, hsplit, eraseIdx_split]
    cases hstatus : con.status with
    | active =>
      have hdisabled : ((s.ev.pfd.filter fun x => x.fd ≠ con.fd).map fun x => (x.fd, x.events)).Perm
          ((activeOnes (before ++ behind)).map entry) := by
        rw [← filter_entries honce]
        have hfilter := hpolled.filter fun x => x.1 ≠ con.fd
        rw [filter_map] at hfilter
        exact hfilter
      rw [dltConnectionDeactivate, hstatus, dltEventHandlerDisableFd_eq h.nodup_entries]
      refine ⟨⟨hlisted _, hleft, hdisabled, ?_, hcount, found_of_listed (hlisted _)⟩, h.room⟩
      exact Nat.le_trans (length_filter_le _ _) h.bounded
    | inactive =>
      rw [activeOnes_inactive hstatus] at hpolled
      rw [dltConnectionDeactivate, hstatus]
      have hlisted : s.ev.connections.eraseIdx before.length = before ++ behind := by
        rw [hsplit, eraseIdx_split]
      exact ⟨⟨hlisted, hleft, hpolled, h.bounded, hcount, found_of_listed hlisted⟩, h.room⟩

theorem eventKept_status {before behind : List DltConnection} {con : DltConnection}
    (hregistered : s.registered = before ++ con :: behind) (status : DltConnectionStatus) {pfd : List Pollfd}
    {maxNfds : ℕ} (hpolled : (pfd.map fun x => (x.fd, x.events)).Perm
      ((activeOnes (before ++ { con with status } :: behind)).map entry))
    (hbounded : pfd.length ≤ maxNfds) (hroom : 0 < maxNfds) :
    EventKept ⟨⟨pfd, maxNfds, before ++ { con with status } :: behind⟩, s.clientConnections,
      before ++ { con with status } :: behind⟩ := by
  have honce := h.once
  have hcount := h.counted
  rw [hregistered] at honce hcount
  refine ⟨⟨rfl, ?_, hpolled, hbounded, ?_, fun _ => rfl⟩, hroom⟩
  · rw [map_append, map_cons] at honce ⊢
    exact honce
  · rw [countP_append, countP_cons] at hcount ⊢
    exact hcount

/-- **A connection is activated or deactivated.** -/
theorem eventKept_checkActivate (i : ℕ) (activate : Bool)
    (hmeets : EventOp.KeepsDescriptors s (.checkActivate i activate)) :
    EventKept (eventStep s (.checkActivate i activate)) := by
  unfold eventStep wanted dltConnectionCheckActivate
  dsimp only
  cases hget : s.ev.connections[i]? with
  | none =>
    rw [modify_eq_self (by rw [← h.listed]; exact List.getElem?_eq_none_iff.mp hget)]
    exact h
  | some con =>
    have hget' : s.registered[i]? = some con := h.listed ▸ hget
    obtain ⟨before, behind, hsplit, rfl⟩ := exists_split hget
    have hregistered : s.registered = before ++ con :: behind := h.listed.symm.trans hsplit
    have honce := h.once
    have hpolled := h.polled
    rw [hregistered] at honce hpolled
    rw [hregistered, modify_split]
    dsimp only
    -- a connection that has the status already keeps everything as it is
    have hsame : ∀ status, con.status = status →
        EventKept ⟨s.ev, s.clientConnections, before ++ { con with status } :: behind⟩ := by
      rintro _ rfl
      rw [← hregistered]
      exact h
    cases activate with
    | true =>
      rw [if_pos rfl, if_pos rfl]
      cases hstatus : con.status with
      | active =>
        rw [dltConnectionActivate, hstatus]
        exact hsame .active hstatus
      | inactive =>
        obtain ⟨maxNfds, hmax, henable⟩ := enableFd_eq h.bounded h.room con.fd con.evMask
        rw [dltConnectionActivate, hstatus]
        dsimp only
        rw [henable]
        dsimp only
        rw [hsplit, set_split]
        refine eventKept_status h hregistered .active ?_ ?_ (Nat.lt_of_lt_of_le (Nat.succ_pos _) hmax)
        · have hperm : ((activeOnes (before ++ { con with status := .active } :: behind)).map
              entry).Perm
              (con.entry :: (activeOnes (before ++ behind)).map entry) :=
            (activeOnes_active rfl).map entry
          rw [activeOnes_inactive hstatus] at hpolled
          rw [map_append]
          exact ((hpolled.append_right _).trans (perm_append_singleton _ _)).trans hperm.symm
        · rw [length_append]
          exact hmax
    | false =>
      rw [if_neg Bool.false_ne_true, if_neg Bool.false_ne_true]
      cases hstatus : con.status with
      | inactive =>
        rw [dltConnectionDeactivate, hstatus]
        exact hsame .inactive hstatus
      | active =>
        have htype : con.type ≠ .clientConnect := by
          intro htype
          have hinactive := hmeets rfl con hget' htype
          rw [hstatus] at hinactive
          exact absurd hinactive (by decide)
        rw [dltConnectionDeactivate, hstatus]
        dsimp only
        rw [dltEventHandlerDisableFd_eq h.nodup_entries, if_neg htype]
        dsimp only
        rw [hsplit, set_split]
        refine eventKept_status h hregistered .inactive ?_ ?_ h.room
        · have hinactive : activeOnes (before ++ { con with status := .inactive } :: behind) =
              activeOnes (before ++ behind) := activeOnes_inactive rfl
          rw [hinactive, ← filter_entries honce]
          have hfilter := hpolled.filter fun x => x.1 ≠ con.fd
          rw [filter_map] at hfilter
          exact hfilter
        · exact Nat.le_trans (length_filter_le _ _) h.bounded

end

end steps

/-! ## Runs -/

theorem eventKept_step {s : EventState} (h : EventKept s) (op : EventOp)
    (hmeets : op.Allowed s ∧ op.KeepsDescriptors s) : EventKept (eventStep s op) := by
  cases op with
  | register fd type mask => exact eventKept_register h fd type mask hmeets.1.2
  | unregister fd => exact eventKept_unregister h fd
  | checkActivate i activate => exact eventKept_checkActivate h i activate hmeets.2

/-- **The views of the event handler agree**: in every run whose operations keep the descriptors of the connections
that wait for clients, the list, the array, the counter and the search agree in every state. -/
theorem event_handler_views {s : EventState}
    (h : Reach (· = EventState.start) eventStep (fun s op => op.Allowed s ∧ op.KeepsDescriptors s) s) : Views s := by
  have hkept : EventKept s := by
    apply h.invariant
    · rintro _ rfl
      exact ⟨⟨rfl, nodup_nil, List.Perm.refl _, Nat.zero_le _, rfl, fun _ => rfl⟩, Nat.succ_pos _⟩
    · exact fun s op hs hop => eventKept_step hs op hop
  exact hkept.toViews

/-- A run on fixed operations. -/
def eventsAfter (ops : List EventOp) : EventState := ops.foldl eventStep EventState.start

/-- A client connects and is deactivated, an application connects, and the client is activated again. -/
theorem event_handler_views_sample :
    Views (eventsAfter [.register 4 .clientMsgTcp 1, .checkActivate 0 false, .register 7 .appMsg 1,
        .checkActivate 0 true]) ∧
      (eventsAfter [.register 4 .clientMsgTcp 1, .checkActivate 0 false, .register 7 .appMsg 1,
        .checkActivate 0 true]).ev.pfd.map Pollfd.fd = [7, 4] := by
  have hclient : (register 4 .clientMsgTcp 1).Allowed (eventsAfter []) ∧
      (register 4 .clientMsgTcp 1).KeepsDescriptors (eventsAfter []) :=
    ⟨⟨by decide, fun con hin => absurd hin not_mem_nil⟩, trivial⟩
  have hoff : (checkActivate 0 false).Allowed (eventsAfter [.register 4 .clientMsgTcp 1]) ∧
      (checkActivate 0 false).KeepsDescriptors (eventsAfter [.register 4 .clientMsgTcp 1]) := by
    refine ⟨trivial, fun _ con hget htype => ?_⟩
    obtain rfl := Option.some.inj hget
    exact absurd htype (by decide)
  have happ : (register 7 .appMsg 1).Allowed
        (eventsAfter [.register 4 .clientMsgTcp 1, .checkActivate 0 false]) ∧
      (register 7 .appMsg 1).KeepsDescriptors
        (eventsAfter [.register 4 .clientMsgTcp 1, .checkActivate 0 false]) := by
    refine ⟨⟨by decide, fun con hin => ?_⟩, trivial⟩
    obtain rfl := mem_singleton.mp hin
    decide
  have hon : (checkActivate 0 true).Allowed
        (eventsAfter [.register 4 .clientMsgTcp 1, .checkActivate 0 false, .register 7 .appMsg 1]) ∧
      (checkActivate 0 true).KeepsDescriptors
        (eventsAfter [.register 4 .clientMsgTcp 1, .checkActivate 0 false, .register 7 .appMsg 1]) :=
    ⟨trivial, fun hfalse => absurd hfalse (by decide)⟩
  have hstart : Reach (· = EventState.start) eventStep (fun s op => op.Allowed s ∧ op.KeepsDescriptors s)
      (eventsAfter []) := .start rfl
  exact ⟨event_handler_views ((((hstart.step hclient).step hoff).step happ).step hon), by decide⟩

/-- The connection that waits for TCP clients is deactivated. It loses its descriptor, is not found any more, and stays
in the list when it is unregistered. -/
theorem deactivated_listener_stays :
    Reach (· = EventState.start) eventStep (fun s op => op.Allowed s)
        (eventsAfter [.register 4 .clientConnect 1, .checkActivate 0 false, .unregister 4]) ∧
      ¬ Views (eventsAfter [.register 4 .clientConnect 1, .checkActivate 0 false, .unregister 4]) ∧
      ¬ Views (eventsAfter [.register 4 .clientConnect 1, .checkActivate 0 false]) := by
  have hlistener : (register 4 .clientConnect 1).Allowed (eventsAfter []) :=
    ⟨by decide, fun con hin => absurd hin not_mem_nil⟩
  have hoff : (checkActivate 0 false).Allowed (eventsAfter [.register 4 .clientConnect 1]) := trivial
  have hgone : (unregister 4).Allowed
      (eventsAfter [.register 4 .clientConnect 1, .checkActivate 0 false]) := trivial
  have hstart : Reach (· = EventState.start) eventStep (fun s op => op.Allowed s) (eventsAfter []) := .start rfl
  refine ⟨((hstart.step hlistener).step hoff).step hgone, ?_, ?_⟩
  · intro h
    exact absurd h.listed (by decide)
  · intro h
    exact absurd h.listed (by decide)

end Dlt.Daemon
