import Mathlib.Data.List.Nodup
import Mathlib.Data.Int.Notation

/-!
# The event handler

* `DltEventHandler.Consistent` — **entries and active connections correspond one to one**.
-/

namespace Dlt.Daemon

open List

variable {i : ℕ} {con : DltConnection}

/-! ## Data -/

/-- Source: `dlt_daemon_connection_types.h`, `DltConnectionType` -/
inductive DltConnectionType
  /-- `DLT_CONNECTION_CLIENT_CONNECT`, where TCP clients connect. -/
  | clientConnect
  /-- `DLT_CONNECTION_CLIENT_MSG_TCP`. -/
  | clientMsgTcp
  /-- `DLT_CONNECTION_CLIENT_MSG_SERIAL`. -/
  | clientMsgSerial
  /-- `DLT_CONNECTION_APP_CONNECT`. -/
  | appConnect
  /-- `DLT_CONNECTION_APP_MSG`. -/
  | appMsg
  /-- `DLT_CONNECTION_ONE_S_TIMER`. -/
  | oneSTimer
  /-- `DLT_CONNECTION_SIXTY_S_TIMER`. -/
  | sixtySTimer
  /-- `DLT_CONNECTION_SYSTEMD_TIMER`. -/
  | systemdTimer
  /-- `DLT_CONNECTION_CONTROL_CONNECT`, where control clients connect. -/
  | controlConnect
  /-- `DLT_CONNECTION_CONTROL_MSG`. -/
  | controlMsg
  /-- `DLT_CONNECTION_GATEWAY`, a passive node. -/
  | gateway
  /-- `DLT_CONNECTION_GATEWAY_TIMER`. -/
  | gatewayTimer
deriving DecidableEq, Repr

/-- A TCP or a serial client: the connections that are counted, and that messages for all clients go to.
Source: `dlt_daemon_client.c`, `type_mask` -/
def DltConnectionType.isClient : DltConnectionType → Bool
  | .clientMsgTcp => true
  | .clientMsgSerial => true
  | _ => false

/-- Source: `dlt_daemon_connection_types.h`, `DltConnectionStatus` -/
inductive DltConnectionStatus
  /-- `INACTIVE`, excluded from `poll`. -/
  | inactive
  /-- `ACTIVE`. -/
  | active
deriving DecidableEq, Repr

/-- A connection, which has a receiver as long as it is registered.
Source: `DltConnection` -/
structure DltConnection where
  /-- `receiver->fd`. -/
  fd : ℤ
  type : DltConnectionType
  status : DltConnectionStatus
  evMask : ℕ
deriving DecidableEq, Repr

/-- An entry of the array that `poll` reads. Source: `poll.h`, `struct pollfd` -/
structure Pollfd where
  fd : ℤ
  events : ℕ
  revents : ℕ
deriving DecidableEq, Repr

/-- The event handler. Its array is given by the first `nfds` entries; those behind are initialised.
Source: `dlt_daemon_event_handler_types.h`, `DltEventHandler` -/
structure DltEventHandler where
  pfd : List Pollfd
  maxNfds : ℕ
  connections : List DltConnection
deriving DecidableEq, Repr

open DltEventHandler

/-! ## The array -/

/-- Source: `dlt_daemon_event_handler.c`, `init_poll_fd` -/
def initPollFd : Pollfd := { fd := -1, events := 0, revents := 0 }

/-- `grown`: the array can be made larger.
Source: `dlt_event_handler_enable_fd` -/
def dltEventHandlerEnableFd (grown : Bool) (ev : DltEventHandler) (fd : ℤ) (mask : ℕ) : DltEventHandler :=
  let max := if ev.maxNfds ≤ ev.pfd.length then 2 * ev.maxNfds else ev.maxNfds
  if ev.maxNfds ≤ ev.pfd.length ∧ ¬ grown then ev
  else { ev with pfd := ev.pfd ++ [{ fd, events := mask, revents := 0 }], maxNfds := max }

/-- The loop over the next `k` entries: `i` is the entry, `j` the one that moves to its place, `nfds` the
number of entries that remain. Source: `dlt_event_handler_disable_fd` -/
def disableFdFrom (fd : ℤ) : ℕ → ℕ → ℕ → ℕ → List Pollfd → List Pollfd × ℕ
  | 0, _, _, nfds, pfd => (pfd, nfds)
  | k + 1, i, j, nfds, pfd =>
    let found := (pfd.getD i initPollFd).fd = fd
    let j := if found then j + 1 else j
    let nfds := if found then nfds - 1 else nfds
    let pfd := if found then pfd.set i initPollFd else pfd
    let pfd :=
      if i = j then pfd
      else if i < nfds then pfd.set i (pfd.getD j initPollFd)
      else pfd.set i initPollFd
    disableFdFrom fd k (i + 1) (j + 1) nfds pfd

/-- Source: `dlt_event_handler_disable_fd` -/
def dltEventHandlerDisableFd (ev : DltEventHandler) (fd : ℤ) : DltEventHandler :=
  let loop := disableFdFrom fd ev.pfd.length 0 0 ev.pfd.length ev.pfd
  { ev with pfd := loop.1.take loop.2 }

/-! ## The connections -/

/-- Source: `dlt_event_handler_find_connection` -/
def dltEventHandlerFindConnection (ev : DltEventHandler) (fd : ℤ) : Option DltConnection :=
  ev.connections.find? fun con => con.fd = fd

/-- The connection is given by its index. It is not deactivated while it stays registered.
Source: `dlt_connection_check_activate` -/
def dltConnectionDeactivate (ev : DltEventHandler) (i : ℕ) (con : DltConnection) : DltEventHandler :=
  match con.status with
  | .active =>
      let ev := dltEventHandlerDisableFd ev con.fd
      let fd := if con.type = .clientConnect then -1 else con.fd
      { ev with connections := ev.connections.set i { con with fd, status := .inactive } }
  | .inactive => ev

/-- Source: `dlt_connection_check_activate` -/
def dltConnectionActivate (grown : Bool) (ev : DltEventHandler) (i : ℕ) (con : DltConnection) :
    DltEventHandler :=
  match con.status with
  | .active => ev
  | .inactive =>
      let ev := dltEventHandlerEnableFd grown ev con.fd con.evMask
      { ev with connections := ev.connections.set i { con with status := .active } }

/-- The connection and its count. Source: `dlt_event_handler_register_connection` -/
def dltEventHandlerRegisterConnection (grown : Bool) (ev : DltEventHandler) (clientConnections : ℤ)
    (fd : ℤ) (type : DltConnectionType) (mask : ℕ) : DltEventHandler × ℤ :=
  let con : DltConnection := { fd, type, status := .inactive, evMask := mask }
  let count := if type.isClient then clientConnections + 1 else clientConnections
  (dltConnectionActivate grown { ev with connections := ev.connections ++ [con] } ev.connections.length con,
    count)

/-- The result is `-1` when there is no such connection.
Source: `dlt_event_handler_unregister_connection` and
`dlt_daemon_remove_connection` -/
def dltEventHandlerUnregisterConnection (ev : DltEventHandler) (clientConnections : ℤ) (fd : ℤ) :
    (DltEventHandler × ℤ) × ℤ :=
  match ev.connections.findIdx? fun con => con.fd = fd with
  | none => ((ev, clientConnections), -1)
  | some i =>
    match ev.connections[i]? with
    | none => ((ev, clientConnections), -1)
    | some con =>
      let count := if con.type.isClient then max 0 (clientConnections - 1) else clientConnections
      let ev := dltConnectionDeactivate ev i con
      (({ ev with connections := ev.connections.eraseIdx i }, count), 0)

/-! ## What happens to the array -/

theorem eraseIdx_eq_filter {α β : Type*} [DecidableEq β] {f : α → β} {xs : List α} {b : β} {x : α}
    (hx : xs[i]? = some x) (hb : f x = b) (honly : ∀ j y, xs[j]? = some y → f y = b → j = i) :
    xs.eraseIdx i = xs.filter fun y => f y ≠ b := by
  obtain ⟨hlt, rfl⟩ := List.getElem?_eq_some_iff.mp hx
  have hsplit : xs = xs.take i ++ xs[i] :: xs.drop (i + 1) := by
    rw [← drop_eq_getElem_cons hlt, take_append_drop]
  have hkeepTake : (xs.take i).filter (fun y => f y ≠ b) = xs.take i := by
    apply filter_eq_self.mpr
    intro y hy
    obtain ⟨j, hj⟩ := mem_iff_getElem?.mp hy
    rw [getElem?_take] at hj
    split_ifs at hj with hji
    exact decide_eq_true fun heq => absurd (honly j y hj heq) (by omega)
  have hkeepDrop : (xs.drop (i + 1)).filter (fun y => f y ≠ b) = xs.drop (i + 1) := by
    apply filter_eq_self.mpr
    intro y hy
    obtain ⟨j, hj⟩ := mem_iff_getElem?.mp hy
    rw [getElem?_drop] at hj
    exact decide_eq_true fun heq => absurd (honly _ y hj heq) (by omega)
  rw [eraseIdx_eq_take_drop_succ]
  conv_rhs => rw [hsplit]
  rw [filter_append, filter_cons_of_neg (by simpa using hb), hkeepTake, hkeepDrop]

section disable

variable {fd : ℤ}

theorem shift_entry {n : ℕ} {pfd : List Pollfd} (hlength : pfd.length = n + 1) (hi : i ≤ n) :
    ((if i < n then pfd.set i (pfd.getD (i + 1) initPollFd) else pfd.set i initPollFd).eraseIdx
      (i + 1)).take n = pfd.eraseIdx i := by
  apply ext_getElem?
  intro j
  rw [getElem?_take, getElem?_eraseIdx, getElem?_eraseIdx]
  by_cases hj : j < n
  · rw [if_pos hj]
    by_cases hji : j < i
    · rw [if_pos (by omega), if_pos hji]
      split_ifs <;> rw [getElem?_set_ne (by omega)]
    · rw [if_neg hji, if_pos (by omega : i < n)]
      by_cases heq : j = i
      · have hlt : i + 1 < pfd.length := by omega
        rw [if_pos (by omega), heq, getElem?_set_self (by omega), getD_eq_getElem?_getD,
          getElem?_eq_getElem hlt, Option.getD_some]
      · rw [if_neg (by omega), getElem?_set_ne (by omega)]
  · rw [if_neg hj, if_neg (by omega), getElem?_eq_none (by omega)]

/-- Behind the entry that is removed every entry moves one place to the front. -/
theorem disableFdFrom_shift (k : ℕ) : ∀ (i n : ℕ) (pfd : List Pollfd), pfd.length = n + 1 → i + k = n + 1 →
    (∀ j x, i ≤ j → pfd[j]? = some x → x.fd ≠ fd) →
    (disableFdFrom fd k i (i + 1) n pfd).1.take n = (pfd.eraseIdx i).take n ∧
      (disableFdFrom fd k i (i + 1) n pfd).2 = n := by
  induction k with
  | zero =>
    intro i n pfd hlength hi _
    rw [eraseIdx_of_length_le (by omega)]
    exact ⟨rfl, rfl⟩
  | succ k ih =>
    intro i n pfd hlength hi hother
    have hlt : i < pfd.length := by omega
    have hne : ¬ (pfd.getD i initPollFd).fd = fd := by
      rw [getD_eq_getElem?_getD, getElem?_eq_getElem hlt]
      exact hother i _ (Nat.le_refl i) (getElem?_eq_getElem hlt)
    unfold disableFdFrom
    simp only [if_neg hne, if_neg (show ¬ i = i + 1 by omega)]
    have hnext : ∀ y, (disableFdFrom fd k (i + 1) (i + 1 + 1) n (pfd.set i y)).1.take n =
        ((pfd.set i y).eraseIdx (i + 1)).take n ∧
        (disableFdFrom fd k (i + 1) (i + 1 + 1) n (pfd.set i y)).2 = n := by
      intro y
      apply ih (i + 1) n _ (by rw [length_set, hlength]) (by omega)
      intro j x hj hx
      rw [getElem?_set_ne (by omega)] at hx
      exact hother j x (by omega) hx
    have hshift := shift_entry hlength (show i ≤ n by omega)
    rw [take_of_length_le (show (pfd.eraseIdx i).length ≤ n by
      rw [length_eraseIdx_of_lt hlt]; omega)]
    split_ifs at hshift ⊢
    · exact ⟨(hnext _).1.trans hshift, (hnext _).2⟩
    · exact ⟨(hnext _).1.trans hshift, (hnext _).2⟩

theorem disableFdFrom_filter (k : ℕ) : ∀ (i : ℕ) (pfd : List Pollfd), (pfd.map Pollfd.fd).Nodup →
    i + k = pfd.length → (∀ j x, j < i → pfd[j]? = some x → x.fd ≠ fd) →
    (disableFdFrom fd k i i pfd.length pfd).1.take (disableFdFrom fd k i i pfd.length pfd).2 =
      pfd.filter fun x => x.fd ≠ fd := by
  induction k with
  | zero =>
    intro i pfd _ hi hother
    unfold disableFdFrom
    rw [take_length, eq_comm, filter_eq_self]
    intro x hx
    obtain ⟨j, hj⟩ := mem_iff_getElem?.mp hx
    have hlt := (List.getElem?_eq_some_iff.mp hj).1
    exact decide_eq_true (hother j x (by omega) hj)
  | succ k ih =>
    intro i pfd hnodup hi hother
    have hlt : i < pfd.length := by omega
    have hget := getElem?_eq_getElem hlt
    have hgetD : pfd.getD i initPollFd = pfd[i] := by
      rw [getD_eq_getElem?_getD, hget, Option.getD_some]
    by_cases hfound : pfd[i].fd = fd
    · -- the loop goes on as if this entry were one behind the removed one
      obtain ⟨n, hn⟩ : ∃ n, pfd.length = n + 1 := ⟨pfd.length - 1, by omega⟩
      have honly : ∀ j x, pfd[j]? = some x → x.fd = fd → j = i := by
        intro j x hx heq
        symm
        apply (getElem?_inj (by simpa using hlt) hnodup).mp
        rw [getElem?_map, getElem?_map, hget, hx, Option.map_some, Option.map_some, hfound, heq]
      have hnext : ∀ y, (disableFdFrom fd k (i + 1) (i + 1 + 1) n (pfd.set i y)).1.take n =
          ((pfd.set i y).eraseIdx (i + 1)).take n ∧
          (disableFdFrom fd k (i + 1) (i + 1 + 1) n (pfd.set i y)).2 = n := by
        intro y
        apply disableFdFrom_shift k (i + 1) n _ (by rw [length_set, hn]) (by omega)
        intro j x hj hx
        rw [getElem?_set_ne (by omega)] at hx
        exact fun heq => absurd (honly j x hx heq) (by omega)
      have hshift := shift_entry hn (show i ≤ n by omega)
      rw [← eraseIdx_eq_filter hget hfound honly, ← hshift]
      unfold disableFdFrom
      have hmoved : (pfd.set i initPollFd).getD (i + 1) initPollFd = pfd.getD (i + 1) initPollFd := by
        rw [getD_eq_getElem?_getD, getD_eq_getElem?_getD, getElem?_set_ne (by omega)]
      simp only [hgetD, if_pos hfound, if_neg (show ¬ i = i + 1 by omega), set_set, hn,
        Nat.add_sub_cancel, hmoved]
      split_ifs
      · rw [(hnext _).2, (hnext _).1]
      · rw [(hnext _).2, (hnext _).1]
    · unfold disableFdFrom
      simp only [hgetD, if_neg hfound, if_true]
      apply ih (i + 1) pfd hnodup (by omega)
      intro j x hj hx
      rcases Nat.lt_succ_iff_lt_or_eq.mp hj with hj | rfl
      · exact hother j x hj hx
      · obtain ⟨_, rfl⟩ := List.getElem?_eq_some_iff.mp hx
        exact hfound

end disable

/-- **The entry of a descriptor is removed**, and no other. -/
theorem dltEventHandlerDisableFd_eq {ev : DltEventHandler} (hnodup : (ev.pfd.map Pollfd.fd).Nodup)
    (fd : ℤ) :
    dltEventHandlerDisableFd ev fd = { ev with pfd := ev.pfd.filter fun x => x.fd ≠ fd } := by
  unfold dltEventHandlerDisableFd
  rw [← disableFdFrom_filter ev.pfd.length 0 ev.pfd hnodup (Nat.zero_add _)
    fun j x hj => absurd hj (Nat.not_lt_zero j)]

/-! ## Entries and connections -/

def DltEventHandler.active (ev : DltEventHandler) : List DltConnection :=
  ev.connections.filter fun con => con.status = .active

/-- **The entries and the active connections correspond one to one**, and no connection has the
descriptor of an active one. -/
structure DltEventHandler.Consistent (ev : DltEventHandler) : Prop where
  nodup : (ev.active.map DltConnection.fd).Nodup
  entries : (ev.pfd.map Pollfd.fd).Perm (ev.active.map DltConnection.fd)
  apart : ∀ con ∈ ev.connections, con.status = .inactive → ∀ con' ∈ ev.active, con.fd ≠ con'.fd

namespace DltEventHandler

variable {ev : DltEventHandler} {fd : ℤ}

theorem mem_active : con ∈ ev.active ↔ con ∈ ev.connections ∧ con.status = .active := by
  unfold active
  rw [mem_filter, decide_eq_true_iff]

theorem Consistent.nodup_entries (h : ev.Consistent) : (ev.pfd.map Pollfd.fd).Nodup :=
  h.entries.nodup_iff.mpr h.nodup

/-- Two connections of which one is active have different descriptors. -/
theorem Consistent.eq_of_fd (h : ev.Consistent) {con' : DltConnection} (hcon : con ∈ ev.active)
    (hcon' : con' ∈ ev.connections) (hfd : con'.fd = con.fd) : con' = con := by
  cases hstatus : con'.status with
  | inactive => exact absurd hfd (h.apart con' hcon' hstatus con hcon)
  | active => exact inj_on_of_nodup_map h.nodup (mem_active.mpr ⟨hcon', hstatus⟩) hcon hfd

/-- **The connection of an active descriptor is found.** -/
theorem Consistent.find (h : ev.Consistent) (hcon : con ∈ ev.active) :
    dltEventHandlerFindConnection ev con.fd = some con := by
  unfold dltEventHandlerFindConnection
  cases hfind : ev.connections.find? fun c => c.fd = con.fd with
  | none =>
    have hnot := find?_eq_none.mp hfind con (mem_active.mp hcon).1
    exact absurd (decide_eq_true rfl) hnot
  | some con' =>
    have hsome := find?_some hfind
    have hfd : con'.fd = con.fd := of_decide_eq_true hsome
    rw [h.eq_of_fd hcon (mem_of_find?_eq_some hfind) hfd]

theorem Consistent.connection (h : ev.Consistent) {x : Pollfd} (hx : x ∈ ev.pfd) :
    ∃ con ∈ ev.active, con.fd = x.fd :=
  mem_map.mp (h.entries.mem_iff.mp (mem_map_of_mem hx))

/-- Without some descriptors. -/
def dropping (ev : DltEventHandler) (gone : ℤ → Bool) : DltEventHandler :=
  { ev with
    pfd := ev.pfd.filter fun x => !gone x.fd
    connections := ev.connections.filter fun con => !gone con.fd }

def without (ev : DltEventHandler) (fd : ℤ) : DltEventHandler := ev.dropping fun x => x = fd

theorem dropping_dropping (gone gone' : ℤ → Bool) :
    (ev.dropping gone).dropping gone' = ev.dropping fun fd => gone fd || gone' fd := by
  unfold dropping
  simp only [filter_filter, Bool.not_or, Bool.and_comm]

theorem dropping_false : ev.dropping (fun _ => false) = ev := by
  unfold dropping
  simp

theorem mem_active_dropping {gone : ℤ → Bool} :
    con ∈ (ev.dropping gone).active ↔ con ∈ ev.active ∧ gone con.fd = false := by
  rw [mem_active, mem_active]
  show con ∈ ev.connections.filter _ ∧ _ ↔ _
  rw [mem_filter, Bool.not_eq_true']
  tauto

theorem active_dropping (gone : ℤ → Bool) :
    (ev.dropping gone).active = ev.active.filter fun con => !gone con.fd := by
  show List.filter _ (List.filter _ _) = List.filter _ (List.filter _ _)
  rw [filter_comm]

theorem Consistent.dropping (h : ev.Consistent) (gone : ℤ → Bool) : (ev.dropping gone).Consistent := by
  have hmap : ∀ {α : Type} (f : α → ℤ) (xs : List α),
      (xs.filter fun x => !gone (f x)).map f = (xs.map f).filter fun y => !gone y := by
    intro α f xs
    rw [filter_map]
    rfl
  constructor
  · rw [active_dropping, hmap]
    exact h.nodup.filter _
  · rw [active_dropping, hmap,
      show (ev.dropping gone).pfd = ev.pfd.filter fun x => !gone x.fd from rfl, hmap]
    exact h.entries.filter _
  · intro con hcon hstatus con' hcon'
    exact h.apart con (mem_of_mem_filter hcon) hstatus con' (mem_active_dropping.mp hcon').1

/-! ## The connections in the order of their entries -/

/-- The connections of the entries. -/
def polled (ev : DltEventHandler) : List DltConnection :=
  ev.pfd.filterMap fun x => dltEventHandlerFindConnection ev x.fd

theorem findConnection_fd (h : dltEventHandlerFindConnection ev fd = some con) : con.fd = fd := by
  have hsome := find?_some h
  exact of_decide_eq_true hsome

section

variable (h : ev.Consistent)
include h

theorem Consistent.polled_getElem? (i : ℕ) :
    ev.polled[i]? = ev.pfd[i]?.bind fun x => dltEventHandlerFindConnection ev x.fd := by
  have hsome : ∀ x ∈ ev.pfd, ∃ con, dltEventHandlerFindConnection ev x.fd = some con := by
    intro x hx
    obtain ⟨con, hcon, hfd⟩ := h.connection hx
    exact ⟨con, hfd ▸ h.find hcon⟩
  unfold polled
  generalize ev.pfd = pfd at hsome ⊢
  induction pfd generalizing i with
  | nil => simp
  | cons x pfd ih =>
    obtain ⟨con, hcon⟩ := hsome x mem_cons_self
    rw [filterMap_cons, hcon]
    cases i with
    | zero => simp [hcon]
    | succ i =>
      rw [getElem?_cons_succ, getElem?_cons_succ]
      exact ih i fun y hy => hsome y (mem_cons_of_mem x hy)

theorem Consistent.polled_fd : ev.polled.map DltConnection.fd = ev.pfd.map Pollfd.fd := by
  apply ext_getElem?
  intro i
  rw [getElem?_map, getElem?_map, h.polled_getElem?]
  cases hx : ev.pfd[i]? with
  | none => rfl
  | some x =>
    obtain ⟨con, hcon, hfd⟩ := h.connection (mem_of_getElem? hx)
    rw [Option.bind_some, ← hfd, h.find hcon, Option.map_some, Option.map_some, hfd]

theorem Consistent.nodup_polled : (ev.polled.map DltConnection.fd).Nodup :=
  h.polled_fd ▸ h.nodup_entries

theorem Consistent.length_polled : ev.polled.length = ev.pfd.length := by
  rw [← length_map, h.polled_fd, length_map]

theorem Consistent.mem_polled : con ∈ ev.polled ↔ con ∈ ev.active := by
  unfold polled
  rw [mem_filterMap]
  constructor
  · rintro ⟨x, hx, hfind⟩
    obtain ⟨con', hcon', hfd⟩ := h.connection hx
    rw [← hfd, h.find hcon', Option.some.injEq] at hfind
    exact hfind ▸ hcon'
  · intro hcon
    obtain ⟨x, hx, hfd⟩ := mem_map.mp (h.entries.mem_iff.mpr (mem_map_of_mem hcon))
    exact ⟨x, hx, hfd ▸ h.find hcon⟩

end

theorem polled_dropping (gone : ℤ → Bool) :
    (ev.dropping gone).polled = ev.polled.filter fun con => !gone con.fd := by
  show (ev.pfd.filter _).filterMap _ = _
  unfold polled
  rw [filterMap_filter, filter_filterMap]
  apply filterMap_congr
  intro x _
  cases hx : gone x.fd with
  | true =>
    rw [if_neg (by simp), eq_comm, Option.filter_eq_none_iff]
    intro con hcon
    rw [findConnection_fd hcon, hx]
    exact Bool.false_ne_true
  | false =>
    have hsame : dltEventHandlerFindConnection (ev.dropping gone) x.fd =
        dltEventHandlerFindConnection ev x.fd := by
      show find? _ (List.filter _ _) = find? _ _
      rw [find?_filter]
      congr 1
      funext con
      by_cases hcon : con.fd = x.fd
      · simp [hcon, hx]
      · simp [hcon]
    rw [if_pos (by rfl), hsame]
    cases hfind : dltEventHandlerFindConnection ev x.fd with
    | none => rfl
    | some con =>
      rw [Option.filter_some, if_pos]
      rw [findConnection_fd hfind, hx]
      rfl

/-! ## Unregistering -/

/-- **An active connection is found at one position**, and no other connection has its descriptor. -/
theorem Consistent.position (h : ev.Consistent) (hcon : con ∈ ev.active) :
    ∃ i, (ev.connections.findIdx? fun c => c.fd = con.fd) = some i ∧ ev.connections[i]? = some con ∧
      ∀ j c, ev.connections[j]? = some c → c.fd = con.fd → j = i := by
  have hmem := mem_active.mp hcon
  obtain ⟨i, hi⟩ : ∃ i, (ev.connections.findIdx? fun c => c.fd = con.fd) = some i := by
    apply Option.isSome_iff_exists.mp
    rw [findIdx?_isSome, any_eq_true]
    exact ⟨con, hmem.1, decide_eq_true rfl⟩
  obtain ⟨hlt, hfd, -⟩ := findIdx?_eq_some_iff_getElem.mp hi
  have hcon' : ev.connections[i] = con := h.eq_of_fd hcon (getElem_mem hlt) (of_decide_eq_true hfd)
  refine ⟨i, hi, by rw [getElem?_eq_getElem hlt, hcon'], fun j c hc heq => ?_⟩
  obtain ⟨hltj, hcj⟩ := List.getElem?_eq_some_iff.mp hc
  have hcc : ev.connections[j] = con := by
    rw [hcj]
    exact h.eq_of_fd hcon (mem_of_getElem? hc) heq
  have hpairs := h.nodup
  unfold active at hpairs
  rw [List.Nodup, pairwise_map, pairwise_filter, pairwise_iff_getElem] at hpairs
  have hactive : decide (con.status = .active) = true := decide_eq_true hmem.2
  rcases Nat.lt_trichotomy j i with hji | hji | hji
  · exact absurd rfl (hcon' ▸ hcc ▸ hpairs j i hltj hlt hji (hcc ▸ hactive) (hcon' ▸ hactive))
  · exact hji
  · exact absurd rfl (hcon' ▸ hcc ▸ hpairs i j hlt hltj hji (hcon' ▸ hactive) (hcc ▸ hactive))

theorem without_connections (hget : ev.connections[i]? = some con)
    (honly : ∀ j c, ev.connections[j]? = some c → c.fd = con.fd → j = i) :
    (ev.without con.fd).connections = ev.connections.eraseIdx i := by
  rw [eraseIdx_eq_filter hget rfl honly]
  show List.filter _ _ = List.filter _ _
  congr 1
  funext c
  exact decide_not.symm

theorem Consistent.countP_without (h : ev.Consistent) (hcon : con ∈ ev.active) {p : DltConnection → Bool}
    (hp : p con = true) : ev.connections.countP p = (ev.without con.fd).connections.countP p + 1 := by
  obtain ⟨i, -, hget, honly⟩ := h.position hcon
  obtain ⟨hlt, rfl⟩ := List.getElem?_eq_some_iff.mp hget
  have hsplit : ev.connections = ev.connections.take i ++ ev.connections[i] :: ev.connections.drop (i + 1) := by
    rw [← drop_eq_getElem_cons hlt, take_append_drop]
  rw [without_connections hget honly, eraseIdx_eq_take_drop_succ]
  conv_lhs => rw [hsplit]
  rw [countP_append, countP_append, countP_cons_of_pos hp, Nat.add_assoc]

end DltEventHandler

/-- **Unregistering an active connection** removes it and its entry, and no other. -/
theorem dltEventHandlerUnregisterConnection_eq {ev : DltEventHandler} (h : ev.Consistent) (hcon : con ∈ ev.active)
    (clientConnections : ℤ) :
    dltEventHandlerUnregisterConnection ev clientConnections con.fd =
      ((ev.without con.fd,
        if con.type.isClient then max 0 (clientConnections - 1) else clientConnections), 0) := by
  obtain ⟨i, hi, hget, honly⟩ := h.position hcon
  have hconnections := without_connections hget honly
  unfold dltEventHandlerUnregisterConnection dltConnectionDeactivate
  simp only [hi, hget, (mem_active.mp hcon).2, dltEventHandlerDisableFd_eq h.nodup_entries,
    eraseIdx_set_eq, ← hconnections]
  simp [without, dropping]

end Dlt.Daemon
