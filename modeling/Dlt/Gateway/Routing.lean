import Dlt.Gateway.Connections

/-!
# Routing to passive nodes

* `getConnectionFrom_eq`, `connectionByPrefix_eq`, `connectionByNodeId_eq` — what the three searches find.
* `routes_iff` — **what is meant for an ECU goes to its node and to no other** if and only if the ECU is
  configured and no name in front of its own is a prefix of it.
-/

namespace Dlt.Gateway

open Dlt.Lib Dlt.Shared Dlt.Daemon List Option

variable {connections : List DltGatewayConnection} {ecu : List UInt8}

/-! ## Names -/

/-- The name of an ECU: one to four characters. -/
structure IsEcuId (text : List UInt8) : Prop where
  pos : 1 ≤ text.length
  le : text.length ≤ 4
  noZero : (0 : UInt8) ∉ text

theorem IsEcuId.idText_eq (h : IsEcuId ecu) : idText ecu = ecu := by
  unfold idText
  rw [take_of_length_le h.le, takeWhile_eq_self_iff]
  intro b hb
  exact decide_eq_true fun hzero => h.noZero (hzero ▸ hb)

theorem IsEcuId.bytes_eq (h : IsEcuId ecu) :
    (dltSetId ecu).bytes = ecu ++ List.replicate (4 - ecu.length) 0 := by
  unfold dltSetId
  simp only [h.idText_eq]

theorem strncmpEq_iff {a b : List UInt8} (ha : IsEcuId a) (hb : IsEcuId b) :
    strncmpEq (dltSetId a) (dltSetId b) = true ↔ a = b := by
  have htext : ∀ {c : List UInt8}, IsEcuId c → idText (dltSetId c).bytes = c := by
    intro c hc
    exact (idText_idText c).trans hc.idText_eq
  unfold strncmpEq
  rw [decide_eq_true_iff, htext ha, htext hb]

theorem strncmp_length {xs : List UInt8} (hxs : (0 : UInt8) ∉ xs) (rest : List UInt8) :
    ∀ ys : List UInt8, xs.length ≤ ys.length → (strncmp (xs ++ rest) ys xs.length = 0 ↔ xs <+: ys) := by
  induction xs with
  | nil =>
    intro ys _
    refine iff_of_true ?_ nil_prefix
    rw [length_nil]
    unfold strncmp
    split <;> simp_all
  | cons x xs ih =>
    rw [mem_cons, not_or] at hxs
    intro ys hlen
    cases ys with
    | nil => exact absurd hlen (by simp)
    | cons y ys =>
      rw [cons_append, length_cons, strncmp, cons_prefix_cons]
      by_cases hxy : x = y
      · rw [if_neg (not_not.mpr hxy), if_neg (Ne.symm hxs.1), ih hxs.2 ys (by simpa using hlen),
          and_iff_right hxy]
      · rw [if_pos hxy]
        apply iff_of_false
        · intro hzero
          apply hxy
          apply UInt8.toNat_inj.mp
          omega
        · exact fun h => hxy h.1

theorem strncmp_prefix_iff {a : List UInt8} (ha : IsEcuId a) (h : IsEcuId ecu) :
    strncmp (a ++ [0]) (dltSetId ecu).bytes a.length = 0 ↔ a <+: ecu := by
  rw [strncmp_length ha.noZero, h.bytes_eq]
  · constructor
    · intro hprefix
      by_cases hle : a.length ≤ ecu.length
      · exact prefix_of_prefix_length_le hprefix (prefix_append ..) hle
      · -- the name would contain a zero
        exfalso
        apply ha.noZero
        obtain ⟨rest, hrest⟩ := hprefix
        have hget := congrArg (fun l => l[ecu.length]?) hrest
        rw [getElem?_append_left (by omega), getElem?_append_right (le_refl _), Nat.sub_self,
          getElem?_replicate] at hget
        have hlt : 0 < 4 - ecu.length := by have hle' := ha.le; omega
        rw [if_pos hlt] at hget
        exact mem_of_getElem? hget
    · exact fun hprefix => hprefix.trans (prefix_append ..)
  · rw [(dltSetId ecu).length_eq]
    exact ha.le

/-! ## What is found -/

def Named (connections : List DltGatewayConnection) : Prop := ∀ con ∈ connections, IsEcuId con.ecuid

/-- The node of an ECU. -/
def nodeOf (connections : List DltGatewayConnection) (ecu : List UInt8) : Option ℕ :=
  connections.findIdx? fun con => con.ecuid = ecu

theorem findIdx?_congr {α : Type*} {p q : α → Bool} {xs : List α} (h : ∀ x ∈ xs, p x = q x) :
    xs.findIdx? p = xs.findIdx? q := by
  induction xs with
  | nil => rfl
  | cons x xs ih =>
    rw [findIdx?_cons, findIdx?_cons, h x mem_cons_self,
      ih fun y hy => h y (mem_cons_of_mem x hy)]

section

variable (hnamed : Named connections)
include hnamed

section

variable (hecu : IsEcuId ecu)
include hecu

theorem connectionByNodeId_eq : connectionByNodeId connections (dltSetId ecu) = nodeOf connections ecu := by
  apply findIdx?_congr
  intro con hcon
  rw [Bool.eq_iff_iff, strncmpEq_iff hecu (hnamed con hcon), decide_eq_true_iff]
  exact eq_comm

theorem connectionByPrefix_eq :
    connectionByPrefix connections (dltSetId ecu) = connections.findIdx? fun con => con.ecuid <+: ecu := by
  apply findIdx?_congr
  intro con hcon
  exact decide_eq_decide.mpr (strncmp_prefix_iff (hnamed con hcon) hecu)

/-- **The search that gives the last node** when there is none. -/
theorem getConnectionFrom_eq (i : ℕ) (con : Option ℕ) :
    getConnectionFrom (dltSetId ecu) connections i con =
      match nodeOf connections ecu with
      | some j => some (i + j)
      | none => if connections = [] then con else some (i + connections.length - 1) := by
  induction connections generalizing i con with
  | nil => rfl
  | cons c rest ih =>
    have hrest : Named rest := fun con' hcon' => hnamed con' (mem_cons_of_mem c hcon')
    unfold getConnectionFrom nodeOf
    rw [findIdx?_cons]
    by_cases heq : c.ecuid = ecu
    · rw [if_pos ((strncmpEq_iff (hnamed c mem_cons_self) hecu).mpr heq), decide_eq_true heq]
      rfl
    · rw [if_neg fun h => heq ((strncmpEq_iff (hnamed c mem_cons_self) hecu).mp h),
        decide_eq_false heq, if_neg Bool.false_ne_true, ih hrest]
      unfold nodeOf
      cases rest.findIdx? fun con => con.ecuid = ecu with
      | some j => exact congrArg some (show i + 1 + j = i + (j + 1) by omega)
      | none =>
        simp only [map_none, reduceCtorEq, if_false, length_cons]
        split_ifs with hnil
        · rw [hnil]
          rfl
        · exact congrArg some (by omega)

theorem dltGatewayGetConnection_eq :
    dltGatewayGetConnection connections (dltSetId ecu) =
      match nodeOf connections ecu with
      | some j => some j
      | none => if connections = [] then none else some (connections.length - 1) := by
  unfold dltGatewayGetConnection
  rw [getConnectionFrom_eq hnamed hecu]
  simp

end

end

/-! ## Operations that concern one node -/

section only

variable {s s' s'' : GatewayState} {i : ℕ}

/-- Nothing is sent to other nodes, and they do not change. -/
structure Only (i : ℕ) (s s' : GatewayState) : Prop where
  sent : ∃ new, s'.sent = new ++ s.sent ∧ ∀ m ∈ new, m.1 = i
  others : ∀ j, j ≠ i → s'.connections[j]? = s.connections[j]?

theorem Only.refl (i : ℕ) (s : GatewayState) : Only i s s :=
  ⟨⟨[], rfl, fun _ hm => absurd hm not_mem_nil⟩, fun _ _ => rfl⟩

theorem Only.trans (h : Only i s s') (h' : Only i s' s'') : Only i s s'' := by
  obtain ⟨⟨new, hnew, hall⟩, hothers⟩ := h
  obtain ⟨⟨new', hnew', hall'⟩, hothers'⟩ := h'
  refine ⟨⟨new' ++ new, by rw [hnew', hnew, append_assoc], fun m hm => ?_⟩,
    fun j hj => (hothers' j hj).trans (hothers j hj)⟩
  rcases mem_append.mp hm with hm | hm
  · exact hall' m hm
  · exact hall m hm

theorem only_send (message : NodeMessage) (s : GatewayState) : Only i s (s.send i message).1 :=
  ⟨⟨[(i, message)], rfl, fun _ hm => congrArg Prod.fst (mem_singleton.mp hm)⟩, fun _ _ => rfl⟩

theorem only_modify (f : DltGatewayConnection → DltGatewayConnection) (s : GatewayState) :
    Only i s (s.modify i f) := by
  refine ⟨⟨[], rfl, fun _ hm => absurd hm not_mem_nil⟩, fun j hj => ?_⟩
  show (s.connections.modify i f)[j]? = _
  rw [getElem?_modify]
  simp only [if_neg (Ne.symm hj)]
  cases s.connections[j]? <;> rfl

theorem only_pEvent (pEvent : DltEventHandler) (clientConnections : ℤ) (s : GatewayState) :
    Only i s { s with pEvent, clientConnections } :=
  ⟨⟨[], rfl, fun _ hm => absurd hm not_mem_nil⟩, fun _ _ => rfl⟩

theorem only_sendAll (messages : List NodeMessage) (s : GatewayState) : Only i s (sendAll i messages s).1 := by
  induction messages generalizing s with
  | nil => exact .refl i s
  | cons message rest ih =>
    unfold sendAll
    dsimp only
    split_ifs
    · exact (only_send message s).trans (ih _)
    · exact only_send message s

theorem only_sendControlMessage (controlMsg : DltPassiveControlMessage)
    (data : Option (Id4 × Id4 × UInt8)) (s : GatewayState) :
    Only i s (dltGatewaySendControlMessage i controlMsg data s).1 := by
  unfold dltGatewaySendControlMessage
  cases s.connections[i]? with
  | none => exact .refl i s
  | some con =>
    dsimp only
    split_ifs
    · exact .refl i s
    · exact only_sendAll _ s
    · cases serviceMessage controlMsg.id data with
      | none => exact only_sendAll _ s
      | some messages => exact (only_sendAll _ s).trans (only_sendAll messages _)

theorem only_sendStartup (controlMsgs : List DltPassiveControlMessage) (k : ℕ) (sendtime : ℤ)
    (s : GatewayState) : Only i s (sendStartup i controlMsgs k sendtime s).1 := by
  induction controlMsgs generalizing k sendtime s with
  | nil => exact .refl i s
  | cons controlMsg rest ih =>
    unfold sendStartup
    refine Only.trans ?_ (ih _ _ _)
    dsimp only
    split_ifs
    · exact (only_sendControlMessage controlMsg none s).trans (only_modify _ _)
    · exact only_sendControlMessage controlMsg none s
    · exact .refl i s

theorem only_addToEventLoop (grown : Bool) (s : GatewayState) :
    Only i s (dltGatewayAddToEventLoop grown i s) := by
  unfold dltGatewayAddToEventLoop
  dsimp only
  have hmodify := only_modify (i := i) (fun con : DltGatewayConnection =>
    { con with status := .connected, reconnectCnt := 0, timeoutCnt := 0, sendtimeCnt := 0 }) s
  refine hmodify.trans ?_
  generalize s.modify i _ = s
  cases s.connections[i]? with
  | none => exact .refl i s
  | some con =>
    have hcreate : Only i s (dltConnectionCreate grown con.sock pollin .gateway s) := by
      unfold dltConnectionCreate
      split_ifs
      · exact .refl i s
      · exact only_pEvent _ _ s
    exact (hcreate.trans (only_sendStartup _ _ _ _)).trans (only_modify _ _)

end only

/-! ## Requests for a node -/

/-- What is done for an ECU. -/
inductive NodeRequest
  /-- A control message of a client is forwarded. -/
  | control (header databuffer : List UInt8)
  | setLevel (apid ctid : Id4) (loglevel : ℤ)
  /-- The node told its default log level. -/
  | defaultLevel (databuffer : List UInt8)
  /-- The node is to be connected or disconnected. -/
  | onDemand (grown : Bool) (connect : ConnectResult) (connectionStatus : ℤ)

def request (ecu : Id4) (r : NodeRequest) (s : GatewayState) : GatewayState × ℤ :=
  match r with
  | .control header databuffer => dltGatewayForwardControlMessage ecu header databuffer s
  | .setLevel apid ctid loglevel => dltDaemonLogstorageUpdatePassiveNodeContext apid ctid ecu loglevel s
  | .defaultLevel databuffer => dltGatewayParseGetDefaultLogLevel ecu databuffer s
  | .onDemand grown connect connectionStatus =>
    dltGatewayProcessOnDemandRequest grown connect ecu connectionStatus s

def NodeRequest.search (r : NodeRequest) (connections : List DltGatewayConnection) (ecu : Id4) : Option ℕ :=
  match r with
  | .control _ _ => connectionByPrefix connections ecu
  | .setLevel _ _ _ => dltGatewayGetConnection connections ecu
  | .defaultLevel _ => dltGatewayGetConnection connections ecu
  | .onDemand _ _ _ => connectionByNodeId connections ecu

/-- **A request concerns the node that its search finds**, and without one nothing happens. -/
theorem request_only (ecu : Id4) (r : NodeRequest) (s : GatewayState) :
    (∀ i, r.search s.connections ecu = some i → Only i s (request ecu r s).1) ∧
      (r.search s.connections ecu = none → (request ecu r s).1 = s) := by
  have hfound : ∀ {i : ℕ} {s' : GatewayState}, Only i s s' →
      (∀ j, some i = some j → Only j s s') ∧ (some i = none → s' = s) :=
    fun h => ⟨fun _ hj => some.inj hj ▸ h, nofun⟩
  cases r with
  | control header databuffer =>
    unfold request NodeRequest.search dltGatewayForwardControlMessage
    dsimp only
    cases connectionByPrefix s.connections ecu with
    | none => exact ⟨nofun, fun _ => rfl⟩
    | some i =>
      apply hfound
      dsimp only
      cases s.connections[i]? with
      | none => exact .refl i s
      | some con =>
        dsimp only
        split_ifs
        · exact .refl i s
        · exact only_sendAll _ s
  | setLevel apid ctid loglevel =>
    unfold request NodeRequest.search dltDaemonLogstorageUpdatePassiveNodeContext
    dsimp only
    split_ifs
    · exact ⟨fun i _ => .refl i s, fun _ => rfl⟩
    · cases dltGatewayGetConnection s.connections ecu with
      | none => exact ⟨nofun, fun _ => rfl⟩
      | some i =>
        apply hfound
        dsimp only
        split_ifs
        · exact only_sendControlMessage _ _ s
        · exact only_sendControlMessage _ _ s
  | defaultLevel databuffer =>
    unfold request NodeRequest.search dltGatewayParseGetDefaultLogLevel
    dsimp only
    split_ifs
    · exact ⟨fun i _ => .refl i s, fun _ => rfl⟩
    · cases dltGatewayGetConnection s.connections ecu with
      | none => exact ⟨nofun, fun _ => rfl⟩
      | some i =>
        apply hfound
        exact only_modify _ s
  | onDemand grown connect connectionStatus =>
    unfold request NodeRequest.search dltGatewayProcessOnDemandRequest
    dsimp only
    cases connectionByNodeId s.connections ecu with
    | none => exact ⟨nofun, fun _ => rfl⟩
    | some i =>
      apply hfound
      dsimp only
      cases s.connections[i]? with
      | none => exact .refl i s
      | some con =>
        dsimp only
        split_ifs
        · exact (only_modify _ s).trans (only_addToEventLoop grown _)
        · exact only_modify _ s
        · exact .refl i s
        · exact (only_modify _ s).trans (only_pEvent _ _ _)
        · exact .refl i s

/-! ## Routing -/

/-- Nothing is sent to the nodes of other ECUs, and they do not change. -/
structure OthersUntouched (ecu : List UInt8) (s s' : GatewayState) : Prop where
  sent : ∃ new, s'.sent = new ++ s.sent ∧
    ∀ m ∈ new, ∃ con : DltGatewayConnection, s.connections[m.1]? = some con ∧ con.ecuid = ecu
  others : ∀ (j : ℕ) (con : DltGatewayConnection), s.connections[j]? = some con → con.ecuid ≠ ecu →
    s'.connections[j]? = some con

/-- **What is meant for an ECU goes to its node**: the searches find it, and no request for the ECU
concerns another node. -/
structure Routes (ecu : List UInt8) (s : GatewayState) : Prop where
  getConnection : dltGatewayGetConnection s.connections (dltSetId ecu) = nodeOf s.connections ecu
  forward : connectionByPrefix s.connections (dltSetId ecu) = nodeOf s.connections ecu
  onDemand : connectionByNodeId s.connections (dltSetId ecu) = nodeOf s.connections ecu
  untouched : ∀ r, OthersUntouched ecu s (request (dltSetId ecu) r s).1

/-- No node is configured, or the ECU is, and no name in front of its own is a prefix of it. -/
def RouteSafe (ecu : List UInt8) (connections : List DltGatewayConnection) : Prop :=
  connections = [] ∨ ∃ i : ℕ, ∃ con : DltGatewayConnection, connections[i]? = some con ∧ con.ecuid = ecu ∧
    ∀ j < i, ∀ con' : DltGatewayConnection, connections[j]? = some con' → ¬ con'.ecuid <+: ecu

theorem findIdx?_eq_some_iff' {α : Type*} {p : α → Bool} {xs : List α} {i : ℕ} :
    xs.findIdx? p = some i ↔
      (∃ x, xs[i]? = some x ∧ p x = true) ∧ ∀ j < i, ∀ x, xs[j]? = some x → ¬ p x = true := by
  rw [findIdx?_eq_some_iff_getElem]
  constructor
  · rintro ⟨hlt, hp, hbefore⟩
    refine ⟨⟨xs[i], getElem?_eq_getElem hlt, hp⟩, fun j hj x hx => ?_⟩
    obtain ⟨hltj, rfl⟩ := List.getElem?_eq_some_iff.mp hx
    exact hbefore j hj
  · rintro ⟨⟨x, hx, hp⟩, hbefore⟩
    obtain ⟨hlt, rfl⟩ := List.getElem?_eq_some_iff.mp hx
    exact ⟨hlt, hp, fun j hj => hbefore j hj _ (getElem?_eq_getElem (hj.trans hlt))⟩

theorem searches_iff (hnamed : Named connections) (hecu : IsEcuId ecu) :
    (dltGatewayGetConnection connections (dltSetId ecu) = nodeOf connections ecu ∧
      connectionByPrefix connections (dltSetId ecu) = nodeOf connections ecu) ↔ RouteSafe ecu connections := by
  rw [dltGatewayGetConnection_eq hnamed hecu, connectionByPrefix_eq hnamed hecu]
  unfold RouteSafe
  constructor
  · rintro ⟨hget, hprefix⟩
    cases hnode : nodeOf connections ecu with
    | none =>
      rw [hnode] at hget
      dsimp only at hget
      split_ifs at hget with hnil
      exact .inl hnil
    | some i =>
      right
      obtain ⟨⟨con, hcon, heq⟩, -⟩ := findIdx?_eq_some_iff'.mp hnode
      rw [hnode] at hprefix
      obtain ⟨-, hbefore⟩ := findIdx?_eq_some_iff'.mp hprefix
      refine ⟨i, con, hcon, of_decide_eq_true heq, fun j hj con' hcon' hpre => ?_⟩
      exact hbefore j hj con' hcon' (decide_eq_true hpre)
  · rintro (rfl | ⟨i, con, hcon, rfl, hbefore⟩)
    · exact ⟨rfl, rfl⟩
    · have hnode : nodeOf connections con.ecuid = some i := by
        refine findIdx?_eq_some_iff'.mpr ⟨⟨con, hcon, decide_eq_true rfl⟩, fun j hj con' hcon' heq => ?_⟩
        exact hbefore j hj con' hcon' (of_decide_eq_true heq ▸ prefix_refl _)
      have hprefix : (connections.findIdx? fun c => c.ecuid <+: con.ecuid) = some i := by
        refine findIdx?_eq_some_iff'.mpr
          ⟨⟨con, hcon, decide_eq_true (prefix_refl _)⟩, fun j hj con' hcon' hpre => ?_⟩
        exact hbefore j hj con' hcon' (of_decide_eq_true hpre)
      rw [hnode, hprefix]
      exact ⟨rfl, rfl⟩

theorem OthersUntouched.of_only {s s' : GatewayState} {i : ℕ} (h : Only i s s')
    (hnode : nodeOf s.connections ecu = some i) : OthersUntouched ecu s s' := by
  obtain ⟨⟨con, hcon, heq⟩, -⟩ := findIdx?_eq_some_iff'.mp hnode
  obtain ⟨new, hnew, hall⟩ := h.sent
  refine ⟨⟨new, hnew, fun m hm => ⟨con, ?_, of_decide_eq_true heq⟩⟩, fun j con' hcon' hne => ?_⟩
  · rw [hall m hm]
    exact hcon
  · rw [h.others, hcon']
    rintro rfl
    rw [hcon] at hcon'
    exact hne (some.inj hcon' ▸ of_decide_eq_true heq)

/-- **What is meant for an ECU goes to its node** if and only if the ECU is configured, or no node at all,
and no name in front of its own is a prefix of it. -/
theorem routes_iff {s : GatewayState} (hnamed : Named s.connections) (hecu : IsEcuId ecu) :
    Routes ecu s ↔ RouteSafe ecu s.connections := by
  rw [← searches_iff hnamed hecu]
  constructor
  · exact fun h => ⟨h.getConnection, h.forward⟩
  · rintro ⟨hget, hprefix⟩
    have hnode := connectionByNodeId_eq hnamed hecu
    refine ⟨hget, hprefix, hnode, fun r => ?_⟩
    have hsearch : r.search s.connections (dltSetId ecu) = nodeOf s.connections ecu := by
      cases r with
      | control _ _ => exact hprefix
      | setLevel _ _ _ => exact hget
      | defaultLevel _ => exact hget
      | onDemand _ _ _ => exact hnode
    obtain ⟨honly, hnone⟩ := request_only (dltSetId ecu) r s
    rw [hsearch] at honly hnone
    cases hposition : nodeOf s.connections ecu with
    | none =>
      rw [hnone hposition]
      exact ⟨⟨[], rfl, fun _ hm => absurd hm not_mem_nil⟩, fun _ _ h _ => h⟩
    | some i => exact .of_only (honly i hposition) hposition

/-! ## A sample -/

def sampleNode (ecuid : List UInt8) : DltGatewayConnection where
  status := .initialized
  ecuid := ecuid
  trigger := .onStartup
  timeoutCnt := 0
  reconnectCnt := 0
  sendtime := 0
  sendtimeCnt := 0
  pControlMsgs := []
  sendSerial := false
  sock := -1
  defaultLogLevel := 0

/-- A gateway with two nodes. -/
def sampleGateway (first second : List UInt8) : GatewayState where
  connections := [sampleNode first, sampleNode second]
  pEvent := { pfd := [], maxNfds := 64, connections := [] }
  clientConnections := 0
  sent := []
  sends := fun _ => true

theorem sampleGateway_named {first second : List UInt8} (hfirst : IsEcuId first) (hsecond : IsEcuId second) :
    Named (sampleGateway first second).connections := by
  intro con hcon
  have hmem : con ∈ [sampleNode first, sampleNode second] := hcon
  rcases mem_cons.mp hmem with rfl | hmem
  · exact hfirst
  · rw [mem_singleton.mp hmem]
    exact hsecond

/-- The name of a node is a prefix of that of a node in front of it. -/
theorem routes_sample : Routes (ascii "EC") (sampleGateway (ascii "ECU2") (ascii "EC")) := by
  refine (routes_iff (sampleGateway_named ⟨by decide, by decide, by decide⟩ ⟨by decide, by decide, by decide⟩)
    ⟨by decide, by decide, by decide⟩).mpr (.inr ⟨1, sampleNode (ascii "EC"), rfl, rfl, fun j hj con hcon => ?_⟩)
  obtain rfl : j = 0 := by omega
  obtain rfl : sampleNode (ascii "ECU2") = con := some.inj hcon
  decide

/-- **A control message for `ECU2` goes to `EC`**, and a level for an unknown node to the last one. -/
theorem not_routes :
    ∃ s : GatewayState, Named s.connections ∧ (s.connections.map DltGatewayConnection.ecuid).Nodup ∧
      (IsEcuId (ascii "ECU2") ∧ ¬ Routes (ascii "ECU2") s) ∧ IsEcuId (ascii "ECU3") ∧
        ¬ Routes (ascii "ECU3") s := by
  refine ⟨sampleGateway (ascii "EC") (ascii "ECU2"),
    sampleGateway_named ⟨by decide, by decide, by decide⟩ ⟨by decide, by decide, by decide⟩, by decide,
    ⟨⟨by decide, by decide, by decide⟩, fun h => ?_⟩, ⟨by decide, by decide, by decide⟩, fun h => ?_⟩
  · exact absurd h.forward (by decide +kernel)
  · exact absurd h.getConnection (by decide +kernel)

end Dlt.Gateway
