import Mathlib.Algebra.Order.BigOperators.GroupWithZero.List
import Dlt.Lib.Countdown
import Dlt.Gateway.Routing

/-!
# The ticks of the gateway timer

* `keepsIntervals_iff` — that is so exactly when the product of the intervals is an `int`, or nothing depends on it.

Memory is there, so that no connection fails to be created.
-/

namespace Dlt.Gateway

open Dlt.Lib Dlt.Shared Dlt.Daemon List Option

variable {m : DltPassiveControlMessage}

/-! ## Data -/

def DltPassiveControlMessage.isPeriodic (m : DltPassiveControlMessage) : Bool := m.type = .periodic || m.type = .both

open DltPassiveControlMessage

/-- The message is sent when the node is connected. -/
def DltPassiveControlMessage.isStartup (m : DltPassiveControlMessage) : Bool := m.type = .onStartup || m.type = .both

/-- What happens during a tick. -/
structure TickEnv where
  /-- What connecting to the node at a position gives. -/
  connect : ℕ → ConnectResult
  /-- `con->timeout` of the node at a position. -/
  timeout : ℕ → ℤ
  /-- The array of the event handler can be made larger for the node. -/
  grown : ℕ → Bool
  /-- Whether the messages for the node are sent without an error. -/
  sends : ℕ → ℕ → Bool

/-! ## Operations -/

/-- A product as an `int`. What a product gives that is none is undefined, and a parameter. -/
def intMul (overflow : ℤ → ℤ → ℤ) (a b : ℤ) : ℤ :=
  if -2147483648 ≤ a * b ∧ a * b ≤ 2147483647 then a * b else overflow a b

/-- The product of the intervals, from the value given on.
Source: `dlt_gateway.c`, `dlt_gateway_add_to_event_loop` -/
def multiplySendtime (overflow : ℤ → ℤ → ℤ) : ℤ → List DltPassiveControlMessage → ℤ
  | sendtime, [] => sendtime
  | sendtime, m :: rest =>
    multiplySendtime overflow
      (if m.isPeriodic ∧ m.interval > 0 then intMul overflow sendtime m.interval else sendtime) rest

/-- As `dltGatewayAddToEventLoop`, which multiplies integers, with the product as an `int`. The messages for the
start do not depend on it. Source: `dlt_gateway_add_to_event_loop` -/
def dltGatewayAddToEventLoopInt (overflow : ℤ → ℤ → ℤ) (grown : Bool) (i : ℕ) (s : GatewayState) : GatewayState :=
  match s.connections[i]? with
  | none => s
  | some con =>
    let sendtime := multiplySendtime overflow 1 con.pControlMsgs
    (dltGatewayAddToEventLoop grown i s).modify i fun con =>
      { con with sendtime := sendtime, sendtimeCnt := sendtime }

/-- The loop over the control messages from the position `k` on: the periodic ones are sent.
Source: `dlt_gateway_establish_connections` -/
def sendPeriodic (i : ℕ) : List DltPassiveControlMessage → ℕ → GatewayState → GatewayState
  | [], _, s => s
  | controlMsg :: rest, k, s =>
    let s :=
      if controlMsg.isPeriodic then
        let result := dltGatewaySendControlMessage i controlMsg none s
        if result.2 = dltReturnOk then
          result.1.modify i fun con =>
            { con with pControlMsgs := con.pControlMsgs.modify k fun m => { m with req := true } }
        else result.1
      else s
    sendPeriodic i rest (k + 1) s

/-- What is done for a node when connecting fails. -/
def connectFailed (timeout : ℤ) (con : DltGatewayConnection) : DltGatewayConnection :=
  let con := { con with timeoutCnt := con.timeoutCnt + 1 }
  if timeout > 0 ∧ con.timeoutCnt > timeout then { con with trigger := .disabled } else con

/-- The part of the loop for the node at a position. -/
def establishTurn (overflow : ℤ → ℤ → ℤ) (env : TickEnv) (s : GatewayState) (i : ℕ) : GatewayState :=
  match s.connections[i]? with
  | none => s
  | some con =>
    let s := { s with sends := env.sends i }
    if con.status ≠ .connected ∧ con.trigger ≠ .onDemand ∧ con.trigger ≠ .disabled then
      let s := s.modify i fun con => { con with sock := (env.connect i).sock }
      if (env.connect i).ok then dltGatewayAddToEventLoopInt overflow (env.grown i) i s
      else s.modify i (connectFailed (env.timeout i))
    else if con.status = .connected ∧ con.trigger ≠ .disabled then
      let s := dltConnectionCreate (env.grown i) con.sock pollin .gateway s
      (sendPeriodic i con.pControlMsgs 0 s).modify i fun con =>
        { con with sendtimeCnt := countDown con.sendtime con.sendtimeCnt }
    else s

/-- Source: `dlt_gateway_establish_connections` -/
def dltGatewayEstablishConnections (overflow : ℤ → ℤ → ℤ) (env : TickEnv) (s : GatewayState) : GatewayState :=
  (List.range s.connections.length).foldl (establishTurn overflow env) s

/-! ## What a node is sent -/

/-- What the node at a position was sent, the first message first. -/
def GatewayState.nodeLog (s : GatewayState) (i : ℕ) : List NodeMessage :=
  (s.sent.reverse.filter (·.1 = i)).map Prod.snd

/-- What a control message is for a node. One without a service, or with one that is not known, is nothing. -/
def DltPassiveControlMessage.wire (sendSerial : Bool) (m : DltPassiveControlMessage) : List NodeMessage :=
  if m.id = 0 then []
  else (if sendSerial then [.serialHeader] else []) ++ (serviceMessage m.id none).getD []

/-- What a node is sent when it is connected. -/
def startupWire (sendSerial : Bool) (msgs : List DltPassiveControlMessage) : List NodeMessage :=
  (msgs.filter (·.isStartup)).flatMap (·.wire sendSerial)

/-- What a node is to be sent in a tick: the periodic messages whose interval divides it. -/
def tickWire (sendSerial : Bool) (msgs : List DltPassiveControlMessage) (tick : ℕ) : List NodeMessage :=
  (msgs.filter fun m => m.isPeriodic ∧ m.interval ∣ (tick : ℤ)).flatMap (·.wire sendSerial)

/-! ## Runs -/

/-- What the ticks read of a node. -/
structure NodeTiming where
  status : ConnectionStatus
  trigger : ConnectionTrigger
  sendtime : ℤ
  sendtimeCnt : ℤ
  /-- The serial header is sent with control messages. -/
  sendSerial : Bool
  /-- The control messages, whether requested or not. -/
  msgs : List DltPassiveControlMessage

/-- What the ticks read of a node. -/
def DltGatewayConnection.timing (con : DltGatewayConnection) : NodeTiming :=
  { status := con.status, trigger := con.trigger, sendtime := con.sendtime, sendtimeCnt := con.sendtimeCnt,
    sendSerial := con.sendSerial, msgs := con.pControlMsgs.map fun m => { m with req := false } }

/-- What the ticks read of the node at a position. -/
def GatewayState.timing (s : GatewayState) (i : ℕ) : Option NodeTiming :=
  s.connections[i]?.map DltGatewayConnection.timing

/-- The states before the ticks of a node that was connected. Whatever else is done between two ticks leaves what they
read of the node. Messages for it are sent without an error. -/
structure Established (overflow : ℤ → ℤ → ℤ) (grown : Bool) (i : ℕ) (s : GatewayState) (envs : ℕ → TickEnv)
    (states : ℕ → GatewayState) : Prop where
  start : (states 0).timing i = (dltGatewayAddToEventLoopInt overflow grown i s).timing i
  next : ∀ t, (states (t + 1)).timing i = (dltGatewayEstablishConnections overflow (envs t) (states t)).timing i
  sends : ∀ t n, (envs t).sends i n = true

/-- **A node keeps its intervals**: when it is connected it is sent the messages for the start, and while it stays
connected it is sent in each tick what its interval says. -/
def KeepsIntervals (overflow : ℤ → ℤ → ℤ) (grown : Bool) (i : ℕ) (con : DltGatewayConnection) (s : GatewayState) :
    Prop :=
  (dltGatewayAddToEventLoopInt overflow grown i s).nodeLog i =
      s.nodeLog i ++ startupWire con.sendSerial con.pControlMsgs ∧
    ∀ envs states, Established overflow grown i s envs states → ∀ t,
      (dltGatewayEstablishConnections overflow (envs t) (states t)).nodeLog i =
        (states t).nodeLog i ++ tickWire con.sendSerial con.pControlMsgs (t + 1)

/-- The intervals of the periodic messages. -/
def intervals (msgs : List DltPassiveControlMessage) : List ℤ := (msgs.filter (·.isPeriodic)).map (·.interval)

/-! ## Sending -/

section sending

variable {s s' : GatewayState} {i : ℕ} {con : DltGatewayConnection} {T : NodeTiming}

/-- It is the time for a control message when the counter has the value given. -/
def DltPassiveControlMessage.dueAt (m : DltPassiveControlMessage) (sendtimeCnt : ℤ) : Bool :=
  !(m.type ≠ .onDemand && sendtimeCnt > 0 &&
    (m.interval ≤ 0 || (m.type = .periodic || m.type = .both) && (sendtimeCnt - 1) % m.interval ≠ 0))

theorem notDue_eq (con : DltGatewayConnection) (m : DltPassiveControlMessage) :
    notDue con m = !m.dueAt con.sendtimeCnt := by
  unfold notDue dueAt
  rw [Bool.not_not]

theorem nodeLog_send (message : NodeMessage) : (s.send i message).1.nodeLog i = s.nodeLog i ++ [message] := by
  simp [GatewayState.nodeLog, GatewayState.send]

theorem sendAll_sends (messages : List NodeMessage) (h : ∀ n, s.sends n = true) :
    (sendAll i messages s).2 = dltReturnOk ∧ (sendAll i messages s).1.connections = s.connections ∧
      (∀ n, (sendAll i messages s).1.sends n = true) ∧
      (sendAll i messages s).1.nodeLog i = s.nodeLog i ++ messages := by
  induction messages generalizing s with
  | nil => exact ⟨rfl, rfl, h, (append_nil _).symm⟩
  | cons message rest ih =>
    have hsent : (s.send i message).2 = true := h 0
    unfold sendAll
    dsimp only
    rw [if_pos hsent]
    obtain ⟨hok, hcons, hsends, hlog⟩ := ih (s := (s.send i message).1) fun n => h (n + 1)
    refine ⟨hok, hcons, hsends, ?_⟩
    rw [hlog, nodeLog_send, append_assoc, singleton_append]

/-- **A control message** is sent when it is due. -/
theorem sendControlMessage_sends (hcon : s.connections[i]? = some con) (h : ∀ n, s.sends n = true)
    (m : DltPassiveControlMessage) :
    (dltGatewaySendControlMessage i m none s).1.connections = s.connections ∧
      (∀ n, (dltGatewaySendControlMessage i m none s).1.sends n = true) ∧
      (dltGatewaySendControlMessage i m none s).1.nodeLog i =
        s.nodeLog i ++ if m.dueAt con.sendtimeCnt then m.wire con.sendSerial else [] := by
  unfold dltGatewaySendControlMessage wire
  rw [hcon]
  dsimp only
  rw [notDue_eq]
  by_cases hid : m.id = 0
  · rw [if_pos (Or.inl hid), if_pos hid]
    exact ⟨rfl, h, by simp⟩
  · cases hdue : m.dueAt con.sendtimeCnt with
    | false =>
      rw [if_pos (show m.id = 0 ∨ (!false) = true from .inr rfl), if_neg Bool.false_ne_true, append_nil]
      exact ⟨rfl, h, rfl⟩
    | true =>
      obtain ⟨hok, hcons, hsends, hlog⟩ := sendAll_sends (i := i) (serialHeaderPart con) h
      rw [if_neg (by simp [hid]), if_neg hid, if_neg (not_not.mpr hok)]
      cases hservice : serviceMessage m.id none with
      | none => exact ⟨hcons, hsends, by simpa [serialHeaderPart] using hlog⟩
      | some messages =>
        obtain ⟨-, hcons', hsends', hlog'⟩ := sendAll_sends (i := i) messages hsends
        refine ⟨hcons'.trans hcons, hsends', ?_⟩
        rw [hlog', hlog, append_assoc]
        rfl

/-- What the ticks read of a message stays when it is marked as requested. -/
theorem timing_markRequested (k : ℕ) :
    (s.modify i fun con =>
      { con with pControlMsgs := con.pControlMsgs.modify k fun m => { m with req := true } }).timing i =
      s.timing i := by
  unfold GatewayState.timing GatewayState.modify
  dsimp only
  rw [getElem?_modify_eq, Option.map_eq_map, Option.map_map]
  congr 1
  funext con
  have hmsgs : (con.pControlMsgs.modify k fun m => { m with req := true }).map
      (fun m : DltPassiveControlMessage => { m with req := false }) =
        con.pControlMsgs.map fun m => { m with req := false } := by
    apply ext_getElem?
    intro j
    rw [getElem?_map, getElem?_map, getElem?_modify, Option.map_eq_map, Option.map_map]
    congr 1
    funext m
    rw [Function.comp_apply]
    split_ifs
    · rfl
    · rfl
  simp [DltGatewayConnection.timing, hmsgs]

/-- The part of both loops that sends a message and marks it. -/
def sendAndMark (i k : ℕ) (m : DltPassiveControlMessage) (s : GatewayState) : GatewayState :=
  if (dltGatewaySendControlMessage i m none s).2 = dltReturnOk then
    (dltGatewaySendControlMessage i m none s).1.modify i fun con =>
      { con with pControlMsgs := con.pControlMsgs.modify k fun m => { m with req := true } }
  else (dltGatewaySendControlMessage i m none s).1

/-- The node's part in the ticks stays as it is while a message is sent. -/
theorem sendAndMark_sends (hT : s.timing i = some T) (h : ∀ n, s.sends n = true) (k : ℕ)
    (m : DltPassiveControlMessage) :
    (sendAndMark i k m s).timing i = some T ∧ (∀ n, (sendAndMark i k m s).sends n = true) ∧
      (sendAndMark i k m s).nodeLog i = s.nodeLog i ++ if m.dueAt T.sendtimeCnt then m.wire T.sendSerial else [] := by
  obtain ⟨con, hcon, rfl⟩ := map_eq_some_iff.mp hT
  obtain ⟨hcons, hsends, hlog⟩ := sendControlMessage_sends hcon h m
  have htiming : (dltGatewaySendControlMessage i m none s).1.timing i = some con.timing := by
    unfold GatewayState.timing
    rw [hcons]
    exact hT
  unfold sendAndMark
  by_cases hok : (dltGatewaySendControlMessage i m none s).2 = dltReturnOk
  · rw [if_pos hok]
    exact ⟨(timing_markRequested k).trans htiming, hsends, hlog⟩
  · rw [if_neg hok]
    exact ⟨htiming, hsends, hlog⟩

/-- **The loop over the periodic messages.** -/
theorem sendPeriodic_sends (msgs : List DltPassiveControlMessage) (k : ℕ) (hT : s.timing i = some T)
    (h : ∀ n, s.sends n = true) :
    (sendPeriodic i msgs k s).timing i = some T ∧ (∀ n, (sendPeriodic i msgs k s).sends n = true) ∧
      (sendPeriodic i msgs k s).nodeLog i = s.nodeLog i ++
        (msgs.filter fun m => m.isPeriodic ∧ m.dueAt T.sendtimeCnt).flatMap (·.wire T.sendSerial) := by
  induction msgs generalizing k s with
  | nil => exact ⟨hT, h, (append_nil _).symm⟩
  | cons m rest ih =>
    rw [sendPeriodic]
    cases hm : m.isPeriodic with
    | false =>
      rw [if_neg Bool.false_ne_true, filter_cons_of_neg (by simp [hm])]
      exact ih (k + 1) hT h
    | true =>
      rw [if_pos rfl]
      obtain ⟨hT', h', hlog'⟩ := sendAndMark_sends hT h k m
      obtain ⟨hT'', h'', hlog''⟩ := ih (k + 1) hT' h'
      refine ⟨hT'', h'', hlog''.trans ?_⟩
      rw [hlog']
      cases hdue : m.dueAt T.sendtimeCnt with
      | false => rw [filter_cons_of_neg (by simp [hdue])]; simp
      | true => rw [filter_cons_of_pos (by simp [hm, hdue])]; simp

/-- **The loop over the messages for the start**, which has the counter at zero. -/
theorem sendStartup_sends (msgs : List DltPassiveControlMessage) (k : ℕ) (sendtime : ℤ) (hT : s.timing i = some T)
    (h : ∀ n, s.sends n = true) (hcnt : T.sendtimeCnt = 0) :
    (sendStartup i msgs k sendtime s).1.timing i = some T ∧
      (sendStartup i msgs k sendtime s).1.nodeLog i = s.nodeLog i ++ startupWire T.sendSerial msgs := by
  induction msgs generalizing k sendtime s with
  | nil => exact ⟨hT, (append_nil _).symm⟩
  | cons m rest ih =>
    rw [sendStartup]
    unfold startupWire
    by_cases hm : m.type = .onStartup ∨ m.type = .both
    · rw [if_pos hm, filter_cons_of_pos (by simpa [isStartup] using hm)]
      obtain ⟨hT', h', hlog'⟩ := sendAndMark_sends hT h k m
      obtain ⟨hT'', hlog''⟩ := ih (k + 1)
        (if (m.type = .periodic ∨ m.type = .both) ∧ m.interval > 0 then sendtime * m.interval else sendtime) hT' h'
      refine ⟨hT'', hlog''.trans ?_⟩
      have hdue : m.dueAt T.sendtimeCnt = true := by simp [dueAt, hcnt]
      rw [hlog', if_pos hdue, flatMap_cons, append_assoc]
      rfl
    · rw [if_neg hm, filter_cons_of_neg (by simpa [isStartup] using hm)]
      exact ih _ _ hT h

end sending

/-! ## A tick for one node -/

section tick

variable {s : GatewayState} {i j : ℕ} {T : NodeTiming} {overflow : ℤ → ℤ → ℤ} {env : TickEnv}

theorem Only.frame {s' : GatewayState} (h : Only j s s') (hij : i ≠ j) :
    s'.timing i = s.timing i ∧ s'.nodeLog i = s.nodeLog i := by
  obtain ⟨⟨new, hnew, hall⟩, hothers⟩ := h
  constructor
  · unfold GatewayState.timing
    rw [hothers i hij]
  · have hnone : new.reverse.filter (·.1 = i) = [] := by
      apply filter_eq_nil_iff.mpr
      intro m hm
      rw [hall m (mem_reverse.mp hm)]
      simpa using Ne.symm hij
    unfold GatewayState.nodeLog
    rw [hnew, reverse_append, filter_append, hnone, append_nil]

theorem only_addToEventLoopInt (grown : Bool) (s : GatewayState) :
    Only j s (dltGatewayAddToEventLoopInt overflow grown j s) := by
  unfold dltGatewayAddToEventLoopInt
  cases s.connections[j]? with
  | none => exact .refl j s
  | some con => exact (only_addToEventLoop grown s).trans (only_modify _ _)

theorem only_connectionCreate (grown : Bool) (fd : ℤ) (mask : ℕ) (type : DltConnectionType) (s : GatewayState) :
    Only j s (dltConnectionCreate grown fd mask type s) := by
  unfold dltConnectionCreate
  split_ifs
  · exact .refl j s
  · exact only_pEvent _ _ s

theorem only_sendPeriodic (msgs : List DltPassiveControlMessage) (k : ℕ) (s : GatewayState) :
    Only j s (sendPeriodic j msgs k s) := by
  induction msgs generalizing k s with
  | nil => exact .refl j s
  | cons m rest ih =>
    rw [sendPeriodic]
    refine Only.trans ?_ (ih _ _)
    dsimp only
    split_ifs
    · exact (only_sendControlMessage m none s).trans (only_modify _ _)
    · exact only_sendControlMessage m none s
    · exact .refl j s

variable (overflow env) in
theorem only_establishTurn (s : GatewayState) : Only j s (establishTurn overflow env s j) := by
  unfold establishTurn
  cases s.connections[j]? with
  | none => exact .refl j s
  | some con =>
    have hsends : Only j s { s with sends := env.sends j } := ⟨(Only.refl j s).sent, fun _ _ => rfl⟩
    refine hsends.trans ?_
    dsimp only
    split_ifs
    · exact (only_modify _ _).trans (only_addToEventLoopInt _ _)
    · exact (only_modify _ _).trans (only_modify _ _)
    · exact ((only_connectionCreate _ _ _ _ _).trans (only_sendPeriodic _ _ _)).trans (only_modify _ _)
    · exact .refl j _

theorem flatMap_unrequested (p : DltPassiveControlMessage → Bool) (hp : ∀ m, p { m with req := false } = p m)
    (sendSerial : Bool) (msgs : List DltPassiveControlMessage) :
    ((msgs.map fun m => { m with req := false }).filter p).flatMap (·.wire sendSerial) =
      (msgs.filter p).flatMap (·.wire sendSerial) := by
  induction msgs with
  | nil => rfl
  | cons m rest ih =>
    rw [map_cons, filter_cons, filter_cons, hp]
    split_ifs
    · rw [flatMap_cons, flatMap_cons, ih]
      rfl
    · exact ih

/-- What a connected node is sent in a tick, by its counter. -/
def NodeTiming.dueWire (T : NodeTiming) : List NodeMessage :=
  (T.msgs.filter fun m => m.isPeriodic ∧ m.dueAt T.sendtimeCnt).flatMap (·.wire T.sendSerial)

theorem connectionCreate_nodes (grown : Bool) (fd : ℤ) (mask : ℕ) (type : DltConnectionType) (s : GatewayState) :
    (dltConnectionCreate grown fd mask type s).connections = s.connections ∧
      (dltConnectionCreate grown fd mask type s).sends = s.sends ∧
      (dltConnectionCreate grown fd mask type s).nodeLog i = s.nodeLog i := by
  unfold dltConnectionCreate
  split_ifs
  · exact ⟨rfl, rfl, rfl⟩
  · exact ⟨rfl, rfl, rfl⟩

variable (overflow) in
/-- **The turn of a connected node**: the messages that are due are sent, and the counter is counted down. -/
theorem establishTurn_connected (hT : s.timing i = some T) (hstatus : T.status = .connected)
    (htrigger : T.trigger ≠ .disabled) (hsends : ∀ n, env.sends i n = true) :
    (establishTurn overflow env s i).timing i = some { T with sendtimeCnt := countDown T.sendtime T.sendtimeCnt } ∧
      (establishTurn overflow env s i).nodeLog i = s.nodeLog i ++ T.dueWire := by
  obtain ⟨con, hcon, rfl⟩ := map_eq_some_iff.mp hT
  have hstatus' : con.status = .connected := hstatus
  have htrigger' : con.trigger ≠ .disabled := htrigger
  unfold establishTurn
  rw [hcon]
  dsimp only
  rw [if_neg (fun h => h.1 hstatus'), if_pos ⟨hstatus', htrigger'⟩]
  obtain ⟨hcons, hsends', hlog⟩ := connectionCreate_nodes (i := i) (env.grown i) con.sock pollin .gateway
    { s with sends := env.sends i }
  generalize dltConnectionCreate (env.grown i) con.sock pollin .gateway { s with sends := env.sends i } = s₁ at *
  have hT₁ : s₁.timing i = some con.timing := by
    unfold GatewayState.timing
    rw [hcons]
    exact hT
  obtain ⟨hT₂, -, hlog₂⟩ := sendPeriodic_sends con.pControlMsgs 0 hT₁ fun n => (congrFun hsends' n).trans (hsends n)
  constructor
  · obtain ⟨con', hcon', heq⟩ := map_eq_some_iff.mp hT₂
    unfold GatewayState.timing GatewayState.modify
    dsimp only
    rw [getElem?_modify_eq, hcon', ← heq]
    rfl
  · refine hlog₂.trans ?_
    rw [hlog]
    unfold NodeTiming.dueWire
    exact congrArg _ (flatMap_unrequested _ (fun _ => rfl) con.sendSerial con.pControlMsgs).symm

variable (overflow env) in
theorem foldl_establishTurn_others (js : List ℕ) (hi : i ∉ js) (s : GatewayState) :
    (js.foldl (establishTurn overflow env) s).timing i = s.timing i ∧
      (js.foldl (establishTurn overflow env) s).nodeLog i = s.nodeLog i := by
  induction js generalizing s with
  | nil => exact ⟨rfl, rfl⟩
  | cons j js ih =>
    rw [mem_cons, not_or] at hi
    obtain ⟨htiming, hlog⟩ := ih hi.2 (establishTurn overflow env s j)
    obtain ⟨htiming', hlog'⟩ := (only_establishTurn overflow env s).frame hi.1
    exact ⟨htiming.trans htiming', hlog.trans hlog'⟩

/-- **A tick for a connected node.** -/
theorem establishConnections_connected (hT : s.timing i = some T) (hstatus : T.status = .connected)
    (htrigger : T.trigger ≠ .disabled) (hsends : ∀ n, env.sends i n = true) :
    (dltGatewayEstablishConnections overflow env s).timing i =
        some { T with sendtimeCnt := countDown T.sendtime T.sendtimeCnt } ∧
      (dltGatewayEstablishConnections overflow env s).nodeLog i = s.nodeLog i ++ T.dueWire := by
  obtain ⟨con, hcon, -⟩ := map_eq_some_iff.mp hT
  obtain ⟨hi, -⟩ := List.getElem?_eq_some_iff.mp hcon
  obtain ⟨before, after, hsplit⟩ := append_of_mem (mem_range.mpr hi)
  have hnodup : (before ++ i :: after).Nodup := hsplit ▸ nodup_range
  rw [nodup_append, nodup_cons] at hnodup
  obtain ⟨-, ⟨hafter, -⟩, hdisjoint⟩ := hnodup
  have hbefore : i ∉ before := fun h => hdisjoint i h i mem_cons_self rfl
  unfold dltGatewayEstablishConnections
  rw [hsplit, foldl_append, foldl_cons]
  -- the nodes before, this one, and those behind
  obtain ⟨hT₁, hlog₁⟩ := foldl_establishTurn_others overflow env before hbefore s
  rw [hT] at hT₁
  obtain ⟨hT₂, hlog₂⟩ := establishTurn_connected overflow hT₁ hstatus htrigger hsends
  obtain ⟨hT₃, hlog₃⟩ := foldl_establishTurn_others overflow env after hafter
    (establishTurn overflow env (before.foldl (establishTurn overflow env) s) i)
  exact ⟨hT₃.trans hT₂, by rw [hlog₃, hlog₂, hlog₁]⟩

end tick

/-! ## The product of the intervals -/

section product

variable {overflow : ℤ → ℤ → ℤ} {a : ℤ} {msgs : List DltPassiveControlMessage}

/-- The intervals of the periodic messages are positive. -/
def Positive (msgs : List DltPassiveControlMessage) : Prop := ∀ m ∈ msgs, m.isPeriodic = true → 0 < m.interval

/-- The product of the intervals is an `int`. -/
def ProductFits (msgs : List DltPassiveControlMessage) : Prop := (intervals msgs).prod ≤ 2147483647

theorem prod_intervals_cons (m : DltPassiveControlMessage) (rest : List DltPassiveControlMessage) :
    (intervals (m :: rest)).prod = (if m.isPeriodic then m.interval else 1) * (intervals rest).prod := by
  unfold intervals
  cases hm : m.isPeriodic with
  | true => rw [filter_cons_of_pos hm, map_cons, prod_cons, if_pos rfl]
  | false => rw [filter_cons_of_neg (by simp [hm]), if_neg Bool.false_ne_true, one_mul]

theorem prod_intervals_pos (h : Positive msgs) : 0 < (intervals msgs).prod := by
  apply prod_pos
  intro k hk
  obtain ⟨m, hm, rfl⟩ := mem_map.mp hk
  obtain ⟨hmem, hperiodic⟩ := mem_filter.mp hm
  exact h m hmem hperiodic

theorem interval_dvd_prod (hm : m ∈ msgs) (hperiodic : m.isPeriodic = true) :
    m.interval ∣ (intervals msgs).prod :=
  dvd_prod (mem_map_of_mem (mem_filter.mpr ⟨hm, hperiodic⟩))

theorem multiplySendtime_cons (hm : m.isPeriodic = true → 0 < m.interval) :
    multiplySendtime overflow a (m :: msgs) =
      multiplySendtime overflow (if m.isPeriodic then intMul overflow a m.interval else a) msgs := by
  rw [multiplySendtime]
  cases hperiodic : m.isPeriodic with
  | true => rw [if_pos ⟨rfl, hm hperiodic⟩, if_pos rfl]
  | false => rw [if_neg (fun h => Bool.false_ne_true h.1), if_neg Bool.false_ne_true]

/-- **A product that is an `int` is what the loop gives.** -/
theorem multiplySendtime_fits (h : Positive msgs) (ha : 0 < a) (hfits : a * (intervals msgs).prod ≤ 2147483647) :
    multiplySendtime overflow a msgs = a * (intervals msgs).prod := by
  induction msgs generalizing a with
  | nil => exact (mul_one a).symm
  | cons m rest ih =>
    have hrest : Positive rest := fun m' hm' => h m' (mem_cons_of_mem m hm')
    have hprod := prod_intervals_pos hrest
    rw [multiplySendtime_cons (h m mem_cons_self)]
    rw [prod_intervals_cons, ← mul_assoc] at hfits ⊢
    cases hperiodic : m.isPeriodic with
    | false =>
      rw [hperiodic, if_neg Bool.false_ne_true, mul_one] at hfits
      rw [if_neg Bool.false_ne_true, if_neg Bool.false_ne_true, mul_one]
      exact ih hrest ha hfits
    | true =>
      have hinterval := h m mem_cons_self hperiodic
      have hpos : 0 < a * m.interval := mul_pos ha hinterval
      rw [hperiodic, if_pos rfl] at hfits
      have hle : a * m.interval ≤ 2147483647 := (le_mul_of_one_le_right hpos.le hprod).trans hfits
      rw [if_pos rfl, if_pos rfl, intMul, if_pos ⟨by linarith, hle⟩]
      exact ih hrest hpos hfits

theorem multiplySendtime_zero (h : Positive msgs) : multiplySendtime overflow 0 msgs = 0 := by
  induction msgs with
  | nil => rfl
  | cons m rest ih =>
    have hrest : Positive rest := fun m' hm' => h m' (mem_cons_of_mem m hm')
    rw [multiplySendtime_cons (h m mem_cons_self)]
    split_ifs
    · rw [intMul, zero_mul, if_pos ⟨by norm_num, by norm_num⟩]
      exact ih hrest
    · exact ih hrest

/-- A product that is no `int` may give zero. -/
theorem multiplySendtime_overflow (h : Positive msgs) (ha : 0 < a) (hle : a ≤ 2147483647)
    (hover : 2147483647 < a * (intervals msgs).prod) : multiplySendtime (fun _ _ => 0) a msgs = 0 := by
  induction msgs generalizing a with
  | nil =>
    simp only [intervals, filter_nil, map_nil, prod_nil, mul_one] at hover
    linarith
  | cons m rest ih =>
    have hrest : Positive rest := fun m' hm' => h m' (mem_cons_of_mem m hm')
    rw [multiplySendtime_cons (h m mem_cons_self)]
    rw [prod_intervals_cons, ← mul_assoc] at hover
    cases hperiodic : m.isPeriodic with
    | false =>
      rw [hperiodic, if_neg Bool.false_ne_true, mul_one] at hover
      rw [if_neg Bool.false_ne_true]
      exact ih hrest ha hle hover
    | true =>
      have hpos : 0 < a * m.interval := mul_pos ha (h m mem_cons_self hperiodic)
      rw [hperiodic, if_pos rfl] at hover
      rw [if_pos rfl, intMul]
      split_ifs with hint
      · exact ih hrest hpos hint.2 hover
      · exact multiplySendtime_zero hrest

end product

/-! ## Connecting, and runs -/

section run

variable {s : GatewayState} {i : ℕ} {con : DltGatewayConnection} {overflow : ℤ → ℤ → ℤ} {grown : Bool}

/-- What the ticks read of a node that was connected. -/
def DltGatewayConnection.startTiming (overflow : ℤ → ℤ → ℤ) (con : DltGatewayConnection) (t : ℕ) : NodeTiming :=
  { con.timing with
    status := .connected, sendtime := multiplySendtime overflow 1 con.pControlMsgs,
    sendtimeCnt := countAt (multiplySendtime overflow 1 con.pControlMsgs) t }

section

variable (hcon : s.connections[i]? = some con)
include hcon

/-- **Connecting**: the messages for the start are sent, and the counter is set. -/
theorem addToEventLoopInt_start (hsends : ∀ n, s.sends n = true) :
    (dltGatewayAddToEventLoopInt overflow grown i s).timing i = some (con.startTiming overflow 0) ∧
      (dltGatewayAddToEventLoopInt overflow grown i s).nodeLog i =
        s.nodeLog i ++ startupWire con.sendSerial con.pControlMsgs := by
  have hset := fun f : DltGatewayConnection → DltGatewayConnection =>
    show (s.modify i f).connections[i]? = some (f con) by
      unfold GatewayState.modify
      dsimp only
      rw [getElem?_modify_eq, hcon]
      rfl
  unfold dltGatewayAddToEventLoopInt dltGatewayAddToEventLoop
  rw [hcon]
  dsimp only
  rw [hset]
  dsimp only
  -- the node with its counter at zero, registered
  have hstart := hset fun con => { con with status := .connected, reconnectCnt := 0, timeoutCnt := 0, sendtimeCnt := 0 }
  generalize hs₁ : s.modify i _ = s₁ at *
  have hsends₁ : s₁.sends = s.sends := by rw [← hs₁]; rfl
  have hlog₁ : s₁.nodeLog i = s.nodeLog i := by rw [← hs₁]; rfl
  obtain ⟨hcons₂, hsends₂, hlog₂⟩ := connectionCreate_nodes (i := i) grown con.sock pollin .gateway s₁
  generalize dltConnectionCreate grown con.sock pollin .gateway s₁ = s₂ at *
  have hT₂ : s₂.timing i = some { con.timing with status := .connected, sendtimeCnt := 0 } := by
    unfold GatewayState.timing
    rw [hcons₂, hstart]
    rfl
  obtain ⟨hT₃, hlog₃⟩ := sendStartup_sends con.pControlMsgs 0 1 hT₂
    (fun n => by rw [hsends₂, hsends₁]; exact hsends n) rfl
  constructor
  · obtain ⟨con', hcon', heq⟩ := map_eq_some_iff.mp hT₃
    unfold GatewayState.timing GatewayState.modify
    dsimp only
    rw [getElem?_modify_eq, getElem?_modify_eq, hcon']
    have hset' : ∀ sendtime : ℤ, some { con'.timing with sendtime := sendtime, sendtimeCnt := sendtime } =
        some { con.timing with status := .connected, sendtime := sendtime, sendtimeCnt := sendtime } := by
      intro sendtime
      rw [heq]
    exact hset' (multiplySendtime overflow 1 con.pControlMsgs)
  · refine hlog₃.trans ?_
    rw [hlog₂, hlog₁]
    rfl

section

variable (htrigger : con.trigger ≠ .disabled) (hsends : ∀ n, s.sends n = true) {envs : ℕ → TickEnv}
  {states : ℕ → GatewayState} (h : Established overflow grown i s envs states) (t : ℕ)
include htrigger hsends h

/-- **The counter along a run** of a node that was connected. -/
theorem Established.timing :
    (states t).timing i = some (con.startTiming overflow t) := by
  induction t with
  | zero => exact h.start.trans (addToEventLoopInt_start hcon hsends).1
  | succ t ih =>
    rw [h.next]
    exact (establishConnections_connected ih rfl htrigger (h.sends t)).1

theorem Established.nodeLog :
    (dltGatewayEstablishConnections overflow (envs t) (states t)).nodeLog i =
      (states t).nodeLog i ++ (con.startTiming overflow t).dueWire :=
  (establishConnections_connected (h.timing hcon htrigger hsends t) rfl htrigger (h.sends t)).2

end

end

/-- A tick in which nothing fails, and no other node is connected. -/
def quietTick : TickEnv := ⟨fun _ => ⟨-1, false⟩, fun _ => 0, fun _ => true, fun _ _ => true⟩

/-- The states of a run in which only ticks happen. -/
def tickStates (overflow : ℤ → ℤ → ℤ) (grown : Bool) (i : ℕ) (s : GatewayState) : ℕ → GatewayState
  | 0 => dltGatewayAddToEventLoopInt overflow grown i s
  | t + 1 => dltGatewayEstablishConnections overflow quietTick (tickStates overflow grown i s t)

theorem established_tickStates :
    Established overflow grown i s (fun _ => quietTick) (tickStates overflow grown i s) :=
  ⟨rfl, fun _ => rfl, fun _ _ => rfl⟩

/-- **What has to be shown of the counter.** -/
theorem keepsIntervals_iff_dueWire (hcon : s.connections[i]? = some con) (htrigger : con.trigger ≠ .disabled)
    (hsends : ∀ n, s.sends n = true) :
    KeepsIntervals overflow grown i con s ↔
      ∀ t, (con.startTiming overflow t).dueWire = tickWire con.sendSerial con.pControlMsgs (t + 1) := by
  constructor
  · intro h t
    have hlog := h.2 _ _ established_tickStates t
    rw [established_tickStates.nodeLog hcon htrigger hsends t] at hlog
    exact append_cancel_left hlog
  · intro h
    refine ⟨(addToEventLoopInt_start hcon hsends).2, fun envs states hrun t => ?_⟩
    rw [hrun.nodeLog hcon htrigger hsends t, h]

end run

/-! ## When the intervals are kept -/

section kept

variable {s : GatewayState} {i : ℕ} {con : DltGatewayConnection} {overflow : ℤ → ℤ → ℤ} {grown : Bool}

/-- The messages that are due, whether marked as requested or not. -/
theorem dueWire_startTiming (t : ℕ) :
    (con.startTiming overflow t).dueWire =
      (con.pControlMsgs.filter fun m =>
        m.isPeriodic ∧ m.dueAt (countAt (multiplySendtime overflow 1 con.pControlMsgs) t)).flatMap
          (·.wire con.sendSerial) :=
  flatMap_unrequested _ (fun _ => rfl) con.sendSerial con.pControlMsgs

/-- A periodic message is due when its interval divides the counter, less one. -/
theorem dueAt_iff (hperiodic : m.isPeriodic = true) (hinterval : 0 < m.interval) {c : ℤ} :
    m.dueAt c = true ↔ c ≤ 0 ∨ (c - 1) % m.interval = 0 := by
  have hperiodic' : m.type = .periodic ∨ m.type = .both := by
    simpa [isPeriodic] using hperiodic
  have hnot : ¬ m.interval ≤ 0 := not_le.mpr hinterval
  by_cases hc : c ≤ 0
  · simp [dueAt, hc]
  · rcases hperiodic' with hm | hm
    · simp [dueAt, hm, hnot, hc]
    · simp [dueAt, hm, hnot, hc]

theorem flatMap_filter_cons (p : DltPassiveControlMessage → Bool) (sendSerial : Bool) (m : DltPassiveControlMessage)
    (rest : List DltPassiveControlMessage) :
    ((m :: rest).filter p).flatMap (·.wire sendSerial) =
      (if p m then m.wire sendSerial else []) ++ (rest.filter p).flatMap (·.wire sendSerial) := by
  rw [filter_cons]
  split_ifs
  · rfl
  · rfl

theorem flatMap_filter_congr {p q : DltPassiveControlMessage → Bool} {sendSerial : Bool}
    {msgs : List DltPassiveControlMessage}
    (h : ∀ m ∈ msgs, (if p m then m.wire sendSerial else []) = if q m then m.wire sendSerial else []) :
    (msgs.filter p).flatMap (·.wire sendSerial) = (msgs.filter q).flatMap (·.wire sendSerial) := by
  induction msgs with
  | nil => rfl
  | cons m rest ih =>
    rw [flatMap_filter_cons, flatMap_filter_cons, h m mem_cons_self,
      ih fun m' hm' => h m' (mem_cons_of_mem m hm')]

/-- **Fewer messages with the same whole**: those that are left out are nothing. -/
theorem wire_eq_nil_of_flatMap_eq {p q : DltPassiveControlMessage → Bool} {sendSerial : Bool}
    {msgs : List DltPassiveControlMessage} (hqp : ∀ m, q m = true → p m = true) :
    ((msgs.filter q).flatMap (·.wire sendSerial)).length ≤ ((msgs.filter p).flatMap (·.wire sendSerial)).length ∧
      (((msgs.filter p).flatMap (·.wire sendSerial)).length = ((msgs.filter q).flatMap (·.wire sendSerial)).length →
        ∀ m ∈ msgs, p m = true → q m = false → m.wire sendSerial = []) := by
  induction msgs with
  | nil => exact ⟨le_rfl, fun _ m hm => absurd hm not_mem_nil⟩
  | cons m rest ih =>
    obtain ⟨hle, heq⟩ := ih
    have hpart : (if q m then m.wire sendSerial else []).length ≤ (if p m then m.wire sendSerial else []).length := by
      by_cases hq : q m = true
      · rw [if_pos hq, if_pos (hqp m hq)]
      · rw [if_neg hq]
        exact Nat.zero_le _
    rw [flatMap_filter_cons, flatMap_filter_cons, length_append, length_append]
    refine ⟨Nat.add_le_add hpart hle, fun hlen m' hm' hp hq => ?_⟩
    rcases mem_cons.mp hm' with rfl | hm'
    · rw [hp, hq, if_pos rfl, if_neg Bool.false_ne_true, length_nil] at hlen
      exact eq_nil_of_length_eq_zero (by omega)
    · exact heq (by omega) m' hm' hp hq

/-- Nothing that the node is sent depends on an interval. -/
def OnlyEveryTick (con : DltGatewayConnection) : Prop :=
  ∀ m ∈ con.pControlMsgs, m.isPeriodic = true → m.wire con.sendSerial ≠ [] → m.interval = 1

section

variable (hpos : Positive con.pControlMsgs)
include hpos

theorem dueWire_of_fits (hfits : ProductFits con.pControlMsgs) (t : ℕ) :
    (con.startTiming overflow t).dueWire = tickWire con.sendSerial con.pControlMsgs (t + 1) := by
  have hprod := prod_intervals_pos hpos
  rw [dueWire_startTiming, multiplySendtime_fits hpos one_pos (by rwa [one_mul]), one_mul]
  apply congrArg (flatMap _)
  apply filter_congr
  intro m hm
  apply decide_eq_decide.mpr
  apply and_congr_right
  intro hperiodic
  rw [dueAt_iff hperiodic (hpos m hm hperiodic), ← countAt_due hprod (interval_dvd_prod hm hperiodic) t]
  exact or_iff_right (not_le.mpr (period_dvd_countAt hprod t).1)

theorem dueWire_of_onlyEveryTick (h : OnlyEveryTick con) (t : ℕ) :
    (con.startTiming overflow t).dueWire = tickWire con.sendSerial con.pControlMsgs (t + 1) := by
  rw [dueWire_startTiming]
  apply flatMap_filter_congr
  intro m hm
  by_cases hperiodic : m.isPeriodic = true
  · by_cases hwire : m.wire con.sendSerial = []
    · rw [hwire, ite_self, ite_self]
    · have hone := h m hm hperiodic hwire
      have hdue := (dueAt_iff hperiodic (hpos m hm hperiodic)
        (c := countAt (multiplySendtime overflow 1 con.pControlMsgs) t)).mpr
          (.inr (by rw [hone]; exact Int.emod_one _))
      simp [hperiodic, hdue, hone]
  · simp [hperiodic]

/-- **With a product that is no `int`**, every message may be sent in the first tick. -/
theorem onlyEveryTick_of_overflow (hover : ¬ ProductFits con.pControlMsgs)
    (h : (con.startTiming (fun _ _ => 0) 0).dueWire = tickWire con.sendSerial con.pControlMsgs 1) :
    OnlyEveryTick con := by
  rw [dueWire_startTiming, multiplySendtime_overflow hpos one_pos (by norm_num)
      (by rw [one_mul]; exact not_le.mp hover),
    countAt] at h
  intro m hm hperiodic hwire
  by_contra hne
  have hdue : ∀ m : DltPassiveControlMessage, m.dueAt 0 = true := by
    intro m
    simp [dueAt]
  unfold tickWire at h
  refine hwire ((wire_eq_nil_of_flatMap_eq ?_).2 (congrArg List.length h) m hm ?_ ?_)
  · intro m' hm'
    have hperiodic' := (of_decide_eq_true hm').1
    exact decide_eq_true ⟨hperiodic', hdue m'⟩
  · exact decide_eq_true ⟨hperiodic, hdue m⟩
  · have hnot : ¬ m.interval ∣ ((1 : ℕ) : ℤ) := by
      intro hdvd
      exact hne (Int.eq_one_of_dvd_one (hpos m hm hperiodic).le hdvd)
    exact decide_eq_false fun hm' => hnot hm'.2

end

/-- **A node keeps its intervals**, whatever a product gives that is no `int`, exactly when the product of its
intervals is one, or nothing that it is sent depends on an interval. -/
theorem keepsIntervals_iff (grown : Bool) (i : ℕ) (con : DltGatewayConnection) (s : GatewayState)
    (hcon : s.connections[i]? = some con) (htrigger : con.trigger ≠ .disabled) (hsends : ∀ n, s.sends n = true)
    (hpos : Positive con.pControlMsgs) :
    (∀ overflow, KeepsIntervals overflow grown i con s) ↔ ProductFits con.pControlMsgs ∨ OnlyEveryTick con := by
  constructor
  · intro h
    by_cases hfits : ProductFits con.pControlMsgs
    · exact .inl hfits
    · have hzero := (keepsIntervals_iff_dueWire hcon htrigger hsends).mp (h fun _ _ => 0) 0
      exact .inr (onlyEveryTick_of_overflow hpos hfits hzero)
  · intro h overflow
    refine (keepsIntervals_iff_dueWire hcon htrigger hsends).mpr fun t => ?_
    rcases h with h | h
    · exact dueWire_of_fits hpos h t
    · exact dueWire_of_onlyEveryTick hpos h t

/-- A node with two periodic messages of the intervals given. -/
def intervalNode (interval interval' : ℤ) : DltGatewayConnection :=
  { status := .initialized, ecuid := [], trigger := .onStartup, timeoutCnt := 0, reconnectCnt := 0, sendtime := 0,
    sendtimeCnt := 0, pControlMsgs := [⟨3, .both, false, interval⟩, ⟨19, .periodic, false, interval'⟩],
    sendSerial := false, sock := 5, defaultLogLevel := 0 }

def intervalGateway (con : DltGatewayConnection) : GatewayState :=
  { connections := [con], pEvent := { pfd := [], maxNfds := 0, connections := [] }, clientConnections := 0,
    sent := [], sends := fun _ => true }

theorem keepsIntervals_two_three :
    KeepsIntervals (fun a b => (a * b + 2147483648) % 4294967296 - 2147483648) true 0 (intervalNode 2 3)
      (intervalGateway (intervalNode 2 3)) :=
  (keepsIntervals_iff true 0 (intervalNode 2 3) (intervalGateway (intervalNode 2 3)) rfl (by decide) (fun _ => rfl)
    (by unfold Positive; decide)).mpr (.inl (by unfold ProductFits; decide)) _

/-- A product that wraps around to zero: both messages are sent in every tick. -/
theorem keepsIntervals_wrapped :
    ¬ KeepsIntervals (fun a b => (a * b + 2147483648) % 4294967296 - 2147483648) true 0 (intervalNode 65536 65536)
      (intervalGateway (intervalNode 65536 65536)) := by
  intro h
  have htick := (keepsIntervals_iff_dueWire (s := intervalGateway (intervalNode 65536 65536)) rfl (by decide)
    (fun _ => rfl)).mp h 0
  revert htick
  decide +kernel

end kept

end Dlt.Gateway
