import Dlt.Gateway.Connections
import Dlt.Lib.Stores

/-!
# The status of the passive nodes, for a client

* `passiveNodeConnectStatus_reports_iff` — **when this is so**: there are at most `DLT_ENTRY_MAX / DLT_ID_SIZE`
  connections, and all of them have a name.
-/

namespace Dlt.Gateway

open Dlt.Lib Dlt.Shared
open List (length_cons map_cons mem_cons mem_cons_of_mem mem_map replicate)

variable {p : InfoMember × Store UInt8}

/-! ## The response -/

/-- `DLT_ENTRY_MAX`. Source: `dlt_common.h` -/
def dltEntryMax : ℕ := 100

/-- `DLT_SERVICE_ID_PASSIVE_NODE_CONNECTION_STATUS`. Source: `dlt_protocol.h` -/
def dltServiceIdPassiveNodeConnectionStatus : ℕ := 0xf07

/-- The members of the response. Source: `dlt_common.h`, `DltServicePassiveNodeConnectionInfo` -/
inductive InfoMember
  /-- `service_id`. -/
  | serviceId
  /-- `status`. -/
  | status
  /-- `num_connections`. -/
  | numConnections
  /-- `connection_status`. -/
  | connectionStatus
  /-- `node_id`. -/
  | nodeId
deriving DecidableEq

def InfoMember.size : InfoMember → ℕ
  | .serviceId => 4
  | .status => 1
  | .numConnections => 4
  | .connectionStatus => dltEntryMax
  | .nodeId => dltEntryMax

/-- Where a member starts: the structure is packed. -/
def InfoMember.start : InfoMember → ℕ
  | .serviceId => 0
  | .status => 4
  | .numConnections => 5
  | .connectionStatus => 9
  | .nodeId => 9 + dltEntryMax

/-- `sizeof(DltServicePassiveNodeConnectionInfo)`. -/
def sizeofPassiveNodeConnectionInfo : ℕ := 9 + dltEntryMax + dltEntryMax

/-- A store to a member, from its cell `off` on. -/
def InfoMember.store (member : InfoMember) (off : ℕ) (data : List UInt8) : InfoMember × Store UInt8 :=
  (member, ⟨member.start + off, data⟩)

/-- Source: `dlt_gateway_types.h`, `connection_status` -/
def ConnectionStatus.toByte : ConnectionStatus → UInt8
  | .uninitialized => 0
  | .initialized => 1
  | .connected => 2
  | .disconnected => 3

/-- What the response takes from a connection. Source: `DltGatewayConnection` -/
structure NodeConnection where
  status : ConnectionStatus
  /-- The `DLT_ID_SIZE` bytes at the pointer `ecuid`, or `none` for `NULL`: a section of the configuration file
  that was ignored leaves such a connection. -/
  ecuid : Option Id4
deriving DecidableEq

/-- The loop over the connections from the `i`-th on: its stores, and whether it reads from `NULL`, which ends
the daemon. Source: `dlt_daemon_client.c`, `dlt_daemon_control_passive_node_connect_status` -/
def connectionStores : ℕ → List NodeConnection → List (InfoMember × Store UInt8) × Bool
  | _, [] => ([], false)
  | i, con :: cons =>
      -- `Maximal message size reached. Skip further information`
      if dltEntryMax < i * dltIdSize then ([], false)
      else
        let status := InfoMember.connectionStatus.store i [con.status.toByte]
        match con.ecuid with
        | none => ([status], true)
        | some ecuid =>
            (status :: InfoMember.nodeId.store (i * dltIdSize) ecuid.bytes :: (connectionStores (i + 1) cons).1,
              (connectionStores (i + 1) cons).2)

inductive StatusOutcome
  /-- The response that the gateway mode is off. -/
  | responseError
  | nothing
  /-- It reads from `NULL`, after these stores. -/
  | fault (stores : List (InfoMember × Store UInt8))
  | sent (stores : List (InfoMember × Store UInt8)) (payload : List UInt8)
deriving DecidableEq

/-- The stores in front of the loop: `DLT_SERVICE_RESPONSE_OK` is zero. -/
def infoStores (cons : List NodeConnection) : List (InfoMember × Store UInt8) :=
  [InfoMember.serviceId.store 0 (leBytes 4 dltServiceIdPassiveNodeConnectionStatus),
    InfoMember.status.store 0 [0], InfoMember.numConnections.store 0 (leBytes 4 (u32 cons.length))]

/-- The connections are those of the gateway; the memory for the payload is there or not.
Source: `dlt_daemon_control_passive_node_connect_status` -/
def dltDaemonControlPassiveNodeConnectStatus (gatewayMode memory : Bool) (cons : List NodeConnection) :
    StatusOutcome :=
  if gatewayMode = false then .responseError
  else if memory = false then .nothing
  else
    let stores := infoStores cons ++ (connectionStores 0 cons).1
    if (connectionStores 0 cons).2 then .fault stores
    else
      .sent stores ((applyStores (List.replicate sizeofPassiveNodeConnectionInfo 0) (stores.map (·.2))).take
        sizeofPassiveNodeConnectionInfo)

/-! ## What a client reads -/

/-- The entry of the `i`-th connection in a payload. -/
def infoEntry (payload : List UInt8) (i : ℕ) : List UInt8 × List UInt8 :=
  (field payload (InfoMember.connectionStatus.start + i) 1,
    field payload (InfoMember.nodeId.start + i * dltIdSize) dltIdSize)

/-- The number of connections that a payload announces. -/
def announced (payload : List UInt8) : ℕ := ofLeBytes (field payload InfoMember.numConnections.start 4)

/-- The entries that a payload announces, if its arrays have as many. -/
def readInfo (payload : List UInt8) : Option (List (List UInt8 × List UInt8)) :=
  if announced payload * dltIdSize ≤ dltEntryMax then
    some ((List.range (announced payload)).map (infoEntry payload))
  else none

/-- The entry that a connection with a name should have. -/
def NodeConnection.entry (con : NodeConnection) : Option (List UInt8 × List UInt8) :=
  con.ecuid.map fun ecuid => ([con.status.toByte], ecuid.bytes)

/-- Every store lies in its member, and the payload tells each connection once, in the order of the table. -/
def Reports (cons : List NodeConnection) : StatusOutcome → Prop
  | .responseError => True
  | .nothing => True
  | .fault _ => False
  | .sent stores payload =>
      (∀ p ∈ stores, p.2.Within p.1.start p.1.size) ∧ payload.length = sizeofPassiveNodeConnectionInfo ∧
        (readInfo payload).map (·.map some) = some (cons.map NodeConnection.entry)

theorem InfoMember.start_add_size_le (member : InfoMember) :
    member.start + member.size ≤ sizeofPassiveNodeConnectionInfo := by
  cases member <;> decide

theorem within_memory (h : p.2.Within p.1.start p.1.size) : p.2.Within 0 sizeofPassiveNodeConnectionInfo := by
  have hmember := p.1.start_add_size_le
  exact ⟨Nat.zero_le _, by have := h.2; omega⟩

/-! ## The loop -/

/-- A store for one of the connections from the `i`-th on. -/
def FromOn (i : ℕ) (p : InfoMember × Store UInt8) : Prop :=
  (p.1 = .connectionStatus ∧ InfoMember.connectionStatus.start + i ≤ p.2.off) ∨
    (p.1 = .nodeId ∧ InfoMember.nodeId.start + i * dltIdSize ≤ p.2.off)

/-- The arrays have room for twenty-five connections. -/
def roomForNodes : ℕ := dltEntryMax / dltIdSize

section loop

variable {i : ℕ} {con : NodeConnection} {cons : List NodeConnection} {ecuid : Id4}

theorem connectionStores_cons (hi : i ≤ roomForNodes) (hname : con.ecuid = some ecuid) :
    connectionStores i (con :: cons) =
      (InfoMember.connectionStatus.store i [con.status.toByte] ::
          InfoMember.nodeId.store (i * dltIdSize) ecuid.bytes :: (connectionStores (i + 1) cons).1,
        (connectionStores (i + 1) cons).2) := by
  have hroom : roomForNodes * dltIdSize = dltEntryMax := rfl
  have hle : i * dltIdSize ≤ dltEntryMax := hroom ▸ Nat.mul_le_mul_right dltIdSize hi
  rw [connectionStores, if_neg (by omega)]
  dsimp only
  rw [hname]

theorem connectionStores_none (hi : i ≤ roomForNodes) (hname : con.ecuid = none) :
    connectionStores i (con :: cons) = ([InfoMember.connectionStatus.store i [con.status.toByte]], true) := by
  have hroom : roomForNodes * dltIdSize = dltEntryMax := rfl
  have hle : i * dltIdSize ≤ dltEntryMax := hroom ▸ Nat.mul_le_mul_right dltIdSize hi
  rw [connectionStores, if_neg (by omega)]
  dsimp only
  rw [hname]

/-- As long as there is room, only a connection without a name ends the daemon. -/
theorem connectionStores_fault_iff (h : i + cons.length ≤ roomForNodes) :
    (connectionStores i cons).2 = true ↔ ∃ con ∈ cons, con.ecuid = none := by
  induction cons generalizing i with
  | nil => simp [connectionStores]
  | cons con cons ih =>
    rw [length_cons] at h
    rw [List.exists_mem_cons_iff]
    cases hname : con.ecuid with
    | none => simp [connectionStores_none (show i ≤ roomForNodes by omega) hname]
    | some ecuid => simp [connectionStores_cons (show i ≤ roomForNodes by omega) hname,
        ih (show i + 1 + cons.length ≤ roomForNodes by omega)]

theorem connectionStores_within (h : i + cons.length ≤ roomForNodes) :
    ∀ p ∈ (connectionStores i cons).1, FromOn i p ∧ p.2.Within p.1.start p.1.size := by
  have hroom : roomForNodes = 25 := rfl
  have hmax : dltEntryMax = 100 := rfl
  have hsize : dltIdSize = 4 := rfl
  induction cons generalizing i with
  | nil => simp [connectionStores]
  | cons con cons ih =>
    rw [length_cons] at h
    have hstatus : FromOn i (InfoMember.connectionStatus.store i [con.status.toByte]) ∧
        (InfoMember.connectionStatus.store i [con.status.toByte]).2.Within
          InfoMember.connectionStatus.start InfoMember.connectionStatus.size := by
      refine ⟨.inl ⟨rfl, le_refl _⟩, Nat.le_add_right .., ?_⟩
      simp only [InfoMember.store, InfoMember.size, List.length_singleton]
      omega
    cases hname : con.ecuid with
    | none =>
      rw [connectionStores_none (by omega) hname]
      intro p hp
      rw [List.mem_singleton.mp hp]
      exact hstatus
    | some ecuid =>
      rw [connectionStores_cons (by omega) hname]
      intro p hp
      rcases mem_cons.mp hp with rfl | hp
      · exact hstatus
      rcases mem_cons.mp hp with rfl | hp
      · refine ⟨.inr ⟨rfl, le_refl _⟩, Nat.le_add_right .., ?_⟩
        have hoff : i * dltIdSize = i * 4 := rfl
        simp only [InfoMember.store, InfoMember.size, ecuid.length_eq]
        omega
      · obtain ⟨hfrom, hwithin⟩ := ih (by omega) p hp
        refine ⟨hfrom.imp ?_ ?_, hwithin⟩
        · rintro ⟨hmember, hoff⟩
          exact ⟨hmember, by omega⟩
        · rintro ⟨hmember, hoff⟩
          have hnext : (i + 1) * dltIdSize = i * dltIdSize + dltIdSize := Nat.succ_mul i dltIdSize
          exact ⟨hmember, by omega⟩

theorem connectionStores_overflow (hi : i ≤ roomForNodes) (h : roomForNodes < i + cons.length) :
    (connectionStores i cons).2 = true ∨
      ∃ p ∈ (connectionStores i cons).1, ¬ p.2.Within p.1.start p.1.size := by
  induction cons generalizing i with
  | nil => exact absurd h (by rw [List.length_nil]; omega)
  | cons con cons ih =>
    rw [length_cons] at h
    cases hname : con.ecuid with
    | none =>
      rw [connectionStores_none hi hname]
      exact .inl rfl
    | some ecuid =>
      rw [connectionStores_cons hi hname]
      by_cases hlast : i = roomForNodes
      · refine .inr ⟨_, mem_cons_of_mem _ List.mem_cons_self, ?_⟩
        rintro ⟨-, hend⟩
        simp only [InfoMember.store, InfoMember.size, ecuid.length_eq] at hend
        have hfull : i * dltIdSize = dltEntryMax := by rw [hlast]; rfl
        omega
      · rcases ih (show i + 1 ≤ roomForNodes by omega) (by omega) with hfault | ⟨p, hp, hout⟩
        · exact .inl hfault
        · exact .inr ⟨p, mem_cons_of_mem _ (mem_cons_of_mem _ hp), hout⟩

/-- A store for a later connection does not meet the entry of this one. -/
theorem FromOn.avoids (h : FromOn (i + 1) p) (hi : i < dltEntryMax) (hwithin : p.2.Within p.1.start p.1.size) :
    p.2.Avoids (InfoMember.connectionStatus.start + i) 1 ∧
      p.2.Avoids (InfoMember.nodeId.start + i * dltIdSize) dltIdSize := by
  have hsize : dltIdSize = 4 := rfl
  have hbehind : InfoMember.connectionStatus.start + dltEntryMax = InfoMember.nodeId.start := rfl
  rcases h with ⟨hmember, hoff⟩ | ⟨hmember, hoff⟩
  · obtain ⟨-, hend⟩ := hwithin
    rw [hmember, InfoMember.size] at hend
    exact ⟨.inr (by omega), .inl (by omega)⟩
  · have hnext : (i + 1) * dltIdSize = i * dltIdSize + dltIdSize := Nat.succ_mul i dltIdSize
    exact ⟨.inr (by omega), .inr (by omega)⟩

theorem FromOn.avoids_head (h : FromOn i p) : p.2.Avoids InfoMember.numConnections.start 4 := by
  have hstart : InfoMember.numConnections.start + 4 = InfoMember.connectionStatus.start := rfl
  have hbehind : InfoMember.connectionStatus.start + dltEntryMax = InfoMember.nodeId.start := rfl
  rcases h with ⟨-, hoff⟩ | ⟨-, hoff⟩
  · exact .inr (by omega)
  · exact .inr (by omega)

/-- The memory of the response after the loop has an entry for each connection. -/
theorem connectionStores_entries {mem : List UInt8} (hmem : mem.length = sizeofPassiveNodeConnectionInfo)
    (h : i + cons.length ≤ roomForNodes) (hnames : ∀ con ∈ cons, con.ecuid ≠ none) :
    (List.range' i cons.length).map (fun k =>
        some (infoEntry (applyStores mem ((connectionStores i cons).1.map (·.2))) k)) =
      cons.map NodeConnection.entry := by
  have hroom : roomForNodes = 25 := rfl
  have hmax : dltEntryMax = 100 := rfl
  have hmemory : sizeofPassiveNodeConnectionInfo = 209 := rfl
  have hstatusStart : InfoMember.connectionStatus.start = 9 := rfl
  have hnodeStart : InfoMember.nodeId.start = 109 := rfl
  induction cons generalizing i mem with
  | nil => rfl
  | cons con cons ih =>
    rw [length_cons] at h
    have hoff : i * dltIdSize = i * 4 := rfl
    obtain ⟨ecuid, hname⟩ := Option.ne_none_iff_exists'.mp (hnames con List.mem_cons_self)
    have hrest := connectionStores_within (show i + 1 + cons.length ≤ roomForNodes by omega)
    rw [connectionStores_cons (by omega) hname, length_cons, List.range'_succ, map_cons, map_cons]
    simp only [map_cons, applyStores_cons, InfoMember.store]
    -- the memory with the status of this connection, and with its name too
    have hlen1 : (overwrite mem (InfoMember.connectionStatus.start + i) [con.status.toByte]).length =
        sizeofPassiveNodeConnectionInfo := by
      rw [length_overwrite (by rw [List.length_singleton]; omega), hmem]
    have hfield1 : field (overwrite mem (InfoMember.connectionStatus.start + i) [con.status.toByte])
        (InfoMember.connectionStatus.start + i) 1 = [con.status.toByte] :=
      field_overwrite [con.status.toByte] (by omega)
    generalize overwrite mem (InfoMember.connectionStatus.start + i) [con.status.toByte] = mem1 at hlen1 hfield1 ⊢
    have hlen2 : (overwrite mem1 (InfoMember.nodeId.start + i * dltIdSize) ecuid.bytes).length =
        sizeofPassiveNodeConnectionInfo := by
      rw [length_overwrite (by rw [ecuid.length_eq]; omega), hlen1]
    have hname2 : field (overwrite mem1 (InfoMember.nodeId.start + i * dltIdSize) ecuid.bytes)
        (InfoMember.nodeId.start + i * dltIdSize) dltIdSize = ecuid.bytes := by
      have hown := field_overwrite ecuid.bytes
        (show InfoMember.nodeId.start + i * dltIdSize ≤ mem1.length by omega)
      rwa [ecuid.length_eq] at hown
    have hfield2 : field (overwrite mem1 (InfoMember.nodeId.start + i * dltIdSize) ecuid.bytes)
        (InfoMember.connectionStatus.start + i) 1 = [con.status.toByte] := by
      rw [field_overwrite_of_le ecuid.bytes (by omega) (by omega), hfield1]
    generalize overwrite mem1 (InfoMember.nodeId.start + i * dltIdSize) ecuid.bytes = mem2 at hlen2 hname2 hfield2 ⊢
    have hinside : ∀ s ∈ (connectionStores (i + 1) cons).1.map (·.2), s.Within 0 mem2.length := by
      intro s hs
      obtain ⟨p, hp, rfl⟩ := mem_map.mp hs
      rw [hlen2]
      exact within_memory (hrest p hp).2
    have havoids : ∀ s ∈ (connectionStores (i + 1) cons).1.map (·.2),
        s.Avoids (InfoMember.connectionStatus.start + i) 1 ∧
          s.Avoids (InfoMember.nodeId.start + i * dltIdSize) dltIdSize := by
      intro s hs
      obtain ⟨p, hp, rfl⟩ := mem_map.mp hs
      exact (hrest p hp).1.avoids (by omega) (hrest p hp).2
    rw [ih hlen2 (by omega) fun c hc => hnames c (mem_cons_of_mem con hc)]
    congr 1
    rw [infoEntry, field_applyStores hinside fun s hs => (havoids s hs).1,
      field_applyStores hinside fun s hs => (havoids s hs).2, hfield2, hname2, NodeConnection.entry, hname,
      Option.map_some]

end loop

/-! ## The response -/

section response

variable {cons : List NodeConnection}

theorem infoStores_within (cons : List NodeConnection) :
    ∀ p ∈ infoStores cons, p.2.Within p.1.start p.1.size := by
  intro p hp
  simp only [infoStores, mem_cons, List.not_mem_nil, or_false] at hp
  rcases hp with rfl | rfl | rfl
  · refine ⟨Nat.le_add_right .., ?_⟩
    simp only [InfoMember.store, InfoMember.size, length_leBytes]
    exact le_refl _
  · refine ⟨Nat.le_add_right .., ?_⟩
    simp only [InfoMember.store, InfoMember.size, List.length_singleton]
    exact le_refl _
  · refine ⟨Nat.le_add_right .., ?_⟩
    simp only [InfoMember.store, InfoMember.size, length_leBytes]
    exact le_refl _

/-- The memory of the response in front of the loop. -/
def infoHead (cons : List NodeConnection) : List UInt8 :=
  applyStores (List.replicate sizeofPassiveNodeConnectionInfo 0) ((infoStores cons).map (·.2))

theorem length_infoHead (cons : List NodeConnection) :
    (infoHead cons).length = sizeofPassiveNodeConnectionInfo := by
  rw [infoHead, length_applyStores, List.length_replicate]
  intro s hs
  obtain ⟨p, hp, rfl⟩ := mem_map.mp hs
  rw [List.length_replicate]
  exact within_memory (infoStores_within cons p hp)

theorem field_infoHead (cons : List NodeConnection) :
    field (infoHead cons) InfoMember.numConnections.start 4 = leBytes 4 (u32 cons.length) := by
  have hlast : ∀ mem : List UInt8, InfoMember.numConnections.start ≤ mem.length →
      field (overwrite mem InfoMember.numConnections.start (leBytes 4 (u32 cons.length)))
        InfoMember.numConnections.start 4 = leBytes 4 (u32 cons.length) := by
    intro mem hmem
    have hfield := field_overwrite (leBytes 4 (u32 cons.length)) hmem
    rwa [length_leBytes] at hfield
  apply hlast
  decide +kernel

/-- **With few connections that all have names, the response tells them.** -/
theorem reports_of_few (hfew : cons.length ≤ roomForNodes) (hnames : ∀ con ∈ cons, con.ecuid ≠ none) :
    Reports cons (dltDaemonControlPassiveNodeConnectStatus true true cons) := by
  have hroom : roomForNodes = 25 := rfl
  have hloop := connectionStores_within (show 0 + cons.length ≤ roomForNodes by omega)
  have hfault : (connectionStores 0 cons).2 ≠ true := by
    rw [ne_eq, connectionStores_fault_iff (by omega)]
    rintro ⟨con, hcon, hnone⟩
    exact hnames con hcon hnone
  have hinside : ∀ s ∈ (connectionStores 0 cons).1.map (·.2), s.Within 0 (infoHead cons).length := by
    intro s hs
    obtain ⟨p, hp, rfl⟩ := mem_map.mp hs
    rw [length_infoHead]
    exact within_memory (hloop p hp).2
  have hlen := length_applyStores hinside
  rw [length_infoHead] at hlen
  have hcount : field (applyStores (infoHead cons) ((connectionStores 0 cons).1.map (·.2)))
      InfoMember.numConnections.start 4 = leBytes 4 (u32 cons.length) := by
    rw [field_applyStores hinside, field_infoHead]
    intro s hs
    obtain ⟨p, hp, rfl⟩ := mem_map.mp hs
    exact (hloop p hp).1.avoids_head
  have hentries := connectionStores_entries (length_infoHead cons)
    (show 0 + cons.length ≤ roomForNodes by omega) hnames
  rw [dltDaemonControlPassiveNodeConnectStatus, if_neg (by decide), if_neg (by decide)]
  dsimp only
  rw [if_neg hfault, List.map_append, applyStores_append, ← infoHead, List.take_of_length_le hlen.le]
  refine ⟨?_, hlen, ?_⟩
  · intro p hp
    rcases List.mem_append.mp hp with hp | hp
    · exact infoStores_within cons p hp
    · exact (hloop p hp).2
  · have hannounced : announced (applyStores (infoHead cons) ((connectionStores 0 cons).1.map (·.2))) =
        cons.length := by
      rw [announced, hcount, u32_natCast (by omega), ofLeBytes_leBytes_of_lt (by omega)]
    have hfits : cons.length * dltIdSize ≤ dltEntryMax := by
      have hsize : dltIdSize = 4 := rfl
      have hmax : dltEntryMax = 100 := rfl
      rw [hsize, hmax]
      omega
    rw [readInfo, hannounced, if_pos hfits, Option.map_some, List.map_map, ← hentries, List.range_eq_range']
    rfl

/-- **The response is right exactly when** the arrays have room for all connections and each connection has a
name, or no response is asked for. -/
theorem passiveNodeConnectStatus_reports_iff (gatewayMode memory : Bool) (cons : List NodeConnection) :
    Reports cons (dltDaemonControlPassiveNodeConnectStatus gatewayMode memory cons) ↔
      (gatewayMode = true → memory = true →
        cons.length * dltIdSize ≤ dltEntryMax ∧ ∀ con ∈ cons, con.ecuid ≠ none) := by
  cases gatewayMode with
  | false => exact ⟨fun _ hmode => absurd hmode (by decide), fun _ => trivial⟩
  | true =>
  cases memory with
  | false => exact ⟨fun _ _ hmemory => absurd hmemory (by decide), fun _ => trivial⟩
  | true =>
  have hfew : cons.length * dltIdSize ≤ dltEntryMax ↔ cons.length ≤ roomForNodes := by
    have hsize : dltIdSize = 4 := rfl
    have hmax : dltEntryMax = 100 := rfl
    have hroom : roomForNodes = 25 := rfl
    rw [hsize, hmax, hroom]
    omega
  rw [hfew]
  constructor
  · intro hreports _ _
    rw [dltDaemonControlPassiveNodeConnectStatus, if_neg (by decide), if_neg (by decide)] at hreports
    dsimp only at hreports
    by_cases hfault : (connectionStores 0 cons).2 = true
    · rw [if_pos hfault] at hreports
      exact hreports.elim
    rw [if_neg hfault] at hreports
    obtain ⟨hwithin, -, -⟩ := hreports
    have hroom : cons.length ≤ roomForNodes := by
      by_contra hmany
      rcases connectionStores_overflow (Nat.zero_le _) (show roomForNodes < 0 + cons.length by omega) with
        hbad | ⟨p, hp, hout⟩
      · exact hfault hbad
      · exact hout (hwithin p (List.mem_append_right _ hp))
    refine ⟨hroom, fun con hcon hnone => hfault ?_⟩
    exact (connectionStores_fault_iff (by omega)).mpr ⟨con, hcon, hnone⟩
  · intro h
    obtain ⟨hroom, hnames⟩ := h rfl rfl
    exact reports_of_few hroom hnames

end response

/-! ## Samples -/

def reportedNode : NodeConnection := ⟨.connected, some (dltSetId (ascii "ECU2"))⟩

/-- With twenty-six nodes the last name is written behind the response. -/
theorem passiveNodeConnectStatus_overflows :
    ¬ Reports (List.replicate 26 reportedNode)
      (dltDaemonControlPassiveNodeConnectStatus true true (List.replicate 26 reportedNode)) ∧
    ∃ stores payload,
      dltDaemonControlPassiveNodeConnectStatus true true (List.replicate 26 reportedNode) = .sent stores payload ∧
        (InfoMember.nodeId, (⟨sizeofPassiveNodeConnectionInfo, ascii "ECU2"⟩ : Store UInt8)) ∈ stores := by
  have hout : (InfoMember.nodeId, (⟨sizeofPassiveNodeConnectionInfo, ascii "ECU2"⟩ : Store UInt8)) ∈
      infoStores (replicate 26 reportedNode) ++ (connectionStores 0 (replicate 26 reportedNode)).1 := by
    decide +kernel
  have hfault : (connectionStores 0 (replicate 26 reportedNode)).2 ≠ true := by decide +kernel
  rw [dltDaemonControlPassiveNodeConnectStatus, if_neg (by decide), if_neg (by decide)]
  dsimp only
  rw [if_neg hfault]
  refine ⟨?_, _, _, rfl, hout⟩
  rintro ⟨hwithin, -, -⟩
  exact absurd (hwithin _ hout) (by decide)

end Dlt.Gateway
