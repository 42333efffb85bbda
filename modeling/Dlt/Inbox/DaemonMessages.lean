import Dlt.Daemon.UserMessagesRead
import Dlt.Inbox.CheckUserMessage

/-!
# What the messages of the daemon ask for

* `DaemonMessage.calls`, `DaemonMessage.apply` — the callbacks that a message is to call, and what it changes.
* `StreamItem`, `stream` — a stream of well-formed messages with garbage between them. `drain_stream` — its messages.
-/

namespace Dlt.Inbox

open Dlt.Lib Dlt.Shared List Daemon.UserMessage
open Dlt.Daemon (userHeaderPattern dltUserCheckUserheader userHeaderMessage message_userHeader)
open Dlt.Daemon.UserMessage (userHeader)

/-! ## Messages -/

/-- What the stream consists of. -/
inductive DaemonMessage
  /-- Bytes in front of a header. -/
  | garbage
  | logLevel (m : DltUserControlMsgLogLevel)
  | injection (logLevelPos : Int32) (serviceId : UInt32) (data : List UInt8)
  | logState (m : DltUserControlMsgLogState)
  /-- A header with another type. -/
  | unknown
deriving DecidableEq

/-- A message with a header in front, and its size. -/
def readMessage (bytes : List UInt8) : Option (DaemonMessage × ℕ) :=
  let payload := bytes.drop sizeofDltUserHeader
  if userHeaderMessage bytes = dltUserMessageLogLevel then
    if payload.length < 6 then none else some (.logLevel (logLevelLayout.decode (payload.take 6)), 14)
  else if userHeaderMessage bytes = dltUserMessageInjection then
    if payload.length < 12 then none
    else
      let m := injectionLayout.decode (payload.take 12)
      if payload.length < 12 + m.dataLengthInject.toNat then none
      else some (.injection m.logLevelPos m.serviceId ((payload.drop 12).take m.dataLengthInject.toNat),
        20 + m.dataLengthInject.toNat)
  else if userHeaderMessage bytes = dltUserMessageLogState then
    if payload.length < 1 then none else some (.logState (logStateLayout.decode (payload.take 1)), 9)
  else some (.unknown, 8)

/-- The next message, or the garbage in front of the next header. -/
def readNext (bytes : List UInt8) : Option (DaemonMessage × ℕ) :=
  match find userHeaderPattern bytes with
  | none => none
  | some offset =>
      if bytes.length < offset + sizeofDltUserHeader then none
      else if 0 < offset then some (.garbage, offset)
      else readMessage bytes

section read

variable {bytes : List UInt8} {m : DaemonMessage} {n : ℕ}

theorem userHeaderMessage_append (h : sizeofDltUserHeader ≤ bytes.length) (more : List UInt8) :
    userHeaderMessage (bytes ++ more) = userHeaderMessage bytes := by
  unfold sizeofDltUserHeader at h
  unfold userHeaderMessage
  rw [drop_append_of_le_length (by omega), take_append_of_le_length (by rw [length_drop]; omega)]

/-- A message is not empty, is among the bytes, and does not depend on what follows. -/
theorem readMessage_spec (hlen : sizeofDltUserHeader ≤ bytes.length) (h : readMessage bytes = some (m, n)) :
    0 < n ∧ n ≤ bytes.length ∧ ∀ more, readMessage (bytes ++ more) = some (m, n) := by
  have hdrop : ∀ more : List UInt8, (bytes ++ more).drop sizeofDltUserHeader =
      bytes.drop sizeofDltUserHeader ++ more := fun more => drop_append_of_le_length hlen
  have htake : ∀ {k : ℕ} (more : List UInt8), k ≤ (bytes.drop sizeofDltUserHeader).length →
      ((bytes ++ more).drop sizeofDltUserHeader).take k = (bytes.drop sizeofDltUserHeader).take k := by
    intro k more hk
    rw [hdrop, take_append_of_le_length hk]
  have hlength : ∀ more : List UInt8, (bytes.drop sizeofDltUserHeader).length ≤
      ((bytes ++ more).drop sizeofDltUserHeader).length := by
    intro more
    rw [length_drop, length_drop, length_append]
    omega
  have hpayload : (bytes.drop sizeofDltUserHeader).length = bytes.length - 8 := length_drop
  unfold readMessage at h ⊢
  unfold sizeofDltUserHeader at hlen
  dsimp only at h ⊢
  simp only [userHeaderMessage_append (show sizeofDltUserHeader ≤ bytes.length from hlen)]
  by_cases hlevel : userHeaderMessage bytes = dltUserMessageLogLevel
  · rw [if_pos hlevel] at h
    simp only [if_pos hlevel]
    split_ifs at h with hshort
    obtain ⟨rfl, rfl⟩ := Prod.mk.inj (Option.some.inj h)
    refine ⟨by decide, by omega, fun more => ?_⟩
    have hmore := hlength more
    rw [if_neg (by omega), htake more (by omega)]
  rw [if_neg hlevel] at h
  simp only [if_neg hlevel]
  by_cases hinjection : userHeaderMessage bytes = dltUserMessageInjection
  · rw [if_pos hinjection] at h
    simp only [if_pos hinjection]
    by_cases hshort : (bytes.drop sizeofDltUserHeader).length < 12
    · rw [if_pos hshort] at h
      exact absurd h nofun
    rw [if_neg hshort] at h
    generalize hm : injectionLayout.decode ((bytes.drop sizeofDltUserHeader).take 12) = inj at h
    by_cases hdata : (bytes.drop sizeofDltUserHeader).length < 12 + inj.dataLengthInject.toNat
    · rw [if_pos hdata] at h
      exact absurd h nofun
    rw [if_neg hdata] at h
    obtain ⟨rfl, rfl⟩ := Prod.mk.inj (Option.some.inj h)
    refine ⟨by omega, by omega, fun more => ?_⟩
    have hmore := hlength more
    rw [if_neg (by omega), htake more (by omega), hm, if_neg (by omega), hdrop,
      drop_append_of_le_length (not_lt.mp hshort), take_append_of_le_length]
    rw [length_drop]
    omega
  rw [if_neg hinjection] at h
  simp only [if_neg hinjection]
  by_cases hstate : userHeaderMessage bytes = dltUserMessageLogState
  · rw [if_pos hstate] at h
    simp only [if_pos hstate]
    split_ifs at h with hshort
    obtain ⟨rfl, rfl⟩ := Prod.mk.inj (Option.some.inj h)
    refine ⟨by decide, by omega, fun more => ?_⟩
    have hmore := hlength more
    rw [if_neg (by omega), htake more (by omega)]
  · rw [if_neg hstate] at h
    simp only [if_neg hstate]
    obtain ⟨rfl, rfl⟩ := Prod.mk.inj (Option.some.inj h)
    exact ⟨by decide, hlen, fun _ => rfl⟩

theorem readNext_spec (h : readNext bytes = some (m, n)) :
    0 < n ∧ n ≤ bytes.length ∧ ∀ more, readNext (bytes ++ more) = some (m, n) := by
  unfold readNext at h ⊢
  cases hfind : find userHeaderPattern bytes with
  | none =>
    rw [hfind] at h
    exact absurd h nofun
  | some offset =>
    rw [hfind] at h
    dsimp only at h
    by_cases hshort : bytes.length < offset + sizeofDltUserHeader
    · rw [if_pos hshort] at h
      exact absurd h nofun
    rw [if_neg hshort] at h
    have hmore : ∀ more : List UInt8, ¬ (bytes ++ more).length < offset + sizeofDltUserHeader := by
      intro more
      rw [length_append]
      omega
    by_cases hpos : 0 < offset
    · rw [if_pos hpos] at h
      obtain ⟨rfl, rfl⟩ := Prod.mk.inj (Option.some.inj h)
      refine ⟨hpos, by omega, fun more => ?_⟩
      rw [find_append hfind]
      dsimp only
      rw [if_neg (hmore more), if_pos hpos]
    · rw [if_neg hpos] at h
      obtain ⟨hn, hle, hstable⟩ := readMessage_spec (by omega) h
      refine ⟨hn, hle, fun more => ?_⟩
      rw [find_append hfind]
      dsimp only
      rw [if_neg (hmore more), if_neg hpos, hstable]

end read

/-- The messages of a stream. -/
def reader : Reader UInt8 DaemonMessage where
  read := readNext
  pos h := (readNext_spec h).1
  le h := (readNext_spec h).2.1
  stable h := (readNext_spec h).2.2

/-! ## What the messages ask for -/

/-- The position of an entry of the table. -/
def ValidPos (tables : AppTables) (pos : Int32) : Prop := 0 ≤ pos.toInt ∧ pos.toInt < tables.numEntries

instance (tables : AppTables) (pos : Int32) : Decidable (ValidPos tables pos) := inferInstanceAs (Decidable (_ ∧ _))

def AppTables.entry (tables : AppTables) (pos : Int32) : Option DltLlTs :=
  if ValidPos tables pos then (tables.dltLlTs.getD [])[pos.toInt.toNat]? else none

def injectionCall (entry : DltLlTs) (serviceId : UInt32) (data : List UInt8) : Option CallbackCall :=
  match entry.injectionTable.find? (·.serviceId = serviceId) with
  | none => none
  | some callback =>
      match callback.injectionCallback, callback.injectionCallbackWithId with
      | some f, _ => some (.injected f serviceId data)
      | none, some f => some (.injectedWithId f serviceId data callback.data)
      | none, none => none

/-- The calls of callbacks that a message asks for: the level-changed callback of a context for a level, the callback
of the service for an injection, and nothing else. -/
def DaemonMessage.calls (tables : AppTables) : DaemonMessage → List CallbackCall
  | logLevel m =>
      match (tables.entry m.logLevelPos).bind fun entry => entry.logLevelChangedCallback.map (entry, ·) with
      | none => []
      | some (entry, callback) => [.levelChanged callback entry.contextId m.logLevel m.traceStatus]
  | injection pos serviceId data =>
      ((tables.entry pos).bind fun entry => injectionCall entry serviceId data).toList
  | _ => []

def DaemonMessage.apply (tables : AppTables) : DaemonMessage → AppTables
  | logLevel m =>
      match tables.entry m.logLevelPos with
      | none => tables
      | some entry => tables.setEntry m.logLevelPos (entry.withLevel m)
  | logState m => { tables with logState := m.logState }
  | _ => tables

/-- The calls of callbacks that messages ask for, one behind the other. -/
def messageCalls : AppTables → List DaemonMessage → List CallbackCall
  | _, [] => []
  | tables, m :: rest => m.calls tables ++ messageCalls (m.apply tables) rest

def messageTables (tables : AppTables) (ms : List DaemonMessage) : AppTables :=
  ms.foldl (fun tables m => m.apply tables) tables

theorem messageCalls_append (tables : AppTables) (ms ms' : List DaemonMessage) :
    messageCalls tables (ms ++ ms') = messageCalls tables ms ++ messageCalls (messageTables tables ms) ms' := by
  induction ms generalizing tables with
  | nil => rfl
  | cons m ms ih =>
    rw [cons_append, messageCalls, messageCalls, ih, append_assoc]
    rfl

theorem messageTables_append (tables : AppTables) (ms ms' : List DaemonMessage) :
    messageTables tables (ms ++ ms') = messageTables (messageTables tables ms) ms' := foldl_append

/-! ## Streams of messages -/

/-- A well-formed message. -/
inductive WireMessage
  | logLevel (m : DltUserControlMsgLogLevel)
  | injection (logLevelPos : Int32) (serviceId : UInt32) (data : List UInt8) (h : data.length < 4294967296)
  | logState (m : DltUserControlMsgLogState)

open WireMessage

def WireMessage.message : WireMessage → DaemonMessage
  | logLevel m => .logLevel m
  | injection pos serviceId data _ => .injection pos serviceId data
  | logState m => .logState m

/-- The bytes that the daemon writes. Source: `dlt_daemon_common.c`, `dlt_daemon_user_send_log_level` and
`dlt_daemon_user_send_log_state`; `dlt_daemon_client.c`, `dlt_daemon_control_callsw_cinjection` -/
def WireMessage.bytes : WireMessage → List UInt8
  | logLevel m => userHeader dltUserMessageLogLevel ++ logLevelLayout.encode m
  | injection pos serviceId data _ =>
      userHeader dltUserMessageInjection ++
        (injectionLayout.encode ⟨pos, serviceId, UInt32.ofNat data.length⟩ ++ data)
  | logState m => userHeader dltUserMessageLogState ++ logStateLayout.encode m

/-- A message with garbage in front of it. -/
structure StreamItem where
  garbage : List UInt8
  no_header : ¬ userHeaderPattern <:+: garbage
  message : WireMessage

/-- Messages with garbage in front of them and behind them. -/
def stream (items : List StreamItem) (tail : List UInt8) : List UInt8 :=
  items.foldr (fun item rest => item.garbage ++ (item.message.bytes ++ rest)) tail

def streamMessages (items : List StreamItem) : List DaemonMessage := items.map (·.message.message)

theorem readMessage_bytes (m : WireMessage) (rest : List UInt8) :
    readMessage (m.bytes ++ rest) = some (m.message, m.bytes.length) := by
  have hdrop : ∀ (type : ℕ) (payload : List UInt8),
      (userHeader type ++ payload).drop sizeofDltUserHeader = payload := fun type payload =>
    drop_left' (length_userHeader type)
  unfold readMessage
  cases m with
  | logLevel m =>
    unfold bytes message
    dsimp only
    rw [append_assoc, hdrop, message_userHeader (by decide), if_pos rfl, if_neg, length_append,
      length_userHeader, Layout.length_encode]
    · rw [show (logLevelLayout.encode m ++ rest).take 6 = (logLevelLayout.encode m ++ rest).take logLevelLayout.size
        from rfl, logLevelLayout.decode_take]
      rfl
    · rw [length_append, Layout.length_encode, size_logLevelLayout]
      omega
  | injection pos serviceId data h =>
    have hlength : (UInt32.ofNat data.length).toNat = data.length := by
      rw [UInt32.toNat_ofNat']
      exact Nat.mod_eq_of_lt h
    have htake := injectionLayout.decode_take ⟨pos, serviceId, UInt32.ofNat data.length⟩ (data ++ rest)
    have hbehind : (injectionLayout.encode ⟨pos, serviceId, UInt32.ofNat data.length⟩ ++ (data ++ rest)).drop 12 =
        data ++ rest := drop_left' (injectionLayout.length_encode _)
    rw [size_injectionLayout] at htake
    unfold bytes message
    dsimp only
    rw [append_assoc, hdrop, message_userHeader (by decide), if_neg (by decide), if_pos rfl, append_assoc,
      htake, hbehind, hlength, take_left, length_append, length_append, length_append,
      length_append, Layout.length_encode, length_userHeader, size_injectionLayout]
    rw [if_neg (by omega), if_neg (by omega)]
    unfold sizeofDltUserHeader
    rw [← Nat.add_assoc]
  | logState m =>
    unfold bytes message
    dsimp only
    rw [append_assoc, hdrop, message_userHeader (by decide), if_neg (by decide), if_neg (by decide), if_pos rfl,
      if_neg, length_append, length_userHeader, Layout.length_encode]
    · rw [show (logStateLayout.encode m ++ rest).take 1 = (logStateLayout.encode m ++ rest).take logStateLayout.size
        from rfl, logStateLayout.decode_take]
      rfl
    · rw [length_append, Layout.length_encode, size_logStateLayout]
      omega

theorem bytes_eq (m : WireMessage) : ∃ payload, m.bytes = userHeaderPattern ++ payload ∧ 4 ≤ payload.length := by
  cases m with
  | logLevel m => exact ⟨_, append_assoc _ _ _, by simp⟩
  | injection pos serviceId data h => exact ⟨_, append_assoc _ _ _, by simp⟩
  | logState m => exact ⟨_, append_assoc _ _ _, by simp⟩

theorem find_garbage {garbage : List UInt8} (h : ¬ userHeaderPattern <:+: garbage) (m : WireMessage)
    (rest : List UInt8) : find userHeaderPattern (garbage ++ (m.bytes ++ rest)) = some garbage.length := by
  obtain ⟨payload, hbytes, -⟩ := bytes_eq m
  rw [hbytes, append_assoc]
  exact find_append_of_not_infix (by decide) h _

theorem readNext_bytes (m : WireMessage) (rest : List UInt8) :
    readNext (m.bytes ++ rest) = some (m.message, m.bytes.length) := by
  have hfind := @find_garbage [] (by decide) m rest
  obtain ⟨payload, hbytes, hpayload⟩ := bytes_eq m
  unfold readNext
  rw [nil_append] at hfind
  rw [hfind]
  dsimp only
  rw [length_nil, if_neg, if_neg (by decide), readMessage_bytes]
  rw [hbytes, length_append, length_append]
  unfold sizeofDltUserHeader userHeaderPattern
  simp only [length_cons, length_nil]
  omega

theorem readNext_garbage {garbage : List UInt8} (h : ¬ userHeaderPattern <:+: garbage) (hne : garbage ≠ [])
    (m : WireMessage) (rest : List UInt8) :
    readNext (garbage ++ (m.bytes ++ rest)) = some (.garbage, garbage.length) := by
  obtain ⟨payload, hbytes, hpayload⟩ := bytes_eq m
  have hlength : (garbage ++ (m.bytes ++ rest)).length = garbage.length + (4 + payload.length + rest.length) := by
    rw [hbytes, length_append, length_append, length_append]
    rfl
  unfold readNext
  rw [find_garbage h]
  dsimp only
  rw [if_neg (by rw [hlength]; unfold sizeofDltUserHeader; omega), if_pos (length_pos_iff.mpr hne)]

/-- **The messages of a stream** ask for the same as what the reader reads. -/
theorem drain_stream (tables : AppTables) (items : List StreamItem) {tail : List UInt8}
    (htail : ¬ userHeaderPattern <:+: tail) :
    messageCalls tables (reader.drain (stream items tail)).1 = messageCalls tables (streamMessages items) ∧
      messageTables tables (reader.drain (stream items tail)).1 = messageTables tables (streamMessages items) := by
  induction items generalizing tables with
  | nil =>
    have hread : reader.read tail = none := by
      change readNext tail = none
      unfold readNext
      cases hfind : find userHeaderPattern tail with
      | none => rfl
      | some k => exact absurd ((prefix_of_find hfind).isInfix.trans (drop_suffix k tail).isInfix) htail
    rw [show stream [] tail = tail from rfl, Reader.drain_none hread]
    exact ⟨rfl, rfl⟩
  | cons item items ih =>
    obtain ⟨garbage, hgarbage, m⟩ := item
    have hstream : stream (⟨garbage, hgarbage, m⟩ :: items) tail = garbage ++ (m.bytes ++ stream items tail) := rfl
    have hmessage : reader.drain (m.bytes ++ stream items tail) =
        (m.message :: (reader.drain (stream items tail)).1, (reader.drain (stream items tail)).2) := by
      rw [Reader.drain_some (readNext_bytes m (stream items tail)), drop_left]
    obtain ⟨hcalls, htables⟩ := ih (m.message.apply tables)
    by_cases hnil : garbage = []
    · subst hnil
      rw [hstream, nil_append, hmessage]
      refine ⟨?_, htables⟩
      rw [messageCalls, hcalls]
      rfl
    · rw [hstream, Reader.drain_some (readNext_garbage hgarbage hnil m (stream items tail)), drop_left, hmessage]
      refine ⟨?_, htables⟩
      rw [messageCalls, messageCalls]
      change [] ++ (m.message.calls tables ++ messageCalls (m.message.apply tables) _) = _
      rw [hcalls]
      rfl

end Dlt.Inbox
