import Dlt.Inbox.DaemonMessages

/-!
# One turn of the loop over the messages of the daemon

* `userMessageTurn_stops`, `userMessageTurn_garbage`, `userMessageTurn_message` — the turns of the loop.
-/

namespace Dlt.Inbox

open Dlt.Lib Dlt.Shared Checked List AppTables
open Option (bind_some getD_some map_some)
open Dlt.Daemon (userHeaderPattern dltUserCheckUserheader userHeaderMessage)

/-! ## States -/

/-- The loop with these bytes left. -/
structure InLoop (buffer : List UInt8) (s : CheckState) (bytes : List UInt8) (tables : AppTables)
    (pending : Option ℕ) : Prop where
  view : View buffer s.receiver bytes
  tables : s.tables = tables
  /-- The level-changed callback that was found last is not forgotten. -/
  pending : s.delayed.levelCallback = pending
  injection : s.delayed.injectionCallback = none
  injectionWithId : s.delayed.injectionCallbackWithId = none

/-- The level-changed callback behind a message. -/
def DaemonMessage.pending (tables : AppTables) (pending : Option ℕ) : DaemonMessage → Option ℕ
  | logLevel m => ((tables.entry m.logLevelPos).map (·.logLevelChangedCallback)).getD pending
  | _ => pending

/-- The messages that are handled correctly: no level for a position outside the table while a level-changed callback
is pending, no injection for a position outside the table, and no empty injection for a service that is registered. -/
def MessageFits (tables : AppTables) (pending : Option ℕ) : DaemonMessage → Prop
  | .logLevel m => ¬ ValidPos tables m.logLevelPos → pending = none
  | .injection pos serviceId data =>
      (data ≠ [] → tables.dltLlTs.isSome → ValidPos tables pos) ∧
        (data = [] → (tables.entry pos).bind (injectionCall · serviceId data) = none)
  | _ => True

/-- A header of an injection that announces more data than an `int` counts. -/
def HugeInjection (bytes : List UInt8) : Prop :=
  userHeaderPattern <+: bytes ∧ userHeaderMessage bytes = dltUserMessageInjection ∧ 20 ≤ bytes.length ∧
    2147483648 ≤ 20 + (injectionLayout.decode ((bytes.drop sizeofDltUserHeader).take 12)).dataLengthInject.toNat

/-- What a turn leaves behind a message. -/
structure Handled (buffer : List UInt8) (s s' : CheckState) (bytes : List UInt8) (pending : Option ℕ)
    (m : DaemonMessage) : Prop where
  inLoop : InLoop buffer s' bytes (m.apply s.tables) (m.pending s.tables pending)
  calls : s'.calls = s.calls ++ m.calls s.tables

variable {malloc : Malloc} {buffer bytes : List UInt8} {s s' : CheckState} {tables : AppTables} {pending : Option ℕ}

/-! ## Steps -/

theorem peekReceived_result (h : View buffer s.receiver bytes) {i n : ℕ} (hin : i + n ≤ bytes.length) :
    (peekReceived buffer i n).result s = some (.ok ((bytes.drop i).take n), s) := by
  unfold peekReceived
  rw [result_get_bind, h.view_eq, peek_eq hin]
  rfl

theorem AppTables.entry_of_valid {pos : Int32} (h : ValidPos tables pos) :
    ∃ entries entry, tables.dltLlTs = some entries ∧ entryAt entries pos = some entry ∧
      tables.entry pos = some entry := by
  obtain ⟨hnonneg, hlt⟩ := h
  unfold numEntries at hlt
  cases hentries : tables.dltLlTs with
  | none =>
    rw [hentries, Option.getD_none, length_nil] at hlt
    omega
  | some entries =>
    rw [hentries, getD_some] at hlt
    have hin : pos.toInt.toNat < entries.length := by omega
    refine ⟨entries, entries[pos.toInt.toNat], rfl, ?_, ?_⟩
    · unfold entryAt
      rw [if_pos hnonneg, getElem?_eq_getElem hin]
    · have hvalid : ValidPos tables pos := by
        unfold ValidPos numEntries
        rw [hentries, getD_some]
        exact ⟨hnonneg, hlt⟩
      unfold AppTables.entry
      rw [if_pos hvalid, hentries, getD_some, getElem?_eq_getElem hin]

theorem AppTables.entry_of_not_valid {pos : Int32} (h : ¬ ValidPos tables pos) : tables.entry pos = none := if_neg h

theorem validPos_iff (pos : Int32) :
    (0 ≤ pos.toInt ∧ pos.toInt < i32 tables.numEntries) ↔ ValidPos tables pos := by
  have h : tables.numEntries < 2147483648 := tables.length_lt
  unfold ValidPos
  rw [i32_natCast h]

/-! ## A level -/

variable {m : DltUserControlMsgLogLevel}

theorem setLevel_of_not_valid (h : ¬ ValidPos s.tables m.logLevelPos) :
    (setLevel m).result s = some (.ok (), s) := by
  unfold setLevel
  rw [result_get_bind, if_neg (fun h' => h ((validPos_iff _).mp h'))]
  rfl

theorem setLevel_of_valid {entry : DltLlTs} (h : s.tables.entry m.logLevelPos = some entry) :
    (setLevel m).result s = some (.ok (), { s with
      tables := s.tables.setEntry m.logLevelPos (entry.withLevel m)
      delayed := { s.delayed with
        levelCallback := entry.logLevelChangedCallback
        contextId := entry.contextId
        logLevel := m.logLevel.toInt8
        traceStatus := m.traceStatus.toInt8 } }) := by
  have hvalid : ValidPos s.tables m.logLevelPos := by
    by_contra hnot
    rw [entry_of_not_valid hnot] at h
    exact absurd h nofun
  obtain ⟨entries, entry', hentries, hat, hentry⟩ := entry_of_valid hvalid
  obtain rfl := Option.some.inj (h.symm.trans hentry)
  unfold setLevel
  rw [result_get_bind, if_pos ((validPos_iff _).mpr hvalid), hentries]
  dsimp only
  rw [hat]
  rfl

theorem callLevelChanged_none (h : s.delayed.levelCallback = none) : callLevelChanged.result s = some (.ok (), s) := by
  unfold callLevelChanged
  rw [result_get_bind, h]
  rfl

theorem callLevelChanged_some {callback : ℕ} (h : s.delayed.levelCallback = some callback) :
    callLevelChanged.result s = some (.ok (), { s with calls := s.calls ++
      [.levelChanged callback s.delayed.contextId s.delayed.logLevel.toUInt8 s.delayed.traceStatus.toUInt8] }) := by
  unfold callLevelChanged
  rw [result_get_bind, h]
  rfl

theorem setLevel_callLevelChanged (h : InLoop buffer s bytes s.tables pending)
    (hfits : MessageFits s.tables pending (.logLevel m)) :
    ∃ s', Checked.result (do setLevel m; callLevelChanged) s = some (.ok (), s') ∧
      Handled buffer s s' bytes pending (.logLevel m) := by
  by_cases hvalid : ValidPos s.tables m.logLevelPos
  · obtain ⟨entries, entry, -, -, hentry⟩ := entry_of_valid hvalid
    rw [result_bind_of_ok (setLevel_of_valid hentry)]
    cases hcallback : entry.logLevelChangedCallback with
    | none =>
      rw [callLevelChanged_none rfl]
      refine ⟨_, rfl, ⟨h.view, ?_, ?_, h.injection, h.injectionWithId⟩, ?_⟩
      · simp [DaemonMessage.apply, hentry]
      · simp [DaemonMessage.pending, hentry, hcallback]
      · simp [DaemonMessage.calls, hentry, hcallback]
    | some callback =>
      rw [callLevelChanged_some rfl]
      refine ⟨_, rfl, ⟨h.view, ?_, ?_, h.injection, h.injectionWithId⟩, ?_⟩
      · simp [DaemonMessage.apply, hentry]
      · simp [DaemonMessage.pending, hentry, hcallback]
      · simp [DaemonMessage.calls, hentry, hcallback]
  · have hnone := entry_of_not_valid hvalid
    rw [result_bind_of_ok (setLevel_of_not_valid hvalid), callLevelChanged_none (h.pending.trans (hfits hvalid))]
    refine ⟨_, rfl, ⟨h.view, ?_, ?_, h.injection, h.injectionWithId⟩, ?_⟩
    · simp [DaemonMessage.apply, hnone]
    · simp [DaemonMessage.pending, hnone, h.pending]
    · simp [DaemonMessage.calls, hnone]

theorem Handled.removed {s' : CheckState} {m : DaemonMessage} (h : Handled buffer s s' bytes pending m) {n : ℕ}
    (hpos : 0 < n) (hn : n ≤ bytes.length) :
    Handled buffer s { s' with receiver := (dltReceiverRemove s'.receiver n).1 } (bytes.drop n) pending m :=
  ⟨⟨(remove_view h.inLoop.view hpos hn).1, h.inLoop.tables, h.inLoop.pending, h.inLoop.injection,
    h.inLoop.injectionWithId⟩, h.calls⟩

/-- **A level that fits.** -/
theorem logLevelMessage_fits (h : InLoop buffer s bytes s.tables pending) (hlen : 14 ≤ bytes.length)
    (hfits : MessageFits s.tables pending
      (.logLevel (logLevelLayout.decode ((bytes.drop sizeofDltUserHeader).take 6)))) :
    ∃ s', (logLevelMessage buffer).result s = some (.ok true, s') ∧
      Handled buffer s s' (bytes.drop 14) pending
        (.logLevel (logLevelLayout.decode ((bytes.drop sizeofDltUserHeader).take 6))) := by
  have hrcvd := h.view.bytesRcvd_eq
  obtain ⟨s', hresult, hhandled⟩ := setLevel_callLevelChanged h hfits
  refine ⟨_, ?_, hhandled.removed (by decide) hlen⟩
  unfold logLevelMessage
  rw [result_get_bind, size_logLevelLayout, if_neg (by unfold sizeofDltUserHeader; omega),
    result_bind_of_ok (peekReceived_result h.view (by unfold sizeofDltUserHeader; omega)), ← bind_assoc,
    result_bind_of_ok hresult]
  rfl

/-- **A state.** -/
theorem logStateMessage_fits (h : InLoop buffer s bytes s.tables pending) (hlen : 9 ≤ bytes.length) :
    ∃ s', (logStateMessage buffer).result s = some (.ok true, s') ∧
      Handled buffer s s' (bytes.drop 9) pending
        (.logState (logStateLayout.decode ((bytes.drop sizeofDltUserHeader).take 1))) := by
  have hrcvd := h.view.bytesRcvd_eq
  obtain ⟨s', hs', hhandled⟩ : ∃ s' : CheckState, { s with tables := { s.tables with
      logState := (logStateLayout.decode ((bytes.drop sizeofDltUserHeader).take 1)).logState } } = s' ∧
      Handled buffer s s' bytes pending
        (.logState (logStateLayout.decode ((bytes.drop sizeofDltUserHeader).take 1))) :=
    ⟨_, rfl, ⟨⟨h.view, rfl, h.pending, h.injection, h.injectionWithId⟩, (append_nil _).symm⟩⟩
  refine ⟨_, ?_, hhandled.removed (by decide) hlen⟩
  rw [← hs']
  unfold logStateMessage
  rw [result_get_bind, size_logStateLayout, if_neg (by unfold sizeofDltUserHeader; omega),
    result_bind_of_ok (peekReceived_result h.view (by unfold sizeofDltUserHeader; omega))]
  rfl

/-! ## An injection -/

variable {m : DltUserControlMsgInjection}

theorem findInjection_none
    (hfits : 0 < m.dataLengthInject.toNat → s.tables.dltLlTs.isSome → ValidPos s.tables m.logLevelPos)
    (h : 0 < m.dataLengthInject.toNat → ∀ entry, s.tables.entry m.logLevelPos = some entry →
      entry.injectionTable.find? (·.serviceId = m.serviceId) = none) :
    (findInjection malloc buffer m).result s = some (.ok none, s) := by
  unfold findInjection
  rw [result_get_bind]
  by_cases hpos : 0 < m.dataLengthInject.toNat
  swap
  · rw [if_neg hpos]
    rfl
  rw [if_pos hpos]
  cases hentries : s.tables.dltLlTs with
  | none => rfl
  | some entries =>
    obtain ⟨entries', entry, hsome, hat, hentry⟩ := entry_of_valid (hfits hpos (by rw [hentries]; rfl))
    obtain rfl := Option.some.inj (hentries.symm.trans hsome)
    dsimp only
    rw [hat, ofOption_some, pure_bind, h hpos entry hentry]
    rfl

theorem findInjection_some (hm : malloc.Succeeds) (hv : View buffer s.receiver bytes)
    (hpos : 0 < m.dataLengthInject.toNat) (hlen : 20 + m.dataLengthInject.toNat ≤ bytes.length) {entry : DltLlTs}
    (hvalid : ValidPos s.tables m.logLevelPos) (hentry : s.tables.entry m.logLevelPos = some entry)
    {callback : DltUserInjectionCallback}
    (hfind : entry.injectionTable.find? (·.serviceId = m.serviceId) = some callback) :
    (findInjection malloc buffer m).result s =
      some (.ok (some ((bytes.drop 20).take m.dataLengthInject.toNat)),
        { s with delayed := s.delayed.inject callback m.serviceId }) := by
  obtain ⟨entries, entry', hentries, hat, hentry'⟩ := entry_of_valid hvalid
  obtain rfl := Option.some.inj (hentry.symm.trans hentry')
  have hmalloc : ¬ (malloc m.dataLengthInject.toNat).isNone = true := by
    obtain ⟨block, hblock⟩ := Option.isSome_iff_exists.mp (hm m.dataLengthInject.toNat)
    rw [hblock]
    exact Bool.false_ne_true
  unfold findInjection
  rw [result_get_bind, if_pos hpos, hentries]
  dsimp only
  rw [hat, ofOption_some, pure_bind, hfind]
  dsimp only
  rw [if_neg hmalloc]
  have hpeek := @peekReceived_result buffer bytes { s with delayed := s.delayed.inject callback m.serviceId } hv
    (sizeofDltUserHeader + injectionLayout.size) m.dataLengthInject.toNat (by
      rw [size_injectionLayout]
      unfold sizeofDltUserHeader
      omega)
  have hset : (set { s with delayed := s.delayed.inject callback m.serviceId } : Check PUnit).result s =
      some (.ok ⟨⟩, { s with delayed := s.delayed.inject callback m.serviceId }) := rfl
  rw [result_bind_of_ok hset, result_bind_of_ok hpeek]
  rfl

/-- The callback that was found is called with the data, and is forgotten. -/
theorem callInjection_some (callback : DltUserInjectionCallback) (serviceId : UInt32) (data : List UInt8)
    (hplain : s.delayed.injectionCallback = none) (hid : s.delayed.injectionCallbackWithId = none)
    (hs : s' = { s with delayed := s.delayed.inject callback serviceId }) :
    ∃ s'', (callInjection (some data)).result s' = some (.ok (), s'') ∧ s''.receiver = s.receiver ∧
      s''.tables = s.tables ∧ s''.delayed.levelCallback = s.delayed.levelCallback ∧
      s''.delayed.injectionCallback = none ∧ s''.delayed.injectionCallbackWithId = none ∧
      s''.calls = s.calls ++ (match callback.injectionCallback, callback.injectionCallbackWithId with
        | some f, _ => [.injected f serviceId data]
        | none, some f => [.injectedWithId f serviceId data callback.data]
        | none, none => []) := by
  subst hs
  obtain ⟨service, plain, withId, priv⟩ := callback
  obtain ⟨receiver, tables, ⟨plain', withId', serviceId', priv', level, contextId, logLevel, traceStatus⟩, calls⟩ := s
  obtain rfl : plain' = none := hplain
  obtain rfl : withId' = none := hid
  cases plain with
  | some f => exact ⟨_, rfl, rfl, rfl, rfl, rfl, rfl, rfl⟩
  | none =>
    cases withId with
    | some f => exact ⟨_, rfl, rfl, rfl, rfl, rfl, rfl, rfl⟩
    | none => exact ⟨_, rfl, rfl, rfl, rfl, rfl, rfl, (append_nil calls).symm⟩

theorem injection_ne_nil_iff (hlen : 20 + m.dataLengthInject.toNat ≤ bytes.length) :
    (bytes.drop 20).take m.dataLengthInject.toNat ≠ [] ↔ 0 < m.dataLengthInject.toNat := by
  rw [← length_pos_iff, length_take_of_le (by rw [length_drop]; omega)]

theorem findInjection_callInjection (hm : malloc.Succeeds) (h : InLoop buffer s bytes s.tables pending)
    (hlen : 20 + m.dataLengthInject.toNat ≤ bytes.length)
    (hfits : MessageFits s.tables pending
      (.injection m.logLevelPos m.serviceId ((bytes.drop 20).take m.dataLengthInject.toNat))) :
    ∃ s', Checked.result (do let data ← findInjection malloc buffer m; callInjection data) s = some (.ok (), s') ∧
      Handled buffer s s' bytes pending
        (.injection m.logLevelPos m.serviceId ((bytes.drop 20).take m.dataLengthInject.toNat)) := by
  have hdata := @injection_ne_nil_iff bytes m hlen
  obtain ⟨hvalid, hempty⟩ := hfits
  have hvalid' : 0 < m.dataLengthInject.toNat → s.tables.dltLlTs.isSome → ValidPos s.tables m.logLevelPos :=
    fun hpos => hvalid (hdata.mpr hpos)
  by_cases hfound : 0 < m.dataLengthInject.toNat ∧ ∃ entry callback, s.tables.entry m.logLevelPos = some entry ∧
      entry.injectionTable.find? (·.serviceId = m.serviceId) = some callback
  · obtain ⟨hpos, entry, callback, hentry, hfind⟩ := hfound
    have hpos' : ValidPos s.tables m.logLevelPos := by
      by_contra hnot
      rw [entry_of_not_valid hnot] at hentry
      exact absurd hentry nofun
    obtain ⟨s'', hresult, hreceiver, htables, hlevel, hplain, hid, hcalls⟩ := callInjection_some
      callback m.serviceId ((bytes.drop 20).take m.dataLengthInject.toNat) h.injection h.injectionWithId rfl
    rw [result_bind_of_ok (findInjection_some hm h.view hpos hlen hpos' hentry hfind)]
    refine ⟨s'', hresult, ⟨hreceiver ▸ h.view, htables, hlevel.trans h.pending, hplain, hid⟩, ?_⟩
    rw [hcalls]
    unfold DaemonMessage.calls injectionCall
    dsimp only
    rw [hentry, bind_some, hfind]
    obtain ⟨service, plain, withId, priv⟩ := callback
    cases plain <;> cases withId <;> rfl
  · push Not at hfound
    have hnone : 0 < m.dataLengthInject.toNat → ∀ entry, s.tables.entry m.logLevelPos = some entry →
        entry.injectionTable.find? (·.serviceId = m.serviceId) = none := by
      intro hpos entry hentry
      exact Option.eq_none_iff_forall_ne_some.mpr fun callback => hfound hpos entry callback hentry
    rw [result_bind_of_ok (findInjection_none hvalid' hnone)]
    refine ⟨s, rfl, ⟨h.view, rfl, h.pending, h.injection, h.injectionWithId⟩, ?_⟩
    have hcalls : (s.tables.entry m.logLevelPos).bind
        (injectionCall · m.serviceId ((bytes.drop 20).take m.dataLengthInject.toNat)) = none := by
      by_cases hpos : 0 < m.dataLengthInject.toNat
      · rw [Option.bind_eq_none_iff]
        intro entry hentry
        unfold injectionCall
        rw [hnone hpos entry hentry]
      · exact hempty (not_not.mp fun hne => hpos (hdata.mp hne))
    unfold DaemonMessage.calls
    dsimp only
    rw [hcalls]
    exact (append_nil _).symm

theorem injectionSize_eq (h : 20 + m.dataLengthInject.toNat < 2147483648) :
    injectionSize m = (20 + m.dataLengthInject.toNat : ℕ) := by
  unfold injectionSize
  rw [size_injectionLayout]
  exact i32_natCast h

/-- **An injection that fits.** -/
theorem injectionMessage_fits (hm : malloc.Succeeds) (h : InLoop buffer s bytes s.tables pending)
    (hdecode : injectionLayout.decode ((bytes.drop sizeofDltUserHeader).take 12) = m)
    (hlen : 20 + m.dataLengthInject.toNat ≤ bytes.length) (hsmall : bytes.length < 2147483648)
    (hfits : MessageFits s.tables pending
      (.injection m.logLevelPos m.serviceId ((bytes.drop 20).take m.dataLengthInject.toNat))) :
    ∃ s', (injectionMessage malloc buffer).result s = some (.ok true, s') ∧
      Handled buffer s s' (bytes.drop (20 + m.dataLengthInject.toNat)) pending
        (.injection m.logLevelPos m.serviceId ((bytes.drop 20).take m.dataLengthInject.toNat)) := by
  have hrcvd := h.view.bytesRcvd_eq
  have hsize := injectionSize_eq (show 20 + m.dataLengthInject.toNat < 2147483648 by omega)
  obtain ⟨s', hresult, hhandled⟩ := findInjection_callInjection hm h hlen hfits
  refine ⟨_, ?_, hhandled.removed (by omega) hlen⟩
  unfold injectionMessage
  rw [result_get_bind, size_injectionLayout, if_neg (by unfold sizeofDltUserHeader; omega),
    result_bind_of_ok (peekReceived_result h.view (by unfold sizeofDltUserHeader; omega))]
  dsimp only
  rw [hdecode, hsize, if_neg (by omega), ← bind_assoc, result_bind_of_ok hresult, result_get_bind]
  have hremove := (remove_view hhandled.inLoop.view (show 0 < 20 + m.dataLengthInject.toNat by omega) hlen).2
  rw [if_neg (not_not_intro hremove)]
  rfl

theorem injectionMessage_undefined (hv : View buffer s.receiver bytes)
    (hdecode : injectionLayout.decode ((bytes.drop sizeofDltUserHeader).take 12) = m)
    (hlen : 20 + m.dataLengthInject.toNat ≤ bytes.length) (hsmall : bytes.length < 2147483648)
    (hpos : 0 < m.dataLengthInject.toNat) {entries : List DltLlTs} (hentries : s.tables.dltLlTs = some entries)
    (hout : entryAt entries m.logLevelPos = none) : (injectionMessage malloc buffer).result s = none := by
  have hrcvd := hv.bytesRcvd_eq
  have hsize := injectionSize_eq (show 20 + m.dataLengthInject.toNat < 2147483648 by omega)
  have hnone : (findInjection malloc buffer m).result s = none := by
    unfold findInjection
    rw [result_get_bind, if_pos hpos, hentries]
    dsimp only
    rw [hout]
    rfl
  unfold injectionMessage
  rw [result_get_bind, size_injectionLayout, if_neg (by unfold sizeofDltUserHeader; omega),
    result_bind_of_ok (peekReceived_result hv (by unfold sizeofDltUserHeader; omega))]
  dsimp only
  rw [hdecode, hsize, if_neg (by omega), result_bind, hnone]
  rfl

/-! ## The message at the front -/

theorem userMessage_result (hv : View buffer s.receiver bytes) (hlen : 8 ≤ bytes.length) :
    (userMessage malloc buffer).result s =
      if userHeaderMessage bytes = dltUserMessageLogLevel then (logLevelMessage buffer).result s
      else if userHeaderMessage bytes = dltUserMessageInjection then (injectionMessage malloc buffer).result s
      else if userHeaderMessage bytes = dltUserMessageLogState then (logStateMessage buffer).result s
      else some (.ok true, { s with receiver := (dltReceiverRemove s.receiver sizeofDltUserHeader).1 }) := by
  have hmessage : userHeaderMessage ((bytes.drop 0).take sizeofDltUserHeader) = userHeaderMessage bytes := by
    unfold userHeaderMessage sizeofDltUserHeader
    rw [drop_zero, drop_take, take_take]
    rfl
  unfold userMessage
  rw [result_bind_of_ok (peekReceived_result hv (by unfold sizeofDltUserHeader; omega)), hmessage]
  split_ifs
  · rfl
  · rfl
  · rfl
  · rfl

/-- **A message at the front that fits.** -/
theorem userMessage_message (hm : malloc.Succeeds) (h : InLoop buffer s bytes s.tables pending)
    (hlen : 8 ≤ bytes.length) (hsmall : bytes.length < 2147483648) {m : DaemonMessage} {n : ℕ}
    (hread : readMessage bytes = some (m, n)) (hfits : MessageFits s.tables pending m) :
    ∃ s', (userMessage malloc buffer).result s = some (.ok true, s') ∧
      Handled buffer s s' (bytes.drop n) pending m := by
  have hpayload : (bytes.drop sizeofDltUserHeader).length = bytes.length - 8 := length_drop
  rw [userMessage_result h.view hlen]
  unfold readMessage at hread
  dsimp only at hread
  by_cases hlevel : userHeaderMessage bytes = dltUserMessageLogLevel
  · rw [if_pos hlevel] at hread ⊢
    split_ifs at hread with hshort
    obtain ⟨rfl, rfl⟩ := Prod.mk.inj (Option.some.inj hread)
    exact logLevelMessage_fits h (by omega) hfits
  rw [if_neg hlevel] at hread ⊢
  by_cases hinjection : userHeaderMessage bytes = dltUserMessageInjection
  · rw [if_pos hinjection] at hread ⊢
    by_cases hshort : (bytes.drop sizeofDltUserHeader).length < 12
    · rw [if_pos hshort] at hread
      exact absurd hread nofun
    rw [if_neg hshort] at hread
    generalize hinj : injectionLayout.decode ((bytes.drop sizeofDltUserHeader).take 12) = inj at hread
    by_cases hdata : (bytes.drop sizeofDltUserHeader).length < 12 + inj.dataLengthInject.toNat
    · rw [if_pos hdata] at hread
      exact absurd hread nofun
    rw [if_neg hdata, drop_drop] at hread
    obtain ⟨rfl, rfl⟩ := Prod.mk.inj (Option.some.inj hread)
    exact injectionMessage_fits hm h hinj (by omega) hsmall hfits
  rw [if_neg hinjection] at hread ⊢
  by_cases hstate : userHeaderMessage bytes = dltUserMessageLogState
  · rw [if_pos hstate] at hread ⊢
    split_ifs at hread with hshort
    obtain ⟨rfl, rfl⟩ := Prod.mk.inj (Option.some.inj hread)
    exact logStateMessage_fits h (by omega)
  · rw [if_neg hstate] at hread ⊢
    obtain ⟨rfl, rfl⟩ := Prod.mk.inj (Option.some.inj hread)
    have hhandled : Handled buffer s s bytes pending .unknown :=
      ⟨⟨h.view, rfl, h.pending, h.injection, h.injectionWithId⟩, (append_nil _).symm⟩
    exact ⟨_, rfl, hhandled.removed (by decide) hlen⟩

/-- **An incomplete message at the front** leaves the loop. -/
theorem userMessage_stops (hv : View buffer s.receiver bytes) (hlen : 8 ≤ bytes.length)
    (hread : readMessage bytes = none)
    (hhuge : userHeaderMessage bytes = dltUserMessageInjection → 20 ≤ bytes.length →
      20 + (injectionLayout.decode ((bytes.drop sizeofDltUserHeader).take 12)).dataLengthInject.toNat < 2147483648) :
    (userMessage malloc buffer).result s = some (.ok false, s) := by
  have hrcvd := hv.bytesRcvd_eq
  have hpayload : (bytes.drop sizeofDltUserHeader).length = bytes.length - 8 := length_drop
  rw [userMessage_result hv hlen]
  unfold readMessage at hread
  dsimp only at hread
  by_cases hlevel : userHeaderMessage bytes = dltUserMessageLogLevel
  · rw [if_pos hlevel] at hread ⊢
    split_ifs at hread with hshort
    unfold logLevelMessage
    rw [result_get_bind, size_logLevelLayout, if_pos (by unfold sizeofDltUserHeader; omega)]
    rfl
  rw [if_neg hlevel] at hread ⊢
  by_cases hinjection : userHeaderMessage bytes = dltUserMessageInjection
  · rw [if_pos hinjection] at hread ⊢
    unfold injectionMessage
    rw [result_get_bind, size_injectionLayout]
    by_cases hshort : (bytes.drop sizeofDltUserHeader).length < 12
    · rw [if_pos (by unfold sizeofDltUserHeader; omega)]
      rfl
    have hint := hhuge hinjection (by omega)
    rw [if_neg hshort] at hread
    rw [if_neg (by unfold sizeofDltUserHeader; omega),
      result_bind_of_ok (peekReceived_result hv (by unfold sizeofDltUserHeader; omega))]
    dsimp only
    generalize injectionLayout.decode ((bytes.drop sizeofDltUserHeader).take 12) = inj at hread hint ⊢
    split_ifs at hread with hdata
    rw [injectionSize_eq hint, if_pos (by omega)]
    rfl
  rw [if_neg hinjection] at hread ⊢
  by_cases hstate : userHeaderMessage bytes = dltUserMessageLogState
  · rw [if_pos hstate] at hread ⊢
    split_ifs at hread with hshort
    unfold logStateMessage
    rw [result_get_bind, size_logStateLayout, if_pos (by unfold sizeofDltUserHeader; omega)]
    rfl
  · rw [if_neg hstate] at hread
    exact absurd hread nofun

/-! ## The turn -/

theorem check_iff (xs : List UInt8) : dltUserCheckUserheader xs = true ↔ userHeaderPattern <+: xs := by
  unfold dltUserCheckUserheader
  rw [prefix_iff_eq_take, decide_eq_true_iff]
  exact eq_comm

/-- The search finds the first header that is there as a whole. -/
theorem resync_eq (bytes : List UInt8) (offset : ℕ) (h : offset + 8 ≤ bytes.length) :
    resync bytes offset = (find userHeaderPattern (bytes.drop offset)).bind fun k =>
      if offset + k + 8 ≤ bytes.length then some (offset + k) else none := by
  induction hn : bytes.length - offset using Nat.strongRecOn generalizing offset with
  | ind n ih =>
    rw [resync]
    by_cases hcheck : dltUserCheckUserheader (bytes.drop offset) = true
    · rw [if_pos hcheck, find_start ((check_iff _).mp hcheck), bind_some, if_pos (by omega)]
      rfl
    rw [if_neg hcheck]
    have hdrop : bytes.drop offset = bytes.get ⟨offset, by omega⟩ :: bytes.drop (offset + 1) :=
      drop_eq_getElem_cons (by omega)
    have hnot := fun h' => hcheck ((check_iff _).mpr h')
    rw [hdrop] at hnot ⊢
    rw [find_behind hnot]
    by_cases hmore : sizeofDltUserHeader + (offset + 1) ≤ bytes.length
    · rw [if_pos hmore, ih _ (by omega) (offset + 1) (by unfold sizeofDltUserHeader at hmore; omega) rfl]
      cases find userHeaderPattern (bytes.drop (offset + 1)) with
      | none => rfl
      | some k =>
        rw [bind_some, map_some, bind_some, Nat.add_assoc offset 1 k, Nat.add_comm 1 k]
    · rw [if_neg hmore]
      unfold sizeofDltUserHeader at hmore
      cases hfind : find userHeaderPattern (bytes.drop (offset + 1)) with
      | none => rfl
      | some k =>
        rw [map_some, bind_some, if_neg (by omega)]

theorem userMessageTurn_result (hv : View buffer s.receiver bytes) :
    (userMessageTurn malloc buffer).result s =
      match find userHeaderPattern bytes with
      | none => some (.ok false, s)
      | some k =>
        if bytes.length < k + 8 then some (.ok false, s)
        else (userMessage malloc buffer).result { s with receiver := { s.receiver with
          buf := s.receiver.buf + k, bytesRcvd := s.receiver.bytesRcvd - k } } := by
  have hrcvd := hv.bytesRcvd_eq
  unfold userMessageTurn
  rw [result_get_bind]
  by_cases hshort : s.receiver.bytesRcvd < sizeofDltUserHeader
  · rw [if_pos hshort]
    unfold sizeofDltUserHeader at hshort
    cases find userHeaderPattern bytes with
    | none => rfl
    | some k =>
      dsimp only
      rw [if_pos (by omega)]
      rfl
  rw [if_neg hshort, hv.view_eq]
  unfold sizeofDltUserHeader at hshort
  rw [resync_eq bytes 0 (by omega), drop_zero]
  cases find userHeaderPattern bytes with
  | none => rfl
  | some k =>
    dsimp only
    rw [bind_some, Nat.zero_add]
    by_cases hfits : k + 8 ≤ bytes.length
    · rw [if_pos hfits, if_neg (not_lt.mpr hfits)]
      rfl
    · rw [if_neg hfits, if_pos (not_le.mp hfits)]
      rfl

theorem view_skip {rec : DltReceiver} (h : View buffer rec bytes) {k : ℕ} (hk : k ≤ bytes.length) :
    View buffer { rec with buf := rec.buf + k, bytesRcvd := rec.bytesRcvd - k } (bytes.drop k) := by
  by_cases hzero : k = 0
  · subst hzero
    exact h
  · have hremove := (remove_view h (Nat.pos_of_ne_zero hzero) hk).1
    have hrcvd := h.bytesRcvd_eq
    unfold dltReceiverRemove at hremove
    rwa [if_neg (by omega), Int.toNat_natCast] at hremove

/-- **A turn without a whole message** leaves the loop. -/
theorem userMessageTurn_stops (hv : View buffer s.receiver bytes) (hread : readNext bytes = none)
    (hhuge : ¬ HugeInjection bytes) : (userMessageTurn malloc buffer).result s = some (.ok false, s) := by
  rw [userMessageTurn_result hv]
  unfold readNext sizeofDltUserHeader at hread
  cases hfind : find userHeaderPattern bytes with
  | none => rfl
  | some k =>
    rw [hfind] at hread
    dsimp only at hread ⊢
    by_cases hshort : bytes.length < k + 8
    · exact if_pos hshort
    rw [if_neg hshort] at hread ⊢
    by_cases hpos : 0 < k
    · rw [if_pos hpos] at hread
      exact absurd hread nofun
    rw [if_neg hpos] at hread
    obtain rfl : k = 0 := by omega
    refine userMessage_stops hv (by omega) hread fun htype hlen => ?_
    by_contra hint
    exact hhuge ⟨prefix_of_find hfind, htype, hlen, not_lt.mp hint⟩

/-- **Garbage in front of a header** is skipped in the turn for the message. -/
theorem userMessageTurn_garbage (hv : View buffer s.receiver bytes) {k : ℕ}
    (hfind : find userHeaderPattern bytes = some k) (hlen : k + 8 ≤ bytes.length) :
    (userMessageTurn malloc buffer).result s = (userMessageTurn malloc buffer).result { s with
      receiver := { s.receiver with buf := s.receiver.buf + k, bytesRcvd := s.receiver.bytesRcvd - k } } := by
  have hskip := view_skip hv (show k ≤ bytes.length by omega)
  have hfind' : find userHeaderPattern (bytes.drop k) = some 0 := by
    rw [find_drop hfind le_rfl, Nat.sub_self]
  rw [userMessageTurn_result hv, userMessageTurn_result hskip, hfind, hfind']
  dsimp only
  rw [if_neg (by omega), if_neg (by rw [length_drop]; omega)]
  rfl

/-- **A turn with a message at the front that fits.** -/
theorem userMessageTurn_message (hm : malloc.Succeeds) (h : InLoop buffer s bytes s.tables pending)
    (hfind : find userHeaderPattern bytes = some 0) (hlen : 8 ≤ bytes.length) (hsmall : bytes.length < 2147483648)
    {m : DaemonMessage} {n : ℕ} (hread : readMessage bytes = some (m, n)) (hfits : MessageFits s.tables pending m) :
    ∃ s', (userMessageTurn malloc buffer).result s = some (.ok true, s') ∧
      Handled buffer s s' (bytes.drop n) pending m := by
  rw [userMessageTurn_result h.view, hfind]
  dsimp only
  rw [if_neg (by omega)]
  exact userMessage_message hm h hlen hsmall hread hfits

end Dlt.Inbox
