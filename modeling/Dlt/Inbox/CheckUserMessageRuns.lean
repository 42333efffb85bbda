import Dlt.Inbox.CheckUserMessageTurn

/-!
# The messages of the daemon, over whole runs

* `check_user_message_runs` — **a run that fits is correct**, and for a stream of messages with garbage between them the
  callbacks are those of the messages.
-/

namespace Dlt.Inbox

open Dlt.Lib Dlt.Shared Checked List Reader
open Dlt.Daemon (userHeaderPattern dltUserCheckUserheader userHeaderMessage)

/-! ## Runs that fit -/

/-- The messages of one call fit, each in the state behind those before it. -/
def MessagesFit : AppTables → Option ℕ → List DaemonMessage → Prop
  | _, _, [] => True
  | tables, pending, m :: rest =>
      MessageFits tables pending m ∧ MessagesFit (m.apply tables) (m.pending tables pending) rest

/-- A call fits: something is received, there is room for it, and its messages fit. A level-changed callback is pending
only within a call. -/
structure ReceiveFits (tables : AppTables) (left got : List UInt8) : Prop where
  received : got ≠ []
  room : (left ++ got).length ≤ dltUserRcvbufMaxSize
  messages : MessagesFit tables none (reader.drain (left ++ got)).1
  notHuge : ¬ HugeInjection (reader.drain (left ++ got)).2

/-- Every call of a run fits. -/
def RunFits : AppTables → List UInt8 → List (List UInt8) → Prop
  | _, _, [] => True
  | tables, left, got :: rest =>
      ReceiveFits tables left got ∧
        RunFits (messageTables tables (reader.drain (left ++ got)).1) (reader.drain (left ++ got)).2 rest

variable {malloc : Malloc} {buffer bytes : List UInt8} {s : CheckState} {tables : AppTables} {pending : Option ℕ}

/-! ## The loop -/

structure LoopLeft (buffer : List UInt8) (s s' : CheckState) (bytes : List UInt8) : Prop where
  view : View buffer s'.receiver (reader.drain bytes).2
  tables : s'.tables = messageTables s.tables (reader.drain bytes).1
  calls : s'.calls = s.calls ++ messageCalls s.tables (reader.drain bytes).1

theorem userMessageLoop_next {s' : CheckState} {turns : ℕ}
    (h : (userMessageTurn malloc buffer).result s = some (.ok true, s')) :
    (userMessageLoop malloc buffer (turns + 1)).result s = (userMessageLoop malloc buffer turns).result s' := by
  rw [userMessageLoop, result_bind_of_ok h]
  rfl

theorem userMessageLoop_stop {turns : ℕ} (h : (userMessageTurn malloc buffer).result s = some (.ok false, s)) :
    (userMessageLoop malloc buffer turns).result s = some (.ok (), s) := by
  cases turns with
  | zero => rfl
  | succ turns =>
    rw [userMessageLoop, result_bind_of_ok h]
    rfl

theorem userMessageLoop_congr {s' : CheckState} {turns : ℕ}
    (h : (userMessageTurn malloc buffer).result s = (userMessageTurn malloc buffer).result s') :
    (userMessageLoop malloc buffer (turns + 1)).result s = (userMessageLoop malloc buffer (turns + 1)).result s' := by
  rw [userMessageLoop, result_bind, result_bind, h]

/-- **The loop** handles the messages that are there. -/
theorem userMessageLoop_result (hm : malloc.Succeeds) {turns : ℕ} (h : InLoop buffer s bytes s.tables pending)
    (hsmall : bytes.length < 2147483648) (hturns : bytes.length ≤ turns)
    (hfits : MessagesFit s.tables pending (reader.drain bytes).1) (hhuge : ¬ HugeInjection (reader.drain bytes).2) :
    ∃ s', (userMessageLoop malloc buffer turns).result s = some (.ok (), s') ∧ LoopLeft buffer s s' bytes := by
  induction hn : bytes.length using Nat.strongRecOn generalizing s bytes pending turns with
  | ind n ih =>
    subst hn
    cases hread : reader.read bytes with
    | none =>
      rw [drain_none hread] at hhuge
      refine ⟨s, userMessageLoop_stop (userMessageTurn_stops h.view hread hhuge), ?_⟩
      refine ⟨?_, ?_, ?_⟩
      · rw [drain_none hread]
        exact h.view
      · rw [drain_none hread]
        rfl
      · rw [drain_none hread]
        exact (append_nil _).symm
    | some r =>
      obtain ⟨m, k⟩ := r
      have hpos := reader.pos hread
      have hle := reader.le hread
      have hdrop : (bytes.drop k).length = bytes.length - k := length_drop
      rw [drain_some hread] at hfits hhuge
      obtain ⟨turns, rfl⟩ : ∃ t, turns = t + 1 := ⟨turns - 1, by omega⟩
      obtain ⟨hfitsM, hfitsRest⟩ := hfits
      -- what the rest of the loop leaves is what the loop leaves
      have hleft : ∀ {s₁ s' : CheckState}, s₁.tables = m.apply s.tables → s₁.calls = s.calls ++ m.calls s.tables →
          LoopLeft buffer s₁ s' (bytes.drop k) → LoopLeft buffer s s' bytes := by
        rintro s₁ s' htables hcalls ⟨hview, htables', hcalls'⟩
        refine ⟨?_, ?_, ?_⟩
        · rw [drain_some hread]
          exact hview
        · rw [htables', htables, drain_some hread]
          rfl
        · rw [hcalls', hcalls, htables, drain_some hread, append_assoc]
          rfl
      have hread' : readNext bytes = some (m, k) := hread
      unfold readNext sizeofDltUserHeader at hread'
      cases hfind : find userHeaderPattern bytes with
      | none =>
        rw [hfind] at hread'
        exact absurd hread' nofun
      | some offset =>
        rw [hfind] at hread'
        dsimp only at hread'
        by_cases hshort : bytes.length < offset + 8
        · rw [if_pos hshort] at hread'
          exact absurd hread' nofun
        rw [if_neg hshort] at hread'
        by_cases hoffset : 0 < offset
        · -- garbage: the turn is the one for the message behind it
          rw [if_pos hoffset] at hread'
          obtain ⟨rfl, rfl⟩ := Prod.mk.inj (Option.some.inj hread')
          rw [userMessageLoop_congr (userMessageTurn_garbage h.view hfind (not_lt.mp hshort))]
          have hskip := view_skip h.view hle
          obtain ⟨s₁, hs₁, hloop⟩ : ∃ s₁ : CheckState, { s with receiver := { s.receiver with
              buf := s.receiver.buf + offset, bytesRcvd := s.receiver.bytesRcvd - offset } } = s₁ ∧
              InLoop buffer s₁ (bytes.drop offset) s₁.tables pending ∧ s₁.tables = s.tables ∧
                s₁.calls = s.calls :=
            ⟨_, rfl, ⟨hskip, rfl, h.pending, h.injection, h.injectionWithId⟩, rfl, rfl⟩
          obtain ⟨hloop, htables, hcalls⟩ := hloop
          rw [hs₁]
          obtain ⟨s', hresult, hs'⟩ := ih (bytes.drop offset).length (by omega) hloop (by omega)
            (show (bytes.drop offset).length ≤ turns + 1 by omega) (htables.symm ▸ hfitsRest) hhuge rfl
          exact ⟨s', hresult, hleft htables (hcalls.trans (append_nil _).symm) hs'⟩
        · rw [if_neg hoffset] at hread'
          obtain rfl : offset = 0 := by omega
          obtain ⟨s₁, hturn, ⟨hloop, hcalls⟩⟩ :=
            userMessageTurn_message hm h hfind (by omega) hsmall hread' hfitsM
          rw [userMessageLoop_next hturn]
          rw [← hloop.tables] at hfitsRest
          have hloop' : InLoop buffer s₁ (bytes.drop k) s₁.tables (m.pending s.tables pending) :=
            ⟨hloop.view, rfl, hloop.pending, hloop.injection, hloop.injectionWithId⟩
          obtain ⟨s', hresult, hs'⟩ := ih (bytes.drop k).length (by omega) hloop' (by omega)
            (show (bytes.drop k).length ≤ turns by omega) hfitsRest hhuge rfl
          exact ⟨s', hresult, hleft hloop.tables hcalls hs'⟩

/-! ## Calls -/

/-- The application between two calls, with bytes that were not used yet. -/
structure Between (s : AppState) (left : List UInt8) : Prop where
  saved : Saved s.buffer s.receiver left
  buffersize : s.receiver.buffersize = dltUserRcvbufMaxSize
  waits : reader.read left = none

theorem between_start (tables : AppTables) : Between (AppState.start tables) [] :=
  ⟨saved_init length_replicate rfl rfl, rfl, rfl⟩

/-- **A call that fits.** -/
theorem dltUserLogCheckUserMessage_result (hm : malloc.Succeeds) {s : AppState} {left got : List UInt8}
    (h : Between s left) (hfits : ReceiveFits s.tables left got) :
    ∃ s', dltUserLogCheckUserMessage malloc s got = some s' ∧ Between s' (reader.drain (left ++ got)).2 ∧
      s'.tables = messageTables s.tables (reader.drain (left ++ got)).1 ∧
      s'.calls = s.calls ++ messageCalls s.tables (reader.drain (left ++ got)).1 := by
  obtain ⟨hgot, hroom, hmessages, hhuge⟩ := hfits
  have hroom' : left.length + got.length ≤ s.receiver.buffersize := by
    rw [h.buffersize, ← length_append]
    exact hroom
  obtain ⟨hview, hsize, hret⟩ := receive_view h.saved hgot hroom'
  have hpos := length_pos_iff.mpr hgot
  have hsmall : (left ++ got).length < 2147483648 := lt_of_le_of_lt hroom (by decide)
  unfold dltUserLogCheckUserMessage
  dsimp only
  rw [if_neg (by rw [hret]; omega)]
  have hloop := @userMessageLoop_result malloc (dltReceiverReceive s.buffer s.receiver got).1 (left ++ got)
    ⟨(dltReceiverReceive s.buffer s.receiver got).2.1, s.tables, .none, s.calls⟩ none hm
    (dltReceiverReceive s.buffer s.receiver got).2.1.bytesRcvd ⟨hview, rfl, rfl, rfl, rfl⟩ hsmall
    (hview.bytesRcvd_eq.ge) hmessages hhuge
  obtain ⟨s', hresult, hleft⟩ := hloop
  rw [hresult]
  obtain ⟨hsaved, hsize', -⟩ := moveToBegin_saved hm hleft.view
  refine ⟨_, rfl, ⟨hsaved, ?_, read_drain _⟩, hleft.tables, hleft.calls⟩
  have hlength := hleft.view.length_buffer
  have hlength' := hview.length_buffer
  refine hsize'.trans (hlength.symm.trans (hlength'.trans (hsize.trans h.buffersize)))

/-! ## Runs -/

/-- The behaviour is defined, and the callbacks that are called and the tables behind the run are those that the
messages of the stream ask for. -/
structure RunCorrect (malloc : Malloc) (tables : AppTables) (chunks : List (List UInt8)) (s' : AppState) : Prop where
  defined : runReceives malloc (AppState.start tables) chunks = some s'
  calls : s'.calls = messageCalls tables (reader.drain chunks.flatten).1
  behind : s'.tables = messageTables tables (reader.drain chunks.flatten).1
  /-- For messages with garbage between them it is the messages that count, however the stream arrives. -/
  stream : ∀ items tail, ¬ userHeaderPattern <:+: tail → chunks.flatten = stream items tail →
    s'.calls = messageCalls tables (streamMessages items) ∧ s'.tables = messageTables tables (streamMessages items)

/-- The calls for a connection, from a state between two calls. -/
theorem runReceives_result (hm : malloc.Succeeds) {s : AppState} {left : List UInt8} (h : Between s left)
    (chunks : List (List UInt8)) (hfits : RunFits s.tables left chunks) :
    ∃ s', runReceives malloc s chunks = some s' ∧
      s'.tables = messageTables s.tables (reader.drain (left ++ chunks.flatten)).1 ∧
      s'.calls = s.calls ++ messageCalls s.tables (reader.drain (left ++ chunks.flatten)).1 := by
  induction chunks generalizing s left with
  | nil =>
    rw [flatten_nil, append_nil, drain_none h.waits]
    exact ⟨s, rfl, rfl, (append_nil _).symm⟩
  | cons got rest ih =>
    obtain ⟨hreceive, hrest⟩ := hfits
    obtain ⟨s₁, hcall, hbetween, htables, hcalls⟩ := dltUserLogCheckUserMessage_result hm h hreceive
    rw [← htables] at hrest
    obtain ⟨s', hrun, htables', hcalls'⟩ := ih hbetween hrest
    refine ⟨s', ?_, ?_, ?_⟩
    · rw [runReceives, hcall]
      exact hrun
    · rw [htables', htables, flatten_cons, ← append_assoc,
        drain_append (left ++ got) rest.flatten, messageTables_append]
    · rw [hcalls', hcalls, htables, flatten_cons, ← append_assoc,
        drain_append (left ++ got) rest.flatten, messageCalls_append, append_assoc]

/-- **Runs that fit are correct.** -/
theorem check_user_message_runs (malloc : Malloc) (hm : malloc.Succeeds) (tables : AppTables)
    (chunks : List (List UInt8)) (hfits : RunFits tables [] chunks) : ∃ s', RunCorrect malloc tables chunks s' := by
  obtain ⟨s', hrun, htables, hcalls⟩ := runReceives_result hm (between_start tables) chunks hfits
  rw [nil_append] at htables hcalls
  refine ⟨s', hrun, hcalls, htables, fun items tail htail hstream => ?_⟩
  obtain ⟨hcalls', htables'⟩ := drain_stream tables items htail
  rw [hcalls, htables, hstream]
  exact ⟨hcalls', htables'⟩

/-! ## Samples -/

theorem drain_bytes (m : WireMessage) (rest : List UInt8) :
    reader.drain (m.bytes ++ rest) = (m.message :: (reader.drain rest).1, (reader.drain rest).2) := by
  rw [drain_some (readNext_bytes m rest), drop_left]

/-- An application with one context, which has a level-changed callback and a service. -/
def sampleTables : AppTables where
  dltLlTs := some [{ contextId := dltSetId [0x43], logLevel := 4, logLevelPtr := some 4, traceStatus := 0
                     traceStatusPtr := some 0, injectionTable := [⟨0x1000, some 1, none, 0⟩]
                     logLevelChangedCallback := some 2 }]
  logState := -1
  length_lt := by decide

def sampleLevel : WireMessage := .logLevel ⟨5, 0, 0⟩

/-- An injection for a context at a position of the table. -/
def sampleInjection (logLevelPos : Int32) : WireMessage := .injection logLevelPos 0x1000 [1] (by decide)

/-- A level for the context and an injection for it arrive in two receives, the first of which ends in the
injection. -/
def sampleChunks : List (List UInt8) :=
  [sampleLevel.bytes ++ (sampleInjection 0).bytes.take 10, (sampleInjection 0).bytes.drop 10]

theorem check_user_message_runs_sample : ∃ s', RunCorrect zeroMalloc sampleTables sampleChunks s' := by
  have hfirst := drain_bytes sampleLevel ((sampleInjection 0).bytes.take 10)
  rw [drain_none (show reader.read ((sampleInjection 0).bytes.take 10) = none by decide)] at hfirst
  have hsecond := drain_bytes (sampleInjection 0) []
  rw [append_nil, drain_none (show reader.read [] = none from rfl)] at hsecond
  refine check_user_message_runs zeroMalloc zeroMalloc_succeeds sampleTables sampleChunks
    ⟨⟨by decide, by decide, ?_, ?_⟩, ?_⟩ <;> rw [nil_append, hfirst]
  · exact ⟨fun _ => rfl, trivial⟩
  · rintro ⟨-, -, hlen, -⟩
    exact absurd hlen (by decide)
  refine ⟨⟨by decide, by decide, ?_, ?_⟩, trivial⟩ <;> dsimp only <;> rw [take_append_drop, hsecond]
  · exact ⟨⟨fun _ _ => by decide, nofun⟩, trivial⟩
  · rintro ⟨-, -, hlen, -⟩
    exact absurd hlen (by decide)

/-- **An injection for a context that is not there** makes the library look behind its table. -/
theorem injection_looks_behind_table :
    ¬ ∀ (malloc : Malloc) (tables : AppTables) (chunks : List (List UInt8)), malloc.Succeeds →
      ∃ s', RunCorrect malloc tables chunks s' := by
  intro h
  obtain ⟨s', hdefined, -⟩ := h zeroMalloc sampleTables [(sampleInjection 5).bytes] zeroMalloc_succeeds
  obtain ⟨hview, -, hret⟩ := receive_view (between_start sampleTables).saved
    (show (sampleInjection 5).bytes ≠ [] by decide) (by decide)
  rw [nil_append] at hview
  have hfind := @find_garbage [] (by decide) (sampleInjection 5) []
  rw [nil_append, append_nil] at hfind
  have hturn : (userMessageTurn zeroMalloc (dltReceiverReceive (AppState.start sampleTables).buffer
      (AppState.start sampleTables).receiver (sampleInjection 5).bytes).1).result
      ⟨(dltReceiverReceive (AppState.start sampleTables).buffer (AppState.start sampleTables).receiver
        (sampleInjection 5).bytes).2.1, sampleTables, .none, []⟩ = none := by
    rw [userMessageTurn_result hview, hfind]
    dsimp only
    rw [if_neg (by decide), userMessage_result (view_skip hview (Nat.zero_le _)) (by decide), if_neg (by decide),
      if_pos (by decide)]
    exact injectionMessage_undefined (view_skip hview (Nat.zero_le _)) rfl (by decide) (by decide) (by decide) rfl rfl
  have hloop : (userMessageLoop zeroMalloc (dltReceiverReceive (AppState.start sampleTables).buffer
      (AppState.start sampleTables).receiver (sampleInjection 5).bytes).1 (sampleInjection 5).bytes.length).result
      ⟨(dltReceiverReceive (AppState.start sampleTables).buffer (AppState.start sampleTables).receiver
        (sampleInjection 5).bytes).2.1, sampleTables, .none, []⟩ = none := by
    rw [show (sampleInjection 5).bytes.length = 20 + 1 from rfl, userMessageLoop, result_bind, hturn]
    rfl
  have hcall : dltUserLogCheckUserMessage zeroMalloc (AppState.start sampleTables)
      (sampleInjection 5).bytes = none := by
    unfold dltUserLogCheckUserMessage
    dsimp only
    rw [if_neg (by rw [hret]; decide), hview.bytesRcvd_eq]
    exact congrArg (Option.map _) hloop
  rw [runReceives, hcall] at hdefined
  exact absurd hdefined nofun

end Dlt.Inbox
