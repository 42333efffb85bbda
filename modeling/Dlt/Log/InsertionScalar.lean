import Mathlib.Data.List.TakeDrop
import Dlt.Log.Flush
import Dlt.Log.Insertion

/-!
# When an argument of a fixed size is inserted

* `LogStream.write_of_same`, `LogStream.write_of_changed`, `LogStream.write_of_not_writable` — a function of
  the library that changes nothing needs no memory, and one that writes does. `LogStream.write_of_undefined` — it may be
  undefined.
* `ScalarReturns`, `scalar_ends_iff` — when the operator returns.
-/

namespace Dlt.Log

open Dlt.Lib Dlt.Shared Dlt.User Option LogStream

variable {env : LogEnv} {σ σ' : LogState} {s s' : LogStream} {id : ℕ} {data data' : ContextData}

/-! ## Writing -/

/-- What writing leaves as it is. -/
structure SameMemory (σ σ' : LogState) : Prop extends SameLog σ σ' where
  starts : σ'.starts = σ.starts
  live : ∀ b, σ'.Live b ↔ σ.Live b

/-- The functions of the library see a payload of the announced size. -/
@[simp] theorem length_log (σ : LogState) (data : ContextData) : (σ.log data).buffer.length = data.size :=
  List.takeD_length _ _ _

section write

variable {f : WriteEnv → LogData → Option (LogData × ℤ)} {log : LogData} {ret : ℤ}

section

variable (hs : s.logLocalData = some (id, data))
include hs

theorem LogStream.write_of_undefined (hf : f (writeEnv env data) (σ.log data) = none) : s.write env σ f = none := by
  unfold write LogState.write
  rw [hs, bind_some]
  dsimp only
  rw [hf]
  rfl

theorem LogStream.write_of_same (hf : f (writeEnv env data) (σ.log data) = some (σ.log data, ret)) :
    s.write env σ f = some (σ, s, ret) := by
  unfold write LogState.write
  rw [hs, bind_some]
  dsimp only
  rw [hf, bind_some]
  dsimp only
  rw [if_pos rfl, map_some]
  dsimp only
  rw [← hs]

theorem LogStream.write_of_changed (hf : f (writeEnv env data) (σ.log data) = some (log, ret)) (hne : log ≠ σ.log data)
    (hwritable : σ.Writable data) :
    ∃ σ', s.write env σ f =
        some (σ', ⟨some (id, { data with size := log.buffer.length, argsNum := log.argsNum }), s.logRet⟩, ret) ∧
      SameMemory σ σ' := by
  obtain ⟨b, hb, hlive⟩ := hwritable
  obtain ⟨bytes, hbytes⟩ := isSome_iff_exists.mp hlive
  refine ⟨σ.store b (some (log.buffer ++ bytes.drop log.buffer.length)), ?_, ⟨rfl, rfl, rfl, rfl⟩, rfl, ?_⟩
  · unfold write LogState.write
    rw [hs, bind_some]
    dsimp only
    rw [hf, bind_some]
    dsimp only
    rw [if_neg hne, mem_def.mp hb, bind_some, hbytes, map_some, map_some]
  · intro b'
    unfold LogState.Live LogState.store
    by_cases hb' : b' = b
    · simp [hb', hbytes]
    · simp [hb']

theorem LogStream.write_of_not_writable (hf : f (writeEnv env data) (σ.log data) = some (log, ret))
    (hne : log ≠ σ.log data) (hwritable : ¬ σ.Writable data) : s.write env σ f = none := by
  unfold write LogState.write
  rw [hs, bind_some]
  dsimp only
  rw [hf, bind_some]
  dsimp only
  rw [if_neg hne]
  cases hbuffer : data.buffer with
  | none => rfl
  | some b =>
    rw [bind_some]
    cases hbytes : σ.buffers b with
    | none => rfl
    | some bytes =>
      refine absurd ⟨b, hbuffer, ?_⟩ hwritable
      unfold LogState.Live
      rw [hbytes]
      rfl

end

end write

/-! ## Fitting -/

variable {a : Scalar}

/-- The argument does not fit. -/
def Scalar.Overflows (env : LogEnv) (a : Scalar) (data : ContextData) : Prop :=
  env.logBufLen.toNat < data.size + a.data.length + if isVerboseMode env data then 4 else 0

instance (a : Scalar) (data : ContextData) : Decidable (a.Overflows env data) :=
  inferInstanceAs (Decidable (_ < _))

/-- The library says that the message is full. -/
def Scalar.Full (env : LogEnv) (a : Scalar) (data : ContextData) : Prop :=
  env.initialised = true ∧ a.Overflows env data

/-- The argument is written into the memory of the message. -/
def Scalar.Needs (env : LogEnv) (a : Scalar) (data : ContextData) : Prop :=
  env.initialised = true ∧ ¬ a.Overflows env data

/-- An argument that does not fit into the message that was started last. -/
def Scalar.NeverFits (env : LogEnv) (a : Scalar) : Prop :=
  env.initialised = true ∧ env.logBufLen.toNat < a.data.length + 4

/-- The two functions of the library that write numbers check the same. -/
theorem Scalar.write_eq (a : Scalar) (env : WriteEnv) (log : LogData) :
    ∃ bytes, a.write env log = some
      (if ¬ env.initialised then (log, dltReturnError)
      else if env.logBufLen.toNat < log.buffer.length + a.data.length + (if env.verbose then 4 else 0) then
        (log, dltReturnUserBufferFull)
      else (log.append bytes, dltReturnOk)) := by
  have hsplit : ∀ r r' : LogData × ℤ,
      (if log.buffer.length + a.data.length > env.logBufLen.toNat then r
        else if env.verbose ∧ log.buffer.length + (a.data.length + 4) > env.logBufLen.toNat then r
        else r') =
      if env.logBufLen.toNat < log.buffer.length + a.data.length + (if env.verbose then 4 else 0) then r
      else r' := by
    intro r r'
    cases env.verbose with
    | true =>
      simp only [true_and, if_true]
      split_ifs <;> first | rfl | omega
    | false =>
      simp
  unfold Scalar.write
  cases a.format with
  | none =>
    refine ⟨typeInfoBytes env a.typeInfo ++ a.data, ?_⟩
    dsimp only
    unfold dltUserLogWriteGenericAttr
    rw [hsplit]
  | some type =>
    refine ⟨typeInfoBytes env (a.typeInfo ||| type.scod) ++ a.data, ?_⟩
    dsimp only
    unfold dltUserLogWriteGenericFormatted
    rw [hsplit]

theorem Scalar.write_log (a : Scalar) (env : LogEnv) (σ : LogState) (data : ContextData) :
    ∃ bytes, a.write (writeEnv env data) (σ.log data) = some
      (if ¬ env.initialised then (σ.log data, dltReturnError)
      else if a.Overflows env data then (σ.log data, dltReturnUserBufferFull)
      else ((σ.log data).append bytes, dltReturnOk)) := by
  obtain ⟨bytes, hwrite⟩ := a.write_eq (writeEnv env data) (σ.log data)
  rw [length_log] at hwrite
  exact ⟨bytes, hwrite⟩

theorem append_ne (log : LogData) (bytes : List UInt8) : log.append bytes ≠ log := by
  intro h
  have hargs := congrArg LogData.argsNum h
  simp [LogData.append] at hargs

/-- The message is full: the operator is called again behind a flush. -/
theorem scalarWrite_of_full (hs : s.logLocalData = some (id, data)) (h : a.Full env data) :
    scalarWrite env a σ s = (flush env σ s).map .again := by
  obtain ⟨bytes, hwrite⟩ := a.write_log env σ data
  rw [if_neg (not_not_intro h.1), if_pos h.2] at hwrite
  unfold scalarWrite
  rw [write_of_same hs hwrite, bind_some]
  dsimp only
  rw [if_pos rfl]

theorem scalarWrite_of_not_full (σ : LogState) (hs : s.logLocalData = some (id, data)) (h : ¬ a.Full env data) :
    (a.Needs env data → σ.Writable data) ∧ (∃ r, scalarWrite env a σ s = some (.done r)) ∨
      ¬ (a.Needs env data → σ.Writable data) ∧ scalarWrite env a σ s = none := by
  obtain ⟨bytes, hwrite⟩ := a.write_log env σ data
  unfold scalarWrite
  by_cases hinit : env.initialised = true
  · have hfits : ¬ a.Overflows env data := fun hover => h ⟨hinit, hover⟩
    rw [if_neg (not_not_intro hinit), if_neg hfits] at hwrite
    by_cases hwritable : σ.Writable data
    · obtain ⟨σ', hstream, -⟩ := write_of_changed hs hwrite (append_ne _ _) hwritable
      rw [hstream]
      exact .inl ⟨fun _ => hwritable, _, rfl⟩
    · rw [write_of_not_writable hs hwrite (append_ne _ _) hwritable]
      exact .inr ⟨fun hneeds => hwritable (hneeds ⟨hinit, hfits⟩), rfl⟩
  · rw [if_pos hinit] at hwrite
    rw [write_of_same hs hwrite]
    exact .inl ⟨fun hneeds => absurd hneeds.1 hinit, _, rfl⟩

/-! ## Turns -/

theorem scalarTurn_of_refused (h : s.logRet ≤ dltReturnOk) : scalarTurn env a (σ, s) = .done (σ, s) := by
  unfold scalarTurn
  exact if_pos (Int.not_lt.mpr h)

theorem scalarTurn_of_none (h : s.logRet > dltReturnOk) (hs : s.logLocalData = none) :
    scalarTurn env a (σ, s) = .undefined := by
  unfold scalarTurn
  dsimp only
  rw [if_neg (not_not_intro h), hs]
  rfl

theorem scalarTurn_of_some (env : LogEnv) (a : Scalar) (σ : LogState) (h : s.logRet > dltReturnOk)
    (hs : s.logLocalData = some (id, data)) :
    scalarTurn env a (σ, s) =
      ((flushIf env (a.TooLong σ data) σ s).bind fun r => scalarWrite env a r.1 r.2).getD .undefined := by
  unfold scalarTurn
  dsimp only
  rw [if_neg (not_not_intro h), hs]
  rfl

/-! ## A message that was started last -/

/-- The stream was started last, for the context and the level of `data`. -/
structure FreshStream (id : ℕ) (data : ContextData) (σ : LogState) (s : LogStream) : Prop where
  settled : σ.Settled
  logRet : s.logRet = dltReturnTrue
  logLocalData : ∃ b, s.logLocalData = some (id, data.fresh b) ∧ σ.Live b

theorem SameLog.settled (h : SameLog σ σ') (hsettled : σ.Settled) : σ'.Settled :=
  ⟨h.loggingInit.trans hsettled.1, h.logBuffer.trans hsettled.2⟩

theorem Restarted.freshStream (h : Restarted σ id data σ' s') (hsettled : σ.Settled) :
    FreshStream id data σ' s' := by
  exact ⟨h.toSameLog.settled hsettled, h.logRet, h.logLocalData⟩

theorem flushable_of_settled (hsettled : σ.Settled) (h : 0 < data.size → σ.Releasable data) :
    Flushable σ data := by
  unfold Flushable
  rw [if_neg (by rw [hsettled.1]; decide), if_neg (not_not_intro hsettled.2)]
  exact h

theorem flushable_fresh {b : ℕ} (hsettled : σ.Settled) : Flushable σ (data.fresh b) :=
  flushable_of_settled hsettled fun h => absurd h (Nat.lt_irrefl 0)

theorem FreshStream.flush (env : LogEnv) (h : FreshStream id data σ s) :
    ∃ σ' s', flush env σ s = some (σ', s') ∧ σ'.Settled ∧ σ'.starts = σ.starts + 1 ∧
      (Starts env data.handle data.logLevel σ.starts ∧ FreshStream id data σ' s' ∨
        ¬ Starts env data.handle data.logLevel σ.starts ∧ s'.logRet ≤ dltReturnOk ∧
          ∃ data', s'.logLocalData = some (id, data') ∧ data'.size = 0 ∧ data'.verboseMode = true ∧
            σ'.Writable data' ∧ ∀ start, ¬ Starts env data'.handle data'.logLevel start) := by
  obtain ⟨b, hs, hlive⟩ := h.logLocalData
  obtain ⟨σ', s', hres, ⟨hstarts, hrestarted⟩ | ⟨hnot, hrefused⟩⟩ :=
    flush_of_settled env h.settled hs (flushable_fresh h.settled)
  · exact ⟨σ', s', hres, hrestarted.toSameLog.settled h.settled, hrestarted.starts,
      .inl ⟨hstarts, hrestarted.toSameLog.settled h.settled, hrestarted.logRet, hrestarted.logLocalData⟩⟩
  · obtain ⟨handle, hdata, hnever⟩ := hrefused.logLocalData
    refine ⟨σ', s', hres, hrefused.toSameLog.settled h.settled, hrefused.starts,
      .inr ⟨hnot, hrefused.logRet, _, hdata, rfl, rfl, ⟨b, rfl, ?_⟩, hnever⟩⟩
    unfold LogState.Live
    rw [hrefused.buffers rfl]
    exact hlive

/-- An empty message in verbose mode is full for an argument that never fits. -/
theorem Scalar.NeverFits.full (h : a.NeverFits env) (hsize : data.size = 0) (hverbose : data.verboseMode = true) :
    a.Full env data := by
  refine ⟨h.1, ?_⟩
  unfold Scalar.Overflows isVerboseMode
  rw [hsize, hverbose, Bool.or_true, if_pos rfl, Nat.zero_add]
  exact h.2

/-- One turn with an argument that never fits: one or two restarts, and the stream is as before or refused. -/
theorem scalarTurn_of_neverFits (hnever : a.NeverFits env) (h : FreshStream id data σ s) :
    (∃ σ' s' k, 0 < k ∧ scalarTurn env a (σ, s) = .again (σ', s') ∧ FreshStream id data σ' s' ∧
        σ'.starts = σ.starts + k ∧ ∀ j < k, Starts env data.handle data.logLevel (σ.starts + j)) ∨
      ∃ σ' s' j, scalarTurn env a (σ, s) = .again (σ', s') ∧ s'.logRet ≤ dltReturnOk ∧
        ¬ Starts env data.handle data.logLevel (σ.starts + j) := by
  obtain ⟨b, hs, -⟩ := h.logLocalData
  rw [scalarTurn_of_some env a σ (by rw [h.logRet]; decide) hs]
  by_cases hlong : a.TooLong σ (data.fresh b)
  · obtain ⟨σ₁, s₁, hres, hsettled, hstarts, ⟨hstart, hfresh⟩ | ⟨hnot, -, data', hs', hsize, hverbose, -, hrefused⟩⟩ :=
      h.flush env
    · obtain ⟨b₁, hs₁, -⟩ := hfresh.logLocalData
      obtain ⟨σ₂, s₂, hres₂, -, hstarts₂, ⟨hstart₂, hfresh₂⟩ | ⟨hnot₂, hret₂, -⟩⟩ := hfresh.flush env
      · refine .inl ⟨σ₂, s₂, 2, by omega, ?_, hfresh₂, by rw [hstarts₂, hstarts], ?_⟩
        · rw [flushIf, if_pos hlong, hres, bind_some, scalarWrite_of_full hs₁ (hnever.full rfl rfl), hres₂]
          rfl
        · intro j hj
          rcases (by omega : j = 0 ∨ j = 1) with rfl | rfl
          · exact hstart
          · rw [← hstarts]
            exact hstart₂
      · refine .inr ⟨σ₂, s₂, 1, ?_, hret₂, by rw [← hstarts]; exact hnot₂⟩
        rw [flushIf, if_pos hlong, hres, bind_some, scalarWrite_of_full hs₁ (hnever.full rfl rfl), hres₂]
        rfl
    · obtain ⟨σ₂, s₂, hres₂, ⟨hstart₂, -⟩ | ⟨-, hrefused₂⟩⟩ := flush_of_settled env hsettled hs'
        (flushable_of_settled hsettled fun hpos => absurd hpos (by omega))
      · exact absurd hstart₂ (hrefused _)
      · refine .inr ⟨σ₂, s₂, 0, ?_, hrefused₂.logRet, hnot⟩
        rw [flushIf, if_pos hlong, hres, bind_some, scalarWrite_of_full hs' (hnever.full hsize hverbose),
          hres₂]
        rfl
  · rw [flushIf, if_neg hlong, bind_some, scalarWrite_of_full hs (hnever.full rfl rfl)]
    obtain ⟨σ₁, s₁, hres, -, hstarts, ⟨hstart, hfresh⟩ | ⟨hnot, hret, -⟩⟩ := h.flush env
    · refine .inl ⟨σ₁, s₁, 1, by omega, by rw [hres]; rfl, hfresh, hstarts, ?_⟩
      intro j hj
      obtain rfl : j = 0 := by omega
      exact hstart
    · exact .inr ⟨σ₁, s₁, 0, by rw [hres]; rfl, hret, hnot⟩

/-- **An argument that does not fit into an empty message** is inserted again until the stream is refused. -/
theorem ends_iff_of_neverFits (hnever : a.NeverFits env) (h : FreshStream id data σ s) :
    Ends (scalarTurn env a) (σ, s) ↔ ∃ i, ¬ Starts env data.handle data.logLevel (σ.starts + i) := by
  constructor
  · intro hends
    by_contra hall
    rw [not_exists] at hall
    refine not_ends_of_keeps (fun x => FreshStream id data x.1 x.2 ∧
      ∀ i, Starts env data.handle data.logLevel (x.1.starts + i)) ?_ ⟨h, fun i => not_not.mp (hall i)⟩ hends
    rintro ⟨σ, s⟩ ⟨hfresh, hstarts⟩
    rcases scalarTurn_of_neverFits hnever hfresh with ⟨σ', s', k, -, hturn, hfresh', hk, -⟩ | ⟨_, _, j, -, -, hnot⟩
    · refine .inr ⟨_, hturn, hfresh', fun i => ?_⟩
      rw [hk, Nat.add_assoc]
      exact hstarts (k + i)
    · exact absurd (hstarts j) hnot
  · rintro ⟨i, hi⟩
    induction i using Nat.strongRecOn generalizing σ s with
    | ind i ih =>
      rcases scalarTurn_of_neverFits hnever h with ⟨σ', s', k, hpos, hturn, hfresh', hk, hbefore⟩ |
        ⟨σ', s', -, hturn, hret, -⟩
      · have hki : k ≤ i := by
          by_contra hlt
          exact hi (hbefore i (by omega))
        refine (ends_iff_of_again hturn).mpr (ih (i - k) (by omega) hfresh' ?_)
        rw [hk, Nat.add_assoc, Nat.add_sub_cancel' hki]
        exact hi
      · exact (ends_iff_of_again hturn).mpr (ends_of_done (scalarTurn_of_refused hret))

theorem ends_of_fits (hfits : ¬ a.NeverFits env) (h : FreshStream id data σ s) :
    Ends (scalarTurn env a) (σ, s) := by
  obtain ⟨b, hs, hlive⟩ := h.logLocalData
  have hturn := scalarTurn_of_some env a σ (by rw [h.logRet]; decide) hs
  have hwritten : ∀ {σ s data}, s.logLocalData = some (id, data) → data.size = 0 → data.verboseMode = true →
      σ.Writable data → ∃ r, scalarWrite env a σ s = some (.done r) := by
    intro σ s data hs hsize hverbose hwritable
    have hnot : ¬ a.Full env data := by
      rintro ⟨hinit, hover⟩
      unfold Scalar.Overflows isVerboseMode at hover
      rw [hsize, hverbose, Bool.or_true, if_pos rfl, Nat.zero_add] at hover
      exact hfits ⟨hinit, hover⟩
    rcases scalarWrite_of_not_full σ hs hnot with ⟨-, hr⟩ | ⟨hno, -⟩
    · exact hr
    · exact absurd (fun _ => hwritable) hno
  by_cases hlong : a.TooLong σ (data.fresh b)
  · rw [flushIf, if_pos hlong] at hturn
    obtain ⟨σ₁, s₁, hres, -, -, ⟨-, hfresh⟩ | ⟨-, -, data', hs', hsize, hverbose, hwritable, -⟩⟩ :=
      h.flush env
    · obtain ⟨b₁, hs₁, hlive₁⟩ := hfresh.logLocalData
      obtain ⟨r, hr⟩ := hwritten hs₁ rfl rfl ⟨b₁, rfl, hlive₁⟩
      rw [hres, bind_some, hr] at hturn
      exact ends_of_done hturn
    · obtain ⟨r, hr⟩ := hwritten hs' hsize hverbose hwritable
      rw [hres, bind_some, hr] at hturn
      exact ends_of_done hturn
  · obtain ⟨r, hr⟩ := hwritten hs rfl rfl ⟨b, rfl, hlive⟩
    rw [flushIf, if_neg hlong, bind_some, hr] at hturn
    exact ends_of_done hturn

/-! ## When the operator returns -/

/-- With the message that the stream starts next the operator returns: the argument fits, or the stream is
refused at last. -/
def Scalar.ReturnsFresh (env : LogEnv) (a : Scalar) (σ : LogState) (data : ContextData) : Prop :=
  ¬ a.NeverFits env ∨ ∃ i, ¬ Starts env data.handle data.logLevel (σ.starts + 1 + i)

/-- The memory of the message is there, and it is not shared with the queue that is handed over. -/
def LogState.WritableFlushed (σ : LogState) (data : ContextData) : Prop :=
  ∃ b ∈ data.buffer, σ.Live b ∧ (σ.loggingInit = true → b ∉ σ.earlyBuffers)

/-- When the operator returns that flushes before it writes. -/
structure Scalar.ReturnsLong (env : LogEnv) (a : Scalar) (σ : LogState) (data : ContextData) : Prop where
  flushable : Flushable σ data
  started : σ.Settled → Starts env data.handle data.logLevel σ.starts → a.ReturnsFresh env σ data
  /-- The stream is refused. The operator writes nevertheless. -/
  refused : σ.Settled → ¬ Starts env data.handle data.logLevel σ.starts → a.Needs env data →
    data.size = 0 ∧ σ.Writable data
  unsettled : ¬ σ.Settled → ¬ a.Full env data ∧ (a.Needs env data → σ.WritableFlushed data)

/-- When the operator returns that writes first. -/
structure Scalar.ReturnsShort (env : LogEnv) (a : Scalar) (σ : LogState) (data : ContextData) : Prop where
  full : a.Full env data → σ.Settled ∧ Flushable σ data ∧
    (Starts env data.handle data.logLevel σ.starts → a.ReturnsFresh env σ data)
  needs : a.Needs env data → σ.Writable data

/-- When an operator for an argument of a fixed size returns. -/
def ScalarReturns (env : LogEnv) (a : Scalar) (σ : LogState) (s : LogStream) : Prop :=
  s.logRet > dltReturnOk → ∃ id data, s.logLocalData = some (id, data) ∧
    if a.TooLong σ data then a.ReturnsLong env σ data else a.ReturnsShort env σ data

theorem ends_fresh_iff (h : FreshStream id data σ' s') (hstarts : σ'.starts = σ.starts + 1) :
    Ends (scalarTurn env a) (σ', s') ↔ a.ReturnsFresh env σ data := by
  by_cases hnever : a.NeverFits env
  · rw [ends_iff_of_neverFits hnever h, hstarts]
    exact ⟨.inr, fun h => h.resolve_left (not_not_intro hnever)⟩
  · exact ⟨fun _ => .inl hnever, fun _ => ends_of_fits hnever h⟩

/-- A flush that does not send the message leads back to the same message. -/
theorem flush_cases_of_not_settled (env : LogEnv) (hsettled : ¬ σ.Settled) (hs : s.logLocalData = some (id, data)) :
    flush env σ s = none ∨ ∃ σ', flush env σ s = some (σ', s) ∧ ¬ σ'.Settled := by
  by_cases h : Flushable σ data
  · obtain ⟨σ', hres, hsettled', -⟩ := flush_of_not_settled env hsettled hs h
    exact .inr ⟨σ', hres, hsettled'⟩
  · exact .inl (flush_of_not_flushable hs h)

/-- **A full message that is not sent** stays full. -/
theorem not_ends_of_not_settled (hsettled : ¬ σ.Settled) (hret : s.logRet > dltReturnOk)
    (hs : s.logLocalData = some (id, data)) (hfull : a.Full env data) : ¬ Ends (scalarTurn env a) (σ, s) := by
  refine not_ends_of_keeps (fun x => ¬ x.1.Settled ∧ x.2 = s) ?_ ⟨hsettled, rfl⟩
  rintro ⟨σ, s'⟩ ⟨hsettled, hs'⟩
  obtain rfl : s = s' := hs'.symm
  rw [scalarTurn_of_some env a σ hret hs]
  have hagain : ∀ {σ : LogState}, ¬ σ.Settled → (scalarWrite env a σ s).getD .undefined = .undefined ∨
      ∃ x, (scalarWrite env a σ s).getD .undefined = .again x ∧ ¬ x.1.Settled ∧ x.2 = s := by
    intro σ hsettled
    rw [scalarWrite_of_full hs hfull]
    rcases flush_cases_of_not_settled env hsettled hs with hres | ⟨σ', hres, hsettled'⟩
    · rw [hres]
      exact .inl rfl
    · rw [hres]
      exact .inr ⟨_, rfl, hsettled', rfl⟩
  unfold flushIf
  by_cases hlong : a.TooLong σ data
  · rw [if_pos hlong]
    rcases flush_cases_of_not_settled env hsettled hs with hres | ⟨σ', hres, hsettled'⟩
    · rw [hres]
      exact .inl rfl
    · rw [hres]
      exact hagain hsettled'
  · rw [if_neg hlong]
    exact hagain hsettled

/-- The last turn is the one whose writing function does not say that the message is full. -/
theorem ends_iff_of_not_full {x : LogState × LogStream} (hs : s.logLocalData = some (id, data))
    (hfull : ¬ a.Full env data) (hturn : scalarTurn env a x = (scalarWrite env a σ s).getD .undefined) :
    Ends (scalarTurn env a) x ↔ (a.Needs env data → σ.Writable data) := by
  rcases scalarWrite_of_not_full σ hs hfull with ⟨hwritable, r, hr⟩ | ⟨hnot, hr⟩
  · rw [hr] at hturn
    exact ⟨fun _ => hwritable, fun _ => ends_of_done hturn⟩
  · rw [hr] at hturn
    exact ⟨fun hends => absurd hends (not_ends_of_undefined hturn), fun h => absurd h hnot⟩

theorem ends_iff_of_tooLong (hret : s.logRet > dltReturnOk) (hs : s.logLocalData = some (id, data))
    (hlong : a.TooLong σ data) : Ends (scalarTurn env a) (σ, s) ↔ a.ReturnsLong env σ data := by
  have hturn := scalarTurn_of_some env a σ hret hs
  rw [flushIf, if_pos hlong] at hturn
  by_cases hflush : Flushable σ data
  swap
  · rw [flush_of_not_flushable hs hflush] at hturn
    exact ⟨fun hends => absurd hends (not_ends_of_undefined hturn), fun h => absurd h.flushable hflush⟩
  by_cases hsettled : σ.Settled
  · obtain ⟨σ', s', hres, ⟨hstarts, hrestarted⟩ | ⟨hnot, hrefused⟩⟩ :=
      flush_of_settled env hsettled hs hflush
    · rw [hres, bind_some] at hturn
      have hfresh := hrestarted.freshStream hsettled
      have hiff : Ends (scalarTurn env a) (σ, s) ↔ a.ReturnsFresh env σ data := by
        obtain ⟨b, hs', hlive⟩ := hfresh.logLocalData
        by_cases hnever : a.NeverFits env
        · rw [scalarWrite_of_full hs' (hnever.full rfl rfl)] at hturn
          obtain ⟨σ₂, s₂, hres₂, -, hstarts₂, ⟨hstart₂, hfresh₂⟩ | ⟨hnot₂, hret₂, -⟩⟩ :=
            hfresh.flush env
          · rw [hres₂] at hturn
            rw [ends_iff_of_again hturn, ends_iff_of_neverFits hnever hfresh₂, hstarts₂, hrestarted.starts]
            constructor
            · rintro ⟨i, hi⟩
              exact .inr ⟨1 + i, by rw [← Nat.add_assoc]; exact hi⟩
            · rintro (hfits | ⟨i, hi⟩)
              · exact absurd hnever hfits
              · cases i with
                | zero => exact absurd (by rw [← hrestarted.starts]; exact hstart₂) hi
                | succ i => exact ⟨i, by rw [Nat.add_assoc, Nat.add_comm 1 i]; exact hi⟩
          · rw [hres₂] at hturn
            refine ⟨fun _ => .inr ⟨0, ?_⟩, fun _ => ?_⟩
            · rw [Nat.add_zero, ← hrestarted.starts]
              exact hnot₂
            · exact (ends_iff_of_again hturn).mpr (ends_of_done (scalarTurn_of_refused hret₂))
        · have hfull : ¬ a.Full env (data.fresh b) := by
            rintro ⟨hinit, hover⟩
            unfold Scalar.Overflows isVerboseMode ContextData.fresh at hover
            rw [Bool.or_true, if_pos rfl, Nat.zero_add] at hover
            exact hnever ⟨hinit, hover⟩
          rw [ends_iff_of_not_full hs' hfull hturn]
          exact ⟨fun _ => .inl hnever, fun _ _ => ⟨b, rfl, hlive⟩⟩
      rw [hiff]
      refine ⟨fun h => ⟨hflush, fun _ _ => h, fun _ hnot => absurd hstarts hnot,
        fun hun => absurd hsettled hun⟩, fun h => h.started hsettled hstarts⟩
    · rw [hres, bind_some] at hturn
      obtain ⟨handle, hs', hnever⟩ := hrefused.logLocalData
      have hsettled' := hrefused.toSameLog.settled hsettled
      have hiff : Ends (scalarTurn env a) (σ, s) ↔ (a.Needs env data → data.size = 0 ∧ σ.Writable data) := by
        by_cases hfull : a.Full env data
        · rw [scalarWrite_of_full hs' hfull] at hturn
          obtain ⟨σ₂, s₂, hres₂, ⟨hstart₂, -⟩ | ⟨-, hrefused₂⟩⟩ := flush_of_settled env hsettled' hs'
            (flushable_of_settled hsettled' fun hpos b hb => by
              dsimp only at hpos hb
              rw [if_pos hpos] at hb
              exact absurd hb nofun)
          · exact absurd hstart₂ (hnever _)
          · rw [hres₂] at hturn
            exact ⟨fun _ hneeds => absurd hfull.2 hneeds.2, fun _ => (ends_iff_of_again hturn).mpr
              (ends_of_done (scalarTurn_of_refused hrefused₂.logRet))⟩
        · rw [ends_iff_of_not_full hs' hfull hturn]
          refine imp_congr_right fun _ => ?_
          unfold LogState.Writable LogState.Live
          by_cases hsize : 0 < data.size
          · simp [hsize, Nat.ne_of_gt hsize]
          · have hzero : data.size = 0 := by omega
            rw [if_neg hsize, hrefused.buffers hzero]
            exact ⟨fun h => ⟨hzero, h⟩, fun h => h.2⟩
      rw [hiff]
      exact ⟨fun h => ⟨hflush, fun _ hstarts => absurd hstarts hnot, fun _ _ => h,
        fun hun => absurd hsettled hun⟩, fun h => h.refused hsettled hnot⟩
  · obtain ⟨σ', hres, hsettled', hlength, hinit, hbuffers, hagain⟩ :=
      flush_of_not_settled env hsettled hs hflush
    rw [hres, bind_some] at hturn
    have hwritable : σ'.Writable data ↔ σ.WritableFlushed data := by
      refine exists_congr fun b => and_congr_right fun _ => ?_
      unfold LogState.Live
      rw [hbuffers]
      by_cases hshared : σ.loggingInit = true ∧ b ∈ σ.earlyBuffers
      · rw [if_pos hshared]
        exact ⟨fun h => absurd h (by decide), fun h => absurd hshared.2 (h.2 hshared.1)⟩
      · rw [if_neg hshared]
        exact ⟨fun h => ⟨h, fun hinit hmem => hshared ⟨hinit, hmem⟩⟩, fun h => h.1⟩
    by_cases hfull : a.Full env data
    · exact ⟨fun hends => absurd hends (not_ends_of_not_settled hsettled hret hs hfull),
        fun h => absurd hfull (h.unsettled hsettled).1⟩
    · rw [ends_iff_of_not_full hs hfull hturn, hwritable]
      exact ⟨fun h => ⟨hflush, fun hset => absurd hset hsettled, fun hset => absurd hset hsettled,
        fun _ => ⟨hfull, h⟩⟩, fun h => (h.unsettled hsettled).2⟩

theorem ends_iff_of_not_tooLong (hret : s.logRet > dltReturnOk) (hs : s.logLocalData = some (id, data))
    (hlong : ¬ a.TooLong σ data) : Ends (scalarTurn env a) (σ, s) ↔ a.ReturnsShort env σ data := by
  have hturn := scalarTurn_of_some env a σ hret hs
  rw [flushIf, if_neg hlong, bind_some] at hturn
  by_cases hfull : a.Full env data
  swap
  · rw [ends_iff_of_not_full hs hfull hturn]
    exact ⟨fun h => ⟨fun hfull' => absurd hfull' hfull, h⟩, fun h => h.needs⟩
  have hneeds : ¬ a.Needs env data := fun h => h.2 hfull.2
  rw [scalarWrite_of_full hs hfull] at hturn
  by_cases hflush : Flushable σ data
  swap
  · rw [flush_of_not_flushable hs hflush] at hturn
    exact ⟨fun hends => absurd hends (not_ends_of_undefined hturn), fun h => absurd (h.full hfull).2.1 hflush⟩
  by_cases hsettled : σ.Settled
  · obtain ⟨σ', s', hres, ⟨hstarts, hrestarted⟩ | ⟨hnot, hrefused⟩⟩ :=
      flush_of_settled env hsettled hs hflush
    · rw [hres] at hturn
      rw [ends_iff_of_again hturn, ends_fresh_iff (hrestarted.freshStream hsettled) hrestarted.starts]
      exact ⟨fun h => ⟨fun _ => ⟨hsettled, hflush, fun _ => h⟩, fun h => absurd h hneeds⟩,
        fun h => (h.full hfull).2.2 hstarts⟩
    · rw [hres] at hturn
      exact ⟨fun _ => ⟨fun _ => ⟨hsettled, hflush, fun hstarts => absurd hstarts hnot⟩, fun h => absurd h hneeds⟩,
        fun _ => (ends_iff_of_again hturn).mpr (ends_of_done (scalarTurn_of_refused hrefused.logRet))⟩
  · exact ⟨fun hends => absurd hends (not_ends_of_not_settled hsettled hret hs hfull),
      fun h => absurd (h.full hfull).1 hsettled⟩

/-- **When an argument of a fixed size is inserted.** -/
theorem scalar_ends_iff (env : LogEnv) (a : Scalar) (σ : LogState) (s : LogStream) :
    Ends (scalarTurn env a) (σ, s) ↔ ScalarReturns env a σ s := by
  by_cases hret : s.logRet > dltReturnOk
  swap
  · exact ⟨fun _ h => absurd h hret, fun _ => ends_of_done (scalarTurn_of_refused (Int.not_lt.mp hret))⟩
  cases hs : s.logLocalData with
  | none =>
    refine ⟨fun hends => absurd hends (not_ends_of_undefined (scalarTurn_of_none hret hs)), fun h => ?_⟩
    obtain ⟨id, data, hdata, -⟩ := h hret
    rw [hs] at hdata
    exact absurd hdata nofun
  | some message =>
    obtain ⟨id, data⟩ := message
    have hiff : Ends (scalarTurn env a) (σ, s) ↔
        if a.TooLong σ data then a.ReturnsLong env σ data else a.ReturnsShort env σ data := by
      by_cases hlong : a.TooLong σ data
      · rw [if_pos hlong]
        exact ends_iff_of_tooLong hret hs hlong
      · rw [if_neg hlong]
        exact ends_iff_of_not_tooLong hret hs hlong
    rw [hiff]
    refine ⟨fun h _ => ⟨id, data, hs, h⟩, fun h => ?_⟩
    obtain ⟨id', data', hdata, h⟩ := h hret
    obtain ⟨rfl, rfl⟩ := Prod.mk.inj (Option.some.inj (hs.symm.trans hdata))
    exact h

end Dlt.Log
