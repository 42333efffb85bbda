import Dlt.Log.LogStream

/-!
# What `Flush` does

* `flush_of_not_flushable` — otherwise the behaviour is undefined. `flush_of_settled` — a settled stream is
  started again or refused: `Restarted`, `Refused`. `flush_of_not_settled` — otherwise the stream stays as it
  is.
-/

namespace Dlt.Log

open Dlt.Lib Dlt.Shared Dlt.User List Option

variable {env : LogEnv} {σ σ' : LogState} {s s' : LogStream} {id : ℕ} {data data' : ContextData}

/-! ## Conditions -/

/-- A message can be released: its memory is there, or there is none. -/
def LogState.Releasable (σ : LogState) (data : ContextData) : Prop := ∀ b ∈ data.buffer, σ.Live b

open LogState

/-- A message can be written: its memory is there. -/
def LogState.Writable (σ : LogState) (data : ContextData) : Prop := ∃ b ∈ data.buffer, σ.Live b

/-- Logging is initialised and the queue is empty. -/
def LogState.Settled (σ : LogState) : Prop := σ.loggingInit = true ∧ σ.logBuffer = []

/-- There is room in the queue, or something that can be removed. -/
def LogState.Pushable (σ : LogState) : Prop :=
  σ.logBuffer.length < sizeT σ.bufferSize ∨ σ.logBuffer ≠ []

/-- The memory that the elements of the queue release. -/
def LogState.earlyBuffers (σ : LogState) : List ℕ := σ.logBuffer.filterMap (·.data.buffer)

/-- Nothing in the queue was released, and nothing is there twice. -/
structure LogState.Drainable (σ : LogState) : Prop where
  kept : ∀ e ∈ σ.logBuffer, e.deleted = false
  /-- No two copies share their memory. -/
  nodup : σ.earlyBuffers.Nodup
  live : ∀ b ∈ σ.earlyBuffers, σ.Live b

/-- What `Flush` needs. -/
def Flushable (σ : LogState) (data : ContextData) : Prop :=
  if σ.loggingInit = false then σ.Pushable
  else if σ.logBuffer ≠ [] then σ.Drainable
  else 0 < data.size → σ.Releasable data

/-- A message of a context can be started. -/
def Starts (env : LogEnv) (handle : Option ℕ) (loglevel : ℤ) (start : ℕ) : Prop :=
  env.isChild = false ∧ env.initialised = true ∧ (dltLogDefault ≤ loglevel ∧ loglevel < dltLogMax) ∧
    loglevel ≠ dltLogOff ∧
    ∃ h ∈ handle, env.registered h = true ∧ loglevel ≤ env.logLevel start h

/-- The message that was started again. -/
def ContextData.fresh (data : ContextData) (buffer : ℕ) : ContextData :=
  { handle := data.handle, buffer := some buffer, size := 0, logLevel := data.logLevel, argsNum := 0,
    verboseMode := true }

/-- What a restart leaves as it is. -/
structure SameLog (σ σ' : LogState) : Prop where
  loggingInit : σ'.loggingInit = σ.loggingInit
  bufferSize : σ'.bufferSize = σ.bufferSize
  logBuffer : σ'.logBuffer = σ.logBuffer
  logLength : σ'.logLength = σ.logLength

/-- The stream was started again. -/
structure Restarted (σ : LogState) (id : ℕ) (data : ContextData) (σ' : LogState) (s' : LogStream) : Prop
    extends SameLog σ σ' where
  starts : σ'.starts = σ.starts + 1
  logRet : s'.logRet = dltReturnTrue
  logLocalData : ∃ b, s'.logLocalData = some (id, data.fresh b) ∧ σ'.Live b

/-- The stream was not started again, and it never will be. -/
structure Refused (env : LogEnv) (σ : LogState) (id : ℕ) (data : ContextData) (σ' : LogState)
    (s' : LogStream) : Prop extends SameLog σ σ' where
  starts : σ'.starts = σ.starts + 1
  logRet : s'.logRet ≤ dltReturnOk
  buffers : data.size = 0 → σ'.buffers = σ.buffers
  logLocalData : ∃ h, s'.logLocalData =
      some (id, { data with handle := h, buffer := if 0 < data.size then none else data.buffer }) ∧
    ∀ start, ¬ Starts env h data.logLevel start

/-! ## Handing over -/

theorem SameLog.refl (σ : LogState) : SameLog σ σ := ⟨rfl, rfl, rfl, rfl⟩

theorem SameLog.trans {σ'' : LogState} (h : SameLog σ σ') (h' : SameLog σ' σ'') : SameLog σ σ'' :=
  ⟨h'.loggingInit.trans h.loggingInit, h'.bufferSize.trans h.bufferSize, h'.logBuffer.trans h.logBuffer,
    h'.logLength.trans h.logLength⟩

theorem dltUserLogWriteFinish_of_releasable (id : ℕ) (h : σ.Releasable data) :
    ∃ σ', dltUserLogWriteFinish σ id data = some (σ', { data with buffer := none }) ∧ SameLog σ σ' ∧
      σ'.starts = σ.starts ∧
      ∀ b, σ'.buffers b = if b ∈ data.buffer then none else σ.buffers b := by
  unfold dltUserLogWriteFinish dltUserFreeBuffer
  cases hbuffer : data.buffer with
  | none =>
    have hdata : ({ data with buffer := none } : ContextData) = data :=
      ContextData.ext rfl hbuffer.symm rfl rfl rfl rfl
    refine ⟨σ.call (.finish id (σ.payload data)), ?_, ⟨rfl, rfl, rfl, rfl⟩, rfl, ?_⟩
    · dsimp only
      rw [hdata]
    · simp [call]
  | some b =>
    have hlive : (σ.call (.finish id (σ.payload data))).Live b := h b hbuffer
    dsimp only
    rw [if_pos hlive]
    refine ⟨_, rfl, ⟨rfl, rfl, rfl, rfl⟩, rfl, ?_⟩
    intro b'
    by_cases hb : b' = b
    · rw [hb]
      simp [store]
    · have hb' : ¬ b' ∈ some b := fun h => hb (Option.some.inj h).symm
      simp [store, call, hb, Ne.symm hb]

theorem dltUserLogWriteFinish_of_not_releasable (h : ¬ σ.Releasable data) :
    dltUserLogWriteFinish σ id data = none := by
  unfold dltUserLogWriteFinish dltUserFreeBuffer
  cases hbuffer : data.buffer with
  | none => exact absurd (fun b hb => by rw [hbuffer] at hb; exact absurd hb nofun) h
  | some b =>
    have hlive : ¬ (σ.call (.finish id (σ.payload data))).Live b := by
      intro hlive
      refine h fun b' hb' => ?_
      obtain rfl : b = b' := Option.some.inj (hbuffer.symm.trans hb')
      exact hlive
    dsimp only
    rw [if_neg hlive]

/-! ## Starting again -/

theorem dltUserIsLogLevelEnabled_eq_true_iff {level : Option ℤ} {loglevel : ℤ} :
    dltUserIsLogLevelEnabled level loglevel = dltReturnTrue ↔
      (dltLogDefault ≤ loglevel ∧ loglevel < dltLogMax) ∧ loglevel ≠ dltLogOff ∧
        ∃ l ∈ level, loglevel ≤ l := by
  unfold dltUserIsLogLevelEnabled
  by_cases hrange : loglevel < dltLogDefault ∨ dltLogMax ≤ loglevel
  · rw [if_pos hrange]
    constructor
    · exact fun h => absurd h (by decide)
    · rintro ⟨⟨hlow, hhigh⟩, -⟩
      rcases hrange with hrange | hrange
      · exact absurd hrange (Int.not_lt.mpr hlow)
      · exact absurd hrange (Int.not_le.mpr hhigh)
  · rw [if_neg hrange]
    have hrange' : dltLogDefault ≤ loglevel ∧ loglevel < dltLogMax := by omega
    cases level with
    | none => simp [dltReturnWrongParameter, dltReturnTrue]
    | some l =>
      dsimp only
      split_ifs with h
      · simp [hrange', h.1, h.2]
      · refine ⟨fun h' => absurd h' (by decide), ?_⟩
        rintro ⟨-, hoff, l', hl', hle⟩
        obtain rfl : l = l' := Option.some.inj hl'
        exact absurd ⟨hle, hoff⟩ h

/-- The answer does not depend on the level if the context or the level of the message is wrong. -/
theorem dltUserIsLogLevelEnabled_cases (level : Option ℤ) (loglevel : ℤ) :
    dltUserIsLogLevelEnabled level loglevel = dltReturnTrue ∨
      dltUserIsLogLevelEnabled level loglevel = dltReturnLoggingDisabled ∨
        dltUserIsLogLevelEnabled level loglevel = dltReturnWrongParameter ∧
          (¬ (dltLogDefault ≤ loglevel ∧ loglevel < dltLogMax) ∨ level = none) := by
  unfold dltUserIsLogLevelEnabled
  by_cases hrange : loglevel < dltLogDefault ∨ dltLogMax ≤ loglevel
  · rw [if_pos hrange]
    exact .inr (.inr ⟨rfl, .inl (by omega)⟩)
  · rw [if_neg hrange]
    cases level with
    | none => exact .inr (.inr ⟨rfl, .inr rfl⟩)
    | some l =>
      dsimp only
      split_ifs
      · exact .inl rfl
      · exact .inr (.inl rfl)

theorem dltUserLogWriteStart_of_starts (h : Starts env data.handle data.logLevel σ.starts) :
    ∃ σ', dltUserLogWriteStart env σ data.handle id data data.logLevel =
        (σ', data.fresh σ.nextBuffer, dltReturnTrue) ∧
      SameLog σ σ' ∧ σ'.starts = σ.starts + 1 ∧ σ'.Live σ.nextBuffer := by
  obtain ⟨hchild, hinit, hrange, hoff, c, hc, hregistered, hlevel⟩ := h
  have henabled : dltUserIsLogLevelEnabled ((data.handle.filter (env.registered ·)).map
      (env.logLevel σ.starts)) data.logLevel = dltReturnTrue := by
    refine dltUserIsLogLevelEnabled_eq_true_iff.mpr ⟨hrange, hoff, _, ?_, hlevel⟩
    rw [mem_def] at hc
    rw [hc]
    simp [Option.filter, hregistered]
  have hhandle : ¬ data.handle = none := by
    rw [mem_def] at hc
    rw [hc]
    exact some_ne_none c
  unfold dltUserLogWriteStart dltUserLogWriteStartInternal
  dsimp only
  rw [if_neg hhandle, if_neg (by rw [hchild]; decide), henabled, if_neg (by decide), if_neg (by decide),
    if_neg (not_not_intro hinit), if_pos (by simp [isVerboseMode])]
  refine ⟨_, rfl, ⟨rfl, rfl, rfl, rfl⟩, rfl, ?_⟩
  simp [LogState.Live, calloc, call]

theorem dltUserLogWriteStart_of_not_starts (h : ¬ Starts env data.handle data.logLevel σ.starts) :
    ∃ σ' handle ret, dltUserLogWriteStart env σ data.handle id data data.logLevel =
        (σ', { data with handle := handle }, ret) ∧ ret ≤ dltReturnOk ∧
      SameLog σ σ' ∧ σ'.starts = σ.starts + 1 ∧ σ'.buffers = σ.buffers ∧
      ∀ start, ¬ Starts env handle data.logLevel start := by
  unfold dltUserLogWriteStart dltUserLogWriteStartInternal
  dsimp only
  by_cases hhandle : data.handle = none
  · rw [if_pos hhandle]
    refine ⟨_, data.handle, _, rfl, by decide, ⟨rfl, rfl, rfl, rfl⟩, rfl, rfl, ?_⟩
    rw [hhandle]
    rintro start ⟨-, -, -, -, c, hc, -⟩
    exact absurd hc nofun
  rw [if_neg hhandle]
  by_cases hchild : env.isChild = true
  · rw [if_pos hchild]
    refine ⟨_, data.handle, _, rfl, by decide, ⟨rfl, rfl, rfl, rfl⟩, rfl, rfl, ?_⟩
    rintro start ⟨hchild', -⟩
    rw [hchild] at hchild'
    exact absurd hchild' (by decide)
  rw [if_neg hchild]
  rcases dltUserIsLogLevelEnabled_cases ((data.handle.filter (env.registered ·)).map
      (env.logLevel σ.starts)) data.logLevel with henabled | henabled | ⟨henabled, hwrong⟩
  · rw [henabled, if_neg (by decide), if_neg (by decide)]
    have hinit : ¬ env.initialised = true := by
      intro hinit
      obtain ⟨hrange, hoff, l, hl, hle⟩ := dltUserIsLogLevelEnabled_eq_true_iff.mp henabled
      obtain ⟨c, hc, rfl⟩ := map_eq_some_iff.mp hl
      obtain ⟨hc, hregistered⟩ := Option.filter_eq_some_iff.mp hc
      exact h ⟨by simpa using hchild, hinit, hrange, hoff, c, hc, hregistered, hle⟩
    rw [if_pos hinit]
    refine ⟨_, data.handle, _, rfl, by decide, ⟨rfl, rfl, rfl, rfl⟩, rfl, rfl, ?_⟩
    rintro start ⟨-, hinit', -⟩
    exact hinit hinit'
  · rw [henabled, if_neg (by decide), if_pos rfl]
    refine ⟨_, none, _, rfl, by decide, ⟨rfl, rfl, rfl, rfl⟩, rfl, rfl, ?_⟩
    rintro start ⟨-, -, -, -, c, hc, -⟩
    exact absurd hc nofun
  · rw [henabled, if_pos rfl]
    refine ⟨_, data.handle, _, rfl, by decide, ⟨rfl, rfl, rfl, rfl⟩, rfl, rfl, ?_⟩
    rintro start ⟨-, -, hrange, -, c, hc, hregistered, -⟩
    rcases hwrong with hwrong | hwrong
    · exact hwrong hrange
    · rw [mem_def] at hc
      rw [hc] at hwrong
      simp [Option.filter, hregistered] at hwrong

/-! ## The queue -/

theorem drainLoop_eq {entries : List Entry} (hkept : ∀ e ∈ entries, e.deleted = false)
    (hnodup : (entries.filterMap (·.data.buffer)).Nodup)
    (hlive : ∀ b ∈ entries.filterMap (·.data.buffer), σ.Live b) :
    ∃ σ', drainLoop entries σ = some σ' ∧ SameLog σ σ' ∧ σ'.starts = σ.starts ∧
      ∀ b, σ'.buffers b = if b ∈ entries.filterMap (·.data.buffer) then none else σ.buffers b := by
  induction entries generalizing σ with
  | nil => exact ⟨σ, rfl, .refl σ, rfl, by simp⟩
  | cons e rest ih =>
    have hhead : σ.Releasable e.data := by
      intro b hb
      refine hlive b (mem_filterMap.mpr ⟨e, mem_cons_self, hb⟩)
    obtain ⟨σ₁, hfinish, hsame, hstarts, hbuffers⟩ := dltUserLogWriteFinish_of_releasable e.id hhead
    have hdisjoint : ∀ b ∈ rest.filterMap (·.data.buffer), b ∉ e.data.buffer := by
      intro b hb hmem
      rw [filterMap_cons, mem_def.mp hmem] at hnodup
      exact (nodup_cons.mp hnodup).1 hb
    have hrestNodup : (rest.filterMap (·.data.buffer)).Nodup :=
      hnodup.sublist ((sublist_cons_self e rest).filterMap _)
    obtain ⟨σ₂, hloop, hsame₂, hstarts₂, hbuffers₂⟩ := @ih (σ₁.call (.delete e.id))
      (fun e' he' => hkept e' (mem_cons_of_mem e he')) hrestNodup (by
        intro b hb
        have : σ₁.buffers b = σ.buffers b := by rw [hbuffers, if_neg (hdisjoint b hb)]
        unfold LogState.Live
        change (σ₁.buffers b).isSome
        rw [this]
        obtain ⟨e', he', hb'⟩ := mem_filterMap.mp hb
        exact hlive b (mem_filterMap.mpr ⟨e', mem_cons_of_mem e he', hb'⟩))
    have hcall : SameLog σ₁ (σ₁.call (.delete e.id)) := ⟨rfl, rfl, rfl, rfl⟩
    refine ⟨σ₂, ?_, (hsame.trans hcall).trans hsame₂, hstarts₂.trans hstarts, ?_⟩
    · rw [drainLoop, if_neg (by rw [hkept e mem_cons_self]; exact Bool.false_ne_true), hfinish,
        bind_some, hloop]
    · intro b
      rw [hbuffers₂]
      change (if _ then none else σ₁.buffers b) = _
      rw [hbuffers]
      have hmem : b ∈ (e :: rest).filterMap (·.data.buffer) ↔
          b ∈ e.data.buffer ∨ b ∈ rest.filterMap (·.data.buffer) := by
        simp
      by_cases hrest : b ∈ rest.filterMap (·.data.buffer)
      · rw [if_pos hrest, if_pos (hmem.mpr (.inr hrest))]
      · rw [if_neg hrest]
        by_cases hb : b ∈ e.data.buffer
        · rw [if_pos hb, if_pos (hmem.mpr (.inl hb))]
        · rw [if_neg hb, if_neg fun h => (hmem.mp h).elim hb hrest]

theorem of_drainLoop_eq_some {entries : List Entry} (h : drainLoop entries σ = some σ') :
    (∀ e ∈ entries, e.deleted = false) ∧ (entries.filterMap (·.data.buffer)).Nodup ∧
      ∀ b ∈ entries.filterMap (·.data.buffer), σ.Live b := by
  induction entries generalizing σ with
  | nil => exact ⟨nofun, nodup_nil, nofun⟩
  | cons e rest ih =>
    rw [drainLoop] at h
    by_cases hdeleted : e.deleted = true
    · rw [if_pos hdeleted] at h
      exact absurd h nofun
    rw [if_neg hdeleted] at h
    by_cases hhead : σ.Releasable e.data
    swap
    · rw [dltUserLogWriteFinish_of_not_releasable hhead] at h
      exact absurd h nofun
    obtain ⟨σ₁, hfinish, -, -, hbuffers⟩ := dltUserLogWriteFinish_of_releasable e.id hhead
    rw [hfinish, bind_some] at h
    obtain ⟨hkept, hnodup, hlive⟩ := ih h
    have hlive' : ∀ b ∈ rest.filterMap (·.data.buffer), b ∉ e.data.buffer ∧ σ.Live b := by
      intro b hb
      have hb' : (σ₁.buffers b).isSome := hlive b hb
      rw [hbuffers] at hb'
      by_cases hmem : b ∈ e.data.buffer
      · rw [if_pos hmem] at hb'
        exact absurd hb' (by decide)
      · rw [if_neg hmem] at hb'
        exact ⟨hmem, hb'⟩
    refine ⟨?_, ?_, ?_⟩
    · intro e' he'
      rcases mem_cons.mp he' with rfl | he'
      · simpa using hdeleted
      · exact hkept e' he'
    · rw [filterMap_cons]
      cases hbuffer : e.data.buffer with
      | none => exact hnodup
      | some b => exact nodup_cons.mpr ⟨fun hb => (hlive' b hb).1 hbuffer, hnodup⟩
    · intro b hb
      obtain ⟨e', he', hb'⟩ := mem_filterMap.mp hb
      rcases mem_cons.mp he' with rfl | he'
      · exact hhead b hb'
      · exact (hlive' b (mem_filterMap.mpr ⟨e', he', hb'⟩)).2

/-- The queue is handed over. Its elements stay in the queue, deleted. -/
theorem LogState.Drainable.drain (h : σ.Drainable) :
    ∃ σ', σ.drain = some σ' ∧ σ'.loggingInit = σ.loggingInit ∧ σ'.logLength = σ.logLength ∧
      σ'.logBuffer = σ.logBuffer.map ({ · with deleted := true }) ∧
      ∀ b, σ'.buffers b = if b ∈ σ.earlyBuffers then none else σ.buffers b := by
  obtain ⟨σ', hloop, hsame, -, hbuffers⟩ := drainLoop_eq h.kept h.nodup h.live
  unfold LogState.drain
  rw [hloop]
  exact ⟨_, rfl, hsame.loggingInit, hsame.logLength, rfl, hbuffers⟩

theorem drain_of_not_drainable (h : ¬ σ.Drainable) : σ.drain = none := by
  unfold LogState.drain
  cases hloop : drainLoop σ.logBuffer σ with
  | none => rfl
  | some σ' =>
    obtain ⟨hkept, hnodup, hlive⟩ := of_drainLoop_eq_some hloop
    exact absurd ⟨hkept, hnodup, hlive⟩ h

/-! ## `Flush` -/

/-- **The queue is empty and logging is initialised**: the message is handed over, and the stream is started
again or refused. -/
theorem flush_of_settled (env : LogEnv) (hsettled : σ.Settled) (hs : s.logLocalData = some (id, data))
    (h : Flushable σ data) :
    ∃ σ' s', flush env σ s = some (σ', s') ∧
      (Starts env data.handle data.logLevel σ.starts ∧ Restarted σ id data σ' s' ∨
        ¬ Starts env data.handle data.logLevel σ.starts ∧ Refused env σ id data σ' s') := by
  obtain ⟨hinit, hqueue⟩ := hsettled
  unfold Flushable at h
  rw [if_neg (by rw [hinit]; decide), if_neg (not_not_intro hqueue)] at h
  unfold flush
  rw [if_neg (not_not_intro hinit), if_neg (not_not_intro hqueue), hs, bind_some]
  unfold sendAndRestart
  have hfinish : ∃ σ₁, finishNonempty σ id data =
      some (σ₁, { data with buffer := if 0 < data.size then none else data.buffer }) ∧ SameLog σ σ₁ ∧
        σ₁.starts = σ.starts ∧ (data.size = 0 → σ₁.buffers = σ.buffers) := by
    unfold finishNonempty
    by_cases hsize : 0 < data.size
    · obtain ⟨σ₁, hfinish, hsame, hstarts, -⟩ := dltUserLogWriteFinish_of_releasable id (h hsize)
      refine ⟨σ₁, ?_, hsame, hstarts, fun hzero => absurd hsize (by omega)⟩
      rw [if_pos hsize, if_pos hsize, hfinish]
    · refine ⟨σ, ?_, .refl σ, rfl, fun _ => rfl⟩
      rw [if_neg hsize, if_neg hsize]
  obtain ⟨σ₁, hfinish, hsame, hstarts, hbuffers⟩ := hfinish
  dsimp only
  rw [hfinish, map_some]
  by_cases hcan : Starts env data.handle data.logLevel σ.starts
  · obtain ⟨σ₂, hstart, hsame₂, hstarts₂, hlive⟩ := @dltUserLogWriteStart_of_starts env σ₁ id
      { data with buffer := if 0 < data.size then none else data.buffer } (by rw [hstarts]; exact hcan)
    refine ⟨σ₂, { logLocalData := some (id, data.fresh σ₁.nextBuffer), logRet := dltReturnTrue }, ?_,
      .inl ⟨hcan, hsame.trans hsame₂, by rw [hstarts₂, hstarts], rfl, σ₁.nextBuffer, rfl, hlive⟩⟩
    dsimp only at hstart ⊢
    rw [hstart]
    rfl
  · obtain ⟨σ₂, handle, ret, hstart, hret, hsame₂, hstarts₂, hbuffers₂, hnever⟩ :=
      @dltUserLogWriteStart_of_not_starts env σ₁ id
        { data with buffer := if 0 < data.size then none else data.buffer } (by rw [hstarts]; exact hcan)
    refine ⟨σ₂, { logLocalData := some (id, _), logRet := ret }, ?_,
      .inr ⟨hcan, hsame.trans hsame₂, by rw [hstarts₂, hstarts], hret,
        fun hsize => hbuffers₂.trans (hbuffers hsize), handle, rfl, hnever⟩⟩
    dsimp only at hstart ⊢
    rw [hstart]

/-- **Otherwise** the stream stays as it is. The memory of the queue is released if logging is initialised, and
nothing is left that `Flush` could hand over again. -/
theorem flush_of_not_settled (env : LogEnv) (hsettled : ¬ σ.Settled) (hs : s.logLocalData = some (id, data))
    (h : Flushable σ data) :
    ∃ σ', flush env σ s = some (σ', s) ∧ ¬ σ'.Settled ∧ σ'.logLength = σ.logLength ∧
      σ'.loggingInit = σ.loggingInit ∧
      (∀ b, σ'.buffers b = if σ.loggingInit = true ∧ b ∈ σ.earlyBuffers then none else σ.buffers b) ∧
      (σ.loggingInit = true → ∀ data', ¬ Flushable σ' data') := by
  unfold Flushable at h
  unfold flush
  by_cases hinit : σ.loggingInit = true
  · have hqueue : σ.logBuffer ≠ [] := fun hqueue => hsettled ⟨hinit, hqueue⟩
    rw [if_neg (by rw [hinit]; decide), if_pos hqueue] at h
    obtain ⟨σ', hdrain, hinit', hlength, hqueue', hbuffers⟩ := h.drain
    have hne : σ'.logBuffer ≠ [] := by
      rw [hqueue']
      exact fun hnil => hqueue (map_eq_nil_iff.mp hnil)
    rw [if_neg (not_not_intro hinit), if_pos hqueue, hdrain]
    refine ⟨σ', rfl, fun h => hne h.2, hlength, hinit', ?_, ?_⟩
    · intro b
      rw [hbuffers]
      simp only [hinit, true_and]
    · intro _ data' hflush
      unfold Flushable at hflush
      rw [if_neg (by rw [hinit', hinit]; decide), if_pos hne] at hflush
      obtain ⟨e, he⟩ := exists_mem_of_ne_nil _ hqueue
      have hkept := hflush.kept { e with deleted := true } (by
        rw [hqueue']
        exact mem_map.mpr ⟨e, he, rfl⟩)
      exact Bool.noConfusion hkept
  · have hinit' : σ.loggingInit = false := by simpa using hinit
    rw [if_pos hinit'] at h
    rw [if_pos hinit, hs, bind_some]
    have hpush : ∃ σ', σ.pushEarly data = some σ' ∧ σ'.loggingInit = σ.loggingInit ∧
        σ'.logLength = σ.logLength ∧ σ'.buffers = σ.buffers := by
      unfold pushEarly
      by_cases hroom : sizeT σ.bufferSize > σ.logBuffer.length
      · rw [if_pos hroom]
        exact ⟨_, rfl, rfl, rfl, rfl⟩
      · rw [if_neg hroom]
        cases hqueue : σ.logBuffer with
        | nil =>
          rcases h with h | h
          · exact absurd h hroom
          · exact absurd hqueue h
        | cons e rest => exact ⟨_, rfl, rfl, rfl, rfl⟩
    obtain ⟨σ', hpush, hσ'init, hlength, hbuffers⟩ := hpush
    refine ⟨σ', by dsimp only; rw [hpush]; rfl, fun hs => hinit (hσ'init ▸ hs.1), hlength, hσ'init, ?_,
      fun h => absurd h hinit⟩
    intro b
    rw [hbuffers]
    simp [hinit']

/-- **`Flush` needs what `Flushable` says.** -/
theorem flush_of_not_flushable (hs : s.logLocalData = some (id, data)) (h : ¬ Flushable σ data) :
    flush env σ s = none := by
  unfold Flushable at h
  unfold flush
  by_cases hinit : σ.loggingInit = true
  · rw [if_neg (by rw [hinit]; decide)] at h
    rw [if_neg (not_not_intro hinit)]
    by_cases hqueue : σ.logBuffer = []
    · rw [if_neg (not_not_intro hqueue), Classical.not_imp] at h
      rw [if_neg (not_not_intro hqueue), hs, bind_some]
      unfold sendAndRestart finishNonempty
      dsimp only
      rw [if_pos h.1, dltUserLogWriteFinish_of_not_releasable h.2]
      rfl
    · rw [if_pos hqueue] at h
      rw [if_pos hqueue, drain_of_not_drainable h]
      rfl
  · rw [if_pos (by simpa using hinit)] at h
    rw [if_pos hinit, hs, bind_some]
    unfold LogState.Pushable at h
    rw [not_or, not_not] at h
    unfold pushEarly
    dsimp only
    rw [if_neg h.1, h.2]
    rfl

/-- `Flush` is defined when it has what it needs. -/
theorem exists_flush (env : LogEnv) (hs : s.logLocalData = some (id, data)) (h : Flushable σ data) :
    ∃ x, flush env σ s = some x := by
  by_cases hsettled : σ.Settled
  · obtain ⟨σ', s', hres, -⟩ := flush_of_settled env hsettled hs h
    exact ⟨_, hres⟩
  · obtain ⟨σ', hres, -⟩ := flush_of_not_settled env hsettled hs h
    exact ⟨_, hres⟩

end Dlt.Log
