import Dlt.Log.EarlyMessages

/-!
# Early messages are not delivered

* `early_messages_delivered_iff` — the early messages are delivered if and only if there are none.
-/

namespace Dlt.Log

open Dlt.Lib Dlt.Shared Dlt.User List Option

variable {env : LogEnv} {σ σ' σ'' : LogState} {s s' : LogStream} {id : ℕ} {data data' : ContextData}
  {A : Call → Prop}
variable {c : Call}

/-! ## Calls -/

/-- The calls that were added, and the addresses of the copies among them. -/
structure CallsAdded (A : Call → Prop) (σ σ' : LogState) : Prop where
  calls : ∃ new, σ'.calls = σ.calls ++ new ∧
    ∀ c ∈ new, A c ∧ ∀ id b, c = .copy id b → σ.nextData ≤ id ∧ id < σ'.nextData
  nextData : σ.nextData ≤ σ'.nextData

def Call.DeletesNothing (c : Call) : Prop := ∀ id, c ≠ .delete id

def Call.StartsNothing (c : Call) : Prop := ∀ id, c ≠ .start id

theorem Call.finish_plain (id : ℕ) (payload : List UInt8) :
    (Call.finish id payload).DeletesNothing ∧ (Call.finish id payload).StartsNothing :=
  ⟨fun _ => Call.noConfusion, fun _ => Call.noConfusion⟩

theorem Call.free_plain (buffer : ℕ) : (Call.free buffer).DeletesNothing ∧ (Call.free buffer).StartsNothing :=
  ⟨fun _ => Call.noConfusion, fun _ => Call.noConfusion⟩

theorem CallsAdded.refl (A : Call → Prop) (σ : LogState) : CallsAdded A σ σ :=
  ⟨⟨[], (append_nil _).symm, nofun⟩, Nat.le_refl _⟩

theorem CallsAdded.trans (h : CallsAdded A σ σ') (h' : CallsAdded A σ' σ'') : CallsAdded A σ σ'' := by
  obtain ⟨⟨new, hnew, hall⟩, hle⟩ := h
  obtain ⟨⟨new', hnew', hall'⟩, hle'⟩ := h'
  refine ⟨⟨new ++ new', by rw [hnew', hnew, append_assoc], fun c hc => ?_⟩, hle.trans hle'⟩
  rcases mem_append.mp hc with hc | hc
  · refine ⟨(hall c hc).1, fun id b hcopy => ?_⟩
    obtain ⟨hlow, hhigh⟩ := (hall c hc).2 id b hcopy
    exact ⟨hlow, Nat.lt_of_lt_of_le hhigh hle'⟩
  · refine ⟨(hall' c hc).1, fun id b hcopy => ?_⟩
    obtain ⟨hlow, hhigh⟩ := (hall' c hc).2 id b hcopy
    exact ⟨hle.trans hlow, hhigh⟩

theorem CallsAdded.call (hA : A c) (hcopy : ∀ id b, c ≠ .copy id b) (hcalls : σ'.calls = σ.calls ++ [c])
    (hdata : σ'.nextData = σ.nextData) : CallsAdded A σ σ' := by
  refine ⟨⟨[c], hcalls, fun c' hc' => ?_⟩, hdata.ge⟩
  obtain rfl := mem_singleton.mp hc'
  exact ⟨hA, fun id b h => absurd h (hcopy id b)⟩

theorem CallsAdded.of_eq (hcalls : σ'.calls = σ.calls) (hdata : σ.nextData ≤ σ'.nextData) :
    CallsAdded A σ σ' :=
  ⟨⟨[], by rw [hcalls, append_nil], nofun⟩, hdata⟩

theorem CallsAdded.mono {B : Call → Prop} (h : CallsAdded A σ σ') (hAB : ∀ c, A c → B c) : CallsAdded B σ σ' := by
  obtain ⟨⟨new, hnew, hall⟩, hle⟩ := h
  exact ⟨⟨new, hnew, fun c hc => ⟨hAB c (hall c hc).1, (hall c hc).2⟩⟩, hle⟩

theorem dltUserLogWriteStartInternal_calls (handle : Option ℕ) (loglevel : ℤ) (messageid : ℕ) (isVerbose : Bool) :
    let r := dltUserLogWriteStartInternal env σ handle id data loglevel messageid isVerbose
    r.1.calls = σ.calls ++ [.start id] ∧ r.1.nextData = σ.nextData ∧ r.1.loggingInit = σ.loggingInit ∧
      r.1.logBuffer = σ.logBuffer := by
  unfold dltUserLogWriteStartInternal
  dsimp only
  split_ifs <;> exact ⟨rfl, rfl, rfl, rfl⟩

structure HandedOver (σ : LogState) (id : ℕ) (σ' : LogState) : Prop where
  added : CallsAdded (fun c => c.DeletesNothing ∧ c.StartsNothing) σ σ'
  loggingInit : σ'.loggingInit = σ.loggingInit
  logBuffer : σ'.logBuffer = σ.logBuffer

theorem handedOver_finish (h : dltUserLogWriteFinish σ id data = some (σ', data')) : HandedOver σ id σ' := by
  have hfinish : CallsAdded (fun c => c.DeletesNothing ∧ c.StartsNothing) σ
      (σ.call (.finish id (σ.payload data))) :=
    .call (Call.finish_plain id _) (fun _ _ => Call.noConfusion) rfl rfl
  unfold dltUserLogWriteFinish dltUserFreeBuffer at h
  cases hbuffer : data.buffer with
  | none =>
    rw [hbuffer] at h
    obtain ⟨rfl, -⟩ := Prod.mk.inj (some.inj h)
    exact ⟨hfinish, rfl, rfl⟩
  | some b =>
    rw [hbuffer] at h
    dsimp only at h
    split_ifs at h with hlive
    obtain ⟨rfl, -⟩ := Prod.mk.inj (some.inj h)
    exact ⟨hfinish.trans (.call (Call.free_plain b) (fun _ _ => Call.noConfusion) rfl rfl), rfl, rfl⟩

theorem handedOver_finishNonempty (h : finishNonempty σ id data = some (σ', data')) : HandedOver σ id σ' := by
  unfold finishNonempty at h
  split_ifs at h
  · exact handedOver_finish h
  · obtain ⟨rfl, -⟩ := Prod.mk.inj (some.inj h)
    exact ⟨.refl _ σ, rfl, rfl⟩

theorem drainLoop_callsAdded {entries : List Entry} (h : drainLoop entries σ = some σ') :
    CallsAdded Call.StartsNothing σ σ' ∧ σ'.loggingInit = σ.loggingInit := by
  induction entries generalizing σ with
  | nil =>
    obtain rfl := some.inj h
    exact ⟨.refl _ σ, rfl⟩
  | cons e rest ih =>
    rw [drainLoop] at h
    split_ifs at h
    cases hfinish : dltUserLogWriteFinish σ e.id e.data with
    | none =>
      rw [hfinish] at h
      exact absurd h nofun
    | some result =>
      rw [hfinish, bind_some] at h
      have hover := handedOver_finish hfinish
      obtain ⟨hadded, hinit⟩ := ih h
      have hdelete : CallsAdded Call.StartsNothing result.1 (result.1.call (.delete e.id)) :=
        .call (fun _ => Call.noConfusion) (fun _ _ => Call.noConfusion) rfl rfl
      exact ⟨((hover.added.mono fun _ hc => hc.2).trans hdelete).trans hadded, hinit.trans hover.loggingInit⟩

/-! ## Flushes and insertions -/

/-- A flush hands the queue over. -/
def LogState.Draining (σ : LogState) : Prop := σ.loggingInit = true ∧ σ.logBuffer ≠ []

theorem draining_congr (hinit : σ'.loggingInit = σ.loggingInit) (hqueue : σ'.logBuffer = σ.logBuffer) :
    σ'.Draining ↔ σ.Draining := by
  unfold LogState.Draining
  rw [hinit, hqueue]

/-- What a flush or an insertion does to the shared variables and the address of the message. -/
structure Flushed (σ : LogState) (s : LogStream) (σ' : LogState) (s' : LogStream) : Prop where
  address : s'.logLocalData.map Prod.fst = s.logLocalData.map Prod.fst
  loggingInit : σ'.loggingInit = σ.loggingInit
  draining : σ'.Draining ↔ σ.Draining
  startsNothing : σ.Draining → CallsAdded Call.StartsNothing σ σ'
  deletesNothing : ¬ σ.Draining → CallsAdded Call.DeletesNothing σ σ'

theorem Flushed.refl (σ : LogState) (s : LogStream) : Flushed σ s σ s :=
  ⟨rfl, rfl, Iff.rfl, fun _ => .refl _ σ, fun _ => .refl _ σ⟩

theorem Flushed.trans {s'' : LogStream} (h : Flushed σ s σ' s') (h' : Flushed σ' s' σ'' s'') :
    Flushed σ s σ'' s'' :=
  ⟨h'.address.trans h.address, h'.loggingInit.trans h.loggingInit, h'.draining.trans h.draining,
    fun hd => (h.startsNothing hd).trans (h'.startsNothing (h.draining.mpr hd)),
    fun hd => (h.deletesNothing hd).trans (h'.deletesNothing fun hd' => hd (h.draining.mp hd'))⟩

/-- **A flush that hands the queue over starts nothing**, and any other one deletes nothing. -/
theorem flush_flushed (h : flush env σ s = some (σ', s')) : Flushed σ s σ' s' := by
  unfold flush at h
  by_cases hinit : σ.loggingInit = true
  · rw [if_neg (not_not_intro hinit)] at h
    by_cases hqueue : σ.logBuffer = []
    · rw [if_neg (not_not_intro hqueue)] at h
      have hnot : ¬ σ.Draining := fun hd => hd.2 hqueue
      cases hs : s.logLocalData with
      | none =>
        rw [hs] at h
        exact absurd h nofun
      | some message =>
        obtain ⟨id, data⟩ := message
        rw [hs, bind_some] at h
        unfold LogState.sendAndRestart at h
        dsimp only at h
        cases hfinish : finishNonempty σ id data with
        | none =>
          rw [hfinish] at h
          exact absurd h nofun
        | some result =>
          obtain ⟨σ₁, data₁⟩ := result
          rw [hfinish, map_some] at h
          have hover := handedOver_finishNonempty hfinish
          have hstart := @dltUserLogWriteStartInternal_calls env σ₁ id data₁ data₁.handle data₁.logLevel
            dltUserDefaultMsgid true
          obtain ⟨rfl, rfl⟩ := Prod.mk.inj (some.inj h)
          refine ⟨by rw [hs]; rfl, hstart.2.2.1.trans hover.loggingInit, ?_, fun hd => absurd hd hnot, fun _ => ?_⟩
          · exact draining_congr (hstart.2.2.1.trans hover.loggingInit) (hstart.2.2.2.trans hover.logBuffer)
          · exact (hover.added.mono fun _ hc => hc.1).trans (.call (fun _ => Call.noConfusion)
              (fun _ _ => Call.noConfusion) hstart.1 hstart.2.1)
    · rw [if_pos hqueue] at h
      unfold LogState.drain at h
      cases hloop : drainLoop σ.logBuffer σ with
      | none =>
        rw [hloop] at h
        exact absurd h nofun
      | some σ₁ =>
        rw [hloop] at h
        obtain ⟨rfl, rfl⟩ := Prod.mk.inj (some.inj h)
        obtain ⟨hadded, hloggingInit⟩ := drainLoop_callsAdded hloop
        refine ⟨rfl, hloggingInit, ?_, fun _ => ?_, fun hd => absurd ⟨hinit, hqueue⟩ hd⟩
        · refine ⟨fun _ => ⟨hinit, hqueue⟩, fun hd => ⟨hloggingInit.trans hinit, ?_⟩⟩
          exact fun hnil => hqueue (map_eq_nil_iff.mp hnil)
        · exact hadded.trans (.of_eq rfl (Nat.le_refl _))
  · rw [if_pos hinit] at h
    have hnot : ¬ σ.Draining := fun hd => hinit hd.1
    cases hs : s.logLocalData with
    | none =>
      rw [hs] at h
      exact absurd h nofun
    | some message =>
      obtain ⟨id, data⟩ := message
      rw [hs, bind_some] at h
      have hpush : ∀ τ : LogState, τ.calls = σ.calls → τ.nextData = σ.nextData →
          τ.loggingInit = σ.loggingInit → Flushed σ s (τ.pushCopy data) s := by
        intro τ hcalls hdata hlog
        refine ⟨rfl, hlog, ⟨fun hd => absurd (hlog.symm.trans hd.1) hinit, fun hd => absurd hd hnot⟩,
          fun hd => absurd hd hnot, fun _ => ⟨⟨[.copy τ.nextData data.buffer], ?_, ?_⟩, ?_⟩⟩
        · unfold LogState.pushCopy LogState.call
          rw [hcalls]
        · intro c hc
          obtain rfl := mem_singleton.mp hc
          refine ⟨fun _ => Call.noConfusion, fun id b hcopy => ?_⟩
          obtain ⟨rfl, -⟩ := Call.copy.inj hcopy
          exact ⟨hdata.ge, Nat.lt_succ_self _⟩
        · exact hdata.ge.trans (Nat.le_succ _)
      dsimp only at h
      unfold LogState.pushEarly at h
      split_ifs at h
      · obtain ⟨rfl, rfl⟩ := Prod.mk.inj (some.inj h)
        exact hpush σ rfl rfl rfl
      · cases hqueue : σ.logBuffer with
        | nil =>
          rw [hqueue] at h
          exact absurd h nofun
        | cons e rest =>
          rw [hqueue] at h
          obtain ⟨rfl, rfl⟩ := Prod.mk.inj (some.inj h)
          exact hpush _ rfl rfl rfl

theorem flushIf_flushed {full : Prop} [Decidable full] (h : flushIf env full σ s = some (σ', s')) :
    Flushed σ s σ' s' := by
  unfold flushIf at h
  split_ifs at h
  · exact flush_flushed h
  · obtain ⟨rfl, rfl⟩ := Prod.mk.inj (some.inj h)
    exact .refl σ s

/-- A writing function calls nothing that allocates, releases or hands over. -/
theorem write_flushed {f : WriteEnv → LogData → Option (LogData × ℤ)} {ret : ℤ}
    (h : s.write env σ f = some (σ', s', ret)) : Flushed σ s σ' s' := by
  unfold LogStream.write at h
  obtain ⟨⟨id, data⟩, hs, h⟩ := bind_eq_some_iff.mp h
  obtain ⟨⟨σ₁, data₁, ret₁⟩, hwrite, h⟩ := map_eq_some_iff.mp h
  obtain ⟨rfl, hstream⟩ := Prod.mk.inj h
  obtain ⟨rfl, -⟩ := Prod.mk.inj hstream
  clear h hstream
  have hsame : σ₁.calls = σ.calls ∧ σ₁.nextData = σ.nextData ∧ σ₁.loggingInit = σ.loggingInit ∧
      σ₁.logBuffer = σ.logBuffer := by
    obtain ⟨⟨log, ret₂⟩, -, hwrite⟩ := bind_eq_some_iff.mp hwrite
    dsimp only at hwrite
    split_ifs at hwrite
    · obtain ⟨rfl, -⟩ := Prod.mk.inj (some.inj hwrite)
      exact ⟨rfl, rfl, rfl, rfl⟩
    · obtain ⟨buffer, -, hwrite⟩ := bind_eq_some_iff.mp hwrite
      obtain ⟨bytes, -, hwrite⟩ := map_eq_some_iff.mp hwrite
      obtain ⟨rfl, -⟩ := Prod.mk.inj hwrite
      exact ⟨rfl, rfl, rfl, rfl⟩
  obtain ⟨hcalls, hdata, hinit, hqueue⟩ := hsame
  exact ⟨by rw [hs]; rfl, hinit, draining_congr hinit hqueue, fun _ => .of_eq hcalls hdata.ge,
    fun _ => .of_eq hcalls hdata.ge⟩

theorem eq_some_of_getD {S R : Type*} {x : Option (Turn S R)} {t : Turn S R} (ht : t ≠ .undefined)
    (h : x.getD .undefined = t) : x = some t := by
  cases x with
  | none => exact absurd h.symm ht
  | some t' => exact congrArg some h

theorem scalarTurn_flushed {a : Scalar} {r : LogState × LogStream}
    {t : Turn (LogState × LogStream) (LogState × LogStream)}
    (ht : t = .done r ∨ t = .again r) (h : scalarTurn env a (σ, s) = t) : Flushed σ s r.1 r.2 := by
  unfold scalarTurn at h
  dsimp only at h
  by_cases hret : ¬ s.logRet > dltReturnOk
  · rw [if_pos hret] at h
    rw [← h] at ht
    obtain rfl : (σ, s) = r := by simpa using ht
    exact .refl σ s
  · rw [if_neg hret] at h
    have hdefined : t ≠ .undefined := by
      rintro rfl
      exact ht.elim nofun nofun
    obtain ⟨⟨id, data⟩, -, h⟩ := bind_eq_some_iff.mp (eq_some_of_getD hdefined h)
    obtain ⟨⟨σ₁, s₁⟩, hfirst, h⟩ := bind_eq_some_iff.mp h
    refine (flushIf_flushed hfirst).trans ?_
    unfold scalarWrite at h
    obtain ⟨⟨σ₂, s₂, ret⟩, hwrite, h⟩ := bind_eq_some_iff.mp h
    refine (write_flushed hwrite).trans ?_
    dsimp only at h
    split_ifs at h with hfull
    · obtain ⟨r', hflush, rfl⟩ := map_eq_some_iff.mp h
      obtain rfl : r' = r := by simpa using ht
      exact flush_flushed hflush
    · obtain rfl := some.inj h
      obtain rfl : (σ₂, s₂) = r := by simpa using ht
      exact .refl σ₂ s₂

theorem piecesTurn_flushed {a : Pieces} {sent sent' : ℕ} {r : LogState × LogStream}
    {t : Turn (LogState × LogStream × ℕ) (LogState × LogStream)}
    (ht : t = .done r ∨ t = .again (r.1, r.2, sent')) (h : piecesTurn env a (σ, s, sent) = t) :
    Flushed σ s r.1 r.2 := by
  unfold piecesTurn at h
  dsimp only at h
  by_cases hsent : ¬ sent < a.sizeToSend
  · rw [if_pos hsent] at h
    rw [← h] at ht
    obtain rfl : (σ, s) = r := by simpa using ht
    exact .refl σ s
  · rw [if_neg hsent] at h
    have hdefined : t ≠ .undefined := by
      rintro rfl
      exact ht.elim nofun nofun
    obtain ⟨⟨id, data⟩, -, h⟩ := bind_eq_some_iff.mp (eq_some_of_getD hdefined h)
    dsimp only at h
    split_ifs at h with hroom
    · obtain ⟨⟨σ₁, s₁⟩, hflush, rfl⟩ := map_eq_some_iff.mp h
      obtain ⟨rfl, rfl, -⟩ : σ₁ = r.1 ∧ s₁ = r.2 ∧ sent = sent' := by simpa using ht
      exact flush_flushed hflush
    · obtain ⟨piece, -, h⟩ := bind_eq_some_iff.mp h
      unfold pieceWrite at h
      obtain ⟨⟨σ₁, s₁, ret⟩, hwrite, h⟩ := bind_eq_some_iff.mp h
      refine (write_flushed hwrite).trans ?_
      obtain ⟨⟨σ₂, s₂⟩, hflush, rfl⟩ := map_eq_some_iff.mp h
      refine (flushIf_flushed hflush).trans ?_
      dsimp only at ht
      obtain ⟨rfl, rfl⟩ : σ₂ = r.1 ∧ s₂ = r.2 := by
        split_ifs at ht with hret
        · obtain rfl : (σ₂, s₂) = r := by simpa using ht
          exact ⟨rfl, rfl⟩
        · obtain ⟨h₁, h₂, -⟩ : σ₂ = r.1 ∧ s₂ = r.2 ∧ sent + piece.length = sent' := by simpa using ht
          exact ⟨h₁, h₂⟩
      exact .refl _ _

/-- **An insertion that hands the queue over starts nothing**, and any other one deletes nothing. -/
theorem inserts_flushed {value : Value} {r : LogState × LogStream} (h : Inserts env value σ s r) :
    Flushed σ s r.1 r.2 := by
  unfold Inserts at h
  cases hop : value.operator with
  | inl a =>
    rw [hop] at h
    refine @EndsWith.keeps _ _ _ _ _ (fun p => Flushed σ s p.1 p.2) (fun r => Flushed σ s r.1 r.2) ?_ ?_ h
      (.refl σ s)
    · exact fun p r hp hturn => hp.trans (scalarTurn_flushed (.inl rfl) hturn)
    · exact fun p p' hp hturn => hp.trans (scalarTurn_flushed (.inr rfl) hturn)
  | inr a =>
    rw [hop] at h
    dsimp only at h
    split_ifs at h with hret
    · refine @EndsWith.keeps _ _ _ _ _ (fun p => Flushed σ s p.1 p.2.1) (fun r => Flushed σ s r.1 r.2) ?_ ?_ h
        (.refl σ s)
      · exact fun p r hp hturn => hp.trans (@piecesTurn_flushed _ _ _ _ _ 0 r _ (.inl rfl) hturn)
      · exact fun p p' hp hturn => hp.trans (@piecesTurn_flushed _ _ _ _ _ p'.2.2 (p'.1, p'.2.1) _ (.inr rfl) hturn)
    · rw [h]
      exact .refl σ s

/-! ## Steps -/

section steps

variable {w w' : World} {op : Op} {events : List Event}

section

variable (h : CallsAdded A σ σ')
include h

theorem CallsAdded.mem_cases (hc : c ∈ σ'.calls) :
    c ∈ σ.calls ∨ A c ∧ ∀ id b, c = .copy id b → σ.nextData ≤ id ∧ id < σ'.nextData := by
  obtain ⟨⟨new, hnew, hall⟩, -⟩ := h
  rw [hnew] at hc
  rcases mem_append.mp hc with hc | hc
  · exact .inl hc
  · exact .inr (hall c hc)

theorem CallsAdded.mem_of_mem (hc : c ∈ σ.calls) : c ∈ σ'.calls := by
  obtain ⟨⟨new, hnew, -⟩, -⟩ := h
  rw [hnew]
  exact mem_append_left _ hc

theorem CallsAdded.of_mem_drop (hc : c ∈ σ'.calls.drop σ.calls.length) : A c := by
  obtain ⟨⟨new, hnew, hall⟩, -⟩ := h
  rw [hnew, drop_left] at hc
  exact (hall c hc).1

end

/-- A call of a stream deletes its own message only. -/
def Call.DeletesOf (s : LogStream) (c : Call) : Prop :=
  ∀ id, c = .delete id → s.logLocalData.map Prod.fst = some id

theorem construct_callsAdded (garbage : ContextData) (c : Constructor) :
    let r := construct env σ garbage c
    CallsAdded Call.DeletesNothing σ r.1 ∧ r.1.loggingInit = σ.loggingInit ∧
      r.2.logLocalData.map Prod.fst = some σ.nextData ∧ σ.nextData < r.1.nextData ∧
      ∀ id b, .copy id b ∈ r.1.calls → .copy id b ∈ σ.calls := by
  have hstarted : ∀ τ : LogState, τ.calls = σ.calls ++ [.start σ.nextData] → τ.nextData = σ.nextData + 1 →
      CallsAdded Call.DeletesNothing σ τ ∧ ∀ id b, .copy id b ∈ τ.calls → .copy id b ∈ σ.calls := by
    intro τ hcalls hdata
    refine ⟨⟨⟨_, hcalls, fun c hc => ?_⟩, hdata ▸ Nat.le_succ _⟩, fun id b hcopy => ?_⟩
    · obtain rfl := mem_singleton.mp hc
      exact ⟨fun _ => Call.noConfusion, fun _ _ => Call.noConfusion⟩
    · rw [hcalls] at hcopy
      simpa using hcopy
  have hstart : ∀ handle data loglevel messageid isVerbose,
      let r := dltUserLogWriteStartInternal env { σ with nextData := σ.nextData + 1 } handle σ.nextData data loglevel
        messageid isVerbose
      CallsAdded Call.DeletesNothing σ r.1 ∧ r.1.loggingInit = σ.loggingInit ∧ σ.nextData < r.1.nextData ∧
        ∀ id b, .copy id b ∈ r.1.calls → .copy id b ∈ σ.calls := by
    intro handle data loglevel messageid isVerbose
    obtain ⟨hcalls, hdata, hinit, -⟩ := @dltUserLogWriteStartInternal_calls env
      { σ with nextData := σ.nextData + 1 } σ.nextData data handle loglevel messageid isVerbose
    obtain ⟨hadded, hcopies⟩ := hstarted _ hcalls hdata
    exact ⟨hadded, hinit, hdata ▸ Nat.lt_succ_self _, hcopies⟩
  cases c with
  | level handle loglevel =>
    obtain ⟨hadded, hinit, hlt, hcopies⟩ := hstart handle garbage loglevel dltUserDefaultMsgid true
    exact ⟨hadded, hinit, rfl, hlt, hcopies⟩
  | levelId handle loglevel messageid =>
    obtain ⟨hadded, hinit, hlt, hcopies⟩ := hstart handle garbage loglevel messageid false
    exact ⟨hadded, hinit, rfl, hlt, hcopies⟩
  | copy other =>
    cases hother : other.logLocalData with
    | none =>
      unfold construct
      dsimp only
      rw [hother]
      exact ⟨.of_eq rfl (Nat.le_succ _), rfl, rfl, Nat.lt_succ_self _, fun _ _ h => h⟩
    | some message =>
      obtain ⟨hadded, hinit, hlt, hcopies⟩ := hstart message.2.handle garbage message.2.logLevel
        dltUserDefaultMsgid true
      unfold construct
      dsimp only
      rw [hother]
      exact ⟨hadded, hinit, rfl, hlt, hcopies⟩

theorem destroy_callsAdded (h : destroy σ s = some σ') :
    CallsAdded (Call.DeletesOf s) σ σ' ∧ σ'.loggingInit = σ.loggingInit := by
  unfold destroy at h
  cases hs : s.logLocalData with
  | none =>
    rw [hs] at h
    obtain rfl := some.inj h
    exact ⟨.refl _ σ, rfl⟩
  | some message =>
    rw [hs] at h
    obtain ⟨result, hfinish, rfl⟩ := map_eq_some_iff.mp h
    have hover := handedOver_finishNonempty hfinish
    refine ⟨?_, hover.loggingInit⟩
    have hdelete : CallsAdded (Call.DeletesOf s) result.1 (result.1.call (.delete message.1)) := by
      refine .call (fun id hid => ?_) (fun _ _ => Call.noConfusion) rfl rfl
      rw [hs, ← Call.delete.inj hid]
      rfl
    exact (hover.added.mono fun c hc id hid => absurd hid (hc.1 id)).trans hdelete

/-- What the calls of a step are: either the queue is handed over, and nothing is started, or a stream that is
there deletes its message at most. -/
theorem Step.calls_cases (h : Step env w op w') :
    (∃ i, i ∈ op.written ∧ w.log.Draining ∧ CallsAdded Call.StartsNothing w.log w'.log) ∨
      ∃ i s, CallsAdded (Call.DeletesOf s) w.log w'.log ∧ (w.streams i = some s ∨ s.logLocalData = none) := by
  have hflushed : ∀ {i : ℕ} {s : LogStream} {r : LogState × LogStream}, w.streams i = some s →
      Flushed w.log s r.1 r.2 → i ∈ op.written →
      (∃ i, i ∈ op.written ∧ w.log.Draining ∧ CallsAdded Call.StartsNothing w.log r.1) ∨
        ∃ i s, CallsAdded (Call.DeletesOf s) w.log r.1 ∧ (w.streams i = some s ∨ s.logLocalData = none) := by
    intro i s r hs hr hi
    by_cases hd : w.log.Draining
    · exact .inl ⟨i, hi, hd, hr.startsNothing hd⟩
    · exact .inr ⟨i, s, (hr.deletesNothing hd).mono fun c hc id hid => absurd hid (hc id), .inl hs⟩
  cases h with
  | @construct i garbage c hi =>
    refine .inr ⟨i, { logLocalData := none, logRet := 0 }, ?_, .inr rfl⟩
    exact (construct_callsAdded garbage c).1.mono fun c hc id hid => absurd hid (hc id)
  | @move i j s hi hs => exact .inr ⟨j, s, .refl _ _, .inl hs⟩
  | insert hs hr => exact hflushed hs (inserts_flushed hr) rfl
  | flush hs hr => exact hflushed hs (flush_flushed hr) rfl
  | @destroy i s σ hs hr => exact .inr ⟨i, s, (destroy_callsAdded hr).1, .inl hs⟩

theorem Step.loggingInit_eq (h : Step env w op w') : w'.log.loggingInit = w.log.loggingInit := by
  cases h with
  | construct hi => exact (construct_callsAdded _ _).2.1
  | move hi hs => rfl
  | insert hs hr => exact (inserts_flushed hr).loggingInit
  | flush hs hr => exact (flush_flushed hr).loggingInit
  | destroy hs hr => exact (destroy_callsAdded hr).2

/-! ## Addresses -/

/-- An address was given away, and not to a copy. -/
def LogState.Foreign (σ : LogState) (id : ℕ) : Prop := id < σ.nextData ∧ ∀ b, .copy id b ∉ σ.calls

/-- No stream has its message where a copy is. -/
structure Addresses (w : World) : Prop where
  streams : ∀ i s id, w.streams i = some s → s.logLocalData.map Prod.fst = some id → w.log.Foreign id
  copies : ∀ id b, .copy id b ∈ w.log.calls → id < w.log.nextData

theorem CallsAdded.foreign (h : CallsAdded A σ σ') (hid : σ.Foreign id) : σ'.Foreign id := by
  refine ⟨Nat.lt_of_lt_of_le hid.1 h.nextData, fun b hb => ?_⟩
  rcases h.mem_cases hb with hb | ⟨-, hb⟩
  · exact hid.2 b hb
  · exact absurd (hb id b rfl).1 (Nat.not_le.mpr hid.1)

theorem Step.callsAdded (h : Step env w op w') : CallsAdded (fun _ => True) w.log w'.log := by
  rcases h.calls_cases with ⟨_, -, -, hadded⟩ | ⟨_, _, hadded, -⟩
  · exact hadded.mono fun _ _ => trivial
  · exact hadded.mono fun _ _ => trivial

theorem World.place_streams (w : World) (log : LogState) (i j : ℕ) (s : Option LogStream) :
    (w.place log i s).streams j = if j = i then s else w.streams j :=
  Function.update_apply w.streams i s j

theorem Step.addresses (h : Step env w op w') (hw : Addresses w) : Addresses w' := by
  have hadded := h.callsAdded
  have hcopies : ∀ id b, .copy id b ∈ w'.log.calls → id < w'.log.nextData := by
    intro id b hb
    rcases hadded.mem_cases hb with hb | ⟨-, hb⟩
    · exact Nat.lt_of_lt_of_le (hw.copies id b hb) hadded.nextData
    · exact (hb id b rfl).2
  have hold : ∀ i s id, w.streams i = some s → s.logLocalData.map Prod.fst = some id → w'.log.Foreign id :=
    fun i s id hs hid => hadded.foreign (hw.streams i s id hs hid)
  -- A stream that was written has the address that it had.
  have hwritten : ∀ {j : ℕ} {s : LogStream} {r : LogState × LogStream} {i : ℕ} {s' : LogStream} {id : ℕ},
      w' = w.place r.1 j r.2 → w.streams j = some s → Flushed w.log s r.1 r.2 →
      w'.streams i = some s' → s'.logLocalData.map Prod.fst = some id → w'.log.Foreign id := by
    intro j s r i s' id hw' hs hr hi hid
    rw [hw', World.place_streams] at hi
    split_ifs at hi
    · obtain rfl := some.inj hi
      exact hold j s id hs (hr.address.symm.trans hid)
    · exact hold i s' id hi hid
  refine ⟨fun i s id hi hid => ?_, hcopies⟩
  cases h with
  | @construct j garbage c hj =>
    obtain ⟨-, -, haddress, hlt, hcalls⟩ := @construct_callsAdded env w.log garbage c
    rw [World.place_streams] at hi
    split_ifs at hi
    · obtain rfl := some.inj hi
      obtain rfl := some.inj (haddress.symm.trans hid)
      exact ⟨hlt, fun b hb => Nat.lt_irrefl _ (hw.copies _ b (hcalls _ b hb))⟩
    · exact hold i s id hi hid
  | @move j k s' hj hk =>
    rw [World.place_streams] at hi
    split_ifs at hi
    · obtain rfl := some.inj hi
      exact hold k s' id hk hid
    · rw [World.place_streams] at hi
      split_ifs at hi
      · obtain rfl := some.inj hi
        exact absurd hid nofun
      · exact hold i s id hi hid
  | insert hs hr => exact hwritten rfl hs (inserts_flushed hr) hi hid
  | flush hs hr => exact hwritten rfl hs (flush_flushed hr) hi hid
  | @destroy j s' σ hj hr =>
    rw [World.place_streams] at hi
    split_ifs at hi
    exact hold i s id hi hid

/-- **A copy is deleted only by a flush that hands the queue over.** -/
theorem Step.of_delete (h : Step env w op w') (hw : Addresses w) {b : Option ℕ} (hcopy : .copy id b ∈ w.log.calls)
    (hdelete : .delete id ∈ w'.log.calls.drop w.log.calls.length) :
    ∃ i, i ∈ op.written ∧ w.log.Draining ∧ CallsAdded Call.StartsNothing w.log w'.log := by
  rcases h.calls_cases with hdrain | ⟨i, s, hadded, hs⟩
  · exact hdrain
  · have hid : s.logLocalData.map Prod.fst = some id := hadded.of_mem_drop hdelete id rfl
    rcases hs with hs | hs
    · exact absurd hcopy ((hw.streams i s id hs hid).2 b)
    · rw [hs] at hid
      exact absurd hid nofun

/-! ## Runs -/

section

variable {P : World → Prop} (hstep : ∀ w op w', Step env w op w' → P w → P w') (h : Trace env w events w')
  (hw : P w)
include hstep h hw

theorem Trace.keeps : P w' := by
  induction h with
  | nil => exact hw
  | cons hfirst _ ih => exact ih (hstep _ _ _ hfirst hw)

theorem Trace.mem_calls (hc : c ∈ w'.log.calls) :
    c ∈ w.log.calls ∨ ∃ e ∈ events, P e.before ∧ Step env e.before e.op e.after ∧ c ∈ e.calls := by
  induction h with
  | nil => exact .inl hc
  | @cons w w₁ w₂ op rest hfirst _ ih =>
    rcases ih (hstep _ _ _ hfirst hw) hc with hc | ⟨e, he, hevent⟩
    · obtain ⟨⟨new, hnew, -⟩, -⟩ := hfirst.callsAdded
      by_cases hold : c ∈ w.log.calls
      · exact .inl hold
      · refine .inr ⟨⟨w, op, w₁⟩, mem_cons_self, hw, hfirst, ?_⟩
        rw [hnew] at hc
        have hmem : c ∈ new := (mem_append.mp hc).resolve_left hold
        unfold Event.calls
        dsimp only
        rw [hnew, drop_left]
        exact hmem
    · exact .inr ⟨e, mem_cons_of_mem _ he, hevent⟩

end

/-- Before the initialisation no copy is deleted. -/
structure Early (w : World) : Prop extends Addresses w where
  loggingInit : w.log.loggingInit = false
  deletes : ∀ id, .delete id ∈ w.log.calls → w.log.Foreign id

theorem Step.early (h : Step env w op w') (hw : Early w) : Early w' := by
  refine { h.addresses hw.toAddresses with loggingInit := h.loggingInit_eq.trans hw.loggingInit, deletes := ?_ }
  intro id hid
  rcases h.calls_cases with ⟨-, -, hdrain, -⟩ | ⟨i, s, hadded, hs⟩
  · exact absurd (hw.loggingInit.symm.trans hdrain.1) Bool.false_ne_true
  · rcases hadded.mem_cases hid with hid | ⟨hdeletes, -⟩
    · exact hadded.foreign (hw.deletes id hid)
    · have haddress := hdeletes id rfl
      rcases hs with hs | hs
      · exact hadded.foreign (hw.streams i s id hs haddress)
      · rw [hs] at haddress
        exact absurd haddress nofun

end steps

theorem EarlyRun.early_earlyEnd (r : EarlyRun) : Early r.earlyEnd := by
  refine r.earlyTrace.keeps (fun _ _ _ h hw => h.early hw) ?_
  have hcalls : ∀ c, c ∉ r.start.log.calls := by
    rw [r.noCalls]
    exact fun _ => not_mem_nil
  exact { streams := fun i s id hs => absurd ((r.noStreams i).symm.trans hs) nofun
          copies := fun id b h => absurd h (hcalls _)
          loggingInit := r.notInitialised
          deletes := fun id h => absurd h (hcalls _) }

theorem EarlyRun.mem_messages {r : EarlyRun} {m : ℕ × Option ℕ} (hm : m ∈ r.messages) :
    .copy m.1 m.2 ∈ r.earlyEnd.log.calls := by
  obtain ⟨c, hc, hcopied⟩ := mem_filterMap.mp hm
  cases c with
  | copy id b =>
    obtain rfl := some.inj hcopied
    exact hc
  | _ => exact absurd hcopied nofun

/-- **The early messages are delivered if and only if there are none**: what hands them over neither hands its
own message over nor starts its stream again. -/
theorem early_messages_delivered_iff (r : EarlyRun) : Delivered r ↔ r.messages = [] := by
  constructor
  · intro h
    by_contra hne
    obtain ⟨m, hm⟩ := exists_mem_of_ne_nil _ hne
    have hearly := r.early_earlyEnd
    have hcopy := EarlyRun.mem_messages hm
    have hdelete : .delete m.1 ∈ r.lateEnd.log.calls := by
      apply count_pos_iff.mp
      rw [(h.released m hm).1]
      exact Nat.one_pos
    have hlate : Addresses r.earlyEnd.initialise ∧ .copy m.1 m.2 ∈ r.earlyEnd.initialise.log.calls :=
      ⟨⟨hearly.streams, hearly.copies⟩, hcopy⟩
    have hkeeps : ∀ w op w', Step r.env w op w' → (Addresses w ∧ .copy m.1 m.2 ∈ w.log.calls) →
        Addresses w' ∧ .copy m.1 m.2 ∈ w'.log.calls :=
      fun w op w' hstep hw => ⟨hstep.addresses hw.1, hstep.callsAdded.mem_of_mem hw.2⟩
    rcases r.lateTrace.mem_calls hkeeps hlate hdelete with hold | ⟨e, he, ⟨haddresses, hcopied⟩, hstep, hcall⟩
    · exact (hearly.deletes m.1 hold).2 m.2 hcopy
    · obtain ⟨i, hi, -, hadded⟩ := hstep.of_delete haddresses hcopied hcall
      obtain ⟨s, id, data, -, -, -, hstart⟩ := h.restarted e he i hi ⟨m, hm, hcall⟩
      exact hadded.of_mem_drop hstart id rfl
  · intro hnone
    have hkept : r.kept = [] := by
      unfold EarlyRun.kept
      rw [hnone, drop_nil]
    refine ⟨⟨r.handedOver, by rw [hkept]; rfl, by rw [hkept]; exact nofun⟩, by rw [hnone]; exact nofun, ?_⟩
    rintro e - i - ⟨m, hm, -⟩
    rw [hnone] at hm
    exact absurd hm not_mem_nil

/-- A number is written and flushed before the initialisation, and the stream is flushed behind it: that flush
hands the copy over, and nothing else. -/
theorem early_message_not_delivered : ¬ ∀ r : EarlyRun, Delivered r := by
  intro h
  let env : LogEnv :=
    { isChild := false, initialised := true, verboseMode := true, logBufLen := 64, registered := fun _ => true,
      logLevel := fun _ _ => 6 }
  let garbage : ContextData :=
    { handle := none, buffer := none, size := 0, logLevel := 0, argsNum := 0, verboseMode := false }
  let σ : LogState :=
    { loggingInit := false, bufferSize := 10, logLength := 64, logBuffer := [], buffers := fun _ => none,
      nextBuffer := 0, nextData := 0, starts := 0, calls := [] }
  let w₀ : World := { log := σ, streams := fun _ => none }
  let opened := construct env σ garbage (.level (some 0) 4)
  let w₁ := w₀.place opened.1 0 (some opened.2)
  have h₁ : Step env w₀ (.construct 0 garbage (.level (some 0) 4)) w₁ := .construct rfl
  let number := plainScalar 1 [7] (dltTypeInfoUint ||| dltTyle8Bit)
  have hinsert : (loop (scalarTurn env number) 1 (w₁.log, opened.2)).isSome := by decide +kernel
  let r₁ := (loop (scalarTurn env number) 1 (w₁.log, opened.2)).get hinsert
  let w₂ := w₁.place r₁.1 0 (some r₁.2)
  have h₂ : Step env w₁ (.insert 0 (.uint8 7)) w₂ := .insert rfl ⟨1, (some_get hinsert).symm⟩
  have hflush : (flush env w₂.log r₁.2).isSome := rfl
  let r₂ := (flush env w₂.log r₁.2).get hflush
  let w₃ := w₂.place r₂.1 0 (some r₂.2)
  have h₃ : Step env w₂ (.flush 0) w₃ := .flush rfl (some_get hflush).symm
  let w₄ := w₃.initialise
  have hdrain : (flush env w₄.log r₂.2).isSome := rfl
  let r₃ := (flush env w₄.log r₂.2).get hdrain
  let w₅ := w₄.place r₃.1 0 (some r₃.2)
  have h₅ : Step env w₄ (.flush 0) w₅ := .flush rfl (some_get hdrain).symm
  let r : EarlyRun :=
    { env, start := w₀, early := _, earlyEnd := w₃, late := _, lateEnd := w₅, bufferSize_pos := by decide,
      notInitialised := rfl, noMessages := rfl, noCalls := rfl, noStreams := fun _ => rfl
      earlyTrace := .cons h₁ (.cons h₂ (.cons h₃ .nil)), lateTrace := .cons h₅ .nil }
  obtain ⟨payload, hcalls⟩ : ∃ payload, Event.calls ⟨w₄, .flush 0, w₅⟩ =
      [.finish 1 payload, .free 0, .delete 1] := ⟨_, rfl⟩
  have hmessage : (1, some 0) ∈ r.messages := mem_cons_self
  obtain ⟨s, id, data, -, -, -, hstart⟩ := (h r).restarted ⟨w₄, .flush 0, w₅⟩ mem_cons_self 0 rfl
    ⟨(1, some 0), hmessage, by rw [hcalls]; simp⟩
  rw [hcalls] at hstart
  simp at hstart

end Dlt.Log
