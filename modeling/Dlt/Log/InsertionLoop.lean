import Dlt.Log.InsertionPieces

/-!
# When the loop over a string or bytes ends

* `Pieces.RefusedEmpty`, `ends_behind_zero_iff` — at a zero the loop goes on with empty strings, and it ends
  when the library refuses one.
* `PiecesReturns`, `pieces_ends_iff` — when the operator returns.
-/

namespace Dlt.Log

open Dlt.Lib Dlt.Shared Dlt.User Option ContextData

variable {env : LogEnv} {σ σ' : LogState} {s s' : LogStream} {id : ℕ} {data data' : ContextData}
  {a : Pieces} {sent : ℕ} {piece : List UInt8}
variable {logLength start left : ℕ} {P : Prop}

/-! ## Room -/

theorem leftSize_add {header size n : ℕ} (h : (n : ℤ) ≤ leftSize logLength header size + 2147483648) :
    leftSize logLength header (size + n) = leftSize logLength header size - n := by
  unfold leftSize i32 at *
  push_cast
  split_ifs at * <;> omega

/-- A message that is exactly full has as much room as the piece is long. -/
theorem leftSize_of_fillsUp {length : ℕ} (h : a.FillsUp σ data length) (hlength : length ≤ tmpSize) :
    leftSize σ.logLength a.header data.size = length := by
  have htmp : tmpSize = 1390 := rfl
  unfold Pieces.FillsUp at h
  unfold leftSize
  rw [← h]
  rw [i32_of_range] <;> omega

/-! ## Turns -/

theorem piecesTurn_of_sent (h : ¬ sent < a.sizeToSend) : piecesTurn env a (σ, s, sent) = .done (σ, s) := by
  unfold piecesTurn
  exact if_pos h

theorem piecesTurn_of_none (h : sent < a.sizeToSend) (hs : s.logLocalData = none) :
    piecesTurn env a (σ, s, sent) = .undefined := by
  unfold piecesTurn
  dsimp only
  rw [if_neg (not_not_intro h), hs]
  rfl

theorem piecesTurn_of_noRoom (env : LogEnv) (h : sent < a.sizeToSend) (hs : s.logLocalData = some (id, data))
    (hleft : leftSize σ.logLength a.header data.size ≤ 0) :
    piecesTurn env a (σ, s, sent) =
      ((flush env σ s).map fun x => .again (x.1, x.2, sent)).getD .undefined := by
  unfold piecesTurn
  dsimp only
  rw [if_neg (not_not_intro h), hs, bind_some]
  dsimp only
  rw [if_pos hleft]

theorem piecesTurn_of_room (env : LogEnv) (h : sent < a.sizeToSend) (hs : s.logLocalData = some (id, data))
    (hleft : ¬ leftSize σ.logLength a.header data.size ≤ 0) :
    piecesTurn env a (σ, s, sent) =
      ((a.piece sent (leftSize σ.logLength a.header data.size).toNat).bind fun piece =>
        pieceWrite env a σ s data.size sent piece).getD .undefined := by
  unfold piecesTurn
  dsimp only
  rw [if_neg (not_not_intro h), hs, bind_some]
  dsimp only
  rw [if_neg hleft]

/-! ## No room -/

/-- There is no room, and `Flush` makes none: it does not send the message, the stream is not started again, or
there is no room in an empty message. -/
def Stuck (env : LogEnv) (a : Pieces) (σ : LogState) (s : LogStream) : Prop :=
  ∃ id data, s.logLocalData = some (id, data) ∧ leftSize σ.logLength a.header data.size ≤ 0 ∧
    (¬ σ.Settled ∨ (∀ start, ¬ Starts env data.handle data.logLevel start) ∨
      leftSize σ.logLength a.header 0 ≤ 0)

theorem Stuck.flush (h : Stuck env a σ s) :
    flush env σ s = none ∨ ∃ σ' s', flush env σ s = some (σ', s') ∧ Stuck env a σ' s' := by
  obtain ⟨id, data, hs, hleft, hwhy⟩ := h
  by_cases hflush : Flushable σ data
  swap
  · exact .inl (flush_of_not_flushable hs hflush)
  by_cases hsettled : σ.Settled
  · obtain ⟨σ', s', hres, ⟨hstarts, hrestarted⟩ | ⟨hnot, hrefused⟩⟩ :=
      flush_of_settled env hsettled hs hflush
    · obtain ⟨b, hs', -⟩ := hrestarted.logLocalData
      rcases hwhy with hun | hnever | hempty
      · exact absurd hsettled hun
      · exact absurd hstarts (hnever _)
      · rw [← hrestarted.logLength] at hempty
        exact .inr ⟨σ', s', hres, id, _, hs', hempty, .inr (.inr hempty)⟩
    · obtain ⟨handle, hs', hnever⟩ := hrefused.logLocalData
      rw [← hrefused.logLength] at hleft
      exact .inr ⟨σ', s', hres, id, _, hs', hleft, .inr (.inl hnever)⟩
  · obtain ⟨σ', hres, hsettled', hlength, -⟩ := flush_of_not_settled env hsettled hs hflush
    rw [← hlength] at hleft
    exact .inr ⟨σ', s, hres, id, data, hs, hleft, .inl hsettled'⟩

/-- **Without room the loop does not end.** -/
theorem not_ends_of_stuck (hn : sent < a.sizeToSend) (h : Stuck env a σ s) :
    ¬ Ends (piecesTurn env a) (σ, s, sent) := by
  refine not_ends_of_keeps (fun x => x.2.2 = sent ∧ Stuck env a x.1 x.2.1) ?_ ⟨rfl, h⟩
  rintro ⟨σ, s, sent'⟩ ⟨hsent, hstuck⟩
  obtain rfl : sent = sent' := hsent.symm
  have hcases := hstuck.flush
  obtain ⟨id, data, hs, hleft, -⟩ := hstuck
  rw [piecesTurn_of_noRoom env hn hs hleft]
  rcases hcases with hres | ⟨σ', s', hres, hstuck'⟩
  · rw [hres]
    exact .inl rfl
  · rw [hres]
    exact .inr ⟨_, rfl, rfl, hstuck'⟩

/-! ## Behind a flush -/

theorem FreshStream.congr (h : FreshStream id data' σ s) (hhandle : data'.handle = data.handle)
    (hlevel : data'.logLevel = data.logLevel) : FreshStream id data σ s := by
  obtain ⟨b, hs, hlive⟩ := h.logLocalData
  refine ⟨h.settled, h.logRet, b, ?_, hlive⟩
  unfold fresh at *
  rw [hs, hhandle, hlevel]

/-- When the loop ends from a message that was started last. -/
def EndsFresh (env : LogEnv) (a : Pieces) (σ : LogState) (id : ℕ) (data : ContextData) (sent : ℕ)
    (P : Prop) : Prop :=
  ∀ σ' s', FreshStream id data σ' s' → σ'.starts = σ.starts + 1 → σ'.logLength = σ.logLength →
    (Ends (piecesTurn env a) (σ', s', sent) ↔ P)

/-- Behind a flush the loop ends if the stream was started again and the loop ends from there. -/
theorem ends_flush_iff {x : LogState × LogStream × ℕ}
    (hturn : piecesTurn env a x = ((flush env σ s).map fun y => .again (y.1, y.2, sent)).getD .undefined)
    (hn : sent < a.sizeToSend) (hs : s.logLocalData = some (id, data))
    (hleft : leftSize σ.logLength a.header data.size ≤ 0) (hfresh : EndsFresh env a σ id data sent P) :
    Ends (piecesTurn env a) x ↔
      σ.Settled ∧ Flushable σ data ∧ Starts env data.handle data.logLevel σ.starts ∧ P := by
  by_cases hflush : Flushable σ data
  swap
  · rw [flush_of_not_flushable hs hflush] at hturn
    exact ⟨fun hends => absurd hends (not_ends_of_undefined hturn), fun h => absurd h.2.1 hflush⟩
  by_cases hsettled : σ.Settled
  · obtain ⟨σ', s', hres, ⟨hstarts, hrestarted⟩ | ⟨hnot, hrefused⟩⟩ :=
      flush_of_settled env hsettled hs hflush
    · rw [hres] at hturn
      rw [ends_iff_of_again hturn,
        hfresh σ' s' (hrestarted.freshStream hsettled) hrestarted.starts hrestarted.logLength]
      exact ⟨fun h => ⟨hsettled, hflush, hstarts, h⟩, fun h => h.2.2.2⟩
    · rw [hres] at hturn
      obtain ⟨handle, hs', hnever⟩ := hrefused.logLocalData
      rw [ends_iff_of_again hturn]
      rw [← hrefused.logLength] at hleft
      exact ⟨fun hends => absurd hends (not_ends_of_stuck hn ⟨id, _, hs', hleft, .inr (.inl hnever)⟩),
        fun h => absurd h.2.2.1 hnot⟩
  · obtain ⟨σ', hres, hsettled', hlength, -⟩ := flush_of_not_settled env hsettled hs hflush
    rw [hres] at hturn
    rw [ends_iff_of_again hturn]
    rw [← hlength] at hleft
    exact ⟨fun hends => absurd hends (not_ends_of_stuck hn ⟨id, data, hs, hleft, .inl hsettled'⟩),
      fun h => absurd h.1 hsettled⟩

theorem LogState.Writable.flushable (h : σ.Writable data) (hsettled : σ.Settled) : Flushable σ data :=
  flushable_of_settled hsettled fun _ => h.releasable

theorem SameMemory.settled_iff (h : SameMemory σ σ') : σ'.Settled ↔ σ.Settled := by
  unfold LogState.Settled
  rw [h.loggingInit, h.logBuffer]

/-- **A turn that writes a piece** of some length. -/
theorem piecesTurn_of_written {length : ℕ} (hn : sent < a.sizeToSend) (hs : s.logLocalData = some (id, data))
    (hroom : ¬ leftSize σ.logLength a.header data.size ≤ 0) (hsent : sent ≤ a.available)
    (hlen : a.pieceLength sent (leftSize σ.logLength a.header data.size).toNat = length)
    (hfits : a.Fits (leftSize σ.logLength a.header data.size).toNat length) (hfails : ¬ a.Fails env data length)
    (hwritable : σ.Writable data) :
    ∃ σ₁ s₁ data₁, SameMemory σ σ₁ ∧ s₁.logLocalData = some (id, data₁) ∧
      Grown data (length + a.overhead (isVerboseMode env data)) data₁ ∧
      piecesTurn env a (σ, s, sent) = ((flushIf env (a.FillsUp σ data length) σ₁ s₁).map fun x =>
        .again (x.1, x.2, sent + length)).getD .undefined := by
  subst hlen
  obtain ⟨piece, hpiece, hlength⟩ := piece_of_fits hsent hn hfits
  rw [← hlength] at hfits hfails ⊢
  obtain ⟨σ₁, s₁, data₁, hmemory, hs₁, hgrown, hwrite⟩ :=
    pieceWrite_of_not_fails sent hs hfits.le hfails hwritable
  refine ⟨σ₁, s₁, data₁, hmemory, hs₁, hgrown, ?_⟩
  rw [piecesTurn_of_room env hn hs hroom, hpiece, bind_some, hwrite]

/-- **A piece that fills the message.** -/
theorem ends_full_iff (sent : ℕ)
    (hn : (sent + (leftSize σ.logLength a.header data.size).toNat : ℕ) < a.sizeToSend)
    (hs : s.logLocalData = some (id, data)) (hroom : ¬ leftSize σ.logLength a.header data.size ≤ 0)
    (hfull : (leftSize σ.logLength a.header data.size).toNat ≤ a.available - sent) (hsent : sent ≤ a.available)
    (hfits : a.Fits (leftSize σ.logLength a.header data.size).toNat
      (leftSize σ.logLength a.header data.size).toNat)
    (hfails : ¬ a.Fails env data (leftSize σ.logLength a.header data.size).toNat) (hwritable : σ.Writable data)
    (hfresh : EndsFresh env a σ id data (sent + (leftSize σ.logLength a.header data.size).toNat) P) :
    Ends (piecesTurn env a) (σ, s, sent) ↔
      σ.Settled ∧ Starts env data.handle data.logLevel σ.starts ∧ P := by
  have hn' : (sent : ℤ) < a.sizeToSend := by omega
  obtain ⟨σ₁, s₁, data₁, hmemory, hs₁, hgrown, hturn⟩ :=
    piecesTurn_of_written hn' hs hroom hsent (Nat.min_eq_left hfull) hfits hfails hwritable
  have hwritable₁ := (hmemory.writable hgrown.buffer).mpr hwritable
  have hover := a.overhead_le (isVerboseMode env data)
  have hleft₁ : leftSize σ₁.logLength a.header data₁.size ≤ 0 := by
    rw [hmemory.logLength, hgrown.size, leftSize_add] <;> omega
  have hfresh₁ : EndsFresh env a σ₁ id data₁ (sent + (leftSize σ.logLength a.header data.size).toNat) P := by
    intro σ' s' h hstarts hlog
    exact hfresh σ' s' (h.congr hgrown.handle hgrown.logLevel) (by rw [hstarts, hmemory.starts])
      (by rw [hlog, hmemory.logLength])
  have hiff : Ends (piecesTurn env a) (σ, s, sent) ↔ σ₁.Settled ∧ Flushable σ₁ data₁ ∧
      Starts env data₁.handle data₁.logLevel σ₁.starts ∧ P := by
    unfold flushIf at hturn
    by_cases hfill : a.FillsUp σ data (leftSize σ.logLength a.header data.size).toNat
    · rw [if_pos hfill] at hturn
      exact ends_flush_iff hturn hn hs₁ hleft₁ hfresh₁
    · rw [if_neg hfill, map_some] at hturn
      rw [ends_iff_of_again hturn]
      exact ends_flush_iff (piecesTurn_of_noRoom env hn hs₁ hleft₁) hn hs₁ hleft₁ hfresh₁
  rw [hiff, hmemory.settled_iff, hgrown.handle, hgrown.logLevel, hmemory.starts]
  constructor
  · rintro ⟨hsettled, -, hstarts, hP⟩
    exact ⟨hsettled, hstarts, hP⟩
  · rintro ⟨hsettled, hstarts, hP⟩
    exact ⟨hsettled, hwritable₁.flushable (hmemory.settled_iff.mpr hsettled), hstarts, hP⟩

/-! ## The last piece -/

section piece

variable {length : ℕ} (hn : sent < a.sizeToSend) (hs : s.logLocalData = some (id, data))
  (hroom : ¬ leftSize σ.logLength a.header data.size ≤ 0) (hsent : sent ≤ a.available)
  (hlen : a.pieceLength sent (leftSize σ.logLength a.header data.size).toNat = length)

include hn hs hroom hsent hlen

/-- A piece that does not fit into `tmp`. -/
theorem not_ends_of_not_fits (hfits : ¬ a.Fits (leftSize σ.logLength a.header data.size).toNat length) :
    ¬ Ends (piecesTurn env a) (σ, s, sent) := by
  have hturn := piecesTurn_of_room env hn hs hroom
  rw [piece_of_not_fits hsent hn (by rw [hlen]; exact hfits)] at hturn
  exact not_ends_of_undefined hturn

section

variable (hfits : a.Fits (leftSize σ.logLength a.header data.size).toNat length)
include hfits

theorem ends_refused_iff (hfails : a.Fails env data length) :
    Ends (piecesTurn env a) (σ, s, sent) ↔
      ∀ piece ∈ a.piece sent (leftSize σ.logLength a.header data.size).toNat,
        a.RefusedSafely env σ data piece := by
  obtain ⟨piece, hpiece, hlength⟩ := piece_of_fits hsent hn (by rw [hlen]; exact hfits)
  have hturn := piecesTurn_of_room env hn hs hroom
  rw [hpiece, bind_some] at hturn
  rw [hlen] at hlength
  rw [hpiece]
  rcases pieceWrite_of_fails σ sent hs (by rw [hlength]; exact hfits.le)
    (by rw [hlength]; exact hfails) with ⟨hsafe, r, hr⟩ | ⟨hnot, hr⟩
  · rw [hr] at hturn
    refine ⟨fun _ piece' hpiece' => ?_, fun _ => ends_of_done hturn⟩
    obtain rfl : piece = piece' := Option.some.inj hpiece'
    exact hsafe
  · rw [hr] at hturn
    exact ⟨fun hends => absurd hends (not_ends_of_undefined hturn), fun h => absurd (h piece rfl) hnot⟩

section

variable (hfails : ¬ a.Fails env data length)
include hfails

theorem not_ends_of_not_writable (hwritable : ¬ σ.Writable data) :
    ¬ Ends (piecesTurn env a) (σ, s, sent) := by
  obtain ⟨piece, hpiece, hlength⟩ := piece_of_fits hsent hn (by rw [hlen]; exact hfits)
  have hturn := piecesTurn_of_room env hn hs hroom
  rw [hlen] at hlength
  rw [hpiece, bind_some, pieceWrite_of_not_writable hs (by rw [hlength]; exact hfits.le)
    (by rw [hlength]; exact hfails) hwritable] at hturn
  exact not_ends_of_undefined hturn

theorem ends_last_iff (hwritable : σ.Writable data) (hlast : ¬ (sent + length : ℕ) < a.sizeToSend) :
    Ends (piecesTurn env a) (σ, s, sent) ↔ (a.FillsUp σ data length → Flushable σ data) := by
  obtain ⟨σ₁, s₁, data₁, hmemory, hs₁, hgrown, hturn⟩ :=
    piecesTurn_of_written hn hs hroom hsent hlen hfits hfails hwritable
  have hdone : ∀ {σ s}, Ends (piecesTurn env a) (σ, s, sent + length) :=
    fun {_ _} => ends_of_done (piecesTurn_of_sent hlast)
  have hflush := hmemory.flushable hgrown.buffer hwritable
  unfold flushIf at hturn
  by_cases hfill : a.FillsUp σ data length
  · rw [if_pos hfill] at hturn
    by_cases hflushable : Flushable σ data
    · obtain ⟨x, hx⟩ := exists_flush env hs₁ (hflush.mpr hflushable)
      rw [hx] at hturn
      exact ⟨fun _ _ => hflushable, fun _ => (ends_iff_of_again hturn).mpr hdone⟩
    · rw [flush_of_not_flushable hs₁ fun h => hflushable (hflush.mp h)] at hturn
      exact ⟨fun hends => absurd hends (not_ends_of_undefined hturn), fun h => absurd (h hfill) hflushable⟩
  · rw [if_neg hfill] at hturn
    exact ⟨fun _ h => absurd h hfill, fun _ => (ends_iff_of_again hturn).mpr hdone⟩

/-- A piece that does not fill the message: the loop goes on with the same message. -/
theorem ends_part_iff (hwritable : σ.Writable data)
    (hpart : length < (leftSize σ.logLength a.header data.size).toNat) :
    ∃ σ₁ s₁ data₁, SameMemory σ σ₁ ∧ s₁.logLocalData = some (id, data₁) ∧
      Grown data (length + a.overhead (isVerboseMode env data)) data₁ ∧
      (Ends (piecesTurn env a) (σ, s, sent) ↔ Ends (piecesTurn env a) (σ₁, s₁, sent + length)) := by
  obtain ⟨σ₁, s₁, data₁, hmemory, hs₁, hgrown, hturn⟩ :=
    piecesTurn_of_written hn hs hroom hsent hlen hfits hfails hwritable
  have hfill : ¬ a.FillsUp σ data length := by
    intro hfill
    have := leftSize_of_fillsUp hfill hfits.le
    omega
  rw [flushIf, if_neg hfill] at hturn
  exact ⟨σ₁, s₁, data₁, hmemory, hs₁, hgrown, ends_iff_of_again hturn⟩

end

end

end piece

/-! ## Behind a zero -/

/-- The loop writes empty strings behind a message of some size, and the library refuses one of them. -/
def Pieces.RefusedEmpty (env : LogEnv) (a : Pieces) (logLength : ℕ) (verbose : Bool) (size : ℕ) : Prop :=
  ∃ i : ℕ, (a.overhead verbose * i : ℕ) < leftSize logLength a.header size ∧
    env.logBufLen.toNat < size + a.overhead verbose * (i + 1)

open Pieces

/-- An empty string that the library does not refuse makes the message longer. -/
theorem refusedEmpty_add_iff {size : ℕ} {verbose : Bool} (hroom : ¬ leftSize logLength a.header size ≤ 0)
    (hfails : ¬ env.logBufLen.toNat < size + a.overhead verbose) :
    a.RefusedEmpty env logLength verbose (size + a.overhead verbose) ↔
      a.RefusedEmpty env logLength verbose size := by
  have hover := a.overhead_le verbose
  have hleft := @leftSize_add logLength a.header size (a.overhead verbose) (by omega)
  unfold Pieces.RefusedEmpty
  rw [hleft]
  constructor
  · rintro ⟨i, hi, hrefused⟩
    refine ⟨i + 1, ?_, ?_⟩
    · simp only [Nat.mul_add_one]
      push_cast at hi ⊢
      omega
    · simp only [Nat.mul_add_one] at hrefused ⊢
      omega
  · rintro ⟨i, hi, hrefused⟩
    cases i with
    | zero => exact absurd (by simpa using hrefused) hfails
    | succ i =>
      refine ⟨i, ?_, ?_⟩
      · simp only [Nat.mul_add_one] at hi
        push_cast at hi ⊢
        omega
      · simp only [Nat.mul_add_one] at hrefused ⊢
        omega

theorem Grown.isVerboseMode {n : ℕ} (h : Grown data n data') : isVerboseMode env data' = isVerboseMode env data := by
  unfold Dlt.Log.isVerboseMode
  rw [h.verboseMode]

theorem Pieces.fails_zero_iff (hinit : env.initialised = true) :
    a.Fails env data 0 ↔ env.logBufLen.toNat < data.size + a.overhead (isVerboseMode env data) :=
  ⟨fun h => h hinit, fun h _ => h⟩

/-- An empty string is refused where there is no room for it: the note that it was cut is longer. -/
theorem Pieces.not_cuts_of_fails_zero (h : a.Fails env data 0) : ¬ a.Cuts env data := by
  rintro ⟨hinit, htext, hroom⟩
  have hfull := h hinit
  unfold overhead at hfull
  rw [if_pos htext] at hfull
  change data.size + strTruncatedMessage.length + 2 + (if isVerboseMode env data = true then 4 else 0) ≤ _ at hroom
  have hnote : strTruncatedMessage.length = 36 := rfl
  omega

theorem pieceLength_available (left : ℕ) : a.pieceLength a.available left = 0 := by
  unfold pieceLength
  rw [Nat.sub_self, Nat.min_zero]

section

variable (hn : a.available < a.sizeToSend)
include hn

section

variable (hinit : env.initialised = true)
include hinit

theorem ends_empty (hs : s.logLocalData = some (id, data)) (hwritable : σ.Writable data)
    (hroom : ¬ leftSize σ.logLength a.header data.size ≤ 0)
    (hfits : a.Fits (leftSize σ.logLength a.header data.size).toNat 0) :
    (env.logBufLen.toNat < data.size + a.overhead (isVerboseMode env data) ∧
        Ends (piecesTurn env a) (σ, s, a.available)) ∨
      ¬ env.logBufLen.toNat < data.size + a.overhead (isVerboseMode env data) ∧
        ∃ σ₁ s₁ data₁, SameMemory σ σ₁ ∧ s₁.logLocalData = some (id, data₁) ∧
          Grown data (a.overhead (isVerboseMode env data)) data₁ ∧
          piecesTurn env a (σ, s, a.available) = .again (σ₁, s₁, a.available) := by
  have hlen := pieceLength_available (a := a) (leftSize σ.logLength a.header data.size).toNat
  have hfill : ∀ {piece : List UInt8}, piece.length = 0 → ¬ a.FillsUp σ data piece.length := by
    intro piece hlength hfill
    have := leftSize_of_fillsUp hfill (by rw [hlength]; exact Nat.zero_le _)
    omega
  by_cases hfails : a.Fails env data 0
  · refine .inl ⟨(fails_zero_iff hinit).mp hfails,
      (ends_refused_iff hn hs hroom (Nat.le_refl _) hlen hfits hfails).mpr fun piece hpiece => ?_⟩
    obtain ⟨piece', hpiece', hlength⟩ := piece_of_fits (Nat.le_refl _) hn (by rw [hlen]; exact hfits)
    obtain rfl : piece' = piece := Option.some.inj (hpiece'.symm.trans hpiece)
    exact ⟨fun h => absurd h (not_cuts_of_fails_zero hfails), fun h => absurd h (hfill (hlength.trans hlen))⟩
  · obtain ⟨piece, hpiece, hlength⟩ := piece_of_fits (Nat.le_refl _) hn (by rw [hlen]; exact hfits)
    rw [hlen] at hlength
    have hturn := piecesTurn_of_room env hn hs hroom
    obtain ⟨σ₁, s₁, data₁, hmemory, hs₁, hgrown, hwrite⟩ :=
      pieceWrite_of_not_fails a.available hs (by rw [hlength]; exact Nat.zero_le _)
        (by rw [hlength]; exact hfails) hwritable
    rw [hpiece, bind_some, hwrite, flushIf, if_neg (hfill hlength), hlength] at hturn
    rw [hlength, Nat.zero_add] at hgrown
    exact .inr ⟨fun h => hfails ((fails_zero_iff hinit).mpr h), σ₁, s₁, data₁, hmemory, hs₁, hgrown, hturn⟩

/-- The library refuses an empty string, or there is no room at last. -/
theorem ends_behind_zero (hs : s.logLocalData = some (id, data)) (hwritable : σ.Writable data)
    (hfits : a.Fits (leftSize σ.logLength a.header data.size).toNat 0) :
    (a.RefusedEmpty env σ.logLength (isVerboseMode env data) data.size ∧
        Ends (piecesTurn env a) (σ, s, a.available)) ∨
      ¬ a.RefusedEmpty env σ.logLength (isVerboseMode env data) data.size ∧
        ∃ σ₁ s₁ data₁ n, SameMemory σ σ₁ ∧ s₁.logLocalData = some (id, data₁) ∧ Grown data n data₁ ∧
          leftSize σ₁.logLength a.header data₁.size ≤ 0 ∧
          (Ends (piecesTurn env a) (σ, s, a.available) ↔ Ends (piecesTurn env a) (σ₁, s₁, a.available)) := by
  generalize hk : (leftSize σ.logLength a.header data.size).toNat = k
  induction k using Nat.strongRecOn generalizing σ s data with
  | ind k ih =>
    by_cases hroom : leftSize σ.logLength a.header data.size ≤ 0
    · refine .inr ⟨?_, σ, s, data, 0, ⟨.refl σ, rfl, fun _ => Iff.rfl⟩, hs, ⟨rfl, rfl, rfl, rfl, rfl⟩, hroom,
        Iff.rfl⟩
      rintro ⟨i, hi, -⟩
      omega
    · rcases ends_empty hn hinit hs hwritable hroom hfits with ⟨hfails, hends⟩ |
        ⟨hfails, σ₁, s₁, data₁, hmemory, hs₁, hgrown, hturn⟩
      · refine .inl ⟨⟨0, ?_, ?_⟩, hends⟩
        · rw [Nat.mul_zero]
          push_cast
          omega
        · rw [Nat.zero_add, Nat.mul_one]
          exact hfails
      · have hover := a.overhead_le (isVerboseMode env data)
        have hleft : leftSize σ₁.logLength a.header data₁.size =
            leftSize σ.logLength a.header data.size - a.overhead (isVerboseMode env data) := by
          rw [hmemory.logLength, hgrown.size]
          exact leftSize_add (by omega)
        have hrefused : a.RefusedEmpty env σ₁.logLength (isVerboseMode env data₁) data₁.size ↔
            a.RefusedEmpty env σ.logLength (isVerboseMode env data) data.size := by
          rw [hmemory.logLength, hgrown.isVerboseMode, hgrown.size]
          exact refusedEmpty_add_iff hroom hfails
        rw [← hrefused, ends_iff_of_again hturn]
        rcases ih (leftSize σ₁.logLength a.header data₁.size).toNat (by omega) hs₁
          ((hmemory.writable hgrown.buffer).mpr hwritable) (hfits.mono (by omega) (Nat.le_refl _)) rfl with
          h | ⟨hnot, σ₂, s₂, data₂, n, hmemory₂, hs₂, hgrown₂, hleft₂, hiff⟩
        · exact .inl h
        · refine .inr ⟨hnot, σ₂, s₂, data₂, a.overhead (isVerboseMode env data) + n,
            ⟨hmemory.toSameLog.trans hmemory₂.toSameLog, hmemory₂.starts.trans hmemory.starts,
              fun b => (hmemory₂.live b).trans (hmemory.live b)⟩, hs₂,
            ⟨hgrown₂.handle.trans hgrown.handle, hgrown₂.buffer.trans hgrown.buffer, ?_,
              hgrown₂.logLevel.trans hgrown.logLevel, hgrown₂.verboseMode.trans hgrown.verboseMode⟩,
            hleft₂, hiff⟩
          rw [hgrown₂.size, hgrown.size, Nat.add_assoc]

/-- **Empty strings that are never refused.** -/
theorem not_ends_behind_zero (h : FreshStream id data σ s) (hnever : ¬ a.RefusedEmpty env σ.logLength true 0) :
    ¬ Ends (piecesTurn env a) (σ, s, a.available) := by
  refine not_ends_of_keeps (fun x => x.2.2 = a.available ∧ (Stuck env a x.1 x.2.1 ∨
    x.1.logLength = σ.logLength ∧ x.1.Settled ∧ ∃ id data, x.2.1.logLocalData = some (id, data) ∧
      x.1.Writable data ∧ isVerboseMode env data = true ∧
      ¬ a.RefusedEmpty env σ.logLength true data.size)) ?_ ?_
  swap
  · obtain ⟨b, hs, hlive⟩ := h.logLocalData
    exact ⟨rfl, .inr ⟨rfl, h.settled, id, _, hs, ⟨b, rfl, hlive⟩, by simp [isVerboseMode, fresh],
      hnever⟩⟩
  rintro ⟨σ₁, s₁, sent⟩ ⟨hsent, hkind⟩
  obtain rfl : sent = a.available := hsent
  dsimp only at hkind
  rcases hkind with hstuck | ⟨hlength, hsettled, id₁, data₁, hs₁, hwritable, hverbose, hnot⟩
  · have hcases := hstuck.flush
    obtain ⟨id₁, data₁, hs₁, hleft, -⟩ := hstuck
    rw [piecesTurn_of_noRoom env hn hs₁ hleft]
    rcases hcases with hres | ⟨σ', s', hres, hstuck'⟩
    · rw [hres]
      exact .inl rfl
    · rw [hres]
      exact .inr ⟨_, rfl, rfl, .inl hstuck'⟩
  rw [← hlength] at hnot hnever ⊢
  by_cases hroom : leftSize σ₁.logLength a.header data₁.size ≤ 0
  · obtain ⟨σ', s', hres, ⟨-, hrestarted⟩ | ⟨-, hrefused⟩⟩ :=
      flush_of_settled env hsettled hs₁ (hwritable.flushable hsettled)
    · obtain ⟨b, hs', hlive⟩ := hrestarted.logLocalData
      have hverbose' : isVerboseMode env (data₁.fresh b) = true := by simp [isVerboseMode, fresh]
      rw [piecesTurn_of_noRoom env hn hs₁ hroom, hres]
      exact .inr ⟨(σ', s', a.available), rfl, rfl, .inr ⟨hrestarted.logLength,
        hrestarted.toSameLog.settled hsettled, id₁, data₁.fresh b, hs', ⟨b, rfl, hlive⟩, hverbose', hnever⟩⟩
    · obtain ⟨handle, hs', hrefuses⟩ := hrefused.logLocalData
      rw [piecesTurn_of_noRoom env hn hs₁ hroom, hres]
      refine .inr ⟨(σ', s', a.available), rfl, rfl, .inl ⟨id₁, _, hs', ?_, .inr (.inl hrefuses)⟩⟩
      rw [hrefused.logLength]
      exact hroom
  · by_cases hfits : a.Fits (leftSize σ₁.logLength a.header data₁.size).toNat 0
    · rcases ends_empty hn hinit hs₁ hwritable hroom hfits with ⟨hfails, -⟩ |
        ⟨hfails, σ₂, s₂, data₂, hmemory, hs₂, hgrown, hturn⟩
      · refine absurd ⟨0, ?_, ?_⟩ hnot
        · rw [Nat.mul_zero]
          push_cast
          omega
        · rw [Nat.zero_add, Nat.mul_one, ← hverbose]
          exact hfails
      · refine .inr ⟨_, hturn, rfl, .inr ⟨hmemory.logLength, hmemory.settled_iff.mpr hsettled, id₁, data₂, hs₂,
          (hmemory.writable hgrown.buffer).mpr hwritable, hgrown.isVerboseMode.trans hverbose, ?_⟩⟩
        rw [hverbose] at hfails
        rw [hgrown.size, hverbose, refusedEmpty_add_iff hroom hfails]
        exact hnot
    · refine .inl ?_
      rw [piecesTurn_of_room env hn hs₁ hroom, piece_of_not_fits (Nat.le_refl _) hn (by
        rw [pieceLength_available]
        exact hfits)]
      rfl

/-- A string that goes on behind its zero, with a message that was started last. -/
theorem ends_fresh_behind_zero_iff (h : FreshStream id data σ s) :
    Ends (piecesTurn env a) (σ, s, a.available) ↔
      a.Fits (leftSize σ.logLength a.header 0).toNat 0 ∧ a.RefusedEmpty env σ.logLength true 0 := by
  obtain ⟨b, hs, hlive⟩ := h.logLocalData
  have hverbose : isVerboseMode env (data.fresh b) = true := by simp [isVerboseMode, fresh]
  by_cases hrefused : a.RefusedEmpty env σ.logLength true 0
  swap
  · exact ⟨fun hends => absurd hends (not_ends_behind_zero hn hinit h hrefused), fun h => absurd h.2 hrefused⟩
  by_cases hfits : a.Fits (leftSize σ.logLength a.header 0).toNat 0
  · rcases ends_behind_zero hn hinit hs ⟨b, rfl, hlive⟩ hfits with ⟨-, hends⟩ | ⟨hnot, -⟩
    · exact ⟨fun _ => ⟨hfits, hrefused⟩, fun _ => hends⟩
    · rw [hverbose] at hnot
      exact absurd hrefused hnot
  · refine ⟨fun hends => absurd hends (not_ends_of_not_fits hn hs ?_ (Nat.le_refl _)
      (pieceLength_available _) hfits), fun h => absurd h.1 hfits⟩
    obtain ⟨i, hi, -⟩ := hrefused
    change ¬ leftSize σ.logLength a.header 0 ≤ 0
    omega

theorem ends_behind_zero_iff (hs : s.logLocalData = some (id, data)) (hwritable : σ.Writable data)
    (hfits : a.Fits (leftSize σ.logLength a.header data.size).toNat 0)
    (hfresh : EndsFresh env a σ id data a.available P) :
    Ends (piecesTurn env a) (σ, s, a.available) ↔
      a.RefusedEmpty env σ.logLength (isVerboseMode env data) data.size ∨
        σ.Settled ∧ Starts env data.handle data.logLevel σ.starts ∧ P := by
  rcases ends_behind_zero hn hinit hs hwritable hfits with ⟨hrefused, hends⟩ |
    ⟨hnot, σ₁, s₁, data₁, n, hmemory, hs₁, hgrown, hleft, hiff⟩
  · exact ⟨fun _ => .inl hrefused, fun _ => hends⟩
  · rw [hiff, ends_flush_iff (piecesTurn_of_noRoom env hn hs₁ hleft) hn hs₁ hleft (fun σ' s' h hstarts hlog =>
      hfresh σ' s' (h.congr hgrown.handle hgrown.logLevel) (by rw [hstarts, hmemory.starts])
        (by rw [hlog, hmemory.logLength])), hmemory.settled_iff, hgrown.handle, hgrown.logLevel, hmemory.starts]
    constructor
    · rintro ⟨hsettled, -, hstarts, hP⟩
      exact .inr ⟨hsettled, hstarts, hP⟩
    · rintro (hrefused | ⟨hsettled, hstarts, hP⟩)
      · exact absurd hrefused hnot
      · exact ⟨hsettled, ((hmemory.writable hgrown.buffer).mpr hwritable).flushable
          (hmemory.settled_iff.mpr hsettled), hstarts, hP⟩

end

end

/-! ## A message that was started last -/

/-- Where the library cuts a piece in an empty message, the bytes that are looked at are bytes of the piece. -/
def Pieces.CutsInside (env : LogEnv) (a : Pieces) (data : ContextData) (sent left : ℕ) : Prop :=
  ∀ piece ∈ a.piece sent left, ∀ b, a.Cuts env (data.fresh b) → CutInside env (data.fresh b) piece

/-- When the loop ends with a message that was started last: `start` is the number of the next start. -/
structure Pieces.ReturnsFresh (env : LogEnv) (a : Pieces) (logLength : ℕ) (data : ContextData)
    (start sent : ℕ) : Prop where
  room : 0 < leftSize logLength a.header 0
  fits : a.Fits (leftSize logLength a.header 0).toNat (a.pieceLength sent (leftSize logLength a.header 0).toNat)
  /-- The library refuses the piece or cuts it, or the stream is started as often as it takes. Behind a zero it
  takes an empty string that is refused. -/
  ends : if env.logBufLen.toNat < a.pieceLength sent (leftSize logLength a.header 0).toNat + a.overhead true then
      a.CutsInside env data sent (leftSize logLength a.header 0).toNat
    else if a.sizeToSend ≤ a.available then
      ∀ i : ℕ, (sent + (i + 1) * (leftSize logLength a.header 0).toNat : ℕ) < a.sizeToSend →
        Starts env data.handle data.logLevel (start + i)
    else
      a.available < sent + (leftSize logLength a.header 0).toNat ∧
        (a.RefusedEmpty env logLength true (a.available - sent + a.overhead true) ∨
          Starts env data.handle data.logLevel start ∧ a.RefusedEmpty env logLength true 0)

/-- If the library takes a piece that fills an empty message, it takes every empty string. -/
theorem not_refusedEmpty {size : ℕ}
    (h : env.logBufLen.toNat ≥ (leftSize logLength a.header 0).toNat + a.overhead true)
    (hleft : leftSize logLength a.header size = leftSize logLength a.header 0 - size) :
    ¬ a.RefusedEmpty env logLength true size := by
  rintro ⟨i, hi, hrefused⟩
  rw [hleft] at hi
  simp only [Nat.mul_add_one] at hrefused
  omega

section

variable (hleft : (leftSize logLength a.header 0).toNat = left)
include hleft

theorem returnsFresh_iff_of_full (hn : (sent + left : ℕ) < a.sizeToSend) (hle : a.sizeToSend ≤ a.available)
    (hfits : a.Fits left left) (hrefused : ¬ env.logBufLen.toNat < left + a.overhead true) :
    a.ReturnsFresh env logLength data start sent ↔
      Starts env data.handle data.logLevel start ∧
        a.ReturnsFresh env logLength data (start + 1) (sent + left) := by
  have hlen : a.pieceLength sent left = left := Nat.min_eq_left (by omega)
  have hlen' : a.pieceLength (sent + left) left ≤ left := Nat.min_le_left _ _
  constructor
  · rintro ⟨hroom, -, hends⟩
    rw [hleft, hlen, if_neg hrefused, if_pos hle] at hends
    refine ⟨by simpa using hends 0 (by simpa using hn), hroom, ?_, ?_⟩
    · rw [hleft]
      exact hfits.mono (Nat.le_refl _) hlen'
    · rw [hleft, if_neg (by omega), if_pos hle]
      intro i hi
      have := hends (i + 1) (by
        rw [Nat.add_mul, Nat.one_mul]
        push_cast at hi ⊢
        omega)
      rwa [Nat.add_comm i 1, ← Nat.add_assoc] at this
  · rintro ⟨hstart, hroom, -, hends⟩
    rw [hleft, if_neg (by omega), if_pos hle] at hends
    refine ⟨hroom, by rw [hleft, hlen]; exact hfits, ?_⟩
    rw [hleft, hlen, if_neg hrefused, if_pos hle]
    intro i hi
    cases i with
    | zero => exact hstart
    | succ i =>
      have := hends i (by
        rw [Nat.add_mul, Nat.one_mul] at hi
        push_cast at hi ⊢
        omega)
      rwa [Nat.add_assoc, Nat.add_comm 1 i] at this

/-- If the library takes every piece, the loop comes to the zero and stays there. -/
theorem not_returnsFresh_of_full (hle : ¬ a.sizeToSend ≤ a.available)
    (hrefused : ¬ env.logBufLen.toNat < left + a.overhead true) :
    ¬ a.ReturnsFresh env logLength data start sent := by
  rintro ⟨hroom, -, hends⟩
  have hshort : a.pieceLength sent left ≤ left := Nat.min_le_left _ _
  have hover := a.overhead_le true
  rw [hleft, if_neg (by omega), if_neg hle] at hends
  rcases hends with ⟨hnear, hends | ⟨-, hends⟩⟩
  · refine not_refusedEmpty (by rw [hleft]; omega) ?_ hends
    rw [← Nat.zero_add (_ + _), leftSize_add (by omega), Nat.zero_add]
  · exact not_refusedEmpty (by rw [hleft]; omega) (by simp) hends

theorem returnsFresh_of_last (hroom : 0 < leftSize logLength a.header 0)
    (hfits : a.Fits left (a.pieceLength sent left)) (hle : a.sizeToSend ≤ a.available)
    (hrefused : ¬ env.logBufLen.toNat < a.pieceLength sent left + a.overhead true)
    (hlast : ¬ (sent + a.pieceLength sent left : ℕ) < a.sizeToSend) :
    a.ReturnsFresh env logLength data start sent := by
  have hshort : a.pieceLength sent left ≤ left := Nat.min_le_left _ _
  refine ⟨hroom, by rw [hleft]; exact hfits, ?_⟩
  rw [hleft, if_neg hrefused, if_pos hle]
  intro i hi
  rw [Nat.add_mul, Nat.one_mul] at hi
  push_cast at hi hlast
  have hmul : (0 : ℤ) ≤ (i : ℤ) * left := Int.mul_nonneg (by omega) (by omega)
  omega

end

section

variable (hinit : env.initialised = true)
include hinit

/-- In an empty message the library refuses a piece that is longer than its buffer. -/
theorem Pieces.fails_fresh_iff {b length : ℕ} :
    a.Fails env (data.fresh b) length ↔ env.logBufLen.toNat < length + a.overhead true := by
  have hverbose : isVerboseMode env (data.fresh b) = true := by simp [isVerboseMode, fresh]
  unfold Pieces.Fails
  rw [hverbose]
  unfold fresh
  dsimp only
  rw [Nat.zero_add]
  exact ⟨fun h => h hinit, fun h _ => h⟩

theorem ends_fresh_zero_iff (h : FreshStream id data σ s) (hn : a.available < a.sizeToSend)
    (hsent : sent ≤ a.available) (hleft : (leftSize σ.logLength a.header 0).toNat = left)
    (hpos : 0 < leftSize σ.logLength a.header 0) (hpart : a.available - sent < left)
    (hfits : a.Fits left (a.available - sent))
    (hrefused : ¬ env.logBufLen.toNat < a.available - sent + a.overhead true) :
    Ends (piecesTurn env a) (σ, s, sent) ↔ a.ReturnsFresh env σ.logLength data σ.starts sent := by
  obtain ⟨b, hs, hlive⟩ := h.logLocalData
  have hverbose : isVerboseMode env (data.fresh b) = true := by simp [isVerboseMode, fresh]
  have hlen : a.pieceLength sent left = a.available - sent := Nat.min_eq_right (by omega)
  have hleft' : (leftSize σ.logLength a.header (data.fresh b).size).toNat = left := hleft
  obtain ⟨σ₁, s₁, data₁, hmemory, hs₁, hgrown, hiff⟩ :=
    ends_part_iff (by omega) hs (Int.not_le.mpr hpos) hsent (by rw [hleft', hlen]) (by rw [hleft']; exact hfits)
      (fun hf => hrefused ((fails_fresh_iff hinit).mp hf)) ⟨b, rfl, hlive⟩ (by rw [hleft']; omega)
  rw [hverbose] at hgrown
  have hsize : data₁.size = a.available - sent + a.overhead true := by
    rw [hgrown.size]
    exact Nat.zero_add _
  have hmono : a.Fits (leftSize σ₁.logLength a.header data₁.size).toNat 0 := by
    have hover := a.overhead_le true
    refine hfits.mono ?_ (Nat.zero_le _)
    rw [hmemory.logLength, hsize, ← Nat.zero_add (_ + _), leftSize_add] <;> omega
  have hfresh : EndsFresh env a σ₁ id data₁ a.available (a.Fits left 0 ∧
      a.RefusedEmpty env σ.logLength true 0) := by
    intro σ' s' h' _ hlog
    rw [ends_fresh_behind_zero_iff hn hinit h', hlog, hmemory.logLength, hleft]
  rw [hiff, Nat.add_sub_cancel' hsent, ends_behind_zero_iff hn hinit hs₁
    ((hmemory.writable hgrown.buffer).mpr ⟨b, rfl, hlive⟩) hmono hfresh, hmemory.settled_iff, hgrown.handle,
    hgrown.logLevel, hmemory.starts, hmemory.logLength, hgrown.isVerboseMode, hverbose, hsize]
  constructor
  · intro hends
    refine ⟨hpos, by rw [hleft, hlen]; exact hfits, ?_⟩
    rw [hleft, hlen, if_neg hrefused, if_neg (by omega)]
    exact ⟨by omega, hends.imp_right fun h => ⟨h.2.1, h.2.2.2⟩⟩
  · rintro ⟨-, -, hends⟩
    rw [hleft, hlen, if_neg hrefused, if_neg (by omega)] at hends
    exact hends.2.imp_right fun h' =>
      ⟨h.settled, h'.1, hfits.mono (Nat.le_refl _) (Nat.zero_le _), h'.2⟩

/-- **When the loop ends with a message that was started last.** -/
theorem pieces_ends_fresh_iff (h : FreshStream id data σ s) (hn : sent < a.sizeToSend)
    (hsent : sent ≤ a.available) :
    Ends (piecesTurn env a) (σ, s, sent) ↔
      a.ReturnsFresh env σ.logLength data σ.starts sent := by
  generalize hk : (a.sizeToSend - sent).toNat = k
  induction k using Nat.strongRecOn generalizing σ s sent with
  | ind k ih =>
    obtain ⟨b, hs, hlive⟩ := h.logLocalData
    have hwritable : σ.Writable (data.fresh b) := ⟨b, rfl, hlive⟩
    by_cases hroom : leftSize σ.logLength a.header (data.fresh b).size ≤ 0
    · exact ⟨fun hends => absurd hends (not_ends_of_stuck hn ⟨id, _, hs, hroom, .inr (.inr hroom)⟩),
        fun h => absurd hroom (Int.not_le.mpr h.room)⟩
    have hpos : 0 < leftSize σ.logLength a.header 0 := Int.not_le.mp hroom
    generalize hleft : (leftSize σ.logLength a.header 0).toNat = left
    have hleft' : (leftSize σ.logLength a.header (data.fresh b).size).toNat = left := hleft
    by_cases hfits : a.Fits left (a.pieceLength sent left)
    swap
    · exact ⟨fun hends => absurd hends (not_ends_of_not_fits hn hs hroom hsent (by rw [hleft']) (by
        rw [hleft']
        exact hfits)), fun h => absurd (by rw [← hleft]; exact h.fits) hfits⟩
    by_cases hrefused : env.logBufLen.toNat < a.pieceLength sent left + a.overhead true
    · rw [ends_refused_iff hn hs hroom hsent (by rw [hleft']) (by rw [hleft']; exact hfits)
        ((fails_fresh_iff hinit).mpr hrefused), hleft']
      constructor
      · intro hsafe
        refine ⟨hpos, by rw [hleft]; exact hfits, ?_⟩
        rw [hleft, if_pos hrefused]
        exact fun piece hpiece _ hcuts => ((hsafe piece hpiece).1 hcuts).1
      · rintro ⟨-, -, hends⟩ piece hpiece
        rw [hleft, if_pos hrefused] at hends
        exact ⟨fun hcuts => ⟨hends piece hpiece b hcuts, hwritable⟩, fun _ => hwritable.flushable h.settled⟩
    have hfails : ¬ a.Fails env (data.fresh b) (a.pieceLength sent left) :=
      fun hf => hrefused ((fails_fresh_iff hinit).mp hf)
    by_cases hlast : (sent + a.pieceLength sent left : ℕ) < a.sizeToSend
    swap
    · have hle : a.sizeToSend ≤ a.available := by
        have : a.pieceLength sent left ≤ a.available - sent := Nat.min_le_right _ _
        omega
      rw [ends_last_iff hn hs hroom hsent (by rw [hleft']) (by rw [hleft']; exact hfits) hfails hwritable hlast]
      exact ⟨fun _ => returnsFresh_of_last hleft hpos hfits hle hrefused hlast,
        fun _ _ => hwritable.flushable h.settled⟩
    by_cases hfull : left ≤ a.available - sent
    · -- The piece fills the message, and the stream has to be started again.
      have hlen : a.pieceLength sent left = left := Nat.min_eq_left hfull
      rw [hlen] at hfits hrefused hfails hlast
      have hfresh : EndsFresh env a σ id (data.fresh b) (sent + left)
          (a.ReturnsFresh env σ.logLength data (σ.starts + 1) (sent + left)) := by
        intro σ' s' h' hstarts hlog
        rw [← hstarts, ← hlog]
        exact ih (a.sizeToSend - (sent + left : ℕ)).toNat (by omega) (h'.congr rfl rfl) hlast (by omega) rfl
      rw [ends_full_iff sent (by rw [hleft']; exact hlast) hs hroom (by rw [hleft']; exact hfull) hsent
        (by rw [hleft']; exact hfits) (by rw [hleft']; exact hfails) hwritable (by rw [hleft']; exact hfresh)]
      by_cases hle : a.sizeToSend ≤ a.available
      · rw [returnsFresh_iff_of_full hleft hlast hle hfits hrefused]
        exact ⟨fun h => h.2, fun h' => ⟨h.settled, h'⟩⟩
      · exact ⟨fun h => absurd h.2.2 (not_returnsFresh_of_full hleft hle hrefused),
          fun h => absurd h (not_returnsFresh_of_full hleft hle hrefused)⟩
    · have hlen : a.pieceLength sent left = a.available - sent := Nat.min_eq_right (by omega)
      rw [hlen] at hfits hrefused hlast
      exact ends_fresh_zero_iff hinit h (by omega) hsent hleft hpos (by omega) hfits hrefused

end

/-! ## When the operator returns -/

/-- The stream is settled, it is started again, and the loop ends with the message that is started. -/
def Pieces.ReturnsRestarted (env : LogEnv) (a : Pieces) (σ : LogState) (data : ContextData) (sent : ℕ) : Prop :=
  σ.Settled ∧ Starts env data.handle data.logLevel σ.starts ∧
    a.ReturnsFresh env σ.logLength data (σ.starts + 1) sent

/-- When the loop ends that starts with room for `left` bytes in the message. -/
structure Pieces.ReturnsRoom (env : LogEnv) (a : Pieces) (σ : LogState) (data : ContextData) (left : ℕ) :
    Prop where
  fits : a.Fits left (a.pieceLength 0 left)
  /-- The library refuses the first piece. -/
  refused : a.Fails env data (a.pieceLength 0 left) → ∀ piece ∈ a.piece 0 left, a.RefusedSafely env σ data piece
  writable : ¬ a.Fails env data (a.pieceLength 0 left) → σ.Writable data
  last : ¬ a.Fails env data (a.pieceLength 0 left) → ¬ a.pieceLength 0 left < a.sizeToSend →
    a.FillsUp σ data (a.pieceLength 0 left) → Flushable σ data
  /-- The first piece fills the message. -/
  full : ¬ a.Fails env data (a.pieceLength 0 left) → a.pieceLength 0 left < a.sizeToSend →
    left ≤ a.available → a.ReturnsRestarted env σ data left
  /-- The first piece ends at a zero. -/
  zero : ¬ a.Fails env data (a.pieceLength 0 left) → a.pieceLength 0 left < a.sizeToSend →
    a.available < left →
    a.RefusedEmpty env σ.logLength (isVerboseMode env data)
        (data.size + (a.available + a.overhead (isVerboseMode env data))) ∨
      a.ReturnsRestarted env σ data a.available

/-- When an operator for a string or for bytes returns. -/
def PiecesReturns (env : LogEnv) (a : Pieces) (σ : LogState) (s : LogStream) : Prop :=
  0 < a.sizeToSend → ∃ id data, s.logLocalData = some (id, data) ∧
    if leftSize σ.logLength a.header data.size ≤ 0 then
      Flushable σ data ∧ a.ReturnsRestarted env σ data 0
    else a.ReturnsRoom env σ data (leftSize σ.logLength a.header data.size).toNat

theorem Starts.initialised {handle : Option ℕ} {loglevel : ℤ} (h : Starts env handle loglevel start) :
    env.initialised = true := h.2.1

/-- The stream is started again or it is not: behind a flush the loop ends if `ReturnsRestarted` holds. -/
theorem endsFresh_returnsFresh (hn : sent < a.sizeToSend) (hsent : sent ≤ a.available)
    (hinit : env.initialised = true) :
    EndsFresh env a σ id data sent (a.ReturnsFresh env σ.logLength data (σ.starts + 1) sent) := by
  intro σ' s' h hstarts hlog
  rw [← hstarts, ← hlog]
  exact pieces_ends_fresh_iff hinit h hn hsent

theorem ends_noRoom_iff (hn : 0 < a.sizeToSend) (hs : s.logLocalData = some (id, data))
    (hleft : leftSize σ.logLength a.header data.size ≤ 0) :
    Ends (piecesTurn env a) (σ, s, 0) ↔ Flushable σ data ∧ a.ReturnsRestarted env σ data 0 := by
  have hturn := piecesTurn_of_noRoom env hn hs hleft
  by_cases hinit : env.initialised = true
  · rw [ends_flush_iff hturn hn hs hleft (endsFresh_returnsFresh hn (Nat.zero_le _) hinit)]
    exact ⟨fun h => ⟨h.2.1, h.1, h.2.2⟩, fun h => ⟨h.2.1, h.1, h.2.2⟩⟩
  · refine ⟨fun hends => absurd hends (not_ends_of_stuck hn ⟨id, data, hs, hleft, .inr (.inl ?_)⟩),
      fun h => absurd h.2.2.1.initialised hinit⟩
    exact fun _ h => hinit h.initialised

theorem ends_room_iff (hn : 0 < a.sizeToSend) (hs : s.logLocalData = some (id, data))
    (hroom : ¬ leftSize σ.logLength a.header data.size ≤ 0) :
    Ends (piecesTurn env a) (σ, s, 0) ↔
      a.ReturnsRoom env σ data (leftSize σ.logLength a.header data.size).toNat := by
  have hsent : 0 ≤ a.available := Nat.zero_le _
  generalize hleft : (leftSize σ.logLength a.header data.size).toNat = left
  by_cases hfits : a.Fits left (a.pieceLength 0 left)
  swap
  · exact ⟨fun hends => absurd hends (not_ends_of_not_fits hn hs hroom hsent rfl (by rw [hleft]; exact hfits)),
      fun h => absurd h.fits hfits⟩
  by_cases hfails : a.Fails env data (a.pieceLength 0 left)
  · rw [ends_refused_iff hn hs hroom hsent rfl (by rw [hleft]; exact hfits) (by rw [hleft]; exact hfails), hleft]
    exact ⟨fun h => ⟨hfits, fun _ => h, fun hnot => absurd hfails hnot, fun hnot => absurd hfails hnot,
      fun hnot => absurd hfails hnot, fun hnot => absurd hfails hnot⟩, fun h => h.refused hfails⟩
  have hinit : env.initialised = true := by
    by_contra hinit
    exact hfails fun h => absurd h hinit
  by_cases hwritable : σ.Writable data
  swap
  · exact ⟨fun hends => absurd hends (not_ends_of_not_writable hn hs hroom hsent (by rw [hleft])
      (by rw [hleft]; exact hfits) hfails hwritable), fun h => absurd (h.writable hfails) hwritable⟩
  have hlen : a.pieceLength 0 left = min left a.available := rfl
  by_cases hlast : a.pieceLength 0 left < a.sizeToSend
  swap
  · rw [ends_last_iff hn hs hroom hsent (by rw [hleft]) (by rw [hleft]; exact hfits) hfails hwritable
      (by rw [Nat.zero_add]; exact hlast)]
    exact ⟨fun h => ⟨hfits, fun hf => absurd hf hfails, fun _ => hwritable, fun _ _ => h,
      fun _ h => absurd h hlast, fun _ h => absurd h hlast⟩, fun h => h.last hfails hlast⟩
  by_cases hfull : left ≤ a.available
  · rw [hlen, Nat.min_eq_left hfull] at hfits hfails hlast
    have hiff := ends_full_iff 0 (by rw [hleft, Nat.zero_add]; exact hlast) hs hroom
      (by rw [hleft]; exact hfull) hsent (by rw [hleft]; exact hfits) (by rw [hleft]; exact hfails) hwritable
      (endsFresh_returnsFresh (by rw [hleft, Nat.zero_add]; exact hlast) (by rw [hleft]; omega) hinit)
    rw [hiff, hleft, Nat.zero_add]
    constructor
    · intro h
      refine ⟨?_, ?_, fun _ => hwritable, ?_, fun _ _ _ => h, fun _ _ h => absurd hfull (Nat.not_le.mpr h)⟩
      all_goals rw [hlen, Nat.min_eq_left hfull]
      · exact hfits
      · exact fun hf => absurd hf hfails
      · exact fun _ h => absurd hlast h
    · intro h
      refine h.full ?_ ?_ hfull
      all_goals rw [hlen, Nat.min_eq_left hfull]
      · exact hfails
      · exact hlast
  · have hshort : a.pieceLength 0 left = a.available := by
      rw [hlen]
      exact Nat.min_eq_right (by omega)
    rw [hshort] at hfits hfails hlast
    obtain ⟨σ₁, s₁, data₁, hmemory, hs₁, hgrown, hiff⟩ :=
      ends_part_iff hn hs hroom hsent (by rw [hleft, hshort]) (by rw [hleft]; exact hfits) hfails hwritable
        (by rw [hleft]; omega)
    have hmono : a.Fits (leftSize σ₁.logLength a.header data₁.size).toNat 0 := by
      have hover := a.overhead_le (isVerboseMode env data)
      refine hfits.mono ?_ (Nat.zero_le _)
      rw [hmemory.logLength, hgrown.size, leftSize_add] <;> omega
    have hfresh : EndsFresh env a σ₁ id data₁ a.available
        (a.ReturnsFresh env σ.logLength data (σ.starts + 1) a.available) := by
      intro σ' s' h' hstarts hlog
      rw [← hmemory.starts, ← hstarts, ← hmemory.logLength, ← hlog]
      exact pieces_ends_fresh_iff hinit (h'.congr hgrown.handle hgrown.logLevel) hlast (Nat.le_refl _)
    rw [hiff, Nat.zero_add, ends_behind_zero_iff hlast hinit hs₁
      ((hmemory.writable hgrown.buffer).mpr hwritable) hmono hfresh, hmemory.settled_iff, hgrown.handle,
      hgrown.logLevel, hmemory.starts, hmemory.logLength, hgrown.isVerboseMode, hgrown.size]
    constructor
    · intro h
      refine ⟨?_, ?_, fun _ => hwritable, ?_, fun _ _ h => absurd h hfull, fun _ _ _ => h⟩
      all_goals rw [hshort]
      · exact hfits
      · exact fun hf => absurd hf hfails
      · exact fun _ h => absurd hlast h
    · intro h
      refine h.zero ?_ ?_ (by omega)
      all_goals rw [hshort]
      · exact hfails
      · exact hlast

/-- **When a string or bytes are inserted.** -/
theorem pieces_ends_iff (env : LogEnv) (a : Pieces) (σ : LogState) (s : LogStream) :
    Ends (piecesTurn env a) (σ, s, 0) ↔ PiecesReturns env a σ s := by
  by_cases hn : 0 < a.sizeToSend
  swap
  · exact ⟨fun _ h => absurd h hn, fun _ => ends_of_done (piecesTurn_of_sent hn)⟩
  cases hs : s.logLocalData with
  | none =>
    refine ⟨fun hends => absurd hends (not_ends_of_undefined (piecesTurn_of_none hn hs)), fun h => ?_⟩
    obtain ⟨id, data, hdata, -⟩ := h hn
    rw [hs] at hdata
    exact absurd hdata nofun
  | some message =>
    obtain ⟨id, data⟩ := message
    have hiff : Ends (piecesTurn env a) (σ, s, 0) ↔
        if leftSize σ.logLength a.header data.size ≤ 0 then
          Flushable σ data ∧ a.ReturnsRestarted env σ data 0
        else a.ReturnsRoom env σ data (leftSize σ.logLength a.header data.size).toNat := by
      by_cases hleft : leftSize σ.logLength a.header data.size ≤ 0
      · rw [if_pos hleft]
        exact ends_noRoom_iff hn hs hleft
      · rw [if_neg hleft]
        exact ends_room_iff hn hs hleft
    rw [hiff]
    refine ⟨fun h _ => ⟨id, data, hs, h⟩, fun h => ?_⟩
    obtain ⟨id', data', hdata, h⟩ := h hn
    obtain ⟨rfl, rfl⟩ := Prod.mk.inj (Option.some.inj (hs.symm.trans hdata))
    exact h

def InsertionReturns (env : LogEnv) (value : Value) (σ : LogState) (s : LogStream) : Prop :=
  match value.operator with
  | .inl a => ScalarReturns env a σ s
  | .inr a => s.logRet > dltReturnOk → PiecesReturns env a σ s

/-- **An insertion returns if and only if** `InsertionReturns` holds: the stream refuses, the argument fits, or
`Flush` makes room for it. -/
theorem insertion_returns_iff (env : LogEnv) (value : Value) (σ : LogState) (s : LogStream) :
    (∃ r, Inserts env value σ s r) ↔ InsertionReturns env value σ s := by
  unfold Inserts InsertionReturns
  cases value.operator with
  | inl a => exact scalar_ends_iff env a σ s
  | inr a =>
    dsimp only
    by_cases hret : s.logRet > dltReturnOk
    · simp only [if_pos hret]
      exact (pieces_ends_iff env a σ s).trans ⟨fun h _ => h, fun h => h hret⟩
    · simp only [if_neg hret]
      exact ⟨fun _ h => absurd h hret, fun _ => ⟨_, rfl⟩⟩

/-- Before the initialisation a number is inserted into a message that is full: every turn puts a copy of the
message into the queue, and the message stays full. -/
theorem insertion_into_full_early_message :
    ¬ ∀ (env : LogEnv) (value : Value) (σ : LogState) (s : LogStream), ∃ r, Inserts env value σ s r := by
  intro h
  let env : LogEnv :=
    { isChild := false, initialised := true, verboseMode := true, logBufLen := 1390, registered := fun _ => true,
      logLevel := fun _ _ => 6 }
  let data : ContextData :=
    { handle := some 0, buffer := some 0, size := 1390, logLevel := 4, argsNum := 278, verboseMode := true }
  let σ : LogState :=
    { loggingInit := false, bufferSize := -1, logLength := 1390, logBuffer := [],
      buffers := fun _ => some (List.replicate 1390 0), nextBuffer := 1, nextData := 1, starts := 1, calls := [] }
  let s : LogStream := { logLocalData := some (0, data), logRet := dltReturnTrue }
  have hfull : (plainScalar 1 [7] (dltTypeInfoUint ||| dltTyle8Bit)).Full env data := ⟨rfl, by decide⟩
  exact not_ends_of_not_settled (fun hsettled => Bool.false_ne_true hsettled.1) (by decide) rfl hfull
    (h env (.uint8 7) σ s)

end Dlt.Log
