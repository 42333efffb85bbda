import Dlt.Shared.BufferFifo

/-!
# The room for a push

* `dltBufferPush3_ok_iff` — **a push succeeds exactly when there is room.**
* `dltBufferPush3_stores`, `dltBufferPush3_loses` — **it then stores the message, unless it grew an empty buffer.**
-/

namespace Dlt.Shared

open Dlt.Lib List

/-! ## Growing a number of times -/

/-- The buffer can grow `j` times in a row. -/
def GrowsBy (malloc : Malloc) (buf : DltBuffer) (j : ℕ) : Prop :=
  ∀ i < j, CanGrow malloc { buf with size := buf.size + i * buf.stepSize }

theorem growsBy_zero (malloc : Malloc) (buf : DltBuffer) : GrowsBy malloc buf 0 :=
  fun i hi => absurd hi (Nat.not_lt_zero i)

theorem growsBy_succ_iff {malloc : Malloc} {buf grown : DltBuffer} (hsize : grown.size = buf.size + buf.stepSize)
    (hmax : grown.maxSize = buf.maxSize) (hstep : grown.stepSize = buf.stepSize) (j : ℕ) :
    GrowsBy malloc buf (j + 1) ↔ CanGrow malloc buf ∧ GrowsBy malloc grown j := by
  have hshift : ∀ i, CanGrow malloc { buf with size := buf.size + (i + 1) * buf.stepSize } ↔
      CanGrow malloc { grown with size := grown.size + i * grown.stepSize } := by
    intro i
    have hsame : buf.size + (i + 1) * buf.stepSize = grown.size + i * grown.stepSize := by
      rw [hsize, hstep, Nat.succ_mul]
      omega
    unfold CanGrow
    simp only [hsame, hmax, hstep]
  have hfirst : CanGrow malloc { buf with size := buf.size + 0 * buf.stepSize } ↔ CanGrow malloc buf := by
    rw [Nat.zero_mul, Nat.add_zero]
  constructor
  · intro h
    exact ⟨hfirst.mp (h 0 (Nat.succ_pos j)), fun i hi => (hshift i).mp (h (i + 1) (Nat.succ_lt_succ hi))⟩
  · rintro ⟨hnow, hlater⟩ i hi
    cases i with
    | zero => exact hfirst.mpr hnow
    | succ i => exact (hshift i).mpr (hlater i (Nat.lt_of_succ_lt_succ hi))

theorem GrowsBy.eq_zero {malloc : Malloc} {buf : DltBuffer} {j : ℕ} (h : GrowsBy malloc buf j)
    (hnot : ¬ CanGrow malloc buf) : j = 0 := by
  by_contra hj
  apply hnot
  have hfirst := h 0 (Nat.pos_of_ne_zero hj)
  rwa [Nat.zero_mul, Nat.add_zero] at hfirst

section grow

variable {malloc : Malloc} {buf : DltBuffer} {c : List UInt8} {count : ℤ}

/-- The free size of a buffer that holds bytes, when a full one is known to be full. -/
theorem Holding.freeSize_eq (h : Holding buf c) (hc : c ≠ []) (hused : count ≠ 0 ∨ c.length < buf.size) :
    dltBufferFreeSize buf count = (buf.size : ℤ) - c.length := by
  obtain ⟨r, hread, hst, hwrite⟩ := h.stores
  have hsize := h.size_lt
  have hr := hst.le_size
  have hlen := hst.length_le
  have hpos := length_pos_iff.mpr hc
  unfold dltBufferFreeSize
  simp only [hread, hwrite, i32_natCast hsize]
  unfold Ring.advance
  split_ifs <;> first
    | (rw [i32_of_range (by omega) (by omega)]; omega)
    | omega

/-- A buffer that grew: its step larger, with the same limits. -/
structure Grown (buf grown : DltBuffer) : Prop where
  size_eq : grown.size = buf.size + buf.stepSize
  max_eq : grown.maxSize = buf.maxSize
  step_eq : grown.stepSize = buf.stepSize

theorem Holding.grown (h : Holding buf c) (hc : c ≠ []) (hgrow : CanGrow malloc buf) :
    Grown buf (dltBufferIncreaseSize malloc buf).1 ∧ Holding (dltBufferIncreaseSize malloc buf).1 c := by
  obtain ⟨mem, heq, hheld⟩ := h.increaseSize hc hgrow
  rw [heq]
  exact ⟨⟨rfl, rfl, rfl⟩, hheld⟩

theorem canGrow_of_ok (h : Holding buf c) (hok : (dltBufferIncreaseSize malloc buf).2 = dltReturnOk) :
    CanGrow malloc buf := by
  by_contra hnot
  rw [increaseSize_of_not_canGrow h.step_pos hnot] at hok
  cases hok

theorem not_canGrow_of_not_ok (h : Holding buf c) (hfail : ¬ (dltBufferIncreaseSize malloc buf).2 = dltReturnOk) :
    ¬ CanGrow malloc buf := by
  intro hgrow
  apply hfail
  by_cases hc : c = []
  · subst hc
    obtain ⟨mem, old, -, heq, -⟩ := h.increaseSize_nil hgrow
    rw [heq]
  · obtain ⟨mem, heq, -⟩ := h.increaseSize hc hgrow
    rw [heq]

/-- **The growing loop finds room exactly when a number of growths gives it**, and the bytes stay. -/
theorem dltBufferPushGrow_holding (malloc : Malloc) (needed : ℤ) (h : Holding buf c) (hc : c ≠ [])
    (hused : count ≠ 0 ∨ c.length < buf.size) :
    ((dltBufferPushGrow malloc needed count buf).2 = true ↔
        ∃ j : ℕ, GrowsBy malloc buf j ∧ needed + c.length ≤ (buf.size + j * buf.stepSize : ℕ)) ∧
      Holding (dltBufferPushGrow malloc needed count buf).1 c ∧
      buf.size ≤ (dltBufferPushGrow malloc needed count buf).1.size ∧
      ((dltBufferPushGrow malloc needed count buf).2 = true →
        needed + c.length ≤ (dltBufferPushGrow malloc needed count buf).1.size) := by
  fun_induction dltBufferPushGrow malloc needed count buf with
  | case1 buf hlt hok ih =>
    have hgrow := canGrow_of_ok h hok
    rw [h.freeSize_eq hc hused] at hlt
    obtain ⟨hgrown, hheld⟩ := h.grown hc hgrow
    generalize (dltBufferIncreaseSize malloc buf).1 = grown at ih hgrown hheld ⊢
    have hsize := hgrown.size_eq
    obtain ⟨hroom, hstays, hle, hends⟩ := ih hheld (hused.imp_right fun hlt => by omega)
    refine ⟨hroom.trans ?_, hstays, by omega, hends⟩
    have hsucc := @growsBy_succ_iff malloc buf grown hgrown.size_eq hgrown.max_eq hgrown.step_eq
    have hsum : ∀ j, buf.size + (j + 1) * buf.stepSize = grown.size + j * grown.stepSize := by
      intro j
      rw [hsize, hgrown.step_eq, Nat.succ_mul]
      omega
    constructor
    · rintro ⟨j, hgrows, hle⟩
      exact ⟨j + 1, (hsucc j).mpr ⟨hgrow, hgrows⟩, by rwa [hsum]⟩
    · rintro ⟨j, hgrows, hle⟩
      cases j with
      | zero =>
        rw [Nat.zero_mul, Nat.add_zero] at hle
        omega
      | succ j =>
        rw [hsum] at hle
        exact ⟨j, ((hsucc j).mp hgrows).2, hle⟩
  | case2 buf hlt hfail =>
    have hnot := not_canGrow_of_not_ok h hfail
    rw [h.freeSize_eq hc hused] at hlt
    rw [increaseSize_of_not_canGrow h.step_pos hnot]
    refine ⟨iff_of_false Bool.false_ne_true ?_, h, le_rfl, fun htrue => absurd htrue Bool.false_ne_true⟩
    rintro ⟨j, hgrows, hle⟩
    rw [hgrows.eq_zero hnot, Nat.zero_mul, Nat.add_zero] at hle
    omega
  | case3 buf hfits =>
    rw [h.freeSize_eq hc hused] at hfits
    refine ⟨iff_of_true rfl ⟨0, growsBy_zero malloc buf, ?_⟩, h, le_rfl, fun _ => by simp only; omega⟩
    rw [Nat.zero_mul, Nat.add_zero]
    omega

end grow

/-! ## The room -/

/-- The message fits behind the queue as it is. -/
def Fits (buf : DltBuffer) (q : List (List UInt8)) (needed : ℕ) : Prop := (queueBytes q).length + needed ≤ buf.size

instance (buf : DltBuffer) (q : List (List UInt8)) (needed : ℕ) : Decidable (Fits buf q needed) :=
  inferInstanceAs (Decidable (_ ≤ _))

/-- **There is room**: the message fits, or it does after a number of growths. -/
def HasRoom (malloc : Malloc) (buf : DltBuffer) (q : List (List UInt8)) (needed : ℕ) : Prop :=
  Fits buf q needed ∨
    ∃ j, GrowsBy malloc buf (j + 1) ∧
      if q = [] then needed ≤ (j + 1) * buf.stepSize
      else (queueBytes q).length + needed ≤ buf.size + (j + 1) * buf.stepSize

/-- Two buffers with the same limits. -/
structure SameLimits (buf buf' : DltBuffer) : Prop where
  size_eq : buf'.size = buf.size
  min_eq : buf'.minSize = buf.minSize
  max_eq : buf'.maxSize = buf.maxSize
  step_eq : buf'.stepSize = buf.stepSize

namespace SameLimits

variable {buf buf' buf'' : DltBuffer}

theorem refl (buf : DltBuffer) : SameLimits buf buf := ⟨rfl, rfl, rfl, rfl⟩

section

variable (h : SameLimits buf buf')
include h

theorem trans (h' : SameLimits buf' buf'') : SameLimits buf buf'' :=
  ⟨h'.size_eq.trans h.size_eq, h'.min_eq.trans h.min_eq, h'.max_eq.trans h.max_eq, h'.step_eq.trans h.step_eq⟩

theorem canGrow_iff (malloc : Malloc) : CanGrow malloc buf' ↔ CanGrow malloc buf := by
  unfold CanGrow
  simp only [h.size_eq, h.max_eq, h.step_eq]

theorem fits_iff (q : List (List UInt8)) (needed : ℕ) : Fits buf' q needed ↔ Fits buf q needed := by
  unfold Fits
  rw [h.size_eq]

theorem hasRoom_iff (malloc : Malloc) (q : List (List UInt8)) (needed : ℕ) :
    HasRoom malloc buf' q needed ↔ HasRoom malloc buf q needed := by
  unfold HasRoom Fits GrowsBy CanGrow
  simp only [h.size_eq, h.max_eq, h.step_eq]

end

end SameLimits

section push

variable {malloc : Malloc} {buf : DltBuffer} {q : List (List UInt8)}

theorem dltBufferPushGrow_stuck (h : Layout buf []) {needed : ℕ} (hfits : ¬ Fits buf [] needed)
    (hnot : ¬ CanGrow malloc buf) : dltBufferPushGrow malloc needed buf.shm.count buf = (buf, false) := by
  have hfree := h.queued.freeSize_eq
  have hfail := increaseSize_of_not_canGrow h.step_pos hnot
  unfold Fits at hfits
  simp only [queueBytes_nil, length_nil, Nat.cast_zero, sub_zero, Nat.zero_add] at hfree hfits
  unfold dltBufferPushGrow
  rw [hfree, if_pos (by omega), hfail, dif_neg (by simp only [dltReturnError, dltReturnOk]; decide)]

/-- **The growing loop on an empty buffer that does not have the room**: after the first growth it holds as many
bytes as its data area had. -/
theorem dltBufferPushGrow_nil (h : Layout buf []) (hpos : 0 < buf.size) {needed : ℕ} (hfits : ¬ Fits buf [] needed)
    (hgrow : CanGrow malloc buf) :
    ∃ old : List UInt8, old.length = buf.size ∧
      ((dltBufferPushGrow malloc needed buf.shm.count buf).2 = true ↔
        ∃ j, GrowsBy malloc buf (j + 1) ∧ needed ≤ (j + 1) * buf.stepSize) ∧
      Holding (dltBufferPushGrow malloc needed buf.shm.count buf).1 old ∧
      buf.size < (dltBufferPushGrow malloc needed buf.shm.count buf).1.size ∧
      ((dltBufferPushGrow malloc needed buf.shm.count buf).2 = true →
        needed + old.length ≤ (dltBufferPushGrow malloc needed buf.shm.count buf).1.size) := by
  have hfree := h.queued.freeSize_eq
  have hstep := h.step_pos
  obtain ⟨mem, old, hold, heq, hheld⟩ := h.holding.increaseSize_nil hgrow
  unfold Fits at hfits
  simp only [queueBytes_nil, length_nil, Nat.cast_zero, sub_zero, Nat.zero_add] at hfree hfits
  have hunfold : dltBufferPushGrow malloc needed buf.shm.count buf =
      dltBufferPushGrow malloc needed buf.shm.count (dltBufferIncreaseSize malloc buf).1 := by
    rw [dltBufferPushGrow, hfree, if_pos (by omega), dif_pos (by rw [heq])]
  have hgrown : Grown buf (dltBufferIncreaseSize malloc buf).1 := by
    rw [heq]
    exact ⟨rfl, rfl, rfl⟩
  replace hheld : Holding (dltBufferIncreaseSize malloc buf).1 old := by rwa [heq]
  rw [hunfold]
  generalize (dltBufferIncreaseSize malloc buf).1 = grown at hgrown hheld ⊢
  have hsize := hgrown.size_eq
  obtain ⟨hroom, hstays, hle, hends⟩ := @dltBufferPushGrow_holding grown old buf.shm.count malloc needed hheld
    (ne_nil_of_length_pos (by omega)) (.inr (by omega))
  refine ⟨old, hold, hroom.trans ?_, hstays, by omega, fun htrue => ?_⟩
  · refine exists_congr fun j => ?_
    have hsum : grown.size + j * grown.stepSize = buf.size + (j + 1) * buf.stepSize := by
      rw [hsize, hgrown.step_eq, Nat.succ_mul]
      omega
    have hsucc := @growsBy_succ_iff malloc buf grown hgrown.size_eq hgrown.max_eq hgrown.step_eq j
    rw [hsum, hold, hsucc]
    constructor
    · rintro ⟨hgrows, hle⟩
      exact ⟨⟨hgrow, hgrows⟩, by omega⟩
    · rintro ⟨⟨-, hgrows⟩, hle⟩
      exact ⟨hgrows, by omega⟩
  · have := hends htrue
    omega

/-- **The growing loop finds room exactly when there is room.** -/
theorem dltBufferPushGrow_iff (malloc : Malloc) (h : Layout buf q) (hpos : 0 < buf.size) (needed : ℕ) :
    (dltBufferPushGrow malloc needed buf.shm.count buf).2 = true ↔ HasRoom malloc buf q needed := by
  unfold HasRoom
  by_cases hq : q = []
  · subst hq
    simp only [if_true]
    by_cases hfits : Fits buf [] needed
    · have hfree := h.queued.freeSize_eq
      have hroom := hfits
      unfold Fits at hroom
      rw [queueBytes_nil] at hfree hroom
      simp only [length_nil, Nat.cast_zero, sub_zero, Nat.zero_add] at hfree hroom
      refine iff_of_true ?_ (.inl hfits)
      unfold dltBufferPushGrow
      rw [hfree, if_neg (by omega)]
    by_cases hgrow : CanGrow malloc buf
    · obtain ⟨old, -, hroom, -⟩ := dltBufferPushGrow_nil h hpos hfits hgrow
      rw [hroom]
      exact (or_iff_right hfits).symm
    · rw [dltBufferPushGrow_stuck h hfits hgrow]
      refine iff_of_false Bool.false_ne_true ?_
      rintro (hyes | ⟨j, hgrows, -⟩)
      · exact hfits hyes
      · exact absurd (hgrows.eq_zero hgrow) (Nat.succ_ne_zero j)
  · have hcount : buf.shm.count ≠ 0 := fun hzero => hq (h.queued.count_eq_zero_iff.mp hzero)
    rw [(dltBufferPushGrow_holding malloc needed h.holding (ne_nil_of_length_pos (length_queueBytes_pos hq))
      (.inl hcount)).1]
    simp only [if_neg hq, Fits]
    constructor
    · rintro ⟨j, hgrows, hle⟩
      cases j with
      | zero =>
        rw [Nat.zero_mul, Nat.add_zero] at hle
        exact .inl (by omega)
      | succ j => exact .inr ⟨j, hgrows, by omega⟩
    · rintro (hfits | ⟨j, hgrows, hle⟩)
      · exact ⟨0, growsBy_zero malloc buf, by rw [Nat.zero_mul, Nat.add_zero]; omega⟩
      · exact ⟨j + 1, hgrows, by omega⟩

/-! ## Pushing -/

variable {data1 data2 data3 : List UInt8}

def pushNeeded (data1 data2 data3 : List UInt8) : ℕ :=
  sizeofDltBufferBlockHead + (data1.length + data2.length + data3.length)

theorem dltBufferPush3_eq (h : Layout buf q) (hlen : pushNeeded data1 data2 data3 < 2147483648) :
    dltBufferPush3 malloc buf data1 data2 data3 =
      let grown := dltBufferPushGrow malloc (pushNeeded data1 data2 data3 : ℕ) buf.shm.count buf
      if grown.2 then (dltBufferPushWrite grown.1 data1 data2 data3, dltReturnOk) else (grown.1, dltReturnError) := by
  obtain ⟨hread, hwrite⟩ := h.queued.offsets_le
  unfold dltBufferPush3
  rw [if_neg (by omega), ← pushNeeded, i32_natCast hlen]

/-- **A push succeeds exactly when there is room**, else it fails. -/
theorem dltBufferPush3_ok_iff (malloc : Malloc) (h : Layout buf q) (hpos : 0 < buf.size)
    (hlen : pushNeeded data1 data2 data3 < 2147483648) :
    ((dltBufferPush3 malloc buf data1 data2 data3).2 = dltReturnOk ↔
        HasRoom malloc buf q (pushNeeded data1 data2 data3)) ∧
      ((dltBufferPush3 malloc buf data1 data2 data3).2 = dltReturnError ↔
        ¬ HasRoom malloc buf q (pushNeeded data1 data2 data3)) := by
  rw [dltBufferPush3_eq h hlen, ← dltBufferPushGrow_iff malloc h hpos]
  simp only
  by_cases hgrown : (dltBufferPushGrow malloc (pushNeeded data1 data2 data3 : ℕ) buf.shm.count buf).2 = true
  · rw [if_pos hgrown]
    exact ⟨iff_of_true rfl hgrown, iff_of_false (fun hret => by cases hret) (not_not_intro hgrown)⟩
  · rw [if_neg hgrown]
    exact ⟨iff_of_false (fun hret => by cases hret) hgrown, iff_of_true rfl hgrown⟩

/-- **With room the message is stored**, when the buffer is not empty or the message fits as it is. -/
theorem dltBufferPush3_stores (h : Layout buf q) (hpos : 0 < buf.size)
    (hlen : pushNeeded data1 data2 data3 < 2147483648) (hroom : HasRoom malloc buf q (pushNeeded data1 data2 data3))
    (hsafe : q = [] → Fits buf q (pushNeeded data1 data2 data3)) :
    Layout (dltBufferPush3 malloc buf data1 data2 data3).1 (q ++ [data1 ++ data2 ++ data3]) := by
  have hok := (dltBufferPush3_ok_iff malloc h hpos hlen).1.mpr hroom
  have hfits : q = [] → sizeofDltBufferBlockHead + (data1.length + data2.length + data3.length) ≤ buf.size ∨
      buf.maxSize < buf.size + sizeofDltBufferHead + buf.stepSize := by
    intro hq
    have := hsafe hq
    unfold Fits pushNeeded at this
    exact .inl (by omega)
  obtain ⟨-, hnext⟩ | ⟨herror, -⟩ := dltBufferPush3_layout malloc h hlen hfits
  · exact hnext
  · rw [hok] at herror
    cases herror

/-- **Growing an empty buffer loses the message**, although the push succeeds. -/
theorem dltBufferPush3_loses (h : Layout buf []) (hpos : 0 < buf.size)
    (hlen : pushNeeded data1 data2 data3 < 2147483648) (hroom : HasRoom malloc buf [] (pushNeeded data1 data2 data3))
    (hfits : ¬ Fits buf [] (pushNeeded data1 data2 data3)) :
    ¬ Queued (dltBufferPush3 malloc buf data1 data2 data3).1 [data1 ++ data2 ++ data3] := by
  have hgrow : CanGrow malloc buf := by
    by_contra hnot
    obtain hyes | ⟨j, hgrows, -⟩ := hroom
    · exact hfits hyes
    · exact absurd (hgrows.eq_zero hnot) (Nat.succ_ne_zero j)
  have htrue := (dltBufferPushGrow_iff malloc h hpos _).mpr hroom
  obtain ⟨old, hold, -, hheld, hlt, hends⟩ := dltBufferPushGrow_nil h hpos hfits hgrow
  have hleft := hends htrue
  rw [dltBufferPush3_eq h hlen]
  simp only [htrue, if_true]
  generalize (dltBufferPushGrow malloc (pushNeeded data1 data2 data3 : ℕ) buf.shm.count buf).1 = grown at *
  obtain ⟨r, hread, hst, hwrite⟩ := hheld.stores
  unfold pushNeeded at hleft
  obtain ⟨mem, heq, -⟩ := dltBufferPushWrite_stores hheld.size_lt hst hwrite data1 data2 data3 (by omega)
  rw [heq]
  intro hqueued
  -- the offset `read` is that of the old bytes, and the message ends behind them
  obtain ⟨r', hread', hst', hwrite'⟩ := hqueued.stores
  simp only [hread] at hread' hwrite'
  obtain rfl : r = r' := by omega
  have hlen' := hst'.length_le
  simp only [queueBytes_cons, queueBytes_nil, append_nil, length_append, length_block] at hwrite' hlen'
  unfold Ring.advance at hwrite'
  split_ifs at hwrite' <;> omega

theorem dltBufferPushGrow_count (malloc : Malloc) (needed count : ℤ) (buf : DltBuffer) :
    (dltBufferPushGrow malloc needed count buf).1.shm.count = buf.shm.count := by
  have hincrease : ∀ buf, (dltBufferIncreaseSize malloc buf).1.shm.count = buf.shm.count := by
    intro buf
    unfold dltBufferIncreaseSize
    split_ifs
    · rfl
    · rfl
    · cases malloc (buf.size + sizeofDltBufferHead + buf.stepSize) <;> rfl
  fun_induction dltBufferPushGrow malloc needed count buf with
  | case1 buf _ _ ih => exact ih.trans (hincrease buf)
  | case2 buf _ _ => exact hincrease buf
  | case3 buf _ => rfl

section

variable (h : Layout buf q) (hpos : 0 < buf.size) (hlen : pushNeeded data1 data2 data3 < 2147483648)
  (hroom : ¬ HasRoom malloc buf q (pushNeeded data1 data2 data3))
include h hpos hlen hroom

/-- **Without room the message is not stored.** -/
theorem dltBufferPush3_not_queued (m : List UInt8) :
    ¬ Queued (dltBufferPush3 malloc buf data1 data2 data3).1 (q ++ [m]) := by
  intro hqueued
  have hcount := hqueued.count_eq
  rw [← dltBufferPushGrow_iff malloc h hpos] at hroom
  rw [dltBufferPush3_eq h hlen] at hcount
  simp only at hcount
  rw [if_neg hroom, dltBufferPushGrow_count, h.count_eq, length_append, length_singleton] at hcount
  omega

/-- **Without room the queue stays**, when the buffer is not empty or cannot grow at all. -/
theorem dltBufferPush3_keeps (hsafe : q = [] → ¬ CanGrow malloc buf) :
    Layout (dltBufferPush3 malloc buf data1 data2 data3).1 q := by
  by_cases hq : q = []
  · subst hq
    have hfits : ¬ Fits buf [] (pushNeeded data1 data2 data3) := fun hyes => hroom (.inl hyes)
    rw [dltBufferPush3_eq h hlen, dltBufferPushGrow_stuck h hfits (hsafe rfl)]
    exact h
  · have herror := (dltBufferPush3_ok_iff malloc h hpos hlen).2.mpr hroom
    obtain ⟨hok, -⟩ | ⟨-, hnext⟩ := dltBufferPush3_layout malloc h hlen (fun hempty => absurd hempty hq)
    · rw [herror] at hok
      cases hok
    · exact hnext

end

theorem dltBufferWriteBlock_limits (buf : DltBuffer) (write : ℤ) (data : List UInt8) :
    SameLimits buf (dltBufferWriteBlock buf write data).1 := by
  unfold dltBufferWriteBlock
  simp only
  split_ifs <;> exact ⟨rfl, rfl, rfl, rfl⟩

theorem dltBufferPushWrite_limits (buf : DltBuffer) (data1 data2 data3 : List UInt8) :
    SameLimits buf (dltBufferPushWrite buf data1 data2 data3) := by
  have hpart : ∀ (at0 : DltBuffer × ℤ) (data : List UInt8), SameLimits buf at0.1 →
      SameLimits buf (dltBufferWritePart at0 data).1 := by
    intro at0 data hbefore
    unfold dltBufferWritePart
    split_ifs
    · exact hbefore.trans (dltBufferWriteBlock_limits _ _ _)
    · exact hbefore
  have hall : ∀ head, SameLimits buf (dltBufferWritePart (dltBufferWritePart (dltBufferWritePart
      (dltBufferWriteBlock buf buf.shm.write head) data1) data2) data3).1 := fun head =>
    hpart _ data3 (hpart _ data2 (hpart _ data1 (dltBufferWriteBlock_limits buf buf.shm.write head)))
  unfold dltBufferPushWrite
  exact ⟨(hall _).size_eq, (hall _).min_eq, (hall _).max_eq, (hall _).step_eq⟩

/-- A push does not make the buffer smaller, and its minimum stays. -/
theorem dltBufferPush3_size (malloc : Malloc) (buf : DltBuffer) (data1 data2 data3 : List UInt8) :
    buf.size ≤ (dltBufferPush3 malloc buf data1 data2 data3).1.size ∧
      (dltBufferPush3 malloc buf data1 data2 data3).1.minSize = buf.minSize := by
  have hincrease : ∀ buf, buf.size ≤ (dltBufferIncreaseSize malloc buf).1.size ∧
      (dltBufferIncreaseSize malloc buf).1.minSize = buf.minSize := by
    intro buf
    unfold dltBufferIncreaseSize
    split_ifs
    · exact ⟨le_rfl, rfl⟩
    · exact ⟨le_rfl, rfl⟩
    · cases malloc (buf.size + sizeofDltBufferHead + buf.stepSize) with
      | none => exact ⟨le_rfl, rfl⟩
      | some fresh => exact ⟨Nat.le_add_right _ _, rfl⟩
  have hgrow : ∀ needed count : ℤ, buf.size ≤ (dltBufferPushGrow malloc needed count buf).1.size ∧
      (dltBufferPushGrow malloc needed count buf).1.minSize = buf.minSize := by
    intro needed count
    fun_induction dltBufferPushGrow malloc needed count buf with
    | case1 buf _ _ ih => exact ⟨(hincrease buf).1.trans ih.1, ih.2.trans (hincrease buf).2⟩
    | case2 buf _ _ => exact hincrease buf
    | case3 buf _ => exact ⟨le_rfl, rfl⟩
  unfold dltBufferPush3
  simp only
  split_ifs
  · exact ⟨le_rfl, rfl⟩
  · have hlimits := dltBufferPushWrite_limits (dltBufferPushGrow malloc
      (i32 (sizeofDltBufferBlockHead + (data1.length + data2.length + data3.length) : ℕ)) buf.shm.count buf).1
      data1 data2 data3
    rw [hlimits.size_eq, hlimits.min_eq]
    exact hgrow _ _
  · exact hgrow _ _

end push

end Dlt.Shared
