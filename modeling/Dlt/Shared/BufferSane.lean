import Dlt.Shared.BufferContained

/-!
# The states that calls on a ring buffer reach

* `bufferStep_sane`, `CallReach.sane` — **every call keeps a sane buffer**, also one that goes wrong.
* `getStores_inside_iff` — **it stays inside exactly when the block that is handed out is not longer than the
  memory**, whatever `max_size` is.
-/

namespace Dlt.Shared

open Dlt.Lib List

/-! ## Sane buffers -/

/-- The range of an `int`. -/
def IntRange (x : ℤ) : Prop := -2147483648 ≤ x ∧ x < 2147483648

theorem intRange_i32 (x : ℤ) : IntRange (i32 x) := i32_range x

theorem intRange_natCast {n : ℕ} (h : n < 2147483648) : IntRange n := ⟨by omega, by omega⟩

theorem intRange_zero : IntRange 0 := intRange_natCast (show 0 < 2147483648 by decide)

/-- The sizes are consistent, and the offsets are `int`s. -/
structure SaneBuffer (buf : DltBuffer) : Prop where
  max_lt : buf.maxSize < 2147483648
  size_le : buf.size + sizeofDltBufferHead ≤ buf.maxSize
  head_le_min : sizeofDltBufferHead ≤ buf.minSize
  min_le : buf.minSize ≤ buf.maxSize
  length_mem : buf.mem.length = buf.size
  write_range : IntRange buf.shm.write
  read_range : IntRange buf.shm.read

/-- The offsets lie in the data area. -/
def OffsetsInside (buf : DltBuffer) : Prop :=
  ∃ r w : ℕ, buf.shm.read = r ∧ buf.shm.write = w ∧ r ≤ buf.size ∧ w ≤ buf.size

section sane

variable {buf : DltBuffer}

section

variable (h : SaneBuffer buf)
include h

theorem SaneBuffer.size_lt : buf.size < 2147483648 := by
  have := h.max_lt
  have := h.size_le
  omega

theorem SaneBuffer.offsets (hcheck : ¬ (u32 buf.shm.read > buf.size ∨ u32 buf.shm.write > buf.size)) :
    OffsetsInside buf := by
  obtain ⟨r, hr, hrle⟩ := offset_of_u32_le h.read_range.1 h.read_range.2 h.size_lt
    (show u32 buf.shm.read ≤ buf.size by omega)
  obtain ⟨w, hw, hwle⟩ := offset_of_u32_le h.write_range.1 h.write_range.2 h.size_lt
    (show u32 buf.shm.write ≤ buf.size by omega)
  exact ⟨r, w, hr, hw, hrle, hwle⟩

theorem SaneBuffer.reset : SaneBuffer (dltBufferReset buf) :=
  ⟨h.max_lt, h.size_le, h.head_le_min, h.min_le, length_replicate, intRange_zero, intRange_zero⟩

section

variable (hoffsets : OffsetsInside buf)
include hoffsets

/-- Growing keeps a sane buffer, and the offsets in the data area. -/
theorem SaneBuffer.increaseSize (malloc : Malloc) :
    SaneBuffer (dltBufferIncreaseSize malloc buf).1 ∧ OffsetsInside (dltBufferIncreaseSize malloc buf).1 := by
  unfold dltBufferIncreaseSize
  split_ifs with hstep hroom
  · exact ⟨h, hoffsets⟩
  · exact ⟨h, hoffsets⟩
  cases hm : malloc (buf.size + sizeofDltBufferHead + buf.stepSize) with
  | none => exact ⟨h, hoffsets⟩
  | some fresh =>
    obtain ⟨r, w, hr, hw, hrle, hwle⟩ := hoffsets
    have hsize := h.size_lt
    have hmax := h.max_lt
    simp only [hr, hw, Int.toNat_natCast, i32_natCast hsize]
    generalize hcopied : (if (r : ℤ) < w then (buf.mem.drop r).take ((w : ℤ) - r).toNat
      else (buf.mem.drop r).take (buf.size - u32 (r : ℤ)) ++ buf.mem.take w) = copied
    have hlen : copied.length ≤ buf.size + buf.stepSize := by
      have hmem := h.length_mem
      rw [← hcopied, u32_natCast (by omega)]
      split_ifs
      · rw [length_take, length_drop]
        omega
      · rw [length_append, length_take, length_take, length_drop]
        omega
    obtain ⟨next, hnext, hnextLe⟩ : ∃ next : ℕ,
        (if (r : ℤ) < w then i32 ((w : ℤ) - r) else i32 ((buf.size : ℤ) + w - r)) = next ∧ next ≤ buf.size := by
      split_ifs
      · exact ⟨w - r, by rw [i32_of_range (by omega) (by omega)]; omega, by omega⟩
      · exact ⟨buf.size + w - r, by rw [i32_of_range (by omega) (by omega)]; omega, by omega⟩
    rw [hnext]
    refine ⟨⟨hmax, by simp only; omega, h.head_le_min, h.min_le, ?_, intRange_natCast (by omega),
      intRange_zero⟩, 0, next, rfl, rfl, Nat.zero_le _, by simp only; omega⟩
    simp only
    rw [length_overwrite (by simpa using hlen)]
    simp

/-- The growing loop keeps a sane buffer, and the offsets in the data area. -/
theorem SaneBuffer.pushGrow (malloc : Malloc) (needed count : ℤ) :
    SaneBuffer (dltBufferPushGrow malloc needed count buf).1 ∧
      OffsetsInside (dltBufferPushGrow malloc needed count buf).1 := by
  fun_induction dltBufferPushGrow malloc needed count buf with
  | case1 buf _ _ ih =>
    obtain ⟨hsane, hinside⟩ := h.increaseSize hoffsets malloc
    exact ih hsane hinside
  | case2 buf _ _ => exact h.increaseSize hoffsets malloc
  | case3 buf _ => exact ⟨h, hoffsets⟩

theorem SaneBuffer.pushWrite (data1 data2 data3 : List UInt8) :
    SaneBuffer (dltBufferPushWrite buf data1 data2 data3) := by
  obtain ⟨r, w, hr, hw, hrle, hwle⟩ := hoffsets
  have hsize := h.size_lt
  unfold dltBufferPushWrite
  rw [hw]
  simp only
  generalize (DltBufferBlockHead.toBytes
    { head := dltBufferHead, status := 2, size := i32 (data1.length + data2.length + data3.length : ℕ) }) = header
  -- the memory before each part
  obtain ⟨mem0, next0, hwrote0, hmem0, hnext0⟩ := dltBufferWriteBlock_next hsize h.length_mem hwle header
  obtain ⟨mem1, next1, hwrote1, hmem1, hnext1⟩ :=
    @dltBufferWritePart_next { buf with mem := mem0 } next0 hsize hmem0 hnext0 data1
  obtain ⟨mem2, next2, hwrote2, hmem2, hnext2⟩ :=
    @dltBufferWritePart_next { buf with mem := mem1 } next1 hsize hmem1 hnext1 data2
  obtain ⟨mem3, next3, hwrote3, hmem3, hnext3⟩ :=
    @dltBufferWritePart_next { buf with mem := mem2 } next2 hsize hmem2 hnext2 data3
  simp only [hwrote0, hwrote1, hwrote2, hwrote3]
  exact ⟨h.max_lt, h.size_le, h.head_le_min, h.min_le, hmem3,
    intRange_natCast (show next3 < 2147483648 by simp only at hnext3; omega), h.read_range⟩

end

/-- **A push keeps a sane buffer.** -/
theorem SaneBuffer.push3 (malloc : Malloc) (data1 data2 data3 : List UInt8) :
    SaneBuffer (dltBufferPush3 malloc buf data1 data2 data3).1 := by
  unfold dltBufferPush3
  by_cases hcheck : u32 buf.shm.read > buf.size ∨ u32 buf.shm.write > buf.size
  · rw [if_pos hcheck]
    exact h.reset
  rw [if_neg hcheck]
  obtain ⟨hsane, hinside⟩ := h.pushGrow (h.offsets hcheck) malloc
    (i32 (sizeofDltBufferBlockHead + (data1.length + data2.length + data3.length) : ℕ)) buf.shm.count
  simp only
  split_ifs
  · exact hsane.pushWrite hinside data1 data2 data3
  · exact hsane

end

/-- The offset behind a block that was read is an `int`. -/
theorem readBlock_range {read : ℤ} (hread : IntRange read) (size : ℕ) :
    IntRange (dltBufferReadBlock buf read size).2 := by
  unfold dltBufferReadBlock
  split_ifs
  · exact intRange_i32 _
  · exact intRange_i32 _
  · exact hread

theorem SaneBuffer.getDelete (h : SaneBuffer buf) (malloc : Malloc) {read : ℤ} (hread : IntRange read) :
    SaneBuffer (dltBufferGetDelete malloc buf read) := by
  have hhead := h.head_le_min
  have hmin := h.min_le
  unfold dltBufferGetDelete dltBufferMinimizeSize
  simp only
  split_ifs
  · exact ⟨h.max_lt, h.size_le, hhead, hmin, h.length_mem, h.write_range, hread⟩
  · cases malloc buf.minSize with
    | none => exact ⟨h.max_lt, h.size_le, hhead, hmin, h.length_mem, h.write_range, hread⟩
    | some fresh =>
      exact ⟨h.max_lt, by simp only; omega, hhead, hmin, length_replicate, intRange_zero,
        intRange_zero⟩
  · exact ⟨h.max_lt, h.size_le, hhead, hmin, h.length_mem, h.write_range, hread⟩

/-- **A get keeps a sane buffer.** -/
theorem SaneBuffer.get (h : SaneBuffer buf) (malloc : Malloc) (toData : Bool) (maxSize : ℤ) (delete : Bool) :
    SaneBuffer (dltBufferGet malloc buf toData maxSize delete).1 := by
  have hbehind : IntRange (dltBufferGetData buf (dltBufferReadBlock buf buf.shm.read sizeofDltBufferBlockHead).2
      (DltBufferBlockHead.ofBytes (dltBufferReadBlock buf buf.shm.read sizeofDltBufferBlockHead).1).size
      toData maxSize).2 := by
    unfold dltBufferGetData
    split_ifs
    · exact readBlock_range (readBlock_range h.read_range _) _
    · exact intRange_i32 _
    · exact intRange_i32 _
  unfold dltBufferGet
  simp only
  split_ifs
  · exact h.reset
  · exact h.reset
  · exact h
  · exact h.reset
  · exact h.reset
  · exact h.reset
  · exact h.reset
  · exact h.getDelete malloc hbehind
  · exact h

/-- **Every call keeps a sane buffer.** -/
theorem bufferStep_sane (h : SaneBuffer buf) (malloc : Malloc) (op : BufferOp) :
    SaneBuffer (bufferStep malloc buf op).1 := by
  cases op with
  | push3 data1 data2 data3 => exact h.push3 malloc data1 data2 data3
  | pull maxSize => exact h.get malloc true maxSize true
  | copy maxSize => exact h.get malloc true maxSize false
  | remove => exact h.get malloc false 0 true

end sane

/-- The states that calls reach, with any contents, sizes and outcomes of `malloc`. -/
inductive CallReach (init : DltBuffer) : DltBuffer → Prop
  | init : CallReach init init
  | step {buf : DltBuffer} (malloc : Malloc) (op : BufferOp) (reach : CallReach init buf) :
      CallReach init (bufferStep malloc buf op).1

/-- **Every state that calls reach is sane.** -/
theorem CallReach.sane {init buf : DltBuffer} (reach : CallReach init buf) (hinit : SaneBuffer init) :
    SaneBuffer buf := by
  induction reach with
  | init => exact hinit
  | step malloc op _ ih => exact bufferStep_sane ih malloc op

/-! ## The memory of the caller -/

/-- The memory behind `data`, of `room` bytes, as far as `dlt_buffer_get` writes to it.
Source: `dlt_common.c`, `dlt_buffer_get` -/
def dltBufferGetStores (buf : DltBuffer) (maxSize : ℤ) (room : ℕ) : List Touch :=
  if u32 buf.shm.read > buf.size ∨ u32 buf.shm.write > buf.size ∨ buf.shm.count < 0 then []
  else if buf.shm.count = 0 then []
  else if dltBufferGetUsed buf < sizeofDltBufferBlockHead then []
  else
    let got := dltBufferReadBlock buf buf.shm.read sizeofDltBufferBlockHead
    let head := DltBufferBlockHead.ofBytes got.1
    if head.head ≠ dltBufferHead ∨ head.status ≠ 2 ∨
        dltBufferGetUsed buf < i32 (sizeofDltBufferBlockHead + head.size) then []
    else if maxSize ≠ 0 then dltBufferReadBlockStores buf got.2 (u32 head.size) room
    else []

/-- None of the checks fails, and the caller asks for the message. -/
def HandsOutBlock (buf : DltBuffer) (maxSize : ℤ) : Prop :=
  maxSize ≠ 0 ∧ buf.shm.count ≠ 0 ∧ ¬ DltBufferGetResets buf

/-- **The block at the read offset fits**, if it is handed out. -/
def BlockHasRoom (buf : DltBuffer) (maxSize : ℤ) (room : ℕ) : Prop :=
  HandsOutBlock buf maxSize → 0 ≤ (blockHeadAt buf).size ∧ (blockHeadAt buf).size ≤ room

section stores

variable {buf : DltBuffer} {maxSize : ℤ} {room : ℕ}

theorem getStores_of_handsOut (h : HandsOutBlock buf maxSize) :
    dltBufferGetStores buf maxSize room =
      dltBufferReadBlockStores buf (behindBlockHead buf) (u32 (blockHeadAt buf).size) room := by
  obtain ⟨hmax, hcount, hresets⟩ := h
  unfold dltBufferGetStores
  rw [if_neg fun hbad => hresets (.inl hbad), if_neg hcount,
    if_neg fun hbad => hresets (.inr (.inr ⟨hcount, .inl hbad⟩))]
  dsimp only
  rw [if_neg fun hbad => hresets (.inr (.inr ⟨hcount, .inr hbad⟩)), if_pos hmax]
  rfl

theorem getStores_of_not_handsOut (h : ¬ HandsOutBlock buf maxSize) : dltBufferGetStores buf maxSize room = [] := by
  unfold dltBufferGetStores
  by_cases hrange : u32 buf.shm.read > buf.size ∨ u32 buf.shm.write > buf.size ∨ buf.shm.count < 0
  · rw [if_pos hrange]
  rw [if_neg hrange]
  by_cases hcount : buf.shm.count = 0
  · rw [if_pos hcount]
  rw [if_neg hcount]
  by_cases hused : dltBufferGetUsed buf < sizeofDltBufferBlockHead
  · rw [if_pos hused]
  rw [if_neg hused]
  dsimp only
  split_ifs with hchecks hmax
  · rfl
  · exfalso
    refine h ⟨hmax, hcount, ?_⟩
    rintro (hbad | ⟨hzero, -⟩ | ⟨-, hbad⟩)
    · exact hrange hbad
    · exact hcount hzero
    · dsimp only at hbad
      exact hbad.elim hused hchecks
  · rfl

/-- A block that is read has room exactly when it is not longer than the memory. -/
theorem readBlockStores_inside_iff (hsize : buf.size < 2147483648) {pos n : ℕ} (hpos : pos ≤ buf.size)
    (hn : n < 4294967296) :
    (∀ touch ∈ dltBufferReadBlockStores buf pos n room, touch.Inside) ↔ n ≤ room := by
  have hu : u32 (pos : ℤ) = pos := u32_natCast (by omega)
  unfold dltBufferReadBlockStores
  rw [hu]
  split_ifs with hone
  · simp only [mem_singleton, forall_eq, Touch.Inside]
    omega
  · have hbehind : buf.size < pos + n := by
      unfold u32 at hone
      omega
    have hrest : u32 ((n : ℤ) - buf.size + pos) = n - (buf.size - pos) := by
      rw [u32_of_nonneg (by omega) (by omega)]
      omega
    simp only [hrest, mem_cons, not_mem_nil, or_false, forall_eq_or_imp, forall_eq, Touch.Inside]
    omega

/-- The offset behind the header of a block that is handed out lies in the data area. -/
theorem SaneBuffer.behindBlockHead_le (h : SaneBuffer buf) (hout : HandsOutBlock buf maxSize) :
    ∃ pos : ℕ, behindBlockHead buf = pos ∧ pos ≤ buf.size := by
  -- the checks do not depend on whether the buffer may grow
  have hshm : ShmBuffer { buf with stepSize := 0, minSize := buf.size + sizeofDltBufferHead } :=
    ⟨h.size_lt, h.length_mem, rfl, rfl, h.write_range, h.read_range⟩
  obtain ⟨hmax, hcount, hresets⟩ := hout
  obtain ⟨pos, hpos, hle, -⟩ := hshm.get_handsOut hmax hcount hresets
  exact ⟨pos, hpos, hle⟩

/-- **What is handed out stays inside the memory of the caller exactly when the block is not longer than that.** -/
theorem getStores_inside_iff (h : SaneBuffer buf) (hroom : room < 2147483648) :
    (∀ touch ∈ dltBufferGetStores buf maxSize room, touch.Inside) ↔ BlockHasRoom buf maxSize room := by
  unfold BlockHasRoom
  by_cases hout : HandsOutBlock buf maxSize
  · obtain ⟨pos, hpos, hle⟩ := h.behindBlockHead_le hout
    obtain ⟨hlow, hhigh⟩ : IntRange (blockHeadAt buf).size := intRange_i32 _
    have hu : u32 (blockHeadAt buf).size < 4294967296 := by
      unfold u32
      omega
    rw [getStores_of_handsOut hout, hpos, readBlockStores_inside_iff h.size_lt hle hu]
    have hconv : u32 (blockHeadAt buf).size ≤ room ↔ 0 ≤ (blockHeadAt buf).size ∧ (blockHeadAt buf).size ≤ room := by
      unfold u32
      omega
    rw [hconv]
    exact ⟨fun hfits _ => hfits, fun hfits => hfits hout⟩
  · rw [getStores_of_not_handsOut hout]
    exact iff_of_true (fun touch hmem => by cases hmem) fun hyes => absurd hyes hout

theorem dltBufferGet_of_not_resets (hcount : buf.shm.count ≠ 0) (hresets : ¬ DltBufferGetResets buf)
    (malloc : Malloc) (toData : Bool) (maxSize : ℤ) (delete : Bool) :
    dltBufferGet malloc buf toData maxSize delete =
      (if delete then dltBufferGetDelete malloc buf
          (dltBufferGetData buf (behindBlockHead buf) (blockHeadAt buf).size toData maxSize).2
        else buf,
        { ret := (blockHeadAt buf).size
          data := (dltBufferGetData buf (behindBlockHead buf) (blockHeadAt buf).size toData maxSize).1 }) := by
  have hchecks := fun hbad => hresets (.inr (.inr ⟨hcount, .inr hbad⟩))
  unfold dltBufferGet
  rw [if_neg fun hbad => hresets (.inl hbad), if_neg hcount,
    if_neg fun hbad => hresets (.inr (.inr ⟨hcount, .inl hbad⟩))]
  dsimp only
  rw [if_neg fun hbad => hchecks (.inl hbad), if_neg fun hbad => hchecks (.inr (.inl hbad)),
    if_neg fun hbad => hchecks (.inr (.inr hbad))]
  rfl

/-- In a buffer that stores a queue the block is the oldest message. -/
theorem blockHeadAt_cons {m : List UInt8} {q : List (List UInt8)} (h : Queued buf (m :: q)) :
    buf.shm.count ≠ 0 ∧ ¬ DltBufferGetResets buf ∧ (blockHeadAt buf).size = m.length := by
  have hres := (dltBufferGet_cons zeroMalloc h false 0 false).1
  have hcount : buf.shm.count ≠ 0 := fun hzero => cons_ne_nil m q (h.count_eq_zero_iff.mp hzero)
  have hresets : ¬ DltBufferGetResets buf := by
    -- a reset fails, a get from a queue that is not empty does not
    intro hreset
    rw [dltBufferGet_of_resets hreset zeroMalloc false 0 false] at hres
    have hret : dltReturnError = (m.length : ℤ) := congrArg DltBufferResult.ret hres
    rw [dltReturnError] at hret
    omega
  rw [dltBufferGet_of_not_resets hcount hresets] at hres
  exact ⟨hcount, hresets, congrArg DltBufferResult.ret hres⟩

/-- There is room for it exactly when the message is not longer than the memory. -/
theorem blockHasRoom_cons {m : List UInt8} {q : List (List UInt8)} (h : Queued buf (m :: q)) (hmax : maxSize ≠ 0) :
    BlockHasRoom buf maxSize room ↔ m.length ≤ room := by
  obtain ⟨hcount, hresets, hsize⟩ := blockHeadAt_cons h
  unfold BlockHasRoom
  rw [hsize]
  constructor
  · intro hfits
    have := (hfits ⟨hmax, hcount, hresets⟩).2
    omega
  · intro hle _
    omega

end stores

end Dlt.Shared
