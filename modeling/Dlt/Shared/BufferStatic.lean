import Dlt.Shared.BufferFifo
import Mathlib.Algebra.Ring.Nat

/-!
# The ring buffer of fixed size

* `staticFifo_iff` — **a buffer of fixed size is that queue exactly when** its size fits an `int`. The
  source computes the free size with `(int)buf->size`, which is negative for a larger one.
-/

namespace Dlt.Shared

open Dlt.Lib List

variable {size : ℕ}

/-! ## The bounded queue -/

/-- The bytes that the messages of a queue occupy, each with its block header. -/
def usedBytes (q : List (List UInt8)) : ℕ :=
  (q.map fun m => m.length + sizeofDltBufferBlockHead).sum

/-- The queue after a call, on a buffer with `cap` bytes. -/
def boundedNext (cap : ℕ) (q : List (List UInt8)) : BufferOp → List (List UInt8)
  | .push3 data1 data2 data3 =>
      if usedBytes q + (data1.length + data2.length + data3.length + sizeofDltBufferBlockHead) ≤ cap
      then q ++ [data1 ++ data2 ++ data3]
      else q
  | .pull _ => q.tail
  | .copy _ => q
  | .remove => q.tail

/-- What a call returns, on a buffer with `cap` bytes. -/
def boundedAnswer (cap : ℕ) (q : List (List UInt8)) : BufferOp → DltBufferResult
  | .push3 data1 data2 data3 =>
      if usedBytes q + (data1.length + data2.length + data3.length + sizeofDltBufferBlockHead) ≤ cap
      then { ret := dltReturnOk }
      else { ret := dltReturnError }
  | .pull _ | .copy _ =>
      match q with
      | [] => { ret := dltReturnError }
      | m :: _ => { ret := m.length, data := m }
  | .remove =>
      match q with
      | [] => { ret := dltReturnError }
      | m :: _ => { ret := m.length }

/-- What a caller promises: the size sums of a push fit an `int`, and the room for a pulled or copied
message is enough. -/
def StaticCallerOk (q : List (List UInt8)) : BufferOp → Prop
  | .push3 data1 data2 data3 =>
      sizeofDltBufferBlockHead + (data1.length + data2.length + data3.length) < 2147483648
  | .pull maxSize | .copy maxSize => ∀ m ∈ q.head?, (m.length : ℤ) ≤ maxSize
  | .remove => True

theorem length_queueBytes (q : List (List UInt8)) : (queueBytes q).length = usedBytes q := by
  induction q with
  | nil => rfl
  | cons m q ih =>
    rw [queueBytes_cons, length_append, length_block, ih]
    unfold usedBytes
    rw [map_cons, sum_cons]
    omega

/-! ## Resets -/

/-- The conditions of `dlt_buffer_get` for a reset: an offset or the counter is out of range, an empty
buffer has different offsets, or the block at the read offset is not a message. -/
def DltBufferGetResets (buf : DltBuffer) : Prop :=
  (u32 buf.shm.read > buf.size ∨ u32 buf.shm.write > buf.size ∨ buf.shm.count < 0) ∨
    (buf.shm.count = 0 ∧ buf.shm.write ≠ buf.shm.read) ∨
    (buf.shm.count ≠ 0 ∧
      let head := DltBufferBlockHead.ofBytes
        (dltBufferReadBlock buf buf.shm.read sizeofDltBufferBlockHead).1
      dltBufferGetUsed buf < sizeofDltBufferBlockHead ∨ head.head ≠ dltBufferHead ∨
        head.status ≠ 2 ∨ dltBufferGetUsed buf < i32 (sizeofDltBufferBlockHead + head.size))

/-- The conditions for a reset of the buffer by a call. -/
def BufferResets (buf : DltBuffer) : BufferOp → Prop
  | .push3 _ _ _ => u32 buf.shm.read > buf.size ∨ u32 buf.shm.write > buf.size
  | .pull _ | .copy _ | .remove => DltBufferGetResets buf

/-- Under these conditions the buffer is reset and the call fails. -/
theorem dltBufferGet_of_resets {buf : DltBuffer} (h : DltBufferGetResets buf) (malloc : Malloc)
    (toData : Bool) (maxSize : ℤ) (delete : Bool) :
    dltBufferGet malloc buf toData maxSize delete =
      (dltBufferReset buf, { ret := dltReturnError }) := by
  unfold dltBufferGet
  rcases h with hrange | ⟨hcount, hne⟩ | ⟨hcount, hblock⟩
  · rw [if_pos hrange]
  · split_ifs with hrange
    · rfl
    · rfl
  · by_cases hrange : u32 buf.shm.read > buf.size ∨ u32 buf.shm.write > buf.size ∨ buf.shm.count < 0
    · rw [if_pos hrange]
    rw [if_neg hrange, if_neg hcount]
    by_cases hused : dltBufferGetUsed buf < sizeofDltBufferBlockHead
    · rw [if_pos hused]
    rw [if_neg hused]
    dsimp only at hblock ⊢
    split_ifs with hhead hstatus hfull hdelete
    · rfl
    · rfl
    · rfl
    all_goals
      rcases hblock with h | h | h | h
      · exact absurd h hused
      · exact absurd h hhead
      · exact absurd h hstatus
      · exact absurd h hfull

/-! ## The invariant -/

/-- A buffer that does not grow leaves the growing loop at its first round. -/
theorem dltBufferPushGrow_static (malloc : Malloc) {buf : DltBuffer} (hstep : buf.stepSize = 0)
    (needed count : ℤ) : dltBufferPushGrow malloc needed count buf =
      (buf, decide (needed ≤ dltBufferFreeSize buf count)) := by
  have hfail : dltBufferIncreaseSize malloc buf = (buf, dltReturnError) := if_pos hstep
  have hne : ¬ dltReturnError = dltReturnOk := by decide
  unfold dltBufferPushGrow
  rw [hfail]
  by_cases hfits : needed ≤ dltBufferFreeSize buf count
  · rw [if_neg (by omega), decide_eq_true hfits]
  · rw [if_pos (by omega), dif_neg hne, decide_eq_false hfits]

/-- **The invariant**: the queue is stored in a buffer that neither grows nor shrinks. -/
structure StaticBuffer (buf : DltBuffer) (q : List (List UInt8)) : Prop where
  queued : Queued buf q
  step_eq : buf.stepSize = 0
  min_eq : buf.size + sizeofDltBufferHead = buf.minSize

namespace StaticBuffer

variable {buf : DltBuffer} {q : List (List UInt8)}

theorem of_queued (h : StaticBuffer buf q) {q' : List (List UInt8)} {shm : DltBufferHead}
    {mem : List UInt8} (h' : Queued { buf with shm, mem } q') :
    StaticBuffer { buf with shm, mem } q' := ⟨h', h.step_eq, h.min_eq⟩

theorem usedSize_eq (h : StaticBuffer buf q) : dltBufferGetUsedSize buf = usedBytes q := by
  unfold dltBufferGetUsedSize
  by_cases hq : q = []
  · rw [if_pos (h.queued.count_eq_zero_iff.mpr hq), hq]
    rfl
  · rw [if_neg (mt h.queued.count_eq_zero_iff.mp hq), h.queued.usedSize_eq hq, length_queueBytes]

/-- **Pushing** succeeds exactly when the message is admitted, and a failing push changes nothing. -/
theorem push3_eq (h : StaticBuffer buf q) (malloc : Malloc) {data1 data2 data3 : List UInt8}
    (caller : StaticCallerOk q (.push3 data1 data2 data3)) :
    dltBufferPush3 malloc buf data1 data2 data3 =
      if usedBytes q + (data1.length + data2.length + data3.length + sizeofDltBufferBlockHead) ≤
          buf.size
      then (dltBufferPushWrite buf data1 data2 data3, dltReturnOk)
      else (buf, dltReturnError) := by
  obtain ⟨hread, hwrite⟩ := h.queued.offsets_le
  have hfree := h.queued.freeSize_eq
  rw [length_queueBytes] at hfree
  unfold dltBufferPush3
  rw [if_neg (by omega)]
  simp only
  rw [i32_natCast caller, dltBufferPushGrow_static malloc h.step_eq, hfree]
  by_cases hfits : usedBytes q + (data1.length + data2.length + data3.length +
      sizeofDltBufferBlockHead) ≤ buf.size
  · rw [if_pos hfits, decide_eq_true (by omega), if_pos rfl]
  · rw [if_neg hfits, decide_eq_false (by omega), if_neg Bool.false_ne_true]

/-- **Getting the oldest message** from a buffer that does not shrink. -/
theorem get_cons {m : List UInt8} (h : StaticBuffer buf (m :: q)) (malloc : Malloc) (toData : Bool)
    (maxSize : ℤ) (delete : Bool) :
    (dltBufferGet malloc buf toData maxSize delete).2 =
        { ret := m.length, data := if toData ∧ maxSize ≠ 0 then m else [] } ∧
      (dltBufferGet malloc buf toData maxSize delete).1.size = buf.size ∧
      StaticBuffer (dltBufferGet malloc buf toData maxSize delete).1
        (if delete then q else m :: q) := by
  obtain ⟨hres, shm, hnext, heq⟩ := dltBufferGet_cons malloc h.queued toData maxSize delete
  refine ⟨hres, ?_⟩
  have hsame : dltBufferMinimizeSize malloc { buf with shm } = ({ buf with shm }, dltReturnOk) :=
    if_pos h.min_eq
  rw [heq, hsame]
  have hstatic : StaticBuffer { buf with shm } q := h.of_queued hnext
  cases delete with
  | false => exact ⟨rfl, h⟩
  | true =>
    simp only [if_true, ite_self]
    exact ⟨trivial, hstatic⟩

/-- With enough room, a pull or a copy answers as the queue does. -/
theorem get_answer (h : StaticBuffer buf q) (malloc : Malloc) {maxSize : ℤ}
    (hroom : ∀ m ∈ q.head?, (m.length : ℤ) ≤ maxSize) (delete : Bool) :
    (dltBufferGet malloc buf true maxSize delete).2 = boundedAnswer buf.size q (.pull maxSize) ∧
      (dltBufferGet malloc buf true maxSize delete).1.size = buf.size ∧
      StaticBuffer (dltBufferGet malloc buf true maxSize delete).1
        (if delete then q.tail else q) := by
  cases q with
  | nil =>
    rw [dltBufferGet_nil h.queued]
    exact ⟨rfl, rfl, by simpa using h⟩
  | cons m q =>
    obtain ⟨hres, hsize, hnext⟩ := h.get_cons malloc true maxSize delete
    refine ⟨?_, hsize, hnext⟩
    have hle : (m.length : ℤ) ≤ maxSize := hroom m rfl
    have hdata : (if true = true ∧ maxSize ≠ 0 then m else []) = m := by
      split_ifs with hmax
      · rfl
      · exact (eq_nil_of_length_eq_zero (by simp at hmax; omega)).symm
    rw [hres, hdata]
    rfl

/-- **One call**: the answer is that of the bounded queue, and the buffer then stores its next
state. -/
theorem step (h : StaticBuffer buf q) (malloc : Malloc) {op : BufferOp}
    (caller : StaticCallerOk q op) :
    (bufferStep malloc buf op).2 = boundedAnswer buf.size q op ∧
      (bufferStep malloc buf op).1.size = buf.size ∧
      StaticBuffer (bufferStep malloc buf op).1 (boundedNext buf.size q op) := by
  cases op with
  | push3 data1 data2 data3 =>
    simp only [bufferStep, boundedAnswer, boundedNext, h.push3_eq malloc caller]
    split_ifs with hfits
    · obtain ⟨shm, mem, heq, hnext⟩ := dltBufferPushWrite_queued h.queued data1 data2 data3
        (by rw [length_queueBytes]; omega)
      rw [heq]
      exact ⟨rfl, rfl, h.of_queued hnext⟩
    · exact ⟨rfl, rfl, h⟩
  | pull maxSize => exact h.get_answer malloc caller true
  | copy maxSize =>
    obtain ⟨hres, hnext⟩ := h.get_answer malloc caller false
    refine ⟨?_, hnext⟩
    cases q with
    | nil => exact hres
    | cons m q => exact hres
  | remove =>
    cases q with
    | nil =>
      have hget : dltBufferRemove malloc buf = (buf, { ret := dltReturnError }) :=
        dltBufferGet_nil h.queued false 0 true
      unfold bufferStep
      dsimp only
      rw [hget]
      exact ⟨rfl, rfl, h⟩
    | cons m q => exact h.get_cons malloc false 0 true

theorem not_resets (h : StaticBuffer buf q) (op : BufferOp) : ¬ BufferResets buf op := by
  obtain ⟨hread, hwrite⟩ := h.queued.offsets_le
  have hget : ¬ DltBufferGetResets buf := by
    intro hresets
    -- a reset fails, a get from a queue that is not empty does not
    have hreset := dltBufferGet_of_resets hresets zeroMalloc false 0 false
    cases q with
    | nil =>
      have hcount := h.queued.count_eq_zero_iff.mpr rfl
      rcases hresets with hrange | ⟨-, hne⟩ | ⟨hne, -⟩
      · omega
      · exact hne h.queued.write_eq_read
      · exact hne hcount
    | cons m q =>
      have hres := (h.get_cons zeroMalloc false 0 false).1
      rw [hreset] at hres
      have hret : dltReturnError = (m.length : ℤ) := congrArg DltBufferResult.ret hres
      rw [dltReturnError] at hret
      omega
  cases op with
  | push3 data1 data2 data3 =>
    rintro (h | h)
    · omega
    · omega
  | pull maxSize => exact hget
  | copy maxSize => exact hget
  | remove => exact hget

end StaticBuffer

/-! ## Runs -/

/-- The pairs of a buffer and the queue it stands for that calls reach from `init`, when every call
meets the promise of its caller. -/
inductive StaticReach (init : DltBuffer) : DltBuffer → List (List UInt8) → Prop
  /-- The initialised buffer stands for the empty queue. -/
  | init : StaticReach init init []
  | step {buf : DltBuffer} {q : List (List UInt8)} (reach : StaticReach init buf q)
      (malloc : Malloc) {op : BufferOp} (caller : StaticCallerOk q op) :
      StaticReach init (bufferStep malloc buf op).1 (boundedNext init.size q op)

/-- A buffer that behaves as the bounded queue `q`. -/
structure StaticCorrect (cap : ℕ) (buf : DltBuffer) (q : List (List UInt8)) : Prop where
  used : dltBufferGetUsedSize buf = usedBytes q
  /-- Every call answers as the queue does. -/
  answer : ∀ (malloc : Malloc) (op : BufferOp), StaticCallerOk q op →
    (bufferStep malloc buf op).2 = boundedAnswer cap q op
  /-- A failing push changes nothing. -/
  failed : ∀ (malloc : Malloc) (data1 data2 data3 : List UInt8),
    StaticCallerOk q (.push3 data1 data2 data3) →
      (dltBufferPush3 malloc buf data1 data2 data3).2 ≠ dltReturnOk →
        (dltBufferPush3 malloc buf data1 data2 data3).1 = buf
  no_reset : ∀ op, StaticCallerOk q op → ¬ BufferResets buf op

/-- The buffer behaves as a bounded queue in every run from its initialisation. -/
def StaticFifo (size : ℕ) : Prop :=
  ∀ buf q, StaticReach (dltBufferInitStaticServer size) buf q →
    StaticCorrect (dltBufferInitStaticServer size).size buf q

theorem dltBufferInitStaticServer_size (hhead : sizeofDltBufferHead < size) (hu : size < 4294967296) :
    (dltBufferInitStaticServer size).size = size - sizeofDltBufferHead := by
  have hsize : (dltBufferInitStaticServer size).size = u32 ((size : ℤ) - sizeofDltBufferHead) := rfl
  rw [hsize, u32_of_nonneg (by omega) (by omega)]
  omega

theorem dltBufferInitStaticServer_static (hhead : sizeofDltBufferHead < size)
    (hint : size - sizeofDltBufferHead < 2147483648) : StaticBuffer (dltBufferInitStaticServer size) [] := by
  have hsize := dltBufferInitStaticServer_size hhead (by unfold sizeofDltBufferHead at hint; omega)
  refine ⟨⟨by omega, rfl, 0, rfl, ⟨?_, Nat.zero_le _, Ring.Holds.nil _ _⟩, rfl⟩, rfl, ?_⟩
  · unfold dltBufferInitStaticServer
    rw [length_replicate]
  · rw [hsize]
    change size - sizeofDltBufferHead + sizeofDltBufferHead = size
    omega

theorem StaticReach.static {init buf : DltBuffer} {q : List (List UInt8)}
    (h : StaticReach init buf q) (hinit : StaticBuffer init []) :
    StaticBuffer buf q ∧ buf.size = init.size := by
  induction h with
  | init => exact ⟨hinit, rfl⟩
  | step reach malloc caller ih =>
    obtain ⟨hstatic, hsize⟩ := ih
    obtain ⟨-, hsize', hnext⟩ := hstatic.step malloc caller
    rw [hsize] at hnext hsize'
    exact ⟨hnext, hsize'⟩

/-- A buffer that stores its queue behaves as the bounded queue. -/
theorem StaticBuffer.correct {buf : DltBuffer} {q : List (List UInt8)} (h : StaticBuffer buf q) :
    StaticCorrect buf.size buf q := by
  refine ⟨h.usedSize_eq, fun malloc op caller => (h.step malloc caller).1, ?_,
    fun op _ => h.not_resets op⟩
  intro malloc data1 data2 data3 caller hfailed
  rw [h.push3_eq malloc caller] at hfailed ⊢
  split_ifs at hfailed ⊢ with hfits
  · exact absurd rfl hfailed
  · rfl

/-- With a data area larger than any `int` an empty message is refused by the empty buffer. -/
theorem dltBufferInitStaticServer_refuses (hhead : sizeofDltBufferHead < size) (hu : size < 4294967296)
    (hint : 2147483648 ≤ size - sizeofDltBufferHead) :
    (dltBufferPush3 zeroMalloc (dltBufferInitStaticServer size) [] [] []).2 = dltReturnError := by
  have hsize := dltBufferInitStaticServer_size hhead hu
  have hneeded : i32 (sizeofDltBufferBlockHead + (([] : List UInt8).length +
      ([] : List UInt8).length + ([] : List UInt8).length) : ℕ) = 12 := rfl
  have hfree : dltBufferFreeSize (dltBufferInitStaticServer size) 0 =
      i32 (i32 (dltBufferInitStaticServer size).size - 0 + 0) := rfl
  have hnegative : ¬ 12 ≤ i32 (i32 (size - sizeofDltBufferHead : ℕ) - 0 + 0) := by
    unfold sizeofDltBufferHead at hint ⊢
    unfold i32
    split_ifs <;> omega
  have hpointer : ¬ (u32 0 > size - sizeofDltBufferHead ∨ u32 0 > size - sizeofDltBufferHead) := by
    have hzero : u32 0 = 0 := rfl
    omega
  have hshm : (dltBufferInitStaticServer size).shm = { write := 0, read := 0, count := 0 } := rfl
  unfold dltBufferPush3
  rw [hsize, hshm, if_neg hpointer, hneeded]
  simp only
  rw [dltBufferPushGrow_static zeroMalloc rfl, hfree, hsize, decide_eq_false hnegative,
    if_neg Bool.false_ne_true]

/-- **A buffer of fixed size is the bounded queue exactly when** its data area fits an `int`. -/
theorem staticFifo_iff {size : ℕ} (hhead : sizeofDltBufferHead < size) (hu : size < 4294967296) :
    StaticFifo size ↔ size - sizeofDltBufferHead < 2147483648 := by
  constructor
  · intro hfifo
    by_contra hlarge
    have hanswer := (hfifo _ _ .init).answer zeroMalloc (.push3 [] [] [])
      (by unfold StaticCallerOk sizeofDltBufferBlockHead; decide)
    have hrefused := dltBufferInitStaticServer_refuses hhead hu (by omega)
    rw [dltBufferInitStaticServer_size hhead hu] at hanswer
    simp only [bufferStep, boundedAnswer, hrefused] at hanswer
    rw [if_pos (by
      simp only [usedBytes, map_nil, sum_nil, length_nil, sizeofDltBufferBlockHead]
      omega)] at hanswer
    exact absurd (congrArg DltBufferResult.ret hanswer) (by decide)
  · intro hint buf q reach
    obtain ⟨hstatic, hsize⟩ := reach.static (dltBufferInitStaticServer_static hhead hint)
    rw [← hsize]
    exact hstatic.correct

theorem staticFifo_iff_sample : StaticFifo 100 :=
  (staticFifo_iff (by decide) (by decide)).mpr (by decide)

/-- **A larger buffer refuses every message**: of its two gigabytes not twelve bytes count as free. -/
theorem not_staticFifo : ¬ StaticFifo 2147483660 := by
  intro hfifo
  have hanswer := (hfifo _ _ .init).answer zeroMalloc (.push3 [] [] [])
    (by unfold StaticCallerOk sizeofDltBufferBlockHead; decide)
  have hrefused : (dltBufferPush3 zeroMalloc (dltBufferInitStaticServer 2147483660) [] [] []).2 =
      dltReturnError :=
    dltBufferInitStaticServer_refuses (by decide) (by decide) (by decide)
  rw [dltBufferInitStaticServer_size (by decide) (by decide)] at hanswer
  simp only [bufferStep, boundedAnswer, hrefused] at hanswer
  rw [if_pos (by decide)] at hanswer
  exact absurd (congrArg DltBufferResult.ret hanswer) (by decide)

end Dlt.Shared
