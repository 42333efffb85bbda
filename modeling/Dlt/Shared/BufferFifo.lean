import Dlt.Shared.BufferLayout

/-!
# The growing ring buffer as a queue

* `dltBuffer_queue_of_growthSafe` — **the refinement**: in every run of growth-safe calls the buffer
  answers as the queue does. `dltBuffer_not_queue` is a run that loses a message without that
  restriction.
-/

namespace Dlt.Shared

open Dlt.Lib List Ring

/-! ## Pushing -/

section push

variable {buf : DltBuffer} {q : List (List UInt8)} {malloc : Malloc}

/-- The growing loop keeps the messages of a buffer that is not empty, and it ends with room for the
message unless it failed. -/
theorem dltBufferPushGrow_layout (malloc : Malloc) (needed : ℤ) (h : Layout buf q)
    (hq : q ≠ []) :
    Layout (dltBufferPushGrow malloc needed q.length buf).1 q ∧
      ((dltBufferPushGrow malloc needed q.length buf).2 = true →
        needed ≤ ((dltBufferPushGrow malloc needed q.length buf).1.size : ℤ) -
          (queueBytes q).length) := by
  fun_induction dltBufferPushGrow malloc needed q.length buf with
  | case1 buf hlt hok ih => exact ih (h.increaseSize hq malloc)
  | case2 buf hlt hfail => exact ⟨h.increaseSize hq malloc, by simp⟩
  | case3 buf hfits =>
    have hfree := h.queued.freeSize_eq
    rw [h.count_eq] at hfree
    exact ⟨h, fun _ => by simp only; omega⟩

/-- The loop on an empty buffer, when the message fits or the buffer cannot grow. -/
theorem dltBufferPushGrow_empty (malloc : Malloc) (h : Layout buf []) {needed : ℤ}
    (hsafe : needed ≤ buf.size ∨ buf.maxSize < buf.size + sizeofDltBufferHead + buf.stepSize) :
    (dltBufferPushGrow malloc needed 0 buf).1 = buf ∧
      ((dltBufferPushGrow malloc needed 0 buf).2 = true → needed ≤ buf.size) := by
  have hfree := h.queued.freeSize_eq
  rw [h.count_eq] at hfree
  simp only [length_nil, Nat.cast_zero, queueBytes_nil, sub_zero] at hfree
  unfold dltBufferPushGrow
  rw [hfree]
  by_cases hfits : (buf.size : ℤ) < needed
  · have hfull : buf.maxSize < buf.size + sizeofDltBufferHead + buf.stepSize := by omega
    have hfail : dltBufferIncreaseSize malloc buf = (buf, dltReturnError) := by
      unfold dltBufferIncreaseSize
      rw [if_neg (by have := h.step_pos; omega), if_pos hfull]
    simp [hfits, hfail]
  · simp only [hfits, if_false, true_and]
    omega

/-- Writing behind the bytes that are stored: the header and the three parts follow one behind the other. -/
theorem dltBufferPushWrite_stores {c : List UInt8} {r : ℕ} (hsize : buf.size < 2147483648) (hst : Stores buf r c)
    (hwrite : buf.shm.write = (advance buf.size r c.length : ℕ)) (data1 data2 data3 : List UInt8)
    (hroom : c.length + (sizeofDltBufferBlockHead + (data1.length + data2.length + data3.length)) ≤ buf.size) :
    ∃ mem, dltBufferPushWrite buf data1 data2 data3 = { buf with
        shm := { buf.shm with
          write := (advance buf.size r (c ++ block (data1 ++ data2 ++ data3)).length : ℕ)
          count := i32 (buf.shm.count + 1) }
        mem } ∧
      Stores { buf with mem } r (c ++ block (data1 ++ data2 ++ data3)) := by
  set total := data1.length + data2.length + data3.length with htotal
  have hhead : ({ head := dltBufferHead, status := 2, size := i32 (total : ℕ) } :
      DltBufferBlockHead) = blockHead total := by rw [i32_natCast (by omega)]; rfl
  obtain ⟨mem0, heq0, hst0⟩ := writeBlock_stores hst hsize (blockHead total).toBytes
    (by rw [length_toBytes_blockHead]; omega)
  obtain ⟨mem1, heq1, hst1⟩ := writePart_stores hst0 hsize data1
    (by simp only [length_append, length_toBytes_blockHead]; omega)
  obtain ⟨mem2, heq2, hst2⟩ := writePart_stores hst1 hsize data2
    (by simp only [length_append, length_toBytes_blockHead]; omega)
  obtain ⟨mem3, heq3, hst3⟩ := writePart_stores hst2 hsize data3
    (by simp only [length_append, length_toBytes_blockHead]; omega)
  have hbytes : c ++ (blockHead total).toBytes ++ data1 ++ data2 ++ data3 =
      c ++ block (data1 ++ data2 ++ data3) := by
    rw [block]
    simp [htotal, Nat.add_assoc]
  rw [hbytes] at hst3 heq3
  unfold dltBufferPushWrite
  simp only [← htotal, hhead, hwrite, heq0, heq1, heq2, heq3]
  exact ⟨_, rfl, hst3.length_mem, hst3.le_size, hst3.holds⟩

/-- Writing behind the queue appends the message and keeps the sizes. -/
theorem dltBufferPushWrite_queued (h : Queued buf q) (data1 data2 data3 : List UInt8)
    (hroom : (queueBytes q).length +
      (sizeofDltBufferBlockHead + (data1.length + data2.length + data3.length)) ≤ buf.size) :
    ∃ shm mem, dltBufferPushWrite buf data1 data2 data3 = { buf with shm, mem } ∧
      Queued { buf with shm, mem } (q ++ [data1 ++ data2 ++ data3]) := by
  have hsize := h.size_lt
  obtain ⟨r, hread, hst, hwrite⟩ := h.stores
  obtain ⟨mem, heq, hst'⟩ := dltBufferPushWrite_stores hsize hst hwrite data1 data2 data3 hroom
  have hcount : i32 (buf.shm.count + 1) = (q ++ [data1 ++ data2 ++ data3]).length := by
    have hle := length_le_length_queueBytes q
    unfold sizeofDltBufferBlockHead at hle hroom
    rw [h.count_eq, i32_of_range (by omega) (by omega)]
    simp
  rw [← queueBytes_concat] at heq hst'
  exact ⟨_, _, heq, hsize, hcount, r, hread, ⟨hst'.length_mem, hst'.le_size, hst'.holds⟩, rfl⟩

/-- **Pushing**: the message is queued, or the call fails and the queue stays. -/
theorem dltBufferPush3_layout (malloc : Malloc) (h : Layout buf q)
    {data1 data2 data3 : List UInt8}
    (hlen : sizeofDltBufferBlockHead + (data1.length + data2.length + data3.length) < 2147483648)
    (hsafe : q = [] →
      sizeofDltBufferBlockHead + (data1.length + data2.length + data3.length) ≤ buf.size ∨
        buf.maxSize < buf.size + sizeofDltBufferHead + buf.stepSize) :
    (dltBufferPush3 malloc buf data1 data2 data3).2 = dltReturnOk ∧
        Layout (dltBufferPush3 malloc buf data1 data2 data3).1 (q ++ [data1 ++ data2 ++ data3]) ∨
      (dltBufferPush3 malloc buf data1 data2 data3).2 = dltReturnError ∧
        Layout (dltBufferPush3 malloc buf data1 data2 data3).1 q := by
  obtain ⟨hread, hwrite⟩ := h.queued.offsets_le
  unfold dltBufferPush3
  rw [if_neg (by omega), i32_natCast hlen]
  generalize hneeded : sizeofDltBufferBlockHead +
    (data1.length + data2.length + data3.length) = needed at hlen hsafe ⊢
  have hgrow : Layout (dltBufferPushGrow malloc needed buf.shm.count buf).1 q ∧
      ((dltBufferPushGrow malloc needed buf.shm.count buf).2 = true →
        (needed : ℤ) ≤ ((dltBufferPushGrow malloc needed buf.shm.count buf).1.size : ℤ) -
          (queueBytes q).length) := by
    rw [h.count_eq]
    by_cases hq : q = []
    · subst hq
      obtain ⟨hsame, hfits⟩ := dltBufferPushGrow_empty malloc h
        (show (needed : ℤ) ≤ buf.size ∨ _ by have := hsafe rfl; omega)
      simp only [length_nil, Nat.cast_zero, queueBytes_nil, sub_zero]
      rw [hsame]
      exact ⟨h, hfits⟩
    · exact dltBufferPushGrow_layout malloc _ h hq
  cases hfits : (dltBufferPushGrow malloc needed buf.shm.count buf).2 with
  | false =>
    right
    simp only [hfits]
    exact ⟨rfl, hgrow.1⟩
  | true =>
    have hroom := hgrow.2 hfits
    left
    simp only [hfits, if_true, true_and]
    obtain ⟨shm, mem, heq, hnext⟩ := dltBufferPushWrite_queued hgrow.1.queued
      data1 data2 data3 (by omega)
    rw [heq]
    exact hgrow.1.of_queued hnext

end push

/-! ## Getting -/

section get

variable {buf : DltBuffer} {q : List (List UInt8)} {m : List UInt8} {malloc : Malloc}

theorem dltBufferMinimizeSize_layout (malloc : Malloc) (h : Layout buf []) :
    Layout (dltBufferMinimizeSize malloc buf).1 [] := by
  unfold dltBufferMinimizeSize
  split_ifs with hmin
  · exact h
  cases hm : malloc buf.minSize with
  | none => exact h
  | some fresh =>
  have hhead := h.head_lt_min
  have hmax := h.min_le
  refine ⟨h.max_lt, ?_, hhead, hmax, h.step_pos, rfl, 0, rfl,
    ⟨by simp, Nat.zero_le _, Ring.Holds.nil _ _⟩, rfl⟩
  change buf.minSize - sizeofDltBufferHead + sizeofDltBufferHead ≤ buf.maxSize
  omega

/-- Removing the oldest message leaves the rest of the queue; an empty buffer is shrunk. -/
theorem dltBufferGetDelete_queued (malloc : Malloc) (h : Queued buf (m :: q)) {r : ℕ}
    (hst : Stores buf r (queueBytes (m :: q)))
    (hwrite : buf.shm.write = (advance buf.size r (queueBytes (m :: q)).length : ℕ)) :
    ∃ shm, Queued { buf with shm } q ∧
      dltBufferGetDelete malloc buf (advance buf.size r (block m).length : ℕ) =
        if q = [] then (dltBufferMinimizeSize malloc { buf with shm }).1 else { buf with shm } := by
  have hlen := hst.length_le
  have hle := length_le_length_queueBytes (m :: q)
  rw [queueBytes_cons, length_append] at hlen hwrite
  have hcount : i32 (buf.shm.count - 1) = q.length := by
    have hsize := h.size_lt
    rw [queueBytes_cons, length_append, length_cons] at hle
    unfold sizeofDltBufferBlockHead at hle
    rw [h.count_eq, length_cons, i32_of_range (by omega) (by omega)]
    omega
  refine ⟨{ buf.shm with
    read := (advance buf.size r (block m).length : ℕ), count := q.length },
    ⟨h.size_lt, rfl, _, rfl, ⟨hst.length_mem, advance_le hst.le_size (by omega), ?_⟩, ?_⟩, ?_⟩
  · have hheld := hst.holds
    rw [queueBytes_cons] at hheld
    have := hheld.advance
    rwa [hst.length_mem] at this
  · change buf.shm.write = _
    rw [hwrite, advance_advance hst.le_size hlen]
  · unfold dltBufferGetDelete
    have hzero : (q.length : ℤ) = 0 ↔ q = [] := by simp
    simp [hcount]

/-- **Getting from an empty buffer** fails and changes nothing. -/
theorem dltBufferGet_nil (h : Queued buf []) (toData : Bool) (maxSize : ℤ) (delete : Bool) :
    dltBufferGet malloc buf toData maxSize delete = (buf, { ret := dltReturnError }) := by
  obtain ⟨hr, hw⟩ := h.offsets_le
  have hcount : buf.shm.count = 0 := h.count_eq_zero_iff.mpr rfl
  unfold dltBufferGet
  rw [if_neg (by omega), if_pos hcount, if_neg (by simpa using h.write_eq_read)]

/-- **Getting the oldest message**: its length is returned, its bytes are written when the caller
asks for them, and it is removed when the caller asks for that. -/
theorem dltBufferGet_cons (malloc : Malloc) (h : Queued buf (m :: q)) (toData : Bool) (maxSize : ℤ)
    (delete : Bool) :
    (dltBufferGet malloc buf toData maxSize delete).2 =
        { ret := m.length, data := if toData ∧ maxSize ≠ 0 then m else [] } ∧
      ∃ shm, Queued { buf with shm } q ∧
        (dltBufferGet malloc buf toData maxSize delete).1 =
          if delete then
            if q = [] then (dltBufferMinimizeSize malloc { buf with shm }).1 else { buf with shm }
          else buf := by
  have hsize := h.size_lt
  obtain ⟨hr, hw⟩ := h.offsets_le
  have hcount : buf.shm.count = q.length + 1 := by rw [h.count_eq, length_cons]; omega
  have hused := h.usedSize_eq (cons_ne_nil m q)
  obtain ⟨r, hread, hst, hwrite⟩ := h.stores
  have hlen := hst.length_le
  have hqlen : (queueBytes (m :: q)).length =
      sizeofDltBufferBlockHead + m.length + (queueBytes q).length := by
    rw [queueBytes_cons, length_append, length_block]
  have hm12 : m.length < 2147483648 - 12 := by unfold sizeofDltBufferBlockHead at hqlen; omega
  -- the block header comes first, then the message
  have hgot : dltBufferReadBlock buf r sizeofDltBufferBlockHead =
      ((blockHead m.length).toBytes,
        ((advance buf.size r sizeofDltBufferBlockHead : ℕ) : ℤ)) := by
    rw [readBlock_stores hst hsize (by omega), queueBytes_cons, block, append_assoc,
      take_left' (length_toBytes_blockHead m.length)]
  have hst' : Stores buf (advance buf.size r sizeofDltBufferBlockHead)
      (m ++ queueBytes q) := by
    refine ⟨hst.length_mem, advance_le hst.le_size (by omega), ?_⟩
    have hheld := hst.holds
    rw [queueBytes_cons, block, append_assoc] at hheld
    have := hheld.advance
    rwa [hst.length_mem, length_toBytes_blockHead] at this
  have hadv : advance buf.size (advance buf.size r sizeofDltBufferBlockHead) m.length =
      advance buf.size r (block m).length := by
    rw [advance_advance hst.le_size (by omega), length_block]
  have hout : dltBufferGetData buf (advance buf.size r sizeofDltBufferBlockHead : ℕ) m.length
      toData maxSize = (if toData ∧ maxSize ≠ 0 then m else [],
        ((advance buf.size r (block m).length : ℕ) : ℤ)) := by
    have hpos := hst'.le_size
    generalize advance buf.size r sizeofDltBufferBlockHead = p at hst' hadv hpos ⊢
    rw [← hadv]
    unfold dltBufferGetData
    split_ifs with hdata hfits
    · rw [u32_natCast (by omega), readBlock_stores hst' hsize (by simp)]
      simp
    · rw [u32_of_nonneg (by omega) (by omega)] at hfits
      unfold advance
      rw [if_pos (by omega), i32_of_range (by omega) (by omega), Nat.cast_add]
    · rw [u32_of_nonneg (by omega) (by omega)] at hfits
      unfold advance
      rw [if_neg (by omega), i32_natCast hsize, i32_of_range (by omega) (by omega)]
      congr 1
      omega
  unfold dltBufferGet
  rw [if_neg (by omega), if_neg (by omega), hused, if_neg (by omega)]
  simp only [hread, hgot, ofBytes_toBytes_blockHead (show m.length < 2147483648 by omega)]
  rw [if_neg (by simp [blockHead]), if_neg (by simp [blockHead]),
    if_neg (by
      simp only [blockHead]
      rw [i32_of_range (by unfold sizeofDltBufferBlockHead; omega)
        (by unfold sizeofDltBufferBlockHead; omega)]
      omega)]
  have hsizeField : (blockHead m.length).size = m.length := rfl
  rw [hsizeField, hout]
  obtain ⟨shm, hnext, heq⟩ := dltBufferGetDelete_queued malloc h hst hwrite
  exact ⟨rfl, shm, hnext, by simp only [heq]⟩

theorem dltBufferGet_layout (malloc : Malloc) (h : Layout buf (m :: q)) (toData : Bool)
    (maxSize : ℤ) (delete : Bool) :
    (dltBufferGet malloc buf toData maxSize delete).2 =
        { ret := m.length, data := if toData ∧ maxSize ≠ 0 then m else [] } ∧
      Layout (dltBufferGet malloc buf toData maxSize delete).1 (if delete then q else m :: q) := by
  obtain ⟨hres, shm, hnext, heq⟩ := dltBufferGet_cons malloc h.queued toData maxSize delete
  refine ⟨hres, ?_⟩
  have hlayout : Layout { buf with shm } q := h.of_queued hnext
  rw [heq]
  split_ifs with hdelete hq
  · subst hq
    exact dltBufferMinimizeSize_layout malloc hlayout
  · exact hlayout
  · exact h

end get

/-! ## Runs -/

/-- The calls on a ring buffer. -/
inductive BufferOp
  /-- `dlt_buffer_push3`. -/
  | push3 (data1 data2 data3 : List UInt8)
  /-- `dlt_buffer_pull`. -/
  | pull (maxSize : ℤ)
  /-- `dlt_buffer_copy`. -/
  | copy (maxSize : ℤ)
  /-- `dlt_buffer_remove`. -/
  | remove

/-- One call: the buffer after it and what it returned. -/
def bufferStep (malloc : Malloc) (buf : DltBuffer) : BufferOp → DltBuffer × DltBufferResult
  | .push3 data1 data2 data3 =>
      ((dltBufferPush3 malloc buf data1 data2 data3).1,
        { ret := (dltBufferPush3 malloc buf data1 data2 data3).2 })
  | .pull maxSize => dltBufferPull malloc buf maxSize
  | .copy maxSize => dltBufferCopy malloc buf maxSize
  | .remove => dltBufferRemove malloc buf

/-- The queue after a call that returned `ret`: an accepted push appends its message, a pull or a
remove takes the oldest one. -/
def queueNext (q : List (List UInt8)) (op : BufferOp) (ret : ℤ) : List (List UInt8) :=
  match op with
  | .push3 data1 data2 data3 =>
      if ret = dltReturnOk then q ++ [data1 ++ data2 ++ data3] else q
  | .pull _ => q.tail
  | .copy _ => q
  | .remove => q.tail

/-- The answer of a queue: a push succeeds or fails, and the other calls return the length of the
oldest message, with its bytes where they are asked for. -/
def QueueAnswer (q : List (List UInt8)) (op : BufferOp) (res : DltBufferResult) : Prop :=
  match op, q with
  | .push3 _ _ _, _ => res.ret = dltReturnOk ∨ res.ret = dltReturnError
  | .remove, m :: _ => res.ret = m.length
  | _, m :: _ => res = { ret := m.length, data := m }
  | _, [] => res = { ret := dltReturnError }

/-- What a caller promises: a pushed message has at least one byte and its block fits an `int`, and
the room for a pulled or copied message is enough. -/
def CallerOk (q : List (List UInt8)) : BufferOp → Prop
  | .push3 data1 data2 data3 =>
      0 < data1.length + data2.length + data3.length ∧
        sizeofDltBufferBlockHead + (data1.length + data2.length + data3.length) < 2147483648
  | .pull maxSize | .copy maxSize => ∀ m ∈ q.head?, (m.length : ℤ) ≤ maxSize
  | .remove => True

/-- A push into an empty buffer needs no growth, or meets a buffer that cannot grow. -/
def GrowthSafe (buf : DltBuffer) : BufferOp → Prop
  | .push3 data1 data2 data3 =>
      buf.shm.count = 0 →
        sizeofDltBufferBlockHead + (data1.length + data2.length + data3.length) ≤ buf.size ∨
          buf.maxSize < buf.size + sizeofDltBufferHead + buf.stepSize
  | _ => True

/-- The pairs of a buffer and the queue it stands for that a run of calls reaches from `init`, when
every call meets the promise of its caller and the restriction `safe`. -/
inductive BufferReach (safe : DltBuffer → BufferOp → Prop) (init : DltBuffer) :
    DltBuffer → List (List UInt8) → Prop
  /-- The initialised buffer stands for the empty queue. -/
  | init : BufferReach safe init init []
  | step {buf : DltBuffer} {q : List (List UInt8)} {malloc : Malloc} {op : BufferOp}
      (reach : BufferReach safe init buf q) (hm : malloc.Succeeds) (caller : CallerOk q op)
      (hsafe : safe buf op) :
      BufferReach safe init (bufferStep malloc buf op).1
        (queueNext q op (bufferStep malloc buf op).2.ret)

theorem dltBufferInitDynamic_layout {malloc : Malloc} {minSize maxSize stepSize : ℕ}
    (hm : malloc.Succeeds) (hmin : sizeofDltBufferHead < minSize) (hmax : minSize ≤ maxSize)
    (hstep : 0 < stepSize) (hstepMax : stepSize ≤ maxSize) (hint : maxSize < 2147483648) :
    ∃ buf, dltBufferInitDynamic malloc minSize maxSize stepSize = .ok buf ∧ Layout buf [] := by
  obtain ⟨fresh, hfresh⟩ := Option.isSome_iff_exists.mp (hm minSize)
  unfold dltBufferInitDynamic
  rw [if_neg (by omega), if_neg (by omega), if_neg (by omega), hfresh]
  simp only
  rw [if_neg (by omega)]
  refine ⟨_, rfl, hint, ?_, hmin, hmax, hstep, rfl, 0, rfl,
    ⟨by simp, Nat.zero_le _, Ring.Holds.nil _ _⟩, rfl⟩
  change minSize - sizeofDltBufferHead + sizeofDltBufferHead ≤ maxSize
  omega

variable {q : List (List UInt8)}

/-- With enough room, a pull or a copy answers as the queue does. -/
theorem dltBufferGet_answer {buf : DltBuffer} (malloc : Malloc) (h : Layout buf q) {maxSize : ℤ}
    (hroom : ∀ m ∈ q.head?, (m.length : ℤ) ≤ maxSize) (delete : Bool) :
    QueueAnswer q (.pull maxSize) (dltBufferGet malloc buf true maxSize delete).2 ∧
      Layout (dltBufferGet malloc buf true maxSize delete).1 (if delete then q.tail else q) := by
  cases q with
  | nil =>
    rw [dltBufferGet_nil h.queued]
    exact ⟨rfl, by simpa using h⟩
  | cons m q =>
    obtain ⟨hres, hnext⟩ := dltBufferGet_layout malloc h true maxSize delete
    refine ⟨?_, hnext⟩
    have hle : (m.length : ℤ) ≤ maxSize := hroom m rfl
    have hdata : (if true = true ∧ maxSize ≠ 0 then m else []) = m := by
      split_ifs with hmax
      · rfl
      · exact (eq_nil_of_length_eq_zero (by simp at hmax; omega)).symm
    rw [hdata] at hres
    exact hres

/-- **One call**: the answer is the queue's, and the buffer then stores the queue's next state. -/
theorem bufferStep_layout {buf : DltBuffer} (malloc : Malloc) {op : BufferOp} (h : Layout buf q)
    (caller : CallerOk q op) (hsafe : GrowthSafe buf op) :
    QueueAnswer q op (bufferStep malloc buf op).2 ∧
      Layout (bufferStep malloc buf op).1 (queueNext q op (bufferStep malloc buf op).2.ret) := by
  cases op with
  | push3 data1 data2 data3 =>
    have hpush := dltBufferPush3_layout malloc h caller.2
      (fun hq => hsafe (h.queued.count_eq_zero_iff.mpr hq))
    unfold bufferStep queueNext QueueAnswer
    obtain ⟨hret, hnext⟩ | ⟨hret, hnext⟩ := hpush
    · exact ⟨.inl hret, by simpa only [hret, if_true] using hnext⟩
    · refine ⟨.inr hret, ?_⟩
      simp only [hret]
      exact hnext
  | pull maxSize => exact dltBufferGet_answer malloc h caller true
  | copy maxSize =>
    obtain ⟨hres, hnext⟩ := dltBufferGet_answer malloc h caller false
    refine ⟨?_, hnext⟩
    cases q <;> exact hres
  | remove =>
    cases q with
    | nil =>
      have hget : dltBufferRemove malloc buf = (buf, { ret := dltReturnError }) :=
        dltBufferGet_nil h.queued false 0 true
      simp only [bufferStep, hget]
      exact ⟨rfl, h⟩
    | cons m q =>
      obtain ⟨hres, hnext⟩ := dltBufferGet_layout malloc h false 0 true
      exact ⟨congrArg DltBufferResult.ret hres, hnext⟩

/-- Every buffer reached by growth-safe calls stores its queue. -/
theorem BufferReach.layout {init buf : DltBuffer} (h : BufferReach GrowthSafe init buf q) (hinit : Layout init []) :
    Layout buf q := by
  induction h with
  | init => exact hinit
  | step reach hm caller hsafe ih => exact (bufferStep_layout _ ih caller hsafe).2

/-- **The ring buffer is a queue, as long as an empty buffer need not grow**: in every state that
growth-safe calls reach from the initialised buffer, the message counter is the length of the queue
and the next growth-safe call answers as the queue does. -/
theorem dltBuffer_queue_of_growthSafe {malloc : Malloc} {minSize maxSize stepSize : ℕ}
    (hm : malloc.Succeeds) (hmin : sizeofDltBufferHead < minSize) (hmax : minSize ≤ maxSize)
    (hstep : 0 < stepSize) (hstepMax : stepSize ≤ maxSize) (hint : maxSize < 2147483648) :
    ∃ init, dltBufferInitDynamic malloc minSize maxSize stepSize = .ok init ∧
      ∀ buf q, BufferReach GrowthSafe init buf q →
        dltBufferGetMessageCount buf = q.length ∧
          ∀ (malloc : Malloc) (op : BufferOp), malloc.Succeeds → CallerOk q op →
            GrowthSafe buf op → QueueAnswer q op (bufferStep malloc buf op).2 := by
  obtain ⟨init, hok, hlayout⟩ := dltBufferInitDynamic_layout hm hmin hmax hstep hstepMax hint
  refine ⟨init, hok, fun buf q reach => ⟨(reach.layout hlayout).count_eq, ?_⟩⟩
  intro malloc op _ caller hsafe
  exact (bufferStep_layout malloc (reach.layout hlayout) caller hsafe).1

/-- The buffer of the sample runs holds one byte and may grow to 41. -/
def sampleBuffer : DltBuffer :=
  { shm := { write := 0, read := 0, count := 0 }, size := 1, mem := [0],
    minSize := 13, maxSize := 100, stepSize := 40 }

theorem dltBuffer_queue_of_growthSafe_sample :
    ∃ init, dltBufferInitDynamic zeroMalloc 60 100 40 = .ok init ∧
      ∀ buf q, BufferReach GrowthSafe init buf q →
        dltBufferGetMessageCount buf = q.length ∧
          ∀ (malloc : Malloc) (op : BufferOp), malloc.Succeeds → CallerOk q op →
            GrowthSafe buf op → QueueAnswer q op (bufferStep malloc buf op).2 :=
  dltBuffer_queue_of_growthSafe zeroMalloc_succeeds (by decide) (by decide) (by decide)
    (by decide) (by decide)

/-- The sample buffer grows once for a message of one byte and keeps its old byte in front. -/
theorem sampleBuffer_grown :
    (dltBufferPushGrow zeroMalloc 13 0 sampleBuffer) =
      ((dltBufferIncreaseSize zeroMalloc sampleBuffer).1, true) := by
  unfold dltBufferPushGrow
  rw [if_pos (by decide), dif_pos (by decide)]
  unfold dltBufferPushGrow
  rw [if_neg (by decide)]

def sampleBufferPushed : DltBuffer :=
  dltBufferPushWrite (dltBufferIncreaseSize zeroMalloc sampleBuffer).1 [7] [] []

theorem sampleBuffer_push3 :
    dltBufferPush3 zeroMalloc sampleBuffer [7] [] [] = (sampleBufferPushed, dltReturnOk) := by
  have hneeded : i32 ((sizeofDltBufferBlockHead +
      (([7] : List UInt8).length + ([] : List UInt8).length + ([] : List UInt8).length) : ℕ) : ℤ)
        = 13 := by decide
  unfold dltBufferPush3
  have hcount : sampleBuffer.shm.count = 0 := rfl
  rw [if_neg (by decide), hneeded, hcount]
  simp only [sampleBuffer_grown, if_true]
  rfl

/-- **A message is lost**: after one accepted push into the empty buffer the pull fails. -/
theorem dltBuffer_not_queue :
    ¬ ∀ init, dltBufferInitDynamic zeroMalloc 13 100 40 = .ok init →
      ∀ buf q, BufferReach (fun _ _ => True) init buf q →
        ∀ (malloc : Malloc) (op : BufferOp), malloc.Succeeds → CallerOk q op →
          QueueAnswer q op (bufferStep malloc buf op).2 := by
  intro hall
  have reach : BufferReach (fun _ _ => True) sampleBuffer sampleBufferPushed [[7]] := by
    have hstep : BufferReach (fun _ _ => True) sampleBuffer
        (bufferStep zeroMalloc sampleBuffer (.push3 [7] [] [])).1
        (queueNext [] (.push3 [7] [] [])
          (bufferStep zeroMalloc sampleBuffer (.push3 [7] [] [])).2.ret) :=
      .step .init zeroMalloc_succeeds (by simp [CallerOk, sizeofDltBufferBlockHead]) trivial
    simpa [bufferStep, sampleBuffer_push3, queueNext] using hstep
  have hanswer := hall sampleBuffer (by rfl) _ _ reach zeroMalloc (.pull 10) zeroMalloc_succeeds
    (by simp [CallerOk])
  have hlost : (bufferStep zeroMalloc sampleBufferPushed (.pull 10)).2 =
      { ret := dltReturnError } := by decide
  rw [hlost] at hanswer
  simp [QueueAnswer] at hanswer

end Dlt.Shared
