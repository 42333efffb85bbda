import Dlt.Shared.Buffer

/-!
# What the ring buffer stores

The data area of a `DltBuffer` is a ring (`Lib/Ring.lean`), and its contents are the blocks of the
queued messages.

* `Queued buf q` — **the invariant**: the buffer stores `queueBytes q` from `read` on, `write` is
  the position behind them, `count` is the number of messages, and the size fits a C `int`.
* `writeBlock_stores`, `readBlock_stores`, `Layout.increaseSize` — the building blocks of
  `dlt_buffer_push3` and `dlt_buffer_get`.
-/

namespace Dlt.Shared

open Dlt.Lib List Ring

/-! ## Blocks -/

/-- The header that `dlt_buffer_push3` writes in front of a message of `n` bytes. -/
def blockHead (n : ℕ) : DltBufferBlockHead := { head := dltBufferHead, status := 2, size := n }

/-- A message as it lies in the buffer. -/
def block (m : List UInt8) : List UInt8 := (blockHead m.length).toBytes ++ m

/-- A queue of messages as it lies in the buffer, oldest first. -/
def queueBytes (q : List (List UInt8)) : List UInt8 := (q.map block).flatten

@[simp] theorem length_toBytes_blockHead (n : ℕ) :
    (blockHead n).toBytes.length = sizeofDltBufferBlockHead := by
  simp [blockHead, DltBufferBlockHead.toBytes, dltBufferHead, sizeofDltBufferBlockHead]

theorem ofBytes_toBytes_blockHead {n : ℕ} (h : n < 2147483648) :
    DltBufferBlockHead.ofBytes (blockHead n).toBytes = blockHead n := by
  have hsize : ofLeBytes (leBytes 4 n) = n := ofLeBytes_leBytes_of_lt (by omega)
  have htake : (leBytes 4 n).take 4 = leBytes 4 n := take_of_length_le (by simp)
  simp [DltBufferBlockHead.ofBytes, DltBufferBlockHead.toBytes, blockHead, dltBufferHead,
    u32_natCast (show n < 4294967296 by omega), htake, hsize, i32_natCast h]

@[simp] theorem length_block (m : List UInt8) :
    (block m).length = sizeofDltBufferBlockHead + m.length := by simp [block]

@[simp] theorem queueBytes_nil : queueBytes [] = [] := rfl

@[simp] theorem queueBytes_cons (m : List UInt8) (q : List (List UInt8)) :
    queueBytes (m :: q) = block m ++ queueBytes q := rfl

theorem queueBytes_concat (q : List (List UInt8)) (m : List UInt8) :
    queueBytes (q ++ [m]) = queueBytes q ++ block m := by simp [queueBytes]

/-- Only the empty queue occupies no bytes: every block has a header. -/
theorem length_queueBytes_pos {q : List (List UInt8)} (h : q ≠ []) :
    0 < (queueBytes q).length := by
  cases q with
  | nil => exact absurd rfl h
  | cons m q => simp [sizeofDltBufferBlockHead]

theorem length_le_length_queueBytes (q : List (List UInt8)) :
    sizeofDltBufferBlockHead * q.length ≤ (queueBytes q).length := by
  induction q with
  | nil => simp
  | cons m q ih =>
    rw [queueBytes_cons, length_append, length_block, length_cons, Nat.mul_succ]
    omega

/-! ## Copies over the wrap -/

/-- The data area holds the bytes `c` from position `r` on. -/
structure Stores (buf : DltBuffer) (r : ℕ) (c : List UInt8) : Prop where
  /-- The data area has the announced size. -/
  length_mem : buf.mem.length = buf.size
  le_size : r ≤ buf.size
  holds : Ring.Holds buf.mem r c

namespace Stores

variable {buf : DltBuffer} {r : ℕ} {c : List UInt8}

theorem length_le (h : Stores buf r c) : c.length ≤ buf.size := h.length_mem ▸ h.holds.length_le

end Stores

/-- `dlt_buffer_write_block` writes to the ring. -/
theorem dltBufferWriteBlock_eq {buf : DltBuffer} (hmem : buf.mem.length = buf.size)
    (hsize : buf.size < 2147483648) {w : ℕ} (hw : w ≤ buf.size) {data : List UInt8}
    (hd : data.length ≤ buf.size) :
    dltBufferWriteBlock buf w data =
      ({ buf with mem := Ring.write buf.mem w data },
        ((advance buf.size w data.length : ℕ) : ℤ)) := by
  have hu : u32 w = w := u32_natCast (by omega)
  have hu' : u32 ((w : ℤ) + (data.length : ℤ)) = w + data.length := by
    rw [u32_of_nonneg (by omega) (by omega)]; omega
  unfold dltBufferWriteBlock Ring.write advance
  simp only [hu, hu', hd, hw, hmem, Int.toNat_natCast, if_true]
  split_ifs with h
  · rw [i32_of_range (by omega) (by omega), Nat.cast_add]
  · rw [i32_of_range (by omega) (by omega)]
    congr 1
    omega

section

variable {buf : DltBuffer} {r : ℕ} {c : List UInt8} (h : Stores buf r c) (hsize : buf.size < 2147483648)
include h hsize

/-- **Writing behind the contents** appends to them and advances the position. -/
theorem writeBlock_stores (data : List UInt8) (hfit : c.length + data.length ≤ buf.size) :
    ∃ mem, dltBufferWriteBlock buf (advance buf.size r c.length : ℕ) data =
        ({ buf with mem }, ((advance buf.size r (c ++ data).length : ℕ) : ℤ)) ∧
      Stores { buf with mem } r (c ++ data) := by
  have hmem := h.length_mem
  have hw : advance buf.size r c.length ≤ buf.size := advance_le h.le_size h.length_le
  have hr := h.le_size
  refine ⟨Ring.write buf.mem (advance buf.size r c.length) data, ?_, ⟨?_, hr, ?_⟩⟩
  · rw [dltBufferWriteBlock_eq hmem hsize hw (by omega), advance_advance hr hfit,
      length_append]
  · exact (length_write (by omega) (by omega)).trans hmem
  · have hwritten := h.holds.write (by omega : r ≤ buf.mem.length) data (by omega)
    rwa [hmem] at hwritten

theorem writePart_stores (data : List UInt8) (hfit : c.length + data.length ≤ buf.size) :
    ∃ mem, dltBufferWritePart (buf, ((advance buf.size r c.length : ℕ) : ℤ)) data =
        ({ buf with mem }, ((advance buf.size r (c ++ data).length : ℕ) : ℤ)) ∧
      Stores { buf with mem } r (c ++ data) := by
  unfold dltBufferWritePart
  by_cases hd : data = []
  · subst hd
    exact ⟨buf.mem, by simp, by simpa using h⟩
  · rw [if_pos (by simpa using hd)]
    exact writeBlock_stores h hsize data hfit

/-- `dlt_buffer_read_block` reads from the ring. -/
theorem readBlock_stores {n : ℕ} (hn : n ≤ c.length) :
    dltBufferReadBlock buf r n = (c.take n, ((advance buf.size r n : ℕ) : ℤ)) := by
  have hmem := h.length_mem
  have hle := h.le_size
  have hclen := h.length_le
  have hread := h.holds.read_eq (by omega) hn
  have hu : u32 r = r := u32_natCast (by omega)
  have hu' : u32 ((r : ℤ) + (n : ℤ)) = r + n := by
    rw [u32_of_nonneg (by omega) (by omega)]; omega
  unfold dltBufferReadBlock advance
  unfold Ring.read at hread
  simp only [hu, hu', hle, Int.toNat_natCast, if_true]
  split_ifs with hcase
  · rw [if_pos (by omega)] at hread
    rw [hread, i32_of_range (by omega) (by omega), Nat.cast_add]
  · rw [if_neg (by omega)] at hread
    have hall : (buf.mem.drop r).take (buf.size - r) = buf.mem.drop r :=
      take_of_length_le (by simp only [length_drop]; omega)
    have hcnt : u32 ((n : ℤ) - (buf.size : ℤ) + (r : ℤ)) = r + n - buf.mem.length := by
      rw [u32_of_nonneg (by omega) (by omega)]; omega
    rw [hall, hcnt, hread, i32_of_range (by omega) (by omega)]
    congr 1
    omega

end

/-! ## The invariant -/

/-- **The invariant**: the buffer stores the blocks of the messages `q` from `read` to `write`. -/
structure Queued (buf : DltBuffer) (q : List (List UInt8)) : Prop where
  /-- The size fits an `int`. -/
  size_lt : buf.size < 2147483648
  count_eq : buf.shm.count = q.length
  stores : ∃ r : ℕ, buf.shm.read = r ∧ Stores buf r (queueBytes q) ∧
    buf.shm.write = (advance buf.size r (queueBytes q).length : ℕ)

namespace Queued

variable {buf : DltBuffer} {q : List (List UInt8)}

theorem count_eq_zero_iff (h : Queued buf q) : buf.shm.count = 0 ↔ q = [] := by
  rw [h.count_eq]
  simp

/-- The two offsets are on the ring, as the sanity checks of the source require. -/
theorem offsets_le (h : Queued buf q) : u32 buf.shm.read ≤ buf.size ∧ u32 buf.shm.write ≤ buf.size := by
  obtain ⟨r, hread, hst, hwrite⟩ := h.stores
  have hsize := h.size_lt
  have hr := hst.le_size
  have hw : advance buf.size r (queueBytes q).length ≤ buf.size :=
    advance_le hst.le_size hst.length_le
  rw [hread, hwrite, u32_natCast (by omega), u32_natCast (by omega)]
  exact ⟨hr, hw⟩

theorem write_eq_read (h : Queued buf []) : buf.shm.write = buf.shm.read := by
  obtain ⟨r, hread, hst, hwrite⟩ := h.stores
  have hr := hst.le_size
  rw [hread, hwrite, queueBytes_nil, length_nil]
  unfold advance
  split_ifs <;> omega

/-- `free_size` is the part of the data area that the queue does not occupy. -/
theorem freeSize_eq (h : Queued buf q) :
    dltBufferFreeSize buf buf.shm.count = (buf.size : ℤ) - (queueBytes q).length := by
  obtain ⟨r, hread, hst, hwrite⟩ := h.stores
  have hsize := h.size_lt
  have hr := hst.le_size
  have hlen := hst.length_le
  have hpos : buf.shm.count ≠ 0 ↔ 0 < (queueBytes q).length := by
    rw [Ne, h.count_eq_zero_iff]
    exact ⟨length_queueBytes_pos, fun hp hq => by simp [hq] at hp⟩
  unfold dltBufferFreeSize
  simp only [hread, hwrite, hpos, i32_natCast hsize]
  unfold advance
  -- wrapped or not, full or not
  split_ifs with hwrap hgt <;> first
    | (rw [i32_of_range (by omega) (by omega)]; omega)
    | omega

/-- `used_size` of a buffer that is not empty is the part that the queue occupies. -/
theorem usedSize_eq (h : Queued buf q) (hq : q ≠ []) :
    dltBufferGetUsed buf = (queueBytes q).length := by
  obtain ⟨r, hread, hst, hwrite⟩ := h.stores
  have hsize := h.size_lt
  have hr := hst.le_size
  have hlen := hst.length_le
  have hpos := length_queueBytes_pos hq
  unfold dltBufferGetUsed
  rw [hread, hwrite, i32_natCast hsize]
  unfold advance
  split_ifs with hwrap hgt <;> (rw [i32_of_range (by omega) (by omega)]; omega)

end Queued

/-! ## Growing -/

/-- There is room below the maximum, and the memory for it. -/
def CanGrow (malloc : Malloc) (buf : DltBuffer) : Prop :=
  buf.size + sizeofDltBufferHead + buf.stepSize ≤ buf.maxSize ∧
    (malloc (buf.size + sizeofDltBufferHead + buf.stepSize)).isSome

/-- A buffer that may grow holds the bytes `c` from `read` to `write`. -/
structure Holding (buf : DltBuffer) (c : List UInt8) : Prop where
  /-- The sizes fit an `int`, and the buffer is within its limits. -/
  max_lt : buf.maxSize < 2147483648
  size_le : buf.size + sizeofDltBufferHead ≤ buf.maxSize
  step_pos : 0 < buf.stepSize
  stores : ∃ r : ℕ, buf.shm.read = r ∧ Stores buf r c ∧
    buf.shm.write = (advance buf.size r c.length : ℕ)

/-- What `dlt_buffer_increase_size` copies to the new memory. -/
def grownBytes (buf : DltBuffer) : List UInt8 :=
  if buf.shm.read < buf.shm.write then
    (buf.mem.drop buf.shm.read.toNat).take (buf.shm.write - buf.shm.read).toNat
  else
    (buf.mem.drop buf.shm.read.toNat).take (buf.size - u32 buf.shm.read) ++ buf.mem.take buf.shm.write.toNat

/-- The offset `write` in the new memory. -/
def grownWrite (buf : DltBuffer) : ℤ :=
  if buf.shm.read < buf.shm.write then i32 (buf.shm.write - buf.shm.read)
  else i32 (i32 buf.size + buf.shm.write - buf.shm.read)

theorem increaseSize_of_not_canGrow {malloc : Malloc} {buf : DltBuffer} (hstep : 0 < buf.stepSize)
    (h : ¬ CanGrow malloc buf) : dltBufferIncreaseSize malloc buf = (buf, dltReturnError) := by
  unfold dltBufferIncreaseSize
  rw [if_neg (by omega)]
  split_ifs with hmax
  · rfl
  cases hm : malloc (buf.size + sizeofDltBufferHead + buf.stepSize) with
  | none => rfl
  | some fresh => exact absurd ⟨by omega, by rw [hm]; rfl⟩ h

/-- The bytes that are copied lie at the beginning of the new memory. -/
theorem increaseSize_of_canGrow {malloc : Malloc} {buf : DltBuffer} (hmax : buf.maxSize < 2147483648)
    (hstep : 0 < buf.stepSize) (h : CanGrow malloc buf) (hlen : (grownBytes buf).length ≤ buf.size)
    (hwrite : grownWrite buf = (grownBytes buf).length) :
    ∃ mem, dltBufferIncreaseSize malloc buf = ({ buf with
        shm := { write := (grownBytes buf).length, read := 0, count := buf.shm.count }
        size := buf.size + buf.stepSize
        mem }, dltReturnOk) ∧
      Holding { buf with
        shm := { write := (grownBytes buf).length, read := 0, count := buf.shm.count }
        size := buf.size + buf.stepSize
        mem } (grownBytes buf) := by
  obtain ⟨hroom, hm⟩ := h
  obtain ⟨fresh, hfresh⟩ := Option.isSome_iff_exists.mp hm
  refine ⟨overwrite ((List.range (buf.size + buf.stepSize)).map fun i => fresh (sizeofDltBufferHead + i)) 0
    (grownBytes buf), ?_, hmax, ?_, hstep, 0, rfl, ⟨?_, Nat.zero_le _, ?_⟩, ?_⟩
  · unfold dltBufferIncreaseSize
    rw [if_neg (by omega), if_neg (by omega), hfresh, ← hwrite]
    rfl
  · change buf.size + buf.stepSize + sizeofDltBufferHead ≤ buf.maxSize
    omega
  · rw [length_overwrite (by simp; omega)]
    simp
  · simp only [Ring.Holds, rotate_zero, overwrite_zero]
    exact prefix_append _ _
  · simp only [advance]
    rw [if_pos (by omega), Nat.zero_add]

namespace Holding

variable {buf : DltBuffer} {c : List UInt8} {malloc : Malloc}

/-- The data area is smaller than any `int`. -/
theorem size_lt (h : Holding buf c) : buf.size < 2147483648 := by
  have := h.max_lt
  have := h.size_le
  omega

/-- What is copied are the bytes that are held, whether they wrap or not. -/
theorem grownBytes_eq (h : Holding buf c) (hc : c ≠ []) :
    grownBytes buf = c ∧ grownWrite buf = c.length := by
  obtain ⟨r, hread, hst, hwrite⟩ := h.stores
  have hsize := h.size_lt
  have hmem := hst.length_mem
  have hr := hst.le_size
  have hlen := hst.length_le
  have hpos := length_pos_iff.mpr hc
  have hcontent := hst.holds.read_eq (by omega) le_rfl
  rw [take_length] at hcontent
  have hu : u32 (r : ℤ) = r := u32_natCast (by omega)
  constructor
  · unfold grownBytes
    rw [hread, hwrite, hu]
    conv_rhs => rw [← hcontent]
    unfold Ring.read advance
    rw [hmem]
    simp only [Int.toNat_natCast]
    split_ifs with hwrap hlt hlt
    · congr 1
      omega
    · omega
    · omega
    · rw [take_of_length_le (by simp only [length_drop]; omega)]
  · unfold grownWrite
    rw [hread, hwrite, i32_natCast hsize]
    unfold advance
    split_ifs with hwrap hlt <;> (rw [i32_of_range (by omega) (by omega)]; omega)

/-- **Growing keeps the bytes that are held**, if there are any. -/
theorem increaseSize (h : Holding buf c) (hc : c ≠ []) (hgrow : CanGrow malloc buf) :
    ∃ mem, dltBufferIncreaseSize malloc buf = ({ buf with
        shm := { write := c.length, read := 0, count := buf.shm.count }
        size := buf.size + buf.stepSize
        mem }, dltReturnOk) ∧
      Holding { buf with
        shm := { write := c.length, read := 0, count := buf.shm.count }
        size := buf.size + buf.stepSize
        mem } c := by
  obtain ⟨r, -, hst, -⟩ := h.stores
  obtain ⟨hbytes, hwrite⟩ := h.grownBytes_eq hc
  have hgrown := increaseSize_of_canGrow h.max_lt h.step_pos hgrow (hbytes ▸ hst.length_le) (hbytes ▸ hwrite)
  rwa [hbytes] at hgrown

/-- **An empty buffer is taken for a full one**: as many bytes as the data area had come to be held. -/
theorem increaseSize_nil (h : Holding buf []) (hgrow : CanGrow malloc buf) :
    ∃ mem old, old.length = buf.size ∧ dltBufferIncreaseSize malloc buf = ({ buf with
        shm := { write := buf.size, read := 0, count := buf.shm.count }
        size := buf.size + buf.stepSize
        mem }, dltReturnOk) ∧
      Holding { buf with
        shm := { write := buf.size, read := 0, count := buf.shm.count }
        size := buf.size + buf.stepSize
        mem } old := by
  obtain ⟨r, hread, hst, hwrite⟩ := h.stores
  have hsize := h.size_lt
  have hmem := hst.length_mem
  have hr := hst.le_size
  have hsame : buf.shm.write = r := by
    rw [hwrite]
    simp [advance, hr]
  have hu : u32 (r : ℤ) = r := u32_natCast (by omega)
  have hlen : (grownBytes buf).length = buf.size := by
    unfold grownBytes
    rw [hread, hsame, if_neg (lt_irrefl _), hu, Int.toNat_natCast]
    simp only [length_append, length_take, length_drop]
    omega
  have hto : grownWrite buf = (grownBytes buf).length := by
    unfold grownWrite
    rw [hlen, hread, hsame, if_neg (lt_irrefl _), i32_natCast hsize, i32_of_range (by omega) (by omega)]
    omega
  obtain ⟨mem, heq, hheld⟩ := increaseSize_of_canGrow h.max_lt h.step_pos hgrow hlen.le hto
  rw [hlen] at heq hheld
  exact ⟨mem, _, hlen, heq, hheld⟩

end Holding

/-! ## The limits of a buffer that may grow -/

/-- The invariant of a buffer that may grow within its limits. -/
structure Layout (buf : DltBuffer) (q : List (List UInt8)) : Prop where
  /-- The sizes fit an `int`, and the buffer is within its limits. -/
  max_lt : buf.maxSize < 2147483648
  size_le : buf.size + sizeofDltBufferHead ≤ buf.maxSize
  head_lt_min : sizeofDltBufferHead < buf.minSize
  min_le : buf.minSize ≤ buf.maxSize
  step_pos : 0 < buf.stepSize
  count_eq : buf.shm.count = q.length
  stores : ∃ r : ℕ, buf.shm.read = r ∧ Stores buf r (queueBytes q) ∧
    buf.shm.write = (advance buf.size r (queueBytes q).length : ℕ)

namespace Layout

variable {buf : DltBuffer} {q : List (List UInt8)}

section

variable (h : Layout buf q)
include h

/-- The data area is smaller than any `int`. -/
theorem size_lt : buf.size < 2147483648 := by
  have := h.max_lt
  have := h.size_le
  omega

theorem queued : Queued buf q := ⟨h.size_lt, h.count_eq, h.stores⟩

theorem of_queued {q' : List (List UInt8)} {shm : DltBufferHead} {mem : List UInt8}
    (h' : Queued { buf with shm, mem } q') : Layout { buf with shm, mem } q' :=
  ⟨h.max_lt, h.size_le, h.head_lt_min, h.min_le, h.step_pos, h'.count_eq, h'.stores⟩

theorem holding : Holding buf (queueBytes q) := ⟨h.max_lt, h.size_le, h.step_pos, h.stores⟩

/-- **Growing a buffer that is not empty** keeps its messages, if it can grow. -/
theorem increaseSize (hq : q ≠ []) (malloc : Malloc) : Layout (dltBufferIncreaseSize malloc buf).1 q := by
  by_cases hgrows : CanGrow malloc buf
  · obtain ⟨mem, heq, hheld⟩ := h.holding.increaseSize
      (ne_nil_of_length_pos (length_queueBytes_pos hq)) hgrows
    rw [heq]
    exact ⟨hheld.max_lt, hheld.size_le, h.head_lt_min, h.min_le, h.step_pos, h.count_eq, hheld.stores⟩
  · rw [increaseSize_of_not_canGrow h.step_pos hgrows]
    exact h

end

end Layout

end Dlt.Shared
