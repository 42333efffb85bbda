import Dlt.Lib.Fields
import Dlt.Shared.BufferStatic

/-!
# A ring buffer whose memory was written by someone else

* `shm_contained_iff` — this is the case exactly when the block that is handed out fits.
-/

namespace Dlt.Shared

open Dlt.Lib List

variable {call : ShmCall}

/-! ## The shared memory -/

/-- The shared memory holds `area`. Source: `dlt_common.c`, `dlt_buffer_init_static_client` -/
def dltBufferInitStaticClient (area : List UInt8) : DltBuffer where
  shm := {
    write := i32 (ofLeBytes (field area 0 4))
    read := i32 (ofLeBytes (field area 4 4))
    count := i32 (ofLeBytes (field area 8 4)) }
  size := area.length - sizeofDltBufferHead
  mem := area.drop sizeofDltBufferHead
  minSize := area.length
  maxSize := area.length
  stepSize := 0

/-- The calls on a buffer in shared memory. -/
inductive ShmCall
  /-- `dlt_shm_push`, `dlt_shm_pull`, `dlt_shm_copy` or `dlt_shm_remove`. -/
  | call (op : BufferOp)
  /-- `dlt_buffer_get_used_size`. -/
  | usedSize

/-- One call: the buffer after it and what it returned. -/
def shmStep (malloc : Malloc) (buf : DltBuffer) : ShmCall → DltBuffer × DltBufferResult
  | .call op => bufferStep malloc buf op
  | .usedSize => (buf, { ret := dltBufferGetUsedSize buf })

/-! ## What is touched -/

/-- A `memcpy` or `memset` of `len` bytes at the offset `off` of a memory of `area` bytes. -/
structure Touch where
  area : ℕ
  off : ℤ
  len : ℤ
deriving DecidableEq, Repr

/-- It stays inside the memory. -/
def Touch.Inside (t : Touch) : Prop := 0 ≤ t.off ∧ 0 ≤ t.len ∧ t.off + t.len ≤ t.area

/-- It does not meet the `n` bytes at the offset `off`. -/
def Touch.Avoids (t : Touch) (off n : ℕ) : Prop := (off : ℤ) + n ≤ t.off ∨ t.off + t.len ≤ off

/-- The data area, as far as `dlt_buffer_write_block` writes to it.
Source: `dlt_buffer_write_block` -/
def dltBufferWriteBlockTouches (buf : DltBuffer) (write : ℤ) (size : ℕ) : List Touch :=
  if size ≤ buf.size then
    if u32 (u32 write + size) ≤ buf.size then [⟨buf.size, write, size⟩]
    else if u32 write ≤ buf.size then
      [⟨buf.size, write, buf.size - u32 write⟩, ⟨buf.size, 0, u32 (size - buf.size + u32 write)⟩]
    else []
  else []

/-- The data area, as far as `dlt_buffer_read_block` reads it.
Source: `dlt_buffer_read_block` -/
def dltBufferReadBlockTouches (buf : DltBuffer) (read : ℤ) (size : ℕ) : List Touch :=
  if u32 (u32 read + size) ≤ buf.size then [⟨buf.size, read, size⟩]
  else if u32 read ≤ buf.size then
    [⟨buf.size, read, buf.size - u32 read⟩, ⟨buf.size, 0, u32 (size - buf.size + u32 read)⟩]
  else []

/-- The memory behind `data`, of `room` bytes, as far as `dlt_buffer_read_block` writes to it.
Source: `dlt_buffer_read_block` -/
def dltBufferReadBlockStores (buf : DltBuffer) (read : ℤ) (size room : ℕ) : List Touch :=
  if u32 (u32 read + size) ≤ buf.size then [⟨room, 0, size⟩]
  else if u32 read ≤ buf.size then
    [⟨room, 0, buf.size - u32 read⟩, ⟨room, buf.size - read, u32 (size - buf.size + u32 read)⟩]
  else []

/-- A transfer between the data area and other memory. -/
structure Transfer where
  /-- The number of bytes that is asked for, before it becomes unsigned. -/
  asked : ℤ
  area : List Touch
  /-- The memory that receives the bytes. -/
  data : List Touch

/-- One of the writes of `dlt_buffer_push3`. -/
def writeTransfer (at0 : DltBuffer × ℤ) (size : ℕ) : Transfer where
  asked := size
  area := dltBufferWriteBlockTouches at0.1 at0.2 size
  data := []

/-- One of the reads of `dlt_buffer_get`: `size` is converted to an unsigned number. -/
def readTransfer (buf : DltBuffer) (read size : ℤ) (room : ℕ) : Transfer where
  asked := size
  area := dltBufferReadBlockTouches buf read (u32 size)
  data := dltBufferReadBlockStores buf read (u32 size) room

/-- `memset` of the whole data area. Source: `dlt_buffer_reset` -/
def resetTransfer (buf : DltBuffer) : Transfer where
  asked := buf.size
  area := [⟨buf.size, 0, buf.size⟩]
  data := []

/-- Source: `dlt_buffer_push3` -/
def dltBufferPush3Transfers (buf : DltBuffer) (data1 data2 data3 : List UInt8) : List Transfer :=
  if u32 buf.shm.read > buf.size ∨ u32 buf.shm.write > buf.size then [resetTransfer buf]
  else if dltBufferFreeSize buf buf.shm.count <
      i32 (sizeofDltBufferBlockHead + (data1.length + data2.length + data3.length) : ℕ) then []
  else
    let head : DltBufferBlockHead :=
      { head := dltBufferHead, status := 2
        size := i32 (data1.length + data2.length + data3.length : ℕ) }
    let wrote0 := dltBufferWriteBlock buf buf.shm.write head.toBytes
    let wrote1 := dltBufferWritePart wrote0 data1
    let wrote2 := dltBufferWritePart wrote1 data2
    [writeTransfer (buf, buf.shm.write) head.toBytes.length] ++
      (if data1.length ≠ 0 then [writeTransfer wrote0 data1.length] else []) ++
      (if data2.length ≠ 0 then [writeTransfer wrote1 data2.length] else []) ++
      (if data3.length ≠ 0 then [writeTransfer wrote2 data3.length] else [])

/-- Source: `dlt_buffer_get` -/
def dltBufferGetTransfers (buf : DltBuffer) (toData : Bool) (maxSize : ℤ) : List Transfer :=
  if u32 buf.shm.read > buf.size ∨ u32 buf.shm.write > buf.size ∨ buf.shm.count < 0 then [resetTransfer buf]
  else if buf.shm.count = 0 then if buf.shm.write ≠ buf.shm.read then [resetTransfer buf] else []
  else if dltBufferGetUsed buf < sizeofDltBufferBlockHead then [resetTransfer buf]
  else
    let got := dltBufferReadBlock buf buf.shm.read sizeofDltBufferBlockHead
    let head := DltBufferBlockHead.ofBytes got.1
    let header := readTransfer buf buf.shm.read sizeofDltBufferBlockHead sizeofDltBufferBlockHead
    if head.head ≠ dltBufferHead ∨ head.status ≠ 2 ∨
        dltBufferGetUsed buf < i32 (sizeofDltBufferBlockHead + head.size) then
      [header, resetTransfer buf]
    else if toData ∧ maxSize ≠ 0 then [header, readTransfer buf got.2 head.size maxSize.toNat]
    else [header]

def shmTransfers (buf : DltBuffer) : ShmCall → List Transfer
  | .call (.push3 data1 data2 data3) => dltBufferPush3Transfers buf data1 data2 data3
  | .call (.pull maxSize) => dltBufferGetTransfers buf true maxSize
  | .call (.copy maxSize) => dltBufferGetTransfers buf true maxSize
  | .call .remove => dltBufferGetTransfers buf false 0
  | .usedSize => []

/-! ## The property -/

/-- The conditions under which a call reports an inconsistency. -/
def ShmDetects (buf : DltBuffer) : ShmCall → Prop
  | .call op => BufferResets buf op
  | .usedSize => False

/-- The call stays inside the data area, does not ask for a negative number of bytes, and leaves an empty
buffer when it finds an inconsistency. -/
structure Contained (malloc : Malloc) (buf : DltBuffer) (call : ShmCall) : Prop where
  inside : ∀ t ∈ shmTransfers buf call, ∀ touch ∈ t.area, touch.Inside
  nonneg : ∀ t ∈ shmTransfers buf call, 0 ≤ t.asked
  emptied : ShmDetects buf call → (shmStep malloc buf call).1.shm = { write := 0, read := 0, count := 0 }

/-- The call stays inside the memory that the caller gives for the message. -/
def DataContained (buf : DltBuffer) (call : ShmCall) : Prop :=
  ∀ t ∈ shmTransfers buf call, ∀ touch ∈ t.data, touch.Inside

/-- The header of the block at the read offset. -/
def blockHeadAt (buf : DltBuffer) : DltBufferBlockHead :=
  DltBufferBlockHead.ofBytes (dltBufferReadBlock buf buf.shm.read sizeofDltBufferBlockHead).1

def behindBlockHead (buf : DltBuffer) : ℤ :=
  (dltBufferReadBlock buf buf.shm.read sizeofDltBufferBlockHead).2

/-- The call copies the block at the read offset to a memory of `maxSize` bytes: it is a pull or a copy, and
none of the checks fails. -/
def HandsOut (buf : DltBuffer) (maxSize : ℤ) : ShmCall → Prop
  | .call (.pull n) | .call (.copy n) =>
      n = maxSize ∧ maxSize ≠ 0 ∧ buf.shm.count ≠ 0 ∧ ¬ DltBufferGetResets buf
  | _ => False

/-- A block that is handed out has a size that is not negative, and it ends in the data area after at most one
wrap. -/
def BlockFits (buf : DltBuffer) (call : ShmCall) : Prop :=
  ∀ maxSize, HandsOut buf maxSize call →
    0 ≤ (blockHeadAt buf).size ∧ behindBlockHead buf + (blockHeadAt buf).size ≤ 2 * buf.size

/-- A block that is handed out has room in the memory of the caller. -/
def DataFits (buf : DltBuffer) (call : ShmCall) : Prop :=
  ∀ maxSize, HandsOut buf maxSize call → (blockHeadAt buf).size ≤ maxSize.toNat

/-! ## The blocks -/

/-- The result of a conversion to `int` is in its range. -/
theorem i32_range (x : ℤ) : -2147483648 ≤ i32 x ∧ i32 x < 2147483648 := by
  unfold i32
  split_ifs <;> omega

theorem offset_of_u32_le {x : ℤ} {size : ℕ} (hlow : -2147483648 ≤ x) (hhigh : x < 2147483648)
    (hsize : size < 2147483648) (h : u32 x ≤ size) : ∃ n : ℕ, x = n ∧ n ≤ size := by
  unfold u32 at h
  exact ⟨x.toNat, by omega, by omega⟩

section blocks

variable {buf : DltBuffer} {pos n : ℕ}

section

variable (hsize : buf.size < 2147483648)
include hsize

/-- A position and a length are not changed by the conversions. -/
theorem u32_pos_add (hpos : pos ≤ buf.size) (hn : n < 2147483648) :
    u32 (pos : ℤ) = pos ∧ u32 ((pos : ℤ) + n) = pos + n := by
  refine ⟨u32_natCast (by omega), ?_⟩
  rw [← Nat.cast_add, u32_natCast (by omega)]

theorem dltBufferWriteBlockTouches_inside (hpos : pos ≤ buf.size) :
    ∀ touch ∈ dltBufferWriteBlockTouches buf pos n, touch.Inside := by
  unfold dltBufferWriteBlockTouches
  by_cases hfits : n ≤ buf.size
  swap
  · rw [if_neg hfits]
    simp
  obtain ⟨hu, hu'⟩ := u32_pos_add hsize hpos (show n < 2147483648 by omega)
  rw [if_pos hfits, hu, hu']
  split_ifs with hone
  · simp only [mem_singleton, forall_eq, Touch.Inside]
    omega
  · have hrest : u32 ((n : ℤ) - buf.size + pos) = n - (buf.size - pos) := by
      rw [u32_of_nonneg (by omega) (by omega)]
      omega
    simp only [hrest, mem_cons, not_mem_nil, or_false, forall_eq_or_imp, forall_eq, Touch.Inside]
    omega

/-- The position behind a block that was written lies in the data area, which keeps its size. -/
theorem dltBufferWriteBlock_next (hmem : buf.mem.length = buf.size) (hpos : pos ≤ buf.size) (data : List UInt8) :
    ∃ (mem : List UInt8) (next : ℕ), dltBufferWriteBlock buf pos data = ({ buf with mem }, (next : ℤ)) ∧
      mem.length = buf.size ∧ next ≤ buf.size := by
  by_cases hfits : data.length ≤ buf.size
  · refine ⟨_, _, dltBufferWriteBlock_eq hmem hsize hpos hfits, ?_, Ring.advance_le hpos hfits⟩
    rw [Ring.length_write (by omega) (by omega), hmem]
  · refine ⟨buf.mem, pos, ?_, hmem, hpos⟩
    unfold dltBufferWriteBlock
    rw [if_neg hfits]

theorem dltBufferWritePart_next (hmem : buf.mem.length = buf.size) (hpos : pos ≤ buf.size) (data : List UInt8) :
    ∃ (mem : List UInt8) (next : ℕ), dltBufferWritePart (buf, pos) data = ({ buf with mem }, (next : ℤ)) ∧
      mem.length = buf.size ∧ next ≤ buf.size := by
  unfold dltBufferWritePart
  split_ifs
  · exact dltBufferWriteBlock_next hsize hmem hpos data
  · exact ⟨buf.mem, pos, rfl, hmem, hpos⟩

end

/-- A block that is read stays in the data area exactly when it ends there after at most one wrap, and it has
room exactly when it is not longer than the memory. -/
theorem dltBufferReadBlock_inside_iff (hsize : buf.size < 2147483648) (hpos : pos ≤ buf.size)
    (hn : n < 2147483648) (room : ℕ) :
    ((∀ touch ∈ dltBufferReadBlockTouches buf pos n, touch.Inside) ↔ pos + n ≤ 2 * buf.size) ∧
      ((∀ touch ∈ dltBufferReadBlockStores buf pos n room, touch.Inside) ↔ n ≤ room) := by
  obtain ⟨hu, hu'⟩ := u32_pos_add hsize hpos hn
  unfold dltBufferReadBlockTouches dltBufferReadBlockStores
  rw [hu, hu']
  by_cases hone : pos + n ≤ buf.size
  · rw [if_pos hone, if_pos hone]
    simp only [mem_singleton, forall_eq, Touch.Inside]
    omega
  · have hrest : u32 ((n : ℤ) - buf.size + pos) = n - (buf.size - pos) := by
      rw [u32_of_nonneg (by omega) (by omega)]
      omega
    rw [if_neg hone, if_neg hone, if_pos hpos, if_pos hpos]
    simp only [hrest, mem_cons, not_mem_nil, or_false, forall_eq_or_imp, forall_eq, Touch.Inside]
    omega

/-- The position behind a header that was read lies in the data area. -/
theorem dltBufferReadBlock_next (hsize : buf.size < 2147483648) (hpos : pos ≤ buf.size)
    (hn : n ≤ buf.size) : ∃ next : ℕ, (dltBufferReadBlock buf pos n).2 = next ∧ next ≤ buf.size := by
  obtain ⟨hu, hu'⟩ := u32_pos_add hsize hpos (show n < 2147483648 by omega)
  unfold dltBufferReadBlock
  rw [hu, hu']
  split_ifs with hone
  · refine ⟨pos + n, ?_, hone⟩
    simp only
    rw [i32_of_range (by omega) (by omega), Nat.cast_add]
  · refine ⟨pos + n - buf.size, ?_, by omega⟩
    simp only
    rw [i32_of_range (by omega) (by omega)]
    omega

end blocks

/-! ## The calls -/

/-- A buffer in shared memory: its size is fixed, and its contents are arbitrary. -/
structure ShmBuffer (buf : DltBuffer) : Prop where
  size_lt : buf.size < 2147483648
  length_mem : buf.mem.length = buf.size
  step_eq : buf.stepSize = 0
  min_eq : buf.size + sizeofDltBufferHead = buf.minSize
  write_range : -2147483648 ≤ buf.shm.write ∧ buf.shm.write < 2147483648
  read_range : -2147483648 ≤ buf.shm.read ∧ buf.shm.read < 2147483648

theorem dltBufferInitStaticClient_shm {area : List UInt8} (hhead : sizeofDltBufferHead ≤ area.length)
    (hint : area.length < 2147483648) : ShmBuffer (dltBufferInitStaticClient area) := by
  refine ⟨?_, ?_, rfl, ?_, i32_range _, i32_range _⟩
  · simp only [dltBufferInitStaticClient]
    omega
  · simp only [dltBufferInitStaticClient, length_drop]
  · simp only [dltBufferInitStaticClient]
    omega

namespace ShmBuffer

variable {buf : DltBuffer}

theorem resetTransfer_inside (touch : Touch) (h : touch ∈ (resetTransfer buf).area) : touch.Inside := by
  simp only [resetTransfer, mem_singleton] at h
  subst h
  simp only [Touch.Inside]
  omega

section

variable (h : ShmBuffer buf)
include h

theorem push3_transfers (data1 data2 data3 : List UInt8) :
    ∀ t ∈ dltBufferPush3Transfers buf data1 data2 data3,
      (∀ touch ∈ t.area, touch.Inside) ∧ 0 ≤ t.asked ∧ t.data = [] := by
  have hsize := h.size_lt
  unfold dltBufferPush3Transfers
  by_cases hrange : u32 buf.shm.read > buf.size ∨ u32 buf.shm.write > buf.size
  · rw [if_pos hrange]
    simp only [mem_singleton, forall_eq]
    exact ⟨resetTransfer_inside, by simp [resetTransfer], rfl⟩
  rw [if_neg hrange]
  by_cases hfree : dltBufferFreeSize buf buf.shm.count <
      i32 (sizeofDltBufferBlockHead + (data1.length + data2.length + data3.length) : ℕ)
  · rw [if_pos hfree]
    simp
  rw [if_neg hfree]
  obtain ⟨pos, hpos, hle⟩ :=
    offset_of_u32_le h.write_range.1 h.write_range.2 hsize (show u32 buf.shm.write ≤ buf.size by omega)
  -- every part begins inside the data area
  have hwrite : ∀ (mem : List UInt8) (at0 n : ℕ), at0 ≤ buf.size →
      (∀ touch ∈ (writeTransfer ({ buf with mem }, (at0 : ℤ)) n).area, touch.Inside) ∧
        0 ≤ (writeTransfer ({ buf with mem }, (at0 : ℤ)) n).asked ∧
        (writeTransfer ({ buf with mem }, (at0 : ℤ)) n).data = [] := by
    intro mem at0 n hat
    exact ⟨@dltBufferWriteBlockTouches_inside { buf with mem } at0 n hsize hat, by simp [writeTransfer], rfl⟩
  rw [hpos]
  obtain ⟨mem0, next0, hwrote0, hmem0, hnext0⟩ := dltBufferWriteBlock_next hsize h.length_mem hle
    (DltBufferBlockHead.toBytes
      { head := dltBufferHead, status := 2, size := i32 (data1.length + data2.length + data3.length : ℕ) })
  obtain ⟨mem1, next1, hwrote1, hmem1, hnext1⟩ :=
    @dltBufferWritePart_next { buf with mem := mem0 } next0 hsize hmem0 hnext0 data1
  obtain ⟨mem2, next2, hwrote2, hmem2, hnext2⟩ :=
    @dltBufferWritePart_next { buf with mem := mem1 } next1 hsize hmem1 hnext1 data2
  simp only [hwrote0, hwrote1, hwrote2]
  intro t ht
  simp only [mem_append, mem_singleton, mem_ite_nil_right] at ht
  rcases ht with ((rfl | ⟨-, rfl⟩) | ⟨-, rfl⟩) | ⟨-, rfl⟩
  · exact hwrite buf.mem pos _ hle
  · exact hwrite mem0 next0 _ hnext0
  · exact hwrite mem1 next1 _ hnext1
  · exact hwrite mem2 next2 _ hnext2

/-- The block that is read behind its header: what is touched, and what is asked for. -/
theorem readTransfer_iff {pos : ℕ} (hpos : pos ≤ buf.size) {size : ℤ} (hlow : -2147483648 ≤ size)
    (hhigh : size < 2147483648) (room : ℕ) :
    (((∀ touch ∈ (readTransfer buf pos size room).area, touch.Inside) ∧
        0 ≤ (readTransfer buf pos size room).asked) ↔ 0 ≤ size ∧ (pos : ℤ) + size ≤ 2 * buf.size) ∧
      (0 ≤ size → ((∀ touch ∈ (readTransfer buf pos size room).data, touch.Inside) ↔ size ≤ room)) := by
  by_cases hneg : 0 ≤ size
  · obtain ⟨n, rfl⟩ := Int.eq_ofNat_of_zero_le hneg
    have hn : n < 2147483648 := by omega
    obtain ⟨harea, hdata⟩ := dltBufferReadBlock_inside_iff h.size_lt hpos hn room
    have hu : u32 (n : ℤ) = n := u32_natCast (by omega)
    simp only [readTransfer, hu, harea, hdata]
    omega
  · refine ⟨⟨fun hboth => absurd hboth.2 hneg, fun hfits => absurd hfits.1 hneg⟩, fun hno => absurd hno hneg⟩

/-- The header of a block is read inside the data area, when there is room for one. -/
theorem header_transfer {pos : ℕ} (hpos : pos ≤ buf.size) (hroom : sizeofDltBufferBlockHead ≤ buf.size) :
    (∀ touch ∈ (readTransfer buf pos sizeofDltBufferBlockHead sizeofDltBufferBlockHead).area,
        touch.Inside) ∧
      0 ≤ (readTransfer buf pos sizeofDltBufferBlockHead sizeofDltBufferBlockHead).asked ∧
      ∀ touch ∈ (readTransfer buf pos sizeofDltBufferBlockHead sizeofDltBufferBlockHead).data,
        touch.Inside := by
  have htwelve : sizeofDltBufferBlockHead = 12 := rfl
  obtain ⟨harea, hdata⟩ := @readTransfer_iff buf h pos hpos sizeofDltBufferBlockHead (by omega) (by omega)
    sizeofDltBufferBlockHead
  obtain ⟨hinside, hasked⟩ := harea.mpr ⟨by omega, by omega⟩
  exact ⟨hinside, hasked, (hdata (by omega)).mpr le_rfl⟩

/-- With a block header's worth of bytes in use, the offsets lie in the data area, which has room for it. -/
theorem header_room (hrange : ¬ (u32 buf.shm.read > buf.size ∨ u32 buf.shm.write > buf.size ∨ buf.shm.count < 0))
    (hused : ¬ dltBufferGetUsed buf < sizeofDltBufferBlockHead) :
    ∃ pos : ℕ, buf.shm.read = pos ∧ pos ≤ buf.size ∧ sizeofDltBufferBlockHead ≤ buf.size := by
  have hsize := h.size_lt
  have htwelve : sizeofDltBufferBlockHead = 12 := rfl
  obtain ⟨r, hr, hrle⟩ :=
    offset_of_u32_le h.read_range.1 h.read_range.2 hsize (show u32 buf.shm.read ≤ buf.size by omega)
  obtain ⟨w, hw, hwle⟩ :=
    offset_of_u32_le h.write_range.1 h.write_range.2 hsize (show u32 buf.shm.write ≤ buf.size by omega)
  refine ⟨r, hr, hrle, ?_⟩
  unfold dltBufferGetUsed at hused
  rw [hr, hw, i32_natCast hsize] at hused
  split_ifs at hused with hlt
  · rw [i32_of_range (by omega) (by omega)] at hused
    omega
  · rw [i32_of_range (by omega) (by omega)] at hused
    omega

end

/-- A transfer that stays where it may be. -/
def Harmless (t : Transfer) : Prop :=
  (∀ touch ∈ t.area, touch.Inside) ∧ 0 ≤ t.asked ∧ ∀ touch ∈ t.data, touch.Inside

theorem resetTransfer_harmless : Harmless (resetTransfer buf) :=
  ⟨resetTransfer_inside, by simp [resetTransfer], by simp [resetTransfer]⟩

theorem get_harmless (h : ShmBuffer buf) {toData : Bool} {maxSize : ℤ}
    (hno : ¬ (toData = true ∧ maxSize ≠ 0 ∧ buf.shm.count ≠ 0 ∧ ¬ DltBufferGetResets buf)) :
    ∀ t ∈ dltBufferGetTransfers buf toData maxSize, Harmless t := by
  have hreset : ∀ t ∈ [resetTransfer buf], Harmless t := by
    simp only [mem_singleton, forall_eq]
    exact resetTransfer_harmless
  unfold dltBufferGetTransfers
  by_cases hrange : u32 buf.shm.read > buf.size ∨ u32 buf.shm.write > buf.size ∨ buf.shm.count < 0
  · rw [if_pos hrange]
    exact hreset
  rw [if_neg hrange]
  by_cases hcount : buf.shm.count = 0
  · rw [if_pos hcount]
    split_ifs
    · exact hreset
    · simp
  rw [if_neg hcount]
  by_cases hused : dltBufferGetUsed buf < sizeofDltBufferBlockHead
  · rw [if_pos hused]
    exact hreset
  rw [if_neg hused]
  obtain ⟨pos, hpos, hle, hroom⟩ := h.header_room hrange hused
  have hheader : Harmless
      (readTransfer buf buf.shm.read sizeofDltBufferBlockHead sizeofDltBufferBlockHead) := by
    rw [hpos]
    exact h.header_transfer hle hroom
  dsimp only
  by_cases hchecks : (DltBufferBlockHead.ofBytes
      (dltBufferReadBlock buf buf.shm.read sizeofDltBufferBlockHead).1).head ≠ dltBufferHead ∨
      (DltBufferBlockHead.ofBytes
        (dltBufferReadBlock buf buf.shm.read sizeofDltBufferBlockHead).1).status ≠ 2 ∨
      dltBufferGetUsed buf < i32 (sizeofDltBufferBlockHead + (DltBufferBlockHead.ofBytes
        (dltBufferReadBlock buf buf.shm.read sizeofDltBufferBlockHead).1).size)
  · rw [if_pos hchecks]
    simp only [mem_cons, not_mem_nil, or_false, forall_eq_or_imp, forall_eq]
    exact ⟨hheader, resetTransfer_harmless⟩
  rw [if_neg hchecks]
  -- no check fails, so that the caller does not take the block
  have hquiet : ¬ (toData = true ∧ maxSize ≠ 0) := by
    rintro ⟨hdata, hmax⟩
    refine hno ⟨hdata, hmax, hcount, ?_⟩
    rintro (hbad | ⟨hzero, -⟩ | ⟨-, hbad⟩)
    · exact hrange hbad
    · exact hcount hzero
    · dsimp only at hbad
      rcases hbad with hbad | hbad
      · exact hused hbad
      · exact hchecks hbad
  rw [if_neg hquiet]
  simp only [mem_singleton, forall_eq]
  exact hheader

/-- A get that hands out a block reads its header and the block. -/
theorem get_handsOut (h : ShmBuffer buf) {maxSize : ℤ} (hmax : maxSize ≠ 0) (hcount : buf.shm.count ≠ 0)
    (hresets : ¬ DltBufferGetResets buf) :
    ∃ pos : ℕ, behindBlockHead buf = pos ∧ pos ≤ buf.size ∧
      ∃ header, Harmless header ∧ dltBufferGetTransfers buf true maxSize =
        [header, readTransfer buf (behindBlockHead buf) (blockHeadAt buf).size maxSize.toNat] := by
  have hrange : ¬ (u32 buf.shm.read > buf.size ∨ u32 buf.shm.write > buf.size ∨ buf.shm.count < 0) :=
    fun hbad => hresets (.inl hbad)
  have hused : ¬ dltBufferGetUsed buf < sizeofDltBufferBlockHead :=
    fun hbad => hresets (.inr (.inr ⟨hcount, .inl hbad⟩))
  obtain ⟨pos, hpos, hle, hroom⟩ := h.header_room hrange hused
  obtain ⟨next, hnext, hnextLe⟩ := dltBufferReadBlock_next h.size_lt hle hroom
  refine ⟨next, ?_, hnextLe, readTransfer buf buf.shm.read sizeofDltBufferBlockHead sizeofDltBufferBlockHead,
    ?_, ?_⟩
  · rw [behindBlockHead, hpos, hnext]
  · rw [hpos]
    exact h.header_transfer hle hroom
  · unfold dltBufferGetTransfers
    rw [if_neg hrange, if_neg hcount, if_neg hused]
    dsimp only
    rw [if_neg fun hbad => hresets (.inr (.inr ⟨hcount, .inr hbad⟩)), if_pos ⟨rfl, hmax⟩]
    rfl

end ShmBuffer

/-! ## Main results -/

theorem shmStep_emptied (malloc : Malloc) {buf : DltBuffer} (h : ShmDetects buf call) :
    (shmStep malloc buf call).1.shm = { write := 0, read := 0, count := 0 } := by
  cases call with
  | usedSize => exact absurd h id
  | call op =>
    cases op with
    | push3 data1 data2 data3 =>
      have hrange : u32 buf.shm.read > buf.size ∨ u32 buf.shm.write > buf.size := h
      simp only [shmStep, bufferStep, dltBufferPush3]
      rw [if_pos hrange]
      rfl
    | pull maxSize => exact congrArg (fun r => r.1.shm) (dltBufferGet_of_resets h malloc true maxSize true)
    | copy maxSize => exact congrArg (fun r => r.1.shm) (dltBufferGet_of_resets h malloc true maxSize false)
    | remove => exact congrArg (fun r => r.1.shm) (dltBufferGet_of_resets h malloc false 0 true)

theorem contained_of_harmless (malloc : Malloc) {buf : DltBuffer}
    (h : ∀ t ∈ shmTransfers buf call, ShmBuffer.Harmless t) :
    Contained malloc buf call ∧ DataContained buf call :=
  ⟨⟨fun t ht => (h t ht).1, fun t ht => (h t ht).2.1, shmStep_emptied malloc⟩, fun t ht => (h t ht).2.2⟩

theorem get_contained_iff (malloc : Malloc) {buf : DltBuffer} (h : ShmBuffer buf) {maxSize : ℤ}
    (htransfers : shmTransfers buf call = dltBufferGetTransfers buf true maxSize)
    (hhands : ∀ n, HandsOut buf n call ↔
      maxSize = n ∧ n ≠ 0 ∧ buf.shm.count ≠ 0 ∧ ¬ DltBufferGetResets buf) :
    (Contained malloc buf call ↔ BlockFits buf call) ∧
      (Contained malloc buf call ∧ DataContained buf call ↔ BlockFits buf call ∧ DataFits buf call) := by
  by_cases hout : maxSize ≠ 0 ∧ buf.shm.count ≠ 0 ∧ ¬ DltBufferGetResets buf
  · obtain ⟨hmax, hcount, hresets⟩ := hout
    obtain ⟨pos, hpos, hle, header, hheader, hlist⟩ := h.get_handsOut hmax hcount hresets
    obtain ⟨hlow, hhigh⟩ := i32_range (ofLeBytes
      (((dltBufferReadBlock buf buf.shm.read sizeofDltBufferBlockHead).1.drop 8).take 4))
    obtain ⟨harea, hdata⟩ := @ShmBuffer.readTransfer_iff buf h pos hle (blockHeadAt buf).size hlow hhigh maxSize.toNat
    have hfits : BlockFits buf call ↔
        0 ≤ (blockHeadAt buf).size ∧ (pos : ℤ) + (blockHeadAt buf).size ≤ 2 * buf.size := by
      rw [← hpos]
      constructor
      · exact fun hall => hall maxSize ((hhands maxSize).mpr ⟨rfl, hmax, hcount, hresets⟩)
      · exact fun hboth _ _ => hboth
    have hroom : DataFits buf call ↔ (blockHeadAt buf).size ≤ maxSize.toNat := by
      constructor
      · exact fun hall => hall maxSize ((hhands maxSize).mpr ⟨rfl, hmax, hcount, hresets⟩)
      · intro hle n hn
        rw [← ((hhands n).mp hn).1]
        exact hle
    rw [hpos] at hlist
    have hcontained : Contained malloc buf call ↔
        0 ≤ (blockHeadAt buf).size ∧ (pos : ℤ) + (blockHeadAt buf).size ≤ 2 * buf.size := by
      rw [← harea]
      constructor
      · intro hc
        have hmem : readTransfer buf pos (blockHeadAt buf).size maxSize.toNat ∈ shmTransfers buf call := by
          rw [htransfers, hlist]
          simp
        exact ⟨hc.inside _ hmem, hc.nonneg _ hmem⟩
      · intro hboth
        refine ⟨?_, ?_, shmStep_emptied malloc⟩
        · rw [htransfers, hlist]
          simp only [mem_cons, not_mem_nil, or_false, forall_eq_or_imp, forall_eq]
          exact ⟨hheader.1, hboth.1⟩
        · rw [htransfers, hlist]
          simp only [mem_cons, not_mem_nil, or_false, forall_eq_or_imp, forall_eq]
          exact ⟨hheader.2.1, hboth.2⟩
    have hcaller : DataContained buf call ↔
        ∀ touch ∈ (readTransfer buf pos (blockHeadAt buf).size maxSize.toNat).data, touch.Inside := by
      unfold DataContained
      rw [htransfers, hlist]
      simp only [mem_cons, not_mem_nil, or_false, forall_eq_or_imp, forall_eq]
      exact ⟨fun hboth => hboth.2, fun hstores => ⟨hheader.2.2, hstores⟩⟩
    refine ⟨hcontained.trans hfits.symm, ?_⟩
    rw [hcontained, hfits, hcaller, hroom]
    constructor
    · rintro ⟨hboth, hstores⟩
      exact ⟨hboth, (hdata hboth.1).mp hstores⟩
    · rintro ⟨hboth, hsize⟩
      exact ⟨hboth, (hdata hboth.1).mpr hsize⟩
  · -- nothing is handed out
    have hharmless := @ShmBuffer.get_harmless buf h true maxSize (fun hall => hout hall.2)
    rw [← htransfers] at hharmless
    obtain ⟨hcontained, hdata⟩ := contained_of_harmless malloc hharmless
    have hnone : ∀ n, ¬ HandsOut buf n call := by
      intro n hn
      obtain ⟨rfl, hrest⟩ := (hhands n).mp hn
      exact hout hrest
    have hfits : BlockFits buf call := fun n hn => absurd hn (hnone n)
    have hroom : DataFits buf call := fun n hn => absurd hn (hnone n)
    exact ⟨iff_of_true hcontained hfits, iff_of_true ⟨hcontained, hdata⟩ ⟨hfits, hroom⟩⟩

/-- **Any contents of the shared memory are contained exactly when** a block that is handed out has a size that
is not negative and ends in the data area after at most one wrap; and the memory of the caller is respected
exactly when the block is also not longer than that. -/
theorem shm_contained_iff (malloc : Malloc) {area : List UInt8} (hhead : sizeofDltBufferHead ≤ area.length)
    (hint : area.length < 2147483648) (call : ShmCall) :
    (Contained malloc (dltBufferInitStaticClient area) call ↔
        BlockFits (dltBufferInitStaticClient area) call) ∧
      (Contained malloc (dltBufferInitStaticClient area) call ∧
          DataContained (dltBufferInitStaticClient area) call ↔
        BlockFits (dltBufferInitStaticClient area) call ∧ DataFits (dltBufferInitStaticClient area) call) := by
  have h := dltBufferInitStaticClient_shm hhead hint
  generalize dltBufferInitStaticClient area = buf at h
  -- a call that hands out nothing, and touches what it may touch
  have hquiet : ∀ call : ShmCall, (∀ t ∈ shmTransfers buf call, ShmBuffer.Harmless t) →
      (∀ n, ¬ HandsOut buf n call) → (Contained malloc buf call ↔ BlockFits buf call) ∧
        (Contained malloc buf call ∧ DataContained buf call ↔ BlockFits buf call ∧ DataFits buf call) := by
    intro call hharmless hnone
    obtain ⟨hcontained, hdata⟩ := contained_of_harmless malloc hharmless
    have hfits : BlockFits buf call := fun n hn => absurd hn (hnone n)
    have hroom : DataFits buf call := fun n hn => absurd hn (hnone n)
    exact ⟨iff_of_true hcontained hfits, iff_of_true ⟨hcontained, hdata⟩ ⟨hfits, hroom⟩⟩
  cases call with
  | usedSize => exact hquiet _ (by simp [shmTransfers]) (fun n hn => hn)
  | call op =>
    cases op with
    | push3 data1 data2 data3 =>
      refine hquiet _ (fun t ht => ?_) (fun n hn => hn)
      obtain ⟨hinside, hasked, hnil⟩ := h.push3_transfers data1 data2 data3 t ht
      exact ⟨hinside, hasked, by simp [hnil]⟩
    | pull maxSize => exact get_contained_iff malloc h rfl fun n => Iff.rfl
    | copy maxSize => exact get_contained_iff malloc h rfl fun n => Iff.rfl
    | remove => exact hquiet _ (h.get_harmless (by simp)) (fun n hn => hn)

/-- A shared memory with one block, whose size is `size`. -/
def sampleArea (size : ℤ) : List UInt8 :=
  leBytes 4 15 ++ leBytes 4 0 ++ leBytes 4 1 ++ (dltBufferHead ++ [2, 0, 0, 0] ++ leBytes 4 (u32 size)) ++
    [7, 8, 9, 0]

theorem shm_contained_iff_sample :
    Contained zeroMalloc (dltBufferInitStaticClient (sampleArea 3)) (.call (.pull 3)) :=
  (shm_contained_iff zeroMalloc (by decide) (by decide) (.call (.pull 3))).1.mpr (by
    intro n _
    decide)

/-- A block whose size is negative passes all checks, and it is copied. -/
theorem shm_not_contained :
    ¬ Contained zeroMalloc (dltBufferInitStaticClient (sampleArea (-1))) (.call (.pull 3)) := by
  intro h
  have hneg : ∃ t ∈ shmTransfers (dltBufferInitStaticClient (sampleArea (-1))) (.call (.pull 3)),
      t.asked < 0 := by decide +kernel
  obtain ⟨t, ht, hasked⟩ := hneg
  have := h.nonneg t ht
  omega

end Dlt.Shared
