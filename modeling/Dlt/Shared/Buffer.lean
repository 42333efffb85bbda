import Dlt.Lib.Machine
import Dlt.Lib.Ring
import Dlt.Shared.Types

/-!
# The ring buffer `DltBuffer`

The functions of `dlt_common.c` on a `DltBuffer`: a block of memory that starts with the three
integers of `DltBufferHead` and continues with the data area. A message occupies a block header
`DltBufferBlockHead` and its bytes, both written over the wrap of the data area.

* `dltBufferPush3` and `dltBufferGet` (`dltBufferPull`, `dltBufferCopy`, `dltBufferRemove`).

A null `buf` or `shm` is not a value of these types, so the null checks of the source have no
counterpart; log output is left out.
-/

namespace Dlt.Shared

open Dlt.Lib

/-! ## Data -/

/-- The administration data at the start of the shared memory. Source: `dlt_common.h` -/
structure DltBufferHead where
  /-- Offset of the next byte to write. -/
  write : ℤ
  /-- Offset of the next byte to read. -/
  read : ℤ
  count : ℤ
deriving DecidableEq, Repr

/-- `sizeof(DltBufferHead)`: three integers. Source: `dlt_common.h` -/
def sizeofDltBufferHead : ℕ := 12

/-- The header in front of each message. Source: `dlt_common.h` -/
structure DltBufferBlockHead where
  /-- The mark `DLT_BUFFER_HEAD`, four bytes. -/
  head : List UInt8
  /-- `2` in a block that was written completely. -/
  status : UInt8
  size : ℤ
deriving DecidableEq, Repr

/-- `sizeof(DltBufferBlockHead)`: four bytes, one byte, three of padding and an integer.
Source: `dlt_common.h` -/
def sizeofDltBufferBlockHead : ℕ := 12

/-- `DLT_BUFFER_HEAD`, with its terminating zero. Source: `dlt_common.h` -/
def dltBufferHead : List UInt8 := [0x53, 0x48, 0x4d, 0]

/-- The bytes of a block header in memory. The padding is never read; it is zero here. -/
def DltBufferBlockHead.toBytes (h : DltBufferBlockHead) : List UInt8 :=
  h.head ++ [h.status, 0, 0, 0] ++ leBytes 4 (u32 h.size)

/-- The block header that bytes in memory stand for. -/
def DltBufferBlockHead.ofBytes (bs : List UInt8) : DltBufferBlockHead where
  head := bs.take 4
  status := bs.getD 4 0
  size := i32 (ofLeBytes ((bs.drop 8).take 4))

/-- A ring buffer. Source: `DltBuffer` -/
structure DltBuffer where
  /-- The head at the beginning of the memory `shm`. -/
  shm : DltBufferHead
  size : ℕ
  mem : List UInt8
  /-- Minimum size of the buffer, the head included. -/
  minSize : ℕ
  /-- Maximum size of the buffer, the head included. -/
  maxSize : ℕ
  /-- How much the buffer grows at a time. -/
  stepSize : ℕ
deriving DecidableEq, Repr

/-! ## Initialisation -/

/-- Source: `dlt_common.c`, `dlt_buffer_init_dynamic` -/
def dltBufferInitDynamic (malloc : Malloc) (minSize maxSize stepSize : ℕ) : Except ℤ DltBuffer :=
  if minSize = 0 ∨ maxSize = 0 ∨ stepSize = 0 then .error dltReturnWrongParameter
  else if minSize > maxSize then .error dltReturnWrongParameter
  else if stepSize > maxSize then .error dltReturnWrongParameter
  else match malloc minSize with
    | none => .error dltReturnError
    | some _ =>
      if minSize < sizeofDltBufferHead then .error dltReturnWrongParameter
      else .ok {
        shm := { write := 0, read := 0, count := 0 }
        size := minSize - sizeofDltBufferHead
        mem := List.replicate (minSize - sizeofDltBufferHead) 0
        minSize, maxSize, stepSize }

/-- The memory behind `ptr` has `size` bytes. Source: `dlt_buffer_init_static_server` -/
def dltBufferInitStaticServer (size : ℕ) : DltBuffer where
  shm := { write := 0, read := 0, count := 0 }
  size := u32 ((size : ℤ) - sizeofDltBufferHead)
  mem := List.replicate (u32 ((size : ℤ) - sizeofDltBufferHead)) 0
  minSize := size
  maxSize := size
  stepSize := 0

/-! ## Copies over the wrap -/

/-- The position is the C variable `*write`, the result its new value.
Source: `dlt_buffer_write_block` -/
def dltBufferWriteBlock (buf : DltBuffer) (write : ℤ) (data : List UInt8) : DltBuffer × ℤ :=
  let size := data.length
  if size ≤ buf.size then
    if u32 (u32 write + size) ≤ buf.size then
      ({ buf with mem := overwrite buf.mem write.toNat data }, i32 (write + size))
    else if u32 write ≤ buf.size then
      -- the rest of the data area, then its beginning
      let first := buf.size - u32 write
      let mem := overwrite buf.mem write.toNat (data.take first)
      ({ buf with mem := overwrite mem 0 (data.drop first) }, i32 (write + (size - buf.size)))
    else (buf, write)
  else (buf, write)

/-- The bytes read and the new value of `*read`.
Source: `dlt_buffer_read_block` -/
def dltBufferReadBlock (buf : DltBuffer) (read : ℤ) (size : ℕ) : List UInt8 × ℤ :=
  if u32 (u32 read + size) ≤ buf.size then
    ((buf.mem.drop read.toNat).take size, i32 (read + size))
  else if u32 read ≤ buf.size then
    ((buf.mem.drop read.toNat).take (buf.size - u32 read) ++
      buf.mem.take (u32 (size - buf.size + u32 read)), i32 (read + (size - buf.size)))
  else ([], read)

/-! ## Growing, shrinking and resetting -/

/-- Source: `dlt_buffer_increase_size` -/
def dltBufferIncreaseSize (malloc : Malloc) (buf : DltBuffer) : DltBuffer × ℤ :=
  if buf.stepSize = 0 then (buf, dltReturnError)
  else if buf.size + sizeofDltBufferHead + buf.stepSize > buf.maxSize then (buf, dltReturnError)
  else match malloc (buf.size + sizeofDltBufferHead + buf.stepSize) with
    | none => (buf, dltReturnError)
    | some fresh =>
      let head := buf.shm
      let copied :=
        if head.read < head.write then
          (buf.mem.drop head.read.toNat).take (head.write - head.read).toNat
        else
          (buf.mem.drop head.read.toNat).take (buf.size - u32 head.read) ++
            buf.mem.take head.write.toNat
      let write :=
        if head.read < head.write then i32 (head.write - head.read)
        else i32 (i32 buf.size + head.write - head.read)
      let area := (List.range (buf.size + buf.stepSize)).map fun i => fresh (sizeofDltBufferHead + i)
      ({ buf with
          shm := { write, read := 0, count := head.count }
          size := buf.size + buf.stepSize
          mem := overwrite area 0 copied }, dltReturnOk)

/-- Source: `dlt_buffer_minimize_size` -/
def dltBufferMinimizeSize (malloc : Malloc) (buf : DltBuffer) : DltBuffer × ℤ :=
  if buf.size + sizeofDltBufferHead = buf.minSize then (buf, dltReturnOk)
  else match malloc buf.minSize with
    | none => (buf, dltReturnError)
    | some _ =>
      ({ buf with
          shm := { write := 0, read := 0, count := 0 }
          size := buf.minSize - sizeofDltBufferHead
          mem := List.replicate (buf.minSize - sizeofDltBufferHead) 0 }, dltReturnOk)

/-- Source: `dlt_buffer_reset` -/
def dltBufferReset (buf : DltBuffer) : DltBuffer :=
  { buf with
    shm := { write := 0, read := 0, count := 0 }
    mem := List.replicate buf.size 0 }

/-! ## Pushing -/

/-- The value of `free_size`, from the local variables of `dlt_buffer_push3`.
Source: `dlt_buffer_push3` -/
def dltBufferFreeSize (buf : DltBuffer) (count : ℤ) : ℤ :=
  if buf.shm.read > buf.shm.write then i32 (buf.shm.read - buf.shm.write)
  else if count ≠ 0 ∧ buf.shm.write = buf.shm.read then 0
  else i32 (i32 buf.size - buf.shm.write + buf.shm.read)

theorem dltBufferIncreaseSize_ok {malloc : Malloc} {buf : DltBuffer}
    (h : (dltBufferIncreaseSize malloc buf).2 = dltReturnOk) :
    0 < buf.stepSize ∧ buf.size + sizeofDltBufferHead + buf.stepSize ≤ buf.maxSize ∧
      (dltBufferIncreaseSize malloc buf).1.size = buf.size + buf.stepSize ∧
      (dltBufferIncreaseSize malloc buf).1.maxSize = buf.maxSize := by
  by_cases hstep : buf.stepSize = 0
  · simp [dltBufferIncreaseSize, hstep] at h
  by_cases hmax : buf.size + sizeofDltBufferHead + buf.stepSize > buf.maxSize
  · simp [dltBufferIncreaseSize, hstep, hmax] at h
  cases hm : malloc (buf.size + sizeofDltBufferHead + buf.stepSize) with
  | none => simp [dltBufferIncreaseSize, hstep, hmax, hm] at h
  | some fresh =>
    have hval : (dltBufferIncreaseSize malloc buf).1.size = buf.size + buf.stepSize ∧
        (dltBufferIncreaseSize malloc buf).1.maxSize = buf.maxSize := by
      simp [dltBufferIncreaseSize, hstep, hmax, hm]
    exact ⟨by omega, by omega, hval.1, hval.2⟩

/-- The loop of `dlt_buffer_push3`: grow until the message fits; `false` when growing failed. The
variable `count` keeps the value read before the loop.
Source: `dlt_buffer_push3` -/
def dltBufferPushGrow (malloc : Malloc) (needed count : ℤ) (buf : DltBuffer) : DltBuffer × Bool :=
  if dltBufferFreeSize buf count < needed then
    if _h : (dltBufferIncreaseSize malloc buf).2 = dltReturnOk then
      dltBufferPushGrow malloc needed count (dltBufferIncreaseSize malloc buf).1
    else ((dltBufferIncreaseSize malloc buf).1, false)
  else (buf, true)
termination_by buf.maxSize - buf.size
decreasing_by
  obtain ⟨hstep, hmax, hsize, hmaxSize⟩ := dltBufferIncreaseSize_ok _h
  rw [hsize, hmaxSize]
  omega

/-- One of the three conditional writes of `dlt_buffer_push3`, `if (size) dlt_buffer_write_block(…)`,
from the buffer and the position that the write before it left. -/
def dltBufferWritePart (at0 : DltBuffer × ℤ) (data : List UInt8) : DltBuffer × ℤ :=
  if data.length ≠ 0 then dltBufferWriteBlock at0.1 at0.2 data else at0

/-- The end of `dlt_buffer_push3`: the header and the three parts are written and the offset and the
counter updated. Source: `dlt_buffer_push3` -/
def dltBufferPushWrite (buf : DltBuffer) (data1 data2 data3 : List UInt8) : DltBuffer :=
  let head : DltBufferBlockHead :=
    { head := dltBufferHead, status := 2
      size := i32 (data1.length + data2.length + data3.length : ℕ) }
  let wrote0 := dltBufferWriteBlock buf buf.shm.write head.toBytes
  let wrote1 := dltBufferWritePart wrote0 data1
  let wrote2 := dltBufferWritePart wrote1 data2
  let wrote3 := dltBufferWritePart wrote2 data3
  { wrote3.1 with
    shm := { wrote3.1.shm with write := wrote3.2, count := i32 (wrote3.1.shm.count + 1) } }

/-- Source: `dlt_buffer_push3` -/
def dltBufferPush3 (malloc : Malloc) (buf : DltBuffer) (data1 data2 data3 : List UInt8) :
    DltBuffer × ℤ :=
  if u32 buf.shm.read > buf.size ∨ u32 buf.shm.write > buf.size then
    (dltBufferReset buf, dltReturnError)
  else
    let needed := i32
      (sizeofDltBufferBlockHead + (data1.length + data2.length + data3.length) : ℕ)
    let grown := dltBufferPushGrow malloc needed buf.shm.count buf
    if grown.2 then (dltBufferPushWrite grown.1 data1 data2 data3, dltReturnOk)
    else (grown.1, dltReturnError)

/-! ## Getting -/

/-- What a call returns: its value and the bytes it wrote to the caller's buffer. -/
structure DltBufferResult where
  ret : ℤ
  /-- The bytes written to `data`. -/
  data : List UInt8 := []
deriving DecidableEq, Repr

/-- The value of `used_size`, from the local variables of `dlt_buffer_get`.
Source: `dlt_buffer_get` -/
def dltBufferGetUsed (buf : DltBuffer) : ℤ :=
  if buf.shm.write > buf.shm.read then i32 (buf.shm.write - buf.shm.read)
  else i32 (i32 buf.size - buf.shm.read + buf.shm.write)

/-- The transfer of `dlt_buffer_get` behind the checks: `read` is behind the block header and `size`
is `head.size`. The flag `toData` says that the pointer `data` is not null. The result is the bytes
written to `data` and the position behind the message.
Source: `dlt_buffer_get` -/
def dltBufferGetData (buf : DltBuffer) (read size : ℤ) (toData : Bool) (maxSize : ℤ) :
    List UInt8 × ℤ :=
  if toData ∧ maxSize ≠ 0 then dltBufferReadBlock buf read (u32 size)
  else if u32 (read + size) ≤ buf.size then ([], i32 (read + size))
  else ([], i32 (read + size - i32 buf.size))

/-- The end of `dlt_buffer_get` with `delete` set: the offset and the counter are updated and an
empty buffer shrinks. Source: `dlt_buffer_get` -/
def dltBufferGetDelete (malloc : Malloc) (buf : DltBuffer) (read : ℤ) : DltBuffer :=
  let buf := { buf with shm := { buf.shm with read, count := i32 (buf.shm.count - 1) } }
  if buf.shm.count = 0 then (dltBufferMinimizeSize malloc buf).1 else buf

/-- A message longer than `max_size` is only reported: the source logs a warning and copies it.
Source: `dlt_buffer_get` -/
def dltBufferGet (malloc : Malloc) (buf : DltBuffer) (toData : Bool) (maxSize : ℤ) (delete : Bool) :
    DltBuffer × DltBufferResult :=
  if u32 buf.shm.read > buf.size ∨ u32 buf.shm.write > buf.size ∨ buf.shm.count < 0 then
    (dltBufferReset buf, { ret := dltReturnError })
  else if buf.shm.count = 0 then
    (if buf.shm.write ≠ buf.shm.read then dltBufferReset buf else buf, { ret := dltReturnError })
  else if dltBufferGetUsed buf < sizeofDltBufferBlockHead then
    (dltBufferReset buf, { ret := dltReturnError })
  else
    let got := dltBufferReadBlock buf buf.shm.read sizeofDltBufferBlockHead
    let head := DltBufferBlockHead.ofBytes got.1
    if head.head ≠ dltBufferHead then (dltBufferReset buf, { ret := dltReturnError })
    else if head.status ≠ 2 then (dltBufferReset buf, { ret := dltReturnError })
    else if dltBufferGetUsed buf < i32 (sizeofDltBufferBlockHead + head.size) then
      (dltBufferReset buf, { ret := dltReturnError })
    else
      let out := dltBufferGetData buf got.2 head.size toData maxSize
      (if delete then dltBufferGetDelete malloc buf out.2 else buf,
        { ret := head.size, data := out.1 })

/-- Source: `dlt_buffer_pull` -/
def dltBufferPull (malloc : Malloc) (buf : DltBuffer) (maxSize : ℤ) :
    DltBuffer × DltBufferResult := dltBufferGet malloc buf true maxSize true

/-- Source: `dlt_buffer_copy` -/
def dltBufferCopy (malloc : Malloc) (buf : DltBuffer) (maxSize : ℤ) :
    DltBuffer × DltBufferResult := dltBufferGet malloc buf true maxSize false

/-- Source: `dlt_buffer_remove` -/
def dltBufferRemove (malloc : Malloc) (buf : DltBuffer) : DltBuffer × DltBufferResult :=
  dltBufferGet malloc buf false 0 true

/-- With messages in the buffer it computes what `dlt_buffer_get` computes.
Source: `dlt_buffer_get_used_size` -/
def dltBufferGetUsedSize (buf : DltBuffer) : ℤ :=
  if buf.shm.count = 0 then dltReturnOk else dltBufferGetUsed buf

/-- Source: `dlt_buffer_get_message_count` -/
def dltBufferGetMessageCount (buf : DltBuffer) : ℤ := buf.shm.count

end Dlt.Shared
