import Dlt.Lib.Machine
import Dlt.Lib.Ring
import Dlt.Shared.Types

/-!
# The receiver `DltReceiver`

The functions of `dlt_common.c` that collect received bytes until a whole message is there.

* `receive_view`, `remove_view`, `moveToBegin_saved` — the three operations on them.
-/

namespace Dlt.Shared

open Dlt.Lib List

/-! ## Data -/

/-- The kind of a connection handle. Source: `dlt_common.h`, `DltReceiverType` -/
inductive DltReceiverType
  /-- `DLT_RECEIVE_SOCKET`. -/
  | socket
  /-- `DLT_RECEIVE_UDP_SOCKET`. -/
  | udpSocket
  /-- `DLT_RECEIVE_FD`. -/
  | fd
deriving DecidableEq, Repr

/-- Source: `DltReceiver` -/
structure DltReceiver where
  lastBytesRcvd : ℕ
  bytesRcvd : ℕ
  totalBytesRcvd : ℤ
  /-- Offset of the read pointer in the receive buffer. -/
  buf : ℕ
  /-- Partial message of an earlier round, if there is any. -/
  backupBuf : Option (List UInt8)
  /-- Kind of the connection handle. -/
  type : DltReceiverType
  buffersize : ℕ
deriving DecidableEq, Repr

open DltReceiver

/-- `DLT_RECEIVE_BUFSIZE`. Source: `dlt_common.h` -/
def dltReceiveBufsize : ℕ := 65535

/-- `DLT_RCV_SKIP_HEADER` and `DLT_RCV_REMOVE`, the flags of `dlt_receiver_check_and_get`.
Source: `dlt_common.h` -/
structure DltRcvFlags where
  /-- Skip a `DltUserHeader`. -/
  skipHeader : Bool
  remove : Bool
deriving DecidableEq, Repr

/-- `sizeof(DltUserHeader)`: the pattern and the message type. Source: `dlt_user_shared.h` -/
def sizeofDltUserHeader : ℕ := 8

/-! ## Operations -/

/-- A receiver with a buffer of its own, as initialised for the first time: `calloc` clears the
buffer. Source: `dlt_common.c`, `dlt_receiver_init` -/
def dltReceiverInit (type : DltReceiverType) (buffersize : ℕ) : List UInt8 × DltReceiver :=
  (List.replicate buffersize 0,
    { lastBytesRcvd := 0, bytesRcvd := 0, totalBytesRcvd := 0, buf := 0, backupBuf := none, type
      buffersize })

/-- A receiver on the buffer that all application receivers share.
Source: `dlt_receiver_init_global_buffer` -/
def dltReceiverInitGlobalBuffer (type : DltReceiverType) : DltReceiver :=
  { lastBytesRcvd := 0, bytesRcvd := 0, totalBytesRcvd := 0, buf := 0, backupBuf := none, type
    buffersize := dltReceiveBufsize }

/-- `got` is what the system call delivers when there is room for it; it delivers no more than there
is room for, and nothing (the empty list) when it fails. The result is the buffer, the receiver and
the return value. Source: `dlt_receiver_receive` -/
def dltReceiverReceive (buffer : List UInt8) (rec : DltReceiver) (got : List UInt8) :
    List UInt8 × DltReceiver × ℕ :=
  let last := rec.bytesRcvd
  let restored :=
    match rec.backupBuf with
    | some backup =>
        if last ≠ 0 then (overwrite buffer 0 (backup.take last), none)
        else (buffer, some backup)
    | none => (buffer, none)
  let got := got.take (rec.buffersize - last)
  let rec' := { rec with buf := 0, lastBytesRcvd := last, backupBuf := restored.2 }
  if got.length = 0 then (restored.1, { rec' with bytesRcvd := 0 }, 0)
  else (overwrite restored.1 last got,
    { rec' with
      totalBytesRcvd := i32 (rec.totalBytesRcvd + got.length)
      bytesRcvd := got.length + last }, got.length + last)

/-- Source: `dlt_receiver_remove` -/
def dltReceiverRemove (rec : DltReceiver) (size : ℤ) : DltReceiver × ℤ :=
  if size > rec.bytesRcvd ∨ size ≤ 0 then
    ({ rec with buf := rec.buf + rec.bytesRcvd, bytesRcvd := 0 }, dltReturnWrongParameter)
  else
    ({ rec with bytesRcvd := rec.bytesRcvd - size.toNat, buf := rec.buf + size.toNat }, dltReturnOk)

theorem dltReceiverRemove_lt {rec : DltReceiver} (size : ℤ) (h : 0 < rec.bytesRcvd) :
    (dltReceiverRemove rec size).1.bytesRcvd < rec.bytesRcvd := by
  unfold dltReceiverRemove
  split_ifs with hsize
  · exact h
  · simp only
    omega

/-- The memory of the backup is cleared by `calloc`, one byte longer than the rest.
Source: `dlt_receiver_move_to_begin` -/
def dltReceiverMoveToBegin (malloc : Malloc) (buffer : List UInt8) (rec : DltReceiver) :
    DltReceiver × ℤ :=
  if rec.buf ≠ 0 ∧ rec.bytesRcvd ≠ 0 then
    match malloc (rec.bytesRcvd + 1) with
    | none => ({ rec with backupBuf := none }, dltReturnOk)
    | some _ =>
        ({ rec with backupBuf := some ((buffer.drop rec.buf).take rec.bytesRcvd ++ [0]) },
          dltReturnOk)
  else (rec, dltReturnOk)

/-- The size of what `dlt_receiver_check_and_get` skips. -/
def DltRcvFlags.skip (flags : DltRcvFlags) : ℕ :=
  if flags.skipHeader then sizeofDltUserHeader else 0

@[simp] theorem DltRcvFlags.skip_true (remove : Bool) :
    (DltRcvFlags.mk true remove).skip = sizeofDltUserHeader := rfl

@[simp] theorem DltRcvFlags.skip_false (remove : Bool) : (DltRcvFlags.mk false remove).skip = 0 := rfl

/-- What `dlt_receiver_check_and_get` gives. -/
structure CheckAndGet where
  /-- The bytes copied to `dest`. -/
  dest : List UInt8
  receiver : DltReceiver
  ret : ℤ

/-- Source: `dlt_receiver_check_and_get` -/
def dltReceiverCheckAndGet (buffer : List UInt8) (rec : DltReceiver) (toGet : ℕ)
    (flags : DltRcvFlags) : CheckAndGet :=
  if (rec.bytesRcvd : ℤ) < i32 (toGet + flags.skip : ℕ) then ⟨[], rec, dltReturnWrongParameter⟩
  else
    let dest := (buffer.drop (rec.buf + flags.skip)).take toGet
    if flags.remove then
      let removed := dltReceiverRemove rec (i32 (toGet + flags.skip : ℕ))
      if removed.2 ≠ dltReturnOk then ⟨dest, removed.1, dltReturnError⟩
      else ⟨dest, removed.1, i32 (toGet : ℕ)⟩
    else ⟨dest, rec, i32 (toGet : ℕ)⟩

section checkAndGet

variable {buffer : List UInt8} {rec : DltReceiver} {toGet : ℕ} {flags : DltRcvFlags}

theorem checkAndGet_short (h : (rec.bytesRcvd : ℤ) < i32 (toGet + flags.skip : ℕ)) :
    dltReceiverCheckAndGet buffer rec toGet flags = ⟨[], rec, dltReturnWrongParameter⟩ := by
  rw [dltReceiverCheckAndGet]
  exact if_pos h

theorem checkAndGet_keep (h : ¬ (rec.bytesRcvd : ℤ) < i32 (toGet + flags.skip : ℕ))
    (hflag : flags.remove = false) :
    dltReceiverCheckAndGet buffer rec toGet flags =
      ⟨(buffer.drop (rec.buf + flags.skip)).take toGet, rec, i32 (toGet : ℕ)⟩ := by
  rw [dltReceiverCheckAndGet, hflag]
  exact if_neg h

theorem checkAndGet_remove (h : ¬ (rec.bytesRcvd : ℤ) < i32 (toGet + flags.skip : ℕ))
    (hflag : flags.remove = true) :
    dltReceiverCheckAndGet buffer rec toGet flags =
      ⟨(buffer.drop (rec.buf + flags.skip)).take toGet,
        (dltReceiverRemove rec (i32 (toGet + flags.skip : ℕ))).1,
        if (dltReceiverRemove rec (i32 (toGet + flags.skip : ℕ))).2 ≠ dltReturnOk then dltReturnError
        else i32 (toGet : ℕ)⟩ := by
  rw [dltReceiverCheckAndGet, hflag, if_neg h]
  by_cases hremove : (dltReceiverRemove rec (i32 (toGet + flags.skip : ℕ))).2 = dltReturnOk
  · simp only [if_true, ne_eq, hremove, not_true, if_false]
  · simp only [if_true, ne_eq, hremove, not_false_eq_true]

end checkAndGet

/-! ## The bytes not yet consumed -/

/-- The bytes behind the read pointer, `receiver->buf[0..bytesRcvd)`. -/
def DltReceiver.view (buffer : List UInt8) (rec : DltReceiver) : List UInt8 :=
  (buffer.drop rec.buf).take rec.bytesRcvd

/-- Within a round: the bytes not yet consumed lie behind the read pointer. -/
structure View (buffer : List UInt8) (rec : DltReceiver) (bytes : List UInt8) : Prop where
  length_buffer : buffer.length = rec.buffersize
  /-- The bytes lie inside the buffer. -/
  le_size : rec.buf + bytes.length ≤ rec.buffersize
  bytesRcvd_eq : rec.bytesRcvd = bytes.length
  /-- The bytes behind the read pointer. -/
  view_eq : rec.view buffer = bytes
  backup_eq : rec.backupBuf = none

/-- Between two rounds: the bytes lie in the backup, or at the beginning of the buffer when there is
none. -/
structure Saved (buffer : List UInt8) (rec : DltReceiver) (bytes : List UInt8) : Prop where
  length_buffer : buffer.length = rec.buffersize
  /-- The bytes fit the buffer. -/
  le_size : bytes.length ≤ rec.buffersize
  bytesRcvd_eq : rec.bytesRcvd = bytes.length
  backup_eq : ∀ backup ∈ rec.backupBuf, bytes ≠ [] ∧ bytes <+: backup
  buffer_eq : rec.backupBuf = none → bytes <+: buffer

section operations

variable {buffer : List UInt8} {rec : DltReceiver} {bytes : List UInt8}

theorem saved_init (hbuffer : buffer.length = rec.buffersize) (hrcvd : rec.bytesRcvd = 0)
    (hbackup : rec.backupBuf = none) : Saved buffer rec [] :=
  ⟨hbuffer, Nat.zero_le _, hrcvd, by simp [hbackup], fun _ => nil_prefix⟩

/-- A saved receiver does not depend on the buffer when it has a backup or nothing to save. -/
theorem Saved.of_backup {buffer' : List UInt8} (h : Saved buffer rec bytes)
    (hsafe : bytes ≠ [] → rec.backupBuf.isSome) (hlen : buffer'.length = buffer.length) :
    Saved buffer' rec bytes := by
  refine ⟨hlen.trans h.length_buffer, h.le_size, h.bytesRcvd_eq, h.backup_eq, fun hnone => ?_⟩
  by_cases hbytes : bytes = []
  · exact hbytes ▸ nil_prefix
  · have := hsafe hbytes
    simp [hnone] at this

/-- **Receiving** appends the new bytes to the ones not yet consumed. -/
theorem receive_view (h : Saved buffer rec bytes) {got : List UInt8} (hgot : got ≠ [])
    (hfit : bytes.length + got.length ≤ rec.buffersize) :
    View (dltReceiverReceive buffer rec got).1 (dltReceiverReceive buffer rec got).2.1
        (bytes ++ got) ∧
      (dltReceiverReceive buffer rec got).2.1.buffersize = rec.buffersize ∧
      (dltReceiverReceive buffer rec got).2.2 = bytes.length + got.length := by
  have hlast := h.bytesRcvd_eq
  have hbuffer := h.length_buffer
  have htake : got.take (rec.buffersize - rec.bytesRcvd) = got :=
    take_of_length_le (by omega)
  have hne : got.length ≠ 0 := by simpa using hgot
  -- what was not consumed is at the beginning of the buffer, after the backup was copied back
  obtain ⟨restored, hrestored, hlen, hpre⟩ : ∃ restored : List UInt8,
      (match rec.backupBuf with
        | some backup =>
          if rec.bytesRcvd ≠ 0 then (overwrite buffer 0 (backup.take rec.bytesRcvd), none)
          else (buffer, some backup)
        | none => (buffer, none)) = (restored, (none : Option (List UInt8))) ∧
      restored.length = rec.buffersize ∧ bytes <+: restored := by
    cases hbackup : rec.backupBuf with
    | none => exact ⟨buffer, rfl, hbuffer, h.buffer_eq hbackup⟩
    | some backup =>
      obtain ⟨hbytes, hpre⟩ := h.backup_eq backup hbackup
      have hcopy : backup.take rec.bytesRcvd = bytes := by
        rw [hlast]
        exact (prefix_iff_eq_take.mp hpre).symm
      refine ⟨overwrite buffer 0 bytes, ?_, ?_, ?_⟩
      · simp only [hcopy]
        exact if_pos (by rw [hlast]; simpa using hbytes)
      · rw [length_overwrite (by have := h.le_size; omega), hbuffer]
      · rw [overwrite_zero]
        exact prefix_append _ _
  unfold dltReceiverReceive
  simp only [htake, hrestored, hne, if_false]
  refine ⟨⟨?_, ?_, ?_, ?_, rfl⟩, trivial, by omega⟩
  · rw [length_overwrite (by omega), hlen]
  · simp only [length_append]
    omega
  · simp only [length_append]
    omega
  · have hstart : restored.take bytes.length = bytes := (prefix_iff_eq_take.mp hpre).symm
    simp only [view, drop_zero, overwrite, hlast, hstart]
    rw [take_left' (by simp only [length_append]; omega)]

/-- **Removing** a prefix leaves the rest. -/
theorem remove_view (h : View buffer rec bytes) {n : ℕ} (hpos : 0 < n) (hn : n ≤ bytes.length) :
    View buffer (dltReceiverRemove rec n).1 (bytes.drop n) ∧
      (dltReceiverRemove rec n).2 = dltReturnOk := by
  have hrcvd := h.bytesRcvd_eq
  unfold dltReceiverRemove
  rw [if_neg (by omega), Int.toNat_natCast]
  refine ⟨⟨h.length_buffer, ?_, ?_, ?_, h.backup_eq⟩, rfl⟩
  · have := h.le_size
    simp only [length_drop]
    omega
  · simp only [length_drop]
    omega
  · have hview := h.view_eq
    simp only [view] at hview ⊢
    rw [← hview, drop_take, drop_drop]

theorem remove_buffersize (rec : DltReceiver) (size : ℤ) :
    (dltReceiverRemove rec size).1.buffersize = rec.buffersize := by
  unfold dltReceiverRemove
  split_ifs <;> rfl

section

variable (h : View buffer rec bytes)
include h

theorem remove_too_much {size : ℤ} (hsize : bytes.length < size) :
    View buffer (dltReceiverRemove rec size).1 [] ∧
      (dltReceiverRemove rec size).2 = dltReturnWrongParameter := by
  have hrcvd := h.bytesRcvd_eq
  have hle := h.le_size
  unfold dltReceiverRemove
  rw [if_pos (.inl (by omega))]
  refine ⟨⟨h.length_buffer, ?_, rfl, ?_, h.backup_eq⟩, rfl⟩
  · simp only [length_nil]
    omega
  · simp [view]

theorem View.slice {i n : ℕ} (hin : i + n ≤ bytes.length) :
    (buffer.drop (rec.buf + i)).take n = (bytes.drop i).take n := by
  have hview := h.view_eq
  have hrcvd := h.bytesRcvd_eq
  unfold view at hview
  rw [← hview, drop_take, drop_drop, take_take, Nat.min_eq_left (by omega)]

/-- `dlt_receiver_check_and_get` waits for enough bytes. -/
theorem checkAndGet_view_short (toGet : ℕ) (flags : DltRcvFlags) (hshort : bytes.length < toGet + flags.skip)
    (hsmall : toGet + flags.skip < 2147483648) :
    dltReceiverCheckAndGet buffer rec toGet flags = ⟨[], rec, dltReturnWrongParameter⟩ := by
  have hrcvd := h.bytesRcvd_eq
  apply checkAndGet_short
  rw [i32_natCast hsmall]
  omega

section

variable (toGet : ℕ) (flags : DltRcvFlags) (henough : toGet + flags.skip ≤ bytes.length)
  (hsmall : toGet + flags.skip < 2147483648)
include henough hsmall

/-- `dlt_receiver_check_and_get` gets bytes and keeps them. -/
theorem checkAndGet_view_keep (hflag : flags.remove = false) :
    dltReceiverCheckAndGet buffer rec toGet flags =
      ⟨(bytes.drop flags.skip).take toGet, rec, toGet⟩ := by
  have hrcvd := h.bytesRcvd_eq
  rw [checkAndGet_keep (by rw [i32_natCast hsmall]; omega) hflag, h.slice (by omega),
    i32_natCast (show toGet < 2147483648 by omega)]

/-- `dlt_receiver_check_and_get` gets bytes and removes them. -/
theorem checkAndGet_view_remove (hpos : 0 < toGet + flags.skip) (hflag : flags.remove = true) :
    dltReceiverCheckAndGet buffer rec toGet flags =
        ⟨(bytes.drop flags.skip).take toGet,
          (dltReceiverRemove rec (toGet + flags.skip : ℕ)).1, toGet⟩ ∧
      View buffer (dltReceiverRemove rec (toGet + flags.skip : ℕ)).1
        (bytes.drop (toGet + flags.skip)) := by
  have hrcvd := h.bytesRcvd_eq
  obtain ⟨hview, hret⟩ := remove_view h hpos henough
  refine ⟨?_, hview⟩
  rw [checkAndGet_remove (by rw [i32_natCast hsmall]; omega) hflag, h.slice (by omega),
    i32_natCast hsmall, hret, i32_natCast (show toGet < 2147483648 by omega)]
  rfl

end

end

/-- **Ending a round** saves the rest, in a backup when the read pointer has moved. -/
theorem moveToBegin_saved {malloc : Malloc} (hm : malloc.Succeeds) (h : View buffer rec bytes) :
    Saved buffer (dltReceiverMoveToBegin malloc buffer rec).1 bytes ∧
      (dltReceiverMoveToBegin malloc buffer rec).1.buffersize = rec.buffersize ∧
      (dltReceiverMoveToBegin malloc buffer rec).2 = dltReturnOk := by
  have hview := h.view_eq
  have hrcvd := h.bytesRcvd_eq
  have hle := h.le_size
  unfold view at hview
  unfold dltReceiverMoveToBegin
  split_ifs with hmoved
  · obtain ⟨fresh, hfresh⟩ := Option.isSome_iff_exists.mp (hm (rec.bytesRcvd + 1))
    rw [hfresh, hview]
    refine ⟨⟨h.length_buffer, by simp only; omega, hrcvd, ?_, by simp⟩, rfl, rfl⟩
    intro backup hbackup
    rw [Option.mem_some_iff] at hbackup
    subst hbackup
    exact ⟨fun hnil => hmoved.2 (by simp [hrcvd, hnil]), prefix_append _ _⟩
  · have hfits : bytes.length ≤ rec.buffersize := by omega
    refine ⟨⟨h.length_buffer, hfits, hrcvd, by simp [h.backup_eq], fun _ => ?_⟩, rfl, rfl⟩
    by_cases hbuf : rec.buf = 0
    · rw [hbuf, drop_zero] at hview
      exact hview ▸ List.take_prefix _ _
    · have hzero : rec.bytesRcvd = 0 := by
        by_contra hne
        exact hmoved ⟨hbuf, hne⟩
      have hnil : bytes = [] := eq_nil_of_length_eq_zero (by omega)
      exact hnil ▸ nil_prefix

end operations

end Dlt.Shared
