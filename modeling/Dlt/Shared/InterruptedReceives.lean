import Dlt.Shared.Receiver
import Mathlib.Logic.Function.Basic

/-!
# Receives that fail or return nothing

* `interrupted_receives_iff` — nothing is lost exactly when every call that returns nothing comes while
  the receiver holds no bytes. `dlt_receiver_receive` counts the bytes from zero again after an error.
-/

namespace Dlt.Shared

open Dlt.Lib List Option

variable {ι σ : Type*} [DecidableEq ι]
variable {got : List UInt8}

/-! ## Turns -/

/-- What the handlers do with the bytes of one call. -/
structure HandledBytes (σ : Type*) where
  state : σ
  /-- The sizes given to `dlt_receiver_remove`, in order. -/
  removals : List ℤ
  /-- The caller goes on to `dlt_receiver_move_to_begin`. -/
  moves : Bool

/-- Receivers on one buffer, and the state of the message handlers. -/
structure Connections (ι σ : Type*) where
  buffer : List UInt8
  receivers : ι → DltReceiver
  handlers : σ

open Connections

/-- A call of `dlt_receiver_receive`. -/
structure ReceiveCall (ι : Type*) where
  connection : ι
  /-- What the system call delivers when there is room for it, nothing when it fails. -/
  got : List UInt8
  /-- The memory at the end of the call. -/
  malloc : Malloc

def removeAll (rec : DltReceiver) (sizes : List ℤ) : DltReceiver :=
  sizes.foldl (fun rec size => (dltReceiverRemove rec size).1) rec

def Connections.withReceiver (s : Connections ι σ) (i : ι) (buffer : List UInt8) (rec : DltReceiver)
    (handlers : σ) : Connections ι σ :=
  ⟨buffer, Function.update s.receivers i rec, handlers⟩

/-- What `dlt_receiver_receive` gives for a call. -/
def Connections.receive (s : Connections ι σ) (call : ReceiveCall ι) : List UInt8 × DltReceiver × ℕ :=
  dltReceiverReceive s.buffer (s.receivers call.connection) call.got

/-- The call returns nothing. -/
def Fails (s : Connections ι σ) (call : ReceiveCall ι) : Prop := (s.receive call).2.2 = 0

instance (s : Connections ι σ) (call : ReceiveCall ι) : Decidable (Fails s call) :=
  inferInstanceAs (Decidable (_ = 0))

section turn

variable (process : ι → σ → List UInt8 → HandledBytes σ)

/-- The bytes that the handlers get. -/
def Connections.bytes (s : Connections ι σ) (call : ReceiveCall ι) : List UInt8 :=
  (s.receive call).2.1.view (s.receive call).1

/-- The receiver after the handlers. -/
def Connections.settled (s : Connections ι σ) (call : ReceiveCall ι) (handled : HandledBytes σ) :
    DltReceiver :=
  let rec' := removeAll (s.receive call).2.1 handled.removals
  if handled.moves then (dltReceiverMoveToBegin call.malloc (s.receive call).1 rec').1 else rec'

/-- A call with the steps of its caller. `process` gets the connection, the handlers and the bytes
`receiver->buf[0..bytesRcvd)`.
Source: `dlt-daemon.c`, `dlt_daemon_process_user_messages`; `dlt_user.c`, `dlt_user_log_check_user_message` -/
def receiveTurn (s : Connections ι σ) (call : ReceiveCall ι) : Connections ι σ :=
  if Fails s call then s.withReceiver call.connection (s.receive call).1 (s.receive call).2.1 s.handlers
  else
    let handled := process call.connection s.handlers (s.bytes call)
    s.withReceiver call.connection (s.receive call).1 (s.settled call handled) handled.state

/-- The bytes that the handlers get in a run, with their connections. -/
def presented : Connections ι σ → List (ReceiveCall ι) → List (ι × List UInt8)
  | _, [] => []
  | s, call :: rest =>
      if Fails s call then presented (receiveTurn process s call) rest
      else (call.connection, s.bytes call) :: presented (receiveTurn process s call) rest

/-- The calls of a run that return something. -/
def withoutFailing : Connections ι σ → List (ReceiveCall ι) → List (ReceiveCall ι)
  | _, [] => []
  | s, call :: rest =>
      if Fails s call then withoutFailing (receiveTurn process s call) rest
      else call :: withoutFailing (receiveTurn process s call) rest

/-- The state after a run. -/
def afterCalls (s : Connections ι σ) (calls : List (ReceiveCall ι)) : Connections ι σ :=
  calls.foldl (receiveTurn process) s

/-- The bytes that a receiver holds between two calls: the next call puts them before the new ones. -/
def DltReceiver.held (buffer : List UInt8) (rec : DltReceiver) : List UInt8 :=
  (rec.backupBuf.getD buffer).take rec.bytesRcvd

/-- The bytes that a connection holds. -/
def Connections.held (s : Connections ι σ) (i : ι) : List UInt8 := (s.receivers i).held s.buffer

/-- A call that returns nothing leaves the bytes that the receiver holds. -/
def PartialKept : Connections ι σ → List (ReceiveCall ι) → Prop
  | _, [] => True
  | s, call :: rest =>
      (Fails s call → (receiveTurn process s call).held call.connection = s.held call.connection) ∧
        PartialKept (receiveTurn process s call) rest

/-- A call that returns nothing comes while the receiver counts no bytes. -/
def FailsEmpty : Connections ι σ → List (ReceiveCall ι) → Prop
  | _, [] => True
  | s, call :: rest =>
      (Fails s call → (s.receivers call.connection).bytesRcvd = 0) ∧ FailsEmpty (receiveTurn process s call) rest

end turn

/-- The receivers as they are initialised, on a buffer of their size with any contents.
Source: `dlt_common.c`, `dlt_receiver_init`, `dlt_receiver_init_global_buffer` -/
structure Connections.Start (s : Connections ι σ) : Prop where
  buffersize_eq : ∀ i, (s.receivers i).buffersize = s.buffer.length
  bytesRcvd_eq : ∀ i, (s.receivers i).bytesRcvd = 0
  backup_eq : ∀ i, (s.receivers i).backupBuf = none

omit [DecidableEq ι] in
theorem start_init (type : DltReceiverType) (buffersize : ℕ) (handlers : σ) :
    Connections.Start (⟨(dltReceiverInit type buffersize).1, fun _ => (dltReceiverInit type buffersize).2,
      handlers⟩ : Connections ι σ) :=
  ⟨fun _ => length_replicate.symm, fun _ => rfl, fun _ => rfl⟩

omit [DecidableEq ι] in
/-! ## Equations -/

section equations

variable {process : ι → σ → List UInt8 → HandledBytes σ} {s : Connections ι σ} {call : ReceiveCall ι}

@[simp] theorem withReceiver_buffer (i : ι) (buffer : List UInt8) (rec : DltReceiver) (handlers : σ) :
    (s.withReceiver i buffer rec handlers).buffer = buffer := rfl

@[simp] theorem withReceiver_self (i : ι) (buffer : List UInt8) (rec : DltReceiver) (handlers : σ) :
    (s.withReceiver i buffer rec handlers).receivers i = rec := Function.update_self ..

theorem withReceiver_ne {i j : ι} (hne : j ≠ i) (buffer : List UInt8) (rec : DltReceiver) (handlers : σ) :
    (s.withReceiver i buffer rec handlers).receivers j = s.receivers j := Function.update_of_ne hne ..

theorem turn_fails (h : Fails s call) : receiveTurn process s call =
    s.withReceiver call.connection (s.receive call).1 (s.receive call).2.1 s.handlers := if_pos h

theorem turn_succeeds (h : ¬ Fails s call) : receiveTurn process s call =
    s.withReceiver call.connection (s.receive call).1
      (s.settled call (process call.connection s.handlers (s.bytes call)))
      (process call.connection s.handlers (s.bytes call)).state := if_neg h

end equations

/-! ## The bytes that a receiver holds -/

section receivers

variable {buffer : List UInt8} {rec : DltReceiver}

/-- Between two calls: the counter of bytes is within the buffer and within the backup. -/
structure Kept (buffer : List UInt8) (rec : DltReceiver) : Prop where
  length_buffer : buffer.length = rec.buffersize
  le_size : rec.bytesRcvd ≤ rec.buffersize
  backup : ∀ backup ∈ rec.backupBuf, 0 < rec.bytesRcvd ∧ rec.bytesRcvd ≤ backup.length

/-- Within a call: the bytes lie inside the buffer, and the backup was used up. -/
structure InBuffer (buffer : List UInt8) (rec : DltReceiver) : Prop where
  length_buffer : buffer.length = rec.buffersize
  le_size : rec.buf + rec.bytesRcvd ≤ rec.buffersize
  backup : rec.backupBuf = none

theorem Kept.length_held (h : Kept buffer rec) : (rec.held buffer).length = rec.bytesRcvd := by
  have hlen := h.length_buffer
  have hle := h.le_size
  unfold DltReceiver.held
  rw [length_take]
  cases hbackup : rec.backupBuf with
  | none =>
    rw [getD_none]
    omega
  | some backup =>
    obtain ⟨-, hfits⟩ := h.backup backup hbackup
    rw [getD_some]
    omega

theorem Kept.saved (h : Kept buffer rec) : Saved buffer rec (rec.held buffer) := by
  refine ⟨h.length_buffer, ?_, h.length_held.symm, ?_, ?_⟩
  · rw [h.length_held]
    exact h.le_size
  · intro backup hbackup
    obtain ⟨hpos, -⟩ := h.backup backup hbackup
    refine ⟨?_, ?_⟩
    · intro hnil
      have hlen := h.length_held
      rw [hnil, length_nil] at hlen
      omega
    · rw [DltReceiver.held, mem_def.mp hbackup, getD_some]
      exact List.take_prefix _ _
  · intro hnone
    rw [DltReceiver.held, hnone, getD_none]
    exact List.take_prefix _ _

theorem Kept.of_length {buffer' : List UInt8} (h : Kept buffer rec) (hlen : buffer'.length = buffer.length) :
    Kept buffer' rec := ⟨hlen.trans h.length_buffer, h.le_size, h.backup⟩

/-- The call ends without `dlt_receiver_move_to_begin`. -/
theorem InBuffer.kept (h : InBuffer buffer rec) : Kept buffer rec := by
  refine ⟨h.length_buffer, (Nat.le_add_left _ _).trans h.le_size, ?_⟩
  intro backup hbackup
  rw [h.backup] at hbackup
  cases hbackup

/-- The part that the system call delivers is what there is room for. -/
theorem receive_take (buffer : List UInt8) (rec : DltReceiver) (got : List UInt8) :
    dltReceiverReceive buffer rec (got.take (rec.buffersize - rec.bytesRcvd)) =
      dltReceiverReceive buffer rec got := by
  unfold dltReceiverReceive
  simp only [take_take, min_self]

theorem receive_delivers (h : (dltReceiverReceive buffer rec got).2.2 ≠ 0) :
    got.take (rec.buffersize - rec.bytesRcvd) ≠ [] := by
  intro hnil
  apply h
  unfold dltReceiverReceive
  simp [hnil]

/-- **Receiving** puts the new bytes behind the ones held. -/
theorem Kept.receive_view (h : Kept buffer rec) (hret : (dltReceiverReceive buffer rec got).2.2 ≠ 0) :
    View (dltReceiverReceive buffer rec got).1 (dltReceiverReceive buffer rec got).2.1
        (rec.held buffer ++ got.take (rec.buffersize - rec.bytesRcvd)) ∧
      (dltReceiverReceive buffer rec got).2.1.buffersize = rec.buffersize := by
  have hle := h.le_size
  obtain ⟨hview, hsize, -⟩ := Dlt.Shared.receive_view h.saved (receive_delivers hret) (by
    rw [h.length_held, length_take]
    omega)
  rw [receive_take] at hview hsize
  exact ⟨hview, hsize⟩

/-- After a receive that returns something the bytes lie inside the buffer. -/
theorem Kept.receive_inBuffer (h : Kept buffer rec) (hret : (dltReceiverReceive buffer rec got).2.2 ≠ 0) :
    InBuffer (dltReceiverReceive buffer rec got).1 (dltReceiverReceive buffer rec got).2.1 := by
  obtain ⟨hview, -⟩ := h.receive_view hret
  refine ⟨hview.length_buffer, ?_, hview.backup_eq⟩
  rw [hview.bytesRcvd_eq]
  exact hview.le_size

/-- What the system call finds in the buffer and leaves of the backup. -/
def restored (buffer : List UInt8) (rec : DltReceiver) : List UInt8 × Option (List UInt8) :=
  match rec.backupBuf with
  | some backup =>
      if rec.bytesRcvd ≠ 0 then (overwrite buffer 0 (backup.take rec.bytesRcvd), none) else (buffer, some backup)
  | none => (buffer, none)

theorem receive_nothing (hret : (dltReceiverReceive buffer rec got).2.2 = 0) :
    dltReceiverReceive buffer rec got = ((restored buffer rec).1,
      { rec with
        buf := 0, lastBytesRcvd := rec.bytesRcvd, backupBuf := (restored buffer rec).2, bytesRcvd := 0 }, 0) := by
  have hnone : (got.take (rec.buffersize - rec.bytesRcvd)).length = 0 := by
    by_contra hne
    unfold dltReceiverReceive at hret
    simp only [hne, if_false] at hret
    omega
  unfold dltReceiverReceive
  simp only [hnone, if_true]
  rfl

/-- What was restored has the length of the buffer, and the backup is used up. -/
theorem Kept.restored (h : Kept buffer rec) :
    (restored buffer rec).1.length = buffer.length ∧ (restored buffer rec).2 = none := by
  have hlen := h.length_buffer
  have hle := h.le_size
  unfold Dlt.Shared.restored
  cases hbackup : rec.backupBuf with
  | none => exact ⟨rfl, rfl⟩
  | some backup =>
    obtain ⟨hpos, -⟩ := h.backup backup hbackup
    have hne : rec.bytesRcvd ≠ 0 := by omega
    simp only [hne, ne_eq, not_false_eq_true, if_true, and_true]
    apply length_overwrite
    rw [length_take]
    omega

theorem Kept.receive_nothing (h : Kept buffer rec) (hret : (dltReceiverReceive buffer rec got).2.2 = 0) :
    Kept (dltReceiverReceive buffer rec got).1 (dltReceiverReceive buffer rec got).2.1 ∧
      (dltReceiverReceive buffer rec got).2.1.held (dltReceiverReceive buffer rec got).1 = [] ∧
      (dltReceiverReceive buffer rec got).1.length = buffer.length := by
  obtain ⟨hlen, hnone⟩ := h.restored
  rw [Dlt.Shared.receive_nothing hret]
  refine ⟨⟨hlen.trans h.length_buffer, Nat.zero_le _, ?_⟩, take_zero, hlen⟩
  intro backup hbackup
  rw [hnone] at hbackup
  cases hbackup

theorem Kept.receive_length (h : Kept buffer rec) (got : List UInt8) :
    (dltReceiverReceive buffer rec got).1.length = buffer.length := by
  by_cases hret : (dltReceiverReceive buffer rec got).2.2 = 0
  · exact (h.receive_nothing hret).2.2
  · obtain ⟨hview, hsize⟩ := h.receive_view hret
    rw [hview.length_buffer, hsize, h.length_buffer]

theorem InBuffer.remove (h : InBuffer buffer rec) (size : ℤ) : InBuffer buffer (dltReceiverRemove rec size).1 := by
  have hle := h.le_size
  unfold dltReceiverRemove
  split_ifs with hsize
  · exact ⟨h.length_buffer, hle, h.backup⟩
  · refine ⟨h.length_buffer, ?_, h.backup⟩
    simp only
    omega

theorem InBuffer.removeAll (h : InBuffer buffer rec) (sizes : List ℤ) : InBuffer buffer (removeAll rec sizes) := by
  induction sizes generalizing rec with
  | nil => exact h
  | cons size rest ih => exact ih (h.remove size)

theorem InBuffer.moveToBegin (h : InBuffer buffer rec) (malloc : Malloc) :
    Kept buffer (dltReceiverMoveToBegin malloc buffer rec).1 := by
  have hlen := h.length_buffer
  have hle := h.le_size
  unfold dltReceiverMoveToBegin
  split_ifs with hmoved
  · cases malloc (rec.bytesRcvd + 1) with
    | none => exact ⟨hlen, by simp only; omega, by simp⟩
    | some fresh =>
      refine ⟨hlen, by simp only; omega, ?_⟩
      intro backup hbackup
      cases hbackup
      refine ⟨Nat.pos_of_ne_zero hmoved.2, ?_⟩
      rw [length_append, length_take, length_drop]
      simp only
      omega
  · exact h.kept

/-- A receiver without the two fields that every receive sets first. -/
def DltReceiver.base (rec : DltReceiver) : DltReceiver := { rec with buf := 0, lastBytesRcvd := 0 }

theorem receive_base (buffer : List UInt8) (rec : DltReceiver) (got : List UInt8) :
    dltReceiverReceive buffer rec.base got = dltReceiverReceive buffer rec got := rfl

/-- **A receive that returns nothing while nothing is held** sets only those fields. -/
theorem receive_empty (hfail : (dltReceiverReceive buffer rec got).2.2 = 0) (hempty : rec.bytesRcvd = 0) :
    (dltReceiverReceive buffer rec got).1 = buffer ∧ (dltReceiverReceive buffer rec got).2.1.base = rec.base := by
  have hrestored : restored buffer rec = (buffer, rec.backupBuf) := by
    unfold restored
    cases rec.backupBuf with
    | none => rfl
    | some backup => simp only [hempty, ne_eq, not_true_eq_false, if_false]
  rw [receive_nothing hfail, hrestored]
  refine ⟨rfl, ?_⟩
  simp only [DltReceiver.base, hempty]

end receivers

/-! ## Every receiver has its bytes saved -/

section runs

variable {process : ι → σ → List UInt8 → HandledBytes σ} {s s' : Connections ι σ} {call : ReceiveCall ι}
  {calls : List (ReceiveCall ι)}

/-- Between two calls every receiver has its bytes saved. -/
def WellKept (s : Connections ι σ) : Prop := ∀ i, Kept s.buffer (s.receivers i)

omit [DecidableEq ι] in
theorem Connections.Start.wellKept (h : s.Start) : WellKept s := by
  intro i
  refine ⟨(h.buffersize_eq i).symm, ?_, ?_⟩
  · rw [h.bytesRcvd_eq]
    exact Nat.zero_le _
  · intro backup hbackup
    rw [h.backup_eq] at hbackup
    cases hbackup

/-- The receiver of one connection is replaced, on a buffer of the same length. -/
theorem WellKept.withReceiver (h : WellKept s) {i : ι} {buffer : List UInt8} {rec : DltReceiver} {handlers : σ}
    (hrec : Kept buffer rec) (hlen : buffer.length = s.buffer.length) :
    WellKept (s.withReceiver i buffer rec handlers) := by
  intro j
  by_cases hj : j = i
  · subst hj
    rw [withReceiver_self]
    exact hrec
  · rw [withReceiver_ne hj]
    exact (h j).of_length hlen

/-- **A turn** keeps the bytes of every receiver saved. -/
theorem WellKept.turn (h : WellKept s) (call : ReceiveCall ι) : WellKept (receiveTurn process s call) := by
  have hkept := h call.connection
  by_cases hfail : Fails s call
  · rw [turn_fails hfail]
    obtain ⟨hrec, -, hlen⟩ := hkept.receive_nothing hfail
    exact h.withReceiver hrec hlen
  · rw [turn_succeeds hfail]
    refine h.withReceiver ?_ (hkept.receive_length call.got)
    have hround := (hkept.receive_inBuffer hfail).removeAll
      (process call.connection s.handlers (s.bytes call)).removals
    unfold settled
    dsimp only
    split_ifs with hmoves
    · exact hround.moveToBegin call.malloc
    · exact hround.kept

/-! ## States that no further turn can tell apart -/

/-- Two states that differ in no more than those fields. -/
structure SameConnections (s s' : Connections ι σ) : Prop where
  buffer_eq : s.buffer = s'.buffer
  handlers_eq : s.handlers = s'.handlers
  base_eq : ∀ i, (s.receivers i).base = (s'.receivers i).base

omit [DecidableEq ι] in
theorem SameConnections.refl (s : Connections ι σ) : SameConnections s s := ⟨rfl, rfl, fun _ => rfl⟩

omit [DecidableEq ι] in
theorem SameConnections.trans {t : Connections ι σ} (h : SameConnections s s') (h' : SameConnections s' t) :
    SameConnections s t :=
  ⟨h.buffer_eq.trans h'.buffer_eq, h.handlers_eq.trans h'.handlers_eq,
    fun i => (h.base_eq i).trans (h'.base_eq i)⟩

omit [DecidableEq ι] in
theorem SameConnections.receive_eq (h : SameConnections s s') (call : ReceiveCall ι) :
    s.receive call = s'.receive call := by
  unfold receive
  rw [← receive_base, h.buffer_eq, h.base_eq, receive_base]

theorem SameConnections.withReceiver (h : SameConnections s s') (i : ι) (buffer : List UInt8)
    (rec : DltReceiver) (handlers : σ) :
    SameConnections (s.withReceiver i buffer rec handlers) (s'.withReceiver i buffer rec handlers) := by
  refine ⟨rfl, rfl, fun j => ?_⟩
  by_cases hj : j = i
  · subst hj
    simp only [withReceiver_self]
  · rw [withReceiver_ne hj, withReceiver_ne hj]
    exact h.base_eq j

/-- **A turn** is the same in both. -/
theorem SameConnections.turn (h : SameConnections s s') (call : ReceiveCall ι) :
    SameConnections (receiveTurn process s call) (receiveTurn process s' call) ∧ (Fails s call ↔ Fails s' call) ∧
      s.bytes call = s'.bytes call := by
  have hreceive := h.receive_eq call
  have hbytes : s.bytes call = s'.bytes call := by
    unfold bytes
    rw [hreceive]
  have hfails : Fails s call ↔ Fails s' call := by
    unfold Fails
    rw [hreceive]
  refine ⟨?_, hfails, hbytes⟩
  by_cases hfail : Fails s call
  · rw [turn_fails hfail, turn_fails (hfails.mp hfail), hreceive, h.handlers_eq]
    exact h.withReceiver _ _ _ _
  · have hsettled : s.settled call = s'.settled call := by
      unfold settled
      rw [hreceive]
    rw [turn_succeeds hfail, turn_succeeds fun hfail' => hfail (hfails.mpr hfail'), hreceive, h.handlers_eq,
      hbytes, hsettled]
    exact h.withReceiver _ _ _ _

/-- **A call that returns nothing while nothing is held** leaves the state as it is. -/
theorem turn_empty (hfail : Fails s call) (hempty : (s.receivers call.connection).bytesRcvd = 0) :
    SameConnections (receiveTurn process s call) s := by
  obtain ⟨hbuffer, hbase⟩ := receive_empty hfail hempty
  rw [turn_fails hfail]
  refine ⟨hbuffer, rfl, fun j => ?_⟩
  by_cases hj : j = call.connection
  · subst hj
    rw [withReceiver_self]
    exact hbase
  · rw [withReceiver_ne hj]

/-- **Runs**: without the calls that return nothing, the handlers get the same bytes and the run ends in the
same state. -/
theorem SameConnections.run (h : SameConnections s s') (hempty : FailsEmpty process s calls) :
    presented process s calls = presented process s' (withoutFailing process s calls) ∧
      SameConnections (afterCalls process s calls)
        (afterCalls process s' (withoutFailing process s calls)) := by
  induction calls generalizing s s' with
  | nil => exact ⟨rfl, h⟩
  | cons call rest ih =>
    obtain ⟨hcall, hrest⟩ := hempty
    by_cases hfail : Fails s call
    · -- the shorter run stays where it is
      have hsame := (@turn_empty _ _ _ process _ _ hfail (hcall hfail)).trans h
      have hshort : withoutFailing process s (call :: rest) =
          withoutFailing process (receiveTurn process s call) rest := if_pos hfail
      have hlong : presented process s (call :: rest) =
          presented process (receiveTurn process s call) rest := if_pos hfail
      rw [hshort, hlong]
      exact ih hsame hrest
    · obtain ⟨hsame, hfails, hbytes⟩ := @SameConnections.turn _ _ _ process _ _ h call
      have hshort : withoutFailing process s (call :: rest) =
          call :: withoutFailing process (receiveTurn process s call) rest := if_neg hfail
      have hlong : presented process s (call :: rest) =
          (call.connection, s.bytes call) :: presented process (receiveTurn process s call) rest :=
        if_neg hfail
      obtain ⟨hpresented, hafter⟩ := ih hsame hrest
      rw [hshort, hlong]
      refine ⟨?_, hafter⟩
      rw [presented, if_neg fun hfail' => hfail (hfails.mpr hfail'), hbytes, hpresented]

/-! ## Nothing is lost -/

/-- A call that returns nothing leaves the bytes held exactly when there are none. -/
theorem WellKept.held_turn_iff (h : WellKept s) (hfail : Fails s call) :
    (receiveTurn process s call).held call.connection = s.held call.connection ↔
      (s.receivers call.connection).bytesRcvd = 0 := by
  have hkept := h call.connection
  obtain ⟨-, hnothing, -⟩ := hkept.receive_nothing hfail
  have hafter : (receiveTurn process s call).held call.connection = [] := by
    rw [turn_fails hfail, held, withReceiver_self, withReceiver_buffer]
    exact hnothing
  have hlen : (s.held call.connection).length = (s.receivers call.connection).bytesRcvd := hkept.length_held
  rw [hafter, ← hlen, length_eq_zero_iff]
  exact eq_comm

/-- In a run the bytes held survive every call that returns nothing exactly when there are none. -/
theorem WellKept.partialKept_iff (h : WellKept s) : PartialKept process s calls ↔ FailsEmpty process s calls := by
  induction calls generalizing s with
  | nil => exact Iff.rfl
  | cons call rest ih =>
    unfold PartialKept FailsEmpty
    rw [ih (h.turn call)]
    refine and_congr_left fun _ => ?_
    constructor
    · intro hkept hfail
      exact (h.held_turn_iff hfail).mp (hkept hfail)
    · intro hempty hfail
      exact (h.held_turn_iff hfail).mpr (hempty hfail)

/-- Nothing is lost: the handlers get the same bytes as without the calls that return nothing, and what was
received of a message is still there after each of those. -/
structure NothingLost (process : ι → σ → List UInt8 → HandledBytes σ) (s : Connections ι σ)
    (calls : List (ReceiveCall ι)) : Prop where
  presented_eq : presented process s calls = presented process s (withoutFailing process s calls)
  partial_kept : PartialKept process s calls

/-- **Interrupted receives** lose nothing exactly when each of them comes while nothing is held. -/
theorem interrupted_receives_iff (process : ι → σ → List UInt8 → HandledBytes σ) (s : Connections ι σ)
    (hs : s.Start) (calls : List (ReceiveCall ι)) :
    NothingLost process s calls ↔ FailsEmpty process s calls := by
  have hkept := hs.wellKept
  constructor
  · intro h
    exact hkept.partialKept_iff.mp h.partial_kept
  · intro h
    obtain ⟨hpresented, -⟩ := (SameConnections.refl s).run h
    exact ⟨hpresented, hkept.partialKept_iff.mpr h⟩

/-! ## A partial message -/

/-- A handler that takes messages of the size of a `DltUserHeader` and waits until one is there, with the
number of messages it took. -/
def headerHandler (_ : Unit) (taken : ℕ) (bytes : List UInt8) : HandledBytes ℕ :=
  if bytes.length < sizeofDltUserHeader then ⟨taken, [], true⟩ else ⟨taken + 1, [sizeofDltUserHeader], true⟩

/-- A connection with a receiver of its own. -/
def sampleConnection : Connections Unit ℕ :=
  ⟨(dltReceiverInit .fd 16).1, fun _ => (dltReceiverInit .fd 16).2, 0⟩

/-- A header in two parts, and between them a receive that returns nothing. -/
def interruptedHeader : List (ReceiveCall Unit) :=
  [⟨(), [0x44, 0x55, 0x48, 0x01], zeroMalloc⟩, ⟨(), [], zeroMalloc⟩, ⟨(), [6, 0, 0, 0], zeroMalloc⟩]

/-- The receive that returns nothing comes before the header. -/
def headerAfterNothing : List (ReceiveCall Unit) :=
  [⟨(), [], zeroMalloc⟩, ⟨(), [0x44, 0x55, 0x48, 0x01], zeroMalloc⟩, ⟨(), [6, 0, 0, 0], zeroMalloc⟩]

theorem interrupted_receives_sample : NothingLost headerHandler sampleConnection headerAfterNothing :=
  (interrupted_receives_iff headerHandler sampleConnection (start_init .fd 16 0) headerAfterNothing).mpr
    ⟨fun _ => rfl, fun hfail => absurd hfail (by decide +kernel), fun hfail => absurd hfail (by decide +kernel),
      trivial⟩

/-- The second part is presented alone, and the message is never taken. -/
theorem interrupted_receive_loses_partial_message :
    presented headerHandler sampleConnection interruptedHeader =
        [((), [0x44, 0x55, 0x48, 0x01]), ((), [6, 0, 0, 0])] ∧
      presented headerHandler sampleConnection
          (withoutFailing headerHandler sampleConnection interruptedHeader) =
        [((), [0x44, 0x55, 0x48, 0x01]), ((), [0x44, 0x55, 0x48, 0x01, 6, 0, 0, 0])] ∧
      (afterCalls headerHandler sampleConnection interruptedHeader).handlers = 0 ∧
      (afterCalls headerHandler sampleConnection
        (withoutFailing headerHandler sampleConnection interruptedHeader)).handlers = 1 ∧
      ¬ NothingLost headerHandler sampleConnection interruptedHeader := by
  have hlong : presented headerHandler sampleConnection interruptedHeader =
      [((), [0x44, 0x55, 0x48, 0x01]), ((), [6, 0, 0, 0])] := by decide +kernel
  have hshort : presented headerHandler sampleConnection
      (withoutFailing headerHandler sampleConnection interruptedHeader) =
      [((), [0x44, 0x55, 0x48, 0x01]), ((), [0x44, 0x55, 0x48, 0x01, 6, 0, 0, 0])] := by decide +kernel
  refine ⟨hlong, hshort, by decide +kernel, by decide +kernel, ?_⟩
  intro h
  have heq := h.presented_eq
  rw [hlong, hshort] at heq
  exact absurd heq (by decide)

end runs

end Dlt.Shared
