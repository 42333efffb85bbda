import Dlt.Shared.MessageFrame
import Dlt.Shared.Receiver

/-!
# The main loop of a client: `dlt_client_main_loop`

* `dltClientMainLoop_delivers_iff` — each message is delivered once, in order, exactly when
  `Accounted` holds.
-/

namespace Dlt.Client

open Dlt.Lib Dlt.Shared List

variable {msg : DltMessage}

/-! ## The loop -/

/-- The part of a client that the loop uses. Source: `dlt_client.h`, `DltClient` -/
structure DltClient where
  buffer : List UInt8
  receiver : DltReceiver
  /-- Look for the serial header when a message does not start with it. -/
  resyncSerialHeader : Bool

/-- The receiver and the record after the inner loop, the messages passed to the callback, and
whether a removal failed. -/
structure ClientRead where
  calls : List DltMessage
  receiver : DltReceiver
  /-- The record used for every message. -/
  msg : DltMessage
  /-- `dlt_receiver_remove` returned `DLT_RETURN_ERROR`. -/
  failed : Bool

/-- The number of bytes that the loop removes for a message.
Source: `dlt_client.c`, `dlt_client_main_loop` -/
def dltClientRemoveSize (msg : DltMessage) : ℤ :=
  if msg.foundSerialheader then
    msg.headersize + msg.datasize - sizeofDltStorageHeader + dltSerialHeader.length
  else msg.headersize + msg.datasize - sizeofDltStorageHeader

/-- The inner loop. Source: `dlt_client_main_loop` -/
def dltClientReadMessages (malloc : Malloc) (resync : Bool) (buffer : List UInt8)
    (receiver : DltReceiver) (msg : DltMessage) : ClientRead :=
  let read := dltMessageRead malloc msg (buffer.drop receiver.buf) receiver.bytesRcvd resync
  if _h : read.2 = dltMessageErrorOk then
    let removed := dltReceiverRemove receiver (i32 (dltClientRemoveSize read.1))
    if removed.2 = dltReturnError then
      { calls := [read.1], receiver := removed.1, msg := read.1, failed := true }
    else
      let rest := dltClientReadMessages malloc resync buffer removed.1 read.1
      { rest with calls := read.1 :: rest.calls }
  else { calls := [], receiver, msg := read.1, failed := false }
termination_by receiver.bytesRcvd
decreasing_by exact dltReceiverRemove_lt _ (dltMessageRead_pos _h)

/-- One turn of the outer loop after a receive that delivered something, up to the callback that
decides whether to go on: the client, what the inner loop gave, and the value of
`dlt_receiver_move_to_begin`. Source: `dlt_client_main_loop` -/
def dltClientRound (malloc : Malloc) (client : DltClient) (msg : DltMessage) (got : List UInt8) :
    DltClient × ClientRead × ℤ :=
  let received := dltReceiverReceive client.buffer client.receiver got
  let read := dltClientReadMessages malloc client.resyncSerialHeader received.1 received.2.1 msg
  let moved := dltReceiverMoveToBegin malloc received.1 read.receiver
  ({ client with buffer := received.1, receiver := moved.1 }, read, moved.2)

/-- The outer loop. Each element of the list is what a receive delivers and what
`fetch_next_message_callback_function` then answers (true when it is not set); behind the end of the
list the receive delivers nothing. The result is the list of the messages passed to the callback and
the return value. Source: `dlt_client_main_loop` -/
def dltClientMainLoop (malloc : Malloc) (client : DltClient) (msg : DltMessage) :
    List (List UInt8 × Bool) → List DltMessage × ℤ
  | [] => ([], dltReturnTrue)
  | (got, fetchNext) :: rest =>
      if (dltReceiverReceive client.buffer client.receiver got).2.2 = 0 then ([], dltReturnTrue)
      else
        let (client', read, moved) := dltClientRound malloc client msg got
        if read.failed then (read.calls, dltReturnError)
        else if moved = dltReturnError then (read.calls, dltReturnError)
        else if fetchNext then
          let next := dltClientMainLoop malloc client' read.msg rest
          (read.calls ++ next.1, next.2)
        else (read.calls, dltReturnOk)

/-- Every receive delivers at least one byte, and there is room for what it delivers. -/
def ReceivesFit (malloc : Malloc) (client : DltClient) (msg : DltMessage) :
    List (List UInt8) → Prop
  | [] => True
  | got :: rest =>
      got ≠ [] ∧ client.receiver.bytesRcvd + got.length ≤ client.receiver.buffersize ∧
        ReceivesFit malloc (dltClientRound malloc client msg got).1
          (dltClientRound malloc client msg got).2.1.msg rest

/-! ## The frames of the stream -/

/-- A frame that the reader finds, as the code reads it, with what is then removed. -/
theorem dltClientRemoveSize_eq {f : Frame} (h : msg.Holds f) (hfound : f.found = true) :
    dltClientRemoveSize msg = f.removed := by
  unfold dltClientRemoveSize Frame.removed
  rw [h.found_eq, hfound, h.headersize_eq, h.datasize_eq, if_pos rfl]
  simp only [dltSerialHeader, length_cons, length_nil]
  omega

/-- The record that the callback gets for a frame. -/
structure Delivered (msg : DltMessage) (f : Frame) : Prop extends msg.Holds f where
  remove_eq : dltClientRemoveSize msg = f.removed

section frames

variable {malloc : Malloc}

/-- **The inner loop** passes the frames at hand to the callback and leaves what the reader leaves. -/
theorem dltClientReadMessages_drain (hm : malloc.Succeeds) {buffer : List UInt8} {receiver : DltReceiver}
    {bytes : List UInt8} (hsize : receiver.buffersize < 2147483648) (h : View buffer receiver bytes)
    (hwf : msg.Wf) :
    List.Forall₂ Delivered
        (dltClientReadMessages malloc true buffer receiver msg).calls (resyncReader.drain bytes).1 ∧
      View buffer (dltClientReadMessages malloc true buffer receiver msg).receiver
        (resyncReader.drain bytes).2 ∧
      (dltClientReadMessages malloc true buffer receiver msg).receiver.buffersize =
        receiver.buffersize ∧
      (dltClientReadMessages malloc true buffer receiver msg).msg.Wf ∧
      (dltClientReadMessages malloc true buffer receiver msg).failed = false := by
  induction hn : bytes.length using Nat.strongRecOn generalizing receiver msg bytes with
  | ind n ih =>
    have hle : receiver.bytesRcvd ≤ (buffer.drop receiver.buf).length := by
      have := h.le_size
      have := h.bytesRcvd_eq
      have := h.length_buffer
      simp only [length_drop]
      omega
    have hview : (buffer.drop receiver.buf).take receiver.bytesRcvd = bytes := h.view_eq
    obtain ⟨hwf', herror, hok⟩ := dltMessageRead_eq_readFrame hm hwf hle true
    rw [hview] at herror hok
    unfold dltClientReadMessages
    cases hread : readFrame true bytes with
    | error e =>
      have hnone := resyncReader_error hread
      have hne : (dltMessageRead malloc msg (buffer.drop receiver.buf) receiver.bytesRcvd
          true).2 ≠ dltMessageErrorOk := by
        rw [herror e hread]
        exact readFrame_error_ne hread
      rw [Reader.drain_none hnone]
      simp only [hne, dite_false]
      exact ⟨List.Forall₂.nil, h, trivial, hwf', trivial⟩
    | ok f =>
      have hsome := resyncReader_ok hread
      obtain ⟨hret, hholds⟩ := hok f hread
      have hfound : f.found = true := by
        obtain ⟨b, -, -, hf⟩ := readFrame_true_iff.mp hread
        rw [hf]
      have hpos := resyncReader.pos hsome
      have hremove := resyncReader.le hsome
      have hsizeEq := dltClientRemoveSize_eq hholds hfound
      have hremoveSize : i32 (dltClientRemoveSize (dltMessageRead malloc msg
          (buffer.drop receiver.buf) receiver.bytesRcvd true).1) = f.removed := by
        rw [hsizeEq, i32_natCast]
        have := h.le_size
        omega
      obtain ⟨hview', hremoved⟩ := remove_view h hpos hremove
      rw [Reader.drain_some hsome]
      simp only [hret, dite_true, hremoveSize, hremoved]
      have hbuffersize : (dltReceiverRemove receiver f.removed).1.buffersize =
          receiver.buffersize := by unfold dltReceiverRemove; split_ifs <;> rfl
      obtain ⟨hcalls, hleft, hbs, hmsg, hfailed⟩ := ih (bytes.drop f.removed).length
        (by simp only [length_drop]; omega) (hbuffersize ▸ hsize) hview' hwf' rfl
      simp only [show (dltReturnOk = dltReturnError) = False by decide, if_false]
      exact ⟨List.Forall₂.cons ⟨hholds, hsizeEq⟩ hcalls, hleft, hbs.trans hbuffersize, hmsg, hfailed⟩

/-- **The outer loop** passes the frames of the whole stream to the callback, however the stream is
split into receives. -/
theorem dltClientMainLoop_frames (hm : malloc.Succeeds) {client : DltClient} {left : List UInt8}
    (hresync : client.resyncSerialHeader = true) (hsize : client.receiver.buffersize < 2147483648)
    (h : Saved client.buffer client.receiver left) (hwf : msg.Wf) {chunks : List (List UInt8)}
    (hfit : ReceivesFit malloc client msg chunks) :
    List.Forall₂ Delivered (dltClientMainLoop malloc client msg (chunks.map (·, true))).1
        (resyncReader.feed left chunks).1 ∧
      (dltClientMainLoop malloc client msg (chunks.map (·, true))).2 = dltReturnTrue := by
  induction chunks generalizing client msg left with
  | nil => exact ⟨List.Forall₂.nil, rfl⟩
  | cons got chunks ih =>
    obtain ⟨hgot, hroom, hrest⟩ := hfit
    obtain ⟨hview, hbs, hret⟩ := receive_view h hgot (by rw [← h.bytesRcvd_eq]; exact hroom)
    have hne : (dltReceiverReceive client.buffer client.receiver got).2.2 ≠ 0 := by
      have := length_pos_iff.mpr hgot
      omega
    obtain ⟨hcalls, hleft, hbs', hmsg, hfailed⟩ :=
      dltClientReadMessages_drain hm (hbs ▸ hsize) hview hwf
    obtain ⟨hsaved, hbs'', hmoved⟩ := moveToBegin_saved hm hleft
    have hround : dltClientRound malloc client msg got =
        ({ client with
            buffer := (dltReceiverReceive client.buffer client.receiver got).1
            receiver := (dltReceiverMoveToBegin malloc
              (dltReceiverReceive client.buffer client.receiver got).1
              (dltClientReadMessages malloc true
                (dltReceiverReceive client.buffer client.receiver got).1
                (dltReceiverReceive client.buffer client.receiver got).2.1 msg).receiver).1 },
          dltClientReadMessages malloc true
            (dltReceiverReceive client.buffer client.receiver got).1
            (dltReceiverReceive client.buffer client.receiver got).2.1 msg, dltReturnOk) := by
      unfold dltClientRound
      simp only [hresync, hmoved]
    rw [hround] at hrest
    have hsize' := hbs''.trans (hbs'.trans hbs)
    obtain ⟨hnext, hnextRet⟩ := ih (by exact hresync) (by rw [hsize']; exact hsize)
      (by exact hsaved) hmsg hrest
    rw [map_cons, dltClientMainLoop, if_neg hne, hround, Reader.feed]
    simp only [hfailed, Bool.false_eq_true, if_false, if_true,
      show (dltReturnOk = dltReturnError) = False by decide]
    exact ⟨rel_append hcalls hnext, hnextRet⟩

end frames

/-! ## Messages on the wire -/

/-- A well-formed message: its length field is its length and covers its headers. -/
structure WireMessage where
  /-- The message from the standard header on. -/
  bytes : List UInt8
  standard_le : sizeofDltStandardHeader ≤ bytes.length
  len_eq : lenOf bytes = bytes.length
  header_le : headerLength (htypOf bytes) ≤ bytes.length

def WireMessage.header (m : WireMessage) : List UInt8 := m.bytes.take (headerLength (htypOf m.bytes))

def WireMessage.payload (m : WireMessage) : List UInt8 := m.bytes.drop (headerLength (htypOf m.bytes))

/-- The message with its serial header. -/
def WireMessage.wire (m : WireMessage) : List UInt8 := dltSerialHeader ++ m.bytes

theorem WireMessage.length_wire (m : WireMessage) : m.wire.length = 4 + m.bytes.length := by
  simp only [wire, length_append, dltSerialHeader, length_cons, length_nil]

/-- A stream: bytes before each message, the message, and the bytes behind the last one. -/
def streamBytes (trailing : List UInt8) : List (List UInt8 × WireMessage) → List UInt8
  | [] => trailing
  | (garbage, m) :: rest => garbage ++ m.wire ++ streamBytes trailing rest

/-- Where a message is in the stream, its header and its payload. -/
abbrev Delivery := ℕ × List UInt8 × List UInt8

/-- The messages of a stream that starts at the position `pos`. -/
def expected (pos : ℕ) : List (List UInt8 × WireMessage) → List Delivery
  | [] => []
  | (garbage, m) :: rest =>
      (pos + garbage.length, m.header, m.payload) ::
        expected (pos + garbage.length + m.wire.length) rest

/-- The messages passed to the callback, when the receiver starts at the position `base` of the
stream: a message lies behind the bytes that were skipped, and the removal moves the receiver on. -/
def deliveries (base : ℕ) : List DltMessage → List Delivery
  | [] => []
  | msg :: rest =>
      (base + msg.resyncOffset, msg.header, msg.payload) ::
        deliveries (base + (dltClientRemoveSize msg).toNat) rest

/-- The same for the frames of the reader. -/
def frameDeliveries (base : ℕ) : List Frame → List Delivery
  | [] => []
  | f :: rest => (base + f.offset, f.header, f.payload) :: frameDeliveries (base + f.removed) rest

/-- The records passed to the callback tell what the frames do. -/
theorem deliveries_eq {calls : List DltMessage} {frames : List Frame}
    (h : List.Forall₂ Delivered calls frames) (base : ℕ) :
    deliveries base calls = frameDeliveries base frames := by
  induction h generalizing base with
  | nil => rfl
  | cons hmsg _ ih =>
    rw [deliveries, frameDeliveries, ih, hmsg.offset_eq, hmsg.header_eq, hmsg.payload_eq,
      hmsg.remove_eq, Int.toNat_natCast]

/-- No complete message lies behind the first serial header. -/
def NoMessage (bytes : List UInt8) : Prop := ∀ f, readFrame true bytes ≠ .ok f

/-- The bytes left behind do no harm, from `left` on: together with the bytes before the next message
they are shorter than it and neither contain nor create a serial header, and then as many bytes from
its end are left. Behind the last message no complete message shows. -/
def Accounted (trailing : List UInt8) :
    List UInt8 → List (List UInt8 × WireMessage) → Prop
  | left, [] => NoMessage (left ++ trailing)
  | left, (garbage, m) :: rest =>
      find dltSerialHeader (left ++ garbage ++ dltSerialHeader) = some (left ++ garbage).length ∧
        (left ++ garbage).length < m.wire.length ∧
          Accounted trailing (m.wire.drop (m.wire.length - (left ++ garbage).length)) rest

theorem WireMessage.bodyFrame_eq (m : WireMessage) (more : List UInt8) :
    bodyFrame (m.bytes ++ more) = .ok (m.header, m.payload) := by
  apply bodyFrame_append
  unfold bodyFrame
  rw [m.len_eq, if_neg (by have := m.standard_le; omega),
    if_neg (by have := m.header_le; omega), if_neg (by omega), take_of_length_le le_rfl]
  rfl

/-- For a message on the wire, its bytes with the serial header are removed. -/
theorem WireMessage.removed_eq (m : WireMessage) (offset : ℕ) :
    Frame.removed ⟨true, offset, m.header, m.payload⟩ = m.wire.length := by
  have hsum : m.header.length + m.payload.length = m.bytes.length := by
    simp only [WireMessage.header, WireMessage.payload, length_take, length_drop]
    have := m.header_le
    omega
  rw [Frame.removed, m.length_wire]
  simp only
  omega

/-- Behind bytes without a serial header, the message is the frame that the reader finds. -/
theorem read_garbage {c : List UInt8}
    (hfind : find dltSerialHeader (c ++ dltSerialHeader) = some c.length) (m : WireMessage)
    (more : List UInt8) :
    resyncReader.read (c ++ m.wire ++ more) =
      some (⟨true, c.length, m.header, m.payload⟩, m.wire.length) := by
  have hstream : c ++ m.wire ++ more = (c ++ dltSerialHeader) ++ (m.bytes ++ more) := by
    simp only [WireMessage.wire, append_assoc]
  have hdrop : (c ++ m.wire ++ more).drop (4 + c.length) = m.bytes ++ more := by
    rw [hstream, drop_left' (by
      simp only [length_append, dltSerialHeader, length_cons, length_nil]; omega)]
  have hread : readFrame true (c ++ m.wire ++ more) = .ok ⟨true, c.length, m.header, m.payload⟩ :=
    readFrame_true_iff.mpr ⟨(m.header, m.payload), hstream ▸ find_append hfind _,
      hdrop ▸ m.bodyFrame_eq more, rfl⟩
  rw [resyncReader_ok hread, m.removed_eq]

theorem expected_pos {gs : List (List UInt8 × WireMessage)} {pos : ℕ} {d : Delivery}
    (h : d ∈ expected pos gs) : pos ≤ d.1 := by
  induction gs generalizing pos with
  | nil => simp [expected] at h
  | cons g rest ih =>
    obtain ⟨garbage, m⟩ := g
    rw [expected, mem_cons] at h
    obtain rfl | h := h
    · exact Nat.le_add_right ..
    · have := ih h
      omega

/-- **Deliveries and leftovers**: the reader's frames are the messages of the stream exactly when the
bytes left behind do no harm. -/
theorem frameDeliveries_iff (trailing : List UInt8) (gs : List (List UInt8 × WireMessage))
    (base : ℕ) (left : List UInt8) :
    frameDeliveries base (resyncReader.drain (left ++ streamBytes trailing gs)).1 =
        expected (base + left.length) gs ↔ Accounted trailing left gs := by
  induction gs generalizing base left with
  | nil =>
    simp only [streamBytes, expected, Accounted, NoMessage]
    cases hread : readFrame true (left ++ trailing) with
    | error e =>
      rw [Reader.drain_none (resyncReader_error hread)]
      simp [frameDeliveries]
    | ok f =>
      rw [Reader.drain_some (resyncReader_ok hread)]
      simp [frameDeliveries]
  | cons g rest ih =>
    obtain ⟨garbage, m⟩ := g
    have hbytes : left ++ streamBytes trailing ((garbage, m) :: rest) =
        (left ++ garbage) ++ m.wire ++ streamBytes trailing rest := by
      simp only [streamBytes, append_assoc]
    rw [hbytes, expected, Accounted]
    have hc : (left ++ garbage).length = left.length + garbage.length := length_append ..
    generalize left ++ garbage = c at hc ⊢
    obtain ⟨k, hk, hfirst⟩ := find_append_self dltSerialHeader c []
    rw [append_nil] at hfirst
    by_cases hkc : k = c.length
    · -- the message is found, and the loop removes as many bytes as it has
      subst hkc
      have hread := read_garbage hfirst m (streamBytes trailing rest)
      rw [Reader.drain_some hread]
      by_cases hshort : c.length < m.wire.length
      · have hdrop : (c ++ m.wire ++ streamBytes trailing rest).drop m.wire.length =
            m.wire.drop (m.wire.length - c.length) ++ streamBytes trailing rest := by
          rw [append_assoc, drop_append, drop_of_length_le (by omega),
            nil_append, drop_append_of_le_length (by omega)]
        have hpos : base + left.length + garbage.length + m.wire.length =
            base + m.wire.length + (m.wire.drop (m.wire.length - c.length)).length := by
          simp only [length_drop]
          omega
        rw [hdrop, frameDeliveries, m.removed_eq, List.cons.injEq, hpos, ih]
        simp only [hfirst, hshort, true_and, and_iff_right_iff_imp]
        exact fun _ => by rw [Nat.add_assoc, ← hc]
      · -- the message itself is left and found a second time at the same place
        have hdrop : (c ++ m.wire ++ streamBytes trailing rest).drop m.wire.length =
            c.drop m.wire.length ++ m.wire ++ streamBytes trailing rest := by
          rw [append_assoc, drop_append_of_le_length (by omega), append_assoc]
        have hfirst' : find dltSerialHeader (c.drop m.wire.length ++ dltSerialHeader) =
            some (c.drop m.wire.length).length := by
          have hlater := find_drop hfirst (show m.wire.length ≤ c.length by omega)
          rwa [drop_append_of_le_length (by omega), ← length_drop] at hlater
        have hread' := read_garbage hfirst' m (streamBytes trailing rest)
        rw [hdrop, frameDeliveries, Reader.drain_some hread', frameDeliveries, m.removed_eq]
        constructor
        · intro heq
          have htail := (List.cons.inj heq).2
          have hpos := expected_pos (htail ▸ mem_cons_self)
          have hwire := m.length_wire
          simp only [length_drop] at hpos
          omega
        · exact fun h => absurd h.2.1 hshort
    · -- an earlier serial header hides the message
      have hearlier : find dltSerialHeader (c ++ m.wire ++ streamBytes trailing rest) = some k := by
        rw [WireMessage.wire, ← append_assoc, append_assoc]
        exact find_append hfirst _
      constructor
      · intro heq
        cases hread : readFrame true (c ++ m.wire ++ streamBytes trailing rest) with
        | error e =>
          rw [Reader.drain_none (resyncReader_error hread)] at heq
          simp [frameDeliveries] at heq
        | ok f =>
          obtain ⟨b, hfind, -, -⟩ := readFrame_true_iff.mp hread
          have hoffset : f.offset = k := by
            rw [hearlier, Option.some.injEq] at hfind
            exact hfind.symm
          rw [Reader.drain_some (resyncReader_ok hread), frameDeliveries] at heq
          have hhead := congrArg Prod.fst (List.cons.inj heq).1
          simp only at hhead
          omega
      · rintro ⟨hfind, -⟩
        rw [hfirst, Option.some.injEq] at hfind
        exact absurd hfind hkc

/-! ## The client on a stream -/

/-- A client that has received nothing and resynchronises. -/
def resyncClient (type : DltReceiverType) (buffersize : ℕ) : DltClient where
  buffer := (dltReceiverInit type buffersize).1
  receiver := (dltReceiverInit type buffersize).2
  resyncSerialHeader := true

/-- The deliveries of a new client are those of the reader on the whole stream. -/
theorem resyncClient_deliveries {malloc : Malloc} (hm : malloc.Succeeds) {type : DltReceiverType} {buffersize : ℕ}
    (hsize : buffersize < 2147483648) (hmsg : msg.headerbuffer.length = sizeofHeaderbuffer)
    {chunks : List (List UInt8)}
    (hfit : ReceivesFit malloc (resyncClient type buffersize) (dltMessageInit msg) chunks) :
    deliveries 0 (dltClientMainLoop malloc (resyncClient type buffersize) (dltMessageInit msg)
        (chunks.map (·, true))).1 =
      frameDeliveries 0 (resyncReader.drain chunks.flatten).1 := by
  have hsaved : Saved (resyncClient type buffersize).buffer (resyncClient type buffersize).receiver
      [] := saved_init (by simp [resyncClient, dltReceiverInit]) rfl rfl
  have hwf : (dltMessageInit msg).Wf := ⟨hmsg, by simp [dltMessageInit]⟩
  obtain ⟨hcalls, -⟩ := dltClientMainLoop_frames hm rfl hsize hsaved hwf hfit
  rw [Reader.feed_eq_drain (by rfl), nil_append] at hcalls
  exact deliveries_eq hcalls 0

/-- **Resynchronisation**: on a stream of well-formed messages with any bytes before, between and
after them, split in any way, the callback gets each message exactly once, in order and with its
header and payload, if and only if the bytes that the loop leaves behind do no harm. -/
theorem dltClientMainLoop_delivers_iff {malloc : Malloc} (hm : malloc.Succeeds)
    {type : DltReceiverType} {buffersize : ℕ} (hsize : buffersize < 2147483648) {msg : DltMessage}
    (hmsg : msg.headerbuffer.length = sizeofHeaderbuffer) (gs : List (List UInt8 × WireMessage))
    (trailing : List UInt8) {chunks : List (List UInt8)}
    (hstream : chunks.flatten = streamBytes trailing gs)
    (hfit : ReceivesFit malloc (resyncClient type buffersize) (dltMessageInit msg) chunks) :
    deliveries 0 (dltClientMainLoop malloc (resyncClient type buffersize) (dltMessageInit msg)
        (chunks.map (·, true))).1 = expected 0 gs ↔ Accounted trailing [] gs := by
  rw [resyncClient_deliveries hm hsize hmsg hfit, hstream]
  exact frameDeliveries_iff trailing gs 0 []

/-- The shortest message: a standard header and nothing behind it. -/
def shortMessage : WireMessage := ⟨[0x20, 0, 0, 4], by decide, by decide, by decide⟩

theorem dltClientMainLoop_delivers_iff_sample :
    deliveries 0 (dltClientMainLoop zeroMalloc (resyncClient .socket 100)
        (dltMessageInit sampleMessage)
        ([[0x58, 0x44, 0x4c, 0x53, 1, 0x20, 0, 0, 4]].map (·, true))).1 =
      expected 0 [([0x58], shortMessage)] ↔ Accounted [] [] [([0x58], shortMessage)] :=
  dltClientMainLoop_delivers_iff zeroMalloc_succeeds (by decide) (length_replicate ..)
    [([0x58], shortMessage)] [] (by decide) ⟨by decide, by decide, trivial⟩

/-- **Delivered twice**: eight bytes before a message of eight bytes, its serial header included. -/
theorem dltClientMainLoop_delivers_twice :
    find dltSerialHeader (List.replicate 8 0x58 ++ dltSerialHeader) = some 8 ∧
      ReceivesFit zeroMalloc (resyncClient .socket 100) (dltMessageInit sampleMessage)
        [streamBytes [] [(List.replicate 8 0x58, shortMessage)]] ∧
      deliveries 0 (dltClientMainLoop zeroMalloc (resyncClient .socket 100)
        (dltMessageInit sampleMessage)
        ([streamBytes [] [(List.replicate 8 0x58, shortMessage)]].map (·, true))).1 ≠
          expected 0 [(List.replicate 8 0x58, shortMessage)] := by
  have hfit : ReceivesFit zeroMalloc (resyncClient .socket 100) (dltMessageInit sampleMessage)
      [streamBytes [] [(replicate 8 0x58, shortMessage)]] :=
    ⟨by decide, by decide, trivial⟩
  refine ⟨by decide, hfit, fun hdelivers => ?_⟩
  rw [resyncClient_deliveries zeroMalloc_succeeds (by decide) (length_replicate ..) hfit,
    flatten_singleton] at hdelivers
  have haccounted := (frameDeliveries_iff [] [(replicate 8 0x58, shortMessage)] 0 []).mp hdelivers
  exact absurd haccounted.2.1 (by decide)

end Dlt.Client
