import Dlt.Shared.Message

/-!
# What `dlt_message_read` finds

* `dltMessageRead_eq_readFrame` — **the call follows the reference**, whatever the record held
  before.
* `resyncReader` — the incremental reader (`Lib/Stream.lean`) that the call makes together with the
  removal of what it reported.
-/

namespace Dlt.Shared

open Dlt.Lib List

variable {bytes : List UInt8} {e : ℤ}

/-! ## The reference -/

/-- The size of all headers of a message, from its header type. -/
def headerLength (htyp : UInt8) : ℕ :=
  sizeofDltStandardHeader + dltStandardHeaderExtraSize htyp +
    (if dltIsHtypUeh htyp then sizeofDltExtendedHeader else 0)

/-- The header type of the message at the beginning of the bytes. -/
def htypOf (bytes : List UInt8) : UInt8 := bytes.getD 0 0

/-- The length field of the message at the beginning of the bytes. -/
def lenOf (bytes : List UInt8) : ℕ := ofBeBytes ((bytes.drop 2).take 2)

/-- A message as a reader sees it. -/
structure Frame where
  /-- A serial header comes first. -/
  found : Bool
  /-- Where the serial header, or the message, starts. -/
  offset : ℕ
  header : List UInt8
  payload : List UInt8
deriving DecidableEq, Repr

/-- The message at the beginning of the bytes, as header and payload, or the error code. -/
def bodyFrame (bytes : List UInt8) : Except ℤ (List UInt8 × List UInt8) :=
  if bytes.length < sizeofDltStandardHeader then .error dltMessageErrorSize
  else if lenOf bytes < headerLength (htypOf bytes) then .error dltMessageErrorContent
  else if bytes.length < lenOf bytes then .error dltMessageErrorSize
  else .ok (bytes.take (headerLength (htypOf bytes)),
    (bytes.take (lenOf bytes)).drop (headerLength (htypOf bytes)))

/-- The message that the bytes hold: at their beginning, with or without a serial header, or behind
the first serial header when the reader resynchronises. -/
def readFrame (resync : Bool) (bytes : List UInt8) : Except ℤ Frame :=
  if bytes.length = 0 then .error dltMessageErrorUnknown
  else if bytes.length < dltSerialHeader.length then .error dltMessageErrorSize
  else if dltSerialHeader <+: bytes then
    (bodyFrame (bytes.drop 4)).map fun b => ⟨true, 0, b.1, b.2⟩
  else if resync then
    match find dltSerialHeader bytes with
    | none => .error dltMessageErrorSize
    | some k => (bodyFrame (bytes.drop (4 + k))).map fun b => ⟨true, k, b.1, b.2⟩
  else (bodyFrame bytes).map fun b => ⟨false, 0, b.1, b.2⟩

/-! ## The call follows the reference -/

/-- The headers from the standard header on, as the record holds them. -/
def DltMessage.header (msg : DltMessage) : List UInt8 :=
  (msg.headerbuffer.drop sizeofDltStorageHeader).take (msg.headersize - sizeofDltStorageHeader)

/-- The payload, as the record holds it. -/
def DltMessage.payload (msg : DltMessage) : List UInt8 :=
  (msg.databuffer.getD []).take msg.datasize.toNat

/-- A record whose buffers have the announced sizes. -/
structure DltMessage.Wf (msg : DltMessage) : Prop where
  length_headerbuffer : msg.headerbuffer.length = sizeofHeaderbuffer
  databuffersize_eq : ∀ databuffer ∈ msg.databuffer, msg.databuffersize = databuffer.length

/-- A record as the stack may hold it. -/
def sampleMessage : DltMessage where
  foundSerialheader := false
  resyncOffset := 0
  headersize := 0
  datasize := 0
  headerbuffer := List.replicate sizeofHeaderbuffer 0
  databuffer := none
  databuffersize := 0
  storageheader := none
  standardheader := none
  headerextra := { ecu := [], seid := 0, tmsp := 0 }
  extendedheader := none

theorem sampleMessage_wf : sampleMessage.Wf :=
  ⟨length_replicate .., by simp [sampleMessage]⟩

/-- What a call gives, beside the frame that the reference gives. -/
structure Follows (res : DltMessage × ℤ) (found : Bool) (offset : ℕ)
    (f : Except ℤ (List UInt8 × List UInt8)) : Prop where
  wf : res.1.Wf
  error : ∀ e, f = .error e → res.2 = e
  ok : ∀ b, f = .ok b → res.2 = dltMessageErrorOk ∧ res.1.header = b.1 ∧ res.1.payload = b.2 ∧
    res.1.headersize = sizeofDltStorageHeader + b.1.length ∧ res.1.datasize = b.2.length
  found_eq : res.1.foundSerialheader = found
  offset_eq : res.1.resyncOffset = offset

section body

variable {malloc : Malloc} {msg : DltMessage} {buffer : List UInt8} {length : ℕ}

/-- The memory for the payload, kept or allocated, has room for it. -/
theorem dltMessageAllocate_eq (hm : malloc.Succeeds) (h : msg.Wf) {size : ℕ} (hsize : msg.datasize = size) :
    ∃ old : List UInt8, dltMessageAllocate malloc msg =
      { msg with databuffer := some old, databuffersize := (old.length : ℕ) } ∧ size ≤ old.length := by
  unfold dltMessageAllocate
  split_ifs with hkeep
  · obtain ⟨old, hdata⟩ := Option.isSome_iff_exists.mp hkeep.1
    have hlen := h.databuffersize_eq old hdata
    exact ⟨old, by rw [← hlen, ← hdata], by omega⟩
  · obtain ⟨fresh, hfresh⟩ := Option.isSome_iff_exists.mp (hm msg.datasize.toNat)
    exact ⟨(List.range size).map fresh, by simp [hsize] at hfresh; simp [hfresh, hsize], by simp⟩

/-- Loading the payload succeeds and changes the payload buffer only. -/
theorem dltMessageLoadData_eq (hm : malloc.Succeeds) (h : msg.Wf) (payload : List UInt8)
    (hsize : msg.datasize = payload.length) :
    ∃ databuffer, dltMessageLoadData malloc msg payload =
        ({ msg with
          databuffer := some databuffer
          databuffersize := (databuffer.length : ℕ) }, dltMessageErrorOk) ∧
      databuffer.take payload.length = payload := by
  obtain ⟨old, hold, hroom⟩ := dltMessageAllocate_eq hm h hsize
  have hlen : (overwrite old 0 payload).length = old.length := length_overwrite (by omega)
  refine ⟨overwrite old 0 payload, ?_, ?_⟩
  · unfold dltMessageLoadData
    simp only [hold, hlen]
  · rw [overwrite_zero, take_left' rfl]

/-- Loading the further headers changes the header buffer and what is taken from it. -/
theorem dltMessageLoadExtra_eq (msg : DltMessage) (htyp : UInt8) (extra : List UInt8) :
    ∃ headerextra extendedheader, dltMessageLoadExtra msg htyp extra =
      { msg with
        headerbuffer := overwrite msg.headerbuffer
          (sizeofDltStorageHeader + sizeofDltStandardHeader) extra
        headerextra, extendedheader } := by
  by_cases hpos : extra.length > 0
  · unfold dltMessageLoadExtra
    rw [if_pos hpos]
    exact ⟨_, _, rfl⟩
  · have hnil : extra = [] := eq_nil_of_length_eq_zero (by omega)
    have hsame : overwrite msg.headerbuffer (sizeofDltStorageHeader + sizeofDltStandardHeader) [] =
        msg.headerbuffer := by simp [overwrite]
    unfold dltMessageLoadExtra
    rw [if_neg hpos, hnil, hsame]
    exact ⟨msg.headerextra, msg.extendedheader, rfl⟩

theorem extraSize_le (htyp : UInt8) :
    dltStandardHeaderExtraSize htyp + (if dltIsHtypUeh htyp then sizeofDltExtendedHeader else 0) ≤
      sizeofDltStandardHeaderExtra + sizeofDltExtendedHeader := by
  unfold dltStandardHeaderExtraSize sizeofDltStandardHeaderExtra sizeofDltExtendedHeader
  split_ifs <;> omega

/-- Behind the search, the call follows `bodyFrame`. -/
theorem dltMessageReadBody_follows (hm : malloc.Succeeds) (h : msg.Wf)
    (hle : length ≤ buffer.length) :
    Follows (dltMessageReadBody malloc msg buffer length) msg.foundSerialheader msg.resyncOffset
      (bodyFrame (buffer.take length)) := by
  set b := buffer.take length with hb
  have hblen : b.length = length := by simp [hb, hle]
  have htake : ∀ i n, i + n ≤ length → (buffer.drop i).take n = (b.drop i).take n := by
    intro i n hin
    rw [hb, drop_take, take_take]
    congr 1
    omega
  clear_value b
  by_cases hshort : length < sizeofDltStandardHeader
  · unfold dltMessageReadBody bodyFrame
    rw [if_pos hshort, if_pos (by omega)]
    exact ⟨h, by simp, by simp, rfl, rfl⟩
  have hstandard : buffer.take sizeofDltStandardHeader = b.take sizeofDltStandardHeader := by
    simpa using htake 0 sizeofDltStandardHeader (by omega)
  have hhtyp : (b.take sizeofDltStandardHeader).getD 0 0 = htypOf b := by
    simp [htypOf, getD, sizeofDltStandardHeader]
  have hlenOf : ofBeBytes (((b.take sizeofDltStandardHeader).drop 2).take 2) = lenOf b := by
    simp [lenOf, drop_take, take_take, sizeofDltStandardHeader]
  have hextraLe := extraSize_le (htypOf b)
  unfold dltMessageReadBody bodyFrame
  rw [if_neg hshort, if_neg (show ¬ b.length < sizeofDltStandardHeader by omega)]
  simp only [hstandard, hhtyp, hlenOf, hblen, headerLength, Nat.add_assoc]
  generalize lenOf b = len
  generalize htypOf b = htyp at hextraLe ⊢
  generalize dltStandardHeaderExtraSize htyp +
    (if dltIsHtypUeh htyp then sizeofDltExtendedHeader else 0) = extra at hextraLe ⊢
  -- the header buffer after the standard header was copied, and after the others were
  have hhb := h.length_headerbuffer
  have hslen : (b.take sizeofDltStandardHeader).length = sizeofDltStandardHeader := by
    rw [length_take]
    omega
  obtain ⟨msg1, hmsg1, hfound, hoffset, hheadersize, hdatasize, hbuffer1, hdata, hdatalen⟩ :
      ∃ msg1, dltMessageLoadStandard msg (b.take sizeofDltStandardHeader)
        (sizeofDltStorageHeader + (sizeofDltStandardHeader + extra))
        (len - (sizeofDltStorageHeader + (sizeofDltStandardHeader + extra) : ℕ) +
          sizeofDltStorageHeader) = msg1 ∧
      msg1.foundSerialheader = msg.foundSerialheader ∧ msg1.resyncOffset = msg.resyncOffset ∧
      msg1.headersize = sizeofDltStorageHeader + (sizeofDltStandardHeader + extra) ∧
      msg1.datasize = len - (sizeofDltStandardHeader + extra : ℕ) ∧
      msg1.headerbuffer = overwrite msg.headerbuffer sizeofDltStorageHeader
        (b.take sizeofDltStandardHeader) ∧
      msg1.databuffer = msg.databuffer ∧ msg1.databuffersize = msg.databuffersize :=
    ⟨_, rfl, rfl, rfl, rfl, by simp only [dltMessageLoadStandard]; omega, rfl, rfl, rfl⟩
  have hwf1 : msg1.Wf := by
    refine ⟨?_, hdata ▸ hdatalen ▸ h.databuffersize_eq⟩
    rw [hbuffer1, length_overwrite (by rw [hslen, hhb]; decide), hhb]
  simp only [hmsg1]
  by_cases hcontent : len < sizeofDltStandardHeader + extra
  · rw [if_pos (by omega), if_pos hcontent]
    exact ⟨hwf1, by simp, by simp, hfound, hoffset⟩
  rw [if_neg (by omega), if_neg hcontent]
  by_cases hextra : extra > 0 ∧
      length < sizeofDltStorageHeader + (sizeofDltStandardHeader + extra) - sizeofDltStorageHeader
  · rw [if_pos hextra, if_pos (by omega)]
    exact ⟨hwf1, by simp, by simp, hfound, hoffset⟩
  rw [if_neg hextra]
  -- the further headers are inside the valid bytes
  have hheaders : sizeofDltStandardHeader + extra ≤ length := by omega
  rw [htake _ _ hheaders]
  have helen : ((b.drop sizeofDltStandardHeader).take extra).length = extra := by
    simp only [length_take, length_drop]
    omega
  obtain ⟨headerextra, extendedheader, hload⟩ :=
    dltMessageLoadExtra_eq msg1 htyp ((b.drop sizeofDltStandardHeader).take extra)
  have hheaderbuffer : overwrite msg1.headerbuffer (sizeofDltStorageHeader + sizeofDltStandardHeader)
      ((b.drop sizeofDltStandardHeader).take extra) =
      overwrite msg.headerbuffer sizeofDltStorageHeader
        (b.take (sizeofDltStandardHeader + extra)) := by
    have hjoin := overwrite_overwrite ((b.drop sizeofDltStandardHeader).take extra)
      (show sizeofDltStorageHeader + (b.take sizeofDltStandardHeader).length ≤
        msg.headerbuffer.length by rw [hslen, hhb]; decide)
    rw [hslen] at hjoin
    rw [hbuffer1, hjoin, ← take_add]
  have hclen : (b.take (sizeofDltStandardHeader + extra)).length =
      sizeofDltStandardHeader + extra := by
    rw [length_take]
    omega
  have hroom : sizeofDltStorageHeader + (b.take (sizeofDltStandardHeader + extra)).length ≤
      msg.headerbuffer.length := by
    rw [hclen, hhb]
    unfold sizeofHeaderbuffer
    omega
  have hwf2 : (dltMessageLoadExtra msg1 htyp ((b.drop sizeofDltStandardHeader).take extra)).Wf := by
    rw [hload]
    refine ⟨?_, hwf1.databuffersize_eq⟩
    simp only [hheaderbuffer]
    rw [length_overwrite hroom, hhb]
  by_cases hfit : length < len
  · rw [if_pos (by omega), if_pos hfit]
    refine ⟨hwf2, by simp, by simp, ?_, ?_⟩
    · rw [hload]
      exact hfound
    · rw [hload]
      exact hoffset
  rw [if_neg (by omega), if_neg hfit]
  -- the payload is inside the valid bytes
  have hpayload : (buffer.drop (sizeofDltStorageHeader + (sizeofDltStandardHeader + extra) -
      sizeofDltStorageHeader)).take ((len : ℤ) -
        (sizeofDltStorageHeader + (sizeofDltStandardHeader + extra) : ℕ) +
          sizeofDltStorageHeader).toNat =
      (b.take len).drop (sizeofDltStandardHeader + extra) := by
    have hlen' : ((len : ℤ) - (sizeofDltStorageHeader + (sizeofDltStandardHeader + extra) : ℕ) +
        sizeofDltStorageHeader).toNat = len - (sizeofDltStandardHeader + extra) := by omega
    rw [hlen', Nat.add_sub_cancel_left, htake _ _ (by omega), drop_take]
  have hplen : ((b.take len).drop (sizeofDltStandardHeader + extra)).length =
      len - (sizeofDltStandardHeader + extra) := by
    simp only [length_drop, length_take]
    omega
  rw [hpayload]
  obtain ⟨databuffer, hdataEq, hdataTake⟩ := dltMessageLoadData_eq hm hwf2
    ((b.take len).drop (sizeofDltStandardHeader + extra))
    (by rw [hload, hplen]; simp only; omega)
  rw [hdataEq, hload]
  refine ⟨⟨?_, ?_⟩, by simp, ?_, hfound, hoffset⟩
  · simp only [hheaderbuffer]
    rw [length_overwrite hroom, hhb]
  · simp
  · rintro - ⟨rfl⟩
    refine ⟨rfl, ?_, ?_, ?_, ?_⟩
    · simp only [DltMessage.header, hheaderbuffer, hheadersize, Nat.add_sub_cancel_left]
      rw [drop_overwrite _ (by omega), take_left' hclen]
    · simp only [DltMessage.payload, Option.getD_some, hdatasize]
      rw [← hdataTake, hplen]
      congr 1
      omega
    · simp only [hheadersize, hclen]
    · simp only [hdatasize, hplen]
      omega

/-- The search of the source finds the first serial header in the valid bytes. -/
theorem dltMessageResync_eq (hle : length ≤ buffer.length) {offset : ℕ}
    (hoff : dltSerialHeader.length + offset ≤ length) :
    dltMessageResync buffer length offset =
      match find dltSerialHeader ((buffer.take length).drop offset) with
      | some k => (offset + k, true)
      | none => (length - 3, false) := by
  have hfour : dltSerialHeader.length = 4 := rfl
  -- a comparison of four bytes inside the valid ones
  have hcompare : ∀ i, dltSerialHeader.length + i ≤ length →
      ((buffer.drop i).take 4 = dltSerialHeader ↔
        dltSerialHeader <+: (buffer.take length).drop i) := by
    intro i hi
    rw [prefix_iff_eq_take, hfour, drop_take, take_take, Nat.min_eq_left (by omega)]
    exact eq_comm
  have hsplit : ∀ i, i < length → ∃ x,
      (buffer.take length).drop i = x :: (buffer.take length).drop (i + 1) :=
    fun i hi => ⟨_, drop_eq_getElem_cons (by simp; omega)⟩
  fun_induction dltMessageResync buffer length offset with
  | case1 offset hmatch => rw [find_start ((hcompare offset hoff).mp hmatch)]; rfl
  | case2 offset hmatch hnext ih =>
    rw [ih (by omega)]
    obtain ⟨x, hcons⟩ := hsplit offset (by omega)
    have hpre := (hcompare offset hoff).not.mp hmatch
    rw [hcons] at hpre ⊢
    rw [find_behind hpre]
    cases find dltSerialHeader ((buffer.take length).drop (offset + 1)) with
    | none => rfl
    | some k => simp only [Option.map_some]; congr 1; omega
  | case3 offset hmatch hnext =>
    obtain ⟨x, hcons⟩ := hsplit offset (by omega)
    have hpre := (hcompare offset hoff).not.mp hmatch
    rw [hcons] at hpre ⊢
    rw [find_behind hpre, find_of_length_lt (by
      rw [hfour]
      simp only [length_drop, length_take]
      omega)]
    simp only [Option.map_none]
    congr 1
    omega

end body

/-- What the record holds after a successful call. -/
structure DltMessage.Holds (msg : DltMessage) (f : Frame) : Prop where
  found_eq : msg.foundSerialheader = f.found
  offset_eq : msg.resyncOffset = f.offset
  header_eq : msg.header = f.header
  payload_eq : msg.payload = f.payload
  headersize_eq : msg.headersize = sizeofDltStorageHeader + f.header.length
  datasize_eq : msg.datasize = f.payload.length

theorem DltMessage.Wf.setFlags {msg : DltMessage} (h : msg.Wf) (found : Bool) (offset : ℕ) :
    DltMessage.Wf { msg with foundSerialheader := found, resyncOffset := offset } :=
  ⟨h.length_headerbuffer, h.databuffersize_eq⟩

theorem Follows.holds {res : DltMessage × ℤ} {found : Bool} {offset : ℕ}
    {f : Except ℤ (List UInt8 × List UInt8)} (h : Follows res found offset f) :
    res.1.Wf ∧
      (∀ e, f.map (fun b => (⟨found, offset, b.1, b.2⟩ : Frame)) = .error e → res.2 = e) ∧
      ∀ frame, f.map (fun b => (⟨found, offset, b.1, b.2⟩ : Frame)) = .ok frame →
        res.2 = dltMessageErrorOk ∧ res.1.Holds frame := by
  refine ⟨h.wf, fun e he => ?_, fun frame hframe => ?_⟩
  · cases f with
    | error e' =>
      simp only [Except.map, Except.error.injEq] at he
      exact h.error e (he ▸ rfl)
    | ok b => simp [Except.map] at he
  · cases f with
    | error e' => simp [Except.map] at hframe
    | ok b =>
      obtain ⟨hret, hheader, hpayload, hheadersize, hdatasize⟩ := h.ok b rfl
      simp only [Except.map, Except.ok.injEq] at hframe
      subst hframe
      exact ⟨hret, h.found_eq, h.offset_eq, hheader, hpayload, hheadersize, hdatasize⟩

/-- **The call follows the reference**: for every earlier contents of the record, the return value
is that of `readFrame` on the valid bytes, and after a success the record holds its frame. -/
theorem dltMessageRead_eq_readFrame {malloc : Malloc} (hm : malloc.Succeeds) {msg : DltMessage}
    (h : msg.Wf) {buffer : List UInt8} {length : ℕ} (hle : length ≤ buffer.length) (resync : Bool) :
    (dltMessageRead malloc msg buffer length resync).1.Wf ∧
      (∀ e, readFrame resync (buffer.take length) = .error e →
        (dltMessageRead malloc msg buffer length resync).2 = e) ∧
      ∀ frame, readFrame resync (buffer.take length) = .ok frame →
        (dltMessageRead malloc msg buffer length resync).2 = dltMessageErrorOk ∧
          (dltMessageRead malloc msg buffer length resync).1.Holds frame := by
  have hfour : dltSerialHeader.length = 4 := rfl
  have hblen : (buffer.take length).length = length := by simp [hle]
  have hdrop : ∀ n, n ≤ length →
      (buffer.drop n).take (length - n) = (buffer.take length).drop n := by
    intro n hn
    rw [drop_take]
  unfold dltMessageRead readFrame
  by_cases hzero : length = 0
  · rw [if_pos hzero, if_pos (by omega)]
    exact ⟨h, by simp, by simp⟩
  rw [if_neg hzero, if_neg (show ¬ (buffer.take length).length = 0 by omega)]
  by_cases hshort : length < dltSerialHeader.length
  · simp only [hblen, hshort, if_true]
    exact ⟨⟨h.length_headerbuffer, h.databuffersize_eq⟩, by simp, by simp⟩
  have hbegin : buffer.take 4 = dltSerialHeader ↔ dltSerialHeader <+: buffer.take length := by
    rw [prefix_iff_eq_take, hfour, take_take, Nat.min_eq_left (by omega)]
    exact eq_comm
  simp only [hblen, hshort, if_false, hbegin]
  by_cases hserial : dltSerialHeader <+: buffer.take length
  · simp only [hserial, if_true]
    rw [← hdrop 4 (by omega)]
    exact (dltMessageReadBody_follows hm (h.setFlags true 0) (by simp; omega)).holds
  simp only [hserial, if_false]
  by_cases hresync : resync = true
  · have hsearch := dltMessageResync_eq hle (show dltSerialHeader.length + 0 ≤ length by omega)
    rw [drop_zero] at hsearch
    simp only [hresync, if_true, hsearch]
    cases hfind : find dltSerialHeader (buffer.take length) with
    | none =>
      -- three bytes are left, too few for a header
      have hthree : length - (length - 3) < sizeofDltStandardHeader := by
        unfold sizeofDltStandardHeader
        omega
      have hbody : ∀ msg buffer, dltMessageReadBody malloc msg buffer (length - (length - 3)) =
          (msg, dltMessageErrorSize) := fun _ _ => if_pos hthree
      simp only [Bool.false_eq_true, if_false, hbody]
      exact ⟨h.setFlags false (length - 3), by simp, by simp⟩
    | some k =>
      have hk := (prefix_of_find hfind).length_le
      simp only [length_drop, hblen, hfour] at hk
      simp only [Nat.zero_add, if_true]
      rw [← hdrop (4 + k) (by omega)]
      exact (dltMessageReadBody_follows hm (h.setFlags true k) (by simp; omega)).holds
  · rw [if_neg hresync, if_neg hresync]
    exact (dltMessageReadBody_follows hm (h.setFlags false 0) hle).holds

/-! ## Frames of a growing input -/

theorem htypOf_take {n : ℕ} (h : 0 < n) : htypOf (bytes.take n) = htypOf bytes := by
  simp only [htypOf, getD]
  rw [getElem?_take_of_lt h]

theorem lenOf_take {n : ℕ} (h : 4 ≤ n) : lenOf (bytes.take n) = lenOf bytes := by
  unfold lenOf
  rw [drop_take, take_take, Nat.min_eq_left (show 2 ≤ n - 2 by omega)]

theorem htypOf_append (h : 0 < bytes.length) (more : List UInt8) : htypOf (bytes ++ more) = htypOf bytes := by
  simp only [htypOf, getD]
  rw [getElem?_append_left h]

theorem lenOf_append (h : 4 ≤ bytes.length) (more : List UInt8) : lenOf (bytes ++ more) = lenOf bytes := by
  unfold lenOf
  rw [drop_append_of_le_length (by omega),
    take_append_of_le_length (by simp only [length_drop]; omega)]

theorem bodyFrame_append {b : List UInt8 × List UInt8} (h : bodyFrame bytes = .ok b) (more : List UInt8) :
    bodyFrame (bytes ++ more) = .ok b := by
  unfold bodyFrame at h
  split_ifs at h with hshort hcontent hfit
  cases h
  have hfour : 4 ≤ bytes.length := by unfold sizeofDltStandardHeader at hshort; omega
  unfold bodyFrame
  rw [htypOf_append (by omega), lenOf_append hfour,
    if_neg (by simp only [length_append]; omega), if_neg hcontent,
    if_neg (by simp only [length_append]; omega),
    take_append_of_le_length (by omega), take_append_of_le_length (by omega)]

/-- The parts of a frame fill the length of its message, which lies inside the bytes. -/
theorem bodyFrame_length {b : List UInt8 × List UInt8} (h : bodyFrame bytes = .ok b) :
    0 < b.1.length ∧ b.1.length + b.2.length ≤ bytes.length ∧
      b.1.length + b.2.length = lenOf bytes := by
  unfold bodyFrame at h
  split_ifs at h with hshort hcontent hfit
  cases h
  have hpos : 0 < headerLength (htypOf bytes) := by
    unfold headerLength sizeofDltStandardHeader
    omega
  simp only [length_take, length_drop]
  omega

/-- A length field that is too small stays too small when more bytes follow. -/
theorem bodyFrame_content_append (h : bodyFrame bytes = .error dltMessageErrorContent) (more : List UInt8) :
    bodyFrame (bytes ++ more) = .error dltMessageErrorContent := by
  unfold bodyFrame at h
  split_ifs at h with hshort hcontent hfit
  · exact absurd h (by decide)
  · have hfour : 4 ≤ bytes.length := by unfold sizeofDltStandardHeader at hshort; omega
    unfold bodyFrame
    rw [htypOf_append (by omega), lenOf_append hfour,
      if_neg (by simp only [length_append]; omega), if_pos hcontent]
  · exact absurd h (by decide)

/-- A message with a length field that is too small is found again when more bytes follow. -/
theorem readFrame_content_append {resync : Bool} (h : readFrame resync bytes = .error dltMessageErrorContent)
    (more : List UInt8) : readFrame resync (bytes ++ more) = .error dltMessageErrorContent := by
  have hmap : ∀ {b : Except ℤ (List UInt8 × List UInt8)} {found : Bool} {offset : ℕ},
      b.map (fun b => (⟨found, offset, b.1, b.2⟩ : Frame)) = .error dltMessageErrorContent ↔
        b = .error dltMessageErrorContent := by
    rintro (e | b) found offset
    · simp [Except.map]
    · simp [Except.map]
  have hlen : (bytes ++ more).length = bytes.length + more.length := length_append
  have hfour : dltSerialHeader.length = 4 := rfl
  unfold readFrame at h
  split_ifs at h with hzero hshort hpre hresync
  · exact absurd h (by decide)
  · exact absurd h (by decide)
  · unfold readFrame
    rw [if_neg (by omega), if_neg (by omega), if_pos (hpre.trans (prefix_append _ more)),
      hmap, drop_append_of_le_length (by omega)]
    exact bodyFrame_content_append (hmap.mp h) more
  · have hpre' : ¬ dltSerialHeader <+: bytes ++ more := fun hlong =>
      hpre (prefix_of_prefix_length_le hlong (prefix_append _ more) (by omega))
    cases hfind : find dltSerialHeader bytes with
    | none =>
      rw [hfind] at h
      exact absurd (Except.error.inj h) (by decide)
    | some k =>
      rw [hfind] at h
      have hk := (prefix_of_find hfind).length_le
      rw [length_drop] at hk
      unfold readFrame
      rw [if_neg (by omega), if_neg (by omega), if_neg hpre', if_pos hresync,
        find_append hfind more]
      simp only
      rw [hmap, drop_append_of_le_length (by omega)]
      exact bodyFrame_content_append (hmap.mp h) more
  · have hpre' : ¬ dltSerialHeader <+: bytes ++ more := fun hlong =>
      hpre (prefix_of_prefix_length_le hlong (prefix_append _ more) (by omega))
    unfold readFrame
    rw [if_neg (by omega), if_neg (by omega), if_neg hpre', if_neg hresync, hmap]
    exact bodyFrame_content_append (hmap.mp h) more

/-- A message without serial header is found at the beginning, when no serial header is expected. -/
theorem readFrame_false {header payload : List UInt8}
    (h : bodyFrame (header ++ payload) = .ok (header, payload))
    (hserial : ¬ dltSerialHeader <+: header ++ payload) (rest : List UInt8) :
    readFrame false (header ++ payload ++ rest) = .ok ⟨false, 0, header, payload⟩ := by
  have hfour : dltSerialHeader.length ≤ (header ++ payload).length := by
    unfold bodyFrame at h
    split_ifs at h with hshort
    unfold sizeofDltStandardHeader at hshort
    simp only [dltSerialHeader, length_cons, length_nil]
    omega
  have hserial' : ¬ dltSerialHeader <+: header ++ payload ++ rest := fun hlong =>
    hserial (prefix_of_prefix_length_le hlong (prefix_append _ rest) hfour)
  have hlen : (header ++ payload ++ rest).length = (header ++ payload).length + rest.length :=
    length_append
  have hpos : 0 < dltSerialHeader.length := by decide
  unfold readFrame
  rw [if_neg (by omega), if_neg (by omega), if_neg hserial', if_neg (by decide),
    bodyFrame_append h rest]
  rfl

/-- A part of a message without serial header is not read as one. -/
theorem readFrame_false_part {header payload part more : List UInt8}
    (h : bodyFrame (header ++ payload) = .ok (header, payload))
    (hserial : ¬ dltSerialHeader <+: header ++ payload) (hpart : part ++ more = header ++ payload)
    (hmore : more ≠ []) : ∃ e, readFrame false part = .error e := by
  have hbody : ∃ e, bodyFrame part = .error e := by
    cases hb : bodyFrame part with
    | error e => exact ⟨e, rfl⟩
    | ok b =>
      have hlong := bodyFrame_append hb more
      rw [hpart, h] at hlong
      cases hlong
      have hle : header.length + payload.length ≤ part.length := (bodyFrame_length hb).2.1
      have hlen := congrArg List.length hpart
      have := length_pos_iff.mpr hmore
      simp only [length_append] at hlen
      omega
  have hserial' : ¬ dltSerialHeader <+: part := fun hpre =>
    hserial (hpart ▸ hpre.trans (prefix_append part more))
  obtain ⟨e, he⟩ := hbody
  unfold readFrame
  rw [if_neg hserial', if_neg Bool.false_ne_true, he]
  split_ifs with hzero hshort
  · exact ⟨_, rfl⟩
  · exact ⟨_, rfl⟩
  · exact ⟨e, rfl⟩

/-- The bytes that a resynchronising reader removes for a frame: the source forgets the skipped
ones. -/
def Frame.removed (f : Frame) : ℕ := 4 + f.header.length + f.payload.length

theorem bodyFrame_error_ne (h : bodyFrame bytes = .error e) : e ≠ dltMessageErrorOk := by
  unfold bodyFrame at h
  split_ifs at h <;> cases h <;> decide

theorem readFrame_error_ne {resync : Bool} (h : readFrame resync bytes = .error e) : e ≠ dltMessageErrorOk := by
  have hmap : ∀ {b : Except ℤ (List UInt8 × List UInt8)} {found : Bool} {offset : ℕ},
      b.map (fun b => (⟨found, offset, b.1, b.2⟩ : Frame)) = .error e → b = .error e := by
    rintro (e' | b) found offset hb
    · simpa [Except.map] using hb
    · simp [Except.map] at hb
  unfold readFrame at h
  split_ifs at h with hzero hshort hpre hresync
  · cases h; decide
  · cases h; decide
  · exact bodyFrame_error_ne (hmap h)
  · cases hfind : find dltSerialHeader bytes with
    | none =>
      rw [hfind] at h
      cases h
      decide
    | some k =>
      rw [hfind] at h
      exact bodyFrame_error_ne (hmap h)
  · exact bodyFrame_error_ne (hmap h)

/-- With resynchronisation a frame starts at the first serial header. -/
theorem readFrame_true_iff {f : Frame} :
    readFrame true bytes = .ok f ↔
      ∃ b, find dltSerialHeader bytes = some f.offset ∧
        bodyFrame (bytes.drop (4 + f.offset)) = .ok b ∧ f = ⟨true, f.offset, b.1, b.2⟩ := by
  have hfour : dltSerialHeader.length = 4 := rfl
  unfold readFrame
  by_cases hshort : bytes.length < dltSerialHeader.length
  · have hnone := find_of_length_lt hshort
    constructor
    · intro h
      split_ifs at h
    · rintro ⟨b, hfind, -, -⟩
      simp [hnone] at hfind
  rw [if_neg (by omega), if_neg hshort]
  by_cases hpre : dltSerialHeader <+: bytes
  · rw [if_pos hpre, find_start hpre]
    constructor
    · intro h
      cases hbody : bodyFrame (bytes.drop 4) with
      | error e => simp [hbody, Except.map] at h
      | ok b =>
        simp only [hbody, Except.map, Except.ok.injEq] at h
        subst h
        exact ⟨b, rfl, hbody, rfl⟩
    · rintro ⟨b, hfind, hbody, hf⟩
      rw [Option.some.injEq] at hfind
      rw [← hfind] at hbody hf
      rw [hf, hbody]
      rfl
  · rw [if_neg hpre]
    simp only [if_true]
    cases hfind : find dltSerialHeader bytes with
    | none => simp
    | some k =>
      simp only
      constructor
      · intro h
        cases hbody : bodyFrame (bytes.drop (4 + k)) with
        | error e => simp [hbody, Except.map] at h
        | ok b =>
          simp only [hbody, Except.map, Except.ok.injEq] at h
          subst h
          exact ⟨b, rfl, hbody, rfl⟩
      · rintro ⟨b, hk, hbody, hf⟩
        rw [Option.some.injEq] at hk
        rw [← hk] at hbody hf
        rw [hf, hbody]
        rfl

/-- The reader that `dlt_message_read` with resynchronisation and the removal of what it reported
make together. -/
def resyncReader : Reader UInt8 Frame where
  read bytes :=
    match readFrame true bytes with
    | .ok f => some (f, f.removed)
    | .error _ => none
  pos {bytes f n} h := by
    split at h
    · simp only [Option.some.injEq, Prod.mk.injEq] at h
      rw [← h.2]
      unfold Frame.removed
      omega
    · simp at h
  le {bytes f n} h := by
    split at h
    · rename_i f' hread
      simp only [Option.some.injEq, Prod.mk.injEq] at h
      obtain ⟨b, hfind, hbody, hf⟩ := readFrame_true_iff.mp hread
      have hle := (bodyFrame_length hbody).2.1
      have hserial := (prefix_of_find hfind).length_le
      rw [← h.2, hf]
      simp only [List.length_drop, Frame.removed, dltSerialHeader, List.length_cons,
        List.length_nil] at hle hserial ⊢
      omega
    · simp at h
  stable {bytes f n} h more := by
    split at h
    · rename_i f' hread
      obtain ⟨b, hfind, hbody, hf⟩ := readFrame_true_iff.mp hread
      have hserial := (prefix_of_find hfind).length_le
      simp only [List.length_drop, dltSerialHeader, List.length_cons, List.length_nil] at hserial
      have hread' : readFrame true (bytes ++ more) = .ok f' := by
        refine readFrame_true_iff.mpr ⟨b, find_append hfind more, ?_, hf⟩
        rw [List.drop_append_of_le_length (by omega)]
        exact bodyFrame_append hbody more
      rw [hread']
      exact h
    · simp at h

theorem resyncReader_ok {f : Frame} (h : readFrame true bytes = .ok f) :
    resyncReader.read bytes = some (f, f.removed) := by simp only [resyncReader, h]

theorem resyncReader_error (h : readFrame true bytes = .error e) :
    resyncReader.read bytes = none := by simp only [resyncReader, h]

end Dlt.Shared
