import Dlt.Shared.MessageFrame

/-!
# `dlt_message_read` with a record that is used again

* `dltMessageRead_historyFree_iff` — this holds exactly when the message has a field behind its standard
  header, or the record has no extended header left from an earlier message.
-/

namespace Dlt.Shared

open Dlt.Lib List

variable {bytes : List UInt8} {f : Frame}

/-! ## The grammar -/

/-- The size of the fields behind the standard header. -/
def extraLength (htyp : UInt8) : ℕ :=
  dltStandardHeaderExtraSize htyp + (if dltIsHtypUeh htyp then sizeofDltExtendedHeader else 0)

/-- The bytes begin with the message `f`: the skipped bytes, the serial header, the headers that the
header type announces and a payload that fills the length field. A serial header at the beginning is
taken, and a resynchronising reader takes the first one in the bytes. -/
structure Matches (resync : Bool) (bytes : List UInt8) (f : Frame) : Prop where
  /-- Where the parts lie. -/
  split : ∃ skipped rest, skipped.length = f.offset ∧
    bytes = skipped ++ ((if f.found then dltSerialHeader else []) ++ (f.header ++ f.payload)) ++ rest
  /-- The headers end where the header type says. -/
  header_eq : f.header.length = headerLength (htypOf f.header)
  /-- The length field covers the headers and the payload. -/
  lenOf_eq : lenOf f.header = f.header.length + f.payload.length
  first : f.found = true → find dltSerialHeader bytes = some f.offset
  /-- Only a resynchronising reader skips bytes. -/
  skips : resync = false → f.offset = 0
  /-- A message without serial header is taken when none is there and none is looked for. -/
  without : f.found = false → resync = false ∧ ¬ dltSerialHeader <+: bytes

theorem bodyFrame_ok_iff {header payload : List UInt8} :
    bodyFrame bytes = .ok (header, payload) ↔
      ∃ rest, bytes = header ++ payload ++ rest ∧ header.length = headerLength (htypOf header) ∧
        lenOf header = header.length + payload.length := by
  have hfour : ∀ htyp, 4 ≤ headerLength htyp := by
    intro htyp
    unfold headerLength sizeofDltStandardHeader
    omega
  constructor
  · intro h
    have hlen : 0 < header.length ∧ header.length + payload.length ≤ bytes.length ∧
        header.length + payload.length = lenOf bytes := bodyFrame_length h
    unfold bodyFrame at h
    split_ifs at h with hshort hcontent hfit
    simp only [Except.ok.injEq, Prod.mk.injEq] at h
    obtain ⟨hheader, hpayload⟩ := h
    have hpos := hfour (htypOf bytes)
    have htyp : htypOf header = htypOf bytes := by rw [← hheader, htypOf_take (by omega)]
    have hlenOf : lenOf header = lenOf bytes := by rw [← hheader, lenOf_take hpos]
    have hheaderLength : header.length = headerLength (htypOf bytes) := by
      rw [← hheader, length_take]
      omega
    refine ⟨bytes.drop (lenOf bytes), ?_, by rw [htyp, hheaderLength], ?_⟩
    · rw [← hpayload, ← hheader]
      have hcut : bytes.take (headerLength (htypOf bytes)) =
          (bytes.take (lenOf bytes)).take (headerLength (htypOf bytes)) := by
        rw [take_take, Nat.min_eq_left (by omega)]
      rw [hcut, take_append_drop, take_append_drop]
    · rw [hlenOf]
      exact hlen.2.2.symm
  · rintro ⟨rest, rfl, hheader, hlen⟩
    have hpos := hfour (htypOf header)
    have htyp : htypOf (header ++ payload ++ rest) = htypOf header := by
      rw [append_assoc, htypOf_append (by omega)]
    have hlenOf : lenOf (header ++ payload ++ rest) = lenOf header := by
      rw [append_assoc, lenOf_append (by omega)]
    unfold bodyFrame
    rw [htyp, hlenOf, if_neg (by
        simp only [length_append, sizeofDltStandardHeader]
        omega), if_neg (by omega), if_neg (by
        simp only [length_append]
        omega)]
    rw [← hheader, hlen, append_assoc, take_left' rfl, ← append_assoc,
      take_left' length_append, drop_left' rfl]

theorem split_at_find {k : ℕ} (h : find dltSerialHeader bytes = some k) :
    (bytes.take k).length = k ∧
      bytes = bytes.take k ++ (dltSerialHeader ++ bytes.drop (4 + k)) := by
  have hpre := prefix_of_find h
  have hlen := hpre.length_le
  simp only [dltSerialHeader, length_cons, length_nil, length_drop] at hlen
  refine ⟨by rw [length_take]; omega, ?_⟩
  obtain ⟨rest, hrest⟩ := hpre
  have hdrop : bytes.drop (4 + k) = rest := by
    rw [Nat.add_comm, ← drop_drop, ← hrest]
    exact drop_left' rfl
  rw [hdrop, hrest, take_append_drop]

/-- **The reference decides the grammar.** -/
theorem readFrame_ok_iff {resync : Bool} : readFrame resync bytes = .ok f ↔ Matches resync bytes f := by
  have hmap : ∀ {b : Except ℤ (List UInt8 × List UInt8)} {found : Bool} {offset : ℕ},
      b.map (fun b => (⟨found, offset, b.1, b.2⟩ : Frame)) = .ok f ↔
        f.found = found ∧ f.offset = offset ∧ b = .ok (f.header, f.payload) := by
    intro b found offset
    cases b with
    | error e => simp [Except.map]
    | ok b =>
      obtain ⟨found', offset', header, payload⟩ := f
      simp only [Except.map, Except.ok.injEq, Frame.mk.injEq, Prod.ext_iff]
      tauto
  constructor
  · intro h
    unfold readFrame at h
    split_ifs at h with hzero hshort hpre hresync
    · obtain ⟨hfound, hoffset, hbody⟩ := hmap.mp h
      obtain ⟨rest, hrest, hheader, hlen⟩ := bodyFrame_ok_iff.mp hbody
      have hfind := find_start hpre
      refine ⟨⟨[], rest, by rw [hoffset]; rfl, ?_⟩, hheader, hlen, fun _ => by rw [hfind, hoffset],
        fun _ => hoffset, fun hnot => absurd (hfound.symm.trans hnot) (by decide)⟩
      rw [hfound, if_pos rfl, nil_append, append_assoc, ← hrest]
      simpa using (split_at_find hfind).2
    · cases hfind : find dltSerialHeader bytes with
      | none => rw [hfind] at h; cases h
      | some k =>
        rw [hfind] at h
        obtain ⟨hfound, hoffset, hbody⟩ := hmap.mp h
        obtain ⟨rest, hrest, hheader, hlen⟩ := bodyFrame_ok_iff.mp hbody
        obtain ⟨hskipped, hsplit⟩ := split_at_find hfind
        refine ⟨⟨bytes.take k, rest, by rw [hoffset, hskipped], ?_⟩, hheader, hlen,
          fun _ => by rw [hfind, hoffset], fun hno => absurd (hresync.symm.trans hno) (by decide),
          fun hnot => absurd (hfound.symm.trans hnot) (by decide)⟩
        rw [hfound, if_pos rfl, append_assoc, append_assoc, ← hrest]
        exact hsplit
    · obtain ⟨hfound, hoffset, hbody⟩ := hmap.mp h
      obtain ⟨rest, hrest, hheader, hlen⟩ := bodyFrame_ok_iff.mp hbody
      refine ⟨⟨[], rest, by rw [hoffset]; rfl, ?_⟩, hheader, hlen,
        fun hnot => absurd (hfound.symm.trans hnot) (by decide), fun _ => hoffset,
        fun _ => ⟨by simpa using hresync, hpre⟩⟩
      rw [hfound, if_neg Bool.false_ne_true]
      simpa using hrest
  · rintro ⟨⟨skipped, rest, hskipped, hsplit⟩, hheader, hlen, hfirst, hskips, hwithout⟩
    have hheaderLen : 4 ≤ f.header.length := by
      rw [hheader, headerLength, sizeofDltStandardHeader]
      omega
    have hbytesLen : 4 ≤ bytes.length := by
      rw [hsplit]
      simp only [length_append]
      omega
    have hfour : dltSerialHeader.length = 4 := rfl
    unfold readFrame
    rw [if_neg (by omega), if_neg (by omega)]
    cases hfound : f.found with
    | true =>
      have hfind := hfirst hfound
      -- behind the serial header lies the body
      have hbody : bodyFrame (bytes.drop (4 + f.offset)) = .ok (f.header, f.payload) := by
        refine bodyFrame_ok_iff.mpr ⟨rest, ?_, hheader, hlen⟩
        rw [hsplit, hfound, if_pos rfl, Nat.add_comm, ← drop_drop, append_assoc,
          drop_left' hskipped, append_assoc, drop_left' hfour]
      by_cases hpre : dltSerialHeader <+: bytes
      · have hoffset : f.offset = 0 := by
          rw [find_start hpre, Option.some.injEq] at hfind
          exact hfind.symm
        rw [if_pos hpre]
        rw [hoffset] at hbody
        exact hmap.mpr ⟨hfound, hoffset, hbody⟩
      · have hresync : resync = true := by
          by_contra hno
          have hoffset := hskips (by simpa using hno)
          rw [hoffset] at hfind
          exact hpre (by simpa using prefix_of_find hfind)
        rw [if_neg hpre, if_pos hresync, hfind]
        exact hmap.mpr ⟨hfound, rfl, hbody⟩
    | false =>
      obtain ⟨hresync, hpre⟩ := hwithout hfound
      have hoffset := hskips hresync
      have hskippedNil : skipped = [] := eq_nil_of_length_eq_zero (by omega)
      rw [if_neg hpre, hresync, if_neg Bool.false_ne_true]
      refine hmap.mpr ⟨hfound, hoffset, bodyFrame_ok_iff.mpr ⟨rest, ?_, hheader, hlen⟩⟩
      rw [hsplit, hskippedNil, hfound, if_neg Bool.false_ne_true]
      simp

/-! ## What a consumer reads -/

/-- The fields of a message that a consumer may read. -/
structure Consumed where
  /-- Size of the headers, the storage header included. -/
  headersize : ℕ
  datasize : ℤ
  foundSerialheader : Bool
  /-- Bytes skipped before the serial header. -/
  resyncOffset : ℕ
  header : List UInt8
  /-- Where the extended header lies. -/
  extendedheader : Option ℕ
  /-- The ECU id, if the message has one. -/
  ecu : Option (List UInt8)
  /-- The session number, if the message has one. -/
  seid : Option ℕ
  tmsp : Option ℕ
  payload : List UInt8
deriving DecidableEq, Repr

/-- What a consumer reads of a record. -/
def DltMessage.consumed (msg : DltMessage) : Consumed where
  headersize := msg.headersize
  datasize := msg.datasize
  foundSerialheader := msg.foundSerialheader
  resyncOffset := msg.resyncOffset
  header := msg.header
  extendedheader := msg.extendedheader
  ecu := if dltIsHtypWeid (htypOf msg.header) then some msg.headerextra.ecu else none
  seid := if dltIsHtypWsid (htypOf msg.header) then some msg.headerextra.seid else none
  tmsp := if dltIsHtypWtms (htypOf msg.header) then some msg.headerextra.tmsp else none
  payload := msg.payload

/-- Where the session number lies, from the standard header on. -/
def seidStart (htyp : UInt8) : ℕ := sizeofDltStandardHeader + (if dltIsHtypWeid htyp then 4 else 0)

/-- Where the timestamp lies, from the standard header on. -/
def tmspStart (htyp : UInt8) : ℕ := seidStart htyp + (if dltIsHtypWsid htyp then 4 else 0)

/-- What the grammar says about a message. -/
def Frame.consumed (f : Frame) : Consumed where
  headersize := sizeofDltStorageHeader + f.header.length
  datasize := f.payload.length
  foundSerialheader := f.found
  resyncOffset := f.offset
  header := f.header
  extendedheader :=
    if dltIsHtypUeh (htypOf f.header) then
      some (sizeofDltStorageHeader + sizeofDltStandardHeader +
        dltStandardHeaderExtraSize (htypOf f.header))
    else none
  ecu :=
    if dltIsHtypWeid (htypOf f.header) then
      some ((f.header.drop sizeofDltStandardHeader).take dltIdSize)
    else none
  seid :=
    if dltIsHtypWsid (htypOf f.header) then
      some (ofBeBytes ((f.header.drop (seidStart (htypOf f.header))).take 4))
    else none
  tmsp :=
    if dltIsHtypWtms (htypOf f.header) then
      some (ofBeBytes ((f.header.drop (tmspStart (htypOf f.header))).take 4))
    else none
  payload := f.payload

/-! ## What a call loads -/

/-- The fields that a successful call takes from the headers behind the standard header, `old` being
the pointer to the extended header before the call. -/
structure Loaded (old : Option ℕ) (msg : DltMessage) (htyp : UInt8) : Prop where
  extendedheader : msg.extendedheader =
    if extraLength htyp > 0 then
      if dltIsHtypUeh htyp then
        some (sizeofDltStorageHeader + sizeofDltStandardHeader + dltStandardHeaderExtraSize htyp)
      else none
    else old
  ecu : dltIsHtypWeid htyp = true → msg.headerextra.ecu =
    (msg.headerbuffer.drop (sizeofDltStorageHeader + sizeofDltStandardHeader)).take dltIdSize
  seid : dltIsHtypWsid htyp = true → msg.headerextra.seid =
    ofBeBytes ((msg.headerbuffer.drop (sizeofDltStorageHeader + seidStart htyp)).take 4)
  tmsp : dltIsHtypWtms htyp = true → msg.headerextra.tmsp =
    ofBeBytes ((msg.headerbuffer.drop (sizeofDltStorageHeader + tmspStart htyp)).take 4)

section body

variable {malloc : Malloc} {msg : DltMessage} {buffer : List UInt8} {length : ℕ}

theorem dltMessageLoadExtra_loaded (msg : DltMessage) {htyp : UInt8} {extra : List UInt8}
    (hlen : extra.length = extraLength htyp) :
    Loaded msg.extendedheader (dltMessageLoadExtra msg htyp extra) htyp := by
  unfold dltMessageLoadExtra
  rw [hlen]
  by_cases hpos : extraLength htyp > 0
  · rw [if_pos hpos]
    refine ⟨?_, ?_, ?_, ?_⟩
    · rw [if_pos hpos]
      rfl
    · intro h
      simp [dltMessageGetExtraparameters, h]
    · intro h
      simp [dltMessageGetExtraparameters, h, seidStart, Nat.add_assoc]
    · intro h
      simp [dltMessageGetExtraparameters, h, tmspStart, seidStart, Nat.add_assoc]
  · rw [if_neg hpos]
    -- without further headers there is no flag to account for
    have hnone : dltIsHtypWeid htyp = false ∧ dltIsHtypWsid htyp = false ∧
        dltIsHtypWtms htyp = false := by
      unfold extraLength dltStandardHeaderExtraSize at hpos
      refine ⟨?_, ?_, ?_⟩ <;>
      · by_contra h
        rw [Bool.not_eq_false] at h
        rw [h] at hpos
        simp only [if_true] at hpos
        omega
    obtain ⟨hweid, hwsid, hwtms⟩ := hnone
    refine ⟨by rw [if_neg hpos], fun h => ?_, fun h => ?_, fun h => ?_⟩
    · exact absurd (hweid.symm.trans h) (by decide)
    · exact absurd (hwsid.symm.trans h) (by decide)
    · exact absurd (hwtms.symm.trans h) (by decide)

theorem Loaded.loadData {old : Option ℕ} {htyp : UInt8} (h : Loaded old msg htyp)
    (payload : List UInt8) : Loaded old (dltMessageLoadData malloc msg payload).1 htyp := by
  have hallocate : Loaded old (dltMessageAllocate malloc msg) htyp := by
    unfold dltMessageAllocate
    split_ifs
    · exact h
    · exact ⟨h.extendedheader, h.ecu, h.seid, h.tmsp⟩
  unfold dltMessageLoadData
  cases hdata : (dltMessageAllocate malloc msg).databuffer with
  | none =>
    simp only [hdata]
    exact hallocate
  | some databuffer =>
    simp only [hdata]
    exact ⟨hallocate.extendedheader, hallocate.ecu, hallocate.seid, hallocate.tmsp⟩

section

variable (hle : length ≤ buffer.length)
include hle

section

variable (hok : (dltMessageReadBody malloc msg buffer length).2 = dltMessageErrorOk)
include hok

theorem dltMessageReadBody_ok :
    ∃ standard headersize datasize extra payload, extra.length = extraLength (htypOf (buffer.take length)) ∧
      dltMessageReadBody malloc msg buffer length = dltMessageLoadData malloc (dltMessageLoadExtra
        (dltMessageLoadStandard msg standard headersize datasize) (htypOf (buffer.take length)) extra) payload := by
  unfold dltMessageReadBody at hok ⊢
  by_cases hshort : length < sizeofDltStandardHeader
  · rw [if_pos hshort] at hok
    cases hok
  rw [if_neg hshort] at hok ⊢
  have hpos : 0 < length := by
    unfold sizeofDltStandardHeader at hshort
    omega
  have hhtyp : (buffer.take sizeofDltStandardHeader).getD 0 0 = htypOf (buffer.take length) := by
    rw [htypOf_take hpos]
    exact htypOf_take (by decide)
  simp only [hhtyp] at hok ⊢
  generalize htypOf (buffer.take length) = htyp at hok ⊢
  generalize ofBeBytes (((buffer.take sizeofDltStandardHeader).drop 2).take 2) = len at hok ⊢
  generalize hsize : dltStandardHeaderExtraSize htyp +
    (if dltIsHtypUeh htyp then sizeofDltExtendedHeader else 0) = extra at hok ⊢
  split_ifs at hok ⊢ with hcontent hextra hfit
  · cases hok
  · cases hok
  · cases hok
  · refine ⟨_, _, _, _, _, ?_, rfl⟩
    rw [length_take, length_drop, extraLength, hsize]
    omega

/-- A successful call has loaded the headers behind the standard header. -/
theorem dltMessageReadBody_loaded :
    Loaded msg.extendedheader (dltMessageReadBody malloc msg buffer length).1
      (htypOf (buffer.take length)) := by
  obtain ⟨standard, headersize, datasize, extra, payload, hextra, heq⟩ := dltMessageReadBody_ok hle hok
  rw [heq]
  apply Loaded.loadData
  exact dltMessageLoadExtra_loaded (dltMessageLoadStandard msg ..) hextra

theorem dltMessageReadBody_pointers :
    (dltMessageReadBody malloc msg buffer length).1.storageheader = some 0 ∧
      (dltMessageReadBody malloc msg buffer length).1.standardheader = some sizeofDltStorageHeader := by
  have hextra : ∀ (msg : DltMessage) (htyp : UInt8) (extra : List UInt8),
      (dltMessageLoadExtra msg htyp extra).storageheader = msg.storageheader ∧
        (dltMessageLoadExtra msg htyp extra).standardheader = msg.standardheader := by
    intro msg htyp extra
    obtain ⟨headerextra, extendedheader, heq⟩ := dltMessageLoadExtra_eq msg htyp extra
    rw [heq]
    exact ⟨rfl, rfl⟩
  have hdata : ∀ (msg : DltMessage) (payload : List UInt8),
      (dltMessageLoadData malloc msg payload).1.storageheader = msg.storageheader ∧
        (dltMessageLoadData malloc msg payload).1.standardheader = msg.standardheader := by
    intro msg payload
    unfold dltMessageLoadData dltMessageAllocate
    split_ifs
    · cases hdatabuffer : msg.databuffer <;> simp [hdatabuffer]
    · cases hmalloc : malloc msg.datasize.toNat <;> simp
  obtain ⟨standard, headersize, datasize, extra, payload, -, heq⟩ := dltMessageReadBody_ok hle hok
  rw [heq, (hdata _ _).1, (hdata _ _).2, (hextra _ _ _).1, (hextra _ _ _).2]
  exact ⟨rfl, rfl⟩

end

end

theorem dltMessageReadBody_take (malloc : Malloc) (msg : DltMessage) (buffer : List UInt8)
    (length : ℕ) : dltMessageReadBody malloc msg (buffer.take length) length =
      dltMessageReadBody malloc msg buffer length := by
  have htake : ∀ i n, i + n ≤ length →
      ((buffer.take length).drop i).take n = (buffer.drop i).take n := by
    intro i n hin
    rw [drop_take, take_take]
    congr 1
    omega
  unfold dltMessageReadBody
  by_cases hshort : length < sizeofDltStandardHeader
  · rw [if_pos hshort, if_pos hshort]
  rw [if_neg hshort, if_neg hshort]
  have hstandard : (buffer.take length).take sizeofDltStandardHeader =
      buffer.take sizeofDltStandardHeader := by
    simpa using htake 0 sizeofDltStandardHeader (by omega)
  simp only [hstandard]
  generalize (buffer.take sizeofDltStandardHeader).getD 0 0 = htyp
  generalize ofBeBytes (((buffer.take sizeofDltStandardHeader).drop 2).take 2) = len
  generalize dltStandardHeaderExtraSize htyp +
    (if dltIsHtypUeh htyp then sizeofDltExtendedHeader else 0) = extra
  split_ifs with hcontent hextra hfit
  · rfl
  · rfl
  · rw [htake _ _ (by omega)]
  · rw [htake _ _ (by omega), htake _ _ (by omega)]

theorem dltMessageResync_le (hle : length ≤ buffer.length)
    (hshort : ¬ length < dltSerialHeader.length) :
    (if (dltMessageResync buffer length 0).2 then 4 + (dltMessageResync buffer length 0).1
      else (dltMessageResync buffer length 0).1) ≤ length := by
  have hfour : dltSerialHeader.length = 4 := rfl
  rw [dltMessageResync_eq hle (by omega), drop_zero]
  cases hfind : find dltSerialHeader (buffer.take length) with
  | none =>
    simp only [Bool.false_eq_true, if_false]
    omega
  | some k =>
    have hk := (prefix_of_find hfind).length_le
    simp only [length_drop, length_take, hfour] at hk
    simp only [if_true]
    omega

theorem dltMessageRead_take (malloc : Malloc) (msg : DltMessage) (resync : Bool)
    (hle : length ≤ buffer.length) :
    dltMessageRead malloc msg (buffer.take length) length resync =
      dltMessageRead malloc msg buffer length resync := by
  have hfour : dltSerialHeader.length = 4 := rfl
  have hdrop : ∀ n, n ≤ length → ∀ msg : DltMessage,
      dltMessageReadBody malloc msg ((buffer.take length).drop n) (length - n) =
        dltMessageReadBody malloc msg (buffer.drop n) (length - n) := by
    intro n hn msg
    rw [drop_take, dltMessageReadBody_take]
  unfold dltMessageRead
  by_cases hzero : length = 0
  · rw [if_pos hzero, if_pos hzero]
  rw [if_neg hzero, if_neg hzero]
  by_cases hshort : length < dltSerialHeader.length
  · simp [hshort]
  have hbegin : (buffer.take length).take 4 = buffer.take 4 := by
    rw [take_take, Nat.min_eq_left (by omega)]
  have hresync : dltMessageResync (buffer.take length) length 0 =
      dltMessageResync buffer length 0 := by
    rw [dltMessageResync_eq (by rw [length_take]; omega) (by omega),
      dltMessageResync_eq hle (by omega), take_take, Nat.min_self]
  simp [hshort, hbegin, hresync, hdrop 4 (by omega), hdrop _ (dltMessageResync_le hle hshort), dltMessageReadBody_take]

section

variable {resync : Bool} (hle : length ≤ buffer.length)
  (hok : (dltMessageRead malloc msg buffer length resync).2 = dltMessageErrorOk)
include hle hok

/-- A successful call reads a message behind some of the valid bytes. -/
theorem dltMessageRead_body :
    ∃ found offset n, n ≤ length ∧ dltMessageRead malloc msg buffer length resync =
      dltMessageReadBody malloc { msg with foundSerialheader := found, resyncOffset := offset }
        (buffer.drop n) (length - n) := by
  have hfour : dltSerialHeader.length = 4 := rfl
  unfold dltMessageRead at hok ⊢
  split_ifs at hok ⊢ with hzero hshort hbegin hresync
  · cases hok
  · cases hok
  · exact ⟨true, 0, 4, by omega, rfl⟩
  · exact ⟨_, _, _, dltMessageResync_le hle hshort, rfl⟩
  · exact ⟨false, 0, 0, Nat.zero_le _, rfl⟩

theorem dltMessageRead_pointers :
    (dltMessageRead malloc msg buffer length resync).1.storageheader = some 0 ∧
      (dltMessageRead malloc msg buffer length resync).1.standardheader = some sizeofDltStorageHeader := by
  obtain ⟨found, offset, n, -, hbody⟩ := dltMessageRead_body hle hok
  rw [hbody] at hok ⊢
  refine dltMessageReadBody_pointers ?_ hok
  rw [length_drop]
  omega

end

section

variable (hm : malloc.Succeeds) (h : msg.Wf) {resync : Bool} (hle : length ≤ buffer.length)
  (hok : (dltMessageRead malloc msg buffer length resync).2 = dltMessageErrorOk)
include hm h hle hok

/-- **What a successful call loads behind the valid bytes that it skips holds of the record.** -/
theorem dltMessageRead_of_body {P : DltMessage → UInt8 → Prop}
    (hP : ∀ found offset (buffer : List UInt8) (length : ℕ), length ≤ buffer.length →
      (dltMessageReadBody malloc { msg with foundSerialheader := found, resyncOffset := offset } buffer length).2 =
        dltMessageErrorOk →
      P (dltMessageReadBody malloc { msg with foundSerialheader := found, resyncOffset := offset } buffer length).1
        (htypOf (buffer.take length))) :
    P (dltMessageRead malloc msg buffer length resync).1
      (htypOf (dltMessageRead malloc msg buffer length resync).1.header) := by
  obtain ⟨found, offset, n, hn, hbody⟩ := dltMessageRead_body hle hok
  rw [hbody] at hok ⊢
  have hle' : length - n ≤ (buffer.drop n).length := by
    rw [length_drop]
    omega
  have hfollows := dltMessageReadBody_follows hm (h.setFlags found offset) hle'
  have hread := hP found offset _ _ hle' hok
  cases hframe : bodyFrame ((buffer.drop n).take (length - n)) with
  | error e => exact absurd ((hfollows.error e hframe).symm.trans hok) (bodyFrame_error_ne hframe)
  | ok b =>
    obtain ⟨rest, hrest, -⟩ := bodyFrame_ok_iff.mp hframe
    have htyp : htypOf ((buffer.drop n).take (length - n)) = htypOf b.1 := by
      rw [hrest, append_assoc, htypOf_append (bodyFrame_length hframe).1]
    rw [(hfollows.ok b hframe).2.1, ← htyp]
    exact hread

/-- A successful call has loaded the headers behind the standard header. -/
theorem dltMessageRead_loaded :
    Loaded msg.extendedheader (dltMessageRead malloc msg buffer length resync).1
      (htypOf (dltMessageRead malloc msg buffer length resync).1.header) :=
  dltMessageRead_of_body hm h hle hok fun _ _ _ _ hle hok => dltMessageReadBody_loaded hle hok

end

end body

/-- After a success a consumer reads what the grammar says, but for the pointer to the extended
header. -/
theorem consumed_eq {old : Option ℕ} {msg : DltMessage} (hf : msg.Holds f)
    (hloaded : Loaded old msg (htypOf msg.header)) (hheader : f.header.length = headerLength (htypOf f.header)) :
    msg.consumed = { f.consumed with extendedheader := msg.extendedheader } := by
  -- a field of four bytes inside the headers
  have hfield : ∀ k, k + 4 ≤ f.header.length →
      (msg.headerbuffer.drop (sizeofDltStorageHeader + k)).take 4 = (f.header.drop k).take 4 := by
    intro k hk
    rw [← hf.header_eq, DltMessage.header, hf.headersize_eq, Nat.add_sub_cancel_left,
      drop_take, take_take, drop_drop, Nat.min_eq_left (by omega)]
  rw [hf.header_eq] at hloaded
  unfold headerLength dltStandardHeaderExtraSize sizeofDltStandardHeader at hheader
  unfold DltMessage.consumed Frame.consumed
  simp only [Consumed.mk.injEq, hf.headersize_eq, hf.datasize_eq, hf.found_eq, hf.offset_eq,
    hf.header_eq, hf.payload_eq, true_and, and_true]
  refine ⟨?_, ?_, ?_⟩
  · by_cases hweid : dltIsHtypWeid (htypOf f.header)
    · rw [if_pos hweid, if_pos hweid, hloaded.ecu hweid]
      rw [hweid] at hheader
      simp only [if_true] at hheader
      exact congrArg some (hfield sizeofDltStandardHeader (by unfold sizeofDltStandardHeader; omega))
    · rw [if_neg hweid, if_neg hweid]
  · by_cases hwsid : dltIsHtypWsid (htypOf f.header)
    · rw [if_pos hwsid, if_pos hwsid, hloaded.seid hwsid, hfield]
      rw [hwsid] at hheader
      simp only [if_true] at hheader
      unfold seidStart sizeofDltStandardHeader
      omega
    · rw [if_neg hwsid, if_neg hwsid]
  · by_cases hwtms : dltIsHtypWtms (htypOf f.header)
    · rw [if_pos hwtms, if_pos hwtms, hloaded.tmsp hwtms, hfield]
      rw [hwtms] at hheader
      simp only [if_true] at hheader
      unfold tmspStart seidStart sizeofDltStandardHeader
      omega
    · rw [if_neg hwtms, if_neg hwtms]

/-! ## A record that is used again -/

/-- The records that calls leave, whatever they were given. -/
inductive ReadHistory (malloc : Malloc) : DltMessage → Prop
  /-- `dlt_message_init` on any memory of the record's size. -/
  | init (memory : DltMessage) (hsize : memory.headerbuffer.length = sizeofHeaderbuffer) :
      ReadHistory malloc (dltMessageInit memory)
  | read {msg : DltMessage} (h : ReadHistory malloc msg) (buffer : List UInt8) (length : ℕ)
      (resync : Bool) (hle : length ≤ buffer.length) :
      ReadHistory malloc (dltMessageRead malloc msg buffer length resync).1

theorem dltMessageInit_wf {memory : DltMessage}
    (hsize : memory.headerbuffer.length = sizeofHeaderbuffer) : (dltMessageInit memory).Wf :=
  ⟨hsize, by simp [dltMessageInit]⟩

theorem ReadHistory.wf {malloc : Malloc} (hm : malloc.Succeeds) {msg : DltMessage}
    (h : ReadHistory malloc msg) : msg.Wf := by
  induction h with
  | init memory hsize => exact dltMessageInit_wf hsize
  | read h buffer length resync hle ih => exact (dltMessageRead_eq_readFrame hm ih hle resync).1

/-- A call that does not depend on what the record held before. -/
structure HistoryFree (malloc : Malloc) (msg : DltMessage) (buffer : List UInt8) (length : ℕ)
    (resync : Bool) : Prop where
  /-- What lies behind the valid bytes is not read. -/
  inside : ∀ memory, length ≤ memory.length → memory.take length = buffer.take length →
    dltMessageRead malloc msg memory length resync = dltMessageRead malloc msg buffer length resync
  /-- The call succeeds on the messages of the grammar. -/
  ok_iff : (dltMessageRead malloc msg buffer length resync).2 = dltMessageErrorOk ↔
    ∃ f, Matches resync (buffer.take length) f
  /-- What a consumer reads is what the grammar says. -/
  matches_consumed : ∀ f, Matches resync (buffer.take length) f →
    (dltMessageRead malloc msg buffer length resync).1.consumed = f.consumed
  /-- What a consumer reads is what a fresh record would give. -/
  fresh : (dltMessageRead malloc msg buffer length resync).2 = dltMessageErrorOk →
    ∀ memory, memory.headerbuffer.length = sizeofHeaderbuffer →
      (dltMessageRead malloc msg buffer length resync).1.consumed =
        (dltMessageRead malloc (dltMessageInit memory) buffer length resync).1.consumed

section history

variable {malloc : Malloc} {msg : DltMessage} {buffer : List UInt8} {length : ℕ} {resync : Bool}

theorem dltMessageRead_ok_iff (hm : malloc.Succeeds) (h : msg.Wf) (hle : length ≤ buffer.length) :
    (dltMessageRead malloc msg buffer length resync).2 = dltMessageErrorOk ↔
      ∃ f, Matches resync (buffer.take length) f := by
  obtain ⟨-, herror, hok⟩ := dltMessageRead_eq_readFrame hm h hle resync
  constructor
  · intro hret
    cases hread : readFrame resync (buffer.take length) with
    | error e => exact absurd ((herror e hread).symm.trans hret) (readFrame_error_ne hread)
    | ok f => exact ⟨f, readFrame_ok_iff.mp hread⟩
  · rintro ⟨f, hf⟩
    exact (hok f (readFrame_ok_iff.mpr hf)).1

/-- What a consumer reads after a call, and where the pointer to the extended header comes from. -/
theorem dltMessageRead_consumed (hm : malloc.Succeeds) (h : msg.Wf) (hle : length ≤ buffer.length)
    (hf : Matches resync (buffer.take length) f) :
    (dltMessageRead malloc msg buffer length resync).1.consumed =
      { f.consumed with extendedheader :=
          if extraLength (htypOf f.header) > 0 then f.consumed.extendedheader
          else msg.extendedheader } := by
  obtain ⟨-, -, hframe⟩ := dltMessageRead_eq_readFrame hm h hle resync
  obtain ⟨hret, hholds⟩ := hframe f (readFrame_ok_iff.mpr hf)
  have hloaded := dltMessageRead_loaded hm h hle hret
  rw [consumed_eq hholds hloaded hf.header_eq, hloaded.extendedheader, hholds.header_eq]
  rfl

/-- Without any field behind the standard header there is no extended header. -/
theorem Frame.extendedheader_eq_none (h : ¬ extraLength (htypOf f.header) > 0) :
    f.consumed.extendedheader = none := by
  unfold extraLength at h
  have hueh : ¬ dltIsHtypUeh (htypOf f.header) = true := by
    intro hueh
    rw [if_pos hueh] at h
    unfold sizeofDltExtendedHeader at h
    omega
  exact if_neg hueh

/-- A record without extended header from before gives what the grammar says. -/
theorem dltMessageRead_consumed_iff (hm : malloc.Succeeds) (h : msg.Wf) (hle : length ≤ buffer.length)
    (hf : Matches resync (buffer.take length) f) :
    (dltMessageRead malloc msg buffer length resync).1.consumed = f.consumed ↔
      extraLength (htypOf f.header) > 0 ∨ msg.extendedheader = none := by
  rw [dltMessageRead_consumed hm h hle hf]
  by_cases hextra : extraLength (htypOf f.header) > 0
  · rw [if_pos hextra]
    exact ⟨fun _ => .inl hextra, fun _ => rfl⟩
  · rw [if_neg hextra]
    constructor
    · intro heq
      have hnone := congrArg Consumed.extendedheader heq
      rw [Frame.extendedheader_eq_none hextra] at hnone
      exact .inr hnone
    · rintro (hpos | hnone)
      · exact absurd hpos hextra
      · rw [hnone, ← Frame.extendedheader_eq_none hextra]

/-- **A call does not depend on the history of the record exactly when** the message has a field
behind its standard header, or the record has no extended header left from an earlier message. -/
theorem dltMessageRead_historyFree_iff (hm : malloc.Succeeds) (h : ReadHistory malloc msg)
    (hle : length ≤ buffer.length) :
    HistoryFree malloc msg buffer length resync ↔
      ∀ f, Matches resync (buffer.take length) f →
        extraLength (htypOf f.header) > 0 ∨ msg.extendedheader = none := by
  have hwf := h.wf hm
  constructor
  · intro hfree f hf
    exact (dltMessageRead_consumed_iff hm hwf hle hf).mp (hfree.matches_consumed f hf)
  · intro hcond
    have hgrammar : ∀ f, Matches resync (buffer.take length) f →
        (dltMessageRead malloc msg buffer length resync).1.consumed = f.consumed :=
      fun f hf => (dltMessageRead_consumed_iff hm hwf hle hf).mpr (hcond f hf)
    refine ⟨?_, dltMessageRead_ok_iff hm hwf hle, hgrammar, ?_⟩
    · intro memory hmemory htake
      rw [← dltMessageRead_take malloc msg resync hmemory, htake,
        dltMessageRead_take malloc msg resync hle]
    · intro hok memory hsize
      obtain ⟨f, hf⟩ := (dltMessageRead_ok_iff hm hwf hle).mp hok
      rw [hgrammar f hf]
      exact ((dltMessageRead_consumed_iff hm (dltMessageInit_wf hsize) hle hf).mpr
        (.inr rfl)).symm

end history

/-- The record after a message that is its extended header only. -/
def recordAfterExtended : DltMessage :=
  (dltMessageRead zeroMalloc (dltMessageInit sampleMessage)
    ([0x21, 0, 0, 14] ++ List.replicate 10 0) 14 false).1

theorem recordAfterExtended_history : ReadHistory zeroMalloc recordAfterExtended :=
  .read (.init sampleMessage (length_replicate ..)) _ _ _ (Nat.le_refl 14)

/-- A message with a field behind its standard header does not show the extended header of the message before. -/
theorem dltMessageRead_historyFree_iff_sample :
    HistoryFree zeroMalloc recordAfterExtended [0x24, 0, 0, 8, 0x45, 0x43, 0x55, 0x31] 8 false := by
  refine (dltMessageRead_historyFree_iff zeroMalloc_succeeds recordAfterExtended_history (Nat.le_refl 8)).mpr ?_
  intro f hf
  obtain rfl : _ = f := Except.ok.inj (readFrame_ok_iff.mpr hf)
  exact .inl (by decide)

/-- A message that is its standard header only keeps the pointer to the extended header of the
message before. -/
theorem dltMessageRead_keeps_extendedheader :
    ReadHistory zeroMalloc recordAfterExtended ∧
      ¬ HistoryFree zeroMalloc recordAfterExtended [0x20, 0, 0, 4] 4 false := by
  refine ⟨recordAfterExtended_history, fun hfree => ?_⟩
  have hsame := congrArg Consumed.extendedheader
    (hfree.fresh (by decide) sampleMessage (length_replicate ..))
  revert hsame
  decide

end Dlt.Shared
