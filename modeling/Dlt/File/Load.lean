import Dlt.File.File

/-!
# What the reading of one message gives

* `FileMessage` — a message as it lies in a file; `storedMessage` — the reference: the message that is found in the
  bytes. `LoadedAs` — the record holds a message.
* `dltFileLoad_ok`, `dltFileLoad_error` — **the three steps follow the reference**, but for the pointer to the extended
  header, which keeps its value where the message has none.
-/

namespace Dlt.File

open Dlt.Lib Dlt.Shared List ByteFile
open Dlt.User (dltSetStorageheader)

variable {n start : ℕ} {standard : List UInt8} {msg : DltMessage}

/-! ## Windows -/

theorem window_congr {a b : List UInt8} {k m : ℕ} (h : a.take n = b.take n) (hkm : k + m ≤ n) :
    (a.drop k).take m = (b.drop k).take m := by
  have hcut : ∀ l : List UInt8, (l.drop k).take m = ((l.take n).drop k).take m := by
    intro l
    rw [drop_take, take_take, Nat.min_eq_left (by omega)]
  rw [hcut a, hcut b, h]

/-- A block that replaces one of the same length at the beginning. -/
theorem overwrite_zero_twice {mem fst snd : List UInt8} (h : fst.length = snd.length) :
    overwrite (overwrite mem 0 fst) 0 snd = overwrite mem 0 snd := by
  rw [overwrite_zero, overwrite_zero, overwrite_zero, ← h, drop_left' rfl]

theorem take_overwrite_take {mem bytes : List UInt8} {m : ℕ} (hstart : start ≤ mem.length) (hn : n ≤ m)
    (hm : m ≤ bytes.length) :
    (overwrite mem start (bytes.take m)).take (start + n) = mem.take start ++ bytes.take n := by
  have hlen : (bytes.take m).length = m := by rw [length_take, Nat.min_eq_left hm]
  rw [take_add, take_overwrite _ hstart, drop_overwrite _ hstart,
    take_append_of_le_length (by rw [hlen]; exact hn), take_take, Nat.min_eq_left hn]

/-! ## Return values -/

theorem ok_not_lt : ¬dltReturnOk < dltReturnOk := by decide

theorem error_lt : dltReturnError < dltReturnOk := by decide

theorem true_not_lt : ¬dltReturnTrue < dltReturnOk := by decide

theorem error_ne_true : dltReturnError ≠ dltReturnTrue := by decide

theorem ok_ne_true : dltReturnOk ≠ dltReturnTrue := by decide

/-! ## The state -/

/-- The file has this content, and the buffers of the record have the announced sizes. -/
structure LoadState.Ready (content : List UInt8) (s : LoadState) : Prop where
  content_eq : s.handle.content = content
  wf : s.msg.Wf
  datasize_nonneg : 0 ≤ s.msg.datasize

section

variable {content : List UInt8} {s : LoadState} (h : s.Ready content)
include h

theorem LoadState.Ready.change {handle : ByteFile} (hcontent : handle.content = s.handle.content)
    (hbuffer : msg.headerbuffer.length = s.msg.headerbuffer.length) (hdata : msg.databuffer = s.msg.databuffer)
    (hsize : msg.databuffersize = s.msg.databuffersize) (hnonneg : 0 ≤ msg.datasize) :
    LoadState.Ready content { handle, msg } where
  content_eq := hcontent.trans h.content_eq
  wf := ⟨hbuffer.trans h.wf.length_headerbuffer, by rw [hdata, hsize]; exact h.wf.databuffersize_eq⟩
  datasize_nonneg := hnonneg

theorem LoadState.Ready.seek (pos : ℕ) :
    LoadState.Ready content { s with handle := s.handle.seek pos } := h.change rfl rfl rfl rfl h.datasize_nonneg

theorem LoadState.Ready.rest_eq :
    s.handle.rest = content.drop s.handle.pos := by rw [rest, h.content_eq]

theorem LoadState.Ready.fread (hfits : start + n ≤ sizeofHeaderbuffer) : (s.fread start n).Ready content := by
  refine h.change rfl (length_overwrite ?_) rfl rfl h.datasize_nonneg
  have hgot : (s.handle.got n).length ≤ n := by
    rw [length_got]
    exact Nat.min_le_left _ _
  rw [h.wf.length_headerbuffer]
  omega

theorem LoadState.Ready.pointed :
    s.pointed.Ready content := h.change rfl rfl rfl rfl h.datasize_nonneg

theorem LoadState.Ready.setSizes :
    s.setSizes.1.Ready content := by
  unfold LoadState.setSizes
  dsimp only
  split_ifs with hsize
  · exact h.change rfl rfl rfl rfl h.datasize_nonneg
  · exact h.change rfl rfl rfl rfl (Int.not_lt.mp hsize)

end

/-! ## The storage header -/

section header

variable {content : List UInt8} {s : LoadState}

theorem headerbuffer_fread_take (h : sizeofHeaders ≤ s.handle.rest.length) :
    (s.fread 0 sizeofHeaders).pointed.msg.headerbuffer.take 4 = s.handle.rest.take 4 := by
  change (overwrite s.msg.headerbuffer 0 (s.handle.got sizeofHeaders)).take 4 = _
  have hfour : 4 ≤ (s.handle.got sizeofHeaders).length := by
    rw [length_got_of_le h]
    decide
  rw [overwrite_zero, take_append_of_le_length hfour, got, take_take]
  rfl

theorem dltFileFindHeader_short (h : s.handle.rest.length < sizeofHeaders) :
    dltFileFindHeader s = (s.fread 0 sizeofHeaders, false) := by
  rw [dltFileFindHeader, dif_pos h]

theorem dltFileFindHeader_here (h : ¬s.handle.rest.length < sizeofHeaders) (hhere : storagePattern <+: s.handle.rest) :
    dltFileFindHeader s = ((s.fread 0 sizeofHeaders).pointed, true) := by
  rw [dltFileFindHeader, dif_neg h]
  dsimp only
  rw [if_pos ((headerbuffer_fread_take (Nat.not_lt.mp h)).trans ((prefix_iff_take rfl).mp hhere))]

theorem dltFileFindHeader_behind (h : ¬s.handle.rest.length < sizeofHeaders)
    (hhere : ¬storagePattern <+: s.handle.rest) :
    dltFileFindHeader s = dltFileFindHeader
      { (s.fread 0 sizeofHeaders).pointed with handle := s.handle.seek (s.handle.pos + 1) } := by
  rw [dltFileFindHeader, dif_neg h]
  dsimp only
  rw [if_neg]
  rw [headerbuffer_fread_take (Nat.not_lt.mp h)]
  exact fun heq => hhere ((prefix_iff_take rfl).mpr heq)

theorem rest_next (f : ByteFile) : (f.seek (f.pos + 1)).rest = f.rest.tail := by
  rw [rest_seek, rest, tail_drop]

theorem LoadState.Ready.findHeader (h : s.Ready content) : (dltFileFindHeader s).1.Ready content := by
  fun_induction dltFileFindHeader s with
  | case1 s hshort => exact h.fread (by decide)
  | case2 s hshort read hfound => exact (h.fread (by decide)).pointed
  | case3 s hshort read hfound ih => exact ih ((h.fread (by decide)).pointed.seek _)

/-- The state with the headers that begin `k` bytes behind the position. -/
def LoadState.headersFrom (s : LoadState) (k : ℕ) : LoadState where
  handle := s.handle.seek (s.handle.pos + k + sizeofHeaders)
  msg := { s.msg with
    headerbuffer := overwrite s.msg.headerbuffer 0 ((s.handle.rest.drop k).take sizeofHeaders)
    storageheader := some 0, standardheader := some sizeofDltStorageHeader }

theorem headersFrom_here (h : sizeofHeaders ≤ s.handle.rest.length) :
    (s.fread 0 sizeofHeaders).pointed = s.headersFrom 0 := by
  have hskip : s.handle.skip sizeofHeaders = s.handle.seek (s.handle.pos + 0 + sizeofHeaders) := by
    rw [skip, length_got_of_le h, Nat.add_zero, seek]
  unfold LoadState.headersFrom
  rw [← hskip]
  rfl

theorem headersFrom_next {k : ℕ} (h : k + 1 + sizeofHeaders ≤ s.handle.rest.length) :
    LoadState.headersFrom { (s.fread 0 sizeofHeaders).pointed with handle := s.handle.seek (s.handle.pos + 1) } k =
      s.headersFrom (k + 1) := by
  have hgot : (s.handle.got sizeofHeaders).length = ((s.handle.rest.drop (k + 1)).take sizeofHeaders).length := by
    rw [length_got_of_le (by omega), length_take, length_drop]
    omega
  have hbuffer : overwrite (overwrite s.msg.headerbuffer 0 (s.handle.got sizeofHeaders)) 0
      (((s.handle.seek (s.handle.pos + 1)).rest.drop k).take sizeofHeaders) =
        overwrite s.msg.headerbuffer 0 ((s.handle.rest.drop (k + 1)).take sizeofHeaders) := by
    rw [rest_next, drop_tail, overwrite_zero_twice hgot]
  have hpos : s.handle.pos + 1 + k + sizeofHeaders = s.handle.pos + (k + 1) + sizeofHeaders := by omega
  unfold LoadState.headersFrom
  rw [← hbuffer, ← hpos]
  rfl

/-- The first storage header is found, if a standard header has room behind it. -/
theorem dltFileFindHeader_found {k : ℕ} (hfind : find storagePattern s.handle.rest = some k)
    (hroom : k + sizeofHeaders ≤ s.handle.rest.length) : dltFileFindHeader s = (s.headersFrom k, true) := by
  induction k generalizing s with
  | zero =>
    rw [dltFileFindHeader_here (by omega) (by simpa using prefix_of_find hfind), headersFrom_here (by omega)]
  | succ k ih =>
    have hhere : ¬storagePattern <+: s.handle.rest := by
      intro hhere
      rw [find_start hhere] at hfind
      cases hfind
    rw [find_tail hhere] at hfind
    obtain ⟨j, hj, hjk⟩ := Option.map_eq_some_iff.mp hfind
    obtain rfl : j = k := by omega
    rw [dltFileFindHeader_behind (by omega) hhere, ih, headersFrom_next hroom]
    · rw [rest_next]
      exact hj
    · rw [rest_next, length_tail]
      omega

/-- Nothing is found where no storage header has room for a standard header behind it. -/
theorem dltFileFindHeader_not_found
    (hnone : ∀ k, find storagePattern s.handle.rest = some k → s.handle.rest.length < k + sizeofHeaders) :
    (dltFileFindHeader s).2 = false := by
  induction hn : s.handle.rest.length generalizing s with
  | zero => rw [dltFileFindHeader_short (by rw [hn]; decide)]
  | succ n ih =>
    by_cases hshort : s.handle.rest.length < sizeofHeaders
    · rw [dltFileFindHeader_short hshort]
    · have hhere : ¬storagePattern <+: s.handle.rest := by
        intro hhere
        have := hnone 0 (find_start hhere)
        omega
      rw [dltFileFindHeader_behind hshort hhere]
      refine ih ?_ ?_
      · intro k hk
        rw [rest_next] at hk ⊢
        have := hnone (k + 1) (by rw [find_tail hhere, hk]; rfl)
        rw [length_tail]
        omega
      · rw [rest_next, length_tail, hn]
        rfl

end header

/-! ## The first step -/

/-- Where the reading finds a header in the bytes: the first storage header, if a standard header lies behind it whose
length covers the headers. -/
def headerAt (bytes : List UInt8) : Option ℕ :=
  (find storagePattern bytes).filter fun k => k + sizeofHeaders ≤ bytes.length ∧
    headerLength (htypOf (bytes.drop (k + sizeofDltStorageHeader))) ≤ lenOf (bytes.drop (k + sizeofDltStorageHeader))

/-- The record holds a storage header and a standard header, and the sizes follow from them. -/
structure HeaderRead (msg : DltMessage) (storage standard : List UInt8) : Prop where
  headers : msg.headerbuffer.take sizeofHeaders = storage ++ standard
  storage_length : storage.length = sizeofDltStorageHeader
  standard_length : standard.length = sizeofDltStandardHeader
  headersize_eq : msg.headersize = sizeofDltStorageHeader + headerLength (htypOf standard)
  covers : headerLength (htypOf standard) ≤ lenOf standard
  datasize_eq : msg.datasize = (lenOf standard - headerLength (htypOf standard) : ℕ)

/-- The two fields of the standard header that decide about the sizes. -/
theorem standard_fields {buffer storage : List UInt8} (h : buffer.take sizeofHeaders = storage ++ standard)
    (hstorage : storage.length = sizeofDltStorageHeader) :
    buffer.getD sizeofDltStorageHeader 0 = htypOf standard ∧
      ofBeBytes ((buffer.drop (sizeofDltStorageHeader + 2)).take 2) = lenOf standard := by
  have hdrop : ∀ n, (storage ++ standard).drop (sizeofDltStorageHeader + n) = standard.drop n := by
    intro n
    rw [← drop_drop, drop_left' hstorage]
  constructor
  · have hget : ∀ l : List UInt8, l.getD sizeofDltStorageHeader 0 =
        (((l.drop sizeofDltStorageHeader).take 1).headD 0) := by
      intro l
      rw [getD_eq_getElem?_getD, headD_eq_head?_getD, head?_take, if_neg (by decide), head?_drop]
    rw [hget, window_congr (b := buffer.take sizeofHeaders) (n := sizeofHeaders) (by rw [take_take]; rfl)
      (by decide), h, drop_left' hstorage, htypOf, getD_eq_getElem?_getD, headD_eq_head?_getD,
      head?_take, if_neg (by decide), head?_eq_getElem?]
  · rw [window_congr (b := buffer.take sizeofHeaders) (n := sizeofHeaders) (by rw [take_take]; rfl) (by decide),
      h, hdrop, lenOf]

section

variable {s : LoadState} {storage : List UInt8} (h : s.msg.headerbuffer.take sizeofHeaders = storage ++ standard)
  (hstorage : storage.length = sizeofDltStorageHeader)
include h hstorage

/-- The sizes that follow from the standard header, if its length covers the headers. -/
theorem setSizes_ok (hstandard : standard.length = sizeofDltStandardHeader)
    (hlen : headerLength (htypOf standard) ≤ lenOf standard) :
    s.setSizes.2 = dltReturnOk ∧ s.setSizes.1.handle = s.handle ∧ HeaderRead s.setSizes.1.msg storage standard ∧
      s.setSizes.1.msg.extendedheader = s.msg.extendedheader := by
  obtain ⟨htyp, hlenOf⟩ := standard_fields h hstorage
  unfold LoadState.setSizes
  dsimp only
  rw [htyp, hlenOf, if_neg (by omega)]
  refine ⟨rfl, rfl, ⟨h, hstorage, hstandard, rfl, hlen, ?_⟩, rfl⟩
  dsimp only
  omega

theorem setSizes_error (hlen : lenOf standard < headerLength (htypOf standard)) :
    s.setSizes.2 = dltReturnError := by
  obtain ⟨htyp, hlenOf⟩ := standard_fields h hstorage
  unfold LoadState.setSizes
  dsimp only
  rw [htyp, hlenOf, if_pos (by omega)]

end

section header

variable {content : List UInt8} {s : LoadState} {k : ℕ}

theorem headerAt_eq_some {bytes : List UInt8} : headerAt bytes = some k ↔
    find storagePattern bytes = some k ∧ k + sizeofHeaders ≤ bytes.length ∧
      headerLength (htypOf (bytes.drop (k + sizeofDltStorageHeader))) ≤
        lenOf (bytes.drop (k + sizeofDltStorageHeader)) := by
  unfold headerAt
  rw [Option.filter_eq_some_iff, decide_eq_true_iff]

/-- The storage header that begins `k` bytes behind the position. -/
def storageAt (bytes : List UInt8) (k : ℕ) : List UInt8 := (bytes.drop k).take sizeofDltStorageHeader

def standardAt (bytes : List UInt8) (k : ℕ) : List UInt8 :=
  (bytes.drop (k + sizeofDltStorageHeader)).take sizeofDltStandardHeader

theorem headersFrom_headers (hroom : k + sizeofHeaders ≤ s.handle.rest.length) :
    (s.headersFrom k).msg.headerbuffer.take sizeofHeaders = storageAt s.handle.rest k ++ standardAt s.handle.rest k ∧
      (storageAt s.handle.rest k).length = sizeofDltStorageHeader ∧
      (standardAt s.handle.rest k).length = sizeofDltStandardHeader := by
  have hsizes : sizeofHeaders = sizeofDltStorageHeader + sizeofDltStandardHeader := rfl
  have hlen : ((s.handle.rest.drop k).take sizeofHeaders).length = sizeofHeaders := by
    rw [length_take, length_drop]
    omega
  refine ⟨?_, ?_, ?_⟩
  · change (overwrite s.msg.headerbuffer 0 ((s.handle.rest.drop k).take sizeofHeaders)).take sizeofHeaders = _
    rw [overwrite_zero, take_left' hlen, hsizes, take_add, drop_drop]
    rfl
  · rw [storageAt, length_take, length_drop]
    omega
  · rw [standardAt, length_take, length_drop]
    omega

/-- The fields that decide about the sizes are in the standard header. -/
theorem standardAt_fields (bytes : List UInt8) (k : ℕ) :
    htypOf (standardAt bytes k) = htypOf (bytes.drop (k + sizeofDltStorageHeader)) ∧
      lenOf (standardAt bytes k) = lenOf (bytes.drop (k + sizeofDltStorageHeader)) :=
  ⟨htypOf_take (by decide), lenOf_take (by decide)⟩

/-- **A header that is found.** -/
theorem dltFileReadHeader_ok (hk : headerAt s.handle.rest = some k) :
    (dltFileReadHeader s).2 = dltReturnOk ∧
      (dltFileReadHeader s).1.handle = s.handle.seek (s.handle.pos + k + sizeofHeaders) ∧
      HeaderRead (dltFileReadHeader s).1.msg (storageAt s.handle.rest k) (standardAt s.handle.rest k) ∧
      (dltFileReadHeader s).1.msg.extendedheader = s.msg.extendedheader := by
  obtain ⟨hfind, hroom, hlen⟩ := headerAt_eq_some.mp hk
  obtain ⟨hheaders, hstorage, hstandard⟩ := headersFrom_headers hroom
  obtain ⟨htyp, hlenOf⟩ := standardAt_fields s.handle.rest k
  unfold dltFileReadHeader
  rw [dltFileFindHeader_found hfind hroom]
  rw [← htyp, ← hlenOf] at hlen
  exact setSizes_ok hheaders hstorage hstandard hlen

theorem dltFileReadHeader_error (hk : headerAt s.handle.rest = none) :
    (dltFileReadHeader s).2 = dltReturnError := by
  unfold dltFileReadHeader
  by_cases hroom : ∃ k, find storagePattern s.handle.rest = some k ∧ k + sizeofHeaders ≤ s.handle.rest.length
  · obtain ⟨k, hfind, hroom⟩ := hroom
    obtain ⟨hheaders, hstorage, -⟩ := headersFrom_headers hroom
    obtain ⟨htyp, hlenOf⟩ := standardAt_fields s.handle.rest k
    have hlen : lenOf (standardAt s.handle.rest k) < headerLength (htypOf (standardAt s.handle.rest k)) := by
      by_contra hlen
      rw [htyp, hlenOf] at hlen
      rw [headerAt_eq_some.mpr ⟨hfind, hroom, Nat.not_lt.mp hlen⟩] at hk
      cases hk
    rw [dltFileFindHeader_found hfind hroom]
    exact setSizes_error hheaders hstorage hlen
  · have hnone : (dltFileFindHeader s).2 = false := by
      apply dltFileFindHeader_not_found
      intro k hfind
      by_contra hlt
      exact hroom ⟨k, hfind, Nat.not_lt.mp hlt⟩
    dsimp only
    rw [hnone]
    rfl

theorem LoadState.Ready.readHeader (h : s.Ready content) : (dltFileReadHeader s).1.Ready content := by
  unfold dltFileReadHeader
  dsimp only
  split_ifs
  · exact h.findHeader.setSizes
  · exact h.findHeader

end header

/-! ## The second step -/

section extended

variable {content : List UInt8} {s : LoadState} {htyp : UInt8}

/-- The parameters that the header type announces are taken from the buffer, and there are none without flags. -/
theorem getExtraparameters_none (msg : DltMessage) (h : dltStandardHeaderExtraSize htyp = 0) :
    dltMessageGetExtraparameters msg htyp = msg := by
  unfold dltStandardHeaderExtraSize at h
  have hflags : dltIsHtypWeid htyp = false ∧ dltIsHtypWsid htyp = false ∧ dltIsHtypWtms htyp = false := by
    refine ⟨?_, ?_, ?_⟩
    · by_contra hflag
      rw [Bool.not_eq_false] at hflag
      rw [if_pos hflag] at h
      omega
    · by_contra hflag
      rw [Bool.not_eq_false] at hflag
      rw [if_pos hflag] at h
      omega
    · by_contra hflag
      rw [Bool.not_eq_false] at hflag
      rw [if_pos hflag] at h
      omega
  obtain ⟨hweid, hwsid, hwtms⟩ := hflags
  unfold dltMessageGetExtraparameters
  simp [hweid, hwsid, hwtms]

/-- `fread` of bytes that are there. -/
theorem fread_eq (h : n ≤ s.handle.rest.length) : s.fread start n =
    { handle := s.handle.seek (s.handle.pos + n)
      msg := { s.msg with headerbuffer := overwrite s.msg.headerbuffer start (s.handle.rest.take n) } } := by
  unfold LoadState.fread
  rw [skip, length_got_of_le h]
  rfl

theorem dltFileReadExtra_ok (h : dltStandardHeaderExtraSize htyp ≤ s.handle.rest.length) :
    dltFileReadExtra s htyp =
      ({ handle := s.handle.seek (s.handle.pos + dltStandardHeaderExtraSize htyp)
         msg := dltMessageGetExtraparameters
           { s.msg with
             headerbuffer := overwrite s.msg.headerbuffer sizeofHeaders
               (s.handle.rest.take (dltStandardHeaderExtraSize htyp)) } htyp }, dltReturnOk) := by
  unfold dltFileReadExtra
  dsimp only
  by_cases hzero : dltStandardHeaderExtraSize htyp = 0
  · rw [if_pos hzero, getExtraparameters_none _ hzero, hzero, take_zero, overwrite_nil]
    rfl
  · rw [if_neg hzero, if_neg (by omega), fread_eq h]

theorem dltFileReadExtra_error (h : s.handle.rest.length < dltStandardHeaderExtraSize htyp) :
    (dltFileReadExtra s htyp).2 = dltReturnError := by
  unfold dltFileReadExtra
  dsimp only
  rw [if_neg (by omega), if_pos h]

/-- The state behind the headers, which are `n` bytes behind the standard header. -/
def LoadState.behindHeaders (s : LoadState) (htyp : UInt8) : LoadState where
  handle := s.handle.seek (s.handle.pos + extraLength htyp)
  msg := { dltMessageGetExtraparameters
      { s.msg with
        headerbuffer := overwrite s.msg.headerbuffer sizeofHeaders
          (s.handle.rest.take (dltStandardHeaderExtraSize htyp)) } htyp with
    headerbuffer := overwrite s.msg.headerbuffer sizeofHeaders (s.handle.rest.take (extraLength htyp))
    extendedheader :=
      if dltIsHtypUeh htyp then some (sizeofHeaders + dltStandardHeaderExtraSize htyp) else s.msg.extendedheader }

theorem dltFileReadHeaderExtended_eq (hwf : s.msg.Wf) (hflags : s.msg.headerbuffer.getD sizeofDltStorageHeader 0 = htyp)
    (h : extraLength htyp ≤ s.handle.rest.length) :
    dltFileReadHeaderExtended s = (s.behindHeaders htyp, dltReturnOk) := by
  unfold extraLength at h
  unfold dltFileReadHeaderExtended
  rw [hflags]
  dsimp only
  rw [dltFileReadExtra_ok (by omega), if_neg ok_not_lt]
  unfold LoadState.behindHeaders extraLength
  by_cases hueh : dltIsHtypUeh htyp
  · rw [if_pos hueh] at h
    rw [if_pos hueh, if_pos hueh, if_pos hueh]
    have hrest : (s.handle.seek (s.handle.pos + dltStandardHeaderExtraSize htyp)).rest =
        s.handle.rest.drop (dltStandardHeaderExtraSize htyp) := by
      rw [rest_seek, rest, drop_drop]
    have hroom : sizeofDltExtendedHeader ≤ (s.handle.rest.drop (dltStandardHeaderExtraSize htyp)).length := by
      rw [length_drop]
      omega
    have hextra : (s.handle.rest.take (dltStandardHeaderExtraSize htyp)).length = dltStandardHeaderExtraSize htyp := by
      rw [length_take]
      omega
    -- the two blocks lie one behind the other
    have hjoin := overwrite_overwrite
      ((s.handle.rest.drop (dltStandardHeaderExtraSize htyp)).take sizeofDltExtendedHeader)
      (show sizeofHeaders + (s.handle.rest.take (dltStandardHeaderExtraSize htyp)).length ≤
        s.msg.headerbuffer.length by
          have := extraSize_le htyp
          rw [hextra, hwf.length_headerbuffer]
          unfold sizeofHeaderbuffer sizeofHeaders
          omega)
    rw [hextra, ← take_add] at hjoin
    rw [← hjoin, fread_eq (by rw [hrest]; exact hroom), if_neg (by rw [hrest]; omega), hrest,
      pos_seek, Nat.add_assoc]
    rfl
  · rw [if_neg hueh, if_neg hueh, if_neg hueh, Nat.add_zero]
    rfl

theorem dltFileReadHeaderExtended_error (hflags : s.msg.headerbuffer.getD sizeofDltStorageHeader 0 = htyp)
    (h : s.handle.rest.length < extraLength htyp) : (dltFileReadHeaderExtended s).2 = dltReturnError := by
  unfold extraLength at h
  unfold dltFileReadHeaderExtended
  rw [hflags]
  dsimp only
  by_cases hextra : s.handle.rest.length < dltStandardHeaderExtraSize htyp
  · rw [dltFileReadExtra_error hextra, if_pos error_lt]
  · have hueh : dltIsHtypUeh htyp = true := by
      by_contra hueh
      rw [if_neg hueh] at h
      omega
    rw [if_pos hueh] at h
    rw [dltFileReadExtra_ok (Nat.not_lt.mp hextra), if_neg ok_not_lt, if_pos hueh, if_pos]
    rw [rest_seek, ← drop_drop, length_drop]
    change s.handle.rest.length - _ < _
    omega

/-- The record with the pointer to the extended header that its header type asks for. -/
def repointed (msg : DltMessage) (htyp : UInt8) : DltMessage :=
  { msg with extendedheader :=
      if extraLength htyp > 0 then
        if dltIsHtypUeh htyp then
          some (sizeofDltStorageHeader + sizeofDltStandardHeader + dltStandardHeaderExtraSize htyp)
        else none
      else none }

/-- The record holds all headers of a message, and the sizes follow from them. The pointer to the extended header is
`old` where there is none. -/
structure HeadersRead (msg : DltMessage) (storage header : List UInt8) (old : Option ℕ) : Prop where
  storage_eq : msg.headerbuffer.take sizeofDltStorageHeader = storage
  header_eq : msg.header = header
  header_length : header.length = headerLength (htypOf header)
  headersize_eq : msg.headersize = sizeofDltStorageHeader + header.length
  covers : header.length ≤ lenOf header
  datasize_eq : msg.datasize = (lenOf header - header.length : ℕ)
  extendedheader_eq : msg.extendedheader =
    if dltIsHtypUeh (htypOf header) then some (sizeofHeaders + dltStandardHeaderExtraSize (htypOf header)) else old
  loaded : Loaded none (repointed msg (htypOf header)) (htypOf header)

theorem headerLength_eq (htyp : UInt8) : headerLength htyp = sizeofDltStandardHeader + extraLength htyp := by
  unfold headerLength extraLength
  rw [Nat.add_assoc]

theorem getExtraparameters_loaded {buffer : List UInt8} {extendedheader : Option ℕ}
    (h : buffer.take (sizeofHeaders + dltStandardHeaderExtraSize htyp) =
      msg.headerbuffer.take (sizeofHeaders + dltStandardHeaderExtraSize htyp)) :
    Loaded none (repointed { dltMessageGetExtraparameters msg htyp with
      headerbuffer := buffer, extendedheader } htyp) htyp := by
  refine ⟨rfl, ?_, ?_, ?_⟩
  · intro hweid
    have hsize : 4 ≤ dltStandardHeaderExtraSize htyp := by
      unfold dltStandardHeaderExtraSize
      rw [if_pos hweid]
      omega
    simp only [repointed, dltMessageGetExtraparameters, hweid, if_true]
    exact (window_congr h (by unfold sizeofHeaders dltIdSize; omega)).symm
  · intro hwsid
    have hsize : (if dltIsHtypWeid htyp then 4 else 0) + 4 ≤ dltStandardHeaderExtraSize htyp := by
      unfold dltStandardHeaderExtraSize
      rw [if_pos hwsid]
      omega
    simp only [repointed, dltMessageGetExtraparameters, hwsid, if_true, seidStart]
    rw [← Nat.add_assoc]
    exact congrArg ofBeBytes (window_congr h (by unfold sizeofHeaders; omega)).symm
  · intro hwtms
    have hsize : (if dltIsHtypWeid htyp then 4 else 0) + (if dltIsHtypWsid htyp then 4 else 0) + 4 ≤
        dltStandardHeaderExtraSize htyp := by
      unfold dltStandardHeaderExtraSize
      rw [if_pos hwtms]
    simp only [repointed, dltMessageGetExtraparameters, hwtms, if_true, tmspStart, seidStart]
    rw [← Nat.add_assoc, ← Nat.add_assoc]
    exact congrArg ofBeBytes (window_congr h (by unfold sizeofHeaders; omega)).symm

/-- **All headers are read.** -/
theorem dltFileReadHeaderExtended_ok {storage : List UInt8} (hready : s.Ready content)
    (h : HeaderRead s.msg storage standard) (hroom : extraLength (htypOf standard) ≤ s.handle.rest.length) :
    (dltFileReadHeaderExtended s).2 = dltReturnOk ∧
      (dltFileReadHeaderExtended s).1.handle = s.handle.seek (s.handle.pos + extraLength (htypOf standard)) ∧
      HeadersRead (dltFileReadHeaderExtended s).1.msg storage
        (standard ++ s.handle.rest.take (extraLength (htypOf standard))) s.msg.extendedheader ∧
      (dltFileReadHeaderExtended s).1.Ready content := by
  obtain ⟨hflags, -⟩ := standard_fields h.headers h.storage_length
  rw [dltFileReadHeaderExtended_eq hready.wf hflags hroom]
  set extra := s.handle.rest.take (extraLength (htypOf standard)) with hdef
  have hextraLength : extra.length = extraLength (htypOf standard) := by
    rw [hdef, length_take, Nat.min_eq_left hroom]
  have hstandard : 0 < standard.length := by rw [h.standard_length]; decide
  have hfour : 4 ≤ standard.length := by rw [h.standard_length]; decide
  have htyp : htypOf (standard ++ extra) = htypOf standard := htypOf_append hstandard extra
  have hlen : lenOf (standard ++ extra) = lenOf standard := lenOf_append hfour extra
  have hlength : (standard ++ extra).length = headerLength (htypOf standard) := by
    rw [length_append, hextraLength, h.standard_length, headerLength_eq]
  have hbuffer : sizeofHeaders ≤ s.msg.headerbuffer.length := by
    rw [hready.wf.length_headerbuffer]
    decide
  -- the buffer begins with all headers
  have htake : (overwrite s.msg.headerbuffer sizeofHeaders extra).take (sizeofHeaders + extra.length) =
      storage ++ (standard ++ extra) := by
    rw [take_add, take_overwrite _ hbuffer, h.headers, drop_overwrite _ hbuffer, take_left' rfl,
      append_assoc]
  have hsplit : sizeofHeaders + extra.length = sizeofDltStorageHeader + (standard ++ extra).length := by
    rw [length_append, h.standard_length]
    unfold sizeofHeaders
    omega
  refine ⟨rfl, rfl, ⟨?_, ?_, ?_, ?_, ?_, ?_, ?_, ?_⟩, hready.change rfl (length_overwrite ?_) rfl rfl ?_⟩
  · have hfirst := congrArg (take sizeofDltStorageHeader) htake
    rw [take_take, Nat.min_eq_left (by unfold sizeofHeaders; omega), take_left' h.storage_length] at hfirst
    exact hfirst
  · have hsecond := congrArg (drop sizeofDltStorageHeader) htake
    rw [hsplit, drop_take, Nat.add_sub_cancel_left, drop_left' h.storage_length] at hsecond
    unfold DltMessage.header
    change ((overwrite s.msg.headerbuffer sizeofHeaders extra).drop sizeofDltStorageHeader).take
      (s.msg.headersize - sizeofDltStorageHeader) = _
    rw [h.headersize_eq, Nat.add_sub_cancel_left, ← hlength]
    exact hsecond
  · rw [hlength, htyp]
  · rw [hlength]
    exact h.headersize_eq
  · rw [hlength, hlen]
    exact h.covers
  · rw [hlength, hlen]
    exact h.datasize_eq
  · rw [htyp]
    rfl
  · rw [htyp]
    apply getExtraparameters_loaded
    have hn : dltStandardHeaderExtraSize (htypOf standard) ≤ extraLength (htypOf standard) := by
      unfold extraLength
      omega
    have hextra := take_overwrite_take hbuffer hn hroom
    exact hextra.trans (take_overwrite_take hbuffer le_rfl (hn.trans hroom)).symm
  · have := extraSize_le (htypOf standard)
    rw [hready.wf.length_headerbuffer, hextraLength]
    unfold sizeofHeaderbuffer sizeofHeaders extraLength
    omega
  · exact hready.datasize_nonneg

theorem dltFileReadHeaderExtended_cut {storage : List UInt8} (h : HeaderRead s.msg storage standard)
    (hcut : s.handle.rest.length < extraLength (htypOf standard)) :
    (dltFileReadHeaderExtended s).2 = dltReturnError :=
  dltFileReadHeaderExtended_error (standard_fields h.headers h.storage_length).1 hcut

theorem LoadState.Ready.readExtra (h : s.Ready content) (htyp : UInt8) : (dltFileReadExtra s htyp).1.Ready content := by
  have hread : (s.fread sizeofHeaders (dltStandardHeaderExtraSize htyp)).Ready content := by
    apply h.fread
    have := extraSize_le htyp
    unfold sizeofHeaderbuffer sizeofHeaders
    omega
  unfold dltFileReadExtra
  dsimp only
  split_ifs
  · exact h
  · exact hread
  · exact hread.change rfl rfl rfl rfl hread.datasize_nonneg

theorem LoadState.Ready.readHeaderExtended (h : s.Ready content) : (dltFileReadHeaderExtended s).1.Ready content := by
  set htyp := s.msg.headerbuffer.getD sizeofDltStorageHeader 0 with hdef
  have hextra := h.readExtra htyp
  unfold dltFileReadHeaderExtended
  rw [← hdef]
  dsimp only
  split_ifs with herror hueh hshort
  · exact hextra
  · refine hextra.fread ?_
    have := extraSize_le htyp
    rw [if_pos hueh] at this
    unfold sizeofHeaderbuffer sizeofHeaders
    omega
  · have hread : (LoadState.fread (dltFileReadExtra s htyp).1 (sizeofHeaders + dltStandardHeaderExtraSize htyp)
        sizeofDltExtendedHeader).Ready content := by
      refine hextra.fread ?_
      have := extraSize_le htyp
      rw [if_pos hueh] at this
      unfold sizeofHeaderbuffer sizeofHeaders
      omega
    exact hread.change rfl rfl rfl rfl hread.datasize_nonneg
  · exact hextra

end extended

/-! ## The third step -/

structure FileMessage where
  storage : List UInt8
  header : List UInt8
  payload : List UInt8
deriving DecidableEq

def FileMessage.bytes (m : FileMessage) : List UInt8 := m.storage ++ (m.header ++ m.payload)

/-- The message for a reader, with the two fields of the record that the reading of files does not change. -/
def FileMessage.frame (m : FileMessage) (msg : DltMessage) : Frame where
  found := msg.foundSerialheader
  offset := msg.resyncOffset
  header := m.header
  payload := m.payload

/-- The record holds the message: the storage header, and everything that a consumer reads. -/
structure LoadedAs (msg : DltMessage) (m : FileMessage) : Prop where
  storage_eq : msg.headerbuffer.take sizeofDltStorageHeader = m.storage
  consumed_eq : msg.consumed = (m.frame msg).consumed

/-- The record holds the message, but the pointer to the extended header is `old` where there is none. -/
structure LoadedBut (msg : DltMessage) (m : FileMessage) (old : Option ℕ) : Prop where
  storage_eq : msg.headerbuffer.take sizeofDltStorageHeader = m.storage
  consumed_eq : msg.consumed = { (m.frame msg).consumed with
    extendedheader := if dltIsHtypUeh (htypOf m.header) then (m.frame msg).consumed.extendedheader else old }

/-- **The pointer is right** if the message has an extended header, or if it was no pointer before. -/
theorem LoadedBut.loadedAs_iff {m : FileMessage} {old : Option ℕ} (h : LoadedBut msg m old) :
    LoadedAs msg m ↔ dltIsHtypUeh (htypOf m.header) = true ∨ old = none := by
  by_cases hueh : dltIsHtypUeh (htypOf m.header) = true
  · refine ⟨fun _ => .inl hueh, fun _ => ⟨h.storage_eq, ?_⟩⟩
    rw [h.consumed_eq, if_pos hueh]
  · have hnone : (m.frame msg).consumed.extendedheader = none := if_neg hueh
    have hconsumed := h.consumed_eq
    rw [if_neg hueh] at hconsumed
    constructor
    · intro hloaded
      have hpointer := congrArg Consumed.extendedheader (hconsumed.symm.trans hloaded.consumed_eq)
      exact .inr (hpointer.trans hnone)
    · rintro (hpos | rfl)
      · exact absurd hpos hueh
      · refine ⟨h.storage_eq, ?_⟩
        rw [hconsumed, ← hnone]

section data

variable {content : List UInt8} {s : LoadState} {malloc : Malloc} {storage header : List UInt8} {old : Option ℕ}

/-- The record with the pointer that the header type asks for holds the message. -/
theorem HeadersRead.loadedBut {payload : List UInt8} (h : HeadersRead msg storage header old)
    (hpayload : msg.payload = payload) (hsize : payload.length = lenOf header - header.length) :
    LoadedBut msg ⟨storage, header, payload⟩ old := by
  refine ⟨h.storage_eq, ?_⟩
  have hdatasize : msg.datasize = (payload.length : ℕ) := by
    rw [hsize]
    exact h.datasize_eq
  have hholds : (repointed msg (htypOf header)).Holds (FileMessage.frame ⟨storage, header, payload⟩ msg) :=
    ⟨rfl, rfl, h.header_eq, hpayload, h.headersize_eq, hdatasize⟩
  have hloaded : Loaded none (repointed msg (htypOf header)) (htypOf (repointed msg (htypOf header)).header) := by
    have hsame : (repointed msg (htypOf header)).header = header := h.header_eq
    rw [hsame]
    exact h.loaded
  have hconsumed := consumed_eq hholds hloaded h.header_length
  -- the pointer is the only difference
  have hbut : msg.consumed =
      { (repointed msg (htypOf header)).consumed with extendedheader := msg.extendedheader } := rfl
  rw [hbut, hconsumed, h.extendedheader_eq]
  unfold FileMessage.frame Frame.consumed
  by_cases hueh : dltIsHtypUeh (htypOf header) = true
  · simp only [hueh, if_true]
    rfl
  · simp [hueh]

/-- **The payload is read.** -/
theorem dltFileReadData_ok (hm : malloc.Succeeds) (hready : s.Ready content) (h : HeadersRead s.msg storage header old)
    (hroom : lenOf header - header.length ≤ s.handle.rest.length) :
    (dltFileReadData malloc s).2 = dltReturnOk ∧
      (dltFileReadData malloc s).1.handle = s.handle.seek (s.handle.pos + (lenOf header - header.length)) ∧
      LoadedBut (dltFileReadData malloc s).1.msg
        ⟨storage, header, s.handle.rest.take (lenOf header - header.length)⟩ old ∧
      (dltFileReadData malloc s).1.msg.headerbuffer = s.msg.headerbuffer := by
  obtain ⟨block, hallocate, hblock⟩ := dltMessageAllocate_eq hm hready.wf h.datasize_eq
  have hsize : s.msg.datasize.toNat = lenOf header - header.length := by rw [h.datasize_eq, Int.toNat_natCast]
  set payload := s.handle.rest.take (lenOf header - header.length) with hdef
  have hlen : payload.length = lenOf header - header.length := by rw [hdef, length_take, Nat.min_eq_left hroom]
  have hskip : s.handle.skip (lenOf header - header.length) =
      s.handle.seek (s.handle.pos + (lenOf header - header.length)) := by
    rw [skip, length_got_of_le hroom]
    rfl
  have hdata : dltFileReadData malloc s =
      ({ handle := s.handle.seek (s.handle.pos + (lenOf header - header.length))
         msg := { s.msg with
           databuffer := some (overwrite block 0 payload), databuffersize := (block.length : ℕ) } }, dltReturnOk) := by
    unfold dltFileReadData
    rw [hallocate]
    dsimp only
    rw [hsize, hskip, if_neg (by omega)]
    rfl
  rw [hdata]
  refine ⟨rfl, rfl, HeadersRead.loadedBut ?_ ?_ hlen, rfl⟩
  · exact ⟨h.storage_eq, h.header_eq, h.header_length, h.headersize_eq, h.covers, h.datasize_eq,
      h.extendedheader_eq, h.loaded.extendedheader, h.loaded.ecu, h.loaded.seid, h.loaded.tmsp⟩
  · change (overwrite block 0 payload).take s.msg.datasize.toNat = payload
    rw [hsize, overwrite_zero, take_left' hlen]

theorem dltFileReadData_error (h : HeadersRead s.msg storage header old)
    (hcut : s.handle.rest.length < lenOf header - header.length) : (dltFileReadData malloc s).2 = dltReturnError := by
  have hsize : (dltMessageAllocate malloc s.msg).datasize.toNat = lenOf header - header.length := by
    rw [← Int.toNat_natCast (lenOf header - header.length), ← h.datasize_eq]
    unfold dltMessageAllocate
    split_ifs <;> rfl
  unfold dltFileReadData
  dsimp only
  cases (dltMessageAllocate malloc s.msg).databuffer with
  | none => rfl
  | some databuffer =>
    dsimp only
    rw [hsize, if_pos hcut]

theorem LoadState.Ready.readData (h : s.Ready content) (malloc : Malloc) :
    (dltFileReadData malloc s).1.Ready content := by
  have hnonneg := h.datasize_nonneg
  have hallocate : (dltMessageAllocate malloc s.msg).Wf ∧
      (dltMessageAllocate malloc s.msg).datasize = s.msg.datasize ∧
      ∀ databuffer ∈ (dltMessageAllocate malloc s.msg).databuffer, s.msg.datasize ≤ databuffer.length := by
    unfold dltMessageAllocate
    split_ifs with hkeep
    · refine ⟨h.wf, rfl, fun databuffer hdata => ?_⟩
      rw [← h.wf.databuffersize_eq databuffer hdata]
      exact hkeep.2
    · have hlength : ∀ databuffer ∈ (malloc s.msg.datasize.toNat).map fun fresh =>
          (List.range s.msg.datasize.toNat).map fresh, s.msg.datasize = databuffer.length := by
        intro databuffer hdata
        obtain ⟨fresh, -, rfl⟩ := Option.mem_map.mp hdata
        rw [length_map, length_range, Int.toNat_of_nonneg hnonneg]
      exact ⟨⟨h.wf.length_headerbuffer, hlength⟩, rfl, fun databuffer hdata => (hlength databuffer hdata).le⟩
  obtain ⟨hwf, hdatasize, hroom⟩ := hallocate
  unfold dltFileReadData
  dsimp only
  cases hdata : (dltMessageAllocate malloc s.msg).databuffer with
  | none => exact ⟨h.content_eq, hwf, hdatasize ▸ hnonneg⟩
  | some databuffer =>
    refine ⟨h.content_eq, ⟨hwf.length_headerbuffer, ?_⟩, hdatasize ▸ hnonneg⟩
    rintro _ ⟨rfl⟩
    dsimp only
    rw [hwf.databuffersize_eq databuffer hdata, length_overwrite]
    have hlong := hroom databuffer hdata
    rw [length_got, hdatasize]
    omega

end data

/-! ## The whole message -/

/-- All headers of the message whose storage header begins `k` bytes behind the position, from the standard header
on. -/
def headersAt (bytes : List UInt8) (k : ℕ) : List UInt8 :=
  (bytes.drop (k + sizeofDltStorageHeader)).take (headerLength (htypOf (standardAt bytes k)))

theorem standardAt_append (bytes : List UInt8) (k : ℕ) :
    standardAt bytes k ++ (bytes.drop (k + sizeofHeaders)).take (extraLength (htypOf (standardAt bytes k))) =
      headersAt bytes k := by
  rw [headersAt, headerLength_eq, take_add, drop_drop]
  rfl

def payloadAt (bytes : List UInt8) (k : ℕ) : List UInt8 :=
  (bytes.drop (k + sizeofDltStorageHeader + headerLength (htypOf (standardAt bytes k)))).take
    (lenOf (standardAt bytes k) - headerLength (htypOf (standardAt bytes k)))

theorem length_headersAt {bytes : List UInt8} {k : ℕ}
    (h : k + sizeofDltStorageHeader + headerLength (htypOf (standardAt bytes k)) ≤ bytes.length) :
    (headersAt bytes k).length = headerLength (htypOf (standardAt bytes k)) := by
  rw [headersAt, length_take, length_drop]
  omega

theorem length_payloadAt {bytes : List UInt8} {k : ℕ}
    (h : k + sizeofDltStorageHeader + lenOf (standardAt bytes k) ≤ bytes.length)
    (hlen : headerLength (htypOf (standardAt bytes k)) ≤ lenOf (standardAt bytes k)) :
    (payloadAt bytes k).length = lenOf (standardAt bytes k) - headerLength (htypOf (standardAt bytes k)) := by
  rw [payloadAt, length_take, length_drop]
  omega

theorem headersAt_fields (bytes : List UInt8) (k : ℕ) :
    (headersAt bytes k).take sizeofDltStandardHeader = standardAt bytes k ∧
      htypOf (headersAt bytes k) = htypOf (standardAt bytes k) ∧
      lenOf (headersAt bytes k) = lenOf (standardAt bytes k) := by
  have hfour : sizeofDltStandardHeader ≤ headerLength (htypOf (standardAt bytes k)) := by
    rw [headerLength_eq]
    omega
  refine ⟨?_, ?_, ?_⟩
  · rw [headersAt, take_take, Nat.min_eq_left hfour]
    rfl
  · rw [headersAt, htypOf_take (Nat.lt_of_lt_of_le (by decide) hfour)]
    exact (standardAt_fields bytes k).1.symm
  · rw [headersAt, lenOf_take hfour]
    exact (standardAt_fields bytes k).2.symm

/-- The message that is found in the bytes, and where its storage header begins: the first storage header, with a whole
message behind it. -/
def storedMessage (bytes : List UInt8) : Option (ℕ × FileMessage) :=
  match find storagePattern bytes with
  | none => none
  | some k =>
      match bodyFrame (bytes.drop (k + sizeofDltStorageHeader)) with
      | .error _ => none
      | .ok (header, payload) => some (k, { storage := storageAt bytes k, header, payload })

section whole

variable {content : List UInt8} {s : LoadState} {malloc : Malloc} {k : ℕ} {m : FileMessage}

/-- A message that is found has its header there, and it is whole. -/
theorem storedMessage_eq_some {bytes : List UInt8} : storedMessage bytes = some (k, m) ↔
    headerAt bytes = some k ∧ k + sizeofDltStorageHeader + lenOf (standardAt bytes k) ≤ bytes.length ∧
      m = { storage := storageAt bytes k, header := headersAt bytes k, payload := payloadAt bytes k } := by
  obtain ⟨htyp, hlen⟩ := standardAt_fields bytes k
  have hfour : sizeofDltStandardHeader ≤ headerLength (htypOf (standardAt bytes k)) := by
    rw [headerLength_eq]
    omega
  rw [headerAt_eq_some, headersAt, payloadAt, htyp, hlen]
  rw [htyp] at hfour
  have hpos : 0 < sizeofDltStandardHeader := by decide
  unfold storedMessage bodyFrame sizeofHeaders
  cases hfind : find storagePattern bytes with
  | none => exact ⟨fun h => (by cases h), fun h => (by cases h.1.1)⟩
  | some j =>
    dsimp only
    constructor
    · intro h
      split_ifs at h with hshort hcontent hfit
      simp only [Option.some.injEq, Prod.mk.injEq] at h
      obtain ⟨rfl, rfl⟩ := h
      rw [length_drop] at hshort hfit
      refine ⟨⟨rfl, by omega, by omega⟩, by omega, ?_⟩
      rw [drop_take, drop_drop]
    · rintro ⟨⟨hj, hroom, hcontent⟩, hwhole, rfl⟩
      obtain rfl := Option.some.inj hj
      have hlength := length_drop (i := j + sizeofDltStorageHeader) (l := bytes)
      rw [if_neg (by omega), if_neg (by omega), if_neg (by omega)]
      simp only [drop_take, drop_drop]

theorem rest_behind (f : ByteFile) (k : ℕ) : (f.seek (f.pos + k)).rest = f.rest.drop k := by
  rw [rest_seek, rest, drop_drop]

/-- Where the message ends, from the position where it was looked for. -/
def messageEnd (k : ℕ) (m : FileMessage) : ℕ := k + sizeofDltStorageHeader + m.header.length + m.payload.length

/-- The two headers at the beginning of a message that is found. -/
theorem storedMessage_headers {bytes : List UInt8} (h : storedMessage bytes = some (k, m)) :
    m.storage = storageAt bytes k ∧ m.header.take sizeofDltStandardHeader = standardAt bytes k ∧
      htypOf m.header = htypOf (standardAt bytes k) := by
  obtain ⟨-, -, rfl⟩ := storedMessage_eq_some.mp h
  exact ⟨rfl, (headersAt_fields bytes k).1, (headersAt_fields bytes k).2.1⟩

/-- Behind a header that is found, all headers are read if they are there. -/
theorem dltFileReadHeaders_ok (hready : s.Ready content) (hk : headerAt s.handle.rest = some k)
    (hroom : k + sizeofDltStorageHeader + headerLength (htypOf (standardAt s.handle.rest k)) ≤ s.handle.rest.length) :
    (dltFileReadHeaderExtended (dltFileReadHeader s).1).2 = dltReturnOk ∧
      (dltFileReadHeaderExtended (dltFileReadHeader s).1).1.handle = s.handle.seek
        (s.handle.pos + (k + sizeofDltStorageHeader + headerLength (htypOf (standardAt s.handle.rest k)))) ∧
      HeadersRead (dltFileReadHeaderExtended (dltFileReadHeader s).1).1.msg (storageAt s.handle.rest k)
        (headersAt s.handle.rest k) s.msg.extendedheader := by
  obtain ⟨-, hhandle, hread, hpointer⟩ := dltFileReadHeader_ok hk
  have hrest : (dltFileReadHeader s).1.handle.rest = s.handle.rest.drop (k + sizeofHeaders) := by
    rw [hhandle, Nat.add_assoc, rest_behind]
  rw [headerLength_eq] at hroom
  rw [headerLength_eq]
  have hextra : extraLength (htypOf (standardAt s.handle.rest k)) ≤ (dltFileReadHeader s).1.handle.rest.length := by
    rw [hrest, length_drop]
    unfold sizeofHeaders
    omega
  obtain ⟨hret, hhandle', hheaders, -⟩ := dltFileReadHeaderExtended_ok hready.readHeader hread hextra
  refine ⟨hret, ?_, ?_⟩
  · rw [hhandle', hhandle, pos_seek]
    unfold seek sizeofHeaders
    simp only [Nat.add_assoc]
  · rw [hrest, standardAt_append, hpointer] at hheaders
    exact hheaders

/-- **A message that is found is loaded.** -/
theorem dltFileLoad_ok (hm : malloc.Succeeds) (hready : s.Ready content)
    (h : storedMessage s.handle.rest = some (k, m)) :
    (dltFileLoad malloc s).2 = dltReturnOk ∧
      (dltFileLoad malloc s).1.handle = s.handle.seek (s.handle.pos + messageEnd k m) ∧
      LoadedBut (dltFileLoad malloc s).1.msg m s.msg.extendedheader := by
  obtain ⟨hk, hwhole, rfl⟩ := storedMessage_eq_some.mp h
  obtain ⟨hfound, -, hread, -⟩ := dltFileReadHeader_ok hk
  have hcovers := hread.covers
  obtain ⟨hret, hhandle, hheaders⟩ := dltFileReadHeaders_ok hready hk (by omega)
  have hlen := length_headersAt (show k + sizeofDltStorageHeader + headerLength (htypOf (standardAt s.handle.rest k)) ≤
    s.handle.rest.length by omega)
  have hlenOf := (headersAt_fields s.handle.rest k).2.2
  have hrest : (dltFileReadHeaderExtended (dltFileReadHeader s).1).1.handle.rest =
      s.handle.rest.drop (k + sizeofDltStorageHeader + headerLength (htypOf (standardAt s.handle.rest k))) := by
    rw [hhandle, rest_behind]
  have hsize : lenOf (headersAt s.handle.rest k) - (headersAt s.handle.rest k).length ≤
      (dltFileReadHeaderExtended (dltFileReadHeader s).1).1.handle.rest.length := by
    rw [hrest, length_drop]
    omega
  obtain ⟨hret', hhandle', hloaded, -⟩ :=
    dltFileReadData_ok hm hready.readHeader.readHeaderExtended hheaders hsize
  unfold dltFileLoad
  dsimp only
  rw [hfound, if_neg ok_not_lt, hret, if_neg ok_not_lt]
  refine ⟨hret', ?_, ?_⟩
  · have hpos : (s.handle.pos + (k + sizeofDltStorageHeader + headerLength (htypOf (standardAt s.handle.rest k)))) +
        (lenOf (headersAt s.handle.rest k) - (headersAt s.handle.rest k).length) = s.handle.pos +
          (k + sizeofDltStorageHeader + (headersAt s.handle.rest k).length + (payloadAt s.handle.rest k).length) := by
      rw [hlen, hlenOf, length_payloadAt hwhole hcovers]
      omega
    rw [hhandle', hhandle, pos_seek, hpos]
    rfl
  · rw [hrest, hlenOf, hlen] at hloaded
    exact hloaded

theorem dltFileLoad_error (hready : s.Ready content) (h : storedMessage s.handle.rest = none) :
    (dltFileLoad malloc s).2 = dltReturnError := by
  unfold dltFileLoad
  dsimp only
  cases hk : headerAt s.handle.rest with
  | none =>
    rw [dltFileReadHeader_error hk, if_pos error_lt]
    exact dltFileReadHeader_error hk
  | some k =>
    obtain ⟨hfound, hhandle, hread, -⟩ := dltFileReadHeader_ok hk
    have hcovers := hread.covers
    have hcut : s.handle.rest.length < k + sizeofDltStorageHeader + lenOf (standardAt s.handle.rest k) := by
      by_contra hlt
      rw [storedMessage_eq_some.mpr ⟨hk, Nat.not_lt.mp hlt, rfl⟩] at h
      cases h
    rw [hfound, if_neg ok_not_lt]
    by_cases hroom : k + sizeofDltStorageHeader + headerLength (htypOf (standardAt s.handle.rest k)) ≤
        s.handle.rest.length
    · obtain ⟨hret, hhandle', hheaders⟩ := dltFileReadHeaders_ok hready hk hroom
      rw [hret, if_neg ok_not_lt]
      refine dltFileReadData_error hheaders ?_
      rw [hhandle', rest_behind, length_drop, (headersAt_fields s.handle.rest k).2.2, length_headersAt hroom]
      omega
    · have hshort : (dltFileReadHeader s).1.handle.rest.length <
          extraLength (htypOf (standardAt s.handle.rest k)) := by
        rw [headerLength_eq] at hroom
        have hlength := (headerAt_eq_some.mp hk).2.1
        rw [hhandle, Nat.add_assoc, rest_behind, length_drop]
        unfold sizeofHeaders at hlength ⊢
        omega
      rw [dltFileReadHeaderExtended_cut hread hshort, if_pos error_lt]
      exact dltFileReadHeaderExtended_cut hread hshort

theorem hasRoom_of_succeeds (hm : malloc.Succeeds) (file : DltFile) : file.hasRoom malloc = true := by
  unfold DltFile.hasRoom
  rw [hm, Bool.or_true]

theorem LoadState.Ready.load (h : s.Ready content) (malloc : Malloc) : (dltFileLoad malloc s).1.Ready content := by
  unfold dltFileLoad
  dsimp only
  split_ifs
  · exact h.readHeader
  · exact h.readHeader.readHeaderExtended
  · exact h.readHeader.readHeaderExtended.readData malloc

end whole

/-! ## A file -/

def freshFile : DltFile where
  handle := { content := [], pos := 0 }
  msg := dltMessageInit sampleMessage
  index := []
  counter := 0
  counterTotal := 0
  position := 0
  fileLength := 0
  filePosition := 0
  errorMessages := 0
  filter := none

theorem freshFile_wf : freshFile.msg.Wf := dltMessageInit_wf sampleMessage_wf.length_headerbuffer

end Dlt.File
