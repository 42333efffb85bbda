import Dlt.File.Load

/-!
# A stream with serial headers is read completely

* `rawCalls` — repeated calls. `rawFile_read` — **every message is read once, in order, and then the calls fail**; the
  gaps with garbage are counted, and a call that fails changes nothing that belongs to the index.
-/

namespace Dlt.File

open Dlt.Lib Dlt.Shared List ByteFile
open Dlt.User (dltSetStorageheader)

/-! ## The stream -/

/-- A message without storage header. -/
structure RawMessage where
  header : List UInt8
  payload : List UInt8
  /-- The headers are those that the header type announces. -/
  header_length : header.length = headerLength (htypOf header)
  /-- The length field covers the headers and the payload. -/
  lenOf_eq : lenOf header = header.length + payload.length

/-- A message with its serial header, behind garbage. -/
structure RawEntry where
  garbage : List UInt8
  message : RawMessage
  /-- The garbage does not contain the serial header. -/
  clean : ¬dltSerialHeader <:+: garbage

def RawEntry.bytes (e : RawEntry) : List UInt8 :=
  e.garbage ++ (dltSerialHeader ++ (e.message.header ++ e.message.payload))

def rawContent (entries : List RawEntry) : List UInt8 := (entries.map RawEntry.bytes).flatten

/-- How many gaps hold garbage. -/
def gapCount (entries : List RawEntry) : ℕ := entries.countP fun e => e.garbage ≠ []

/-- The storage header that the call makes. -/
def rawStorage (time : UInt32 × UInt32) : List UInt8 := dltSetStorageheader time dltCommonDummyEcuid

/-- The record holds the message with that storage header. -/
def RawLoaded (msg : DltMessage) (time : UInt32 × UInt32) (m : RawMessage) : Prop :=
  ∃ old, LoadedBut msg { storage := rawStorage time, header := m.header, payload := m.payload } old

/-! ## Looking for the serial header -/

section synchronise

variable {handle : ByteFile} {window : List UInt8} {k : ℕ}

theorem window_next (hwindow : window.length = 4) (hrest : ¬handle.rest.length < 1) :
    (window.drop 1 ++ handle.got 1).length = 4 ∧
      (window ++ handle.rest).tail = (window.drop 1 ++ handle.got 1) ++ (handle.skip 1).rest := by
  constructor
  · rw [length_append, length_drop, length_got_of_le (by omega), hwindow]
  · have hwhole : handle.got 1 ++ (handle.skip 1).rest = handle.rest := by
      rw [rest_skip_of_le (by omega)]
      exact take_append_drop 1 handle.rest
    rw [append_assoc, hwhole, ← drop_one, drop_append_of_le_length (by omega)]

/-- **The window stops** behind the first serial header. -/
theorem resyncLoop_found (hwindow : window.length = 4)
    (hfind : find dltSerialHeader (window ++ handle.rest).tail = some k) :
    resyncLoop window handle = (handle.seek (handle.pos + k + 1), true) := by
  have hserial : dltSerialHeader.length = 4 := rfl
  induction k generalizing window handle with
  | zero =>
    have hlen := find_le hfind
    have hrest : ¬handle.rest.length < 1 := by
      rw [length_tail, length_append, hwindow] at hlen
      rcases hlen with hlen | hnil
      · change 0 + 4 ≤ _ at hlen
        omega
      · cases hnil
    obtain ⟨hnext, htail⟩ := window_next hwindow hrest
    have hpre := prefix_of_find hfind
    rw [drop_zero, htail, prefix_iff_take hserial, take_left' hnext] at hpre
    rw [resyncLoop, dif_neg hrest]
    dsimp only
    rw [if_pos hpre, skip, length_got_of_le (by omega)]
    rfl
  | succ k ih =>
    have hlen := find_le hfind
    have hrest : ¬handle.rest.length < 1 := by
      rw [length_tail, length_append, hwindow] at hlen
      rcases hlen with hlen | hnil
      · change k + 1 + 4 ≤ _ at hlen
        omega
      · cases hnil
    obtain ⟨hnext, htail⟩ := window_next hwindow hrest
    have hpre : ¬dltSerialHeader <+: (window ++ handle.rest).tail := by
      intro hpre
      rw [find_start hpre] at hfind
      cases hfind
    have hwindow' : window.drop 1 ++ handle.got 1 ≠ dltSerialHeader := by
      intro heq
      exact hpre ((prefix_iff_take hserial).mpr (by rw [htail, take_left' hnext, heq]))
    rw [find_tail hpre, htail] at hfind
    obtain ⟨j, hj, hjk⟩ := Option.map_eq_some_iff.mp hfind
    obtain rfl : j = k := by omega
    rw [resyncLoop, dif_neg hrest]
    dsimp only
    rw [if_neg hwindow', ih hnext hj, pos_skip_of_le (by omega)]
    have hpos : handle.pos + 1 + j + 1 = handle.pos + (j + 1) + 1 := by omega
    rw [hpos]
    rfl

/-- **The serial header is found behind the garbage**, and garbage is counted. -/
theorem dltFileSynchronise_ok {file : DltFile} {garbage bytes : List UInt8}
    (hrest : file.handle.rest = garbage ++ (dltSerialHeader ++ bytes)) (hclean : ¬dltSerialHeader <:+: garbage) :
    dltFileSynchronise true file =
      ({ file with
          handle := file.handle.seek (file.handle.pos + garbage.length + 4)
          errorMessages := file.errorMessages + if garbage ≠ [] then 1 else 0 }, true) := by
  have hfind : find dltSerialHeader file.handle.rest = some garbage.length := by
    rw [hrest]
    exact find_append_of_not_infix (by decide) hclean bytes
  have hfour : ¬file.handle.rest.length < 4 := by
    have hserial : dltSerialHeader.length = 4 := rfl
    rw [hrest, length_append, length_append, hserial]
    omega
  have hskip : file.handle.skip 4 = file.handle.seek (file.handle.pos + 4) := by
    rw [skip, length_got_of_le (by omega)]
    rfl
  have hwhole : file.handle.got 4 ++ (file.handle.skip 4).rest = file.handle.rest := by
    rw [rest_skip_of_le (by omega)]
    exact take_append_drop 4 file.handle.rest
  unfold dltFileSynchronise
  dsimp only
  rw [if_neg hfour]
  by_cases hnil : garbage = []
  · have hpre : dltSerialHeader <+: file.handle.rest := by
      rw [hrest, hnil, nil_append]
      exact prefix_append _ _
    have hgot : file.handle.got 4 = dltSerialHeader := (prefix_iff_take rfl).mp hpre
    rw [if_pos hgot, hskip, if_neg (not_not_intro hnil), hnil]
    rfl
  · have hpre : ¬dltSerialHeader <+: file.handle.rest := by
      intro hpre
      rw [find_start hpre] at hfind
      exact hnil (eq_nil_of_length_eq_zero (Option.some.inj hfind).symm)
    have hgot : file.handle.got 4 ≠ dltSerialHeader := fun hgot => hpre ((prefix_iff_take rfl).mpr hgot)
    rw [find_tail hpre] at hfind
    obtain ⟨j, hj, hlen⟩ := Option.map_eq_some_iff.mp hfind
    rw [← hwhole] at hj
    have hloop := resyncLoop_found (length_got_of_le (by omega)) hj
    rw [if_neg hgot, if_pos rfl, hloop, if_pos hnil, hskip]
    have hpos : file.handle.pos + 4 + j + 1 = file.handle.pos + garbage.length + 4 := by omega
    rw [pos_seek, hpos]
    rfl

end synchronise

/-! ## One call -/

section read

variable {malloc : Malloc} {content : List UInt8} {file : DltFile} (time : UInt32 × UInt32) {e : RawEntry}
  {more : List UInt8}

def RawMessage.standard (m : RawMessage) : List UInt8 := m.header.take sizeofDltStandardHeader

theorem RawMessage.header_ge (m : RawMessage) : sizeofDltStandardHeader ≤ m.header.length := by
  rw [m.header_length, headerLength_eq]
  omega

theorem RawMessage.standard_fields (m : RawMessage) :
    m.standard.length = sizeofDltStandardHeader ∧ headerLength (htypOf m.standard) = m.header.length ∧
      lenOf m.standard = m.header.length + m.payload.length := by
  refine ⟨length_take_of_le m.header_ge, ?_, ?_⟩
  · rw [m.header_length, RawMessage.standard, htypOf_take (by decide)]
  · rw [← m.lenOf_eq, RawMessage.standard, lenOf_take (by decide)]

theorem LoadState.Ready.dummyStorage {s : LoadState} (h : s.Ready content) (time : UInt32 × UInt32) :
    (s.dummyStorage time).Ready content := by
  refine h.change rfl (length_overwrite ?_) rfl rfl h.datasize_nonneg
  have hlen : (dltSetStorageheader time dltCommonDummyEcuid).length = 16 := rfl
  rw [hlen, h.wf.length_headerbuffer]
  decide

/-- The two headers in the buffer, of which the storage header is a dummy. -/
theorem dummyStorage_headers {s : LoadState} (h : s.Ready content) {standard : List UInt8}
    (hroom : sizeofDltStandardHeader ≤ s.handle.rest.length)
    (hstandard : s.handle.rest.take sizeofDltStandardHeader = standard) :
    (((s.fread sizeofDltStorageHeader sizeofDltStandardHeader).pointed.dummyStorage time).msg.headerbuffer).take
      sizeofHeaders = rawStorage time ++ standard := by
  have hstorage : (rawStorage time).length = sizeofDltStorageHeader := rfl
  have hbuffer : sizeofDltStorageHeader ≤ s.msg.headerbuffer.length := by
    rw [h.wf.length_headerbuffer]
    decide
  have hlen : standard.length = sizeofDltStandardHeader := by
    rw [← hstandard, length_take, Nat.min_eq_left hroom]
  rw [fread_eq hroom, hstandard]
  change (overwrite (overwrite s.msg.headerbuffer sizeofDltStorageHeader standard) 0 (rawStorage time)).take
    (sizeofDltStorageHeader + sizeofDltStandardHeader) = _
  rw [overwrite_zero, take_add, take_left' hstorage, drop_left' hstorage, hstorage,
    drop_overwrite _ hbuffer, take_left' hlen]

/-- **The header of an entry is read.** -/
theorem dltFileReadHeaderRaw_ok (h : file.toLoadState.Ready content) (hrest : file.handle.rest = e.bytes ++ more) :
    ∃ s : LoadState, dltFileReadHeaderRaw true time file =
        ({ file with
            toLoadState := s
            errorMessages := file.errorMessages + if e.garbage ≠ [] then 1 else 0 }, dltReturnOk) ∧
      s.Ready content ∧ HeaderRead s.msg (rawStorage time) e.message.standard ∧
      s.handle.pos = file.handle.pos + e.garbage.length + 4 + sizeofDltStandardHeader ∧
      s.handle.rest = e.message.header.drop sizeofDltStandardHeader ++ (e.message.payload ++ more) := by
  have hsplit : file.handle.rest =
      e.garbage ++ (dltSerialHeader ++ (e.message.header ++ (e.message.payload ++ more))) := by
    rw [hrest, RawEntry.bytes]
    simp only [append_assoc]
  have hsync := dltFileSynchronise_ok hsplit e.clean
  -- the file behind the serial header
  set behind : LoadState :=
    { file.toLoadState with handle := file.handle.seek (file.handle.pos + e.garbage.length + 4) } with hbehind
  have hready : behind.Ready content := h.seek _
  have hserial : dltSerialHeader.length = 4 := rfl
  have hrest' : behind.handle.rest = e.message.header ++ (e.message.payload ++ more) := by
    rw [hbehind, Nat.add_assoc, rest_behind, hsplit, ← drop_drop, drop_left' rfl, drop_left' hserial]
  have hroom : sizeofDltStandardHeader ≤ behind.handle.rest.length := by
    rw [hrest', length_append]
    exact e.message.header_ge.trans (Nat.le_add_right _ _)
  have hstandard : behind.handle.rest.take sizeofDltStandardHeader = e.message.standard := by
    rw [hrest', take_append_of_le_length e.message.header_ge]
    rfl
  obtain ⟨hlength, hheaders, hlenOf⟩ := e.message.standard_fields
  have hsized := setSizes_ok (dummyStorage_headers time hready hroom hstandard) rfl hlength
    (by rw [hheaders, hlenOf]; exact Nat.le_add_right _ _)
  obtain ⟨hret, hhandle, hread, -⟩ := hsized
  have hfread := @fread_eq _ sizeofDltStorageHeader behind hroom
  refine ⟨(LoadState.setSizes
    ((behind.fread sizeofDltStorageHeader sizeofDltStandardHeader).pointed.dummyStorage time)).1, ?_, ?_, hread, ?_, ?_⟩
  · unfold dltFileReadHeaderRaw
    rw [hsync]
    dsimp only
    rw [if_neg (by decide), if_neg (Nat.not_lt.mpr hroom)]
    exact Prod.ext rfl hret
  · exact ((hready.fread (by decide)).pointed.dummyStorage time).setSizes
  · rw [hhandle, hfread]
    rfl
  · rw [hhandle, hfread]
    change (behind.handle.seek (behind.handle.pos + sizeofDltStandardHeader)).rest = _
    rw [rest_behind, hrest', drop_append_of_le_length e.message.header_ge]

theorem RawMessage.length_extra (m : RawMessage) :
    (m.header.drop sizeofDltStandardHeader).length = extraLength (htypOf m.standard) := by
  have hheaders := m.standard_fields.2.1
  rw [headerLength_eq] at hheaders
  rw [length_drop]
  omega

/-- **An entry is read**: the message is in the record and in the index, and the file is behind the entry. -/
theorem dltFileReadRaw_ok (hm : malloc.Succeeds) (h : file.toLoadState.Ready content)
    (hrest : content.drop file.filePosition = e.bytes ++ more) :
    (dltFileReadRaw malloc true time file).2 = dltReturnTrue ∧
      RawLoaded (dltFileReadRaw malloc true time file).1.msg time e.message ∧
      (dltFileReadRaw malloc true time file).1.toLoadState.Ready content ∧
      (dltFileReadRaw malloc true time file).1.filePosition = file.filePosition + e.bytes.length ∧
      (dltFileReadRaw malloc true time file).1.counter = file.counter + 1 ∧
      (dltFileReadRaw malloc true time file).1.errorMessages =
        file.errorMessages + if e.garbage ≠ [] then 1 else 0 := by
  have hs : (file.seek file.filePosition).toLoadState.Ready content := h.seek _
  obtain ⟨s, hheader, hready, hread, hpos, hrest'⟩ :=
    dltFileReadHeaderRaw_ok time hs (hs.rest_eq.trans hrest)
  obtain ⟨hlength, hheaders, hlenOf⟩ := e.message.standard_fields
  have hextra := e.message.length_extra
  have hroom : extraLength (htypOf e.message.standard) ≤ s.handle.rest.length := by
    rw [hrest', length_append, hextra]
    exact Nat.le_add_right _ _
  obtain ⟨hret, hhandle, hheadersRead, hready'⟩ := dltFileReadHeaderExtended_ok hready hread hroom
  have hwhole : e.message.standard ++ s.handle.rest.take (extraLength (htypOf e.message.standard)) =
      e.message.header := by
    rw [hrest', take_left' hextra, RawMessage.standard, take_append_drop]
  rw [hwhole] at hheadersRead
  have hbehind : (dltFileReadHeaderExtended s).1.handle.rest = e.message.payload ++ more := by
    rw [hhandle, rest_behind, hrest', drop_left' hextra]
  have hsize : lenOf e.message.header - e.message.header.length = e.message.payload.length := by
    rw [e.message.lenOf_eq, Nat.add_sub_cancel_left]
  have hroom' : lenOf e.message.header - e.message.header.length ≤
      (dltFileReadHeaderExtended s).1.handle.rest.length := by
    rw [hsize, hbehind, length_append]
    exact Nat.le_add_right _ _
  obtain ⟨hret', hhandle', hloaded, -⟩ := dltFileReadData_ok hm hready' hheadersRead hroom'
  rw [hbehind, hsize, take_left' rfl] at hloaded
  -- the whole call
  have hcall : dltFileReadRaw malloc true time file =
      (DltFile.next (DltFile.store
        { file with
          toLoadState := (dltFileReadData malloc (dltFileReadHeaderExtended s).1).1
          errorMessages := file.errorMessages + if e.garbage ≠ [] then 1 else 0 }), dltReturnTrue) := by
    unfold dltFileReadRaw
    rw [if_neg (by rw [hasRoom_of_succeeds hm]; decide), hheader]
    dsimp only
    rw [if_neg ok_not_lt, hret, if_neg ok_not_lt, hret', if_neg ok_not_lt]
    rfl
  rw [hcall]
  refine ⟨rfl, ⟨_, hloaded⟩, hready'.readData malloc, ?_, rfl, rfl⟩
  change (dltFileReadData malloc (dltFileReadHeaderExtended s).1).1.handle.pos = _
  have hbytes : e.bytes.length = e.garbage.length + (4 + (e.message.header.length + e.message.payload.length)) := by
    have hserial : dltSerialHeader.length = 4 := rfl
    rw [RawEntry.bytes, length_append, length_append, length_append, hserial]
  have hpos' : s.handle.pos = file.filePosition + e.garbage.length + 4 + sizeofDltStandardHeader := hpos
  rw [headerLength_eq] at hheaders
  rw [hhandle', hhandle, pos_seek, pos_seek, hpos', hsize, hbytes, ← hheaders]
  omega

/-- **At the end of the file** the call fails, and nothing but the record changes. -/
theorem dltFileReadRaw_end (hm : malloc.Succeeds) (h : file.toLoadState.Ready content)
    (hrest : content.drop file.filePosition = []) :
    (dltFileReadRaw malloc true time file).2 = dltReturnError ∧
      (dltFileReadRaw malloc true time file).1.toLoadState.Ready content ∧
      (dltFileReadRaw malloc true time file).1.filePosition = file.filePosition ∧
      (dltFileReadRaw malloc true time file).1.counter = file.counter ∧
      (dltFileReadRaw malloc true time file).1.errorMessages = file.errorMessages := by
  have hs : (file.seek file.filePosition).toLoadState.Ready content := h.seek _
  have hnil : (file.seek file.filePosition).handle.rest = [] := hs.rest_eq.trans hrest
  have hsync : dltFileSynchronise true (file.seek file.filePosition) =
      ({ file.seek file.filePosition with handle := (file.seek file.filePosition).handle.skip 4 }, false) := by
    unfold dltFileSynchronise
    dsimp only
    rw [if_pos (by rw [hnil]; decide)]
  have hheader : dltFileReadHeaderRaw true time (file.seek file.filePosition) =
      ({ file.seek file.filePosition with
        handle := (file.seek file.filePosition).handle.skip 4 }, dltReturnError) := by
    unfold dltFileReadHeaderRaw
    rw [hsync]
    dsimp only
    rw [if_pos rfl]
  unfold dltFileReadRaw
  rw [if_neg (by rw [hasRoom_of_succeeds hm]; decide), hheader]
  dsimp only
  rw [if_pos error_lt]
  exact ⟨rfl, h.change rfl rfl rfl rfl h.datasize_nonneg, rfl, rfl, rfl⟩

end read

/-! ## A call that fails -/

/-- A call that fails changes nothing that belongs to the index. -/
def RawFailsCleanly (malloc : Malloc) (resync : Bool) (time : UInt32 × UInt32) (file : DltFile) : Prop :=
  (dltFileReadRaw malloc resync time file).2 < dltReturnOk →
    (dltFileReadRaw malloc resync time file).1.counter = file.counter ∧
      (dltFileReadRaw malloc resync time file).1.counterTotal = file.counterTotal ∧
      (dltFileReadRaw malloc resync time file).1.index = file.index ∧
      (dltFileReadRaw malloc resync time file).1.filePosition = file.filePosition

section fails

variable (malloc : Malloc) (resync : Bool) (time : UInt32 × UInt32) (file : DltFile)

/-- The search changes the handle and the number of incomplete messages. -/
theorem dltFileSynchronise_frame : ∃ handle errorMessages,
    (dltFileSynchronise resync file).1 = { file with handle, errorMessages } := by
  unfold dltFileSynchronise
  dsimp only
  split_ifs
  · exact ⟨_, _, rfl⟩
  · exact ⟨_, _, rfl⟩
  · exact ⟨_, _, rfl⟩
  · exact ⟨_, _, rfl⟩

theorem dltFileReadHeaderRaw_frame : ∃ s errorMessages,
    (dltFileReadHeaderRaw resync time file).1 = { file with toLoadState := s, errorMessages } := by
  obtain ⟨handle, errorMessages, hsync⟩ := dltFileSynchronise_frame resync file
  unfold dltFileReadHeaderRaw
  dsimp only
  rw [hsync]
  split_ifs
  · exact ⟨_, _, rfl⟩
  · exact ⟨_, _, rfl⟩
  · exact ⟨_, _, rfl⟩

/-- **Every call that fails is clean.** -/
theorem rawFailsCleanly : RawFailsCleanly malloc resync time file := by
  obtain ⟨s, errorMessages, hheader⟩ := dltFileReadHeaderRaw_frame resync time (file.seek file.filePosition)
  unfold RawFailsCleanly dltFileReadRaw
  dsimp only
  rw [hheader]
  split_ifs
  · exact fun _ => ⟨rfl, rfl, rfl, rfl⟩
  · exact fun _ => ⟨rfl, rfl, rfl, rfl⟩
  · exact fun _ => ⟨rfl, rfl, rfl, rfl⟩
  · exact fun _ => ⟨rfl, rfl, rfl, rfl⟩
  · exact fun hlt => absurd hlt true_not_lt

end fails

/-! ## Repeated calls -/

/-- The calls, one for each time, with the file behind each of them. -/
def rawCalls (malloc : Malloc) : DltFile → List (UInt32 × UInt32) → List (DltFile × ℤ)
  | _, [] => []
  | file, time :: times =>
      dltFileReadRaw malloc true time file :: rawCalls malloc (dltFileReadRaw malloc true time file).1 times

/-- The call has read the message of the entry. -/
def ReadsEntry (call : DltFile × ℤ) (e : RawEntry × (UInt32 × UInt32)) : Prop :=
  call.2 = dltReturnTrue ∧ RawLoaded call.1.msg e.2 e.1.message

/-- The call has failed, and the file is as before it. -/
def FailsAt (counter filePosition errorMessages : ℕ) (call : DltFile × ℤ) : Prop :=
  call.2 = dltReturnError ∧ call.1.counter = counter ∧ call.1.filePosition = filePosition ∧
    call.1.errorMessages = errorMessages

section calls

variable {malloc : Malloc} {content : List UInt8}

/-- **At the end of the file** all calls fail. -/
theorem rawCalls_end (hm : malloc.Succeeds) {file : DltFile} (h : file.toLoadState.Ready content)
    (hrest : content.drop file.filePosition = []) (times : List (UInt32 × UInt32)) :
    (rawCalls malloc file times).length = times.length ∧
      ∀ call ∈ rawCalls malloc file times, FailsAt file.counter file.filePosition file.errorMessages call := by
  induction times generalizing file with
  | nil => exact ⟨rfl, fun call hcall => absurd hcall not_mem_nil⟩
  | cons time times ih =>
    obtain ⟨hret, hready, hposition, hcounter, herrors⟩ := dltFileReadRaw_end time hm h hrest
    obtain ⟨hlength, hfail⟩ := ih hready (by rw [hposition]; exact hrest)
    rw [hcounter, hposition, herrors] at hfail
    refine ⟨congrArg (· + 1) hlength, fun call hcall => ?_⟩
    rcases mem_cons.mp hcall with rfl | hcall
    · exact ⟨hret, hcounter, hposition, herrors⟩
    · exact hfail call hcall

/-- **The calls read the entries**, one after the other, and fail behind them. -/
theorem rawCalls_read (hm : malloc.Succeeds) {file : DltFile} (h : file.toLoadState.Ready content)
    {entries : List RawEntry} (hrest : content.drop file.filePosition = rawContent entries)
    {times : List (UInt32 × UInt32)} (hlen : times.length = entries.length) (late : List (UInt32 × UInt32)) :
    ∃ read failed, rawCalls malloc file (times ++ late) = read ++ failed ∧
      List.Forall₂ ReadsEntry read (entries.zip times) ∧ failed.length = late.length ∧
      ∀ call ∈ failed, FailsAt (file.counter + entries.length) (file.filePosition + (rawContent entries).length)
        (file.errorMessages + gapCount entries) call := by
  induction entries generalizing file times with
  | nil =>
    obtain rfl := eq_nil_of_length_eq_zero hlen
    obtain ⟨hlength, hfail⟩ := rawCalls_end hm h hrest late
    exact ⟨[], rawCalls malloc file late, rfl, .nil, hlength, hfail⟩
  | cons e entries ih =>
    obtain ⟨time, times, rfl⟩ := exists_cons_of_length_eq_add_one hlen
    have hcontent : rawContent (e :: entries) = e.bytes ++ rawContent entries := rfl
    obtain ⟨hret, hloaded, hready, hposition, hcounter, herrors⟩ :=
      dltFileReadRaw_ok time hm h (hrest.trans hcontent)
    have hrest' : content.drop (dltFileReadRaw malloc true time file).1.filePosition = rawContent entries := by
      rw [hposition, ← drop_drop, hrest, hcontent, drop_left' rfl]
    obtain ⟨read, failed, hcalls, hread, hlength, hfail⟩ := ih hready hrest' (Nat.succ.inj hlen)
    refine ⟨dltFileReadRaw malloc true time file :: read, failed, ?_, .cons ⟨hret, hloaded⟩ hread, hlength, ?_⟩
    · rw [cons_append, rawCalls, hcalls]
      rfl
    · have hgaps : gapCount (e :: entries) = (if e.garbage ≠ [] then 1 else 0) + gapCount entries := by
        unfold gapCount
        rw [countP_cons, Nat.add_comm]
        simp
      have hcount : file.counter + 1 + entries.length = file.counter + (e :: entries).length := by
        rw [length_cons]
        omega
      have hend : file.filePosition + e.bytes.length + (rawContent entries).length =
          file.filePosition + (rawContent (e :: entries)).length := by
        rw [hcontent, length_append, Nat.add_assoc]
      rw [hcounter, hposition, herrors, hcount, hend, Nat.add_assoc, ← hgaps] at hfail
      exact hfail

/-- **A raw stream is read completely.** Repeated calls read every message once, in order; then they fail at the end of
the file, with the gaps counted. A call that fails changes nothing that belongs to the index. -/
theorem rawFile_read (hm : malloc.Succeeds) {file : DltFile} (hwf : file.msg.Wf) (hsize : 0 ≤ file.msg.datasize)
    (entries : List RawEntry) {times : List (UInt32 × UInt32)} (hlen : times.length = entries.length)
    (late : List (UInt32 × UInt32)) :
    (∃ read failed, rawCalls malloc (dltFileOpen (rawContent entries) file) (times ++ late) = read ++ failed ∧
      List.Forall₂ ReadsEntry read (entries.zip times) ∧ failed.length = late.length ∧
      ∀ call ∈ failed, FailsAt entries.length (rawContent entries).length (gapCount entries) call) ∧
    ∀ malloc resync time file, RawFailsCleanly malloc resync time file := by
  refine ⟨?_, rawFailsCleanly⟩
  have hready : (dltFileOpen (rawContent entries) file).toLoadState.Ready (rawContent entries) := ⟨rfl, hwf, hsize⟩
  have hcontent : (rawContent entries).drop (dltFileOpen (rawContent entries) file).filePosition =
    rawContent entries := rfl
  have hread := rawCalls_read hm hready hcontent hlen late
  have hcounter : (dltFileOpen (rawContent entries) file).counter + entries.length = entries.length := Nat.zero_add _
  have hposition : (dltFileOpen (rawContent entries) file).filePosition + (rawContent entries).length =
      (rawContent entries).length := Nat.zero_add _
  have herrors : (dltFileOpen (rawContent entries) file).errorMessages + gapCount entries = gapCount entries :=
    Nat.zero_add _
  rw [hcounter, hposition, herrors] at hread
  exact hread

end calls

/-! ## A stream -/

/-- A message behind garbage that ends like the beginning of a serial header. -/
def garbledEntry : RawEntry where
  garbage := [0x44, 0x4c, 0x44, 0x4c, 0x53]
  message := { header := [0x20, 0, 0, 5], payload := [7], header_length := rfl, lenOf_eq := rfl }
  clean := by decide

/-- A message without garbage. -/
def cleanEntry : RawEntry where
  garbage := []
  message := { header := [0x20, 1, 0, 4], payload := [], header_length := rfl, lenOf_eq := rfl }
  clean := by decide

theorem rawFile_read_sample :
    (∃ read failed, rawCalls zeroMalloc (dltFileOpen (rawContent [garbledEntry, cleanEntry]) freshFile)
        ([(0, 0), (1, 0)] ++ [(2, 0)]) = read ++ failed ∧
      List.Forall₂ ReadsEntry read ([garbledEntry, cleanEntry].zip [(0, 0), (1, 0)]) ∧ failed.length = 1 ∧
      ∀ call ∈ failed, FailsAt 2 22 1 call) ∧
    ∀ malloc resync time file, RawFailsCleanly malloc resync time file :=
  rawFile_read zeroMalloc_succeeds freshFile_wf le_rfl [garbledEntry, cleanEntry] rfl [(2, 0)]

end Dlt.File
