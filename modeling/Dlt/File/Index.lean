import Dlt.File.Load

/-!
# The index of a file

* `FileOp`, `FileRun` — calls of `dlt_file_read`, `dlt_file_message` and `dlt_file_set_filter` behind `dlt_file_open`,
  and the headers of the messages that were found. `Indexed` — what holds in every run.
* `index_sound_iff` — **the index is sound exactly when** every indexed message lies whole in the file, and has an
  extended header unless the record has no pointer to one.
-/

namespace Dlt.File

open Dlt.Lib Dlt.Shared List
open Dlt.Gateway (idOf)
open Dlt.MsgFilter (DltFilter CheckedMessage dltMessageFilterCheck)

variable {msg : DltMessage} {header : List UInt8} {old : Option ℕ} {s : LoadState}

/-! ## What the filter reads -/

/-- What the filter reads, from all headers of a message. -/
def headerChecked (header : List UInt8) : CheckedMessage where
  extended :=
    if dltIsHtypUeh (htypOf header) then
      let extended := header.drop (sizeofDltStandardHeader + dltStandardHeaderExtraSize (htypOf header))
      some { msin := extended.getD 0 0, apid := idOf (extended.drop 2), ctid := idOf (extended.drop 6) }
    else none
  datasize := (lenOf header - header.length) % 2147483648
  datasize_le := Nat.le_of_lt_succ (Nat.mod_lt _ (by decide))

theorem idOf_congr {a b : List UInt8} (h : a.take 4 = b.take 4) : idOf a = idOf b := by
  have hbytes : ∀ l : List UInt8, (l ++ replicate 4 0).take 4 =
      l.take 4 ++ (replicate 4 0).take (4 - (l.take 4).length) := by
    intro l
    rw [take_append, length_take]
    congr 2
    omega
  unfold idOf
  simp only [hbytes, h]

theorem htypOf_header (h : msg.header = header) (hpos : 0 < header.length) :
    msg.headerbuffer.getD sizeofDltStorageHeader 0 = htypOf header := by
  subst h
  have hpos' : 0 < msg.headersize - sizeofDltStorageHeader := by
    unfold DltMessage.header at hpos
    rw [length_take] at hpos
    omega
  unfold htypOf DltMessage.header
  rw [getD_eq_getElem?_getD, getD_eq_getElem?_getD, getElem?_take_of_lt hpos', getElem?_drop,
    Nat.add_zero]

/-- The fields of an extended header, where the headers of the record are known. -/
theorem extended_fields (h : msg.header = header) {n : ℕ}
    (hlen : header.length = sizeofDltStandardHeader + n + sizeofDltExtendedHeader) (k m : ℕ)
    (hkm : k + m ≤ sizeofDltExtendedHeader) :
    ((msg.headerbuffer.drop (sizeofHeaders + n)).drop k).take m =
      ((header.drop (sizeofDltStandardHeader + n)).drop k).take m := by
  have htake : (msg.headerbuffer.drop sizeofDltStorageHeader).take header.length = header.take header.length := by
    subst h
    unfold DltMessage.header
    rw [take_take, length_take]
    congr 1
    omega
  have hwindow := window_congr (k := sizeofDltStandardHeader + n + k) (m := m) htake (by omega)
  rw [drop_drop, drop_drop, ← hwindow, drop_drop]
  unfold sizeofHeaders
  simp only [Nat.add_assoc]

/-- **What the filter reads of the record** is what the headers say, if the record holds them. -/
theorem checkedMessage_eq (hheader : msg.header = header) (hlength : header.length = headerLength (htypOf header))
    (hdatasize : msg.datasize = (lenOf header - header.length : ℕ))
    (hextended : dltIsHtypUeh (htypOf header) = true →
      msg.extendedheader = some (sizeofHeaders + dltStandardHeaderExtraSize (htypOf header))) :
    checkedMessage msg = headerChecked header := by
  have hfour : sizeofDltStandardHeader ≤ header.length := by
    rw [hlength, headerLength_eq]
    omega
  have htyp := htypOf_header hheader (Nat.lt_of_lt_of_le (by decide) hfour)
  have hsize : msg.datasize.toNat = lenOf header - header.length := by
    rw [hdatasize, Int.toNat_natCast]
  unfold checkedMessage headerChecked
  simp only [CheckedMessage.mk.injEq, hsize, htyp, and_true]
  by_cases hueh : dltIsHtypUeh (htypOf header) = true
  · have hlen : header.length =
        sizeofDltStandardHeader + dltStandardHeaderExtraSize (htypOf header) + sizeofDltExtendedHeader := by
      rw [hlength, headerLength, if_pos hueh]
    have hfields := extended_fields hheader hlen
    have hmsin : ∀ l : List UInt8, l.getD 0 0 = ((l.drop 0).take 1).headD 0 := by
      intro l
      rw [drop_zero, getD_eq_getElem?_getD, headD_eq_head?_getD, head?_take, if_neg (by decide),
        head?_eq_getElem?]
    rw [if_pos hueh, if_pos hueh, hextended hueh, Option.getD_some, hmsin, hmsin, hfields 0 1 (by decide),
      idOf_congr (hfields 2 4 (by decide)), idOf_congr (hfields 6 4 (by decide))]
  · rw [if_neg hueh, if_neg hueh]

theorem HeadersRead.checked {storage : List UInt8} (h : HeadersRead msg storage header old) :
    checkedMessage msg = headerChecked header := by
  refine checkedMessage_eq h.header_eq h.header_length h.datasize_eq fun hueh => ?_
  rw [h.extendedheader_eq, if_pos hueh]

theorem LoadedBut.checked {m : FileMessage} (h : LoadedBut msg m old)
    (hlength : m.header.length = headerLength (htypOf m.header))
    (hlenOf : lenOf m.header = m.header.length + m.payload.length) :
    checkedMessage msg = headerChecked m.header := by
  have hheader : msg.header = m.header := congrArg Consumed.header h.consumed_eq
  have hdatasize : msg.datasize = m.payload.length := congrArg Consumed.datasize h.consumed_eq
  refine checkedMessage_eq hheader hlength ?_ fun hueh => ?_
  · rw [hdatasize, hlenOf, Nat.add_sub_cancel_left]
  · have hextended := congrArg Consumed.extendedheader h.consumed_eq
    dsimp only at hextended
    rw [if_pos hueh] at hextended
    exact hextended.trans (if_pos hueh)

/-! ## One call -/

/-- The filter, if there is one, accepts a message with these headers. -/
def Accepted (filter : Option DltFilter) (header : List UInt8) : Prop :=
  ∀ f ∈ filter, dltMessageFilterCheck (headerChecked header) f = dltReturnTrue

/-- What a call of `dlt_file_read` can do. -/
inductive ReadOutcome (malloc : Malloc) (content : List UInt8) (file : DltFile) : DltFile × ℤ → Prop
  /-- It fails, but not where there is memory and a whole message. -/
  | failed {s : LoadState} (hs : s.Ready content)
      (hcut : malloc.Succeeds → storedMessage (content.drop file.filePosition) = none) :
      ReadOutcome malloc content file ({ file with toLoadState := s }, dltReturnError)
  /-- A message is found, which the filter rejects. -/
  | rejected {s : LoadState} (hs : s.Ready content) {k : ℕ} (hk : headerAt (content.drop file.filePosition) = some k)
      (hpos : s.handle.pos = file.filePosition +
        (k + sizeofDltStorageHeader + lenOf (standardAt (content.drop file.filePosition) k)))
      (hfilter : ¬Accepted file.filter (headersAt (content.drop file.filePosition) k)) :
      ReadOutcome malloc content file (DltFile.next { file with toLoadState := s }, dltReturnOk)
  /-- A message is found and stored in the index. -/
  | found {s : LoadState} (hs : s.Ready content) {k : ℕ} (hk : headerAt (content.drop file.filePosition) = some k)
      (hpos : s.handle.pos = file.filePosition +
        (k + sizeofDltStorageHeader + lenOf (standardAt (content.drop file.filePosition) k)))
      (hfilter : Accepted file.filter (headersAt (content.drop file.filePosition) k))
      (hheaders : s.msg.headerbuffer.take sizeofHeaders =
        storageAt (content.drop file.filePosition) k ++ standardAt (content.drop file.filePosition) k) :
      ReadOutcome malloc content file (DltFile.next (DltFile.store { file with toLoadState := s }), dltReturnTrue)

section read

variable {malloc : Malloc} {content : List UInt8} {file : DltFile} {k : ℕ}

theorem storedMessage_none {bytes : List UInt8} (h : headerAt bytes = none) : storedMessage bytes = none := by
  cases hstored : storedMessage bytes with
  | none => rfl
  | some km =>
    have hk := (storedMessage_eq_some.mp hstored).1
    rw [h] at hk
    cases hk

/-- A message that is found here is the one whose headers are read here. -/
theorem storedMessage_header {bytes : List UInt8} {j : ℕ} {m : FileMessage} (h : storedMessage bytes = some (j, m))
    (hk : headerAt bytes = some k) : j = k := by
  have hj := (storedMessage_eq_some.mp h).1
  rw [hk] at hj
  exact (Option.some.inj hj).symm

theorem HeadersRead.headers {storage : List UInt8} (h : HeadersRead msg storage header old) :
    msg.headerbuffer.take sizeofHeaders = storage ++ header.take sizeofDltStandardHeader := by
  have hfour : sizeofDltStandardHeader ≤ header.length := by
    rw [h.header_length, headerLength_eq]
    omega
  have hsize : msg.headersize - sizeofDltStorageHeader = header.length := by
    rw [h.headersize_eq, Nat.add_sub_cancel_left]
  have hheader := h.header_eq
  unfold DltMessage.header at hheader
  unfold sizeofHeaders
  rw [take_add, h.storage_eq, ← hheader, take_take, hsize, Nat.min_eq_left hfour]

theorem dltFileReadUnfiltered_outcome (hs : s.Ready content)
    (hk : headerAt (content.drop file.filePosition) = some k)
    (hread : HeaderRead s.msg (storageAt (content.drop file.filePosition) k)
      (standardAt (content.drop file.filePosition) k))
    (hpos : s.handle.pos = file.filePosition + k + sizeofHeaders) (hfilter : file.filter = none) :
    ReadOutcome malloc content file (dltFileReadUnfiltered { file with toLoadState := s }) := by
  have hcovers := hread.covers
  refine .found (hs.seek (s.handle.pos + (s.msg.headersize - sizeofHeaders + s.msg.datasize.toNat))) hk ?_ ?_
    hread.headers
  · have hfour := headerLength_eq (htypOf (standardAt (content.drop file.filePosition) k))
    have hsizes : sizeofHeaders = sizeofDltStorageHeader + sizeofDltStandardHeader := rfl
    dsimp only
    rw [ByteFile.pos_seek, hpos, hread.headersize_eq, hread.datasize_eq, Int.toNat_natCast]
    omega
  · rw [Accepted, hfilter]
    exact fun _ h => nomatch h

theorem dltFileReadFiltered_outcome {filter : DltFilter} (hs : s.Ready content)
    (hk : headerAt (content.drop file.filePosition) = some k)
    (hread : HeaderRead s.msg (storageAt (content.drop file.filePosition) k)
      (standardAt (content.drop file.filePosition) k))
    (hpos : s.handle.pos = file.filePosition + k + sizeofHeaders) (hfilter : file.filter = some filter) :
    ReadOutcome malloc content file (dltFileReadFiltered filter { file with toLoadState := s }) := by
  set bytes := content.drop file.filePosition with hbytes
  have hcovers := hread.covers
  have hheaderLength := headerLength_eq (htypOf (standardAt bytes k))
  have hsizes : sizeofHeaders = sizeofDltStorageHeader + sizeofDltStandardHeader := rfl
  have hrest : s.handle.rest = bytes.drop (k + sizeofHeaders) := by
    rw [hs.rest_eq, hpos, Nat.add_assoc, ← drop_drop]
  unfold dltFileReadFiltered
  dsimp only
  by_cases hroom : extraLength (htypOf (standardAt bytes k)) ≤ s.handle.rest.length
  · obtain ⟨hret, hhandle, hheaders, hready⟩ := dltFileReadHeaderExtended_ok hs hread hroom
    have hheader : standardAt bytes k ++ s.handle.rest.take (extraLength (htypOf (standardAt bytes k))) =
        headersAt bytes k := by
      rw [hrest]
      exact standardAt_append bytes k
    rw [hheader] at hheaders
    rw [hret, if_neg ok_not_lt, hheaders.checked]
    set s' := (dltFileReadHeaderExtended s).1 with hs'
    have hlength : (headersAt bytes k).length = headerLength (htypOf (standardAt bytes k)) := by
      rw [hheaderLength, ← hheader, length_append, hread.standard_length, length_take, Nat.min_eq_left hroom]
    obtain ⟨hstandard, -, hlenOf⟩ := headersAt_fields bytes k
    have hend : s'.handle.pos + s'.msg.datasize.toNat =
        file.filePosition + (k + sizeofDltStorageHeader + lenOf (standardAt bytes k)) := by
      rw [hhandle, ByteFile.pos_seek, hheaders.datasize_eq, Int.toNat_natCast, hpos, hlenOf, hlength]
      omega
    have haccepted : Accepted file.filter (headersAt bytes k) ↔
        dltMessageFilterCheck (headerChecked (headersAt bytes k)) filter = dltReturnTrue := by
      rw [Accepted, hfilter]
      exact ⟨fun h => h filter rfl, fun h f hf => Option.mem_some_iff.mp hf ▸ h⟩
    by_cases hcheck : dltMessageFilterCheck (headerChecked (headersAt bytes k)) filter = dltReturnTrue
    · rw [if_pos hcheck, if_pos hcheck]
      refine .found (hready.seek (s'.handle.pos + s'.msg.datasize.toNat)) hk hend (haccepted.mpr hcheck) ?_
      rw [← hbytes, ← hstandard]
      exact hheaders.headers
    · rw [if_neg hcheck, if_neg hcheck]
      exact .rejected (hready.seek (s'.handle.pos + s'.msg.datasize.toNat)) hk hend
        fun h => hcheck (haccepted.mp h)
  · rw [dltFileReadHeaderExtended_cut hread (Nat.not_le.mp hroom), if_pos error_lt]
    refine .failed (hs.readHeaderExtended.seek file.filePosition) fun _ => ?_
    -- a whole message has all its headers
    cases hstored : storedMessage (content.drop file.filePosition) with
    | none => rfl
    | some jm =>
      obtain rfl := storedMessage_header hstored hk
      have hwhole := (storedMessage_eq_some.mp hstored).2.1
      rw [← hbytes] at hwhole
      rw [hrest, length_drop] at hroom
      omega

/-- **Every call does one of these.** -/
theorem dltFileRead_outcome (malloc : Malloc) (h : file.toLoadState.Ready content) :
    ReadOutcome malloc content file (dltFileRead malloc file) := by
  unfold dltFileRead
  by_cases hroom : file.hasRoom malloc = false
  · rw [if_pos hroom]
    refine .failed h fun hm => ?_
    rw [hasRoom_of_succeeds hm] at hroom
    cases hroom
  rw [if_neg hroom]
  dsimp only
  have hs : (file.seek file.filePosition).toLoadState.Ready content := h.seek _
  have hrest : (file.seek file.filePosition).toLoadState.handle.rest = content.drop file.filePosition := hs.rest_eq
  cases hk : headerAt (content.drop file.filePosition) with
  | none =>
    rw [dltFileReadHeader_error (by rw [hrest]; exact hk), if_pos error_lt]
    exact .failed (hs.readHeader.seek file.filePosition) fun _ => storedMessage_none hk
  | some k =>
    obtain ⟨hret, hhandle, hread, -⟩ := dltFileReadHeader_ok (by rw [hrest]; exact hk)
    rw [hrest] at hread
    have hpos : (dltFileReadHeader (file.seek file.filePosition).toLoadState).1.handle.pos =
        file.filePosition + k + sizeofHeaders := by
      rw [hhandle]
      rfl
    rw [hret, if_neg ok_not_lt]
    split
    · exact dltFileReadFiltered_outcome hs.readHeader hk hread hpos ‹_›
    · exact dltFileReadUnfiltered_outcome hs.readHeader hk hread hpos ‹_›

end read

/-! ## Runs -/

/-- A call, with the outcomes of `malloc` in it. -/
inductive FileOp
  /-- `dlt_file_read`. -/
  | read (malloc : Malloc)
  /-- `dlt_file_message`. -/
  | message (malloc : Malloc) (index : ℕ)
  /-- `dlt_file_set_filter`. -/
  | setFilter (filter : Option DltFilter)

structure FileRun where
  file : DltFile
  /-- The storage header and the standard header of every message for which `dlt_file_read` returned
  `DLT_RETURN_TRUE`. -/
  found : List (List UInt8)

def FileRun.step (run : FileRun) : FileOp → FileRun
  | .read malloc =>
      let read := dltFileRead malloc run.file
      { file := read.1
        found :=
          if read.2 = dltReturnTrue then run.found ++ [read.1.msg.headerbuffer.take sizeofHeaders] else run.found }
  | .message malloc index => { run with file := (dltFileMessage malloc run.file index).1 }
  | .setFilter filter => { run with file := dltFileSetFilter run.file filter }

/-- The calls behind `dlt_file_open`. -/
def runFile (content : List UInt8) (file : DltFile) (ops : List FileOp) : FileRun :=
  ops.foldl FileRun.step { file := dltFileOpen content file, found := [] }

/-- What holds between the index and what was found. -/
structure Indexed (content : List UInt8) (run : FileRun) : Prop where
  ready : run.file.toLoadState.Ready content
  index_length : run.file.index.length ≥ run.file.counter
  found_length : run.found.length = run.file.counter
  found_eq : ∀ i < run.file.counter, ∃ k, headerAt (content.drop (run.file.index.getD i 0)) = some k ∧
    run.found[i]? = some (storageAt (content.drop (run.file.index.getD i 0)) k ++
      standardAt (content.drop (run.file.index.getD i 0)) k)

variable {file : DltFile}

section runs

variable {malloc : Malloc} {content : List UInt8} {run : FileRun}

/-- A call that changes nothing but the handle, the record and the position keeps what holds. -/
theorem Indexed.load (h : Indexed content run) (hs : file.toLoadState.Ready content)
    (hindex : file.index = run.file.index) (hcounter : file.counter = run.file.counter) :
    Indexed content { run with file } := by
  refine ⟨hs, ?_, ?_, ?_⟩
  · rw [hindex, hcounter]
    exact h.index_length
  · rw [hcounter]
    exact h.found_length
  · rw [hindex, hcounter]
    exact h.found_eq

theorem Indexed.push (h : Indexed content run) (hs : s.Ready content) {k : ℕ}
    (hk : headerAt (content.drop run.file.filePosition) = some k)
    (hheaders : s.msg.headerbuffer.take sizeofHeaders =
      storageAt (content.drop run.file.filePosition) k ++ standardAt (content.drop run.file.filePosition) k) :
    Indexed content
      { file := DltFile.next (DltFile.store { run.file with toLoadState := s })
        found := run.found ++ [s.msg.headerbuffer.take sizeofHeaders] } := by
  have htake : (run.file.index.take run.file.counter).length = run.file.counter := by
    rw [length_take, Nat.min_eq_left h.index_length]
  have hindex : (DltFile.next (DltFile.store { run.file with toLoadState := s })).index =
      run.file.index.take run.file.counter ++ [run.file.filePosition] := rfl
  refine ⟨hs, ?_, ?_, ?_⟩
  · rw [hindex, length_append, htake]
    rfl
  · rw [length_append, h.found_length]
    rfl
  · intro i hi
    dsimp only
    rw [hindex]
    rcases Nat.lt_succ_iff_lt_or_eq.mp hi with hlt | rfl
    · have hget : (run.file.index.take run.file.counter ++ [run.file.filePosition]).getD i 0 =
          run.file.index.getD i 0 := by
        rw [getD_eq_getElem?_getD, getD_eq_getElem?_getD,
          getElem?_append_left (by rw [htake]; exact hlt), getElem?_take_of_lt hlt]
      rw [hget, getElem?_append_left (by rw [h.found_length]; exact hlt)]
      exact h.found_eq i hlt
    · have hget : (run.file.index.take run.file.counter ++ [run.file.filePosition]).getD run.file.counter 0 =
          run.file.filePosition := by
        rw [getD_eq_getElem?_getD, getElem?_append_right htake.le, htake, Nat.sub_self]
        rfl
      rw [hget, getElem?_append_right h.found_length.le, h.found_length, Nat.sub_self, hheaders]
      exact ⟨k, hk, rfl⟩

/-- What `dlt_file_message` keeps. -/
theorem dltFileMessage_frame (malloc : Malloc) (h : file.toLoadState.Ready content) (index : ℕ) :
    (dltFileMessage malloc file index).1.toLoadState.Ready content ∧
      (dltFileMessage malloc file index).1.index = file.index ∧
      (dltFileMessage malloc file index).1.counter = file.counter := by
  unfold dltFileMessage
  dsimp only
  split_ifs
  · exact ⟨h, rfl, rfl⟩
  · exact ⟨LoadState.Ready.load (h.seek _) malloc, rfl, rfl⟩
  · exact ⟨LoadState.Ready.load (h.seek _) malloc, rfl, rfl⟩

/-- **Every call keeps what holds.** -/
theorem Indexed.step (h : Indexed content run) (op : FileOp) : Indexed content (run.step op) := by
  cases op with
  | read malloc =>
    unfold FileRun.step
    dsimp only
    have houtcome := dltFileRead_outcome malloc h.ready
    generalize dltFileRead malloc run.file = read at houtcome ⊢
    cases houtcome with
    | failed hs hcut =>
      dsimp only
      rw [if_neg error_ne_true]
      exact h.load hs rfl rfl
    | rejected hs hk hpos hfilter =>
      dsimp only
      rw [if_neg ok_ne_true]
      exact h.load hs rfl rfl
    | found hs hk hpos hfilter hheaders =>
      dsimp only
      rw [if_pos rfl]
      exact h.push hs hk hheaders
  | message malloc index =>
    obtain ⟨hs, hindex, hcounter⟩ := dltFileMessage_frame malloc h.ready index
    exact h.load hs hindex hcounter
  | setFilter filter => exact h.load h.ready rfl rfl

/-- **It holds in every run.** -/
theorem indexed_runFile (content : List UInt8) (hwf : file.msg.Wf) (hsize : 0 ≤ file.msg.datasize)
    (ops : List FileOp) : Indexed content (runFile content file ops) := by
  have hrun : ∀ (ops : List FileOp) (run : FileRun), Indexed content run →
      Indexed content (ops.foldl FileRun.step run) := by
    intro ops
    induction ops with
    | nil => exact fun _ h => h
    | cons op ops ih => exact fun run h => ih _ (h.step op)
  apply hrun
  exact ⟨⟨rfl, hwf, hsize⟩, Nat.zero_le _, rfl, fun i hi => absurd hi (Nat.not_lt_zero i)⟩

end runs

/-! ## The index is sound -/

/-- The message `i` is loaded as a fresh look at the bytes gives it, and it is the one that was found. -/
def LoadsFound (malloc : Malloc) (content : List UInt8) (run : FileRun) (i : ℕ) : Prop :=
  (dltFileMessage malloc run.file i).2 = dltReturnOk ∧
    ∃ k m, storedMessage (content.drop (run.file.index.getD i 0)) = some (k, m) ∧
      LoadedAs (dltFileMessage malloc run.file i).1.msg m ∧
      run.found[i]? = some (m.storage ++ m.header.take sizeofDltStandardHeader)

/-- A call of `dlt_file_read` that fails changes nothing that belongs to the index. -/
def FailsCleanly (malloc : Malloc) (file : DltFile) : Prop :=
  (dltFileRead malloc file).2 < dltReturnOk →
    (dltFileRead malloc file).1.counter = file.counter ∧ (dltFileRead malloc file).1.counterTotal = file.counterTotal ∧
      (dltFileRead malloc file).1.index = file.index ∧ (dltFileRead malloc file).1.filePosition = file.filePosition

/-- The counter is right, a call that fails changes nothing, and every indexed message is loaded as
the reference gives it. -/
structure IndexSound (content : List UInt8) (run : FileRun) : Prop where
  /-- The counter is the number of the messages that were found. -/
  counter_eq : run.file.counter = run.found.length
  failed : ∀ malloc, FailsCleanly malloc run.file
  /-- Every message of the index is loaded. -/
  loads : ∀ i < run.file.counter, ∀ malloc : Malloc, malloc.Succeeds → LoadsFound malloc content run i

/-- The message lies whole in the file, and has an extended header unless the record has no pointer to one. -/
def Loadable (content : List UInt8) (run : FileRun) (i : ℕ) : Prop :=
  ∃ k m, storedMessage (content.drop (run.file.index.getD i 0)) = some (k, m) ∧
    (dltIsHtypUeh (htypOf m.header) = true ∨ run.file.msg.extendedheader = none)

section sound

variable {malloc : Malloc} {content : List UInt8} {run : FileRun} {i : ℕ}

theorem failsCleanly (malloc : Malloc) (h : file.toLoadState.Ready content) :
    FailsCleanly malloc file := by
  unfold FailsCleanly
  have houtcome := dltFileRead_outcome malloc h
  generalize dltFileRead malloc file = read at houtcome ⊢
  cases houtcome with
  | failed hs hcut => exact fun _ => ⟨rfl, rfl, rfl, rfl⟩
  | rejected hs hk hpos hfilter => exact fun hlt => absurd hlt ok_not_lt
  | found hs hk hpos hfilter hheaders => exact fun hlt => absurd hlt true_not_lt

/-- **What loading an indexed message takes.** -/
theorem loadsFound_iff (hm : malloc.Succeeds) (h : Indexed content run) (hi : i < run.file.counter) :
    LoadsFound malloc content run i ↔ Loadable content run i := by
  have hs : (run.file.seek (run.file.index.getD i 0)).toLoadState.Ready content := h.ready.seek _
  have hrest : (run.file.seek (run.file.index.getD i 0)).toLoadState.handle.rest =
      content.drop (run.file.index.getD i 0) := hs.rest_eq
  unfold LoadsFound Loadable dltFileMessage
  rw [if_neg (Nat.not_le.mpr hi)]
  dsimp only
  cases hstored : storedMessage (content.drop (run.file.index.getD i 0)) with
  | none =>
    rw [dltFileLoad_error hs (by rw [hrest]; exact hstored), if_pos error_lt]
    exact ⟨fun hload => (by cases hload.1), fun ⟨_, _, hnone, _⟩ => (by cases hnone)⟩
  | some km =>
    obtain ⟨k, m⟩ := km
    obtain ⟨hret, -, hloaded⟩ := dltFileLoad_ok hm hs (by rw [hrest]; exact hstored)
    obtain ⟨j, hj, hfound⟩ := h.found_eq i hi
    obtain rfl := storedMessage_header hstored hj
    obtain ⟨hstorage, hstandard, -⟩ := storedMessage_headers hstored
    rw [hret, if_neg ok_not_lt]
    constructor
    · rintro ⟨-, _, _, heq, hload, -⟩
      obtain ⟨rfl, rfl⟩ := Prod.mk.inj (Option.some.inj heq)
      exact ⟨k, m, rfl, hloaded.loadedAs_iff.mp hload⟩
    · rintro ⟨_, _, heq, hpointer⟩
      obtain ⟨rfl, rfl⟩ := Prod.mk.inj (Option.some.inj heq)
      refine ⟨rfl, k, m, rfl, hloaded.loadedAs_iff.mpr hpointer, ?_⟩
      rw [hstorage, hstandard]
      exact hfound

/-- **The index is sound in a run exactly when** every indexed message lies whole in the file, and has an extended
header unless the record has no pointer to one. -/
theorem index_sound_iff (content : List UInt8) {file : DltFile} (hwf : file.msg.Wf) (hsize : 0 ≤ file.msg.datasize)
    (ops : List FileOp) :
    IndexSound content (runFile content file ops) ↔
      ∀ i < (runFile content file ops).file.counter, Loadable content (runFile content file ops) i := by
  have h := indexed_runFile content hwf hsize ops
  constructor
  · intro hsound i hi
    exact (loadsFound_iff zeroMalloc_succeeds h hi).mp (hsound.loads i hi zeroMalloc zeroMalloc_succeeds)
  · intro hloadable
    exact ⟨h.found_length.symm, fun malloc => failsCleanly malloc h.ready,
      fun i hi malloc hm => (loadsFound_iff hm h hi).mpr (hloadable i hi)⟩

end sound

/-! ## Two files -/

def sampleStorage : List UInt8 := storagePattern ++ List.replicate 12 0

def extendedMessage : FileMessage where
  storage := sampleStorage
  header := [0x21, 0, 0, 14] ++ List.replicate 10 0
  payload := []

def plainMessage : FileMessage where
  storage := sampleStorage
  header := [0x20, 0, 0, 4]
  payload := []

/-- A file with both. -/
def mixedContent : List UInt8 := extendedMessage.bytes ++ plainMessage.bytes

/-- A file that ends in the payload of its message, which is four bytes long. -/
def cutContent : List UInt8 := sampleStorage ++ [0x20, 0, 0, 8, 1, 2]

theorem index_sound_sample :
    IndexSound mixedContent (runFile mixedContent freshFile [.read zeroMalloc, .read zeroMalloc]) := by
  refine (index_sound_iff mixedContent freshFile_wf le_rfl _).mpr ?_
  have hcounter : (runFile mixedContent freshFile [.read zeroMalloc, .read zeroMalloc]).file.counter = 2 := by
    decide +kernel
  rw [hcounter]
  intro i hi
  rcases Nat.le_one_iff_eq_zero_or_eq_one.mp (Nat.le_of_lt_succ hi) with rfl | rfl
  · exact ⟨0, extendedMessage, by decide +kernel, .inl (by decide +kernel)⟩
  · exact ⟨0, plainMessage, by decide +kernel, .inr (by decide +kernel)⟩

/-- The message without extended header keeps the pointer to the one of the other, and a message that is cut is
indexed. -/
theorem index_unsound :
    ¬IndexSound mixedContent
        (runFile mixedContent freshFile [.read zeroMalloc, .read zeroMalloc, .message zeroMalloc 0]) ∧
      ¬IndexSound cutContent (runFile cutContent freshFile [.read zeroMalloc]) := by
  constructor
  · intro hsound
    obtain ⟨-, k, m, hstored, hloaded, -⟩ := hsound.loads 1 (by decide +kernel) zeroMalloc zeroMalloc_succeeds
    have hplain : storedMessage (mixedContent.drop (getD (runFile mixedContent freshFile
        [.read zeroMalloc, .read zeroMalloc, .message zeroMalloc 0]).file.index 1 0)) = some (0, plainMessage) := by
      decide +kernel
    rw [hplain] at hstored
    obtain ⟨-, rfl⟩ := Prod.mk.inj (Option.some.inj hstored)
    have hpointer := congrArg Consumed.extendedheader hloaded.consumed_eq
    have hstale : (dltFileMessage zeroMalloc (runFile mixedContent freshFile
        [.read zeroMalloc, .read zeroMalloc, .message zeroMalloc 0]).file 1).1.msg.extendedheader = some 20 := by
      decide +kernel
    have hplainFlag : ¬dltIsHtypUeh (htypOf plainMessage.header) = true := by decide
    have hnone : ∀ msg, (plainMessage.frame msg).consumed.extendedheader = none := fun _ => if_neg hplainFlag
    rw [hnone] at hpointer
    cases hstale.symm.trans hpointer
  · intro hsound
    have hload := (hsound.loads 0 (by decide +kernel) zeroMalloc zeroMalloc_succeeds).1
    revert hload
    decide +kernel

end Dlt.File
