import Dlt.Shared.OfflineTraceHistory
import Mathlib.Data.Nat.Digits.Defs

/-!
# What the offline trace says about a message

* `trace_truthful_iff` — along a run, the calls are truthful and the trace recovers exactly when every call keeps it so.
-/

namespace Dlt.Shared.TraceTruth

open Dlt.Lib List Option

/-! ## What is right -/

/-- The state behind a call. -/
def writeStep (s : OfflineState) (call : TraceCall) : OfflineState :=
  ((dltOfflineTraceWrite call.sys call.data1 call.data2 call.data3 s).map Prod.fst).getD s

/-- The buffers of a call. -/
def parts (call : TraceCall) : List TracePart := [call.data1, call.data2, call.data3]

/-- Where a call begins to write: in a new file, or behind what was written before. -/
def writeBegin (s : OfflineState) (call : TraceCall) : ℕ :=
  if fileIsFull call.sys s.trace call.size then 0
  else
    match s.trace.ohandle with
    | .file _ off => off
    | _ => 0

/-- All bytes of a message were written to the trace file that is open; there is nothing to write of an empty one. -/
def Stored (s s' : OfflineState) (call : TraceCall) : Prop :=
  call.bytes = [] ∨ ∃ i content, s'.trace.ohandle = .file i (writeBegin s call + call.bytes.length) ∧
    s'.files.contentAt i = some content ∧ (content.drop (writeBegin s call)).take call.bytes.length = call.bytes

/-- A call returns `DLT_RETURN_OK` exactly when it stored its message. -/
def Truthful (s : OfflineState) (call : TraceCall) : Prop :=
  ∃ s' ret, dltOfflineTraceWrite call.sys call.data1 call.data2 call.data3 s = some (s', ret) ∧
    (ret = dltReturnOk ↔ Stored s s' call)

/-- All operations on the directory and on files succeed. -/
structure Succeeds (call : TraceCall) : Prop where
  accessible : call.sys.accessible = true
  scans : call.sys.scans = true
  opensToCount : ∀ k, call.sys.opensToCount k = true
  opensToDelete : ∀ k, call.sys.opensToDelete k = true
  removes : ∀ k, call.sys.removes k = true
  opens : call.sys.opens = true
  writes : ∀ j, (call.size : ℤ) ≤ call.sys.writes j

/-- The state behind the first calls of an unending run. -/
def after (later : ℕ → TraceCall) (s : OfflineState) : ℕ → OfflineState
  | 0 => s
  | n + 1 => writeStep (after later s n) (later n)

/-- When all operations succeed again, a later call stores its message. -/
def Recovers (s : OfflineState) : Prop :=
  ∀ later : ℕ → TraceCall, (∀ n, Succeeds (later n) ∧ (later n).bytes ≠ []) →
    ∃ n, Stored (after later s n) (after later s (n + 1)) (later n)

/-- A call is right: it tells the truth, and the trace recovers behind it. -/
def Right (s : OfflineState) (call : TraceCall) : Prop := Truthful s call ∧ Recovers (writeStep s call)

/-! ## When it is -/

/-- All bytes of the buffers are written. -/
def StoresAll (sys : TraceSystem) : ℕ → List TracePart → Prop
  | _, [] => True
  | j, .null _ :: parts => StoresAll sys (j + 1) parts
  | j, .data bytes :: parts =>
    if bytes.length ≤ sys.writes j then StoresAll sys (j + 1) parts else bytes = [] ∧ partsBytes parts = []

/-- If the directory is accessible, `opendir` succeeds at every deletion. -/
def ListsFiles (sys : TraceSystem) (s : OfflineState) : Prop :=
  sys.accessible = true → ListsAll sys (s.trace.maxSize - s.trace.fileSize) (s.files.listed.length + 1) 0 s.files

/-- A call that has to create a file lists the files that it deletes from and opens the new one, and no `write` of an
empty buffer fails behind the message. -/
def KeepsTrace (s : OfflineState) (call : TraceCall) : Prop :=
  (fileIsFull call.sys s.trace call.size = true → ListsFiles call.sys s ∧ call.sys.opens = true) ∧
    (StoresAll call.sys 0 (parts call) → WritesAll call.sys 0 (parts call))

/-- A file of the directory is open, and the paths are short enough. -/
structure Usable (s : OfflineState) : Prop where
  handle : ∃ i off f, s.trace.ohandle = .file i off ∧ s.files[i]? = some f ∧ off ≤ f.content.length
  path : ∀ name : List UInt8, name.length = 31 → pathTooLong s.trace name = false

/-- A trace that was initialised with success. -/
def Begun (s : OfflineState) : Prop :=
  ∃ sys directory fileSize maxSize timestampBased files,
    dltOfflineTraceInit sys directory fileSize maxSize timestampBased ⟨.fresh, files⟩ = some (s, dltReturnOk)

/-! ## Writing -/

section write

variable {sys : TraceSystem} {s : OfflineState} {call : TraceCall}

/-- **The buffers are written** behind the offset, as far as it goes: the result says whether every buffer was written,
and all bytes are in the file exactly if `StoresAll` holds. -/
theorem writeParts_file {parts : List TracePart} {j i off : ℕ} {f : File (List UInt8) UInt8}
    (hhandle : s.trace.ohandle = .file i off) (hget : s.files[i]? = some f) (hoff : off ≤ f.content.length) :
    ∃ written f', (writeParts sys j parts s).1.trace = { s.trace with ohandle := .file i (off + written.length) } ∧
      (writeParts sys j parts s).1.files[i]? = some f' ∧
      f'.content.take (off + written.length) = f.content.take off ++ written ∧
      off + written.length ≤ f'.content.length ∧
      written <+: partsBytes parts ∧ (written = partsBytes parts ↔ StoresAll sys j parts) ∧
      ((writeParts sys j parts s).2 = dltReturnOk ↔ WritesAll sys j parts) := by
  induction parts generalizing s j off f with
  | nil =>
    refine ⟨[], f, ?_, hget, (append_nil _).symm, hoff, nil_prefix, ?_, ?_⟩
    · rw [length_nil, Nat.add_zero, ← hhandle]
      rfl
    · exact iff_of_true rfl trivial
    · exact iff_of_true rfl trivial
  | cons part parts ih =>
    rw [partsBytes_cons]
    unfold writeParts
    cases part with
    | null size => exact ih hhandle hget hoff
    | data bytes =>
      obtain ⟨f', hget', hcontent, -, -⟩ := Directory.write_get hget sys.now (sys.taken j bytes) hoff
      have hpart : writePart sys j (.data bytes) s =
          (⟨{ s.trace with ohandle := .file i (off + (sys.taken j bytes).length) },
            s.files.write sys.now i off (sys.taken j bytes)⟩, decide ((bytes.length : ℤ) ≤ sys.writes j)) := by
        unfold writePart
        rw [hhandle]
      have hlen := length_overwrite_eq_max (sys.taken j bytes) hoff
      have htake : f'.content.take (off + (sys.taken j bytes).length) =
          f.content.take off ++ sys.taken j bytes := by
        have hfront : (f.content.take off ++ sys.taken j bytes).length = off + (sys.taken j bytes).length := by
          rw [length_append, length_take, Nat.min_eq_left hoff]
        rw [hcontent, overwrite, take_left' hfront]
      rw [hpart]
      dsimp only
      by_cases hall : (bytes.length : ℤ) ≤ sys.writes j
      · have htaken : sys.taken j bytes = bytes := take_of_length_le (by omega)
        rw [if_pos (decide_eq_true hall)]
        rw [htaken] at hget' htake hlen hcontent ⊢
        obtain ⟨written, f'', htrace, hget'', hprefix', hle, hpre, hstores, hwrites⟩ :=
          @ih ⟨{ s.trace with ohandle := .file i (off + bytes.length) }, s.files.write sys.now i off bytes⟩
            (j + 1) (off + bytes.length) f' rfl hget' (by rw [hcontent]; omega)
        refine ⟨bytes ++ written, f'', ?_, hget'', ?_, ?_, ?_, ?_, ?_⟩
        · rw [htrace, length_append, Nat.add_assoc]
        · rw [length_append, ← Nat.add_assoc, hprefix', htake, append_assoc]
        · rw [length_append]
          omega
        · exact (prefix_append_right_inj bytes).mpr hpre
        · unfold StoresAll
          rw [if_pos hall]
          exact (append_right_inj bytes).trans hstores
        · unfold WritesAll
          rw [hwrites, and_iff_right hall]
      · rw [if_neg (by simpa using hall)]
        refine ⟨sys.taken j bytes, f', rfl, hget', htake, by rw [hcontent]; omega, ?_, ?_, ?_⟩
        · exact (List.take_prefix _ _).trans (prefix_append bytes _)
        · unfold StoresAll
          rw [if_neg hall]
          constructor
          · intro heq
            have hlength : (bytes.take (sys.writes j).toNat).length = (bytes ++ partsBytes parts).length :=
              congrArg List.length heq
            rw [length_append, length_take] at hlength
            exact ⟨eq_nil_of_length_eq_zero (by omega), eq_nil_of_length_eq_zero (by omega)⟩
          · rintro ⟨rfl, hrest⟩
            rw [hrest]
            exact take_nil
        · unfold WritesAll
          exact iff_of_false (show ¬ dltReturnError = dltReturnOk by decide) fun h => hall h.1

theorem stored_iff {s' : OfflineState} {i off : ℕ} {f f' : File (List UInt8) UInt8} {written : List UInt8}
    (hbegin : writeBegin s call = off) (hhandle : s'.trace.ohandle = .file i (off + written.length))
    (hget : s'.files[i]? = some f')
    (hcontent : f'.content.take (off + written.length) = f.content.take off ++ written) (hoff : off ≤ f.content.length)
    (hpre : written <+: call.bytes) : Stored s s' call ↔ written = call.bytes := by
  have hfront : (f.content.take off).length = off := by rw [length_take, Nat.min_eq_left hoff]
  have hwritten : (f'.content.drop off).take written.length = written := by
    have hdrop := congrArg (drop off) hcontent
    rw [drop_take, Nat.add_sub_cancel_left, drop_left' hfront] at hdrop
    exact hdrop
  unfold Stored
  rw [hbegin]
  constructor
  · rintro (hempty | ⟨i', content, hhandle', -, -⟩)
    · rw [hempty] at hpre ⊢
      exact prefix_nil.mp hpre
    · obtain ⟨-, hlen⟩ := OHandle.file.inj (hhandle.symm.trans hhandle')
      exact hpre.eq_of_length (by omega)
  · rintro rfl
    exact .inr ⟨i, f'.content, hhandle, by rw [Directory.contentAt, hget]; rfl, hwritten⟩

end write

/-! ## Opening -/

section usable

variable {sys : TraceSystem} {s : OfflineState} {call : TraceCall}

theorem length_nextIndexName (sys : TraceSystem) (files : TraceFiles) : (nextIndexName sys files).length = 31 := by
  unfold nextIndexName
  dsimp only
  generalize (dltOfflineTraceGetIdxOfLogFile (dltOfflineTraceStorageDirInfo sys files
    offlinetraceFilenameBase).2.1 + 1 : ℤ) = number
  have hlt : u32 number < 10 ^ 10 := by
    unfold u32
    omega
  have hdecimal : (printDecimal (u32 number)).length ≤ 10 := by
    unfold printDecimal
    rw [if_neg (by omega), nil_append, length_map, Int.natAbs_natCast]
    exact Nat.toDigits_length 10 _ 10 (by decide) hlt
  have hpadded : (printPadded 10 (u32 number)).length = 10 := by
    unfold printPadded
    rw [length_append, length_replicate]
    omega
  have hbase : offlinetraceFilenameBase.length = 16 := by decide
  have hext : offlinetraceFilenameExt.length = 4 := by decide
  have hdot : (ascii ".").length = 1 := by decide
  unfold dltOfflineTraceFileName
  rw [length_append, length_append, length_append, hbase, hext, hdot, hpadded]

theorem pathTooLong_nextName (h : ∀ name : List UInt8, name.length = 31 → pathTooLong s.trace name = false)
    (s' : OfflineState) (hdirectory : s'.trace.directory = s.trace.directory)
    (hbased : s'.trace.filenameTimestampBased = s.trace.filenameTimestampBased) :
    pathTooLong s'.trace (nextName sys s') = false := by
  by_cases htimestamp : s.trace.filenameTimestampBased = true
  · unfold pathTooLong
    rw [hbased, htimestamp]
    rfl
  · have hname : (nextName sys s').length = 31 := by
      unfold nextName
      rw [hbased, if_neg htimestamp]
      exact length_nextIndexName sys s'.files
    have hpath := h _ hname
    unfold pathTooLong at hpath ⊢
    rw [hdirectory, hbased]
    exact hpath

theorem createNewFile_cases (hpath : pathTooLong s.trace (nextName sys s) = false) :
    (sys.opens = true ∧ ∃ i f name, (dltOfflineTraceCreateNewFile sys s).1.trace =
        { s.trace with filename := name, ohandle := .file i 0 } ∧
        (dltOfflineTraceCreateNewFile sys s).1.files[i]? = some f) ∨
      sys.opens = false ∧ (dltOfflineTraceCreateNewFile sys s).1.trace.ohandle = .closed := by
  unfold dltOfflineTraceCreateNewFile
  dsimp only
  rw [if_neg (by rw [hpath]; decide)]
  cases hopens : sys.opens with
  | true =>
    obtain ⟨f, hget, -⟩ := Directory.openCreate_get s.files sys.now (nextName sys s)
    rw [if_pos rfl]
    exact .inl ⟨rfl, _, f, _, rfl, hget⟩
  | false =>
    rw [if_neg Bool.false_ne_true]
    exact .inr ⟨rfl, rfl⟩

/-- The check of the size is undefined exactly if it deletes from a directory that cannot be opened. -/
theorem checkSize_isSome_iff : (dltOfflineTraceCheckSize sys s).isSome = true ↔ ListsFiles sys s := by
  unfold dltOfflineTraceCheckSize ListsFiles
  by_cases haccessible : sys.accessible = true
  · rw [if_pos haccessible, isSome_map, checkSizeLoop_isSome_iff (Nat.lt_succ_self _)]
    exact ⟨fun h _ => h, fun h => h haccessible⟩
  · rw [if_neg haccessible]
    exact iff_of_true rfl fun h => absurd h haccessible

theorem checkSize_trace {s' : OfflineState} {ret : ℤ} (h : dltOfflineTraceCheckSize sys s = some (s', ret)) :
    s'.trace = s.trace := by
  unfold dltOfflineTraceCheckSize at h
  split_ifs at h
  · obtain ⟨checked, -, heq⟩ := map_eq_some_iff.mp h
    obtain ⟨rfl, -⟩ := Prod.mk.inj heq
    rfl
  · obtain ⟨rfl, -⟩ := Prod.mk.inj (Option.some.inj h)
    rfl

theorem changeFile_of_not_lists (h : ¬ ListsFiles sys s) : changeFile sys s = none := by
  unfold changeFile
  rw [map_eq_none_iff, ← not_isSome_iff_eq_none, checkSize_isSome_iff]
  exact h

/-- The file is changed if a new one can be opened, and else none is open. -/
theorem changeFile_cases (h : Usable s) (hlists : ListsFiles sys s) :
    ∃ s₁, changeFile sys s = some s₁ ∧
      ((sys.opens = true ∧ ∃ i f name, s₁.trace = { s.trace with filename := name, ohandle := .file i 0 } ∧
          s₁.files[i]? = some f) ∨
        sys.opens = false ∧ s₁.trace.ohandle = .closed) := by
  obtain ⟨⟨s', ret⟩, hchecked⟩ := isSome_iff_exists.mp (@checkSize_isSome_iff sys
    { s with trace := { s.trace with ohandle := .closed } } |>.mpr hlists)
  have htrace := checkSize_trace hchecked
  unfold changeFile
  rw [hchecked, map_some]
  refine ⟨_, rfl, ?_⟩
  have hpath : pathTooLong s'.trace (nextName sys s') = false := by
    apply pathTooLong_nextName h.path s'
    · rw [htrace]
    · rw [htrace]
  rcases createNewFile_cases hpath with ⟨hopens, i, f, name, htrace', hget⟩ | hfails
  · rw [htrace] at htrace'
    exact .inl ⟨hopens, i, f, name, htrace', hget⟩
  · exact .inr hfails

/-! ## One call -/

theorem write_eq (hne : ¬ s.trace.ohandle = .closed) (call : TraceCall) :
    dltOfflineTraceWrite call.sys call.data1 call.data2 call.data3 s =
      if fileIsFull call.sys s.trace call.size then (changeFile call.sys s).map (writeParts call.sys 0 (parts call))
      else some (writeParts call.sys 0 (parts call) s) :=
  if_neg hne

theorem Usable.not_closed (h : Usable s) : ¬ s.trace.ohandle = .closed := by
  obtain ⟨i, off, f, hhandle, -, -⟩ := h.handle
  rw [hhandle]
  exact fun heq => OHandle.noConfusion heq

theorem writeParts_usable {s₁ : OfflineState} {i off : ℕ} {f : File (List UInt8) UInt8} {name : List UInt8}
    (hpath : ∀ name : List UInt8, name.length = 31 → pathTooLong s.trace name = false)
    (htrace : s₁.trace = { s.trace with filename := name, ohandle := .file i off }) (hget : s₁.files[i]? = some f)
    (hoff : off ≤ f.content.length) (hbegin : writeBegin s call = off) :
    Usable (writeParts call.sys 0 (parts call) s₁).1 ∧
      (Stored s (writeParts call.sys 0 (parts call) s₁).1 call ↔ StoresAll call.sys 0 (parts call)) ∧
      ((writeParts call.sys 0 (parts call) s₁).2 = dltReturnOk ↔ WritesAll call.sys 0 (parts call)) := by
  have hhandle : s₁.trace.ohandle = .file i off := by rw [htrace]
  obtain ⟨written, f', htrace', hget', hcontent, hle, hpre, hstores, hwrites⟩ :=
    @writeParts_file call.sys s₁ (parts call) 0 i off f hhandle hget hoff
  have hhandle' : (writeParts call.sys 0 (parts call) s₁).1.trace.ohandle = .file i (off + written.length) := by
    rw [htrace']
  refine ⟨⟨⟨i, _, f', hhandle', hget', hle⟩, ?_⟩, ?_, hwrites⟩
  · intro name' hname'
    have hshort := hpath name' hname'
    unfold pathTooLong at hshort ⊢
    rw [htrace', htrace]
    exact hshort
  · exact (stored_iff hbegin hhandle' hget' hcontent hoff hpre).trans hstores

/-- **A call that has its file** tells the truth as far as its writes do, and leaves a file open. -/
theorem write_of_opens (h : Usable s)
    (hopens : fileIsFull call.sys s.trace call.size = true → ListsFiles call.sys s ∧ call.sys.opens = true) :
    ∃ s' ret, dltOfflineTraceWrite call.sys call.data1 call.data2 call.data3 s = some (s', ret) ∧ Usable s' ∧
      (Stored s s' call ↔ StoresAll call.sys 0 (parts call)) ∧
      (ret = dltReturnOk ↔ WritesAll call.sys 0 (parts call)) := by
  obtain ⟨i, off, f, hhandle, hget, hoff⟩ := h.handle
  by_cases hfull : fileIsFull call.sys s.trace call.size = true
  · obtain ⟨hlists, hopens⟩ := hopens hfull
    obtain ⟨s₁, hchange, ⟨-, i₁, f₁, name, htrace, hget₁⟩ | ⟨hfails, -⟩⟩ := changeFile_cases h hlists
    · have hwrite : dltOfflineTraceWrite call.sys call.data1 call.data2 call.data3 s =
          some (writeParts call.sys 0 (parts call) s₁) := by
        rw [write_eq h.not_closed, if_pos hfull, hchange]
        rfl
      exact ⟨_, _, hwrite, writeParts_usable h.path htrace hget₁ (Nat.zero_le _) (if_pos hfull)⟩
    · cases hfails.symm.trans hopens
  · have hwrite : dltOfflineTraceWrite call.sys call.data1 call.data2 call.data3 s =
        some (writeParts call.sys 0 (parts call) s) := by
      rw [write_eq h.not_closed, if_neg hfull]
    have hbegin : writeBegin s call = off := by
      unfold writeBegin
      rw [if_neg hfull, hhandle]
    have htrace : s.trace = { s.trace with filename := s.trace.filename, ohandle := .file i off } := by rw [← hhandle]
    exact ⟨_, _, hwrite, writeParts_usable h.path htrace hget hoff hbegin⟩

theorem writeStep_of_not_opens (h : Usable s) (hfull : fileIsFull call.sys s.trace call.size = true)
    (hlists : ListsFiles call.sys s) (hopens : call.sys.opens = false) :
    (writeStep s call).trace.ohandle = .closed := by
  obtain ⟨s₁, hchange, ⟨hcan, -⟩ | ⟨-, hclosed⟩⟩ := changeFile_cases h hlists
  · cases hopens.symm.trans hcan
  · have hidle : ∀ parts j, (writeParts call.sys j parts s₁).1 = s₁ := by
      intro parts
      induction parts with
      | nil => exact fun _ => rfl
      | cons part parts ih =>
        intro j
        unfold writeParts writePart
        rw [hclosed]
        cases part with
        | null size => exact ih (j + 1)
        | data bytes => exact ih (j + 1)
    unfold writeStep
    rw [write_eq h.not_closed, if_pos hfull, hchange, map_some, map_some, getD_some, hidle]
    exact hclosed

/-! ## Recovering -/

theorem writeStep_of_opens (h : Usable s)
    (hopens : fileIsFull call.sys s.trace call.size = true → ListsFiles call.sys s ∧ call.sys.opens = true) :
    Usable (writeStep s call) ∧ (Stored s (writeStep s call) call ↔ StoresAll call.sys 0 (parts call)) := by
  obtain ⟨s', ret, hwrite, husable, hstored, -⟩ := write_of_opens h hopens
  have hstep : writeStep s call = s' := by
    unfold writeStep
    rw [hwrite]
    rfl
  rw [hstep]
  exact ⟨husable, hstored⟩

theorem storesAll_of_writes {parts : List TracePart} {j size : ℕ} (hsize : partsSize parts ≤ size)
    (hwrites : ∀ j, (size : ℤ) ≤ sys.writes j) : StoresAll sys j parts := by
  induction parts generalizing j with
  | nil => trivial
  | cons part parts ih =>
    unfold partsSize at hsize ih
    rw [map_cons, sum_cons] at hsize
    cases part with
    | null n => exact ih (by omega)
    | data bytes =>
      have hbytes : (bytes.length : ℤ) ≤ sys.writes j := by
        have := hwrites j
        change bytes.length + _ ≤ size at hsize
        omega
      unfold StoresAll
      rw [if_pos hbytes]
      exact ih (by omega)

theorem WritesAll.storesAll {parts : List TracePart} {j : ℕ} (h : WritesAll sys j parts) : StoresAll sys j parts := by
  induction parts generalizing j with
  | nil => trivial
  | cons part parts ih =>
    cases part with
    | null size => exact ih h
    | data bytes =>
      unfold StoresAll
      rw [if_pos h.1]
      exact ih h.2

/-- **A trace with an open file recovers at once.** -/
theorem recovers_of_usable (h : Usable s) : Recovers s := by
  intro later hlater
  refine ⟨0, ?_⟩
  have hsucceeds := (hlater 0).1
  obtain ⟨-, hstored⟩ := @writeStep_of_opens _ (later 0) h fun _ =>
    ⟨fun _ => listsAll_of_opens hsucceeds.opensToDelete, hsucceeds.opens⟩
  exact hstored.mpr (storesAll_of_writes (Nat.le_refl _) (hlater 0).1.writes)

/-- **A trace without an open file never does.** -/
theorem not_recovers_of_closed (h : s.trace.ohandle = .closed) : ¬ Recovers s := by
  intro hrecovers
  let call : TraceCall := ⟨calmSystem 0 [], .data [1], .null 0, .null 0⟩
  have hcall : Succeeds call ∧ call.bytes ≠ [] :=
    ⟨⟨rfl, rfl, fun _ => rfl, fun _ => rfl, fun _ => rfl, rfl, fun _ => (show (1 : ℤ) ≤ 2147483647 by decide)⟩,
      by decide⟩
  have hstays : ∀ n, after (fun _ => call) s n = s := by
    intro n
    induction n with
    | zero => rfl
    | succ n ih =>
      rw [after, ih]
      unfold writeStep dltOfflineTraceWrite
      dsimp only
      rw [if_pos h]
      rfl
  obtain ⟨n, hstored⟩ := hrecovers (fun _ => call) fun _ => hcall
  rw [hstays, hstays] at hstored
  rcases hstored with hempty | ⟨i, content, hhandle, -⟩
  · exact hcall.2 hempty
  · rw [h] at hhandle
    cases hhandle

/-! ## Runs -/

/-- **One call**: it is right exactly when it keeps the trace. -/
theorem right_iff_keepsTrace (h : Usable s) (call : TraceCall) : Right s call ↔ KeepsTrace s call := by
  unfold Right KeepsTrace
  by_cases hopens : fileIsFull call.sys s.trace call.size = true → ListsFiles call.sys s ∧ call.sys.opens = true
  · obtain ⟨s', ret, hwrite, husable, hstored, hret⟩ := write_of_opens h hopens
    have hrecovers := recovers_of_usable (writeStep_of_opens h hopens).1
    have htruthful : Truthful s call ↔ (StoresAll call.sys 0 (parts call) → WritesAll call.sys 0 (parts call)) := by
      constructor
      · rintro ⟨s'', ret', hwrite', hiff⟩ hstores
        obtain ⟨rfl, rfl⟩ := Prod.mk.inj (Option.some.inj (hwrite.symm.trans hwrite'))
        exact hret.mp (hiff.mpr (hstored.mpr hstores))
      · intro hwrites
        exact ⟨s', ret, hwrite, fun hok => hstored.mpr (WritesAll.storesAll (hret.mp hok)),
          fun hstores => hret.mpr (hwrites (hstored.mp hstores))⟩
    rw [htruthful]
    exact ⟨fun hright => ⟨hopens, hright.1⟩, fun hkeeps => ⟨hkeeps.2, hrecovers⟩⟩
  · refine iff_of_false ?_ fun hkeeps => hopens hkeeps.1
    obtain ⟨hfull, hfails⟩ := Classical.not_imp.mp hopens
    rintro ⟨⟨s', ret, hwrite, -⟩, hrecovers⟩
    by_cases hlists : ListsFiles call.sys s
    · have hnot : call.sys.opens = false := Bool.eq_false_iff.mpr fun hopens => hfails ⟨hlists, hopens⟩
      exact not_recovers_of_closed (writeStep_of_not_opens h hfull hlists hnot) hrecovers
    · rw [write_eq h.not_closed, if_pos hfull, changeFile_of_not_lists hlists] at hwrite
      cases hwrite

theorem pathTooLong_of_length {trace : DltOfflineTrace} {name name' : List UInt8}
    (hlength : name'.length = name.length) : pathTooLong trace name' = pathTooLong trace name := by
  unfold pathTooLong
  rw [hlength]

theorem Begun.usable (h : Begun s) : Usable s := by
  obtain ⟨sys, directory, fileSize, maxSize, timestampBased, files, hinit⟩ := h
  unfold dltOfflineTraceInit at hinit
  obtain ⟨⟨s₁, ret⟩, -, hinit⟩ := map_eq_some_iff.mp hinit
  have hstate := congrArg Prod.fst hinit
  have hok := congrArg Prod.snd hinit
  dsimp only at hstate hok
  have hpath : pathTooLong s₁.trace (nextName sys s₁) = false := by
    by_contra hlong
    unfold dltOfflineTraceCreateNewFile at hok
    rw [if_pos (by simpa using hlong)] at hok
    cases hok
  rcases createNewFile_cases hpath with ⟨-, i, f, name, hcreated, hget⟩ | ⟨hfails, -⟩
  · rw [hstate] at hcreated hget
    refine ⟨⟨i, 0, f, by rw [hcreated], hget, Nat.zero_le _⟩, fun name' hname' => ?_⟩
    rw [hcreated]
    change pathTooLong s₁.trace name' = false
    by_cases hbased : s₁.trace.filenameTimestampBased = true
    · unfold pathTooLong
      rw [hbased]
      rfl
    · have hnext : (nextName sys s₁).length = 31 := by
        unfold nextName
        rw [if_neg hbased]
        exact length_nextIndexName sys s₁.files
      rw [pathTooLong_of_length (hname'.trans hnext.symm)]
      exact hpath
  · unfold dltOfflineTraceCreateNewFile at hok
    rw [if_neg (by rw [hpath]; decide), if_neg (by rw [hfails]; decide)] at hok
    cases hok

/-- **The calls tell the truth and the trace recovers** along a run exactly when every call keeps the trace. -/
theorem trace_truthful_iff (h : Begun s) (calls : List TraceCall) :
    AlongRun writeStep Right s calls ↔ AlongRun writeStep KeepsTrace s calls := by
  apply @AlongRun.iff_of_step _ _ _ _ _ Usable
  · exact fun s call husable => right_iff_keepsTrace husable call
  · intro s call husable hright
    exact (writeStep_of_opens husable ((right_iff_keepsTrace husable call).mp hright).1).1
  · exact h.usable

end usable

/-! ## Samples -/

/-- A trace with an empty file. -/
def begunState : OfflineState :=
  ⟨⟨ascii "/tmp", timestampName (ascii "20200101_000000"), 4, 100, true, .file 0 0⟩,
    [⟨timestampName (ascii "20200101_000000"), true, [], 1000⟩]⟩

theorem begunState_begun : Begun begunState :=
  ⟨calmSystem 1000 (ascii "20200101_000000"), ascii "/tmp", 4, 100, true, [], by decide +kernel⟩

theorem trace_truthful_two : AlongRun writeStep Right begunState
    (List.replicate 2 ⟨calmSystem 1001 (ascii "20200101_000001"), .data [1], .null 0, .null 0⟩) :=
  (trace_truthful_iff begunState_begun _).mpr
    ⟨⟨fun _ => ⟨fun _ => listsAll_of_opens fun _ => rfl, rfl⟩, fun _ => ⟨by decide, trivial⟩⟩,
      ⟨fun _ => ⟨fun _ => listsAll_of_opens fun _ => rfl, rfl⟩, fun _ => ⟨by decide, trivial⟩⟩, trivial⟩

/-- The new file cannot be opened: nothing is stored from there on. -/
theorem trace_not_truthful : Begun begunState ∧ ¬ AlongRun writeStep Right begunState
    [⟨{ calmSystem 1001 (ascii "20200101_000001") with opens := false }, .data [1, 2, 3, 4], .null 0, .null 0⟩] := by
  refine ⟨begunState_begun, ?_⟩
  rintro ⟨⟨-, hrecovers⟩, -⟩
  exact not_recovers_of_closed (by decide +kernel) hrecovers

end Dlt.Shared.TraceTruth
