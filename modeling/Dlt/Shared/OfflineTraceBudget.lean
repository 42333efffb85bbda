import Dlt.Shared.OfflineTrace

/-!
# The budget of the offline trace

* `OldestFile.Picked`, `deleteOldest_spec` — a file of the trace is deleted, if there is one.
* `trace_within_budget` — **the files of the trace never exceed the limit for all files**.
-/

namespace Dlt.Shared

open Dlt.Lib List Directory

variable {f : File (List UInt8) UInt8} {i off : ℕ}

/-! ## Deleting a file -/

section delete

variable {sys : TraceSystem} {k : ℕ} {files : TraceFiles}

variable (sys k) in
theorem mem_readdir : f ∈ readdir sys k files ↔ f ∈ files.listed :=
  (perm_insertionSort _ _).mem_iff

def OldestFile.Picked (oldest : OldestFile) (f : File (List UInt8) UInt8) : Prop :=
  isTraceName f.name = true ∧ oldest = ⟨some f.name, f.content.length, f.mtime⟩

/-- A turn of the loop leaves what it has, or picks the file that it is at. -/
theorem oldestFileStep_cases (oldest : OldestFile) (f : File (List UInt8) UInt8) :
    oldestFileStep oldest f = oldest ∨ (oldestFileStep oldest f).Picked f := by
  unfold oldestFileStep
  split_ifs with hname htime
  · exact .inr ⟨hname, rfl⟩
  · exact .inl rfl
  · exact .inl rfl

/-- The loop leaves what it has, or picks a file that it goes through. -/
theorem foldl_oldestFileStep_cases (fs : List (File (List UInt8) UInt8)) (oldest : OldestFile) :
    fs.foldl oldestFileStep oldest = oldest ∨ ∃ f ∈ fs, (fs.foldl oldestFileStep oldest).Picked f := by
  induction fs generalizing oldest with
  | nil => exact .inl rfl
  | cons f fs ih =>
    rw [foldl_cons]
    rcases ih (oldestFileStep oldest f) with heq | ⟨g, hg, hpicked⟩
    · rw [heq]
      rcases oldestFileStep_cases oldest f with hsame | hpicked
      · exact .inl hsame
      · exact .inr ⟨f, mem_cons_self, hpicked⟩
    · exact .inr ⟨g, mem_cons_of_mem f hg, hpicked⟩

theorem foldl_oldestFileStep_picks (fs : List (File (List UInt8) UInt8)) (hf : f ∈ fs)
    (hname : isTraceName f.name = true) : ∃ g ∈ fs, (fs.foldl oldestFileStep ⟨none, 0, 0⟩).Picked g := by
  induction fs with
  | nil => exact absurd hf not_mem_nil
  | cons g fs ih =>
    rw [foldl_cons]
    by_cases hg : isTraceName g.name = true
    · have hstep : oldestFileStep ⟨none, 0, 0⟩ g = ⟨some g.name, g.content.length, g.mtime⟩ := by
        unfold oldestFileStep
        rw [if_pos hg, if_pos (.inl rfl)]
      rw [hstep]
      rcases foldl_oldestFileStep_cases fs ⟨some g.name, g.content.length, g.mtime⟩ with heq | ⟨a, ha, hpicked⟩
      · rw [heq]
        exact ⟨g, mem_cons_self, hg, rfl⟩
      · exact ⟨a, mem_cons_of_mem g ha, hpicked⟩
    · have hstep : oldestFileStep ⟨none, 0, 0⟩ g = ⟨none, 0, 0⟩ := if_neg hg
      rw [hstep]
      rcases mem_cons.mp hf with rfl | hf
      · exact absurd hname hg
      · obtain ⟨a, ha, hpicked⟩ := ih hf
        exact ⟨a, mem_cons_of_mem g ha, hpicked⟩

theorem deleteOldest_cases (sys : TraceSystem) (k : ℕ) (files : TraceFiles) :
    deleteOldest sys k files = (files, -1) ∨
      ∃ f ∈ files.listed, isTraceName f.name = true ∧
        deleteOldest sys k files = (files.unlink f.name, i32 f.content.length) := by
  unfold deleteOldest
  dsimp only
  rcases foldl_oldestFileStep_cases (readdir sys k files) ⟨none, 0, 0⟩ with heq | ⟨f, hf, hname, heq⟩
  · rw [heq]
    exact .inl rfl
  · rw [heq]
    dsimp only
    split_ifs
    · exact .inr ⟨f, (mem_readdir sys k).mp hf, hname, rfl⟩
    · exact .inl rfl

theorem deleteOldest_spec (hremoves : sys.removes k = true) (hf : f ∈ files.listed)
    (hname : isTraceName f.name = true) :
    ∃ g ∈ files.listed, isTraceName g.name = true ∧
      deleteOldest sys k files = (files.unlink g.name, i32 g.content.length) := by
  obtain ⟨g, hg, hgname, heq⟩ := foldl_oldestFileStep_picks _ ((mem_readdir sys k).mpr hf) hname
  refine ⟨g, (mem_readdir sys k).mp hg, hgname, ?_⟩
  unfold deleteOldest
  rw [heq]
  exact if_pos hremoves

end delete

/-! ## The loop -/

variable {files : TraceFiles}

theorem exists_of_total_pos (h : 0 < files.total isTraceName) :
    ∃ f ∈ files.listed, isTraceName f.name = true := by
  unfold Directory.total stored at h
  cases hkind : files.ofKind isTraceName with
  | nil =>
    rw [hkind] at h
    exact absurd h (Nat.lt_irrefl 0)
  | cons f fs =>
    have hf : f ∈ files.ofKind isTraceName := by rw [hkind]; exact mem_cons_self
    exact ⟨f, (mem_filter.mp hf).1, (mem_filter.mp hf).2⟩

/-- The files of the trace are smaller than `2^31` bytes. -/
def SmallFiles (files : TraceFiles) : Prop :=
  ∀ f ∈ files.listed, isTraceName f.name = true → f.content.length < 2147483648

theorem SmallFiles.unlink (h : SmallFiles files) (name : List UInt8) :
    SmallFiles (files.unlink name) := by
  intro f hf
  rw [listed_unlink] at hf
  exact h f (mem_filter.mp hf).1

/-- The directory can be read and its files can be deleted. -/
structure TraceSystem.CanDelete (sys : TraceSystem) : Prop where
  accessible : sys.accessible = true
  opensToCount : ∀ k, sys.opensToCount k = true
  opensToDelete : ∀ k, sys.opensToDelete k = true
  removes : ∀ k, sys.removes k = true

/-- **The loop comes to its end** after no more tests than there are files, and one, and what it leaves is
below the limit. -/
theorem checkSizeLoop_spec {sys : TraceSystem} (hsys : sys.CanDelete) {limit : ℤ} (hlimit : 0 ≤ limit) {tests : ℕ}
    (k : ℕ) (hfiles : SmallFiles files) (htests : files.listed.length < tests) :
    ∃ files', checkSizeLoop sys limit tests k files = some (files', dltReturnOk) ∧ SmallFiles files' ∧
      (files'.total isTraceName : ℤ) ≤ limit := by
  induction tests generalizing k files with
  | zero => exact absurd htests (Nat.not_lt_zero _)
  | succ tests ih =>
    unfold checkSizeLoop dltOfflineTraceGetTotalSize dltOfflineTraceDeleteOldestFile
    rw [if_pos (hsys.opensToCount k), if_pos (hsys.opensToDelete k)]
    dsimp only [Option.bind_some]
    by_cases hover : limit < (files.total isTraceName : ℤ)
    · rw [if_pos hover]
      have hpos : 0 < files.total isTraceName := by omega
      obtain ⟨f, hf, hname⟩ := exists_of_total_pos hpos
      obtain ⟨g, hg, hgname, heq⟩ := deleteOldest_spec (hsys.removes k) hf hname
      have hsize := hfiles g hg hgname
      rw [heq, i32_natCast hsize, if_neg (by omega)]
      have hlt := length_listed_unlink_lt (has_iff.mpr ⟨g, hg, rfl⟩)
      apply ih (k + 1) (hfiles.unlink g.name)
      omega
    · rw [if_neg hover, if_neg (by omega)]
      exact ⟨files, rfl, hfiles, not_lt.mp hover⟩

/-! ## What holds between the calls -/

/-- The limits of a trace, and its files are small. -/
structure Limited (one all : ℤ) (s : OfflineState) : Prop where
  fileSize : s.trace.fileSize = one
  maxSize : s.trace.maxSize = all
  small : SmallFiles s.files

/-- A file is open, and the files exceed what is left to them by no more than the offset in it. -/
structure Writing (rest : ℤ) (i off : ℕ) (s : OfflineState) : Prop where
  ohandle : s.trace.ohandle = .file i off
  file : ∃ f, s.files[i]? = some f ∧ off ≤ f.content.length
  total : (s.files.total isTraceName : ℤ) ≤ rest + off

/-- What holds between the calls. -/
structure Budget (one all : ℤ) (s : OfflineState) : Prop extends Limited one all s where
  /-- No file is open, or one that can grow. -/
  handle : (∀ i off, s.trace.ohandle ≠ .file i off) ∧ (s.files.total isTraceName : ℤ) ≤ all - one ∨
    ∃ i off : ℕ, (off : ℤ) < one ∧ Writing (all - one) i off s

section budget

variable {fileSize maxSize : ℤ} {s : OfflineState} {sys : TraceSystem}

theorem Budget.total_le (h : Budget fileSize maxSize s) (hpos : 0 < fileSize) :
    (s.files.total isTraceName : ℤ) ≤ maxSize := by
  rcases h.handle with ⟨-, htotal⟩ | ⟨i, off, hoff, hwriting⟩
  · omega
  · have htotal := hwriting.total
    omega

theorem checkSize_limited (hsys : sys.CanDelete) (hle : fileSize ≤ maxSize) (h : Limited fileSize maxSize s) :
    ∃ files, dltOfflineTraceCheckSize sys s = some ({ s with files := files }, dltReturnOk) ∧
      Limited fileSize maxSize { s with files := files } ∧
        (files.total isTraceName : ℤ) ≤ maxSize - fileSize := by
  have hlimit : 0 ≤ maxSize - fileSize := by omega
  obtain ⟨files, heq, hsmall, htotal⟩ := checkSizeLoop_spec hsys hlimit 0 h.small (Nat.lt_succ_self _)
  refine ⟨files, ?_, ⟨h.fileSize, h.maxSize, hsmall⟩, htotal⟩
  unfold dltOfflineTraceCheckSize
  rw [if_pos hsys.accessible, h.fileSize, h.maxSize, heq]
  rfl

theorem SmallFiles.openCreate (h : SmallFiles files) (now : ℤ) (name : List UInt8) :
    SmallFiles (files.openCreate now name).1 := by
  cases hhas : files.has name with
  | true =>
    obtain ⟨i, f, heq, -⟩ := openCreate_of_has now hhas
    rw [heq]
    exact h
  | false =>
    rw [openCreate_of_not now hhas]
    intro f hf hname
    rw [listed_append] at hf
    rcases mem_append.mp hf with hf | hf
    · exact h f hf hname
    · obtain rfl := mem_singleton.mp (mem_listed.mp hf).1
      exact Nat.zero_lt_succ _

variable (sys) in
theorem createNewFile_budget (hpos : 0 < fileSize) (h : Limited fileSize maxSize s)
    (hclosed : ∀ i off, s.trace.ohandle ≠ .file i off)
    (htotal : (s.files.total isTraceName : ℤ) ≤ maxSize - fileSize) :
    Budget fileSize maxSize (dltOfflineTraceCreateNewFile sys s).1 := by
  obtain ⟨hfileSize, hmaxSize, hsmall⟩ := h
  unfold dltOfflineTraceCreateNewFile
  dsimp only
  split_ifs
  · exact ⟨⟨hfileSize, hmaxSize, hsmall⟩, .inl ⟨hclosed, htotal⟩⟩
  · refine ⟨⟨hfileSize, hmaxSize, hsmall.openCreate _ _⟩, .inr ?_⟩
    obtain ⟨f, hget, -⟩ := openCreate_get s.files sys.now (nextName sys s)
    refine ⟨_, 0, by omega, rfl, ⟨f, hget, Nat.zero_le _⟩, ?_⟩
    dsimp only
    rw [total_openCreate]
    omega
  · exact ⟨⟨hfileSize, hmaxSize, hsmall⟩, .inl ⟨fun i off => OHandle.noConfusion, htotal⟩⟩

theorem length_taken_le (sys : TraceSystem) (j : ℕ) (bytes : List UInt8) :
    (sys.taken j bytes).length ≤ bytes.length := by
  unfold TraceSystem.taken
  rw [length_take]
  exact Nat.min_le_right _ _

theorem SmallFiles.write (h : SmallFiles files) (now : ℤ) {data : List UInt8} (hget : files[i]? = some f)
    (hoff : off ≤ f.content.length) (hsize : off + data.length < 2147483648) :
    SmallFiles (files.write now i off data) := by
  by_cases hdata : data = []
  · rw [hdata, write_nil]
    exact h
  · rw [write_eq hget now hdata]
    intro g hg hname
    obtain ⟨hmem, hlinked⟩ := mem_listed.mp hg
    rcases mem_append.mp hmem with hmem | hmem
    · exact h g (mem_listed.mpr ⟨mem_of_mem_take hmem, hlinked⟩) hname
    · rcases mem_cons.mp hmem with rfl | hmem
      · have hold := h f (mem_listed.mpr ⟨mem_of_getElem? hget, hlinked⟩) hname
        rw [length_overwrite_eq_max _ hoff]
        omega
      · exact h g (mem_listed.mpr ⟨mem_of_mem_drop hmem, hlinked⟩) hname

variable (sys) in
/-- **One part**: the file that is open grows by no more than what is written. -/
theorem writePart_writing (hmax : fileSize < 2147483648) {part : TracePart} (j : ℕ) {rest : ℤ}
    (h : Limited fileSize maxSize s) (hwriting : Writing rest i off s) (hsize : (off + part.size : ℤ) < fileSize) :
    ∃ off', off' ≤ off + part.size ∧ Limited fileSize maxSize (writePart sys j part s).1 ∧
      Writing rest i off' (writePart sys j part s).1 := by
  cases part with
  | null size => exact ⟨off, Nat.le_add_right _ _, h, hwriting⟩
  | data bytes =>
    obtain ⟨hhandle, ⟨f, hget, hoff⟩, htotal⟩ := hwriting
    have hlen := length_taken_le sys j bytes
    have hpart : TracePart.size (.data bytes) = bytes.length := rfl
    unfold writePart
    rw [hhandle]
    dsimp only
    refine ⟨off + (sys.taken j bytes).length, by omega, ?_, rfl, ?_, ?_⟩
    · exact ⟨h.fileSize, h.maxSize, h.small.write sys.now hget hoff (by omega)⟩
    · obtain ⟨f', hget', hcontent, -⟩ := write_get hget sys.now (sys.taken j bytes) hoff
      refine ⟨f', hget', ?_⟩
      rw [hcontent, length_overwrite_eq_max _ hoff]
      exact Nat.le_max_right _ _
    · have hgrow := total_write_le hget sys.now (sys.taken j bytes) hoff isTraceName
      rw [length_overwrite_eq_max _ hoff] at hgrow
      dsimp only
      omega

variable (sys) in
/-- **The parts of a message**. -/
theorem writeParts_writing (hmax : fileSize < 2147483648) {parts : List TracePart} (j : ℕ) {rest : ℤ}
    (h : Limited fileSize maxSize s) (hwriting : Writing rest i off s)
    (hsize : (off + partsSize parts : ℤ) < fileSize) :
    ∃ off', off' ≤ off + partsSize parts ∧ Limited fileSize maxSize (writeParts sys j parts s).1 ∧
      Writing rest i off' (writeParts sys j parts s).1 := by
  induction parts generalizing j off s with
  | nil => exact ⟨off, Nat.le_add_right _ _, h, hwriting⟩
  | cons part parts ih =>
    have hcons : partsSize (part :: parts) = part.size + partsSize parts := sum_cons
    have hfits : (off + part.size : ℤ) < fileSize := by omega
    obtain ⟨off', hle, h', hwriting'⟩ := writePart_writing sys hmax j h hwriting hfits
    unfold writeParts
    dsimp only
    split_ifs
    · obtain ⟨off'', hle', hrest⟩ := ih (j + 1) h' hwriting' (by omega)
      exact ⟨off'', by omega, hrest⟩
    · exact ⟨off', by omega, h', hwriting'⟩

theorem writeParts_idle (hclosed : ∀ i off, s.trace.ohandle ≠ .file i off) (sys : TraceSystem) (j : ℕ)
    (parts : List TracePart) : (writeParts sys j parts s).1 = s := by
  induction parts generalizing j with
  | nil => rfl
  | cons part parts ih =>
    have hpart : (writePart sys j part s).1 = s := by
      unfold writePart
      cases part with
      | null size => rfl
      | data bytes =>
        cases hhandle : s.trace.ohandle with
        | closed => rfl
        | foreign => rfl
        | file i off => exact absurd hhandle (hclosed i off)
    unfold writeParts
    dsimp only
    rw [hpart]
    split_ifs
    · exact ih (j + 1)
    · rfl

theorem writeParts_budget (hmax : fileSize < 2147483648) {parts : List TracePart} (j : ℕ)
    (h : Budget fileSize maxSize s)
    (hsize : ∀ i off : ℕ, s.trace.ohandle = .file i off → (off + partsSize parts : ℤ) < fileSize) :
    Budget fileSize maxSize (writeParts sys j parts s).1 := by
  rcases h.handle with hidle | ⟨i, off, -, hwriting⟩
  · rw [writeParts_idle hidle.1]
    exact h
  · have hfits := hsize i off hwriting.ohandle
    obtain ⟨off', hle, h', hwriting'⟩ := writeParts_writing sys hmax j h.toLimited hwriting hfits
    exact ⟨h', .inr ⟨i, off', by omega, hwriting'⟩⟩

/-- **A new file is begun.** -/
theorem changeFile_budget (hpos : 0 < fileSize) (hle : fileSize ≤ maxSize) (hsys : sys.CanDelete)
    (h : Limited fileSize maxSize s) :
    ∃ s', changeFile sys s = some s' ∧ Budget fileSize maxSize s' ∧
      ∀ i off, s'.trace.ohandle = .file i off → off = 0 := by
  obtain ⟨files, heq, hlimited, htotal⟩ := checkSize_limited
    (s := { s with trace := { s.trace with ohandle := .closed } }) hsys hle ⟨h.fileSize, h.maxSize, h.small⟩
  have hclosed : ∀ i off, OHandle.closed ≠ OHandle.file i off := fun i off => OHandle.noConfusion
  unfold changeFile
  rw [heq]
  refine ⟨_, rfl, createNewFile_budget sys hpos hlimited hclosed htotal, ?_⟩
  intro i off
  unfold dltOfflineTraceCreateNewFile
  dsimp only
  split_ifs
  · exact fun h => h.elim
  · exact fun h => (OHandle.file.inj h).2.symm
  · exact fun h => h.elim

/-- **A write keeps what holds between the calls.** -/
theorem dltOfflineTraceWrite_budget (hpos : 0 < fileSize) (hle : fileSize ≤ maxSize) (hmax : fileSize < 2147483648)
    (hsys : sys.CanDelete) (h : Budget fileSize maxSize s) {data1 data2 data3 : TracePart}
    (hsize : (partsSize [data1, data2, data3] : ℤ) < fileSize) :
    ∃ s' ret, dltOfflineTraceWrite sys data1 data2 data3 s = some (s', ret) ∧ Budget fileSize maxSize s' := by
  unfold dltOfflineTraceWrite
  dsimp only
  split_ifs with hclosed hfull
  · exact ⟨s, _, rfl, h⟩
  · obtain ⟨s', heq, hbudget, hzero⟩ := changeFile_budget hpos hle hsys h.toLimited
    rw [heq]
    refine ⟨(writeParts sys 0 [data1, data2, data3] s').1, _, rfl, writeParts_budget hmax 0 hbudget ?_⟩
    intro i off hhandle
    rw [hzero i off hhandle]
    omega
  · refine ⟨(writeParts sys 0 [data1, data2, data3] s).1, _, rfl, writeParts_budget hmax 0 h ?_⟩
    intro i off hhandle
    unfold fileIsFull at hfull
    rw [decide_eq_true_iff, hhandle, h.fileSize, not_le] at hfull
    exact hfull

end budget

/-! ## Runs -/

/-- A call of `dlt_offline_trace_write`. -/
structure TraceCall where
  sys : TraceSystem
  data1 : TracePart
  data2 : TracePart
  data3 : TracePart

def TraceCall.size (call : TraceCall) : ℕ := partsSize [call.data1, call.data2, call.data3]

/-- Calls of `dlt_offline_trace_write`. There is no result if a call has none. -/
def traceWrites : List TraceCall → OfflineState → Option OfflineState
  | [], s => some s
  | call :: calls, s =>
    (dltOfflineTraceWrite call.sys call.data1 call.data2 call.data3 s).bind fun written =>
      traceWrites calls written.1

/-- A trace is initialised and messages are written. -/
def traceRun (sys : TraceSystem) (directory : List UInt8) (fileSize maxSize : ℤ) (filenameTimestampBased : Bool)
    (calls : List TraceCall) (files : TraceFiles) : Option OfflineState :=
  (dltOfflineTraceInit sys directory fileSize maxSize filenameTimestampBased ⟨.fresh, files⟩).bind fun created =>
    traceWrites calls created.1

section runs

variable {fileSize maxSize : ℤ}

theorem traceWrites_budget (hpos : 0 < fileSize) (hle : fileSize ≤ maxSize) (hmax : fileSize < 2147483648)
    {calls : List TraceCall} (hcalls : ∀ call ∈ calls, call.sys.CanDelete ∧ (call.size : ℤ) < fileSize)
    {s : OfflineState} (h : Budget fileSize maxSize s) :
    ∃ s', traceWrites calls s = some s' ∧ Budget fileSize maxSize s' := by
  induction calls generalizing s with
  | nil => exact ⟨s, rfl, h⟩
  | cons call calls ih =>
    obtain ⟨hsys, hsize⟩ := hcalls call mem_cons_self
    obtain ⟨s', ret, heq, h'⟩ := dltOfflineTraceWrite_budget hpos hle hmax hsys h hsize
    unfold traceWrites
    rw [heq]
    exact ih (fun c hc => hcalls c (mem_cons_of_mem call hc)) h'

/-- **The files of the trace never exceed the limit for all files**, and every loop that deletes files comes to
its end: behind the initialisation and behind any number of messages that are smaller than a file, for any
directory with files that are smaller than `2^31` bytes. -/
theorem trace_within_budget (hpos : 0 < fileSize) (hle : fileSize ≤ maxSize) (hmax : maxSize < 2147483648)
    {files : TraceFiles} (hfiles : SmallFiles files) {sys : TraceSystem} (hsys : sys.CanDelete)
    (directory : List UInt8) (filenameTimestampBased : Bool) {calls : List TraceCall}
    (hcalls : ∀ call ∈ calls, call.sys.CanDelete ∧ (call.size : ℤ) < fileSize) :
    ∃ s, traceRun sys directory fileSize maxSize filenameTimestampBased calls files = some s ∧
      (s.files.total isTraceName : ℤ) ≤ maxSize := by
  unfold traceRun dltOfflineTraceInit
  dsimp only
  obtain ⟨files', heq, hlimited, htotal⟩ := checkSize_limited (s := ⟨⟨directory.take 255, [], fileSize, maxSize,
    filenameTimestampBased, .foreign⟩, files⟩) hsys hle ⟨rfl, rfl, hfiles⟩
  have hidle : ∀ i off, OHandle.foreign ≠ OHandle.file i off := fun i off => OHandle.noConfusion
  have hbudget := createNewFile_budget sys hpos hlimited hidle htotal
  obtain ⟨s, hrun, h⟩ := traceWrites_budget hpos hle (by omega) hcalls hbudget
  refine ⟨s, ?_, h.total_le hpos⟩
  unfold DltOfflineTrace.fresh
  dsimp only
  rw [heq]
  exact hrun

/-- All calls succeed, at a local time. -/
def calmSystem (now : ℤ) (localtime : List UInt8) : TraceSystem where
  now := now
  localtime := localtime
  accessible := true
  scans := true
  opensToCount := fun _ => true
  opensToDelete := fun _ => true
  order := fun _ _ => 0
  removes := fun _ => true
  opens := true
  tell := 0
  writes := fun _ => 2147483647

theorem canDelete_calmSystem (now : ℤ) (localtime : List UInt8) : (calmSystem now localtime).CanDelete :=
  ⟨rfl, fun _ => rfl, fun _ => rfl, fun _ => rfl⟩

/-- A file of an earlier trace is deleted, and three messages fill two files. -/
theorem trace_within_budget_sample : ∃ s, traceRun (calmSystem 1000 (ascii "20200101_000000")) (ascii "/tmp") 4 8
      true (List.replicate 3 ⟨calmSystem 1000 (ascii "20200101_000000"), .data [1], .null 0, .data [2]⟩)
      [⟨ascii "dlt_offlinetrace_20190101_000000.dlt", true, List.replicate 9 0, 900⟩] = some s ∧
    (s.files.total isTraceName : ℤ) ≤ 8 := by
  refine trace_within_budget (by decide) (by decide) (by decide) ?_ (canDelete_calmSystem _ _) _ _ ?_
  · intro f hf _
    obtain rfl := mem_singleton.mp hf
    decide
  · intro call hcall
    obtain rfl := (mem_replicate.mp hcall).2
    exact ⟨canDelete_calmSystem _ _, by decide⟩

end runs

end Dlt.Shared
