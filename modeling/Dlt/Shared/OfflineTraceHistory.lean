import Dlt.Lib.Runs
import Dlt.Shared.OfflineTraceBudget

/-!
# What the offline trace keeps

* `trace_is_suffix` — **the files hold, in the order of their creation, the last bytes of the messages that
  were accepted**.
-/

namespace Dlt.Shared

open Dlt.Lib List Directory

variable {i off : ℕ} {parts : List TracePart}

/-! ## The file that is deleted -/

/-- A file of the trace, the first one created, is deleted before the files behind it. A time of zero counts
as no file. -/
def PickedFirst (sys : TraceSystem) (k : ℕ) (f : File (List UInt8) UInt8) (fs : List (File (List UInt8) UInt8)) :
    Prop :=
  if f.mtime = 0 then ∀ g ∈ fs, 0 ≤ g.mtime ∧ sys.order k g.name < sys.order k f.name
  else ∀ g ∈ fs, f.mtime < g.mtime ∨ f.mtime = g.mtime ∧ sys.order k f.name < sys.order k g.name

section picked

variable {sys : TraceSystem} {k : ℕ} {files : TraceFiles} {f : File (List UInt8) UInt8}
  {fs as bs : List (File (List UInt8) UInt8)}

theorem oldestFileStep_of_lt {oldest : OldestFile} (hname : isTraceName f.name = true)
    (htime : oldest.time = 0 ∨ f.mtime < oldest.time) :
    oldestFileStep oldest f = ⟨some f.name, f.content.length, f.mtime⟩ := by
  unfold oldestFileStep
  rw [if_pos hname, if_pos htime]

theorem foldl_oldestFileStep_stays {oldest : OldestFile}
    (h : ∀ g ∈ fs, isTraceName g.name = true → oldest.time ≠ 0 ∧ oldest.time ≤ g.mtime) :
    fs.foldl oldestFileStep oldest = oldest := by
  induction fs with
  | nil => rfl
  | cons g fs ih =>
    have hstep : oldestFileStep oldest g = oldest := by
      unfold oldestFileStep
      split_ifs with hname htime
      · obtain ⟨hne, hle⟩ := h g mem_cons_self hname
        rcases htime with hzero | hlt
        · exact absurd hzero hne
        · omega
      · rfl
      · rfl
    rw [foldl_cons, hstep]
    exact ih fun a ha => h a (mem_cons_of_mem g ha)

theorem pairwise_readdir (sys : TraceSystem) (k : ℕ) (files : TraceFiles) :
    (readdir sys k files).Pairwise fun f g => sys.order k f.name ≤ sys.order k g.name :=
  pairwise_insertionSort _ _

/-- **The file created first is deleted.** -/
theorem foldl_readdir_of_pickedFirst (hdistinct : files.Distinct) (hkind : files.ofKind isTraceName = f :: fs)
    (hpicked : PickedFirst sys k f fs) :
    (readdir sys k files).foldl oldestFileStep ⟨none, 0, 0⟩ = ⟨some f.name, f.content.length, f.mtime⟩ := by
  have hf : f ∈ files.listed ∧ isTraceName f.name = true := by
    apply mem_filter.mp
    unfold ofKind at hkind
    rw [hkind]
    exact mem_cons_self
  obtain ⟨as, bs, hsplit⟩ := append_of_mem ((mem_readdir sys k).mpr hf.1)
  have hnodup : ((readdir sys k files).map File.name).Nodup :=
    ((perm_insertionSort _ _).map File.name).nodup_iff.mpr hdistinct
  have horder := pairwise_readdir sys k files
  rw [hsplit] at hnodup horder ⊢
  obtain ⟨-, hafter, hbefore⟩ := pairwise_append.mp horder
  have hafter := (pairwise_cons.mp hafter).1
  have hother : ∀ g ∈ as ++ bs, isTraceName g.name = true → g ∈ fs := by
    intro g hg hname
    rw [map_append, map_cons, nodup_middle, nodup_cons, ← map_append] at hnodup
    have hlisted : g ∈ files.listed := by
      apply (mem_readdir sys k).mp
      rw [hsplit]
      rcases mem_append.mp hg with hg | hg
      · exact mem_append_left _ hg
      · exact mem_append_right _ (mem_cons_of_mem f hg)
    have hmem : g ∈ files.ofKind isTraceName := mem_filter.mpr ⟨hlisted, hname⟩
    rw [hkind] at hmem
    rcases mem_cons.mp hmem with rfl | hmem
    · exact absurd (mem_map_of_mem hg) hnodup.1
    · exact hmem
  have hfirst : ∀ g ∈ as, isTraceName g.name = true → g.mtime = 0 ∨ f.mtime < g.mtime := by
    intro g hg hname
    have hle := hbefore g hg f mem_cons_self
    unfold PickedFirst at hpicked
    split_ifs at hpicked with hzero
    · have hpos := (hpicked g (hother g (mem_append_left _ hg) hname)).1
      omega
    · rcases hpicked g (hother g (mem_append_left _ hg) hname) with hlt | ⟨-, hlt⟩
      · exact .inr hlt
      · omega
  have hstep : oldestFileStep (as.foldl oldestFileStep ⟨none, 0, 0⟩) f =
      ⟨some f.name, f.content.length, f.mtime⟩ := by
    apply oldestFileStep_of_lt hf.2
    rcases foldl_oldestFileStep_cases as ⟨none, 0, 0⟩ with heq | ⟨g, hg, hname, heq⟩
    · rw [heq]
      exact .inl rfl
    · rw [heq]
      exact hfirst g hg hname
  rw [foldl_append, foldl_cons, hstep]
  apply foldl_oldestFileStep_stays
  intro g hg hname
  have hle := hafter g hg
  have hmem := hother g (mem_append_right _ hg) hname
  unfold PickedFirst at hpicked
  split_ifs at hpicked with hzero
  · have hlt := (hpicked g hmem).2
    omega
  · refine ⟨hzero, ?_⟩
    rcases hpicked g hmem with hlt | ⟨heq, -⟩
    · exact hlt.le
    · exact heq.le

theorem deleteOldest_of_pickedFirst (hdistinct : files.Distinct) (hkind : files.ofKind isTraceName = f :: fs)
    (hpicked : PickedFirst sys k f fs) :
    deleteOldest sys k files =
      if sys.removes k then (files.unlink f.name, i32 f.content.length) else (files, -1) := by
  unfold deleteOldest
  rw [foldl_readdir_of_pickedFirst hdistinct hkind hpicked]

theorem deleteOldest_of_nil (hkind : files.ofKind isTraceName = []) :
    deleteOldest sys k files = (files, -1) := by
  rcases deleteOldest_cases sys k files with heq | ⟨f, hf, hname, -⟩
  · exact heq
  · have hmem : f ∈ files.ofKind isTraceName := mem_filter.mpr ⟨hf, hname⟩
    rw [hkind] at hmem
    exact absurd hmem not_mem_nil

end picked

/-! ## The loop that deletes files -/

/-- Every file that the loop deletes is the one created first, and `opendir` succeeds at the deletion. -/
def OldestFirst (sys : TraceSystem) (limit : ℤ) : ℕ → ℕ → TraceFiles → Prop
  | 0, _, _ => True
  | tests + 1, k, files =>
    limit < dltOfflineTraceGetTotalSize sys k files → sys.opensToDelete k = true ∧
      ∀ f ∈ (files.ofKind isTraceName).head?, PickedFirst sys k f (files.ofKind isTraceName).tail ∧
        (sys.removes k = true → 0 ≤ i32 f.content.length →
          OldestFirst sys limit tests (k + 1) (files.unlink f.name))

/-- The directory without the files created first that exceed the limit. -/
def dropOldest (sys : TraceSystem) (limit : ℤ) : ℕ → ℕ → TraceFiles → TraceFiles
  | 0, _, files => files
  | tests + 1, k, files =>
    match (files.ofKind isTraceName).head? with
    | none => files
    | some f =>
      if limit < dltOfflineTraceGetTotalSize sys k files ∧ sys.removes k = true then
        if i32 f.content.length < 0 then files.unlink f.name
        else dropOldest sys limit tests (k + 1) (files.unlink f.name)
      else files

section loop

variable {sys : TraceSystem} {limit : ℤ} {tests k : ℕ} {files : TraceFiles}

/-- `opendir` succeeds at every deletion that the loop comes to. -/
def ListsAll (sys : TraceSystem) (limit : ℤ) : ℕ → ℕ → TraceFiles → Prop
  | 0, _, _ => True
  | tests + 1, k, files =>
    limit < dltOfflineTraceGetTotalSize sys k files → sys.opensToDelete k = true ∧
      (0 ≤ (deleteOldest sys k files).2 → ListsAll sys limit tests (k + 1) (deleteOldest sys k files).1)

/-- **The loop comes to its end** after no more tests than there are files, and one, if every deletion can list the
files. -/
theorem checkSizeLoop_isSome_iff (htests : files.listed.length < tests) :
    (checkSizeLoop sys limit tests k files).isSome = true ↔ ListsAll sys limit tests k files := by
  induction tests generalizing k files with
  | zero => exact absurd htests (Nat.not_lt_zero _)
  | succ tests ih =>
    unfold checkSizeLoop ListsAll dltOfflineTraceDeleteOldestFile
    dsimp only
    by_cases hover : limit < dltOfflineTraceGetTotalSize sys k files
    swap
    · rw [if_neg hover]
      exact iff_of_true rfl fun h => absurd h hover
    by_cases hlists : sys.opensToDelete k = true
    swap
    · rw [if_pos hover, if_neg hlists]
      exact iff_of_false Bool.false_ne_true fun h => hlists (h hover).1
    rw [if_pos hover, if_pos hlists, Option.bind_some]
    by_cases hneg : (deleteOldest sys k files).2 < 0
    · rw [if_pos hneg]
      exact iff_of_true rfl fun _ => ⟨hlists, fun h => absurd h (not_le.mpr hneg)⟩
    · have hshorter : (deleteOldest sys k files).1.listed.length < tests := by
        rcases deleteOldest_cases sys k files with heq | ⟨f, hf, -, heq⟩
        · rw [heq] at hneg
          exact absurd (show (-1 : ℤ) < 0 by decide) hneg
        · rw [heq]
          have hlt := length_listed_unlink_lt (has_iff.mpr ⟨f, hf, rfl⟩)
          dsimp only
          omega
      rw [if_neg hneg, ih hshorter]
      exact ⟨fun h _ => ⟨hlists, fun _ => h⟩, fun h => (h hover).2 (not_lt.mp hneg)⟩

theorem listsAll_of_opens (h : ∀ k, sys.opensToDelete k = true) : ListsAll sys limit tests k files := by
  induction tests generalizing k files with
  | zero => trivial
  | succ tests ih => exact fun _ => ⟨h k, fun _ => ih⟩

/-- **The loop deletes the files created first.** -/
theorem checkSizeLoop_eq (hdistinct : files.Distinct) (hfirst : OldestFirst sys limit tests k files)
    (htests : files.listed.length < tests) :
    ∃ ret, checkSizeLoop sys limit tests k files = some (dropOldest sys limit tests k files, ret) := by
  induction tests generalizing k files with
  | zero => exact absurd htests (Nat.not_lt_zero _)
  | succ tests ih =>
    unfold checkSizeLoop dropOldest dltOfflineTraceDeleteOldestFile
    dsimp only
    by_cases hover : limit < dltOfflineTraceGetTotalSize sys k files
    swap
    · have hboth : ¬ (limit < dltOfflineTraceGetTotalSize sys k files ∧ sys.removes k = true) := fun h => hover h.1
      rw [if_neg hover]
      cases (files.ofKind isTraceName).head? with
      | none => exact ⟨_, rfl⟩
      | some f =>
        dsimp only
        rw [if_neg hboth]
        exact ⟨_, rfl⟩
    obtain ⟨hlists, hfirst⟩ := hfirst hover
    rw [if_pos hover, if_pos hlists, Option.bind_some]
    cases hkind : files.ofKind isTraceName with
    | nil =>
      rw [deleteOldest_of_nil hkind]
      exact ⟨_, rfl⟩
    | cons f fs =>
      have hf : f ∈ (files.ofKind isTraceName).head? := by rw [hkind]; rfl
      obtain ⟨hpicked, hnext⟩ := hfirst f hf
      rw [hkind] at hpicked
      rw [deleteOldest_of_pickedFirst hdistinct hkind hpicked]
      dsimp only [head?_cons]
      have hmem : f ∈ files.listed := by
        have hfilter : f ∈ files.ofKind isTraceName := by rw [hkind]; exact mem_cons_self
        exact (mem_filter.mp hfilter).1
      have hlt := length_listed_unlink_lt (has_iff.mpr ⟨f, hmem, rfl⟩)
      by_cases hremoves : sys.removes k = true
      · have hboth : limit < dltOfflineTraceGetTotalSize sys k files ∧ sys.removes k = true := ⟨hover, hremoves⟩
        rw [if_pos hremoves, if_pos hboth]
        dsimp only
        by_cases hneg : i32 f.content.length < 0
        · rw [if_pos hneg, if_pos hneg]
          exact ⟨_, rfl⟩
        · rw [if_neg hneg, if_neg hneg]
          exact ih (hdistinct.unlink f.name) (hnext hremoves (not_lt.mp hneg)) (by omega)
      · have hboth : ¬ (limit < dltOfflineTraceGetTotalSize sys k files ∧ sys.removes k = true) :=
          fun h => hremoves h.2
        rw [if_neg hremoves, if_neg hboth]
        exact ⟨_, rfl⟩

variable (sys limit tests k) in
theorem dropOldest_suffix (hdistinct : files.Distinct) :
    (dropOldest sys limit tests k files).Distinct ∧
      (dropOldest sys limit tests k files).stored isTraceName <:+ files.stored isTraceName ∧
        (dropOldest sys limit tests k files).length = files.length := by
  induction tests generalizing k files with
  | zero => exact ⟨hdistinct, suffix_refl _, rfl⟩
  | succ tests ih =>
    unfold dropOldest
    cases hkind : files.ofKind isTraceName with
    | nil => exact ⟨hdistinct, suffix_refl _, rfl⟩
    | cons f fs =>
      have hrest : (files.unlink f.name).stored isTraceName <:+ files.stored isTraceName := by
        unfold stored
        rw [ofKind_unlink hdistinct hkind, hkind, flatMap_cons]
        exact suffix_append _ _
      have hlen := length_unlink files f.name
      dsimp only [head?_cons]
      split_ifs
      · exact ⟨hdistinct.unlink f.name, hrest, hlen⟩
      · obtain ⟨hd, hs, hl⟩ := ih (k + 1) (hdistinct.unlink f.name)
        exact ⟨hd, hs.trans hrest, hl.trans hlen⟩
      · exact ⟨hdistinct, suffix_refl _, rfl⟩

end loop

/-! ## Writing a message -/

/-- Every buffer is written as a whole. -/
def WritesAll (sys : TraceSystem) : ℕ → List TracePart → Prop
  | _, [] => True
  | j, .null _ :: parts => WritesAll sys (j + 1) parts
  | j, .data bytes :: parts => bytes.length ≤ sys.writes j ∧ WritesAll sys (j + 1) parts

/-- A buffer is not written, and there are no bytes in the buffers before it. -/
def WritesNothing (sys : TraceSystem) : ℕ → List TracePart → Prop
  | _, [] => False
  | j, .null _ :: parts => WritesNothing sys (j + 1) parts
  | j, .data bytes :: parts =>
    if bytes.length ≤ sys.writes j then bytes = [] ∧ WritesNothing sys (j + 1) parts else sys.writes j ≤ 0

/-- The file that is open is the last one created, and it ends at the offset. -/
structure AtEnd (files : TraceFiles) (i off : ℕ) (f : File (List UInt8) UInt8) : Prop where
  get : files[i]? = some f
  last : i + 1 = files.length
  off : off = f.content.length
  linked : f.linked = true
  name : isTraceName f.name = true

/-- The names are distinct, and a file that is open is at its end. -/
structure Appending (s : OfflineState) : Prop where
  /-- No two files have one name. -/
  distinct : s.files.Distinct
  handle : ∀ i off, s.trace.ohandle = .file i off → ∃ f, AtEnd s.files i off f

section write

variable {sys : TraceSystem} {s : OfflineState}

def partsBytes (parts : List TracePart) : List UInt8 := parts.flatMap TracePart.bytes

theorem partsBytes_cons (part : TracePart) (parts : List TracePart) :
    partsBytes (part :: parts) = part.bytes ++ partsBytes parts := flatMap_cons

/-- **Bytes are written** at the end of the files. -/
theorem writePart_data (sys : TraceSystem) (j : ℕ) (bytes : List UInt8) (h : Appending s)
    (hhandle : s.trace.ohandle = .file i off) :
    Appending (writePart sys j (.data bytes) s).1 ∧
      (∃ off', (writePart sys j (.data bytes) s).1.trace.ohandle = .file i off') ∧
        (writePart sys j (.data bytes) s).1.files.stored isTraceName =
          s.files.stored isTraceName ++ sys.taken j bytes := by
  obtain ⟨f, hf⟩ := h.handle i off hhandle
  obtain ⟨hget, hlast, rfl, hlinked, hname⟩ := hf
  unfold writePart
  rw [hhandle]
  dsimp only
  refine ⟨⟨h.distinct.write _ _ _ _, ?_⟩, ⟨_, rfl⟩, ?_⟩
  · intro i' off' heq
    obtain ⟨rfl, rfl⟩ := OHandle.file.inj heq
    obtain ⟨f', hget', hcontent, hlinked', hname'⟩ :=
      write_get hget sys.now (sys.taken j bytes) (Nat.le_refl _)
    refine ⟨f', hget', ?_, ?_, hlinked'.trans hlinked, hname'.symm ▸ hname⟩
    · rw [length_write]
      exact hlast
    · rw [hcontent, overwrite_length, length_append]
  · exact stored_write_last hget hlast hlinked hname sys.now _

/-- **A message is written as a whole.** -/
theorem writeParts_all {j : ℕ} (h : Appending s) (hhandle : s.trace.ohandle = .file i off)
    (hall : WritesAll sys j parts) :
    Appending (writeParts sys j parts s).1 ∧ (writeParts sys j parts s).2 = dltReturnOk ∧
      (writeParts sys j parts s).1.files.stored isTraceName = s.files.stored isTraceName ++ partsBytes parts := by
  induction parts generalizing j off s with
  | nil => exact ⟨h, rfl, (append_nil _).symm⟩
  | cons part parts ih =>
    rw [partsBytes_cons]
    unfold writeParts
    cases part with
    | null size => exact ih h hhandle hall
    | data bytes =>
      obtain ⟨hle, hall⟩ := hall
      obtain ⟨h', ⟨off', hhandle'⟩, hstored⟩ := writePart_data sys j bytes h hhandle
      have htaken : sys.taken j bytes = bytes := take_of_length_le (by omega)
      have hok : (writePart sys j (.data bytes) s).2 = true := by
        unfold writePart
        rw [hhandle]
        exact decide_eq_true hle
      dsimp only
      rw [if_pos hok]
      obtain ⟨hdone, hret, hrest⟩ := ih h' hhandle' hall
      refine ⟨hdone, hret, ?_⟩
      rw [hrest, hstored, htaken, append_assoc]
      rfl

/-- **Nothing is written of a message.** -/
theorem writeParts_nothing {j : ℕ} (h : Appending s) (hhandle : s.trace.ohandle = .file i off)
    (hnothing : WritesNothing sys j parts) :
    Appending (writeParts sys j parts s).1 ∧ (writeParts sys j parts s).2 = dltReturnError ∧
      (writeParts sys j parts s).1.files.stored isTraceName = s.files.stored isTraceName := by
  induction parts generalizing j off s with
  | nil => exact hnothing.elim
  | cons part parts ih =>
    unfold writeParts
    cases part with
    | null size => exact ih h hhandle hnothing
    | data bytes =>
      obtain ⟨h', ⟨off', hhandle'⟩, hstored⟩ := writePart_data sys j bytes h hhandle
      have hret : (writePart sys j (.data bytes) s).2 = decide ((bytes.length : ℤ) ≤ sys.writes j) := by
        unfold writePart
        rw [hhandle]
      unfold WritesNothing at hnothing
      dsimp only
      rw [hret]
      split_ifs at hnothing with hle
      · obtain ⟨rfl, hnothing⟩ := hnothing
        rw [if_pos (decide_eq_true hle)]
        obtain ⟨hdone, hret', hrest⟩ := ih h' hhandle' hnothing
        refine ⟨hdone, hret', ?_⟩
        rw [hrest, hstored]
        unfold TraceSystem.taken
        rw [take_nil, append_nil]
      · have hnone : sys.taken j bytes = [] := by
          unfold TraceSystem.taken
          rw [Int.toNat_of_nonpos hnothing, take_zero]
        rw [if_neg (by simpa using hle)]
        refine ⟨h', rfl, ?_⟩
        rw [hstored, hnone, append_nil]

end write

/-! ## A new file -/

/-- The state behind the deletions. -/
def trimmed (sys : TraceSystem) (s : OfflineState) : OfflineState :=
  if sys.accessible then
    { s with files :=
        dropOldest sys (s.trace.maxSize - s.trace.fileSize) (s.files.listed.length + 1) 0 s.files }
  else s

/-- The files that are deleted are the ones created first, and none is looked for in a directory that cannot be
opened. -/
def DeletesOldest (sys : TraceSystem) (s : OfflineState) : Prop :=
  sys.accessible = true →
    OldestFirst sys (s.trace.maxSize - s.trace.fileSize) (s.files.listed.length + 1) 0 s.files

def CanOpen (sys : TraceSystem) (s : OfflineState) : Prop :=
  sys.opens = true ∧ pathTooLong s.trace (nextName sys s) = false

/-- The name of the next file is not used. -/
def FreshName (sys : TraceSystem) (s : OfflineState) : Prop := s.files.has (nextName sys s) = false

section create

variable {sys : TraceSystem} {s : OfflineState}

/-- **The deletions leave the end of what there was.** -/
theorem dltOfflineTraceCheckSize_eq (hdistinct : s.files.Distinct) (h : DeletesOldest sys s) :
    ∃ ret, dltOfflineTraceCheckSize sys s = some (trimmed sys s, ret) := by
  unfold dltOfflineTraceCheckSize trimmed
  by_cases haccess : sys.accessible = true
  · obtain ⟨ret, heq⟩ := checkSizeLoop_eq hdistinct (h haccess) (Nat.lt_succ_self _)
    rw [if_pos haccess, if_pos haccess, heq]
    exact ⟨ret, rfl⟩
  · rw [if_neg haccess, if_neg haccess]
    exact ⟨_, rfl⟩

variable (sys) in
theorem trimmed_spec (hdistinct : s.files.Distinct) :
    (trimmed sys s).files.Distinct ∧ (trimmed sys s).trace = s.trace ∧
      (trimmed sys s).files.stored isTraceName <:+ s.files.stored isTraceName := by
  unfold trimmed
  split_ifs
  · obtain ⟨hd, hs, -⟩ := dropOldest_suffix sys (s.trace.maxSize - s.trace.fileSize)
      (s.files.listed.length + 1) 0 hdistinct
    exact ⟨hd, rfl, hs⟩
  · exact ⟨hdistinct, rfl, suffix_refl _⟩

theorem isTraceName_nextName (sys : TraceSystem) (s : OfflineState) : isTraceName (nextName sys s) = true := by
  unfold nextName
  split_ifs
  · exact isTraceName_timestampName _
  · exact isTraceName_dltOfflineTraceFileName _

/-- **A new file** is the last one, and it is empty. -/
theorem createNewFile_appending (hdistinct : s.files.Distinct) (hclosed : ∀ i off, s.trace.ohandle ≠ .file i off)
    (hfresh : CanOpen sys s → FreshName sys s) :
    Appending (dltOfflineTraceCreateNewFile sys s).1 ∧
      (dltOfflineTraceCreateNewFile sys s).1.files.stored isTraceName = s.files.stored isTraceName ∧
        (CanOpen sys s → ∃ i, (dltOfflineTraceCreateNewFile sys s).1.trace.ohandle = .file i 0) ∧
          (¬ CanOpen sys s → ∀ i off, (dltOfflineTraceCreateNewFile sys s).1.trace.ohandle ≠ .file i off) := by
  unfold dltOfflineTraceCreateNewFile
  dsimp only
  split_ifs with hlong hopens
  · refine ⟨⟨hdistinct, fun i off h => absurd h (hclosed i off)⟩, rfl, ?_, fun _ => hclosed⟩
    intro hcan
    exact absurd hlong (Bool.eq_false_iff.mp hcan.2)
  · have hcan : CanOpen sys s := ⟨hopens, Bool.eq_false_iff.mpr hlong⟩
    have heq := openCreate_of_not sys.now (hfresh hcan)
    rw [heq]
    refine ⟨⟨?_, ?_⟩, ?_, fun _ => ⟨_, rfl⟩, fun hnot => absurd hcan hnot⟩
    · have hnew := hdistinct.openCreate sys.now (nextName sys s)
      rw [heq] at hnew
      exact hnew
    · intro i off h
      obtain ⟨rfl, rfl⟩ := OHandle.file.inj h
      refine ⟨_, getElem?_concat_length, ?_, rfl, rfl, isTraceName_nextName sys s⟩
      dsimp only
      rw [length_append]
      rfl
    · dsimp only
      rw [stored_append, stored_singleton rfl (isTraceName_nextName sys s), append_nil]
  · refine ⟨⟨hdistinct, fun i off h => OHandle.noConfusion h⟩, rfl, ?_, fun _ i off => OHandle.noConfusion⟩
    exact fun hcan => absurd hcan.1 hopens

end create

/-! ## Runs -/

/-- The trace, and the bytes that there were at the start and of all messages that were accepted. -/
structure TraceHistory where
  state : OfflineState
  accepted : List UInt8

inductive TraceOp
  /-- A new daemon initialises its trace. -/
  | init (sys : TraceSystem) (directory : List UInt8) (fileSize maxSize : ℤ) (filenameTimestampBased : Bool)
  | write (call : TraceCall)

def TraceCall.bytes (call : TraceCall) : List UInt8 := partsBytes [call.data1, call.data2, call.data3]

/-- A trace with its parameters, before its first file is created. -/
def DltOfflineTrace.begun (directory : List UInt8) (fileSize maxSize : ℤ) (filenameTimestampBased : Bool) :
    DltOfflineTrace :=
  ⟨directory.take 255, [], fileSize, maxSize, filenameTimestampBased, .foreign⟩

/-- One call. The state behind a call without a result does not matter. -/
def TraceHistory.step (h : TraceHistory) : TraceOp → TraceHistory
  | .init sys directory fileSize maxSize filenameTimestampBased =>
    match dltOfflineTraceInit sys directory fileSize maxSize filenameTimestampBased ⟨.fresh, h.state.files⟩ with
    | some created => ⟨created.1, h.accepted⟩
    | none => h
  | .write call =>
    match dltOfflineTraceWrite call.sys call.data1 call.data2 call.data3 h.state with
    | some written =>
      ⟨written.1, if written.2 = dltReturnOk then h.accepted ++ call.bytes else h.accepted⟩
    | none => h

/-- A daemon that has not initialised its trace, and a directory. -/
def TraceHistory.Start (h : TraceHistory) : Prop :=
  h.state.files.Distinct ∧ h.state.trace = .fresh ∧ h.accepted = h.state.files.stored isTraceName

/-- A file is begun without harm to the files that there are. -/
def BeginsSafely (sys : TraceSystem) (s : OfflineState) : Prop :=
  DeletesOldest sys s ∧ (CanOpen sys (trimmed sys s) → FreshName sys (trimmed sys s))

/-- A call does no harm: the files that it deletes are the ones created first, the file that it begins has a name
that is not used and can be opened, and it writes its message as a whole or not at all. -/
def SafeOp (h : TraceHistory) : TraceOp → Prop
  | .init sys directory fileSize maxSize filenameTimestampBased =>
    BeginsSafely sys ⟨.begun directory fileSize maxSize filenameTimestampBased, h.state.files⟩
  | .write call =>
    let parts := [call.data1, call.data2, call.data3]
    let closed := { h.state with trace := { h.state.trace with ohandle := .closed } }
    h.state.trace.ohandle = .closed ∨
      h.state.trace.ohandle ≠ .foreign ∧
        (WritesAll call.sys 0 parts ∨ WritesNothing call.sys 0 parts) ∧
          (fileIsFull call.sys h.state.trace call.size = true →
            BeginsSafely call.sys closed ∧ CanOpen call.sys (trimmed call.sys closed))

/-- The files hold the end of what was accepted. -/
structure KeepsTail (h : TraceHistory) : Prop extends Appending h.state where
  suffix : h.state.files.stored isTraceName <:+ h.accepted

section runs

variable {h : TraceHistory}

theorem BeginsSafely.created {sys : TraceSystem} {s : OfflineState} (hdistinct : s.files.Distinct)
    (hclosed : ∀ i off, s.trace.ohandle ≠ .file i off) (hsafe : BeginsSafely sys s) :
    Appending (dltOfflineTraceCreateNewFile sys (trimmed sys s)).1 ∧
      (dltOfflineTraceCreateNewFile sys (trimmed sys s)).1.files.stored isTraceName <:+ s.files.stored isTraceName ∧
        (CanOpen sys (trimmed sys s) →
          ∃ i, (dltOfflineTraceCreateNewFile sys (trimmed sys s)).1.trace.ohandle = .file i 0) := by
  obtain ⟨hd, htrace, hsuffix⟩ := trimmed_spec sys hdistinct
  have hclosed' : ∀ i off, (trimmed sys s).trace.ohandle ≠ .file i off := by
    rw [htrace]
    exact hclosed
  obtain ⟨happending, hstored, hopen, -⟩ := createNewFile_appending hd hclosed' hsafe.2
  exact ⟨happending, hstored ▸ hsuffix, hopen⟩

theorem KeepsTail.init {sys : TraceSystem} {directory : List UInt8} {fileSize maxSize : ℤ} {timestampBased : Bool}
    (hkeeps : KeepsTail h) (hsafe : SafeOp h (.init sys directory fileSize maxSize timestampBased)) :
    KeepsTail (h.step (.init sys directory fileSize maxSize timestampBased)) := by
  have hidle : ∀ i off, OHandle.foreign ≠ OHandle.file i off := fun i off => OHandle.noConfusion
  have hcreated := BeginsSafely.created (s := ⟨.begun directory fileSize maxSize timestampBased, h.state.files⟩)
    hkeeps.distinct hidle hsafe
  obtain ⟨ret, heq⟩ := dltOfflineTraceCheckSize_eq
    (s := ⟨.begun directory fileSize maxSize timestampBased, h.state.files⟩) hkeeps.distinct hsafe.1
  have hinit : dltOfflineTraceInit sys directory fileSize maxSize timestampBased ⟨.fresh, h.state.files⟩ =
      some (dltOfflineTraceCreateNewFile sys
        (trimmed sys ⟨.begun directory fileSize maxSize timestampBased, h.state.files⟩)) := by
    unfold dltOfflineTraceInit
    exact (congrArg (Option.map fun c => dltOfflineTraceCreateNewFile sys c.1) heq)
  unfold TraceHistory.step
  dsimp only
  rw [hinit]
  exact ⟨hcreated.1, hcreated.2.1.trans hkeeps.suffix⟩

theorem writeParts_keepsTail {sys : TraceSystem} {s : OfflineState} {accepted : List UInt8}
    (happending : Appending s) (hsuffix : s.files.stored isTraceName <:+ accepted)
    (hhandle : s.trace.ohandle = .file i off) (hwrites : WritesAll sys 0 parts ∨ WritesNothing sys 0 parts) :
    KeepsTail ⟨(writeParts sys 0 parts s).1,
      if (writeParts sys 0 parts s).2 = dltReturnOk then accepted ++ partsBytes parts else accepted⟩ := by
  rcases hwrites with hall | hnothing
  · obtain ⟨h', hret, hstored⟩ := writeParts_all happending hhandle hall
    refine ⟨h', ?_⟩
    dsimp only
    rw [hret, if_pos rfl, hstored]
    obtain ⟨front, hfront⟩ := hsuffix
    exact ⟨front, by rw [← append_assoc, hfront]⟩
  · obtain ⟨h', hret, hstored⟩ := writeParts_nothing happending hhandle hnothing
    refine ⟨h', ?_⟩
    dsimp only
    rw [hret, if_neg (by decide), hstored]
    exact hsuffix

theorem KeepsTail.write {call : TraceCall} (hkeeps : KeepsTail h) (hsafe : SafeOp h (.write call)) :
    KeepsTail (h.step (.write call)) := by
  unfold TraceHistory.step dltOfflineTraceWrite
  dsimp only
  rcases hsafe with hclosed | ⟨hforeign, hwrites, hbegins⟩
  · rw [if_pos hclosed]
    exact hkeeps
  · by_cases hclosed : h.state.trace.ohandle = .closed
    · rw [if_pos hclosed]
      exact hkeeps
    rw [if_neg hclosed]
    by_cases hfull : fileIsFull call.sys h.state.trace (partsSize [call.data1, call.data2, call.data3]) = true
    · rw [if_pos hfull]
      obtain ⟨hsafe, hcan⟩ := hbegins hfull
      have hidle : ∀ i off, OHandle.closed ≠ OHandle.file i off := fun i off => OHandle.noConfusion
      obtain ⟨happending, hsuffix, hopen⟩ := BeginsSafely.created
        (s := { h.state with trace := { h.state.trace with ohandle := .closed } }) hkeeps.distinct hidle hsafe
      obtain ⟨i, hhandle⟩ := hopen hcan
      obtain ⟨ret, heq⟩ := dltOfflineTraceCheckSize_eq
        (s := { h.state with trace := { h.state.trace with ohandle := .closed } }) hkeeps.distinct hsafe.1
      unfold changeFile
      rw [heq]
      exact writeParts_keepsTail happending (hsuffix.trans hkeeps.suffix) hhandle hwrites
    · rw [if_neg hfull]
      cases hhandle : h.state.trace.ohandle with
      | closed => exact absurd hhandle hclosed
      | foreign => exact absurd hhandle hforeign
      | file i off => exact writeParts_keepsTail hkeeps.toAppending hkeeps.suffix hhandle hwrites

/-- **The files hold the last bytes of the messages that were accepted**, in the order in which the files were
created, in every run whose calls do no harm. -/
theorem trace_is_suffix (hreach : Reach TraceHistory.Start TraceHistory.step SafeOp h) :
    h.state.files.stored isTraceName <:+ h.accepted := by
  apply KeepsTail.suffix
  refine hreach.invariant ?_ ?_
  · rintro h ⟨hdistinct, htrace, haccepted⟩
    refine ⟨⟨hdistinct, ?_⟩, haccepted ▸ suffix_refl _⟩
    intro i off hhandle
    rw [htrace] at hhandle
    exact OHandle.noConfusion hhandle
  · intro h op hkeeps hsafe
    cases op with
    | init sys directory fileSize maxSize timestampBased => exact hkeeps.init hsafe
    | write call => exact hkeeps.write hsafe

instance (sys : TraceSystem) (k : ℕ) (f : File (List UInt8) UInt8) (fs : List (File (List UInt8) UInt8)) :
    Decidable (PickedFirst sys k f fs) :=
  inferInstanceAs (Decidable (ite _ _ _))

instance OldestFirst.decidable (sys : TraceSystem) (limit : ℤ) :
    (tests k : ℕ) → (files : TraceFiles) → Decidable (OldestFirst sys limit tests k files)
  | 0, _, _ => isTrue trivial
  | tests + 1, _, files =>
    have := OldestFirst.decidable sys limit tests
    inferInstanceAs (Decidable (_ → _ ∧ ∀ f ∈ (files.ofKind isTraceName).head?, _ ∧ (_ → _ → _)))

instance WritesAll.decidable (sys : TraceSystem) : (j : ℕ) → (parts : List TracePart) →
    Decidable (WritesAll sys j parts)
  | _, [] => isTrue trivial
  | j, .null _ :: parts => WritesAll.decidable sys (j + 1) parts
  | j, .data _ :: parts => @instDecidableAnd _ _ _ (WritesAll.decidable sys (j + 1) parts)

/-- The daemon begins a trace, for which a file of an earlier one is removed, and two messages fill two files. -/
theorem trace_is_suffix_sample :
    let sys := calmSystem 1000 (ascii "20200101_000000")
    let h := (((⟨⟨.fresh, [⟨ascii "dlt_offlinetrace_20190101_000000.dlt", true, List.replicate 9 0, 900⟩]⟩,
      List.replicate 9 0⟩ : TraceHistory).step (.init sys (ascii "/tmp") 4 8 true)).step
        (.write ⟨sys, .data [1], .data [2], .null 0⟩)).step
          (.write ⟨calmSystem 1001 (ascii "20200101_000001"), .data [3], .data [4], .null 0⟩)
    h.state.files.stored isTraceName <:+ h.accepted := by
  intro sys
  refine trace_is_suffix (.step (.step (.step (.start ⟨nodup_singleton _, rfl, by decide +kernel⟩) ?_) ?_) ?_)
  · unfold SafeOp BeginsSafely DeletesOldest CanOpen FreshName
    decide +kernel
  · exact .inr ⟨by decide +kernel, .inl ⟨by decide, by decide, trivial⟩, fun hfull => absurd hfull (by decide +kernel)⟩
  · refine .inr ⟨by decide +kernel, .inl (by decide +kernel), fun _ => ?_⟩
    unfold BeginsSafely DeletesOldest CanOpen FreshName
    decide +kernel

/-- Two files within one second have one name: the second one overwrites the first byte of the first one. -/
theorem trace_overwrites :
    let sys := calmSystem 1000 (ascii "20200101_000000")
    let h := (((⟨⟨.fresh, []⟩, []⟩ : TraceHistory).step (.init sys (ascii "/tmp") 3 100 true)).step
      (.write ⟨sys, .data [1], .data [2], .null 0⟩)).step (.write ⟨sys, .data [3], .null 0, .null 0⟩)
    h.accepted = [1, 2, 3] ∧ h.state.files.stored isTraceName = [3, 2] ∧
      ¬ h.state.files.stored isTraceName <:+ h.accepted := by
  decide +kernel

end runs

end Dlt.Shared
