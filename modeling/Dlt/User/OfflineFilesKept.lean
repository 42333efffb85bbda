import Dlt.Lib.Runs
import Dlt.User.OfflineFiles

/-!
# The log files that an application keeps

* `LogDir` — a directory, a logger, and the other programs that use the directory.
* `keepsNewest` — **the logger removes its oldest files only, and keeps no more than it should**.
-/

namespace Dlt.User

open Dlt.Lib List Directory

variable {call : LogCall}

/-! ## Own names -/

/-- A decimal digit. -/
def isdigit (c : UInt8) : Bool := 48 ≤ c.toNat ∧ c.toNat ≤ 57

/-- A time: eight digits, a dash and six digits. -/
def isStamp (text : List UInt8) : Bool :=
  text.length = 15 ∧ (text.take 8).all isdigit ∧ text[8]? = some 45 ∧ (text.drop 9).all isdigit

/-- What follows the time: a number in parentheses, if there is one, and the extension. -/
def isTail (text : List UInt8) : Bool :=
  let digits := (text.drop 1).take (text.length - 6)
  text = ascii ".dlt" ∨ text = ascii "(" ++ digits ++ ascii ").dlt" ∧ 4 ≤ digits.length ∧ digits.all isdigit

/-- The name of a file of an application. -/
def isOwnName (appID name : List UInt8) : Bool :=
  appID <+: name ∧ isStamp ((name.drop appID.length).take 15) ∧ isTail (name.drop (appID.length + 15))

theorem isdigit_of_mem_printDecimal (n : ℕ) {c : UInt8} (hc : c ∈ printDecimal n) : isdigit c = true := by
  unfold printDecimal at hc
  rw [if_neg (by omega), nil_append] at hc
  obtain ⟨d, hd, rfl⟩ := mem_map.mp hc
  have hdigit := Nat.isDigit_of_mem_toDigits (by decide) (by decide) hd
  unfold Char.isDigit at hdigit
  rw [Bool.and_eq_true, decide_eq_true_iff, decide_eq_true_iff, ge_iff_le, UInt32.le_iff_toNat_le,
    UInt32.le_iff_toNat_le] at hdigit
  have hrange : 48 ≤ d.toNat ∧ d.toNat ≤ 57 := hdigit
  unfold isdigit
  rw [decide_eq_true_iff, UInt8.toNat_ofNat', Nat.mod_eq_of_lt (by omega)]
  exact hrange

theorem isdigit_of_mem_printPadded (width n : ℕ) {c : UInt8} (hc : c ∈ printPadded width n) : isdigit c = true := by
  rcases mem_append.mp hc with hc | hc
  · obtain rfl := (mem_replicate.mp hc).2
    rfl
  · exact isdigit_of_mem_printDecimal n hc

theorem le_length_printPadded (width n : ℕ) : width ≤ (printPadded width n).length := by
  unfold printPadded
  rw [length_append, length_replicate]
  omega

section names

variable {appID stamp tail : List UInt8}

theorem length_of_isStamp (h : isStamp stamp = true) : stamp.length = 15 := (decide_eq_true_iff.mp h).1

section

variable (hstamp : isStamp stamp = true)
include hstamp

theorem isOwnName_append (htail : isTail tail = true) : isOwnName appID (appID ++ stamp ++ tail) = true := by
  have hlen := length_of_isStamp hstamp
  apply decide_eq_true
  rw [append_assoc, drop_left, take_left' hlen, ← drop_drop, drop_left,
    drop_left' hlen]
  exact ⟨prefix_append _ _, hstamp, htail⟩

theorem isOwnName_plainName : isOwnName appID (plainName appID stamp) = true := by
  unfold plainName
  exact isOwnName_append hstamp (by decide)

theorem isOwnName_numberedName (index : ℕ) : isOwnName appID (numberedName appID stamp index) = true := by
  have hsplit : numberedName appID stamp index =
      appID ++ stamp ++ (ascii "(" ++ printPadded 4 index ++ ascii ").dlt") := by
    unfold numberedName
    have hext : ascii ").dlt" = ascii ")" ++ ascii ".dlt" := rfl
    rw [hext]
    simp only [append_assoc]
  rw [hsplit]
  apply isOwnName_append hstamp
  have hdigits : ((ascii "(" ++ printPadded 4 index ++ ascii ").dlt").drop 1).take
      ((ascii "(" ++ printPadded 4 index ++ ascii ").dlt").length - 6) = printPadded 4 index := by
    have hopen : (ascii "(").length = 1 := rfl
    rw [append_assoc, drop_left' hopen]
    apply take_left'
    rw [length_append, length_append]
    have hclose : (ascii ").dlt").length = 5 := rfl
    omega
  unfold isTail
  rw [hdigits]
  apply decide_eq_true
  refine .inr ⟨rfl, le_length_printPadded 4 index, ?_⟩
  rw [all_eq_true]
  exact fun c hc => isdigit_of_mem_printPadded 4 index hc

end

theorem isInfix_of_isOwnName {name : List UInt8} (h : isOwnName appID name = true) : appID <:+: name :=
  (decide_eq_true_iff.mp h).1.isInfix

theorem length_of_isOwnName {name : List UInt8} (h : isOwnName appID name = true) : 15 ≤ name.length := by
  have hlen := length_of_isStamp (decide_eq_true_iff.mp h).2.1
  rw [length_take, length_drop] at hlen
  omega

end names

/-! ## The directory and its programs -/

structure LogDir where
  files : LogFiles
  p : Logger
deriving DecidableEq

/-- What happens in the directory. -/
inductive LogOp
  | begin (sys : LogSystem) (call : LogCall)
  | step (sys : LogSystem)
  /-- Another program creates a file. -/
  | create (now : ℤ) (name : List UInt8)
  /-- Another program writes to a file. -/
  | write (now : ℤ) (i off : ℕ) (data : List UInt8)
  /-- Another program removes a file. -/
  | remove (name : List UInt8)

/-- One step. A logger begins a call when it is not in one. -/
def LogDir.step (s : LogDir) : LogOp → LogDir
  | .begin sys call => if s.p.phase = .idle then { s with p := s.p.begin sys s.files call } else s
  | .step sys => ⟨(s.p.step sys s.files).1, (s.p.step sys s.files).2⟩
  | .create now name => { s with files := (s.files.openCreate now name).1 }
  | .write now i off data => { s with files := s.files.write now i off data }
  | .remove name => { s with files := s.files.unlink name }

/-- The names of the own files, in the order of their creation. -/
def LogDir.own (s : LogDir) : List (List UInt8) := s.files.names.filter (isOwnName s.p.appID)

/-- The file that is removed next is the oldest own one, and between the calls of a logger that is initialised
there are no more own files than are to be kept. -/
structure KeepsNewest (s : LogDir) : Prop where
  removal : ∀ call name, s.p.phase = .pop call → s.p.nextRemoval = some name → s.files.has name = true →
    isOwnName s.p.appID name = true ∧ s.own.head? = some name
  /-- The number of own files. -/
  count : s.p.phase = .idle → s.p.dltFileHandle.isSome = true → (s.own.length : ℤ) ≤ s.p.fileCount

/-- A logger that is not initialised, and any directory. -/
def LogDir.Start (s : LogDir) : Prop :=
  s.files.Distinct ∧ ascii "." ∉ s.files.names ∧ ascii ".." ∉ s.files.names ∧
    1 ≤ s.p.fileCount ∧ s.p.phase = .idle ∧ s.p.dltFileHandle = none

/-- The file operations succeed, and the time has fifteen characters. -/
def LogSystem.Succeeds (sys : LogSystem) : Prop :=
  sys.mkdir = true ∧ sys.scans = true ∧ sys.removes = true ∧ sys.opens = true ∧ isStamp sys.stamp = true

/-- **A step that does no harm**: the logger is initialised once, all files whose names the application id occurs
in are own ones, the own files were created in the order of their names and are fewer than are to be kept; a file
is changed if two files may be kept; a name is found that is not used; and the other programs leave the own
files alone. -/
def SafeLogOp (s : LogDir) : LogOp → Prop
  | .begin sys .init =>
    sys.Succeeds ∧ s.p.dltFileHandle = none ∧
      (∀ name ∈ s.files.names, s.p.appID <:+: name → isOwnName s.p.appID name = true) ∧
        s.own.Pairwise (fun name name' => laterName name' name = true) ∧ (s.own.length : ℤ) < s.p.fileCount
  | .begin sys (.write _ _) =>
    sys.Succeeds ∧ ∀ handle, s.p.dltFileHandle = some handle → s.p.fileSize < handle.size → 1 < s.p.fileCount
  | .step sys =>
    sys.Succeeds ∧ ∀ call stamp name index, s.p.phase = .access call stamp name index →
      index ≤ 10000 ∨ s.files.has name = false
  | .create _ name => isOwnName s.p.appID name = false ∧ name ≠ ascii "." ∧ name ≠ ascii ".."
  | .write _ _ _ _ => True
  | .remove name => isOwnName s.p.appID name = false

/-! ## What holds in every state -/

/-- The list of a logger has its own files, and what stands for the directory. -/
structure Tracked (own : List (List UInt8)) (p : Logger) : Prop where
  /-- The own files, in the order of their creation. -/
  listed : p.fileList.filter (isOwnName p.appID) = own
  others : ∀ name ∈ p.fileList, isOwnName p.appID name = true ∨ name = ascii "." ∨ name = ascii ".."

/-- There is room for the file that a call is about to create, and no more files than are to be kept. -/
def Room (own : List (List UInt8)) (p : Logger) : Prop :=
  match p.phase with
  | .idle | .write1 _ _ | .write2 _ _ => (own.length : ℤ) ≤ p.fileCount
  | .pop .init | .access .init _ _ _ | .opening .init _ => (own.length : ℤ) < p.fileCount
  | .pop (.write _ _) => 1 < p.fileCount
  | .access (.write _ _) _ _ _ | .opening (.write _ _) _ => (own.length : ℤ) ≤ p.fileCount ∧ 1 < p.fileCount
  | .crashed => True

/-- The name that is tried is an own one, and the name of a new file is not used. -/
def NewName (own : List (List UInt8)) (p : Logger) : Prop :=
  match p.phase with
  | .access _ stamp name _ => isStamp stamp = true ∧ isOwnName p.appID name = true
  | .opening _ name => isOwnName p.appID name = true ∧ name ∉ own
  | _ => True

/-- What holds of a logger that was initialised. -/
structure Active (own : List (List UInt8)) (p : Logger) : Prop extends Tracked own p where
  room : Room own p
  newName : NewName own p

/-- What holds in every state. -/
structure LogInvariant (s : LogDir) : Prop where
  /-- No two files have one name. -/
  distinct : s.files.Distinct
  /-- The directory itself is no file. -/
  dot : ascii "." ∉ s.files.names
  /-- Nor is the directory above it. -/
  dots : ascii ".." ∉ s.files.names
  count : 1 ≤ s.p.fileCount
  logger : s.p.phase = .idle ∧ s.p.dltFileHandle = none ∨ Active s.own s.p

section own

variable {s : LogDir} {name : List UInt8}

theorem mem_own : name ∈ s.own ↔ name ∈ s.files.names ∧ isOwnName s.p.appID name = true := mem_filter

theorem not_isOwnName_dots {appID : List UInt8} (h : name = ascii "." ∨ name = ascii "..") :
    isOwnName appID name = false := by
  apply Bool.eq_false_iff.mpr
  intro hown
  have hlen := length_of_isOwnName hown
  rcases h with rfl | rfl
  · exact absurd hlen (by decide)
  · exact absurd hlen (by decide)

theorem filter_ne_of_cons {xs rest : List (List UInt8)} {a : List UInt8} {q : List UInt8 → Bool} (hnodup : xs.Nodup)
    (h : xs.filter q = a :: rest) : (xs.filter (· ≠ a)).filter q = rest := by
  have hnodup' := hnodup.filter q
  rw [h, nodup_cons] at hnodup'
  rw [filter_comm, h, filter_cons, if_neg (by simp), filter_eq_self]
  intro b hb
  exact decide_eq_true fun heq => hnodup'.1 (heq ▸ hb)

theorem filter_ne_of_not_mem {xs : List (List UInt8)} {a : List UInt8} (h : a ∉ xs) : xs.filter (· ≠ a) = xs := by
  rw [filter_eq_self]
  intro b hb
  exact decide_eq_true fun heq => h (heq ▸ hb)

end own

/-! ## Removing files -/

section removing

variable {s : LogDir} {name : List UInt8}

theorem fileList_of_nextRemoval {p : Logger} (h : p.nextRemoval = some name) :
    p.fileList = name :: p.fileList.tail := by
  unfold Logger.nextRemoval at h
  split_ifs at h
  cases hlist : p.fileList with
  | nil =>
    rw [hlist] at h
    exact nomatch h
  | cons a rest =>
    rw [hlist] at h
    obtain rfl : a = name := Option.some.inj h
    rfl

/-- **An entry of the list is the oldest own file, or it is no file.** -/
theorem Tracked.front (htracked : Tracked s.own s.p)
    (hlist : s.p.fileList = name :: s.p.fileList.tail) :
    isOwnName s.p.appID name = true ∧ s.own = name :: s.p.fileList.tail.filter (isOwnName s.p.appID) ∨
      (name = ascii "." ∨ name = ascii "..") ∧ s.own = s.p.fileList.tail.filter (isOwnName s.p.appID) := by
  have hlisted := htracked.listed
  rw [hlist, filter_cons] at hlisted
  rcases htracked.others name (hlist ▸ mem_cons_self) with hown | hdot
  · rw [if_pos hown] at hlisted
    exact .inl ⟨hown, hlisted.symm⟩
  · rw [if_neg (by rw [not_isOwnName_dots hdot]; exact Bool.false_ne_true)] at hlisted
    exact .inr ⟨hdot, hlisted.symm⟩

/-- **A file is removed.** -/
theorem LogInvariant.unlink (h : LogInvariant s) (htracked : Tracked s.own s.p)
    (hlist : s.p.fileList = name :: s.p.fileList.tail) :
    (s.files.unlink name).names.filter (isOwnName s.p.appID) = s.p.fileList.tail.filter (isOwnName s.p.appID) := by
  rw [names_unlink]
  rcases htracked.front hlist with ⟨-, hown⟩ | ⟨hdot, hown⟩
  · exact filter_ne_of_cons h.distinct hown
  · have hnot : name ∉ s.files.names := by
      rcases hdot with rfl | rfl
      · exact h.dot
      · exact h.dots
    rw [filter_ne_of_not_mem hnot]
    exact hown

/-- **The logger removes its oldest file, and has no more files than it should.** -/
theorem LogInvariant.newest (h : LogInvariant s) : KeepsNewest s := by
  constructor
  · intro call name hphase hnext hhas
    rcases h.logger with ⟨hidle, -⟩ | hactive
    · rw [hidle] at hphase
      exact LogPhase.noConfusion hphase
    · rcases hactive.toTracked.front (fileList_of_nextRemoval hnext) with ⟨hname, hown⟩ | ⟨hdot, -⟩
      · exact ⟨hname, by rw [hown]; rfl⟩
      · have hmem := has_iff_mem.mp hhas
        rcases hdot with rfl | rfl
        · exact absurd hmem h.dot
        · exact absurd hmem h.dots
  · intro hphase hhandle
    rcases h.logger with ⟨-, hnone⟩ | hactive
    · rw [hnone] at hhandle
      exact Bool.noConfusion hhandle
    · have hroom := hactive.room
      unfold Room at hroom
      rw [hphase] at hroom
      exact hroom

end removing

/-! ## The start -/

section start

variable {a b c : List UInt8}

theorem laterName_iff : laterName a b = true ↔ b.length < a.length ∨ a.length = b.length ∧ b < a :=
  decide_eq_true_iff

theorem laterName_eq_false_iff :
    laterName a b = false ↔ a.length ≤ b.length ∧ (a.length = b.length → ¬ b < a) := by
  rw [Bool.eq_false_iff, ne_eq, laterName_iff, not_or, not_and, not_lt]

theorem laterName_trans_not (hab : laterName a b = false) (hbc : laterName b c = false) : laterName a c = false := by
  rw [laterName_eq_false_iff] at hab hbc ⊢
  refine ⟨by omega, fun hlen => ?_⟩
  have h1 := hab.2 (by omega)
  have h2 := hbc.2 (by omega)
  exact List.le_trans h1 h2

theorem laterName_asymm (h : laterName a b = true) : laterName b a = false := by
  rw [laterName_eq_false_iff]
  rcases laterName_iff.mp h with hlt | ⟨heq, hlt⟩
  · exact ⟨by omega, by omega⟩
  · exact ⟨by omega, fun _ => List.lt_asymm hlt⟩

theorem laterName_antisymm (hab : laterName a b = false) (hba : laterName b a = false) : a = b := by
  rw [laterName_eq_false_iff] at hab hba
  have hlen : a.length = b.length := by omega
  exact List.le_antisymm (hab.2 hlen) (hba.2 hlen.symm)

theorem pairwise_dltOfflineSortFile (names : List (List UInt8)) :
    (dltOfflineSortFile names).Pairwise fun a b => laterName a b = false := by
  refine pairwise_exchangeSort (fun _ _ => Iff.rfl) (fun _ _ => laterName_asymm) ?_ ?_ (Nat.le_refl _)
  · exact fun _ _ _ => laterName_trans_not
  · intro a
    rw [laterName_eq_false_iff]
    exact ⟨Nat.le_refl _, fun _ => List.lt_irrefl a⟩

variable {s : LogDir}

/-- The own files in the list, in the order in which they were created. -/
theorem tracked_init
    (hown : ∀ name ∈ s.files.names, s.p.appID <:+: name → isOwnName s.p.appID name = true)
    (horder : s.own.Pairwise fun name name' => laterName name' name = true) (phase : LogPhase) :
    Tracked s.own { s.p with
      fileList := dltOfflineSortFile (dltOfflineScanFile s.files s.p.appID), phase := phase } := by
  have hperm : (dltOfflineSortFile (dltOfflineScanFile s.files s.p.appID)).Perm
      ((ascii "." :: ascii ".." :: s.files.names).filter fun name => s.p.appID <:+: name) :=
    (exchangeSort_perm _ _ _).trans ((perm_insertionSort _ _).filter _)
  constructor
  · have hfilter : (dltOfflineSortFile (dltOfflineScanFile s.files s.p.appID)).filter (isOwnName s.p.appID) |>.Perm
        s.own := by
      refine (hperm.filter _).trans ?_
      rw [filter_filter, filter_cons, if_neg, filter_cons, if_neg]
      · unfold LogDir.own
        rw [filter_congr]
        intro name _
        rw [Bool.and_eq_left_iff_imp]
        exact fun hname => decide_eq_true (isInfix_of_isOwnName hname)
      · rw [not_isOwnName_dots (.inr rfl), Bool.false_and]
        exact Bool.false_ne_true
      · rw [not_isOwnName_dots (.inl rfl), Bool.false_and]
        exact Bool.false_ne_true
    refine hfilter.eq_of_pairwise (fun a b _ _ hab hba => laterName_antisymm hab hba)
      ((pairwise_dltOfflineSortFile _).sublist filter_sublist) ?_
    exact horder.imp fun h => laterName_asymm h
  · intro name hname
    obtain ⟨hmem, hinfix⟩ := mem_filter.mp (hperm.subset hname)
    rcases mem_cons.mp hmem with hdot | hmem
    · exact .inr (.inl hdot)
    · rcases mem_cons.mp hmem with hdot | hmem
      · exact .inr (.inr hdot)
      · exact .inl (hown name hmem (decide_eq_true_iff.mp hinfix))

end start

/-! ## One step -/

section step

variable {s : LogDir} {sys : LogSystem}

section

variable (h : LogInvariant s)
include h

theorem LogInvariant.begin (hsafe : SafeLogOp s (.begin sys call)) :
    LogInvariant (s.step (.begin sys call)) := by
  unfold LogDir.step
  split_ifs with hidle
  · cases call with
    | init =>
      obtain ⟨⟨hmkdir, hscans, -⟩, -, hown, horder, hroom⟩ := hsafe
      have htracked := tracked_init hown horder (.pop .init)
      unfold Logger.begin
      dsimp only
      rw [hmkdir, hscans]
      exact ⟨h.distinct, h.dot, h.dots, h.count, .inr ⟨htracked, hroom, trivial⟩⟩
    | write data1 data2 =>
      obtain ⟨⟨-, -, -, -, hstamp⟩, hroom⟩ := hsafe
      rcases h.logger with ⟨-, hnone⟩ | hactive
      · unfold Logger.begin
        rw [hnone]
        exact ⟨h.distinct, h.dot, h.dots, h.count, .inl ⟨rfl, hnone⟩⟩
      · have hle := hactive.room
        unfold Room at hle
        rw [hidle] at hle
        unfold Logger.begin
        dsimp only
        cases hhandle : s.p.dltFileHandle with
        | none => exact ⟨h.distinct, h.dot, h.dots, h.count, .inl ⟨rfl, hhandle⟩⟩
        | some handle =>
          dsimp only
          split_ifs with hfull
          · refine ⟨h.distinct, h.dot, h.dots, h.count, .inr ⟨⟨hactive.listed, hactive.others⟩, ?_, ?_⟩⟩
            · exact ⟨hle, hroom handle hhandle hfull⟩
            · exact ⟨hstamp, isOwnName_plainName hstamp⟩
          · exact ⟨h.distinct, h.dot, h.dots, h.count, .inr ⟨⟨hactive.listed, hactive.others⟩, hle, trivial⟩⟩
  · exact h

section

variable (hactive : Active s.own s.p)
include hactive

/-- **Files are removed.** -/
theorem LogInvariant.pop (hphase : s.p.phase = .pop call) (hsys : sys.Succeeds) :
    LogInvariant (s.step (.step sys)) := by
  obtain ⟨-, -, hremoves, -, hstamp⟩ := hsys
  have hroom := hactive.room
  unfold Room at hroom
  unfold LogDir.step Logger.step
  rw [hphase] at hroom ⊢
  dsimp only
  cases hnext : s.p.nextRemoval with
  | some name =>
    dsimp only
    rw [hremoves, if_pos rfl]
    have hlist := fileList_of_nextRemoval hnext
    have hown := h.unlink hactive.toTracked hlist
    have hnames := names_unlink s.files name
    have hsub : ∀ a ∈ (s.files.unlink name).names, a ∈ s.files.names := by
      rw [hnames]
      exact fun a ha => (mem_filter.mp ha).1
    refine ⟨h.distinct.unlink name, fun hdot => h.dot (hsub _ hdot), fun hdot => h.dots (hsub _ hdot), h.count,
      .inr ⟨⟨hown.symm, ?_⟩, ?_, ?_⟩⟩
    · exact fun a ha => hactive.others a (mem_of_mem_tail ha)
    · have hle : ((s.files.unlink name).names.filter (isOwnName s.p.appID)).length ≤ s.own.length := by
        rw [hnames, filter_comm]
        exact length_filter_le _ _
      unfold Room LogDir.own
      dsimp only
      cases call with
      | init =>
        dsimp only at hroom ⊢
        omega
      | write data1 data2 => exact hroom
    · trivial
  | none =>
    dsimp only
    cases call with
    | init =>
      refine ⟨h.distinct, h.dot, h.dots, h.count, .inr ⟨⟨hactive.listed, hactive.others⟩, hroom, ?_⟩⟩
      exact ⟨hstamp, isOwnName_plainName hstamp⟩
    | write data1 data2 =>
      refine ⟨h.distinct, h.dot, h.dots, h.count, .inr ⟨⟨hactive.listed, hactive.others⟩, ?_, trivial⟩⟩
      have hlen : s.own.length ≤ s.p.fileList.length := by
        rw [← hactive.listed]
        exact length_filter_le _ _
      have hshort : ¬ (1 < s.p.fileCount ∧ s.p.fileCount < s.p.fileList.length) := by
        intro hlong
        unfold Logger.nextRemoval at hnext
        rw [if_pos hlong, head?_eq_none_iff] at hnext
        rw [hnext, length_nil] at hlong
        omega
      show (s.own.length : ℤ) ≤ s.p.fileCount
      dsimp only at hroom
      omega

/-- **A name is tried.** -/
theorem LogInvariant.access {stamp name : List UInt8} {index : ℕ}
    (hphase : s.p.phase = .access call stamp name index) (hfree : index ≤ 10000 ∨ s.files.has name = false) :
    LogInvariant (s.step (.step sys)) := by
  have hroom := hactive.room
  have hnew := hactive.newName
  unfold Room at hroom
  unfold NewName at hnew
  unfold LogDir.step Logger.step
  rw [hphase] at hroom hnew ⊢
  dsimp only at hroom hnew ⊢
  split_ifs with hused
  · refine ⟨h.distinct, h.dot, h.dots, h.count, .inr ⟨⟨hactive.listed, hactive.others⟩, ?_, ?_⟩⟩
    · cases call with
      | init => exact hroom
      | write data1 data2 => exact hroom
    · exact ⟨hnew.1, isOwnName_numberedName hnew.1 index⟩
  · have hnot : s.files.has name = false := by
      rcases hfree with hle | hnot
      · exact Bool.eq_false_iff.mpr fun hhas => hused ⟨hle, hhas⟩
      · exact hnot
    refine ⟨h.distinct, h.dot, h.dots, h.count, .inr ⟨⟨hactive.listed, hactive.others⟩, ?_, hnew.2, ?_⟩⟩
    · cases call with
      | init => exact hroom
      | write data1 data2 => exact hroom
    · intro hmem
      have hhas := has_iff_mem.mpr (mem_own.mp hmem).1
      rw [hnot] at hhas
      exact Bool.noConfusion hhas

/-- **A new file.** -/
theorem LogInvariant.opening {name : List UInt8} (hphase : s.p.phase = .opening call name)
    (hopens : sys.opens = true) : LogInvariant (s.step (.step sys)) := by
  have hroom := hactive.room
  obtain ⟨hname, hfresh⟩ : isOwnName s.p.appID name = true ∧ name ∉ s.own := by
    have hnew := hactive.newName
    unfold NewName at hnew
    rw [hphase] at hnew
    exact hnew
  have hnot : s.files.has name = false := by
    apply Bool.eq_false_iff.mpr
    intro hhas
    exact hfresh (mem_own.mpr ⟨has_iff_mem.mp hhas, hname⟩)
  have hnames := names_openCreate_of_not sys.now hnot
  have hown : (s.files.openCreate sys.now name).1.names.filter (isOwnName s.p.appID) = s.own ++ [name] := by
    rw [hnames, filter_append, filter_singleton, hname]
    rfl
  have hkept : (s.p.kept call).filter (isOwnName s.p.appID) = s.own ∧ ∀ a ∈ s.p.kept call, a ∈ s.p.fileList := by
    unfold Logger.kept
    split_ifs with hone
    · refine ⟨?_, fun a ha => mem_of_mem_take ha⟩
      unfold Room at hroom
      rw [hphase, hone.1] at hroom
      dsimp only at hroom
      have hnil : s.own = [] := eq_nil_of_length_eq_zero (by omega)
      have hsub := (take_sublist 1 s.p.fileList).filter (isOwnName s.p.appID)
      rw [hactive.listed, hnil] at hsub
      rw [hnil]
      exact sublist_nil.mp hsub
    · exact ⟨hactive.listed, fun a ha => ha⟩
  have hdots : ∀ a, isOwnName s.p.appID a = false → a ∉ s.files.names →
      a ∉ (s.files.openCreate sys.now name).1.names := by
    intro a ha hmem
    rw [hnames, mem_append, mem_singleton, not_or]
    refine ⟨hmem, ?_⟩
    rintro rfl
    rw [hname] at ha
    exact Bool.noConfusion ha
  have htracked : ∀ p : Logger, p.appID = s.p.appID → p.fileList = s.p.kept call ++ [name] →
      Tracked (s.own ++ [name]) p := by
    intro p happ hlist
    constructor
    · rw [hlist, happ, filter_append, hkept.1, filter_singleton, hname]
      rfl
    · intro a ha
      rw [hlist] at ha
      rw [happ]
      rcases mem_append.mp ha with ha | ha
      · exact hactive.others a (hkept.2 a ha)
      · obtain rfl := mem_singleton.mp ha
        exact .inl hname
  unfold LogDir.step Logger.step
  rw [hphase]
  dsimp only
  unfold Logger.openFile
  rw [if_pos hopens]
  dsimp only
  unfold Room at hroom
  rw [hphase] at hroom
  have hlen : (s.own ++ [name]).length = s.own.length + 1 := length_append
  refine ⟨h.distinct.openCreate sys.now name, hdots _ (not_isOwnName_dots (.inl rfl)) h.dot,
    hdots _ (not_isOwnName_dots (.inr rfl)) h.dots, ?_, .inr ?_⟩
  · unfold Logger.openedNext
    split_ifs <;> exact h.count
  · cases call with
    | init =>
      unfold LogDir.own
      show Active ((s.files.openCreate sys.now name).1.names.filter (isOwnName s.p.appID)) _
      rw [hown]
      refine ⟨htracked _ rfl rfl, ?_, trivial⟩
      show ((s.own ++ [name]).length : ℤ) ≤ s.p.fileCount
      dsimp only at hroom
      omega
    | write data1 data2 =>
      unfold LogDir.own
      show Active ((s.files.openCreate sys.now name).1.names.filter (isOwnName s.p.appID)) _
      rw [hown]
      exact ⟨htracked _ rfl rfl, hroom.2, trivial⟩

/-- **A buffer is written.** -/
theorem LogInvariant.writeBuffer (hroom : (s.own.length : ℤ) ≤ s.p.fileCount) (data : Option (List UInt8))
    {next : Logger}
    (hnext : next.appID = s.p.appID ∧ next.fileList = s.p.fileList ∧ next.fileCount = s.p.fileCount)
    (hphase : next.phase = .idle ∨ ∃ data1 data2, next.phase = .write2 data1 data2) :
    LogInvariant ⟨(s.p.writeBuffer sys s.files data next).1, (s.p.writeBuffer sys s.files data next).2⟩ := by
  obtain ⟨happ, hlist, hcount⟩ := hnext
  have hnextroom : ∀ p : Logger, p.phase = next.phase → p.fileCount = next.fileCount →
      Room s.own p ∧ NewName s.own p := by
    intro p hp hc
    unfold Room NewName
    rw [hp, hc, hcount]
    rcases hphase with hidle | ⟨data1, data2, hwrite⟩
    · rw [hidle]
      exact ⟨hroom, trivial⟩
    · rw [hwrite]
      exact ⟨hroom, trivial⟩
  have htracked : ∀ p : Logger, p.appID = next.appID → p.fileList = next.fileList → Tracked s.own p := by
    intro p hp hl
    constructor
    · rw [hp, hl, happ, hlist]
      exact hactive.listed
    · rw [hp, hl, happ, hlist]
      exact hactive.others
  have hown : ∀ files p, files.names = s.files.names → p.appID = s.p.appID → LogDir.own ⟨files, p⟩ = s.own := by
    intro files p hnames hp
    unfold LogDir.own
    rw [hnames, hp]
  unfold Logger.writeBuffer
  cases data with
  | none =>
    refine ⟨h.distinct, h.dot, h.dots, hcount ▸ h.count, .inr ?_⟩
    rw [hown _ _ rfl happ]
    exact ⟨htracked _ rfl rfl, (hnextroom _ rfl rfl).1, (hnextroom _ rfl rfl).2⟩
  | some bytes =>
    cases s.p.dltFileHandle with
    | none => exact ⟨h.distinct, h.dot, h.dots, h.count, .inr ⟨⟨hactive.listed, hactive.others⟩, trivial, trivial⟩⟩
    | some handle =>
      dsimp only
      have hnames := names_write s.files sys.now handle.i handle.off (Logger.taken sys bytes)
      refine ⟨h.distinct.write _ _ _ _, ?_, ?_, hcount ▸ h.count, .inr ?_⟩
      · rw [hnames]
        exact h.dot
      · rw [hnames]
        exact h.dots
      · rw [hown _ _ hnames]
        · exact ⟨htracked _ rfl rfl, (hnextroom _ rfl rfl).1, (hnextroom _ rfl rfl).2⟩
        · exact happ

end

/-- **The logger goes on.** -/
theorem LogInvariant.step (hsafe : SafeLogOp s (.step sys)) : LogInvariant (s.step (.step sys)) := by
  obtain ⟨hsys, hfree⟩ := hsafe
  rcases h.logger with ⟨hidle, -⟩ | hactive
  · unfold LogDir.step Logger.step
    rw [hidle]
    exact h
  · have hroom := hactive.room
    unfold Room at hroom
    cases hphase : s.p.phase with
    | idle =>
      unfold LogDir.step Logger.step
      rw [hphase]
      exact h
    | crashed =>
      unfold LogDir.step Logger.step
      rw [hphase]
      exact h
    | pop call => exact h.pop hactive hphase hsys
    | access call stamp name index => exact h.access hactive hphase (hfree call stamp name index hphase)
    | opening call name => exact h.opening hactive hphase hsys.2.2.2.1
    | write1 data1 data2 =>
      rw [hphase] at hroom
      unfold LogDir.step Logger.step
      rw [hphase]
      exact h.writeBuffer hactive hroom data1 ⟨rfl, rfl, rfl⟩ (.inr ⟨data1, data2, rfl⟩)
    | write2 data1 data2 =>
      rw [hphase] at hroom
      unfold LogDir.step Logger.step
      rw [hphase]
      exact h.writeBuffer hactive hroom data2 ⟨rfl, rfl, rfl⟩ (.inl rfl)

end

end step

/-! ## Runs -/

theorem LogInvariant.other {s : LogDir} {files : LogFiles} (h : LogInvariant s) (hdistinct : files.Distinct)
    (hdots : ∀ name, name = ascii "." ∨ name = ascii ".." → name ∈ files.names → name ∈ s.files.names)
    (hown : files.names.filter (isOwnName s.p.appID) = s.own) : LogInvariant { s with files := files } := by
  refine ⟨hdistinct, fun hmem => h.dot (hdots _ (.inl rfl) hmem), fun hmem => h.dots (hdots _ (.inr rfl) hmem),
    h.count, ?_⟩
  have heq : LogDir.own { s with files := files } = s.own := hown
  rw [heq]
  exact h.logger

/-- **The logger removes its oldest files only, and keeps no more files than it should**, in every run whose steps
do no harm. -/
theorem keepsNewest {s : LogDir} (hreach : Reach LogDir.Start LogDir.step SafeLogOp s) : KeepsNewest s := by
  apply LogInvariant.newest
  refine hreach.invariant ?_ ?_
  · rintro s ⟨hdistinct, hdot, hdots, hcount, hidle, hnone⟩
    exact ⟨hdistinct, hdot, hdots, hcount, .inl ⟨hidle, hnone⟩⟩
  · intro s op h hsafe
    cases op with
    | begin sys call => exact h.begin hsafe
    | step sys => exact h.step hsafe
    | create now name =>
      obtain ⟨hother, hdot, hdots⟩ := hsafe
      cases hhas : s.files.has name with
      | true =>
        obtain ⟨i, f, heq, -⟩ := openCreate_of_has now hhas
        unfold LogDir.step
        dsimp only
        rw [heq]
        exact h
      | false =>
        have hnames := names_openCreate_of_not now hhas
        refine h.other (h.distinct.openCreate now name) ?_ ?_
        · intro a ha hmem
          rw [hnames] at hmem
          rcases mem_append.mp hmem with hmem | hmem
          · exact hmem
          · obtain rfl := mem_singleton.mp hmem
            rcases ha with heq | heq
            · exact absurd heq hdot
            · exact absurd heq hdots
        · rw [hnames, filter_append, filter_singleton, hother]
          exact append_nil _
    | write now i off data =>
      have hnames := names_write s.files now i off data
      refine h.other (h.distinct.write now i off data) ?_ ?_
      · intro a _ hmem
        exact hnames ▸ hmem
      · rw [hnames]
        rfl
    | remove name =>
      have hnames := names_unlink s.files name
      refine h.other (h.distinct.unlink name) ?_ ?_
      · intro a _ hmem
        rw [hnames] at hmem
        exact (mem_filter.mp hmem).1
      · rw [hnames, filter_comm]
        apply filter_ne_of_not_mem
        intro hmem
        have hown := (mem_filter.mp hmem).2
        rw [hsafe] at hown
        exact Bool.noConfusion hown

/-- All operations succeed, on the first of January. -/
def calmLogSystem : LogSystem where
  now := 1000
  stamp := ascii "20200101-000000"
  mkdir := true
  scans := true
  removes := true
  opens := true
  writes := 1000000

theorem succeeds_calmLogSystem : calmLogSystem.Succeeds := ⟨rfl, rfl, rfl, rfl, by decide⟩

/-- A logger of the application `A` before its initialisation, which keeps two files. -/
def newLogger : Logger := ⟨ascii "A", 2, 0, [], none, .idle, 0⟩

/-- The directory has a file of the application and another one. -/
def sampleLogDir : LogDir :=
  ⟨[⟨ascii "A20190101-000000.dlt", true, [1], 900⟩, ⟨ascii "other.txt", true, [], 900⟩], newLogger⟩

instance {phase : LogPhase} {p : List UInt8 → ℕ → Prop} [∀ name index, Decidable (p name index)] :
    Decidable (∀ call stamp name index, phase = .access call stamp name index → p name index) :=
  match phase with
  | .access _ _ name index =>
    decidable_of_iff (p name index) ⟨fun h _ _ _ _ heq => by cases heq; exact h, fun h => h _ _ _ _ rfl⟩
  | .idle | .pop _ | .opening _ _ | .write1 _ _ | .write2 _ _ | .crashed => isTrue nofun

instance (sys : LogSystem) : Decidable sys.Succeeds := inferInstanceAs (Decidable (_ ∧ _))

instance : (s : LogDir) → (op : LogOp) → Decidable (SafeLogOp s op)
  | _, .begin _ .init => inferInstanceAs (Decidable (_ ∧ _))
  | s, .begin _ (.write _ _) => inferInstanceAs (Decidable (_ ∧ ∀ handle ∈ s.p.dltFileHandle, _))
  | _, .step _ => inferInstanceAs (Decidable (_ ∧ _))
  | _, .create _ _ => inferInstanceAs (Decidable (_ ∧ _))
  | _, .write _ _ _ _ => isTrue trivial
  | _, .remove _ => inferInstanceAs (Decidable (_ = _))

/-- The logger is initialised and writes two messages; with the second one its file is changed and the oldest one is
removed. -/
def sampleLogOps : List LogOp :=
  [.begin calmLogSystem .init, .begin calmLogSystem (.write (some [5]) (some [6])),
    .begin calmLogSystem (.write (some [7]) none)].flatMap (· :: List.replicate 8 (.step calmLogSystem))

theorem keepsNewest_sample : KeepsNewest (sampleLogOps.foldl LogDir.step sampleLogDir) := by
  have hstart : LogDir.Start sampleLogDir := by
    unfold LogDir.Start Directory.Distinct
    decide
  exact keepsNewest (.run (.start hstart) (by decide +kernel))

/-- The application `A` is about to remove a file that it did not create: the id occurs in the name. -/
theorem removes_other_file :
    let files : LogFiles := [⟨ascii "Alpha.txt", true, [1], 1⟩, ⟨ascii "Abeta.txt", true, [2], 2⟩,
      ⟨ascii "AB20200101-000000.dlt", true, [3], 3⟩]
    LogDir.Start ⟨files, newLogger⟩ ∧ calmLogSystem.Succeeds ∧
      ¬ KeepsNewest (LogDir.step ⟨files, newLogger⟩ (.begin calmLogSystem .init)) := by
  refine ⟨⟨?_, by decide, by decide, by decide, rfl, rfl⟩, succeeds_calmLogSystem, ?_⟩
  · unfold Directory.Distinct
    decide
  · intro h
    have hremoval := h.removal .init (ascii "Abeta.txt") (by decide +kernel) (by decide +kernel) (by decide +kernel)
    exact absurd hremoval.1 (by decide +kernel)

end Dlt.User
