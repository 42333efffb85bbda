import Dlt.Lib.Ring
import Mathlib.Data.List.Nodup
import Mathlib.Data.Int.Notation

/-!
# The files of a directory

A file keeps its content when it is removed from the directory: a descriptor still refers to it. The files
are listed in the order of their creation, and a descriptor is the position of its file.

* `Directory.names` — the names of the files, and what each operation does to them.
* `Directory.Distinct` — **no two files have one name**. The operations keep it.
* `Directory.stored` — what the files of some kind hold. Removing the first of them leaves a suffix
  (`ofKind_unlink`), and what is written at the end of the last file comes behind it (`stored_write_last`).
-/

namespace Dlt.Lib

open List

variable {Name α : Type*}

structure File (Name α : Type*) where
  name : Name
  linked : Bool
  content : List α
  mtime : ℤ
deriving DecidableEq

/-- All files there have been, in the order of their creation. -/
abbrev Directory (Name α : Type*) := List (File Name α)

namespace Directory

variable {d : Directory Name α} {name : Name} {now : ℤ}
variable {p : Name → Bool}

/-- The files that the directory has. -/
def listed (d : Directory Name α) : List (File Name α) := d.filter (·.linked)

/-- `write` at an offset. Writing nothing does nothing. -/
def write (d : Directory Name α) (now : ℤ) (i off : ℕ) (data : List α) : Directory Name α :=
  if data = [] then d
  else d.modify i fun f => { f with content := overwrite f.content off data, mtime := now }

def names (d : Directory Name α) : List Name := d.listed.map File.name

/-- **No two files have one name.** -/
def Distinct (d : Directory Name α) : Prop := d.names.Nodup

/-- The content of the file of a descriptor. -/
def contentAt (d : Directory Name α) (i : ℕ) : Option (List α) := d[i]?.map File.content

def ofKind (d : Directory Name α) (p : Name → Bool) : List (File Name α) := d.listed.filter fun f => p f.name

/-- What the files of some kind hold. -/
def stored (d : Directory Name α) (p : Name → Bool) : List α := (d.ofKind p).flatMap File.content

/-- The number of elements of the files that the directory has and that are of some kind. -/
def total (d : Directory Name α) (p : Name → Bool) : ℕ := (d.stored p).length

/-! ## Files -/

theorem mem_listed {f : File Name α} : f ∈ d.listed ↔ f ∈ d ∧ f.linked = true := mem_filter

theorem listed_append (d d' : Directory Name α) : listed (d ++ d') = d.listed ++ d'.listed :=
  filter_append ..

theorem stored_append (d d' : Directory Name α) (p : Name → Bool) :
    stored (d ++ d') p = d.stored p ++ d'.stored p := by
  unfold stored ofKind
  rw [listed_append, filter_append, flatMap_append]

theorem total_append (d d' : Directory Name α) (p : Name → Bool) :
    total (d ++ d') p = d.total p + d'.total p := by
  unfold total
  rw [stored_append, length_append]

theorem stored_cons (f : File Name α) (d : Directory Name α) (p : Name → Bool) :
    stored (f :: d) p = (if f.linked && p f.name then f.content else []) ++ d.stored p := by
  unfold stored ofKind listed
  rw [filter_cons]
  cases f.linked with
  | false => rw [if_neg Bool.false_ne_true, Bool.false_and, if_neg Bool.false_ne_true, nil_append]
  | true =>
    rw [if_pos rfl, Bool.true_and, filter_cons]
    split_ifs
    · rw [flatMap_cons]
    · rw [nil_append]

theorem total_cons (f : File Name α) (d : Directory Name α) (p : Name → Bool) :
    total (f :: d) p = (if f.linked && p f.name then f.content.length else 0) + d.total p := by
  unfold total
  rw [stored_cons, length_append]
  split_ifs <;> rfl

theorem stored_singleton {f : File Name α} (hlinked : f.linked = true) (hname : p f.name = true) :
    stored [f] p = f.content := by
  rw [stored_cons, hlinked, hname]
  exact append_nil _

/-! ## Writing -/

section write

variable {i off : ℕ} {data : List α} {f : File Name α}

theorem split_at (hf : d[i]? = some f) : d = d.take i ++ f :: d.drop (i + 1) := by
  obtain ⟨hlt, rfl⟩ := List.getElem?_eq_some_iff.mp hf
  rw [← drop_eq_getElem_cons hlt, take_append_drop]

theorem write_eq (hf : d[i]? = some f) (now : ℤ) (hdata : data ≠ []) :
    d.write now i off data =
      d.take i ++ { f with content := overwrite f.content off data, mtime := now } :: d.drop (i + 1) := by
  obtain ⟨hlt, rfl⟩ := List.getElem?_eq_some_iff.mp hf
  unfold write
  rw [if_neg hdata, modify_eq_take_cons_drop hlt]

theorem write_nil (d : Directory Name α) (now : ℤ) (i off : ℕ) : d.write now i off [] = d := if_pos rfl

@[simp] theorem length_write (d : Directory Name α) (now : ℤ) (i off : ℕ) (data : List α) :
    (d.write now i off data).length = d.length := by
  unfold write
  split_ifs
  · rfl
  · exact length_modify ..

theorem write_get (hf : d[i]? = some f) (now : ℤ) (data : List α) (hoff : off ≤ f.content.length) :
    ∃ f', (d.write now i off data)[i]? = some f' ∧ f'.content = overwrite f.content off data ∧
      f'.linked = f.linked ∧ f'.name = f.name := by
  by_cases hdata : data = []
  · subst hdata
    rw [write_nil, overwrite_nil]
    exact ⟨f, hf, rfl, rfl, rfl⟩
  · obtain ⟨hlt, rfl⟩ := List.getElem?_eq_some_iff.mp hf
    unfold write
    rw [if_neg hdata, getElem?_modify, hf]
    exact ⟨_, congrArg some (if_pos rfl), rfl, rfl, rfl⟩

theorem contentAt_write_end {content : List α} (h : d.contentAt i = some content) (now : ℤ) (data : List α) :
    (d.write now i content.length data).contentAt i = some (content ++ data) := by
  obtain ⟨f, hf, rfl⟩ := Option.map_eq_some_iff.mp h
  obtain ⟨f', hf', hcontent, -⟩ := write_get hf now data (Nat.le_refl _)
  unfold contentAt
  rw [hf', Option.map_some, hcontent, overwrite_length]

theorem contentAt_write_of_ne {j : ℕ} (hij : i ≠ j) (now : ℤ) (data : List α) :
    (d.write now i off data).contentAt j = d.contentAt j := by
  unfold write contentAt
  split_ifs
  · rfl
  · rw [getElem?_modify]
    simp only [if_neg hij]
    cases d[j]? <;> rfl

theorem write_names (d : Directory Name α) (now : ℤ) (i off : ℕ) (data : List α) :
    (d.write now i off data).map (fun f => (f.linked, f.name)) = d.map fun f => (f.linked, f.name) := by
  unfold write
  split_ifs
  · rfl
  · apply ext_getElem?
    intro j
    rw [getElem?_map, getElem?_map, getElem?_modify]
    cases d[j]? with
    | none => rfl
    | some g =>
      by_cases hj : i = j
      · simp [hj]
      · simp [hj]

theorem names_eq (d : Directory Name α) :
    d.names = ((d.map fun f => (f.linked, f.name)).filter Prod.fst).map Prod.snd := by
  unfold names listed
  rw [filter_map, map_map]
  rfl

@[simp] theorem names_write (d : Directory Name α) (now : ℤ) (i off : ℕ) (data : List α) :
    (d.write now i off data).names = d.names := by
  rw [names_eq, write_names, ← names_eq]

theorem Distinct.write (h : d.Distinct) (now : ℤ) (i off : ℕ) (data : List α) :
    (d.write now i off data).Distinct := by
  unfold Distinct
  rw [names_write]
  exact h

/-- **A file grows by what is written** behind its end. -/
theorem total_write_le (hf : d[i]? = some f) (now : ℤ) (data : List α) (hoff : off ≤ f.content.length)
    (p : Name → Bool) :
    (d.write now i off data).total p ≤ d.total p + ((overwrite f.content off data).length - f.content.length) := by
  by_cases hdata : data = []
  · subst hdata
    rw [write_nil]
    omega
  · rw [write_eq hf now hdata]
    conv_rhs => rw [split_at hf]
    have hlen := length_overwrite_eq_max data hoff
    rw [total_append, total_append, total_cons, total_cons]
    dsimp only
    split_ifs <;> omega

/-- **What is written at the end of the last file.** -/
theorem stored_write_last (hf : d[i]? = some f) (hlast : i + 1 = d.length) (hlinked : f.linked = true)
    (hname : p f.name = true) (now : ℤ) (data : List α) :
    (d.write now i f.content.length data).stored p = d.stored p ++ data := by
  by_cases hdata : data = []
  · rw [hdata, write_nil, append_nil]
  · have hnew := stored_singleton (f := { f with content := f.content ++ data, mtime := now }) hlinked hname
    rw [write_eq hf now hdata]
    conv_rhs => rw [split_at hf]
    rw [hlast, drop_length, stored_append, stored_append, stored_singleton hlinked hname, overwrite_length,
      hnew, append_assoc]

end write

/-! ## Names -/

variable [DecidableEq Name]

/-- The file with a name. -/
def lookup (d : Directory Name α) (name : Name) : Option (File Name α) :=
  d.find? fun f => f.linked && f.name = name

/-- The directory has a file with a name. -/
def has (d : Directory Name α) (name : Name) : Bool := d.any fun f => f.linked && f.name = name

/-- `open` with `O_CREAT`: the file is created if there is none. -/
def openCreate (d : Directory Name α) (now : ℤ) (name : Name) : Directory Name α × ℕ :=
  match d.findIdx? fun f => f.linked && f.name = name with
  | some i => (d, i)
  | none => (d ++ [{ name, linked := true, content := [], mtime := now }], d.length)

/-- `remove`. -/
def unlink (d : Directory Name α) (name : Name) : Directory Name α :=
  d.map fun f => if f.linked && f.name = name then { f with linked := false } else f

/-! ## Looking up -/

theorem has_iff : d.has name = true ↔ ∃ f ∈ d.listed, f.name = name := by
  unfold has
  rw [any_eq_true]
  constructor
  · rintro ⟨f, hf, hname⟩
    rw [Bool.and_eq_true, decide_eq_true_iff] at hname
    exact ⟨f, mem_listed.mpr ⟨hf, hname.1⟩, hname.2⟩
  · rintro ⟨f, hf, rfl⟩
    exact ⟨f, (mem_listed.mp hf).1, by rw [(mem_listed.mp hf).2, decide_eq_true rfl]; rfl⟩

theorem has_iff_mem : d.has name = true ↔ name ∈ d.names := by
  rw [has_iff]
  unfold names
  rw [mem_map]

/-! ## Opening -/

theorem openCreate_of_not (now : ℤ) (h : d.has name = false) :
    d.openCreate now name = (d ++ [{ name, linked := true, content := [], mtime := now }], d.length) := by
  unfold openCreate
  have hnone : (d.findIdx? fun f => f.linked && f.name = name) = none := by
    rw [findIdx?_eq_none_iff]
    exact fun f hf => Bool.eq_false_iff.mpr (any_eq_false.mp h f hf)
  rw [hnone]

theorem openCreate_of_has (now : ℤ) (h : d.has name = true) :
    ∃ i f, d.openCreate now name = (d, i) ∧ d[i]? = some f ∧ f.linked = true ∧ f.name = name := by
  unfold openCreate
  cases hidx : d.findIdx? fun f => f.linked && f.name = name with
  | none =>
    rw [findIdx?_eq_none_iff] at hidx
    obtain ⟨f, hf, hname⟩ := any_eq_true.mp h
    rw [hidx f hf] at hname
    exact Bool.noConfusion hname
  | some i =>
    obtain ⟨hlt, hname, -⟩ := findIdx?_eq_some_iff_getElem.mp hidx
    rw [Bool.and_eq_true, decide_eq_true_iff] at hname
    exact ⟨i, d[i], rfl, getElem?_eq_getElem hlt, hname.1, hname.2⟩

section

variable (d : Directory Name α) (now : ℤ) (name : Name)

/-- The file that is opened is the one that is looked up, or a new one. -/
theorem openCreate_lookup :
    ∃ f, (d.openCreate now name).1[(d.openCreate now name).2]? = some f ∧ f.linked = true ∧ f.name = name ∧
      (d.lookup name = none ∧ (d.openCreate now name).2 = d.length ∨
        d.lookup name = some f ∧ (d.openCreate now name).2 < d.length) := by
  unfold openCreate lookup
  cases hidx : d.findIdx? fun f => f.linked && f.name = name with
  | none =>
    refine ⟨_, getElem?_concat_length, rfl, rfl, .inl ⟨?_, rfl⟩⟩
    rw [findIdx?_eq_none_iff] at hidx
    exact find?_eq_none.mpr fun f hf => Bool.eq_false_iff.mp (hidx f hf)
  | some i =>
    obtain ⟨hlt, hname, hbefore⟩ := findIdx?_eq_some_iff_getElem.mp hidx
    have hfound : d.find? (fun f => f.linked && f.name = name) = some d[i] := by
      refine find?_eq_some_iff_getElem.mpr ⟨hname, i, hlt, rfl, fun j hj => ?_⟩
      rw [Bool.eq_false_iff.mpr (hbefore j hj)]
      rfl
    rw [Bool.and_eq_true, decide_eq_true_iff] at hname
    exact ⟨d[i], getElem?_eq_getElem hlt, hname.1, hname.2, .inr ⟨hfound, hlt⟩⟩

theorem openCreate_get :
    ∃ f, (d.openCreate now name).1[(d.openCreate now name).2]? = some f ∧ f.linked = true ∧ f.name = name := by
  obtain ⟨f, hget, hlinked, hname, -⟩ := d.openCreate_lookup now name
  exact ⟨f, hget, hlinked, hname⟩

theorem contentAt_openCreate {i : ℕ} (hi : i < d.length) :
    (d.openCreate now name).1.contentAt i = d.contentAt i := by
  cases h : d.has name with
  | true =>
    obtain ⟨j, f, heq, -⟩ := openCreate_of_has now h
    rw [heq]
  | false =>
    rw [openCreate_of_not now h]
    unfold contentAt
    rw [getElem?_append_left hi]

theorem total_openCreate (p : Name → Bool) :
    (d.openCreate now name).1.total p = d.total p := by
  cases h : d.has name with
  | true =>
    obtain ⟨i, f, heq, -⟩ := openCreate_of_has now h
    rw [heq]
  | false =>
    rw [openCreate_of_not now h]
    rw [total_append, total_cons]
    split_ifs <;> rfl

end

theorem names_openCreate_of_not (now : ℤ) (h : d.has name = false) :
    (d.openCreate now name).1.names = d.names ++ [name] := by
  rw [openCreate_of_not now h]
  unfold names
  rw [listed_append, map_append]
  rfl

theorem Distinct.openCreate (h : d.Distinct) (now : ℤ) (name : Name) : (d.openCreate now name).1.Distinct := by
  cases hhas : d.has name with
  | true =>
    obtain ⟨i, f, heq, -⟩ := openCreate_of_has now hhas
    rw [heq]
    exact h
  | false =>
    unfold Distinct
    rw [names_openCreate_of_not now hhas, nodup_append]
    refine ⟨h, nodup_singleton name, ?_⟩
    intro a ha b hb heq
    obtain rfl : b = name := mem_singleton.mp hb
    rw [heq, ← has_iff_mem, hhas] at ha
    exact Bool.noConfusion ha

/-! ## Removing -/

theorem listed_unlink (d : Directory Name α) (name : Name) :
    (d.unlink name).listed = d.listed.filter fun f => f.name ≠ name := by
  unfold unlink listed
  induction d with
  | nil => rfl
  | cons f d ih =>
    rw [map_cons, filter_cons, ih, filter_cons]
    cases hlinked : f.linked with
    | false => simp [hlinked]
    | true =>
      by_cases hname : f.name = name
      · simp [hname]
      · simp [hlinked, hname]

/-- **The first file of some kind is removed.** -/
theorem ofKind_unlink {f : File Name α} {fs : List (File Name α)} (h : d.Distinct) (hkind : d.ofKind p = f :: fs) :
    (d.unlink f.name).ofKind p = fs := by
  have hnames : (d.ofKind p).map File.name |>.Nodup := (filter_sublist.map File.name).nodup h
  rw [hkind, map_cons, nodup_cons] at hnames
  have hrest : ∀ g ∈ fs, g.name ≠ f.name := by
    intro g hg heq
    exact hnames.1 (heq ▸ mem_map_of_mem hg)
  unfold ofKind at hkind ⊢
  rw [listed_unlink, filter_comm, hkind, filter_cons, if_neg (by simp)]
  rw [filter_eq_self]
  intro g hg
  exact decide_eq_true (hrest g hg)

section

variable (d : Directory Name α) (name : Name)

@[simp] theorem names_unlink :
    (d.unlink name).names = d.names.filter (· ≠ name) := by
  unfold names
  rw [listed_unlink, filter_map]
  rfl

@[simp] theorem contentAt_unlink (i : ℕ) :
    (d.unlink name).contentAt i = d.contentAt i := by
  unfold unlink contentAt
  rw [getElem?_map, Option.map_map]
  congr 1
  funext f
  dsimp only [Function.comp_apply]
  split_ifs <;> rfl

theorem length_unlink : (d.unlink name).length = d.length :=
  length_map ..

theorem getElem?_unlink (i : ℕ) :
    (d.unlink name)[i]? = d[i]?.map fun f => if f.linked && f.name = name then { f with linked := false } else f :=
  getElem?_map ..

end

theorem unlink_of_not_has (h : d.has name = false) : d.unlink name = d := by
  unfold unlink
  conv_rhs => rw [← map_id d]
  exact map_congr_left fun f hf => if_neg (any_eq_false.mp h f hf)

/-- A file that is removed was there. -/
theorem exists_unlinked (h : d.has name = true) :
    ∃ (i : ℕ) (f : File Name α), d[i]? = some f ∧ f.linked = true ∧
      (d.unlink name)[i]? = some { f with linked := false } := by
  obtain ⟨f, hf, hname⟩ := has_iff.mp h
  obtain ⟨hmem, hlinked⟩ := mem_listed.mp hf
  obtain ⟨i, hi⟩ := mem_iff_getElem?.mp hmem
  refine ⟨i, f, hi, hlinked, ?_⟩
  rw [getElem?_unlink, hi, Option.map_some, if_pos]
  rw [hlinked, decide_eq_true hname]
  rfl

theorem Distinct.unlink (h : d.Distinct) (name : Name) : (d.unlink name).Distinct := by
  unfold Distinct
  rw [names_unlink]
  exact h.filter _

theorem length_listed_unlink_lt (h : d.has name = true) : (d.unlink name).listed.length < d.listed.length := by
  obtain ⟨f, hf, hname⟩ := has_iff.mp h
  rw [listed_unlink]
  apply length_filter_lt_length_iff_exists.mpr
  exact ⟨f, hf, by simpa using hname⟩

end Directory

end Dlt.Lib
