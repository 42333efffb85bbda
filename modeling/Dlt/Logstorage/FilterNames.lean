import Dlt.User.OfflineFilesKept

/-!
# The names of filter sections

* `validateFilterName_iff` — the check accepts exactly the names of filter sections, **if the character that is not
  looked at is a digit**.
-/

namespace Dlt.Logstorage

open Dlt.Lib List
open Dlt.User (isdigit)

/-! ## The check -/

/-- `DLT_OFFLINE_LOGSTORAGE_CONFIG_SECTION`. Source: `dlt_offline_logstorage.h` -/
def dltOfflineLogstorageConfigSection : List UInt8 := ascii "FILTER"

/-- `DLT_OFFLINE_LOGSTORAGE_NONVERBOSE_STORAGE_SECTION`. Source: `dlt_offline_logstorage.h` -/
def dltOfflineLogstorageNonverboseStorageSection : List UInt8 := ascii "NON-VERBOSE-STORAGE-FILTER"

/-- `DLT_OFFLINE_LOGSTORAGE_NONVERBOSE_CONTROL_SECTION`. Source: `dlt_offline_logstorage.h` -/
def dltOfflineLogstorageNonverboseControlSection : List UInt8 := ascii "NON-VERBOSE-LOGLEVEL-CTRL"

/-- The loop `for (idx = ...; idx < stop; idx++)` over the characters from `name[idx]` on. -/
def digitLoop (stop : ℤ) : ℕ → List UInt8 → ℤ
  | _, [] => 0
  | idx, c :: rest => if idx < stop then (if isdigit c then digitLoop stop (idx + 1) rest else -1) else 0

/-- The loop behind a prefix; the length of the name is an `int`, and the last character is left out. -/
def numberCheck (name prefixText : List UInt8) : ℤ :=
  digitLoop (i32 name.length - 1) prefixText.length (name.drop prefixText.length)

/-- Source: `dlt_offline_logstorage.c`, `dlt_logstorage_validate_filter_name` -/
def dltLogstorageValidateFilterName : Option (List UInt8) → ℤ
  | none => -1
  | some name =>
    if dltOfflineLogstorageConfigSection <+: name then numberCheck name dltOfflineLogstorageConfigSection
    else if dltOfflineLogstorageNonverboseStorageSection <+: name then
      numberCheck name dltOfflineLogstorageNonverboseStorageSection
    else if dltOfflineLogstorageNonverboseControlSection <+: name then
      numberCheck name dltOfflineLogstorageNonverboseControlSection
    else -1

/-! ## What it should accept -/

/-- The prefixes of the sections with filters. -/
def filterSections : List (List UInt8) :=
  [dltOfflineLogstorageConfigSection, dltOfflineLogstorageNonverboseStorageSection,
    dltOfflineLogstorageNonverboseControlSection]

/-- A prefix, one or more digits, and nothing else. -/
def IsFilterName (name : List UInt8) : Prop :=
  ∃ front ∈ filterSections, ∃ number, name = front ++ number ∧ number ≠ [] ∧ ∀ c ∈ number, isdigit c = true

/-- How many characters behind a prefix are looked at. -/
def looked (name front : List UInt8) : ℕ := (i32 name.length - 1 - front.length).toNat

/-- Behind a prefix one of the characters that are looked at is no digit, or there are characters and those that are
not looked at are digits. -/
def RestIsDigits (name : List UInt8) : Prop :=
  ∀ front ∈ filterSections, ∀ rest, name = front ++ rest →
    (∃ c ∈ rest.take (looked name front), isdigit c = false) ∨
      rest ≠ [] ∧ ∀ c ∈ rest.drop (looked name front), isdigit c = true

section check

variable {name front rest : List UInt8}

/-- What the loop over the characters checks: all but the last one. -/
theorem digitLoop_eq_zero_iff (stop : ℤ) (idx : ℕ) (rest : List UInt8) :
    digitLoop stop idx rest = 0 ↔ ∀ c ∈ rest.take (stop - idx).toNat, isdigit c = true := by
  induction rest generalizing idx with
  | nil => simp [digitLoop]
  | cons c rest ih =>
    unfold digitLoop
    by_cases hidx : (idx : ℤ) < stop
    · have htake : (stop - idx).toNat = (stop - (idx + 1 : ℕ)).toNat + 1 := by omega
      rw [if_pos hidx, htake, take_succ_cons]
      by_cases hc : isdigit c = true
      · simp [hc, ih]
      · simp [hc]
    · have hzero : (stop - idx).toNat = 0 := by omega
      simp [hidx, hzero]

theorem numberCheck_eq_zero_iff (front rest : List UInt8) :
    numberCheck (front ++ rest) front = 0 ↔ ∀ c ∈ rest.take (looked (front ++ rest) front), isdigit c = true := by
  unfold numberCheck looked
  rw [drop_left, digitLoop_eq_zero_iff]

/-- No name has two of the prefixes. -/
theorem prefix_unique (hfront : front ∈ filterSections) {other : List UInt8} (hother : other ∈ filterSections)
    (h : front <+: name) (h' : other <+: name) : front = other := by
  have hall : ∀ a ∈ filterSections, ∀ b ∈ filterSections, (a <+: b ∨ b <+: a) → a = b := by decide
  exact hall front hfront other hother (List.prefix_or_prefix_of_prefix h h')

/-- **The check of a name with a prefix** is the check of what is behind it. -/
theorem validateFilterName_append (hfront : front ∈ filterSections) (rest : List UInt8) :
    dltLogstorageValidateFilterName (some (front ++ rest)) = numberCheck (front ++ rest) front := by
  have hprefix : front <+: front ++ rest := prefix_append front rest
  have hother : ∀ other ∈ filterSections, other <+: front ++ rest → front = other :=
    fun other hmem h => prefix_unique hfront hmem hprefix h
  unfold dltLogstorageValidateFilterName
  dsimp only
  split_ifs with hconfig hstorage hcontrol
  · rw [hother _ (by simp [filterSections]) hconfig]
  · rw [hother _ (by simp [filterSections]) hstorage]
  · rw [hother _ (by simp [filterSections]) hcontrol]
  · simp only [filterSections, mem_cons, not_mem_nil, or_false] at hfront
    rcases hfront with rfl | rfl | rfl
    · exact absurd hprefix hconfig
    · exact absurd hprefix hstorage
    · exact absurd hprefix hcontrol

theorem validateFilterName_of_not (h : ∀ front ∈ filterSections, ¬ front <+: name) :
    dltLogstorageValidateFilterName (some name) = -1 := by
  unfold dltLogstorageValidateFilterName
  dsimp only
  rw [if_neg (h _ (by simp [filterSections])), if_neg (h _ (by simp [filterSections])),
    if_neg (h _ (by simp [filterSections]))]

theorem isFilterName_append (hfront : front ∈ filterSections) (rest : List UInt8) :
    IsFilterName (front ++ rest) ↔ rest ≠ [] ∧ ∀ c ∈ rest, isdigit c = true := by
  constructor
  · rintro ⟨other, hother, number, heq, hne, hdigits⟩
    obtain rfl := prefix_unique hfront hother (prefix_append front rest) (heq ▸ prefix_append other number)
    rw [append_cancel_left heq]
    exact ⟨hne, hdigits⟩
  · rintro ⟨hne, hdigits⟩
    exact ⟨front, hfront, rest, rfl, hne, hdigits⟩

theorem restIsDigits_append (hfront : front ∈ filterSections) (rest : List UInt8) :
    RestIsDigits (front ++ rest) ↔ (∃ c ∈ rest.take (looked (front ++ rest) front), isdigit c = false) ∨
      rest ≠ [] ∧ ∀ c ∈ rest.drop (looked (front ++ rest) front), isdigit c = true := by
  constructor
  · exact fun h => h front hfront rest rfl
  · intro h other hother rest' heq
    obtain rfl := prefix_unique hfront hother (prefix_append front rest) (heq ▸ prefix_append other rest')
    rw [← append_cancel_left heq]
    exact h

/-- **The check accepts exactly the names of filter sections** if and only if what it does not look at is right. -/
theorem validateFilterName_iff (name : List UInt8) :
    (dltLogstorageValidateFilterName (some name) = 0 ↔ IsFilterName name) ↔ RestIsDigits name := by
  by_cases hfound : ∃ front ∈ filterSections, front <+: name
  · obtain ⟨front, hfront, rest, rfl⟩ := hfound
    rw [validateFilterName_append hfront, numberCheck_eq_zero_iff, isFilterName_append hfront,
      restIsDigits_append hfront]
    generalize looked (front ++ rest) front = n
    -- The characters behind the prefix are those that are looked at, and the others.
    have hsplit : (∀ c ∈ rest, isdigit c = true) ↔
        (∀ c ∈ rest.take n, isdigit c = true) ∧ ∀ c ∈ rest.drop n, isdigit c = true := by
      rw [← forall_mem_append, take_append_drop]
    have hlooked : (∃ c ∈ rest.take n, isdigit c = false) ↔ ¬ ∀ c ∈ rest.take n, isdigit c = true := by simp
    rw [hsplit, hlooked]
    tauto
  · have hnone : ∀ front ∈ filterSections, ¬ front <+: name := fun front hmem h => hfound ⟨front, hmem, h⟩
    have hnot : ¬ IsFilterName name := by
      rintro ⟨front, hmem, number, rfl, -⟩
      exact hnone front hmem (prefix_append front number)
    have hdigits : RestIsDigits name := by
      rintro front hmem rest rfl
      exact absurd (prefix_append front rest) (hnone front hmem)
    simp [validateFilterName_of_not hnone, hnot, hdigits]

/-- There is no number, but the name is accepted. -/
theorem validateFilterName_no_number :
    ¬ (dltLogstorageValidateFilterName (some (ascii "FILTERx")) = 0 ↔ IsFilterName (ascii "FILTERx")) := by
  have hname : ascii "FILTERx" = dltOfflineLogstorageConfigSection ++ ascii "x" := rfl
  have hfront : dltOfflineLogstorageConfigSection ∈ filterSections := by simp [filterSections]
  have hlooked : looked (dltOfflineLogstorageConfigSection ++ ascii "x") dltOfflineLogstorageConfigSection = 0 := rfl
  rw [hname, isFilterName_append hfront, validateFilterName_append hfront, numberCheck_eq_zero_iff, hlooked]
  intro h
  exact absurd ((h.mp (by simp)).2 120 (by decide)) (by decide)

end check

end Dlt.Logstorage
