import Mathlib.Order.MinMax

/-!
# The highest of some values, and of a base

* `raise_le_iff` — what bounds it; from this, `raise_congr` (it only depends on which values occur) and
  `raise_append` (the values can be taken in parts, and in any order).
-/

namespace Dlt.Lib

variable {α : Type*} [LinearOrder α] {values values' : List α} {base bound : α}

/-- The base is raised to each of the values that is higher. -/
def raise (values : List α) (base : α) : α := values.foldl (fun base value => max value base) base

@[simp] theorem raise_nil (base : α) : raise [] base = base := rfl

@[simp] theorem raise_cons (value : α) (values : List α) (base : α) :
    raise (value :: values) base = raise values (max value base) := rfl

theorem raise_le_iff : raise values base ≤ bound ↔ base ≤ bound ∧ ∀ value ∈ values, value ≤ bound := by
  induction values generalizing base with
  | nil => simp
  | cons value values ih =>
    rw [raise_cons, ih, max_le_iff, List.forall_mem_cons]
    constructor
    · rintro ⟨⟨hvalue, hbase⟩, hvalues⟩
      exact ⟨hbase, hvalue, hvalues⟩
    · rintro ⟨hbase, hvalue, hvalues⟩
      exact ⟨⟨hvalue, hbase⟩, hvalues⟩

theorem le_raise (values : List α) (base : α) : base ≤ raise values base :=
  (raise_le_iff.mp (le_refl (raise values base))).1

theorem le_raise_of_mem {value : α} (h : value ∈ values) : value ≤ raise values base :=
  (raise_le_iff.mp (le_refl (raise values base))).2 value h

theorem raise_congr (h : ∀ value, value ∈ values ↔ value ∈ values') : raise values base = raise values' base := by
  apply le_antisymm
  · rw [raise_le_iff]
    exact ⟨le_raise values' base, fun value hin => le_raise_of_mem ((h value).mp hin)⟩
  · rw [raise_le_iff]
    exact ⟨le_raise values base, fun value hin => le_raise_of_mem ((h value).mpr hin)⟩

theorem raise_append (values values' : List α) (base : α) :
    raise (values ++ values') base = raise values' (raise values base) := List.foldl_append

theorem raise_max (values : List α) (base other : α) :
    raise values (max other base) = max other (raise values base) := by
  induction values generalizing base with
  | nil => rfl
  | cons value values ih => rw [raise_cons, raise_cons, ← ih, max_left_comm]

theorem raise_eq_max {low : α} (h : low ≤ base) : raise values base = max base (raise values low) := by
  rw [← raise_max, max_eq_left h]

end Dlt.Lib
