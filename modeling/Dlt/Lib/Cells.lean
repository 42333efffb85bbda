import Mathlib.Logic.Function.Basic
import Mathlib.Data.Nat.Notation

/-!
# A table whose values are mirrored behind pointers

* `Mirror.store`, `Mirror.alloc`, `Mirror.free`, `Mirror.restrict` — what keeps a mirror: a value that goes to both
  places, a pointer to a new cell, a pointer that is released, and a table that forgets pointers.
-/

namespace Dlt.Lib

variable {ι α : Type*}
variable {p : ℕ}

/-! ## Cells -/

/-- The cells of the memory by their address; `none` is a cell that is not allocated. -/
abbrev Cells (α : Type*) := ℕ → Option α

namespace Cells

/-- A value is written through a pointer, if there is one. -/
def write (cells : Cells α) (ptr : Option ℕ) (a : α) : Cells α :=
  match ptr with
  | none => cells
  | some p => Function.update cells p (some a)

/-- The cell that a pointer points to is released, if there is one. -/
def free (cells : Cells α) (ptr : Option ℕ) : Cells α :=
  match ptr with
  | none => cells
  | some p => Function.update cells p none

@[simp] theorem write_self (cells : Cells α) (p : ℕ) (a : α) : cells.write (some p) a p = some a := by
  rw [write, Function.update_self]

theorem write_of_ne (cells : Cells α) {ptr : Option ℕ} (a : α) (h : ptr ≠ some p) :
    cells.write ptr a p = cells p := by
  cases ptr with
  | none => rfl
  | some q => exact Function.update_of_ne (fun hq => h (congrArg some hq.symm)) _ _

theorem free_of_ne (cells : Cells α) {ptr : Option ℕ} (h : ptr ≠ some p) : cells.free ptr p = cells p := by
  cases ptr with
  | none => rfl
  | some q => exact Function.update_of_ne (fun hq => h (congrArg some hq.symm)) _ _

theorem isSome_write {cells : Cells α} (ptr : Option ℕ) (a : α) (h : (cells p).isSome) :
    (cells.write ptr a p).isSome := by
  by_cases hp : ptr = some p
  · subst hp
    simp
  · rwa [write_of_ne cells a hp]

/-- Only finitely many cells are allocated. -/
def Finite (cells : Cells α) : Prop := ∃ n, ∀ p, n ≤ p → cells p = none

theorem Finite.write {cells : Cells α} (h : cells.Finite) (ptr : Option ℕ) (a : α) : (cells.write ptr a).Finite := by
  obtain ⟨n, hn⟩ := h
  cases ptr with
  | none => exact ⟨n, hn⟩
  | some q =>
    refine ⟨max n (q + 1), fun p hp => ?_⟩
    rw [write_of_ne]
    · exact hn p (Nat.le_trans (Nat.le_max_left n (q + 1)) hp)
    · intro heq
      have hqp := Nat.le_trans (Nat.le_max_right n (q + 1)) hp
      rw [Option.some.inj heq] at hqp
      exact absurd hqp (Nat.not_succ_le_self p)

end Cells

/-! ## Mirrors -/

/-- The values of a table are mirrored in the cells behind its pointers, at the places of `on`. -/
structure Mirror (cells : Cells α) (ptr : ι → Option ℕ) (val : ι → Option α) (on : ι → Prop) : Prop where
  allocated : ∀ i p, ptr i = some p → (cells p).isSome
  /-- No two places have the same pointer. -/
  distinct : ∀ i j p, ptr i = some p → ptr j = some p → i = j
  /-- The cell holds the value of the table. -/
  holds : ∀ i p, on i → ptr i = some p → cells p = val i

namespace Mirror

variable {cells : Cells α} {ptr ptr' : ι → Option ℕ} {val val' : ι → Option α} {on on' : ι → Prop}

section

variable (h : Mirror cells ptr val on)
include h

theorem ptr_ne {i j : ι} (hne : j ≠ i) (hj : ptr j = some p) :
    ptr i ≠ some p := fun hi => hne (h.distinct j i p hj hi)

/-- **A value that goes into the table and through the pointer is mirrored from then on.** -/
theorem store (i : ι) (a : α) (hval : ∀ j, j ≠ i → val' j = val j) (hi : val' i = some a)
    (hon : ∀ j, on' j → on j ∨ j = i) : Mirror (cells.write (ptr i) a) ptr val' on' where
  allocated j p hj := Cells.isSome_write _ a (h.allocated j p hj)
  distinct := h.distinct
  holds j p hj hp := by
    by_cases hji : j = i
    · subst hji
      rw [hp, Cells.write_self, hi]
    · rw [Cells.write_of_ne cells a (h.ptr_ne hji hp), hval j hji]
      exact h.holds j p ((hon j hj).resolve_right hji) hp

theorem alloc {i : ι} (a : α) (hp : cells p = none) (hon : ¬ on i) (hi : ptr' i = some p)
    (hptr : ∀ j, j ≠ i → ptr' j = ptr j) : Mirror (cells.write (some p) a) ptr' val on := by
  have hfresh : ∀ j q, ptr j = some q → some p ≠ some q := by
    rintro j q hj hpq
    cases hpq
    simpa [hp] using h.allocated j p hj
  refine ⟨?_, ?_, ?_⟩
  · intro j q hj
    by_cases hji : j = i
    · rw [hji, hi] at hj
      cases hj
      simp
    · rw [hptr j hji] at hj
      exact Cells.isSome_write _ a (h.allocated j q hj)
  · intro j k q hj hk
    by_cases hji : j = i
    · by_cases hki : k = i
      · rw [hji, hki]
      · rw [hji, hi] at hj
        rw [hptr k hki] at hk
        exact absurd hj (hfresh k q hk)
    · rw [hptr j hji] at hj
      by_cases hki : k = i
      · rw [hki, hi] at hk
        exact absurd hk (hfresh j q hj)
      · rw [hptr k hki] at hk
        exact h.distinct j k q hj hk
  · intro j q hj hq
    have hji : j ≠ i := by
      rintro rfl
      exact hon hj
    rw [hptr j hji] at hq
    rw [Cells.write_of_ne cells a (hfresh j q hq)]
    exact h.holds j q hj hq

theorem free (i : ι) (hi : ptr' i = none) (hptr : ∀ j, j ≠ i → ptr' j = ptr j)
    (hval : ∀ j, j ≠ i → val' j = val j) : Mirror (cells.free (ptr i)) ptr' val' on := by
  have hne : ∀ {j q}, ptr' j = some q → j ≠ i ∧ ptr j = some q := by
    intro j q hj
    have hji : j ≠ i := by
      rintro rfl
      rw [hi] at hj
      cases hj
    exact ⟨hji, by rw [← hptr j hji, hj]⟩
  refine ⟨?_, ?_, ?_⟩
  · intro j q hj
    obtain ⟨hji, hq⟩ := hne hj
    rw [Cells.free_of_ne cells (h.ptr_ne hji hq)]
    exact h.allocated j q hq
  · intro j k q hj hk
    exact h.distinct j k q (hne hj).2 (hne hk).2
  · intro j q hj hq
    obtain ⟨hji, hq⟩ := hne hq
    rw [Cells.free_of_ne cells (h.ptr_ne hji hq), hval j hji]
    exact h.holds j q hj hq

theorem restrict (hptr : ∀ j p, ptr' j = some p → ptr j = some p)
    (hon : ∀ j p, on' j → ptr' j = some p → on j ∧ val' j = val j) : Mirror cells ptr' val' on' where
  allocated j p hj := h.allocated j p (hptr j p hj)
  distinct j k p hj hk := h.distinct j k p (hptr j p hj) (hptr k p hk)
  holds j p hj hp := by
    obtain ⟨hold, hval⟩ := hon j p hj hp
    rw [hval]
    exact h.holds j p hold (hptr j p hp)

end

end Mirror

end Dlt.Lib
