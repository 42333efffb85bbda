import Mathlib.Data.List.Basic
import Mathlib.Data.Nat.Notation
import Mathlib.Tactic.Ring

/-!
# A list cut into pieces

* `flatten_pieces` — the pieces make the list; `of_mem_pieces` — each has at least one and at most `size`
  elements; `length_pieces` — how many there are; `getElem?_pieces` — where the `i`-th one lies.
* `map_mapIdx`, `mapIdx_self`, `flatMap_ite_singleton` — rules for lists that are made piece by piece.
-/

namespace Dlt.Lib

open List

variable {α : Type*}

/-- The list in pieces of `size` elements. -/
def pieces (size : ℕ) (xs : List α) : List (List α) :=
  if _h : 0 < size ∧ 0 < xs.length then xs.take size :: pieces size (xs.drop size) else []
termination_by xs.length
decreasing_by
  rw [List.length_drop]
  omega

@[simp] theorem pieces_nil (size : ℕ) : pieces size ([] : List α) = [] := by
  rw [pieces, dif_neg (by simp)]

theorem pieces_of_pos {size : ℕ} {xs : List α} (hsize : 0 < size) (hpos : 0 < xs.length) :
    pieces size xs = xs.take size :: pieces size (xs.drop size) := by
  rw [pieces, dif_pos ⟨hsize, hpos⟩]

section

variable {size : ℕ} (hsize : 0 < size)

include hsize

theorem flatten_pieces (xs : List α) : (pieces size xs).flatten = xs := by
  induction xs using pieces.induct size with
  | case1 xs h ih => rw [pieces_of_pos h.1 h.2, flatten_cons, ih, take_append_drop]
  | case2 xs h =>
    have hnil : xs = [] := eq_nil_of_length_eq_zero (by omega)
    rw [hnil, pieces_nil, flatten_nil]

/-- A piece has at least one and at most `size` elements. -/
theorem of_mem_pieces (xs : List α) : ∀ p ∈ pieces size xs, 0 < p.length ∧ p.length ≤ size := by
  induction xs using pieces.induct size with
  | case1 xs h ih =>
    rw [pieces_of_pos h.1 h.2]
    intro p hp
    rcases mem_cons.mp hp with rfl | hin
    · rw [length_take]
      omega
    · exact ih p hin
  | case2 xs h =>
    have hnil : xs = [] := eq_nil_of_length_eq_zero (by omega)
    simp [hnil]

theorem getElem?_pieces (xs : List α) (i : ℕ) :
    (pieces size xs)[i]? = if i * size < xs.length then some ((xs.drop (i * size)).take size) else none := by
  induction xs using pieces.induct size generalizing i with
  | case1 xs h ih =>
    rw [pieces_of_pos h.1 h.2]
    cases i with
    | zero => simp [h.2]
    | succ i =>
      rw [getElem?_cons_succ, ih, length_drop, drop_drop]
      have hadd : size + i * size = (i + 1) * size := by ring
      rw [hadd]
      by_cases hin : (i + 1) * size < xs.length
      · rw [if_pos hin, if_pos (by rw [← hadd] at hin; omega)]
      · rw [if_neg hin, if_neg (by rw [← hadd] at hin; omega)]
  | case2 xs h =>
    have hnil : xs = [] := eq_nil_of_length_eq_zero (by omega)
    simp [hnil]

theorem length_pieces (xs : List α) : (pieces size xs).length = (xs.length + size - 1) / size := by
  induction xs using pieces.induct size with
  | case1 xs h ih =>
    rw [pieces_of_pos h.1 h.2, length_cons, ih, length_drop]
    by_cases hle : size ≤ xs.length
    · have hsum : xs.length + size - 1 = (xs.length - size + size - 1) + size := by omega
      rw [hsum, Nat.add_div_right _ hsize]
    · have hzero : xs.length - size + size - 1 = size - 1 := by omega
      have hone : xs.length + size - 1 = (xs.length - 1) + size := by omega
      rw [hzero, hone, Nat.add_div_right _ hsize, Nat.div_eq_of_lt (by omega),
        Nat.div_eq_of_lt (by omega)]
  | case2 xs h =>
    have hnil : xs = [] := eq_nil_of_length_eq_zero (by omega)
    simp only [hnil, pieces_nil, length_nil, Nat.zero_add]
    exact (Nat.div_eq_of_lt (by omega)).symm

end

section

variable {β γ : Type*}

theorem map_mapIdx (g : β → γ) (f : ℕ → α → β) (xs : List α) :
    (xs.mapIdx f).map g = xs.mapIdx fun i x => g (f i x) := by
  apply ext_getElem?
  intro i
  rw [getElem?_map, getElem?_mapIdx, getElem?_mapIdx, Option.map_map]
  rfl

theorem mapIdx_self (xs : List α) : (xs.mapIdx fun _ x => x) = xs :=
  mapIdx_eq_iff.mpr fun _ => Option.map_id'.symm

theorem flatMap_ite_singleton (p : α → Prop) [DecidablePred p] (f : α → β) (xs : List α) :
    (xs.flatMap fun x => if p x then [f x] else []) = (xs.filter fun x => p x).map f := by
  induction xs with
  | nil => rfl
  | cons x xs ih =>
    rw [flatMap_cons, ih]
    by_cases hp : p x
    · rw [if_pos hp, filter_cons_of_pos (by simpa using hp), map_cons]
      rfl
    · rw [if_neg hp, filter_cons_of_neg (by simpa using hp), nil_append]

end

end Dlt.Lib
