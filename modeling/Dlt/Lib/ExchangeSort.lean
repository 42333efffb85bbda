import Mathlib.Data.List.Perm.Basic
import Mathlib.Data.List.Sort
import Mathlib.Data.Nat.Notation

/-!
# Sorting by exchanging neighbours

* `pairwise_exchangeSort` — **the list is sorted** after no more passes than it has elements, and one.
-/

namespace Dlt.Lib

open List

variable {α : Type*} (greater : α → α → Bool)

/-- A pass that carries an element, and whether it exchanged nothing. -/
def exchangeFrom (a : α) : List α → List α × Bool
  | [] => ([a], true)
  | b :: rest =>
    if greater a b then (b :: (exchangeFrom a rest).1, false)
    else (a :: (exchangeFrom b rest).1, (exchangeFrom b rest).2)

def exchangePass : List α → List α × Bool
  | [] => ([], true)
  | a :: rest => exchangeFrom greater a rest

/-- At most so many passes. -/
def exchangeSort : ℕ → List α → List α
  | 0, xs => xs
  | passes + 1, xs =>
    if (exchangePass greater xs).2 then xs else exchangeSort passes (exchangePass greater xs).1

theorem exchangeFrom_perm (a : α) (rest : List α) : (exchangeFrom greater a rest).1.Perm (a :: rest) := by
  induction rest generalizing a with
  | nil => exact .refl _
  | cons b rest ih =>
    unfold exchangeFrom
    split_ifs
    · exact ((ih a).cons b).trans (.swap a b rest)
    · exact (ih b).cons a

theorem exchangePass_perm (xs : List α) : (exchangePass greater xs).1.Perm xs := by
  cases xs with
  | nil => exact .refl _
  | cons a rest => exact exchangeFrom_perm greater a rest

theorem exchangeSort_perm (passes : ℕ) (xs : List α) : (exchangeSort greater passes xs).Perm xs := by
  induction passes generalizing xs with
  | zero => exact .refl _
  | succ passes ih =>
    unfold exchangeSort
    split_ifs
    · exact .refl _
    · exact (ih _).trans (exchangePass_perm greater xs)

/-! ## What a pass does -/

section order

variable {greater} {le : α → α → Prop} (hgreater : ∀ a b, greater a b = false ↔ le a b)
  (hle : ∀ a b, greater a b = true → le b a) (htrans : ∀ a b c, le a b → le b c → le a c)

include hgreater in
theorem isChain_of_exchangeFrom {a : α} {rest : List α} (h : (exchangeFrom greater a rest).2 = true) :
    (a :: rest).IsChain le := by
  induction rest generalizing a with
  | nil => exact .singleton a
  | cons b rest ih =>
    unfold exchangeFrom at h
    split_ifs at h with hab
    exact .cons_cons ((hgreater a b).mp (Bool.eq_false_iff.mpr hab)) (ih h)

include hgreater in
theorem exchangeFrom_sorted {a : α} {rest : List α} (h : (a :: rest).Pairwise le) :
    (exchangeFrom greater a rest).1 = a :: rest := by
  induction rest generalizing a with
  | nil => rfl
  | cons b rest ih =>
    obtain ⟨ha, hrest⟩ := pairwise_cons.mp h
    have hab := (hgreater a b).mpr (ha b mem_cons_self)
    unfold exchangeFrom
    rw [if_neg (by rw [hab]; exact Bool.false_ne_true), ih hrest]

include hgreater in
/-- What is sorted at the end, and not less than what is before it, stays. -/
theorem exchangeFrom_append {a : α} {rest back : List α} (hback : back.Pairwise le)
    (hbelow : ∀ x ∈ a :: rest, ∀ y ∈ back, le x y) :
    (exchangeFrom greater a (rest ++ back)).1 = (exchangeFrom greater a rest).1 ++ back := by
  induction rest generalizing a with
  | nil =>
    rw [nil_append, exchangeFrom_sorted hgreater]
    · rfl
    · exact pairwise_cons.mpr ⟨hbelow a mem_cons_self, hback⟩
  | cons b rest ih =>
    have hcarried := ih (a := a) fun x hx => hbelow x (by
      rcases mem_cons.mp hx with rfl | hx
      · exact mem_cons_self
      · exact mem_cons_of_mem a (mem_cons_of_mem b hx))
    have hleft := ih (a := b) fun x hx => hbelow x (mem_cons_of_mem a hx)
    rw [cons_append]
    unfold exchangeFrom
    split_ifs
    · rw [hcarried]
      rfl
    · rw [hleft]
      rfl

include hgreater hle htrans in
theorem exchangeFrom_last (hrefl : ∀ a, le a a) (a : α) (rest : List α) :
    ∃ front last, (exchangeFrom greater a rest).1 = front ++ [last] ∧ ∀ x ∈ a :: rest, le x last := by
  induction rest generalizing a with
  | nil => exact ⟨[], a, rfl, fun x hx => mem_singleton.mp hx ▸ hrefl a⟩
  | cons b rest ih =>
    unfold exchangeFrom
    split_ifs with hab
    · obtain ⟨front, last, heq, hlast⟩ := ih a
      refine ⟨b :: front, last, by rw [heq]; rfl, ?_⟩
      have ha := hlast a mem_cons_self
      intro x hx
      rcases mem_cons.mp hx with rfl | hx
      · exact ha
      · rcases mem_cons.mp hx with rfl | hx
        · exact htrans _ _ _ (hle _ _ hab) ha
        · exact hlast x (mem_cons_of_mem a hx)
    · obtain ⟨front, last, heq, hlast⟩ := ih b
      refine ⟨a :: front, last, by rw [heq]; rfl, ?_⟩
      intro x hx
      rcases mem_cons.mp hx with rfl | hx
      · exact htrans _ _ _ ((hgreater _ _).mp (Bool.eq_false_iff.mpr hab)) (hlast b mem_cons_self)
      · exact hlast x hx

/-! ## What the passes do -/

/-- The last elements are sorted, and not less than the others. -/
def SortedBack (le : α → α → Prop) (n : ℕ) (xs : List α) : Prop :=
  ∃ front back, xs = front ++ back ∧ back.length = n ∧ back.Pairwise le ∧ ∀ x ∈ front, ∀ y ∈ back, le x y

include hgreater hle htrans in
/-- **One more element is at its place.** -/
theorem SortedBack.exchangePass (hrefl : ∀ a, le a a) {n : ℕ} {xs : List α} (h : SortedBack le n xs)
    (hn : n < xs.length) : SortedBack le (n + 1) (exchangePass greater xs).1 := by
  obtain ⟨front, back, rfl, hlen, hback, hbelow⟩ := h
  cases front with
  | nil =>
    rw [nil_append, hlen] at hn
    exact absurd hn (Nat.lt_irrefl n)
  | cons a rest =>
    obtain ⟨front, last, heq, hlast⟩ := exchangeFrom_last hgreater hle htrans hrefl a rest
    have hperm := exchangeFrom_perm greater a rest
    rw [heq] at hperm
    refine ⟨front, last :: back, ?_, ?_, ?_, ?_⟩
    · have happend := exchangeFrom_append hgreater hback hbelow
      rw [heq, append_assoc] at happend
      exact happend
    · rw [length_cons, hlen]
    · refine pairwise_cons.mpr ⟨?_, hback⟩
      exact hbelow last (hperm.subset (mem_append_right front mem_cons_self))
    · intro x hx y hy
      have hxmem := hperm.subset (mem_append_left [last] hx)
      rcases mem_cons.mp hy with rfl | hy
      · exact hlast x hxmem
      · exact hbelow x hxmem y hy

theorem SortedBack.pairwise {n : ℕ} {xs : List α} (h : SortedBack le n xs) (hn : xs.length ≤ n) :
    xs.Pairwise le := by
  obtain ⟨front, back, rfl, hlen, hback, -⟩ := h
  rw [length_append] at hn
  have hnil : front = [] := eq_nil_of_length_eq_zero (by omega)
  rw [hnil]
  exact hback

include hgreater hle htrans in
theorem SortedBack.exchangeSort (hrefl : ∀ a, le a a) {n passes : ℕ} {xs : List α} (h : SortedBack le n xs)
    (hpasses : xs.length ≤ n + passes) : (exchangeSort greater passes xs).Pairwise le := by
  induction passes generalizing n xs with
  | zero => exact h.pairwise hpasses
  | succ passes ih =>
    unfold Lib.exchangeSort
    split_ifs with hdone
    · cases xs with
      | nil => exact .nil
      | cons a rest =>
        have : IsTrans α le := ⟨htrans⟩
        exact (isChain_of_exchangeFrom hgreater hdone).pairwise
    · have hlen := (exchangePass_perm greater xs).length_eq
      rcases Nat.lt_or_ge n xs.length with hlt | hge
      · exact ih (h.exchangePass hgreater hle htrans hrefl hlt) (by omega)
      · cases xs with
        | nil => exact absurd rfl hdone
        | cons a rest =>
          have hsorted := h.pairwise hge
          have hsame : (Lib.exchangePass greater (a :: rest)).1 = a :: rest :=
            exchangeFrom_sorted hgreater hsorted
          rw [hsame]
          exact ih h (by omega)

include hgreater hle htrans in
/-- **The list is sorted** after no more passes than it has elements. -/
theorem pairwise_exchangeSort (hrefl : ∀ a, le a a) {passes : ℕ} {xs : List α} (hpasses : xs.length ≤ passes) :
    (exchangeSort greater passes xs).Pairwise le := by
  have hstart : SortedBack le 0 xs := by
    refine ⟨xs, [], (append_nil xs).symm, rfl, .nil, ?_⟩
    intro x _ y hy
    exact absurd hy not_mem_nil
  exact hstart.exchangeSort hgreater hle htrans hrefl (by omega)

end order

end Dlt.Lib
