import Mathlib.Data.List.Chain

/-!
# Loops by index over a list that shrinks

A loop counts an index up over the positions of a list, and the body removes elements from the list. What
is behind a removed element moves one place to the front, and the next turn passes over one element.

* `visitedOnce gone` — the elements that it comes to if the body removes all elements that are to go when
  it comes to the first one. `forall_mem_visitedOnce_iff` is the same for it.
-/

namespace Dlt.Lib

open List

variable {α : Type*} (gone : α → Bool) {kind : α → Bool}

/-- The elements that a loop comes to whose body removes an element that is to go. -/
def visited : List α → List α
  | [] => []
  | [a] => [a]
  | a :: b :: rest => if gone a then a :: visited rest else a :: visited (b :: rest)

/-- The elements that a loop comes to whose body removes all elements that are to go at once. -/
def visitedOnce : List α → List α
  | [] => []
  | a :: rest => if gone a then a :: (rest.filter (!gone ·)).tail else a :: visitedOnce rest

theorem visited_sublist (xs : List α) : (visited gone xs).Sublist xs := by
  induction xs using visited.induct gone with
  | case1 => exact .slnil
  | case2 a => exact .refl _
  | case3 a b rest ha ih =>
    rw [visited, if_pos ha]
    exact (ih.cons b).cons_cons a
  | case4 a b rest ha ih =>
    rw [visited, if_neg ha]
    exact ih.cons_cons a

theorem visitedOnce_sublist (xs : List α) : (visitedOnce gone xs).Sublist xs := by
  induction xs with
  | nil => exact .slnil
  | cons a rest ih =>
    unfold visitedOnce
    split_ifs
    · exact ((tail_sublist _).trans filter_sublist).cons_cons a
    · exact ih.cons_cons a

theorem visited_cons_of_not {a : α} (ha : gone a = false) (rest : List α) :
    visited gone (a :: rest) = a :: visited gone rest := by
  cases rest with
  | nil => rfl
  | cons b rest => rw [visited, if_neg (by rw [ha]; exact Bool.false_ne_true)]

theorem visited_cons_of_gone {a : α} (ha : gone a = true) (rest : List α) :
    visited gone (a :: rest) = a :: visited gone rest.tail := by
  cases rest with
  | nil => rfl
  | cons b rest => rw [visited, if_pos ha, tail_cons]

variable {gone}

/-- **The loop comes to all elements of a kind** if and only if none of them is behind an element that is
removed. -/
theorem forall_mem_visited_iff {xs : List α} (hnodup : xs.Nodup) (hkind : ∀ a, gone a → kind a) :
    (∀ a ∈ xs, kind a → a ∈ visited gone xs) ↔ xs.IsChain fun a b => ¬ (gone a ∧ kind b) := by
  induction xs using visited.induct gone with
  | case1 => simp [visited]
  | case2 a => simp [visited]
  | case3 a b rest ha ih =>
    rw [nodup_cons, nodup_cons] at hnodup
    obtain ⟨ha', hb', hrest⟩ := hnodup
    rw [visited, if_pos ha, isChain_cons_cons]
    have hsub := (visited_sublist gone rest).subset
    constructor
    · intro hall
      have hb : ¬ kind b = true := by
        intro hkb
        rcases mem_cons.mp (hall b (by simp) hkb) with rfl | hb
        · exact ha' mem_cons_self
        · exact hb' (hsub hb)
      refine ⟨fun h => hb h.2, ?_⟩
      have hchain := (ih hrest).mp fun c hc hkc => by
        rcases mem_cons.mp (hall c (by simp [hc]) hkc) with rfl | hmem
        · exact absurd (mem_cons_of_mem b hc) ha'
        · exact hmem
      cases rest with
      | nil => exact isChain_singleton b
      | cons c rest => exact isChain_cons_cons.mpr ⟨fun h => hb (hkind b h.1), hchain⟩
    · rintro ⟨hab, hchain⟩ c hc hkc
      have hb : ¬ kind b = true := fun hkb => hab ⟨ha, hkb⟩
      rcases mem_cons.mp hc with rfl | hc
      · exact mem_cons_self
      · rcases mem_cons.mp hc with rfl | hc
        · exact absurd hkc hb
        · exact mem_cons_of_mem a ((ih hrest).mpr hchain.tail c hc hkc)
  | case4 a b rest ha ih =>
    rw [nodup_cons] at hnodup
    rw [visited, if_neg ha, isChain_cons_cons, ← ih hnodup.2]
    constructor
    · intro hall
      refine ⟨fun h => ha h.1, fun c hc hkc => ?_⟩
      rcases mem_cons.mp (hall c (mem_cons_of_mem a hc) hkc) with rfl | hmem
      · exact absurd hc hnodup.1
      · exact hmem
    · rintro ⟨-, hall⟩ c hc hkc
      rcases mem_cons.mp hc with rfl | hc
      · exact mem_cons_self
      · exact mem_cons_of_mem a (hall c hc hkc)

/-- **The loop comes to all elements of a kind that stay** if and only if none of them is the first one
that stays behind the first one that is removed. -/
theorem forall_mem_visitedOnce_iff {xs : List α} (hnodup : xs.Nodup) :
    (∀ a ∈ xs, kind a → gone a = false → a ∈ visitedOnce gone xs) ↔
      ∀ a ∈ ((xs.dropWhile (!gone ·)).filter (!gone ·)).head?, ¬ kind a = true := by
  induction xs with
  | nil => simp
  | cons a rest ih =>
    obtain ⟨ha', hrest⟩ := nodup_cons.mp hnodup
    unfold visitedOnce
    split_ifs with ha
    · rw [dropWhile_cons_of_neg (by simpa using ha), filter_cons_of_neg (by simpa using ha)]
      have hnodup' := hrest.filter (!gone ·)
      have hmem : ∀ {c}, c ∈ rest.filter (!gone ·) ↔ c ∈ rest ∧ gone c = false := by
        intro c
        rw [mem_filter, Bool.not_eq_true']
      cases hfilter : rest.filter (!gone ·) with
      | nil =>
        rw [hfilter] at hmem
        constructor
        · exact fun _ c hc => absurd hc nofun
        · intro _ c hc _ hgone
          rcases mem_cons.mp hc with rfl | hc
          · exact mem_cons_self
          · exact absurd (hmem.mpr ⟨hc, hgone⟩) not_mem_nil
      | cons b tail =>
        rw [hfilter] at hmem hnodup'
        have hb := hmem.mp mem_cons_self
        constructor
        · intro hall c hc hkc
          obtain rfl : b = c := Option.some.inj hc
          rcases mem_cons.mp (hall b (mem_cons_of_mem a hb.1) hkc hb.2) with rfl | hmem'
          · exact ha' hb.1
          · exact (nodup_cons.mp hnodup').1 hmem'
        · intro hhead c hc hkc hgone
          rcases mem_cons.mp hc with rfl | hc
          · exact mem_cons_self
          · rcases mem_cons.mp (hmem.mpr ⟨hc, hgone⟩) with rfl | hmem'
            · exact absurd hkc (hhead c rfl)
            · exact mem_cons_of_mem a hmem'
    · rw [dropWhile_cons_of_pos (by simpa using ha), ← ih hrest]
      constructor
      · intro hall c hc hkc hgone
        rcases mem_cons.mp (hall c (mem_cons_of_mem a hc) hkc hgone) with rfl | hmem
        · exact absurd hc ha'
        · exact hmem
      · intro hall c hc hkc hgone
        rcases mem_cons.mp hc with rfl | hc
        · exact mem_cons_self
        · exact mem_cons_of_mem a (hall c hc hkc hgone)

end Dlt.Lib
