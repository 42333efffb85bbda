import Mathlib.Tactic.Common

/-!
# Loops that may not end

* `ends_iff_of_again` — one turn does not matter. `not_ends_of_keeps` — a loop does not end if every turn
  from a kind of states leads to that kind of states again, or is undefined.
* `EndsWith.keeps` — what every turn keeps holds of the result.
* `noted` — the loop with notes of what each turn does. `EndsWith.of_noted` — the notes change nothing, and
  `EndsWith.prefix_of_noted` — they only grow.
-/

namespace Dlt.Lib

/-- What one turn of a loop over the states `S` does that gives an `R` in the end. -/
inductive Turn (S R : Type*)
  | done (result : R)
  | again (state : S)
  | undefined
deriving DecidableEq

variable {S R : Type*} {turn : S → Turn S R} {s s' : S} {r r' : R}

/-- At most `fuel` turns. -/
def loop (turn : S → Turn S R) : ℕ → S → Option R
  | 0, _ => none
  | fuel + 1, s =>
      match turn s with
      | .done r => some r
      | .again s' => loop turn fuel s'
      | .undefined => none

/-- The loop ends with a result. -/
def EndsWith (turn : S → Turn S R) (s : S) (r : R) : Prop := ∃ fuel, loop turn fuel s = some r

def Ends (turn : S → Turn S R) (s : S) : Prop := ∃ r, EndsWith turn s r

/-! ## One turn -/

theorem endsWith_iff_of_done (h : turn s = .done r) : EndsWith turn s r' ↔ r = r' := by
  constructor
  · rintro ⟨fuel, hfuel⟩
    cases fuel with
    | zero => exact absurd hfuel nofun
    | succ fuel =>
      rw [loop, h] at hfuel
      exact Option.some.inj hfuel
  · rintro rfl
    exact ⟨1, by rw [loop, h]⟩

theorem endsWith_iff_of_again (h : turn s = .again s') : EndsWith turn s r ↔ EndsWith turn s' r := by
  constructor
  · rintro ⟨fuel, hfuel⟩
    cases fuel with
    | zero => exact absurd hfuel nofun
    | succ fuel =>
      rw [loop, h] at hfuel
      exact ⟨fuel, hfuel⟩
  · rintro ⟨fuel, hfuel⟩
    exact ⟨fuel + 1, by rw [loop, h]; exact hfuel⟩

theorem not_endsWith_of_undefined (h : turn s = .undefined) : ¬ EndsWith turn s r := by
  rintro ⟨fuel, hfuel⟩
  cases fuel with
  | zero => exact absurd hfuel nofun
  | succ fuel =>
    rw [loop, h] at hfuel
    exact absurd hfuel nofun

theorem ends_of_done (h : turn s = .done r) : Ends turn s := ⟨r, (endsWith_iff_of_done h).mpr rfl⟩

theorem ends_iff_of_again (h : turn s = .again s') : Ends turn s ↔ Ends turn s' :=
  exists_congr fun _ => endsWith_iff_of_again h

theorem not_ends_of_undefined (h : turn s = .undefined) : ¬ Ends turn s :=
  fun ⟨_, hr⟩ => not_endsWith_of_undefined h hr

/-! ## Many turns -/

/-- **A loop does not end** if every turn from a kind of states leads to that kind of states again, or is
undefined. -/
theorem not_ends_of_keeps (kind : S → Prop)
    (hkeeps : ∀ s, kind s → turn s = .undefined ∨ ∃ s', turn s = .again s' ∧ kind s') (h : kind s) :
    ¬ Ends turn s := by
  rintro ⟨r, fuel, hfuel⟩
  induction fuel generalizing s with
  | zero => exact absurd hfuel nofun
  | succ fuel ih =>
    rcases hkeeps s h with hturn | ⟨s', hturn, hkind⟩
    · rw [loop, hturn] at hfuel
      exact absurd hfuel nofun
    · rw [loop, hturn] at hfuel
      exact ih hkind hfuel

theorem EndsWith.keeps {inv : S → Prop} {post : R → Prop} (hdone : ∀ s r, inv s → turn s = .done r → post r)
    (hagain : ∀ s s', inv s → turn s = .again s' → inv s') (h : EndsWith turn s r) (hs : inv s) : post r := by
  obtain ⟨fuel, hfuel⟩ := h
  induction fuel generalizing s with
  | zero => exact absurd hfuel nofun
  | succ fuel ih =>
    rw [loop] at hfuel
    cases hturn : turn s with
    | done r' =>
      rw [hturn] at hfuel
      obtain rfl : r' = r := Option.some.inj hfuel
      exact hdone s r' hs hturn
    | again s' =>
      rw [hturn] at hfuel
      exact ih (hagain s s' hs hturn) hfuel
    | undefined =>
      rw [hturn] at hfuel
      exact absurd hfuel nofun

/-! ## Notes -/

variable {E : Type*} {note : S → List E} {es es' : List E}

/-- The loop with notes: `note` is what is noted of a turn. -/
def noted (turn : S → Turn S R) (note : S → List E) (x : S × List E) : Turn (S × List E) (R × List E) :=
  match turn x.1 with
  | .done r => .done (r, x.2 ++ note x.1)
  | .again s => .again (s, x.2 ++ note x.1)
  | .undefined => .undefined

theorem noted_of_done (h : turn s = .done r) : noted turn note (s, es) = .done (r, es ++ note s) := by
  rw [noted, h]

theorem noted_of_again (h : turn s = .again s') : noted turn note (s, es) = .again (s', es ++ note s) := by
  rw [noted, h]

theorem EndsWith.of_noted (h : EndsWith (noted turn note) (s, es) (r, es')) : EndsWith turn s r := by
  obtain ⟨fuel, hfuel⟩ := h
  induction fuel generalizing s es with
  | zero => exact absurd hfuel nofun
  | succ fuel ih =>
    cases hturn : turn s with
    | done r' =>
      rw [loop, noted_of_done hturn] at hfuel
      exact (endsWith_iff_of_done hturn).mpr (congrArg Prod.fst (Option.some.inj hfuel))
    | again s' =>
      rw [loop, noted_of_again hturn] at hfuel
      exact (endsWith_iff_of_again hturn).mpr (ih hfuel)
    | undefined =>
      rw [loop, noted, hturn] at hfuel
      exact absurd hfuel nofun

theorem of_noted_done {x : R × List E} (h : noted turn note (s, es) = .done x) :
    turn s = .done x.1 ∧ x.2 = es ++ note s := by
  cases hturn : turn s with
  | done r =>
    rw [noted_of_done hturn] at h
    cases h
    exact ⟨rfl, rfl⟩
  | again s' =>
    rw [noted_of_again hturn] at h
    cases h
  | undefined =>
    rw [noted, hturn] at h
    cases h

theorem of_noted_again {x : S × List E} (h : noted turn note (s, es) = .again x) :
    turn s = .again x.1 ∧ x.2 = es ++ note s := by
  cases hturn : turn s with
  | done r =>
    rw [noted_of_done hturn] at h
    cases h
  | again s' =>
    rw [noted_of_again hturn] at h
    cases h
    exact ⟨rfl, rfl⟩
  | undefined =>
    rw [noted, hturn] at h
    cases h

theorem EndsWith.prefix_of_noted (h : EndsWith (noted turn note) (s, es) (r, es')) : es <+: es' := by
  refine @EndsWith.keeps _ _ _ _ _ (fun x => es <+: x.2) (fun x => es <+: x.2) ?_ ?_ h (List.prefix_refl es)
  · rintro ⟨s, notes⟩ x hinv hturn
    rw [(of_noted_done hturn).2]
    exact hinv.trans (List.prefix_append _ _)
  · rintro ⟨s, notes⟩ x hinv hturn
    rw [(of_noted_again hturn).2]
    exact hinv.trans (List.prefix_append _ _)

/-- What is noted of the first turn stands behind the notes before. -/
theorem EndsWith.noted_turn_prefix (h : EndsWith (noted turn note) (s, es) (r, es')) : es ++ note s <+: es' := by
  cases hturn : turn s with
  | done r' =>
    cases (endsWith_iff_of_done (noted_of_done hturn)).mp h
    exact List.prefix_refl _
  | again s' => exact ((endsWith_iff_of_again (noted_of_again hturn)).mp h).prefix_of_noted
  | undefined =>
    have hundefined : noted turn note (s, es) = .undefined := by rw [noted, hturn]
    exact absurd h (not_endsWith_of_undefined hundefined)

end Dlt.Lib
