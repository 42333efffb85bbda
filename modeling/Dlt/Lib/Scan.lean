import Mathlib.Data.List.Basic

/-!
# Scans that may stop early

* `scan_prefix` — the entries that are hit are the first hits of the list. `scan_eq_filter_iff` — they are all
  hits exactly when no entry at which the scan stops stands before a hit.
-/

namespace Dlt.Lib

open List

variable {α : Type*}

/-- What a scan makes of an entry. -/
inductive Verdict
  | hit
  | pass
  | stop
deriving DecidableEq

/-- The entries that are hit before the scan stops. -/
def scan (verdict : α → Verdict) : List α → List α
  | [] => []
  | x :: xs =>
    match verdict x with
    | .hit => x :: scan verdict xs
    | .pass => scan verdict xs
    | .stop => []

/-- The entries that a scan looks for. -/
def hits (verdict : α → Verdict) (xs : List α) : List α := xs.filter fun x => verdict x = .hit

section scan

variable {verdict : α → Verdict} {x : α} {xs : List α}

theorem hits_cons_of_hit (h : verdict x = .hit) : hits verdict (x :: xs) = x :: hits verdict xs :=
  filter_cons_of_pos (decide_eq_true h)

theorem hits_cons_of_ne (h : verdict x ≠ .hit) : hits verdict (x :: xs) = hits verdict xs :=
  filter_cons_of_neg (by simpa using h)

theorem hits_eq_nil_iff : hits verdict xs = [] ↔ ∀ x ∈ xs, verdict x ≠ .hit := by
  rw [hits, filter_eq_nil_iff]
  simp only [decide_eq_true_eq, ne_eq]

/-- **The scan finds the first hits.** -/
theorem scan_prefix (verdict : α → Verdict) (xs : List α) : scan verdict xs <+: hits verdict xs := by
  induction xs with
  | nil => exact prefix_refl []
  | cons x xs ih =>
    cases h : verdict x with
    | hit =>
      rw [hits_cons_of_hit h, scan, h]
      exact (prefix_cons_inj x).mpr ih
    | pass =>
      rw [hits_cons_of_ne (by rw [h]; decide), scan, h]
      exact ih
    | stop =>
      rw [scan, h]
      exact nil_prefix

/-- **The scan finds all hits exactly when** it does not stop before one of them. -/
theorem scan_eq_filter_iff (verdict : α → Verdict) (xs : List α) :
    scan verdict xs = hits verdict xs ↔ xs.Pairwise fun x y => verdict x = .stop → verdict y ≠ .hit := by
  induction xs with
  | nil => exact ⟨fun _ => List.Pairwise.nil, fun _ => rfl⟩
  | cons x xs ih =>
    rw [pairwise_cons, ← ih]
    cases h : verdict x with
    | hit =>
      rw [hits_cons_of_hit h, scan, h]
      simp [reduceCtorEq]
    | pass =>
      rw [hits_cons_of_ne (by rw [h]; decide), scan, h]
      simp [reduceCtorEq]
    | stop =>
      rw [hits_cons_of_ne (by rw [h]; decide), scan, h]
      dsimp only
      rw [eq_comm, hits_eq_nil_iff]
      constructor
      · intro hnone
        refine ⟨fun y hy _ => hnone y hy, ?_⟩
        have hempty := hits_eq_nil_iff.mpr hnone
        have hfound := scan_prefix verdict xs
        rw [hempty] at hfound ⊢
        exact prefix_nil.mp hfound
      · exact fun hall y hy => hall.1 y hy rfl

end scan

end Dlt.Lib
