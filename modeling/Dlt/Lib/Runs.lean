import Mathlib.Init

/-!
# Runs of a system that takes one operation after the other

* `AlongRun` — every operation of a run meets a condition, in the state before it. `AlongRun.iff_of_rel` — conditions of
  two systems that agree on every operation agree on every run; `AlongRun.iff_of_step` is the case of one system.
-/

namespace Dlt.Lib

variable {S Op : Type*} {start : S → Prop} {step : S → Op → S} {meets meets' : S → Op → Prop}

/-- The states that runs reach whose operations all meet the condition. -/
inductive Reach (start : S → Prop) (step : S → Op → S) (meets : S → Op → Prop) : S → Prop
  | start {s : S} : start s → Reach start step meets s
  | step {s : S} {op : Op} : Reach start step meets s → meets s op →
      Reach start step meets (step s op)

namespace Reach

/-- **Invariants hold along every run.** -/
theorem invariant {inv : S → Prop} (hstart : ∀ s, start s → inv s)
    (hstep : ∀ s op, inv s → meets s op → inv (step s op)) {s : S} (h : Reach start step meets s) :
    inv s := by
  induction h with
  | start hs => exact hstart _ hs
  | step _ hop ih => exact hstep _ _ ih hop

theorem mono (hmeets : ∀ s op, meets s op → meets' s op) {s : S} (h : Reach start step meets s) :
    Reach start step meets' s := by
  induction h with
  | start hs => exact .start hs
  | step _ hop ih => exact .step ih (hmeets _ _ hop)

end Reach

/-- Every operation of a run meets the condition, in the state before it. -/
def AlongRun (step : S → Op → S) (meets : S → Op → Prop) : S → List Op → Prop
  | _, [] => True
  | s, op :: ops => meets s op ∧ AlongRun step meets (step s op) ops

/-- A run whose operations all meet the condition leads to a state that runs reach. -/
theorem Reach.run {s : S} (h : Reach start step meets s) {ops : List Op} (hops : AlongRun step meets s ops) :
    Reach start step meets (ops.foldl step s) := by
  induction ops generalizing s with
  | nil => exact h
  | cons op ops ih => exact ih (.step h hops.1) hops.2

instance AlongRun.decidable [∀ s op, Decidable (meets s op)] :
    (s : S) → (ops : List Op) → Decidable (AlongRun step meets s ops)
  | _, [] => isTrue trivial
  | s, op :: ops => @instDecidableAnd _ _ _ (AlongRun.decidable (step s op) ops)

/-- **Conditions that agree on every operation agree on every run**, of two systems whose states stay related while the
conditions are met. -/
theorem AlongRun.iff_of_rel {T : Type*} {step' : T → Op → T} {meets' : T → Op → Prop} {rel : S → T → Prop}
    (hstep : ∀ s t op, rel s t → (meets s op ↔ meets' t op))
    (hrel : ∀ s t op, rel s t → meets s op → rel (step s op) (step' t op)) {s : S} {t : T} (h : rel s t)
    (ops : List Op) : AlongRun step meets s ops ↔ AlongRun step' meets' t ops := by
  induction ops generalizing s t with
  | nil => exact Iff.rfl
  | cons op ops ih =>
    unfold AlongRun
    constructor
    · rintro ⟨hop, hrest⟩
      exact ⟨(hstep s t op h).mp hop, (ih (hrel s t op h hop)).mp hrest⟩
    · rintro ⟨hop, hrest⟩
      have hop' := (hstep s t op h).mpr hop
      exact ⟨hop', (ih (hrel s t op h hop')).mpr hrest⟩

/-- Conditions on one system that agree on every operation agree on every run, where an invariant holds that they
keep. -/
theorem AlongRun.iff_of_step {inv : S → Prop} (hstep : ∀ s op, inv s → (meets s op ↔ meets' s op))
    (hinv : ∀ s op, inv s → meets s op → inv (step s op)) (s : S) (ops : List Op) (hs : inv s) :
    AlongRun step meets s ops ↔ AlongRun step meets' s ops := by
  apply @AlongRun.iff_of_rel _ _ _ _ _ _ _ fun s t => s = t ∧ inv s
  · rintro s _ op ⟨rfl, hs⟩
    exact hstep s op hs
  · rintro s _ op ⟨rfl, hs⟩ hop
    exact ⟨rfl, hinv s op hs hop⟩
  · exact ⟨rfl, hs⟩

end Dlt.Lib
