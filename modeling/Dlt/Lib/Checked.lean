import Mathlib.Tactic.Common

/-!
# Programs whose behaviour may be undefined

* `ensures_bind` and others — the condition for a program from the conditions for its steps. Every rule
  is an equivalence, so that the condition is the weakest one.
-/

namespace Dlt.Lib

/-- A program with the states `σ` that may return an `ε` early. -/
abbrev Checked (ε σ α : Type) := ExceptT ε (StateT σ Option) α

variable {ε σ α β : Type}

namespace Checked

def undefined : Checked ε σ α := ExceptT.mk fun _ => none

/-- The behaviour is undefined if there is no value. -/
def ofOption (x : Option α) : Checked ε σ α := x.elim undefined pure

/-- What the program does in a state. -/
def result (x : Checked ε σ α) (s : σ) : Option (Except ε α × σ) := StateT.run (ExceptT.run x) s

/-- The behaviour is defined, and `ok` holds at the end, or `err` where the program returns early. -/
def Ensures (x : Checked ε σ α) (ok : α → σ → Prop) (err : ε → σ → Prop) (s : σ) : Prop :=
  match x.result s with
  | none => False
  | some (.ok a, s') => ok a s'
  | some (.error e, s') => err e s'

end Checked

open Checked

section rules

variable {x : Checked ε σ α} {f : α → Checked ε σ β} {ok ok' : α → σ → Prop} {post : β → σ → Prop}
  {err err' : ε → σ → Prop} {s s' : σ}

/-! ## Rules -/

@[simp] theorem ensures_pure {a : α} : Ensures (pure a) ok err s ↔ ok a s := Iff.rfl

@[simp] theorem ensures_get {ok : σ → σ → Prop} : Ensures (get : Checked ε σ σ) ok err s ↔ ok s s := Iff.rfl

@[simp] theorem ensures_set {ok : PUnit → σ → Prop} :
    Ensures (set s' : Checked ε σ PUnit) ok err s ↔ ok ⟨⟩ s' := Iff.rfl

@[simp] theorem ensures_modify {ok : PUnit → σ → Prop} {g : σ → σ} :
    Ensures (modify g : Checked ε σ PUnit) ok err s ↔ ok ⟨⟩ (g s) := Iff.rfl

@[simp] theorem ensures_ofOption {y : Option α} :
    Ensures (ofOption y : Checked ε σ α) ok err s ↔ ∃ a, y = some a ∧ ok a s := by
  cases y with
  | none => exact ⟨False.elim, fun ⟨_, h, _⟩ => absurd h nofun⟩
  | some a => exact ⟨fun h => ⟨a, rfl, h⟩, fun ⟨_, h, hok⟩ => Option.some.inj h ▸ hok⟩

theorem ofOption_some {a : α} : (ofOption (some a) : Checked ε σ α) = pure a := rfl

theorem result_bind : (x >>= f).result s = (x.result s).bind fun r =>
    r.1.casesOn (fun e => some (.error e, r.2)) (fun a => (f a).result r.2) := by
  unfold result
  change (StateT.run (ExceptT.run x) s).bind _ = _
  congr 1
  funext r
  obtain ⟨r, s'⟩ := r
  cases r <;> rfl

theorem result_bind_of_ok {a : α} (h : x.result s = some (.ok a, s')) : (x >>= f).result s = (f a).result s' := by
  rw [result_bind, h]
  rfl

theorem result_get_bind {g : σ → Checked ε σ β} : (get >>= g).result s = (g s).result s := rfl

/-- **Two programs one behind the other.** -/
@[simp] theorem ensures_bind :
    Ensures (x >>= f) post err s ↔ Ensures x (fun a s' => Ensures (f a) post err s') err s := by
  unfold Ensures
  rw [result_bind]
  cases x.result s with
  | none => exact Iff.rfl
  | some r =>
    obtain ⟨r, s'⟩ := r
    cases r <;> exact Iff.rfl

theorem Checked.Ensures.mono (h : Ensures x ok err s) (hok : ∀ a s', ok a s' → ok' a s')
    (herr : ∀ e s', err e s' → err' e s') : Ensures x ok' err' s := by
  unfold Ensures at h ⊢
  cases hresult : x.result s with
  | none =>
    rw [hresult] at h
    exact h
  | some r =>
    rw [hresult] at h
    obtain ⟨r, s'⟩ := r
    cases r with
    | ok a => exact hok a s' h
    | error e => exact herr e s' h

/-- A condition for the first program, and from it one for the second. -/
theorem Checked.Ensures.bind (h : Ensures x ok err s) (hf : ∀ a s', ok a s' → Ensures (f a) post err s') :
    Ensures (x >>= f) post err s :=
  ensures_bind.mpr (h.mono hf fun _ _ h' => h')

/-! ## Results -/

theorem Checked.Ensures.exists_result (h : Ensures x ok (fun _ _ => False) s) :
    ∃ a s', x.result s = some (.ok a, s') ∧ ok a s' := by
  unfold Ensures at h
  cases hresult : x.result s with
  | none =>
    rw [hresult] at h
    exact h.elim
  | some r =>
    rw [hresult] at h
    obtain ⟨r, s'⟩ := r
    cases r with
    | ok a => exact ⟨a, s', rfl, h⟩
    | error e => exact h.elim

theorem ensures_iff_of_result {a : α} (h : x.result s = some (.ok a, s')) : Ensures x ok err s ↔ ok a s' := by
  unfold Ensures
  rw [h]

theorem Checked.Ensures.iff {C : Prop} (h : Ensures x ok' (fun _ _ => False) s)
    (hiff : ∀ a s', ok' a s' → (ok a s' ↔ C)) : Ensures x ok err s ↔ C := by
  obtain ⟨a, s', hresult, hok⟩ := h.exists_result
  rw [ensures_iff_of_result hresult]
  exact hiff a s' hok

theorem Checked.Ensures.with_result (h : Ensures x ok err s) :
    Ensures x (fun a s' => ok a s' ∧ x.result s = some (.ok a, s')) err s := by
  unfold Ensures at h ⊢
  cases hresult : x.result s with
  | none =>
    rw [hresult] at h
    exact h
  | some r =>
    rw [hresult] at h
    obtain ⟨r, s'⟩ := r
    cases r with
    | ok a => exact ⟨h, rfl⟩
    | error e => exact h

end rules

end Dlt.Lib
