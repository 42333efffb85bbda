import Dlt.Lib.Fields

/-!
# Stores to a memory

* `Store.Within`, `Store.Avoids` — where a store lies, and what it does not meet.
* `length_applyStores`, `field_applyStores` — stores inside the memory keep its length, and a field that they
  avoid is what it was.
-/

namespace Dlt.Lib

open List

variable {α : Type*}

/-- Cells that are copied to a memory. -/
structure Store (α : Type*) where
  off : ℕ
  data : List α
deriving DecidableEq

/-- The store lies in the `n` cells from `start` on. -/
def Store.Within (s : Store α) (start n : ℕ) : Prop := start ≤ s.off ∧ s.off + s.data.length ≤ start + n

instance (s : Store α) (start n : ℕ) : Decidable (s.Within start n) := by unfold Store.Within; infer_instance

/-- The store does not meet the `n` cells from `start` on. -/
def Store.Avoids (s : Store α) (start n : ℕ) : Prop := s.off + s.data.length ≤ start ∨ start + n ≤ s.off

def applyStores (mem : List α) (stores : List (Store α)) : List α :=
  stores.foldl (fun mem s => overwrite mem s.off s.data) mem

@[simp] theorem applyStores_cons (mem : List α) (s : Store α) (stores : List (Store α)) :
    applyStores mem (s :: stores) = applyStores (overwrite mem s.off s.data) stores := rfl

@[simp] theorem applyStores_append (mem : List α) (fst snd : List (Store α)) :
    applyStores mem (fst ++ snd) = applyStores (applyStores mem fst) snd := foldl_append ..

theorem Store.Avoids.field_eq {s : Store α} {start n : ℕ} (h : s.Avoids start n) {mem : List α}
    (hoff : s.off ≤ mem.length) : field (overwrite mem s.off s.data) start n = field mem start n := by
  rcases h with hbefore | hbehind
  · exact field_overwrite_of_ge s.data hoff hbefore
  · exact field_overwrite_of_le s.data hoff hbehind

theorem length_applyStores {mem : List α} {stores : List (Store α)} (h : ∀ s ∈ stores, s.Within 0 mem.length) :
    (applyStores mem stores).length = mem.length := by
  induction stores generalizing mem with
  | nil => rfl
  | cons s stores ih =>
    have hs := h s mem_cons_self
    have hlen : (overwrite mem s.off s.data).length = mem.length :=
      length_overwrite (by have := hs.2; omega)
    rw [applyStores_cons, ih, hlen]
    rw [hlen]
    exact fun t ht => h t (mem_cons_of_mem s ht)

theorem field_applyStores {mem : List α} {stores : List (Store α)} {start n : ℕ}
    (h : ∀ s ∈ stores, s.Within 0 mem.length) (havoids : ∀ s ∈ stores, s.Avoids start n) :
    field (applyStores mem stores) start n = field mem start n := by
  induction stores generalizing mem with
  | nil => rfl
  | cons s stores ih =>
    have hs := (h s mem_cons_self).2
    have hlen : (overwrite mem s.off s.data).length = mem.length := length_overwrite (by omega)
    rw [applyStores_cons, ih, (havoids s mem_cons_self).field_eq (by omega)]
    · rw [hlen]
      exact fun t ht => h t (mem_cons_of_mem s ht)
    · exact fun t ht => havoids t (mem_cons_of_mem s ht)

end Dlt.Lib
