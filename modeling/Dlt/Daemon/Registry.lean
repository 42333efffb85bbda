import Dlt.Lib.Sorted
import Dlt.Shared.Id
import Mathlib.Algebra.BigOperators.Ring.Finset
import Mathlib.Data.List.Perm.Basic

/-!
# What the registration tables stand for

The tables of an ECU, reduced to ids and counters: the applications with their number of contexts,
and the contexts.

* `Registry.Ok` — **the invariant**: both tables are strictly sorted, the ids are canonical and not
  empty, every context belongs to a registered application, and the counter of an application is the
  number of its contexts.
* `Ok.insertApp`, `Ok.insertCtx`, `Ok.eraseCtx`, `Ok.eraseApp` — one rule for each operation.
* `Ok.slice` — the contexts of an application are the slice of the context table behind the contexts
  of the applications before it.
-/

namespace Dlt.Daemon

open Dlt.Lib Dlt.Shared List

variable {apid : Id4} {n : ℤ}

/-! ## Lists with one entry changed -/

section modify

variable {α β : Type*} {xs : List α} {i : ℕ} {f : α → α}

theorem map_modify {g : α → β} {f' : β → β} (h : ∀ x, g (f x) = f' (g x)) :
    (xs.modify i f).map g = (xs.map g).modify i f' := by
  apply ext_getElem?
  intro j
  rw [getElem?_map, getElem?_modify, getElem?_modify, getElem?_map]
  cases xs[j]? with
  | none => rfl
  | some x =>
    simp only [Option.map_eq_map, Option.map_some]
    split_ifs
    · rw [h]
    · rfl

theorem map_modify_of_eq {g : α → β} (h : ∀ x, g (f x) = g x) :
    (xs.modify i f).map g = xs.map g := by
  rw [map_modify (show ∀ x, g (f x) = id (g x) from h), modify_id]

theorem take_modify : (xs.modify i f).take i = xs.take i := by
  apply ext_getElem?
  intro j
  rw [getElem?_take, getElem?_take, getElem?_modify]
  split_ifs with hj heq
  · omega
  · simp
  · rfl

theorem modify_concat (xs : List α) (x : α) : (xs ++ [x]).modify xs.length f = xs ++ [f x] := by
  induction xs with
  | nil => rfl
  | cons y xs ih => rw [cons_append, length_cons, modify_succ_cons, ih]; rfl

/-- An entry after a change is a changed entry, or another one as it was. -/
theorem mem_modify {y : α} (h : y ∈ xs.modify i f) :
    (∃ x, xs[i]? = some x ∧ y = f x) ∨ ∃ j, j ≠ i ∧ xs[j]? = some y := by
  obtain ⟨j, hj⟩ := mem_iff_getElem?.mp h
  rw [getElem?_modify] at hj
  rcases eq_or_ne j i with rfl | hne
  · obtain ⟨x, hx, hy⟩ := Option.map_eq_some_iff.mp hj
    exact .inl ⟨x, hx, by simpa using hy.symm⟩
  · refine .inr ⟨j, hne, ?_⟩
    simpa [hne.symm] using hj

end modify

/-! ## The registry -/

/-- The ids of a context as one number. -/
def idsKey (ids : Id4 × Id4) : ℕ := ids.1.key * 4294967296 + ids.2.key

theorem idsKey_injective {a b : Id4 × Id4} (h : idsKey a = idsKey b) : a = b := by
  have ha := a.2.key_lt
  have hb := b.2.key_lt
  unfold idsKey at h
  have hfst : a.1.key = b.1.key := by omega
  have hsnd : a.2.key = b.2.key := by omega
  exact Prod.ext (Id4.key_injective hfst) (Id4.key_injective hsnd)

/-- The tables, reduced to ids and counters. -/
structure Registry where
  /-- The applications and their numbers of contexts. -/
  apps : List (Id4 × ℤ)
  ctxs : List (Id4 × Id4)

/-- **The invariant of the tables.** -/
structure Registry.Ok (r : Registry) : Prop where
  apps_sorted : StrictSorted (fun a => a.1.key) r.apps
  ctxs_sorted : StrictSorted idsKey r.ctxs
  apps_canonical : ∀ a ∈ r.apps, a.1.Canonical ∧ a.1.isEmpty = false
  ctids_canonical : ∀ c ∈ r.ctxs, c.2.Canonical ∧ c.2.isEmpty = false
  registered : ∀ c ∈ r.ctxs, c.1 ∈ r.apps.map Prod.fst
  count_eq : ∀ a ∈ r.apps, a.2 = (r.ctxs.countP (·.1 = a.1) : ℕ)

namespace Registry.Ok

variable {r : Registry}

theorem empty : Registry.Ok ⟨[], []⟩ :=
  ⟨List.Pairwise.nil, List.Pairwise.nil, by simp, by simp, by simp, by simp⟩

section

variable (h : r.Ok)
include h

theorem app_unique {i j : ℕ} {a b : Id4 × ℤ} (hi : r.apps[i]? = some a) (hj : r.apps[j]? = some b)
    (hid : a.1 = b.1) : i = j :=
  h.apps_sorted.pos_unique hi hj (congrArg Id4.key hid)

theorem insertApp (hnew : apid ∉ r.apps.map Prod.fst) (hcanonical : apid.Canonical ∧ apid.isEmpty = false)
    {apps : List (Id4 × ℤ)} (hsorted : StrictSorted (fun a => a.1.key) apps)
    (hperm : apps.Perm (r.apps ++ [(apid, 0)])) : Registry.Ok ⟨apps, r.ctxs⟩ := by
  have hmem : ∀ a, a ∈ apps ↔ a ∈ r.apps ∨ a = (apid, 0) := by
    intro a
    rw [hperm.mem_iff, mem_append, mem_singleton]
  refine ⟨hsorted, h.ctxs_sorted, ?_, h.ctids_canonical, ?_, ?_⟩
  · intro a ha
    rcases (hmem a).mp ha with ha | rfl
    · exact h.apps_canonical a ha
    · exact hcanonical
  · intro c hc
    obtain ⟨a, ha, hac⟩ := mem_map.mp (h.registered c hc)
    exact mem_map.mpr ⟨a, (hmem a).mpr (.inl ha), hac⟩
  · intro a ha
    rcases (hmem a).mp ha with ha | rfl
    · exact h.count_eq a ha
    · -- no context belongs to an application that was not registered
      symm
      rw [Nat.cast_eq_zero, countP_eq_zero]
      intro c hc heq
      have hid : c.1 = apid := by simpa using heq
      exact hnew (hid ▸ h.registered c hc)

/-- The counters after the contexts of one application changed by `d`. -/
theorem modifyCount {i : ℕ} {d : ℤ} (hi : r.apps[i]? = some (apid, n)) {ctxs : List (Id4 × Id4)}
    (hsorted : StrictSorted idsKey ctxs) (hctids : ∀ c ∈ ctxs, c.2.Canonical ∧ c.2.isEmpty = false)
    (hregistered : ∀ c ∈ ctxs, c.1 ∈ r.apps.map Prod.fst)
    (hself : (ctxs.countP (·.1 = apid) : ℤ) = r.ctxs.countP (·.1 = apid) + d)
    (hother : ∀ b, b ≠ apid → ctxs.countP (·.1 = b) = r.ctxs.countP (·.1 = b)) :
    Registry.Ok ⟨r.apps.modify i fun a => (a.1, a.2 + d), ctxs⟩ := by
  have hfst : (r.apps.modify i fun a => (a.1, a.2 + d)).map Prod.fst = r.apps.map Prod.fst :=
    map_modify_of_eq fun _ => rfl
  refine ⟨?_, hsorted, ?_, hctids, fun c hc => hfst ▸ hregistered c hc, ?_⟩
  · have hsame := h.apps_sorted
    unfold StrictSorted at hsame ⊢
    have hkeys : (r.apps.modify i fun a => (a.1, a.2 + d)).map (fun a => a.1.key) =
        r.apps.map fun a => a.1.key := map_modify_of_eq fun _ => rfl
    rw [← pairwise_map (f := fun a : Id4 × ℤ => a.1.key) (R := (· < ·))] at hsame ⊢
    rwa [hkeys]
  · intro a ha
    rcases mem_modify ha with ⟨x, hx, rfl⟩ | ⟨j, -, hj⟩
    · exact h.apps_canonical x (mem_of_getElem? hx)
    · exact h.apps_canonical a (mem_of_getElem? hj)
  · intro a ha
    rcases mem_modify ha with ⟨x, hx, rfl⟩ | ⟨j, hne, hj⟩
    · rw [hi, Option.some.injEq] at hx
      subst hx
      have hcount := h.count_eq _ (mem_of_getElem? hi)
      simp only at hcount ⊢
      rw [hself, ← hcount]
    · rw [hother a.1 fun heq => hne (h.app_unique hj hi heq)]
      exact h.count_eq a (mem_of_getElem? hj)

/-- A context of the application at position `i` is added. -/
theorem insertCtx {i : ℕ} {ctid : Id4} (hi : r.apps[i]? = some (apid, n))
    (hctid : ctid.Canonical ∧ ctid.isEmpty = false) {ctxs : List (Id4 × Id4)} (hsorted : StrictSorted idsKey ctxs)
    (hperm : ctxs.Perm (r.ctxs ++ [(apid, ctid)])) :
    Registry.Ok ⟨r.apps.modify i fun a => (a.1, a.2 + 1), ctxs⟩ := by
  apply h.modifyCount hi hsorted
  · intro c hc
    rcases mem_append.mp (hperm.mem_iff.mp hc) with hc | hc
    · exact h.ctids_canonical c hc
    · rw [mem_singleton.mp hc]
      exact hctid
  · intro c hc
    rcases mem_append.mp (hperm.mem_iff.mp hc) with hc | hc
    · exact h.registered c hc
    · rw [mem_singleton.mp hc]
      exact mem_map.mpr ⟨_, mem_of_getElem? hi, rfl⟩
  · rw [hperm.countP_eq, countP_append]
    simp
  · intro b hb
    rw [hperm.countP_eq, countP_append]
    simp [hb.symm]

/-- The context at position `c`, of the application at position `i`, is deleted. -/
theorem eraseCtx {i c : ℕ} {ctid : Id4} (hi : r.apps[i]? = some (apid, n)) (hc : r.ctxs[c]? = some (apid, ctid)) :
    Registry.Ok ⟨r.apps.modify i fun a => (a.1, a.2 + -1), r.ctxs.eraseIdx c⟩ := by
  obtain ⟨hlt, hget⟩ := List.getElem?_eq_some_iff.mp hc
  have hperm := getElem_cons_eraseIdx_perm hlt
  rw [hget] at hperm
  have hcount : ∀ b, r.ctxs.countP (·.1 = b) =
      (r.ctxs.eraseIdx c).countP (·.1 = b) + if apid = b then 1 else 0 := by
    intro b
    rw [← hperm.countP_eq, countP_cons]
    simp
  apply h.modifyCount hi (h.ctxs_sorted.sublist (eraseIdx_sublist ..))
  · exact fun b hb => h.ctids_canonical b ((eraseIdx_sublist ..).subset hb)
  · exact fun b hb => h.registered b ((eraseIdx_sublist ..).subset hb)
  · rw [hcount]
    simp
  · intro b hb
    rw [hcount]
    simp [hb.symm]

theorem eraseApp {i : ℕ} (hi : r.apps[i]? = some (apid, 0)) : Registry.Ok ⟨r.apps.eraseIdx i, r.ctxs⟩ := by
  have hmem : ∀ {a}, a ∈ r.apps.eraseIdx i → a ∈ r.apps := fun ha =>
    (eraseIdx_sublist ..).subset ha
  refine ⟨h.apps_sorted.sublist (eraseIdx_sublist ..), h.ctxs_sorted,
    fun a ha => h.apps_canonical a (hmem ha), h.ctids_canonical, ?_,
    fun a ha => h.count_eq a (hmem ha)⟩
  intro c hc
  obtain ⟨a, ha, hac⟩ := mem_map.mp (h.registered c hc)
  have hne : a ≠ (apid, 0) := by
    rintro rfl
    have hcount := h.count_eq _ ha
    simp only at hcount hac
    rw [eq_comm, Nat.cast_eq_zero, countP_eq_zero] at hcount
    exact hcount c hc (by simpa using hac.symm)
  obtain ⟨hlt, hget⟩ := List.getElem?_eq_some_iff.mp hi
  have hperm := getElem_cons_eraseIdx_perm hlt
  rw [hget] at hperm
  rcases mem_cons.mp (hperm.mem_iff.mpr ha) with heq | hin
  · exact absurd heq hne
  · exact mem_map.mpr ⟨a, hin, hac⟩

theorem clearCtxs : Registry.Ok ⟨r.apps.map fun a => (a.1, 0), []⟩ := by
  refine ⟨?_, List.Pairwise.nil, ?_, by simp, by simp, ?_⟩
  · have hsorted := h.apps_sorted
    unfold StrictSorted at hsorted ⊢
    rw [pairwise_map]
    exact hsorted
  · intro x hx
    obtain ⟨a, ha, rfl⟩ := mem_map.mp hx
    exact h.apps_canonical a ha
  · intro x hx
    obtain ⟨a, -, rfl⟩ := mem_map.mp hx
    rfl

end

section groups

variable {α : Type*} (xs : List α) {g : α → Id4 × Id4}

theorem sorted_by_app (h : r.Ok) (hxs : xs.map g = r.ctxs) :
    xs.Pairwise fun a b => (g a).1.key ≤ (g b).1.key := by
  have hsorted := h.ctxs_sorted
  rw [← hxs, StrictSorted, pairwise_map] at hsorted
  refine hsorted.imp fun {a b} hab => ?_
  unfold idsKey at hab
  have ha := (g a).2.key_lt
  have hb := (g b).2.key_lt
  omega

theorem keys_sorted (h : r.Ok) : (r.apps.map fun a => a.1.key).Pairwise (· < ·) := by
  rw [pairwise_map]
  exact h.apps_sorted

/-- Every context of such a table has the key of an application. -/
theorem key_mem (h : r.Ok) (hxs : xs.map g = r.ctxs) :
    ∀ x ∈ xs, (g x).1.key ∈ r.apps.map fun a => a.1.key := by
  intro x hx
  obtain ⟨a, ha, hac⟩ := mem_map.mp
    (h.registered (g x) (hxs ▸ mem_map.mpr ⟨x, hx, rfl⟩))
  exact mem_map.mpr ⟨a, ha, congrArg Id4.key hac⟩

/-- The contexts with the key of an application are its contexts. -/
theorem filter_key (b : Id4) : xs.filter (fun x => decide ((g x).1.key = b.key)) =
    xs.filter fun x => (g x).1 = b := by
  apply filter_congr
  intro x _
  rw [decide_eq_decide]
  exact ⟨Id4.key_injective, congrArg Id4.key⟩

/-- The counter of an application is the number of its contexts in any table with these contexts. -/
theorem count_filter (h : r.Ok) (hxs : xs.map g = r.ctxs) :
    ∀ a ∈ r.apps, a.2 = ((xs.filter fun x => (g x).1 = a.1).length : ℤ) := by
  intro a ha
  rw [h.count_eq a ha, ← hxs, countP_map, countP_eq_length_filter]
  rfl

/-- A table with these contexts is the concatenation of the contexts of the applications. -/
theorem eq_flatten (h : r.Ok) (hxs : xs.map g = r.ctxs) :
    xs = (r.apps.map fun a => xs.filter fun x => (g x).1 = a.1).flatten := by
  have hgroups := eq_flatten_groups (sorted_by_app xs h hxs) h.keys_sorted (key_mem xs h hxs)
  rw [map_map] at hgroups
  conv_lhs => rw [hgroups]
  congr 1
  exact map_congr_left fun a _ => filter_key xs a.1

/-- **The contexts of an application are a slice** of any table with these contexts. -/
theorem slice (h : r.Ok) (hxs : xs.map g = r.ctxs) {i : ℕ} (hi : r.apps[i]? = some (apid, n)) :
    (xs.drop ((r.apps.take i).map Prod.snd).sum.toNat).take n.toNat =
      xs.filter fun x => (g x).1 = apid := by
  have hslice := slice_eq_group (sorted_by_app xs h hxs) h.keys_sorted (key_mem xs h hxs)
    (show (r.apps.map fun a => a.1.key)[i]? = some apid.key by rw [getElem?_map, hi]; rfl)
  rw [filter_key] at hslice
  have hn : n.toNat = (xs.filter fun x => (g x).1 = apid).length := by
    rw [show n = _ from count_filter xs h hxs _ (mem_of_getElem? hi), Int.toNat_natCast]
  have hbase : ((r.apps.take i).map Prod.snd).sum.toNat =
      (((r.apps.map fun a => a.1.key).take i).map fun k =>
        (xs.filter (fun x => decide ((g x).1.key = k))).length).sum := by
    rw [← map_take, map_map]
    have hmap : (r.apps.take i).map Prod.snd = ((r.apps.take i).map ((fun k =>
        (xs.filter (fun x => decide ((g x).1.key = k))).length) ∘ fun a => a.1.key)).map
          (Nat.cast : ℕ → ℤ) := by
      rw [map_map]
      apply map_congr_left
      intro a ha
      rw [count_filter xs h hxs a (mem_of_mem_take ha), ← filter_key]
      rfl
    rw [hmap, ← Nat.cast_list_sum, Int.toNat_natCast]
  rw [hn, hbase]
  exact hslice

end groups

end Registry.Ok

end Dlt.Daemon
