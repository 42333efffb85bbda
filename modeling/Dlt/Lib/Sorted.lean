import Mathlib.Algebra.BigOperators.Group.List.Lemmas
import Mathlib.Algebra.Ring.Nat
import Mathlib.Data.List.Basic
import Mathlib.Data.List.Sort
import Mathlib.Order.Basic

/-!
# Sorted tables

A table is a list of entries with keys in a linear order, strictly sorted, so that a key occurs at
most once.

* `eq_flatten_groups`, `slice_eq_group` — a list sorted by a coarser key is the concatenation of its
  groups, and a group is the slice behind the groups before it.
-/

namespace Dlt.Lib

open List
open Option (map_eq_some_iff map_some)

variable {α K : Type*} [LinearOrder K] {key : α → K}
variable {i l u : ℕ}

/-! ## The C library -/

/-- The loop of `bsearch`, on the entries from `l` to `u`; `cmp` compares the key with an entry. -/
def bsearchLoop (cmp : α → ℤ) (xs : List α) (l u : ℕ) : Option ℕ :=
  if _h : l < u then
    match xs[(l + u) / 2]? with
    | none => none
    | some x =>
        if cmp x < 0 then bsearchLoop cmp xs l ((l + u) / 2)
        else if cmp x > 0 then bsearchLoop cmp xs ((l + u) / 2 + 1) u
        else some ((l + u) / 2)
  else none
termination_by u - l

/-- `bsearch` on the first `n` entries: the position of the entry found. -/
def bsearch (cmp : α → ℤ) (xs : List α) (n : ℕ) : Option ℕ := bsearchLoop cmp xs 0 n

/-- `qsort`. The order of entries that compare equal is not specified; here it is kept. -/
def qsort (cmp : α → α → ℤ) (xs : List α) : List α := xs.mergeSort fun a b => cmp a b ≤ 0

/-- The comparison with a fixed key follows the order of the keys. -/
def Compares (key : α → K) (k : K) (cmp : α → ℤ) : Prop :=
  ∀ x, (cmp x < 0 ↔ k < key x) ∧ (0 < cmp x ↔ key x < k)

/-! ## Tables -/

/-- The keys increase. -/
def StrictSorted (key : α → K) (xs : List α) : Prop := xs.Pairwise fun a b => key a < key b

namespace StrictSorted

variable {xs : List α}

section

variable (h : StrictSorted key xs)
include h

theorem key_lt {j : ℕ} {x y : α} (hij : i < j) (hi : xs[i]? = some x) (hj : xs[j]? = some y) : key x < key y := by
  obtain ⟨hilt, rfl⟩ := List.getElem?_eq_some_iff.mp hi
  obtain ⟨hjlt, rfl⟩ := List.getElem?_eq_some_iff.mp hj
  exact pairwise_iff_getElem.mp h i j hilt hjlt hij

theorem pos_unique {j : ℕ} {x y : α} (hi : xs[i]? = some x) (hj : xs[j]? = some y) (hkey : key x = key y) :
    i = j := by
  rcases Nat.lt_trichotomy i j with hij | hij | hij
  · exact absurd hkey (h.key_lt hij hi hj).ne
  · exact hij
  · exact absurd hkey.symm (h.key_lt hij hj hi).ne

theorem bsearchLoop_iff {k : K} {cmp : α → ℤ} (hcmp : Compares key k cmp) (hu : u ≤ xs.length) :
    bsearchLoop cmp xs l u = some i ↔ l ≤ i ∧ i < u ∧ (xs[i]?).map key = some k := by
  fun_induction bsearchLoop cmp xs l u with
  | case1 l u hlu hnone =>
    rw [List.getElem?_eq_none_iff] at hnone
    omega
  | case2 l u hlu x hx hlt ih =>
    rw [ih (by omega)]
    refine ⟨fun ⟨hl, hi, hk⟩ => ⟨hl, by omega, hk⟩, fun ⟨hl, hi, hk⟩ => ⟨hl, ?_, hk⟩⟩
    obtain ⟨y, hy, rfl⟩ := map_eq_some_iff.mp hk
    have hkx := (hcmp x).1.mp hlt
    by_contra hge
    rcases Nat.lt_or_eq_of_le (Nat.le_of_not_lt hge) with hmid | hmid
    · exact absurd (h.key_lt hmid hx hy) hkx.not_gt
    · rw [hmid, hy, Option.some.injEq] at hx
      exact absurd (hx ▸ hkx) (lt_irrefl _)
  | case3 l u hlu x hx hle hgt ih =>
    rw [ih hu]
    refine ⟨fun ⟨hl, hi, hk⟩ => ⟨by omega, hi, hk⟩, fun ⟨hl, hi, hk⟩ => ⟨?_, hi, hk⟩⟩
    obtain ⟨y, hy, rfl⟩ := map_eq_some_iff.mp hk
    have hkx := (hcmp x).2.mp hgt
    by_contra hge
    rcases Nat.lt_or_eq_of_le (Nat.le_of_lt_succ (Nat.lt_of_not_le hge)) with hmid | hmid
    · exact absurd (h.key_lt hmid hy hx) hkx.not_gt
    · rw [← hmid, hy, Option.some.injEq] at hx
      exact absurd (hx ▸ hkx) (lt_irrefl _)
  | case4 l u hlu x hx hle hge =>
    have hkx : key x = k := by
      apply le_antisymm
      · exact not_lt.mp fun hlt => hle ((hcmp x).1.mpr hlt)
      · exact not_lt.mp fun hlt => hge ((hcmp x).2.mpr hlt)
    constructor
    · rintro ⟨rfl⟩
      exact ⟨by omega, by omega, by rw [hx, map_some, hkx]⟩
    · rintro ⟨-, -, hk⟩
      obtain ⟨y, hy, hyk⟩ := map_eq_some_iff.mp hk
      rw [h.pos_unique hx hy (hkx.trans hyk.symm)]
  | case5 l u hlu => exact ⟨fun hnone => by simp at hnone, fun ⟨hl, hi, _⟩ => absurd hi (by omega)⟩

/-- **The search finds the entry with the key**, and nothing else. -/
theorem bsearch_eq_some_iff {k : K} {cmp : α → ℤ} (hcmp : Compares key k cmp) :
    bsearch cmp xs xs.length = some i ↔ (xs[i]?).map key = some k := by
  rw [bsearch, h.bsearchLoop_iff hcmp le_rfl]
  refine ⟨fun ⟨_, _, hk⟩ => hk, fun hk => ⟨Nat.zero_le _, ?_, hk⟩⟩
  obtain ⟨y, hy, -⟩ := map_eq_some_iff.mp hk
  exact (List.getElem?_eq_some_iff.mp hy).1

/-- Keys between the first and the last one are the only ones that can be in a table. -/
theorem mem_bounds {x first last : α} (hx : x ∈ xs) (hfirst : xs[0]? = some first)
    (hlast : xs[xs.length - 1]? = some last) : key first ≤ key x ∧ key x ≤ key last := by
  obtain ⟨i, hi, rfl⟩ := mem_iff_getElem.mp hx
  have hget : xs[i]? = some xs[i] := getElem?_eq_getElem hi
  constructor
  · rcases Nat.eq_zero_or_pos i with hzero | hpos
    · subst hzero
      rw [hfirst, Option.some.injEq] at hget
      exact (congrArg key hget).le
    · exact (h.key_lt hpos hfirst hget).le
  · rcases Nat.lt_or_ge i (xs.length - 1) with hlt | hge
    · exact (h.key_lt hlt hget hlast).le
    · have heq : i = xs.length - 1 := by omega
      rw [← heq, hget, Option.some.injEq] at hlast
      exact (congrArg key hlast).le

theorem sublist {ys : List α} (hys : ys.Sublist xs) : StrictSorted key ys := List.Pairwise.sublist hys h

theorem nodup : (xs.map key).Nodup := by
  rw [nodup_iff_pairwise_ne, pairwise_map]
  exact h.imp fun hab => hab.ne

end

end StrictSorted

variable {cmp : α → α → ℤ}

theorem pairwise_qsort (hcmp : ∀ a b, cmp a b ≤ 0 ↔ key a ≤ key b) (xs : List α) :
    (qsort cmp xs).Pairwise fun a b => key a ≤ key b := by
  have hpair : (qsort cmp xs).Pairwise fun a b => decide (cmp a b ≤ 0) = true :=
    pairwise_mergeSort
      (fun a b c hab hbc => by
        simp only [decide_eq_true_eq, hcmp] at hab hbc ⊢
        exact hab.trans hbc)
      (fun a b => by simp only [Bool.or_eq_true, decide_eq_true_eq, hcmp]; exact le_total _ _) xs
  exact hpair.imp fun hab => by simpa only [decide_eq_true_eq, hcmp] using hab

/-- **Sorting entries with different keys** gives a table. -/
theorem strictSorted_qsort (hcmp : ∀ a b, cmp a b ≤ 0 ↔ key a ≤ key b) {xs : List α} (hne : (xs.map key).Nodup) :
    StrictSorted key (qsort cmp xs) := by
  have hnodup : ((qsort cmp xs).map key).Nodup :=
    ((mergeSort_perm xs _).map key).nodup_iff.mpr hne
  rw [nodup_iff_pairwise_ne, pairwise_map] at hnodup
  exact ((pairwise_qsort hcmp xs).and hnodup).imp fun hab => lt_of_le_of_ne hab.1 hab.2

theorem qsort_perm (cmp : α → α → ℤ) (xs : List α) : (qsort cmp xs).Perm xs :=
  mergeSort_perm xs _

/-- Sorting is stable: an element with the greatest key that stands last stays last. -/
theorem getLast?_qsort_concat (hcmp : ∀ a b, cmp a b ≤ 0 ↔ key a ≤ key b) {xs : List α} (hnodup : xs.Nodup) {a : α}
    (hmax : ∀ x ∈ xs, key x ≤ key a) :
    (qsort cmp (xs ++ [a])).getLast? = some a := by
  obtain ⟨front, z, hz⟩ : ∃ front z, qsort cmp (xs ++ [a]) = front ++ [z] := by
    have hne : qsort cmp (xs ++ [a]) ≠ [] := by
      intro hnil
      have hperm := qsort_perm cmp (xs ++ [a])
      rw [hnil] at hperm
      exact absurd hperm.nil_eq (by simp)
    exact ⟨_, _, (dropLast_append_getLast hne).symm⟩
  rw [hz, getLast?_concat, Option.some.injEq]
  by_contra hza
  have hperm : (front ++ [z]).Perm (xs ++ [a]) := hz ▸ qsort_perm cmp (xs ++ [a])
  have hzx : z ∈ xs := by
    have hmem : z ∈ xs ++ [a] := hperm.subset (mem_append_right _ (mem_singleton_self z))
    rcases mem_append.mp hmem with hin | hlast
    · exact hin
    · exact absurd (mem_singleton.mp hlast) hza
  -- `z` stands before `a` in the list, so it stands before `a` when sorted: `z` is there twice
  have hsub : [z, a].Sublist (front ++ [z]) := by
    rw [← hz]
    apply pair_sublist_mergeSort
    · intro b c d hbc hcd
      simp only [decide_eq_true_eq, hcmp] at hbc hcd ⊢
      exact hbc.trans hcd
    · intro b c
      simp only [Bool.or_eq_true, decide_eq_true_eq, hcmp]
      exact le_total _ _
    · simp only [decide_eq_true_eq, hcmp]
      exact hmax z hzx
    · exact (singleton_sublist.mpr hzx).append (List.Sublist.refl [a])
  have hfront : z ∈ front := by
    have hrev := hsub.reverse
    rw [reverse_append, reverse_singleton, singleton_append] at hrev
    cases hrev with
    | cons _ h => exact mem_reverse.mp (h.subset (by simp))
    | cons_cons _ h => exact absurd rfl hza
  classical
  have hcount := hperm.count_eq z
  have htwice : 0 < front.count z := count_pos_iff.mpr hfront
  have honce : xs.count z ≤ 1 := nodup_iff_count_le_one.mp hnodup z
  have hother : [a].count z = 0 := count_eq_zero.mpr fun h => hza (mem_singleton.mp h)
  rw [count_append, count_append, count_singleton_self, hother] at hcount
  omega

/-! ## Repeated keys -/

section repeated

variable {xs : List α} {k : K} {cmp : α → ℤ}

theorem bsearchLoop_lt (cmp : α → ℤ) (xs : List α) (h : bsearchLoop cmp xs l u = some i) : i < u := by
  fun_induction bsearchLoop cmp xs l u with
  | case1 l u hlu hx => cases h
  | case2 l u hlu x hx hlt ih => exact (ih h).trans (by omega)
  | case3 l u hlu x hx hle hgt ih => exact ih h
  | case4 l u hlu x hx hle hge =>
    rw [Option.some.injEq] at h
    omega
  | case5 l u hlu => cases h

section

variable (h : xs.Pairwise fun a b => key a ≤ key b)
include h

/-- The search goes to the half where an entry with the key is. -/
theorem bsearchLoop_isSome (hcmp : Compares key k cmp) {x : α} (hi : xs[i]? = some x) (hk : key x = k)
    (hl : l ≤ i) (hu : i < u) (hlen : u ≤ xs.length) : (bsearchLoop cmp xs l u).isSome := by
  have hle : ∀ {i j : ℕ} {a b : α}, i ≤ j → xs[i]? = some a → xs[j]? = some b → key a ≤ key b := by
    intro i j a b hij ha hb
    rcases hij.eq_or_lt with rfl | hlt
    · rw [ha, Option.some.injEq] at hb
      exact (congrArg key hb).le
    · obtain ⟨hia, rfl⟩ := List.getElem?_eq_some_iff.mp ha
      obtain ⟨hjb, rfl⟩ := List.getElem?_eq_some_iff.mp hb
      exact pairwise_iff_getElem.mp h i j hia hjb hlt
  fun_induction bsearchLoop cmp xs l u with
  | case1 l u hlu hnone =>
    rw [List.getElem?_eq_none_iff] at hnone
    omega
  | case2 l u hlu y hy hlt ih =>
    have hky := (hcmp y).1.mp hlt
    apply ih hl _ (by omega)
    by_contra hge
    exact absurd (hle (Nat.le_of_not_lt hge) hy hi) (by rw [hk]; exact hky.not_ge)
  | case3 l u hlu y hy hnot hgt ih =>
    have hky := (hcmp y).2.mp hgt
    apply ih _ hu hlen
    by_contra hge
    exact absurd (hle (Nat.le_of_lt_succ (Nat.lt_of_not_le hge)) hi hy) (by rw [hk]; exact hky.not_ge)
  | case4 l u hlu y hy hnot hnot' => rfl
  | case5 l u hlu => exact absurd (hl.trans_lt hu) hlu

/-- **An entry with the key is found**, also when other entries have that key. -/
theorem bsearch_isSome (hcmp : Compares key k cmp) {x : α} (hx : x ∈ xs) (hk : key x = k) :
    (bsearch cmp xs xs.length).isSome := by
  obtain ⟨i, hi⟩ := mem_iff_getElem?.mp hx
  exact bsearchLoop_isSome h hcmp hi hk (Nat.zero_le i) (List.getElem?_eq_some_iff.mp hi).1 le_rfl

theorem key_le_getLast {x last : α} (hx : x ∈ xs) (hlast : xs.getLast? = some last) : key x ≤ key last := by
  obtain ⟨front, rfl⟩ := getLast?_eq_some_iff.mp hlast
  rcases mem_append.mp hx with hfront | hend
  · exact (pairwise_append.mp h).2.2 x hfront last (mem_singleton_self last)
  · exact (congrArg key (mem_singleton.mp hend)).le

theorem key_head_le {x first : α} (hx : x ∈ xs) (hfirst : xs[0]? = some first) : key first ≤ key x := by
  cases xs with
  | nil => cases hx
  | cons y ys =>
    rw [getElem?_cons_zero, Option.some.injEq] at hfirst
    subst hfirst
    rcases mem_cons.mp hx with rfl | hmem
    · exact le_rfl
    · exact (pairwise_cons.mp h).1 x hmem

end

end repeated

/-! ## Replacing an entry -/

section replaces

variable {α β K : Type*} {key : α → K} {x : α} {xs xs' : List α}

/-- The entries of `xs`, with `x` in the place of the one with its key. -/
def Replaces (key : α → K) (x : α) (xs xs' : List α) : Prop :=
  ∀ y, y ∈ xs' ↔ y = x ∨ y ∈ xs ∧ key y ≠ key x

theorem Replaces.of_perm (hnew : key x ∉ xs.map key) (hperm : xs'.Perm (xs ++ [x])) :
    Replaces key x xs xs' := by
  intro y
  rw [hperm.mem_iff, mem_append, mem_singleton, or_comm]
  refine or_congr_right ⟨fun hy => ⟨hy, fun hkey => ?_⟩, fun hy => hy.1⟩
  exact hnew (mem_map.mpr ⟨y, hy, hkey⟩)

theorem Replaces.modify (hnodup : (xs.map key).Nodup) {f : α → α} {old : α} (hi : xs[i]? = some old)
    (hkey : key (f old) = key old) : Replaces key (f old) xs (xs.modify i f) := by
  have hpos : ∀ {j : ℕ} {y : α}, xs[j]? = some y → (key y = key old ↔ j = i) := by
    intro j y hj
    refine ⟨fun heq => ?_, fun heq => ?_⟩
    · have hlt := (List.getElem?_eq_some_iff.mp hj).1
      apply (getElem?_inj (by simpa using hlt) hnodup).mp
      rw [getElem?_map, getElem?_map, hi, hj, map_some, map_some, heq]
    · rw [heq, hi] at hj
      rw [Option.some.inj hj]
  intro y
  rw [hkey]
  constructor
  · intro hy
    obtain ⟨j, hj⟩ := mem_iff_getElem?.mp hy
    rw [getElem?_modify] at hj
    obtain ⟨z, hz, hzy⟩ := map_eq_some_iff.mp hj
    rcases eq_or_ne i j with rfl | hne
    · rw [if_pos rfl] at hzy
      rw [hi] at hz
      exact .inl (by rw [← hzy, Option.some.inj hz])
    · rw [if_neg hne] at hzy
      subst hzy
      exact .inr ⟨mem_of_getElem? hz, fun heq => hne ((hpos hz).mp heq).symm⟩
  · rintro (rfl | ⟨hy, hne⟩)
    · apply mem_of_getElem? (i := i)
      rw [getElem?_modify, hi]
      simp
    · obtain ⟨j, hj⟩ := mem_iff_getElem?.mp hy
      apply mem_of_getElem? (i := j)
      have hij : i ≠ j := fun heq => hne ((hpos hj).mpr heq.symm)
      rw [getElem?_modify, hj]
      simp [hij]

theorem Replaces.modify_new (h : Replaces key x xs xs') (hnodup : (xs'.map key).Nodup) (hi : xs'[i]? = some x)
    {f : α → α} (hkey : key (f x) = key x) : Replaces key (f x) xs (xs'.modify i f) := by
  intro y
  rw [Replaces.modify hnodup hi hkey y, h, hkey]
  refine or_congr_right ⟨?_, fun hy => ⟨.inr hy, hy.2⟩⟩
  rintro ⟨rfl | hy, hne⟩
  · exact absurd rfl hne
  · exact hy

theorem Replaces.map (h : Replaces key x xs xs') {g : α → β} {key' : β → K}
    (hkey : ∀ y, key' (g y) = key y) : Replaces key' (g x) (xs.map g) (xs'.map g) := by
  intro y
  simp only [mem_map]
  constructor
  · rintro ⟨z, hz, rfl⟩
    rcases (h z).mp hz with rfl | ⟨hin, hne⟩
    · exact .inl rfl
    · exact .inr ⟨⟨z, hin, rfl⟩, by rwa [hkey, hkey]⟩
  · rintro (rfl | ⟨⟨z, hz, rfl⟩, hne⟩)
    · exact ⟨x, (h x).mpr (.inl rfl), rfl⟩
    · exact ⟨z, (h z).mpr (.inr ⟨hz, by rwa [hkey, hkey] at hne⟩), rfl⟩

end replaces

/-! ## Groups -/

theorem eq_filter_append {xs : List α} (h : xs.Pairwise fun a b => key a ≤ key b) {k : K}
    (hk : ∀ x ∈ xs, k ≤ key x) :
    xs = xs.filter (key · = k) ++ xs.filter (k < key ·) := by
  induction xs with
  | nil => rfl
  | cons x xs ih =>
    obtain ⟨hx, hxs⟩ := pairwise_cons.mp h
    rcases (hk x mem_cons_self).eq_or_lt with heq | hlt
    · have hrest := ih hxs fun y hy => hk y (mem_cons_of_mem x hy)
      rw [filter_cons_of_pos (by simpa using heq.symm),
        filter_cons_of_neg (by simpa using heq.ge), cons_append, ← hrest]
    · have hnone : (x :: xs).filter (key · = k) = [] := by
        rw [filter_eq_nil_iff]
        intro y hy
        rcases mem_cons.mp hy with rfl | hy
        · simpa using hlt.ne'
        · simpa using (hlt.trans_le (hx y hy)).ne'
      have hall : (x :: xs).filter (k < key ·) = x :: xs := by
        rw [filter_eq_self]
        intro y hy
        rcases mem_cons.mp hy with rfl | hy
        · simpa using hlt
        · simpa using hlt.trans_le (hx y hy)
      rw [hnone, hall, nil_append]

section

variable {xs : List α} (h : xs.Pairwise fun a b => key a ≤ key b) {ks : List K} (hks : ks.Pairwise (· < ·))
  (hmem : ∀ x ∈ xs, key x ∈ ks)
include h hks hmem

/-- **A sorted list is the concatenation of its groups.** -/
theorem eq_flatten_groups :
    xs = (ks.map fun k => xs.filter (key · = k)).flatten := by
  induction ks generalizing xs with
  | nil => exact eq_nil_iff_forall_not_mem.mpr fun x hx => by simpa using hmem x hx
  | cons k ks ih =>
    obtain ⟨hk, hks⟩ := pairwise_cons.mp hks
    have hle : ∀ x ∈ xs, k ≤ key x := by
      intro x hx
      rcases mem_cons.mp (hmem x hx) with heq | hin
      · exact heq.ge
      · exact (hk _ hin).le
    have hrest : ∀ x ∈ xs.filter (k < key ·), key x ∈ ks := by
      intro x hx
      obtain ⟨hin, hlt⟩ := mem_filter.mp hx
      rcases mem_cons.mp (hmem x hin) with heq | hin'
      · simp [heq] at hlt
      · exact hin'
    have hgroups : ∀ k' ∈ ks, (xs.filter (k < key ·)).filter (key · = k') =
        xs.filter (key · = k') := by
      intro k' hk'
      rw [filter_filter]
      apply filter_congr
      intro x _
      by_cases heq : key x = k'
      · simp [heq, hk k' hk']
      · simp [heq]
    rw [map_cons, flatten_cons]
    conv_lhs => rw [eq_filter_append h hle, ih (h.filter _) hks hrest]
    congr 2
    exact map_congr_left hgroups

/-- **A group is a slice**: it lies behind the groups of the keys before it. -/
theorem slice_eq_group {k : K} (hi : ks[i]? = some k) :
    (xs.drop ((ks.take i).map fun k => (xs.filter (key · = k)).length).sum).take
      (xs.filter (key · = k)).length = xs.filter (key · = k) := by
  obtain ⟨hlt, rfl⟩ := List.getElem?_eq_some_iff.mp hi
  have hslice := drop_take_succ_flatten_eq_getElem
    (ks.map fun k => xs.filter (key · = k)) i (by simpa using hlt)
  rw [← eq_flatten_groups h hks hmem] at hslice
  simp only [map_map, getElem_map, Function.comp_def] at hslice
  rw [← map_take, ← map_take, take_succ_eq_append_getElem hlt, map_append,
    sum_append, drop_take] at hslice
  simpa using hslice

end

end Dlt.Lib
