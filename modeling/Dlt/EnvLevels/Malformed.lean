import Dlt.EnvLevels.Documented

/-!
# What a malformed string of log levels leaves behind

* `malformed_iff` — **a malformed string has no side effect** in that case only: else its last item is counted before it
  is complete, and stays in the set.
-/

namespace Dlt.EnvLevels

open Dlt.Lib Dlt.Shared List

/-! ## Complete items -/

/-- The items with their `;`. -/
def completeText (V : List TextItem) : List UInt8 := V.flatMap fun x => x.text ++ [semicolon]

/-- Complete, valid items at the beginning of the string. -/
def Preceding (s : List UInt8) (V : List TextItem) : Prop :=
  (∀ x ∈ V, x.kind ≠ .dash) ∧ ∃ rest, s = completeText V ++ rest

/-- **No side effect**: a context keeps its level, or gets that of a complete, valid item; and a stored item that fits
a context is the complete, valid one at its place. -/
def NoSideEffect (malloc : ℕ → Bool) (s : List UInt8) : Prop :=
  ∃ V : List TextItem, Preceding s V ∧
    (∀ apid ctid ll, dltEnvAdjustLlFromEnv (dltEnvExtractLlSet malloc s).1.item apid ctid ll = ll ∨
      ∃ x ∈ V, dltEnvAdjustLlFromEnv (dltEnvExtractLlSet malloc s).1.item apid ctid ll = x.ll) ∧
    ∀ (i : ℕ) (item : EnvLlItem), (dltEnvExtractLlSet malloc s).1.item[i]? = some item →
      (∃ apid ctid p, Fits item apid ctid p) → (V.map TextItem.item)[i]? = some item

/-- The string is wrong just behind a level name and its `;`, and the items before it have numbers. -/
def RejectedBehindName (s : List UInt8) : Prop :=
  ∃ (V : List TextItem) (x : TextItem) (c : UInt8) (rest : List UInt8),
    (∀ y ∈ V, y.kind = .number) ∧ x.kind = .name ∧ c ≠ semicolon ∧
    s = completeText V ++ (x.text ++ semicolon :: c :: rest)

section complete

variable {malloc : ℕ → Bool} {env s t rest : List UInt8} {V : List TextItem} {x : TextItem} {fuel : ℕ}

theorem completeText_cons (x : TextItem) (V : List TextItem) (rest : List UInt8) :
    completeText (x :: V) ++ rest = x.text ++ semicolon :: (completeText V ++ rest) := by
  unfold completeText
  rw [flatMap_cons, append_assoc, append_assoc, singleton_append]

/-! ## The item at the error -/

/-- A level name is read, but what is behind its `;` is wrong. -/
theorem extractLlItem_name_stop (hname : x.kind = .name) {c : UInt8} (hc : c ≠ semicolon)
    (hzero : 0 ∉ x.text ++ semicolon :: c :: t) :
    dltEnvExtractLlItem (x.text ++ semicolon :: c :: t) = (x.item, none) := by
  have hreads := x.level_reads
  rw [hname] at hreads
  have hzero' : 0 ∉ semicolon :: c :: t := fun hmem => hzero (mem_append_right _ hmem)
  obtain ⟨hll, hrest⟩ := extractLl_name hreads (ends_semicolon (c :: t)) hzero'
  have hnone : (dltEnvExtractLl (x.level ++ semicolon :: c :: t)).2 = none := by
    cases hsome : (dltEnvExtractLl (x.level ++ semicolon :: c :: t)).2 with
    | none => rfl
    | some rest =>
      rcases ((hrest rest).mp hsome).2 with hnil | ⟨r, hcons⟩
      · cases hnil
      · exact absurd (List.cons.inj hcons).1 hc
  rw [text_append, extractLlItem_ids, hll, hnone]
  rfl

section

variable (hmalloc : ∀ n, malloc n = true)
include hmalloc

/-- **One turn of the loop** stores an item, and ends or goes on. -/
theorem extractItems_turn (fuel : ℕ) (env : List UInt8) (set : EnvLlSet) :
    ∃ set', set'.item = set.item ++ [(dltEnvExtractLlItem env).1] ∧
      ((extractItems malloc (fuel + 1) env set).1 = set' ∨
        ∃ env', extractItems malloc (fuel + 1) env set = extractItems malloc fuel env' set') := by
  obtain ⟨set', hroom, hitem⟩ := makeRoom_some hmalloc set
  refine ⟨{ set' with item := set'.item ++ [(dltEnvExtractLlItem env).1] }, by rw [hitem], ?_⟩
  rw [extractItems, hroom]
  dsimp only
  cases (dltEnvExtractLlItem env).2 with
  | none => exact .inl rfl
  | some rest =>
    dsimp only
    generalize (if rest.headD 0 = semicolon then rest.drop 1 else rest) = rest'
    by_cases hmore : rest'.headD 0 ≠ 0
    · rw [if_pos hmore]
      exact .inr ⟨rest', rfl⟩
    · rw [if_neg hmore]
      exact .inl rfl

theorem extractItems_extends (fuel : ℕ) (env : List UInt8) (set : EnvLlSet) :
    ∃ items, (extractItems malloc fuel env set).1.item = set.item ++ items := by
  induction fuel generalizing env set with
  | zero => exact ⟨[], (append_nil _).symm⟩
  | succ fuel ih =>
    obtain ⟨set', hitem, hends | ⟨env', hmore⟩⟩ := extractItems_turn hmalloc fuel env set
    · exact ⟨_, by rw [hends, hitem]⟩
    · obtain ⟨items, hitems⟩ := ih env' set'
      exact ⟨_, by rw [hmore, hitems, hitem, append_assoc]⟩

/-- **The first item is stored in any case.** -/
theorem extractItems_stores (fuel : ℕ) (env : List UInt8) (set : EnvLlSet) :
    ∃ items, (extractItems malloc (fuel + 1) env set).1.item = set.item ++ (dltEnvExtractLlItem env).1 :: items := by
  obtain ⟨set', hitem, hends | ⟨env', hmore⟩⟩ := extractItems_turn hmalloc fuel env set
  · exact ⟨[], by rw [hends, hitem]⟩
  · obtain ⟨items, hitems⟩ := extractItems_extends hmalloc fuel env' set'
    exact ⟨items, by rw [hmore, hitems, hitem, append_assoc, singleton_append]⟩

end

/-- Behind a second `;` the application id lacks its first character. -/
theorem appId_behind_semicolon {y : TextItem} {r : List UInt8} (h : y.text ++ r = semicolon :: t) :
    (dltEnvExtractLlItem t).1.appId ≠ y.item.appId := by
  have hsemicolon : semicolon ≠ colon := by decide
  rw [text_append] at h
  cases hapid : y.apid with
  | nil =>
    rw [hapid] at h
    exact absurd (List.cons.inj h).1.symm hsemicolon
  | cons c a =>
    rw [hapid, cons_append] at h
    obtain ⟨rfl, rfl⟩ := List.cons.inj h
    have hlen := y.apid_le
    have hcolon := y.apid_chars.1
    have hzero := y.apid_chars.2
    rw [hapid] at hlen hcolon hzero
    rw [length_cons] at hlen
    have hzero' : 0 ∉ a := fun hmem => hzero (mem_cons_of_mem _ hmem)
    have hcolon' : colon ∉ a := fun hmem => hcolon (mem_cons_of_mem _ hmem)
    have hread := extractId_text (show a.length ≤ 4 by omega) hcolon' hzero'
      (y.ctid ++ colon :: (y.level ++ r))
    have happ : (dltEnvExtractLlItem (a ++ colon :: (y.ctid ++ colon :: (y.level ++ r)))).1.appId = dltSetId a := by
      unfold dltEnvExtractLlItem
      dsimp only
      rw [hread]
      dsimp only
      cases (dltEnvExtractId ((colon :: (y.ctid ++ colon :: (y.level ++ r))).drop 1)).2 <;> rfl
    have hitem : y.item.appId = dltSetId (semicolon :: a) := congrArg dltSetId hapid
    rw [happ, hitem]
    intro hsame
    have hlen' : (semicolon :: a).length ≤ 4 := hlen
    have heq := dltSetId_inj ⟨show a.length ≤ 4 by omega, hzero'⟩ ⟨hlen', hzero⟩ hsame
    exact absurd (congrArg List.length heq) (by rw [length_cons]; omega)

/-! ## Strings that are wrong behind a level name -/

section

variable (hmalloc : ∀ n, malloc n = true)
include hmalloc

theorem extractItems_numbers (hnumbers : ∀ y ∈ V, y.kind = .number) (hne : s ≠ [])
    (hzero : 0 ∉ completeText V ++ s) (hfuel : (completeText V ++ s).length < fuel) (set : EnvLlSet) :
    ∃ fuel' set', s.length < fuel' ∧ set'.item = set.item ++ V.map TextItem.item ∧
      extractItems malloc fuel (completeText V ++ s) set = extractItems malloc fuel' s set' := by
  induction V generalizing fuel set with
  | nil => exact ⟨fuel, set, hfuel, (append_nil _).symm, rfl⟩
  | cons x V ih =>
    obtain ⟨hx, hV⟩ := forall_mem_cons.mp hnumbers
    rw [completeText_cons] at hzero hfuel ⊢
    have hread : ItemRead (x.text ++ semicolon :: (completeText V ++ s)) x (semicolon :: (completeText V ++ s)) :=
      .number x _ (by rw [hx]; decide) (ends_semicolon _)
    have hmore : completeText V ++ s ≠ [] := append_ne_nil_of_right_ne_nil _ hne
    cases fuel with
    | zero => exact absurd hfuel (Nat.not_lt_zero _)
    | succ fuel =>
      obtain ⟨set₁, hitem, hstep⟩ := @extractItems_step malloc _ _ fuel hmalloc x hread hzero set
      rw [drop_one, tail_cons, if_neg hmore] at hstep
      have hfuel' : (completeText V ++ s).length < fuel :=
        (length_behind hread hfuel).resolve_right hmore
      obtain ⟨fuel', set', hlt, hitems, hrest⟩ := ih hV (zero_not_mem_behind hread hzero) hfuel' set₁
      refine ⟨fuel', set', hlt, ?_, hstep.trans hrest⟩
      rw [hitems, hitem, map_cons, append_assoc, singleton_append]

/-- **A string that is wrong behind a level name** is rejected with its complete items. -/
theorem extractItems_rejectedBehindName (hnumbers : ∀ y ∈ V, y.kind = .number) (hname : x.kind = .name)
    {c : UInt8} (hc : c ≠ semicolon) (hzero : 0 ∉ completeText V ++ (x.text ++ semicolon :: c :: rest))
    (hfuel : (completeText V ++ (x.text ++ semicolon :: c :: rest)).length < fuel) (set : EnvLlSet) :
    (extractItems malloc fuel (completeText V ++ (x.text ++ semicolon :: c :: rest)) set).1.item =
      set.item ++ (V ++ [x]).map TextItem.item := by
  obtain ⟨fuel', set', hlt, hitems, hrest⟩ := extractItems_numbers hmalloc hnumbers
    (append_ne_nil_of_left_ne_nil (text_ne_nil x) _) hzero hfuel set
  have hzero' : 0 ∉ x.text ++ semicolon :: c :: rest := fun hmem => hzero (mem_append_right _ hmem)
  rw [hrest]
  cases fuel' with
  | zero => exact absurd hlt (Nat.not_lt_zero _)
  | succ fuel' =>
    obtain ⟨set₂, hroom, hitem⟩ := makeRoom_some hmalloc set'
    rw [extractItems, hroom]
    dsimp only
    rw [extractLlItem_name_stop hname hc hzero']
    dsimp only
    rw [hitem, hitems, map_append, append_assoc]
    rfl

/-- Behind a level name: the next item is not the one of the string, or the string is wrong there. -/
theorem rejectedBehindName_of_name (hname : x.kind = .name)
    (hzero : 0 ∉ x.text ++ semicolon :: (completeText V ++ rest))
    (hfuel : (x.text ++ semicolon :: (completeText V ++ rest)).length < fuel + 1) {set : EnvLlSet}
    (hrejected : (extractItems malloc (fuel + 1) (x.text ++ semicolon :: (completeText V ++ rest)) set).2 = false)
    (hitems : (extractItems malloc (fuel + 1) (x.text ++ semicolon :: (completeText V ++ rest)) set).1.item =
      set.item ++ (x :: V).map TextItem.item) :
    RejectedBehindName (x.text ++ semicolon :: (completeText V ++ rest)) := by
  cases hbehind : completeText V ++ rest with
  | nil =>
    rw [hbehind] at hzero hrejected
    obtain ⟨set', -, hstep⟩ := @extractItems_step malloc _ _ fuel hmalloc x (.name x [] hname ends_nil) hzero set
    rw [hstep, if_pos (show drop 1 ([] : List UInt8) = [] from rfl)] at hrejected
    cases hrejected
  | cons c t =>
    rw [hbehind] at hzero hfuel hrejected hitems
    by_cases hc : c = semicolon
    · subst hc
      have hread : ItemRead (x.text ++ semicolon :: semicolon :: t) x (semicolon :: t) :=
        .name x _ hname (ends_semicolon t)
      obtain ⟨set', hitem, hstep⟩ := @extractItems_step malloc _ _ fuel hmalloc x hread hzero set
      rw [hstep] at hrejected hitems
      have hlen := length_behind hread hfuel
      rw [drop_one, tail_cons] at hlen hrejected hitems
      by_cases hnil : t = []
      · rw [if_pos hnil] at hrejected
        cases hrejected
      · rw [if_neg hnil] at hitems
        cases fuel with
        | zero => exact absurd (hlen.resolve_right hnil) (Nat.not_lt_zero _)
        | succ fuel =>
          obtain ⟨items, hstored⟩ := extractItems_stores hmalloc fuel t set'
          rw [hstored, hitem, append_assoc, singleton_append, map_cons] at hitems
          have hnext := (List.cons.inj (append_cancel_left hitems)).2
          cases V with
          | nil => cases hnext
          | cons y V =>
            rw [completeText_cons] at hbehind
            have happ := congrArg EnvLlItem.appId (List.cons.inj hnext).1
            exact absurd happ (appId_behind_semicolon hbehind)
    · exact ⟨[], x, c, t, fun y hy => absurd hy not_mem_nil, hname, hc, rfl⟩

/-- **A string that is rejected with complete items only** is wrong just behind a level name. -/
theorem rejectedBehindName_of_items (hkinds : ∀ y ∈ V, y.kind ≠ .dash) (hzero : 0 ∉ completeText V ++ rest)
    (hfuel : (completeText V ++ rest).length < fuel) {set : EnvLlSet}
    (hrejected : (extractItems malloc fuel (completeText V ++ rest) set).2 = false)
    (hitems : (extractItems malloc fuel (completeText V ++ rest) set).1.item = set.item ++ V.map TextItem.item) :
    RejectedBehindName (completeText V ++ rest) := by
  induction V generalizing fuel set with
  | nil =>
    cases fuel with
    | zero => exact absurd hfuel (Nat.not_lt_zero _)
    | succ fuel =>
      obtain ⟨items, hstored⟩ := extractItems_stores hmalloc fuel (completeText [] ++ rest) set
      cases append_cancel_left (hstored.symm.trans hitems)
  | cons x V ih =>
    obtain ⟨hx, hV⟩ := forall_mem_cons.mp hkinds
    cases fuel with
    | zero => exact absurd hfuel (Nat.not_lt_zero _)
    | succ fuel =>
      rw [completeText_cons] at hzero hfuel hrejected hitems ⊢
      by_cases hname : x.kind = .name
      · exact rejectedBehindName_of_name hmalloc hname hzero hfuel hrejected hitems
      · have hread : ItemRead (x.text ++ semicolon :: (completeText V ++ rest)) x
            (semicolon :: (completeText V ++ rest)) := .number x _ hname (ends_semicolon _)
        obtain ⟨set', hitem, hstep⟩ := @extractItems_step malloc _ _ fuel hmalloc x hread hzero set
        rw [hstep] at hrejected hitems
        have hlen := length_behind hread hfuel
        rw [drop_one, tail_cons] at hlen hrejected hitems
        by_cases hnil : completeText V ++ rest = []
        · rw [if_pos hnil] at hrejected
          cases hrejected
        · rw [if_neg hnil] at hrejected hitems
          rw [map_cons, ← singleton_append, ← append_assoc, ← hitem] at hitems
          obtain ⟨V', y, c, rest', hnumbers, hname', hc, hshape⟩ :=
            ih hV (zero_not_mem_behind hread hzero) (hlen.resolve_right hnil) hrejected hitems
          refine ⟨x :: V', y, c, rest', forall_mem_cons.mpr ⟨kind_number hname hx, hnumbers⟩, hname', hc, ?_⟩
          rw [completeText_cons, hshape]

end

end complete

/-! ## Malformed strings -/

/-- Items that are all at their places in a list are the first ones of it. -/
theorem eq_take_of_places {items items' : List EnvLlItem}
    (h : ∀ (i : ℕ) (item : EnvLlItem), items[i]? = some item → items'[i]? = some item) :
    items = items'.take items.length := by
  apply ext_getElem?
  intro i
  rw [getElem?_take]
  split_ifs with hi
  · have hget := getElem?_eq_getElem hi
    rw [hget, h i _ hget]
  · exact getElem?_eq_none (not_lt.mp hi)

/-- **A malformed string has no side effect** exactly when it is wrong just behind a level name and its `;`, and the
items before it have numbers. -/
theorem malformed_iff (malloc : ℕ → Bool) (hmalloc : ∀ n, malloc n = true) (s : List UInt8) (hzero : 0 ∉ s)
    (hrejected : (dltEnvExtractLlSet malloc s).2 = false) : NoSideEffect malloc s ↔ RejectedBehindName s := by
  have hfuel : s.length < s.length + 1 := Nat.lt_succ_self _
  constructor
  · rintro ⟨V, ⟨hkinds, rest, hs⟩, -, hplace⟩
    rw [extractLlSet_eq hmalloc] at hrejected hplace
    have hstored := eq_take_of_places (fun i item hitem => hplace i item hitem (exists_fits item))
    generalize (extractItems malloc (s.length + 1) s ⟨[], dltEnvLlSetIncrease⟩).1.item.length = n at hstored
    have hsplit : s = completeText (V.take n) ++ (completeText (V.drop n) ++ rest) := by
      rw [hs, ← append_assoc]
      unfold completeText
      rw [← flatMap_append, take_append_drop]
    rw [map_take.symm] at hstored
    generalize s.length + 1 = fuel at hfuel hrejected hstored
    rw [hsplit] at hzero hfuel hrejected hstored ⊢
    exact rejectedBehindName_of_items hmalloc (fun y hy => hkinds y (mem_of_mem_take hy)) hzero hfuel hrejected
      (hstored.trans (nil_append _).symm)
  · rintro ⟨V, x, c, rest, hnumbers, hname, hc, hs⟩
    have hitems : (dltEnvExtractLlSet malloc s).1.item = (V ++ [x]).map TextItem.item := by
      rw [extractLlSet_eq hmalloc]
      generalize s.length + 1 = fuel at hfuel
      subst hs
      exact (extractItems_rejectedBehindName hmalloc hnumbers hname hc hzero hfuel _).trans (nil_append _)
    refine ⟨V ++ [x], ⟨?_, c :: rest, ?_⟩, ?_, ?_⟩
    · intro y hy
      rcases mem_append.mp hy with hy | hy
      · rw [hnumbers y hy]
        decide
      · rw [mem_singleton.mp hy, hname]
        decide
    · rw [hs]
      unfold completeText
      rw [flatMap_append, flatMap_singleton, append_assoc, append_assoc, singleton_append]
    · intro apid ctid ll
      rcases adjust_mem (dltEnvExtractLlSet malloc s).1.item apid ctid ll with hsame | ⟨item, hitem, hres⟩
      · exact .inl hsame
      · rw [hitems] at hitem
        obtain ⟨y, hy, rfl⟩ := mem_map.mp hitem
        exact .inr ⟨y, hy, hres⟩
    · intro i item hitem _
      rw [hitems] at hitem
      exact hitem

/-- A string that is wrong behind its first item leaves this item behind. -/
theorem malformed_sample : (dltEnvExtractLlSet (fun _ => true) (nameItem.text ++ ascii ";x")).2 = false ∧
    NoSideEffect (fun _ => true) (nameItem.text ++ ascii ";x") := by
  have hrejected : (dltEnvExtractLlSet (fun _ => true) (nameItem.text ++ ascii ";x")).2 = false := by decide +kernel
  refine ⟨hrejected, ?_⟩
  apply (malformed_iff (fun _ => true) (fun _ => rfl) _ (by decide) hrejected).mpr
  exact ⟨[], nameItem, 120, [], fun y hy => absurd hy not_mem_nil, rfl, by decide, rfl⟩

/-- **The empty string turns off every context**: its only item is cleared, and counts. -/
theorem malformed_empty : (dltEnvExtractLlSet (fun _ => true) []).2 = false ∧
    (∀ apid ctid ll, dltEnvAdjustLlFromEnv (dltEnvExtractLlSet (fun _ => true) []).1.item apid ctid ll = 0) ∧
      ¬ NoSideEffect (fun _ => true) [] := by
  have hadjust : ∀ apid ctid ll,
      dltEnvAdjustLlFromEnv (dltEnvExtractLlSet (fun _ => true) []).1.item apid ctid ll = 0 := by
    intro apid ctid ll
    rfl
  refine ⟨by decide +kernel, hadjust, ?_⟩
  rintro ⟨V, ⟨-, rest, hs⟩, hlevels, -⟩
  have hV : V = [] := by
    cases V with
    | nil => rfl
    | cons x V =>
      rw [completeText_cons] at hs
      exact absurd hs.symm (append_ne_nil_of_left_ne_nil (text_ne_nil x) _)
  subst hV
  rcases hlevels (dltSetId []) (dltSetId []) 4 with hsame | ⟨x, hx, -⟩
  · rw [hadjust] at hsame
    cases hsame
  · cases hx

end Dlt.EnvLevels
