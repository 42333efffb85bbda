import Dlt.Logstorage.Questions

/-!
# Which configurations a message is stored for

* `selects_iff_foundRightly` — every configuration that wants a message is returned once and no other, exactly if the
  questions find it; plain filters are enough for that.
-/

namespace Dlt.Logstorage

open Dlt.Lib Dlt.Shared List

/-! ## What a configuration asks for -/

/-- A list admits an id: there is no list, or the wildcard or the id is one of its names. -/
def listAdmits (ids : Option (List UInt8)) (id : Option (List UInt8)) : Bool :=
  ids.all fun text => (strtok 44 text).any fun name => name = ascii ".*" || id = some (name.take 4)

/-- Both lists admit the ids of a message. -/
def idsMatch (config : DltLogStorageFilterConfig) (m : StorageMessage) : Bool :=
  listAdmits config.apids (m.ids.map fun ids => idString ids.1) &&
    listAdmits config.ctids (m.ids.map fun ids => idString ids.2)

/-- The lists, the ECU id and the level admit the message. -/
def wanted (config : DltLogStorageFilterConfig) (m : StorageMessage) : Bool :=
  idsMatch config m && admits config m

/-- The filter returns each configuration that wants the message once, and it is written once for each of them that has
a file name. -/
structure SelectsWanted (list : List DltLogStorageFilterList) (m : StorageMessage) : Prop where
  filter : ∃ results, dltLogstorageFilter list m = some results ∧
    ∀ (j : ℕ) (node : DltLogStorageFilterList), list[j]? = some node →
      results.count (some j) = if wanted node.data m then 1 else 0
  write : ∃ targets, dltLogstorageWriteTargets list m = some targets ∧
    ∀ (j : ℕ) (node : DltLogStorageFilterList), list[j]? = some node →
      targets.count j = if wanted node.data m && node.data.fileName.isSome then 1 else 0

/-! ## The condition -/

/-- Of the questions that are asked, a configuration whose level and ECU id admit the message answers one if its lists
admit it, and none if they do not; and there are not more answers than the array has room for. -/
def FoundRightly (configs : List DltLogStorageFilterConfig) (m : StorageMessage) : Prop :=
  ∃ qs, Asked (stored configs) m qs ∧ allAnswers (stored configs) qs ≤ 125 ∧
    ∀ config ∈ stored configs, admits config m → answers config qs = if idsMatch config m then 1 else 0

/-- A list is the wildcard, or it has at most 100 names, and none of them begins with the wildcard or has a `:`. -/
def PlainList (ids : List UInt8) : Prop :=
  ids = ascii ".*" ∨ (strtok 44 ids).length ≤ 100 ∧ ∀ name ∈ strtok 44 ids, isWildcard name = false ∧ 58 ∉ name

instance (ids : List UInt8) : Decidable (PlainList ids) := inferInstanceAs (Decidable (_ ∨ _ ∧ ∀ _ ∈ _, _))

/-- The lists are plain, and the ECU id is if there is one. For two wildcards there has to be one. -/
structure PlainFilter (config : DltLogStorageFilterConfig) : Prop where
  apids : ∀ ids ∈ config.apids, PlainList ids
  ctids : ∀ ids ∈ config.ctids, PlainList ids
  ecuid : ∀ ecuid ∈ config.ecuid, PlainId (idString ecuid)
  wildcards : config.apids = some (ascii ".*") → config.ctids = some (ascii ".*") → config.ecuid.isSome = true

/-- Every configuration is plain and so are the ids of the message, and there are not more configurations than the
array has room for. -/
structure PlainFilters (configs : List DltLogStorageFilterConfig) (m : StorageMessage) : Prop where
  room : configs.length ≤ 125
  filters : ∀ config ∈ configs, PlainFilter config
  ecu : PlainId (idString m.ecu)
  ids : ∀ ids ∈ m.ids, PlainId (idString ids.1) ∧ PlainId (idString ids.2)

/-! ## Counting -/

section count

variable {configs : List DltLogStorageFilterConfig} {config : DltLogStorageFilterConfig} {m : StorageMessage} {j : ℕ}
  {qs : List Question} {list : List DltLogStorageFilterList}

/-- What stays of a list of positions is counted where the condition holds. -/
theorem count_map_ite (positions : List ℕ) (keep : ℕ → Bool) (j : ℕ) :
    (positions.map fun i => if keep i then some i else none).count (some j) =
      if keep j then positions.count j else 0 := by
  induction positions with
  | nil => simp
  | cons i positions ih =>
    rw [map_cons, count_cons, ih, count_cons]
    by_cases hij : i = j
    · subst hij
      by_cases hkeep : keep i <;> simp [hkeep]
    · by_cases hkeep : keep i <;> simp [hkeep, hij]

theorem count_filterMap_filter (results : List (Option ℕ)) (keep : ℕ → Bool) (j : ℕ) :
    (results.filterMap fun result => result.filter keep).count j =
      if keep j then results.count (some j) else 0 := by
  induction results with
  | nil => simp
  | cons result results ih =>
    rw [count_cons]
    cases result with
    | none => rw [filterMap_cons_none rfl, ih]; rfl
    | some i =>
      by_cases hkeep : keep i
      · rw [filterMap_cons_some (by simp [hkeep] : Option.filter keep (some i) = some i), count_cons, ih]
        by_cases hij : i = j
        · subst hij
          simp [hkeep]
        · simp [hij]
      · rw [filterMap_cons_none (by simp [hkeep]), ih]
        by_cases hij : i = j
        · subst hij
          simp [hkeep]
        · simp [hij]

theorem filter_eq_some_iff {results : List (Option ℕ)} :
    dltLogstorageFilter list m = some results ↔
      (dltLogstorageGetConfig list m.ids m.ecu).length ≤ 125 ∧
        results = (dltLogstorageGetConfig list m.ids m.ecu).map fun j =>
          if (list[j]?.map fun node => admits node.data m).getD false then some j else none := by
  rw [dltLogstorageFilter]
  by_cases hroom : 125 < (dltLogstorageGetConfig list m.ids m.ecu).length
  · rw [if_pos hroom]
    exact ⟨fun h => absurd h (Option.some_ne_none _).symm, fun h => absurd h.1 (Nat.not_le.mpr hroom)⟩
  · rw [if_neg hroom]
    exact ⟨fun h => ⟨Nat.le_of_not_lt hroom, (Option.some.inj h).symm⟩, fun h => by rw [h.2]⟩

/-- **A configuration is returned once for every question asked that it answers**, if the level and the ECU id admit
the message. -/
theorem count_results {results : List (Option ℕ)}
    (hresults : dltLogstorageFilter (configs.map filterNode) m = some results)
    (hfound : dltLogstorageGetConfig (configs.map filterNode) m.ids m.ecu = qs.flatMap (found configs))
    (hget : configs[j]? = some config) :
    results.count (some j) = if admits config m then answers config qs else 0 := by
  rw [(filter_eq_some_iff.mp hresults).2, count_map_ite, getElem?_map, hget, hfound, count_flatMap_found hget]
  rfl

/-- If the filter returns the right configurations, the message is written for the right ones. -/
theorem writes_of_filter
    (h : ∃ results, dltLogstorageFilter list m = some results ∧
      ∀ (j : ℕ) (node : DltLogStorageFilterList), list[j]? = some node →
        results.count (some j) = if wanted node.data m then 1 else 0) :
    SelectsWanted list m := by
  refine ⟨h, ?_⟩
  obtain ⟨results, hresults, hcount⟩ := h
  refine ⟨_, by rw [dltLogstorageWriteTargets, hresults, Option.map_some], ?_⟩
  intro j node hnode
  rw [count_filterMap_filter, hnode, hcount j node hnode]
  by_cases hname : node.data.fileName.isSome <;> simp [hname]

end count

/-! ## Plain filters -/

section plain

variable {configs : List DltLogStorageFilterConfig} {config : DltLogStorageFilterConfig} {m : StorageMessage}
  {ids : Option (List UInt8)} {part : List UInt8}

theorem isWildcard_take (name : List UInt8) : isWildcard (name.take 4) = isWildcard name := by
  unfold isWildcard
  rw [take_take]
  rfl

/-- Each of the three parts is left out, or it is the one that is looked for, or another one. -/
theorem one_of_seven {e e' a a' c c' : Prop} [Decidable e] [Decidable e'] [Decidable a] [Decidable a'] [Decidable c]
    [Decidable c'] (he : ¬ (e ∧ e')) (ha : ¬ (a ∧ a')) (hc : ¬ (c ∧ c')) (hnot : ¬ (e ∧ a ∧ c)) :
    0 + (if e' ∧ a ∧ c then 1 else 0) + (if e' ∧ a ∧ c' then 1 else 0) + (if e' ∧ a' ∧ c then 1 else 0) +
      (if e' ∧ a' ∧ c' then 1 else 0) + (if e ∧ a' ∧ c' then 1 else 0) + (if e ∧ a ∧ c' then 1 else 0) +
      (if e ∧ a' ∧ c then 1 else 0) = if ((a ∨ a') ∧ (c ∨ c')) ∧ (e ∨ e') then 1 else 0 := by
  by_cases e <;> by_cases e' <;> by_cases a <;> by_cases a' <;> by_cases c <;> by_cases c' <;> simp_all

/-- The names of a plain list; nothing stands for the wildcard. -/
def parts (ids : Option (List UInt8)) : List (List UInt8) :=
  if ids = none ∨ ids = some (ascii ".*") then [[]] else names ids

section

variable (h : ∀ text ∈ ids, PlainList text)
include h

theorem plain_names (hids : ¬ (ids = none ∨ ids = some (ascii ".*"))) :
    ∃ text, ids = some text ∧ names ids = (strtok 44 text).map (·.take 4) ∧
      ∀ name ∈ strtok 44 text, isWildcard name = false ∧ 58 ∉ name := by
  cases ids with
  | none => exact absurd (.inl rfl) hids
  | some text =>
    obtain ⟨hlength, hnames⟩ := (h text rfl).resolve_left fun htext => hids (.inr (congrArg some htext))
    exact ⟨text, rfl, by rw [names, Option.map_some, Option.getD_some, take_of_length_le hlength], hnames⟩

/-- The parts of a plain list are left out, or they are plain ids that do not begin with the wildcard. -/
theorem parts_cases : (ids = none ∨ ids = some (ascii ".*")) ∧ parts ids = [[]] ∨
    parts ids = names ids ∧ ∀ part ∈ parts ids, PlainId part ∧ isWildcard part = false := by
  unfold parts
  by_cases hids : ids = none ∨ ids = some (ascii ".*")
  · exact .inl ⟨hids, if_pos hids⟩
  · rw [if_neg hids]
    refine .inr ⟨rfl, fun part hpart => ?_⟩
    obtain ⟨text, -, hnames, hplain⟩ := plain_names h hids
    obtain ⟨name, hname, rfl⟩ := mem_map.mp (hnames ▸ hpart)
    obtain ⟨hwild, hcolon⟩ := hplain name hname
    refine ⟨⟨?_, fun hmem => hcolon (mem_of_mem_take hmem)⟩, (isWildcard_take name).trans hwild⟩
    simp [(mem_strtok hname).1]

theorem listAdmits_iff (id : Option (List UInt8)) :
    listAdmits ids id = true ↔ [] ∈ parts ids ∨ ∃ part ∈ parts ids, id = some part := by
  unfold parts
  by_cases hids : ids = none ∨ ids = some (ascii ".*")
  · rw [if_pos hids]
    refine iff_of_true ?_ (.inl (mem_singleton_self _))
    rcases hids with rfl | rfl
    · rfl
    · have htok : strtok 44 (ascii ".*") = [ascii ".*"] := by decide
      simp [listAdmits, htok]
  · rw [if_neg hids]
    obtain ⟨text, rfl, hnames, hplain⟩ := plain_names h hids
    have hempty : [] ∉ names (some text) := by
      rw [hnames, mem_map]
      rintro ⟨name, hname, hnil⟩
      simp [(mem_strtok hname).1] at hnil
    have hwild : ∀ name ∈ strtok 44 text, name ≠ ascii ".*" := by
      rintro name hname rfl
      exact absurd (hplain _ hname).1 (by decide)
    rw [or_iff_right hempty, hnames]
    simp only [listAdmits, Option.all_some, any_eq_true, Bool.or_eq_true, decide_eq_true_eq, mem_map]
    constructor
    · rintro ⟨name, hname, hwildcard | rfl⟩
      · exact absurd hwildcard (hwild name hname)
      · exact ⟨_, ⟨name, hname, rfl⟩, rfl⟩
    · rintro ⟨-, ⟨name, hname, rfl⟩, rfl⟩
      exact ⟨name, hname, .inr rfl⟩

theorem mem_names_wild (hwild : isWildcard part = true) (hpart : part ∈ names ids) : ids = some (ascii ".*") := by
  rcases parts_cases h with ⟨rfl | hids, -⟩ | ⟨hparts, hplain⟩
  · exact absurd hpart (by simp [names])
  · exact hids
  · rw [← hparts] at hpart
    exact absurd (hplain part hpart).2 (by rw [hwild]; decide)

theorem parts_eq (hids : ids ≠ none) : parts ids =
    (names ids).map fun name => if isWildcard name then [] else name := by
  by_cases hwildcard : ids = some (ascii ".*")
  · rw [parts, if_pos (.inr hwildcard), hwildcard]
    rfl
  · rw [parts, if_neg (fun hor => hor.elim hids hwildcard)]
    refine (map_id _).symm.trans (map_congr_left fun name hname => ?_)
    rw [if_neg fun hwild => hwildcard (mem_names_wild h hwild hname)]
    rfl

/-- A plain list that begins with the wildcard is the wildcard. -/
theorem eq_wildcard_of_isWildcard {text : List UInt8} (hids : ids = some text) (hwild : isWildcard text = true) :
    text = ascii ".*" := by
  subst hids
  rcases h text rfl with htext | ⟨-, hplain⟩
  · exact htext
  have hwild' : text.take 2 = ascii ".*" := of_decide_eq_true hwild
  have hfirst : ∃ name ∈ strtok 44 text, isWildcard name = true := by
    rw [← take_append_drop 2 text, hwild']
    by_cases hcomma : 44 ∈ text.drop 2
    · obtain ⟨front, rest, hrest, hfront⟩ := eq_append_cons_of_mem hcomma
      have hnot : 44 ∉ ascii ".*" ++ front := by simp [hfront, ascii]
      rw [hrest, ← append_assoc, strtok_append_cons hnot, if_neg (by simp [ascii])]
      exact ⟨_, mem_cons_self, rfl⟩
    · have hnot : 44 ∉ ascii ".*" ++ text.drop 2 := by simp [hcomma, ascii]
      rw [strtok_of_not_mem hnot, if_neg (by simp [ascii])]
      exact ⟨_, mem_cons_self, rfl⟩
  obtain ⟨name, hname, hwildName⟩ := hfirst
  exact absurd (hplain name hname).1 (by rw [hwildName]; decide)

end

section

variable (h : PlainFilter config) (hstored : known config ≠ [])
include h hstored

/-- **What a plain filter answers to**: its ECU id, with a part of each list. -/
theorem mem_known_iff (q : Question) :
    q ∈ known config ↔ q.ecuid = ecuString config ∧ q.apid ∈ parts config.apids ∧ q.ctid ∈ parts config.ctids := by
  obtain ⟨e, a, c⟩ := q
  unfold known at hstored ⊢
  by_cases honly : (config.ecuid.isSome && onlyEcu config) = true
  · have hparts : parts config.apids = [[]] ∧ parts config.ctids = [[]] := by
      have hlists := (Bool.and_eq_true_iff.mp honly).2
      unfold onlyEcu at hlists
      split at hlists
      · rename_i hapids hctids
        rw [hapids, hctids]
        exact ⟨rfl, rfl⟩
      · rename_i apids ctids hapids hctids
        obtain ⟨hwa, hwc⟩ := Bool.and_eq_true_iff.mp hlists
        rw [hapids, hctids, eq_wildcard_of_isWildcard h.apids hapids hwa, eq_wildcard_of_isWildcard h.ctids hctids hwc]
        exact ⟨rfl, rfl⟩
      · exact absurd hlists Bool.false_ne_true
    rw [if_pos honly, hparts.1, hparts.2]
    simp
  · rw [if_neg honly] at hstored ⊢
    have hboth : ¬ (config.apids = some (ascii ".*") ∧ config.ctids = some (ascii ".*")) := by
      rintro ⟨hapids, hctids⟩
      apply honly
      rw [h.wildcards hapids hctids, onlyEcu, hapids, hctids]
      rfl
    have hnone : ∀ ids, ids = none → names ids = [] := by
      rintro ids rfl
      rfl
    have hapids : config.apids ≠ none := fun hids => hstored (by rw [hnone _ hids, flatMap_nil])
    have hctids : config.ctids ≠ none := fun hids => hstored (by simp [hnone _ hids])
    have hpair : ∀ apid ∈ names config.apids, ∀ ctid ∈ names config.ctids,
        (if !isWildcard apid && isWildcard ctid then [] else ctid) = if isWildcard ctid then [] else ctid := by
      intro apid hapid ctid hctid
      by_cases hwa : isWildcard apid = true
      · have hwc : ¬ isWildcard ctid = true :=
          fun hwc => hboth ⟨mem_names_wild h.apids hwa hapid, mem_names_wild h.ctids hwc hctid⟩
        simp [hwc]
      · simp [hwa]
    rw [parts_eq h.apids hapids, parts_eq h.ctids hctids]
    simp only [mem_flatMap, mem_map, Question.mk.injEq]
    constructor
    · rintro ⟨apid, hapid, ctid, hctid, rfl, rfl, rfl⟩
      exact ⟨rfl, ⟨apid, hapid, rfl⟩, ctid, hctid, (hpair apid hapid ctid hctid).symm⟩
    · rintro ⟨rfl, ⟨apid, hapid, rfl⟩, ctid, hctid, rfl⟩
      exact ⟨apid, hapid, ctid, hctid, rfl, rfl, hpair apid hapid ctid hctid⟩

/-- It does not answer to nothing. -/
theorem not_all_left_out : ¬ (ecuString config = [] ∧ [] ∈ parts config.apids ∧ [] ∈ parts config.ctids) := by
  rintro ⟨hecu, hapids, hctids⟩
  have hnone : config.ecuid = none := by
    cases hecuid : config.ecuid with
    | none => rfl
    | some ecuid =>
      rw [ecuString, hecuid] at hecu
      exact absurd hecu (h.ecuid ecuid hecuid).ne_nil
  have hleft : ∀ {ids}, (∀ text ∈ ids, PlainList text) → [] ∈ parts ids → ids = none ∨ ids = some (ascii ".*") := by
    intro ids hids hmem
    rcases parts_cases hids with ⟨hor, -⟩ | ⟨-, hplain⟩
    · exact hor
    · exact absurd rfl (hplain [] hmem).1.ne_nil
  unfold known at hstored
  rw [hnone] at hstored
  rcases hleft h.apids hapids with ha | ha <;> rcases hleft h.ctids hctids with hc | hc
  · exact hstored (by simp [ha, names])
  · exact hstored (by simp [ha, names])
  · exact hstored (by simp [hc, names])
  · exact absurd (h.wildcards ha hc) (by simp [hnone])

theorem answers_plain_iff {q : Question} (hecuid : 58 ∉ q.ecuid) (hapid : 58 ∉ q.apid) :
    Answers config q ↔
      q.ecuid = ecuString config ∧ q.apid ∈ parts config.apids ∧ q.ctid ∈ parts config.ctids := by
  refine Iff.trans ?_ (mem_known_iff h hstored q)
  have hecu : 58 ∉ ecuString config := by
    unfold ecuString
    cases hecuid : config.ecuid with
    | none => exact not_mem_nil
    | some ecuid => exact (h.ecuid ecuid hecuid).noColon
  constructor
  · rintro ⟨k, hk, htext⟩
    obtain ⟨hkecuid, hkapid, -⟩ := (mem_known_iff h hstored k).mp hk
    have hcolon : 58 ∉ k.apid := by
      rcases parts_cases h.apids with ⟨-, hparts⟩ | ⟨-, hplain⟩
      · rw [hparts, mem_singleton] at hkapid
        rw [hkapid]
        exact not_mem_nil
      · exact (hplain _ hkapid).1.noColon
    obtain ⟨he, ha, hc⟩ := (joined_inj (hkecuid ▸ hecu) hcolon hecuid hapid).mp htext
    obtain ⟨e, a, c⟩ := q
    subst he ha hc
    exact hk
  · exact fun hq => ⟨q, hq, rfl⟩

/-- **A plain filter answers one question** if its lists and its ECU id match, and else none. -/
theorem answers_plain (hecu : PlainId (idString m.ecu))
    (hids : ∀ ids ∈ m.ids, PlainId (idString ids.1) ∧ PlainId (idString ids.2)) :
    answers config (questions m) =
      if idsMatch config m = true ∧ (∀ ecuid ∈ config.ecuid, idString m.ecu = idString ecuid) then 1 else 0 := by
  have hnot := not_all_left_out h hstored
  have hnil : (58 : UInt8) ∉ ([] : List UInt8) := not_mem_nil
  have hecuids : (∀ ecuid ∈ config.ecuid, idString m.ecu = idString ecuid) ↔
      [] = ecuString config ∨ idString m.ecu = ecuString config := by
    unfold ecuString
    cases hecuid : config.ecuid with
    | none => simp
    | some ecuid =>
      have hne := (h.ecuid ecuid hecuid).ne_nil
      simp [hne.symm]
  have hexclusive : ¬ ([] = ecuString config ∧ idString m.ecu = ecuString config) :=
    fun hboth => hecu.ne_nil (hboth.2.trans hboth.1.symm)
  have hlist : ∀ {ids id}, (∀ text ∈ ids, PlainList text) → PlainId id → ¬ ([] ∈ parts ids ∧ id ∈ parts ids) := by
    rintro ids id hids hid ⟨hleft, hmem⟩
    rcases parts_cases hids with ⟨-, hparts⟩ | ⟨-, hplain⟩
    · rw [hparts, mem_singleton] at hmem
      exact hid.ne_nil hmem
    · exact (hplain [] hleft).1.ne_nil rfl
  have hanswers : ∀ {e a c}, 58 ∉ e → 58 ∉ a → (Answers config ⟨e, a, c⟩ ↔
      e = ecuString config ∧ a ∈ parts config.apids ∧ c ∈ parts config.ctids) :=
    fun he ha => answers_plain_iff h hstored he ha
  simp only [idsMatch, Bool.and_eq_true, listAdmits_iff h.apids, listAdmits_iff h.ctids, hecuids]
  unfold answers questions
  cases hm : m.ids with
  | none =>
    simp only [countP_cons, countP_nil, hanswers hecu.noColon hnil, decide_eq_true_eq, Option.map_none, reduceCtorEq,
      and_false, exists_false, or_false, Nat.zero_add]
    refine if_congr ?_ rfl rfl
    rw [eq_comm] at hnot
    tauto
  | some ids =>
    obtain ⟨hapid, hctid⟩ := hids ids hm
    have hpa := hlist h.apids hapid
    have hpc := hlist h.ctids hctid
    simp only [countP_cons, countP_nil, hanswers hecu.noColon hnil, hanswers hnil hnil, hanswers hnil hapid.noColon,
      hanswers hecu.noColon hapid.noColon, decide_eq_true_eq, Option.map_some, Option.some.injEq, exists_eq_right']
    rw [@eq_comm _ (ecuString config)] at hnot
    exact one_of_seven hexclusive hpa hpc hnot

end

end plain

/-! ## Selection -/

section selection

variable {configs : List DltLogStorageFilterConfig} {m : StorageMessage}

theorem selectsWanted_iff (configs : List DltLogStorageFilterConfig) (m : StorageMessage) :
    SelectsWanted (dltLogstoragePrepareTable configs) m ↔ FoundRightly configs m := by
  rw [prepareTable_eq]
  have hnodes : ∀ {j : ℕ} {node : DltLogStorageFilterList}, ((stored configs).map filterNode)[j]? = some node →
      (stored configs)[j]? = some node.data := by
    intro j node hnode
    rw [getElem?_map] at hnode
    obtain ⟨config, hget, rfl⟩ := Option.map_eq_some_iff.mp hnode
    exact hget
  obtain ⟨qs, hasked, hfound⟩ := getConfig_asked (stored configs) m
  have hlength : (dltLogstorageGetConfig ((stored configs).map filterNode) m.ids m.ecu).length =
      allAnswers (stored configs) qs := by rw [hfound, length_flatMap_found]
  constructor
  · rintro ⟨⟨results, hresults, hcount⟩, -⟩
    refine ⟨qs, hasked, hlength ▸ (filter_eq_some_iff.mp hresults).1, ?_⟩
    intro config hmem hadmits
    obtain ⟨j, hget⟩ := getElem?_of_mem hmem
    have hj := hcount j (filterNode config) (by rw [getElem?_map, hget]; rfl)
    rw [count_results hresults hfound hget, if_pos hadmits] at hj
    rw [hj, wanted, show admits (filterNode config).data m = true from hadmits, Bool.and_true]
    rfl
  · rintro ⟨qs', hasked', hroom, hanswers⟩
    obtain rfl := hasked.unique hasked'
    apply writes_of_filter
    have hresults := filter_eq_some_iff.mpr ⟨hlength ▸ hroom, rfl⟩
    refine ⟨_, hresults, ?_⟩
    intro j node hnode
    have hget := hnodes hnode
    rw [count_results hresults hfound hget]
    by_cases hadmits : admits node.data m = true
    · rw [if_pos hadmits, hanswers _ (mem_of_getElem? hget) hadmits, wanted, hadmits, Bool.and_true]
    · rw [if_neg hadmits, wanted, Bool.eq_false_iff.mpr hadmits, Bool.and_false]
      rfl

/-- **Plain filters are found rightly**: each answers at most one question, so that the search ends early only when
all have answered. -/
theorem foundRightly_of_plain (h : PlainFilters configs m) : FoundRightly configs m := by
  have hanswers : ∀ config ∈ stored configs, answers config (questions m) =
      if idsMatch config m = true ∧ (∀ ecuid ∈ config.ecuid, idString m.ecu = idString ecuid) then 1 else 0 := by
    intro config hmem
    obtain ⟨hin, hstored⟩ := mem_filter.mp hmem
    exact answers_plain (h.filters config hin) (of_decide_eq_true hstored) h.ecu h.ids
  have hone : ∀ config ∈ stored configs, answers config (questions m) ≤ 1 := by
    intro config hmem
    rw [hanswers config hmem]
    split_ifs <;> omega
  obtain ⟨qs, hasked, -⟩ := getConfig_asked (stored configs) m
  refine ⟨qs, hasked, ?_, ?_⟩
  · have hsum : allAnswers (stored configs) qs ≤ ((stored configs).map fun _ => 1).sum :=
      sum_le_sum fun config hmem => (hasked.answers_eq hone hmem).trans_le (hone config hmem)
    have hshort : (stored configs).length ≤ configs.length := length_filter_le _ _
    have hroom := h.room
    simp at hsum
    omega
  · intro config hmem hadmits
    have hecu : ∀ ecuid ∈ config.ecuid, idString m.ecu = idString ecuid := by
      intro ecuid hecuid
      have hall := (Bool.and_eq_true_iff.mp hadmits).2
      rw [hecuid, Option.all_some] at hall
      exact of_decide_eq_true hall
    rw [hasked.answers_eq hone hmem, hanswers config hmem]
    exact if_congr (and_iff_left hecu) rfl rfl

end selection

/-- A filter for two applications, one for a context with any application, and one for an ECU. -/
def sampleFilters : List DltLogStorageFilterConfig :=
  [⟨some (ascii "A,B"), some (ascii "C"), none, 6, some (ascii "first")⟩,
    ⟨some (ascii ".*"), some (ascii "C"), some (dltSetId (ascii "ECU1")), 4, some (ascii "second")⟩,
    ⟨none, none, some (dltSetId (ascii "ECU2")), 6, some (ascii "third")⟩]

end Dlt.Logstorage
