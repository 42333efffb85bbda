import Mathlib.Algebra.Order.BigOperators.Group.List
import Mathlib.Data.List.Infix
import Dlt.Logstorage.Filter

/-!
# What filters are looked up under

* `PlainId`, `joined_inj` — an id that can be told apart in a key.
-/

namespace Dlt.Logstorage

open Dlt.Lib Dlt.Shared List

/-! ## Questions -/

/-- An ECU id, an application and a context; what is left out is empty. -/
structure Question where
  ecuid : List UInt8
  apid : List UInt8
  ctid : List UInt8
deriving DecidableEq

open Question

/-- The parts with a `:` in front of the second and of the third: every shape of a key. -/
def joined (e a c : List UInt8) : List UInt8 := e ++ 58 :: (a ++ 58 :: c)

def Question.text (q : Question) : List UInt8 := joined q.ecuid q.apid q.ctid

/-- The names of a list: at most 100, each with at most four characters. -/
def names (ids : Option (List UInt8)) : List (List UInt8) :=
  (((ids.map (strtok 44)).getD []).take 100).map (·.take 4)

/-- What a filter answers to: its ECU id alone, or each of its applications with each of its contexts. An application
that begins with the wildcard is left out, and else a context that does. -/
def known (config : DltLogStorageFilterConfig) : List Question :=
  if config.ecuid.isSome && onlyEcu config then [⟨ecuString config, [], []⟩]
  else (names config.apids).flatMap fun apid => (names config.ctids).map fun ctid =>
    ⟨ecuString config, if isWildcard apid then [] else apid,
      if !isWildcard apid && isWildcard ctid then [] else ctid⟩

/-- The questions for a message, in their order. -/
def questions (m : StorageMessage) : List Question :=
  match m.ids with
  | none => [⟨idString m.ecu, [], []⟩]
  | some (apid, ctid) =>
    [⟨[], idString apid, []⟩, ⟨[], [], idString ctid⟩, ⟨[], idString apid, idString ctid⟩,
      ⟨idString m.ecu, idString apid, idString ctid⟩, ⟨idString m.ecu, idString apid, []⟩,
      ⟨idString m.ecu, [], idString ctid⟩, ⟨idString m.ecu, [], []⟩]

/-- A filter answers a question: it answers to the same text. -/
def Answers (config : DltLogStorageFilterConfig) (q : Question) : Prop := ∃ k ∈ known config, k.text = q.text

instance (config : DltLogStorageFilterConfig) (q : Question) : Decidable (Answers config q) :=
  inferInstanceAs (Decidable (∃ k ∈ known config, _))

/-- How many of the questions a filter answers. -/
def answers (config : DltLogStorageFilterConfig) (qs : List Question) : ℕ := qs.countP fun q => Answers config q

/-- How many answers there are from all filters. -/
def allAnswers (configs : List DltLogStorageFilterConfig) (qs : List Question) : ℕ :=
  (configs.map fun config => answers config qs).sum

/-- The filters that answer to something. -/
def stored (configs : List DltLogStorageFilterConfig) : List DltLogStorageFilterConfig :=
  configs.filter fun config => known config ≠ []

/-- The questions that are asked: all of them, or those up to the first one with which there are as many answers as
filters. -/
structure Asked (configs : List DltLogStorageFilterConfig) (m : StorageMessage) (qs : List Question) : Prop where
  isPrefix : qs <+: questions m
  ne_nil : qs ≠ []
  earlier : ∀ k, 0 < k → k < qs.length → allAnswers configs (qs.take k) ≠ configs.length
  ends : allAnswers configs qs = configs.length ∨ qs = questions m

section answers

variable {configs : List DltLogStorageFilterConfig} {config : DltLogStorageFilterConfig} {m : StorageMessage}
  {q : Question} {qs qs' rest : List Question}

theorem answers_append : answers config (qs ++ rest) = answers config qs + answers config rest := countP_append

theorem allAnswers_nil (configs : List DltLogStorageFilterConfig) : allAnswers configs [] = 0 := by
  simp [allAnswers, answers]

theorem allAnswers_cons (configs : List DltLogStorageFilterConfig) (q : Question) (qs : List Question) :
    allAnswers configs (q :: qs) = configs.countP (fun config => Answers config q) + allAnswers configs qs := by
  induction configs with
  | nil => rfl
  | cons config configs ih =>
    unfold allAnswers at ih ⊢
    rw [map_cons, sum_cons, ih, map_cons, sum_cons, countP_cons, answers, answers, countP_cons]
    omega

theorem Asked.not_shorter (h : Asked configs m qs) (h' : Asked configs m qs') : ¬ qs.length < qs'.length := by
  intro hlt
  have htake : qs'.take qs.length = qs :=
    (prefix_iff_eq_take.mp (prefix_of_prefix_length_le h.isPrefix h'.isPrefix hlt.le)).symm
  have hearlier := h'.earlier qs.length (length_pos_of_ne_nil h.ne_nil) hlt
  rw [htake] at hearlier
  rcases h.ends with hall | hwhole
  · exact hearlier hall
  · have := h'.isPrefix.length_le
    rw [hwhole] at hlt
    omega

/-- The questions that are asked are determined. -/
theorem Asked.unique (h : Asked configs m qs) (h' : Asked configs m qs') : qs = qs' :=
  (prefix_of_prefix_length_le h.isPrefix h'.isPrefix (not_lt.mp (h'.not_shorter h))).eq_of_length
    (le_antisymm (not_lt.mp (h'.not_shorter h)) (not_lt.mp (h.not_shorter h')))

/-- As many answers as filters, with at most one from each, are one from each. -/
theorem answers_of_full (hone : ∀ config ∈ configs, answers config qs ≤ 1)
    (hall : allAnswers configs qs = configs.length)
    (hmem : config ∈ configs) : answers config qs = 1 := by
  by_contra hnot
  have hlt : allAnswers configs qs < (configs.map fun _ => 1).sum :=
    sum_lt_sum _ _ hone ⟨config, hmem, lt_of_le_of_ne (hone config hmem) hnot⟩
  simp [hall] at hlt

/-- **Where a filter answers at most one question** no answer is missed. -/
theorem Asked.answers_eq (h : Asked configs m qs) (hone : ∀ config ∈ configs, answers config (questions m) ≤ 1)
    (hmem : config ∈ configs) : answers config qs = answers config (questions m) := by
  obtain ⟨rest, hrest⟩ := h.isPrefix
  rcases h.ends with hall | hwhole
  · have hle : ∀ config ∈ configs, answers config qs + answers config rest ≤ 1 := by
      intro config hmem
      rw [← answers_append, hrest]
      exact hone config hmem
    have hfull := answers_of_full (fun config hmem => (Nat.le_add_right _ _).trans (hle config hmem)) hall hmem
    have := hle config hmem
    rw [← hrest, answers_append]
    omega
  · rw [hwhole]

end answers

/-! ## Keys -/

section keys

variable {configs : List DltLogStorageFilterConfig} {config : DltLogStorageFilterConfig} {m : StorageMessage}
  {q : Question} {qs : List Question} {j : ℕ}

theorem ascii_colon : ascii ":" = [58] := rfl

theorem ascii_colons : ascii "::" = [58, 58] := rfl

theorem pairKey_eq (ecuid apid ctid : List UInt8) :
    pairKey ecuid apid ctid = joined ecuid (if isWildcard apid then [] else apid)
      (if !isWildcard apid && isWildcard ctid then [] else ctid) := by
  rcases Bool.eq_false_or_eq_true (isWildcard apid) with hapid | hapid <;>
    rcases Bool.eq_false_or_eq_true (isWildcard ctid) with hctid | hctid <;>
    simp [pairKey, joined, hapid, hctid, dltLogstorageCreateKeysOnlyCtid, dltLogstorageCreateKeysOnlyApid,
      dltLogstorageCreateKeysMulti, ascii_colon, ascii_colons]

theorem getKeysList_eq (ids : List UInt8) :
    dltLogstorageGetKeysList ids = if names (some ids) = [] then none else some (names (some ids)) := by
  unfold dltLogstorageGetKeysList names
  cases hnames : strtok 44 ids with
  | nil => simp [hnames]
  | cons name rest => simp [hnames]

/-- **The keys of a filter** are the texts of what it answers to. -/
theorem createKeys_eq (config : DltLogStorageFilterConfig) :
    dltLogstorageCreateKeys config =
      if known config = [] then none else some ((known config).map text) := by
  unfold dltLogstorageCreateKeys known
  by_cases honly : (config.ecuid.isSome && onlyEcu config) = true
  · rw [if_pos honly, if_pos honly, if_neg (cons_ne_nil _ _), map_singleton]
    simp [text, joined, dltLogstorageCreateKeysOnlyEcu, ascii_colons]
  · rw [if_neg honly, if_neg honly]
    cases config.apids with
    | none => simp [names]
    | some apids =>
      cases config.ctids with
      | none => simp [names]
      | some ctids =>
        dsimp only
        rw [getKeysList_eq, getKeysList_eq]
        by_cases hapids : names (some apids) = []
        · simp [hapids]
        by_cases hctids : names (some ctids) = []
        · simp [hctids]
        obtain ⟨apid, hapid⟩ := exists_mem_of_ne_nil _ hapids
        rw [if_neg hapids, if_neg hctids, if_neg]
        · simp [map_flatMap, pairKey_eq, Function.comp_def, text]
        · intro hnil
          exact hctids (map_eq_nil_iff.mp (flatMap_eq_nil_iff.mp hnil apid hapid))

/-- A filter with its keys. -/
def filterNode (config : DltLogStorageFilterConfig) : DltLogStorageFilterList :=
  ⟨(known config).map text, config⟩

theorem prepareTable_eq (configs : List DltLogStorageFilterConfig) :
    dltLogstoragePrepareTable configs = (stored configs).map filterNode := by
  unfold dltLogstoragePrepareTable stored
  rw [← filterMap_eq_map, ← filterMap_eq_filter, filterMap_filterMap]
  congr 1
  funext config
  rw [createKeys_eq]
  by_cases hknown : known config = []
  · simp [hknown, Option.guard]
  · simp [hknown, Option.guard, filterNode]

theorem mem_keys_iff : q.text ∈ (filterNode config).keys ↔ Answers config q := mem_map

/-- The positions of the filters that answer a question. -/
def found (configs : List DltLogStorageFilterConfig) (q : Question) : List ℕ :=
  dltLogstorageListFind q.text (configs.map filterNode)

theorem mem_found_iff : j ∈ found configs q ↔ ∃ config, configs[j]? = some config ∧ Answers config q := by
  rw [found, dltLogstorageListFind, mem_filter, mem_range, length_map, getElem?_map]
  cases hget : configs[j]? with
  | none => simp
  | some config =>
    have hlt : j < configs.length := (List.getElem?_eq_some_iff.mp hget).1
    simp [hlt, ← mem_keys_iff]

theorem count_found (hget : configs[j]? = some config) :
    (found configs q).count j = if Answers config q then 1 else 0 := by
  have hnodup : (found configs q).Nodup := nodup_range.filter _
  have hmem : j ∈ found configs q ↔ Answers config q := by
    rw [mem_found_iff, hget]
    exact ⟨fun ⟨config', h, hq⟩ => Option.some.inj h ▸ hq, fun hq => ⟨config, rfl, hq⟩⟩
  rw [hnodup.count]
  exact if_congr hmem rfl rfl

theorem length_found (configs : List DltLogStorageFilterConfig) (q : Question) :
    (found configs q).length = configs.countP fun config => Answers config q := by
  induction configs using reverseRecOn with
  | nil => rfl
  | append_singleton configs last ih =>
    have hfront : (List.range configs.length).filter
        (fun j => (((configs ++ [last]).map filterNode)[j]?.map fun node => decide (q.text ∈ node.keys)).getD false) =
          found configs q := by
      rw [found, dltLogstorageListFind, length_map]
      apply filter_congr
      intro j hj
      rw [map_append, getElem?_append_left (by simpa using hj)]
    rw [found, dltLogstorageListFind, length_map, length_append, length_singleton, range_succ, filter_append, hfront,
      length_append, ih, countP_append]
    congr 1
    by_cases hlast : Answers last q
    · simp [hlast, mem_keys_iff]
    · simp [hlast, mem_keys_iff]

theorem length_flatMap_found (configs : List DltLogStorageFilterConfig) (qs : List Question) :
    (qs.flatMap (found configs)).length = allAnswers configs qs := by
  induction qs with
  | nil => exact (allAnswers_nil configs).symm
  | cons q qs ih => rw [flatMap_cons, length_append, ih, length_found, allAnswers_cons]

theorem count_flatMap_found (hget : configs[j]? = some config) (qs : List Question) :
    (qs.flatMap (found configs)).count j = answers config qs := by
  induction qs with
  | nil => rfl
  | cons q qs ih =>
    rw [flatMap_cons, count_append, ih, count_found hget, answers, answers, countP_cons, Nat.add_comm]
    simp

/-- The search goes on until there are as many answers as filters. -/
theorem searchKeys_eq (configs : List DltLogStorageFilterConfig) (hne : qs ≠ []) (config : List ℕ) :
    ∃ asked, asked <+: qs ∧ asked ≠ [] ∧
      searchKeys (configs.map filterNode) (qs.map text) config = config ++ asked.flatMap (found configs) ∧
      (∀ k, 0 < k → k < asked.length → config.length + allAnswers configs (asked.take k) ≠ configs.length) ∧
      (config.length + allAnswers configs asked = configs.length ∨ asked = qs) := by
  induction qs generalizing config with
  | nil => exact absurd rfl hne
  | cons q qs ih =>
    have hfirst : allAnswers configs [q] = (found configs q).length := by
      rw [allAnswers_cons, allAnswers_nil, length_found, Nat.add_zero]
    rw [map_cons, searchKeys, length_map]
    change ∃ asked, _ ∧ _ ∧ (if (config ++ found configs q).length = configs.length then config ++ found configs q
      else searchKeys _ _ (config ++ found configs q)) = _ ∧ _
    rw [length_append]
    by_cases hall : config.length + (found configs q).length = configs.length
    · refine ⟨[q], ⟨qs, rfl⟩, cons_ne_nil _ _, ?_, fun k hpos hk => absurd hk (not_lt.mpr hpos), .inl ?_⟩
      · rw [if_pos hall, flatMap_singleton]
      · rw [hfirst, hall]
    rw [if_neg hall]
    by_cases hrest : qs = []
    · subst hrest
      refine ⟨[q], prefix_rfl, cons_ne_nil _ _, ?_, fun k hpos hk => absurd hk (not_lt.mpr hpos), .inr rfl⟩
      rw [flatMap_singleton]
      rfl
    obtain ⟨asked, hasked, -, hsearch, hearlier, hends⟩ := ih hrest (config ++ found configs q)
    rw [length_append] at hearlier hends
    refine ⟨q :: asked, cons_prefix_cons.mpr ⟨rfl, hasked⟩, cons_ne_nil _ _, ?_, ?_, ?_⟩
    · rw [hsearch, flatMap_cons, append_assoc]
    · intro k hpos hk
      obtain ⟨k, rfl⟩ := Nat.exists_eq_succ_of_ne_zero hpos.ne'
      rw [take_succ_cons, allAnswers_cons, ← length_found, ← Nat.add_assoc]
      rcases Nat.eq_zero_or_pos k with rfl | hpos'
      · rw [take_zero, allAnswers_nil, Nat.add_zero]
        exact hall
      · exact hearlier k hpos' (by simpa using hk)
    · rw [allAnswers_cons, ← length_found, ← Nat.add_assoc]
      exact hends.imp_right fun h => congrArg _ h

/-- **A filter is found once for every question asked that it answers.** -/
theorem getConfig_asked (configs : List DltLogStorageFilterConfig) (m : StorageMessage) :
    ∃ qs, Asked configs m qs ∧
      dltLogstorageGetConfig (configs.map filterNode) m.ids m.ecu = qs.flatMap (found configs) := by
  obtain ⟨ids, ecu, logLevel⟩ := m
  cases ids with
  | none =>
    refine ⟨_, ⟨prefix_rfl, cons_ne_nil _ _, fun k hpos hk => absurd hk (not_lt.mpr hpos), .inr rfl⟩, ?_⟩
    simp [questions, dltLogstorageGetConfig, found, text, joined, ascii_colons]
  | some ids =>
    obtain ⟨qs, hasked, hne, hsearch, hearlier, hends⟩ := searchKeys_eq configs
      (show questions ⟨some ids, ecu, logLevel⟩ ≠ [] from cons_ne_nil _ _) []
    have hkeys : possibleKeys (idString ids.1) (idString ids.2) (idString ecu) =
        (questions ⟨some ids, ecu, logLevel⟩).map text := by
      simp [possibleKeys, questions, text, joined, ascii_colon, ascii_colons]
    rw [length_nil] at hearlier hends
    simp only [Nat.zero_add] at hearlier hends
    refine ⟨qs, ⟨hasked, hne, hearlier, hends⟩, ?_⟩
    rw [dltLogstorageGetConfig, hkeys, hsearch, nil_append]

end keys

/-! ## Plain ids -/

/-- An id that is not empty and has no `:`. -/
structure PlainId (id : List UInt8) : Prop where
  ne_nil : id ≠ []
  noColon : 58 ∉ id

theorem append_colon_inj {e e' r r' : List UInt8} (he : 58 ∉ e) (he' : 58 ∉ e') :
    e ++ 58 :: r = e' ++ 58 :: r' ↔ e = e' ∧ r = r' := by
  induction e generalizing e' with
  | nil =>
    cases e' with
    | nil => simp
    | cons x e' =>
      rw [mem_cons, not_or] at he'
      simp [he'.1]
  | cons x e ih =>
    rw [mem_cons, not_or] at he
    cases e' with
    | nil => simp [Ne.symm he.1]
    | cons x' e' =>
      rw [mem_cons, not_or] at he'
      rw [cons_append, cons_append, cons.injEq, ih he.2 he'.2, cons.injEq, and_assoc]

/-- A key has its parts, where there is no `:` in the ECU id and the application. -/
theorem joined_inj {e a c e' a' c' : List UInt8} (he : 58 ∉ e) (ha : 58 ∉ a) (he' : 58 ∉ e') (ha' : 58 ∉ a') :
    joined e a c = joined e' a' c' ↔ e = e' ∧ a = a' ∧ c = c' := by
  unfold joined
  rw [append_colon_inj he he', append_colon_inj ha ha']

end Dlt.Logstorage
