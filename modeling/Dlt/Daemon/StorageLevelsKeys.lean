import Dlt.Daemon.StorageLevelsTables
import Dlt.Lib.Highest

/-!
# What the keys of a device are read and looked up for

* `readsAlike` — the highest of the levels are the same.
-/

namespace Dlt.Daemon

open Dlt.Lib Dlt.Shared Dlt.Logstorage List
open Option (bind_some getD_some isSome_iff_exists map_eq_some_iff map_some)

/-! ## Levels -/

/-- The levels of the filters that the lookup finds on a device. -/
def configuredLevels (ecuid : Id4) (ids : Id4 × Id4) (handle : DltLogStorage) : List ℤ :=
  (handle.getConfig ids ecuid).map (·.logLevel)

/-- The highest level among the filters that the lookup finds on the devices, `DLT_LOG_DEFAULT` if it finds none. -/
def configuredLevel (ecuid : Id4) (ids : Id4 × Id4) (storageHandle : List DltLogStorage) : ℤ :=
  raise (storageHandle.flatMap (configuredLevels ecuid ids)) dltLogDefault

/-- The levels of the keys of a device that are read for a context. -/
def readLevels (ecuid : Id4) (ids : Id4 × Id4) (handle : DltLogStorage) : List ℤ :=
  if handle.ready then
    (handle.allKeys.filter fun key => keyMatches ecuid key ids).map (dltLogstorageGetLoglevelByKey handle)
  else []

/-- The keys of a device that are read for a context give it the level that is configured on the device. -/
def ReadsAlike (ecuid : Id4) (ids : Id4 × Id4) (handle : DltLogStorage) : Prop :=
  raise (readLevels ecuid ids handle) dltLogDefault = raise (configuredLevels ecuid ids handle) dltLogDefault

/-! ## The condition -/

def DltLogStorage.filters (handle : DltLogStorage) : List DltLogStorageFilterConfig := handle.configList.map (·.data)

open DltLogStorage

/-- What is looked up for a context. -/
def contextMessage (ecuid : Id4) (ids : Id4 × Id4) : StorageMessage := ⟨some ids, ecuid, dltLogDefault⟩

/-- The names of a filter have no `:`, its ECU id is plain, and it has no wildcard for an application together with one
for a context, unless it is for the ECU alone. -/
structure PlainFilterKeys (config : DltLogStorageFilterConfig) : Prop where
  names : ∀ name ∈ names config.apids ++ names config.ctids, 58 ∉ name ∧ 0 ∉ name
  ecuid : ∀ ecuid ∈ config.ecuid, PlainId (idString ecuid)
  wildcards : (config.ecuid.isSome && onlyEcu config) = false → ∀ apid ∈ Logstorage.names config.apids,
    isWildcard apid = true → ascii ".*" ∉ Logstorage.names config.ctids

/-- The ids of a context and of the daemon are plain, the keys of the filters are, and the search that ends when there
are as many answers as filters misses no filter that answers. -/
structure PlainlyRead (ecuid : Id4) (ids : Id4 × Id4) (configs : List DltLogStorageFilterConfig) : Prop where
  plain_ecuid : PlainId (idString ecuid)
  noColon : 58 ∉ idString ids.1 ∧ 58 ∉ idString ids.2
  filters : ∀ config ∈ configs, PlainFilterKeys config
  complete : ∀ qs, Asked configs (contextMessage ecuid ids) qs → ∀ config ∈ configs,
    answers config (questions (contextMessage ecuid ids)) ≠ 0 → answers config qs ≠ 0

/-- Where a filter answers at most one question, none is missed. -/
theorem PlainlyRead.of_one {ecuid : Id4} {ids : Id4 × Id4} {configs : List DltLogStorageFilterConfig}
    (hecuid : PlainId (idString ecuid)) (hids : 58 ∉ idString ids.1 ∧ 58 ∉ idString ids.2)
    (hfilters : ∀ config ∈ configs, PlainFilterKeys config)
    (hone : ∀ config ∈ configs, answers config (questions (contextMessage ecuid ids)) ≤ 1) :
    PlainlyRead ecuid ids configs := by
  refine ⟨hecuid, hids, hfilters, ?_⟩
  intro qs hasked config hconfig hanswers
  rwa [hasked.answers_eq hone hconfig]

/-- All filters have their keys, a file name and a level. -/
def AllFilters (configList : List DltLogStorageFilterList) : Prop :=
  ∀ node ∈ configList, dltLogstorageCreateKeys node.data = some node.keys ∧
    node.data.fileName.isSome = true ∧ 1 ≤ node.data.logLevel ∧ node.data.logLevel ≤ dltLogVerbose

/-- The ids of a context that is registered. -/
structure RegisteredIds (ids : Id4 × Id4) : Prop where
  apid : ids.1.Canonical ∧ ids.1.isEmpty = false
  ctid : ids.2.Canonical ∧ ids.2.isEmpty = false

/-! ## The parts of a key -/

section parts

variable {config : DltLogStorageFilterConfig} {k : Question} {ecuid : Id4} {ids : Id4 × Id4}

/-- A key of plain parts, none of which is the wildcard. -/
structure PlainKey (k : Question) : Prop where
  ecuid : 58 ∉ k.ecuid ∧ 0 ∉ k.ecuid ∧ k.ecuid.length ≤ 4
  apid : IsPart k.apid ∧ k.apid ≠ ascii ".*"
  ctid : IsPart k.ctid ∧ k.ctid ≠ ascii ".*"
  any : ¬ (k.ecuid = [] ∧ k.apid = [] ∧ k.ctid = [])

theorem isPart_nil : IsPart [] := ⟨by decide, by decide, by decide⟩

theorem nil_ne_wildcard : [] ≠ ascii ".*" := by decide

theorem mem_names {ids : Option (List UInt8)} {name : List UInt8} (h : name ∈ names ids) :
    name ≠ [] ∧ name.length ≤ 4 := by
  obtain ⟨token, htoken, rfl⟩ := mem_map.mp h
  cases ids with
  | none => exact absurd htoken (by simp)
  | some text =>
    have hne := (mem_strtok (mem_of_mem_take htoken)).1
    exact ⟨by simpa using hne, length_take_le 4 token⟩

theorem PlainFilterKeys.plainKey (h : PlainFilterKeys config) (hk : k ∈ known config) : PlainKey k := by
  have hecu : 58 ∉ ecuString config ∧ 0 ∉ ecuString config ∧ (ecuString config).length ≤ 4 := by
    unfold ecuString
    cases hecuid : config.ecuid with
    | none => decide
    | some ecu => exact ⟨(h.ecuid ecu hecuid).noColon, zero_not_mem_idText ecu.bytes, length_idText_le ecu.bytes⟩
  unfold known at hk
  by_cases honly : (config.ecuid.isSome && onlyEcu config) = true
  · rw [if_pos honly, mem_singleton] at hk
    subst hk
    refine ⟨hecu, ⟨isPart_nil, nil_ne_wildcard⟩, ⟨isPart_nil, nil_ne_wildcard⟩, fun hall => ?_⟩
    obtain ⟨ecu, hecuid⟩ := isSome_iff_exists.mp (Bool.and_eq_true_iff.mp honly).1
    have hnil := hall.1
    simp only [ecuString, hecuid, map_some, getD_some] at hnil
    exact (h.ecuid ecu hecuid).ne_nil hnil
  · rw [if_neg honly] at hk
    obtain ⟨apid, hapid, hk⟩ := mem_flatMap.mp hk
    obtain ⟨ctid, hctid, rfl⟩ := mem_map.mp hk
    obtain ⟨hane, halen⟩ := mem_names hapid
    obtain ⟨hcne, hclen⟩ := mem_names hctid
    obtain ⟨hacolon, hazero⟩ := h.names apid (mem_append_left _ hapid)
    obtain ⟨hccolon, hczero⟩ := h.names ctid (mem_append_right _ hctid)
    have hwild : ∀ {id : List UInt8}, ¬ isWildcard id = true → id ≠ ascii ".*" := by
      rintro id hid rfl
      exact hid rfl
    refine ⟨hecu, ?_, ?_, ?_⟩
    · dsimp only
      split_ifs with hwa
      · exact ⟨isPart_nil, nil_ne_wildcard⟩
      · exact ⟨⟨halen, hazero, hacolon⟩, hwild hwa⟩
    · dsimp only
      split_ifs with hwc
      · exact ⟨isPart_nil, nil_ne_wildcard⟩
      · refine ⟨⟨hclen, hczero, hccolon⟩, ?_⟩
        by_cases hwa : isWildcard apid = true
        · rintro rfl
          exact h.wildcards (Bool.eq_false_iff.mpr honly) apid hapid hwa hctid
        · exact hwild fun hc => hwc (by simp [hwa, hc])
    · rintro ⟨-, ha, hc⟩
      dsimp only at ha hc
      by_cases hwa : isWildcard apid = true
      · simp [hwa, hcne] at hc
      · simp [hwa, hane] at ha

theorem dltSetId_idBuffer {id : List UInt8} (hlen : id.length ≤ 4) (hzero : 0 ∉ id) :
    dltSetId (idBuffer id) = dltSetId id := by
  have hid := idText_of_short hlen hzero
  have hfilled := idText_idText id
  rw [hid] at hfilled
  have hbuffer : idBuffer id = (id ++ replicate (4 - id.length) 0) ++ [0] := by
    rw [idBuffer, append_assoc, ← replicate_succ']
    congr 2
    omega
  have htext : idText (idBuffer id) = idText (id ++ replicate (4 - id.length) 0) := by
    have hfour : (id ++ replicate (4 - id.length) (0 : UInt8)).length = 4 := by
      rw [length_append, length_replicate]
      omega
    unfold idText
    rw [hbuffer, take_left' hfour, take_of_length_le hfour.le]
  rw [dltSetId_eq_iff (canonical_dltSetId _)]
  exact (idText_idText _).trans ((htext.trans hfilled).trans hid.symm)

/-- **What a plain key is read as.** -/
theorem splitKey_text (h : PlainKey k) :
    splitKey k.text = some ⟨dltSetId (orWildcard k.apid), dltSetId (orWildcard k.ctid), dltSetId k.ecuid⟩ := by
  have hpart : ∀ {part}, IsPart part → dltSetId (idBuffer (orWildcard part)) = dltSetId (orWildcard part) := by
    intro part hpart
    unfold orWildcard
    split_ifs
    · decide
    · exact dltSetId_idBuffer hpart.short hpart.noZero
  rw [splitKey, Question.text, splitKey_joined h.ecuid.2.1 h.ecuid.2.2 h.apid.1 h.ctid.1 h.any
    (fun hcolon => absurd hcolon h.ecuid.1), bind_some]
  dsimp only
  rw [if_neg (not_not_intro rfl), hpart h.apid.1, hpart h.ctid.1, dltSetId_idBuffer h.ecuid.2.2 h.ecuid.2.1]

/-- The part of a key that is left out is the wildcard, and no other is. -/
theorem dltSetId_orWildcard_iff {part : List UInt8} (h : IsPart part ∧ part ≠ ascii ".*") :
    dltSetId (orWildcard part) = wildcardId ↔ part = [] := by
  unfold orWildcard
  split_ifs with hnil
  · exact iff_of_true rfl hnil
  · refine iff_of_false (fun heq => h.2 ?_) hnil
    exact dltSetId_inj ⟨h.1.short, h.1.noZero⟩ ⟨by decide, by decide⟩ heq

theorem strncmpEq_dltSetId {part : List UInt8} (hlen : part.length ≤ 4) (hzero : 0 ∉ part) (id : Id4) :
    strncmpEq (dltSetId part) id = true ↔ part = idString id := by
  unfold strncmpEq
  rw [decide_eq_true_eq]
  have htext : idText (dltSetId part).bytes = part := (idText_idText part).trans (idText_of_short hlen hzero)
  rw [htext]
  rfl

theorem isEmpty_dltSetId_iff {part : List UInt8} (hzero : 0 ∉ part) :
    (dltSetId part).isEmpty = true ↔ part = [] := by
  cases part with
  | nil => exact iff_of_true (by decide) rfl
  | cons b part =>
    have hb : b ≠ 0 := fun hb => hzero (hb ▸ mem_cons_self)
    simp [Id4.isEmpty, dltSetId, idText, hb]

/-- **A key is read for the contexts that its parts are left out for or are the ids of.** -/
theorem keyMatches_iff (h : PlainKey k) (hids : RegisteredIds ids) :
    keyMatches ecuid k.text ids = true ↔ (k.ecuid = [] ∨ k.ecuid = idString ecuid) ∧
      (k.apid = [] ∨ k.apid = idString ids.1) ∧ (k.ctid = [] ∨ k.ctid = idString ids.2) := by
  have hsame : ∀ id : Id4, idString (dltSetId id.bytes) = idString id := fun id => idText_idText id.bytes
  rw [keyMatches, splitKey_text h]
  dsimp only
  rw [Bool.and_eq_true, Bool.or_eq_true, isEmpty_dltSetId_iff h.ecuid.2.1,
    strncmpEq_dltSetId h.ecuid.2.2 h.ecuid.2.1]
  refine and_congr_right' ?_
  unfold SplitKey.matchesIds
  simp only [dltSetId_orWildcard_iff h.apid, dltSetId_orWildcard_iff h.ctid]
  have hid : ∀ {part : List UInt8} {id : Id4}, IsPart part → id.Canonical →
      (id = dltSetId part ↔ part = idString id) := by
    intro part id hpart hcanonical
    rw [dltSetId_eq_iff hcanonical, idText_of_short hpart.short hpart.noZero]
    exact eq_comm
  by_cases ha : k.apid = [] <;> by_cases hc : k.ctid = []
  · simp [ha, hc]
  · simp [ha, hc, orWildcard, strncmpEq_dltSetId h.ctid.1.short h.ctid.1.noZero, hsame]
  · simp [ha, hc, orWildcard, strncmpEq_dltSetId h.apid.1.short h.apid.1.noZero, hsame]
  · simp [ha, hc, orWildcard, Prod.ext_iff, hid h.apid.1 hids.apid.1, hid h.ctid.1 hids.ctid.1]

end parts

/-! ## What is looked up -/

section lookup

variable {handle : DltLogStorage} {config : DltLogStorageFilterConfig} {k q : Question} {qs : List Question}
  {key : List UInt8} {ecuid : Id4} {ids : Id4 × Id4} {level bound : ℤ}

theorem answers_ne_zero_iff : answers config qs ≠ 0 ↔ ∃ q ∈ qs, Answers config q := by
  rw [answers, ← Nat.pos_iff_ne_zero, countP_pos_iff]
  simp only [decide_eq_true_eq]

theorem RegisteredIds.ne_nil (h : RegisteredIds ids) : idString ids.1 ≠ [] ∧ idString ids.2 ≠ [] := by
  have hid : ∀ {id : Id4}, id.isEmpty = false → idString id ≠ [] := by
    rintro ⟨bytes, hlen⟩ hempty hnil
    cases bytes with
    | nil => simp at hlen
    | cons b bytes =>
      have hb : b ≠ 0 := by simpa [Id4.isEmpty] using hempty
      simp [idString, idText, hb] at hnil
  exact ⟨hid h.apid.2, hid h.ctid.2⟩

/-- The questions are all ways to leave out parts, but not all of them. -/
theorem mem_questions_iff (hecu : idString ecuid ≠ []) (hids : idString ids.1 ≠ [] ∧ idString ids.2 ≠ []) :
    q ∈ questions (contextMessage ecuid ids) ↔ ((q.ecuid = [] ∨ q.ecuid = idString ecuid) ∧
      (q.apid = [] ∨ q.apid = idString ids.1) ∧ (q.ctid = [] ∨ q.ctid = idString ids.2)) ∧
        ¬ (q.ecuid = [] ∧ q.apid = [] ∧ q.ctid = []) := by
  obtain ⟨e, a, c⟩ := q
  obtain ⟨ha, hc⟩ := hids
  simp only [questions, contextMessage, mem_cons, Question.mk.injEq, not_mem_nil, or_false]
  constructor
  · rintro (⟨rfl, rfl, rfl⟩ | ⟨rfl, rfl, rfl⟩ | ⟨rfl, rfl, rfl⟩ | ⟨rfl, rfl, rfl⟩ | ⟨rfl, rfl, rfl⟩ |
      ⟨rfl, rfl, rfl⟩ | ⟨rfl, rfl, rfl⟩) <;> simp [hecu, ha, hc]
  · rintro ⟨⟨rfl | rfl, rfl | rfl, rfl | rfl⟩, hany⟩ <;> simp at hany ⊢

theorem mem_configs_find_iff :
    config ∈ handle.configs (dltLogstorageListFind key handle.configList) ↔
      ∃ node ∈ handle.configList, key ∈ node.keys ∧ node.data = config := by
  unfold configs dltLogstorageListFind
  simp only [mem_filterMap, mem_filter, mem_range]
  constructor
  · rintro ⟨j, ⟨-, hkey⟩, hconfig⟩
    obtain ⟨node, hnode, rfl⟩ := map_eq_some_iff.mp hconfig
    rw [hnode] at hkey
    exact ⟨node, mem_of_getElem? hnode, of_decide_eq_true hkey, rfl⟩
  · rintro ⟨node, hmem, hkey, rfl⟩
    obtain ⟨j, hj⟩ := mem_iff_getElem?.mp hmem
    exact ⟨j, ⟨(List.getElem?_eq_some_iff.mp hj).1, by simp [hj, hkey]⟩, by rw [hj]; rfl⟩

/-- The level of a key is the highest one of the filters that have it. -/
theorem getLoglevelByKey_le_iff (hready : handle.ready = true) (hbound : 0 ≤ bound) :
    dltLogstorageGetLoglevelByKey handle key ≤ bound ↔
      ∀ node ∈ handle.configList, key ∈ node.keys → node.data.logLevel ≤ bound := by
  have hall : (∀ node ∈ handle.configList, key ∈ node.keys → node.data.logLevel ≤ bound) ↔
      ∀ config ∈ handle.configs (dltLogstorageListFind key handle.configList), config.logLevel ≤ bound := by
    simp only [mem_configs_find_iff]
    exact ⟨fun h config ⟨node, hnode, hkey, hdata⟩ => hdata ▸ h node hnode hkey,
      fun h node hnode hkey => h node.data ⟨node, hnode, hkey, rfl⟩⟩
  rw [hall, dltLogstorageGetLoglevelByKey, if_pos hready]
  generalize handle.configs (dltLogstorageListFind key handle.configList) = configs
  match configs with
  | [] => exact iff_of_true (show -1 ≤ bound by omega) fun config h => absurd h not_mem_nil
  | [config] => exact ⟨fun h config' hin => (mem_singleton.mp hin) ▸ h, fun h => h config mem_cons_self⟩
  | first :: second :: configs =>
    have hfold : (first :: second :: configs).foldl (fun logLevel config => max config.logLevel logLevel) 0 =
        raise ((first :: second :: configs).map (·.logLevel)) 0 := by
      rw [raise, foldl_map]
    change foldl _ _ _ ≤ _ ↔ _
    rw [hfold, raise_le_iff, forall_mem_map]
    exact and_iff_right hbound

section

variable (h : AllFilters handle.configList)
include h

theorem AllFilters.configList_eq : handle.configList = handle.filters.map filterNode := by
  rw [filters, map_map]
  refine ((map_congr_left fun node hnode => ?_).trans (map_id _)).symm
  have hkeys := (h node hnode).1
  rw [createKeys_eq] at hkeys
  split_ifs at hkeys
  obtain ⟨keys, config⟩ := node
  exact congrArg (DltLogStorageFilterList.mk · config) (Option.some.inj hkeys)

theorem AllFilters.mem_iff {node : DltLogStorageFilterList} :
    node ∈ handle.configList ↔ ∃ config ∈ handle.filters, filterNode config = node := by
  conv_lhs => rw [h.configList_eq]
  exact mem_map

/-- The lookup finds the filters that answer a question that is asked. -/
theorem configuredLevels_asked (hready : handle.ready = true) (ecuid : Id4) (ids : Id4 × Id4) :
    ∃ qs, Asked handle.filters (contextMessage ecuid ids) qs ∧ ∀ level, level ∈ configuredLevels ecuid ids handle ↔
      ∃ config ∈ handle.filters, answers config qs ≠ 0 ∧ config.logLevel = level := by
  obtain ⟨qs, hasked, hfound⟩ := getConfig_asked handle.filters (contextMessage ecuid ids)
  refine ⟨qs, hasked, fun level => ?_⟩
  have hpositions : dltLogstorageGetConfig handle.configList (some ids) ecuid = qs.flatMap (found handle.filters) := by
    rw [h.configList_eq]
    exact hfound
  have hconfig : ∀ j : ℕ, handle.configList[j]?.map (·.data) = handle.filters[j]? := by
    intro j
    rw [filters, getElem?_map]
  rw [configuredLevels, getConfig, if_pos hready, hpositions, configs]
  simp only [mem_map, mem_filterMap, mem_flatMap, hconfig, mem_found_iff, answers_ne_zero_iff]
  constructor
  · rintro ⟨config, ⟨j, ⟨q, hq, config', hget', hanswers⟩, hget⟩, rfl⟩
    obtain rfl : config' = config := Option.some.inj (hget'.symm.trans hget)
    exact ⟨config', mem_of_getElem? hget, ⟨q, hq, hanswers⟩, rfl⟩
  · rintro ⟨config, hmem, ⟨q, hq, hanswers⟩, rfl⟩
    obtain ⟨j, hget⟩ := getElem?_of_mem hmem
    exact ⟨config, ⟨j, ⟨q, hq, config, hget, hanswers⟩, hget⟩, rfl⟩

theorem getLoglevelByKey_range (hready : handle.ready = true) (hkey : key ∈ handle.allKeys) :
    1 ≤ dltLogstorageGetLoglevelByKey handle key ∧ dltLogstorageGetLoglevelByKey handle key ≤ dltLogVerbose := by
  obtain ⟨node, hnode, hin⟩ := mem_flatMap.mp hkey
  constructor
  · by_contra hlow
    have hzero := (getLoglevelByKey_le_iff hready (le_refl 0)).mp (by omega) node hnode hin
    have := (h node hnode).2.2.1
    omega
  · exact (getLoglevelByKey_le_iff hready (by decide)).mpr fun node hnode _ => (h node hnode).2.2.2

end

/-- **Plain keys are read as they are looked up.** -/
theorem readsAlike (h : AllFilters handle.configList) (hids : RegisteredIds ids)
    (hplain : handle.ready = true → PlainlyRead ecuid ids handle.filters) : ReadsAlike ecuid ids handle := by
  unfold ReadsAlike
  by_cases hready : handle.ready = true
  swap
  · rw [readLevels, if_neg hready, configuredLevels, getConfig, if_neg hready]
    rfl
  have hplain := hplain hready
  obtain ⟨qs, hasked, hlevels⟩ := configuredLevels_asked h hready ecuid ids
  have hread : ∀ {config}, config ∈ handle.filters → ∀ {k}, k ∈ known config →
      (keyMatches ecuid k.text ids = true ↔ k ∈ questions (contextMessage ecuid ids)) := by
    intro config hconfig k hk
    have hkey := (hplain.filters config hconfig).plainKey hk
    rw [keyMatches_iff hkey hids, mem_questions_iff hplain.plain_ecuid.ne_nil hids.ne_nil]
    exact (and_iff_left hkey.any).symm
  apply le_antisymm <;> rw [raise_le_iff] <;> refine ⟨le_raise _ _, fun level hlevel => ?_⟩
  · -- a key that is read is looked up for the context, and no filter that has it is missed
    rw [readLevels, if_pos hready] at hlevel
    obtain ⟨key, hkey, rfl⟩ := mem_map.mp hlevel
    obtain ⟨hkey, hmatch⟩ := mem_filter.mp hkey
    have hfound : ∀ node ∈ handle.configList, key ∈ node.keys →
        node.data.logLevel ≤ raise (configuredLevels ecuid ids handle) dltLogDefault := by
      intro node hnode hin
      obtain ⟨config, hconfig, rfl⟩ := h.mem_iff.mp hnode
      obtain ⟨k, hk, rfl⟩ := mem_map.mp hin
      have hanswers : answers config (questions (contextMessage ecuid ids)) ≠ 0 :=
        answers_ne_zero_iff.mpr ⟨k, (hread hconfig hk).mp hmatch, k, hk, rfl⟩
      exact le_raise_of_mem ((hlevels _).mpr ⟨config, hconfig, hplain.complete qs hasked config hconfig hanswers, rfl⟩)
    refine (getLoglevelByKey_le_iff hready ?_).mpr hfound
    obtain ⟨node, hnode, hin⟩ := mem_flatMap.mp hkey
    have hlow := (h node hnode).2.2.1
    exact (show (0 : ℤ) ≤ node.data.logLevel by omega).trans (hfound node hnode hin)
  · -- a filter that is found has a key that is read
    obtain ⟨config, hconfig, hanswers, rfl⟩ := (hlevels level).mp hlevel
    obtain ⟨q, hq, k, hk, htext⟩ := answers_ne_zero_iff.mp hanswers
    have hquestion : q ∈ questions (contextMessage ecuid ids) := hasked.isPrefix.subset hq
    have hkq : k = q := by
      have hkey := (hplain.filters config hconfig).plainKey hk
      obtain ⟨⟨hecuid, hapid, -⟩, -⟩ := (mem_questions_iff hplain.plain_ecuid.ne_nil hids.ne_nil).mp hquestion
      have hnoColon : ∀ {part id : List UInt8}, part = [] ∨ part = id → 58 ∉ id → 58 ∉ part := by
        rintro part id (rfl | rfl) hid
        · exact not_mem_nil
        · exact hid
      obtain ⟨he, ha, hc⟩ := (joined_inj hkey.ecuid.1 hkey.apid.1.noColon
        (hnoColon hecuid hplain.plain_ecuid.noColon) (hnoColon hapid hplain.noColon.1)).mp htext
      cases k
      cases q
      exact Question.mk.injEq .. ▸ ⟨he, ha, hc⟩
    subst hkq
    have hnode : filterNode config ∈ handle.configList := h.mem_iff.mpr ⟨config, hconfig, rfl⟩
    have hkey : k.text ∈ (filterNode config).keys := mem_map_of_mem hk
    have hin : k.text ∈ handle.allKeys := mem_flatMap.mpr ⟨_, hnode, hkey⟩
    have hrange := getLoglevelByKey_range h hready hin
    calc config.logLevel ≤ dltLogstorageGetLoglevelByKey handle k.text :=
          (getLoglevelByKey_le_iff hready (by omega)).mp le_rfl _ hnode hkey
      _ ≤ raise (readLevels ecuid ids handle) dltLogDefault := by
          apply le_raise_of_mem
          rw [readLevels, if_pos hready]
          exact mem_map_of_mem (mem_filter.mpr ⟨hin, (hread hconfig hk).mpr hquestion⟩)

end lookup

end Dlt.Daemon
