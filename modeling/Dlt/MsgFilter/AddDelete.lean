import Dlt.MsgFilter.Filter

/-!
# Adding a filter and deleting it

* `dltFilterAdd_none`, `dltFilterAdd_some` — an entry is added behind the others, or one is found and nothing changes.
* `add_widens_iff` — **adding widens the selection by exactly the filter**, unless such a border is in the way.
* `delete_undoes_add` — **deleting undoes adding**, and deletes one entry or none.
-/

namespace Dlt.MsgFilter

open Dlt.Lib Dlt.Shared List FilterEntry

variable {filter : DltFilter} {ctid : Id4}

/-! ## Selected messages -/

/-- With entries and an extended header, a message is selected when an entry accepts it. -/
theorem messageFilterCheck_iff {msg : CheckedMessage} {ext : DltExtendedHeader} (hext : msg.extended = some ext)
    (hne : filter.entries ≠ []) :
    dltMessageFilterCheck msg filter = dltReturnTrue ↔ ∃ e ∈ filter.entries, e.accepts ext msg.datasize = true := by
  have hlen : filter.entries.length ≠ 0 := by
    intro hzero
    apply hne
    exact eq_nil_of_length_eq_zero hzero
  unfold dltMessageFilterCheck
  rw [hext]
  dsimp only
  rw [if_neg hlen, ← any_eq_true]
  by_cases hany : (filter.entries.any fun e => e.accepts ext msg.datasize) = true
  · simp [hany]
  · simp [hany]

section accepts

variable {e : FilterEntry} {v : FilterValues} {ext : DltExtendedHeader} {datasize : ℤ}

theorem FilterEntry.accepts_iff : e.accepts ext datasize = true ↔
    (e.apid.isEmpty = true ∨ e.apid = ext.apid) ∧ (e.ctid.isEmpty = true ∨ e.ctid = ext.ctid) ∧
      (e.logLevel = 0 ∨ e.logLevel = dltGetMsinMtin ext.msin) ∧
      (e.payloadMin = 0 ∨ e.payloadMin ≤ datasize) ∧ (e.payloadMax = 0 ∨ datasize ≤ e.payloadMax) := by
  unfold accepts
  simp only [Bool.and_eq_true, Bool.or_eq_true, decide_eq_true_eq, ge_iff_le, and_assoc]

theorem FilterEntry.found_iff : e.found v = true ↔ e.apid = v.apid ∧ e.ctid = v.ctid.getD (dltSetId []) ∧
    (e.logLevel = v.logLevel ∨ e.logLevel = 0) ∧ e.payloadMin ≤ v.payloadMin ∧ v.payloadMax ≤ e.payloadMax := by
  unfold found
  simp only [Bool.and_eq_true, Bool.or_eq_true, decide_eq_true_eq, ge_iff_le, and_assoc]

theorem FilterEntry.deleted_iff : e.deleted v ctid = true ↔ e.apid = v.apid ∧ e.ctid = ctid ∧
    (e.logLevel = v.logLevel ∨ e.logLevel = 0) ∧ e.payloadMin = v.payloadMin ∧ e.payloadMax = v.payloadMax := by
  unfold deleted
  simp only [Bool.and_eq_true, Bool.or_eq_true, decide_eq_true_eq, and_assoc]

theorem entry_ctid (v : FilterValues) : v.entry.ctid = dltSetId ((v.ctid.map Id4.bytes).getD []) := rfl

theorem FilterEntry.found_ids (h : e.found v = true) : e.apid = v.entry.apid ∧ e.ctid = v.entry.ctid := by
  obtain ⟨hapid, hctid, -⟩ := found_iff.mp h
  refine ⟨?_, ?_⟩
  · have hcanonical := e.canonical_apid
    unfold Id4.Canonical at hcanonical
    rw [← hcanonical, hapid]
    rfl
  · have hcanonical := e.canonical_ctid
    unfold Id4.Canonical at hcanonical
    rw [entry_ctid]
    cases hnone : v.ctid with
    | none =>
      rw [hctid, hnone]
      rfl
    | some ctid =>
      rw [hnone, Option.getD_some] at hctid
      rw [← hcanonical, hctid]
      rfl

/-- **The entry that is found accepts** what an entry with the values accepts, up to its own upper border. -/
theorem FilterEntry.found_accepts (h : e.found v = true) (hsize : 0 ≤ datasize)
    (haccepts : v.entry.accepts ext datasize = true)
    (hborder : v.payloadMax = 0 → 0 < e.payloadMax → datasize ≤ e.payloadMax) : e.accepts ext datasize = true := by
  obtain ⟨hapid, hctid⟩ := found_ids h
  obtain ⟨-, -, hlevel, hmin, hmax⟩ := found_iff.mp h
  obtain ⟨hvapid, hvctid, hvlevel, hvmin, hvmax⟩ := accepts_iff.mp haccepts
  have hlevelv : v.entry.logLevel = v.logLevel := rfl
  have hminv : v.entry.payloadMin = v.payloadMin := rfl
  have hmaxv : v.entry.payloadMax = v.payloadMax := rfl
  rw [hlevelv] at hvlevel
  rw [hminv] at hvmin
  rw [hmaxv] at hvmax
  refine accepts_iff.mpr ⟨?_, ?_, ?_, ?_, ?_⟩
  · rw [hapid]
    exact hvapid
  · rw [hctid]
    exact hvctid
  · rcases hlevel with heq | hzero
    · rw [heq]
      exact hvlevel
    · exact .inl hzero
  · right
    rcases hvmin with hzero | hle
    · exact (hmin.trans_eq hzero).trans hsize
    · exact hmin.trans hle
  · rcases hvmax with hzero | hle
    · by_cases hpos : 0 < e.payloadMax
      · exact .inr (hborder hzero hpos)
      · left
        apply le_antisymm (not_lt.mp hpos)
        rw [← hzero]
        exact hmax
    · exact .inr (hle.trans hmax)

end accepts

/-! ## Adding -/

variable {v : FilterValues}

theorem dltFilterFind_some {j : ℕ} (h : dltFilterFind filter v = some j) :
    ∃ e, filter.entries[j]? = some e ∧ e.found v = true := by
  obtain ⟨hj, hfound, -⟩ := findIdx?_eq_some_iff_getElem.mp h
  exact ⟨filter.entries[j], getElem?_eq_getElem hj, hfound⟩

theorem dltFilterAdd_none (hroom : filter.entries.length < dltFilterMax) (hfind : dltFilterFind filter v = none) :
    (dltFilterAdd filter v).1.entries = filter.entries ++ [v.entry] ∧ (dltFilterAdd filter v).2 = dltReturnOk := by
  unfold dltFilterAdd
  rw [dif_neg (not_le.mpr hroom), hfind]
  exact ⟨rfl, rfl⟩

theorem dltFilterAdd_some (hroom : filter.entries.length < dltFilterMax) {j : ℕ}
    (hfind : dltFilterFind filter v = some j) : dltFilterAdd filter v = (filter, dltReturnError) := by
  unfold dltFilterAdd
  rw [dif_neg (not_le.mpr hroom), hfind]

theorem dltFilterAdd_ok (h : (dltFilterAdd filter v).2 = dltReturnOk) :
    filter.entries.length < dltFilterMax ∧ dltFilterFind filter v = none := by
  by_cases hroom : filter.entries.length < dltFilterMax
  · refine ⟨hroom, ?_⟩
    cases hfind : dltFilterFind filter v with
    | none => rfl
    | some j =>
      rw [dltFilterAdd_some hroom hfind] at h
      cases h
  · unfold dltFilterAdd at h
    rw [dif_pos (not_lt.mp hroom)] at h
    cases h

/-- The border of the entry that is found is not in the way: the values have an upper border, or the entry has none,
or other entries accept the larger messages. -/
def BorderNotInTheWay (filter : DltFilter) (v : FilterValues) : Prop :=
  ∀ j e, dltFilterFind filter v = some j → filter.entries[j]? = some e → v.payloadMax = 0 → 0 < e.payloadMax →
    ∀ ext, ∀ datasize : ℕ, e.payloadMax < datasize → datasize ≤ 2147483647 →
      v.entry.accepts ext datasize = true → ∃ e' ∈ filter.entries, e'.accepts ext datasize = true

/-- After the call, the messages with an extended header that are selected are those that a previous entry accepts,
and those that an entry with the values accepts. -/
def WidenedBy (filter filter' : DltFilter) (v : FilterValues) : Prop :=
  ∀ msg ext, msg.extended = some ext → (dltMessageFilterCheck msg filter' = dltReturnTrue ↔
    (∃ e ∈ filter.entries, e.accepts ext msg.datasize = true) ∨ v.entry.accepts ext msg.datasize = true)

/-- An entry that is added widens the selection by what it accepts. -/
theorem widenedBy_add (hroom : filter.entries.length < dltFilterMax) (hfind : dltFilterFind filter v = none) :
    WidenedBy filter (dltFilterAdd filter v).1 v := by
  intro msg ext hext
  obtain ⟨hentries, -⟩ := dltFilterAdd_none hroom hfind
  rw [messageFilterCheck_iff hext (by rw [hentries]; simp), hentries]
  simp [or_and_right, exists_or]

/-- **Adding a filter** widens the selection by exactly that filter, when no border is in the way. -/
theorem add_widens_iff (filter : DltFilter) (v : FilterValues) (hroom : filter.entries.length < dltFilterMax) :
    WidenedBy filter (dltFilterAdd filter v).1 v ↔ BorderNotInTheWay filter v := by
  cases hfind : dltFilterFind filter v with
  | none =>
    constructor
    · intro _ j e hj
      rw [hfind] at hj
      cases hj
    · intro _
      exact widenedBy_add hroom hfind
  | some j =>
    obtain ⟨e, hget, hfound⟩ := dltFilterFind_some hfind
    have hmem : e ∈ filter.entries := mem_of_getElem? hget
    have hne : filter.entries ≠ [] := ne_nil_of_mem hmem
    rw [dltFilterAdd_some hroom hfind]
    constructor
    · intro hwidened j' e' hj' hget' hany hpos ext datasize hlt hle haccepts
      have hmsg := hwidened ⟨some ext, datasize, hle⟩ ext rfl
      rw [messageFilterCheck_iff rfl hne] at hmsg
      exact hmsg.mpr (.inr haccepts)
    · intro hborder msg ext hext
      rw [messageFilterCheck_iff hext hne]
      constructor
      · exact .inl
      · rintro (hprevious | haccepts)
        · exact hprevious
        · by_cases hway : v.payloadMax = 0 ∧ 0 < e.payloadMax ∧ e.payloadMax < msg.datasize
          · obtain ⟨hany, hpos, hlt⟩ := hway
            exact hborder j e hfind hget hany hpos ext msg.datasize hlt msg.datasize_le haccepts
          · refine ⟨e, hmem, ?_⟩
            apply found_accepts hfound (Int.natCast_nonneg _) haccepts
            intro hany hpos
            by_contra hlt
            exact hway ⟨hany, hpos, not_le.mp hlt⟩

/-- The values of a filter for every message of application `A` with at most 100 bytes. -/
def smallValues : FilterValues := ⟨dltSetId [65], some (dltSetId []), 0, 0, 100⟩

/-- The values of a filter for every message of application `A`. -/
def anyValues : FilterValues := ⟨dltSetId [65], some (dltSetId []), 0, 0, 0⟩

def smallFilter : DltFilter := (dltFilterAdd ⟨[], by decide⟩ smallValues).1

/-- The filter for every message is refused as already present, and messages of 200 bytes stay hidden. -/
theorem add_any_refused : (dltFilterAdd smallFilter anyValues).2 = dltReturnError ∧
    ¬ WidenedBy smallFilter (dltFilterAdd smallFilter anyValues).1 anyValues := by
  refine ⟨by decide, ?_⟩
  intro hwidened
  have hmsg := hwidened ⟨some ⟨0x41, dltSetId [65], dltSetId [66]⟩, 200, by decide⟩ _ rfl
  have haccepts : anyValues.entry.accepts ⟨0x41, dltSetId [65], dltSetId [66]⟩ (200 : ℕ) = true := by decide
  have hhidden : dltMessageFilterCheck ⟨some ⟨0x41, dltSetId [65], dltSetId [66]⟩, 200, by decide⟩
      (dltFilterAdd smallFilter anyValues).1 ≠ dltReturnTrue := by decide
  exact hhidden (hmsg.mpr (.inr haccepts))

theorem add_widens_small : WidenedBy smallFilter
    (dltFilterAdd smallFilter { anyValues with ctid := some (dltSetId [67]) }).1
    { anyValues with ctid := some (dltSetId [67]) } := by
  apply (add_widens_iff smallFilter _ (by decide)).mpr
  intro j e hfind
  have hnone : dltFilterFind smallFilter { anyValues with ctid := some (dltSetId [67]) } = none := by decide
  rw [hnone] at hfind
  cases hfind

/-! ## Deleting -/

theorem copyDown_of_some {entries : List FilterEntry} {k : ℕ} {e : FilterEntry} (h : entries[k + 1]? = some e) :
    copyDown entries k = entries.set k e := by
  have hapid : dltSetId e.apid.bytes = e.apid := e.canonical_apid
  have hctid : dltSetId e.ctid.bytes = e.ctid := e.canonical_ctid
  unfold copyDown
  rw [h]
  cases e
  simp only at hapid hctid
  simp only [hapid, hctid]

theorem getElem?_copyDown {entries : List FilterEntry} {k : ℕ} (hk : k + 1 < entries.length) (i : ℕ) :
    (copyDown entries k)[i]? = if i = k then entries[i + 1]? else entries[i]? := by
  rw [copyDown_of_some (getElem?_eq_getElem hk)]
  by_cases hi : i = k
  · subst hi
    rw [getElem?_set_self (by omega), if_pos rfl, getElem?_eq_getElem hk]
  · rw [getElem?_set_ne (Ne.symm hi), if_neg hi]

theorem length_copyDown (entries : List FilterEntry) (k : ℕ) : (copyDown entries k).length = entries.length := by
  unfold copyDown
  cases entries[k + 1]? with
  | none => rfl
  | some e => exact length_set

theorem length_foldl_copyDown (ks : List ℕ) (entries : List FilterEntry) :
    (ks.foldl copyDown entries).length = entries.length := by
  induction ks generalizing entries with
  | nil => rfl
  | cons k ks ih => rw [foldl_cons, ih, length_copyDown]

/-- **The loop**: after `n` steps from `j`, the entries from `j` on are those behind them. -/
theorem getElem?_foldl_copyDown (entries : List FilterEntry) (j n : ℕ) (hn : j + n < entries.length) (i : ℕ) :
    ((List.range' j n).foldl copyDown entries)[i]? =
      if j ≤ i ∧ i < j + n then entries[i + 1]? else entries[i]? := by
  induction n generalizing i with
  | zero => simp
  | succ n ih =>
    have hprevious := ih (by omega)
    rw [range'_1_concat, foldl_append, foldl_cons, foldl_nil,
      getElem?_copyDown (by rw [length_foldl_copyDown]; omega), hprevious, hprevious]
    by_cases hi : i = j + n
    · rw [if_pos hi, if_neg (by omega), if_pos (by omega)]
    · rw [if_neg hi]
      by_cases hin : j ≤ i ∧ i < j + n
      · rw [if_pos hin, if_pos (by omega)]
      · rw [if_neg hin, if_neg (by omega)]

/-- **Deleting takes one entry away.** -/
theorem deleteAt_eq (entries : List FilterEntry) (j : ℕ) (hj : j < entries.length) :
    deleteAt entries j = entries.eraseIdx j := by
  apply ext_getElem?
  intro i
  unfold deleteAt
  rw [getElem?_eraseIdx, getElem?_take,
    getElem?_foldl_copyDown _ _ _ (by rw [length_set]; omega)]
  by_cases hend : i < entries.length - 1
  · rw [if_pos hend]
    by_cases hi : i < j
    · rw [if_pos hi, if_neg (by omega), getElem?_set_ne (by omega)]
    · rw [if_neg hi, if_pos (by omega), getElem?_set_ne (by omega)]
  · rw [if_neg hend, if_neg (by omega), getElem?_eq_none (by omega)]

/-- Deleting takes the entry away that is found, or changes nothing. -/
theorem dltFilterDelete_cases (filter : DltFilter) (v : FilterValues) :
    (∃ j < filter.entries.length, (dltFilterDelete filter v).1.entries = filter.entries.eraseIdx j ∧
        (dltFilterDelete filter v).2 = dltReturnOk) ∨
      ((dltFilterDelete filter v).1 = filter ∧ (dltFilterDelete filter v).2 < dltReturnOk) := by
  unfold dltFilterDelete
  cases hctid : v.ctid with
  | none =>
    have hret : dltReturnWrongParameter < dltReturnOk := by decide
    exact .inr ⟨rfl, hret⟩
  | some ctid =>
    dsimp only
    cases hfind : filter.entries.findIdx? (·.deleted v ctid) with
    | none =>
      have hret : dltReturnError < dltReturnOk := by decide
      exact .inr ⟨rfl, hret⟩
    | some j =>
      obtain ⟨hj, -⟩ := findIdx?_eq_some_iff_getElem.mp hfind
      exact .inl ⟨j, hj, deleteAt_eq _ _ hj, rfl⟩

theorem FilterEntry.found_of_deleted (hctid : v.ctid = some ctid) {e : FilterEntry} (h : e.deleted v ctid = true) :
    e.found v = true := by
  obtain ⟨hapid, hid, hlevel, hmin, hmax⟩ := deleted_iff.mp h
  refine found_iff.mpr ⟨hapid, ?_, hlevel, hmin.le, hmax.ge⟩
  rw [hid, hctid, Option.getD_some]

theorem entry_deleted (hctid : v.ctid = some ctid) (hcanonical : v.apid.Canonical) (hcanonical' : ctid.Canonical) :
    v.entry.deleted v ctid = true := by
  refine deleted_iff.mpr ⟨hcanonical, ?_, .inl rfl, rfl, rfl⟩
  rw [entry_ctid, hctid]
  exact hcanonical'

/-- No entry was found: the first one that can be deleted is the one that was added. -/
theorem dltFilterDelete_added (hctid : v.ctid = some ctid) (hcanonical : v.apid.Canonical)
    (hcanonical' : ctid.Canonical) (hadd : (dltFilterAdd filter v).2 = dltReturnOk) :
    dltFilterDelete (dltFilterAdd filter v).1 v = (filter, dltReturnOk) := by
  obtain ⟨hroom, hfind⟩ := dltFilterAdd_ok hadd
  obtain ⟨hentries, -⟩ := dltFilterAdd_none hroom hfind
  have hold : filter.entries.findIdx? (·.deleted v ctid) = none := by
    rw [findIdx?_eq_none_iff]
    intro e he
    have hnot := findIdx?_eq_none_iff.mp hfind e he
    rw [Bool.eq_false_iff] at hnot ⊢
    intro hdeleted
    exact hnot (found_of_deleted hctid hdeleted)
  have hidx : (filter.entries ++ [v.entry]).findIdx? (·.deleted v ctid) = some filter.entries.length := by
    rw [findIdx?_append, hold]
    simp [entry_deleted hctid hcanonical hcanonical']
  have herase : deleteAt (filter.entries ++ [v.entry]) filter.entries.length = filter.entries := by
    rw [deleteAt_eq _ _ (by simp), eraseIdx_append_of_length_le (le_refl _)]
    simp
  unfold dltFilterDelete
  rw [hctid]
  dsimp only
  simp only [hentries, hidx, herase]

/-- **Deleting undoes adding**: with ids that are filled with zeros, an entry that was just stored is deleted again,
and deleting takes one entry away or changes nothing. -/
theorem delete_undoes_add (filter : DltFilter) (v : FilterValues) :
    (∀ ctid, v.ctid = some ctid → v.apid.Canonical → ctid.Canonical →
        (dltFilterAdd filter v).2 = dltReturnOk →
        dltFilterDelete (dltFilterAdd filter v).1 v = (filter, dltReturnOk)) ∧
      ((∃ j < filter.entries.length, (dltFilterDelete filter v).1.entries = filter.entries.eraseIdx j ∧
          (dltFilterDelete filter v).2 = dltReturnOk) ∨
        ((dltFilterDelete filter v).1 = filter ∧ (dltFilterDelete filter v).2 < dltReturnOk)) := by
  refine ⟨?_, dltFilterDelete_cases filter v⟩
  intro ctid hctid hcanonical hcanonical' hadd
  exact dltFilterDelete_added hctid hcanonical hcanonical' hadd

/-- A second entry is added and deleted. -/
theorem delete_undoes_add_small :
    dltFilterDelete (dltFilterAdd smallFilter { smallValues with ctid := some (dltSetId [66]) }).1
      { smallValues with ctid := some (dltSetId [66]) } = (smallFilter, dltReturnOk) :=
  (delete_undoes_add smallFilter { smallValues with ctid := some (dltSetId [66]) }).1 (dltSetId [66]) rfl
    (canonical_dltSetId _) (canonical_dltSetId _) (by decide)

end Dlt.MsgFilter
