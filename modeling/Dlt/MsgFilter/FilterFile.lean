import Dlt.Daemon.RuntimeCfgLoad
import Dlt.MsgFilter.AddDelete

/-!
# Saving filters to a file and loading them

* `loadedEntry` — the entry that an entry becomes. `mem_load_save` — the loaded filter has these entries.
* `load_save_iff` — **the loaded filter selects the same messages** exactly when every entry is covered by an entry
  with such ids.
-/

namespace Dlt.MsgFilter

open Dlt.Lib Dlt.Shared Dlt.Daemon List

variable {e : FilterEntry} {entries : List FilterEntry}

/-! ## The file -/

/-- The word for no id. -/
def dashes : List UInt8 := [45, 45, 45, 45]

/-- Source: `dlt_common.c`, `dlt_print_id` -/
def dltPrintId (id : Id4) : List UInt8 := idText id.bytes ++ List.replicate (4 - (idText id.bytes).length) 45

/-- The word for an id. Source: `dlt_filter_save` -/
def savedId (id : Id4) : List UInt8 := if id.isEmpty then dashes else dltPrintId id

/-- What is written to the file, if it can be opened. Source: `dlt_filter_save` -/
def dltFilterSave (filter : DltFilter) (opened : Bool) : Option (List UInt8) × ℤ :=
  if opened then
    (some (filter.entries.flatMap fun e => savedId e.apid ++ 32 :: (savedId e.ctid ++ [32])), dltReturnOk)
  else (none, dltReturnError)

/-- The id for a word. Source: `dlt_filter_load` -/
def loadedId (word : List UInt8) : Id4 := if cText word = dashes then dltSetId [] else dltSetId word

/-- The values of an entry of the file. Source: `dlt_filter_load` -/
def loadedValues (apid ctid : List UInt8) : FilterValues := ⟨loadedId apid, some (loadedId ctid), 0, 0, int32Max⟩

/-- The loop over the words. Source: `dlt_filter_load` -/
def loadWords (filter : DltFilter) : List (List UInt8) → DltFilter
  | apid :: ctid :: words =>
      if apid.headD 0 = 0 ∨ ctid.headD 0 = 0 then filter
      else if filter.entries.length < dltFilterMax then
        loadWords (dltFilterAdd filter (loadedValues apid ctid)).1 words
      else loadWords filter words
  | _ => filter

/-- The filter after loading the file, `none` where it cannot be opened. Source: `dlt_filter_load` -/
def dltFilterLoad (filter : DltFilter) (file : Option (List UInt8)) : DltFilter × ℤ :=
  match file with
  | none => (filter, dltReturnError)
  | some file => (loadWords ⟨[], Nat.zero_le _⟩ (scanWords 255 file), dltReturnOk)

/-! ## Words and ids -/

/-- The characters of an id are printable, and none is white space. -/
def PrintableId (id : Id4) : Prop := ∀ b ∈ idText id.bytes, 0x21 ≤ b ∧ b ≤ 0x7e

instance (id : Id4) : Decidable (PrintableId id) := decidableBAll _ _

/-- An id that is loaded as it was saved: it is empty, or it has four characters and is not `----`. -/
def PlainId (id : Id4) : Prop := id.isEmpty = true ∨ ((idText id.bytes).length = 4 ∧ id.bytes ≠ dashes)

instance (id : Id4) : Decidable (PlainId id) := inferInstanceAs (Decidable (_ ∨ _))

section ids

variable {id : Id4}

/-- A printable character is not white space, and not the end of a string. -/
theorem printable_char {b : UInt8} (h : 0x21 ≤ b ∧ b ≤ 0x7e) : isspace b = false ∧ b ≠ 0 := by
  obtain ⟨hlo, hhi⟩ := h
  rw [UInt8.le_iff_toNat_le] at hlo hhi
  have hlo' : 33 ≤ b.toNat := hlo
  refine ⟨?_, ?_⟩
  · unfold isspace
    rw [decide_eq_false_iff_not]
    rintro (rfl | ⟨-, hle⟩)
    · exact absurd hlo' (by decide)
    · omega
  · rintro rfl
    exact absurd hlo' (by decide)

theorem length_savedId (id : Id4) : (savedId id).length = 4 := by
  have hle := length_idText_le id.bytes
  unfold savedId dltPrintId
  split_ifs
  · rfl
  · rw [length_append, length_replicate]
    omega

theorem savedId_char (h : PrintableId id) {b : UInt8} (hb : b ∈ savedId id) : 0x21 ≤ b ∧ b ≤ 0x7e := by
  have hdash : (0x21 : UInt8) ≤ 45 ∧ (45 : UInt8) ≤ 0x7e := by decide
  unfold savedId dltPrintId at hb
  split_ifs at hb
  · simp only [dashes, mem_cons, not_mem_nil, or_false, or_self] at hb
    rw [hb]
    exact hdash
  · rcases mem_append.mp hb with hb | hb
    · exact h b hb
    · rw [eq_of_mem_replicate hb]
      exact hdash

theorem savedId_ne_nil (id : Id4) : savedId id ≠ [] := by
  apply ne_nil_of_length_pos
  rw [length_savedId]
  decide

theorem cText_savedId (h : PrintableId id) : cText (savedId id) = savedId id := by
  apply cText_of_not_mem
  intro hzero
  exact (printable_char (savedId_char h hzero)).2 rfl

theorem headD_savedId (h : PrintableId id) : (savedId id).headD 0 ≠ 0 := by
  obtain ⟨b, bs, hcons⟩ := exists_cons_of_ne_nil (savedId_ne_nil id)
  rw [hcons]
  exact (printable_char (savedId_char h (by rw [hcons]; exact mem_cons_self))).2

theorem eq_of_isEmpty (hcanonical : id.Canonical) (h : id.isEmpty = true) : id = dltSetId [] := by
  rw [← hcanonical]
  obtain ⟨bytes, hlen⟩ := id
  cases bytes with
  | nil => cases hlen
  | cons b bs =>
    have hb : b = 0 := by simpa [Id4.isEmpty] using h
    simp [dltSetId, idText, hb]

theorem idText_of_length (h : (idText id.bytes).length = 4) : idText id.bytes = id.bytes := by
  have hbegins : idText id.bytes <+: id.bytes := (List.takeWhile_prefix _).trans (List.take_prefix _ _)
  exact hbegins.eq_of_length (h.trans id.length_eq.symm)

/-- **A plain id is loaded as it was.** -/
theorem loadedId_plain (hcanonical : id.Canonical) (hprint : PrintableId id) (h : PlainId id) :
    loadedId (savedId id) = id := by
  unfold loadedId
  rw [cText_savedId hprint]
  rcases h with hempty | ⟨hfour, hdash⟩
  · have hsaved : savedId id = dashes := if_pos hempty
    rw [if_pos hsaved]
    exact (eq_of_isEmpty hcanonical hempty).symm
  · have hfilled : (idText id.bytes).isEmpty = false := by
      cases htext : idText id.bytes with
      | nil =>
        rw [htext] at hfour
        cases hfour
      | cons b bs => rfl
    have hsaved : savedId id = id.bytes := by
      unfold savedId dltPrintId
      rw [hfour, idText_of_length hfour]
      split_ifs with hempty
      · rw [eq_of_isEmpty hcanonical hempty] at hfour
        cases hfour
      · exact append_nil _
    rw [hsaved, if_neg hdash]
    exact hcanonical

theorem plain_loadedId (hprint : PrintableId id) : PlainId (loadedId (savedId id)) := by
  unfold loadedId
  rw [cText_savedId hprint]
  split_ifs with hdash
  · exact .inl rfl
  · have htext : idText (savedId id) = savedId id := by
      have htake : (savedId id).take 4 = savedId id := take_of_length_le (length_savedId id).le
      unfold idText
      rw [htake]
      exact cText_savedId hprint
    have hbytes : (dltSetId (savedId id)).bytes = savedId id := by
      have hset : (dltSetId (savedId id)).bytes =
          idText (savedId id) ++ replicate (4 - (idText (savedId id)).length) 0 := rfl
      rw [hset, htext, length_savedId]
      exact append_nil _
    right
    rw [hbytes, htext]
    exact ⟨length_savedId id, hdash⟩

end ids

/-! ## The loaded filter -/

/-- An entry of a filter file: it has level 0 and the default range of the payload, and printable ids. -/
structure FileEntry (e : FilterEntry) : Prop where
  level : e.logLevel = 0
  payloadMin : e.payloadMin = 0
  payloadMax : e.payloadMax = int32Max
  apid : PrintableId e.apid
  ctid : PrintableId e.ctid

def loadedEntry (e : FilterEntry) : FilterEntry := (loadedValues (savedId e.apid) (savedId e.ctid)).entry

theorem canonical_loadedId (word : List UInt8) : (loadedId word).Canonical := by
  unfold loadedId
  split_ifs <;> exact canonical_dltSetId _

theorem loadedEntry_ids (e : FilterEntry) : (loadedEntry e).apid = loadedId (savedId e.apid) ∧
    (loadedEntry e).ctid = loadedId (savedId e.ctid) := ⟨canonical_loadedId _, canonical_loadedId _⟩

theorem fileEntry_ext {e' : FilterEntry} (he : e.logLevel = 0 ∧ e.payloadMin = 0 ∧ e.payloadMax = int32Max)
    (he' : e'.logLevel = 0 ∧ e'.payloadMin = 0 ∧ e'.payloadMax = int32Max) (hapid : e.apid = e'.apid)
    (hctid : e.ctid = e'.ctid) : e = e' := by
  obtain ⟨hlevel, hmin, hmax⟩ := he
  obtain ⟨hlevel', hmin', hmax'⟩ := he'
  cases e
  cases e'
  simp only at hlevel hmin hmax hlevel' hmin' hmax' hapid hctid
  simp only [hlevel, hmin, hmax, hlevel', hmin', hmax', hapid, hctid]

theorem scanWords_save (h : ∀ e ∈ entries, FileEntry e) :
    scanWords 255 (entries.flatMap fun e => savedId e.apid ++ 32 :: (savedId e.ctid ++ [32])) =
      entries.flatMap fun e => [savedId e.apid, savedId e.ctid] := by
  have hspace : isspace 32 = true := rfl
  have hword : ∀ id, PrintableId id → ∀ rest : List UInt8,
      scanWords 255 (savedId id ++ 32 :: rest) = savedId id :: scanWords 255 rest := by
    intro id hprint rest
    apply scanWords_word (by decide) (savedId_ne_nil id)
    · intro b hb
      exact (printable_char (savedId_char hprint hb)).1
    · rw [length_savedId]
      decide
    · exact hspace
  induction entries with
  | nil => rfl
  | cons e entries ih =>
    obtain ⟨he, hentries⟩ := forall_mem_cons.mp h
    rw [flatMap_cons, append_assoc, cons_append, append_assoc, hword _ he.apid,
      singleton_append, hword _ he.ctid, ih hentries, flatMap_cons]
    rfl

/-- The entries after adding one of a file: it is added, or it was there. -/
theorem mem_add_loaded {filter : DltFilter} (hroom : filter.entries.length < dltFilterMax)
    (h : ∀ e ∈ filter.entries, e.logLevel = 0 ∧ e.payloadMin = 0 ∧ e.payloadMax = int32Max) (e x : FilterEntry) :
    x ∈ (dltFilterAdd filter (loadedValues (savedId e.apid) (savedId e.ctid))).1.entries ↔
      x ∈ filter.entries ∨ x = loadedEntry e := by
  cases hfind : dltFilterFind filter (loadedValues (savedId e.apid) (savedId e.ctid)) with
  | none =>
    rw [(dltFilterAdd_none hroom hfind).1, mem_append, mem_singleton]
    exact Iff.rfl
  | some j =>
    obtain ⟨y, hget, hfound⟩ := dltFilterFind_some hfind
    have hmem : y ∈ filter.entries := mem_of_getElem? hget
    obtain ⟨hapid, hctid⟩ := FilterEntry.found_ids hfound
    have hy : y = loadedEntry e := fileEntry_ext (h y hmem) ⟨rfl, rfl, rfl⟩ hapid hctid
    rw [dltFilterAdd_some hroom hfind]
    constructor
    · exact .inl
    · rintro (hx | hx)
      · exact hx
      · rw [hx, ← hy]
        exact hmem

theorem length_add_le (filter : DltFilter) (v : FilterValues) :
    (dltFilterAdd filter v).1.entries.length ≤ filter.entries.length + 1 := by
  by_cases hroom : filter.entries.length < dltFilterMax
  · cases hfind : dltFilterFind filter v with
    | none => rw [(dltFilterAdd_none hroom hfind).1, length_append, length_singleton]
    | some j =>
      rw [dltFilterAdd_some hroom hfind]
      exact Nat.le_succ _
  · unfold dltFilterAdd
    rw [dif_pos (not_lt.mp hroom)]
    exact Nat.le_succ _

/-- The loop over the words of a saved filter: what one entry does, and from it what all do. -/
theorem mem_loadWords (h : ∀ e ∈ entries, FileEntry e) {filter : DltFilter}
    (hroom : filter.entries.length + entries.length ≤ dltFilterMax)
    (hdefault : ∀ e ∈ filter.entries, e.logLevel = 0 ∧ e.payloadMin = 0 ∧ e.payloadMax = int32Max)
    (x : FilterEntry) :
    x ∈ (loadWords filter (entries.flatMap fun e => [savedId e.apid, savedId e.ctid])).entries ↔
      x ∈ filter.entries ∨ ∃ e ∈ entries, x = loadedEntry e := by
  induction entries generalizing filter with
  | nil => simp [loadWords]
  | cons e entries ih =>
    obtain ⟨he, hentries⟩ := forall_mem_cons.mp h
    rw [length_cons] at hroom
    have hlt : filter.entries.length < dltFilterMax := by omega
    have hadded := mem_add_loaded hlt hdefault e
    have hword : ¬ ((savedId e.apid).headD 0 = 0 ∨ (savedId e.ctid).headD 0 = 0) := by
      rintro (hzero | hzero)
      · exact headD_savedId he.apid hzero
      · exact headD_savedId he.ctid hzero
    rw [flatMap_cons, cons_append, singleton_append, loadWords, if_neg hword, if_pos hlt,
      ih hentries, hadded]
    · simp only [mem_cons, exists_eq_or_imp, or_assoc]
    · have hle := length_add_le filter (loadedValues (savedId e.apid) (savedId e.ctid))
      omega
    · intro y hy
      rcases (hadded y).mp hy with hy | rfl
      · exact hdefault y hy
      · exact ⟨rfl, rfl, rfl⟩

/-- **The entries of the loaded filter.** -/
theorem mem_load_save {filter filter' : DltFilter} (h : ∀ e ∈ filter.entries, FileEntry e) (x : FilterEntry) :
    x ∈ (dltFilterLoad filter' (dltFilterSave filter true).1).1.entries ↔
      ∃ e ∈ filter.entries, x = loadedEntry e := by
  unfold dltFilterSave dltFilterLoad
  rw [if_pos rfl]
  dsimp only
  rw [scanWords_save h, mem_loadWords h]
  · simp
  · rw [length_nil, Nat.zero_add]
    exact filter.length_le
  · intro e he
    cases he

/-! ## Covering -/

/-- An id of a filter stands for an id: it is empty, which means any, or it is the same. -/
def StandsFor (a b : Id4) : Prop := a.isEmpty = true ∨ a = b

/-- An entry of a file accepts all that another one accepts. -/
structure Covers (g e : FilterEntry) : Prop where
  apid : StandsFor g.apid e.apid
  ctid : StandsFor g.ctid e.ctid

section covers

variable {a b c : Id4}

theorem StandsFor.refl (a : Id4) : StandsFor a a := .inr rfl

theorem StandsFor.trans (hab : StandsFor a b) (hbc : StandsFor b c) : StandsFor a c := by
  rcases hab with hempty | rfl
  · exact .inl hempty
  · exact hbc

theorem Covers.trans {f g : FilterEntry} (hfg : Covers g f) (hef : Covers f e) : Covers g e :=
  ⟨hfg.apid.trans hef.apid, hfg.ctid.trans hef.ctid⟩

theorem accepts_default (he : e.logLevel = 0 ∧ e.payloadMin = 0 ∧ e.payloadMax = int32Max)
    {ext : DltExtendedHeader} {datasize : ℕ} (hsize : datasize ≤ 2147483647) :
    e.accepts ext datasize = true ↔ StandsFor e.apid ext.apid ∧ StandsFor e.ctid ext.ctid := by
  obtain ⟨hlevel, hmin, hmax⟩ := he
  have hle : (datasize : ℤ) ≤ e.payloadMax := by
    rw [hmax]
    exact Int.ofNat_le.mpr hsize
  rw [FilterEntry.accepts_iff]
  constructor
  · rintro ⟨hapid, hctid, -⟩
    exact ⟨hapid, hctid⟩
  · rintro ⟨hapid, hctid⟩
    exact ⟨hapid, hctid, .inl hlevel, .inl hmin, .inr hle⟩

theorem messageFilterCheck_cases (msg : CheckedMessage) (filter : DltFilter) :
    dltMessageFilterCheck msg filter = dltReturnTrue ∨ dltMessageFilterCheck msg filter = dltReturnOk := by
  unfold dltMessageFilterCheck
  split
  · exact .inl rfl
  · split_ifs
    · exact .inl rfl
    · exact .inl rfl
    · exact .inr rfl

theorem messageFilterCheck_nil (msg : CheckedMessage) {filter : DltFilter} (h : filter.entries = []) :
    dltMessageFilterCheck msg filter = dltReturnTrue := by
  unfold dltMessageFilterCheck
  rw [h]
  split <;> rfl

/-- Filters of files that are empty together select the same messages when they accept the same ids. -/
theorem sameSelection_iff {f f' : DltFilter}
    (hf : ∀ e ∈ f.entries, e.logLevel = 0 ∧ e.payloadMin = 0 ∧ e.payloadMax = int32Max)
    (hf' : ∀ e ∈ f'.entries, e.logLevel = 0 ∧ e.payloadMin = 0 ∧ e.payloadMax = int32Max)
    (hnil : f.entries = [] ↔ f'.entries = []) :
    (∀ msg, dltMessageFilterCheck msg f = dltMessageFilterCheck msg f') ↔
      ∀ x y, (∃ e ∈ f.entries, StandsFor e.apid x ∧ StandsFor e.ctid y) ↔
        ∃ e ∈ f'.entries, StandsFor e.apid x ∧ StandsFor e.ctid y := by
  by_cases hempty : f.entries = []
  · have hempty' := hnil.mp hempty
    constructor
    · intro _ x y
      rw [hempty, hempty']
    · intro _ msg
      rw [messageFilterCheck_nil msg hempty, messageFilterCheck_nil msg hempty']
  · have hempty' : f'.entries ≠ [] := fun hnil' => hempty (hnil.mpr hnil')
    have hids : ∀ {g : DltFilter}, (∀ e ∈ g.entries, e.logLevel = 0 ∧ e.payloadMin = 0 ∧ e.payloadMax = int32Max) →
        g.entries ≠ [] → ∀ msg ext, msg.extended = some ext → (dltMessageFilterCheck msg g = dltReturnTrue ↔
          ∃ e ∈ g.entries, StandsFor e.apid ext.apid ∧ StandsFor e.ctid ext.ctid) := by
      intro g hg hne msg ext hext
      rw [messageFilterCheck_iff hext hne]
      constructor
      · rintro ⟨e, he, haccepts⟩
        exact ⟨e, he, (accepts_default (hg e he) msg.datasize_le).mp haccepts⟩
      · rintro ⟨e, he, hstands⟩
        exact ⟨e, he, (accepts_default (hg e he) msg.datasize_le).mpr hstands⟩
    constructor
    · intro hsame x y
      have hmsg := hsame ⟨some ⟨0, x, y⟩, 0, Nat.zero_le _⟩
      rw [← hids hf hempty ⟨some ⟨0, x, y⟩, 0, Nat.zero_le _⟩ ⟨0, x, y⟩ rfl, hmsg]
      exact hids hf' hempty' ⟨some ⟨0, x, y⟩, 0, Nat.zero_le _⟩ ⟨0, x, y⟩ rfl
    · intro hsame msg
      cases hext : msg.extended with
      | none =>
        unfold dltMessageFilterCheck
        rw [hext]
      | some ext =>
        have hiff := hsame ext.apid ext.ctid
        rw [← hids hf hempty msg ext hext, ← hids hf' hempty' msg ext hext] at hiff
        rcases messageFilterCheck_cases msg f with htrue | hok
        · rw [htrue, hiff.mp htrue]
        · rcases messageFilterCheck_cases msg f' with htrue' | hok'
          · rw [htrue', hiff.mpr htrue']
          · rw [hok, hok']

theorem exists_fresh (ids : List Id4) (h : ids.length < 256) : ∃ id, id ∉ ids := by
  by_contra hall
  have hmem : ∀ id, id ∈ ids := by
    intro id
    by_contra hid
    exact hall ⟨id, hid⟩
  let firstByte : Fin 256 → Id4 := fun k => ⟨[UInt8.ofNat k, 0, 0, 0], rfl⟩
  have hinj : Function.Injective firstByte := by
    intro k k' heq
    have hbytes := congrArg Id4.bytes heq
    have hbyte : UInt8.ofNat k = UInt8.ofNat k' := (List.cons.inj hbytes).1
    have hnat := congrArg UInt8.toNat hbyte
    rw [UInt8.toNat_ofNat_of_lt' k.isLt, UInt8.toNat_ofNat_of_lt' k'.isLt] at hnat
    exact Fin.ext hnat
  have hnodup : ((finRange 256).map firstByte).Nodup := (nodup_finRange 256).map hinj
  have hle := (hnodup.subperm (fun id _ => hmem id)).length_le
  rw [length_map, length_finRange] at hle
  omega

/-- For every id there is one that it stands for, and that no other of a few ids stands for by chance. -/
theorem exists_standsFor (ids : List Id4) (h : ids.length < 256) (b : Id4) :
    ∃ x, StandsFor b x ∧ ∀ a ∈ ids, StandsFor a x → StandsFor a b := by
  by_cases hempty : b.isEmpty = true
  · obtain ⟨x, hx⟩ := exists_fresh ids h
    refine ⟨x, .inl hempty, ?_⟩
    rintro a ha (hany | rfl)
    · exact .inl hany
    · exact absurd ha hx
  · exact ⟨b, .refl b, fun a _ hstands => hstands⟩

/-- **A few entries accept all that an entry accepts** only when one of them covers it. -/
theorem exists_covers (hlen : entries.length ≤ dltFilterMax) (h : ∀ x y, StandsFor e.apid x → StandsFor e.ctid y →
      ∃ g ∈ entries, StandsFor g.apid x ∧ StandsFor g.ctid y) : ∃ g ∈ entries, Covers g e := by
  have hmax : dltFilterMax < 256 := by decide
  obtain ⟨x, hx, hapid⟩ := exists_standsFor (entries.map FilterEntry.apid)
    (by rw [length_map]; exact hlen.trans_lt hmax) e.apid
  obtain ⟨y, hy, hctid⟩ := exists_standsFor (entries.map FilterEntry.ctid)
    (by rw [length_map]; exact hlen.trans_lt hmax) e.ctid
  obtain ⟨g, hg, hgx, hgy⟩ := h x y hx hy
  exact ⟨g, hg, hapid _ (mem_map_of_mem hg) hgx, hctid _ (mem_map_of_mem hg) hgy⟩

/-- `1` for an id that means any. -/
def anyCount (id : Id4) : ℕ := if id.isEmpty then 1 else 0

/-- How many ids of the entry mean any. -/
def anyIds (e : FilterEntry) : ℕ := anyCount e.apid + anyCount e.ctid

theorem anyCount_le (id : Id4) : anyCount id ≤ 1 := by
  unfold anyCount
  split_ifs <;> decide

theorem StandsFor.anyCount_le (h : StandsFor a b) : anyCount b ≤ anyCount a := by
  rcases h with hempty | rfl
  · have ha : anyCount a = 1 := if_pos hempty
    rw [ha]
    exact MsgFilter.anyCount_le b
  · exact le_rfl

/-- What stands for another id and does not mean any more than it, is that id. -/
theorem StandsFor.eq_of_anyCount (h : StandsFor a b) (ha : a.Canonical) (hb : b.Canonical)
    (hle : anyCount a ≤ anyCount b) : a = b := by
  rcases h with hempty | heq
  · have hany : anyCount a = 1 := if_pos hempty
    have hempty' : b.isEmpty = true := by
      by_contra hfilled
      have hnone : anyCount b = 0 := if_neg hfilled
      omega
    rw [eq_of_isEmpty ha hempty, eq_of_isEmpty hb hempty']
  · exact heq

end covers

/-! ## The round trip -/

section roundTrip

variable {filter : DltFilter}

section

variable (h : ∀ e ∈ filter.entries, FileEntry e)
  (hloaded : ∀ e ∈ filter.entries, ∃ f ∈ filter.entries, Covers (loadedEntry f) e)
  (hsaved : ∀ f ∈ filter.entries, ∃ g ∈ filter.entries, Covers g (loadedEntry f))
include h hloaded hsaved

/-- When what a filter accepts is what its loaded entries accept, an entry is plain, or another one covers it that
has more ids that mean any: a loaded entry covers it, and an entry covers that one. -/
theorem plain_or_covered (he : e ∈ filter.entries) :
    (PlainId e.apid ∧ PlainId e.ctid) ∨ ∃ g ∈ filter.entries, Covers g e ∧ anyIds e < anyIds g := by
  obtain ⟨f, hf, hcovers⟩ := hloaded e he
  obtain ⟨g, hg, hcovers'⟩ := hsaved f hf
  have hcover := hcovers'.trans hcovers
  by_cases hany : anyIds e < anyIds g
  · exact .inr ⟨g, hg, hcover, hany⟩
  · left
    have hle := not_lt.mp hany
    unfold anyIds at hle
    have hapid := hcovers.apid.anyCount_le
    have hapid' := hcovers'.apid.anyCount_le
    have hctid := hcovers.ctid.anyCount_le
    have hctid' := hcovers'.ctid.anyCount_le
    have heq : (loadedEntry f).apid = e.apid :=
      hcovers.apid.eq_of_anyCount (loadedEntry f).canonical_apid e.canonical_apid (by omega)
    have heq' : (loadedEntry f).ctid = e.ctid :=
      hcovers.ctid.eq_of_anyCount (loadedEntry f).canonical_ctid e.canonical_ctid (by omega)
    rw [← heq, ← heq', (loadedEntry_ids f).1, (loadedEntry_ids f).2]
    exact ⟨plain_loadedId (h f hf).apid, plain_loadedId (h f hf).ctid⟩

/-- Then every entry is covered by a plain one: the step above can be taken twice at most. -/
theorem exists_plain_cover (n : ℕ) (he : e ∈ filter.entries) (hn : 2 < anyIds e + n) :
    ∃ g ∈ filter.entries, PlainId g.apid ∧ PlainId g.ctid ∧ Covers g e := by
  induction n generalizing e with
  | zero =>
    have hapid := anyCount_le e.apid
    have hctid := anyCount_le e.ctid
    unfold anyIds at hn
    omega
  | succ n ih =>
    rcases plain_or_covered h hloaded hsaved he with ⟨hapid, hctid⟩ | ⟨g, hg, hcovers, hlt⟩
    · exact ⟨e, he, hapid, hctid, .refl _, .refl _⟩
    · obtain ⟨k, hk, hapid, hctid, hcovers'⟩ := ih hg (by omega)
      exact ⟨k, hk, hapid, hctid, hcovers'.trans hcovers⟩

end

/-- A plain id that stands for an id stands for what that id becomes. -/
theorem standsFor_loadedId {a b : Id4} (ha : a.Canonical) (hprint : PrintableId a) (hplain : PlainId a)
    (h : StandsFor a b) : StandsFor a (loadedId (savedId b)) := by
  rcases h with hempty | rfl
  · exact .inl hempty
  · right
    exact (loadedId_plain ha hprint hplain).symm

/-- **The loaded filter selects the same messages** as the saved one exactly when each of its entries is covered by an
entry whose ids are empty, or have four characters and are not `----`. -/
theorem load_save_iff (filter filter' : DltFilter) (h : ∀ e ∈ filter.entries, FileEntry e) :
    (∀ msg, dltMessageFilterCheck msg (dltFilterLoad filter' (dltFilterSave filter true).1).1 =
        dltMessageFilterCheck msg filter) ↔
      ∀ e ∈ filter.entries, ∃ g ∈ filter.entries, PlainId g.apid ∧ PlainId g.ctid ∧ Covers g e := by
  have hmem := fun x => @mem_load_save filter filter' h x
  generalize (dltFilterLoad filter' (dltFilterSave filter true).1).1 = loaded at hmem ⊢
  have hdefault : ∀ e ∈ filter.entries, e.logLevel = 0 ∧ e.payloadMin = 0 ∧ e.payloadMax = int32Max :=
    fun e he => ⟨(h e he).level, (h e he).payloadMin, (h e he).payloadMax⟩
  have hdefault' : ∀ e ∈ loaded.entries, e.logLevel = 0 ∧ e.payloadMin = 0 ∧ e.payloadMax = int32Max := by
    intro x hx
    obtain ⟨e, -, rfl⟩ := (hmem x).mp hx
    exact ⟨rfl, rfl, rfl⟩
  have hnil : loaded.entries = [] ↔ filter.entries = [] := by
    rw [eq_nil_iff_forall_not_mem, eq_nil_iff_forall_not_mem]
    constructor
    · intro hnone e he
      exact hnone (loadedEntry e) ((hmem _).mpr ⟨e, he, rfl⟩)
    · intro hnone x hx
      obtain ⟨e, he, -⟩ := (hmem x).mp hx
      exact hnone e he
  rw [sameSelection_iff hdefault' hdefault hnil]
  constructor
  · intro hsame
    have hloaded : ∀ e ∈ filter.entries, ∃ f ∈ filter.entries, Covers (loadedEntry f) e := by
      intro e he
      obtain ⟨x, hx, hcovers⟩ := exists_covers loaded.length_le
        (fun x y hapid hctid => (hsame x y).mpr ⟨e, he, hapid, hctid⟩)
      obtain ⟨f, hf, rfl⟩ := (hmem x).mp hx
      exact ⟨f, hf, hcovers⟩
    have hsaved : ∀ f ∈ filter.entries, ∃ g ∈ filter.entries, Covers g (loadedEntry f) := by
      intro f hf
      apply exists_covers filter.length_le
      intro x y hapid hctid
      exact (hsame x y).mp ⟨_, (hmem _).mpr ⟨f, hf, rfl⟩, hapid, hctid⟩
    intro e he
    exact exists_plain_cover h hloaded hsaved 3 he (by omega)
  · intro hplain x y
    constructor
    · rintro ⟨l, hl, hapid, hctid⟩
      obtain ⟨e, he, rfl⟩ := (hmem l).mp hl
      obtain ⟨g, hg, hgapid, hgctid, hcovers⟩ := hplain e he
      rw [(loadedEntry_ids e).1] at hapid
      rw [(loadedEntry_ids e).2] at hctid
      exact ⟨g, hg, (standsFor_loadedId g.canonical_apid (h g hg).apid hgapid hcovers.apid).trans hapid,
        (standsFor_loadedId g.canonical_ctid (h g hg).ctid hgctid hcovers.ctid).trans hctid⟩
    · rintro ⟨e, he, hapid, hctid⟩
      obtain ⟨g, hg, hgapid, hgctid, hcovers⟩ := hplain e he
      refine ⟨loadedEntry g, (hmem _).mpr ⟨g, hg, rfl⟩, ?_, ?_⟩
      · rw [(loadedEntry_ids g).1, loadedId_plain g.canonical_apid (h g hg).apid hgapid]
        exact hcovers.apid.trans hapid
      · rw [(loadedEntry_ids g).2, loadedId_plain g.canonical_ctid (h g hg).ctid hgctid]
        exact hcovers.ctid.trans hctid

end roundTrip

/-- A filter with one entry: an application id, any context. -/
def oneApplication (apid : List UInt8) : DltFilter :=
  ⟨[(⟨dltSetId apid, some (dltSetId []), 0, 0, int32Max⟩ : FilterValues).entry], by
    rw [List.length_singleton]
    decide⟩

/-- The file with application `A` is loaded as a filter for application `A---`, and the messages of `A` are lost. -/
theorem load_save_short : (dltFilterSave (oneApplication [65]) true).1 = some [65, 45, 45, 45, 32, 45, 45, 45, 45, 32] ∧
    dltMessageFilterCheck ⟨some ⟨0, dltSetId [65], dltSetId [66]⟩, 0, by decide⟩ (oneApplication [65]) =
      dltReturnTrue ∧
    dltMessageFilterCheck ⟨some ⟨0, dltSetId [65], dltSetId [66]⟩, 0, by decide⟩
      (dltFilterLoad ⟨[], by decide⟩ (dltFilterSave (oneApplication [65]) true).1).1 = dltReturnOk := by
  decide +kernel

theorem fileEntry_oneApplication : ∀ e ∈ (oneApplication [65, 66, 67, 68]).entries, FileEntry e := by
  intro e he
  rw [mem_singleton.mp he]
  exact ⟨rfl, rfl, rfl, by decide, by decide⟩

/-- A filter file with an id of four characters is loaded as it was. -/
theorem load_save_four : (∀ e ∈ (oneApplication [65, 66, 67, 68]).entries, FileEntry e) ∧ ∀ msg,
    dltMessageFilterCheck msg
        (dltFilterLoad ⟨[], by decide⟩ (dltFilterSave (oneApplication [65, 66, 67, 68]) true).1).1 =
      dltMessageFilterCheck msg (oneApplication [65, 66, 67, 68]) := by
  refine ⟨fileEntry_oneApplication, ?_⟩
  apply (load_save_iff (oneApplication [65, 66, 67, 68]) ⟨[], by decide⟩ fileEntry_oneApplication).mpr
  intro e he
  have hplain : PlainId e.apid ∧ PlainId e.ctid := by
    rw [mem_singleton.mp he]
    decide
  exact ⟨e, he, hplain.1, hplain.2, .refl _, .refl _⟩

end Dlt.MsgFilter
