import Dlt.EnvLevels.Grammar

/-!
# Which strings of log levels are read as documented

* `extract_documented_iff` — **a string is parsed as documented** unless it has a level name before another item, or it
  is in the looser form only.
-/

namespace Dlt.EnvLevels

open Dlt.Lib Dlt.Shared List TextItem

/-! ## The two forms -/

section forms

variable {s : List UInt8} {V V' L : List TextItem}

theorem DocumentedList.head (h : DocumentedList s V) : ∃ x r xs, V = x :: xs ∧ s = x.text ++ r := by
  cases h with
  | last x hkind => exact ⟨x, [], [], rfl, (append_nil _).symm⟩
  | trailing x hkind => exact ⟨x, _, [], rfl, rfl⟩
  | cons x hkind hs => exact ⟨x, _, _, rfl, rfl⟩

theorem ReadList.head (h : ReadList s L) : ∃ x r xs, L = x :: xs ∧ s = x.text ++ r := by
  cases h with
  | last x => exact ⟨x, [], [], rfl, (append_nil _).symm⟩
  | trailing x => exact ⟨x, _, [], rfl, rfl⟩
  | trailingTwice x hname => exact ⟨x, _, [], rfl, rfl⟩
  | number x hkind hs => exact ⟨x, _, _, rfl, rfl⟩
  | name x hname hs => exact ⟨x, _, _, rfl, rfl⟩

/-- The first items of a string and of what is behind its first `;` are not the same. -/
theorem item_ne_of_semicolon {x y : TextItem} {r r' : List UInt8} (h : x.text ++ r = semicolon :: (y.text ++ r')) :
    x.item ≠ y.item := by
  have hsemicolon : colon ≠ semicolon := by decide
  have hcolon : colon ∉ semicolon :: y.apid := by
    intro hmem
    rcases mem_cons.mp hmem with heq | hmem
    · exact hsemicolon heq
    · exact y.apid_chars.1 hmem
  rw [text_append, text_append, ← cons_append] at h
  obtain ⟨hapid, -⟩ := split_unique x.apid_chars.1 hcolon h
  intro hitem
  have hids : dltSetId x.apid = dltSetId y.apid := congrArg EnvLlItem.appId hitem
  have hsame := dltSetId_inj ⟨x.apid_le, x.apid_chars.2⟩ ⟨y.apid_le, y.apid_chars.2⟩ hids
  rw [hsame] at hapid
  exact absurd (congrArg List.length hapid) (by rw [length_cons]; omega)

/-- A kind that is no name and no single `-` is a number. -/
theorem kind_number {kind : LevelKind} (hname : kind ≠ .name) (hdash : kind ≠ .dash) : kind = .number := by
  cases kind with
  | number => rfl
  | name => exact absurd rfl hname
  | dash => exact absurd rfl hdash

theorem dropLast_forall {x : TextItem} {xs : List TextItem} (hx : x.kind = .number)
    (hxs : ∀ y ∈ xs.dropLast, y.kind = .number) : ∀ y ∈ (x :: xs).dropLast, y.kind = .number := by
  intro y hy
  cases xs with
  | nil => cases hy
  | cons z zs =>
    rw [dropLast_cons_cons] at hy
    rcases mem_cons.mp hy with rfl | hy
    · exact hx
    · exact hxs y hy

theorem read_one {x : TextItem} {r : List UInt8} (hr : Ends r) (hs : s = x.text ++ r) (hL : ReadList s L)
    (hlen : L.length = 1) : [x] = L := by
  cases hL with
  | last y =>
    rw [← append_nil y.text] at hs
    rw [(text_inj ends_nil hr hs).1]
  | trailing y => rw [(text_inj (ends_semicolon _) hr hs).1]
  | trailingTwice y hname => rw [(text_inj (ends_semicolon _) hr hs).1]
  | number y hkind hs' =>
    obtain ⟨z, -, zs, rfl, -⟩ := hs'.head
    cases hlen
  | name y hname hs' =>
    obtain ⟨z, -, zs, rfl, -⟩ := hs'.head
    cases hlen

/-- **A string with the same items in both forms** has numbers in all items but the last. -/
theorem documented_read (hV : DocumentedList s V) (hL : ReadList s L)
    (hsame : V.map item = L.map item) : V = L ∧ ∀ x ∈ V.dropLast, x.kind = .number := by
  have hlen := congrArg List.length hsame
  rw [length_map, length_map] at hlen
  induction hV generalizing L with
  | last x hkind =>
    exact ⟨read_one ends_nil (append_nil _).symm hL hlen.symm, fun y hy => absurd hy not_mem_nil⟩
  | trailing x hkind =>
    exact ⟨read_one (ends_semicolon _) rfl hL hlen.symm, fun y hy => absurd hy not_mem_nil⟩
  | @cons t xs x hkind hs ih =>
    obtain ⟨x', r, xs', rfl, ht⟩ := hs.head
    generalize hstring : x.text ++ semicolon :: t = string at hL
    cases hL with
    | last y => cases hlen
    | trailing y => cases hlen
    | trailingTwice y hname => cases hlen
    | @number t' ys y hkind' hs' =>
      obtain ⟨rfl, hrest⟩ := text_inj (ends_semicolon _) (ends_semicolon _) hstring
      rw [map_cons, map_cons] at hsame
      rw [(List.cons.inj hrest).2] at hs ih
      obtain ⟨hitems, hnumbers⟩ := ih hs' (List.cons.inj hsame).2 (Nat.succ.inj hlen)
      refine ⟨by rw [hitems], ?_⟩
      exact dropLast_forall (kind_number hkind' hkind) hnumbers
    | @name t' ys y hname hs' =>
      obtain ⟨-, hrest⟩ := text_inj (ends_semicolon _) (ends_semicolon _) hstring
      obtain ⟨y', r', ys', rfl, ht'⟩ := hs'.head
      rw [map_cons, map_cons] at hsame
      have hitem := (List.cons.inj (List.cons.inj hsame).2).1
      have hrest' := (List.cons.inj hrest).2
      rw [ht, ht'] at hrest'
      exact absurd hitem (item_ne_of_semicolon hrest')

/-- A documented string with numbers in all items but the last is read. -/
theorem readList_of_documented (h : DocumentedList s V) (hnumbers : ∀ x ∈ V.dropLast, x.kind = .number) :
    ReadList s V := by
  induction h with
  | last x hkind => exact .last x
  | trailing x hkind => exact .trailing x
  | @cons t xs x hkind hs ih =>
    obtain ⟨y, -, ys, rfl, -⟩ := hs.head
    have hx : x.kind = .number := hnumbers x (by rw [dropLast_cons_cons]; exact mem_cons_self)
    refine .number x (by rw [hx]; decide) (ih ?_)
    intro z hz
    exact hnumbers z (by rw [dropLast_cons_cons]; exact mem_cons_of_mem _ hz)

theorem documented_unique (h : DocumentedList s V) (h' : DocumentedList s V') : V = V' := by
  induction h generalizing V' with
  | last x hkind =>
    generalize hstring : x.text = string at h'
    rw [← append_nil x.text] at hstring
    cases h' with
    | last y hkind' =>
      rw [← append_nil y.text] at hstring
      rw [(text_inj ends_nil ends_nil hstring).1]
    | trailing y hkind' => cases (text_inj ends_nil (ends_semicolon _) hstring).2
    | cons y hkind' hs' => cases (text_inj ends_nil (ends_semicolon _) hstring).2
  | trailing x hkind =>
    generalize hstring : x.text ++ [semicolon] = string at h'
    cases h' with
    | last y hkind' =>
      rw [← append_nil y.text] at hstring
      cases (text_inj (ends_semicolon _) ends_nil hstring).2
    | trailing y hkind' => rw [(text_inj (ends_semicolon _) (ends_semicolon _) hstring).1]
    | cons y hkind' hs' =>
      have hnil := (text_inj (ends_semicolon _) (ends_semicolon _) hstring).2
      obtain ⟨z, r, -, -, hz⟩ := hs'.head
      rw [← (List.cons.inj hnil).2] at hz
      exact absurd hz.symm (append_ne_nil_of_left_ne_nil (text_ne_nil z) _)
  | @cons t xs x hkind hs ih =>
    generalize hstring : x.text ++ semicolon :: t = string at h'
    cases h' with
    | last y hkind' =>
      rw [← append_nil y.text] at hstring
      cases (text_inj (ends_semicolon _) ends_nil hstring).2
    | trailing y hkind' =>
      have hnil := (text_inj (ends_semicolon _) (ends_semicolon _) hstring).2
      obtain ⟨z, r, -, -, hz⟩ := hs.head
      rw [(List.cons.inj hnil).2] at hz
      exact absurd hz.symm (append_ne_nil_of_left_ne_nil (text_ne_nil z) _)
    | cons y hkind' hs' =>
      obtain ⟨rfl, hrest⟩ := text_inj (ends_semicolon _) (ends_semicolon _) hstring
      rw [(List.cons.inj hrest).2] at ih
      rw [ih hs']

end forms

/-! ## The strings that are accepted -/

/-- The string is accepted with these items. -/
def Accepts (malloc : ℕ → Bool) (s : List UInt8) (items : List EnvLlItem) : Prop :=
  (dltEnvExtractLlSet malloc s).2 = true ∧ (dltEnvExtractLlSet malloc s).1.item = items

section accepts

variable {malloc : ℕ → Bool} {s : List UInt8} {V : List TextItem}

theorem extractLlSet_eq (hmalloc : ∀ n, malloc n = true) (s : List UInt8) :
    dltEnvExtractLlSet malloc s = extractItems malloc (s.length + 1) s ⟨[], dltEnvLlSetIncrease⟩ := by
  unfold dltEnvExtractLlSet
  rw [if_pos (hmalloc _)]

/-- **A string is accepted** when it is one of items that are read, and these are stored. -/
theorem accepts_iff (hmalloc : ∀ n, malloc n = true) (hzero : 0 ∉ s) (items : List EnvLlItem) :
    Accepts malloc s items ↔ ∃ L, ReadList s L ∧ items = L.map item := by
  have hfuel : s.length < s.length + 1 := Nat.lt_succ_self _
  unfold Accepts
  rw [extractLlSet_eq hmalloc]
  constructor
  · rintro ⟨haccepts, hitems⟩
    obtain ⟨L, hL⟩ := readList_of_extractItems hmalloc hzero hfuel haccepts
    refine ⟨L, hL, ?_⟩
    rw [← hitems, (extractItems_of_readList hmalloc hL hzero hfuel _).2, nil_append]
  · rintro ⟨L, hL, rfl⟩
    obtain ⟨haccepts, hitems⟩ := extractItems_of_readList hmalloc hL hzero hfuel ⟨[], dltEnvLlSetIncrease⟩
    exact ⟨haccepts, hitems.trans (nil_append _)⟩

/-- **The string is parsed as documented**: it is accepted when it is a documented one, with exactly its items; and
with the items of an accepted string a context gets the level of the first one of the highest priority. -/
def ParsedAsDocumented (malloc : ℕ → Bool) (s : List UInt8) : Prop :=
  (∀ items, Accepts malloc s items ↔ ∃ V, DocumentedList s V ∧ items = V.map item) ∧
    ∀ items, Accepts malloc s items → ∀ apid ctid ll,
      FirstOfHighest items apid ctid ll (dltEnvAdjustLlFromEnv items apid ctid ll)

/-- As a documented string, it has numbers in all items but the last. -/
def NamesLast (s : List UInt8) : Prop := ∀ V, DocumentedList s V → ∀ x ∈ V.dropLast, x.kind = .number

/-- The string is in the looser form only: with a single `-` for a level, or two `;` behind a level name. -/
def Loose (s : List UInt8) : Prop := ∃ L, ReadList s L ∧ ¬ DocumentedList s L

/-- **A string is parsed as documented** exactly when it has no level name before another item, and it is not in the
looser form only. -/
theorem extract_documented_iff (malloc : ℕ → Bool) (hmalloc : ∀ n, malloc n = true) (s : List UInt8) (hzero : 0 ∉ s) :
    ParsedAsDocumented malloc s ↔ NamesLast s ∧ ¬ Loose s := by
  unfold ParsedAsDocumented
  simp only [accepts_iff hmalloc hzero]
  constructor
  · rintro ⟨hiff, -⟩
    refine ⟨?_, ?_⟩
    · intro V hV
      obtain ⟨L, hL, hsame⟩ := (hiff _).mpr ⟨V, hV, rfl⟩
      exact (documented_read hV hL hsame).2
    · rintro ⟨L, hL, hnot⟩
      obtain ⟨V, hV, hsame⟩ := (hiff _).mp ⟨L, hL, rfl⟩
      rw [← (documented_read hV hL hsame.symm).1] at hnot
      exact hnot hV
  · rintro ⟨hnames, hstrict⟩
    refine ⟨?_, fun items _ => adjust_firstOfHighest items⟩
    intro items
    constructor
    · rintro ⟨L, hL, rfl⟩
      refine ⟨L, ?_, rfl⟩
      by_contra hnot
      exact hstrict ⟨L, hL, hnot⟩
    · rintro ⟨V, hV, rfl⟩
      exact ⟨V, readList_of_documented hV (hnames V hV), rfl⟩

/-- A documented string with numbers in all items but the last meets both conditions. -/
theorem namesLast_of_documented (hzero : 0 ∉ s) (hV : DocumentedList s V)
    (hnumbers : ∀ x ∈ V.dropLast, x.kind = .number) : NamesLast s ∧ ¬ Loose s := by
  refine ⟨?_, ?_⟩
  · intro V' hV'
    rw [← documented_unique hV hV']
    exact hnumbers
  · rintro ⟨L, hL, hnot⟩
    have hmalloc : ∀ n, (fun _ : ℕ => true) n = true := fun _ => rfl
    have hread := (accepts_iff hmalloc hzero _).mpr ⟨V, readList_of_documented hV hnumbers, rfl⟩
    have hread' := (accepts_iff hmalloc hzero _).mpr ⟨L, hL, rfl⟩
    rw [← (documented_read hV hL (hread.2.symm.trans hread'.2)).1] at hnot
    exact hnot hV

end accepts

/-- `AB:CD:3`. -/
def numberItem : TextItem where
  apid := ascii "AB"
  ctid := ascii "CD"
  level := ascii "3"
  kind := .number
  ll := 3
  apid_le := by decide
  ctid_le := by decide
  apid_chars := by decide
  ctid_chars := by decide
  level_reads := by decide

/-- `EF::Info`. -/
def nameItem : TextItem where
  apid := ascii "EF"
  ctid := []
  level := ascii "Info"
  kind := .name
  ll := 4
  apid_le := by decide
  ctid_le := by decide
  apid_chars := by decide
  ctid_chars := by decide
  level_reads := by decide

/-- `AB:CD:3;EF::Info` is parsed as documented. -/
theorem extract_documented_sample :
    ParsedAsDocumented (fun _ => true) (numberItem.text ++ semicolon :: nameItem.text) := by
  have hzero : 0 ∉ numberItem.text ++ semicolon :: nameItem.text := by decide
  apply (extract_documented_iff (fun _ => true) (fun _ => rfl) _ hzero).mpr
  apply namesLast_of_documented hzero (.cons numberItem (by decide) (.last nameItem (by decide)))
  intro x hx
  rw [mem_singleton.mp hx]
  rfl

/-- **`EF::Info;AB:CD:3` is rejected**, although it is documented; and `AB:CD:-` is accepted. -/
theorem extract_name_first :
    DocumentedList (ascii "EF::Info;AB:CD:3") [nameItem, numberItem] ∧
      (dltEnvExtractLlSet (fun _ => true) (ascii "EF::Info;AB:CD:3")).2 = false ∧
      ¬ ParsedAsDocumented (fun _ => true) (ascii "EF::Info;AB:CD:3") ∧
      Accepts (fun _ => true) (ascii "AB:CD:-") [⟨dltSetId (ascii "AB"), dltSetId (ascii "CD"), 0⟩] := by
  have hdocumented : DocumentedList (ascii "EF::Info;AB:CD:3") [nameItem, numberItem] := by
    have hlist := DocumentedList.cons nameItem (by decide) (.last numberItem (by decide))
    have hstring : nameItem.text ++ semicolon :: numberItem.text = ascii "EF::Info;AB:CD:3" := by decide
    rwa [hstring] at hlist
  have hrejected : (dltEnvExtractLlSet (fun _ => true) (ascii "EF::Info;AB:CD:3")).2 = false := by decide +kernel
  refine ⟨hdocumented, hrejected, ?_, by decide +kernel, by decide +kernel⟩
  rintro ⟨hiff, -⟩
  have haccepts := ((hiff _).mpr ⟨_, hdocumented, rfl⟩).1
  rw [hrejected] at haccepts
  cases haccepts

end Dlt.EnvLevels
