import Dlt.EnvLevels.Extract

/-!
# The strings of log levels

* `LevelKind` — a level is a number, a name, or a single `-`, which stands for no level.
* `TextItem` — an item as text, `apid:ctid:ll`. `DocumentedList` — items between `;`, with one `;` behind the last one
  or none. `ReadList` — the strings that are read: a level may be a single `-`, and a level name is followed by two `;`.
* `extractLlItem_some` — what one item takes off the string. `readList_of_extractItems` — what all items do.
-/

namespace Dlt.EnvLevels

open Dlt.Lib Dlt.Shared List Option

/-! ## Levels -/

inductive LevelKind
  /-- `-1`, or a digit up to `6`. -/
  | number
  /-- A name, in any letter case. -/
  | name
  /-- A single `-`. -/
  | dash
deriving DecidableEq

/-- The level that a text stands for. -/
def LevelKind.reads (kind : LevelKind) (text : List UInt8) : Option ℤ :=
  match kind with
  | .number =>
      if text = [45, 49] then some (-1)
      else if text.length = 1 ∧ 48 ≤ text.headD 0 ∧ text.headD 0 < 55 then some ((text.headD 0).toNat - 48)
      else none
  | .name => levelNames.lookup (text.map lowerCase)
  | .dash => if text = [45] then some 0 else none

/-- A text that ends here, or goes on with the next item. -/
def Ends (rest : List UInt8) : Prop := rest = [] ∨ ∃ rest', rest = semicolon :: rest'

section level

variable {kind kind' : LevelKind} {text : List UInt8} {ll ll' : ℤ} {rest : List UInt8}

theorem levelNames_letters : ∀ name ∈ levelNames, name.1 ≠ [] ∧ name.1.length ≤ 7 ∧ ∀ c ∈ name.1, 97 ≤ c ∧ c ≤ 122 := by
  decide +kernel

theorem letter_of_lowerCase {c : UInt8} (h : 97 ≤ lowerCase c ∧ lowerCase c ≤ 122) : 65 ≤ c := by
  unfold lowerCase at h
  split_ifs at h with hupper
  · exact hupper.1
  · rw [UInt8.le_iff_toNat_le] at h ⊢
    exact le_trans (by decide) h.1

theorem letters_of_name (h : LevelKind.name.reads text = some ll) :
    text ≠ [] ∧ text.length ≤ 7 ∧ ∀ c ∈ text, 65 ≤ c := by
  obtain ⟨l₁, l₂, hnames, -⟩ := lookup_eq_some_iff.mp h
  have hmem : (text.map lowerCase, ll) ∈ levelNames := by
    rw [hnames]
    exact mem_append_right _ mem_cons_self
  obtain ⟨hne, hlen, hletters⟩ := levelNames_letters _ hmem
  refine ⟨?_, ?_, ?_⟩
  · rintro rfl
    exact hne rfl
  · rwa [length_map] at hlen
  · intro c hc
    exact letter_of_lowerCase (hletters _ (mem_map_of_mem hc))

/-- The characters of a number or of a single `-`. -/
theorem chars_of_number (hkind : kind ≠ .name) (h : kind.reads text = some ll) :
    text ≠ [] ∧ ∀ c ∈ text, 45 ≤ c ∧ c < 55 := by
  cases kind with
  | number =>
    unfold LevelKind.reads at h
    dsimp only at h
    split_ifs at h with hminus hdigit
    · rw [hminus]
      decide +kernel
    · obtain ⟨hlen, hlo, hhi⟩ := hdigit
      obtain ⟨c, rfl⟩ := length_eq_one_iff.mp hlen
      refine ⟨cons_ne_nil _ _, ?_⟩
      intro d hd
      rw [mem_singleton.mp hd]
      exact ⟨UInt8.le_trans (show (45 : UInt8) ≤ 48 by decide) hlo, hhi⟩
  | name => exact absurd rfl hkind
  | dash =>
    unfold LevelKind.reads at h
    dsimp only at h
    split_ifs at h with hdash
    rw [hdash]
    decide +kernel

/-- A level is not empty, and neither `;` nor the end of the string is in it. -/
theorem level_chars (h : kind.reads text = some ll) : text ≠ [] ∧ semicolon ∉ text ∧ 0 ∉ text := by
  by_cases hkind : kind = .name
  · rw [hkind] at h
    obtain ⟨hne, -, hletters⟩ := letters_of_name h
    exact ⟨hne, fun hc => absurd (hletters _ hc) (by decide), fun hc => absurd (hletters _ hc) (by decide)⟩
  · obtain ⟨hne, hchars⟩ := chars_of_number hkind h
    exact ⟨hne, fun hc => absurd (hchars _ hc).2 (by decide), fun hc => absurd (hchars _ hc).1 (by decide)⟩

theorem reads_unique (h : kind.reads text = some ll) (h' : kind'.reads text = some ll') : kind = kind' ∧ ll = ll' := by
  have hname : ∀ {k : LevelKind} {l l' : ℤ}, k ≠ .name → k.reads text = some l →
      LevelKind.name.reads text ≠ some l' := by
    intro k l l' hk hnumber hletters
    obtain ⟨c, cs, rfl⟩ := exists_cons_of_ne_nil (chars_of_number hk hnumber).1
    have hlt := ((chars_of_number hk hnumber).2 c mem_cons_self).2
    have hle := (letters_of_name hletters).2.2 c mem_cons_self
    exact absurd (UInt8.lt_of_lt_of_le hlt (UInt8.le_trans (show (55 : UInt8) ≤ 65 by decide) hle)) (UInt8.lt_irrefl c)
  have hdash : ∀ {l l' : ℤ}, LevelKind.number.reads text = some l → LevelKind.dash.reads text ≠ some l' := by
    intro l l' hnumber hminus
    unfold LevelKind.reads at hminus
    dsimp only at hminus
    split_ifs at hminus with hone
    have hnone : LevelKind.number.reads [45] = none := by decide
    rw [hone, hnone] at hnumber
    cases hnumber
  have hkind : kind = kind' := by
    cases kind <;> cases kind'
    · rfl
    · exact absurd h' (hname (by decide) h)
    · exact absurd h' (hdash h)
    · exact absurd h (hname (by decide) h')
    · rfl
    · exact absurd h (hname (by decide) h')
    · exact absurd h (hdash h')
    · exact absurd h' (hname (by decide) h)
    · rfl
  subst hkind
  rw [h] at h'
  exact ⟨rfl, some.inj h'⟩

end level

/-! ## Items -/

structure TextItem where
  apid : List UInt8
  ctid : List UInt8
  level : List UInt8
  kind : LevelKind
  ll : ℤ
  apid_le : apid.length ≤ 4
  ctid_le : ctid.length ≤ 4
  /-- No character of an id is `:`, or the end of the string. -/
  apid_chars : colon ∉ apid ∧ 0 ∉ apid
  ctid_chars : colon ∉ ctid ∧ 0 ∉ ctid
  level_reads : kind.reads level = some ll

/-- `apid:ctid:ll`. -/
def TextItem.text (x : TextItem) : List UInt8 := x.apid ++ colon :: (x.ctid ++ colon :: x.level)

def TextItem.item (x : TextItem) : EnvLlItem := ⟨dltSetId x.apid, dltSetId x.ctid, x.ll⟩

/-- **The documented strings**: items between `;`, with one `;` behind the last item or none. -/
inductive DocumentedList : List UInt8 → List TextItem → Prop
  | last (x : TextItem) (hkind : x.kind ≠ .dash) : DocumentedList x.text [x]
  | trailing (x : TextItem) (hkind : x.kind ≠ .dash) : DocumentedList (x.text ++ [semicolon]) [x]
  | cons {s : List UInt8} {xs : List TextItem} (x : TextItem) (hkind : x.kind ≠ .dash) (hs : DocumentedList s xs) :
      DocumentedList (x.text ++ semicolon :: s) (x :: xs)

/-- **The strings that are read**: a level may be a single `-`, and behind a level name there are two `;`, or at the
end of the string one or none. -/
inductive ReadList : List UInt8 → List TextItem → Prop
  | last (x : TextItem) : ReadList x.text [x]
  | trailing (x : TextItem) : ReadList (x.text ++ [semicolon]) [x]
  | trailingTwice (x : TextItem) (hname : x.kind = .name) : ReadList (x.text ++ [semicolon, semicolon]) [x]
  | number {s : List UInt8} {xs : List TextItem} (x : TextItem) (hkind : x.kind ≠ .name) (hs : ReadList s xs) :
      ReadList (x.text ++ semicolon :: s) (x :: xs)
  | name {s : List UInt8} {xs : List TextItem} (x : TextItem) (hname : x.kind = .name) (hs : ReadList s xs) :
      ReadList (x.text ++ semicolon :: semicolon :: s) (x :: xs)

section items

variable {x y : TextItem} {r r' s : List UInt8} {xs ys : List TextItem}

/-- Where a list is split at the first `c`. -/
theorem split_unique {a b u v : List UInt8} {c : UInt8} (ha : c ∉ a) (hb : c ∉ b) (h : a ++ c :: u = b ++ c :: v) :
    a = b ∧ u = v := by
  induction a generalizing b with
  | nil =>
    cases b with
    | nil => exact ⟨rfl, (List.cons.inj h).2⟩
    | cons d b => exact absurd ((List.cons.inj h).1 ▸ mem_cons_self) hb
  | cons e a ih =>
    cases b with
    | nil => exact absurd ((List.cons.inj h).1 ▸ mem_cons_self) ha
    | cons d b =>
      obtain ⟨hhead, htail⟩ := List.cons.inj h
      have ha' : c ∉ a := fun hc => ha (mem_cons_of_mem _ hc)
      have hb' : c ∉ b := fun hc => hb (mem_cons_of_mem _ hc)
      obtain ⟨hab, huv⟩ := ih ha' hb' htail
      exact ⟨by rw [hhead, hab], huv⟩

/-- A level ends at the next `;`. -/
theorem level_split {a b u v : List UInt8} (ha : semicolon ∉ a) (hb : semicolon ∉ b) (hu : Ends u) (hv : Ends v)
    (h : a ++ u = b ++ v) : a = b ∧ u = v := by
  rcases hu with rfl | ⟨u', rfl⟩
  · rcases hv with rfl | ⟨v', rfl⟩
    · rw [append_nil, append_nil] at h
      exact ⟨h, rfl⟩
    · rw [append_nil] at h
      exact absurd (h ▸ mem_append_right _ mem_cons_self) ha
  · rcases hv with rfl | ⟨v', rfl⟩
    · rw [append_nil] at h
      exact absurd (h ▸ mem_append_right _ mem_cons_self) hb
    · obtain ⟨hab, huv⟩ := split_unique ha hb h
      exact ⟨hab, by rw [huv]⟩

theorem text_append (x : TextItem) (r : List UInt8) :
    x.text ++ r = x.apid ++ colon :: (x.ctid ++ colon :: (x.level ++ r)) := by
  unfold TextItem.text
  rw [append_assoc, cons_append, append_assoc, cons_append]

/-- **The text of an item and what is behind it determine it.** -/
theorem TextItem.text_inj (hr : Ends r) (hr' : Ends r') (h : x.text ++ r = y.text ++ r') : x = y ∧ r = r' := by
  rw [text_append, text_append] at h
  obtain ⟨hapid, h⟩ := split_unique x.apid_chars.1 y.apid_chars.1 h
  obtain ⟨hctid, h⟩ := split_unique x.ctid_chars.1 y.ctid_chars.1 h
  obtain ⟨hlevel, hrest⟩ := level_split (level_chars x.level_reads).2.1 (level_chars y.level_reads).2.1 hr hr' h
  refine ⟨?_, hrest⟩
  have hreads := y.level_reads
  rw [← hlevel] at hreads
  obtain ⟨hkind, hll⟩ := reads_unique x.level_reads hreads
  cases x
  cases y
  simp only at hapid hctid hlevel hkind hll
  simp only [hapid, hctid, hlevel, hkind, hll]

theorem ends_nil : Ends [] := .inl rfl

theorem ends_semicolon (s : List UInt8) : Ends (semicolon :: s) := .inr ⟨s, rfl⟩

theorem text_ne_nil (x : TextItem) : x.text ≠ [] := by
  unfold TextItem.text
  exact append_ne_nil_of_right_ne_nil _ (cons_ne_nil _ _)

theorem ReadList.ne_nil (h : ReadList s xs) : s ≠ [] := by
  cases h with
  | last x => exact text_ne_nil x
  | trailing x => exact append_ne_nil_of_left_ne_nil (text_ne_nil x) _
  | trailingTwice x hname => exact append_ne_nil_of_left_ne_nil (text_ne_nil x) _
  | number x hkind hs => exact append_ne_nil_of_left_ne_nil (text_ne_nil x) _
  | name x hname hs => exact append_ne_nil_of_left_ne_nil (text_ne_nil x) _

end items

/-! ## Reading an item -/

/-- What reading an item takes off a string: the item, and behind a level name the `;`. -/
inductive ItemRead : List UInt8 → TextItem → List UInt8 → Prop
  | number (x : TextItem) (r : List UInt8) (hkind : x.kind ≠ .name) (hr : Ends r) : ItemRead (x.text ++ r) x r
  | nameLast (x : TextItem) (hname : x.kind = .name) : ItemRead x.text x []
  | name (x : TextItem) (r : List UInt8) (hname : x.kind = .name) (hr : Ends r) :
      ItemRead (x.text ++ semicolon :: r) x r

section reading

variable {env r rest a text : List UInt8} {kind : LevelKind} {ll : ℤ}

theorem ends_iff (hzero : 0 ∉ rest) : (rest.headD 0 = semicolon ∨ rest.headD 0 = 0) ↔ Ends rest := by
  cases rest with
  | nil => exact iff_of_true (.inr rfl) (.inl rfl)
  | cons c cs =>
    constructor
    · rintro (hc | hc)
      · exact .inr ⟨cs, congrArg (· :: cs) hc⟩
      · exact absurd (show 0 ∈ c :: cs by rw [← show c = 0 from hc]; exact mem_cons_self) hzero
    · rintro (hnil | ⟨rest', hcons⟩)
      · cases hnil
      · exact .inl (List.cons.inj hcons).1

/-- Reading as far as the predicate allows, up to `n` characters. -/
theorem takeWhile_take {p : UInt8 → Bool} {n : ℕ} (hlen : text.length ≤ n) (hall : ∀ c ∈ text, p c = true)
    (hstop : r = [] ∨ ∃ c r', r = c :: r' ∧ p c = false) : ((text ++ r).take n).takeWhile p = text := by
  rw [take_append, take_of_length_le hlen, takeWhile_append_of_pos hall]
  rcases hstop with rfl | ⟨c, r', rfl, hc⟩
  · rw [take_nil, takeWhile_nil, append_nil]
  · cases n - text.length with
    | zero => rw [take_zero, takeWhile_nil, append_nil]
    | succ k =>
      rw [take_succ_cons, takeWhile_cons_of_neg (by rw [hc]; exact Bool.false_ne_true), append_nil]

theorem takeWhile_take_append (p : UInt8 → Bool) (n : ℕ) (env : List UInt8) :
    env = (env.take n).takeWhile p ++ env.drop ((env.take n).takeWhile p).length := by
  have hbegins : (env.take n).takeWhile p <+: env := (List.takeWhile_prefix _).trans (List.take_prefix _ _)
  exact (prefix_iff_eq_append.mp hbegins).symm

theorem extractId_text (hlen : a.length ≤ 4) (hcolon : colon ∉ a) (hzero : 0 ∉ a) (r : List UInt8) :
    dltEnvExtractId (a ++ colon :: r) = (dltSetId a, some (colon :: r)) := by
  have htext : ((a ++ colon :: r).take 4).takeWhile (fun c => decide (c ≠ colon ∧ c ≠ 0)) = a := by
    apply takeWhile_take hlen
    · intro c hc
      exact decide_eq_true ⟨fun heq => hcolon (heq ▸ hc), fun heq => hzero (heq ▸ hc)⟩
    · exact .inr ⟨colon, r, rfl, rfl⟩
  unfold dltEnvExtractId
  dsimp only
  rw [htext, drop_left]
  rfl

theorem extractId_some (h : (dltEnvExtractId env).2 = some rest) :
    ∃ a r, env = a ++ colon :: r ∧ a.length ≤ 4 ∧ (colon ∉ a ∧ 0 ∉ a) ∧ (dltEnvExtractId env).1 = dltSetId a ∧
      rest = colon :: r := by
  unfold dltEnvExtractId at h ⊢
  dsimp only at h ⊢
  have happend := takeWhile_take_append (fun c => decide (c ≠ colon ∧ c ≠ 0)) 4 env
  have hlen : ((env.take 4).takeWhile (fun c => decide (c ≠ colon ∧ c ≠ 0))).length ≤ 4 :=
    (List.takeWhile_prefix _).length_le.trans (length_take_le 4 env)
  have hall : ∀ c ∈ (env.take 4).takeWhile (fun c => decide (c ≠ colon ∧ c ≠ 0)), c ≠ colon ∧ c ≠ 0 := by
    intro c hc
    exact of_decide_eq_true (mem_takeWhile_imp (p := fun c => decide (c ≠ colon ∧ c ≠ 0)) hc)
  generalize (env.take 4).takeWhile (fun c => decide (c ≠ colon ∧ c ≠ 0)) = a at h happend hlen hall ⊢
  split_ifs at h with hcolon
  obtain ⟨r, hr⟩ : ∃ r, env.drop a.length = colon :: r := by
    cases hdrop : env.drop a.length with
    | nil =>
      rw [hdrop] at hcolon
      exact absurd hcolon (by decide)
    | cons c cs =>
      rw [hdrop] at hcolon
      exact ⟨cs, congrArg (· :: cs) hcolon⟩
  rw [hr] at happend h
  exact ⟨a, r, happend, hlen, ⟨fun hc => (hall _ hc).1 rfl, fun hc => (hall _ hc).2 rfl⟩, rfl,
    (some.inj h).symm⟩

theorem eq_cons_of_headD {c : UInt8} (hc : c ≠ 0) (h : env.headD 0 = c) : env = c :: env.drop 1 := by
  cases env with
  | nil => exact absurd h.symm hc
  | cons d ds => exact congrArg (· :: ds) h

theorem headD_ends (hr : Ends r) : r.headD 0 = semicolon ∨ r.headD 0 = 0 := by
  rcases hr with rfl | ⟨r', rfl⟩
  · exact .inr rfl
  · exact .inl rfl

/-- The test at the end, for what is read of a level. -/
def endLl (extracted : ℤ × Option (List UInt8)) : ℤ × Option (List UInt8) :=
  match extracted.2 with
  | none => (extracted.1, none)
  | some rest => (extracted.1, if rest.headD 0 = semicolon ∨ rest.headD 0 = 0 then some rest else none)

theorem extractLl_cons (c : UInt8) (cs : List UInt8) : dltEnvExtractLl (c :: cs) =
    endLl (if c = 45 then if cs.headD 0 = 49 then (-1, some (cs.drop 1)) else (0, some cs)
      else if 48 ≤ c ∧ c < 55 then ((c.toNat : ℤ) - 48, some cs) else dltEnvExtractSymbolicLl (c :: cs)) := rfl

/-- A number, or a single `-`, is read up to the `;`. -/
theorem extractLl_number (hkind : kind ≠ .name) (h : kind.reads text = some ll) (hr : Ends r) :
    dltEnvExtractLl (text ++ r) = (ll, some r) := by
  have hhead := headD_ends hr
  cases kind with
  | name => exact absurd rfl hkind
  | number =>
    unfold LevelKind.reads at h
    dsimp only at h
    split_ifs at h with hminus hdigit
    · subst hminus
      rw [← some.inj h, cons_append, extractLl_cons, if_pos rfl, cons_append, nil_append,
        if_pos (show (49 :: r).headD 0 = 49 from rfl)]
      exact congrArg (Prod.mk _) (if_pos hhead)
    · obtain ⟨hlen, hlo, hhi⟩ := hdigit
      obtain ⟨c, rfl⟩ := length_eq_one_iff.mp hlen
      have hc : c ≠ 45 := by
        rintro rfl
        exact absurd hlo (by decide)
      rw [← some.inj h, cons_append, extractLl_cons, if_neg hc, if_pos ⟨hlo, hhi⟩]
      exact congrArg (Prod.mk _) (if_pos hhead)
  | dash =>
    unfold LevelKind.reads at h
    dsimp only at h
    split_ifs at h with hdash
    subst hdash
    have hone : ¬ r.headD 0 = 49 := by
      rintro hone
      rcases hhead with hhead | hhead <;> rw [hone] at hhead <;> exact absurd hhead (by decide)
    rw [← some.inj h, cons_append, extractLl_cons, if_pos rfl, nil_append, if_neg hone]
    exact congrArg (Prod.mk _) (if_pos hhead)

/-- A name is read up to the `;`, and that too. -/
theorem extractSymbolicLl_name (h : LevelKind.name.reads text = some ll) (hr : Ends r) :
    dltEnvExtractSymbolicLl (text ++ r) = (ll, some (r.drop 1)) := by
  obtain ⟨-, hlen, -⟩ := letters_of_name h
  obtain ⟨-, hsemicolon, hzero⟩ := level_chars h
  have htext : ((text ++ r).take 7).takeWhile (fun c => decide (c ≠ 0 ∧ c ≠ semicolon)) = text := by
    apply takeWhile_take hlen
    · intro c hc
      exact decide_eq_true ⟨fun heq => hzero (heq ▸ hc), fun heq => hsemicolon (heq ▸ hc)⟩
    · rcases hr with rfl | ⟨r', rfl⟩
      · exact .inl rfl
      · exact .inr ⟨semicolon, r', rfl, rfl⟩
  have hlower : dltEnvHelperToLower (text ++ r) 8 = (text.map lowerCase, some r) := by
    unfold dltEnvHelperToLower
    dsimp only
    rw [htext, drop_left, if_pos (headD_ends hr).symm]
  have hlookup : levelNames.lookup (text.map lowerCase) = some ll := h
  unfold dltEnvExtractSymbolicLl
  rw [hlower]
  dsimp only
  rw [hlookup]
  rcases hr with rfl | ⟨r', rfl⟩
  · rfl
  · rfl

/-- A name is a level where `;` or the end of the string is behind the `;` behind it. -/
theorem extractLl_name (h : LevelKind.name.reads text = some ll) (hr : Ends r) (hzero : 0 ∉ r) :
    (dltEnvExtractLl (text ++ r)).1 = ll ∧
      (∀ rest, (dltEnvExtractLl (text ++ r)).2 = some rest ↔ rest = r.drop 1 ∧ Ends (r.drop 1)) := by
  obtain ⟨hne, -, hletters⟩ := letters_of_name h
  obtain ⟨c, cs, rfl⟩ := exists_cons_of_ne_nil hne
  have hc : 65 ≤ c := hletters c mem_cons_self
  have hminus : ¬ c = 45 := by
    rintro rfl
    exact absurd hc (by decide)
  have hdigit : ¬ (48 ≤ c ∧ c < 55) := by
    rintro ⟨-, hlt⟩
    exact absurd (UInt8.lt_of_lt_of_le hlt (UInt8.le_trans (show (55 : UInt8) ≤ 65 by decide) hc)) (UInt8.lt_irrefl c)
  have hsymbolic := extractSymbolicLl_name h hr
  have hzero' : 0 ∉ r.drop 1 := fun hmem => hzero (mem_of_mem_drop hmem)
  have hll : dltEnvExtractLl (c :: cs ++ r) =
      (ll, if (r.drop 1).headD 0 = semicolon ∨ (r.drop 1).headD 0 = 0 then some (r.drop 1) else none) := by
    rw [cons_append, extractLl_cons, if_neg hminus, if_neg hdigit, ← cons_append, hsymbolic]
    rfl
  rw [hll]
  refine ⟨rfl, ?_⟩
  intro rest
  dsimp only
  by_cases hends : Ends (r.drop 1)
  · rw [if_pos ((ends_iff hzero').mpr hends), some.injEq]
    exact ⟨fun heq => ⟨heq.symm, hends⟩, fun hand => hand.1.symm⟩
  · rw [if_neg (fun hhead => hends ((ends_iff hzero').mp hhead))]
    exact ⟨fun heq => (by cases heq), fun hand => absurd hand.2 hends⟩

theorem endLl_some (hzero : 0 ∉ r) (h : (endLl (ll, some r)).2 = some rest) : rest = r ∧ Ends r := by
  have hr : (if r.headD 0 = semicolon ∨ r.headD 0 = 0 then some r else none) = some rest := h
  split_ifs at hr with hhead
  exact ⟨(some.inj hr).symm, (ends_iff hzero).mp hhead⟩

/-- A name that was read is followed by `;` or the end of the string. -/
theorem extractSymbolicLl_some (hzero : 0 ∉ env) (h : (dltEnvExtractSymbolicLl env).2 = some rest) :
    ∃ text r, LevelKind.name.reads text = some (dltEnvExtractSymbolicLl env).1 ∧ env = text ++ r ∧ Ends r ∧
      rest = r.drop 1 := by
  have happend := takeWhile_take_append (fun c => decide (c ≠ 0 ∧ c ≠ semicolon)) 7 env
  have hzero' : ∀ n, 0 ∉ env.drop n := fun n hmem => hzero (mem_of_mem_drop hmem)
  unfold dltEnvExtractSymbolicLl dltEnvHelperToLower at h ⊢
  dsimp only at h ⊢
  generalize ((env.take (8 - 1)).takeWhile fun c => decide (c ≠ 0 ∧ c ≠ semicolon)) = text at h happend ⊢
  by_cases hhead : (env.drop text.length).headD 0 = 0 ∨ (env.drop text.length).headD 0 = semicolon
  · rw [if_pos hhead] at h ⊢
    dsimp only at h ⊢
    have hends : Ends (env.drop text.length) := (ends_iff (hzero' _)).mp hhead.symm
    cases hlookup : levelNames.lookup (text.map lowerCase) with
    | none =>
      rw [hlookup] at h
      cases h
    | some ll =>
      rw [hlookup] at h
      refine ⟨text, env.drop text.length, hlookup, happend, hends, ?_⟩
      have hrest := (some.inj h).symm
      rcases hends with hnil | ⟨r', hcons⟩
      · rw [hnil] at hrest ⊢
        exact hrest
      · rw [hcons] at hrest ⊢
        exact hrest
  · rw [if_neg hhead] at h
    cases h

/-- **A level that was read** is one of the three kinds. -/
theorem extractLl_some (hzero : 0 ∉ env) (h : (dltEnvExtractLl env).2 = some rest) :
    ∃ kind text r, LevelKind.reads kind text = some (dltEnvExtractLl env).1 ∧ env = text ++ r ∧ Ends r ∧
      ((kind ≠ .name ∧ rest = r) ∨ (kind = .name ∧ rest = r.drop 1 ∧ Ends (r.drop 1))) := by
  cases env with
  | nil =>
    have hnone : (dltEnvExtractLl []).2 = none := by decide
    rw [hnone] at h
    cases h
  | cons c cs =>
    have hzeros : 0 ∉ cs := fun hmem => hzero (mem_cons_of_mem _ hmem)
    rw [extractLl_cons] at h ⊢
    by_cases hminus : c = 45
    · subst hminus
      rw [if_pos rfl] at h ⊢
      by_cases hone : cs.headD 0 = 49
      · have hcs : cs = 49 :: cs.drop 1 := eq_cons_of_headD (by decide) hone
        rw [if_pos hone] at h ⊢
        obtain ⟨hrest, hends⟩ := endLl_some (fun hmem => hzeros (mem_of_mem_drop hmem)) h
        have hreads : LevelKind.number.reads [45, 49] = some (-1) := by decide
        exact ⟨.number, [45, 49], cs.drop 1, hreads, congrArg (45 :: ·) hcs, hends, .inl ⟨by decide, hrest⟩⟩
      · rw [if_neg hone] at h ⊢
        obtain ⟨hrest, hends⟩ := endLl_some hzeros h
        have hreads : LevelKind.dash.reads [45] = some 0 := by decide
        exact ⟨.dash, [45], cs, hreads, rfl, hends, .inl ⟨by decide, hrest⟩⟩
    · rw [if_neg hminus] at h ⊢
      by_cases hdigit : 48 ≤ c ∧ c < 55
      · rw [if_pos hdigit] at h ⊢
        obtain ⟨hrest, hends⟩ := endLl_some hzeros h
        have hreads : LevelKind.number.reads [c] = some ((c.toNat : ℤ) - 48) := by
          have hne : ¬ [c] = [45, 49] := fun heq => by cases (List.cons.inj heq).2
          unfold LevelKind.reads
          dsimp only
          rw [if_neg hne]
          exact if_pos ⟨rfl, hdigit⟩
        exact ⟨.number, [c], cs, hreads, rfl, hends, .inl ⟨by decide, hrest⟩⟩
      · rw [if_neg hdigit] at h ⊢
        have hsome := @extractSymbolicLl_some (c :: cs)
        generalize dltEnvExtractSymbolicLl (c :: cs) = extracted at h hsome ⊢
        obtain ⟨ll, option⟩ := extracted
        cases option with
        | none => cases h
        | some behind =>
          obtain ⟨text, r, hreads, happend, hr, rfl⟩ := hsome hzero rfl
          have hzero' : 0 ∉ r.drop 1 := by
            intro hmem
            apply hzero
            rw [happend]
            exact mem_append_right _ (mem_of_mem_drop hmem)
          obtain ⟨hrest, hends⟩ := endLl_some hzero' h
          exact ⟨.name, text, r, hreads, happend, hr, .inr ⟨rfl, hrest, hends⟩⟩

theorem extractLlItem_ids (x : TextItem) (t : List UInt8) :
    dltEnvExtractLlItem (x.apid ++ colon :: (x.ctid ++ colon :: t)) =
      (⟨dltSetId x.apid, dltSetId x.ctid, (dltEnvExtractLl t).1⟩, (dltEnvExtractLl t).2) := by
  unfold dltEnvExtractLlItem
  rw [extractId_text x.apid_le x.apid_chars.1 x.apid_chars.2]
  dsimp only
  rw [drop_one, tail_cons, extractId_text x.ctid_le x.ctid_chars.1 x.ctid_chars.2]
  rfl

theorem extractLlItem_of_read {x : TextItem} (h : ItemRead env x rest) (hzero : 0 ∉ env) :
    dltEnvExtractLlItem env = (x.item, some rest) := by
  cases h with
  | number x r hkind hr =>
    rw [text_append, extractLlItem_ids, extractLl_number hkind x.level_reads hr]
    rfl
  | nameLast x hname =>
    have hreads := x.level_reads
    rw [hname] at hreads
    obtain ⟨hll, hrest⟩ := extractLl_name hreads ends_nil not_mem_nil
    have hlast := (hrest []).mpr ⟨rfl, ends_nil⟩
    rw [append_nil] at hll hlast
    unfold TextItem.text
    rw [extractLlItem_ids, hll, hlast]
    rfl
  | name x r hname hr =>
    have hreads := x.level_reads
    rw [hname] at hreads
    have hzero' : 0 ∉ semicolon :: rest := fun hmem => hzero (mem_append_right _ hmem)
    obtain ⟨hll, hrest⟩ := extractLl_name hreads (ends_semicolon rest) hzero'
    rw [text_append, extractLlItem_ids, hll, (hrest rest).mpr ⟨rfl, hr⟩]
    rfl

/-- **An item that was read** is at the beginning of the string. -/
theorem extractLlItem_some (hzero : 0 ∉ env) (h : (dltEnvExtractLlItem env).2 = some rest) :
    ∃ x, ItemRead env x rest := by
  have happ := @extractId_some env
  unfold dltEnvExtractLlItem at h
  dsimp only at h
  cases happid : (dltEnvExtractId env).2 with
  | none =>
    rw [happid] at h
    cases h
  | some behind =>
    rw [happid] at h
    obtain ⟨a, r, rfl, hlen, hchars, -, rfl⟩ := happ happid
    dsimp only at h
    rw [drop_one, tail_cons] at h
    cases hctid : (dltEnvExtractId r).2 with
    | none =>
      rw [hctid] at h
      cases h
    | some behind =>
      rw [hctid] at h
      obtain ⟨c, t, rfl, hlen', hchars', -, rfl⟩ := extractId_some hctid
      dsimp only at h
      rw [drop_one, tail_cons] at h
      have hzero' : 0 ∉ t := by
        intro hmem
        apply hzero
        have hmem' : 0 ∈ c ++ colon :: t := mem_append_right _ (mem_cons_of_mem _ hmem)
        exact mem_append_right _ (mem_cons_of_mem _ hmem')
      obtain ⟨kind, text, r, hreads, rfl, hr, hkinds⟩ := extractLl_some hzero' h
      let x : TextItem :=
        { apid := a, ctid := c, level := text, kind, ll := (dltEnvExtractLl (text ++ r)).1, apid_le := hlen
          ctid_le := hlen', apid_chars := hchars, ctid_chars := hchars', level_reads := hreads }
      have henv : a ++ colon :: (c ++ colon :: (text ++ r)) = x.text ++ r := (text_append x r).symm
      refine ⟨x, ?_⟩
      rw [henv]
      rcases hkinds with ⟨hkind, rfl⟩ | ⟨hname, rfl, hends⟩
      · exact .number x rest hkind hr
      · rcases hr with rfl | ⟨r', rfl⟩
        · rw [append_nil]
          exact .nameLast x hname
        · exact .name x r' hname hends

/-- Behind an item that was read there is the next one, or nothing. -/
theorem ItemRead.ends {x : TextItem} (h : ItemRead env x rest) : Ends rest := by
  cases h with
  | number x r hkind hr => exact hr
  | nameLast x hname => exact ends_nil
  | name x r hname hr => exact hr

/-- What is behind an item is a part of the string, and shorter. -/
theorem ItemRead.suffix {x : TextItem} (h : ItemRead env x rest) : ∃ t, t ≠ [] ∧ env = t ++ rest := by
  cases h with
  | number x r hkind hr => exact ⟨x.text, text_ne_nil x, rfl⟩
  | nameLast x hname => exact ⟨x.text, text_ne_nil x, (append_nil _).symm⟩
  | name x r hname hr =>
    refine ⟨x.text ++ [semicolon], append_ne_nil_of_left_ne_nil (text_ne_nil x) _, ?_⟩
    rw [append_assoc, singleton_append]

/-- **The strings that are read, item by item.** -/
theorem readList_iff {L : List TextItem} : ReadList env L ↔ ∃ x rest, ItemRead env x rest ∧
    ((rest.drop 1 = [] ∧ L = [x]) ∨ ∃ L', ReadList (rest.drop 1) L' ∧ L = x :: L') := by
  constructor
  · intro h
    cases h with
    | last x =>
      refine ⟨x, [], ?_, .inl ⟨rfl, rfl⟩⟩
      by_cases hname : x.kind = .name
      · exact .nameLast x hname
      · have hread := ItemRead.number x [] hname ends_nil
        rwa [append_nil] at hread
    | trailing x =>
      by_cases hname : x.kind = .name
      · exact ⟨x, [], .name x [] hname ends_nil, .inl ⟨rfl, rfl⟩⟩
      · exact ⟨x, [semicolon], .number x _ hname (ends_semicolon _), .inl ⟨rfl, rfl⟩⟩
    | trailingTwice x hname => exact ⟨x, [semicolon], .name x _ hname (ends_semicolon _), .inl ⟨rfl, rfl⟩⟩
    | number x hkind hs => exact ⟨x, _, .number x _ hkind (ends_semicolon _), .inr ⟨_, hs, rfl⟩⟩
    | name x hname hs => exact ⟨x, _, .name x _ hname (ends_semicolon _), .inr ⟨_, hs, rfl⟩⟩
  · rintro ⟨x, rest, hread, hlist⟩
    cases hread with
    | number x r hkind hr =>
      rcases hr with rfl | ⟨r', rfl⟩
      · rcases hlist with ⟨-, rfl⟩ | ⟨L', hL', -⟩
        · rw [append_nil]
          exact .last x
        · exact absurd rfl hL'.ne_nil
      · rcases hlist with ⟨hnil, rfl⟩ | ⟨L', hL', rfl⟩
        · rw [drop_one, tail_cons] at hnil
          rw [hnil]
          exact .trailing x
        · exact .number x hkind hL'
    | nameLast x hname =>
      rcases hlist with ⟨-, rfl⟩ | ⟨L', hL', -⟩
      · exact .last x
      · exact absurd rfl hL'.ne_nil
    | name x r hname hr =>
      rcases hr with rfl | ⟨r', rfl⟩
      · rcases hlist with ⟨-, rfl⟩ | ⟨L', hL', -⟩
        · exact .trailing x
        · exact absurd rfl hL'.ne_nil
      · rcases hlist with ⟨hnil, rfl⟩ | ⟨L', hL', rfl⟩
        · rw [drop_one, tail_cons] at hnil
          rw [hnil]
          exact .trailingTwice x hname
        · exact .name x hname hL'

end reading

/-! ## Reading all items -/

section loop

variable {malloc : ℕ → Bool} {env rest : List UInt8} {fuel : ℕ} {L : List TextItem}

theorem makeRoom_some (hmalloc : ∀ n, malloc n = true) (set : EnvLlSet) :
    ∃ set', makeRoom malloc set = some set' ∧ set'.item = set.item := by
  unfold makeRoom
  by_cases hfull : set.item.length = set.arraySize
  · rw [if_pos hfull, if_pos (hmalloc _)]
    exact ⟨_, rfl, rfl⟩
  · rw [if_neg hfull]
    exact ⟨set, rfl, rfl⟩

/-- The `;` behind an item is skipped. -/
theorem skip_ends (h : Ends rest) : (if rest.headD 0 = semicolon then rest.drop 1 else rest) = rest.drop 1 := by
  rcases h with rfl | ⟨r, rfl⟩
  · exact if_neg (by decide)
  · exact if_pos rfl

/-- **One turn of the loop** that reads an item. -/
theorem extractItems_step (hmalloc : ∀ n, malloc n = true) {x : TextItem} (hread : ItemRead env x rest)
    (hzero : 0 ∉ env) (set : EnvLlSet) : ∃ set', set'.item = set.item ++ [x.item] ∧
      extractItems malloc (fuel + 1) env set =
        if rest.drop 1 = [] then (set', true) else extractItems malloc fuel (rest.drop 1) set' := by
  obtain ⟨set', hroom, hitem⟩ := makeRoom_some hmalloc set
  obtain ⟨t, -, henv⟩ := hread.suffix
  have hzero' : 0 ∉ rest.drop 1 := by
    intro hmem
    apply hzero
    rw [henv]
    exact mem_append_right _ (mem_of_mem_drop hmem)
  refine ⟨{ set' with item := set'.item ++ [x.item] }, by rw [hitem], ?_⟩
  rw [extractItems, hroom]
  dsimp only
  rw [extractLlItem_of_read hread hzero]
  dsimp only
  rw [skip_ends hread.ends]
  by_cases hnil : rest.drop 1 = []
  · rw [if_pos hnil, if_neg (by rw [hnil]; exact fun hne => hne rfl)]
  · have hne : (rest.drop 1).headD 0 ≠ 0 := by
      obtain ⟨c, cs, hcons⟩ := exists_cons_of_ne_nil hnil
      rw [hcons] at hzero' ⊢
      intro hc
      exact hzero' (by rw [← show c = 0 from hc]; exact mem_cons_self)
    rw [if_neg hnil, if_pos hne]

theorem length_behind {x : TextItem} (hread : ItemRead env x rest) (hfuel : env.length < fuel + 1) :
    (rest.drop 1).length < fuel ∨ rest.drop 1 = [] := by
  obtain ⟨t, hne, rfl⟩ := hread.suffix
  have hpos : 0 < t.length := length_pos_of_ne_nil hne
  rw [length_append] at hfuel
  cases rest with
  | nil => exact .inr rfl
  | cons c cs =>
    left
    rw [length_cons] at hfuel
    rw [drop_one, tail_cons]
    omega

theorem zero_not_mem_behind {x : TextItem} (hread : ItemRead env x rest) (hzero : 0 ∉ env) : 0 ∉ rest.drop 1 := by
  obtain ⟨t, -, rfl⟩ := hread.suffix
  intro hmem
  exact hzero (mem_append_right _ (mem_of_mem_drop hmem))

/-- **A string of items that are read is accepted**, and its items are stored. -/
theorem extractItems_of_readList (hmalloc : ∀ n, malloc n = true) (h : ReadList env L) (hzero : 0 ∉ env)
    (hfuel : env.length < fuel) (set : EnvLlSet) : (extractItems malloc fuel env set).2 = true ∧
      (extractItems malloc fuel env set).1.item = set.item ++ L.map TextItem.item := by
  induction fuel generalizing env L set with
  | zero => exact absurd hfuel (Nat.not_lt_zero _)
  | succ fuel ih =>
    obtain ⟨x, rest, hread, hlist⟩ := readList_iff.mp h
    obtain ⟨set', hitem, hstep⟩ := @extractItems_step malloc env rest fuel hmalloc x hread hzero set
    rw [hstep]
    rcases hlist with ⟨hnil, rfl⟩ | ⟨L', hL', rfl⟩
    · rw [if_pos hnil]
      exact ⟨rfl, hitem⟩
    · rw [if_neg hL'.ne_nil]
      obtain ⟨haccepts, hitems⟩ := ih hL' (zero_not_mem_behind hread hzero)
        ((length_behind hread hfuel).resolve_right hL'.ne_nil) set'
      refine ⟨haccepts, ?_⟩
      rw [hitems, hitem, map_cons, append_assoc, singleton_append]

/-- **A string that is accepted** is one of items that are read. -/
theorem readList_of_extractItems (hmalloc : ∀ n, malloc n = true) (hzero : 0 ∉ env) (hfuel : env.length < fuel)
    {set : EnvLlSet} (h : (extractItems malloc fuel env set).2 = true) : ∃ L, ReadList env L := by
  induction fuel generalizing env set with
  | zero => exact absurd hfuel (Nat.not_lt_zero _)
  | succ fuel ih =>
    cases hitem : (dltEnvExtractLlItem env).2 with
    | none =>
      obtain ⟨set', hroom, -⟩ := makeRoom_some hmalloc set
      rw [extractItems, hroom] at h
      dsimp only at h
      rw [hitem] at h
      cases h
    | some rest =>
      obtain ⟨x, hread⟩ := extractLlItem_some hzero hitem
      obtain ⟨set', -, hstep⟩ := @extractItems_step malloc env rest fuel hmalloc x hread hzero set
      rw [hstep] at h
      by_cases hnil : rest.drop 1 = []
      · exact ⟨[x], readList_iff.mpr ⟨x, rest, hread, .inl ⟨hnil, rfl⟩⟩⟩
      · rw [if_neg hnil] at h
        obtain ⟨L', hL'⟩ := ih (zero_not_mem_behind hread hzero)
          ((length_behind hread hfuel).resolve_right hnil) h
        exact ⟨x :: L', readList_iff.mpr ⟨x, rest, hread, .inr ⟨L', hL', rfl⟩⟩⟩

end loop

end Dlt.EnvLevels
