import Dlt.Shared.ConfigFile
import Mathlib.Data.List.Nodup
import Mathlib.Data.List.TakeWhile

/-!
# Configuration files that are printed and read

* `roundTrips_iff` — **the questions are answered as the configuration says if and only if each section has fewer
  than `DLT_CONFIG_FILE_KEYS_MAX` keys.**
-/

namespace Dlt.Shared

open Dlt.Lib List ConfigFileSection
open Option (bind_some map_none map_some)

variable {line name : List UInt8} {item : ConfigLine} {lines : List (List UInt8)}
   {config : List ConfigFileSection}

/-! ## The syntax -/

def Blanks (text : List UInt8) : Prop := ∀ c ∈ text, isspace c = true ∧ c ≠ 10

/-- A blank line, or a comment. -/
def Interspersed (line : List UInt8) : Prop :=
  Blanks line ∨ ∃ c text, line = c :: text ∧ (c = 35 ∨ c = 59) ∧ 10 ∉ text

/-- How a section or a key is printed. -/
inductive ConfigLine.Prints : ConfigLine → List UInt8 → Prop
  | newSection {b1 b2 b3 b4 : List UInt8} (name : List UInt8) (h1 : Blanks b1) (h2 : Blanks b2) (h3 : Blanks b3)
      (h4 : Blanks b4) : Prints (.newSection name) (b1 ++ [91] ++ b2 ++ name ++ b3 ++ [93] ++ b4)
  | newData {b1 b2 b3 b4 : List UInt8} (key value : List UInt8) (h1 : Blanks b1) (h2 : Blanks b2) (h3 : Blanks b3)
      (h4 : Blanks b4) : Prints (.newData key value) (b1 ++ key ++ b2 ++ [61] ++ b3 ++ value ++ b4)

/-- The lines of a configuration, with others between them. -/
inductive PrintsLines : List ConfigLine → List (List UInt8) → Prop
  | nil : PrintsLines [] []
  /-- A line that says nothing. -/
  | other {items : List ConfigLine} {lines : List (List UInt8)} {line : List UInt8} (h : Interspersed line)
      (hrest : PrintsLines items lines) : PrintsLines items (line :: lines)
  | item {item : ConfigLine} {items : List ConfigLine} {lines : List (List UInt8)} {line : List UInt8}
      (h : item.Prints line) (hrest : PrintsLines items lines) : PrintsLines (item :: items) (line :: lines)

/-- The lines of a text, each with a line break; the last one may be missing. -/
def TextOf (lines : List (List UInt8)) (text : List UInt8) : Prop :=
  text = lines.flatMap (· ++ [10]) ∨ text ++ [10] = lines.flatMap (· ++ [10])

/-- The sections and the keys of a configuration, in order. -/
def configItems (config : List ConfigFileSection) : List ConfigLine :=
  config.flatMap fun s => .newSection s.name :: s.list.map fun entry => .newData entry.1 entry.2

/-- The text is a print of the configuration, and its lines fit the buffer. -/
def PrintsText (config : List ConfigFileSection) (text : List UInt8) : Prop :=
  ∃ lines, PrintsLines (configItems config) lines ∧ (∀ line ∈ lines, line.length < dltConfigFileLineMaxLen) ∧
    TextOf lines text

/-! ## The limits -/

/-- A name or a value that can be printed. -/
structure EntryText (text : List UInt8) : Prop where
  ne_nil : text ≠ []
  length_lt : text.length < dltConfigFileEntryMaxLen
  not_space : ∀ c ∈ text, isspace c = false
  not_zero : 0 ∉ text
  not_equals : 61 ∉ text
  not_open : 91 ∉ text
  not_close : 93 ∉ text
  not_comment : text.headD 0 ≠ 35 ∧ text.headD 0 ≠ 59

/-- The limits of the parser: the numbers of sections and of keys, the names and values, and names that are
different. -/
structure ConfigFits (config : List ConfigFileSection) : Prop where
  sections_le : config.length ≤ dltConfigFileSectionsMax
  keys_le : ∀ s ∈ config, s.list.length ≤ dltConfigFileKeysMax
  name : ∀ s ∈ config, EntryText s.name
  entry : ∀ s ∈ config, ∀ e ∈ s.list, EntryText e.1 ∧ EntryText e.2
  names_nodup : (config.map ConfigFileSection.name).Nodup
  keys_nodup : ∀ s ∈ config, (s.list.map Prod.fst).Nodup

/-- The value of a key, as the configuration has it. -/
def configValue (config : List ConfigFileSection) (sectionName key : List UInt8) : Option (List UInt8) :=
  (config.find? fun s => s.name = sectionName).bind fun s => (s.list.find? fun e => e.1 = key).map Prod.snd

/-- The questions are answered as the configuration says. -/
structure RoundTrips (file : DltConfigFile) (config : List ConfigFileSection) : Prop where
  value : ∀ sectionName key, dltConfigFileGetValue file sectionName key = configValue config sectionName key
  name : ∀ num, dltConfigFileGetSectionName file num =
    if num < 0 then none else (config[num.toNat]?).map ConfigFileSection.name
  count : dltConfigFileGetNumSections file = config.length

/-! ## Lines -/

variable {text : List UInt8}

theorem filter_blanks (h : Blanks text) : (text.filter fun c => !isspace c) = [] := by
  rw [filter_eq_nil_iff]
  intro c hc
  rw [(h c hc).1]
  decide

theorem EntryText.filter (h : EntryText text) : (text.filter fun c => !isspace c) = text := by
  rw [filter_eq_self]
  intro c hc
  rw [h.not_space c hc]
  rfl

theorem Blanks.not_zero (h : Blanks text) : 0 ∉ text := fun hmem =>
  absurd (h 0 hmem).1 (by decide)

/-- The line, and perhaps its line break. -/
def ReadAs (line read : List UInt8) : Prop := read = line ∨ read = line ++ [10]

variable {read : List UInt8}

theorem trimLine_of_readAs (hread : ReadAs line read) (hzero : 0 ∉ line) :
    dltConfigFileTrimLine read = line.filter fun c => !isspace c := by
  have hall : ∀ t : List UInt8, 0 ∉ t → t.takeWhile (· ≠ 0) = t := fun t ht =>
    takeWhile_eq_self_iff.mpr fun c hc => decide_eq_true fun hzero => ht (hzero ▸ hc)
  unfold dltConfigFileTrimLine
  rcases hread with rfl | rfl
  · rw [hall _ hzero]
  · rw [hall _ (by
      intro hmem
      rcases mem_append.mp hmem with h | h
      · exact hzero h
      · exact absurd (mem_singleton.mp h) (by decide)), filter_append]
    exact append_nil _

theorem configFileLine_interspersed (h : Interspersed line) (hread : ReadAs line read) (s : ConfigReader) :
    configFileLine s read = s := by
  rcases h with hblank | ⟨c, text, rfl, hc, -⟩
  · have htrim := trimLine_of_readAs hread hblank.not_zero
    rw [filter_blanks hblank] at htrim
    unfold configFileLine
    rw [htrim]
    exact ite_self s
  · have hhead : read.headD 0 = c := by
      rcases hread with rfl | rfl <;> rfl
    unfold configFileLine dltConfigFileIgnoreLine
    rw [hhead, if_pos]
    rcases hc with rfl | rfl <;> rfl

/-- The name of a section is found up to the bracket behind it. -/
theorem sectionNameLoop_name {n : ℕ} (hlen : name.length ≤ n) (hspace : ∀ c ∈ name, isspace c = false)
    (hopen : 91 ∉ name) (hclose : 93 ∉ name) (hzero : 0 ∉ name) (rest : List UInt8) :
    sectionNameLoop n (name ++ 93 :: rest) = name := by
  induction name generalizing n with
  | nil => cases n <;> rfl
  | cons c name ih =>
    obtain ⟨m, rfl⟩ : ∃ m, n = m + 1 := ⟨n - 1, by rw [length_cons] at hlen; omega⟩
    have hc := hspace c mem_cons_self
    have hskip : ¬ (c = 91 ∨ isspace c = true) := by
      rintro (rfl | h)
      · exact hopen mem_cons_self
      · rw [hc] at h
        cases h
    have hbreak : ¬ (c = 93 ∨ c = 10 ∨ c = 0) := by
      rintro (rfl | rfl | rfl)
      · exact hclose mem_cons_self
      · exact absurd hc (by decide)
      · exact hzero mem_cons_self
    rw [cons_append, sectionNameLoop, if_neg hskip, if_neg hbreak,
      ih (by rw [length_cons] at hlen; omega) (fun d hd => hspace d (mem_cons_of_mem c hd))
        (fun h => hopen (mem_cons_of_mem c h)) (fun h => hclose (mem_cons_of_mem c h))
        (fun h => hzero (mem_cons_of_mem c h))]

theorem readLine_newSection (h : EntryText name) :
    dltConfigFileReadLine (91 :: (name ++ [93])) = .newSection name := by
  have hname : sectionNameLoop 99 (name ++ [93]) = name :=
    sectionNameLoop_name (Nat.le_of_lt_succ h.length_lt) h.not_space h.not_open h.not_close h.not_zero []
  have hsection : dltConfigFileLineHasSection (91 :: (name ++ [93])) = true := rfl
  unfold dltConfigFileReadLine dltConfigFileGetSectionNameFromString dltConfigFileEntryMaxLen
  rw [if_pos hsection, sectionNameLoop, if_pos (.inl rfl), hname]

theorem readLine_newData {key value : List UInt8} (hkey : EntryText key) (hvalue : EntryText value) :
    dltConfigFileReadLine (key ++ 61 :: value) = .newData key value := by
  have hsection : dltConfigFileLineHasSection (key ++ 61 :: value) = false := by
    unfold dltConfigFileLineHasSection
    obtain ⟨c, rest, rfl⟩ := exists_cons_of_ne_nil hkey.ne_nil
    rw [cons_append, headD_cons]
    exact decide_eq_false fun hc => hkey.not_open (hc ▸ mem_cons_self)
  have hfields : strtok 61 (key ++ 61 :: value) = [key, value] := by
    rw [strtok_append_cons hkey.not_equals, if_neg hkey.ne_nil, strtok_of_not_mem hvalue.not_equals,
      if_neg hvalue.ne_nil]
    rfl
  have hk : key.take 99 = key := take_of_length_le (Nat.le_of_lt_succ hkey.length_lt)
  have hv : value.take 99 = value := take_of_length_le (Nat.le_of_lt_succ hvalue.length_lt)
  unfold dltConfigFileReadLine dltConfigFileGetKeyValue
  rw [hsection, hfields]
  simp [dltConfigFileEntryMaxLen, hk, hv]

/-- The texts of an item can be printed. -/
def ConfigLine.Fits : ConfigLine → Prop
  | .newSection name => EntryText name
  | .newData key value => EntryText key ∧ EntryText value
  | .invalid => False

/-- The first character of a key does not make the line a comment or an empty line. -/
theorem EntryText.head (h : EntryText text) (rest : List UInt8) :
    (text ++ rest).headD 0 ≠ 35 ∧ (text ++ rest).headD 0 ≠ 59 ∧ (text ++ rest).headD 0 ≠ 10 ∧
      (text ++ rest).headD 0 ≠ 0 := by
  obtain ⟨c, text, rfl⟩ := exists_cons_of_ne_nil h.ne_nil
  obtain ⟨h35, h59⟩ := h.not_comment
  refine ⟨h35, h59, ?_, ?_⟩
  · intro hc
    have hspace := h.not_space c mem_cons_self
    rw [show c = 10 from hc] at hspace
    exact absurd hspace (by decide)
  · intro hc
    exact h.not_zero ((show c = 0 from hc) ▸ mem_cons_self)

/-- A line begins with a blank, or with the first character behind the blanks. -/
theorem headD_blanks {b text read : List UInt8} (hb : Blanks b) (hne : text ≠ []) (hread : ReadAs (b ++ text) read) :
    isspace (read.headD 0) = true ∧ read.headD 0 ≠ 10 ∨ read.headD 0 = text.headD 0 := by
  obtain ⟨c, rest, rfl⟩ := exists_cons_of_ne_nil hne
  cases b with
  | nil =>
    rcases hread with rfl | rfl <;> exact .inr rfl
  | cons d b =>
    have hd := hb d mem_cons_self
    rcases hread with rfl | rfl <;> exact .inl hd

theorem ignoreLine_eq_false {c : UInt8} (h : isspace (read.headD 0) = true ∧ read.headD 0 ≠ 10 ∨ read.headD 0 = c)
    (hc : c ≠ 35 ∧ c ≠ 59 ∧ c ≠ 10 ∧ c ≠ 0) : dltConfigFileIgnoreLine read = false := by
  unfold dltConfigFileIgnoreLine
  generalize read.headD 0 = d at h
  have hne : d ≠ 35 ∧ d ≠ 59 ∧ d ≠ 10 ∧ d ≠ 0 := by
    rcases h with ⟨hspace, hd⟩ | rfl
    · refine ⟨?_, ?_, hd, ?_⟩
      all_goals
        rintro rfl
        exact absurd hspace (by decide)
    · exact hc
  obtain ⟨h1, h2, h3, h4⟩ := hne
  rw [decide_eq_false h1, decide_eq_false h2, decide_eq_false h3, decide_eq_false h4]
  rfl

/-- **A line of the configuration says what was printed.** -/
theorem configFileLine_item (hitem : item.Fits) (h : item.Prints line) (hread : ReadAs line read) (s : ConfigReader) :
    configFileLine s read = storeConfigLine s item := by
  cases h with
  | @newSection b1 b2 b3 b4 name h1 h2 h3 h4 =>
    have hname : EntryText name := hitem
    have hzero : 0 ∉ b1 ++ [91] ++ b2 ++ name ++ b3 ++ [93] ++ b4 := by
      simp only [mem_append, mem_singleton, not_or]
      exact ⟨⟨⟨⟨⟨⟨h1.not_zero, by decide⟩, h2.not_zero⟩, hname.not_zero⟩, h3.not_zero⟩, by decide⟩, h4.not_zero⟩
    have htrim : dltConfigFileTrimLine read = 91 :: (name ++ [93]) := by
      rw [trimLine_of_readAs hread hzero]
      simp only [filter_append, filter_blanks h1, filter_blanks h2, filter_blanks h3, filter_blanks h4,
        hname.filter, nil_append, append_nil]
      rfl
    have hhead := @headD_blanks b1 ([91] ++ (b2 ++ name ++ b3 ++ [93] ++ b4)) read h1 (by simp)
      (by simpa only [append_assoc] using hread)
    have hopen : (91 : UInt8) ≠ 35 ∧ (91 : UInt8) ≠ 59 ∧ (91 : UInt8) ≠ 10 ∧ (91 : UInt8) ≠ 0 := by decide
    unfold configFileLine
    rw [ignoreLine_eq_false hhead hopen, htrim, readLine_newSection hname]
    rfl
  | @newData b1 b2 b3 b4 key value h1 h2 h3 h4 =>
    obtain ⟨hkey, hvalue⟩ : EntryText key ∧ EntryText value := hitem
    have hzero : 0 ∉ b1 ++ key ++ b2 ++ [61] ++ b3 ++ value ++ b4 := by
      simp only [mem_append, mem_singleton, not_or]
      exact ⟨⟨⟨⟨⟨⟨h1.not_zero, hkey.not_zero⟩, h2.not_zero⟩, by decide⟩, h3.not_zero⟩, hvalue.not_zero⟩,
        h4.not_zero⟩
    have htrim : dltConfigFileTrimLine read = key ++ 61 :: value := by
      rw [trimLine_of_readAs hread hzero]
      simp only [filter_append, filter_blanks h1, filter_blanks h2, filter_blanks h3, filter_blanks h4,
        hkey.filter, hvalue.filter, nil_append, append_nil, append_assoc]
      rfl
    have hhead := @headD_blanks b1 (key ++ (b2 ++ [61] ++ b3 ++ value ++ b4)) read h1
      (by simp [hkey.ne_nil]) (by simpa only [append_assoc] using hread)
    unfold configFileLine
    rw [ignoreLine_eq_false hhead (hkey.head _), htrim, readLine_newData hkey hvalue]
    rfl

/-! ## The text -/

theorem break_not_mem_interspersed (h : Interspersed line) : 10 ∉ line := by
  rcases h with hblank | ⟨c, text, rfl, hc, htext⟩
  · exact fun hmem => (hblank 10 hmem).2 rfl
  · intro hmem
    rcases mem_cons.mp hmem with heq | hin
    · rw [← heq] at hc
      exact absurd hc (by decide)
    · exact htext hin

theorem Blanks.not_break (h : Blanks text) : 10 ∉ text := fun hmem => (h 10 hmem).2 rfl

theorem EntryText.not_break (h : EntryText text) : 10 ∉ text := fun hmem =>
  absurd (h.not_space 10 hmem) (by decide)

/-- A line of the configuration has no line break, and it is not empty. -/
theorem break_not_mem_item (hitem : item.Fits) (h : item.Prints line) : 10 ∉ line ∧ line ≠ [] := by
  cases h with
  | @newSection b1 b2 b3 b4 name h1 h2 h3 h4 =>
    have hname : EntryText name := hitem
    refine ⟨?_, by simp⟩
    simp only [mem_append, mem_singleton, not_or]
    exact ⟨⟨⟨⟨⟨⟨h1.not_break, by decide⟩, h2.not_break⟩, hname.not_break⟩, h3.not_break⟩, by decide⟩,
      h4.not_break⟩
  | @newData b1 b2 b3 b4 key value h1 h2 h3 h4 =>
    obtain ⟨hkey, hvalue⟩ : EntryText key ∧ EntryText value := hitem
    refine ⟨?_, by simp⟩
    simp only [mem_append, mem_singleton, not_or]
    exact ⟨⟨⟨⟨⟨⟨h1.not_break, hkey.not_break⟩, h2.not_break⟩, by decide⟩, h3.not_break⟩, hvalue.not_break⟩,
      h4.not_break⟩

/-- What is read behind a line that fills the buffer does nothing. -/
theorem foldl_rest {more : List (List UInt8)} (h : ∀ piece ∈ more, piece <:+: [10]) (s : ConfigReader) :
    more.foldl configFileLine s = s := by
  induction more with
  | nil => rfl
  | cons piece more ih =>
    have hpiece : configFileLine s piece = s := by
      have hcases : piece = [] ∨ piece = [10] := by
        have hsub := (h piece mem_cons_self).sublist
        rwa [sublist_singleton] at hsub
      rcases hcases with rfl | rfl <;> rfl
    rw [foldl_cons, hpiece, ih fun p hp => h p (mem_cons_of_mem piece hp)]

/-- A line with its line break is read as one, and what follows it is read behind it. -/
theorem readLines_foldl_cons {rest : List UInt8} (hbreak : 10 ∉ line)
    (hlen : line.length < dltConfigFileLineMaxLen) (s : ConfigReader) :
    ∃ read, ReadAs line read ∧ (readLines dltConfigFileLineMaxLen (line ++ 10 :: rest)).foldl configFileLine s =
      (readLines dltConfigFileLineMaxLen rest).foldl configFileLine (configFileLine s read) := by
  obtain ⟨more, hlines, hmore⟩ := @readLines_line dltConfigFileLineMaxLen line (by decide) hbreak rest
  have hpieces : ReadAs line ((line ++ [10]).take (dltConfigFileLineMaxLen - 1)) ∧
      (line ++ [10]).drop (dltConfigFileLineMaxLen - 1) <:+: [10] := by
    by_cases hfull : line.length = dltConfigFileLineMaxLen - 1
    · rw [take_left' hfull, drop_left' hfull]
      exact ⟨.inl rfl, infix_refl _⟩
    · have hall : (line ++ [10]).length ≤ dltConfigFileLineMaxLen - 1 := by
        rw [length_append, length_singleton]
        omega
      rw [take_of_length_le hall, drop_eq_nil_of_le hall]
      exact ⟨.inr rfl, nil_infix⟩
  refine ⟨_, hpieces.1, ?_⟩
  rw [hlines, foldl_cons, foldl_append, foldl_rest fun piece hp => (hmore piece hp).trans hpieces.2]

theorem readLines_foldl_last (hbreak : 10 ∉ line) (hlen : line.length < dltConfigFileLineMaxLen)
    (s : ConfigReader) :
    (readLines dltConfigFileLineMaxLen line).foldl configFileLine s = configFileLine s line := by
  by_cases hnil : line = []
  · rw [hnil]
    rfl
  · rw [readLines_last (by decide) hbreak hnil (Nat.le_sub_one_of_lt hlen)]
    rfl

theorem textOf_cons (h : TextOf (line :: lines) text) :
    (∃ rest, text = line ++ 10 :: rest ∧ TextOf lines rest) ∨ (lines = [] ∧ text = line) := by
  rcases h with rfl | h
  · exact .inl ⟨lines.flatMap (· ++ [10]), by simp, .inl rfl⟩
  · rcases eq_nil_or_concat lines with rfl | ⟨front, last, rfl⟩
    · rw [flatMap_singleton] at h
      exact .inr ⟨rfl, append_cancel_right h⟩
    · refine .inl ⟨front.flatMap (· ++ [10]) ++ last, ?_, .inr ?_⟩
      · apply @append_cancel_right _ _ [10]
        rw [h]
        simp
      · simp

/-- One line of a text, whose effect is known, and what follows it. -/
theorem foldl_textOf_cons {s s' : ConfigReader} {items : List ConfigLine} (hbreak : 10 ∉ line)
    (hlen : line.length < dltConfigFileLineMaxLen) (heffect : ∀ read, ReadAs line read → configFileLine s read = s')
    (ih : ∀ rest, TextOf lines rest → (readLines dltConfigFileLineMaxLen rest).foldl configFileLine s' =
      items.foldl storeConfigLine s')
    (htext : TextOf (line :: lines) text) :
    (readLines dltConfigFileLineMaxLen text).foldl configFileLine s = items.foldl storeConfigLine s' := by
  rcases textOf_cons htext with ⟨rest, rfl, hrest⟩ | ⟨rfl, rfl⟩
  · obtain ⟨read, hread, hfold⟩ := readLines_foldl_cons hbreak hlen s
    rw [hfold, heffect read hread]
    exact ih rest hrest
  · rw [readLines_foldl_last hbreak hlen, heffect _ (.inl rfl)]
    exact ih [] (.inl rfl)

/-- **A text is read as what its lines say.** -/
theorem readLines_foldl {items : List ConfigLine} (h : PrintsLines items lines) (hitems : ∀ item ∈ items, item.Fits)
    (hlen : ∀ line ∈ lines, line.length < dltConfigFileLineMaxLen) (htext : TextOf lines text) (s : ConfigReader) :
    (readLines dltConfigFileLineMaxLen text).foldl configFileLine s = items.foldl storeConfigLine s := by
  induction h generalizing text s with
  | nil =>
    rcases htext with rfl | htext
    · rfl
    · exact absurd htext (by simp)
  | @other items lines line hline hrest ih =>
    have hrestlen : ∀ l ∈ lines, l.length < dltConfigFileLineMaxLen := fun l hl =>
      hlen l (mem_cons_of_mem line hl)
    exact foldl_textOf_cons (break_not_mem_interspersed hline) (hlen line mem_cons_self)
      (fun read hread => configFileLine_interspersed hline hread s)
      (fun rest hrest => ih hitems hrestlen hrest s) htext
  | @item item items lines line hline hrest ih =>
    have hfits := hitems item mem_cons_self
    have hrestlen : ∀ l ∈ lines, l.length < dltConfigFileLineMaxLen := fun l hl =>
      hlen l (mem_cons_of_mem line hl)
    rw [foldl_cons]
    exact foldl_textOf_cons (break_not_mem_item hfits hline).1 (hlen line mem_cons_self)
      (fun read hread => configFileLine_item hfits hline hread s)
      (fun rest hrest => ih (fun i hi => hitems i (mem_cons_of_mem item hi)) hrestlen hrest _) htext

/-! ## What is stored -/

/-- The keys of a section that are stored. -/
def ConfigFileSection.kept (s : ConfigFileSection) : ConfigFileSection :=
  { s with list := s.list.take (dltConfigFileKeysMax - 1) }

section

variable (front : List ConfigFileSection)
include front

theorem modify_last (s : ConfigFileSection) (f : ConfigFileSection → ConfigFileSection) :
    (front ++ [s]).modify front.length f = front ++ [f s] := by
  induction front with
  | nil => rfl
  | cons t front ih => rw [cons_append, length_cons, modify_succ_cons, ih, cons_append]

theorem setSectionData_last (s : ConfigFileSection) (key value : List UInt8) :
    dltConfigFileSetSectionData (front ++ [s]) key value = front ++
      [if s.list.length + 1 ≥ dltConfigFileKeysMax then s else { s with list := s.list ++ [(key, value)] }] := by
  unfold dltConfigFileSetSectionData
  rw [length_append, length_singleton, Nat.add_sub_cancel, modify_last]

theorem foldl_entries (name : List UInt8) (entries : List (List UInt8 × List UInt8))
    (list : List (List UInt8 × List UInt8)) (hlist : list.length < dltConfigFileKeysMax) :
    (entries.map fun e => ConfigLine.newData e.1 e.2).foldl storeConfigLine
        { file := front ++ [{ name := name, list := list }], isSectionValid := true } =
      { file := front ++ [({ name := name, list := list ++ entries } : ConfigFileSection).kept],
        isSectionValid := true } := by
  induction entries generalizing list with
  | nil =>
    have htake : list.take (dltConfigFileKeysMax - 1) = list := take_of_length_le (Nat.le_sub_one_of_lt hlist)
    simp only [map_nil, foldl_nil, append_nil, kept, htake]
  | cons e entries ih =>
    have hstep : storeConfigLine { file := front ++ [{ name := name, list := list }], isSectionValid := true }
        (.newData e.1 e.2) =
          { file := dltConfigFileSetSectionData (front ++ [{ name := name, list := list }]) e.1 e.2,
            isSectionValid := true } := rfl
    rw [map_cons, foldl_cons, hstep, setSectionData_last]
    dsimp only
    by_cases hfull : list.length + 1 ≥ dltConfigFileKeysMax
    · have hlen : list.length = dltConfigFileKeysMax - 1 := by omega
      rw [if_pos hfull, ih list hlist]
      unfold kept
      dsimp only
      rw [take_left' hlen, take_left' hlen]
    · rw [if_neg hfull, ih (list ++ [e]) (by rw [length_append, length_singleton]; omega),
        append_assoc, singleton_append]

end

theorem sameText_iff {a b : List UInt8} (ha : a.length < dltConfigFileEntryMaxLen) :
    sameText a b dltConfigFileEntryMaxLen = true ↔ a = b := by
  unfold sameText
  rw [decide_eq_true_eq, take_of_length_le (Nat.le_of_lt ha)]
  constructor
  · intro h
    have hlen := congrArg List.length h
    rw [length_take] at hlen
    rw [h, take_of_length_le (by omega)]
  · rintro rfl
    exact (take_of_length_le (Nat.le_of_lt ha)).symm

theorem setSection_new {front : List ConfigFileSection} (hlen : front.length < dltConfigFileSectionsMax)
    (hfront : ∀ s ∈ front, EntryText s.name) (hname : EntryText name)
    (hnew : name ∉ front.map ConfigFileSection.name) :
    dltConfigFileSetSection front name = some (front ++ [{ name := name, list := [] }]) := by
  have hother : ¬ dltConfigFileIsSectionName front name = true := by
    unfold dltConfigFileIsSectionName
    rw [any_eq_true]
    rintro ⟨s, hs, heq⟩
    rw [sameText_iff (hfront s hs).length_lt] at heq
    exact hnew (heq ▸ mem_map_of_mem hs)
  unfold dltConfigFileSetSection
  rw [if_neg (Nat.not_le.mpr hlen), if_neg hother, take_of_length_le (Nat.le_of_lt hname.length_lt)]

/-- **What becomes of a configuration**: of each section the first keys are stored. -/
theorem foldl_configItems (config : List ConfigFileSection) (front : List ConfigFileSection) (valid : Bool)
    (hlen : front.length + config.length ≤ dltConfigFileSectionsMax) (hfront : ∀ s ∈ front, EntryText s.name)
    (hname : ∀ s ∈ config, EntryText s.name)
    (hnodup : (front.map ConfigFileSection.name ++ config.map ConfigFileSection.name).Nodup) :
    ((configItems config).foldl storeConfigLine { file := front, isSectionValid := valid }).file =
      front ++ config.map ConfigFileSection.kept := by
  induction config generalizing front valid with
  | nil => exact (append_nil front).symm
  | cons s config ih =>
    have hs := hname s mem_cons_self
    have hnew : s.name ∉ front.map ConfigFileSection.name := fun hmem =>
      (nodup_append.mp hnodup).2.2 s.name hmem s.name mem_cons_self rfl
    have hset := setSection_new (by rw [length_cons] at hlen; omega) hfront hs hnew
    have hfirst : storeConfigLine { file := front, isSectionValid := valid } (.newSection s.name) =
        { file := front ++ [{ name := s.name, list := [] }], isSectionValid := true } := by
      unfold storeConfigLine
      dsimp only
      rw [hset]
    have hitems : configItems (s :: config) =
        .newSection s.name :: ((s.list.map fun e => ConfigLine.newData e.1 e.2) ++ configItems config) := rfl
    rw [hitems, foldl_cons, hfirst, foldl_append, foldl_entries front s.name s.list [] (by decide),
      nil_append, ih]
    · rw [append_assoc]
      rfl
    · rw [length_append, length_singleton]
      rw [length_cons] at hlen
      omega
    · intro t ht
      rcases mem_append.mp ht with hin | hlast
      · exact hfront t hin
      · rw [mem_singleton.mp hlast]
        exact hs
    · exact fun t ht => hname t (mem_cons_of_mem s ht)
    · rw [map_append, append_assoc]
      exact hnodup

theorem ConfigFits.items (hfits : ConfigFits config) : ∀ item ∈ configItems config, item.Fits := by
  intro item hitem
  obtain ⟨s, hs, hin⟩ := mem_flatMap.mp hitem
  rcases mem_cons.mp hin with rfl | hentry
  · exact hfits.name s hs
  · obtain ⟨e, he, rfl⟩ := mem_map.mp hentry
    exact hfits.entry s hs e he

/-- **A printed configuration is read**: of each section the first keys. -/
theorem readFile_printed (hfits : ConfigFits config) (htext : PrintsText config text) :
    dltConfigFileReadFile text = config.map ConfigFileSection.kept := by
  obtain ⟨lines, hlines, hlen, htext⟩ := htext
  have hall := foldl_configItems config [] false (by
    rw [length_nil, Nat.zero_add]
    exact hfits.sections_le) (by simp) hfits.name hfits.names_nodup
  unfold dltConfigFileReadFile
  rw [readLines_foldl hlines hfits.items hlen htext, hall, nil_append]

/-! ## The questions -/

theorem findSection_kept (hname : ∀ s ∈ config, EntryText s.name) (sectionName : List UInt8) :
    dltConfigFileFindSection (config.map ConfigFileSection.kept) sectionName =
      (config.find? fun s => s.name = sectionName).map ConfigFileSection.kept := by
  induction config with
  | nil => rfl
  | cons s config ih =>
    have hiff := @sameText_iff s.name sectionName (hname s mem_cons_self).length_lt
    have hrest := ih fun t ht => hname t (mem_cons_of_mem s ht)
    unfold dltConfigFileFindSection at hrest ⊢
    rw [map_cons]
    by_cases heq : s.name = sectionName
    · rw [find?_cons_of_pos (by exact hiff.mpr heq), find?_cons_of_pos (by simpa using heq),
        map_some]
    · rw [find?_cons_of_neg (by exact fun h => heq (hiff.mp h)), find?_cons_of_neg (by simpa using heq),
        hrest]

theorem find?_entry {entries : List (List UInt8 × List UInt8)}
    (hentry : ∀ e ∈ entries, EntryText e.1 ∧ EntryText e.2) (key : List UInt8) :
    ((entries.find? fun e => sameText e.1 key dltConfigFileEntryMaxLen).map fun e =>
      e.2.take dltConfigFileEntryMaxLen) = (entries.find? fun e => e.1 = key).map Prod.snd := by
  induction entries with
  | nil => rfl
  | cons e entries ih =>
    obtain ⟨hkey, hvalue⟩ := hentry e mem_cons_self
    have hiff := @sameText_iff e.1 key hkey.length_lt
    by_cases heq : e.1 = key
    · rw [find?_cons_of_pos (by exact hiff.mpr heq), find?_cons_of_pos (by simpa using heq),
        map_some, map_some, take_of_length_le (Nat.le_of_lt hvalue.length_lt)]
    · rw [find?_cons_of_neg (by exact fun h => heq (hiff.mp h)), find?_cons_of_neg (by simpa using heq),
        ih fun f hf => hentry f (mem_cons_of_mem e hf)]

theorem getValue_kept (hfits : ConfigFits config) (sectionName key : List UInt8) :
    dltConfigFileGetValue (config.map ConfigFileSection.kept) sectionName key =
      (config.find? fun s => s.name = sectionName).bind fun s =>
        (s.kept.list.find? fun e => e.1 = key).map Prod.snd := by
  unfold dltConfigFileGetValue
  rw [findSection_kept hfits.name, Option.bind_map]
  cases hfind : config.find? fun s => s.name = sectionName with
  | none => rfl
  | some s =>
    have hs : s ∈ config := mem_of_find?_eq_some hfind
    exact find?_entry (fun e he => hfits.entry s hs e (mem_of_mem_take he)) key

theorem getSectionName_kept (hfits : ConfigFits config) (num : ℤ) :
    dltConfigFileGetSectionName (config.map ConfigFileSection.kept) num =
      if num < 0 then none else (config[num.toNat]?).map ConfigFileSection.name := by
  unfold dltConfigFileGetSectionName
  rw [length_map]
  by_cases hneg : num < 0
  · rw [if_pos (.inl hneg), if_pos hneg]
  rw [if_neg hneg]
  by_cases hbig : num ≥ config.length
  · rw [if_pos (.inr hbig), getElem?_eq_none (by omega), map_none]
  · rw [if_neg (by omega), getElem?_map]
    cases hget : config[num.toNat]? with
    | none => rfl
    | some s =>
      have hs := hfits.name s (mem_of_getElem? hget)
      exact congrArg some (take_of_length_le (Nat.le_of_lt hs.length_lt))

theorem find?_kept_eq_none {s : ConfigFileSection} (hnodup : (s.list.map Prod.fst).Nodup)
    {e : List UInt8 × List UInt8} (he : s.list[dltConfigFileKeysMax - 1]? = some e) :
    (s.kept.list.find? fun f => f.1 = e.1) = none := by
  rw [find?_eq_none]
  intro f hf heq
  obtain ⟨i, hi⟩ := mem_iff_getElem?.mp hf
  unfold kept at hi
  rw [getElem?_take] at hi
  split_ifs at hi with hlt
  have hkeys : (s.list.map Prod.fst)[i]? = (s.list.map Prod.fst)[dltConfigFileKeysMax - 1]? := by
    rw [getElem?_map, getElem?_map, hi, he, map_some, map_some, of_decide_eq_true heq]
  have hbound : i < (s.list.map Prod.fst).length := by
    rw [length_map]
    exact (List.getElem?_eq_some_iff.mp hi).1
  have hi' := (getElem?_inj hbound hnodup).mp hkeys
  omega

/-- **A configuration is read as it was printed if and only if each section has fewer than
`DLT_CONFIG_FILE_KEYS_MAX` keys.** -/
theorem roundTrips_iff {config : List ConfigFileSection} (hfits : ConfigFits config) {text : List UInt8}
    (htext : PrintsText config text) :
    RoundTrips (dltConfigFileReadFile text) config ↔ ∀ s ∈ config, s.list.length < dltConfigFileKeysMax := by
  rw [readFile_printed hfits htext]
  constructor
  · intro hround s hs
    refine Nat.lt_of_not_le fun hmany => ?_
    obtain ⟨e, he⟩ : ∃ e, s.list[dltConfigFileKeysMax - 1]? = some e :=
      ⟨_, getElem?_eq_getElem (Nat.lt_of_lt_of_le (by decide) hmany)⟩
    have hsection : (config.find? fun t => t.name = s.name) = some s := by
      cases hfind : config.find? fun t => t.name = s.name with
      | none =>
        rw [find?_eq_none] at hfind
        exact absurd (decide_eq_true rfl) (hfind s hs)
      | some t =>
        have ht : t.name = s.name := by simpa using find?_some hfind
        rw [inj_on_of_nodup_map hfits.names_nodup (mem_of_find?_eq_some hfind) hs ht]
    have hvalue := hround.value s.name e.1
    rw [getValue_kept hfits, configValue, hsection, bind_some, bind_some,
      find?_kept_eq_none (hfits.keys_nodup s hs) he, map_none] at hvalue
    have hnone := Option.map_eq_none_iff.mp hvalue.symm
    rw [find?_eq_none] at hnone
    exact hnone e (mem_of_getElem? he) (decide_eq_true rfl)
  · intro hfew
    have hkept : ∀ s ∈ config, s.kept = s := by
      intro s hs
      have hlist : s.list.take (dltConfigFileKeysMax - 1) = s.list :=
        take_of_length_le (Nat.le_sub_one_of_lt (hfew s hs))
      unfold kept
      rw [hlist]
    refine { value := ?_, name := getSectionName_kept hfits, count := ?_ }
    · intro sectionName key
      rw [getValue_kept hfits, configValue]
      cases hfind : config.find? fun s => s.name = sectionName with
      | none => rfl
      | some s => rw [bind_some, bind_some, hkept s (mem_of_find?_eq_some hfind)]
    · unfold dltConfigFileGetNumSections
      rw [length_map]

/-! ## A plain print -/

/-- A section or a key without blanks. -/
def ConfigLine.plain : ConfigLine → List UInt8
  | .newSection name => 91 :: (name ++ [93])
  | .newData key value => key ++ 61 :: value
  | .invalid => []

/-- The configuration without blanks and other lines. -/
def plainText (config : List ConfigFileSection) : List UInt8 :=
  (configItems config).flatMap fun item => item.plain ++ [10]

theorem ConfigLine.prints_plain (h : item.Fits) :
    item.Prints item.plain ∧ item.plain.length < dltConfigFileLineMaxLen := by
  have hb : Blanks [] := fun c hc => absurd hc not_mem_nil
  cases item with
  | newSection name =>
    have hlen := EntryText.length_lt h
    refine ⟨by simpa [plain] using Prints.newSection name hb hb hb hb, ?_⟩
    unfold plain
    rw [length_cons, length_append, length_singleton]
    unfold dltConfigFileEntryMaxLen at hlen
    unfold dltConfigFileLineMaxLen
    omega
  | newData key value =>
    have hkey := EntryText.length_lt h.1
    have hvalue := EntryText.length_lt h.2
    refine ⟨by simpa [plain] using Prints.newData key value hb hb hb hb, ?_⟩
    unfold plain
    rw [length_append, length_cons]
    unfold dltConfigFileEntryMaxLen at hkey hvalue
    unfold dltConfigFileLineMaxLen
    omega
  | invalid => exact absurd h id

theorem printsLines_plain {items : List ConfigLine} (h : ∀ item ∈ items, item.Fits) :
    PrintsLines items (items.map ConfigLine.plain) := by
  induction items with
  | nil => exact .nil
  | cons item items ih =>
    exact .item (ConfigLine.prints_plain (h item mem_cons_self)).1
      (ih fun i hi => h i (mem_cons_of_mem item hi))

theorem printsText_plain (hfits : ConfigFits config) : PrintsText config (plainText config) := by
  refine ⟨_, printsLines_plain hfits.items, ?_, .inl ?_⟩
  · intro line hline
    obtain ⟨item, hitem, rfl⟩ := mem_map.mp hline
    exact (ConfigLine.prints_plain (hfits.items item hitem)).2
  · rw [plainText, flatMap_map]

/-- A configuration with one section and `n` keys of one letter. -/
def lettersConfig (n : ℕ) : List ConfigFileSection :=
  [{ name := [65], list := (List.range n).map fun i => ([UInt8.ofNat (97 + i)], [49]) }]

theorem toNat_letter {i : ℕ} (hi : i < dltConfigFileKeysMax) : (UInt8.ofNat (97 + i)).toNat = 97 + i := by
  unfold dltConfigFileKeysMax at hi
  rw [UInt8.toNat_ofNat']
  omega

/-- A character that is no space and not one of the syntax can be printed. -/
theorem entryText_singleton {c : UInt8} (hspace : isspace c = false) (h : c ∉ [0, 61, 91, 93, 35, 59]) :
    EntryText [c] := by
  simp only [mem_cons, not_mem_nil, or_false, not_or] at h
  obtain ⟨h0, h61, h91, h93, h35, h59⟩ := h
  have hout : ∀ d : UInt8, c ≠ d → d ∉ [c] := fun d hd hmem => hd (mem_singleton.mp hmem).symm
  exact {
    ne_nil := cons_ne_nil c []
    length_lt := show 1 < 100 by decide
    not_space := by
      intro d hd
      rw [mem_singleton.mp hd]
      exact hspace
    not_zero := hout 0 h0
    not_equals := hout 61 h61
    not_open := hout 91 h91
    not_close := hout 93 h93
    not_comment := ⟨h35, h59⟩ }

theorem entryText_letter {i : ℕ} (hi : i < dltConfigFileKeysMax) : EntryText [UInt8.ofNat (97 + i)] := by
  have hnat := toNat_letter hi
  generalize UInt8.ofNat (97 + i) = c at hnat
  apply entryText_singleton
  · unfold isspace
    rw [decide_eq_false]
    rintro (rfl | ⟨-, h⟩)
    · have h32 : (32 : UInt8).toNat = 32 := rfl
      omega
    · omega
  · intro hmem
    have hsmall : ∀ d ∈ ([0, 61, 91, 93, 35, 59] : List UInt8), d.toNat < 97 :=
      forall_iff_forall_mem.mp ⟨by decide, by decide, by decide, by decide, by decide, by decide⟩
    have hc := hsmall c hmem
    omega

theorem configFits_letters {n : ℕ} (hn : n ≤ dltConfigFileKeysMax) : ConfigFits (lettersConfig n) := by
  have hname : EntryText [65] := entryText_singleton rfl (by decide)
  have hvalue : EntryText [49] := entryText_singleton rfl (by decide)
  refine { sections_le := ?_, keys_le := ?_, name := ?_, entry := ?_, names_nodup := ?_, keys_nodup := ?_ }
  · exact show 1 ≤ 125 by decide
  · intro s hs
    rw [mem_singleton.mp hs, length_map, length_range]
    exact hn
  · intro s hs
    rw [mem_singleton.mp hs]
    exact hname
  · intro s hs e he
    rw [mem_singleton.mp hs] at he
    obtain ⟨i, hi, rfl⟩ := mem_map.mp he
    exact ⟨entryText_letter (Nat.lt_of_lt_of_le (mem_range.mp hi) hn), hvalue⟩
  · exact nodup_singleton _
  · intro s hs
    rw [mem_singleton.mp hs, map_map]
    refine List.Nodup.map_on ?_ nodup_range
    intro i hi j hj hij
    have hnat := congrArg UInt8.toNat (singleton_inj.mp hij)
    rw [toNat_letter (Nat.lt_of_lt_of_le (mem_range.mp hi) hn),
      toNat_letter (Nat.lt_of_lt_of_le (mem_range.mp hj) hn)] at hnat
    omega

theorem roundTrips_iff_sample :
    RoundTrips (dltConfigFileReadFile (plainText (lettersConfig 2))) (lettersConfig 2) ↔
      ∀ s ∈ lettersConfig 2, s.list.length < dltConfigFileKeysMax :=
  roundTrips_iff (configFits_letters (by decide)) (printsText_plain (configFits_letters (by decide)))

theorem not_roundTrips :
    ConfigFits (lettersConfig 25) ∧ PrintsText (lettersConfig 25) (plainText (lettersConfig 25)) ∧
    ¬ RoundTrips (dltConfigFileReadFile (plainText (lettersConfig 25))) (lettersConfig 25) := by
  have hfits : ConfigFits (lettersConfig 25) := configFits_letters (Nat.le_refl 25)
  refine ⟨hfits, printsText_plain hfits, fun hround => ?_⟩
  have hvalue := hround.value [65] [121]
  revert hvalue
  rw [readFile_printed hfits (printsText_plain hfits)]
  decide +kernel

end Dlt.Shared
