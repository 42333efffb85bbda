import Dlt.Lib.Hex
import Mathlib.Data.List.Infix

/-!
# Text files with fields

* `printDecimal`, `scanDecimal` — the conversion `%d` of `printf` and of `sscanf`.
-/

namespace Dlt.Lib

open List

/-! ## Lines -/

/-- The length of the first line with its line break, at most `n`. -/
def lineLength : ℕ → List UInt8 → ℕ
  | 0, _ => 0
  | _ + 1, [] => 0
  | n + 1, c :: cs => if c = 10 then 1 else lineLength n cs + 1

/-- `fgets` with a buffer of `size` bytes: what is read, and the rest of the file. `none`: the file
has ended. -/
def fgets (size : ℕ) (file : List UInt8) : Option (List UInt8 × List UInt8) :=
  if file = [] then none
  else some (file.take (lineLength (size - 1) file), file.drop (lineLength (size - 1) file))

/-- At most `fuel` calls of `fgets`. -/
def readLinesFuel (size : ℕ) : ℕ → List UInt8 → List (List UInt8)
  | 0, _ => []
  | fuel + 1, file =>
    match fgets size file with
    | none => []
    | some (line, rest) => line :: readLinesFuel size fuel rest

/-- What the calls of `fgets` read up to the end of the file. -/
def readLines (size : ℕ) (file : List UInt8) : List (List UInt8) :=
  readLinesFuel size file.length file

section lines

variable {n size fuel : ℕ} {t file line : List UInt8}

theorem lineLength_le (n : ℕ) (file : List UInt8) :
    lineLength n file ≤ n ∧ lineLength n file ≤ file.length := by
  fun_induction lineLength n file with
  | case1 => exact ⟨le_rfl, Nat.zero_le _⟩
  | case2 => exact ⟨Nat.zero_le _, le_rfl⟩
  | case3 => exact ⟨Nat.le_add_left 1 _, Nat.le_add_left 1 _⟩
  | case4 n c cs _ ih => exact ⟨Nat.succ_le_succ ih.1, Nat.succ_le_succ ih.2⟩

theorem lineLength_pos (hn : 0 < n) (hfile : file ≠ []) : 0 < lineLength n file := by
  cases n with
  | zero => exact absurd hn (Nat.lt_irrefl 0)
  | succ n =>
    cases file with
    | nil => exact absurd rfl hfile
    | cons c cs =>
      rw [lineLength]
      split_ifs <;> exact Nat.succ_pos _

theorem lineLength_line (ht : 10 ∉ t) (n : ℕ) (rest : List UInt8) :
    lineLength n (t ++ 10 :: rest) = min n (t.length + 1) := by
  induction t generalizing n with
  | nil => cases n <;> simp [lineLength]
  | cons c t ih =>
    obtain ⟨hc, ht'⟩ := not_or.mp (mt mem_cons.mpr ht)
    cases n with
    | zero => simp [lineLength]
    | succ n =>
      rw [cons_append, lineLength, if_neg (Ne.symm hc), ih ht', length_cons]
      omega

theorem not_mem_dropLast_take (n : ℕ) (file : List UInt8) :
    10 ∉ (file.take (lineLength n file)).dropLast := by
  fun_induction lineLength n file with
  | case1 => simp
  | case2 => simp
  | case3 => simp
  | case4 n c cs hc ih =>
    rw [take_succ_cons]
    intro hin
    cases htake : cs.take (lineLength n cs) with
    | nil => simp [htake] at hin
    | cons b bs =>
      rw [htake] at hin ih
      rw [dropLast_cons_cons] at hin
      rcases mem_cons.mp hin with heq | hin
      · exact hc heq.symm
      · exact ih hin

theorem readLinesFuel_eq (hsize : 2 ≤ size) {fuel' : ℕ} (h : file.length ≤ fuel)
    (h' : file.length ≤ fuel') : readLinesFuel size fuel file = readLinesFuel size fuel' file := by
  induction fuel generalizing fuel' file with
  | zero =>
    have hnil : file = [] := length_eq_zero_iff.mp (Nat.le_zero.mp h)
    cases fuel' <;> simp [readLinesFuel, fgets, hnil]
  | succ fuel ih =>
    cases fuel' with
    | zero =>
      have hnil : file = [] := length_eq_zero_iff.mp (Nat.le_zero.mp h')
      simp [readLinesFuel, fgets, hnil]
    | succ fuel' =>
      by_cases hnil : file = []
      · simp [readLinesFuel, fgets, hnil]
      · have hpos : 0 < lineLength (size - 1) file := lineLength_pos (by omega) hnil
        simp only [readLinesFuel, fgets, if_neg hnil]
        rw [ih]
        · rw [length_drop]
          omega
        · rw [length_drop]
          omega

@[simp] theorem readLines_nil (size : ℕ) : readLines size [] = [] := rfl

/-- One call of `fgets`, and the others. -/
theorem readLines_cons (hsize : 2 ≤ size) (hfile : file ≠ []) :
    readLines size file = file.take (lineLength (size - 1) file) ::
      readLines size (file.drop (lineLength (size - 1) file)) := by
  have hpos : 0 < lineLength (size - 1) file := lineLength_pos (by omega) hfile
  have hlen := length_pos_iff.mpr hfile
  obtain ⟨m, hm⟩ : ∃ m, file.length = m + 1 := ⟨file.length - 1, by omega⟩
  rw [readLines, hm, readLinesFuel, fgets, if_neg hfile]
  simp only [readLines]
  rw [readLinesFuel_eq hsize]
  · rw [length_drop]
    omega
  · exact le_rfl

/-- **What is read fits into the buffer**, and only its last character can be a line break. -/
theorem mem_readLines (hline : line ∈ readLines size file) :
    line.length ≤ size - 1 ∧ 10 ∉ line.dropLast := by
  unfold readLines at hline
  generalize file.length = fuel at hline
  induction fuel generalizing file with
  | zero => simp [readLinesFuel] at hline
  | succ fuel ih =>
    by_cases hnil : file = []
    · simp [readLinesFuel, fgets, hnil] at hline
    · simp only [readLinesFuel, fgets, if_neg hnil] at hline
      rcases mem_cons.mp hline with rfl | hin
      · refine ⟨?_, not_mem_dropLast_take _ _⟩
        have := (lineLength_le (size - 1) file).1
        rw [length_take]
        omega
      · exact ih hin

/-- **A line is read in pieces**: the first one fills the buffer or is the whole line, and the others
lie behind it. -/
theorem readLines_line (hsize : 2 ≤ size) (ht : 10 ∉ t) (rest : List UInt8) :
    ∃ more, readLines size (t ++ 10 :: rest) =
        (t ++ [10]).take (size - 1) :: (more ++ readLines size rest) ∧
      ∀ piece ∈ more, piece <:+: (t ++ [10]).drop (size - 1) := by
  induction hlen : t.length using Nat.strongRecOn generalizing t with
  | ind m ih =>
    subst hlen
    have hline := lineLength_line ht (size - 1) rest
    rw [readLines_cons hsize (by simp), hline]
    rcases Nat.lt_or_ge t.length (size - 1) with hlt | hge
    · refine ⟨[], ?_, by simp⟩
      rw [min_eq_right hlt, take_of_length_le (l := t ++ [10]) (by
          rw [length_append, length_singleton]
          omega),
        append_cons, take_left' (by simp), drop_left' (by simp), nil_append]
    · rw [min_eq_left (by omega), take_append_of_le_length hge,
        take_append_of_le_length hge, drop_append_of_le_length hge,
        drop_append_of_le_length hge]
      obtain ⟨more, hmore, hin⟩ := ih (t.drop (size - 1)).length
        (by rw [length_drop]; omega) (fun hmem => ht (mem_of_mem_drop hmem)) rfl
      refine ⟨(t.drop (size - 1) ++ [10]).take (size - 1) :: more, by rw [hmore]; rfl, ?_⟩
      intro piece hpiece
      rcases mem_cons.mp hpiece with rfl | hpiece
      · exact (List.take_prefix _ _).isInfix
      · exact (hin piece hpiece).trans (drop_suffix _ _).isInfix

theorem lineLength_of_not_mem (ht : 10 ∉ t) (n : ℕ) : lineLength n t = min n t.length := by
  fun_induction lineLength n t with
  | case1 => rw [Nat.zero_min]
  | case2 => rw [length_nil, Nat.min_zero]
  | case3 n cs => exact absurd mem_cons_self ht
  | case4 n c cs _ ih =>
    rw [ih fun h => ht (mem_cons_of_mem c h), length_cons, Nat.succ_min_succ]

/-- A last line without line break is read as it is, if it fits. -/
theorem readLines_last (hsize : 2 ≤ size) (ht : 10 ∉ t) (hne : t ≠ []) (hlen : t.length ≤ size - 1) :
    readLines size t = [t] := by
  rw [readLines_cons hsize hne, lineLength_of_not_mem ht, min_eq_right hlen, take_length, drop_length,
    readLines_nil]

end lines

/-! ## Fields -/

/-- The results of the successive calls of `strtok` with one delimiter. -/
def strtok (delim : UInt8) (text : List UInt8) : List (List UInt8) :=
  (text.splitOn delim).filter (· ≠ [])

section fields

variable {d : UInt8} {t s : List UInt8} {ts : List (List UInt8)}

@[simp] theorem strtok_nil (d : UInt8) : strtok d [] = [] := rfl

/-- What stands before the first delimiter is a field, if it is not empty. -/
theorem strtok_append_cons (ht : d ∉ t) :
    strtok d (t ++ d :: s) = (if t = [] then [] else [t]) ++ strtok d s := by
  unfold strtok
  rw [splitOn_append_cons_self_of_not_mem ht, filter_cons]
  split_ifs with h h' <;> simp_all

theorem strtok_of_not_mem (ht : d ∉ t) : strtok d t = if t = [] then [] else [t] := by
  unfold strtok
  rw [splitOn_eq_singleton ht, filter_cons]
  split_ifs with h h' <;> simp_all

/-- **The fields that a line was put together from**, each with a delimiter behind it. -/
theorem strtok_fields {fs : List (List UInt8)} (hfs : ∀ f ∈ fs, f ≠ [] ∧ d ∉ f) (s : List UInt8) :
    strtok d (fs.flatMap (· ++ [d]) ++ s) = fs ++ strtok d s := by
  induction fs with
  | nil => rfl
  | cons f fs ih =>
    obtain ⟨hne, hd⟩ := hfs f mem_cons_self
    rw [flatMap_cons, append_assoc, append_assoc, singleton_append,
      strtok_append_cons hd, if_neg hne, ih fun g hg => hfs g (mem_cons_of_mem f hg)]
    rfl

/-- A field at the end of a line, or with a delimiter behind it. -/
theorem strtok_head (hne : t ≠ []) (ht : d ∉ t) (hs : s = [] ∨ ∃ s', s = d :: s') :
    ∃ ts, strtok d (t ++ s) = t :: ts := by
  rcases hs with rfl | ⟨s', rfl⟩
  · exact ⟨[], by rw [append_nil, strtok_of_not_mem ht, if_neg hne]⟩
  · exact ⟨strtok d s', by rw [strtok_append_cons ht, if_neg hne]; rfl⟩

/-- **The first field**: it has no delimiter, and it ends the line or has a delimiter behind it. -/
theorem strtok_eq_cons (h : strtok d s = t :: ts) :
    t ≠ [] ∧ d ∉ t ∧ ∃ front, s = front ++ t ∧ ts = [] ∨
      ∃ s', s = front ++ t ++ d :: s' ∧ strtok d s' = ts := by
  induction hlen : s.length using Nat.strongRecOn generalizing s with
  | ind m ih =>
    subst hlen
    by_cases hd : d ∈ s
    · obtain ⟨a, b, rfl, ha⟩ := eq_append_cons_of_mem hd
      rw [strtok_append_cons ha] at h
      split_ifs at h with hnil
      · have hlt : b.length < (a ++ d :: b).length := by
          simp only [length_append, length_cons]
          omega
        obtain ⟨hne, ht, front, hfront⟩ := ih b.length hlt h rfl
        refine ⟨hne, ht, a ++ d :: front, ?_⟩
        rcases hfront with ⟨rfl, hts⟩ | ⟨s', rfl, hts⟩
        · exact .inl ⟨by simp, hts⟩
        · exact .inr ⟨s', by simp, hts⟩
      · obtain ⟨rfl, hts⟩ := List.cons.inj h
        exact ⟨hnil, ha, [], .inr ⟨b, by simp, hts⟩⟩
    · rw [strtok_of_not_mem hd] at h
      split_ifs at h with hnil
      obtain ⟨rfl, hts⟩ := List.cons.inj h
      exact ⟨hnil, hd, [], .inl ⟨by simp, hts.symm⟩⟩

theorem mem_strtok (ht : t ∈ strtok d s) : t ≠ [] ∧ d ∉ t ∧ t ⊆ s := by
  induction hlen : s.length using Nat.strongRecOn generalizing s with
  | ind m ih =>
    subst hlen
    cases hs : strtok d s with
    | nil => simp [hs] at ht
    | cons f fs =>
      obtain ⟨hne, hd, front, hfront⟩ := strtok_eq_cons hs
      rw [hs] at ht
      rcases mem_cons.mp ht with rfl | hin
      · refine ⟨hne, hd, ?_⟩
        rcases hfront with ⟨rfl, -⟩ | ⟨s', rfl, -⟩
        · exact subset_append_right _ _
        · exact subset_append_of_subset_left _ (subset_append_right _ _)
      · rcases hfront with ⟨-, rfl⟩ | ⟨s', rfl, rfl⟩
        · simp at hin
        · obtain ⟨hne', hd', hsub⟩ := ih s'.length
            (by simp only [length_append, length_cons]; omega) hin rfl
          exact ⟨hne', hd', fun c hc =>
            mem_append_right _ (mem_cons_of_mem d (hsub hc))⟩

/-- **The fields before another one**: they lie before the last character of the line, and together
with the delimiters and the field behind them they are no longer than the line. -/
theorem strtok_init {fs : List (List UInt8)} (h : strtok d s = fs ++ t :: ts) :
    (∀ f ∈ fs, f ⊆ s.dropLast) ∧ (fs.map (·.length + 1)).sum + t.length ≤ s.length := by
  induction fs generalizing s with
  | nil =>
    obtain ⟨-, -, front, hfront⟩ := strtok_eq_cons h
    refine ⟨by simp, ?_⟩
    rcases hfront with ⟨rfl, -⟩ | ⟨s', rfl, -⟩ <;>
      simp only [map_nil, sum_nil, length_append] <;> omega
  | cons f fs ih =>
    rw [cons_append] at h
    obtain ⟨-, -, front, hfront⟩ := strtok_eq_cons h
    rcases hfront with ⟨-, hnil⟩ | ⟨s', rfl, hs'⟩
    · simp at hnil
    · obtain ⟨hsub, hlen⟩ := ih hs'
      have hne : s' ≠ [] := by
        rintro rfl
        simp at hs'
      have hdrop : (front ++ f ++ d :: s').dropLast = front ++ f ++ d :: s'.dropLast := by
        rw [dropLast_append_of_ne_nil (by simp), dropLast_cons_of_ne_nil hne]
      rw [hdrop]
      refine ⟨?_, ?_⟩
      · intro g hg c hc
        rcases mem_cons.mp hg with rfl | hg
        · exact mem_append_left _ (mem_append_right _ hc)
        · exact mem_append_right _ (mem_cons_of_mem d (hsub g hg hc))
      · simp only [map_cons, sum_cons, length_append, length_cons]
        omega

theorem length_strtok_le (d : UInt8) (s : List UInt8) : (strtok d s).length ≤ s.count d + 1 := by
  induction hlen : s.length using Nat.strongRecOn generalizing s with
  | ind m ih =>
    subst hlen
    by_cases hd : d ∈ s
    · obtain ⟨a, b, rfl, ha⟩ := eq_append_cons_of_mem hd
      have hb := ih b.length (by simp only [length_append, length_cons]; omega) b rfl
      rw [strtok_append_cons ha, length_append, count_append, count_cons_self]
      split_ifs <;> simp only [length_nil, length_singleton] <;> omega
    · rw [strtok_of_not_mem hd]
      split_ifs <;> simp

end fields

/-! ## Words -/

/-- The conversion `%ws` of `fscanf`, for a width `w`: the next word, and the rest of the file. `none`: the file has
ended. -/
def scanWord (width : ℕ) (file : List UInt8) : Option (List UInt8 × List UInt8) :=
  let file := file.dropWhile isspace
  if file = [] then none
  else
    let word := (file.takeWhile fun c => !isspace c).take width
    some (word, file.drop word.length)

/-- At most `fuel` conversions. -/
def scanWordsFuel (width : ℕ) : ℕ → List UInt8 → List (List UInt8)
  | 0, _ => []
  | fuel + 1, file =>
    match scanWord width file with
    | none => []
    | some (word, rest) => word :: scanWordsFuel width fuel rest

/-- The words up to the end of the file. -/
def scanWords (width : ℕ) (file : List UInt8) : List (List UInt8) := scanWordsFuel width file.length file

section words

variable {width : ℕ} {word file rest : List UInt8} {c : UInt8}

theorem scanWord_space (hc : isspace c = true) : scanWord width (c :: file) = scanWord width file := by
  unfold scanWord
  rw [dropWhile_cons_of_pos hc]

theorem scanWord_word (hne : word ≠ []) (hword : ∀ b ∈ word, isspace b = false) (hlen : word.length ≤ width)
    (hc : isspace c = true) : scanWord width (word ++ c :: rest) = some (word, c :: rest) := by
  obtain ⟨b, bs, rfl⟩ := exists_cons_of_ne_nil hne
  have hb : isspace b = false := hword b mem_cons_self
  have hdrop : (b :: bs ++ c :: rest).dropWhile isspace = b :: bs ++ c :: rest := by
    rw [cons_append, dropWhile_cons_of_neg (by rw [hb]; exact Bool.false_ne_true)]
  have htake : ((b :: bs ++ c :: rest).takeWhile fun c => !isspace c) = b :: bs := by
    rw [takeWhile_append_of_pos (by intro d hd; rw [hword d hd]; rfl),
      takeWhile_cons_of_neg (by rw [hc]; exact Bool.false_ne_true), append_nil]
  unfold scanWord
  rw [hdrop]
  dsimp only
  rw [if_neg (by exact cons_ne_nil _ _), htake, take_of_length_le hlen, drop_left]

theorem length_scanWord (hw : 0 < width) (h : scanWord width file = some (word, rest)) :
    rest.length < file.length := by
  unfold scanWord at h
  dsimp only at h
  split_ifs at h with hempty
  obtain ⟨b, bs, hcons⟩ := exists_cons_of_ne_nil hempty
  have hb : isspace b = false := by
    have hhead := head_dropWhile_not isspace hempty
    simpa only [hcons, head_cons] using hhead
  have hle : (file.dropWhile isspace).length ≤ file.length := (dropWhile_suffix _).length_le
  simp only [Option.some.injEq, Prod.mk.injEq] at h
  obtain ⟨hword, hrest⟩ := h
  have hpos : 0 < word.length := by
    rw [← hword, hcons, takeWhile_cons_of_pos (by rw [hb]; rfl), length_take, length_cons]
    omega
  rw [← hrest, hword, length_drop]
  rw [hcons, length_cons] at hle ⊢
  omega

theorem scanWordsFuel_eq (hw : 0 < width) {fuel fuel' : ℕ} (h : file.length ≤ fuel) (h' : file.length ≤ fuel') :
    scanWordsFuel width fuel file = scanWordsFuel width fuel' file := by
  induction fuel generalizing file fuel' with
  | zero =>
    have hnil : file = [] := eq_nil_of_length_eq_zero (Nat.le_zero.mp h)
    subst hnil
    cases fuel' with
    | zero => rfl
    | succ fuel' => rfl
  | succ fuel ih =>
    cases fuel' with
    | zero =>
      have hnil : file = [] := eq_nil_of_length_eq_zero (Nat.le_zero.mp h')
      subst hnil
      rfl
    | succ fuel' =>
      unfold scanWordsFuel
      cases hscan : scanWord width file with
      | none => rfl
      | some step =>
        have hlt := length_scanWord hw hscan
        dsimp only
        have hrest : step.2.length ≤ fuel := by omega
        have hrest' : step.2.length ≤ fuel' := by omega
        rw [ih hrest hrest']

theorem scanWords_space (hw : 0 < width) (hc : isspace c = true) :
    scanWords width (c :: file) = scanWords width file := by
  have hfuel : scanWords width file = scanWordsFuel width (file.length + 1) file :=
    scanWordsFuel_eq hw le_rfl (Nat.le_succ _)
  rw [hfuel]
  unfold scanWords
  rw [length_cons, scanWordsFuel, scanWordsFuel, scanWord_space hc]

/-- **The first word is taken off.** -/
theorem scanWords_word (hw : 0 < width) (hne : word ≠ []) (hword : ∀ b ∈ word, isspace b = false)
    (hlen : word.length ≤ width) (hc : isspace c = true) :
    scanWords width (word ++ c :: rest) = word :: scanWords width rest := by
  have hpos : 0 < word.length := length_pos_of_ne_nil hne
  have hlength : (word ++ c :: rest).length = (word.length + rest.length) + 1 := by
    rw [length_append, length_cons, Nat.add_assoc]
  rw [← @scanWords_space width rest c hw hc]
  unfold scanWords
  rw [hlength, scanWordsFuel, scanWord_word hne hword hlen hc]
  dsimp only
  rw [scanWordsFuel_eq hw (by rw [length_cons]; omega) le_rfl]

end words

/-! ## Decimal numbers -/

/-- The conversion `%d` of `printf`. -/
def printDecimal (n : ℤ) : List UInt8 :=
  (if n < 0 then [45] else []) ++ (Nat.toDigits 10 n.natAbs).map fun c => UInt8.ofNat c.toNat

/-- The conversion `%0wu` of `printf`, for a width `w`. -/
def printPadded (width n : ℕ) : List UInt8 :=
  List.replicate (width - (printDecimal n).length) 48 ++ printDecimal n

/-- The conversion `%d` of `sscanf`: the number at the beginning of the text behind white space,
`none` if there is none. A number out of the range of `long` is the bound that it exceeds. -/
def scanDecimal (text : List UInt8) : Option ℤ :=
  let text := text.dropWhile isspace
  let negative := text.headD 0 = 45
  let digits := if text.headD 0 = 45 ∨ text.headD 0 = 43 then text.drop 1 else text
  if (digits.head?.bind (digitValue 10)).isSome then
    let value : ℤ := digitsValue 10 0 digits
    some (i32 (max (-9223372036854775808)
      (min 9223372036854775807 (if negative then -value else value))))
  else none

/-- A number of one digit, with or without a sign, is a field and is read back. -/
theorem printDecimal_spec {n : ℤ} (h : -9 ≤ n) (h' : n ≤ 9) :
    printDecimal n ≠ [] ∧ (printDecimal n).length ≤ 2 ∧ (∀ c ∈ printDecimal n, 45 ≤ c ∧ c < 58) ∧
      scanDecimal (printDecimal n) = some n := by
  have hall : ∀ m : Fin 19, printDecimal ((m.val : ℤ) - 9) ≠ [] ∧
      (printDecimal ((m.val : ℤ) - 9)).length ≤ 2 ∧
        (∀ c ∈ printDecimal ((m.val : ℤ) - 9), 45 ≤ c ∧ c < 58) ∧
          scanDecimal (printDecimal ((m.val : ℤ) - 9)) = some ((m.val : ℤ) - 9) := by
    decide +kernel
  have hn := hall ⟨(n + 9).toNat, by omega⟩
  rwa [show (((n + 9).toNat : ℕ) : ℤ) - 9 = n by omega] at hn

end Dlt.Lib
