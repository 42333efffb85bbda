import Dlt.Payload.PrintSafe

/-!
# The lines of printed bytes

* `dltPrintMixedString_printed` — **the lines are printed if they fit**, with one zero behind them and nothing else.
  `dltPrintMixedString_prints` — what is left as it is.
-/

namespace Dlt.Payload

open Dlt.Lib Dlt.Shared Checked List

variable {textlength : ℤ}

/-! ## The lines -/

def lineSize (html : Bool) : ℕ := 72 + (lineEnd html).length

/-- The bytes that stand in a line. -/
def lineBytes (data : List UInt8) (line : ℕ) : List UInt8 := (data.drop (line * 16)).take 16

/-- The offset of a line, of which there are eight characters. -/
def offsetText (line : ℕ) : List UInt8 := (lineNumber line).take dltCommonHexLinelen

/-- A full line: its offset, the digits of its sixteen bytes, and their characters. -/
def fullLine (html : Bool) (data : List UInt8) (line : ℕ) : List UInt8 :=
  offsetText line ++ hexString 32 (lineBytes data line) ++ ascii " " ++ (lineBytes data line).map shownChar ++
    lineEnd html

/-- The last line: its offset, the digits of the bytes that are left, `xx` for those that are missing, and the
characters. -/
def lastLine (data : List UInt8) (line : ℕ) : List UInt8 :=
  offsetText line ++ hexString 32 (lineBytes data line) ++
    (replicate (16 - (lineBytes data line).length) (ascii " xx")).flatten ++ ascii " " ++
    (lineBytes data line).map shownChar

/-- The full lines, and a last one if bytes are left. -/
def mixedText (html : Bool) (data : List UInt8) : List UInt8 :=
  (range (data.length / 16)).flatMap (fullLine html data) ++
    if data.length % 16 > 0 then lastLine data (data.length / 16) else []

section printing

variable {data other : List UInt8} {pos line lines : ℕ} {s s' : PrintState} {err : ℤ → PrintState → Prop}

theorem length_lineNumber (line : ℕ) :
    (lineNumber line).length = max 6 (Nat.toDigits 16 (line * 16)).length + 2 := by
  have hcolon : (ascii ": ").length = 2 := rfl
  unfold lineNumber digits dltCommonHexChars
  simp only [length_append, length_replicate, length_map]
  omega

theorem length_offsetText (line : ℕ) : (offsetText line).length = 8 := by
  have hlength := length_lineNumber line
  have hlinelen : dltCommonHexLinelen = 8 := rfl
  unfold offsetText
  rw [length_take]
  omega

theorem offsetText_ne_nil (line : ℕ) : offsetText line ≠ [] :=
  ne_nil_of_length_pos (by rw [length_offsetText]; decide)

/-- Below sixteen megabytes the offset is whole. -/
theorem offsetText_eq {line : ℕ} (h : line * 16 < 16777216) : offsetText line = lineNumber line := by
  have hdigits : (Nat.toDigits 16 (line * 16)).length ≤ 6 :=
    (Nat.length_toDigits_le_iff (by decide) (by decide)).mpr h
  have hlength := length_lineNumber line
  have hlinelen : dltCommonHexLinelen = 8 := rfl
  exact take_of_length_le (by omega)

theorem length_lineBytes (data : List UInt8) (line : ℕ) :
    (lineBytes data line).length = min 16 (data.length - line * 16) := by
  unfold lineBytes
  rw [length_take, length_drop]

theorem length_fullLine (html : Bool) (hfull : (line + 1) * 16 ≤ data.length) :
    (fullLine html data line).length = lineSize html := by
  have hbytes := length_lineBytes data line
  have hnumber := length_offsetText line
  have hhex := length_hexString 32 (lineBytes data line)
  have hblank : (ascii " ").length = 1 := rfl
  unfold fullLine lineSize
  simp only [length_append, length_map]
  omega

theorem length_lastLine (hlt : line * 16 < data.length)
    (hrest : data.length < (line + 1) * 16) :
    (lastLine data line).length = 56 + (data.length - line * 16) := by
  have hbytes := length_lineBytes data line
  have hnumber := length_offsetText line
  have hhex := length_hexString 32 (lineBytes data line)
  have hblank : (ascii " ").length = 1 := rfl
  have hfill : (replicate (16 - (lineBytes data line).length) (ascii " xx")).flatten.length =
      3 * (16 - (lineBytes data line).length) := by
    have hfill : (ascii " xx").length = 3 := rfl
    simp [hfill, Nat.mul_comm]
  unfold lastLine
  simp only [length_append, length_map, hfill]
  omega

/-! ## Printing them -/

theorem ensures_printf_offset (hfits : pos + 8 < s.text.length) :
    Ensures (printf pos 9 (lineNumber line)) (fun _ s' => PrintedText pos (offsetText line) s s') err s :=
  ensures_printf_take (by decide) rfl (offsetText_ne_nil line) (by rw [length_offsetText]; exact hfits)

/-- **The full lines.** -/
theorem fullLines_printed (html : Bool) (hlong : 73 ≤ textlength) (lines line : ℕ)
    (hroom : lines = 0 ∨ pos + lineSize html * lines < s.text.length) (hread : (line + lines) * 16 ≤ data.length) :
    Ensures (fullLines data html textlength 0 lines line pos)
      (fun pos' s' => pos' = pos + lineSize html * lines ∧
        PrintedText pos ((range' line lines).flatMap (fullLine html data)) s s') err s := by
  induction lines generalizing line pos s with
  | zero => exact ⟨rfl, PrintedText.nil pos s⟩
  | succ lines ih =>
    have hfits := hroom.resolve_left (Nat.succ_ne_zero lines)
    have hsize : lineSize html = 72 + (lineEnd html).length := rfl
    have hnumber := length_offsetText line
    have hbytes : (lineBytes data line).length = 16 := by
      rw [length_lineBytes]
      omega
    have hhex : (hexString 32 (lineBytes data line)).length = 47 := by rw [length_hexString, hbytes]
    have hblank : (ascii " ").length = 1 := rfl
    have hend : lineEnd html ≠ [] := by cases html <;> decide
    rw [Nat.mul_succ] at hfits
    unfold fullLines dltCommonHexLinelen dltCommonHexChars dltCommonCharlen
    rw [Nat.zero_add]
    refine (ensures_printf_offset (by omega)).bind ?_
    intro _ s₁ h₁
    have hlength₁ := h₁.length_eq
    refine (dltPrintHexStringDelim_printed 32 (by omega) (by omega) (by omega) (by omega)).bind ?_
    rintro _ s₂ ⟨-, h₂⟩
    have hlength₂ := h₂.length_eq
    refine (ensures_printf_printed (by omega) (by decide) (by omega)).bind ?_
    intro _ s₃ h₃
    have hlength₃ := h₃.length_eq
    refine (dltPrintCharString_printed (by omega) (by omega) (by omega) (by omega)).bind ?_
    rintro _ s₄ ⟨rfl, h₄⟩
    have hlength₄ := h₄.length_eq
    refine (ensures_printf_printed (by omega) hend (by omega)).bind ?_
    intro _ s₅ h₅
    have hlength₅ := h₅.length_eq
    refine (ih (line + 1) (.inr (by omega)) (by omega)).mono ?_ fun _ _ h => h
    rintro pos' s₆ ⟨rfl, h₆⟩
    refine ⟨by rw [Nat.mul_succ (lineSize html) lines]; omega, ?_⟩
    change PrintedText (pos + 8) (hexString 32 (lineBytes data line)) s₁ s₂ at h₂
    change PrintedText _ ((lineBytes data line).map shownChar) s₃ s₄ at h₄
    -- The pieces of the line stand one behind the other.
    have h₁₂ := h₁.append (by omega) h₂
    have h₁₃ := h₁₂.append (by simp only [length_append]; omega) h₃
    have h₁₄ := h₁₃.append (by simp only [length_append]; omega) h₄
    have hline : PrintedText pos (fullLine html data line) s s₅ :=
      h₁₄.append (by simp only [length_append, length_map]; omega) h₅
    have hnext : pos + (fullLine html data line).length =
        pos + 8 + (2 * 16 + (16 - 1)) + 1 + 16 + (lineEnd html).length := by
      rw [length_fullLine html (by omega)]
      omega
    simpa [range'_succ] using hline.append hnext h₆

theorem fillLoop_printed (missing : ℕ) (hroom : pos + 3 * missing < s.text.length) :
    Ensures (fillLoop missing pos)
      (fun pos' s' => pos' = pos + 3 * missing ∧ PrintedText pos (replicate missing (ascii " xx")).flatten s s')
      err s := by
  induction missing generalizing pos s with
  | zero => exact ⟨rfl, PrintedText.nil pos s⟩
  | succ missing ih =>
    have hfill : (ascii " xx").length = 3 := rfl
    refine (ensures_printf_printed (by omega) (by decide) (by omega)).bind ?_
    intro _ s₁ h₁
    have hlength₁ := h₁.length_eq
    refine (ih (by omega)).mono ?_ fun _ _ h => h
    rintro pos' s₂ ⟨rfl, h₂⟩
    refine ⟨by omega, ?_⟩
    simpa [replicate_succ] using h₁.append (by omega) h₂

/-- **The last line.** -/
theorem partialLine_printed (hlong : 73 ≤ textlength) {rest : ℕ} (hpositive : 0 < rest) (hrest : rest < 16)
    (hread : line * 16 + rest = data.length) (hroom : pos + 72 < s.text.length) :
    Ensures (partialLine data textlength 0 line rest pos)
        (fun _ s' => PrintedText pos (lastLine data line) s s') err s := by
  have hnumber := length_offsetText line
  have hbytes : (lineBytes data line).length = rest := by
    rw [length_lineBytes]
    omega
  have hhex : (hexString 32 (lineBytes data line)).length = 3 * rest - 1 := by rw [length_hexString, hbytes]
  have hblank : (ascii " ").length = 1 := rfl
  have htake : (data.drop (line * 16)).take rest = lineBytes data line := by
    unfold lineBytes
    rw [take_of_length_le (by rw [length_drop]; omega),
      take_of_length_le (by rw [length_drop]; omega)]
  unfold partialLine dltCommonHexLinelen dltCommonHexChars dltCommonCharlen
  rw [Nat.zero_add]
  refine (ensures_printf_offset (by omega)).bind ?_
  intro _ s₁ h₁
  have hlength₁ := h₁.length_eq
  refine (dltPrintHexStringDelim_printed 32 (by omega) (by omega) (by omega) (by omega)).bind ?_
  rintro _ s₂ ⟨-, h₂⟩
  have hlength₂ := h₂.length_eq
  refine (fillLoop_printed (16 - rest) (by omega)).bind ?_
  rintro _ s₃ ⟨rfl, h₃⟩
  have hlength₃ := h₃.length_eq
  refine (ensures_printf_printed (by omega) (by decide) (by omega)).bind ?_
  intro _ s₄ h₄
  have hlength₄ := h₄.length_eq
  refine (dltPrintCharString_printed (by omega) (by omega) (by omega) (by omega)).bind ?_
  rintro _ s₅ ⟨-, h₅⟩
  rw [htake] at h₂ h₅
  rw [← hbytes] at h₃
  have hfill : (replicate (16 - (lineBytes data line).length) (ascii " xx")).flatten.length = 3 * (16 - rest) := by
    have hxx : (ascii " xx").length = 3 := rfl
    simp [hxx, hbytes, Nat.mul_comm]
  have h₁₂ := h₁.append (by omega) h₂
  have h₁₃ := h₁₂.append (by simp only [length_append]; omega) h₃
  have h₁₄ := h₁₃.append (by simp only [length_append]; omega) h₄
  exact h₁₄.append (by simp only [length_append]; omega) h₅

/-! ## The bytes of the lines -/

theorem hexByte_injective {b c : UInt8} (h : hexByte b = hexByte c) : b = c := by
  have hb := strtol_hexByte b
  have hc := strtol_hexByte c
  unfold hexByte at h
  rw [h, hc] at hb
  exact UInt8.toNat.inj (Int.ofNat.inj hb.symm)

theorem hexString_injective {delim : UInt8} {as bs : List UInt8} (hlength : as.length = bs.length)
    (h : hexString delim as = hexString delim bs) : as = bs := by
  have htail : ∀ {as bs : List UInt8}, as.length = bs.length →
      (as.flatMap fun c => delim :: hexByte c) = (bs.flatMap fun c => delim :: hexByte c) → as = bs := by
    intro as
    induction as with
    | nil => exact fun hlen _ => (length_eq_zero_iff.mp hlen.symm).symm
    | cons a as ih =>
      rintro (_ | ⟨b, bs⟩) hlen heq
      · exact absurd hlen (Nat.succ_ne_zero _)
      · rw [flatMap_cons, flatMap_cons, cons_append, cons_append] at heq
        obtain ⟨hbyte, hrest⟩ := append_inj (cons.inj heq).2 (by rw [length_hexByte, length_hexByte])
        rw [hexByte_injective hbyte, ih (Nat.succ.inj hlen) hrest]
  cases as with
  | nil => exact (length_eq_zero_iff.mp hlength.symm).symm
  | cons a as =>
    obtain ⟨b, bs, rfl⟩ := exists_cons_of_length_eq_add_one hlength.symm
    rw [hexString_cons, hexString_cons] at h
    obtain ⟨hbyte, hrest⟩ := append_inj h (by rw [length_hexByte, length_hexByte])
    rw [hexByte_injective hbyte, htail (Nat.succ.inj hlength) hrest]

theorem lineBytes_of_fullLine {html : Bool} (hlength : data.length = other.length)
    (h : fullLine html data line = fullLine html other line) : lineBytes data line = lineBytes other line := by
  have hbytes : (lineBytes data line).length = (lineBytes other line).length := by
    rw [length_lineBytes, length_lineBytes, hlength]
  unfold fullLine at h
  simp only [append_assoc] at h
  have hhex := (append_inj (append_cancel_left h) (by rw [length_hexString, length_hexString, hbytes])).1
  exact hexString_injective hbytes hhex

theorem lineBytes_of_lastLine (hlength : data.length = other.length)
    (h : lastLine data line = lastLine other line) : lineBytes data line = lineBytes other line := by
  have hbytes : (lineBytes data line).length = (lineBytes other line).length := by
    rw [length_lineBytes, length_lineBytes, hlength]
  unfold lastLine at h
  simp only [append_assoc] at h
  have hhex := (append_inj (append_cancel_left h) (by rw [length_hexString, length_hexString, hbytes])).1
  exact hexString_injective hbytes hhex

/-- Bytes are put together from the bytes of the lines. -/
theorem eq_of_lineBytes (h : ∀ line, lineBytes data line = lineBytes other line) : data = other := by
  have hget : ∀ (l : List UInt8) (i : ℕ), l[i]? = (lineBytes l (i / 16))[i % 16]? := by
    intro l i
    unfold lineBytes
    rw [getElem?_take_of_lt (Nat.mod_lt i (by decide)), getElem?_drop, Nat.div_add_mod']
  apply ext_getElem?
  intro i
  rw [hget data, hget other, h]

theorem length_flatMap_range {f : ℕ → List UInt8} {n size : ℕ} (hf : ∀ i < n, (f i).length = size) :
    ((range n).flatMap f).length = size * n := by
  induction n with
  | zero => rfl
  | succ n ih =>
    rw [range_succ, flatMap_append, length_append, ih fun i hi => hf i (Nat.lt_succ_of_lt hi),
      flatMap_singleton, hf n (Nat.lt_succ_self n), Nat.mul_succ]

/-- Pieces of one size can be told apart. -/
theorem eq_of_flatMap_range {f g : ℕ → List UInt8} {n : ℕ} (hlength : ∀ i < n, (f i).length = (g i).length)
    (h : (range n).flatMap f = (range n).flatMap g) : ∀ i < n, f i = g i := by
  induction n with
  | zero => exact fun i hi => absurd hi (Nat.not_lt_zero i)
  | succ n ih =>
    rw [range_succ, flatMap_append, flatMap_append, flatMap_singleton, flatMap_singleton] at h
    obtain ⟨hinit, hlast⟩ := append_inj' h (hlength n (Nat.lt_succ_self n))
    intro i hi
    rcases Nat.lt_succ_iff_lt_or_eq.mp hi with hlt | rfl
    · exact ih (fun i hi => hlength i (Nat.lt_succ_of_lt hi)) hinit i hlt
    · exact hlast

theorem length_fullLines (html : Bool) (data : List UInt8) :
    ((range (data.length / 16)).flatMap (fullLine html data)).length = lineSize html * (data.length / 16) :=
  length_flatMap_range fun i hi => length_fullLine html (by omega)

theorem length_mixedText (html : Bool) (data : List UInt8) :
    (mixedText html data).length = lineSize html * (data.length / 16) +
      if data.length % 16 > 0 then 56 + data.length % 16 else 0 := by
  have hmod : data.length - data.length / 16 * 16 = data.length % 16 := by omega
  unfold mixedText
  rw [length_append, length_fullLines]
  split_ifs with hrest
  · rw [length_lastLine (by omega) (by omega), hmod]
  · rfl

/-- **The lines determine the bytes.** -/
theorem mixedText_injective {html : Bool} (h : mixedText html data = mixedText html other) : data = other := by
  -- The last line is shorter than a full one, so that the size of the text gives the number of the bytes.
  have hlength : data.length = other.length := by
    have hsize := congrArg length h
    rw [length_mixedText html data, length_mixedText html other] at hsize
    cases html with
    | false =>
      have hline : lineSize false = 73 := rfl
      rw [hline] at hsize
      split_ifs at hsize <;> omega
    | true =>
      have hline : lineSize true = 76 := rfl
      rw [hline] at hsize
      split_ifs at hsize <;> omega
  unfold mixedText at h
  rw [← hlength] at h
  have hother' := length_fullLines html other
  rw [← hlength] at hother'
  obtain ⟨hfull, hlast⟩ := append_inj h (by rw [length_fullLines html data, hother'])
  have hlines := eq_of_flatMap_range (fun i hi => by
    rw [length_fullLine html (by omega), length_fullLine html (by omega)]) hfull
  apply eq_of_lineBytes
  intro line
  rcases Nat.lt_trichotomy line (data.length / 16) with hlt | rfl | hgt
  · exact lineBytes_of_fullLine hlength (hlines line hlt)
  · by_cases hrest : data.length % 16 > 0
    · rw [if_pos hrest, if_pos hrest] at hlast
      exact lineBytes_of_lastLine hlength hlast
    · have hnone : ∀ l : List UInt8, l.length = data.length → lineBytes l (data.length / 16) = [] := by
        intro l hl
        apply length_eq_zero_iff.mp
        rw [length_lineBytes, hl]
        omega
      rw [hnone data rfl, hnone other hlength.symm]
  · have hnone : ∀ l : List UInt8, l.length = data.length → lineBytes l line = [] := by
      intro l hl
      apply length_eq_zero_iff.mp
      rw [length_lineBytes, hl]
      omega
    rw [hnone data rfl, hnone other hlength.symm]

/-! ## The text -/

theorem zero_not_mem_digits (width n : ℕ) : 0 ∉ digits 16 width n := by
  have hchar : ∀ m : Fin 16, UInt8.ofNat (Nat.digitChar m.val).toNat ≠ 0 := by decide
  have hdigits : (0 : UInt8) ∉ (Nat.toDigits 16 n).map fun c => UInt8.ofNat c.toNat := by
    induction n using Nat.strongRecOn with
    | ind n ih =>
      rw [Nat.toDigits_eq_if (by decide)]
      split_ifs with hlt
      · simpa using (hchar ⟨n, hlt⟩).symm
      · rw [map_append, mem_append, not_or]
        exact ⟨ih (n / 16) (by omega), by simpa using (hchar ⟨n % 16, Nat.mod_lt n (by decide)⟩).symm⟩
  unfold digits
  rw [mem_append, not_or]
  exact ⟨fun h => absurd (eq_of_mem_replicate h) (by decide), hdigits⟩

theorem zero_not_mem_hexString (bs : List UInt8) : 0 ∉ hexString 32 bs := by
  have hbyte : ∀ b : UInt8, (0 : UInt8) ∉ hexByte b := by
    intro b
    have hdigit : ∀ m : Fin 16, (0 : UInt8) ≠ hexDigit m.val := by decide
    have hhigh : b.toNat / 16 < 16 := by
      have := b.toNat_lt
      omega
    simp [hexByte, hdigit ⟨_, hhigh⟩, hdigit ⟨b.toNat % 16, Nat.mod_lt _ (by decide)⟩]
  cases bs with
  | nil => simp [hexString]
  | cons b bs =>
    rw [hexString_cons]
    simp [hbyte]

theorem zero_not_mem_shown (bs : List UInt8) : 0 ∉ bs.map shownChar := by
  intro h
  obtain ⟨b, -, hb⟩ := mem_map.mp h
  unfold shownChar at hb
  split_ifs at hb with hhidden
  · exact absurd hb (by decide)
  · exact hhidden (.inl (hb ▸ by decide))

/-- The lines are one text: there is no zero in them. -/
theorem zero_not_mem_mixedText (html : Bool) (data : List UInt8) : 0 ∉ mixedText html data := by
  have hnumber : ∀ line, 0 ∉ offsetText line := by
    intro line h
    have hmem := mem_of_mem_take h
    unfold lineNumber at hmem
    exact (mem_append.mp hmem).elim (zero_not_mem_digits 6 _) (by decide)
  have hfull : ∀ line, 0 ∉ fullLine html data line := by
    intro line
    have hend : 0 ∉ lineEnd html := by cases html <;> decide
    have hblank : 0 ∉ ascii " " := by decide
    simp only [fullLine, mem_append, not_or]
    exact ⟨⟨⟨⟨hnumber line, zero_not_mem_hexString _⟩, hblank⟩, zero_not_mem_shown _⟩, hend⟩
  have hlast : ∀ line, 0 ∉ lastLine data line := by
    intro line
    have hfill : ∀ n, (0 : UInt8) ∉ (replicate n (ascii " xx")).flatten := by
      intro n h
      obtain ⟨piece, hpiece, hmem⟩ := mem_flatten.mp h
      exact absurd (eq_of_mem_replicate hpiece ▸ hmem) (by decide)
    have hblank : 0 ∉ ascii " " := by decide
    simp only [lastLine, mem_append, not_or]
    exact ⟨⟨⟨⟨hnumber line, zero_not_mem_hexString _⟩, hfill _⟩, hblank⟩, zero_not_mem_shown _⟩
  unfold mixedText
  rw [mem_append, not_or]
  refine ⟨fun h => ?_, ?_⟩
  · obtain ⟨line, -, hmem⟩ := mem_flatMap.mp h
    exact hfull line hmem
  · split_ifs
    · exact hlast _
    · exact not_mem_nil

/-- Without room for the lines nothing is done but an error is returned. With room the lines are printed with one zero
behind them; if there are bytes, the lines are then the text in the buffer. -/
def MixedPrinted (html : Bool) (data : List UInt8) (textlength : ℤ) (s : PrintState) (result : ℤ) (s' : PrintState) :
    Prop :=
  textlength < requiredSize html data.length ∧ result < 0 ∧ s' = s ∨
    requiredSize html data.length ≤ textlength ∧ result = dltReturnOk ∧ PrintedText 0 (mixedText html data) s s' ∧
      (data ≠ [] → cstring s'.text 0 = some (mixedText html data))

theorem cstring_of_printed {text : List UInt8} (h : PrintedText 0 text s s') (hne : text ≠ []) (hzero : 0 ∉ text) :
    cstring s'.text 0 = some text := by
  rw [h.written_of_ne hne, overwrite_zero, append_assoc, singleton_append]
  exact cstring_append_zero hzero _

theorem mixedText_ne_nil (html : Bool) (hne : data ≠ []) : mixedText html data ≠ [] := by
  intro h
  have hlength := length_mixedText html data
  have hpositive : 0 < data.length := length_pos_of_ne_nil hne
  have hline : 73 ≤ lineSize html := by cases html <;> decide
  rw [h, length_nil] at hlength
  rcases Nat.eq_zero_or_pos (data.length / 16) with hzero | hpos
  · rw [if_pos (by omega)] at hlength
    omega
  · have := Nat.mul_pos (Nat.lt_of_lt_of_le (by decide) hline) hpos
    omega

theorem mixedPrinted (html : Bool) (hroom : requiredSize html data.length ≤ textlength)
    (h : PrintedText 0 (mixedText html data) s s') : MixedPrinted html data textlength s dltReturnOk s' :=
  .inr ⟨hroom, rfl, h, fun hne => cstring_of_printed h (mixedText_ne_nil html hne) (zero_not_mem_mixedText html data)⟩

/-- **The lines are printed if they fit**, for every room. -/
theorem dltPrintMixedString_mixed (html : Bool) (hroom : textlength ≤ s.text.length) :
    Ensures (dltPrintMixedString data textlength data.length html) (MixedPrinted html data textlength s) err s := by
  have hrequired : requiredSize html data.length = lineSize html * (data.length / 16 + 1) := by
    cases html <;> rfl
  have hline : 73 ≤ lineSize html := by
    cases html <;> decide
  rw [Nat.mul_succ] at hrequired
  unfold dltPrintMixedString
  by_cases hwrong : textlength ≤ 0
  · rw [if_pos hwrong]
    exact .inl ⟨by omega, by decide, rfl⟩
  rw [if_neg hwrong]
  by_cases hshort : textlength < requiredSize html data.length
  · rw [if_pos hshort]
    exact .inl ⟨hshort, by decide, rfl⟩
  rw [if_neg hshort]
  have hrequires := not_lt.mp hshort
  rw [hrequired] at hshort
  unfold dltCommonHexChars
  refine (fullLines_printed html (by omega) (data.length / 16) 0 (.inr (by omega)) (by omega)).bind ?_
  rintro pos s₁ ⟨rfl, h₁⟩
  rw [← range_eq_range'] at h₁
  have hlength := h₁.length_eq
  have hmixed : mixedText html data = (range (data.length / 16)).flatMap (fullLine html data) ++
      if data.length % 16 > 0 then lastLine data (data.length / 16) else [] := rfl
  by_cases hrest : data.length % 16 > 0
  · rw [if_pos hrest]
    refine (partialLine_printed (by omega) hrest (by omega) (by omega) (by omega)).bind ?_
    intro _ s₂ h₂
    rw [if_pos hrest] at hmixed
    exact mixedPrinted html hrequires (hmixed ▸ h₁.append (by rw [length_fullLines]) h₂)
  · rw [if_neg hrest]
    rw [if_neg hrest, append_nil] at hmixed
    exact mixedPrinted html hrequires (hmixed ▸ h₁)

theorem dltPrintMixedString_prints (html : Bool) (hroom : textlength ≤ s.text.length) :
    Ensures (dltPrintMixedString data textlength data.length html) (fun _ s' => Prints s s') err s := by
  refine (dltPrintMixedString_mixed html hroom).mono ?_ fun _ _ h => h
  rintro _ s' (⟨-, -, rfl⟩ | ⟨-, -, h, -⟩)
  · exact .refl s'
  · exact h.prints.1

/-- **The lines are printed if they fit**, each with its whole offset, and they determine the bytes. -/
theorem dltPrintMixedString_printed (html : Bool) {textlength : ℤ} (hdata : data.length ≤ 65535)
    (htext : s.text.length = textlength.toNat) :
    Ensures (dltPrintMixedString data textlength data.length html) (MixedPrinted html data textlength s)
        (fun _ _ => False) s ∧
      (∀ line, line * 16 ≤ data.length → offsetText line = lineNumber line) ∧
      ∀ other : List UInt8, mixedText html other = mixedText html data → other = data :=
  ⟨dltPrintMixedString_mixed html (by omega), fun _ hline => offsetText_eq (by omega),
    fun _ h => mixedText_injective h⟩

theorem dltPrintMixedString_printed_short :
    Ensures (dltPrintMixedString [65, 60] 80 2 false)
        (MixedPrinted false [65, 60] 80 ⟨replicate 80 0, 0, 0⟩) (fun _ _ => False)
        ⟨replicate 80 0, 0, 0⟩ ∧
      (∀ line, line * 16 ≤ 2 → offsetText line = lineNumber line) ∧
      ∀ other : List UInt8, mixedText false other = mixedText false [65, 60] → other = [65, 60] :=
  dltPrintMixedString_printed false (by decide) (by decide)

end printing

end Dlt.Payload
