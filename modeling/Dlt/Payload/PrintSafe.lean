import Dlt.Payload.Print

/-!
# What printers write

* `Prints` — what a printer leaves as it is: the size of the buffer, that the text ends, and the position in the
  payload. `ensures_printf_of_fits` — a piece that fits.
* `hexLoop_printed`, `charLoop_printed` — the loops over the bytes.
* `dltPrintHexStringDelim_printed`, `dltPrintCharString_printed` — **bytes as digits and as characters**.
* `dltPrintHexStringDelim_prints` — the digits are printed only if they fit.
-/

namespace Dlt.Payload

open Dlt.Lib Dlt.Shared Checked List

variable {data bytes piece t u : List UInt8} {pos size : ℕ} {s s' s'' : PrintState} {err : ℤ → PrintState → Prop}
variable {textlength : ℤ} {ptr : ℕ}

/-! ## Pieces -/

structure Prints (s s' : PrintState) : Prop where
  kept : Kept s.text s'.text
  ptr : s'.ptr = s.ptr
  datalength : s'.datalength = s.datalength

theorem Prints.refl (s : PrintState) : Prints s s := ⟨.refl s.text, rfl, rfl⟩

/-- **Where a piece can be printed.** -/
theorem ensures_printf {ok : Unit → PrintState → Prop} : Ensures (printf pos size piece) ok err s ↔
    ∃ text, snprintf s.text pos size piece = some text ∧ ok () { s with text } := by
  simp [printf]

theorem ensures_printf_of_fits (h : size = 0 ∨ pos + min piece.length (size - 1) < s.text.length) :
    Ensures (printf pos size piece)
      (fun _ s' => Prints s s' ∧ (0 < size → 0 ∈ s'.text.drop pos)) err s := by
  obtain ⟨text, htext⟩ := snprintf_eq_some_iff.mpr h
  exact ensures_printf.mpr ⟨text, htext, ⟨kept_snprintf htext, rfl, rfl⟩, terminated_snprintf htext⟩

theorem ensures_strlen (h : 0 ∈ s.text.drop pos) :
    Ensures (strlen pos) (fun n s' => s' = s ∧ pos + n < s.text.length) err s := by
  obtain ⟨text, htext⟩ := cstring_eq_some_iff.mpr h
  simp only [strlen, ensures_bind, ensures_get, ensures_ofOption, ensures_pure]
  exact ⟨text, htext, trivial, length_lt_of_cstring htext⟩

theorem ensures_appendf (h : 0 ∈ s.text) :
    Ensures (appendf s.text.length piece) (fun _ s' => Prints s s') err s := by
  refine (@ensures_strlen 0 s err h).bind ?_
  rintro n s' ⟨rfl, hn⟩
  exact (ensures_printf_of_fits (.inr (by omega))).mono (fun _ _ h => h.1) fun _ _ h => h

/-! ## Texts -/

/-- A text is written at a position, with a zero behind it. Where there is no text nothing is written. -/
structure PrintedText (pos : ℕ) (text : List UInt8) (s s' : PrintState) : Prop where
  fits : text ≠ [] → pos + text.length < s.text.length
  written : s'.text = if text = [] then s.text else overwrite s.text pos (text ++ [0])
  ptr : s'.ptr = s.ptr
  datalength : s'.datalength = s.datalength

theorem PrintedText.nil (pos : ℕ) (s : PrintState) : PrintedText pos [] s s := ⟨fun h => absurd rfl h, rfl, rfl, rfl⟩

theorem PrintedText.length_eq (h : PrintedText pos t s s') : s'.text.length = s.text.length := by
  rw [h.written]
  split_ifs with ht
  · rfl
  · have hfits := h.fits ht
    exact length_overwrite (by simpa [Nat.lt_iff_add_one_le, Nat.add_assoc] using hfits)

theorem PrintedText.written_of_ne (h : PrintedText pos t s s') (ht : t ≠ []) :
    s'.text = overwrite s.text pos (t ++ [0]) := by
  rw [h.written, if_neg ht]

/-- A block that is replaced by a longer one. -/
theorem overwrite_again {mem fst snd : List UInt8} (hpos : pos ≤ mem.length) (hlong : fst.length ≤ snd.length) :
    overwrite (overwrite mem pos fst) pos snd = overwrite mem pos snd := by
  have hdrop : (overwrite mem pos fst).drop (pos + snd.length) = mem.drop (pos + snd.length) := by
    rw [← drop_drop, drop_overwrite _ hpos, drop_append, drop_eq_nil_of_le hlong, nil_append,
      drop_drop]
    congr 1
    omega
  change (overwrite mem pos fst).take pos ++ snd ++ (overwrite mem pos fst).drop (pos + snd.length) = _
  rw [take_overwrite _ hpos, hdrop]
  rfl

/-- **Two texts, one behind the other**: the zero behind the first one is replaced. -/
theorem PrintedText.append {pos' : ℕ} (h : PrintedText pos t s s') (hpos : pos + t.length = pos')
    (h' : PrintedText pos' u s' s'') : PrintedText pos (t ++ u) s s'' := by
  subst hpos
  refine ⟨fun hne => ?_, ?_, h'.ptr.trans h.ptr, h'.datalength.trans h.datalength⟩
  · by_cases hu : u = []
    · rw [hu, append_nil] at hne ⊢
      exact h.fits hne
    · have hfits := h'.fits hu
      rw [h.length_eq] at hfits
      rw [length_append]
      omega
  by_cases ht : t = []
  · subst ht
    rw [h'.written, h.written]
    simp
  by_cases hu : u = []
  · subst hu
    rw [h'.written, h.written]
    simp
  have hfits := h.fits ht
  have hsplit : overwrite s.text pos (t ++ [0]) = overwrite (overwrite s.text pos t) (pos + t.length) [0] :=
    (overwrite_overwrite [0] (by omega)).symm
  have hlength : (overwrite s.text pos t).length = s.text.length := length_overwrite (by omega)
  rw [h'.written_of_ne hu, h.written_of_ne ht, if_neg (by simp [ht]), hsplit,
    overwrite_again (by omega) (by simp), overwrite_overwrite _ (by omega), append_assoc]

/-- What a piece leaves in its room. -/
theorem ensures_printf_take (hsize : 0 < size) (htake : piece.take (size - 1) = t) (hne : t ≠ [])
    (hfits : pos + t.length < s.text.length) :
    Ensures (printf pos size piece) (fun _ s' => PrintedText pos t s s') err s := by
  have hpoke : snprintf s.text pos size piece = some (overwrite s.text pos (t ++ [0])) := by
    unfold snprintf poke
    rw [if_neg (Nat.pos_iff_ne_zero.mp hsize), htake,
      if_pos (by simpa [Nat.lt_iff_add_one_le, Nat.add_assoc] using hfits)]
  exact ensures_printf.mpr ⟨_, hpoke, fun _ => hfits, (if_neg hne).symm, rfl, rfl⟩

theorem ensures_printf_printed (hsize : piece.length < size) (hne : piece ≠ [])
    (hfits : pos + piece.length < s.text.length) :
    Ensures (printf pos size piece) (fun _ s' => PrintedText pos piece s s') err s :=
  ensures_printf_take (by omega) (take_of_length_le (by omega)) hne hfits

/-- What is left as it is by a text, and that there is a zero behind it. -/
theorem PrintedText.prints (h : PrintedText pos t s s') : Prints s s' ∧ (t ≠ [] → 0 ∈ s'.text.drop pos) := by
  have hzero : t ≠ [] → 0 ∈ s'.text.drop pos := by
    intro hne
    have hfits := h.fits hne
    rw [h.written_of_ne hne, drop_overwrite _ (by omega)]
    simp
  refine ⟨⟨⟨h.length_eq, fun hmem => ?_⟩, h.ptr, h.datalength⟩, hzero⟩
  by_cases hne : t = []
  · rwa [h.written, if_pos hne]
  · exact mem_of_mem_drop (hzero hne)

/-! ## Digits -/

theorem length_hexByte (b : UInt8) : (hexByte b).length = 2 := rfl

theorem hexByte_ne_nil (b : UInt8) : hexByte b ≠ [] := cons_ne_nil _ _

theorem hexString_cons (delim b : UInt8) (bs : List UInt8) :
    hexString delim (b :: bs) = hexByte b ++ bs.flatMap fun c => delim :: hexByte c := by
  induction bs generalizing b with
  | nil => simp [hexString]
  | cons c cs ih => simp [hexString, ih]

theorem length_hexString (delim : UInt8) (bs : List UInt8) : (hexString delim bs).length = 3 * bs.length - 1 := by
  cases bs with
  | nil => rfl
  | cons b bs =>
    rw [hexString_cons, length_append, length_hexByte]
    simp [length_hexByte]
    omega

theorem hexLoop_printed (delim : UInt8) (more : Bool) (bytes : List UInt8)
    (h : bytes = [] ∨ pos + 3 * bytes.length + more.toNat ≤ s.text.length) :
    Ensures (hexLoop delim more pos bytes)
      (fun _ s' => PrintedText pos (if more then bytes.flatMap fun b => delim :: hexByte b
          else hexString delim bytes) s s')
      err s := by
  induction bytes generalizing more pos s with
  | nil =>
    cases more
    · exact PrintedText.nil pos s
    · exact PrintedText.nil pos s
  | cons b rest ih =>
    have hroom := h.resolve_left nofun
    rw [length_cons] at hroom
    have hlength : (hexByte b).length = 2 := length_hexByte b
    cases more with
    | false =>
      rw [Bool.toNat_false] at hroom
      refine (ensures_printf_printed (by omega) (hexByte_ne_nil b) (by omega)).bind ?_
      intro _ s₁ h₁
      refine (ih true (.inr ?_)).mono ?_ fun _ _ h => h
      · rw [h₁.length_eq, Bool.toNat_true]
        omega
      · intro _ s₂ h₂
        simpa [hexString_cons] using h₁.append (by rw [hlength]) h₂
    | true =>
      rw [Bool.toNat_true] at hroom
      refine (ensures_printf_printed (by simp) (by simp) (by rw [length_singleton]; omega)).bind ?_
      intro _ s₁ h₁
      have hlength₁ := h₁.length_eq
      refine (ensures_printf_printed (by omega) (hexByte_ne_nil b) (by omega)).bind ?_
      intro _ s₂ h₂
      refine (ih true (.inr ?_)).mono ?_ fun _ _ h => h
      · rw [h₂.length_eq, h₁.length_eq, Bool.toNat_true]
        omega
      · intro _ s₃ h₃
        have h₂₃ := h₂.append (by omega) h₃
        simpa using h₁.append (by rw [length_singleton]) h₂₃

/-- **Bytes as digits.** -/
theorem dltPrintHexStringDelim_printed (delim : UInt8) (hpositive : 0 < textlength)
    (hlong : (size : ℤ) * 3 ≤ textlength) (hroom : pos + size * 3 ≤ s.text.length)
    (hread : ptr + size ≤ data.length) :
    Ensures (dltPrintHexStringDelim data pos textlength ptr size delim)
      (fun r s' => r = dltReturnOk ∧ PrintedText pos (hexString delim ((data.drop ptr).take size)) s s') err s := by
  have hlength : ((data.drop ptr).take size).length = size := by
    rw [length_take, length_drop]
    omega
  unfold dltPrintHexStringDelim
  rw [if_neg (by omega), if_neg (by omega), ensures_bind, ensures_ofOption, Int.toNat_natCast]
  refine ⟨_, peek_eq hread, (hexLoop_printed delim false _ (.inr ?_)).bind ?_⟩
  · rw [hlength, Bool.toNat_false]
    omega
  · exact fun _ _ h => ⟨rfl, h⟩

/-- **The digits are printed only if they fit**: what is left as it is, and that there is a zero behind them. -/
theorem dltPrintHexStringDelim_prints {size : ℤ} (delim : UInt8)
    (hroom : 0 < size → size * 3 ≤ textlength → pos + size * 3 ≤ s.text.length)
    (hread : 0 ≤ size → ptr + size ≤ data.length) :
    Ensures (dltPrintHexStringDelim data pos textlength ptr size delim)
      (fun _ s' => Prints s s' ∧ (0 < size ∧ size * 3 ≤ textlength → 0 ∈ s'.text.drop pos) ∧
        (¬ (0 < size ∧ size * 3 ≤ textlength) → s' = s)) err s := by
  by_cases hprinted : 0 < size ∧ size * 3 ≤ textlength
  · obtain ⟨n, rfl⟩ := Int.eq_ofNat_of_zero_le hprinted.1.le
    have hroom := hroom hprinted.1 hprinted.2
    have hread := hread hprinted.1.le
    refine (dltPrintHexStringDelim_printed delim (by omega) hprinted.2 (by omega) (by omega)).mono ?_ fun _ _ h => h
    rintro _ s' ⟨-, h⟩
    refine ⟨h.prints.1, fun _ => h.prints.2 ?_, fun hnot => absurd hprinted hnot⟩
    apply ne_nil_of_length_pos
    rw [length_hexString, length_take, length_drop]
    omega
  · have hsame : Ensures (dltPrintHexStringDelim data pos textlength ptr size delim) (fun _ s' => s' = s) err s := by
      unfold dltPrintHexStringDelim
      split_ifs with hwrong hshort
      · exact rfl
      · exact rfl
      · obtain rfl : size = 0 := by omega
        have hread := hread le_rfl
        rw [ensures_bind, ensures_ofOption]
        exact ⟨_, peek_eq (by simpa using hread), rfl⟩
    refine hsame.mono ?_ fun _ _ h => h
    rintro _ s' rfl
    exact ⟨.refl s', fun h => absurd h hprinted, fun _ => rfl⟩

/-! ## Characters -/

theorem charLoop_printed (bytes : List UInt8) (h : bytes = [] ∨ pos + bytes.length < s.text.length) :
    Ensures (charLoop pos bytes) (fun _ s' => PrintedText pos (bytes.map shownChar) s s') err s := by
  induction bytes generalizing pos s with
  | nil => exact PrintedText.nil pos s
  | cons b rest ih =>
    have hroom := h.resolve_left nofun
    rw [length_cons] at hroom
    refine (ensures_printf_printed (by simp) (by simp) (by rw [length_singleton]; omega)).bind ?_
    intro _ s₁ h₁
    refine (ih (.inr ?_)).mono (fun _ _ h₂ => ?_) fun _ _ h => h
    · rw [h₁.length_eq]
      omega
    · simpa using h₁.append (by rw [length_singleton]) h₂

/-- **Bytes as characters.** -/
theorem dltPrintCharString_printed (hpositive : 0 < textlength) (hlong : (size : ℤ) ≤ textlength)
    (hroom : pos + size < s.text.length) (hread : ptr + size ≤ data.length) :
    Ensures (dltPrintCharString data pos textlength ptr size)
      (fun pos' s' => pos' = pos + size ∧ PrintedText pos (((data.drop ptr).take size).map shownChar) s s') err s := by
  have hlength : ((data.drop ptr).take size).length = size := by
    rw [length_take, length_drop]
    omega
  unfold dltPrintCharString
  rw [if_neg (by omega), ensures_bind, ensures_ofOption]
  refine ⟨_, peek_eq hread, (charLoop_printed _ (.inr ?_)).bind ?_⟩
  · rw [hlength]
    exact hroom
  · exact fun _ _ h => ⟨rfl, h⟩

end Dlt.Payload
