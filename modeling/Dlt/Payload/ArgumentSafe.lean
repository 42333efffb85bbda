import Dlt.Payload.ArgumentFits
import Dlt.Payload.PrintSafe

/-!
# An argument is printed safely if and only if it fits

* `ensures_readValue`, `ensures_printName`, `ensures_variName`, … — the weakest condition for each step.
* `ensures_dltMessageArgumentPrint` — an argument is printed safely if and only if it fits.
-/

namespace Dlt.Payload

open Dlt.Lib Dlt.Shared Dlt.User Checked List PrintState

variable {env : PrintEnv} {msg : PayloadMessage} {s s' : PrintState} {slot slot' : Slot} {typeInfo n : ℕ}
  {unit : UnitText} {start : List UInt8}
variable {err : ℤ → PrintState → Prop} {length length2 : ℕ}

/-! ## Reading -/

/-- The position and the length that is left are those of the payload. -/
def Within (msg : PayloadMessage) (s : PrintState) : Prop :=
  0 ≤ s.datalength → s.ptr + s.datalength = msg.databuffer.length

/-- An early return leaves a text that ends. -/
def Fails (start : List UInt8) (_ : ℤ) (s : PrintState) : Prop := Kept start s.text

theorem Within.skip (h : Within msg s) (hn : (n : ℤ) ≤ s.datalength) : Within msg (s.skip n) := by
  intro _
  have := h (by omega)
  rw [skip_ptr, skip_datalength]
  omega

theorem Within.ptr_add_le (h : Within msg s) (hn : (n : ℤ) ≤ s.datalength) : s.ptr + n ≤ msg.databuffer.length := by
  have := h (by omega)
  omega

theorem ensures_dltMsgReadValue {ok : Option (List UInt8) → PrintState → Prop} :
    Ensures (dltMsgReadValue msg n) ok err s ↔
      if s.datalength < n then ok none { s with datalength := -1 }
      else s.ptr + n ≤ msg.databuffer.length ∧ ok (some (bytesAt msg s n)) (s.skip n) := by
  unfold dltMsgReadValue
  rw [ensures_bind, ensures_get]
  by_cases hshort : s.datalength < n
  · rw [if_pos hshort, if_pos hshort]
    exact Iff.rfl
  · rw [if_neg hshort, if_neg hshort, ensures_bind, ensures_ofOption]
    constructor
    · rintro ⟨bytes, hread, h⟩
      unfold peek at hread
      split_ifs at hread with hfits
      obtain rfl := Option.some.inj hread
      exact ⟨hfits, h⟩
    · rintro ⟨hfits, h⟩
      exact ⟨_, peek_eq hfits, h⟩

theorem ensures_readValue_iff {ok : List UInt8 → PrintState → Prop} (hkept : Kept start s.text) :
    Ensures (readValue msg n) ok (Fails start) s ↔
      (n ≤ s.datalength → s.ptr + n ≤ msg.databuffer.length ∧ ok (bytesAt msg s n) (s.skip n)) := by
  unfold readValue
  rw [ensures_bind, ensures_dltMsgReadValue]
  by_cases hshort : s.datalength < n
  · rw [if_pos hshort]
    exact ⟨fun _ h => absurd hshort (Int.not_lt.mpr h), fun _ => hkept⟩
  · rw [if_neg hshort]
    exact ⟨fun h _ => h, fun h => h (Int.not_lt.mp hshort)⟩

theorem ensures_readValue {ok : List UInt8 → PrintState → Prop} (hs : Within msg s) (hkept : Kept start s.text) :
    Ensures (readValue msg n) ok (Fails start) s ↔ (n ≤ s.datalength → ok (bytesAt msg s n) (s.skip n)) := by
  rw [ensures_readValue_iff hkept]
  exact imp_congr_right fun h => ⟨fun h' => h'.2, fun h' => ⟨hs.ptr_add_le h, h'⟩⟩

theorem ensures_readLength {ok : ℕ → PrintState → Prop} (hs : Within msg s) (hkept : Kept start s.text) :
    Ensures (readLength msg) ok (Fails start) s ↔ (2 ≤ s.datalength → ok (lengthAt msg s) (s.skip 2)) := by
  unfold readLength
  rw [ensures_bind, ensures_readValue hs hkept]
  exact Iff.rfl

variable {ok : Unit → PrintState → Prop}

theorem ensures_require (hkept : Kept start s.text) :
    Ensures (require n) ok (Fails start) s ↔ ((n : ℤ) ≤ s.datalength → ok () s) := by
  unfold require
  rw [ensures_bind, ensures_get]
  by_cases hshort : s.datalength < n
  · rw [if_pos hshort]
    exact ⟨fun _ h => absurd hshort (Int.not_lt.mpr h), fun _ => hkept⟩
  · rw [if_neg hshort]
    exact ⟨fun h _ => h, fun h => h (Int.not_lt.mp hshort)⟩

theorem ensures_skip : Ensures (skip n) ok err s ↔ ok () (s.skip n) := Iff.rfl

/-! ## Slots -/

/-- The slot ends where the text buffer ends, or it begins behind it. -/
structure InBuffer (slot : Slot) (length : ℕ) : Prop where
  fits : slot.pos + slot.room = length ∨
    ∃ k, 0 < k ∧ k < 65536 ∧ slot.pos = length + k ∧ slot.room = 18446744073709551616 - k

theorem sizeSub_of_le {room k : ℕ} (h : k ≤ room) (hlt : room < 18446744073709551616) : sizeSub room k = room - k := by
  unfold sizeSub
  rw [Int.emod_eq_of_lt (by omega) (by omega)]
  omega

theorem inBuffer_behindName (hslot : slot.pos + slot.room = length) (hlt : length < 18446744073709551616)
    (hlength2 : length2 < 65536) : InBuffer (slot.behindName env length2 length2) length := by
  unfold Slot.behindName
  split_ifs
  · refine ⟨?_⟩
    dsimp only
    by_cases hle : length2 ≤ slot.room
    · rw [sizeSub_of_le hle (by omega)]
      exact .inl (by omega)
    · refine .inr ⟨length2 - slot.room, by omega, by omega, by omega, ?_⟩
      unfold sizeSub
      omega
  · exact ⟨.inl hslot⟩

/-! ## Attributes -/

/-- What is known where a value begins. -/
structure ValueBegins (msg : PayloadMessage) (start : List UInt8) (s : PrintState) : Prop where
  kept : Kept start s.text
  within : Within msg s

theorem ensures_printName {ok : Slot → PrintState → Prop} {taken : ℕ}
    (hslot : slot.pos + slot.room = s.text.length) (hroom : 0 < slot.room) :
    Ensures (printName env msg slot length2 taken) ok err s ↔ NameFits env msg s length2 ∧
      ok (slot.behindName env length2 taken) { s with text := nameText env msg s slot length2 } := by
  unfold printName
  by_cases hnamed : Named env length2
  · rw [if_pos (show env.withAttributes = true ∧ length2 > 1 from hnamed)]
    unfold Slot.behindName nameText NameFits
    rw [if_pos hnamed, if_pos hnamed, ensures_bind, ensures_get, ensures_bind, ensures_ofOption]
    constructor
    · rintro ⟨name, hname, h⟩
      rw [ensures_bind, ensures_printf] at h
      obtain ⟨text, htext, h⟩ := h
      rw [hname, Option.getD_some, htext]
      exact ⟨fun _ => cstring_eq_some_iff.mp ⟨name, hname⟩, h⟩
    · rintro ⟨hzero, h⟩
      obtain ⟨name, hname⟩ := cstring_eq_some_iff.mpr (hzero hnamed)
      refine ⟨name, hname, ?_⟩
      obtain ⟨text, htext⟩ := (@snprintf_eq_some_iff s.text (name ++ ascii ":") slot.pos slot.room).mpr
        (.inr (by omega))
      rw [hname, Option.getD_some, htext] at h
      rw [ensures_bind, ensures_printf]
      exact ⟨text, htext, h⟩
  · rw [if_neg (show ¬ (env.withAttributes = true ∧ length2 > 1) from hnamed)]
    unfold Slot.behindName nameText NameFits
    rw [if_neg hnamed, if_neg hnamed]
    exact ⟨fun h => ⟨fun h' => absurd h' hnamed, h⟩, fun h => h.2⟩

theorem kept_nameText (s : PrintState) (slot : Slot) (length2 : ℕ) :
    Kept s.text (nameText env msg s slot length2) := by
  unfold nameText
  split_ifs
  · cases htext : snprintf s.text slot.pos slot.room ((cstring msg.databuffer s.ptr).getD [] ++ ascii ":") with
    | none => exact .refl s.text
    | some text => exact kept_snprintf htext
  · exact .refl s.text

theorem lengthAt_lt (msg : PayloadMessage) (s : PrintState) : lengthAt msg s < 65536 := by
  have hlength : (bytesAt msg s 2).length ≤ 2 := length_take_le _ _
  have hpow : 256 ^ (bytesAt msg s 2).length ≤ 65536 := Nat.pow_le_pow_right (n := 256) (by decide) hlength
  unfold lengthAt dltEndianGet
  split_ifs
  · have := ofLeBytes_lt (bytesAt msg s 2).reverse
    rw [length_reverse] at this
    exact Nat.lt_of_lt_of_le this hpow
  · exact Nat.lt_of_lt_of_le (ofLeBytes_lt _) hpow

/-- **The name of an argument.** -/
theorem ensures_variName {ok : Slot → PrintState → Prop} {spared : ℕ} (hs : ValueBegins msg start s)
    (hslot : slot.pos + slot.room = s.text.length) (hroom : 0 < slot.room) :
    Ensures (variName env msg typeInfo slot spared) ok (Fails start) s ↔
      VariFits env msg typeInfo slot spared ok s := by
  unfold variName VariFits
  by_cases hvari : HasFlag typeInfo dltTypeInfoVari
  · rw [if_pos hvari, if_pos hvari, ensures_bind, ensures_readLength hs.within hs.kept]
    refine imp_congr_right fun hlength => ?_
    rw [ensures_bind, ensures_require (s := s.skip 2) hs.kept]
    refine imp_congr_right fun hname => ?_
    rw [ensures_bind, ensures_printName (s := s.skip 2) hslot hroom]
    exact Iff.rfl
  · rw [if_neg hvari, if_neg hvari]
    exact Iff.rfl

/-- **The name and the unit of an argument.** -/
theorem ensures_variNameUnit {ok : Slot × UnitText → PrintState → Prop} (hs : ValueBegins msg start s)
    (hslot : slot.pos + slot.room = s.text.length) (hroom : 0 < slot.room) :
    Ensures (variNameUnit env msg typeInfo slot) ok (Fails start) s ↔
      VariUnitFits env msg typeInfo slot (fun slot unit s => ok (slot, unit) s) s := by
  unfold variNameUnit VariUnitFits
  by_cases hvari : HasFlag typeInfo dltTypeInfoVari
  · rw [if_pos hvari, if_pos hvari, ensures_bind, ensures_readLength hs.within hs.kept]
    refine imp_congr_right fun hlength2 => ?_
    have hwithin : Within msg (s.skip 2) := hs.within.skip hlength2
    rw [ensures_bind, ensures_readLength hwithin (by exact hs.kept)]
    refine imp_congr_right fun hlength3 => ?_
    dsimp only
    rw [ensures_bind, ensures_require (s := (s.skip 2).skip 2) hs.kept]
    refine imp_congr_right fun hname => ?_
    rw [ensures_bind, ensures_printName (s := (s.skip 2).skip 2) hslot hroom]
    refine and_congr_right fun hfits => ?_
    have hkept : Kept start (((s.skip 2).skip 2).behindName env msg slot (lengthAt msg s)).text :=
      hs.kept.trans (kept_nameText ((s.skip 2).skip 2) slot (lengthAt msg s))
    rw [ensures_bind, ensures_skip, ensures_bind]
    exact ensures_require hkept
  · rw [if_neg hvari, if_neg hvari]
    exact Iff.rfl

/-! ## Congruence -/

theorem ValueBegins.prints (hs : ValueBegins msg start s) (h : Prints s s') : ValueBegins msg start s' := by
  refine ⟨hs.kept.trans h.kept, fun hdata => ?_⟩
  rw [h.ptr, h.datalength]
  exact hs.within (h.datalength ▸ hdata)

structure BehindName (msg : PayloadMessage) (start : List UInt8) (length : ℕ) (slot : Slot) (s : PrintState) : Prop
    extends ValueBegins msg start s where
  length_eq : s.text.length = length
  length_lt : length < 18446744073709551616
  inBuffer : InBuffer slot length

section

variable (hs : ValueBegins msg start s)
include hs

theorem ValueBegins.skip (hn : (n : ℤ) ≤ s.datalength) : ValueBegins msg start (s.skip n) :=
  ⟨hs.kept, hs.within.skip hn⟩

theorem ValueBegins.behindName (hn : (length2 : ℤ) ≤ s.datalength) :
    ValueBegins msg start (s.behindName env msg slot length2) :=
  ⟨hs.kept.trans (kept_nameText s slot length2), hs.within.skip hn⟩

theorem variFits_congr {P Q : Slot → PrintState → Prop} (hslot : slot.pos + slot.room = s.text.length)
    (hlt : s.text.length < 18446744073709551616)
    (h : ∀ slot' s', BehindName msg start s.text.length slot' s' → (P slot' s' ↔ Q slot' s')) :
    VariFits env msg typeInfo slot 0 P s ↔ VariFits env msg typeInfo slot 0 Q s := by
  unfold VariFits
  split_ifs
  · refine imp_congr_right fun hlength => imp_congr_right fun hname => and_congr_right fun _ => h _ _ ?_
    exact { toValueBegins := (hs.skip hlength).behindName hname
            length_eq := (kept_nameText (s.skip 2) slot (lengthAt msg s)).length
            length_lt := hlt
            inBuffer := inBuffer_behindName hslot hlt (lengthAt_lt msg s) }
  · exact h slot s { toValueBegins := hs, length_eq := rfl, length_lt := hlt, inBuffer := ⟨.inl hslot⟩ }

theorem variFits_congr_of_begins {P Q : Slot → PrintState → Prop} {spared : ℕ}
    (h : ∀ slot' s', ValueBegins msg start s' → (P slot' s' ↔ Q slot' s')) :
    VariFits env msg typeInfo slot spared P s ↔ VariFits env msg typeInfo slot spared Q s := by
  unfold VariFits
  split_ifs
  · refine imp_congr_right fun hlength => imp_congr_right fun hname => and_congr_right fun _ => h _ _ ?_
    exact (hs.skip hlength).behindName hname
  · exact h slot s hs

theorem variUnitFits_congr {P Q : Slot → UnitText → PrintState → Prop}
    (hslot : slot.pos + slot.room = s.text.length) (hlt : s.text.length < 18446744073709551616)
    (h : ∀ slot' unit s', BehindName msg start s.text.length slot' s' → (P slot' unit s' ↔ Q slot' unit s')) :
    VariUnitFits env msg typeInfo slot P s ↔ VariUnitFits env msg typeInfo slot Q s := by
  unfold VariUnitFits
  split_ifs
  · refine imp_congr_right fun hlength2 => imp_congr_right fun hlength3 => imp_congr_right fun hname => ?_
    refine and_congr_right fun _ => imp_congr_right fun hunit => h _ _ _ ?_
    have hbegins := (@ValueBegins.behindName env _ _ slot _ _ ((hs.skip hlength2).skip hlength3) hname).skip hunit
    exact { toValueBegins := hbegins
            length_eq := (kept_nameText ((s.skip 2).skip 2) slot (lengthAt msg s)).length
            length_lt := hlt
            inBuffer := inBuffer_behindName hslot hlt (lengthAt_lt msg s) }
  · exact h slot noUnit s { toValueBegins := hs, length_eq := rfl, length_lt := hlt, inBuffer := ⟨.inl hslot⟩ }

end

/-! ## Values -/

/-- What is left when the value was printed. -/
def finishArgument (env : PrintEnv) (msg : PayloadMessage) (r : Slot × UnitText) : Printer Unit := do
  require 0
  printUnit env msg r.1 r.2

/-- The argument was printed, and `ok` holds behind it. -/
def Printed (env : PrintEnv) (msg : PayloadMessage) (start : List UInt8) (ok : PrintState → Prop)
    (r : Slot × UnitText) (s : PrintState) : Prop :=
  Ensures (finishArgument env msg r) (fun _ s' => ok s') (Fails start) s

section values

-- Whatever is wanted behind an argument, it follows from what is known there.
variable {ok : PrintState → Prop} (hok : ∀ s', ValueBegins msg start s' → ok s')

include hok

/-- **The unit.** -/
theorem ensures_printUnit (hs : BehindName msg start n slot s) :
    Ensures (printUnit env msg slot unit) (fun _ s' => ok s') (Fails start) s ↔
      UnitFits env msg slot unit False s.text := by
  unfold printUnit UnitFits
  by_cases hunit : env.withAttributes = true ∧ unit.len > 1
  · rw [if_pos hunit, ensures_bind]
    constructor
    · intro h _ _
      unfold strlen at h
      rw [ensures_bind, ensures_get, ensures_bind, ensures_ofOption] at h
      obtain ⟨text, htext, h⟩ := h
      rw [ensures_pure, ensures_bind, ensures_ofOption] at h
      obtain ⟨name, hname, -⟩ := h
      exact ⟨.inr (cstring_eq_some_iff.mp ⟨text, htext⟩), cstring_eq_some_iff.mp ⟨name, hname⟩⟩
    · intro h
      obtain ⟨hzero, hsrc⟩ := h hunit.1 hunit.2
      obtain ⟨name, hname⟩ := cstring_eq_some_iff.mpr hsrc
      refine (ensures_strlen (hzero.resolve_left id)).mono ?_ fun _ _ h => h
      rintro length s' ⟨rfl, hlength⟩
      rw [ensures_bind, ensures_ofOption]
      refine ⟨name, hname, ?_⟩
      have hfits := hs.inBuffer.fits.resolve_right (by
        rintro ⟨k, -, -, hpos, -⟩
        have := hs.length_eq
        omega)
      have hlength_eq := hs.length_eq
      have hroom : sizeSub slot.room length = slot.room - length :=
        sizeSub_of_le (by omega) (by have := hs.length_lt; omega)
      refine (ensures_printf_of_fits (.inr ?_)).mono ?_ fun _ _ h => h
      · rw [hroom]
        omega
      · rintro - s₁ ⟨hprints, -⟩
        exact hok _ (hs.toValueBegins.prints hprints)
  · rw [if_neg hunit]
    exact ⟨fun _ h h' => absurd ⟨h, h'⟩ hunit, fun _ => hok s hs.toValueBegins⟩

theorem printed_iff (hs : BehindName msg start n slot s) (hdata : 0 ≤ s.datalength) :
    Printed env msg start ok (slot, unit) s ↔ UnitFits env msg slot unit False s.text := by
  unfold Printed finishArgument
  rw [ensures_bind, ensures_require hs.kept]
  exact ⟨fun h => (ensures_printUnit hok hs).mp (h hdata), fun h _ => (ensures_printUnit hok hs).mpr h⟩

theorem printed_noUnit (hs : ValueBegins msg start s) : Printed env msg start ok (slot, noUnit) s := by
  unfold Printed finishArgument
  rw [ensures_bind, ensures_require hs.kept]
  intro _
  unfold printUnit
  rw [if_neg fun h => Nat.not_lt_zero 1 h.2]
  exact hok s hs

omit hok in
/-- **A value that is printed as a piece.** -/
theorem ensures_printValue {shown : List UInt8 → List UInt8} {post : Unit → PrintState → Prop}
    (hs : ValueBegins msg start s) : Ensures (printValue msg slot n shown) post (Fails start) s ↔
      (n ≤ s.datalength → ∃ text, snprintf s.text slot.pos slot.room (shown (bytesAt msg s n)) = some text ∧
        post () { s.skip n with text }) := by
  unfold printValue
  rw [ensures_bind, ensures_readValue hs.within hs.kept]
  refine imp_congr_right fun _ => ?_
  rw [ensures_printf]
  exact Iff.rfl

theorem valueFits_iff {shown : List UInt8 → List UInt8} (hs : BehindName msg start length slot s) :
    Ensures (printValue msg slot n shown) (fun _ s' => Printed env msg start ok (slot, unit) s') (Fails start) s ↔
      ValueFits env msg slot unit n shown s := by
  rw [ensures_printValue hs.toValueBegins]
  refine imp_congr_right fun hlength => ?_
  have hbehind : ∀ {text : List UInt8}, Kept s.text text → BehindName msg start length slot { s.skip n with text } :=
    fun hkept => { kept := hs.kept.trans hkept
                   within := (hs.within.skip hlength :)
                   length_eq := hkept.length.trans hs.length_eq
                   length_lt := hs.length_lt
                   inBuffer := hs.inBuffer }
  have hdata : 0 ≤ (s.skip n).datalength := by
    rw [skip_datalength]
    omega
  have hends : ∀ {text : List UInt8}, snprintf s.text slot.pos slot.room (shown (bytesAt msg s n)) = some text →
      (0 ∈ text.drop slot.pos ↔ 0 < slot.room ∨ 0 ∈ s.text.drop slot.pos) := by
    intro text htext
    by_cases hroom : slot.room = 0
    · unfold snprintf at htext
      rw [if_pos hroom] at htext
      obtain rfl := Option.some.inj htext
      exact ⟨.inr, fun h => h.resolve_left (by omega)⟩
    · exact ⟨fun _ => .inl (by omega), fun _ => terminated_snprintf htext (by omega)⟩
  constructor
  · rintro ⟨text, htext, h⟩
    have hunit := (printed_iff hok (hbehind (kept_snprintf htext)) hdata).mp h
    refine ⟨snprintf_eq_some_iff.mp ⟨text, htext⟩, fun hattr hlen => ?_⟩
    obtain ⟨hzero, hsrc⟩ := hunit hattr hlen
    exact ⟨(hends htext).mp (hzero.resolve_left id), hsrc⟩
  · rintro ⟨hfits, hunit⟩
    obtain ⟨text, htext⟩ := snprintf_eq_some_iff.mpr hfits
    refine ⟨text, htext, (printed_iff hok (hbehind (kept_snprintf htext)) hdata).mpr fun hattr hlen => ?_⟩
    obtain ⟨hzero, hsrc⟩ := hunit hattr hlen
    exact ⟨.inr ((hends htext).mpr hzero), hsrc⟩

/-- **A value that is printed as digits.** -/
theorem hexFits_iff (delim : UInt8) (hs : BehindName msg start length slot s) :
    Ensures (printHex msg slot n delim) (fun _ s' => Printed env msg start ok (slot, unit) s') (Fails start) s ↔
      HexFits env msg slot unit n s := by
  unfold printHex HexFits
  rw [ensures_bind, ensures_require hs.kept]
  refine imp_congr_right fun hlength => ?_
  have hroom : 0 < (n : ℤ) → (n : ℤ) * 3 ≤ i32 slot.room → slot.pos + (n : ℤ) * 3 ≤ s.text.length := by
    intro hn hlong
    have hlength_eq := hs.length_eq
    rcases hs.inBuffer.fits with hfits | ⟨k, hk, hklt, -, hroom⟩
    · have := i32_natCast_le slot.room
      omega
    · rw [hroom] at hlong
      unfold i32 at hlong
      split_ifs at hlong <;> omega
  rw [ensures_bind, ensures_get, ensures_bind]
  refine (dltPrintHexStringDelim_prints delim hroom (fun _ => ?_)).iff ?_
  · have := hs.within.ptr_add_le hlength
    omega
  · rintro - s' ⟨hprints, hzero, hsame⟩
    rw [ensures_skip]
    have hbehind : BehindName msg start length slot (s'.skip n) :=
      { toValueBegins := (hs.toValueBegins.prints hprints).skip (by rw [hprints.datalength]; exact hlength)
        length_eq := hprints.kept.length.trans hs.length_eq
        length_lt := hs.length_lt
        inBuffer := hs.inBuffer }
    rw [printed_iff hok hbehind (by rw [skip_datalength, hprints.datalength]; omega)]
    unfold UnitFits
    refine imp_congr_right fun _ => imp_congr_right fun _ => and_congr_left fun _ => ?_
    rw [skip_text, false_or]
    by_cases hprinted : 0 < n ∧ (n : ℤ) * 3 ≤ i32 slot.room
    · exact ⟨fun _ => .inl hprinted, fun _ => hzero ⟨by omega, hprinted.2⟩⟩
    · rw [hsame fun h => hprinted ⟨by omega, h.2⟩]
      exact ⟨.inr, fun h => h.resolve_left hprinted⟩

/-- **A string.** -/
theorem stringFits_iff (hs : ValueBegins msg start s) :
    Ensures (dltMsgReadString msg slot length) (fun _ s' => Printed env msg start ok (slot', noUnit) s')
        (Fails start) s ↔
      StringFits slot length s := by
  unfold dltMsgReadString StringFits
  rw [ensures_bind, ensures_get]
  by_cases hcut : s.datalength < 0 ∨ length = 0 ∨ slot.room < length ∨ s.datalength < length
  · rw [if_pos hcut]
    refine ⟨fun _ hpos hroom hlength => absurd hcut (by omega), fun _ => ?_⟩
    rw [ensures_bind, ensures_set]
    exact hs.kept
  rw [if_neg hcut]
  have hlength : (length : ℤ) ≤ s.datalength := by omega
  have hbytes : (dltCleanString ((msg.databuffer.drop s.ptr).take length)).length = length := by
    have := hs.within.ptr_add_le hlength
    rw [dltCleanString, length_map, length_take, length_drop]
    omega
  rw [ensures_bind, ensures_ofOption, peek_eq (hs.within.ptr_add_le hlength)]
  constructor
  · rintro ⟨bytes, hread, h⟩ - - -
    obtain rfl := Option.some.inj hread
    rw [ensures_bind, ensures_ofOption] at h
    obtain ⟨text, htext, h⟩ := h
    rw [ensures_bind, ensures_ofOption] at h
    obtain ⟨text', htext', -⟩ := h
    have hfits := poke_eq_some_iff.mp ⟨text', htext'⟩
    rw [length_poke htext] at hfits
    exact hfits
  · intro h
    have hfits := h (by omega) (by omega) hlength
    refine ⟨_, rfl, ?_⟩
    rw [ensures_bind, ensures_ofOption]
    obtain ⟨text, htext⟩ := (@poke_eq_some_iff s.text (dltCleanString ((msg.databuffer.drop s.ptr).take length))
      slot.pos).mpr (by omega)
    refine ⟨text, htext, ?_⟩
    rw [ensures_bind, ensures_ofOption]
    obtain ⟨text', htext'⟩ := (@poke_eq_some_iff text [0] (slot.pos + length)).mpr (by
      rw [length_poke htext]
      exact hfits)
    refine ⟨text', htext', printed_noUnit hok ⟨hs.kept.trans ⟨?_, fun _ => ?_⟩, hs.within.skip hlength⟩⟩
    · exact (length_poke htext').trans (length_poke htext)
    · exact terminated_poke htext' mem_cons_self

/-- **The halves of a number of 64 bits.** -/
theorem argumentHex64_iff (hs : ValueBegins msg start s) (hslot : slot.pos + slot.room = s.text.length)
    (hroom : 0 < slot.room) (hlt : s.text.length < 18446744073709551616) :
    Ensures (argumentHex64 msg slot) (fun _ s' => Printed env msg start ok (slot, noUnit) s') (Fails start) s ↔
      (4 ≤ s.datalength → 8 ≤ s.datalength) := by
  have hkept : Kept start ({ s with ptr := s.ptr + 4 } : PrintState).text := hs.kept
  unfold argumentHex64
  rw [ensures_bind, ensures_modify, ensures_bind, ensures_readValue_iff hkept]
  refine imp_congr_right fun hfirst => ?_
  dsimp only at hfirst
  have hdata := hs.within (by omega)
  constructor
  · rintro ⟨hread, -⟩
    dsimp only at hread
    omega
  · intro hlong
    refine ⟨by dsimp only; omega, ?_⟩
    -- The first half is printed into the slot, and the second one behind it.
    refine (ensures_printf_of_fits (.inr ?_)).bind ?_
    · rw [skip_text]
      dsimp only
      omega
    rintro - s₁ ⟨hprints₁, hzero₁⟩
    have htext₁ : s₁.text.length = s.text.length := hprints₁.kept.length
    have hptr₁ : s₁.ptr = s.ptr + 4 + 4 := hprints₁.ptr
    have hdata₁ : s₁.datalength = s.datalength - 4 := hprints₁.datalength
    have hkept₁ : Kept start ({ s₁ with ptr := s₁.ptr - 8 } : PrintState).text := hs.kept.trans hprints₁.kept
    rw [ensures_bind, ensures_modify, ensures_bind, ensures_readValue_iff hkept₁]
    intro hsecond
    refine ⟨by dsimp only; omega, ?_⟩
    refine (@ensures_strlen slot.pos (({ s₁ with ptr := s₁.ptr - 8 } : PrintState).skip 4) _ (hzero₁ hroom)).bind ?_
    rintro length s₂ ⟨rfl, hlength⟩
    rw [skip_text] at hlength
    dsimp only at hlength hsecond
    have hleft : sizeSub slot.room length = slot.room - length := sizeSub_of_le (by omega) (by omega)
    refine (ensures_printf_of_fits (.inr ?_)).bind ?_
    · rw [skip_text, hleft]
      dsimp only
      omega
    rintro - s₃ ⟨hprints₃, -⟩
    have hptr₃ : s₃.ptr = s₁.ptr - 8 + 4 := hprints₃.ptr
    have hdata₃ : s₃.datalength = s₁.datalength - 4 := hprints₃.datalength
    refine printed_noUnit hok ⟨hkept₁.trans hprints₃.kept, fun _ => ?_⟩
    dsimp only
    omega

end values

/-! ## Fixed point numbers -/

theorem ensures_fixedPoint (hs : ValueBegins msg start s) :
    Ensures (fixedPoint msg typeInfo) ok (Fails start) s ↔ FixedPointFits typeInfo (ok ()) s := by
  unfold fixedPoint FixedPointFits
  by_cases hfixp : HasFlag typeInfo dltTypeInfoFixp
  · rw [if_pos hfixp, if_pos hfixp, ensures_bind, ensures_readValue hs.within hs.kept]
    refine imp_congr_right fun hlength => ?_
    cases hsize : offsetSize (tyle typeInfo) with
    | none => exact ⟨fun _ n hn => absurd hn nofun, fun _ => hs.kept⟩
    | some n =>
      have hkept : Kept start (s.skip 4).text := hs.kept
      dsimp only
      rw [ensures_bind, ensures_require hkept]
      refine ⟨fun h n' hn' => ?_, fun h => h n rfl⟩
      obtain rfl := Option.some.inj hn'
      exact h
  · rw [if_neg hfixp, if_neg hfixp]
    exact Iff.rfl

theorem BehindName.skip (hs : BehindName msg start length slot s) (hn : (n : ℤ) ≤ s.datalength) :
    BehindName msg start length slot (s.skip n) :=
  { toValueBegins := hs.toValueBegins.skip hn, length_eq := hs.length_eq, length_lt := hs.length_lt
    inBuffer := hs.inBuffer }

theorem fixedPointFits_congr {P Q : PrintState → Prop} (hs : BehindName msg start length slot s)
    (h : ∀ s', BehindName msg start length slot s' → (P s' ↔ Q s')) :
    FixedPointFits typeInfo P s ↔ FixedPointFits typeInfo Q s := by
  unfold FixedPointFits
  split_ifs
  · exact imp_congr_right fun hlength => forall₂_congr fun n _ => imp_congr_right fun hoffset =>
      h _ ((hs.skip hlength).skip hoffset)
  · exact h s hs

/-! ## Types -/

section types

variable {ok : PrintState → Prop} (hok : ∀ s', ValueBegins msg start s' → ok s')
  (hs : ValueBegins msg start s) (hslot : slot.pos + slot.room = s.text.length) (hroom : 0 < slot.room)
  (hlt : s.text.length < 18446744073709551616)

include hok hs hslot hroom

theorem argumentString_iff : Ensures (argumentString env msg typeInfo slot) (Printed env msg start ok) (Fails start) s ↔
    ArgumentStringFits env msg typeInfo slot s := by
  unfold argumentString ArgumentStringFits
  rw [ensures_bind, ensures_readLength hs.within hs.kept]
  refine imp_congr_right fun hlength => ?_
  rw [ensures_bind, ensures_variName (hs.skip hlength) (by exact hslot) hroom]
  refine variFits_congr_of_begins (hs.skip hlength) fun slot' s' hs' => ?_
  rw [ensures_bind]
  exact stringFits_iff hok hs'

omit hslot hroom in
theorem argumentTrace_iff : Ensures (argumentTrace msg slot) (Printed env msg start ok) (Fails start) s ↔
    ArgumentTraceFits msg slot s := by
  unfold argumentTrace ArgumentTraceFits
  rw [ensures_bind, ensures_readLength hs.within hs.kept]
  refine imp_congr_right fun hlength => ?_
  rw [ensures_bind]
  exact stringFits_iff hok (hs.skip hlength)

theorem argumentBool_iff : Ensures (argumentBool env msg typeInfo slot) (Printed env msg start ok) (Fails start) s ↔
    ArgumentBoolFits env msg typeInfo slot s := by
  unfold argumentBool ArgumentBoolFits
  rw [ensures_bind, ensures_variName hs hslot hroom]
  refine variFits_congr_of_begins hs fun slot' s' hs' => ?_
  rw [ensures_bind, ensures_printValue hs']
  refine imp_congr_right fun hlength => ?_
  constructor
  · rintro ⟨text, htext, -⟩
    exact ⟨snprintf_eq_some_iff.mp ⟨text, htext⟩, fun _ h => absurd h (Nat.not_lt_zero 1)⟩
  · rintro ⟨hfits, -⟩
    obtain ⟨text, htext⟩ := snprintf_eq_some_iff.mpr hfits
    exact ⟨text, htext, printed_noUnit hok ⟨hs'.kept.trans (kept_snprintf htext), hs'.within.skip hlength⟩⟩

/-- A value that is printed into a slot that ends where the buffer ends. -/
theorem ensures_printValue_noUnit (n : ℕ) (shown : List UInt8 → List UInt8) :
    Ensures (printValue msg slot n shown) (fun _ s' => Printed env msg start ok (slot, noUnit) s') (Fails start) s := by
  refine (ensures_printValue hs).mpr fun hlength => ?_
  obtain ⟨text, htext⟩ := (@snprintf_eq_some_iff s.text (shown (bytesAt msg s n)) slot.pos slot.room).mpr
    (.inr (by omega))
  exact ⟨text, htext, printed_noUnit hok ⟨hs.kept.trans (kept_snprintf htext), hs.within.skip hlength⟩⟩

theorem argumentBin_safe : Ensures (argumentBin msg typeInfo slot) (Printed env msg start ok) (Fails start) s := by
  unfold argumentBin
  dsimp only
  split
  · exact ensures_bind.mpr (ensures_printValue_noUnit hok hs hslot hroom _ _)
  · exact ensures_bind.mpr (ensures_printValue_noUnit hok hs hslot hroom _ _)
  · exact printed_noUnit hok hs

include hlt

theorem argumentHex_iff : Ensures (argumentHex msg typeInfo slot) (Printed env msg start ok) (Fails start) s ↔
    ArgumentHexFits typeInfo s := by
  have hpiece : ∀ {k n : ℕ} {shown : List UInt8 → List UInt8}, tyle typeInfo = k → k ≠ 4 →
      (Ensures (printValue msg slot n shown >>= fun _ => pure (slot, noUnit)) (Printed env msg start ok)
          (Fails start) s ↔
        (tyle typeInfo = 4 → 4 ≤ s.datalength → 8 ≤ s.datalength)) :=
    fun hk hne => ⟨fun _ h => absurd (hk.symm.trans h) hne,
      fun _ => ensures_bind.mpr (ensures_printValue_noUnit hok hs hslot hroom _ _)⟩
  unfold argumentHex ArgumentHexFits
  dsimp only
  split
  next h => exact hpiece h (by decide)
  next h => exact hpiece h (by decide)
  next h => exact hpiece h (by decide)
  next h =>
    rw [ensures_bind]
    exact (argumentHex64_iff hok hs hslot hroom hlt).trans ⟨fun h' _ => h', fun h' => h' h⟩
  next h => exact ⟨fun _ h' => absurd h' h, fun _ => printed_noUnit hok hs⟩

theorem argumentRaw_iff : Ensures (argumentRaw env msg typeInfo slot) (Printed env msg start ok) (Fails start) s ↔
    ArgumentRawFits env msg typeInfo slot s := by
  unfold argumentRaw ArgumentRawFits
  rw [ensures_bind, ensures_readLength hs.within hs.kept]
  refine imp_congr_right fun hlength => ?_
  rw [ensures_bind, ensures_variName (hs.skip hlength) (by exact hslot) hroom]
  refine variFits_congr (hs.skip hlength) hslot hlt fun slot' s' hs' => ?_
  rw [ensures_bind]
  exact (hexFits_iff hok 39 hs').trans ⟨fun _ => trivial, fun _ _ _ h => absurd h (Nat.not_lt_zero 1)⟩

theorem argumentInt_iff : Ensures (argumentInt env msg typeInfo slot) (Printed env msg start ok) (Fails start) s ↔
    ArgumentIntFits env msg typeInfo slot s := by
  unfold argumentInt ArgumentIntFits
  rw [ensures_bind, ensures_variNameUnit hs hslot hroom]
  refine variUnitFits_congr hs hslot hlt fun slot' unit s' hs' => ?_
  dsimp only
  rw [ensures_bind, ensures_fixedPoint hs'.toValueBegins]
  refine fixedPointFits_congr hs' fun s'' hs'' => ?_
  split
  next h => exact ⟨fun _ n hn => absurd (h ▸ hn) nofun, fun _ => hs''.kept⟩
  next h =>
    rw [h, ensures_bind]
    exact (hexFits_iff hok 32 hs'').trans (by simp)
  next n hn h =>
    rw [h, ensures_bind]
    exact (valueFits_iff hok hs'').trans (by simp [show ¬ n = 16 from hn])

theorem argumentFloat_iff : Ensures (argumentFloat env msg typeInfo slot) (Printed env msg start ok) (Fails start) s ↔
    ArgumentFloatFits env msg typeInfo slot s := by
  unfold argumentFloat ArgumentFloatFits
  rw [ensures_bind, ensures_variNameUnit hs hslot hroom]
  refine variUnitFits_congr hs hslot hlt fun slot' unit s' hs' => ?_
  dsimp only
  split
  next h => exact ⟨fun _ n hn => absurd (h ▸ hn) nofun, fun _ => hs'.kept⟩
  next h =>
    rw [h, ensures_bind]
    exact (valueFits_iff hok hs').trans (by simp)
  next h =>
    rw [h, ensures_bind]
    exact (valueFits_iff hok hs').trans (by simp)
  next n hfour height h =>
    rw [h, ensures_bind]
    exact (hexFits_iff hok 32 hs').trans (by simp [show ¬ n = 4 from hfour, show ¬ n = 8 from height])

/-- **An argument is printed safely if and only if it fits.** -/
theorem ensures_dltMessageArgumentPrint :
    Ensures (dltMessageArgumentPrint env msg typeInfo slot) (fun _ s' => ok s') (Fails start) s ↔
      ArgumentFits env msg typeInfo slot s := by
  have hprint : Ensures (dltMessageArgumentPrint env msg typeInfo slot) (fun _ s' => ok s') (Fails start) s ↔
       Ensures (argumentValue env msg typeInfo slot) (Printed env msg start ok) (Fails start) s :=
    ensures_bind
  rw [hprint]
  unfold argumentValue ArgumentFits
  dsimp only
  split_ifs
  · exact argumentString_iff hok hs hslot hroom
  · exact argumentBool_iff hok hs hslot hroom
  · exact ⟨fun _ => trivial, fun _ => argumentBin_safe hok hs hslot hroom⟩
  · exact argumentHex_iff hok hs hslot hroom hlt
  · exact argumentInt_iff hok hs hslot hroom hlt
  · exact argumentFloat_iff hok hs hslot hroom hlt
  · exact argumentRaw_iff hok hs hslot hroom hlt
  · exact argumentTrace_iff hok hs
  · exact ⟨fun _ => trivial, fun _ => hs.kept⟩

end types

end Dlt.Payload
