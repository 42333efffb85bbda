import Dlt.Lib.Machine

/-!
# Numbers as text

* `HexAt mem pos bs` — memory holds the digits of bytes, three characters a byte. `holds_hexString`
  gives it from a text, and `strtol_hexByte`, `strtol_hexBytes` read the numbers back.
-/

namespace Dlt.Lib

open List

/-! ## Texts in memory -/

/-- The bytes of a text. -/
def ascii (text : String) : List UInt8 := text.toList.map fun c => UInt8.ofNat c.toNat

theorem forall_getElem?_append {p : ℕ → UInt8 → Prop} {as bs : List UInt8} :
    (∀ k b, (as ++ bs)[k]? = some b → p k b) ↔
      (∀ k b, as[k]? = some b → p k b) ∧ ∀ k b, bs[k]? = some b → p (as.length + k) b := by
  constructor
  · intro h
    refine ⟨fun k b hk => h k b ?_, fun k b hk => h _ b ?_⟩
    · rw [getElem?_append_left (List.getElem?_eq_some_iff.mp hk).1, hk]
    · rwa [getElem?_append_right (Nat.le_add_right _ _), Nat.add_sub_cancel_left]
  · rintro ⟨has, hbs⟩ k b hk
    rcases Nat.lt_or_ge k as.length with hlt | hge
    · rw [getElem?_append_left hlt] at hk
      exact has k b hk
    · rw [getElem?_append_right hge] at hk
      exact Nat.add_sub_cancel' hge ▸ hbs (k - as.length) b hk

/-- Memory holds the bytes from a position on. -/
def Holds (mem : ℕ → UInt8) (pos : ℕ) (bs : List UInt8) : Prop :=
  ∀ k b, bs[k]? = some b → mem (pos + k) = b

section holds

variable {mem : ℕ → UInt8} {pos : ℕ} {as bs : List UInt8}

theorem holds_append : Holds mem pos (as ++ bs) ↔
    Holds mem pos as ∧ Holds mem (pos + as.length) bs := by
  unfold Holds
  rw [forall_getElem?_append]
  simp only [Nat.add_assoc]

theorem holds_cons {a : UInt8} :
    Holds mem pos (a :: bs) ↔ mem pos = a ∧ Holds mem (pos + 1) bs := by
  rw [← singleton_append, holds_append]
  refine and_congr_left fun _ => ⟨fun h => h 0 a rfl, fun h k b hk => ?_⟩
  rw [getElem?_singleton] at hk
  split_ifs at hk with hzero
  rw [hzero, Nat.add_zero, h]
  exact Option.some.inj hk

theorem Holds.map_range (h : Holds mem pos bs) {n : ℕ} (hn : n ≤ bs.length) :
    (List.range n).map (fun k => mem (pos + k)) = bs.take n := by
  apply ext_getElem?
  intro k
  rw [getElem?_map, getElem?_take]
  split_ifs with hk
  · have hget : bs[k]? = some bs[k] := getElem?_eq_getElem _
    rw [getElem?_range hk, hget, Option.map_some, h k _ hget]
  · rw [getElem?_eq_none (by simpa using hk)]
    rfl

end holds

/-! ## Hexadecimal digits -/

/-- The digit of a value below sixteen. -/
def hexDigit (n : ℕ) : UInt8 := (ascii "0123456789abcdef").getD n 48

/-- The conversion `%.2x` of a byte. -/
def hexByte (b : UInt8) : List UInt8 := [hexDigit (b.toNat / 16), hexDigit (b.toNat % 16)]

/-- Bytes as digits, with a character between two bytes. -/
def hexString (delim : UInt8) : List UInt8 → List UInt8
  | [] => []
  | [b] => hexByte b
  | b :: c :: bs => hexByte b ++ delim :: hexString delim (c :: bs)

/-- Memory holds the digits of the bytes, three characters a byte. -/
def HexAt (mem : ℕ → UInt8) (pos : ℕ) (bs : List UInt8) : Prop :=
  ∀ k b, bs[k]? = some b → mem (pos + 3 * k) = hexDigit (b.toNat / 16) ∧
    mem (pos + 3 * k + 1) = hexDigit (b.toNat % 16)

section hexAt

variable {mem : ℕ → UInt8} {pos : ℕ} {as bs : List UInt8}

theorem hexAt_nil : HexAt mem pos [] := by
  intro k b hk
  simp at hk

theorem hexAt_append : HexAt mem pos (as ++ bs) ↔
    HexAt mem pos as ∧ HexAt mem (pos + 3 * as.length) bs := by
  unfold HexAt
  rw [forall_getElem?_append]
  simp only [Nat.mul_add, Nat.add_assoc]

theorem hexAt_cons {b : UInt8} : HexAt mem pos (b :: bs) ↔
    (mem pos = hexDigit (b.toNat / 16) ∧ mem (pos + 1) = hexDigit (b.toNat % 16)) ∧
      HexAt mem (pos + 3) bs := by
  rw [← singleton_append, hexAt_append]
  refine and_congr_left fun _ => ⟨fun h => h 0 b rfl, fun h k c hk => ?_⟩
  rw [getElem?_singleton] at hk
  split_ifs at hk with hzero
  rw [← Option.some.inj hk, hzero]
  exact h

theorem holds_hexString {delim : UInt8} (h : Holds mem pos (hexString delim bs)) :
    HexAt mem pos bs := by
  fun_induction hexString delim bs generalizing pos with
  | case1 => exact hexAt_nil
  | case2 b =>
    simp only [hexByte, holds_cons] at h
    exact hexAt_cons.mpr ⟨⟨h.1, h.2.1⟩, hexAt_nil⟩
  | case3 b c bs ih =>
    simp only [hexByte, cons_append, nil_append, holds_cons] at h
    exact hexAt_cons.mpr ⟨⟨h.1, h.2.1⟩, ih h.2.2.2⟩

end hexAt

/-! ## `strtol` -/

def digitValue (base : ℕ) (c : UInt8) : Option ℕ :=
  let value :=
    if 48 ≤ c.toNat ∧ c.toNat ≤ 57 then c.toNat - 48
    else if 97 ≤ c.toNat ∧ c.toNat ≤ 122 then c.toNat - 87
    else if 65 ≤ c.toNat ∧ c.toNat ≤ 90 then c.toNat - 55
    else base
  if value < base then some value else none

/-- The value of the digits up to the first other character, behind the value `acc`. -/
def digitsValue (base acc : ℕ) : List UInt8 → ℕ
  | [] => acc
  | c :: cs =>
    match digitValue base c with
    | some d => digitsValue base (acc * base + d) cs
    | none => acc

/-- `isspace`. -/
def isspace (c : UInt8) : Bool := c = 32 ∨ 9 ≤ c.toNat ∧ c.toNat ≤ 13

/-- The characters `0x` in front of a hexadecimal number are skipped. -/
def skip0x : List UInt8 → List UInt8
  | z :: x :: d :: cs =>
    if z = 48 ∧ (x = 120 ∨ x = 88) ∧ (digitValue 16 d).isSome then d :: cs else z :: x :: d :: cs
  | cs => cs

/-- `strtol` on a text whose value is in the range of `long`. -/
def strtol (text : List UInt8) (base : ℕ) : ℤ :=
  let text := text.dropWhile isspace
  let number (text : List UInt8) : ℤ :=
    digitsValue base 0 (if base = 16 then skip0x text else text)
  match text with
  | c :: cs => if c = 45 then -number cs else if c = 43 then number cs else number text
  | [] => 0

/-- A digit is read back, and is no space, sign or `x`. -/
theorem hexDigit_spec {n : ℕ} (h : n < 16) :
    digitValue 16 (hexDigit n) = some n ∧ isspace (hexDigit n) = false ∧ hexDigit n ≠ 45 ∧
      hexDigit n ≠ 43 ∧ hexDigit n ≠ 120 ∧ hexDigit n ≠ 88 := by
  have hall : ∀ m : Fin 16, digitValue 16 (hexDigit m) = some m.val ∧
      isspace (hexDigit m) = false ∧ hexDigit m ≠ 45 ∧ hexDigit m ≠ 43 ∧ hexDigit m ≠ 120 ∧
        hexDigit m ≠ 88 := by decide
  exact hall ⟨n, h⟩

theorem strtol_hexDigits {n m : ℕ} (hn : n < 16) (hm : m < 16) {ds : List UInt8} :
    strtol (hexDigit n :: hexDigit m :: ds) 16 = digitsValue 16 (n * 16 + m) ds := by
  obtain ⟨hvalue, hspace, hminus, hplus, -, -⟩ := hexDigit_spec hn
  obtain ⟨hvalue', -, -, -, hx, hX⟩ := hexDigit_spec hm
  have hskip : skip0x (hexDigit n :: hexDigit m :: ds) = hexDigit n :: hexDigit m :: ds := by
    cases ds with
    | nil => rfl
    | cons d ds => simp [skip0x, hx, hX]
  simp [strtol, hspace, hminus, hplus, hskip, digitsValue, hvalue, hvalue']

theorem strtol_hexByte (b : UInt8) :
    strtol [hexDigit (b.toNat / 16), hexDigit (b.toNat % 16)] 16 = b.toNat := by
  have hb := b.toNat_lt
  rw [strtol_hexDigits (by omega) (by omega), digitsValue]
  omega

theorem strtol_hexBytes (b c : UInt8) :
    strtol [hexDigit (b.toNat / 16), hexDigit (b.toNat % 16), hexDigit (c.toNat / 16),
      hexDigit (c.toNat % 16)] 16 = b.toNat * 256 + c.toNat := by
  have hb := b.toNat_lt
  have hc := c.toNat_lt
  have hhigh : c.toNat / 16 < 16 := by omega
  have hlow : c.toNat % 16 < 16 := by omega
  rw [strtol_hexDigits (by omega) (by omega)]
  simp only [digitsValue, (hexDigit_spec hhigh).1, (hexDigit_spec hlow).1]
  omega

end Dlt.Lib
