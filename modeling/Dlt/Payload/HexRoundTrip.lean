import Dlt.Payload.PrintSafe

/-!
# Reading printed digits

* `dltHexAsciiToBinary_iff` — **printed digits are read back**, and the bytes stay in the memory if there is any.
-/

namespace Dlt.Payload

open Dlt.Lib Dlt.Shared Checked List Option

/-! ## Reading digits -/

/-- The value of a digit, in both cases. -/
def asciiDigit (ch : UInt8) : Option UInt8 :=
  if 48 ≤ ch ∧ ch ≤ 57 then some (ch - 48)
  else if 65 ≤ ch ∧ ch ≤ 70 then some (ch - 65 + 10)
  else if 97 ≤ ch ∧ ch ≤ 102 then some (ch - 97 + 10)
  else none

/-- The loop over the characters; `first` says that the next digit is the first one of a byte.
Source: `dlt_common.c`, `dlt_hex_ascii_to_binary` -/
def binaryLoop (size : ℤ) : List UInt8 → List UInt8 → ℕ → Bool → Option (List UInt8 × ℤ)
  | [], _, _, _ => none
  | ch :: rest, binary, pos, first =>
    if ch = 0 then some (binary, pos)
    else
      match asciiDigit ch with
      | none => binaryLoop size rest binary pos first
      | some digit => do
        let byte ← binary[pos]?
        let binary ← poke binary pos [(byte <<< 4) + digit]
        if first then binaryLoop size rest binary pos false
        else if (pos + 1 : ℤ) ≥ size then some (binary, size)
        else do
          let binary ← poke binary (pos + 1) [0]
          binaryLoop size rest binary (pos + 1) true

/-- The bytes, and how many there are. There is no result if the text is read behind its end, or a byte is written
outside its memory. Source: `dlt_hex_ascii_to_binary` -/
def dltHexAsciiToBinary (text binary : List UInt8) (size : ℤ) : Option (List UInt8 × ℤ) := do
  let binary ← poke binary 0 [0]
  binaryLoop size text binary 0 true

/-- **The digits of bytes are read back**, for every text buffer with three characters a byte and every memory with room
for the bytes. -/
def HexRoundTrips (b : List UInt8) : Prop :=
  b ≠ [] → ∀ (s : PrintState) (binary : List UInt8), 3 * b.length ≤ s.text.length → b.length ≤ binary.length →
    Ensures (dltPrintHexString b 0 s.text.length 0 b.length)
      (fun r s' => r = dltReturnOk ∧ ∃ binary',
        dltHexAsciiToBinary s'.text binary binary.length = some (binary', (b.length : ℤ)) ∧
          binary'.take b.length = b)
      (fun _ _ => False) s

/-- The bytes of a text are written to memory of the size that was announced. -/
def WritesInside (text : List UInt8) (size : ℤ) : Prop :=
  ∀ binary : List UInt8, binary.length = size.toNat → (dltHexAsciiToBinary text binary size).isSome

section reading

variable {text binary rest junk : List UInt8} {pos : ℕ} {size : ℤ}

theorem poke_byte (h : pos < binary.length) (b : UInt8) : poke binary pos [b] = some (binary.set pos b) := by
  unfold poke overwrite
  rw [length_singleton, if_pos (Nat.succ_le_of_lt h), set_eq_take_append_cons_drop, if_pos h]
  simp

/-- The digits of a byte are digits of their values. -/
theorem asciiDigit_hexDigit {n : ℕ} (h : n < 16) :
    asciiDigit (hexDigit n) = some (UInt8.ofNat n) ∧ hexDigit n ≠ 0 := by
  have hall : ∀ m : Fin 16, asciiDigit (hexDigit m) = some (UInt8.ofNat m.val) ∧ hexDigit m ≠ 0 := by decide
  exact hall ⟨n, h⟩

theorem digits_toByte (b : UInt8) :
    (((0 : UInt8) <<< 4 + UInt8.ofNat (b.toNat / 16)) <<< 4) + UInt8.ofNat (b.toNat % 16) = b := by
  have hb := b.toNat_lt
  have hpow : 2 ^ (4 % 2 ^ 8 % 8) = 16 := rfl
  apply UInt8.toNat.inj
  simp only [UInt8.toNat_add, UInt8.toNat_shiftLeft, UInt8.toNat_ofNat', Nat.shiftLeft_eq, UInt8.toNat_ofNat, hpow]
  omega

/-- **The two digits of a byte** are read, where the byte was made zero before. -/
theorem binaryLoop_digits (b : UInt8) (hzero : binary[pos]? = some 0) :
    binaryLoop size (hexByte b ++ rest) binary pos true =
      if (pos + 1 : ℤ) ≥ size then some (binary.set pos b, size)
      else (poke (binary.set pos b) (pos + 1) [0]).bind fun binary => binaryLoop size rest binary (pos + 1) true := by
  obtain ⟨hpos, -⟩ := List.getElem?_eq_some_iff.mp hzero
  have hhigh : b.toNat / 16 < 16 := by
    have := b.toNat_lt
    omega
  have hlow : b.toNat % 16 < 16 := Nat.mod_lt _ (by decide)
  obtain ⟨hfst, hfst0⟩ := asciiDigit_hexDigit hhigh
  obtain ⟨hsnd, hsnd0⟩ := asciiDigit_hexDigit hlow
  unfold hexByte
  rw [cons_append, cons_append, nil_append, binaryLoop, if_neg hfst0, hfst]
  dsimp only
  rw [hzero, bind_eq_bind, bind_some, poke_byte hpos, bind_eq_bind, bind_some, if_pos rfl,
    binaryLoop, if_neg hsnd0, hsnd]
  dsimp only
  rw [getElem?_set_self hpos, bind_eq_bind, bind_some,
    poke_byte (by rw [length_set]; exact hpos), bind_eq_bind, bind_some, set_set,
    digits_toByte, if_neg (by decide)]

/-- **The digits of the other bytes**, each behind a blank. -/
theorem binaryLoop_hexTail (bs : List UInt8) (hsize : (binary.length : ℤ) = size)
    (hfits : pos + bs.length ≤ binary.length) (hzero : binary[pos]? = some 0) :
    ∃ binary', binaryLoop size (bs.flatMap (fun b => 32 :: hexByte b) ++ 0 :: junk) binary pos true =
      some (binary', ((pos + bs.length : ℕ) : ℤ)) ∧ binary'.take (pos + bs.length) = binary.take pos ++ bs := by
  induction bs generalizing pos binary with
  | nil => exact ⟨binary, by simp [binaryLoop], by simp⟩
  | cons b bs ih =>
    have hpos : pos < binary.length := (List.getElem?_eq_some_iff.mp hzero).1
    rw [length_cons] at hfits
    have hskip : asciiDigit 32 = none := rfl
    rw [flatMap_cons, append_assoc, cons_append, binaryLoop, if_neg (by decide), hskip]
    dsimp only
    rw [binaryLoop_digits b hzero]
    have htake : (binary.set pos b).take (pos + 1) = binary.take pos ++ [b] := by
      rw [set_eq_take_append_cons_drop, if_pos hpos, take_append]
      simp [Nat.min_eq_left (Nat.le_of_lt hpos)]
    by_cases hfull : (pos + 1 : ℤ) ≥ size
    · -- The memory is full: there are no more bytes.
      obtain rfl : bs = [] := length_eq_zero_iff.mp (by omega)
      rw [if_pos hfull]
      refine ⟨_, congrArg (fun n => some (_, n)) ?_, htake⟩
      simp only [length_cons, length_nil]
      omega
    · have hnext : pos + 1 < (binary.set pos b).length := by
        rw [length_set]
        omega
      rw [if_neg hfull, poke_byte hnext, bind_some]
      obtain ⟨binary', hloop, hbytes⟩ := ih (by simpa using hsize) (by simp only [length_set]; omega)
        (getElem?_set_self hnext)
      refine ⟨binary', ?_, ?_⟩
      · rw [hloop, length_cons]
        congr 3
        omega
      · rw [length_cons, Nat.add_comm bs.length, ← Nat.add_assoc, hbytes, take_set_of_le (Nat.le_refl _),
          htake]
        simp

/-- **Printed digits are read back.** -/
theorem dltHexAsciiToBinary_hexString {b : List UInt8} (hne : b ≠ []) (hfits : b.length ≤ binary.length) :
    ∃ binary', dltHexAsciiToBinary (hexString 32 b ++ 0 :: junk) binary binary.length =
      some (binary', (b.length : ℤ)) ∧ binary'.take b.length = b := by
  have hpositive : 0 < b.length := length_pos_of_ne_nil hne
  have hroom : 0 < binary.length := by omega
  have hskip : asciiDigit 32 = none := rfl
  unfold dltHexAsciiToBinary
  rw [poke_byte hroom, bind_eq_bind, bind_some]
  -- The loop does the same with a blank in front of the text.
  have hblank : binaryLoop binary.length (hexString 32 b ++ 0 :: junk) (binary.set 0 0) 0 true =
      binaryLoop binary.length (b.flatMap (fun b => 32 :: hexByte b) ++ 0 :: junk) (binary.set 0 0) 0 true := by
    obtain ⟨c, cs, rfl⟩ := exists_cons_of_ne_nil hne
    rw [hexString_cons, flatMap_cons, cons_append, cons_append]
    conv_rhs => rw [binaryLoop, if_neg (by decide), hskip]
  obtain ⟨binary', hloop, hbytes⟩ := @binaryLoop_hexTail (binary.set 0 0) junk 0 binary.length b (by simp)
    (by simpa using hfits) (getElem?_set_self hroom)
  rw [Nat.zero_add] at hloop hbytes
  exact ⟨binary', hblank.trans hloop, by simpa using hbytes⟩

theorem hexRoundTrips (b : List UInt8) : HexRoundTrips b := by
  intro hne s binary hroom hfits
  have hpositive : 0 < b.length := length_pos_of_ne_nil hne
  refine (dltPrintHexStringDelim_printed 32 (by omega) (by omega) (by omega) (by omega)).mono ?_ fun _ _ h => h
  rintro r s' ⟨rfl, hprinted⟩
  rw [drop_zero, take_length] at hprinted
  have htext : hexString 32 b ≠ [] := by
    intro heq
    have hlength := length_hexString 32 b
    rw [heq, length_nil] at hlength
    omega
  refine ⟨rfl, ?_⟩
  rw [hprinted.written_of_ne htext, overwrite_zero, append_assoc, singleton_append]
  exact dltHexAsciiToBinary_hexString hne hfits

/-- The loop stays in the memory, and it ends at the end of the text. -/
theorem isSome_binaryLoop (first : Bool) (htext : 0 ∈ text) (hsize : (binary.length : ℤ) = size)
    (hpos : pos < binary.length) : (binaryLoop size text binary pos first).isSome := by
  induction text generalizing binary pos first with
  | nil => exact absurd htext not_mem_nil
  | cons ch text ih =>
    unfold binaryLoop
    by_cases hzero : ch = 0
    · rw [if_pos hzero]
      rfl
    have hrest : 0 ∈ text := (mem_cons.mp htext).resolve_left (fun h => hzero h.symm)
    rw [if_neg hzero]
    cases asciiDigit ch with
    | none => exact ih first hrest hsize hpos
    | some digit =>
      dsimp only
      rw [getElem?_eq_getElem hpos, bind_eq_bind, bind_some, poke_byte hpos, bind_eq_bind,
        bind_some]
      have hset : ∀ x : UInt8, ((binary.set pos x).length : ℤ) = size := fun x => by rw [length_set, hsize]
      split_ifs with hfirst hfull
      · exact ih false hrest (hset _) (by rwa [length_set])
      · rfl
      · have hnext : ∀ x : UInt8, pos + 1 < (binary.set pos x).length := fun x => by
          rw [length_set]
          omega
        rw [poke_byte (hnext _), bind_some]
        exact ih true hrest (by rw [length_set, hset]) (by rw [length_set]; exact hnext _)

/-- **The bytes stay in their memory** if there is any. -/
theorem writesInside_iff (htext : 0 ∈ text) : WritesInside text size ↔ 0 < size := by
  constructor
  · intro h
    by_contra hsize
    have hempty := h [] (by rw [length_nil]; omega)
    exact absurd hempty Bool.false_ne_true
  · intro hsize binary hlength
    have hpos : 0 < binary.length := by omega
    unfold dltHexAsciiToBinary
    rw [poke_byte hpos, bind_eq_bind, bind_some]
    exact isSome_binaryLoop true htext (by rw [length_set]; omega) (by rwa [length_set])

/-- **Printed digits are read back**, and the bytes of a text stay in the memory that was announced for them if and only
if there is any. -/
theorem dltHexAsciiToBinary_iff (b : List UInt8) (htext : 0 ∈ text) (size : ℤ) :
    HexRoundTrips b ∧ (WritesInside text size ↔ 0 < size) :=
  ⟨hexRoundTrips b, writesInside_iff htext⟩

theorem dltHexAsciiToBinary_iff_odd :
    HexRoundTrips [171] ∧ (WritesInside (ascii "abc" ++ [0]) 1 ↔ 0 < (1 : ℤ)) :=
  dltHexAsciiToBinary_iff [171] (by decide) 1

/-- The first byte is made zero before the size is looked at. -/
theorem not_writesInside_no_room : ¬ WritesInside (ascii "ab" ++ [0]) 0 :=
  fun h => absurd (h [] rfl) (by decide)

end reading

end Dlt.Payload
