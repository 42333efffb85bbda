import Mathlib.Data.List.GetD
import Mathlib.Order.Nat
import Mathlib.Tactic.Common

/-!
# Texts cut between characters

* `encoded` — the bytes of items that are encoded one after the other. `LongestFitting` — the longest part of
  whole items from the beginning that has no more than a number of elements.
* `exists_cut`, `longestFitting_of_cut` — where the elements end, an item begins or is cut; the items before it
  are the longest part that fits.
* `CharBytes` — the bytes of a character in UTF-8: the first byte tells how many there are, the others are
  continuation bytes. `charBytes_encode` — the encoding of Lean's characters has this form.
* `and_0x80_iff`, `and_0x40_iff`, `and_0xe0_iff`, `and_0xf0_iff` — the masks that tell the bytes apart.
-/

namespace Dlt.Lib

open List

/-! ## Encoded items -/

section items

variable {α β : Type*} (encode : α → List β)

def encoded (items : List α) : List β := items.flatMap encode

/-- The longest part of whole items from the beginning that has no more than `max` elements. -/
structure LongestFitting (items : List α) (max : ℕ) (kept : List β) : Prop where
  whole : ∃ k, kept = encoded encode (items.take k)
  fits : kept.length ≤ max
  longest : ∀ k, (encoded encode (items.take k)).length ≤ max →
    (encoded encode (items.take k)).length ≤ kept.length

variable {encode} {items pre post : List α} {x : α} {max : ℕ}

@[simp] theorem encoded_nil : encoded encode [] = [] := rfl

@[simp] theorem encoded_cons : encoded encode (x :: post) = encode x ++ encoded encode post := flatMap_cons

@[simp] theorem encoded_append : encoded encode (pre ++ post) = encoded encode pre ++ encoded encode post :=
  flatMap_append

theorem length_encoded_concat :
    (encoded encode (pre ++ [x])).length = (encoded encode pre).length + (encode x).length := by
  rw [encoded_append, encoded_cons, encoded_nil, append_nil, length_append]

theorem getD_encoded (d : β) {i : ℕ} (hi : i < (encode x).length) :
    (encoded encode (pre ++ x :: post)).getD ((encoded encode pre).length + i) d = (encode x).getD i d := by
  rw [encoded_append, encoded_cons, getD_append_right _ _ _ _ (Nat.le_add_right _ _), Nat.add_sub_cancel_left,
    getD_append _ _ _ _ hi]

theorem exists_cut (h : max < (encoded encode items).length) : ∃ pre x post, items = pre ++ x :: post ∧
    (encoded encode pre).length ≤ max ∧ max < (encoded encode pre).length + (encode x).length := by
  induction items generalizing max with
  | nil =>
    rw [encoded_nil, length_nil] at h
    omega
  | cons first rest ih =>
    by_cases hfirst : max < (encode first).length
    · refine ⟨[], first, rest, rfl, Nat.zero_le _, ?_⟩
      rw [encoded_nil, length_nil]
      omega
    · rw [encoded_cons, length_append] at h
      obtain ⟨pre, x, post, hrest, hle, hlt⟩ := @ih (max - (encode first).length) (by omega)
      refine ⟨first :: pre, x, post, by rw [hrest, cons_append], ?_, ?_⟩
      · rw [encoded_cons, length_append]
        omega
      · rw [encoded_cons, length_append]
        omega

theorem length_encoded_take_mono {j k : ℕ} (h : j ≤ k) :
    (encoded encode (items.take j)).length ≤ (encoded encode (items.take k)).length := by
  have htake : items.take j = (items.take k).take j := by rw [take_take, Nat.min_eq_left h]
  conv_rhs => rw [← take_append_drop j (items.take k)]
  rw [encoded_append, length_append, ← htake]
  exact Nat.le_add_right _ _

/-- The items before the one that is cut are the longest part that fits. -/
theorem longestFitting_of_cut (hle : (encoded encode pre).length ≤ max)
    (hlt : max < (encoded encode pre).length + (encode x).length) :
    LongestFitting encode (pre ++ x :: post) max (encoded encode pre) := by
  have htake : (pre ++ x :: post).take pre.length = pre := take_left
  have hnext : (pre ++ x :: post).take (pre.length + 1) = pre ++ [x] := by
    rw [take_append, take_of_length_le (Nat.le_succ _), Nat.add_sub_cancel_left, take_succ_cons,
      take_zero]
  refine ⟨⟨pre.length, by rw [htake]⟩, hle, fun k hk => ?_⟩
  by_cases hmore : k ≤ pre.length
  · have hmono := @length_encoded_take_mono _ _ encode (pre ++ x :: post) k pre.length hmore
    rwa [htake] at hmono
  · have hmono := @length_encoded_take_mono _ _ encode (pre ++ x :: post) (pre.length + 1) k (by omega)
    rw [hnext, length_encoded_concat] at hmono
    omega

end items

/-! ## UTF-8 -/

/-- A byte behind the first one of a character. -/
def Continuation (b : UInt8) : Prop := 128 ≤ b.toNat ∧ b.toNat < 192

inductive CharBytes : List UInt8 → Prop
  | one (a : UInt8) (ha : a.toNat < 128) : CharBytes [a]
  | two (a b : UInt8) (ha : 192 ≤ a.toNat ∧ a.toNat < 224) (hb : Continuation b) : CharBytes [a, b]
  | three (a b c : UInt8) (ha : 224 ≤ a.toNat ∧ a.toNat < 240) (hb : Continuation b) (hc : Continuation c) :
      CharBytes [a, b, c]
  | four (a b c d : UInt8) (ha : 240 ≤ a.toNat ∧ a.toNat < 248) (hb : Continuation b) (hc : Continuation c)
      (hd : Continuation d) : CharBytes [a, b, c, d]

section charBytes

variable {bytes : List UInt8}

section

variable (h : CharBytes bytes)
include h

theorem CharBytes.length : 0 < bytes.length ∧ bytes.length ≤ 4 := by
  cases h <;> simp

/-- The last byte of a character is not a first byte of several. -/
theorem CharBytes.last : (bytes.getD (bytes.length - 1) 0).toNat < 192 := by
  cases h with
  | one a ha => exact ha.trans (by decide)
  | two a b ha hb => exact hb.2
  | three a b c ha hb hc => exact hc.2
  | four a b c d ha hb hc hd => exact hd.2

theorem CharBytes.first (hlong : 1 < bytes.length) : 192 ≤ (bytes.getD 0 0).toNat := by
  cases h with
  | one a ha => exact absurd hlong (lt_irrefl 1)
  | two a b ha hb => exact ha.1
  | three a b c ha hb hc => exact le_trans (by decide) ha.1
  | four a b c d ha hb hc hd => exact le_trans (by decide) ha.1

theorem CharBytes.second (hlong : 2 < bytes.length) :
    Continuation (bytes.getD 1 0) ∧ 224 ≤ (bytes.getD 0 0).toNat := by
  cases h with
  | one a ha => exact absurd hlong (by simp)
  | two a b ha hb => exact absurd hlong (by simp)
  | three a b c ha hb hc => exact ⟨hb, ha.1⟩
  | four a b c d ha hb hc hd => exact ⟨hb, le_trans (by decide) ha.1⟩

theorem CharBytes.third (hlong : 3 < bytes.length) :
    Continuation (bytes.getD 2 0) ∧ (bytes.getD 1 0).toNat < 224 ∧ 240 ≤ (bytes.getD 0 0).toNat := by
  cases h with
  | one a ha => exact absurd hlong (by simp)
  | two a b ha hb => exact absurd hlong (by simp)
  | three a b c ha hb hc => exact absurd hlong (by simp)
  | four a b c d ha hb hc hd => exact ⟨hc, hb.2.trans (by decide), ha.1⟩

theorem CharBytes.whole_one (hlength : bytes.length = 1) : (bytes.getD 0 0).toNat < 128 := by
  cases h with
  | one a ha => exact ha
  | two a b ha hb => cases hlength
  | three a b c ha hb hc => cases hlength
  | four a b c d ha hb hc hd => cases hlength

theorem CharBytes.whole_two (hlength : bytes.length = 2) :
    Continuation (bytes.getD 1 0) ∧ (bytes.getD 0 0).toNat < 224 := by
  cases h with
  | one a ha => cases hlength
  | two a b ha hb => exact ⟨hb, ha.2⟩
  | three a b c ha hb hc => cases hlength
  | four a b c d ha hb hc hd => cases hlength

/-- The last three bytes of a character that has three or four. -/
theorem CharBytes.whole_three (hlong : 2 < bytes.length) :
    Continuation (bytes.getD (bytes.length - 1) 0) ∧ (bytes.getD (bytes.length - 2) 0).toNat < 224 ∧
      (bytes.getD (bytes.length - 3) 0).toNat < 240 := by
  cases h with
  | one a ha => exact absurd hlong (by simp)
  | two a b ha hb => exact absurd hlong (by simp)
  | three a b c ha hb hc => exact ⟨hc, hb.2.trans (by decide), ha.2⟩
  | four a b c d ha hb hc hd => exact ⟨hd, hc.2.trans (by decide), hb.2.trans (by decide)⟩

end

end charBytes

/-- A byte made of the lower bits of a number is a continuation byte. -/
theorem continuation_ofNat (n : ℕ) : Continuation (UInt8.ofNat (n % 64 + 128)) := by
  unfold Continuation
  rw [UInt8.toNat_ofNat']
  omega

theorem charBytes_encode (c : Char) : CharBytes (String.utf8EncodeChar c) := by
  fun_cases String.utf8EncodeChar c with
  | case1 v h =>
    refine .one _ ?_
    rw [UInt8.toNat_ofNat']
    omega
  | case2 v h h' =>
    refine .two _ _ ?_ (continuation_ofNat _)
    rw [UInt8.toNat_ofNat']
    omega
  | case3 v h h' h'' =>
    refine .three _ _ _ ?_ (continuation_ofNat _) (continuation_ofNat _)
    rw [UInt8.toNat_ofNat']
    omega
  | case4 v h h' h'' =>
    refine .four _ _ _ _ ?_ (continuation_ofNat _) (continuation_ofNat _) (continuation_ofNat _)
    rw [UInt8.toNat_ofNat']
    omega

/-- What holds of the bytes from `0` to `255` holds of every byte. -/
theorem forall_byte {p : UInt8 → Prop} (h : ∀ n < 256, p (UInt8.ofNat n)) (b : UInt8) : p b := by
  have hb := h b.toNat b.toNat_lt
  rwa [UInt8.ofNat_toNat] at hb

/-- The highest bit tells whether the character has more than one byte. -/
theorem and_0x80_iff (b : UInt8) : b &&& 0x80 ≠ 0 ↔ 128 ≤ b.toNat :=
  @forall_byte (fun b => b &&& 0x80 ≠ 0 ↔ 128 ≤ b.toNat) (by decide +kernel) b

theorem and_0x40_iff (b : UInt8) (h : 128 ≤ b.toNat) : b &&& 0x40 ≠ 0 ↔ 192 ≤ b.toNat :=
  @forall_byte (fun b => 128 ≤ b.toNat → (b &&& 0x40 ≠ 0 ↔ 192 ≤ b.toNat)) (by decide +kernel) b h

theorem and_0xe0_iff (b : UInt8) : b &&& 0xe0 = 0xe0 ↔ 224 ≤ b.toNat :=
  @forall_byte (fun b => b &&& 0xe0 = 0xe0 ↔ 224 ≤ b.toNat) (by decide +kernel) b

theorem and_0xf0_iff (b : UInt8) : b &&& 0xf0 = 0xf0 ↔ 240 ≤ b.toNat :=
  @forall_byte (fun b => b &&& 0xf0 = 0xf0 ↔ 240 ≤ b.toNat) (by decide +kernel) b

end Dlt.Lib
