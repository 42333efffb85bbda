import Mathlib.Data.List.Basic
import Mathlib.Tactic.Ring

/-!
# Machine integers and their bytes

* `beBytes`, `ofBeBytes` — the same with the most significant byte first.
-/

namespace Dlt.Lib

variable {x : ℤ} {n : ℕ}

/-! ## Conversions -/

/-- The C conversion `(unsigned int) x`. -/
def u32 (x : ℤ) : ℕ := (x % 4294967296).toNat

/-- The C conversion `(int) x` of a value that may not fit: the value modulo `2^32` in the range of
a signed 32-bit integer. -/
def i32 (x : ℤ) : ℤ :=
  if 2147483648 ≤ x % 4294967296 then x % 4294967296 - 4294967296 else x % 4294967296

theorem i32_natCast_le (n : ℕ) : i32 n ≤ n := by
  unfold i32
  split_ifs <;> omega

theorem u32_of_nonneg (h0 : 0 ≤ x) (h : x < 4294967296) : u32 x = x.toNat := by
  rw [u32, Int.emod_eq_of_lt h0 h]

@[simp] theorem u32_natCast (h : n < 4294967296) : u32 n = n := by
  rw [u32_of_nonneg (by omega) (by omega), Int.toNat_natCast]

theorem i32_of_range (h0 : -2147483648 ≤ x) (h : x < 2147483648) : i32 x = x := by
  unfold i32
  split_ifs <;> omega

theorem i32_natCast (h : n < 2147483648) : i32 n = n := i32_of_range (by omega) (by omega)

/-- The C conversion `(int8_t) x`: the value modulo `2^8` in the range of a signed byte. -/
def i8 (x : ℤ) : ℤ := if 128 ≤ x % 256 then x % 256 - 256 else x % 256

theorem i8_of_range (h0 : -128 ≤ x) (h : x < 128) : i8 x = x := by
  unfold i8
  split_ifs <;> omega

theorem toNat_ofInt (h0 : 0 ≤ x) (h : x < 256) : ((UInt8.ofInt x).toNat : ℤ) = x := by
  rw [UInt8.ofInt, UInt8.toNat_ofNat']
  omega

/-! ## Little endian -/

/-- The `k` low bytes of `n`, least significant byte first. -/
def leBytes : ℕ → ℕ → List UInt8
  | 0, _ => []
  | k + 1, n => UInt8.ofNat n :: leBytes k (n / 256)

/-- The value of bytes with the least significant byte first. -/
def ofLeBytes : List UInt8 → ℕ
  | [] => 0
  | b :: bs => b.toNat + 256 * ofLeBytes bs

@[simp] theorem length_leBytes (k n : ℕ) : (leBytes k n).length = k := by
  induction k generalizing n with
  | zero => rfl
  | succ k ih => simp [leBytes, ih]

/-- Decoding an encoding gives the value modulo the range of the bytes. -/
theorem ofLeBytes_leBytes (k n : ℕ) : ofLeBytes (leBytes k n) = n % 256 ^ k := by
  induction k generalizing n with
  | zero => simp [leBytes, ofLeBytes, Nat.mod_one]
  | succ k ih =>
    have hb : (UInt8.ofNat n).toNat = n % 256 := by simp
    rw [leBytes, ofLeBytes, ih, hb, pow_succ', Nat.mod_mul]

theorem ofLeBytes_leBytes_of_lt {k : ℕ} (h : n < 256 ^ k) : ofLeBytes (leBytes k n) = n := by
  rw [ofLeBytes_leBytes, Nat.mod_eq_of_lt h]

/-- The value of `k` bytes is in their range. -/
theorem ofLeBytes_lt (bs : List UInt8) : ofLeBytes bs < 256 ^ bs.length := by
  induction bs with
  | nil => simp [ofLeBytes]
  | cons b bs ih =>
    have hb : b.toNat < 256 := b.toNat_lt
    rw [ofLeBytes, List.length_cons, pow_succ']
    omega

theorem leBytes_ofLeBytes (bs : List UInt8) : leBytes bs.length (ofLeBytes bs) = bs := by
  induction bs with
  | nil => rfl
  | cons b bs ih =>
    have hb : b.toNat < 256 := b.toNat_lt
    have hhead : UInt8.ofNat (b.toNat + 256 * ofLeBytes bs) = b := by
      rw [← UInt8.toNat_inj]
      simp
    have htail : (b.toNat + 256 * ofLeBytes bs) / 256 = ofLeBytes bs := by omega
    rw [List.length_cons, ofLeBytes, leBytes, hhead, htail, ih]

/-! ## Big endian -/

/-- The `k` low bytes of `n`, most significant byte first. -/
def beBytes (k n : ℕ) : List UInt8 := (leBytes k n).reverse

/-- The value of bytes with the most significant byte first. -/
def ofBeBytes (bs : List UInt8) : ℕ := ofLeBytes bs.reverse

@[simp] theorem length_beBytes (k n : ℕ) : (beBytes k n).length = k := by simp [beBytes]

theorem ofBeBytes_beBytes_of_lt {k : ℕ} (h : n < 256 ^ k) : ofBeBytes (beBytes k n) = n := by
  rw [ofBeBytes, beBytes, List.reverse_reverse, ofLeBytes_leBytes_of_lt h]

theorem beBytes_ofBeBytes (bs : List UInt8) : beBytes bs.length (ofBeBytes bs) = bs := by
  rw [beBytes, ofBeBytes, ← List.length_reverse, leBytes_ofLeBytes, List.reverse_reverse]

end Dlt.Lib
