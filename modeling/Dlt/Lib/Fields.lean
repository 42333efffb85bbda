import Dlt.Lib.Ring

/-!
# Fields of a memory

* `field_overwrite` — a block that was written is there; `field_overwrite_of_le` and
  `field_overwrite_of_ge` — a field before the block or behind it is what it was.
* `field_field` — a field of a field.
-/

namespace Dlt.Lib

open List

variable {α : Type*}
variable {off n : ℕ}

/-- The `n` cells from `off` on. -/
def field (mem : List α) (off n : ℕ) : List α := (mem.drop off).take n

variable {mem : List α}

theorem length_field (h : off + n ≤ mem.length) : (field mem off n).length = n := by
  rw [field, length_take, length_drop]
  omega

theorem field_overwrite (data : List α) (h : off ≤ mem.length) :
    field (overwrite mem off data) off data.length = data := by
  rw [field, drop_overwrite data h, take_left' rfl]

theorem field_overwrite_of_le {off' : ℕ} (data : List α) (h : off ≤ mem.length) (hle : off' + n ≤ off) :
    field (overwrite mem off data) off' n = field mem off' n := by
  have htake : ∀ xs : List α, field xs off' n = ((xs.take off).drop off').take n := by
    intro xs
    rw [field, drop_take, take_take, Nat.min_eq_left (by omega)]
  rw [htake, take_overwrite data h, ← htake]

theorem field_overwrite_of_ge {off' : ℕ} (data : List α) (h : off ≤ mem.length) (hge : off + data.length ≤ off') :
    field (overwrite mem off data) off' n = field mem off' n := by
  obtain ⟨k, rfl⟩ := Nat.exists_eq_add_of_le hge
  have hlen : (mem.take off ++ data).length = off + data.length := by
    rw [length_append, length_take, Nat.min_eq_left h]
  have hbehind : (overwrite mem off data).drop (off + data.length) = mem.drop (off + data.length) :=
    drop_left' hlen
  rw [field, field, ← drop_drop, hbehind, drop_drop]

theorem field_add (mem : List α) (off m n : ℕ) :
    field mem off (m + n) = field mem off m ++ field mem (off + m) n := by
  rw [field, field, field, take_add, drop_drop]

theorem overwrite_field (h : off + n ≤ mem.length) :
    overwrite mem off (field mem off n) = mem := by
  rw [overwrite, length_field h, field, ← drop_drop, append_assoc, take_append_drop,
    take_append_drop]

theorem field_overwrite_inside {mem data : List α} {k : ℕ} (hk : k + data.length ≤ n) (h : off + n ≤ mem.length) :
    field (overwrite mem (off + k) data) off n = overwrite (field mem off n) k data := by
  obtain ⟨pre, mid, post, rfl, hpre, hmid⟩ : ∃ pre mid post : List α,
      mem = pre ++ (mid ++ post) ∧ pre.length = off ∧ mid.length = n := by
    refine ⟨mem.take off, field mem off n, (mem.drop off).drop n, ?_, ?_, length_field h⟩
    · rw [field, take_append_drop, take_append_drop]
    · rw [length_take]
      omega
  have hfield : ∀ xs : List α, xs.length = n → field (pre ++ (xs ++ post)) off n = xs := by
    intro xs hxs
    rw [field, drop_left' hpre, take_left' hxs]
  have hwrite : overwrite (pre ++ (mid ++ post)) (off + k) data = pre ++ (overwrite mid k data ++ post) := by
    rw [overwrite, overwrite, ← hpre, take_length_add_append, Nat.add_assoc, drop_length_add_append,
      take_append_of_le_length (by omega), drop_append_of_le_length (by omega)]
    simp only [append_assoc]
  rw [hwrite, hfield mid hmid, hfield]
  rw [length_overwrite (by omega), hmid]

theorem field_field {m k : ℕ} (h : k + n ≤ m) :
    field (field mem off m) k n = field mem (off + k) n := by
  rw [field, field, field, drop_take, take_take, drop_drop,
    Nat.min_eq_left (by omega)]

theorem field_append {xs : List α} (ys : List α) (h : off + n ≤ xs.length) :
    field (xs ++ ys) off n = field xs off n := by
  rw [field, field, drop_append_of_le_length (by omega),
    take_append_of_le_length (by rw [length_drop]; omega)]

theorem getD_field (d : α) (h : 0 < n) : (field mem off n).getD 0 d = mem.getD off d := by
  simp only [field, getD_eq_getElem?_getD, getElem?_take_of_lt h, getElem?_drop,
    Nat.add_zero]

/-- The front part of a memory does not see what lies behind it. -/
theorem take_overwrite_append (front rest data : List α) (off : ℕ) :
    (overwrite (front ++ rest) off data).take front.length = (overwrite front off data).take front.length := by
  rcases Nat.lt_or_ge off front.length with hlt | hge
  · have htake : (front ++ rest).take off = front.take off := take_append_of_le_length hlt.le
    unfold overwrite
    rw [htake]
    rcases Nat.lt_or_ge front.length (off + data.length) with hover | hfits
    · have hlen : front.length ≤ (front.take off ++ data).length := by
        rw [length_append, length_take]
        omega
      rw [take_append_of_le_length hlen, take_append_of_le_length hlen]
    · have hlen : (front.take off ++ data ++ front.drop (off + data.length)).length = front.length := by
        simp only [length_append, length_take, length_drop]
        omega
      rw [drop_append_of_le_length hfits, ← append_assoc, take_append_of_le_length hlen.ge]
  · have hall : front.take off = front := take_of_length_le hge
    have hfront : ((front ++ rest).take off).take front.length = front := by
      rw [take_take, Nat.min_eq_left hge, take_left' rfl]
    unfold overwrite
    rw [hall, append_assoc, append_assoc, take_append_of_le_length, hfront, take_left' rfl]
    rw [length_take, length_append]
    omega

theorem getD_overwrite_self {mem data : List α} (h : off ≤ mem.length) (hdata : data ≠ []) (d : α) :
    (overwrite mem off data).getD off d = data.getD 0 d := by
  have hlen : (mem.take off).length = off := by rw [length_take, Nat.min_eq_left h]
  rw [getD_eq_getElem?_getD, getD_eq_getElem?_getD, overwrite, append_assoc,
    getElem?_append_right hlen.le, hlen, Nat.sub_self,
    getElem?_append_left (length_pos_iff.mpr hdata)]

theorem getD_overwrite_of_ge {mem data : List α} {j : ℕ} (h : off ≤ mem.length) (hge : off + data.length ≤ j)
    (d : α) : (overwrite mem off data).getD j d = mem.getD j d := by
  have hlen : (mem.take off ++ data).length = off + data.length := by
    rw [length_append, length_take, Nat.min_eq_left h]
  rw [getD_eq_getElem?_getD, getD_eq_getElem?_getD, overwrite,
    getElem?_append_right (by omega), hlen, getElem?_drop, Nat.add_sub_cancel' hge]

end Dlt.Lib
