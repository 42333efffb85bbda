import Mathlib.Data.List.Rotate

/-!
# Ring memory

A ring is a list of cells read from a position that wraps at the end. A position ranges over
`0, …, mem.length`: the end position and position `0` name the same place, so a writer that
fills the memory exactly may stop at either of them.

* The ring's contents from `p` on are `mem.rotate p` (Mathlib's rotation). `Ring.rotate_write`
  and `Ring.read_eq_take` describe the three operations by it, with no case on the wrap.
* `Ring.Holds mem r content` — the cells from `r` on begin with `content`. `Holds.write` is the
  producer's rule and `Holds.advance` the consumer's.
-/

namespace Dlt.Lib

open List

variable {α : Type*}
variable {off n : ℕ}

/-! ## Overwriting a block -/

/-- `data` copied over the cells from `off` on. -/
def overwrite (mem : List α) (off : ℕ) (data : List α) : List α :=
  mem.take off ++ data ++ mem.drop (off + data.length)

variable {mem : List α}

@[simp] theorem length_overwrite {data : List α} (h : off + data.length ≤ mem.length) :
    (overwrite mem off data).length = mem.length := by
  simp only [overwrite, length_append, length_take, length_drop]
  omega

/-- A block that begins in the memory or at its end makes it as long as it has to be. -/
theorem length_overwrite_eq_max (data : List α) (h : off ≤ mem.length) :
    (overwrite mem off data).length = max mem.length (off + data.length) := by
  simp only [overwrite, length_append, length_take, length_drop]
  omega

theorem overwrite_length (mem data : List α) : overwrite mem mem.length data = mem ++ data := by
  unfold overwrite
  rw [take_length, drop_eq_nil_of_le (Nat.le_add_right _ _), append_nil]

theorem overwrite_nil (mem : List α) (off : ℕ) : overwrite mem off [] = mem := by
  unfold overwrite
  rw [append_nil, length_nil, Nat.add_zero, take_append_drop]

theorem take_overwrite (data : List α) (h : off ≤ mem.length) :
    (overwrite mem off data).take off = mem.take off := by
  have hlen : (mem.take off).length = off := by simp [h]
  rw [overwrite, append_assoc, take_left' hlen]

theorem drop_overwrite (data : List α) (h : off ≤ mem.length) :
    (overwrite mem off data).drop off = data ++ mem.drop (off + data.length) := by
  have hlen : (mem.take off).length = off := by simp [h]
  rw [overwrite, append_assoc, drop_left' hlen]

/-- A block at offset `0` replaces the first cells. -/
theorem overwrite_zero (mem data : List α) :
    overwrite mem 0 data = data ++ mem.drop data.length := by
  simp [overwrite]

theorem overwrite_overwrite {fst : List α} (snd : List α) (h : off + fst.length ≤ mem.length) :
    overwrite (overwrite mem off fst) (off + fst.length) snd = overwrite mem off (fst ++ snd) := by
  have hlen : (mem.take off ++ fst).length = off + fst.length := by
    simp only [length_append, length_take]
    omega
  unfold overwrite
  rw [take_left' hlen, ← hlen, drop_append, hlen, drop_of_length_le (by omega)]
  simp [Nat.add_assoc]

/-! ## Positions on the ring -/

namespace Ring

/-- The position `n` cells after `p` on a ring of `cap` cells. The end position is kept: the wrap
happens only when the end is passed. -/
def advance (cap p n : ℕ) : ℕ := if p + n ≤ cap then p + n else p + n - cap

theorem advance_le {cap p : ℕ} (hp : p ≤ cap) (hn : n ≤ cap) : advance cap p n ≤ cap := by
  unfold advance
  split_ifs <;> omega

/-- Advancing twice is advancing by the sum, as long as the sum is at most one turn. -/
theorem advance_advance {cap p m : ℕ} (hp : p ≤ cap) (hmn : m + n ≤ cap) :
    advance cap (advance cap p m) n = advance cap p (m + n) := by
  unfold advance
  split_ifs <;> omega

/-- Reading from the advanced position is reading `n` cells later. -/
theorem rotate_advance (mem : List α) (p n : ℕ) :
    mem.rotate (advance mem.length p n) = (mem.rotate p).rotate n := by
  rw [rotate_rotate]
  unfold advance
  split_ifs with h
  · rfl
  · have hsum : p + n = (p + n - mem.length) + mem.length := by omega
    rw [← rotate_mod mem (p + n), hsum, Nat.add_mod_right, rotate_mod]
    congr 1
    omega

/-! ## Writing and reading -/

/-- Write `data` at position `w`: one block, or two when the end is passed. -/
def write (mem : List α) (w : ℕ) (data : List α) : List α :=
  if w + data.length ≤ mem.length then overwrite mem w data
  else overwrite (overwrite mem w (data.take (mem.length - w))) 0 (data.drop (mem.length - w))

/-- Read `n` cells at position `r`: one block, or two when the end is passed. -/
def read (mem : List α) (r n : ℕ) : List α :=
  if r + n ≤ mem.length then (mem.drop r).take n
  else mem.drop r ++ mem.take (r + n - mem.length)

@[simp] theorem length_write {w : ℕ} {data : List α} (hw : w ≤ mem.length) (hd : data.length ≤ mem.length) :
    (write mem w data).length = mem.length := by
  unfold write
  split_ifs with h
  · exact length_overwrite h
  · have hfst : (overwrite mem w (data.take (mem.length - w))).length = mem.length :=
      length_overwrite (by simp only [length_take]; omega)
    rw [length_overwrite (by simp only [length_drop, hfst]; omega), hfst]

/-- **Writing, seen from the write position**: the new data first, then the cells that were there,
less the ones written over. -/
theorem rotate_write {w : ℕ} {data : List α} (hw : w ≤ mem.length) (hd : data.length ≤ mem.length) :
    (write mem w data).rotate w = data ++ (mem.rotate w).drop data.length := by
  have hlen := length_write hw hd
  rw [rotate_eq_drop_append_take (hlen ▸ hw), rotate_eq_drop_append_take hw]
  unfold write
  split_ifs with h
  · rw [drop_overwrite data hw, take_overwrite data hw, append_assoc,
      drop_append_of_le_length (by simp only [length_drop]; omega), drop_drop]
  · -- the end is passed: the first block ends the memory, the second one starts it
    set k := mem.length - w with hk
    have hkd : k ≤ data.length := by omega
    have hfst : overwrite mem w (data.take k) = mem.take w ++ data.take k := by
      have : mem.length ≤ w + k := by omega
      simp [overwrite, hkd, drop_of_length_le this]
    have hrest : (data.drop k).length ≤ w := by simp only [length_drop]; omega
    have hsnd : overwrite (mem.take w ++ data.take k) 0 (data.drop k) =
        (data.drop k ++ (mem.take w).drop (data.drop k).length) ++ data.take k := by
      rw [overwrite_zero, drop_append_of_le_length (by simp only [length_take]; omega),
        append_assoc]
    have hmid : (data.drop k ++ (mem.take w).drop (data.drop k).length).length = w := by
      simp only [length_append, length_drop, length_take]; omega
    have hdrop : (mem.drop w ++ mem.take w).drop data.length
        = (mem.take w).drop (data.drop k).length := by
      rw [drop_append, drop_of_length_le (by simp only [length_drop]; omega)]
      simp [hk]
    rw [hfst, hsnd, drop_left' hmid, take_left' hmid, hdrop, ← append_assoc,
      take_append_drop]

/-- **Reading** takes the first cells from the read position on. -/
theorem read_eq_take {r : ℕ} (hr : r ≤ mem.length) (hn : n ≤ mem.length) :
    read mem r n = (mem.rotate r).take n := by
  rw [rotate_eq_drop_append_take hr]
  unfold read
  split_ifs with h
  · rw [take_append_of_le_length (by simp only [length_drop]; omega)]
  · have hmin : min (n - (mem.length - r)) r = r + n - mem.length := by omega
    have hall : (mem.drop r).take n = mem.drop r :=
      take_of_length_le (by simp only [length_drop]; omega)
    rw [take_append, hall, take_take, length_drop, hmin]

/-! ## Contents from the read position on -/

/-- The cells from `r` on begin with `content`. -/
def Holds (mem : List α) (r : ℕ) (content : List α) : Prop := content <+: mem.rotate r

namespace Holds

variable {mem : List α} {r : ℕ} {content : List α}

theorem length_le (h : Holds mem r content) : content.length ≤ mem.length := by
  simpa using List.IsPrefix.length_le h

theorem nil (mem : List α) (r : ℕ) : Holds mem r [] := nil_prefix

theorem read_eq (h : Holds mem r content) (hr : r ≤ mem.length) (hn : n ≤ content.length) :
    read mem r n = content.take n := by
  obtain ⟨rest, hrest⟩ := h
  have hlen : content.length ≤ mem.length := length_le ⟨rest, hrest⟩
  rw [read_eq_take hr (hn.trans hlen), ← hrest, take_append_of_le_length hn]

/-- **The consumer's rule**: advancing past the first block leaves the rest. -/
theorem advance {first : List α} (h : Holds mem r (first ++ content)) :
    Holds mem (Ring.advance mem.length r first.length) content := by
  obtain ⟨rest, hrest⟩ := h
  unfold Holds
  rw [rotate_advance, ← hrest, append_assoc,
    rotate_append_length_eq, append_assoc]
  exact prefix_append _ _

/-- **The producer's rule**: writing right behind the contents appends to them. -/
theorem write (h : Holds mem r content) (hr : r ≤ mem.length) (data : List α)
    (hfit : content.length + data.length ≤ mem.length) :
    Holds (Ring.write mem (Ring.advance mem.length r content.length) data) r
      (content ++ data) := by
  have hclen := length_le h
  obtain ⟨rest, hrest⟩ := h
  set w := Ring.advance mem.length r content.length with hw
  have hwle : w ≤ mem.length := advance_le hr hclen
  have hdlen : data.length ≤ mem.length := by omega
  have hlen : (Ring.write mem w data).length = mem.length := length_write hwle hdlen
  have hrot : mem.rotate w = rest ++ content := by
    rw [hw, rotate_advance, ← hrest, rotate_append_length_eq]
  have hrestlen : data.length ≤ rest.length := by
    have := congrArg List.length hrest
    simp only [length_append, length_rotate] at this
    omega
  refine ⟨rest.drop data.length, ?_⟩
  -- both sides agree after one more rotation by the length of the old contents
  apply (rotate_eq_rotate (n := content.length)).mp
  calc (content ++ data ++ rest.drop data.length).rotate content.length
      = data ++ rest.drop data.length ++ content := by
        rw [append_assoc, rotate_append_length_eq]
    _ = data ++ (mem.rotate w).drop data.length := by
        rw [hrot, drop_append_of_le_length hrestlen, append_assoc]
    _ = (Ring.write mem w data).rotate w := (rotate_write hwle hdlen).symm
    _ = ((Ring.write mem w data).rotate r).rotate content.length := by
        rw [← rotate_advance, hlen]

end Holds

end Ring

end Dlt.Lib
