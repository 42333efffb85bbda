import Dlt.Lib.Ring
import Mathlib.Data.List.TakeWhile

/-!
# Texts in a piece of memory

* `Kept` — what no write takes away: the size of the memory, and that there is a zero.
-/

namespace Dlt.Lib

open List

/-- The `n` bytes from a position on. -/
def peek (mem : List UInt8) (pos n : ℕ) : Option (List UInt8) :=
  if pos + n ≤ mem.length then some ((mem.drop pos).take n) else none

/-- Bytes are written. -/
def poke (mem : List UInt8) (pos : ℕ) (bytes : List UInt8) : Option (List UInt8) :=
  if pos + bytes.length ≤ mem.length then some (overwrite mem pos bytes) else none

/-- The text from a position up to the next zero. -/
def cstring (mem : List UInt8) (pos : ℕ) : Option (List UInt8) :=
  if 0 ∈ mem.drop pos then some ((mem.drop pos).takeWhile (· ≠ 0)) else none

/-- `snprintf`: a text is written into `size` bytes. -/
def snprintf (mem : List UInt8) (pos size : ℕ) (text : List UInt8) : Option (List UInt8) :=
  if size = 0 then some mem else poke mem pos (text.take (size - 1) ++ [0])

/-- What no write takes away. -/
structure Kept (mem mem' : List UInt8) : Prop where
  length : mem'.length = mem.length
  terminated : 0 ∈ mem → 0 ∈ mem'

section

variable {mem mem' mem'' text bytes : List UInt8} {pos size n : ℕ}

theorem Kept.refl (mem : List UInt8) : Kept mem mem := ⟨rfl, id⟩

theorem Kept.trans (h : Kept mem mem') (h' : Kept mem' mem'') : Kept mem mem'' :=
  ⟨h'.length.trans h.length, h'.terminated ∘ h.terminated⟩

theorem peek_eq (h : pos + n ≤ mem.length) : peek mem pos n = some ((mem.drop pos).take n) := if_pos h

theorem drop_poke (h : poke mem pos bytes = some mem') :
    ∃ rest, mem'.drop pos = bytes ++ rest ∧ mem'.length = mem.length := by
  unfold poke at h
  split_ifs at h with hfits
  obtain rfl := Option.some.inj h
  have hpos : pos ≤ mem.length := by omega
  refine ⟨mem.drop (pos + bytes.length), ?_, length_overwrite hfits⟩
  unfold overwrite
  rw [append_assoc, drop_append_of_le_length (by rw [length_take]; omega),
    drop_eq_nil_of_le (by rw [length_take]; omega), nil_append]

theorem poke_eq_some_iff : (∃ mem', poke mem pos bytes = some mem') ↔ pos + bytes.length ≤ mem.length := by
  unfold poke
  split_ifs with h
  · exact ⟨fun _ => h, fun _ => ⟨_, rfl⟩⟩
  · exact ⟨fun ⟨_, h'⟩ => absurd h' nofun, fun h' => absurd h' h⟩

theorem length_poke (h : poke mem pos bytes = some mem') : mem'.length = mem.length := by
  obtain ⟨_, -, hlength⟩ := drop_poke h
  exact hlength

theorem terminated_poke (h : poke mem pos bytes = some mem') (hzero : 0 ∈ bytes) : 0 ∈ mem' := by
  obtain ⟨rest, hdrop, -⟩ := drop_poke h
  apply mem_of_mem_drop
  rw [hdrop]
  exact mem_append_left _ hzero

/-! ## The text at a position -/

theorem cstring_eq_some_iff : (∃ s, cstring mem pos = some s) ↔ 0 ∈ mem.drop pos := by
  unfold cstring
  split_ifs with h
  · exact ⟨fun _ => h, fun _ => ⟨_, rfl⟩⟩
  · exact ⟨fun ⟨_, h'⟩ => absurd h' nofun, fun h' => absurd h' h⟩

theorem length_lt_of_cstring {s : List UInt8} (h : cstring mem pos = some s) : pos + s.length < mem.length := by
  unfold cstring at h
  split_ifs at h with hzero
  obtain rfl := Option.some.inj h
  have hbegin := List.takeWhile_prefix (l := mem.drop pos) (· ≠ (0 : UInt8))
  have hne : ((mem.drop pos).takeWhile (· ≠ (0 : UInt8))).length ≠ (mem.drop pos).length := by
    intro hlength
    have hall := mem_takeWhile_imp (hbegin.eq_of_length hlength ▸ hzero)
    simp at hall
  have hle := hbegin.length_le
  rw [length_drop] at hne hle
  omega

/-- **A text with a zero behind it.** -/
theorem cstring_append_zero (h : 0 ∉ text) (rest : List UInt8) : cstring (text ++ 0 :: rest) 0 = some text := by
  have htake : (text ++ 0 :: rest).takeWhile (· ≠ (0 : UInt8)) = text := by
    rw [takeWhile_append_of_pos (by
      intro b hb
      simpa using fun heq : b = 0 => h (heq ▸ hb))]
    simp
  unfold cstring
  rw [drop_zero, if_pos (mem_append_right text mem_cons_self), htake]

/-! ## Writing a text -/

/-- **Where a text can be written.** -/
theorem snprintf_eq_some_iff :
    (∃ mem', snprintf mem pos size text = some mem') ↔ size = 0 ∨ pos + min text.length (size - 1) < mem.length := by
  unfold snprintf poke
  by_cases hsize : size = 0
  · rw [if_pos hsize]
    exact ⟨fun _ => .inl hsize, fun _ => ⟨_, rfl⟩⟩
  · rw [if_neg hsize]
    have hlength : (text.take (size - 1) ++ [0]).length = min text.length (size - 1) + 1 := by
      rw [length_append, length_take, Nat.min_comm, length_singleton]
    rw [hlength]
    split_ifs with hfits
    · exact ⟨fun _ => .inr (by omega), fun _ => ⟨_, rfl⟩⟩
    · exact ⟨fun ⟨_, h⟩ => absurd h nofun, fun h => absurd (h.resolve_left hsize) (by omega)⟩

theorem terminated_snprintf (h : snprintf mem pos size text = some mem') (hsize : 0 < size) :
    0 ∈ mem'.drop pos := by
  unfold snprintf at h
  rw [if_neg (Nat.pos_iff_ne_zero.mp hsize)] at h
  obtain ⟨rest, hdrop, -⟩ := drop_poke h
  rw [hdrop]
  simp

theorem kept_snprintf (h : snprintf mem pos size text = some mem') : Kept mem mem' := by
  by_cases hsize : size = 0
  · unfold snprintf at h
    rw [if_pos hsize] at h
    obtain rfl := Option.some.inj h
    exact .refl mem
  · refine ⟨?_, fun _ => mem_of_mem_drop (terminated_snprintf h (Nat.pos_of_ne_zero hsize))⟩
    unfold snprintf at h
    rw [if_neg hsize] at h
    obtain ⟨rest, -, hlength⟩ := drop_poke h
    exact hlength

end

end Dlt.Lib
