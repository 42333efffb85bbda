import Mathlib.Data.List.Basic
import Mathlib.Data.Nat.Notation

/-!
# A file that is read

* `ByteFile.seek` — the file at another position, which may lie behind the end.
-/

namespace Dlt.Lib

/-- A file that is open for reading. -/
structure ByteFile where
  content : List UInt8
  pos : ℕ
deriving DecidableEq

namespace ByteFile

/-- What lies behind the position. -/
def rest (f : ByteFile) : List UInt8 := f.content.drop f.pos

/-- What `fread` stores of `n` bytes. -/
def got (f : ByteFile) (n : ℕ) : List UInt8 := f.rest.take n

/-- The file behind a `fread` of `n` bytes. -/
def skip (f : ByteFile) (n : ℕ) : ByteFile := { f with pos := f.pos + (f.got n).length }

/-- The file at another position. -/
def seek (f : ByteFile) (pos : ℕ) : ByteFile := { f with pos }

variable {f : ByteFile} {n : ℕ}

@[simp] theorem content_skip (f : ByteFile) (n : ℕ) : (f.skip n).content = f.content := rfl

@[simp] theorem content_seek (f : ByteFile) (pos : ℕ) : (f.seek pos).content = f.content := rfl

@[simp] theorem pos_seek (f : ByteFile) (pos : ℕ) : (f.seek pos).pos = pos := rfl

@[simp] theorem rest_seek (f : ByteFile) (pos : ℕ) : (f.seek pos).rest = f.content.drop pos := rfl

theorem length_got (f : ByteFile) (n : ℕ) : (f.got n).length = min n f.rest.length := List.length_take

section

variable (h : n ≤ f.rest.length)
include h

theorem length_got_of_le : (f.got n).length = n := by
  rw [length_got]
  exact Nat.min_eq_left h

theorem pos_skip_of_le : (f.skip n).pos = f.pos + n := by
  unfold skip
  rw [length_got_of_le h]

theorem rest_skip_of_le : (f.skip n).rest = f.rest.drop n := by
  unfold rest
  rw [content_skip, pos_skip_of_le h, List.drop_drop]

end

theorem length_rest_skip_le (f : ByteFile) (n : ℕ) : (f.skip n).rest.length ≤ f.rest.length := by
  have hpos : f.pos ≤ (f.skip n).pos := Nat.le_add_right _ _
  unfold rest
  rw [content_skip, List.length_drop, List.length_drop]
  omega

end ByteFile

end Dlt.Lib
