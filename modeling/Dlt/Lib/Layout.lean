import Dlt.Lib.Machine

/-!
# Layouts of a fixed size

* `Layout.uint8`, `Layout.int8`, `Layout.uint32`, `Layout.int32` — the integers, little endian.
-/

namespace Dlt.Lib

variable {α β : Type*}

/-- A layout of the values of `α` in a fixed number of bytes. -/
structure Layout (α : Type*) where
  size : ℕ
  encode : α → List UInt8
  decode : List UInt8 → α
  /-- Every value fills the layout. -/
  length_encode : ∀ a, (encode a).length = size
  /-- The bytes of a value have this value. -/
  decode_encode : ∀ a, decode (encode a) = a

namespace Layout

attribute [simp] length_encode decode_encode

/-- A value, cut out of the bytes that follow it, is the value. -/
theorem decode_take (l : Layout α) (a : α) (rest : List UInt8) :
    l.decode ((l.encode a ++ rest).take l.size) = a := by
  rw [List.take_left' (l.length_encode a), l.decode_encode]

theorem encode_ne_nil (l : Layout α) (a : α) (h : 0 < l.size) : l.encode a ≠ [] := by
  intro hnil
  have hlen := l.length_encode a
  rw [hnil, List.length_nil] at hlen
  omega

/-! ## Structures -/

/-- One layout behind another. -/
def prod (l : Layout α) (m : Layout β) : Layout (α × β) where
  size := l.size + m.size
  encode p := l.encode p.1 ++ m.encode p.2
  decode bytes := (l.decode (bytes.take l.size), m.decode (bytes.drop l.size))
  length_encode p := by simp
  decode_encode p := by
    rw [l.decode_take, List.drop_left' (l.length_encode p.1), m.decode_encode]

/-- A layout, seen through a map that has a right inverse. -/
def map (l : Layout α) (f : α → β) (g : β → α) (h : ∀ b, f (g b) = b) : Layout β where
  size := l.size
  encode b := l.encode (g b)
  decode bytes := f (l.decode bytes)
  length_encode b := l.length_encode (g b)
  decode_encode b := by rw [l.decode_encode, h]

/-! ## Integers -/

/-- `uint8_t`. -/
def uint8 : Layout UInt8 where
  size := 1
  encode x := [x]
  decode bytes := bytes.getD 0 0
  length_encode _ := rfl
  decode_encode _ := rfl

/-- `int8_t`. -/
def int8 : Layout Int8 := uint8.map UInt8.toInt8 Int8.toUInt8 fun x => Int8.toInt8_toUInt8 x

/-- `uint32_t`. -/
def uint32 : Layout UInt32 where
  size := 4
  encode x := leBytes 4 x.toNat
  decode bytes := UInt32.ofNat (ofLeBytes bytes)
  length_encode x := length_leBytes 4 x.toNat
  decode_encode x := by
    rw [ofLeBytes_leBytes_of_lt (by have := x.toNat_lt; omega), UInt32.ofNat_toNat]

/-- `int32_t`. -/
def int32 : Layout Int32 := uint32.map UInt32.toInt32 Int32.toUInt32 fun x => Int32.toInt32_toUInt32 x

end Layout

end Dlt.Lib
