import Dlt.Payload.Print
import Dlt.User.LogWrite

/-!
# Printing one argument

* `dltMessageArgumentPrint` — the whole function.
-/

namespace Dlt.Payload

open Dlt.Lib Dlt.Shared Dlt.User

/-! ## Data -/

/-- What the printer reads besides the message. -/
structure PrintEnv where
  /-- `print_with_attributes`. -/
  withAttributes : Bool
  /-- The conversion `%g` of a `float32_t`, given by its bits. -/
  float32 : ℕ → List UInt8
  /-- The conversion `%g` of a `float64_t`, given by its bits. -/
  float64 : ℕ → List UInt8

/-- `value_text` and `textlength`. -/
structure Slot where
  /-- The position of `value_text` in the text buffer. -/
  pos : ℕ
  /-- `textlength`, a `size_t`. -/
  room : ℕ
deriving DecidableEq

/-- `textlength -= n`. -/
def sizeSub (room n : ℕ) : ℕ := (((room : ℤ) - n) % 18446744073709551616).toNat

/-- The unit: its position in the payload and its length. -/
structure UnitText where
  /-- `unit_text_src`. -/
  src : ℕ
  /-- `unit_text_len`. -/
  len : ℕ

def noUnit : UnitText := { src := 0, len := 0 }

/-- `DLT_TYPE_INFO_TYLE`. Source: `dlt_protocol.h` -/
def dltTypeInfoTyle : ℕ := 0x0f

/-- `DLT_TYPE_INFO_VARI`. Source: `dlt_protocol.h` -/
def dltTypeInfoVari : ℕ := 0x800

/-- `DLT_TYPE_INFO_FIXP`. Source: `dlt_protocol.h` -/
def dltTypeInfoFixp : ℕ := 0x1000

/-- `DLT_TYPE_INFO_TRAI`. Source: `dlt_protocol.h` -/
def dltTypeInfoTrai : ℕ := 0x2000

/-- `DLT_TYPE_INFO_SCOD`. Source: `dlt_protocol.h` -/
def dltTypeInfoScod : ℕ := 0x38000

/-- `DLT_SCOD_ASCII`. Source: `dlt_protocol.h` -/
def dltScodAscii : ℕ := 0

/-- `DLT_TYLE_8BIT` and so on: the sizes of values. Source: `dlt_protocol.h` -/
def tyleSize (tyle : ℕ) : Option ℕ :=
  match tyle with
  | 1 => some 1
  | 2 => some 2
  | 3 => some 4
  | 4 => some 8
  | 5 => some 16
  | _ => none

/-- The part of the type information that is the size. -/
def tyle (typeInfo : ℕ) : ℕ := typeInfo &&& dltTypeInfoTyle

/-- A flag of the type information. -/
def HasFlag (typeInfo flag : ℕ) : Prop := typeInfo &&& flag ≠ 0

instance (typeInfo flag : ℕ) : Decidable (HasFlag typeInfo flag) := inferInstanceAs (Decidable (_ ≠ _))

/-- `DLT_ENDIAN_GET_16`, `DLT_ENDIAN_GET_32`, `DLT_ENDIAN_GET_64`. Source: `dlt_common.h` -/
def dltEndianGet (msg : PayloadMessage) (bytes : List UInt8) : ℕ :=
  if dltIsHtypMsbf msg.htyp then ofBeBytes bytes else ofLeBytes bytes

/-- Line ends become spaces. Source: `dlt_common.c`, `dlt_clean_string` -/
def dltCleanString (text : List UInt8) : List UInt8 := text.map fun c => if c = 13 ∨ c = 10 then 32 else c

section argument

variable (env : PrintEnv) (msg : PayloadMessage)

/-! ## Reading -/

/-- `DLT_MSG_READ_VALUE`: the bytes of the value, or no value. Source: `dlt_common.h` -/
def dltMsgReadValue (n : ℕ) : Printer (Option (List UInt8)) := do
  let s ← get
  if s.datalength < n then
    set { s with datalength := -1 }
    pure none
  else
    let bytes ← Checked.ofOption (peek msg.databuffer s.ptr n)
    set { s with ptr := s.ptr + n, datalength := s.datalength - n }
    pure (some bytes)

/-- `DLT_MSG_READ_VALUE`, and `return DLT_RETURN_ERROR` if there is no value. -/
def readValue (n : ℕ) : Printer (List UInt8) := do
  let bytes ← dltMsgReadValue msg n
  bytes.elim (throw dltReturnError) pure

def readLength : Printer ℕ := do
  let bytes ← readValue msg 2
  pure (dltEndianGet msg bytes)

/-- `if ((*datalength) < n) return DLT_RETURN_ERROR`. -/
def require (n : ℕ) : Printer Unit := do
  let s ← get
  if s.datalength < n then throw dltReturnError

/-- `*ptr += n; *datalength -= n`. -/
def skip (n : ℕ) : Printer Unit :=
  modify fun s => { s with ptr := s.ptr + n, datalength := s.datalength - n }

/-- `DLT_MSG_READ_STRING`, and `return DLT_RETURN_ERROR` if there is no string. Source: `dlt_common.h` -/
def dltMsgReadString (slot : Slot) (length : ℕ) : Printer Unit := do
  let s ← get
  if s.datalength < 0 ∨ length = 0 ∨ slot.room < length ∨ s.datalength < length then
    set { s with datalength := -1 }
    throw dltReturnError
  else
    let bytes ← Checked.ofOption (peek msg.databuffer s.ptr length)
    let text ← Checked.ofOption (poke s.text slot.pos (dltCleanString bytes))
    let text ← Checked.ofOption (poke text (slot.pos + length) [0])
    set { s with text, ptr := s.ptr + length, datalength := s.datalength - length }

/-! ## Attributes -/

/-- A name of `length2` bytes is printed, and the value goes behind it; `taken` is what `textlength` loses.
Source: `dlt_common.c`, `dlt_message_argument_print` -/
def printName (slot : Slot) (length2 taken : ℕ) : Printer Slot := do
  if env.withAttributes ∧ length2 > 1 then
    let s ← get
    let name ← Checked.ofOption (cstring msg.databuffer s.ptr)
    printf slot.pos slot.room (name ++ ascii ":")
    pure { pos := slot.pos + length2, room := sizeSub slot.room taken }
  else pure slot

/-- The name of an argument; `spared` is what `textlength` does not lose. Source: `dlt_message_argument_print` -/
def variName (typeInfo : ℕ) (slot : Slot) (spared : ℕ) : Printer Slot := do
  if HasFlag typeInfo dltTypeInfoVari then
    let length2 ← readLength msg
    require length2
    let slot ← printName env msg slot length2 (length2 - spared)
    skip length2
    pure slot
  else pure slot

/-- The name and the unit of an argument. Source: `dlt_message_argument_print` -/
def variNameUnit (typeInfo : ℕ) (slot : Slot) : Printer (Slot × UnitText) := do
  if HasFlag typeInfo dltTypeInfoVari then
    let length2 ← readLength msg
    let length3 ← readLength msg
    require length2
    let slot ← printName env msg slot length2 length2
    skip length2
    require length3
    let s ← get
    skip length3
    pure (slot, { src := s.ptr, len := length3 })
  else pure (slot, noUnit)

/-- The unit is printed behind the value. Source: `dlt_message_argument_print` -/
def printUnit (slot : Slot) (unit : UnitText) : Printer Unit := do
  if env.withAttributes ∧ unit.len > 1 then
    let currLen ← strlen slot.pos
    let text ← Checked.ofOption (cstring msg.databuffer unit.src)
    printf (slot.pos + currLen) (sizeSub slot.room currLen) (ascii ":" ++ text)

/-! ## Values -/

/-- A value of `n` bytes is read and printed. -/
def printValue (slot : Slot) (n : ℕ) (shown : List UInt8 → List UInt8) : Printer Unit := do
  let bytes ← readValue msg n
  printf slot.pos slot.room (shown bytes)

/-- A value of `n` bytes is printed as digits. -/
def printHex (slot : Slot) (n : ℕ) (delim : UInt8) : Printer Unit := do
  require n
  let s ← get
  let _ ← dltPrintHexStringDelim msg.databuffer slot.pos (i32 slot.room) s.ptr n delim
  skip n

/-- The binary digits of a value, in groups of four. -/
def binaryDigits (width n : ℕ) : List UInt8 :=
  (List.range width).reverse.flatMap fun i =>
    (if i % 4 = 3 ∧ i + 1 ≠ width then [32] else []) ++ [if n.testBit i then 49 else 48]

/-- `0x%0*x`. -/
def hexNumber (width n : ℕ) : List UInt8 := ascii "0x" ++ digits 16 width n

/-- A number of `n` bytes as a signed or an unsigned one. -/
def intText (signed : Bool) (n value : ℕ) : List UInt8 :=
  if signed ∧ 2 ^ (8 * n - 1) ≤ value then ascii (toString ((value : ℤ) - 2 ^ (8 * n))) else ascii (toString value)

/-! ## Types -/

/-- Source: `dlt_message_argument_print`, `DLT_TYPE_INFO_STRG` -/
def argumentString (typeInfo : ℕ) (slot : Slot) : Printer (Slot × UnitText) := do
  let length ← readLength msg
  let slot ← variName env msg typeInfo slot 0
  dltMsgReadString msg slot length
  pure (slot, noUnit)

/-- Source: `dlt_message_argument_print`, `DLT_TYPE_INFO_BOOL` -/
def argumentBool (typeInfo : ℕ) (slot : Slot) : Printer (Slot × UnitText) := do
  -- `textlength` loses one less than `value_text` gains.
  let slot ← variName env msg typeInfo slot 1
  printValue msg slot 1 fun bytes => ascii (toString (ofLeBytes bytes))
  pure (slot, noUnit)

/-- Source: `dlt_message_argument_print`, `DLT_SCOD_BIN` -/
def argumentBin (typeInfo : ℕ) (slot : Slot) : Printer (Slot × UnitText) := do
  match tyle typeInfo with
  | 1 => printValue msg slot 1 fun bytes => ascii "0b" ++ binaryDigits 8 (ofLeBytes bytes)
  | 2 => printValue msg slot 2 fun bytes => ascii "0b" ++ binaryDigits 16 (ofLeBytes bytes)
  | _ => pure ()
  pure (slot, noUnit)

/-- The halves of a value of 64 bits: the second one is read first.
Source: `dlt_message_argument_print`, `DLT_SCOD_HEX` -/
def argumentHex64 (slot : Slot) : Printer Unit := do
  modify fun s => { s with ptr := s.ptr + 4 }
  let high ← readValue msg 4
  printf slot.pos slot.room (hexNumber 8 (ofLeBytes high))
  modify fun s => { s with ptr := s.ptr - 8 }
  let low ← readValue msg 4
  let length ← strlen slot.pos
  printf (slot.pos + length) (sizeSub slot.room length) (digits 16 8 (ofLeBytes low))
  modify fun s => { s with ptr := s.ptr + 4 }

/-- Source: `dlt_message_argument_print`, `DLT_SCOD_HEX` -/
def argumentHex (typeInfo : ℕ) (slot : Slot) : Printer (Slot × UnitText) := do
  match tyle typeInfo with
  | 1 => printValue msg slot 1 fun bytes => hexNumber 2 (ofLeBytes bytes)
  | 2 => printValue msg slot 2 fun bytes => hexNumber 4 (ofLeBytes bytes)
  | 3 => printValue msg slot 4 fun bytes => hexNumber 8 (ofLeBytes bytes)
  | 4 => argumentHex64 msg slot
  | _ => pure ()
  pure (slot, noUnit)

/-- The size of the offset of a fixed point number. Source: `dlt_message_argument_print` -/
def offsetSize (tyle : ℕ) : Option ℕ :=
  match tyle with
  | 1 => some 4
  | 2 => some 4
  | 3 => some 4
  | 4 => some 8
  | 5 => some 16
  | _ => none

/-- The quantisation and the offset are skipped.
Source: `dlt_message_argument_print`, `DLT_TYPE_INFO_FIXP` -/
def fixedPoint (typeInfo : ℕ) : Printer Unit := do
  if HasFlag typeInfo dltTypeInfoFixp then
    let _ ← readValue msg 4
    match offsetSize (tyle typeInfo) with
    | none => throw dltReturnError
    | some n =>
        require n
        skip n

/-- Source: `dlt_message_argument_print`, `DLT_TYPE_INFO_SINT`, `DLT_TYPE_INFO_UINT` -/
def argumentInt (typeInfo : ℕ) (slot : Slot) : Printer (Slot × UnitText) := do
  let (slot, unit) ← variNameUnit env msg typeInfo slot
  fixedPoint msg typeInfo
  match tyleSize (tyle typeInfo) with
  | none => throw dltReturnError
  | some 16 => printHex msg slot 16 32
  | some n =>
      printValue msg slot n fun bytes => intText (HasFlag typeInfo dltTypeInfoSint) n (dltEndianGet msg bytes)
  pure (slot, unit)

/-- Source: `dlt_message_argument_print`, `DLT_TYPE_INFO_FLOA` -/
def argumentFloat (typeInfo : ℕ) (slot : Slot) : Printer (Slot × UnitText) := do
  let (slot, unit) ← variNameUnit env msg typeInfo slot
  match tyleSize (tyle typeInfo) with
  | none => throw dltReturnError
  | some 4 => printValue msg slot 4 fun bytes => env.float32 (dltEndianGet msg bytes)
  | some 8 => printValue msg slot 8 fun bytes => env.float64 (dltEndianGet msg bytes)
  | some n => printHex msg slot n 32
  pure (slot, unit)

/-- Source: `dlt_message_argument_print`, `DLT_TYPE_INFO_RAWD` -/
def argumentRaw (typeInfo : ℕ) (slot : Slot) : Printer (Slot × UnitText) := do
  let length ← readLength msg
  let slot ← variName env msg typeInfo slot 0
  printHex msg slot length 39
  pure (slot, noUnit)

/-- Source: `dlt_message_argument_print`, `DLT_TYPE_INFO_TRAI` -/
def argumentTrace (slot : Slot) : Printer (Slot × UnitText) := do
  let length ← readLength msg
  dltMsgReadString msg slot length
  pure (slot, noUnit)

/-- The value, by its type. Source: `dlt_message_argument_print` -/
def argumentValue (typeInfo : ℕ) (slot : Slot) : Printer (Slot × UnitText) :=
  let scod := typeInfo &&& dltTypeInfoScod
  if HasFlag typeInfo dltTypeInfoStrg ∧ (scod = dltScodAscii ∨ scod = dltScodUtf8) then
    argumentString env msg typeInfo slot
  else if HasFlag typeInfo dltTypeInfoBool then argumentBool env msg typeInfo slot
  else if HasFlag typeInfo dltTypeInfoUint ∧ scod = dltScodBin then argumentBin msg typeInfo slot
  else if HasFlag typeInfo dltTypeInfoUint ∧ scod = dltScodHex then argumentHex msg typeInfo slot
  else if HasFlag typeInfo dltTypeInfoSint ∨ HasFlag typeInfo dltTypeInfoUint then argumentInt env msg typeInfo slot
  else if HasFlag typeInfo dltTypeInfoFloa then argumentFloat env msg typeInfo slot
  else if HasFlag typeInfo dltTypeInfoRawd then argumentRaw env msg typeInfo slot
  else if HasFlag typeInfo dltTypeInfoTrai then argumentTrace msg slot
  else throw dltReturnError

/-- `dlt_message_argument_print` with a `byteLength` below zero. Source: `dlt_message_argument_print` -/
def dltMessageArgumentPrint (typeInfo : ℕ) (slot : Slot) : Printer Unit := do
  let (slot, unit) ← argumentValue env msg typeInfo slot
  require 0
  printUnit env msg slot unit

end argument

end Dlt.Payload
