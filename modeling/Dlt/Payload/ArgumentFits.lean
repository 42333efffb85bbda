import Dlt.Payload.Payload

/-!
# When an argument fits

* `PrintState.skip`, `lengthAt` — what the payload holds at the position. `Slot.behindName`, `PrintState.behindName`
  — where the value goes, and the state, when the name was printed.
* `VariFits`, `VariUnitFits`, `FixedPointFits` — a condition for what follows the attributes, and the quantisation
  and the offset.

An argument that is cut off is not printed any further, so every condition is about the parts that are there.
-/

namespace Dlt.Payload

open Dlt.Lib Dlt.Shared Dlt.User

/-! ## The payload at a position -/

/-- The position goes over `n` bytes. -/
def PrintState.skip (s : PrintState) (n : ℕ) : PrintState :=
  { s with ptr := s.ptr + n, datalength := s.datalength - n }

@[simp] theorem PrintState.skip_text (s : PrintState) (n : ℕ) : (s.skip n).text = s.text := rfl

@[simp] theorem PrintState.skip_ptr (s : PrintState) (n : ℕ) : (s.skip n).ptr = s.ptr + n := rfl

@[simp] theorem PrintState.skip_datalength (s : PrintState) (n : ℕ) : (s.skip n).datalength = s.datalength - n := rfl

section fits

variable (env : PrintEnv) (msg : PayloadMessage)

def bytesAt (s : PrintState) (n : ℕ) : List UInt8 := (msg.databuffer.drop s.ptr).take n

def lengthAt (s : PrintState) : ℕ := dltEndianGet msg (bytesAt msg s 2)

/-! ## Parts of an argument -/

/-- A name of this length is printed. -/
def Named (length2 : ℕ) : Prop := env.withAttributes ∧ length2 > 1

instance (length2 : ℕ) : Decidable (Named env length2) := inferInstanceAs (Decidable (_ ∧ _))

/-- A name that is printed ends in the payload. -/
def NameFits (s : PrintState) (length2 : ℕ) : Prop := Named env length2 → 0 ∈ msg.databuffer.drop s.ptr

/-- Where the value goes, behind the name. -/
def Slot.behindName (slot : Slot) (length2 taken : ℕ) : Slot :=
  if Named env length2 then { pos := slot.pos + length2, room := sizeSub slot.room taken } else slot

def nameText (s : PrintState) (slot : Slot) (length2 : ℕ) : List UInt8 :=
  if Named env length2 then
    (snprintf s.text slot.pos slot.room ((cstring msg.databuffer s.ptr).getD [] ++ ascii ":")).getD s.text
  else s.text

/-- The name is printed, and the position goes over it. -/
def PrintState.behindName (s : PrintState) (slot : Slot) (length2 : ℕ) : PrintState :=
  { s with text := nameText env msg s slot length2 }.skip length2

/-- A string that is read fits with the zero behind it. -/
def StringFits (slot : Slot) (length : ℕ) (s : PrintState) : Prop :=
  0 < length → length ≤ slot.room → length ≤ s.datalength → slot.pos + length < s.text.length

/-- A piece fits as far as it is printed. -/
def PieceFits (slot : Slot) (text piece : List UInt8) : Prop :=
  slot.room = 0 ∨ slot.pos + min piece.length (slot.room - 1) < text.length

/-- A unit that is printed ends in the payload, and the text in front of it ends; `printed` says that there is a
value in front of it. -/
def UnitFits (slot : Slot) (unit : UnitText) (printed : Prop) (text : List UInt8) : Prop :=
  env.withAttributes = true → unit.len > 1 →
    (printed ∨ 0 ∈ text.drop slot.pos) ∧ 0 ∈ msg.databuffer.drop unit.src

/-- A name that is there fits, and `next` holds behind it. -/
def VariFits (typeInfo : ℕ) (slot : Slot) (spared : ℕ) (next : Slot → PrintState → Prop) (s : PrintState) : Prop :=
  if HasFlag typeInfo dltTypeInfoVari then
    2 ≤ s.datalength → (lengthAt msg s : ℤ) ≤ (s.skip 2).datalength →
      NameFits env msg (s.skip 2) (lengthAt msg s) ∧
        next (slot.behindName env (lengthAt msg s) (lengthAt msg s - spared))
          ((s.skip 2).behindName env msg slot (lengthAt msg s))
  else next slot s

/-- A name that is there fits, and `next` holds behind the name and the unit. -/
def VariUnitFits (typeInfo : ℕ) (slot : Slot) (next : Slot → UnitText → PrintState → Prop) (s : PrintState) : Prop :=
  if HasFlag typeInfo dltTypeInfoVari then
    2 ≤ s.datalength → 2 ≤ (s.skip 2).datalength →
      let length2 := lengthAt msg s
      let length3 := lengthAt msg (s.skip 2)
      let named := ((s.skip 2).skip 2).behindName env msg slot length2
      (length2 : ℤ) ≤ ((s.skip 2).skip 2).datalength →
        NameFits env msg ((s.skip 2).skip 2) length2 ∧
          ((length3 : ℤ) ≤ named.datalength →
            next (slot.behindName env length2 length2) { src := named.ptr, len := length3 } (named.skip length3))
  else next slot noUnit s

/-- `next` holds behind the quantisation and the offset, if they are there. -/
def FixedPointFits (typeInfo : ℕ) (next : PrintState → Prop) (s : PrintState) : Prop :=
  if HasFlag typeInfo dltTypeInfoFixp then
    4 ≤ s.datalength → ∀ n ∈ offsetSize (tyle typeInfo), (n : ℤ) ≤ (s.skip 4).datalength → next ((s.skip 4).skip n)
  else next s

/-- A value of `n` bytes that is printed as a piece, and the unit behind it. -/
def ValueFits (slot : Slot) (unit : UnitText) (n : ℕ) (shown : List UInt8 → List UInt8) (s : PrintState) : Prop :=
  n ≤ s.datalength →
    PieceFits slot s.text (shown (bytesAt msg s n)) ∧ UnitFits env msg slot unit (0 < slot.room) s.text

/-- A value of `n` bytes that is printed as digits, and the unit behind it. -/
def HexFits (slot : Slot) (unit : UnitText) (n : ℕ) (s : PrintState) : Prop :=
  n ≤ s.datalength → UnitFits env msg slot unit (0 < n ∧ (n : ℤ) * 3 ≤ i32 slot.room) s.text

/-! ## Types -/

def ArgumentStringFits (typeInfo : ℕ) (slot : Slot) (s : PrintState) : Prop :=
  2 ≤ s.datalength → VariFits env msg typeInfo slot 0 (fun slot s' => StringFits slot (lengthAt msg s) s') (s.skip 2)

/-- A truth value fits. -/
def ArgumentBoolFits (typeInfo : ℕ) (slot : Slot) (s : PrintState) : Prop :=
  VariFits env msg typeInfo slot 1
    (fun slot s => ValueFits env msg slot noUnit 1 (fun bytes => ascii (toString (ofLeBytes bytes))) s) s

/-- A number of 64 bits that is printed in hexadecimal digits has eight bytes, or fewer than four. -/
def ArgumentHexFits (typeInfo : ℕ) (s : PrintState) : Prop :=
  tyle typeInfo = 4 → 4 ≤ s.datalength → 8 ≤ s.datalength

def ArgumentIntFits (typeInfo : ℕ) (slot : Slot) (s : PrintState) : Prop :=
  VariUnitFits env msg typeInfo slot (fun slot unit s =>
    FixedPointFits typeInfo (fun s => ∀ n ∈ tyleSize (tyle typeInfo),
      if n = 16 then HexFits env msg slot unit n s
      else ValueFits env msg slot unit n
        (fun bytes => intText (HasFlag typeInfo dltTypeInfoSint) n (dltEndianGet msg bytes)) s) s) s

/-- A floating point number fits. -/
def ArgumentFloatFits (typeInfo : ℕ) (slot : Slot) (s : PrintState) : Prop :=
  VariUnitFits env msg typeInfo slot (fun slot unit s => ∀ n ∈ tyleSize (tyle typeInfo),
    if n = 4 then ValueFits env msg slot unit n (fun bytes => env.float32 (dltEndianGet msg bytes)) s
    else if n = 8 then ValueFits env msg slot unit n (fun bytes => env.float64 (dltEndianGet msg bytes)) s
    else HexFits env msg slot unit n s) s

def ArgumentRawFits (typeInfo : ℕ) (slot : Slot) (s : PrintState) : Prop :=
  2 ≤ s.datalength → VariFits env msg typeInfo slot 0 (fun _ _ => True) (s.skip 2)

def ArgumentTraceFits (slot : Slot) (s : PrintState) : Prop :=
  2 ≤ s.datalength → StringFits slot (lengthAt msg s) (s.skip 2)

/-- The condition for an argument, type by type. -/
def ArgumentFits (typeInfo : ℕ) (slot : Slot) (s : PrintState) : Prop :=
  let scod := typeInfo &&& dltTypeInfoScod
  if HasFlag typeInfo dltTypeInfoStrg ∧ (scod = dltScodAscii ∨ scod = dltScodUtf8) then
    ArgumentStringFits env msg typeInfo slot s
  else if HasFlag typeInfo dltTypeInfoBool then ArgumentBoolFits env msg typeInfo slot s
  else if HasFlag typeInfo dltTypeInfoUint ∧ scod = dltScodBin then True
  else if HasFlag typeInfo dltTypeInfoUint ∧ scod = dltScodHex then ArgumentHexFits typeInfo s
  else if HasFlag typeInfo dltTypeInfoSint ∨ HasFlag typeInfo dltTypeInfoUint then
    ArgumentIntFits env msg typeInfo slot s
  else if HasFlag typeInfo dltTypeInfoFloa then ArgumentFloatFits env msg typeInfo slot s
  else if HasFlag typeInfo dltTypeInfoRawd then ArgumentRawFits env msg typeInfo slot s
  else if HasFlag typeInfo dltTypeInfoTrai then ArgumentTraceFits msg slot s
  else True

end fits

/-! ## A whole payload -/

/-- In the two ASCII modes every argument of a verbose message that the loop comes to fits. -/
def PayloadFits (env : PrintEnv) (msg : ReadMessage) (text : TextBuffer) (type : OutputMode) : Prop :=
  type = .ascii ∨ type = .asciiLimited → dltMsgIsNonverbose msg.toPayloadMessage = false →
    ∀ num < msg.noar.toNat, ∀ typeInfo slot s, ComesTo env msg text num typeInfo slot s →
      ArgumentFits env msg.toPayloadMessage typeInfo slot s

end Dlt.Payload
