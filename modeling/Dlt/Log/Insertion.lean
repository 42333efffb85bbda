import Dlt.Lib.Loop
import Dlt.Log.LogStream

/-!
# The insertion operators of `LogStream`

* `Inserts` — an insertion returns in a state.
-/

namespace Dlt.Log

open Dlt.Lib Dlt.Shared Dlt.User

/-! ## Arguments of a fixed size -/

/-- `DLT_TYLE_8BIT`. Source: `dlt_protocol.h` -/
def dltTyle8Bit : ℕ := 1

/-- `DLT_TYLE_16BIT`. Source: `dlt_protocol.h` -/
def dltTyle16Bit : ℕ := 2

/-- `DLT_TYLE_32BIT`. Source: `dlt_protocol.h` -/
def dltTyle32Bit : ℕ := 3

/-- `DLT_TYLE_64BIT`. Source: `dlt_protocol.h` -/
def dltTyle64Bit : ℕ := 4

/-- An operator for an argument of a fixed size. -/
structure Scalar where
  /-- The size with the argument that is compared with `g_LogLength`. -/
  sizeWith : ℕ → ℕ
  data : List UInt8
  typeInfo : ℕ
  /-- The format, if the operator calls the function with a format. -/
  format : Option DltFormatType

/-- The writing function. Source: `dlt_user.c`, `dlt_user_log_write_generic_attr`,
`dlt_user_log_write_generic_formatted` -/
def Scalar.write (a : Scalar) (env : WriteEnv) (log : LogData) : Option (LogData × ℤ) :=
  match a.format with
  | none => some (dltUserLogWriteGenericAttr env log a.data a.typeInfo)
  | some type => some (dltUserLogWriteGenericFormatted env log a.data a.typeInfo type)

section turns

variable (env : LogEnv)

/-- The writing function is called for the message of a stream. -/
def LogStream.write (σ : LogState) (s : LogStream) (f : WriteEnv → LogData → Option (LogData × ℤ)) :
    Option (LogState × LogStream × ℤ) :=
  s.logLocalData.bind fun (id, data) => (σ.write env data f).map fun (σ, data, ret) =>
    (σ, { s with logLocalData := some (id, data) }, ret)

/-- `Flush` is called if something holds. -/
def flushIf (full : Prop) [Decidable full] (σ : LogState) (s : LogStream) : Option (LogState × LogStream) :=
  if full then flush env σ s else some (σ, s)

/-- The message is too long for one more argument. -/
def Scalar.TooLong (a : Scalar) (σ : LogState) (data : ContextData) : Prop :=
  0 < σ.logLength ∧ a.sizeWith data.size > σ.logLength

instance (a : Scalar) (σ : LogState) (data : ContextData) : Decidable (a.TooLong σ data) :=
  inferInstanceAs (Decidable (_ ∧ _))

/-- The argument is written; the operator is called again if the message was full.
Source: `logstream.cpp`, `LogStream::operator<<` -/
def scalarWrite (a : Scalar) (σ : LogState) (s : LogStream) :
    Option (Turn (LogState × LogStream) (LogState × LogStream)) :=
  (s.write env σ a.write).bind fun (σ, s, ret) =>
    if ret = dltReturnUserBufferFull then (flush env σ s).map .again else some (.done (σ, s))

/-- The operators for arguments of a fixed size. Source: `LogStream::operator<<` -/
def scalarTurn (a : Scalar) : LogState × LogStream → Turn (LogState × LogStream) (LogState × LogStream) :=
  fun (σ, s) =>
    if ¬ s.logRet > dltReturnOk then .done (σ, s)
    else
      (s.logLocalData.bind fun (_, data) =>
        (flushIf env (a.TooLong σ data) σ s).bind fun (σ, s) => scalarWrite env a σ s).getD .undefined

/-! ## Strings and bytes -/

/-- `sizeof(tmp)`, which is `DLT_USER_BUF_MAX_SIZE`. Source: `LogStream::operator<<` -/
def tmpSize : ℕ := 1390

/-- An operator for a string or for bytes. -/
structure Pieces where
  isText : Bool
  /-- What is added to the size of the message before it is compared with `g_LogLength`. -/
  header : ℕ
  /-- `sizeToSend`. -/
  sizeToSend : ℤ
  /-- What is in memory: the data, or what is there from the start of the string on. -/
  bytes : List UInt8
  sizeToSend_le : isText = false → sizeToSend ≤ bytes.length

/-- `leftSize`, an `int32_t`. -/
def leftSize (logLength header size : ℕ) : ℤ := i32 (logLength - (size + header))

/-- The piece that is copied into `tmp`: a string is copied with `strncpy`, and `strlen` then finds its end.
It is `none` if the piece does not fit. Source: `LogStream::operator<<` -/
def Pieces.piece (a : Pieces) (sent leftSize : ℕ) : Option (List UInt8) :=
  if a.isText then
    let piece := ((a.bytes.drop sent).take leftSize).takeWhile (· ≠ 0)
    if tmpSize < leftSize ∨ tmpSize ≤ piece.length then none else some piece
  else
    let tmpsize := min (a.sizeToSend - sent) leftSize
    if tmpSize < tmpsize then none else some ((a.bytes.drop sent).take tmpsize.toNat)

/-- Source: `dlt_user.c`, `dlt_user_log_write_utf8_string` -/
def dltUserLogWriteUtf8String (text : List UInt8) (env : WriteEnv) (log : LogData) : Option (LogData × ℤ) :=
  dltUserLogWriteSizedStringUtilsAttr env log text .utf8String

/-- Source: `dlt_user_log_write_raw_formatted` -/
def dltUserLogWriteRawFormatted (data : List UInt8) (type : DltFormatType) (env : WriteEnv) (log : LogData) :
    LogData × ℤ :=
  dltUserLogWriteRawInternal env log data type

/-- The writing function for a piece. Source: `logstream.cpp`, `LogStream::operator<<` -/
def Pieces.write (a : Pieces) (piece : List UInt8) : WriteEnv → LogData → Option (LogData × ℤ) :=
  if a.isText then dltUserLogWriteUtf8String piece
  else fun env log => some (dltUserLogWriteRawFormatted piece .default env log)

/-- A piece is written. Source: `LogStream::operator<<` -/
def pieceWrite (a : Pieces) (σ : LogState) (s : LogStream) (size sent : ℕ) (piece : List UInt8) :
    Option (Turn (LogState × LogStream × ℕ) (LogState × LogStream)) :=
  (s.write env σ (a.write piece)).bind fun (σ, s, ret) =>
    (flushIf env (size + a.header + piece.length = σ.logLength) σ s).map fun (σ, s) =>
      if ret < dltReturnOk then .done (σ, s) else .again (σ, s, sent + piece.length)

/-- One turn of the loop, with the bytes that were sent. Source: `LogStream::operator<<` -/
def piecesTurn (a : Pieces) :
    LogState × LogStream × ℕ → Turn (LogState × LogStream × ℕ) (LogState × LogStream) :=
  fun (σ, s, sent) =>
    if ¬ sent < a.sizeToSend then .done (σ, s)
    else
      (s.logLocalData.bind fun (_, data) =>
        if leftSize σ.logLength a.header data.size ≤ 0 then (flush env σ s).map fun (σ, s) => .again (σ, s, sent)
        else
          (a.piece sent (leftSize σ.logLength a.header data.size).toNat).bind fun piece =>
            pieceWrite env a σ s data.size sent piece).getD .undefined

/-- The operators for strings: `text` is what is in memory from the start of the string on.
Source: `LogStream::operator<<` -/
def textPieces (sizeToSend : ℤ) (text : List UInt8) : Pieces where
  isText := true
  header := 1 + 2 + 4
  sizeToSend := sizeToSend
  bytes := text
  sizeToSend_le := nofun

/-- The operators for bytes. Source: `LogStream::operator<<` -/
def dataPieces (header : ℕ) (sizeToSend : ℤ) (data : List UInt8) (h : sizeToSend ≤ data.length) : Pieces where
  isText := false
  header := header
  sizeToSend := sizeToSend
  bytes := data
  sizeToSend_le _ := h

end turns

/-! ## The operators -/

structure CString where
  /-- The bytes before the terminating zero. -/
  text : List UInt8
  text_nonzero : ∀ b ∈ text, b ≠ 0

/-- Source: `string_view.h`, `StringView` -/
structure StringView where
  /-- The `length` bytes of the view. -/
  text : List UInt8
  /-- What is in memory behind the view, up to a zero. -/
  behind : List UInt8

/-- What can be inserted into a stream. A floating point number is its bits. -/
inductive Value
  | bool (value : Bool)
  | uint8 (value : UInt8)
  | uint16 (value : UInt16)
  | uint32 (value : UInt32)
  | uint64 (value : UInt64)
  | int8 (value : Int8)
  | int16 (value : Int16)
  | int32 (value : Int32)
  | int64 (value : Int64)
  | float (value : UInt32)
  | double (value : UInt64)
  | logHex8 (value : UInt8)
  | logHex16 (value : UInt16)
  | logHex32 (value : UInt32)
  | logHex64 (value : UInt64)
  | logBin8 (value : UInt8)
  | logBin16 (value : UInt16)
  | string (value : CString)
  | stringView (value : StringView)
  | span (value : List UInt8)
  | logRawBuffer (value : List UInt8) (size_lt : value.length < 65536)

/-- The numbers are compared as `size_t`. -/
def plainScalar (checked : ℕ) (data : List UInt8) (typeInfo : ℕ) : Scalar where
  sizeWith size := size + checked + 4
  data := data
  typeInfo := typeInfo
  format := none

/-- The size with the argument is a `uint16_t`. -/
def formattedScalar (data : List UInt8) (typeInfo : ℕ) (format : DltFormatType) : Scalar where
  sizeWith size := (size + data.length + 4) % 65536
  data := data
  typeInfo := dltTypeInfoUint ||| typeInfo
  format := some format

/-- The operator for a value. Source: `logstream.cpp`, `LogStream::operator<<` -/
def Value.operator : Value → Scalar ⊕ Pieces
  | bool value => .inl (plainScalar 1 [if value then 1 else 0] (dltTypeInfoBool ||| dltTyle8Bit))
  | uint8 value => .inl (plainScalar 1 [value] (dltTypeInfoUint ||| dltTyle8Bit))
  | uint16 value => .inl (plainScalar 2 (leBytes 2 value.toNat) (dltTypeInfoUint ||| dltTyle16Bit))
  | uint32 value => .inl (plainScalar 4 (leBytes 4 value.toNat) (dltTypeInfoUint ||| dltTyle32Bit))
  | uint64 value => .inl (plainScalar 8 (leBytes 8 value.toNat) (dltTypeInfoUint ||| dltTyle64Bit))
  -- The size of a `uint64_t` is compared.
  | int8 value => .inl (plainScalar 8 [value.toUInt8] (dltTypeInfoSint ||| dltTyle8Bit))
  | int16 value => .inl (plainScalar 2 (leBytes 2 value.toUInt16.toNat) (dltTypeInfoSint ||| dltTyle16Bit))
  | int32 value => .inl (plainScalar 4 (leBytes 4 value.toUInt32.toNat) (dltTypeInfoSint ||| dltTyle32Bit))
  | int64 value => .inl (plainScalar 8 (leBytes 8 value.toUInt64.toNat) (dltTypeInfoSint ||| dltTyle64Bit))
  | float value => .inl (plainScalar 4 (leBytes 4 value.toNat) (dltTypeInfoFloa ||| dltTyle32Bit))
  | double value => .inl (plainScalar 8 (leBytes 8 value.toNat) (dltTypeInfoFloa ||| dltTyle64Bit))
  | logHex8 value => .inl (formattedScalar [value] dltTyle8Bit .hex8)
  | logHex16 value => .inl (formattedScalar (leBytes 2 value.toNat) dltTyle16Bit .hex16)
  | logHex32 value => .inl (formattedScalar (leBytes 4 value.toNat) dltTyle32Bit .hex32)
  | logHex64 value => .inl (formattedScalar (leBytes 8 value.toNat) dltTyle64Bit .hex64)
  | logBin8 value => .inl (formattedScalar [value] dltTyle8Bit .bin8)
  | logBin16 value => .inl (formattedScalar (leBytes 2 value.toNat) dltTyle16Bit .bin16)
  | string value => .inr (textPieces (i32 value.text.length) value.text)
  | stringView value => .inr (textPieces (i32 value.text.length) (value.text ++ value.behind))
  | span value => .inr (dataPieces (8 + 4) (i32 value.length) value (i32_natCast_le _))
  | logRawBuffer value _ => .inr (dataPieces (2 + 4) value.length value (Int.le_refl _))

/-- The insertion of a value returns in the state `r`. Source: `LogStream::operator<<` -/
def Inserts (env : LogEnv) (value : Value) (σ : LogState) (s : LogStream) (r : LogState × LogStream) : Prop :=
  match value.operator with
  | .inl a => EndsWith (scalarTurn env a) (σ, s) r
  | .inr a => if s.logRet > dltReturnOk then EndsWith (piecesTurn env a) (σ, s, 0) r else r = (σ, s)

end Dlt.Log
