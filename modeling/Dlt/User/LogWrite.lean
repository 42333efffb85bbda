import Dlt.Lib.Hex
import Dlt.Shared.Types

/-!
# Writing the arguments of a message

* `dltUserLogWriteGenericAttr_cases`, `dltUserLogWriteRaw_cases`, `dltUserLogWriteString_cases` — a writing
  function fails, or it appends the argument.

Arguments with names and units are left out.
-/

namespace Dlt.User

open Dlt.Lib Dlt.Shared

/-! ## Data -/

/-- A message that is written. Source: `dlt_user.h`, `DltContextData` -/
structure LogData where
  /-- The first `size` bytes of `buffer`. -/
  buffer : List UInt8
  /-- `args_num`. -/
  argsNum : ℕ
deriving DecidableEq, Repr

/-- What the writing functions read of the library. -/
structure WriteEnv where
  /-- `dlt_user_initialised`. -/
  initialised : Bool
  verbose : Bool
  /-- `log_buf_len`. -/
  logBufLen : UInt16

/-- `DLT_TYPE_INFO_BOOL`. Source: `dlt_protocol.h` -/
def dltTypeInfoBool : ℕ := 0x10

/-- `DLT_TYPE_INFO_SINT`. Source: `dlt_protocol.h` -/
def dltTypeInfoSint : ℕ := 0x20

/-- `DLT_TYPE_INFO_UINT`. Source: `dlt_protocol.h` -/
def dltTypeInfoUint : ℕ := 0x40

/-- `DLT_TYPE_INFO_FLOA`. Source: `dlt_protocol.h` -/
def dltTypeInfoFloa : ℕ := 0x80

/-- `DLT_TYPE_INFO_STRG`. Source: `dlt_protocol.h` -/
def dltTypeInfoStrg : ℕ := 0x200

/-- `DLT_TYPE_INFO_RAWD`. Source: `dlt_protocol.h` -/
def dltTypeInfoRawd : ℕ := 0x400

/-- `DLT_SCOD_UTF8`. Source: `dlt_protocol.h` -/
def dltScodUtf8 : ℕ := 0x8000

/-- `DLT_SCOD_HEX`. Source: `dlt_protocol.h` -/
def dltScodHex : ℕ := 0x10000

/-- `DLT_SCOD_BIN`. Source: `dlt_protocol.h` -/
def dltScodBin : ℕ := 0x18000

/-- Source: `dlt_types.h`, `DltFormatType` -/
inductive DltFormatType
  | default
  | hex8
  | hex16
  | hex32
  | hex64
  | bin8
  | bin16
deriving DecidableEq, Repr

/-- The value of the enumeration. Source: `DltFormatType` -/
def DltFormatType.toNat : DltFormatType → ℕ
  | default => 0
  | hex8 => 1
  | hex16 => 2
  | hex32 => 3
  | hex64 => 4
  | bin8 => 5
  | bin16 => 6

/-- `SCOD` for a format. Source: `dlt_user.c`, `dlt_user_log_write_generic_formatted` -/
def DltFormatType.scod : DltFormatType → ℕ
  | default => 0
  | hex8 | hex16 | hex32 | hex64 => dltScodHex
  | bin8 | bin16 => dltScodBin

/-- Source: `enum StringType` -/
inductive StringType
  | asciiString
  | utf8String
deriving DecidableEq, Repr

/-- `STR_TRUNCATED_MESSAGE`, with its terminating zero. Source: `dlt_user.c` -/
def strTruncatedMessage : List UInt8 := ascii "... <<Message truncated, too long>>" ++ [0]

/-! ## The writing functions -/

section write

variable (env : WriteEnv) (log : LogData)

/-- The type information is written in verbose mode only. -/
def typeInfoBytes (typeInfo : ℕ) : List UInt8 := if env.verbose then leBytes 4 typeInfo else []

/-- The bytes of one argument are appended. -/
def LogData.append (bytes : List UInt8) : LogData :=
  { buffer := log.buffer ++ bytes, argsNum := log.argsNum + 1 }

/-- Without information about the variable. Source: `dlt_user_log_write_generic_attr` -/
def dltUserLogWriteGenericAttr (data : List UInt8) (typeInfo : ℕ) : LogData × ℤ :=
  if ¬ env.initialised then (log, dltReturnError)
  else if log.buffer.length + data.length > env.logBufLen.toNat then (log, dltReturnUserBufferFull)
  else if env.verbose ∧ log.buffer.length + (data.length + 4) > env.logBufLen.toNat then
    (log, dltReturnUserBufferFull)
  else (log.append (typeInfoBytes env typeInfo ++ data), dltReturnOk)

/-- Source: `dlt_user_log_write_generic_formatted` -/
def dltUserLogWriteGenericFormatted (data : List UInt8) (typeInfo : ℕ) (type : DltFormatType) :
    LogData × ℤ :=
  if ¬ env.initialised then (log, dltReturnError)
  else if log.buffer.length + data.length > env.logBufLen.toNat then (log, dltReturnUserBufferFull)
  else if env.verbose ∧ log.buffer.length + (data.length + 4) > env.logBufLen.toNat then
    (log, dltReturnUserBufferFull)
  else (log.append (typeInfoBytes env (typeInfo ||| type.scod) ++ data), dltReturnOk)

/-- Without information about the variable. The data are fewer than `2^16` bytes.
Source: `dlt_user_log_write_raw_internal` -/
def dltUserLogWriteRawInternal (data : List UInt8) (type : DltFormatType) : LogData × ℤ :=
  if ¬ env.initialised then (log, dltReturnError)
  else if log.buffer.length + (data.length + 2) > env.logBufLen.toNat then (log, dltReturnUserBufferFull)
  else if env.verbose ∧ log.buffer.length + (data.length + 2 + 4) > env.logBufLen.toNat then
    (log, dltReturnUserBufferFull)
  else
    let typeInfo :=
      if type.scod = dltScodHex then (dltTypeInfoRawd ||| dltScodHex) + type.toNat
      else if type.scod = dltScodBin then
        (dltTypeInfoRawd ||| dltScodBin) + (type.toNat - DltFormatType.bin8.toNat + 1)
      else dltTypeInfoRawd
    (log.append (typeInfoBytes env typeInfo ++ leBytes 2 data.length ++ data), dltReturnOk)

/-- The bytes that are looked at where a text is cut are in the text: the last one, the one before it if the last one
is a continuation byte, and the one before that if the sequence does not begin there. -/
def LooksInside (text : List UInt8) (maxPayload : ℕ) : Prop :=
  0 < maxPayload ∧
    (text.getD (maxPayload - 1) 0 &&& 0x80 ≠ 0 → text.getD (maxPayload - 1) 0 &&& 0x40 = 0 →
      1 < maxPayload ∧ (text.getD (maxPayload - 2) 0 &&& 0xe0 ≠ 0xe0 → 2 < maxPayload))

instance (text : List UInt8) (maxPayload : ℕ) : Decidable (LooksInside text maxPayload) :=
  inferInstanceAs (Decidable (_ ∧ _))

/-- How many bytes are cut from the end of what is left of a text so that no character is cut.
Source: `dlt_user_log_write_sized_string_utils_attr` -/
def utf8ReduceSize (text : List UInt8) (maxPayload : ℕ) : ℕ :=
  if text.getD (maxPayload - 1) 0 &&& 0x80 ≠ 0 then
    if text.getD (maxPayload - 1) 0 &&& 0x40 ≠ 0 then 1
    else if text.getD (maxPayload - 2) 0 &&& 0xe0 = 0xe0 then 2
    else if text.getD (maxPayload - 3) 0 &&& 0xf0 = 0xf0 then 3
    else 0
  else 0

def StringType.typeInfo : StringType → ℕ
  | asciiString => dltTypeInfoStrg
  | utf8String => dltTypeInfoStrg ||| dltScodUtf8

/-- The string is cut where `maxPayload` of its bytes are left. It is undefined to look in front of the text, where the
number of bytes that are copied may wrap around. Source: `dlt_user_log_write_sized_string_utils_attr` -/
def writeCutString (text : List UInt8) (type : StringType) (header maxPayload : ℕ) : Option (LogData × ℤ) :=
  if type = .utf8String ∧ ¬ LooksInside text maxPayload then none
  else
    let reduce := if type = .utf8String then utf8ReduceSize text maxPayload else 0
    let argSize := env.logBufLen.toNat - log.buffer.length - 2 - header - reduce
    some (log.append (typeInfoBytes env type.typeInfo ++ leBytes 2 argSize ++
      text.take (maxPayload - reduce) ++ strTruncatedMessage), dltReturnUserBufferFull)

/-- Without information about the variable. `text` is the `length` bytes of the string, fewer than `2^16 - 1`.
Source: `dlt_user_log_write_sized_string_utils_attr` -/
def dltUserLogWriteSizedStringUtilsAttr (text : List UInt8) (type : StringType) : Option (LogData × ℤ) :=
  if ¬ env.initialised then some (log, dltReturnError)
  else
    let header := if env.verbose then 4 else 0
    let argSize := (text.length + 1) % 65536
    if log.buffer.length + argSize + 2 + header > env.logBufLen.toNat then
      let minPayload := log.buffer.length + strTruncatedMessage.length + 2 + header
      if minPayload > env.logBufLen.toNat then some (log, dltReturnUserBufferFull)
      else writeCutString env log text type header (env.logBufLen.toNat - minPayload)
    else
      some (log.append (typeInfoBytes env type.typeInfo ++ leBytes 2 argSize ++ (text ++ [0]).take argSize),
        dltReturnOk)

/-- Of a text that is not in UTF-8 nothing is looked at. -/
theorem isSome_writeAscii (text : List UInt8) :
    (dltUserLogWriteSizedStringUtilsAttr env log text .asciiString).isSome = true := by
  unfold dltUserLogWriteSizedStringUtilsAttr writeCutString
  dsimp only
  rw [if_neg (show ¬ (StringType.asciiString = .utf8String ∧ _) from fun h => StringType.noConfusion h.1)]
  split_ifs
  all_goals rfl

/-! ## The functions for the types of arguments -/

/-- Source: `dlt_user_log_write_string` -/
def dltUserLogWriteString (text : List UInt8) : LogData × ℤ :=
  (dltUserLogWriteSizedStringUtilsAttr env log text .asciiString).get (isSome_writeAscii env log text)

/-- Source: `dlt_user_log_write_raw` -/
def dltUserLogWriteRaw (data : List UInt8) : LogData × ℤ := dltUserLogWriteRawInternal env log data .default

/-- Source: `dlt_user_log_write_uint16` -/
def dltUserLogWriteUint16 (data : ℕ) : LogData × ℤ :=
  dltUserLogWriteGenericAttr env log (leBytes 2 data) (dltTypeInfoUint ||| 2)

/-- Source: `dlt_user_log_write_uint32` -/
def dltUserLogWriteUint32 (data : ℕ) : LogData × ℤ :=
  dltUserLogWriteGenericAttr env log (leBytes 4 data) (dltTypeInfoUint ||| 3)

/-! ## Failing or appending -/

theorem dltReturnError_neg : dltReturnError < 0 := by decide

theorem dltReturnUserBufferFull_neg : dltReturnUserBufferFull < 0 := by decide

theorem dltUserLogWriteGenericAttr_cases (data : List UInt8) (typeInfo : ℕ) :
    (dltUserLogWriteGenericAttr env log data typeInfo).2 < 0 ∨
      dltUserLogWriteGenericAttr env log data typeInfo =
        (log.append (typeInfoBytes env typeInfo ++ data), dltReturnOk) := by
  unfold dltUserLogWriteGenericAttr
  by_cases hinit : ¬ env.initialised = true
  · rw [if_pos hinit]
    exact .inl dltReturnError_neg
  rw [if_neg hinit]
  by_cases hfull : log.buffer.length + data.length > env.logBufLen.toNat
  · rw [if_pos hfull]
    exact .inl dltReturnUserBufferFull_neg
  rw [if_neg hfull]
  by_cases hverbose : env.verbose ∧ log.buffer.length + (data.length + 4) > env.logBufLen.toNat
  · rw [if_pos hverbose]
    exact .inl dltReturnUserBufferFull_neg
  · rw [if_neg hverbose]
    exact .inr rfl

theorem dltUserLogWriteRaw_cases (data : List UInt8) :
    (dltUserLogWriteRaw env log data).2 < 0 ∨
      dltUserLogWriteRaw env log data =
        (log.append (typeInfoBytes env dltTypeInfoRawd ++ leBytes 2 data.length ++ data), dltReturnOk) := by
  unfold dltUserLogWriteRaw dltUserLogWriteRawInternal
  by_cases hinit : ¬ env.initialised = true
  · rw [if_pos hinit]
    exact .inl dltReturnError_neg
  rw [if_neg hinit]
  by_cases hfull : log.buffer.length + (data.length + 2) > env.logBufLen.toNat
  · rw [if_pos hfull]
    exact .inl dltReturnUserBufferFull_neg
  rw [if_neg hfull]
  by_cases hverbose : env.verbose ∧ log.buffer.length + (data.length + 2 + 4) > env.logBufLen.toNat
  · rw [if_pos hverbose]
    exact .inl dltReturnUserBufferFull_neg
  · rw [if_neg hverbose]
    exact .inr rfl

theorem some_dltUserLogWriteString (text : List UInt8) :
    some (dltUserLogWriteString env log text) = dltUserLogWriteSizedStringUtilsAttr env log text .asciiString :=
  Option.some_get _

/-- A string is written, or the function fails: a string that is cut is a failure. -/
theorem dltUserLogWriteString_eq {text : List UInt8} (h : text.length < 65535) (hinit : env.initialised = true) :
    ∃ cut, dltUserLogWriteString env log text =
      if log.buffer.length + (text.length + 1) + 2 + (if env.verbose then 4 else 0) > env.logBufLen.toNat then
        (cut, dltReturnUserBufferFull)
      else
        (log.append (typeInfoBytes env dltTypeInfoStrg ++ leBytes 2 (text.length + 1) ++
          (text ++ [0])), dltReturnOk) := by
  have hsize : (text.length + 1) % 65536 = text.length + 1 := Nat.mod_eq_of_lt (by omega)
  have hall : (text ++ [0]).take (text.length + 1) = text ++ [0] :=
    List.take_of_length_le (by rw [List.length_append, List.length_singleton])
  have hwrite := some_dltUserLogWriteString env log text
  unfold dltUserLogWriteSizedStringUtilsAttr writeCutString at hwrite
  dsimp only at hwrite
  rw [if_neg (not_not_intro hinit), hsize, hall] at hwrite
  by_cases hfull : log.buffer.length + (text.length + 1) + 2 + (if env.verbose = true then 4 else 0) >
      env.logBufLen.toNat
  · rw [if_pos hfull,
      if_neg (show ¬ (StringType.asciiString = .utf8String ∧ _) from fun h => StringType.noConfusion h.1)] at hwrite
    simp only [if_pos hfull]
    split_ifs at hwrite
    all_goals exact ⟨_, Option.some.inj hwrite⟩
  · rw [if_neg hfull] at hwrite
    simp only [if_neg hfull]
    exact ⟨log, Option.some.inj hwrite⟩

theorem dltUserLogWriteString_cases {text : List UInt8} (h : text.length < 65535) :
    (dltUserLogWriteString env log text).2 < 0 ∨
      dltUserLogWriteString env log text =
        (log.append (typeInfoBytes env dltTypeInfoStrg ++ leBytes 2 (text.length + 1) ++ (text ++ [0])),
          dltReturnOk) := by
  by_cases hinit : env.initialised = true
  · obtain ⟨cut, hwrite⟩ := dltUserLogWriteString_eq env log h hinit
    by_cases hfull : log.buffer.length + (text.length + 1) + 2 + (if env.verbose = true then 4 else 0) >
        env.logBufLen.toNat
    · rw [hwrite, if_pos hfull]
      exact .inl dltReturnUserBufferFull_neg
    · rw [hwrite, if_neg hfull]
      exact .inr rfl
  · have hwrite := some_dltUserLogWriteString env log text
    unfold dltUserLogWriteSizedStringUtilsAttr at hwrite
    rw [if_pos hinit] at hwrite
    refine .inl ?_
    rw [Option.some.inj hwrite]
    exact dltReturnError_neg

end write

end Dlt.User
