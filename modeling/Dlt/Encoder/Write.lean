import Dlt.Lib.Checked
import Dlt.Lib.TextMemory
import Dlt.Log.Insertion

/-!
# Writing arguments into the buffer of a message

* `WriteCall` — the calls of an application. `WriteCall.internal` is the function that a call comes down to.
-/

namespace Dlt.Encoder

open Dlt.Lib Dlt.Shared Checked
open Dlt.Log (CString)
open Dlt.User (WriteEnv StringType DltFormatType dltTypeInfoBool dltTypeInfoSint dltTypeInfoUint dltTypeInfoFloa
  dltTypeInfoStrg dltTypeInfoRawd dltScodUtf8 dltScodHex dltScodBin strTruncatedMessage)

/-! ## Memory -/

/-- A message that is written. Source: `dlt_user.h`, `DltContextData` -/
structure LogMemory where
  /-- `buffer`: all its bytes. -/
  buffer : List UInt8
  /-- `size`. -/
  size : ℕ
  /-- `args_num`. -/
  argsNum : ℕ
deriving DecidableEq

/-- What a caller passes with a length: `none` is the null pointer. -/
structure CallerData where
  bytes : Option (List UInt8)
  /-- `length`. -/
  length : UInt16
  length_le : ∀ b, bytes = some b → length.toNat ≤ b.length

abbrev Writer (α : Type) := Checked Empty LogMemory α

/-- `memcpy(log->buffer + log->size, bytes, n); log->size += n`. -/
def write (bytes : List UInt8) : Writer Unit := do
  let log ← get
  let buffer ← ofOption (poke log.buffer log.size bytes)
  set { log with buffer, size := log.size + bytes.length }

/-- `log->args_num++`. -/
def countArgument : Writer Unit := modify fun log => { log with argsNum := log.argsNum + 1 }

/-- What follows is for the verbose mode, or for arguments with information about the variable. -/
def onlyIf (c : Bool) (x : Writer Unit) : Writer Unit := if c then x else pure ()

/-! ## The information about the variable -/

/-- `DLT_TYPE_INFO_VARI`. Source: `dlt_protocol.h` -/
def dltTypeInfoVari : ℕ := 0x800

/-- `name_size` and `unit_size`: the length is cut to 16 bits. -/
def attributeSize : Option CString → ℕ
  | none => 0
  | some s => (s.text.length + 1) % 65536

def writeAttribute : Option CString → Writer Unit
  | none => pure ()
  | some s =>
      if attributeSize (some s) ≠ 0 then do
        let bytes ← ofOption (peek (s.text ++ [0]) 0 (attributeSize (some s)))
        write bytes
      else pure ()

/-- The information about a variable. Source: `dlt_user.c`, `VarInfo` -/
structure VarInfo where
  /-- `name`. -/
  name : Option CString
  /-- `unit`. -/
  unit : Option CString
  /-- `with_unit`. -/
  withUnit : Bool
  /-- There is no unit without `with_unit`. -/
  unit_none : withUnit = false → unit = none

def VarInfo.ofNumber (name unit : Option CString) : VarInfo where
  name := name
  unit := unit
  withUnit := true
  unit_none h := Bool.noConfusion h

/-- The information about a truth value. -/
def VarInfo.ofBool (name : Option CString) : VarInfo where
  name := name
  unit := none
  withUnit := false
  unit_none _ := rfl

def varInfoSize : Option VarInfo → ℕ
  | none => 0
  | some v => 2 + attributeSize v.name + if v.withUnit then 2 + attributeSize v.unit else 0

/-- Source: `dlt_user_log_write_generic_attr` -/
def writeVarInfo : Option VarInfo → Writer Unit
  | none => pure ()
  | some v => do
      write (leBytes 2 (attributeSize v.name))
      onlyIf v.withUnit (write (leBytes 2 (attributeSize v.unit)))
      writeAttribute v.name
      writeAttribute v.unit

def nameInfoSize (withVarInfo : Bool) (name : Option CString) : ℕ := if withVarInfo then 2 + attributeSize name else 0

/-- Source: `dlt_user_log_write_raw_internal`, `dlt_user_log_write_sized_string_utils_attr` -/
def writeNameInfo (withVarInfo : Bool) (name : Option CString) : Writer Unit :=
  onlyIf withVarInfo do
    write (leBytes 2 (attributeSize name))
    writeAttribute name

def variFlag (withVarInfo : Bool) : ℕ := if withVarInfo then dltTypeInfoVari else 0

/-! ## The writing functions -/

/-- `DLT_FORMAT_MAX`: a format below it, and not below `DLT_FORMAT_DEFAULT`. Source: `dlt_types.h` -/
def ValidFormat (type : ℤ) : Prop := 0 ≤ type ∧ type < 7

instance (type : ℤ) : Decidable (ValidFormat type) := inferInstanceAs (Decidable (_ ∧ _))

/-- `SCOD` of a number for a format. Source: `dlt_user.c`, `dlt_user_log_write_generic_formatted` -/
def formatScod (type : ℤ) : ℕ :=
  if 1 ≤ type ∧ type ≤ 4 then dltScodHex else if 5 ≤ type ∧ type ≤ 6 then dltScodBin else 0

/-- The type information of raw data for a format. Source: `dlt_user_log_write_raw_internal` -/
def rawTypeInfo (type : ℤ) (withVarInfo : Bool) : ℕ :=
  let typeInfo := dltTypeInfoRawd ||| variFlag withVarInfo
  if 1 ≤ type ∧ type ≤ 4 then (typeInfo ||| dltScodHex) + type.toNat
  else if 5 ≤ type ∧ type ≤ 6 then (typeInfo ||| dltScodBin) + (type.toNat - 5 + 1)
  else typeInfo

section writers

variable (env : WriteEnv)

/-- Source: `dlt_user_log_write_generic_attr` -/
def dltUserLogWriteGenericAttr (data : List UInt8) (typeInfo : ℕ) (varinfo : Option VarInfo) : Writer ℤ :=
  if ¬ env.initialised then pure dltReturnError
  else do
    let log ← get
    let neededSize := data.length
    if log.size + neededSize > env.logBufLen.toNat then pure dltReturnUserBufferFull
    else if env.verbose ∧ log.size + (neededSize + 4 + varInfoSize varinfo) > env.logBufLen.toNat then
      pure dltReturnUserBufferFull
    else do
      onlyIf env.verbose do
        write (leBytes 4 (typeInfo ||| variFlag varinfo.isSome))
        writeVarInfo varinfo
      write data
      countArgument
      pure dltReturnOk

/-- Source: `dlt_user_log_write_generic_formatted` -/
def dltUserLogWriteGenericFormatted (data : List UInt8) (typeInfo : ℕ) (type : ℤ) : Writer ℤ :=
  if ¬ ValidFormat type then pure dltReturnWrongParameter
  else if ¬ env.initialised then pure dltReturnError
  else do
    let log ← get
    let neededSize := data.length
    if log.size + neededSize > env.logBufLen.toNat then pure dltReturnUserBufferFull
    else if env.verbose ∧ log.size + (neededSize + 4) > env.logBufLen.toNat then pure dltReturnUserBufferFull
    else do
      onlyIf env.verbose (write (leBytes 4 (typeInfo ||| formatScod type)))
      write data
      countArgument
      pure dltReturnOk

/-- Source: `dlt_user_log_write_raw_internal` -/
def dltUserLogWriteRawInternal (data : CallerData) (type : ℤ) (name : Option CString) (withVarInfo : Bool) :
    Writer ℤ :=
  if data.bytes = none ∧ data.length ≠ 0 then pure dltReturnWrongParameter
  else if ¬ ValidFormat type then pure dltReturnWrongParameter
  else if ¬ env.initialised then pure dltReturnError
  else do
    let log ← get
    let neededSize := data.length.toNat + 2
    if log.size + neededSize > env.logBufLen.toNat then pure dltReturnUserBufferFull
    else if env.verbose ∧ log.size + (neededSize + 4 + nameInfoSize withVarInfo name) > env.logBufLen.toNat then
      pure dltReturnUserBufferFull
    else do
      onlyIf env.verbose (write (leBytes 4 (rawTypeInfo type withVarInfo)))
      write (leBytes 2 data.length.toNat)
      onlyIf env.verbose (writeNameInfo withVarInfo name)
      let bytes ← ofOption (peek (data.bytes.getD []) 0 data.length.toNat)
      write bytes
      countArgument
      pure dltReturnOk

/-! ## Strings -/

/-- The byte at a pointer that may be in front of the text. -/
def byteAt (text : List UInt8) (i : ℤ) : Option UInt8 := if 0 ≤ i then text[i.toNat]? else none

/-- How many bytes are cut from the end so that no character is cut; `tmp` is three bytes before the end.
Source: `dlt_user_log_write_sized_string_utils_attr` -/
def utf8ReduceSize (text : List UInt8) (tmp : ℤ) : Writer ℕ := do
  let last ← ofOption (byteAt text (tmp + 2))
  if last &&& 0x80 ≠ 0 then
    if last &&& 0x40 ≠ 0 then pure 1
    else do
      let middle ← ofOption (byteAt text (tmp + 1))
      if middle &&& 0xe0 = 0xe0 then pure 2
      else do
        let first ← ofOption (byteAt text tmp)
        if first &&& 0xf0 = 0xf0 then pure 3 else pure 0
  else pure 0

/-- `reduce_size`: only a text in UTF-8 is looked at.
Source: `dlt_user_log_write_sized_string_utils_attr` -/
def reduceSizeOf (type : StringType) (text : List UInt8) (maxPayload : ℕ) : Writer ℕ :=
  if type = .utf8String then utf8ReduceSize text (maxPayload - 3) else pure 0

/-- What is written in front of a string. Source: `dlt_user_log_write_sized_string_utils_attr` -/
def writeStringHeader (argSize : ℕ) (type : StringType) (name : Option CString) (withVarInfo : Bool) : Writer Unit := do
  onlyIf env.verbose (write (leBytes 4 (variFlag withVarInfo ||| type.typeInfo)))
  write (leBytes 2 argSize)
  onlyIf env.verbose (writeNameInfo withVarInfo name)

/-- The string and its terminating zero are written; the size grows by `argSize`.
Source: `dlt_user_log_write_sized_string_utils_attr` -/
def writeWholeString (text : List UInt8) (length argSize : ℕ) : Writer Unit := do
  let bytes ← ofOption (peek text 0 length)
  let log ← get
  let copied ← ofOption (poke log.buffer log.size bytes)
  let buffer ← ofOption (poke copied (log.size + length) [0])
  set { log with buffer, size := log.size + argSize }

/-- The room for what is written in front of a string, without its length. -/
def stringHeaderSize (name : Option CString) (withVarInfo : Bool) : ℕ :=
  if env.verbose then 4 + nameInfoSize withVarInfo name else 0

/-- The size of the message with the string, where the length of the string and its zero is cut to 16 bits. -/
def newLogSize (log : LogMemory) (length : UInt16) (name : Option CString) (withVarInfo : Bool) : ℕ :=
  log.size + (length.toNat + 1) % 65536 + 2 + stringHeaderSize env name withVarInfo

/-- The size of the message with nothing but the note that the string was cut. -/
def minPayloadStrTruncateMsg (log : LogMemory) (name : Option CString) (withVarInfo : Bool) : ℕ :=
  log.size + strTruncatedMessage.length + 2 + stringHeaderSize env name withVarInfo

/-- The rest of the function where the string is written whole. -/
def wholeString (text : CallerData) (type : StringType) (name : Option CString) (withVarInfo : Bool)
    (bytes : List UInt8) : Writer ℤ := do
  let argSize := (text.length.toNat + 1) % 65536
  writeStringHeader env argSize type name withVarInfo
  writeWholeString bytes text.length.toNat argSize
  countArgument
  pure dltReturnOk

/-- The rest of the function where the string is cut. -/
def cutString (type : StringType) (name : Option CString) (withVarInfo : Bool) (log : LogMemory) (bytes : List UInt8)
    (maxPayload : ℕ) : Writer ℤ := do
  let reduceSize ← reduceSizeOf type bytes maxPayload
  let argSize := env.logBufLen.toNat - log.size - 2 - stringHeaderSize env name withVarInfo - reduceSize
  writeStringHeader env argSize type name withVarInfo
  let part ← ofOption (peek bytes 0 (maxPayload - reduceSize))
  write part
  write strTruncatedMessage
  countArgument
  pure dltReturnUserBufferFull

/-- `arg_size` of a string that is cut is written where the message has room for it, and no conversion cuts it
there. Source: `dlt_user_log_write_sized_string_utils_attr` -/
def dltUserLogWriteSizedStringUtilsAttr (text : CallerData) (type : StringType) (name : Option CString)
    (withVarInfo : Bool) : Writer ℤ :=
  match text.bytes with
  | none => pure dltReturnWrongParameter
  | some bytes =>
      if ¬ env.initialised then pure dltReturnError
      else do
        let log ← get
        if newLogSize env log text.length name withVarInfo > env.logBufLen.toNat then
          if minPayloadStrTruncateMsg env log name withVarInfo > env.logBufLen.toNat then pure dltReturnUserBufferFull
          else
            cutString env type name withVarInfo log bytes
              (env.logBufLen.toNat - minPayloadStrTruncateMsg env log name withVarInfo)
        else wholeString env text type name withVarInfo bytes

end writers

/-! ## The calls -/

/-- The functions that the calls come down to. -/
inductive Internal
  | genericAttr (data : List UInt8) (typeInfo : ℕ) (varinfo : Option VarInfo)
  | genericFormatted (data : List UInt8) (typeInfo : ℕ) (type : ℤ)
  | rawInternal (data : CallerData) (type : ℤ) (name : Option CString) (withVarInfo : Bool)
  | sizedStringUtilsAttr (text : CallerData) (type : StringType) (name : Option CString) (withVarInfo : Bool)
  | skip

def Internal.writer (env : WriteEnv) : Internal → Writer ℤ
  | genericAttr data typeInfo varinfo => dltUserLogWriteGenericAttr env data typeInfo varinfo
  | genericFormatted data typeInfo type => dltUserLogWriteGenericFormatted env data typeInfo type
  | rawInternal data type name withVarInfo => dltUserLogWriteRawInternal env data type name withVarInfo
  | sizedStringUtilsAttr text type name withVarInfo =>
      dltUserLogWriteSizedStringUtilsAttr env text type name withVarInfo
  | skip => pure dltReturnOk

/-- A string with its terminating zero, and its length, which is cut to 16 bits.
Source: `dlt_user_log_write_string_utils_attr` -/
def CallerData.ofCString (text : Option CString) : CallerData where
  bytes := text.map fun s => s.text ++ [0]
  length := UInt16.ofNat ((text.map (·.text.length)).getD 0)
  length_le b h := by
    obtain ⟨s, rfl, rfl⟩ := Option.map_eq_some_iff.mp h
    rw [List.length_append, UInt16.toNat_ofNat']
    exact Nat.le_trans (Nat.mod_le _ _) (Nat.le_add_right _ _)

/-- Source: `dlt_user_log_write_string_utils_attr` -/
def stringUtilsAttr (text : Option CString) (type : StringType) (name : Option CString) (withVarInfo : Bool) :
    Internal :=
  .sizedStringUtilsAttr (.ofCString text) type name withVarInfo

/-- Source: `dlt_user.h`, the functions `dlt_user_log_write_*`. A floating point number is its bits. -/
inductive WriteCall
  | raw (data : CallerData)
  | rawFormatted (data : CallerData) (type : ℤ)
  | rawAttr (data : CallerData) (name : Option CString)
  | rawFormattedAttr (data : CallerData) (type : ℤ) (name : Option CString)
  | float32 (data : UInt32)
  | float64 (data : UInt64)
  | float32Attr (data : UInt32) (name unit : Option CString)
  | float64Attr (data : UInt64) (name unit : Option CString)
  | uint (data : UInt32)
  | uint8 (data : UInt8)
  | uint16 (data : UInt16)
  | uint32 (data : UInt32)
  | uint64 (data : UInt64)
  | uintAttr (data : UInt32) (name unit : Option CString)
  | uint8Attr (data : UInt8) (name unit : Option CString)
  | uint16Attr (data : UInt16) (name unit : Option CString)
  | uint32Attr (data : UInt32) (name unit : Option CString)
  | uint64Attr (data : UInt64) (name unit : Option CString)
  | uint8Formatted (data : UInt8) (type : ℤ)
  | uint16Formatted (data : UInt16) (type : ℤ)
  | uint32Formatted (data : UInt32) (type : ℤ)
  | uint64Formatted (data : UInt64) (type : ℤ)
  | ptr (data : UInt64)
  | int (data : Int32)
  | int8 (data : Int8)
  | int16 (data : Int16)
  | int32 (data : Int32)
  | int64 (data : Int64)
  | intAttr (data : Int32) (name unit : Option CString)
  | int8Attr (data : Int8) (name unit : Option CString)
  | int16Attr (data : Int16) (name unit : Option CString)
  | int32Attr (data : Int32) (name unit : Option CString)
  | int64Attr (data : Int64) (name unit : Option CString)
  | spanByteAttr (data : List UInt8) (name unit : Option CString)
  | stringViewAttr (data : List UInt8) (name unit : Option CString)
  | bool (data : UInt8)
  | boolAttr (data : UInt8) (name : Option CString)
  | string (text : Option CString)
  | stringAttr (text : Option CString) (name : Option CString)
  | sizedString (text : CallerData)
  | sizedStringAttr (text : CallerData) (name : Option CString)
  | constantString (text : Option CString)
  | constantStringAttr (text : Option CString) (name : Option CString)
  | sizedConstantString (text : CallerData)
  | sizedConstantStringAttr (text : CallerData) (name : Option CString)
  | utf8String (text : Option CString)
  | utf8StringAttr (text : Option CString) (name : Option CString)
  | sizedUtf8String (text : CallerData)
  | sizedUtf8StringAttr (text : CallerData) (name : Option CString)
  | constantUtf8String (text : Option CString)
  | constantUtf8StringAttr (text : Option CString) (name : Option CString)
  | sizedConstantUtf8String (text : CallerData)
  | sizedConstantUtf8StringAttr (text : CallerData) (name : Option CString)

/-- What a call comes down to. Source: `dlt_user.c`, the functions `dlt_user_log_write_*` -/
def WriteCall.internal (verbose : Bool) : WriteCall → Internal
  | raw data => .rawInternal data 0 none false
  | rawFormatted data type => .rawInternal data type none false
  | rawAttr data name => .rawInternal data 0 name true
  | rawFormattedAttr data type name => .rawInternal data type name true
  | float32 data => .genericAttr (leBytes 4 data.toNat) (dltTypeInfoFloa ||| 3) none
  | float64 data => .genericAttr (leBytes 8 data.toNat) (dltTypeInfoFloa ||| 4) none
  | float32Attr data name unit =>
      .genericAttr (leBytes 4 data.toNat) (dltTypeInfoFloa ||| 3) (some (.ofNumber name unit))
  | float64Attr data name unit =>
      .genericAttr (leBytes 8 data.toNat) (dltTypeInfoFloa ||| 4) (some (.ofNumber name unit))
  | uint data => .genericAttr (leBytes 4 data.toNat) (dltTypeInfoUint ||| 3) none
  | uint8 data => .genericAttr (leBytes 1 data.toNat) (dltTypeInfoUint ||| 1) none
  | uint16 data => .genericAttr (leBytes 2 data.toNat) (dltTypeInfoUint ||| 2) none
  | uint32 data => .genericAttr (leBytes 4 data.toNat) (dltTypeInfoUint ||| 3) none
  | uint64 data => .genericAttr (leBytes 8 data.toNat) (dltTypeInfoUint ||| 4) none
  | uintAttr data name unit => .genericAttr (leBytes 4 data.toNat) (dltTypeInfoUint ||| 3) (some (.ofNumber name unit))
  | uint8Attr data name unit => .genericAttr (leBytes 1 data.toNat) (dltTypeInfoUint ||| 1) (some (.ofNumber name unit))
  | uint16Attr data name unit =>
      .genericAttr (leBytes 2 data.toNat) (dltTypeInfoUint ||| 2) (some (.ofNumber name unit))
  | uint32Attr data name unit =>
      .genericAttr (leBytes 4 data.toNat) (dltTypeInfoUint ||| 3) (some (.ofNumber name unit))
  | uint64Attr data name unit =>
      .genericAttr (leBytes 8 data.toNat) (dltTypeInfoUint ||| 4) (some (.ofNumber name unit))
  | uint8Formatted data type => .genericFormatted (leBytes 1 data.toNat) (dltTypeInfoUint ||| 1) type
  | uint16Formatted data type => .genericFormatted (leBytes 2 data.toNat) (dltTypeInfoUint ||| 2) type
  | uint32Formatted data type => .genericFormatted (leBytes 4 data.toNat) (dltTypeInfoUint ||| 3) type
  | uint64Formatted data type => .genericFormatted (leBytes 8 data.toNat) (dltTypeInfoUint ||| 4) type
  | ptr data => .genericFormatted (leBytes 8 data.toNat) (dltTypeInfoUint ||| 4) 4
  | int data => .genericAttr (leBytes 4 data.toUInt32.toNat) (dltTypeInfoSint ||| 3) none
  | int8 data => .genericAttr (leBytes 1 data.toUInt8.toNat) (dltTypeInfoSint ||| 1) none
  | int16 data => .genericAttr (leBytes 2 data.toUInt16.toNat) (dltTypeInfoSint ||| 2) none
  | int32 data => .genericAttr (leBytes 4 data.toUInt32.toNat) (dltTypeInfoSint ||| 3) none
  | int64 data => .genericAttr (leBytes 8 data.toUInt64.toNat) (dltTypeInfoSint ||| 4) none
  | intAttr data name unit =>
      .genericAttr (leBytes 4 data.toUInt32.toNat) (dltTypeInfoSint ||| 3) (some (.ofNumber name unit))
  | int8Attr data name unit =>
      .genericAttr (leBytes 1 data.toUInt8.toNat) (dltTypeInfoSint ||| 1) (some (.ofNumber name unit))
  | int16Attr data name unit =>
      .genericAttr (leBytes 2 data.toUInt16.toNat) (dltTypeInfoSint ||| 2) (some (.ofNumber name unit))
  | int32Attr data name unit =>
      .genericAttr (leBytes 4 data.toUInt32.toNat) (dltTypeInfoSint ||| 3) (some (.ofNumber name unit))
  | int64Attr data name unit =>
      .genericAttr (leBytes 8 data.toUInt64.toNat) (dltTypeInfoSint ||| 4) (some (.ofNumber name unit))
  | spanByteAttr data name unit => .genericAttr data dltScodUtf8 (some (.ofNumber name unit))
  | stringViewAttr data name unit => .genericAttr data 0 (some (.ofNumber name unit))
  | bool data => .genericAttr (leBytes 1 data.toNat) (dltTypeInfoBool ||| 1) none
  | boolAttr data name => .genericAttr (leBytes 1 data.toNat) (dltTypeInfoBool ||| 1) (some (.ofBool name))
  | string text => stringUtilsAttr text .asciiString none false
  | stringAttr text name => stringUtilsAttr text .asciiString name true
  | sizedString text => .sizedStringUtilsAttr text .asciiString none false
  | sizedStringAttr text name => .sizedStringUtilsAttr text .asciiString name true
  | constantString text => if verbose then stringUtilsAttr text .asciiString none false else .skip
  | constantStringAttr text name => if verbose then stringUtilsAttr text .asciiString name true else .skip
  | sizedConstantString text => if verbose then .sizedStringUtilsAttr text .asciiString none false else .skip
  | sizedConstantStringAttr text name => if verbose then .sizedStringUtilsAttr text .asciiString name true else .skip
  | utf8String text => stringUtilsAttr text .utf8String none false
  | utf8StringAttr text name => stringUtilsAttr text .utf8String name true
  | sizedUtf8String text => .sizedStringUtilsAttr text .utf8String none false
  | sizedUtf8StringAttr text name => .sizedStringUtilsAttr text .utf8String name true
  | constantUtf8String text => if verbose then stringUtilsAttr text .utf8String none false else .skip
  | constantUtf8StringAttr text name => if verbose then stringUtilsAttr text .utf8String name true else .skip
  | sizedConstantUtf8String text => if verbose then .sizedStringUtilsAttr text .utf8String none false else .skip
  | sizedConstantUtf8StringAttr text name => if verbose then .sizedStringUtilsAttr text .utf8String name true else .skip

end Dlt.Encoder
