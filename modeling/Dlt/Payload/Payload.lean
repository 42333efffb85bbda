import Dlt.Payload.Argument

/-!
# Printing a payload

* `ComesTo` — the loop comes to an argument.
-/

namespace Dlt.Payload

open Dlt.Lib Dlt.Shared Dlt.User

/-- `DLT_OUTPUT_HEX` and so on. Source: `dlt_common.h` -/
inductive OutputMode
  | hex
  | ascii
  | mixedForPlain
  | mixedForHtml
  | asciiLimited
deriving DecidableEq

/-- A message whose payload is not longer than the length field of a message allows. -/
structure ReadMessage extends PayloadMessage where
  /-- The length is a `uint16_t`. -/
  datasize_lt : databuffer.length < 65536

structure TextBuffer where
  bytes : List UInt8
  length_pos : 0 < bytes.length
  /-- The length is a `size_t`. -/
  length_lt : bytes.length < 18446744073709551616

section payload

variable (env : PrintEnv) (msg : PayloadMessage) (textlength : ℕ)

/-! ## Messages that are not verbose -/

/-- The id of the message or the name of the service. Source: `dlt_common.c`, `dlt_message_payload` -/
def printId (id : ℕ) : Printer Unit := do
  let s ← get
  if dltMsgIsControl msg then
    if 0 < id ∧ id < dltServiceIdLastEntry then appendf textlength (serviceIdName.getD id [])
    else if ¬ dltMsgIsControlTime msg then appendf textlength (ascii s!"service({id})")
    if s.datalength > 0 then appendf textlength (ascii ", ")
  else appendf textlength (ascii s!"{id}, ")

/-- The return value of a response. Source: `dlt_message_payload` -/
def printReturnValue : Printer Unit := do
  let s ← get
  if dltMsgIsControlResponse msg ∧ s.datalength > 0 then
    let retval ← dltMsgReadValue msg 1
    appendf textlength (returnValueText ((retval.getD []).headD 0))
    let s ← get
    if s.datalength ≥ 1 then appendf textlength (ascii ", ")

/-- The bytes behind the id; `limited` is `DLT_OUTPUT_ASCII_LIMITED`.
Source: `dlt_message_payload` -/
def printBytes (limited : Bool) : Printer ℤ := do
  let s ← get
  let length ← strlen 0
  let size := if limited then min s.datalength dltCommonAsciiLimitMaxChars else s.datalength
  let ret ← dltPrintHexString msg.databuffer length (i32 ((textlength - length : ℕ) : ℤ)) s.ptr size
  if limited ∧ s.datalength > dltCommonAsciiLimitMaxChars then
    let length ← strlen 0
    if textlength - length > 4 then appendf textlength (ascii " ...")
  pure ret

/-- Source: `dlt_message_payload` -/
def dltMessagePayloadNonverbose (limited : Bool) : Printer ℤ := do
  let idTmp ← dltMsgReadValue msg 4
  let id := dltEndianGet msg (idTmp.getD [0, 0, 0, 0])
  let s ← get
  if textlength < u32 (s.datalength * 3 + 20) then pure dltReturnError
  else
    printId msg textlength id
    printReturnValue msg textlength
    printBytes msg textlength limited

/-! ## Verbose messages -/

/-- What happens before an argument is printed: the type information, which keeps its value if it is not there,
and where the argument goes. The offset is an `int`, which the text of a message is far from.
Source: `dlt_message_payload` -/
def argumentStart (num typeInfo : ℕ) : Printer (ℕ × Slot) := do
  if num ≠ 0 then appendf textlength (ascii " ")
  let typeInfoTmp ← dltMsgReadValue msg 4
  let textOffset ← strlen 0
  pure ((typeInfoTmp.map (dltEndianGet msg)).getD typeInfo, { pos := textOffset, room := textlength - textOffset })

/-- The loop over the arguments, `left` of them from the argument `num` on.
Source: `dlt_message_payload` -/
def argumentsLoop : ℕ → ℕ → ℕ → Printer Unit
  | 0, _, _ => pure ()
  | left + 1, num, typeInfo => do
      let (typeInfo, slot) ← argumentStart msg textlength num typeInfo
      dltMessageArgumentPrint env msg typeInfo slot
      argumentsLoop left (num + 1) typeInfo

/-! ## The whole function -/

/-- Behind the checks of the parameters. Source: `dlt_message_payload` -/
def dltMessagePayload (type : OutputMode) : Printer ℤ := do
  let s ← get
  let text ← Checked.ofOption (poke s.text 0 [0])
  set { s with text }
  match type with
  | .hex => dltPrintHexString msg.databuffer 0 (i32 textlength) 0 msg.databuffer.length
  | .mixedForPlain => dltPrintMixedString msg.databuffer (i32 textlength) msg.databuffer.length false
  | .mixedForHtml => dltPrintMixedString msg.databuffer (i32 textlength) msg.databuffer.length true
  | _ =>
      if dltMsgIsNonverbose msg then dltMessagePayloadNonverbose msg textlength (type = .asciiLimited)
      else
        argumentsLoop env msg textlength msg.noar.toNat 0 0
        pure dltReturnOk

end payload

/-! ## Safety -/

section safe

variable (env : PrintEnv) (msg : ReadMessage) (text : TextBuffer)

/-- The state when the function is called. -/
def called : PrintState := { text := text.bytes, ptr := 0, datalength := msg.databuffer.length }

/-- The payload is printed into the text buffer, and the text ends: the behaviour is defined. -/
def PayloadSafe (type : OutputMode) : Prop :=
  ∃ ret s, (dltMessagePayload env msg.toPayloadMessage text.bytes.length type).result (called msg text) =
    some (ret, s) ∧ s.text.length = text.bytes.length ∧ 0 ∈ s.text

/-- The state when the loop begins: the text is empty. -/
def begun : PrintState := { called msg text with text := overwrite text.bytes 0 [0] }

/-- The loop comes to an argument: its number, its type information, where it goes, and the state. -/
inductive ComesTo : ℕ → ℕ → Slot → PrintState → Prop
  | first {typeInfo : ℕ} {slot : Slot} {s : PrintState} :
      (argumentStart msg.toPayloadMessage text.bytes.length 0 0).result (begun msg text) =
        some (.ok (typeInfo, slot), s) →
      ComesTo 0 typeInfo slot s
  | next {num typeInfo typeInfo' : ℕ} {slot slot' : Slot} {s s' s'' : PrintState} :
      ComesTo num typeInfo slot s →
      (dltMessageArgumentPrint env msg.toPayloadMessage typeInfo slot).result s = some (.ok (), s') →
      (argumentStart msg.toPayloadMessage text.bytes.length (num + 1) typeInfo).result s' =
        some (.ok (typeInfo', slot'), s'') →
      ComesTo (num + 1) typeInfo' slot' s''

end safe

end Dlt.Payload
