import Dlt.Lib.Hex
import Dlt.Shared.Message

/-!
# Printing a payload: messages that are not verbose

* `dltMessagePayloadNonverbose` — the part of `dlt_message_payload` for messages that are not verbose,
  in the two ASCII modes.

A text is the list of its characters without the final zero.
-/

namespace Dlt.Shared

open Dlt.Lib

/-! ## Kinds of messages -/

/-- The parts of a message that are printed. -/
structure PayloadMessage where
  /-- The field `htyp` of the standard header. -/
  htyp : UInt8
  /-- The field `msin` of the extended header. -/
  msin : UInt8
  /-- The number of arguments in the extended header. -/
  noar : UInt8
  databuffer : List UInt8

/-- `DLT_IS_HTYP_MSBF`: the payload has the most significant byte first. Source: `dlt_protocol.h` -/
def dltIsHtypMsbf (htyp : UInt8) : Bool := htyp &&& 0x02 != 0

/-- `DLT_IS_MSIN_VERB`. Source: `dlt_protocol.h` -/
def dltIsMsinVerb (msin : UInt8) : Bool := msin &&& 0x01 != 0

/-- `DLT_GET_MSIN_MSTP`. Source: `dlt_protocol.h` -/
def dltGetMsinMstp (msin : UInt8) : ℕ := (msin &&& 0x0e).toNat / 2

/-- `DLT_GET_MSIN_MTIN`. Source: `dlt_protocol.h` -/
def dltGetMsinMtin (msin : UInt8) : ℕ := (msin &&& 0xf0).toNat / 16

/-- `DLT_TYPE_CONTROL`. Source: `dlt_protocol.h` -/
def dltTypeControl : ℕ := 3

/-- `DLT_CONTROL_RESPONSE`. Source: `dlt_protocol.h` -/
def dltControlResponse : ℕ := 2

/-- `DLT_CONTROL_TIME`. Source: `dlt_protocol.h` -/
def dltControlTime : ℕ := 3

/-- `DLT_MSG_IS_NONVERBOSE`. Source: `dlt_common.h` -/
def dltMsgIsNonverbose (msg : PayloadMessage) : Bool :=
  !dltIsHtypUeh msg.htyp || dltIsHtypUeh msg.htyp && !dltIsMsinVerb msg.msin

/-- `DLT_MSG_IS_CONTROL`. Source: `dlt_common.h` -/
def dltMsgIsControl (msg : PayloadMessage) : Bool :=
  dltIsHtypUeh msg.htyp && dltGetMsinMstp msg.msin == dltTypeControl

/-- `DLT_MSG_IS_CONTROL_RESPONSE`. Source: `dlt_common.h` -/
def dltMsgIsControlResponse (msg : PayloadMessage) : Bool :=
  dltMsgIsControl msg && dltGetMsinMtin msg.msin == dltControlResponse

/-- `DLT_MSG_IS_CONTROL_TIME`. Source: `dlt_common.h` -/
def dltMsgIsControlTime (msg : PayloadMessage) : Bool :=
  dltMsgIsControl msg && dltGetMsinMtin msg.msin == dltControlTime

/-! ## Printing -/

/-- `snprintf(text + strlen(text), textlength - strlen(text), "%s", piece)`. -/
def snprintfAppend (textlength : ℕ) (text piece : List UInt8) : List UInt8 :=
  text ++ piece.take (textlength - text.length - 1)

/-- The text is written behind `text`, which has room for `textlength` characters.
Source: `dlt_common.c`, `dlt_print_hex_string` -/
def dltPrintHexString (text : List UInt8) (textlength : ℤ) (ptr : List UInt8) (size : ℤ) :
    ℤ × List UInt8 :=
  if textlength ≤ 0 ∨ size < 0 then (dltReturnWrongParameter, text)
  else if textlength < size * 3 then (dltReturnError, text)
  else (dltReturnOk, text ++ hexString 32 (ptr.take size.toNat))

/-- `service_id_name`. Source: `dlt_common.c` -/
def serviceIdName : List (List UInt8) :=
  ["", "set_log_level", "set_trace_status", "get_log_info", "get_default_log_level", "store_config",
    "reset_to_factory_default", "set_com_interface_status", "set_com_interface_max_bandwidth",
    "set_verbose_mode", "set_message_filtering", "set_timing_packets", "get_local_time", "use_ecu_id",
    "use_session_id", "use_timestamp", "use_extended_header", "set_default_log_level",
    "set_default_trace_status", "get_software_version", "message_buffer_overflow"].map ascii

/-- `return_type`. Source: `dlt_common.c` -/
def returnType : List (List UInt8) :=
  ["ok", "not_supported", "error", "perm_denied", "warning", "", "", "",
    "no_matching_context_id"].map ascii

/-- `DLT_SERVICE_ID_LAST_ENTRY`. Source: `dlt_protocol.h` -/
def dltServiceIdLastEntry : ℕ := 21

/-- `DLT_SERVICE_RESPONSE_LAST`. Source: `dlt_protocol.h` -/
def dltServiceResponseLast : ℕ := 5

/-- `DLT_COMMON_ASCII_LIMIT_MAX_CHARS`. Source: `dlt_common_cfg.h` -/
def dltCommonAsciiLimitMaxChars : ℤ := 20

/-- The text for the return value of a service.
Source: `dlt_common.c`, `dlt_message_payload` -/
def returnValueText (retval : UInt8) : List UInt8 :=
  if retval.toNat < dltServiceResponseLast ∨ retval = 8 then returnType.getD retval.toNat []
  else hexByte retval

section text

variable (msg : PayloadMessage) (textlength : ℕ)

/-- The id of the message or the name of the service. Source: `dlt_message_payload` -/
def serviceText (id : ℕ) (datalength : ℤ) : List UInt8 :=
  if dltMsgIsControl msg then
    let name :=
      if 0 < id ∧ id < dltServiceIdLastEntry then snprintfAppend textlength [] (serviceIdName.getD id [])
      else if dltMsgIsControlTime msg then []
      else snprintfAppend textlength [] (ascii s!"service({id})")
    if datalength > 0 then snprintfAppend textlength name (ascii ", ") else name
  else snprintfAppend textlength [] (ascii s!"{id}, ")

/-- The return value of a response, and what is left of the payload. Source: `dlt_message_payload` -/
def responseText (text ptr : List UInt8) (datalength : ℤ) : List UInt8 × List UInt8 × ℤ :=
  if dltMsgIsControlResponse msg ∧ datalength > 0 then
    let retval := ptr.headD 0
    let shown := snprintfAppend textlength text (returnValueText retval)
    let shown := if datalength - 1 ≥ 1 then snprintfAppend textlength shown (ascii ", ") else shown
    (shown, ptr.tail, datalength - 1)
  else (text, ptr, datalength)

/-- The bytes that are left; `limited` is `DLT_OUTPUT_ASCII_LIMITED`. Source: `dlt_message_payload` -/
def restText (limited : Bool) (text ptr : List UInt8) (datalength : ℤ) : ℤ × List UInt8 :=
  if limited then
    let size := min datalength dltCommonAsciiLimitMaxChars
    let (ret, text) := dltPrintHexString text (textlength - text.length) ptr size
    if datalength > dltCommonAsciiLimitMaxChars ∧ textlength - text.length > 4 then
      (ret, snprintfAppend textlength text (ascii " ..."))
    else (ret, text)
  else dltPrintHexString text (textlength - text.length) ptr datalength

/-- The return value and the text. Source: `dlt_message_payload` -/
def dltMessagePayloadNonverbose (limited : Bool) : ℤ × List UInt8 :=
  let readable := 4 ≤ msg.databuffer.length
  let idTmp := if readable then msg.databuffer.take 4 else [0, 0, 0, 0]
  let id := if dltIsHtypMsbf msg.htyp then ofBeBytes idTmp else ofLeBytes idTmp
  let ptr := if readable then msg.databuffer.drop 4 else msg.databuffer
  let datalength : ℤ := if readable then (msg.databuffer.length : ℤ) - 4 else -1
  if textlength < u32 (datalength * 3 + 20) then (dltReturnError, [])
  else
    let (text, ptr, datalength) := responseText msg textlength (serviceText msg textlength id datalength) ptr datalength
    restText textlength limited text ptr datalength

end text

end Dlt.Shared
