import Dlt.Lib.Hex
import Dlt.Shared.Types

/-!
# Parsing the text of a GET_LOG_INFO response

* `parseLogInfo` — what the callers of both do.
-/

namespace Dlt.Client

open Dlt.Lib Dlt.Shared

/-! ## Data -/

/-- Source: `dlt_common.h`, `ContextIDsInfoType` -/
structure ContextIDsInfoType where
  contextId : List UInt8
  logLevel : ℤ
  traceStatus : ℤ
  lenContextDescription : ℕ
  contextDescription : Option (List UInt8)
deriving DecidableEq

/-- Source: `AppIDsType` -/
structure AppIDsType where
  appId : List UInt8
  countContextIds : ℕ
  contextIdInfo : List ContextIDsInfoType
  lenAppDescription : ℕ
  appDescription : Option (List UInt8)
deriving DecidableEq

/-- Source: `LogInfoType` -/
structure LogInfoType where
  countAppIds : ℕ
  appIds : List AppIDsType
deriving DecidableEq

/-! ## Conversions -/

/-- `GET_LOG_INFO_LENGTH`. Source: `dlt_common.h` -/
def getLogInfoLength : ℕ := 13

/-- The service option, or nothing when the text is about another service.
Source: `dlt_common.c`, `dlt_set_loginfo_parse_service_id` -/
def dltSetLoginfoParseServiceId (respText : ℕ → UInt8) : Option ℕ :=
  if (List.range (getLogInfoLength - 1)).map respText = ascii "get_log_info" then
    some (strtol [respText (getLogInfoLength + 1), respText (getLogInfoLength + 2)] 10 % 256).toNat
  else none

/-- The number and the position behind it.
Source: `dlt_getloginfo_conv_ascii_to_uint16_t` -/
def dltGetloginfoConvAsciiToUint16t (rp : ℕ → UInt8) (rpCount : ℕ) : ℕ × ℕ :=
  let numWork := [rp (rpCount + 3), rp (rpCount + 4), rp rpCount, rp (rpCount + 1)]
  -- the result is converted to `unsigned char`
  ((strtol numWork 16 % 256).toNat, rpCount + 6)

/-- The number and the position behind it.
Source: `dlt_getloginfo_conv_ascii_to_int16_t` -/
def dltGetloginfoConvAsciiToInt16t (rp : ℕ → UInt8) (rpCount : ℕ) : ℤ × ℕ :=
  let value := strtol [rp rpCount, rp (rpCount + 1)] 16 % 256
  -- the result is converted to `signed char`
  (if value < 128 then value else value - 256, rpCount + 3)

/-- The characters and the position behind them. A zero follows the characters in memory.
Source: `dlt_getloginfo_conv_ascii_to_id` -/
def dltGetloginfoConvAsciiToId (rp : ℕ → UInt8) (rpCount : ℕ) : ℕ → List UInt8 × ℕ
  | 0 => ([], rpCount)
  | len + 1 =>
    let char := UInt8.ofNat (strtol [rp rpCount, rp (rpCount + 1)] 16 % 256).toNat
    let (rest, rpCount) := dltGetloginfoConvAsciiToId rp (rpCount + 3) len
    (char :: rest, rpCount)

/-! ## The parser -/

/-- `DLT_GET_LOG_INFO_HEADER`. Source: `dlt_common.h` -/
def dltGetLogInfoHeader : ℕ := 18

/-- `GET_LOG_INFO_STATUS_MIN`. Source: `dlt_protocol.h` -/
def getLogInfoStatusMin : ℕ := 3

/-- `GET_LOG_INFO_STATUS_MAX`. Source: `dlt_protocol.h` -/
def getLogInfoStatusMax : ℕ := 7

/-- `sizeof(AppIDsType)`. Source: `dlt_common.h` -/
def sizeofAppIDsType : ℕ := 32

/-- `sizeof(ContextIDsInfoType)`. Source: `dlt_common.h` -/
def sizeofContextIDsInfoType : ℕ := 24

/-- The responses with this status hold the log levels. -/
def hasLogLevel (status : ℕ) : Bool := status = 4 ∨ status = 6 ∨ status = 7

/-- The responses with this status hold the trace statuses. -/
def hasTraceStatus (status : ℕ) : Bool := status = 5 ∨ status = 6 ∨ status = 7

/-- A description with its length. Source: `dlt_client.c`, `dlt_client_parse_get_log_info_resp_text` -/
def parseDescription (malloc : Malloc) (rp : ℕ → UInt8) (rpCount : ℕ) :
    Option ((ℕ × List UInt8) × ℕ) := do
  let (len, rpCount) := dltGetloginfoConvAsciiToUint16t rp rpCount
  let _ ← malloc (len + 1)
  let (description, rpCount) := dltGetloginfoConvAsciiToId rp rpCount len
  return ((len, description), rpCount)

/-- A context. The fields that the response does not hold stay zero.
Source: `dlt_client_parse_get_log_info_resp_text` -/
def parseContext (malloc : Malloc) (status : ℕ) (rp : ℕ → UInt8) (rpCount : ℕ) :
    Option (ContextIDsInfoType × ℕ) := do
  let (contextId, rpCount) := dltGetloginfoConvAsciiToId rp rpCount 4
  let (logLevel, rpCount) :=
    if hasLogLevel status then dltGetloginfoConvAsciiToInt16t rp rpCount else (0, rpCount)
  let (traceStatus, rpCount) :=
    if hasTraceStatus status then dltGetloginfoConvAsciiToInt16t rp rpCount else (0, rpCount)
  if status = 7 then
    let ((len, description), rpCount) ← parseDescription malloc rp rpCount
    return (⟨contextId, logLevel, traceStatus, len, some description⟩, rpCount)
  else return (⟨contextId, logLevel, traceStatus, 0, none⟩, rpCount)

/-- `n` records one after the other. -/
def parseMany {α : Type} (parse : ℕ → Option (α × ℕ)) : ℕ → ℕ → Option (List α × ℕ)
  | 0, rpCount => some ([], rpCount)
  | n + 1, rpCount => do
    let (x, rpCount) ← parse rpCount
    let (xs, rpCount) ← parseMany parse n rpCount
    return (x :: xs, rpCount)

/-- An application. Source: `dlt_client_parse_get_log_info_resp_text` -/
def parseApplication (malloc : Malloc) (status : ℕ) (rp : ℕ → UInt8) (rpCount : ℕ) :
    Option (AppIDsType × ℕ) := do
  let (appId, rpCount) := dltGetloginfoConvAsciiToId rp rpCount 4
  let (count, rpCount) := dltGetloginfoConvAsciiToUint16t rp rpCount
  let _ ← malloc (count * sizeofContextIDsInfoType)
  let (contexts, rpCount) ← parseMany (parseContext malloc status rp) count rpCount
  if status = 7 then
    let ((len, description), rpCount) ← parseDescription malloc rp rpCount
    return (⟨appId, count, contexts, len, some description⟩, rpCount)
  else return (⟨appId, count, contexts, 0, none⟩, rpCount)

/-- The parsed response, nothing for an error.
Source: `dlt_client_parse_get_log_info_resp_text` -/
def dltClientParseGetLogInfoRespText (malloc : Malloc) (status : ℕ) (respText : ℕ → UInt8) :
    Option LogInfoType := do
  let rp := fun k => respText (dltGetLogInfoHeader + k)
  if status < getLogInfoStatusMin ∨ status > getLogInfoStatusMax then none
  else
    let (count, rpCount) := dltGetloginfoConvAsciiToUint16t rp 0
    let _ ← malloc (count * sizeofAppIDsType)
    let (apps, _) ← parseMany (parseApplication malloc status rp) count rpCount
    return ⟨count, apps⟩

/-- The status and the parsed response.
Source: `dlt_gateway.c`, `dlt_gateway_parse_get_log_info` -/
def parseLogInfo (malloc : Malloc) (respText : ℕ → UInt8) : Option (ℕ × LogInfoType) := do
  let status ← dltSetLoginfoParseServiceId respText
  let info ← dltClientParseGetLogInfoRespText malloc status respText
  return (status, info)

end Dlt.Client
