import Dlt.Lib.Fields
import Dlt.Shared.Id
import Dlt.Shared.MessagePayload

/-!
# Sending a message: `dlt_user_log_send_log`

* `dltUserLogSendLog` — the function. `SendLogResult` says which bytes were handed on behind the user header.

The host is little endian. Shared memory and the corruption of messages for tests are not compiled in.
-/

namespace Dlt.User

open Dlt.Lib Dlt.Shared

/-! ## Data -/

/-- `DLT_TYPE_LOG`. Source: `dlt_protocol.h` -/
def dltTypeLog : ℤ := 0

/-- `DLT_TYPE_NW_TRACE`. Source: `dlt_protocol.h` -/
def dltTypeNwTrace : ℤ := 2

/-- `DLT_PM_AUTOMATIC`. Source: `dlt_user_cfg.h` -/
def dltPmAutomatic : ℤ := 1

/-- `DLT_PM_FORCE_ON`. Source: `dlt_user_cfg.h` -/
def dltPmForceOn : ℤ := 2

/-- `DLT_PM_FORCE_OFF`. Source: `dlt_user_cfg.h` -/
def dltPmForceOff : ℤ := 3

/-- The settings of the library. Every function that stores an id stores it with `dlt_set_id`.
Source: `dlt_user.h`, `DltUser` -/
structure DltUser where
  /-- `dlt_user_initialised`. -/
  initialised : Bool
  /-- ECU id. -/
  ecuID : Id4
  /-- Nothing follows the first zero. -/
  ecuID_canonical : ecuID.Canonical
  appID : Id4
  /-- Nothing follows the first zero. -/
  appID_canonical : appID.Canonical
  /-- `verbose_mode`. -/
  verboseMode : ℤ
  /-- `use_extended_header_for_non_verbose`. -/
  useExtendedHeaderForNonVerbose : Bool
  /-- `with_session_id`. -/
  withSessionId : Bool
  /-- `with_timestamp`. -/
  withTimestamp : Bool
  /-- `with_ecu_id`. -/
  withEcuId : Bool
  /-- `enable_local_print`. -/
  enableLocalPrint : Bool
  /-- `local_print_mode`. -/
  localPrintMode : ℤ
  /-- `dlt_is_file`. -/
  dltIsFile : Bool
  /-- `dlt_is_daemon`. -/
  dltIsDaemon : Bool

/-- Source: `DltContext` -/
structure DltContext where
  contextID : Id4
  /-- Nothing follows the first zero. -/
  contextID_canonical : contextID.Canonical
  mcnt : UInt8
deriving DecidableEq

/-- A message that was written. Source: `DltContextData` -/
structure DltContextData where
  handle : Option DltContext
  /-- The first `size` bytes of `buffer`. -/
  buffer : List UInt8
  /-- Every function that writes to the buffer keeps `size` at most `log_buf_len`, a `uint16_t`. -/
  size_le : buffer.length ≤ 65535
  /-- `log_level`. -/
  logLevel : ℤ
  /-- `trace_status`. -/
  traceStatus : ℤ
  /-- `args_num`. -/
  argsNum : ℤ
  /-- `use_timestamp` is `DLT_AUTO_TIMESTAMP`. -/
  autoTimestamp : Bool
  /-- `user_timestamp`. -/
  userTimestamp : UInt32
  /-- `verbose_mode`. -/
  verboseMode : Bool

/-- What the system and the calls that hand the message on give. -/
structure SendEnv where
  /-- The memory of the local variable `msg`. -/
  memory : DltMessage
  memory_length : memory.headerbuffer.length = sizeofHeaderbuffer
  /-- `getpid`. -/
  pid : UInt32
  /-- `dlt_uptime`. -/
  uptime : UInt32
  /-- The time of day: seconds and microseconds. -/
  time : UInt32 × UInt32
  /-- `dlt_user_print_msg`. -/
  print : ℤ
  /-- `dlt_log_handle` is open after `dlt_user_log_reattach_to_daemon`. -/
  connected : Bool
  /-- `dlt_user_log_resend_buffer`. -/
  resend : ℤ
  /-- `dlt_user_log_out3`. -/
  out3 : ℤ
  /-- `dlt_user_log_out_error_handling`. -/
  errorHandling : ℤ

/-! ## The headers -/

/-- Source: `dlt_user.c`, `is_verbose_mode` -/
def isVerboseMode (verboseMode : ℤ) (log : DltContextData) : Bool :=
  verboseMode == 1 || log.verboseMode

/-- The bytes of the storage header. Source: `dlt_common.c`, `dlt_set_storageheader` -/
def dltSetStorageheader (time : UInt32 × UInt32) (ecu : List UInt8) : List UInt8 :=
  [0x44, 0x4c, 0x54, 1] ++ leBytes 4 time.1.toNat ++ leBytes 4 time.2.toNat ++ (dltSetId ecu).bytes

/-- `DLT_HTOBE_32`. Source: `dlt_common.h` -/
def dltHtobe32 (x : ℕ) : ℕ := ofLeBytes (beBytes 4 x)

/-- `DLT_HTOBE_16`. Source: `dlt_common.h` -/
def dltHtobe16 (x : ℕ) : ℕ := ofLeBytes (beBytes 2 x)

/-- The field `htyp` of the message. Source: `dlt_user.c`, `dlt_user_log_send_log` -/
def dltUserLogHtyp (user : DltUser) (log : DltContextData) : UInt8 :=
  (0x20 : UInt8) ||| (if user.withEcuId then 0x04 else 0) ||| (if user.withTimestamp then 0x10 else 0) |||
    (if user.withSessionId then 0x08 else 0) |||
    (if isVerboseMode user.verboseMode log then 0x01
      else if user.useExtendedHeaderForNonVerbose then 0x01 else 0)

/-- Source: `dlt_common.c`, `dlt_message_set_extraparameters` -/
def dltMessageSetExtraparameters (msg : DltMessage) (htyp : UInt8) : DltMessage :=
  let start := sizeofDltStorageHeader + sizeofDltStandardHeader
  let afterEcu := start + (if dltIsHtypWeid htyp then 4 else 0)
  let afterSeid := afterEcu + (if dltIsHtypWsid htyp then 4 else 0)
  let msg :=
    if dltIsHtypWeid htyp then
      { msg with headerbuffer := overwrite msg.headerbuffer start msg.headerextra.ecu }
    else msg
  let msg :=
    if dltIsHtypWsid htyp then
      let seid := dltHtobe32 msg.headerextra.seid
      { msg with
        headerextra := { msg.headerextra with seid }
        headerbuffer := overwrite msg.headerbuffer afterEcu (leBytes 4 seid) }
    else msg
  if dltIsHtypWtms htyp then
    let tmsp := dltHtobe32 msg.headerextra.tmsp
    { msg with
      headerextra := { msg.headerextra with tmsp }
      headerbuffer := overwrite msg.headerbuffer afterSeid (leBytes 4 tmsp) }
  else msg

/-- The field `msin` of the message, if it is of a type that is sent.
Source: `dlt_user.c`, `dlt_user_log_send_log` -/
def dltUserLogMsin (user : DltUser) (log : DltContextData) (mtype : ℤ) : Option UInt8 :=
  let verb : UInt8 := if isVerboseMode user.verboseMode log then 0x01 else 0
  if mtype = dltTypeLog then
    some ((UInt8.ofInt (dltTypeLog * 2) ||| UInt8.ofInt (log.logLevel * 16) &&& 0xf0) ||| verb)
  else if mtype = dltTypeNwTrace then
    some ((UInt8.ofInt (dltTypeNwTrace * 2) ||| UInt8.ofInt (log.traceStatus * 16) &&& 0xf0) ||| verb)
  else none

/-- The time stamp of the message. Source: `dlt_user_log_send_log` -/
def dltUserLogTmsp (env : SendEnv) (log : DltContextData) : UInt32 :=
  if log.autoTimestamp then env.uptime else log.userTimestamp

/-- The message up to the parameters behind the standard header.
Source: `dlt_user_log_send_log` -/
def dltUserLogStandard (env : SendEnv) (user : DltUser) (handle : DltContext) (log : DltContextData) :
    DltMessage :=
  let msg := dltMessageInit env.memory
  let msg := { msg with
    storageheader := some 0
    headerbuffer := overwrite msg.headerbuffer 0 (dltSetStorageheader env.time user.ecuID.bytes)
    standardheader := some sizeofDltStorageHeader }
  let msg := { msg with
    headerbuffer := overwrite msg.headerbuffer sizeofDltStorageHeader
      [dltUserLogHtyp user log, handle.mcnt] }
  let msg := { msg with
    headerextra := {
      ecu := (dltSetId user.ecuID.bytes).bytes
      seid := if user.withSessionId then env.pid.toNat else msg.headerextra.seid
      tmsp := (dltUserLogTmsp env log).toNat } }
  dltMessageSetExtraparameters msg (dltUserLogHtyp user log)

/-- All headers but for the length field; `none` is a type that is not sent.
Source: `dlt_user_log_send_log` -/
def dltUserLogHeaders (env : SendEnv) (user : DltUser) (handle : DltContext) (log : DltContextData)
    (mtype : ℤ) : Option DltMessage :=
  let msg := dltUserLogStandard env user handle log
  let htyp := dltUserLogHtyp user log
  let start := sizeofDltStorageHeader + sizeofDltStandardHeader + dltStandardHeaderExtraSize htyp
  if dltIsHtypUeh htyp then
    (dltUserLogMsin user log mtype).map fun msin =>
      { msg with
        extendedheader := some start
        headerbuffer := overwrite msg.headerbuffer start
          ([msin, UInt8.ofInt log.argsNum] ++ (dltSetId user.appID.bytes).bytes ++
            (dltSetId handle.contextID.bytes).bytes)
        headersize := start + sizeofDltExtendedHeader }
  else some { msg with headersize := start }

/-! ## The function -/

structure SendLogResult where
  ret : ℤ
  handle : Option DltContext
  /-- What was handed to the connection behind the user header. -/
  written : Option (List UInt8)
  /-- What was handed to the ring buffer behind the user header. -/
  stored : Option (List UInt8)
  /-- What was handed to the log file. -/
  traced : Option (List UInt8)
deriving DecidableEq

/-- The message is handed on. Source: `dlt_user_log_send_log` -/
def dltUserLogHandOn (env : SendEnv) (user : DltUser) (log : DltContextData) (handle : Option DltContext)
    (msg : DltMessage) : SendLogResult :=
  let bytes := field msg.headerbuffer sizeofDltStorageHeader (msg.headersize - sizeofDltStorageHeader) ++
    log.buffer
  let traced :=
    if user.dltIsFile then some (field msg.headerbuffer 0 msg.headersize ++ log.buffer) else none
  if user.dltIsDaemon then
    let ret := if env.connected ∧ ¬ user.appID.isEmpty then env.resend else dltReturnOk
    let writes : Bool := ret = dltReturnOk ∧ ¬ user.appID.isEmpty
    let ret := if writes then env.out3 else ret
    let stores : Bool := ret ≠ dltReturnOk ∨ user.appID.isEmpty
    let processErrorRet := if stores then env.errorHandling else dltReturnOk
    { ret :=
        if processErrorRet = dltReturnOk then dltReturnOk
        else if processErrorRet = dltReturnBufferFull then dltReturnBufferFull
        else if ret = dltReturnPipeFull ∨ ret = dltReturnPipeError ∨ ret = dltReturnOk then ret
        else dltReturnError
      handle
      written := if writes then some bytes else none
      stored := if stores then some bytes else none
      traced }
  else { ret := dltReturnOk, handle, written := none, stored := none, traced }

/-- The result and the context of a call that ends before the message is handed on, or the context and the
message. Source: `dlt_user_log_send_log` -/
def dltUserLogFrame (env : SendEnv) (user : DltUser) (log : DltContextData) (mtype : ℤ) :
    Except (ℤ × Option DltContext) (Option DltContext × DltMessage) :=
  if ¬ user.initialised then .error (dltReturnError, log.handle)
  else
    match log.handle with
    | none => .error (dltReturnWrongParameter, none)
    | some handle =>
        if handle.contextID.isEmpty ∨ mtype < dltTypeLog ∨ mtype > dltTypeControl then
          .error (dltReturnWrongParameter, some handle)
        else
          let counted := some { handle with mcnt := handle.mcnt + 1 }
          match dltUserLogHeaders env user handle log mtype with
          | none => .error (dltReturnError, counted)
          | some msg =>
              let len := i32 (msg.headersize - sizeofDltStorageHeader + log.buffer.length)
              if len > 65535 then .error (dltReturnError, counted)
              else
                let msg := { msg with
                  headerbuffer := overwrite msg.headerbuffer (sizeofDltStorageHeader + 2)
                    (leBytes 2 (dltHtobe16 (u32 len))) }
                let prints := user.localPrintMode ≠ dltPmForceOff ∧ user.localPrintMode ≠ dltPmAutomatic ∧
                  (user.enableLocalPrint ∨ user.localPrintMode = dltPmForceOn)
                if prints ∧ env.print = dltReturnError then .error (dltReturnError, counted)
                else .ok (counted, msg)

/-- Source: `dlt_user_log_send_log` -/
def dltUserLogSendLog (env : SendEnv) (user : DltUser) (log : DltContextData) (mtype : ℤ) : SendLogResult :=
  match dltUserLogFrame env user log mtype with
  | .error (ret, handle) => { ret, handle, written := none, stored := none, traced := none }
  | .ok (counted, msg) => dltUserLogHandOn env user log counted msg

end Dlt.User
