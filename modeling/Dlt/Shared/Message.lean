import Dlt.Lib.Machine
import Dlt.Lib.Ring
import Dlt.Lib.Stream
import Dlt.Shared.Types

/-!
# Reading a message: `dlt_message_read`

* `dltMessageRead` — the function, with the search for the serial header, the plausibility check of
  the length field and the copies. Its blocks are definitions of their own: `dltMessageResync`,
  `dltMessageLoadStandard`, `dltMessageLoadExtra`, `dltMessageLoadData`.
-/

namespace Dlt.Shared

open Dlt.Lib

/-! ## Data -/

/-- `DLT_ID_SIZE`. Source: `dlt_common.h` -/
def dltIdSize : ℕ := 4

/-- `dltSerialHeader`: `DLS` and the byte one. Source: `dlt_common.c` -/
def dltSerialHeader : List UInt8 := [0x44, 0x4c, 0x53, 1]

/-- `sizeof(DltStorageHeader)`. Source: `dlt_common.h` -/
def sizeofDltStorageHeader : ℕ := 16

/-- `sizeof(DltStandardHeader)`. Source: `dlt_protocol.h` -/
def sizeofDltStandardHeader : ℕ := 4

/-- `sizeof(DltStandardHeaderExtra)`. Source: `dlt_protocol.h` -/
def sizeofDltStandardHeaderExtra : ℕ := 12

/-- `sizeof(DltExtendedHeader)`. Source: `dlt_protocol.h` -/
def sizeofDltExtendedHeader : ℕ := 10

/-- `DLT_MESSAGE_ERROR_OK`. Source: `dlt_common.h` -/
abbrev dltMessageErrorOk : ℤ := 0

/-- `DLT_MESSAGE_ERROR_UNKNOWN`. Source: `dlt_common.h` -/
abbrev dltMessageErrorUnknown : ℤ := -1

/-- `DLT_MESSAGE_ERROR_SIZE`. Source: `dlt_common.h` -/
abbrev dltMessageErrorSize : ℤ := -2

/-- `DLT_MESSAGE_ERROR_CONTENT`. Source: `dlt_common.h` -/
abbrev dltMessageErrorContent : ℤ := -3

/-- `DLT_IS_HTYP_UEH`: an extended header follows. Source: `dlt_protocol.h` -/
def dltIsHtypUeh (htyp : UInt8) : Bool := htyp &&& 0x01 != 0

/-- `DLT_IS_HTYP_WEID`: the ECU id follows. Source: `dlt_protocol.h` -/
def dltIsHtypWeid (htyp : UInt8) : Bool := htyp &&& 0x04 != 0

/-- `DLT_IS_HTYP_WSID`: the session id follows. Source: `dlt_protocol.h` -/
def dltIsHtypWsid (htyp : UInt8) : Bool := htyp &&& 0x08 != 0

/-- `DLT_IS_HTYP_WTMS`: the timestamp follows. Source: `dlt_protocol.h` -/
def dltIsHtypWtms (htyp : UInt8) : Bool := htyp &&& 0x10 != 0

/-- `DLT_STANDARD_HEADER_EXTRA_SIZE`. Source: `dlt_common.h` -/
def dltStandardHeaderExtraSize (htyp : UInt8) : ℕ :=
  (if dltIsHtypWeid htyp then 4 else 0) + (if dltIsHtypWsid htyp then 4 else 0) +
    (if dltIsHtypWtms htyp then 4 else 0)

/-- The parameters behind the standard header. Source: `dlt_protocol.h`, `DltStandardHeaderExtra` -/
structure DltStandardHeaderExtra where
  /-- ECU id. -/
  ecu : List UInt8
  seid : ℕ
  tmsp : ℕ
deriving DecidableEq, Repr

/-- Source: `dlt_common.h`, `DltMessage` -/
structure DltMessage where
  foundSerialheader : Bool
  /-- Bytes skipped before the serial header. -/
  resyncOffset : ℕ
  /-- Size of the headers, the storage header included. -/
  headersize : ℕ
  datasize : ℤ
  headerbuffer : List UInt8
  /-- The payload, in memory that is kept from message to message. -/
  databuffer : Option (List UInt8)
  databuffersize : ℤ
  /-- Offset of the storage header in `headerbuffer`. -/
  storageheader : Option ℕ
  standardheader : Option ℕ
  headerextra : DltStandardHeaderExtra
  extendedheader : Option ℕ
deriving DecidableEq, Repr

/-- The size of `headerbuffer`. Source: `DltMessage` -/
def sizeofHeaderbuffer : ℕ :=
  sizeofDltStorageHeader + sizeofDltStandardHeader + sizeofDltStandardHeaderExtra +
    sizeofDltExtendedHeader

/-- The fields that the source does not name keep what the memory held.
Source: `dlt_common.c`, `dlt_message_init` -/
def dltMessageInit (msg : DltMessage) : DltMessage :=
  { msg with
    headersize := 0, datasize := 0, databuffer := none, databuffersize := 0
    storageheader := none, standardheader := none, extendedheader := none
    foundSerialheader := false }

/-! ## Reading -/

/-- The loop that looks for the serial header, from `offset` on: the value of `resync_offset` after
it and whether the header was found. Source: `dlt_message_read` -/
def dltMessageResync (buffer : List UInt8) (length offset : ℕ) : ℕ × Bool :=
  if (buffer.drop offset).take 4 = dltSerialHeader then (offset, true)
  else if _h : dltSerialHeader.length + (offset + 1) ≤ length then
    dltMessageResync buffer length (offset + 1)
  else (offset + 1, false)
termination_by length - offset
decreasing_by
  simp only [dltSerialHeader, List.length_cons, List.length_nil] at _h
  omega

/-- Source: `dlt_message_get_extraparameters` -/
def dltMessageGetExtraparameters (msg : DltMessage) (htyp : UInt8) : DltMessage :=
  let start := sizeofDltStorageHeader + sizeofDltStandardHeader
  let afterEcu := start + (if dltIsHtypWeid htyp then 4 else 0)
  let afterSeid := afterEcu + (if dltIsHtypWsid htyp then 4 else 0)
  { msg with headerextra := {
      ecu :=
        if dltIsHtypWeid htyp then (msg.headerbuffer.drop start).take dltIdSize
        else msg.headerextra.ecu
      seid :=
        if dltIsHtypWsid htyp then ofBeBytes ((msg.headerbuffer.drop afterEcu).take 4)
        else msg.headerextra.seid
      tmsp :=
        if dltIsHtypWtms htyp then ofBeBytes ((msg.headerbuffer.drop afterSeid).take 4)
        else msg.headerextra.tmsp } }

/-- The memory for the payload: kept when it is large enough, else allocated.
Source: `dlt_message_read` -/
def dltMessageAllocate (malloc : Malloc) (msg : DltMessage) : DltMessage :=
  if msg.databuffer.isSome ∧ msg.datasize ≤ msg.databuffersize then msg
  else { msg with
    databuffer := (malloc msg.datasize.toNat).map fun fresh =>
      (List.range msg.datasize.toNat).map fresh
    databuffersize := msg.datasize }

/-- The standard header is copied and the sizes that follow from it are set.
Source: `dlt_message_read` -/
def dltMessageLoadStandard (msg : DltMessage) (standard : List UInt8) (headersize : ℕ)
    (datasize : ℤ) : DltMessage :=
  { msg with
    headerbuffer := overwrite msg.headerbuffer sizeofDltStorageHeader standard
    storageheader := some 0, standardheader := some sizeofDltStorageHeader, headersize, datasize }

/-- The parameters behind the standard header and the extended header are loaded, if there are any.
Source: `dlt_message_read` -/
def dltMessageLoadExtra (msg : DltMessage) (htyp : UInt8) (extra : List UInt8) : DltMessage :=
  if extra.length > 0 then
    let msg := { msg with
      headerbuffer := overwrite msg.headerbuffer
        (sizeofDltStorageHeader + sizeofDltStandardHeader) extra
      extendedheader :=
        if dltIsHtypUeh htyp then
          some (sizeofDltStorageHeader + sizeofDltStandardHeader + dltStandardHeaderExtraSize htyp)
        else none }
    dltMessageGetExtraparameters msg htyp
  else msg

/-- The payload is copied to the memory for it. Source: `dlt_message_read` -/
def dltMessageLoadData (malloc : Malloc) (msg : DltMessage) (payload : List UInt8) :
    DltMessage × ℤ :=
  let msg := dltMessageAllocate malloc msg
  match msg.databuffer with
  | none => (msg, dltMessageErrorUnknown)
  | some databuffer =>
      ({ msg with databuffer := some (overwrite databuffer 0 payload) }, dltMessageErrorOk)

/-- The part of `dlt_message_read` behind the search for the serial header: a message is expected at
the beginning of `buffer`, of which `length` bytes are valid.
Source: `dlt_message_read` -/
def dltMessageReadBody (malloc : Malloc) (msg : DltMessage) (buffer : List UInt8) (length : ℕ) :
    DltMessage × ℤ :=
  if length < sizeofDltStandardHeader then (msg, dltMessageErrorSize)
  else
    let standard := buffer.take sizeofDltStandardHeader
    let htyp := standard.getD 0 0
    let len := ofBeBytes ((standard.drop 2).take 2)
    let extraSize := dltStandardHeaderExtraSize htyp +
      (if dltIsHtypUeh htyp then sizeofDltExtendedHeader else 0)
    let headersize := sizeofDltStorageHeader + sizeofDltStandardHeader + extraSize
    let datasize : ℤ := len - headersize + sizeofDltStorageHeader
    let msg := dltMessageLoadStandard msg standard headersize datasize
    if datasize < 0 then (msg, dltMessageErrorContent)
    else if extraSize > 0 ∧ length < headersize - sizeofDltStorageHeader then
      (msg, dltMessageErrorSize)
    else
      let msg := dltMessageLoadExtra msg htyp
        ((buffer.drop sizeofDltStandardHeader).take extraSize)
      if length < headersize - sizeofDltStorageHeader + datasize then (msg, dltMessageErrorSize)
      else dltMessageLoadData malloc msg
        ((buffer.drop (headersize - sizeofDltStorageHeader)).take datasize.toNat)

/-- The message, read from the memory `buffer` of which the first `length` bytes are valid.
Source: `dlt_message_read` -/
def dltMessageRead (malloc : Malloc) (msg : DltMessage) (buffer : List UInt8) (length : ℕ)
    (resync : Bool) : DltMessage × ℤ :=
  if length = 0 then (msg, dltMessageErrorUnknown)
  else
    let msg := { msg with resyncOffset := 0 }
    if length < dltSerialHeader.length then (msg, dltMessageErrorSize)
    else if buffer.take 4 = dltSerialHeader then
      dltMessageReadBody malloc { msg with foundSerialheader := true } (buffer.drop 4) (length - 4)
    else if resync then
      let (offset, found) := dltMessageResync buffer length 0
      let skip := if found then 4 + offset else offset
      dltMessageReadBody malloc { msg with foundSerialheader := found, resyncOffset := offset }
        (buffer.drop skip) (length - skip)
    else dltMessageReadBody malloc { msg with foundSerialheader := false } buffer length

theorem dltMessageRead_pos {malloc : Malloc} {msg : DltMessage} {buffer : List UInt8} {length : ℕ}
    {resync : Bool}
    (h : (dltMessageRead malloc msg buffer length resync).2 = dltMessageErrorOk) : 0 < length := by
  by_contra hzero
  rw [dltMessageRead, if_pos (by omega)] at h
  simp at h

end Dlt.Shared
