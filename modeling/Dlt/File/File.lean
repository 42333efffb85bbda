import Dlt.Gateway.MessageParts
import Dlt.Lib.ByteFile
import Dlt.MsgFilter.Filter
import Dlt.User.SendLog

/-!
# Reading a file: `dlt_file_read`, `dlt_file_read_raw`, `dlt_file_message`

* `dltFileReadRaw` — the next message of a stream with serial headers is loaded and indexed.

The files are regular: `fseek` to a position that is not negative succeeds.
-/

namespace Dlt.File

open Dlt.Lib Dlt.Shared
open Dlt.Gateway (idOf)
open Dlt.MsgFilter (DltFilter DltExtendedHeader CheckedMessage dltMessageFilterCheck)
open Dlt.User (dltSetStorageheader)

/-! ## Data -/

/-- The pattern of a storage header. Source: `dlt_common.c`, `dlt_check_storageheader` -/
def storagePattern : List UInt8 := [0x44, 0x4c, 0x54, 1]

/-- `sizeof(DltStorageHeader) + sizeof(DltStandardHeader)`. -/
def sizeofHeaders : ℕ := sizeofDltStorageHeader + sizeofDltStandardHeader

/-- `DLT_COMMON_INDEX_ALLOC`. Source: `dlt_common_cfg.h` -/
def dltCommonIndexAlloc : ℕ := 1000

/-- `sizeof(long)`. -/
def sizeofLong : ℕ := 8

/-- `DLT_COMMON_DUMMY_ECUID`: `ECU`. Source: `dlt_common_cfg.h` -/
def dltCommonDummyEcuid : List UInt8 := [0x45, 0x43, 0x55]

/-- What the reading of a message changes. -/
structure LoadState where
  handle : ByteFile
  msg : DltMessage
deriving DecidableEq

/-- Source: `dlt_common.h`, `DltFile` -/
structure DltFile extends LoadState where
  /-- File positions of the messages with filter: the first `counter` entries of the array. -/
  index : List ℕ
  /-- Number of messages with filter. -/
  counter : ℕ
  /-- Number of messages without filter. -/
  counterTotal : ℕ
  /-- Current index to a message. -/
  position : ℤ
  fileLength : ℕ
  filePosition : ℕ
  /-- Number of incomplete messages that were found. -/
  errorMessages : ℕ
  filter : Option DltFilter
deriving DecidableEq

/-- A file that can be opened. Source: `dlt_common.c`, `dlt_file_open` -/
def dltFileOpen (content : List UInt8) (file : DltFile) : DltFile :=
  { file with
    handle := { content, pos := 0 }
    counter := 0, counterTotal := 0, position := 0, filePosition := 0
    fileLength := content.length, errorMessages := 0 }

/-- Source: `dlt_file_set_filter` -/
def dltFileSetFilter (file : DltFile) (filter : Option DltFilter) : DltFile := { file with filter }

/-! ## One message -/

/-- `fread` of `n` bytes, which are not none, into `headerbuffer` from `start` on. -/
def LoadState.fread (s : LoadState) (start n : ℕ) : LoadState where
  handle := s.handle.skip n
  msg := { s.msg with headerbuffer := overwrite s.msg.headerbuffer start (s.handle.got n) }

/-- The headers are set to the two places in the buffer. -/
def LoadState.pointed (s : LoadState) : LoadState :=
  { s with msg := { s.msg with storageheader := some 0, standardheader := some sizeofDltStorageHeader } }

/-- The loop until a storage header is found. Source: `dlt_file_read_header` -/
def dltFileFindHeader (s : LoadState) : LoadState × Bool :=
  if _h : s.handle.rest.length < sizeofHeaders then (s.fread 0 sizeofHeaders, false)
  else
    let read := (s.fread 0 sizeofHeaders).pointed
    if read.msg.headerbuffer.take 4 = storagePattern then (read, true)
    else dltFileFindHeader { read with handle := s.handle.seek (s.handle.pos + 1) }
termination_by s.handle.rest.length
decreasing_by
  simp only [ByteFile.rest, ByteFile.content_seek, ByteFile.pos_seek, List.length_drop, sizeofHeaders,
    sizeofDltStorageHeader, sizeofDltStandardHeader] at _h ⊢
  omega

/-- The sizes that the standard header gives, if there is one for the payload.
Source: `dlt_file_read_header` -/
def LoadState.setSizes (s : LoadState) : LoadState × ℤ :=
  let htyp := s.msg.headerbuffer.getD sizeofDltStorageHeader 0
  let len := ofBeBytes ((s.msg.headerbuffer.drop (sizeofDltStorageHeader + 2)).take 2)
  let headersize := sizeofDltStorageHeader + headerLength htyp
  let tempDatasize : ℤ := len + sizeofDltStorageHeader - headersize
  if tempDatasize < 0 then ({ s with msg := { s.msg with headersize } }, dltReturnError)
  else ({ s with msg := { s.msg with headersize, datasize := tempDatasize } }, dltReturnOk)

/-- Source: `dlt_file_read_header` -/
def dltFileReadHeader (s : LoadState) : LoadState × ℤ :=
  let found := dltFileFindHeader s
  if found.2 then found.1.setSizes else (found.1, dltReturnError)

/-- The parameters behind the standard header are loaded, if there are any.
Source: `dlt_file_read_header_extended` -/
def dltFileReadExtra (s : LoadState) (htyp : UInt8) : LoadState × ℤ :=
  let size := dltStandardHeaderExtraSize htyp
  if size = 0 then (s, dltReturnOk)
  else
    let read := s.fread sizeofHeaders size
    if s.handle.rest.length < size then (read, dltReturnError)
    else ({ read with msg := dltMessageGetExtraparameters read.msg htyp }, dltReturnOk)

/-- The pointer to the extended header is kept where there is none.
Source: `dlt_file_read_header_extended` -/
def dltFileReadHeaderExtended (s : LoadState) : LoadState × ℤ :=
  let htyp := s.msg.headerbuffer.getD sizeofDltStorageHeader 0
  let extra := dltFileReadExtra s htyp
  if extra.2 < dltReturnOk then (extra.1, dltReturnError)
  else if dltIsHtypUeh htyp then
    let start := sizeofHeaders + dltStandardHeaderExtraSize htyp
    let read := extra.1.fread start sizeofDltExtendedHeader
    if extra.1.handle.rest.length < sizeofDltExtendedHeader then (read, dltReturnError)
    else ({ read with msg := { read.msg with extendedheader := some start } }, dltReturnOk)
  else (extra.1, dltReturnOk)

/-- Source: `dlt_file_read_data` -/
def dltFileReadData (malloc : Malloc) (s : LoadState) : LoadState × ℤ :=
  let msg := dltMessageAllocate malloc s.msg
  let size := msg.datasize.toNat
  match msg.databuffer with
  | none => ({ s with msg }, dltReturnError)
  | some databuffer =>
      ({ handle := s.handle.skip size
         msg := { msg with databuffer := some (overwrite databuffer 0 (s.handle.got size)) } },
        if s.handle.rest.length < size then dltReturnError else dltReturnOk)

/-- The three steps, one behind the other. Source: `dlt_file_message` -/
def dltFileLoad (malloc : Malloc) (s : LoadState) : LoadState × ℤ :=
  let header := dltFileReadHeader s
  if header.2 < dltReturnOk then header
  else
    let extended := dltFileReadHeaderExtended header.1
    if extended.2 < dltReturnOk then extended else dltFileReadData malloc extended.1

/-- What the filter reads of the record; the size is an `int32_t`.
Source: `dlt_message_filter_check` -/
def checkedMessage (msg : DltMessage) : CheckedMessage where
  extended :=
    if dltIsHtypUeh (msg.headerbuffer.getD sizeofDltStorageHeader 0) then
      let header := msg.headerbuffer.drop (msg.extendedheader.getD 0)
      some { msin := header.getD 0 0, apid := idOf (header.drop 2), ctid := idOf (header.drop 6) }
    else none
  datasize := msg.datasize.toNat % 2147483648
  datasize_le := Nat.le_of_lt_succ (Nat.mod_lt _ (by decide))

/-! ## The index -/

/-- The array has room for one more entry: it is copied to a larger one whenever a thousand entries are used.
Source: `dlt_file_read` -/
def DltFile.hasRoom (malloc : Malloc) (file : DltFile) : Bool :=
  file.counter % dltCommonIndexAlloc ≠ 0 ||
    (malloc ((file.counter / dltCommonIndexAlloc + 1) * dltCommonIndexAlloc * sizeofLong)).isSome

/-- `fseek`. -/
def DltFile.seek (file : DltFile) (pos : ℕ) : DltFile := { file with handle := file.handle.seek pos }

/-- The position is stored. Source: `dlt_file_read` -/
def DltFile.store (file : DltFile) : DltFile :=
  { file with
    index := file.index.take file.counter ++ [file.filePosition]
    counter := file.counter + 1, position := file.counter }

/-- The next message comes. Source: `dlt_file_read` -/
def DltFile.next (file : DltFile) : DltFile :=
  { file with counterTotal := file.counterTotal + 1, filePosition := file.handle.pos }

/-- The call gives up: the file is set back. Source: `dlt_file_read` -/
def DltFile.givenUp (file : DltFile) (s : LoadState) : DltFile × ℤ :=
  (DltFile.seek { file with toLoadState := s } file.filePosition, dltReturnError)

/-- Behind the header, with a filter. Source: `dlt_file_read` -/
def dltFileReadFiltered (filter : DltFilter) (file : DltFile) : DltFile × ℤ :=
  let extended := dltFileReadHeaderExtended file.toLoadState
  if extended.2 < dltReturnOk then file.givenUp extended.1
  else
    let file := { file with toLoadState := extended.1 }
    let selected := dltMessageFilterCheck (checkedMessage file.msg) filter = dltReturnTrue
    let file := if selected then file.store else file
    ((file.seek (file.handle.pos + file.msg.datasize.toNat)).next, if selected then dltReturnTrue else dltReturnOk)

/-- Behind the header, without filter. Source: `dlt_file_read` -/
def dltFileReadUnfiltered (file : DltFile) : DltFile × ℤ :=
  let skipped := file.msg.headersize - sizeofHeaders + file.msg.datasize.toNat
  ((file.seek (file.handle.pos + skipped)).store.next, dltReturnTrue)

/-- Source: `dlt_file_read` -/
def dltFileRead (malloc : Malloc) (file : DltFile) : DltFile × ℤ :=
  if file.hasRoom malloc = false then (file, dltReturnError)
  else
    let header := dltFileReadHeader (file.seek file.filePosition).toLoadState
    if header.2 < dltReturnOk then file.givenUp header.1
    else
      match file.filter with
      | some filter => dltFileReadFiltered filter { file with toLoadState := header.1 }
      | none => dltFileReadUnfiltered { file with toLoadState := header.1 }

/-- Source: `dlt_file_message` -/
def dltFileMessage (malloc : Malloc) (file : DltFile) (index : ℕ) : DltFile × ℤ :=
  if index ≥ file.counter then (file, dltReturnWrongParameter)
  else
    let file := file.seek (file.index.getD index 0)
    let loaded := dltFileLoad malloc file.toLoadState
    let file := { file with toLoadState := loaded.1 }
    if loaded.2 < dltReturnOk then (file, dltReturnError)
    else ({ file with position := index }, dltReturnOk)

/-! ## Streams with serial headers -/

/-- The loop that moves the window of four bytes until it is the serial header.
Source: `dlt_file_read_header_raw` -/
def resyncLoop (window : List UInt8) (handle : ByteFile) : ByteFile × Bool :=
  if _h : handle.rest.length < 1 then (handle, false)
  else
    let window := window.drop 1 ++ handle.got 1
    if window = dltSerialHeader then (handle.skip 1, true) else resyncLoop window (handle.skip 1)
termination_by handle.rest.length
decreasing_by
  rw [ByteFile.rest_skip_of_le (by omega), List.length_drop]
  omega

/-- The file behind the serial header, or set back where there is none; the value says that the reading goes on.
Source: `dlt_file_read_header_raw` -/
def dltFileSynchronise (resync : Bool) (file : DltFile) : DltFile × Bool :=
  let window := file.handle.got 4
  let read := { file with handle := file.handle.skip 4 }
  if file.handle.rest.length < 4 then (read, false)
  else if window = dltSerialHeader then (read, true)
  else if resync then
    let found := resyncLoop window read.handle
    ({ read with handle := found.1, errorMessages := read.errorMessages + 1 }, found.2)
  else (read.seek read.filePosition, true)

/-- The storage header is a dummy, with the time of the call. Source: `dlt_file_read_header_raw` -/
def LoadState.dummyStorage (s : LoadState) (time : UInt32 × UInt32) : LoadState :=
  { s with msg := { s.msg with
      headerbuffer := overwrite s.msg.headerbuffer 0 (dltSetStorageheader time dltCommonDummyEcuid) } }

/-- Source: `dlt_file_read_header_raw` -/
def dltFileReadHeaderRaw (resync : Bool) (time : UInt32 × UInt32) (file : DltFile) : DltFile × ℤ :=
  let synchronised := dltFileSynchronise resync file
  let file := synchronised.1
  if synchronised.2 = false then (file, dltReturnError)
  else
    let read := file.fread sizeofDltStorageHeader sizeofDltStandardHeader
    if file.handle.rest.length < sizeofDltStandardHeader then ({ file with toLoadState := read }, dltReturnError)
    else
      let sized := (read.pointed.dummyStorage time).setSizes
      ({ file with toLoadState := sized.1 }, sized.2)

/-- Source: `dlt_file_read_raw` -/
def dltFileReadRaw (malloc : Malloc) (resync : Bool) (time : UInt32 × UInt32) (file : DltFile) : DltFile × ℤ :=
  if file.hasRoom malloc = false then (file, dltReturnError)
  else
    let header := dltFileReadHeaderRaw resync time (file.seek file.filePosition)
    let file := header.1
    if header.2 < dltReturnOk then file.givenUp file.toLoadState
    else
      let extended := dltFileReadHeaderExtended file.toLoadState
      if extended.2 < dltReturnOk then file.givenUp extended.1
      else
        let data := dltFileReadData malloc extended.1
        if data.2 < dltReturnOk then file.givenUp data.1
        else (DltFile.next (DltFile.store { file with toLoadState := data.1 }), dltReturnTrue)

end Dlt.File
