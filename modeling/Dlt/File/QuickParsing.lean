import Dlt.File.Load
import Dlt.Payload.PayloadSafe

/-!
# Quick parsing: `dlt_file_quick_parsing`

* `dltFileQuickParsing` — the function. Its result is `none` where printing a payload is undefined.
-/

namespace Dlt.File

open Dlt.Lib Dlt.Shared
open Dlt.Gateway (DltMessage.htyp DltMessage.printed)
open Dlt.MsgFilter (dltMessageFilterCheck)
open Dlt.Payload (OutputMode PrintEnv PrintState digits dltMessagePayload)

/-! ## The text of a header -/

/-- `message_type`. Source: `dlt_common.c` -/
def messageType : List (List UInt8) := ["log", "app_trace", "nw_trace", "control", "", "", "", ""].map ascii

/-- `log_info`. Source: `dlt_common.c` -/
def logInfo : List (List UInt8) :=
  ["", "fatal", "error", "warn", "info", "debug", "verbose", "", "", "", "", "", "", "", "", ""].map ascii

/-- `trace_type`. Source: `dlt_common.c` -/
def traceType : List (List UInt8) :=
  ["", "variable", "func_in", "func_out", "state", "vfb", "", "", "", "", "", "", "", "", "", ""].map ascii

/-- `nw_trace_type`. Source: `dlt_common.c` -/
def nwTraceType : List (List UInt8) :=
  ["", "ipc", "can", "flexray", "most", "vfb", "", "", "", "", "", "", "", "", "", ""].map ascii

/-- `control_type`. Source: `dlt_common.c` -/
def controlType : List (List UInt8) :=
  ["", "request", "response", "time", "", "", "", "", "", "", "", "", "", "", "", ""].map ascii

/-- The name of the kind within its type. Source: `dlt_message_header_flags` -/
def subtypeText (msin : UInt8) : List UInt8 :=
  match dltGetMsinMstp msin with
  | 0 => logInfo.getD (dltGetMsinMtin msin) []
  | 1 => traceType.getD (dltGetMsinMtin msin) []
  | 2 => nwTraceType.getD (dltGetMsinMtin msin) []
  | 3 => controlType.getD (dltGetMsinMtin msin) []
  | _ => []

/-- Source: `dlt_print_id` -/
def dltPrintId (id : List UInt8) : List UInt8 := idText id ++ List.replicate (4 - (idText id).length) 45

/-- An id of the extended header. Source: `dlt_message_header_flags` -/
def extendedId (ueh : Bool) (id : List UInt8) : List UInt8 :=
  if ueh ∧ id.headD 0 ≠ 0 then dltPrintId id else ascii "----"

/-- `%.6d`. -/
def sixDigits (n : ℤ) : List UInt8 := (if n < 0 then ascii "-" else []) ++ digits 10 6 n.natAbs

/-- `%10u`. -/
def tenWide (n : ℕ) : List UInt8 := List.replicate (10 - (digits 10 1 n).length) 32 ++ digits 10 1 n

/-- Type, kind, mode and number of arguments. Source: `dlt_message_header_flags` -/
def extendedText (extended : List UInt8) : List UInt8 :=
  let msin := extended.getD 0 0
  messageType.getD (dltGetMsinMstp msin) [] ++ ascii " " ++ subtypeText msin ++ ascii " " ++
    (if dltIsMsinVerb msin then ascii "V" else ascii "N") ++ ascii " " ++ digits 10 1 (extended.getD 1 0).toNat

/-- The text, piece by piece; `localTime` is `strftime` with the local time zone. All flags are set.
Source: `dlt_message_header`, `dlt_message_header_flags` -/
def messageHeaderText (localTime : ℕ → List UInt8) (msg : DltMessage) : List UInt8 :=
  let storage := msg.headerbuffer.drop (msg.storageheader.getD 0)
  let htyp := DltMessage.htyp msg
  let ueh := dltIsHtypUeh htyp
  let extended := msg.headerbuffer.drop (msg.extendedheader.getD 0)
  localTime (ofLeBytes ((storage.drop 4).take 4)) ++ ascii "." ++
    sixDigits (i32 (ofLeBytes ((storage.drop 8).take 4))) ++ ascii " " ++
    (if dltIsHtypWtms htyp then tenWide msg.headerextra.tmsp else ascii "----------") ++ ascii " " ++
    digits 10 3 (msg.headerbuffer.getD (sizeofDltStorageHeader + 1) 0).toNat ++ ascii " " ++
    dltPrintId (if dltIsHtypWeid htyp then msg.headerextra.ecu else (storage.drop 12).take 4) ++ ascii " " ++
    extendedId ueh ((extended.drop 2).take 4) ++ ascii " " ++ extendedId ueh ((extended.drop 6).take 4) ++ ascii " " ++
    (if ueh then extendedText extended else ascii "--- --- N -")

/-! ## A line -/

/-- `DLT_CONVERT_TEXTBUFSIZE`. Source: `dlt_common.h` -/
def dltConvertTextbufsize : ℕ := 10024

/-- What the printing reads besides the message. -/
structure LineEnv where
  print : PrintEnv
  /-- `strftime` with the local time zone. -/
  localTime : ℕ → List UInt8
  type : OutputMode

structure PrintedLine where
  text : List UInt8
  header : List UInt8
  payload : List UInt8
  /-- What `dlt_message_payload` returns. -/
  ret : ℤ

def PrintedLine.line (p : PrintedLine) : List UInt8 := p.header ++ ascii "[" ++ p.payload ++ ascii "]\n"

/-- The two functions are called with the same text buffer; `dlt_message_header` returns `DLT_RETURN_OK`.
Source: `dlt_common.c`, `dlt_file_quick_parsing` -/
def printLine (env : LineEnv) (msg : DltMessage) (text : List UInt8) : Option PrintedLine := do
  let text ← snprintf text 0 dltConvertTextbufsize (messageHeaderText env.localTime msg)
  let header ← cstring text 0
  let (ret, s) ← (dltMessagePayload env.print (DltMessage.printed msg) dltConvertTextbufsize env.type).result
    { text, ptr := 0, datalength := msg.payload.length }
  let payload ← cstring s.text 0
  some { text := s.text, header, payload, ret := ret.casesOn id id }

/-! ## The loop -/

structure ParseState where
  file : DltFile
  text : List UInt8
  output : List UInt8
  ret : ℤ

section advance

variable {s : LoadState} {malloc : Malloc}

theorem rest_readHeader_lt (h : ¬(dltFileReadHeader s).2 < dltReturnOk) :
    (dltFileReadHeader s).1.handle.rest.length < s.handle.rest.length := by
  cases hk : headerAt s.handle.rest with
  | none =>
    rw [dltFileReadHeader_error hk] at h
    exact absurd error_lt h
  | some k =>
    have hsize : 0 < sizeofHeaders := by decide
    have hroom := (headerAt_eq_some.mp hk).2.1
    rw [(dltFileReadHeader_ok hk).2.1, Nat.add_assoc, rest_behind, List.length_drop]
    omega

theorem rest_readExtra_le (htyp : UInt8) : (dltFileReadExtra s htyp).1.handle.rest.length ≤ s.handle.rest.length := by
  unfold dltFileReadExtra
  dsimp only
  split_ifs
  · exact le_rfl
  · exact ByteFile.length_rest_skip_le _ _
  · exact ByteFile.length_rest_skip_le _ _

theorem rest_readHeaderExtended_le : (dltFileReadHeaderExtended s).1.handle.rest.length ≤ s.handle.rest.length := by
  unfold dltFileReadHeaderExtended
  dsimp only
  split_ifs
  · exact rest_readExtra_le _
  · exact (ByteFile.length_rest_skip_le _ _).trans (rest_readExtra_le _)
  · exact (ByteFile.length_rest_skip_le _ _).trans (rest_readExtra_le _)
  · exact rest_readExtra_le _

theorem rest_readData_le : (dltFileReadData malloc s).1.handle.rest.length ≤ s.handle.rest.length := by
  unfold dltFileReadData
  dsimp only
  cases (dltMessageAllocate malloc s.msg).databuffer with
  | none => exact le_rfl
  | some databuffer => exact ByteFile.length_rest_skip_le _ _

/-- **Every message that is loaded is at least one header long.** -/
theorem rest_load_lt (h : ¬(dltFileLoad malloc s).2 < dltReturnOk) :
    (dltFileLoad malloc s).1.handle.rest.length < s.handle.rest.length := by
  unfold dltFileLoad at h ⊢
  dsimp only at h ⊢
  by_cases hheader : (dltFileReadHeader s).2 < dltReturnOk
  · rw [if_pos hheader] at h
    exact absurd hheader h
  rw [if_neg hheader] at h ⊢
  have hread := rest_readHeader_lt hheader
  by_cases hextended : (dltFileReadHeaderExtended (dltFileReadHeader s).1).2 < dltReturnOk
  · rw [if_pos hextended] at h
    exact absurd hextended h
  rw [if_neg hextended]
  exact (rest_readData_le.trans rest_readHeaderExtended_le).trans_lt hread

end advance

/-- What the filter says about the record: `DLT_RETURN_TRUE` where there is none.
Source: `dlt_file_quick_parsing` -/
def quickCheck (file : DltFile) : ℤ :=
  match file.filter with
  | none => dltReturnTrue
  | some filter => dltMessageFilterCheck (checkedMessage file.msg) filter

/-- The message that is printed is counted. Source: `dlt_file_quick_parsing` -/
def DltFile.parsed (file : DltFile) : DltFile :=
  { file with
    counter := file.counter + 1, position := (file.counterTotal : ℤ) - 1
    counterTotal := file.counterTotal + 1, filePosition := file.handle.pos }

/-- The body of the loop: the state behind it, and whether the loop condition is looked at again.
Source: `dlt_file_quick_parsing` -/
def quickTurn (env : LineEnv) (malloc : Malloc) (p : ParseState) : Option (ParseState × Bool) :=
  let loaded := dltFileLoad malloc p.file.toLoadState
  let file := { p.file with toLoadState := loaded.1 }
  if loaded.2 < dltReturnOk then some ({ p with file, ret := loaded.2 }, false)
  else if quickCheck file ≠ dltReturnTrue then some ({ p with file, ret := quickCheck file }, true)
  else do
    let printed ← printLine env file.msg p.text
    if printed.ret < dltReturnOk then
      some ({ file, text := printed.text, output := p.output ++ printed.header, ret := printed.ret }, false)
    else
      some ({ file := file.parsed, text := printed.text, output := p.output ++ printed.line, ret := printed.ret }, true)

theorem rest_quickTurn_lt {env : LineEnv} {malloc : Malloc} {p p' : ParseState}
    (h : quickTurn env malloc p = some (p', true)) :
    p'.file.handle.rest.length < p.file.handle.rest.length := by
  unfold quickTurn at h
  dsimp only at h
  by_cases hload : (dltFileLoad malloc p.file.toLoadState).2 < dltReturnOk
  · rw [if_pos hload] at h
    cases h
  have hlt := rest_load_lt hload
  rw [if_neg hload] at h
  by_cases hcheck : quickCheck { p.file with toLoadState := (dltFileLoad malloc p.file.toLoadState).1 } ≠ dltReturnTrue
  · rw [if_pos hcheck] at h
    cases h
    exact hlt
  rw [if_neg hcheck, Option.bind_eq_bind, Option.bind_eq_some_iff] at h
  obtain ⟨printed, -, h⟩ := h
  by_cases hret : printed.ret < dltReturnOk
  · rw [if_pos hret] at h
    cases h
  · rw [if_neg hret] at h
    cases h
    exact hlt

/-- Source: `dlt_file_quick_parsing` -/
def quickLoop (env : LineEnv) (malloc : Malloc) (p : ParseState) : Option ParseState :=
  if p.ret ≥ dltReturnOk ∧ p.file.filePosition < p.file.fileLength then
    match _h : quickTurn env malloc p with
    | none => none
    | some (p', false) => some p'
    | some (p', true) => quickLoop env malloc p'
  else some p
termination_by p.file.handle.rest.length
decreasing_by exact rest_quickTurn_lt _h

/-- The file, what is written to the output file, and the return value; `opens` says that the output file can be
opened. Source: `dlt_file_quick_parsing` -/
def dltFileQuickParsing (env : LineEnv) (malloc : Malloc) (opens : Bool) (file : DltFile) :
    Option (DltFile × List UInt8 × ℤ) :=
  if opens = false then some (file, [], dltReturnError)
  else
    (quickLoop env malloc
      { file, text := List.replicate dltConvertTextbufsize 0, output := [], ret := dltReturnOk }).map
        fun p => (p.file, p.output, p.ret)

end Dlt.File
