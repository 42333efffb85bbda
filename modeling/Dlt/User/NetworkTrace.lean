import Dlt.User.LogWrite
import Dlt.User.SendLog

/-!
# Network traces in segments

* `dltUserTraceNetworkSegmentedThreadSegmenter` — the loop of the segment thread.

Waiting for room in the user buffer is left out.
-/

namespace Dlt.User

open Dlt.Lib Dlt.Shared

/-! ## Data -/

/-- `DLT_MAX_TRACE_SEGMENT_SIZE`. Source: `dlt_user.c` -/
def dltMaxTraceSegmentSize : ℕ := 1024

/-- `DLT_TRACE_NW_START`. Source: `dlt_common.h` -/
def dltTraceNwStart : List UInt8 := ascii "NWST"

/-- `DLT_TRACE_NW_SEGMENT`. Source: `dlt_common.h` -/
def dltTraceNwSegment : List UInt8 := ascii "NWCH"

/-- `DLT_TRACE_NW_END`. Source: `dlt_common.h` -/
def dltTraceNwEnd : List UInt8 := ascii "NWEN"

/-- `DLT_NW_TRACE_IPC`. Source: `dlt_types.h` -/
def dltNwTraceIpc : ℤ := 1

/-- `DLT_NW_TRACE_MAX`. Source: `dlt_types.h` -/
def dltNwTraceMax : ℤ := 16

/-- What one call meets. -/
structure TraceEnv where
  user : DltUser
  /-- `log_buf_len`. -/
  logBufLen : UInt16
  /-- `dlt_ll_ts` is there. -/
  table : Bool
  handle : DltContext
  /-- The trace status of the context is `DLT_TRACE_STATUS_ON`. -/
  traceOn : Bool
  /-- `dlt_user_log_init` succeeds. -/
  logInit : Bool
  calloc : Bool
  /-- What sending meets. -/
  send : SendEnv

/-- What the writing functions read. `verbose_mode` of the message is zero. -/
def TraceEnv.write (env : TraceEnv) : WriteEnv where
  initialised := env.user.initialised
  verbose := env.user.verboseMode == 1
  logBufLen := env.logBufLen

/-- The return value of a call and the message that was sent. -/
structure TraceCall where
  ret : ℤ
  /-- The message that was handed to `dlt_user_log_send_log`. -/
  message : Option LogData
deriving DecidableEq, Repr

/-! ## The messages -/

/-- A writing function that is checked: the message goes on if it succeeds. -/
def written (result : LogData × ℤ) : Option LogData := if result.2 < 0 then none else some result.1

/-- The message that is sent. The writing functions keep its size below `2^16`, so that nothing of it is cut here. -/
def traceData (env : TraceEnv) (nwTraceType : ℤ) (log : LogData) : DltContextData where
  handle := some env.handle
  buffer := log.buffer.take 65535
  size_le := List.length_take_le ..
  logLevel := 0
  traceStatus := nwTraceType
  argsNum := log.argsNum
  autoTimestamp := true
  userTimestamp := 0
  verboseMode := false

/-- The frame that the functions share: the checks, the arguments that are written, and sending.
Source: `dlt_user.c`, `dlt_user_trace_network_segmented_start`, `dlt_user_trace_network_segmented_segment`,
`dlt_user_trace_network_segmented_end`, `dlt_user_trace_network_truncated` -/
def sendTraceMessage (env : TraceEnv) (nwTraceType : ℤ) (args : LogData → Option LogData) : TraceCall :=
  if nwTraceType < dltNwTraceIpc ∨ nwTraceType ≥ dltNwTraceMax then ⟨dltReturnWrongParameter, none⟩
  else if ¬ env.table then ⟨dltReturnError, none⟩
  else if env.traceOn then
    if ¬ env.logInit then ⟨dltReturnError, none⟩
    else if ¬ env.calloc then ⟨dltReturnError, none⟩
    else
      match args { buffer := [], argsNum := 0 } with
      | none => ⟨dltReturnError, none⟩
      | some log =>
        ⟨(dltUserLogSendLog env.send env.user (traceData env nwTraceType log) dltTypeNwTrace).ret, some log⟩
  else ⟨dltReturnOk, none⟩

/-- The segments that are announced. Source: `dlt_user_trace_network_segmented_start` -/
def segmentCount (payloadLen : ℕ) : ℕ :=
  let count := (payloadLen / dltMaxTraceSegmentSize + 1) % 65536
  if payloadLen % dltMaxTraceSegmentSize = 0 then count - 1 else count

/-- `id` is the microseconds of the clock, and the lengths are `uint16_t`.
Source: `dlt_user_trace_network_segmented_start` -/
def dltUserTraceNetworkSegmentedStart (env : TraceEnv) (id : UInt32) (nwTraceType : ℤ)
    (header : List UInt8) (payloadLen : ℕ) : TraceCall :=
  sendTraceMessage env nwTraceType fun log => do
    let log ← written (dltUserLogWriteString env.write log dltTraceNwStart)
    let log ← written (dltUserLogWriteUint32 env.write log id.toNat)
    let log ← written (dltUserLogWriteRaw env.write log header)
    let log ← written (dltUserLogWriteUint32 env.write log payloadLen)
    let log ← written (dltUserLogWriteUint16 env.write log (segmentCount payloadLen))
    written (dltUserLogWriteUint16 env.write log dltMaxTraceSegmentSize)

/-- Source: `dlt_user_trace_network_segmented_segment` -/
def dltUserTraceNetworkSegmentedSegment (env : TraceEnv) (id : UInt32) (nwTraceType : ℤ) (sequence : ℕ)
    (payload : List UInt8) : TraceCall :=
  sendTraceMessage env nwTraceType fun log => do
    let log ← written (dltUserLogWriteString env.write log dltTraceNwSegment)
    let log ← written (dltUserLogWriteUint32 env.write log id.toNat)
    let log ← written (dltUserLogWriteUint16 env.write log (sequence % 65536))
    written (dltUserLogWriteRaw env.write log payload)

/-- Source: `dlt_user_trace_network_segmented_end` -/
def dltUserTraceNetworkSegmentedEnd (env : TraceEnv) (id : UInt32) (nwTraceType : ℤ) : TraceCall :=
  sendTraceMessage env nwTraceType fun log => do
    let log ← written (dltUserLogWriteString env.write log dltTraceNwEnd)
    written (dltUserLogWriteUint32 env.write log id.toNat)

/-! ## The segment thread -/

/-- Source: `s_segmented_data` -/
structure SegmentedData where
  id : UInt32
  /-- `nw_trace_type`. -/
  nwTraceType : ℤ
  payload : List UInt8

/-- `len`, a `uint16_t`. Source: `dlt_user_trace_network_segmented_thread_segmenter` -/
def segmentLength (payloadLen offset : ℕ) : ℕ :=
  if offset + dltMaxTraceSegmentSize > payloadLen then (payloadLen - offset) % 65536 else dltMaxTraceSegmentSize

/-- The loop from `offset` on: its calls, the `n`-th with what `env n` gives. `sequence` is a `uint16_t`.
Source: `dlt_user_trace_network_segmented_thread_segmenter` -/
def segmenterLoop (env : ℕ → TraceEnv) (data : SegmentedData) (n offset sequence : ℕ) : List TraceCall :=
  if _hlen : segmentLength data.payload.length offset = 0 then []
  else
    let len := segmentLength data.payload.length offset
    let call := dltUserTraceNetworkSegmentedSegment (env n) data.id data.nwTraceType sequence
      ((data.payload.drop offset).take len)
    if call.ret = dltReturnBufferFull ∨ call.ret = dltReturnError then [call]
    else if _hmore : offset < data.payload.length then
      call :: segmenterLoop env data (n + 1) (offset + len) ((sequence + 1) % 65536)
    else [call]
termination_by data.payload.length - offset
decreasing_by exact Nat.sub_lt_sub_left _hmore (Nat.lt_add_of_pos_right (Nat.pos_of_ne_zero _hlen))

/-- Source: `dlt_user_trace_network_segmented_thread_segmenter` -/
def dltUserTraceNetworkSegmentedThreadSegmenter (env : ℕ → TraceEnv) (data : SegmentedData) :
    List TraceCall :=
  segmenterLoop env data 0 0 0

end Dlt.User
