import Dlt.User.LogWrite

/-!
# `LogStream`: the message of a stream and `Flush`

* `flush` — `LogStream::Flush`, with `pushEarly` before the initialisation, `drain` while the queue is not
  empty, and `sendAndRestart` otherwise.

A value `none` means that the behaviour is undefined: memory is used that was released, or that was never
there. Sending itself, and running out of memory, are left out.
-/

namespace Dlt.Log

open Dlt.Lib Dlt.Shared Dlt.User

/-! ## Data -/

/-- `DLT_RETURN_LOGGING_DISABLED`. Source: `dlt_types.h` -/
def dltReturnLoggingDisabled : ℤ := -7

/-- `DLT_LOG_DEFAULT`. Source: `dlt_types.h` -/
def dltLogDefault : ℤ := -1

/-- `DLT_LOG_OFF`. Source: `dlt_types.h` -/
def dltLogOff : ℤ := 0

/-- `DLT_LOG_MAX`. Source: `dlt_types.h` -/
def dltLogMax : ℤ := 7

/-- `DLT_USER_DEFAULT_MSGID`. Source: `dlt_user_cfg.h` -/
def dltUserDefaultMsgid : ℕ := 0xffff

/-- A message that is written. Pointers are numbers. Source: `dlt_user.h`, `DltContextData` -/
@[ext] structure ContextData where
  /-- The context, if it is not `NULL`. -/
  handle : Option ℕ
  /-- The memory of the message, if it is not `NULL`. -/
  buffer : Option ℕ
  /-- The bytes of the payload so far. -/
  size : ℕ
  /-- `log_level`. -/
  logLevel : ℤ
  /-- `args_num`. -/
  argsNum : ℕ
  /-- `verbose_mode`. -/
  verboseMode : Bool
deriving DecidableEq

/-- Source: `logstream.h`, `LogStream` -/
structure LogStream where
  /-- `logLocalData_`: the address of the message and what is there. -/
  logLocalData : Option (ℕ × ContextData)
  /-- `logRet_`. -/
  logRet : ℤ
deriving DecidableEq

/-- An element of the queue. Source: `logstream.cpp`, `g_LogBuffer` -/
structure Entry where
  id : ℕ
  data : ContextData
  deleted : Bool
deriving DecidableEq

/-- A call that allocates or releases something, or hands a message over. -/
inductive Call
  /-- A copy of a message, with its memory, is allocated at an address and goes to the queue. -/
  | copy (id : ℕ) (buffer : Option ℕ)
  /-- `dlt_user_log_write_start` for the message at an address. -/
  | start (id : ℕ)
  /-- `dlt_user_log_write_finish` for the message at an address. -/
  | finish (id : ℕ) (payload : List UInt8)
  | free (buffer : ℕ)
  | delete (id : ℕ)
deriving DecidableEq

/-- What the library and the memory around the stream give. -/
structure LogEnv where
  /-- `g_dlt_is_child`. -/
  isChild : Bool
  /-- `dlt_user_initialised`. A library that is not initialised cannot be initialised. -/
  initialised : Bool
  /-- `verbose_mode` of the library is 1. -/
  verboseMode : Bool
  /-- `log_buf_len`. -/
  logBufLen : UInt16
  /-- `log_level_ptr` of a context is not `NULL`. -/
  registered : ℕ → Bool
  /-- The log level of a context when a message is started, for each start. -/
  logLevel : ℕ → ℕ → ℤ

/-- The variables of `logstream.cpp`, the memory and the calls. -/
structure LogState where
  /-- `g_LoggingInit`. -/
  loggingInit : Bool
  /-- `g_BufferSize`. -/
  bufferSize : ℤ
  /-- `g_LogLength`. -/
  logLength : ℕ
  /-- `g_LogBuffer`. -/
  logBuffer : List Entry
  /-- The memory of the messages that is allocated. -/
  buffers : ℕ → Option (List UInt8)
  /-- The next address of the memory of a message. -/
  nextBuffer : ℕ
  nextData : ℕ
  starts : ℕ
  calls : List Call

/-! ## The library -/

def LogState.call (σ : LogState) (c : Call) : LogState := { σ with calls := σ.calls ++ [c] }

section library

variable (env : LogEnv) (σ : LogState)

/-- Source: `dlt_user.h`, `dlt_user_is_logLevel_enabled` -/
def dltUserIsLogLevelEnabled (level : Option ℤ) (loglevel : ℤ) : ℤ :=
  if loglevel < dltLogDefault ∨ dltLogMax ≤ loglevel then dltReturnWrongParameter
  else
    match level with
    | none => dltReturnWrongParameter
    | some level =>
        if loglevel ≤ level ∧ loglevel ≠ dltLogOff then dltReturnTrue else dltReturnLoggingDisabled

/-- Source: `dlt_user.c`, `is_verbose_mode` -/
def isVerboseMode (data : ContextData) : Bool := env.verboseMode || data.verboseMode

/-- Memory for a message is allocated, `bytes` of it are set, and the rest is zero. -/
def LogState.calloc (bytes : List UInt8) : LogState :=
  { σ with
    buffers := Function.update σ.buffers σ.nextBuffer
      (some (bytes ++ List.replicate (env.logBufLen.toNat - bytes.length) 0))
    nextBuffer := σ.nextBuffer + 1 }

/-- `data` is the message at the address `id`.
Source: `dlt_user_log_write_start_internal`, `dlt_user_log_write_start_init` -/
def dltUserLogWriteStartInternal (handle : Option ℕ) (id : ℕ) (data : ContextData) (loglevel : ℤ)
    (messageid : ℕ) (isVerbose : Bool) : LogState × ContextData × ℤ :=
  let level := (handle.filter (env.registered ·)).map (env.logLevel σ.starts)
  let σ := { σ.call (.start id) with starts := σ.starts + 1 }
  if handle = none then (σ, data, dltReturnWrongParameter)
  else if env.isChild then (σ, data, dltReturnError)
  else
    let enabled := dltUserIsLogLevelEnabled level loglevel
    if enabled = dltReturnWrongParameter then (σ, data, dltReturnWrongParameter)
    else if enabled = dltReturnLoggingDisabled then (σ, { data with handle := none }, dltReturnOk)
    else if ¬ env.initialised then (σ, data, dltReturnError)
    else
      let data : ContextData :=
        { handle, buffer := some σ.nextBuffer, size := 0, logLevel := loglevel, argsNum := 0,
          verboseMode := isVerbose }
      if isVerboseMode env data then (σ.calloc env [], data, dltReturnTrue)
      else if 4 > env.logBufLen.toNat then (σ.calloc env [], data, dltReturnUserBufferFull)
      else (σ.calloc env (leBytes 4 messageid), { data with size := 4 }, dltReturnTrue)

/-- Source: `dlt_user_log_write_start` -/
def dltUserLogWriteStart (handle : Option ℕ) (id : ℕ) (data : ContextData) (loglevel : ℤ) :
    LogState × ContextData × ℤ :=
  dltUserLogWriteStartInternal env σ handle id data loglevel dltUserDefaultMsgid true

/-- Source: `dlt_user_log_write_start_id` -/
def dltUserLogWriteStartId (handle : Option ℕ) (id : ℕ) (data : ContextData) (loglevel : ℤ) (messageid : ℕ) :
    LogState × ContextData × ℤ :=
  dltUserLogWriteStartInternal env σ handle id data loglevel messageid false

/-- The payload of a message: what is in memory, as far as it was written. -/
def LogState.payload (data : ContextData) : List UInt8 :=
  ((data.buffer.bind σ.buffers).getD []).takeD data.size 0

/-- The memory of a message is there. -/
def LogState.Live (buffer : ℕ) : Prop := (σ.buffers buffer).isSome

instance (buffer : ℕ) : Decidable (σ.Live buffer) := inferInstanceAs (Decidable (_ = true))

/-- What is at an address changes. -/
def LogState.store (buffer : ℕ) (bytes : Option (List UInt8)) : LogState :=
  { σ with buffers := Function.update σ.buffers buffer bytes }

/-- Source: `dlt_user_free_buffer` -/
def dltUserFreeBuffer (data : ContextData) : Option (LogState × ContextData) :=
  match data.buffer with
  | none => some (σ, data)
  | some buffer =>
      if σ.Live buffer then some ((σ.call (.free buffer)).store buffer none, { data with buffer := none })
      else none

/-- The payload of a message without memory is read as zeros. Source: `dlt_user_log_write_finish` -/
def dltUserLogWriteFinish (id : ℕ) (data : ContextData) : Option (LogState × ContextData) :=
  dltUserFreeBuffer (σ.call (.finish id (σ.payload data))) data

/-- What the writing functions see of a message. -/
def LogState.log (data : ContextData) : LogData := { buffer := σ.payload data, argsNum := data.argsNum }

/-- What the writing functions read of the library. -/
def writeEnv (data : ContextData) : WriteEnv :=
  { initialised := env.initialised, verbose := isVerboseMode env data, logBufLen := env.logBufLen }

/-- A writing function is called, which may be undefined. It needs memory if it writes. -/
def LogState.write (data : ContextData) (f : WriteEnv → LogData → Option (LogData × ℤ)) :
    Option (LogState × ContextData × ℤ) :=
  (f (writeEnv env data) (σ.log data)).bind fun (log, ret) =>
    if log = σ.log data then some (σ, data, ret)
    else
      data.buffer.bind fun buffer => (σ.buffers buffer).map fun bytes =>
        (σ.store buffer (some (log.buffer ++ bytes.drop log.buffer.length)),
          { data with size := log.buffer.length, argsNum := log.argsNum }, ret)

end library

/-! ## `Flush` -/

section flush

variable (env : LogEnv) (σ : LogState)

/-- The C conversion `(size_t) x`. -/
def sizeT (x : ℤ) : ℕ := (x % 18446744073709551616).toNat

/-- A copy of a message goes to the end of the queue. Source: `logstream.cpp`, `LogStream::Flush` -/
def LogState.pushCopy (data : ContextData) : LogState :=
  { σ.call (.copy σ.nextData data.buffer) with
    logBuffer := σ.logBuffer ++ [{ id := σ.nextData, data, deleted := false }]
    nextData := σ.nextData + 1 }

/-- Before the initialisation. Source: `LogStream::Flush` -/
def LogState.pushEarly (data : ContextData) : Option LogState :=
  if sizeT σ.bufferSize > σ.logBuffer.length then some (σ.pushCopy data)
  else
    match σ.logBuffer with
    | [] => none
    | _ :: rest => some (LogState.pushCopy { σ with logBuffer := rest } data)

/-- The loop over the queue. Source: `LogStream::Flush` -/
def drainLoop : List Entry → LogState → Option LogState
  | [], σ => some σ
  | entry :: rest, σ =>
      if entry.deleted then none
      else
        (dltUserLogWriteFinish σ entry.id entry.data).bind fun result =>
          drainLoop rest (result.1.call (.delete entry.id))

/-- The queue is not empty: its elements are handed over and deleted, and they stay in the queue.
Source: `LogStream::Flush` -/
def LogState.drain : Option LogState :=
  (drainLoop σ.logBuffer σ).map fun σ' =>
    { σ' with logBuffer := σ.logBuffer.map ({ · with deleted := true }) }

/-- The message is handed over, if it is not empty. Source: `LogStream::Flush` -/
def finishNonempty (id : ℕ) (data : ContextData) : Option (LogState × ContextData) :=
  if data.size > 0 then dltUserLogWriteFinish σ id data else some (σ, data)

/-- The message is handed over, and the stream starts again. Source: `LogStream::Flush` -/
def LogState.sendAndRestart (id : ℕ) (data : ContextData) : Option (LogState × LogStream) :=
  (finishNonempty σ id data).map fun (σ, data) =>
    let (σ, data, ret) := dltUserLogWriteStart env σ data.handle id data data.logLevel
    (σ, { logLocalData := some (id, data), logRet := ret })

/-- Source: `LogStream::Flush` -/
def flush (s : LogStream) : Option (LogState × LogStream) :=
  if ¬ σ.loggingInit then
    s.logLocalData.bind fun (_, data) => (σ.pushEarly data).map (·, s)
  else if σ.logBuffer ≠ [] then σ.drain.map (·, s)
  else s.logLocalData.bind fun (id, data) => σ.sendAndRestart env id data

end flush

end Dlt.Log
