import Dlt.Daemon.UserMessages
import Dlt.Lib.Checked
import Dlt.Lib.TextMemory

/-!
# The messages of the daemon to an application

* `dltUserLogCheckUserMessage` — one call, for what the connection delivers. `runReceives` — the calls for a
  connection.

The behaviour is undefined where a byte that was not received is read, or an entry that is not in the table.
-/

namespace Dlt.Inbox

open Dlt.Lib Dlt.Shared Layout
open Dlt.Daemon (idLayout userHeaderPattern dltUserCheckUserheader userHeaderMessage)

/-! ## Messages -/

/-- Source: `dlt_user_shared.h`, `DltUserControlMsgLogLevel` -/
structure DltUserControlMsgLogLevel where
  logLevel : UInt8
  traceStatus : UInt8
  /-- Offset of the context in the application. -/
  logLevelPos : Int32
deriving DecidableEq

/-- Source: `DltUserControlMsgInjection` -/
structure DltUserControlMsgInjection where
  /-- Offset of the context in the application. -/
  logLevelPos : Int32
  serviceId : UInt32
  dataLengthInject : UInt32
deriving DecidableEq

/-- Source: `DltUserControlMsgLogState` -/
structure DltUserControlMsgLogState where
  logState : Int8
deriving DecidableEq

/-- The layout of `DltUserControlMsgLogLevel`. -/
def logLevelLayout : Layout DltUserControlMsgLogLevel :=
  (uint8.prod (uint8.prod int32)).map (fun p => ⟨p.1, p.2.1, p.2.2⟩)
    (fun m => (m.logLevel, m.traceStatus, m.logLevelPos)) fun _ => rfl

/-- The layout of `DltUserControlMsgInjection`. -/
def injectionLayout : Layout DltUserControlMsgInjection :=
  (int32.prod (uint32.prod uint32)).map (fun p => ⟨p.1, p.2.1, p.2.2⟩)
    (fun m => (m.logLevelPos, m.serviceId, m.dataLengthInject)) fun _ => rfl

/-- The layout of `DltUserControlMsgLogState`. -/
def logStateLayout : Layout DltUserControlMsgLogState :=
  int8.map (fun m => ⟨m⟩) (fun m => m.logState) fun _ => rfl

@[simp] theorem size_logLevelLayout : logLevelLayout.size = 6 := rfl

@[simp] theorem size_injectionLayout : injectionLayout.size = 12 := rfl

@[simp] theorem size_logStateLayout : logStateLayout.size = 1 := rfl

/-- `DLT_USER_MESSAGE_LOG_LEVEL`. Source: `dlt_user_shared_cfg.h` -/
abbrev dltUserMessageLogLevel : ℕ := 6

/-- `DLT_USER_MESSAGE_INJECTION`. Source: `dlt_user_shared_cfg.h` -/
abbrev dltUserMessageInjection : ℕ := 7

/-- `DLT_USER_MESSAGE_LOG_STATE`. Source: `dlt_user_shared_cfg.h` -/
abbrev dltUserMessageLogState : ℕ := 12

/-! ## The application -/

/-- A callback is its number. Source: `dlt_user.h`, `DltUserInjectionCallback` -/
structure DltUserInjectionCallback where
  serviceId : UInt32
  /-- `injection_callback`. -/
  injectionCallback : Option ℕ
  /-- `injection_callback_with_id`. -/
  injectionCallbackWithId : Option ℕ
  /-- `data`. -/
  data : ℕ
deriving DecidableEq

/-- An entry of the table. Source: `dlt_ll_ts_type` -/
structure DltLlTs where
  contextId : Id4
  logLevel : Int8
  /-- What `log_level_ptr` points to. -/
  logLevelPtr : Option Int8
  traceStatus : Int8
  /-- What `trace_status_ptr` points to. -/
  traceStatusPtr : Option Int8
  /-- The `nrcallbacks` entries of `injection_table`. -/
  injectionTable : List DltUserInjectionCallback
  /-- `log_level_changed_callback`. -/
  logLevelChangedCallback : Option ℕ
deriving DecidableEq

/-- What the messages change in the library. Source: `DltUser` -/
structure AppTables where
  /-- The `dlt_ll_ts_num_entries` entries of `dlt_ll_ts`, if the table is there. -/
  dltLlTs : Option (List DltLlTs)
  /-- `log_state`. -/
  logState : Int8
  /-- The number of entries is an `int32_t`. -/
  length_lt : (dltLlTs.getD []).length < 2147483648

/-- `dlt_ll_ts_num_entries`. -/
def AppTables.numEntries (tables : AppTables) : ℕ := (tables.dltLlTs.getD []).length

inductive CallbackCall
  | levelChanged (callback : ℕ) (contextId : Id4) (logLevel traceStatus : UInt8)
  | injected (callback : ℕ) (serviceId : UInt32) (data : List UInt8)
  | injectedWithId (callback : ℕ) (serviceId : UInt32) (data : List UInt8) (privData : ℕ)
deriving DecidableEq

def entryAt (entries : List DltLlTs) (pos : Int32) : Option DltLlTs :=
  if 0 ≤ pos.toInt then entries[pos.toInt.toNat]? else none

/-- The entry at a position is replaced. -/
def AppTables.setEntry (tables : AppTables) (pos : Int32) (entry : DltLlTs) : AppTables where
  dltLlTs := tables.dltLlTs.map fun entries => entries.set pos.toInt.toNat entry
  logState := tables.logState
  length_lt := by
    have h := tables.length_lt
    cases hentries : tables.dltLlTs with
    | none => exact Nat.zero_lt_succ _
    | some entries =>
        rw [hentries] at h
        rw [Option.map_some, Option.getD_some, List.length_set]
        exact h

/-- The entry with a level and a status, also behind the pointers.
Source: `dlt_user.c`, `dlt_user_log_check_user_message` -/
def DltLlTs.withLevel (entry : DltLlTs) (m : DltUserControlMsgLogLevel) : DltLlTs :=
  { entry with
    logLevel := m.logLevel.toInt8
    traceStatus := m.traceStatus.toInt8
    logLevelPtr := entry.logLevelPtr.map fun _ => m.logLevel.toInt8
    traceStatusPtr := entry.traceStatusPtr.map fun _ => m.traceStatus.toInt8 }

/-! ## The loop -/

/-- The callbacks that are called behind the semaphore. Source: `dlt_user_log_check_user_message` -/
structure Delayed where
  /-- `delayed_injection_callback.injection_callback`. -/
  injectionCallback : Option ℕ
  /-- `delayed_injection_callback.injection_callback_with_id`. -/
  injectionCallbackWithId : Option ℕ
  /-- `delayed_injection_callback.service_id`. -/
  serviceId : UInt32
  /-- `delayed_injection_callback.data`. -/
  data : ℕ
  /-- `delayed_log_level_changed_callback.log_level_changed_callback`. -/
  levelCallback : Option ℕ
  /-- `delayed_log_level_changed_callback.contextID`. -/
  contextId : Id4
  /-- `delayed_log_level_changed_callback.log_level`. -/
  logLevel : Int8
  /-- `delayed_log_level_changed_callback.trace_status`. -/
  traceStatus : Int8

/-- No callback. Source: `dlt_user_log_check_user_message` -/
def Delayed.none : Delayed :=
  { injectionCallback := Option.none, injectionCallbackWithId := Option.none, serviceId := 0, data := 0
    levelCallback := Option.none, contextId := ⟨[0, 0, 0, 0], rfl⟩, logLevel := 0, traceStatus := 0 }

/-- What the loop changes. -/
structure CheckState where
  receiver : DltReceiver
  tables : AppTables
  delayed : Delayed
  calls : List CallbackCall

/-- A part of the loop: it may return from the function with a value. -/
abbrev Check (α : Type) := Checked ℤ CheckState α

section loop

variable (malloc : Malloc) (buffer : List UInt8)

/-- Bytes at an offset from `receiver->buf`. -/
def peekReceived (i n : ℕ) : Check (List UInt8) := do
  let s ← get
  Checked.ofOption (peek (s.receiver.view buffer) i n)

def call (c : CallbackCall) : Check Unit := modify fun s => { s with calls := s.calls ++ [c] }

/-- Bytes are removed, and the result is not looked at. -/
def removeReceived (size : ℤ) : Check Unit :=
  modify fun s => { s with receiver := (dltReceiverRemove s.receiver size).1 }

/-- Source: `dlt_user_log_check_user_message`, the part with the semaphore -/
def setLevel (m : DltUserControlMsgLogLevel) : Check Unit := do
  let s ← get
  if 0 ≤ m.logLevelPos.toInt ∧ m.logLevelPos.toInt < i32 s.tables.numEntries then
    match s.tables.dltLlTs with
    | none => pure ()
    | some entries => do
        let entry ← Checked.ofOption (entryAt entries m.logLevelPos)
        set { s with
          tables := s.tables.setEntry m.logLevelPos (entry.withLevel m)
          delayed := { s.delayed with
            levelCallback := entry.logLevelChangedCallback
            contextId := entry.contextId
            logLevel := m.logLevel.toInt8
            traceStatus := m.traceStatus.toInt8 } }
  else pure ()

/-- Source: `dlt_user_log_check_user_message`, the part behind the semaphore -/
def callLevelChanged : Check Unit := do
  let s ← get
  match s.delayed.levelCallback with
  | none => pure ()
  | some callback =>
      call (.levelChanged callback s.delayed.contextId s.delayed.logLevel.toUInt8 s.delayed.traceStatus.toUInt8)

/-- `false` leaves the loop. Source: `dlt_user_log_check_user_message`, `DLT_USER_MESSAGE_LOG_LEVEL` -/
def logLevelMessage : Check Bool := do
  let s ← get
  if s.receiver.bytesRcvd < sizeofDltUserHeader + logLevelLayout.size then pure false
  else do
    let bytes ← peekReceived buffer sizeofDltUserHeader logLevelLayout.size
    setLevel (logLevelLayout.decode bytes)
    callLevelChanged
    removeReceived (sizeofDltUserHeader + logLevelLayout.size : ℕ)
    pure true

/-- The callback of a service becomes the one to be called. -/
def Delayed.inject (delayed : Delayed) (callback : DltUserInjectionCallback) (serviceId : UInt32) : Delayed :=
  if callback.injectionCallback.isSome then
    { delayed with injectionCallback := callback.injectionCallback, serviceId := serviceId }
  else if callback.injectionCallbackWithId.isSome then
    { delayed with
      injectionCallbackWithId := callback.injectionCallbackWithId
      data := callback.data
      serviceId := serviceId }
  else { delayed with serviceId := serviceId }

/-- The copy of the data, if a callback is to be called with them.
Source: `dlt_user_log_check_user_message`, the part with the semaphore -/
def findInjection (m : DltUserControlMsgInjection) : Check (Option (List UInt8)) := do
  let s ← get
  if 0 < m.dataLengthInject.toNat then
    match s.tables.dltLlTs with
    | none => pure none
    | some entries => do
        let entry ← Checked.ofOption (entryAt entries m.logLevelPos)
        match entry.injectionTable.find? (·.serviceId = m.serviceId) with
        | none => pure none
        | some callback => do
            set { s with delayed := s.delayed.inject callback m.serviceId }
            if (malloc m.dataLengthInject.toNat).isNone then throw dltReturnError
            else do
              let data ← peekReceived buffer (sizeofDltUserHeader + injectionLayout.size) m.dataLengthInject.toNat
              pure (some data)
  else pure none

/-- Source: `dlt_user_log_check_user_message`, the part behind the semaphore -/
def callInjection (data : Option (List UInt8)) : Check Unit := do
  let s ← get
  match data with
  | none => pure ()
  | some data =>
      match s.delayed.injectionCallback with
      | some callback => do
          call (.injected callback s.delayed.serviceId data)
          modify fun s => { s with delayed := { s.delayed with injectionCallback := none } }
      | none =>
          match s.delayed.injectionCallbackWithId with
          | some callback => do
              call (.injectedWithId callback s.delayed.serviceId data s.delayed.data)
              modify fun s => { s with delayed := { s.delayed with injectionCallbackWithId := none } }
          | none => pure ()

/-- The size of an injection message, as it is converted to `int`. -/
def injectionSize (m : DltUserControlMsgInjection) : ℤ :=
  i32 (sizeofDltUserHeader + injectionLayout.size + m.dataLengthInject.toNat : ℕ)

/-- `false` leaves the loop. Source: `dlt_user_log_check_user_message`, `DLT_USER_MESSAGE_INJECTION` -/
def injectionMessage : Check Bool := do
  let s ← get
  if s.receiver.bytesRcvd < sizeofDltUserHeader + injectionLayout.size then pure false
  else do
    let bytes ← peekReceived buffer sizeofDltUserHeader injectionLayout.size
    let m := injectionLayout.decode bytes
    if (s.receiver.bytesRcvd : ℤ) < injectionSize m then pure false
    else do
      let data ← findInjection malloc buffer m
      callInjection data
      let s ← get
      set { s with receiver := (dltReceiverRemove s.receiver (injectionSize m)).1 }
      if (dltReceiverRemove s.receiver (injectionSize m)).2 ≠ dltReturnOk then throw dltReturnError
      else pure true

/-- `false` leaves the loop. Source: `dlt_user_log_check_user_message`, `DLT_USER_MESSAGE_LOG_STATE` -/
def logStateMessage : Check Bool := do
  let s ← get
  if s.receiver.bytesRcvd < sizeofDltUserHeader + logStateLayout.size then pure false
  else do
    let bytes ← peekReceived buffer sizeofDltUserHeader logStateLayout.size
    modify fun s => { s with tables := { s.tables with logState := (logStateLayout.decode bytes).logState } }
    removeReceived (sizeofDltUserHeader + logStateLayout.size : ℕ)
    pure true

/-- The search for a user header from an offset on, where there are bytes enough for one.
Source: `dlt_user_log_check_user_message` -/
def resync (bytes : List UInt8) (offset : ℕ) : Option ℕ :=
  if dltUserCheckUserheader (bytes.drop offset) then some offset
  else if sizeofDltUserHeader + (offset + 1) ≤ bytes.length then resync bytes (offset + 1)
  else none
termination_by bytes.length - offset

/-- The message at the beginning of the received bytes. `false` leaves the loop.
Source: `dlt_user_log_check_user_message`, the `switch` -/
def userMessage : Check Bool := do
  let bytes ← peekReceived buffer 0 sizeofDltUserHeader
  if userHeaderMessage bytes = dltUserMessageLogLevel then logLevelMessage buffer
  else if userHeaderMessage bytes = dltUserMessageInjection then injectionMessage malloc buffer
  else if userHeaderMessage bytes = dltUserMessageLogState then logStateMessage buffer
  else do
    removeReceived sizeofDltUserHeader
    pure true

/-- One turn of the loop. `false` leaves it. Source: `dlt_user_log_check_user_message` -/
def userMessageTurn : Check Bool := do
  let s ← get
  if s.receiver.bytesRcvd < sizeofDltUserHeader then pure false
  else
    match resync (s.receiver.view buffer) 0 with
    | none => pure false
    | some offset => do
        set { s with receiver := { s.receiver with
          buf := s.receiver.buf + offset, bytesRcvd := s.receiver.bytesRcvd - offset } }
        userMessage malloc buffer

/-- The loop. A turn that goes on takes bytes away, so that as many turns as there are bytes are enough.
Source: `dlt_user_log_check_user_message` -/
def userMessageLoop : ℕ → Check Unit
  | 0 => pure ()
  | turns + 1 => do
      let goesOn ← userMessageTurn malloc buffer
      if goesOn then userMessageLoop turns else pure ()

end loop

/-! ## Calls -/

/-- The application between two calls. -/
structure AppState where
  buffer : List UInt8
  receiver : DltReceiver
  tables : AppTables
  calls : List CallbackCall

/-- `DLT_USER_RCVBUF_MAX_SIZE`. Source: `dlt_user_cfg.h` -/
def dltUserRcvbufMaxSize : ℕ := 10024

/-- The application with a new connection. Source: `dlt_user.c`, `dlt_init` -/
def AppState.start (tables : AppTables) : AppState where
  buffer := (dltReceiverInit .fd dltUserRcvbufMaxSize).1
  receiver := (dltReceiverInit .fd dltUserRcvbufMaxSize).2
  tables := tables
  calls := []

/-- A call when the connection has something to receive: `got` is what the system call delivers. There is no result
where the behaviour is undefined. Source: `dlt_user_log_check_user_message` -/
def dltUserLogCheckUserMessage (malloc : Malloc) (s : AppState) (got : List UInt8) : Option AppState :=
  let received := dltReceiverReceive s.buffer s.receiver got
  if received.2.2 = 0 then some { s with buffer := received.1, receiver := received.2.1 }
  else
    ((userMessageLoop malloc received.1 received.2.1.bytesRcvd).result
      ⟨received.2.1, s.tables, .none, s.calls⟩).map fun r =>
        let receiver :=
          match r.1 with
          | .error _ => r.2.receiver
          | .ok _ => (dltReceiverMoveToBegin malloc received.1 r.2.receiver).1
        { buffer := received.1, receiver, tables := r.2.tables, calls := r.2.calls }

/-- The calls for what a connection delivers. -/
def runReceives (malloc : Malloc) : AppState → List (List UInt8) → Option AppState
  | s, [] => some s
  | s, got :: rest => (dltUserLogCheckUserMessage malloc s got).bind fun s' => runReceives malloc s' rest

end Dlt.Inbox
