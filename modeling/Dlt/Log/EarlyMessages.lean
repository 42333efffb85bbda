import Dlt.Log.Insertion

/-!
# Runs of a program that logs before logging is initialised

* `World`, `Op`, `Step` — the streams of a program: they are constructed, written, flushed and destroyed.
* `Delivered` — the early messages are handed over once and in order, their memory is released once, and the
  message whose flush hands them over is handed over as well.

Assignments are left out.
-/

namespace Dlt.Log

open Dlt.Lib Dlt.Shared Dlt.User

/-! ## Streams -/

/-- The constructors of a stream that has a message. -/
inductive Constructor
  /-- `LogStream(LogLevel, Logger&)`. -/
  | level (handle : Option ℕ) (loglevel : ℤ)
  /-- `LogStream(LogLevel, Logger&, uint32_t&)`. -/
  | levelId (handle : Option ℕ) (loglevel : ℤ) (messageid : ℕ)
  /-- `LogStream(const LogStream&)`. -/
  | copy (other : LogStream)

/-- `garbage` is what is in the memory of the message before it is started.
Source: `logstream.cpp`, `LogStream::LogStream` -/
def construct (env : LogEnv) (σ : LogState) (garbage : ContextData) : Constructor → LogState × LogStream
  | .level handle loglevel =>
      let (σ', data, ret) :=
        dltUserLogWriteStart env { σ with nextData := σ.nextData + 1 } handle σ.nextData garbage loglevel
      (σ', { logLocalData := some (σ.nextData, data), logRet := ret })
  | .levelId handle loglevel messageid =>
      let (σ', data, ret) := dltUserLogWriteStartId env { σ with nextData := σ.nextData + 1 } handle σ.nextData
        garbage loglevel messageid
      (σ', { logLocalData := some (σ.nextData, data), logRet := ret })
  | .copy other =>
      match other.logLocalData with
      | none =>
          ({ σ with nextData := σ.nextData + 1 },
            { logLocalData := some (σ.nextData, garbage), logRet := dltReturnOk })
      | some (_, otherData) =>
          let (σ', data, ret) := dltUserLogWriteStart env { σ with nextData := σ.nextData + 1 }
            otherData.handle σ.nextData garbage otherData.logLevel
          (σ', { logLocalData := some (σ.nextData, data), logRet := ret })

/-- Source: `LogStream::~LogStream` -/
def destroy (σ : LogState) (s : LogStream) : Option LogState :=
  match s.logLocalData with
  | none => some σ
  | some (id, data) => (finishNonempty σ id data).map fun result => result.1.call (.delete id)

/-! ## Runs -/

/-- The shared variables and the streams. -/
structure World where
  log : LogState
  streams : ℕ → Option LogStream

/-- What a program does with a stream. -/
inductive Op
  | construct (stream : ℕ) (garbage : ContextData) (constructor : Constructor)
  /-- `LogStream(LogStream&&)`. -/
  | move (stream source : ℕ)
  /-- `LogStream::operator<<`. -/
  | insert (stream : ℕ) (value : Value)
  /-- `LogStream::Flush`. -/
  | flush (stream : ℕ)
  | destroy (stream : ℕ)

/-- A stream is in a state. -/
def World.place (w : World) (log : LogState) (stream : ℕ) (s : Option LogStream) : World :=
  { log := log, streams := Function.update w.streams stream s }

inductive Step (env : LogEnv) : World → Op → World → Prop
  | construct {w : World} {i : ℕ} {garbage : ContextData} {c : Constructor} : w.streams i = none →
      Step env w (.construct i garbage c)
        (w.place (construct env w.log garbage c).1 i (construct env w.log garbage c).2)
  | move {w : World} {i j : ℕ} {s : LogStream} : w.streams i = none → w.streams j = some s →
      Step env w (.move i j)
        ((w.place w.log j (some { s with logLocalData := none })).place w.log i (some s))
  | insert {w : World} {i : ℕ} {value : Value} {s : LogStream} {r : LogState × LogStream} :
      w.streams i = some s → Inserts env value w.log s r → Step env w (.insert i value) (w.place r.1 i r.2)
  | flush {w : World} {i : ℕ} {s : LogStream} {r : LogState × LogStream} :
      w.streams i = some s → flush env w.log s = some r → Step env w (.flush i) (w.place r.1 i r.2)
  | destroy {w : World} {i : ℕ} {s : LogStream} {σ : LogState} :
      w.streams i = some s → destroy w.log s = some σ → Step env w (.destroy i) (w.place σ i none)

/-- One step of a run. -/
structure Event where
  before : World
  op : Op
  after : World

/-- The steps from a state to another one. -/
inductive Trace (env : LogEnv) : World → List Event → World → Prop
  | nil {w : World} : Trace env w [] w
  | cons {w w' w'' : World} {op : Op} {rest : List Event} : Step env w op w' → Trace env w' rest w'' →
      Trace env w (⟨w, op, w'⟩ :: rest) w''

def Event.calls (e : Event) : List Call := e.after.log.calls.drop e.before.log.calls.length

/-- Logging is initialised. Source: `logmanager.cpp`, `logINT` -/
def World.initialise (w : World) : World := { w with log := { w.log with loggingInit := true } }

/-- A program that starts, runs, initialises logging, and runs on. -/
structure EarlyRun where
  env : LogEnv
  start : World
  early : List Event
  earlyEnd : World
  late : List Event
  lateEnd : World
  bufferSize_pos : 0 < start.log.bufferSize
  notInitialised : start.log.loggingInit = false
  noMessages : start.log.logBuffer = []
  noCalls : start.log.calls = []
  noStreams : ∀ i, start.streams i = none
  earlyTrace : Trace env start early earlyEnd
  lateTrace : Trace env earlyEnd.initialise late lateEnd

/-! ## Delivery -/

/-- The copy of a message that a call allocates. -/
def Call.copied : Call → Option (ℕ × Option ℕ)
  | copy id buffer => some (id, buffer)
  | _ => none

/-- The message that a call hands over. -/
def Call.finished : Call → Option ℕ
  | finish id _ => some id
  | _ => none

/-- The messages that were flushed before the initialisation, in this order: their copies with their memory. -/
def EarlyRun.messages (r : EarlyRun) : List (ℕ × Option ℕ) := r.earlyEnd.log.calls.filterMap Call.copied

/-- The last `g_BufferSize` of them. -/
def EarlyRun.kept (r : EarlyRun) : List (ℕ × Option ℕ) :=
  r.messages.drop (r.messages.length - r.start.log.bufferSize.toNat)

/-- The messages that are handed over behind the initialisation, in this order. -/
def EarlyRun.handedOver (r : EarlyRun) : List ℕ :=
  (r.lateEnd.log.calls.drop r.earlyEnd.log.calls.length).filterMap Call.finished

/-- The stream that a step writes or flushes. -/
def Op.written : Op → Option ℕ
  | insert i _ | flush i => some i
  | construct _ _ _ | move _ _ | destroy _ => none

/-- The early messages are delivered. -/
structure Delivered (r : EarlyRun) : Prop where
  /-- They are handed over before any other message, in their order, and not again. -/
  handed : ∃ rest, r.handedOver = r.kept.map (·.1) ++ rest ∧ ∀ m ∈ r.kept, m.1 ∉ rest
  /-- Every copy, and its memory, is released once. -/
  released : ∀ m ∈ r.messages, r.lateEnd.log.calls.count (.delete m.1) = 1 ∧
    ∀ b ∈ m.2, r.lateEnd.log.calls.count (.free b) = 1
  /-- The message whose flush hands them over is handed over as well, if it is not empty, and its stream is
  started again. -/
  restarted : ∀ e ∈ r.late, ∀ i ∈ e.op.written, (∃ m ∈ r.messages, .delete m.1 ∈ e.calls) →
    ∃ s id data, e.before.streams i = some s ∧ s.logLocalData = some (id, data) ∧
      (0 < data.size → ∃ payload, .finish id payload ∈ e.calls) ∧ .start id ∈ e.calls

end Dlt.Log
