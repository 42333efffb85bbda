import Dlt.Lib.Runs
import Mathlib.Data.Int.Notation
import Mathlib.Data.List.Basic

/-!
# Requests and answers of the control tools

The thread that calls `dlt_control_send_message` and the thread that listens to the daemon share a return
value, a mutex and a condition variable.

* `ControlEvent`, `controlStep` — the steps of the threads in any order. A step that a thread cannot take, such
  as to lock the mutex while it is locked, is `none`. Waiting gives the mutex back and takes it again, also
  after a timeout.
* `runControl` — a sequence of events, of which those that cannot happen change nothing.
-/

namespace Dlt.Console

variable {α : Type}

/-! ## Data -/

/-- A message from the daemon. The threads read the content only. -/
structure Answer (α : Type) where
  content : α
  /-- The number of the call whose request the daemon answers with it, if it is a response. -/
  answers : Option ℕ
deriving DecidableEq

inductive Thread
  /-- The thread that sends requests. -/
  | caller
  /-- `daemon_connect_thread`. -/
  | listener
deriving DecidableEq

/-- Where the caller is in `dlt_control_send_message`.
Source: `dlt-control-common.c`, `dlt_control_send_message` -/
inductive Caller
  | idle
  /-- Before `pthread_mutex_lock`. -/
  | locking
  /-- Before `dlt_client_send_message_to_socket`. -/
  | sending
  /-- Before `pthread_cond_timedwait`. -/
  | sent
  /-- In `pthread_cond_timedwait`, without the mutex. -/
  | waiting
  /-- Woken up, before it takes the mutex again. -/
  | waking (timedOut : Bool)
  /-- Before `pthread_mutex_unlock`. -/
  | unlocking
  | returning
deriving DecidableEq

/-- Where the listener is in `dlt_control_callback`. Source: `dlt_control_callback` -/
inductive Listener (α : Type)
  /-- In `dlt_client_main_loop`, which calls the function for each message. -/
  | reading
  /-- Before `pthread_mutex_lock`. -/
  | locking (message : Answer α)
  /-- Before `response_analyzer_cb`. -/
  | analysing (message : Answer α)
  /-- Before `pthread_cond_signal`. -/
  | signalling
  /-- Before `pthread_mutex_unlock`. -/
  | unlocking
deriving DecidableEq

structure Returned where
  call : ℕ
  value : ℤ
  /-- The caller holds `answer_lock`. -/
  holdsLock : Bool
deriving DecidableEq

/-- The shared data and the threads, with what has happened. -/
structure ControlState (α : Type) where
  /-- `callback_return`. -/
  callbackReturn : ℤ
  /-- The thread that holds `answer_lock`. -/
  answerLock : Option Thread
  caller : Caller
  listener : Listener α
  calls : ℕ
  /-- The calls whose requests were sent, the last one first. -/
  sent : List ℕ
  /-- The messages that were analysed, the last one first. -/
  analysed : List (Answer α)
  /-- The calls that have returned, the last one first. -/
  returned : List Returned
deriving DecidableEq

/-- Before the first call. -/
def ControlState.initial : ControlState α where
  callbackReturn := -1
  answerLock := none
  caller := .idle
  listener := .reading
  calls := 0
  sent := []
  analysed := []
  returned := []

/-- The current call returns a value. -/
def ControlState.finish (s : ControlState α) (value : ℤ) : ControlState α :=
  { s with
    caller := .idle
    returned := ⟨s.calls, value, s.answerLock = some .caller⟩ :: s.returned }

/-! ## Steps -/

/-- What the threads and the connection do. -/
inductive ControlEvent (α : Type)
  /-- A call fails before it locks the mutex: no body, no time, or no memory for the message. -/
  | callFails
  | call
  /-- The caller locks the mutex and resets the return value. -/
  | callerLocks
  | sends
  | sendFails
  | waits
  /-- The caller wakes up without a signal. -/
  | wakes
  | timesOut
  /-- The caller takes the mutex again. -/
  | relocks
  | callerUnlocks
  | returns
  | receives (message : Answer α)
  | listenerLocks
  | analyses
  | signals
  | listenerUnlocks
deriving DecidableEq

/-- A step of the caller. A caller that was woken by the end of the time does not unlock the mutex.
Source: `dlt_control_send_message` -/
def callerStep (s : ControlState α) : ControlEvent α → Option (ControlState α)
  | .callFails =>
      if s.caller = .idle then some (ControlState.finish { s with calls := s.calls + 1 } (-1)) else none
  | .call => if s.caller = .idle then some { s with calls := s.calls + 1, caller := .locking } else none
  | .callerLocks =>
      if s.caller = .locking ∧ s.answerLock = none then
        some { s with answerLock := some .caller, callbackReturn := -1, caller := .sending }
      else none
  | .sends => if s.caller = .sending then some { s with sent := s.calls :: s.sent, caller := .sent } else none
  | .sendFails => if s.caller = .sending then some (s.finish (-1)) else none
  | .waits => if s.caller = .sent then some { s with answerLock := none, caller := .waiting } else none
  | .wakes => if s.caller = .waiting then some { s with caller := .waking false } else none
  | .timesOut => if s.caller = .waiting then some { s with caller := .waking true } else none
  | .relocks =>
      if s.answerLock = none then
        if s.caller = .waking false then some { s with answerLock := some .caller, caller := .unlocking }
        else if s.caller = .waking true then some { s with answerLock := some .caller, caller := .returning }
        else none
      else none
  | .callerUnlocks =>
      if s.caller = .unlocking then some { s with answerLock := none, caller := .returning } else none
  | .returns => if s.caller = .returning then some (s.finish s.callbackReturn) else none
  | _ => none

/-- A step of the listener; `analyzer` is `response_analyzer_cb`. A response comes after its request. A signal
wakes a caller that waits, and is lost otherwise. Source: `dlt_control_callback` -/
def listenerStep (analyzer : α → ℤ) (s : ControlState α) : ControlEvent α → Option (ControlState α)
  | .receives message =>
      match s.listener with
      | .reading =>
          if message.answers.all (· ∈ s.sent) then some { s with listener := .locking message } else none
      | _ => none
  | .listenerLocks =>
      match s.listener with
      | .locking message =>
          if s.answerLock = none then
            some { s with answerLock := some .listener, listener := .analysing message }
          else none
      | _ => none
  | .analyses =>
      match s.listener with
      | .analysing message =>
          some { s with
            callbackReturn := analyzer message.content
            analysed := message :: s.analysed
            listener := .signalling }
      | _ => none
  | .signals =>
      match s.listener with
      | .signalling =>
          some { s with
            caller := if s.caller = .waiting then .waking false else s.caller
            listener := .unlocking }
      | _ => none
  | .listenerUnlocks =>
      match s.listener with
      | .unlocking => some { s with answerLock := none, listener := .reading }
      | _ => none
  | _ => none

def controlStep (analyzer : α → ℤ) (s : ControlState α) (event : ControlEvent α) : Option (ControlState α) :=
  (callerStep s event).orElse fun _ => listenerStep analyzer s event

/-- The events in order. -/
def runControl (analyzer : α → ℤ) (s : ControlState α) (events : List (ControlEvent α)) : ControlState α :=
  events.foldl (fun s event => (controlStep analyzer s event).getD s) s

end Dlt.Console
