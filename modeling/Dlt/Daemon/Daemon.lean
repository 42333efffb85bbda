import Dlt.Shared.Id
import Mathlib.Data.Int.Notation

/-!
# The daemon's data

* `DltDaemon` — the daemon, over the type of its ring buffer.
-/

namespace Dlt.Daemon

open Dlt.Shared

/-- `DLT_FD_INIT`, the handle of no connection. Source: `dlt_common.h` -/
abbrev dltFdInit : ℤ := -1

/-- `DLT_FD_MINIMUM`. Source: `dlt_common.h` -/
abbrev dltFdMinimum : ℤ := 3

/-- A registered application. Source: `dlt_daemon_common.h`, `DltDaemonApplication` -/
structure DltDaemonApplication where
  apid : Id4
  /-- Process id of the user application. -/
  pid : ℤ
  /-- Handle of the connection to the user application. -/
  userHandle : ℤ
  ownsUserHandle : Bool
  applicationDescription : Option (List UInt8)
  numContexts : ℤ

/-- A registered context. Source: `DltDaemonContext` -/
structure DltDaemonContext where
  apid : Id4
  ctid : Id4
  logLevel : ℤ
  traceStatus : ℤ
  /-- Offset of the context in the user application. -/
  logLevelPos : ℤ
  /-- Handle of the connection to the user application. -/
  userHandle : ℤ
  contextDescription : Option (List UInt8)
  storageLogLevel : ℤ
  /-- The context comes from the runtime configuration file. -/
  predefined : Bool

/-- The registered users of an ECU. Source: `DltDaemonRegisteredUsers` -/
structure DltDaemonRegisteredUsers where
  applications : List DltDaemonApplication
  numApplications : ℕ
  /-- Room in the memory of the applications; `0` is the null pointer. -/
  applicationsRoom : ℕ
  contexts : List DltDaemonContext
  numContexts : ℕ
  /-- Room in the memory of the contexts; `0` is the null pointer. -/
  contextsRoom : ℕ
  /-- ECU id. -/
  ecu : Id4

/-- Source: `dlt_types.h`, `DltUserLogMode` -/
inductive DltUserLogMode
  /-- `DLT_USER_MODE_UNDEFINED`. -/
  | undefined
  /-- `DLT_USER_MODE_OFF`. -/
  | off
  /-- `DLT_USER_MODE_EXTERNAL`. -/
  | external
  /-- `DLT_USER_MODE_INTERNAL`. -/
  | internal
  /-- `DLT_USER_MODE_BOTH`. -/
  | both
deriving DecidableEq, Repr

/-- Source: `dlt_daemon_common.h`, `DltDaemonState` -/
inductive DltDaemonState
  | init
  /-- Logging is buffered until a client connects. -/
  | buffer
  | bufferFull
  /-- A client is connected, and the buffer is not empty. -/
  | sendBuffer
  /-- A client is connected, and the buffer is empty. -/
  | sendDirect
deriving DecidableEq, Repr

/-- The daemon, over the type of the ring buffer for its clients.
Source: `DltDaemon` -/
structure DltDaemon (Buf : Type) where
  /-- The registered users of each ECU. -/
  userList : List DltDaemonRegisteredUsers
  defaultLogLevel : ℤ
  defaultTraceStatus : ℤ
  /-- Log levels and trace statuses must not exceed the default ones. -/
  forceLlTs : Bool
  /-- Number of lost messages. -/
  overflowCounter : ℕ
  /-- The runtime context configuration has been loaded. -/
  runtimeContextCfgLoaded : Bool
  /-- ECU id of the daemon. -/
  ecuid : Id4
  sendserialheader : Bool
  /-- Ring buffer for the messages received while no client is connected. -/
  clientRingbuffer : Buf
  mode : DltUserLogMode
  state : DltDaemonState

end Dlt.Daemon
