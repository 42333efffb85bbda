import Dlt.Daemon.Registration
import Dlt.Daemon.UserMessages
import Dlt.Lib.TextFile

/-!
# The runtime configuration files

The functions of `dlt_daemon_common.c` that keep the registered applications and contexts of the
daemon's own ECU in two text files over a restart.

* `dltDaemonApplicationsLoad`, `dltDaemonContextsLoad` — the daemon after loading, and the result.

Reading and writing an open file does not fail.
-/

namespace Dlt.Daemon

open Dlt.Lib Dlt.Shared

variable {Buf : Type}

/-- `DLT_DAEMON_COMMON_TEXTBUFSIZE`. Source: `dlt_daemon_common_cfg.h` -/
def dltDaemonCommonTextbufsize : ℕ := 255

/-- The delimiter `:`. -/
def colon : UInt8 := 58

/-- The tables of the daemon's own ECU. -/
def DltDaemon.ownUsers (daemon : DltDaemon Buf) : Option DltDaemonRegisteredUsers :=
  (dltDaemonFindUsersList daemon daemon.ecuid).bind fun l => daemon.userList[l]?

/-! ## Saving -/

/-- The text of a description, which is empty for a null pointer. -/
def descriptionText (description : Option (List UInt8)) : List UInt8 := cText (description.getD [])

/-- A line of the file of the applications.
Source: `dlt_daemon_common.c`, `dlt_daemon_applications_save` -/
def applicationLine (application : DltDaemonApplication) : List UInt8 :=
  if descriptionText application.applicationDescription ≠ [] then
    idText application.apid.bytes ++ ascii ":" ++
      descriptionText application.applicationDescription ++ ascii ":\n"
  else idText application.apid.bytes ++ ascii "::\n"

/-- `opens`: the file can be opened. Source: `dlt_daemon_applications_save` -/
def dltDaemonApplicationsSave (daemon : DltDaemon Buf) (opens : Bool) (file : Option (List UInt8)) :
    Option (List UInt8) × ℤ :=
  match daemon.ownUsers with
  | none => (file, -1)
  | some users =>
    if users.applicationsRoom ≠ 0 ∧ users.numApplications > 0 ∧ opens then
      (some ((users.applications.take users.numApplications).flatMap applicationLine), 0)
    else (file, 0)

/-- A line of the file of the contexts.
Source: `dlt_daemon_contexts_save` -/
def contextLine (context : DltDaemonContext) : List UInt8 :=
  let front := idText context.apid.bytes ++ ascii ":" ++ idText context.ctid.bytes ++ ascii ":" ++
    printDecimal context.logLevel ++ ascii ":" ++ printDecimal context.traceStatus
  if descriptionText context.contextDescription ≠ [] then
    front ++ ascii ":" ++ descriptionText context.contextDescription ++ ascii ":\n"
  else front ++ ascii "::\n"

/-- `opens`: the file can be opened. Source: `dlt_daemon_contexts_save` -/
def dltDaemonContextsSave (daemon : DltDaemon Buf) (opens : Bool) (file : Option (List UInt8)) :
    Option (List UInt8) × ℤ :=
  match daemon.ownUsers with
  | none => (file, -1)
  | some users =>
    if users.contextsRoom ≠ 0 ∧ users.numContexts > 0 ∧ opens then
      (some ((users.contexts.take users.numContexts).flatMap contextLine), 0)
    else (file, 0)

/-! ## Loading the applications -/

/-- The daemon after a line, and whether loading goes on.
Source: `dlt_daemon_applications_load` -/
def applicationsLoadLine (malloc : Malloc) (ipc : UserIpc) (daemon : DltDaemon Buf)
    (line : List UInt8) : DltDaemon Buf × Bool :=
  match strtok colon (cText line) with
  | apid :: description :: _ =>
      -- the process is unknown at loading time
      let added := dltDaemonApplicationAdd malloc ipc daemon (dltSetId apid) 0 (some description) (-1)
        daemon.ecuid
      (added.1, added.2.isSome)
  | _ => (daemon, true)

/-- Source: `dlt_daemon_applications_load` -/
def applicationsLoadLines (malloc : Malloc) (ipc : UserIpc) (daemon : DltDaemon Buf) :
    List (List UInt8) → DltDaemon Buf × ℤ
  | [] => (daemon, 0)
  | line :: lines =>
    if (applicationsLoadLine malloc ipc daemon line).2 then
      applicationsLoadLines malloc ipc (applicationsLoadLine malloc ipc daemon line).1 lines
    else ((applicationsLoadLine malloc ipc daemon line).1, -1)

/-- Source: `dlt_daemon_applications_load` -/
def dltDaemonApplicationsLoad (malloc : Malloc) (ipc : UserIpc) (daemon : DltDaemon Buf)
    (file : Option (List UInt8)) : DltDaemon Buf × ℤ :=
  match file with
  | none => (daemon, -1)
  | some file =>
    applicationsLoadLines malloc ipc daemon (readLines dltDaemonCommonTextbufsize file)

/-! ## Loading the contexts -/

/-- The daemon and the variables of `dlt_daemon_contexts_load` that keep their values from line to
line. -/
structure ContextsLoad (Buf : Type) where
  daemon : DltDaemon Buf
  /-- The log level of the last line that has one. -/
  ll : ℤ
  /-- The trace status of the last line that has one. -/
  ts : ℤ

/-- The state after a line, and whether loading goes on; `slot` is what the memory of a new context
held. Source: `dlt_daemon_contexts_load` -/
def contextsLoadLine (malloc : Malloc) (slot : DltDaemonContext) (s : ContextsLoad Buf)
    (line : List UInt8) : ContextsLoad Buf × Bool :=
  match strtok colon (cText line) with
  | apid :: ctid :: ll :: fields =>
      -- `sscanf` leaves the variable as it is when there is no number
      let s := { s with ll := (scanDecimal ll).getD s.ll }
      match fields with
      | ts :: fields =>
          let s := { s with ts := (scanDecimal ts).getD s.ts }
          match fields with
          | description :: _ =>
              let added := dltDaemonContextAdd malloc slot s.daemon (dltSetId apid) (dltSetId ctid)
                (i8 s.ll) (i8 s.ts) 0 0 (some description) s.daemon.ecuid
              ({ s with daemon := added.1 }, added.2.isSome)
          | [] => (s, true)
      | [] => (s, true)
  | _ => (s, true)

/-- `slots` is what the memory held for the context of each line.
Source: `dlt_daemon_contexts_load` -/
def contextsLoadLines (malloc : Malloc) (slots : ℕ → DltDaemonContext) (s : ContextsLoad Buf) :
    List (List UInt8) → DltDaemon Buf × ℤ
  | [] => (s.daemon, 0)
  | line :: lines =>
    if (contextsLoadLine malloc (slots 0) s line).2 then
      contextsLoadLines malloc (fun n => slots (n + 1)) (contextsLoadLine malloc (slots 0) s line).1
        lines
    else ((contextsLoadLine malloc (slots 0) s line).1.daemon, -1)

/-- `ll` and `ts` are what the memory held for the variables, which are not initialized.
Source: `dlt_daemon_contexts_load` -/
def dltDaemonContextsLoad (malloc : Malloc) (slots : ℕ → DltDaemonContext) (ll ts : ℤ)
    (daemon : DltDaemon Buf) (file : Option (List UInt8)) : DltDaemon Buf × ℤ :=
  match file with
  | none => (daemon, -1)
  | some file =>
    contextsLoadLines malloc slots ⟨daemon, ll, ts⟩ (readLines dltDaemonCommonTextbufsize file)

end Dlt.Daemon
