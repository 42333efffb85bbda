import Dlt.Daemon.Daemon
import Dlt.Lib.Ring
import Dlt.Lib.Sorted
import Dlt.Shared.Types
import Mathlib.Algebra.BigOperators.Group.List.Basic

/-!
# The registration tables of the daemon

The functions of `dlt_daemon_common.c` that add, delete and find applications and contexts, and the
parts of the message handlers that call them. A pointer to a table is the position of the ECU in
`user_list`, a pointer to an entry its position in the table.

* `unregisterApplication`, `unregisterContext` — what the unregister handlers do to the tables.

Null pointers are not values of these types, and log output is left out.
-/

namespace Dlt.Daemon

open Dlt.Lib Dlt.Shared

variable {Buf : Type}

/-! ## Lookups -/

/-- `strncmp(a, b, DLT_ID_SIZE) == 0`. -/
def strncmpEq (a b : Id4) : Bool := idText a.bytes = idText b.bytes

/-- Source: `dlt_daemon_common.c`, `dlt_daemon_find_users_list` -/
def dltDaemonFindUsersList (daemon : DltDaemon Buf) (ecu : Id4) : Option ℕ :=
  daemon.userList.findIdx? fun users => strncmpEq ecu users.ecu

/-- Source: `dlt_daemon_cmp_apid` -/
def dltDaemonCmpApid (m1 m2 : DltDaemonApplication) : ℤ := m1.apid.cmp m2.apid

/-- Source: `dlt_daemon_cmp_apid_ctid` -/
def dltDaemonCmpApidCtid (m1 m2 : Id4 × Id4) : ℤ :=
  if m1.1.cmp m2.1 < 0 then -1
  else if m1.1.cmp m2.1 = 0 then m1.2.cmp m2.2
  else 1

def DltDaemonContext.ids (context : DltDaemonContext) : Id4 × Id4 := (context.apid, context.ctid)

/-- The search in the table of one ECU. Source: `dlt_daemon_application_find` -/
def DltDaemonRegisteredUsers.applicationFind (users : DltDaemonRegisteredUsers) (apid : Id4) :
    Option ℕ :=
  if apid.isEmpty ∨ users.numApplications = 0 then none
  else
    match users.applications[0]?, users.applications[users.numApplications - 1]? with
    | some first, some last =>
        -- smaller than the smallest or greater than the greatest id
        if apid.cmp first.apid < 0 ∨ apid.cmp last.apid > 0 then none
        else bsearch (fun application => (dltSetId apid.bytes).cmp application.apid)
          users.applications users.numApplications
    | _, _ => none

/-- The position of the table and of the entry.
Source: `dlt_daemon_application_find` -/
def dltDaemonApplicationFind (daemon : DltDaemon Buf) (apid ecu : Id4) : Option (ℕ × ℕ) := do
  let l ← dltDaemonFindUsersList daemon ecu
  let users ← daemon.userList[l]?
  let i ← users.applicationFind apid
  return (l, i)

/-- The search in the table of one ECU. Source: `dlt_daemon_context_find` -/
def DltDaemonRegisteredUsers.contextFind (users : DltDaemonRegisteredUsers) (apid ctid : Id4) :
    Option ℕ :=
  if apid.isEmpty ∨ ctid.isEmpty ∨ users.numContexts = 0 then none
  else
    match users.contexts[0]?, users.contexts[users.numContexts - 1]? with
    | some first, some last =>
        -- smaller than the smallest or greater than the greatest application id
        if apid.cmp first.apid < 0 ∨ apid.cmp last.apid > 0 then none
        else bsearch (fun context =>
            dltDaemonCmpApidCtid (dltSetId apid.bytes, dltSetId ctid.bytes) context.ids)
          users.contexts users.numContexts
    | _, _ => none

/-- The position of the table and of the entry.
Source: `dlt_daemon_context_find` -/
def dltDaemonContextFind (daemon : DltDaemon Buf) (apid ctid ecu : Id4) : Option (ℕ × ℕ) := do
  let l ← dltDaemonFindUsersList daemon ecu
  let users ← daemon.userList[l]?
  let i ← users.contextFind apid ctid
  return (l, i)

/-! ## Handles -/

/-- A change of one table. -/
def DltDaemon.modifyUsers (daemon : DltDaemon Buf) (l : ℕ)
    (f : DltDaemonRegisteredUsers → DltDaemonRegisteredUsers) : DltDaemon Buf :=
  { daemon with userList := daemon.userList.modify l f }

def DltDaemonRegisteredUsers.modifyApplication (users : DltDaemonRegisteredUsers) (i : ℕ)
    (f : DltDaemonApplication → DltDaemonApplication) : DltDaemonRegisteredUsers :=
  { users with applications := users.applications.modify i f }

def DltDaemonRegisteredUsers.modifyContext (users : DltDaemonRegisteredUsers) (i : ℕ)
    (f : DltDaemonContext → DltDaemonContext) : DltDaemonRegisteredUsers :=
  { users with contexts := users.contexts.modify i f }

/-- The applications that use the handle lose it.
Source: `dlt_daemon_applications_invalidate_fd` -/
def DltDaemonRegisteredUsers.applicationsInvalidateFd (users : DltDaemonRegisteredUsers) (fd : ℤ) :
    DltDaemonRegisteredUsers :=
  { users with applications := users.applications.map fun application =>
      if application.userHandle = fd then { application with userHandle := dltFdInit }
      else application }

/-- The contexts that use the handle lose it.
Source: `dlt_daemon_contexts_invalidate_fd` -/
def DltDaemonRegisteredUsers.contextsInvalidateFd (users : DltDaemonRegisteredUsers) (fd : ℤ) :
    DltDaemonRegisteredUsers :=
  { users with contexts := users.contexts.map fun context =>
      if context.userHandle = fd then { context with userHandle := dltFdInit } else context }

/-- The contexts that lose the handle are those of the daemon's own ECU.
Source: `dlt_daemon_application_reset_user_handle` -/
def dltDaemonApplicationResetUserHandle (daemon : DltDaemon Buf) (l i : ℕ) (handle : ℤ) :
    DltDaemon Buf :=
  if handle = dltFdInit then daemon
  else
    let daemon :=
      match dltDaemonFindUsersList daemon daemon.ecuid with
      | some own => daemon.modifyUsers own (·.contextsInvalidateFd handle)
      | none => daemon
    daemon.modifyUsers l (·.modifyApplication i fun application =>
      { application with userHandle := dltFdInit, ownsUserHandle := false })

/-- How the daemon is built to reach its applications, and what opening a pipe gives. -/
structure UserIpc where
  /-- `DLT_DAEMON_USE_UNIX_SOCKET_IPC` or `DLT_DAEMON_VSOCK_IPC_ENABLE`. -/
  socket : Bool
  /-- `DLT_DAEMON_USE_FIFO_IPC`. -/
  fifo : Bool
  /-- The result of `open` on the pipe of a process. -/
  openPipe : ℤ → ℤ

/-- The handle to an application of a process, and whether the daemon has to close it.
Source: `dlt_daemon_application_add` -/
def UserIpc.userHandle (ipc : UserIpc) (fd pid : ℤ) : ℤ × Bool :=
  let handle := if ipc.socket ∧ fd ≥ dltFdMinimum then fd else dltFdInit
  if ipc.fifo ∧ handle < dltFdMinimum then (ipc.openPipe pid, decide (0 ≤ ipc.openPipe pid))
  else (handle, false)

/-! ## Applications -/

/-- `DLT_DAEMON_APPL_ALLOC_SIZE`. Source: `dlt_daemon_common_cfg.h` -/
def dltDaemonApplAllocSize : ℕ := 500

/-- `DLT_DAEMON_CONTEXT_ALLOC_SIZE`. Source: `dlt_daemon_common_cfg.h` -/
def dltDaemonContextAllocSize : ℕ := 1000

/-- `sizeof(DltDaemonApplication)`. Source: `dlt_daemon_common.h` -/
def sizeofDltDaemonApplication : ℕ := 32

/-- `sizeof(DltDaemonContext)`. Source: `dlt_daemon_common.h` -/
def sizeofDltDaemonContext : ℕ := 40

/-- The room for a table of `num` entries, when the memory in use has room for `room`: new memory at
the multiples of `step`. `none`: there is no memory. -/
def tableRoom (malloc : Malloc) (entry step room num : ℕ) : Option ℕ :=
  if num ≠ 0 ∧ num % step = 0 then
    (malloc (entry * (num / step + 1) * step)).map fun _ => (num / step + 1) * step
  else some room

/-- The first memory of the applications. Source: `dlt_daemon_common.c`, `dlt_daemon_application_add` -/
def DltDaemonRegisteredUsers.allocateApplications (malloc : Malloc)
    (users : DltDaemonRegisteredUsers) : Option DltDaemonRegisteredUsers :=
  if users.applicationsRoom = 0 then
    (malloc (sizeofDltDaemonApplication * dltDaemonApplAllocSize)).map fun _ =>
      { users with applicationsRoom := dltDaemonApplAllocSize }
  else some users

/-- A new application behind the others. Source: `dlt_daemon_application_add` -/
def DltDaemonRegisteredUsers.appendApplication (malloc : Malloc) (users : DltDaemonRegisteredUsers)
    (apid : Id4) : Option DltDaemonRegisteredUsers :=
  let num := users.numApplications + 1
  (tableRoom malloc sizeofDltDaemonApplication dltDaemonApplAllocSize users.applicationsRoom num).map
    fun room =>
      { users with
        numApplications := num
        applicationsRoom := room
        applications := overwrite users.applications (num - 1) [{
          apid := dltSetId apid.bytes, pid := 0, applicationDescription := none, numContexts := 0
          userHandle := dltFdInit, ownsUserHandle := false }] }

/-- The part of `dlt_daemon_application_add` that sets the process and opens the handle of the
application at position `i` of the table `l`.
Source: `dlt_daemon_application_add` -/
def applicationSetProcess (ipc : UserIpc) (daemon : DltDaemon Buf) (l i : ℕ) (pid fd : ℤ)
    (old : DltDaemonApplication) : DltDaemon Buf :=
  let reset := decide (old.pid ≠ pid)
  let daemon :=
    if reset then
      (dltDaemonApplicationResetUserHandle daemon l i old.userHandle).modifyUsers l
        (·.modifyApplication i fun application => { application with pid := 0 })
    else daemon
  let handle := if reset then dltFdInit else old.userHandle
  if handle = dltFdInit ∧ pid ≠ 0 then
    let new := ipc.userHandle fd pid
    daemon.modifyUsers l fun users =>
      ((users.applicationsInvalidateFd new.1).contextsInvalidateFd new.1).modifyApplication i
        fun application =>
          { application with userHandle := new.1, ownsUserHandle := new.2, pid }
  else daemon

/-- The result is the daemon and the position of the application, `none` for the null pointer. There
is memory for the description.
Source: `dlt_daemon_application_add` -/
def dltDaemonApplicationAdd (malloc : Malloc) (ipc : UserIpc) (daemon : DltDaemon Buf) (apid : Id4)
    (pid : ℤ) (description : Option (List UInt8)) (fd : ℤ) (ecu : Id4) :
    DltDaemon Buf × Option (ℕ × ℕ) :=
  if apid.isEmpty then (daemon, none)
  else
    match dltDaemonFindUsersList daemon ecu with
    | none => (daemon, none)
    | some l =>
      match (daemon.userList[l]?).bind (·.allocateApplications malloc) with
      | none => (daemon, none)
      | some users =>
        let daemon := daemon.modifyUsers l fun _ => users
        match users.applicationFind apid with
        | none =>
          match users.appendApplication malloc apid with
          | none => (daemon, none)
          | some users =>
            let i := users.numApplications - 1
            match users.applications[i]? with
            | none => (daemon, none)
            | some old =>
              let daemon := daemon.modifyUsers l fun _ =>
                users.modifyApplication i fun application =>
                  { application with applicationDescription := description }
              let daemon := applicationSetProcess ipc daemon l i pid fd old
              let daemon := daemon.modifyUsers l fun users =>
                { users with
                  applications :=
                    qsort dltDaemonCmpApid (users.applications.take users.numApplications) }
              (daemon, dltDaemonApplicationFind daemon apid ecu)
        | some i =>
          match users.applications[i]? with
          | none => (daemon, none)
          | some old =>
            let daemon := daemon.modifyUsers l (·.modifyApplication i fun application =>
              { application with applicationDescription := description })
            (applicationSetProcess ipc daemon l i pid fd old, some (l, i))

/-- The deletion of the application at position `i` of a table.
Source: `dlt_daemon_application_del` -/
def DltDaemonRegisteredUsers.applicationDel (users : DltDaemonRegisteredUsers) (i : ℕ) :
    DltDaemonRegisteredUsers :=
  { users with
    applications := (overwrite users.applications i
      ((users.applications.drop (i + 1)).take (users.numApplications - 1 - i))).take
        (users.numApplications - 1)
    numApplications := users.numApplications - 1 }

/-- Source: `dlt_daemon_application_del` -/
def dltDaemonApplicationDel (daemon : DltDaemon Buf) (l i : ℕ) : DltDaemon Buf :=
  match daemon.userList[l]? with
  | none => daemon
  | some users =>
    match users.applications[i]? with
    | none => daemon
    | some application =>
      if users.numApplications > 0 then
        (dltDaemonApplicationResetUserHandle daemon l i application.userHandle).modifyUsers l
          (·.applicationDel i)
      else daemon

/-! ## Contexts -/

/-- `DLT_LOG_DEFAULT`. Source: `dlt_types.h` -/
abbrev dltLogDefault : ℤ := -1

/-- `DLT_LOG_VERBOSE`. Source: `dlt_types.h` -/
abbrev dltLogVerbose : ℤ := 6

/-- `DLT_TRACE_STATUS_DEFAULT`. Source: `dlt_types.h` -/
abbrev dltTraceStatusDefault : ℤ := -1

/-- `DLT_TRACE_STATUS_ON`. Source: `dlt_types.h` -/
abbrev dltTraceStatusOn : ℤ := 1

/-- The first memory of the contexts. Source: `dlt_daemon_common.c`, `dlt_daemon_context_add` -/
def DltDaemonRegisteredUsers.allocateContexts (malloc : Malloc) (users : DltDaemonRegisteredUsers) :
    Option DltDaemonRegisteredUsers :=
  if users.contextsRoom = 0 then
    (malloc (sizeofDltDaemonContext * dltDaemonContextAllocSize)).map fun _ =>
      { users with contextsRoom := dltDaemonContextAllocSize }
  else some users

/-- A new context behind the others, of the application at position `a`; `slot` is what the memory
held there. Source: `dlt_daemon_context_add` -/
def DltDaemonRegisteredUsers.appendContext (malloc : Malloc) (users : DltDaemonRegisteredUsers)
    (slot : DltDaemonContext) (apid ctid : Id4) (a : ℕ) : Option DltDaemonRegisteredUsers :=
  let num := users.numContexts + 1
  (tableRoom malloc sizeofDltDaemonContext dltDaemonContextAllocSize users.contextsRoom num).map
    fun room =>
      { users with
        numContexts := num
        contextsRoom := room
        contexts := overwrite users.contexts (num - 1) [{ slot with
          apid := dltSetId apid.bytes, ctid := dltSetId ctid.bytes, contextDescription := none }]
        applications := users.applications.modify a fun application =>
          { application with numContexts := application.numContexts + 1 } }

/-- What `dlt_daemon_context_add` stores in a context, new or not.
Source: `dlt_daemon_context_add` -/
def contextSet (daemon : DltDaemon Buf) (ecu : Id4) (new : Bool) (logLevel traceStatus : ℤ)
    (logLevelPos userHandle : ℤ) (description : Option (List UInt8)) (context : DltDaemonContext) :
    DltDaemonContext :=
  let adapt := strncmpEq daemon.ecuid ecu && daemon.forceLlTs
  let logLevel :=
    if adapt ∧ logLevel > daemon.defaultLogLevel then daemon.defaultLogLevel else logLevel
  let traceStatus :=
    if adapt ∧ traceStatus > daemon.defaultTraceStatus then daemon.defaultTraceStatus
    else traceStatus
  let store := new || !daemon.runtimeContextCfgLoaded
  { context with
    contextDescription := description
    logLevel := if store then logLevel else context.logLevel
    traceStatus := if store then traceStatus else context.traceStatus
    logLevelPos, userHandle
    predefined := decide (userHandle = 0) }

/-- The result is the daemon and the position of the context, `none` for the null pointer. There is
memory for the description. Source: `dlt_daemon_context_add` -/
def dltDaemonContextAdd (malloc : Malloc) (slot : DltDaemonContext) (daemon : DltDaemon Buf)
    (apid ctid : Id4) (logLevel traceStatus logLevelPos userHandle : ℤ)
    (description : Option (List UInt8)) (ecu : Id4) : DltDaemon Buf × Option (ℕ × ℕ) :=
  if apid.isEmpty ∨ ctid.isEmpty then (daemon, none)
  else if logLevel < dltLogDefault ∨ logLevel > dltLogVerbose then (daemon, none)
  else if traceStatus < dltTraceStatusDefault ∨ traceStatus > dltTraceStatusOn then (daemon, none)
  else
    match dltDaemonFindUsersList daemon ecu with
    | none => (daemon, none)
    | some l =>
      match (daemon.userList[l]?).bind (·.allocateContexts malloc) with
      | none => (daemon, none)
      | some users =>
        let daemon := daemon.modifyUsers l fun _ => users
        match users.applicationFind apid with
        | none => (daemon, none)
        | some a =>
          match users.contextFind apid ctid with
          | none =>
            match users.appendContext malloc slot apid ctid a with
            | none => (daemon, none)
            | some users =>
              let users := users.modifyContext (users.numContexts - 1)
                (contextSet daemon ecu true logLevel traceStatus logLevelPos userHandle description)
              let daemon := daemon.modifyUsers l fun _ =>
                { users with
                  contexts := qsort (fun m1 m2 => dltDaemonCmpApidCtid m1.ids m2.ids)
                    (users.contexts.take users.numContexts) }
              (daemon, dltDaemonContextFind daemon apid ctid ecu)
          | some c =>
            (daemon.modifyUsers l fun users => users.modifyContext c
              (contextSet daemon ecu false logLevel traceStatus logLevelPos userHandle description),
              some (l, c))

/-- The deletion of the context at position `c` of a table.
Source: `dlt_daemon_context_del` -/
def DltDaemonRegisteredUsers.contextDel (users : DltDaemonRegisteredUsers) (c : ℕ) :
    DltDaemonRegisteredUsers :=
  match users.contexts[c]? with
  | none => users
  | some context =>
    if users.numContexts > 0 then
      let application := users.applicationFind context.apid
      let users := { users with
        contexts := (overwrite users.contexts c
          ((users.contexts.drop (c + 1)).take (users.numContexts - 1 - c))).take
            (users.numContexts - 1)
        numContexts := users.numContexts - 1 }
      match application with
      | some a => users.modifyApplication a fun application =>
          { application with numContexts := application.numContexts - 1 }
      | none => users
    else users

/-- Source: `dlt_daemon_context_del` -/
def dltDaemonContextDel (daemon : DltDaemon Buf) (l c : ℕ) : DltDaemon Buf :=
  daemon.modifyUsers l (·.contextDel c)

/-! ## Clearing -/

/-- Source: `dlt_daemon_applications_clear` -/
def dltDaemonApplicationsClear (daemon : DltDaemon Buf) (ecu : Id4) : DltDaemon Buf :=
  match dltDaemonFindUsersList daemon ecu with
  | none => daemon
  | some l => daemon.modifyUsers l fun users =>
      { users with applications := [], numApplications := 0, applicationsRoom := 0 }

/-- Source: `dlt_daemon_contexts_clear` -/
def dltDaemonContextsClear (daemon : DltDaemon Buf) (ecu : Id4) : DltDaemon Buf :=
  match dltDaemonFindUsersList daemon ecu with
  | none => daemon
  | some l => daemon.modifyUsers l fun users =>
      { users with
        applications := users.applications.map fun application =>
          { application with numContexts := 0 }
        contexts := [], numContexts := 0, contextsRoom := 0 }

/-! ## The handlers -/

/-- The loop over the contexts of an application: `n` contexts from position `base` on are deleted,
the last one first.
Source: `dlt-daemon.c`, `dlt_daemon_process_user_message_unregister_application` -/
def unregisterContexts (daemon : DltDaemon Buf) (l base : ℕ) : ℕ → DltDaemon Buf
  | 0 => daemon
  | n + 1 => unregisterContexts (dltDaemonContextDel daemon l (base + n)) l base n

/-- Source: `dlt_daemon_process_user_message_unregister_application` -/
def unregisterApplication (daemon : DltDaemon Buf) (apid : Id4) : DltDaemon Buf :=
  match dltDaemonApplicationFind daemon apid daemon.ecuid with
  | none => daemon
  | some (l, i) =>
    match daemon.userList[l]? with
    | none => daemon
    | some users =>
      match users.applications[i]? with
      | none => daemon
      | some application =>
        let base := ((users.applications.take i).map DltDaemonApplication.numContexts).sum.toNat
        dltDaemonApplicationDel (unregisterContexts daemon l base application.numContexts.toNat) l i

/-- A predefined context stays until its application is unregistered.
Source: `dlt_daemon_process_user_message_unregister_context` -/
def unregisterContext (daemon : DltDaemon Buf) (apid ctid : Id4) : DltDaemon Buf :=
  match dltDaemonContextFind daemon apid ctid daemon.ecuid with
  | none => daemon
  | some (l, c) =>
    match (daemon.userList[l]?).bind fun users => users.contexts[c]? with
    | some context => if context.predefined then daemon else dltDaemonContextDel daemon l c
    | none => daemon

end Dlt.Daemon
