import Dlt.Daemon.RawIds

/-!
# Registrations when memory runs out

`dlt_daemon_application_add` and `dlt_daemon_context_add` ask for memory up to three times: for the first
table, for a table that grows, and for the description. Here each request may fail, and what is given to
`free` is part of the result.

* `AddMemory`, `Freed`, `AddResult` — the memory, what is freed, and what an addition gives.
* `WellKept` — the counters are the lengths and the ids are cut at their first zero; `wellKept_dbStep` —
  every operation keeps this, with any ids and any memory.
-/

namespace Dlt.Daemon

open Dlt.Lib Dlt.Shared List Option DltDaemonRegisteredUsers

variable {Buf : Type}
variable {apid : Id4}

/-! ## The functions -/

structure AddMemory where
  tables : Malloc
  texts : Malloc

/-- Memory that is given to `free`. -/
inductive Freed
  /-- The memory of a table that has been copied to a greater one. -/
  | oldTable
  /-- The description of the entry at position `i` of the table `l`. -/
  | description (l i : ℕ)
  /-- The application at position `i` of the table `l`. -/
  | application (l i : ℕ)
deriving DecidableEq

/-- What an addition gives: the daemon, the position of the entry (`none` for the null pointer), and what has
been freed. -/
structure AddResult (Buf : Type) where
  daemon : DltDaemon Buf
  entry : Option (ℕ × ℕ)
  freed : List Freed

/-- The description is stored with the zero at its end. `none`: there is no memory for it. -/
def AddMemory.text (memory : AddMemory) : Option (List UInt8) → Option (Option (List UInt8))
  | none => some none
  | some description => (memory.texts (description.length + 1)).map fun _ => some description

/-- The table of `num` entries moves to greater memory. -/
def oldTable (step num : ℕ) : List Freed := if num ≠ 0 ∧ num % step = 0 then [.oldTable] else []

/-- The old description of an entry is freed when there is one. -/
def oldDescription (l i : ℕ) (description : Option (List UInt8)) : List Freed :=
  if description.isSome then [.description l i] else []

/-- Source: `dlt_daemon_common.c`, `dlt_daemon_application_add` -/
def applicationAddResult (memory : AddMemory) (ipc : UserIpc) (daemon : DltDaemon Buf) (apid : Id4) (pid : ℤ)
    (description : Option (List UInt8)) (fd : ℤ) (ecu : Id4) : AddResult Buf :=
  if apid.isEmpty then ⟨daemon, none, []⟩
  else
    match dltDaemonFindUsersList daemon ecu with
    | none => ⟨daemon, none, []⟩
    | some l =>
      match (daemon.userList[l]?).bind (·.allocateApplications memory.tables) with
      | none => ⟨daemon, none, []⟩
      | some users =>
        let daemon := daemon.modifyUsers l fun _ => users
        match users.applicationFind apid with
        | none =>
          match users.appendApplication memory.tables apid with
          | none => ⟨daemon, none, []⟩
          | some users =>
            let i := users.numApplications - 1
            let freed := oldTable dltDaemonApplAllocSize users.numApplications
            match users.applications[i]? with
            | none => ⟨daemon, none, []⟩
            | some old =>
              match memory.text description with
              -- the new entry stays, and its memory is freed
              | none => ⟨daemon.modifyUsers l fun _ => users, none, freed ++ [.application l i]⟩
              | some text =>
                let daemon := daemon.modifyUsers l fun _ =>
                  users.modifyApplication i fun application => { application with applicationDescription := text }
                let daemon := applicationSetProcess ipc daemon l i pid fd old
                let daemon := daemon.modifyUsers l fun users =>
                  { users with
                    applications :=
                      qsort dltDaemonCmpApid (users.applications.take users.numApplications) }
                ⟨daemon, dltDaemonApplicationFind daemon apid ecu, freed⟩
        | some i =>
          match users.applications[i]? with
          | none => ⟨daemon, none, []⟩
          | some old =>
            let freed := oldDescription l i old.applicationDescription
            match memory.text description with
            -- the entry has lost its description, and its memory is freed
            | none =>
              ⟨daemon.modifyUsers l (·.modifyApplication i fun application =>
                { application with applicationDescription := none }), none, freed ++ [.application l i]⟩
            | some text =>
              let daemon := daemon.modifyUsers l (·.modifyApplication i fun application =>
                { application with applicationDescription := text })
              ⟨applicationSetProcess ipc daemon l i pid fd old, some (l, i), freed⟩

/-- A context without memory for its description has none.
Source: `dlt_daemon_context_add` -/
def contextAddResult (memory : AddMemory) (slot : DltDaemonContext) (daemon : DltDaemon Buf) (apid ctid : Id4)
    (logLevel traceStatus logLevelPos userHandle : ℤ) (description : Option (List UInt8)) (ecu : Id4) :
    AddResult Buf :=
  if apid.isEmpty ∨ ctid.isEmpty then ⟨daemon, none, []⟩
  else if logLevel < dltLogDefault ∨ logLevel > dltLogVerbose then ⟨daemon, none, []⟩
  else if traceStatus < dltTraceStatusDefault ∨ traceStatus > dltTraceStatusOn then ⟨daemon, none, []⟩
  else
    match dltDaemonFindUsersList daemon ecu with
    | none => ⟨daemon, none, []⟩
    | some l =>
      match (daemon.userList[l]?).bind (·.allocateContexts memory.tables) with
      | none => ⟨daemon, none, []⟩
      | some users =>
        let daemon := daemon.modifyUsers l fun _ => users
        match users.applicationFind apid with
        | none => ⟨daemon, none, []⟩
        | some a =>
          let text := (memory.text description).getD none
          match users.contextFind apid ctid with
          | none =>
            match users.appendContext memory.tables slot apid ctid a with
            | none => ⟨daemon, none, []⟩
            | some users =>
              let users := users.modifyContext (users.numContexts - 1)
                (contextSet daemon ecu true logLevel traceStatus logLevelPos userHandle text)
              let daemon := daemon.modifyUsers l fun _ =>
                { users with
                  contexts := qsort (fun m1 m2 => dltDaemonCmpApidCtid m1.ids m2.ids)
                    (users.contexts.take users.numContexts) }
              ⟨daemon, dltDaemonContextFind daemon apid ctid ecu,
                oldTable dltDaemonContextAllocSize users.numContexts⟩
          | some c =>
            ⟨daemon.modifyUsers l fun users => users.modifyContext c
                (contextSet daemon ecu false logLevel traceStatus logLevelPos userHandle text),
              some (l, c),
              oldDescription l c ((users.contexts[c]?).bind DltDaemonContext.contextDescription)⟩

/-- When there is memory for the description the function is the one without its memory. -/
theorem applicationAddResult_of_text {memory : AddMemory} {description : Option (List UInt8)}
    (h : memory.text description = some description) (ipc : UserIpc) (daemon : DltDaemon Buf) (apid : Id4) (pid : ℤ)
    (fd : ℤ) (ecu : Id4) :
    ((applicationAddResult memory ipc daemon apid pid description fd ecu).daemon,
        (applicationAddResult memory ipc daemon apid pid description fd ecu).entry) =
      dltDaemonApplicationAdd memory.tables ipc daemon apid pid description fd ecu := by
  unfold applicationAddResult dltDaemonApplicationAdd
  by_cases hempty : apid.isEmpty = true
  · rw [if_pos hempty, if_pos hempty]
  rw [if_neg hempty, if_neg hempty]
  cases hl : dltDaemonFindUsersList daemon ecu with
  | none => rfl
  | some l =>
  cases hmid : (daemon.userList[l]?).bind (·.allocateApplications memory.tables) with
  | none => simp only [hmid]
  | some users =>
  simp only [hmid, h]
  cases users.applicationFind apid with
  | none =>
    cases users.appendApplication memory.tables apid with
    | none => rfl
    | some added =>
      simp only
      cases added.applications[added.numApplications - 1]? <;> rfl
  | some i =>
    simp only
    cases users.applications[i]? <;> rfl

/-- Adding a context is adding it with the description that is stored. -/
theorem contextAddResult_eq (memory : AddMemory) (slot : DltDaemonContext) (daemon : DltDaemon Buf)
    (apid ctid : Id4) (logLevel traceStatus logLevelPos userHandle : ℤ) (description : Option (List UInt8))
    (ecu : Id4) :
    ((contextAddResult memory slot daemon apid ctid logLevel traceStatus logLevelPos userHandle description ecu).daemon,
        (contextAddResult memory slot daemon apid ctid logLevel traceStatus logLevelPos userHandle description
          ecu).entry) =
      dltDaemonContextAdd memory.tables slot daemon apid ctid logLevel traceStatus logLevelPos userHandle
        ((memory.text description).getD none) ecu := by
  unfold contextAddResult dltDaemonContextAdd
  split_ifs
  · rfl
  · rfl
  · rfl
  cases hl : dltDaemonFindUsersList daemon ecu with
  | none => rfl
  | some l =>
  cases hmid : (daemon.userList[l]?).bind (·.allocateContexts memory.tables) with
  | none => simp only [hmid]
  | some users =>
  simp only [hmid]
  cases users.applicationFind apid with
  | none => rfl
  | some a =>
  simp only
  cases users.contextFind apid ctid with
  | none =>
    simp only
    cases users.appendContext memory.tables slot apid ctid a <;> rfl
  | some c => rfl

/-! ## Well kept tables -/

/-- **The counters are the lengths, and the ids are cut at their first zero.** Entries may repeat. -/
structure WellKept (users : DltDaemonRegisteredUsers) : Prop where
  numApplications_eq : users.numApplications = users.applications.length
  numContexts_eq : users.numContexts = users.contexts.length
  apids : ∀ a ∈ users.applications, a.apid.Canonical
  ids : ∀ c ∈ users.contexts, c.apid.Canonical ∧ c.ctid.Canonical

/-- The tables of every ECU are well kept. -/
def AllWellKept (daemon : DltDaemon Buf) : Prop := ∀ users ∈ daemon.userList, WellKept users

section tables

variable {users users' : DltDaemonRegisteredUsers} {malloc : Malloc}

theorem SameTables.wellKept (h : SameTables users users') (hw : WellKept users) : WellKept users' := by
  refine ⟨?_, ?_, fun a ha => ?_, fun c hc => ?_⟩
  · rw [h.numApplications_eq, h.length_applications, hw.numApplications_eq]
  · rw [h.numContexts_eq, h.length_contexts, hw.numContexts_eq]
  · have hin : (a.apid, a.numContexts) ∈ users'.registry.apps := mem_map.mpr ⟨a, ha, rfl⟩
    rw [h.registry_eq] at hin
    obtain ⟨a', ha', hid⟩ := mem_map.mp hin
    rw [← (Prod.mk.inj hid).1]
    exact hw.apids a' ha'
  · have hin : (c.apid, c.ctid) ∈ users'.registry.ctxs := mem_map.mpr ⟨c, hc, rfl⟩
    rw [h.registry_eq] at hin
    obtain ⟨c', hc', hid⟩ := mem_map.mp hin
    obtain ⟨hapid, hctid⟩ := Prod.mk.inj hid
    rw [← hapid, ← hctid]
    exact hw.ids c' hc'

/-- The first memory of a table changes no entry and no counter. -/
theorem allocateApplications_cases (h : users.allocateApplications malloc = some users') :
    ∃ room, users' = { users with applicationsRoom := room } := by
  unfold allocateApplications at h
  split_ifs at h
  · obtain ⟨-, -, rfl⟩ := map_eq_some_iff.mp h
    exact ⟨_, rfl⟩
  · cases h
    exact ⟨_, rfl⟩

theorem allocateContexts_cases (h : users.allocateContexts malloc = some users') :
    ∃ room, users' = { users with contextsRoom := room } := by
  unfold allocateContexts at h
  split_ifs at h
  · obtain ⟨-, -, rfl⟩ := map_eq_some_iff.mp h
    exact ⟨_, rfl⟩
  · cases h
    exact ⟨_, rfl⟩

def newApplication (apid : Id4) : DltDaemonApplication where
  apid := dltSetId apid.bytes
  pid := 0
  applicationDescription := none
  numContexts := 0
  userHandle := dltFdInit
  ownsUserHandle := false

theorem appendApplication_cases (hw : WellKept users) (h : users.appendApplication malloc apid = some users') :
    ∃ room, users' = { users with
      numApplications := users.numApplications + 1
      applicationsRoom := room
      applications := users.applications ++ [newApplication apid] } := by
  obtain ⟨room, -, rfl⟩ := map_eq_some_iff.mp h
  refine ⟨room, ?_⟩
  rw [Nat.add_sub_cancel, hw.numApplications_eq, overwrite_length]
  rfl

theorem appendContext_cases {slot : DltDaemonContext} {ctid : Id4} {a : ℕ} (hw : WellKept users)
    (h : users.appendContext malloc slot apid ctid a = some users') :
    ∃ room, users' = { users with
      numContexts := users.numContexts + 1
      contextsRoom := room
      contexts := users.contexts ++ [{ slot with
        apid := dltSetId apid.bytes, ctid := dltSetId ctid.bytes, contextDescription := none }]
      applications := users.applications.modify a fun application =>
        { application with numContexts := application.numContexts + 1 } } := by
  obtain ⟨room, -, rfl⟩ := map_eq_some_iff.mp h
  refine ⟨room, ?_⟩
  rw [Nat.add_sub_cancel, hw.numContexts_eq, overwrite_length]

namespace WellKept

theorem applicationsRoom (hw : WellKept users) (room : ℕ) : WellKept { users with applicationsRoom := room } :=
  ⟨hw.numApplications_eq, hw.numContexts_eq, hw.apids, hw.ids⟩

theorem contextsRoom (hw : WellKept users) (room : ℕ) : WellKept { users with contextsRoom := room } :=
  ⟨hw.numApplications_eq, hw.numContexts_eq, hw.apids, hw.ids⟩

section

variable (hw : WellKept users)
include hw

theorem modifyApplication (i : ℕ) {f : DltDaemonApplication → DltDaemonApplication}
    (hf : ∀ a, (f a).apid = a.apid) : WellKept (users.modifyApplication i f) := by
  refine ⟨hw.numApplications_eq.trans (length_modify ..).symm, hw.numContexts_eq, fun a ha => ?_, hw.ids⟩
  obtain ⟨j, hj⟩ := mem_iff_getElem?.mp ha
  rw [DltDaemonRegisteredUsers.modifyApplication, getElem?_modify] at hj
  obtain ⟨a', ha', rfl⟩ := map_eq_some_iff.mp hj
  have hcanonical := hw.apids a' (mem_of_getElem? ha')
  split_ifs
  · rw [hf]
    exact hcanonical
  · exact hcanonical

theorem modifyContext (i : ℕ) {f : DltDaemonContext → DltDaemonContext} (hf : ∀ c, (f c).ids = c.ids) :
    WellKept (users.modifyContext i f) :=
  (SameTables.modifyContext users i hf).wellKept hw

theorem appendApplication (h : users.appendApplication malloc apid = some users') : WellKept users' := by
  obtain ⟨room, rfl⟩ := appendApplication_cases hw h
  refine ⟨?_, hw.numContexts_eq, fun a ha => ?_, hw.ids⟩
  · rw [length_append, length_singleton, hw.numApplications_eq]
  · rcases mem_append.mp ha with hold | hnew
    · exact hw.apids a hold
    · rw [mem_singleton.mp hnew]
      exact canonical_dltSetId apid.bytes

theorem appendContext {slot : DltDaemonContext} {ctid : Id4} {a : ℕ}
    (h : users.appendContext malloc slot apid ctid a = some users') : WellKept users' := by
  obtain ⟨room, rfl⟩ := appendContext_cases hw h
  have happs := (hw.modifyApplication a (f := fun application =>
    { application with numContexts := application.numContexts + 1 }) fun _ => rfl)
  refine ⟨happs.numApplications_eq, ?_, happs.apids, fun c hc => ?_⟩
  · rw [length_append, length_singleton, hw.numContexts_eq]
  · rcases mem_append.mp hc with hold | hnew
    · exact hw.ids c hold
    · rw [mem_singleton.mp hnew]
      exact ⟨canonical_dltSetId apid.bytes, canonical_dltSetId ctid.bytes⟩

theorem sortApplications : WellKept { users with
    applications := qsort dltDaemonCmpApid (users.applications.take users.numApplications) } := by
  have hperm := qsort_perm dltDaemonCmpApid (users.applications.take users.numApplications)
  rw [hw.numApplications_eq, take_length] at hperm ⊢
  refine ⟨hperm.length_eq.symm, hw.numContexts_eq, fun a ha => hw.apids a (hperm.subset ha), hw.ids⟩

theorem sortContexts : WellKept { users with
    contexts := qsort (fun m1 m2 => dltDaemonCmpApidCtid m1.ids m2.ids) (users.contexts.take users.numContexts) } := by
  have hperm := qsort_perm (fun m1 m2 => dltDaemonCmpApidCtid m1.ids m2.ids)
    (users.contexts.take users.numContexts)
  rw [hw.numContexts_eq, take_length] at hperm ⊢
  refine ⟨hw.numApplications_eq, hperm.length_eq.symm, hw.apids, fun c hc => hw.ids c (hperm.subset hc)⟩

theorem applicationDel {i : ℕ} (hi : i < users.applications.length) : WellKept (users.applicationDel i) := by
  have hnum := hw.numApplications_eq
  unfold DltDaemonRegisteredUsers.applicationDel
  rw [hnum, take_overwrite_eq_eraseIdx hi]
  refine ⟨(length_eraseIdx_of_lt hi).symm, hw.numContexts_eq, fun a ha => ?_, hw.ids⟩
  exact hw.apids a (mem_of_mem_eraseIdx ha)

theorem contextDel (c : ℕ) : WellKept (users.contextDel c) := by
  unfold DltDaemonRegisteredUsers.contextDel
  cases hc : users.contexts[c]? with
  | none => exact hw
  | some context =>
  have hlt := (List.getElem?_eq_some_iff.mp hc).1
  have herased : WellKept { users with
      contexts := users.contexts.eraseIdx c, numContexts := users.contexts.length - 1 } :=
    ⟨hw.numApplications_eq, (length_eraseIdx_of_lt hlt).symm, hw.apids,
      fun c hc => hw.ids c (mem_of_mem_eraseIdx hc)⟩
  simp only
  rw [hw.numContexts_eq, if_pos (by omega), take_overwrite_eq_eraseIdx hlt]
  cases users.applicationFind context.apid with
  | none => exact herased
  | some a => exact herased.modifyApplication a fun _ => rfl

end

end WellKept

end tables

namespace AllWellKept

variable {daemon daemon' : DltDaemon Buf}

theorem same (h : AllWellKept daemon) (hs : SameAll daemon daemon') : AllWellKept daemon' := by
  intro users' hin
  obtain ⟨l, hl⟩ := mem_iff_getElem?.mp hin
  obtain ⟨users, hu, hsame⟩ := hs.exists_left hl
  exact hsame.wellKept (h users (mem_of_getElem? hu))

theorem modifyUsers (h : AllWellKept daemon) {l : ℕ} {f : DltDaemonRegisteredUsers → DltDaemonRegisteredUsers}
    (hf : ∀ users, daemon.userList[l]? = some users → WellKept (f users)) :
    AllWellKept (daemon.modifyUsers l f) :=
  forall_modifyUsers h hf

theorem setProcess (h : AllWellKept daemon) (ipc : UserIpc) (l i : ℕ) (pid fd : ℤ) (old : DltDaemonApplication) :
    AllWellKept (applicationSetProcess ipc daemon l i pid fd old) :=
  h.same (SameAll.setProcess ipc daemon l i pid fd old)

end AllWellKept

/-! ## Every operation keeps the tables -/

section operations

variable {daemon : DltDaemon Buf}

section

variable (h : AllWellKept daemon)
include h

/-- **Adding an application keeps the tables**, with any id and any memory. -/
theorem wellKept_applicationAddResult (memory : AddMemory) (ipc : UserIpc) (apid : Id4) (pid : ℤ)
    (description : Option (List UInt8)) (fd : ℤ) (ecu : Id4) :
    AllWellKept (applicationAddResult memory ipc daemon apid pid description fd ecu).daemon := by
  unfold applicationAddResult
  split_ifs
  · exact h
  cases hl : dltDaemonFindUsersList daemon ecu with
  | none => exact h
  | some l =>
  cases hu : daemon.userList[l]? with
  | none => simpa only [hu, bind_none] using h
  | some users₀ =>
  cases hmid : users₀.allocateApplications memory.tables with
  | none => simpa only [hu, bind_some, hmid] using h
  | some users =>
  simp only [hu, bind_some, hmid]
  have hw : WellKept users := by
    obtain ⟨room, rfl⟩ := allocateApplications_cases hmid
    exact (h users₀ (mem_of_getElem? hu)).applicationsRoom room
  have hset : ∀ users' : DltDaemonRegisteredUsers, WellKept users' →
      AllWellKept (daemon.modifyUsers l fun _ => users') := fun _ hw' => h.modifyUsers fun _ _ => hw'
  cases users.applicationFind apid with
  | none =>
    cases hadd : users.appendApplication memory.tables apid with
    | none => exact hset users hw
    | some added =>
    have hadded := hw.appendApplication hadd
    simp only
    cases added.applications[added.numApplications - 1]? with
    | none => exact hset users hw
    | some old =>
    simp only
    cases memory.text description with
    | none => exact (hset users hw).modifyUsers fun _ _ => hadded
    | some text =>
      have hprocess : AllWellKept (applicationSetProcess ipc ((daemon.modifyUsers l fun _ => users).modifyUsers l
          fun _ => added.modifyApplication (added.numApplications - 1) fun application =>
            { application with applicationDescription := text }) l (added.numApplications - 1) pid fd old) := by
        apply AllWellKept.setProcess
        exact (hset users hw).modifyUsers fun _ _ => hadded.modifyApplication _ fun _ => rfl
      exact hprocess.modifyUsers fun users' hu' =>
        (hprocess users' (mem_of_getElem? hu')).sortApplications
  | some i =>
    simp only
    have hmodify : ∀ text, AllWellKept ((daemon.modifyUsers l fun _ => users).modifyUsers l
        (·.modifyApplication i fun application => { application with applicationDescription := text })) := by
      intro text
      exact (hset users hw).modifyUsers fun users' hu' =>
        (hset users hw users' (mem_of_getElem? hu')).modifyApplication i fun _ => rfl
    cases users.applications[i]? with
    | none => exact hset users hw
    | some old =>
    simp only
    cases memory.text description with
    | none => exact hmodify none
    | some text => exact (hmodify text).setProcess ipc l i pid fd old

/-- **Adding a context keeps the tables**, with any ids and any memory. -/
theorem wellKept_contextAddResult (memory : AddMemory) (slot : DltDaemonContext) (apid ctid : Id4)
    (logLevel traceStatus logLevelPos userHandle : ℤ) (description : Option (List UInt8)) (ecu : Id4) :
    AllWellKept (contextAddResult memory slot daemon apid ctid logLevel traceStatus logLevelPos userHandle
      description ecu).daemon := by
  unfold contextAddResult
  split_ifs
  · exact h
  · exact h
  · exact h
  cases hl : dltDaemonFindUsersList daemon ecu with
  | none => exact h
  | some l =>
  cases hu : daemon.userList[l]? with
  | none => simpa only [hu, bind_none] using h
  | some users₀ =>
  cases hmid : users₀.allocateContexts memory.tables with
  | none => simpa only [hu, bind_some, hmid] using h
  | some users =>
  simp only [hu, bind_some, hmid]
  have hw : WellKept users := by
    obtain ⟨room, rfl⟩ := allocateContexts_cases hmid
    exact (h users₀ (mem_of_getElem? hu)).contextsRoom room
  have hset : AllWellKept (daemon.modifyUsers l fun _ => users) := h.modifyUsers fun _ _ => hw
  cases users.applicationFind apid with
  | none => exact hset
  | some a =>
  simp only
  cases users.contextFind apid ctid with
  | none =>
    simp only
    cases hadd : users.appendContext memory.tables slot apid ctid a with
    | none => exact hset
    | some added =>
      have hcontext : WellKept (added.modifyContext (added.numContexts - 1) (contextSet
          (daemon.modifyUsers l fun _ => users) ecu true logLevel traceStatus logLevelPos userHandle
          ((memory.text description).getD none))) :=
        (hw.appendContext hadd).modifyContext _ fun _ => rfl
      exact hset.modifyUsers fun _ _ => hcontext.sortContexts
  | some c =>
    exact hset.modifyUsers fun users' hu' =>
      (hset users' (mem_of_getElem? hu')).modifyContext c fun _ => rfl

/-- The loop over the contexts of an application keeps the tables. -/
theorem wellKept_unregisterContexts (l base n : ℕ) : AllWellKept (unregisterContexts daemon l base n) := by
  induction n generalizing daemon with
  | zero => exact h
  | succ n ih =>
    apply ih
    exact h.modifyUsers fun users hu => (h users (mem_of_getElem? hu)).contextDel (base + n)

theorem wellKept_applicationDel (l i : ℕ) : AllWellKept (dltDaemonApplicationDel daemon l i) := by
  unfold dltDaemonApplicationDel
  cases hu : daemon.userList[l]? with
  | none => exact h
  | some users =>
  simp only
  cases hi : users.applications[i]? with
  | none => exact h
  | some application =>
  simp only
  split_ifs
  · have hsame := SameAll.resetUserHandle daemon l i application.userHandle
    refine (h.same hsame).modifyUsers fun users' hu' => ?_
    apply (h.same hsame users' (mem_of_getElem? hu')).applicationDel
    obtain ⟨start, hstart, htables⟩ := hsame.exists_left hu'
    rw [hu, Option.some.injEq] at hstart
    rw [htables.length_applications, ← hstart]
    exact (List.getElem?_eq_some_iff.mp hi).1
  · exact h

theorem wellKept_unregisterApplication (apid : Id4) : AllWellKept (unregisterApplication daemon apid) := by
  unfold unregisterApplication
  cases dltDaemonApplicationFind daemon apid daemon.ecuid with
  | none => exact h
  | some entry =>
  obtain ⟨l, i⟩ := entry
  cases hl : daemon.userList[l]? with
  | none => simpa only [hl] using h
  | some users =>
  cases hi : users.applications[i]? with
  | none => simpa only [hl, hi] using h
  | some application =>
  simp only [hl, hi]
  exact wellKept_applicationDel (wellKept_unregisterContexts h l _ _) l i

theorem wellKept_unregisterContext (apid ctid : Id4) : AllWellKept (unregisterContext daemon apid ctid) := by
  unfold unregisterContext
  cases dltDaemonContextFind daemon apid ctid daemon.ecuid with
  | none => exact h
  | some entry =>
  obtain ⟨l, c⟩ := entry
  simp only
  split
  · split_ifs
    · exact h
    · exact h.modifyUsers fun users hu => (h users (mem_of_getElem? hu)).contextDel c
  · exact h

/-- **Every operation keeps the tables**, with any ids and any memory. -/
theorem wellKept_dbStep (op : DbOp) : AllWellKept (dbStep daemon op) := by
  have happs : ∀ {daemon : DltDaemon Buf} (ecu : Id4), AllWellKept daemon →
      AllWellKept (dltDaemonApplicationsClear daemon ecu) := by
    intro daemon ecu h
    unfold dltDaemonApplicationsClear
    cases dltDaemonFindUsersList daemon ecu with
    | none => exact h
    | some l =>
      refine h.modifyUsers fun users hu => ?_
      have hw := h users (mem_of_getElem? hu)
      exact ⟨rfl, hw.numContexts_eq, fun a ha => (by cases ha), hw.ids⟩
  have hctxs : ∀ {daemon : DltDaemon Buf} (ecu : Id4), AllWellKept daemon →
      AllWellKept (dltDaemonContextsClear daemon ecu) := by
    intro daemon ecu h
    unfold dltDaemonContextsClear
    cases dltDaemonFindUsersList daemon ecu with
    | none => exact h
    | some l =>
      refine h.modifyUsers fun users hu => ?_
      have hw := h users (mem_of_getElem? hu)
      refine ⟨hw.numApplications_eq.trans (length_map _).symm, rfl, fun a ha => ?_, fun c hc => (by cases hc)⟩
      obtain ⟨a', ha', rfl⟩ := mem_map.mp ha
      exact hw.apids a' ha'
  cases op with
  | applicationAdd malloc ipc apid pid description fd ecu =>
    have htext : AddMemory.text ⟨malloc, zeroMalloc⟩ description = some description := by
      cases description <;> rfl
    have hadd := congrArg Prod.fst (applicationAddResult_of_text htext ipc daemon apid pid fd ecu)
    rw [dbStep, ← hadd]
    exact wellKept_applicationAddResult h _ ipc apid pid description fd ecu
  | contextAdd malloc slot apid ctid logLevel traceStatus logLevelPos userHandle description ecu =>
    have htext : (AddMemory.text ⟨malloc, zeroMalloc⟩ description).getD none = description := by
      cases description <;> rfl
    have hadd := congrArg Prod.fst (contextAddResult_eq ⟨malloc, zeroMalloc⟩ slot daemon apid ctid logLevel
      traceStatus logLevelPos userHandle description ecu)
    rw [htext] at hadd
    rw [dbStep, ← hadd]
    exact wellKept_contextAddResult h _ slot apid ctid logLevel traceStatus logLevelPos userHandle description ecu
  | unregisterApplication apid => exact wellKept_unregisterApplication h apid
  | unregisterContext apid ctid => exact wellKept_unregisterContext h apid ctid
  | contextsClear ecu => exact hctxs ecu h
  | clear ecu => exact hctxs ecu (happs ecu h)
  | free ecu => exact happs ecu (hctxs ecu h)

end

end operations

end Dlt.Daemon
