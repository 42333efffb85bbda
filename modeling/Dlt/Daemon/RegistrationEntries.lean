import Dlt.Daemon.RegistrationRuns

/-!
# What adding does to the entries

* `contextAdd_refused`, `contextAdd_accepted` — adding a context is refused and changes no entry, or
  replaces the entry of the context, or adds one. `contextAdd_cases` does not assume that there is
  memory.
-/

namespace Dlt.Daemon

open Dlt.Lib Dlt.Shared List DltDaemonRegisteredUsers DltDaemonContext
open Option (bind_some isSome_iff_exists map_eq_some_iff)

variable {Buf : Type} {daemon : DltDaemon Buf} {l : ℕ} {users users' : DltDaemonRegisteredUsers}
variable {malloc' : Malloc}

/-! ## The tables of the own ECU -/

/-- The tables of the daemon's own ECU. -/
structure Own (daemon : DltDaemon Buf) (l : ℕ) (users : DltDaemonRegisteredUsers) : Prop where
  /-- All tables satisfy the invariant. -/
  registered : AllRegistered daemon
  /-- The ECU has a position. -/
  find : dltDaemonFindUsersList daemon daemon.ecuid = some l
  get : daemon.userList[l]? = some users

namespace Own

section

variable (h : Own daemon l users)
include h

theorem users_registered : Registered users :=
  h.registered users (mem_of_getElem? h.get)

theorem unique (h' : Own daemon l users') : users = users' :=
  Option.some.inj (h.get.symm.trans h'.get)

theorem find_modifyUsers (hecu : users'.ecu = users.ecu) (ecu : Id4) :
    dltDaemonFindUsersList (daemon.modifyUsers l fun _ => users') ecu =
      dltDaemonFindUsersList daemon ecu := by
  have hmodify : daemon.modifyUsers l (fun _ => users') =
      daemon.modifyUsers l fun u => { users' with ecu := u.ecu } := by
    unfold DltDaemon.modifyUsers
    congr 1
    apply ext_getElem?
    intro j
    rw [getElem?_modify, getElem?_modify]
    rcases eq_or_ne l j with rfl | hne
    · rw [h.get]
      simp [← hecu]
    · simp [hne]
  rw [hmodify]
  exact findUsersList_modifyUsers daemon l ecu fun _ => rfl

theorem modify (hecu : users'.ecu = users.ecu) (hr : AllRegistered (daemon.modifyUsers l fun _ => users')) :
    Own (daemon.modifyUsers l fun _ => users') l users' := by
  refine ⟨hr, ?_, ?_⟩
  · rw [h.find_modifyUsers hecu]
    exact h.find
  · rw [getElem?_modifyUsers, if_pos rfl, h.get]
    rfl

end

end Own

section

variable (h : Registered users)
include h

theorem Registered.nodup_apids : (users.applications.map (·.apid)).Nodup := by
  apply List.Nodup.of_map Id4.key
  rw [map_map]
  exact h.applications_sorted.nodup

theorem Registered.nodup_ids : (users.contexts.map ids).Nodup := by
  apply List.Nodup.of_map idsKey
  rw [map_map]
  exact h.contexts_sorted.nodup

theorem Registered.apid_not_mem {apid : Id4} (hcanonical : apid.Canonical)
    (hfind : users.applicationFind apid = none) : apid ∉ users.applications.map (·.apid) := by
  intro hin
  obtain ⟨i, hi⟩ := mem_iff_getElem?.mp hin
  rw [getElem?_map] at hi
  rw [(h.applicationFind_iff hcanonical).mpr hi] at hfind
  cases hfind

theorem Registered.ids_not_mem {apid ctid : Id4} (hapid : apid.Canonical) (hctid : ctid.Canonical)
    (hfind : users.contextFind apid ctid = none) :
    (apid, ctid) ∉ users.contexts.map ids := by
  intro hin
  obtain ⟨c, hc⟩ := mem_iff_getElem?.mp hin
  rw [getElem?_map] at hc
  rw [(h.contextFind_iff hapid hctid).mpr hc] at hfind
  cases hfind

end

theorem allocateApplications_entries {malloc : Malloc}
    (h : users.allocateApplications malloc = some users') :
    users'.applications = users.applications ∧ users'.contexts = users.contexts ∧
      users'.ecu = users.ecu := by
  unfold allocateApplications at h
  split_ifs at h
  · obtain ⟨-, -, rfl⟩ := map_eq_some_iff.mp h
    exact ⟨rfl, rfl, rfl⟩
  · cases h
    exact ⟨rfl, rfl, rfl⟩

theorem allocateContexts_entries {malloc : Malloc}
    (h : users.allocateContexts malloc = some users') :
    users'.applications = users.applications ∧ users'.contexts = users.contexts ∧
      users'.ecu = users.ecu := by
  unfold allocateContexts at h
  split_ifs at h
  · obtain ⟨-, -, rfl⟩ := map_eq_some_iff.mp h
    exact ⟨rfl, rfl, rfl⟩
  · cases h
    exact ⟨rfl, rfl, rfl⟩

/-! ## Applications -/

theorem applicationSetProcess_zero (ipc : UserIpc) (daemon : DltDaemon Buf) (l i : ℕ) (fd : ℤ)
    {old : DltDaemonApplication} (hold : old.pid = 0) :
    applicationSetProcess ipc daemon l i 0 fd old = daemon := by
  simp [applicationSetProcess, hold]

/-- A new application without a process. -/
def predefinedApplication (apid : Id4) (description : Option (List UInt8)) :
    DltDaemonApplication where
  apid
  pid := 0
  userHandle := dltFdInit
  ownsUserHandle := false
  applicationDescription := description
  numContexts := 0

/-- **Adding an application without a process** to a table of such applications. -/
theorem applicationAdd_predefined (h : Own daemon l users)
    (hpid : ∀ a ∈ users.applications, a.pid = 0) {malloc : Malloc} (hm : malloc.Succeeds)
    (ipc : UserIpc) {apid : Id4} (hcanonical : apid.Canonical) (hne : apid.isEmpty = false)
    (description : Option (List UInt8)) (fd : ℤ) :
    let added := dltDaemonApplicationAdd malloc ipc daemon apid 0 description fd daemon.ecuid
    ∃ users' application, Own added.1 l users' ∧ added.2.isSome ∧
      added.1 = { daemon with userList := added.1.userList } ∧
      application.apid = apid ∧ application.applicationDescription = description ∧
      application.pid = 0 ∧
      Replaces (·.apid) application users.applications users'.applications ∧
      users'.contexts = users.contexts := by
  intro added
  have hall : AllRegistered added.1 :=
    allRegistered_applicationAdd h.registered hm ipc hcanonical 0 description fd daemon.ecuid
  obtain ⟨mid, hallocate, hr, hpos, -⟩ := allocateApplications_registered hm h.users_registered
  obtain ⟨hentries, hcontexts, hecu⟩ := allocateApplications_entries hallocate
  have hunfold : added = dltDaemonApplicationAdd .. := rfl
  unfold dltDaemonApplicationAdd at hunfold
  simp only [hne, Bool.false_eq_true, if_false, h.find, h.get, bind_some, hallocate] at hunfold
  cases hfind : mid.applicationFind apid with
  | none =>
    obtain ⟨room, -, happend⟩ := appendApplication_eq hm hr hpos hcanonical
    have hnum := hr.numApplications_eq
    simp only [hfind, happend, Nat.add_sub_cancel, hnum, getElem?_concat_length] at hunfold
    rw [applicationSetProcess_zero ipc _ l _ fd rfl, modifyUsers_modifyUsers,
      modifyUsers_modifyUsers] at hunfold
    have htake : ∀ b : DltDaemonApplication,
        (mid.applications ++ [b]).take (mid.applications.length + 1) = mid.applications ++ [b] :=
      fun b => take_of_length_le (by simp)
    simp only [Function.comp_def, modifyApplication, modify_concat, htake]
      at hunfold
    let new : DltDaemonRegisteredUsers := { mid with
      applications := qsort dltDaemonCmpApid
        (mid.applications ++ [predefinedApplication apid description])
      numApplications := mid.applications.length + 1
      applicationsRoom := room }
    have hown : Own (daemon.modifyUsers l fun _ => new) l new :=
      h.modify hecu (by rw [hunfold] at hall; exact hall)
    have hreplaces : Replaces (·.apid) (predefinedApplication apid description) users.applications
        (qsort dltDaemonCmpApid
          (mid.applications ++ [predefinedApplication apid description])) := by
      rw [← hentries]
      exact .of_perm (hr.apid_not_mem hcanonical hfind) (qsort_perm dltDaemonCmpApid _)
    refine ⟨new, predefinedApplication apid description, by rw [hunfold]; exact hown, ?_,
      by rw [hunfold]; rfl, rfl, rfl, rfl, hreplaces, hcontexts⟩
    rw [hunfold, isSome_iff_exists]
    obtain ⟨i, hi⟩ := mem_iff_getElem?.mp ((hreplaces _).mpr (.inl rfl))
    refine ⟨(l, i), (dltDaemonApplicationFind_iff hown.registered hcanonical _ l i).mpr
      ⟨hown.find, _, _, hown.get, hi, rfl⟩⟩
  | some i =>
    obtain ⟨old, hold, hid⟩ := map_eq_some_iff.mp ((hr.applicationFind_iff hcanonical).mp hfind)
    have hzero : old.pid = 0 := hpid old (hentries ▸ mem_of_getElem? hold)
    simp only [hfind, hold] at hunfold
    rw [applicationSetProcess_zero ipc _ l _ fd hzero, modifyUsers_modifyUsers] at hunfold
    let new := mid.modifyApplication i fun application =>
      { application with applicationDescription := description }
    have hown : Own (daemon.modifyUsers l fun _ => new) l new :=
      h.modify hecu (by rw [hunfold] at hall; exact hall)
    refine ⟨new, { old with applicationDescription := description }, by rw [hunfold]; exact hown,
      by rw [hunfold]; rfl, by rw [hunfold]; rfl, hid, rfl, hzero, ?_, hcontexts⟩
    rw [← hentries]
    exact Replaces.modify (f := fun application =>
      { application with applicationDescription := description }) hr.nodup_apids hold rfl

/-! ## Contexts -/

/-- What `dlt_daemon_context_add` asks of a context: the ids are not empty, the values are in range,
and the application is registered. -/
structure AcceptsContext (users : DltDaemonRegisteredUsers) (apid ctid : Id4)
    (logLevel traceStatus : ℤ) : Prop where
  apid_nonempty : apid.isEmpty = false
  ctid_nonempty : ctid.isEmpty = false
  logLevel_range : dltLogDefault ≤ logLevel ∧ logLevel ≤ dltLogVerbose
  traceStatus_range : dltTraceStatusDefault ≤ traceStatus ∧ traceStatus ≤ dltTraceStatusOn
  application : apid ∈ users.applications.map (·.apid)

/-- No entry changed. -/
structure SameEntries (daemon daemon' : DltDaemon Buf) (l : ℕ)
    (users users' : DltDaemonRegisteredUsers) : Prop where
  own : Own daemon' l users'
  frame : daemon' = { daemon with userList := daemon'.userList }
  contexts : users'.contexts = users.contexts
  applications : users'.applications = users.applications

/-- A context was added: its entry is `context`, at position `c` of the table. -/
structure ContextAdded (daemon daemon' : DltDaemon Buf) (l : ℕ)
    (users users' : DltDaemonRegisteredUsers) (c : ℕ) (context : DltDaemonContext) : Prop where
  own : Own daemon' l users'
  frame : daemon' = { daemon with userList := daemon'.userList }
  get : users'.contexts[c]? = some context
  replaces : Replaces ids context users.contexts users'.contexts
  /-- The applications keep everything but their counters. -/
  applications : users'.applications.map (fun a => { a with numContexts := 0 }) =
    users.applications.map fun a => { a with numContexts := 0 }

/-- A stored value is in range, and does not exceed the default one if it must not. -/
structure StoredOk (force : Bool) (default low high value : ℤ) : Prop where
  range : low ≤ value ∧ value ≤ high
  enforced : force = true → value ≤ default

theorem StoredOk.adapted {force : Bool} {default low high value : ℤ} (hdefault : low ≤ default)
    (hrange : low ≤ value ∧ value ≤ high) :
    StoredOk force default low high (if force = true ∧ value > default then default else value) := by
  refine ⟨?_, fun hforce => ?_⟩
  · split_ifs <;> omega
  · simp only [hforce, true_and]
    split_ifs <;> omega

/-- What is stored of a value: an entry that is there may keep its own. -/
theorem StoredOk.chosen {force loaded new : Bool} {default low high oldValue : ℤ} (hdefault : low ≤ default)
    (hrange : low ≤ value ∧ value ≤ high) (hold : new = false → StoredOk force default low high oldValue) :
    StoredOk force default low high (if (new || !loaded) = true then
      if force = true ∧ value > default then default else value else oldValue) := by
  cases new with
  | true => exact .adapted hdefault hrange
  | false =>
    cases loaded with
    | true => exact hold rfl
    | false => exact .adapted hdefault hrange

section stored

variable (daemon : DltDaemon Buf) {new : Bool} (logLevel traceStatus logLevelPos userHandle : ℤ)
  (description : Option (List UInt8)) {old : DltDaemonContext}

theorem contextSet_logLevel_ok (hdefault : dltLogDefault ≤ daemon.defaultLogLevel)
    (hrange : dltLogDefault ≤ logLevel ∧ logLevel ≤ dltLogVerbose)
    (hold : new = false →
      StoredOk daemon.forceLlTs daemon.defaultLogLevel dltLogDefault dltLogVerbose old.logLevel) :
    StoredOk daemon.forceLlTs daemon.defaultLogLevel dltLogDefault dltLogVerbose
      (contextSet daemon daemon.ecuid new logLevel traceStatus logLevelPos userHandle description
        old).logLevel := by
  have hself : strncmpEq daemon.ecuid daemon.ecuid = true := by simp [strncmpEq]
  simp only [contextSet, hself, Bool.true_and]
  exact .chosen hdefault hrange hold

theorem contextSet_traceStatus_ok (hdefault : dltTraceStatusDefault ≤ daemon.defaultTraceStatus)
    (hrange : dltTraceStatusDefault ≤ traceStatus ∧ traceStatus ≤ dltTraceStatusOn)
    (hold : new = false → StoredOk daemon.forceLlTs daemon.defaultTraceStatus dltTraceStatusDefault
      dltTraceStatusOn old.traceStatus) :
    StoredOk daemon.forceLlTs daemon.defaultTraceStatus dltTraceStatusDefault dltTraceStatusOn
      (contextSet daemon daemon.ecuid new logLevel traceStatus logLevelPos userHandle description
        old).traceStatus := by
  have hself : strncmpEq daemon.ecuid daemon.ecuid = true := by simp [strncmpEq]
  simp only [contextSet, hself, Bool.true_and]
  exact .chosen hdefault hrange hold

end stored

section contexts

variable {apid ctid : Id4} {malloc : Malloc}

theorem Registered.applicationFind_of_mem (h : Registered users) (hcanonical : apid.Canonical)
    (hmem : apid ∈ users.applications.map (·.apid)) : ∃ a, users.applicationFind apid = some a := by
  obtain ⟨a, ha⟩ := mem_iff_getElem?.mp hmem
  rw [getElem?_map] at ha
  exact ⟨a, (h.applicationFind_iff hcanonical).mpr ha⟩

/-- **A context that is not accepted changes no entry.** -/
theorem contextAdd_refused (h : Own daemon l users) (hm : malloc.Succeeds) (slot : DltDaemonContext)
    (hapid : apid.Canonical) {logLevel traceStatus : ℤ}
    (hrefused : ¬ AcceptsContext users apid ctid logLevel traceStatus) (logLevelPos userHandle : ℤ)
    (description : Option (List UInt8)) :
    let added := dltDaemonContextAdd malloc slot daemon apid ctid logLevel traceStatus logLevelPos
      userHandle description daemon.ecuid
    added.2 = none ∧ ∃ users', SameEntries daemon added.1 l users users' := by
  intro added
  have hsame : SameEntries daemon daemon l users users := ⟨h, rfl, rfl, rfl⟩
  have hunfold : added = dltDaemonContextAdd .. := rfl
  unfold dltDaemonContextAdd at hunfold
  split_ifs at hunfold with hempty hlevel htrace
  · exact hunfold ▸ ⟨rfl, users, hsame⟩
  · exact hunfold ▸ ⟨rfl, users, hsame⟩
  · exact hunfold ▸ ⟨rfl, users, hsame⟩
  have hnone : apid ∉ users.applications.map (·.apid) := by
    intro hmem
    refine hrefused ⟨?_, ?_, ?_, ?_, hmem⟩
    · simpa using (not_or.mp hempty).1
    · simpa using (not_or.mp hempty).2
    · omega
    · omega
  obtain ⟨mid, hallocate, hr, -, -⟩ := allocateContexts_registered hm h.users_registered
  obtain ⟨hentries, hcontexts, hecu⟩ := allocateContexts_entries hallocate
  have hfind : mid.applicationFind apid = none := by
    cases hfind : mid.applicationFind apid with
    | none => rfl
    | some a =>
      obtain ⟨x, hx, rfl⟩ := map_eq_some_iff.mp ((hr.applicationFind_iff hapid).mp hfind)
      exact absurd (hentries ▸ mem_map.mpr ⟨x, mem_of_getElem? hx, rfl⟩) hnone
  simp only [h.find, h.get, bind_some, hallocate, hfind] at hunfold
  rw [hunfold]
  exact ⟨rfl, mid, h.modify hecu (h.registered.modifyUsers fun _ _ => hr), rfl, hcontexts, hentries⟩

/-- **A context that is accepted** replaces its entry, or is a new one. -/
theorem contextAdd_accepted (h : Own daemon l users) (hm : malloc.Succeeds)
    (slot : DltDaemonContext) (hapid : apid.Canonical) (hctid : ctid.Canonical)
    {logLevel traceStatus : ℤ} (haccepts : AcceptsContext users apid ctid logLevel traceStatus)
    (logLevelPos userHandle : ℤ) (description : Option (List UInt8)) :
    let added := dltDaemonContextAdd malloc slot daemon apid ctid logLevel traceStatus logLevelPos
      userHandle description daemon.ecuid
    ∃ users' c old, added.2 = some (l, c) ∧ old.ids = (apid, ctid) ∧
      ((apid, ctid) ∈ users.contexts.map ids → old ∈ users.contexts) ∧
      ContextAdded daemon added.1 l users users' c
        (contextSet daemon daemon.ecuid
          (decide ((apid, ctid) ∉ users.contexts.map ids)) logLevel traceStatus
          logLevelPos userHandle description old) := by
  intro added
  have hall : AllRegistered added.1 := allRegistered_contextAdd h.registered hm slot hapid hctid
    logLevel traceStatus logLevelPos userHandle description daemon.ecuid
  obtain ⟨mid, hallocate, hr, hpos, -⟩ := allocateContexts_registered hm h.users_registered
  obtain ⟨hentries, hcontexts, hecu⟩ := allocateContexts_entries hallocate
  obtain ⟨a, hfind⟩ := hr.applicationFind_of_mem hapid (hentries ▸ haccepts.application)
  have hunfold : added = dltDaemonContextAdd .. := rfl
  have hlevel := haccepts.logLevel_range
  have htrace := haccepts.traceStatus_range
  unfold dltDaemonContextAdd at hunfold
  rw [if_neg (by simp [haccepts.apid_nonempty, haccepts.ctid_nonempty]), if_neg (by omega),
    if_neg (by omega)] at hunfold
  simp only [h.find, h.get, bind_some, hallocate, hfind] at hunfold
  cases hctx : mid.contextFind apid ctid with
  | none =>
    obtain ⟨room, -, happend⟩ := appendContext_eq hm hr hpos slot hapid hctid a
    have hnew := hr.ids_not_mem hapid hctid hctx
    let old : DltDaemonContext := { slot with apid, ctid, contextDescription := none }
    let context := contextSet daemon daemon.ecuid true logLevel traceStatus logLevelPos userHandle
      description old
    let sorted := qsort (fun m1 m2 => dltDaemonCmpApidCtid m1.ids m2.ids) (mid.contexts ++ [context])
    have hsorted : sorted = qsort (fun m1 m2 => dltDaemonCmpApidCtid m1.ids m2.ids)
        ((mid.contexts ++ [context]).take (mid.contexts.length + 1)) := by
      rw [take_of_length_le (by simp)]
    let new : DltDaemonRegisteredUsers := { mid with
      numContexts := mid.contexts.length + 1
      contextsRoom := room
      contexts := sorted
      applications := mid.applications.modify a fun application =>
        { application with numContexts := application.numContexts + 1 } }
    simp only [hctx, happend, Nat.add_sub_cancel, hr.numContexts_eq] at hunfold
    rw [modifyUsers_modifyUsers] at hunfold
    simp only [Function.comp_def, modifyContext, modify_concat] at hunfold
    have hadded : added = (daemon.modifyUsers l fun _ => new,
        dltDaemonContextFind (daemon.modifyUsers l fun _ => new) apid ctid daemon.ecuid) := by
      rw [hunfold]
      simp only [new, hsorted]
      rfl
    have hown : Own (daemon.modifyUsers l fun _ => new) l new :=
      h.modify hecu (by rw [hadded] at hall; exact hall)
    have hids : context.ids = (apid, ctid) := rfl
    have hreplaces : Replaces ids context users.contexts new.contexts := by
      rw [← hcontexts]
      exact .of_perm hnew (qsort_perm _ _)
    obtain ⟨c, hc⟩ := mem_iff_getElem?.mp ((hreplaces context).mpr (.inl rfl))
    refine ⟨new, c, old, ?_, rfl, fun hin => absurd (hcontexts ▸ hin) hnew, ?_⟩
    · rw [hadded]
      exact (dltDaemonContextFind_iff hown.registered hapid hctid _ l c).mpr
        ⟨hown.find, _, _, hown.get, hc, hids⟩
    · rw [hadded, decide_eq_true (hcontexts ▸ hnew)]
      refine ⟨hown, rfl, hc, hreplaces, ?_⟩
      rw [← hentries]
      exact map_modify_of_eq fun _ => rfl
  | some c =>
    obtain ⟨old, hold, hid⟩ := map_eq_some_iff.mp ((hr.contextFind_iff hapid hctid).mp hctx)
    have hmem : (apid, ctid) ∈ users.contexts.map ids :=
      hcontexts ▸ mem_map.mpr ⟨old, mem_of_getElem? hold, hid⟩
    let set := contextSet daemon daemon.ecuid false logLevel traceStatus logLevelPos userHandle
      description
    let new := mid.modifyContext c set
    simp only [hctx] at hunfold
    rw [modifyUsers_modifyUsers] at hunfold
    have hadded : added = (daemon.modifyUsers l fun _ => new, some (l, c)) := hunfold
    have hown : Own (daemon.modifyUsers l fun _ => new) l new :=
      h.modify hecu (by rw [hadded] at hall; exact hall)
    refine ⟨new, c, old, by rw [hadded], hid, fun _ => hcontexts ▸ mem_of_getElem? hold, ?_⟩
    rw [hadded, decide_eq_false (not_not.mpr hmem)]
    refine ⟨hown, rfl, ?_, ?_, by rw [← hentries]; rfl⟩
    · simp only [new, modifyContext, getElem?_modify, hold]
      simp [set]
    · rw [← hcontexts]
      exact Replaces.modify (f := set) hr.nodup_ids hold rfl

/-! ## Contexts, with or without memory -/

theorem tableRoom_of_succeeds (hm' : malloc'.Succeeds) {entry step room num : ℕ} {room' : ℕ}
    (h : tableRoom malloc entry step room num = some room') :
    tableRoom malloc' entry step room num = some room' := by
  unfold tableRoom at h ⊢
  split_ifs at h ⊢
  · obtain ⟨-, -, rfl⟩ := map_eq_some_iff.mp h
    obtain ⟨fresh, hfresh⟩ := isSome_iff_exists.mp (hm' (entry * (num / step + 1) * step))
    rw [hfresh]
    rfl
  · exact h

theorem allocateContexts_of_succeeds (hm' : malloc'.Succeeds) (h : users.allocateContexts malloc = some users') :
    users.allocateContexts malloc' = some users' := by
  unfold allocateContexts at h ⊢
  split_ifs at h ⊢
  · obtain ⟨-, -, rfl⟩ := map_eq_some_iff.mp h
    obtain ⟨fresh, hfresh⟩ := isSome_iff_exists.mp
      (hm' (sizeofDltDaemonContext * dltDaemonContextAllocSize))
    rw [hfresh]
    rfl
  · exact h

theorem appendContext_of_succeeds (hm' : malloc'.Succeeds) {slot : DltDaemonContext} {a : ℕ}
    (h : users.appendContext malloc slot apid ctid a = some users') :
    users.appendContext malloc' slot apid ctid a = some users' := by
  unfold appendContext at h ⊢
  obtain ⟨room, hroom, hroom'⟩ := map_eq_some_iff.mp h
  dsimp only
  rw [tableRoom_of_succeeds hm' hroom, ← hroom']
  rfl

variable (malloc) in
/-- When there is no memory, no entry changes; else it does not matter what the memory holds. -/
theorem contextAdd_of_succeeds (h : Own daemon l users) (hm' : malloc'.Succeeds) (slot : DltDaemonContext)
    (apid ctid : Id4) (logLevel traceStatus logLevelPos userHandle : ℤ) (description : Option (List UInt8)) :
    let added := dltDaemonContextAdd malloc slot daemon apid ctid logLevel traceStatus logLevelPos
      userHandle description daemon.ecuid
    added = dltDaemonContextAdd malloc' slot daemon apid ctid logLevel traceStatus logLevelPos
        userHandle description daemon.ecuid ∨
      added.2 = none ∧ ∃ users', SameEntries daemon added.1 l users users' := by
  intro added
  have hunfold : added = dltDaemonContextAdd .. := rfl
  unfold dltDaemonContextAdd at hunfold ⊢
  split_ifs at hunfold ⊢ with hempty hlevel htrace
  · exact .inl hunfold
  · exact .inl hunfold
  · exact .inl hunfold
  simp only [h.find, h.get, bind_some] at hunfold ⊢
  cases hallocate : users.allocateContexts malloc with
  | none =>
    simp only [hallocate] at hunfold
    exact .inr (hunfold ▸ ⟨rfl, users, h, rfl, rfl, rfl⟩)
  | some mid =>
    have hallocate' := allocateContexts_of_succeeds hm' hallocate
    obtain ⟨mid', hmid', hr, -, -⟩ := allocateContexts_registered hm' h.users_registered
    obtain rfl : mid = mid' := Option.some.inj (hallocate'.symm.trans hmid')
    obtain ⟨hentries, hcontexts, hecu⟩ := allocateContexts_entries hallocate
    simp only [hallocate] at hunfold
    simp only [hallocate']
    cases hfind : mid.applicationFind apid with
    | none =>
      rw [hfind] at hunfold
      exact .inl hunfold
    | some a =>
      simp only [hfind] at hunfold
      cases hctx : mid.contextFind apid ctid with
      | some c =>
        simp only [hctx] at hunfold
        exact .inl hunfold
      | none =>
        simp only [hctx] at hunfold
        cases happend : mid.appendContext malloc slot apid ctid a with
        | none =>
          rw [happend] at hunfold
          refine .inr (hunfold ▸ ⟨rfl, mid, ?_, rfl, hcontexts, hentries⟩)
          exact h.modify hecu (h.registered.modifyUsers fun _ _ => hr)
        | some users' =>
          simp only [happend] at hunfold
          simp only [appendContext_of_succeeds hm' happend]
          exact .inl hunfold

theorem contextAdd_dltSetId (malloc : Malloc) (slot : DltDaemonContext) (daemon : DltDaemon Buf)
    (apid ctid : Id4) (logLevel traceStatus logLevelPos userHandle : ℤ)
    (description : Option (List UInt8)) (ecu : Id4) :
    dltDaemonContextAdd malloc slot daemon apid (dltSetId ctid.bytes) logLevel traceStatus logLevelPos
        userHandle description ecu =
      dltDaemonContextAdd malloc slot daemon apid ctid logLevel traceStatus logLevelPos userHandle
        description ecu := by
  have hidem : dltSetId (dltSetId ctid.bytes).bytes = dltSetId ctid.bytes := canonical_dltSetId _
  have hempty : (dltSetId ctid.bytes).isEmpty = ctid.isEmpty := isEmpty_dltSetId ctid
  simp only [dltDaemonContextAdd, dltDaemonContextFind, contextFind,
    appendContext, hidem, hempty]

variable (malloc) in
/-- **Adding a context** changes no entry, or replaces the entry of the context, or adds one. -/
theorem contextAdd_cases (h : Own daemon l users) (slot : DltDaemonContext) (hapid : apid.Canonical)
    (ctid : Id4) (logLevel traceStatus logLevelPos userHandle : ℤ)
    (description : Option (List UInt8)) :
    let added := dltDaemonContextAdd malloc slot daemon apid ctid logLevel traceStatus logLevelPos
      userHandle description daemon.ecuid
    (added.2 = none ∧ ∃ users', SameEntries daemon added.1 l users users') ∨
    ∃ users' c old, added.2 = some (l, c) ∧ old.ids = (apid, dltSetId ctid.bytes) ∧
      apid ∈ users.applications.map (·.apid) ∧
      ((apid, dltSetId ctid.bytes) ∈ users.contexts.map ids → old ∈ users.contexts) ∧
      ContextAdded daemon added.1 l users users' c
        (contextSet daemon daemon.ecuid
          (decide ((apid, dltSetId ctid.bytes) ∉ users.contexts.map ids)) logLevel
          traceStatus logLevelPos userHandle description old) := by
  intro added
  have hadded : added = dltDaemonContextAdd malloc slot daemon apid (dltSetId ctid.bytes) logLevel
      traceStatus logLevelPos userHandle description daemon.ecuid := (contextAdd_dltSetId ..).symm
  rcases contextAdd_of_succeeds malloc h zeroMalloc_succeeds slot apid (dltSetId ctid.bytes) logLevel
    traceStatus logLevelPos userHandle description with heq | hnone
  · rw [hadded, heq]
    by_cases haccepts : AcceptsContext users apid (dltSetId ctid.bytes) logLevel traceStatus
    · obtain ⟨users', c, old, hsome, hids, hold, hcontext⟩ := contextAdd_accepted h zeroMalloc_succeeds
        slot hapid (canonical_dltSetId ctid.bytes) haccepts logLevelPos userHandle description
      exact .inr ⟨users', c, old, hsome, hids, haccepts.application, hold, hcontext⟩
    · exact .inl (contextAdd_refused h zeroMalloc_succeeds slot hapid haccepts logLevelPos userHandle
        description)
  · rw [hadded]
    exact .inl hnone

end contexts

end Dlt.Daemon
