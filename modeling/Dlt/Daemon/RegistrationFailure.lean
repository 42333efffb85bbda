import Dlt.Daemon.RegistrationMemory

/-!
# Failed registrations

A registration that returns the null pointer should leave the tables as they were.

* `failedAdd_leaves_iff` — **a call leaves the tables when it fails exactly when it is `AddCall.Safe`**: an
  application has the memory for its description, and an id with bytes behind its first zero is not the
  greatest one when it is new.
-/

namespace Dlt.Daemon

open Dlt.Lib Dlt.Shared List DltDaemonRegisteredUsers
open Option (bind_eq_bind bind_some map_some)

variable {Buf : Type}
variable {final added : DltDaemonRegisteredUsers}

/-! ## Lookups in sorted tables -/

section lookups

variable {users : DltDaemonRegisteredUsers} {apid ctid : Id4}

/-- A greater application id is registered, or the id has no bytes behind its first zero. -/
def SeenApplication (users : DltDaemonRegisteredUsers) (apid : Id4) : Prop :=
  apid.Canonical ∨ ∃ a ∈ users.applications, (dltSetId apid.bytes).key < a.apid.key

/-- A greater application id has a context, or the id has no bytes behind its first zero. -/
def SeenContexts (users : DltDaemonRegisteredUsers) (apid : Id4) : Prop :=
  apid.Canonical ∨ ∃ c ∈ users.contexts, (dltSetId apid.bytes).key < c.apid.key

/-- In a sorted table that has the id, the id is hidden or seen. -/
theorem seenApplication_iff (hsorted : users.applications.Pairwise fun a b => a.apid.key ≤ b.apid.key)
    (hid : dltSetId apid.bytes ∈ users.applications.map DltDaemonApplication.apid) :
    SeenApplication users apid ↔ ¬ HiddenApplication users apid := by
  obtain ⟨a, ha, hida⟩ := mem_map.mp hid
  obtain ⟨last, hlast⟩ : ∃ last, users.applications.getLast? = some last :=
    ⟨_, getLast?_eq_some_getLast (ne_nil_of_mem ha)⟩
  unfold HiddenApplication SeenApplication
  rw [hlast, map_some, Option.some.injEq, not_and_or, not_not]
  refine or_congr Iff.rfl ⟨?_, fun hne => ⟨last, mem_of_getLast? hlast, ?_⟩⟩
  · rintro ⟨b, hb, hlt⟩ heq
    have hle := key_le_getLast hsorted hb hlast
    rw [heq] at hle
    exact absurd hlt hle.not_gt
  · have hle := key_le_getLast hsorted ha hlast
    rw [hida] at hle
    exact lt_of_le_of_ne hle fun heq => hne (Id4.key_injective heq).symm

/-- **In a sorted table that has the id cut at its first zero, the id is found exactly when it is seen.** -/
theorem applicationFind_isSome_iff (hw : WellKept users)
    (hsorted : users.applications.Pairwise fun a b => a.apid.key ≤ b.apid.key) (hne : apid.isEmpty = false)
    (hid : dltSetId apid.bytes ∈ users.applications.map DltDaemonApplication.apid) :
    (users.applicationFind apid).isSome ↔ SeenApplication users apid := by
  rw [seenApplication_iff hsorted hid]
  refine ⟨fun hsome hhidden => ?_, fun hseen => ?_⟩
  · rw [applicationFind_hidden hw.numApplications_eq hhidden] at hsome
    cases hsome
  obtain ⟨a, ha, hida⟩ := mem_map.mp hid
  have hnil := ne_nil_of_mem ha
  have hlen := length_pos_iff.mpr hnil
  have hfirst : users.applications[0]? = some users.applications[0] := getElem?_eq_getElem hlen
  have hlast : users.applications.getLast? = some (users.applications.getLast hnil) :=
    getLast?_eq_some_getLast hnil
  have hcompares : Compares (fun a : DltDaemonApplication => a.apid.key) (dltSetId apid.bytes).key
      fun application => (dltSetId apid.bytes).cmp application.apid :=
    fun x => ⟨memcmp_neg_iff, memcmp_pos_iff⟩
  unfold applicationFind
  rw [if_neg (by rw [hne, hw.numApplications_eq]; simp [hnil]), hw.numApplications_eq, hfirst,
    ← getLast?_eq_getElem?, hlast]
  simp only
  rw [if_neg]
  · exact bsearch_isSome hsorted hcompares ha (congrArg Id4.key hida)
  rw [outside_iff (hw.apids _ (getElem_mem hlen)) (hw.apids _ (getLast_mem hnil))]
  · rw [not_or]
    constructor
    · rw [memcmp_neg_iff, not_lt, ← hida]
      exact key_head_le hsorted ha hfirst
    · rw [gt_iff_lt, memcmp_pos_iff, not_lt, ← hida]
      exact key_le_getLast hsorted ha hlast
  · by_contra hnot
    rw [not_or, not_not] at hnot
    exact hseen ⟨hnot.1, by rw [hlast, map_some, hnot.2]⟩

theorem apid_key_le {a b : Id4 × Id4} (h : idsKey a ≤ idsKey b) : a.1.key ≤ b.1.key := by
  have ha := a.2.key_lt
  have hb := b.2.key_lt
  unfold idsKey at h
  omega

/-- In a sorted table that has the ids, they are hidden or seen. -/
theorem seenContexts_iff (hsorted : users.contexts.Pairwise fun a b => idsKey a.ids ≤ idsKey b.ids)
    (hid : dltSetId apid.bytes ∈ users.contexts.map DltDaemonContext.apid) :
    SeenContexts users apid ↔ ¬ HiddenContexts users apid := by
  obtain ⟨c, hc, hidc⟩ := mem_map.mp hid
  obtain ⟨last, hlast⟩ : ∃ last, users.contexts.getLast? = some last :=
    ⟨_, getLast?_eq_some_getLast (ne_nil_of_mem hc)⟩
  unfold HiddenContexts SeenContexts
  rw [hlast, map_some, Option.some.injEq, not_and_or, not_not]
  refine or_congr Iff.rfl ⟨?_, fun hne => ⟨last, mem_of_getLast? hlast, ?_⟩⟩
  · rintro ⟨b, hb, hlt⟩ heq
    have hle : b.apid.key ≤ last.apid.key := apid_key_le (key_le_getLast hsorted hb hlast)
    rw [heq] at hle
    exact absurd hlt hle.not_gt
  · have hle : c.apid.key ≤ last.apid.key := apid_key_le (key_le_getLast hsorted hc hlast)
    rw [hidc] at hle
    exact lt_of_le_of_ne hle fun heq => hne (Id4.key_injective heq).symm

/-- **In a sorted table that has the ids cut at their first zeros, they are found exactly when they are seen.** -/
theorem contextFind_isSome_iff (hw : WellKept users)
    (hsorted : users.contexts.Pairwise fun a b => idsKey a.ids ≤ idsKey b.ids) (hapid : apid.isEmpty = false)
    (hctid : ctid.isEmpty = false)
    (hids : (dltSetId apid.bytes, dltSetId ctid.bytes) ∈ users.contexts.map DltDaemonContext.ids) :
    (users.contextFind apid ctid).isSome ↔ SeenContexts users apid := by
  obtain ⟨c, hc, hidc⟩ := mem_map.mp hids
  have hapidc : c.apid = dltSetId apid.bytes := congrArg Prod.fst hidc
  rw [seenContexts_iff hsorted (mem_map.mpr ⟨c, hc, hapidc⟩)]
  refine ⟨fun hsome hhidden => ?_, fun hseen => ?_⟩
  · rw [contextFind_hidden hw.numContexts_eq hhidden] at hsome
    cases hsome
  have hnil := ne_nil_of_mem hc
  have hlen := length_pos_iff.mpr hnil
  have hfirst : users.contexts[0]? = some users.contexts[0] := getElem?_eq_getElem hlen
  have hlast : users.contexts.getLast? = some (users.contexts.getLast hnil) :=
    getLast?_eq_some_getLast hnil
  have hcompares : Compares (fun c : DltDaemonContext => idsKey c.ids)
      (idsKey (dltSetId apid.bytes, dltSetId ctid.bytes))
      fun c => dltDaemonCmpApidCtid (dltSetId apid.bytes, dltSetId ctid.bytes) c.ids :=
    fun c => dltDaemonCmpApidCtid_iff _ _
  unfold contextFind
  rw [if_neg (by rw [hapid, hctid, hw.numContexts_eq]; simp [hnil]), hw.numContexts_eq, hfirst,
    ← getLast?_eq_getElem?, hlast]
  simp only
  rw [if_neg]
  · exact bsearch_isSome hsorted hcompares hc (congrArg idsKey hidc)
  rw [outside_iff (hw.ids _ (getElem_mem hlen)).1 (hw.ids _ (getLast_mem hnil)).1]
  · rw [not_or]
    constructor
    · rw [memcmp_neg_iff, not_lt, ← hapidc]
      exact apid_key_le (key_head_le hsorted hc hfirst)
    · rw [gt_iff_lt, memcmp_pos_iff, not_lt, ← hapidc]
      exact apid_key_le (key_le_getLast hsorted hc hlast)
  · by_contra hnot
    rw [not_or, not_not] at hnot
    exact hseen ⟨hnot.1, by rw [hlast, map_some, hnot.2]⟩

end lookups

/-! ## Calls -/

/-- The tables without the memory that is reserved for them: entries, order, counters and descriptions. -/
def DltDaemonRegisteredUsers.withoutRoom (users : DltDaemonRegisteredUsers) : DltDaemonRegisteredUsers :=
  { users with applicationsRoom := 0, contextsRoom := 0 }

/-- **The tables are as before, and no memory has been released.** -/
structure AddResult.LeavesTables (daemon : DltDaemon Buf) (result : AddResult Buf) : Prop where
  tables_eq : result.daemon.userList.map DltDaemonRegisteredUsers.withoutRoom =
    daemon.userList.map DltDaemonRegisteredUsers.withoutRoom
  freed_eq : result.freed = []

/-- A call of one of the two functions. -/
inductive AddCall
  /-- `dlt_daemon_application_add`. -/
  | application (memory : AddMemory) (ipc : UserIpc) (apid : Id4) (pid : ℤ) (description : Option (List UInt8))
      (fd : ℤ) (ecu : Id4)
  /-- `dlt_daemon_context_add`. -/
  | context (memory : AddMemory) (slot : DltDaemonContext) (apid ctid : Id4)
      (logLevel traceStatus logLevelPos userHandle : ℤ) (description : Option (List UInt8)) (ecu : Id4)

def AddCall.run (daemon : DltDaemon Buf) : AddCall → AddResult Buf
  | .application memory ipc apid pid description fd ecu =>
      applicationAddResult memory ipc daemon apid pid description fd ecu
  | .context memory slot apid ctid logLevel traceStatus logLevelPos userHandle description ecu =>
      contextAddResult memory slot daemon apid ctid logLevel traceStatus logLevelPos userHandle description ecu

/-- The ids and levels of a context are accepted. -/
def ContextArguments (apid ctid : Id4) (logLevel traceStatus : ℤ) : Prop :=
  ¬ (apid.isEmpty = true ∨ ctid.isEmpty = true) ∧ ¬ (logLevel < dltLogDefault ∨ logLevel > dltLogVerbose) ∧
    ¬ (traceStatus < dltTraceStatusDefault ∨ traceStatus > dltTraceStatusOn)

/-- An existing application has the memory for its description. A new one has it too, and it will be seen, unless
there is no memory for one more application. -/
def ApplicationSafe (memory : AddMemory) (users : DltDaemonRegisteredUsers) (apid : Id4)
    (description : Option (List UInt8)) : Prop :=
  ((users.applicationFind apid).isSome → (memory.text description).isSome) ∧
    (users.applicationFind apid = none →
      (tableRoom memory.tables sizeofDltDaemonApplication dltDaemonApplAllocSize users.applicationsRoom
        (users.numApplications + 1)).isSome → (memory.text description).isSome ∧ SeenApplication users apid)

/-- A new context of a registered application will be seen, unless there is no memory for one more context. -/
def ContextSafe (memory : AddMemory) (users : DltDaemonRegisteredUsers) (apid ctid : Id4) : Prop :=
  (users.applicationFind apid).isSome → users.contextFind apid ctid = none →
    (tableRoom memory.tables sizeofDltDaemonContext dltDaemonContextAllocSize users.contextsRoom
      (users.numContexts + 1)).isSome → SeenContexts users apid

/-- The table of an ECU, once it has its first memory. -/
def DltDaemon.allocated (daemon : DltDaemon Buf) (ecu : Id4)
    (allocate : DltDaemonRegisteredUsers → Option DltDaemonRegisteredUsers) : Option DltDaemonRegisteredUsers :=
  (dltDaemonFindUsersList daemon ecu).bind fun l => (daemon.userList[l]?).bind allocate

/-- **The call leaves the tables when it fails**: a condition on its arguments, its memory and the table of the
ECU, once that has its first memory. -/
def AddCall.Safe (daemon : DltDaemon Buf) : AddCall → Prop
  | .application memory _ apid _ description _ ecu =>
      apid.isEmpty = false → ∀ users, daemon.allocated ecu (·.allocateApplications memory.tables) = some users →
        ApplicationSafe memory users apid description
  | .context memory _ apid ctid logLevel traceStatus _ _ _ ecu =>
      ContextArguments apid ctid logLevel traceStatus →
        ∀ users, daemon.allocated ecu (·.allocateContexts memory.tables) = some users →
          ContextSafe memory users apid ctid

/-- The daemons that operations reach from empty tables: with any ids, any memory, and whatever happens to
handles, levels and descriptions in between. A call that releases an application is the end of the run. -/
inductive TableReach : DltDaemon Buf → Prop
  /-- Every table is empty. -/
  | start {daemon : DltDaemon Buf} : (∀ users ∈ daemon.userList, users.Empty) → TableReach daemon
  /-- An operation with memory for the descriptions. -/
  | step {daemon : DltDaemon Buf} (op : DbOp) : TableReach daemon → TableReach (dbStep daemon op)
  /-- A registration with any memory. -/
  | add {daemon : DltDaemon Buf} (call : AddCall) : TableReach daemon →
      (∀ l i, .application l i ∉ (call.run daemon).freed) → TableReach (call.run daemon).daemon
  /-- The rest of the daemon changes. -/
  | other {daemon daemon' : DltDaemon Buf} : TableReach daemon → SameAll daemon daemon' → TableReach daemon'

/-- **Every daemon that is reached has well kept tables.** -/
theorem TableReach.allWellKept {daemon : DltDaemon Buf} (h : TableReach daemon) : AllWellKept daemon := by
  induction h with
  | start hempty =>
    intro users hin
    obtain ⟨happs, hnum, -, hctxs, hnum', -⟩ := hempty users hin
    refine ⟨by rw [hnum, happs]; rfl, by rw [hnum', hctxs]; rfl, fun a ha => ?_, fun c hc => ?_⟩
    · rw [happs] at ha
      cases ha
    · rw [hctxs] at hc
      cases hc
  | step op _ ih => exact wellKept_dbStep ih op
  | add call _ _ ih =>
    cases call with
    | application memory ipc apid pid description fd ecu =>
      exact wellKept_applicationAddResult ih memory ipc apid pid description fd ecu
    | context memory slot apid ctid logLevel traceStatus logLevelPos userHandle description ecu =>
      exact wellKept_contextAddResult ih memory slot apid ctid logLevel traceStatus logLevelPos userHandle
        description ecu
  | other _ hsame ih => exact ih.same hsame

/-! ## What a call does -/

section calls

variable {daemon : DltDaemon Buf} {users₀ users : DltDaemonRegisteredUsers} {memory : AddMemory} {apid ctid ecu : Id4}
  {l : ℕ}

theorem leavesTables_self (daemon : DltDaemon Buf) (entry : Option (ℕ × ℕ)) :
    AddResult.LeavesTables daemon ⟨daemon, entry, []⟩ := ⟨rfl, rfl⟩

theorem leavesTables_modifyUsers (hu : daemon.userList[l]? = some users₀) (h : users.withoutRoom = users₀.withoutRoom)
    (entry : Option (ℕ × ℕ)) : AddResult.LeavesTables daemon ⟨daemon.modifyUsers l fun _ => users, entry, []⟩ := by
  refine ⟨?_, rfl⟩
  apply ext_getElem?
  intro j
  rw [getElem?_map, getElem?_map, getElem?_modifyUsers]
  split_ifs with hlj
  · rw [← hlj, hu, map_some, map_some, map_some, h]
  · rfl

theorem not_leavesTables {result : AddResult Buf} (hu : daemon.userList[l]? = some users₀)
    (hfinal : result.daemon.userList[l]? = some final)
    (hnum : final.numApplications ≠ users₀.numApplications ∨ final.numContexts ≠ users₀.numContexts) :
    ¬ result.LeavesTables daemon := by
  rintro ⟨htables, -⟩
  have hget := congrArg (fun tables : List DltDaemonRegisteredUsers => tables[l]?) htables
  simp only [getElem?_map, hu, hfinal, map_some, Option.some.injEq] at hget
  have happs := congrArg numApplications hget
  have hctxs := congrArg numContexts hget
  rcases hnum with hne | hne
  · exact hne happs
  · exact hne hctxs

/-- The table with the new application, once its process is set. -/
theorem setProcess_table (daemon : DltDaemon Buf) (ipc : UserIpc) (i : ℕ) (pid fd : ℤ) (old : DltDaemonApplication)
    (hu : daemon.userList[l]? = some users) :
    ∃ mid, (applicationSetProcess ipc daemon l i pid fd old).userList[l]? = some mid ∧ SameTables users mid :=
  (SameAll.setProcess ipc daemon l i pid fd old).exists_right hu

/-- A table with one more application, sorted, has the old ids and the new one. -/
theorem sorted_apids {mid : DltDaemonRegisteredUsers} (hw : WellKept users)
    (hadd : users.appendApplication memory.tables apid = some added) {i : ℕ} {text : Option (List UInt8)}
    (hsame : SameTables (added.modifyApplication i fun application =>
      { application with applicationDescription := text }) mid) :
    ((qsort dltDaemonCmpApid (mid.applications.take mid.numApplications)).map DltDaemonApplication.apid).Perm
      (users.applications.map DltDaemonApplication.apid ++ [dltSetId apid.bytes]) := by
  have hkept : WellKept mid := hsame.wellKept ((hw.appendApplication hadd).modifyApplication i fun _ => rfl)
  obtain ⟨room, rfl⟩ := appendApplication_cases hw hadd
  rw [hkept.numApplications_eq, take_length]
  refine ((qsort_perm dltDaemonCmpApid mid.applications).map DltDaemonApplication.apid).trans (.of_eq ?_)
  have hids : ∀ table : DltDaemonRegisteredUsers,
      table.applications.map DltDaemonApplication.apid = table.registry.apps.map Prod.fst := by
    intro table
    simp only [registry, map_map]
    rfl
  rw [hids, hsame.registry_eq, ← hids]
  refine (map_modify_of_eq ?_).trans ?_
  · exact fun _ => rfl
  · rw [map_append]
    rfl

/-- A table with the new application and the old ones shows it exactly when it is seen among the old ones. -/
theorem seenApplication_of_perm (hperm : (final.applications.map DltDaemonApplication.apid).Perm
      (users.applications.map DltDaemonApplication.apid ++ [dltSetId apid.bytes])) :
    SeenApplication final apid ↔ SeenApplication users apid := by
  have hexists : ∀ table : DltDaemonRegisteredUsers,
      (∃ a ∈ table.applications, (dltSetId apid.bytes).key < a.apid.key) ↔
        ∃ id ∈ table.applications.map DltDaemonApplication.apid, (dltSetId apid.bytes).key < id.key := by
    intro table
    simp only [mem_map, exists_exists_and_eq_and]
  refine or_congr Iff.rfl ?_
  rw [hexists, hexists]
  constructor
  · rintro ⟨id, hid, hlt⟩
    rcases mem_append.mp (hperm.subset hid) with hold | hnew
    · exact ⟨id, hold, hlt⟩
    · rw [mem_singleton.mp hnew] at hlt
      exact absurd hlt (lt_irrefl _)
  · rintro ⟨id, hid, hlt⟩
    exact ⟨id, hperm.symm.subset (mem_append_left _ hid), hlt⟩

theorem seenContexts_of_perm (hperm : (final.contexts.map DltDaemonContext.ids).Perm
      (users.contexts.map DltDaemonContext.ids ++ [(dltSetId apid.bytes, dltSetId ctid.bytes)])) :
    SeenContexts final apid ↔ SeenContexts users apid := by
  have hexists : ∀ table : DltDaemonRegisteredUsers,
      (∃ c ∈ table.contexts, (dltSetId apid.bytes).key < c.apid.key) ↔
        ∃ ids ∈ table.contexts.map DltDaemonContext.ids, (dltSetId apid.bytes).key < ids.1.key := by
    intro table
    simp only [mem_map, exists_exists_and_eq_and, DltDaemonContext.ids]
  refine or_congr Iff.rfl ?_
  rw [hexists, hexists]
  constructor
  · rintro ⟨ids, hids, hlt⟩
    rcases mem_append.mp (hperm.subset hids) with hold | hnew
    · exact ⟨ids, hold, hlt⟩
    · rw [mem_singleton.mp hnew] at hlt
      exact absurd hlt (lt_irrefl _)
  · rintro ⟨ids, hids, hlt⟩
    exact ⟨ids, hperm.symm.subset (mem_append_left _ hids), hlt⟩

theorem applicationFind_lt (hw : WellKept users) {i : ℕ} (hfind : users.applicationFind apid = some i) :
    i < users.applications.length := by
  unfold applicationFind at hfind
  rw [hw.numApplications_eq] at hfind
  split_ifs at hfind
  cases hfirst : users.applications[0]? with
  | none => simp only [hfirst, reduceCtorEq] at hfind
  | some first =>
  cases hlast : users.applications[users.applications.length - 1]? with
  | none => simp only [hfirst, hlast, reduceCtorEq] at hfind
  | some last =>
  simp only [hfirst, hlast] at hfind
  split_ifs at hfind
  exact bsearchLoop_lt _ _ hfind

section

variable (hl : dltDaemonFindUsersList daemon ecu = some l)
include hl

/-- The lookup in all tables is the one in the table of the ECU. -/
theorem dltDaemonApplicationFind_isSome (hu : daemon.userList[l]? = some users) :
    (dltDaemonApplicationFind daemon apid ecu).isSome = (users.applicationFind apid).isSome := by
  simp only [dltDaemonApplicationFind, hl, hu, bind_eq_bind, bind_some]
  cases users.applicationFind apid <;> rfl

theorem dltDaemonContextFind_isSome (hu : daemon.userList[l]? = some users) :
    (dltDaemonContextFind daemon apid ctid ecu).isSome = (users.contextFind apid ctid).isSome := by
  simp only [dltDaemonContextFind, hl, hu, bind_eq_bind, bind_some]
  cases users.contextFind apid ctid <;> rfl

/-- Which table an ECU has is the same when its table is replaced by one of the same ECU. -/
theorem findUsersList_replace (hu : daemon.userList[l]? = some users₀) (hecu : users.ecu = users₀.ecu) :
    dltDaemonFindUsersList (daemon.modifyUsers l fun _ => users) ecu = some l := by
  rw [findUsersList_congr (modifyUsers_ecus daemon l fun old hold => ?_), hl]
  rw [hu, Option.some.injEq] at hold
  rw [← hold]
  exact hecu

/-- **A new application is found exactly when it is seen.** The table of the ECU has one entry more. -/
theorem newApplication_found (hu : daemon.userList[l]? = some users₀)
    (hmid : users₀.allocateApplications memory.tables = some users) (hw : WellKept users)
    (hne : apid.isEmpty = false) (hadd : users.appendApplication memory.tables apid = some added) (ipc : UserIpc)
    (pid fd : ℤ) (old : DltDaemonApplication) (text : Option (List UInt8)) (daemon' : DltDaemon Buf)
    (hdaemon' : daemon' = (applicationSetProcess ipc ((daemon.modifyUsers l fun _ => users).modifyUsers l fun _ =>
      added.modifyApplication (added.numApplications - 1) fun application =>
        { application with applicationDescription := text }) l (added.numApplications - 1) pid fd old).modifyUsers l
      fun users => { users with
        applications := qsort dltDaemonCmpApid (users.applications.take users.numApplications) }) :
    ((dltDaemonApplicationFind daemon' apid ecu).isSome ↔ SeenApplication users apid) ∧
      ∃ final, daemon'.userList[l]? = some final ∧ final.numApplications = users₀.numApplications + 1 := by
  obtain ⟨room, hentries⟩ := allocateApplications_cases hmid
  obtain ⟨mid, hmidget, hsame⟩ := setProcess_table ((daemon.modifyUsers l fun _ => users).modifyUsers l fun _ =>
      added.modifyApplication (added.numApplications - 1) fun application =>
        { application with applicationDescription := text }) ipc (added.numApplications - 1) pid fd old
    (l := l) (by rw [getElem?_modifyUsers, if_pos rfl, getElem?_modifyUsers, if_pos rfl, hu, map_some,
      map_some])
  have hperm := sorted_apids hw hadd hsame
  have hkept : WellKept mid := hsame.wellKept ((hw.appendApplication hadd).modifyApplication _ fun _ => rfl)
  have hget : daemon'.userList[l]? = some { mid with
      applications := qsort dltDaemonCmpApid (mid.applications.take mid.numApplications) } := by
    rw [hdaemon', getElem?_modifyUsers, if_pos rfl, hmidget, map_some]
  obtain ⟨room', hadded⟩ := appendApplication_cases hw hadd
  have hl' : dltDaemonFindUsersList daemon' ecu = some l := by
    rw [hdaemon', findUsersList_modifyUsers _ _ _ (by exact fun _ => rfl),
      findUsersList_congr (applicationSetProcess_ecus ..), modifyUsers_modifyUsers]
    apply findUsersList_replace hl hu
    rw [hadded, hentries]
  constructor
  · have hseen : SeenApplication { mid with
        applications := qsort dltDaemonCmpApid (mid.applications.take mid.numApplications) } apid ↔
        SeenApplication users apid := seenApplication_of_perm hperm
    rw [dltDaemonApplicationFind_isSome hl' hget, ← hseen]
    apply applicationFind_isSome_iff hkept.sortApplications
    · exact pairwise_qsort dltDaemonCmpApid_nonpos_iff _
    · exact hne
    · exact hperm.symm.subset (mem_append_right _ (mem_singleton_self _))
  · refine ⟨_, hget, hsame.numApplications_eq.trans ?_⟩
    rw [hadded, hentries]
    rfl

end

variable {allocate : DltDaemonRegisteredUsers → Option DltDaemonRegisteredUsers}

/-- Without the table of the ECU or its first memory nothing happens. -/
theorem allocated_eq_none (h : daemon.allocated ecu allocate = none)
    (hl : dltDaemonFindUsersList daemon ecu = some l) :
    (daemon.userList[l]?).bind allocate = none := by
  rwa [DltDaemon.allocated, hl, bind_some] at h

theorem allocated_eq_some (h : daemon.allocated ecu allocate = some users) :
    ∃ l users₀, dltDaemonFindUsersList daemon ecu = some l ∧ daemon.userList[l]? = some users₀ ∧
      allocate users₀ = some users := by
  obtain ⟨l, hl, hbind⟩ := Option.bind_eq_some_iff.mp h
  obtain ⟨users₀, hu, hmid⟩ := Option.bind_eq_some_iff.mp hbind
  exact ⟨l, users₀, hl, hu, hmid⟩

/-- **Adding an application leaves the tables when it fails**, exactly when it is safe. -/
theorem applicationAdd_leaves_iff (h : AllWellKept daemon) (memory : AddMemory) (ipc : UserIpc) (apid : Id4) (pid : ℤ)
    (description : Option (List UInt8)) (fd : ℤ) (ecu : Id4) :
    ((applicationAddResult memory ipc daemon apid pid description fd ecu).entry = none →
        (applicationAddResult memory ipc daemon apid pid description fd ecu).LeavesTables daemon) ↔
      (AddCall.application memory ipc apid pid description fd ecu).Safe daemon := by
  simp only [AddCall.Safe]
  by_cases hne : apid.isEmpty = true
  · refine iff_of_true (fun _ => ?_) (fun hfalse => absurd hfalse (by simp [hne]))
    rw [applicationAddResult, if_pos hne]
    exact leavesTables_self daemon none
  rw [Bool.not_eq_true] at hne
  have hnot : ¬ apid.isEmpty = true := by simp [hne]
  simp only [applicationAddResult, if_neg hnot]
  cases htable : daemon.allocated ecu (·.allocateApplications memory.tables) with
  | none =>
    refine iff_of_true (fun _ => ?_) (fun _ users hsome => by cases hsome)
    cases hl : dltDaemonFindUsersList daemon ecu with
    | none => exact leavesTables_self daemon none
    | some l =>
      simp only [allocated_eq_none htable hl]
      exact leavesTables_self daemon none
  | some users =>
  obtain ⟨l, users₀, hl, hu, hmid⟩ := allocated_eq_some htable
  simp only [hne, Option.some.injEq, forall_eq', true_implies]
  obtain ⟨room, hentries⟩ := allocateApplications_cases hmid
  have hw : WellKept users := by
    rw [hentries]
    exact (h users₀ (mem_of_getElem? hu)).applicationsRoom room
  have hsame : users.withoutRoom = users₀.withoutRoom := by
    rw [hentries]
    rfl
  unfold ApplicationSafe
  cases hfind : users.applicationFind apid with
  | none =>
    cases hadd : users.appendApplication memory.tables apid with
    | none =>
      have hroom := Option.map_eq_none_iff.mp hadd
      refine iff_of_true (fun _ => ?_) ⟨fun hfound => (by cases hfound), fun _ hsome => ?_⟩
      · simp only [hl, hu, bind_some, hmid, hfind, hadd]
        exact leavesTables_modifyUsers hu hsame none
      · rw [hroom] at hsome
        cases hsome
    | some added =>
    obtain ⟨room', hroom', -⟩ := Option.map_eq_some_iff.mp hadd
    obtain ⟨room'', hadded⟩ := appendApplication_cases hw hadd
    have hold : added.applications[added.numApplications - 1]? = some (newApplication apid) := by
      rw [hadded, Nat.add_sub_cancel, hw.numApplications_eq, getElem?_concat_length]
    cases htext : memory.text description with
    | none =>
      refine iff_of_false (fun hleaves => ?_) (fun hs => ?_)
      · simp only [hl, hu, bind_some, hmid, hfind, hadd, hold] at hleaves
        have hfreed := (hleaves trivial).freed_eq
        simp at hfreed
      · have hsome := (hs.2 rfl (by rw [hroom']; rfl)).1
        cases hsome
    | some text =>
      obtain ⟨hfound, final, hfinal, hnum⟩ := newApplication_found hl hu hmid hw hne hadd ipc pid fd
        (newApplication apid) text _ rfl
      simp only [hl, hu, bind_some, hmid, hfind, hadd, hold]
      refine ⟨fun hleaves => ⟨fun hfalse => (by cases hfalse), fun _ _ => ⟨rfl, ?_⟩⟩, fun hs hnone => ?_⟩
      · rw [← hfound]
        by_contra hmissing
        refine not_leavesTables hu hfinal (.inl ?_) (hleaves (Option.not_isSome_iff_eq_none.mp hmissing))
        omega
      · have hseen := (hs.2 trivial (by rw [hroom']; rfl)).2
        rw [← hfound, hnone] at hseen
        cases hseen
  | some i =>
    obtain ⟨old, hi⟩ : ∃ old, users.applications[i]? = some old :=
      ⟨_, getElem?_eq_getElem (applicationFind_lt hw hfind)⟩
    cases htext : memory.text description with
    | none =>
      refine iff_of_false (fun hleaves => ?_) (fun hs => ?_)
      · simp only [hl, hu, bind_some, hmid, hfind, hi] at hleaves
        have hfreed := (hleaves trivial).freed_eq
        simp at hfreed
      · have hsome := hs.1 rfl
        cases hsome
    | some text =>
      refine iff_of_true (fun hnone => ?_) ⟨fun _ => rfl, fun hfalse => (by cases hfalse)⟩
      simp only [hl, hu, bind_some, hmid, hfind, hi] at hnone
      cases hnone

/-- **A new context is found exactly when it is seen.** The table of the ECU has one entry more. -/
theorem newContext_found (hl : dltDaemonFindUsersList daemon ecu = some l)
    (hu : daemon.userList[l]? = some users₀) (hmid : users₀.allocateContexts memory.tables = some users)
    (hw : WellKept users) (hapid : apid.isEmpty = false) (hctid : ctid.isEmpty = false) {slot : DltDaemonContext}
    {a : ℕ} (hadd : users.appendContext memory.tables slot apid ctid a = some added)
    {f : DltDaemonContext → DltDaemonContext} (hf : ∀ c, (f c).ids = c.ids) (daemon' : DltDaemon Buf)
    (hdaemon' : daemon' = (daemon.modifyUsers l fun _ => users).modifyUsers l fun _ =>
      { added.modifyContext (added.numContexts - 1) f with
        contexts := qsort (fun m1 m2 => dltDaemonCmpApidCtid m1.ids m2.ids)
          ((added.modifyContext (added.numContexts - 1) f).contexts.take
            (added.modifyContext (added.numContexts - 1) f).numContexts) }) :
    ((dltDaemonContextFind daemon' apid ctid ecu).isSome ↔ SeenContexts users apid) ∧
      ∃ final, daemon'.userList[l]? = some final ∧ final.numContexts = users₀.numContexts + 1 := by
  obtain ⟨room, hentries⟩ := allocateContexts_cases hmid
  obtain ⟨room', hadded⟩ := appendContext_cases hw hadd
  have hkept : WellKept (added.modifyContext (added.numContexts - 1) f) :=
    (hw.appendContext hadd).modifyContext _ hf
  have hget : daemon'.userList[l]? = some { added.modifyContext (added.numContexts - 1) f with
      contexts := qsort (fun m1 m2 => dltDaemonCmpApidCtid m1.ids m2.ids)
        ((added.modifyContext (added.numContexts - 1) f).contexts.take
          (added.modifyContext (added.numContexts - 1) f).numContexts) } := by
    rw [hdaemon', getElem?_modifyUsers, if_pos rfl, getElem?_modifyUsers, if_pos rfl, hu, map_some,
      map_some]
  have hl' : dltDaemonFindUsersList daemon' ecu = some l := by
    rw [hdaemon', modifyUsers_modifyUsers]
    apply findUsersList_replace hl hu
    simp only [modifyContext, hadded, hentries]
  have hperm : ((qsort (fun m1 m2 => dltDaemonCmpApidCtid m1.ids m2.ids)
      ((added.modifyContext (added.numContexts - 1) f).contexts.take
        (added.modifyContext (added.numContexts - 1) f).numContexts)).map DltDaemonContext.ids).Perm
      (users.contexts.map DltDaemonContext.ids ++ [(dltSetId apid.bytes, dltSetId ctid.bytes)]) := by
    rw [hkept.numContexts_eq, take_length]
    refine ((qsort_perm _ _).map DltDaemonContext.ids).trans (.of_eq ?_)
    refine (map_modify_of_eq hf).trans ?_
    rw [hadded, map_append]
    rfl
  have hcmp : ∀ m1 m2 : DltDaemonContext, dltDaemonCmpApidCtid m1.ids m2.ids ≤ 0 ↔
      idsKey m1.ids ≤ idsKey m2.ids := by
    intro m1 m2
    rw [← not_lt, (dltDaemonCmpApidCtid_iff _ _).2, not_lt]
  constructor
  · rw [dltDaemonContextFind_isSome hl' hget, contextFind_isSome_iff hkept.sortContexts (pairwise_qsort hcmp _) hapid
      hctid (hperm.symm.subset (mem_append_right _ (mem_singleton_self _)))]
    exact seenContexts_of_perm hperm
  · refine ⟨_, hget, ?_⟩
    simp only [modifyContext, hadded, hentries]

/-- **Adding a context leaves the tables when it fails**, exactly when it is safe. -/
theorem contextAdd_leaves_iff (h : AllWellKept daemon) (memory : AddMemory) (slot : DltDaemonContext)
    (apid ctid : Id4) (logLevel traceStatus logLevelPos userHandle : ℤ) (description : Option (List UInt8))
    (ecu : Id4) :
    ((contextAddResult memory slot daemon apid ctid logLevel traceStatus logLevelPos userHandle description
        ecu).entry = none →
      (contextAddResult memory slot daemon apid ctid logLevel traceStatus logLevelPos userHandle description
        ecu).LeavesTables daemon) ↔
      (AddCall.context memory slot apid ctid logLevel traceStatus logLevelPos userHandle description ecu).Safe
        daemon := by
  simp only [AddCall.Safe]
  by_cases hargs : ContextArguments apid ctid logLevel traceStatus
  swap
  · refine iff_of_true (fun _ => ?_) (fun haccepted => absurd haccepted hargs)
    unfold contextAddResult
    split_ifs with hids hlevel hstatus
    · exact leavesTables_self daemon none
    · exact leavesTables_self daemon none
    · exact leavesTables_self daemon none
    · exact absurd ⟨hids, hlevel, hstatus⟩ hargs
  obtain ⟨hids, hlevel, hstatus⟩ := id hargs
  obtain ⟨hapid, hctid⟩ := not_or.mp hids
  simp only [contextAddResult, if_neg hids, if_neg hlevel, if_neg hstatus]
  cases htable : daemon.allocated ecu (·.allocateContexts memory.tables) with
  | none =>
    refine iff_of_true (fun _ => ?_) (fun _ users hsome => by cases hsome)
    cases hl : dltDaemonFindUsersList daemon ecu with
    | none => exact leavesTables_self daemon none
    | some l =>
      simp only [allocated_eq_none htable hl]
      exact leavesTables_self daemon none
  | some users =>
  obtain ⟨l, users₀, hl, hu, hmid⟩ := allocated_eq_some htable
  simp only [hargs, Option.some.injEq, forall_eq', true_implies]
  obtain ⟨room, hentries⟩ := allocateContexts_cases hmid
  have hw : WellKept users := by
    rw [hentries]
    exact (h users₀ (mem_of_getElem? hu)).contextsRoom room
  have hsame : users.withoutRoom = users₀.withoutRoom := by
    rw [hentries]
    rfl
  unfold ContextSafe
  cases happ : users.applicationFind apid with
  | none =>
    refine iff_of_true (fun _ => ?_) (fun hfalse => by cases hfalse)
    simp only [hl, hu, bind_some, hmid, happ]
    exact leavesTables_modifyUsers hu hsame none
  | some a =>
  cases hfind : users.contextFind apid ctid with
  | some c =>
    refine iff_of_true (fun hnone => ?_) (fun _ hfalse => by cases hfalse)
    simp only [hl, hu, bind_some, hmid, happ, hfind] at hnone
    cases hnone
  | none =>
  cases hadd : users.appendContext memory.tables slot apid ctid a with
  | none =>
    have hroom := Option.map_eq_none_iff.mp hadd
    refine iff_of_true (fun _ => ?_) (fun _ _ hsome => ?_)
    · simp only [hl, hu, bind_some, hmid, happ, hfind, hadd]
      exact leavesTables_modifyUsers hu hsame none
    · rw [hroom] at hsome
      cases hsome
  | some added =>
  obtain ⟨room', hroom', -⟩ := Option.map_eq_some_iff.mp hadd
  obtain ⟨hfound, final, hfinal, hnum⟩ := newContext_found hl hu hmid hw (Bool.not_eq_true _ ▸ hapid)
    (Bool.not_eq_true _ ▸ hctid) hadd (f := contextSet (daemon.modifyUsers l fun _ => users) ecu true logLevel
      traceStatus logLevelPos userHandle ((memory.text description).getD none)) (fun _ => rfl) _ rfl
  simp only [hl, hu, bind_some, hmid, happ, hfind, hadd]
  refine ⟨fun hleaves _ _ _ => ?_, fun hs hnone => ?_⟩
  · rw [← hfound]
    by_contra hmissing
    refine not_leavesTables hu hfinal (.inr ?_) (hleaves (Option.not_isSome_iff_eq_none.mp hmissing))
    omega
  · have hseen := hs rfl trivial (by rw [hroom']; rfl)
    rw [← hfound, hnone] at hseen
    cases hseen

/-- **A registration leaves the tables when it fails exactly when it is safe**, in every daemon that is reached. -/
theorem failedAdd_leaves_iff (h : TableReach daemon) (call : AddCall) :
    ((call.run daemon).entry = none → (call.run daemon).LeavesTables daemon) ↔ call.Safe daemon := by
  have hw := h.allWellKept
  cases call with
  | application memory ipc apid pid description fd ecu =>
    exact applicationAdd_leaves_iff hw memory ipc apid pid description fd ecu
  | context memory slot apid ctid logLevel traceStatus logLevelPos userHandle description ecu =>
    exact contextAdd_leaves_iff hw memory slot apid ctid logLevel traceStatus logLevelPos userHandle description ecu

end calls

/-- An application registers with a description of one byte. -/
def describedAdd (memory : AddMemory) (letter : UInt8) : AddCall :=
  .application memory ⟨true, false, fun _ => -1⟩ (dltSetId [76, 79, 71]) 17 (some [letter]) 5
    (dltSetId [69, 67, 85, 49])

/-- There is no memory for descriptions. -/
def noTexts : AddMemory := ⟨zeroMalloc, fun _ => none⟩

/-- The daemon with one application that has a description. -/
def describedDaemon : DltDaemon Unit := ((describedAdd ⟨zeroMalloc, zeroMalloc⟩ 65).run emptyDaemon).daemon

theorem describedDaemon_reached : TableReach describedDaemon := by
  apply TableReach.add _ (.start emptyDaemon_empty)
  intro l i hin
  have hfreed : ((describedAdd ⟨zeroMalloc, zeroMalloc⟩ 65).run emptyDaemon).freed = [] := by decide +kernel
  rw [hfreed] at hin
  cases hin

/-- With the memory for its new description the registration of that application is safe. -/
theorem failedAdd_leaves_iff_sample :
    (((describedAdd ⟨zeroMalloc, zeroMalloc⟩ 66).run describedDaemon).entry = none →
        ((describedAdd ⟨zeroMalloc, zeroMalloc⟩ 66).run describedDaemon).LeavesTables describedDaemon) ↔
      (describedAdd ⟨zeroMalloc, zeroMalloc⟩ 66).Safe describedDaemon :=
  failedAdd_leaves_iff describedDaemon_reached _

/-- Registered again without memory for its description, the application loses the description it had, and its
entry is freed in the table. -/
theorem failed_registration_frees_application :
    TableReach describedDaemon ∧ ((describedAdd noTexts 66).run describedDaemon).entry = none ∧
      ((describedAdd noTexts 66).run describedDaemon).freed = [.description 0 0, .application 0 0] ∧
      ¬ ((describedAdd noTexts 66).run describedDaemon).LeavesTables describedDaemon := by
  have hfreed : ((describedAdd noTexts 66).run describedDaemon).freed = [.description 0 0, .application 0 0] := by
    decide +kernel
  refine ⟨describedDaemon_reached, by decide +kernel, hfreed, fun hleaves => ?_⟩
  rw [hleaves.freed_eq] at hfreed
  cases hfreed

end Dlt.Daemon
