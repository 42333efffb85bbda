import Dlt.Daemon.RuntimeCfgLoad

/-!
# Registrations over a restart

The registrations are saved by one daemon and loaded by the next one, which starts with empty tables.

* `Persistable` — the tables that survive a restart, and `restart_survives_iff` — **these are the only
  ones**: a description must not be empty, must not contain a colon, and must fit into the buffer
  together with what stands in front of it.
-/

namespace Dlt.Daemon

open Dlt.Lib Dlt.Shared List

variable {Buf : Type}

structure Restarted (Buf : Type) where
  daemon : DltDaemon Buf
  /-- The result of `dlt_daemon_applications_load`. -/
  applications : ℤ
  /-- The result of `dlt_daemon_contexts_load`. -/
  contexts : ℤ

/-- The daemon `saved` saves its registrations and `loaded` loads them. The files that were there
before are `applicationsFile` and `contextsFile`; `slots`, `ll` and `ts` are what memory held. -/
def restart (malloc : Malloc) (ipc : UserIpc) (slots : ℕ → DltDaemonContext) (ll ts : ℤ)
    (saved loaded : DltDaemon Buf) (applicationsFile contextsFile : Option (List UInt8)) :
    Restarted Buf :=
  let applications := dltDaemonApplicationsLoad malloc ipc loaded
    (dltDaemonApplicationsSave saved true applicationsFile).1
  let contexts := dltDaemonContextsLoad malloc slots ll ts applications.1
    (dltDaemonContextsSave saved true contextsFile).1
  ⟨contexts.1, applications.2, contexts.2⟩

/-- Both loads succeed, and the entries are those of `users`. -/
structure Survives (users : DltDaemonRegisteredUsers) (r : Restarted Buf) : Prop where
  applications_ok : r.applications = 0
  contexts_ok : r.contexts = 0
  tables : ∃ users', r.daemon.ownUsers = some users' ∧
    (∀ record, record ∈ users'.applications.map DltDaemonApplication.record ↔
      record ∈ users.applications.map DltDaemonApplication.record) ∧
    ∀ record, record ∈ users'.contexts.map DltDaemonContext.record ↔
      record ∈ users.contexts.map DltDaemonContext.record

/-- The tables that the daemon `loaded` gets back. An empty table is not saved, so that the file that
was there before is loaded: there must be one, and without an entry. -/
structure Persistable (loaded : DltDaemon Buf) (users : DltDaemonRegisteredUsers)
    (applicationsFile contextsFile : Option (List UInt8)) : Prop where
  applications : ∀ a ∈ users.applications, ApplicationPersists a.record
  contexts : ∀ c ∈ users.contexts, ContextPersists loaded c.record
  no_applications : users.applications = [] → ∃ file, applicationsFile = some file ∧
    ∀ line ∈ readLines dltDaemonCommonTextbufsize file, (strtok colon (cText line)).length < 2
  no_contexts : users.contexts = [] → ∃ file, contextsFile = some file ∧
    ∀ line ∈ readLines dltDaemonCommonTextbufsize file, (strtok colon (cText line)).length < 5

/-! ## Saving -/

section saving

variable {saved : DltDaemon Buf} {l : ℕ} {users : DltDaemonRegisteredUsers}
  {file : Option (List UInt8)}

theorem Own.ownUsers_eq (h : Own saved l users) : saved.ownUsers = some users := by
  rw [DltDaemon.ownUsers, h.find, Option.bind_some, h.get]

theorem RoomOk.pos {step num room : ℕ} (h : RoomOk step num room) (hnum : 0 < num) : room ≠ 0 := by
  rcases h.2 with hlt | ⟨hzero, -⟩
  · omega
  · omega

/-- The file of the applications is written when there are any. -/
theorem applicationsSave_eq (h : Own saved l users) :
    (dltDaemonApplicationsSave saved true file).1 =
      if users.applications = [] then file else some (users.applications.flatMap applicationLine) := by
  have hr := h.users_registered
  simp only [dltDaemonApplicationsSave, h.ownUsers_eq]
  by_cases hnil : users.applications = []
  · rw [if_pos hnil, if_neg]
    simp [hr.numApplications_eq, hnil]
  · have hpos : 0 < users.numApplications := by
      rw [hr.numApplications_eq]
      exact length_pos_iff.mpr hnil
    rw [if_neg hnil, if_pos ⟨hr.applications_room.pos hpos, hpos, trivial⟩, hr.numApplications_eq,
      take_length]

theorem contextsSave_eq (h : Own saved l users) :
    (dltDaemonContextsSave saved true file).1 =
      if users.contexts = [] then file else some (users.contexts.flatMap contextLine) := by
  have hr := h.users_registered
  simp only [dltDaemonContextsSave, h.ownUsers_eq]
  by_cases hnil : users.contexts = []
  · rw [if_pos hnil, if_neg]
    simp [hr.numContexts_eq, hnil]
  · have hpos : 0 < users.numContexts := by
      rw [hr.numContexts_eq]
      exact length_pos_iff.mpr hnil
    rw [if_neg hnil, if_pos ⟨hr.contexts_room.pos hpos, hpos, trivial⟩, hr.numContexts_eq,
      take_length]

end saving

/-! ## The next daemon -/

/-- A daemon at its start: no table has an entry, the own ECU has a table, and the default values are
not negative. -/
structure Fresh (daemon : DltDaemon Buf) : Prop where
  empty : ∀ users ∈ daemon.userList, users.Empty
  find : (dltDaemonFindUsersList daemon daemon.ecuid).isSome
  defaults : 0 ≤ daemon.defaultLogLevel ∧ 0 ≤ daemon.defaultTraceStatus

theorem Fresh.own {daemon : DltDaemon Buf} (h : Fresh daemon) :
    ∃ l users, Own daemon l users ∧ users.applications = [] ∧ users.contexts = [] := by
  obtain ⟨l, hl⟩ := Option.isSome_iff_exists.mp h.find
  obtain ⟨hlt, -⟩ := findIdx?_eq_some_iff_getElem.mp hl
  have hget : daemon.userList[l]? = some daemon.userList[l] := getElem?_eq_getElem hlt
  have hempty := h.empty _ (getElem_mem hlt)
  exact ⟨l, _, ⟨(DbReach.start h.empty).allRegistered, hl, hget⟩, hempty.1, hempty.2.2.2.1⟩

section restart

variable {malloc : Malloc} {ipc : UserIpc} {slots : ℕ → DltDaemonContext} {ll ts : ℤ}
  {saved loaded : DltDaemon Buf} {l : ℕ} {users : DltDaemonRegisteredUsers}
  {applicationsFile contextsFile : Option (List UInt8)}

variable {file : Option (List UInt8)}

theorem applicationsLoad_cases (hm : malloc.Succeeds) (hown : Own loaded l users) (hnil : users.applications = [])
    (hret : (dltDaemonApplicationsLoad malloc ipc loaded file).2 = 0) :
    ∃ text users', file = some text ∧
      Own (dltDaemonApplicationsLoad malloc ipc loaded file).1 l users' ∧
      SameSettings loaded (dltDaemonApplicationsLoad malloc ipc loaded file).1 ∧
      users'.contexts = users.contexts ∧
      (∀ a ∈ users'.applications, ApplicationPersists a.record) ∧
      ((∃ line ∈ readLines dltDaemonCommonTextbufsize text,
        2 ≤ (strtok colon (cText line)).length) → users'.applications ≠ []) := by
  cases file with
  | none => exact absurd hret (show ¬ (-1 : ℤ) = 0 by decide)
  | some text =>
    obtain ⟨users', hown', -, hsame, hctxs, hall, hne⟩ := applicationsLoadLines_loaded ipc hown
      (by rw [NoProcesses, hnil]; simp) hm fun line hin => mem_readLines hin
    refine ⟨text, users', rfl, hown', hsame, hctxs, fun a ha => ?_, fun hex => hne (.inl hex)⟩
    rcases hall a ha with hin | hok
    · rw [hnil] at hin
      exact absurd hin not_mem_nil
    · exact hok

theorem contextsLoad_cases (hm : malloc.Succeeds) (hown : Own loaded l users) (hnil : users.contexts = [])
    (hdefaults : 0 ≤ loaded.defaultLogLevel ∧ 0 ≤ loaded.defaultTraceStatus)
    (hret : (dltDaemonContextsLoad malloc slots ll ts loaded file).2 = 0) :
    ∃ text users', file = some text ∧
      Own (dltDaemonContextsLoad malloc slots ll ts loaded file).1 l users' ∧
      users'.applications.map DltDaemonApplication.record =
        users.applications.map DltDaemonApplication.record ∧
      (∀ c ∈ users'.contexts, ContextReadable loaded c.record) ∧
      ((∃ line ∈ readLines dltDaemonCommonTextbufsize text,
        5 ≤ (strtok colon (cText line)).length) → users'.contexts ≠ []) := by
  cases file with
  | none => exact absurd hret (show ¬ (-1 : ℤ) = 0 by decide)
  | some text =>
    obtain ⟨users', hown', happs, hall, hne⟩ := contextsLoadLines_loaded slots
      (s := ⟨loaded, ll, ts⟩) hown hm hdefaults (by rw [hnil]; simp)
      (fun line hin => mem_readLines hin) hret
    exact ⟨text, users', rfl, hown', happs, hall, fun hex => hne (.inl hex)⟩

theorem applicationsLoad_empty
    (h : ∃ text, file = some text ∧ ∀ line ∈ readLines dltDaemonCommonTextbufsize text,
      (strtok colon (cText line)).length < 2) :
    dltDaemonApplicationsLoad malloc ipc loaded file = (loaded, 0) := by
  obtain ⟨text, rfl, hskip⟩ := h
  have hlines := applicationsLoadLines_skip malloc ipc loaded [] hskip
  rw [append_nil] at hlines
  exact hlines

theorem contextsLoad_empty
    (h : ∃ text, file = some text ∧ ∀ line ∈ readLines dltDaemonCommonTextbufsize text,
      (strtok colon (cText line)).length < 5) :
    dltDaemonContextsLoad malloc slots ll ts loaded file = (loaded, 0) := by
  obtain ⟨text, rfl, hskip⟩ := h
  obtain ⟨slots', s', hsame, hlines⟩ := contextsLoadLines_skip malloc ⟨loaded, ll, ts⟩ slots []
    hskip
  rw [append_nil] at hlines
  rw [dltDaemonContextsLoad, hlines, contextsLoadLines, hsame]

/-- **What survives a restart is persistable.** -/
theorem Survives.persistable (hm : malloc.Succeeds) (hsaved : Own saved l users)
    (hbreaks : ∀ c ∈ users.contexts, 10 ∉ c.record.description) (hfresh : Fresh loaded)
    (hsurvives : Survives users
      (restart malloc ipc slots ll ts saved loaded applicationsFile contextsFile)) :
    Persistable loaded users applicationsFile contextsFile := by
  obtain ⟨l', start, hown, happs, hctxs⟩ := hfresh.own
  obtain ⟨happsRet, hctxsRet, final, hget, happsEq, hctxsEq⟩ := hsurvives
  simp only [restart] at happsRet hctxsRet hget
  rw [applicationsSave_eq hsaved] at happsRet hctxsRet hget
  rw [contextsSave_eq hsaved] at hctxsRet hget
  obtain ⟨text, mid, htext, hmid, hsame, hmidCtxs, hmidOk, hmidNe⟩ :=
    applicationsLoad_cases hm hown happs happsRet
  generalize (dltDaemonApplicationsLoad malloc ipc loaded (if users.applications = [] then
    applicationsFile else some (users.applications.flatMap applicationLine))).1 = daemon at *
  have hdefaults : 0 ≤ daemon.defaultLogLevel ∧ 0 ≤ daemon.defaultTraceStatus := by
    have hfields := hfresh.defaults
    rw [SameSettings] at hsame
    rw [hsame]
    exact hfields
  obtain ⟨text', final', htext', hfinal, hfinalApps, hfinalOk, hfinalNe⟩ :=
    contextsLoad_cases hm hmid (hmidCtxs.trans hctxs) hdefaults hctxsRet
  have heq : final' = final := Option.some.inj (hfinal.ownUsers_eq.symm.trans hget)
  subst heq
  rw [hfinalApps] at happsEq
  have hreadable : ∀ c ∈ users.contexts, ContextReadable daemon c.record := by
    intro c hc
    obtain ⟨c', hc', hrecord⟩ :=
      mem_map.mp ((hctxsEq c.record).mpr (mem_map.mpr ⟨c, hc, rfl⟩))
    rw [← hrecord]
    exact hfinalOk c' hc'
  refine ⟨?_, ?_, ?_, ?_⟩
  · intro a ha
    obtain ⟨a', ha', hrecord⟩ :=
      mem_map.mp ((happsEq a.record).mpr (mem_map.mpr ⟨a, ha, rfl⟩))
    rw [← hrecord]
    exact hmidOk a' ha'
  · intro c hc
    refine ⟨(hreadable c hc).sameSettings hsame, ?_⟩
    rw [if_neg (ne_nil_of_mem hc)] at htext'
    -- the description of the context is cut, and it is the same as before
    have hr := hsaved.users_registered
    obtain ⟨-, cut, hcut, hcutEq⟩ := contextsLoad_saved slots (s := ⟨daemon, ll, ts⟩) hmid hm
      (fun x hx => (hr.context_ids hx).1) hbreaks hreadable
      (by
        intro x hx
        obtain ⟨a, ha, hid⟩ := mem_map.mp (hr.context_ids hx).2
        obtain ⟨a', ha', hrecord⟩ :=
          mem_map.mp ((happsEq a.record).mpr (mem_map.mpr ⟨a, ha, rfl⟩))
        exact mem_map.mpr ⟨a', ha', (congrArg Prod.fst hrecord).trans hid⟩)
      hr.nodup_ids (by rw [hmidCtxs, hctxs]; simp)
    rw [if_neg (ne_nil_of_mem hc)] at hfinal
    have huses := hcut.unique hfinal
    subst huses
    rcases (hcutEq c.record).mp ((hctxsEq c.record).mpr (mem_map.mpr ⟨c, hc, rfl⟩)) with
      hin | hin
    · obtain ⟨x, hx, hrecord⟩ := mem_map.mp hin
      have hids : x.ids = c.ids := congrArg ContextRecord.ids hrecord
      have hxc : x = c := inj_on_of_nodup_map hr.nodup_ids hx hc hids
      subst hxc
      have hlen := congrArg (fun r => r.description.length) hrecord
      simp only [ContextRecord.cut, length_take] at hlen
      have hroom := descriptionRoom_front (hreadable x hx)
      omega
    · rw [hmidCtxs, hctxs] at hin
      exact absurd hin not_mem_nil
  · intro hnil
    rw [if_pos hnil] at htext
    refine ⟨text, htext, fun line hin => ?_⟩
    by_contra hge
    obtain ⟨a, ha⟩ := exists_mem_of_ne_nil _ (hmidNe ⟨line, hin, not_lt.mp hge⟩)
    have hmem := (happsEq a.record).mp (mem_map.mpr ⟨a, ha, rfl⟩)
    rw [hnil] at hmem
    exact not_mem_nil hmem
  · intro hnil
    rw [if_pos hnil] at htext'
    refine ⟨text', htext', fun line hin => ?_⟩
    by_contra hge
    obtain ⟨c, hc⟩ := exists_mem_of_ne_nil _ (hfinalNe ⟨line, hin, not_lt.mp hge⟩)
    have hmem := (hctxsEq c.record).mp (mem_map.mpr ⟨c, hc, rfl⟩)
    rw [hnil] at hmem
    exact not_mem_nil hmem

variable (ipc) in
theorem applicationsLoad_persistable (hm : malloc.Succeeds) (hsaved : Own saved l users)
    (hbreaks : ∀ a ∈ users.applications, 10 ∉ a.record.2) {l' : ℕ} {start : DltDaemonRegisteredUsers}
    (hown : Own loaded l' start) (hstart : start.applications = [])
    (hok : Persistable loaded users applicationsFile contextsFile) :
    let load := dltDaemonApplicationsLoad malloc ipc loaded
      (if users.applications = [] then applicationsFile
        else some (users.applications.flatMap applicationLine))
    load.2 = 0 ∧ SameSettings loaded load.1 ∧ ∃ users', Own load.1 l' users' ∧
      users'.contexts = start.contexts ∧
      ∀ record, record ∈ users'.applications.map DltDaemonApplication.record ↔
        record ∈ users.applications.map DltDaemonApplication.record := by
  intro load
  have hr := hsaved.users_registered
  by_cases hnil : users.applications = []
  · have hload : load = (loaded, 0) := by
      simp only [load, if_pos hnil]
      exact applicationsLoad_empty (hok.no_applications hnil)
    rw [hload]
    exact ⟨rfl, .refl loaded, start, hown, rfl, fun record => by rw [hstart, hnil]⟩
  · have hload : load = applicationsLoadLines malloc ipc loaded
        (readLines dltDaemonCommonTextbufsize (users.applications.flatMap applicationLine)) := by
      simp only [load, if_neg hnil, dltDaemonApplicationsLoad]
    have hpid : NoProcesses start := by
      rw [NoProcesses, hstart]
      simp
    obtain ⟨users', hown', hret, hsame, hctxs, -, -⟩ := applicationsLoadLines_loaded ipc hown
      hpid hm fun line hin =>
        mem_readLines (show line ∈ readLines _ (users.applications.flatMap applicationLine) from hin)
    obtain ⟨users'', hown'', hrecords⟩ := applicationsLoad_saved ipc hown hpid hm
      (fun a ha => hr.ok.apps_canonical _ (mem_map.mpr ⟨a, ha, rfl⟩)) hbreaks hok.applications
      hr.nodup_apids
    have heq := hown''.unique hown'
    subst heq
    rw [hload]
    refine ⟨hret, hsame, users'', hown', hctxs, fun record => ?_⟩
    rw [hrecords, hstart]
    simp

/-- **Persistable tables survive a restart.** -/
theorem Persistable.survives (hm : malloc.Succeeds) (hsaved : Own saved l users)
    (hbreaks : ∀ a ∈ users.applications, 10 ∉ a.record.2)
    (hbreaks' : ∀ c ∈ users.contexts, 10 ∉ c.record.description) (hfresh : Fresh loaded)
    (hok : Persistable loaded users applicationsFile contextsFile) :
    Survives users
      (restart malloc ipc slots ll ts saved loaded applicationsFile contextsFile) := by
  obtain ⟨l', start, hown, happs, hctxs⟩ := hfresh.own
  have hr := hsaved.users_registered
  obtain ⟨hret, hsame, mid, hmid, hmidCtxs, happsEq⟩ :=
    applicationsLoad_persistable ipc hm hsaved hbreaks hown happs hok
  unfold restart
  rw [applicationsSave_eq hsaved, contextsSave_eq hsaved]
  generalize dltDaemonApplicationsLoad malloc ipc loaded (if users.applications = [] then
    applicationsFile else some (users.applications.flatMap applicationLine)) = load at *
  by_cases hnil : users.contexts = []
  · simp only [if_pos hnil]
    rw [contextsLoad_empty (hok.no_contexts hnil)]
    refine ⟨hret, rfl, mid, hmid.ownUsers_eq, happsEq, fun record => ?_⟩
    rw [hmidCtxs, hctxs, hnil]
  · simp only [if_neg hnil, dltDaemonContextsLoad]
    have hmidNil : mid.contexts = [] := hmidCtxs.trans hctxs
    obtain ⟨hret', final, hfinal, hfinalEq⟩ := contextsLoad_saved slots
      (s := ⟨load.1, ll, ts⟩) hmid hm (fun x hx => (hr.context_ids hx).1) hbreaks'
      (fun x hx => (hok.contexts x hx).toContextReadable.sameSettings hsame.symm)
      (by
        intro x hx
        obtain ⟨a, ha, hid⟩ := mem_map.mp (hr.context_ids hx).2
        obtain ⟨a', ha', hrecord⟩ :=
          mem_map.mp ((happsEq a.record).mpr (mem_map.mpr ⟨a, ha, rfl⟩))
        exact mem_map.mpr ⟨a', ha', (congrArg Prod.fst hrecord).trans hid⟩)
      hr.nodup_ids (by rw [hmidNil]; simp)
    have hdefaults : 0 ≤ load.1.defaultLogLevel ∧ 0 ≤ load.1.defaultTraceStatus := by
      have hfields := hfresh.defaults
      rw [SameSettings] at hsame
      rw [hsame]
      exact hfields
    obtain ⟨final', hfinal', hfinalApps, -, -⟩ := contextsLoadLines_loaded slots
      (s := ⟨load.1, ll, ts⟩) hmid hm hdefaults (by rw [hmidNil]; simp)
      (fun line hin => mem_readLines hin) hret'
    have heq := hfinal'.unique hfinal
    subst heq
    -- no description is cut
    have hcut : ∀ c ∈ users.contexts, c.record.cut = c.record := by
      intro c hc
      have hpersists := hok.contexts c hc
      have hroom := descriptionRoom_front hpersists.toContextReadable
      have hlen := hpersists.length_le
      rw [ContextRecord.cut, take_of_length_le (by omega)]
    refine ⟨hret, hret', final', hfinal.ownUsers_eq, fun record => ?_, fun record => ?_⟩
    · rw [hfinalApps]
      exact happsEq record
    · rw [hfinalEq, hmidNil, map_congr_left hcut]
      simp

/-- **Persisted registrations survive a restart exactly when the tables are persistable**, whatever
the descriptions without a line break are. -/
theorem restart_survives_iff (hm : malloc.Succeeds) (hsaved : Own saved l users)
    (hbreaks : (∀ a ∈ users.applications, 10 ∉ a.record.2) ∧
      ∀ c ∈ users.contexts, 10 ∉ c.record.description) (hfresh : Fresh loaded) :
    Survives users
        (restart malloc ipc slots ll ts saved loaded applicationsFile contextsFile) ↔
      Persistable loaded users applicationsFile contextsFile :=
  ⟨Survives.persistable hm hsaved hbreaks.2 hfresh,
    Persistable.survives hm hsaved hbreaks.1 hbreaks.2 hfresh⟩

end restart

/-! ## A sample -/

/-- The tables with the application `LOG` and its context `TEST`. -/
def sampleUsers (description : List UInt8) : DltDaemonRegisteredUsers where
  applications := [{
    apid := dltSetId (ascii "LOG"), pid := 17, userHandle := 5, ownsUserHandle := false
    applicationDescription := some description, numContexts := 1 }]
  numApplications := 1
  applicationsRoom := dltDaemonApplAllocSize
  contexts := [{
    apid := dltSetId (ascii "LOG"), ctid := dltSetId (ascii "TEST"), logLevel := 4, traceStatus := -1
    logLevelPos := 0, userHandle := 5, contextDescription := some (ascii "Test context")
    storageLogLevel := -1, predefined := false }]
  numContexts := 1
  contextsRoom := dltDaemonContextAllocSize
  ecu := dltSetId [69, 67, 85, 49]

/-- The daemon with these tables. -/
def sampleDaemon (description : List UInt8) : DltDaemon Unit :=
  { emptyDaemon with userList := [sampleUsers description] }

theorem sampleDaemon_own (description : List UInt8) :
    Own (sampleDaemon description) 0 (sampleUsers description) := by
  refine ⟨fun users hin => ?_, rfl, rfl⟩
  rw [mem_singleton.mp hin]
  refine ⟨⟨pairwise_singleton _ _, pairwise_singleton _ _, ?_, ?_, ?_, ?_⟩, rfl, rfl,
    ⟨show 500 % 500 = 0 by decide, .inl (show 1 < 500 by decide)⟩,
    ⟨show 1000 % 1000 = 0 by decide, .inl (show 1 < 1000 by decide)⟩⟩
  · intro a ha
    rw [mem_singleton.mp ha]
    exact ⟨canonical_dltSetId _, rfl⟩
  · intro c hc
    rw [mem_singleton.mp hc]
    exact ⟨canonical_dltSetId _, rfl⟩
  · intro c hc
    rw [mem_singleton.mp hc]
    exact mem_singleton.mpr rfl
  · intro a ha
    rw [mem_singleton.mp ha]
    rfl

theorem emptyDaemon_fresh : Fresh emptyDaemon := by
  refine ⟨fun users hin => ?_, by decide, by decide, by decide⟩
  rw [mem_singleton.mp hin]
  exact ⟨rfl, rfl, rfl, rfl, rfl, rfl⟩

/-- What memory held where the context is loaded. -/
def sampleSlot : DltDaemonContext where
  apid := dltSetId []
  ctid := dltSetId []
  logLevel := 0
  traceStatus := 0
  logLevelPos := 0
  userHandle := 0
  contextDescription := none
  storageLogLevel := 0
  predefined := false

/-- With the description `Logger`, the registrations survive. -/
theorem restart_survives_sample : Survives (sampleUsers (ascii "Logger"))
    (restart zeroMalloc ⟨true, false, fun _ => -1⟩ (fun _ => sampleSlot) 0 0
      (sampleDaemon (ascii "Logger")) emptyDaemon none none) := by
  refine (restart_survives_iff zeroMalloc_succeeds (sampleDaemon_own _) ⟨?_, ?_⟩
    emptyDaemon_fresh).mpr ⟨?_, ?_, fun hnil => ?_, fun hnil => ?_⟩
  · intro a ha
    rw [mem_singleton.mp ha]
    decide
  · intro c hc
    rw [mem_singleton.mp hc]
    decide
  · intro a ha
    rw [mem_singleton.mp ha]
    exact ⟨by decide, by decide, by decide⟩
  · intro c hc
    rw [mem_singleton.mp hc]
    exact ⟨⟨by decide, by decide, by decide, by decide, by decide, by decide⟩, by decide⟩
  · cases hnil
  · cases hnil

theorem not_restart_survives :
    Own (sampleDaemon []) 0 (sampleUsers []) ∧ Fresh emptyDaemon ∧
      ¬ Survives (sampleUsers []) (restart zeroMalloc ⟨true, false, fun _ => -1⟩ (fun _ => sampleSlot)
        0 0 (sampleDaemon []) emptyDaemon none none) := by
  refine ⟨sampleDaemon_own [], emptyDaemon_fresh, fun hsurvives => ?_⟩
  have hpersistable := hsurvives.persistable zeroMalloc_succeeds (sampleDaemon_own [])
    (by
      intro c hc
      rw [mem_singleton.mp hc]
      decide)
    emptyDaemon_fresh
  exact (hpersistable.applications _ mem_cons_self).description_text.1 rfl

end Dlt.Daemon
