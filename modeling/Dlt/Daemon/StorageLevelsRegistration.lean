import Dlt.Daemon.StorageLevelsTables

/-!
# What registrations do to the storage log levels

* `shrinks_applicationAdd`, `shrinks_unregisterApplication`, `shrinks_unregisterContext` — applications that register
  or unregister, and contexts that unregister, are such steps.
* `registerContext_storage` — a context that registers gets its level, and the other ones keep theirs.
-/

namespace Dlt.Daemon

open Dlt.Lib Dlt.Shared List Option

variable {Buf : Type} {daemon daemon' daemon'' : DltDaemon Buf} {l : ℕ} {users : DltDaemonRegisteredUsers}

/-! ## Steps that only lose contexts -/

/-- The lookups of tables stay the same, and every entry of a table was there before. -/
structure Shrinks (daemon daemon' : DltDaemon Buf) (l : ℕ) : Prop where
  ecuid : daemon'.ecuid = daemon.ecuid
  find : ∀ ecu, dltDaemonFindUsersList daemon' ecu = dltDaemonFindUsersList daemon ecu
  length_eq : daemon'.userList.length = daemon.userList.length
  entries : ∀ (j : ℕ) (entry : (Id4 × Id4) × ℤ), storageAt daemon' l j = some entry →
    ∃ i, storageAt daemon l i = some entry

namespace Shrinks

theorem refl (daemon : DltDaemon Buf) (l : ℕ) : Shrinks daemon daemon l :=
  ⟨rfl, fun _ => rfl, rfl, fun j _ h => ⟨j, h⟩⟩

theorem trans (h : Shrinks daemon daemon' l) (h' : Shrinks daemon' daemon'' l) : Shrinks daemon daemon'' l := by
  refine ⟨h'.ecuid.trans h.ecuid, fun ecu => (h'.find ecu).trans (h.find ecu), h'.length_eq.trans h.length_eq, ?_⟩
  intro j entry hj
  obtain ⟨i, hi⟩ := h'.entries j entry hj
  exact h.entries i entry hi

variable {f : DltDaemonRegisteredUsers → DltDaemonRegisteredUsers}

theorem ofUsers (l' : ℕ)
    (hf : ∀ users, daemon.userList[l']? = some users → (f users).ecu = users.ecu ∧
      ∀ context ∈ (f users).contexts, ∃ old ∈ users.contexts, storageEntry old = storageEntry context) :
    Shrinks daemon (daemon.modifyUsers l' f) l := by
  refine ⟨rfl, ?_, length_modify .., ?_⟩
  · exact findUsersList_congr (modifyUsers_ecus daemon l' fun users hget => (hf users hget).1)
  · intro j entry hj
    obtain ⟨context, hcontext, rfl⟩ := map_eq_some_iff.mp hj
    obtain ⟨users', hget', hj'⟩ := bind_eq_some_iff.mp hcontext
    rw [getElem?_modifyUsers] at hget'
    split_ifs at hget' with hl
    · obtain ⟨users, hget, rfl⟩ := map_eq_some_iff.mp hget'
      obtain ⟨old, hold, hentry⟩ := (hf users (hl ▸ hget)).2 context (mem_of_getElem? hj')
      obtain ⟨i, hi⟩ := mem_iff_getElem?.mp hold
      refine ⟨i, ?_⟩
      rw [storageAt, hget, bind_some, hi, map_some, hentry]
    · refine ⟨j, ?_⟩
      rw [storageAt, hget', bind_some, hj', map_some]

theorem ofContexts (l' : ℕ)
    (hf : ∀ users, daemon.userList[l']? = some users → (f users).ecu = users.ecu ∧
      (f users).contexts = users.contexts) :
    Shrinks daemon (daemon.modifyUsers l' f) l := by
  apply ofUsers l'
  intro users hget
  obtain ⟨hecu, hcontexts⟩ := hf users hget
  refine ⟨hecu, ?_⟩
  intro context hin
  exact ⟨context, hcontexts ▸ hin, rfl⟩

theorem ofMoves (h : Moves daemon daemon' l stay) (hlength : daemon'.userList.length = daemon.userList.length) :
    Shrinks daemon daemon' l := by
  refine ⟨h.ecuid, h.find, hlength, ?_⟩
  intro j entry hj
  refine ⟨j, ?_⟩
  rw [h.storage, map_stay] at hj
  exact hj

theorem resetUserHandle (l' i : ℕ) (handle : ℤ) :
    Shrinks daemon (dltDaemonApplicationResetUserHandle daemon l' i handle) l := by
  refine ofMoves (Moves.resetUserHandle l' i handle) ?_
  unfold dltDaemonApplicationResetUserHandle
  split_ifs
  · rfl
  · cases dltDaemonFindUsersList daemon daemon.ecuid with
    | none => exact length_modify ..
    | some own => exact (length_modify ..).trans (length_modify ..)

theorem setProcess (ipc : UserIpc) (l' i : ℕ) (pid fd : ℤ) (old : DltDaemonApplication) :
    Shrinks daemon (applicationSetProcess ipc daemon l' i pid fd old) l := by
  have hset : ∀ (mid : DltDaemon Buf) (handle : ℤ), Shrinks daemon mid l →
      Shrinks daemon (if handle = dltFdInit ∧ pid ≠ 0 then
        mid.modifyUsers l' fun users =>
          ((users.applicationsInvalidateFd (ipc.userHandle fd pid).1).contextsInvalidateFd
            (ipc.userHandle fd pid).1).modifyApplication i fun application =>
              { application with
                userHandle := (ipc.userHandle fd pid).1
                ownsUserHandle := (ipc.userHandle fd pid).2
                pid }
        else mid) l := by
    intro mid handle hmid
    split_ifs
    · apply hmid.trans
      apply ofUsers l'
      intro users _
      refine ⟨rfl, ?_⟩
      intro context hin
      obtain ⟨entry, hentry, rfl⟩ := mem_map.mp hin
      refine ⟨entry, hentry, ?_⟩
      split_ifs <;> rfl
    · exact hmid
  apply hset
  split_ifs
  · apply (resetUserHandle l' i old.userHandle).trans
    apply ofContexts l'
    exact fun _ _ => ⟨rfl, rfl⟩
  · exact refl daemon l

theorem own (h : Shrinks daemon daemon' l) (hown : Own daemon l users) (hr : AllRegistered daemon') :
    ∃ users', Own daemon' l users' := by
  have hlt : l < daemon'.userList.length := by
    rw [h.length_eq]
    exact (List.getElem?_eq_some_iff.mp hown.get).1
  refine ⟨daemon'.userList[l], hr, ?_, getElem?_eq_getElem hlt⟩
  rw [h.ecuid, h.find]
  exact hown.find

end Shrinks

/-! ## Applications and contexts -/

theorem shrinks_applicationAdd (malloc : Malloc) (ipc : UserIpc) (apid : Id4) (pid : ℤ)
    (description : Option (List UInt8)) (fd : ℤ) (ecu : Id4) :
    Shrinks daemon (dltDaemonApplicationAdd malloc ipc daemon apid pid description fd ecu).1 l := by
  unfold dltDaemonApplicationAdd
  split_ifs
  · exact Shrinks.refl daemon l
  cases dltDaemonFindUsersList daemon ecu with
  | none => exact Shrinks.refl daemon l
  | some l' =>
  dsimp only
  cases hmid : (daemon.userList[l']?).bind (·.allocateApplications malloc) with
  | none => exact Shrinks.refl daemon l
  | some mid =>
  dsimp only
  obtain ⟨users, hget, hallocate⟩ := bind_eq_some_iff.mp hmid
  obtain ⟨-, hcontexts, hecu⟩ := allocateApplications_entries hallocate
  -- the table of the ECU is replaced by one with the same contexts
  have hreplace : ∀ new : DltDaemonRegisteredUsers, new.ecu = mid.ecu → new.contexts = mid.contexts →
      Shrinks daemon (daemon.modifyUsers l' fun _ => new) l := by
    intro new hnew hnewContexts
    apply Shrinks.ofContexts l'
    intro users' hget'
    obtain rfl : users = users' := Option.some.inj (hget.symm.trans hget')
    exact ⟨hnew.trans hecu, hnewContexts.trans hcontexts⟩
  cases mid.applicationFind apid with
  | none =>
    dsimp only
    cases happend : mid.appendApplication malloc apid with
    | none => exact hreplace mid rfl rfl
    | some added =>
      obtain ⟨room, -, hadded⟩ := map_eq_some_iff.mp happend
      have haddedEcu : added.ecu = mid.ecu := by rw [← hadded]
      have haddedContexts : added.contexts = mid.contexts := by rw [← hadded]
      dsimp only
      cases added.applications[added.numApplications - 1]? with
      | none => exact hreplace mid rfl rfl
      | some old =>
        dsimp only
        rw [modifyUsers_modifyUsers]
        have hnew := hreplace (added.modifyApplication (added.numApplications - 1) fun application =>
          { application with applicationDescription := description }) haddedEcu haddedContexts
        apply hnew.trans
        apply (Shrinks.setProcess ipc l' _ pid fd old).trans
        apply Shrinks.ofContexts l'
        exact fun _ _ => ⟨rfl, rfl⟩
  | some i =>
    dsimp only
    cases mid.applications[i]? with
    | none => exact hreplace mid rfl rfl
    | some old =>
      refine (hreplace mid rfl rfl).trans (Shrinks.trans ?_ (Shrinks.setProcess ipc l' i pid fd old))
      apply Shrinks.ofContexts l'
      exact fun _ _ => ⟨rfl, rfl⟩

theorem shrinks_contextDel (l' c : ℕ) : Shrinks daemon (dltDaemonContextDel daemon l' c) l := by
  apply Shrinks.ofUsers l'
  intro users _
  have hkeep : users.ecu = users.ecu ∧
      ∀ context ∈ users.contexts, ∃ old ∈ users.contexts, storageEntry old = storageEntry context :=
    ⟨rfl, fun context hin => ⟨context, hin, rfl⟩⟩
  have hdelete : ∀ context ∈ (overwrite users.contexts c
      ((users.contexts.drop (c + 1)).take (users.numContexts - 1 - c))).take (users.numContexts - 1),
      context ∈ users.contexts := by
    intro context hin
    have hin := mem_of_mem_take hin
    simp only [overwrite, mem_append] at hin
    rcases hin with (hin | hin) | hin
    · exact mem_of_mem_take hin
    · exact mem_of_mem_drop (mem_of_mem_take hin)
    · exact mem_of_mem_drop hin
  unfold DltDaemonRegisteredUsers.contextDel
  cases users.contexts[c]? with
  | none => exact hkeep
  | some context =>
    dsimp only
    split_ifs
    · cases users.applicationFind context.apid with
      | none => exact ⟨rfl, fun context hin => ⟨context, hdelete context hin, rfl⟩⟩
      | some a => exact ⟨rfl, fun context hin => ⟨context, hdelete context hin, rfl⟩⟩
    · exact hkeep

theorem shrinks_unregisterContexts (l' base n : ℕ) :
    Shrinks daemon (unregisterContexts daemon l' base n) l := by
  induction n generalizing daemon with
  | zero => exact Shrinks.refl daemon l
  | succ n ih => exact (shrinks_contextDel l' (base + n)).trans ih

theorem shrinks_applicationDel (l' i : ℕ) : Shrinks daemon (dltDaemonApplicationDel daemon l' i) l := by
  unfold dltDaemonApplicationDel
  cases daemon.userList[l']? with
  | none => exact Shrinks.refl daemon l
  | some users =>
    dsimp only
    cases users.applications[i]? with
    | none => exact Shrinks.refl daemon l
    | some application =>
      dsimp only
      split_ifs
      · apply (Shrinks.resetUserHandle l' i application.userHandle).trans
        apply Shrinks.ofContexts l'
        exact fun _ _ => ⟨rfl, rfl⟩
      · exact Shrinks.refl daemon l

theorem shrinks_unregisterApplication (apid : Id4) : Shrinks daemon (unregisterApplication daemon apid) l := by
  unfold unregisterApplication
  cases dltDaemonApplicationFind daemon apid daemon.ecuid with
  | none => exact Shrinks.refl daemon l
  | some position =>
    obtain ⟨l', i⟩ := position
    dsimp only
    cases daemon.userList[l']? with
    | none => exact Shrinks.refl daemon l
    | some users =>
      dsimp only
      cases users.applications[i]? with
      | none => exact Shrinks.refl daemon l
      | some application => exact (shrinks_unregisterContexts l' _ _).trans (shrinks_applicationDel l' i)

theorem shrinks_unregisterContext (apid ctid : Id4) : Shrinks daemon (unregisterContext daemon apid ctid) l := by
  unfold unregisterContext
  cases dltDaemonContextFind daemon apid ctid daemon.ecuid with
  | none => exact Shrinks.refl daemon l
  | some position =>
    obtain ⟨l', c⟩ := position
    dsimp only
    cases (daemon.userList[l']?).bind fun users => users.contexts[c]? with
    | none => exact Shrinks.refl daemon l
    | some context =>
      dsimp only
      split_ifs
      · exact Shrinks.refl daemon l
      · exact shrinks_contextDel l' c

/-! ## A context that registers -/

/-- The contexts of the own table after a registration: each was there before with the same level, or has the level
of the context that registered. -/
structure Registers (flags : LevelFlags) (apid ctid : Id4) (daemon daemon' : DltDaemon Buf) (l : ℕ)
    (users : DltDaemonRegisteredUsers) : Prop where
  ecuid : daemon'.ecuid = daemon.ecuid
  own : ∃ users', Own daemon' l users' ∧ ∀ context ∈ users'.contexts,
    (∃ old ∈ users.contexts, storageEntry old = storageEntry context) ∨
      storageEntry context = ((apid, dltSetId ctid.bytes), registeredStorageLevel flags apid ctid)

/-- **A context that registers** gets the level that is configured for it. -/
theorem registerContext_storage {s : LevelState Buf} (flags : LevelFlags) (hown : Own s.daemon l users)
    {userctxt : DltUserControlMsgRegisterContext} (hapid : userctxt.apid.Canonical) (malloc : Malloc)
    (slot : DltDaemonContext) (description : List UInt8) (write : WriteOutcome) :
    Registers flags userctxt.apid userctxt.ctid s.daemon
      (registerContext flags malloc slot s userctxt description write).1.daemon l users := by
  have hkeep : Registers flags userctxt.apid userctxt.ctid s.daemon s.daemon l users :=
    ⟨rfl, users, hown, fun context hin => .inl ⟨context, hin, rfl⟩⟩
  unfold registerContext
  dsimp only
  split
  · exact hkeep
  rename_i application _
  split
  · rename_i logLevel traceStatus _ _
    rcases contextAdd_cases malloc hown slot hapid userctxt.ctid logLevel traceStatus
      userctxt.logLevelPos.toInt application.userHandle (some description) with ⟨hnone, hsame⟩ | hadded
    · rw [hnone]
      obtain ⟨users', hsame⟩ := hsame
      refine ⟨?_, users', hsame.own, ?_⟩
      · rw [hsame.frame]
      · intro context hin
        exact .inl ⟨context, hsame.contexts ▸ hin, rfl⟩
    · obtain ⟨users', c, old, hsome, hids, -, -, hadded⟩ := hadded
      rw [hsome]
      dsimp only
      generalize dltDaemonContextAdd malloc slot s.daemon userctxt.apid userctxt.ctid logLevel traceStatus
        userctxt.logLevelPos.toInt application.userHandle (some description) s.daemon.ecuid = added at hadded ⊢
      let set : DltDaemonContext → DltDaemonContext := fun context =>
        { context with storageLogLevel := registeredStorageLevel flags userctxt.apid userctxt.ctid }
      let stored : LevelState Buf := LevelState.modifyContext { s with daemon := added.1 } l c set
      -- the level is stored
      have hstored : Own stored.daemon l (users'.modifyContext c set) ∧
          ∀ context ∈ (users'.modifyContext c set).contexts,
            (∃ old ∈ users.contexts, storageEntry old = storageEntry context) ∨ storageEntry context =
              ((userctxt.apid, dltSetId userctxt.ctid.bytes),
                registeredStorageLevel flags userctxt.apid userctxt.ctid) := by
        refine ⟨hadded.own.modifyUsers (fun users => SameTables.modifyContext users c fun _ => rfl) fun _ => rfl, ?_⟩
        have hreplaces := hadded.replaces.modify_new hadded.own.users_registered.nodup_ids hadded.get
          (f := set) rfl
        intro context hin
        rcases (hreplaces context).mp hin with rfl | ⟨hin, -⟩
        · refine .inr ?_
          exact congrArg (·, registeredStorageLevel flags userctxt.apid userctxt.ctid) hids
        · exact .inl ⟨context, hin, rfl⟩
      have hecuid : stored.daemon.ecuid = s.daemon.ecuid := by
        show added.1.ecuid = _
        rw [hadded.frame]
      have hset : Registers flags userctxt.apid userctxt.ctid s.daemon stored.daemon l users :=
        ⟨hecuid, _, hstored.1, hstored.2⟩
      split_ifs
      · exact hset
      · split
        · exact hset
        · rename_i context _
          split_ifs
          · have hsend := Moves.send (l := l) flags stored context write
            obtain ⟨users'', hown'', -⟩ := hsend.own hstored.1
            refine ⟨hsend.ecuid.trans hecuid, users'', hown'', ?_⟩
            intro entry hin
            obtain ⟨j, hj⟩ := mem_iff_getElem?.mp hin
            have hat : storageAt (dltDaemonUserSendLogLevel flags stored context write).1.daemon l j =
                some (storageEntry entry) := by
              rw [storageAt, hown''.get, bind_some, hj, map_some]
            rw [hsend.storage, map_stay, storageAt, hstored.1.get] at hat
            obtain ⟨before, hbefore, hentry⟩ := map_eq_some_iff.mp hat
            rw [← hentry]
            exact hstored.2 before (mem_of_getElem? hbefore)
          · exact hset
      · exact hset
  · exact hkeep

end Dlt.Daemon
