import Dlt.Daemon.RegistrationInvariant

/-!
# The registration tables after any history

* `registration_tables` — **what holds of the tables after any history.**
-/

namespace Dlt.Daemon

open Dlt.Lib Dlt.Shared List DltDaemonRegisteredUsers
open Option (bind_some map_eq_some_iff map_some)

variable {Buf : Type} {daemon daemon' daemon'' : DltDaemon Buf}
variable {f : DltDaemonRegisteredUsers → DltDaemonRegisteredUsers} {l i : ℕ} {users : DltDaemonRegisteredUsers}
   {apid : Id4} {application : DltDaemonApplication}

/-! ## All tables -/

/-- The tables of every ECU satisfy the invariant. -/
def AllRegistered (daemon : DltDaemon Buf) : Prop := ∀ users ∈ daemon.userList, Registered users

/-- The tables of two daemons stand for the same registries. -/
def SameAll (daemon daemon' : DltDaemon Buf) : Prop :=
  ∀ l : ℕ, Option.Rel SameTables daemon.userList[l]? daemon'.userList[l]?

theorem getElem?_modifyUsers (daemon : DltDaemon Buf) (l j : ℕ)
    (f : DltDaemonRegisteredUsers → DltDaemonRegisteredUsers) :
    (daemon.modifyUsers l f).userList[j]? =
      if l = j then (daemon.userList[j]?).map f else daemon.userList[j]? := by
  simp only [DltDaemon.modifyUsers, getElem?_modify]
  split_ifs <;> simp

/-- What holds of all tables still holds of them when one of them changes. -/
theorem forall_modifyUsers {p : DltDaemonRegisteredUsers → Prop} (h : ∀ users ∈ daemon.userList, p users)
    (hf : ∀ users, daemon.userList[l]? = some users → p (f users)) :
    ∀ users ∈ (daemon.modifyUsers l f).userList, p users := by
  intro users' hin
  obtain ⟨j, hj⟩ := mem_iff_getElem?.mp hin
  rw [getElem?_modifyUsers] at hj
  split_ifs at hj with hlj
  · obtain ⟨users, hu, rfl⟩ := map_eq_some_iff.mp hj
    exact hf users (hlj ▸ hu)
  · exact h users' (mem_of_getElem? hj)

/-- The ECU ids stay the same when that of the table that changes does. -/
theorem modifyUsers_ecus (daemon : DltDaemon Buf) (l : ℕ)
    (hf : ∀ users, daemon.userList[l]? = some users → (f users).ecu = users.ecu) :
    (daemon.modifyUsers l f).userList.map DltDaemonRegisteredUsers.ecu =
      daemon.userList.map DltDaemonRegisteredUsers.ecu := by
  apply ext_getElem?
  intro j
  rw [getElem?_map, getElem?_map, getElem?_modifyUsers]
  split_ifs with hl
  · cases hj : daemon.userList[j]? with
    | none => rfl
    | some users => exact congrArg some (hf users (hl ▸ hj))
  · rfl

theorem findUsersList_congr (h : daemon'.userList.map DltDaemonRegisteredUsers.ecu =
    daemon.userList.map DltDaemonRegisteredUsers.ecu) (ecu : Id4) :
    dltDaemonFindUsersList daemon' ecu = dltDaemonFindUsersList daemon ecu := by
  have hfind : ∀ userList : List DltDaemonRegisteredUsers,
      userList.findIdx? (fun users => strncmpEq ecu users.ecu) =
        (userList.map DltDaemonRegisteredUsers.ecu).findIdx? (strncmpEq ecu) := by
    intro userList
    rw [findIdx?_map]
    rfl
  rw [dltDaemonFindUsersList, dltDaemonFindUsersList, hfind, hfind, h]

theorem modifyUsers_modifyUsers (daemon : DltDaemon Buf) (l : ℕ)
    (f g : DltDaemonRegisteredUsers → DltDaemonRegisteredUsers) :
    (daemon.modifyUsers l f).modifyUsers l g = daemon.modifyUsers l (g ∘ f) := by
  simp only [DltDaemon.modifyUsers, modify_modify_eq]

namespace SameAll

theorem refl (daemon : DltDaemon Buf) : SameAll daemon daemon := by
  intro l
  cases daemon.userList[l]? with
  | none => exact .none
  | some users => exact .some (SameTables.refl users)

theorem trans (h : SameAll daemon daemon') (h' : SameAll daemon' daemon'') :
    SameAll daemon daemon'' := by
  intro l
  have hl := h l
  have hl' := h' l
  generalize daemon.userList[l]? = first at hl ⊢
  generalize daemon'.userList[l]? = mid at hl hl'
  generalize daemon''.userList[l]? = last at hl' ⊢
  cases hl with
  | none => exact hl'
  | some hs =>
    cases hl' with
    | some hs' => exact .some (hs.trans hs')

theorem modifyUsers (daemon : DltDaemon Buf) (l : ℕ) (hf : ∀ users, SameTables users (f users)) :
    SameAll daemon (daemon.modifyUsers l f) := by
  intro j
  rw [getElem?_modifyUsers]
  cases daemon.userList[j]? with
  | none => split_ifs <;> exact .none
  | some users =>
    split_ifs
    · exact .some (hf users)
    · exact .some (SameTables.refl users)

theorem exists_left (h : SameAll daemon daemon') {users' : DltDaemonRegisteredUsers}
    (hl : daemon'.userList[l]? = some users') :
    ∃ users, daemon.userList[l]? = some users ∧ SameTables users users' := by
  have hrel := h l
  rw [hl] at hrel
  generalize daemon.userList[l]? = entry at hrel ⊢
  cases hrel with
  | some hs => exact ⟨_, rfl, hs⟩

theorem resetUserHandle (daemon : DltDaemon Buf) (l i : ℕ) (handle : ℤ) :
    SameAll daemon (dltDaemonApplicationResetUserHandle daemon l i handle) := by
  unfold dltDaemonApplicationResetUserHandle
  split_ifs with hinit
  · exact refl daemon
  · refine trans ?_ (modifyUsers _ l fun users => ?_)
    · split
      · exact modifyUsers _ _ fun users => SameTables.contextsInvalidateFd users handle
      · exact refl daemon
    · exact SameTables.modifyApplication users i fun a => ⟨rfl, rfl⟩

theorem setProcess (ipc : UserIpc) (daemon : DltDaemon Buf) (l i : ℕ) (pid fd : ℤ)
    (old : DltDaemonApplication) :
    SameAll daemon (applicationSetProcess ipc daemon l i pid fd old) := by
  have hset : ∀ (mid : DltDaemon Buf) (handle : ℤ), SameAll daemon mid →
      SameAll daemon (if handle = dltFdInit ∧ pid ≠ 0 then
        mid.modifyUsers l fun users =>
          ((users.applicationsInvalidateFd (ipc.userHandle fd pid).1).contextsInvalidateFd
            (ipc.userHandle fd pid).1).modifyApplication i fun application =>
              { application with
                userHandle := (ipc.userHandle fd pid).1
                ownsUserHandle := (ipc.userHandle fd pid).2
                pid }
        else mid) := by
    intro mid handle hmid
    split_ifs
    · refine trans hmid (modifyUsers _ l fun users => ?_)
      exact (SameTables.applicationsInvalidateFd users _).trans
        ((SameTables.contextsInvalidateFd _ _).trans
          (SameTables.modifyApplication _ i fun a => ⟨rfl, rfl⟩))
    · exact hmid
  apply hset
  split_ifs
  · exact trans (resetUserHandle daemon l i old.userHandle)
      (modifyUsers _ l fun users => SameTables.modifyApplication users i fun a => ⟨rfl, rfl⟩)
  · exact refl daemon

end SameAll

namespace AllRegistered

theorem same (h : AllRegistered daemon) (hs : SameAll daemon daemon') : AllRegistered daemon' := by
  intro users' hin
  obtain ⟨l, hl⟩ := mem_iff_getElem?.mp hin
  obtain ⟨users, hu, hsame⟩ := hs.exists_left hl
  exact hsame.registered (h users (mem_of_getElem? hu))

theorem modifyUsers (h : AllRegistered daemon)
    (hf : ∀ users, daemon.userList[l]? = some users → Registered (f users)) :
    AllRegistered (daemon.modifyUsers l f) :=
  forall_modifyUsers h hf

/-- One table is replaced, handles change, and the table changes once more. In between it need not
satisfy the invariant. -/
theorem replaceUsers (h : AllRegistered daemon) (hs : SameAll (daemon.modifyUsers l fun _ => users) daemon')
    (hf : ∀ users', SameTables users users' → Registered (f users')) :
    AllRegistered (daemon'.modifyUsers l f) := by
  intro users' hin
  obtain ⟨j, hj⟩ := mem_iff_getElem?.mp hin
  rw [getElem?_modifyUsers] at hj
  split_ifs at hj with hlj
  · obtain ⟨mid, hmid, rfl⟩ := map_eq_some_iff.mp hj
    obtain ⟨start, hstart, hsame⟩ := hs.exists_left hmid
    rw [getElem?_modifyUsers, if_pos hlj] at hstart
    obtain ⟨-, -, rfl⟩ := map_eq_some_iff.mp hstart
    exact hf mid hsame
  · obtain ⟨start, hstart, hsame⟩ := hs.exists_left hj
    rw [getElem?_modifyUsers, if_neg hlj] at hstart
    exact hsame.registered (h start (mem_of_getElem? hstart))

end AllRegistered

/-! ## Adding -/

/-- **Adding an application keeps the invariant.** -/
theorem allRegistered_applicationAdd (h : AllRegistered daemon) {malloc : Malloc} (hm : malloc.Succeeds)
    (ipc : UserIpc) (hcanonical : apid.Canonical) (pid : ℤ) (description : Option (List UInt8)) (fd : ℤ)
    (ecu : Id4) :
    AllRegistered (dltDaemonApplicationAdd malloc ipc daemon apid pid description fd ecu).1 := by
  unfold dltDaemonApplicationAdd
  split_ifs with hempty
  · exact h
  have hne : apid.isEmpty = false := by simpa using hempty
  cases hl : dltDaemonFindUsersList daemon ecu with
  | none => exact h
  | some l =>
  cases hu : daemon.userList[l]? with
  | none => simpa [hu] using h
  | some users₀ =>
  obtain ⟨users, hallocate, hr, hpos, -⟩ :=
    allocateApplications_registered hm (h users₀ (mem_of_getElem? hu))
  simp only [hu, bind_some, hallocate]
  cases hfind : users.applicationFind apid with
  | none =>
    obtain ⟨room, hroom, happend⟩ := appendApplication_eq hm hr hpos hcanonical
    have hnum := hr.numApplications_eq
    simp only [happend, Nat.add_sub_cancel, hnum, getElem?_concat_length]
    rw [modifyUsers_modifyUsers]
    refine h.replaceUsers (SameAll.setProcess _ _ _ _ _ _ _) fun users' hsame => ?_
    have hctxs := congrArg Registry.ctxs hsame.registry_eq
    have happs := congrArg Registry.apps hsame.registry_eq
    apply sortApplications_registered hr hcanonical hne hfind
    · rw [happs]
      simp [registry, map_modify_of_eq]
    · exact hctxs
    · rw [hsame.numApplications_eq]
      simp only [hnum]
    · exact hsame.numContexts_eq
    · rw [hsame.numApplications_eq, hsame.applicationsRoom_eq]
      simp only [← hnum]
      exact hroom
    · exact hsame.contextsRoom_eq
  | some i =>
    have hsome := (hr.applicationFind_iff hcanonical).mp hfind
    obtain ⟨old, hold, -⟩ := map_eq_some_iff.mp hsome
    simp only [hold]
    have hadd : AllRegistered (daemon.modifyUsers l fun _ => users) :=
      h.modifyUsers fun _ _ => hr
    refine AllRegistered.same ?_ (SameAll.setProcess _ _ _ _ _ _ _)
    refine hadd.same (SameAll.modifyUsers _ l fun users => ?_)
    exact SameTables.modifyApplication users i fun _ => ⟨rfl, rfl⟩

/-- **Adding a context keeps the invariant.** -/
theorem allRegistered_contextAdd (h : AllRegistered daemon) {malloc : Malloc} (hm : malloc.Succeeds)
    (slot : DltDaemonContext) {ctid : Id4} (hapid : apid.Canonical) (hctid : ctid.Canonical)
    (logLevel traceStatus logLevelPos userHandle : ℤ) (description : Option (List UInt8)) (ecu : Id4) :
    AllRegistered (dltDaemonContextAdd malloc slot daemon apid ctid logLevel traceStatus logLevelPos
      userHandle description ecu).1 := by
  unfold dltDaemonContextAdd
  split_ifs with hempty hlevel htrace
  · exact h
  · exact h
  · exact h
  have hne : apid.isEmpty = false ∧ ctid.isEmpty = false := by simpa using hempty
  cases hl : dltDaemonFindUsersList daemon ecu with
  | none => exact h
  | some l =>
  cases hu : daemon.userList[l]? with
  | none => simpa [hu] using h
  | some users₀ =>
  obtain ⟨users, hallocate, hr, hpos, -⟩ :=
    allocateContexts_registered hm (h users₀ (mem_of_getElem? hu))
  simp only [hu, bind_some, hallocate]
  have hadd : AllRegistered (daemon.modifyUsers l fun _ => users) := h.modifyUsers fun _ _ => hr
  cases hfind : users.applicationFind apid with
  | none => exact hadd
  | some a =>
  simp only
  cases hctx : users.contextFind apid ctid with
  | none =>
    obtain ⟨room, hroom, happend⟩ := appendContext_eq hm hr hpos slot hapid hctid a
    simp only [happend]
    rw [modifyUsers_modifyUsers]
    refine h.modifyUsers fun _ _ => ?_
    apply sortContexts_registered hr hapid hctid hne.2 hfind hctx
    · exact map_modify fun _ => rfl
    · simp only [registry, modifyContext]
      refine (map_modify_of_eq ?_).trans ?_
      · exact fun _ => rfl
      · rw [map_append]
        rfl
    · rfl
    · rfl
    · rfl
    · exact hroom
  | some c =>
    exact hadd.same (SameAll.modifyUsers _ l fun users =>
      SameTables.modifyContext users c fun _ => rfl)

/-! ## Deleting -/

/-- The application at a position and the sum of the counters before it. -/
theorem registry_getElem? (hi : users.applications[i]? = some application) :
    users.registry.apps[i]? = some (application.apid, application.numContexts) ∧
      ((users.registry.apps.take i).map Prod.snd).sum =
        ((users.applications.take i).map DltDaemonApplication.numContexts).sum := by
  simp only [registry, getElem?_map, hi, map_some, true_and,
    ← map_take, map_map]
  rfl

/-- The last context of an application stands at the end of its slice. -/
theorem Registered.last_context (h : Registered users) {n : ℕ} (hi : users.applications[i]? = some application)
    (hn : application.numContexts = n + 1) :
    ∃ context, users.contexts[((users.applications.take i).map
      DltDaemonApplication.numContexts).sum.toNat + n]? = some context ∧
        context.apid = application.apid := by
  obtain ⟨happ, hsum⟩ := registry_getElem? hi
  have hslice := Registry.Ok.slice users.contexts h.ok rfl happ
  have hcount := h.ok.count_eq _ (mem_of_getElem? happ)
  rw [show users.registry.ctxs = users.contexts.map DltDaemonContext.ids from rfl, countP_map,
    countP_eq_length_filter] at hcount
  simp only [hn] at hslice hcount
  rw [hsum, show ((n : ℤ) + 1).toNat = n + 1 by omega] at hslice
  have hlen : n < (users.contexts.filter fun c => c.ids.1 = application.apid).length := by
    simp only [Function.comp_def] at hcount
    omega
  obtain ⟨context, hcontext⟩ :
      ∃ context, (users.contexts.filter fun c => c.ids.1 = application.apid)[n]? = some context :=
    ⟨_, getElem?_eq_getElem hlen⟩
  have hid := (mem_filter.mp (mem_of_getElem? hcontext)).2
  rw [← hslice, getElem?_take_of_lt (Nat.lt_succ_self n), getElem?_drop] at hcontext
  exact ⟨context, hcontext, of_decide_eq_true hid⟩

section

variable (h : AllRegistered daemon)
include h

/-- **The loop deletes the contexts of the application** and keeps the invariant. -/
theorem allRegistered_unregisterContexts {n : ℕ} {base : ℕ} (hl : daemon.userList[l]? = some users)
    (hi : users.applications[i]? = some application) (hid : application.apid = apid)
    (hn : application.numContexts = n)
    (hbase : ((users.applications.take i).map DltDaemonApplication.numContexts).sum.toNat = base) :
    AllRegistered (unregisterContexts daemon l base n) ∧
      ∃ users', (unregisterContexts daemon l base n).userList[l]? = some users' ∧
        users'.registry.apps[i]? = some (apid, 0) := by
  induction n generalizing daemon users application with
  | zero =>
    refine ⟨h, users, hl, ?_⟩
    rw [(registry_getElem? hi).1, hid, hn]
    rfl
  | succ n ih =>
    have hr := h users (mem_of_getElem? hl)
    obtain ⟨context, hcontext, hctx⟩ := hr.last_context hi (by exact_mod_cast hn)
    rw [hbase] at hcontext
    obtain ⟨hdel, happs⟩ := contextDel_registered hr hcontext hi hctx.symm
    have hstep : AllRegistered (dltDaemonContextDel daemon l (base + n)) := by
      refine h.modifyUsers fun users' hl' => ?_
      rw [hl, Option.some.injEq] at hl'
      exact hl' ▸ hdel
    have hl' : (dltDaemonContextDel daemon l (base + n)).userList[l]? =
        some (users.contextDel (base + n)) := by
      rw [dltDaemonContextDel, getElem?_modifyUsers, if_pos rfl, hl, map_some]
    have hi' : (users.contextDel (base + n)).applications[i]? =
        some { application with numContexts := n } := by
      rw [happs, getElem?_modify, hi]
      simp [hn]
    refine ih hstep hl' hi' hid rfl ?_
    rw [happs, take_modify]
    exact hbase

/-- **Unregistering an application keeps the invariant.** -/
theorem allRegistered_unregisterApplication (apid : Id4) :
    AllRegistered (unregisterApplication daemon apid) := by
  unfold unregisterApplication
  cases hfind : dltDaemonApplicationFind daemon apid daemon.ecuid with
  | none => exact h
  | some entry =>
  obtain ⟨l, i⟩ := entry
  cases hl : daemon.userList[l]? with
  | none => simpa [hl] using h
  | some users =>
  cases hi : users.applications[i]? with
  | none => simpa [hl, hi] using h
  | some application =>
  simp only [hl, hi]
  have hr := h users (mem_of_getElem? hl)
  have hcount := hr.ok.count_eq _ (mem_of_getElem? (registry_getElem? hi).1)
  simp only at hcount
  obtain ⟨hall, users', hl', hzero⟩ := allRegistered_unregisterContexts
    (n := application.numContexts.toNat) h hl hi rfl (by omega) rfl
  generalize unregisterContexts daemon l _ application.numContexts.toNat = daemon' at hall hl' ⊢
  unfold dltDaemonApplicationDel
  rw [hl']
  simp only
  cases hi' : users'.applications[i]? with
  | none => exact hall
  | some application' =>
  simp only
  split_ifs with hpos
  · have hsame := SameAll.resetUserHandle daemon' l i application'.userHandle
    refine (hall.same hsame).modifyUsers fun users'' hl'' => ?_
    obtain ⟨start, hstart, htables⟩ := hsame.exists_left hl''
    rw [hl', Option.some.injEq] at hstart
    subst hstart
    apply applicationDel_registered (htables.registered (hall _ (mem_of_getElem? hl')))
    rw [htables.registry_eq]
    exact hzero
  · exact hall

/-- **Unregistering a context keeps the invariant.** -/
theorem allRegistered_unregisterContext (apid ctid : Id4) :
    AllRegistered (unregisterContext daemon apid ctid) := by
  unfold unregisterContext
  cases hfind : dltDaemonContextFind daemon apid ctid daemon.ecuid with
  | none => exact h
  | some entry =>
  obtain ⟨l, c⟩ := entry
  simp only
  split
  · split_ifs with hpredefined
    · exact h
    · exact h.modifyUsers fun users hl => (h users (mem_of_getElem? hl)).contextDel c
  · exact h

/-- **Clearing the contexts keeps the invariant.** -/
theorem allRegistered_contextsClear (ecu : Id4) : AllRegistered (dltDaemonContextsClear daemon ecu) := by
  unfold dltDaemonContextsClear
  cases dltDaemonFindUsersList daemon ecu with
  | none => exact h
  | some l =>
    exact h.modifyUsers fun users hl =>
      contextsClear_registered (h users (mem_of_getElem? hl))

end

/-- A change of a table that keeps the ECU id does not change which table an ECU has. -/
theorem findUsersList_modifyUsers (daemon : DltDaemon Buf) (l : ℕ) (ecu : Id4)
    (hf : ∀ users, (f users).ecu = users.ecu) :
    dltDaemonFindUsersList (daemon.modifyUsers l f) ecu = dltDaemonFindUsersList daemon ecu :=
  findUsersList_congr (modifyUsers_ecus daemon l fun users _ => hf users) ecu

/-- **Clearing both tables keeps the invariant**, in either order. -/
theorem allRegistered_clear (h : AllRegistered daemon) (ecu : Id4) :
    AllRegistered (dltDaemonContextsClear (dltDaemonApplicationsClear daemon ecu) ecu) ∧
      AllRegistered (dltDaemonApplicationsClear (dltDaemonContextsClear daemon ecu) ecu) := by
  cases hl : dltDaemonFindUsersList daemon ecu with
  | none => simpa only [dltDaemonApplicationsClear, dltDaemonContextsClear, hl, and_self] using h
  | some l =>
    simp only [dltDaemonApplicationsClear, dltDaemonContextsClear, hl]
    rw [findUsersList_modifyUsers, findUsersList_modifyUsers, hl]
    · simp only
      rw [modifyUsers_modifyUsers, modifyUsers_modifyUsers]
      exact ⟨h.modifyUsers fun users _ => clear_registered users,
        h.modifyUsers fun users _ => clear_registered users⟩
    · exact fun _ => rfl
    · exact fun _ => rfl

/-! ## Any history -/

/-- An operation on the tables, as the daemon issues it. -/
inductive DbOp
  /-- An application registers, or the configuration or a gateway names it. -/
  | applicationAdd (malloc : Malloc) (ipc : UserIpc) (apid : Id4) (pid : ℤ)
      (description : Option (List UInt8)) (fd : ℤ) (ecu : Id4)
  /-- A context registers, or the configuration or a gateway names it. -/
  | contextAdd (malloc : Malloc) (slot : DltDaemonContext) (apid ctid : Id4)
      (logLevel traceStatus logLevelPos userHandle : ℤ) (description : Option (List UInt8))
      (ecu : Id4)
  | unregisterApplication (apid : Id4)
  | unregisterContext (apid ctid : Id4)
  | contextsClear (ecu : Id4)
  /-- Both tables of an ECU are cleared, the applications first. -/
  | clear (ecu : Id4)
  /-- Both tables of an ECU are cleared, the contexts first. -/
  | free (ecu : Id4)

/-- The ids are canonical and there is memory. -/
def DbOp.Issued : DbOp → Prop
  | .applicationAdd malloc _ apid _ _ _ _ => malloc.Succeeds ∧ apid.Canonical
  | .contextAdd malloc _ apid ctid _ _ _ _ _ _ => malloc.Succeeds ∧ apid.Canonical ∧ ctid.Canonical
  | _ => True

/-- The daemon after an operation. -/
def dbStep (daemon : DltDaemon Buf) : DbOp → DltDaemon Buf
  | .applicationAdd malloc ipc apid pid description fd ecu =>
      (dltDaemonApplicationAdd malloc ipc daemon apid pid description fd ecu).1
  | .contextAdd malloc slot apid ctid logLevel traceStatus logLevelPos userHandle description ecu =>
      (dltDaemonContextAdd malloc slot daemon apid ctid logLevel traceStatus logLevelPos userHandle
        description ecu).1
  | .unregisterApplication apid => unregisterApplication daemon apid
  | .unregisterContext apid ctid => unregisterContext daemon apid ctid
  | .contextsClear ecu => dltDaemonContextsClear daemon ecu
  | .clear ecu => dltDaemonContextsClear (dltDaemonApplicationsClear daemon ecu) ecu
  | .free ecu => dltDaemonApplicationsClear (dltDaemonContextsClear daemon ecu) ecu

/-- The tables of an ECU are empty. -/
def DltDaemonRegisteredUsers.Empty (users : DltDaemonRegisteredUsers) : Prop :=
  users.applications = [] ∧ users.numApplications = 0 ∧ users.applicationsRoom = 0 ∧
    users.contexts = [] ∧ users.numContexts = 0 ∧ users.contextsRoom = 0

/-- The daemons that sequences of operations reach from empty tables. -/
inductive DbReach : DltDaemon Buf → Prop
  /-- Every table is empty. -/
  | start {daemon : DltDaemon Buf} : (∀ users ∈ daemon.userList, users.Empty) → DbReach daemon
  | step {daemon : DltDaemon Buf} {op : DbOp} : DbReach daemon → op.Issued →
      DbReach (dbStep daemon op)

/-- **Every operation keeps the invariant.** -/
theorem allRegistered_dbStep (h : AllRegistered daemon) {op : DbOp} (hop : op.Issued) :
    AllRegistered (dbStep daemon op) := by
  cases op with
  | applicationAdd malloc ipc apid pid description fd ecu =>
    exact allRegistered_applicationAdd h hop.1 ipc hop.2 pid description fd ecu
  | contextAdd malloc slot apid ctid logLevel traceStatus logLevelPos userHandle description ecu =>
    exact allRegistered_contextAdd h hop.1 slot hop.2.1 hop.2.2 logLevel traceStatus logLevelPos
      userHandle description ecu
  | unregisterApplication apid => exact allRegistered_unregisterApplication h apid
  | unregisterContext apid ctid => exact allRegistered_unregisterContext h apid ctid
  | contextsClear ecu => exact allRegistered_contextsClear h ecu
  | clear ecu => exact (allRegistered_clear h ecu).1
  | free ecu => exact (allRegistered_clear h ecu).2

/-- **Every reachable daemon satisfies the invariant.** -/
theorem DbReach.allRegistered (h : DbReach daemon) : AllRegistered daemon := by
  induction h with
  | start hempty =>
    intro users hin
    obtain ⟨happs, hnum, hroom, hctxs, hnum', hroom'⟩ := hempty users hin
    refine ⟨?_, by rw [hnum, happs]; rfl, by rw [hnum', hctxs]; rfl,
      ⟨by rw [hroom]; rfl, .inr ⟨hnum, hroom⟩⟩, ⟨by rw [hroom']; rfl, .inr ⟨hnum', hroom'⟩⟩⟩
    simp only [registry, happs, hctxs]
    exact Registry.Ok.empty
  | step _ hop ih => exact allRegistered_dbStep ih hop

/-- What the callers of the tables rely on. -/
structure TablesOk (users : DltDaemonRegisteredUsers) : Prop where
  applications_sorted : users.applications.Pairwise fun a b => dltDaemonCmpApid a b < 0
  contexts_sorted : users.contexts.Pairwise fun a b => dltDaemonCmpApidCtid a.ids b.ids < 0
  numApplications_eq : users.numApplications = users.applications.length
  numContexts_eq : users.numContexts = users.contexts.length
  /-- Every context belongs to a registered application. -/
  registered : ∀ c ∈ users.contexts, ∃ a ∈ users.applications, a.apid = c.apid
  /-- The counter of an application is the number of its contexts. -/
  count_eq : ∀ a ∈ users.applications, a.numContexts = (users.contexts.countP (·.apid = a.apid) : ℕ)
  /-- The contexts of an application lie behind those of the applications before it. -/
  slice_eq : ∀ i a, users.applications[i]? = some a →
    (users.contexts.drop
      ((users.applications.take i).map DltDaemonApplication.numContexts).sum.toNat).take
        a.numContexts.toNat = users.contexts.filter (·.apid = a.apid)

theorem Registered.tablesOk (h : Registered users) : TablesOk users := by
  have hcount : ∀ apid : Id4, users.registry.ctxs.countP (·.1 = apid) =
      users.contexts.countP (·.apid = apid) := by
    intro apid
    rw [show users.registry.ctxs = users.contexts.map DltDaemonContext.ids from rfl, countP_map]
    rfl
  refine ⟨?_, ?_, h.numApplications_eq, h.numContexts_eq, ?_, ?_, ?_⟩
  · exact h.applications_sorted.imp fun hab => memcmp_neg_iff.mpr hab
  · exact h.contexts_sorted.imp fun hab => (dltDaemonCmpApidCtid_iff _ _).1.mpr hab
  · intro c hc
    obtain ⟨a, ha, hid⟩ := mem_map.mp
      (h.ok.registered c.ids (mem_map.mpr ⟨c, hc, rfl⟩))
    obtain ⟨application, hin, rfl⟩ := mem_map.mp ha
    exact ⟨application, hin, hid⟩
  · intro a ha
    rw [← hcount]
    exact h.ok.count_eq _ (mem_map.mpr ⟨a, ha, rfl⟩)
  · intro i a hi
    obtain ⟨happ, hsum⟩ := registry_getElem? hi
    have hslice := Registry.Ok.slice users.contexts h.ok rfl happ
    rw [hsum] at hslice
    exact hslice

/-- The lookup in all tables is the lookup in the table of the ECU. -/
theorem dltDaemonApplicationFind_iff (h : AllRegistered daemon) (hcanonical : apid.Canonical) (ecu : Id4)
    (l i : ℕ) :
    dltDaemonApplicationFind daemon apid ecu = some (l, i) ↔
      dltDaemonFindUsersList daemon ecu = some l ∧ ∃ users application,
        daemon.userList[l]? = some users ∧ users.applications[i]? = some application ∧
          application.apid = apid := by
  simp only [dltDaemonApplicationFind, Option.bind_eq_bind, Option.bind_eq_some_iff, Option.pure_def,
    Option.some.injEq, Prod.mk.injEq]
  constructor
  · rintro ⟨l', hl, users, hu, i', hfind, rfl, rfl⟩
    have hr := h users (mem_of_getElem? hu)
    obtain ⟨application, hi, hid⟩ :=
      map_eq_some_iff.mp ((hr.applicationFind_iff hcanonical).mp hfind)
    exact ⟨hl, users, application, hu, hi, hid⟩
  · rintro ⟨hl, users, application, hu, hi, hid⟩
    have hr := h users (mem_of_getElem? hu)
    exact ⟨l, hl, users, hu, i, (hr.applicationFind_iff hcanonical).mpr (by rw [hi, ← hid]; rfl),
      rfl, rfl⟩

/-- The lookup in all tables is the lookup in the table of the ECU. -/
theorem dltDaemonContextFind_iff (h : AllRegistered daemon) {ctid : Id4} (hapid : apid.Canonical)
    (hctid : ctid.Canonical) (ecu : Id4) (l c : ℕ) :
    dltDaemonContextFind daemon apid ctid ecu = some (l, c) ↔
      dltDaemonFindUsersList daemon ecu = some l ∧ ∃ users context,
        daemon.userList[l]? = some users ∧ users.contexts[c]? = some context ∧
          context.ids = (apid, ctid) := by
  simp only [dltDaemonContextFind, Option.bind_eq_bind, Option.bind_eq_some_iff, Option.pure_def,
    Option.some.injEq, Prod.mk.injEq]
  constructor
  · rintro ⟨l', hl, users, hu, c', hfind, rfl, rfl⟩
    have hr := h users (mem_of_getElem? hu)
    obtain ⟨context, hc, hids⟩ :=
      map_eq_some_iff.mp ((hr.contextFind_iff hapid hctid).mp hfind)
    exact ⟨hl, users, context, hu, hc, hids⟩
  · rintro ⟨hl, users, context, hu, hc, hids⟩
    have hr := h users (mem_of_getElem? hu)
    exact ⟨l, hl, users, hu, c, (hr.contextFind_iff hapid hctid).mpr (by rw [hc, ← hids]; rfl),
      rfl, rfl⟩

/-- **The tables after any history**: they are sorted, counted and sliced as their readers rely on,
and the lookups find exactly the registered entries. -/
theorem registration_tables (h : DbReach daemon) :
    (∀ users ∈ daemon.userList, TablesOk users) ∧
      (∀ apid ecu l i, apid.Canonical →
        (dltDaemonApplicationFind daemon apid ecu = some (l, i) ↔
          dltDaemonFindUsersList daemon ecu = some l ∧ ∃ users application,
            daemon.userList[l]? = some users ∧ users.applications[i]? = some application ∧
              application.apid = apid)) ∧
      ∀ apid ctid ecu l c, apid.Canonical → ctid.Canonical →
        (dltDaemonContextFind daemon apid ctid ecu = some (l, c) ↔
          dltDaemonFindUsersList daemon ecu = some l ∧ ∃ users context,
            daemon.userList[l]? = some users ∧ users.contexts[c]? = some context ∧
              context.ids = (apid, ctid)) := by
  have hall := h.allRegistered
  refine ⟨fun users hin => (hall users hin).tablesOk, ?_, ?_⟩
  · intro apid ecu l i hcanonical
    exact dltDaemonApplicationFind_iff hall hcanonical ecu l i
  · intro apid ctid ecu l c hapid hctid
    exact dltDaemonContextFind_iff hall hapid hctid ecu l c

/-- A daemon with one ECU and empty tables. -/
def emptyDaemon : DltDaemon Unit where
  userList := [{
    applications := [], numApplications := 0, applicationsRoom := 0, contexts := []
    numContexts := 0, contextsRoom := 0, ecu := dltSetId [69, 67, 85, 49] }]
  defaultLogLevel := 4
  defaultTraceStatus := 0
  forceLlTs := false
  overflowCounter := 0
  runtimeContextCfgLoaded := false
  ecuid := dltSetId [69, 67, 85, 49]
  sendserialheader := false
  clientRingbuffer := ()
  mode := .external
  state := .buffer

/-- The application `LOG` registers, and then a context of it. -/
theorem registration_tables_sample :
    let registered := dbStep emptyDaemon (.applicationAdd zeroMalloc ⟨true, false, fun _ => -1⟩
      (dltSetId [76, 79, 71]) 17 none 5 (dltSetId [69, 67, 85, 49]))
    let daemon := dbStep registered (.contextAdd zeroMalloc
      ⟨dltSetId [], dltSetId [], 0, 0, 0, 0, none, -1, false⟩ (dltSetId [76, 79, 71]) (dltSetId [67, 84, 88])
      4 0 0 5 none (dltSetId [69, 67, 85, 49]))
    ∀ users ∈ daemon.userList, TablesOk users := by
  intro registered daemon
  have hempty : ∀ users ∈ emptyDaemon.userList, users.Empty := by
    intro users hin
    rw [mem_singleton.mp hin]
    exact ⟨rfl, rfl, rfl, rfl, rfl, rfl⟩
  have hregistered : DbReach registered :=
    .step (.start hempty) ⟨zeroMalloc_succeeds, canonical_dltSetId _⟩
  have hdaemon : DbReach daemon :=
    .step hregistered ⟨zeroMalloc_succeeds, canonical_dltSetId _, canonical_dltSetId _⟩
  exact (registration_tables hdaemon).1

end Dlt.Daemon
