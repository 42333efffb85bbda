import Dlt.Daemon.Registration
import Dlt.Daemon.Registry

/-!
# The invariant of the registration tables

* `Registered users` — **the invariant** of the tables of an ECU: they stand for a registry that
  satisfies `Registry.Ok`, the counters are the lengths, and the memory has room for the entries.
* `sortApplications_registered`, `sortContexts_registered`, `applicationDel_registered`,
  `contextDel_registered`, … — every operation on one table keeps the invariant.
-/

namespace Dlt.Daemon

open Dlt.Lib Dlt.Shared List DltDaemonRegisteredUsers DltDaemonContext
open Option (isSome_iff_exists map_eq_some_iff map_some)

variable {Buf : Type}
variable {apid ctid : Id4} {i : ℕ}

/-! ## The invariant -/

/-- The tables, reduced to ids and counters. -/
def DltDaemonRegisteredUsers.registry (users : DltDaemonRegisteredUsers) : Registry where
  apps := users.applications.map fun application => (application.apid, application.numContexts)
  ctxs := users.contexts.map ids

/-- The memory of a table is a number of steps and has room for one more entry, or there is none. -/
def RoomOk (step num room : ℕ) : Prop := room % step = 0 ∧ (num < room ∨ num = 0 ∧ room = 0)

/-- **The invariant of the tables of an ECU.** -/
structure Registered (users : DltDaemonRegisteredUsers) : Prop where
  ok : users.registry.Ok
  numApplications_eq : users.numApplications = users.applications.length
  numContexts_eq : users.numContexts = users.contexts.length
  applications_room : RoomOk dltDaemonApplAllocSize users.numApplications users.applicationsRoom
  contexts_room : RoomOk dltDaemonContextAllocSize users.numContexts users.contextsRoom

/-- Two states of the tables that differ in handles, processes, levels and descriptions only. -/
structure SameTables (users users' : DltDaemonRegisteredUsers) : Prop where
  registry_eq : users'.registry = users.registry
  numApplications_eq : users'.numApplications = users.numApplications
  numContexts_eq : users'.numContexts = users.numContexts
  applicationsRoom_eq : users'.applicationsRoom = users.applicationsRoom
  contextsRoom_eq : users'.contextsRoom = users.contextsRoom

namespace SameTables

variable {users users' users'' : DltDaemonRegisteredUsers}

theorem refl (users : DltDaemonRegisteredUsers) : SameTables users users :=
  ⟨rfl, rfl, rfl, rfl, rfl⟩

section

variable (h : SameTables users users')
include h

theorem trans (h' : SameTables users' users'') : SameTables users users'' :=
  ⟨h'.registry_eq.trans h.registry_eq, h'.numApplications_eq.trans h.numApplications_eq,
    h'.numContexts_eq.trans h.numContexts_eq, h'.applicationsRoom_eq.trans h.applicationsRoom_eq,
    h'.contextsRoom_eq.trans h.contextsRoom_eq⟩

theorem length_applications : users'.applications.length = users.applications.length := by
  simpa [registry] using
    congrArg (fun r : Registry => r.apps.length) h.registry_eq

theorem length_contexts : users'.contexts.length = users.contexts.length := by
  simpa [registry] using
    congrArg (fun r : Registry => r.ctxs.length) h.registry_eq

theorem registered (hr : Registered users) : Registered users' :=
  ⟨h.registry_eq ▸ hr.ok,
    by rw [h.numApplications_eq, h.length_applications, hr.numApplications_eq],
    by rw [h.numContexts_eq, h.length_contexts, hr.numContexts_eq],
    by rw [h.numApplications_eq, h.applicationsRoom_eq]; exact hr.applications_room,
    by rw [h.numContexts_eq, h.contextsRoom_eq]; exact hr.contexts_room⟩

end

section

variable (users : DltDaemonRegisteredUsers)

/-- Applications may be changed one by one as long as they keep their ids and counters. -/
theorem mapApplications (applications : List DltDaemonApplication)
    (h : applications.map (fun a => (a.apid, a.numContexts)) =
      users.applications.map fun a => (a.apid, a.numContexts)) :
    SameTables users { users with applications } :=
  ⟨by simp only [registry, h], rfl, rfl, rfl, rfl⟩

/-- Contexts may be changed one by one as long as they keep their ids. -/
theorem mapContexts (contexts : List DltDaemonContext)
    (h : contexts.map ids = users.contexts.map ids) :
    SameTables users { users with contexts } :=
  ⟨by simp only [registry, h], rfl, rfl, rfl, rfl⟩

theorem modifyApplication (i : ℕ) {f : DltDaemonApplication → DltDaemonApplication}
    (h : ∀ a, (f a).apid = a.apid ∧ (f a).numContexts = a.numContexts) :
    SameTables users (users.modifyApplication i f) :=
  mapApplications users _ (map_modify_of_eq fun a => by rw [(h a).1, (h a).2])

theorem modifyContext (i : ℕ) {f : DltDaemonContext → DltDaemonContext} (h : ∀ c, (f c).ids = c.ids) :
    SameTables users (users.modifyContext i f) :=
  mapContexts users _ (map_modify_of_eq h)

theorem applicationsInvalidateFd (fd : ℤ) :
    SameTables users (users.applicationsInvalidateFd fd) := by
  apply mapApplications
  rw [map_map]
  apply map_congr_left
  intro a _
  simp only [Function.comp_apply]
  split_ifs <;> rfl

theorem contextsInvalidateFd (fd : ℤ) :
    SameTables users (users.contextsInvalidateFd fd) := by
  apply mapContexts
  rw [map_map]
  apply map_congr_left
  intro c _
  simp only [Function.comp_apply, ids]
  split_ifs <;> rfl

end

end SameTables

/-! ## Lookups -/

theorem dltDaemonCmpApid_nonpos_iff (a b : DltDaemonApplication) :
    dltDaemonCmpApid a b ≤ 0 ↔ a.apid.key ≤ b.apid.key := by
  rw [dltDaemonCmpApid, ← not_lt, memcmp_pos_iff, not_lt]

theorem dltDaemonCmpApidCtid_iff (p q : Id4 × Id4) :
    (dltDaemonCmpApidCtid p q < 0 ↔ idsKey p < idsKey q) ∧
      (0 < dltDaemonCmpApidCtid p q ↔ idsKey q < idsKey p) := by
  have hp := p.2.key_lt
  have hq := q.2.key_lt
  have hneg := memcmp_neg_iff (a := p.1) (b := q.1)
  have hpos := memcmp_pos_iff (a := p.1) (b := q.1)
  have hneg' := memcmp_neg_iff (a := p.2) (b := q.2)
  have hpos' := memcmp_pos_iff (a := p.2) (b := q.2)
  unfold dltDaemonCmpApidCtid idsKey
  split_ifs with hlt heq <;> omega

namespace Registered

variable {users : DltDaemonRegisteredUsers}

section

variable (h : Registered users)
include h

theorem applications_sorted : StrictSorted (fun a => a.apid.key) users.applications := by
  have hsorted := h.ok.apps_sorted
  unfold StrictSorted at hsorted ⊢
  simpa only [registry, pairwise_map] using hsorted

theorem contexts_sorted : StrictSorted (fun c => idsKey c.ids) users.contexts := by
  have hsorted := h.ok.ctxs_sorted
  unfold StrictSorted at hsorted ⊢
  simpa only [registry, pairwise_map] using hsorted

/-- **An application is found exactly when it is registered.** -/
theorem applicationFind_iff (hcanonical : apid.Canonical) :
    users.applicationFind apid = some i ↔
      (users.applications[i]?).map DltDaemonApplication.apid = some apid := by
  by_cases hne : apid.isEmpty = true
  · -- the empty id is never registered
    refine ⟨fun hsome => ?_, fun hsome => ?_⟩
    · simp [applicationFind, hne] at hsome
    · obtain ⟨a, ha, rfl⟩ := map_eq_some_iff.mp hsome
      have happ := h.ok.apps_canonical _ (mem_map.mpr ⟨a, mem_of_getElem? ha, rfl⟩)
      exact absurd hne (by simpa using happ.2)
  have hkey : (users.applications[i]?).map DltDaemonApplication.apid = some apid ↔
      (users.applications[i]?).map (fun a => a.apid.key) = some apid.key := by
    cases users.applications[i]? with
    | none => simp
    | some a => simp only [map_some, Option.some.injEq]; exact ⟨congrArg _, Id4.key_injective⟩
  have hcompares : Compares (fun a : DltDaemonApplication => a.apid.key) apid.key
      fun a => (dltSetId apid.bytes).cmp a.apid := by
    intro a
    rw [show dltSetId apid.bytes = apid from hcanonical]
    exact ⟨memcmp_neg_iff, memcmp_pos_iff⟩
  rw [hkey]
  unfold applicationFind
  rw [h.numApplications_eq]
  by_cases hnil : users.applications = []
  · simp [hnil]
  have hlen := length_pos_iff.mpr hnil
  rw [if_neg (by simp [hne, hnil])]
  have hfirst : users.applications[0]? = some users.applications[0] := getElem?_eq_getElem _
  have hlast : users.applications[users.applications.length - 1]? =
      some users.applications[users.applications.length - 1] := getElem?_eq_getElem _
  rw [hfirst, hlast]
  simp only
  split_ifs with hout
  · -- outside the first and the last id nothing is registered
    refine ⟨fun hnone => by simp at hnone, fun hsome => ?_⟩
    obtain ⟨a, ha, hak⟩ := map_eq_some_iff.mp hsome
    have hbounds := h.applications_sorted.mem_bounds (mem_of_getElem? ha) hfirst hlast
    rw [memcmp_neg_iff, gt_iff_lt, memcmp_pos_iff] at hout
    simp only [hak] at hbounds
    omega
  · exact h.applications_sorted.bsearch_eq_some_iff hcompares

/-- The ids of a registered context are canonical and not empty, and its application is registered. -/
theorem context_ids {c : DltDaemonContext} (hc : c ∈ users.contexts) :
    ((c.apid.Canonical ∧ c.apid.isEmpty = false) ∧ c.ctid.Canonical ∧ c.ctid.isEmpty = false) ∧
      c.apid ∈ users.applications.map (·.apid) := by
  have hmem : c.ids ∈ users.registry.ctxs := mem_map.mpr ⟨c, hc, rfl⟩
  obtain ⟨a, ha, hac⟩ := mem_map.mp (h.ok.registered _ hmem)
  obtain ⟨application, hin, rfl⟩ := mem_map.mp ha
  have hapid := h.ok.apps_canonical _ ha
  have hid : application.apid = c.apid := hac
  simp only [hid] at hapid
  exact ⟨⟨hapid, h.ok.ctids_canonical _ hmem⟩, mem_map.mpr ⟨application, hin, hid⟩⟩

/-- **A context is found exactly when it is registered.** -/
theorem contextFind_iff (hapid : apid.Canonical) (hctid : ctid.Canonical) {c : ℕ} :
    users.contextFind apid ctid = some c ↔
      (users.contexts[c]?).map ids = some (apid, ctid) := by
  by_cases hne : apid.isEmpty = true ∨ ctid.isEmpty = true
  · -- the empty id is never registered
    refine ⟨fun hsome => ?_, fun hsome => ?_⟩
    · rw [contextFind, if_pos (by tauto)] at hsome
      cases hsome
    · obtain ⟨context, hcontext, hids⟩ := map_eq_some_iff.mp hsome
      have hin : (apid, ctid) ∈ users.registry.ctxs :=
        mem_map.mpr ⟨context, mem_of_getElem? hcontext, hids⟩
      obtain ⟨a, ha, rfl⟩ := mem_map.mp (h.ok.registered _ hin)
      have happ := (h.ok.apps_canonical a ha).2
      have hctx := (h.ok.ctids_canonical _ hin).2
      simp only [happ, hctx, Bool.false_eq_true, or_self] at hne
  have hkey : (users.contexts[c]?).map ids = some (apid, ctid) ↔
      (users.contexts[c]?).map (fun c => idsKey c.ids) = some (idsKey (apid, ctid)) := by
    cases users.contexts[c]? with
    | none => simp
    | some a => simp only [map_some, Option.some.injEq]; exact ⟨congrArg _, idsKey_injective⟩
  have hcompares : Compares (fun c : DltDaemonContext => idsKey c.ids) (idsKey (apid, ctid))
      fun c => dltDaemonCmpApidCtid (dltSetId apid.bytes, dltSetId ctid.bytes) c.ids := by
    intro c
    rw [show dltSetId apid.bytes = apid from hapid, show dltSetId ctid.bytes = ctid from hctid]
    exact dltDaemonCmpApidCtid_iff _ _
  rw [hkey]
  unfold contextFind
  rw [h.numContexts_eq]
  by_cases hnil : users.contexts = []
  · simp [hnil]
  have hlen := length_pos_iff.mpr hnil
  rw [if_neg (by rw [← or_assoc]; exact not_or.mpr ⟨hne, by simp [hnil]⟩)]
  have hfirst : users.contexts[0]? = some users.contexts[0] := getElem?_eq_getElem _
  have hlast : users.contexts[users.contexts.length - 1]? =
      some users.contexts[users.contexts.length - 1] := getElem?_eq_getElem _
  rw [hfirst, hlast]
  simp only
  split_ifs with hout
  · -- outside the first and the last application id nothing is registered
    refine ⟨fun hnone => by simp at hnone, fun hsome => ?_⟩
    obtain ⟨a, ha, hak⟩ := map_eq_some_iff.mp hsome
    have hbounds := h.contexts_sorted.mem_bounds (mem_of_getElem? ha) hfirst hlast
    rw [memcmp_neg_iff, gt_iff_lt, memcmp_pos_iff] at hout
    simp only [hak] at hbounds
    have hctidLt := ctid.key_lt
    have hfirstLt := users.contexts[0].ctid.key_lt
    have hlastLt := users.contexts[users.contexts.length - 1].ctid.key_lt
    simp only [idsKey, ids] at hbounds
    omega
  · exact h.contexts_sorted.bsearch_eq_some_iff hcompares

end

end Registered

/-! ## The operations on one table -/

section tables

variable {users : DltDaemonRegisteredUsers} {malloc : Malloc}

section

variable (hm : malloc.Succeeds)
include hm

theorem roomOk_succ (entry : ℕ) {step num room : ℕ} (hstep : 0 < step) (h : RoomOk step num room)
    (hpos : 0 < room) :
    ∃ room', tableRoom malloc entry step room (num + 1) = some room' ∧
      RoomOk step (num + 1) room' := by
  obtain ⟨hmod, hroom⟩ := h
  unfold tableRoom
  split_ifs with hfull
  · obtain ⟨fresh, hfresh⟩ := isSome_iff_exists.mp
      (hm (entry * ((num + 1) / step + 1) * step))
    refine ⟨((num + 1) / step + 1) * step, by rw [hfresh]; rfl, Nat.mul_mod_left .., .inl ?_⟩
    have hdiv := Nat.div_add_mod (num + 1) step
    rw [hfull.2, Nat.mul_comm] at hdiv
    rw [Nat.add_mul, Nat.one_mul]
    omega
  · refine ⟨room, rfl, hmod, .inl ?_⟩
    -- the room is a number of steps and the new number of entries is not
    have hne : num + 1 ≠ room := by
      intro heq
      exact hfull ⟨Nat.succ_ne_zero num, heq ▸ hmod⟩
    omega

section

variable (h : Registered users)
include h

/-- After the first allocation there is memory, and the invariant holds as before. -/
theorem allocateApplications_registered :
    ∃ users', users.allocateApplications malloc = some users' ∧ Registered users' ∧
      0 < users'.applicationsRoom ∧ users'.registry = users.registry := by
  unfold allocateApplications
  split_ifs with hzero
  · obtain ⟨fresh, hfresh⟩ := isSome_iff_exists.mp
      (hm (sizeofDltDaemonApplication * dltDaemonApplAllocSize))
    have hnum : users.numApplications = 0 := by
      rcases h.applications_room.2 with hlt | hnone
      · omega
      · exact hnone.1
    refine ⟨{ users with applicationsRoom := dltDaemonApplAllocSize }, by rw [hfresh]; rfl,
      ⟨h.ok, h.numApplications_eq, h.numContexts_eq, ?_, h.contexts_room⟩,
      show 0 < dltDaemonApplAllocSize by decide, rfl⟩
    refine ⟨show dltDaemonApplAllocSize % dltDaemonApplAllocSize = 0 by decide, .inl ?_⟩
    simp only [hnum]
    decide
  · exact ⟨users, rfl, h, Nat.pos_of_ne_zero hzero, rfl⟩

theorem allocateContexts_registered :
    ∃ users', users.allocateContexts malloc = some users' ∧ Registered users' ∧
      0 < users'.contextsRoom ∧ users'.registry = users.registry := by
  unfold allocateContexts
  split_ifs with hzero
  · obtain ⟨fresh, hfresh⟩ := isSome_iff_exists.mp
      (hm (sizeofDltDaemonContext * dltDaemonContextAllocSize))
    have hnum : users.numContexts = 0 := by
      rcases h.contexts_room.2 with hlt | hnone
      · omega
      · exact hnone.1
    refine ⟨{ users with contextsRoom := dltDaemonContextAllocSize }, by rw [hfresh]; rfl,
      ⟨h.ok, h.numApplications_eq, h.numContexts_eq, h.applications_room, ?_⟩,
      show 0 < dltDaemonContextAllocSize by decide, rfl⟩
    refine ⟨show dltDaemonContextAllocSize % dltDaemonContextAllocSize = 0 by decide, .inl ?_⟩
    simp only [hnum]
    decide
  · exact ⟨users, rfl, h, Nat.pos_of_ne_zero hzero, rfl⟩

theorem appendApplication_eq (hpos : 0 < users.applicationsRoom) (hcanonical : apid.Canonical) :
    ∃ room, RoomOk dltDaemonApplAllocSize (users.numApplications + 1) room ∧
      users.appendApplication malloc apid = some { users with
        numApplications := users.numApplications + 1
        applicationsRoom := room
        applications := users.applications ++ [{
          apid, pid := 0, applicationDescription := none, numContexts := 0
          userHandle := dltFdInit, ownsUserHandle := false }] } := by
  obtain ⟨room, htable, hroom⟩ := roomOk_succ hm sizeofDltDaemonApplication (by decide)
    h.applications_room hpos
  refine ⟨room, hroom, ?_⟩
  simp only [appendApplication, htable, map_some,
    Nat.add_sub_cancel, show dltSetId apid.bytes = apid from hcanonical]
  rw [h.numApplications_eq, overwrite_length]

theorem appendContext_eq (hpos : 0 < users.contextsRoom) (slot : DltDaemonContext) (hapid : apid.Canonical)
    (hctid : ctid.Canonical) (a : ℕ) :
    ∃ room, RoomOk dltDaemonContextAllocSize (users.numContexts + 1) room ∧
      users.appendContext malloc slot apid ctid a = some { users with
        numContexts := users.numContexts + 1
        contextsRoom := room
        contexts := users.contexts ++ [{ slot with apid, ctid, contextDescription := none }]
        applications := users.applications.modify a fun application =>
          { application with numContexts := application.numContexts + 1 } } := by
  obtain ⟨room, htable, hroom⟩ := roomOk_succ hm sizeofDltDaemonContext (by decide)
    h.contexts_room hpos
  refine ⟨room, hroom, ?_⟩
  simp only [appendContext, htable, map_some,
    Nat.add_sub_cancel, show dltSetId apid.bytes = apid from hapid,
    show dltSetId ctid.bytes = ctid from hctid]
  rw [h.numContexts_eq, overwrite_length]

end

end

/-- `memmove` and clearing the last entry delete an entry. -/
theorem take_overwrite_eq_eraseIdx {α : Type*} {xs : List α} (hi : i < xs.length) :
    (overwrite xs i ((xs.drop (i + 1)).take (xs.length - 1 - i))).take (xs.length - 1) =
      xs.eraseIdx i := by
  have htail : (xs.drop (i + 1)).take (xs.length - 1 - i) = xs.drop (i + 1) :=
    take_of_length_le (by simp only [length_drop]; omega)
  have hlen : (xs.take i ++ xs.drop (i + 1)).length = xs.length - 1 := by
    simp only [length_append, length_take, length_drop]
    omega
  rw [htail, overwrite, take_left' hlen, eraseIdx_eq_take_drop_succ]

section

variable (h : Registered users)
include h

/-- A new application, appended and with other fields set, keeps the invariant once sorted. -/
theorem sortApplications_registered (hcanonical : apid.Canonical) (hne : apid.isEmpty = false)
    (hnew : users.applicationFind apid = none) {users' : DltDaemonRegisteredUsers}
    (happs : users'.registry.apps = users.registry.apps ++ [(apid, 0)])
    (hctxs : users'.registry.ctxs = users.registry.ctxs)
    (hnum : users'.numApplications = users.numApplications + 1) (hnum' : users'.numContexts = users.numContexts)
    (hroom : RoomOk dltDaemonApplAllocSize users'.numApplications users'.applicationsRoom)
    (hroom' : users'.contextsRoom = users.contextsRoom) :
    Registered { users' with
      applications := qsort dltDaemonCmpApid (users'.applications.take users'.numApplications) } := by
  have hlen : users'.applications.length = users'.numApplications := by
    have := congrArg List.length happs
    simp only [registry, length_map, length_append,
      length_singleton] at this
    rw [hnum, h.numApplications_eq, this]
  have hctxLen : users'.contexts.length = users.contexts.length := by
    simpa [registry] using congrArg List.length hctxs
  have hnotin : apid ∉ users.registry.apps.map Prod.fst := by
    intro hin
    obtain ⟨i, hi⟩ := mem_iff_getElem?.mp hin
    have hfind := (h.applicationFind_iff hcanonical (i := i)).mpr (by
      simpa [registry] using hi)
    simp [hnew] at hfind
  rw [take_of_length_le hlen.le]
  have hperm := qsort_perm dltDaemonCmpApid users'.applications
  have hpermReg : ((qsort dltDaemonCmpApid users'.applications).map
      fun a => (a.apid, a.numContexts)).Perm (users.registry.apps ++ [(apid, 0)]) :=
    (hperm.map _).trans (.of_eq happs)
  have hnodup : (users'.applications.map fun a => a.apid.key).Nodup := by
    have hkeys : users'.applications.map (fun a => a.apid.key) =
        (users.registry.apps ++ [(apid, (0 : ℤ))]).map fun a => a.1.key := by
      rw [← happs]
      simp [registry]
    rw [hkeys, map_append, map_singleton, nodup_append]
    refine ⟨h.ok.apps_sorted.nodup, nodup_singleton _, ?_⟩
    intro k hk k' hk' heq
    obtain ⟨a, ha, rfl⟩ := mem_map.mp hk
    rw [mem_singleton.mp hk'] at heq
    exact hnotin (mem_map.mpr ⟨a, ha, Id4.key_injective heq⟩)
  have hsorted := strictSorted_qsort dltDaemonCmpApid_nonpos_iff hnodup
  refine ⟨?_, ?_, ?_, hroom, ?_⟩
  · have hok := h.ok.insertApp hnotin ⟨hcanonical, hne⟩ (by
      unfold StrictSorted at hsorted ⊢
      rw [pairwise_map]
      exact hsorted) hpermReg
    rw [← hctxs] at hok
    exact hok
  · simp only [hperm.length_eq, hlen]
  · simp only [hctxLen, hnum', h.numContexts_eq]
  · simp only [hnum', hroom']
    exact h.contexts_room

/-- A context is deleted, and the counter of its application goes down. -/
theorem contextDel_registered {c : ℕ} {context : DltDaemonContext} {application : DltDaemonApplication}
    (hc : users.contexts[c]? = some context) (hi : users.applications[i]? = some application)
    (hid : application.apid = context.apid) :
    Registered (users.contextDel c) ∧
      (users.contextDel c).applications = users.applications.modify i fun a =>
        { a with numContexts := a.numContexts - 1 } := by
  have hlt : c < users.contexts.length := (List.getElem?_eq_some_iff.mp hc).1
  have happ := h.ok.apps_canonical (application.apid, application.numContexts)
    (mem_map.mpr ⟨application, mem_of_getElem? hi, rfl⟩)
  have hfind : users.applicationFind context.apid = some i := by
    rw [← hid]
    exact (h.applicationFind_iff happ.1).mpr (by rw [hi]; rfl)
  have hnum := h.numContexts_eq
  have hdel : users.contextDel c = { users with
      applications := users.applications.modify i fun a =>
        { a with numContexts := a.numContexts - 1 }
      contexts := users.contexts.eraseIdx c
      numContexts := users.numContexts - 1 } := by
    unfold DltDaemonRegisteredUsers.contextDel
    simp only [hc, hfind]
    rw [if_pos (by omega), hnum, take_overwrite_eq_eraseIdx hlt]
    rfl
  rw [hdel]
  refine ⟨⟨?_, ?_, ?_, ?_, ?_⟩, rfl⟩
  · have hok := h.ok.eraseCtx
      (show users.registry.apps[i]? = some (context.apid, application.numContexts) by
        simp [registry, hi, hid])
      (show users.registry.ctxs[c]? = some (context.apid, context.ctid) by
        simp [registry, hc, ids])
    have happs : (users.applications.modify i fun a =>
        { a with numContexts := a.numContexts - 1 }).map (fun a => (a.apid, a.numContexts)) =
        users.registry.apps.modify i fun a => (a.1, a.2 + -1) :=
      map_modify fun a => rfl
    have hctxs : (users.contexts.eraseIdx c).map ids =
        users.registry.ctxs.eraseIdx c := by
      simp [registry, eraseIdx_eq_take_drop_succ]
    simp only [registry, happs, hctxs]
    exact hok
  · simp only [length_modify]
    exact h.numApplications_eq
  · simp only [length_eraseIdx_of_lt hlt, hnum]
  · exact h.applications_room
  · obtain ⟨hmod, hroom⟩ := h.contexts_room
    exact ⟨hmod, .inl (by simp only; omega)⟩

/-- A new context, appended and with other fields set, keeps the invariant once sorted. -/
theorem sortContexts_registered (hapid : apid.Canonical) (hctid : ctid.Canonical) (hne : ctid.isEmpty = false)
    {a : ℕ} (hfind : users.applicationFind apid = some a) (hnew : users.contextFind apid ctid = none)
    {users' : DltDaemonRegisteredUsers}
    (happs : users'.registry.apps = users.registry.apps.modify a fun x => (x.1, x.2 + 1))
    (hctxs : users'.registry.ctxs = users.registry.ctxs ++ [(apid, ctid)])
    (hnum : users'.numApplications = users.numApplications) (hnum' : users'.numContexts = users.numContexts + 1)
    (hroom : users'.applicationsRoom = users.applicationsRoom)
    (hroom' : RoomOk dltDaemonContextAllocSize users'.numContexts users'.contextsRoom) :
    Registered { users' with
      contexts := qsort (fun m1 m2 => dltDaemonCmpApidCtid m1.ids m2.ids)
        (users'.contexts.take users'.numContexts) } := by
  have hlen : users'.contexts.length = users'.numContexts := by
    have := congrArg List.length hctxs
    simp only [registry, length_map, length_append,
      length_singleton] at this
    rw [hnum', h.numContexts_eq, this]
  have happLen : users'.applications.length = users.applications.length := by
    simpa [registry] using congrArg List.length happs
  have hnotin : (apid, ctid) ∉ users.registry.ctxs := by
    intro hin
    obtain ⟨c, hc⟩ := mem_iff_getElem?.mp hin
    have hsome := (h.contextFind_iff hapid hctid (c := c)).mpr (by
      simpa [registry] using hc)
    simp [hnew] at hsome
  have happ : ∃ n, users.registry.apps[a]? = some (apid, n) := by
    obtain ⟨x, hx, hxa⟩ := map_eq_some_iff.mp ((h.applicationFind_iff hapid).mp hfind)
    exact ⟨x.numContexts, by simp [registry, hx, hxa]⟩
  obtain ⟨n, hn⟩ := happ
  rw [take_of_length_le hlen.le]
  have hperm := qsort_perm (fun m1 m2 => dltDaemonCmpApidCtid m1.ids m2.ids) users'.contexts
  have hpermReg := (hperm.map ids).trans (.of_eq hctxs)
  have hnodup : (users'.contexts.map fun c => idsKey c.ids).Nodup := by
    have hkeys : users'.contexts.map (fun c => idsKey c.ids) =
        (users.registry.ctxs ++ [(apid, ctid)]).map idsKey := by
      rw [← hctxs]
      simp [registry]
    rw [hkeys, map_append, map_singleton, nodup_append]
    refine ⟨h.ok.ctxs_sorted.nodup, nodup_singleton _, ?_⟩
    intro k hk k' hk' heq
    obtain ⟨c, hc, rfl⟩ := mem_map.mp hk
    rw [mem_singleton.mp hk'] at heq
    exact hnotin (idsKey_injective heq ▸ hc)
  have hcmp : ∀ m1 m2 : DltDaemonContext,
      dltDaemonCmpApidCtid m1.ids m2.ids ≤ 0 ↔ idsKey m1.ids ≤ idsKey m2.ids := by
    intro m1 m2
    rw [← not_lt, (dltDaemonCmpApidCtid_iff _ _).2, not_lt]
  have hsorted := strictSorted_qsort hcmp hnodup
  refine ⟨?_, ?_, ?_, ?_, hroom'⟩
  · have hok := h.ok.insertCtx hn ⟨hctid, hne⟩ (by
      unfold StrictSorted at hsorted ⊢
      rw [pairwise_map]
      exact hsorted) hpermReg
    rw [← happs] at hok
    exact hok
  · simp only [happLen, hnum, h.numApplications_eq]
  · simp only [hperm.length_eq, hlen]
  · simp only [hnum, hroom]
    exact h.applications_room

theorem applicationDel_registered (hi : users.registry.apps[i]? = some (apid, 0)) :
    Registered (users.applicationDel i) := by
  have hlt : i < users.applications.length := by
    have := (List.getElem?_eq_some_iff.mp hi).1
    simpa [registry] using this
  have hnum := h.numApplications_eq
  have hdel : users.applicationDel i = { users with
      applications := users.applications.eraseIdx i
      numApplications := users.numApplications - 1 } := by
    unfold applicationDel
    rw [hnum, take_overwrite_eq_eraseIdx hlt]
  rw [hdel]
  refine ⟨?_, ?_, h.numContexts_eq, ?_, h.contexts_room⟩
  · have hok := h.ok.eraseApp hi
    simp only [registry, eraseIdx_eq_take_drop_succ, map_append,
      map_take, map_drop] at hok ⊢
    exact hok
  · simp only [length_eraseIdx_of_lt hlt, hnum]
  · obtain ⟨hmod, hroom⟩ := h.applications_room
    exact ⟨hmod, .inl (by simp only; omega)⟩

theorem Registered.contextDel (c : ℕ) : Registered (users.contextDel c) := by
  cases hc : users.contexts[c]? with
  | none =>
    unfold DltDaemonRegisteredUsers.contextDel
    rw [hc]
    exact h
  | some context =>
    have hin : context.ids ∈ users.registry.ctxs :=
      mem_map.mpr ⟨context, mem_of_getElem? hc, rfl⟩
    obtain ⟨app, happ, hid⟩ := mem_map.mp (h.ok.registered _ hin)
    obtain ⟨application, hmem, rfl⟩ := mem_map.mp happ
    obtain ⟨i, hi⟩ := mem_iff_getElem?.mp hmem
    exact (contextDel_registered h hc hi hid).1

/-- The contexts are cleared and the counters of the applications go to zero. -/
theorem contextsClear_registered :
    Registered { users with
      applications := users.applications.map fun application =>
        { application with numContexts := 0 }
      contexts := [], numContexts := 0, contextsRoom := 0 } := by
  refine ⟨?_, by simp [h.numApplications_eq], rfl, h.applications_room, rfl, .inr ⟨rfl, rfl⟩⟩
  have hok := h.ok.clearCtxs
  simp only [registry, map_map, map_nil] at hok ⊢
  exact hok

end

theorem clear_registered (users : DltDaemonRegisteredUsers) :
    Registered { users with
      applications := [], numApplications := 0, applicationsRoom := 0
      contexts := [], numContexts := 0, contextsRoom := 0 } :=
  ⟨Registry.Ok.empty, rfl, rfl, ⟨rfl, .inr ⟨rfl, rfl⟩⟩, rfl, .inr ⟨rfl, rfl⟩⟩

end tables

end Dlt.Daemon
