import Dlt.Daemon.RegistrationEntries

/-!
# Ids with bytes behind their first zero

The tables hold ids as `dlt_set_id` makes them, and the searches compare such ids. The check before a
search compares the bytes as they were given.

* `idsMatter_of_unhidden` — **this holds of every run that meets no hidden entry.**
-/

namespace Dlt.Daemon

open Dlt.Lib Dlt.Shared List DltDaemonRegisteredUsers DltDaemonContext
open Option (bind_eq_bind bind_none bind_some map_eq_some_iff map_some)

variable {id last : Id4} {c : DltDaemonContext}

/-! ## Keys -/

section keys

theorem key_of_bytes {a b c d : UInt8} (h : id.bytes = [a, b, c, d]) :
    id.key = a.toNat * 16777216 + b.toNat * 65536 + c.toNat * 256 + d.toNat := by
  rw [Id4.key, h]
  simp only [ofBeBytes, reverse_cons, reverse_nil, nil_append, cons_append, ofLeBytes]
  omega

theorem exists_bytes (id : Id4) : ∃ a b c d : UInt8, id.bytes = [a, b, c, d] := by
  obtain ⟨bytes, hlen⟩ := id
  match bytes, hlen with
  | [a, b, c, d], _ => exact ⟨a, b, c, d, rfl⟩

theorem bytes_dltSetId (a b c d : UInt8) :
    (dltSetId [a, b, c, d]).bytes =
      if a = 0 then [0, 0, 0, 0] else if b = 0 then [a, 0, 0, 0] else if c = 0 then [a, b, 0, 0]
      else [a, b, c, d] := by
  simp only [dltSetId, idText, take_succ_cons, take_zero]
  split_ifs with ha hb hc
  · simp [ha, replicate]
  · simp [ha, hb, replicate]
  · simp [ha, hb, hc, replicate]
  · by_cases hd : d = 0
    · simp [ha, hb, hc, hd]
    · simp [ha, hb, hc, hd]

theorem key_dltSetId_le (id : Id4) : (dltSetId id.bytes).key ≤ id.key := by
  obtain ⟨a, b, c, d, hbytes⟩ := exists_bytes id
  have hcut := bytes_dltSetId a b c d
  rw [key_of_bytes hbytes, hbytes]
  split_ifs at hcut with ha hb hc
  · rw [key_of_bytes hcut]
    simp
  · rw [key_of_bytes hcut]
    simp [hb]
    omega
  · rw [key_of_bytes hcut]
    simp
    omega
  · rw [key_of_bytes hcut]

theorem canonical_bytes (h : id.Canonical) {a b c d : UInt8} (hbytes : id.bytes = [a, b, c, d]) :
    (a.toNat = 0 → b.toNat = 0) ∧ (b.toNat = 0 → c.toNat = 0) ∧ (c.toNat = 0 → d.toNat = 0) := by
  have hcut := bytes_dltSetId a b c d
  have hsame : (dltSetId [a, b, c, d]).bytes = [a, b, c, d] := by
    rw [← hbytes]
    exact congrArg Id4.bytes h
  have hzero : ∀ x : UInt8, x.toNat = 0 ↔ x = 0 := fun x => by rw [← UInt8.toNat_inj]; rfl
  rw [hsame] at hcut
  simp only [hzero]
  split_ifs at hcut with ha hb hc
  · simp_all
  · simp_all
  · simp_all
  · exact ⟨fun h => absurd h ha, fun h => absurd h hb, fun h => absurd h hc⟩

theorem add_lt_of_leading {x x' m r r' : ℕ} (h : x * m < x' * m + r') (hr : r < m) (hr' : r' < m)
    (hrest : x = x' → r < r') : x * m + r < x' * m + r' := by
  rcases Nat.lt_trichotomy x x' with hlt | heq | hgt
  · have hmul := Nat.mul_le_mul_right m (Nat.succ_le_of_lt hlt)
    rw [Nat.succ_mul] at hmul
    omega
  · have hless := hrest heq
    rw [heq]
    omega
  · have hmul := Nat.mul_le_mul_right m (Nat.succ_le_of_lt hgt)
    rw [Nat.succ_mul] at hmul
    omega

theorem key_lt_of_dltSetId_lt (hlast : last.Canonical) (h : (dltSetId id.bytes).key < last.key) :
    id.key < last.key := by
  obtain ⟨a, b, c, d, hbytes⟩ := exists_bytes id
  obtain ⟨a', b', c', d', hbytes'⟩ := exists_bytes last
  obtain ⟨ha', hb', hc'⟩ := canonical_bytes hlast hbytes'
  have hcut := bytes_dltSetId a b c d
  have hzero : (0 : UInt8).toNat = 0 := rfl
  have hblt := b.toNat_lt
  have hclt := c.toNat_lt
  have hdlt := d.toNat_lt
  have hblt' := b'.toNat_lt
  have hclt' := c'.toNat_lt
  have hdlt' := d'.toNat_lt
  rw [hbytes] at h
  rw [key_of_bytes hbytes'] at h ⊢
  rw [key_of_bytes hbytes]
  split_ifs at hcut with hza hzb hzc
  · -- the id is empty, the last one is not
    rw [key_of_bytes hcut] at h
    rw [hza]
    simp only [hzero, Nat.zero_mul, Nat.zero_add] at h ⊢
    have hpos : 0 < a'.toNat := by
      by_contra hnot
      have hnone : a'.toNat = 0 := by omega
      rw [hnone, ha' hnone, hb' (ha' hnone), hc' (hb' (ha' hnone))] at h
      exact absurd h (lt_irrefl _)
    omega
  · rw [key_of_bytes hcut] at h
    rw [hzb]
    simp only [hzero, Nat.zero_mul, Nat.add_zero, Nat.add_assoc] at h ⊢
    apply add_lt_of_leading h
    · clear h
      omega
    · clear h
      omega
    · intro hsame
      have hpos : 0 < b'.toNat := by
        by_contra hnot
        have hnone : b'.toNat = 0 := Nat.eq_zero_of_not_pos hnot
        simp [hsame, hnone, hb' hnone, hc' (hb' hnone)] at h
      clear h
      omega
  · rw [key_of_bytes hcut] at h
    rw [hzc]
    have hfront : ∀ x y : UInt8, x.toNat * 16777216 + y.toNat * 65536 = (x.toNat * 256 + y.toNat) * 65536 :=
      fun x y => by omega
    simp only [hzero, Nat.zero_mul, Nat.add_zero, hfront, Nat.add_assoc] at h ⊢
    apply add_lt_of_leading h
    · clear h
      omega
    · clear h
      omega
    · intro hsame
      have hpos : 0 < c'.toNat := by
        by_contra hnot
        have hnone : c'.toNat = 0 := Nat.eq_zero_of_not_pos hnot
        simp [hsame, hnone, hc' hnone] at h
      clear h
      omega
  · rw [key_of_bytes hcut] at h
    exact h

theorem key_lt_iff (hlast : last.Canonical) : id.key < last.key ↔ (dltSetId id.bytes).key < last.key :=
  ⟨(key_dltSetId_le id).trans_lt, key_lt_of_dltSetId_lt hlast⟩

theorem lt_key_iff (hlast : last.Canonical) (hne : last ≠ dltSetId id.bytes) :
    last.key < id.key ↔ last.key < (dltSetId id.bytes).key := by
  refine ⟨fun h => ?_, fun h => h.trans_le (key_dltSetId_le id)⟩
  rcases Nat.lt_trichotomy last.key (dltSetId id.bytes).key with hlt | heq | hgt
  · exact hlt
  · exact absurd (Id4.key_injective heq) hne
  · exact absurd (key_lt_of_dltSetId_lt hlast hgt) h.not_gt

/-- An id with bytes behind its first zero is behind the id cut there. -/
theorem key_dltSetId_lt (h : ¬ id.Canonical) : (dltSetId id.bytes).key < id.key := by
  refine lt_of_le_of_ne (key_dltSetId_le id) fun heq => h ?_
  exact Id4.key_injective heq

end keys

/-! ## Lookups -/

section lookups

variable {users : DltDaemonRegisteredUsers} {apid ctid : Id4}

/-- The id has bytes behind its first zero, and cut there it is the greatest application id. -/
def HiddenApplication (users : DltDaemonRegisteredUsers) (apid : Id4) : Prop :=
  ¬ apid.Canonical ∧ users.applications.getLast?.map DltDaemonApplication.apid = some (dltSetId apid.bytes)

/-- The application id has bytes behind its first zero, and cut there it is the greatest one that has a
context. -/
def HiddenContexts (users : DltDaemonRegisteredUsers) (apid : Id4) : Prop :=
  ¬ apid.Canonical ∧ users.contexts.getLast?.map DltDaemonContext.apid = some (dltSetId apid.bytes)

theorem dltSetId_dltSetId (id : Id4) : dltSetId (dltSetId id.bytes).bytes = dltSetId id.bytes :=
  canonical_dltSetId _

/-- The check before a search, for an id and for the same id cut at its first zero. -/
theorem outside_iff {first : Id4} (hfirst : first.Canonical) (hlast : last.Canonical)
    (h : apid.Canonical ∨ last ≠ dltSetId apid.bytes) :
    apid.cmp first < 0 ∨ apid.cmp last > 0 ↔
      (dltSetId apid.bytes).cmp first < 0 ∨ (dltSetId apid.bytes).cmp last > 0 := by
  rcases h with hcanonical | hne
  · rw [show dltSetId apid.bytes = apid from hcanonical]
  · rw [gt_iff_lt, gt_iff_lt, memcmp_neg_iff, memcmp_neg_iff, memcmp_pos_iff, memcmp_pos_iff]
    exact or_congr (key_lt_iff hfirst) (lt_key_iff hlast hne)

section

variable (h : Registered users)
include h

theorem Registered.apid_canonical {a : DltDaemonApplication} (ha : a ∈ users.applications) :
    a.apid.Canonical :=
  (h.ok.apps_canonical _ (mem_map.mpr ⟨a, ha, rfl⟩)).1

theorem Registered.context_apid_canonical (hc : c ∈ users.contexts) : c.apid.Canonical := by
  obtain ⟨a, ha, hid⟩ := mem_map.mp (h.ok.registered c.ids (mem_map.mpr ⟨c, hc, rfl⟩))
  rw [show c.apid = a.1 from hid.symm]
  exact (h.ok.apps_canonical a ha).1

theorem Registered.ctid_canonical (hc : c ∈ users.contexts) : c.ctid.Canonical :=
  (h.ok.ctids_canonical c.ids (mem_map.mpr ⟨c, hc, rfl⟩)).1

/-- **Applications are found by the id up to its first zero**, but for a hidden one. -/
theorem applicationFind_raw (hseen : ¬ HiddenApplication users apid) :
    users.applicationFind apid = users.applicationFind (dltSetId apid.bytes) := by
  unfold applicationFind
  rw [isEmpty_dltSetId, dltSetId_dltSetId, h.numApplications_eq]
  by_cases hnil : users.applications = []
  · simp [hnil]
  have hlen := length_pos_iff.mpr hnil
  have hlast : users.applications[users.applications.length - 1]? = users.applications.getLast? :=
    getLast?_eq_getElem?.symm
  rw [hlast, getLast?_eq_some_getLast hnil, getElem?_eq_getElem hlen]
  have hor : apid.Canonical ∨ (users.applications.getLast hnil).apid ≠ dltSetId apid.bytes := by
    by_contra hnot
    rw [not_or, not_not] at hnot
    apply hseen
    refine ⟨hnot.1, ?_⟩
    rw [getLast?_eq_some_getLast hnil, map_some, hnot.2]
  simp only [outside_iff (h.apid_canonical (getElem_mem hlen)) (h.apid_canonical (getLast_mem hnil)) hor]

end

theorem applicationFind_hidden (hnum : users.numApplications = users.applications.length)
    (hhidden : HiddenApplication users apid) : users.applicationFind apid = none := by
  obtain ⟨hraw, hlast⟩ := hhidden
  obtain ⟨last, hget, hid⟩ := map_eq_some_iff.mp hlast
  have hnil : users.applications ≠ [] := by
    rintro hnil
    rw [hnil] at hget
    cases hget
  have hlen := length_pos_iff.mpr hnil
  unfold applicationFind
  rw [hnum, ← getLast?_eq_getElem?, hget, getElem?_eq_getElem hlen]
  have hout : apid.cmp last.apid > 0 := by
    rw [gt_iff_lt, memcmp_pos_iff, hid]
    exact key_dltSetId_lt hraw
  simp [hout]

theorem contextFind_hidden (hnum : users.numContexts = users.contexts.length)
    (hhidden : HiddenContexts users apid) : users.contextFind apid ctid = none := by
  obtain ⟨hraw, hlast⟩ := hhidden
  obtain ⟨last, hget, hid⟩ := map_eq_some_iff.mp hlast
  have hnil : users.contexts ≠ [] := by
    rintro hnil
    rw [hnil] at hget
    cases hget
  have hlen := length_pos_iff.mpr hnil
  unfold contextFind
  rw [hnum, ← getLast?_eq_getElem?, hget, getElem?_eq_getElem hlen]
  have hout : apid.cmp last.apid > 0 := by
    rw [gt_iff_lt, memcmp_pos_iff, hid]
    exact key_dltSetId_lt hraw
  simp [hout]

/-- **Contexts are found by the ids up to their first zero**, but for hidden ones. -/
theorem contextFind_raw (h : Registered users) (hseen : ¬ HiddenContexts users apid ∨
      (dltSetId apid.bytes, dltSetId ctid.bytes) ∉ users.contexts.map ids) :
    users.contextFind apid ctid = users.contextFind (dltSetId apid.bytes) (dltSetId ctid.bytes) := by
  by_cases hhidden : HiddenContexts users apid
  · -- the context is not in the table, so both searches fail
    have hnot := hseen.resolve_left (not_not.mpr hhidden)
    have hcut : users.contextFind (dltSetId apid.bytes) (dltSetId ctid.bytes) = none := by
      rw [Option.eq_none_iff_forall_ne_some]
      intro c hc
      obtain ⟨context, hget, hids⟩ := map_eq_some_iff.mp
        ((h.contextFind_iff (canonical_dltSetId _) (canonical_dltSetId _)).mp hc)
      exact hnot (mem_map.mpr ⟨context, mem_of_getElem? hget, hids⟩)
    rw [hcut]
    exact contextFind_hidden h.numContexts_eq hhidden
  unfold contextFind
  rw [isEmpty_dltSetId, isEmpty_dltSetId, dltSetId_dltSetId, dltSetId_dltSetId, h.numContexts_eq]
  by_cases hnil : users.contexts = []
  · simp [hnil]
  have hlen := length_pos_iff.mpr hnil
  have hlast : users.contexts[users.contexts.length - 1]? = users.contexts.getLast? :=
    getLast?_eq_getElem?.symm
  rw [hlast, getLast?_eq_some_getLast hnil, getElem?_eq_getElem hlen]
  have hor : apid.Canonical ∨ (users.contexts.getLast hnil).apid ≠ dltSetId apid.bytes := by
    by_contra hnot
    rw [not_or, not_not] at hnot
    apply hhidden
    refine ⟨hnot.1, ?_⟩
    rw [getLast?_eq_some_getLast hnil, map_some, hnot.2]
  simp only [outside_iff (h.context_apid_canonical (getElem_mem hlen))
    (h.context_apid_canonical (getLast_mem hnil)) hor]

end lookups

/-! ## Adding with or without memory -/

section adding

variable {Buf : Type} {daemon : DltDaemon Buf} {users users' : DltDaemonRegisteredUsers} {malloc : Malloc}
  {apid ctid : Id4}

theorem allocateApplications_of_succeeds {malloc' : Malloc} (hm' : malloc'.Succeeds)
    (h : users.allocateApplications malloc = some users') : users.allocateApplications malloc' = some users' := by
  unfold allocateApplications at h ⊢
  split_ifs at h ⊢
  · obtain ⟨-, -, rfl⟩ := map_eq_some_iff.mp h
    obtain ⟨fresh, hfresh⟩ := Option.isSome_iff_exists.mp
      (hm' (sizeofDltDaemonApplication * dltDaemonApplAllocSize))
    rw [hfresh]
    rfl
  · exact h

theorem appendApplication_of_succeeds {malloc' : Malloc} (hm' : malloc'.Succeeds)
    (h : users.appendApplication malloc apid = some users') :
    users.appendApplication malloc' apid = some users' := by
  unfold appendApplication at h ⊢
  obtain ⟨room, hroom, hroom'⟩ := map_eq_some_iff.mp h
  dsimp only
  rw [tableRoom_of_succeeds hm' hroom, ← hroom']
  rfl

variable (malloc) in
/-- Adding an application with a cut id keeps the invariant, whether there is memory or not. -/
theorem allRegistered_applicationAdd_cut (h : AllRegistered daemon) (ipc : UserIpc) (hcanonical : apid.Canonical)
    (pid : ℤ) (description : Option (List UInt8)) (fd : ℤ) (ecu : Id4) :
    AllRegistered (dltDaemonApplicationAdd malloc ipc daemon apid pid description fd ecu).1 := by
  have hfull := allRegistered_applicationAdd h zeroMalloc_succeeds ipc hcanonical pid description fd ecu
  unfold dltDaemonApplicationAdd at hfull ⊢
  split_ifs at hfull ⊢ with hempty
  · exact h
  cases hl : dltDaemonFindUsersList daemon ecu with
  | none => exact h
  | some l =>
  cases hu : daemon.userList[l]? with
  | none => simpa [hu] using h
  | some users₀ =>
  cases hallocate : users₀.allocateApplications malloc with
  | none => simpa [hu, hallocate] using h
  | some users =>
  have hallocate' := allocateApplications_of_succeeds zeroMalloc_succeeds hallocate
  simp only [hl, hu, bind_some, hallocate, hallocate'] at hfull ⊢
  cases hfind : users.applicationFind apid with
  | some i =>
    simp only [hfind] at hfull ⊢
    exact hfull
  | none =>
  cases happend : users.appendApplication malloc apid with
  | none =>
    obtain ⟨mid, hmid, hr, -, -⟩ :=
      allocateApplications_registered zeroMalloc_succeeds (h users₀ (mem_of_getElem? hu))
    obtain rfl : users = mid := Option.some.inj (hallocate'.symm.trans hmid)
    exact h.modifyUsers fun _ _ => hr
  | some added =>
    simp only [hfind, appendApplication_of_succeeds zeroMalloc_succeeds happend] at hfull ⊢
    exact hfull

variable (malloc) in
/-- Adding a context with cut ids keeps the invariant, whether there is memory or not. -/
theorem allRegistered_contextAdd_cut (h : AllRegistered daemon) (slot : DltDaemonContext) (hapid : apid.Canonical)
    (hctid : ctid.Canonical) (logLevel traceStatus logLevelPos userHandle : ℤ) (description : Option (List UInt8))
    (ecu : Id4) :
    AllRegistered (dltDaemonContextAdd malloc slot daemon apid ctid logLevel traceStatus logLevelPos userHandle
      description ecu).1 := by
  have hfull := allRegistered_contextAdd h zeroMalloc_succeeds slot hapid hctid logLevel traceStatus logLevelPos
    userHandle description ecu
  unfold dltDaemonContextAdd at hfull ⊢
  split_ifs at hfull ⊢ with hempty hlevel htrace
  · exact h
  · exact h
  · exact h
  cases hl : dltDaemonFindUsersList daemon ecu with
  | none => exact h
  | some l =>
  cases hu : daemon.userList[l]? with
  | none => simpa [hu] using h
  | some users₀ =>
  cases hallocate : users₀.allocateContexts malloc with
  | none => simpa [hu, hallocate] using h
  | some users =>
  have hallocate' := allocateContexts_of_succeeds zeroMalloc_succeeds hallocate
  simp only [hl, hu, bind_some, hallocate, hallocate'] at hfull ⊢
  cases happ : users.applicationFind apid with
  | none =>
    simp only [happ] at hfull ⊢
    exact hfull
  | some a =>
  cases hfind : users.contextFind apid ctid with
  | some c =>
    simp only [happ, hfind] at hfull ⊢
    exact hfull
  | none =>
  cases happend : users.appendContext malloc slot apid ctid a with
  | none =>
    obtain ⟨mid, hmid, hr, -, -⟩ :=
      allocateContexts_registered zeroMalloc_succeeds (h users₀ (mem_of_getElem? hu))
    obtain rfl : users = mid := Option.some.inj (hallocate'.symm.trans hmid)
    simp only [happend]
    exact h.modifyUsers fun _ _ => hr
  | some added =>
    simp only [happ, hfind, happend, appendContext_of_succeeds zeroMalloc_succeeds happend] at hfull ⊢
    exact hfull

theorem applicationSetProcess_ecus (ipc : UserIpc) (daemon : DltDaemon Buf) (l i : ℕ) (pid fd : ℤ)
    (old : DltDaemonApplication) :
    (applicationSetProcess ipc daemon l i pid fd old).userList.map ecu =
      daemon.userList.map ecu := by
  have hmodify : ∀ (daemon : DltDaemon Buf) (l : ℕ) {f : DltDaemonRegisteredUsers → DltDaemonRegisteredUsers},
      (∀ users, (f users).ecu = users.ecu) → (daemon.modifyUsers l f).userList.map ecu =
        daemon.userList.map ecu :=
    fun daemon l f hf => modifyUsers_ecus daemon l fun users _ => hf users
  have hreset : (dltDaemonApplicationResetUserHandle daemon l i old.userHandle).userList.map
      ecu = daemon.userList.map ecu := by
    unfold dltDaemonApplicationResetUserHandle
    split_ifs
    · rfl
    · dsimp only
      rw [hmodify _ _ (by exact fun _ => rfl)]
      split
      · exact hmodify _ _ fun _ => rfl
      · rfl
  unfold applicationSetProcess
  dsimp only
  split_ifs
  · rw [hmodify _ _ (by exact fun _ => rfl), hmodify _ _ (by exact fun _ => rfl), hreset]
  · rw [hmodify _ _ (by exact fun _ => rfl), hreset]
  · exact hmodify _ _ fun _ => rfl
  · rfl

theorem not_hidden_of_greater {a : DltDaemonApplication} (h : Registered users) (ha : a ∈ users.applications)
    (hlt : (dltSetId apid.bytes).key < a.apid.key) : ¬ HiddenApplication users apid := by
  rintro ⟨-, hlast⟩
  obtain ⟨last, hget, hid⟩ := map_eq_some_iff.mp hlast
  have hnil : users.applications ≠ [] := ne_nil_of_mem ha
  have hfirst : users.applications[0]? = some (users.applications.head hnil) :=
    by rw [← head?_eq_getElem?, head?_eq_some_head hnil]
  rw [getLast?_eq_getElem?] at hget
  have hbounds := (h.applications_sorted.mem_bounds ha hfirst hget).2
  rw [hid] at hbounds
  exact absurd hlt hbounds.not_gt

def NoMemoryForApplication (malloc : Malloc) (users : DltDaemonRegisteredUsers) (apid : Id4) : Prop :=
  ∀ mid, users.allocateApplications malloc = some mid → mid.appendApplication malloc apid = none

/-- An application can be added without meeting a hidden entry: the id has no bytes behind its first zero,
or it is empty, or a greater one is registered, or no entry is changed. -/
def SeenApplicationAdd (malloc : Malloc) (users : DltDaemonRegisteredUsers) (apid : Id4) : Prop :=
  apid.Canonical ∨ apid.isEmpty = true ∨
    (∃ a ∈ users.applications, (dltSetId apid.bytes).key < a.apid.key) ∨
    dltSetId apid.bytes ∉ users.applications.map DltDaemonApplication.apid ∧ NoMemoryForApplication malloc users apid

theorem SameAll.exists_right {daemon' : DltDaemon Buf} (h : SameAll daemon daemon') {l : ℕ}
    (hl : daemon.userList[l]? = some users) :
    ∃ users', daemon'.userList[l]? = some users' ∧ SameTables users users' := by
  have hrel := h l
  rw [hl] at hrel
  generalize daemon'.userList[l]? = entry at hrel ⊢
  cases hrel with
  | some hs => exact ⟨_, rfl, hs⟩

/-- The lookup in all tables, for an application that is not hidden. -/
theorem dltDaemonApplicationFind_raw (h : AllRegistered daemon) {l : ℕ} {ecu : Id4}
    (hl : dltDaemonFindUsersList daemon ecu = some l) (hu : daemon.userList[l]? = some users)
    (hseen : ¬ HiddenApplication users apid) :
    dltDaemonApplicationFind daemon apid ecu = dltDaemonApplicationFind daemon (dltSetId apid.bytes) ecu := by
  simp only [dltDaemonApplicationFind, hl, hu, bind_eq_bind, bind_some,
    applicationFind_raw (h users (mem_of_getElem? hu)) hseen]

/-- A table with a new application is sorted, and the others are still there. -/
theorem sorted_keeps {added : DltDaemonRegisteredUsers} (hr : Registered users) (hpos : 0 < users.applicationsRoom)
    (hcanonical : apid.Canonical) (hadd : users.appendApplication malloc apid = some added) (ipc : UserIpc)
    (daemon : DltDaemon Buf) {l : ℕ} (hlt : l < daemon.userList.length)
    (f : DltDaemonApplication → DltDaemonApplication)
    (hf : ∀ a, ((f a).apid, (f a).numContexts) = (a.apid, a.numContexts)) (i : ℕ) (pid fd : ℤ)
    (old : DltDaemonApplication) :
    ∃ final, ((applicationSetProcess ipc (daemon.modifyUsers l fun _ => added.modifyApplication i f) l i pid fd
        old).modifyUsers l fun users => { users with
          applications := qsort dltDaemonCmpApid (users.applications.take users.numApplications) }).userList[l]? =
        some final ∧ ∀ a ∈ users.applications, ∃ a' ∈ final.applications, a'.apid = a.apid := by
  obtain ⟨room, -, happend⟩ := appendApplication_eq zeroMalloc_succeeds hr hpos hcanonical
  obtain rfl := Option.some.inj ((appendApplication_of_succeeds zeroMalloc_succeeds hadd).symm.trans happend)
  have hset := SameAll.setProcess ipc (daemon.modifyUsers l fun _ => modifyApplication
    { users with
      numApplications := users.numApplications + 1
      applicationsRoom := room
      applications := users.applications ++ [{
        apid, pid := 0, applicationDescription := none, numContexts := 0
        userHandle := dltFdInit, ownsUserHandle := false }] } i f) l i pid fd old
  obtain ⟨mid, hmid, hsame⟩ := hset.exists_right (l := l) (by
    rw [getElem?_modifyUsers, if_pos rfl, getElem?_eq_getElem hlt, map_some])
  refine ⟨_, by rw [getElem?_modifyUsers, if_pos rfl, hmid, map_some], fun a ha => ?_⟩
  have hids : (a.apid, a.numContexts) ∈ mid.registry.apps := by
    rw [hsame.registry_eq]
    simp only [registry, modifyApplication]
    rw [map_modify_of_eq (g := fun a : DltDaemonApplication => (a.apid, a.numContexts)) hf]
    exact mem_map.mpr ⟨a, mem_append_left _ ha, rfl⟩
  obtain ⟨a', ha', hid⟩ := mem_map.mp hids
  have hnum : mid.numApplications = mid.applications.length := by
    rw [hsame.numApplications_eq, hsame.length_applications]
    simp [modifyApplication, hr.numApplications_eq]
  refine ⟨a', ?_, congrArg Prod.fst hid⟩
  rw [(qsort_perm dltDaemonCmpApid _).mem_iff, hnum, take_length]
  exact ha'

/-- **Adding an application with any id** is adding it with the id cut at its first zero, if no hidden entry
is met. -/
theorem applicationAdd_raw (h : AllRegistered daemon) (ipc : UserIpc) (pid : ℤ) (description : Option (List UInt8))
    (fd : ℤ) (ecu : Id4)
    (hseen : ∀ l users, dltDaemonFindUsersList daemon ecu = some l → daemon.userList[l]? = some users →
      SeenApplicationAdd malloc users apid) :
    dltDaemonApplicationAdd malloc ipc daemon apid pid description fd ecu =
      dltDaemonApplicationAdd malloc ipc daemon (dltSetId apid.bytes) pid description fd ecu := by
  have hall := allRegistered_applicationAdd_cut malloc h ipc (canonical_dltSetId apid.bytes) pid description fd ecu
  unfold dltDaemonApplicationAdd at hall ⊢
  rw [isEmpty_dltSetId] at hall ⊢
  by_cases hempty : apid.isEmpty = true
  · rw [if_pos hempty, if_pos hempty]
  rw [if_neg hempty] at hall ⊢
  rw [if_neg hempty]
  cases hl : dltDaemonFindUsersList daemon ecu with
  | none => rfl
  | some l =>
  cases hu : daemon.userList[l]? with
  | none => simp [hu]
  | some users₀ =>
  cases hallocate : users₀.allocateApplications malloc with
  | none => simp [hu, hallocate]
  | some users =>
  obtain ⟨mid, hmid, hr, hpos, -⟩ :=
    allocateApplications_registered zeroMalloc_succeeds (h users₀ (mem_of_getElem? hu))
  obtain rfl : users = mid :=
    Option.some.inj ((allocateApplications_of_succeeds zeroMalloc_succeeds hallocate).symm.trans hmid)
  obtain ⟨hentries, -, hecu⟩ := allocateApplications_entries hallocate
  have happend : users.appendApplication malloc (dltSetId apid.bytes) = users.appendApplication malloc apid := by
    unfold appendApplication
    rw [dltSetId_dltSetId]
  simp only [hl, hu, bind_some, hallocate, happend] at hall ⊢
  rcases hseen l users₀ hl hu with hcanonical | hnone | ⟨a, ha, hlt⟩ | ⟨hnew, hmemory⟩
  · rw [show dltSetId apid.bytes = apid from hcanonical]
  · exact absurd hnone hempty
  · rw [← hentries] at ha
    rw [applicationFind_raw hr (not_hidden_of_greater hr ha hlt)]
    cases hfind : users.applicationFind (dltSetId apid.bytes) with
    | some i => rfl
    | none =>
    cases hadd : users.appendApplication malloc apid with
    | none => rfl
    | some added =>
    simp only [hfind, hadd] at hall ⊢
    cases hold : added.applications[added.numApplications - 1]? with
    | none => rfl
    | some old =>
    simp only [hold] at hall ⊢
    have happend' : users.appendApplication malloc (dltSetId apid.bytes) = some added := happend.trans hadd
    obtain ⟨final, hfinal, hkeeps⟩ := sorted_keeps hr hpos (canonical_dltSetId apid.bytes) happend' ipc
      (daemon.modifyUsers l fun _ => users) (l := l) (by
        rw [DltDaemon.modifyUsers, length_modify]
        exact (List.getElem?_eq_some_iff.mp hu).1)
      (fun application => { application with applicationDescription := description }) (fun _ => rfl)
      (added.numApplications - 1) pid fd old
    obtain ⟨a', ha', hid⟩ := hkeeps a ha
    rw [← hid] at hlt
    have haddedEcu : added.ecu = users.ecu := by
      obtain ⟨-, -, rfl⟩ := map_eq_some_iff.mp hadd
      rfl
    rw [dltDaemonApplicationFind_raw hall ?_ hfinal
      (not_hidden_of_greater (hall final (mem_of_getElem? hfinal)) ha' hlt)]
    rw [findUsersList_modifyUsers _ _ _ (by exact fun _ => rfl),
      findUsersList_congr (applicationSetProcess_ecus ..), modifyUsers_modifyUsers,
      findUsersList_congr (modifyUsers_ecus daemon l fun old hold => ?_), hl]
    rw [hu, Option.some.injEq] at hold
    rw [← hold]
    exact haddedEcu.trans hecu
  · -- the application is not registered, and it cannot be added
    have hseen' : ¬ HiddenApplication users apid := by
      rintro ⟨-, hlast⟩
      obtain ⟨last, hget, hid⟩ := map_eq_some_iff.mp hlast
      rw [← hentries] at hnew
      exact hnew (mem_map.mpr ⟨last, mem_of_getLast? hget, hid⟩)
    rw [applicationFind_raw hr hseen', hmemory users hallocate]

def NoMemoryForContext (malloc : Malloc) (users : DltDaemonRegisteredUsers) : Prop :=
  ∀ mid, users.allocateContexts malloc = some mid →
    tableRoom malloc sizeofDltDaemonContext dltDaemonContextAllocSize mid.contextsRoom (mid.numContexts + 1) = none

/-- A context can be added without meeting hidden entries: the application id has no bytes behind its first
zero, or it is not registered, or a greater one has a context, or no entry is changed. -/
def SeenContextAdd (malloc : Malloc) (users : DltDaemonRegisteredUsers) (apid ctid : Id4)
    (logLevel traceStatus : ℤ) : Prop :=
  apid.Canonical ∨ (apid.isEmpty = true ∨ ctid.isEmpty = true) ∨
    (logLevel < dltLogDefault ∨ logLevel > dltLogVerbose) ∨
    (traceStatus < dltTraceStatusDefault ∨ traceStatus > dltTraceStatusOn) ∨
    dltSetId apid.bytes ∉ users.applications.map DltDaemonApplication.apid ∨
    (∃ c ∈ users.contexts, (dltSetId apid.bytes).key < c.apid.key) ∨
    (dltSetId apid.bytes, dltSetId ctid.bytes) ∉ users.contexts.map ids ∧
      NoMemoryForContext malloc users

/-- The lookup in all tables, for contexts that are not hidden. -/
theorem dltDaemonContextFind_raw (h : AllRegistered daemon) {l : ℕ} {ecu : Id4}
    (hl : dltDaemonFindUsersList daemon ecu = some l) (hu : daemon.userList[l]? = some users)
    (hseen : ¬ HiddenContexts users apid ∨
      (dltSetId apid.bytes, dltSetId ctid.bytes) ∉ users.contexts.map ids) :
    dltDaemonContextFind daemon apid ctid ecu =
      dltDaemonContextFind daemon (dltSetId apid.bytes) (dltSetId ctid.bytes) ecu := by
  simp only [dltDaemonContextFind, hl, hu, bind_eq_bind, bind_some,
    contextFind_raw (h users (mem_of_getElem? hu)) hseen]

theorem not_hidden_of_greater_context (h : Registered users) (hc : c ∈ users.contexts)
    (hlt : (dltSetId apid.bytes).key < c.apid.key) : ¬ HiddenContexts users apid := by
  rintro ⟨-, hlast⟩
  obtain ⟨last, hget, hid⟩ := map_eq_some_iff.mp hlast
  have hnil : users.contexts ≠ [] := ne_nil_of_mem hc
  have hfirst : users.contexts[0]? = some (users.contexts.head hnil) := by
    rw [← head?_eq_getElem?, head?_eq_some_head hnil]
  rw [getLast?_eq_getElem?] at hget
  have hbounds := (h.contexts_sorted.mem_bounds hc hfirst hget).2
  have hcLt := c.ctid.key_lt
  have hlastLt := last.ctid.key_lt
  simp only [idsKey, ids, hid] at hbounds
  omega

/-- A greater application id with a context hides no application. -/
theorem not_hidden_of_context (h : Registered users) (hc : c ∈ users.contexts)
    (hlt : (dltSetId apid.bytes).key < c.apid.key) : ¬ HiddenApplication users apid := by
  obtain ⟨a, ha, hid⟩ := h.tablesOk.registered c hc
  rw [← hid] at hlt
  exact not_hidden_of_greater h ha hlt

theorem HiddenApplication.mem (h : HiddenApplication users apid) :
    dltSetId apid.bytes ∈ users.applications.map DltDaemonApplication.apid := by
  obtain ⟨last, hget, hid⟩ := map_eq_some_iff.mp h.2
  exact mem_map.mpr ⟨last, mem_of_getLast? hget, hid⟩

theorem appendContext_cut (slot : DltDaemonContext) (a : ℕ) :
    users.appendContext malloc slot (dltSetId apid.bytes) (dltSetId ctid.bytes) a =
      users.appendContext malloc slot apid ctid a := by
  unfold appendContext
  rw [dltSetId_dltSetId, dltSetId_dltSetId]

/-- When the lookups agree, before the context is added and after, adding agrees. -/
theorem contextAdd_agrees (h : AllRegistered daemon) (slot : DltDaemonContext)
    (logLevel traceStatus logLevelPos userHandle : ℤ) (description : Option (List UInt8)) {ecu : Id4} {l : ℕ}
    {users₀ : DltDaemonRegisteredUsers} (hl : dltDaemonFindUsersList daemon ecu = some l)
    (hu : daemon.userList[l]? = some users₀) (hallocate : users₀.allocateContexts malloc = some users)
    (hr : Registered users) (hpos : 0 < users.contextsRoom)
    (happ : users.applicationFind apid = users.applicationFind (dltSetId apid.bytes))
    (hctx : users.contextFind apid ctid = users.contextFind (dltSetId apid.bytes) (dltSetId ctid.bytes))
    (hafter : ∀ final, Registered final → (∀ c ∈ users.contexts, ∃ c' ∈ final.contexts, c'.apid = c.apid) →
      ¬ HiddenContexts final apid) :
    dltDaemonContextAdd malloc slot daemon apid ctid logLevel traceStatus logLevelPos userHandle description ecu =
      dltDaemonContextAdd malloc slot daemon (dltSetId apid.bytes) (dltSetId ctid.bytes) logLevel traceStatus
        logLevelPos userHandle description ecu := by
  have hall := allRegistered_contextAdd_cut malloc h slot (canonical_dltSetId apid.bytes)
    (canonical_dltSetId ctid.bytes) logLevel traceStatus logLevelPos userHandle description ecu
  obtain ⟨-, -, hecu⟩ := allocateContexts_entries hallocate
  unfold dltDaemonContextAdd at hall ⊢
  rw [isEmpty_dltSetId, isEmpty_dltSetId] at hall ⊢
  simp only [hl, hu, bind_some, hallocate, appendContext_cut] at hall ⊢
  split_ifs at hall ⊢
  · rfl
  · rfl
  · rfl
  rw [happ, hctx]
  cases hfindApp : users.applicationFind (dltSetId apid.bytes) with
  | none => rfl
  | some a =>
  cases hfindCtx : users.contextFind (dltSetId apid.bytes) (dltSetId ctid.bytes) with
  | some c => rfl
  | none =>
  cases hadd : users.appendContext malloc slot apid ctid a with
  | none => simp only [hadd]
  | some added =>
  simp only [hfindApp, hfindCtx, hadd] at hall ⊢
  obtain ⟨room, -, happend⟩ := appendContext_eq zeroMalloc_succeeds hr hpos slot (canonical_dltSetId apid.bytes)
    (canonical_dltSetId ctid.bytes) a
  have hadd' := appendContext_of_succeeds zeroMalloc_succeeds (appendContext_cut slot a |>.trans hadd)
  obtain rfl := Option.some.inj (hadd'.symm.trans happend)
  simp only [modifyUsers_modifyUsers] at hall ⊢
  have hget : ∀ final : DltDaemonRegisteredUsers, (daemon.modifyUsers l fun _ => final).userList[l]? = some final := by
    intro final
    rw [getElem?_modifyUsers, if_pos rfl, hu, map_some]
  have hfind : ∀ final : DltDaemonRegisteredUsers, final.ecu = users₀.ecu →
      dltDaemonFindUsersList (daemon.modifyUsers l fun _ => final) ecu = some l := by
    intro final hfinal
    rw [findUsersList_congr (modifyUsers_ecus daemon l fun old hold => ?_), hl]
    rw [hu, Option.some.injEq] at hold
    rw [← hold]
    exact hfinal
  refine Prod.ext rfl (dltDaemonContextFind_raw hall (hfind _ hecu) (hget _) (.inl ?_))
  refine hafter _ (hall _ (mem_of_getElem? (hget _))) fun c hc => ?_
  have hkeep : ∀ (f : DltDaemonContext → DltDaemonContext) (c' : DltDaemonContext) (i : ℕ),
      (∀ x, (f x).apid = x.apid) → c.apid ∈ ((users.contexts ++ [c']).modify i f).map DltDaemonContext.apid := by
    intro f c' i hf
    rw [map_modify_of_eq hf]
    exact mem_map.mpr ⟨c, mem_append_left _ hc, rfl⟩
  obtain ⟨c', hc', hid⟩ := mem_map.mp (hkeep
    (contextSet (daemon.modifyUsers l fun _ => users) ecu true logLevel traceStatus logLevelPos userHandle description)
    { slot with apid := dltSetId apid.bytes, ctid := dltSetId ctid.bytes, contextDescription := none }
    (users.numContexts + 1 - 1) fun _ => rfl)
  refine ⟨c', ?_, hid⟩
  simp only [modifyContext]
  rw [(qsort_perm _ _).mem_iff, take_of_length_le]
  · exact hc'
  · rw [length_modify, length_append, length_singleton, hr.numContexts_eq]

/-- **Adding a context with any ids** is adding it with the ids cut at their first zeros, if no hidden entry is
met. -/
theorem contextAdd_raw (h : AllRegistered daemon) (slot : DltDaemonContext)
    (logLevel traceStatus logLevelPos userHandle : ℤ) (description : Option (List UInt8)) (ecu : Id4)
    (hseen : ∀ l users, dltDaemonFindUsersList daemon ecu = some l → daemon.userList[l]? = some users →
      SeenContextAdd malloc users apid ctid logLevel traceStatus) :
    dltDaemonContextAdd malloc slot daemon apid ctid logLevel traceStatus logLevelPos userHandle description ecu =
      dltDaemonContextAdd malloc slot daemon (dltSetId apid.bytes) (dltSetId ctid.bytes) logLevel traceStatus
        logLevelPos userHandle description ecu := by
  cases hl : dltDaemonFindUsersList daemon ecu with
  | none => simp only [dltDaemonContextAdd, hl, isEmpty_dltSetId]
  | some l =>
  cases hu : daemon.userList[l]? with
  | none => simp only [dltDaemonContextAdd, hl, hu, bind_none, isEmpty_dltSetId]
  | some users₀ =>
  cases hallocate : users₀.allocateContexts malloc with
  | none => simp only [dltDaemonContextAdd, hl, hu, bind_some, hallocate, isEmpty_dltSetId]
  | some users =>
  obtain ⟨mid, hmid, hr, hpos, -⟩ :=
    allocateContexts_registered zeroMalloc_succeeds (h users₀ (mem_of_getElem? hu))
  obtain rfl : users = mid :=
    Option.some.inj ((allocateContexts_of_succeeds zeroMalloc_succeeds hallocate).symm.trans hmid)
  obtain ⟨hentries, hcontexts, -⟩ := allocateContexts_entries hallocate
  have hagrees := @contextAdd_agrees _ daemon users malloc apid ctid h slot logLevel traceStatus logLevelPos
    userHandle description ecu l users₀ hl hu hallocate hr hpos
  rcases hseen l users₀ hl hu with hcanonical | hnone | hnone | hnone | hnew | ⟨c, hc, hlt⟩ | ⟨hnew, hmemory⟩
  · have hctx : ∀ final, ¬ HiddenContexts final apid := fun final hidden => hidden.1 hcanonical
    exact hagrees (applicationFind_raw hr fun hidden => hidden.1 hcanonical)
      (contextFind_raw hr (.inl (hctx users))) fun final _ _ => hctx final
  · simp only [dltDaemonContextAdd, isEmpty_dltSetId, if_pos hnone]
  · simp only [dltDaemonContextAdd, isEmpty_dltSetId, if_pos hnone]
  · simp only [dltDaemonContextAdd, isEmpty_dltSetId, if_pos hnone]
  · -- the application is not registered
    rw [← hentries] at hnew
    have happ := applicationFind_raw hr fun hidden : HiddenApplication users apid => hnew hidden.mem
    have hnone : users.applicationFind (dltSetId apid.bytes) = none := by
      rw [Option.eq_none_iff_forall_ne_some]
      intro i hi
      obtain ⟨a, ha, hid⟩ := map_eq_some_iff.mp ((hr.applicationFind_iff (canonical_dltSetId _)).mp hi)
      exact hnew (mem_map.mpr ⟨a, mem_of_getElem? ha, hid⟩)
    simp only [dltDaemonContextAdd, hl, hu, bind_some, hallocate, isEmpty_dltSetId, happ, hnone]
  · rw [← hcontexts] at hc
    refine hagrees (applicationFind_raw hr (not_hidden_of_context hr hc hlt))
      (contextFind_raw hr (.inl (not_hidden_of_greater_context hr hc hlt))) fun final hfinal hkeeps => ?_
    obtain ⟨c', hc', hid⟩ := hkeeps c hc
    rw [← hid] at hlt
    exact not_hidden_of_greater_context hfinal hc' hlt
  · -- the context is not registered, and it cannot be added
    rw [← hcontexts] at hnew
    have hctx := contextFind_raw hr (.inr hnew)
    have hnone : users.contextFind (dltSetId apid.bytes) (dltSetId ctid.bytes) = none := by
      rw [Option.eq_none_iff_forall_ne_some]
      intro i hi
      obtain ⟨c, hc, hid⟩ := map_eq_some_iff.mp
        ((hr.contextFind_iff (canonical_dltSetId _) (canonical_dltSetId _)).mp hi)
      exact hnew (mem_map.mpr ⟨c, mem_of_getElem? hc, hid⟩)
    have happend : ∀ a, users.appendContext malloc slot apid ctid a = none := by
      intro a
      simp only [appendContext, hmemory users hallocate, Option.map_none]
    simp only [dltDaemonContextAdd, hl, hu, bind_some, hallocate, isEmpty_dltSetId, hctx, hnone,
      appendContext_cut, happend]
    cases users.applicationFind apid <;> cases users.applicationFind (dltSetId apid.bytes) <;> rfl

end adding

/-! ## Runs -/

section runs

variable {Buf : Type} {daemon : DltDaemon Buf}

/-- An operation with any ids. -/
inductive IdOp
  | table (op : DbOp)
  /-- `dlt_daemon_application_find`. -/
  | applicationFind (apid ecu : Id4)
  /-- `dlt_daemon_context_find`. -/
  | contextFind (apid ctid ecu : Id4)

/-- The operation on the tables with its ids cut at their first zeros. -/
def DbOp.cut : DbOp → DbOp
  | .applicationAdd malloc ipc apid pid description fd ecu =>
      .applicationAdd malloc ipc (dltSetId apid.bytes) pid description fd ecu
  | .contextAdd malloc slot apid ctid logLevel traceStatus logLevelPos userHandle description ecu =>
      .contextAdd malloc slot (dltSetId apid.bytes) (dltSetId ctid.bytes) logLevel traceStatus logLevelPos userHandle
        description ecu
  | .unregisterApplication apid => .unregisterApplication (dltSetId apid.bytes)
  | .unregisterContext apid ctid => .unregisterContext (dltSetId apid.bytes) (dltSetId ctid.bytes)
  | .contextsClear ecu => .contextsClear ecu
  | .clear ecu => .clear ecu
  | .free ecu => .free ecu

/-- The operation with its ids cut at their first zeros. -/
def IdOp.cut : IdOp → IdOp
  | .table op => .table op.cut
  | .applicationFind apid ecu => .applicationFind (dltSetId apid.bytes) ecu
  | .contextFind apid ctid ecu => .contextFind (dltSetId apid.bytes) (dltSetId ctid.bytes) ecu

/-- What the function that adds or finds an entry returns during an operation on the tables. -/
def DbOp.returned (daemon : DltDaemon Buf) : DbOp → Option (ℕ × ℕ)
  | .applicationAdd malloc ipc apid pid description fd ecu =>
      (dltDaemonApplicationAdd malloc ipc daemon apid pid description fd ecu).2
  | .contextAdd malloc slot apid ctid logLevel traceStatus logLevelPos userHandle description ecu =>
      (dltDaemonContextAdd malloc slot daemon apid ctid logLevel traceStatus logLevelPos userHandle description ecu).2
  | .unregisterApplication apid => dltDaemonApplicationFind daemon apid daemon.ecuid
  | .unregisterContext apid ctid => dltDaemonContextFind daemon apid ctid daemon.ecuid
  | _ => none

/-- The daemon after an operation, and what the operation returns. -/
def idStep (daemon : DltDaemon Buf) : IdOp → DltDaemon Buf × Option (ℕ × ℕ)
  | .table op => (dbStep daemon op, op.returned daemon)
  | .applicationFind apid ecu => (daemon, dltDaemonApplicationFind daemon apid ecu)
  | .contextFind apid ctid ecu => (daemon, dltDaemonContextFind daemon apid ctid ecu)

/-- The daemon after operations, and what each of them returns. -/
def idRun (daemon : DltDaemon Buf) : List IdOp → DltDaemon Buf × List (Option (ℕ × ℕ))
  | [] => (daemon, [])
  | op :: ops =>
      let step := idStep daemon op
      ((idRun step.1 ops).1, step.2 :: (idRun step.1 ops).2)

/-- **Only the ids up to their first zeros matter** in a run. -/
structure IdsMatter (daemon : DltDaemon Buf) (ops : List IdOp) : Prop where
  /-- The run is that with the ids cut, results and tables. -/
  same : idRun daemon ops = idRun daemon (ops.map IdOp.cut)
  /-- No two applications have the same id up to the first zero. -/
  applications : ∀ users ∈ (idRun daemon ops).1.userList,
    (users.applications.map fun a => idText a.apid.bytes).Nodup
  /-- No two contexts have the same ids up to the first zeros. -/
  contexts : ∀ users ∈ (idRun daemon ops).1.userList,
    (users.contexts.map fun c => (idText c.apid.bytes, idText c.ctid.bytes)).Nodup
  /-- A registered application is found by its id, which must not be hidden. -/
  application_found : ∀ ecu l users i a, dltDaemonFindUsersList (idRun daemon ops).1 ecu = some l →
    (idRun daemon ops).1.userList[l]? = some users → users.applications[i]? = some a →
    ∀ apid, idText apid.bytes = idText a.apid.bytes → ¬ HiddenApplication users apid →
      dltDaemonApplicationFind (idRun daemon ops).1 apid ecu = some (l, i)
  /-- A registered context is found by its ids, which must not be hidden. -/
  context_found : ∀ ecu l users i c, dltDaemonFindUsersList (idRun daemon ops).1 ecu = some l →
    (idRun daemon ops).1.userList[l]? = some users → users.contexts[i]? = some c →
    ∀ apid ctid, idText apid.bytes = idText c.apid.bytes → idText ctid.bytes = idText c.ctid.bytes →
      ¬ HiddenContexts users apid → dltDaemonContextFind (idRun daemon ops).1 apid ctid ecu = some (l, i)

/-- The table of an ECU has a property. -/
def TableOfEcu (daemon : DltDaemon Buf) (ecu : Id4) (p : DltDaemonRegisteredUsers → Prop) : Prop :=
  ∀ l users, dltDaemonFindUsersList daemon ecu = some l → daemon.userList[l]? = some users → p users

/-- The operation meets no hidden entry. -/
def IdOp.Seen (daemon : DltDaemon Buf) : IdOp → Prop
  | .table (.applicationAdd malloc _ apid _ _ _ ecu) =>
      TableOfEcu daemon ecu fun users => SeenApplicationAdd malloc users apid
  | .table (.contextAdd malloc _ apid ctid logLevel traceStatus _ _ _ ecu) =>
      TableOfEcu daemon ecu fun users => SeenContextAdd malloc users apid ctid logLevel traceStatus
  | .table (.unregisterApplication apid) =>
      TableOfEcu daemon daemon.ecuid fun users => ¬ HiddenApplication users apid
  | .table (.unregisterContext apid ctid) =>
      TableOfEcu daemon daemon.ecuid fun users => ¬ HiddenContexts users apid ∨
        (dltSetId apid.bytes, dltSetId ctid.bytes) ∉ users.contexts.map ids
  | .table _ => True
  | .applicationFind apid ecu => TableOfEcu daemon ecu fun users => ¬ HiddenApplication users apid
  | .contextFind apid ctid ecu => TableOfEcu daemon ecu fun users => ¬ HiddenContexts users apid ∨
      (dltSetId apid.bytes, dltSetId ctid.bytes) ∉ users.contexts.map ids

/-- No operation of the run meets a hidden entry. -/
def RunSeen (daemon : DltDaemon Buf) : List IdOp → Prop
  | [] => True
  | op :: ops => op.Seen daemon ∧ RunSeen (idStep daemon op).1 ops

section

variable (h : AllRegistered daemon)
include h

theorem applicationFind_of_seen {apid ecu : Id4}
    (hseen : TableOfEcu daemon ecu fun users => ¬ HiddenApplication users apid) :
    dltDaemonApplicationFind daemon apid ecu = dltDaemonApplicationFind daemon (dltSetId apid.bytes) ecu := by
  cases hl : dltDaemonFindUsersList daemon ecu with
  | none => simp only [dltDaemonApplicationFind, hl, bind_eq_bind, bind_none]
  | some l =>
  cases hu : daemon.userList[l]? with
  | none => simp only [dltDaemonApplicationFind, hl, hu, bind_eq_bind, bind_some, bind_none]
  | some users => exact dltDaemonApplicationFind_raw h hl hu (hseen l users hl hu)

theorem contextFind_of_seen {apid ctid ecu : Id4}
    (hseen : TableOfEcu daemon ecu fun users => ¬ HiddenContexts users apid ∨
      (dltSetId apid.bytes, dltSetId ctid.bytes) ∉ users.contexts.map ids) :
    dltDaemonContextFind daemon apid ctid ecu =
      dltDaemonContextFind daemon (dltSetId apid.bytes) (dltSetId ctid.bytes) ecu := by
  cases hl : dltDaemonFindUsersList daemon ecu with
  | none => simp only [dltDaemonContextFind, hl, bind_eq_bind, bind_none]
  | some l =>
  cases hu : daemon.userList[l]? with
  | none => simp only [dltDaemonContextFind, hl, hu, bind_eq_bind, bind_some, bind_none]
  | some users => exact dltDaemonContextFind_raw h hl hu (hseen l users hl hu)

/-- An operation that meets no hidden entry is the operation with its ids cut. -/
theorem idStep_cut {op : IdOp} (hseen : op.Seen daemon) : idStep daemon op = idStep daemon op.cut := by
  cases op with
  | applicationFind apid ecu => exact Prod.ext rfl (applicationFind_of_seen h hseen)
  | contextFind apid ctid ecu => exact Prod.ext rfl (contextFind_of_seen h hseen)
  | table op =>
    cases op with
    | applicationAdd malloc ipc apid pid description fd ecu =>
      have heq := applicationAdd_raw h ipc pid description fd ecu hseen
      exact Prod.ext (congrArg Prod.fst heq) (congrArg Prod.snd heq)
    | contextAdd malloc slot apid ctid logLevel traceStatus logLevelPos userHandle description ecu =>
      have heq := contextAdd_raw h slot logLevel traceStatus logLevelPos userHandle description ecu hseen
      exact Prod.ext (congrArg Prod.fst heq) (congrArg Prod.snd heq)
    | unregisterApplication apid =>
      have heq := applicationFind_of_seen h hseen
      refine Prod.ext ?_ heq
      simp only [idStep, dbStep, IdOp.cut, DbOp.cut, unregisterApplication, heq]
    | unregisterContext apid ctid =>
      have heq := contextFind_of_seen h hseen
      refine Prod.ext ?_ heq
      simp only [idStep, dbStep, IdOp.cut, DbOp.cut, unregisterContext, heq]
    | contextsClear ecu => rfl
    | clear ecu => rfl
    | free ecu => rfl

/-- An operation with cut ids keeps the invariant, whether there is memory or not. -/
theorem allRegistered_idStep_cut (op : IdOp) : AllRegistered (idStep daemon op.cut).1 := by
  cases op with
  | applicationFind apid ecu => exact h
  | contextFind apid ctid ecu => exact h
  | table op =>
    cases op with
    | applicationAdd malloc ipc apid pid description fd ecu =>
      exact allRegistered_applicationAdd_cut malloc h ipc (canonical_dltSetId _) pid description fd ecu
    | contextAdd malloc slot apid ctid logLevel traceStatus logLevelPos userHandle description ecu =>
      exact allRegistered_contextAdd_cut malloc h slot (canonical_dltSetId _) (canonical_dltSetId _) logLevel
        traceStatus logLevelPos userHandle description ecu
    | unregisterApplication apid => exact allRegistered_unregisterApplication h _
    | unregisterContext apid ctid => exact allRegistered_unregisterContext h _ _
    | contextsClear ecu => exact allRegistered_contextsClear h ecu
    | clear ecu => exact (allRegistered_clear h ecu).1
    | free ecu => exact (allRegistered_clear h ecu).2

/-- A run that meets no hidden entry is the run with the ids cut, and keeps the invariant. -/
theorem idRun_cut {ops : List IdOp} (hseen : RunSeen daemon ops) :
    idRun daemon ops = idRun daemon (ops.map IdOp.cut) ∧ AllRegistered (idRun daemon ops).1 := by
  induction ops generalizing daemon with
  | nil => exact ⟨rfl, h⟩
  | cons op ops ih =>
    have hstep := idStep_cut h hseen.1
    have hnext : AllRegistered (idStep daemon op).1 := by
      rw [hstep]
      exact allRegistered_idStep_cut h op
    obtain ⟨hrun, hall⟩ := ih hnext hseen.2
    refine ⟨?_, hall⟩
    simp only [idRun, map_cons, ← hstep, hrun]

end

theorem dltSetId_of_idText {a b : List UInt8} (h : idText a = idText b) : dltSetId a = dltSetId b := by
  simp only [dltSetId, h]

/-- **Every run that meets no hidden entry depends on the ids up to their first zeros only.** -/
theorem idsMatter_of_unhidden {ops : List IdOp} (hempty : ∀ users ∈ daemon.userList, users.Empty)
    (hseen : RunSeen daemon ops) : IdsMatter daemon ops := by
  obtain ⟨hsame, hall⟩ := idRun_cut (DbReach.start hempty).allRegistered hseen
  refine ⟨hsame, ?_, ?_, ?_, ?_⟩
  · intro users hin
    have hr := hall users hin
    have hnodup := hr.nodup_apids.map_on (f := fun id : Id4 => idText id.bytes) ?_
    · rwa [map_map] at hnodup
    · intro x hx y hy hxy
      obtain ⟨a, ha, rfl⟩ := mem_map.mp hx
      obtain ⟨b, hb, rfl⟩ := mem_map.mp hy
      have hcut := dltSetId_of_idText hxy
      rwa [show dltSetId a.apid.bytes = a.apid from hr.apid_canonical ha,
        show dltSetId b.apid.bytes = b.apid from hr.apid_canonical hb] at hcut
  · intro users hin
    have hr := hall users hin
    have hnodup := hr.nodup_ids.map_on (f := fun ids : Id4 × Id4 => (idText ids.1.bytes, idText ids.2.bytes)) ?_
    · rwa [map_map] at hnodup
    · intro x hx y hy hxy
      obtain ⟨c, hc, rfl⟩ := mem_map.mp hx
      obtain ⟨d, hd, rfl⟩ := mem_map.mp hy
      have happ := dltSetId_of_idText (congrArg Prod.fst hxy)
      have hctx := dltSetId_of_idText (congrArg Prod.snd hxy)
      rw [show dltSetId c.ids.1.bytes = c.ids.1 from hr.context_apid_canonical hc,
        show dltSetId d.ids.1.bytes = d.ids.1 from hr.context_apid_canonical hd] at happ
      rw [show dltSetId c.ids.2.bytes = c.ids.2 from hr.ctid_canonical hc,
        show dltSetId d.ids.2.bytes = d.ids.2 from hr.ctid_canonical hd] at hctx
      exact Prod.ext happ hctx
  · intro ecu l users i a hl hu ha apid htext hhidden
    have hr := hall users (mem_of_getElem? hu)
    rw [dltDaemonApplicationFind_raw hall hl hu hhidden]
    refine (dltDaemonApplicationFind_iff hall (canonical_dltSetId _) ecu l i).mpr ⟨hl, users, a, hu, ha, ?_⟩
    rw [dltSetId_of_idText htext]
    exact (hr.apid_canonical (mem_of_getElem? ha)).symm
  · intro ecu l users i c hl hu hc apid ctid happ hctx hhidden
    have hr := hall users (mem_of_getElem? hu)
    rw [dltDaemonContextFind_raw hall hl hu (.inl hhidden)]
    refine (dltDaemonContextFind_iff hall (canonical_dltSetId _) (canonical_dltSetId _) ecu l i).mpr
      ⟨hl, users, c, hu, hc, ?_⟩
    rw [dltSetId_of_idText happ, dltSetId_of_idText hctx]
    exact Prod.ext (hr.context_apid_canonical (mem_of_getElem? hc)).symm
      (hr.ctid_canonical (mem_of_getElem? hc)).symm

/-- An id with a byte behind its first zero. -/
def sampleRawId : Id4 := ⟨[76, 79, 0, 1], rfl⟩

/-- The registration of that id, as the application that is the only one. -/
def sampleRawAdd : IdOp :=
  .table (.applicationAdd zeroMalloc ⟨true, false, fun _ => -1⟩ sampleRawId 17 none 5 (dltSetId [69, 67, 85, 49]))

theorem emptyDaemon_empty : ∀ users ∈ emptyDaemon.userList, users.Empty := by
  intro users hin
  rw [mem_singleton.mp hin]
  exact ⟨rfl, rfl, rfl, rfl, rfl, rfl⟩

/-- The registration of a greater id, without a process. -/
def sampleGreaterAdd : IdOp :=
  .table (.applicationAdd zeroMalloc ⟨true, false, fun _ => -1⟩ (dltSetId [90, 90]) 0 none (-1)
    (dltSetId [69, 67, 85, 49]))

/-- The ids of the applications in the tables. -/
def applicationIds (daemon : DltDaemon Unit) : List (List Id4) :=
  daemon.userList.map fun users => users.applications.map DltDaemonApplication.apid

/-- With a greater id in the table, the bytes behind the first zero do not matter. -/
theorem idsMatter_of_unhidden_sample : IdsMatter emptyDaemon [sampleGreaterAdd, sampleRawAdd] := by
  refine idsMatter_of_unhidden emptyDaemon_empty ⟨?_, ?_, trivial⟩
  · intro l users _ _
    exact .inl (canonical_dltSetId _)
  · intro l users _ hget
    have htables : applicationIds (idStep emptyDaemon sampleGreaterAdd).1 = [[dltSetId [90, 90]]] := by decide +kernel
    have hin : users.applications.map DltDaemonApplication.apid ∈ [[dltSetId [90, 90]]] :=
      htables ▸ mem_map.mpr ⟨users, mem_of_getElem? hget, rfl⟩
    obtain ⟨a, ha, hapid⟩ := mem_map.mp (mem_singleton.mp hin ▸ mem_singleton_self _)
    refine .inr (.inr (.inl ⟨a, ha, ?_⟩))
    rw [hapid]
    decide

/-- The application is registered, and the function returns the null pointer; registered again, it is counted
twice. -/
theorem application_hidden_and_registered_twice :
    (∀ users ∈ emptyDaemon.userList, users.Empty) ∧ ¬ IdsMatter emptyDaemon [sampleRawAdd] ∧
      ((idRun emptyDaemon [sampleRawAdd, sampleRawAdd]).1.userList.map fun users => users.numApplications) = [2] := by
  refine ⟨emptyDaemon_empty, fun hmatter => ?_, by decide +kernel⟩
  have hsame := congrArg Prod.snd hmatter.same
  revert hsame
  decide +kernel

end runs

end Dlt.Daemon
