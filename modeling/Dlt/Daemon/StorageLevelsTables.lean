import Dlt.Daemon.LevelsTold
import Dlt.Daemon.StorageLevels

/-!
# What the keys of a filter do to the table of the own ECU

* `updateContextLoglevel_moves` — the level of exactly these contexts is set.
-/

namespace Dlt.Daemon

open Dlt.Lib Dlt.Shared Dlt.Logstorage List
open Option (map_eq_some_iff map_some some_ne_none)

variable {Buf : Type} {daemon daemon' daemon'' : DltDaemon Buf} {s : LevelState Buf} {l : ℕ}
  {users : DltDaemonRegisteredUsers}
variable {f : ℕ → Id4 × Id4 → ℤ → ℤ} {l' : ℕ} {ecuid : Id4} {currLogLevel : ℤ}

/-! ## Storage log levels -/

/-- The ids and the storage log level of a context. -/
def storageEntry (context : DltDaemonContext) : (Id4 × Id4) × ℤ := (context.ids, context.storageLogLevel)

/-- The ids and the storage log level at a position of a table. -/
def storageAt (daemon : DltDaemon Buf) (l j : ℕ) : Option ((Id4 × Id4) × ℤ) :=
  ((daemon.userList[l]?).bind fun users => users.contexts[j]?).map storageEntry

theorem storageAt_eq_map_context (s : LevelState Buf) (l j : ℕ) :
    storageAt s.daemon l j = (s.context l j).map storageEntry := rfl

/-- What a step does to a table: the registry and the lookups stay the same, and the storage log level at a position
becomes what `f` gives for it. -/
structure Moves (daemon daemon' : DltDaemon Buf) (l : ℕ) (f : ℕ → Id4 × Id4 → ℤ → ℤ) : Prop where
  same : SameAll daemon daemon'
  ecuid : daemon'.ecuid = daemon.ecuid
  find : ∀ ecu, dltDaemonFindUsersList daemon' ecu = dltDaemonFindUsersList daemon ecu
  storage : ∀ j, storageAt daemon' l j = (storageAt daemon l j).map fun p => (p.1, f j p.1 p.2)

/-- Nothing is moved. -/
def stay (_ : ℕ) (_ : Id4 × Id4) (level : ℤ) : ℤ := level

theorem map_stay (entry : Option ((Id4 × Id4) × ℤ)) (j : ℕ) :
    (entry.map fun p => (p.1, stay j p.1 p.2)) = entry := Option.map_id'

namespace Moves

theorem refl (daemon : DltDaemon Buf) (l : ℕ) : Moves daemon daemon l stay := by
  refine ⟨SameAll.refl daemon, rfl, fun _ => rfl, ?_⟩
  intro j
  exact (map_stay _ j).symm

theorem trans {g : ℕ → Id4 × Id4 → ℤ → ℤ} (h : Moves daemon daemon' l f) (h' : Moves daemon' daemon'' l g) :
    Moves daemon daemon'' l fun j ids level => g j ids (f j ids level) := by
  refine ⟨h.same.trans h'.same, h'.ecuid.trans h.ecuid, fun ecu => (h'.find ecu).trans (h.find ecu), ?_⟩
  intro j
  rw [h'.storage, h.storage, Option.map_map]
  rfl

theorem congr {g : ℕ → Id4 × Id4 → ℤ → ℤ} (h : Moves daemon daemon' l f)
    (hfg : ∀ (j : ℕ) (ids : Id4 × Id4) (level : ℤ),
      storageAt daemon l j = some (ids, level) → f j ids level = g j ids level) :
    Moves daemon daemon' l g := by
  refine ⟨h.same, h.ecuid, h.find, ?_⟩
  intro j
  rw [h.storage]
  cases hj : storageAt daemon l j with
  | none => rfl
  | some p =>
    obtain ⟨ids, level⟩ := p
    rw [map_some, map_some, hfg j ids level hj]

theorem ofUsers (l' : ℕ) {f : DltDaemonRegisteredUsers → DltDaemonRegisteredUsers}
    (hsame : ∀ users, SameTables users (f users)) (hecu : ∀ users, (f users).ecu = users.ecu)
    (hstorage : ∀ users, (f users).contexts.map storageEntry = users.contexts.map storageEntry) :
    Moves daemon (daemon.modifyUsers l' f) l stay := by
  refine ⟨SameAll.modifyUsers daemon l' hsame, rfl, ?_, ?_⟩
  · intro ecu
    exact findUsersList_modifyUsers daemon l' ecu hecu
  · intro j
    refine Eq.trans ?_ (map_stay _ j).symm
    unfold storageAt
    rw [getElem?_modifyUsers]
    by_cases hl : l' = l
    · rw [if_pos hl]
      cases daemon.userList[l]? with
      | none => rfl
      | some users =>
        show (f users).contexts[j]?.map storageEntry = users.contexts[j]?.map storageEntry
        rw [← getElem?_map, ← getElem?_map, hstorage]
    · rw [if_neg hl]

theorem ofOther (hl : l' ≠ l) (i : ℕ) {f : DltDaemonContext → DltDaemonContext}
    (hids : ∀ context, (f context).ids = context.ids) :
    Moves s.daemon (s.modifyContext l' i f).daemon l stay := by
  refine ⟨SameAll.modifyUsers _ l' fun users => SameTables.modifyContext users i hids, rfl, ?_, ?_⟩
  · intro ecu
    exact findUsersList_modifyUsers _ l' ecu fun _ => rfl
  · intro j
    refine Eq.trans ?_ (map_stay _ j).symm
    show Option.map storageEntry (Option.bind (s.daemon.modifyUsers l' _).userList[l]? _) = _
    rw [getElem?_modifyUsers, if_neg hl]
    rfl

theorem ofContext (i : ℕ) {f : DltDaemonContext → DltDaemonContext} {g : ℤ → ℤ}
    (hids : ∀ context, (f context).ids = context.ids)
    (hg : ∀ context, (f context).storageLogLevel = g context.storageLogLevel) :
    Moves s.daemon (s.modifyContext l i f).daemon l fun j _ level => if j = i then g level else level := by
  refine ⟨SameAll.modifyUsers _ l fun users => SameTables.modifyContext users i hids, rfl, ?_, ?_⟩
  · intro ecu
    exact findUsersList_modifyUsers _ l ecu fun _ => rfl
  · intro j
    show Option.map storageEntry (Option.bind (s.daemon.modifyUsers l _).userList[l]? _) = _
    rw [getElem?_modifyUsers, if_pos rfl, storageAt]
    cases s.daemon.userList[l]? with
    | none => rfl
    | some users =>
      show Option.map storageEntry (users.contexts.modify i f)[j]? = _
      rw [getElem?_modify]
      cases hj : users.contexts[j]? with
      | none => simp [hj]
      | some context =>
        by_cases hij : i = j
        · subst hij
          simp [hj, storageEntry, hids, hg]
        · simp [hj, storageEntry, hij, Ne.symm hij]

theorem resetUserHandle (l' i : ℕ) (handle : ℤ) :
    Moves daemon (dltDaemonApplicationResetUserHandle daemon l' i handle) l stay := by
  have hcontexts : ∀ own, Moves daemon (daemon.modifyUsers own (·.contextsInvalidateFd handle)) l stay := by
    intro own
    apply ofUsers own (fun users => SameTables.contextsInvalidateFd users handle) (fun _ => rfl)
    intro users
    show (users.contexts.map _).map storageEntry = _
    rw [map_map]
    apply map_congr_left
    intro context _
    show storageEntry (if context.userHandle = handle then { context with userHandle := dltFdInit } else context) = _
    split_ifs <;> rfl
  have happlication : ∀ (mid : DltDaemon Buf) (f : DltDaemonApplication → DltDaemonApplication),
      (∀ application, (f application).apid = application.apid ∧
        (f application).numContexts = application.numContexts) →
      Moves mid (mid.modifyUsers l' (·.modifyApplication i f)) l stay := by
    intro mid f hf
    exact ofUsers l' (fun users => SameTables.modifyApplication users i hf) (fun _ => rfl) fun _ => rfl
  unfold dltDaemonApplicationResetUserHandle
  split_ifs with hinit
  · exact refl daemon l
  · cases dltDaemonFindUsersList daemon daemon.ecuid with
    | none => exact happlication _ _ fun _ => ⟨rfl, rfl⟩
    | some own => exact (hcontexts own).trans (happlication _ _ fun _ => ⟨rfl, rfl⟩)

theorem send (flags : LevelFlags) (s : LevelState Buf) (context : DltDaemonContext) (write : WriteOutcome) :
    Moves s.daemon (dltDaemonUserSendLogLevel flags s context write).1.daemon l stay := by
  unfold dltDaemonUserSendLogLevel
  split_ifs
  · exact refl _ l
  · cases write with
    | ok => exact refl _ l
    | error => exact refl _ l
    | epipe =>
      show Moves s.daemon (resetApplicationOf s.daemon context.apid) l stay
      unfold resetApplicationOf
      cases dltDaemonApplicationFind s.daemon context.apid s.daemon.ecuid with
      | none => exact refl _ l
      | some position =>
        dsimp only
        split
        · exact refl _ l
        · exact resetUserHandle _ _ _

theorem tellContext (flags : LevelFlags) (outcome : ℕ → WriteOutcome) (s : LevelState Buf) (l' i : ℕ) :
    Moves s.daemon (tellContext flags outcome s l' i).daemon l stay := by
  unfold Daemon.tellContext
  cases s.context l' i with
  | none => exact refl _ l
  | some context => exact send flags s context _

theorem own (h : Moves daemon daemon' l f) (hown : Own daemon l users) :
    ∃ users', Own daemon' l users' ∧ users'.numContexts = users.numContexts := by
  have hrel := h.same l
  rw [hown.get] at hrel
  cases hget : daemon'.userList[l]? with
  | none =>
    rw [hget] at hrel
    cases hrel
  | some users' =>
    rw [hget] at hrel
    cases hrel with
    | some htables =>
      refine ⟨users', ⟨hown.registered.same h.same, ?_, hget⟩, htables.numContexts_eq⟩
      rw [h.ecuid, h.find]
      exact hown.find

end Moves

/-! ## One context -/

/-- What a context gets: the level if it is higher, or no level at all. -/
def newLevel (currLogLevel level : ℤ) : ℤ :=
  if currLogLevel > 0 then max currLogLevel level else dltLogDefault

/-- The tables of an ECU are the own ones exactly if the ECU is the own one. -/
theorem Own.find_iff (h : Own daemon l users) (ecu : Id4) :
    dltDaemonFindUsersList daemon ecu = some l ↔ strncmpEq ecu daemon.ecuid = true := by
  have hfind := h.find
  unfold dltDaemonFindUsersList at hfind ⊢
  obtain ⟨hlt, hmatch, -⟩ := findIdx?_eq_some_iff_getElem.mp hfind
  simp only [strncmpEq, decide_eq_true_eq] at hmatch ⊢
  constructor
  · intro hecu
    obtain ⟨hlt', hmatch', -⟩ := findIdx?_eq_some_iff_getElem.mp hecu
    exact (of_decide_eq_true hmatch').trans hmatch.symm
  · intro hecu
    rw [← hfind]
    simp only [strncmpEq, hecu]

section one

variable (flags : LevelFlags) (outcome : ℕ → WriteOutcome)

theorem setStorageLevel_moves (hecuid : strncmpEq ecuid s.daemon.ecuid = true)
    (hlow : dltLogDefault ≤ currLogLevel) (hhigh : currLogLevel ≤ dltLogVerbose) (i : ℕ) :
    Moves s.daemon (setStorageLevel flags outcome s l i ecuid currLogLevel).daemon l
      fun j _ level => if j = i then newLevel currLogLevel level else level := by
  have hrange : ¬ (currLogLevel > dltLogVerbose ∨ currLogLevel < dltLogDefault) := by omega
  unfold setStorageLevel
  by_cases hpos : currLogLevel > 0
  · rw [if_pos hpos, dltDaemonLogstorageSendLogLevel, if_neg hrange, if_pos hecuid]
    have hraise := Moves.ofContext (s := s) (l := l) i
      (f := fun context => { context with storageLogLevel := max currLogLevel context.storageLogLevel })
      (g := newLevel currLogLevel) (fun _ => rfl) fun context => (if_pos hpos).symm
    cases hcontext : s.context l i with
    | none =>
      apply (Moves.refl s.daemon l).congr
      intro j ids level hj
      rw [if_neg]
      · rfl
      · rintro rfl
        rw [storageAt_eq_map_context, hcontext] at hj
        exact absurd hj.symm (some_ne_none _)
    | some context =>
      dsimp only
      split_ifs
      · exact hraise.trans (Moves.tellContext flags outcome _ l i)
      · exact hraise
  · rw [if_neg hpos, dltDaemonLogstorageResetLogLevel, if_neg hrange]
    have hreset := Moves.ofContext (s := s) (l := l) i
      (f := fun context => { context with storageLogLevel := dltLogDefault })
      (g := newLevel currLogLevel) (fun _ => rfl) fun context => (if_neg hpos).symm
    dsimp only
    split_ifs
    · exact hreset.trans (Moves.tellContext flags outcome _ l i)
    · exact hreset

theorem setStorageLevel_other (hl : l' ≠ l) (i : ℕ) (ecuid : Id4) (currLogLevel : ℤ) :
    Moves s.daemon (setStorageLevel flags outcome s l' i ecuid currLogLevel).daemon l stay := by
  unfold setStorageLevel
  by_cases hpos : currLogLevel > 0
  · rw [if_pos hpos, dltDaemonLogstorageSendLogLevel]
    have hraise := Moves.ofOther (s := s) hl i
      (f := fun context => { context with storageLogLevel := max currLogLevel context.storageLogLevel }) fun _ => rfl
    split_ifs
    · exact Moves.refl _ l
    · cases s.context l' i with
      | none => exact Moves.refl _ l
      | some context =>
        dsimp only
        split_ifs
        · exact hraise.trans (Moves.tellContext flags outcome _ l' i)
        · exact hraise
    · exact Moves.refl _ l
  · rw [if_neg hpos, dltDaemonLogstorageResetLogLevel]
    have hreset := Moves.ofOther (s := s) hl i
      (f := fun context => { context with storageLogLevel := dltLogDefault }) fun _ => rfl
    dsimp only
    split_ifs
    · exact Moves.refl _ l
    · exact hreset.trans (Moves.tellContext flags outcome _ l' i)
    · exact hreset

/-! ## All contexts of a table -/

theorem updateIfMatches_moves (hecuid : strncmpEq ecuid s.daemon.ecuid = true)
    (hlow : dltLogDefault ≤ currLogLevel) (hhigh : currLogLevel ≤ dltLogVerbose) (id : Id4) (cmpFlag : CmpFlag)
    (i : ℕ) :
    Moves s.daemon (updateIfMatches flags outcome id currLogLevel cmpFlag ecuid l s i).daemon l
      fun j ids level =>
        if j = i ∧ strncmpEq id (cmpFlag.tmpId ids) = true then newLevel currLogLevel level else level := by
  have hat : ∀ (ids : Id4 × Id4) (level : ℤ), storageAt s.daemon l i = some (ids, level) →
      ∃ context, s.context l i = some context ∧ context.ids = ids := by
    intro ids level hi
    obtain ⟨context, hcontext, hentry⟩ := map_eq_some_iff.mp hi
    exact ⟨context, hcontext, congrArg Prod.fst hentry⟩
  unfold updateIfMatches
  cases hcontext : s.context l i with
  | none =>
    apply (Moves.refl s.daemon l).congr
    intro j ids level hj
    rw [if_neg]
    · rfl
    · rintro ⟨rfl, -⟩
      obtain ⟨context, hsome, -⟩ := hat ids level hj
      exact absurd (hcontext.symm.trans hsome).symm (some_ne_none _)
  | some context =>
    dsimp only
    split_ifs with hfound
    · apply (setStorageLevel_moves flags outcome hecuid hlow hhigh i).congr
      intro j ids level hj
      by_cases hji : j = i
      · subst hji
        obtain ⟨context', hsome, rfl⟩ := hat ids level hj
        obtain rfl : context = context' := Option.some.inj (hcontext.symm.trans hsome)
        rw [if_pos rfl, if_pos ⟨rfl, hfound⟩]
      · rw [if_neg hji, if_neg fun h => hji h.1]
    · apply (Moves.refl s.daemon l).congr
      intro j ids level hj
      rw [if_neg]
      · rfl
      · rintro ⟨rfl, hmatch⟩
        obtain ⟨context', hsome, rfl⟩ := hat ids level hj
        obtain rfl : context = context' := Option.some.inj (hcontext.symm.trans hsome)
        exact hfound hmatch

theorem updateIfMatches_other (hl : l' ≠ l) (id : Id4) (currLogLevel : ℤ) (cmpFlag : CmpFlag) (ecuid : Id4)
    (i : ℕ) :
    Moves s.daemon (updateIfMatches flags outcome id currLogLevel cmpFlag ecuid l' s i).daemon l stay := by
  unfold updateIfMatches
  cases s.context l' i with
  | none => exact Moves.refl _ l
  | some context =>
    dsimp only
    split_ifs
    · exact setStorageLevel_other flags outcome hl i ecuid currLogLevel
    · exact Moves.refl _ l

theorem updateContexts_moves (hecuid : strncmpEq ecuid s.daemon.ecuid = true)
    (hlow : dltLogDefault ≤ currLogLevel) (hhigh : currLogLevel ≤ dltLogVerbose) (id : Id4) (cmpFlag : CmpFlag)
    {counts : List ℕ} (hnodup : counts.Nodup) :
    Moves s.daemon (counts.foldl (updateIfMatches flags outcome id currLogLevel cmpFlag ecuid l) s).daemon l
      fun j ids level =>
        if j ∈ counts ∧ strncmpEq id (cmpFlag.tmpId ids) = true then newLevel currLogLevel level else level := by
  induction counts generalizing s with
  | nil =>
    apply (Moves.refl s.daemon l).congr
    intro j ids level _
    rw [if_neg (fun h => not_mem_nil h.1)]
    rfl
  | cons i counts ih =>
    obtain ⟨hi, hnodup⟩ := nodup_cons.mp hnodup
    have hfirst := updateIfMatches_moves (l := l) flags outcome hecuid hlow hhigh id cmpFlag i
    have hrest := ih (s := updateIfMatches flags outcome id currLogLevel cmpFlag ecuid l s i)
      (by rw [hfirst.ecuid]; exact hecuid) hnodup
    apply (hfirst.trans hrest).congr
    intro j ids level _
    by_cases hji : j = i
    · subst hji
      simp [hi]
    · simp [hji]

theorem updateContexts_other (hl : l' ≠ l) (id : Id4) (currLogLevel : ℤ) (cmpFlag : CmpFlag) (ecuid : Id4)
    (counts : List ℕ) :
    Moves s.daemon (counts.foldl (updateIfMatches flags outcome id currLogLevel cmpFlag ecuid l') s).daemon l
      stay := by
  induction counts generalizing s with
  | nil => exact Moves.refl _ l
  | cons i counts ih => exact (updateIfMatches_other flags outcome hl id currLogLevel cmpFlag ecuid i).trans ih

theorem updateAllContexts_moves (hown : Own s.daemon l users) (id : Id4) (hlow : dltLogDefault ≤ currLogLevel)
    (hhigh : currLogLevel ≤ dltLogVerbose) (cmpFlag : CmpFlag) (ecuid : Id4) :
    Moves s.daemon (dltLogstorageUpdateAllContexts flags outcome s id currLogLevel cmpFlag ecuid).daemon l
      fun _ ids level =>
        if strncmpEq ecuid s.daemon.ecuid = true ∧ strncmpEq id (cmpFlag.tmpId ids) = true then
          newLevel currLogLevel level else level := by
  have hnone : strncmpEq ecuid s.daemon.ecuid = false → Moves s.daemon s.daemon l fun _ ids level =>
      if strncmpEq ecuid s.daemon.ecuid = true ∧ strncmpEq id (cmpFlag.tmpId ids) = true then
        newLevel currLogLevel level else level := by
    intro hecuid
    apply (Moves.refl s.daemon l).congr
    intro j ids level _
    rw [if_neg fun h => Bool.false_ne_true (hecuid.symm.trans h.1)]
    rfl
  unfold dltLogstorageUpdateAllContexts
  by_cases hecuid : strncmpEq ecuid s.daemon.ecuid = true
  · rw [(hown.find_iff ecuid).mpr hecuid]
    simp only [hown.get]
    apply (updateContexts_moves flags outcome hecuid hlow hhigh id cmpFlag nodup_range).congr
    intro j ids level hj
    have hmem : j ∈ List.range users.numContexts := by
      rw [storageAt, hown.get] at hj
      obtain ⟨context, hcontext, -⟩ := map_eq_some_iff.mp hj
      rw [mem_range, hown.users_registered.numContexts_eq]
      exact (List.getElem?_eq_some_iff.mp hcontext).1
    simp only [hmem, hecuid, true_and]
  · have hecuid := Bool.eq_false_iff.mpr hecuid
    cases hfind : dltDaemonFindUsersList s.daemon ecuid with
    | none => exact hnone hecuid
    | some l' =>
      have hl : l' ≠ l := by
        rintro rfl
        exact Bool.false_ne_true (hecuid.symm.trans ((hown.find_iff ecuid).mp hfind))
      dsimp only
      cases s.daemon.userList[l']? with
      | none => exact hnone hecuid
      | some other =>
        apply (updateContexts_other flags outcome hl id currLogLevel cmpFlag ecuid _).congr
        intro j ids level _
        rw [if_neg fun h => Bool.false_ne_true (hecuid.symm.trans h.1)]
        rfl

theorem updateContext_moves (hown : Own s.daemon l users) {apid ctid : Id4} (hapid : apid.Canonical)
    (hctid : ctid.Canonical) (ecuid : Id4) (hlow : dltLogDefault ≤ currLogLevel)
    (hhigh : currLogLevel ≤ dltLogVerbose) :
    Moves s.daemon (dltLogstorageUpdateContext flags outcome s apid ctid ecuid currLogLevel).daemon l
      fun _ ids level =>
        if strncmpEq ecuid s.daemon.ecuid = true ∧ ids = (apid, ctid) then newLevel currLogLevel level else level := by
  unfold dltLogstorageUpdateContext
  have hiff := dltDaemonContextFind_iff hown.registered hapid hctid ecuid
  cases hfind : dltDaemonContextFind s.daemon apid ctid ecuid with
  | none =>
    apply (Moves.refl s.daemon l).congr
    intro j ids level hj
    rw [if_neg]
    · rfl
    · rintro ⟨hecuid, rfl⟩
      rw [storageAt, hown.get] at hj
      obtain ⟨context, hcontext, hentry⟩ := map_eq_some_iff.mp hj
      have hsome := (hiff l j).mpr ⟨(hown.find_iff ecuid).mpr hecuid, users, context, hown.get, hcontext,
        congrArg Prod.fst hentry⟩
      exact absurd (hfind.symm.trans hsome).symm (some_ne_none _)
  | some position =>
    obtain ⟨l', i⟩ := position
    obtain ⟨hl', found, context, hget, hcontext, hids⟩ := (hiff l' i).mp hfind
    dsimp only
    by_cases hecuid : strncmpEq ecuid s.daemon.ecuid = true
    · obtain rfl : l' = l := Option.some.inj (hl'.symm.trans ((hown.find_iff ecuid).mpr hecuid))
      apply (setStorageLevel_moves flags outcome hecuid hlow hhigh i).congr
      intro j ids level hj
      have hposition : j = i ↔ ids = (apid, ctid) := by
        rw [storageAt, hget] at hj
        obtain ⟨context', hcontext', hentry⟩ := map_eq_some_iff.mp hj
        have hids' : context'.ids = ids := congrArg Prod.fst hentry
        constructor
        · rintro rfl
          obtain rfl : context = context' := Option.some.inj (hcontext.symm.trans hcontext')
          exact hids'.symm.trans hids
        · rintro rfl
          have hsome := (hiff l' j).mpr ⟨hl', found, context', hget, hcontext', hids'⟩
          exact congrArg Prod.snd (Option.some.inj (hsome.symm.trans hfind))
      simp only [hecuid, hposition, true_and]
    · have hl : l' ≠ l := by
        rintro rfl
        exact hecuid ((hown.find_iff ecuid).mp hl')
      apply (setStorageLevel_other flags outcome hl i ecuid currLogLevel).congr
      intro j ids level _
      rw [if_neg fun h => hecuid h.1]
      rfl

end one

/-! ## The contexts of a key -/

/-- The ids that are read match a context. -/
def SplitKey.matchesIds (split : SplitKey) (ids : Id4 × Id4) : Bool :=
  if split.ctid = wildcardId ∧ split.apid = wildcardId then true
  else if split.ctid = wildcardId then strncmpEq split.apid (dltSetId ids.1.bytes)
  else if split.apid = wildcardId then strncmpEq split.ctid (dltSetId ids.2.bytes)
  else ids = (split.apid, split.ctid)

/-- A key is read for a context of the own ECU. -/
def keyMatches (ecuid : Id4) (key : List UInt8) (ids : Id4 × Id4) : Bool :=
  match splitKey key with
  | none => false
  | some split => (split.ecuid.isEmpty || strncmpEq split.ecuid ecuid) && split.matchesIds ids

theorem canonical_splitKey {key : List UInt8} {split : SplitKey} (h : splitKey key = some split) :
    split.apid.Canonical ∧ split.ctid.Canonical := by
  obtain ⟨⟨ret, parts⟩, -, h⟩ := Option.bind_eq_some_iff.mp h
  dsimp only at h
  split_ifs at h
  obtain rfl := Option.some.inj h
  exact ⟨canonical_dltSetId _, canonical_dltSetId _⟩

theorem strncmpEq_split (split : SplitKey) (ecuid : Id4) :
    strncmpEq (if split.ecuid.isEmpty then dltSetId ecuid.bytes else split.ecuid) ecuid =
      (split.ecuid.isEmpty || strncmpEq split.ecuid ecuid) := by
  by_cases hempty : split.ecuid.isEmpty = true
  · rw [if_pos hempty, hempty, Bool.true_or, strncmpEq, dltSetId, idText_idText]
    exact decide_eq_true rfl
  · rw [if_neg hempty, Bool.eq_false_iff.mpr hempty, Bool.false_or]

/-- **A key sets the level of the contexts that it is read for.** -/
theorem updateContextLoglevel_moves (flags : LevelFlags) (outcome : ℕ → WriteOutcome)
    (hown : Own s.daemon l users) (key : List UInt8) (hlow : dltLogDefault ≤ currLogLevel)
    (hhigh : currLogLevel ≤ dltLogVerbose) :
    Moves s.daemon (dltLogstorageUpdateContextLoglevel flags outcome s key currLogLevel).daemon l
      fun _ ids level => if keyMatches s.daemon.ecuid key ids = true then newLevel currLogLevel level else level := by
  unfold dltLogstorageUpdateContextLoglevel
  cases hsplit : splitKey key with
  | none =>
    apply (Moves.refl s.daemon l).congr
    intro j ids level _
    rw [keyMatches, hsplit]
    rfl
  | some split =>
    obtain ⟨hapid, hctid⟩ := canonical_splitKey hsplit
    have hkey : ∀ ids, keyMatches s.daemon.ecuid key ids =
        (strncmpEq (if split.ecuid.isEmpty then dltSetId s.daemon.ecuid.bytes else split.ecuid) s.daemon.ecuid &&
          split.matchesIds ids) := by
      intro ids
      rw [keyMatches, hsplit, strncmpEq_split]
    simp only [hkey, Bool.and_eq_true]
    unfold SplitKey.matchesIds
    by_cases hboth : split.ctid = wildcardId ∧ split.apid = wildcardId
    · simp only [if_pos hboth]
      apply (updateAllContexts_moves flags outcome hown split.apid hlow hhigh .ecid _).congr
      intro j ids level _
      rw [hboth.2]
      simp [CmpFlag.tmpId, strncmpEq]
    simp only [if_neg hboth]
    by_cases hctidWild : split.ctid = wildcardId
    · simp only [if_pos hctidWild]
      exact updateAllContexts_moves flags outcome hown split.apid hlow hhigh .apid _
    simp only [if_neg hctidWild]
    by_cases hapidWild : split.apid = wildcardId
    · simp only [if_pos hapidWild]
      exact updateAllContexts_moves flags outcome hown split.ctid hlow hhigh .ctid _
    simp only [if_neg hapidWild, decide_eq_true_eq]
    exact updateContext_moves flags outcome hown hapid hctid _ hlow hhigh

end Dlt.Daemon
