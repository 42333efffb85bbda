import Dlt.Daemon.Levels
import Dlt.Daemon.RuntimeCfgRestart
import Dlt.Lib.Runs

/-!
# Invariants of the levels

* `LevelInvariant inv ok` — `inv` is kept when a message is sent to a context and when a value that
  is `ok` is stored. Then the loops over the contexts keep it.
-/

namespace Dlt.Daemon

open Dlt.Lib Dlt.Shared List Option

variable {Buf : Type} {P : DltDaemonContext → Prop} {daemon : DltDaemon Buf}
variable {i l : ℕ} {f : DltDaemonContext → DltDaemonContext} {traceStatus : ℤ} {databuffer : List UInt8}

/-! ## All contexts -/

/-- A table counts its contexts, and all of them have a property. -/
structure ContextsAre (P : DltDaemonContext → Prop) (users : DltDaemonRegisteredUsers) : Prop where
  count : users.numContexts = users.contexts.length
  all : ∀ context ∈ users.contexts, P context

/-- All contexts of all tables have a property. -/
def AllContexts (P : DltDaemonContext → Prop) (daemon : DltDaemon Buf) : Prop :=
  ∀ users ∈ daemon.userList, ContextsAre P users

theorem ContextsAre.modifyContext {users : DltDaemonRegisteredUsers} (h : ContextsAre P users)
    (hf : ∀ context, P context → P (f context)) : ContextsAre P (users.modifyContext i f) := by
  refine ⟨h.count.trans (length_modify ..).symm, fun context hin => ?_⟩
  rcases mem_modify hin with ⟨old, hold, rfl⟩ | ⟨j, -, hj⟩
  · exact hf old (h.all old (mem_of_getElem? hold))
  · exact h.all context (mem_of_getElem? hj)

namespace AllContexts

theorem modifyUsers (h : AllContexts P daemon) {f : DltDaemonRegisteredUsers → DltDaemonRegisteredUsers}
    (hf : ∀ users, daemon.userList[l]? = some users → ContextsAre P (f users)) :
    AllContexts P (daemon.modifyUsers l f) :=
  forall_modifyUsers h hf

theorem context {s : LevelState Buf} (h : AllContexts P s.daemon) {l i : ℕ}
    {context : DltDaemonContext} (hcontext : s.context l i = some context) : P context := by
  obtain ⟨users, hl, hi⟩ := bind_eq_some_iff.mp hcontext
  exact (h users (mem_of_getElem? hl)).all context (mem_of_getElem? hi)

theorem modifyContext {s : LevelState Buf} (h : AllContexts P s.daemon)
    (hf : ∀ context, P context → P (f context)) : AllContexts P (s.modifyContext l i f).daemon :=
  h.modifyUsers fun users hl => (h users (mem_of_getElem? hl)).modifyContext hf

section

variable (h : AllContexts P daemon) (hhandle : ∀ context, P context → P { context with userHandle := dltFdInit })
include h hhandle

theorem resetUserHandle (l i : ℕ) (handle : ℤ) :
    AllContexts P (dltDaemonApplicationResetUserHandle daemon l i handle) := by
  have hinvalidate : ∀ own, AllContexts P (daemon.modifyUsers own (·.contextsInvalidateFd handle)) := by
    intro own
    apply h.modifyUsers
    intro users hl
    have hall := h users (mem_of_getElem? hl)
    refine ⟨hall.count.trans (length_map _).symm, fun context hin => ?_⟩
    obtain ⟨old, hold, rfl⟩ := mem_map.mp hin
    split_ifs
    · exact hhandle old (hall.all old hold)
    · exact hall.all old hold
  have happlication : ∀ {daemon' : DltDaemon Buf}, AllContexts P daemon' → ∀ f,
      AllContexts P (daemon'.modifyUsers l (·.modifyApplication i f)) := by
    intro daemon' h' f
    exact h'.modifyUsers fun users hl => ⟨(h' users (mem_of_getElem? hl)).count,
      (h' users (mem_of_getElem? hl)).all⟩
  unfold dltDaemonApplicationResetUserHandle
  split_ifs
  · exact h
  · cases dltDaemonFindUsersList daemon daemon.ecuid with
    | none => exact happlication h _
    | some own => exact happlication (hinvalidate own) _

theorem resetApplicationOf (apid : Id4) :
    AllContexts P (resetApplicationOf daemon apid) := by
  unfold Daemon.resetApplicationOf
  split
  · exact h
  · split
    · exact h
    · exact h.resetUserHandle hhandle _ _ _

end

end AllContexts

/-! ## The settings -/

theorem sameSettings_modifyUsers (daemon : DltDaemon Buf) (l : ℕ)
    (f : DltDaemonRegisteredUsers → DltDaemonRegisteredUsers) :
    SameSettings daemon (daemon.modifyUsers l f) := rfl

theorem sameSettings_resetUserHandle (daemon : DltDaemon Buf) (l i : ℕ) (handle : ℤ) :
    SameSettings daemon (dltDaemonApplicationResetUserHandle daemon l i handle) := by
  unfold dltDaemonApplicationResetUserHandle
  split_ifs
  · exact .refl daemon
  · cases dltDaemonFindUsersList daemon daemon.ecuid with
    | none => exact sameSettings_modifyUsers ..
    | some own => exact (sameSettings_modifyUsers ..).trans (sameSettings_modifyUsers ..)

theorem sameSettings_resetApplicationOf (daemon : DltDaemon Buf) (apid : Id4) :
    SameSettings daemon (resetApplicationOf daemon apid) := by
  unfold resetApplicationOf
  split
  · exact .refl daemon
  · split
    · exact .refl daemon
    · exact sameSettings_resetUserHandle ..

/-- The default values, and whether they must not be exceeded, are the same. -/
structure SameDefaults (daemon daemon' : DltDaemon Buf) : Prop where
  defaultLogLevel : daemon'.defaultLogLevel = daemon.defaultLogLevel
  defaultTraceStatus : daemon'.defaultTraceStatus = daemon.defaultTraceStatus
  forceLlTs : daemon'.forceLlTs = daemon.forceLlTs

theorem SameSettings.sameDefaults {daemon daemon' : DltDaemon Buf} (h : SameSettings daemon daemon') :
    SameDefaults daemon daemon' := by
  unfold SameSettings at h
  rw [h]
  exact ⟨rfl, rfl, rfl⟩

/-! ## Adding a context -/

/-- **Adding a context** keeps a property of all contexts, if what is stored has it. -/
theorem allContexts_contextAdd (h : AllContexts P daemon) (malloc : Malloc) (slot : DltDaemonContext)
    (apid ctid : Id4) {logLevel : ℤ} (logLevelPos userHandle : ℤ) (description : Option (List UInt8)) (ecu : Id4)
    (hset : dltLogDefault ≤ logLevel ∧ logLevel ≤ dltLogVerbose →
      dltTraceStatusDefault ≤ traceStatus ∧ traceStatus ≤ dltTraceStatusOn →
      ∀ new old, (new = false → P old) → P (contextSet daemon ecu new logLevel traceStatus logLevelPos
        userHandle description old)) :
    let added := dltDaemonContextAdd malloc slot daemon apid ctid logLevel traceStatus logLevelPos
      userHandle description ecu
    SameSettings daemon added.1 ∧ AllContexts P added.1 := by
  intro added
  have hunfold : added = dltDaemonContextAdd .. := rfl
  have hsame : SameSettings daemon daemon ∧ AllContexts P daemon := ⟨.refl daemon, h⟩
  unfold dltDaemonContextAdd at hunfold
  split_ifs at hunfold with hempty hlevel htrace
  · exact hunfold ▸ hsame
  · exact hunfold ▸ hsame
  · exact hunfold ▸ hsame
  replace hset := hset (by omega) (by omega)
  cases hfind : dltDaemonFindUsersList daemon ecu with
  | none => rw [hfind] at hunfold; exact hunfold ▸ hsame
  | some l =>
    simp only [hfind] at hunfold
    cases hmid : (daemon.userList[l]?).bind (·.allocateContexts malloc) with
    | none => rw [hmid] at hunfold; exact hunfold ▸ hsame
    | some mid =>
      obtain ⟨users, hl, hallocate⟩ := bind_eq_some_iff.mp hmid
      have hmids : ContextsAre P mid := by
        have hall := h users (mem_of_getElem? hl)
        unfold DltDaemonRegisteredUsers.allocateContexts at hallocate
        split_ifs at hallocate
        · obtain ⟨-, -, rfl⟩ := map_eq_some_iff.mp hallocate
          exact ⟨hall.count, hall.all⟩
        · cases hallocate
          exact hall
      have hdaemon : AllContexts P (daemon.modifyUsers l fun _ => mid) :=
        h.modifyUsers fun _ _ => hmids
      simp only [hmid] at hunfold
      cases hfindA : mid.applicationFind apid with
      | none =>
        rw [hfindA] at hunfold
        exact hunfold ▸ ⟨sameSettings_modifyUsers .., hdaemon⟩
      | some a =>
        simp only [hfindA] at hunfold
        cases hctx : mid.contextFind apid ctid with
        | some c =>
          simp only [hctx, modifyUsers_modifyUsers] at hunfold
          rw [hunfold]
          refine ⟨sameSettings_modifyUsers .., h.modifyUsers fun _ _ => ?_⟩
          exact hmids.modifyContext fun old hold => hset false old fun _ => hold
        | none =>
          simp only [hctx] at hunfold
          cases happend : mid.appendContext malloc slot apid ctid a with
          | none =>
            rw [happend] at hunfold
            exact hunfold ▸ ⟨sameSettings_modifyUsers .., hdaemon⟩
          | some users' =>
            simp only [happend, modifyUsers_modifyUsers] at hunfold
            obtain ⟨room, -, rfl⟩ := map_eq_some_iff.mp happend
            rw [hunfold]
            refine ⟨sameSettings_modifyUsers .., h.modifyUsers fun _ _ => ?_⟩
            simp only [Function.comp_def, DltDaemonRegisteredUsers.modifyContext,
              Nat.add_sub_cancel, hmids.count, overwrite_length, modify_concat]
            rw [take_of_length_le (by simp)]
            refine ⟨?_, fun context hin => ?_⟩
            · show _ = List.length (qsort _ _)
              rw [(qsort_perm _ _).length_eq, length_append, length_singleton]
            · rcases mem_append.mp ((qsort_perm _ _).mem_iff.mp hin) with hin | hin
              · exact hmids.all context hin
              · rw [mem_singleton.mp hin]
                exact hset true _ fun hfalse => absurd hfalse.symm Bool.false_ne_true

/-! ## Values -/

namespace LevelField

def default (daemon : DltDaemon Buf) : LevelField → ℤ
  | .logLevel => daemon.defaultLogLevel
  | .traceStatus => daemon.defaultTraceStatus

/-- The greatest value. -/
def max : LevelField → ℤ
  | .logLevel => dltLogVerbose
  | .traceStatus => dltTraceStatusOn

/-- A value of the enumeration of the field. -/
def InRange (field : LevelField) (value : ℤ) : Prop := -1 ≤ value ∧ value ≤ field.max

@[simp] theorem get_set (field : LevelField) (value : ℤ) (context : DltDaemonContext) :
    field.get (field.set value context) = value := by
  cases field <;> rfl

theorem get_set_of_ne {field field' : LevelField} (h : field ≠ field') (value : ℤ)
    (context : DltDaemonContext) : field.get (field'.set value context) = field.get context := by
  cases field <;> cases field' <;> first | rfl | exact absurd rfl h

theorem default_eq {daemon daemon' : DltDaemon Buf} (h : SameDefaults daemon daemon')
    (field : LevelField) : field.default daemon' = field.default daemon := by
  cases field with
  | logLevel => exact h.defaultLogLevel
  | traceStatus => exact h.defaultTraceStatus

theorem default_start {flags : LevelFlags} {s : LevelState Buf} (h : LevelStart flags s)
    (field : LevelField) : field.default s.daemon = field.configured flags := by
  cases field with
  | logLevel => exact h.defaultLogLevel_eq
  | traceStatus => exact h.defaultTraceStatus_eq

theorem max_le (field : LevelField) : 0 ≤ field.max ∧ field.max ≤ 6 := by
  cases field with
  | logLevel => exact ⟨show (0 : ℤ) ≤ 6 by decide, le_refl 6⟩
  | traceStatus => exact ⟨show (0 : ℤ) ≤ 1 by decide, show (1 : ℤ) ≤ 6 by decide⟩

theorem configured_range (flags : LevelFlags) (field : LevelField) :
    0 ≤ field.configured flags ∧ field.configured flags ≤ field.max := by
  cases field with
  | logLevel => exact flags.contextLogLevel_range
  | traceStatus => exact flags.contextTraceStatus_range

/-- A value is lowered to the default one, when that must not be exceeded. -/
def adapted (daemon : DltDaemon Buf) (field : LevelField) (value : ℤ) : ℤ :=
  if daemon.forceLlTs = true ∧ value > field.default daemon then field.default daemon else value

section

variable (field : LevelField) (daemon : DltDaemon Buf) (new : Bool)
  (logLevel traceStatus logLevelPos userHandle : ℤ) (description : Option (List UInt8)) (old : DltDaemonContext)

theorem get_contextSet_eq :
    field.get (contextSet daemon daemon.ecuid new logLevel traceStatus logLevelPos userHandle
      description old) = if new || !daemon.runtimeContextCfgLoaded then
        field.adapted daemon (field.get { old with logLevel, traceStatus }) else field.get old := by
  have hself : strncmpEq daemon.ecuid daemon.ecuid = true := by simp [strncmpEq]
  simp only [contextSet, hself, Bool.true_and]
  cases field <;> rfl

theorem get_contextSet :
    let value := field.get (contextSet daemon daemon.ecuid new logLevel traceStatus logLevelPos
      userHandle description old)
    let asked := field.get { old with logLevel, traceStatus }
    new = false ∧ value = field.get old ∨ value = field.default daemon ∨
      value = asked ∧ (daemon.forceLlTs = true → asked ≤ field.default daemon) := by
  intro value asked
  have hvalue : value = _ := field.get_contextSet_eq daemon new logLevel traceStatus logLevelPos
    userHandle description old
  rw [hvalue, adapted]
  split_ifs with hstore hforce
  · exact .inr (.inl rfl)
  · exact .inr (.inr ⟨rfl, fun hf => not_lt.mp fun hlt => hforce ⟨hf, hlt⟩⟩)
  · refine .inl ⟨?_, rfl⟩
    cases new with
    | true => exact absurd rfl hstore
    | false => rfl

end

end LevelField

/-- The value of `getStatus`. -/
theorem getStatus_eq (requestLog : UInt8) {contextLog : ℤ} (h0 : 0 ≤ contextLog)
    (h : contextLog ≤ 6) : getStatus requestLog contextLog =
      if (requestLog.toNat : ℤ) ≤ contextLog then (requestLog.toNat : ℤ) else contextLog := by
  unfold getStatus
  split_ifs
  · exact i8_of_range (by omega) (by omega)
  · exact i8_of_range (by omega) (by omega)

/-- **The value of a request**, capped when the configuration is enforced. -/
theorem requestedAll_eq (field : LevelField) (flags : LevelFlags) (logLevel : UInt8) :
    requestedAll field flags logLevel =
      if flags.enforceContextLLAndTS then
        if (logLevel.toNat : ℤ) ≤ field.configured flags then (logLevel.toNat : ℤ)
        else field.configured flags
      else i8 logLevel.toNat := by
  obtain ⟨h0, hmax⟩ := field.configured_range flags
  rw [requestedAll, getStatus_eq logLevel h0 (hmax.trans field.max_le.2)]

/-- The requests for single contexts convert the value once more. -/
theorem requestedLevel_eq (field : LevelField) (flags : LevelFlags) (logLevel : UInt8) :
    requestedLevel field flags logLevel = requestedAll field flags logLevel := by
  unfold requestedLevel requestedAll
  obtain ⟨h0, hmax⟩ := field.configured_range flags
  have hle := hmax.trans field.max_le.2
  dsimp only
  split_ifs
  · have hrange : 0 ≤ getStatus logLevel (field.configured flags) ∧
        getStatus logLevel (field.configured flags) ≤ 6 := by
      rw [getStatus_eq logLevel h0 hle]
      split_ifs <;> omega
    rw [toNat_ofInt hrange.1 (by omega), i8_of_range (by omega) (by omega)]
  · rfl

/-! ## Loops over the contexts -/

section loops

variable {flags : LevelFlags} {inv : LevelState Buf → Prop} {field : LevelField} {value : ℤ}
  {s : LevelState Buf}

/-- The loop over the contexts that match keeps what a single context keeps. -/
theorem findMultiple_invariant
    (hlevel : ∀ s l i write, inv s → inv (sendLevel field flags s l i value write)) (hs : inv s)
    (l : ℕ) (appFlag : Bool) (str : List UInt8) (len : ℕ) (writes : ℕ → WriteOutcome)
    (counts : List ℕ) :
    inv (findMultiple field flags l appFlag str len value writes s counts) := by
  induction counts generalizing s with
  | nil => exact hs
  | cons count counts ih =>
    unfold findMultiple
    split
    · exact ih hs
    · dsimp only
      generalize i8 (strncmp _ str len) = ret
      split_ifs
      · exact ih (hlevel _ _ _ _ hs)
      · exact hs
      · exact ih hs

theorem controlSetLevel_invariant
    (hlevel : ∀ s l i write, inv s → inv (sendLevel field flags s l i value write))
    (hrespond : ∀ s id status, inv s → inv (s.respond id status)) (hs : inv s) (apid ctid : Id4)
    (writes : ℕ → WriteOutcome) :
    inv (controlSetLevel field flags s apid ctid value writes) := by
  unfold controlSetLevel
  dsimp only
  split_ifs <;> split
  all_goals first
    | exact hs
    | exact findMultiple_invariant hlevel hs ..
    | exact hlevel _ _ _ _ hs
    | exact hrespond _ _ _ hs

/-- `inv` is kept by responses, by messages to contexts and by values that are `ok`; the values in
the tables are. -/
structure LevelInvariant (flags : LevelFlags) (inv : LevelState Buf → Prop)
    (ok : LevelField → ℤ → Prop) : Prop where
  respond : ∀ s id status, inv s → inv (s.respond id status)
  send : ∀ s l i context write, inv s → s.context l i = some context →
    context.userHandle ≥ dltFdMinimum → inv (dltDaemonUserSendLogLevel flags s context write).1
  set : ∀ s field l i value, inv s → ok field value → inv (s.modifyContext l i (field.set value))
  stored : ∀ s field l i context, inv s → s.context l i = some context → ok field (field.get context)

namespace LevelInvariant

variable {ok : LevelField → ℤ → Prop} (h : LevelInvariant flags inv ok) (hs : inv s)

include h hs

theorem sendIfValid (l i : ℕ) (write : WriteOutcome) : inv (sendIfValid flags s l i write).1 := by
  unfold Daemon.sendIfValid
  split
  · exact hs
  · split_ifs with hhandle
    · exact h.send s l i _ write hs ‹_› hhandle
    · exact hs

theorem sendLevel (hvalue : ok field value) (l i : ℕ) (write : WriteOutcome) :
    inv (sendLevel field flags s l i value write) := by
  unfold Daemon.sendLevel
  split
  · exact hs
  · have hsent := h.sendIfValid (h.set s field l i value hs hvalue) l i write
    dsimp only
    split_ifs
    · exact h.respond _ _ _ hsent
    · exact h.respond _ _ _ (h.set _ field l i _ hsent (h.stored s field l i _ hs ‹_›))

theorem controlSetLevel (hvalue : ok field value) (apid ctid : Id4) (writes : ℕ → WriteOutcome) :
    inv (controlSetLevel field flags s apid ctid value writes) :=
  controlSetLevel_invariant (fun _ l i write hs => h.sendLevel hs hvalue l i write) h.respond hs
    apid ctid writes

theorem sendDefaultUpdate (l : ℕ) (writes : ℕ → WriteOutcome) (counts : List ℕ) :
    inv (sendDefaultUpdate flags l writes s counts) := by
  induction counts generalizing s with
  | nil => exact hs
  | cons count counts ih =>
    unfold Daemon.sendDefaultUpdate
    split
    · exact ih hs
    · split_ifs
      · exact ih (h.sendIfValid hs l count _)
      · exact ih hs

theorem sendAllUpdate (hvalue : ok field value) (l : ℕ) (writes : ℕ → WriteOutcome)
    (counts : List ℕ) : inv (sendAllUpdate field flags l value writes s counts) := by
  induction counts generalizing s with
  | nil => exact hs
  | cons count counts ih =>
    unfold Daemon.sendAllUpdate
    split
    · exact ih hs
    · split_ifs
      · exact ih (h.sendIfValid (h.set s field l count value hs hvalue) l count _)
      · exact ih hs

omit hs in
theorem setBoth (hs : inv s) {logLevel : ℤ} (hlevel : ok .logLevel logLevel)
    (htrace : ok .traceStatus traceStatus) (l i : ℕ) :
    inv (s.modifyContext l i fun context => { context with logLevel, traceStatus }) := by
  have htwice : s.modifyContext l i (fun context => { context with logLevel, traceStatus }) =
      (s.modifyContext l i (LevelField.set .logLevel logLevel)).modifyContext l i
        (LevelField.set .traceStatus traceStatus) := by
    simp only [LevelState.modifyContext, modifyUsers_modifyUsers, Function.comp_def,
      DltDaemonRegisteredUsers.modifyContext, modify_modify_eq, LevelField.set]
  rw [htwice]
  exact h.set _ _ l i _ (h.set s _ l i _ hs hlevel) htrace

theorem setAppContexts {logLevel traceStatus : ℤ} (hlevel : ok .logLevel logLevel)
    (htrace : ok .traceStatus traceStatus) (l : ℕ) (writes : ℕ → WriteOutcome) (counts : List ℕ) :
    inv (setAppContexts flags l logLevel traceStatus writes s counts) := by
  induction counts generalizing s with
  | nil => exact hs
  | cons count counts ih =>
    unfold Daemon.setAppContexts
    split
    · exact ih hs
    · have hstored := h.setBoth hs hlevel htrace l count
      have hsent := h.sendIfValid hstored l count (writes count)
      dsimp only
      split_ifs
      · exact ih hsent
      · exact ih (h.setBoth hsent (h.stored s .logLevel l count _ hs ‹_›)
          (h.stored s .traceStatus l count _ hs ‹_›) l count)
      · exact ih hstored

theorem setAppLlTs {userctxt : DltUserControlMsgAppLogLevelTraceStatus}
    (hlevel : ok .logLevel (i8 userctxt.logLevel.toNat))
    (htrace : ok .traceStatus (i8 userctxt.traceStatus.toNat)) (writes : ℕ → WriteOutcome) :
    inv (setAppLlTs flags s userctxt writes) := by
  unfold Daemon.setAppLlTs
  split
  · exact hs
  · split
    · exact hs
    · split
      · exact hs
      · exact h.setAppContexts hs hlevel htrace _ writes _

/-! ### Requests of clients -/

theorem setLogLevel (hvalue : ok .logLevel (requestedAll .logLevel flags
      (serviceSetLogLevelLayout.decode databuffer).logLevel)) (writes : ℕ → WriteOutcome) :
    inv (dltDaemonControlSetLogLevel flags s databuffer writes) := by
  unfold dltDaemonControlSetLogLevel
  split_ifs
  · exact hs
  · apply h.controlSetLevel hs
    rw [requestedLevel_eq]
    exact hvalue

theorem setTraceStatus (hvalue : ok .traceStatus (requestedAll .traceStatus flags
      (serviceSetLogLevelLayout.decode databuffer).logLevel)) (writes : ℕ → WriteOutcome) :
    inv (dltDaemonControlSetTraceStatus flags s databuffer writes) := by
  unfold dltDaemonControlSetTraceStatus
  split_ifs
  · exact hs
  · apply h.controlSetLevel hs
    rw [requestedLevel_eq]
    exact hvalue

theorem setAllLogLevel (hvalue : ∀ byte : UInt8, (byte.toNat : ℤ) ≤ dltLogVerbose ∨ byte = 255 →
      ok .logLevel (requestedAll .logLevel flags byte)) (writes : ℕ → WriteOutcome) :
    inv (dltDaemonControlSetAllLogLevel flags s databuffer writes) := by
  unfold dltDaemonControlSetAllLogLevel dltDaemonUserSendAllLogLevelUpdate
  dsimp only
  split_ifs with hshort hvalid
  · exact hs
  · apply h.respond
    split
    · exact hs
    · exact h.sendAllUpdate hs (hvalue _ hvalid) _ writes _
  · exact h.respond _ _ _ hs

theorem setAllTraceStatus (hvalue : ∀ byte : UInt8, (byte.toNat : ℤ) ≤ dltTraceStatusOn ∨ byte = 255 →
      ok .traceStatus (requestedAll .traceStatus flags byte)) (writes : ℕ → WriteOutcome) :
    inv (dltDaemonControlSetAllTraceStatus flags s databuffer writes) := by
  unfold dltDaemonControlSetAllTraceStatus dltDaemonUserSendAllTraceStatusUpdate
  dsimp only
  split_ifs with hshort hvalid
  · exact hs
  · apply h.respond
    split
    · exact hs
    · exact h.sendAllUpdate hs (hvalue _ hvalid) _ writes _
  · exact h.respond _ _ _ hs

theorem setDefaultLogLevel (hdefault : ∀ byte : UInt8, (byte.toNat : ℤ) ≤ dltLogVerbose → inv { s with daemon :=
      { s.daemon with defaultLogLevel := requestedAll .logLevel flags byte } }) (writes : ℕ → WriteOutcome) :
    inv (dltDaemonControlSetDefaultLogLevel flags s databuffer writes) := by
  unfold dltDaemonControlSetDefaultLogLevel dltDaemonUserSendDefaultUpdate
  dsimp only
  split_ifs with hshort hvalid
  · exact hs
  · apply h.respond
    split
    · exact hdefault _ hvalid
    · exact h.sendDefaultUpdate (hdefault _ hvalid) _ writes _
  · exact h.respond _ _ _ hs

theorem setDefaultTraceStatus
    (hdefault : ∀ byte : UInt8, (byte.toNat : ℤ) ≤ dltTraceStatusOn → inv { s with daemon :=
      { s.daemon with defaultTraceStatus := requestedAll .traceStatus flags byte } }) (writes : ℕ → WriteOutcome) :
    inv (dltDaemonControlSetDefaultTraceStatus flags s databuffer writes) := by
  unfold dltDaemonControlSetDefaultTraceStatus dltDaemonUserSendDefaultUpdate
  dsimp only
  split_ifs with hshort hvalid
  · exact hs
  · have hle : ((serviceSetDefaultLogLevelLayout.decode databuffer).logLevel.toNat : ℤ) ≤
        dltTraceStatusOn := by
      rcases hvalid with hvalid | hvalid
      · rw [hvalid]
        exact show (0 : ℤ) ≤ 1 by decide
      · exact hvalid.le
    apply h.respond
    split
    · exact hdefault _ hle
    · exact h.sendDefaultUpdate (hdefault _ hle) _ writes _
  · exact h.respond _ _ _ hs

end LevelInvariant

end loops

/-! ## Properties of contexts, settings and messages -/

/-- All contexts have the property `P`, the settings have the property `D`, and the messages have the
property `W`. -/
structure LevelsAre (P : DltDaemonContext → Prop) (D : DltDaemon Buf → Prop) (W : LevelWrite → Prop)
    (s : LevelState Buf) : Prop where
  contexts : AllContexts P s.daemon
  settings : D s.daemon
  writes : ∀ write ∈ s.writes, W write

/-- The message to a context, as it is logged. -/
def levelWrite (flags : LevelFlags) (daemon : DltDaemon Buf) (context : DltDaemonContext)
    (written : Bool) : LevelWrite :=
  ⟨context.ids, context.userHandle, levelMessage flags daemon context, written⟩

/-- Contexts keep the property `P` when they lose their handle and when they get a value that is
`ok`, and messages about them have the property `W`. -/
structure LevelRules (flags : LevelFlags) (P : DltDaemonContext → Prop) (D : DltDaemon Buf → Prop)
    (W : LevelWrite → Prop) (ok : LevelField → ℤ → Prop) : Prop where
  settings : ∀ daemon daemon', SameDefaults daemon daemon' → D daemon → D daemon'
  handle : ∀ context, P context → P { context with userHandle := dltFdInit }
  set : ∀ field value context, P context → ok field value → P (field.set value context)
  get : ∀ field context, P context → ok field (field.get context)
  write : ∀ daemon context written, D daemon → P context → context.userHandle ≥ dltFdMinimum →
    W (levelWrite flags daemon context written)

section rules

variable {flags : LevelFlags} {D : DltDaemon Buf → Prop} {W : LevelWrite → Prop}
  {ok : LevelField → ℤ → Prop} {s : LevelState Buf}

section

variable (hs : LevelsAre P D W s) (hsettings : ∀ daemon daemon', SameDefaults daemon daemon' → D daemon → D daemon')
include hs hsettings

theorem LevelsAre.send (hhandle : ∀ context, P context → P { context with userHandle := dltFdInit })
    {context : DltDaemonContext} (hwrite : ∀ written, W (levelWrite flags s.daemon context written))
    (write : WriteOutcome) :
    LevelsAre P D W (dltDaemonUserSendLogLevel flags s context write).1 := by
  have hlogged : ∀ written, ∀ w ∈ levelWrite flags s.daemon context written :: s.writes, W w := by
    intro written w hin
    rcases mem_cons.mp hin with rfl | hin
    · exact hwrite written
    · exact hs.writes w hin
  unfold dltDaemonUserSendLogLevel
  split_ifs
  · exact hs
  · cases write with
    | ok => exact ⟨hs.contexts, hs.settings, hlogged _⟩
    | error => exact ⟨hs.contexts, hs.settings, hlogged _⟩
    | epipe => exact ⟨hs.contexts.resetApplicationOf hhandle _,
        hsettings _ _ (sameSettings_resetApplicationOf ..).sameDefaults hs.settings, hlogged _⟩

theorem LevelsAre.modifyContext (l i : ℕ) (hf : ∀ context, P context → P (f context)) :
    LevelsAre P D W (s.modifyContext l i f) :=
  ⟨hs.contexts.modifyContext hf, hsettings _ _ (sameSettings_modifyUsers ..).sameDefaults hs.settings,
    hs.writes⟩

end

theorem LevelsAre.setDaemon (hs : LevelsAre P D W s) {daemon : DltDaemon Buf}
    (hlists : daemon.userList = s.daemon.userList) (hD : D daemon) :
    LevelsAre P D W { s with daemon := daemon } :=
  ⟨fun users hin => hs.contexts users (hlists ▸ hin), hD, hs.writes⟩

/-- **Such properties are invariants.** -/
theorem LevelRules.levelInvariant (h : LevelRules flags P D W ok) :
    LevelInvariant flags (LevelsAre P D W) ok where
  respond := fun _ _ _ hs => ⟨hs.contexts, hs.settings, hs.writes⟩
  send := fun s _ _ context write hs hcontext hvalid =>
    hs.send h.settings h.handle
      (fun written => h.write s.daemon context written hs.settings (hs.contexts.context hcontext) hvalid)
      write
  set := fun _ field l i value hs hok =>
    hs.modifyContext h.settings l i fun context hP => h.set field value context hP hok
  stored := fun _ field _ _ context hs hcontext => h.get field context (hs.contexts.context hcontext)

/-! ## Contexts that are added -/

/-- What is stored when a context is added has the property `P`. -/
def AddsKeep (P : DltDaemonContext → Prop) (D : DltDaemon Buf → Prop) : Prop :=
  ∀ (daemon : DltDaemon Buf) (logLevel traceStatus : ℤ), D daemon →
    dltLogDefault ≤ logLevel ∧ logLevel ≤ dltLogVerbose →
    dltTraceStatusDefault ≤ traceStatus ∧ traceStatus ≤ dltTraceStatusOn →
    ∀ logLevelPos userHandle description new old, (new = false → P old) →
      P (contextSet daemon daemon.ecuid new logLevel traceStatus logLevelPos userHandle description old)

section adds

variable (hadds : AddsKeep P D)
  (hsettings : ∀ daemon daemon', SameDefaults daemon daemon' → D daemon → D daemon')

include hadds hsettings

theorem contextAdd_keeps (hcontexts : AllContexts P daemon) (hD : D daemon) (malloc : Malloc)
    (slot : DltDaemonContext) (apid ctid : Id4) (logLevel traceStatus logLevelPos userHandle : ℤ)
    (description : Option (List UInt8)) :
    let added := dltDaemonContextAdd malloc slot daemon apid ctid logLevel traceStatus logLevelPos
      userHandle description daemon.ecuid
    AllContexts P added.1 ∧ D added.1 := by
  intro added
  obtain ⟨hsame, hall⟩ := allContexts_contextAdd hcontexts malloc slot apid ctid logLevelPos userHandle
    description daemon.ecuid (hadds daemon logLevel traceStatus hD · · logLevelPos userHandle description)
  exact ⟨hall, hsettings _ _ hsame.sameDefaults hD⟩

/-- **A context registers.** -/
theorem LevelsAre.registerContext (hs : LevelsAre P D W s)
    (hhandle : ∀ context, P context → P { context with userHandle := dltFdInit })
    {userctxt : DltUserControlMsgRegisterContext}
    (hstorage : ∀ context, P context → P { context with
      storageLogLevel := registeredStorageLevel flags userctxt.apid userctxt.ctid })
    (hwrite : ∀ daemon context written, D daemon → P context →
      context.storageLogLevel = registeredStorageLevel flags userctxt.apid userctxt.ctid →
        W (levelWrite flags daemon context written))
    (malloc : Malloc) (slot : DltDaemonContext) (description : List UInt8) (write : WriteOutcome) :
    LevelsAre P D W (registerContext flags malloc slot s userctxt description write).1 := by
  unfold Daemon.registerContext
  dsimp only
  split
  · exact hs
  · rename_i application _
    split
    · rename_i logLevel traceStatus _ _
      obtain ⟨hall, hD⟩ := contextAdd_keeps hadds hsettings hs.contexts hs.settings malloc slot
        userctxt.apid userctxt.ctid logLevel traceStatus userctxt.logLevelPos.toInt
        application.userHandle (some description)
      have hadded : LevelsAre P D W { s with daemon := (dltDaemonContextAdd malloc slot s.daemon
          userctxt.apid userctxt.ctid logLevel traceStatus userctxt.logLevelPos.toInt
          application.userHandle (some description) s.daemon.ecuid).1 } := ⟨hall, hD, hs.writes⟩
      split
      · exact hadded
      · rename_i l c _
        have hset := hadded.modifyContext hsettings l c hstorage
        split_ifs
        · exact hset
        · split
          · exact hset
          · rename_i context hcontext
            split_ifs
            · refine hset.send hsettings hhandle (fun written => ?_) write
              refine hwrite _ context written hset.settings (hset.contexts.context hcontext) ?_
              obtain ⟨users, hl, hc⟩ := bind_eq_some_iff.mp hcontext
              simp only [LevelState.modifyContext, getElem?_modifyUsers, if_true] at hl
              obtain ⟨users', -, rfl⟩ := map_eq_some_iff.mp hl
              simp only [DltDaemonRegisteredUsers.modifyContext, getElem?_modify_eq] at hc
              obtain ⟨old, -, rfl⟩ := map_eq_some_iff.mp hc
              rfl
            · exact hset
        · exact hset
    · exact hs

theorem contextsLoadLine_keeps {load : ContextsLoad Buf} (hcontexts : AllContexts P load.daemon)
    (hD : D load.daemon) (malloc : Malloc) (slot : DltDaemonContext) (line : List UInt8) :
    AllContexts P (contextsLoadLine malloc slot load line).1.daemon ∧
      D (contextsLoadLine malloc slot load line).1.daemon := by
  unfold contextsLoadLine
  split
  · dsimp only
    split
    · split
      · exact contextAdd_keeps hadds hsettings hcontexts hD ..
      · exact ⟨hcontexts, hD⟩
    · exact ⟨hcontexts, hD⟩
  · exact ⟨hcontexts, hD⟩

/-- **The contexts are loaded.** -/
theorem LevelsAre.loadContexts (hs : LevelsAre P D W s) (malloc : Malloc)
    (slots : ℕ → DltDaemonContext) (ll ts : ℤ) (applicationsLoaded : Bool)
    (file : Option (List UInt8)) :
    LevelsAre P D W (loadContexts malloc slots ll ts applicationsLoaded file s) := by
  have hlines : ∀ (lines : List (List UInt8)) (slots : ℕ → DltDaemonContext) (load : ContextsLoad Buf),
      AllContexts P load.daemon → D load.daemon →
        AllContexts P (contextsLoadLines malloc slots load lines).1 ∧
          D (contextsLoadLines malloc slots load lines).1 := by
    intro lines
    induction lines with
    | nil => exact fun _ _ hcontexts hD => ⟨hcontexts, hD⟩
    | cons line lines ih =>
      intro slots load hcontexts hD
      obtain ⟨hcontexts', hD'⟩ :=
        contextsLoadLine_keeps hadds hsettings hcontexts hD malloc (slots 0) line
      unfold contextsLoadLines
      split_ifs
      · exact ih _ _ hcontexts' hD'
      · exact ⟨hcontexts', hD'⟩
  have hload : AllContexts P (dltDaemonContextsLoad malloc slots ll ts s.daemon file).1 ∧
      D (dltDaemonContextsLoad malloc slots ll ts s.daemon file).1 := by
    unfold dltDaemonContextsLoad
    split
    · exact ⟨hs.contexts, hs.settings⟩
    · exact hlines _ _ _ hs.contexts hs.settings
  unfold Daemon.loadContexts
  dsimp only
  split_ifs
  · refine ⟨hload.1, ?_, hs.writes⟩
    exact hsettings (dltDaemonContextsLoad malloc slots ll ts s.daemon file).1 _ ⟨rfl, rfl, rfl⟩ hload.2
  · exact ⟨hload.1, hload.2, hs.writes⟩

end adds

end rules

/-! ## A sample -/

/-- The configured log level is 4, the configured trace status 0. -/
def sampleFlags (enforceContextLLAndTS : Bool) : LevelFlags where
  enforceContextLLAndTS := enforceContextLLAndTS
  contextLogLevel := 4
  contextTraceStatus := 0
  rflag := false
  offlineLogstorageMaxDevices := 0
  maintainLogstorageLoglevel := true
  getLoglevel := fun _ _ => dltLogDefault
  contextLogLevel_range := ⟨by decide, by decide⟩
  contextTraceStatus_range := ⟨by decide, by decide⟩

/-- The tables with the application `LOG`, which has no context. -/
def sampleApplication : DltDaemonRegisteredUsers where
  applications := [{
    apid := dltSetId (ascii "LOG"), pid := 17, userHandle := 5, ownsUserHandle := false
    applicationDescription := none, numContexts := 0 }]
  numApplications := 1
  applicationsRoom := dltDaemonApplAllocSize
  contexts := []
  numContexts := 0
  contextsRoom := 0
  ecu := emptyDaemon.ecuid

/-- The daemon with these tables. -/
def sampleLevels (enforceContextLLAndTS : Bool) : LevelState Unit where
  daemon := { emptyDaemon with
    userList := [sampleApplication], forceLlTs := enforceContextLLAndTS }
  writes := []
  responses := []

theorem sampleLevels_start (enforceContextLLAndTS : Bool) :
    LevelStart (sampleFlags enforceContextLLAndTS) (sampleLevels enforceContextLLAndTS) := by
  refine ⟨rfl, rfl, rfl, ⟨0, sampleApplication, fun users hin => ?_, rfl, rfl⟩, fun users hin => ?_, rfl⟩
  · rw [mem_singleton.mp hin]
    refine ⟨⟨pairwise_singleton _ _, List.Pairwise.nil, ?_, ?_, ?_, ?_⟩, rfl, rfl,
      ⟨show 500 % 500 = 0 by decide, .inl (show 1 < 500 by decide)⟩,
      ⟨show 0 % 1000 = 0 by decide, .inr ⟨rfl, rfl⟩⟩⟩
    · intro a ha
      rw [mem_singleton.mp ha]
      exact ⟨canonical_dltSetId _, rfl⟩
    · exact fun c hc => absurd hc not_mem_nil
    · exact fun c hc => absurd hc not_mem_nil
    · intro a ha
      rw [mem_singleton.mp ha]
      rfl
  · rw [mem_singleton.mp hin]
    rfl

/-- A context of `LOG` registers without a log level and a trace status. -/
def sampleRegister (ctid : List UInt8) (logLevelPos : Int32) : LevelOp :=
  .registerContext zeroMalloc sampleSlot ⟨dltSetId (ascii "LOG"), dltSetId ctid, logLevelPos, -1, -1, 17, 0⟩
    [] .ok

/-- A request for the log level of the context `TEST` of `LOG`. -/
def sampleSetLogLevel (logLevel : UInt8) : LevelOp :=
  .setLogLevel (serviceSetLogLevelLayout.encode
    ⟨1, dltSetId (ascii "LOG"), dltSetId (ascii "TEST"), logLevel, dltSetId []⟩) fun _ => .ok

end Dlt.Daemon
