import Dlt.Daemon.LevelsInvariant

/-!
# The enforced configuration

* `levels_enforced` — **along every run of such operations** neither the tables nor the messages exceed
  the configuration.
* `not_levels_enforced` — an application sets the log level 6.
-/

namespace Dlt.Daemon

open Dlt.Lib Dlt.Shared

variable {Buf : Type} {flags : LevelFlags}

/-! ## Values that are capped -/

def LevelField.CappedValue (flags : LevelFlags) (field : LevelField) (value : ℤ) : Prop :=
  -1 ≤ value ∧ value ≤ field.configured flags

/-- The values of a context do not exceed the configured ones. -/
def Capped (flags : LevelFlags) (context : DltDaemonContext) : Prop :=
  ∀ field : LevelField, field.CappedValue flags (field.get context)

/-- The configuration is enforced, and the default values do not exceed it. -/
def DefaultsCapped (flags : LevelFlags) (daemon : DltDaemon Buf) : Prop :=
  daemon.forceLlTs = true ∧
    ∀ field : LevelField, 0 ≤ field.default daemon ∧ field.default daemon ≤ field.configured flags

/-- The values in a message do not exceed the configured ones. -/
def WriteCapped (flags : LevelFlags) (write : LevelWrite) : Prop :=
  (write.message.logLevel.toNat : ℤ) ≤ flags.contextLogLevel ∧
    (write.message.traceStatus.toNat : ℤ) ≤ flags.contextTraceStatus

/-- The log level of a logstorage device that a message about a context may carry. -/
def StorageOk (flags : LevelFlags) (storageLogLevel : ℤ) : Prop :=
  flags.maintainLogstorageLoglevel = false ∨ storageLogLevel = dltLogDefault ∨
    0 ≤ storageLogLevel ∧ storageLogLevel ≤ flags.contextLogLevel

/-- A context that gets messages has such a level. -/
def StorageCapped (flags : LevelFlags) (context : DltDaemonContext) : Prop :=
  context.userHandle ≥ dltFdMinimum → StorageOk flags context.storageLogLevel

section

variable {daemon : DltDaemon Buf} {context : DltDaemonContext} (hD : DefaultsCapped flags daemon)
  (h : Capped flags context)
include hD h

theorem effective_capped :
    (0 ≤ effectiveLogLevel daemon context ∧
      effectiveLogLevel daemon context ≤ flags.contextLogLevel) ∧
    0 ≤ effectiveTraceStatus daemon context ∧
      effectiveTraceStatus daemon context ≤ flags.contextTraceStatus := by
  obtain ⟨hlow, hhigh⟩ := h .logLevel
  obtain ⟨hlow', hhigh'⟩ := h .traceStatus
  have hdefault := hD.2 .logLevel
  have hdefault' := hD.2 .traceStatus
  simp only [LevelField.get, LevelField.configured] at hlow hhigh hlow' hhigh'
  constructor
  · unfold effectiveLogLevel
    split_ifs with heq
    · exact hdefault
    · unfold dltLogDefault at heq
      exact ⟨by omega, hhigh⟩
  · unfold effectiveTraceStatus
    split_ifs with heq
    · exact hdefault'
    · unfold dltTraceStatusDefault at heq
      exact ⟨by omega, hhigh'⟩

/-- **A message about such a context** does not exceed the configuration. -/
theorem writeCapped_levelWrite (hstorage : StorageOk flags context.storageLogLevel) (written : Bool) :
    WriteCapped flags (levelWrite flags daemon context written) := by
  obtain ⟨hlevel, htrace⟩ := effective_capped hD h
  have hcap := flags.contextLogLevel_range.2
  have hcap' := flags.contextTraceStatus_range.2
  unfold dltLogVerbose at hcap
  unfold dltTraceStatusOn at hcap'
  constructor
  · have hself := h .logLevel
    simp only [LevelField.CappedValue, LevelField.get, LevelField.configured] at hself
    simp only [levelWrite, levelMessage]
    split_ifs with hmaintain hgreater
    · rcases hstorage with hoff | hnone | hrange
      · rw [hoff] at hmaintain
        exact absurd hmaintain.2 Bool.false_ne_true
      · exact absurd hnone hmaintain.1
      · rw [toNat_ofInt (by omega) (by omega)]
        exact hself.2
    · rcases hstorage with hoff | hnone | hrange
      · rw [hoff] at hmaintain
        exact absurd hmaintain.2 Bool.false_ne_true
      · exact absurd hnone hmaintain.1
      · rw [toNat_ofInt hrange.1 (by omega)]
        exact hrange.2
    · rw [toNat_ofInt hlevel.1 (by omega)]
      exact hlevel.2
  · simp only [levelWrite, levelMessage]
    rw [toNat_ofInt htrace.1 (by omega)]
    exact htrace.2

end

theorem LevelField.capped_requestedAll (henforce : flags.enforceContextLLAndTS = true)
    (field : LevelField) (byte : UInt8) :
    0 ≤ requestedAll field flags byte ∧ requestedAll field flags byte ≤ field.configured flags := by
  obtain ⟨h0, -⟩ := field.configured_range flags
  rw [requestedAll_eq, if_pos henforce]
  split_ifs <;> omega

/-! ## The invariant -/

/-- The tables and the messages do not exceed the configuration. -/
abbrev AllCapped (flags : LevelFlags) (s : LevelState Buf) : Prop :=
  LevelsAre (Capped flags) (DefaultsCapped flags) (WriteCapped flags) s

theorem defaultsCapped_of_same (daemon daemon' : DltDaemon Buf) (hsame : SameDefaults daemon daemon')
    (hD : DefaultsCapped flags daemon) : DefaultsCapped flags daemon' := by
  refine ⟨hsame.forceLlTs.trans hD.1, fun field => ?_⟩
  rw [field.default_eq hsame]
  exact hD.2 field

theorem capped_handle (context : DltDaemonContext) (h : Capped flags context) (userHandle : ℤ) :
    Capped flags { context with userHandle } := by
  intro field
  have hfield := h field
  cases field <;> exact hfield

theorem cappedRules : LevelRules flags (fun context => Capped flags context ∧ StorageCapped flags context)
    (DefaultsCapped flags : DltDaemon Buf → Prop) (WriteCapped flags)
    (LevelField.CappedValue flags) where
  settings := defaultsCapped_of_same
  handle := fun context h =>
    ⟨capped_handle context h.1 _, fun hvalid => absurd hvalid (show ¬ (-1 : ℤ) ≥ 3 by decide)⟩
  set := by
    intro field value context h hvalue
    refine ⟨fun field' => ?_, ?_⟩
    · rcases eq_or_ne field' field with rfl | hne
      · rwa [LevelField.get_set]
      · rw [LevelField.get_set_of_ne hne]
        exact h.1 field'
    · have hstorage := h.2
      cases field <;> exact hstorage
  get := fun field _ h => h.1 field
  write := fun _ _ written hD h hvalid => writeCapped_levelWrite hD h.1 (h.2 hvalid) written

theorem capped_addsKeep :
    AddsKeep (Capped flags) (DefaultsCapped flags : DltDaemon Buf → Prop) := by
  intro daemon logLevel traceStatus hD hlevel htrace pos handle description new old hold field
  have hdefault := hD.2 field
  have hasked : -1 ≤ field.get { old with logLevel, traceStatus } := by
    cases field with
    | logLevel => exact hlevel.1
    | traceStatus => exact htrace.1
  unfold LevelField.CappedValue
  rcases field.get_contextSet daemon new logLevel traceStatus pos handle description old with
    ⟨hnew, heq⟩ | heq | ⟨heq, hforce⟩
  · rw [heq]
    exact hold hnew field
  · rw [heq]
    omega
  · have hle := hforce hD.1
    rw [heq]
    omega

/-- The log levels of logstorage devices that messages would carry do not exceed the configuration. -/
def StorageLevelsOk (flags : LevelFlags) (daemon : DltDaemon Buf) : Prop :=
  ∀ users ∈ daemon.userList, ∀ context ∈ users.contexts, StorageCapped flags context

variable {s : LevelState Buf}

theorem AllCapped.withStorage (hs : AllCapped flags s) (hstorage : StorageLevelsOk flags s.daemon) :
    LevelsAre (fun context => Capped flags context ∧ StorageCapped flags context)
      (DefaultsCapped flags) (WriteCapped flags) s := by
  refine ⟨fun users hin => ⟨(hs.contexts users hin).count, fun context hc => ?_⟩, hs.settings, hs.writes⟩
  exact ⟨(hs.contexts users hin).all context hc, hstorage users hin context hc⟩

theorem LevelsAre.allCapped
    (hs : LevelsAre (fun context => Capped flags context ∧ StorageCapped flags context)
      (DefaultsCapped flags) (WriteCapped flags) s) : AllCapped flags s :=
  ⟨fun users hin => ⟨(hs.contexts users hin).count,
    fun context hc => ((hs.contexts users hin).all context hc).1⟩, hs.settings, hs.writes⟩

theorem DefaultsCapped.set {daemon daemon' : DltDaemon Buf} (hD : DefaultsCapped flags daemon)
    (hforce : daemon'.forceLlTs = daemon.forceLlTs) (field : LevelField)
    (hother : ∀ field', field' ≠ field → field'.default daemon' = field'.default daemon)
    (hrange : 0 ≤ field.default daemon' ∧ field.default daemon' ≤ field.configured flags) :
    DefaultsCapped flags daemon' := by
  refine ⟨hforce.trans hD.1, fun field' => ?_⟩
  rcases eq_or_ne field' field with rfl | hne
  · exact hrange
  · rw [hother field' hne]
    exact hD.2 field'

/-! ## Runs -/

/-- A byte up to the configured value, or the one of the default value. -/
def LevelField.ByteCapped (flags : LevelFlags) (field : LevelField) (byte : UInt8) : Prop :=
  (byte.toNat : ℤ) ≤ field.configured flags ∨ byte = 255

theorem LevelField.cappedValue_i8 {field : LevelField} {byte : UInt8}
    (h : field.ByteCapped flags byte) : field.CappedValue flags (i8 byte.toNat) := by
  obtain ⟨h0, hmax⟩ := field.configured_range flags
  have h6 := field.max_le.2
  rcases h with h | rfl
  · rw [i8_of_range (by omega) (by omega)]
    exact ⟨by omega, h⟩
  · rw [show i8 ((255 : UInt8).toNat : ℤ) = -1 by decide]
    exact ⟨le_rfl, by omega⟩

/-- An operation that keeps to the configuration: an application sets values up to the configured ones,
and the log levels of logstorage devices do not exceed the configured one. -/
def Enforceable (flags : LevelFlags) (s : LevelState Buf) : LevelOp → Prop
  | .registerContext _ _ userctxt _ _ =>
      StorageOk flags (registeredStorageLevel flags userctxt.apid userctxt.ctid)
  | .setAppLlTs userctxt _ =>
      LevelField.logLevel.ByteCapped flags userctxt.logLevel ∧
        LevelField.traceStatus.ByteCapped flags userctxt.traceStatus ∧ StorageLevelsOk flags s.daemon
  | .contextsLoad .. => True
  | _ => StorageLevelsOk flags s.daemon

/-- **Every such operation** keeps to the configuration. -/
theorem AllCapped.levelStep (henforce : flags.enforceContextLLAndTS = true) (hs : AllCapped flags s) {op : LevelOp}
    (hop : Enforceable flags s op) :
    AllCapped flags (levelStep flags s op) := by
  have hinv := (cappedRules : LevelRules flags _ (DefaultsCapped flags : DltDaemon Buf → Prop) _ _)
    |>.levelInvariant
  have hset : ∀ field byte, LevelField.CappedValue flags field (requestedAll field flags byte) := by
    intro field byte
    have hcap := LevelField.capped_requestedAll henforce field byte
    exact ⟨by omega, hcap.2⟩
  cases op with
  | registerContext malloc slot userctxt description write =>
    refine hs.registerContext capped_addsKeep defaultsCapped_of_same
      (fun context h => capped_handle context h _) (fun context h field => ?_)
      (fun daemon context written hD h hstorage => ?_) malloc slot description write
    · have hfield := h field
      cases field <;> exact hfield
    · apply writeCapped_levelWrite hD h
      rw [hstorage]
      exact hop
  | setLogLevel databuffer writes =>
    exact (hinv.setLogLevel (hs.withStorage hop) (hset _ _) writes).allCapped
  | setTraceStatus databuffer writes =>
    exact (hinv.setTraceStatus (hs.withStorage hop) (hset _ _) writes).allCapped
  | setDefaultLogLevel databuffer writes =>
    refine (hinv.setDefaultLogLevel (hs.withStorage hop)
      (fun byte _ => (hs.withStorage hop).setDaemon rfl ?_) writes).allCapped
    refine hs.settings.set rfl .logLevel (fun field hne => ?_)
      (LevelField.capped_requestedAll henforce .logLevel byte)
    cases field with
    | logLevel => exact absurd rfl hne
    | traceStatus => rfl
  | setDefaultTraceStatus databuffer writes =>
    refine (hinv.setDefaultTraceStatus (hs.withStorage hop)
      (fun byte _ => (hs.withStorage hop).setDaemon rfl ?_) writes).allCapped
    refine hs.settings.set rfl .traceStatus (fun field hne => ?_)
      (LevelField.capped_requestedAll henforce .traceStatus byte)
    cases field with
    | logLevel => rfl
    | traceStatus => exact absurd rfl hne
  | setAllLogLevel databuffer writes =>
    exact (hinv.setAllLogLevel (hs.withStorage hop) (fun _ _ => hset _ _) writes).allCapped
  | setAllTraceStatus databuffer writes =>
    exact (hinv.setAllTraceStatus (hs.withStorage hop) (fun _ _ => hset _ _) writes).allCapped
  | setAppLlTs userctxt writes =>
    obtain ⟨hlevel, htrace, hstorage⟩ := hop
    exact (hinv.setAppLlTs (hs.withStorage hstorage) (LevelField.cappedValue_i8 hlevel)
      (LevelField.cappedValue_i8 htrace) writes).allCapped
  | contextsLoad malloc slots ll ts applicationsLoaded file =>
    exact hs.loadContexts capped_addsKeep defaultsCapped_of_same malloc slots ll ts applicationsLoaded
      file

theorem LevelStart.allCapped (henforce : flags.enforceContextLLAndTS = true) (h : LevelStart flags s) :
    AllCapped flags s := by
  refine ⟨fun users hin => ?_, ⟨h.forceLlTs_eq.trans henforce, fun field => ?_⟩, fun write hin => ?_⟩
  · refine ⟨(h.registered users hin).numContexts_eq, fun context hc => ?_⟩
    rw [h.contexts_nil users hin] at hc
    exact absurd hc List.not_mem_nil
  · rw [field.default_start h]
    exact ⟨(field.configured_range flags).1, le_rfl⟩
  · rw [h.writes_nil] at hin
    exact absurd hin List.not_mem_nil

/-- **The configuration is enforced.** Along every run of operations that keep to it, the log level and
the trace status that apply to a context do not exceed the configured ones, neither in the tables nor
in the messages to applications. -/
theorem levels_enforced (henforce : flags.enforceContextLLAndTS = true) {s : LevelState Buf}
    (h : Reach (LevelStart flags) (levelStep flags) (Enforceable flags) s) :
    (∀ users ∈ s.daemon.userList, ∀ context ∈ users.contexts,
      effectiveLogLevel s.daemon context ≤ flags.contextLogLevel ∧
        effectiveTraceStatus s.daemon context ≤ flags.contextTraceStatus) ∧
    ∀ write ∈ s.writes, (write.message.logLevel.toNat : ℤ) ≤ flags.contextLogLevel ∧
      (write.message.traceStatus.toNat : ℤ) ≤ flags.contextTraceStatus := by
  have hs : AllCapped flags s := h.invariant (fun _ => LevelStart.allCapped henforce)
    fun _ _ hs hop => hs.levelStep henforce hop
  refine ⟨fun users hin context hc => ?_, hs.writes⟩
  have hcapped := effective_capped hs.settings ((hs.contexts users hin).all context hc)
  exact ⟨hcapped.1.2, hcapped.2.2⟩

/-- A context registers, and the log level 6 is asked for it. -/
theorem levels_enforced_sample :
    let registered := levelStep (sampleFlags true) (sampleLevels true) (sampleRegister (ascii "TEST") 0)
    ∀ write ∈ (levelStep (sampleFlags true) registered (sampleSetLogLevel 6)).writes,
      (write.message.logLevel.toNat : ℤ) ≤ 4 := by
  intro registered write hin
  have hstorage : ∀ users ∈ registered.daemon.userList, ∀ context ∈ users.contexts,
      context.storageLogLevel = dltLogDefault := by decide +kernel
  have hreach : Reach (LevelStart (sampleFlags true)) (levelStep (sampleFlags true))
      (Enforceable (sampleFlags true)) (levelStep (sampleFlags true) registered (sampleSetLogLevel 6)) :=
    .step (.step (.start (sampleLevels_start true)) (.inr (.inl rfl)))
      fun users hu context hc _ => .inr (.inl (hstorage users hu context hc))
  exact ((levels_enforced rfl hreach).2 write hin).1

/-- **An application sets the log level 6**: it is stored and sent, although the configured one is 4. -/
theorem not_levels_enforced :
    ∃ s : LevelState Unit,
      Reach (LevelStart (sampleFlags true)) (levelStep (sampleFlags true)) (fun _ _ => True) s ∧
      (s.context 0 0).map (effectiveLogLevel s.daemon) = some 6 ∧
      (s.writes.head?).map (·.message.logLevel) = some 6 := by
  let registered := levelStep (sampleFlags true) (sampleLevels true) (sampleRegister (ascii "TEST") 0)
  refine ⟨levelStep (sampleFlags true) registered (.setAppLlTs ⟨dltSetId (ascii "LOG"), 6, 0⟩ fun _ => .ok),
    ?_, by decide +kernel, by decide +kernel⟩
  exact .step (.step (.start (sampleLevels_start true)) trivial) trivial

end Dlt.Daemon
