import Dlt.Daemon.LevelsInvariant

/-!
# The range of the stored levels

* `levels_in_range` — **along every run of such requests** the stored values are in range, and the
  values in the saved lines are read back.
* `not_levels_in_range` — a client stores the log level 100.
-/

namespace Dlt.Daemon

open Dlt.Lib Dlt.Shared

variable {Buf : Type} {flags : LevelFlags}
variable {field : LevelField}

/-! ## Values in range -/

/-- The values of a context are values of the enumerations `DltLogLevelType` and
`DltTraceStatusType`. -/
def LevelsInRange (context : DltDaemonContext) : Prop :=
  ∀ field : LevelField, field.InRange (field.get context)

/-- The default values are values of the enumerations, and not the default ones. -/
def DefaultsInRange (daemon : DltDaemon Buf) : Prop :=
  ∀ field : LevelField, 0 ≤ field.default daemon ∧ field.default daemon ≤ field.max

/-- The byte of a value of the enumeration. -/
def LevelField.ByteInRange (field : LevelField) (byte : UInt8) : Prop :=
  (byte.toNat : ℤ) ≤ field.max ∨ byte = 255

open LevelField

theorem LevelField.inRange_i8_iff (field : LevelField) (byte : UInt8) :
    field.InRange (i8 byte.toNat) ↔ field.ByteInRange byte := by
  obtain ⟨h0, h6⟩ := field.max_le
  have hlt := byte.toNat_lt
  have heq : byte = 255 ↔ byte.toNat = 255 := UInt8.toNat_inj.symm
  unfold LevelField.InRange LevelField.ByteInRange i8
  rw [heq]
  split_ifs <;> omega

theorem LevelField.inRange_requestedAll {byte : UInt8}
    (h : flags.enforceContextLLAndTS = true ∨ field.ByteInRange byte) :
    field.InRange (requestedAll field flags byte) := by
  obtain ⟨h0, hmax⟩ := field.configured_range flags
  rw [requestedAll_eq]
  cases henforce : flags.enforceContextLLAndTS with
  | true =>
    unfold LevelField.InRange
    rw [if_pos rfl]
    split_ifs <;> omega
  | false =>
    rw [henforce] at h
    exact (field.inRange_i8_iff byte).mpr (h.resolve_left Bool.false_ne_true)

theorem LevelField.default_range_requestedAll {byte : UInt8} (h : (byte.toNat : ℤ) ≤ field.max) :
    0 ≤ requestedAll field flags byte ∧ requestedAll field flags byte ≤ field.max := by
  obtain ⟨h0, hmax⟩ := field.configured_range flags
  obtain ⟨-, h6⟩ := field.max_le
  rw [requestedAll_eq]
  split_ifs
  · omega
  · omega
  · rw [i8_of_range (by omega) (by omega)]
    omega

/-! ## The invariant -/

/-- Every stored value is in range. -/
abbrev AllInRange (s : LevelState Buf) : Prop :=
  LevelsAre LevelsInRange DefaultsInRange (fun _ => True) s

theorem rangeRules : LevelRules flags LevelsInRange (DefaultsInRange : DltDaemon Buf → Prop)
    (fun _ => True) LevelField.InRange where
  settings := by
    intro daemon daemon' hsame hD field
    rw [field.default_eq hsame]
    exact hD field
  handle := fun _ h field => by
    have hfield := h field
    cases field <;> exact hfield
  set := by
    intro field value context h hvalue field'
    rcases eq_or_ne field' field with rfl | hne
    · rwa [get_set]
    · rw [get_set_of_ne hne]
      exact h field'
  get := fun field _ h => h field
  write := fun _ _ _ _ _ _ => trivial

theorem range_addsKeep : AddsKeep LevelsInRange (DefaultsInRange : DltDaemon Buf → Prop) := by
  intro daemon logLevel traceStatus hD hlevel htrace pos handle description new old hold field
  have hasked : field.InRange (field.get { old with logLevel, traceStatus }) := by
    cases field with
    | logLevel => exact hlevel
    | traceStatus => exact htrace
  rcases field.get_contextSet daemon new logLevel traceStatus pos handle description old with
    ⟨hnew, heq⟩ | heq | ⟨heq, -⟩
  · rw [heq]
    exact hold hnew field
  · rw [heq]
    have hdefault := hD field
    exact ⟨by omega, hdefault.2⟩
  · rw [heq]
    exact hasked

theorem DefaultsInRange.set {daemon daemon' : DltDaemon Buf} (hD : DefaultsInRange daemon)
    (field : LevelField)
    (hother : ∀ field', field' ≠ field → field'.default daemon' = field'.default daemon)
    (hrange : 0 ≤ field.default daemon' ∧ field.default daemon' ≤ field.max) :
    DefaultsInRange daemon' := by
  intro field'
  rcases eq_or_ne field' field with rfl | hne
  · exact hrange
  · rw [hother field' hne]
    exact hD field'

/-! ## Runs -/

/-- The requests whose bytes are stored without a check carry values of the enumerations. -/
def RequestInRange (flags : LevelFlags) : LevelOp → Prop
  | .setLogLevel databuffer _ => flags.enforceContextLLAndTS = true ∨
      LevelField.logLevel.ByteInRange (serviceSetLogLevelLayout.decode databuffer).logLevel
  | .setTraceStatus databuffer _ => flags.enforceContextLLAndTS = true ∨
      LevelField.traceStatus.ByteInRange (serviceSetLogLevelLayout.decode databuffer).logLevel
  | .setAppLlTs userctxt _ => LevelField.logLevel.ByteInRange userctxt.logLevel ∧
      LevelField.traceStatus.ByteInRange userctxt.traceStatus
  | _ => True

/-- **Every operation** with such a request keeps the stored values in range. -/
theorem AllInRange.levelStep {s : LevelState Buf} (hs : AllInRange s) {op : LevelOp}
    (hop : RequestInRange flags op) : AllInRange (levelStep flags s op) := by
  have hrules : LevelRules flags LevelsInRange (DefaultsInRange : DltDaemon Buf → Prop)
    (fun _ => True) LevelField.InRange := rangeRules
  have hinv := hrules.levelInvariant
  cases op with
  | registerContext malloc slot userctxt description write =>
    refine hs.registerContext range_addsKeep hrules.settings hrules.handle (fun context h field => ?_)
      (fun _ _ _ _ _ _ => trivial) malloc slot description write
    have hfield := h field
    cases field <;> exact hfield
  | setLogLevel databuffer writes =>
    exact hinv.setLogLevel hs (inRange_requestedAll hop) writes
  | setTraceStatus databuffer writes =>
    exact hinv.setTraceStatus hs (inRange_requestedAll hop) writes
  | setDefaultLogLevel databuffer writes =>
    refine hinv.setDefaultLogLevel hs (fun byte hbyte => hs.setDaemon rfl ?_) writes
    refine hs.settings.set .logLevel (fun field hne => ?_) (default_range_requestedAll hbyte)
    cases field with
    | logLevel => exact absurd rfl hne
    | traceStatus => rfl
  | setDefaultTraceStatus databuffer writes =>
    refine hinv.setDefaultTraceStatus hs (fun byte hbyte => hs.setDaemon rfl ?_) writes
    refine hs.settings.set .traceStatus (fun field hne => ?_)
      (default_range_requestedAll hbyte)
    cases field with
    | logLevel => rfl
    | traceStatus => exact absurd rfl hne
  | setAllLogLevel databuffer writes =>
    exact hinv.setAllLogLevel hs (fun _ hbyte => inRange_requestedAll (.inr hbyte)) writes
  | setAllTraceStatus databuffer writes =>
    exact hinv.setAllTraceStatus hs (fun _ hbyte => inRange_requestedAll (.inr hbyte)) writes
  | setAppLlTs userctxt writes =>
    exact hinv.setAppLlTs hs ((inRange_i8_iff _ _).mpr hop.1)
      ((inRange_i8_iff _ _).mpr hop.2) writes
  | contextsLoad malloc slots ll ts applicationsLoaded file =>
    exact hs.loadContexts range_addsKeep hrules.settings malloc slots ll ts applicationsLoaded file

theorem LevelStart.allInRange {s : LevelState Buf} (h : LevelStart flags s) : AllInRange s := by
  refine ⟨fun users hin => ?_, fun field => ?_, fun _ _ => trivial⟩
  · refine ⟨(h.registered users hin).numContexts_eq, fun context hc => ?_⟩
    rw [h.contexts_nil users hin] at hc
    exact absurd hc List.not_mem_nil
  · rw [field.default_start h]
    exact field.configured_range flags

/-- A number of the saved line is read back by `dlt_daemon_contexts_load`. -/
def ReadsBack (value : ℤ) : Prop := (scanDecimal (printDecimal value)).map i8 = some value

theorem LevelField.InRange.readsBack {value : ℤ} (h : field.InRange value) : ReadsBack value := by
  obtain ⟨hlow, hhigh⟩ := h
  have h6 := field.max_le.2
  rw [ReadsBack, (printDecimal_spec (by omega) (by omega)).2.2.2, Option.map_some,
    i8_of_range (by omega) (by omega)]

/-- **The stored levels stay in range.** Along every run of requests that carry values of the
enumerations, every context has a log level and a trace status of the enumerations, which are read
back when they are saved and loaded, and the default values are in range. -/
theorem levels_in_range {s : LevelState Buf}
    (h : Reach (LevelStart flags) (levelStep flags) (fun _ => RequestInRange flags) s) :
    (∀ users ∈ s.daemon.userList, ∀ context ∈ users.contexts,
      (-1 ≤ context.logLevel ∧ context.logLevel ≤ 6) ∧
      (-1 ≤ context.traceStatus ∧ context.traceStatus ≤ 1) ∧
      ReadsBack context.logLevel ∧ ReadsBack context.traceStatus) ∧
    (0 ≤ s.daemon.defaultLogLevel ∧ s.daemon.defaultLogLevel ≤ 6) ∧
    0 ≤ s.daemon.defaultTraceStatus ∧ s.daemon.defaultTraceStatus ≤ 1 := by
  have hs : AllInRange s := h.invariant (fun _ => LevelStart.allInRange)
    fun _ _ hs hop => hs.levelStep hop
  refine ⟨fun users hin context hc => ?_, hs.settings .logLevel, hs.settings .traceStatus⟩
  have hcontext := (hs.contexts users hin).all context hc
  exact ⟨hcontext .logLevel, hcontext .traceStatus, (hcontext .logLevel).readsBack,
    (hcontext .traceStatus).readsBack⟩

theorem levels_in_range_sample :
    let flags := sampleFlags false
    let s := levelStep flags (levelStep flags (sampleLevels false) (sampleRegister (ascii "TEST") 0))
      (sampleSetLogLevel 6)
    ∀ users ∈ s.daemon.userList, ∀ context ∈ users.contexts, context.logLevel ≤ 6 := by
  intro flags s users hin context hc
  have hreach : Reach (LevelStart flags) (levelStep flags) (fun _ => RequestInRange flags) s :=
    .step (.step (.start (sampleLevels_start false)) trivial)
      (.inr (show LevelField.logLevel.ByteInRange 6 from .inl (show (6 : ℤ) ≤ 6 by decide)))
  exact ((levels_in_range hreach).1 users hin context hc).1.2

/-- **A client stores the log level 100.** -/
theorem not_levels_in_range :
    ∃ s : LevelState Unit,
      Reach (LevelStart (sampleFlags false)) (levelStep (sampleFlags false)) (fun _ _ => True) s ∧
      (s.context 0 0).map DltDaemonContext.logLevel = some 100 := by
  let registered := levelStep (sampleFlags false) (sampleLevels false) (sampleRegister (ascii "TEST") 0)
  refine ⟨levelStep (sampleFlags false) registered (sampleSetLogLevel 100), ?_, by decide +kernel⟩
  exact .step (.step (.start (sampleLevels_start false)) trivial) trivial

end Dlt.Daemon
