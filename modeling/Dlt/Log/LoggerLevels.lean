import Dlt.Contexts.ContextTableRuns

/-!
# The level settings of loggers

* `persists_iff` — they do exactly when each call finds what its own logger remembers.

The application is initialised, and no forked child. The messages that a network trace is sent in are left out.
-/

namespace Dlt.Log.Levels

open Dlt.Lib Dlt.Shared Dlt.Contexts

/-! ## Data -/

/-- A log level that is not only for range checks. Source: `dlt_types.h`, `DltLogLevelType` -/
structure DltLogLevelType where
  val : ℤ
  /-- It is a level, or none is set. -/
  ge : dltUserLogLevelNotSet ≤ val
  /-- It is not the number for range checks. -/
  lt : val < dltLogMax

/-- A trace status that is not only for range checks. Source: `DltTraceStatusType` -/
structure DltTraceStatusType where
  val : ℤ
  /-- It is a status, or none is set. -/
  ge : dltUserTraceStatusNotSet ≤ val
  /-- It is not the number for range checks. -/
  lt : val < dltTraceStatusMax

/-- `DLT_TRACE_STATUS_ON`. Source: `dlt_types.h` -/
def dltTraceStatusOn : DltTraceStatusType := ⟨1, by decide, by decide⟩

/-- What a logger remembers. Source: `logger.cpp`, `Logger::Impl` -/
structure Logger where
  /-- `LoggerLevel`. -/
  loggerLevel : DltLogLevelType
  /-- `LoggerTraceStatus`. -/
  loggerTraceStatus : DltTraceStatusType
  dltContext : ℕ

open Logger

/-- The loggers of an application, and the table of its contexts, which is in order. -/
structure Application where
  world : World
  order : Invariant world
  loggers : List Logger
  /-- The loggers whose network messages were traced, the last one first. -/
  traced : List ℕ

open Application

/-- The level that is in force for the context of a handle. -/
def levelOf (w : World) (h : ℕ) : Option Int8 := (w.handles h).logLevelPtr.bind w.cells

/-- The trace status that is in force for the context of a handle. -/
def statusOf (w : World) (h : ℕ) : Option Int8 := (w.handles h).traceStatusPtr.bind w.cells

/-! ## Calls -/

theorem invariant_limit {w : World} (hw : Invariant w) (loglevel tracestatus : ℤ) (link : Link) :
    Invariant (dltSetApplicationLlTsLimit w loglevel tracestatus link).1 :=
  @invariant_perform 0 _ (.limit loglevel tracestatus link) hw trivial

def Application.limit (a : Application) (loglevel : DltLogLevelType) (tracestatus : DltTraceStatusType) (link : Link) :
    Application :=
  { a with
    world := (dltSetApplicationLlTsLimit a.world loglevel.val tracestatus.val link).1
    order := invariant_limit a.order loglevel.val tracestatus.val link }

/-- `pImpl->LoggerTraceStatus` of the logger at a position is set. -/
def Application.setLoggerTraceStatus (a : Application) (j : ℕ) (status : DltTraceStatusType) : Application :=
  { a with loggers := a.loggers.modify j fun logger => { logger with loggerTraceStatus := status } }

/-- The logger is given by its position.
Source: `Logger::setTraceStatus` -/
def setTraceStatus (a : Application) (j : ℕ) (status : DltTraceStatusType) (link : Link) : Application :=
  match a.loggers[j]? with
  | none => a
  | some logger => (a.limit logger.loggerLevel status link).setLoggerTraceStatus j status

/-- Source: `Logger::setMaxLogLevel` -/
def setMaxLogLevel (a : Application) (j : ℕ) (loglv : DltLogLevelType) (link : Link) : Application :=
  match a.loggers[j]? with
  | none => a
  | some logger => a.limit loglv logger.loggerTraceStatus link

/-- Source: `Logger::getMaxLogLevel` -/
def getMaxLogLevel (logger : Logger) : DltLogLevelType := logger.loggerLevel

/-- The tracing of a network message, the same for truncated and segmented ones.
Source: `Logger::Impl::traceNetworkTruncated`, `Logger::Impl::traceNetworkSegmented` -/
def traceNetwork (a : Application) (j : ℕ) (link : Link) : Application :=
  match a.loggers[j]? with
  | none => a
  | some logger =>
    let a := (a.limit logger.loggerLevel dltTraceStatusOn link).setLoggerTraceStatus j dltTraceStatusOn
    { a with
      traced := if statusOf a.world logger.dltContext = some (Int8.ofInt dltTraceStatusOn.val) then j :: a.traced
        else a.traced }

/-- Source: `Logger::Impl::traceNetworkTruncated` -/
def traceNetworkTruncated : Application → ℕ → Link → Application := traceNetwork

/-- Source: `Logger::Impl::traceNetworkSegmented` -/
def traceNetworkSegmented : Application → ℕ → Link → Application := traceNetwork

/-- A call for the logger at a position. -/
inductive Call
  /-- `setMaxLogLevel`. -/
  | setMaxLogLevel (j : ℕ) (loglv : DltLogLevelType) (link : Link)
  /-- `setTraceStatus`. -/
  | setTraceStatus (j : ℕ) (status : DltTraceStatusType) (link : Link)
  /-- `traceNetworkTruncated`. -/
  | traceNetworkTruncated (j : ℕ) (link : Link)
  /-- `traceNetworkSegmented`. -/
  | traceNetworkSegmented (j : ℕ) (link : Link)

def Application.call (a : Application) : Call → Application
  | .setMaxLogLevel j loglv link => setMaxLogLevel a j loglv link
  | .setTraceStatus j status link => setTraceStatus a j status link
  | .traceNetworkTruncated j link => traceNetworkTruncated a j link
  | .traceNetworkSegmented j link => traceNetworkSegmented a j link

/-! ## What persists -/

/-- The level that a call asks for; `asked` is what was asked for before. -/
def Application.ask (a : Application) (asked : Option DltLogLevelType) : Call → Option DltLogLevelType
  | .setMaxLogLevel j loglv _ => if j < a.loggers.length then some loglv else asked
  | _ => asked

/-- The level that was asked for last is in force for every registered context, and every logger tells it. -/
def InForce (a : Application) (asked : Option DltLogLevelType) : Prop :=
  ∀ loglv, asked = some loglv →
    (∀ h, (a.world.live h).isSome → levelOf a.world h = some (Int8.ofInt loglv.val)) ∧
      ∀ logger ∈ a.loggers, getMaxLogLevel logger = loglv

/-- A call for the level leaves the trace status of every registered context, and another call leaves its level. -/
def LeavesOther (a : Application) : Call → Prop
  | .setMaxLogLevel j loglv link =>
    ∀ h, (a.world.live h).isSome → statusOf (a.call (.setMaxLogLevel j loglv link)).world h = statusOf a.world h
  | c => ∀ h, (a.world.live h).isSome → levelOf (a.call c).world h = levelOf a.world h

/-- **The settings persist** along the calls. -/
def Persists (a : Application) (asked : Option DltLogLevelType) : List Call → Prop
  | [] => True
  | c :: calls =>
    (LeavesOther a c ∧ InForce (a.call c) (a.ask asked c)) ∧ Persists (a.call c) (a.ask asked c) calls

/-- A call finds what its logger remembers: for a level, the level itself in every logger and the trace status of its
logger in every registered context; else the level of its logger in every registered context. -/
def Remembered (a : Application) : Call → Prop
  | .setMaxLogLevel j loglv _ =>
    ∀ logger, a.loggers[j]? = some logger →
      (∀ other ∈ a.loggers, other.loggerLevel = loglv) ∧
        ∀ h, (a.world.live h).isSome → statusOf a.world h = some (Int8.ofInt logger.loggerTraceStatus.val)
  | .setTraceStatus j _ _ | .traceNetworkTruncated j _ | .traceNetworkSegmented j _ =>
    ∀ logger, a.loggers[j]? = some logger →
      ∀ h, (a.world.live h).isSome → levelOf a.world h = some (Int8.ofInt logger.loggerLevel.val)

/-- Every call of a run finds what its logger remembers. -/
def AllRemembered (a : Application) : List Call → Prop
  | [] => True
  | c :: calls => Remembered a c ∧ AllRemembered (a.call c) calls

/-! ## A limit -/

section limit

variable {w : World} {h i n : ℕ} {ll ts : Int8}

theorem setAllLevels_other (hi : n ≤ i) : (setAllLevels w ll ts n).table[i]? = w.table[i]? := by
  induction n with
  | zero => rfl
  | succ n ih =>
    rw [setAllLevels, setLevels_other _ ll ts (Nat.ne_of_gt hi)]
    exact ih (Nat.le_of_succ_le hi)

theorem setAllLevels_entry {e : DltLlTs} (he : w.table[i]? = some e) (hi : i < n) :
    (setAllLevels w ll ts n).table[i]? = some { e with logLevel := ll, traceStatus := ts } := by
  induction n with
  | zero => exact absurd hi (Nat.not_lt_zero i)
  | succ n ih =>
    rw [setAllLevels]
    rcases Nat.lt_succ_iff_lt_or_eq.mp hi with hlt | rfl
    · rw [setLevels_other _ ll ts (Nat.ne_of_lt hlt)]
      exact ih hlt
    · have hentry : (setAllLevels w ll ts i).table[i]? = some e := (setAllLevels_other (Nat.le_refl i)).trans he
      rw [(setLevels_of_some ll ts hentry).1]
      exact getElem?_set_here _ (lt_of_getElem? hentry)

/-- A limit leaves the handles and what they are registered for. -/
theorem limit_frame (w : World) (loglevel tracestatus : ℤ) (link : Link) :
    (dltSetApplicationLlTsLimit w loglevel tracestatus link).1.live = w.live ∧
      (dltSetApplicationLlTsLimit w loglevel tracestatus link).1.handles = w.handles := by
  rcases dltSetApplicationLlTsLimit_eq w loglevel tracestatus link with heq | ⟨user, -, heq⟩
  · rw [heq]
    exact ⟨rfl, rfl⟩
  · obtain ⟨hlive, hhandles, -⟩ :=
      setAllLevels_frame w (Int8.ofInt loglevel) (Int8.ofInt tracestatus) w.user.dltLlTsNumEntries
    rw [heq]
    exact ⟨hlive, hhandles⟩

/-- **A limit is in force for every registered context.** -/
theorem limit_inForce (hw : Invariant w) (loglevel : DltLogLevelType) (tracestatus : DltTraceStatusType) (link : Link)
    (hlive : (w.live h).isSome) :
    levelOf (dltSetApplicationLlTsLimit w loglevel.val tracestatus.val link).1 h = some (Int8.ofInt loglevel.val) ∧
      statusOf (dltSetApplicationLlTsLimit w loglevel.val tracestatus.val link).1 h =
        some (Int8.ofInt tracestatus.val) := by
  obtain ⟨r, hr⟩ := Option.isSome_iff_exists.mp hlive
  obtain ⟨i, hb⟩ := hw.bound h r hr
  obtain ⟨e, he, hid⟩ := hb.entry
  have hw' := invariant_limit hw loglevel.val tracestatus.val link
  obtain ⟨hlive', hhandles'⟩ := limit_frame w loglevel.val tracestatus.val link
  -- the checks let the values through
  have htable : w.user.dltLlTs ≠ none := by
    intro hnone
    rw [World.table, hnone] at he
    cases he
  have hinside : outsideRange loglevel.val tracestatus.val = false := by
    have hll := loglevel.ge
    have hll' := loglevel.lt
    have hts := tracestatus.ge
    have hts' := tracestatus.lt
    unfold outsideRange
    apply decide_eq_false
    omega
  have hentry : (dltSetApplicationLlTsLimit w loglevel.val tracestatus.val link).1.table[i]? =
      some { e with logLevel := Int8.ofInt loglevel.val, traceStatus := Int8.ofInt tracestatus.val } := by
    unfold dltSetApplicationLlTsLimit
    rw [if_neg (by simp [hinside, htable])]
    have hsame := sameTable_sendAppLlTsLimit
      (setAllLevels w (Int8.ofInt loglevel.val) (Int8.ofInt tracestatus.val) w.user.dltLlTsNumEntries).user
      loglevel.val tracestatus.val link
    dsimp only
    rw [World.table, hsame.dltLlTs]
    exact setAllLevels_entry he hb.lt
  generalize (dltSetApplicationLlTsLimit w loglevel.val tracestatus.val link).1 = w' at *
  have hb' : Bound w' h r i := by
    obtain ⟨i', hb'⟩ := hw'.bound h r (by rw [hlive', hr])
    have hpos : Int32.ofNat i' = Int32.ofNat i := by
      rw [← hb'.position, hhandles', hb.position]
    obtain rfl := position_injective (Nat.lt_of_lt_of_le hb'.lt hw'.small) (Nat.lt_of_lt_of_le hb.lt hw.small) hpos
    exact hb'
  obtain ⟨e', he', -, -, hll, hts, ⟨p, hp, hpv⟩, q, hq, hqv⟩ := (hw'.tableOk.contexts h r (by rw [hlive', hr])).entry
  rw [hb'.entryOf hw'.small, hentry] at he'
  obtain rfl := Option.some.inj he'
  rw [levelOf, statusOf, hll, hts, hp, hq]
  exact ⟨hpv, hqv⟩

end limit

/-! ## One call -/

section call

variable {a : Application} {c : Call} {logger : Logger} {h : ℕ}

def Call.position : Call → ℕ
  | .setMaxLogLevel j _ _ | .setTraceStatus j _ _ | .traceNetworkTruncated j _ | .traceNetworkSegmented j _ => j

def Call.level (logger : Logger) : Call → DltLogLevelType
  | .setMaxLogLevel _ loglv _ => loglv
  | _ => logger.loggerLevel

/-- The trace status that a call sets. -/
def Call.status (logger : Logger) : Call → DltTraceStatusType
  | .setMaxLogLevel _ _ _ => logger.loggerTraceStatus
  | .setTraceStatus _ status _ => status
  | _ => dltTraceStatusOn

theorem call_of_none (hnone : a.loggers[c.position]? = none) : a.call c = a := by
  cases c with
  | setMaxLogLevel j loglv link =>
    rw [call, setMaxLogLevel, show a.loggers[j]? = none from hnone]
  | setTraceStatus j status link =>
    rw [call, setTraceStatus, show a.loggers[j]? = none from hnone]
  | traceNetworkTruncated j link =>
    rw [call, traceNetworkTruncated, traceNetwork, show a.loggers[j]? = none from hnone]
  | traceNetworkSegmented j link =>
    rw [call, traceNetworkSegmented, traceNetwork, show a.loggers[j]? = none from hnone]

/-- The levels that the loggers remember do not depend on their trace status. -/
theorem map_loggerLevel_modify (loggers : List Logger) (j : ℕ) (status : DltTraceStatusType) :
    (loggers.modify j fun logger => { logger with loggerTraceStatus := status }).map loggerLevel =
      loggers.map loggerLevel := by
  apply List.ext_getElem?
  intro k
  rw [List.getElem?_map, List.getElem?_map, List.getElem?_modify]
  cases loggers[k]? with
  | none => rfl
  | some logger =>
    by_cases hjk : j = k
    · simp [hjk]
    · simp [hjk]

/-- **What a call does**: a limit for all contexts. The levels that the loggers remember stay. -/
theorem call_of_some (hsome : a.loggers[c.position]? = some logger) :
    (∃ link, (a.call c).world =
      (dltSetApplicationLlTsLimit a.world (c.level logger).val (c.status logger).val link).1) ∧
      (a.call c).loggers.map loggerLevel = a.loggers.map loggerLevel := by
  have htrace : ∀ j link, a.loggers[j]? = some logger →
      (∃ link', (traceNetwork a j link).world =
        (dltSetApplicationLlTsLimit a.world logger.loggerLevel.val dltTraceStatusOn.val link').1) ∧
        (traceNetwork a j link).loggers.map loggerLevel = a.loggers.map loggerLevel := by
    intro j link hj
    unfold traceNetwork
    rw [hj]
    exact ⟨⟨link, rfl⟩, map_loggerLevel_modify _ _ _⟩
  cases c with
  | setMaxLogLevel j loglv link =>
    rw [call, setMaxLogLevel, show a.loggers[j]? = some logger from hsome]
    exact ⟨⟨link, rfl⟩, rfl⟩
  | setTraceStatus j status link =>
    rw [call, setTraceStatus, show a.loggers[j]? = some logger from hsome]
    exact ⟨⟨link, rfl⟩, map_loggerLevel_modify _ _ _⟩
  | traceNetworkTruncated j link => exact htrace j link hsome
  | traceNetworkSegmented j link => exact htrace j link hsome

theorem call_live (a : Application) (c : Call) : (a.call c).world.live = a.world.live := by
  cases hlogger : a.loggers[c.position]? with
  | none => rw [call_of_none hlogger]
  | some logger =>
    obtain ⟨⟨link, hworld⟩, -⟩ := call_of_some hlogger
    rw [hworld]
    exact (limit_frame _ _ _ _).1

theorem call_inForce (hsome : a.loggers[c.position]? = some logger) (hlive : (a.world.live h).isSome) :
    levelOf (a.call c).world h = some (Int8.ofInt (c.level logger).val) ∧
      statusOf (a.call c).world h = some (Int8.ofInt (c.status logger).val) := by
  obtain ⟨⟨link, hworld⟩, -⟩ := call_of_some hsome
  rw [hworld]
  exact limit_inForce a.order _ _ link hlive

theorem getMaxLogLevel_call (a : Application) (c : Call) (loglv : DltLogLevelType) :
    (∀ logger ∈ (a.call c).loggers, getMaxLogLevel logger = loglv) ↔
      ∀ logger ∈ a.loggers, getMaxLogLevel logger = loglv := by
  have hmap : (a.call c).loggers.map loggerLevel = a.loggers.map loggerLevel := by
    cases hlogger : a.loggers[c.position]? with
    | none => rw [call_of_none hlogger]
    | some logger => exact (call_of_some hlogger).2
  have hall : ∀ loggers : List Logger, (∀ logger ∈ loggers, getMaxLogLevel logger = loglv) ↔
      ∀ level ∈ loggers.map loggerLevel, level = loglv := by
    intro loggers
    rw [List.forall_mem_map]
    rfl
  rw [hall, hall, hmap]

/-! ## What a call has to find -/

variable {asked : Option DltLogLevelType}

theorem setMaxLogLevel_iff (j : ℕ) (loglv : DltLogLevelType) (link : Link) (hasked : InForce a asked) :
    (LeavesOther a (.setMaxLogLevel j loglv link) ∧
      InForce (a.call (.setMaxLogLevel j loglv link)) (a.ask asked (.setMaxLogLevel j loglv link))) ↔
      Remembered a (.setMaxLogLevel j loglv link) := by
  rw [LeavesOther, Remembered, ask]
  cases hlogger : a.loggers[j]? with
  | none =>
    have hnot : ¬ j < a.loggers.length := by simpa using hlogger
    rw [call_of_none (c := .setMaxLogLevel j loglv link) hlogger, if_neg hnot]
    exact ⟨fun _ logger' hlogger' => (by cases hlogger'), fun _ => ⟨fun _ _ => rfl, hasked⟩⟩
  | some logger =>
    have hlt : j < a.loggers.length := (List.getElem?_eq_some_iff.mp hlogger).1
    rw [if_pos hlt]
    have hforce := fun h => call_inForce (c := .setMaxLogLevel j loglv link) (h := h) hlogger
    constructor
    · rintro ⟨hother, hin⟩ logger' hlogger'
      obtain rfl := Option.some.inj hlogger'
      refine ⟨(getMaxLogLevel_call a _ loglv).mp (hin loglv rfl).2, fun h hlive => ?_⟩
      rw [← hother h hlive]
      exact (hforce h hlive).2
    · intro h
      obtain ⟨hlevels, hstatus⟩ := h logger rfl
      refine ⟨fun h hlive => (hforce h hlive).2.trans (hstatus h hlive).symm, ?_⟩
      intro loglv' hask
      obtain rfl := Option.some.inj hask
      refine ⟨fun h hlive => (hforce h ?_).1, (getMaxLogLevel_call a _ _).mpr hlevels⟩
      rwa [call_live] at hlive

theorem ownLevel_iff (hlevel : ∀ logger, c.level logger = logger.loggerLevel) (hasked : InForce a asked) :
    ((∀ h, (a.world.live h).isSome → levelOf (a.call c).world h = levelOf a.world h) ∧ InForce (a.call c) asked) ↔
      ∀ logger, a.loggers[c.position]? = some logger →
        ∀ h, (a.world.live h).isSome → levelOf a.world h = some (Int8.ofInt logger.loggerLevel.val) := by
  cases hlogger : a.loggers[c.position]? with
  | none =>
    rw [call_of_none hlogger]
    simp [hasked]
  | some logger =>
    have hforce : ∀ h, (a.world.live h).isSome →
        levelOf (a.call c).world h = some (Int8.ofInt logger.loggerLevel.val) := by
      intro h hlive
      rw [← hlevel]
      exact (call_inForce hlogger hlive).1
    constructor
    · rintro ⟨hother, -⟩ logger' hlogger' h hlive
      obtain rfl := Option.some.inj hlogger'
      exact (hother h hlive).symm.trans (hforce h hlive)
    · intro hremembered
      have hother : ∀ h, (a.world.live h).isSome → levelOf (a.call c).world h = levelOf a.world h :=
        fun h hlive => (hforce h hlive).trans (hremembered logger rfl h hlive).symm
      refine ⟨hother, fun loglv hask => ?_⟩
      obtain ⟨hlevels, htold⟩ := hasked loglv hask
      refine ⟨fun h hlive => ?_, (getMaxLogLevel_call a c loglv).mpr htold⟩
      rw [call_live] at hlive
      exact (hother h hlive).trans (hlevels h hlive)

/-- **One call**: the settings persist exactly when the call finds what its logger remembers. -/
theorem call_iff (a : Application) (asked : Option DltLogLevelType) (c : Call) (hasked : InForce a asked) :
    (LeavesOther a c ∧ InForce (a.call c) (a.ask asked c)) ↔ Remembered a c := by
  cases c with
  | setMaxLogLevel j loglv link => exact setMaxLogLevel_iff j loglv link hasked
  | setTraceStatus j status link => exact ownLevel_iff (fun _ => rfl) hasked
  | traceNetworkTruncated j link => exact ownLevel_iff (fun _ => rfl) hasked
  | traceNetworkSegmented j link => exact ownLevel_iff (fun _ => rfl) hasked

end call

/-! ## Runs -/

/-- Along a run from a state in which the level asked for is in force. -/
theorem persists_iff_of_inForce (a : Application) (asked : Option DltLogLevelType) (calls : List Call)
    (hasked : InForce a asked) : Persists a asked calls ↔ AllRemembered a calls := by
  induction calls generalizing a asked with
  | nil => exact Iff.rfl
  | cons c calls ih =>
    have hcall := call_iff a asked c hasked
    unfold Persists AllRemembered
    constructor
    · rintro ⟨hstep, hrest⟩
      exact ⟨hcall.mp hstep, (ih _ _ hstep.2).mp hrest⟩
    · rintro ⟨hstep, hrest⟩
      have hstep' := hcall.mpr hstep
      exact ⟨hstep', (ih _ _ hstep'.2).mpr hrest⟩

/-- **The level settings persist** along a run exactly when each call finds what its own logger remembers. -/
theorem persists_iff (a : Application) (calls : List Call) : Persists a none calls ↔ AllRemembered a calls :=
  persists_iff_of_inForce a none calls fun _ hask => (by cases hask)

def sampleInfo : DltLogLevelType := ⟨4, by decide, by decide⟩

/-- Another level. -/
def sampleVerbose : DltLogLevelType := ⟨6, by decide, by decide⟩

/-- A trace status of the samples. -/
def sampleOff : DltTraceStatusType := ⟨0, by decide, by decide⟩

theorem sample_order : Invariant (step 7 sampleWorld (.register 0 sampleRegister (memoryFrom 0))) :=
  invariant_perform (invariant_initial sampleWorld_initial) sampleRegister_allowed

/-- An application with one logger, whose context is registered with the level `INFO`. -/
def sampleApplication : Application where
  world := step 7 sampleWorld (.register 0 sampleRegister (memoryFrom 0))
  order := sample_order
  loggers := [⟨sampleInfo, sampleOff, 0⟩]
  traced := []

/-- The level `VERBOSE` is set, and then tracing: the logger does not tell `VERBOSE`, and tracing sets `INFO` again. -/
theorem persists_lost :
    ¬ Persists sampleApplication none
      [.setMaxLogLevel 0 sampleVerbose ⟨true, true⟩, .setTraceStatus 0 dltTraceStatusOn ⟨true, true⟩] := by
  rintro ⟨-, ⟨hother, -⟩, -⟩
  have hlevel := hother 0 (by decide +kernel)
  revert hlevel
  decide +kernel

end Dlt.Log.Levels
