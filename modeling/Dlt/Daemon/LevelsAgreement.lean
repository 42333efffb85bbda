import Dlt.Daemon.LevelsLoops

/-!
# The agreement between the daemon and its applications

* `levels_agree` — **along every run of such operations** there is an agreement, and failures keep the
  values.
* `not_levels_agree` — a value for all contexts is stored although the application is not told.
-/

namespace Dlt.Daemon

open Dlt.Lib Dlt.Shared List DltDaemonContext

variable {Buf : Type} {flags : LevelFlags} {s s' : LevelState Buf} {l : ℕ}
  {users users' : DltDaemonRegisteredUsers}
variable {databuffer : List UInt8} {writes : ℕ → WriteOutcome}

/-! ## The agreement -/

/-- The contexts of the daemon's own ECU. -/
def LevelState.own (s : LevelState Buf) : List DltDaemonContext :=
  (s.daemon.ownUsers.map DltDaemonRegisteredUsers.contexts).getD []

/-- **The agreement**: what the application was told about a context with a valid handle is what applies
to the context. -/
def Agreement (s : LevelState Buf) : Prop := ∀ context ∈ s.own, Valid context → Agrees s context

/-- **A context whose message could not be written** keeps its values. -/
def FailuresKeep (s s' : LevelState Buf) : Prop :=
  ∃ new, s'.writes = new ++ s.writes ∧ ∀ w ∈ new, w.written = false →
    ∀ context ∈ s.own, context.ids = w.ids →
      ∃ context' ∈ s'.own, context'.ids = context.ids ∧ context'.logLevel = context.logLevel ∧
        context'.traceStatus = context.traceStatus

theorem TellOk.own_eq (h : TellOk s l users) : s.own = users.contexts := by
  unfold LevelState.own DltDaemon.ownUsers
  rw [h.own.find, Option.bind_some, h.own.get]
  rfl

theorem TellOk.agreement_iff (h : TellOk s l users) : Agreement s ↔ ∀ j, AgreesAt s users j := by
  unfold Agreement
  rw [h.own_eq]
  constructor
  · exact fun hall j c hc => hall c (mem_of_getElem? hc)
  · intro hall c hc
    obtain ⟨j, hj⟩ := mem_iff_getElem?.mp hc
    exact hall j c hj

def TellInv (s : LevelState Buf) : Prop := (∃ l users, TellOk s l users) ∧ Agreement s

/-- What an operation keeps. -/
structure TellKept (s s' : LevelState Buf) : Prop where
  inv : TellInv s'
  failures : FailuresKeep s s'

theorem FailuresKeep.of_writes (h : s'.writes = s.writes) : FailuresKeep s s' :=
  ⟨[], h, fun _ hw => absurd hw not_mem_nil⟩

theorem TellInv.kept (h : TellInv s) : TellKept s s := ⟨h, .of_writes rfl⟩

theorem TellKept.respond (h : TellKept s s') (id : ℕ) (status : ServiceResponse) :
    TellKept s (s'.respond id status) := by
  obtain ⟨⟨⟨l, users, hok⟩, hagree⟩, hfailures⟩ := h
  exact ⟨⟨⟨l, users, hok.of_daemon rfl⟩, hagree⟩, hfailures⟩

theorem ChangesAt.failuresKeep (hok : TellOk s l users) (hok' : TellOk s' l users') {is : List ℕ}
    (h : ChangesAt s s' users users' is) : FailuresKeep s s' := by
  obtain ⟨new, hnew, hfailed⟩ := h.failures
  refine ⟨new, hnew, fun w hw hwritten c hc hids => ?_⟩
  rw [hok.own_eq] at hc
  obtain ⟨i, -, c', hc', hids', hvalues⟩ := hfailed w hw hwritten
  obtain ⟨j, hj⟩ := mem_iff_getElem?.mp hc
  have hij : j = i := by
    have hlt := (List.getElem?_eq_some_iff.mp hj).1
    apply (getElem?_inj (by simpa using hlt) hok.own.users_registered.nodup_ids).mp
    rw [getElem?_map, getElem?_map, hj, hc', Option.map_some, Option.map_some, hids, hids']
  rw [← hij, valuesAt, valuesAt, hj] at hvalues
  obtain ⟨d, hd, hdvalues⟩ := Option.map_eq_some_iff.mp hvalues
  have hget := congrArg (fun xs => xs[j]?) h.ids
  simp only [getElem?_map, hd, hj, Option.map_some, Option.some.injEq] at hget
  rw [hok'.own_eq]
  exact ⟨d, mem_of_getElem? hd, hget, (Prod.mk.inj hdvalues).1, (Prod.mk.inj hdvalues).2⟩

/-- **A loop over different positions.** -/
theorem TellSteps.kept {is : List ℕ} (h : TellSteps l s users is s' users') (hok : TellOk s l users)
    (hnodup : is.Nodup) (hagree : ∀ j, AgreesAt s users j) : TellKept s s' := by
  refine ⟨⟨⟨l, users', h.tellOk⟩, h.tellOk.agreement_iff.mpr fun j => h.agrees (hagree j)⟩, ?_⟩
  exact (h.changesAt hnodup).failuresKeep hok h.tellOk

theorem TellOk.ownContexts (h : TellOk s l users) :
    s.ownContexts = some (l, users.contexts.length) := by
  unfold LevelState.ownContexts
  simp only [h.own.find, h.own.get, Option.bind_eq_bind, Option.bind_some, Option.pure_def,
    h.own.users_registered.numContexts_eq]

/-! ## Requests for contexts -/

/-- **The contexts that a request names.** -/
theorem TellInv.controlSetLevel (h : TellInv s) (field : LevelField) (apid ctid : Id4) (value : ℤ)
    (writes : ℕ → WriteOutcome) :
    TellKept s (controlSetLevel field flags s apid ctid value writes) := by
  obtain ⟨⟨l, users, hok⟩, hagree⟩ := h
  have hall := hok.agreement_iff.mp hagree
  unfold Daemon.controlSetLevel
  dsimp only
  simp only [hok.ownContexts]
  have hmultiple : ∀ appFlag str len, TellKept s (findMultiple field flags l appFlag str len value writes
      s (List.range users.contexts.length)) := by
    intro appFlag str len
    obtain ⟨users', hsteps⟩ := hok.findMultiple flags field appFlag str len value writes
      (List.range users.contexts.length)
    exact hsteps.kept hok nodup_range hall
  split_ifs
  · exact hmultiple _ _ _
  · exact hmultiple _ _ _
  · exact hmultiple _ _ _
  · exact hmultiple _ _ _
  · split
    · rename_i l' i hfind
      have hl : l' = l := by
        simp only [dltDaemonContextFind, hok.own.find, Option.bind_eq_bind, Option.bind_some,
          Option.bind_eq_some_iff, Option.pure_def, Option.some.injEq, Prod.mk.injEq] at hfind
        obtain ⟨-, -, -, -, heq, -⟩ := hfind
        exact heq.symm
      rw [hl]
      obtain ⟨users', hok', hstep⟩ := hok.sendLevel flags field i value (writes i)
      exact (TellSteps.cons hok hstep (.nil hok')).kept hok (nodup_singleton i) hall
    · exact (TellInv.kept ⟨⟨l, users, hok⟩, hagree⟩).respond _ _

theorem TellInv.setLogLevel (h : TellInv s) (databuffer : List UInt8) (writes : ℕ → WriteOutcome) :
    TellKept s (dltDaemonControlSetLogLevel flags s databuffer writes) := by
  unfold dltDaemonControlSetLogLevel
  split_ifs
  · exact h.kept
  · exact h.controlSetLevel ..

theorem TellInv.setTraceStatus (h : TellInv s) (databuffer : List UInt8)
    (writes : ℕ → WriteOutcome) :
    TellKept s (dltDaemonControlSetTraceStatus flags s databuffer writes) := by
  unfold dltDaemonControlSetTraceStatus
  split_ifs
  · exact h.kept
  · exact h.controlSetLevel ..

theorem TellInv.setAppLlTs (h : TellInv s) (userctxt : DltUserControlMsgAppLogLevelTraceStatus)
    (writes : ℕ → WriteOutcome) : TellKept s (setAppLlTs flags s userctxt writes) := by
  obtain ⟨⟨l, users, hok⟩, hagree⟩ := id h
  unfold Daemon.setAppLlTs
  split
  · exact h.kept
  · rename_i l' i hfind
    have hl : l' = l := by
      simp only [dltDaemonApplicationFind, hok.own.find, Option.bind_eq_bind, Option.bind_some,
        Option.bind_eq_some_iff, Option.pure_def, Option.some.injEq, Prod.mk.injEq] at hfind
      obtain ⟨-, -, -, -, heq, -⟩ := hfind
      exact heq.symm
    rw [hl]
    split
    · exact h.kept
    · split
      · exact h.kept
      · obtain ⟨users', hsteps⟩ := hok.setAppContexts flags _ _ writes _
        exact hsteps.kept hok nodup_range' (hok.agreement_iff.mp hagree)

/-! ## Requests for all contexts -/

def requestedByte (databuffer : List UInt8) : UInt8 :=
  (serviceSetDefaultLogLevelLayout.decode databuffer).logLevel

/-- Where a value for all contexts does not reach the application, the context has it already. -/
def AllTold (field : LevelField) (flags : LevelFlags) (s : LevelState Buf) (databuffer : List UInt8)
    (writes : ℕ → WriteOutcome) : Prop :=
  serviceSetDefaultLogLevelLayout.size ≤ databuffer.length →
    ((requestedByte databuffer).toNat : ℤ) ≤ field.max ∨ requestedByte databuffer = 255 →
    ∀ i c, s.own[i]? = some c → Valid c → writes i ≠ .ok →
      field.get c = requestedAll field flags (requestedByte databuffer)

/-- Where a new default value does not reach the application, the context has another value, or the
application has gone. -/
def DefaultTold (field : LevelField) (flags : LevelFlags) (s : LevelState Buf)
    (databuffer : List UInt8) (writes : ℕ → WriteOutcome) : Prop :=
  serviceSetDefaultLogLevelLayout.size ≤ databuffer.length →
    ((requestedByte databuffer).toNat : ℤ) ≤ field.max →
    requestedAll field flags (requestedByte databuffer) ≠ field.default s.daemon →
      ∀ i c, s.own[i]? = some c → Valid c → field.get c = -1 → writes i ≠ .error

/-- **All contexts get a value.** -/
theorem TellInv.sendAllUpdate (h : TellInv s) (field : LevelField) (value : ℤ)
    (writes : ℕ → WriteOutcome)
    (hfailed : ∀ i c, s.own[i]? = some c → Valid c → writes i ≠ .ok → field.get c = value) :
    TellKept s (match s.ownContexts with
      | none => s
      | some (l, num) => sendAllUpdate field flags l value writes s (List.range num)) := by
  obtain ⟨⟨l, users, hok⟩, hagree⟩ := h
  rw [hok.own_eq] at hfailed
  rw [hok.ownContexts]
  obtain ⟨users', hsteps⟩ := hok.sendAllUpdate flags field value writes nodup_range
    fun i _ => hfailed i
  exact hsteps.kept hok nodup_range (hok.agreement_iff.mp hagree)

section

variable (h : TellInv s)
include h

theorem TellInv.setAllLogLevel (hop : AllTold .logLevel flags s databuffer writes) :
    TellKept s (dltDaemonControlSetAllLogLevel flags s databuffer writes) := by
  unfold dltDaemonControlSetAllLogLevel dltDaemonUserSendAllLogLevelUpdate
  dsimp only
  split_ifs with hshort hvalid
  · exact h.kept
  · exact (h.sendAllUpdate .logLevel _ writes (hop (not_lt.mp hshort) hvalid)).respond _ _
  · exact h.kept.respond _ _

theorem TellInv.setAllTraceStatus (hop : AllTold .traceStatus flags s databuffer writes) :
    TellKept s (dltDaemonControlSetAllTraceStatus flags s databuffer writes) := by
  unfold dltDaemonControlSetAllTraceStatus dltDaemonUserSendAllTraceStatusUpdate
  dsimp only
  split_ifs with hshort hvalid
  · exact h.kept
  · exact (h.sendAllUpdate .traceStatus _ writes (hop (not_lt.mp hshort) hvalid)).respond _ _
  · exact h.kept.respond _ _

/-- **A default value changes**, and the contexts that have it are told. -/
theorem TellInv.sendDefaultUpdate (field : LevelField) (value : ℤ) (writes : ℕ → WriteOutcome)
    (daemon : DltDaemon Buf) (hlists : daemon.userList = s.daemon.userList)
    (hecuid : daemon.ecuid = s.daemon.ecuid) (hfield : field.default daemon = value)
    (hother : ∀ field', field' ≠ field → field'.default daemon = field'.default s.daemon)
    (htold : value ≠ field.default s.daemon →
      ∀ i c, s.own[i]? = some c → Valid c → field.get c = -1 → writes i ≠ .error) :
    TellKept s (dltDaemonUserSendDefaultUpdate flags { s with daemon := daemon } writes) := by
  obtain ⟨⟨l, users, hok⟩, hagree⟩ := h
  rw [hok.own_eq] at htold
  have hall := hok.agreement_iff.mp hagree
  have hown : Own daemon l users := by
    refine ⟨fun users' hin => hok.own.registered users' (hlists ▸ hin), ?_, hlists ▸ hok.own.get⟩
    rw [hecuid, ← hok.own.find]
    unfold dltDaemonFindUsersList
    rw [hlists]
  have hset : TellOk { s with daemon := daemon } l users :=
    ⟨hown, hok.storage, hok.apart, hok.application⟩
  unfold dltDaemonUserSendDefaultUpdate
  rw [hset.ownContexts]
  obtain ⟨users', hsteps, hready⟩ := hset.sendDefaultUpdate flags writes
    (nodup_range (n := users.contexts.length))
  have hchanges : FailuresKeep { s with daemon := daemon } _ :=
    (hsteps.changesAt nodup_range).failuresKeep hset hsteps.tellOk
  refine ⟨⟨⟨l, users', hsteps.tellOk⟩, hsteps.tellOk.agreement_iff.mpr fun j => ?_⟩, ?_⟩
  · by_cases hj : j < users.contexts.length
    · refine hready j (mem_range.mpr hj) fun c hc hvalid => ?_
      by_cases hdefault : field.get c = -1 ∧ value ≠ field.default s.daemon
      · refine .inl ⟨?_, htold hdefault.2 j c hc hvalid hdefault.1⟩
        cases field with
        | logLevel => exact .inl hdefault.1
        | traceStatus => exact .inr hdefault.1
      · -- what applies to the context is as before
        refine .inr fun message hmessage => ?_
        have hold := hall j c hc hvalid message hmessage
        have hsame : ∀ field' : LevelField, field'.get c = -1 →
            field'.default daemon = field'.default s.daemon := by
          intro field' hget
          rcases eq_or_ne field' field with rfl | hne
          · rw [hfield]
            exact not_not.mp fun hne => hdefault ⟨hget, hne⟩
          · exact hother field' hne
        have hlevel : effectiveLogLevel daemon c = effectiveLogLevel s.daemon c := by
          unfold effectiveLogLevel
          split_ifs with heq
          · exact hsame .logLevel heq
          · rfl
        have htrace : effectiveTraceStatus daemon c = effectiveTraceStatus s.daemon c := by
          unfold effectiveTraceStatus
          split_ifs with heq
          · exact hsame .traceStatus heq
          · rfl
        rw [hlevel, htrace]
        exact hold
    · refine hsteps.agrees fun c hc => ?_
      exact absurd (List.getElem?_eq_some_iff.mp hc).1 hj
  · obtain ⟨new, hnew, hfailed⟩ := hchanges
    refine ⟨new, hnew, fun w hw hwritten c hc => hfailed w hw hwritten c ?_⟩
    rw [hset.own_eq, ← hok.own_eq]
    exact hc

theorem TellInv.setDefaultLogLevel (hop : DefaultTold .logLevel flags s databuffer writes) :
    TellKept s (dltDaemonControlSetDefaultLogLevel flags s databuffer writes) := by
  unfold dltDaemonControlSetDefaultLogLevel
  dsimp only
  split_ifs with hshort hvalid
  · exact h.kept
  · refine (h.sendDefaultUpdate .logLevel _ writes { s.daemon with
      defaultLogLevel := requestedAll .logLevel flags (requestedByte databuffer) } rfl rfl rfl
        (fun field hne => ?_) (hop (not_lt.mp hshort) hvalid)).respond _ _
    cases field with
    | logLevel => exact absurd rfl hne
    | traceStatus => rfl
  · exact h.kept.respond _ _

theorem TellInv.setDefaultTraceStatus (hop : DefaultTold .traceStatus flags s databuffer writes) :
    TellKept s (dltDaemonControlSetDefaultTraceStatus flags s databuffer writes) := by
  unfold dltDaemonControlSetDefaultTraceStatus
  dsimp only
  split_ifs with hshort hvalid
  · exact h.kept
  · have hle : ((requestedByte databuffer).toNat : ℤ) ≤ LevelField.traceStatus.max := by
      rcases hvalid with hvalid | hvalid
      · rw [requestedByte, hvalid]
        exact show (0 : ℤ) ≤ 1 by decide
      · exact hvalid.le
    refine (h.sendDefaultUpdate .traceStatus _ writes { s.daemon with
      defaultTraceStatus := requestedAll .traceStatus flags (requestedByte databuffer) } rfl rfl rfl
        (fun field hne => ?_) (hop (not_lt.mp hshort) hle)).respond _ _
    cases field with
    | logLevel => rfl
    | traceStatus => exact absurd rfl hne
  · exact h.kept.respond _ _

end

/-! ## Contexts that are added -/

section added

variable {d : DltDaemonContext}

/-- An entry is replaced or added. If its handle is valid, no other context has its position, and its
application has its handle. -/
theorem TellOk.of_replaces (h : TellOk s l users) (hown : Own s'.daemon l users')
    (hreplaces : Replaces DltDaemonContext.ids d users.contexts users'.contexts)
    (happs : users'.applications.map (fun a => { a with numContexts := 0 }) =
      users.applications.map fun a => { a with numContexts := 0 })
    (hd : Valid d → d.storageLogLevel = dltLogDefault ∧
      (∀ c ∈ users.contexts, c.userHandle = d.userHandle → c.logLevelPos = d.logLevelPos →
        c.ids = d.ids) ∧
      ∃ a ∈ users.applications, a.apid = d.apid ∧ a.userHandle = d.userHandle) :
    TellOk s' l users' := by
  have hmem : ∀ c ∈ users'.contexts, c = d ∨ c ∈ users.contexts := fun c hc =>
    ((hreplaces c).mp hc).imp_right And.left
  refine ⟨hown, fun c hc hvalid => ?_, fun c hc c' hc' hvalid hhandle hpos => ?_, fun c hc hvalid => ?_⟩
  · rcases hmem c hc with rfl | hc
    · exact (hd hvalid).1
    · exact h.storage c hc hvalid
  · rcases hmem c hc with rfl | hc
    · rcases hmem c' hc' with rfl | hc'
      · rfl
      · exact (hd hvalid).2.1 c' hc' hhandle hpos
    · rcases hmem c' hc' with rfl | hc'
      · exact ((hd (show _ ≥ _ from hhandle ▸ hvalid)).2.1 c hc hhandle.symm hpos.symm).symm
      · exact h.apart c hc c' hc' hvalid hhandle hpos
  · have hold : ∃ a ∈ users.applications, a.apid = c.apid ∧ a.userHandle = c.userHandle := by
      rcases hmem c hc with rfl | hc
      · exact (hd hvalid).2.2
      · exact h.application c hc hvalid
    obtain ⟨a, ha, hapid, hhandle⟩ := hold
    have hin : { a with numContexts := 0 } ∈
        users'.applications.map fun a => { a with numContexts := 0 } := by
      rw [happs]
      exact mem_map.mpr ⟨a, ha, rfl⟩
    obtain ⟨a', ha', heq⟩ := mem_map.mp hin
    have hapid' := congrArg DltDaemonApplication.apid heq
    have hhandle' := congrArg DltDaemonApplication.userHandle heq
    exact ⟨a', ha', hapid'.trans hapid, hhandle'.trans hhandle⟩

theorem Agreement.of_replaces (h : Agreement s) (hok : TellOk s l users) (hok' : TellOk s' l users')
    (hreplaces : Replaces DltDaemonContext.ids d users.contexts users'.contexts)
    (hwrites : s'.writes = s.writes) (hsame : SameDefaults s.daemon s'.daemon)
    (hd : Valid d → Agrees s' d) : Agreement s' := by
  intro c hc hvalid
  rw [hok'.own_eq] at hc
  rcases (hreplaces c).mp hc with rfl | ⟨hc, -⟩
  · exact hd hvalid
  · rw [← hok.own_eq] at hc
    exact (h c hc hvalid).of_told (by simp only [told, hwrites]) hsame

theorem TellInv.sameEntries (h : TellInv s) (hok : TellOk s l users)
    (hsame : SameEntries s.daemon s'.daemon l users users') (hwrites : s'.writes = s.writes) :
    TellInv s' := by
  have hok' : TellOk s' l users' := by
    refine hok.of_kept hsame.own (fun c hc _ => ?_) fun _ _ _ a ha _ => ?_
    · exact ⟨c, hsame.contexts ▸ hc, rfl, rfl, rfl, rfl⟩
    · exact ⟨a, hsame.applications ▸ ha, rfl, rfl⟩
  refine ⟨⟨l, users', hok'⟩, fun c hc hvalid => ?_⟩
  rw [hok'.own_eq, hsame.contexts, ← hok.own_eq] at hc
  exact (h.2 c hc hvalid).of_told (by simp only [told, hwrites])
    (show SameSettings _ _ from hsame.frame).sameDefaults

end added

theorem TellInv.loadLine (h : TellInv s) (malloc : Malloc) (slot : DltDaemonContext)
    (load : ContextsLoad Buf) (hload : load.daemon = s.daemon) (line : List UInt8) :
    TellInv { s with daemon := (contextsLoadLine malloc slot load line).1.daemon } := by
  have hskip : TellInv { s with daemon := load.daemon } := hload ▸ h
  obtain ⟨l, users, hok⟩ := h.1
  unfold contextsLoadLine
  split
  · rename_i apid ctid ll fields _
    dsimp only
    split
    · rename_i ts _ _
      split
      · rename_i description _ _
        rw [hload]
        rcases contextAdd_cases malloc hok.own slot (canonical_dltSetId apid) (dltSetId ctid)
          (i8 ((scanDecimal ll).getD load.ll)) (i8 ((scanDecimal ts).getD load.ts)) 0 0
          (some description) with ⟨-, users', hsame⟩ | ⟨users', c, old, -, -, -, -, hadded⟩
        · exact h.sameEntries hok hsame rfl
        · have hinvalid : ∀ {P : Prop}, Valid (contextSet s.daemon s.daemon.ecuid
              (decide ((dltSetId apid, dltSetId (dltSetId ctid).bytes) ∉
                users.contexts.map ids))
              (i8 ((scanDecimal ll).getD load.ll)) (i8 ((scanDecimal ts).getD load.ts)) 0 0
              (some description) old) → P :=
            fun hvalid => absurd hvalid (show ¬ (0 : ℤ) ≥ 3 by decide)
          let s₁ : LevelState Buf := { s with daemon := (dltDaemonContextAdd malloc slot s.daemon
            (dltSetId apid) (dltSetId ctid) (i8 ((scanDecimal ll).getD load.ll))
            (i8 ((scanDecimal ts).getD load.ts)) 0 0 (some description) s.daemon.ecuid).1 }
          have hok' : TellOk s₁ l users' :=
            hok.of_replaces hadded.own hadded.replaces hadded.applications hinvalid
          exact ⟨⟨l, users', hok'⟩, h.2.of_replaces hok hok' hadded.replaces rfl
            (show SameSettings _ _ from hadded.frame).sameDefaults hinvalid⟩
      · exact hskip
    · exact hskip
  · exact hskip

/-- **The contexts are loaded.** -/
theorem TellInv.loadContexts (h : TellInv s) (malloc : Malloc) (slots : ℕ → DltDaemonContext)
    (ll ts : ℤ) (applicationsLoaded : Bool) (file : Option (List UInt8)) :
    TellKept s (loadContexts malloc slots ll ts applicationsLoaded file s) := by
  have hlines : ∀ (lines : List (List UInt8)) (slots : ℕ → DltDaemonContext) (load : ContextsLoad Buf),
      TellInv { s with daemon := load.daemon } →
        TellInv { s with daemon := (contextsLoadLines malloc slots load lines).1 } := by
    intro lines
    induction lines with
    | nil => exact fun _ _ hload => hload
    | cons line lines ih =>
      intro slots load hload
      have hline := hload.loadLine malloc (slots 0) load rfl line
      unfold contextsLoadLines
      split_ifs
      · exact ih _ _ hline
      · exact hline
  have hloaded : TellInv { s with daemon := (dltDaemonContextsLoad malloc slots ll ts s.daemon file).1 } := by
    unfold dltDaemonContextsLoad
    split
    · exact h
    · exact hlines _ _ ⟨s.daemon, ll, ts⟩ h
  refine ⟨?_, .of_writes rfl⟩
  unfold Daemon.loadContexts
  dsimp only
  split_ifs
  · obtain ⟨⟨l, users, hok⟩, hagree⟩ := hloaded
    exact ⟨⟨l, users, ⟨hok.own.registered, hok.own.find, hok.own.get⟩, hok.storage, hok.apart,
      hok.application⟩, hagree⟩
  · exact hloaded

/-! ## A context registers -/

/-- The value that a context asks for when it registers. -/
def LevelField.registered (userctxt : DltUserControlMsgRegisterContext) : LevelField → ℤ
  | logLevel =>
    if userctxt.logLevel.toInt = dltUserNotSet then dltLogDefault else userctxt.logLevel.toInt
  | traceStatus =>
    if userctxt.traceStatus.toInt = dltUserNotSet then dltTraceStatusDefault
    else userctxt.traceStatus.toInt

def registeredIds (userctxt : DltUserControlMsgRegisterContext) : Id4 × Id4 :=
  (userctxt.apid, dltSetId userctxt.ctid.bytes)

/-- A registered context keeps its values: the configuration file has set them, or they are asked for. -/
def UnchangedBy (daemon : DltDaemon Buf) (userctxt : DltUserControlMsgRegisterContext)
    (c : DltDaemonContext) : Prop :=
  daemon.runtimeContextCfgLoaded = true ∨
    ∀ field : LevelField, field.adapted daemon (field.registered userctxt) = field.get c

/-- A context that asks for a default value is told. -/
def RegisterSends (flags : LevelFlags) (malloc : Malloc) (userctxt : DltUserControlMsgRegisterContext) :
    Prop :=
  (LevelField.logLevel.registered userctxt = dltLogDefault ∨
      LevelField.traceStatus.registered userctxt = dltTraceStatusDefault) ∧
    ¬ (flags.rflag = true ∧ malloc sizeofDltServiceGetLogInfoRequest = none)

/-- The registration of a context of an application with this handle keeps the agreement: no other
context has its position; it is told, or was never told, or keeps what it was told; and what it had
stays, if it cannot be told. -/
structure RegisterTells (flags : LevelFlags) (malloc : Malloc) (s : LevelState Buf)
    (userctxt : DltUserControlMsgRegisterContext) (write : WriteOutcome) (handle : ℤ) : Prop where
  free : ∀ c ∈ s.own, c.userHandle = handle → c.logLevelPos = userctxt.logLevelPos.toInt →
    c.ids = registeredIds userctxt
  agree : told s handle userctxt.logLevelPos.toInt = none ∨
    RegisterSends flags malloc userctxt ∧ write ≠ .error ∨
    ∃ c ∈ s.own, c.ids = registeredIds userctxt ∧ c.userHandle = handle ∧
      c.logLevelPos = userctxt.logLevelPos.toInt ∧ UnchangedBy s.daemon userctxt c
  failed : RegisterSends flags malloc userctxt → write ≠ .ok →
    ∀ c ∈ s.own, c.ids = registeredIds userctxt → UnchangedBy s.daemon userctxt c

theorem registeredLevel_eq {value default max level : ℤ}
    (h : registeredLevel value default max = some level) :
    level = if value = dltUserNotSet then default else value := by
  unfold registeredLevel at h
  split_ifs at h ⊢
  · exact (Option.some.inj h).symm
  · exact (Option.some.inj h).symm

theorem Agrees.of_values {c d : DltDaemonContext} (h : Agrees s c) (hhandle : d.userHandle = c.userHandle)
    (hpos : d.logLevelPos = c.logLevelPos) (hvalues : ∀ field : LevelField, field.get d = field.get c)
    (hwrites : s'.writes = s.writes) (hsame : SameDefaults s.daemon s'.daemon) : Agrees s' d := by
  have hlevel : d.logLevel = c.logLevel := hvalues .logLevel
  have htrace : d.traceStatus = c.traceStatus := hvalues .traceStatus
  intro message hmessage
  rw [hhandle, hpos, told, hwrites] at hmessage
  rw [(effective_eq hsame d).1, (effective_eq hsame d).2, effectiveLogLevel, effectiveTraceStatus, hlevel,
    htrace]
  exact h message hmessage

/-- **A context registers.** -/
theorem TellInv.registerContext (h : TellInv s) (hdevices : flags.offlineLogstorageMaxDevices = 0)
    (malloc : Malloc) (slot : DltDaemonContext) {userctxt : DltUserControlMsgRegisterContext}
    (description : List UInt8) {write : WriteOutcome} (hcanonical : userctxt.apid.Canonical)
    (htells : ∀ users, s.daemon.ownUsers = some users → ∀ a ∈ users.applications,
      a.apid = userctxt.apid → a.userHandle ≥ dltFdMinimum →
        RegisterTells flags malloc s userctxt write a.userHandle) :
    TellKept s (registerContext flags malloc slot s userctxt description write).1 := by
  obtain ⟨⟨l, users, hok⟩, hagree⟩ := id h
  unfold Daemon.registerContext
  dsimp only
  split
  · exact h.kept
  rename_i a happlication
  obtain ⟨ha, hapid⟩ : a ∈ users.applications ∧ a.apid = userctxt.apid := by
    simp only [Option.bind_eq_bind, Option.bind_eq_some_iff] at happlication
    obtain ⟨⟨l', i⟩, hfind, users', hl', hi⟩ := happlication
    obtain ⟨hl, users'', a', hl'', hi', hid⟩ :=
      (dltDaemonApplicationFind_iff hok.own.registered hcanonical _ l' i).mp hfind
    obtain rfl : l = l' := Option.some.inj (hok.own.find.symm.trans hl)
    obtain rfl : users = users' := Option.some.inj (hok.own.get.symm.trans hl')
    obtain rfl : users = users'' := Option.some.inj (hok.own.get.symm.trans hl'')
    obtain rfl : a = a' := Option.some.inj (hi.symm.trans hi')
    exact ⟨mem_of_getElem? hi, hid⟩
  have hownUsers : s.daemon.ownUsers = some users := by
    unfold DltDaemon.ownUsers
    rw [hok.own.find, Option.bind_some, hok.own.get]
  split
  swap
  · exact h.kept
  rename_i logLevel traceStatus hlogLevel htraceStatus
  have hasked : ∀ (field : LevelField) (old : DltDaemonContext),
      field.get { old with logLevel, traceStatus } = field.registered userctxt := by
    intro field old
    cases field with
    | logLevel => exact registeredLevel_eq hlogLevel
    | traceStatus => exact registeredLevel_eq htraceStatus
  rcases contextAdd_cases malloc hok.own slot hcanonical userctxt.ctid logLevel traceStatus
    userctxt.logLevelPos.toInt a.userHandle (some description) with
    ⟨hnone, users', hsame⟩ | ⟨users', c, old, hsome, hids, -, hold, hadded⟩
  · rw [hnone]
    exact ⟨h.sameEntries hok hsame rfl, .of_writes rfl⟩
  rw [hsome]
  dsimp only
  -- the entry, when its storage level is set
  generalize hdaemon : (dltDaemonContextAdd malloc slot s.daemon userctxt.apid userctxt.ctid logLevel
    traceStatus userctxt.logLevelPos.toInt a.userHandle (some description) s.daemon.ecuid).1 = daemon'
    at hadded ⊢
  generalize hcontext : contextSet s.daemon s.daemon.ecuid _ logLevel traceStatus
    userctxt.logLevelPos.toInt a.userHandle (some description) old = context at hadded
  let store : DltDaemonContext → DltDaemonContext := fun context =>
    { context with storageLogLevel := registeredStorageLevel flags userctxt.apid userctxt.ctid }
  let s₂ : LevelState Buf := LevelState.modifyContext { s with daemon := daemon' } l c store
  let users₂ := users'.modifyContext c store
  have hsame : SameDefaults s.daemon daemon' := SameSettings.sameDefaults hadded.frame
  have hframe : SameDefaults s.daemon s₂.daemon :=
    ⟨hsame.defaultLogLevel, hsame.defaultTraceStatus, hsame.forceLlTs⟩
  have hdids : (store context).ids = registeredIds userctxt := by
    rw [← hcontext]
    exact hids
  have hdhandle : (store context).userHandle = a.userHandle := by
    rw [← hcontext]
    rfl
  have hdpos : (store context).logLevelPos = userctxt.logLevelPos.toInt := by
    rw [← hcontext]
    rfl
  have hreplaces : Replaces ids (store context) users.contexts users₂.contexts :=
    hadded.replaces.modify_new hadded.own.users_registered.nodup_ids hadded.get rfl
  have hown₂ : Own s₂.daemon l users₂ :=
    hadded.own.modifyUsers (fun users => SameTables.modifyContext users c fun _ => rfl) fun _ => rfl
  have hget₂ : users₂.contexts[c]? = some (store context) := by
    show (users'.contexts.modify c store)[c]? = _
    rw [getElem?_modify_eq, hadded.get]
    rfl
  have hok₂ : TellOk s₂ l users₂ := by
    refine hok.of_replaces hown₂ hreplaces hadded.applications fun hvalid => ⟨?_, fun x hx hhandle hpos => ?_,
      a, ha, ?_, hdhandle.symm⟩
    · exact if_neg (not_not.mpr hdevices)
    · rw [hdids]
      have htell := htells users hownUsers a ha hapid (show _ ≥ _ from hdhandle ▸ hvalid)
      exact htell.free x (hok.own_eq ▸ hx) (hhandle.trans hdhandle) (hpos.trans hdpos)
    · rw [hapid]
      exact (congrArg Prod.fst hdids).symm
  -- the values of an entry that is not changed
  have hvalues : ∀ x ∈ s.own, x.ids = registeredIds userctxt → UnchangedBy s.daemon userctxt x →
      ∀ field : LevelField, field.get (store context) = field.get x := by
    intro x hx hxids hunchanged field
    rw [hok.own_eq] at hx
    have hin : registeredIds userctxt ∈ users.contexts.map ids :=
      mem_map.mpr ⟨x, hx, hxids⟩
    have hxold : x = old := by
      obtain ⟨i, hi⟩ := mem_iff_getElem?.mp hx
      obtain ⟨j, hj⟩ := mem_iff_getElem?.mp (hold hin)
      have hij : i = j := by
        have hlt := (List.getElem?_eq_some_iff.mp hi).1
        apply (getElem?_inj (by simpa using hlt) hok.own.users_registered.nodup_ids).mp
        rw [getElem?_map, getElem?_map, hi, hj, Option.map_some, Option.map_some, hxids]
        exact congrArg some hids.symm
      rw [hij, hj, Option.some.injEq] at hi
      exact hi.symm
    have hstore : field.get (store context) = field.get context := by cases field <;> rfl
    rw [hstore, ← hcontext, field.get_contextSet_eq, hasked, hxold]
    rw [hxold] at hunchanged
    have hnotnew : decide ((userctxt.apid, dltSetId userctxt.ctid.bytes) ∉
        users.contexts.map ids) = false := decide_eq_false (not_not.mpr hin)
    rw [hnotnew]
    rcases hunchanged with hloaded | hsame
    · rw [hloaded]
      rfl
    · cases s.daemon.runtimeContextCfgLoaded with
      | true => rfl
      | false => exact hsame field
  -- the agreement before a message is sent
  have hothers : ∀ j, j ≠ c → AgreesAt s₂ users₂ j := by
    intro j hjc x hx hvalid
    rcases (hreplaces x).mp (mem_of_getElem? hx) with rfl | ⟨hx', -⟩
    · exfalso
      have hlt := (List.getElem?_eq_some_iff.mp hx).1
      apply hjc
      apply (getElem?_inj (by simpa using hlt) hown₂.users_registered.nodup_ids).mp
      rw [getElem?_map, getElem?_map, hx, hget₂]
    · exact (hagree x (hok.own_eq ▸ hx') hvalid).of_told rfl hframe
  have hself : ¬ (RegisterSends flags malloc userctxt ∧ write ≠ .error) → AgreesAt s₂ users₂ c := by
    intro hsends x hx hvalid
    rw [hget₂, Option.some.injEq] at hx
    subst hx
    have htell := htells users hownUsers a ha hapid (show _ ≥ _ from hdhandle ▸ hvalid)
    rcases htell.agree with hnone | hsent | ⟨x, hx, hxids, hxhandle, hxpos, hunchanged⟩
    · intro message hmessage
      rw [hdhandle, hdpos] at hmessage
      exact absurd (hnone.symm.trans hmessage) nofun
    · exact absurd hsent hsends
    · refine (hagree x hx (show _ ≥ _ from ?_)).of_values (hdhandle.trans hxhandle.symm)
        (hdpos.trans hxpos.symm) (hvalues x hx hxids hunchanged) rfl hframe
      rw [hxhandle, ← hdhandle]
      exact hvalid
  have hquiet : ¬ (RegisterSends flags malloc userctxt ∧ write ≠ .error) ∨ ¬ Valid (store context) →
      TellKept s s₂ := by
    intro hnot
    refine ⟨⟨⟨l, users₂, hok₂⟩, hok₂.agreement_iff.mpr fun j => ?_⟩, .of_writes rfl⟩
    rcases eq_or_ne j c with rfl | hjc
    · rcases hnot with hsends | hinvalid
      · exact hself hsends
      · intro x hx hvalid
        rw [hget₂, Option.some.injEq] at hx
        exact absurd (hx ▸ hvalid) hinvalid
    · exact hothers j hjc
  have hdefault : LevelField.logLevel.registered userctxt = logLevel ∧
      LevelField.traceStatus.registered userctxt = traceStatus :=
    ⟨(hasked .logLevel context).symm, (hasked .traceStatus context).symm⟩
  split_ifs with hrflag hlevels
  · exact hquiet (.inl fun hsends => hsends.1.2 hrflag)
  · have hsends : RegisterSends flags malloc userctxt := by
      refine ⟨?_, hrflag⟩
      rw [hdefault.1, hdefault.2]
      exact hlevels
    have hcontext₂ : s₂.context l c = some (store context) := by
      rw [hok₂.context, hget₂]
    rw [show LevelState.context _ l c = some (store context) from hcontext₂]
    dsimp only
    split_ifs with hvalid
    · obtain ⟨users₃, hok₃, hsent⟩ := hok₂.sendDefault flags hget₂ hvalid write
      have hstate : (sendIfValid flags s₂ l c write).1 =
          (dltDaemonUserSendLogLevel flags s₂ (store context) write).1 := by
        unfold sendIfValid
        rw [hcontext₂]
        exact congrArg Prod.fst (if_pos hvalid)
      rw [hstate] at hok₃ hsent
      refine ⟨⟨⟨l, users₃, hok₃⟩, hok₃.agreement_iff.mpr fun j => ?_⟩, ?_⟩
      · rcases eq_or_ne j c with rfl | hjc
        · by_cases hwrite : write = .error
          · refine (TellStep.sends hsent).agrees hok₂ (hself fun hnot => hnot.2 hwrite)
          · exact TellStep.agrees_sends hsent hwrite
        · exact (TellStep.sends hsent).agrees_ne hok₂ hjc (hothers j hjc)
      · obtain ⟨w, hwrites, hwids, -, -, hwritten, -⟩ := hsent.writes
        refine ⟨[w], hwrites, fun w' hw' hfailed x hx hxids => ?_⟩
        obtain rfl := mem_singleton.mp hw'
        have hwrite : write ≠ .ok := by
          rintro rfl
          rw [hwritten] at hfailed
          exact absurd hfailed (by decide)
        have hxids' : x.ids = registeredIds userctxt := hxids.trans (hwids.trans hdids)
        have htell := htells users hownUsers a ha hapid (show _ ≥ _ from hdhandle ▸ hvalid)
        have hsame := hvalues x hx hxids' (htell.failed hsends hwrite x hx hxids')
        refine ⟨loseHandle (lostHandle (store context) write) (store context), ?_, ?_, ?_, ?_⟩
        · rw [hok₃.own_eq, hsent.after]
          apply mem_map_of_mem
          exact mem_of_getElem? (getElem?_set_self (List.getElem?_eq_some_iff.mp hget₂).1)
        · rw [ids_loseHandle, hdids, hxids']
        · exact (get_loseHandle .logLevel _ _).trans (hsame .logLevel)
        · exact (get_loseHandle .traceStatus _ _).trans (hsame .traceStatus)
    · exact hquiet (.inr hvalid)
  · refine hquiet (.inl fun hsends => hlevels ?_)
    rw [← hdefault.1, ← hdefault.2]
    exact hsends.1.1

/-! ## Runs -/

/-- An operation that keeps the agreement. -/
def TellsAll (flags : LevelFlags) (s : LevelState Buf) : LevelOp → Prop
  | .registerContext malloc _ userctxt _ write =>
      userctxt.apid.Canonical ∧
        ∀ users, s.daemon.ownUsers = some users → ∀ a ∈ users.applications,
          a.apid = userctxt.apid → a.userHandle ≥ dltFdMinimum →
            RegisterTells flags malloc s userctxt write a.userHandle
  | .setAllLogLevel databuffer writes => AllTold .logLevel flags s databuffer writes
  | .setAllTraceStatus databuffer writes => AllTold .traceStatus flags s databuffer writes
  | .setDefaultLogLevel databuffer writes => DefaultTold .logLevel flags s databuffer writes
  | .setDefaultTraceStatus databuffer writes => DefaultTold .traceStatus flags s databuffer writes
  | _ => True

/-- **Every such operation** keeps the agreement. -/
theorem TellInv.levelStep (hdevices : flags.offlineLogstorageMaxDevices = 0) (h : TellInv s)
    {op : LevelOp} (hop : TellsAll flags s op) : TellKept s (levelStep flags s op) := by
  cases op with
  | registerContext malloc slot userctxt description write =>
    exact h.registerContext hdevices malloc slot description hop.1 hop.2
  | setLogLevel databuffer writes => exact h.setLogLevel databuffer writes
  | setAllLogLevel databuffer writes => exact h.setAllLogLevel hop
  | setDefaultLogLevel databuffer writes => exact h.setDefaultLogLevel hop
  | setTraceStatus databuffer writes => exact h.setTraceStatus databuffer writes
  | setAllTraceStatus databuffer writes => exact h.setAllTraceStatus hop
  | setDefaultTraceStatus databuffer writes => exact h.setDefaultTraceStatus hop
  | setAppLlTs userctxt writes => exact h.setAppLlTs userctxt writes
  | contextsLoad malloc slots ll ts applicationsLoaded file =>
    exact h.loadContexts malloc slots ll ts applicationsLoaded file

theorem LevelStart.tellInv (h : LevelStart flags s) : TellInv s := by
  obtain ⟨l, users, hown⟩ := h.own
  have hnil : users.contexts = [] := h.contexts_nil users (mem_of_getElem? hown.get)
  have hnone : ∀ c ∈ users.contexts, False := by
    intro c hc
    rw [hnil] at hc
    exact not_mem_nil hc
  have hok : TellOk s l users :=
    ⟨hown, fun c hc => (hnone c hc).elim, fun c hc => (hnone c hc).elim, fun c hc => (hnone c hc).elim⟩
  refine ⟨⟨l, users, hok⟩, fun c hc => ?_⟩
  rw [hok.own_eq] at hc
  exact (hnone c hc).elim

/-- **The daemon and its applications agree.** Without logstorage devices, along every run of operations
that keep the agreement, the values that an application was last told about a context are those that
apply to it, and an operation that cannot write the message for a context leaves the values of that
context unchanged. -/
theorem levels_agree (hdevices : flags.offlineLogstorageMaxDevices = 0) {s : LevelState Buf}
    (h : Reach (LevelStart flags) (levelStep flags) (TellsAll flags) s) :
    Agreement s ∧ ∀ op, TellsAll flags s op → FailuresKeep s (levelStep flags s op) := by
  have hs : TellInv s := h.invariant (fun _ => LevelStart.tellInv)
    fun _ _ hs hop => (hs.levelStep hdevices hop).inv
  exact ⟨hs.2, fun op hop => (hs.levelStep hdevices hop).failures⟩

/-- A context registers, and its log level is set. -/
theorem levels_agree_sample :
    let registered := levelStep (sampleFlags false) (sampleLevels false) (sampleRegister (ascii "TEST") 0)
    Agreement (levelStep (sampleFlags false) registered (sampleSetLogLevel 2)) := by
  intro registered
  have hregistered : Reach (LevelStart (sampleFlags false)) (levelStep (sampleFlags false))
      (TellsAll (sampleFlags false)) registered := by
    apply Reach.step (.start (sampleLevels_start false))
    refine ⟨by decide, fun users husers a _ _ _ => ⟨fun c hc => ?_, .inl rfl, fun _ _ c hc => ?_⟩⟩
    · exact absurd hc not_mem_nil
    · exact absurd hc not_mem_nil
  have htold : TellsAll (sampleFlags false) registered (sampleSetLogLevel 2) := trivial
  exact (levels_agree rfl (.step hregistered htold)).1

/-- **The log level 2 for all contexts is stored**, although the message cannot be written and the
application was told 4. -/
theorem not_levels_agree :
    ∃ s : LevelState Unit,
      Reach (LevelStart (sampleFlags false)) (levelStep (sampleFlags false)) (fun _ _ => True) s ∧
      (s.context 0 0).map (fun c => (c.userHandle, c.logLevelPos, effectiveLogLevel s.daemon c)) =
        some (5, 0, 2) ∧
      (told s 5 0).map (·.logLevel) = some 4 := by
  let registered := levelStep (sampleFlags false) (sampleLevels false) (sampleRegister (ascii "TEST") 0)
  let databuffer := serviceSetDefaultLogLevelLayout.encode ⟨0xf08, 2, dltSetId []⟩
  refine ⟨levelStep (sampleFlags false) registered (.setAllLogLevel databuffer fun _ => .error), ?_,
    by decide +kernel, by decide +kernel⟩
  exact .step (.step (.start (sampleLevels_start false)) trivial) trivial

end Dlt.Daemon
