import Dlt.Daemon.LevelsInvariant

/-!
# What applications are told

* `TellStep` — what the body of each of the loops does to the tables: nothing, or values of a context
  without a handle are stored, or a message is sent. `TellSteps.agrees` follows for the loops.
-/

namespace Dlt.Daemon

open Dlt.Lib Dlt.Shared List DltDaemonContext

variable {Buf : Type} {flags : LevelFlags} {s s' : LevelState Buf} {l : ℕ}
  {users users' : DltDaemonRegisteredUsers}
variable {j : ℕ}

/-! ## Messages and contexts -/

/-- The last message that was written for a position, through a handle. -/
def told (s : LevelState Buf) (handle logLevelPos : ℤ) : Option DltUserControlMsgLogLevel :=
  (s.writes.find? fun write => write.written = true ∧ write.handle = handle ∧
    write.message.logLevelPos = logLevelPos).map LevelWrite.message

/-- What the application was told about a context is what applies to the context. -/
def Agrees (s : LevelState Buf) (context : DltDaemonContext) : Prop :=
  ∀ message, told s context.userHandle context.logLevelPos = some message →
    message.logLevel = UInt8.ofInt (effectiveLogLevel s.daemon context) ∧
      message.traceStatus = UInt8.ofInt (effectiveTraceStatus s.daemon context)

/-- The handle of the application is valid. -/
abbrev Valid (context : DltDaemonContext) : Prop := context.userHandle ≥ dltFdMinimum

/-- A context that loses its handle, if it is this one. -/
def loseHandle (handle : ℤ) (context : DltDaemonContext) : DltDaemonContext :=
  if context.userHandle = handle then { context with userHandle := dltFdInit } else context

theorem loseHandle_init : loseHandle dltFdInit = id := by
  funext context
  unfold loseHandle
  split_ifs with heq
  · rw [← heq]
    rfl
  · rfl

theorem ids_loseHandle (handle : ℤ) (context : DltDaemonContext) :
    (loseHandle handle context).ids = context.ids := by
  unfold loseHandle
  split_ifs <;> rfl

theorem get_loseHandle (field : LevelField) (handle : ℤ) (context : DltDaemonContext) :
    field.get (loseHandle handle context) = field.get context := by
  unfold loseHandle
  cases field <;> split_ifs <;> rfl

theorem Valid.of_loseHandle {handle : ℤ} {context : DltDaemonContext}
    (h : Valid (loseHandle handle context)) :
    loseHandle handle context = context ∧ context.userHandle ≠ handle := by
  unfold loseHandle at h ⊢
  split_ifs at h ⊢ with heq
  · exact absurd h (show ¬ (-1 : ℤ) ≥ 3 by decide)
  · exact ⟨rfl, heq⟩

/-! ## The invariant behind the agreement -/

/-- **The tables of the own ECU**, when messages are sent. -/
structure TellOk (s : LevelState Buf) (l : ℕ) (users : DltDaemonRegisteredUsers) : Prop where
  own : Own s.daemon l users
  storage : ∀ c ∈ users.contexts, Valid c → c.storageLogLevel = dltLogDefault
  apart : ∀ c ∈ users.contexts, ∀ c' ∈ users.contexts, Valid c → c'.userHandle = c.userHandle →
    c'.logLevelPos = c.logLevelPos → c'.ids = c.ids
  application : ∀ c ∈ users.contexts, Valid c →
    ∃ a ∈ users.applications, a.apid = c.apid ∧ a.userHandle = c.userHandle

/-- Contexts with a valid handle that are as they were, up to their values. -/
def Kept (contexts contexts' : List DltDaemonContext) : Prop :=
  ∀ c' ∈ contexts', Valid c' → ∃ c ∈ contexts, c.ids = c'.ids ∧ c.userHandle = c'.userHandle ∧
    c.logLevelPos = c'.logLevelPos ∧ c.storageLogLevel = c'.storageLogLevel

/-- The tables change, and contexts with a valid handle are kept. -/
theorem TellOk.of_kept (h : TellOk s l users) (hown : Own s'.daemon l users')
    (hkept : Kept users.contexts users'.contexts)
    (happs : ∀ c' ∈ users'.contexts, Valid c' → ∀ a ∈ users.applications,
      a.userHandle = c'.userHandle →
        ∃ a' ∈ users'.applications, a'.apid = a.apid ∧ a'.userHandle = a.userHandle) :
    TellOk s' l users' := by
  refine ⟨hown, fun c' hc' hvalid => ?_, fun c' hc' d' hd' hvalid hhandle hpos => ?_,
    fun c' hc' hvalid => ?_⟩
  · obtain ⟨c, hc, -, hhandle, -, hstorage⟩ := hkept c' hc' hvalid
    rw [← hstorage]
    exact h.storage c hc (show _ ≥ _ from hhandle ▸ hvalid)
  · obtain ⟨c, hc, hids, hhandle', hpos', -⟩ := hkept c' hc' hvalid
    obtain ⟨d, hd, hids', hhandle'', hpos'', -⟩ := hkept d' hd' (show _ ≥ _ from hhandle ▸ hvalid)
    rw [← hids, ← hids']
    exact h.apart c hc d hd (show _ ≥ _ from hhandle' ▸ hvalid)
      (hhandle''.trans (hhandle.trans hhandle'.symm)) (hpos''.trans (hpos.trans hpos'.symm))
  · obtain ⟨c, hc, hids, hhandle, -, -⟩ := hkept c' hc' hvalid
    obtain ⟨a, ha, hapid, hhandle'⟩ := h.application c hc (show _ ≥ _ from hhandle ▸ hvalid)
    obtain ⟨a', ha', hapid', hhandle''⟩ := happs c' hc' hvalid a ha (hhandle'.trans hhandle)
    refine ⟨a', ha', ?_, hhandle''.trans (hhandle'.trans hhandle)⟩
    rw [hapid', hapid]
    exact congrArg Prod.fst hids

theorem TellOk.context (h : TellOk s l users) (i : ℕ) : s.context l i = users.contexts[i]? := by
  rw [LevelState.context, h.own.get]
  rfl

theorem Own.modifyUsers {daemon : DltDaemon Buf} (h : Own daemon l users)
    {f : DltDaemonRegisteredUsers → DltDaemonRegisteredUsers}
    (hf : ∀ users, SameTables users (f users)) (hecu : ∀ users, (f users).ecu = users.ecu) :
    Own (daemon.modifyUsers l f) l (f users) := by
  refine ⟨h.registered.same (SameAll.modifyUsers daemon l hf), ?_, ?_⟩
  · rw [show (daemon.modifyUsers l f).ecuid = daemon.ecuid from rfl, findUsersList_modifyUsers _ _ _ hecu]
    exact h.find
  · rw [getElem?_modifyUsers, if_pos rfl, h.get]
    rfl

theorem TellOk.modifyContext (h : TellOk s l users) (i : ℕ) {f : DltDaemonContext → DltDaemonContext}
    (hf : ∀ c, f c = { c with logLevel := (f c).logLevel, traceStatus := (f c).traceStatus }) :
    TellOk (s.modifyContext l i f) l (users.modifyContext i f) := by
  have hids : ∀ c, (f c).ids = c.ids := fun c => by rw [hf]; rfl
  refine h.of_kept (h.own.modifyUsers (fun users => SameTables.modifyContext users i hids)
    fun _ => rfl) ?_ fun _ _ _ a ha _ => ⟨a, ha, rfl, rfl⟩
  intro c' hc' _
  rcases mem_modify hc' with ⟨c, hc, rfl⟩ | ⟨j, -, hj⟩
  · refine ⟨c, mem_of_getElem? hc, ?_⟩
    rw [hf]
    exact ⟨rfl, rfl, rfl, rfl⟩
  · exact ⟨c', mem_of_getElem? hj, rfl, rfl, rfl, rfl⟩

variable {c : DltDaemonContext}

/-- **The application of a context has gone**: all contexts with its handle lose it. -/
theorem TellOk.resetApplicationOf (h : TellOk s l users) (hc : c ∈ users.contexts) (hvalid : Valid c)
    {s' : LevelState Buf} (hs' : s'.daemon = resetApplicationOf s.daemon c.apid) :
    ∃ users', TellOk s' l users' ∧ users'.contexts = users.contexts.map (loseHandle c.userHandle) := by
  obtain ⟨a, ha, hapid, hhandle⟩ := h.application c hc hvalid
  obtain ⟨i, hi⟩ := mem_iff_getElem?.mp ha
  have hcanonical : c.apid.Canonical := by
    rw [← hapid]
    exact (h.own.users_registered.ok.apps_canonical (a.apid, a.numContexts)
      (mem_map.mpr ⟨a, ha, rfl⟩)).1
  have hfind := (dltDaemonApplicationFind_iff h.own.registered hcanonical s.daemon.ecuid l i).mpr
    ⟨h.own.find, users, a, h.own.get, hi, hapid⟩
  have hvalid' : c.userHandle ≠ dltFdInit := by
    intro heq
    rw [Valid, heq] at hvalid
    exact absurd hvalid (show ¬ (-1 : ℤ) ≥ 3 by decide)
  let f : DltDaemonApplication → DltDaemonApplication := fun application =>
    { application with userHandle := dltFdInit, ownsUserHandle := false }
  have hdaemon : s'.daemon = (s.daemon.modifyUsers l (·.contextsInvalidateFd c.userHandle)).modifyUsers l
      (·.modifyApplication i f) := by
    rw [hs', Daemon.resetApplicationOf, hfind]
    simp only [h.own.get, Option.bind_some, hi, dltDaemonApplicationResetUserHandle, hhandle,
      if_neg hvalid', h.own.find]
    rfl
  let mid := users.contextsInvalidateFd c.userHandle
  have hown : Own s'.daemon l (mid.modifyApplication i f) := by
    rw [hdaemon]
    refine Own.modifyUsers ?_ (fun users => SameTables.modifyApplication users i fun _ => ⟨rfl, rfl⟩)
      fun _ => rfl
    exact h.own.modifyUsers (fun users => SameTables.contextsInvalidateFd users _) fun _ => rfl
  have hcontexts : (mid.modifyApplication i f).contexts =
      users.contexts.map (loseHandle c.userHandle) := rfl
  refine ⟨mid.modifyApplication i f, h.of_kept hown ?_ ?_, hcontexts⟩
  · intro c' hc' hvalid'
    obtain ⟨d, hd, rfl⟩ := mem_map.mp (hcontexts ▸ hc')
    exact ⟨d, hd, by rw [hvalid'.of_loseHandle.1]; exact ⟨rfl, rfl, rfl, rfl⟩⟩
  · intro c' hc' hvalid' b hb hbhandle
    obtain ⟨d, hd, rfl⟩ := mem_map.mp (hcontexts ▸ hc')
    obtain ⟨hsame, hne⟩ := hvalid'.of_loseHandle
    obtain ⟨j, hj⟩ := mem_iff_getElem?.mp hb
    refine ⟨b, mem_iff_getElem?.mpr ⟨j, ?_⟩, rfl, rfl⟩
    have hij : i ≠ j := by
      rintro rfl
      rw [hi, Option.some.injEq] at hj
      rw [hsame] at hbhandle
      exact hne (hbhandle.symm.trans (hj ▸ hhandle))
    show (users.applications.modify i f)[j]? = some b
    rw [getElem?_modify, hj]
    simp [hij]

/-! ## Messages -/

/-- The handle that is lost when a message is sent. -/
def lostHandle (context : DltDaemonContext) (write : WriteOutcome) : ℤ :=
  if write = .epipe then context.userHandle else dltFdInit

variable (flags) in
theorem TellOk.send (h : TellOk s l users) (hc : c ∈ users.contexts) (hvalid : Valid c) (write : WriteOutcome) :
    let sent := dltDaemonUserSendLogLevel flags s c write
    sent.2 = decide (write = .ok) ∧
      sent.1.writes = levelWrite flags s.daemon c (decide (write = .ok)) :: s.writes ∧
      SameDefaults s.daemon sent.1.daemon ∧
      ∃ users', TellOk sent.1 l users' ∧
        users'.contexts = users.contexts.map (loseHandle (lostHandle c write)) := by
  have hneg : ¬ c.userHandle < 0 := not_lt.mpr ((show (0 : ℤ) ≤ 3 by decide).trans hvalid)
  have hsame : ∃ users', TellOk s l users' ∧
      users'.contexts = users.contexts.map (loseHandle dltFdInit) := by
    refine ⟨users, h, ?_⟩
    rw [loseHandle_init, map_id]
  unfold dltDaemonUserSendLogLevel
  rw [if_neg hneg]
  cases write with
  | ok =>
    obtain ⟨users', h', hcontexts⟩ := hsame
    exact ⟨rfl, rfl, ⟨rfl, rfl, rfl⟩, users', ⟨h'.own, h'.storage, h'.apart, h'.application⟩, hcontexts⟩
  | error =>
    obtain ⟨users', h', hcontexts⟩ := hsame
    exact ⟨rfl, rfl, ⟨rfl, rfl, rfl⟩, users', ⟨h'.own, h'.storage, h'.apart, h'.application⟩, hcontexts⟩
  | epipe =>
    refine ⟨rfl, rfl, (sameSettings_resetApplicationOf _ _).sameDefaults, ?_⟩
    exact h.resetApplicationOf hc hvalid rfl

/-- The result of a send to the context at position `i`: it was `c`, it becomes `d`, and contexts lose
their handle if the application has gone. When the message could not be written, `d` is `c`. -/
structure Sends (s s' : LevelState Buf) (users users' : DltDaemonRegisteredUsers) (i : ℕ)
    (write : WriteOutcome) (c d : DltDaemonContext) : Prop where
  before : users.contexts[i]? = some c
  valid : Valid c
  frame : d = { c with logLevel := d.logLevel, traceStatus := d.traceStatus }
  failed : write ≠ .ok → d = c
  after : users'.contexts = (users.contexts.set i d).map (loseHandle (lostHandle c write))
  /-- One message is logged. It carries the values that apply to `d`. -/
  writes : ∃ w : LevelWrite, s'.writes = w :: s.writes ∧ w.ids = c.ids ∧ w.handle = c.userHandle ∧
    w.message.logLevelPos = c.logLevelPos ∧ w.written = decide (write = .ok) ∧
    (write = .ok → w.message.logLevel = UInt8.ofInt (effectiveLogLevel s.daemon d) ∧
      w.message.traceStatus = UInt8.ofInt (effectiveTraceStatus s.daemon d))
  settings : SameDefaults s.daemon s'.daemon

/-- What the body of a loop does at a position. -/
inductive TellStep (s : LevelState Buf) (users : DltDaemonRegisteredUsers) (i : ℕ)
    (s' : LevelState Buf) (users' : DltDaemonRegisteredUsers) : Prop
  | skip : users'.contexts = users.contexts → s'.writes = s.writes →
      SameDefaults s.daemon s'.daemon → TellStep s users i s' users'
  /-- A context without a valid handle gets values. -/
  | store {c d : DltDaemonContext} : users.contexts[i]? = some c → ¬ Valid c → ¬ Valid d →
      d.ids = c.ids → users'.contexts = users.contexts.set i d → s'.writes = s.writes →
      SameDefaults s.daemon s'.daemon → TellStep s users i s' users'
  | sends {write : WriteOutcome} {c d : DltDaemonContext} : Sends s s' users users' i write c d →
      TellStep s users i s' users'

/-- The agreement at a position of the table. -/
def AgreesAt (s : LevelState Buf) (users : DltDaemonRegisteredUsers) (i : ℕ) : Prop :=
  ∀ c, users.contexts[i]? = some c → Valid c → Agrees s c

/-- The values that apply depend on the default values and the context. -/
theorem effective_eq {daemon daemon' : DltDaemon Buf} (h : SameDefaults daemon daemon')
    (c : DltDaemonContext) : effectiveLogLevel daemon' c = effectiveLogLevel daemon c ∧
      effectiveTraceStatus daemon' c = effectiveTraceStatus daemon c := by
  simp only [effectiveLogLevel, effectiveTraceStatus, h.defaultLogLevel, h.defaultTraceStatus,
    and_self]

/-- A message that the application did not get, or that is for another position. -/
theorem told_cons {w : LevelWrite} (hwrites : s'.writes = w :: s.writes) {handle logLevelPos : ℤ}
    (h : w.written = false ∨ w.handle ≠ handle ∨ w.message.logLevelPos ≠ logLevelPos) :
    told s' handle logLevelPos = told s handle logLevelPos := by
  unfold told
  rw [hwrites, find?_cons_of_neg]
  rw [decide_eq_true_eq]
  rintro ⟨hwritten, hhandle, hpos⟩
  rcases h with h | h | h
  · rw [h] at hwritten
    exact Bool.false_ne_true hwritten
  · exact h hhandle
  · exact h hpos

theorem told_cons_self {w : LevelWrite} (hwrites : s'.writes = w :: s.writes) (hwritten : w.written = true) :
    told s' w.handle w.message.logLevelPos = some w.message := by
  unfold told
  rw [hwrites, find?_cons_of_pos]
  · rfl
  · rw [decide_eq_true_eq]
    exact ⟨hwritten, rfl, rfl⟩

/-- The agreement depends on what was told and on the default values. -/
theorem Agrees.of_told (h : Agrees s c)
    (htold : told s' c.userHandle c.logLevelPos = told s c.userHandle c.logLevelPos)
    (hsame : SameDefaults s.daemon s'.daemon) : Agrees s' c := by
  intro message hmessage
  rw [htold] at hmessage
  rw [(effective_eq hsame c).1, (effective_eq hsame c).2]
  exact h message hmessage

namespace TellStep

variable {i : ℕ}

theorem getElem?_sends {write : WriteOutcome} {c d : DltDaemonContext} (h : Sends s s' users users' i write c d)
    {c' : DltDaemonContext} (hc' : users'.contexts[j]? = some c') (hvalid : Valid c') :
    (j = i ∧ c' = d ∧ write ≠ .epipe) ∨ j ≠ i ∧ users.contexts[j]? = some c' := by
  rw [h.after, getElem?_map] at hc'
  obtain ⟨e, he, rfl⟩ := Option.map_eq_some_iff.mp hc'
  obtain ⟨hsame, hne⟩ := hvalid.of_loseHandle
  rw [hsame]
  rcases eq_or_ne j i with rfl | hji
  · rw [getElem?_set_self (List.getElem?_eq_some_iff.mp h.before).1, Option.some.injEq] at he
    refine .inl ⟨rfl, he.symm, ?_⟩
    rintro rfl
    apply hne
    rw [← he, h.frame]
    rfl
  · rw [getElem?_set_ne hji.symm] at he
    exact .inr ⟨hji, he⟩

/-- **Sending keeps the agreement** at the other positions. -/
theorem agrees_ne (h : TellOk s l users) (hstep : TellStep s users i s' users') (hji : j ≠ i)
    (hj : AgreesAt s users j) : AgreesAt s' users' j := by
  intro c' hc' hvalid
  cases hstep with
  | skip hcontexts hwrites hsame =>
    rw [hcontexts] at hc'
    exact (hj c' hc' hvalid).of_told (by simp only [told, hwrites]) hsame
  | store hc hinvalid hinvalid' hids hcontexts hwrites hsame =>
    rw [hcontexts, getElem?_set_ne hji.symm] at hc'
    exact (hj c' hc' hvalid).of_told (by simp only [told, hwrites]) hsame
  | @sends write c d hsends =>
    rcases getElem?_sends hsends hc' hvalid with ⟨heq, -⟩ | ⟨-, hold⟩
    · exact absurd heq hji
    · obtain ⟨w, hwrites, -, hhandle, hpos, -⟩ := hsends.writes
      refine (hj c' hold hvalid).of_told (told_cons hwrites ?_) hsends.settings
      -- two contexts with valid handles have different positions
      by_contra hnone
      rw [not_or, not_or, not_not, not_not] at hnone
      have hids := h.apart c' (mem_of_getElem? hold) c (mem_of_getElem? hsends.before) hvalid
        (hhandle.symm.trans hnone.2.1) (hpos.symm.trans hnone.2.2)
      have hlt := (List.getElem?_eq_some_iff.mp hold).1
      apply hji
      apply (getElem?_inj (by simpa using hlt) h.own.users_registered.nodup_ids).mp
      rw [getElem?_map, getElem?_map, hold, hsends.before, Option.map_some,
        Option.map_some, hids]

/-- **Sending a message** that is written, or after which the handle is lost, makes the agreement at its
position. -/
theorem agrees_sends {write : WriteOutcome} {c d : DltDaemonContext}
    (hsends : Sends s s' users users' i write c d) (hwrite : write ≠ .error) :
    AgreesAt s' users' i := by
  intro c' hc' hvalid
  rcases getElem?_sends hsends hc' hvalid with ⟨-, rfl, hne⟩ | ⟨hne, -⟩
  · have hok : write = .ok := by
      cases write with
      | ok => rfl
      | error => exact absurd rfl hwrite
      | epipe => exact absurd rfl hne
    obtain ⟨w, hwrites, -, hhandle, hpos, hwritten, hmessage⟩ := hsends.writes
    intro message htold
    rw [hsends.frame] at htold
    simp only at htold
    rw [← hhandle, ← hpos, told_cons_self hwrites (by rw [hwritten, hok]; rfl),
      Option.some.injEq] at htold
    subst htold
    rw [(effective_eq hsends.settings c').1, (effective_eq hsends.settings c').2]
    exact hmessage hok
  · exact absurd rfl hne

theorem agrees (h : TellOk s l users) (hstep : TellStep s users i s' users') (hj : AgreesAt s users j) :
    AgreesAt s' users' j := by
  rcases eq_or_ne j i with rfl | hji
  · cases hstep with
    | skip hcontexts hwrites hsame =>
      intro c' hc' hvalid
      rw [hcontexts] at hc'
      exact (hj c' hc' hvalid).of_told (by simp only [told, hwrites]) hsame
    | store hc hinvalid hinvalid' hids hcontexts hwrites hsame =>
      intro c' hc' hvalid
      rw [hcontexts, getElem?_set_self (List.getElem?_eq_some_iff.mp hc).1,
        Option.some.injEq] at hc'
      exact absurd (hc' ▸ hvalid) hinvalid'
    | @sends write c d hsends =>
      by_cases hwrite : write = .error
      · intro c' hc' hvalid
        rcases getElem?_sends hsends hc' hvalid with ⟨-, rfl, -⟩ | ⟨hne, -⟩
        · rw [hsends.failed (by rw [hwrite]; exact nofun)] at hvalid ⊢
          obtain ⟨w, hwrites, -, -, -, hwritten, -⟩ := hsends.writes
          refine (hj c hsends.before hvalid).of_told (told_cons hwrites (.inl ?_)) hsends.settings
          rw [hwritten, hwrite]
          rfl
        · exact absurd rfl hne
      · exact agrees_sends hsends hwrite
  · exact agrees_ne h hstep hji hj

end TellStep

/-! ## Loops -/

/-- The bodies of a loop, one after the other, at the positions of a list. -/
inductive TellSteps (l : ℕ) : LevelState Buf → DltDaemonRegisteredUsers → List ℕ → LevelState Buf →
    DltDaemonRegisteredUsers → Prop
  | nil {s : LevelState Buf} {users : DltDaemonRegisteredUsers} : TellOk s l users →
      TellSteps l s users [] s users
  | cons {s mid s' : LevelState Buf} {users mids users' : DltDaemonRegisteredUsers} {i : ℕ}
      {is : List ℕ} : TellOk s l users → TellStep s users i mid mids →
      TellSteps l mid mids is s' users' → TellSteps l s users (i :: is) s' users'

/-- The values at a position of the table. -/
def valuesAt (users : DltDaemonRegisteredUsers) (i : ℕ) : Option (ℤ × ℤ) :=
  (users.contexts[i]?).map fun c => (c.logLevel, c.traceStatus)

/-- The changes at some positions of the table, and the messages about them: where a message could not be
written, the values are as they were. -/
structure ChangesAt (s s' : LevelState Buf) (users users' : DltDaemonRegisteredUsers) (is : List ℕ) :
    Prop where
  ids : users'.contexts.map ids = users.contexts.map ids
  values : ∀ j, j ∉ is → valuesAt users' j = valuesAt users j
  failures : ∃ new, s'.writes = new ++ s.writes ∧ ∀ w ∈ new, w.written = false →
    ∃ i ∈ is, ∃ c, users.contexts[i]? = some c ∧ c.ids = w.ids ∧ valuesAt users' i = valuesAt users i

theorem ChangesAt.refl (s : LevelState Buf) (users : DltDaemonRegisteredUsers) (is : List ℕ) :
    ChangesAt s s users users is := by
  refine ⟨rfl, fun _ _ => rfl, [], rfl, fun w hw => ?_⟩
  exact absurd hw not_mem_nil

theorem ChangesAt.trans {mid : LevelState Buf} {mids : DltDaemonRegisteredUsers} {i : ℕ} {is : List ℕ}
    (h : ChangesAt s mid users mids [i]) (h' : ChangesAt mid s' mids users' is) (hi : i ∉ is) :
    ChangesAt s s' users users' (i :: is) := by
  obtain ⟨new, hnew, hfailed⟩ := h.failures
  obtain ⟨new', hnew', hfailed'⟩ := h'.failures
  refine ⟨h'.ids.trans h.ids, fun j hj => ?_, new' ++ new, ?_, fun w hw hwritten => ?_⟩
  · rw [h'.values j fun hin => hj (mem_cons_of_mem i hin),
      h.values j fun hin => hj (mem_singleton.mp hin ▸ mem_cons_self)]
  · rw [hnew', hnew, append_assoc]
  · rcases mem_append.mp hw with hw | hw
    · obtain ⟨k, hk, c, hc, hids, hvalues⟩ := hfailed' w hw hwritten
      have hki : k ∉ [i] := fun hin => hi (mem_singleton.mp hin ▸ hk)
      have hget := congrArg (fun xs => xs[k]?) h.ids
      simp only [getElem?_map, hc, Option.map_some] at hget
      obtain ⟨c', hc', hids'⟩ := Option.map_eq_some_iff.mp hget.symm
      exact ⟨k, mem_cons_of_mem i hk, c', hc', hids'.trans hids,
        hvalues.trans (h.values k hki)⟩
    · obtain ⟨k, hk, c, hc, hids, hvalues⟩ := hfailed w hw hwritten
      obtain rfl := mem_singleton.mp hk
      exact ⟨k, mem_cons_self, c, hc, hids, (h'.values k hi).trans hvalues⟩

/-- **The changes of one body.** -/
theorem TellStep.changesAt {i : ℕ} (h : TellStep s users i s' users') :
    ChangesAt s s' users users' [i] := by
  have hset : ∀ {c d : DltDaemonContext}, users.contexts[i]? = some c → d.ids = c.ids →
      (users.contexts.set i d).map ids = users.contexts.map ids := by
    intro c d hc hids
    apply ext_getElem?
    intro j
    rw [getElem?_map, getElem?_map, getElem?_set]
    split_ifs with hij hlt
    · rw [← hij, hc, Option.map_some, Option.map_some, hids]
    · rw [← hij, hc]
      exact absurd (List.getElem?_eq_some_iff.mp hc).1 hlt
    · rfl
  have hother : ∀ {d : DltDaemonContext} {j : ℕ}, j ∉ [i] →
      (users.contexts.set i d)[j]? = users.contexts[j]? := by
    intro d j hj
    exact getElem?_set_ne fun heq => hj (mem_singleton.mpr heq.symm)
  cases h with
  | skip hcontexts hwrites hsame =>
    refine ⟨by rw [hcontexts], fun j _ => by rw [valuesAt, hcontexts]; rfl, [], hwrites, fun w hw => ?_⟩
    exact absurd hw not_mem_nil
  | store hc hinvalid hinvalid' hids hcontexts hwrites hsame =>
    refine ⟨by rw [hcontexts, hset hc hids], fun j hj => ?_, [], hwrites, fun w hw => ?_⟩
    · rw [valuesAt, hcontexts, hother hj]
      rfl
    · exact absurd hw not_mem_nil
  | @sends write c d hsends =>
    have hids : d.ids = c.ids := by
      rw [hsends.frame]
      rfl
    have hvalues : ∀ (xs : List DltDaemonContext) (j : ℕ),
        ((xs.map (loseHandle (lostHandle c write)))[j]?).map
          (fun c : DltDaemonContext => (c.logLevel, c.traceStatus)) =
            (xs[j]?).map fun c : DltDaemonContext => (c.logLevel, c.traceStatus) := by
      intro xs j
      rw [getElem?_map, Option.map_map]
      congr 1
      funext x
      exact Prod.ext (get_loseHandle .logLevel _ x) (get_loseHandle .traceStatus _ x)
    obtain ⟨w, hwrites, hwids, -, -, hwritten, -⟩ := hsends.writes
    refine ⟨?_, fun j hj => ?_, [w], hwrites, fun w' hw' hfailed => ?_⟩
    · rw [hsends.after, map_map, ← hset hsends.before hids]
      apply map_congr_left
      exact fun x _ => ids_loseHandle _ x
    · rw [valuesAt, hsends.after, hvalues, hother hj]
      rfl
    · obtain rfl := mem_singleton.mp hw'
      refine ⟨i, mem_cons_self, c, hsends.before, hwids.symm, ?_⟩
      have hne : write ≠ .ok := by
        rintro rfl
        rw [hwritten] at hfailed
        exact absurd hfailed (by decide)
      rw [valuesAt, hsends.after, hvalues, hsends.failed hne,
        getElem?_set_self (List.getElem?_eq_some_iff.mp hsends.before).1, valuesAt, hsends.before]

namespace TellSteps

variable {is : List ℕ}

section

variable (h : TellSteps l s users is s' users')
include h

theorem tellOk : TellOk s' l users' := by
  induction h with
  | nil hok => exact hok
  | cons _ _ _ ih => exact ih

/-- **A loop keeps the agreement.** -/
theorem agrees (hj : AgreesAt s users j) : AgreesAt s' users' j := by
  induction h with
  | nil _ => exact hj
  | cons hok hstep _ ih => exact ih (hstep.agrees hok hj)

/-- **A loop over different positions** changes them one by one. -/
theorem changesAt (hnodup : is.Nodup) : ChangesAt s s' users users' is := by
  induction h with
  | nil _ => exact .refl _ _ _
  | cons _ hstep _ ih =>
    obtain ⟨hi, his⟩ := nodup_cons.mp hnodup
    exact hstep.changesAt.trans (ih his) hi

end

end TellSteps

/-! ## The bodies -/

/-- A change of the values of a context. -/
def ValuesOnly (f : DltDaemonContext → DltDaemonContext) : Prop :=
  ∀ c, f c = { c with logLevel := (f c).logLevel, traceStatus := (f c).traceStatus }

theorem valuesOnly_set (field : LevelField) (value : ℤ) : ValuesOnly (field.set value) := by
  intro c
  cases field <;> rfl

theorem levelMessage_eq {daemon : DltDaemon Buf} (h : c.storageLogLevel = dltLogDefault) :
    (levelMessage flags daemon c).logLevel = UInt8.ofInt (effectiveLogLevel daemon c) := by
  simp [levelMessage, h]

section bodies

variable {i : ℕ} {c : DltDaemonContext} {f : DltDaemonContext → DltDaemonContext}

variable (flags) in
/-- The values of a context with a valid handle change, and it is told. -/
theorem TellOk.sendsAt (h : TellOk s l users) (hc : users.contexts[i]? = some c) (hvalid : Valid c)
    (hf : ValuesOnly f) (write : WriteOutcome) :
    let sent := sendIfValid flags (s.modifyContext l i f) l i write
    sent.2 = decide (write = .ok) ∧ ∃ mids, TellOk sent.1 l mids ∧
      mids.contexts = (users.contexts.set i (f c)).map (loseHandle (lostHandle c write)) ∧
      ∀ d s'' users'', d = { c with logLevel := d.logLevel, traceStatus := d.traceStatus } →
        (write ≠ .ok → d = c) → (write = .ok → d = f c) →
        users''.contexts = (users.contexts.set i d).map (loseHandle (lostHandle c write)) →
        s''.writes = sent.1.writes → SameDefaults sent.1.daemon s''.daemon →
        Sends s s'' users users'' i write c d := by
  have hmid := h.modifyContext i hf
  have hlt := (List.getElem?_eq_some_iff.mp hc).1
  have hset : (users.modifyContext i f).contexts = users.contexts.set i (f c) := by
    show users.contexts.modify i f = _
    rw [modify_eq_set_getElem?, hc]
    rfl
  have hfc : (users.modifyContext i f).contexts[i]? = some (f c) := by
    rw [hset, getElem?_set_self hlt]
  have hvalid' : Valid (f c) := by
    rw [hf]
    exact hvalid
  have hlost : lostHandle (f c) write = lostHandle c write := by
    rw [hf]
    rfl
  have hsend : sendIfValid flags (s.modifyContext l i f) l i write =
      dltDaemonUserSendLogLevel flags (s.modifyContext l i f) (f c) write := by
    unfold sendIfValid
    rw [hmid.context, hfc]
    exact if_pos hvalid'
  obtain ⟨hok, hwrites, hsame, mids, htell, hmids⟩ :=
    hmid.send flags (mem_of_getElem? hfc) hvalid' write
  intro sent
  have hsent : sent = dltDaemonUserSendLogLevel flags (s.modifyContext l i f) (f c) write := hsend
  rw [hsent]
  refine ⟨hok, mids, htell, by rw [hmids, hset, hlost], ?_⟩
  intro d s'' users'' hframe hfailed hwritten hafter hwrites'' hsame''
  refine ⟨hc, hvalid, hframe, hfailed, hafter, ?_, ?_⟩
  · refine ⟨_, hwrites''.trans hwrites, ?_, ?_, ?_, rfl, fun hwok => ?_⟩
    · rw [hf]
      rfl
    · rw [hf]
      rfl
    · rw [hf]
      rfl
    · rw [hwritten hwok]
      have hstorage : (f c).storageLogLevel = dltLogDefault := hmid.storage _ (mem_of_getElem? hfc) hvalid'
      exact ⟨levelMessage_eq hstorage, rfl⟩
  · exact ⟨hsame''.defaultLogLevel.trans hsame.defaultLogLevel,
      hsame''.defaultTraceStatus.trans hsame.defaultTraceStatus,
      hsame''.forceLlTs.trans hsame.forceLlTs⟩

end bodies

end Dlt.Daemon
