import Dlt.Contexts.ContextTableInvariant
import Dlt.Lib.Hex
import Dlt.Lib.Runs

/-!
# Runs of an application with its contexts

* `contextRun_ok` — **every state that a run reaches is in order, and so is every operation from there**.
* `contextRun_not_ok` — a context that is registered while the daemon is away is registered twice when it is back,
  and the position of the context behind 2147483648 other ones is negative.
-/

namespace Dlt.Contexts

open Dlt.Lib Dlt.Shared List Option Function
open Dlt.Inbox (DltUserControlMsgLogLevel)

variable {w' : World} {i n : ℕ}

/-! ## Room in the table -/

/-- The table with room for one more entry has the used entries. -/
theorem expandTable_spec {w : World} {malloc : Bool} {entries : List DltLlTs} (hw : Invariant w)
    (h : expandTable w.user malloc = some entries) :
    w.user.dltLlTsNumEntries < entries.length ∧ entries.length % dltUserContextAllocSize = 0 ∧
      (∀ i, i < w.user.dltLlTsNumEntries → entries[i]? = w.table[i]?) ∧
      Mirrored w.cells entries fun i => i < w.user.dltLlTsNumEntries := by
  have hle := hw.le
  have hsmall := hw.small
  have hsize : dltUserContextAllocSize = 500 := rfl
  rcases htable : w.user.dltLlTs with _ | old
  · have hnil : w.table = [] := by rw [World.table, htable, getD_none]
    rw [hnil, length_nil] at hle
    have hzero : w.user.dltLlTsNumEntries = 0 := by omega
    rw [expandTable, htable] at h
    have hentries : entries = replicate dltUserContextAllocSize .initial := by
      cases malloc with
      | false => cases h
      | true => exact (Option.some.inj h).symm
    rw [hentries, length_replicate, hzero, hsize]
    refine ⟨by decide, rfl, fun i hi => absurd hi (Nat.not_lt_zero i), Mirror.restrict hw.mirror ?_ ?_⟩
    · rintro ⟨j, k⟩ p hp
      rw [ptrAt, getElem?_replicate] at hp
      split_ifs at hp
      · cases k <;> cases hp
      · cases hp
    · intro x p hx
      exact absurd hx (Nat.not_lt_zero _)
  · have hold : w.table = old := by rw [World.table, htable, getD_some]
    have hsized := hw.sized
    rw [hold, hsize] at hsized
    rw [hold] at hle
    unfold expandTable at h
    simp only [htable, hsize] at h
    by_cases hfull : w.user.dltLlTsNumEntries % 500 = 0
    · rw [if_pos hfull] at h
      have hmax : (w.user.dltLlTsNumEntries / 500 + 1) * 500 % 4294967296 - w.user.dltLlTsNumEntries = 500 := by
        omega
      rw [hmax] at h
      have hentries : entries = old.take w.user.dltLlTsNumEntries ++ replicate 500 .initial := by
        cases malloc with
        | false => cases h
        | true => exact (Option.some.inj h).symm
      have hlength : (old.take w.user.dltLlTsNumEntries).length = w.user.dltLlTsNumEntries := by
        rw [length_take]
        omega
      have hsame : ∀ i, i < w.user.dltLlTsNumEntries → entries[i]? = w.table[i]? := by
        intro i hi
        rw [hentries, hold, getElem?_append_left (by omega), getElem?_take_of_lt hi]
      refine ⟨?_, ?_, hsame, Mirror.restrict hw.mirror ?_ ?_⟩
      · rw [hentries, length_append, hlength, length_replicate]
        omega
      · rw [hentries, length_append, hlength, length_replicate, hsize]
        omega
      · rintro ⟨j, k⟩ p hp
        by_cases hj : j < w.user.dltLlTsNumEntries
        · rwa [ptrAt, hsame j hj] at hp
        · rw [ptrAt, hentries, getElem?_append_right (by omega), getElem?_replicate] at hp
          split_ifs at hp
          · cases k <;> cases hp
          · cases hp
      · rintro ⟨j, k⟩ p hj hp
        exact ⟨hj, by rw [valueAt, valueAt, hsame j hj]⟩
    · rw [if_neg hfull] at h
      cases h
      refine ⟨?_, ?_, fun i _ => by rw [hold], ?_⟩
      · rcases Nat.lt_or_eq_of_le hle with hlt | heq
        · exact hlt
        · rw [← heq] at hsized
          exact absurd hsized hfull
      · rw [hsize]
        exact hsized
      · have hmirror := hw.mirror
        rwa [hold] at hmirror

theorem expandTable_none {user : DltUser} {malloc : Bool} (h : expandTable user malloc = none) : ¬ malloc := by
  rintro rfl
  unfold expandTable at h
  split at h
  · cases h
  · split at h <;> cases h

/-! ## Completing a registration -/

theorem isEmpty_dltSetId_of_head {text : List UInt8} (h : text.headD 0 ≠ 0) : (dltSetId text).isEmpty = false := by
  cases text with
  | nil => exact absurd rfl h
  | cons b bs =>
    have hb : b ≠ 0 := h
    simp [Id4.isEmpty, dltSetId, idText, hb]

/-- What a registration does to the live handles and to the used entries. -/
structure Registers (w w' : World) (h : ℕ) (r : RegisterContext) : Prop where
  live : w'.live = update w.live h (some { contextid := r.contextid, description := r.description })
  handles : ∀ h', h' ≠ h → w'.handles h' = w.handles h'
  position : (w'.handles h).logLevelPos = Int32.ofNat w.user.dltLlTsNumEntries
  numEntries : w'.user.dltLlTsNumEntries = w.user.dltLlTsNumEntries + 1
  entries : ∀ i, i < w.user.dltLlTsNumEntries → w'.table[i]? = w.table[i]?

/-- What a call without an effect does to them. -/
structure Refuses (w w' : World) (h : ℕ) : Prop where
  live : w'.live = w.live
  handles : ∀ h', h' ≠ h → w'.handles h' = w.handles h'
  numEntries : w'.user.dltLlTsNumEntries = w.user.dltLlTsNumEntries
  entries : ∀ i, i < w.user.dltLlTsNumEntries → w'.table[i]? = w.table[i]?

/-- **An entry that has all its memory is bound to the handle.** -/
theorem completeRegistration_spec {w : World} {h : ℕ} {r : RegisterContext} (env : RegisterEnv) {e : DltLlTs}
    (hw : Invariant w) (hlt : w.user.dltLlTsNumEntries < w.table.length) (hfree : w.live h = none)
    (hnamed : r.contextid.headD 0 ≠ 0) (hp : Prepared w w' e) (hid : e.contextID = dltSetId r.contextid)
    (hdescription : e.contextDescription = r.description) (hll : e.logLevelPtr.isSome)
    (hts : e.traceStatusPtr.isSome) :
    Registers w (completeRegistration w' h r env e).1 h r ∧
      (w.user.dltLlTsNumEntries < 2147483648 → Invariant (completeRegistration w' h r env e).1) := by
  set result := (completeRegistration w' h r env e).1 with hresult
  have hnum : w'.user.dltLlTsNumEntries = w.user.dltLlTsNumEntries := by rw [hp.user]
  have htable' : w'.table = w.table.set w.user.dltLlTsNumEntries e := by rw [World.table, hp.user, getD_some]
  obtain ⟨e', htable, hcells, hptrs, hidentity⟩ : ∃ e' : DltLlTs,
      result.table = w.table.set w.user.dltLlTsNumEntries e' ∧
      result.cells = (w'.cells.write e'.logLevelPtr e'.logLevel).write e'.traceStatusPtr e'.traceStatus ∧
      (∀ k, e'.ptr k = e.ptr k) ∧ e'.identity = e.identity := by
    refine ⟨_, ?_, rfl, fun k => by cases k <;> rfl, rfl⟩
    rw [hresult, World.table, completeRegistration, getD_some, htable', hnum, set_set]
  have hlive : result.live = update w.live h (some { contextid := r.contextid, description := r.description }) := by
    rw [hresult, completeRegistration, hp.live]
  obtain ⟨transfer, hhandles, hpos, htransfer⟩ : ∃ transfer : DltContext,
      result.handles = update w'.handles h transfer ∧
      transfer.logLevelPos = Int32.ofNat w'.user.dltLlTsNumEntries ∧
      transfer.contextID = dltSetId r.contextid ∧ transfer.logLevelPtr = e.logLevelPtr ∧
      transfer.traceStatusPtr = e.traceStatusPtr := ⟨_, rfl, rfl, rfl, rfl, rfl⟩
  have hother : ∀ h', h' ≠ h → result.handles h' = w.handles h' := by
    intro h' hne
    rw [hhandles, update_of_ne hne, hp.handles]
  have hself : (result.handles h).logLevelPos = Int32.ofNat w.user.dltLlTsNumEntries ∧
      (result.handles h).contextID = dltSetId r.contextid ∧ (result.handles h).logLevelPtr = e.logLevelPtr ∧
      (result.handles h).traceStatusPtr = e.traceStatusPtr := by
    rw [hhandles, update_self, hpos, hnum]
    exact ⟨rfl, htransfer⟩
  have hcount : result.user.dltLlTsNumEntries = w.user.dltLlTsNumEntries + 1 := by
    have hsmall := hw.small
    rw [hresult, completeRegistration, hnum, Nat.mod_eq_of_lt (by omega)]
  have hentries : ∀ i, i < w.user.dltLlTsNumEntries → result.table[i]? = w.table[i]? := by
    intro i hi
    rw [htable, getElem?_set_other _ (Nat.ne_of_lt hi)]
  refine ⟨⟨hlive, hother, hself.1, hcount, hentries⟩, fun hsmall => ?_⟩
  -- the live handles are this one and the old ones
  have hcases : ∀ h' r', result.live h' = some r' →
      (h' = h ∧ r' = { contextid := r.contextid, description := r.description }) ∨ (h' ≠ h ∧ w.live h' = some r') := by
    intro h' r' hr'
    rw [hlive] at hr'
    by_cases hne : h' = h
    · subst hne
      rw [update_self, Option.some.injEq] at hr'
      exact .inl ⟨rfl, hr'.symm⟩
    · rw [update_of_ne hne] at hr'
      exact .inr ⟨hne, hr'⟩
  have hold : ∀ h' r', w.live h' = some r' → (w.handles h').logLevelPos ≠ Int32.ofNat w.user.dltLlTsNumEntries := by
    intro h' r' hr' hpos
    obtain ⟨i, hb⟩ := hw.bound h' r' hr'
    have hi := position_injective (Nat.lt_trans hb.lt hsmall) hsmall (hb.position.symm.trans hpos)
    exact absurd hb.lt (by rw [hi]; exact Nat.lt_irrefl _)
  refine ⟨?_, ?_, ?_, ?_, ?_, ?_, ?_⟩
  · rw [htable, length_set]
    exact hw.sized
  · rw [htable, length_set, hcount]
    exact hlt
  · rw [hcount]
    exact hsmall
  · have hstore := @Mirrored.store w'.cells _ _ (fun i => i < w.user.dltLlTsNumEntries + 1) _ e e' hp.mirror
      (getElem?_set_here e hlt) hptrs (fun j hj => by omega)
    rw [set_set] at hstore
    rw [htable, hcells, hcount]
    exact hstore
  · intro h' r' hr'
    rcases hcases h' r' hr' with ⟨rfl, rfl⟩ | ⟨hne, hr'⟩
    · refine ⟨w.user.dltLlTsNumEntries, hself.1, by rw [hcount]; exact Nat.lt_succ_self _, ?_, hself.2.1,
        isEmpty_dltSetId_of_head hnamed, ?_, ?_⟩
      · rw [htable, identityAt, getElem?_set_here _ hlt, map_some, hidentity, DltLlTs.identity, hid,
          hdescription, hself.2.2.1, hself.2.2.2]
      · rw [hself.2.2.1]
        exact hll
      · rw [hself.2.2.2]
        exact hts
    · obtain ⟨i, hb⟩ := hw.bound h' r' hr'
      have hh := hother h' hne
      refine ⟨i, ?_, ?_, ?_, ?_, hb.named, ?_, ?_⟩
      · rw [hh]
        exact hb.position
      · rw [hcount]
        exact Nat.lt_succ_of_lt hb.lt
      · rw [identityAt, hentries i hb.lt, hh]
        exact hb.identity
      · rw [hh]
        exact hb.contextID
      · rw [hh]
        exact hb.logLevelPtr
      · rw [hh]
        exact hb.traceStatusPtr
  · intro h₁ h₂ r₁ r₂ hr₁ hr₂ hpos
    rcases hcases h₁ r₁ hr₁ with ⟨heq₁, -⟩ | ⟨hne₁, hold₁⟩
    · rcases hcases h₂ r₂ hr₂ with ⟨heq₂, -⟩ | ⟨hne₂, hold₂⟩
      · rw [heq₁, heq₂]
      · rw [heq₁, hself.1, hother h₂ hne₂] at hpos
        exact absurd hpos.symm (hold h₂ r₂ hold₂)
    · rcases hcases h₂ r₂ hr₂ with ⟨heq₂, -⟩ | ⟨hne₂, hold₂⟩
      · rw [heq₂, hself.1, hother h₁ hne₁] at hpos
        exact absurd hpos (hold h₁ r₁ hold₁)
      · rw [hother h₁ hne₁, hother h₂ hne₂] at hpos
        exact hw.apart h₁ h₂ r₁ r₂ hold₁ hold₂ hpos
  · intro i x hi hx hxnamed
    rw [hcount] at hi
    rcases Nat.lt_or_eq_of_le (Nat.le_of_lt_succ hi) with hlt' | rfl
    · rw [identityAt, hentries i hlt'] at hx
      obtain ⟨h', r', hr', hpos⟩ := hw.owned i x hlt' hx hxnamed
      have hne : h' ≠ h := by
        rintro rfl
        rw [hfree] at hr'
        cases hr'
      refine ⟨h', r', ?_, ?_⟩
      · rw [hlive, update_of_ne hne]
        exact hr'
      · rw [hother h' hne]
        exact hpos
    · refine ⟨h, { contextid := r.contextid, description := r.description }, ?_, hself.1⟩
      rw [hlive, update_self]

/-! ## A registration -/

theorem refuses_refl (w : World) (h : ℕ) : Refuses w w h :=
  ⟨rfl, fun _ _ => rfl, rfl, fun _ _ => rfl⟩

/-- The arguments of a registration are accepted. -/
def RegisterContext.Valid (r : RegisterContext) : Prop :=
  ¬ (r.contextid.headD 0 = 0 ∨ outsideRange r.loglevel r.tracestatus)

variable {pid : Int32}

/-- **A registration is refused, or it binds the handle to a new entry. It is refused only when the arguments are
wrong or there is no memory. As long as a position can be told, the table stays in order.** -/
theorem register_cases {w : World} {h : ℕ} {r : RegisterContext} {env : RegisterEnv} (hw : Invariant w)
    (hfree : w.live h = none) (hfresh : env.Fresh w.cells) :
    ((Refuses w (dltRegisterContextLlTsLlccb pid w h r env).1 h ∧ ¬ (r.Valid ∧ env.Supplies r)) ∨
        Registers w (dltRegisterContextLlTsLlccb pid w h r env).1 h r) ∧
      (w.user.dltLlTsNumEntries < 2147483648 → Invariant (dltRegisterContextLlTsLlccb pid w h r env).1) := by
  unfold dltRegisterContextLlTsLlccb
  by_cases hwrong : r.contextid.headD 0 = 0 ∨ outsideRange r.loglevel r.tracestatus
  · rw [if_pos hwrong]
    exact ⟨.inl ⟨refuses_refl w h, fun hs => hs.1 hwrong⟩, fun _ => hw⟩
  · rw [if_neg hwrong]
    have hnamed : r.contextid.headD 0 ≠ 0 := fun hempty => hwrong (.inl hempty)
    have hmcnt : ∀ h', h' ≠ h →
        update w.handles h { w.handles h with mcnt := 0 } h' = w.handles h' :=
      fun h' hne => update_of_ne hne _ _
    have hbound : ∀ h' r', w.live h' = some r' → h' ≠ h := by
      rintro h' r' hr' rfl
      rw [hfree] at hr'
      cases hr'
    dsimp only
    rcases hexpand : expandTable w.user env.table with _ | entries
    · refine ⟨.inl ⟨⟨rfl, hmcnt, rfl, fun _ _ => rfl⟩, fun hs => expandTable_none hexpand hs.2.1⟩, fun _ => ?_⟩
      exact hw.congr rfl (fun h' r' hr' => hmcnt h' (hbound h' r' hr')) rfl rfl rfl
    · obtain ⟨hlt, hsized, hentries, hmirror⟩ := expandTable_spec hw hexpand
      dsimp only
      -- the handle has a new message counter and the table has room
      set w' : World := World.setTable { w with
        handles := update w.handles h { w.handles h with mcnt := 0 } } entries with hw'
      have htable : w'.table = entries := by rw [hw', World.setTable, World.table, getD_some]
      have hinv : Invariant w' := by
        refine hw.frame rfl (fun h' r' hr' => hmcnt h' (hbound h' r' hr')) rfl ?_ ?_ ?_ ?_
        · rw [htable]
          exact hsized
        · rw [htable]
          exact Nat.le_of_lt hlt
        · intro i hi
          rw [htable, identityAt, identityAt, hentries i hi]
        · rw [htable]
          exact hmirror
      have hroom : w'.user.dltLlTsNumEntries < w'.table.length := by
        rw [htable]
        exact hlt
      rcases fillEntry_cases h r hroom hinv.mirror hfresh with
        ⟨e, hp, hnone, hlacks⟩ | ⟨w'', e, hp, hid, hdescription, hll, hts, heq⟩
      · rcases hfill : fillEntry w' h r env with ⟨w'', log⟩
        rw [hfill] at hp hnone
        cases hnone
        have hnum : w''.user.dltLlTsNumEntries = w'.user.dltLlTsNumEntries := by
          have huser := congrArg DltUser.dltLlTsNumEntries hp.user
          exact huser
        have hset : w''.table = w'.table.set w'.user.dltLlTsNumEntries e := by rw [World.table, hp.user, getD_some]
        have hkept : ∀ i, i < w'.user.dltLlTsNumEntries → w''.table[i]? = w'.table[i]? := by
          intro i hi
          rw [hset, getElem?_set_other _ (Nat.ne_of_lt hi)]
        refine ⟨.inl ⟨⟨hp.live, ?_, hnum, ?_⟩, fun hs => hlacks hs.2⟩, fun _ =>
          hinv.frame hp.live (fun h' _ _ => by rw [hp.handles]) hnum ?_ ?_ ?_ ?_⟩
        · intro h' hne
          rw [hp.handles]
          exact hmcnt h' hne
        · intro i hi
          rw [hkept i hi, htable, hentries i hi]
        · rw [hset, length_set]
          exact hinv.sized
        · rw [hset, length_set]
          exact hinv.le
        · intro i hi
          rw [identityAt, identityAt, hkept i hi]
        · rw [hset]
          exact hp.mirror
      · obtain ⟨hregisters, hcomplete⟩ :=
          completeRegistration_spec env hinv hroom hfree hnamed hp hid hdescription hll hts
        rw [heq]
        have hsame := sameTable_sendRegisterContext (completeRegistration w'' h r env e).1.user pid
          (completeRegistration w'' h r env e).2 env.link
        refine ⟨.inr ⟨hregisters.live, ?_, hregisters.position, ?_, ?_⟩, fun hsmall => (hcomplete hsmall).send hsame⟩
        · intro h' hne
          exact (hregisters.handles h' hne).trans (hmcnt h' hne)
        · exact hsame.numEntries.trans hregisters.numEntries
        · intro i hi
          have hkept := hregisters.entries i hi
          rw [World.table] at hkept ⊢
          rw [hsame.dltLlTs, hkept, htable, hentries i hi]

/-! ## Every operation -/

/-- What an application does with its contexts: it registers a context with a handle that has none, `malloc` gives it
memory that is not in use, fewer than 2147483648 entries are used, and it unregisters the contexts that it registered.
-/
def Allowed (w : World) : Op → Prop
  | .register h _ env => w.live h = none ∧ env.Fresh w.cells ∧ w.user.dltLlTsNumEntries < 2147483648
  | .unregister h _ => (w.live h).isSome
  | _ => True

/-- A message sets the levels of the entry at its position, and nothing else. -/
theorem dltUserLogLevelMessage_eq (w : World) (m : DltUserControlMsgLogLevel) :
    (dltUserLogLevelMessage w m).1 = w ∨ ∃ i, entryIndex m.logLevelPos = some i ∧
      (dltUserLogLevelMessage w m).1 =
          setLevels w i (Int8.ofInt m.logLevel.toNat) (Int8.ofInt m.traceStatus.toNat) := by
  unfold dltUserLogLevelMessage
  by_cases hpos : 0 ≤ m.logLevelPos ∧ m.logLevelPos < Int32.ofNat w.user.dltLlTsNumEntries
  · rw [if_pos hpos]
    rcases hindex : entryIndex m.logLevelPos with _ | i
    · exact .inl rfl
    · rw [bind_some]
      rcases hentry : w.table[i]? with _ | e
      · exact .inl rfl
      · exact .inr ⟨i, rfl, rfl⟩
  · rw [if_neg hpos]
    exact .inl rfl

theorem dltSetApplicationLlTsLimit_eq (w : World) (ll ts : ℤ) (link : Link) :
    (dltSetApplicationLlTsLimit w ll ts link).1 = w ∨ ∃ user,
      SameTable (setAllLevels w (Int8.ofInt ll) (Int8.ofInt ts) w.user.dltLlTsNumEntries).user user ∧
      (dltSetApplicationLlTsLimit w ll ts link).1 =
        { setAllLevels w (Int8.ofInt ll) (Int8.ofInt ts) w.user.dltLlTsNumEntries with user := user } := by
  unfold dltSetApplicationLlTsLimit
  by_cases hwrong : outsideRange ll ts ∨ w.user.dltLlTs = none
  · rw [if_pos hwrong]
    exact .inl rfl
  · rw [if_neg hwrong]
    exact .inr ⟨_, sameTable_sendAppLlTsLimit _ ll ts link, rfl⟩

/-- **Every operation keeps the table in order.** -/
theorem invariant_perform {w : World} {op : Op} (hw : Invariant w) (hop : Allowed w op) :
    Invariant (perform pid w op).1 := by
  cases op with
  | register h r env =>
    obtain ⟨hfree, hfresh, hsmall⟩ := hop
    exact (register_cases hw hfree hfresh).2 hsmall
  | unregister h link =>
    obtain ⟨r, hr⟩ := isSome_iff_exists.mp hop
    exact invariant_unregister hw hr
  | limit ll ts link =>
    rw [perform]
    rcases dltSetApplicationLlTsLimit_eq w ll ts link with heq | ⟨user, hsame, heq⟩
    · rw [heq]
      exact hw
    · rw [heq]
      exact (invariant_setAllLevels hw _ _ _).send hsame
  | logLevel m =>
    rw [perform]
    rcases dltUserLogLevelMessage_eq w m with heq | ⟨i, -, heq⟩
    · rw [heq]
      exact hw
    · rw [heq]
      exact invariant_setLevels hw i _ _
  | reattach fd => exact hw.send (sameTable_reattach pid w.user fd)
  | detach => exact hw.send ⟨rfl, rfl⟩
  | log apid bytes link => exact hw.send (sameTable_sendOrStore w.user _ link)

/-! ## What the application relies on -/

/-- The entry that a handle stands for. -/
def World.entryOf (w : World) (h : ℕ) : Option DltLlTs :=
  (entryIndex (w.handles h).logLevelPos).bind fun i => w.table[i]?

/-- A live handle has its entry: the entry is used and carries the id and the description, and its two values are in
the cells that the handle points to. -/
structure ContextOk (w : World) (h : ℕ) (r : Registration) : Prop where
  nonneg : 0 ≤ (w.handles h).logLevelPos.toInt
  lt : (w.handles h).logLevelPos.toInt < w.user.dltLlTsNumEntries
  contextID : (w.handles h).contextID = dltSetId r.contextid
  entry : ∃ e, w.entryOf h = some e ∧ e.contextID = (w.handles h).contextID ∧ e.contextDescription = r.description ∧
    (w.handles h).logLevelPtr = e.logLevelPtr ∧ (w.handles h).traceStatusPtr = e.traceStatusPtr ∧
    (∃ p, e.logLevelPtr = some p ∧ w.cells p = some e.logLevel) ∧
    ∃ p, e.traceStatusPtr = some p ∧ w.cells p = some e.traceStatus

/-- Every live handle has its entry, and no two have the same one. -/
structure TableOk (w : World) : Prop where
  contexts : ∀ h r, w.live h = some r → ContextOk w h r
  apart : ∀ h h' r r', w.live h = some r → w.live h' = some r' → h ≠ h' →
    (w.handles h).logLevelPos ≠ (w.handles h').logLevelPos

/-- What the application sees of a context: its handle, its entry, and what is in the cells of the handle. -/
def World.context (w : World) (h : ℕ) : DltContext × Option DltLlTs × Option Int8 × Option Int8 :=
  (w.handles h, w.entryOf h, (w.handles h).logLevelPtr.bind w.cells, (w.handles h).traceStatusPtr.bind w.cells)

/-- The operation is meant for the levels of the context at a position. -/
def SetsLevels (pos : Int32) : Op → Prop
  | .limit _ _ _ => True
  | .logLevel m => m.logLevelPos = pos
  | _ => False

/-- The registration of a live handle that is sent when the application attaches again. -/
def registrationOf (pid : Int32) (w : World) (h : ℕ) : UserMessage :=
  let description := descriptionOf ((w.live h).bind fun r => r.description)
  .registerContext
    { apid := dltSetId w.user.appID.bytes
      ctid := (w.handles h).contextID
      logLevelPos := (w.handles h).logLevelPos
      logLevel := -2
      traceStatus := -2
      pid := pid
      descriptionLength := description.1 }
    description.2

/-- What holds of an operation. -/
structure StepOk (pid : Int32) (w : World) (op : Op) : Prop where
  /-- A live context changes only by an operation for its levels. -/
  kept : ∀ h r, w.live h = some r → (∀ link, op ≠ .unregister h link) →
    (perform pid w op).1.live h = some r ∧ (perform pid w op).1.handles h = w.handles h ∧
      (¬ SetsLevels (w.handles h).logLevelPos op → (perform pid w op).1.context h = w.context h)
  /-- A registration that fails leaves the live contexts and the number of used entries as they were. -/
  failed : ∀ h r env, op = .register h r env → (perform pid w op).1.live h = none →
    (perform pid w op).1.live = w.live ∧ (perform pid w op).1.user.dltLlTsNumEntries = w.user.dltLlTsNumEntries ∧
      ∀ h' r', w.live h' = some r' → (perform pid w op).1.context h' = w.context h'
  /-- Attaching again sends one registration for every live context, and behind them what is stored. -/
  reattached : ∀ fd, op = .reattach fd → w.user.appID.isEmpty = false → w.user.dltLogHandle < 0 → 0 ≤ fd →
    ∃ hs : List ℕ, hs.Nodup ∧ (∀ h, h ∈ hs ↔ (w.live h).isSome) ∧
      (perform pid w op).2 = dltUserLogSendRegisterApplication w.user pid ++ hs.map (registrationOf pid w) ++
        if hs = [] then [] else w.user.startupBuffer.map (UserMessage.addAppID w.user.appID)

theorem Bound.entryOf {w : World} {h : ℕ} {r : Registration} (hb : Bound w h r i)
    (hsmall : w.user.dltLlTsNumEntries ≤ 2147483648) : w.entryOf h = w.table[i]? := by
  rw [World.entryOf, hb.position, entryIndex_position (Nat.lt_of_lt_of_le hb.lt hsmall), bind_some]

/-- **The table is in order for the application.** -/
theorem Invariant.tableOk {w : World} (hw : Invariant w) : TableOk w where
  contexts h r hr := by
    obtain ⟨i, hb⟩ := hw.bound h r hr
    obtain ⟨e, he, hid⟩ := hb.entry
    have hpos : (w.handles h).logLevelPos.toInt = i := by
      rw [hb.position]
      exact toInt_position (Nat.lt_of_lt_of_le hb.lt hw.small)
    have hvalue : ∀ k p, e.ptr k = some p → w.cells p = some (e.value k) := by
      intro k p hp
      have hholds := hw.mirror.holds (i, k) p hb.lt ((ptrAt_eq he k).trans hp)
      rw [hholds, valueAt, he, map_some]
    simp only [DltLlTs.identity, Prod.mk.injEq] at hid
    obtain ⟨hcid, hdescription, hll, hts⟩ := hid
    refine ⟨?_, ?_, hb.contextID, e, ?_, ?_, hdescription, hll.symm, hts.symm, ?_, ?_⟩
    · rw [hpos]
      exact Int.natCast_nonneg i
    · rw [hpos]
      exact Int.ofNat_lt.mpr hb.lt
    · rw [hb.entryOf hw.small, he]
    · rw [hcid, hb.contextID]
    · obtain ⟨p, hp⟩ := isSome_iff_exists.mp hb.logLevelPtr
      rw [← hll] at hp
      exact ⟨p, hp, hvalue .logLevel p hp⟩
    · obtain ⟨p, hp⟩ := isSome_iff_exists.mp hb.traceStatusPtr
      rw [← hts] at hp
      exact ⟨p, hp, hvalue .traceStatus p hp⟩
  apart h h' r r' hr hr' hne hpos := hne (hw.apart h h' r r' hr hr' hpos)

/-- A context whose handle and entry are the same looks the same. -/
theorem context_eq {w : World} {h : ℕ} {r r' : Registration} (hw : Invariant w) (hw' : Invariant w')
    (hr : w.live h = some r) (hr' : w'.live h = some r') (hhandle : w'.handles h = w.handles h)
    (hentry : w'.entryOf h = w.entryOf h) : w'.context h = w.context h := by
  obtain ⟨e, he, -, -, hll, hts, ⟨p, hp, hpv⟩, q, hq, hqv⟩ := (hw.tableOk.contexts h r hr).entry
  obtain ⟨e', he', -, -, -, -, ⟨p', hp', hpv'⟩, q', hq', hqv'⟩ := (hw'.tableOk.contexts h r' hr').entry
  rw [hentry, he] at he'
  cases he'
  rw [hp] at hp'
  rw [hq] at hq'
  cases hp'
  cases hq'
  rw [World.context, World.context, hhandle, hentry, hll, hts, hp, hq, bind_some, bind_some,
    bind_some, bind_some, hpv, hqv, hpv', hqv']

/-! ## One operation -/

section operation

variable {pid : Int32} {w : World} {op : Op} {h : ℕ} {r : Registration}

theorem Bound.entryOf_eq (hb : Bound w h r i) (hsmall : w.user.dltLlTsNumEntries ≤ 2147483648)
    (hhandle : w'.handles h = w.handles h) (hentry : w'.table[i]? = w.table[i]?) :
    w'.entryOf h = w.entryOf h := by
  rw [hb.entryOf hsmall, World.entryOf, hhandle, hb.position,
    entryIndex_position (Nat.lt_of_lt_of_le hb.lt hsmall), bind_some, hentry]

theorem position_of_entryIndex {pos : Int32} (h : entryIndex pos = some i) (hi : i < 2147483648) :
    pos = Int32.ofNat i := by
  unfold entryIndex at h
  split_ifs at h with hpos
  apply Int32.toInt_inj.mp
  rw [toInt_position hi, ← Option.some.inj h, Int.toNat_of_nonneg hpos]

/-- **A live handle is kept by every operation, and its entry by every one that is not meant for its levels.** -/
theorem perform_kept (hw : Invariant w) (hop : Allowed w op) (hr : w.live h = some r)
    (hne : ∀ link, op ≠ .unregister h link) :
    (perform pid w op).1.live h = some r ∧ (perform pid w op).1.handles h = w.handles h ∧
      (¬ SetsLevels (w.handles h).logLevelPos op → (perform pid w op).1.entryOf h = w.entryOf h) := by
  obtain ⟨i, hb⟩ := hw.bound h r hr
  have hi : i < 2147483648 := Nat.lt_of_lt_of_le hb.lt hw.small
  -- what leaves the table and the handles alone
  have hsame : ∀ user, SameTable w.user user → ({ w with user := user } : World).entryOf h = w.entryOf h := by
    intro user hu
    refine hb.entryOf_eq hw.small rfl ?_
    rw [World.table, hu.dltLlTs]
    rfl
  cases op with
  | register h' r' env =>
    obtain ⟨hfree, hfresh, -⟩ := hop
    have hhh : h ≠ h' := by
      rintro rfl
      rw [hfree] at hr
      cases hr
    rw [perform]
    rcases (register_cases hw hfree hfresh).1 with ⟨hrefuses, -⟩ | hregisters
    · have hhandle := hrefuses.handles h hhh
      exact ⟨by rw [hrefuses.live, hr], hhandle, fun _ => hb.entryOf_eq hw.small hhandle (hrefuses.entries i hb.lt)⟩
    · have hhandle := hregisters.handles h hhh
      refine ⟨?_, hhandle, fun _ => hb.entryOf_eq hw.small hhandle (hregisters.entries i hb.lt)⟩
      rw [hregisters.live, update_of_ne hhh, hr]
  | unregister h' link =>
    have hhh : h ≠ h' := by
      rintro rfl
      exact hne link rfl
    obtain ⟨r', hr'⟩ := isSome_iff_exists.mp hop
    obtain ⟨i', hb'⟩ := hw.bound h' r' hr'
    obtain ⟨e, -, hlive, hhandles, -, htable, -⟩ := @dltUnregisterContext_spec pid w h' i' r' link hb' hw.small
    have hii : i ≠ i' := by
      rintro rfl
      exact hhh (hw.apart h h' r r' hr hr' (hb.position.trans hb'.position.symm))
    have hhandle : (dltUnregisterContext pid w h' link).1.handles h = w.handles h := by
      rw [hhandles, update_of_ne hhh]
    refine ⟨?_, hhandle, fun _ => hb.entryOf_eq hw.small hhandle ?_⟩
    · rw [perform, hlive, update_of_ne hhh, hr]
    · rw [perform, htable, getElem?_set_other _ hii]
  | limit ll ts link =>
    obtain ⟨hlive, hhandles, -⟩ := setAllLevels_frame w (Int8.ofInt ll) (Int8.ofInt ts) w.user.dltLlTsNumEntries
    rw [perform]
    rcases dltSetApplicationLlTsLimit_eq w ll ts link with heq | ⟨user, -, heq⟩
    · rw [heq]
      exact ⟨hr, rfl, fun _ => rfl⟩
    · rw [heq]
      exact ⟨by rw [hlive, hr], by rw [hhandles], fun hsets => absurd trivial hsets⟩
  | logLevel m =>
    rw [perform]
    rcases dltUserLogLevelMessage_eq w m with heq | ⟨j, hj, heq⟩
    · rw [heq]
      exact ⟨hr, rfl, fun _ => rfl⟩
    · obtain ⟨hlive, hhandles, -⟩ :=
        setLevels_frame w j (Int8.ofInt m.logLevel.toNat) (Int8.ofInt m.traceStatus.toNat)
      have hhandle := congrFun hhandles h
      rw [heq]
      refine ⟨by rw [hlive, hr], hhandle, fun hsets => hb.entryOf_eq hw.small hhandle ?_⟩
      refine setLevels_other w _ _ ?_
      rintro rfl
      exact hsets ((position_of_entryIndex hj hi).trans hb.position.symm)
  | reattach fd => exact ⟨hr, rfl, fun _ => hsame _ (sameTable_reattach pid w.user fd)⟩
  | detach => exact ⟨hr, rfl, fun _ => hsame _ ⟨rfl, rfl⟩⟩
  | log apid bytes link => exact ⟨hr, rfl, fun _ => hsame _ (sameTable_sendOrStore w.user _ link)⟩

theorem perform_failed {r' : RegisterContext} {env : RegisterEnv} (hw : Invariant w)
    (hop : Allowed w (.register h r' env)) (hnone : (perform pid w (.register h r' env)).1.live h = none) :
    (perform pid w (.register h r' env)).1.live = w.live ∧
      (perform pid w (.register h r' env)).1.user.dltLlTsNumEntries = w.user.dltLlTsNumEntries := by
  rw [perform] at hnone ⊢
  rcases (register_cases hw hop.1 hop.2.1).1 with ⟨hrefuses, -⟩ | hregisters
  · exact ⟨hrefuses.live, hrefuses.numEntries⟩
  · rw [hregisters.live, update_self] at hnone
    cases hnone

end operation

/-! ## Attaching again -/

open Classical in
/-- The live handle whose context is at an index. -/
noncomputable def ownerOf (w : World) (i : ℕ) : Option ℕ :=
  if h : ∃ h r, w.live h = some r ∧ (w.handles h).logLevelPos = Int32.ofNat i ∧ i < 2147483648 then some h.choose
  else none

theorem ownerOf_spec {w : World} {h : ℕ} (ho : ownerOf w i = some h) :
    ∃ r, w.live h = some r ∧ (w.handles h).logLevelPos = Int32.ofNat i ∧ i < 2147483648 := by
  unfold ownerOf at ho
  split_ifs at ho with hex
  cases ho
  exact hex.choose_spec

theorem ownerOf_bound {w : World} {h : ℕ} {r : Registration} (hw : Invariant w) (hr : w.live h = some r)
    (hb : Bound w h r i) : ownerOf w i = some h := by
  have hex : ∃ h r, w.live h = some r ∧ (w.handles h).logLevelPos = Int32.ofNat i ∧ i < 2147483648 :=
    ⟨h, r, hr, hb.position, Nat.lt_of_lt_of_le hb.lt hw.small⟩
  obtain ⟨r', hr', hpos, -⟩ := hex.choose_spec
  rw [ownerOf, dif_pos hex, hw.apart _ h r' r hr' hr (hpos.trans hb.position.symm)]

/-- The registration of a stored context is the one of its owner. -/
theorem reRegister_eq {w : World} {fd : ℤ} (hw : Invariant w) (happ : w.user.appID.isEmpty = false) (hfd : 0 ≤ fd)
    (hi : i < w.user.dltLlTsNumEntries) :
    reRegister { w.user with dltLogHandle := fd } pid i = ((ownerOf w i).map (registrationOf pid w)).toList := by
  have hsmall : i < 2147483648 := Nat.lt_of_lt_of_le hi hw.small
  obtain ⟨e, he⟩ : ∃ e, w.table[i]? = some e := ⟨_, getElem?_eq_getElem (Nat.lt_of_lt_of_le hi hw.le)⟩
  have hget : (w.user.dltLlTs.getD [])[i]? = some e := he
  unfold reRegister
  simp only [hget, happ, Bool.false_eq_true, false_or]
  rcases ho : ownerOf w i with _ | h
  · -- no handle is at the index, so that the entry was cleared
    have hempty : e.contextID.isEmpty = true := by
      by_contra hnamed
      obtain ⟨h, r, hr, hpos⟩ := hw.owned i e.identity hi (by rw [identityAt, he, map_some])
        (Bool.not_eq_true _ ▸ hnamed)
      obtain ⟨j, hb⟩ := hw.bound h r hr
      have hij := position_injective (Nat.lt_of_lt_of_le hb.lt hw.small) hsmall (hb.position.symm.trans hpos)
      rw [hij] at hb
      rw [ownerOf_bound hw hr hb] at ho
      cases ho
    rw [if_pos hempty]
    rfl
  · obtain ⟨r, hr, hpos, -⟩ := ownerOf_spec ho
    obtain ⟨j, hb⟩ := hw.bound h r hr
    have hij := position_injective (Nat.lt_of_lt_of_le hb.lt hw.small) hsmall (hb.position.symm.trans hpos)
    rw [hij] at hb
    obtain ⟨e', he', hid⟩ := hb.entry
    rw [he] at he'
    cases he'
    simp only [DltLlTs.identity, Prod.mk.injEq] at hid
    obtain ⟨hcid, hdescription, -, -⟩ := hid
    have hcanonical : dltSetId (dltSetId r.contextid).bytes = dltSetId r.contextid := canonical_dltSetId r.contextid
    have hnamed : ¬ (dltSetId r.contextid).isEmpty = true := by
      rw [hb.named]
      exact Bool.false_ne_true
    rw [hcid, if_neg hnamed, dltUserLogSendRegisterContext]
    simp only [hcanonical, if_neg hnamed, happ, Bool.false_eq_true, if_false]
    rw [sendOrStore, if_pos (by simp [dltUserLogOut3, hfd])]
    simp only [registerContextMessage, registrationOf, map_some, toList_some, hcanonical, hr,
      bind_some, hb.contextID, hpos, hdescription]
    rfl

/-- **Attaching again sends the registrations of the live handles.** -/
theorem reRegisterAll_eq {w : World} {fd : ℤ} (hw : Invariant w) (happ : w.user.appID.isEmpty = false)
    (hfd : 0 ≤ fd) : ∃ hs : List ℕ, hs.Nodup ∧ (∀ h, h ∈ hs ↔ (w.live h).isSome) ∧
      reRegisterAll { w.user with dltLogHandle := fd } pid = hs.map (registrationOf pid w) := by
  refine ⟨(List.range w.user.dltLlTsNumEntries).filterMap (ownerOf w), ?_, ?_, ?_⟩
  · refine List.Nodup.filterMap ?_ nodup_range
    intro i j h hi hj
    obtain ⟨r, -, hpos, hlt⟩ := ownerOf_spec hi
    obtain ⟨r', -, hpos', hlt'⟩ := ownerOf_spec hj
    exact position_injective hlt hlt' (hpos.symm.trans hpos')
  · intro h
    rw [mem_filterMap]
    constructor
    · rintro ⟨i, -, ho⟩
      obtain ⟨r, hr, -⟩ := ownerOf_spec ho
      rw [hr]
      rfl
    · intro hlive
      obtain ⟨r, hr⟩ := isSome_iff_exists.mp hlive
      obtain ⟨i, hb⟩ := hw.bound h r hr
      exact ⟨i, mem_range.mpr hb.lt, ownerOf_bound hw hr hb⟩
  · rw [reRegisterAll, map_filterMap, filterMap_eq_flatMap_toList]
    refine flatMap_congr fun i hi => ?_
    exact reRegister_eq hw happ hfd (mem_range.mp hi)

/-! ## Every run -/

def step (pid : Int32) (w : World) (op : Op) : World := (perform pid w op).1

theorem invariant_step (w : World) (op : Op) (hw : Invariant w) (hop : Allowed w op) :
    Invariant (step pid w op) := invariant_perform hw hop

theorem invariant_reach {w : World} (h : Reach World.Initial (step pid) Allowed w) : Invariant w :=
  h.invariant (fun _ hs => invariant_initial hs) invariant_step

/-- **In every state of a run the table is in order, and so is every operation from there.** -/
theorem contextRun_ok {pid : Int32} {w : World} (h : Reach World.Initial (step pid) Allowed w) :
    TableOk w ∧ ∀ op, Allowed w op → StepOk pid w op := by
  have hw := invariant_reach h
  refine ⟨hw.tableOk, fun op hop => ?_⟩
  have hw' : Invariant (perform pid w op).1 := invariant_perform hw hop
  have hkept : ∀ h r, w.live h = some r → (∀ link, op ≠ .unregister h link) →
      (perform pid w op).1.live h = some r ∧ (perform pid w op).1.handles h = w.handles h ∧
        (¬ SetsLevels (w.handles h).logLevelPos op → (perform pid w op).1.context h = w.context h) := by
    intro h r hr hne
    obtain ⟨hlive, hhandle, hentry⟩ := @perform_kept pid w op h r hw hop hr hne
    exact ⟨hlive, hhandle, fun hsets => context_eq hw hw' hr hlive hhandle (hentry hsets)⟩
  refine ⟨hkept, ?_, ?_⟩
  · rintro h r env rfl hnone
    obtain ⟨hlive, hnum⟩ := perform_failed hw hop hnone
    refine ⟨hlive, hnum, fun h' r' hr' => ?_⟩
    exact (hkept h' r' hr' (fun _ heq => by cases heq)).2.2 not_false
  · rintro fd rfl happ hdetached hfd
    obtain ⟨hs, hnodup, hmem, hsent⟩ := @reRegisterAll_eq pid w fd hw happ hfd
    refine ⟨hs, hnodup, hmem, ?_⟩
    have happlication : dltUserLogSendRegisterApplication { w.user with dltLogHandle := fd } pid =
        dltUserLogSendRegisterApplication w.user pid := rfl
    rw [perform]
    unfold dltUserLogReattachToDaemon
    rw [if_neg (by omega), if_neg (by omega)]
    dsimp only
    rw [hsent, happlication]
    by_cases hnil : hs = []
    · subst hnil
      simp
    · rw [if_neg hnil, if_neg (by rwa [map_eq_nil_iff]), dltUserLogResendBuffer]
      dsimp only
      rw [if_neg (by rw [happ]; exact Bool.false_ne_true)]

/-! ## Samples -/

/-- An application behind the initialisation of the library; the daemon is away. -/
def sampleWorld : World where
  user := { appID := dltSetId (ascii "APP1")
            applicationDescription := none
            dltLogHandle := -1
            dltLlTs := none
            dltLlTsNumEntries := 0
            startupBuffer := [] }
  cells := fun _ => none
  handles := fun _ =>
    { contextID := dltSetId [], logLevelPos := 0, logLevelPtr := none, traceStatusPtr := none, mcnt := 0 }
  live := fun _ => none

def sampleRegister : RegisterContext where
  contextid := ascii "CTX1"
  description := some (ascii "text")
  loglevel := 4
  tracestatus := 0
  callback := none

def memoryFrom (n : ℕ) : RegisterEnv where
  table := true
  description := true
  logLevelPtr := some (n, 0)
  traceStatusPtr := some (n + 1, 0)
  envLogLevel := dltUserLogLevelNotSet
  link := { written := true, room := true }

theorem sampleWorld_initial : sampleWorld.Initial := ⟨rfl, rfl, rfl, fun _ => rfl, fun _ => rfl⟩

theorem memoryFrom_fresh {cells : Cells Int8} (h : cells n = none) (h' : cells (n + 1) = none) :
    (memoryFrom n).Fresh cells := by
  refine ⟨?_, ?_, ?_⟩
  · rintro m hm
    cases hm
    exact h
  · rintro m hm
    cases hm
    exact h'
  · rintro m m' hm hm'
    cases hm
    cases hm'
    exact Nat.ne_of_lt (Nat.lt_succ_self n)

theorem sampleRegister_allowed : Allowed sampleWorld (.register 0 sampleRegister (memoryFrom 0)) :=
  ⟨rfl, memoryFrom_fresh rfl rfl, by decide⟩

/-- Two contexts of the sample are in order, and a message for the level of one of them is. -/
theorem contextRun_ok_sample :
    let w := step 7 (step 7 sampleWorld (.register 0 sampleRegister (memoryFrom 0)))
      (.register 1 { sampleRegister with contextid := ascii "CTX2" } (memoryFrom 2))
    TableOk w ∧ StepOk 7 w (.logLevel { logLevel := 2, traceStatus := 1, logLevelPos := 0 }) := by
  intro w
  have hsecond : Allowed (step 7 sampleWorld (.register 0 sampleRegister (memoryFrom 0)))
      (.register 1 { sampleRegister with contextid := ascii "CTX2" } (memoryFrom 2)) :=
    ⟨rfl, memoryFrom_fresh rfl rfl, by decide⟩
  have hrun := @contextRun_ok 7 w (.step (.step (.start sampleWorld_initial) sampleRegister_allowed) hsecond)
  exact ⟨hrun.1, hrun.2 _ trivial⟩

/-! ## Where it ends -/

/-- A run that does not count the entries. -/
def AllowedUncounted (w : World) : Op → Prop
  | .register h _ env => w.live h = none ∧ env.Fresh w.cells
  | .unregister h _ => (w.live h).isSome
  | _ => True

theorem finite_ensureCell {cells cells' : Cells Int8} {ptr ptr' : Option ℕ} {malloc : Option (ℕ × Int8)}
    (h : cells.Finite) (hensure : ensureCell cells ptr malloc = some (cells', ptr')) : cells'.Finite := by
  cases ptr with
  | none =>
    rw [ensureCell, map_eq_some_iff] at hensure
    obtain ⟨m, -, heq⟩ := hensure
    cases heq
    exact h.write _ _
  | some p =>
    cases hensure
    exact h

theorem finite_fillEntry {w : World} (h : ℕ) (r : RegisterContext) (env : RegisterEnv) (hw : w.cells.Finite) :
    (fillEntry w h r env).1.cells.Finite := by
  unfold fillEntry
  dsimp only
  by_cases hdescription : r.description.isSome ∧ ¬ env.description
  · rw [if_pos hdescription]
    exact hw
  · rw [if_neg hdescription]
    split
    · exact hw
    · rename_i hll
      have hcells := finite_ensureCell hw hll
      split
      · exact hcells
      · rename_i hts
        exact ((finite_ensureCell hcells hts).write _ _).write _ _

theorem finite_register {w : World} (h : ℕ) (r : RegisterContext) (env : RegisterEnv) (hw : w.cells.Finite) :
    (dltRegisterContextLlTsLlccb pid w h r env).1.cells.Finite := by
  unfold dltRegisterContextLlTsLlccb
  by_cases hwrong : r.contextid.headD 0 = 0 ∨ outsideRange r.loglevel r.tracestatus
  · rw [if_pos hwrong]
    exact hw
  · rw [if_neg hwrong]
    dsimp only
    rcases expandTable w.user env.table with _ | entries
    · exact hw
    · dsimp only
      set w' : World := World.setTable { w with
        handles := update w.handles h { w.handles h with mcnt := 0 } } entries
      have hfinite := finite_fillEntry h r env (show w'.cells.Finite from hw)
      rcases hfill : fillEntry w' h r env with ⟨w'', log⟩
      rw [hfill] at hfinite
      cases log with
      | none => exact hfinite
      | some log => exact hfinite

theorem register_sample {w : World} {h : ℕ} (hw : Invariant w) (hfree : w.live h = none)
    (hn : ∀ p, n ≤ p → w.cells p = none) :
    Registers w (step 7 w (.register h sampleRegister (memoryFrom n))) h sampleRegister := by
  rcases (@register_cases 7 w h sampleRegister (memoryFrom n)
      hw hfree (memoryFrom_fresh (hn n (Nat.le_refl n)) (hn (n + 1) (Nat.le_succ n)))).1 with
    ⟨-, hlacks⟩ | hregisters
  · exact absurd ⟨by unfold RegisterContext.Valid; decide, rfl, fun _ => rfl, rfl, rfl⟩ hlacks
  · exact hregisters

theorem exists_run (hn : n ≤ 2147483648) : ∃ w, Reach World.Initial (step 7) Allowed w ∧
    w.user.dltLlTsNumEntries = n ∧ w.cells.Finite ∧ ∀ h, n ≤ h → w.live h = none := by
  induction n with
  | zero => exact ⟨sampleWorld, .start sampleWorld_initial, rfl, ⟨0, fun _ _ => rfl⟩, fun _ _ => rfl⟩
  | succ n ih =>
    obtain ⟨w, hreach, hnum, ⟨m, hm⟩, hlive⟩ := ih (Nat.le_of_succ_le hn)
    have hw := invariant_reach hreach
    have hregisters := register_sample hw (hlive n (Nat.le_refl n)) hm
    have hallowed : Allowed w (.register n sampleRegister (memoryFrom m)) :=
      ⟨hlive n (Nat.le_refl n), memoryFrom_fresh (hm m (Nat.le_refl m)) (hm _ (Nat.le_succ m)), by rw [hnum]; exact hn⟩
    refine ⟨step 7 w (.register n sampleRegister (memoryFrom m)), .step hreach hallowed, ?_,
      finite_register n sampleRegister (memoryFrom m) ⟨m, hm⟩, ?_⟩
    · rw [hregisters.numEntries, hnum]
    · intro h hh
      rw [hregisters.live, update_of_ne (Nat.ne_of_gt hh)]
      exact hlive h (Nat.le_of_succ_le hh)

/-- The message registers the context at a position. -/
def UserMessage.registersAt (pos : Int32) : UserMessage → Bool
  | .registerContext m _ => m.logLevelPos = pos
  | _ => false

/-- **A context that is registered while the daemon is away is registered twice when the application attaches again.
And the context behind 2147483648 other ones has a position that is not in the table.** -/
theorem contextRun_not_ok :
    (∃ w, Reach World.Initial (step 7) Allowed w ∧ (w.live 0).isSome ∧ w.user.appID.isEmpty = false ∧
      w.user.dltLogHandle < 0 ∧
      ((perform 7 w (.reattach 3)).2.filter (UserMessage.registersAt (w.handles 0).logLevelPos)).length = 2) ∧
    ∃ w, Reach World.Initial (step 7) AllowedUncounted w ∧ ¬ TableOk w := by
  constructor
  · refine ⟨step 7 sampleWorld (.register 0 sampleRegister (memoryFrom 0)),
      .step (.start sampleWorld_initial) sampleRegister_allowed, ?_, ?_, ?_, ?_⟩ <;> decide +kernel
  · obtain ⟨w, hreach, hnum, ⟨m, hm⟩, hlive⟩ := exists_run (Nat.le_refl 2147483648)
    have hw := invariant_reach hreach
    have hfree := hlive 2147483648 (Nat.le_refl _)
    have hregisters := register_sample hw hfree hm
    have huncounted : Reach World.Initial (step 7) AllowedUncounted w := by
      refine hreach.mono fun w op hop => ?_
      cases op with
      | register h r env => exact ⟨hop.1, hop.2.1⟩
      | _ => exact hop
    have hallowed : AllowedUncounted w (.register 2147483648 sampleRegister (memoryFrom m)) :=
      ⟨hfree, memoryFrom_fresh (hm m (Nat.le_refl m)) (hm _ (Nat.le_succ m))⟩
    refine ⟨step 7 w (.register 2147483648 sampleRegister (memoryFrom m)), .step huncounted hallowed, fun hok => ?_⟩
    have hself := hok.contexts 2147483648 _ (by rw [hregisters.live, update_self])
    have hnonneg := hself.nonneg
    rw [hregisters.position, hnum] at hnonneg
    revert hnonneg
    decide

end Dlt.Contexts
