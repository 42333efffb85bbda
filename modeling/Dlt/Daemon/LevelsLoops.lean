import Dlt.Daemon.LevelsTold

/-!
# The loops that send messages

* `TellOk.sendLevel`, `TellOk.sendAll`, `TellOk.sendDefault`, `TellOk.setApp` — the body of each loop is
  a `TellStep`.
* `TellOk.findMultiple`, `TellOk.setAppContexts`, `TellOk.sendAllUpdate`, `TellOk.sendDefaultUpdate` —
  the loops are `TellSteps`.
-/

namespace Dlt.Daemon

open Dlt.Lib Dlt.Shared List

variable {Buf : Type} {flags : LevelFlags} {s s' : LevelState Buf} {l i : ℕ}
  {users users' : DltDaemonRegisteredUsers} {c : DltDaemonContext}

/-! ## The bodies of the loops -/

theorem TellOk.of_daemon (h : TellOk s l users) (hdaemon : s'.daemon = s.daemon) : TellOk s' l users :=
  ⟨hdaemon ▸ h.own, h.storage, h.apart, h.application⟩

/-- An entry that was changed is restored, after all entries changed. -/
theorem modify_restore {α : Type*} {xs : List α} {x y : α} {f g : α → α} (hx : xs[i]? = some x)
    (hf : f (g y) = g x) : ((xs.set i y).map g).modify i f = (xs.set i x).map g := by
  have hlt := (List.getElem?_eq_some_iff.mp hx).1
  apply ext_getElem?
  intro j
  rw [getElem?_modify, getElem?_map, getElem?_map]
  rcases eq_or_ne i j with rfl | hij
  · rw [getElem?_set_self hlt, getElem?_set_self hlt]
    simp [hf]
  · rw [getElem?_set_ne hij, getElem?_set_ne hij]
    simp [hij]

theorem LevelField.set_restore (field : LevelField) (value handle : ℤ) (c : DltDaemonContext) :
    field.set (field.get c) (loseHandle handle (field.set value c)) = loseHandle handle c := by
  have hhandle : (field.set value c).userHandle = c.userHandle := by rw [valuesOnly_set]
  unfold loseHandle
  rw [hhandle]
  split_ifs
  · cases field <;> rfl
  · cases field <;> rfl

theorem LevelField.set_get (field : LevelField) (c : DltDaemonContext) :
    field.set (field.get c) c = c := by
  cases field <;> rfl

variable (flags) in
/-- **A single context** gets a value, or keeps the old one. -/
theorem TellOk.sendLevel (h : TellOk s l users) (field : LevelField) (i : ℕ) (value : ℤ)
    (write : WriteOutcome) :
    ∃ users', TellOk (sendLevel field flags s l i value write) l users' ∧
      TellStep s users i (sendLevel field flags s l i value write) users' := by
  unfold Daemon.sendLevel
  rw [h.context]
  cases hc : users.contexts[i]? with
  | none => exact ⟨users, h, .skip rfl rfl ⟨rfl, rfl, rfl⟩⟩
  | some c =>
    dsimp only
    have hrestored := (h.modifyContext i (valuesOnly_set field value)).modifyContext i
      (valuesOnly_set field (field.get c))
    by_cases hvalid : Valid c
    · obtain ⟨hok, mids, htell, hmids, hsends⟩ :=
        h.sendsAt flags hc hvalid (valuesOnly_set field value) write
      have hframe := valuesOnly_set field value c
      rw [hok]
      by_cases hwrite : write = .ok
      · rw [if_pos (decide_eq_true hwrite)]
        refine ⟨mids, htell.of_daemon rfl, .sends (hsends (field.set value c) _ mids hframe ?_ ?_ hmids
          rfl ⟨rfl, rfl, rfl⟩)⟩
        · exact fun hne => absurd hwrite hne
        · exact fun _ => rfl
      · rw [if_neg (by simpa using hwrite)]
        refine ⟨mids.modifyContext i (field.set (field.get c)),
          (htell.modifyContext i (valuesOnly_set field (field.get c))).of_daemon rfl,
          .sends (hsends c _ _ rfl (fun _ => rfl) (fun heq => absurd heq hwrite) ?_ rfl
            ⟨rfl, rfl, rfl⟩)⟩
        show mids.contexts.modify i _ = _
        rw [hmids]
        exact modify_restore hc (field.set_restore value _ c)
    · have hset : (users.modifyContext i (field.set value)).contexts[i]? = some (field.set value c) := by
        show (users.contexts.modify i _)[i]? = _
        rw [getElem?_modify_eq, hc]
        rfl
      have hinvalid : ¬ (field.set value c).userHandle ≥ dltFdMinimum := by
        rw [valuesOnly_set]
        exact hvalid
      have hsend : sendIfValid flags (s.modifyContext l i (field.set value)) l i write =
          (s.modifyContext l i (field.set value), false) := by
        unfold sendIfValid
        rw [(h.modifyContext i (valuesOnly_set field value)).context, hset]
        exact if_neg hinvalid
      rw [hsend]
      refine ⟨_, hrestored.of_daemon rfl, .skip ?_ rfl ⟨rfl, rfl, rfl⟩⟩
      show (users.contexts.modify i _).modify i _ = _
      apply ext_getElem?
      intro j
      rw [getElem?_modify, getElem?_modify]
      rcases eq_or_ne i j with rfl | hij
      · rw [hc]
        cases field <;> simp [LevelField.set, LevelField.get]
      · simp [hij]

theorem LevelState.modifyContext_id (s : LevelState Buf) (l i : ℕ) : s.modifyContext l i id = s := by
  have hcontext : (fun users : DltDaemonRegisteredUsers => users.modifyContext i id) = id := by
    funext users
    unfold DltDaemonRegisteredUsers.modifyContext
    rw [modify_id]
    rfl
  unfold LevelState.modifyContext DltDaemon.modifyUsers
  rw [hcontext, modify_id]

/-- At other positions, contexts with a valid handle are as they were. -/
theorem TellStep.getElem?_ne {j : ℕ} {c' : DltDaemonContext} (hstep : TellStep s users i s' users')
    (hji : j ≠ i) (hc' : users'.contexts[j]? = some c') (hvalid : Valid c') :
    users.contexts[j]? = some c' := by
  cases hstep with
  | skip hcontexts _ _ => rwa [← hcontexts]
  | store hc _ _ _ hcontexts _ _ => rwa [hcontexts, getElem?_set_ne hji.symm] at hc'
  | sends hsends =>
    rcases getElem?_sends hsends hc' hvalid with ⟨heq, -⟩ | ⟨-, hold⟩
    · exact absurd heq hji
    · exact hold

variable (flags) in
/-- A context with a valid handle gets a value. If the message cannot be written, it has to be the value
that it has. -/
theorem TellOk.sendAll (h : TellOk s l users) (hc : users.contexts[i]? = some c) (hvalid : Valid c)
    (field : LevelField) (value : ℤ) (write : WriteOutcome)
    (hfailed : write ≠ .ok → field.get c = value) :
    let sent := sendIfValid flags (s.modifyContext l i (field.set value)) l i write
    ∃ users', TellOk sent.1 l users' ∧ TellStep s users i sent.1 users' := by
  obtain ⟨-, mids, htell, hmids, hsends⟩ :=
    h.sendsAt flags hc hvalid (valuesOnly_set field value) write
  refine ⟨mids, htell, .sends (hsends (field.set value c) _ mids (valuesOnly_set field value c) ?_
    (fun _ => rfl) hmids rfl ⟨rfl, rfl, rfl⟩)⟩
  intro hne
  rw [← hfailed hne, field.set_get]

variable (flags) in
theorem TellOk.sendDefault (h : TellOk s l users) (hc : users.contexts[i]? = some c) (hvalid : Valid c)
    (write : WriteOutcome) :
    ∃ users', TellOk (sendIfValid flags s l i write).1 l users' ∧
      Sends s (sendIfValid flags s l i write).1 users users' i write c c := by
  obtain ⟨-, mids, htell, hmids, hsends⟩ := h.sendsAt flags hc hvalid (f := id) (fun _ => rfl) write
  rw [LevelState.modifyContext_id] at htell hsends
  exact ⟨mids, htell, hsends c _ mids rfl (fun _ => rfl) (fun _ => rfl) hmids rfl ⟨rfl, rfl, rfl⟩⟩

variable (flags) in
/-- A context of an application gets both values, or keeps the old ones. -/
theorem TellOk.setApp (h : TellOk s l users) (hc : users.contexts[i]? = some c)
    (logLevel traceStatus : ℤ) (write : WriteOutcome) :
    let stored := s.modifyContext l i fun context => { context with logLevel, traceStatus }
    let sent := sendIfValid flags stored l i write
    let s' := if c.userHandle ≥ dltFdMinimum then
      (if sent.2 then sent.1
      else sent.1.modifyContext l i fun c' => { c' with
        logLevel := c.logLevel, traceStatus := c.traceStatus }) else stored
    ∃ users', TellOk s' l users' ∧ TellStep s users i s' users' := by
  intro stored sent s'
  have hboth : ValuesOnly fun context : DltDaemonContext => { context with logLevel, traceStatus } :=
    fun _ => rfl
  have hstored : TellOk stored l _ := h.modifyContext i hboth
  by_cases hvalid : Valid c
  · obtain ⟨hok, mids, htell, hmids, hsends⟩ := h.sendsAt flags hc hvalid hboth write
    by_cases hwrite : write = .ok
    · have hs' : s' = sent.1 := by
        simp only [s', if_pos (show c.userHandle ≥ dltFdMinimum from hvalid)]
        exact if_pos (hok.trans (decide_eq_true hwrite))
      rw [hs']
      exact ⟨mids, htell, .sends (hsends _ _ mids rfl (fun hne => absurd hwrite hne) (fun _ => rfl) hmids
        rfl ⟨rfl, rfl, rfl⟩)⟩
    · have hs' : s' = sent.1.modifyContext l i fun c' => { c' with
          logLevel := c.logLevel, traceStatus := c.traceStatus } := by
        simp only [s', if_pos (show c.userHandle ≥ dltFdMinimum from hvalid)]
        refine if_neg ?_
        rw [hok]
        simpa using hwrite
      rw [hs']
      refine ⟨_, htell.modifyContext i fun _ => rfl,
        .sends (hsends c _ _ rfl (fun _ => rfl) (fun heq => absurd heq hwrite) ?_ rfl ⟨rfl, rfl, rfl⟩)⟩
      show mids.contexts.modify i _ = _
      rw [hmids]
      apply modify_restore hc
      unfold loseHandle
      dsimp only
      split_ifs <;> rfl
  · have hs' : s' = stored := if_neg hvalid
    rw [hs']
    refine ⟨_, hstored, .store (d := { c with logLevel, traceStatus }) hc hvalid hvalid rfl ?_ rfl
      ⟨rfl, rfl, rfl⟩⟩
    show users.contexts.modify i _ = _
    rw [modify_eq_set_getElem?, hc]
    rfl

/-! ## The loops -/

theorem TellSteps.skip (h : TellOk s l users) (counts : List ℕ) : TellSteps l s users counts s users := by
  induction counts with
  | nil => exact .nil h
  | cons count counts ih => exact .cons h (.skip rfl rfl ⟨rfl, rfl, rfl⟩) ih

variable (flags) in
theorem TellOk.findMultiple (h : TellOk s l users) (field : LevelField) (appFlag : Bool)
    (str : List UInt8) (len : ℕ) (value : ℤ) (writes : ℕ → WriteOutcome) (counts : List ℕ) :
    ∃ users', TellSteps l s users counts
      (findMultiple field flags l appFlag str len value writes s counts) users' := by
  induction counts generalizing s users with
  | nil => exact ⟨users, .nil h⟩
  | cons count counts ih =>
    unfold Daemon.findMultiple
    rw [h.context]
    split
    · obtain ⟨users', hsteps⟩ := ih h
      exact ⟨users', .cons h (.skip rfl rfl ⟨rfl, rfl, rfl⟩) hsteps⟩
    · dsimp only
      generalize i8 (strncmp _ str len) = ret
      split_ifs
      · obtain ⟨mids, hmid, hstep⟩ := h.sendLevel flags field count value (writes count)
        obtain ⟨users', hsteps⟩ := ih hmid
        exact ⟨users', .cons h hstep hsteps⟩
      · exact ⟨users, .skip h (count :: counts)⟩
      · obtain ⟨users', hsteps⟩ := ih h
        exact ⟨users', .cons h (.skip rfl rfl ⟨rfl, rfl, rfl⟩) hsteps⟩

variable (flags) in
theorem TellOk.setAppContexts (h : TellOk s l users) (logLevel traceStatus : ℤ)
    (writes : ℕ → WriteOutcome) (counts : List ℕ) :
    ∃ users', TellSteps l s users counts
      (setAppContexts flags l logLevel traceStatus writes s counts) users' := by
  induction counts generalizing s users with
  | nil => exact ⟨users, .nil h⟩
  | cons count counts ih =>
    unfold Daemon.setAppContexts
    rw [h.context]
    split
    · obtain ⟨users', hsteps⟩ := ih h
      exact ⟨users', .cons h (.skip rfl rfl ⟨rfl, rfl, rfl⟩) hsteps⟩
    · rename_i c hc
      obtain ⟨mids, hmid, hstep⟩ := h.setApp flags hc logLevel traceStatus (writes count)
      dsimp only
      split_ifs at hmid hstep ⊢ with hvalid
      · obtain ⟨users', hsteps⟩ := ih hmid
        exact ⟨users', .cons h hstep hsteps⟩
      · obtain ⟨users', hsteps⟩ := ih hmid
        exact ⟨users', .cons h hstep hsteps⟩
      · obtain ⟨users', hsteps⟩ := ih hmid
        exact ⟨users', .cons h hstep hsteps⟩

variable (flags) in
/-- All contexts. Where a message cannot be written, the context has to have the value. -/
theorem TellOk.sendAllUpdate (h : TellOk s l users) (field : LevelField) (value : ℤ)
    (writes : ℕ → WriteOutcome) {counts : List ℕ} (hnodup : counts.Nodup)
    (hfailed : ∀ i ∈ counts, ∀ c, users.contexts[i]? = some c → Valid c → writes i ≠ .ok →
      field.get c = value) :
    ∃ users', TellSteps l s users counts (sendAllUpdate field flags l value writes s counts) users' := by
  induction counts generalizing s users with
  | nil => exact ⟨users, .nil h⟩
  | cons count counts ih =>
    obtain ⟨hcount, hcounts⟩ := nodup_cons.mp hnodup
    have hrest : ∀ i ∈ counts, ∀ c, users.contexts[i]? = some c → Valid c → writes i ≠ .ok →
        field.get c = value := fun i hi => hfailed i (mem_cons_of_mem count hi)
    unfold Daemon.sendAllUpdate
    rw [h.context]
    split
    · obtain ⟨users', hsteps⟩ := ih h hcounts hrest
      exact ⟨users', .cons h (.skip rfl rfl ⟨rfl, rfl, rfl⟩) hsteps⟩
    · rename_i c hc
      split_ifs with hvalid
      · obtain ⟨mids, hmid, hstep⟩ := h.sendAll flags hc hvalid field value (writes count)
          (hfailed count mem_cons_self c hc hvalid)
        obtain ⟨users', hsteps⟩ := ih hmid hcounts fun i hi c' hc' hvalid' hne => by
          have hi' : i ≠ count := fun heq => hcount (heq ▸ hi)
          exact hrest i hi c' (hstep.getElem?_ne hi' hc' hvalid') hvalid' hne
        exact ⟨users', .cons h hstep hsteps⟩
      · obtain ⟨users', hsteps⟩ := ih h hcounts hrest
        exact ⟨users', .cons h (.skip rfl rfl ⟨rfl, rfl, rfl⟩) hsteps⟩

/-- The context has a default value. -/
def HasDefault (c : DltDaemonContext) : Prop :=
  c.logLevel = dltLogDefault ∨ c.traceStatus = dltTraceStatusDefault

variable (flags) in
/-- The contexts with default values. They are told, and the agreement holds where it did, and where the
message is written or the handle is lost. -/
theorem TellOk.sendDefaultUpdate (h : TellOk s l users) (writes : ℕ → WriteOutcome)
    {counts : List ℕ} (hnodup : counts.Nodup) :
    ∃ users', TellSteps l s users counts (sendDefaultUpdate flags l writes s counts) users' ∧
      ∀ j ∈ counts, (∀ c, users.contexts[j]? = some c → Valid c →
        HasDefault c ∧ writes j ≠ .error ∨ Agrees s c) →
        AgreesAt (sendDefaultUpdate flags l writes s counts) users' j := by
  induction counts generalizing s users with
  | nil => exact ⟨users, .nil h, fun j hj => absurd hj not_mem_nil⟩
  | cons count counts ih =>
    obtain ⟨hcount, hcounts⟩ := nodup_cons.mp hnodup
    have hskip : ∀ users', TellSteps l s users counts (sendDefaultUpdate flags l writes s counts) users' →
        TellSteps l s users (count :: counts) (sendDefaultUpdate flags l writes s counts) users' :=
      fun users' hsteps => .cons h (.skip rfl rfl ⟨rfl, rfl, rfl⟩) hsteps
    -- the positions behind this one, after it
    have hbehind : ∀ {mid : LevelState Buf} {mids : DltDaemonRegisteredUsers},
        TellStep s users count mid mids → ∀ j ∈ counts,
        (∀ c, users.contexts[j]? = some c → Valid c →
          HasDefault c ∧ writes j ≠ .error ∨ Agrees s c) →
        ∀ c, mids.contexts[j]? = some c → Valid c →
          HasDefault c ∧ writes j ≠ .error ∨ Agrees mid c := by
      intro mid mids hstep j hj hready c hc hvalid
      have hne : j ≠ count := fun heq => hcount (heq ▸ hj)
      have hold := hstep.getElem?_ne hne hc hvalid
      rcases hready c hold hvalid with hdefault | hagrees
      · exact .inl hdefault
      · refine .inr (hstep.agrees_ne h hne (fun c' hc' _ => ?_) c hc hvalid)
        rw [hold, Option.some.injEq] at hc'
        exact hc' ▸ hagrees
    unfold Daemon.sendDefaultUpdate
    rw [h.context]
    split
    · rename_i hnone
      obtain ⟨users', hsteps, hall⟩ := ih h hcounts
      refine ⟨users', hskip users' hsteps, fun j hj hready => ?_⟩
      rcases mem_cons.mp hj with rfl | hj
      · refine hsteps.agrees fun c hc _ => ?_
        rw [hnone] at hc
        exact absurd hc nofun
      · exact hall j hj hready
    · rename_i c hc
      split_ifs with hdefault
      · by_cases hvalid : Valid c
        · obtain ⟨mids, hmid, hsends⟩ := h.sendDefault flags hc hvalid (writes count)
          obtain ⟨users', hsteps, hall⟩ := ih hmid hcounts
          refine ⟨users', .cons h (.sends hsends) hsteps, fun j hj hready => ?_⟩
          rcases mem_cons.mp hj with rfl | hj
          · refine hsteps.agrees ?_
            rcases hready c hc hvalid with hwrite | hagrees
            · exact TellStep.agrees_sends hsends hwrite.2
            · refine (TellStep.sends hsends).agrees h fun c' hc' _ => ?_
              rw [hc, Option.some.injEq] at hc'
              exact hc' ▸ hagrees
          · exact hall j hj (hbehind (.sends hsends) j hj hready)
        · have hsend : (sendIfValid flags s l count (writes count)).1 = s := by
            unfold sendIfValid
            rw [h.context, hc]
            exact congrArg Prod.fst (if_neg hvalid)
          rw [hsend]
          obtain ⟨users', hsteps, hall⟩ := ih h hcounts
          refine ⟨users', hskip users' hsteps, fun j hj hready => ?_⟩
          rcases mem_cons.mp hj with rfl | hj
          · refine hsteps.agrees fun c' hc' hvalid' => ?_
            rw [hc, Option.some.injEq] at hc'
            exact absurd (hc' ▸ hvalid') hvalid
          · exact hall j hj hready
      · obtain ⟨users', hsteps, hall⟩ := ih h hcounts
        refine ⟨users', hskip users' hsteps, fun j hj hready => ?_⟩
        rcases mem_cons.mp hj with rfl | hj
        · refine hsteps.agrees fun c' hc' hvalid' => ?_
          rcases hready c' hc' hvalid' with hwrite | hagrees
          · rw [hc, Option.some.injEq] at hc'
            exact absurd (hc' ▸ hwrite.1) hdefault
          · exact hagrees
        · exact hall j hj hready

end Dlt.Daemon
