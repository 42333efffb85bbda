import Dlt.Contexts.ContextTable

/-!
# What keeps the table of the contexts in order

* `invariant_setAllLevels`, `invariant_unregister`, `fillEntry_cases` — what the functions do to it.
-/

namespace Dlt.Contexts

open Dlt.Lib Dlt.Shared List Option

/-! ## The table by place -/

/-- The two values of an entry. -/
inductive Kind
  | logLevel
  | traceStatus
deriving DecidableEq

def DltLlTs.value (e : DltLlTs) : Kind → Int8
  | .logLevel => e.logLevel
  | .traceStatus => e.traceStatus

/-- The pointer of an entry. -/
def DltLlTs.ptr (e : DltLlTs) : Kind → Option ℕ
  | .logLevel => e.logLevelPtr
  | .traceStatus => e.traceStatusPtr

/-- The pointer at a place of the table. -/
def ptrAt (entries : List DltLlTs) (x : ℕ × Kind) : Option ℕ := entries[x.1]?.bind (·.ptr x.2)

/-- The value at a place of the table. -/
def valueAt (entries : List DltLlTs) (x : ℕ × Kind) : Option Int8 := entries[x.1]?.map (·.value x.2)

/-- The table is mirrored in the cells, at the entries of `on`. -/
def Mirrored (cells : Cells Int8) (entries : List DltLlTs) (on : ℕ → Prop) : Prop :=
  Mirror cells (ptrAt entries) (valueAt entries) fun x => on x.1

variable {i : ℕ}

section

variable {entries : List DltLlTs}

theorem ptrAt_eq {e : DltLlTs} (h : entries[i]? = some e) (k : Kind) :
    ptrAt entries (i, k) = e.ptr k := by
  simp [ptrAt, h]

theorem getElem?_set_other {i j : ℕ} (e : DltLlTs) (h : j ≠ i) :
    (entries.set i e)[j]? = entries[j]? :=
  getElem?_set_ne (Ne.symm h)

theorem ptrAt_set_other (e : DltLlTs) {x : ℕ × Kind} (h : x.1 ≠ i) :
    ptrAt (entries.set i e) x = ptrAt entries x := by
  rw [ptrAt, ptrAt, getElem?_set_other e h]

theorem valueAt_set_other (e : DltLlTs) {x : ℕ × Kind} (h : x.1 ≠ i) :
    valueAt (entries.set i e) x = valueAt entries x := by
  rw [valueAt, valueAt, getElem?_set_other e h]

theorem lt_of_getElem? {e : DltLlTs} (h : entries[i]? = some e) :
    i < entries.length := (List.getElem?_eq_some_iff.mp h).1

theorem getElem?_set_here (e : DltLlTs) (h : i < entries.length) :
    (entries.set i e)[i]? = some e :=
  getElem?_set_self h

end

namespace Mirrored

variable {cells : Cells Int8} {entries : List DltLlTs} {on on' : ℕ → Prop} {i : ℕ} {e e' : DltLlTs}

section

variable (h : Mirrored cells entries on)
include h

section

variable (he : entries[i]? = some e)
include he

/-- The values of an entry are written into the table and through its pointers. -/
theorem store (hptr : ∀ k, e'.ptr k = e.ptr k) (hon : ∀ j, on' j → on j ∨ j = i) :
    Mirrored ((cells.write e'.logLevelPtr e'.logLevel).write e'.traceStatusPtr e'.traceStatus)
      (entries.set i e') on' := by
  have hhere := getElem?_set_here e' (lt_of_getElem? he)
  have hptrs : ptrAt (entries.set i e') = ptrAt entries := by
    funext ⟨j, k⟩
    by_cases hj : j = i
    · subst hj
      rw [ptrAt_eq hhere, ptrAt_eq he, hptr]
    · exact ptrAt_set_other e' hj
  have hll : ptrAt entries (i, .logLevel) = e'.logLevelPtr := (ptrAt_eq he _).trans (hptr .logLevel).symm
  have hts : ptrAt entries (i, .traceStatus) = e'.traceStatusPtr := (ptrAt_eq he _).trans (hptr .traceStatus).symm
  have hfirst : Mirror (cells.write (ptrAt entries (i, .logLevel)) e'.logLevel) (ptrAt entries)
      (Function.update (valueAt entries) (i, .logLevel) (some e'.logLevel))
      (fun x => on x.1 ∨ x = (i, .logLevel)) :=
    Mirror.store h (i, .logLevel) e'.logLevel (fun x hx => Function.update_of_ne hx _ _)
      (Function.update_self _ _ _) (fun _ hx => hx)
  rw [Mirrored, hptrs, ← hll, ← hts]
  refine hfirst.store (i, .traceStatus) e'.traceStatus ?_ ?_ ?_
  · rintro ⟨j, k⟩ hx
    by_cases hj : j = i
    · subst hj
      cases k with
      | logLevel => simp [valueAt, hhere, DltLlTs.value]
      | traceStatus => exact absurd rfl hx
    · rw [valueAt_set_other e' hj, Function.update_of_ne (fun hne => hj (congrArg Prod.fst hne))]
  · simp [valueAt, hhere, DltLlTs.value]
  · rintro ⟨j, k⟩ hx
    rcases hon j hx with hold | rfl
    · exact .inl (.inl hold)
    · cases k with
      | logLevel => exact .inl (.inr rfl)
      | traceStatus => exact .inr rfl

theorem set (hptr : ∀ k, e'.ptr k = e.ptr k) (hon : ¬ on i) : Mirrored cells (entries.set i e') on := by
  have hhere := getElem?_set_here e' (lt_of_getElem? he)
  refine Mirror.restrict h ?_ ?_
  · rintro ⟨j, k⟩ p hp
    by_cases hj : j = i
    · subst hj
      rw [ptrAt_eq hhere, hptr] at hp
      rw [ptrAt_eq he, hp]
    · rwa [ptrAt_set_other e' hj] at hp
  · rintro ⟨j, k⟩ p hj _
    have hne : j ≠ i := by
      rintro rfl
      exact hon hj
    exact ⟨hj, valueAt_set_other e' hne⟩

theorem alloc {k : Kind} {p : ℕ} (g : Int8) (hp : cells p = none) (hk : e'.ptr k = some p)
    (hptr : ∀ k', k' ≠ k → e'.ptr k' = e.ptr k') (hon : ¬ on i) :
    Mirrored (cells.write (some p) g) (entries.set i e') on := by
  have hhere := getElem?_set_here e' (lt_of_getElem? he)
  have halloc : Mirror (cells.write (some p) g) (ptrAt (entries.set i e')) (valueAt entries) fun x => on x.1 := by
    refine Mirror.alloc h g hp hon ((ptrAt_eq hhere k).trans hk) ?_
    rintro ⟨j, k'⟩ hx
    by_cases hj : j = i
    · subst hj
      have hne : k' ≠ k := by
        rintro rfl
        exact hx rfl
      rw [ptrAt_eq hhere, ptrAt_eq he, hptr k' hne]
    · exact ptrAt_set_other e' hj
  refine Mirror.restrict halloc (fun _ _ hx => hx) ?_
  rintro ⟨j, k'⟩ q hj _
  have hne : j ≠ i := by
    rintro rfl
    exact hon hj
  exact ⟨hj, valueAt_set_other e' hne⟩

theorem free (hptr : ∀ k, e'.ptr k = none) :
    Mirrored ((cells.free e.logLevelPtr).free e.traceStatusPtr) (entries.set i e') on := by
  have hhere := getElem?_set_here e' (lt_of_getElem? he)
  have hll : ptrAt entries (i, .logLevel) = e.logLevelPtr := ptrAt_eq he _
  have hts : ptrAt entries (i, .traceStatus) = e.traceStatusPtr := ptrAt_eq he _
  have hfirst : Mirror (cells.free (ptrAt entries (i, .logLevel)))
      (Function.update (ptrAt entries) (i, .logLevel) none) (valueAt entries) fun x => on x.1 :=
    Mirror.free h (i, .logLevel) (Function.update_self _ _ _) (fun x hx => Function.update_of_ne hx _ _)
      (fun _ _ => rfl)
  have hsecond : Mirror _ (Function.update (Function.update (ptrAt entries) (i, .logLevel) none)
      (i, .traceStatus) none) (valueAt entries) fun x => on x.1 :=
    hfirst.free (i, .traceStatus) (Function.update_self _ _ _) (fun x hx => Function.update_of_ne hx _ _)
      (fun _ _ => rfl)
  rw [Function.update_of_ne (by simp), hll, hts] at hsecond
  have hnone : ∀ k, ptrAt (entries.set i e') (i, k) = none := fun k => (ptrAt_eq hhere k).trans (hptr k)
  refine Mirror.restrict hsecond ?_ ?_
  · rintro ⟨j, k⟩ p hp
    by_cases hj : j = i
    · subst hj
      rw [hnone] at hp
      cases hp
    · rw [Function.update_of_ne (by simp [hj]), Function.update_of_ne (by simp [hj])]
      rwa [ptrAt_set_other e' hj] at hp
  · rintro ⟨j, k⟩ p hj hp
    have hne : j ≠ i := by
      rintro rfl
      rw [hnone] at hp
      cases hp
    exact ⟨hj, valueAt_set_other e' hne⟩

end

end

end Mirrored

/-! ## Positions -/

theorem toInt_position (h : i < 2147483648) : (Int32.ofNat i).toInt = i :=
  Int32.toInt_ofNat_of_lt h

theorem entryIndex_position (h : i < 2147483648) : entryIndex (Int32.ofNat i) = some i := by
  rw [entryIndex, toInt_position h, if_pos (Int.natCast_nonneg i), Int.toNat_natCast]

theorem position_injective {i j : ℕ} (hi : i < 2147483648) (hj : j < 2147483648)
    (h : Int32.ofNat i = Int32.ofNat j) : i = j := by
  have hint := congrArg Int32.toInt h
  rw [toInt_position hi, toInt_position hj] at hint
  exact Int.ofNat_inj.mp hint

/-! ## The invariant -/

/-- What identifies the context of an entry: its id, its description and its cells. -/
def DltLlTs.identity (e : DltLlTs) : Id4 × Option (List UInt8) × Option ℕ × Option ℕ :=
  (e.contextID, e.contextDescription, e.logLevelPtr, e.traceStatusPtr)

/-- The identity of the context at an index. -/
def identityAt (entries : List DltLlTs) (i : ℕ) : Option (Id4 × Option (List UInt8) × Option ℕ × Option ℕ) :=
  entries[i]?.map DltLlTs.identity

/-- A live handle is bound to the entry at an index. -/
structure Bound (w : World) (h : ℕ) (r : Registration) (i : ℕ) : Prop where
  position : (w.handles h).logLevelPos = Int32.ofNat i
  lt : i < w.user.dltLlTsNumEntries
  identity : identityAt w.table i = some (dltSetId r.contextid, r.description, (w.handles h).logLevelPtr,
    (w.handles h).traceStatusPtr)
  contextID : (w.handles h).contextID = dltSetId r.contextid
  named : (dltSetId r.contextid).isEmpty = false
  logLevelPtr : ((w.handles h).logLevelPtr).isSome
  traceStatusPtr : ((w.handles h).traceStatusPtr).isSome

/-- What holds between the operations. -/
structure Invariant (w : World) : Prop where
  /-- The table grows in steps. -/
  sized : w.table.length % dltUserContextAllocSize = 0
  /-- It has room for the entries that were used. -/
  le : w.user.dltLlTsNumEntries ≤ w.table.length
  /-- A position has 32 bits and a sign. -/
  small : w.user.dltLlTsNumEntries ≤ 2147483648
  /-- The levels of the used entries are in their cells. -/
  mirror : Mirrored w.cells w.table fun i => i < w.user.dltLlTsNumEntries
  /-- Every live handle has an entry. -/
  bound : ∀ h r, w.live h = some r → ∃ i, Bound w h r i
  /-- No two live handles have the same position. -/
  apart : ∀ h h' r r', w.live h = some r → w.live h' = some r' →
    (w.handles h).logLevelPos = (w.handles h').logLevelPos → h = h'
  /-- Every used entry with a context id has a live handle. -/
  owned : ∀ i x, i < w.user.dltLlTsNumEntries → identityAt w.table i = some x → x.1.isEmpty = false →
    ∃ h r, w.live h = some r ∧ (w.handles h).logLevelPos = Int32.ofNat i

variable {w : World}

theorem invariant_initial (h : w.Initial) : Invariant w := by
  have htable : w.table = [] := by rw [World.table, h.table, getD_none]
  refine ⟨?_, ?_, ?_, ?_, ?_, ?_, ?_⟩
  · rw [htable]
    rfl
  · rw [h.numEntries]
    exact Nat.zero_le _
  · rw [h.numEntries]
    exact Nat.zero_le _
  · rw [htable]
    refine ⟨?_, ?_, ?_⟩ <;> simp [ptrAt]
  · intro i r hr
    rw [h.live] at hr
    cases hr
  · intro i j r r' hr
    rw [h.live] at hr
    cases hr
  · intro i x hi
    rw [h.numEntries] at hi
    exact absurd hi (Nat.not_lt_zero i)

section

variable {w w' : World} (hw : Invariant w) (hlive : w'.live = w.live)
  (hhandles : ∀ h r, w.live h = some r → w'.handles h = w.handles h)
  (hnum : w'.user.dltLlTsNumEntries = w.user.dltLlTsNumEntries)
include hw hlive hhandles hnum

/-- **What leaves the live handles and the identity of the used entries alone keeps the table in order.** -/
theorem Invariant.frame (hsized : w'.table.length % dltUserContextAllocSize = 0)
    (hle : w.user.dltLlTsNumEntries ≤ w'.table.length)
    (hid : ∀ i, i < w.user.dltLlTsNumEntries → identityAt w'.table i = identityAt w.table i)
    (hmirror : Mirrored w'.cells w'.table fun i => i < w.user.dltLlTsNumEntries) : Invariant w' := by
  refine ⟨hsized, ?_, ?_, ?_, ?_, ?_, ?_⟩
  · rw [hnum]
    exact hle
  · rw [hnum]
    exact hw.small
  · rw [hnum]
    exact hmirror
  · intro h r hr
    rw [hlive] at hr
    obtain ⟨i, hb⟩ := hw.bound h r hr
    have hh := hhandles h r hr
    refine ⟨i, ?_, ?_, ?_, ?_, hb.named, ?_, ?_⟩
    · rw [hh]
      exact hb.position
    · rw [hnum]
      exact hb.lt
    · rw [hid i hb.lt, hh]
      exact hb.identity
    · rw [hh]
      exact hb.contextID
    · rw [hh]
      exact hb.logLevelPtr
    · rw [hh]
      exact hb.traceStatusPtr
  · intro h h' r r' hr hr' hpos
    rw [hlive] at hr hr'
    rw [hhandles h r hr, hhandles h' r' hr'] at hpos
    exact hw.apart h h' r r' hr hr' hpos
  · intro i x hi hx hnamed
    rw [hnum] at hi
    rw [hid i hi] at hx
    obtain ⟨h, r, hr, hpos⟩ := hw.owned i x hi hx hnamed
    refine ⟨h, r, ?_, ?_⟩
    · rw [hlive]
      exact hr
    · rw [hhandles h r hr]
      exact hpos

/-- What does not touch the table, the cells and the handles keeps it in order. -/
theorem Invariant.congr (htable : w'.user.dltLlTs = w.user.dltLlTs) (hcells : w'.cells = w.cells) : Invariant w' := by
  have h : w'.table = w.table := by rw [World.table, World.table, htable]
  refine hw.frame hlive hhandles hnum ?_ ?_ ?_ ?_
  · rw [h]
    exact hw.sized
  · rw [h]
    exact hw.le
  · intro i _
    rw [h]
  · rw [h, hcells]
    exact hw.mirror

end

/-! ## Levels -/

/-- Setting the levels of an entry changes the table and the cells only. -/
theorem setLevels_frame (w : World) (i : ℕ) (ll ts : Int8) :
    (setLevels w i ll ts).live = w.live ∧ (setLevels w i ll ts).handles = w.handles ∧
      (setLevels w i ll ts).user.dltLlTsNumEntries = w.user.dltLlTsNumEntries := by
  unfold setLevels
  split
  · exact ⟨rfl, rfl, rfl⟩
  · exact ⟨rfl, rfl, rfl⟩

theorem setLevels_of_some {e : DltLlTs} (ll ts : Int8) (he : w.table[i]? = some e) :
    (setLevels w i ll ts).table = w.table.set i { e with logLevel := ll, traceStatus := ts } ∧
      (setLevels w i ll ts).cells = (w.cells.write e.logLevelPtr ll).write e.traceStatusPtr ts := by
  unfold setLevels
  rw [he]
  exact ⟨rfl, rfl⟩

theorem setLevels_other (w : World) {i j : ℕ} (ll ts : Int8) (h : j ≠ i) :
    (setLevels w i ll ts).table[j]? = w.table[j]? := by
  rcases he : w.table[i]? with _ | e
  · unfold setLevels
    rw [he]
  · rw [(setLevels_of_some ll ts he).1]
    exact getElem?_set_other _ h

theorem invariant_setLevels (hw : Invariant w) (i : ℕ) (ll ts : Int8) :
    Invariant (setLevels w i ll ts) := by
  obtain ⟨hlive, hhandles, hnum⟩ := setLevels_frame w i ll ts
  rcases he : w.table[i]? with _ | e
  · unfold setLevels
    rw [he]
    exact hw
  · obtain ⟨htable, hcells⟩ := setLevels_of_some ll ts he
    have hi := lt_of_getElem? he
    refine hw.frame hlive (fun h _ _ => by rw [hhandles]) hnum ?_ ?_ ?_ ?_
    · rw [htable, length_set]
      exact hw.sized
    · rw [htable, length_set]
      exact hw.le
    · intro j _
      by_cases hj : j = i
      · subst hj
        rw [htable, identityAt, identityAt, getElem?_set_here _ hi, he]
        rfl
      · rw [identityAt, identityAt, setLevels_other w ll ts hj]
    · rw [htable, hcells]
      exact @Mirrored.store w.cells w.table _ _ i e { e with logLevel := ll, traceStatus := ts } hw.mirror he
        (fun k => by cases k <;> rfl) (fun _ hj => .inl hj)

theorem invariant_setAllLevels (hw : Invariant w) (ll ts : Int8) (n : ℕ) :
    Invariant (setAllLevels w ll ts n) := by
  induction n with
  | zero => exact hw
  | succ n ih => exact invariant_setLevels ih n ll ts

theorem setAllLevels_frame (w : World) (ll ts : Int8) (n : ℕ) :
    (setAllLevels w ll ts n).live = w.live ∧ (setAllLevels w ll ts n).handles = w.handles ∧
      (setAllLevels w ll ts n).user.dltLlTsNumEntries = w.user.dltLlTsNumEntries := by
  induction n with
  | zero => exact ⟨rfl, rfl, rfl⟩
  | succ n ih =>
    obtain ⟨hlive, hhandles, hnum⟩ := setLevels_frame (setAllLevels w ll ts n) n ll ts
    exact ⟨hlive.trans ih.1, hhandles.trans ih.2.1, hnum.trans ih.2.2⟩

/-! ## Sending -/

structure SameTable (user user' : DltUser) : Prop where
  dltLlTs : user'.dltLlTs = user.dltLlTs
  numEntries : user'.dltLlTsNumEntries = user.dltLlTsNumEntries

section

variable (user : DltUser)
include user

theorem sameTable_errorHandling (m : UserMessage) (link : Link) :
    SameTable user (dltUserLogOutErrorHandling user m link) := by
  unfold dltUserLogOutErrorHandling
  split_ifs
  · exact ⟨rfl, rfl⟩
  · exact ⟨rfl, rfl⟩

theorem sameTable_sendOrStore (m : UserMessage) (link : Link) :
    SameTable user (sendOrStore user m link).1 := by
  unfold sendOrStore
  split_ifs
  · exact ⟨rfl, rfl⟩
  · exact sameTable_errorHandling user m link

/-- Registering a context with the daemon does not touch the table. -/
theorem sameTable_sendRegisterContext (pid : Int32) (log : DltContextData) (link : Link) :
    SameTable user (dltUserLogSendRegisterContext user pid log link).1 := by
  unfold dltUserLogSendRegisterContext
  split_ifs
  · exact ⟨rfl, rfl⟩
  · exact sameTable_errorHandling user _ link
  · exact sameTable_sendOrStore user _ link

/-- Unregistering a context with the daemon does not touch the table. -/
theorem sameTable_sendUnregisterContext (pid : Int32) (handle : DltContext) (link : Link) :
    SameTable user (dltUserLogSendUnregisterContext user pid handle link).1 := by
  unfold dltUserLogSendUnregisterContext
  split_ifs
  · exact ⟨rfl, rfl⟩
  · exact sameTable_sendOrStore user _ link

theorem sameTable_sendAppLlTsLimit (ll ts : ℤ) (link : Link) :
    SameTable user (dltSendAppLlTsLimit user ll ts link).1 := by
  unfold dltSendAppLlTsLimit
  split_ifs
  · exact ⟨rfl, rfl⟩
  · exact sameTable_sendOrStore user _ link

end

theorem sameTable_reattach (pid : Int32) (user : DltUser) (fd : ℤ) :
    SameTable user (dltUserLogReattachToDaemon pid user fd).1 := by
  unfold dltUserLogReattachToDaemon dltUserLogResendBuffer
  dsimp only
  split_ifs <;> exact ⟨rfl, rfl⟩

theorem Invariant.send (hw : Invariant w) {user : DltUser} (h : SameTable w.user user) :
    Invariant { w with user := user } :=
  hw.congr rfl (fun _ _ _ => rfl) h.numEntries h.dltLlTs rfl

/-! ## Unregistering -/

section unregister

variable {pid : Int32} {w : World} {h i : ℕ} {r : Registration} {link : Link}

theorem Bound.entry (hb : Bound w h r i) : ∃ e, w.table[i]? = some e ∧ e.identity = (dltSetId r.contextid,
    r.description, (w.handles h).logLevelPtr, (w.handles h).traceStatusPtr) :=
  map_eq_some_iff.mp hb.identity

/-- **What `dlt_unregister_context` does for a live handle.** -/
theorem dltUnregisterContext_spec (hb : Bound w h r i) (hsmall : w.user.dltLlTsNumEntries ≤ 2147483648) :
    ∃ e, w.table[i]? = some e ∧
      (dltUnregisterContext pid w h link).1.live = Function.update w.live h none ∧
      (dltUnregisterContext pid w h link).1.handles = Function.update w.handles h
        { w.handles h with logLevelPtr := none, traceStatusPtr := none } ∧
      (dltUnregisterContext pid w h link).1.user.dltLlTsNumEntries = w.user.dltLlTsNumEntries ∧
      (dltUnregisterContext pid w h link).1.table = w.table.set i .initial ∧
      (dltUnregisterContext pid w h link).1.cells = (w.cells.free e.logLevelPtr).free e.traceStatusPtr := by
  obtain ⟨e, he, -⟩ := hb.entry
  have hindex : entryIndex (w.handles h).logLevelPos = some i := by
    rw [hb.position]
    exact entryIndex_position (Nat.lt_of_lt_of_le hb.lt hsmall)
  have htable : ∀ hs live, ({ w with handles := hs, live := live } : World).table = w.table := fun _ _ => rfl
  unfold dltUnregisterContext
  simp only [hindex, bind_some, htable, he, map_some]
  refine ⟨e, rfl, rfl, rfl, ?_, ?_, rfl⟩
  · rw [(sameTable_sendUnregisterContext _ _ _ _).numEntries]
    rfl
  · rw [World.table, (sameTable_sendUnregisterContext _ _ _ _).dltLlTs]
    rfl

/-- The live handles behind `dlt_unregister_context` are the other ones. -/
theorem live_update_none {live : ℕ → Option Registration} {h' : ℕ} {r' : Registration}
    (hr' : Function.update live h none h' = some r') : h' ≠ h ∧ live h' = some r' := by
  have hne : h' ≠ h := by
    rintro rfl
    rw [Function.update_self] at hr'
    cases hr'
  rw [Function.update_of_ne hne] at hr'
  exact ⟨hne, hr'⟩

theorem invariant_unregister (hw : Invariant w) (hr : w.live h = some r) :
    Invariant (dltUnregisterContext pid w h link).1 := by
  obtain ⟨i, hb⟩ := hw.bound h r hr
  obtain ⟨e, he, hlive, hhandles, hnum, htable, hcells⟩ :=
    @dltUnregisterContext_spec pid w h i r link hb hw.small
  -- the entries of the other handles are other ones
  have hother : ∀ j h' r', w.live h' = some r' → h' ≠ h → (w.handles h').logLevelPos = Int32.ofNat j → j ≠ i := by
    rintro j h' r' hr' hne hpos rfl
    exact hne (hw.apart h' h r' r hr' hr (hpos.trans hb.position.symm))
  have hid : ∀ j, j ≠ i → identityAt (w.table.set i .initial) j = identityAt w.table j := by
    intro j hj
    rw [identityAt, identityAt, getElem?_set_other _ hj]
  refine ⟨?_, ?_, ?_, ?_, ?_, ?_, ?_⟩
  · rw [htable, length_set]
    exact hw.sized
  · rw [htable, length_set, hnum]
    exact hw.le
  · rw [hnum]
    exact hw.small
  · rw [htable, hcells, hnum]
    refine Mirrored.free hw.mirror he ?_
    intro k
    cases k <;> rfl
  · intro h' r' hr'
    rw [hlive] at hr'
    obtain ⟨hne, hr'⟩ := live_update_none hr'
    obtain ⟨j, hb'⟩ := hw.bound h' r' hr'
    have hj := hother j h' r' hr' hne hb'.position
    have hh : (dltUnregisterContext pid w h link).1.handles h' = w.handles h' := by
      rw [hhandles, Function.update_of_ne hne]
    refine ⟨j, ?_, ?_, ?_, ?_, hb'.named, ?_, ?_⟩
    · rw [hh]
      exact hb'.position
    · rw [hnum]
      exact hb'.lt
    · rw [htable, hid j hj, hh]
      exact hb'.identity
    · rw [hh]
      exact hb'.contextID
    · rw [hh]
      exact hb'.logLevelPtr
    · rw [hh]
      exact hb'.traceStatusPtr
  · intro h₁ h₂ r₁ r₂ hr₁ hr₂ hpos
    rw [hlive] at hr₁ hr₂
    obtain ⟨hne₁, hr₁⟩ := live_update_none hr₁
    obtain ⟨hne₂, hr₂⟩ := live_update_none hr₂
    rw [hhandles, Function.update_of_ne hne₁, Function.update_of_ne hne₂] at hpos
    exact hw.apart h₁ h₂ r₁ r₂ hr₁ hr₂ hpos
  · intro j x hj hx hnamed
    rw [htable] at hx
    rw [hnum] at hj
    have hji : j ≠ i := by
      rintro rfl
      rw [identityAt, getElem?_set_here _ (lt_of_getElem? he), map_some, Option.some.injEq] at hx
      rw [← hx] at hnamed
      revert hnamed
      decide
    rw [hid j hji] at hx
    obtain ⟨h', r', hr', hpos⟩ := hw.owned j x hj hx hnamed
    have hne : h' ≠ h := by
      rintro rfl
      have hsame := position_injective (Nat.lt_of_lt_of_le hj hw.small) (Nat.lt_of_lt_of_le hb.lt hw.small)
        (hpos.symm.trans hb.position)
      exact hji hsame
    refine ⟨h', r', ?_, ?_⟩
    · rw [hlive, Function.update_of_ne hne]
      exact hr'
    · rw [hhandles, Function.update_of_ne hne]
      exact hpos

end unregister

/-! ## Registering -/

/-- The memory that a registration gets is not in use. -/
def RegisterEnv.Fresh (env : RegisterEnv) (cells : Cells Int8) : Prop :=
  (∀ m, env.logLevelPtr = some m → cells m.1 = none) ∧ (∀ m, env.traceStatusPtr = some m → cells m.1 = none) ∧
    ∀ m m', env.logLevelPtr = some m → env.traceStatusPtr = some m' → m.1 ≠ m'.1

/-- There is memory for everything that a registration may need. -/
def RegisterEnv.Supplies (env : RegisterEnv) (r : RegisterContext) : Prop :=
  env.table ∧ (r.description.isSome → env.description) ∧ env.logLevelPtr.isSome ∧ env.traceStatusPtr.isSome

theorem Mirrored.ensureCell {cells cells' : Cells Int8} {entries : List DltLlTs} {on : ℕ → Prop} {n : ℕ}
    {e e' : DltLlTs} {k : Kind} {malloc : Option (ℕ × Int8)} {ptr : Option ℕ} (h : Mirrored cells entries on)
    (he : entries[n]? = some e) (hensure : ensureCell cells (e.ptr k) malloc = some (cells', ptr))
    (hfresh : ∀ m, malloc = some m → cells m.1 = none) (hk : e'.ptr k = ptr)
    (hother : ∀ k', k' ≠ k → e'.ptr k' = e.ptr k') (hon : ¬ on n) :
    Mirrored cells' (entries.set n e') on ∧ ptr.isSome := by
  rcases hp : e.ptr k with _ | p
  · rw [hp, Contexts.ensureCell, map_eq_some_iff] at hensure
    obtain ⟨m, hm, heq⟩ := hensure
    cases heq
    exact ⟨h.alloc he m.2 (hfresh m hm) hk hother hon, rfl⟩
  · rw [hp, Contexts.ensureCell] at hensure
    cases hensure
    refine ⟨h.set he ?_ hon, rfl⟩
    intro k'
    by_cases hk' : k' = k
    · rw [hk', hk, hp]
    · exact hother k' hk'

theorem ensureCell_none {cells : Cells Int8} {ptr : Option ℕ} {malloc : Option (ℕ × Int8)}
    (h : ensureCell cells ptr malloc = none) : ¬ malloc.isSome := by
  cases ptr with
  | none =>
    rw [ensureCell, map_eq_none_iff] at h
    rw [h]
    exact Bool.false_ne_true
  | some p => cases h

/-- Cells that a pointer may have got: another free one is still free. -/
theorem ensureCell_free {cells cells' : Cells Int8} {ptr ptr' : Option ℕ} {malloc : Option (ℕ × Int8)} {q : ℕ}
    (hensure : ensureCell cells ptr malloc = some (cells', ptr')) (hq : cells q = none)
    (hne : ∀ m, malloc = some m → m.1 ≠ q) : cells' q = none := by
  cases ptr with
  | none =>
    rw [ensureCell, map_eq_some_iff] at hensure
    obtain ⟨m, hm, heq⟩ := hensure
    cases heq
    rwa [Cells.write_of_ne]
    intro hmq
    exact hne m hm (Option.some.inj hmq)
  | some p =>
    cases hensure
    exact hq

/-- The entry that is filled has changed, and nothing of the others. -/
structure Prepared (w w' : World) (e : DltLlTs) : Prop where
  handles : w'.handles = w.handles
  live : w'.live = w.live
  user : w'.user = { w.user with dltLlTs := some (w.table.set w.user.dltLlTsNumEntries e) }
  mirror : Mirrored w'.cells (w.table.set w.user.dltLlTsNumEntries e) fun i => i < w.user.dltLlTsNumEntries

/-- **A registration either lacks memory and has touched no used entry, or is completed with an entry that has all its
memory.** -/
theorem fillEntry_cases (handle : ℕ) (r : RegisterContext) {env : RegisterEnv}
    (hlt : w.user.dltLlTsNumEntries < w.table.length)
    (hmirror : Mirrored w.cells w.table fun i => i < w.user.dltLlTsNumEntries) (hfresh : env.Fresh w.cells) :
    (∃ e, Prepared w (fillEntry w handle r env).1 e ∧ (fillEntry w handle r env).2 = none ∧ ¬ env.Supplies r) ∨
      ∃ w' e, Prepared w w' e ∧ e.contextID = dltSetId r.contextid ∧ e.contextDescription = r.description ∧
        e.logLevelPtr.isSome ∧ e.traceStatusPtr.isSome ∧
        fillEntry w handle r env = ((completeRegistration w' handle r env e).1,
          some (completeRegistration w' handle r env e).2) := by
  set num := w.user.dltLlTsNumEntries with hnum
  obtain ⟨e, he⟩ : ∃ e, w.table[num]? = some e := ⟨_, getElem?_eq_getElem hlt⟩
  have hentry : w.table.getD num .initial = e := by rw [getD_eq_getElem?_getD, he, getD_some]
  have hnot : ¬ num < num := Nat.lt_irrefl num
  -- an entry at the end of the table that has the old pointers
  have hset : ∀ e' : DltLlTs, (∀ k, e'.ptr k = e.ptr k) → Mirrored w.cells (w.table.set num e') fun i => i < num :=
    fun e' hptr => hmirror.set he hptr hnot
  obtain ⟨hfirst, hsecond, hdistinct⟩ := hfresh
  unfold fillEntry
  simp only [← hnum, hentry]
  by_cases hdescription : r.description.isSome ∧ ¬ env.description
  · rw [if_pos hdescription]
    exact .inl ⟨_, ⟨rfl, rfl, rfl, hset _ (fun k => by cases k <;> rfl)⟩, rfl,
      fun hs => hdescription.2 (hs.2.1 hdescription.1)⟩
  · rw [if_neg hdescription]
    rcases hll : ensureCell w.cells e.logLevelPtr env.logLevelPtr with _ | ⟨cells, ptr⟩
    · exact .inl ⟨_, ⟨rfl, rfl, rfl, hset _ (fun k => by cases k <;> rfl)⟩, rfl,
        fun hs => ensureCell_none hll hs.2.2.1⟩
    · obtain ⟨hcells, hptr⟩ := @Mirrored.ensureCell _ _ _ _ _ e
        { e with contextID := dltSetId r.contextid, contextDescription := r.description, logLevelPtr := ptr }
        .logLevel _ _ hmirror he hll hfirst rfl (fun k hk => by cases k <;> [exact absurd rfl hk; rfl]) hnot
      dsimp only
      rcases hts : ensureCell cells e.traceStatusPtr env.traceStatusPtr with _ | ⟨cells', ptr'⟩
      · exact .inl ⟨_, ⟨rfl, rfl, rfl, hcells⟩, rfl, fun hs => ensureCell_none hts hs.2.2.2⟩
      · obtain ⟨hcells', hptr'⟩ := @Mirrored.ensureCell _ _ _ _ _ _
          { e with contextID := dltSetId r.contextid, contextDescription := r.description, logLevelPtr := ptr,
                   traceStatusPtr := ptr' }
          .traceStatus _ _ hcells (getElem?_set_here _ hlt) hts
          (fun m hm => ensureCell_free hll (hsecond m hm) (fun m' hm' => hdistinct m' m hm' hm)) rfl
          (fun k hk => by cases k <;> [rfl; exact absurd rfl hk]) hnot
        rw [set_set] at hcells'
        refine .inr ⟨{ w.setTable _ with cells := cells' }, _, ⟨rfl, rfl, rfl, hcells'⟩, rfl, rfl, hptr, hptr', rfl⟩

end Dlt.Contexts
