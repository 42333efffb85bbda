import Dlt.Daemon.LevelsInvariant
import Dlt.Lib.Scan

/-!
# Requests for several contexts

* `controlSetLevel_matching_iff` — **when this is what happens**: no context matches the application id, or none
  of the application ids is far below it.
-/

namespace Dlt.Daemon

open Dlt.Lib Dlt.Shared List Option
open DltDaemonContext (ids)

variable {Buf : Type}

/-! ## Patterns -/

/-- The pattern of a request: for application ids or for context ids, and its text. -/
def requestPattern (apid ctid : Id4) : Option (Bool × List UInt8) :=
  if apid.isEmpty = false ∧ ctid.isEmpty then some (true, idText apid.bytes)
  else if ctid.isEmpty = false ∧ apid.isEmpty then some (false, idText ctid.bytes)
  else none

/-- An id matches a pattern: it is the pattern, or it begins with what stands in front of the `*`. -/
def matchesPattern (pattern : List UInt8) (id : Id4) : Bool :=
  if endsWithStar pattern then pattern.dropLast.isPrefixOf (idText id.bytes) else idText id.bytes = pattern

def patternId (appFlag : Bool) (ids : Id4 × Id4) : Id4 := if appFlag then ids.1 else ids.2

/-- The number of characters that are compared. -/
def patternLength (pattern : List UInt8) : ℕ := if endsWithStar pattern then pattern.length - 1 else 4

/-- A text of up to four characters as an id is stored. -/
def padded (text : List UInt8) : List UInt8 := text ++ replicate (4 - text.length) 0

def comparePattern (pattern : List UInt8) (id : Id4) : ℤ :=
  strncmp (dltSetId id.bytes).bytes (padded pattern) (patternLength pattern)

/-- What the loop makes of a context. The result of the comparison is converted to `int8_t`. -/
def levelVerdict (appFlag : Bool) (pattern : List UInt8) (ids : Id4 × Id4) : Verdict :=
  let ret := i8 (comparePattern pattern (patternId appFlag ids))
  if ret = 0 then .hit else if ret > 0 ∧ appFlag then .stop else .pass

/-- The first byte of the id that differs from the pattern is more than 128 below that of the pattern. -/
def FarBelow (pattern : List UInt8) (id : Id4) : Prop := comparePattern pattern id < -128

instance (pattern : List UInt8) (id : Id4) : Decidable (FarBelow pattern id) := by unfold FarBelow; infer_instance

/-! ## Comparing -/

section compare

theorem strncmp_range (as bs : List UInt8) (n : ℕ) : -255 ≤ strncmp as bs n ∧ strncmp as bs n ≤ 255 := by
  induction n generalizing as bs with
  | zero => cases as <;> cases bs <;> simp [strncmp]
  | succ n ih =>
    cases as with
    | nil => simp [strncmp]
    | cons a as =>
    cases bs with
    | nil => simp [strncmp]
    | cons b bs =>
      have ha := a.toNat_lt
      have hb := b.toNat_lt
      unfold strncmp
      split_ifs
      · omega
      · omega
      · exact ih as bs

/-- **The comparison follows the order of the ids**: what is greater than the pattern stays greater. -/
theorem strncmp_mono {as bs : List UInt8} (h : memcmp as bs as.length ≤ 0) (hlen : as.length = bs.length)
    (str : List UInt8) (n : ℕ) :
    (0 < strncmp as str n → 0 < strncmp bs str n) ∧ (strncmp bs str n < 0 → strncmp as str n < 0) := by
  induction as generalizing bs str n with
  | nil =>
    obtain rfl := length_eq_zero_iff.mp hlen.symm
    exact ⟨id, id⟩
  | cons a as ih =>
    cases bs with
    | nil => cases hlen
    | cons b bs =>
    cases str with
    | nil => simp [strncmp]
    | cons c str =>
    cases n with
    | zero => simp [strncmp]
    | succ n =>
      rw [length_cons, memcmp] at h
      unfold strncmp
      by_cases hab : a = b
      · rw [if_pos hab] at h
        subst hab
        split_ifs
        · exact ⟨id, id⟩
        · exact ⟨id, id⟩
        · exact ih h (by simpa using hlen) str n
      · rw [if_neg hab] at h
        have hne : a.toNat ≠ b.toNat := fun heq => hab (UInt8.toNat_inj.mp heq)
        have hlt : a.toNat < b.toNat := by omega
        by_cases hac : a.toNat < c.toNat
        · -- the smaller id is below the pattern
          have hbelow : a ≠ c := fun heq => absurd hac (by rw [heq]; exact Nat.lt_irrefl _)
          rw [if_pos hbelow]
          exact ⟨fun hpos => by omega, fun _ => by omega⟩
        · -- the greater id is above the pattern
          have habove : b ≠ c := fun heq => hac (by rw [← heq]; exact hlt)
          rw [if_pos habove]
          exact ⟨fun _ => by omega, fun hneg => by omega⟩

theorem strncmp_prefix {text start rest : List UInt8} (hstart : 0 ∉ start) (k : ℕ)
    (hlen : start.length ≤ text.length + k) :
    strncmp (text ++ replicate k 0) (start ++ rest) start.length = 0 ↔ start <+: text := by
  induction start generalizing text with
  | nil =>
    rw [length_nil]
    refine ⟨fun _ => nil_prefix, fun _ => ?_⟩
    cases text ++ replicate k 0 <;> cases ([] : List UInt8) ++ rest <;> rfl
  | cons b start ih =>
    rw [mem_cons, not_or] at hstart
    cases text with
    | nil =>
      rw [length_cons, length_nil] at hlen
      obtain ⟨k, rfl⟩ : ∃ k', k = k' + 1 := ⟨k - 1, by omega⟩
      have hb : b.toNat ≠ 0 := fun heq => hstart.1 (UInt8.toNat_inj.mp heq).symm
      rw [nil_append, replicate_succ, cons_append, length_cons, strncmp, if_pos hstart.1]
      constructor
      · intro hzero
        have hnum : (0 : UInt8).toNat = 0 := rfl
        omega
      · intro hpref
        exact absurd (prefix_nil.mp hpref) (cons_ne_nil b start)
    | cons a text =>
      rw [cons_append, cons_append, length_cons, strncmp, cons_prefix_cons]
      by_cases hab : a = b
      · subst hab
        rw [if_neg (not_not.mpr rfl), if_neg (fun hzero => hstart.1 hzero.symm),
          ih hstart.2 (by simpa [Nat.add_right_comm] using hlen)]
        exact ⟨fun h => ⟨rfl, h⟩, fun h => h.2⟩
      · have hne : a.toNat ≠ b.toNat := fun heq => hab (UInt8.toNat_inj.mp heq)
        rw [if_pos hab]
        exact ⟨fun hzero => by omega, fun h => absurd h.1.symm hab⟩

theorem strncmp_padded {text other : List UInt8} (htext : 0 ∉ text) (hother : 0 ∉ other) (n : ℕ)
    (hlen : text.length ≤ n) (hlen' : other.length ≤ n) :
    strncmp (text ++ replicate (n - text.length) 0) (other ++ replicate (n - other.length) 0) n = 0 ↔
      text = other := by
  induction n generalizing text other with
  | zero =>
    rw [length_eq_zero_iff.mp (Nat.le_zero.mp hlen), length_eq_zero_iff.mp (Nat.le_zero.mp hlen')]
    simp [strncmp]
  | succ n ih =>
    have hnum : (0 : UInt8).toNat = 0 := rfl
    cases text with
    | nil =>
      cases other with
      | nil =>
        rw [length_nil, Nat.sub_zero, replicate_succ, nil_append, strncmp,
          if_neg (not_not.mpr rfl), if_pos rfl]
        exact ⟨fun _ => rfl, fun _ => rfl⟩
      | cons b other =>
        have hb : (0 : UInt8) ≠ b := fun heq => hother (heq ▸ mem_cons_self)
        have hbnum : b.toNat ≠ 0 := fun heq => hb (UInt8.toNat_inj.mp heq).symm
        rw [length_nil, Nat.sub_zero, replicate_succ, nil_append, cons_append, strncmp,
          if_pos hb]
        exact ⟨fun hzero => by omega, fun heq => absurd heq.symm (cons_ne_nil b other)⟩
    | cons a text =>
      have ha : a ≠ 0 := fun heq => htext (heq ▸ mem_cons_self)
      have hanum : a.toNat ≠ 0 := fun heq => ha (UInt8.toNat_inj.mp heq)
      cases other with
      | nil =>
        rw [length_nil, Nat.sub_zero, replicate_succ, nil_append, cons_append, strncmp,
          if_pos ha]
        exact ⟨fun hzero => by omega, fun heq => absurd heq (cons_ne_nil a text)⟩
      | cons b other =>
        rw [cons_append, cons_append, strncmp, length_cons, length_cons,
          Nat.add_sub_add_right, Nat.add_sub_add_right]
        by_cases hab : a = b
        · subst hab
          rw [if_neg (not_not.mpr rfl), if_neg ha,
            ih (fun hin => htext (mem_cons_of_mem a hin)) (fun hin => hother (mem_cons_of_mem a hin))
              (Nat.le_of_succ_le_succ hlen) (Nat.le_of_succ_le_succ hlen')]
          exact ⟨fun h => by rw [h], fun h => (cons.inj h).2⟩
        · have hne : a.toNat ≠ b.toNat := fun heq => hab (UInt8.toNat_inj.mp heq)
          rw [if_pos hab]
          exact ⟨fun hzero => by omega, fun h => absurd (cons.inj h).1 hab⟩

/-- **The comparison finds the ids that match.** -/
theorem comparePattern_eq_zero_iff {pattern : List UInt8} (hzero : 0 ∉ pattern) (hlen : pattern.length ≤ 4)
    (id : Id4) : comparePattern pattern id = 0 ↔ matchesPattern pattern id = true := by
  have htext := length_idText_le id.bytes
  have hbytes : (dltSetId id.bytes).bytes = idText id.bytes ++ replicate (4 - (idText id.bytes).length) 0 := rfl
  unfold comparePattern matchesPattern patternLength
  by_cases hstar : endsWithStar pattern = true
  · rw [if_pos hstar, if_pos hstar, isPrefixOf_iff_prefix]
    obtain ⟨start, rfl⟩ : ∃ start, pattern = start ++ [42] := by
      have hlast : pattern.getLast? = some 42 := by simpa [endsWithStar] using hstar
      exact getLast?_eq_some_iff.mp hlast
    rw [mem_append, not_or] at hzero
    rw [length_append, length_singleton] at hlen
    rw [length_append, length_singleton, Nat.add_sub_cancel, padded, append_assoc,
      dropLast_concat, hbytes, strncmp_prefix hzero.1 _ (by omega)]
  · rw [if_neg hstar, if_neg hstar, padded, hbytes,
      strncmp_padded (zero_not_mem_idText id.bytes) hzero 4 htext hlen, decide_eq_true_eq]

/-- What the conversion to `int8_t` makes of a comparison. -/
theorem i8_comparison {d : ℤ} (h : -255 ≤ d ∧ d ≤ 255) :
    (i8 d = 0 ↔ d = 0) ∧ (i8 d > 0 ↔ 0 < d ∧ d < 128 ∨ d < -128) := by
  unfold i8
  split_ifs
  · omega
  · omega

theorem comparePattern_range (pattern : List UInt8) (id : Id4) :
    -255 ≤ comparePattern pattern id ∧ comparePattern pattern id ≤ 255 := strncmp_range _ _ _

theorem levelVerdict_hit_iff {pattern : List UInt8} (hzero : 0 ∉ pattern) (hlen : pattern.length ≤ 4)
    (appFlag : Bool) (ids : Id4 × Id4) :
    levelVerdict appFlag pattern ids = .hit ↔ matchesPattern pattern (patternId appFlag ids) = true := by
  rw [← comparePattern_eq_zero_iff hzero hlen, ← (i8_comparison (comparePattern_range _ _)).1]
  unfold levelVerdict
  dsimp only
  split_ifs with hret hstop
  · exact ⟨fun _ => hret, fun _ => rfl⟩
  · exact ⟨fun h => (by cases h), fun h => absurd h hret⟩
  · exact ⟨fun h => (by cases h), fun h => absurd h hret⟩

/-- The loop stops only in the comparison of application ids, above the pattern or far below it. -/
theorem levelVerdict_stop_iff (appFlag : Bool) (pattern : List UInt8) (ids : Id4 × Id4) :
    levelVerdict appFlag pattern ids = .stop ↔ appFlag = true ∧
      (0 < comparePattern pattern ids.1 ∧ comparePattern pattern ids.1 < 128 ∨ FarBelow pattern ids.1) := by
  have hconv := i8_comparison (comparePattern_range pattern (patternId appFlag ids))
  unfold levelVerdict
  cases appFlag with
  | false =>
    simp only [Bool.false_eq_true, and_false, if_false, false_and, iff_false]
    split_ifs
    · decide
    · decide
  | true =>
    simp only [and_true, true_and]
    change _ ↔ 0 < comparePattern pattern (patternId true ids) ∧ comparePattern pattern (patternId true ids) < 128 ∨
      comparePattern pattern (patternId true ids) < -128
    rw [← hconv.2]
    split_ifs with hret hstop
    · exact ⟨fun h => (by cases h), fun h => by omega⟩
    · exact ⟨fun _ => hstop, fun _ => rfl⟩
    · exact ⟨fun h => (by cases h), fun h => absurd h hstop⟩

end compare

/-! ## The loop -/

section loop

def LevelState.contextIds (s : LevelState Buf) (l i : ℕ) : Option (Id4 × Id4) :=
  (s.context l i).map ids

/-- What the loop makes of a position. -/
def positionVerdict (appFlag : Bool) (pattern : List UInt8) (ids : ℕ → Option (Id4 × Id4)) (i : ℕ) : Verdict :=
  (ids i).elim .pass (levelVerdict appFlag pattern)

def updateContexts (field : LevelField) (flags : LevelFlags) (l : ℕ) (value : ℤ) (writes : ℕ → WriteOutcome)
    (s : LevelState Buf) (positions : List ℕ) : LevelState Buf :=
  positions.foldl (fun s i => sendLevel field flags s l i value (writes i)) s

variable {field : LevelField} {flags : LevelFlags} {s : LevelState Buf} {l : ℕ} {value : ℤ}
  {writes : ℕ → WriteOutcome}

theorem resetApplicationOf_same (daemon : DltDaemon Buf) (apid : Id4) :
    SameAll daemon (resetApplicationOf daemon apid) := by
  unfold resetApplicationOf
  split
  · exact SameAll.refl daemon
  · split
    · exact SameAll.refl daemon
    · exact SameAll.resetUserHandle daemon _ _ _

theorem sendIfValid_same (flags : LevelFlags) (s : LevelState Buf) (l i : ℕ) (write : WriteOutcome) :
    SameAll s.daemon (sendIfValid flags s l i write).1.daemon ∧
      (sendIfValid flags s l i write).1.responses = s.responses := by
  unfold sendIfValid
  cases s.context l i with
  | none => exact ⟨SameAll.refl _, rfl⟩
  | some context =>
    dsimp only
    by_cases hhandle : context.userHandle ≥ dltFdMinimum
    · rw [if_pos hhandle, dltDaemonUserSendLogLevel]
      by_cases hneg : context.userHandle < 0
      · rw [if_pos hneg]
        exact ⟨SameAll.refl _, rfl⟩
      · rw [if_neg hneg]
        cases write with
        | ok => exact ⟨SameAll.refl _, rfl⟩
        | error => exact ⟨SameAll.refl _, rfl⟩
        | epipe => exact ⟨resetApplicationOf_same s.daemon context.apid, rfl⟩
    · rw [if_neg hhandle]
      exact ⟨SameAll.refl _, rfl⟩

theorem modifyContext_same (s : LevelState Buf) (l i : ℕ) (field : LevelField) (value : ℤ) :
    SameAll s.daemon (s.modifyContext l i (field.set value)).daemon := by
  refine SameAll.modifyUsers s.daemon l fun users => SameTables.modifyContext users i fun c => ?_
  cases field <;> rfl

/-- **The update of a context** keeps the ids of all contexts, and there is one answer to it. -/
theorem sendLevel_spec (field : LevelField) (flags : LevelFlags) (s : LevelState Buf) (l i : ℕ) (value : ℤ)
    (write : WriteOutcome) :
    SameAll s.daemon (sendLevel field flags s l i value write).daemon ∧
      ((s.context l i).isSome →
        (sendLevel field flags s l i value write).responses.length = s.responses.length + 1) := by
  unfold sendLevel
  cases hcontext : s.context l i with
  | none => exact ⟨SameAll.refl _, fun hsome => by cases hsome⟩
  | some context =>
    dsimp only
    obtain ⟨hsame, hresponses⟩ := sendIfValid_same flags (s.modifyContext l i (field.set value)) l i write
    have hset := (modifyContext_same s l i field value).trans hsame
    have hlen : (sendIfValid flags (s.modifyContext l i (field.set value)) l i write).1.responses.length =
        s.responses.length := by rw [hresponses]; rfl
    by_cases hsent : (sendIfValid flags (s.modifyContext l i (field.set value)) l i write).2 = true
    · rw [if_pos hsent]
      exact ⟨hset, fun _ => congrArg (· + 1) hlen⟩
    · rw [if_neg hsent]
      exact ⟨hset.trans (modifyContext_same _ l i field (field.get context)), fun _ => congrArg (· + 1) hlen⟩

/-- The ids are the same when the tables stand for the same registries. -/
theorem contextIds_of_same {s' : LevelState Buf} (h : SameAll s.daemon s'.daemon) (l i : ℕ) :
    s'.contextIds l i = s.contextIds l i := by
  have hl := h l
  unfold LevelState.contextIds LevelState.context
  generalize s.daemon.userList[l]? = before at hl ⊢
  generalize s'.daemon.userList[l]? = after at hl ⊢
  cases hl with
  | none => rfl
  | some hsame =>
    have hctxs := congrArg (fun r : Registry => r.ctxs[i]?) hsame.registry_eq
    simpa only [DltDaemonRegisteredUsers.registry, getElem?_map, bind_some] using hctxs

/-- **The loop is a scan** that updates what it hits. -/
theorem findMultiple_eq_scan (appFlag : Bool) (pattern : List UInt8) (counts : List ℕ) :
    findMultiple field flags l appFlag (padded pattern) (patternLength pattern) value writes s counts =
      updateContexts field flags l value writes s
        (scan (positionVerdict appFlag pattern (s.contextIds l)) counts) := by
  induction counts generalizing s with
  | nil => rfl
  | cons count counts ih =>
    unfold findMultiple
    cases hcontext : s.context l count with
    | none =>
      have hverdict : positionVerdict appFlag pattern (s.contextIds l) count = .pass := by
        rw [positionVerdict, LevelState.contextIds, hcontext]
        rfl
      rw [scan, hverdict]
      exact ih
    | some context =>
      have hverdict : positionVerdict appFlag pattern (s.contextIds l) count =
          levelVerdict appFlag pattern context.ids := by
        rw [positionVerdict, LevelState.contextIds, hcontext]
        rfl
      have hids : (if appFlag = true then context.apid else context.ctid) = patternId appFlag context.ids := rfl
      rw [scan, hverdict, levelVerdict]
      dsimp only
      rw [hids, ← comparePattern]
      split_ifs
      · have hsame := (sendLevel_spec field flags s l count value (writes count)).1
        have hfun : (sendLevel field flags s l count value (writes count)).contextIds l = s.contextIds l :=
          funext fun i => contextIds_of_same hsame l i
        rw [ih, hfun]
        rfl
      · rfl
      · exact ih

theorem length_responses_update {positions : List ℕ} (h : ∀ i ∈ positions, (s.contextIds l i).isSome) :
    (updateContexts field flags l value writes s positions).responses.length =
      s.responses.length + positions.length := by
  induction positions generalizing s with
  | nil => rfl
  | cons i positions ih =>
    obtain ⟨hsame, hone⟩ := sendLevel_spec field flags s l i value (writes i)
    have hsome : (s.context l i).isSome := by
      have hi := h i mem_cons_self
      rwa [LevelState.contextIds, isSome_map] at hi
    have hrest : ∀ j ∈ positions,
        ((sendLevel field flags s l i value (writes i)).contextIds l j).isSome := by
      intro j hj
      rw [contextIds_of_same hsame]
      exact h j (mem_cons_of_mem i hj)
    have hstep := ih hrest
    rw [hone hsome] at hstep
    rw [length_cons]
    exact hstep.trans (by omega)

end loop

/-! ## The requests -/

section requests

/-- The ids of the contexts of the daemon's own ECU. -/
def ownIds (s : LevelState Buf) : List (Id4 × Id4) :=
  ((dltDaemonFindUsersList s.daemon s.daemon.ecuid).bind (s.daemon.userList[·]?)).elim []
    fun users => users.contexts.map ids

/-- One update for each context that matches, in the order of the table. -/
def updateMatching (field : LevelField) (flags : LevelFlags) (s : LevelState Buf) (appFlag : Bool)
    (pattern : List UInt8) (value : ℤ) (writes : ℕ → WriteOutcome) : LevelState Buf :=
  match s.ownContexts with
  | none => s
  | some (l, num) =>
    updateContexts field flags l value writes s <| (range num).filter fun i =>
      (s.contextIds l i).elim false fun ids => matchesPattern pattern (patternId appFlag ids)

variable {field : LevelField} {flags : LevelFlags} {s : LevelState Buf} {l : ℕ} {value : ℤ}
  {writes : ℕ → WriteOutcome} {appFlag : Bool} {pattern : List UInt8} {apid ctid : Id4}
  {users : DltDaemonRegisteredUsers}

/-- The pattern of a request is a text of up to four characters. -/
theorem requestPattern_text (h : requestPattern apid ctid = some (appFlag, pattern)) :
    0 ∉ pattern ∧ pattern.length ≤ 4 := by
  unfold requestPattern at h
  split_ifs at h
  · obtain ⟨-, rfl⟩ := Prod.mk.inj (Option.some.inj h)
    exact ⟨zero_not_mem_idText _, length_idText_le _⟩
  · obtain ⟨-, rfl⟩ := Prod.mk.inj (Option.some.inj h)
    exact ⟨zero_not_mem_idText _, length_idText_le _⟩

theorem controlSetLevel_pattern (h : requestPattern apid ctid = some (appFlag, pattern)) :
    controlSetLevel field flags s apid ctid value writes =
      match s.ownContexts with
      | none => s
      | some (l, num) =>
        findMultiple field flags l appFlag (padded pattern) (patternLength pattern) value writes s
          (range num) := by
  have hne : ∀ id : Id4, id.isEmpty = false → (idText id.bytes).length ≠ 0 := by
    intro id hid hzero
    exact idText_ne_nil hid (length_eq_zero_iff.mp hzero)
  have hnil : ∀ id : Id4, id.isEmpty = true → (idText id.bytes).length = 0 := by
    intro id hid
    obtain ⟨bytes, hlen⟩ := id
    cases bytes with
    | nil => rfl
    | cons b bytes =>
      have hb : b = 0 := by simpa [Id4.isEmpty] using hid
      rw [hb]
      rfl
  unfold requestPattern at h
  unfold controlSetLevel patternLength
  dsimp only
  split_ifs at h with happ hctx
  · obtain ⟨rfl, rfl⟩ := Prod.mk.inj (Option.some.inj h)
    have hlen := hne apid happ.1
    by_cases hstar : endsWithStar (idText apid.bytes) = true
    · rw [if_pos ⟨hlen, hstar, happ.2⟩, if_pos hstar]
      rfl
    · rw [if_neg (fun hall => hstar hall.2.1), if_neg (fun hall => hall.1 (hnil ctid happ.2)),
        if_pos ⟨hlen, hstar, happ.2⟩, if_neg hstar]
      rfl
  · obtain ⟨rfl, rfl⟩ := Prod.mk.inj (Option.some.inj h)
    have hlen := hne ctid hctx.1
    by_cases hstar : endsWithStar (idText ctid.bytes) = true
    · rw [if_neg (fun hall => hall.1 (hnil apid hctx.2)), if_pos ⟨hlen, hstar, hctx.2⟩, if_pos hstar]
      rfl
    · rw [if_neg (fun hall => hall.1 (hnil apid hctx.2)), if_neg (fun hall => hstar hall.2.1),
        if_neg (fun hall => hall.1 (hnil apid hctx.2)), if_pos ⟨hlen, hstar, hctx.2⟩, if_neg hstar]
      rfl

/-- In a table that is sorted, the application ids follow the order of the positions. -/
theorem comparePattern_mono (hr : Registered users) {i j : ℕ} (hij : i < j) {fst snd : Id4 × Id4}
    (hfst : (users.contexts.map ids)[i]? = some fst)
    (hsnd : (users.contexts.map ids)[j]? = some snd) (pattern : List UInt8) :
    (0 < comparePattern pattern fst.1 → 0 < comparePattern pattern snd.1) ∧
      (comparePattern pattern snd.1 < 0 → comparePattern pattern fst.1 < 0) := by
  have hkey : idsKey fst < idsKey snd := hr.ok.ctxs_sorted.key_lt hij hfst hsnd
  have hle : fst.1.key ≤ snd.1.key := by
    have hfstlt := fst.2.key_lt
    have hsndlt := snd.2.key_lt
    unfold idsKey at hkey
    omega
  have hcanonical : ∀ {ids : Id4 × Id4}, ids ∈ users.contexts.map DltDaemonContext.ids →
      dltSetId ids.1.bytes = ids.1 := by
    intro ids hids
    obtain ⟨a, ha, hid⟩ := mem_map.mp (hr.ok.registered ids hids)
    exact hid ▸ (hr.ok.apps_canonical a ha).1
  have hcmp : memcmp fst.1.bytes snd.1.bytes fst.1.bytes.length ≤ 0 := by
    rw [fst.1.length_eq, ← not_lt]
    intro hpos
    have hgt := memcmp_pos_iff.mp hpos
    omega
  unfold comparePattern
  rw [hcanonical (mem_of_getElem? hfst), hcanonical (mem_of_getElem? hsnd)]
  exact strncmp_mono hcmp (fst.1.length_eq.trans snd.1.length_eq.symm) _ _

/-- **The loop stops before no context that matches exactly when** there is none, or no application id is far
below the pattern. -/
theorem scan_complete_iff (hr : Registered users) (hzero : 0 ∉ pattern) (hlen : pattern.length ≤ 4) :
    (range users.numContexts).Pairwise (fun i j =>
        positionVerdict appFlag pattern ((users.contexts.map ids)[·]?) i = .stop →
          positionVerdict appFlag pattern ((users.contexts.map ids)[·]?) j ≠ .hit) ↔
      (appFlag = true →
        (∃ ids ∈ users.contexts.map DltDaemonContext.ids, matchesPattern pattern ids.1 = true) →
          ∀ ids ∈ users.contexts.map DltDaemonContext.ids, ¬ FarBelow pattern ids.1) := by
  have hnum : users.numContexts = (users.contexts.map DltDaemonContext.ids).length := by
    rw [length_map, hr.numContexts_eq]
  generalize hids : users.contexts.map ids = ids at hnum ⊢
  have hmono : ∀ {i j : ℕ} {fst snd : Id4 × Id4}, i < j → ids[i]? = some fst → ids[j]? = some snd →
      (0 < comparePattern pattern fst.1 → 0 < comparePattern pattern snd.1) ∧
        (comparePattern pattern snd.1 < 0 → comparePattern pattern fst.1 < 0) := by
    intro i j fst snd hij hfst hsnd
    rw [← hids] at hfst hsnd
    exact comparePattern_mono hr hij hfst hsnd pattern
  have hverdict : ∀ {i : ℕ} {p : Id4 × Id4}, ids[i]? = some p →
      positionVerdict appFlag pattern (ids[·]?) i = levelVerdict appFlag pattern p := by
    intro i p hp
    simp only [positionVerdict, hp, elim_some]
  rw [pairwise_iff_getElem]
  simp only [getElem_range, length_range]
  constructor
  · rintro hpairs rfl ⟨p, hp, hmatches⟩ q hq hfar
    obtain ⟨j, hj⟩ := mem_iff_getElem?.mp hp
    obtain ⟨i, hi⟩ := mem_iff_getElem?.mp hq
    have hzeroCmp := (comparePattern_eq_zero_iff hzero hlen p.1).mpr hmatches
    unfold FarBelow at hfar
    -- the id that is far below stands before the one that matches
    have hij : i < j := by
      rcases Nat.lt_trichotomy i j with hlt | heq | hgt
      · exact hlt
      · rw [heq, hj] at hi
        rw [Option.some.inj hi] at hzeroCmp
        omega
      · have hneg := (hmono hgt hj hi).2 (by omega)
        omega
    have hilt := (List.getElem?_eq_some_iff.mp hi).1
    have hjlt := (List.getElem?_eq_some_iff.mp hj).1
    refine hpairs i j (by omega) (by omega) hij ?_ ?_
    · rw [hverdict hi, levelVerdict_stop_iff]
      exact ⟨rfl, .inr hfar⟩
    · rw [hverdict hj, levelVerdict_hit_iff hzero hlen]
      exact hmatches
  · intro hcond i j hi hj hij hstop hhit
    obtain ⟨q, hq⟩ : ∃ q, ids[i]? = some q := ⟨_, getElem?_eq_getElem (by omega)⟩
    obtain ⟨p, hp⟩ : ∃ p, ids[j]? = some p := ⟨_, getElem?_eq_getElem (by omega)⟩
    rw [hverdict hq, levelVerdict_stop_iff] at hstop
    rw [hverdict hp, levelVerdict_hit_iff hzero hlen] at hhit
    obtain ⟨rfl, hstops⟩ := hstop
    have hmatches : matchesPattern pattern p.1 = true := hhit
    rcases hstops with ⟨habove, -⟩ | hfar
    · have hpos := (hmono hij hq hp).1 habove
      have hzeroCmp := (comparePattern_eq_zero_iff hzero hlen p.1).mpr hmatches
      omega
    · exact hcond rfl ⟨p, mem_of_getElem? hp, hmatches⟩ q (mem_of_getElem? hq) hfar

/-- **A request with one id updates exactly the contexts that match, once each, exactly when** it is for context
ids, or no context matches, or no application id of the table is far below the pattern. -/
theorem controlSetLevel_matching_iff (h : AllRegistered s.daemon)
    (hpattern : requestPattern apid ctid = some (appFlag, pattern)) :
    controlSetLevel field flags s apid ctid value writes =
        updateMatching field flags s appFlag pattern value writes ↔
      (appFlag = true → (∃ ids ∈ ownIds s, matchesPattern pattern ids.1 = true) →
        ∀ ids ∈ ownIds s, ¬ FarBelow pattern ids.1) := by
  obtain ⟨hzero, hlen⟩ := requestPattern_text hpattern
  rw [controlSetLevel_pattern hpattern, updateMatching, ownIds, LevelState.ownContexts]
  cases hfind : dltDaemonFindUsersList s.daemon s.daemon.ecuid with
  | none => exact ⟨fun _ _ _ _ hids => absurd hids not_mem_nil, fun _ => rfl⟩
  | some l =>
  cases hl : s.daemon.userList[l]? with
  | none =>
    simp only [bind_eq_bind, bind_some, hl, bind_none, elim_none]
    exact ⟨fun _ _ _ _ hids => absurd hids not_mem_nil, fun _ => trivial⟩
  | some users =>
  have hr : Registered users := h users (mem_of_getElem? hl)
  have hids : s.contextIds l = ((users.contexts.map ids)[·]?) := by
    funext i
    simp only [LevelState.contextIds, LevelState.context, hl, bind_some, getElem?_map]
  simp only [bind_eq_bind, bind_some, hl, Option.pure_def, elim_some]
  rw [← scan_complete_iff hr hzero hlen, ← scan_eq_filter_iff, findMultiple_eq_scan, hids]
  -- the contexts that match are those that the scan looks for
  have hhits : (range users.numContexts).filter (fun i =>
      ((users.contexts.map ids)[i]?).elim false fun ids =>
        matchesPattern pattern (patternId appFlag ids)) =
      hits (positionVerdict appFlag pattern ((users.contexts.map ids)[·]?))
        (range users.numContexts) := by
    apply filter_congr
    intro i _
    rw [positionVerdict]
    cases (users.contexts.map ids)[i]? with
    | none => rfl
    | some ids =>
      rw [Bool.eq_iff_iff, decide_eq_true_eq, elim_some, elim_some, levelVerdict_hit_iff hzero hlen]
  rw [hhits]
  constructor
  · intro heq
    have hsome : ∀ i ∈ range users.numContexts, (s.contextIds l i).isSome := by
      intro i hi
      have hlt : i < (users.contexts.map ids).length := by
        rw [length_map, ← hr.numContexts_eq]
        exact mem_range.mp hi
      simp only [hids, getElem?_eq_getElem hlt, isSome_some]
    have hpref := scan_prefix (positionVerdict appFlag pattern ((users.contexts.map ids)[·]?))
      (range users.numContexts)
    have hhitsome : ∀ i ∈ hits (positionVerdict appFlag pattern
        ((users.contexts.map ids)[·]?)) (range users.numContexts),
        (s.contextIds l i).isSome := fun i hi => hsome i (mem_of_mem_filter hi)
    have hlength := congrArg (fun s : LevelState Buf => s.responses.length) heq
    rw [length_responses_update fun i hi => hhitsome i (hpref.subset hi), length_responses_update hhitsome] at hlength
    exact hpref.eq_of_length (by omega)
  · intro heq
    rw [heq]

end requests

/-! ## Samples -/

def matchedApplication (apid : Id4) : DltDaemonApplication where
  apid
  pid := 17
  userHandle := 5
  ownsUserHandle := false
  applicationDescription := none
  numContexts := 1

def matchedContext (apid : Id4) (logLevelPos : ℤ) : DltDaemonContext where
  apid
  ctid := dltSetId (ascii "CTX")
  logLevel := 4
  traceStatus := 0
  logLevelPos
  userHandle := 5
  contextDescription := none
  storageLogLevel := -1
  predefined := false

/-- Tables of an application `A` and of one whose id is the byte `0xc3`. -/
def matchedTables : DltDaemonRegisteredUsers where
  applications := [matchedApplication (dltSetId (ascii "A")), matchedApplication (dltSetId [0xc3])]
  numApplications := 2
  applicationsRoom := 500
  contexts := [matchedContext (dltSetId (ascii "A")) 0, matchedContext (dltSetId [0xc3]) 1]
  numContexts := 2
  contextsRoom := 1000
  ecu := emptyDaemon.ecuid

theorem matchedTables_registered : Registered matchedTables := by
  refine ⟨⟨?_, ?_, ?_, ?_, ?_, ?_⟩, rfl, rfl, ⟨rfl, .inl (by decide)⟩, ⟨rfl, .inl (by decide)⟩⟩
  · unfold StrictSorted
    decide
  · unfold StrictSorted
    decide
  · decide
  · decide
  · decide
  · decide

/-- A daemon with these tables. -/
def sampleMatchingDaemon : DltDaemon Unit := { emptyDaemon with userList := [matchedTables] }

theorem sampleMatchingDaemon_registered : AllRegistered sampleMatchingDaemon := by
  intro users husers
  rw [mem_singleton.mp husers]
  exact matchedTables_registered

/-- A request for the application ids that begin with `A`. -/
theorem controlSetLevel_matching_iff_sample :
    controlSetLevel .logLevel (sampleFlags false) ⟨sampleMatchingDaemon, [], []⟩ (dltSetId (ascii "A*")) (dltSetId []) 6
        (fun _ => .ok) =
      updateMatching .logLevel (sampleFlags false) ⟨sampleMatchingDaemon, [], []⟩ true (ascii "A*") 6 (fun _ => .ok) :=
  (controlSetLevel_matching_iff sampleMatchingDaemon_registered rfl).mpr fun _ _ => by decide

/-- The context of the application `0xc3` is not updated: the scan stops at the application `A`. -/
theorem controlSetLevel_skips_context :
    requestPattern (dltSetId [0xc3]) (dltSetId []) = some (true, [0xc3]) ∧
      (∃ ids ∈ ownIds (⟨sampleMatchingDaemon, [], []⟩ : LevelState Unit), matchesPattern [0xc3] ids.1 = true) ∧
      controlSetLevel .logLevel (sampleFlags false) ⟨sampleMatchingDaemon, [], []⟩ (dltSetId [0xc3])
          (dltSetId []) 6 (fun _ => .ok) = ⟨sampleMatchingDaemon, [], []⟩ ∧
      controlSetLevel .logLevel (sampleFlags false) ⟨sampleMatchingDaemon, [], []⟩ (dltSetId [0xc3]) (dltSetId []) 6
          (fun _ => .ok) ≠
        updateMatching .logLevel (sampleFlags false) ⟨sampleMatchingDaemon, [], []⟩ true [0xc3] 6 (fun _ => .ok) := by
  have hnothing : controlSetLevel .logLevel (sampleFlags false) ⟨sampleMatchingDaemon, [], []⟩ (dltSetId [0xc3])
      (dltSetId []) 6 (fun _ => .ok) = ⟨sampleMatchingDaemon, [], []⟩ := rfl
  have honce : (updateMatching .logLevel (sampleFlags false) ⟨sampleMatchingDaemon, [], []⟩ true [0xc3] 6
      (fun _ => .ok)).responses.length = 1 := rfl
  refine ⟨rfl, ⟨(dltSetId [0xc3], dltSetId (ascii "CTX")), by decide, by decide⟩, hnothing, ?_⟩
  intro heq
  rw [← heq, hnothing] at honce
  exact absurd honce (by decide)

end Dlt.Daemon
