import Dlt.Client.LogInfoRoundTrip
import Dlt.Daemon.RawIds

/-!
# What the GET_LOG_INFO reply is filled with

* `filledExactly_iff` — **when this is so**: the counters fit their 16-bit fields and nothing is left out.
-/

namespace Dlt.Client

open Dlt.Lib Dlt.Shared Dlt.Daemon List
open Option (bind_eq_some_iff bind_some getD_none map_none map_some toList_some)

variable {turn : Id4 × ℕ × DltDaemonApplication} {application : DltDaemonApplication}

/-! ## The loops -/

section loops

variable (users : DltDaemonRegisteredUsers) (req : DltServiceGetLogInfoRequest)

/-- The request names one context of one application. -/
def namesContext : Bool := !req.apid.isEmpty && !req.ctid.isEmpty

def selectedApplications : List DltDaemonApplication :=
  if req.apid.isEmpty then users.applications else (users.select req).application.toList

/-- The contexts of a selected application that a request selects. -/
def selectedContexts (application : DltDaemonApplication) : List DltDaemonContext :=
  if namesContext req then (users.select req).context.toList else contextsOf users application

/-- One turn of the loop over the applications: the id that is looked for, the position and the entry. -/
def logInfoTurn (i : ℕ) : Option (Id4 × ℕ × DltDaemonApplication) :=
  (if req.apid.isEmpty then (users.applications[i]?).map DltDaemonApplication.apid else some req.apid).bind
    fun apid => (users.applicationFind apid).bind fun a =>
      (users.applications[a]?).map fun application => (apid, a, application)

/-- The applications that the loop comes to. -/
def logInfoTurns : List (Id4 × ℕ × DltDaemonApplication) :=
  (List.range ((users.select req).numApplications % 65536)).filterMap (logInfoTurn users req)

/-- The counter `count_con_ids` of a turn. -/
def countConIds (application : DltDaemonApplication) : ℕ :=
  (if req.apid.isEmpty then application.numContexts.toNat else (users.select req).numContexts) % 65536

/-- The contexts that the loop of a turn looks at. -/
def logInfoVisits (turn : Id4 × ℕ × DltDaemonApplication) : List (Option DltDaemonContext) :=
  (List.range (countConIds users req turn.2.2)).map fun j =>
    if countConIds users req turn.2.2 = 1 ∧ !req.apid.isEmpty ∧ !req.ctid.isEmpty then (users.select req).context
    else users.contexts[users.offsetBase turn.2.1 + j]?

/-- A context that the loop comes to is written. -/
def isWritten (context : DltDaemonContext) : Bool := req.ctid.isEmpty ∨ context.ctid = req.ctid

/-- The bytes of a context that is looked at. -/
def visitBytes (context : Option DltDaemonContext) : List UInt8 :=
  match context with
  | some context => if isWritten req context then logInfoContext req.options context else []
  | none => []

/-- The bytes written are as many as were allocated, the loop comes to all selected applications, and the loop of
an application visits the contexts that are selected, which are its own. -/
structure FilledExactly : Prop where
  fills : (logInfoWritten users req (users.select req)).length = logInfoDatasize users req (users.select req)
  applications : (logInfoTurns users req).map (·.2.2) = selectedApplications users req
  contexts : ∀ turn ∈ logInfoTurns users req,
    logInfoVisits users req turn = (selectedContexts users req turn.2.2).map some
  own : ∀ turn ∈ logInfoTurns users req, ∀ c, some c ∈ logInfoVisits users req turn → c ∈ contextsOf users turn.2.2

/-! ## When the reply is filled -/

/-- The counters of the reply have sixteen bits. -/
structure CountsFit : Prop where
  applications : (selectedApplications users req).length < 65536
  contexts : ∀ a ∈ selectedApplications users req, (selectedContexts users req a).length < 65536

/-- The size of a context that is counted and not written. -/
def skippedSize (context : DltDaemonContext) : ℕ :=
  if isWritten req context then 0 else (logInfoContext req.options context).length

/-- What is counted for the size and not written: the number of applications when there is none, and the selected
contexts whose id is not the one of the request, byte by byte. -/
def leftOut : ℕ :=
  (if selectedApplications users req = [] then 2 else 0) +
    ((selectedApplications users req).map fun a =>
      ((selectedContexts users req a).map (skippedSize req)).sum).sum

/-- Nothing is left out when an application is selected, and the contexts that are selected are written. -/
theorem leftOut_eq_zero_iff : leftOut users req = 0 ↔ selectedApplications users req ≠ [] ∧
    ∀ a ∈ selectedApplications users req, ∀ c ∈ selectedContexts users req a, isWritten req c = true := by
  have hskipped : ∀ c, skippedSize req c = 0 ↔ isWritten req c = true := by
    intro c
    unfold skippedSize
    rw [length_logInfoContext]
    split_ifs with h <;> simp [h]
  simp [leftOut, List.sum_eq_zero_iff_forall_eq_nat, hskipped]

end loops

/-! ## What is selected -/

section selected

variable {users : DltDaemonRegisteredUsers} {req : DltServiceGetLogInfoRequest}

theorem select_all (hapid : req.apid.isEmpty = true) :
    users.select req = ⟨none, 0, none, users.numApplications, users.numContexts⟩ := if_pos hapid

/-- A request that names an application selects it with its contexts, or with the context that it names, or
nothing. -/
theorem select_named (hapid : req.apid.isEmpty = false) :
    (∃ i application, users.applicationFind req.apid = some i ∧ users.applications[i]? = some application ∧
      (users.select req).application = some application ∧ (users.select req).position = i ∧
      (users.select req).numApplications = 1 ∧
      (req.ctid.isEmpty = true → (users.select req).numContexts = application.numContexts.toNat) ∧
      (req.ctid.isEmpty = false →
        (users.select req).context = (users.contextFind req.apid req.ctid).bind (users.contexts[·]?) ∧
          (users.select req).numContexts = (users.select req).context.toList.length)) ∨
    ((users.applicationFind req.apid).bind (users.applications[·]?) = none ∧
      users.select req = ⟨none, 0, none, 0, 0⟩) := by
  have hnot : ¬ req.apid.isEmpty = true := by rw [hapid]; decide
  unfold DltDaemonRegisteredUsers.select
  rw [if_neg hnot]
  cases hfind : users.applicationFind req.apid with
  | none => exact .inr ⟨rfl, rfl⟩
  | some i =>
  cases happ : users.applications[i]? with
  | none =>
    refine .inr ⟨?_, ?_⟩
    · rw [bind_some, happ]
    · simp only [happ]
  | some application =>
    refine .inl ⟨i, application, rfl, happ, ?_⟩
    simp only [happ]
    by_cases hctid : req.ctid.isEmpty = true
    · simp [hctid]
    · simp only [hctid, Bool.false_eq_true, if_false, false_implies, true_and]
      cases (users.contextFind req.apid req.ctid).bind fun c => users.contexts[c]? with
      | none => exact ⟨rfl, rfl, rfl, fun _ => ⟨rfl, rfl⟩⟩
      | some context => exact ⟨rfl, rfl, rfl, fun _ => ⟨rfl, rfl⟩⟩

/-- Without a context in the request all contexts of an application are selected. -/
theorem selectedContexts_eq (h : namesContext req = false) (application : DltDaemonApplication) :
    selectedContexts users req application = contextsOf users application := by
  rw [selectedContexts, h]
  rfl

theorem getElem?_of_turn (h : turn ∈ logInfoTurns users req) :
    users.applications[turn.2.1]? = some turn.2.2 := by
  obtain ⟨i, -, hi⟩ := mem_filterMap.mp h
  obtain ⟨apid, -, hapid⟩ := bind_eq_some_iff.mp hi
  obtain ⟨a, -, ha⟩ := bind_eq_some_iff.mp hapid
  obtain ⟨application, happ, rfl⟩ := Option.map_eq_some_iff.mp ha
  exact happ

theorem filterMap_range_getElem? {α : Type*} (xs : List α) (n : ℕ) :
    (List.range n).filterMap (xs[·]?) = xs.take n := by
  induction n with
  | zero => rfl
  | succ n ih =>
    rw [range_succ, filterMap_append, ih, take_add_one, filterMap_cons, filterMap_nil]
    cases xs[n]? <;> rfl

/-- The turns for a request for everything are the first applications of the table. -/
theorem turns_all (hr : Registered users) (hapid : req.apid.isEmpty = true) :
    (logInfoTurns users req).map (·.2.2) = users.applications.take (users.applications.length % 65536) := by
  have hturn : (fun i => (logInfoTurn users req i).map (·.2.2)) = (users.applications[·]?) := by
    funext i
    unfold logInfoTurn
    rw [if_pos hapid]
    cases hi : users.applications[i]? with
    | none => rfl
    | some application =>
      have hfind : users.applicationFind application.apid = some i :=
        (hr.applicationFind_iff (hr.apid_canonical (mem_of_getElem? hi))).mpr (by rw [hi]; rfl)
      simp only [map_some, bind_some, hfind, hi]
  rw [logInfoTurns, map_filterMap, hturn, filterMap_range_getElem?, select_all hapid, hr.numApplications_eq]

theorem turns_named (hapid : req.apid.isEmpty = false) :
    (logInfoTurns users req).map (·.2.2) = (users.select req).application.toList := by
  unfold logInfoTurns
  rcases @select_named users req hapid with ⟨i, application, hfind, happ, hselected, -, hone, -, -⟩ | ⟨-, hnone⟩
  · rw [hone, hselected]
    simp [logInfoTurn, hapid, hfind, happ]
  · rw [hnone]
    rfl

section

variable (hr : Registered users)
include hr

/-- **The loop comes to the selected applications**, as far as its counter goes. -/
theorem turns_eq :
    (logInfoTurns users req).map (·.2.2) =
      (selectedApplications users req).take ((selectedApplications users req).length % 65536) := by
  unfold selectedApplications
  by_cases hapid : req.apid.isEmpty = true
  · rw [if_pos hapid, turns_all hr hapid]
  · rw [if_neg hapid, turns_named (Bool.not_eq_true _ ▸ hapid), take_of_length_le]
    cases (users.select req).application with
    | none => exact Nat.le_refl 0
    | some application => exact show 1 ≤ 1 % 65536 by decide

theorem mem_selected_of_turn (h : turn ∈ logInfoTurns users req) :
    turn.2.2 ∈ selectedApplications users req := by
  apply mem_of_mem_take (i := (selectedApplications users req).length % 65536)
  rw [← turns_eq hr]
  exact mem_map.mpr ⟨turn, h, rfl⟩

/-- The counter of a turn is the number of the selected contexts, in sixteen bits. -/
theorem countConIds_eq (h : application ∈ selectedApplications users req) :
    countConIds users req application = (selectedContexts users req application).length % 65536 := by
  unfold countConIds selectedApplications at *
  by_cases hapid : req.apid.isEmpty = true
  · rw [if_pos hapid] at h ⊢
    rw [selectedContexts_eq (by rw [namesContext, hapid]; rfl), numContexts_eq_length hr h, Int.toNat_natCast]
  rw [if_neg hapid] at h ⊢
  rcases @select_named users req (Bool.not_eq_true _ ▸ hapid) with
    ⟨i, application', -, happ, hselected, -, -, hall, hone⟩ | ⟨-, hnone⟩
  · rw [hselected] at h
    obtain rfl : application = application' := mem_singleton.mp h
    by_cases hctid : req.ctid.isEmpty = true
    · rw [selectedContexts_eq (by rw [namesContext, hctid, Bool.not_true, Bool.and_false]), hall hctid,
        numContexts_eq_length hr (mem_of_getElem? happ), Int.toNat_natCast]
    · rw [Bool.not_eq_true] at hctid hapid
      rw [(hone hctid).2, selectedContexts, namesContext, hapid, hctid]
      rfl
  · rw [hnone] at h
    exact absurd h not_mem_nil

theorem length_visits (h : turn ∈ logInfoTurns users req) :
    (logInfoVisits users req turn).length = (selectedContexts users req turn.2.2).length % 65536 := by
  rw [logInfoVisits, length_map, length_range, countConIds_eq hr (mem_selected_of_turn hr h)]

/-- **The loop of a turn visits the selected contexts** when their number has sixteen bits. -/
theorem visits_eq (h : turn ∈ logInfoTurns users req)
    (hfits : (selectedContexts users req turn.2.2).length < 65536) :
    logInfoVisits users req turn = (selectedContexts users req turn.2.2).map some := by
  have hcount := countConIds_eq hr (mem_selected_of_turn hr h)
  rw [Nat.mod_eq_of_lt hfits] at hcount
  unfold logInfoVisits
  rw [hcount]
  by_cases hnames : namesContext req = true
  · -- one context or none
    rw [selectedContexts, if_pos hnames] at hfits ⊢
    rw [namesContext, Bool.and_eq_true] at hnames
    cases hcontext : (users.select req).context with
    | none => rfl
    | some context => simp only [toList_some, length_singleton, range_one, map_cons,
        map_nil, hnames.1, hnames.2, and_self, if_true]
  · rw [Bool.not_eq_true] at hnames
    rw [selectedContexts_eq hnames]
    apply ext_getElem?
    intro j
    have hguard : ¬ ((contextsOf users turn.2.2).length = 1 ∧ !req.apid.isEmpty ∧ !req.ctid.isEmpty) := by
      rintro ⟨-, hapid, hctid⟩
      rw [namesContext, hapid, hctid] at hnames
      exact absurd hnames (by decide)
    simp only [if_neg hguard, getElem?_map]
    rcases Nat.lt_or_ge j (contextsOf users turn.2.2).length with hlt | hge
    · rw [getElem?_range hlt, getElem?_eq_getElem hlt, map_some, map_some,
        getElem?_contextsOf hr (getElem?_of_turn h) (getElem?_eq_getElem hlt)]
    · rw [getElem?_eq_none (by rw [length_range]; exact hge), getElem?_eq_none hge]
      rfl

/-- The context that a request names belongs to the application that it names. -/
theorem mem_contextsOf_of_named (hnames : namesContext req = true)
    (happlication : application ∈ selectedApplications users req) {context : DltDaemonContext}
    (hcontext : (users.select req).context = some context) : context ∈ contextsOf users application := by
  rw [namesContext, Bool.and_eq_true, Bool.not_eq_true', Bool.not_eq_true'] at hnames
  obtain ⟨hapid, hctid⟩ := hnames
  rw [selectedApplications, hapid] at happlication
  rcases @select_named users req hapid with ⟨i, application', hfind, happ, hselected, -, -, -, hone⟩ | ⟨-, hnone⟩
  · simp only [Bool.false_eq_true, if_false, hselected, toList_some, mem_singleton] at happlication
    subst happlication
    rw [(hone hctid).1] at hcontext
    obtain ⟨c, hc, hget⟩ := bind_eq_some_iff.mp hcontext
    -- what a search finds is found by the ids up to their first zero too
    have hseenApp : ¬ HiddenApplication users req.apid := by
      intro hhidden
      rw [applicationFind_hidden hr.numApplications_eq hhidden] at hfind
      cases hfind
    have hseen : ¬ HiddenContexts users req.apid := by
      intro hhidden
      rw [contextFind_hidden hr.numContexts_eq hhidden] at hc
      cases hc
    rw [applicationFind_raw hr hseenApp, hr.applicationFind_iff (canonical_dltSetId _), happ] at hfind
    rw [contextFind_raw hr (.inl hseen),
      hr.contextFind_iff (canonical_dltSetId _) (canonical_dltSetId _), hget] at hc
    have hsame : context.apid = application.apid := by
      rw [show application.apid = dltSetId req.apid.bytes from Option.some.inj hfind]
      exact congrArg Prod.fst (Option.some.inj hc)
    exact mem_filter.mpr ⟨mem_of_getElem? hget, decide_eq_true hsame⟩
  · rw [hnone] at hcontext
    cases hcontext

/-- The selected contexts of a selected application are its own. -/
theorem selectedContexts_own (h : application ∈ selectedApplications users req) {context : DltDaemonContext}
    (hcontext : context ∈ selectedContexts users req application) :
    context ∈ contextsOf users application := by
  by_cases hnames : namesContext req = true
  · rw [selectedContexts, if_pos hnames] at hcontext
    exact mem_contextsOf_of_named hr hnames h (Option.mem_toList.mp hcontext)
  · rwa [selectedContexts_eq (Bool.not_eq_true _ ▸ hnames)] at hcontext

end

end selected

/-! ## The sizes -/

section sizes

variable {users : DltDaemonRegisteredUsers} {req : DltServiceGetLogInfoRequest}

/-- The size of the description of an application in the reply. -/
def applicationDescriptionSize (options : ℕ) (application : DltDaemonApplication) : ℕ :=
  if options = 7 then descriptionSize application.applicationDescription else 0

/-- The size of a selected application with its selected contexts. -/
def applicationSize (users : DltDaemonRegisteredUsers) (req : DltServiceGetLogInfoRequest)
    (application : DltDaemonApplication) : ℕ :=
  6 + ((selectedContexts users req application).map fun c => (logInfoContext req.options c).length).sum +
    applicationDescriptionSize req.options application

/-- The size of contexts, as it is counted: the fixed part of each, and the descriptions. -/
theorem sum_length_logInfoContext (options : ℕ) (contexts : List DltDaemonContext) :
    (contexts.map fun c => (logInfoContext options c).length).sum =
      contexts.length * (4 + (if wantsLogLevel options then 1 else 0) + if wantsTraceStatus options then 1 else 0) +
        if options = 7 then (contexts.map fun c => descriptionSize c.contextDescription).sum else 0 := by
  simp only [length_logInfoContext, sum_map_add, map_const', sum_replicate_nat, Nat.mul_add]
  by_cases hseven : options = 7
  · simp [hseven]
  · simp [hseven]

theorem logInfoSize_named (hr : Registered users) (hapid : req.apid.isEmpty = false)
    (happlication : (users.select req).application = some application) :
    logInfoSize users req (users.select req) = 11 + applicationSize users req application := by
  rcases @select_named users req hapid with
      ⟨i, application', -, happ, hselected, hposition, hone, hall, hnamed⟩ | ⟨-, hnone⟩
  swap
  · rw [hnone] at happlication
    cases happlication
  rw [hselected] at happlication
  obtain rfl := Option.some.inj happlication
  -- the contexts are counted, and their descriptions are those of the selected ones
  have hcontexts : (users.select req).numContexts = (selectedContexts users req application').length ∧
      (if req.ctid.isEmpty then
        (users.contexts.drop (users.offsetBase (users.select req).position)).take application'.numContexts.toNat
      else (users.select req).context.toList) = selectedContexts users req application' := by
    by_cases hctid : req.ctid.isEmpty = true
    · rw [if_pos hctid, hposition, slice_eq_contextsOf hr happ, hall hctid,
        selectedContexts_eq (by rw [namesContext, hctid, Bool.not_true, Bool.and_false]),
        numContexts_eq_length hr (mem_of_getElem? happ), Int.toNat_natCast]
      exact ⟨rfl, rfl⟩
    · rw [if_neg hctid]
      rw [Bool.not_eq_true] at hctid
      rw [selectedContexts, if_pos (show namesContext req = true by rw [namesContext, hapid, hctid]; rfl)]
      exact ⟨(hnamed hctid).2, rfl⟩
  rw [logInfoSize, hone, hcontexts.1, applicationSize, sum_length_logInfoContext, applicationDescriptionSize,
    logInfoDescriptionsSize, hapid, hselected]
  dsimp only
  rw [hcontexts.2]
  by_cases hseven : req.options = 7
  · rw [if_neg (not_not.mpr hseven), if_neg Bool.false_ne_true, if_pos hseven, if_pos hseven]
    omega
  · rw [if_pos hseven, if_neg hseven, if_neg hseven]
    omega

/-- **The size that is allocated** is that of the selected applications. -/
theorem logInfoSize_selected (hr : Registered users) :
    logInfoSize users req (users.select req) =
      11 + ((selectedApplications users req).map (applicationSize users req)).sum := by
  by_cases hapid : req.apid.isEmpty = true
  · rw [logInfoSize_eq hr hapid, length_flatMap, selectedApplications, if_pos hapid]
    congr 2
    apply map_congr_left
    intro a _
    rw [length_writtenApplication, applicationSize, applicationDescriptionSize,
      selectedContexts_eq (by rw [namesContext, hapid]; rfl)]
  · rw [Bool.not_eq_true] at hapid
    rw [selectedApplications, if_neg (by rw [hapid]; decide)]
    cases happlication : (users.select req).application with
    | some application =>
      rw [logInfoSize_named hr hapid happlication, toList_some, map_singleton, sum_singleton]
    | none =>
      rcases @select_named users req hapid with ⟨i, application', -, -, hselected, -⟩ | ⟨-, hnone⟩
      · rw [hselected] at happlication
        cases happlication
      · rw [hnone, logInfoSize, logInfoDescriptionsSize, hapid]
        simp

/-- The bytes of a turn are those of the contexts that it looks at, and the description. -/
theorem length_logInfoApplication (turn : Id4 × ℕ × DltDaemonApplication) :
    (logInfoApplication users req (users.select req) turn.1 turn.2.1 turn.2.2).length =
      6 + ((logInfoVisits users req turn).map fun c => (visitBytes req c).length).sum +
        applicationDescriptionSize req.options turn.2.2 := by
  have hdescription : (if req.options = 7 then logInfoDescription turn.2.2.applicationDescription else []).length =
      applicationDescriptionSize req.options turn.2.2 := by
    unfold applicationDescriptionSize
    split_ifs
    · simp [logInfoDescription, descriptionSize]
    · rfl
  have hcontexts : (logInfoVisits users req turn).map (fun c => (visitBytes req c).length) =
      (List.range (countConIds users req turn.2.2)).map fun j => (visitBytes req
        (if countConIds users req turn.2.2 = 1 ∧ !req.apid.isEmpty ∧ !req.ctid.isEmpty then
          (users.select req).context else users.contexts[users.offsetBase turn.2.1 + j]?)).length := by
    rw [logInfoVisits, map_map]
    rfl
  unfold logInfoApplication
  rw [hcontexts, length_append, length_append, length_append, Id4.length_eq, length_leBytes,
    length_flatMap, hdescription]
  refine congrArg (fun n => 4 + 2 + n + _) (congrArg sum (map_congr_left fun j _ => ?_))
  simp only [visitBytes, isWritten, decide_eq_true_eq]
  rfl

theorem flatMap_filterMap_toList {α β γ : Type*} (xs : List α) (g : α → Option β) (f : β → List γ) :
    (xs.filterMap g).flatMap f = xs.flatMap fun x => ((g x).map f).getD [] := by
  induction xs with
  | nil => rfl
  | cons x xs ih =>
    rw [filterMap_cons, flatMap_cons, ← ih]
    cases g x <;> rfl

theorem length_logInfoWritten (users : DltDaemonRegisteredUsers) (req : DltServiceGetLogInfoRequest) :
    (logInfoWritten users req (users.select req)).length =
      9 + if (users.select req).numApplications % 65536 = 0 then 0
        else 2 + ((logInfoTurns users req).map fun turn =>
          (logInfoApplication users req (users.select req) turn.1 turn.2.1 turn.2.2).length).sum := by
  have hturns : (logInfoTurns users req).flatMap (fun turn =>
      logInfoApplication users req (users.select req) turn.1 turn.2.1 turn.2.2) =
      (List.range ((users.select req).numApplications % 65536)).flatMap fun i =>
        ((logInfoTurn users req i).map fun turn =>
          logInfoApplication users req (users.select req) turn.1 turn.2.1 turn.2.2).getD [] :=
    flatMap_filterMap_toList _ _ _
  rw [← length_flatMap, hturns]
  unfold logInfoWritten
  simp only [length_append, Id4.length_eq, length_leBytes, length_singleton]
  by_cases hzero : (users.select req).numApplications % 65536 = 0
  · simp [hzero]
  · simp only [hzero, if_false, length_append, length_leBytes, length_flatMap]
    have hadd : ∀ a b : ℕ, a = b → 4 + 1 + (2 + a) + 4 = 9 + (2 + b) := by omega
    apply hadd
    apply congrArg sum
    apply map_congr_left
    intro i _
    apply congrArg List.length
    unfold logInfoTurn
    cases hid : (if req.apid.isEmpty = true then (users.applications[i]?).map DltDaemonApplication.apid
        else some req.apid) with
    | none => rfl
    | some apid =>
    cases hfind : users.applicationFind apid with
    | none => simp only [bind_some, hfind, Option.bind_none, map_none, getD_none]
    | some a =>
    cases happ : users.applications[a]? with
    | none => simp only [bind_some, hfind, happ, map_none, getD_none]
    | some application => simp only [bind_some, hfind, happ, map_some, Option.getD_some]

end sizes

/-! ## When the reply is filled exactly -/

section filled

variable {users : DltDaemonRegisteredUsers} {req : DltServiceGetLogInfoRequest}

/-- The counter of the loop is the number of the selected applications. -/
theorem numApplications_eq_selected (hr : Registered users) :
    (users.select req).numApplications = (selectedApplications users req).length := by
  by_cases hapid : req.apid.isEmpty = true
  · rw [select_all hapid, selectedApplications, if_pos hapid, hr.numApplications_eq]
  · rw [selectedApplications, if_neg hapid]
    rcases @select_named users req (Bool.not_eq_true _ ▸ hapid) with
        ⟨i, application, -, -, hselected, -, hone, -⟩ | ⟨-, hnone⟩
    · rw [hone, hselected]
      rfl
    · rw [hnone]
      rfl

/-- What a context takes in the reply, and what it is counted for. -/
theorem visitBytes_add_skippedSize (context : DltDaemonContext) :
    (visitBytes req (some context)).length + skippedSize req context =
      (logInfoContext req.options context).length := by
  rw [visitBytes, skippedSize]
  split_ifs
  · rw [Nat.add_zero]
  · rw [length_nil, Nat.zero_add]

/-- **What is written and what is left out** make the size that was allocated. -/
theorem length_written_add_leftOut (hr : Registered users) (hfits : CountsFit users req) :
    (logInfoWritten users req (users.select req)).length + leftOut users req =
      logInfoSize users req (users.select req) := by
  have hturns : (logInfoTurns users req).map (·.2.2) = selectedApplications users req := by
    rw [turns_eq hr, Nat.mod_eq_of_lt hfits.applications, take_length]
  -- the bytes of a turn depend on its application only
  have hbytes : ∀ turn ∈ logInfoTurns users req,
      (logInfoApplication users req (users.select req) turn.1 turn.2.1 turn.2.2).length =
        6 + ((selectedContexts users req turn.2.2).map fun c => (visitBytes req (some c)).length).sum +
          applicationDescriptionSize req.options turn.2.2 := by
    intro turn hturn
    rw [length_logInfoApplication,
      visits_eq hr hturn (hfits.contexts _ (mem_selected_of_turn hr hturn)), map_map]
    rfl
  have hsum : ((logInfoTurns users req).map fun turn =>
      (logInfoApplication users req (users.select req) turn.1 turn.2.1 turn.2.2).length).sum =
      ((selectedApplications users req).map fun a =>
        6 + ((selectedContexts users req a).map fun c => (visitBytes req (some c)).length).sum +
          applicationDescriptionSize req.options a).sum := by
    rw [← hturns, map_map, map_congr_left hbytes]
    rfl
  have hsize : ((selectedApplications users req).map (applicationSize users req)).sum =
      ((selectedApplications users req).map fun a =>
        6 + ((selectedContexts users req a).map fun c => (visitBytes req (some c)).length).sum +
          applicationDescriptionSize req.options a).sum +
      ((selectedApplications users req).map fun a =>
        ((selectedContexts users req a).map (skippedSize req)).sum).sum := by
    rw [← sum_map_add]
    apply congrArg sum
    apply map_congr_left
    intro a _
    have hcontexts : ((selectedContexts users req a).map fun c => (logInfoContext req.options c).length).sum =
        ((selectedContexts users req a).map fun c => (visitBytes req (some c)).length).sum +
          ((selectedContexts users req a).map (skippedSize req)).sum := by
      rw [← sum_map_add]
      apply congrArg sum
      exact map_congr_left fun c _ => (visitBytes_add_skippedSize c).symm
    rw [applicationSize, hcontexts]
    omega
  rw [length_logInfoWritten, hsum, logInfoSize_selected hr, hsize, leftOut, numApplications_eq_selected hr,
    Nat.mod_eq_of_lt hfits.applications]
  by_cases hnil : selectedApplications users req = []
  · rw [hnil]
    rfl
  · rw [if_neg (fun hzero => hnil (length_eq_zero_iff.mp hzero)), if_neg hnil]
    omega

/-- The counters fit when the loops come to everything that is selected. -/
theorem FilledExactly.countsFit (hr : Registered users) (h : FilledExactly users req) : CountsFit users req := by
  have hlength := congrArg List.length h.applications
  rw [turns_eq hr, length_take] at hlength
  refine ⟨by omega, fun a ha => ?_⟩
  rw [← h.applications] at ha
  obtain ⟨turn, hturn, rfl⟩ := mem_map.mp ha
  have hvisits := congrArg List.length (h.contexts turn hturn)
  rw [length_visits hr hturn, length_map] at hvisits
  omega

theorem logInfoDatasize_eq (users : DltDaemonRegisteredUsers) (req : DltServiceGetLogInfoRequest)
    (selection : LogInfoSelection) :
    logInfoDatasize users req selection = logInfoSize users req selection % 2 ^ 32 := by
  unfold logInfoDatasize u32
  omega

/-- **The reply is filled exactly when** the counters fit their 16-bit fields and no byte that was counted is left
out, but for those that the 32-bit size has lost anyway. -/
theorem filledExactly_iff (hr : Registered users) :
    FilledExactly users req ↔ CountsFit users req ∧
      leftOut users req = 2 ^ 32 * (logInfoSize users req (users.select req) / 2 ^ 32) := by
  constructor
  · intro h
    have hfits := h.countsFit hr
    have hsize := length_written_add_leftOut hr hfits
    have hfills := h.fills
    rw [logInfoDatasize_eq] at hfills
    refine ⟨hfits, ?_⟩
    omega
  · rintro ⟨hfits, hleft⟩
    have hsize := length_written_add_leftOut hr hfits
    refine ⟨?_, ?_, ?_, ?_⟩
    · rw [logInfoDatasize_eq]
      omega
    · rw [turns_eq hr, Nat.mod_eq_of_lt hfits.applications, take_length]
    · exact fun turn hturn => visits_eq hr hturn (hfits.contexts _ (mem_selected_of_turn hr hturn))
    · intro turn hturn c hc
      have hselected := mem_selected_of_turn hr hturn
      rw [visits_eq hr hturn (hfits.contexts _ hselected)] at hc
      obtain ⟨context, hcontext, heq⟩ := mem_map.mp hc
      obtain rfl := Option.some.inj heq
      exact selectedContexts_own hr hselected hcontext

end filled

/-! ## Samples -/

theorem filledExactly_iff_sample : FilledExactly (sampleUsers (ascii "d")) (sampleRequest 7) :=
  (filledExactly_iff (sampleUsers_registered (ascii "d"))).mpr
    ⟨⟨by decide, by decide⟩, by decide +kernel⟩

/-- A request for a context id of all applications. -/
def sampleContextRequest : DltServiceGetLogInfoRequest := ⟨3, dltSetId [], dltSetId (ascii "XYZ")⟩

/-- A request for an application that is not registered. -/
def sampleUnknownRequest : DltServiceGetLogInfoRequest := ⟨3, dltSetId (ascii "NONE"), dltSetId []⟩

/-- The reply to a request for a context id of all applications announces contexts that it does not hold, and the
reply about no application has two bytes too many. -/
theorem logInfo_not_filled :
    Registered (sampleUsers (ascii "d")) ∧
      ((logInfoWritten (sampleUsers (ascii "d")) sampleContextRequest
          ((sampleUsers (ascii "d")).select sampleContextRequest)).length = 17 ∧
        logInfoDatasize (sampleUsers (ascii "d")) sampleContextRequest
          ((sampleUsers (ascii "d")).select sampleContextRequest) = 21 ∧
        ¬ FilledExactly (sampleUsers (ascii "d")) sampleContextRequest) ∧
      (logInfoWritten (sampleUsers (ascii "d")) sampleUnknownRequest
          ((sampleUsers (ascii "d")).select sampleUnknownRequest)).length = 9 ∧
        logInfoDatasize (sampleUsers (ascii "d")) sampleUnknownRequest
          ((sampleUsers (ascii "d")).select sampleUnknownRequest) = 11 ∧
        ¬ FilledExactly (sampleUsers (ascii "d")) sampleUnknownRequest := by
  refine ⟨sampleUsers_registered (ascii "d"), ⟨by decide +kernel, by decide +kernel, ?_⟩, by decide +kernel,
    by decide +kernel, ?_⟩
  · intro h
    exact absurd h.fills (by decide +kernel)
  · intro h
    exact absurd h.fills (by decide +kernel)

end Dlt.Client
