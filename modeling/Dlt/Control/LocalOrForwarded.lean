import Dlt.Control.RequestsUnderstood
import Dlt.Daemon.ForwardLog
import Dlt.Gateway.Routing

/-!
# Control requests in gateway mode

* `routedRight_iff` — when that is so.
-/

namespace Dlt.Control

open Dlt.Lib Dlt.Shared Dlt.Daemon Dlt.Gateway List

variable {Buf : Type}

/-! ## The dispatcher -/

/-- What is done with a request. -/
structure Processed where
  executed : Option ControlCall
  /-- The ECU id that is passed to `dlt_gateway_forward_control_message`. -/
  passed : Option (List UInt8)
  gateway : GatewayState

/-- `strcmp` of a text with a string in memory: it reads up to the end of the text at most. -/
def strcmp (text memory : List UInt8) : ℤ := strncmp (text ++ [0]) memory (text.length + 1)

/-- The memory from the ECU id in the parameters on: the session id, the time stamp, and what stands behind them. -/
def behindEcu (extra : DltStandardHeaderExtra) (behind : ℕ → UInt8) (n : ℕ) : List UInt8 :=
  leBytes 4 extra.seid ++ leBytes 4 extra.tmsp ++ (List.range n).map behind

/-- The field for an ECU id as an id. -/
def fieldId (ecu : List UInt8) : Id4 := if h : ecu.length = 4 then ⟨ecu, h⟩ else dltSetId ecu

/-- The gateway mode is on. `behind` is what stands behind the parameters in memory.
Source: `dlt_daemon_client.c`, `dlt_daemon_client_process_control` -/
def dltDaemonClientProcessControlGateway (evalue : List UInt8) (behind : ℕ → UInt8) (env : InjectionEnv)
    (daemon : DltDaemon Buf) (msg : DltMessage) (gateway : GatewayState) : Processed :=
  if msg.datasize < 4 then ⟨none, none, gateway⟩
  else
    let extra := msg.headerextra
    if strcmp evalue (extra.ecu ++ behindEcu extra behind (evalue.length + 1)) ≠ 0 then
      let header := (msg.headerbuffer.drop sizeofDltStorageHeader).take (msg.headersize - sizeofDltStorageHeader)
      let databuffer := (msg.databuffer.getD []).take msg.datasize.toNat
      ⟨none, some extra.ecu, (dltGatewayForwardControlMessage (fieldId extra.ecu) header databuffer gateway).1⟩
    else ⟨dltDaemonClientProcessControl env daemon msg, none, gateway⟩

/-! ## Records -/

/-- The record that the daemon uses again for every message, as its steps leave it. -/
structure DaemonRecord (evalue : List UInt8) where
  msg : DltMessage
  /-- It was used for any messages before. -/
  history : SharedMessage evalue msg
  /-- The field for the ECU id has its size. -/
  size : msg.headerextra.ecu.length = 4

/-- The parameters that a record holds behind a message: its own, and those from before that it does not have. -/
def extraAfter (old : DltStandardHeaderExtra) (f : Frame) : DltStandardHeaderExtra where
  ecu := f.consumed.ecu.getD old.ecu
  seid := f.consumed.seid.getD old.seid
  tmsp := f.consumed.tmsp.getD old.tmsp

/-! ## What is right -/

/-- The ECU id of a message as a string; a message without one has the empty string. -/
def ecuText (f : Frame) : List UInt8 := (f.consumed.ecu.map idText).getD []

/-- The message carries the ECU id of the daemon. -/
def CarriesOwn (evalue : List UInt8) (f : Frame) : Prop :=
  ∃ ecu, f.consumed.ecu = some ecu ∧ idText ecu = idText (ecuidOf evalue).bytes

/-- **A request is routed right**: it is executed when it carries the ECU id of the daemon, and else it is passed on
for its own ECU id and nothing is executed. -/
structure RoutedRight (evalue : List UInt8) (f : Frame) (result : Processed) : Prop where
  own : CarriesOwn evalue f → result.executed.isSome = true ∧ result.passed = none
  other : ¬ CarriesOwn evalue f → result.executed = none ∧ ∃ ecu, result.passed = some ecu ∧ idText ecu = ecuText f

/-- A message whose ECU id is understood. The message has a service. Where it carries an ECU id, the id of the daemon is
configured, and if the two agree what stands behind the field goes on as the configured text does; a text that is
shorter than the field ends in it. Or the id of the daemon is not configured, and the ECU id is neither empty nor the
one by default. A message that carries none finds an empty field, and the id of the daemon is configured. -/
def EcuUnderstood (evalue : List UInt8) (behind : ℕ → UInt8) (old : DltStandardHeaderExtra) (f : Frame) : Prop :=
  4 ≤ f.payload.length ∧
    match f.consumed.ecu with
    | some ecu =>
      if evalue = [] then idText ecu ≠ [] ∧ idText ecu ≠ dltDaemonEcuId
      else
        idText ecu = idText evalue → 4 ≤ evalue.length →
          evalue.drop 4 ++ [0] <+: behindEcu (extraAfter old f) behind (evalue.length + 1)
    | none => idText old.ecu = [] ∧ evalue ≠ []

/-! ## Comparing with a field -/

section compare

variable {text memory field rest : List UInt8}

/-- The comparison succeeds when the memory spells the text up to its end. -/
theorem strcmp_eq_zero_iff (hzero : (0 : UInt8) ∉ text) (hlen : text.length < memory.length) :
    strcmp text memory = 0 ↔ text ++ [0] <+: memory := by
  unfold strcmp
  induction text generalizing memory with
  | nil =>
    cases memory with
    | nil => cases hlen
    | cons b memory =>
      rw [nil_append, length_nil, Nat.zero_add, strncmp, cons_prefix_cons]
      by_cases hb : (0 : UInt8) = b
      · simp [hb]
      · have hne : (0 : UInt8).toNat ≠ b.toNat := fun heq => hb (UInt8.toNat_inj.mp heq)
        rw [if_pos hb]
        simp only [hb, false_and, iff_false]
        omega
  | cons a text ih =>
    cases memory with
    | nil => cases hlen
    | cons b memory =>
      rw [mem_cons, not_or] at hzero
      rw [cons_append, length_cons, strncmp, cons_prefix_cons]
      by_cases hab : a = b
      · rw [if_neg (not_not.mpr hab), if_neg (Ne.symm hzero.1),
          ih hzero.2 (by simpa using hlen)]
        simp [hab]
      · have hne : a.toNat ≠ b.toNat := fun heq => hab (UInt8.toNat_inj.mp heq)
        rw [if_pos hab]
        simp only [hab, false_and, iff_false]
        omega

theorem takeWhile_prefix_iff (hzero : (0 : UInt8) ∉ text) (hlen : text.length < field.length) :
    text ++ [0] <+: field ++ rest ↔ field.takeWhile (· ≠ 0) = text := by
  induction text generalizing field with
  | nil =>
    cases field with
    | nil => cases hlen
    | cons b field =>
      rw [nil_append, cons_append, cons_prefix_cons, takeWhile_cons]
      by_cases hb : b = 0
      · simp [hb]
      · simp [hb, Ne.symm hb]
  | cons a text ih =>
    cases field with
    | nil => cases hlen
    | cons b field =>
      rw [mem_cons, not_or] at hzero
      rw [cons_append, cons_append, cons_prefix_cons, takeWhile_cons,
        ih hzero.2 (by simpa using hlen)]
      by_cases hb : b = 0
      · simp [hb, Ne.symm hzero.1]
      · rw [if_pos (by simpa using hb), List.cons.injEq, eq_comm]

/-- Two blocks of one size agree, and then what stands behind them. -/
theorem append_prefix_iff (hlen : text.length = field.length) {more : List UInt8} :
    text ++ more <+: field ++ rest ↔ field = text ∧ more <+: rest := by
  constructor
  · rintro ⟨behind, hbehind⟩
    rw [append_assoc] at hbehind
    obtain ⟨htext, hmore⟩ := append_inj hbehind hlen
    exact ⟨htext.symm, behind, hmore⟩
  · rintro ⟨rfl, hmore⟩
    exact (prefix_append_right_inj field).mpr hmore

theorem idText_eq_take_iff (hzero : (0 : UInt8) ∉ text) (hfield : field.length = 4) (hlen : 4 ≤ text.length) :
    idText field = idText text ↔ field = text.take 4 := by
  have htake : idText (text.take 4) = text.take 4 :=
    idText_of_short (length_take_le 4 text) fun h => hzero (mem_of_mem_take h)
  have htext : idText text = text.take 4 := by
    rw [← htake, idText, idText, take_take, Nat.min_self]
  rw [htext]
  constructor
  · intro h
    have hfour : (idText field).length = 4 := by
      rw [h, length_take]
      omega
    have htake : field.take 4 = field := take_of_length_le (by omega)
    rw [← h]
    rw [idText, htake] at hfour ⊢
    exact ((List.takeWhile_prefix _).eq_of_length (by omega)).symm
  · intro h
    rw [h, htake]

/-- **The comparison with a field and what stands behind it.** -/
theorem strcmp_field_iff (hzero : (0 : UInt8) ∉ text) (hfield : field.length = 4) (hlen : text.length ≤ rest.length) :
    strcmp text (field ++ rest) = 0 ↔
      idText field = idText text ∧ (4 ≤ text.length → text.drop 4 ++ [0] <+: rest) := by
  rw [strcmp_eq_zero_iff hzero (by rw [length_append]; omega)]
  by_cases hshort : text.length < 4
  · rw [takeWhile_prefix_iff hzero (by omega), idText_of_short (by omega) hzero, idText,
      take_of_length_le (by omega)]
    exact ⟨fun h => ⟨h, fun hle => absurd hshort (by omega)⟩, fun h => h.1⟩
  · have hfour : (text.take 4).length = field.length := by
      rw [length_take]
      omega
    have hsplit := @append_prefix_iff _ _ rest hfour (text.drop 4 ++ [0])
    rw [← append_assoc, take_append_drop] at hsplit
    rw [hsplit, idText_eq_take_iff hzero hfield (by omega)]
    exact ⟨fun h => ⟨h.1, fun _ => h.2⟩, fun h => ⟨h.1, h.2 (by omega)⟩⟩

end compare

/-! ## What a record holds -/

/-- The parameters that a message does not have are as before. -/
structure Keeps (old new : DltStandardHeaderExtra) (htyp : UInt8) : Prop where
  ecu : dltIsHtypWeid htyp = false → new.ecu = old.ecu
  seid : dltIsHtypWsid htyp = false → new.seid = old.seid
  tmsp : dltIsHtypWtms htyp = false → new.tmsp = old.tmsp

section record

variable {malloc : Malloc} {msg : DltMessage} {buffer : List UInt8} {length : ℕ} {resync : Bool} {f : Frame}

theorem dltMessageLoadExtra_keeps (msg : DltMessage) (htyp : UInt8) (extra : List UInt8) :
    Keeps msg.headerextra (dltMessageLoadExtra msg htyp extra).headerextra htyp := by
  unfold dltMessageLoadExtra
  by_cases hpos : extra.length > 0
  · rw [if_pos hpos]
    constructor
    all_goals
      intro h
      simp [dltMessageGetExtraparameters, h]
  · rw [if_neg hpos]
    exact ⟨fun _ => rfl, fun _ => rfl, fun _ => rfl⟩

theorem dltMessageLoadData_headerextra (msg : DltMessage) (payload : List UInt8) :
    (dltMessageLoadData malloc msg payload).1.headerextra = msg.headerextra := by
  unfold dltMessageLoadData dltMessageAllocate
  split_ifs
  · cases hdatabuffer : msg.databuffer <;> simp [hdatabuffer]
  · cases hmalloc : malloc msg.datasize.toNat <;> simp

theorem dltMessageReadBody_keeps (hle : length ≤ buffer.length)
    (hok : (dltMessageReadBody malloc msg buffer length).2 = dltMessageErrorOk) :
    Keeps msg.headerextra (dltMessageReadBody malloc msg buffer length).1.headerextra
      (htypOf (buffer.take length)) := by
  obtain ⟨standard, headersize, datasize, extra, payload, -, heq⟩ := dltMessageReadBody_ok hle hok
  rw [heq, dltMessageLoadData_headerextra]
  exact dltMessageLoadExtra_keeps (dltMessageLoadStandard msg ..) _ _

/-- **An accepted message changes the parameters that it has.** -/
theorem dltMessageRead_keeps (hm : malloc.Succeeds) (h : msg.Wf) (hle : length ≤ buffer.length)
    (hok : (dltMessageRead malloc msg buffer length resync).2 = dltMessageErrorOk) :
    Keeps msg.headerextra (dltMessageRead malloc msg buffer length resync).1.headerextra
      (htypOf (dltMessageRead malloc msg buffer length resync).1.header) :=
  @dltMessageRead_of_body malloc msg buffer length hm h resync hle hok
    (fun m htyp => Keeps msg.headerextra m.headerextra htyp) fun _ _ _ _ hle hok => dltMessageReadBody_keeps hle hok

/-- A parameter that is there is new, and else it is the old one. -/
theorem eq_getD_of_flag {α : Type} {flag : Bool} {new old : α} {carried : Option α}
    (hcarried : (if flag then some new else none) = carried) (hkept : flag = false → new = old) :
    new = carried.getD old := by
  cases flag with
  | true =>
    rw [← hcarried]
    rfl
  | false =>
    rw [← hcarried]
    exact hkept rfl

/-- **What a record holds behind an accepted message.** -/
theorem dltMessageRead_headerextra (h : msg.Wf) (hle : length ≤ buffer.length)
    (hok : (dltMessageRead malloc msg buffer length resync).2 = dltMessageErrorOk)
    (hf : Matches resync (buffer.take length) f) :
    (dltMessageRead malloc msg buffer length resync).1.headerextra = extraAfter msg.headerextra f := by
  have hm := orZero_succeeds malloc
  have hfull := dltMessageRead_of_ok hok
  rw [hfull] at hok ⊢
  have hkeeps := dltMessageRead_keeps hm h hle hok
  have hconsumed := dltMessageRead_consumed hm h hle hf
  set new := (dltMessageRead (orZero malloc) msg buffer length resync).1
  have hecu := eq_getD_of_flag (congrArg Consumed.ecu hconsumed) hkeeps.ecu
  have hseid := eq_getD_of_flag (congrArg Consumed.seid hconsumed) hkeeps.seid
  have htmsp := eq_getD_of_flag (congrArg Consumed.tmsp hconsumed) hkeeps.tmsp
  calc new.headerextra
      = ⟨new.headerextra.ecu, new.headerextra.seid, new.headerextra.tmsp⟩ := rfl
    _ = extraAfter msg.headerextra f := by rw [hecu, hseid, htmsp]; rfl

end record

/-! ## Routing -/

section routing

variable {evalue : List UInt8} {behind : ℕ → UInt8} {env : InjectionEnv} {daemon : DltDaemon Buf}
  {gateway : GatewayState} {msg : DltMessage} {f : Frame} {old : DltStandardHeaderExtra}

theorem length_consumed_ecu (hheader : f.header.length = headerLength (htypOf f.header)) {ecu : List UInt8}
    (hecu : f.consumed.ecu = some ecu) : ecu.length = 4 := by
  simp only [Frame.consumed] at hecu
  split_ifs at hecu with hweid
  rw [Option.some.injEq] at hecu
  unfold headerLength dltStandardHeaderExtraSize at hheader
  rw [if_pos hweid] at hheader
  rw [← hecu, length_take, length_drop]
  unfold sizeofDltStandardHeader dltIdSize at *
  omega

theorem length_extraAfter (hold : old.ecu.length = 4)
    (hheader : f.header.length = headerLength (htypOf f.header)) : (extraAfter old f).ecu.length = 4 := by
  unfold extraAfter
  cases hecu : f.consumed.ecu with
  | none => exact hold
  | some ecu => exact length_consumed_ecu hheader hecu

theorem idText_ecuidOf (hzero : (0 : UInt8) ∉ evalue) :
    idText (ecuidOf evalue).bytes = if evalue = [] then dltDaemonEcuId else idText evalue := by
  unfold ecuidOf
  cases evalue with
  | nil => decide
  | cons b evalue =>
    have hb : b ≠ 0 := fun h => hzero (by rw [h]; exact mem_cons_self ..)
    rw [if_pos (by simpa using hb), if_neg (cons_ne_nil b evalue)]
    exact idText_idText (b :: evalue)

theorem strcmp_extra_iff (hzero : (0 : UInt8) ∉ evalue) {extra : DltStandardHeaderExtra} (hlen : extra.ecu.length = 4) :
    strcmp evalue (extra.ecu ++ behindEcu extra behind (evalue.length + 1)) = 0 ↔
      idText extra.ecu = idText evalue ∧
        (4 ≤ evalue.length → evalue.drop 4 ++ [0] <+: behindEcu extra behind (evalue.length + 1)) := by
  apply strcmp_field_iff hzero hlen
  unfold behindEcu
  simp only [length_append, length_map, length_range]
  omega

/-- Routing is right when the comparison says whether the message carries the ECU id of the daemon, and what is passed
on is its own. -/
theorem routedRight_iff_strcmp (hsize : (4 : ℤ) ≤ msg.datasize) :
    RoutedRight evalue f (dltDaemonClientProcessControlGateway evalue behind env daemon msg gateway) ↔
      (strcmp evalue (msg.headerextra.ecu ++ behindEcu msg.headerextra behind (evalue.length + 1)) = 0 ↔
        CarriesOwn evalue f) ∧
      (CarriesOwn evalue f ∨ idText msg.headerextra.ecu = ecuText f) := by
  have hexecuted : (dltDaemonClientProcessControl env daemon msg).isSome = true := by
    unfold dltDaemonClientProcessControl
    rw [if_neg (by omega)]
    dsimp only
    split_ifs <;> rfl
  unfold dltDaemonClientProcessControlGateway
  rw [if_neg (by omega)]
  dsimp only
  by_cases hequal : strcmp evalue (msg.headerextra.ecu ++ behindEcu msg.headerextra behind (evalue.length + 1)) = 0
  · rw [if_neg (not_not.mpr hequal)]
    constructor
    · intro h
      have hown : CarriesOwn evalue f := by
        by_contra hnot
        have hnone : dltDaemonClientProcessControl env daemon msg = none := (h.other hnot).1
        rw [hnone] at hexecuted
        cases hexecuted
      exact ⟨⟨fun _ => hown, fun _ => hequal⟩, .inl hown⟩
    · intro h
      exact ⟨fun _ => ⟨hexecuted, rfl⟩, fun hnot => absurd (h.1.mp hequal) hnot⟩
  · rw [if_pos hequal]
    constructor
    · intro h
      have hnot : ¬ CarriesOwn evalue f := by
        intro hown
        have hsome := (h.own hown).1
        cases hsome
      obtain ⟨-, ecu, hpassed, htext⟩ := h.other hnot
      rw [Option.some.injEq] at hpassed
      rw [← hpassed] at htext
      exact ⟨⟨fun h => absurd h hequal, fun h => absurd h hnot⟩, .inr htext⟩
    · rintro ⟨hiff, hecu⟩
      have hnot : ¬ CarriesOwn evalue f := fun hown => hequal (hiff.mpr hown)
      exact ⟨fun hown => absurd hown hnot, fun _ => ⟨rfl, _, rfl, hecu.resolve_left hnot⟩⟩

theorem not_routedRight_of_short (hsize : msg.datasize < (4 : ℤ)) :
    ¬ RoutedRight evalue f (dltDaemonClientProcessControlGateway evalue behind env daemon msg gateway) := by
  unfold dltDaemonClientProcessControlGateway
  rw [if_pos hsize]
  intro h
  by_cases hown : CarriesOwn evalue f
  · have hsome := (h.own hown).1
    cases hsome
  · obtain ⟨-, ecu, hpassed, -⟩ := h.other hown
    cases hpassed

/-- **With an ECU id**: what the comparison has to agree with. -/
theorem routed_some_iff (hzero : (0 : UInt8) ∉ evalue) {ecu : List UInt8} (hecu : f.consumed.ecu = some ecu)
    {goesOn : Prop} (hnil : evalue = [] → goesOn) :
    ((idText ecu = idText evalue ∧ goesOn ↔ CarriesOwn evalue f) ∧ (CarriesOwn evalue f ∨ idText ecu = ecuText f)) ↔
      if evalue = [] then idText ecu ≠ [] ∧ idText ecu ≠ dltDaemonEcuId
      else idText ecu = idText evalue → goesOn := by
  have hcarries : CarriesOwn evalue f ↔ idText ecu = if evalue = [] then dltDaemonEcuId else idText evalue := by
    unfold CarriesOwn
    rw [hecu, idText_ecuidOf hzero]
    simp
  have htext : ecuText f = idText ecu := by
    unfold ecuText
    rw [hecu]
    rfl
  rw [hcarries, htext]
  by_cases hempty : evalue = []
  · rw [if_pos hempty, if_pos hempty, hempty]
    have hboth : ¬ (idText ecu = [] ∧ idText ecu = dltDaemonEcuId) := by
      rintro ⟨hecuNil, hecuDefault⟩
      exact absurd (hecuNil.symm.trans hecuDefault) (by decide)
    change ((idText ecu = [] ∧ goesOn ↔ _) ∧ _) ↔ _
    tauto
  · rw [if_neg hempty, if_neg hempty]
    tauto

/-- **Without an ECU id**: the comparison has to fail, and the field to be empty. -/
theorem routed_none_iff (hzero : (0 : UInt8) ∉ evalue) (hecu : f.consumed.ecu = none)
    {goesOn : Prop} (hnil : evalue = [] → goesOn) :
    ((idText old.ecu = idText evalue ∧ goesOn ↔ CarriesOwn evalue f) ∧
        (CarriesOwn evalue f ∨ idText old.ecu = ecuText f)) ↔ idText old.ecu = [] ∧ evalue ≠ [] := by
  have hcarries : ¬ CarriesOwn evalue f := by
    rintro ⟨ecu, hsome, -⟩
    rw [hecu] at hsome
    cases hsome
  have htext : ecuText f = [] := by
    unfold ecuText
    rw [hecu]
    rfl
  have hempty : idText evalue = [] ↔ evalue = [] := by
    cases evalue with
    | nil => exact ⟨fun _ => rfl, fun _ => rfl⟩
    | cons b evalue =>
      have hb : b ≠ 0 := fun h => hzero (by rw [h]; exact mem_cons_self ..)
      simp [idText, hb]
  rw [htext]
  constructor
  · rintro ⟨hiff, howns | hold⟩
    · exact absurd howns hcarries
    · refine ⟨hold, fun hnone => hcarries (hiff.mp ⟨?_, hnil hnone⟩)⟩
      rw [hold, hempty.mpr hnone]
  · rintro ⟨hold, hne⟩
    refine ⟨⟨fun h => ?_, fun h => absurd h hcarries⟩, .inr hold⟩
    exact absurd (hempty.mp (h.1.symm.trans hold)) hne

end routing

section routed

variable {evalue : List UInt8} {malloc : Malloc} {buffer : List UInt8} {length : ℕ} {resync : Bool} {f : Frame}

/-- **When requests are routed right.** The record was used for any messages before. -/
theorem routedRight_iff (record : DaemonRecord evalue) (hzero : (0 : UInt8) ∉ evalue) (hle : length ≤ buffer.length)
    (hok : (dltMessageRead malloc record.msg buffer length resync).2 = dltMessageErrorOk)
    (hf : Matches resync (buffer.take length) f) (behind : ℕ → UInt8) (env : InjectionEnv) (daemon : DltDaemon Buf)
    (gateway : GatewayState) :
    RoutedRight evalue f (dltDaemonClientProcessControlGateway evalue behind env daemon
        (dltMessageRead malloc record.msg buffer length resync).1 gateway) ↔
      EcuUnderstood evalue behind record.msg.headerextra f := by
  have hwf := record.history.wf
  have hextra := dltMessageRead_headerextra hwf hle hok hf
  have hsize : (dltMessageRead malloc record.msg buffer length resync).1.datasize = f.payload.length := by
    rw [dltMessageRead_of_ok hok]
    obtain ⟨-, -, hframe⟩ := dltMessageRead_eq_readFrame (orZero_succeeds malloc) hwf hle resync
    exact (hframe f (readFrame_ok_iff.mpr hf)).2.datasize_eq
  set msg := (dltMessageRead malloc record.msg buffer length resync).1
  unfold EcuUnderstood
  by_cases hshort : f.payload.length < 4
  · refine iff_of_false (not_routedRight_of_short (by omega)) ?_
    rintro ⟨hlong, -⟩
    omega
  rw [routedRight_iff_strcmp (by omega), hextra, strcmp_extra_iff hzero (length_extraAfter record.size hf.header_eq)]
  have hnil : evalue = [] → 4 ≤ evalue.length → evalue.drop 4 ++ [0] <+:
      behindEcu (extraAfter record.msg.headerextra f) behind (evalue.length + 1) := by
    intro hempty hlong
    rw [hempty] at hlong
    cases hlong
  cases hecu : f.consumed.ecu with
  | some ecu =>
    have hfield : (extraAfter record.msg.headerextra f).ecu = ecu := by
      unfold extraAfter
      rw [hecu]
      rfl
    rw [hfield, routed_some_iff hzero hecu hnil]
    exact ⟨fun h => ⟨by omega, h⟩, fun h => h.2⟩
  | none =>
    have hfield : (extraAfter record.msg.headerextra f).ecu = record.msg.headerextra.ecu := by
      unfold extraAfter
      rw [hecu]
      rfl
    rw [hfield, routed_none_iff hzero hecu hnil]
    exact ⟨fun h => ⟨by omega, h⟩, fun h => h.2⟩

def zeroRecord : DltMessage := { sampleMessage with headerextra := ⟨[0, 0, 0, 0], 0, 0⟩ }

theorem length_zeroRecord : zeroRecord.headerbuffer.length = sizeofHeaderbuffer := length_replicate ..

/-- A daemon that has read no message yet. -/
def newRecord (evalue : List UInt8) : DaemonRecord evalue where
  msg := dltMessageInit zeroRecord
  history := .init zeroRecord length_zeroRecord
  size := by decide

/-- A request for the default log level, without a session id or with the one given. -/
def ownRequest (session : Option (List UInt8)) : List UInt8 :=
  (match session with
    | none => [0x25, 0, 0, 22] ++ dltDaemonEcuId
    | some seid => [0x2d, 0, 0, 26] ++ dltDaemonEcuId ++ seid) ++
  [0x16, 1] ++ ascii "APP" ++ [0] ++ ascii "CON" ++ [0] ++ [4, 0, 0, 0]

theorem routedRight_ownRequest :
    RoutedRight dltDaemonEcuId ⟨false, 0, (ownRequest none).take 18, [4, 0, 0, 0]⟩
      (dltDaemonClientProcessControlGateway dltDaemonEcuId (fun _ => 0) ⟨false, zeroMalloc⟩ sampleDaemon
        (dltMessageRead zeroMalloc (newRecord dltDaemonEcuId).msg (ownRequest none) 22 false).1
        (sampleGateway (ascii "ECU2") (ascii "ECU3"))) := by
  apply (routedRight_iff (newRecord dltDaemonEcuId) (by decide) (by decide) (by decide +kernel)
    (readFrame_ok_iff.mp (by decide +kernel)) (fun _ => 0) ⟨false, zeroMalloc⟩ sampleDaemon
    (sampleGateway (ascii "ECU2") (ascii "ECU3"))).mpr
  refine ⟨by decide, ?_⟩
  change if dltDaemonEcuId = [] then _ else _
  rw [if_neg (by decide)]
  intro _ _
  decide +kernel

/-- With a session id the ECU id of the daemon is not recognised: the request is passed on. -/
theorem not_routedRight_session :
    Matches false ((ownRequest (some [0, 0, 0, 1])).take 26)
        ⟨false, 0, (ownRequest (some [0, 0, 0, 1])).take 22, [4, 0, 0, 0]⟩ ∧
      ¬ RoutedRight dltDaemonEcuId ⟨false, 0, (ownRequest (some [0, 0, 0, 1])).take 22, [4, 0, 0, 0]⟩
        (dltDaemonClientProcessControlGateway dltDaemonEcuId (fun _ => 0) ⟨false, zeroMalloc⟩ sampleDaemon
          (dltMessageRead zeroMalloc (newRecord dltDaemonEcuId).msg (ownRequest (some [0, 0, 0, 1])) 26 false).1
          (sampleGateway (ascii "ECU2") (ascii "ECU3"))) := by
  refine ⟨readFrame_ok_iff.mp (by decide +kernel), fun h => ?_⟩
  have hexecuted := (h.own ⟨dltDaemonEcuId, by decide +kernel, by decide⟩).1
  revert hexecuted
  decide +kernel

end routed

end Dlt.Control
