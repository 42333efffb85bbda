import Dlt.Client.LogInfo
import Dlt.Daemon.GetLogInfo
import Dlt.Daemon.RegistrationRuns
import Mathlib.Tactic.IntervalCases

/-!
# GET_LOG_INFO: from the tables to the client

The daemon writes its tables into the payload of a message, `dlt_message_payload` prints the payload,
and the client parses the text.

* `convUint16_hex`, `parseContext_hex`, `parseApplication_hex` — the parser reads the digits of what the
  daemon wrote, as long as every number fits a byte.
* `getLogInfo_roundTrip_iff` — **the client gets the tables exactly when** every number fits a byte, there
  is an application, and the option is not printed as the name of a return value.
-/

namespace Dlt.Client

open Dlt.Lib Dlt.Shared Dlt.Daemon List DltDaemonRegisteredUsers

variable {Buf : Type}
variable {n pos' i : ℕ} {application : DltDaemonApplication} {mem : ℕ → UInt8}

/-! ## What the client should get -/

/-- A context of the tables, as far as the option asks for it. -/
def contextInfo (options : ℕ) (context : DltDaemonContext) : ContextIDsInfoType where
  contextId := context.ctid.bytes
  logLevel := if hasLogLevel options then context.logLevel else 0
  traceStatus := if hasTraceStatus options then context.traceStatus else 0
  lenContextDescription := if options = 7 then (context.contextDescription.getD []).length else 0
  contextDescription := if options = 7 then some (context.contextDescription.getD []) else none

/-- The contexts of an application, in table order. -/
def contextsOf (users : DltDaemonRegisteredUsers) (application : DltDaemonApplication) :
    List DltDaemonContext :=
  users.contexts.filter fun context => context.apid = application.apid

/-- An application of the tables with its contexts. -/
def applicationInfo (options : ℕ) (users : DltDaemonRegisteredUsers)
    (application : DltDaemonApplication) : AppIDsType where
  appId := application.apid.bytes
  countContextIds := (contextsOf users application).length
  contextIdInfo := (contextsOf users application).map (contextInfo options)
  lenAppDescription := if options = 7 then (application.applicationDescription.getD []).length else 0
  appDescription := if options = 7 then some (application.applicationDescription.getD []) else none

/-- What the client should get. -/
def tableInfo (options : ℕ) (users : DltDaemonRegisteredUsers) : LogInfoType where
  countAppIds := users.applications.length
  appIds := users.applications.map (applicationInfo options users)

/-! ## Reading what was written -/

section reading

variable {rp : ℕ → UInt8} {pos options : ℕ} {malloc : Malloc}

theorem convUint16_hex (h : HexAt rp pos (leBytes 2 n)) :
    dltGetloginfoConvAsciiToUint16t rp pos = (n % 256, pos + 6) := by
  simp only [leBytes, hexAt_cons] at h
  obtain ⟨⟨h0, h1⟩, ⟨h3, h4⟩, -⟩ := h
  have hlow : (UInt8.ofNat n).toNat = n % 256 := by simp
  have hvalue := strtol_hexBytes (UInt8.ofNat (n / 256)) (UInt8.ofNat n)
  rw [hlow] at hvalue
  simp only [dltGetloginfoConvAsciiToUint16t, h0, h1, h3, show pos + 4 = pos + 3 + 1 by omega, h4,
    hlow, hvalue, Prod.mk.injEq, and_true]
  omega

theorem convUint16_lt (rp : ℕ → UInt8) (pos : ℕ) :
    (dltGetloginfoConvAsciiToUint16t rp pos).1 < 256 := by
  unfold dltGetloginfoConvAsciiToUint16t
  simp only
  omega

theorem convInt16_hex {x : ℤ} (hx : -128 ≤ x ∧ x < 128) (h : HexAt rp pos [int8Byte x]) :
    dltGetloginfoConvAsciiToInt16t rp pos = (x, pos + 3) := by
  obtain ⟨⟨h0, h1⟩, -⟩ := hexAt_cons.mp h
  have hbyte : (int8Byte x).toNat = (x % 256).toNat := by
    simp only [int8Byte, UInt8.toNat_ofNat']
    omega
  simp only [dltGetloginfoConvAsciiToInt16t, h0, h1, strtol_hexByte, Prod.mk.injEq, and_true]
  rw [hbyte]
  split_ifs <;> omega

theorem convId_hex {bs : List UInt8} (h : HexAt rp pos bs) :
    dltGetloginfoConvAsciiToId rp pos bs.length = (bs, pos + 3 * bs.length) := by
  induction bs generalizing pos with
  | nil => rfl
  | cons b bs ih =>
    obtain ⟨⟨h0, h1⟩, hrest⟩ := hexAt_cons.mp h
    have hb : UInt8.ofNat (((b.toNat : ℤ) % 256).toNat) = b := by
      have hlt := b.toNat_lt
      rw [show ((b.toNat : ℤ) % 256).toNat = b.toNat by omega, UInt8.ofNat_toNat]
    simp only [length_cons, dltGetloginfoConvAsciiToId, h0, h1, strtol_hexByte, hb, ih hrest,
      Prod.mk.injEq, true_and]
    omega

theorem parseDescription_hex (hm : malloc.Succeeds) {description : Option (List UInt8)}
    (hlen : (description.getD []).length ≤ 255)
    (h : HexAt rp pos (logInfoDescription description)) :
    parseDescription malloc rp pos = some (((description.getD []).length, description.getD []),
      pos + 3 * (logInfoDescription description).length) := by
  obtain ⟨hnum, htext⟩ := hexAt_append.mp h
  rw [length_leBytes] at htext
  obtain ⟨block, hblock⟩ := Option.isSome_iff_exists.mp (hm ((description.getD []).length + 1))
  have hmod : (description.getD []).length % 256 = (description.getD []).length :=
    Nat.mod_eq_of_lt (by omega)
  simp only [parseDescription, convUint16_hex hnum, hmod, hblock, convId_hex htext,
    Option.bind_eq_bind, Option.bind_some, Option.pure_def, logInfoDescription, length_append,
    length_leBytes]
  congr 2
  omega

theorem hasLogLevel_eq (options : ℕ) : hasLogLevel options = wantsLogLevel options := rfl

theorem hasTraceStatus_eq (options : ℕ) : hasTraceStatus options = wantsTraceStatus options := rfl

theorem convInt16_option {x : ℤ} (hx : -128 ≤ x ∧ x < 128) {wanted : Bool}
    (h : HexAt rp pos (if wanted then [int8Byte x] else [])) :
    (if wanted then dltGetloginfoConvAsciiToInt16t rp pos else (0, pos)) =
      (if wanted then x else 0, pos + 3 * (if wanted then [int8Byte x] else []).length) := by
  cases wanted with
  | false => rfl
  | true => exact convInt16_hex hx h

theorem parseContext_hex (hm : malloc.Succeeds) {context : DltDaemonContext}
    (hctid : context.ctid.Canonical) (hlevel : -128 ≤ context.logLevel ∧ context.logLevel < 128)
    (htrace : -128 ≤ context.traceStatus ∧ context.traceStatus < 128)
    (hlen : options = 7 → (context.contextDescription.getD []).length ≤ 255)
    (h : HexAt rp pos (logInfoContext options context)) :
    parseContext malloc options rp pos =
      some (contextInfo options context, pos + 3 * (logInfoContext options context).length) := by
  unfold logInfoContext at h ⊢
  rw [show dltSetId context.ctid.bytes = context.ctid from hctid] at h ⊢
  simp only [append_assoc, hexAt_append] at h
  obtain ⟨hid, hll, hts, hdescription⟩ := h
  have hidRead := convId_hex hid
  rw [context.ctid.length_eq] at hidRead hll hts hdescription
  have hllRead := convInt16_option hlevel hll
  have htsRead := convInt16_option htrace hts
  simp only [parseContext, hidRead, hasLogLevel_eq, hllRead, hasTraceStatus_eq, htsRead]
  by_cases hseven : options = 7
  · rw [if_pos hseven] at hdescription
    simp only [hseven, if_true] at hdescription ⊢
    simp only [parseDescription_hex hm (hlen hseven) hdescription, Option.pure_def,
      Option.bind_eq_bind, Option.bind_some, Option.some.injEq, Prod.mk.injEq]
    refine ⟨rfl, ?_⟩
    simp only [length_append, context.ctid.length_eq]
    omega
  · simp only [hseven, if_false, Option.pure_def, Option.some.injEq, Prod.mk.injEq]
    refine ⟨by simp only [contextInfo, hseven, if_false]; rfl, ?_⟩
    simp only [length_append, context.ctid.length_eq, length_nil]
    omega

theorem parseMany_hex {α β : Type} {parse : ℕ → Option (β × ℕ)} {write : α → List UInt8}
    {info : α → β} {xs : List α}
    (hparse : ∀ x ∈ xs, ∀ pos, HexAt rp pos (write x) →
      parse pos = some (info x, pos + 3 * (write x).length))
    (h : HexAt rp pos (xs.flatMap write)) :
    parseMany parse xs.length pos =
      some (xs.map info, pos + 3 * (xs.flatMap write).length) := by
  induction xs generalizing pos with
  | nil => rfl
  | cons x xs ih =>
    rw [flatMap_cons, hexAt_append] at h
    have hx := hparse x mem_cons_self pos h.1
    have hxs := ih (fun y hy => hparse y (mem_cons_of_mem x hy)) h.2
    simp [parseMany, hx, hxs, Nat.mul_add, Nat.add_assoc]

/-- An application as the daemon writes it when everything is asked for. -/
def writtenApplication (options : ℕ) (users : DltDaemonRegisteredUsers)
    (application : DltDaemonApplication) : List UInt8 :=
  application.apid.bytes ++ leBytes 2 (contextsOf users application).length ++
    (contextsOf users application).flatMap (logInfoContext options) ++
    if options = 7 then logInfoDescription application.applicationDescription else []

/-- The tables fit the text: every number fits a byte. -/
structure FitsBytes (options : ℕ) (users : DltDaemonRegisteredUsers) : Prop where
  applications : users.applications.length ≤ 255
  contexts : ∀ a ∈ users.applications, (contextsOf users a).length ≤ 255
  applicationDescriptions : options = 7 →
    ∀ a ∈ users.applications, (a.applicationDescription.getD []).length ≤ 255
  contextDescriptions : options = 7 →
    ∀ c ∈ users.contexts, (c.contextDescription.getD []).length ≤ 255

/-- The levels of a context are numbers of 8 bits. -/
def Int8Levels (context : DltDaemonContext) : Prop :=
  (-128 ≤ context.logLevel ∧ context.logLevel < 128) ∧
    -128 ≤ context.traceStatus ∧ context.traceStatus < 128

variable {users : DltDaemonRegisteredUsers}

section

variable (hm : malloc.Succeeds) (hr : Registered users) (hlevels : ∀ c ∈ users.contexts, Int8Levels c)
  (hfits : FitsBytes options users)
include hm hr hlevels hfits

theorem parseApplication_hex (hin : application ∈ users.applications)
    (h : HexAt rp pos (writtenApplication options users application)) :
    parseApplication malloc options rp pos = some (applicationInfo options users application,
      pos + 3 * (writtenApplication options users application).length) := by
  unfold writtenApplication at h ⊢
  simp only [append_assoc, hexAt_append, length_leBytes] at h
  obtain ⟨hid, hcount, hcontexts, hdescription⟩ := h
  have hidRead := convId_hex hid
  rw [application.apid.length_eq] at hidRead hcount hcontexts hdescription
  have hcountRead := convUint16_hex hcount
  rw [Nat.mod_eq_of_lt (show (contextsOf users application).length < 256 by
    have := hfits.contexts application hin
    omega)] at hcountRead
  have hcontextsRead : parseMany (parseContext malloc options rp)
      (contextsOf users application).length _ =
        some ((contextsOf users application).map (contextInfo options), _) :=
    parseMany_hex (fun c hc pos h => by
      have hmem := (mem_filter.mp hc).1
      have hctid := (hr.ok.ctids_canonical c.ids (mem_map.mpr ⟨c, hmem, rfl⟩)).1
      exact parseContext_hex hm hctid (hlevels c hmem).1 (hlevels c hmem).2
        (fun hseven => hfits.contextDescriptions hseven c hmem) h) hcontexts
  obtain ⟨block, hblock⟩ := Option.isSome_iff_exists.mp
    (hm ((contextsOf users application).length * sizeofContextIDsInfoType))
  simp only [parseApplication, hidRead, hcountRead, hblock, Option.bind_eq_bind, Option.bind_some,
    hcontextsRead]
  by_cases hseven : options = 7
  · simp only [hseven, if_true] at hdescription ⊢
    simp only [parseDescription_hex hm (hfits.applicationDescriptions hseven application hin)
      hdescription, Option.pure_def, Option.bind_some, Option.some.injEq, Prod.mk.injEq]
    refine ⟨by simp [applicationInfo], ?_⟩
    simp only [length_append, length_leBytes, application.apid.length_eq]
    omega
  · simp only [hseven, if_false, Option.pure_def, Option.some.injEq, Prod.mk.injEq]
    refine ⟨by simp [applicationInfo, hseven], ?_⟩
    simp only [length_append, length_leBytes, application.apid.length_eq, length_nil]
    omega

/-- **The tables are read back.** -/
theorem parseTables_hex (hoptions : 3 ≤ options ∧ options ≤ 7)
    (h : HexAt mem dltGetLogInfoHeader (leBytes 2 users.applications.length ++
      users.applications.flatMap (writtenApplication options users))) :
    dltClientParseGetLogInfoRespText malloc options mem = some (tableInfo options users) := by
  have hshift : HexAt (fun k => mem (dltGetLogInfoHeader + k)) 0 (leBytes 2 users.applications.length
      ++ users.applications.flatMap (writtenApplication options users)) := by
    intro k b hk
    have := h k b hk
    simpa [Nat.add_assoc] using this
  obtain ⟨hcount, happs⟩ := hexAt_append.mp hshift
  rw [length_leBytes] at happs
  have hcountRead := convUint16_hex hcount
  rw [Nat.mod_eq_of_lt (show users.applications.length < 256 by
    have := hfits.applications
    omega)] at hcountRead
  have happsRead := parseMany_hex
    (fun a ha pos h => parseApplication_hex hm hr hlevels hfits ha h) happs
  obtain ⟨block, hblock⟩ := Option.isSome_iff_exists.mp
    (hm (users.applications.length * sizeofAppIDsType))
  have hstatus : ¬ (options < getLogInfoStatusMin ∨ options > getLogInfoStatusMax) := by
    unfold getLogInfoStatusMin getLogInfoStatusMax
    omega
  simp only [dltClientParseGetLogInfoRespText, if_neg hstatus, hcountRead, hblock,
    Option.bind_eq_bind, Option.bind_some, happsRead, Option.pure_def, tableInfo]

end

/-- What holds of every record that is read holds of all of them. -/
theorem parseMany_forall {β : Type} {parse : ℕ → Option (β × ℕ)} {P : β → Prop}
    (hparse : ∀ pos x pos', parse pos = some (x, pos') → P x) {xs : List β}
    (h : parseMany parse n pos = some (xs, pos')) : ∀ x ∈ xs, P x := by
  induction n generalizing pos xs with
  | zero =>
    cases h
    simp
  | succ n ih =>
    simp only [parseMany, Option.pure_def, Option.bind_eq_bind, Option.bind_eq_some_iff] at h
    obtain ⟨⟨x, pos₁⟩, hx, ⟨rest, pos₂⟩, hrest, hcons⟩ := h
    cases hcons
    intro y hy
    rcases mem_cons.mp hy with rfl | hy
    · exact hparse _ _ _ hx
    · exact ih hrest y hy

theorem parseDescription_lt {len : ℕ} {description : List UInt8}
    (h : parseDescription malloc rp pos = some ((len, description), pos')) : len < 256 := by
  have hlt := convUint16_lt rp pos
  simp only [parseDescription, Option.pure_def, Option.bind_eq_bind, Option.bind_eq_some_iff] at h
  obtain ⟨-, -, heq⟩ := h
  cases heq
  exact hlt

theorem parseContext_lt {context : ContextIDsInfoType}
    (h : parseContext malloc options rp pos = some (context, pos')) :
    context.lenContextDescription < 256 := by
  by_cases hseven : options = 7
  · simp only [parseContext, hseven, if_true, Option.pure_def, Option.bind_eq_bind,
      Option.bind_eq_some_iff] at h
    obtain ⟨⟨⟨len, description⟩, pos₁⟩, hdescription, heq⟩ := h
    cases heq
    exact parseDescription_lt hdescription
  · simp only [parseContext, hseven, if_false, Option.pure_def] at h
    cases h
    exact Nat.zero_lt_succ 255

theorem parseApplication_lt {app : AppIDsType} (h : parseApplication malloc options rp pos = some (app, pos')) :
    app.countContextIds < 256 ∧ app.lenAppDescription < 256 ∧
      ∀ c ∈ app.contextIdInfo, c.lenContextDescription < 256 := by
  simp only [parseApplication, Option.pure_def, Option.bind_eq_bind, Option.bind_eq_some_iff] at h
  obtain ⟨-, -, ⟨contexts, pos₁⟩, hcontexts, h⟩ := h
  have hcount := convUint16_lt rp (dltGetloginfoConvAsciiToId rp pos 4).2
  have hall := parseMany_forall (fun pos x pos' hx => parseContext_lt hx) hcontexts
  by_cases hseven : options = 7
  · simp only [hseven, if_true, Option.bind_eq_some_iff] at h
    obtain ⟨⟨⟨len, description⟩, pos₂⟩, hdescription, heq⟩ := h
    cases heq
    exact ⟨hcount, parseDescription_lt hdescription, hall⟩
  · simp only [hseven, if_false] at h
    cases h
    exact ⟨hcount, Nat.zero_lt_succ 255, hall⟩

/-- **No number above 255 is ever read.** -/
theorem parseTables_lt {info : LogInfoType} (h : dltClientParseGetLogInfoRespText malloc options mem = some info) :
    info.countAppIds < 256 ∧ ∀ app ∈ info.appIds, app.countContextIds < 256 ∧
      app.lenAppDescription < 256 ∧ ∀ c ∈ app.contextIdInfo, c.lenContextDescription < 256 := by
  unfold dltClientParseGetLogInfoRespText at h
  simp only [Option.pure_def, Option.bind_eq_bind] at h
  split_ifs at h
  simp only [Option.bind_eq_some_iff] at h
  obtain ⟨-, -, ⟨apps, pos₁⟩, happs, heq⟩ := h
  cases heq
  exact ⟨convUint16_lt _ _, parseMany_forall (fun pos x pos' hx => parseApplication_lt hx) happs⟩

/-- **Tables that are read back fit the text.** -/
theorem fitsBytes_of_parse (hr : Registered users)
    (h : dltClientParseGetLogInfoRespText malloc options mem = some (tableInfo options users)) :
    FitsBytes options users := by
  obtain ⟨hcount, happs⟩ := parseTables_lt h
  have happ : ∀ a ∈ users.applications, applicationInfo options users a ∈
      (tableInfo options users).appIds := fun a ha => mem_map.mpr ⟨a, ha, rfl⟩
  refine ⟨Nat.lt_succ_iff.mp hcount, fun a ha => Nat.lt_succ_iff.mp (happs _ (happ a ha)).1, ?_, ?_⟩
  · intro hseven a ha
    have hlen := (happs _ (happ a ha)).2.1
    simp only [applicationInfo, hseven, if_true] at hlen
    exact Nat.lt_succ_iff.mp hlen
  · intro hseven c hc
    obtain ⟨a, ha, hid⟩ := mem_map.mp
      (hr.ok.registered c.ids (mem_map.mpr ⟨c, hc, rfl⟩))
    obtain ⟨application, hin, rfl⟩ := mem_map.mp ha
    have hmem : c ∈ contextsOf users application :=
      mem_filter.mpr ⟨hc, decide_eq_true hid.symm⟩
    have hlen := (happs _ (happ _ hin)).2.2 _ (mem_map.mpr ⟨c, hmem, rfl⟩)
    simp only [contextInfo, hseven, if_true] at hlen
    exact Nat.lt_succ_iff.mp hlen

end reading

/-! ## What the daemon writes -/

section writing

variable {users : DltDaemonRegisteredUsers} {req : DltServiceGetLogInfoRequest}

/-- A loop over the positions of a list is a loop over its entries. -/
theorem range_flatMap {α β : Type*} {xs : List α} {f : α → List β} {g : ℕ → List β} (hn : n = xs.length)
    (h : ∀ i x, xs[i]? = some x → g i = f x) : (List.range n).flatMap g = xs.flatMap f := by
  rw [flatMap_def, flatMap_def]
  congr 1
  apply ext_getElem?
  intro i
  rw [getElem?_map, getElem?_map, hn]
  rcases Nat.lt_or_ge i xs.length with hlt | hge
  · rw [getElem?_range hlt, getElem?_eq_getElem hlt]
    simp only [Option.map_some, Option.some.injEq]
    exact h i _ (getElem?_eq_getElem hlt)
  · rw [getElem?_eq_none (by simpa using hge), getElem?_eq_none hge]
    rfl

section

variable (hr : Registered users)
include hr

/-- The counter of an application is the number of its contexts. -/
theorem numContexts_eq_length (hin : application ∈ users.applications) :
    application.numContexts = ((contextsOf users application).length : ℤ) :=
  Registry.Ok.count_filter users.contexts hr.ok rfl _ (mem_map.mpr ⟨application, hin, rfl⟩)

/-- The table of contexts consists of the contexts of the applications. -/
theorem contexts_eq_flatMap : users.contexts = users.applications.flatMap (contextsOf users) := by
  have hflatten := Registry.Ok.eq_flatten users.contexts hr.ok rfl
  rw [flatMap_def]
  conv_lhs => rw [hflatten]
  simp only [registry, map_map]
  rfl

theorem slice_eq_contextsOf (hi : users.applications[i]? = some application) :
    (users.contexts.drop (users.offsetBase i)).take application.numContexts.toNat = contextsOf users application := by
  have happ : users.registry.apps[i]? = some (application.apid, application.numContexts) := by
    simp only [registry, getElem?_map, hi, Option.map_some]
  have hslice := Registry.Ok.slice users.contexts hr.ok rfl happ
  have hbase : ((users.registry.apps.take i).map Prod.snd).sum.toNat = users.offsetBase i := by
    simp only [registry, ← map_take, map_map]
    rfl
  rw [hbase] at hslice
  exact hslice

theorem getElem?_contextsOf (hi : users.applications[i]? = some application) {j : ℕ} {context : DltDaemonContext}
    (hj : (contextsOf users application)[j]? = some context) :
    users.contexts[users.offsetBase i + j]? = some context := by
  have hlt : j < application.numContexts.toNat := by
    have := (List.getElem?_eq_some_iff.mp hj).1
    have := numContexts_eq_length hr (mem_of_getElem? hi)
    omega
  rw [← slice_eq_contextsOf hr hi, getElem?_take_of_lt hlt, getElem?_drop] at hj
  exact hj

/-- One application, as it is written for a request for everything. -/
theorem logInfoApplication_eq (hapid : req.apid.isEmpty = true) (hctid : req.ctid.isEmpty = true)
    {selection : LogInfoSelection} (hi : users.applications[i]? = some application)
    (hlen : (contextsOf users application).length < 65536) :
    logInfoApplication users req selection application.apid i application =
      writtenApplication req.options users application := by
  have hin := mem_of_getElem? hi
  have hcanonical := (hr.ok.apps_canonical _ (mem_map.mpr ⟨application, hin, rfl⟩)).1
  have hcount : application.numContexts.toNat = (contextsOf users application).length := by
    have := numContexts_eq_length hr hin
    omega
  unfold logInfoApplication writtenApplication
  simp only [hapid, hctid, if_true, hcount, Nat.mod_eq_of_lt hlen, Bool.not_true,
    Bool.false_eq_true, and_false, if_false, true_or,
    show dltSetId application.apid.bytes = application.apid from hcanonical]
  congr 2
  apply range_flatMap rfl
  intro j context hj
  rw [getElem?_contextsOf hr hi hj]

end

theorem length_logInfoContext (options : ℕ) (context : DltDaemonContext) :
    (logInfoContext options context).length =
      4 + (if wantsLogLevel options then 1 else 0) + (if wantsTraceStatus options then 1 else 0) +
        if options = 7 then descriptionSize context.contextDescription else 0 := by
  simp only [logInfoContext, length_append, Id4.length_eq]
  congr 1
  · congr 1
    · congr 1
      split_ifs <;> rfl
    · split_ifs <;> rfl
  · split_ifs
    · simp [logInfoDescription, descriptionSize]
    · rfl

theorem length_writtenApplication (options : ℕ) (application : DltDaemonApplication) :
    (writtenApplication options users application).length =
      6 + ((contextsOf users application).map fun c => (logInfoContext options c).length).sum +
        if options = 7 then descriptionSize application.applicationDescription else 0 := by
  simp only [writtenApplication, length_append, Id4.length_eq, length_leBytes,
    length_flatMap]
  congr 1
  split_ifs
  · simp [logInfoDescription, descriptionSize]
  · rfl

/-- **The size that the daemon computes is the size of what it writes.** -/
theorem logInfoSize_eq (hr : Registered users) (hapid : req.apid.isEmpty = true) :
    logInfoSize users req (users.select req) =
      11 + (users.applications.flatMap (writtenApplication req.options users)).length := by
  have hcontexts : (users.applications.map fun a =>
      ((contextsOf users a).map fun c => (logInfoContext req.options c).length).sum).sum =
        (users.contexts.map fun c => (logInfoContext req.options c).length).sum := by
    conv_rhs => rw [contexts_eq_flatMap hr]
    rw [map_flatMap, flatMap_def, sum_flatten, map_map]
    rfl
  simp only [length_flatMap, length_writtenApplication, sum_map_add, hcontexts]
  simp only [length_logInfoContext, sum_map_add, map_const', sum_replicate_nat]
  simp only [logInfoSize, logInfoDescriptionsSize, select, hapid, if_true,
    hr.numApplications_eq, hr.numContexts_eq, Nat.mul_add]
  by_cases hseven : req.options = 7
  · simp only [hseven, if_true, ne_eq, not_true_eq_false, if_false]
    omega
  · simp only [hseven, if_true, ne_eq, not_false_eq_true, if_false, map_const',
      sum_replicate_nat]
    omega

def replyStatus (options : ℕ) (users : DltDaemonRegisteredUsers) : ℕ :=
  if users.applications ≠ [] ∧ users.contexts ≠ [] then options else 8

/-- What stands behind the status. -/
def replyTables (options : ℕ) (users : DltDaemonRegisteredUsers) : List UInt8 :=
  if users.applications = [] then []
  else leBytes 2 users.applications.length ++
    users.applications.flatMap (writtenApplication options users)

/-- What the daemon writes for a request for everything. -/
theorem logInfoWritten_eq (hr : Registered users) (hapid : req.apid.isEmpty = true)
    (hctid : req.ctid.isEmpty = true)
    (hsize : logInfoSize users req (users.select req) ≤ 65535) :
    logInfoWritten users req (users.select req) = leBytes 4 dltServiceIdGetLogInfo ++
      UInt8.ofNat (replyStatus req.options users) :: (replyTables req.options users ++
        (dltSetId dltDaemonRemoString).bytes) := by
  have hnum : users.applications.length < 65536 ∧ users.contexts.length < 65536 := by
    simp only [logInfoSize, select, hapid, if_true, hr.numApplications_eq,
      hr.numContexts_eq, Nat.mul_add] at hsize
    omega
  have hlen : ∀ a, (contextsOf users a).length < 65536 := fun a =>
    (length_filter_le _ _).trans_lt hnum.2
  have hstatus : (if users.numApplications ≠ 0 ∧ users.numContexts ≠ 0 then req.options else 8) =
      replyStatus req.options users := by
    simp only [replyStatus, hr.numApplications_eq, hr.numContexts_eq, ne_eq,
      length_eq_zero_iff]
  simp only [logInfoWritten, select, hapid, if_true, hstatus]
  rw [hr.numApplications_eq, Nat.mod_eq_of_lt hnum.1]
  simp only [append_assoc, cons_append, nil_append, replyTables,
    length_eq_zero_iff]
  congr 3
  split_ifs with hnil
  · rfl
  · congr 1
    apply range_flatMap rfl
    intro i application hi
    have hin := mem_of_getElem? hi
    have hcanonical := (hr.ok.apps_canonical _ (mem_map.mpr ⟨application, hin, rfl⟩)).1
    have hfind : users.applicationFind application.apid = some i :=
      (hr.applicationFind_iff hcanonical).mpr (by rw [hi]; rfl)
    simp only [hi, Option.map_some, hfind]
    exact logInfoApplication_eq hr hapid hctid hi (hlen application)

/-- **The payload of the reply** to a request for everything. -/
theorem getLogInfo_message {malloc : Malloc} (hm : malloc.Succeeds) {daemon : DltDaemon Buf} {l : ℕ}
    (hl : dltDaemonFindUsersList daemon daemon.ecuid = some l)
    (hu : daemon.userList[l]? = some users) (hr : Registered users)
    (hoptions : 3 ≤ req.options ∧ req.options ≤ 7) (hapid : req.apid.isEmpty = true)
    (hctid : req.ctid.isEmpty = true)
    (hsize : logInfoSize users req (users.select req) ≤ 65535) :
    ∃ rest, dltDaemonControlGetLogInfo malloc daemon req =
        .message (leBytes 4 dltServiceIdGetLogInfo ++
          UInt8.ofNat (replyStatus req.options users) :: (replyTables req.options users ++ rest)) ∧
      rest ≠ [] ∧ 5 + (replyTables req.options users ++ rest).length =
        logInfoSize users req (users.select req) := by
  have hdatasize : logInfoDatasize users req (users.select req) =
      logInfoSize users req (users.select req) := u32_natCast (by omega)
  obtain ⟨block, hblock⟩ := Option.isSome_iff_exists.mp
    (hm (logInfoDatasize users req (users.select req)))
  have hfit : (logInfoWritten users req (users.select req)).length ≤
      logInfoDatasize users req (users.select req) := by
    rw [hdatasize, logInfoSize_eq hr hapid, logInfoWritten_eq hr hapid hctid hsize, replyTables]
    split_ifs with hnil
    · simp only [nil_append, length_append, length_cons, length_leBytes,
        Id4.length_eq]
      omega
    · simp only [length_append, length_cons, length_leBytes, Id4.length_eq]
      omega
  have hreply : dltDaemonControlGetLogInfo malloc daemon req = .message
      (logInfoWritten users req (users.select req) ++ replicate
        (logInfoDatasize users req (users.select req) -
          (logInfoWritten users req (users.select req)).length) 0) := by
    simp only [dltDaemonControlGetLogInfo, hl, hu, Option.bind_some, hblock]
    rw [if_neg (by omega), take_append, take_of_length_le hfit, take_replicate,
      Nat.min_eq_left (Nat.sub_le ..)]
  rw [logInfoWritten_eq hr hapid hctid hsize] at hreply hfit
  simp only [append_assoc, cons_append] at hreply
  refine ⟨_, hreply, ?_, ?_⟩
  · intro hnil
    have hlen := congrArg List.length hnil
    simp [Id4.length_eq] at hlen
  · rw [← hdatasize]
    simp only [length_append, length_cons, length_leBytes, Id4.length_eq,
      length_replicate] at hfit ⊢
    omega

end writing

/-! ## The text -/

section text

theorem snprintfAppend_of_fits {textlength : ℕ} {text piece : List UInt8}
    (h : text.length + piece.length < textlength) :
    snprintfAppend textlength text piece = text ++ piece := by
  rw [snprintfAppend, take_of_length_le (by omega)]

theorem length_returnValueText_le (retval : UInt8) : (returnValueText retval).length ≤ 22 := by
  have hnames : ∀ name ∈ returnType, name.length ≤ 22 := by decide
  unfold returnValueText
  split_ifs with hname
  · rw [getD_eq_getElem?_getD]
    cases hget : returnType[retval.toNat]? with
    | none => simp
    | some name => exact hnames name (mem_of_getElem? hget)
  · simp [hexByte]

/-- **The text of a reply**: the name of the service, the return value, and the digits of the rest. -/
theorem payloadText_eq {status : UInt8} {body : List UInt8} (hbody : body ≠ []) {textlength : ℕ}
    (hsize : 5 + body.length ≤ 65535) (hfits : 3 * (5 + body.length) + 64 ≤ textlength)
    {msg : PayloadMessage} (hhtyp : msg.htyp = 0x35) (hmsin : msg.msin = 0x26)
    (hdata : msg.databuffer = leBytes 4 dltServiceIdGetLogInfo ++ status :: body) :
    dltMessagePayloadNonverbose msg textlength false =
      (dltReturnOk, ascii "get_log_info, " ++ (returnValueText status ++
        (ascii ", " ++ hexString 32 body))) := by
  have hcontrol : dltMsgIsControl msg = true := by
    simp only [dltMsgIsControl, hhtyp, hmsin]
    decide
  have hresponse : dltMsgIsControlResponse msg = true := by
    simp only [dltMsgIsControlResponse, hcontrol, hmsin]
    decide
  have hlen : msg.databuffer.length = 5 + body.length := by
    rw [hdata]
    simp only [length_append, length_leBytes, length_cons]
    omega
  have hpos : 0 < body.length := length_pos_iff.mpr hbody
  have hret := length_returnValueText_le status
  have htake : msg.databuffer.take 4 = leBytes 4 dltServiceIdGetLogInfo := by
    rw [hdata, take_left' (length_leBytes 4 _)]
  have hdrop : msg.databuffer.drop 4 = status :: body := by
    rw [hdata, drop_left' (length_leBytes 4 _)]
  have hid : ofLeBytes (leBytes 4 dltServiceIdGetLogInfo) = 3 := by decide
  have hname : (serviceIdName.getD 3 []) = ascii "get_log_info" := by decide
  have hmsbf : dltIsHtypMsbf msg.htyp = false := by
    rw [hhtyp]
    decide
  have hreadable : 4 ≤ 5 + body.length := by omega
  have hroom : ¬ textlength < u32 ((((5 + body.length : ℕ) : ℤ) - 4) * 3 + 20) := by
    rw [u32_of_nonneg (by omega) (by omega)]
    omega
  have hservice : snprintfAppend textlength (snprintfAppend textlength [] (ascii "get_log_info"))
      (ascii ", ") = ascii "get_log_info, " := by
    have hfirst : snprintfAppend textlength [] (ascii "get_log_info") = ascii "get_log_info" :=
      snprintfAppend_of_fits (by simp [ascii]; omega)
    rw [hfirst, snprintfAppend_of_fits (by simp [ascii]; omega)]
    decide
  have hnamed : 0 < 3 ∧ 3 < dltServiceIdLastEntry := by decide
  have hmore : ((5 + body.length : ℕ) : ℤ) - 4 > 0 := by omega
  have hmore' : ((5 + body.length : ℕ) : ℤ) - 4 - 1 ≥ 1 := by omega
  have hnameLen : (ascii "get_log_info, ").length = 14 := by decide
  have hcommaLen : (ascii ", ").length = 2 := by decide
  have htext : snprintfAppend textlength (snprintfAppend textlength (ascii "get_log_info, ")
      (returnValueText status)) (ascii ", ") =
        ascii "get_log_info, " ++ (returnValueText status ++ ascii ", ") := by
    have hfirst : snprintfAppend textlength (ascii "get_log_info, ") (returnValueText status) =
        ascii "get_log_info, " ++ returnValueText status := snprintfAppend_of_fits (by omega)
    rw [hfirst, snprintfAppend_of_fits (by rw [length_append]; omega), append_assoc]
  have hlength : (ascii "get_log_info, " ++ (returnValueText status ++ ascii ", ")).length ≤ 38 := by
    simp only [length_append]
    omega
  unfold dltMessagePayloadNonverbose serviceText responseText restText
  simp only [hlen, hcontrol, hresponse, htake, hdrop, hmsbf, hid, hname, hreadable, if_true,
    if_neg hroom, Bool.false_eq_true, if_false, hnamed, hmore, hmore', and_self, hservice,
    headD_cons, tail_cons, htext]
  unfold dltPrintHexString
  rw [if_neg (by omega), if_neg (by omega)]
  rw [show (((5 + body.length : ℕ) : ℤ) - 4 - 1).toNat = body.length by omega, take_length]
  simp only [append_assoc]

/-- The status is read back from its digits; the name of a return value is read as zero. -/
theorem status_shown (h : 3 ≤ n ∧ n ≤ 8) :
    2 ≤ (returnValueText (UInt8.ofNat n)).length ∧
      (strtol ((returnValueText (UInt8.ofNat n)).take 2) 10 % 256).toNat =
        if 5 ≤ n ∧ n ≤ 7 then n else 0 := by
  obtain ⟨hlow, hhigh⟩ := h
  interval_cases n <;> decide

theorem parseServiceId_text (hn : 3 ≤ n ∧ n ≤ 8) {rest : List UInt8}
    (h : Holds mem 0 (ascii "get_log_info, " ++ (returnValueText (UInt8.ofNat n) ++ rest))) :
    dltSetLoginfoParseServiceId mem = some (if 5 ≤ n ∧ n ≤ 7 then n else 0) := by
  obtain ⟨hname, hstatus⟩ := holds_append.mp h
  have hnameLen : (ascii "get_log_info, ").length = 14 := by decide
  have htag := hname.map_range (show getLogInfoLength - 1 ≤ (ascii "get_log_info, ").length by decide)
  simp only [Nat.zero_add] at htag
  obtain ⟨htwo, hvalue⟩ := status_shown hn
  have hdigits := (holds_append.mp hstatus).1.map_range htwo
  rw [hnameLen] at hdigits
  unfold dltSetLoginfoParseServiceId
  rw [show (List.range (getLogInfoLength - 1)).map mem = ascii "get_log_info" from
    htag.trans (by decide), if_pos rfl]
  rw [show [mem (getLogInfoLength + 1), mem (getLogInfoLength + 2)] =
    (returnValueText (UInt8.ofNat n)).take 2 from hdigits, hvalue]

/-- Where the digits of the rest begin when the status is printed as a number. -/
theorem hexAt_body (hn : 5 ≤ n ∧ n ≤ 7) {body rest : List UInt8}
    (h : Holds mem 0 (ascii "get_log_info, " ++ (returnValueText (UInt8.ofNat n) ++
      (ascii ", " ++ hexString 32 body)) ++ rest)) : HexAt mem dltGetLogInfoHeader body := by
  have hlen : (ascii "get_log_info, ").length + (returnValueText (UInt8.ofNat n)).length +
      (ascii ", ").length = dltGetLogInfoHeader := by
    obtain ⟨hlow, hhigh⟩ := hn
    interval_cases n <;> decide
  have hbody := (holds_append.mp (holds_append.mp (holds_append.mp (holds_append.mp h).1).2).2).2
  rw [Nat.zero_add, hlen] at hbody
  exact holds_hexString hbody

end text

/-! ## The round trip -/

/-- A reply without a table, or whose status is printed as a name, is not parsed. -/
theorem parseLogInfo_zero (malloc : Malloc) (h : dltSetLoginfoParseServiceId mem = some 0) :
    parseLogInfo malloc mem = none := by
  simp only [parseLogInfo, h, Option.bind_eq_bind, Option.bind_some]
  rfl

/-- **GET_LOG_INFO**: the client gets the tables, whole and in order, exactly when the option is 5, 6
or 7, there is an application, and every number fits a byte. -/
theorem getLogInfo_roundTrip_iff {malloc : Malloc} (hm : malloc.Succeeds) {daemon : DltDaemon Buf}
    {l : ℕ} {users : DltDaemonRegisteredUsers}
    (hl : dltDaemonFindUsersList daemon daemon.ecuid = some l)
    (hu : daemon.userList[l]? = some users) (hr : Registered users)
    (hcontexts : ∀ a ∈ users.applications, a.numContexts ≠ 0)
    (hlevels : ∀ c ∈ users.contexts, Int8Levels c) {req : DltServiceGetLogInfoRequest}
    (hoptions : 3 ≤ req.options ∧ req.options ≤ 7) (hapid : req.apid.isEmpty = true)
    (hctid : req.ctid.isEmpty = true)
    (hfits : controlHeaderSize + logInfoSize users req (users.select req) ≤ 65535) :
    ∃ databuffer msg, dltDaemonControlGetLogInfo malloc daemon req = .message databuffer ∧
      dltDaemonClientControlMessage databuffer = some msg ∧
        ∀ textlength, 3 * databuffer.length + 64 ≤ textlength →
          ∃ text, dltMessagePayloadNonverbose msg textlength false = (dltReturnOk, text) ∧
            ∀ mem, Holds mem 0 (text ++ [0]) →
              (parseLogInfo malloc mem = some (req.options, tableInfo req.options users) ↔
                5 ≤ req.options ∧ users.applications ≠ [] ∧ FitsBytes req.options users) := by
  obtain ⟨rest, hreply, hrest, hsize⟩ :=
    getLogInfo_message hm hl hu hr hoptions hapid hctid (by omega)
  have hbody : replyTables req.options users ++ rest ≠ [] := by simp [hrest]
  have hlength : (leBytes 4 dltServiceIdGetLogInfo ++ UInt8.ofNat (replyStatus req.options users) ::
      (replyTables req.options users ++ rest)).length =
        5 + (replyTables req.options users ++ rest).length := by
    simp only [length_append, length_leBytes, length_cons]
    omega
  refine ⟨_, _, hreply, by rw [dltDaemonClientControlMessage, if_neg (by omega)], ?_⟩
  intro textlength htextlength
  rw [hlength] at htextlength
  refine ⟨_, payloadText_eq hbody (by omega) htextlength rfl rfl rfl, ?_⟩
  intro mem hmem
  by_cases hgood : 5 ≤ req.options ∧ users.applications ≠ []
  · -- the tables are printed behind the status
    have hnonempty : users.contexts ≠ [] := by
      obtain ⟨a, ha⟩ := exists_mem_of_ne_nil _ hgood.2
      have hne := hcontexts a ha
      rw [numContexts_eq_length hr ha] at hne
      intro hnil
      simp [contextsOf, hnil] at hne
    have hstatus : replyStatus req.options users = req.options := if_pos ⟨hgood.2, hnonempty⟩
    rw [hstatus] at hmem
    have hfive : 5 ≤ req.options ∧ req.options ≤ 7 := ⟨hgood.1, hoptions.2⟩
    have hservice := parseServiceId_text (n := req.options) (by omega)
      (by simpa only [append_assoc] using (show Holds mem 0 _ from hmem))
    rw [if_pos hfive] at hservice
    have hhex := (hexAt_append.mp (hexAt_body hfive hmem)).1
    rw [replyTables, if_neg hgood.2] at hhex
    simp only [parseLogInfo, hservice, Option.bind_eq_bind, Option.bind_some]
    constructor
    · intro hparse
      obtain ⟨info, hinfo, heq⟩ := Option.bind_eq_some_iff.mp hparse
      cases heq
      exact ⟨hgood.1, hgood.2, fitsBytes_of_parse hr hinfo⟩
    · rintro ⟨-, -, hbytes⟩
      rw [parseTables_hex hm hr hlevels hbytes hoptions hhex]
      rfl
  · -- the status is printed as a name
    have hstatus : 3 ≤ replyStatus req.options users ∧ replyStatus req.options users ≤ 8 ∧
        ¬ (5 ≤ replyStatus req.options users ∧ replyStatus req.options users ≤ 7) := by
      unfold replyStatus
      split_ifs with hboth
      · have := not_and'.mp hgood hboth.1
        omega
      · omega
    have hservice := parseServiceId_text ⟨hstatus.1, hstatus.2.1⟩
      (by simpa only [append_assoc] using (show Holds mem 0 _ from hmem))
    rw [if_neg hstatus.2.2] at hservice
    rw [parseLogInfo_zero malloc hservice]
    refine ⟨fun hnone => by simp at hnone, fun ⟨hfive, hne, _⟩ => absurd ⟨hfive, hne⟩ hgood⟩

/-- Tables with one application `LOG` and one context `CTX`, which has a description. -/
def sampleUsers (description : List UInt8) : DltDaemonRegisteredUsers where
  applications := [{
    apid := dltSetId (ascii "LOG"), pid := 17, userHandle := 5, ownsUserHandle := false
    applicationDescription := none, numContexts := 1 }]
  numApplications := 1
  applicationsRoom := 500
  contexts := [{
    apid := dltSetId (ascii "LOG"), ctid := dltSetId (ascii "CTX"), logLevel := 4, traceStatus := 0
    logLevelPos := 0, userHandle := 5, contextDescription := some description
    storageLogLevel := -1, predefined := false }]
  numContexts := 1
  contextsRoom := 1000
  ecu := dltSetId (ascii "ECU1")

theorem sampleUsers_registered (description : List UInt8) : Registered (sampleUsers description) := by
  refine ⟨⟨?_, ?_, ?_, ?_, ?_, ?_⟩, rfl, rfl, ⟨?_, .inl ?_⟩, ⟨?_, .inl ?_⟩⟩
  · exact pairwise_singleton _ _
  · exact pairwise_singleton _ _
  · intro a ha
    rw [mem_singleton.mp ha]
    exact ⟨canonical_dltSetId _, rfl⟩
  · intro c hc
    rw [mem_singleton.mp hc]
    exact ⟨canonical_dltSetId _, rfl⟩
  · intro c hc
    rw [mem_singleton.mp hc]
    exact mem_singleton.mpr rfl
  · intro a ha
    rw [mem_singleton.mp ha]
    rfl
  · exact show 500 % 500 = 0 by decide
  · exact show 1 < 500 by decide
  · exact show 1000 % 1000 = 0 by decide
  · exact show 1 < 1000 by decide

theorem sampleUsers_levels (description : List UInt8) :
    ∀ c ∈ (sampleUsers description).contexts, Int8Levels c := by
  intro c hc
  rw [mem_singleton.mp hc]
  exact show ((-128 : ℤ) ≤ 4 ∧ (4 : ℤ) < 128) ∧ (-128 : ℤ) ≤ 0 ∧ (0 : ℤ) < 128 by decide

/-- A daemon with these tables. -/
def sampleDaemon (description : List UInt8) : DltDaemon Unit :=
  { emptyDaemon with userList := [sampleUsers description] }

def sampleRequest (options : ℕ) : DltServiceGetLogInfoRequest where
  options
  apid := dltSetId []
  ctid := dltSetId []

theorem sampleUsers_size (description : List UInt8) :
    logInfoSize (sampleUsers description) (sampleRequest 7)
      ((sampleUsers description).select (sampleRequest 7)) = 27 + description.length := by
  have hdescriptions : logInfoDescriptionsSize (sampleUsers description) (sampleRequest 7)
      ((sampleUsers description).select (sampleRequest 7)) = (2 + description.length + 0) + 2 := rfl
  have hselect : (sampleUsers description).select (sampleRequest 7) = ⟨none, 0, none, 1, 1⟩ := rfl
  rw [hselect] at hdescriptions ⊢
  simp only [logInfoSize, hdescriptions]
  simp [sampleRequest, wantsLogLevel, wantsTraceStatus]
  omega

/-- A context with a description of one letter reaches the client. -/
theorem getLogInfo_roundTrip_sample :
    ∃ databuffer msg, dltDaemonControlGetLogInfo zeroMalloc (sampleDaemon (ascii "d"))
        (sampleRequest 7) = .message databuffer ∧
      dltDaemonClientControlMessage databuffer = some msg ∧
        ∀ textlength, 3 * databuffer.length + 64 ≤ textlength →
          ∃ text, dltMessagePayloadNonverbose msg textlength false = (dltReturnOk, text) ∧
            ∀ mem, Holds mem 0 (text ++ [0]) →
              parseLogInfo zeroMalloc mem = some (7, tableInfo 7 (sampleUsers (ascii "d"))) := by
  have hl : dltDaemonFindUsersList (sampleDaemon (ascii "d")) (sampleDaemon (ascii "d")).ecuid =
      some 0 := by decide
  have hcontexts : ∀ a ∈ (sampleUsers (ascii "d")).applications, a.numContexts ≠ 0 := by
    intro a ha
    rw [mem_singleton.mp ha]
    decide
  have hoptions : 3 ≤ (sampleRequest 7).options ∧ (sampleRequest 7).options ≤ 7 := by decide
  obtain ⟨databuffer, msg, hreply, hmsg, htext⟩ := getLogInfo_roundTrip_iff zeroMalloc_succeeds hl rfl
    (sampleUsers_registered (ascii "d")) hcontexts (sampleUsers_levels (ascii "d")) hoptions rfl rfl
    (by decide)
  refine ⟨databuffer, msg, hreply, hmsg, fun textlength hlength => ?_⟩
  obtain ⟨text, hpayload, hparse⟩ := htext textlength hlength
  refine ⟨text, hpayload, fun mem hmem => (hparse mem hmem).mpr ⟨by decide, by simp [sampleUsers], ?_⟩⟩
  refine ⟨by decide, ?_, fun _ => ?_, fun _ => ?_⟩
  · intro a ha
    rw [mem_singleton.mp ha]
    decide
  · intro a ha
    rw [mem_singleton.mp ha]
    decide
  · intro c hc
    rw [mem_singleton.mp hc]
    decide

/-- A description of 256 bytes does not reach the client, whatever the text is. -/
theorem getLogInfo_loses_description :
    let users := sampleUsers (replicate 256 100)
    Registered users ∧ (∀ a ∈ users.applications, a.numContexts ≠ 0) ∧
      (∀ c ∈ users.contexts, Int8Levels c) ∧
      controlHeaderSize + logInfoSize users (sampleRequest 7) (users.select (sampleRequest 7)) ≤
        65535 ∧
      ∀ mem, parseLogInfo zeroMalloc mem ≠ some (7, tableInfo 7 users) := by
  intro users
  have hr : Registered users := sampleUsers_registered _
  refine ⟨hr, ?_, sampleUsers_levels _, ?_, ?_⟩
  · intro a ha
    rw [mem_singleton.mp ha]
    decide
  · rw [sampleUsers_size, length_replicate]
    decide
  · intro mem hparse
    simp only [parseLogInfo, Option.pure_def, Option.bind_eq_bind, Option.bind_eq_some_iff] at hparse
    obtain ⟨status, -, info, hinfo, heq⟩ := hparse
    cases heq
    have hlen : (replicate 256 (100 : UInt8)).length ≤ 255 :=
      (fitsBytes_of_parse hr hinfo).contextDescriptions rfl _ mem_cons_self
    rw [length_replicate] at hlen
    omega

end Dlt.Client
