import Dlt.Lib.Hex
import Dlt.Shared.Id

/-!
# The initial log levels of the environment: `DLT_INITIAL_LOG_LEVEL`

* `FirstOfHighest` — the level is that of the first item of the highest priority, and `adjust_firstOfHighest`: so it is
  for every set.
-/

namespace Dlt.EnvLevels

open Dlt.Lib Dlt.Shared

/-! ## Data -/

/-- Source: `dlt_user.h`, `dlt_env_ll_item` -/
structure EnvLlItem where
  appId : Id4
  ctxId : Id4
  ll : ℤ
deriving DecidableEq

/-- The items of the set, and the size of its memory. Source: `dlt_env_ll_set` -/
structure EnvLlSet where
  /-- The first `num_elem` items. -/
  item : List EnvLlItem
  /-- `array_size`. -/
  arraySize : ℕ
deriving DecidableEq

/-- `DLT_ENV_LL_SET_INCREASE`. Source: `dlt_env_ll.c` -/
def dltEnvLlSetIncrease : ℕ := 10

/-- The names of the levels. Source: `dlt_env_extract_symbolic_ll` -/
def levelNames : List (List UInt8 × ℤ) :=
  [(ascii "default", -1), (ascii "off", 0), (ascii "fatal", 1), (ascii "error", 2), (ascii "warning", 3),
    (ascii "info", 4), (ascii "debug", 5), (ascii "verbose", 6)]

/-! ## Reading the string -/

/-- The character `:`. -/
def colon : UInt8 := 58

/-- The character `;`. -/
def semicolon : UInt8 := 59

/-- Source: `dlt_env_extract_id` -/
def dltEnvExtractId (env : List UInt8) : Id4 × Option (List UInt8) :=
  let text := (env.take 4).takeWhile fun c => c ≠ colon ∧ c ≠ 0
  let rest := env.drop text.length
  (dltSetId text, if rest.headD 0 = colon then some rest else none)

/-- A letter in lower case. Source: `dlt_env_helper_to_lower` -/
def lowerCase (c : UInt8) : UInt8 := if 65 ≤ c ∧ c ≤ 90 then c + 32 else c

/-- The text in lower case, at most `resLen - 1` characters of it. Source: `dlt_env_helper_to_lower` -/
def dltEnvHelperToLower (env : List UInt8) (resLen : ℕ) : List UInt8 × Option (List UInt8) :=
  let text := (env.take (resLen - 1)).takeWhile fun c => c ≠ 0 ∧ c ≠ semicolon
  let rest := env.drop text.length
  (text.map lowerCase, if rest.headD 0 = 0 ∨ rest.headD 0 = semicolon then some rest else none)

/-- The level is `0` where none is written: the item was cleared before. Source: `dlt_env_extract_symbolic_ll` -/
def dltEnvExtractSymbolicLl (env : List UInt8) : ℤ × Option (List UInt8) :=
  match dltEnvHelperToLower env 8 with
  | (_, none) => (0, none)
  | (result, some rest) =>
      match levelNames.lookup result with
      | none => (0, none)
      | some ll => (ll, some (if rest.headD 0 ≠ 0 then rest.drop 1 else rest))

/-- Source: `dlt_env_extract_ll` -/
def dltEnvExtractLl (env : List UInt8) : ℤ × Option (List UInt8) :=
  let extracted : ℤ × Option (List UInt8) :=
    if env.headD 0 = 45 then
      if (env.drop 1).headD 0 = 49 then (-1, some (env.drop 2)) else (0, some (env.drop 1))
    else if 48 ≤ env.headD 0 ∧ env.headD 0 < 55 then ((env.headD 0).toNat - 48, some (env.drop 1))
    else dltEnvExtractSymbolicLl env
  match extracted.2 with
  | none => (extracted.1, none)
  | some rest => (extracted.1, if rest.headD 0 = semicolon ∨ rest.headD 0 = 0 then some rest else none)

/-- Source: `dlt_env_extract_ll_item` -/
def dltEnvExtractLlItem (env : List UInt8) : EnvLlItem × Option (List UInt8) :=
  let app := dltEnvExtractId env
  match app.2 with
  | none => (⟨app.1, dltSetId [], 0⟩, none)
  | some rest =>
      let ctx := dltEnvExtractId (rest.drop 1)
      match ctx.2 with
      | none => (⟨app.1, ctx.1, 0⟩, none)
      | some rest =>
          let ll := dltEnvExtractLl (rest.drop 1)
          (⟨app.1, ctx.1, ll.1⟩, ll.2)

/-- The set has room for one more item, `none` where there is no memory. Source: `dlt_env_extract_ll_set`,
`dlt_env_increase_ll_set` -/
def makeRoom (malloc : ℕ → Bool) (set : EnvLlSet) : Option EnvLlSet :=
  if set.item.length = set.arraySize then
    if malloc (set.arraySize + dltEnvLlSetIncrease) then
      some { set with arraySize := set.arraySize + dltEnvLlSetIncrease }
    else none
  else some set

/-- The loop over the items, with at most `fuel` turns, and whether it is successful. Source:
`dlt_env_extract_ll_set` -/
def extractItems (malloc : ℕ → Bool) : ℕ → List UInt8 → EnvLlSet → EnvLlSet × Bool
  | 0, _, set => (set, false)
  | fuel + 1, env, set =>
      match makeRoom malloc set with
      | none => (set, false)
      | some set =>
          let extracted := dltEnvExtractLlItem env
          let set := { set with item := set.item ++ [extracted.1] }
          match extracted.2 with
          | none => (set, false)
          | some rest =>
              let rest := if rest.headD 0 = semicolon then rest.drop 1 else rest
              if rest.headD 0 ≠ 0 then extractItems malloc fuel rest set else (set, true)

/-- The set of a string, and whether it was accepted; `malloc` says for which numbers of items there is memory.
Source: `dlt_env_extract_ll_set` -/
def dltEnvExtractLlSet (malloc : ℕ → Bool) (env : List UInt8) : EnvLlSet × Bool :=
  if malloc dltEnvLlSetIncrease then extractItems malloc (env.length + 1) env ⟨[], dltEnvLlSetIncrease⟩
  else (⟨[], 0⟩, false)

/-! ## The level of a context -/

/-- Source: `dlt_env_ll_item_get_matching_prio` -/
def dltEnvLlItemGetMatchingPrio (item : EnvLlItem) (apid ctid : Id4) : ℕ :=
  if item.appId.isEmpty then
    if item.ctxId.isEmpty then 1 else if item.ctxId = ctid then 2 else 0
  else if item.appId = apid then
    if item.ctxId.isEmpty then 3 else if item.ctxId = ctid then 4 else 0
  else 0

/-- The loop over the items, with the level and the priority that were found. Source: `dlt_env_adjust_ll_from_env` -/
def adjustLoop (apid ctid : Id4) : List EnvLlItem → ℤ → ℕ → ℤ
  | [], res, _ => res
  | item :: items, res, prio =>
      let p := dltEnvLlItemGetMatchingPrio item apid ctid
      if p > prio then
        if p = 4 then item.ll else adjustLoop apid ctid items item.ll p
      else adjustLoop apid ctid items res prio

/-- Source: `dlt_env_adjust_ll_from_env` -/
def dltEnvAdjustLlFromEnv (items : List EnvLlItem) (apid ctid : Id4) (ll : ℤ) : ℤ := adjustLoop apid ctid items ll 0

/-! ## The first item of the highest priority -/

/-- How an item fits a context: by both ids, by the application id, by the context id, or because it names none. -/
inductive Fits (item : EnvLlItem) (apid ctid : Id4) : ℕ → Prop
  | both (happ : item.appId.isEmpty = false) (hctx : item.ctxId.isEmpty = false) (happ' : item.appId = apid)
      (hctx' : item.ctxId = ctid) : Fits item apid ctid 4
  | application (happ : item.appId.isEmpty = false) (hctx : item.ctxId.isEmpty = true) (happ' : item.appId = apid) :
      Fits item apid ctid 3
  | context (happ : item.appId.isEmpty = true) (hctx : item.ctxId.isEmpty = false) (hctx' : item.ctxId = ctid) :
      Fits item apid ctid 2
  | any (happ : item.appId.isEmpty = true) (hctx : item.ctxId.isEmpty = true) : Fits item apid ctid 1

/-- The level is that of the first item that fits best, or the given one when none fits. -/
def FirstOfHighest (items : List EnvLlItem) (apid ctid : Id4) (ll res : ℤ) : Prop :=
  (res = ll ∧ ∀ item ∈ items, ∀ p, ¬ Fits item apid ctid p) ∨
    ∃ before item after p, items = before ++ item :: after ∧ Fits item apid ctid p ∧ res = item.ll ∧
      (∀ other ∈ before, ∀ q, Fits other apid ctid q → q < p) ∧ ∀ other ∈ after, ∀ q, Fits other apid ctid q → q ≤ p

section adjust

variable {item : EnvLlItem} {apid ctid : Id4}

theorem matchingPrio_iff {p : ℕ} (hp : 0 < p) :
    dltEnvLlItemGetMatchingPrio item apid ctid = p ↔ Fits item apid ctid p := by
  unfold dltEnvLlItemGetMatchingPrio
  constructor
  · intro h
    split_ifs at h with happ hctx hctx' happ' hctx hctx'
    · rw [← h]
      exact .any happ hctx
    · rw [← h]
      exact .context happ (Bool.not_eq_true _ ▸ hctx) hctx'
    · omega
    · rw [← h]
      exact .application (Bool.not_eq_true _ ▸ happ) hctx happ'
    · rw [← h]
      exact .both (Bool.not_eq_true _ ▸ happ) (Bool.not_eq_true _ ▸ hctx) happ' hctx'
    · omega
    · omega
  · intro h
    cases h with
    | both happ hctx happ' hctx' =>
      rw [if_neg (by rw [happ]; exact Bool.false_ne_true), if_pos happ',
        if_neg (by rw [hctx]; exact Bool.false_ne_true), if_pos hctx']
    | application happ hctx happ' => rw [if_neg (by rw [happ]; exact Bool.false_ne_true), if_pos happ', if_pos hctx]
    | context happ hctx hctx' => rw [if_pos happ, if_neg (by rw [hctx]; exact Bool.false_ne_true), if_pos hctx']
    | any happ hctx => rw [if_pos happ, if_pos hctx]

theorem matchingPrio_le (item : EnvLlItem) (apid ctid : Id4) : dltEnvLlItemGetMatchingPrio item apid ctid ≤ 4 := by
  unfold dltEnvLlItemGetMatchingPrio
  split_ifs <;> decide

/-- What bounds the priority of an item bounds that of each way it fits. -/
theorem lt_of_fits {item : EnvLlItem} {n p : ℕ} (hprio : dltEnvLlItemGetMatchingPrio item apid ctid ≤ n)
    (hfits : Fits item apid ctid p) : p ≤ n := by
  have hpos : 0 < p := by cases hfits <;> decide
  rwa [(matchingPrio_iff hpos).mpr hfits] at hprio

/-- **The loop** keeps its level, and no item has a higher priority; or it ends with the first item of the highest
priority. -/
theorem adjustLoop_cases (items : List EnvLlItem) (res : ℤ) (prio : ℕ) :
    (adjustLoop apid ctid items res prio = res ∧
        ∀ item ∈ items, dltEnvLlItemGetMatchingPrio item apid ctid ≤ prio) ∨
      ∃ before item after, items = before ++ item :: after ∧
        prio < dltEnvLlItemGetMatchingPrio item apid ctid ∧ adjustLoop apid ctid items res prio = item.ll ∧
        (∀ other ∈ before,
          dltEnvLlItemGetMatchingPrio other apid ctid < dltEnvLlItemGetMatchingPrio item apid ctid) ∧
        ∀ other ∈ after,
          dltEnvLlItemGetMatchingPrio other apid ctid ≤ dltEnvLlItemGetMatchingPrio item apid ctid := by
  induction items generalizing res prio with
  | nil => exact .inl ⟨rfl, fun item hitem => absurd hitem List.not_mem_nil⟩
  | cons item items ih =>
    rw [adjustLoop]
    by_cases hhigher : dltEnvLlItemGetMatchingPrio item apid ctid > prio
    · rw [if_pos hhigher]
      by_cases hfour : dltEnvLlItemGetMatchingPrio item apid ctid = 4
      · rw [if_pos hfour]
        refine .inr ⟨[], item, items, rfl, hhigher, rfl, fun other hother => absurd hother List.not_mem_nil, ?_⟩
        intro other _
        rw [hfour]
        exact matchingPrio_le other apid ctid
      · rw [if_neg hfour]
        rcases ih item.ll (dltEnvLlItemGetMatchingPrio item apid ctid) with
          ⟨hres, hle⟩ | ⟨before, best, after, rfl, hlt, hres, hbefore, hafter⟩
        · exact .inr ⟨[], item, items, rfl, hhigher, hres, fun other hother => absurd hother List.not_mem_nil, hle⟩
        · refine .inr ⟨item :: before, best, after, rfl, hhigher.trans hlt, hres, ?_, hafter⟩
          intro other hother
          rcases List.mem_cons.mp hother with rfl | hother
          · exact hlt
          · exact hbefore other hother
    · rw [if_neg hhigher]
      rcases ih res prio with ⟨hres, hle⟩ | ⟨before, best, after, rfl, hlt, hres, hbefore, hafter⟩
      · refine .inl ⟨hres, ?_⟩
        intro other hother
        rcases List.mem_cons.mp hother with rfl | hother
        · exact not_lt.mp hhigher
        · exact hle other hother
      · refine .inr ⟨item :: before, best, after, rfl, hlt, hres, ?_, hafter⟩
        intro other hother
        rcases List.mem_cons.mp hother with rfl | hother
        · exact (not_lt.mp hhigher).trans_lt hlt
        · exact hbefore other hother

/-- **The level of a context** is that of the first item of the highest priority. -/
theorem adjust_firstOfHighest (items : List EnvLlItem) (apid ctid : Id4) (ll : ℤ) :
    FirstOfHighest items apid ctid ll (dltEnvAdjustLlFromEnv items apid ctid ll) := by
  unfold dltEnvAdjustLlFromEnv
  rcases @adjustLoop_cases apid ctid items ll 0 with
    ⟨hres, hle⟩ | ⟨before, item, after, hitems, hlt, hres, hbefore, hafter⟩
  · refine .inl ⟨hres, ?_⟩
    intro item hitem p hfits
    have hzero := lt_of_fits (hle item hitem) hfits
    cases hfits <;> exact absurd hzero (by decide)
  · refine .inr ⟨before, item, after, _, hitems, (matchingPrio_iff hlt).mp rfl, hres, ?_, ?_⟩
    · intro other hother q hfits
      exact (lt_of_fits (Nat.le_sub_one_of_lt (hbefore other hother)) hfits).trans_lt (Nat.sub_one_lt hlt.ne')
    · intro other hother q hfits
      exact lt_of_fits (hafter other hother) hfits

/-- The level of a context is the given one, or that of an item. -/
theorem adjust_mem (items : List EnvLlItem) (apid ctid : Id4) (ll : ℤ) :
    dltEnvAdjustLlFromEnv items apid ctid ll = ll ∨
      ∃ item ∈ items, dltEnvAdjustLlFromEnv items apid ctid ll = item.ll := by
  rcases adjust_firstOfHighest items apid ctid ll with
    ⟨hres, -⟩ | ⟨before, item, after, p, rfl, -, hres, -⟩
  · exact .inl hres
  · exact .inr ⟨item, List.mem_append_right _ List.mem_cons_self, hres⟩

theorem exists_fits (item : EnvLlItem) : ∃ apid ctid, ∃ p, Fits item apid ctid p := by
  refine ⟨item.appId, item.ctxId, ?_⟩
  cases happ : item.appId.isEmpty with
  | true =>
    cases hctx : item.ctxId.isEmpty with
    | true => exact ⟨1, .any happ hctx⟩
    | false => exact ⟨2, .context happ hctx rfl⟩
  | false =>
    cases hctx : item.ctxId.isEmpty with
    | true => exact ⟨3, .application happ hctx rfl⟩
    | false => exact ⟨4, .both happ hctx rfl rfl⟩

end adjust

end Dlt.EnvLevels
