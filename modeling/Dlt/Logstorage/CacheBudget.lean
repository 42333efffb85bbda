import Dlt.Lib.Runs
import Mathlib.Tactic.Ring
import Mathlib.Algebra.BigOperators.Group.List.Basic

/-!
# The memory for the caches of all filters

* `budgetKept_iff` — **the budget is kept along a run of the code exactly when along the ledger's run each new
  cache fits beside the one made last, released or not, as it fits beside all that are live.** The counter holds
  no more than that.

The names of the log files, which `dlt_logstorage_prepare_msg_cache` updates first, are left out.
-/

namespace Dlt.Logstorage.Budget

open Dlt.Lib List

/-! ## Data -/

/-- `sizeof(DltLogStorageCacheFooter)`: four numbers of 32 bits. Source: `dlt_offline_logstorage.h` -/
def sizeofCacheFooter : ℕ := 16

/-- What is read of a configuration for its cache.
Source: `DltLogStorageFilterConfig` -/
structure CacheFilter where
  /-- `sync` has `DLT_LOGSTORAGE_SYNC_ON_FILE_SIZE`. -/
  onFileSize : Bool
  /-- `sync` has `DLT_LOGSTORAGE_SYNC_ON_SPECIFIC_SIZE`. -/
  onSpecificSize : Bool
  /-- `file_size`. -/
  fileSize : UInt32
  /-- `specific_size`. -/
  specificSize : UInt32
  /-- The size of the cache, without the footer; `none` is no cache. -/
  cache : Option UInt32
deriving DecidableEq

open CacheFilter

/-- The devices with their filters. -/
abbrev Devices := List (List CacheFilter)

/-- The devices, and the memory that is counted. -/
structure BudgetState where
  devices : Devices
  /-- `g_logstorage_cache_size`. -/
  cacheSize : UInt32
  /-- `g_logstorage_cache_max`. -/
  cacheMax : UInt32

def Devices.filterAt (devices : Devices) (d f : ℕ) : Option CacheFilter := devices[d]?.bind (·[f]?)

/-- The filter at a position gets a cache of a size. -/
def Devices.giveCache (devices : Devices) (d f : ℕ) (size : UInt32) : Devices :=
  devices.modify d (·.modify f fun filter => { filter with cache := some size })

/-- The configurations of a device are released with their caches.
Source: `dlt_offline_logstorage.c`, `dlt_logstorage_list_destroy`, `dlt_logstorage_filter_config_free` -/
def Devices.destroy (devices : Devices) (d : ℕ) : Devices := devices.modify d fun _ => []

/-- A device gets configurations, which have no caches yet.
Source: `dlt_logstorage_list_add` -/
def Devices.add (devices : Devices) (d : ℕ) (filters : List CacheFilter) : Devices :=
  devices.modify d (· ++ filters.map fun filter => { filter with cache := none })

/-! ## Operations -/

/-- The sizes and the strategies of the configuration do not fit each other. -/
def CacheFilter.wrong (filter : CacheFilter) : Bool :=
  filter.onSpecificSize && filter.onFileSize || filter.onSpecificSize && filter.specificSize > filter.fileSize

/-- The size of the cache that the configuration asks for. -/
def CacheFilter.cacheSize (filter : CacheFilter) : UInt32 :=
  if filter.onSpecificSize then filter.specificSize else filter.fileSize

/-- The check against the maximum. The first sum is one of 32 bits, the second one is not. -/
def BudgetState.overMax (s : BudgetState) (cacheSize : UInt32) : Bool :=
  (s.cacheSize + cacheSize).toNat + sizeofCacheFooter > s.cacheMax.toNat

/-- `calloc` — there is memory for the cache.
Source: `dlt_offline_logstorage_behavior.c`, `dlt_logstorage_prepare_msg_cache` -/
def dltLogstoragePrepareMsgCache (s : BudgetState) (d f : ℕ) (calloc : Bool) : BudgetState × ℤ :=
  match s.devices.filterAt d f with
  | none => (s, -1)
  | some filter =>
    if filter.wrong then (s, -1)
    else if filter.cache ≠ none then (s, 0)
    else if s.overMax filter.cacheSize then (s, -1)
    else if calloc then
      ({ s with
         devices := s.devices.giveCache d f filter.cacheSize
         cacheSize := UInt32.ofNat (filter.cacheSize.toNat + sizeofCacheFooter) }, 0)
    else (s, 0)

/-- The counter stays as it is. Source: `dlt_offline_logstorage.c`, `dlt_logstorage_list_destroy` -/
def dltLogstorageListDestroy (s : BudgetState) (d : ℕ) : BudgetState := { s with devices := s.devices.destroy d }

/-- Source: `dlt_logstorage_list_add` -/
def dltLogstorageListAdd (s : BudgetState) (d : ℕ) (filters : List CacheFilter) : BudgetState :=
  { s with devices := s.devices.add d filters }

inductive BudgetOp
  | prepare (d f : ℕ) (calloc : Bool)
  | release (d : ℕ)
  | connect (d : ℕ) (filters : List CacheFilter)

def BudgetState.step (s : BudgetState) : BudgetOp → BudgetState
  | .prepare d f calloc => (dltLogstoragePrepareMsgCache s d f calloc).1
  | .release d => dltLogstorageListDestroy s d
  | .connect d filters => dltLogstorageListAdd s d filters

/-! ## The budget -/

/-- The memory of the cache of a filter, with its footer. -/
def CacheFilter.memory (filter : CacheFilter) : ℕ :=
    (filter.cache.map fun size => size.toNat + sizeofCacheFooter).getD 0

/-- The memory of all live caches. -/
def Devices.total (devices : Devices) : ℕ := (devices.map fun filters => (filters.map memory).sum).sum

/-- The size of the cache that a call asks for; `none` when the configuration is wrong, or has one. -/
def Devices.asked (devices : Devices) (d f : ℕ) : Option UInt32 :=
  (devices.filterAt d f).bind fun filter => if filter.wrong || filter.cache ≠ none then none else some filter.cacheSize

/-- All live caches and another one fit the maximum. -/
def Devices.Fits (devices : Devices) (cacheMax size : UInt32) : Prop :=
  devices.total + (size.toNat + sizeofCacheFooter) ≤ cacheMax.toNat

instance (devices : Devices) (cacheMax size : UInt32) : Decidable (devices.Fits cacheMax size) := Nat.decLe _ _

/-- **The budget is kept** by an operation: all live caches fit the maximum behind it, and a cache is refused
only when it does not fit. -/
def BudgetKept (s : BudgetState) (op : BudgetOp) : Prop :=
  (s.step op).devices.total ≤ s.cacheMax.toNat ∧
    ∀ d f calloc size, op = .prepare d f calloc → s.devices.asked d f = some size →
      (dltLogstoragePrepareMsgCache s d f calloc).2 = -1 → ¬ s.devices.Fits s.cacheMax size

/-! ## The ledger -/

/-- **The caches as they ought to be.** -/
structure Ledger where
  devices : Devices
  /-- The memory of the cache that was made last, with its footer. It may have been released. -/
  latest : ℕ
  cacheMax : UInt32

/-- A cache is made when it fits and there is memory for it. -/
def Ledger.step (l : Ledger) : BudgetOp → Ledger
  | .prepare d f calloc =>
    match l.devices.asked d f with
    | none => l
    | some size =>
      if calloc ∧ l.devices.Fits l.cacheMax size then
        { l with devices := l.devices.giveCache d f size, latest := size.toNat + sizeofCacheFooter }
      else l
  | .release d => { l with devices := l.devices.destroy d }
  | .connect d filters => { l with devices := l.devices.add d filters }

/-- A cache fits the maximum beside the one that was made last. The sum of the sizes is one of 32 bits. -/
def Ledger.FitsLatest (l : Ledger) (size : UInt32) : Prop :=
  (l.latest + size.toNat) % 4294967296 + sizeofCacheFooter ≤ l.cacheMax.toNat

/-- **The cache made last decides as all live ones**: one that is asked for and fits beside these fits beside that one,
and, when there is memory for it, one that fits beside that one fits beside these. -/
def Ledger.LatestDecides (l : Ledger) : BudgetOp → Prop
  | .prepare d f calloc =>
    ∀ size, l.devices.asked d f = some size →
      (l.devices.Fits l.cacheMax size → l.FitsLatest size) ∧
        (calloc = true → l.FitsLatest size → l.devices.Fits l.cacheMax size)
  | _ => True

/-! ## The total -/

section total

theorem sum_map_modify {α : Type*} {xs : List α} {i : ℕ} {x : α} (g : α → ℕ) (f : α → α) (h : xs[i]? = some x) :
    ((xs.modify i f).map g).sum + g x = (xs.map g).sum + g (f x) := by
  induction xs generalizing i with
  | nil => cases h
  | cons y ys ih =>
    cases i with
    | zero =>
      obtain rfl : y = x := Option.some.inj h
      rw [modify_zero_cons, map_cons, map_cons, sum_cons, sum_cons]
      omega
    | succ i =>
      rw [modify_succ_cons, map_cons, map_cons, sum_cons, sum_cons]
      have hi := ih (i := i) h
      omega

variable {devices : Devices} {d f : ℕ} {filter : CacheFilter}

/-- A filter without a cache gets one. -/
theorem total_giveCache (h : devices.filterAt d f = some filter) (hnone : filter.cache = none) (size : UInt32) :
    (devices.giveCache d f size).total = devices.total + (size.toNat + sizeofCacheFooter) := by
  obtain ⟨filters, hfilters, hfilter⟩ := Option.bind_eq_some_iff.mp h
  have hinner := sum_map_modify memory (fun filter => { filter with cache := some size }) hfilter
  have houter := sum_map_modify (fun filters => (filters.map memory).sum)
    (fun filters : List CacheFilter => filters.modify f fun filter => { filter with cache := some size }) hfilters
  have hold : filter.memory = 0 := by
    unfold memory
    rw [hnone]
    rfl
  have hnew : memory { filter with cache := some size } = size.toNat + sizeofCacheFooter := rfl
  unfold Devices.total Devices.giveCache
  omega

/-- A device that changes without a live cache more does not add to the total. -/
theorem total_modify_le (change : List CacheFilter → List CacheFilter)
    (h : ∀ filters, ((change filters).map memory).sum ≤ (filters.map memory).sum) :
    Devices.total (devices.modify d change) ≤ devices.total := by
  unfold Devices.total
  cases hd : devices[d]? with
  | none =>
    have hlen : devices.length ≤ d := List.getElem?_eq_none_iff.mp hd
    rw [modify_eq_self hlen]
  | some filters =>
    have houter := sum_map_modify (fun filters => (filters.map memory).sum) change hd
    have hle := h filters
    omega

theorem total_destroy (devices : Devices) (d : ℕ) : (devices.destroy d).total ≤ devices.total := by
  apply total_modify_le
  intro filters
  exact Nat.zero_le _

theorem total_add (devices : Devices) (d : ℕ) (filters : List CacheFilter) :
    (devices.add d filters).total ≤ devices.total := by
  apply total_modify_le
  intro old
  have hnew : ((filters.map fun filter => { filter with cache := none }).map memory).sum = 0 := by
    rw [map_map]
    apply sum_eq_zero
    intro n hn
    obtain ⟨filter, -, rfl⟩ := mem_map.mp hn
    rfl
  exact Nat.le_of_eq (by rw [map_append, sum_append, hnew, Nat.add_zero])

end total

/-! ## One operation -/

section operation

variable {s : BudgetState} {l : Ledger} {d f : ℕ} {calloc : Bool} {size : UInt32}

theorem prepare_of_not_asked (h : s.devices.asked d f = none) : (dltLogstoragePrepareMsgCache s d f calloc).1 = s := by
  unfold Devices.asked at h
  unfold dltLogstoragePrepareMsgCache
  cases hfilter : s.devices.filterAt d f with
  | none => rfl
  | some filter =>
    rw [hfilter, Option.bind_some] at h
    dsimp only
    by_cases hwrong : filter.wrong = true
    · rw [if_pos hwrong]
    · by_cases hcache : filter.cache ≠ none
      · rw [if_neg hwrong, if_pos hcache]
      · rw [if_neg (by simpa [hwrong] using hcache)] at h
        cases h

/-- **A call that asks for a cache.** When it is granted, it is the only one that is counted. -/
theorem prepare_of_asked (h : s.devices.asked d f = some size) :
    dltLogstoragePrepareMsgCache s d f calloc =
      if s.overMax size then (s, -1)
      else if calloc then
        ({ s with
           devices := s.devices.giveCache d f size, cacheSize := UInt32.ofNat (size.toNat + sizeofCacheFooter) }, 0)
      else (s, 0) := by
  obtain ⟨filter, hfilter, hasked⟩ := Option.bind_eq_some_iff.mp h
  by_cases hno : (filter.wrong || filter.cache ≠ none) = true
  · rw [if_pos hno] at hasked
    cases hasked
  · rw [if_neg hno] at hasked
    obtain rfl := Option.some.inj hasked
    rw [Bool.or_eq_true, not_or, decide_eq_true_iff] at hno
    unfold dltLogstoragePrepareMsgCache
    rw [hfilter]
    dsimp only
    rw [if_neg hno.1, if_neg hno.2]

/-- A cache that is asked for adds its memory to the total. -/
theorem total_of_asked {devices : Devices} (h : devices.asked d f = some size) :
    (devices.giveCache d f size).total = devices.total + (size.toNat + sizeofCacheFooter) := by
  obtain ⟨filter, hfilter, hasked⟩ := Option.bind_eq_some_iff.mp h
  have hnone : filter.cache = none := by
    by_contra hcache
    rw [if_pos (by simp [hcache])] at hasked
    cases hasked
  exact total_giveCache hfilter hnone size

/-- **The code follows the ledger**: it has the same caches, within the maximum, and counts the one that was
made last. -/
structure Follows (s : BudgetState) (l : Ledger) : Prop where
  devices_eq : s.devices = l.devices
  cacheMax_eq : s.cacheMax = l.cacheMax
  cacheSize_eq : s.cacheSize = UInt32.ofNat l.latest
  total_le : l.devices.total ≤ l.cacheMax.toNat

theorem Follows.overMax_iff (h : Follows s l) (size : UInt32) : s.overMax size = true ↔ ¬ l.FitsLatest size := by
  unfold BudgetState.overMax Ledger.FitsLatest
  rw [decide_eq_true_iff, gt_iff_lt, Nat.not_le, h.cacheMax_eq, h.cacheSize_eq, UInt32.toNat_add, UInt32.toNat_ofNat',
    Nat.mod_add_mod]

/-- What the budget asks of a call that asks for a cache. -/
theorem budgetKept_prepare_iff (h : s.devices.asked d f = some size) :
    BudgetKept s (.prepare d f calloc) ↔
      (dltLogstoragePrepareMsgCache s d f calloc).1.devices.total ≤ s.cacheMax.toNat ∧
        ((dltLogstoragePrepareMsgCache s d f calloc).2 = -1 → ¬ s.devices.Fits s.cacheMax size) := by
  refine and_congr_right fun _ => ⟨fun hrefused => hrefused d f calloc size rfl h, fun hrefused => ?_⟩
  intro d' f' calloc' size' hop hsize'
  cases hop
  rw [h] at hsize'
  cases hsize'
  exact hrefused

/-- **A call that asks for a cache** keeps the budget exactly when the check of the counter decides as the total
would. -/
theorem Follows.prepare_kept_iff (h : Follows s l) (hasked : s.devices.asked d f = some size) :
    BudgetKept s (.prepare d f calloc) ↔
      (s.devices.Fits s.cacheMax size → l.FitsLatest size) ∧
        (calloc = true → l.FitsLatest size → s.devices.Fits s.cacheMax size) := by
  have htotal : s.devices.total ≤ s.cacheMax.toNat := by
    rw [h.devices_eq, h.cacheMax_eq]
    exact h.total_le
  rw [budgetKept_prepare_iff hasked, prepare_of_asked hasked]
  by_cases hlatest : l.FitsLatest size
  · rw [if_neg (by simpa [h.overMax_iff size] using hlatest)]
    cases calloc with
    | false => simp [hlatest, htotal]
    | true =>
      rw [if_pos rfl, total_of_asked hasked]
      exact ⟨fun hkept => ⟨fun _ => hlatest, fun _ _ => hkept.1⟩, fun hright =>
        ⟨hright.2 rfl hlatest, fun hret => absurd (show (0 : ℤ) = -1 from hret) (by decide)⟩⟩
  · rw [if_pos ((h.overMax_iff size).mpr hlatest)]
    simp [hlatest, htotal]

/-- **One operation** keeps the budget exactly when the cache made last decides as all live ones. -/
theorem Follows.kept_iff (h : Follows s l) (op : BudgetOp) : BudgetKept s op ↔ l.LatestDecides op := by
  cases op with
  | release d =>
    refine ⟨fun _ => trivial, fun _ => ⟨?_, fun _ _ _ _ hop => (by cases hop)⟩⟩
    rw [BudgetState.step, dltLogstorageListDestroy, h.devices_eq, h.cacheMax_eq]
    exact Nat.le_trans (total_destroy l.devices d) h.total_le
  | connect d filters =>
    refine ⟨fun _ => trivial, fun _ => ⟨?_, fun _ _ _ _ hop => (by cases hop)⟩⟩
    rw [BudgetState.step, dltLogstorageListAdd, h.devices_eq, h.cacheMax_eq]
    exact Nat.le_trans (total_add l.devices d filters) h.total_le
  | prepare d f calloc =>
    rw [Ledger.LatestDecides, ← h.devices_eq, ← h.cacheMax_eq]
    cases hasked : s.devices.asked d f with
    | some size =>
      rw [h.prepare_kept_iff hasked]
      exact ⟨fun hright size' hsize' => (by cases hsize'; exact hright), fun hright => hright size rfl⟩
    | none =>
      refine ⟨fun _ _ hsize => (by cases hsize), fun _ => ⟨?_, fun d' f' calloc' size hop hsize => ?_⟩⟩
      · rw [BudgetState.step, prepare_of_not_asked hasked, h.devices_eq, h.cacheMax_eq]
        exact h.total_le
      · cases hop
        rw [hasked] at hsize
        cases hsize

/-- An operation that keeps the budget is one of the ledger. -/
theorem Follows.step (h : Follows s l) (op : BudgetOp) (hkept : BudgetKept s op) : Follows (s.step op) (l.step op) := by
  cases op with
  | release d =>
    exact ⟨congrArg (Devices.destroy · d) h.devices_eq, h.cacheMax_eq, h.cacheSize_eq,
      Nat.le_trans (total_destroy l.devices d) h.total_le⟩
  | connect d filters =>
    exact ⟨congrArg (Devices.add · d filters) h.devices_eq, h.cacheMax_eq, h.cacheSize_eq,
      Nat.le_trans (total_add l.devices d filters) h.total_le⟩
  | prepare d f calloc =>
    rw [BudgetState.step, Ledger.step, ← h.devices_eq, ← h.cacheMax_eq]
    cases hasked : s.devices.asked d f with
    | none =>
      rw [prepare_of_not_asked hasked]
      exact h
    | some size =>
      obtain ⟨hfits, hlatest⟩ := (h.prepare_kept_iff hasked).mp hkept
      dsimp only
      rw [prepare_of_asked hasked]
      by_cases hover : s.overMax size = true
      · have hno : ¬ s.devices.Fits s.cacheMax size := fun hyes => (h.overMax_iff size).mp hover (hfits hyes)
        rw [if_pos hover, if_neg fun hmade => hno hmade.2]
        exact h
      · have hyes : l.FitsLatest size := by simpa [h.overMax_iff size] using hover
        rw [if_neg hover]
        cases calloc with
        | false =>
          rw [if_neg Bool.false_ne_true, if_neg fun hmade => Bool.false_ne_true hmade.1]
          exact h
        | true =>
          have hmade := hlatest rfl hyes
          rw [if_pos rfl, if_pos ⟨rfl, hmade⟩]
          refine ⟨rfl, rfl, rfl, ?_⟩
          dsimp only
          rw [total_of_asked hasked]
          exact hmade

end operation

/-! ## Runs -/

/-- Nothing is connected: the devices are empty, and nothing is counted. -/
def BudgetState.start (devices : ℕ) (cacheMax : UInt32) : BudgetState :=
  { devices := List.replicate devices [], cacheSize := 0, cacheMax }

def Ledger.start (devices : ℕ) (cacheMax : UInt32) : Ledger :=
  { devices := List.replicate devices [], latest := 0, cacheMax }

theorem follows_start (devices : ℕ) (cacheMax : UInt32) :
    Follows (.start devices cacheMax) (.start devices cacheMax) := by
  refine ⟨rfl, rfl, rfl, ?_⟩
  have htotal : Devices.total (List.replicate devices []) = 0 := by simp [Devices.total]
  exact Nat.le_trans (Nat.le_of_eq htotal) (Nat.zero_le _)

/-- **The budget is kept** along a run of the code, for any number of devices and filters, exactly when along the run of
the ledger the cache made last decides as all live ones whenever a cache is asked for. -/
theorem budgetKept_iff (devices : ℕ) (cacheMax : UInt32) (ops : List BudgetOp) :
    AlongRun BudgetState.step BudgetKept (.start devices cacheMax) ops ↔
      AlongRun Ledger.step Ledger.LatestDecides (.start devices cacheMax) ops :=
  AlongRun.iff_of_rel (fun _ _ op h => h.kept_iff op) (fun _ _ op h hkept => h.step op hkept)
    (follows_start devices cacheMax) ops

/-- Three caches of 20 bytes where two fit: all of them are granted. -/
theorem budgetKept_three :
    ¬ AlongRun BudgetState.step BudgetKept (.start 1 100)
      [.connect 0 (List.replicate 3 ⟨true, false, 20, 0, none⟩), .prepare 0 0 true, .prepare 0 1 true,
        .prepare 0 2 true] := by
  rintro ⟨-, -, -, ⟨hle, -⟩, -⟩
  revert hle
  decide +kernel

end Dlt.Logstorage.Budget
