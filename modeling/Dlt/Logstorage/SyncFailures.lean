import Dlt.Logstorage.Cache

/-!
# A sync whose file operations fail

* `sync_losesNothing_iff` — **no failing sync does this**: what `dlt_logstorage_sync_to_file` returns is not looked at.
* `dltLogstorageSyncMsgCache_succeeds` — without failures it is the sync of the model in which nothing fails.
-/

namespace Dlt.Logstorage.Failing

open Dlt.Lib

/-! ## The code -/

/-- The cache strategies. Source: `dlt_offline_logstorage.h`, `DLT_LOGSTORAGE_SYNC_ON_*` -/
inductive CacheStrategy
  /-- One of those with a cache that wraps around. -/
  | wraps (strategy : SyncStrategy)
  /-- `DLT_LOGSTORAGE_SYNC_ON_FILE_SIZE` -/
  | onFileSize
  /-- `DLT_LOGSTORAGE_SYNC_ON_SPECIFIC_SIZE` -/
  | onSpecificSize
deriving DecidableEq

/-- What the sync reads of a configuration. Source: `DltLogStorageFilterConfig` -/
structure FilterConfig where
  fileSize : ℕ
  /-- The size of the cache with `ON_SPECIFIC_SIZE`. -/
  specificSize : ℕ
  sync : List CacheStrategy

/-- The size of the cache. Source: `dlt_offline_logstorage_behavior.c`, `dlt_logstorage_sync_msg_cache` -/
def FilterConfig.cacheSize (config : FilterConfig) : ℕ :=
  if .onSpecificSize ∈ config.sync then config.specificSize else config.fileSize

/-- What the file operations give, call by call. -/
structure FileOutcomes where
  opens : ℕ → Bool
  /-- So many bytes are written, or all if there are no more. -/
  writes : ℕ → ℕ

/-- The cache, the log files, and what happened to them. -/
structure SyncState extends CacheState where
  /-- `config->log` is open. -/
  log : Bool
  nullUsed : Bool
  /-- In the last sync a log file could not be opened, or written to. -/
  failed : Bool
  /-- The number of log files that were to be opened. -/
  opened : ℕ
  written : ℕ

/-- A log file is opened: where writing begins, if it succeeds.
Source: `dlt_logstorage_open_log_file` -/
def openLogFile (outcomes : FileOutcomes) (fileSize : ℕ) (msgSize : ℤ) (s : SyncState) : SyncState × Option ℕ :=
  if outcomes.opens s.opened then
    let opened := dltLogstorageOpenLogFile fileSize msgSize s.files
    ({ s with files := opened.1, log := true, opened := s.opened + 1 }, some opened.2)
  else ({ s with log := false, failed := true, opened := s.opened + 1 }, none)

/-- Bytes of the cache are written to the log file. -/
def fwrite (outcomes : FileOutcomes) (start stop : ℕ) (s : SyncState) : SyncState :=
  let bytes := slice s.cache start stop
  let n := outcomes.writes s.written
  { s with
    files := Logstorage.fwrite s.files (bytes.take n)
    failed := s.failed || n < bytes.length
    written := s.written + 1 }

/-- The last part. Source: `dlt_logstorage_sync_to_file` -/
def syncRest (outcomes : FileOutcomes) (s : SyncState) (startOffset endOffset : ℕ) (count : ℤ) : SyncState × ℤ :=
  match dltLogstorageFindDltHeader s.cache startOffset (u32 count) with
  | none => ({ s with outside := true }, 0)
  | some startIndex =>
    let count := i32 (endOffset - startOffset - startIndex)
    if 0 ≤ startIndex ∧ 0 < count then
      if !s.log then (s, -1)
      else if s.cache.length < startOffset + startIndex.toNat + count.toNat then ({ s with outside := true }, 0)
      else
        let s := fwrite outcomes (startOffset + startIndex.toNat) (startOffset + startIndex.toNat + count.toNat) s
        ({ s with footer := { s.footer with lastSyncOffset := endOffset, wrapAroundCnt := 0 } }, 0)
    else ({ s with footer := { s.footer with wrapAroundCnt := 0 } }, 0)

/-- Source: `dlt_logstorage_sync_to_file` -/
def dltLogstorageSyncToFile (outcomes : FileOutcomes) (fileSize : ℕ) (s : SyncState) (startOffset endOffset : ℕ) :
    SyncState × ℤ :=
  let count := i32 (endOffset - startOffset)
  match openLogFile outcomes fileSize count s with
  | (s, none) => (s, -1)
  | (s, some currentWriteFileOffset) =>
    let remainFileSize := i32 (fileSize - currentWriteFileOffset)
    if remainFileSize < count then
      match dltLogstorageFindDltHeader s.cache startOffset (u32 remainFileSize) with
      | none => ({ s with outside := true }, 0)
      | some startIndex =>
        match dltLogstorageFindLastDltHeader s.cache (u32 (startOffset + startIndex))
            (u32 (remainFileSize - startIndex)) with
        | none => ({ s with outside := true }, 0)
        | some endIndex =>
          let count := endIndex - startIndex
          if 0 ≤ startIndex ∧ startIndex < endIndex ∧ 0 < count ∧ count ≤ remainFileSize then
            if s.cache.length < startOffset + startIndex.toNat + count.toNat then ({ s with outside := true }, 0)
            else
            let s := fwrite outcomes (startOffset + startIndex.toNat) (startOffset + startIndex.toNat + count.toNat) s
            let s :=
              { s with log := false, footer := { s.footer with lastSyncOffset := startOffset + count.toNat } }
            syncRest outcomes s (startOffset + count.toNat) endOffset count
          else syncRest outcomes { s with log := false } startOffset endOffset count
    else syncRest outcomes s startOffset endOffset count

/-- The parts of the cache are written. What the calls return is not looked at.
Source: `dlt_logstorage_sync_msg_cache` -/
def syncParts (outcomes : FileOutcomes) (fileSize : ℕ) (s : SyncState) : SyncState :=
  if s.footer.wrapAroundCnt < 1 then
    (dltLogstorageSyncToFile outcomes fileSize s s.footer.lastSyncOffset s.footer.offset).1
  else
    let s :=
      if s.footer.wrapAroundCnt = 1 ∧ s.footer.offset < s.footer.lastSyncOffset then
        (dltLogstorageSyncToFile outcomes fileSize s s.footer.lastSyncOffset s.footer.endSyncOffset).1
      else (dltLogstorageSyncToFile outcomes fileSize s s.footer.offset s.footer.endSyncOffset).1
    let s := { s with footer := { s.footer with lastSyncOffset := 0 } }
    (dltLogstorageSyncToFile outcomes fileSize s s.footer.lastSyncOffset s.footer.offset).1

/-- There is a cache. Source: `dlt_logstorage_sync_msg_cache` -/
def dltLogstorageSyncMsgCache (outcomes : FileOutcomes) (config : FilterConfig) (s : SyncState)
    (status : CacheStrategy) : SyncState × ℤ :=
  let s := { s with failed := false }
  if status ∈ config.sync then
    let s := syncParts outcomes config.fileSize s
    let s :=
      if status = .onSpecificSize ∨ status = .onFileSize then
        { s with cache := List.replicate config.cacheSize 0, footer := ⟨0, 0, 0, 0⟩ }
      else s
    if status = .onFileSize then ({ s with nullUsed := s.nullUsed || !s.log, log := false }, 0) else (s, 0)
  else (s, 0)

/-! ## Without failures -/

/-- Nothing fails. -/
def FileOutcomes.succeed : FileOutcomes := ⟨fun _ => true, fun _ => 4294967296⟩

section succeed

variable {s : SyncState}

section

variable (hcache : s.cache.length < 4294967296)
include hcache

theorem fwrite_succeed (start stop : ℕ) :
    (fwrite .succeed start stop s).files = Logstorage.fwrite s.files (slice s.cache start stop) := by
  have hlength : (slice s.cache start stop).length ≤ 4294967296 := by
    rw [slice, List.length_take, List.length_drop]
    omega
  unfold fwrite FileOutcomes.succeed
  dsimp only
  rw [List.take_of_length_le hlength]

theorem syncRest_succeed (start stop : ℕ) (count : ℤ) :
    (syncRest .succeed s start stop count).1.toCacheState =
      Logstorage.syncRest s.toCacheState s.log start stop count := by
  unfold syncRest Logstorage.syncRest
  cases dltLogstorageFindDltHeader s.cache start (u32 count) with
  | none => rfl
  | some index =>
    dsimp only
    split_ifs
    · rfl
    · rfl
    · rw [← fwrite_succeed hcache]
      rfl
    · rfl

theorem syncToFile_succeed (fileSize start stop : ℕ) :
    (dltLogstorageSyncToFile .succeed fileSize s start stop).1.toCacheState =
      Logstorage.dltLogstorageSyncToFile fileSize s.toCacheState start stop := by
  have hopen : ∀ count, openLogFile .succeed fileSize count s =
      ({ s with
          files := (dltLogstorageOpenLogFile fileSize count s.files).1, log := true, opened := s.opened + 1 },
        some (dltLogstorageOpenLogFile fileSize count s.files).2) := fun _ => rfl
  unfold dltLogstorageSyncToFile Logstorage.dltLogstorageSyncToFile
  simp only [hopen]
  generalize dltLogstorageOpenLogFile fileSize (i32 (stop - start)) s.files = opened
  split_ifs
  · cases dltLogstorageFindDltHeader s.cache start (u32 (i32 (fileSize - opened.2))) with
    | none => rfl
    | some first =>
      dsimp only
      cases dltLogstorageFindLastDltHeader s.cache (u32 (start + first))
          (u32 (i32 (fileSize - opened.2) - first)) with
      | none => rfl
      | some last =>
        dsimp only
        split_ifs
        · rfl
        · refine (syncRest_succeed (by exact hcache) ..).trans ?_
          dsimp only
          rw [fwrite_succeed (by exact hcache)]
          rfl
        · exact syncRest_succeed (by exact hcache) ..
  · exact syncRest_succeed (by exact hcache) ..

end

theorem syncToFile_cache (outcomes : FileOutcomes) (fileSize start stop : ℕ) :
    (dltLogstorageSyncToFile outcomes fileSize s start stop).1.cache = s.cache := by
  have hrest : ∀ (s : SyncState) (start stop : ℕ) (count : ℤ),
      (syncRest outcomes s start stop count).1.cache = s.cache := by
    intro s start stop count
    unfold syncRest
    split
    · rfl
    · dsimp only
      split_ifs <;> rfl
  unfold dltLogstorageSyncToFile openLogFile
  dsimp only
  by_cases hopens : outcomes.opens s.opened = true
  · simp only [if_pos hopens]
    split_ifs
    · split
      · rfl
      · split
        · rfl
        · split_ifs
          · rfl
          · exact hrest ..
          · exact hrest ..
    · exact hrest ..
  · simp only [if_neg hopens]

/-- The part at the beginning of the cache, behind the other one. -/
theorem syncSecond_succeed {first : CacheState} (hfirst : s.toCacheState = first)
    (hcache : s.cache.length < 4294967296) (fileSize : ℕ) :
    (dltLogstorageSyncToFile .succeed fileSize { s with footer := { s.footer with lastSyncOffset := 0 } } 0
        s.footer.offset).1.toCacheState =
      Logstorage.dltLogstorageSyncToFile fileSize { first with footer := { first.footer with lastSyncOffset := 0 } } 0
        first.footer.offset := by
  obtain rfl := hfirst
  exact syncToFile_succeed (by exact hcache) ..

/-- **Without failures, the sync is the one in which nothing can fail.** -/
theorem dltLogstorageSyncMsgCache_succeeds (config : CacheConfig) (specificSize : ℕ) (status : SyncStrategy)
    (hcache : s.cache.length < 4294967296) :
    (dltLogstorageSyncMsgCache .succeed ⟨config.fileSize, specificSize, config.sync.map .wraps⟩ s
      (.wraps status)).1.toCacheState = Logstorage.dltLogstorageSyncMsgCache config s.toCacheState status := by
  have hmem : CacheStrategy.wraps status ∈ config.sync.map .wraps ↔ status ∈ config.sync :=
    List.mem_map_of_injective fun _ _ h => CacheStrategy.wraps.inj h
  have hparts : dltLogstorageSyncMsgCache .succeed ⟨config.fileSize, specificSize, config.sync.map .wraps⟩ s
      (.wraps status) = (if status ∈ config.sync then syncParts .succeed config.fileSize { s with failed := false }
        else { s with failed := false }, 0) := by
    unfold dltLogstorageSyncMsgCache
    dsimp only
    by_cases hset : status ∈ config.sync
    · rw [if_pos (hmem.mpr hset), if_pos hset]
      rfl
    · rw [if_neg (fun h => hset (hmem.mp h)), if_neg hset]
  rw [hparts]
  unfold Logstorage.dltLogstorageSyncMsgCache Logstorage.syncParts
  split_ifs with hset hwrap hround
  · rw [syncParts, if_pos hwrap]
    exact @syncToFile_succeed { s with failed := false } hcache ..
  · rw [syncParts, if_neg hwrap, if_pos hround]
    exact syncSecond_succeed (@syncToFile_succeed { s with failed := false } hcache ..) (by rwa [syncToFile_cache]) _
  · rw [syncParts, if_neg hwrap, if_neg hround]
    exact syncSecond_succeed (@syncToFile_succeed { s with failed := false } hcache ..) (by rwa [syncToFile_cache]) _
  · rfl

end succeed

/-! ## What a failing sync should do -/

/-- A sync that fails returns an error and uses no null handle; and what it did not write completely of the messages in
the cache is written by the next sync that does not fail. -/
structure LosesNothing (outcomes : FileOutcomes) (config : FilterConfig) (s : SyncState) (status : CacheStrategy)
    (msgs : List (List UInt8)) : Prop where
  error : (dltLogstorageSyncMsgCache outcomes config s status).2 < 0
  noNull : (dltLogstorageSyncMsgCache outcomes config s status).1.nullUsed = s.nullUsed
  /-- Messages are written, perhaps a part of one more, and the next sync writes the others. -/
  kept : ∃ stored torn left, msgs = stored ++ left ∧
    (dltLogstorageSyncMsgCache outcomes config s status).1.files.flatten =
      s.files.flatten ++ stored.flatten ++ torn ∧
    (dltLogstorageSyncMsgCache .succeed config (dltLogstorageSyncMsgCache outcomes config s status).1
      status).1.files.flatten = s.files.flatten ++ stored.flatten ++ torn ++ left.flatten

/-- **Whatever fails, the sync returns `0`.** -/
theorem dltLogstorageSyncMsgCache_ret (outcomes : FileOutcomes) (config : FilterConfig) (s : SyncState)
    (status : CacheStrategy) : (dltLogstorageSyncMsgCache outcomes config s status).2 = 0 := by
  unfold dltLogstorageSyncMsgCache
  dsimp only
  split_ifs <;> rfl

/-- **Only a sync in which nothing fails does what it should**: after a failure none does. -/
theorem sync_losesNothing_iff (outcomes : FileOutcomes) (config : FilterConfig) (s : SyncState) (status : CacheStrategy)
    (msgs : List (List UInt8)) :
    ((dltLogstorageSyncMsgCache outcomes config s status).1.failed = true →
        LosesNothing outcomes config s status msgs) ↔
      (dltLogstorageSyncMsgCache outcomes config s status).1.failed = false := by
  constructor
  · intro h
    by_contra hfailed
    have herror := (h (Bool.eq_true_of_not_eq_false hfailed)).error
    rw [dltLogstorageSyncMsgCache_ret] at herror
    exact absurd herror (lt_irrefl 0)
  · intro hnot hfailed
    rw [hnot] at hfailed
    exact Bool.noConfusion hfailed

/-! ## Samples -/

/-- A cache with one message of five bytes. -/
def sampleCache : SyncState where
  cache := magic ++ [7]
  footer := ⟨5, 0, 0, 5⟩
  files := []
  outside := false
  log := false
  nullUsed := false
  failed := false
  opened := 0
  written := 0

/-- The message cannot be written. -/
def unwritten : SyncState × ℤ :=
  dltLogstorageSyncMsgCache ⟨fun _ => true, fun _ => 0⟩ ⟨12, 0, [.wraps .onDemand]⟩ sampleCache (.wraps .onDemand)

/-- With `ON_FILE_SIZE`, the log file cannot be opened. -/
def unopened : SyncState × ℤ :=
  dltLogstorageSyncMsgCache ⟨fun _ => false, fun _ => 0⟩ ⟨5, 0, [.onFileSize]⟩ sampleCache .onFileSize

/-- A message that cannot be written is not reported, and the next sync does not write it. When the log file cannot be
opened, a null handle is closed, and the message is gone. -/
theorem not_sync_losesNothing :
    ¬ (unwritten.1.failed = true → LosesNothing ⟨fun _ => true, fun _ => 0⟩ ⟨12, 0, [.wraps .onDemand]⟩ sampleCache
        (.wraps .onDemand) [magic ++ [7]]) ∧
      (dltLogstorageSyncMsgCache .succeed ⟨12, 0, [.wraps .onDemand]⟩ unwritten.1 (.wraps .onDemand)).1.files.flatten =
        [] ∧
      unopened.1.failed = true ∧ unopened.2 = 0 ∧ unopened.1.nullUsed = true ∧ unopened.1.files = [] ∧
      unopened.1.cache = [0, 0, 0, 0, 0] := by
  refine ⟨fun h => ?_, by decide +kernel, by decide +kernel⟩
  have herror : unwritten.2 < 0 := (h (by decide +kernel)).error
  exact absurd herror (by decide +kernel)

end Dlt.Logstorage.Failing
