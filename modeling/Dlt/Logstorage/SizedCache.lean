import Dlt.Lib.Runs
import Dlt.Logstorage.CacheSync

/-!
# Caches that are synchronised when they are full

* `sizedCache_stores` — **everything is stored**, along every run in which the size of a log file is an `int` whenever
  the cache is synchronised.
-/

namespace Dlt.Logstorage.Sized

open Dlt.Lib List

/-! ## The code -/

/-- The sync behaviour. Source: `dlt_offline_logstorage.h`, `DLT_LOGSTORAGE_SYNC_ON_*` -/
inductive SizeStrategy
  /-- `DLT_LOGSTORAGE_SYNC_ON_FILE_SIZE` -/
  | onFileSize
  /-- `DLT_LOGSTORAGE_SYNC_ON_SPECIFIC_SIZE`, with `specific_size`. -/
  | onSpecificSize (specificSize : ℕ)
deriving DecidableEq

/-- The size of the cache. Source: `dlt_offline_logstorage_behavior.c`, `dlt_logstorage_write_msg_cache` -/
def SizeStrategy.cacheSize (fileSize : ℕ) : SizeStrategy → ℕ
  | .onFileSize => fileSize
  | .onSpecificSize specificSize => specificSize

/-- What the cache functions read of a configuration.
Source: `dlt_offline_logstorage.h`, `DltLogStorageFilterConfig` -/
structure SizedConfig where
  fileSize : ℕ
  sync : SizeStrategy
  /-- It is an `unsigned int`. -/
  fileSize_lt : fileSize < 4294967296
  /-- `dlt_logstorage_prepare_msg_cache` checks it. -/
  cache_le : sync.cacheSize fileSize ≤ fileSize

def SizedConfig.cacheSize (config : SizedConfig) : ℕ := config.sync.cacheSize config.fileSize

/-- A cache without messages. Source: `dlt_offline_logstorage_behavior.c`, `dlt_logstorage_prepare_msg_cache` -/
def SizedConfig.emptied (config : SizedConfig) (s : CacheState) : CacheState :=
  { s with cache := List.replicate config.cacheSize 0, footer := ⟨0, 0, 0, 0⟩ }

/-- The sync behaviour is the one of the configuration. A log file that stays open is closed by the next sync.
Source: `dlt_logstorage_sync_msg_cache` -/
def dltLogstorageSyncMsgCache (config : SizedConfig) (s : CacheState) : CacheState :=
  config.emptied (syncParts config.fileSize s)

/-- The room behind the messages. Source: `dlt_logstorage_write_msg_cache` -/
def remainCacheSize (config : SizedConfig) (s : CacheState) : ℤ := i32 (config.cacheSize - s.footer.offset)

/-- A message is written behind the others, if there is room.
Source: `dlt_logstorage_write_msg_cache` -/
def addMessage (config : SizedConfig) (s : CacheState) (msg : List UInt8) : CacheState :=
  if msg.length ≤ remainCacheSize config s then
    { s with
      cache := overwrite s.cache s.footer.offset msg
      footer :=
        { s.footer with
          offset := s.footer.offset + msg.length
          endSyncOffset :=
            if s.footer.wrapAroundCnt < 1 then s.footer.offset + msg.length else s.footer.endSyncOffset } }
  else s

/-- Source: `dlt_logstorage_write_msg_cache` -/
def dltLogstorageWriteMsgCache (config : SizedConfig) (s : CacheState) (msg : List UInt8) : CacheState × ℤ :=
  let remain := remainCacheSize config s
  let s := addMessage config s msg
  if remain ≤ msg.length then
    if config.cacheSize < msg.length then (s, -1)
    else
      let s := dltLogstorageSyncMsgCache config s
      if remain < msg.length then
        ({ s with
          cache := overwrite s.cache 0 msg
          footer := { s.footer with endSyncOffset := s.footer.offset, offset := msg.length } }, 0)
      else (s, 0)
  else (s, 0)

/-! ## Runs -/

/-- A message with a storage header, of a size that is an `int`. -/
structure SizedMessage where
  /-- Storage header, header and payload. -/
  bytes : List UInt8
  header : magic <+: bytes
  int : bytes.length < 2147483648

/-- The cache, and the messages that were accepted. -/
structure SizedRun where
  code : CacheState
  /-- Those for which writing returned `0`. -/
  accepted : List (List UInt8)

/-- A message is written. -/
def SizedRun.step (config : SizedConfig) (s : SizedRun) (m : SizedMessage) : SizedRun :=
  let r := dltLogstorageWriteMsgCache config s.code m.bytes
  ⟨r.1, if r.2 = 0 then s.accepted ++ [m.bytes] else s.accepted⟩

/-- A new cache, and the log files that are there. -/
def newCache (config : SizedConfig) (files : List (List UInt8)) : SizedRun :=
  ⟨config.emptied ⟨[], ⟨0, 0, 0, 0⟩, files, false⟩, []⟩

/-- The size of a log file is an `int` when a message makes the cache synchronise. -/
def Meets (config : SizedConfig) (s : SizedRun) (m : SizedMessage) : Prop :=
  remainCacheSize config s.code ≤ m.bytes.length → m.bytes.length ≤ config.cacheSize → config.fileSize < 2147483648

/-- A log file: what it held before, and the messages that were appended. -/
structure LogFile where
  before : List UInt8
  messages : List (List UInt8)

open LogFile

def LogFile.content (log : LogFile) : List UInt8 := log.before ++ log.messages.flatten

/-- The log files hold whole messages behind what they held before, and none that was written to is too large. -/
structure Holds (config : SizedConfig) (old : List (List UInt8)) (files : List (List UInt8)) (logs : List LogFile) :
    Prop where
  files_eq : files = logs.map content
  /-- Files that were there, and new ones. -/
  before_eq : ∃ k, logs.map before = old ++ List.replicate k []
  /-- None that was written to is larger than the size of a log file. -/
  size_le : ∀ log ∈ logs, log.messages ≠ [] → log.content.length ≤ config.fileSize

/-- **Everything is stored**: the messages in the log files and those in the cache are the accepted messages. -/
def Stored (config : SizedConfig) (old : List (List UInt8)) (s : SizedRun) : Prop :=
  s.code.outside = false ∧ ∃ logs pending, Holds config old s.code.files logs ∧
    logs.flatMap messages ++ pending = s.accepted ∧
    s.code.cache.take s.code.footer.offset = pending.flatten

/-! ## Log files -/

section files

variable {config : SizedConfig} {old files : List (List UInt8)} {logs : List LogFile} {ms : List (List UInt8)}

theorem Holds.fwrite {front : List LogFile} {log : LogFile} (h : Holds config old files (front ++ [log]))
    (hsize : log.content.length + ms.flatten.length ≤ config.fileSize) :
    Holds config old (fwrite files ms.flatten) (front ++ [⟨log.before, log.messages ++ ms⟩]) := by
  obtain ⟨hfiles, ⟨k, hbefore⟩, hle⟩ := h
  refine ⟨?_, ⟨k, ?_⟩, ?_⟩
  · rw [hfiles, Logstorage.fwrite, map_append, map_append, map_singleton, map_singleton,
      dropLast_concat, getLast?_concat, Option.getD_some]
    simp [content]
  · rw [← hbefore, map_append, map_append]
    rfl
  · intro log' hmem hne
    rcases mem_append.mp hmem with hmem | hmem
    · exact hle log' (mem_append_left _ hmem) hne
    · rw [mem_singleton.mp hmem, content, flatten_append, ← append_assoc, length_append]
      exact hsize

theorem Holds.create (h : Holds config old files logs) : Holds config old (files ++ [[]]) (logs ++ [⟨[], []⟩]) := by
  obtain ⟨hfiles, ⟨k, hbefore⟩, hle⟩ := h
  refine ⟨by rw [hfiles, map_append]; rfl, ⟨k + 1, ?_⟩, ?_⟩
  · rw [map_append, hbefore, append_assoc, replicate_succ']
    rfl
  · intro log hmem hne
    rcases mem_append.mp hmem with hmem | hmem
    · exact hle log hmem hne
    · rw [mem_singleton.mp hmem] at hne
      exact absurd rfl hne

/-- **Messages are written to a file with room for them.** -/
theorem Holds.store (h : Holds config old files logs) (hint : config.fileSize < 2147483648) {n : ℕ}
    (hn : n = ms.flatten.length) (hsize : n ≤ config.fileSize) :
    ∃ logs', Holds config old
        (Logstorage.fwrite (dltLogstorageOpenLogFile config.fileSize n files).1 ms.flatten) logs' ∧
      logs'.flatMap messages = logs.flatMap messages ++ ms := by
  have hnew : ∃ logs', Holds config old (Logstorage.fwrite (files ++ [[]]) ms.flatten) logs' ∧
      logs'.flatMap messages = logs.flatMap messages ++ ms := by
    refine ⟨_, h.create.fwrite (by rw [← hn]; exact (Nat.zero_add n).le.trans hsize), ?_⟩
    rw [flatMap_append]
    simp
  unfold dltLogstorageOpenLogFile
  rcases eq_nil_or_concat' logs with rfl | ⟨front, log, rfl⟩
  · rw [h.files_eq] at hnew ⊢
    exact hnew
  · have hlast : files.getLast? = some log.content := by
      rw [h.files_eq, map_append, map_singleton, getLast?_concat]
    simp only [hlast]
    split_ifs with hroom
    · rw [i32_natCast hint] at hroom
      refine ⟨_, @Holds.fwrite _ _ _ _ _ log h (by omega), ?_⟩
      rw [flatMap_append, flatMap_append, append_assoc]
      simp
    · exact hnew

end files

/-! ## The invariant -/

/-- The cache has the messages since the last sync, from its beginning on. -/
structure SizedInv (config : SizedConfig) (old : List (List UInt8)) (s : SizedRun) : Prop where
  length_eq : s.code.cache.length = config.cacheSize
  wrapped : s.code.footer.wrapAroundCnt = 0
  last : s.code.footer.lastSyncOffset = 0
  /-- The messages lie in the cache. -/
  offset_le : s.code.footer.offset ≤ config.cacheSize
  /-- Nothing else was read. -/
  inside : s.code.outside = false
  stored : ∃ logs pending, Holds config old s.code.files logs ∧
    logs.flatMap messages ++ pending = s.accepted ∧
    s.code.cache.take s.code.footer.offset = pending.flatten ∧ ∀ msg ∈ pending, magic <+: msg

section steps

variable {config : SizedConfig} {old : List (List UInt8)} {s : SizedRun} {m : SizedMessage}

theorem SizedInv.storedAll (h : SizedInv config old s) : Stored config old s := by
  obtain ⟨logs, pending, hholds, haccepted, hcache, -⟩ := h.stored
  exact ⟨h.inside, logs, pending, hholds, haccepted, hcache⟩

theorem SizedMessage.length_pos (m : SizedMessage) : 0 < m.bytes.length :=
  lt_of_lt_of_le (by decide) m.header.length_le

theorem sizedInv_start (config : SizedConfig) (old : List (List UInt8)) :
    SizedInv config old (newCache config old) := by
  refine ⟨length_replicate, rfl, rfl, Nat.zero_le _, rfl, old.map (⟨·, []⟩), [], ⟨?_, ⟨0, ?_⟩, ?_⟩, ?_, rfl, nofun⟩
  · rw [map_map]
    exact (map_id'' (fun file => append_nil file) old).symm
  · rw [map_map]
    exact (map_id'' (fun _ => rfl) old).trans (append_nil old).symm
  · intro log hmem hne
    obtain ⟨file, -, rfl⟩ := mem_map.mp hmem
    exact absurd rfl hne
  · rw [append_nil]
    apply flatMap_eq_nil_iff.mpr
    intro log hmem
    obtain ⟨file, -, rfl⟩ := mem_map.mp hmem
    rfl

section

variable (h : SizedInv config old s)
include h

/-- The room is what the cache has behind the messages, and less when it is not an `int`. -/
theorem SizedInv.remain_le : remainCacheSize config s.code ≤ config.cacheSize - s.code.footer.offset := by
  have hle := i32_natCast_le (config.cacheSize - s.code.footer.offset)
  rw [Nat.cast_sub h.offset_le] at hle
  exact hle

/-- **A message is added** to the cache. -/
theorem SizedInv.append (hroom : m.bytes.length ≤ remainCacheSize config s.code) :
    SizedInv config old ⟨addMessage config s.code m.bytes, s.accepted ++ [m.bytes]⟩ := by
  have hremain := h.remain_le
  have hoffset := h.offset_le
  have hlength := h.length_eq
  obtain ⟨logs, pending, hholds, haccepted, hcache, hmagic⟩ := h.stored
  unfold addMessage
  rw [if_pos hroom]
  refine ⟨?_, h.wrapped, h.last, ?_, h.inside, logs, pending ++ [m.bytes], hholds, ?_, ?_, ?_⟩
  · rw [← hlength]
    exact length_overwrite (by omega)
  · show s.code.footer.offset + m.bytes.length ≤ config.cacheSize
    omega
  · rw [← haccepted, append_assoc]
  · show (overwrite s.code.cache s.code.footer.offset m.bytes).take (s.code.footer.offset + m.bytes.length) = _
    rw [flatten_append, ← hcache, flatten_singleton, overwrite]
    rw [take_left' (by rw [length_append, length_take]; omega)]
  · intro msg hmem
    rcases mem_append.mp hmem with hmem | hmem
    · exact hmagic msg hmem
    · rw [mem_singleton.mp hmem]
      exact m.header

/-- **The cache is emptied**, and what was in it is written to a log file. -/
theorem SizedInv.sync (hint : config.fileSize < 2147483648) (hpos : 0 < s.code.footer.offset) :
    SizedInv config old ⟨dltLogstorageSyncMsgCache config s.code, s.accepted⟩ ∧
      (dltLogstorageSyncMsgCache config s.code).footer.offset = 0 := by
  have hlength := h.length_eq
  have hoffset := h.offset_le
  have hle : config.cacheSize ≤ config.fileSize := config.cache_le
  obtain ⟨logs, pending, hholds, haccepted, hcache, hmagic⟩ := h.stored
  have hheader : lookAt (s.code.cache.drop (0 + 0)) = .header := by
    cases pending with
    | nil =>
      have hnil := congrArg List.length hcache
      rw [length_take, flatten_nil, length_nil] at hnil
      omega
    | cons msg rest =>
      refine lookAt_message (hmagic msg mem_cons_self) ?_
      have htake : msg <+: s.code.cache.take s.code.footer.offset := by
        rw [hcache, flatten_cons]
        exact prefix_append ..
      exact htake.trans (List.take_prefix ..)
  have hfound := @syncToFile_found config.fileSize s.code 0 s.code.footer.offset 0 hint (by omega) (by omega) (by omega)
    (fun j hj => absurd hj (Nat.not_lt_zero j)) hheader
  have hlen : s.code.footer.offset = pending.flatten.length := by
    rw [← hcache, length_take]
    omega
  obtain ⟨logs', hholds', hmessages⟩ := hholds.store hint hlen (hoffset.trans hle)
  have hslice : slice s.code.cache (0 + 0) s.code.footer.offset = pending.flatten := by
    rw [← hcache]
    rfl
  have hsync : dltLogstorageSyncMsgCache config s.code = config.emptied
      { s.code with
        files := Logstorage.fwrite (dltLogstorageOpenLogFile config.fileSize s.code.footer.offset s.code.files).1
          pending.flatten } := by
    unfold dltLogstorageSyncMsgCache syncParts
    simp only [h.wrapped, h.last, Nat.lt_one_iff, if_true]
    rw [hfound, hslice, Nat.cast_zero, sub_zero]
    rfl
  rw [hsync]
  refine ⟨⟨length_replicate, rfl, rfl, Nat.zero_le _, h.inside, logs', [], hholds', ?_, rfl, nofun⟩, rfl⟩
  rw [hmessages, append_nil]
  exact haccepted

theorem SizedInv.first (hempty : s.code.footer.offset = 0) (hfits : m.bytes.length ≤ config.cacheSize) :
    SizedInv config old
      ⟨{ s.code with
          cache := overwrite s.code.cache 0 m.bytes
          footer := { s.code.footer with endSyncOffset := s.code.footer.offset, offset := m.bytes.length } },
        s.accepted ++ [m.bytes]⟩ := by
  have hlength := h.length_eq
  obtain ⟨logs, pending, hholds, haccepted, hcache, hmagic⟩ := h.stored
  refine ⟨?_, h.wrapped, h.last, hfits, h.inside, logs, pending ++ [m.bytes], hholds, ?_, ?_, ?_⟩
  · rw [← hlength]
    exact length_overwrite (by omega)
  · rw [← haccepted, append_assoc]
  · rw [hempty, take_zero] at hcache
    rw [flatten_append, ← hcache, flatten_singleton, overwrite_zero]
    exact take_left
  · intro msg hmem
    rcases mem_append.mp hmem with hmem | hmem
    · exact hmagic msg hmem
    · rw [mem_singleton.mp hmem]
      exact m.header

/-- **One message.** -/
theorem sizedInv_step (hmeets : Meets config s m) : SizedInv config old (s.step config m) := by
  have hremain := h.remain_le
  have hpos := m.length_pos
  unfold SizedRun.step dltLogstorageWriteMsgCache
  by_cases hfull : remainCacheSize config s.code ≤ m.bytes.length
  · by_cases hlarge : config.cacheSize < m.bytes.length
    · have hno : ¬ (m.bytes.length : ℤ) ≤ remainCacheSize config s.code := by omega
      simp only [if_pos hfull, if_pos hlarge, addMessage, if_neg hno]
      exact h
    · have hint := hmeets hfull (by omega)
      have hle : config.cacheSize ≤ config.fileSize := config.cache_le
      have hexact : remainCacheSize config s.code = config.cacheSize - s.code.footer.offset :=
        i32_of_range (by have := h.offset_le; omega) (by omega)
      simp only [if_pos hfull, if_neg hlarge]
      by_cases hfits : (m.bytes.length : ℤ) ≤ remainCacheSize config s.code
      · -- the message fills the cache exactly
        rw [if_neg (by omega)]
        refine ((h.append hfits).sync hint ?_).1
        simp only [addMessage, if_pos hfits]
        omega
      · rw [if_pos (by omega), addMessage, if_neg hfits]
        obtain ⟨hsynced, hempty⟩ := h.sync hint (by omega)
        exact hsynced.first (m := m) hempty (by omega)
  · simp only [if_neg hfull]
    exact h.append (by omega)

end

end steps

/-- Log files of twelve bytes, and a cache of ten. -/
def sampleConfig : SizedConfig := ⟨12, .onSpecificSize 10, by decide, by decide⟩

/-- A message of `n + 4` bytes. -/
def sampleMessage (n : Fin 100) : SizedMessage :=
  ⟨magic ++ List.replicate n 7, List.prefix_append .., by
    rw [List.length_append, List.length_replicate]
    show 4 + _ < _
    omega⟩

/-- Log files of 2^31 bytes, and a cache of four. -/
def hugeConfig : SizedConfig := ⟨2147483648, .onSpecificSize 4, by decide, by decide⟩

end Dlt.Logstorage.Sized
