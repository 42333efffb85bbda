import Dlt.Lib.LogRing
import Dlt.Lib.Hex

/-!
# The cache of a filter configuration

* `dltLogstorageSyncMsgCache` — the cache is synchronised to the log files, with `dltLogstorageSyncToFile`.

A configuration with sync behaviour `ON_DEMAND` or `ON_DAEMON_EXIT` has a cache of the size of a log file. File
operations succeed. The names of the log files and the removal of the oldest are left out.
-/

namespace Dlt.Logstorage

open Dlt.Lib

/-! ## Data -/

/-- Source: `dlt_offline_logstorage.h`, `DltLogStorageCacheFooter` -/
structure DltLogStorageCacheFooter where
  /-- Where the next message is written. -/
  offset : ℕ
  /-- How often the cache wrapped around since the last sync. -/
  wrapAroundCnt : ℕ
  lastSyncOffset : ℕ
  /-- Where the previous round ended. -/
  endSyncOffset : ℕ
deriving DecidableEq

/-- The sync strategies with a cache that wraps around. Source: `DLT_LOGSTORAGE_SYNC_ON_*` -/
inductive SyncStrategy
  /-- `DLT_LOGSTORAGE_SYNC_ON_DAEMON_EXIT` -/
  | onDaemonExit
  /-- `DLT_LOGSTORAGE_SYNC_ON_DEMAND` -/
  | onDemand
deriving DecidableEq

/-- What the cache functions read of a configuration.
Source: `DltLogStorageFilterConfig` -/
structure CacheConfig where
  fileSize : ℕ
  sync : List SyncStrategy
  sync_ne : sync ≠ []

/-- The cache and the log files. -/
structure CacheState where
  /-- The part of the cache that messages were written to, from its beginning. -/
  cache : List UInt8
  footer : DltLogStorageCacheFooter
  /-- The log files in the order in which they were opened. -/
  files : List (List UInt8)
  /-- A sync read what no message was written to. -/
  outside : Bool

/-! ## Headers in the cache -/

/-- What a comparison with the header pattern finds. -/
inductive Look
  | header
  | other
  | outside
deriving DecidableEq

/-- `D`, `L`, `T`, `0x01`. -/
def magic : List UInt8 := [68, 76, 84, 1]

/-- The comparison reads one byte after the other up to the first difference. -/
def lookAt (bytes : List UInt8) : Look :=
  if magic <+: bytes then .header else if bytes <+: magic then .outside else .other

/-- Looking for the pattern from one position on. -/
def findHeader (cnt : ℕ) : ℕ → List UInt8 → Option ℤ
  | i, [] => if i < cnt then none else some (-1)
  | i, b :: bs =>
    if i < cnt then
      match lookAt (b :: bs) with
      | .header => some i
      | .outside => none
      | .other => findHeader cnt (i + 1) bs
    else some (-1)

/-- `none`: it reads behind the messages.
Source: `dlt_offline_logstorage_behavior.c`, `dlt_logstorage_find_dlt_header` -/
def dltLogstorageFindDltHeader (cache : List UInt8) (offset cnt : ℕ) : Option ℤ := findHeader cnt 0 (cache.drop offset)

/-- Looking for the pattern towards the beginning. -/
def findLastHeader (bytes : List UInt8) : ℕ → Option ℤ
  | 0 => some (-1)
  | i + 1 =>
    match lookAt (bytes.drop (i + 1)) with
    | .header => some (i + 1)
    | .outside => none
    | .other => findLastHeader bytes i

/-- `none`: it reads behind the messages.
Source: `dlt_logstorage_find_last_dlt_header` -/
def dltLogstorageFindLastDltHeader (cache : List UInt8) (offset cnt : ℕ) : Option ℤ :=
  findLastHeader (cache.drop offset) cnt

/-! ## Log files -/

/-- The log files with the current one, and where writing begins in it: the newest one, if there is room for the
message, else a new one.
Source: `dlt_logstorage_open_log_file` -/
def dltLogstorageOpenLogFile (fileSize : ℕ) (msgSize : ℤ) (files : List (List UInt8)) : List (List UInt8) × ℕ :=
  match files.getLast? with
  | none => ([[]], 0)
  | some file => if file.length + msgSize ≤ i32 fileSize then (files, file.length) else (files ++ [[]], 0)

/-- Writing at the end of the current file. -/
def fwrite (files : List (List UInt8)) (bytes : List UInt8) : List (List UInt8) :=
  files.dropLast ++ [files.getLast?.getD [] ++ bytes]

/-- The last part: what begins with a header is written, if the log file is still open. Otherwise preparing one fails,
since there is no newest file.
Source: `dlt_logstorage_sync_to_file` -/
def syncRest (s : CacheState) (isOpen : Bool) (startOffset endOffset : ℕ) (count : ℤ) : CacheState :=
  match dltLogstorageFindDltHeader s.cache startOffset (u32 count) with
  | none => { s with outside := true }
  | some startIndex =>
    let count := i32 (endOffset - startOffset - startIndex)
    if 0 ≤ startIndex ∧ 0 < count then
      if !isOpen then s
      else if s.cache.length < startOffset + startIndex.toNat + count.toNat then { s with outside := true }
      else
        { s with
          files := fwrite s.files (slice s.cache (startOffset + startIndex.toNat)
            (startOffset + startIndex.toNat + count.toNat))
          footer := { s.footer with lastSyncOffset := endOffset, wrapAroundCnt := 0 } }
    else { s with footer := { s.footer with wrapAroundCnt := 0 } }

/-- Source: `dlt_logstorage_sync_to_file` -/
def dltLogstorageSyncToFile (fileSize : ℕ) (s : CacheState) (startOffset endOffset : ℕ) : CacheState :=
  let count := i32 (endOffset - startOffset)
  let opened := dltLogstorageOpenLogFile fileSize count s.files
  let s := { s with files := opened.1 }
  let remainFileSize := i32 (fileSize - opened.2)
  if remainFileSize < count then
    match dltLogstorageFindDltHeader s.cache startOffset (u32 remainFileSize) with
    | none => { s with outside := true }
    | some startIndex =>
      match dltLogstorageFindLastDltHeader s.cache (u32 (startOffset + startIndex))
          (u32 (remainFileSize - startIndex)) with
      | none => { s with outside := true }
      | some endIndex =>
        let count := endIndex - startIndex
        if 0 ≤ startIndex ∧ startIndex < endIndex ∧ 0 < count ∧ count ≤ remainFileSize then
          if s.cache.length < startOffset + startIndex.toNat + count.toNat then { s with outside := true }
          else
            syncRest
              { s with
                files := fwrite s.files (slice s.cache (startOffset + startIndex.toNat)
                  (startOffset + startIndex.toNat + count.toNat))
                footer := { s.footer with lastSyncOffset := startOffset + count.toNat } }
              false (startOffset + count.toNat) endOffset count
        else syncRest s false startOffset endOffset count
  else syncRest s true startOffset endOffset count

/-! ## The cache functions -/

/-- Source: `dlt_logstorage_write_msg_cache` -/
def dltLogstorageWriteMsgCache (config : CacheConfig) (s : CacheState) (msg : List UInt8) : CacheState :=
  let remainCacheSize := i32 (config.fileSize - s.footer.offset)
  let s :=
    if msg.length ≤ remainCacheSize then
      { s with
        cache := overwrite s.cache s.footer.offset msg
        footer :=
          { s.footer with
            offset := s.footer.offset + msg.length
            endSyncOffset :=
              if s.footer.wrapAroundCnt < 1 then s.footer.offset + msg.length else s.footer.endSyncOffset } }
    else s
  if remainCacheSize ≤ msg.length then
    if config.fileSize < msg.length then s
    else
      let s := { s with footer := { s.footer with wrapAroundCnt := u32 (s.footer.wrapAroundCnt + 1) } }
      if remainCacheSize < msg.length then
        { s with
          cache := overwrite s.cache 0 msg
          footer := { s.footer with endSyncOffset := s.footer.offset, offset := msg.length } }
      else s
  else s

/-- The parts of the cache that are synchronised. Source: `dlt_logstorage_sync_msg_cache` -/
def syncParts (fileSize : ℕ) (s : CacheState) : CacheState :=
  if s.footer.wrapAroundCnt < 1 then
    dltLogstorageSyncToFile fileSize s s.footer.lastSyncOffset s.footer.offset
  else
    let s :=
      if s.footer.wrapAroundCnt = 1 ∧ s.footer.offset < s.footer.lastSyncOffset then
        dltLogstorageSyncToFile fileSize s s.footer.lastSyncOffset s.footer.endSyncOffset
      else dltLogstorageSyncToFile fileSize s s.footer.offset s.footer.endSyncOffset
    let s := { s with footer := { s.footer with lastSyncOffset := 0 } }
    dltLogstorageSyncToFile fileSize s s.footer.lastSyncOffset s.footer.offset

/-- Source: `dlt_logstorage_sync_msg_cache` -/
def dltLogstorageSyncMsgCache (config : CacheConfig) (s : CacheState) (status : SyncStrategy) : CacheState :=
  if status ∈ config.sync then syncParts config.fileSize s else s

end Dlt.Logstorage
