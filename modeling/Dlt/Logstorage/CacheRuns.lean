import Dlt.Lib.Runs
import Dlt.Logstorage.CacheSync

/-!
# What the syncs of a cache write over a run

* `syncs_store_intact` — along every run the log files hold what the log ring stores.
-/

namespace Dlt.Logstorage

open Dlt.Lib List

/-! ## Runs -/

/-- A message with a storage header that is not larger than the cache. -/
structure CacheMessage (config : CacheConfig) where
  /-- Storage header, header and payload. -/
  bytes : List UInt8
  header : magic <+: bytes
  fits : bytes.length ≤ config.fileSize

inductive CacheEvent (config : CacheConfig)
  | write (m : CacheMessage config)
  | sync (status : SyncStrategy)

/-- The cache, and the log ring that it should be. -/
structure CacheRun where
  code : CacheState
  ring : LogRing UInt8

/-- Where a message is written to. -/
def writePosition (config : CacheConfig) (s : CacheState) (msg : List UInt8) : ℕ :=
  if msg.length ≤ i32 (config.fileSize - s.footer.offset) then s.footer.offset else 0

/-- The cache and the log ring take a step. -/
def CacheRun.step (config : CacheConfig) (s : CacheRun) : CacheEvent config → CacheRun
  | .write m =>
    ⟨dltLogstorageWriteMsgCache config s.code m.bytes,
      s.ring.record ⟨writePosition config s.code m.bytes, m.bytes⟩⟩
  | .sync status =>
    ⟨dltLogstorageSyncMsgCache config s.code status, if status ∈ config.sync then s.ring.flush else s.ring⟩

/-- The cache is empty, and there may be log files. -/
def CacheRun.Starts (files : List (List UInt8)) (s : CacheRun) : Prop :=
  s = ⟨⟨[], ⟨0, 0, 0, 0⟩, files, false⟩, ⟨[], [], []⟩⟩

/-- The previous round does not end before the position of writing; the search from there on meets no header pattern
before the first whole message; no message that is still whole begins behind the previous round; and the counter
does not come from filling the cache exactly behind messages that were synchronised. -/
structure RestReadable (config : CacheConfig) (s : CacheRun) : Prop where
  /-- The previous round ends behind the position of writing. -/
  offset_le : s.code.footer.offset ≤ s.code.footer.endSyncOffset
  readable : ∀ i, s.code.footer.offset ≤ i → i < s.code.footer.endSyncOffset →
    (∃ t ∈ intact s.ring.pending, s.code.footer.offset ≤ t.position ∧ t.position ≤ i) ∨ CanPass s.code.cache i
  /-- The previous round has all whole messages of earlier rounds. -/
  covered : ∀ t ∈ intact s.ring.pending, t.position < s.code.footer.endSyncOffset
  /-- The cache was not filled exactly behind synchronised messages. -/
  notFilled : s.code.footer.wrapAroundCnt = 1 → s.code.footer.offset = config.fileSize →
    s.code.footer.lastSyncOffset = 0 ∨ s.code.footer.lastSyncOffset = config.fileSize

/-- The condition on a step: the size is an `int` and the counter does not overflow, and a sync that is not the
first after wrapping around once finds what is left of the previous round. -/
def Meets (config : CacheConfig) (s : CacheRun) : CacheEvent config → Prop
  | .write m => config.fileSize < 2147483648 ∧
      (i32 (config.fileSize - s.code.footer.offset) ≤ m.bytes.length → s.code.footer.wrapAroundCnt + 1 < 4294967296)
  | .sync status => config.fileSize < 2147483648 ∧
      (status ∈ config.sync → s.code.footer.wrapAroundCnt < 1 ∨
        (s.code.footer.wrapAroundCnt = 1 ∧ s.code.footer.offset < s.code.footer.lastSyncOffset) ∨ RestReadable config s)

/-! ## Where the messages lie -/

/-- The cache has not wrapped around since the last sync. -/
structure Fresh (cache : List UInt8) (f : DltLogStorageCacheFooter) (pending : List (Slot UInt8)) : Prop where
  unwrapped : f.wrapAroundCnt = 0
  /-- The messages lie behind the last sync. -/
  tiles : Tiles cache f.lastSyncOffset f.offset pending

/-- The cache was filled exactly, behind messages that were synchronised before. -/
structure Filled (size : ℕ) (cache : List UInt8) (f : DltLogStorageCacheFooter
    ) (pending : List (Slot UInt8)) : Prop where
  once : f.wrapAroundCnt = 1
  offset_eq : f.offset = size
  last_pos : 0 < f.lastSyncOffset
  last_lt : f.lastSyncOffset < size
  /-- The messages lie behind the last sync. -/
  tiles : Tiles cache f.lastSyncOffset f.offset pending

/-- The cache has wrapped around: the current round, what is left of the previous one, and the rest. -/
structure Wrapped (cache : List UInt8) (f : DltLogStorageCacheFooter) (rest live cur : List (Slot UInt8)) : Prop where
  wrapped : 0 < f.wrapAroundCnt
  tiles : Tiles cache 0 f.offset cur
  left : live = [] ∨ ∃ q, f.offset ≤ q ∧ Tiles cache q f.endSyncOffset live
  /-- The rest is overwritten, or lies behind the previous round. -/
  dropped : Dropped (fun t => f.endSyncOffset ≤ t.position) (live ++ cur) rest
  /-- What was not synchronised is all left after wrapping around once. -/
  once : f.wrapAroundCnt = 1 → f.offset < f.lastSyncOffset →
    rest = [] ∧ Tiles cache f.lastSyncOffset f.endSyncOffset live

inductive Layout (size : ℕ) (cache : List UInt8) (f : DltLogStorageCacheFooter) : List (Slot UInt8) → Prop
  | fresh {pending : List (Slot UInt8)} : Fresh cache f pending → Layout size cache f pending
  | filled {pending : List (Slot UInt8)} : Filled size cache f pending → Layout size cache f pending
  | wrapped {rest live cur : List (Slot UInt8)} : Wrapped cache f rest live cur →
      Layout size cache f (rest ++ (live ++ cur))

section layout

variable {size : ℕ} {cache msg : List UInt8} {f : DltLogStorageCacheFooter} {pending rest live cur : List (Slot UInt8)}

theorem Fresh.append (h : Fresh cache f pending) (hoffset : f.offset ≤ cache.length)
    (hmsg : 0 < msg.length) (stop : ℕ) :
    Fresh (overwrite cache f.offset msg) { f with offset := f.offset + msg.length, endSyncOffset := stop }
      (pending ++ [⟨f.offset, msg⟩]) :=
  ⟨h.unwrapped, (h.tiles.overwrite hoffset (Or.inr (Nat.le_refl _))).append (.written hoffset hmsg)⟩

theorem Fresh.fill (h : Fresh cache f pending) (hoffset : f.offset = size) (hlast : f.lastSyncOffset < size) :
    Layout size cache { f with wrapAroundCnt := 1 } pending := by
  by_cases hzero : f.lastSyncOffset = 0
  · have hwrapped : Wrapped cache { f with wrapAroundCnt := 1 } [] [] pending := by
      refine ⟨Nat.one_pos, hzero ▸ h.tiles, Or.inl rfl, trivial, ?_⟩
      intro _ hlt
      rw [hzero] at hlt
      exact absurd hlt (Nat.not_lt_zero _)
    exact .wrapped hwrapped
  · exact .filled ⟨rfl, hoffset, Nat.pos_of_ne_zero hzero, hlast, h.tiles⟩

/-- A message at the beginning of the cache, behind a round that begins at the last sync. -/
theorem Wrapped.of_tiles (h : Tiles cache f.lastSyncOffset f.offset pending) (hmsg : 0 < msg.length) {cnt : ℕ}
    (hcnt : 0 < cnt) :
    ∃ rest live, rest ++ (live ++ [⟨0, msg⟩]) = pending ++ [⟨0, msg⟩] ∧
      Wrapped (overwrite cache 0 msg) ⟨msg.length, cnt, f.lastSyncOffset, f.offset⟩ rest live [⟨0, msg⟩] := by
  have hwritten : Tiles (overwrite cache 0 msg) 0 msg.length [⟨0, msg⟩] := by
    have := Tiles.written (Nat.zero_le cache.length) hmsg
    rwa [Nat.zero_add] at this
  by_cases hlast : msg.length ≤ f.lastSyncOffset
  · refine ⟨[], pending, rfl, hcnt, hwritten, Or.inr ⟨_, hlast, ?_⟩, trivial, fun _ _ => ⟨rfl, ?_⟩⟩
    all_goals exact h.overwrite (Nat.zero_le _) (Or.inl (by omega))
  · obtain ⟨front, back, rfl, hfront, hback⟩ := h.split msg.length
    refine ⟨front, back, (append_assoc _ _ _).symm, hcnt, hwritten, ?_, ?_, ?_⟩
    · rcases hback with rfl | ⟨q, -, hq, htiles⟩
      · exact Or.inl rfl
      · exact Or.inr ⟨q, hq, htiles.overwrite (Nat.zero_le _) (Or.inl (by omega))⟩
    · apply Dropped.of_forall
      intro t ht
      have hpos := (h.mem (mem_append_left back ht)).2.2
      refine Or.inl ⟨⟨0, msg⟩, by simp, ?_, ?_⟩
      · rw [Slot.stop, Nat.zero_add]
        exact hfront t ht
      · rw [Slot.stop]
        exact Nat.lt_of_lt_of_le hpos (Nat.le_add_left _ _)
    · intro _ hlt
      exact absurd (Nat.le_of_lt hlt) hlast

section

variable (h : Wrapped cache f rest live cur)
include h

theorem Wrapped.append (hoffset : f.offset ≤ cache.length) (hmsg : 0 < msg.length)
    (hlive : ∀ t ∈ live, 0 < t.content.length) :
    ∃ rest' live', rest' ++ (live' ++ (cur ++ [⟨f.offset, msg⟩])) = rest ++ (live ++ cur) ++ [⟨f.offset, msg⟩] ∧
      Wrapped (overwrite cache f.offset msg) { f with offset := f.offset + msg.length } rest' live'
        (cur ++ [⟨f.offset, msg⟩]) := by
  have htiles : Tiles (overwrite cache f.offset msg) 0 (f.offset + msg.length) (cur ++ [⟨f.offset, msg⟩]) :=
    (h.tiles.overwrite hoffset (Or.inr (Nat.le_refl _))).append (.written hoffset hmsg)
  -- What begins in the new message is dropped, the rest of the previous round stays.
  obtain ⟨front, back, rfl, hfront, hback⟩ : ∃ front back, live = front ++ back ∧
      (∀ t ∈ front, f.offset ≤ t.position ∧ t.position < f.offset + msg.length) ∧
      (back = [] ∨ ∃ q, f.offset + msg.length ≤ q ∧ Tiles cache q f.endSyncOffset back) := by
    rcases h.left with rfl | ⟨q, hq, hleft⟩
    · exact ⟨[], [], rfl, fun t ht => (not_mem_nil ht).elim, Or.inl rfl⟩
    · obtain ⟨front, back, rfl, hfront, hback⟩ := hleft.split (f.offset + msg.length)
      refine ⟨front, back, rfl, ?_, ?_⟩
      · intro t ht
        exact ⟨hq.trans (hleft.mem (mem_append_left _ ht)).1, hfront t ht⟩
      · rcases hback with hnil | ⟨q', -, hlimit, htail⟩
        · exact Or.inl hnil
        · exact Or.inr ⟨q', hlimit, htail⟩
  refine ⟨rest ++ front, back, by simp, h.wrapped, htiles, ?_, ?_, ?_⟩
  · rcases hback with hnil | ⟨q, hq, htail⟩
    · exact Or.inl hnil
    · exact Or.inr ⟨q, hq, htail.overwrite hoffset (Or.inl hq)⟩
  · apply Dropped.append
    · apply h.dropped.mono fun _ ht => ht
      intro t ht
      simp only [mem_append] at ht ⊢
      tauto
    · apply Dropped.of_forall
      intro t ht
      refine Or.inl ⟨⟨f.offset, msg⟩, by simp, (hfront t ht).2, ?_⟩
      rw [Slot.stop]
      have := hlive t (mem_append_left _ ht)
      have := (hfront t ht).1
      show f.offset < t.position + t.content.length
      omega
  · intro hcnt hlt
    simp only at hcnt hlt
    obtain ⟨rfl, hall⟩ := h.once hcnt (by omega)
    have hnil : front = [] := by
      apply eq_nil_iff_forall_not_mem.mpr
      intro t ht
      have := (hall.mem (mem_append_left _ ht)).1
      have := (hfront t ht).2
      omega
    rw [hnil, nil_append] at hall
    exact ⟨by rw [hnil, nil_append], hall.overwrite hoffset (Or.inl (by omega))⟩

/-- A message at the beginning of the cache, behind a round before which there was another one. -/
theorem Wrapped.again (hmsg : 0 < msg.length) {cnt : ℕ} (hcnt : 1 < cnt)
    (hcontent : ∀ t ∈ rest ++ live, 0 < t.content.length) :
    ∃ rest' live', rest' ++ (live' ++ [⟨0, msg⟩]) = rest ++ (live ++ cur) ++ [⟨0, msg⟩] ∧
      Wrapped (overwrite cache 0 msg) ⟨msg.length, cnt, f.lastSyncOffset, f.offset⟩ rest' live' [⟨0, msg⟩] := by
  obtain ⟨rest', live', heq, hwrapped⟩ := Wrapped.of_tiles
    (f := { f with lastSyncOffset := 0 }) h.tiles hmsg (Nat.zero_lt_of_lt hcnt)
  obtain rfl : cur = rest' ++ live' := by
    rw [← append_assoc] at heq
    exact (append_cancel_right heq).symm
  refine ⟨(rest ++ live) ++ rest', live', by simp, Nat.zero_lt_of_lt hcnt, hwrapped.tiles, hwrapped.left, ?_, ?_⟩
  · refine Dropped.append ?_ hwrapped.dropped
    apply Dropped.of_forall
    intro t ht
    by_cases hposition : t.position < f.offset
    · obtain ⟨u, hu, hle, hlt⟩ := h.tiles.covers (Nat.zero_le _) hposition
      have hpos := hcontent t ht
      refine Or.inl ⟨u, ?_, hlt, ?_⟩
      · rw [← append_assoc]
        exact mem_append_left _ hu
      · rw [Slot.stop]
        omega
    · exact Or.inr (Nat.le_of_not_lt hposition)
  · intro hone _
    exact absurd hone (Nat.ne_of_gt hcnt)

theorem Wrapped.fill {cnt : ℕ} (hcnt : 1 < cnt) :
    Wrapped cache { f with wrapAroundCnt := cnt } rest live cur :=
  ⟨Nat.zero_lt_of_lt hcnt, h.tiles, h.left, h.dropped, fun hone _ => absurd hone (Nat.ne_of_gt hcnt)⟩

end

section

variable (h : Layout size cache f pending)
include h

section

variable (hoffset : f.offset ≤ cache.length)
include hoffset

/-- Where the messages lie after one more that fits behind the position of writing. -/
theorem Layout.append (hmsg : 0 < msg.length) (hcontent : ∀ t ∈ pending, 0 < t.content.length)
    (hfits : f.offset + msg.length ≤ size) {f' : DltLogStorageCacheFooter} (hf' : f' = { f with
      offset := f.offset + msg.length
      endSyncOffset := if f.wrapAroundCnt < 1 then f.offset + msg.length else f.endSyncOffset }) :
    Fresh (overwrite cache f.offset msg) f' (pending ++ [⟨f.offset, msg⟩]) ∨
      ∃ rest live cur, rest ++ (live ++ cur) = pending ++ [⟨f.offset, msg⟩] ∧
        Wrapped (overwrite cache f.offset msg) f' rest live cur := by
  subst hf'
  cases h with
  | fresh hfresh => exact Or.inl (hfresh.append hoffset hmsg _)
  | filled hfilled =>
    have := hfilled.offset_eq
    omega
  | wrapped hwrapped =>
    obtain ⟨rest, live, heq, happended⟩ := hwrapped.append hoffset hmsg fun t ht => hcontent t (by simp [ht])
    rw [if_neg (Nat.not_lt.mpr hwrapped.wrapped)]
    exact Or.inr ⟨rest, live, _, heq, happended⟩

theorem Layout.fits (hmsg : 0 < msg.length) (hcontent : ∀ t ∈ pending, 0 < t.content.length)
    (hfits : f.offset + msg.length ≤ size) :
    Layout size (overwrite cache f.offset msg)
      { f with
        offset := f.offset + msg.length
        endSyncOffset := if f.wrapAroundCnt < 1 then f.offset + msg.length else f.endSyncOffset }
      (pending ++ [⟨f.offset, msg⟩]) := by
  rcases h.append hoffset hmsg hcontent hfits rfl with hfresh | ⟨rest, live, cur, heq, hwrapped⟩
  · exact .fresh hfresh
  · exact heq ▸ .wrapped hwrapped

theorem Layout.fills (hmsg : 0 < msg.length) (hcontent : ∀ t ∈ pending, 0 < t.content.length)
    (hfills : f.offset + msg.length = size) :
    Layout size (overwrite cache f.offset msg)
      { f with
        offset := f.offset + msg.length
        wrapAroundCnt := f.wrapAroundCnt + 1
        endSyncOffset := if f.wrapAroundCnt < 1 then f.offset + msg.length else f.endSyncOffset }
      (pending ++ [⟨f.offset, msg⟩]) := by
  rcases h.append hoffset hmsg hcontent (Nat.le_of_eq hfills) rfl with hfresh | ⟨rest, live, cur, heq, hwrapped⟩
  · have hzero : f.wrapAroundCnt = 0 := hfresh.unwrapped
    have hlast : f.lastSyncOffset < size := by
      have hpos := (hfresh.tiles.mem (mem_append_right _ mem_cons_self)).1
      simp only at hpos
      omega
    have hfill := hfresh.fill hfills hlast
    rw [hzero] at hfill ⊢
    exact hfill
  · have hcnt : 0 < f.wrapAroundCnt := hwrapped.wrapped
    exact heq ▸ .wrapped (hwrapped.fill (Nat.succ_lt_succ hcnt))

end

theorem Layout.wraps (hmsg : 0 < msg.length) (hcontent : ∀ t ∈ pending, 0 < t.content.length) :
    Layout size (overwrite cache 0 msg) ⟨msg.length, f.wrapAroundCnt + 1, f.lastSyncOffset, f.offset⟩
      (pending ++ [⟨0, msg⟩]) := by
  cases h with
  | fresh hfresh =>
    obtain ⟨rest, live, heq, hwrapped⟩ := Wrapped.of_tiles hfresh.tiles hmsg (Nat.succ_pos f.wrapAroundCnt)
    exact heq ▸ .wrapped hwrapped
  | filled hfilled =>
    obtain ⟨rest, live, heq, hwrapped⟩ := Wrapped.of_tiles hfilled.tiles hmsg (Nat.succ_pos f.wrapAroundCnt)
    exact heq ▸ .wrapped hwrapped
  | wrapped hwrapped =>
    obtain ⟨rest, live, heq, hagain⟩ := hwrapped.again hmsg (Nat.succ_lt_succ hwrapped.wrapped)
      fun t ht => hcontent t (by rw [← append_assoc]; exact mem_append_left _ ht)
    exact heq ▸ .wrapped hagain

end

end layout

/-! ## What a message changes -/

section write

variable {config : CacheConfig} {s : CacheState} {msg : List UInt8}

section

variable (hsize : config.fileSize < 2147483648)
include hsize

theorem write_fits (hoffset : s.footer.offset ≤ config.fileSize)
    (h : s.footer.offset + msg.length < config.fileSize) :
    dltLogstorageWriteMsgCache config s msg =
      { s with
        cache := overwrite s.cache s.footer.offset msg
        footer :=
          { s.footer with
            offset := s.footer.offset + msg.length
            endSyncOffset :=
              if s.footer.wrapAroundCnt < 1 then s.footer.offset + msg.length else s.footer.endSyncOffset } } := by
  have hroom : (msg.length : ℤ) ≤ config.fileSize - s.footer.offset := by omega
  have hmore : ¬ (config.fileSize - s.footer.offset : ℤ) ≤ msg.length := by omega
  rw [dltLogstorageWriteMsgCache, i32_of_range (by omega) (by omega)]
  simp only [if_pos hroom, if_neg hmore]

theorem write_fills (h : s.footer.offset + msg.length = config.fileSize) :
    dltLogstorageWriteMsgCache config s msg =
      { s with
        cache := overwrite s.cache s.footer.offset msg
        footer :=
          { s.footer with
            offset := s.footer.offset + msg.length
            wrapAroundCnt := u32 (s.footer.wrapAroundCnt + 1)
            endSyncOffset :=
              if s.footer.wrapAroundCnt < 1 then s.footer.offset + msg.length else s.footer.endSyncOffset } } := by
  have hroom : (msg.length : ℤ) ≤ config.fileSize - s.footer.offset := by omega
  have hfull : (config.fileSize - s.footer.offset : ℤ) ≤ msg.length := by omega
  have hsmall : ¬ config.fileSize < msg.length := by omega
  rw [dltLogstorageWriteMsgCache, i32_of_range (by omega) (by omega)]
  simp only [if_pos hroom, if_pos hfull, if_neg hsmall, if_neg (Int.not_lt.mpr hroom)]

theorem write_wraps (hoffset : s.footer.offset ≤ config.fileSize) (hfits : msg.length ≤ config.fileSize)
    (h : config.fileSize < s.footer.offset + msg.length) :
    dltLogstorageWriteMsgCache config s msg =
      { s with
        cache := overwrite s.cache 0 msg
        footer := ⟨msg.length, u32 (s.footer.wrapAroundCnt + 1), s.footer.lastSyncOffset, s.footer.offset⟩ } := by
  have hroom : (config.fileSize - s.footer.offset : ℤ) < msg.length := by omega
  rw [dltLogstorageWriteMsgCache, i32_of_range (by omega) (by omega)]
  simp only [if_neg (Int.not_le.mpr hroom), if_pos (Int.le_of_lt hroom), if_neg (Nat.not_lt.mpr hfits), if_pos hroom]

end

end write

/-! ## The invariant -/

/-- What holds along a run whose steps meet the condition. -/
structure CacheInv (config : CacheConfig) (base : List UInt8) (s : CacheRun) : Prop where
  /-- No sync read what no message was written to. -/
  inside : s.code.outside = false
  /-- The cache is filled up to the position of writing. -/
  offset_le : s.code.footer.offset ≤ s.code.cache.length
  end_le : s.code.footer.endSyncOffset ≤ s.code.cache.length
  /-- It is not filled beyond its size. -/
  cache_le : s.code.cache.length ≤ config.fileSize
  /-- The log files hold what is stored. -/
  stored : s.code.files.flatten = base ++ s.ring.stored.flatten
  ordered : s.ring.Ordered
  /-- The messages begin with the header pattern. -/
  magic_prefix : ∀ t ∈ s.ring.pending, magic <+: t.content
  /-- Where the messages lie. -/
  layout : Layout config.fileSize s.code.cache s.code.footer s.ring.pending

section invariant

variable {config : CacheConfig} {base : List UInt8} {s : CacheRun} {m : CacheMessage config} {status : SyncStrategy}

theorem length_pos_of_magic {content : List UInt8} (h : magic <+: content) : 0 < content.length :=
  Nat.lt_of_lt_of_le (by decide) h.length_le

theorem CacheInv.write (h : CacheInv config base s) (hmeets : Meets config s (.write m)) :
    CacheInv config base (s.step config (.write m)) := by
  obtain ⟨hsize, hcnt⟩ := hmeets
  have hpos := length_pos_of_magic m.header
  have hoffset := h.offset_le
  have hend := h.end_le
  have hcache := h.cache_le
  have hfits := m.fits
  have hcontent : ∀ t ∈ s.ring.pending, 0 < t.content.length := fun t ht => length_pos_of_magic (h.magic_prefix t ht)
  have hmagic : ∀ position, ∀ t ∈ s.ring.pending ++ [⟨position, m.bytes⟩], magic <+: t.content := by
    intro position t ht
    rcases mem_append.mp ht with hin | hin
    · exact h.magic_prefix t hin
    · rw [mem_singleton.mp hin]
      exact m.header
  have hremain : i32 (config.fileSize - s.code.footer.offset) = config.fileSize - s.code.footer.offset :=
    i32_of_range (by omega) (by omega)
  rw [hremain] at hcnt
  simp only [CacheRun.step, writePosition, hremain]
  by_cases hfit : s.code.footer.offset + m.bytes.length ≤ config.fileSize
  · rw [if_pos (by omega)]
    have hlength := length_overwrite_eq_max m.bytes h.offset_le
    have hmax : max s.code.cache.length (s.code.footer.offset + m.bytes.length) ≤ config.fileSize := by omega
    have hendStop : (if s.code.footer.wrapAroundCnt < 1 then s.code.footer.offset + m.bytes.length
        else s.code.footer.endSyncOffset) ≤ max s.code.cache.length (s.code.footer.offset + m.bytes.length) := by
      split_ifs <;> omega
    rcases Nat.lt_or_eq_of_le hfit with hless | hfull
    · rw [write_fits hsize (by omega) hless]
      refine ⟨h.inside, ?_, ?_, ?_, h.stored, h.ordered.record _, hmagic _,
          h.layout.fits h.offset_le hpos hcontent hfit⟩
      · exact hlength ▸ Nat.le_max_right _ _
      · exact hlength ▸ hendStop
      · exact hlength ▸ hmax
    · rw [write_fills hsize hfull, u32_of_nonneg (by omega) (by have := hcnt (by omega); omega)]
      refine ⟨h.inside, ?_, ?_, ?_, h.stored, h.ordered.record _, hmagic _,
          h.layout.fills h.offset_le hpos hcontent hfull⟩
      · exact hlength ▸ Nat.le_max_right _ _
      · exact hlength ▸ hendStop
      · exact hlength ▸ hmax
  · rw [if_neg (by omega), write_wraps hsize (by omega) hfits (by omega),
      u32_of_nonneg (by omega) (by have := hcnt (by omega); omega)]
    have hlength := length_overwrite_eq_max m.bytes (Nat.zero_le s.code.cache.length)
    refine ⟨h.inside, ?_, ?_, ?_, h.stored, h.ordered.record _, hmagic _, h.layout.wraps hpos hcontent⟩
    · simp only [hlength]
      omega
    · simp only [hlength]
      omega
    · rw [hlength]
      omega

theorem pairwise_append_of_tiles {cache : List UInt8} {a b c d : ℕ} {live cur : List (Slot UInt8)}
    (hlive : Tiles cache c d live) (hcur : Tiles cache a b cur) (hbc : b ≤ c) :
    (live ++ cur).Pairwise fun t u => ¬ t.Overlaps u := by
  refine pairwise_append.mpr ⟨hlive.pairwise, hcur.pairwise, ?_⟩
  intro t ht u hu hoverlaps
  have hfirst := (hlive.mem ht).1
  have hsecond := (hcur.mem hu).2.1
  exact absurd hoverlaps.1 (Nat.not_lt.mpr (by omega))

structure Synced (s s' : CacheState) (slots : List (Slot UInt8)) : Prop where
  cache : s'.cache = s.cache
  /-- Nothing else is read. -/
  outside : s'.outside = s.outside
  files : s'.files.flatten = s.files.flatten ++ slots.flatMap Slot.content
  footer : s'.footer = { s.footer with wrapAroundCnt := 0, lastSyncOffset := s.footer.offset }

theorem CacheInv.synced (h : CacheInv config base s) {s' : CacheState}
    (hs' : Synced s.code s' (intact s.ring.pending)) :
    CacheInv config base ⟨s', s.ring.flush⟩ := by
  obtain ⟨hcache, houtside, hfiles, hfooter⟩ := hs'
  refine ⟨houtside.trans h.inside, ?_, ?_, ?_, ?_, h.ordered.flush, fun t ht => (not_mem_nil ht).elim, ?_⟩
  · rw [hcache, hfooter]
    exact h.offset_le
  · rw [hcache, hfooter]
    exact h.end_le
  · rw [hcache]
    exact h.cache_le
  · rw [hfiles, h.stored, LogRing.flush, flatten_append, append_assoc]
    rfl
  · rw [hfooter]
    exact .fresh ⟨rfl, rfl⟩

theorem syncToFile_tiles {t : CacheState} {start stop : ℕ} {slots : List (Slot UInt8)}
    (hsize : config.fileSize < 2147483648) (hstop : stop ≤ t.cache.length) (hcache : t.cache.length ≤ config.fileSize)
    (htiles : Tiles t.cache start stop slots) (hmagic : ∀ u ∈ slots, magic <+: u.content) :
    (dltLogstorageSyncToFile config.fileSize t start stop).cache = t.cache ∧
      (dltLogstorageSyncToFile config.fileSize t start stop).outside = t.outside ∧
      (dltLogstorageSyncToFile config.fileSize t start stop).files.flatten =
        t.files.flatten ++ slots.flatMap Slot.content ∧
      (dltLogstorageSyncToFile config.fileSize t start stop).footer =
        { t.footer with
          wrapAroundCnt := 0, lastSyncOffset := if slots = [] then t.footer.lastSyncOffset else stop } := by
  apply syncToFile_region hsize htiles.le hstop hcache (Or.inr ⟨start, Nat.le_refl _, htiles⟩) hmagic
  intro i hi hlt
  obtain ⟨u, hu, hle, -⟩ := htiles.covers hi hlt
  exact Or.inl ⟨u, hu, hle⟩

/-- The current round is written behind what is left of the previous one. -/
theorem synced_of_first {t : CacheState} {slots cur : List (Slot UInt8)} (hsize : config.fileSize < 2147483648)
    (hoffset : t.footer.offset ≤ t.cache.length) (hcache : t.cache.length ≤ config.fileSize) {first : CacheState}
    (hfirst : first.cache = t.cache ∧ first.outside = t.outside ∧
      first.files.flatten = t.files.flatten ++ slots.flatMap Slot.content ∧
      ∃ last, first.footer = { t.footer with wrapAroundCnt := 0, lastSyncOffset := last })
    (hcur : Tiles t.cache 0 t.footer.offset cur) (hmagic : ∀ u ∈ cur, magic <+: u.content) :
    Synced t (dltLogstorageSyncToFile config.fileSize
      { first with footer := { first.footer with lastSyncOffset := 0 } } 0 first.footer.offset) (slots ++ cur) := by
  obtain ⟨hfcache, hfoutside, hffiles, last, hffooter⟩ := hfirst
  have htiles : Tiles first.cache 0 first.footer.offset cur := by
    rw [hfcache, hffooter]
    exact hcur
  have hstop : first.footer.offset ≤ first.cache.length := by
    rw [hfcache, hffooter]
    exact hoffset
  obtain ⟨hscache, hsoutside, hsfiles, hsfooter⟩ :=
    syncToFile_tiles (t := { first with footer := { first.footer with lastSyncOffset := 0 } }) hsize hstop
      (hfcache ▸ hcache) htiles hmagic
  have hlast : (if cur = [] then 0 else t.footer.offset) = t.footer.offset := by
    split_ifs with hnil
    · rw [hnil] at hcur
      exact hcur
    · rfl
  refine ⟨hscache.trans hfcache, hsoutside.trans hfoutside, ?_, ?_⟩
  · rw [hsfiles, hffiles, append_assoc, flatMap_append]
  · rw [hsfooter, hffooter]
    simp only [hlast]

theorem CacheInv.sync (h : CacheInv config base s) (hmeets : Meets config s (.sync status)) :
    CacheInv config base (s.step config (.sync status)) := by
  obtain ⟨hsize, hcnt⟩ := hmeets
  simp only [CacheRun.step, dltLogstorageSyncMsgCache, syncParts]
  by_cases hstatus : status ∈ config.sync
  case neg =>
    rw [if_neg hstatus, if_neg hstatus]
    exact h
  rw [if_pos hstatus, if_pos hstatus]
  apply h.synced
  have hcases := hcnt hstatus
  have hlayout := h.layout
  have hmagic := h.magic_prefix
  have hcovered : RestReadable config s → ∀ t ∈ intact s.ring.pending, t.position < s.code.footer.endSyncOffset :=
    RestReadable.covered
  have hreadable : RestReadable config s → ∀ i, s.code.footer.offset ≤ i → i < s.code.footer.endSyncOffset →
      (∃ t ∈ intact s.ring.pending, s.code.footer.offset ≤ t.position ∧ t.position ≤ i) ∨ CanPass s.code.cache i :=
    RestReadable.readable
  generalize s.ring.pending = pending at hlayout hmagic hcovered hreadable ⊢
  cases hlayout with
  | fresh hfresh =>
    rw [if_pos (by rw [hfresh.unwrapped]; exact Nat.one_pos), intact_of_pairwise hfresh.tiles.pairwise]
    obtain ⟨hcache, houtside, hfiles, hfooter⟩ :=
      syncToFile_tiles hsize h.offset_le h.cache_le hfresh.tiles hmagic
    have hlast : (if pending = [] then s.code.footer.lastSyncOffset else s.code.footer.offset) =
        s.code.footer.offset := by
      split_ifs with hnil
      · have htiles := hfresh.tiles
        rw [hnil] at htiles
        exact htiles
      · rfl
    exact ⟨hcache, houtside, hfiles, by rw [hfooter, hlast]⟩
  | filled hfilled =>
    have hrest : RestReadable config s := by
      rcases hcases with hzero | hone | hrest
      · rw [hfilled.once] at hzero
        exact absurd hzero (Nat.lt_irrefl 1)
      · have := hfilled.offset_eq
        have := hfilled.last_lt
        omega
      · exact hrest
    have := hfilled.last_pos
    have := hfilled.last_lt
    rcases hrest.notFilled hfilled.once hfilled.offset_eq with hzero | hall <;> omega
  | @wrapped rest live cur hwrapped =>
    rw [if_neg (Nat.not_lt.mpr hwrapped.wrapped)]
    have hmlive : ∀ u ∈ live, magic <+: u.content := fun u hu => hmagic u (by simp [hu])
    have hmcur : ∀ u ∈ cur, magic <+: u.content := fun u hu => hmagic u (by simp [hu])
    by_cases hone : s.code.footer.wrapAroundCnt = 1 ∧ s.code.footer.offset < s.code.footer.lastSyncOffset
    · -- After wrapping around once, all that was not synchronised is left.
      obtain ⟨rfl, hlive⟩ := hwrapped.once hone.1 hone.2
      rw [if_pos hone, nil_append,
        intact_of_pairwise (pairwise_append_of_tiles hlive hwrapped.tiles (Nat.le_of_lt hone.2))]
      obtain ⟨hcache, houtside, hfiles, hfooter⟩ := syncToFile_tiles hsize h.end_le h.cache_le hlive hmlive
      exact synced_of_first hsize h.offset_le h.cache_le ⟨hcache, houtside, hfiles, _, hfooter⟩ hwrapped.tiles hmcur
    · have hrest : RestReadable config s := by
        rcases hcases with hzero | hone' | hrest
        · exact absurd hzero (Nat.not_lt.mpr hwrapped.wrapped)
        · exact absurd hone' hone
        · exact hrest
      have hparted : live = [] ∨ ∃ q, s.code.footer.offset ≤ q ∧
          Tiles s.code.cache q s.code.footer.endSyncOffset live :=
        hwrapped.left
      have hwhole : intact (rest ++ (live ++ cur)) = live ++ cur := by
        rw [intact_dropped hwrapped.dropped fun t ht => Nat.not_le.mpr (hcovered hrest t ht)]
        rcases hparted with rfl | ⟨q, hq, hlive⟩
        · exact intact_of_pairwise hwrapped.tiles.pairwise
        · exact intact_of_pairwise (pairwise_append_of_tiles hlive hwrapped.tiles hq)
      rw [if_neg hone, hwhole]
      obtain ⟨hcache, houtside, hfiles, hfooter⟩ :=
        syncToFile_region hsize hrest.offset_le h.end_le h.cache_le hparted hmlive (by
          intro i hi hlt
          rcases hreadable hrest i hi hlt with ⟨t, ht, hle, hti⟩ | hpass
          · rw [hwhole] at ht
            rcases mem_append.mp ht with hin | hin
            · exact Or.inl ⟨t, hin, hti⟩
            · -- A message of the current round ends before the position of writing.
              have hmem := hwrapped.tiles.mem hin
              have := hmem.2.1
              rw [Slot.stop] at this
              omega
          · exact Or.inr hpass)
      exact synced_of_first hsize h.offset_le h.cache_le ⟨hcache, houtside, hfiles, _, hfooter⟩ hwrapped.tiles hmcur

theorem cacheInv_of_reach {files : List (List UInt8)}
    (h : Reach (CacheRun.Starts files) (CacheRun.step config) (Meets config) s) :
    CacheInv config files.flatten s := by
  apply h.invariant
  · rintro _ rfl
    exact ⟨rfl, Nat.le_refl _, Nat.le_refl _, Nat.zero_le _, (append_nil _).symm, ⟨[], rfl, List.Sublist.refl _⟩,
      fun t ht => (not_mem_nil ht).elim, .fresh ⟨rfl, rfl⟩⟩
  · intro s event hs hmeets
    cases event with
    | write m => exact hs.write hmeets
    | sync status => exact hs.sync hmeets

end invariant

/-! ## Runs -/

/-- **The log files hold what the log ring stores**: no sync reads what no message was written to, each message
is stored at most once and in order, and a sync writes the messages that are still whole. -/
theorem syncs_store_intact (config : CacheConfig) (files : List (List UInt8)) {s : CacheRun}
    (h : Reach (CacheRun.Starts files) (CacheRun.step config) (Meets config) s) :
    s.code.outside = false ∧ s.code.files.flatten = files.flatten ++ s.ring.stored.flatten ∧
      s.ring.stored.Sublist s.ring.written ∧
      ∀ status ∈ config.sync, Meets config s (.sync status) →
        (s.step config (.sync status)).code.files.flatten =
          s.code.files.flatten ++ (intact s.ring.pending).flatMap Slot.content := by
  have hinv := cacheInv_of_reach h
  refine ⟨hinv.inside, hinv.stored, hinv.ordered.sublist, ?_⟩
  intro status hstatus hmeets
  have hnext : (s.step config (.sync status)).ring.stored = s.ring.stored ++
      (intact s.ring.pending).map Slot.content := by
    simp only [CacheRun.step, if_pos hstatus, LogRing.flush]
  rw [(hinv.sync hmeets).stored, hinv.stored, hnext, flatten_append, append_assoc]
  rfl

/-- A cache of twelve bytes. -/
def sampleConfig : CacheConfig := ⟨12, [.onDemand], by decide⟩

/-- A message of five bytes. -/
def shortMessage : CacheMessage sampleConfig := ⟨magic ++ [97], by decide, by decide⟩

/-- A message of seven bytes. -/
def longMessage : CacheMessage sampleConfig := ⟨magic ++ [98, 99, 100], by decide, by decide⟩

/-- The states of a run from an empty cache. -/
def sampleRun (events : List (CacheEvent sampleConfig)) : CacheRun :=
  events.foldl (CacheRun.step sampleConfig) ⟨⟨[], ⟨0, 0, 0, 0⟩, [], false⟩, ⟨[], [], []⟩⟩

/-- Three messages wrap around in the cache, and a sync writes the last two. -/
theorem syncs_store_intact_sample :
    (sampleRun [.write shortMessage, .write shortMessage, .write shortMessage, .sync .onDemand]).code.files.flatten =
        [].flatten ++
          (sampleRun [.write shortMessage, .write shortMessage, .write shortMessage,
              .sync .onDemand]).ring.stored.flatten ∧
      (sampleRun [.write shortMessage, .write shortMessage, .write shortMessage, .sync .onDemand]).ring.stored =
        [shortMessage.bytes, shortMessage.bytes] := by
  have hmeets : ∀ s : CacheRun, s.code.footer.wrapAroundCnt = 0 → Meets sampleConfig s (.write shortMessage) := by
    intro s hcnt
    refine ⟨by decide, fun _ => ?_⟩
    rw [hcnt]
    decide
  have hlast : Meets sampleConfig (sampleRun [.write shortMessage, .write shortMessage, .write shortMessage])
      (.sync .onDemand) := by
    refine ⟨by decide, fun _ => Or.inr (Or.inr ⟨by decide +kernel, ?_, by decide +kernel, by decide +kernel⟩)⟩
    intro i hi _
    exact Or.inl ⟨⟨5, shortMessage.bytes⟩, by decide +kernel, by decide +kernel, hi⟩
  have hstart : Reach (CacheRun.Starts []) (CacheRun.step sampleConfig) (Meets sampleConfig)
      (sampleRun []) := .start rfl
  have hone : Reach (CacheRun.Starts []) (CacheRun.step sampleConfig) (Meets sampleConfig)
      (sampleRun [.write shortMessage]) := hstart.step (hmeets _ rfl)
  have htwo : Reach (CacheRun.Starts []) (CacheRun.step sampleConfig) (Meets sampleConfig)
      (sampleRun [.write shortMessage, .write shortMessage]) := hone.step (hmeets _ (by decide +kernel))
  have hthree : Reach (CacheRun.Starts []) (CacheRun.step sampleConfig) (Meets sampleConfig)
      (sampleRun [.write shortMessage, .write shortMessage, .write shortMessage]) :=
    htwo.step (hmeets _ (by decide +kernel))
  have hreach : Reach (CacheRun.Starts []) (CacheRun.step sampleConfig) (Meets sampleConfig)
      (sampleRun [.write shortMessage, .write shortMessage, .write shortMessage, .sync .onDemand]) := hthree.step hlast
  exact ⟨(syncs_store_intact sampleConfig [] hreach).2.1, by decide +kernel⟩

/-- A message that fills the cache exactly counts as wrapping around: what was synchronised before is written again. -/
theorem sync_writes_twice :
    ∃ s : CacheRun, Reach (CacheRun.Starts []) (CacheRun.step sampleConfig) (fun _ _ => True) s ∧
      ¬ ∃ kept : List (List UInt8), kept.Sublist s.ring.written ∧ s.code.files.flatten = kept.flatten := by
  have hreach : ∀ events : List (CacheEvent sampleConfig),
      Reach (CacheRun.Starts []) (CacheRun.step sampleConfig) (fun _ _ => True) (sampleRun events) := by
    intro events
    induction events using reverseRecOn with
    | nil => exact .start rfl
    | append_singleton events event ih =>
      rw [sampleRun, foldl_append]
      exact ih.step trivial
  refine ⟨_, hreach [.write shortMessage, .sync .onDemand, .write longMessage, .sync .onDemand], ?_⟩
  rintro ⟨kept, hkept, hflatten⟩
  have hlength := length_flatten_le_of_sublist hkept
  rw [← hflatten] at hlength
  exact absurd hlength (by decide +kernel)

end Dlt.Logstorage
