import Dlt.Logstorage.Cache

/-!
# Synchronising a part of the cache

* `findHeader_found`, `findHeader_missing` — what the search for a header returns.
* `syncToFile_region` — from a part of the cache that ends in whole messages, exactly these are written.
-/

namespace Dlt.Logstorage

open Dlt.Lib List

/-- A comparison with the header pattern at the position fails without reading behind the messages. -/
def CanPass (cache : List UInt8) (i : ℕ) : Prop := lookAt (cache.drop i) = .other

instance (cache : List UInt8) (i : ℕ) : Decidable (CanPass cache i) := inferInstanceAs (Decidable (_ = _))

section find

variable {bytes cache content : List UInt8} {cnt i k start stop : ℕ}

theorem lookAt_message (hmagic : magic <+: content) (h : content <+: bytes) : lookAt bytes = .header :=
  if_pos (hmagic.trans h)

theorem findHeader_pass (hi : i < cnt) (h : lookAt bytes = .other) :
    findHeader cnt i bytes = findHeader cnt (i + 1) bytes.tail := by
  cases bytes with
  | nil => exact absurd h (by decide)
  | cons b bs => rw [findHeader, if_pos hi, h, tail_cons]

theorem findHeader_skip (hk : i + k ≤ cnt) (h : ∀ j < k, lookAt (bytes.drop j) = .other) :
    findHeader cnt i bytes = findHeader cnt (i + k) (bytes.drop k) := by
  induction k generalizing i bytes with
  | zero => rfl
  | succ k ih =>
    have hfirst : lookAt bytes = .other := h 0 (Nat.succ_pos k)
    have hrest : ∀ j < k, lookAt (bytes.tail.drop j) = .other := by
      intro j hj
      rw [drop_tail]
      exact h (j + 1) (Nat.succ_lt_succ hj)
    rw [findHeader_pass (by omega) hfirst, ih (by omega) hrest, drop_tail]
    congr 1
    omega

theorem findHeader_found (hk : k < cnt) (h : ∀ j < k, lookAt (bytes.drop j) = .other)
    (hheader : lookAt (bytes.drop k) = .header) : findHeader cnt 0 bytes = some (k : ℤ) := by
  rw [findHeader_skip (by omega) h, Nat.zero_add]
  cases hdrop : bytes.drop k with
  | nil =>
    rw [hdrop] at hheader
    exact absurd hheader (by decide)
  | cons b bs => rw [findHeader, if_pos hk, ← hdrop, hheader]

theorem findHeader_missing (h : ∀ j < cnt, lookAt (bytes.drop j) = .other) : findHeader cnt 0 bytes = some (-1) := by
  rw [findHeader_skip (by omega) h, Nat.zero_add]
  cases bytes.drop cnt with
  | nil => rw [findHeader, if_neg (Nat.lt_irrefl cnt)]
  | cons b bs => rw [findHeader, if_neg (Nat.lt_irrefl cnt)]

end find

/-! ## Log files -/

section files

variable {fileSize : ℕ} {msgSize : ℤ} {files : List (List UInt8)} {bytes : List UInt8}

theorem flatten_openLogFile : (dltLogstorageOpenLogFile fileSize msgSize files).1.flatten = files.flatten := by
  unfold dltLogstorageOpenLogFile
  cases hlast : files.getLast? with
  | none => rw [getLast?_eq_none_iff.mp hlast]; rfl
  | some file =>
    simp only
    split_ifs <;> simp

theorem openLogFile_ne : (dltLogstorageOpenLogFile fileSize msgSize files).1 ≠ [] := by
  unfold dltLogstorageOpenLogFile
  cases hlast : files.getLast? with
  | none => exact cons_ne_nil _ _
  | some file =>
    simp only
    split_ifs with hroom
    · rintro rfl
      cases hlast
    · simp

/-- The file that is opened has room for what is to be written. -/
theorem openLogFile_room (hsize : fileSize < 2147483648) (h0 : 0 ≤ msgSize) (hmsg : msgSize ≤ fileSize) :
    ¬ i32 (fileSize - (dltLogstorageOpenLogFile fileSize msgSize files).2) < msgSize := by
  unfold dltLogstorageOpenLogFile
  cases files.getLast? with
  | none =>
    simp only
    rw [i32_of_range (by omega) (by omega)]
    omega
  | some file =>
    simp only
    split_ifs with hroom
    · rw [i32_natCast hsize] at hroom
      rw [i32_of_range (by omega) (by omega)]
      omega
    · rw [i32_of_range (by omega) (by omega)]
      omega

theorem flatten_fwrite (h : files ≠ []) : (fwrite files bytes).flatten = files.flatten ++ bytes := by
  obtain ⟨front, last, rfl⟩ := eq_nil_or_concat files |>.resolve_left h
  simp [fwrite]

end files

/-! ## A part of the cache -/

section region

variable {fileSize : ℕ} {s : CacheState} {start stop k : ℕ} {slots : List (Slot UInt8)}

section

variable (hsize : fileSize < 2147483648)
include hsize

theorem syncToFile_found (hk : start + k < stop) (hstop : stop ≤ s.cache.length)
    (hcache : s.cache.length ≤ fileSize) (hpass : ∀ j < k, CanPass s.cache (start + j))
    (hheader : lookAt (s.cache.drop (start + k)) = .header) :
    dltLogstorageSyncToFile fileSize s start stop =
      { s with
        files := fwrite (dltLogstorageOpenLogFile fileSize (stop - start) s.files).1 (slice s.cache (start + k) stop)
        footer := { s.footer with lastSyncOffset := stop, wrapAroundCnt := 0 } } := by
  have hcount : i32 ((stop : ℤ) - start) = stop - start := i32_of_range (by omega) (by omega)
  have hfind : dltLogstorageFindDltHeader s.cache start (u32 ((stop : ℤ) - start)) = some (k : ℤ) := by
    rw [u32_of_nonneg (by omega) (by omega)]
    apply findHeader_found (by omega)
    · intro j hj
      rw [drop_drop]
      exact hpass j hj
    · rw [drop_drop]
      exact hheader
  have hrest : i32 ((stop : ℤ) - start - k) = stop - start - k := i32_of_range (by omega) (by omega)
  have hend : start + (k : ℤ).toNat + ((stop : ℤ) - start - k).toNat = stop := by omega
  rw [dltLogstorageSyncToFile]
  simp only [hcount]
  rw [if_neg (openLogFile_room hsize (by omega) (by omega)), syncRest]
  simp only [hfind, hrest]
  rw [if_pos ⟨by omega, by omega⟩, hend, if_neg (by decide), if_neg (by omega)]
  rfl

theorem syncToFile_missing (hle : start ≤ stop) (hstop : stop ≤ fileSize)
    (hpass : ∀ i, start ≤ i → i < stop → CanPass s.cache i) :
    dltLogstorageSyncToFile fileSize s start stop =
      { s with
        files := (dltLogstorageOpenLogFile fileSize (stop - start) s.files).1
        footer := { s.footer with wrapAroundCnt := 0 } } := by
  have hcount : i32 ((stop : ℤ) - start) = stop - start := i32_of_range (by omega) (by omega)
  have hfind : dltLogstorageFindDltHeader s.cache start (u32 ((stop : ℤ) - start)) = some (-1) := by
    rw [u32_of_nonneg (by omega) (by omega)]
    apply findHeader_missing
    intro j hj
    rw [drop_drop]
    exact hpass (start + j) (by omega) (by omega)
  rw [dltLogstorageSyncToFile]
  simp only [hcount]
  rw [if_neg (openLogFile_room hsize (by omega) (by omega)), syncRest]
  simp only [hfind]
  rw [if_neg (fun h => absurd h.1 (by decide))]

/-- **From a part of the cache that ends in whole messages, exactly these are written.** -/
theorem syncToFile_region (hle : start ≤ stop) (hstop : stop ≤ s.cache.length)
    (hcache : s.cache.length ≤ fileSize) (hslots : slots = [] ∨ ∃ q, start ≤ q ∧ Tiles s.cache q stop slots)
    (hmagic : ∀ t ∈ slots, magic <+: t.content)
    (hpass : ∀ i, start ≤ i → i < stop → (∃ t ∈ slots, t.position ≤ i) ∨ CanPass s.cache i) :
    (dltLogstorageSyncToFile fileSize s start stop).cache = s.cache ∧
      (dltLogstorageSyncToFile fileSize s start stop).outside = s.outside ∧
      (dltLogstorageSyncToFile fileSize s start stop).files.flatten = s.files.flatten ++ slots.flatMap Slot.content ∧
      (dltLogstorageSyncToFile fileSize s start stop).footer =
        { s.footer with
          wrapAroundCnt := 0, lastSyncOffset := if slots = [] then s.footer.lastSyncOffset else stop } := by
  cases slots with
  | nil =>
    have hall : ∀ i, start ≤ i → i < stop → CanPass s.cache i := by
      intro i hi hlt
      rcases hpass i hi hlt with ⟨t, ht, -⟩ | hother
      · cases ht
      · exact hother
    rw [syncToFile_missing hsize hle (hstop.trans hcache) hall]
    refine ⟨rfl, rfl, ?_, rfl⟩
    rw [flatten_openLogFile]
    exact (append_nil _).symm
  | cons t slots =>
    obtain ⟨q, hq, htiles⟩ := hslots.resolve_left (cons_ne_nil t slots)
    have hpos := htiles.mem mem_cons_self
    have hlast : q < stop := by
      have := hpos.2.1
      rw [Slot.stop] at this
      omega
    have hheader : lookAt (s.cache.drop (start + (q - start))) = .header := by
      rw [Nat.add_sub_cancel' hq]
      exact lookAt_message (hmagic t mem_cons_self) htiles.head
    have hbefore : ∀ j < q - start, CanPass s.cache (start + j) := by
      intro j hj
      rcases hpass (start + j) (by omega) (by omega) with ⟨u, hu, hle'⟩ | hother
      · have := (htiles.mem hu).1
        omega
      · exact hother
    rw [syncToFile_found hsize (by omega) hstop hcache hbefore hheader]
    refine ⟨rfl, rfl, ?_, rfl⟩
    rw [flatten_fwrite openLogFile_ne, flatten_openLogFile, Nat.add_sub_cancel' hq, htiles.slice_eq]

end

end region

end Dlt.Logstorage
