import Mathlib.Data.List.DropRight
import Dlt.Daemon.Levels

/-!
# Looking up a logstorage device by its mount point

* `SameMount`, `IsTarget` — the slots that a path is meant for.
* `getDevice_right_iff` — when the look-up gives a slot that the path is meant for.
-/

namespace Dlt.Devices

open Dlt.Lib Dlt.Daemon List

/-! ## Data -/

/-- `DLT_MOUNT_PATH_MAX`. Source: `dlt_common.h` -/
def dltMountPathMax : ℕ := 1024

/-- The text of a field for a mount point. -/
structure MountPoint where
  /-- The characters up to the end of the string. -/
  text : List UInt8
  noZero : (0 : UInt8) ∉ text
  short : text.length ≤ dltMountPathMax

/-- What the names of log files are made of. Source: `dlt_offline_logstorage.h`, `DltLogStorageUserConfig` -/
structure DltLogStorageUserConfig where
  /-- Whether the name has a time stamp. -/
  logfileTimestamp : ℕ
  /-- The character between the parts of the name. -/
  logfileDelimiter : UInt8
  /-- The greatest number of a file. -/
  logfileMaxcounter : ℕ
  /-- How many digits the number has. -/
  logfileCounteridxlen : ℕ
deriving DecidableEq

/-- A slot, with what is read of it for a look-up. When a device disconnects its mount point is cleared.
Source: `DltLogStorage` -/
structure StorageSlot where
  /-- `connection_type` is `DLT_OFFLINE_LOGSTORAGE_DEVICE_CONNECTED`. -/
  connected : Bool
  /-- `device_mount_point`. -/
  deviceMountPoint : MountPoint
  /-- `uconfig`. -/
  uconfig : DltLogStorageUserConfig
  /-- A slot without a device has an empty mount point. -/
  empty_of_disconnected : connected = false → deviceMountPoint.text = []

open StorageSlot

/-- What a synchronisation leaves: the slots, and those whose caches were synchronised, in order. -/
structure SyncResult where
  storageHandle : List StorageSlot
  /-- `dlt_logstorage_sync_caches` was called for them. -/
  synced : List ℕ
  /-- The result: 0 or `DLT_RETURN_ERROR`. -/
  result : ℤ

/-! ## Operations -/

/-- The comparison of a mount point with a path, up to the shorter of the two lengths. -/
def mountMatches (mount path : List UInt8) : Bool :=
  strncmp (mount ++ [0]) (path ++ [0]) (if path.length > mount.length then mount.length else path.length) = 0

/-- The first slot whose mount point compares equal.
Source: `dlt_daemon_offline_logstorage.c`, `dlt_daemon_logstorage_get_device` -/
def dltDaemonLogstorageGetDevice (storageHandle : List StorageSlot) (mntPoint : MountPoint) : Option ℕ :=
  storageHandle.findIdx? fun slot => mountMatches slot.deviceMountPoint.text mntPoint.text

/-- The slot takes the settings for file names of the daemon. -/
def StorageSlot.setUconfig (flags : DltLogStorageUserConfig) (slot : StorageSlot) : StorageSlot :=
  { slot with uconfig := flags }

/-- The loop over all slots at the positions given, up to the first synchronisation that fails. -/
def syncConnected (flags : DltLogStorageUserConfig) (syncCaches : ℕ → ℤ) :
    List StorageSlot → List ℕ → List ℕ → SyncResult
  | slots, synced, [] => ⟨slots, synced, 0⟩
  | slots, synced, i :: is =>
    match slots[i]? with
    | none => syncConnected flags syncCaches slots synced is
    | some slot =>
      if slot.connected then
        let slots := slots.modify i (·.setUconfig flags)
        if syncCaches i ≠ 0 then ⟨slots, synced ++ [i], -1⟩
        else syncConnected flags syncCaches slots (synced ++ [i]) is
      else syncConnected flags syncCaches slots synced is

/-- The results of `dlt_logstorage_sync_caches` are given by slot.
Source: `dlt_daemon_logstorage_sync_cache` -/
def dltDaemonLogstorageSyncCache (flags : DltLogStorageUserConfig) (syncCaches : ℕ → ℤ)
    (storageHandle : List StorageSlot) (mntPoint : MountPoint) : SyncResult :=
  if mntPoint.text.length > 0 then
    match dltDaemonLogstorageGetDevice storageHandle mntPoint with
    | none => ⟨storageHandle, [], -1⟩
    | some i =>
      let slots := storageHandle.modify i (·.setUconfig flags)
      if syncCaches i ≠ 0 then ⟨slots, [i], -1⟩ else ⟨slots, [i], 0⟩
  else syncConnected flags syncCaches storageHandle [] (List.range storageHandle.length)

/-! ## What a path is meant for -/

/-- The path without the `/` at its end. -/
def withoutSlashes (path : List UInt8) : List UInt8 := path.rdropWhile (· = 47)

/-- Two paths are equal up to `/` at their ends. -/
def SameMount (a b : List UInt8) : Prop := withoutSlashes a = withoutSlashes b

instance (a b : List UInt8) : Decidable (SameMount a b) := by unfold SameMount; infer_instance

/-- The slot holds a connected device that is mounted at the path. -/
def IsTarget (slots : List StorageSlot) (path : MountPoint) (i : ℕ) : Prop :=
  ∃ slot, slots[i]? = some slot ∧ slot.connected = true ∧ SameMount slot.deviceMountPoint.text path.text

/-- One of the two paths begins with the other. An empty path compares with every one. -/
def Comparable (a b : List UInt8) : Prop := a <+: b ∨ b <+: a

instance (a b : List UInt8) : Decidable (Comparable a b) := by unfold Comparable; infer_instance

/-- Each slot whose mount point compares with the path is a device mounted there, or stands behind one. -/
def TargetsFirst (slots : List StorageSlot) (path : MountPoint) : Prop :=
  ∀ i slot, slots[i]? = some slot → Comparable slot.deviceMountPoint.text path.text →
    ∃ j ≤ i, IsTarget slots path j

/-- The slot holds a device, or, where a path is given, a device mounted there. -/
def IsRequested (slots : List StorageSlot) (path : MountPoint) (i : ℕ) : Prop :=
  if path.text = [] then ∃ slot, slots[i]? = some slot ∧ slot.connected = true else IsTarget slots path i

/-- A synchronisation works on the caches of the slot, or changes it. -/
def ActsOn (flags : DltLogStorageUserConfig) (syncCaches : ℕ → ℤ) (slots : List StorageSlot) (path : MountPoint)
    (i : ℕ) : Prop :=
  i ∈ (dltDaemonLogstorageSyncCache flags syncCaches slots path).synced ∨
    (dltDaemonLogstorageSyncCache flags syncCaches slots path).storageHandle[i]? ≠ slots[i]?

/-- The look-up gives a device mounted at the path, and none only when there is none. -/
def LookedUp (slots : List StorageSlot) (path : MountPoint) : Prop :=
  match dltDaemonLogstorageGetDevice slots path with
  | some i => IsTarget slots path i
  | none => ∀ i, ¬ IsTarget slots path i

/-! ## The comparison -/

section comparison

variable {a b : List UInt8}

/-- Texts that are compared up to the shorter length are equal when one begins with the other. -/
theorem strncmp_min_iff (ha : (0 : UInt8) ∉ a) (n : ℕ) (hn : n = min a.length b.length) :
    strncmp (a ++ [0]) (b ++ [0]) n = 0 ↔ Comparable a b := by
  induction a generalizing b n with
  | nil =>
    rw [length_nil, Nat.zero_min] at hn
    subst hn
    exact ⟨fun _ => .inl nil_prefix, fun _ => by cases b <;> rfl⟩
  | cons x a ih =>
    cases b with
    | nil =>
      rw [length_nil, Nat.min_zero] at hn
      subst hn
      exact ⟨fun _ => .inr nil_prefix, fun _ => rfl⟩
    | cons y b =>
      rw [length_cons, length_cons, Nat.add_min_add_right] at hn
      subst hn
      rw [mem_cons, not_or] at ha
      rw [cons_append, cons_append, strncmp, Comparable, cons_prefix_cons, cons_prefix_cons]
      by_cases hxy : x = y
      · rw [if_neg (not_not.mpr hxy), if_neg (Ne.symm ha.1), ih ha.2 _ rfl, Comparable]
        simp [hxy]
      · have hne : x.toNat ≠ y.toNat := fun heq => hxy (UInt8.toNat_inj.mp heq)
        rw [if_pos hxy]
        simp only [hxy, Ne.symm hxy, false_and, or_false, iff_false]
        omega

/-- **What the look-up compares**: one of the paths begins with the other. -/
theorem mountMatches_iff (ha : (0 : UInt8) ∉ a) : mountMatches a b = true ↔ Comparable a b := by
  unfold mountMatches
  rw [decide_eq_true_iff]
  apply strncmp_min_iff ha
  split_ifs with h
  · exact (Nat.min_eq_left (Nat.le_of_lt h)).symm
  · exact (Nat.min_eq_right (Nat.le_of_not_gt h)).symm

/-- A path is its part without the `/` at the end, followed by them. -/
theorem eq_withoutSlashes_append (path : List UInt8) :
    ∃ n, path = withoutSlashes path ++ List.replicate n 47 := by
  refine ⟨(path.rtakeWhile (· = 47)).length, ?_⟩
  have hall : path.rtakeWhile (· = 47) = replicate (path.rtakeWhile (· = 47)).length 47 := by
    apply eq_replicate_of_mem
    intro x hx
    have hslash := mem_rtakeWhile_imp hx
    simpa using hslash
  rw [← hall]
  exact rdropWhile_append_rtakeWhile.symm

/-- Paths that are equal up to `/` at the end compare. -/
theorem SameMount.comparable (h : SameMount a b) : Comparable a b := by
  obtain ⟨m, ha⟩ := eq_withoutSlashes_append a
  obtain ⟨n, hb⟩ := eq_withoutSlashes_append b
  unfold SameMount at h
  rw [← h] at hb
  rw [ha, hb, Comparable, prefix_append_right_inj, prefix_append_right_inj]
  rcases Nat.le_total m n with hmn | hmn
  · exact .inl (prefix_replicate_iff.mpr (by simp [hmn]))
  · exact .inr (prefix_replicate_iff.mpr (by simp [hmn]))

end comparison

/-! ## The look-up -/

section lookup

variable {slots : List StorageSlot} {path : MountPoint} {i : ℕ}

/-- **The look-up gives the first slot that compares.** -/
theorem getDevice_some_iff :
    dltDaemonLogstorageGetDevice slots path = some i ↔
      (∃ slot, slots[i]? = some slot ∧ Comparable slot.deviceMountPoint.text path.text) ∧
        ∀ j < i, ∀ slot, slots[j]? = some slot → ¬ Comparable slot.deviceMountPoint.text path.text := by
  unfold dltDaemonLogstorageGetDevice
  rw [findIdx?_eq_some_iff_getElem]
  constructor
  · rintro ⟨hi, hmatch, hbefore⟩
    refine ⟨⟨slots[i], getElem?_eq_getElem hi, ?_⟩, ?_⟩
    · exact (mountMatches_iff slots[i].deviceMountPoint.noZero).mp hmatch
    · intro j hj slot hslot hcomp
      obtain ⟨hlt, rfl⟩ := List.getElem?_eq_some_iff.mp hslot
      exact hbefore j hj ((mountMatches_iff slots[j].deviceMountPoint.noZero).mpr hcomp)
  · rintro ⟨⟨slot, hslot, hcomp⟩, hbefore⟩
    obtain ⟨hlt, rfl⟩ := List.getElem?_eq_some_iff.mp hslot
    refine ⟨hlt, (mountMatches_iff slots[i].deviceMountPoint.noZero).mpr hcomp, ?_⟩
    intro j hj hmatch
    have hj' : j < slots.length := hj.trans hlt
    exact hbefore j hj slots[j] (getElem?_eq_getElem hj')
      ((mountMatches_iff slots[j].deviceMountPoint.noZero).mp hmatch)

theorem getDevice_none_iff :
    dltDaemonLogstorageGetDevice slots path = none ↔
      ∀ (i : ℕ) (slot : StorageSlot), slots[i]? = some slot → ¬ Comparable slot.deviceMountPoint.text path.text := by
  unfold dltDaemonLogstorageGetDevice
  rw [findIdx?_eq_none_iff]
  constructor
  · intro h i slot hslot hcomp
    have hfalse := h slot (mem_of_getElem? hslot)
    rw [(mountMatches_iff slot.deviceMountPoint.noZero).mpr hcomp] at hfalse
    cases hfalse
  · intro h slot hslot
    obtain ⟨i, hi⟩ := mem_iff_getElem?.mp hslot
    rw [← Bool.not_eq_true, mountMatches_iff slot.deviceMountPoint.noZero]
    exact h i slot hi

theorem IsTarget.comparable (h : IsTarget slots path i) :
    ∃ slot, slots[i]? = some slot ∧ Comparable slot.deviceMountPoint.text path.text := by
  obtain ⟨slot, hslot, -, hsame⟩ := h
  exact ⟨slot, hslot, hsame.comparable⟩

/-- **When the look-up is right**: the first slot that compares is a device mounted at the path. -/
theorem lookedUp_iff : LookedUp slots path ↔ TargetsFirst slots path := by
  unfold LookedUp TargetsFirst
  cases hfound : dltDaemonLogstorageGetDevice slots path with
  | none =>
    rw [getDevice_none_iff] at hfound
    constructor
    · intro _ i slot hslot hcomp
      exact absurd hcomp (hfound i slot hslot)
    · intro _ i htarget
      obtain ⟨slot, hslot, hcomp⟩ := htarget.comparable
      exact hfound i slot hslot hcomp
  | some i =>
    obtain ⟨⟨slot, hslot, hcomp⟩, hbefore⟩ := getDevice_some_iff.mp hfound
    constructor
    · intro htarget j slot' hslot' hcomp'
      refine ⟨i, ?_, htarget⟩
      by_contra hlt
      exact hbefore j (Nat.lt_of_not_le hlt) slot' hslot' hcomp'
    · intro h
      obtain ⟨j, hj, htarget⟩ := h i slot hslot hcomp
      -- nothing before the slot that was found compares
      rcases Nat.lt_or_eq_of_le hj with hlt | rfl
      · obtain ⟨slot', hslot', hcomp'⟩ := htarget.comparable
        exact absurd hcomp' (hbefore j hlt slot' hslot')
      · exact htarget

end lookup

/-! ## Synchronising -/

section sync

variable {slots : List StorageSlot} {path : MountPoint} {flags : DltLogStorageUserConfig} {syncCaches : ℕ → ℤ}

/-- The slots that are connected are the same ones while their settings change. -/
theorem connected_modify (i j : ℕ) :
    (slots.modify i (·.setUconfig flags))[j]?.map connected = slots[j]?.map connected := by
  rw [getElem?_modify]
  cases slots[j]? with
  | none => rfl
  | some slot =>
    by_cases h : i = j
    · simp [h, setUconfig]
    · simp [h]

theorem syncConnected_acts (is : List ℕ) {slots' : List StorageSlot} {synced : List ℕ}
    (hconn : ∀ j : ℕ, slots'[j]?.map connected = slots[j]?.map connected)
    (hacts : ∀ j, j ∈ synced ∨ slots'[j]? ≠ slots[j]? → slots[j]?.map connected = some true) (j : ℕ)
    (h : j ∈ (syncConnected flags syncCaches slots' synced is).synced ∨
      (syncConnected flags syncCaches slots' synced is).storageHandle[j]? ≠ slots[j]?) :
    slots[j]?.map connected = some true := by
  induction is generalizing slots' synced with
  | nil => exact hacts j h
  | cons i is ih =>
    rw [syncConnected] at h
    cases hslot : slots'[i]? with
    | none =>
      rw [hslot] at h
      exact ih hconn hacts h
    | some slot =>
      rw [hslot] at h
      dsimp only at h
      by_cases hc : slot.connected = true
      · -- the slot joins those that were worked on
        have hi : slots[i]?.map connected = some true := by
          rw [← hconn, hslot, Option.map_some, hc]
        have hconn' := fun k => (@connected_modify slots' flags i k).trans (hconn k)
        have hacts' : ∀ k, k ∈ synced ++ [i] ∨ (slots'.modify i (·.setUconfig flags))[k]? ≠ slots[k]? →
            slots[k]?.map connected = some true := by
          intro k hk
          by_cases hki : k = i
          · rw [hki]
            exact hi
          · rw [mem_append, mem_singleton, or_iff_left hki, getElem?_modify_ne _ _ (Ne.symm hki)] at hk
            exact hacts k hk
        rw [if_pos hc] at h
        split_ifs at h
        · exact hacts' j h
        · exact ih hconn' hacts' h
      · rw [if_neg hc] at h
        exact ih hconn hacts h

/-- A synchronisation at a path acts on the slot that the look-up gives. -/
theorem actsOn_getDevice (hpath : path.text ≠ []) {i : ℕ} (h : ActsOn flags syncCaches slots path i) :
    dltDaemonLogstorageGetDevice slots path = some i := by
  unfold ActsOn dltDaemonLogstorageSyncCache at h
  rw [if_pos (length_pos_iff.mpr hpath)] at h
  cases hfound : dltDaemonLogstorageGetDevice slots path with
  | none =>
    rw [hfound] at h
    simp at h
  | some k =>
    rw [hfound] at h
    dsimp only at h
    by_contra hne
    have hik : i ≠ k := fun heq => hne (by rw [heq])
    split_ifs at h
    all_goals
      rw [mem_singleton, getElem?_modify_ne _ _ (Ne.symm hik)] at h
      rcases h with h | h
      · exact hik h
      · exact h rfl

theorem actsOn_connected (hpath : path.text = []) {i : ℕ} (h : ActsOn flags syncCaches slots path i) :
    ∃ slot, slots[i]? = some slot ∧ slot.connected = true := by
  unfold ActsOn dltDaemonLogstorageSyncCache at h
  rw [if_neg (by simp [hpath])] at h
  have hmap : slots[i]?.map connected = some true := by
    refine syncConnected_acts _ (fun _ => rfl) ?_ i h
    intro j hj
    simp at hj
  rw [Option.map_eq_some_iff] at hmap
  exact hmap

/-- **The look-up, and each synchronisation, finds the device that is meant** exactly when each slot whose mount
point compares with the path is one mounted there, or stands behind one. -/
theorem getDevice_right_iff (slots : List StorageSlot) (path : MountPoint) :
    (LookedUp slots path ∧ ∀ flags syncCaches i, ActsOn flags syncCaches slots path i → IsRequested slots path i) ↔
      TargetsFirst slots path := by
  rw [← lookedUp_iff]
  refine ⟨fun h => h.1, fun h => ⟨h, ?_⟩⟩
  intro flags syncCaches i hacts
  unfold IsRequested
  by_cases hpath : path.text = []
  · rw [if_pos hpath]
    exact actsOn_connected hpath hacts
  · have hfound := actsOn_getDevice hpath hacts
    unfold LookedUp at h
    rw [hfound] at h
    rw [if_neg hpath]
    exact h

def sampleUconfig : DltLogStorageUserConfig := ⟨0, 95, 0, 3⟩

/-- A slot without a device. -/
def sampleFree : StorageSlot := ⟨false, ⟨[], by decide, by decide⟩, sampleUconfig, by decide⟩

/-- A device at `/mnt`. -/
def sampleMounted : StorageSlot := ⟨true, ⟨ascii "/mnt", by decide, by decide⟩, sampleUconfig, by decide⟩

/-- A free slot in front of the device that is asked for: the free one is looked up, and synchronised. -/
theorem getDevice_free :
    ¬ (LookedUp [sampleFree, sampleMounted] sampleMounted.deviceMountPoint ∧
      ∀ flags syncCaches i, ActsOn flags syncCaches [sampleFree, sampleMounted] sampleMounted.deviceMountPoint i →
        IsRequested [sampleFree, sampleMounted] sampleMounted.deviceMountPoint i) := by
  rintro ⟨h, -⟩
  have hfound : dltDaemonLogstorageGetDevice [sampleFree, sampleMounted] sampleMounted.deviceMountPoint = some 0 := by
    decide +kernel
  unfold LookedUp at h
  rw [hfound] at h
  obtain ⟨slot, hslot, hconn, -⟩ := h
  obtain rfl : sampleFree = slot := Option.some.inj hslot
  cases hconn

end sync

end Dlt.Devices
