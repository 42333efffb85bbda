import Dlt.Daemon.StorageLevelsKeys
import Dlt.Daemon.StorageLevelsRegistration

/-!
# The storage log levels over whole runs

* `storage_levels_agree` — in every run whose events meet it, the levels agree in every state.
-/

namespace Dlt.Daemon

open Dlt.Lib Dlt.Shared Dlt.Logstorage List Option DltLogStorage

variable {Buf : Type}

/-! ## The configured level -/

/-- The contexts in the table of the own ECU. -/
def StorageState.registeredContexts (s : StorageState Buf) : List DltDaemonContext :=
  match dltDaemonFindUsersList s.levels.daemon s.levels.daemon.ecuid with
  | none => []
  | some l => (s.levels.daemon.userList[l]?.map DltDaemonRegisteredUsers.contexts).getD []

/-- Every registered context has the storage log level that is configured for it. -/
def LevelsAgree (s : StorageState Buf) : Prop :=
  ∀ context ∈ s.registeredContexts,
    context.storageLogLevel = configuredLevel s.levels.daemon.ecuid context.ids s.storageHandle

/-! ## The condition -/

/-- No registered context has its level from this device alone. -/
def StorageState.NotNeeded (s : StorageState Buf) (devNum : ℕ) : Prop :=
  ∀ (handle : DltLogStorage), s.storageHandle[devNum]? = some handle → ∀ context ∈ s.registeredContexts,
    raise (configuredLevels s.levels.daemon.ecuid context.ids handle) dltLogDefault ≤
      configuredLevel s.levels.daemon.ecuid context.ids (s.storageHandle.eraseIdx devNum)

/-- What has to be true of an event and the state before it. -/
def StorageOp.KeepsLevels (s : StorageState Buf) : StorageOp → Prop
  -- what the device was configured with is not needed, a warning concerns no registered context, and else the filters
  -- that are loaded are plain
  | .connect devNum file _ => s.NotNeeded devNum ∧
      ∀ (handle : DltLogStorage), s.storageHandle[devNum]? = some handle → ∀ context ∈ s.registeredContexts,
        ((dltLogstorageDeviceConnected handle file).2 = 1 →
          raise (configuredLevels s.levels.daemon.ecuid context.ids (dltLogstorageDeviceConnected handle file).1)
              dltLogDefault ≤
            configuredLevel s.levels.daemon.ecuid context.ids (s.storageHandle.eraseIdx devNum)) ∧
        ((dltLogstorageDeviceConnected handle file).2 = 0 →
          PlainlyRead s.levels.daemon.ecuid context.ids (dltLogstorageDeviceConnected handle file).1.filters)
  | .disconnect devNum _ => (∃ handle, s.storageHandle[devNum]? = some handle ∧ handle.ready = true) →
      ∀ context ∈ s.registeredContexts, ∀ handle ∈ s.storageHandle, handle.ready = true →
        PlainlyRead s.levels.daemon.ecuid context.ids handle.filters
  | .writeErrors devNum => s.NotNeeded devNum
  -- the number of devices fits into `int8_t`, and there is room for what is found on each
  | .registerContext _ _ userctxt _ _ => userctxt.apid.Canonical ∧ s.storageHandle.length < 128 ∧
      ∀ handle ∈ s.storageHandle,
        (handle.getConfig (userctxt.apid, userctxt.ctid) s.levels.daemon.ecuid).length ≤ 125
  | .registerApplication malloc _ apid _ _ _ => malloc.Succeeds ∧ apid.Canonical
  | .unregisterApplication _ => True
  | .unregisterContext _ _ => True

/-- No device is connected, and no context has a storage log level. -/
structure StorageStart (s : StorageState Buf) : Prop where
  own : ∃ l users, Own s.levels.daemon l users
  devices : ∀ handle ∈ s.storageHandle, handle.connected = false ∧ handle.configList = []
  contexts : ∀ context ∈ s.registeredContexts, context.storageLogLevel = dltLogDefault

/-! ## Devices -/

section devices

variable {handle : DltLogStorage} {ecuid : Id4} {ids : Id4 × Id4}

section

variable (h : AllFilters handle.configList)
include h

theorem storeSections_filters (valid : ℤ) (sections : List Section) :
    AllFilters (storeSections handle valid sections).1.configList := by
  induction sections generalizing handle valid with
  | nil => exact h
  | cons head sections ih =>
    cases head with
    | general maintain =>
      rw [storeSections]
      apply ih
      exact h
    | unknown => exact ih h valid
    | filterError => exact ih h 1
    | filter filter =>
      rw [storeSections]
      cases hkeys : dltLogstorageCreateKeys filter.config with
      | none => exact h
      | some keys =>
        apply ih
        intro node hnode
        rcases mem_append.mp hnode with hnode | hnode
        · exact h node hnode
        · rw [mem_singleton.mp hnode]
          exact ⟨hkeys, filter.fileName_isSome, filter.logLevel_range⟩

theorem loadConfig_filters (file : Option (List Section)) :
    AllFilters (dltLogstorageLoadConfig handle file).1.configList := by
  have hstored : AllFilters (dltLogstorageStoreFilters handle file).1.configList := by
    cases file with
    | none => exact h
    | some sections =>
      apply storeSections_filters
      exact h
  unfold dltLogstorageLoadConfig
  dsimp only
  split_ifs <;> exact hstored

theorem deviceDisconnected_filters : AllFilters (dltLogstorageDeviceDisconnected handle).configList := by
  unfold dltLogstorageDeviceDisconnected
  dsimp only
  split_ifs
  · exact fun node hnode => absurd hnode not_mem_nil
  · exact h

theorem deviceConnected_filters (file : Option (List Section)) :
    AllFilters (dltLogstorageDeviceConnected handle file).1.configList := by
  unfold dltLogstorageDeviceConnected
  dsimp only
  split_ifs
  · apply loadConfig_filters
    exact deviceDisconnected_filters h
  · apply loadConfig_filters
    exact h

end

theorem configuredLevels_of_not_ready (h : handle.ready = false) : configuredLevels ecuid ids handle = [] := by
  rw [configuredLevels, getConfig, h]
  rfl

theorem deviceDisconnected_ready (handle : DltLogStorage) :
    (dltLogstorageDeviceDisconnected handle).ready = false := rfl

theorem storeSections_status (handle : DltLogStorage) (valid : ℤ) (sections : List Section) :
    (storeSections handle valid sections).1.configured = handle.configured ∧
      (storeSections handle valid sections).1.connected = handle.connected := by
  induction sections generalizing handle valid with
  | nil => exact ⟨rfl, rfl⟩
  | cons head sections ih =>
    cases head with
    | general maintain =>
      rw [storeSections]
      exact ih _ valid
    | unknown => exact ih _ valid
    | filterError => exact ih _ 1
    | filter filter =>
      rw [storeSections]
      cases dltLogstorageCreateKeys filter.config with
      | none => exact ⟨rfl, rfl⟩
      | some keys => exact ih _ _

/-- After an error the device is not configured, else it is ready. -/
theorem loadConfig_cases (hconnected : handle.connected = true) (hconfigured : handle.configured = false)
    (file : Option (List Section)) :
    (dltLogstorageLoadConfig handle file).2 = 0 ∧ (dltLogstorageLoadConfig handle file).1.ready = true ∨
      (dltLogstorageLoadConfig handle file).2 = 1 ∧ (dltLogstorageLoadConfig handle file).1.ready = true ∨
      (dltLogstorageLoadConfig handle file).2 = -1 ∧ (dltLogstorageLoadConfig handle file).1.ready = false := by
  have hstored : (dltLogstorageStoreFilters handle file).1.connected = true ∧
      (dltLogstorageStoreFilters handle file).1.configured = false := by
    cases file with
    | none => exact ⟨hconnected, hconfigured⟩
    | some sections =>
      obtain ⟨h, h'⟩ := storeSections_status { handle with maintainLogstorageLoglevel := none } (-1) sections
      exact ⟨h'.trans hconnected, h.trans hconfigured⟩
  unfold dltLogstorageLoadConfig ready
  dsimp only
  split_ifs
  · exact .inr (.inl ⟨rfl, by rw [hstored.1]; rfl⟩)
  · exact .inr (.inr ⟨rfl, by rw [hstored.2, Bool.and_false]⟩)
  · exact .inl ⟨rfl, by rw [hstored.1]; rfl⟩

theorem deviceConnected_cases (handle : DltLogStorage) (file : Option (List Section)) :
    (dltLogstorageDeviceConnected handle file).2 = 0 ∧ (dltLogstorageDeviceConnected handle file).1.ready = true ∨
      (dltLogstorageDeviceConnected handle file).2 = 1 ∧ (dltLogstorageDeviceConnected handle file).1.ready = true ∨
      (dltLogstorageDeviceConnected handle file).2 = -1 ∧
        (dltLogstorageDeviceConnected handle file).1.ready = false :=
  loadConfig_cases rfl rfl file

theorem AllFilters.config (h : AllFilters handle.configList) {positions : List ℕ} {config : DltLogStorageFilterConfig}
    (hconfig : config ∈ handle.configs positions) :
    config.fileName.isSome = true ∧ 1 ≤ config.logLevel ∧ config.logLevel ≤ dltLogVerbose := by
  obtain ⟨j, -, hj⟩ := mem_filterMap.mp hconfig
  obtain ⟨node, hnode, rfl⟩ := map_eq_some_iff.mp hj
  exact (h node (mem_of_getElem? hnode)).2

end devices

/-! ## Lists of devices -/

section lists

variable {handle : DltLogStorage} {storageHandle : List DltLogStorage} {devNum : ℕ} {ecuid : Id4} {ids : Id4 × Id4}

theorem dltLogDefault_le_configuredLevel : dltLogDefault ≤ configuredLevel ecuid ids storageHandle :=
  le_raise _ _

section

variable (h : storageHandle[devNum]? = some handle)
include h

theorem configuredLevel_eq_max :
    configuredLevel ecuid ids storageHandle =
      max (raise (configuredLevels ecuid ids handle) dltLogDefault)
        (configuredLevel ecuid ids (storageHandle.eraseIdx devNum)) := by
  have hmem : ∀ device, device ∈ storageHandle ↔ device = handle ∨ device ∈ storageHandle.eraseIdx devNum := by
    intro device
    obtain ⟨hlt, hget⟩ := List.getElem?_eq_some_iff.mp h
    rw [eraseIdx_eq_take_drop_succ, mem_append]
    conv_lhs => rw [← take_append_drop devNum storageHandle, drop_eq_getElem_cons hlt, hget]
    rw [mem_append, mem_cons]
    exact or_left_comm
  have hlevels : configuredLevel ecuid ids storageHandle =
      raise (configuredLevels ecuid ids handle ++ (storageHandle.eraseIdx devNum).flatMap (configuredLevels ecuid ids))
        dltLogDefault := by
    apply raise_congr
    intro level
    simp [hmem, or_and_right, exists_or]
  rw [hlevels, raise_append, raise_eq_max (le_raise _ _)]
  rfl

theorem configuredLevel_set (new : DltLogStorage) :
    configuredLevel ecuid ids (storageHandle.set devNum new) =
      max (raise (configuredLevels ecuid ids new) dltLogDefault)
        (configuredLevel ecuid ids (storageHandle.eraseIdx devNum)) := by
  have hget : (storageHandle.set devNum new)[devNum]? = some new := by
    rw [getElem?_set_self (List.getElem?_eq_some_iff.mp h).1]
  rw [configuredLevel_eq_max hget, eraseIdx_set_eq]

theorem configuredLevel_set_not_ready {new : DltLogStorage} (hnew : new.ready = false) :
    configuredLevel ecuid ids (storageHandle.set devNum new) =
      configuredLevel ecuid ids (storageHandle.eraseIdx devNum) := by
  rw [configuredLevel_set h, configuredLevels_of_not_ready hnew]
  exact max_eq_right dltLogDefault_le_configuredLevel

theorem modify_eq_set (f : DltLogStorage → DltLogStorage) :
    storageHandle.modify devNum f = storageHandle.set devNum (f handle) := by
  rw [modify_eq_set_getElem?, h]
  rfl

end

/-- The keys of devices that are all read as they are looked up. -/
theorem raise_readLevels (h : ∀ handle ∈ storageHandle, ReadsAlike ecuid ids handle) :
    raise (storageHandle.flatMap (readLevels ecuid ids)) dltLogDefault = configuredLevel ecuid ids storageHandle := by
  rw [configuredLevel]
  induction storageHandle with
  | nil => rfl
  | cons handle storageHandle ih =>
    obtain ⟨hhandle, hrest⟩ := forall_mem_cons.mp h
    rw [flatMap_cons, flatMap_cons, raise_append, raise_append, raise_eq_max (le_raise _ _), ih hrest,
      hhandle, ← raise_eq_max (le_raise _ _)]

/-- The lookup at the registration finds the level that is configured. -/
theorem getLoglevel_eq (h : ∀ handle ∈ storageHandle, AllFilters handle.configList)
    (hlength : storageHandle.length < 128)
    (hne : storageHandle ≠ []) (apid ctid : Id4) :
    dltDaemonLogstorageGetLoglevel storageHandle ecuid (i8 storageHandle.length) apid ctid =
      configuredLevel ecuid (apid, ctid) storageHandle := by
  have hi8 : i8 storageHandle.length = storageHandle.length := i8_of_range (by omega) (by omega)
  have hpos := length_pos_iff.mpr hne
  have hloop : ∀ (configs : List DltLogStorageFilterConfig) (level : ℤ),
      (∀ config ∈ configs, config.fileName.isSome = true) →
        storageLoglevel level configs = raise (configs.map (·.logLevel)) level := by
    intro configs
    induction configs with
    | nil => exact fun level _ => rfl
    | cons config configs ih =>
      intro level hnames
      obtain ⟨hname, hnames⟩ := forall_mem_cons.mp hnames
      rw [storageLoglevel, if_neg, ih _ hnames]
      · rfl
      · rw [isNone_iff_eq_none, ← not_isSome_iff_eq_none, not_not]
        exact hname
  rw [dltDaemonLogstorageGetLoglevel, hi8, if_neg (by omega), Int.toNat_natCast, take_length, configuredLevel]
  show foldl _ dltLogDefault _ = _
  generalize dltLogDefault = level
  clear hne hpos hi8 hlength
  induction storageHandle generalizing level with
  | nil => rfl
  | cons handle storageHandle ih =>
    obtain ⟨hhandle, hrest⟩ := forall_mem_cons.mp h
    rw [foldl_cons, flatMap_cons, raise_append, ih hrest]
    congr 1
    by_cases hconfigured : handle.configured = true
    · rw [if_pos hconfigured]
      apply hloop
      intro config hconfig
      unfold getConfig at hconfig
      split_ifs at hconfig
      · exact (hhandle.config hconfig).1
      · exact absurd hconfig not_mem_nil
    · rw [if_neg hconfigured, configuredLevels_of_not_ready]
      · rfl
      · rw [ready, Bool.eq_false_iff.mpr hconfigured, Bool.and_false]

end lists

/-! ## Running contexts -/

section running

variable {s : LevelState Buf} {l : ℕ} {users : DltDaemonRegisteredUsers} (flags : LevelFlags)
  (outcome : ℕ → WriteOutcome)

section

variable (hown : Own s.daemon l users)
include hown

variable {handle : DltLogStorage}

theorem updateKeys_moves (hfilters : AllFilters handle.configList) (hready : handle.ready = true)
    {keys : List (List UInt8)} (hkeys : ∀ key ∈ keys, key ∈ handle.allKeys) :
    Moves s.daemon (updateKeys flags outcome handle s keys).daemon l fun _ ids level =>
      raise ((keys.filter fun key => keyMatches s.daemon.ecuid key ids).map
        (dltLogstorageGetLoglevelByKey handle)) level := by
  induction keys generalizing s users with
  | nil => exact Moves.refl s.daemon l
  | cons key keys ih =>
    obtain ⟨hkey, hkeys⟩ := forall_mem_cons.mp hkeys
    obtain ⟨hlow, hhigh⟩ := getLoglevelByKey_range hfilters hready hkey
    have hfirst := updateContextLoglevel_moves flags outcome hown key
      (show dltLogDefault ≤ dltLogstorageGetLoglevelByKey handle key from le_trans (by decide) hlow) hhigh
    obtain ⟨users', hown', -⟩ := hfirst.own hown
    have hrest := ih hown' hkeys
    rw [hfirst.ecuid] at hrest
    rw [updateKeys, if_neg (by omega)]
    apply (hfirst.trans hrest).congr
    intro j ids level _
    rw [filter_cons]
    by_cases hmatch : keyMatches s.daemon.ecuid key ids = true
    · rw [if_pos hmatch, if_pos hmatch, newLevel, if_pos (by omega), map_cons, raise_cons]
    · rw [if_neg hmatch, if_neg hmatch]

/-- **A device is looked at**: each context gets the highest level that is read for it, if that is higher. -/
theorem updateApplicationLoglevel_moves (hfilters : AllFilters handle.configList) :
    Moves s.daemon (dltDaemonLogstorageUpdateApplicationLoglevel flags outcome s handle).daemon l
      fun _ ids level => raise (readLevels s.daemon.ecuid ids handle) level := by
  unfold dltDaemonLogstorageUpdateApplicationLoglevel readLevels
  by_cases hready : handle.ready = true
  · simp only [if_pos hready]
    exact updateKeys_moves flags outcome hown hfilters hready fun _ hkey => hkey
  · simp only [if_neg hready]
    exact Moves.refl s.daemon l

theorem updateDevices_moves (storageHandle : List DltLogStorage)
    (hfilters : ∀ handle ∈ storageHandle, AllFilters handle.configList) :
    Moves s.daemon (storageHandle.foldl (dltDaemonLogstorageUpdateApplicationLoglevel flags outcome) s).daemon l
      fun _ ids level => raise (storageHandle.flatMap (readLevels s.daemon.ecuid ids)) level := by
  induction storageHandle generalizing s users with
  | nil => exact Moves.refl s.daemon l
  | cons handle storageHandle ih =>
    obtain ⟨hhandle, hfilters⟩ := forall_mem_cons.mp hfilters
    have hfirst := updateApplicationLoglevel_moves flags outcome hown hhandle
    obtain ⟨users', hown', -⟩ := hfirst.own hown
    have hrest := ih hown' hfilters
    rw [hfirst.ecuid] at hrest
    apply (hfirst.trans hrest).congr
    intro j ids level _
    rw [flatMap_cons, raise_append]

theorem resetKeys_moves (keys : List (List UInt8)) :
    Moves s.daemon (keys.foldl
        (fun s key => dltLogstorageUpdateContextLoglevel flags outcome s key dltLogDefault) s).daemon l
      fun _ ids level =>
        if ∃ key ∈ keys, keyMatches s.daemon.ecuid key ids = true then dltLogDefault else level := by
  induction keys generalizing s users with
  | nil =>
    apply (Moves.refl s.daemon l).congr
    intro j ids level _
    rw [if_neg]
    · rfl
    · rintro ⟨key, hkey, -⟩
      exact not_mem_nil hkey
  | cons key keys ih =>
    have hfirst := updateContextLoglevel_moves flags outcome hown key (le_refl dltLogDefault)
      (show dltLogDefault ≤ dltLogVerbose by decide)
    obtain ⟨users', hown', -⟩ := hfirst.own hown
    have hrest := ih hown'
    rw [hfirst.ecuid] at hrest
    apply (hfirst.trans hrest).congr
    intro j ids level _
    have hnew : newLevel dltLogDefault level = dltLogDefault := if_neg (by decide)
    rw [hnew]
    by_cases hmatch : keyMatches s.daemon.ecuid key ids = true <;> simp [hmatch]

/-- **A device goes**: its contexts are reset, and the other devices are looked at. -/
theorem resetApplicationLoglevel_moves {storageHandle : List DltLogStorage}
    (hfilters : ∀ handle ∈ storageHandle, AllFilters handle.configList) {devNum : ℕ}
    (hget : storageHandle[devNum]? = some handle) (hready : handle.ready = true) :
    Moves s.daemon
      (dltDaemonLogstorageResetApplicationLoglevel flags outcome s storageHandle devNum).daemon l
      fun _ ids level => raise ((storageHandle.eraseIdx devNum).flatMap (readLevels s.daemon.ecuid ids))
        (if readLevels s.daemon.ecuid ids handle = [] then level else dltLogDefault) := by
  unfold dltDaemonLogstorageResetApplicationLoglevel
  rw [hget]
  simp only [if_pos hready]
  have hfirst := resetKeys_moves flags outcome hown handle.allKeys
  obtain ⟨users', hown', -⟩ := hfirst.own hown
  have hrest := updateDevices_moves flags outcome hown' (storageHandle.eraseIdx devNum)
    fun device hdevice => hfilters device (mem_of_mem_eraseIdx hdevice)
  rw [hfirst.ecuid] at hrest
  apply (hfirst.trans hrest).congr
  intro j ids level _
  have hnone : readLevels s.daemon.ecuid ids handle = [] ↔
      ∀ key ∈ handle.allKeys, ¬ keyMatches s.daemon.ecuid key ids = true := by
    rw [readLevels, if_pos hready, map_eq_nil_iff, filter_eq_nil_iff]
  congr 1
  by_cases hmatch : ∃ key ∈ handle.allKeys, keyMatches s.daemon.ecuid key ids = true
  · rw [if_pos hmatch, if_neg]
    obtain ⟨key, hkey, hmatch⟩ := hmatch
    exact fun hnil => hnone.mp hnil key hkey hmatch
  · rw [if_neg hmatch, if_pos]
    exact hnone.mpr fun key hkey hin => hmatch ⟨key, hkey, hin⟩

end

end running

/-! ## The invariant -/

/-- The own ECU has tables, the filters of the devices are as the configuration files have them, and the levels
agree. -/
structure StorageKept (s : StorageState Buf) : Prop where
  own : ∃ l users, Own s.levels.daemon l users
  filters : ∀ handle ∈ s.storageHandle, AllFilters handle.configList
  agree : LevelsAgree s

section invariant

variable {s s' : StorageState Buf} {l : ℕ} {users : DltDaemonRegisteredUsers} {devNum : ℕ} {handle : DltLogStorage}

theorem registeredContexts_eq (hown : Own s.levels.daemon l users) : s.registeredContexts = users.contexts := by
  rw [StorageState.registeredContexts, hown.find]
  simp only [hown.get, map_some, getD_some]

theorem ids_of_registered (hown : Own s.levels.daemon l users) {context : DltDaemonContext}
    (hin : context ∈ s.registeredContexts) : RegisteredIds context.ids := by
  rw [registeredContexts_eq hown] at hin
  obtain ⟨⟨hapid, hctid⟩, -⟩ := hown.users_registered.context_ids hin
  exact ⟨hapid, hctid⟩

/-- The levels of the contexts move with the levels that are configured. -/
theorem LevelsAgree.moves (h : LevelsAgree s) (hown : Own s.levels.daemon l users)
    {f : ℕ → Id4 × Id4 → ℤ → ℤ} (hmoves : Moves s.levels.daemon s'.levels.daemon l f)
    (hf : ∀ (j : ℕ), ∀ context ∈ s.registeredContexts,
      f j context.ids (configuredLevel s.levels.daemon.ecuid context.ids s.storageHandle) =
        configuredLevel s.levels.daemon.ecuid context.ids s'.storageHandle) :
    LevelsAgree s' := by
  obtain ⟨users', hown', -⟩ := hmoves.own hown
  intro context hin
  rw [registeredContexts_eq hown'] at hin
  obtain ⟨j, hj⟩ := mem_iff_getElem?.mp hin
  have hat : storageAt s'.levels.daemon l j = some (storageEntry context) := by
    rw [storageAt, hown'.get, bind_some, hj, map_some]
  rw [hmoves.storage, storageAt, hown.get] at hat
  obtain ⟨entry, hentry, heq⟩ := map_eq_some_iff.mp hat
  obtain ⟨old, hold, rfl⟩ := map_eq_some_iff.mp hentry
  have hold : old ∈ s.registeredContexts := by
    rw [registeredContexts_eq hown]
    exact mem_of_getElem? hold
  have hids : old.ids = context.ids := congrArg Prod.fst heq
  have hlevel : f j old.ids old.storageLogLevel = context.storageLogLevel := congrArg Prod.snd heq
  rw [← hlevel, h old hold, hf j old hold, hmoves.ecuid, hids]

theorem LevelsAgree.devices (h : LevelsAgree s) {storageHandle : List DltLogStorage}
    (hsame : ∀ context ∈ s.registeredContexts,
      configuredLevel s.levels.daemon.ecuid context.ids s.storageHandle =
        configuredLevel s.levels.daemon.ecuid context.ids storageHandle) :
    LevelsAgree { s with storageHandle := storageHandle } := by
  intro context hin
  exact (h context hin).trans (hsame context hin)

theorem LevelsAgree.shrinks (h : LevelsAgree s) (hown : Own s.levels.daemon l users)
    (hown' : ∃ users', Own s'.levels.daemon l users') (hshrinks : Shrinks s.levels.daemon s'.levels.daemon l)
    (hdevices : s'.storageHandle = s.storageHandle) : LevelsAgree s' := by
  obtain ⟨users', hown'⟩ := hown'
  intro context hin
  rw [registeredContexts_eq hown'] at hin
  obtain ⟨j, hj⟩ := mem_iff_getElem?.mp hin
  have hat : storageAt s'.levels.daemon l j = some (storageEntry context) := by
    rw [storageAt, hown'.get, bind_some, hj, map_some]
  obtain ⟨i, hi⟩ := hshrinks.entries j _ hat
  rw [storageAt, hown.get] at hi
  obtain ⟨old, hold, hentry⟩ := map_eq_some_iff.mp hi
  have hold : old ∈ s.registeredContexts := by
    rw [registeredContexts_eq hown]
    exact mem_of_getElem? hold
  have hids : old.ids = context.ids := congrArg Prod.fst hentry
  have hlevel : old.storageLogLevel = context.storageLogLevel := congrArg Prod.snd hentry
  rw [← hlevel, h old hold, hdevices, hshrinks.ecuid, hids]

theorem filters_set (h : ∀ handle ∈ s.storageHandle, AllFilters handle.configList) {new : DltLogStorage}
    (hnew : AllFilters new.configList) :
    ∀ handle ∈ s.storageHandle.set devNum new, AllFilters handle.configList := by
  intro device hdevice
  rcases mem_or_eq_of_mem_set hdevice with hdevice | rfl
  · exact h device hdevice
  · exact hnew

/-- **A device connects.** -/
theorem StorageKept.connect (h : StorageKept s) (flags : LevelFlags) {file : Option (List Section)}
    {outcome : ℕ → WriteOutcome} (hmeets : (StorageOp.connect devNum file outcome).KeepsLevels s) :
    StorageKept (s.connect flags devNum file outcome) := by
  obtain ⟨l, users, hown⟩ := h.own
  obtain ⟨hneeded, hfile⟩ := hmeets
  unfold StorageState.connect
  cases hget : s.storageHandle[devNum]? with
  | none => exact h
  | some handle =>
    have hfilters := deviceConnected_filters (h.filters handle (mem_of_getElem? hget)) file
    have hcases := deviceConnected_cases handle file
    have hneeded := hneeded handle hget
    have hfile := hfile handle hget
    dsimp only
    generalize dltLogstorageDeviceConnected handle file = connected at hfilters hcases hfile ⊢
    -- without the old configuration the level is the one of the other devices
    have hothers : ∀ context ∈ s.registeredContexts,
        configuredLevel s.levels.daemon.ecuid context.ids s.storageHandle =
          configuredLevel s.levels.daemon.ecuid context.ids (s.storageHandle.eraseIdx devNum) := by
      intro context hin
      rw [configuredLevel_eq_max hget]
      exact max_eq_right (hneeded context hin)
    split_ifs with hresult
    · refine ⟨⟨l, users, hown⟩, filters_set h.filters hfilters, ?_⟩
      apply h.agree.devices
      intro context hin
      rw [hothers context hin]
      rcases hcases with hdone | hwarning | herror
      · exact absurd hdone.1 hresult
      · rw [configuredLevel_set hget]
        exact (max_eq_right ((hfile context hin).1 hwarning.1)).symm
      · exact (configuredLevel_set_not_ready hget herror.2).symm
    · have hresult : connected.2 = 0 := not_not.mp hresult
      have hmoves := updateApplicationLoglevel_moves (StorageState.flags { s with
          storageHandle := s.storageHandle.set devNum connected.1
          maintainLogstorageLoglevel :=
            connected.1.maintainLogstorageLoglevel.getD s.maintainLogstorageLoglevel } flags) outcome hown hfilters
      obtain ⟨users', hown', -⟩ := hmoves.own hown
      refine ⟨⟨l, users', hown'⟩, filters_set h.filters hfilters, ?_⟩
      apply h.agree.moves hown hmoves
      intro j context hin
      show raise _ _ = configuredLevel _ _ (s.storageHandle.set devNum connected.1)
      rw [configuredLevel_set hget, hothers context hin, raise_eq_max dltLogDefault_le_configuredLevel,
        readsAlike hfilters (ids_of_registered hown hin) fun _ => (hfile context hin).2 hresult, max_comm]

/-- **A device is disconnected on request.** -/
theorem StorageKept.disconnect (h : StorageKept s) (flags : LevelFlags) {outcome : ℕ → WriteOutcome}
    (hmeets : (StorageOp.disconnect devNum outcome).KeepsLevels s) :
    StorageKept (s.disconnect flags devNum outcome) := by
  obtain ⟨l, users, hown⟩ := h.own
  unfold StorageState.disconnect
  cases hget : s.storageHandle[devNum]? with
  | none =>
    rw [modify_eq_set_getElem?, dltDaemonLogstorageResetApplicationLoglevel, hget]
    exact h
  | some handle =>
    have hfilters := h.filters handle (mem_of_getElem? hget)
    rw [modify_eq_set hget]
    have hset : ∀ ids, configuredLevel s.levels.daemon.ecuid ids
        (s.storageHandle.set devNum (dltLogstorageDeviceDisconnected handle)) =
          configuredLevel s.levels.daemon.ecuid ids (s.storageHandle.eraseIdx devNum) :=
      fun ids => configuredLevel_set_not_ready hget (deviceDisconnected_ready handle)
    by_cases hready : handle.ready = true
    · have hmoves := resetApplicationLoglevel_moves (s.flags flags) outcome hown h.filters hget hready
      have halike : ∀ context ∈ s.registeredContexts, ∀ device ∈ s.storageHandle,
          ReadsAlike s.levels.daemon.ecuid context.ids device := by
        intro context hin device hdevice
        exact readsAlike (h.filters device hdevice) (ids_of_registered hown hin)
          (hmeets ⟨handle, hget, hready⟩ context hin device hdevice)
      obtain ⟨users', hown', -⟩ := hmoves.own hown
      refine ⟨⟨l, users', hown'⟩, filters_set h.filters (deviceDisconnected_filters hfilters), ?_⟩
      apply h.agree.moves hown hmoves
      intro j context hin
      have hothers : raise ((s.storageHandle.eraseIdx devNum).flatMap (readLevels s.levels.daemon.ecuid context.ids))
          dltLogDefault = configuredLevel s.levels.daemon.ecuid context.ids (s.storageHandle.eraseIdx devNum) :=
        raise_readLevels fun device hdevice => halike context hin device (mem_of_mem_eraseIdx hdevice)
      show raise _ _ = configuredLevel _ _ (s.storageHandle.set devNum _)
      rw [hset]
      split_ifs with hnone
      · -- no key of the device is read for the context, so none is found for it
        have hdevice := halike context hin handle (mem_of_getElem? hget)
        rw [ReadsAlike, hnone, raise_nil] at hdevice
        rw [configuredLevel_eq_max hget, ← hdevice, max_eq_right dltLogDefault_le_configuredLevel,
          raise_eq_max dltLogDefault_le_configuredLevel, hothers, max_self]
      · exact hothers
    · rw [dltDaemonLogstorageResetApplicationLoglevel, hget]
      simp only [if_neg hready]
      refine ⟨⟨l, users, hown⟩, filters_set h.filters (deviceDisconnected_filters hfilters), ?_⟩
      apply h.agree.devices
      intro context hin
      rw [hset, configuredLevel_eq_max hget, configuredLevels_of_not_ready (Bool.eq_false_iff.mpr hready)]
      exact max_eq_right dltLogDefault_le_configuredLevel

/-- **A device cannot be written to.** -/
theorem StorageKept.writeErrors (h : StorageKept s) (hmeets : (StorageOp.writeErrors devNum).KeepsLevels s) :
    StorageKept (s.writeErrors devNum) := by
  obtain ⟨l, users, hown⟩ := h.own
  unfold StorageState.writeErrors
  cases hget : s.storageHandle[devNum]? with
  | none =>
    rw [modify_eq_set_getElem?, hget]
    exact h
  | some handle =>
    have hfilters := h.filters handle (mem_of_getElem? hget)
    rw [modify_eq_set hget]
    by_cases hconfigured : handle.configured = true
    · rw [if_pos hconfigured]
      refine ⟨⟨l, users, hown⟩, filters_set h.filters (deviceDisconnected_filters hfilters), ?_⟩
      apply h.agree.devices
      intro context hin
      rw [configuredLevel_set_not_ready hget (deviceDisconnected_ready handle), configuredLevel_eq_max hget]
      exact max_eq_right (hmeets handle hget context hin)
    · obtain ⟨hlt, hself⟩ := List.getElem?_eq_some_iff.mp hget
      rw [if_neg hconfigured, ← hself, set_getElem_self]
      exact h

theorem configuredLevel_le (h : ∀ handle ∈ s.storageHandle, AllFilters handle.configList) (ecuid : Id4)
    (ids : Id4 × Id4) : configuredLevel ecuid ids s.storageHandle ≤ dltLogVerbose := by
  rw [configuredLevel, raise_le_iff]
  refine ⟨by decide, ?_⟩
  intro level hlevel
  obtain ⟨handle, hhandle, hlevel⟩ := mem_flatMap.mp hlevel
  obtain ⟨config, hconfig, rfl⟩ := mem_map.mp hlevel
  unfold getConfig at hconfig
  split_ifs at hconfig
  · exact ((h handle hhandle).config hconfig).2.2
  · exact absurd hconfig not_mem_nil

theorem configuredLevel_dltSetId (ecuid apid ctid : Id4) (storageHandle : List DltLogStorage) :
    configuredLevel ecuid (apid, dltSetId ctid.bytes) storageHandle =
      configuredLevel ecuid (apid, ctid) storageHandle := by
  have hid : idString (dltSetId ctid.bytes) = idString ctid := idText_idText ctid.bytes
  unfold configuredLevel configuredLevels getConfig dltLogstorageGetConfig
  simp only [hid]

section

variable (h : StorageKept s)
include h

/-- A context that registers gets the level that is configured for it. -/
theorem registeredStorageLevel_eq (flags : LevelFlags) (hlength : s.storageHandle.length < 128) (apid ctid : Id4) :
    registeredStorageLevel (s.flags flags) apid ctid =
      configuredLevel s.levels.daemon.ecuid (apid, ctid) s.storageHandle := by
  have hlow : dltLogDefault ≤ configuredLevel s.levels.daemon.ecuid (apid, ctid) s.storageHandle :=
    dltLogDefault_le_configuredLevel
  have hhigh := configuredLevel_le h.filters s.levels.daemon.ecuid (apid, ctid)
  show (if s.storageHandle.length ≠ 0 then i8 (dltDaemonLogstorageGetLoglevel s.storageHandle s.levels.daemon.ecuid
    (i8 s.storageHandle.length) apid ctid) else dltLogDefault) = _
  by_cases hne : s.storageHandle = []
  · rw [hne]
    rfl
  · rw [if_pos (fun hzero => hne (length_eq_zero_iff.mp hzero)), getLoglevel_eq h.filters hlength hne]
    exact i8_of_range (le_trans (by decide) hlow) (lt_of_le_of_lt hhigh (by decide))

/-- **A context registers.** -/
theorem StorageKept.registerContext (flags : LevelFlags) {malloc : Malloc} {slot : DltDaemonContext}
    {userctxt : DltUserControlMsgRegisterContext} {description : List UInt8} {write : WriteOutcome}
    (hmeets : (StorageOp.registerContext malloc slot userctxt description write).KeepsLevels s) :
    StorageKept (storageStep flags s (.registerContext malloc slot userctxt description write)) := by
  obtain ⟨l, users, hown⟩ := h.own
  obtain ⟨hecuid, users', hown', hcontexts⟩ := registerContext_storage (s.flags flags) hown hmeets.1 malloc slot
    description write
  refine ⟨⟨l, users', hown'⟩, h.filters, ?_⟩
  intro context hin
  have hstep : Own (storageStep flags s
      (.registerContext malloc slot userctxt description write)).levels.daemon l users' := hown'
  rw [registeredContexts_eq hstep] at hin
  show context.storageLogLevel =
    configuredLevel (Daemon.registerContext _ malloc slot _ _ _ write).1.daemon.ecuid context.ids s.storageHandle
  rw [hecuid]
  rcases hcontexts context hin with ⟨old, hold, hentry⟩ | hnew
  · have hids : old.ids = context.ids := congrArg Prod.fst hentry
    have hlevel : old.storageLogLevel = context.storageLogLevel := congrArg Prod.snd hentry
    rw [← hids, ← hlevel]
    apply h.agree
    rw [registeredContexts_eq hown]
    exact hold
  · have hids : context.ids = (userctxt.apid, dltSetId userctxt.ctid.bytes) := congrArg Prod.fst hnew
    have hlevel : context.storageLogLevel = registeredStorageLevel (s.flags flags) userctxt.apid userctxt.ctid :=
      congrArg Prod.snd hnew
    rw [hids, hlevel, configuredLevel_dltSetId, registeredStorageLevel_eq h flags hmeets.2.1]

theorem StorageKept.shrinks {daemon : DltDaemon Buf} (hr : AllRegistered daemon)
    (hshrinks : ∀ l, Shrinks s.levels.daemon daemon l) :
    StorageKept { s with levels := { s.levels with daemon := daemon } } := by
  obtain ⟨l, users, hown⟩ := h.own
  obtain ⟨users', hown'⟩ := (hshrinks l).own hown hr
  refine ⟨⟨l, users', hown'⟩, h.filters, ?_⟩
  exact h.agree.shrinks hown ⟨users', hown'⟩ (hshrinks l) rfl

/-- **Every event keeps the invariant**, if it meets the condition. -/
theorem storageKept_step (flags : LevelFlags) {op : StorageOp} (hmeets : op.KeepsLevels s) :
    StorageKept (storageStep flags s op) := by
  have hregistered : AllRegistered s.levels.daemon := by
    obtain ⟨l, users, hown⟩ := h.own
    exact hown.registered
  cases op with
  | connect devNum file outcome => exact h.connect flags hmeets
  | disconnect devNum outcome => exact h.disconnect flags hmeets
  | writeErrors devNum => exact h.writeErrors hmeets
  | registerApplication malloc ipc apid pid description fd =>
    apply h.shrinks
    · exact allRegistered_applicationAdd hregistered hmeets.1 ipc hmeets.2 pid description fd _
    · exact fun l => shrinks_applicationAdd malloc ipc apid pid description fd _
  | registerContext malloc slot userctxt description write => exact h.registerContext flags hmeets
  | unregisterApplication apid =>
    apply h.shrinks
    · exact allRegistered_unregisterApplication hregistered apid
    · exact fun l => shrinks_unregisterApplication apid
  | unregisterContext apid ctid =>
    apply h.shrinks
    · exact allRegistered_unregisterContext hregistered apid ctid
    · exact fun l => shrinks_unregisterContext apid ctid

end

theorem storageKept_start (h : StorageStart s) : StorageKept s := by
  have hlevels : ∀ ids, s.storageHandle.flatMap (configuredLevels s.levels.daemon.ecuid ids) = [] := by
    intro ids
    rw [flatMap_eq_nil_iff]
    intro handle hhandle
    apply configuredLevels_of_not_ready
    rw [ready, (h.devices handle hhandle).1, Bool.false_and]
  refine ⟨h.own, ?_, ?_⟩
  · intro handle hhandle node hnode
    rw [(h.devices handle hhandle).2] at hnode
    exact absurd hnode not_mem_nil
  · intro context hin
    rw [h.contexts context hin, configuredLevel, hlevels]
    rfl

end invariant

/-! ## Runs -/

def sampleDevice : DltLogStorage := ⟨false, false, [], none⟩

/-- No application is registered, and there are two devices. -/
def sampleStorage : StorageState Unit := ⟨⟨emptyDaemon, [], []⟩, [sampleDevice, sampleDevice], true⟩

/-- A filter for all contexts of the ECU. -/
def sampleFilter (logLevel : ℤ) (hlevel : 1 ≤ logLevel ∧ logLevel ≤ dltLogVerbose) : Section :=
  .filter ⟨⟨none, none, some (dltSetId (ascii "ECU1")), logLevel, some (ascii "log")⟩, rfl, hlevel⟩

/-- The application `LOG` registers. -/
def sampleApplicationOp : StorageOp :=
  .registerApplication zeroMalloc ⟨true, false, fun _ => -1⟩ (dltSetId (ascii "LOG")) 17 none 5

/-- Its context `TEST` registers. -/
def sampleContextOp : StorageOp :=
  .registerContext zeroMalloc sampleSlot
    ⟨dltSetId (ascii "LOG"), dltSetId (ascii "TEST"), 0, -1, -1, 17, 0⟩ [] .ok

theorem sampleStorage_start : StorageStart sampleStorage := by
  refine ⟨⟨0, _, ?_, rfl, rfl⟩, ?_, ?_⟩
  · have hreach : DbReach emptyDaemon := by
      apply DbReach.start
      intro users hin
      rw [mem_singleton.mp hin]
      exact ⟨rfl, rfl, rfl, rfl, rfl, rfl⟩
    exact hreach.allRegistered
  · decide
  · exact fun context hin => absurd hin not_mem_nil

instance (s : StorageState Buf) : Decidable (LevelsAgree s) :=
  inferInstanceAs (Decidable (∀ context ∈ s.registeredContexts, _))

/-- A device connects with a filter of level 5. -/
def sampleFirstDevice : StorageOp := .connect 0 (some [sampleFilter 5 (by decide)]) fun _ => .ok

/-- Another device connects with a filter of level 3. -/
def sampleSecondDevice : StorageOp := .connect 1 (some [sampleFilter 3 (by decide)]) fun _ => .ok

def sampleAfter (ops : List StorageOp) : StorageState Unit := ops.foldl (storageStep (sampleFlags false)) sampleStorage

/-- A filter for the whole ECU is read for the context `TEST` of the application `LOG`. -/
theorem plainlyRead_sample {ecuid : Id4} {ids : Id4 × Id4} {configs : List DltLogStorageFilterConfig}
    (h : ecuid = dltSetId (ascii "ECU1") ∧ ids = (dltSetId (ascii "LOG"), dltSetId (ascii "TEST")) ∧
      ∀ config ∈ configs, (config.apids, config.ctids, config.ecuid) = (none, none, some (dltSetId (ascii "ECU1")))) :
    PlainlyRead ecuid ids configs := by
  obtain ⟨rfl, rfl, h⟩ := h
  have hplain : PlainId (idString (dltSetId (ascii "ECU1"))) := ⟨by decide, by decide⟩
  have hkeys : ∀ level fileName,
      PlainFilterKeys ⟨none, none, some (dltSetId (ascii "ECU1")), level, fileName⟩ ∧
        answers ⟨none, none, some (dltSetId (ascii "ECU1")), level, fileName⟩
          (questions (contextMessage (dltSetId (ascii "ECU1"))
              (dltSetId (ascii "LOG"), dltSetId (ascii "TEST")))) ≤ 1 := by
    intro level fileName
    refine ⟨⟨?_, ?_, ?_⟩, show (_ : ℕ) ≤ 1 from Nat.le_of_eq rfl⟩
    · exact fun name hname => absurd hname not_mem_nil
    · rintro ecuid ⟨⟩
      exact hplain
    · rintro ⟨⟩
  have hconfig : ∀ config ∈ configs, PlainFilterKeys config ∧ answers config
      (questions (contextMessage (dltSetId (ascii "ECU1")) (dltSetId (ascii "LOG"), dltSetId (ascii "TEST")))) ≤ 1 := by
    rintro ⟨_, _, _, level, fileName⟩ hconfig
    cases h _ hconfig
    exact hkeys level fileName
  exact .of_one hplain (by decide) (fun config hin => (hconfig config hin).1) fun config hin => (hconfig config hin).2

end Dlt.Daemon
