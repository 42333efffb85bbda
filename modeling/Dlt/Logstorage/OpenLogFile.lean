import Dlt.Logstorage.FileNames

/-!
# Opening the next log file

* `openLogFile_atomic_iff` — **opening is atomic** if and only if this holds.

A record is used after it was freed when the only record was removed and `fopen` failed; this is `none`.
-/

namespace Dlt.Logstorage.Files

open Dlt.Lib Dlt.Devices List Option Directory

/-! ## The code -/

/-- A filter, with what opening a log file reads and writes. The log file that is open is a position in the files of the
device. Source: `dlt_offline_logstorage.h`, `DltLogStorageFilterConfig` -/
structure FileConfig where
  fileName : List UInt8
  workingFileName : Option (List UInt8)
  wrapId : ℕ
  fileSize : ℕ
  numFiles : ℕ
  records : List FileRecord
  log : Option ℕ
  currentWriteFileOffset : ℕ

structure FilterFiles where
  files : DeviceFiles
  config : FileConfig

/-- `DLT_OFFLINE_LOGSTORAGE_CONFIG_DIR_PATH_LEN`. Source: `dlt_offline_logstorage.h` -/
def dltOfflineLogstorageConfigDirPathLen : ℕ := 50

/-- The path of the device with a slash, as far as it fits. -/
def storagePath (devPath : List UInt8) : List UInt8 :=
  (devPath ++ [47]).take (dltOfflineLogstorageConfigDirPathLen - 1)

/-- `stat`, with the size of the file. -/
def stat (succeeds : Bool) (files : DeviceFiles) (path : List UInt8) : Option ℕ :=
  if succeeds then (files.lookup path).map fun f => f.content.length else none

/-- `fopen` with `a+`. -/
def fopen (env : OpenEnv) (files : DeviceFiles) (path : List UInt8) : DeviceFiles × Option ℕ :=
  if env.opens then ((files.openCreate env.now path).1, some (files.openCreate env.now path).2) else (files, none)

/-- There is room for a message in a file of a size. -/
def hasRoom (fileSize : ℕ) (msgSize : ℤ) (size : ℕ) : Bool := (size : ℤ) + msgSize ≤ i32 fileSize

section code

variable (env : OpenEnv) (fileConfig : DltLogStorageUserConfig) (storage : List UInt8)

/-- The index of the next file, and how often the indices have wrapped around. -/
def nextIndex (working : List UInt8) (wrapId : ℕ) : ℕ × ℕ :=
  let idx := (dltLogstorageGetIdxOfLogFile fileConfig working + 1) % 4294967296
  if idx > fileConfig.logfileMaxcounter ∨ idx = 0 then (1, (wrapId + 1) % 4294967296) else (idx, wrapId)

/-- The name of the file with an index. -/
def nameOf (config : FileConfig) (idx : ℕ) : List UInt8 :=
  dltLogstorageLogFileName fileConfig config.fileName env.stamp (i32 idx)

/-- The first file of the filter is opened. -/
def openFirst (s : FilterFiles) : FilterFiles × ℤ :=
  let fileName := nameOf env fileConfig s.config 1
  let opened := fopen env s.files (filePath storage fileName)
  let config := { s.config with workingFileName := some fileName, log := opened.2 }
  if !env.mallocsNew then (⟨opened.1, config⟩, -1)
  else if opened.2 = none then (⟨opened.1, { config with workingFileName := none }⟩, -1)
  else (⟨opened.1, { config with records := [⟨fileName, 1⟩] }⟩, 0)

def openWorking (path : List UInt8) (size : ℕ) (s : FilterFiles) : FilterFiles × ℤ :=
  let opened := fopen env s.files path
  let config := { s.config with log := opened.2, currentWriteFileOffset := size % 4294967296 }
  if opened.2 = none then (⟨opened.1, { config with workingFileName := none }⟩, -1) else (⟨opened.1, config⟩, 0)

/-- The next file is removed first: the indices have wrapped around, and it is there. -/
def removesNext (files : DeviceFiles) (wrapId : ℕ) (path : List UInt8) : Bool :=
  wrapId ≠ 0 && (stat env.statsNext files path).isSome

/-- The oldest file is removed: with the next one there are more files than configured. -/
def dropsOldest (config : FileConfig) (removes : Bool) : Bool :=
  (if removes then config.records.length - 1 else config.records.length) + 1 > config.numFiles

/-- The next file is opened; `ret` is the result of `stat` for the working file. -/
def openNext (ret : ℤ) (working : List UInt8) (s : FilterFiles) : Option (FilterFiles × ℤ) :=
  let next := nextIndex fileConfig working s.config.wrapId
  let fileName := nameOf env fileConfig s.config next.1
  let path := filePath storage fileName
  let removes := removesNext env s.files next.2 path
  let opened := fopen env (if removes then s.files.unlink path else s.files) path
  let config := { s.config with workingFileName := some fileName, wrapId := next.2, log := opened.2 }
  if !env.mallocsNew then some (⟨opened.1, config⟩, -1)
  else
    let records := s.config.records ++ [⟨fileName, next.1⟩]
    match s.config.records with
    | oldest :: others =>
      if dropsOldest s.config removes then
        -- the oldest file is removed
        let files := opened.1.unlink (filePath storage oldest.name)
        if opened.2 = none then
          if others = [] then none
          else some (⟨files, { config with records := others, workingFileName := none }⟩, -1)
        else some (⟨files, { config with records := records.tail }⟩, ret)
      else if opened.2 = none then some (⟨opened.1, { config with workingFileName := none }⟩, -1)
      else some (⟨opened.1, { config with records }⟩, ret)
    | [] => none

def workingName (config : FileConfig) (newest : FileRecord) : List UInt8 :=
  if config.wrapId = 0 then newest.name else config.workingFileName.getD newest.name

/-- The records that a log file is opened with, and whether they could be read. -/
def knownRecords (isUpdateRequired : Bool) (s : FilterFiles) : List FileRecord × Bool :=
  if s.config.records = [] ∨ isUpdateRequired then
    dltLogstorageStorageDirInfo env fileConfig storage s.config.fileName s.files s.config.records
  else (s.config.records, true)

end code

/-- Source: `dlt_offline_logstorage_behavior.c`, `dlt_logstorage_open_log_file` -/
def dltLogstorageOpenLogFile (env : OpenEnv) (fileConfig : DltLogStorageUserConfig) (devPath : List UInt8) (msgSize : ℤ)
    (isUpdateRequired : Bool) (s : FilterFiles) : Option (FilterFiles × ℤ) :=
  if devPath.length > dltOfflineLogstorageConfigDirPathLen then some (s, -1)
  else
    let storage := storagePath devPath
    let known := knownRecords env fileConfig storage isUpdateRequired s
    let s := { s with config := { s.config with records := known.1 } }
    if !known.2 then some (s, -1)
    else
      match known.1.getLast? with
      | none => some (openFirst env fileConfig storage s)
      | some newest =>
        let working := workingName s.config newest
        let s := { s with config := { s.config with workingFileName := some working } }
        match stat env.statsWorking s.files (filePath storage working) with
        | some size =>
          if hasRoom s.config.fileSize msgSize size then some (openWorking env (filePath storage working) size s)
          else openNext env fileConfig storage 0 working s
        | none => openNext env fileConfig storage (-1) working s

/-! ## Atomic opening -/

/-- A log file is open that the directory has. It is new, or there is room for the message. -/
def OpenWithRoom (fileSize : ℕ) (msgSize : ℤ) (files : DeviceFiles) (s' : FilterFiles) : Prop :=
  ∃ (i : ℕ) (f : File (List UInt8) UInt8), s'.config.log = some i ∧ s'.files[i]? = some f ∧ f.linked = true ∧
    (files.length ≤ i ∨ hasRoom fileSize msgSize f.content.length = true)

def KeepsFiles (files files' : DeviceFiles) : Prop :=
  ∀ (i : ℕ) (f : File (List UInt8) UInt8), files[i]? = some f → files'[i]? = some f

/-- The records name exactly the files of the filter. -/
def Listed (fileConfig : DltLogStorageUserConfig) (devPath fileName : List UInt8) (records : List FileRecord)
    (files : DeviceFiles) : Prop :=
  ∀ name, name ∈ records.map FileRecord.name ↔ name ∈ filesOf fileConfig fileName devPath files

/-- **A call is atomic**: when it begins there are some files, and it ends in a state with a result. -/
structure Atomic (fileConfig : DltLogStorageUserConfig) (devPath : List UInt8) (fileSize : ℕ) (msgSize : ℤ)
    (files : DeviceFiles) (s' : FilterFiles) (ret : ℤ) : Prop where
  opened : ret = 0 ↔ OpenWithRoom fileSize msgSize files s'
  keepsFiles : ret = -1 → KeepsFiles files s'.files
  listed : ret = -1 → Listed fileConfig devPath s'.config.fileName s'.config.records s'.files
  closed : ret = -1 → s'.config.log = none

/-! ## The condition -/

section condition

variable (env : OpenEnv) (fileConfig : DltLogStorageUserConfig) (devPath : List UInt8) (msgSize : ℤ)

/-- If there is a file at a path, there is room for the message in it. -/
def Room (fileSize : ℕ) (files : DeviceFiles) (path : List UInt8) : Prop :=
  ∀ f, files.lookup path = some f → hasRoom fileSize msgSize f.content.length = true

/-- The first file can be opened. -/
def FirstSound (s : FilterFiles) : Prop :=
  if env.opens then
    env.mallocsNew = true ∧
      Room msgSize s.config.fileSize s.files (filePath (storagePath devPath) (nameOf env fileConfig s.config 1))
  else Listed fileConfig devPath s.config.fileName [] s.files

/-- The next file can be opened: the working file could be looked at, the next file is removed first or there is room in
it, and it is not the oldest that is removed. Or it cannot be opened, and nothing is removed. -/
def NextSound (stated : Bool) (working : List UInt8) (s : FilterFiles) : Prop :=
  let next := nextIndex fileConfig working s.config.wrapId
  let path := filePath (storagePath devPath) (nameOf env fileConfig s.config next.1)
  let removes := removesNext env s.files next.2 path
  let oldest := (s.config.records.head?.map fun record => filePath (storagePath devPath) record.name).getD []
  let drops := dropsOldest s.config removes
  if env.opens then
    stated = true ∧ env.mallocsNew = true ∧ (removes = true ∨ Room msgSize s.config.fileSize s.files path) ∧
      (drops = true → oldest ≠ path)
  else
    removes = false ∧
      if env.mallocsNew && drops then
        s.config.records.tail ≠ [] ∧ s.files.has oldest = false ∧
          Listed fileConfig devPath s.config.fileName s.config.records.tail s.files
      else Listed fileConfig devPath s.config.fileName s.config.records s.files

/-- **What atomic opening depends on.** If the records cannot be read, no file is open and they are right. -/
def Sound (isUpdateRequired : Bool) (s : FilterFiles) : Prop :=
  let known :=
    if devPath.length > dltOfflineLogstorageConfigDirPathLen then (s.config.records, false)
    else knownRecords env fileConfig (storagePath devPath) isUpdateRequired s
  let s := { s with config := { s.config with records := known.1 } }
  if known.2 then
    match known.1.getLast? with
    | none => FirstSound env fileConfig devPath msgSize s
    | some newest =>
      let working := workingName s.config newest
      match stat env.statsWorking s.files (filePath (storagePath devPath) working) with
      | some size =>
        if hasRoom s.config.fileSize msgSize size then
          env.opens = true ∨ Listed fileConfig devPath s.config.fileName s.config.records s.files
        else NextSound env fileConfig devPath msgSize true working s
      | none => NextSound env fileConfig devPath msgSize false working s
  else s.config.log = none ∧ Listed fileConfig devPath s.config.fileName known.1 s.files

end condition

/-! ## Results -/

section results

variable {env : OpenEnv} {fileConfig : DltLogStorageUserConfig} {devPath path : List UInt8} {fileSize : ℕ} {msgSize : ℤ}
  {files files' : DeviceFiles} {s s' : FilterFiles}

theorem exists_some_iff {α β : Type} {a : α} {b : β} {p : α → β → Prop} :
    (∃ x y, some (a, b) = some (x, y) ∧ p x y) ↔ p a b := by
  constructor
  · rintro ⟨x, y, heq, hp⟩
    cases heq
    exact hp
  · exact fun hp => ⟨a, b, rfl, hp⟩

theorem not_openWithRoom_of_closed (h : s'.config.log = none) : ¬ OpenWithRoom fileSize msgSize files s' := by
  rintro ⟨i, f, hlog, -⟩
  rw [h] at hlog
  cases hlog

/-- A failing call without an open file. -/
theorem atomic_failed_iff (h : s'.config.log = none) :
    Atomic fileConfig devPath fileSize msgSize files s' (-1) ↔
      KeepsFiles files s'.files ∧ Listed fileConfig devPath s'.config.fileName s'.config.records s'.files := by
  constructor
  · exact fun hatomic => ⟨hatomic.keepsFiles rfl, hatomic.listed rfl⟩
  · rintro ⟨hkeeps, hlisted⟩
    exact ⟨iff_of_false (by decide) (not_openWithRoom_of_closed h), fun _ => hkeeps, fun _ => hlisted, fun _ => h⟩

/-- A failing call with an open file. -/
theorem not_atomic_failed {i : ℕ} (h : s'.config.log = some i) :
    ¬ Atomic fileConfig devPath fileSize msgSize files s' (-1) := by
  intro hatomic
  have hclosed := hatomic.closed rfl
  rw [h] at hclosed
  cases hclosed

theorem atomic_ok_iff :
    Atomic fileConfig devPath fileSize msgSize files s' 0 ↔ OpenWithRoom fileSize msgSize files s' := by
  constructor
  · exact fun hatomic => hatomic.opened.mp rfl
  · exact fun hopen => ⟨iff_of_true rfl hopen, nofun, nofun, nofun⟩

theorem openWithRoom_iff {i : ℕ} {f : File (List UInt8) UInt8} (hlog : s'.config.log = some i)
    (hf : s'.files[i]? = some f) :
    OpenWithRoom fileSize msgSize files s' ↔
      f.linked = true ∧ (files.length ≤ i ∨ hasRoom fileSize msgSize f.content.length = true) := by
  constructor
  · rintro ⟨i', f', hlog', hf', hlinked, hroom⟩
    obtain rfl := Option.some.inj (hlog.symm.trans hlog')
    obtain rfl := Option.some.inj (hf.symm.trans hf')
    exact ⟨hlinked, hroom⟩
  · rintro ⟨hlinked, hroom⟩
    exact ⟨i, f, hlog, hf, hlinked, hroom⟩

theorem keepsFiles_unlink_iff : KeepsFiles files (files.unlink path) ↔ files.has path = false := by
  constructor
  · intro hkeeps
    by_contra hhas
    obtain ⟨i, f, hf, hlinked, hunlinked⟩ := exists_unlinked (Bool.eq_true_of_not_eq_false hhas)
    have hlinked' := congrArg File.linked (Option.some.inj ((hkeeps i f hf).symm.trans hunlinked))
    rw [hlinked] at hlinked'
    cases hlinked'
  · intro hhas
    rw [unlink_of_not_has hhas]
    exact fun _ _ hf => hf

/-- A file that was removed is not brought back by removing another. -/
theorem not_keepsFiles_unlink (h : files.has path = true) (other : List UInt8) :
    ¬ KeepsFiles files ((files.unlink path).unlink other) := by
  intro hkeeps
  obtain ⟨i, f, hf, hlinked, hunlinked⟩ := exists_unlinked h
  have hkept := hkeeps i f hf
  rw [getElem?_unlink, hunlinked, map_some] at hkept
  have hlinked' := congrArg File.linked (Option.some.inj hkept)
  rw [hlinked] at hlinked'
  cases hlinked'

theorem has_of_removesNext {wrapId : ℕ} (h : removesNext env files wrapId path = true) : files.has path = true := by
  unfold removesNext stat at h
  rw [Bool.and_eq_true] at h
  by_cases hstats : env.statsNext = true
  · rw [if_pos hstats, isSome_map, Directory.lookup, isSome_find?] at h
    exact h.2
  · rw [if_neg hstats] at h
    cases h.2

/-- **A file that is opened** is new, or it is the one that was there. -/
theorem openWithRoom_openCreate_iff {config : FileConfig} {now : ℤ}
    (hlog : config.log = some (files'.openCreate now path).2) (hlength : files'.length = files.length) :
    OpenWithRoom fileSize msgSize files ⟨(files'.openCreate now path).1, config⟩ ↔
      Room msgSize fileSize files' path := by
  obtain ⟨f, hf, hlinked, -, ⟨hnone, hi⟩ | ⟨hsome, hi⟩⟩ := openCreate_lookup files' now path
  · rw [openWithRoom_iff hlog hf]
    refine iff_of_true ⟨hlinked, .inl ?_⟩ fun f hf => ?_
    · rw [hi, hlength]
    · rw [hnone] at hf
      cases hf
  · rw [openWithRoom_iff hlog hf]
    constructor
    · rintro ⟨-, hle | hroom⟩ f' hf'
      · omega
      · rw [hsome] at hf'
        cases hf'
        exact hroom
    · exact fun hroom => ⟨hlinked, .inr (hroom f hsome)⟩

theorem room_removed (removes : Bool) :
    Room msgSize fileSize (if removes then files.unlink path else files) path ↔
      removes = true ∨ Room msgSize fileSize files path := by
  cases removes with
  | false => simp
  | true =>
    refine iff_of_true (fun f hf => ?_) (.inl rfl)
    have hfound := find?_some hf
    obtain ⟨g, -, hg⟩ := mem_map.mp (mem_of_find?_eq_some hf)
    rw [← hg] at hfound
    split_ifs at hfound with hname
    · cases hfound
    · exact absurd hfound hname

/-- Another file is removed then. -/
theorem openWithRoom_unlink_iff {config : FileConfig} {now : ℤ}
    (hlog : config.log = some (files'.openCreate now path).2) (other : List UInt8) :
    OpenWithRoom fileSize msgSize files ⟨(files'.openCreate now path).1.unlink other, config⟩ ↔
      other ≠ path ∧ OpenWithRoom fileSize msgSize files ⟨(files'.openCreate now path).1, config⟩ := by
  obtain ⟨f, hf, hlinked, hname, -⟩ := openCreate_lookup files' now path
  have hopened := @openWithRoom_iff fileSize msgSize files ⟨(files'.openCreate now path).1, config⟩ _ f hlog hf
  have hunlinked := getElem?_unlink (files'.openCreate now path).1 other (files'.openCreate now path).2
  rw [hf, map_some] at hunlinked
  rw [hopened, openWithRoom_iff hlog hunlinked, hlinked, hname, Bool.true_and]
  by_cases hother : path = other
  · rw [if_pos (decide_eq_true hother)]
    exact iff_of_false (fun h => Bool.noConfusion h.1) fun h => h.1 hother.symm
  · rw [if_neg (by rw [decide_eq_true_iff]; exact hother), hlinked]
    exact ⟨fun h => ⟨Ne.symm hother, h⟩, fun h => h.2⟩

end results

/-! ## The three ways -/

section ways

variable {env : OpenEnv} {fileConfig : DltLogStorageUserConfig} {devPath : List UInt8} {msgSize : ℤ} {s : FilterFiles}

theorem openFirst_atomic_iff (hrecords : s.config.records = []) :
    Atomic fileConfig devPath s.config.fileSize msgSize s.files (openFirst env fileConfig (storagePath devPath) s).1
      (openFirst env fileConfig (storagePath devPath) s).2 ↔ FirstSound env fileConfig devPath msgSize s := by
  unfold openFirst FirstSound fopen
  cases hopens : env.opens with
  | true =>
    cases hmallocs : env.mallocsNew with
    | true =>
      simp only [if_true, Bool.not_true, Bool.false_eq_true, if_false, reduceCtorEq, true_and]
      exact atomic_ok_iff.trans (openWithRoom_openCreate_iff rfl rfl)
    | false =>
      simp only [if_true, Bool.not_false, Bool.false_eq_true, false_and, iff_false]
      exact not_atomic_failed rfl
  | false =>
    have hkeeps : KeepsFiles s.files s.files := fun _ _ hf => hf
    cases hmallocs : env.mallocsNew with
    | true =>
      simp only [Bool.not_true, Bool.false_eq_true, if_false, if_true]
      rw [atomic_failed_iff rfl]
      dsimp only
      rw [hrecords]
      exact and_iff_right hkeeps
    | false =>
      simp only [Bool.not_false, Bool.false_eq_true, if_false, if_true]
      rw [atomic_failed_iff rfl]
      dsimp only
      rw [hrecords]
      exact and_iff_right hkeeps

theorem openWorking_atomic_iff {path : List UInt8} {size : ℕ} (hstat : stat env.statsWorking s.files path = some size)
    (hroom : hasRoom s.config.fileSize msgSize size = true) :
    Atomic fileConfig devPath s.config.fileSize msgSize s.files (openWorking env path size s).1
      (openWorking env path size s).2 ↔
      env.opens = true ∨ Listed fileConfig devPath s.config.fileName s.config.records s.files := by
  unfold openWorking fopen
  cases hopens : env.opens with
  | true =>
    simp only [if_true, reduceCtorEq, if_false, true_or, iff_true]
    rw [atomic_ok_iff]
    refine (openWithRoom_openCreate_iff rfl rfl).mpr fun f hf => ?_
    unfold stat at hstat
    split_ifs at hstat
    rw [hf] at hstat
    cases hstat
    exact hroom
  | false =>
    simp only [Bool.false_eq_true, if_false, if_true, false_or]
    rw [atomic_failed_iff rfl]
    exact and_iff_right fun _ _ hf => hf

variable {working : List UInt8}

theorem openNext_opened_iff (hopens : env.opens = true) (hrecords : s.config.records ≠ []) (stated : Bool) :
    (∃ s' ret, openNext env fileConfig (storagePath devPath) (if stated then 0 else -1) working s = some (s', ret) ∧
      Atomic fileConfig devPath s.config.fileSize msgSize s.files s' ret) ↔
        NextSound env fileConfig devPath msgSize stated working s := by
  obtain ⟨oldest, others, hcons⟩ := exists_cons_of_ne_nil hrecords
  unfold openNext NextSound fopen
  simp only [hcons, hopens, if_true, head?_cons, map_some, getD_some, reduceCtorEq, if_false]
  generalize nextIndex fileConfig working s.config.wrapId = next
  generalize nameOf env fileConfig s.config next.1 = fileName
  generalize filePath (storagePath devPath) fileName = path
  generalize removesNext env s.files next.2 path = removes
  generalize dropsOldest s.config removes = drops
  generalize hfiles : (if removes then s.files.unlink path else s.files) = files
  have hlength : files.length = s.files.length := by
    rw [← hfiles]
    split_ifs
    · exact length_unlink ..
    · rfl
  rw [← room_removed, hfiles]
  cases hmallocs : env.mallocsNew with
  | false =>
    simp only [Bool.not_false, if_true, Bool.false_eq_true, false_and, and_false, iff_false]
    rw [exists_some_iff]
    exact not_atomic_failed rfl
  | true =>
    simp only [Bool.not_true, Bool.false_eq_true, if_false, true_and]
    cases stated with
    | false =>
      simp only [Bool.false_eq_true, if_false, false_and, iff_false]
      split_ifs <;> rw [exists_some_iff] <;> exact not_atomic_failed rfl
    | true =>
      simp only [if_true, true_and]
      cases drops with
      | false =>
        simp only [Bool.false_eq_true, if_false, false_imp_iff, and_true]
        rw [exists_some_iff, atomic_ok_iff]
        exact openWithRoom_openCreate_iff rfl hlength
      | true =>
        simp only [if_true, true_imp_iff]
        rw [exists_some_iff, atomic_ok_iff, openWithRoom_unlink_iff rfl, openWithRoom_openCreate_iff rfl hlength]
        exact and_comm

/-- The next file cannot be opened. -/
theorem openNext_failed_iff (hopens : env.opens = false) (hrecords : s.config.records ≠ []) (stated : Bool) :
    (∃ s' ret, openNext env fileConfig (storagePath devPath) (if stated then 0 else -1) working s = some (s', ret) ∧
      Atomic fileConfig devPath s.config.fileSize msgSize s.files s' ret) ↔
        NextSound env fileConfig devPath msgSize stated working s := by
  obtain ⟨oldest, others, hcons⟩ := exists_cons_of_ne_nil hrecords
  have hkeeps : KeepsFiles s.files s.files := fun _ _ hf => hf
  unfold openNext NextSound fopen
  simp only [hcons, hopens, Bool.false_eq_true, if_true, if_false, head?_cons, map_some, getD_some,
    tail_cons]
  generalize nextIndex fileConfig working s.config.wrapId = next
  generalize nameOf env fileConfig s.config next.1 = fileName
  generalize filePath (storagePath devPath) fileName = path
  generalize hremoves : removesNext env s.files next.2 path = removes
  generalize dropsOldest s.config removes = drops
  generalize filePath (storagePath devPath) oldest.name = oldestPath
  -- whether the oldest file is removed does not matter once the next one was
  have hgone : removes = true → s.files.has path = true := by
    rintro rfl
    exact has_of_removesNext hremoves
  cases removes with
  | true =>
    have hhas := hgone rfl
    have hlost : ¬ KeepsFiles s.files (s.files.unlink path) := by
      rw [keepsFiles_unlink_iff, hhas]
      exact Bool.noConfusion
    simp only [if_true, Bool.true_eq_false, false_and, iff_false]
    split_ifs
    · rw [exists_some_iff, atomic_failed_iff rfl]
      exact fun h => hlost h.1
    · exact nofun
    · rw [exists_some_iff, atomic_failed_iff rfl]
      exact fun h => not_keepsFiles_unlink hhas oldestPath h.1
    · rw [exists_some_iff, atomic_failed_iff rfl]
      exact fun h => hlost h.1
  | false =>
    simp only [Bool.false_eq_true, if_false, true_and]
    cases hmallocs : env.mallocsNew with
    | false =>
      simp only [Bool.not_false, if_true, Bool.false_and, Bool.false_eq_true, if_false]
      rw [exists_some_iff, atomic_failed_iff rfl]
      exact and_iff_right hkeeps
    | true =>
      simp only [Bool.not_true, Bool.false_eq_true, if_false, Bool.true_and]
      cases drops with
      | false =>
        simp only [Bool.false_eq_true, if_false]
        rw [exists_some_iff, atomic_failed_iff rfl]
        exact and_iff_right hkeeps
      | true =>
        simp only [if_true]
        by_cases hothers : others = []
        · rw [if_pos hothers]
          exact iff_of_false nofun fun h => h.1 hothers
        · rw [if_neg hothers, exists_some_iff, atomic_failed_iff rfl, keepsFiles_unlink_iff, and_iff_right hothers]
          refine and_congr_right fun hhas => ?_
          rw [unlink_of_not_has hhas]

theorem openNext_atomic_iff (hrecords : s.config.records ≠ []) (stated : Bool) :
    (∃ s' ret, openNext env fileConfig (storagePath devPath) (if stated then 0 else -1) working s = some (s', ret) ∧
      Atomic fileConfig devPath s.config.fileSize msgSize s.files s' ret) ↔
        NextSound env fileConfig devPath msgSize stated working s := by
  cases hopens : env.opens with
  | true => exact openNext_opened_iff hopens hrecords stated
  | false => exact openNext_failed_iff hopens hrecords stated

end ways

/-! ## Atomic opening -/

/-- **Opening is atomic** exactly when the condition holds, for all files, filters and failures. -/
theorem openLogFile_atomic_iff (env : OpenEnv) (fileConfig : DltLogStorageUserConfig) (devPath : List UInt8)
    (msgSize : ℤ) (isUpdateRequired : Bool) (s : FilterFiles) :
    (∃ s' ret, dltLogstorageOpenLogFile env fileConfig devPath msgSize isUpdateRequired s = some (s', ret) ∧
      Atomic fileConfig devPath s.config.fileSize msgSize s.files s' ret) ↔
        Sound env fileConfig devPath msgSize isUpdateRequired s := by
  -- a call that ends before a file is looked for
  have hended : ∀ records, Atomic fileConfig devPath s.config.fileSize msgSize s.files
      { s with config := { s.config with records } } (-1) ↔
        s.config.log = none ∧ Listed fileConfig devPath s.config.fileName records s.files := by
    intro records
    constructor
    · exact fun hatomic => ⟨hatomic.closed rfl, hatomic.listed rfl⟩
    · rintro ⟨hlog, hlisted⟩
      refine ⟨iff_of_false (by decide) (not_openWithRoom_of_closed hlog), fun _ _ _ hf => hf, ?_, fun _ => hlog⟩
      exact fun _ => hlisted
  unfold dltLogstorageOpenLogFile Sound
  by_cases hlong : devPath.length > dltOfflineLogstorageConfigDirPathLen
  · simp only [if_pos hlong, Bool.false_eq_true, if_false]
    rw [exists_some_iff]
    exact hended s.config.records
  · simp only [if_neg hlong]
    generalize knownRecords env fileConfig (storagePath devPath) isUpdateRequired s = known
    obtain ⟨records, read⟩ := known
    cases read with
    | false =>
      simp only [Bool.not_false, if_true, Bool.false_eq_true, if_false]
      rw [exists_some_iff]
      exact hended records
    | true =>
      simp only [Bool.not_true, Bool.false_eq_true, if_false, if_true]
      cases hlast : records.getLast? with
      | none =>
        rw [exists_some_iff]
        exact @openFirst_atomic_iff env fileConfig devPath msgSize { s with config := { s.config with records } }
          (getLast?_eq_none_iff.mp hlast)
      | some newest =>
        have hrecords : records ≠ [] := by
          rintro rfl
          cases hlast
        dsimp only
        generalize workingName _ newest = working
        have hnext := @openNext_atomic_iff env fileConfig devPath msgSize
          { s with config := { s.config with records, workingFileName := some working } } working hrecords
        cases hstat : stat env.statsWorking s.files (filePath (storagePath devPath) working) with
        | none => exact hnext false
        | some size =>
          dsimp only
          by_cases hroom : hasRoom s.config.fileSize msgSize size = true
          · rw [if_pos hroom, if_pos hroom, exists_some_iff]
            exact @openWorking_atomic_iff env fileConfig devPath msgSize
              { s with config := { s.config with records, workingFileName := some working } } _ _ hstat hroom
          · rw [if_neg hroom, if_neg hroom]
            exact hnext true

def threeFiles : DltLogStorageUserConfig where
  logfileTimestamp := 0
  logfileDelimiter := 95
  logfileMaxcounter := 3
  logfileCounteridxlen := 1

/-- One file of three bytes, which may have ten. -/
def oneFile : FilterFiles where
  files := [⟨ascii "/d/log_1.dlt", true, [1, 2, 3], 0⟩]
  config := {
    fileName := ascii "log", workingFileName := none, wrapId := 0, fileSize := 10, numFiles := 2, records := []
    log := none, currentWriteFileOffset := 0 }

/-- Only looking at the working file fails. -/
def statFails : OpenEnv where
  scans := true
  mallocsFound := fun _ => true
  statsWorking := false
  statsNext := true
  opens := true
  mallocsNew := true
  stamp := []
  now := 0

/-- Without a failure the file is opened. -/
example : (dltLogstorageOpenLogFile { statFails with statsWorking := true } threeFiles (ascii "/d") 5 true oneFile).map
    (fun r => (r.2, r.1.config.log)) = some (0, some 0) := by decide +kernel

/-- **The next file is opened, and the call fails** with the result of `stat` for the file before. -/
theorem openLogFile_not_atomic :
    ¬ ∃ s' ret, dltLogstorageOpenLogFile statFails threeFiles (ascii "/d") 5 true oneFile = some (s', ret) ∧
      Atomic threeFiles (ascii "/d") oneFile.config.fileSize 5 oneFile.files s' ret := by
  rintro ⟨s', ret, hopen, hatomic⟩
  have hresult : (dltLogstorageOpenLogFile statFails threeFiles (ascii "/d") 5 true oneFile).map
      (fun r => (r.2, r.1.config.log)) = some (-1, some 1) := by decide +kernel
  rw [hopen, map_some] at hresult
  obtain ⟨rfl, hlog⟩ := Prod.mk.inj (Option.some.inj hresult)
  exact not_atomic_failed hlog hatomic

end Dlt.Logstorage.Files
