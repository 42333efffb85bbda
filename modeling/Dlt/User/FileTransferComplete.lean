import Dlt.User.FileTransfer

/-!
# When a file arrives whole

* `sentPackages`, `announcedPackages` — the packages that a transfer sent, and the number in its header.
* `dltUserLogFileData_package`, `dltUserLogFileData_all` — what one package and what the whole file sends.
* `transferComplete_iff` — **a file arrives whole if and only if its size is below `2^31` and no multiple of
  `bufferSize`**, or the file is empty: otherwise the loop sends an empty package at the end, and the offset of
  a package does not fit an `int`.
-/

namespace Dlt.User

open Dlt.Lib List InputFile

/-! ## A whole file -/

def FileMessage.package? : FileMessage → Option FileData
  | flda package => some package
  | _ => none

open FileMessage

/-- The number that a header announces. -/
def FileMessage.announced? : FileMessage → Option ℕ
  | flst _ _ _ packages _ => some packages
  | _ => none

def sentPackages (calls : List FileCall) : List FileData :=
  (calls.flatMap FileCall.messages).filterMap package?

def announcedPackages (calls : List FileCall) : List ℕ :=
  (calls.flatMap FileCall.messages).filterMap announced?

/-- Both modes send the same packages, and they are the file. -/
structure TransferComplete (env : TransferEnv) (content : List UInt8) (deleteFlag : Bool) : Prop where
  same : sentPackages (wholeFileTransfer env deleteFlag) = sentPackages (packageTransfer env deleteFlag)
  announced : announcedPackages (packageTransfer env deleteFlag) =
    [(sentPackages (packageTransfer env deleteFlag)).length]
  numbered : (sentPackages (packageTransfer env deleteFlag)).map FileData.number =
    (range (sentPackages (packageTransfer env deleteFlag)).length).map (· + 1)
  nonempty : content ≠ [] → ∀ p ∈ sentPackages (packageTransfer env deleteFlag), p.data ≠ []
  size_le : ∀ p ∈ sentPackages (packageTransfer env deleteFlag), p.data.length ≤ bufferSize
  content_eq : ((sentPackages (packageTransfer env deleteFlag)).map FileData.data).flatten = content

/-- The file is there and can be read, and what `stat` tells is its length. -/
structure TransferEnv.Readable (env : TransferEnv) (content : List UInt8) : Prop where
  stat_size : ∃ st, env.stat = some st ∧ st.size = content.length
  fopen_eq : env.fopen = some content

/-- The user buffer is at least half free. -/
def TransferEnv.HalfFree (env : TransferEnv) : Prop := ∀ n, 2 * (env.buffer n).2 ≤ (env.buffer n).1

/-- How many packages are announced for a length. -/
def packageCount (length : ℕ) : ℕ :=
  if length < bufferSize then 1 else if length % bufferSize = 0 then length / bufferSize else length / bufferSize + 1

theorem checkUserBufferForFreeSpace_of_half {totalSize usedSize : ℤ} (h : 2 * usedSize ≤ totalSize) :
    checkUserBufferForFreeSpace totalSize usedSize > 0 := by
  have hdiv : totalSize.tdiv 2 ≤ totalSize - totalSize / 2 := by
    rw [Int.tdiv_eq_ediv]
    split_ifs
    · omega
    · have hsign : (2 : ℤ).sign = 1 := rfl
      omega
  unfold checkUserBufferForFreeSpace
  rw [if_neg (by omega)]
  decide

/-- A value that fits an `int`. -/
theorem int32_of_lt {n : ℕ} (h : n < 2147483648) : int32 n = n := by
  unfold int32
  rw [Int.bmod_def, if_pos (by omega)]
  omega

/-- A value that does not fit an `int` becomes negative. -/
theorem int32_neg {n : ℕ} (h : 2147483648 ≤ n) (hlt : n < 4294967296) : int32 n < 0 := by
  unfold int32
  rw [Int.bmod_def, if_neg (by omega)]
  omega

theorem fseek_start (content : List UInt8) (n : ℕ) :
    fseek (.start content) (n : ℤ) = some (InputFile.seek (.start content) n) := by
  unfold fseek
  rw [if_neg (Int.not_lt.mpr (Int.natCast_nonneg n)), Int.toNat_natCast]

section

variable {env : TransferEnv} {content : List UInt8} (hread : env.Readable content)

include hread

theorem TransferEnv.Readable.serial : ∃ fserial, getFileSerialNumber env = some fserial := by
  obtain ⟨⟨st, hst, -⟩, -⟩ := hread
  exact ⟨_, by rw [getFileSerialNumber, hst, Option.map_some]⟩

theorem TransferEnv.Readable.isFile : isFile env = true := by
  obtain ⟨⟨st, hst, -⟩, -⟩ := hread
  rw [Dlt.User.isFile, hst, Option.isSome_some]

theorem dltUserLogFilePackagesCount_eq (hlen : content.length < 4294967296) :
    dltUserLogFilePackagesCount env = (packageCount content.length : ℕ) := by
  obtain ⟨st, hst, hsize⟩ := hread.stat_size
  unfold dltUserLogFilePackagesCount packageCount getFilesize
  rw [hread.isFile, hst, Option.map_some, hsize, Nat.mod_eq_of_lt hlen]
  simp only [if_true]
  split_ifs
  · rfl
  · rfl
  · rw [Nat.cast_add, Nat.cast_one]

/-- A package of the file: sent if its offset fits an `int`. -/
theorem dltUserLogFileData_package (hlen : content.length < 4294967296) {fserial : UInt32}
    (hserial : getFileSerialNumber env = some fserial) {i : ℕ} (hi : i < packageCount content.length) :
    dltUserLogFileData env (i + 1) =
      if i * bufferSize < 2147483648 then
        ⟨0, [.flda ⟨fserial, i + 1, (content.drop (i * bufferSize)).take bufferSize⟩]⟩
      else ⟨-1, []⟩ := by
  have hcount : packageCount content.length ≤ 4194304 := by
    unfold packageCount bufferSize
    split_ifs <;> omega
  have hall : ((i : ℤ) + 1) ≠ dltFiletransferTransferAllPackages := by
    unfold dltFiletransferTransferAllPackages
    omega
  have hscope : ¬ (((i : ℤ) + 1 ≠ dltFiletransferTransferAllPackages ∧
      (i : ℤ) + 1 > dltUserLogFilePackagesCount env) ∨ (i : ℤ) + 1 ≤ 0) := by
    rw [dltUserLogFilePackagesCount_eq hread hlen]
    omega
  have hoffset : ((i : ℤ) + 1 - 1) * (bufferSize : ℕ) = (i * bufferSize : ℕ) := by
    rw [add_sub_cancel_right, Nat.cast_mul]
  have hnumber : uint32 ((i : ℤ) + 1) = i + 1 := by
    unfold uint32
    omega
  rw [dltUserLogFileData, if_pos hread.isFile]
  simp only [hread.fopen_eq, hserial]
  rw [if_neg hscope, if_pos hall, hoffset, hnumber]
  by_cases hfits : i * bufferSize < 2147483648
  · rw [int32_of_lt hfits, if_pos hfits, fseek_start]
    simp only [InputFile.read, InputFile.seek, InputFile.start]
  · rw [if_neg hfits, fseek, if_pos (int32_neg (by omega) (by unfold bufferSize; omega))]

omit hread in
/-- The loop sends the blocks of the file, numbered from `n + 1` on. -/
theorem dataLoop_eq (hfree : env.HalfFree) {fserial : UInt32}
    (hserial : getFileSerialNumber env = some fserial) (file : InputFile UInt8) (n : ℕ) :
    dataLoop env file n =
      ⟨0, (file.readToEnd bufferSize).mapIdx fun i data => .flda ⟨fserial, n + i + 1, data⟩⟩ := by
  induction file, n using dataLoop.induct env with
  | case1 file n heof hcheck hnone =>
    rw [hserial] at hnone
    cases hnone
  | case2 file n heof hcheck fserial' hsome ih =>
    rw [hserial, Option.some.injEq] at hsome
    have hshift : (fun i data => flda ⟨fserial, n + 1 + i + 1, data⟩) =
        fun i data => flda ⟨fserial, n + (i + 1) + 1, data⟩ := by
      funext i data
      rw [Nat.add_right_comm n 1 i, Nat.add_assoc n i 1]
    rw [dataLoop, dif_pos heof, if_pos hcheck, hserial]
    dsimp only
    rw [ih, hshift, hsome, readToEnd_of_not_eof (by decide) heof, mapIdx_cons]
    rfl
  | case3 file n heof hcheck => exact absurd (checkUserBufferForFreeSpace_of_half (hfree n)) hcheck
  | case4 file n heof =>
    rw [dataLoop, dif_neg heof, readToEnd_of_eof _ (Bool.eq_true_of_not_eq_false heof),
      mapIdx_nil]

theorem dltUserLogFileData_all (hfree : env.HalfFree) {fserial : UInt32}
    (hserial : getFileSerialNumber env = some fserial) :
    dltUserLogFileData env dltFiletransferTransferAllPackages =
      ⟨0, ((InputFile.start content).readToEnd bufferSize).mapIdx fun i data => .flda ⟨fserial, i + 1, data⟩⟩ := by
  have hscope : ¬ ((dltFiletransferTransferAllPackages ≠ dltFiletransferTransferAllPackages ∧
      dltFiletransferTransferAllPackages > dltUserLogFilePackagesCount env) ∨
      dltFiletransferTransferAllPackages ≤ 0) := by
    rintro (⟨hne, -⟩ | hle)
    · exact hne rfl
    · exact absurd hle (by decide)
  rw [dltUserLogFileData, if_pos hread.isFile]
  simp only [hread.fopen_eq]
  rw [if_neg hscope, if_neg (not_not_intro rfl), dataLoop_eq hfree hserial]
  simp

end

/-! ## The packages of the two modes -/

/-- The `i`-th package of a file. -/
def packageAt (content : List UInt8) (fserial : UInt32) (i : ℕ) : FileData :=
  ⟨fserial, i + 1, (content.drop (i * bufferSize)).take bufferSize⟩

section

variable {env : TransferEnv} {content : List UInt8} (hread : env.Readable content) {fserial : UInt32}
  (hserial : getFileSerialNumber env = some fserial) (deleteFlag : Bool)

include hread hserial

/-- What the packages are, is decided by the calls between the header and the end. -/
theorem sentPackages_frame (calls : List FileCall) :
    sentPackages (dltUserLogFileHeader env :: calls ++ [dltUserLogFileEnd env deleteFlag]) = sentPackages calls := by
  have hheader : (dltUserLogFileHeader env).messages.filterMap package? = [] := by
    rw [dltUserLogFileHeader, if_pos hread.isFile]
    rfl
  have hend : (dltUserLogFileEnd env deleteFlag).messages.filterMap package? = [] := by
    rw [dltUserLogFileEnd, if_pos hread.isFile, hserial]
    rfl
  unfold sentPackages
  rw [cons_append, flatMap_cons, flatMap_append, flatMap_singleton, filterMap_append,
    filterMap_append, hheader, hend, nil_append, append_nil]

theorem sentPackages_wholeFileTransfer (hfree : env.HalfFree) :
    sentPackages (wholeFileTransfer env deleteFlag) =
      ((InputFile.start content).readToEnd bufferSize).mapIdx fun i data => ⟨fserial, i + 1, data⟩ := by
  have hframe := sentPackages_frame hread hserial deleteFlag
    [dltUserLogFileData env dltFiletransferTransferAllPackages]
  refine hframe.trans ?_
  unfold sentPackages
  rw [flatMap_singleton, dltUserLogFileData_all hread hfree hserial,
    ← map_mapIdx flda fun i data => ⟨fserial, i + 1, data⟩, filterMap_map]
  exact filterMap_some

/-- The packages one by one: those whose offset fits an `int`. -/
theorem sentPackages_packageTransfer (hlen : content.length < 4294967296) :
    sentPackages (packageTransfer env deleteFlag) =
      ((range (packageCount content.length)).filter fun i => i * bufferSize < 2147483648).map
        (packageAt content fserial) := by
  unfold packageTransfer
  rw [sentPackages_frame hread hserial, dltUserLogFilePackagesCount_eq hread hlen, Int.toNat_natCast]
  unfold sentPackages
  rw [flatMap_map, filterMap_flatMap, ← flatMap_ite_singleton]
  apply flatMap_congr
  intro i hi
  rw [dltUserLogFileData_package hread hlen hserial (mem_range.mp hi)]
  by_cases hfits : i * bufferSize < 2147483648
  · rw [if_pos hfits, if_pos hfits]
    rfl
  · rw [if_neg hfits, if_neg hfits]
    rfl

theorem announcedPackages_packageTransfer (hlen : content.length < 4294967296) :
    announcedPackages (packageTransfer env deleteFlag) = [packageCount content.length] := by
  have hsmall : packageCount content.length < 4294967296 := by
    unfold packageCount bufferSize
    split_ifs <;> omega
  have hheader : (dltUserLogFileHeader env).messages.filterMap announced? =
      [packageCount content.length] := by
    have huint : uint32 (packageCount content.length : ℕ) = packageCount content.length := by
      unfold uint32
      omega
    rw [dltUserLogFileHeader, if_pos hread.isFile, dltUserLogFilePackagesCount_eq hread hlen, huint]
    rfl
  have hend : (dltUserLogFileEnd env deleteFlag).messages.filterMap announced? = [] := by
    rw [dltUserLogFileEnd, if_pos hread.isFile, hserial]
    rfl
  have hdata : (((range (packageCount content.length)).map fun i : ℕ =>
      dltUserLogFileData env (i + 1)).flatMap FileCall.messages).filterMap announced? = [] := by
    rw [flatMap_map, filterMap_flatMap, flatMap_eq_nil_iff]
    intro i hi
    rw [dltUserLogFileData_package hread hlen hserial (mem_range.mp hi)]
    split_ifs <;> rfl
  unfold announcedPackages packageTransfer
  rw [dltUserLogFilePackagesCount_eq hread hlen, Int.toNat_natCast, cons_append, flatMap_cons,
    flatMap_append, flatMap_singleton, filterMap_append, filterMap_append, hheader, hdata,
    hend]
  rfl

end

/-! ## The condition -/

/-- The file is empty, or its length is no multiple of the buffer: then the blocks are as many as announced. -/
theorem readToEnd_eq_packages {content : List UInt8} (fserial : UInt32)
    (h : content = [] ∨ ¬ bufferSize ∣ content.length) :
    (((InputFile.start content).readToEnd bufferSize).mapIdx fun i data => (⟨fserial, i + 1, data⟩ : FileData)) =
      (range (packageCount content.length)).map (packageAt content fserial) := by
  rw [readToEnd_eq (by decide)]
  rcases h with rfl | hdvd
  · rw [pieces_nil, length_nil, if_pos (Nat.dvd_zero bufferSize)]
    rfl
  · have hrest : content.length % 1024 ≠ 0 := fun hzero => hdvd (Nat.dvd_of_mod_eq_zero hzero)
    rw [if_neg hdvd, append_nil]
    apply ext_getElem?
    intro i
    rw [getElem?_mapIdx, getElem?_pieces (by decide), getElem?_map]
    have hiff : i * bufferSize < content.length ↔ i < packageCount content.length := by
      unfold packageCount bufferSize
      split_ifs <;> omega
    by_cases hi : i * bufferSize < content.length
    · rw [if_pos hi, getElem?_range (hiff.mp hi)]
      rfl
    · rw [if_neg hi, getElem?_eq_none (by rw [length_range]; omega)]
      rfl

theorem flatten_readToEnd (content : List UInt8) :
    ((InputFile.start content).readToEnd bufferSize).flatten = content := by
  rw [readToEnd_eq (by decide), flatten_append, flatten_pieces (by decide)]
  split_ifs <;> simp

/-- A package that is announced is not empty, and it begins before `2^31`. -/
theorem package_lt {content : List UInt8} {i : ℕ} (hi : i < packageCount content.length) (hnil : content ≠ []) :
    i * bufferSize < content.length := by
  have hpos := length_pos_of_ne_nil hnil
  unfold packageCount bufferSize at *
  split_ifs at hi <;> omega

theorem length_readToEnd {content : List UInt8} (h : content ≠ []) (hdvd : bufferSize ∣ content.length) :
    ((InputFile.start content).readToEnd bufferSize).length = packageCount content.length + 1 := by
  have hpos := length_pos_of_ne_nil h
  obtain ⟨k, hk⟩ := hdvd
  rw [readToEnd_eq (by decide), if_pos ⟨k, hk⟩, length_append, length_pieces (by decide)]
  unfold packageCount
  rw [hk] at hpos ⊢
  unfold bufferSize at hpos ⊢
  simp only [length_singleton]
  split_ifs <;> omega

/-- **A file arrives whole if and only if it is empty, or its size is below `2^31` and no multiple of the
buffer.** -/
theorem transferComplete_iff {env : TransferEnv} {content : List UInt8} (hread : env.Readable content)
    (hfree : env.HalfFree) (hlen : content.length < 4294967296) (deleteFlag : Bool) :
    TransferComplete env content deleteFlag ↔
      content = [] ∨ (¬ bufferSize ∣ content.length ∧ content.length < 2147483648) := by
  obtain ⟨fserial, hserial⟩ := hread.serial
  have hwhole := sentPackages_wholeFileTransfer hread hserial deleteFlag hfree
  have hpackages := sentPackages_packageTransfer hread hserial deleteFlag hlen
  have hannounced := announcedPackages_packageTransfer hread hserial deleteFlag hlen
  constructor
  · intro hcomplete
    by_cases hnil : content = []
    · exact .inl hnil
    have hcount : (sentPackages (packageTransfer env deleteFlag)).length = packageCount content.length := by
      have h := hcomplete.announced
      rw [hannounced, cons.injEq] at h
      exact h.1.symm
    have hdvd : ¬ bufferSize ∣ content.length := by
      intro hdvd
      rw [← hcomplete.same, hwhole, length_mapIdx, length_readToEnd hnil hdvd] at hcount
      omega
    refine .inr ⟨hdvd, Nat.lt_of_not_le fun hbig => ?_⟩
    have hrest : content.length % 1024 ≠ 0 := fun hzero => hdvd (Nat.dvd_of_mod_eq_zero hzero)
    -- the package at the offset `2^31` is not sent
    have hless : ((range (packageCount content.length)).filter fun i => i * bufferSize < 2147483648).length <
        (range (packageCount content.length)).length := by
      rw [length_filter_lt_length_iff_exists]
      refine ⟨2097152, mem_range.mpr ?_, by decide⟩
      unfold packageCount bufferSize
      split_ifs <;> omega
    rw [hpackages, length_map] at hcount
    rw [length_range] at hless
    omega
  · intro hcondition
    have hdvd : content = [] ∨ ¬ bufferSize ∣ content.length := hcondition.imp_right And.left
    have hall : ((range (packageCount content.length)).filter fun i => i * bufferSize < 2147483648) =
        range (packageCount content.length) := by
      rw [filter_eq_self]
      intro i hi
      rw [mem_range] at hi
      apply decide_eq_true
      by_cases hnil : content = []
      · have hzero : i < 1 := by rwa [hnil] at hi
        rw [Nat.lt_one_iff.mp hzero, Nat.zero_mul]
        decide
      · obtain ⟨-, hsmall⟩ := hcondition.resolve_left hnil
        exact Nat.lt_trans (package_lt hi hnil) hsmall
    rw [hall] at hpackages
    have hblocks := readToEnd_eq_packages fserial hdvd
    refine { same := ?_, announced := ?_, numbered := ?_, nonempty := ?_, size_le := ?_, content_eq := ?_ }
    · rw [hwhole, hblocks, hpackages]
    · rw [hannounced, hpackages, length_map, length_range]
    · rw [hpackages, map_map, length_map, length_range]
      rfl
    · intro hnil p hp
      rw [hpackages] at hp
      obtain ⟨i, hi, rfl⟩ := mem_map.mp hp
      have hlt := package_lt (mem_range.mp hi) hnil
      apply ne_nil_of_length_pos
      unfold packageAt
      rw [length_take, length_drop]
      exact Nat.lt_min.mpr ⟨by decide, by omega⟩
    · intro p hp
      rw [hpackages] at hp
      obtain ⟨i, -, rfl⟩ := mem_map.mp hp
      exact length_take_le _ _
    · rw [hpackages, ← hblocks, map_mapIdx, mapIdx_self]
      exact flatten_readToEnd content

theorem transferComplete_iff_sample :
    TransferComplete ⟨[102], some ⟨3, 1, 1⟩, some [1, 2, 3], fun _ => (10, 0), true⟩ [1, 2, 3] false ↔
      [1, 2, 3] = ([] : List UInt8) ∨
        (¬ bufferSize ∣ ([1, 2, 3] : List UInt8).length ∧ ([1, 2, 3] : List UInt8).length < 2147483648) :=
  transferComplete_iff ⟨⟨⟨3, 1, 1⟩, rfl, rfl⟩, rfl⟩ (fun _ => show (2 * 0 : ℤ) ≤ 10 by decide) (by decide) false

/-- A file of 1024 bytes does not arrive whole: an empty package follows the only one that is announced. -/
theorem not_transferComplete :
    ¬ TransferComplete ⟨[102], some ⟨1024, 1, 1⟩, some (replicate 1024 7), fun _ => (10, 0), true⟩
      (replicate 1024 7) false := by
  intro h
  have hsame := congrArg List.length h.same
  revert hsame
  decide +kernel

end Dlt.User
