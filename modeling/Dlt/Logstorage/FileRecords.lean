import Dlt.Logstorage.OpenLogFile
import Mathlib.Tactic.IntervalCases

/-!
# The files of a filter in the order of their age

* `storageDirInfo_wrapped` — **the records stand in the order of their age** also when the indices have wrapped around.
-/

namespace Dlt.Logstorage.Files

open Dlt.Lib Dlt.Devices List

/-! ## Names -/

section names

variable {fileConfig : DltLogStorageUserConfig} {name rest : List UInt8} {idx : ℕ}

theorem digit_byte {c : Char} (hc : c.isDigit = true) : digitValue 10 (UInt8.ofNat c.toNat) = some (c.toNat - 48) ∧
    isspace (UInt8.ofNat c.toNat) = false ∧ UInt8.ofNat c.toNat ≠ 45 ∧ UInt8.ofNat c.toNat ≠ 43 := by
  obtain ⟨hlow, hhigh⟩ : 48 ≤ c.toNat ∧ c.toNat ≤ 57 := by simpa [Char.isDigit, UInt32.le_iff_toNat_le] using hc
  generalize c.toNat = n at hlow hhigh ⊢
  interval_cases n <;> decide

theorem digitsValue_digits {digits : List Char} (hdigits : ∀ c ∈ digits, c.isDigit = true)
    (hrest : ∀ c ∈ rest.head?, digitValue 10 c = none) (acc : ℕ) :
    digitsValue 10 acc (digits.map (fun c => UInt8.ofNat c.toNat) ++ rest) = Nat.ofDigitChars 10 digits acc := by
  induction digits generalizing acc with
  | nil =>
    cases rest with
    | nil => rfl
    | cons c rest => simp [digitsValue, hrest c rfl]
  | cons c digits ih =>
    obtain ⟨hc, hdigits⟩ := forall_mem_cons.mp hdigits
    simp [digitsValue, (digit_byte hc).1, ih hdigits, Nat.ofDigitChars_cons, Nat.mul_comm]

/-- **A printed number is read back**, with zeros in front of it and other text behind it. -/
theorem scanDecimal_printDecimal {zeros : List UInt8} (hzeros : ∀ c ∈ zeros, c = 48) (hidx : idx < 1000000000)
    (hrest : ∀ c ∈ rest.head?, digitValue 10 c = none) :
    scanDecimal (zeros ++ (printDecimal idx ++ rest)) = some (idx : ℤ) := by
  obtain ⟨n, rfl⟩ : ∃ n, zeros = List.replicate n 48 := ⟨_, eq_replicate_of_mem hzeros⟩
  have hdigits : ∀ c ∈ List.replicate n '0' ++ Nat.toDigits 10 idx, c.isDigit = true := by
    simp only [mem_append, mem_replicate]
    rintro c (⟨-, rfl⟩ | hc)
    · rfl
    · exact Nat.isDigit_of_mem_toDigits (by decide) (by decide) hc
  have hvalue := digitsValue_digits hdigits hrest 0
  rw [Nat.ofDigitChars_append, Nat.ofDigitChars_replicate_zero, Nat.mul_zero,
    Nat.ofDigitChars_toDigits (by decide) (by decide)] at hvalue
  have htext : List.replicate n 48 ++ (printDecimal idx ++ rest) =
      (List.replicate n '0' ++ Nat.toDigits 10 idx).map (fun c => UInt8.ofNat c.toNat) ++ rest := by
    simp [printDecimal]
  obtain ⟨c, cs, hcs⟩ := exists_cons_of_ne_nil
    (append_ne_nil_of_right_ne_nil (List.replicate n '0') (Nat.toDigits_ne_nil (n := idx) (b := 10)))
  rw [htext, hcs, map_cons, cons_append]
  rw [hcs, map_cons, cons_append] at hvalue
  obtain ⟨hdigit, hspace, hminus, hplus⟩ := digit_byte (hdigits c (hcs ▸ mem_cons_self))
  simp [scanDecimal, hspace, hminus, hplus, hdigit, hvalue]
  unfold i32
  omega

/-- **The index of a log file is read back.** -/
theorem getIdxOfLogFile_logFileName (hname : fileConfig.logfileDelimiter ∉ name) (hidx : idx < 1000000000)
    (hdelimiter : digitValue 10 fileConfig.logfileDelimiter = none) (stamp : List UInt8) :
    dltLogstorageGetIdxOfLogFile fileConfig (dltLogstorageLogFileName fileConfig name stamp idx) = idx := by
  have hlength : (printDecimal idx).length ≤ 9 := by
    have h := (Nat.length_toDigits_le_iff (n := idx) (b := 10) (k := 9) (by decide) (by decide)).mpr hidx
    rwa [printDecimal, if_neg (by omega), nil_append, length_map]
  have hbefore : ∀ c ∈ name, decide (c ≠ fileConfig.logfileDelimiter) = true :=
    fun c hc => decide_eq_true (ne_of_mem_of_not_mem hc hname)
  have htail : ∀ c ∈ ((if fileConfig.logfileTimestamp ≠ 0 then fileConfig.logfileDelimiter :: stamp else []) ++
      ascii ".dlt").head?, digitValue 10 c = none := by
    split_ifs
    · simpa using hdelimiter
    · rintro c ⟨⟩
      rfl
  have hzeros : ∀ c ∈ if fileConfig.logfileMaxcounter ≠ uintMax then
      List.replicate (fileConfig.logfileCounteridxlen - (printDecimal idx).length) (48 : UInt8) else [], c = 48 := by
    split_ifs <;> simp
  unfold dltLogstorageGetIdxOfLogFile dltLogstorageLogFileName
  dsimp only
  rw [take_of_length_le hlength, append_assoc, append_assoc, append_assoc, append_assoc,
    dropWhile_append_of_pos hbefore, singleton_append, dropWhile_cons_of_neg (by simp)]
  dsimp only
  rw [scanDecimal_printDecimal hzeros hidx htail, Option.getD_some]
  omega

end names

/-! ## Records -/

section records

variable {record : ℕ → FileRecord} (hrecord : ∀ idx, (record idx).idx = idx) {first k : ℕ} {rest : List ℕ}

/-- **Records in any order are put in the order of their indices.** -/
theorem sortFileName_eq {records sorted : List FileRecord} (hperm : records.Perm sorted)
    (hsorted : sorted.Pairwise fun a b => a.idx < b.idx) (hlength : 2 ≤ sorted.length) :
    dltLogstorageSortFileName records = (sorted, (sorted.getLast?.map FileRecord.idx).getD 0) := by
  have hinj : ∀ a ∈ sorted, ∀ b ∈ sorted, a.idx = b.idx → a = b :=
    inj_on_of_nodup_map (pairwise_map.mpr (hsorted.imp fun h => h.ne))
  have hresult := (exchangeSort_perm (fun nd nx : FileRecord => nd.idx > nx.idx) records.length records).trans hperm
  have hpairwise : (exchangeSort (fun nd nx : FileRecord => nd.idx > nx.idx) records.length records).Pairwise
      fun a b => a.idx ≤ b.idx := by
    refine pairwise_exchangeSort (fun a b => ?_) (fun a b => ?_) (fun _ _ _ => ?_) (fun _ => ?_) (Nat.le_refl _)
    · simp
    · simpa using Nat.le_of_lt
    · exact Nat.le_trans
    · exact Nat.le_refl _
  have hsort := hresult.eq_of_pairwise
    (fun a b ha hb hab hba => hinj a (hresult.subset ha) b hb (Nat.le_antisymm hab hba)) hpairwise
    (hsorted.imp Nat.le_of_lt)
  unfold dltLogstorageSortFileName
  rw [if_neg (by rw [hperm.length_eq]; omega)]
  simp only [hsort]

include hrecord

/-- Records without a gap end where the next index is not the one behind them. -/
theorem splitAtGap_range' {r : FileRecord} (start : ℕ) (hgap : (r.idx + 4294967296 - (start + k)) % 4294967296 ≠ 1)
    (rest : List FileRecord) : splitAtGap ((range' start (k + 1)).map record ++ r :: rest) =
      some ((range' start (k + 1)).map record, r :: rest) := by
  induction k generalizing start with
  | zero => exact if_pos (by rwa [hrecord])
  | succ k ih =>
    have ih := ih (start + 1) (by rwa [Nat.add_assoc, Nat.add_comm 1])
    rw [range'_succ, map_cons, cons_append] at ih ⊢
    rw [range'_succ, map_cons, cons_append, splitAtGap, hrecord, hrecord, if_neg (by omega), ih]
    rfl

/-- **The new records come behind the old ones** if there is a gap between them. -/
theorem rearrangeFileName_range' (hgap : k + 2 < first) (hfirst : first < 1000000000) :
    dltLogstorageRearrangeFileName ((range' 1 (k + 1) ++ first :: rest).map record) =
      (first :: rest ++ range' 1 (k + 1)).map record := by
  have hsplit := @splitAtGap_range' record hrecord k (record first) 1 (by rw [hrecord]; omega) (rest.map record)
  have hlong : ¬ (((range' 1 (k + 1) ++ first :: rest).map record).length < 2 ∨
      ((range' 1 (k + 1) ++ first :: rest).map record).head?.map FileRecord.idx ≠ some 1) := by
    rw [range'_succ, cons_append, map_cons, head?_cons, Option.map_some, hrecord, length_cons, length_map,
      length_append, length_cons]
    rintro (hshort | hfirst)
    · omega
    · exact hfirst rfl
  unfold dltLogstorageRearrangeFileName
  rw [if_neg hlong, map_append, map_cons, hsplit, map_append, map_cons]

omit hrecord

/-- **What a scan makes of the files of a filter**: once the indices have wrapped around, the records stand in the order
of the age of the files if there is a gap between the new files and the old. -/
theorem storageDirInfo_wrapped {env : OpenEnv} {fileConfig : DltLogStorageUserConfig} {path name : List UInt8}
    {files : DeviceFiles} {stamp : ℕ → List UInt8} (hscans : env.scans = true)
    (hmallocs : ∀ n, env.mallocsFound n = true) (hname : fileConfig.logfileDelimiter ∉ name)
    (hdelimiter : digitValue 10 fileConfig.logfileDelimiter = none)
    (hrecord : ∀ idx, record idx = ⟨dltLogstorageLogFileName fileConfig name (stamp idx) idx, idx⟩)
    (hfound : (filesOf fileConfig name path files).Perm
        ((first :: rest ++ range' 1 (k + 1)).map fun idx => (record idx).name))
    (hgap : k + 2 < first) (hsorted : (first :: rest).Pairwise (· < ·))
    (hbelow : ∀ idx ∈ first :: rest, idx < 1000000000)
    (hlast : (first :: rest).getLast? = some fileConfig.logfileMaxcounter) (records : List FileRecord) :
    dltLogstorageStorageDirInfo env fileConfig path name files records =
      ((first :: rest ++ range' 1 (k + 1)).map record, true) := by
  have hidx : ∀ idx, (record idx).idx = idx := fun idx => by rw [hrecord]
  have hfirst := hbelow first mem_cons_self
  have hages : ((range' 1 (k + 1) ++ first :: rest).map record).Pairwise fun a b => a.idx < b.idx := by
    simp only [pairwise_map, hidx]
    refine pairwise_append.mpr ⟨pairwise_lt_range', hsorted, fun new hnew idx hidx => ?_⟩
    have := mem_range'_1.mp hnew
    rcases mem_cons.mp hidx with rfl | hidx
    · omega
    · have := rel_of_pairwise_cons hsorted hidx
      omega
  have hgranted : (((filesOf fileConfig name path files).zipIdx.takeWhile fun found =>
      env.mallocsFound found.2).map Prod.fst) = filesOf fileConfig name path files := by
    rw [takeWhile_eq_self_iff.mpr (fun _ _ => hmallocs _), zipIdx_map_fst]
  have hperm : ((filesOf fileConfig name path files).map fun name =>
      (⟨name, dltLogstorageGetIdxOfLogFile fileConfig name⟩ : FileRecord)).Perm
        ((range' 1 (k + 1) ++ first :: rest).map record) := by
    refine (hfound.map _).trans ?_
    rw [map_map, map_congr_left]
    · exact perm_append_comm.map record
    · intro idx hmem
      have hlt : idx < 1000000000 := by
        rcases mem_append.mp hmem with hmem | hmem
        · exact hbelow idx hmem
        · have := mem_range'_1.mp hmem
          omega
      simp only [Function.comp_apply, hrecord, getIdxOfLogFile_logFileName hname hlt hdelimiter]
  obtain ⟨front, hfront⟩ := getLast?_eq_some_iff.mp hlast
  have hmax : (((range' 1 (k + 1) ++ first :: rest).map record).getLast?.map FileRecord.idx).getD 0 =
      fileConfig.logfileMaxcounter := by
    rw [hfront, ← append_assoc, map_append, map_singleton, getLast?_concat]
    exact hidx _
  unfold dltLogstorageStorageDirInfo
  dsimp only
  rw [if_pos hscans, hgranted, if_neg (Nat.lt_irrefl _), sortFileName_eq hperm hages (by simp; omega), if_pos hmax,
    rearrangeFileName_range' hidx hgap hfirst]

theorem storageDirInfo_wrapped_threeFiles :
    let files : DeviceFiles := [⟨ascii "/d/log_1.dlt", true, [], 0⟩, ⟨ascii "/d/log_3.dlt", true, [], 0⟩]
    dltLogstorageStorageDirInfo statFails threeFiles (ascii "/d") (ascii "log") files [] =
      ([⟨ascii "log_3.dlt", 3⟩, ⟨ascii "log_1.dlt", 1⟩], true) := by
  intro files
  have h := @storageDirInfo_wrapped
    (fun idx => ⟨dltLogstorageLogFileName threeFiles (ascii "log") [] idx, idx⟩) 3 0 [] statFails threeFiles
    (ascii "/d") (ascii "log") files (fun _ => []) rfl (fun _ => rfl) (by decide) (by decide) (fun _ => rfl)
    (by decide +kernel) (by decide) (by decide) (by decide) rfl []
  exact h.trans (by decide +kernel)

end records

end Dlt.Logstorage.Files
