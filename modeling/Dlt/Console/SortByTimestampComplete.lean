import Dlt.Console.SortByTimestamp
import Mathlib.Data.List.SplitBy

/-!
# When sorting by time stamps loses nothing

* `losesNothing_iff` — **the tool loses nothing if and only if the selection begins with the first message, and
  either the copy of the first message begins a new cycle, or there is one cycle and no message has a later time
  stamp than the first one.**
-/

namespace Dlt.Console

open Dlt.Lib List Option

variable {index : List TimestampIndex}

/-! ## Losing nothing -/

/-- An entry and the next one are in the same cycle. -/
def sameCycle (cur next : TimestampIndex) : Bool := !newCycle next cur

/-- The selected messages in the order of their storage times, divided where a new cycle begins. -/
def bootCycles (index : List TimestampIndex) : List (List TimestampIndex) :=
  (qsort compareIndexSystime index).splitBy sameCycle

/-- A cycle as it has to be written: its messages in the order of their time stamps. -/
def Ordered (cycle written : List TimestampIndex) : Prop :=
  written.Perm cycle ∧ written.Pairwise fun a b => a.tmsp ≤ b.tmsp

/-- Each selected message is written once and nothing else is: the cycles one after the other, each ordered. -/
def LosesNothing (index : List TimestampIndex) (outcome : SortOutcome) : Prop :=
  ∃ written : List (List TimestampIndex), outcome = .written (written.flatten.map TimestampIndex.num) ∧
    (written.flatten.map TimestampIndex.num).Perm (index.map TimestampIndex.num) ∧
    List.Forall₂ Ordered (bootCycles index) written

/-- The last message in the order of the storage times and the first message of the file are in different
cycles. -/
def NewCycleAtEnd (index : List TimestampIndex) : Prop :=
  ∃ last ∈ (qsort compareIndexSystime index).getLast?, ∃ first ∈ index.head?, newCycle first last = true

/-- There is one cycle, and no message has a later time stamp than the first message of the file. -/
def OneCycleFirstLatest (index : List TimestampIndex) : Prop :=
  (qsort compareIndexSystime index).IsChain (fun cur next => newCycle next cur = false) ∧
    ∀ first ∈ index.head?, ∀ x ∈ index, x.tmsp ≤ first.tmsp

/-! ## The comparisons -/

theorem compareIndexTimestamps_le (a b : TimestampIndex) :
    compareIndexTimestamps a b ≤ 0 ↔ a.tmsp.toNat ≤ b.tmsp.toNat := by
  unfold compareIndexTimestamps
  have hlt : a.tmsp > b.tmsp ↔ b.tmsp.toNat < a.tmsp.toNat := Iff.rfl
  have heq : a.tmsp = b.tmsp ↔ a.tmsp.toNat = b.tmsp.toNat := UInt32.toNat_inj.symm
  split_ifs with h1 h2
  · rw [hlt] at h1
    omega
  · rw [heq] at h2
    omega
  · rw [hlt] at h1
    omega

theorem pairwise_qsort_tmsp (index : List TimestampIndex) :
    (qsort compareIndexTimestamps index).Pairwise fun a b => a.tmsp ≤ b.tmsp :=
  pairwise_qsort compareIndexTimestamps_le index

theorem ordered_qsort (cycle : List TimestampIndex) : Ordered cycle (qsort compareIndexTimestamps cycle) :=
  ⟨qsort_perm _ _, pairwise_qsort_tmsp cycle⟩

/-! ## The index -/

theorem length_fillIndex (headerTmsp : UInt32) (num : ℕ) (messages : List SourceMessage) :
    (fillIndex headerTmsp num messages).length = messages.length := by
  induction messages generalizing headerTmsp num with
  | nil => rfl
  | cons m rest ih => rw [fillIndex, length_cons, length_cons, ih]

theorem map_num_fillIndex (headerTmsp : UInt32) (num : ℕ) (messages : List SourceMessage) :
    (fillIndex headerTmsp num messages).map TimestampIndex.num = List.range' num messages.length := by
  induction messages generalizing headerTmsp num with
  | nil => rfl
  | cons m rest ih => rw [fillIndex, map_cons, ih, length_cons, range'_succ]

/-! ## The loop -/

theorem copyEntries_middle (front cycle back : List TimestampIndex) :
    copyEntries (front ++ cycle ++ back) front.length cycle.length = some cycle := by
  unfold copyEntries
  rw [if_pos (by simp), append_assoc, drop_left' rfl, take_left' rfl]

theorem getElem?_middle (front cycle back : List TimestampIndex) (x next : TimestampIndex) :
    (front ++ (cycle ++ [x]) ++ next :: back)[front.length + cycle.length]? = some x ∧
      (front ++ (cycle ++ [x]) ++ next :: back)[front.length + cycle.length + 1]? = some next := by
  have hlist : front ++ (cycle ++ [x]) ++ next :: back = (front ++ cycle) ++ x :: next :: back := by simp
  have hlen : front.length + cycle.length = (front ++ cycle).length := length_append.symm
  rw [hlist, hlen]
  constructor
  · rw [getElem?_append_right (Nat.le_refl _), Nat.sub_self, getElem?_cons_zero]
  · rw [getElem?_append_right (Nat.le_add_right _ 1), Nat.add_sub_cancel_left, getElem?_cons_succ,
      getElem?_cons_zero]

theorem cycleLoop_succ {num : ℕ} {next cur : TimestampIndex} (hnext : index[num + 1]? = some next)
    (hcur : index[num]? = some cur) (k start count : ℕ) :
    cycleLoop index (k + 1) num start count =
      if newCycle next cur then
        (copyEntries index start (count + 1)).bind fun temp =>
          (cycleLoop index k (num + 1) (start + (count + 1)) 0).map fun p =>
            (qsort compareIndexTimestamps temp ++ p.1, p.2)
      else cycleLoop index k (num + 1) start (count + 1) := by
  rw [cycleLoop, hnext, hcur, bind_some, bind_some]

section loop

variable {sorted : List TimestampIndex} {first : TimestampIndex}

/-- The loop from the entry `x` on, in a cycle that began with the entries `cycle`: the cycles of what is left,
and whether the last one is written. -/
theorem cycleLoop_eq (x : TimestampIndex) (rest cycle front : List TimestampIndex)
    (hsorted : sorted = front ++ cycle ++ x :: rest)
    (hchain : (cycle ++ [x]).IsChain fun cur next => sameCycle cur next = true) :
    ∃ cycles last, (cycle ++ x :: rest).splitBy sameCycle = cycles ++ [last] ∧
      cycleLoop (sorted ++ [first]) (x :: rest).length (front.length + cycle.length) front.length cycle.length =
        some (if newCycle first ((x :: rest).getLast (List.cons_ne_nil _ _)) then
          (((cycles ++ [last]).map (qsort compareIndexTimestamps)).flatten, 0)
        else ((cycles.map (qsort compareIndexTimestamps)).flatten, last.length)) := by
  induction rest generalizing x cycle front with
  | nil =>
    have hindex : sorted ++ [first] = front ++ (cycle ++ [x]) ++ [first] := by
      rw [hsorted, append_assoc front]
    obtain ⟨hcur, hnext⟩ := getElem?_middle front cycle [] x first
    rw [← hindex] at hcur hnext
    refine ⟨[], cycle ++ [x], splitBy_of_isChain (by simp) hchain, ?_⟩
    rw [length_singleton, getLast_singleton, cycleLoop_succ hnext hcur]
    by_cases hnew : newCycle first x = true
    · have hcopy := copyEntries_middle front (cycle ++ [x]) [first]
      rw [length_append, length_singleton, ← hindex] at hcopy
      rw [if_pos hnew, if_pos hnew, hcopy]
      simp [cycleLoop]
    · rw [if_neg hnew, if_neg hnew]
      simp [cycleLoop]
  | cons y rest ih =>
    have hindex : sorted ++ [first] = front ++ (cycle ++ [x]) ++ (y :: rest ++ [first]) := by
      rw [hsorted]
      simp
    obtain ⟨hcur, hnext⟩ := getElem?_middle front cycle (rest ++ [first]) x y
    rw [← cons_append, ← hindex] at hcur hnext
    have hlast : (x :: y :: rest).getLast (cons_ne_nil _ _) =
        (y :: rest).getLast (cons_ne_nil _ _) := getLast_cons _
    rw [length_cons, hlast, cycleLoop_succ hnext hcur]
    by_cases hnew : newCycle y x = true
    · -- `y` begins a new cycle: the one before is written
      obtain ⟨cycles, last, hsplit, hloop⟩ := ih y [] (front ++ (cycle ++ [x])) (by rw [hsorted]; simp)
        (isChain_singleton y)
      have hcopy := copyEntries_middle front (cycle ++ [x]) (y :: rest ++ [first])
      rw [length_append, length_singleton, ← hindex] at hcopy
      refine ⟨(cycle ++ [x]) :: cycles, last, ?_, ?_⟩
      · have happend : cycle ++ x :: y :: rest = (cycle ++ [x]) ++ y :: rest := by simp
        rw [happend, splitBy_append_cons _ (by simpa [sameCycle] using hnew),
          splitBy_of_isChain (by simp) hchain]
        rw [nil_append] at hsplit
        rw [hsplit]
        rfl
      · rw [length_append, length_append, length_singleton, length_nil, Nat.add_zero,
          ← Nat.add_assoc] at hloop
        rw [if_pos hnew, hcopy, bind_some, ← Nat.add_assoc, hloop]
        split_ifs <;> simp
    · obtain ⟨cycles, last, hsplit, hloop⟩ := ih y (cycle ++ [x]) front (by rw [hsorted]; simp)
        (by
          rw [isChain_append]
          refine ⟨hchain, isChain_singleton y, ?_⟩
          intro a ha b hb
          rw [getLast?_concat, mem_some_iff] at ha
          rw [head?_cons, mem_some_iff] at hb
          rw [← ha, ← hb]
          simpa [sameCycle] using hnew)
      refine ⟨cycles, last, by rw [← hsplit]; simp, ?_⟩
      rw [length_append, length_singleton, ← Nat.add_assoc] at hloop
      rw [if_neg hnew, hloop]

end loop

/-! ## What is written -/

/-- What the tool writes of a sorted index and the copy of the first entry behind it. -/
theorem writeCycles_eq {sorted : List TimestampIndex} (hne : sorted ≠ []) (first : TimestampIndex) :
    ∃ cycles last, sorted.splitBy sameCycle = cycles ++ [last] ∧
      writeCycles (sorted ++ [first]) sorted.length 0 = some
        (if newCycle first (sorted.getLast hne) then
          ((cycles ++ [last]).map (qsort compareIndexTimestamps)).flatten
        else if last.length = sorted.length then
          (cycles.map (qsort compareIndexTimestamps)).flatten ++
            (qsort compareIndexTimestamps (sorted ++ [first])).take last.length
        else (cycles.map (qsort compareIndexTimestamps)).flatten) := by
  cases sorted with
  | nil => exact absurd rfl hne
  | cons x rest =>
    obtain ⟨cycles, last, hsplit, hloop⟩ := @cycleLoop_eq (x :: rest) first x rest [] [] rfl
      (isChain_singleton x)
    rw [nil_append] at hsplit
    refine ⟨cycles, last, hsplit, ?_⟩
    simp only [length_nil, Nat.add_zero] at hloop
    rw [writeCycles, hloop, map_some]
    by_cases hnew : newCycle first ((x :: rest).getLast hne) = true
    · rw [if_pos hnew, if_pos hnew]
      simp
    · rw [if_neg hnew, if_neg hnew]

theorem splitBy_of_oneCycle {sorted : List TimestampIndex} (hne : sorted ≠ [])
    (hchain : sorted.IsChain fun cur next => newCycle next cur = false) : sorted.splitBy sameCycle = [sorted] :=
  splitBy_of_isChain hne (hchain.imp fun cur next h => by rw [sameCycle, h, Bool.not_false])

/-- There is one cycle if and only if the last one is as long as the sorted index. -/
theorem isChain_iff_of_splitBy {sorted last : List TimestampIndex} {cycles : List (List TimestampIndex)}
    (hne : sorted ≠ []) (hsplit : sorted.splitBy sameCycle = cycles ++ [last]) :
    (sorted.IsChain fun cur next => newCycle next cur = false) ↔ last.length = sorted.length := by
  constructor
  · intro hchain
    rw [splitBy_of_oneCycle hne hchain] at hsplit
    have hlast := congrArg List.getLast? hsplit
    rw [getLast?_singleton, getLast?_concat, Option.some.injEq] at hlast
    rw [hlast]
  · intro hlen
    have hmem : last ∈ sorted.splitBy sameCycle := by
      rw [hsplit]
      exact mem_append_right _ (mem_singleton_self last)
    have hflat := congrArg flatten hsplit
    rw [flatten_splitBy, flatten_append, flatten_singleton] at hflat
    have hnil : cycles.flatten = [] := by
      have h := congrArg List.length hflat
      rw [length_append] at h
      exact eq_nil_of_length_eq_zero (by omega)
    rw [hnil, nil_append] at hflat
    rw [hflat]
    exact (isChain_of_mem_splitBy hmem).imp fun cur next h => by
      rwa [sameCycle, Bool.not_eq_true'] at h

theorem flatten_map_qsort_perm (cycles : List (List TimestampIndex)) :
    (cycles.map (qsort compareIndexTimestamps)).flatten.Perm cycles.flatten := by
  have hperm : (cycles.flatMap (qsort compareIndexTimestamps)).Perm (cycles.flatMap id) :=
    List.Perm.flatMap_left _ fun cycle _ => qsort_perm _ cycle
  rwa [flatMap_id, flatMap_def] at hperm

theorem losesNothing_all (index : List TimestampIndex) :
    LosesNothing index (.written
      (((bootCycles index).map (qsort compareIndexTimestamps)).flatten.map TimestampIndex.num)) := by
  refine ⟨_, rfl, ?_, ?_⟩
  · have hflat := flatten_map_qsort_perm (bootCycles index)
    have hboot : (bootCycles index).flatten = qsort compareIndexSystime index := flatten_splitBy _ _
    rw [hboot] at hflat
    exact (hflat.trans (qsort_perm _ _)).map _
  · rw [forall₂_map_right_iff]
    exact forall₂_same.mpr fun cycle _ => ordered_qsort cycle

theorem not_losesNothing_of_length {entries : List TimestampIndex} (h : entries.length ≠ index.length) :
    ¬ LosesNothing index (.written (entries.map TimestampIndex.num)) := by
  rintro ⟨written, hwritten, hperm, -⟩
  rw [SortOutcome.written.injEq] at hwritten
  rw [← hwritten] at hperm
  have hlen := hperm.length_eq
  rw [length_map, length_map] at hlen
  exact h hlen

/-- When there is one cycle, the tool sorts the index with the copy of its first entry and leaves out the last
one: nothing is lost if and only if this is the copy, and the first entry has the latest time stamp. -/
theorem losesNothing_one {first : TimestampIndex} (hfirst : first ∈ index)
    (hnodup : (index.map TimestampIndex.num).Nodup)
    (hchain : (qsort compareIndexSystime index).splitBy sameCycle = [qsort compareIndexSystime index]) :
    LosesNothing index (.written (((qsort compareIndexTimestamps (qsort compareIndexSystime index ++ [first])).take
        (qsort compareIndexSystime index).length).map TimestampIndex.num)) ↔
      ∀ x ∈ index, x.tmsp ≤ first.tmsp := by
  have hperm := qsort_perm compareIndexSystime index
  generalize hsorted : qsort compareIndexSystime index = sorted at hperm hchain ⊢
  have hallperm := qsort_perm compareIndexTimestamps (sorted ++ [first])
  have hallpair := pairwise_qsort_tmsp (sorted ++ [first])
  obtain ⟨entries, z, hall⟩ : ∃ entries z, qsort compareIndexTimestamps (sorted ++ [first]) = entries ++ [z] := by
    have hne : qsort compareIndexTimestamps (sorted ++ [first]) ≠ [] := by
      intro hnil
      rw [hnil] at hallperm
      exact absurd hallperm.nil_eq (by simp)
    exact ⟨_, _, (dropLast_append_getLast hne).symm⟩
  have hlen : entries.length = sorted.length := by
    have h := hallperm.length_eq
    rw [hall, length_append, length_append, length_singleton, length_singleton] at h
    omega
  have htake : (entries ++ [z]).take sorted.length = entries := take_left' hlen
  have hlast := @getLast?_qsort_concat _ _ _ _ _ compareIndexTimestamps_le sorted
    (hperm.nodup_iff.mpr (List.Nodup.of_map _ hnodup)) first
  rw [hall] at hallperm hallpair hlast ⊢
  rw [htake]
  rw [getLast?_concat, Option.some.injEq] at hlast
  constructor
  · rintro ⟨written, hwritten, hnums, -⟩
    rw [SortOutcome.written.injEq] at hwritten
    rw [← hwritten] at hnums
    have hzin : z ∈ index := by
      have hin : z ∈ sorted ++ [first] := hallperm.subset (mem_append_right _ (mem_singleton_self z))
      rcases mem_append.mp hin with hs | hf
      · exact hperm.subset hs
      · rw [mem_singleton.mp hf]
        exact hfirst
    have hz : z = first := by
      have hmap := hallperm.map TimestampIndex.num
      rw [map_append, map_append, map_singleton, map_singleton] at hmap
      have hcancel := (hnums.symm.append_right [z.num]).trans
        (hmap.trans ((hperm.map TimestampIndex.num).append_right [first.num]))
      have hnum := (perm_append_left_iff _).mp hcancel
      rw [singleton_perm_singleton] at hnum
      exact inj_on_of_nodup_map hnodup hzin hfirst hnum
    intro x hx
    have hin : x ∈ entries ++ [z] := hallperm.symm.subset (mem_append_left _ (hperm.symm.subset hx))
    rcases mem_append.mp hin with he | hl
    · rw [← hz]
      exact (pairwise_append.mp hallpair).2.2 x he z (mem_singleton_self z)
    · rw [mem_singleton.mp hl, hz]
      exact UInt32.le_refl _
  · intro hmax
    have hz : z = first := hlast fun x hx => hmax x (hperm.subset hx)
    rw [hz, perm_append_right_iff] at hallperm
    refine ⟨[entries], by rw [flatten_singleton], ?_, ?_⟩
    · rw [flatten_singleton]
      exact (hallperm.trans hperm).map _
    · have hboot : bootCycles index = [sorted] := by rw [bootCycles, hsorted, hchain]
      rw [hboot]
      exact .cons ⟨hallperm, (pairwise_append.mp hallpair).1⟩ .nil

/-! ## The tool -/

section tool

variable (messages : List SourceMessage) (headerTmsp : UInt32) {beginNum endNum : ℤ} (hbegin : 0 ≤ beginNum)
  (hrange : beginNum ≤ endNum) (hend : endNum < messages.length)

include hbegin hrange hend

theorem length_selectedIndex :
    (selectedIndex messages headerTmsp beginNum endNum).length = (1 + endNum - beginNum).toNat := by
  unfold selectedIndex
  rw [length_fillIndex, length_take, length_drop]
  omega

theorem map_num_selectedIndex : (selectedIndex messages headerTmsp beginNum endNum).map TimestampIndex.num =
    List.range' beginNum.toNat (1 + endNum - beginNum).toNat := by
  have hlen := length_selectedIndex messages headerTmsp hbegin hrange hend
  unfold selectedIndex at hlen ⊢
  rw [length_fillIndex] at hlen
  rw [map_num_fillIndex, hlen]

/-- A selection that does not begin with the first message: the copy is stored behind the array. -/
theorem sortByTimestamp_of_pos (hpos : 0 < beginNum) :
    sortByTimestamp messages headerTmsp beginNum endNum = .outOfBounds := by
  have hlen := length_selectedIndex messages headerTmsp hbegin hrange hend
  unfold sortByTimestamp extendIndex
  rw [if_neg (by omega)]
  dsimp only
  rw [if_neg (by rw [hlen]; omega)]
  rfl

theorem sortByTimestamp_of_zero (hzero : beginNum = 0) {first : TimestampIndex} {tail : List TimestampIndex}
    (hindex : selectedIndex messages headerTmsp beginNum endNum = first :: tail)
    {entries : List TimestampIndex}
    (hwrite : writeCycles (qsort compareIndexSystime (first :: tail) ++ [first])
      (qsort compareIndexSystime (first :: tail)).length 0 = some entries) :
    sortByTimestamp messages headerTmsp beginNum endNum = .written (entries.map TimestampIndex.num) := by
  have hlen := length_selectedIndex messages headerTmsp hbegin hrange hend
  rw [hindex] at hlen
  have hsorted := (qsort_perm compareIndexSystime (first :: tail)).length_eq
  rw [hsorted] at hwrite
  unfold sortByTimestamp extendIndex
  rw [if_neg (by omega)]
  dsimp only
  rw [hindex, if_pos (by rw [hlen]; omega), head?_cons, map_some, bind_some, ← hlen,
    take_left' rfl, drop_left' rfl, hzero, Int.toNat_zero, hwrite]

end tool

end Dlt.Console
