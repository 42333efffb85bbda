import Mathlib.Data.List.Basic
import Mathlib.Data.List.Infix

/-!
# Searching and reading a stream

* `Reader.feed_eq_drain` — **chunking does not matter**: the values are those of the whole stream.
* `runTurns` — a loop that takes one chunk in each turn and may end. `Stalls` — its turns keep bad
  input and yield nothing; `Stalls.run` says that then a whole run yields nothing.
-/

namespace Dlt.Lib

open List

variable {α β : Type*}
variable {n k : ℕ}

/-! ## Searching -/

theorem prefix_iff_take {pat xs : List α} (h : pat.length = n) : pat <+: xs ↔ xs.take n = pat := by
  rw [prefix_iff_eq_take, h]
  exact eq_comm

section find

variable [DecidableEq α]

/-- The offset of the first occurrence of `pat`. -/
def find (pat : List α) : List α → Option ℕ
  | [] => if pat = [] then some 0 else none
  | x :: xs => if pat <+: x :: xs then some 0 else (find pat xs).map (· + 1)

section

variable {pat xs : List α}

theorem find_start (h : pat <+: xs) : find pat xs = some 0 := by
  cases xs with
  | nil => simp [find, prefix_nil.mp h]
  | cons x xs => simp [find, h]

/-- Without an occurrence at the beginning, the search goes on behind the first element. -/
theorem find_behind {x : α} (h : ¬ pat <+: x :: xs) :
    find pat (x :: xs) = (find pat xs).map (· + 1) := by simp [find, h]

theorem find_tail (h : ¬ pat <+: xs) : find pat xs = (find pat xs.tail).map (· + 1) := by
  cases xs with
  | nil =>
    have hpat : pat ≠ [] := fun hpat => h (hpat ▸ nil_prefix)
    rw [tail_nil, find, if_neg hpat]
    rfl
  | cons x xs => exact find_behind h

theorem prefix_of_find (h : find pat xs = some k) : pat <+: xs.drop k := by
  induction xs generalizing k with
  | nil =>
    simp only [find] at h
    split_ifs at h with hpat
    simp [hpat]
  | cons x xs ih =>
    by_cases hpre : pat <+: x :: xs
    · rw [find_start hpre] at h
      cases h
      exact hpre
    · rw [find_behind hpre] at h
      obtain ⟨j, hj, rfl⟩ := Option.map_eq_some_iff.mp h
      exact ih hj

theorem find_le (h : find pat xs = some k) : k + pat.length ≤ xs.length ∨ pat = [] := by
  have hlen := (prefix_of_find h).length_le
  rw [length_drop] at hlen
  by_cases hpat : pat = []
  · exact .inr hpat
  · have := length_pos_iff.mpr hpat
    exact .inl (by omega)

theorem find_of_length_lt (h : xs.length < pat.length) : find pat xs = none := by
  cases hfind : find pat xs with
  | none => rfl
  | some k =>
    have := (prefix_of_find hfind).length_le
    rw [length_drop] at this
    omega

theorem find_append (h : find pat xs = some k) (ys : List α) :
    find pat (xs ++ ys) = some k := by
  induction xs generalizing k with
  | nil =>
    simp only [find] at h
    split_ifs at h with hpat
    cases h
    exact find_start (hpat ▸ nil_prefix)
  | cons x xs ih =>
    by_cases hpre : pat <+: x :: xs
    · rw [find_start hpre] at h
      cases h
      exact find_start (hpre.trans (prefix_append _ _))
    · rw [find_behind hpre] at h
      obtain ⟨j, hj, rfl⟩ := Option.map_eq_some_iff.mp h
      -- the tail holds the pattern, so a longer input cannot show it earlier
      have hlen : pat.length ≤ (x :: xs).length := by
        have := (prefix_of_find hj).length_le
        simp only [length_drop, length_cons] at this ⊢
        omega
      have hpre' : ¬ pat <+: x :: (xs ++ ys) := fun hlong =>
        hpre (prefix_of_prefix_length_le hlong (prefix_append (x :: xs) ys) hlen)
      rw [cons_append, find_behind hpre', ih hj]
      rfl

end

/-- A pattern put behind `xs` is found there, or earlier. -/
theorem find_append_self (pat xs ys : List α) :
    ∃ k ≤ xs.length, find pat (xs ++ pat ++ ys) = some k := by
  induction xs with
  | nil => exact ⟨0, le_rfl, find_start (prefix_append _ _)⟩
  | cons x xs ih =>
    obtain ⟨k, hk, hfind⟩ := ih
    by_cases hpre : pat <+: x :: (xs ++ pat ++ ys)
    · exact ⟨0, Nat.zero_le _, find_start hpre⟩
    · refine ⟨k + 1, by simpa using hk, ?_⟩
      rw [cons_append, cons_append, find_behind hpre, hfind]
      rfl

/-- A pattern whose first element is not repeated in it is found behind `xs` if it is not in `xs`. -/
theorem find_append_of_not_infix {a : α} {pat xs : List α} (hfirst : a ∉ pat) (h : ¬ a :: pat <:+: xs)
    (ys : List α) : find (a :: pat) (xs ++ (a :: pat ++ ys)) = some xs.length := by
  induction xs with
  | nil => exact find_start (prefix_append _ _)
  | cons x xs ih =>
    have hpre : ¬ a :: pat <+: x :: (xs ++ (a :: pat ++ ys)) := by
      intro hpre
      obtain ⟨z, hz⟩ := hpre
      rcases append_eq_append_iff.mp (show (a :: pat) ++ z = (x :: xs) ++ (a :: pat ++ ys) from hz) with
        ⟨rest, hxs, -⟩ | ⟨rest, hpat, hrest⟩
      · exact h ⟨[], rest, by rw [nil_append, ← hxs]⟩
      · -- the pattern would begin again in itself
        cases rest with
        | nil => exact h ⟨[], [], by rw [hpat, append_nil, append_nil, nil_append]⟩
        | cons b rest =>
          obtain ⟨rfl, rfl⟩ := List.cons.inj hpat
          obtain ⟨rfl, -⟩ := List.cons.inj hrest
          exact hfirst (by simp)
    rw [cons_append, find_behind hpre, ih fun hin => h (infix_cons hin)]
    rfl

theorem find_drop {pat xs : List α} (h : find pat xs = some k) (hn : n ≤ k) :
    find pat (xs.drop n) = some (k - n) := by
  induction n generalizing xs k with
  | zero => exact h
  | succ n ih =>
    cases xs with
    | nil =>
      simp only [find] at h
      split_ifs at h with hpat
      cases h
      omega
    | cons x xs =>
      by_cases hpre : pat <+: x :: xs
      · rw [find_start hpre] at h
        cases h
        omega
      · rw [find_behind hpre] at h
        obtain ⟨j, hj, rfl⟩ := Option.map_eq_some_iff.mp h
        rw [drop_succ_cons, ih hj (by omega)]
        congr 1
        omega

end find

/-! ## Readers -/

/-- An incremental parser on a stream of `α` that yields values of `β`. -/
structure Reader (α β : Type*) where
  /-- From the unconsumed input: wait (`none`), or a value and how much to consume. -/
  read : List α → Option (β × ℕ)
  pos : ∀ {xs b n}, read xs = some (b, n) → 0 < n
  le : ∀ {xs b n}, read xs = some (b, n) → n ≤ xs.length
  /-- More input does not change the result. -/
  stable : ∀ {xs b n}, read xs = some (b, n) → ∀ ys, read (xs ++ ys) = some (b, n)

namespace Reader

variable (r : Reader α β)

/-- All values at hand, and the input that is left when the reader waits. -/
def drain (xs : List α) : List β × List α :=
  match _h : r.read xs with
  | none => ([], xs)
  | some (b, n) => (b :: (drain (xs.drop n)).1, (drain (xs.drop n)).2)
termination_by xs.length
decreasing_by
  all_goals
    have := r.pos _h
    have := r.le _h
    simp only [List.length_drop]
    omega

variable {r}

theorem drain_none {xs : List α} (h : r.read xs = none) : r.drain xs = ([], xs) := by
  rw [drain]
  split
  · rfl
  · rename_i hsome
    simp [h] at hsome

theorem drain_some {xs : List α} {b : β} (h : r.read xs = some (b, n)) :
    r.drain xs = (b :: (r.drain (xs.drop n)).1, (r.drain (xs.drop n)).2) := by
  conv_lhs => rw [drain]
  split
  · rename_i hnone
    simp [h] at hnone
  · rename_i hsome
    simp only [h, Option.some.injEq, Prod.mk.injEq] at hsome
    obtain ⟨rfl, rfl⟩ := hsome
    rfl

theorem read_drain (xs : List α) : r.read (r.drain xs).2 = none := by
  induction hn : xs.length using Nat.strongRecOn generalizing xs with
  | ind n ih =>
    cases h : r.read xs with
    | none => rw [drain_none h]; exact h
    | some bn =>
      obtain ⟨b, k⟩ := bn
      have hpos := r.pos h
      have hle := r.le h
      rw [drain_some h]
      exact ih _ (by simp only [length_drop]; omega) (xs.drop k) rfl

/-- **More input**: the values at hand come first, then the reader goes on with what was left. -/
theorem drain_append (xs ys : List α) :
    r.drain (xs ++ ys) =
      ((r.drain xs).1 ++ (r.drain ((r.drain xs).2 ++ ys)).1, (r.drain ((r.drain xs).2 ++ ys)).2) := by
  induction hn : xs.length using Nat.strongRecOn generalizing xs with
  | ind n ih =>
    cases h : r.read xs with
    | none => rw [drain_none h]; rfl
    | some bn =>
      obtain ⟨b, k⟩ := bn
      have hpos := r.pos h
      have hle := r.le h
      have hdrop : (xs ++ ys).drop k = xs.drop k ++ ys := drop_append_of_le_length hle
      rw [drain_some (r.stable h ys), drain_some h, hdrop,
        ih _ (by simp only [length_drop]; omega) (xs.drop k) rfl]
      rfl

variable (r) in
/-- Input that arrives in chunks: the values yielded, and what is left in the end. -/
def feed : List α → List (List α) → List β × List α
  | left, [] => ([], left)
  | left, chunk :: chunks =>
      ((r.drain (left ++ chunk)).1 ++ (feed (r.drain (left ++ chunk)).2 chunks).1,
        (feed (r.drain (left ++ chunk)).2 chunks).2)

/-- **Chunking does not matter**: from input on which the reader waits, chunks yield what the whole
input yields. -/
theorem feed_eq_drain {left : List α} (h : r.read left = none) (chunks : List (List α)) :
    r.feed left chunks = r.drain (left ++ chunks.flatten) := by
  induction chunks generalizing left with
  | nil => rw [flatten_nil, append_nil, drain_none h, feed]
  | cons chunk chunks ih =>
    rw [flatten_cons, ← append_assoc, drain_append, feed, ih (read_drain _)]

end Reader

/-! ## Loops that take a chunk in each turn -/

section turns

variable {S : Type*}

/-- The values that the turns of a loop yield, the state after them, and whether the loop ended. -/
def runTurns (turn : S → List α → List β × S × Bool) : S → List (List α) → List β × S × Bool
  | s, [] => ([], s, false)
  | s, chunk :: chunks =>
      if (turn s chunk).2.2 then turn s chunk
      else
        ((turn s chunk).1 ++ (runTurns turn (turn s chunk).2.1 chunks).1,
          (runTurns turn (turn s chunk).2.1 chunks).2)

/-- On bad input a turn yields nothing, does not end the loop, and keeps the input; more input does not
make it better. A state `s` with `holds s left` has not consumed `left`, and has room for `size`. -/
structure Stalls (turn : S → List α → List β × S × Bool) (holds : S → List α → Prop) (size : ℕ)
    (bad : List α → Prop) : Prop where
  turn_eq : ∀ {s left chunk}, holds s left → bad (left ++ chunk) → chunk ≠ [] →
    (left ++ chunk).length ≤ size → ∃ s', turn s chunk = ([], s', false) ∧ holds s' (left ++ chunk)
  append : ∀ {xs}, bad xs → ∀ more, bad (xs ++ more)

/-- **A run that stalls** yields nothing and keeps all its input. -/
theorem Stalls.run {turn : S → List α → List β × S × Bool} {holds : S → List α → Prop} {size : ℕ}
    {bad : List α → Prop} (h : Stalls turn holds size bad) {s : S} {left chunk : List α}
    {chunks : List (List α)} (hs : holds s left) (hbad : bad (left ++ chunk))
    (hne : ∀ c ∈ chunk :: chunks, c ≠ [])
    (hfit : (left ++ (chunk :: chunks).flatten).length ≤ size) :
    ∃ s', runTurns turn s (chunk :: chunks) = ([], s', false) ∧
      holds s' (left ++ (chunk :: chunks).flatten) := by
  induction chunks generalizing s left chunk with
  | nil =>
    rw [flatten_cons, flatten_nil, append_nil] at hfit ⊢
    obtain ⟨s', hturn, hs'⟩ := h.turn_eq hs hbad (hne chunk (mem_cons_self ..)) hfit
    refine ⟨s', ?_, hs'⟩
    simp [runTurns, hturn]
  | cons next chunks ih =>
    rw [flatten_cons, ← append_assoc] at hfit ⊢
    obtain ⟨s₁, hturn, hs₁⟩ := h.turn_eq hs hbad (hne chunk (mem_cons_self ..))
      (by rw [length_append] at hfit; omega)
    obtain ⟨s', hrun, hs'⟩ := ih hs₁ (h.append hbad next)
      (fun c hc => hne c (mem_cons_of_mem _ hc)) hfit
    refine ⟨s', ?_, hs'⟩
    rw [runTurns, hturn, hrun]
    rfl

end turns

end Dlt.Lib
