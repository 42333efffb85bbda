import Dlt.Lib.Pieces

/-!
# Reading a file in blocks

* `InputFile` — an open file: what it holds, the position and the mark that its end was met. `InputFile.start`,
  `InputFile.seek`, `InputFile.read` — opening, setting the position and reading up to `n` elements. A read that
  gets fewer than it asked for sets the mark.
* `InputFile.readToEnd_eq` — **the blocks are the pieces of the file, and behind them an empty block where the
  length of the file is a multiple of the size of a block.**
-/

namespace Dlt.Lib

open List

variable {α : Type*}
variable {size : ℕ}

structure InputFile (α : Type*) where
  content : List α
  pos : ℕ
  eof : Bool

namespace InputFile

/-- A file that was just opened. -/
def start (content : List α) : InputFile α := { content := content, pos := 0, eof := false }

/-- The position is set, and the mark is cleared. -/
def seek (file : InputFile α) (pos : ℕ) : InputFile α := { file with pos := pos, eof := false }

/-- Up to `n` elements from the position on. -/
def read (file : InputFile α) (n : ℕ) : List α × InputFile α :=
  let data := (file.content.drop file.pos).take n
  (data, { file with pos := file.pos + data.length, eof := file.eof || data.length < n })

/-- What is left is getting less. -/
def left (file : InputFile α) : ℕ := if file.eof then 0 else file.content.length - file.pos + 1

theorem left_read {file : InputFile α} {n : ℕ} (hn : 0 < n) (heof : file.eof = false) :
    (file.read n).2.left < file.left := by
  have hlen : (file.read n).1.length = min n (file.content.length - file.pos) := by
    unfold read
    rw [length_take, length_drop]
  unfold left
  rw [heof]
  by_cases hend : (file.read n).1.length < n
  · have hmark : (file.read n).2.eof = true := by
      show (file.eof || decide ((file.read n).1.length < n)) = true
      rw [decide_eq_true hend, Bool.or_true]
    rw [hmark]
    simp
  · have hpos : (file.read n).2.content.length - (file.read n).2.pos =
        file.content.length - (file.pos + (file.read n).1.length) := rfl
    have hmark : (file.read n).2.eof = false := by
      show (file.eof || decide ((file.read n).1.length < n)) = false
      rw [decide_eq_false hend, heof, Bool.or_false]
    rw [hmark, hpos]
    simp only [Bool.false_eq_true, if_false]
    omega

/-- Blocks of `size` elements until the end is met. -/
def readToEnd (size : ℕ) (file : InputFile α) : List (List α) :=
  if _h : 0 < size ∧ file.eof = false then (file.read size).1 :: readToEnd size (file.read size).2 else []
termination_by file.left
decreasing_by exact left_read _h.1 _h.2

theorem readToEnd_of_not_eof (hsize : 0 < size) {file : InputFile α} (heof : file.eof = false) :
    readToEnd size file = (file.read size).1 :: readToEnd size (file.read size).2 := by
  rw [readToEnd, dif_pos ⟨hsize, heof⟩]

theorem readToEnd_of_eof (size : ℕ) {file : InputFile α} (heof : file.eof = true) : readToEnd size file = [] := by
  rw [readToEnd, dif_neg (by rw [heof]; simp)]

theorem readToEnd_from (hsize : 0 < size) (content : List α) (pos : ℕ) (hpos : pos ≤ content.length) :
    readToEnd size ⟨content, pos, false⟩ = pieces size (content.drop pos) ++
      if size ∣ content.length - pos then [[]] else [] := by
  induction hn : content.length - pos using Nat.strong_induction_on generalizing pos with
  | _ n ih =>
    rw [readToEnd_of_not_eof hsize rfl]
    have hdata : ((⟨content, pos, false⟩ : InputFile α).read size).1 = (content.drop pos).take size := rfl
    have hlen : ((content.drop pos).take size).length = min size n := by
      rw [length_take, length_drop, hn]
    by_cases hfull : size ≤ n
    · -- a whole block: the loop goes on behind it
      have hfile : ((⟨content, pos, false⟩ : InputFile α).read size).2 = ⟨content, pos + size, false⟩ := by
        unfold read
        dsimp only
        rw [hlen, Nat.min_eq_left hfull, decide_eq_false (Nat.lt_irrefl size), Bool.or_false]
      have hpieces : pieces size (content.drop pos) =
          (content.drop pos).take size :: pieces size (content.drop (pos + size)) := by
        rw [pieces_of_pos hsize (by rw [length_drop]; omega), drop_drop]
      have hdvd : size ∣ n - size ↔ size ∣ n := Nat.dvd_sub_iff_left hfull (Nat.dvd_refl size)
      rw [hdata, hfile, ih (n - size) (by omega) (pos + size) (by omega) (by omega), hpieces, cons_append]
      simp only [hdvd]
    · -- the last block: the end is met
      have hend : ((⟨content, pos, false⟩ : InputFile α).read size).2.eof = true := by
        show (false || decide (((content.drop pos).take size).length < size)) = true
        rw [hlen, decide_eq_true (by omega), Bool.or_true]
      rw [hdata, readToEnd_of_eof size hend]
      by_cases hzero : n = 0
      · have hnil : content.drop pos = [] := drop_eq_nil_of_le (by omega)
        rw [hnil, hzero, if_pos (Nat.dvd_zero size), pieces_nil, take_nil, nil_append]
      · have hrest : (content.drop pos).drop size = [] :=
          drop_eq_nil_of_le (by rw [length_drop]; omega)
        rw [pieces_of_pos hsize (by rw [length_drop]; omega), hrest, pieces_nil,
          if_neg (fun hdvd => hfull (Nat.le_of_dvd (by omega) hdvd)), append_nil]

/-- **A file is read in its pieces**, and behind them there is an empty block where the length is a multiple of
the size of a block. -/
theorem readToEnd_eq (hsize : 0 < size) (content : List α) :
    readToEnd size (start content) = pieces size content ++ if size ∣ content.length then [[]] else [] :=
  readToEnd_from hsize content 0 (Nat.zero_le _)

end InputFile

end Dlt.Lib
