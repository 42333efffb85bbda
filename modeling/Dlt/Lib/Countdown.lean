import Mathlib.Tactic.Linarith
import Mathlib.Tactic.Ring
import Mathlib.Algebra.Order.Ring.Int

/-!
# Several periods on one counter

* `countAt_due` — **a divisor of the period divides the counter, less one, in every tick that it divides**.
-/

namespace Dlt.Lib

/-- One tick of a counter that is set to `period` when it reaches zero. -/
def countDown (period count : ℤ) : ℤ :=
  let count := if count > 0 then count - 1 else count
  if count = 0 then period else count

/-- The counter before the tick `t + 1`, from a full period on. -/
def countAt (period : ℤ) : ℕ → ℤ
  | 0 => period
  | t + 1 => countDown period (countAt period t)

variable {period k : ℤ}

theorem countDown_of_one_lt {count : ℤ} (h : 1 < count) : countDown period count = count - 1 := by
  unfold countDown
  have hpos : count > 0 := by linarith
  have hne : count - 1 ≠ 0 := by linarith
  simp [hpos, hne]

theorem countDown_one : countDown period 1 = period := rfl

/-- A positive period keeps the counter positive, and the counter and the ticks add up to a multiple of it. -/
theorem period_dvd_countAt (h : 0 < period) (t : ℕ) : 0 < countAt period t ∧ period ∣ countAt period t + t := by
  induction t with
  | zero => exact ⟨h, by simp [countAt]⟩
  | succ t ih =>
    obtain ⟨hpos, hdvd⟩ := ih
    rw [countAt, Nat.cast_succ]
    rcases eq_or_lt_of_le (show 1 ≤ countAt period t from hpos) with hone | hlt
    · rw [← hone] at hdvd ⊢
      rw [countDown_one]
      exact ⟨h, (Int.dvd_add_right (dvd_refl period)).mpr (by rwa [add_comm] at hdvd)⟩
    · rw [countDown_of_one_lt hlt]
      refine ⟨by linarith, ?_⟩
      rwa [show countAt period t - 1 + ((t : ℤ) + 1) = countAt period t + t by ring]

/-- **When a divisor of the period is due**: in the ticks that it divides. -/
theorem countAt_due (h : 0 < period) (hk : k ∣ period) (t : ℕ) :
    (countAt period t - 1) % k = 0 ↔ k ∣ ((t + 1 : ℕ) : ℤ) := by
  have hdvd : k ∣ countAt period t + t := hk.trans (period_dvd_countAt h t).2
  have hsum : countAt period t + t = (countAt period t - 1) + ((t + 1 : ℕ) : ℤ) := by
    push_cast
    ring
  rw [hsum] at hdvd
  rw [← Int.dvd_iff_emod_eq_zero]
  exact ⟨fun hcount => (Int.dvd_add_right hcount).mp hdvd, fun htick => (Int.dvd_add_left htick).mp hdvd⟩

end Dlt.Lib
