/-
**Time on a clock that wraps.**

A clock of `w` bits counts ticks modulo `2 ^ w`. A deadline is compared with it through the sign of
their difference, which is right for deadlines less than half a turn away. `ahead` is the number of
ticks until the clock shows the deadline; while it is small, a deadline has passed exactly when it
is zero, and every tick takes one from it.
-/

import Mathlib.Data.BitVec

namespace TinyHan.Lib

variable {w : Nat}

/-- The ticks until a clock at `now` shows `deadline`. -/
def ahead (now deadline : BitVec w) : Nat := (deadline - now).toNat

/-- The deadline is reached or behind, by the sign of the difference. -/
def passed (now deadline : BitVec w) : Bool := decide (0 ≤ (now - deadline).toInt)

@[simp] theorem ahead_add (now delay : BitVec w) : ahead now (now + delay) = delay.toNat := by
  rw [ahead, BitVec.add_comm, BitVec.add_sub_cancel]

/-- A tick takes one from the ticks ahead. -/
theorem ahead_succ {now deadline : BitVec w} (later : ahead now deadline ≠ 0) :
    ahead (now + 1#w) deadline = ahead now deadline - 1 := by
  have step : deadline - (now + 1#w) = deadline - now - 1#w := by
    simp only [BitVec.sub_eq_add_neg, BitVec.neg_add, BitVec.add_assoc]
  have positive : 1 ≤ (deadline - now).toNat := Nat.one_le_iff_ne_zero.mpr later
  have small : (deadline - now).toNat < 2 ^ w := (deadline - now).isLt
  have one : (1#w).toNat = 1 := by
    rw [BitVec.toNat_ofNat]
    exact Nat.mod_eq_of_lt (by omega)
  rw [ahead, step, BitVec.toNat_sub_of_le (by rw [BitVec.le_def, one]; exact positive), one]
  rfl

/-- **A deadline at most half a turn ahead has passed exactly when the clock shows it.** -/
theorem passed_iff {now deadline : BitVec w} (near : 2 * ahead now deadline ≤ 2 ^ w) :
    passed now deadline = true ↔ ahead now deadline = 0 := by
  have opposite : now - deadline = -(deadline - now) := by
    rw [BitVec.neg_sub, BitVec.add_comm, ← BitVec.sub_eq_add_neg]
  have bound : (deadline - now).toNat < 2 ^ w := (deadline - now).isLt
  rw [passed, decide_eq_true_iff, opposite, BitVec.toInt_eq_toNat_cond, BitVec.toNat_neg]
  simp only [ahead] at near ⊢
  rcases Nat.eq_zero_or_pos (deadline - now).toNat with zero | positive
  · have turn : 0 < 2 ^ w := Nat.two_pow_pos w
    simp [zero, turn]
  · rw [Nat.mod_eq_of_lt (by omega)]
    split <;> omega

/-- Two times less than half a turn behind `start`, and what is between them. -/
theorem toInt_between (start : BitVec w) {later sooner : Nat} (near : 2 * later < 2 ^ w)
    (recent : 2 * sooner < 2 ^ w) :
    (start + BitVec.ofNat w later - (start + BitVec.ofNat w sooner)).toInt = later - sooner := by
  have small {n : Nat} (half : 2 * n < 2 ^ w) : (BitVec.ofNat w n).toInt = n := by
    rw [BitVec.toInt_ofNat']
    exact Int.bmod_eq_of_le_mul_two (by omega) (by omega)
  have difference : ((later : Int) - sooner).bmod (2 ^ w) = later - sooner :=
    Int.bmod_eq_of_le_mul_two (by omega) (by omega)
  rw [add_sub_add_left_eq_sub, BitVec.toInt_sub, small near, small recent, difference]

/-- **A deadline against the time that has elapsed**: on a clock that has advanced by less than half
a turn since the deadline was set less than half a turn ahead, the sign of what is left says whether
as much has elapsed. -/
theorem remaining_nonpos_iff (start : BitVec w) {delay elapsed : Nat} (near : 2 * delay < 2 ^ w)
    (recent : 2 * elapsed < 2 ^ w) :
    (start + BitVec.ofNat w delay - (start + BitVec.ofNat w elapsed)).toInt ≤ 0 ↔
      delay ≤ elapsed := by
  rw [toInt_between start near recent]
  omega

/-- The same, from the deadline to the clock. -/
theorem passed_add_iff (start : BitVec w) {delay elapsed : Nat} (near : 2 * delay < 2 ^ w)
    (recent : 2 * elapsed < 2 ^ w) :
    passed (start + BitVec.ofNat w elapsed) (start + BitVec.ofNat w delay) = true ↔
      delay ≤ elapsed := by
  rw [passed, decide_eq_true_iff, toInt_between start recent near]
  omega

end TinyHan.Lib
