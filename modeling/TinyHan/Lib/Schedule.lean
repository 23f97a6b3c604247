/-
**A schedule on a counter that wraps.**

Something happens whenever a counter has a given residue, its phase, modulo a period. `visits`
counts how often this is the case while the counter advances. Only the residue of the counter
matters (`visits_congr`), so a wrap at a multiple of the period does not show, and in one period the
phase is met exactly once (`visits_period`).
-/

import Mathlib.Data.Int.CardIntervalMod

namespace TinyHan.Lib

variable {period phase : Nat}

/-- How many of `count` consecutive numbers from `start` on have the residue `phase`. -/
def visits (period phase start count : Nat) : Nat :=
  Nat.count (fun k => (start + k) % period = phase) count

@[simp] theorem visits_zero (start : Nat) : visits period phase start 0 = 0 := Nat.count_zero _

theorem visits_succ (start count : Nat) :
    visits period phase start (count + 1) =
      (if start % period = phase then 1 else 0) + visits period phase (start + 1) count := by
  rw [visits, Nat.count_succ', Nat.add_comm, visits, Nat.add_zero]
  simp only [Nat.add_assoc, Nat.add_comm 1]

/-- **The wrap does not show**: only the residue of the counter matters. -/
theorem visits_congr {start other : Nat} (same : start ≡ other [MOD period]) (count : Nat) :
    visits period phase start count = visits period phase other count := by
  have residue (k : Nat) : (start + k) % period = (other + k) % period := same.add_right k
  simp only [visits, residue]

/-- **In one period the phase is met once**, wherever the counter starts. -/
theorem visits_period (inside : phase < period) (start : Nat) :
    visits period phase start period = 1 := by
  have positive : 0 < period := Nat.zero_lt_of_lt inside
  have counted (n : Nat) : Nat.count (fun k => k % period = phase) n =
      n / period + if phase % period < n % period then 1 else 0 := by
    rw [← Nat.count_modEq_card n positive phase]
    simp only [Nat.ModEq, Nat.mod_eq_of_lt inside]
  have parted := Nat.count_add (fun k => k % period = phase) start period
  rw [counted, counted, Nat.add_div_right start positive, Nat.add_mod_right] at parted
  change _ = _ + visits period phase start period at parted
  omega

end TinyHan.Lib
