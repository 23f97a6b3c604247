/-
**An alarm on a clock that wraps.**

An alarm is a deadline that is set or not. It is looked at once for each value of the clock: it
rings when the deadline has passed, by the sign of the difference, and from then on it is not set.
An alarm that is set less than half a turn ahead rings exactly once, at the first look behind its
delay (`rings_iff`, `rung_eq`), and the number of looks has no bound, so the clock may wrap as often
as it likes in between and afterwards.
-/

import Mathlib.Logic.Function.Iterate
import TinyHan.Lib.Serial

namespace TinyHan.Lib

variable {w : Nat}

/-- A clock, and the deadline if one is set. -/
structure Alarm (w : Nat) where
  now : BitVec w
  deadline : Option (BitVec w)
  deriving DecidableEq, Repr

/-- The deadline is set and has passed. -/
def Alarm.rings (alarm : Alarm w) : Bool := alarm.deadline.any (passed alarm.now)

/-- A look at the alarm, and a tick of the clock. -/
def Alarm.tick (alarm : Alarm w) : Alarm w :=
  ⟨alarm.now + 1#w, if alarm.rings then none else alarm.deadline⟩

/-- How often the alarm rings in this many looks. -/
def Alarm.rung (alarm : Alarm w) : Nat → Nat
  | 0 => 0
  | looks + 1 => alarm.rings.toNat + alarm.tick.rung looks

/-- The alarm that was set at `start` for `delay` ticks, after `elapsed` of them. -/
def Alarm.set (start : BitVec w) (delay elapsed : Nat) : Alarm w :=
  ⟨start + BitVec.ofNat w elapsed, some (start + BitVec.ofNat w delay)⟩

/-! ### An alarm that is not set -/

/-- It never rings. -/
theorem rings_iterate_unset (now : BitVec w) (looks : Nat) :
    (Alarm.tick^[looks] ⟨now, none⟩).rings = false := by
  induction looks generalizing now with
  | zero => rfl
  | succ looks ih => exact ih (now + 1#w)

theorem rung_unset (now : BitVec w) (looks : Nat) : (Alarm.mk now none).rung looks = 0 := by
  induction looks generalizing now with
  | zero => rfl
  | succ looks ih => exact (Nat.zero_add _).trans (ih (now + 1#w))

/-! ### An alarm that is set -/

section Set

variable (start : BitVec w) {delay elapsed : Nat} (near : 2 * delay < 2 ^ w)
  (recent : 2 * elapsed < 2 ^ w)

include near recent

theorem rings_set_iff : (Alarm.set start delay elapsed).rings = true ↔ delay ≤ elapsed :=
  passed_add_iff start near recent

/-- The look at which it rings takes the deadline away. -/
theorem tick_set_of_le (due : delay ≤ elapsed) :
    (Alarm.set start delay elapsed).tick = ⟨start + BitVec.ofNat w elapsed + 1#w, none⟩ := by
  rw [Alarm.tick, (rings_set_iff start near recent).mpr due]
  rfl

/-- Before that a look leaves it as it is. -/
theorem tick_set_of_lt (early : elapsed < delay) :
    (Alarm.set start delay elapsed).tick = .set start delay (elapsed + 1) := by
  have silent : ¬ (Alarm.set start delay elapsed).rings = true := fun rings =>
    absurd ((rings_set_iff start near recent).mp rings) (not_le.mpr early)
  rw [Alarm.tick, if_neg silent]
  simp only [Alarm.set, BitVec.ofNat_add, BitVec.add_assoc]

/-- **An alarm rings at the first look behind its delay**, and at no other. -/
theorem rings_iff (looks : Nat) :
    (Alarm.tick^[looks] (.set start delay elapsed)).rings = true ↔ looks = delay - elapsed := by
  induction looks generalizing elapsed with
  | zero =>
      rw [Function.iterate_zero_apply, rings_set_iff start near recent]
      omega
  | succ looks ih =>
      rw [Function.iterate_succ_apply]
      rcases Nat.lt_or_ge elapsed delay with early | due
      · rw [tick_set_of_lt start near recent early, ih (by omega)]
        omega
      · rw [tick_set_of_le start near recent due, rings_iterate_unset]
        exact iff_of_false nofun (by omega)

/-- **It rings once**, if it is looked at often enough. -/
theorem rung_eq (looks : Nat) :
    (Alarm.set start delay elapsed).rung looks = if delay - elapsed < looks then 1 else 0 := by
  induction looks generalizing elapsed with
  | zero => rfl
  | succ looks ih =>
      rw [Alarm.rung]
      rcases Nat.lt_or_ge elapsed delay with early | due
      · have silent : (Alarm.set start delay elapsed).rings = false := by
          refine Bool.eq_false_iff.mpr fun rings => ?_
          exact absurd ((rings_set_iff start near recent).mp rings) (not_le.mpr early)
        rw [silent, tick_set_of_lt start near recent early, ih (by omega), Bool.toNat_false,
          Nat.zero_add]
        exact if_congr (by omega) rfl rfl
      · rw [(rings_set_iff start near recent).mpr due, tick_set_of_le start near recent due,
          rung_unset, Bool.toNat_true, if_pos (by omega)]

end Set

end TinyHan.Lib
