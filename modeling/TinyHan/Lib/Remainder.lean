/-
**What a CRC computes.**

A word of `w` bits is a polynomial over the field with two elements, with the most significant bit
as its leading coefficient, and so is a message. The register of `Lib.Crc` holds a remainder: fed
with a message it is what is left of the message, with `w` zeros behind it, after division by the
generator `X ^ w + poly` (`toPoly_feed`).

A CRC that has a name is a generator with some conventions (`Algorithm`): what the register holds at
the start, whether the bits of each byte and of the result are reversed, and what is added in the
end.
-/

import Mathlib.Algebra.CharP.Two
import Mathlib.Algebra.Polynomial.Div
import Mathlib.Algebra.Field.ZMod
import Mathlib.Tactic.LinearCombination
import TinyHan.Lib.Bytes
import TinyHan.Lib.Crc

namespace TinyHan.Lib.Crc

open Polynomial

variable {w : Nat}

/-! ### Words as polynomials -/

noncomputable section

/-- A bit as a coefficient. -/
def coefficient (bit : Bool) : ZMod 2 := if bit then 1 else 0

theorem coefficient_xor (one two : Bool) :
    coefficient (one ^^ two) = coefficient one + coefficient two := by
  cases one <;> cases two <;> decide

/-- The polynomial of a word. -/
def toPoly (word : BitVec w) : (ZMod 2)[X] :=
  ∑ place ∈ Finset.range w, C (coefficient (word.getLsbD place)) * X ^ place

theorem coeff_toPoly (word : BitVec w) (place : Nat) :
    (toPoly word).coeff place = coefficient (word.getLsbD place) := by
  simp only [toPoly, finsetSum_coeff, coeff_C_mul_X_pow, Finset.sum_ite_eq, Finset.mem_range]
  split
  · rfl
  · next outside =>
    rw [BitVec.getLsbD_of_ge _ _ (not_lt.mp outside)]
    rfl

theorem degree_toPoly_lt (word : BitVec w) : (toPoly word).degree < w := by
  rw [degree_lt_iff_coeff_zero]
  intro place outside
  rw [coeff_toPoly, BitVec.getLsbD_of_ge _ _ outside]
  rfl

theorem toPoly_xor (one two : BitVec w) : toPoly (one ^^^ two) = toPoly one + toPoly two := by
  ext place
  rw [coeff_add, coeff_toPoly, coeff_toPoly, coeff_toPoly, BitVec.getLsbD_xor, coefficient_xor]

theorem toPoly_zero : toPoly 0#w = 0 := by
  ext place
  rw [coeff_toPoly, BitVec.getLsbD_zero, coeff_zero]
  rfl

/-- A shift multiplies by `X`, but for the bit that falls out. -/
theorem toPoly_shiftLeft (word : BitVec w) :
    toPoly (word <<< 1) = X * toPoly word + C (coefficient word.msb) * X ^ w := by
  ext place
  rw [coeff_add, coeff_C_mul_X_pow, coeff_toPoly, BitVec.getLsbD_shiftLeft]
  cases place with
  | zero =>
      have narrow : (if 0 = w then coefficient word.msb else 0) = 0 := by
        split
        · next none =>
          subst none
          rw [BitVec.msb_eq_getLsbD_last, BitVec.getLsbD_of_ge _ _ (Nat.zero_le _)]
          rfl
        · rfl
      rw [coeff_X_mul_zero, narrow]
      simp [coefficient]
  | succ place =>
      rw [coeff_X_mul, coeff_toPoly]
      rcases lt_trichotomy (place + 1) w with inside | last | outside
      · simp [inside, inside.ne]
      · subst last
        have top : word.msb = word.getLsbD place := BitVec.msb_eq_getLsbD_last word
        rw [if_pos rfl, top, CharTwo.add_self_eq_zero]
        simp [coefficient]
      · rw [if_neg outside.ne', BitVec.getLsbD_of_ge word place (by omega)]
        simp [coefficient, outside.not_gt]

/-- The polynomial by which a register divides. -/
def generator (poly : BitVec w) : (ZMod 2)[X] := X ^ w + toPoly poly

theorem generator_monic (poly : BitVec w) : (generator poly).Monic :=
  monic_X_pow_add (degree_toPoly_lt poly)

theorem degree_generator (poly : BitVec w) : (generator poly).degree = w := by
  have less : (toPoly poly).degree < (X ^ w : (ZMod 2)[X]).degree := by
    rw [degree_X_pow]
    exact degree_toPoly_lt poly
  rw [generator, degree_add_eq_left_of_degree_lt less, degree_X_pow]

/-- What is in a register is a remainder. -/
theorem toPoly_modByMonic (poly register : BitVec w) :
    toPoly register %ₘ generator poly = toPoly register := by
  rw [modByMonic_eq_self_iff (generator_monic poly), degree_generator]
  exact degree_toPoly_lt register

/-- The polynomial of a message. -/
def message : List Bool → (ZMod 2)[X]
  | [] => 0
  | bit :: rest => C (coefficient bit) * X ^ rest.length + message rest

variable (poly register : BitVec w)

/-- **One bit** multiplies the register by `X`, adds the bit in front of it and takes the generator
away if it fits. -/
theorem toPoly_feedBit (bit : Bool) :
    toPoly (feedBit poly register bit) = X * toPoly register + C (coefficient bit) * X ^ w +
      C (coefficient (register.msb ^^ bit)) * generator poly := by
  have selected (chosen : Bool) :
      toPoly (if chosen then poly else 0#w) = C (coefficient chosen) * toPoly poly := by
    cases chosen with
    | false => simp [coefficient, toPoly_zero]
    | true => simp [coefficient]
  rw [feedBit, toPoly_xor, toPoly_shiftLeft, selected, generator, coefficient_xor, C_add]
  have even : (2 : (ZMod 2)[X]) = 0 := CharTwo.two_eq_zero
  linear_combination (-(C (coefficient bit) * X ^ w)) * even

/-- **A register that is fed with a message** holds the remainder of the message, with `w` zeros
behind it, added to what the register held in front of it. -/
theorem toPoly_feed (bits : List Bool) :
    toPoly (feed poly register bits) =
      (toPoly register * X ^ bits.length + message bits * X ^ w) %ₘ generator poly := by
  have divides : generator poly ∣ toPoly (feed poly register bits) -
      (toPoly register * X ^ bits.length + message bits * X ^ w) := by
    induction bits generalizing register with
    | nil => simp [feed, message]
    | cons bit rest ih =>
        obtain ⟨quotient, divided⟩ := ih (feedBit poly register bit)
        refine ⟨quotient + C (coefficient (register.msb ^^ bit)) * X ^ rest.length, ?_⟩
        have once := toPoly_feedBit poly register bit
        have fed : feed poly register (bit :: rest) = feed poly (feedBit poly register bit) rest :=
          rfl
        rw [fed, message, List.length_cons, pow_succ]
        linear_combination divided + X ^ rest.length * once
  rw [← modByMonic_eq_of_dvd_sub (generator_monic poly) divides, toPoly_modByMonic]

end

/-! ### Conventions -/

/-- The parameters of a CRC over bytes. -/
structure Algorithm (w : Nat) where
  poly : BitVec w
  init : BitVec w
  /-- The bits of each byte go in with the least significant first. -/
  reflectIn : Bool
  /-- The bits of the result are reversed. -/
  reflectOut : Bool
  xorOut : BitVec w

/-- The bits of a byte in the order in which they go in. -/
def Algorithm.byteBits (algorithm : Algorithm w) (byte : Byte) : List Bool :=
  if algorithm.reflectIn then (wordBits byte).reverse else wordBits byte

/-- The CRC, bit by bit. -/
def Algorithm.crc (algorithm : Algorithm w) (bytes : List Byte) : BitVec w :=
  let register := feed algorithm.poly algorithm.init (bytes.flatMap algorithm.byteBits)
  (if algorithm.reflectOut then register.reverse else register) ^^^ algorithm.xorOut

/-- CRC-16/XMODEM. -/
def xmodem : Algorithm 16 := ⟨0x1021#16, 0#16, false, false, 0#16⟩

/-- Its check value, the CRC of the digits 1 to 9 in ASCII. -/
example : xmodem.crc [0x31#8, 0x32#8, 0x33#8, 0x34#8, 0x35#8, 0x36#8, 0x37#8, 0x38#8, 0x39#8] =
    0x31C3#16 := by decide +kernel

end TinyHan.Lib.Crc
