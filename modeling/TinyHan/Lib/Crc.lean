/-
**Cyclic redundancy checks.**

The register of a CRC takes the bits of a message one by one, most significant first: it is shifted
to the left, and the polynomial is added when the bit that falls out differs from the message bit
(`feed`). The register is linear in its content and the message together (`feed_xor`), so the CRC of
a corrupted message tells the CRC of the error alone. To shift is injective when the polynomial is
odd (`shift_injective`), and a word as wide as the register goes in as a whole (`feed_word`); so no
error within one such word leaves the register as it was (`feed_burst_ne_zero`).
-/

import Mathlib.Logic.Function.Iterate
import Mathlib.Tactic.Ring

namespace TinyHan.Lib.Crc

variable {w : Nat} (poly : BitVec w)

/-! ### The register -/

/-- One shift of the register. -/
def shift (register : BitVec w) : BitVec w :=
  (register <<< 1) ^^^ if register.msb then poly else 0#w

/-- One bit of the message. -/
def feedBit (register : BitVec w) (bit : Bool) : BitVec w :=
  (register <<< 1) ^^^ if register.msb ^^ bit then poly else 0#w

/-- The bits of a message, in order. -/
def feed (register : BitVec w) (bits : List Bool) : BitVec w :=
  bits.foldl (feedBit poly) register

theorem feed_append (register : BitVec w) (one two : List Bool) :
    feed poly register (one ++ two) = feed poly (feed poly register one) two :=
  List.foldl_append

/-! ### Linearity -/

theorem feedBit_xor (one two : BitVec w) (bit other : Bool) :
    feedBit poly (one ^^^ two) (bit ^^ other) =
      feedBit poly one bit ^^^ feedBit poly two other := by
  have select (left right : Bool) : (if left ^^ right then poly else 0#w) =
      (if left then poly else 0#w) ^^^ if right then poly else 0#w := by
    cases left <;> cases right <;> simp
  have cross : ((one ^^^ two).msb ^^ (bit ^^ other)) =
      ((one.msb ^^ bit) ^^ (two.msb ^^ other)) := by
    rw [BitVec.msb_xor]
    cases one.msb <;> cases two.msb <;> cases bit <;> cases other <;> rfl
  unfold feedBit
  rw [cross, select, BitVec.shiftLeft_xor_distrib]
  ac_rfl

/-- **The register is linear** in its content and the message. -/
theorem feed_xor (one two : BitVec w) (bits others : List Bool)
    (same : bits.length = others.length) :
    feed poly (one ^^^ two) (List.zipWith (· ^^ ·) bits others) =
      feed poly one bits ^^^ feed poly two others := by
  induction bits generalizing one two others with
  | nil =>
      obtain rfl := List.length_eq_zero_iff.mp same.symm
      rfl
  | cons bit bits ih =>
      cases others with
      | nil => cases same
      | cons other others =>
          simp only [feed, List.zipWith_cons_cons, List.foldl_cons, feedBit_xor]
          exact ih _ _ others (Nat.succ.inj same)

theorem feedBit_false (register : BitVec w) :
    feedBit poly register false = shift poly register := by
  rw [feedBit, Bool.xor_false, shift]

theorem shift_xor (one two : BitVec w) :
    shift poly (one ^^^ two) = shift poly one ^^^ shift poly two := by
  simpa only [feedBit_false, Bool.xor_false] using feedBit_xor poly one two false false

theorem shift_zero : shift poly 0#w = 0#w := by
  simp [shift]

/-- Zeros only shift the register. -/
theorem feed_replicate_false (register : BitVec w) (count : Nat) :
    feed poly register (List.replicate count false) = (shift poly)^[count] register := by
  induction count generalizing register with
  | zero => rfl
  | succ count ih =>
      rw [List.replicate_succ, Function.iterate_succ_apply, ← ih, ← feedBit_false]
      rfl

theorem iterate_shift_zero (count : Nat) : (shift poly)^[count] 0#w = 0#w :=
  Function.iterate_fixed (shift_zero poly) count

/-- Zeros in front of a message do not count. -/
theorem feed_zeros (count : Nat) (bits : List Bool) :
    feed poly 0#w (List.replicate count false ++ bits) = feed poly 0#w bits := by
  rw [feed_append, feed_replicate_false, iterate_shift_zero]

theorem iterate_shift_xor (count : Nat) (one two : BitVec w) :
    (shift poly)^[count] (one ^^^ two) = (shift poly)^[count] one ^^^ (shift poly)^[count] two := by
  induction count generalizing one two with
  | zero => rfl
  | succ count ih => rw [Function.iterate_succ_apply, shift_xor, ih]; rfl

/-! ### Shifting is injective -/

section Odd

variable {poly} (odd : poly.getLsbD 0 = true)

include odd

theorem eq_zero_of_shift {register : BitVec w} (none : shift poly register = 0#w) :
    register = 0#w := by
  have wide : 0 < w := by
    by_contra empty
    rw [BitVec.getLsbD_of_ge _ _ (by omega)] at odd
    cases odd
  have bit (index : Nat) := congrArg (BitVec.getLsbD · index) none
  simp only [shift, BitVec.getLsbD_xor, BitVec.getLsbD_shiftLeft, BitVec.getLsbD_zero] at bit
  -- The bit that falls out is bit 0 of the shifted register.
  have top : register.msb = false := by
    have first := bit 0
    cases out : register.msb
    · rfl
    · simp [out, odd] at first
  apply BitVec.eq_of_getLsbD_eq
  intro index inside
  rw [BitVec.getLsbD_zero]
  by_cases last : index + 1 < w
  · simpa [top, last] using bit (index + 1)
  · rw [BitVec.msb_eq_getLsbD_last] at top
    rwa [show index = w - 1 by omega]

/-- **An odd polynomial loses nothing.** -/
theorem shift_injective : Function.Injective (shift poly) := by
  intro one two same
  have none : shift poly (one ^^^ two) = 0#w := by rw [shift_xor, same, BitVec.xor_self]
  have zero := eq_zero_of_shift odd none
  rwa [BitVec.xor_eq_zero_iff] at zero

theorem iterate_shift_injective (count : Nat) : Function.Injective (shift poly)^[count] :=
  (shift_injective odd).iterate count

theorem eq_zero_of_iterate_shift {register : BitVec w} {count : Nat}
    (none : (shift poly)^[count] register = 0#w) : register = 0#w := by
  rw [← iterate_shift_zero poly count] at none
  exact iterate_shift_injective odd count none

end Odd

/-! ### Words -/

/-- The bits of a word, most significant first. -/
def wordBits (word : BitVec w) : List Bool := (List.range w).map word.getMsbD

/-- The word that begins with the given bits. -/
def place : List Bool → BitVec w
  | [] => 0#w
  | bit :: rest => (if bit then BitVec.intMin w else 0#w) ^^^ (place rest >>> 1)

@[simp] theorem length_wordBits (word : BitVec w) : (wordBits word).length = w := by
  simp [wordBits]

theorem getMsbD_place (bits : List Bool) (index : Nat) (inside : index < w) :
    (place bits : BitVec w).getMsbD index = bits.getD index false := by
  induction bits generalizing index with
  | nil => simp [place]
  | cons bit rest ih =>
      have top : (if bit then BitVec.intMin w else 0#w).getMsbD index =
          (bit && decide (index = 0)) := by
        cases bit
        · simp
        · rw [if_pos rfl, BitVec.getMsbD_eq_getLsbD, BitVec.getLsbD_intMin, Bool.true_and]
          simp only [inside, decide_true, Bool.true_and, decide_eq_decide]
          omega
      rw [place, BitVec.getMsbD_xor, top, BitVec.getMsbD_ushiftRight]
      cases index with
      | zero => simp
      | succ index =>
          have below := ih index (by omega)
          simp only [inside, decide_true, Nat.add_sub_cancel, below]
          simp

theorem place_wordBits (word : BitVec w) : place (wordBits word) = word := by
  apply BitVec.eq_of_getMsbD_eq
  intro index inside
  rw [getMsbD_place _ _ inside]
  simp [wordBits, inside]

theorem wordBits_place (bits : List Bool) (full : bits.length = w) :
    wordBits (place bits : BitVec w) = bits := by
  apply List.ext_getElem
  · simp [full]
  · intro index inside bound
    simp [wordBits, getMsbD_place _ _ (full ▸ bound), bound]

theorem wordBits_injective : Function.Injective (wordBits : BitVec w → List Bool) := by
  intro one two same
  rw [← place_wordBits one, same, place_wordBits]

theorem wordBits_zero : wordBits 0#w = List.replicate w false := by
  apply List.ext_getElem
  · simp
  · intro index inside bound
    simp [wordBits]

theorem wordBits_xor (one two : BitVec w) :
    wordBits (one ^^^ two) = List.zipWith (· ^^ ·) (wordBits one) (wordBits two) := by
  apply List.ext_getElem
  · simp
  · intro index inside bound
    simp [wordBits]

theorem wordBits_append {other : Nat} (one : BitVec w) (two : BitVec other) :
    wordBits (one ++ two) = wordBits one ++ wordBits two := by
  apply List.ext_getElem
  · simp
  · intro index inside bound
    simp only [wordBits, List.getElem_map, List.getElem_range, BitVec.getMsbD_append,
      List.getElem_append, List.length_map, List.length_range]
    split
    · next front => simp [front]
    · next back => simp [back]

/-- A word that is moved to the right. -/
theorem wordBits_ushiftRight (word : BitVec w) (count : Nat) (few : count ≤ w) :
    wordBits (word >>> (w - count)) =
      List.replicate (w - count) false ++ (wordBits word).take count := by
  apply List.ext_getElem
  · simp [few]
  · intro index inside bound
    simp only [length_wordBits] at inside
    simp only [wordBits, List.getElem_map, List.getElem_range, BitVec.getMsbD_ushiftRight,
      List.getElem_append, List.length_replicate]
    split
    · next left => simp [left]
    · next right => simp [right, inside]

/-- A word that is moved to the left. -/
theorem wordBits_shiftLeft (word : BitVec w) (count : Nat) (few : count ≤ w) :
    wordBits (word <<< count) = (wordBits word).drop count ++ List.replicate count false := by
  apply List.ext_getElem
  · simp [few]
  · intro index inside bound
    simp only [length_wordBits] at inside
    simp only [wordBits, List.getElem_map, List.getElem_range, BitVec.getMsbD_shiftLeft,
      List.getElem_append, List.length_drop, List.length_map, List.length_range, List.getElem_drop]
    split
    · next left => simp [Nat.add_comm]
    · next right =>
      rw [BitVec.getMsbD_of_ge _ _ (by omega)]
      simp

/-- The top bit alone falls out, and leaves the polynomial. -/
theorem shift_intMin (wide : 0 < w) : shift poly (BitVec.intMin w) = poly := by
  have gone : BitVec.intMin w <<< 1 = 0#w := by
    apply BitVec.eq_of_getLsbD_eq
    intro index inside
    simp only [BitVec.getLsbD_shiftLeft, BitVec.getLsbD_intMin, BitVec.getLsbD_zero]
    simp
    omega
  rw [shift, BitVec.msb_intMin, gone]
  simp [wide]

/-- Bits that end before the last place come back from a move to the right. -/
theorem shift_place {bits : List Bool} (short : bits.length < w) :
    shift poly (place bits >>> 1) = place bits := by
  have low : (place bits : BitVec w).getLsbD 0 = false := by
    rw [BitVec.getLsbD_eq_getMsbD, getMsbD_place _ _ (by omega), List.getD_eq_getElem?_getD,
      List.getElem?_eq_none (by omega)]
    simp
  have back : (place bits : BitVec w) >>> 1 <<< 1 = place bits := by
    apply BitVec.eq_of_getLsbD_eq
    intro index inside
    cases index with
    | zero => simp [low]
    | succ index => simp [inside, Nat.add_comm]
  have clear : ((place bits : BitVec w) >>> 1).msb = false := by simp
  rw [shift, clear, back]
  simp

/-- Bits that do not fill a word go into the register as the word that begins with them. -/
theorem feed_place (register : BitVec w) (bits : List Bool) (short : bits.length ≤ w) :
    feed poly register bits = (shift poly)^[bits.length] (register ^^^ place bits) := by
  induction bits generalizing register with
  | nil => simp [feed, place]
  | cons bit rest ih =>
      rw [List.length_cons] at short
      have top : shift poly (if bit then BitVec.intMin w else 0#w) =
          if bit then poly else 0#w := by
        cases bit
        · exact shift_zero poly
        · exact shift_intMin poly (by omega)
      have split : feedBit poly register bit =
          shift poly register ^^^ if bit then poly else 0#w := by
        have bits := feedBit_xor poly register 0#w false bit
        rw [BitVec.xor_zero, Bool.false_xor, feedBit_false] at bits
        rw [bits, feedBit]
        simp
      have once : feedBit poly register bit ^^^ place rest =
          shift poly (register ^^^ place (bit :: rest)) := by
        rw [place, shift_xor, shift_xor, top, shift_place poly (by omega), split, BitVec.xor_assoc]
      rw [List.length_cons, Function.iterate_succ_apply, ← once]
      exact ih _ (by omega)

/-- **A word goes into the register as a whole.** -/
theorem feed_word (register word : BitVec w) :
    feed poly register (wordBits word) = (shift poly)^[w] (register ^^^ word) := by
  rw [feed_place poly _ _ (length_wordBits word).le, length_wordBits, place_wordBits]

/-- Bits that are set within `w` places only are a word between zeros. -/
theorem exists_word {bits : List Bool} (long : w ≤ bits.length) {start : Nat}
    (confined : ∀ index, bits.getD index false = true → start ≤ index ∧ index < start + w) :
    ∃ before after, ∃ word : BitVec w, before + w + after = bits.length ∧
      bits = List.replicate before false ++ wordBits word ++ List.replicate after false := by
  -- The window is moved to the left where it would leave the message.
  let before := min start (bits.length - w)
  have clear (index : Nat) (inside : index < bits.length)
      (outside : index < before ∨ before + w ≤ index) : bits[index] = false := by
    by_contra set
    have bounds := confined index (by simpa [inside] using set)
    omega
  refine ⟨before, bits.length - (before + w), place ((bits.drop before).take w), by omega,
    ?_⟩
  rw [wordBits_place _ (by rw [List.length_take, List.length_drop]; omega)]
  apply List.ext_getElem
  · simp
    omega
  · intro index inside bound
    simp only [List.getElem_append, List.length_append, List.length_replicate, List.length_take,
      List.length_drop, List.getElem_replicate, List.getElem_take, List.getElem_drop]
    split
    · split
      · exact clear index inside (by omega)
      · congr 1
        omega
    · exact clear index inside (by omega)

/-- **No error within one word goes unseen**, however many zeros stand around it. -/
theorem feed_burst_ne_zero {poly : BitVec w} (odd : poly.getLsbD 0 = true) {word : BitVec w}
    (some : word ≠ 0#w) (before after : Nat) :
    feed poly 0#w (List.replicate before false ++ wordBits word ++
      List.replicate after false) ≠ 0#w := by
  intro none
  rw [feed_append, feed_zeros, feed_replicate_false, feed_word, BitVec.zero_xor] at none
  exact some (eq_zero_of_iterate_shift odd (eq_zero_of_iterate_shift odd none))

end TinyHan.Lib.Crc
