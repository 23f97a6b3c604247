/-
**Strings of C.**

A string is the memory behind a pointer up to the first zero byte. `strlen` looks at one byte more
than it counts. `strncpy` stops at the terminator or after `count` bytes, whichever comes first, and
pads what it writes with zeros, so a string that is too long is copied without a terminator.
`strlenReads` and `strncpyReads` are the offsets that the two look at.
-/

import Mathlib.Data.Nat.Find
import TinyHan.Lib.Bytes

namespace TinyHan.Lib

/-- `strlen`, of a memory with a zero byte in it. -/
def strlen (memory : Memory) (terminated : ∃ index, memory index = 0#8) : Nat :=
  Nat.find terminated

/-- The offsets that `strlen` looks at. -/
def strlenReads (memory : Memory) (terminated : ∃ index, memory index = 0#8) : List Nat :=
  List.range (strlen memory terminated + 1)

/-- `strncpy` from an offset on: the bytes that are written. -/
def strncpy (memory : Memory) (start : Nat) : Nat → List Byte
  | 0 => []
  | count + 1 =>
      if memory start = 0#8 then List.replicate (count + 1) 0#8
      else memory start :: strncpy memory (start + 1) count

/-- The offsets that `strncpy` looks at. -/
def strncpyReads (memory : Memory) (start : Nat) : Nat → List Nat
  | 0 => []
  | count + 1 =>
      start :: if memory start = 0#8 then [] else strncpyReads memory (start + 1) count

/-- The memory has a string at an offset, with its terminator. -/
structure HasString (memory : Memory) (start : Nat) (text : List Byte) : Prop where
  holds : Holds memory start (text ++ [0#8])
  plain : 0#8 ∉ text

section Strings

variable {memory : Memory} {start : Nat} {text : List Byte}

theorem hasString_nil : HasString memory start [] ↔ memory start = 0#8 := by
  constructor
  · rintro ⟨holds, -⟩
    exact (holds_cons.mp holds).1
  · intro zero
    exact ⟨holds_cons.mpr ⟨zero, rfl⟩, nofun⟩

theorem hasString_cons {byte : Byte} : HasString memory start (byte :: text) ↔
    memory start = byte ∧ byte ≠ 0#8 ∧ HasString memory (start + 1) text := by
  constructor
  · rintro ⟨holds, plain⟩
    obtain ⟨first, rest⟩ := holds_cons.mp holds
    obtain ⟨different, others⟩ := not_or.mp (mt List.mem_cons.mpr plain)
    exact ⟨first, Ne.symm different, rest, others⟩
  · rintro ⟨first, different, holds, plain⟩
    refine ⟨holds_cons.mpr ⟨first, holds⟩, fun member => ?_⟩
    rcases List.mem_cons.mp member with same | later
    · exact different same.symm
    · exact plain later

/-- **What `strncpy` writes**: the front of the string, padded with zeros. -/
theorem strncpy_eq (string : HasString memory start text) (count : Nat) :
    strncpy memory start count =
      text.take count ++ List.replicate (count - text.length) 0#8 := by
  induction count generalizing start text with
  | zero => simp [strncpy]
  | succ count ih =>
      cases text with
      | nil =>
          rw [strncpy, if_pos (hasString_nil.mp string)]
          rfl
      | cons byte rest =>
          obtain ⟨first, different, later⟩ := hasString_cons.mp string
          rw [strncpy, if_neg (first ▸ different), ih later, first]
          simp

/-- `strncpy` looks at the string and its terminator only. -/
theorem strncpyReads_le (string : HasString memory start text) {count index : Nat}
    (read : index ∈ strncpyReads memory start count) : index ≤ start + text.length := by
  induction count generalizing start text with
  | zero => cases read
  | succ count ih =>
      rw [strncpyReads] at read
      rcases List.mem_cons.mp read with rfl | later
      · exact Nat.le_add_right _ _
      · split_ifs at later with ends
        · cases later
        · cases text with
          | nil => exact absurd (hasString_nil.mp string) ends
          | cons byte rest =>
              have inside := ih (hasString_cons.mp string).2.2 later
              rw [List.length_cons]
              omega

theorem HasString.zero (string : HasString memory start text) :
    memory (start + text.length) = 0#8 := by
  induction text generalizing start with
  | nil => exact hasString_nil.mp string
  | cons byte rest ih =>
      have ends := ih (hasString_cons.mp string).2.2
      rwa [Nat.add_assoc, Nat.add_comm 1] at ends

theorem HasString.nonzero (string : HasString memory start text) {index : Nat}
    (inside : index < text.length) : memory (start + index) ≠ 0#8 := by
  induction text generalizing start index with
  | nil => cases inside
  | cons byte rest ih =>
      obtain ⟨first, different, later⟩ := hasString_cons.mp string
      cases index with
      | zero => exact first ▸ different
      | succ index =>
          have next := ih later (Nat.lt_of_succ_lt_succ inside)
          rwa [Nat.add_assoc, Nat.add_comm 1] at next

/-- **The length of a string** is that of its text. -/
theorem strlen_eq (string : HasString memory 0 text)
    (terminated : ∃ index, memory index = 0#8) : strlen memory terminated = text.length := by
  refine (Nat.find_eq_iff terminated).mpr ⟨?_, fun index inside => ?_⟩
  · have ends := string.zero
    rwa [Nat.zero_add] at ends
  · have other := string.nonzero inside
    rwa [Nat.zero_add] at other

/-- A text in front of zeros is a string. -/
theorem hasString_ofList (plain : 0#8 ∉ text) : HasString (ofList text) 0 text := by
  refine ⟨?_, plain⟩
  apply List.ext_getElem
  · simp
  · intro index inside bound
    rcases Nat.lt_or_ge index text.length with here | behind
    · simp [window, ofList, here]
    · have last : index = text.length := by
        simp only [List.length_append, List.length_singleton] at bound
        omega
      subst last
      simp [window, ofList]

end Strings

end TinyHan.Lib
