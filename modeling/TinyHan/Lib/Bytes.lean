/-
**Little-endian numbers and windows of memory.**

A byte is a `BitVec 8`. `leBytes count value` is the little-endian layout of a number in `count`
bytes and `leValue` reads a layout back; the two are inverse up to the width
(`leValue_leBytes`). A receive buffer is the memory behind a pointer, `Memory`, with no length of
its own: a reader names the bytes it looks at through `window`, so a statement about what is read
is a statement about windows (`window_ofList_append`, `window_ofList_skip`).
-/

import Mathlib.Data.List.GetD
import Mathlib.Tactic.Ring

namespace TinyHan.Lib

/-- One octet. -/
abbrev Byte := BitVec 8

/-! ### Little-endian layout -/

/-- The low `count` bytes of a number, least significant first. -/
def leBytes : Nat → Nat → List Byte
  | 0, _ => []
  | count + 1, value => BitVec.ofNat 8 value :: leBytes count (value / 256)

/-- The number a little-endian layout stands for. -/
def leValue : List Byte → Nat
  | [] => 0
  | byte :: rest => byte.toNat + 256 * leValue rest

@[simp] theorem leBytes_length (count value : Nat) : (leBytes count value).length = count := by
  induction count generalizing value with
  | zero => rfl
  | succ count ih => simp [leBytes, ih]

/-- **Reading back a layout** gives the number up to the width of the layout. -/
theorem leValue_leBytes (count value : Nat) :
    leValue (leBytes count value) = value % 256 ^ count := by
  induction count generalizing value with
  | zero => simp [leBytes, leValue, Nat.mod_one]
  | succ count ih =>
      have wider : 256 ^ (count + 1) = 256 * 256 ^ count := Nat.pow_succ'
      rw [leBytes, leValue, ih, BitVec.toNat_ofNat, wider, Nat.mod_mul]

/-- A bit vector of `8 * count` bits survives its layout. -/
theorem ofNat_leValue_leBytes {width : Nat} (count : Nat) (wide : 2 ^ width = 256 ^ count)
    (value : BitVec width) :
    BitVec.ofNat width (leValue (leBytes count value.toNat)) = value := by
  rw [leValue_leBytes, ← wide, Nat.mod_eq_of_lt value.isLt, BitVec.ofNat_toNat, BitVec.setWidth_eq]

/-! ### Words of two bytes -/

/-- The more significant byte of a word. -/
def high (word : BitVec 16) : Byte := (word >>> 8).setWidth 8

/-- The less significant byte of a word. -/
def low (word : BitVec 16) : Byte := word.setWidth 8

theorem high_append_low (word : BitVec 16) : high word ++ low word = word := by
  apply BitVec.eq_of_getLsbD_eq
  intro index inside
  rw [BitVec.getLsbD_append]
  split
  · next below => simp [low, below]
  · next above =>
    simp [high, show index - 8 < 8 by omega, show 8 + (index - 8) = index by omega]

theorem high_append (one two : Byte) : high (one ++ two) = one := by
  apply BitVec.eq_of_getLsbD_eq
  intro index inside
  have above : @BitVec.getLsbD 16 (one ++ two) (8 + index) = one.getLsbD index :=
    BitVec.getLsbD_append.trans (by simp)
  rw [high, BitVec.getLsbD_setWidth, BitVec.getLsbD_ushiftRight, above]
  simp [inside]

theorem low_append (one two : Byte) : low (one ++ two) = two := by
  apply BitVec.eq_of_getLsbD_eq
  intro index inside
  have below : @BitVec.getLsbD 16 (one ++ two) index = two.getLsbD index :=
    BitVec.getLsbD_append.trans (by simp [inside])
  rw [low, BitVec.getLsbD_setWidth, below]
  simp [inside]

/-! ### Memory -/

/-- The bytes behind a pointer. -/
abbrev Memory := Nat → Byte

/-- A memory that starts with the given bytes and continues with zeros. -/
def ofList (bytes : List Byte) : Memory := fun index => bytes.getD index 0

/-- The `count` bytes from offset `start` on. -/
def window (memory : Memory) (start count : Nat) : List Byte :=
  (List.range count).map fun index => memory (start + index)

@[simp] theorem window_length (memory : Memory) (start count : Nat) :
    (window memory start count).length = count := by
  simp [window]

/-- Two memories with the same first `size` bytes. -/
def SameFront (size : Nat) (one two : Memory) : Prop := ∀ index < size, one index = two index

/-- A window inside the common part reads the same from both memories. -/
theorem SameFront.window_eq {size : Nat} {one two : Memory} (agree : SameFront size one two)
    {start count : Nat} (inside : start + count ≤ size) :
    window one start count = window two start count := by
  apply List.map_congr_left
  intro index member
  have bound := List.mem_range.mp member
  exact agree (start + index) (by omega)

/-- The window over a whole list is the list. -/
theorem window_ofList (bytes : List Byte) : window (ofList bytes) 0 bytes.length = bytes := by
  apply List.ext_getElem
  · simp
  · intro index inside bound
    simp [window, ofList, bound]

/-- A window at the front of a concatenation. -/
theorem window_ofList_append (front rest : List Byte) :
    window (ofList (front ++ rest)) 0 front.length = front := by
  apply List.ext_getElem
  · simp
  · intro index inside bound
    simp [window, ofList, List.getElem?_append_left bound, bound]

/-- A window behind the front of a concatenation is a window of the rest. -/
theorem window_ofList_skip (front rest : List Byte) (start count : Nat) :
    window (ofList (front ++ rest)) (front.length + start) count =
      window (ofList rest) start count := by
  apply List.ext_getElem
  · simp
  · intro index inside bound
    simp [window, ofList, List.getElem?_append_right, Nat.add_assoc]

/-! ### Writing -/

/-- The memory after the bytes are written from an offset on. -/
def store (memory : Memory) (start : Nat) (bytes : List Byte) : Memory := fun index =>
  if start ≤ index ∧ index < start + bytes.length then bytes.getD (index - start) 0
  else memory index

/-- The memory holds the bytes at an offset. -/
def Holds (memory : Memory) (start : Nat) (bytes : List Byte) : Prop :=
  window memory start bytes.length = bytes

theorem window_add (memory : Memory) (start one two : Nat) :
    window memory start (one + two) =
      window memory start one ++ window memory (start + one) two := by
  apply List.ext_getElem
  · simp
  · intro index inside bound
    simp only [window, List.getElem_map, List.getElem_range, List.getElem_append, List.length_map,
      List.length_range]
    split
    · rfl
    · next behind =>
      congr 1
      omega

theorem holds_append {memory : Memory} {start : Nat} {one two : List Byte} :
    Holds memory start (one ++ two) ↔
      Holds memory start one ∧ Holds memory (start + one.length) two := by
  rw [Holds, List.length_append, window_add]
  constructor
  · intro same
    exact List.append_inj same (by simp)
  · rintro ⟨first, second⟩
    rw [first, second]

theorem holds_cons {memory : Memory} {start : Nat} {byte : Byte} {rest : List Byte} :
    Holds memory start (byte :: rest) ↔ memory start = byte ∧ Holds memory (start + 1) rest := by
  have single : Holds memory start [byte] ↔ memory start = byte := by
    simp [Holds, window]
  rw [← single]
  exact @holds_append _ _ [byte] rest

theorem holds_store (memory : Memory) (start : Nat) (bytes : List Byte) :
    Holds (store memory start bytes) start bytes := by
  apply List.ext_getElem
  · simp
  · intro index inside bound
    simp [window, store, bound]

/-- A write in front of the bytes leaves them. -/
theorem Holds.store_before {memory : Memory} {start offset : Nat} {bytes front : List Byte}
    (holds : Holds memory start bytes) (before : offset + front.length ≤ start) :
    Holds (store memory offset front) start bytes := by
  refine Eq.trans (List.map_congr_left fun index _ => ?_) holds
  exact if_neg (by omega)

/-- A byte that is changed where it is. -/
theorem Holds.modify {memory : Memory} {bytes : List Byte} (holds : Holds memory 0 bytes)
    (position : Nat) (change : Byte → Byte) :
    Holds (store memory position [change (memory position)]) 0 (bytes.modify position change) := by
  have each : ∀ index, ∀ inside : index < bytes.length, memory index = bytes[index] := by
    intro index inside
    have same := congrArg (fun list => list[index]?) holds
    simpa [window, inside] using same
  apply List.ext_getElem
  · simp
  · intro index inside bound
    have short : index < bytes.length := by simpa using bound
    simp only [window, List.getElem_map, List.getElem_range, store, List.getElem_modify,
      List.length_singleton, Nat.zero_add]
    by_cases here : position = index
    · subst here
      simp [each position short]
    · rw [if_neg (by omega), if_neg here, each index short]

/-- Two writes, the second behind the first, are one. -/
theorem store_store (memory : Memory) (start : Nat) (one two : List Byte) :
    store (store memory start one) (start + one.length) two = store memory start (one ++ two) := by
  funext index
  simp only [store, List.length_append]
  by_cases first : start ≤ index ∧ index < start + one.length
  · rw [if_neg (by omega), if_pos first, if_pos (by omega),
      List.getD_append _ _ _ _ (by omega)]
  · by_cases second : start + one.length ≤ index ∧ index < start + one.length + two.length
    · rw [if_pos second, if_pos (by omega), List.getD_append_right _ _ _ _ (by omega)]
      congr 1
      omega
    · rw [if_neg second, if_neg first, if_neg (by omega)]

end TinyHan.Lib
