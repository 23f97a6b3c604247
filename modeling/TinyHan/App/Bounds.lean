/-
**The memory `tinyapp_deserialise` looks at** (`tinyapp.c`).

`accessLoop` runs beside `deserialiseLoop` and records what an iteration reads, and where the value
that it hands to the callback lies. `Whole` is the format of a packet behind its flags byte: every
item has its length byte and its value.

`deserialise_inside_iff`: all of this lies inside the packet exactly when the bytes behind the
flags are whole items. The decoder tests the count of bytes that are left once per item, so a packet
that ends inside an item is read beyond its end. Two sorts of size are exempt, because the test
reads the count as an `int`: an empty packet, whose count wraps around to `-1`, and a packet of more
than 2 GiB.
-/

import TinyHan.App.Tinyapp

namespace TinyHan.Tinyapp

open TinyHan.Lib

/-! ### What is looked at -/

/-- A look at the packet: a byte that is read, or a value that is handed to the callback. -/
inductive Access where
  | read (index : Nat)
  | handed (start : Nat) (len : SizeT)
  deriving DecidableEq, Repr

/-- The access lies in the first `size` bytes. -/
def Access.Inside (size : Nat) : Access → Prop
  | .read index => index < size
  | .handed start len => start + len.toNat ≤ size

/-- The reader of an iteration when it stands in front of the value. -/
def Reader.value (reader : Reader) (buf : Memory) : Reader :=
  reader.skip.readLength buf (buf reader.ptr &&& lengthMask)

/-- What one iteration looks at, in order. -/
def Reader.accesses (reader : Reader) (buf : Memory) : List Access :=
  let id := buf reader.ptr &&& itemIdMask
  let type := buf reader.ptr &&& lengthMask
  let value := reader.value buf
  [.read reader.ptr] ++ (if type = lengthVar then [.read reader.skip.ptr] else []) ++
    [if id = itemIdProfile then .read value.ptr else .handed value.ptr value.len]

/-- What the loop of `tinyapp_deserialise` looks at. -/
def accessLoop (buf : Memory) : Nat → Reader → Option (List Access)
  | 0, _ => none
  | fuel + 1, reader =>
      if intPositive reader.size then
        (accessLoop buf fuel (reader.next buf).1).map (reader.accesses buf ++ ·)
      else some []

/-- What `tinyapp_deserialise` looks at. -/
def deserialiseAccesses (buf : Memory) (size : SizeT) : Option (List Access) :=
  accessLoop buf (size.toNat + 1) (Reader.skip ⟨0, size, 0, 0#8⟩)

/-- The argument pair of a callback: the bytes behind its pointer, and its length. -/
def Item.argument (item : Item) : List Byte × SizeT := (item.value, item.len)

/-- The argument pair that an access stands for. -/
def Access.argument (buf : Memory) : Access → Option (List Byte × SizeT)
  | .read _ => none
  | .handed start len => some (window buf start len.toNat, len)

theorem next_argument (reader : Reader) (buf : Memory) :
    (reader.accesses buf).filterMap (Access.argument buf) =
      (reader.next buf).2.toList.map Item.argument := by
  unfold Reader.accesses Reader.next
  dsimp only
  rw [List.filterMap_append, List.filterMap_append]
  have head : [Access.read reader.ptr].filterMap (Access.argument buf) = [] := rfl
  have length : (if buf reader.ptr &&& lengthMask = lengthVar then [Access.read reader.skip.ptr]
      else []).filterMap (Access.argument buf) = [] := by
    split <;> rfl
  rw [head, length]
  split <;> rfl

/-- **The accesses are those of the decoder**: the values handed over are the callbacks' arguments,
and the two loops end together. -/
theorem accessLoop_arguments (buf : Memory) (fuel : Nat) (reader : Reader) :
    (accessLoop buf fuel reader).map (·.filterMap (Access.argument buf)) =
      (deserialiseLoop buf fuel reader).map (·.map Item.argument) := by
  induction fuel generalizing reader with
  | zero => rfl
  | succ fuel ih =>
      rw [accessLoop, deserialiseLoop]
      split
      · have rest := ih (reader.next buf).1
        rw [Option.map_map, Option.map_map]
        cases accesses : accessLoop buf fuel (reader.next buf).1 with
        | none =>
            cases items : deserialiseLoop buf fuel (reader.next buf).1 with
            | none => rfl
            | some items => simp [accesses, items] at rest
        | some looked =>
            cases items : deserialiseLoop buf fuel (reader.next buf).1 with
            | none => simp [accesses, items] at rest
            | some items =>
                rw [accesses, items] at rest
                have same := Option.some.inj rest
                simp only [Option.map_some, Function.comp_apply, List.filterMap_append,
                  List.map_append, next_argument, same]
      · rfl

theorem accessLoop_isSome (buf : Memory) (fuel : Nat) (reader : Reader) :
    (accessLoop buf fuel reader).isSome = (deserialiseLoop buf fuel reader).isSome := by
  have same := congrArg Option.isSome (accessLoop_arguments buf fuel reader)
  simpa using same

/-! ### The format of a packet -/

/-- The length of the value that the first byte of an item announces by itself. -/
def fixedLength (head : Byte) : Option Nat :=
  if head &&& lengthMask = length1 then some 1
  else if head &&& lengthMask = length2 then some 2
  else if head &&& lengthMask = length4 then some 4
  else none

/-- The bytes behind the head of an item that the item needs. A value of the callback is needed as a
whole, of the value of a profile selection the first byte. -/
def needed (head : Byte) (len : Nat) : Nat :=
  if head &&& itemIdMask = itemIdProfile then 1 else len

/-- The bytes are items one behind the other, each with all the bytes that it needs. -/
inductive Whole : List Byte → Prop
  | nil : Whole []
  | fixed {head : Byte} {rest : List Byte} {len : Nat} (code : fixedLength head = some len)
      (room : needed head len ≤ rest.length) (more : Whole (rest.drop len)) : Whole (head :: rest)
  | var {head len : Byte} {rest : List Byte} (code : fixedLength head = none)
      (room : needed head len.toNat ≤ rest.length) (more : Whole (rest.drop len.toNat)) :
      Whole (head :: len :: rest)

theorem whole_fixed_iff {head : Byte} {rest : List Byte} {len : Nat}
    (code : fixedLength head = some len) :
    Whole (head :: rest) ↔ needed head len ≤ rest.length ∧ Whole (rest.drop len) := by
  constructor
  · intro whole
    cases whole with
    | fixed is room more =>
        obtain rfl := Option.some.inj (code.symm.trans is)
        exact ⟨room, more⟩
    | var is => simp [is] at code
  · rintro ⟨room, more⟩
    exact .fixed code room more

theorem whole_var_iff {head len : Byte} {rest : List Byte} (code : fixedLength head = none) :
    Whole (head :: len :: rest) ↔
      needed head len.toNat ≤ rest.length ∧ Whole (rest.drop len.toNat) := by
  constructor
  · intro whole
    cases whole with
    | fixed is => simp [is] at code
    | var is room more => exact ⟨room, more⟩
  · rintro ⟨room, more⟩
    exact .var code room more

theorem not_whole_singleton {head : Byte} (code : fixedLength head = none) : ¬ Whole [head] := by
  intro whole
  cases whole with
  | fixed is => simp [is] at code

theorem window_succ (memory : Memory) (start count : Nat) :
    window memory start (count + 1) = memory start :: window memory (start + 1) count := by
  rw [Nat.add_comm count 1, window_add]
  rfl

theorem drop_window (memory : Memory) (start count skipped : Nat) :
    (window memory start count).drop skipped =
      window memory (start + skipped) (count - skipped) := by
  apply List.ext_getElem
  · simp
  · intro index inside bound
    simp [window, Nat.add_assoc]

/-! ### One iteration -/

section Iteration

variable (reader : Reader) (buf : Memory)

/-- The reader behind an item whose value starts `front` bytes on and is `len` bytes long. -/
structure Reader.Passes (front len : Nat) : Prop where
  accesses : reader.accesses buf = [.read reader.ptr] ++
    (if front = 2 then [.read (reader.ptr + 1)] else []) ++
    [if buf reader.ptr &&& itemIdMask = itemIdProfile then .read (reader.ptr + front)
      else .handed (reader.ptr + front) (BitVec.ofNat 64 len)]
  ptr : (reader.next buf).1.ptr = reader.ptr + front + len
  size : (reader.next buf).1.size = reader.size - BitVec.ofNat 64 (front + len)
  short : len ≤ 255

variable {reader buf}

/-- The three fields of the reader in front of the value decide what the iteration does. -/
theorem Reader.Passes.of_value {front len : Nat} (short : len ≤ 255)
    (type : buf reader.ptr &&& lengthMask = lengthVar ↔ front = 2)
    (ptr : (reader.value buf).ptr = reader.ptr + front)
    (size : (reader.value buf).size = reader.size - BitVec.ofNat 64 front)
    (value : (reader.value buf).len = BitVec.ofNat 64 len) : reader.Passes buf front len where
  accesses := by
    unfold Reader.accesses
    dsimp only
    rw [ptr, value, if_congr type rfl rfl]
    rfl
  ptr := by
    have fits : (BitVec.ofNat 64 len).toNat = len := by
      rw [BitVec.toNat_ofNat]
      omega
    change (reader.value buf).ptr + (reader.value buf).len.toNat = _
    rw [ptr, value, fits]
  size := by
    change (reader.value buf).size - (reader.value buf).len = _
    rw [size, value, BitVec.ofNat_add]
    bv_omega
  short := short

theorem passes_fixed {len : Nat} (code : fixedLength (buf reader.ptr) = some len) :
    reader.Passes buf 1 len := by
  have value (short : len ≤ 255) (type : buf reader.ptr &&& lengthMask ≠ lengthVar)
      (is : reader.value buf = { reader.skip with len := BitVec.ofNat 64 len }) :
      reader.Passes buf 1 len :=
    .of_value short (by simp [type]) (congrArg Reader.ptr is) (congrArg Reader.size is)
      (congrArg Reader.len is)
  unfold fixedLength at code
  unfold Reader.value Reader.readLength at value
  rcases length_cases (buf reader.ptr) with is | is | is | is <;> rw [is] at code value
  · cases code
    exact value (by decide) (by decide) rfl
  · cases code
    exact value (by decide) (by decide) rfl
  · cases code
    exact value (by decide) (by decide) rfl
  · cases code

theorem passes_var (code : fixedLength (buf reader.ptr) = none) :
    reader.Passes buf 2 (buf (reader.ptr + 1)).toNat := by
  have type : buf reader.ptr &&& lengthMask = lengthVar := by
    unfold fixedLength at code
    rcases length_cases (buf reader.ptr) with is | is | is | is
    · rw [is] at code
      cases code
    · rw [is] at code
      cases code
    · rw [is] at code
      cases code
    · exact is
  have is : reader.value buf = Reader.skip
      { reader.skip with len := (buf (reader.ptr + 1)).setWidth 64 } := by
    unfold Reader.value Reader.readLength
    rw [type]
    rfl
  have byte := (buf (reader.ptr + 1)).isLt
  refine .of_value (by omega) ?_ ?_ ?_ ?_
  · simp [type]
  · rw [is]
    rfl
  · rw [is]
    unfold Reader.skip
    bv_omega
  · rw [is, BitVec.ofNat_toNat]
    rfl

/-- What an iteration looks at lies inside the packet when the front of the item and the bytes that
the item needs do. -/
theorem Reader.Passes.inside_iff {front len : Nat} (passes : reader.Passes buf front len)
    (few : front = 1 ∨ front = 2) (total : Nat) :
    (∀ access ∈ reader.accesses buf, access.Inside total) ↔
      reader.ptr + front + needed (buf reader.ptr) len ≤ total ∧ reader.ptr + front ≤ total := by
  have short := passes.short
  have fits : (BitVec.ofNat 64 len).toNat = len := by
    rw [BitVec.toNat_ofNat]
    omega
  rw [passes.accesses, needed]
  by_cases profile : buf reader.ptr &&& itemIdMask = itemIdProfile
  · rw [if_pos profile, if_pos profile]
    rcases few with rfl | rfl <;> simp [Access.Inside] <;> omega
  · rw [if_neg profile, if_neg profile]
    rcases few with rfl | rfl <;> simp [Access.Inside, fits] <;> omega

end Iteration

/-! ### The whole loop -/

/-- **One item of the format**: the bytes from the reader on are whole items exactly when the item
in front has what it needs and the bytes behind it are whole items. -/
theorem exists_passes (reader : Reader) (buf : Memory) :
    ∃ front len, (front = 1 ∨ front = 2) ∧ reader.Passes buf front len ∧ ∀ count > 0,
      (Whole (window buf reader.ptr count) ↔
        (front + needed (buf reader.ptr) len ≤ count ∧ front ≤ count) ∧
          Whole (window buf (reader.ptr + front + len) (count - (front + len)))) := by
  cases code : fixedLength (buf reader.ptr) with
  | some len =>
      refine ⟨1, len, .inl rfl, passes_fixed code, fun count more => ?_⟩
      obtain ⟨count, rfl⟩ := Nat.exists_eq_succ_of_ne_zero more.ne'
      rw [window_succ, whole_fixed_iff code, drop_window, window_length,
        show count + 1 - (1 + len) = count - len by omega]
      refine and_congr_left fun _ => ?_
      omega
  | none =>
      refine ⟨2, (buf (reader.ptr + 1)).toNat, .inr rfl, passes_var code, fun count more => ?_⟩
      match count, more with
      | 1, _ =>
          refine iff_of_false (not_whole_singleton code) ?_
          omega
      | count + 2, _ =>
          rw [window_succ, window_succ, whole_var_iff code, drop_window, window_length,
            show count + 2 - (2 + (buf (reader.ptr + 1)).toNat) =
              count - (buf (reader.ptr + 1)).toNat by omega]
          refine and_congr_left fun _ => ?_
          omega

/-- A packet of less than 2 GiB is left exactly where the format breaks. -/
theorem accessLoop_inside_iff (buf : Memory) (fuel : Nat) (reader : Reader) (total : Nat)
    (behind : reader.ptr + reader.size.toNat = total) (small : reader.size.toNat < 2 ^ 31)
    {accesses : List Access} (run : accessLoop buf fuel reader = some accesses) :
    (∀ access ∈ accesses, access.Inside total) ↔
      Whole (window buf reader.ptr reader.size.toNat) := by
  induction fuel generalizing reader accesses with
  | zero => cases run
  | succ fuel ih =>
      rw [accessLoop] at run
      split at run
      · next more =>
        have positive := (intPositive_iff _).mp more
        obtain ⟨rest, again, rfl⟩ := Option.map_eq_some_iff.mp run
        obtain ⟨front, len, few, passes, whole⟩ := exists_passes reader buf
        have short := passes.short
        rw [whole _ (by omega), List.forall_mem_append, passes.inside_iff few]
        have head : (reader.ptr + front + needed (buf reader.ptr) len ≤ total ∧
            reader.ptr + front ≤ total) ↔ (front + needed (buf reader.ptr) len ≤ reader.size.toNat ∧
              front ≤ reader.size.toNat) := by omega
        rw [head]
        refine and_congr_right fun room => ?_
        by_cases full : front + len ≤ reader.size.toNat
        · have left : (reader.next buf).1.size.toNat = reader.size.toNat - (front + len) := by
            rw [passes.size]
            bv_omega
          rw [ih _ (by rw [passes.ptr, left]; omega) (by omega) again, passes.ptr, left]
        · -- The value of a profile selection goes beyond the end: the count is negative.
          have ended : intPositive (reader.next buf).1.size = false := by
            rw [← Bool.not_eq_true, intPositive_iff, passes.size]
            bv_omega
          have nothing : rest = [] := by
            cases fuel with
            | zero => cases again
            | succ fuel =>
                rw [accessLoop, ended] at again
                exact (Option.some.inj again).symm
          rw [nothing, show reader.size.toNat - (front + len) = 0 by omega]
          exact iff_of_true (by simp) .nil
      · next done =>
        have zero : reader.size.toNat = 0 := by
          rw [intPositive_iff] at done
          omega
        obtain rfl := Option.some.inj run
        rw [zero]
        exact iff_of_true (by simp) .nil

/-- A packet of more than 2 GiB is never left: the loop ends when the low 32 bits of the count do
not make a positive number any more. -/
theorem accessLoop_inside (buf : Memory) (fuel : Nat) (reader : Reader) (total : Nat)
    (behind : reader.ptr + reader.size.toNat = total) (large : 2 ^ 31 ≤ reader.size.toNat)
    {accesses : List Access} (run : accessLoop buf fuel reader = some accesses) :
    ∀ access ∈ accesses, access.Inside total := by
  induction fuel generalizing reader accesses with
  | zero => cases run
  | succ fuel ih =>
      rw [accessLoop] at run
      split at run
      · next more =>
        have positive := (intPositive_iff _).mp more
        obtain ⟨rest, again, rfl⟩ := Option.map_eq_some_iff.mp run
        obtain ⟨front, len, few, passes, _⟩ := exists_passes reader buf
        have short := passes.short
        have need : needed (buf reader.ptr) len ≤ 255 := by
          rw [needed]
          split <;> omega
        have left : (reader.next buf).1.size.toNat = reader.size.toNat - (front + len) := by
          rw [passes.size]
          bv_omega
        rw [List.forall_mem_append]
        refine ⟨(passes.inside_iff few total).mpr (by omega), ?_⟩
        exact ih _ (by rw [passes.ptr, left]; omega) (by omega) again
      · obtain rfl := Option.some.inj run
        simp

/-- **The decoder stays inside the packet** exactly when the bytes behind the flags are whole items,
the packet is empty, or it is larger than 2 GiB. -/
theorem deserialise_inside_iff (buf : Memory) (size : SizeT) :
    (∃ accesses, deserialiseAccesses buf size = some accesses ∧
      ∀ access ∈ accesses, access.Inside size.toNat) ↔
    size = 0 ∨ 2 ^ 31 < size.toNat ∨ Whole (window buf 1 (size.toNat - 1)) := by
  have ends := deserialise_total buf size
  rw [tinyappDeserialise, ← accessLoop_isSome] at ends
  obtain ⟨accesses, run⟩ := Option.isSome_iff_exists.mp ends
  have only : (∃ accesses, deserialiseAccesses buf size = some accesses ∧
      ∀ access ∈ accesses, access.Inside size.toNat) ↔
      ∀ access ∈ accesses, access.Inside size.toNat := by
    rw [deserialiseAccesses, run]
    simp
  rw [only]
  by_cases empty : size = 0
  · subst empty
    obtain rfl := Option.some.inj (run.symm.trans (rfl : _ = some []))
    simp
  have some : 0 < size.toNat := by bv_omega
  have skipped : (Reader.skip ⟨0, size, 0, 0#8⟩).size.toNat = size.toNat - 1 := by
    unfold Reader.skip
    bv_omega
  have behind : (Reader.skip ⟨0, size, 0, 0#8⟩).ptr +
      (Reader.skip ⟨0, size, 0, 0#8⟩).size.toNat = size.toNat := by
    rw [skipped]
    simp only [Reader.skip]
    omega
  by_cases large : 2 ^ 31 < size.toNat
  · refine iff_of_true ?_ (.inr (.inl large))
    exact accessLoop_inside buf _ _ _ behind (by omega) run
  · rw [accessLoop_inside_iff buf _ _ _ behind (by omega) run, skipped]
    simp only [empty, large, false_or]
    rfl

/-- A packet that ends behind the first byte of an item with a value of two bytes. -/
theorem deserialise_truncated :
    ∃ accesses, deserialiseAccesses (ofList [0x00#8, 0x41#8]) 2 = some accesses ∧
      ∃ access ∈ accesses, ¬ access.Inside 2 :=
  ⟨[.read 1, .handed 2 2], by decide, .handed 2 2, by decide, by simp [Access.Inside]⟩

end TinyHan.Tinyapp
