/-
**TinyApp packets** (`tinyapp.c`).

A packet is a flags byte and a sequence of items. The first byte of an item has the item's
identifier in its low six bits and a length code in the other two; a variable length is one more
byte, then the value follows in host byte order, which is little-endian here. The identifier
`TINYAPP_ITEM_ID_PROFILE` is not an item: its value selects the profile of the items behind it.

* A writer (`tinyapp_t`) is the memory behind the buffer pointer with the three pointers as offsets
  into it. A failed `assert` is `none`.
* `tinyapp_deserialise` counts in a `size_t`, 64 bits wide here, and its loop tests that count as an
  `int`, which keeps the low 32 bits. A callback is recorded with its arguments; the bytes behind
  its pointer are read when it is called. The loop has fuel, and `deserialise_total` says that the
  fuel it is given is enough on every input.

The name tables of the header and their lookups are not part of this model.
-/

import TinyHan.Lib.Bytes

namespace TinyHan.Tinyapp

open TinyHan.Lib

/-! ### Constants -/

/-- `TINYAPP_ITEM_ID_MASK`. -/
def itemIdMask : Byte := 0x3F#8
/-- `TINYAPP_ITEM_ID_PROFILE`. -/
def itemIdProfile : Byte := 0x3F#8
/-- `TINYAPP_LENGTH_1`. -/
def length1 : Byte := 0x00#8
/-- `TINYAPP_LENGTH_2`. -/
def length2 : Byte := 0x40#8
/-- `TINYAPP_LENGTH_4`. -/
def length4 : Byte := 0x80#8
/-- `TINYAPP_LENGTH_VAR`. -/
def lengthVar : Byte := 0xC0#8
/-- `TINYAPP_LENGTH_MASK`. -/
def lengthMask : Byte := 0xC0#8

/-- `size_t` of a 64-bit host. -/
abbrev SizeT := BitVec 64

/-! ### Serialisation -/

/-- `tinyapp_t`, with the memory its pointers point into. -/
structure Writer where
  memory : Memory
  packetStart : Nat
  packetPtr : Nat
  packetEnd : Nat

/-- The bytes are written at `packet_ptr`, which moves behind them. -/
def Writer.put (ctx : Writer) (bytes : List Byte) : Writer :=
  { ctx with
    memory := store ctx.memory ctx.packetPtr bytes
    packetPtr := ctx.packetPtr + bytes.length }

/-- `tinyapp_init`. It does not look at the size before it writes the flags. -/
def tinyappInit (buf : Memory) (flags : Byte) (size : SizeT) : Writer :=
  Writer.put ⟨buf, 0, 0, size.toNat⟩ [flags]

/-- `tinyapp_serialise8`. -/
def tinyappSerialise8 (ctx : Writer) (type : Byte) (value : Byte) : Option Writer :=
  if ctx.packetEnd ≥ ctx.packetPtr + 2 then some (ctx.put [length1 ||| type, value]) else none

/-- `tinyapp_serialise16`. -/
def tinyappSerialise16 (ctx : Writer) (type : Byte) (value : BitVec 16) : Option Writer :=
  if ctx.packetEnd ≥ ctx.packetPtr + 3 then
    some (ctx.put ((length2 ||| type) :: leBytes 2 value.toNat))
  else none

/-- `tinyapp_serialise32`. -/
def tinyappSerialise32 (ctx : Writer) (type : Byte) (value : BitVec 32) : Option Writer :=
  if ctx.packetEnd ≥ ctx.packetPtr + 5 then
    some (ctx.put ((length4 ||| type) :: leBytes 4 value.toNat))
  else none

/-- `tinyapp_serialise_string`. -/
def tinyappSerialiseString (ctx : Writer) (type : Byte) (str : Memory) (len : Nat) :
    Option Writer :=
  if len < 256 then
    if ctx.packetEnd ≥ ctx.packetPtr + 2 + len then
      some (ctx.put ((lengthVar ||| type) :: BitVec.ofNat 8 len :: window str 0 len))
    else none
  else none

/-- `tinyapp_size`. -/
def tinyappSize (ctx : Writer) : SizeT := BitVec.ofNat 64 (ctx.packetPtr - ctx.packetStart)

/-! ### Deserialisation -/

/-- One call of a `tinyapp_item_cb_t`: its arguments, and the `len` bytes behind `value`. -/
structure Item where
  profile : Byte
  item : Byte
  value : List Byte
  len : SizeT
  deriving DecidableEq, Repr

/-- The local variables of `tinyapp_deserialise`. -/
structure Reader where
  ptr : Nat
  size : SizeT
  len : SizeT
  profile : Byte

/-- `ptr++; size--`. -/
def Reader.skip (reader : Reader) : Reader :=
  { reader with ptr := reader.ptr + 1, size := reader.size - 1 }

/-- `(int)size > 0`. -/
def intPositive (size : SizeT) : Bool := decide (0 < (size.setWidth 32).toInt)

/-- The switch over the length codes. -/
def Reader.readLength (reader : Reader) (buf : Memory) (type : Byte) : Reader :=
  if type = length1 then { reader with len := 1 }
  else if type = length2 then { reader with len := 2 }
  else if type = length4 then { reader with len := 4 }
  else if type = lengthVar then
    Reader.skip { reader with len := (buf reader.ptr).setWidth 64 }
  else reader

/-- One iteration of the loop, with the call it makes. -/
def Reader.next (reader : Reader) (buf : Memory) : Reader × Option Item :=
  let id := buf reader.ptr &&& itemIdMask
  let type := buf reader.ptr &&& lengthMask
  let reader := reader.skip.readLength buf type
  let value := window buf reader.ptr reader.len.toNat
  let item := if id = itemIdProfile then none
    else some ⟨reader.profile, id, value, reader.len⟩
  let profile := if id = itemIdProfile then buf reader.ptr else reader.profile
  ({ reader with
    ptr := reader.ptr + reader.len.toNat
    size := reader.size - reader.len
    profile := profile }, item)

/-- The loop of `tinyapp_deserialise`; `none` is a loop that is still running when its fuel is
used up. -/
def deserialiseLoop (buf : Memory) : Nat → Reader → Option (List Item)
  | 0, _ => none
  | fuel + 1, reader =>
      if intPositive reader.size then
        (deserialiseLoop buf fuel (reader.next buf).1).map ((reader.next buf).2.toList ++ ·)
      else some []

/-- `tinyapp_deserialise`: the calls it makes, in order. -/
def tinyappDeserialise (buf : Memory) (size : SizeT) : Option (List Item) :=
  deserialiseLoop buf (size.toNat + 1) (Reader.skip ⟨0, size, 0, 0#8⟩)

/-! ### The loop ends -/

/-- The two bits of a length code have a case each in the switch. -/
theorem length_cases (byte : Byte) :
    byte &&& lengthMask = length1 ∨ byte &&& lengthMask = length2 ∨
      byte &&& lengthMask = length4 ∨ byte &&& lengthMask = lengthVar := by
  revert byte
  decide +kernel

/-- An iteration consumes the first byte, perhaps a length byte, and at most 255 bytes of value. The
pointer and the count agree on how many. -/
theorem next_consumes (reader : Reader) (buf : Memory) :
    ∃ consumed : Nat, 1 ≤ consumed ∧ consumed ≤ 257 ∧
      (reader.next buf).1.size = reader.size - BitVec.ofNat 64 consumed ∧
      (reader.next buf).1.ptr = reader.ptr + consumed := by
  have value (len : SizeT) (bytes : Nat) (short : bytes ≤ 2) (small : len.toNat ≤ 255)
      (some : 1 ≤ bytes) :
      ∃ consumed : Nat, 1 ≤ consumed ∧ consumed ≤ 257 ∧
        reader.size - BitVec.ofNat 64 bytes - len = reader.size - BitVec.ofNat 64 consumed ∧
        reader.ptr + bytes + len.toNat = reader.ptr + consumed := by
    refine ⟨bytes + len.toNat, by omega, by omega, ?_, Nat.add_assoc ..⟩
    bv_omega
  unfold Reader.next Reader.readLength Reader.skip
  dsimp only
  rcases length_cases (buf reader.ptr) with is | is | is | is
  · rw [is, if_pos rfl]
    exact value 1 1 (by decide) (by decide) (by decide)
  · rw [is, if_neg (by decide), if_pos rfl]
    exact value 2 1 (by decide) (by decide) (by decide)
  · rw [is, if_neg (by decide), if_neg (by decide), if_pos rfl]
    exact value 4 1 (by decide) (by decide) (by decide)
  · rw [is, if_neg (by decide), if_neg (by decide), if_neg (by decide), if_pos rfl]
    have two : reader.size - 1 - 1 = reader.size - BitVec.ofNat 64 2 := by bv_omega
    dsimp only
    rw [two]
    refine value _ 2 (by decide) ?_ (by decide)
    have byte := (buf (reader.ptr + 1)).isLt
    rw [BitVec.toNat_setWidth]
    omega

theorem intPositive_iff (size : SizeT) :
    intPositive size = true ↔ 0 < size.toNat % 2 ^ 32 ∧ size.toNat % 2 ^ 32 < 2 ^ 31 := by
  rw [intPositive, decide_eq_true_iff, BitVec.toInt_eq_toNat_cond, BitVec.toNat_setWidth]
  split <;> omega

/-- A loop that has more fuel than bytes left ends. An iteration that consumes more than is left
makes the count negative, which ends the loop as well. -/
theorem deserialiseLoop_isSome (buf : Memory) (fuel : Nat) (reader : Reader)
    (enough : intPositive reader.size = true → reader.size.toNat < fuel) (some : 0 < fuel) :
    (deserialiseLoop buf fuel reader).isSome = true := by
  induction fuel generalizing reader with
  | zero => cases some
  | succ fuel ih =>
      rw [deserialiseLoop]
      split
      · next more =>
        rw [Option.isSome_map]
        have left := enough more
        have positive := (intPositive_iff _).mp more
        obtain ⟨consumed, atLeast, atMost, size, -⟩ := next_consumes reader buf
        refine ih _ (fun again => ?_) (by omega)
        rw [intPositive_iff, size] at again
        rw [size]
        bv_omega
      · rfl

/-- **`tinyapp_deserialise` ends on every input.** -/
theorem deserialise_total (buf : Memory) (size : SizeT) :
    (tinyappDeserialise buf size).isSome = true := by
  refine deserialiseLoop_isSome buf _ _ (fun more => ?_) (Nat.succ_pos _)
  rw [intPositive_iff] at more
  unfold Reader.skip at more ⊢
  dsimp only at more ⊢
  bv_omega

/-! ### How often the loop runs -/

/-- The reader after this many iterations. -/
def Reader.after (reader : Reader) (buf : Memory) (iterations : Nat) : Reader :=
  (fun reader : Reader => (reader.next buf).1)^[iterations] reader

/-- The count is what the pointer has left of a packet of `total` bytes, modulo `2 ^ 64`. The last
iteration may take the pointer past the end, by one item at most. -/
structure Reader.Counts (reader : Reader) (total : Nat) : Prop where
  size : reader.size = BitVec.ofNat 64 (total + 2 ^ 64 - reader.ptr)
  near : reader.ptr ≤ total + 257

section Counts

variable {reader : Reader} {total : Nat} (counts : reader.Counts total) (small : total < 2 ^ 31)

include counts small

/-- **The signed test sees through the wrap**: the count appears positive if and only if the pointer
is inside the packet. -/
theorem Reader.Counts.intPositive_iff :
    intPositive reader.size = true ↔ reader.ptr < total := by
  have near := counts.near
  rw [Tinyapp.intPositive_iff, counts.size, BitVec.toNat_ofNat]
  omega

theorem Reader.Counts.next (inside : reader.ptr < total) (buf : Memory) :
    (reader.next buf).1.Counts total := by
  obtain ⟨consumed, atLeast, atMost, size, ptr⟩ := next_consumes reader buf
  refine ⟨?_, by omega⟩
  rw [size, ptr, counts.size]
  apply BitVec.eq_of_toNat_eq
  rw [BitVec.toNat_sub, BitVec.toNat_ofNat, BitVec.toNat_ofNat, BitVec.toNat_ofNat]
  omega

/-- **The iterations of a loop** that starts inside the packet or behind it: each of them takes the
pointer on, and with more fuel the loop does not run longer. -/
theorem Reader.Counts.iterations (buf : Memory) :
    ∃ iterations ≤ total - reader.ptr,
      (∀ done ≤ iterations, (reader.after buf done).Counts total) ∧
      (∀ done < iterations, intPositive (reader.after buf done).size = true) ∧
      intPositive (reader.after buf iterations).size = false ∧
      ∀ fuel > iterations,
        deserialiseLoop buf fuel reader = deserialiseLoop buf (iterations + 1) reader := by
  induction left : total - reader.ptr using Nat.strong_induction_on generalizing reader with
  | _ left ih =>
      by_cases more : intPositive reader.size = true
      · have inside := (counts.intPositive_iff small).mp more
        obtain ⟨consumed, atLeast, -, -, ptr⟩ := next_consumes reader buf
        obtain ⟨rest, few, counted, positive, ended, fuelled⟩ := ih
          (total - (reader.next buf).1.ptr) (by omega) (counts.next small inside buf) rfl
        refine ⟨rest + 1, by omega, ?_, ?_, ended, ?_⟩
        · rintro (_ | done) bound
          · exact counts
          · exact counted done (by omega)
        · rintro (_ | done) bound
          · exact more
          · exact positive done (by omega)
        · rintro (_ | fuel) enough
          · cases enough
          · rw [deserialiseLoop, deserialiseLoop, if_pos more, if_pos more, fuelled fuel (by omega)]
      · refine ⟨0, Nat.zero_le _, ?_, nofun, Bool.eq_false_iff.mpr more, ?_⟩
        · rintro done bound
          rw [Nat.le_zero.mp bound]
          exact counts
        · rintro (_ | fuel) enough
          · cases enough
          · rw [deserialiseLoop, deserialiseLoop, if_neg more, if_neg more]

end Counts

/-- The reader behind the flags byte of a packet. -/
def Reader.start (size : SizeT) : Reader := Reader.skip ⟨0, size, 0, 0#8⟩

/-- **The loop of `tinyapp_deserialise` ends in time.** On a packet of less than `2 ^ 31` bytes,
whatever they are and whatever is behind them in memory, the loop makes at most one iteration for
each byte behind the flags. It tests its count before each of them and once more at the end, and no
test takes a count that has wrapped for a positive one. -/
theorem deserialise_iterations (buf : Memory) (size : SizeT) (small : size.toNat < 2 ^ 31) :
    ∃ iterations ≤ size.toNat - 1,
      (∀ done < iterations, intPositive ((Reader.start size).after buf done).size = true) ∧
      intPositive ((Reader.start size).after buf iterations).size = false ∧
      (∀ done ≤ iterations, intPositive ((Reader.start size).after buf done).size = true ↔
        ((Reader.start size).after buf done).ptr < size.toNat) ∧
      deserialiseLoop buf (iterations + 1) (Reader.start size) = tinyappDeserialise buf size ∧
      (tinyappDeserialise buf size).isSome = true := by
  have counts : (Reader.start size).Counts size.toNat := by
    refine ⟨?_, by change 0 + 1 ≤ _; omega⟩
    change size - 1 = BitVec.ofNat 64 (size.toNat + 2 ^ 64 - (0 + 1))
    bv_omega
  obtain ⟨iterations, few, counted, positive, ended, fuelled⟩ := counts.iterations small buf
  have fewer : iterations ≤ size.toNat - 1 := few
  refine ⟨iterations, fewer, positive, ended, fun done bound => ?_, ?_, deserialise_total buf size⟩
  · exact (counted done bound).intPositive_iff small
  · exact (fuelled (size.toNat + 1) (by omega)).symm

/-- A variable item that claims 200 bytes in a packet of three: one iteration, and a count of
minus 200. -/
theorem deserialise_iterations_truncated :
    ∃ iterations ≤ 2,
      intPositive ((Reader.start 3).after (ofList [0x00#8, 0xC1#8, 200#8]) iterations).size =
        false ∧
      deserialiseLoop (ofList [0x00#8, 0xC1#8, 200#8]) (iterations + 1) (Reader.start 3) =
        tinyappDeserialise (ofList [0x00#8, 0xC1#8, 200#8]) 3 := by
  obtain ⟨iterations, few, -, ended, -, loop, -⟩ :=
    deserialise_iterations (ofList [0x00#8, 0xC1#8, 200#8]) 3 (by decide)
  exact ⟨iterations, few, ended, loop⟩

end TinyHan.Tinyapp
