/-
**Decoding a TinyApp packet undoes its encoding.**

`Put` lists what an application hands to the serialisation functions: items of one, two or four
bytes, strings, and profile switches. As long as the packet fits its buffer, no `assert` fails and
the buffer holds the flags and the encodings in order (`performAll_eq`). The reader makes one
iteration of each of them (`next_put`), with the profile that was selected last.

The loop of `tinyapp_deserialise` tests its `size_t` as an `int`. It ends where the low 32 bits of
the bytes left are not a positive `int`, which is the end of the packet, but also any place with
2^31 bytes behind it. So the round trip holds exactly when the test succeeds wherever an item is
still to come (`decode_encode_iff`), and always for packets below 2^31 bytes.
-/

import TinyHan.App.Tinyapp

namespace TinyHan.Tinyapp

open TinyHan.Lib

/-! ### What an application writes -/

/-- The identifier of an item: six bits, and not the profile switch. -/
structure ItemId where
  id : Byte
  data : id < itemIdProfile

/-- One call of a serialisation function. -/
inductive Put where
  | u8 (id : ItemId) (value : Byte)
  | u16 (id : ItemId) (value : BitVec 16)
  | u32 (id : ItemId) (value : BitVec 32)
  | string (id : ItemId) (str : List Byte) (short : str.length ≤ 255)
  | profile (choice : Byte)

namespace Put

/-- The call. -/
def perform (ctx : Writer) : Put → Option Writer
  | u8 id value => tinyappSerialise8 ctx id.id value
  | u16 id value => tinyappSerialise16 ctx id.id value
  | u32 id value => tinyappSerialise32 ctx id.id value
  | string id str _ => tinyappSerialiseString ctx id.id (ofList str) str.length
  | profile choice => tinyappSerialise8 ctx itemIdProfile choice

/-- The encoded size of a call. -/
def size : Put → Nat
  | u8 _ _ => 2
  | u16 _ _ => 3
  | u32 _ _ => 5
  | string _ str _ => 2 + str.length
  | profile _ => 2

/-- The first byte of the encoding. -/
def code : Put → Byte
  | u8 id _ => length1 ||| id.id
  | u16 id _ => length2 ||| id.id
  | u32 id _ => length4 ||| id.id
  | string id _ _ => lengthVar ||| id.id
  | profile _ => length1 ||| itemIdProfile

/-- The value bytes. -/
def value : Put → List Byte
  | u8 _ value => [value]
  | u16 _ value => leBytes 2 value.toNat
  | u32 _ value => leBytes 4 value.toNat
  | string _ str _ => str
  | profile choice => [choice]

/-- The encoding. -/
def bytes (put : Put) : List Byte :=
  match put with
  | string _ str _ => put.code :: BitVec.ofNat 8 str.length :: str
  | _ => put.code :: put.value

/-- The length of the value. -/
def len : Put → SizeT
  | u8 _ _ => 1
  | u16 _ _ => 2
  | u32 _ _ => 4
  | string _ str _ => BitVec.ofNat 64 str.length
  | profile _ => 1

/-- The call of the application's callback that an item stands for. -/
def item? (selected : Byte) (put : Put) : Option Item :=
  match put with
  | u8 id _ | u16 id _ | u32 id _ | string id _ _ => some ⟨selected, id.id, put.value, put.len⟩
  | profile _ => none

/-- The call writes an item and does not select a profile. -/
def isItem : Put → Bool
  | profile _ => false
  | _ => true

/-- The profile that is selected behind the call. -/
def select (selected : Byte) : Put → Byte
  | profile choice => choice
  | _ => selected

@[simp] theorem bytes_length (put : Put) : put.bytes.length = put.size := by
  cases put <;> simp [bytes, value, size]
  omega

theorem item?_eq_none_iff (put : Put) (selected : Byte) :
    put.item? selected = none ↔ put.isItem = false := by
  cases put <;> simp [item?, isItem]

theorem two_le_size (put : Put) : 2 ≤ put.size := by
  cases put <;> simp [size]

end Put

/-- The calls, in order. A failed `assert` ends them. -/
def performAll (ctx : Writer) (calls : List Put) : Option Writer := calls.foldlM Put.perform ctx

/-- The encodings of the calls. -/
def encode (calls : List Put) : List Byte := calls.flatMap Put.bytes

/-- The sum of the encoded sizes. -/
def encodedSize (calls : List Put) : Nat := (calls.map Put.size).sum

/-- What a decoder is to deliver: one call of the callback for each item, in order, with the profile
that was selected last. -/
def decoded (selected : Byte) : List Put → List Item
  | [] => []
  | put :: rest => (put.item? selected).toList ++ decoded (put.select selected) rest

@[simp] theorem encodedSize_cons (put : Put) (rest : List Put) :
    encodedSize (put :: rest) = put.size + encodedSize rest := by
  simp [encodedSize]

theorem encode_length (calls : List Put) : (encode calls).length = encodedSize calls := by
  induction calls with
  | nil => rfl
  | cons put rest ih =>
      rw [encode, List.flatMap_cons, List.length_append, Put.bytes_length, encodedSize_cons, ← ih]
      rfl

theorem length_le_encodedSize (calls : List Put) : calls.length ≤ encodedSize calls := by
  induction calls with
  | nil => exact Nat.zero_le _
  | cons put rest ih =>
      have two := put.two_le_size
      rw [List.length_cons, encodedSize_cons]
      omega

/-! ### The writer -/

theorem put_put (ctx : Writer) (one two : List Byte) :
    (ctx.put one).put two = ctx.put (one ++ two) := by
  simp only [Writer.put, store_store, List.length_append, Nat.add_assoc]

theorem put_nil (ctx : Writer) : ctx.put [] = ctx := by
  have same : store ctx.memory ctx.packetPtr [] = ctx.memory := by
    funext index
    exact if_neg fun inside => by
      simp only [List.length_nil] at inside
      omega
  simp only [Writer.put, same, List.length_nil, Nat.add_zero]

/-- A call that fits appends its encoding. -/
theorem perform_eq (ctx : Writer) (put : Put) (fits : ctx.packetPtr + put.size ≤ ctx.packetEnd) :
    put.perform ctx = some (ctx.put put.bytes) := by
  cases put with
  | u8 id value => exact if_pos fits
  | u16 id value => exact if_pos fits
  | u32 id value => exact if_pos fits
  | profile choice => exact if_pos fits
  | string id str short =>
      have small : str.length < 256 := by omega
      have room : ctx.packetEnd ≥ ctx.packetPtr + 2 + str.length := by
        rw [Put.size] at fits
        omega
      rw [Put.perform, tinyappSerialiseString, if_pos small, if_pos room, window_ofList]
      rfl

/-- **The writer.** Calls that fit the buffer pass every `assert` and append their encodings. -/
theorem performAll_eq (ctx : Writer) (calls : List Put)
    (fits : ctx.packetPtr + encodedSize calls ≤ ctx.packetEnd) :
    performAll ctx calls = some (ctx.put (encode calls)) := by
  induction calls generalizing ctx with
  | nil => exact congrArg some (put_nil ctx).symm
  | cons put rest ih =>
      rw [encodedSize_cons] at fits
      have performed := perform_eq ctx put (by omega)
      have behind : (ctx.put put.bytes).packetPtr + encodedSize rest ≤
          (ctx.put put.bytes).packetEnd := by
        show ctx.packetPtr + put.bytes.length + encodedSize rest ≤ ctx.packetEnd
        rw [Put.bytes_length]
        omega
      have later := ih (ctx.put put.bytes) behind
      rw [performAll, List.foldlM_cons, performed]
      show performAll (ctx.put put.bytes) rest = _
      rw [later, put_put]
      rfl

/-! ### The reader -/

/-- The first byte of an item has its length code and its identifier. -/
theorem code_fields (id : ItemId) {code : Byte}
    (is : code ∈ [length1, length2, length4, lengthVar]) :
    (code ||| id.id) &&& itemIdMask = id.id ∧ (code ||| id.id) &&& lengthMask = code := by
  have all : ∀ code ∈ [length1, length2, length4, lengthVar], ∀ value : Fin 63,
      (code ||| BitVec.ofNat 8 value) &&& itemIdMask = BitVec.ofNat 8 value ∧
        (code ||| BitVec.ofNat 8 value) &&& lengthMask = code := by
    decide +kernel
  have fields := all code is ⟨id.id.toNat, BitVec.lt_def.mp id.data⟩
  rwa [BitVec.ofNat_toNat, BitVec.setWidth_eq] at fields

theorem ItemId.ne_profile (id : ItemId) : id.id ≠ itemIdProfile := by
  intro same
  exact absurd id.data (by rw [same]; decide)

section Next

variable {reader : Reader} {buf : Memory}

/-- An iteration over an item whose length has been read. -/
theorem next_item (id : ItemId) {code : Byte} (read : Reader)
    (is : code ∈ [length1, length2, length4, lengthVar]) (first : buf reader.ptr = code ||| id.id)
    (length : reader.skip.readLength buf code = read) {value : List Byte}
    (holds : Holds buf read.ptr value) (len : read.len.toNat = value.length) {size : SizeT}
    (left : read.size - read.len = size) :
    reader.next buf = (⟨read.ptr + value.length, size, read.len, read.profile⟩,
      some ⟨read.profile, id.id, value, read.len⟩) := by
  obtain ⟨masked, type⟩ := code_fields id is
  unfold Reader.next
  simp only [first, masked, type, length, if_neg id.ne_profile, len, left]
  rw [show window buf read.ptr value.length = value from holds]

/-- A string has its length in front of it, which is read back whole. -/
theorem readLength_string {str : List Byte} (short : str.length ≤ 255)
    (second : buf (reader.ptr + 1) = BitVec.ofNat 8 str.length) :
    reader.skip.readLength buf lengthVar =
      ⟨reader.ptr + 2, reader.size - 2, BitVec.ofNat 64 str.length, reader.profile⟩ := by
  have len : (BitVec.ofNat 8 str.length).setWidth 64 = BitVec.ofNat 64 str.length := by
    apply BitVec.eq_of_toNat_eq
    simp only [BitVec.toNat_setWidth, BitVec.toNat_ofNat]
    omega
  have size : reader.size - 1 - 1 = reader.size - 2 := by bv_omega
  simp only [Reader.readLength, Reader.skip, second, len, size]
  rfl

/-- **One iteration reads one call back.** -/
theorem next_put (put : Put) (holds : Holds buf reader.ptr put.bytes) :
    reader.next buf = (⟨reader.ptr + put.size, reader.size - BitVec.ofNat 64 put.size, put.len,
      put.select reader.profile⟩, put.item? reader.profile) := by
  cases put with
  | u8 id value =>
      obtain ⟨first, rest⟩ := holds_cons.mp holds
      exact next_item id ⟨reader.ptr + 1, reader.size - 1, 1, reader.profile⟩ (by decide) first rfl
        rest rfl (by rw [Put.size]; bv_omega)
  | u16 id value =>
      obtain ⟨first, rest⟩ := holds_cons.mp holds
      exact next_item id ⟨reader.ptr + 1, reader.size - 1, 2, reader.profile⟩ (by decide) first rfl
        rest rfl (by rw [Put.size]; bv_omega)
  | u32 id value =>
      obtain ⟨first, rest⟩ := holds_cons.mp holds
      exact next_item id ⟨reader.ptr + 1, reader.size - 1, 4, reader.profile⟩ (by decide) first rfl
        rest rfl (by rw [Put.size]; bv_omega)
  | string id str short =>
      obtain ⟨first, rest⟩ := holds_cons.mp holds
      obtain ⟨second, rest⟩ := holds_cons.mp rest
      have len : (BitVec.ofNat 64 str.length).toNat = str.length := by
        rw [BitVec.toNat_ofNat]
        omega
      have read := next_item id _ (by decide) first (readLength_string short second) rest len rfl
      rw [read, Nat.add_assoc]
      have left : reader.size - 2 - BitVec.ofNat 64 str.length =
          reader.size - BitVec.ofNat 64 (2 + str.length) := by
        bv_omega
      rw [left]
      rfl
  | profile choice =>
      obtain ⟨first, rest⟩ := holds_cons.mp holds
      obtain ⟨second, -⟩ := holds_cons.mp rest
      have masked : (length1 ||| itemIdProfile) &&& itemIdMask = itemIdProfile := by decide
      have type : (length1 ||| itemIdProfile) &&& lengthMask = length1 := by decide
      have left : reader.size - 1 - 1 = reader.size - BitVec.ofNat 64 2 := by bv_omega
      unfold Reader.next
      simp only [show buf reader.ptr = length1 ||| itemIdProfile from first, masked, type, if_true]
      simp only [Reader.readLength, Reader.skip, if_true, second, left]
      rfl

end Next

/-! ### The loop -/

/-- What the loop delivers: it ends at the first call in front of which the bytes left are not a
positive `int`. -/
def delivered (selected : Byte) : List Put → List Item
  | [] => []
  | put :: rest =>
      if intPositive (BitVec.ofNat 64 (encodedSize (put :: rest))) then
        (put.item? selected).toList ++ delivered (put.select selected) rest
      else []

/-- **The loop over the encodings**, by induction on the calls that are left. -/
theorem deserialiseLoop_encode (buf : Memory) (calls : List Put) (fuel : Nat) (reader : Reader)
    (holds : Holds buf reader.ptr (encode calls))
    (size : reader.size = BitVec.ofNat 64 (encodedSize calls)) (enough : calls.length < fuel) :
    deserialiseLoop buf fuel reader = some (delivered reader.profile calls) := by
  induction calls generalizing fuel reader with
  | nil =>
      obtain ⟨fuel, rfl⟩ := Nat.exists_eq_succ_of_ne_zero (Nat.ne_of_gt enough)
      rw [deserialiseLoop, size]
      rfl
  | cons put rest ih =>
      obtain ⟨fuel, rfl⟩ := Nat.exists_eq_succ_of_ne_zero (Nat.ne_zero_of_lt enough)
      obtain ⟨first, behind⟩ := holds_append.mp
        (show Holds buf reader.ptr (put.bytes ++ encode rest) from holds)
      rw [Put.bytes_length] at behind
      have left : reader.size - BitVec.ofNat 64 put.size = BitVec.ofNat 64 (encodedSize rest) := by
        rw [size, encodedSize_cons]
        bv_omega
      rw [deserialiseLoop, delivered, size, next_put put first, left]
      split
      · rw [ih fuel _ behind rfl (Nat.lt_of_succ_lt_succ enough)]
        rfl
      · rfl

theorem decoded_eq_nil_iff (selected : Byte) (calls : List Put) :
    decoded selected calls = [] ↔ calls.any Put.isItem = false := by
  induction calls generalizing selected with
  | nil => exact ⟨fun _ => rfl, fun _ => rfl⟩
  | cons put rest ih =>
      rw [decoded, List.append_eq_nil_iff, ih, List.any_cons, Bool.or_eq_false_iff,
        Option.toList_eq_nil_iff, Put.item?_eq_none_iff]

/-- Wherever an item is still to come, the bytes left are a positive `int`. -/
def Guarded (calls : List Put) : Prop :=
  ∀ suffix, suffix <:+ calls → suffix.any Put.isItem = true →
    intPositive (BitVec.ofNat 64 (encodedSize suffix)) = true

theorem guarded_cons (put : Put) (rest : List Put) :
    Guarded (put :: rest) ↔ ((put :: rest).any Put.isItem = true →
      intPositive (BitVec.ofNat 64 (encodedSize (put :: rest))) = true) ∧ Guarded rest := by
  constructor
  · intro guarded
    exact ⟨guarded _ List.suffix_rfl, fun suffix tail =>
      guarded suffix (tail.trans (List.suffix_cons put rest))⟩
  · rintro ⟨whole, guarded⟩ suffix tail
    rcases List.suffix_cons_iff.mp tail with rfl | tail
    · exact whole
    · exact guarded suffix tail

/-- A loop that ends early has lost items, unless only profile switches were left. -/
theorem delivered_eq_iff (selected : Byte) (calls : List Put) :
    delivered selected calls = decoded selected calls ↔ Guarded calls := by
  induction calls generalizing selected with
  | nil =>
      refine ⟨fun _ suffix tail item => ?_, fun _ => rfl⟩
      rw [List.suffix_nil.mp tail] at item
      cases item
  | cons put rest ih =>
      rw [guarded_cons, delivered]
      split
      · next more =>
        rw [decoded, List.append_cancel_left_eq, ih]
        exact ⟨fun guarded => ⟨fun _ => more, guarded⟩, fun both => both.2⟩
      · next ended =>
        rw [eq_comm, decoded_eq_nil_iff]
        constructor
        · intro none
          refine ⟨fun item => absurd (none.symm.trans item) nofun, fun suffix tail item => ?_⟩
          obtain ⟨other, member, is⟩ := List.any_eq_true.mp item
          rw [List.any_eq_false] at none
          exact absurd is (none other (List.mem_cons_of_mem put (tail.subset member)))
        · rintro ⟨whole, -⟩
          rw [← Bool.not_eq_true]
          exact fun item => ended (whole item)

/-! ### The round trip -/

/-- The calls pass every `assert`, the size of the packet is the sum of the encoded sizes and the
flags, and decoding the packet calls the callback once for each item. -/
def RoundTrips (buf : Memory) (flags : Byte) (size : SizeT) (calls : List Put) : Prop :=
  ∃ ctx, performAll (tinyappInit buf flags size) calls = some ctx ∧
    (tinyappSize ctx).toNat = encodedSize calls + 1 ∧
    tinyappDeserialise ctx.memory (tinyappSize ctx) = some (decoded 0#8 calls)

section RoundTrip

variable (buf : Memory) (flags : Byte) {size : SizeT} {calls : List Put}
  (fits : 1 + encodedSize calls ≤ size.toNat)

include fits

/-- The packet that is written, and what is read back from it. -/
theorem deserialise_performAll :
    ∃ ctx, performAll (tinyappInit buf flags size) calls = some ctx ∧
      (tinyappSize ctx).toNat = encodedSize calls + 1 ∧
      tinyappDeserialise ctx.memory (tinyappSize ctx) = some (delivered 0#8 calls) := by
  have written := performAll_eq (tinyappInit buf flags size) calls fits
  rw [tinyappInit, put_put] at written
  refine ⟨_, written, ?_⟩
  have length : tinyappSize (Writer.put ⟨buf, 0, 0, size.toNat⟩ ([flags] ++ encode calls)) =
      BitVec.ofNat 64 (encodedSize calls + 1) := by
    simp [tinyappSize, Writer.put, encode_length]
  have small : (BitVec.ofNat 64 (encodedSize calls + 1)).toNat = encodedSize calls + 1 := by
    have bound := size.isLt
    rw [BitVec.toNat_ofNat]
    omega
  rw [length]
  refine ⟨small, ?_⟩
  have holds : Holds (store buf 0 ([flags] ++ encode calls)) 1 (encode calls) :=
    (holds_append.mp (holds_store buf 0 ([flags] ++ encode calls))).2
  refine deserialiseLoop_encode _ calls _ _ holds ?_ ?_
  · show BitVec.ofNat 64 (encodedSize calls + 1) - 1 = _
    bv_omega
  · have less := length_le_encodedSize calls
    omega

theorem roundTrips_iff_delivered :
    RoundTrips buf flags size calls ↔ delivered 0#8 calls = decoded 0#8 calls := by
  obtain ⟨ctx, written, length, read⟩ := deserialise_performAll buf flags fits
  constructor
  · rintro ⟨other, again, -, is⟩
    cases written.symm.trans again
    exact Option.some.inj (read.symm.trans is)
  · intro same
    exact ⟨ctx, written, length, same ▸ read⟩

/-- **Decode undoes encode** exactly when the loop's test succeeds wherever an item is still to
come. -/
theorem decode_encode_iff : RoundTrips buf flags size calls ↔ Guarded calls := by
  rw [roundTrips_iff_delivered buf flags fits]
  exact delivered_eq_iff 0#8 calls

end RoundTrip

/-- A packet of fewer than 2^31 bytes is guarded. -/
theorem guarded_of_lt {calls : List Put} (small : encodedSize calls < 2 ^ 31) : Guarded calls := by
  intro suffix tail item
  have shorter : encodedSize suffix ≤ encodedSize calls := by
    obtain ⟨front, rfl⟩ := tail
    simp [encodedSize]
  have some : 0 < encodedSize suffix := by
    obtain ⟨put, member, -⟩ := List.any_eq_true.mp item
    exact lt_of_lt_of_le (List.length_pos_of_mem member) (length_le_encodedSize suffix)
  rw [intPositive_iff, BitVec.toNat_ofNat]
  omega

/-- A packet with every kind of call, which fills its buffer. -/
theorem decode_encode_full_buffer :
    let id (value : Byte) (data : value < itemIdProfile) : ItemId := ⟨value, data⟩
    let calls : List Put :=
      [.u8 (id 5#8 (by decide)) 7#8, .profile 3#8, .u16 (id 1#8 (by decide)) 0x1234#16,
        .string (id 2#8 (by decide)) [0x61#8, 0x62#8] (by decide),
        .u32 (id 0#8 (by decide)) 0xDEADBEEF#32]
    1 + encodedSize calls ≤ (17#64).toNat ∧ RoundTrips (fun _ => 0#8) 0#8 17#64 calls := by
  intro id calls
  have fits : 1 + encodedSize calls ≤ (17#64).toNat := by decide
  exact ⟨fits, (decode_encode_iff (fun _ => 0#8) 0#8 fits).mpr (guarded_of_lt (by decide))⟩

/-- A loop whose test fails at once delivers nothing. -/
theorem delivered_eq_nil (selected : Byte) {calls : List Put}
    (ended : intPositive (BitVec.ofNat 64 (encodedSize calls)) = false) :
    delivered selected calls = [] := by
  cases calls with
  | nil => rfl
  | cons put rest => rw [delivered, ended, if_neg Bool.false_ne_true]

theorem encodedSize_replicate (count : Nat) (put : Put) :
    encodedSize (List.replicate count put) = count * put.size := by
  simp [encodedSize]

/-- 2^30 items of two bytes fill 2^31 bytes behind the flags. As an `int` that count is negative,
and the decoder makes no call at all. -/
theorem overlong_packet_lost :
    let calls := List.replicate (2 ^ 30) (Put.u8 ⟨0#8, by decide⟩ 0#8)
    let size : SizeT := BitVec.ofNat 64 (2 ^ 31 + 1)
    1 + encodedSize calls ≤ size.toNat ∧ ¬ RoundTrips (fun _ => 0#8) 0#8 size calls := by
  intro calls size
  have total : encodedSize calls = 2 ^ 31 := by
    rw [encodedSize_replicate]
    rfl
  have fits : 1 + encodedSize calls ≤ size.toNat := by
    rw [total]
    decide
  refine ⟨fits, fun trips => ?_⟩
  have same := (roundTrips_iff_delivered (fun _ => 0#8) 0#8 fits).mp trips
  rw [delivered_eq_nil 0#8 (by rw [total]; decide), eq_comm, decoded_eq_nil_iff] at same
  have some : calls.any Put.isItem = true := by
    rw [List.any_replicate]
    rfl
  cases same.symm.trans some

end TinyHan.Tinyapp
