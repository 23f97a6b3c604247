/-
**Error bursts over the UDP PHY** (`phy-udp.c`).

A CRC of 16 bits sees every burst of at most 16 bits, when it stands behind the message as the
remainder does: most significant byte first. `phy_send` puts the CRC behind the payload in the byte
order of the host. On a little-endian host its low byte comes first, so that a burst over the end of
the payload and the beginning of the CRC is not a burst of the polynomial, and can be a multiple of
it.

`burst_rejected_iff`: exactly twelve bursts go unseen, all of them at the end of the datagram
(`blindBursts`). A burst inside the payload is seen because shifting the register loses nothing, a
burst inside the CRC because the payload is as it was; what is left is a finite search.
-/

import Mathlib.Data.List.Basic
import TinyHan.Phy.Udp

namespace TinyHan.PhyUdp

open TinyHan.Lib

/-! ### Bursts -/

/-- Some bits are set, all of them within 16 places. -/
structure Burst (error : List Byte) : Prop where
  some : ∃ index, (bits error).getD index false = true
  confined : ∃ start, ∀ index, (bits error).getD index false = true →
    start ≤ index ∧ index < start + 16

/-- Only the bits of the error have to be looked at. -/
theorem Burst.of_bits {error : List Byte} {first start : Nat}
    (set : (bits error).getD first false = true)
    (confined : ∀ index < 8 * error.length, (bits error).getD index false = true →
      start ≤ index ∧ index < start + 16) : Burst error := by
  refine ⟨⟨first, set⟩, start, fun index on => confined index ?_ on⟩
  by_contra outside
  rw [List.getD_eq_getElem?_getD, List.getElem?_eq_none (by rw [length_bits]; omega)] at on
  cases on

/-- The datagram with the bits of the error inverted. -/
def corrupt (datagram error : List Byte) : List Byte := List.zipWith (· ^^^ ·) datagram error

/-- The bursts at the end of a datagram that go unseen on a little-endian host, without the zeros in
front of them. The last two bytes fall on the CRC. -/
def blindBursts : List (List Byte) :=
  [[0x01#8, 0x21#8, 0x10#8], [0x02#8, 0x42#8, 0x20#8], [0x03#8, 0x63#8, 0x30#8],
   [0x04#8, 0x84#8, 0x40#8], [0x05#8, 0xA5#8, 0x50#8], [0x06#8, 0xC6#8, 0x60#8],
   [0x07#8, 0xE7#8, 0x70#8], [0x89#8, 0xA1#8, 0x00#8], [0x02#8, 0x35#8, 0x94#8, 0x00#8],
   [0x08#8, 0xC5#8, 0x40#8, 0x00#8], [0x11#8, 0x8A#8, 0x80#8, 0x00#8],
   [0x19#8, 0x4F#8, 0xC0#8, 0x00#8]]

/-! ### The error alone decides -/

theorem bits_corrupt (one two : List Byte) (same : one.length = two.length) :
    bits (corrupt one two) = List.zipWith (· ^^ ·) (bits one) (bits two) := by
  induction one generalizing two with
  | nil => rfl
  | cons byte rest ih =>
      cases two with
      | nil => cases same
      | cons other others =>
          have tail := ih others (Nat.succ.inj same)
          rw [bits, bits, bits] at tail
          simp only [bits, corrupt, List.zipWith_cons_cons, List.flatMap_cons, Crc.wordBits_xor]
          rw [List.zipWith_append (by simp), ← tail]
          rfl

/-- The CRC of a corrupted payload. -/
theorem updateCrc_corrupt (payload error : List Byte) (same : payload.length = error.length) :
    updateCrc 0#16 (corrupt payload error) = updateCrc 0#16 payload ^^^ updateCrc 0#16 error := by
  have linear := Crc.feed_xor polynomial 0#16 0#16 (bits payload) (bits error) (by simp [same])
  rw [BitVec.xor_zero] at linear
  rw [updateCrc_eq_feed, updateCrc_eq_feed, updateCrc_eq_feed, bits_corrupt _ _ same, linear]

theorem value_little (first second : Byte) :
    ByteOrder.little.value [first, second] = second ++ first := by
  apply BitVec.eq_of_toNat_eq
  have bound := first.isLt
  rw [BitVec.toNat_append, ← Nat.shiftLeft_add_eq_or_of_lt bound, Nat.shiftLeft_eq]
  simp only [ByteOrder.value, leValue, BitVec.toNat_ofNat]
  omega

theorem value_corrupt {one two : List Byte} (first : one.length = 2) (second : two.length = 2) :
    ByteOrder.little.value (corrupt one two) =
      ByteOrder.little.value one ^^^ ByteOrder.little.value two := by
  obtain ⟨a, b, rfl⟩ := List.length_eq_two.mp first
  obtain ⟨c, d, rfl⟩ := List.length_eq_two.mp second
  simp only [corrupt, List.zipWith_cons_cons, List.zipWith_nil_left, value_little]
  exact BitVec.xor_append.symm

/-- **A corrupted datagram is rejected** exactly when the CRC of the error on the payload is not the
error on the CRC. -/
theorem handle_corrupt_iff (udp : Udp) {payload front back : List Byte}
    (fits : payload.length ≤ phyGetMtu) (same : front.length = payload.length)
    (two : back.length = 2) :
    (udp.handle .little (corrupt (datagram .little payload) (front ++ back))).1 = .crcError ↔
      updateCrc 0#16 front ≠ ByteOrder.little.value back := by
  have cut : corrupt (datagram .little payload) (front ++ back) = corrupt payload front ++
      corrupt (ByteOrder.little.bytes (updateCrc 0#16 payload)) back :=
    List.zipWith_append same.symm
  have room : (corrupt payload front).length ≤ phyGetMtu := by
    rw [corrupt, List.length_zipWith, same, Nat.min_self]
    exact fits
  rw [cut, handle_append _ _ room (by simp [corrupt, two]), updateCrc_corrupt _ _ same.symm,
    value_corrupt (by simp) two, ByteOrder.value_bytes]
  have cancel : updateCrc 0#16 payload ^^^ updateCrc 0#16 front =
      updateCrc 0#16 payload ^^^ ByteOrder.little.value back ↔
      updateCrc 0#16 front = ByteOrder.little.value back := by
    constructor
    · intro equal
      have back := congrArg (updateCrc 0#16 payload ^^^ ·) equal
      simpa only [← BitVec.xor_assoc, BitVec.xor_self, BitVec.zero_xor] using back
    · intro equal
      rw [equal]
  by_cases unseen : updateCrc 0#16 front = ByteOrder.little.value back
  · rw [if_neg (not_not.mpr (cancel.mpr unseen))]
    split <;> simp [unseen]
  · rw [if_pos (mt cancel.mp unseen)]
    simp [unseen]

/-! ### The boundary between payload and CRC -/

theorem bits_word (word : BitVec 16) : bits [high word, low word] = Crc.wordBits word := by
  rw [← high_append_low word, Crc.wordBits_append, high_append_low]
  simp [bits]

/-- The word with its bytes exchanged. -/
def swapped (word : BitVec 16) : BitVec 16 := low word ++ high word

theorem polynomial_odd : polynomial.getLsbD 0 = true := by decide

/-- One shift of the register, undone. -/
def unshift (register : BitVec 16) : BitVec 16 :=
  if register.getLsbD 0 then ((register ^^^ polynomial) >>> 1) ||| 0x8000#16 else register >>> 1

/-- The end of the error: what falls on the last two bytes of the payload, and on the CRC. -/
def tail (payload crc : BitVec 16) : List Byte := [high payload, low payload, high crc, low crc]

/-- A burst that reaches at most a byte into the payload: its bits there decide the CRC. -/
theorem blind_of_low : ∀ byte : Byte, ∀ count : Fin 9, byte ≠ 0#8 → byte.toNat < 2 ^ count.val →
    (swapped ((Crc.shift polynomial)^[16] (byte.setWidth 16))).toNat % 2 ^ count.val = 0 →
    (tail (byte.setWidth 16) (swapped ((Crc.shift polynomial)^[16] (byte.setWidth 16)))).dropWhile
      (· = 0#8) ∈ blindBursts := by
  decide +kernel

/-- A burst that reaches further leaves the second byte of the CRC alone: the first one decides the
payload. -/
theorem blind_of_high : ∀ byte : Byte, ∀ count : Fin 16, byte ≠ 0#8 →
    (unshift^[16] (byte.setWidth 16)).toNat < 2 ^ count.val →
    (byte.setWidth 16 <<< 8).toNat % 2 ^ count.val = 0 →
    (tail (unshift^[16] (byte.setWidth 16)) (byte.setWidth 16 <<< 8)).dropWhile (· = 0#8) ∈
      blindBursts := by
  decide +kernel

theorem shift_unshift : ∀ byte : Byte,
    (Crc.shift polynomial)^[16] (unshift^[16] (byte.setWidth 16)) = byte.setWidth 16 := by
  decide +kernel

theorem swapped_swapped (word : BitVec 16) : swapped (swapped word) = word := by
  have first : high (swapped word) = low word := high_append _ _
  have second : low (swapped word) = high word := low_append _ _
  rw [swapped, first, second, high_append_low]

theorem unshift_zero (count : Nat) : unshift^[count] 0#16 = 0#16 :=
  Function.iterate_fixed (by decide) count

/-- A word whose bits are all in its first byte. -/
theorem word_of_low_eq_zero {word : BitVec 16} (none : low word = 0#8) :
    (high word).setWidth 16 <<< 8 = word ∧ swapped word = (high word).setWidth 16 := by
  have left : ∀ byte : Byte, byte.setWidth 16 <<< 8 = byte ++ 0#8 := by decide +kernel
  have right : ∀ byte : Byte, byte.setWidth 16 = 0#8 ++ byte := by decide +kernel
  rw [left, swapped, none, right, ← none, high_append_low]
  exact ⟨rfl, rfl⟩

/-- A word whose bits are all in its second byte. -/
theorem setWidth_low {word : BitVec 16} (small : word.toNat < 256) :
    (low word).setWidth 16 = word := by
  apply BitVec.eq_of_toNat_eq
  rw [low, BitVec.toNat_setWidth, BitVec.toNat_setWidth]
  omega

section Boundary

variable {word : BitVec 16} {count : Nat} (some : word ≠ 0#16) (few : 0 < count ∧ count < 16)
  (unseen : (Crc.shift polynomial)^[16] (word >>> (16 - count)) = swapped (word <<< count))

include some few unseen

/-- An unseen burst over the boundary reaches into both sides. -/
theorem payload_ne_zero : word >>> (16 - count) ≠ 0#16 := by
  intro none
  rw [none, Crc.iterate_shift_zero] at unseen
  have crc : word <<< count = 0#16 := by
    rw [← swapped_swapped (word <<< count), ← unseen]
    decide
  have front := congrArg (List.drop (16 - count)) (Crc.wordBits_ushiftRight word count few.2.le)
  have back := congrArg (List.take (16 - count)) (Crc.wordBits_shiftLeft word count few.2.le)
  rw [none, Crc.wordBits_zero, List.drop_left' (by simp), List.drop_replicate] at front
  rw [crc, Crc.wordBits_zero, List.take_left' (by simp), List.take_replicate] at back
  have all : Crc.wordBits word = Crc.wordBits 0#16 := by
    rw [Crc.wordBits_zero, ← List.take_append_drop count (Crc.wordBits word), ← front, ← back,
      ← List.replicate_add]
    congr 1
    omega
  exact some (Crc.wordBits_injective all)

/-- **The unseen bursts over the boundary.** -/
theorem blind_of_boundary :
    (tail (word >>> (16 - count)) (word <<< count)).dropWhile (· = 0#8) ∈ blindBursts := by
  have less : (word >>> (16 - count)).toNat < 2 ^ count := by
    rw [BitVec.toNat_ushiftRight, Nat.shiftRight_eq_div_pow]
    apply Nat.div_lt_of_lt_mul
    rw [← Nat.pow_add, Nat.sub_add_cancel few.2.le]
    exact word.isLt
  have clear : (word <<< count).toNat % 2 ^ count = 0 := by
    rw [BitVec.toNat_shiftLeft, Nat.shiftLeft_eq, Nat.mod_mod_of_dvd _ (Nat.pow_dvd_pow 2 few.2.le)]
    exact Nat.mul_mod_left _ _
  have payload := payload_ne_zero some few unseen
  by_cases short : count ≤ 8
  · have small : (word >>> (16 - count)).toNat < 256 :=
      less.trans_le (Nat.pow_le_pow_right (by decide) short)
    have narrow := setWidth_low small
    have crc : word <<< count =
        swapped ((Crc.shift polynomial)^[16] ((low (word >>> (16 - count))).setWidth 16)) := by
      rw [narrow, unseen, swapped_swapped]
    have found := blind_of_low (low (word >>> (16 - count))) ⟨count, by omega⟩
      (fun zero => payload (by rw [← narrow, zero]; rfl)) ?_ (by rw [← crc]; exact clear)
    · rwa [← crc, narrow] at found
    · rwa [← narrow, BitVec.toNat_setWidth_of_le (by decide)] at less
  · have second : low (word <<< count) = 0#8 := by
      apply BitVec.eq_of_toNat_eq
      have dvd : 2 ^ 8 ∣ (word <<< count).toNat :=
        (Nat.pow_dvd_pow 2 (by omega)).trans (Nat.dvd_of_mod_eq_zero clear)
      rw [low, BitVec.toNat_setWidth]
      exact Nat.mod_eq_zero_of_dvd dvd
    obtain ⟨narrow, second⟩ := word_of_low_eq_zero second
    have first : word >>> (16 - count) = unshift^[16] ((high (word <<< count)).setWidth 16) := by
      apply Crc.iterate_shift_injective polynomial_odd 16
      rw [unseen, shift_unshift, second]
    have found := blind_of_high (high (word <<< count)) ⟨count, few.2⟩ (fun zero => payload ?_)
      (by rw [← first]; exact less) (by rw [narrow]; exact clear)
    · rwa [← first, narrow] at found
    · rw [first, zero]
      exact unshift_zero 16

end Boundary

/-! ### Datagrams -/

theorem bits_injective {one two : List Byte} (length : one.length = two.length)
    (same : bits one = bits two) : one = two := by
  induction one generalizing two with
  | nil => exact (List.length_eq_zero_iff.mp length.symm).symm
  | cons byte rest ih =>
      cases two with
      | nil => cases length
      | cons other others =>
          rw [bits, bits, List.flatMap_cons, List.flatMap_cons] at same
          obtain ⟨first, others⟩ := List.append_inj same (by simp)
          rw [Crc.wordBits_injective first, ih (Nat.succ.inj length) others]

theorem bits_replicate (count : Nat) :
    bits (List.replicate count 0#8) = List.replicate (8 * count) false := by
  induction count with
  | zero => rfl
  | succ count ih =>
      rw [bits] at ih
      rw [bits, List.replicate_succ, List.flatMap_cons, ih, Crc.wordBits_zero, ← List.replicate_add,
        Nat.mul_succ, Nat.add_comm]

theorem updateCrc_zeros (count : Nat) (rest : List Byte) :
    updateCrc 0#16 (List.replicate count 0#8 ++ rest) = updateCrc 0#16 rest := by
  rw [updateCrc_eq_feed, updateCrc_eq_feed, bits_append, bits_replicate, Crc.feed_zeros]

theorem dropWhile_zeros (count : Nat) (rest : List Byte) :
    (List.replicate count 0#8 ++ rest).dropWhile (· = 0#8) = rest.dropWhile (· = 0#8) := by
  induction count with
  | zero => rfl
  | succ count ih => simp [List.replicate_succ]

theorem value_eq_zero_iff (first second : Byte) :
    ByteOrder.little.value [first, second] = 0#16 ↔ first = 0#8 ∧ second = 0#8 := by
  rw [value_little]
  constructor
  · intro none
    exact ⟨(low_append second first).symm.trans (congrArg low none),
      (high_append second first).symm.trans (congrArg high none)⟩
  · rintro ⟨rfl, rfl⟩
    rfl

section Datagram

variable {front back : List Byte} (two : back.length = 2)

include two

/-- The bursts of the list are not seen. -/
theorem unseen_of_blind (blind : (front ++ back).dropWhile (· = 0#8) ∈ blindBursts) :
    updateCrc 0#16 front = ByteOrder.little.value back := by
  have listed : ∀ burst ∈ blindBursts, 2 ≤ burst.length ∧
      updateCrc 0#16 (burst.take (burst.length - 2)) =
        ByteOrder.little.value (burst.drop (burst.length - 2)) := by
    decide +kernel
  obtain ⟨long, matched⟩ := listed _ blind
  have zeros : (front ++ back).takeWhile (· = 0#8) =
      List.replicate ((front ++ back).takeWhile (· = 0#8)).length 0#8 := by
    refine List.eq_replicate_iff.mpr ⟨rfl, fun byte member => ?_⟩
    simpa using List.all_eq_true.mp List.all_takeWhile byte member
  have whole := (List.takeWhile_append_dropWhile (l := front ++ back) (p := (· = 0#8))).symm
  generalize (front ++ back).dropWhile (· = 0#8) = burst at long matched whole
  rw [zeros, ← List.take_append_drop (burst.length - 2) burst, ← List.append_assoc] at whole
  obtain ⟨first, second⟩ := List.append_inj' whole (by rw [two, List.length_drop]; omega)
  rw [first, second, updateCrc_zeros]
  exact matched

/-- A burst inside the payload is seen. -/
theorem seen_in_payload {before after : Nat} {word : BitVec 16} (some : word ≠ 0#16)
    (payload : bits front =
      List.replicate before false ++ Crc.wordBits word ++ List.replicate after false)
    (crc : bits back = List.replicate 16 false) :
    updateCrc 0#16 front ≠ ByteOrder.little.value back := by
  have none : back = [0#8, 0#8] := bits_injective two (crc.trans (bits_replicate 2).symm)
  rw [none, (value_eq_zero_iff _ _).mpr ⟨rfl, rfl⟩, updateCrc_eq_feed, payload]
  exact Crc.feed_burst_ne_zero polynomial_odd some before after

/-- A burst inside the CRC is seen. -/
theorem seen_in_crc {before : Nat} {word : BitVec 16} (some : word ≠ 0#16)
    (payload : bits front = List.replicate before false) (crc : bits back = Crc.wordBits word) :
    updateCrc 0#16 front ≠ ByteOrder.little.value back := by
  rw [updateCrc_eq_feed, payload, Crc.feed_replicate_false, Crc.iterate_shift_zero]
  intro none
  obtain ⟨one, other, rfl⟩ := List.length_eq_two.mp two
  obtain ⟨rfl, rfl⟩ := (value_eq_zero_iff _ _).mp none.symm
  have zero : bits [0#8, 0#8] = Crc.wordBits 0#16 := (bits_replicate 2).trans Crc.wordBits_zero.symm
  exact some (Crc.wordBits_injective (crc.symm.trans zero))

/-- A burst over the boundary that is not seen is in the list. -/
theorem blind_over_boundary {before count : Nat} {word : BitVec 16} (some : word ≠ 0#16)
    (few : 0 < count ∧ count < 16) (size : before + count = 8 * front.length)
    (payload : bits front = List.replicate before false ++ (Crc.wordBits word).take count)
    (crc : bits back = (Crc.wordBits word).drop count ++ List.replicate count false)
    (unseen : updateCrc 0#16 front = ByteOrder.little.value back) :
    (front ++ back).dropWhile (· = 0#8) ∈ blindBursts := by
  have left : back = [high (word <<< count), low (word <<< count)] := by
    apply bits_injective two
    rw [bits_word, Crc.wordBits_shiftLeft _ _ few.2.le, crc]
  have fed : updateCrc 0#16 front = (Crc.shift polynomial)^[16] (word >>> (16 - count)) := by
    have padded := Crc.feed_word polynomial 0#16 (word >>> (16 - count))
    rw [BitVec.zero_xor, Crc.wordBits_ushiftRight _ _ few.2.le, Crc.feed_zeros] at padded
    rw [updateCrc_eq_feed, payload, Crc.feed_zeros, padded]
  rw [fed, left, value_little] at unseen
  have found := blind_of_boundary some few unseen
  -- Two zero bytes in front make room for the two bytes of the payload in the list.
  have ends : List.replicate 2 0#8 ++ (front ++ back) =
      List.replicate front.length 0#8 ++ tail (word >>> (16 - count)) (word <<< count) := by
    apply bits_injective
    · simp [tail, two]
    · have split : bits (tail (word >>> (16 - count)) (word <<< count)) =
          bits [high (word >>> (16 - count)), low (word >>> (16 - count))] ++ bits back := by
        rw [left, ← bits_append]
        rfl
      rw [bits_append, bits_append, bits_append, split, bits_word, bits_replicate, bits_replicate,
        payload, Crc.wordBits_ushiftRight _ _ few.2.le, ← List.append_assoc, ← List.append_assoc,
        ← List.append_assoc, ← List.append_assoc, ← List.replicate_add, ← List.replicate_add]
      congr 3
      omega
  rw [← dropWhile_zeros 2, ends, dropWhile_zeros]
  exact found

/-- **A burst that is not seen is in the list.** -/
theorem blind_of_unseen (burst : Burst (front ++ back))
    (unseen : updateCrc 0#16 front = ByteOrder.little.value back) :
    (front ++ back).dropWhile (· = 0#8) ∈ blindBursts := by
  obtain ⟨start, confined⟩ := burst.confined
  obtain ⟨before, after, word, size, is⟩ := @Crc.exists_word 16 _
    (by rw [length_bits, List.length_append, two]; omega) _ confined
  rw [length_bits, List.length_append, two] at size
  have some : word ≠ 0#16 := by
    rintro rfl
    obtain ⟨index, set⟩ := burst.some
    rw [is, Crc.wordBits_zero, ← List.replicate_add, ← List.replicate_add,
      List.getD_eq_getElem?_getD, List.getElem?_replicate] at set
    split at set <;> cases set
  rw [bits_append] at is
  by_cases inside : before + 16 ≤ 8 * front.length
  · have cut : after = (8 * front.length - (before + 16)) + 16 := by omega
    rw [cut, List.replicate_add, ← List.append_assoc] at is
    obtain ⟨payload, crc⟩ := List.append_inj is (by simp; omega)
    exact absurd unseen (seen_in_payload two some payload crc)
  · by_cases behind : 8 * front.length ≤ before
    · have none : after = 0 := by omega
      rw [none, List.replicate_zero, List.append_nil] at is
      obtain ⟨payload, crc⟩ := List.append_inj is (by simp; omega)
      exact absurd unseen (seen_in_crc two some payload crc)
    · have same : after = 8 * front.length - before := by omega
      rw [← List.take_append_drop after (Crc.wordBits word), ← List.append_assoc,
        List.append_assoc] at is
      obtain ⟨payload, crc⟩ := List.append_inj is (by simp; omega)
      exact blind_over_boundary two some (by omega) (by omega) payload crc unseen

end Datagram

/-- **The bursts that are seen.** On a little-endian host, a datagram of `phy_send` with a burst of
errors within 16 bits is rejected, exactly when the burst is not one of the twelve at the end of the
datagram. -/
theorem burst_rejected_iff (sending : List Call) (bufs : List (List Byte)) (flags : Byte)
    (fits : bufs.flatten.length ≤ phyGetMtu) (original : List Byte)
    (sent : (phySend .little (phyInit.run .little sending) bufs flags).2.sent =
      (phyInit.run .little sending).sent ++ [original])
    (error : List Byte) (size : error.length = original.length) (burst : Burst error)
    (receiver : Udp) (rest : List (Option (List Byte)))
    (arrived : receiver.inbox = some (corrupt original error) :: rest) :
    (phyEventHandler .little receiver).1 = .crcError ↔
      error.dropWhile (· = 0#8) ∉ blindBursts := by
  have ready : (phyInit.run .little sending).Ready := run_ready sending
  rw [phySend_eq, ready.uncorked, List.nil_append] at sent
  obtain rfl : datagram .little bufs.flatten = original := by simpa using sent
  have long : error.length = bufs.flatten.length + 2 := by
    rw [size, datagram, List.length_append, ByteOrder.length_bytes]
  rw [phyEventHandler, arrived]
  dsimp only
  rw [← List.take_append_drop bufs.flatten.length error] at burst ⊢
  have two : (error.drop bufs.flatten.length).length = 2 := by
    rw [List.length_drop]
    omega
  rw [handle_corrupt_iff _ fits (by rw [List.length_take]; omega) two]
  exact not_congr ⟨blind_of_unseen two burst, unseen_of_blind two⟩

/-- A byte of the payload is inverted. -/
theorem burst_rejected_byte :
    (phyEventHandler .little ⟨true, true, [], [], [some [0xFE#8, 0x21#8, 0x10#8]], []⟩).1 =
      .crcError := by
  have burst : Burst [0xFF#8, 0x00#8, 0x00#8] := @Burst.of_bits _ 0 0 (by decide) (by decide)
  exact (burst_rejected_iff [] [[0x01#8]] 0#8 (by decide) [0x01#8, 0x21#8, 0x10#8]
    (by decide +kernel) [0xFF#8, 0x00#8, 0x00#8] rfl burst _ [] rfl).mpr (by decide)

/-- A burst of 13 bits over the end of the payload turns the packet `00` into `01`. -/
theorem burst_accepted :
    (phySend .little phyInit [[0x00#8]] 0#8).2.sent = [[0x00#8, 0x00#8, 0x00#8]] ∧
      Burst [0x01#8, 0x21#8, 0x10#8] ∧
      phyEventHandler .little ⟨true, true, [], [],
          [some (corrupt [0x00#8, 0x00#8, 0x00#8] [0x01#8, 0x21#8, 0x10#8])], []⟩ =
        (.accepted, ⟨true, true, [], [], [], [⟨[0x01#8], 0⟩]⟩) :=
  ⟨by decide +kernel, @Burst.of_bits _ 7 7 (by decide) (by decide), by decide +kernel⟩

end TinyHan.PhyUdp
