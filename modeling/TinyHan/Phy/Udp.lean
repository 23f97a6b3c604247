/-
**The UDP PHY** (`phy-udp.c`).

The PHY of the simulation sends a packet as one multicast datagram: the fragments, handed to the
socket with `MSG_MORE`, and behind them the CRC of all of them in the byte order of the host. The
receiver takes a datagram of at most `MAX_PACKET` bytes, computes the CRC of all but the last two,
and hands those bytes on when the two agree.

* The statics of the driver and its socket are one record, `Udp`. The socket joins what is sent with
  `MSG_MORE` to what is sent next. What arrives is up to the environment: a datagram, or an error of
  `recvfrom`.
* `phy_standby` and `phy_delayed_standby` do nothing in this driver, so that it listens from
  `phy_init` on (`run_ready`).

`updateCrc_eq_feed`: the table driven CRC is the register of `Lib.Crc` with the polynomial `0x1021`,
fed with the bytes most significant bit first, and so the remainder of the bytes by that polynomial
(`updateCrc_xmodem`). `udp_round_trip`: every packet that fits arrives as
it was sent, however it was cut into fragments.
-/

import TinyHan.Lib.Bytes
import TinyHan.Lib.Remainder
import TinyHan.Mac.Effects

namespace TinyHan.PhyUdp

open TinyHan.Lib

/-! ### The driver -/

/-- `MAX_PACKET`. -/
def maxPacket : Nat := 256

/-- `PHY_RSSI_NONE`. -/
def rssiNone : Int := 0

/-- `phy_crc_table`. -/
def phyCrcTable : List (BitVec 16) :=
  [0x0000#16, 0x1021#16, 0x2042#16, 0x3063#16, 0x4084#16, 0x50A5#16, 0x60C6#16, 0x70E7#16,
   0x8108#16, 0x9129#16, 0xA14A#16, 0xB16B#16, 0xC18C#16, 0xD1AD#16, 0xE1CE#16, 0xF1EF#16,
   0x1231#16, 0x0210#16, 0x3273#16, 0x2252#16, 0x52B5#16, 0x4294#16, 0x72F7#16, 0x62D6#16,
   0x9339#16, 0x8318#16, 0xB37B#16, 0xA35A#16, 0xD3BD#16, 0xC39C#16, 0xF3FF#16, 0xE3DE#16,
   0x2462#16, 0x3443#16, 0x0420#16, 0x1401#16, 0x64E6#16, 0x74C7#16, 0x44A4#16, 0x5485#16,
   0xA56A#16, 0xB54B#16, 0x8528#16, 0x9509#16, 0xE5EE#16, 0xF5CF#16, 0xC5AC#16, 0xD58D#16,
   0x3653#16, 0x2672#16, 0x1611#16, 0x0630#16, 0x76D7#16, 0x66F6#16, 0x5695#16, 0x46B4#16,
   0xB75B#16, 0xA77A#16, 0x9719#16, 0x8738#16, 0xF7DF#16, 0xE7FE#16, 0xD79D#16, 0xC7BC#16,
   0x48C4#16, 0x58E5#16, 0x6886#16, 0x78A7#16, 0x0840#16, 0x1861#16, 0x2802#16, 0x3823#16,
   0xC9CC#16, 0xD9ED#16, 0xE98E#16, 0xF9AF#16, 0x8948#16, 0x9969#16, 0xA90A#16, 0xB92B#16,
   0x5AF5#16, 0x4AD4#16, 0x7AB7#16, 0x6A96#16, 0x1A71#16, 0x0A50#16, 0x3A33#16, 0x2A12#16,
   0xDBFD#16, 0xCBDC#16, 0xFBBF#16, 0xEB9E#16, 0x9B79#16, 0x8B58#16, 0xBB3B#16, 0xAB1A#16,
   0x6CA6#16, 0x7C87#16, 0x4CE4#16, 0x5CC5#16, 0x2C22#16, 0x3C03#16, 0x0C60#16, 0x1C41#16,
   0xEDAE#16, 0xFD8F#16, 0xCDEC#16, 0xDDCD#16, 0xAD2A#16, 0xBD0B#16, 0x8D68#16, 0x9D49#16,
   0x7E97#16, 0x6EB6#16, 0x5ED5#16, 0x4EF4#16, 0x3E13#16, 0x2E32#16, 0x1E51#16, 0x0E70#16,
   0xFF9F#16, 0xEFBE#16, 0xDFDD#16, 0xCFFC#16, 0xBF1B#16, 0xAF3A#16, 0x9F59#16, 0x8F78#16,
   0x9188#16, 0x81A9#16, 0xB1CA#16, 0xA1EB#16, 0xD10C#16, 0xC12D#16, 0xF14E#16, 0xE16F#16,
   0x1080#16, 0x00A1#16, 0x30C2#16, 0x20E3#16, 0x5004#16, 0x4025#16, 0x7046#16, 0x6067#16,
   0x83B9#16, 0x9398#16, 0xA3FB#16, 0xB3DA#16, 0xC33D#16, 0xD31C#16, 0xE37F#16, 0xF35E#16,
   0x02B1#16, 0x1290#16, 0x22F3#16, 0x32D2#16, 0x4235#16, 0x5214#16, 0x6277#16, 0x7256#16,
   0xB5EA#16, 0xA5CB#16, 0x95A8#16, 0x8589#16, 0xF56E#16, 0xE54F#16, 0xD52C#16, 0xC50D#16,
   0x34E2#16, 0x24C3#16, 0x14A0#16, 0x0481#16, 0x7466#16, 0x6447#16, 0x5424#16, 0x4405#16,
   0xA7DB#16, 0xB7FA#16, 0x8799#16, 0x97B8#16, 0xE75F#16, 0xF77E#16, 0xC71D#16, 0xD73C#16,
   0x26D3#16, 0x36F2#16, 0x0691#16, 0x16B0#16, 0x6657#16, 0x7676#16, 0x4615#16, 0x5634#16,
   0xD94C#16, 0xC96D#16, 0xF90E#16, 0xE92F#16, 0x99C8#16, 0x89E9#16, 0xB98A#16, 0xA9AB#16,
   0x5844#16, 0x4865#16, 0x7806#16, 0x6827#16, 0x18C0#16, 0x08E1#16, 0x3882#16, 0x28A3#16,
   0xCB7D#16, 0xDB5C#16, 0xEB3F#16, 0xFB1E#16, 0x8BF9#16, 0x9BD8#16, 0xABBB#16, 0xBB9A#16,
   0x4A75#16, 0x5A54#16, 0x6A37#16, 0x7A16#16, 0x0AF1#16, 0x1AD0#16, 0x2AB3#16, 0x3A92#16,
   0xFD2E#16, 0xED0F#16, 0xDD6C#16, 0xCD4D#16, 0xBDAA#16, 0xAD8B#16, 0x9DE8#16, 0x8DC9#16,
   0x7C26#16, 0x6C07#16, 0x5C64#16, 0x4C45#16, 0x3CA2#16, 0x2C83#16, 0x1CE0#16, 0x0CC1#16,
   0xEF1F#16, 0xFF3E#16, 0xCF5D#16, 0xDF7C#16, 0xAF9B#16, 0xBFBA#16, 0x8FD9#16, 0x9FF8#16,
   0x6E17#16, 0x7E36#16, 0x4E55#16, 0x5E74#16, 0x2E93#16, 0x3EB2#16, 0x0ED1#16, 0x1EF0#16]

/-- One turn of the loop of `update_crc`. -/
def crcStep (crc : BitVec 16) (byte : Byte) : BitVec 16 :=
  (crc <<< 8) ^^^ phyCrcTable.getD ((crc >>> 8) ^^^ byte.setWidth 16).toNat 0#16

/-- `update_crc`. -/
def updateCrc (crc : BitVec 16) (buf : List Byte) : BitVec 16 := buf.foldl crcStep crc

/-- The byte order of the host. -/
inductive ByteOrder where
  | little
  | big
  deriving DecidableEq, Repr

/-- A `uint16_t` in memory. -/
def ByteOrder.bytes (order : ByteOrder) (value : BitVec 16) : List Byte :=
  match order with
  | .little => leBytes 2 value.toNat
  | .big => (leBytes 2 value.toNat).reverse

/-- A `uint16_t` that is read from memory. -/
def ByteOrder.value (order : ByteOrder) (bytes : List Byte) : BitVec 16 :=
  match order with
  | .little => BitVec.ofNat 16 (leValue bytes)
  | .big => BitVec.ofNat 16 (leValue bytes.reverse)

/-- A call of `phy_recv_cb`. -/
structure Received where
  payload : List Byte
  rssi : Int
  deriving DecidableEq, Repr

/-- The statics of the driver, and its socket: the bytes that wait for the end of their datagram,
the datagrams that were sent, and what `recvfrom` will return, `none` being an error. -/
structure Udp where
  recvCb : Bool
  listening : Bool
  corked : List Byte
  sent : List (List Byte)
  inbox : List (Option (List Byte))
  received : List Received
  deriving DecidableEq, Repr

/-- The driver after `phy_init` has opened the socket. -/
def phyInit : Udp := ⟨false, true, [], [], [], []⟩

/-- `sendto`, with or without `MSG_MORE`. -/
def Udp.sendto (udp : Udp) (bytes : List Byte) (more : Bool) : Udp :=
  if more then { udp with corked := udp.corked ++ bytes }
  else { udp with corked := [], sent := udp.sent ++ [udp.corked ++ bytes] }

/-- `phy_send`. It looks at no flag. -/
def phySend (order : ByteOrder) (udp : Udp) (bufs : List (List Byte)) (_flags : Byte) : Int × Udp :=
  let crc := bufs.foldl updateCrc 0#16
  let udp := bufs.foldl (fun udp buf => udp.sendto buf true) udp
  (0, udp.sendto (order.bytes crc) false)

/-- How `phy_event_handler` leaves. -/
inductive Outcome where
  | noPacket
  | recvError
  | shortPacket
  | crcError
  | ignored
  | accepted
  deriving DecidableEq, Repr

/-- `phy_event_handler`, behind `recvfrom`: the buffer has the first `MAX_PACKET` bytes. -/
def Udp.handle (udp : Udp) (order : ByteOrder) (datagram : List Byte) : Outcome × Udp :=
  let payload := datagram.take maxPacket
  let size := payload.length
  if size < 2 then (.shortPacket, udp)
  else
    let ourcrc := updateCrc 0#16 (payload.take (size - 2))
    let theircrc := order.value (payload.drop (size - 2))
    if ourcrc ≠ theircrc then (.crcError, udp)
    else if udp.recvCb && udp.listening then
      (.accepted, { udp with
        received := udp.received ++ [⟨payload.take (size - 2), rssiNone⟩] })
    else (.ignored, udp)

/-- `phy_event_handler`. -/
def phyEventHandler (order : ByteOrder) (udp : Udp) : Outcome × Udp :=
  match udp.inbox with
  | [] => (.noPacket, udp)
  | none :: rest => (.recvError, { udp with inbox := rest })
  | some datagram :: rest => Udp.handle { udp with inbox := rest } order datagram

/-- `phy_get_mtu`. -/
def phyGetMtu : Nat := maxPacket - 2

/-- What is done to the driver. -/
inductive Call where
  | suspend
  | resume
  | listen
  | standby
  | delayedStandby (us : BitVec 16)
  | registerRecvCb (cb : Bool)
  | send (bufs : List (List Byte)) (flags : Byte)
  | eventHandler
  /-- The network delivers a datagram, or an error. -/
  | arrives (datagram : Option (List Byte))

/-- One call. -/
def Udp.step (order : ByteOrder) (udp : Udp) : Call → Udp
  | .suspend => udp
  | .resume => udp
  | .listen => { udp with listening := true }
  | .standby => udp
  | .delayedStandby _ => udp
  | .registerRecvCb cb => { udp with recvCb := cb }
  | .send bufs flags => (phySend order udp bufs flags).2
  | .eventHandler => (phyEventHandler order udp).2
  | .arrives datagram => { udp with inbox := udp.inbox ++ [datagram] }

/-- The calls of a run, in order. -/
def Udp.run (order : ByteOrder) (udp : Udp) (calls : List Call) : Udp :=
  calls.foldl (Udp.step order) udp

/-! ### The table is the register -/

/-- The polynomial of the table, without its leading term. -/
def polynomial : BitVec 16 := 0x1021#16

/-- The bits of the bytes, most significant first. -/
def bits (bytes : List Byte) : List Bool := bytes.flatMap Crc.wordBits

theorem bits_append (one two : List Byte) : bits (one ++ two) = bits one ++ bits two :=
  List.flatMap_append

@[simp] theorem length_bits (bytes : List Byte) : (bits bytes).length = 8 * bytes.length := by
  induction bytes with
  | nil => rfl
  | cons byte rest ih =>
      rw [bits, List.flatMap_cons, List.length_append, Crc.length_wordBits]
      rw [bits] at ih
      rw [ih, List.length_cons]
      ring

/-- An entry of the table is eight shifts of its index. -/
theorem phyCrcTable_entry : ∀ index : Byte, phyCrcTable.getD index.toNat 0#16 =
    (Crc.shift polynomial)^[8] (index.setWidth 16 <<< 8) := by
  decide +kernel

/-- The low byte of the register does not meet the polynomial in eight shifts. -/
theorem iterate_shift_low : ∀ low : Byte,
    (Crc.shift polynomial)^[8] (low.setWidth 16) = low.setWidth 16 <<< 8 := by
  decide +kernel

theorem place_byte : ∀ byte : Byte,
    (Crc.place (Crc.wordBits byte) : BitVec 16) = byte.setWidth 16 <<< 8 := by
  decide +kernel

section Step

variable (crc : BitVec 16) (byte : Byte)

/-- The index of the table is the byte that goes out of the register, with the new byte. -/
theorem crc_index :
    (crc >>> 8) ^^^ byte.setWidth 16 = ((crc >>> 8).setWidth 8 ^^^ byte).setWidth 16 := by
  apply BitVec.eq_of_getLsbD_eq
  intro index inside
  by_cases low : index < 8
  · simp [low, inside]
  · simp [low, inside, BitVec.getLsbD_of_ge crc (8 + index) (by omega)]

theorem crc_split : crc ^^^ byte.setWidth 16 <<< 8 =
    (((crc >>> 8).setWidth 8 ^^^ byte).setWidth 16 <<< 8) ^^^ (crc.setWidth 8).setWidth 16 := by
  apply BitVec.eq_of_getLsbD_eq
  intro index inside
  by_cases low : index < 8
  · simp [low, inside]
  · simp [low, inside, show index - 8 < 8 by omega, show 8 + (index - 8) = index by omega]

theorem crc_low : crc <<< 8 = (crc.setWidth 8).setWidth 16 <<< 8 := by
  apply BitVec.eq_of_getLsbD_eq
  intro index inside
  by_cases low : index < 8
  · simp [low]
  · simp [low, inside, show index - 8 < 8 by omega, show index - 8 < 16 by omega]

/-- **One byte from the table** is eight bits into the register. -/
theorem crcStep_eq_feed : crcStep crc byte = Crc.feed polynomial crc (Crc.wordBits byte) := by
  have entry : (((crc >>> 8).setWidth 8 ^^^ byte).setWidth 16).toNat =
      ((crc >>> 8).setWidth 8 ^^^ byte).toNat := BitVec.toNat_setWidth_of_le (by decide)
  rw [crcStep, crc_index, entry, phyCrcTable_entry, Crc.feed_place _ _ _ (by simp),
    Crc.length_wordBits, place_byte, crc_split, Crc.iterate_shift_xor, iterate_shift_low, crc_low,
    BitVec.xor_comm]

end Step

/-- **The CRC of the driver** is the register fed with the bits of the bytes. -/
theorem updateCrc_eq_feed (crc : BitVec 16) (buf : List Byte) :
    updateCrc crc buf = Crc.feed polynomial crc (bits buf) := by
  induction buf generalizing crc with
  | nil => rfl
  | cons byte rest ih =>
      rw [bits, List.flatMap_cons, Crc.feed_append, ← crcStep_eq_feed]
      exact ih _

/-! ### What the table computes -/

section Xmodem

open Polynomial

/-- `0x1021`, with the leading coefficient that the register leaves out. -/
theorem generator_polynomial :
    Crc.generator polynomial = (X ^ 16 + X ^ 12 + X ^ 5 + 1 : (ZMod 2)[X]) := by
  have word : Crc.toPoly polynomial = X ^ 12 + X ^ 5 + 1 := by
    simp [Crc.toPoly, Crc.coefficient, polynomial, Finset.sum_range_succ]
    ring
  rw [Crc.generator, word]
  ring

/-- **The table computes its polynomial.** From every register and over every byte string,
`update_crc` is the CRC with polynomial `0x1021` taken bit by bit with the most significant bit
first, with nothing reflected and nothing added in the end, and from register 0 it is
CRC-16/XMODEM. As a polynomial it is the remainder by `X ^ 16 + X ^ 12 + X ^ 5 + 1`. -/
theorem updateCrc_xmodem (crc : BitVec 16) (buf : List Byte) :
    updateCrc crc buf = { Crc.xmodem with init := crc }.crc buf ∧
      updateCrc 0#16 buf = Crc.xmodem.crc buf ∧
      Crc.toPoly (updateCrc crc buf) =
        (Crc.toPoly crc * X ^ (8 * buf.length) + Crc.message (bits buf) * X ^ 16) %ₘ
          (X ^ 16 + X ^ 12 + X ^ 5 + 1) := by
  have bitwise (crc : BitVec 16) :
      updateCrc crc buf = { Crc.xmodem with init := crc }.crc buf := by
    rw [updateCrc_eq_feed, Crc.Algorithm.crc]
    exact (BitVec.xor_zero ..).symm
  refine ⟨bitwise crc, bitwise 0#16, ?_⟩
  rw [updateCrc_eq_feed, Crc.toPoly_feed, length_bits, generator_polynomial]

end Xmodem

/-! ### Fragments -/

/-- **The CRC does not depend on the fragments.** -/
theorem foldl_updateCrc (crc : BitVec 16) (bufs : List (List Byte)) :
    bufs.foldl updateCrc crc = updateCrc crc bufs.flatten := by
  induction bufs generalizing crc with
  | nil => rfl
  | cons buf rest ih =>
      rw [List.foldl_cons, ih, List.flatten_cons, updateCrc, updateCrc, updateCrc,
        List.foldl_append]

theorem foldl_sendto (udp : Udp) (bufs : List (List Byte)) :
    bufs.foldl (fun udp buf => udp.sendto buf true) udp =
      { udp with corked := udp.corked ++ bufs.flatten } := by
  induction bufs generalizing udp with
  | nil => simp
  | cons buf rest ih =>
      rw [List.foldl_cons, ih, Udp.sendto, if_pos rfl, List.flatten_cons, List.append_assoc]

/-- The datagram for a payload. -/
def datagram (order : ByteOrder) (payload : List Byte) : List Byte :=
  payload ++ order.bytes (updateCrc 0#16 payload)

/-- `phy_send` sends what the socket holds back and one datagram. -/
theorem phySend_eq (order : ByteOrder) (udp : Udp) (bufs : List (List Byte)) (flags : Byte) :
    phySend order udp bufs flags = (0, { udp with
      corked := []
      sent := udp.sent ++ [udp.corked ++ datagram order bufs.flatten] }) := by
  rw [phySend, foldl_updateCrc, foldl_sendto, Udp.sendto, if_neg (by decide), datagram,
    List.append_assoc]

/-! ### Reception -/

section Order

variable (order : ByteOrder)

@[simp] theorem ByteOrder.length_bytes (value : BitVec 16) : (order.bytes value).length = 2 := by
  cases order <;> simp [ByteOrder.bytes]

@[simp] theorem ByteOrder.value_bytes (value : BitVec 16) :
    order.value (order.bytes value) = value := by
  cases order with
  | little => exact ofNat_leValue_leBytes 2 (by decide) value
  | big =>
      rw [ByteOrder.value, ByteOrder.bytes, List.reverse_reverse]
      exact ofNat_leValue_leBytes 2 (by decide) value

/-- A datagram that fits is cut into the payload and the CRC behind it. -/
theorem handle_append (udp : Udp) {payload crc : List Byte} (fits : payload.length ≤ phyGetMtu)
    (two : crc.length = 2) :
    udp.handle order (payload ++ crc) =
      if updateCrc 0#16 payload ≠ order.value crc then (.crcError, udp)
      else if udp.recvCb && udp.listening then
        (.accepted, { udp with received := udp.received ++ [⟨payload, rssiNone⟩] })
      else (.ignored, udp) := by
  have whole : (payload ++ crc).take maxPacket = payload ++ crc := by
    apply List.take_of_length_le
    rw [List.length_append, two]
    unfold phyGetMtu maxPacket at fits
    unfold maxPacket
    omega
  have size : (payload ++ crc).length = payload.length + 2 := by rw [List.length_append, two]
  rw [Udp.handle, whole, size]
  dsimp only
  rw [if_neg (by omega), Nat.add_sub_cancel, List.take_left, List.drop_left]

/-- **A datagram arrives as it was sent**, at a driver that listens and has a callback. -/
theorem handle_datagram (udp : Udp) {payload : List Byte} (fits : payload.length ≤ phyGetMtu)
    (registered : udp.recvCb = true) (listening : udp.listening = true) :
    udp.handle order (datagram order payload) =
      (.accepted, { udp with received := udp.received ++ [⟨payload, rssiNone⟩] }) := by
  rw [datagram, handle_append order udp fits (order.length_bytes _), order.value_bytes,
    if_neg (by simp), registered, listening]
  rfl

/-! ### Runs -/

/-- What holds of a driver between two calls: it listens, and its socket holds nothing back. -/
structure Udp.Ready (udp : Udp) : Prop where
  listening : udp.listening = true
  uncorked : udp.corked = []

variable {order}

theorem Udp.Ready.handle {udp : Udp} (ready : udp.Ready) (datagram : List Byte) :
    (udp.handle order datagram).2.Ready := by
  unfold Udp.handle
  dsimp only
  split_ifs <;> exact ⟨ready.listening, ready.uncorked⟩

theorem Udp.Ready.step {udp : Udp} (ready : udp.Ready) (call : Call) :
    (udp.step order call).Ready := by
  cases call with
  | suspend => exact ready
  | resume => exact ready
  | listen => exact ⟨rfl, ready.uncorked⟩
  | standby => exact ready
  | delayedStandby us => exact ready
  | registerRecvCb cb => exact ⟨ready.listening, ready.uncorked⟩
  | send bufs flags =>
      rw [Udp.step, phySend_eq]
      exact ⟨ready.listening, rfl⟩
  | eventHandler =>
      rw [Udp.step, phyEventHandler]
      split
      · exact ready
      · exact ⟨ready.listening, ready.uncorked⟩
      · next arrived rest is =>
        have emptied : ({ udp with inbox := rest } : Udp).Ready := ⟨ready.listening, ready.uncorked⟩
        exact emptied.handle arrived
  | arrives datagram => exact ⟨ready.listening, ready.uncorked⟩

/-- **A driver is ready in every run** from `phy_init` on. -/
theorem run_ready (calls : List Call) : (phyInit.run order calls).Ready := by
  have start : phyInit.Ready := ⟨rfl, rfl⟩
  have runs (udp : Udp) (ready : udp.Ready) : (udp.run order calls).Ready := by
    induction calls generalizing udp with
    | nil => exact ready
    | cons call calls ih => exact ih _ (ready.step call)
  exact runs _ start

end Order

/-- **Every packet that fits arrives as it was sent.** `phy_send` of any driver sends one datagram,
and whenever this is the next one that a driver with a callback takes, the callback is invoked once,
with the fragments one behind the other. The CRC is that of the whole packet, however it is cut. -/
theorem udp_round_trip (order : ByteOrder) (sending : List Call) (bufs : List (List Byte))
    (flags : Byte) (fits : bufs.flatten.length ≤ phyGetMtu) :
    let sender := phyInit.run order sending
    (∃ datagram, (phySend order sender bufs flags).2.sent = sender.sent ++ [datagram] ∧
      ∀ receiving rest, (phyInit.run order receiving).recvCb = true →
        (phyInit.run order receiving).inbox = some datagram :: rest →
        phyEventHandler order (phyInit.run order receiving) =
          (.accepted, { phyInit.run order receiving with
            inbox := rest
            received := (phyInit.run order receiving).received ++
              [⟨bufs.flatten, rssiNone⟩] })) ∧
    ∀ crc, bufs.foldl updateCrc crc = updateCrc crc bufs.flatten := by
  intro sender
  have ready : sender.Ready := run_ready sending
  refine ⟨⟨datagram order bufs.flatten, ?_, ?_⟩, fun crc => foldl_updateCrc crc bufs⟩
  · rw [phySend_eq, ready.uncorked, List.nil_append]
  · intro receiving rest registered arrived
    have listening := (run_ready receiving : (phyInit.run order receiving).Ready).listening
    rw [phyEventHandler, arrived]
    exact handle_datagram order _ fits registered listening

/-- Three fragments, one of them empty, from a driver that has just been started to another one. -/
theorem udp_round_trip_three :
    phyEventHandler .little (phyInit.run .little [.registerRecvCb true,
        .arrives (some [0x01#8, 0x02#8, 0x03#8, 0x31#8, 0x61#8])]) =
      (.accepted, ⟨true, true, [], [], [], [⟨[0x01#8, 0x02#8, 0x03#8], 0⟩]⟩) := by
  obtain ⟨⟨datagram, sent, arrives⟩, -⟩ :=
    udp_round_trip .little [] [[0x01#8], [], [0x02#8, 0x03#8]]
    0#8 (by decide)
  have one :
      (phySend .little (phyInit.run .little []) [[0x01#8], [], [0x02#8, 0x03#8]] 0#8).2.sent =
      [[0x01#8, 0x02#8, 0x03#8, 0x31#8, 0x61#8]] := by
    decide +kernel
  obtain rfl := (List.cons.inj (one.symm.trans sent)).1
  exact arrives _ [] rfl rfl

/-! ### Frames of the MAC -/

/-- The callback of the MAC, `tinymac_recv_cb`. -/
def Received.input (received : Received) : Tinymac.Input :=
  .recv (ofList received.payload) received.payload.length received.rssi

end TinyHan.PhyUdp
