/-
**MQTT-SN messages** (`mqttsn.h`).

A message has a length byte, a type byte, the fixed fields of its type and, for most types, a
variable part that extends to the end. Numbers of two bytes are in network byte order; the macro
`mqttsn_htons` exchanges the two bytes, which is right on a little-endian host, the host of this
model.

`encode` and `decode` are the layouts of the header, for the messages that a client sends.
`Message.wire` is what the client makes of a message: a SUBSCRIBE is two bytes longer than its
layout, because the size of `mqttsn_subscribe_t` counts the union that the topic name shares with a
topic identifier.
-/

import TinyHan.Lib.Bytes

namespace TinyHan.Mqttsn

open TinyHan.Lib

/-! ### Constants -/

/-- `MQTTSN_MAX_CLIENT_ID`. -/
def maxClientId : Nat := 16
/-- `MQTTSN_MAX_CLIENT_TOPICS`. -/
def maxClientTopics : Nat := 16
/-- `MQTTSN_MAX_PACKET`. -/
def maxPacket : Nat := 64
/-- `MQTTSN_N_RETRY`. -/
def nRetry : Nat := 3
/-- `MQTTSN_T_RETRY`, in seconds. -/
def retryPeriod : Nat := 5
/-- `MQTTSN_KEEP_ALIVE`, in seconds. -/
def keepAlive : Nat := 10
/-- `MQTTSN_PROTOCOL_ID`. -/
def protocolId : Byte := 0x01#8
/-- `MQTTSN_RC_ACCEPTED`. -/
def rcAccepted : Byte := 0x00#8
/-- `MQTTSN_FLAG_DUP`. -/
def flagDup : Byte := 0x80#8
/-- `MQTTSN_FLAG_QOS_0`. -/
def flagQos0 : Byte := 0x00#8
/-- `MQTTSN_FLAG_QOS_1`. -/
def flagQos1 : Byte := 0x20#8
/-- `MQTTSN_FLAG_TOPIC_ID_NORM`. -/
def flagTopicIdNorm : Byte := 0x00#8

/-- The message types that the client sends or handles. -/
inductive MsgType where
  | connect
  | connack
  | register
  | regack
  | publish
  | puback
  | subscribe
  | suback
  | pingreq
  | disconnect
  deriving DecidableEq, Repr

/-- The `MQTTSN_` constant of a type. -/
def MsgType.code : MsgType → Byte
  | .connect => 0x04#8
  | .connack => 0x05#8
  | .register => 0x0A#8
  | .regack => 0x0B#8
  | .publish => 0x0C#8
  | .puback => 0x0D#8
  | .subscribe => 0x12#8
  | .suback => 0x13#8
  | .pingreq => 0x16#8
  | .disconnect => 0x18#8

/-- The type with a code. -/
def MsgType.ofCode (code : Byte) : Option MsgType :=
  [.connect, .connack, .register, .regack, .publish, .puback, .subscribe, .suback, .pingreq,
    .disconnect].find? fun type => type.code = code

@[simp] theorem MsgType.ofCode_code (type : MsgType) : ofCode type.code = some type := by
  cases type <;> decide

theorem MsgType.code_injective : Function.Injective MsgType.code := by
  intro one two same
  have types := congrArg MsgType.ofCode same
  simpa using types

/-! ### Sizes of the message structures -/

/-- `sizeof(mqttsn_header_t)`. -/
def sizeofHeader : Nat := 2
/-- `sizeof(mqttsn_connect_t)`. -/
def sizeofConnect : Nat := 6
/-- `sizeof(mqttsn_connack_t)`. -/
def sizeofConnack : Nat := 3
/-- `sizeof(mqttsn_register_t)`. -/
def sizeofRegister : Nat := 6
/-- `sizeof(mqttsn_regack_t)`. -/
def sizeofRegack : Nat := 7
/-- `sizeof(mqttsn_publish_t)`. -/
def sizeofPublish : Nat := 7
/-- `sizeof(mqttsn_puback_t)`. -/
def sizeofPuback : Nat := 7
/-- `sizeof(mqttsn_subscribe_t)`; the topic name begins two bytes before the end. -/
def sizeofSubscribe : Nat := 7
/-- `sizeof(mqttsn_suback_t)`. -/
def sizeofSuback : Nat := 8
/-- `sizeof(mqttsn_pingreq_t)`. -/
def sizeofPingreq : Nat := 2

/-! ### Numbers -/

/-- `mqttsn_htons`, and `mqttsn_ntohs`. -/
def htons (value : BitVec 16) : BitVec 16 := (value >>> 8) ||| (value <<< 8)

/-- A `uint16_t` in memory. -/
def raw16 (memory : Memory) (offset : Nat) : BitVec 16 :=
  BitVec.ofNat 16 (leValue (window memory offset 2))

/-- The bytes of a `uint16_t` in memory. -/
def rawBytes (value : BitVec 16) : List Byte := leBytes 2 value.toNat

/-- A number in network byte order. -/
def netBytes (value : BitVec 16) : List Byte := [high value, low value]

@[simp] theorem length_netBytes (value : BitVec 16) : (netBytes value).length = 2 := rfl

theorem htons_eq (value : BitVec 16) : htons value = low value ++ high value := by
  apply BitVec.eq_of_getLsbD_eq
  intro index inside
  have swap : @BitVec.getLsbD 16 (low value ++ high value) index =
      if index < 8 then (high value).getLsbD index else (low value).getLsbD (index - 8) :=
    BitVec.getLsbD_append.trans (by split <;> rfl)
  rw [swap, htons]
  split
  · next below => simp [high, below]
  · next above =>
    simp [low, above, inside, show index - 8 < 8 by omega, show index - 8 < 16 by omega,
      BitVec.getLsbD_of_ge value (8 + index) (by omega)]

theorem htons_htons (value : BitVec 16) : htons (htons value) = value := by
  rw [htons_eq (htons value), htons_eq value, low_append, high_append, high_append_low]

theorem rawBytes_append (one two : Byte) : rawBytes (one ++ two) = [two, one] := by
  have value : (one ++ two).toNat = two.toNat + 256 * one.toNat := by
    rw [BitVec.toNat_append, ← Nat.shiftLeft_add_eq_or_of_lt two.isLt, Nat.shiftLeft_eq]
    omega
  have first := two.isLt
  have second := one.isLt
  rw [rawBytes, value, leBytes, leBytes, leBytes]
  congr 1
  · apply BitVec.eq_of_toNat_eq
    rw [BitVec.toNat_ofNat]
    omega
  · congr 1
    apply BitVec.eq_of_toNat_eq
    rw [BitVec.toNat_ofNat]
    omega

/-- **A number that is exchanged and stored** is in network byte order. -/
theorem rawBytes_htons (value : BitVec 16) : rawBytes (htons value) = netBytes value := by
  rw [htons_eq, rawBytes_append, netBytes]

/-- A number that memory holds in network byte order is read exchanged. -/
theorem raw16_of_holds {memory : Memory} {offset : Nat} {value : BitVec 16}
    (holds : Holds memory offset (netBytes value)) : raw16 memory offset = htons value := by
  have bytes : window memory offset 2 = rawBytes (htons value) := by
    rw [rawBytes_htons]
    exact holds
  rw [raw16, bytes, rawBytes]
  exact ofNat_leValue_leBytes 2 (by decide) _

/-! ### Messages -/

/-- A message of a client. -/
inductive Message where
  | connect (flags protocolId : Byte) (duration : BitVec 16) (clientId : List Byte)
  | register (topicId msgId : BitVec 16) (name : List Byte)
  | subscribe (flags : Byte) (msgId : BitVec 16) (name : List Byte)
  | publish (flags : Byte) (topicId msgId : BitVec 16) (data : List Byte)
  | pingreq (clientId : List Byte)
  /-- The duration is only there when it is not zero. -/
  | disconnect (duration : Option (BitVec 16))
  deriving DecidableEq, Repr

/-- The type of a message. -/
def Message.type : Message → MsgType
  | .connect .. => .connect
  | .register .. => .register
  | .subscribe .. => .subscribe
  | .publish .. => .publish
  | .pingreq _ => .pingreq
  | .disconnect _ => .disconnect

/-- What follows the header of a message. -/
def Message.body : Message → List Byte
  | .connect flags protocol duration clientId =>
      flags :: protocol :: high duration :: low duration :: clientId
  | .register topicId msgId name =>
      high topicId :: low topicId :: high msgId :: low msgId :: name
  | .subscribe flags msgId name => flags :: high msgId :: low msgId :: name
  | .publish flags topicId msgId data =>
      flags :: high topicId :: low topicId :: high msgId :: low msgId :: data
  | .pingreq clientId => clientId
  | .disconnect none => []
  | .disconnect (some duration) => [high duration, low duration]

/-- The header of a message of `size` bytes. -/
def header (size : Nat) (type : MsgType) : List Byte := [BitVec.ofNat 8 size, type.code]

/-- The layout of a message. -/
def encode (message : Message) : List Byte :=
  header (2 + message.body.length) message.type ++ message.body

/-- The message with a layout. -/
def decode : List Byte → Option Message
  | _ :: code :: body =>
      match MsgType.ofCode code, body with
      | some .connect, flags :: protocol :: d1 :: d0 :: clientId =>
          some (.connect flags protocol (d1 ++ d0) clientId)
      | some .register, t1 :: t0 :: m1 :: m0 :: name => some (.register (t1 ++ t0) (m1 ++ m0) name)
      | some .subscribe, flags :: m1 :: m0 :: name => some (.subscribe flags (m1 ++ m0) name)
      | some .publish, flags :: t1 :: t0 :: m1 :: m0 :: data =>
          some (.publish flags (t1 ++ t0) (m1 ++ m0) data)
      | some .pingreq, clientId => some (.pingreq clientId)
      | some .disconnect, [] => some (.disconnect none)
      | some .disconnect, [d1, d0] => some (.disconnect (some (d1 ++ d0)))
      | _, _ => none
  | _ => none

/-- **A layout says which message it is.** -/
theorem decode_encode (message : Message) : decode (encode message) = some message := by
  cases message with
  | connect | register | subscribe | publish | pingreq =>
      simp [encode, header, decode, Message.type, Message.body, high_append_low]
  | disconnect duration =>
      cases duration with
      | none => simp [encode, header, decode, Message.type, Message.body]
      | some duration => simp [encode, header, decode, Message.type, Message.body, high_append_low]

/-- The bytes say how many they are, and stand for the message. -/
structure Exact (bytes : List Byte) (message : Message) : Prop where
  length : (bytes.getD 0 0#8).toNat = bytes.length
  decoded : decode bytes = some message

/-! ### What the client sends -/

/-- The message is a SUBSCRIBE. -/
def Message.isSubscribe (message : Message) : Bool := message.type = .subscribe

/-- What the client writes behind the header: a SUBSCRIBE keeps the terminator of its topic name. -/
def Message.built (message : Message) : List Byte :=
  message.body ++ if message.isSubscribe then [0#8] else []

/-- What the client sends behind the header: a SUBSCRIBE has one more byte, the one that happens to
be there. -/
def Message.rest (message : Message) (stale : Byte) : List Byte :=
  message.built ++ if message.isSubscribe then [stale] else []

/-- The size that the client gives to a message. -/
def Message.size (message : Message) : Nat :=
  2 + message.body.length + if message.isSubscribe then 2 else 0

/-- What the client sends for a message. -/
def Message.wire (message : Message) (stale : Byte) : List Byte :=
  header message.size message.type ++ message.rest stale

theorem built_of_not_subscribe {message : Message} (plain : message.isSubscribe = false) :
    message.built = message.body := by
  simp [Message.built, plain]

theorem rest_length (message : Message) (stale : Byte) :
    2 + (message.rest stale).length = message.size := by
  rw [Message.rest, Message.built, Message.size]
  cases message.isSubscribe <;> simp; omega

theorem wire_length (message : Message) (stale : Byte) :
    (message.wire stale).length = message.size := by
  rw [Message.wire, List.length_append, header, ← rest_length message stale]
  rfl

theorem wire_of_not_subscribe {message : Message} (plain : message.isSubscribe = false)
    (stale : Byte) : message.wire stale = encode message := by
  simp [Message.wire, Message.rest, built_of_not_subscribe plain, Message.size, encode, plain]

/-- **What the client sends is exact**, unless it is a SUBSCRIBE. -/
theorem exact_wire_iff (message : Message) (stale : Byte) (short : message.size < 256) :
    Exact (message.wire stale) message ↔ message.isSubscribe = false := by
  have length : ((message.wire stale).getD 0 0#8).toNat = (message.wire stale).length := by
    rw [wire_length]
    simpa [Message.wire, header] using Nat.mod_eq_of_lt short
  constructor
  · rintro ⟨-, decoded⟩
    cases message with
    | subscribe flags msgId name =>
        simp [Message.wire, Message.rest, Message.built, Message.isSubscribe, Message.type,
          Message.body, header, decode] at decoded
    | connect | register | publish | pingreq | disconnect => rfl
  · intro plain
    refine ⟨length, ?_⟩
    rw [wire_of_not_subscribe plain]
    exact decode_encode message

/-- The message has the flag that is set for a retransmission. -/
def Message.flagged (message : Message) : Bool :=
  message.type = .publish ∨ message.type = .subscribe

/-- The message as it is retransmitted. -/
def Message.dup : Message → Message
  | .subscribe flags msgId name => .subscribe (flags ||| flagDup) msgId name
  | .publish flags topicId msgId data => .publish (flags ||| flagDup) topicId msgId data
  | message => message

/-- The bytes of a message with the DUP flag set, if their type has one. -/
def withDup (bytes : List Byte) : List Byte :=
  if bytes.getD 1 0#8 = MsgType.publish.code ∨ bytes.getD 1 0#8 = MsgType.subscribe.code then
    bytes.modify 2 (· ||| flagDup)
  else bytes

@[simp] theorem length_withDup (bytes : List Byte) : (withDup bytes).length = bytes.length := by
  unfold withDup
  split <;> simp

@[simp] theorem dup_type (message : Message) : message.dup.type = message.type := by
  cases message <;> rfl

@[simp] theorem dup_isSubscribe (message : Message) :
    message.dup.isSubscribe = message.isSubscribe := by
  rw [Message.isSubscribe, dup_type, Message.isSubscribe]

theorem dup_body_length (message : Message) : message.dup.body.length = message.body.length := by
  cases message <;> rfl

@[simp] theorem dup_size (message : Message) : message.dup.size = message.size := by
  rw [Message.size, dup_body_length, dup_isSubscribe, Message.size]

theorem dup_built_length (message : Message) :
    message.dup.built.length = message.built.length := by
  simp [Message.built, dup_body_length]

theorem dup_of_not_flagged {message : Message} (plain : message.flagged = false) :
    message.dup = message := by
  cases message <;> first | rfl | cases plain

/-- The DUP flag is the third byte of a message that has one. -/
theorem dup_front {message : Message} (flagged : message.flagged = true) :
    header message.dup.size message.dup.type ++ message.dup.built =
      (header message.size message.type ++ message.built).modify 2 (· ||| flagDup) := by
  cases message with
  | subscribe | publish => rfl
  | connect | register | pingreq | disconnect => cases flagged

theorem dup_wire {message : Message} (flagged : message.flagged = true) (stale : Byte) :
    message.dup.wire stale = (message.wire stale).modify 2 (· ||| flagDup) := by
  cases message with
  | subscribe | publish => rfl
  | connect | register | pingreq | disconnect => cases flagged

theorem withDup_wire (message : Message) (stale : Byte) :
    withDup (message.wire stale) = message.dup.wire stale := by
  cases message with
  | subscribe | publish =>
      simp [withDup, Message.wire, Message.rest, Message.built, Message.size, Message.isSubscribe,
        header, Message.dup, Message.type, Message.body, List.modify_succ_cons]
  | connect | register | pingreq | disconnect =>
      simp [withDup, Message.wire, header, Message.dup, Message.type, MsgType.code]

end TinyHan.Mqttsn
