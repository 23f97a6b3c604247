/-
**A client beyond its limits.**

`mqttsn_c_init` accepts any client identifier and any topic table. The identifier is copied into an
array of `MQTTSN_MAX_CLIENT_ID` bytes and the topic identifiers go into one of
`MQTTSN_MAX_CLIENT_TOPICS`, and neither limit is checked. A `Setup` is what `mqttsn_c_init` is
given, with what happens to lie behind the array of the identifier; a `Config` is one inside the
limits, and its runs are those of its setup (`setup_run`).

`client_id_inside_iff`: `mqttsn_c_connect` stays inside the array and sends the identifier, for
identifiers that leave room for a terminator and for no others.
-/

import TinyHan.Lib.CStrings
import TinyHan.Mqttsn.Publishing

namespace TinyHan.Mqttsn

open TinyHan.Lib

/-- What `mqttsn_c_init` is given: a client identifier and a topic table, whose names fit in the
message buffer with their terminators. Behind the array for the identifier there is a zero byte
somewhere. -/
structure Setup where
  clientId : CString
  behind : Memory
  terminated : ∃ index, behind index = 0#8
  entry : Nat → Topic
  length : Nat
  named : ∀ index < length, (entry index).name.isSome = true
  ended : (entry length).name = none
  fits : ∀ index < length, ∀ name ∈ (entry index).name,
    (entry index).offset + name.val.length + 1 ≤ maxPacket

/-! ### The client identifier -/

section ClientId

variable (setup : Setup)

/-- The array `client_id` after the `strncpy` of `mqttsn_c_init`. -/
def Setup.stored : List Byte := strncpy (ofList setup.clientId.val) 0 maxClientId

/-- The memory from `client_id` on. -/
def Setup.idMemory : Memory := fun index =>
  if index < maxClientId then setup.stored.getD index 0#8 else setup.behind (index - maxClientId)

theorem Setup.idTerminated : ∃ index, setup.idMemory index = 0#8 := by
  obtain ⟨index, zero⟩ := setup.terminated
  refine ⟨maxClientId + index, ?_⟩
  rw [Setup.idMemory, if_neg (Nat.not_lt.mpr (Nat.le_add_right _ _)), Nat.add_sub_cancel_left, zero]

/-- The bytes behind `client_id` that `mqttsn_c_connect` looks at, with `strncpy` and `strlen`. -/
def Setup.idReads : List Nat :=
  strncpyReads setup.idMemory 0 (maxPacket - sizeofConnect) ++
    strlenReads setup.idMemory setup.idTerminated

/-- The CONNECT with as much of the client identifier as there is room for. -/
def Setup.connectMessage : Message :=
  .connect 0#8 protocolId (BitVec.ofNat 16 keepAlive) (setup.clientId.val.take maxClientId)

/-- `mqttsn_c_connect`, with the identifier as it is found in the context. -/
def Setup.mqttsnCConnect (session : Session) (now : Nat → Time) : Session :=
  let session := session.emit .connect
  if session.ctx.state ≠ .disconnected then session
  else
    let session := session.update fun ctx =>
      (((ctx.write 2 [0#8]).write 3 [protocolId]).write 4
        (rawBytes (htons (BitVec.ofNat 16 keepAlive)))).write 6
        (strncpy setup.idMemory 0 (maxPacket - sizeofConnect))
    let session := mqttsnToState session .connecting
    mqttsnSend session now .connect (sizeofConnect + strlen setup.idMemory setup.idTerminated) true
      setup.connectMessage

/-- The array has the front of the identifier, padded with zeros. -/
theorem Setup.stored_eq : setup.stored = setup.clientId.val.take maxClientId ++
    List.replicate (maxClientId - setup.clientId.val.length) 0#8 :=
  strncpy_eq (hasString_ofList setup.clientId.property) maxClientId

variable {setup}

/-- An identifier that leaves room for its terminator is found in the context. -/
theorem Setup.idString (short : setup.clientId.val.length < maxClientId) :
    HasString setup.idMemory 0 setup.clientId.val := by
  refine ⟨?_, setup.clientId.property⟩
  have stored : setup.stored = (setup.clientId.val ++ [0#8]) ++
      List.replicate (maxClientId - setup.clientId.val.length - 1) 0#8 := by
    have room : maxClientId - setup.clientId.val.length =
        1 + (maxClientId - setup.clientId.val.length - 1) := by omega
    rw [setup.stored_eq, List.take_of_length_le short.le, room, List.replicate_add]
    simp
  apply List.ext_getElem
  · simp
  · intro index inside bound
    have small : index < maxClientId := by
      simp only [List.length_append, List.length_singleton] at bound
      omega
    simp only [window, List.getElem_map, List.getElem_range, Nat.zero_add, Setup.idMemory,
      if_pos small, stored, List.getD_append _ _ _ _ bound]
    exact List.getD_eq_getElem _ _ bound

/-- An identifier that fills the array is not terminated in it. -/
theorem Setup.long_reads (long : maxClientId ≤ setup.clientId.val.length) :
    maxClientId ∈ setup.idReads := by
  have full : setup.stored = setup.clientId.val.take maxClientId := by
    rw [setup.stored_eq, Nat.sub_eq_zero_of_le long]
    exact List.append_nil _
  have length : setup.stored.length = maxClientId := by
    rw [full, List.length_take, min_eq_left long]
  have nonzero : ∀ index < maxClientId, setup.idMemory index ≠ 0#8 := by
    intro index inside zero
    rw [Setup.idMemory, if_pos inside, List.getD_eq_getElem _ _ (length ▸ inside)] at zero
    have member : 0#8 ∈ setup.stored := zero ▸ List.getElem_mem _
    rw [full] at member
    exact setup.clientId.property (List.mem_of_mem_take member)
  have reached : maxClientId ≤ strlen setup.idMemory setup.idTerminated :=
    (Nat.le_find_iff _ _).mpr fun index inside => nonzero index inside
  exact List.mem_append_right _ (List.mem_range.mpr (Nat.lt_succ_of_le reached))

/-- **The CONNECT of a client** whose identifier leaves room for its terminator. -/
theorem Setup.connect_eq (short : setup.clientId.val.length < maxClientId) {session : Session}
    (idle : session.ctx.state = .disconnected) (now : Nat → Time) :
    setup.mqttsnCConnect session now =
      (mqttsnToState (session.emit .connect) .connecting).issue now
        (List.replicate (maxPacket - sizeofConnect - setup.clientId.val.length) 0#8)
        setup.connectMessage true := by
  have isIdle : ¬(session.emit .connect).ctx.state ≠ .disconnected := not_not.mpr idle
  have room : maxClientId ≤ maxPacket - sizeofConnect := by decide
  have whole : setup.connectMessage =
      .connect 0#8 protocolId (BitVec.ofNat 16 keepAlive) setup.clientId.val := by
    rw [Setup.connectMessage, List.take_of_length_le short.le]
  have size := connect_size 0#8 protocolId (BitVec.ofNat 16 keepAlive) setup.clientId.val
  simp only [Setup.mqttsnCConnect, strncpy_eq (Setup.idString short),
    strlen_eq (Setup.idString short), List.take_of_length_le (short.le.trans room), connect_writes,
    size, whole]
  rw [if_neg isIdle]
  rfl

theorem Setup.connect_fits (setup : Setup) : 2 + setup.connectMessage.built.length ≤ maxPacket := by
  have limits : maxClientId = 16 ∧ maxPacket = 64 := ⟨rfl, rfl⟩
  rw [built_of_not_subscribe rfl]
  simp only [Setup.connectMessage, Message.body, List.length_cons, List.length_take]
  omega

/-- `mqttsn_c_connect` reads nothing outside the array `client_id`, and sends a CONNECT with as much
of the identifier as there is room for. -/
structure Setup.Introduces (setup : Setup) (session : Session) (now : Nat → Time) : Prop where
  inside : ∀ index ∈ setup.idReads, index < maxClientId
  sent : ∃ message, (setup.mqttsnCConnect session now).log = session.log ++
    [.connect, .entered .connecting, .send (encode setup.connectMessage) true message]

/-- **A client identifier is handled if it leaves room for a terminator.** A longer one is stored
without it, and `mqttsn_c_connect` reads on behind the array. -/
theorem client_id_inside_iff (setup : Setup) (session : Session) (now : Nat → Time)
    (idle : session.ctx.state = .disconnected) :
    setup.Introduces session now ↔ setup.clientId.val.length < maxClientId := by
  constructor
  · intro introduces
    refine Nat.lt_of_not_le fun long => ?_
    exact Nat.lt_irrefl _ (introduces.inside maxClientId (Setup.long_reads long))
  · intro short
    have string := Setup.idString short
    refine ⟨fun index read => ?_, setup.connectMessage, ?_⟩
    · refine lt_of_le_of_lt ?_ short
      rcases List.mem_append.mp read with copied | counted
      · simpa using strncpyReads_le string copied
      · rw [strlenReads, strlen_eq string] at counted
        exact Nat.le_of_lt_succ (List.mem_range.mp counted)
    · obtain ⟨stale, carried⟩ := issue_carried
        (mqttsnToState (session.emit .connect) .connecting) now
        (List.replicate (maxPacket - sizeofConnect - setup.clientId.val.length) 0#8)
        setup.connectMessage true setup.connect_fits
      have bytes := carried.sent
      rw [wire_of_not_subscribe rfl] at bytes
      rw [Setup.connect_eq short idle, issue_log, ← bytes]
      simp

end ClientId

/-- A client inside the limits, with what lies behind its identifier. -/
def Config.setup (config : Config) (behind : Memory) (terminated : ∃ index, behind index = 0#8) :
    Setup where
  clientId := config.clientId
  behind := behind
  terminated := terminated
  entry := config.topics.entry
  length := config.topics.length
  named := config.topics.named
  ended := config.topics.ended
  fits := config.topics.fits

/-- The identifier of a client inside the limits is sent. -/
theorem client_id_inside_one :
    let setup := publisher.setup (fun _ => 0#8) ⟨0, rfl⟩
    setup.clientId.val = [0x63#8] ∧ setup.Introduces mqttsnCInit fun _ => 0#32 :=
  ⟨rfl, (client_id_inside_iff _ mqttsnCInit _ rfl).mpr (by decide)⟩

/-- A client with an identifier of 16 bytes, and another byte behind the array. -/
def crowded : Setup where
  clientId := ⟨List.replicate 16 0x61#8, by decide⟩
  behind index := if index = 0 then 0x62#8 else 0#8
  terminated := ⟨1, rfl⟩
  entry := Table.empty.entry
  length := Table.empty.length
  named := Table.empty.named
  ended := Table.empty.ended
  fits := Table.empty.fits

/-- An identifier of 16 bytes is read beyond its array, and the byte that lies there is sent. -/
theorem client_id_overrun :
    maxClientId ∈ crowded.idReads ∧
      (crowded.mqttsnCConnect mqttsnCInit fun _ => 0#32).log = [.connect, .entered .connecting,
        .send (encode (.connect 0#8 protocolId 10#16 (List.replicate 16 0x61#8 ++ [0x62#8]))) true
          (.connect 0#8 protocolId 10#16 (List.replicate 16 0x61#8))] := by
  have string : HasString crowded.idMemory 0 (List.replicate 16 0x61#8 ++ [0x62#8]) :=
    ⟨by rw [Holds]; decide +kernel, by decide⟩
  refine ⟨Setup.long_reads (by decide), ?_⟩
  simp only [Setup.mqttsnCConnect, strlen_eq string]
  decide +kernel

/-! ### Runs without limits -/

/-- One call of the client. -/
def Setup.step (setup : Setup) (session : Session) : Input → Session
  | .handler now datagram => mqttsnCHandler setup.entry session now datagram
  | .connect now => setup.mqttsnCConnect session now
  | .disconnect now duration => mqttsnCDisconnect session now duration
  | .publish now index qos data => (mqttsnCPublish session now index qos data).2
  | .setPublishCallback cb => session.update fun ctx => { ctx with cbPublish := cb }
  | .setPubackCallback cb => session.update fun ctx => { ctx with cbPuback := cb }

/-- The calls of a run, in order. -/
def Setup.run (setup : Setup) (session : Session) (inputs : List Input) : Session :=
  inputs.foldl setup.step session

section Inside

variable (config : Config) {behind : Memory} (terminated : ∃ index, behind index = 0#8)

theorem setup_connect (session : Session) (now : Nat → Time) :
    (config.setup behind terminated).mqttsnCConnect session now =
      mqttsnCConnect config session now := by
  by_cases idle : session.ctx.state = .disconnected
  · have same : (config.setup behind terminated).connectMessage = connectMessage config :=
      congrArg _ (List.take_of_length_le config.short.le)
    rw [Setup.connect_eq config.short idle, connect_eq config session now idle, same]
    rfl
  · have busy : (session.emit .connect).ctx.state ≠ .disconnected := idle
    exact (if_pos busy).trans (if_pos busy).symm

/-- **The runs of a client inside the limits** are those of its setup. -/
theorem setup_run (session : Session) (inputs : List Input) :
    (config.setup behind terminated).run session inputs = session.run config inputs := by
  induction inputs generalizing session with
  | nil => rfl
  | cons input inputs ih =>
      have same : (config.setup behind terminated).step session input =
          session.step config input := by
        cases input with
        | connect now => exact setup_connect config terminated session now
        | handler | disconnect | publish | setPublishCallback | setPubackCallback => rfl
      change (config.setup behind terminated).run (Setup.step _ session input) inputs = _
      rw [same, ih]
      rfl

end Inside

end TinyHan.Mqttsn
