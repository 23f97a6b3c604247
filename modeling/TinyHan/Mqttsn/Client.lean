/-
**The MQTT-SN client** (`mqttsn-client.c`).

A client connects, registers the topics of its table one by one, and publishes. It has one message
buffer: what it sends is built there, and is sent again from there when the retry timer expires. The
buffer keeps its old content behind what is written.

* A session is the context `mqttsn_c_t` with a log of what the client did: the calls of the
  application, the states entered, what was handed to `cb_send`, received and reported. A `send` is
  logged with the message that its function wanted to send.
* Behind the buffer lies `n_retries`, and a SUBSCRIBE of a topic name that just fits is read beyond
  the end of the buffer (`Ctx.memory`).
* `get_seconds` is called at several places of a function, and the readings are an argument. The
  time has 32 bits, as on a target without an operating system.
* A topic table ends with an entry without a name. What lies behind it is arbitrary, and
  `mqttsn_publish_handler` may look there.

The result of `cb_send` is never used by the client, only traced.
-/

import TinyHan.Mqttsn.Message

namespace TinyHan.Mqttsn

open TinyHan.Lib

/-! ### Configuration -/

/-- `time_t`. -/
abbrev Time := BitVec 32

/-- The text of a string that is terminated by a zero byte. -/
abbrev CString := { text : List Byte // 0#8 ∉ text }

/-- `MQTTSN_REG_SUBSCRIBE`. -/
def regSubscribe : Byte := 0x80#8
/-- `MQTTSN_REG_QOS_MASK`. -/
def regQosMask : Byte := 0x03#8

/-- `mqttsn_c_topic_t`. -/
structure Topic where
  name : Option CString
  flags : Byte

/-- The entry is a subscription. -/
def Topic.subscribes (topic : Topic) : Bool := topic.flags &&& regSubscribe ≠ 0#8

/-- Where the topic name stands in the message for an entry. -/
def Topic.offset (topic : Topic) : Nat :=
  if topic.subscribes then sizeofSubscribe - 2 else sizeofRegister

/-- A topic table: it ends with an entry without a name, has as many entries as the client has room
for at most, and its names fit in the message buffer with their terminators. -/
structure Table where
  entry : Nat → Topic
  length : Nat
  named : ∀ index < length, (entry index).name.isSome = true
  ended : (entry length).name = none
  few : length ≤ maxClientTopics
  fits : ∀ index < length, ∀ name ∈ (entry index).name,
    (entry index).offset + name.val.length + 1 ≤ maxPacket

/-- What `mqttsn_c_init` is given. -/
structure Config where
  clientId : CString
  topics : Table
  short : clientId.val.length < maxClientId

/-! ### Sessions -/

/-- `mqttsn_c_state_t`. -/
inductive State where
  | disconnected
  | connecting
  | registering
  | connected
  | busy
  | disconnecting
  deriving DecidableEq, Repr

/-- `mqttsn_c_result_t`. -/
inductive Result where
  | ok
  | error
  deriving DecidableEq, Repr

/-- `mqttsn_c_t`; of the callbacks it is recorded whether they are set. -/
structure Ctx where
  state : State
  count : Nat
  message : Memory
  nRetries : Nat
  tRetry : Time
  nextPing : Time
  nextId : BitVec 16
  topicIds : Fin maxClientTopics → BitVec 16
  isRegistered : Bool
  cbPublish : Bool
  cbPuback : Bool

/-- What a client does. -/
inductive Event where
  /-- `mqttsn_c_connect` is called. -/
  | connect
  /-- `mqttsn_c_disconnect` is called, and the client is not Disconnected. -/
  | disconnect
  /-- A datagram passes the checks of `mqttsn_c_handler`. -/
  | received (datagram : List Byte)
  /-- `mqttsn_to_state`. -/
  | entered (state : State)
  /-- `mqttsn_send`, with the message that was wanted. -/
  | send (bytes : List Byte) (retry : Bool) (message : Message)
  /-- The message in the buffer is sent again. -/
  | resend (bytes : List Byte)
  | cbPublish (index : Nat) (data : List Byte)
  /-- A PUBACK passes the checks of `mqttsn_puback_handler`. -/
  | acked (msgId : BitVec 16)
  | cbPuback (msgId : BitVec 16) (result : Result)
  /-- `mqttsn_c_publish` accepts a packet and returns its identifier. -/
  | published (qos : Int) (msgId : BitVec 16)
  /-- `is_registered` becomes 1. -/
  | registered
  deriving DecidableEq, Repr

/-- A context, and what it has done so far. -/
structure Session where
  ctx : Ctx
  log : List Event

/-- Log one event. -/
def Session.emit (session : Session) (event : Event) : Session :=
  { session with log := session.log ++ [event] }

/-- A write to the context. -/
def Session.update (session : Session) (change : Ctx → Ctx) : Session :=
  { session with ctx := change session.ctx }

/-- Bytes are written to the message buffer. -/
def Ctx.write (ctx : Ctx) (offset : Nat) (bytes : List Byte) : Ctx :=
  { ctx with message := store ctx.message offset bytes }

/-- The memory from the message buffer on: behind it is `n_retries`. -/
def Ctx.memory (ctx : Ctx) : Memory := fun index =>
  if index < maxPacket then ctx.message index
  else (leBytes 4 ctx.nRetries).getD (index - maxPacket) 0#8

/-- The message type in the buffer. -/
def Ctx.msgType (ctx : Ctx) : Byte := ctx.message 1

/-! ### Sending -/

/-- `mqttsn_send`: the writes. -/
def Ctx.send (ctx : Ctx) (now : Nat → Time) (type : MsgType) (size : Nat) (doRetry : Bool) : Ctx :=
  let ctx := ctx.write 0 (header size type)
  let ctx := if doRetry then
      { ctx with nRetries := nRetry, tRetry := now 0 + BitVec.ofNat 32 retryPeriod }
    else ctx
  { ctx with nextPing := now 1 + BitVec.ofNat 32 keepAlive }

/-- `mqttsn_send`. -/
def mqttsnSend (session : Session) (now : Nat → Time) (type : MsgType) (size : Nat) (doRetry : Bool)
    (message : Message) : Session :=
  let session := session.update fun ctx => ctx.send now type size doRetry
  session.emit (.send (window session.ctx.memory 0 size) doRetry message)

/-- `mqttsn_to_state`: the writes. -/
def Ctx.toState (ctx : Ctx) (state : State) : Ctx :=
  { ctx with state := state, nRetries := 0, tRetry := 0 }

/-- `mqttsn_to_state`. -/
def mqttsnToState (session : Session) (state : State) : Session :=
  (session.update fun ctx => ctx.toState state).emit (.entered state)

/-- The DUP bit is set in the buffer, in case of a retry. -/
def Session.mark (session : Session) : Session :=
  session.update fun ctx => ctx.write 2 [ctx.message 2 ||| flagDup]

/-- `mqttsn_register`. -/
def mqttsnRegister (session : Session) (now : Nat → Time) (msgId : BitVec 16) (topic : CString) :
    Session :=
  let session := mqttsnToState session .busy
  let session := session.update fun ctx =>
    ((ctx.write 2 (rawBytes 0#16)).write 4 (rawBytes (htons msgId))).write 6 (topic.val ++ [0#8])
  mqttsnSend session now .register (sizeofRegister + topic.val.length) true
    (.register 0#16 msgId topic.val)

/-- The flags of a SUBSCRIBE. -/
def subscribeFlags (qos : Byte) : Byte := if qos ≠ 0#8 then flagQos1 else flagQos0

/-- `mqttsn_subscribe`. -/
def mqttsnSubscribe (session : Session) (now : Nat → Time) (msgId : BitVec 16) (topic : CString)
    (qos : Byte) : Session :=
  let flags := subscribeFlags qos
  let session := mqttsnToState session .busy
  let session := session.update fun ctx =>
    ((ctx.write 2 [flags]).write 3 (rawBytes (htons msgId))).write 5 (topic.val ++ [0#8])
  let session := mqttsnSend session now .subscribe (sizeofSubscribe + topic.val.length) true
    (.subscribe flags msgId topic.val)
  session.mark

/-! ### Inbound messages -/

/-- An acknowledgement of a topic: the request that must be in the buffer and where its message
identifier is there, the type and size of the acknowledgement and where its fields are. -/
structure Ack where
  type : MsgType
  request : MsgType
  sentId : Nat
  size : Nat
  topicId : Nat
  msgId : Nat
  returnCode : Nat

/-- `mqttsn_regack_t`, the answer to a `mqttsn_register_t`. -/
def Ack.regack : Ack := ⟨.regack, .register, 4, sizeofRegack, 2, 4, 6⟩

/-- `mqttsn_suback_t`, the answer to a `mqttsn_subscribe_t`. -/
def Ack.suback : Ack := ⟨.suback, .subscribe, 3, sizeofSuback, 3, 5, 7⟩

/-- A topic identifier goes into the registry. -/
def Ctx.setTopicId (ctx : Ctx) (index : BitVec 16) (topicId : BitVec 16) : Ctx :=
  { ctx with topicIds := fun other =>
      if other.val = index.toNat then topicId else ctx.topicIds other }

/-- What an acknowledgement of a topic writes to the registry. -/
def Ctx.answer (ctx : Ctx) (ack : Ack) (buf : Memory) : Ctx :=
  if buf ack.returnCode = rcAccepted then
    ctx.setTopicId (htons (raw16 buf ack.msgId)) (htons (raw16 buf ack.topicId))
  else ctx

section Inbound

variable (session : Session) (buf : Memory) (size : Nat)

/-- `mqttsn_connack_handler`. -/
def mqttsnConnackHandler : Session :=
  if size < sizeofConnack then session
  else if session.ctx.state ≠ .connecting ∨ session.ctx.msgType ≠ MsgType.connect.code then session
  else if buf 2 = rcAccepted then
    let session := session.update fun ctx => { ctx with count := 0 }
    mqttsnToState session (if session.ctx.isRegistered then .connected else .registering)
  else mqttsnToState session .disconnected

/-- `mqttsn_regack_handler` and `mqttsn_suback_handler`. -/
def mqttsnAckHandler (ack : Ack) : Session :=
  if size < ack.size then session
  else if session.ctx.state ≠ .busy ∨ session.ctx.msgType ≠ ack.request.code then session
  else if raw16 buf ack.msgId ≠ raw16 session.ctx.message ack.sentId then session
  else mqttsnToState (session.update fun ctx => ctx.answer ack buf) .registering

/-- `mqttsn_regack_handler`. -/
def mqttsnRegackHandler : Session := mqttsnAckHandler session buf size .regack

/-- `mqttsn_suback_handler`. -/
def mqttsnSubackHandler : Session := mqttsnAckHandler session buf size .suback

/-- `mqttsn_publish_handler`. -/
def mqttsnPublishHandler (entry : Nat → Topic) : Session :=
  if size < sizeofPublish then session
  else
    let topicId := htons (raw16 buf 3)
    let subscription := (List.finRange maxClientTopics).find? fun index =>
      session.ctx.topicIds index = topicId ∧ (entry index).subscribes
    match subscription with
    | none => session
    | some index =>
        if session.ctx.cbPublish then
          session.emit (.cbPublish index (window buf sizeofPublish (size - sizeofPublish)))
        else session

/-- The callback for a PUBACK. -/
def Session.acknowledge : Session :=
  let session := session.emit (.acked (raw16 buf 4))
  if session.ctx.cbPuback then
    session.emit (.cbPuback (raw16 buf 4) (if buf 6 = rcAccepted then .ok else .error))
  else session

/-- `mqttsn_puback_handler`. It does not look at the message type in the buffer. -/
def mqttsnPubackHandler : Session :=
  if size < sizeofPuback then session
  else if session.ctx.state ≠ .busy then session
  else if raw16 buf 4 ≠ raw16 session.ctx.message 5 then session
  else mqttsnToState (session.acknowledge buf) .connected

/-- `mqttsn_disconnect_handler`. -/
def mqttsnDisconnectHandler : Session := mqttsnToState session .disconnected

end Inbound

/-- The type of an inbound message that the handler looks at. -/
def inboundType (datagram : List Byte) : Option MsgType :=
  if sizeofHeader ≤ datagram.length ∧ (datagram.getD 0 0#8).toNat ≤ datagram.length then
    MsgType.ofCode (datagram.getD 1 0#8)
  else none

/-! ### `mqttsn_c_handler` -/

/-- The retry timer has expired. -/
def Ctx.expired (ctx : Ctx) (now : Nat → Time) : Prop := ctx.tRetry ≠ 0 ∧ ctx.tRetry ≤ now 0

instance (ctx : Ctx) (now : Nat → Time) : Decidable (ctx.expired now) :=
  inferInstanceAs (Decidable (_ ∧ _))

/-- The message in the buffer is sent again. -/
def Session.retransmit (session : Session) (now : Nat → Time) : Session :=
  let session := session.update fun ctx =>
    { ctx with
      nRetries := ctx.nRetries - 1
      tRetry := now 1 + BitVec.ofNat 32 retryPeriod
      nextPing := now 2 + BitVec.ofNat 32 keepAlive }
  session.emit (.resend (window session.ctx.memory 0 (session.ctx.message 0).toNat))

/-- The part about the retry timer. -/
def Session.checkRetry (session : Session) (now : Nat → Time) : Session :=
  if session.ctx.expired now then
    if session.ctx.nRetries ≠ 0 then session.retransmit now
    else mqttsnToState session .disconnected
  else session

/-- The part about the keep-alive period. -/
def Session.checkPing (session : Session) (now : Nat → Time) : Session :=
  if session.ctx.state = .connected ∧ session.ctx.nextPing ≤ now 3 then
    mqttsnSend session (fun call => now (4 + call)) .pingreq sizeofPingreq false (.pingreq [])
  else session

/-- The part about the inbound packet. -/
def Session.processInbound (session : Session) (entry : Nat → Topic) (datagram : List Byte) :
    Session :=
  if sizeofHeader ≤ datagram.length ∧ (datagram.getD 0 0#8).toNat ≤ datagram.length then
    let session := session.emit (.received datagram)
    let buf := ofList datagram
    let size := datagram.length
    match MsgType.ofCode (datagram.getD 1 0#8) with
    | some .connack => mqttsnConnackHandler session buf size
    | some .regack => mqttsnRegackHandler session buf size
    | some .publish => mqttsnPublishHandler session buf size entry
    | some .puback => mqttsnPubackHandler session buf size
    | some .suback => mqttsnSubackHandler session buf size
    | some .disconnect => mqttsnDisconnectHandler session
    -- `mqttsn_register_handler` is not implemented, and the other types are unexpected
    | _ => session
  else session

/-- The request for an entry of the topic table. -/
def Session.request (session : Session) (now : Nat → Time) (topic : Topic) (name : CString) :
    Session :=
  let count := BitVec.ofNat 16 session.ctx.count
  let session := if topic.subscribes then
      mqttsnSubscribe session now count name (topic.flags &&& regQosMask)
    else mqttsnRegister session now count name
  session.update fun ctx => { ctx with count := ctx.count + 1 }

/-- The part about the registrations. -/
def Session.driveRegistration (session : Session) (entry : Nat → Topic) (now : Nat → Time) :
    Session :=
  if session.ctx.state = .registering then
    let topic := entry session.ctx.count
    match topic.name with
    | none =>
        let session := session.update fun ctx => { ctx with count := 0, isRegistered := true }
        mqttsnToState (session.emit .registered) .connected
    | some name => session.request (fun call => now (6 + call)) topic name
  else session

/-- `mqttsn_c_handler`; `none` is a periodic call without a packet. -/
def mqttsnCHandler (entry : Nat → Topic) (session : Session) (now : Nat → Time)
    (datagram : Option (List Byte)) : Session :=
  let session := session.checkRetry now
  let session := session.checkPing now
  let session := match datagram with
    | some datagram => session.processInbound entry datagram
    | none => session
  session.driveRegistration entry now

/-! ### Calls of the application -/

/-- The CONNECT of a client. -/
def connectMessage (config : Config) : Message :=
  .connect 0#8 protocolId (BitVec.ofNat 16 keepAlive) config.clientId.val

/-- `mqttsn_c_connect`. -/
def mqttsnCConnect (config : Config) (session : Session) (now : Nat → Time) : Session :=
  let session := session.emit .connect
  if session.ctx.state ≠ .disconnected then session
  else
    let clientId := config.clientId.val
    -- `strncpy` fills the rest of the buffer with zeros
    let session := session.update fun ctx =>
      (((ctx.write 2 [0#8]).write 3 [protocolId]).write 4
        (rawBytes (htons (BitVec.ofNat 16 keepAlive)))).write 6
        (clientId ++ List.replicate (maxPacket - sizeofConnect - clientId.length) 0#8)
    let session := mqttsnToState session .connecting
    mqttsnSend session now .connect (sizeofConnect + clientId.length) true (connectMessage config)

/-- `mqttsn_c_disconnect`. -/
def mqttsnCDisconnect (session : Session) (now : Nat → Time) (duration : BitVec 16) : Session :=
  if session.ctx.state = .disconnected then session
  else
    let session := mqttsnToState (session.emit .disconnect) .disconnecting
    let session := session.update fun ctx => ctx.write 2 (rawBytes (htons duration))
    mqttsnSend session now .disconnect (sizeofHeader + if duration ≠ 0#16 then 2 else 0) true
      (.disconnect (if duration ≠ 0#16 then some duration else none))

/-- The flags of a PUBLISH. -/
def publishFlags (qos : Int) : Byte := flagTopicIdNorm ||| if qos ≠ 0 then flagQos1 else flagQos0

/-- What `mqttsn_c_publish` does with a packet that it accepts. -/
def Session.publish (session : Session) (now : Nat → Time) (index : Fin maxClientTopics) (qos : Int)
    (data : List Byte) : BitVec 16 × Session :=
  let session := if 0 < qos then mqttsnToState session .busy else session
  let topicId := session.ctx.topicIds index
  let msgId := session.ctx.nextId + 1
  let session := session.update fun ctx =>
    ((({ ctx with nextId := msgId }.write 2 [publishFlags qos]).write 3
      (rawBytes (htons topicId))).write 5 (rawBytes (htons msgId))).write 7 data
  let session := mqttsnSend session now .publish (sizeofPublish + data.length) (qos ≠ 0)
    (.publish (publishFlags qos) topicId msgId data)
  let session := session.mark
  let id := raw16 session.ctx.message 5
  (id, session.emit (.published qos id))

/-- `mqttsn_c_publish`. -/
def mqttsnCPublish (session : Session) (now : Nat → Time) (index : Fin maxClientTopics) (qos : Int)
    (data : List Byte) : BitVec 16 × Session :=
  if session.ctx.state ≠ .connected then (0#16, session)
  else if sizeofPublish + data.length > maxPacket then (0#16, session)
  else session.publish now index qos data

/-! ### Runs -/

/-- What the environment does to a client. -/
inductive Input where
  | handler (now : Nat → Time) (datagram : Option (List Byte))
  | connect (now : Nat → Time)
  | disconnect (now : Nat → Time) (duration : BitVec 16)
  | publish (now : Nat → Time) (index : Fin maxClientTopics) (qos : Int) (data : List Byte)
  | setPublishCallback (cb : Bool)
  | setPubackCallback (cb : Bool)

/-- One call of the client. -/
def Session.step (config : Config) (session : Session) : Input → Session
  | .handler now datagram => mqttsnCHandler config.topics.entry session now datagram
  | .connect now => mqttsnCConnect config session now
  | .disconnect now duration => mqttsnCDisconnect session now duration
  | .publish now index qos data => (mqttsnCPublish session now index qos data).2
  | .setPublishCallback cb => session.update fun ctx => { ctx with cbPublish := cb }
  | .setPubackCallback cb => session.update fun ctx => { ctx with cbPuback := cb }

/-- The calls of a run, in order. -/
def Session.run (config : Config) (session : Session) (inputs : List Input) : Session :=
  inputs.foldl (Session.step config) session

/-- `mqttsn_c_init`: everything is zero. -/
def mqttsnCInit : Session :=
  ⟨⟨.disconnected, 0, fun _ => 0#8, 0, 0, 0, 0, fun _ => 0#16, false, false, false⟩, []⟩

/-- Every call of the run meets `cond`, a condition on the context before the call and the call. -/
def Session.Along (config : Config) (cond : Ctx → Input → Prop) (session : Session) :
    List Input → Prop
  | [] => True
  | input :: inputs => cond session.ctx input ∧
      Session.Along config cond (session.step config input) inputs

end TinyHan.Mqttsn
