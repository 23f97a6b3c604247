/-
**What a call of the MQTT-SN client does.**

Every message goes out in the same way: its fields are written behind the header, `mqttsn_send` adds
the header, and the DUP bit is set if the type has one (`Session.issue`, with one equation for each
function that sends). A call of the client is a sequence of operations (`step_ops`), so an invariant
of the client is one case analysis of `Op`, and `run_invariant` carries it to every run.

`Rules` are restrictions of the environment that some of the invariants need: which quality of
service is published, and what is in the buffer when a PUBACK is taken or when the client leaves
Busy without an answer.
-/

import Mathlib.Logic.Relation
import TinyHan.Mqttsn.Client

namespace TinyHan.Mqttsn

open TinyHan.Lib Relation

/-! ### One way to send -/

section Issue

variable (session : Session) (now : Nat → Time) (extra : List Byte) (message : Message)
  (retry : Bool)

/-- A message is built in the buffer and sent, with what else is written behind it. -/
def Session.issue : Session :=
  let session := session.update fun ctx => ctx.write 2 (message.built ++ extra)
  let session := mqttsnSend session now message.type message.size retry message
  if message.flagged then session.mark else session

/-- What is handed to `cb_send`. -/
def Session.outgoing : List Byte :=
  window ((session.ctx.write 2 (message.built ++ extra)).send now message.type message.size
    retry).memory 0 message.size

end Issue

/-- The request for an entry of the topic table. -/
def Topic.request (topic : Topic) (index : BitVec 16) (name : CString) : Message :=
  if topic.subscribes then
    .subscribe (subscribeFlags (topic.flags &&& regQosMask)) index name.val
  else .register 0#16 index name.val

theorem Ctx.write_write (ctx : Ctx) (start next : Nat) (one two : List Byte)
    (adjacent : next = start + one.length) :
    (ctx.write start one).write next two = ctx.write start (one ++ two) := by
  subst adjacent
  simp only [Ctx.write, store_store]

theorem register_eq (session : Session) (now : Nat → Time) (msgId : BitVec 16) (topic : CString) :
    mqttsnRegister session now msgId topic =
      (mqttsnToState session .busy).issue now [0#8] (.register 0#16 msgId topic.val) true := by
  have writes : ∀ ctx : Ctx,
      ((ctx.write 2 (rawBytes 0#16)).write 4 (rawBytes (htons msgId))).write 6
        (topic.val ++ [0#8]) =
      ctx.write 2 ((Message.register 0#16 msgId topic.val).built ++ [0#8]) := by
    intro ctx
    rw [Ctx.write_write _ 2 4 _ _ rfl, rawBytes_htons, Ctx.write_write _ 2 6 _ _ rfl,
      built_of_not_subscribe rfl]
    rfl
  have size : sizeofRegister + topic.val.length =
      (Message.register 0#16 msgId topic.val).size := by
    simp [Message.size, Message.body, Message.isSubscribe, Message.type, sizeofRegister]
    omega
  simp only [mqttsnRegister, writes, size]
  rfl

theorem subscribe_eq (session : Session) (now : Nat → Time) (msgId : BitVec 16) (topic : CString)
    (qos : Byte) :
    mqttsnSubscribe session now msgId topic qos =
      (mqttsnToState session .busy).issue now []
        (.subscribe (subscribeFlags qos) msgId topic.val) true := by
  have writes : ∀ ctx : Ctx,
      ((ctx.write 2 [subscribeFlags qos]).write 3 (rawBytes (htons msgId))).write 5
        (topic.val ++ [0#8]) =
      ctx.write 2 ((Message.subscribe (subscribeFlags qos) msgId topic.val).built ++ []) := by
    intro ctx
    rw [Ctx.write_write _ 2 3 _ _ rfl, rawBytes_htons, Ctx.write_write _ 2 5 _ _ rfl,
      List.append_nil]
    rfl
  have size : sizeofSubscribe + topic.val.length =
      (Message.subscribe (subscribeFlags qos) msgId topic.val).size := by
    simp [Message.size, Message.body, Message.isSubscribe, Message.type, sizeofSubscribe]
    omega
  simp only [mqttsnSubscribe, writes, size]
  rfl

/-- **The request for an entry** is a SUBSCRIBE or a REGISTER, with the index as its identifier. -/
theorem request_eq (session : Session) (now : Nat → Time) (topic : Topic) (name : CString) :
    session.request now topic name =
      ((mqttsnToState session .busy).issue now (if topic.subscribes then [] else [0#8])
        (topic.request (BitVec.ofNat 16 session.ctx.count) name) true).update
        fun ctx => { ctx with count := ctx.count + 1 } := by
  simp only [Session.request, Topic.request, subscribe_eq, register_eq]
  split <;> rfl

theorem ping_eq (session : Session) (now : Nat → Time) :
    mqttsnSend session now .pingreq sizeofPingreq false (.pingreq []) =
      session.issue now [] (.pingreq []) false := by
  have nothing : session.ctx.write 2 [] = session.ctx := by
    have same : store session.ctx.message 2 [] = session.ctx.message := by
      funext index
      exact if_neg fun inside => Nat.lt_irrefl 2 (inside.1.trans_lt inside.2)
    rw [Ctx.write, same]
  have whole : session = session.update fun ctx => ctx.write 2 [] := by
    rw [Session.update, nothing]
  exact congrArg (fun session => mqttsnSend session now .pingreq sizeofPingreq false (.pingreq []))
    whole

/-- The fields of a CONNECT, as they are written, with what is written behind them. -/
theorem connect_writes (ctx : Ctx) (clientId padding : List Byte) :
    (((ctx.write 2 [0#8]).write 3 [protocolId]).write 4
      (rawBytes (htons (BitVec.ofNat 16 keepAlive)))).write 6 (clientId ++ padding) =
      ctx.write 2 ((Message.connect 0#8 protocolId (BitVec.ofNat 16 keepAlive) clientId).built ++
        padding) := by
  rw [Ctx.write_write _ 2 3 _ _ rfl, Ctx.write_write _ 2 4 _ _ rfl, rawBytes_htons,
    Ctx.write_write _ 2 6 _ _ rfl, built_of_not_subscribe rfl]
  rfl

theorem connect_size (flags protocol : Byte) (duration : BitVec 16) (clientId : List Byte) :
    sizeofConnect + clientId.length =
      (Message.connect flags protocol duration clientId).size := by
  simp [Message.size, Message.body, Message.isSubscribe, Message.type, sizeofConnect]
  omega

theorem connect_eq (config : Config) (session : Session) (now : Nat → Time)
    (idle : session.ctx.state = .disconnected) :
    mqttsnCConnect config session now =
      (mqttsnToState (session.emit .connect) .connecting).issue now
        (List.replicate (maxPacket - sizeofConnect - config.clientId.val.length) 0#8)
        (connectMessage config) true := by
  have isIdle : ¬(session.emit .connect).ctx.state ≠ .disconnected := not_not.mpr idle
  have size := connect_size 0#8 protocolId (BitVec.ofNat 16 keepAlive) config.clientId.val
  simp only [mqttsnCConnect, connect_writes, size]
  rw [if_neg isIdle]
  rfl

/-- The DISCONNECT of a client; a duration is only sent by a client that goes to sleep. -/
def disconnectMessage (duration : BitVec 16) : Message :=
  .disconnect (if duration ≠ 0#16 then some duration else none)

theorem disconnect_eq (session : Session) (now : Nat → Time) (duration : BitVec 16)
    (active : session.ctx.state ≠ .disconnected) :
    mqttsnCDisconnect session now duration =
      (mqttsnToState (session.emit .disconnect) .disconnecting).issue now
        (if duration ≠ 0#16 then [] else [0#8, 0#8]) (disconnectMessage duration) true := by
  have writes : rawBytes (htons duration) =
      (disconnectMessage duration).built ++ if duration ≠ 0#16 then [] else [0#8, 0#8] := by
    rw [rawBytes_htons, disconnectMessage]
    by_cases sleeps : duration = 0#16
    · rw [sleeps]
      rfl
    · simp [sleeps, Message.built, Message.body, Message.isSubscribe, Message.type, netBytes]
  have size : sizeofHeader + (if duration ≠ 0#16 then 2 else 0) =
      (disconnectMessage duration).size := by
    rw [disconnectMessage]
    split <;> rfl
  simp only [mqttsnCDisconnect, writes, size]
  rw [if_neg active]
  rfl

/-- The PUBLISH that `mqttsn_c_publish` builds. -/
def Ctx.publishMessage (ctx : Ctx) (index : Fin maxClientTopics) (qos : Int) (data : List Byte) :
    Message :=
  .publish (publishFlags qos) (ctx.topicIds index) (ctx.nextId + 1) data

/-- The context in which the PUBLISH is built: the client is Busy if an answer is expected, and the
next identifier is taken. -/
def Session.prepare (session : Session) (qos : Int) : Session :=
  (if 0 < qos then mqttsnToState session .busy else session).update
    fun ctx => { ctx with nextId := ctx.nextId + 1 }

theorem publish_eq (session : Session) (now : Nat → Time) (index : Fin maxClientTopics) (qos : Int)
    (data : List Byte) :
    let issued := (session.prepare qos).issue now []
      (session.ctx.publishMessage index qos data) (qos ≠ 0)
    (session.publish now index qos data).2 =
      issued.emit (.published qos (raw16 issued.ctx.message 5)) := by
  have writes : ∀ (ctx : Ctx) (flags : Byte) (topicId msgId : BitVec 16),
      (((ctx.write 2 [flags]).write 3 (rawBytes (htons topicId))).write 5
        (rawBytes (htons msgId))).write 7 data =
      ctx.write 2 ((Message.publish flags topicId msgId data).built ++ []) := by
    intro ctx flags topicId msgId
    rw [Ctx.write_write _ 2 3 _ _ rfl, rawBytes_htons, Ctx.write_write _ 2 5 _ _ rfl,
      rawBytes_htons, Ctx.write_write _ 2 7 _ _ rfl, built_of_not_subscribe rfl, List.append_nil]
    rfl
  have size : ∀ (flags : Byte) (topicId msgId : BitVec 16), sizeofPublish + data.length =
      (Message.publish flags topicId msgId data).size := by
    intro flags topicId msgId
    simp [Message.size, Message.body, Message.isSubscribe, Message.type, sizeofPublish]
    omega
  have size := size (publishFlags qos) (session.ctx.topicIds index) (session.ctx.nextId + 1)
  intro issued
  by_cases expects : 0 < qos
  · simp only [Session.publish, writes, size, issued, Session.prepare, if_pos expects]
    rfl
  · simp only [Session.publish, writes, size, issued, Session.prepare, if_neg expects]
    rfl

/-! ### Operations -/

/-- A message of a type, with at least `size` bytes. -/
def Inbound (datagram : List Byte) (type : MsgType) (size : Nat) : Prop :=
  inboundType datagram = some type ∧ size ≤ datagram.length

/-- The datagram is an acknowledgement of the topic with an identifier. -/
def Ack.Answers (ack : Ack) (datagram : List Byte) (msgId : BitVec 16) : Prop :=
  Inbound datagram ack.type ack.size ∧ htons (raw16 (ofList datagram) ack.msgId) = msgId

/-- The datagram is a CONNACK that accepts. -/
def Welcomes (datagram : List Byte) : Prop :=
  Inbound datagram .connack sizeofConnack ∧ ofList datagram 2 = rcAccepted

/-- What the environment may do. -/
structure Rules where
  /-- The quality of service of a packet to publish. -/
  qos : Int → Prop
  /-- What is in the buffer, and whether there is a callback, when a PUBACK is taken. -/
  ack : Memory → Bool → Prop
  /-- What is in the buffer when the client leaves Busy without an answer. -/
  lose : Memory → Prop

/-- Everything. -/
def Rules.any : Rules := ⟨fun _ => True, fun _ _ => True, fun _ => True⟩

/-- What the client can do in one piece. -/
inductive Op (config : Config) (rules : Rules) : Session → Session → Prop
  | resend (session : Session) (now : Nat → Time) (armed : session.ctx.tRetry ≠ 0)
      (left : session.ctx.nRetries ≠ 0) : Op config rules session (session.retransmit now)
  | giveUp (session : Session) (armed : session.ctx.tRetry ≠ 0) (spent : session.ctx.nRetries = 0)
      (may : session.ctx.state = .busy → rules.lose session.ctx.message) :
      Op config rules session (mqttsnToState session .disconnected)
  | ping (session : Session) (now : Nat → Time) (connected : session.ctx.state = .connected) :
      Op config rules session (session.issue now [] (.pingreq []) false)
  | receive (session : Session) (datagram : List Byte) :
      Op config rules session (session.emit (.received datagram))
  | deliver (session : Session) (index : Nat) (data : List Byte) :
      Op config rules session (session.emit (.cbPublish index data))
  | welcome (session : Session) (datagram : List Byte)
      (connecting : session.ctx.state = .connecting) (welcomes : Welcomes datagram) :
      Op config rules session (mqttsnToState
        ((session.emit (.received datagram)).update fun ctx => { ctx with count := 0 })
        (if session.ctx.isRegistered then .connected else .registering))
  | refuse (session : Session) (datagram : List Byte)
      (connecting : session.ctx.state = .connecting) :
      Op config rules session (mqttsnToState (session.emit (.received datagram)) .disconnected)
  | answer (session : Session) (ack : Ack) (datagram : List Byte)
      (known : ack = .regack ∨ ack = .suback) (busy : session.ctx.state = .busy)
      (request : session.ctx.msgType = ack.request.code)
      (inbound : Inbound datagram ack.type ack.size)
      (same : raw16 (ofList datagram) ack.msgId = raw16 session.ctx.message ack.sentId) :
      Op config rules session (mqttsnToState
        ((session.emit (.received datagram)).update fun ctx => ctx.answer ack (ofList datagram))
        .registering)
  | acknowledge (session : Session) (datagram : List Byte) (busy : session.ctx.state = .busy)
      (same : raw16 (ofList datagram) 4 = raw16 session.ctx.message 5)
      (may : rules.ack session.ctx.message session.ctx.cbPuback) :
      Op config rules session (mqttsnToState
        ((session.emit (.received datagram)).acknowledge (ofList datagram)) .connected)
  | drop (session : Session) (datagram : List Byte)
      (may : session.ctx.state = .busy → rules.lose session.ctx.message) :
      Op config rules session (mqttsnToState (session.emit (.received datagram)) .disconnected)
  | finish (session : Session) (registering : session.ctx.state = .registering)
      (all : (config.topics.entry session.ctx.count).name = none) :
      Op config rules session (mqttsnToState
        ((session.update fun ctx => { ctx with count := 0, isRegistered := true }).emit .registered)
        .connected)
  | request (session : Session) (now : Nat → Time) (extra : List Byte) (name : CString)
      (registering : session.ctx.state = .registering)
      (next : (config.topics.entry session.ctx.count).name = some name) :
      Op config rules session
        (((mqttsnToState session .busy).issue now extra
          ((config.topics.entry session.ctx.count).request (BitVec.ofNat 16 session.ctx.count) name)
          true).update fun ctx => { ctx with count := ctx.count + 1 })
  | connectAgain (session : Session) (active : session.ctx.state ≠ .disconnected) :
      Op config rules session (session.emit .connect)
  | connect (session : Session) (now : Nat → Time) (extra : List Byte)
      (idle : session.ctx.state = .disconnected) :
      Op config rules session ((mqttsnToState (session.emit .connect) .connecting).issue now extra
        (connectMessage config) true)
  | disconnect (session : Session) (now : Nat → Time) (extra : List Byte) (duration : BitVec 16)
      (active : session.ctx.state ≠ .disconnected)
      (may : session.ctx.state = .busy → rules.lose session.ctx.message) :
      Op config rules session ((mqttsnToState (session.emit .disconnect) .disconnecting).issue now
        extra (disconnectMessage duration) true)
  | publish (session : Session) (now : Nat → Time) (index : Fin maxClientTopics) (qos : Int)
      (data : List Byte) (msgId : BitVec 16) (connected : session.ctx.state = .connected)
      (fits : sizeofPublish + data.length ≤ maxPacket) (may : rules.qos qos)
      (returned : msgId = raw16 ((session.prepare qos).issue now []
        (session.ctx.publishMessage index qos data) (qos ≠ 0)).ctx.message 5) :
      Op config rules session (((session.prepare qos).issue now []
        (session.ctx.publishMessage index qos data) (qos ≠ 0)).emit (.published qos msgId))
  | setCallbacks (session : Session) (cbPublish cbPuback : Bool) :
      Op config rules session
        (session.update fun ctx => { ctx with cbPublish := cbPublish, cbPuback := cbPuback })

/-- A sequence of operations. -/
abbrev Ops (config : Config) (rules : Rules) : Session → Session → Prop :=
  ReflTransGen (Op config rules)

/-- The retries are over, and the handler disconnects the client before it looks at a datagram. -/
def Ctx.givesUp (ctx : Ctx) (now : Nat → Time) : Prop := ctx.expired now ∧ ctx.nRetries = 0

instance (ctx : Ctx) (now : Nat → Time) : Decidable (ctx.givesUp now) :=
  inferInstanceAs (Decidable (_ ∧ _))

/-- The call is one that the environment may make. -/
def Rules.Admits (rules : Rules) (ctx : Ctx) : Input → Prop
  | .handler now datagram => ctx.state = .busy →
      (ctx.givesUp now → rules.lose ctx.message) ∧
      (¬ ctx.givesUp now → ∀ inbound ∈ datagram,
        (Inbound inbound .puback sizeofPuback →
          raw16 (ofList inbound) 4 = raw16 ctx.message 5 → rules.ack ctx.message ctx.cbPuback) ∧
        (inboundType inbound = some .disconnect → rules.lose ctx.message))
  | .publish _ _ qos _ => rules.qos qos
  | .disconnect _ _ => ctx.state = .busy → rules.lose ctx.message
  | _ => True

section Steps

variable {config : Config} {rules : Rules} {session : Session} {now : Nat → Time}

theorem checkRetry_ops (may : session.ctx.state = .busy → session.ctx.expired now →
    session.ctx.nRetries = 0 → rules.lose session.ctx.message) :
    Ops config rules session (session.checkRetry now) := by
  unfold Session.checkRetry
  split
  · next expired =>
    split
    · next left => exact .single (.resend session now expired.1 left)
    · next none =>
      have spent := not_not.mp none
      exact .single (.giveUp session expired.1 spent fun busy => may busy expired spent)
  · exact .refl

theorem checkPing_ops : Ops config rules session (session.checkPing now) := by
  unfold Session.checkPing
  split
  · next due =>
    rw [ping_eq]
    exact .single (.ping session _ due.1)
  · exact .refl

/-- The timers leave a Busy client alone, but for what a retransmission writes. -/
theorem busy_of_checks (busy : ((session.checkRetry now).checkPing now).ctx.state = .busy) :
    session.ctx.state = .busy ∧
      ((session.checkRetry now).checkPing now).ctx.message = session.ctx.message ∧
      ((session.checkRetry now).checkPing now).ctx.cbPuback = session.ctx.cbPuback ∧
      ¬ session.ctx.givesUp now := by
  unfold Session.checkPing at busy ⊢
  split at busy
  · next due =>
    have connected : (session.checkRetry now).ctx.state = .busy := busy
    rw [due.1] at connected
    cases connected
  · next quiet =>
    rw [if_neg quiet]
    unfold Session.checkRetry at busy ⊢
    split at busy
    · next expired =>
      rw [if_pos expired]
      split at busy
      · next left =>
        rw [if_pos left]
        exact ⟨busy, rfl, rfl, fun spent => left spent.2⟩
      · cases busy
    · next waiting =>
      rw [if_neg waiting]
      exact ⟨busy, rfl, rfl, fun spent => waiting spent.1⟩

/-- The conditions on an inbound message, as they stand when it is processed. -/
def Rules.Accepts (rules : Rules) (ctx : Ctx) (datagram : List Byte) : Prop :=
  ctx.state = .busy →
    (Inbound datagram .puback sizeofPuback →
      raw16 (ofList datagram) 4 = raw16 ctx.message 5 → rules.ack ctx.message ctx.cbPuback) ∧
    (inboundType datagram = some .disconnect → rules.lose ctx.message)

section Inbound

variable {datagram : List Byte}

/-- A message that a handler ignores. -/
theorem ignored_ops : Ops config rules session (session.emit (.received datagram)) :=
  .single (.receive session datagram)

theorem connack_ops (type : inboundType datagram = some .connack) :
    Ops config rules session (mqttsnConnackHandler (session.emit (.received datagram))
      (ofList datagram) datagram.length) := by
  unfold mqttsnConnackHandler
  split
  · exact ignored_ops
  · next long =>
    split
    · exact ignored_ops
    · next expected =>
      have connecting : session.ctx.state = .connecting := not_not.mp (not_or.mp expected).1
      split
      · next accepted =>
        exact .single (.welcome session datagram connecting
          ⟨⟨type, Nat.le_of_not_lt long⟩, accepted⟩)
      · exact .single (.refuse session datagram connecting)

theorem ack_ops {ack : Ack} (known : ack = .regack ∨ ack = .suback)
    (type : inboundType datagram = some ack.type) :
    Ops config rules session (mqttsnAckHandler (session.emit (.received datagram))
      (ofList datagram) datagram.length ack) := by
  unfold mqttsnAckHandler
  split
  · exact ignored_ops
  · next long =>
    split
    · exact ignored_ops
    · next expected =>
      obtain ⟨busy, request⟩ := not_or.mp expected
      split
      · exact ignored_ops
      · next same =>
        exact .single (.answer session ack datagram known (not_not.mp busy) (not_not.mp request)
          ⟨type, Nat.le_of_not_lt long⟩ (not_not.mp same))

theorem publishHandler_ops (entry : Nat → Topic) :
    Ops config rules session (mqttsnPublishHandler (session.emit (.received datagram))
      (ofList datagram) datagram.length entry) := by
  unfold mqttsnPublishHandler
  split
  · exact ignored_ops
  · dsimp only
    split
    · exact ignored_ops
    · next index _ =>
      split
      · exact ignored_ops.tail (.deliver _ index _)
      · exact ignored_ops

theorem puback_ops (type : inboundType datagram = some .puback)
    (may : rules.Accepts session.ctx datagram) :
    Ops config rules session (mqttsnPubackHandler (session.emit (.received datagram))
      (ofList datagram) datagram.length) := by
  unfold mqttsnPubackHandler
  split
  · exact ignored_ops
  · next long =>
    split
    · exact ignored_ops
    · next isBusy =>
      split
      · exact ignored_ops
      · next isSame =>
        have busy : session.ctx.state = .busy := not_not.mp isBusy
        have same := not_not.mp isSame
        exact .single (.acknowledge session datagram busy same
          ((may busy).1 ⟨type, Nat.le_of_not_lt long⟩ same))

theorem processInbound_ops {entry : Nat → Topic} (may : rules.Accepts session.ctx datagram) :
    Ops config rules session (session.processInbound entry datagram) := by
  unfold Session.processInbound
  split
  · next sized =>
    have type : inboundType datagram = MsgType.ofCode (datagram.getD 1 0#8) := if_pos sized
    split
    · next code => exact connack_ops (type.trans code)
    · next code => exact ack_ops (.inl rfl) (type.trans code)
    · exact publishHandler_ops entry
    · next code => exact puback_ops (type.trans code) may
    · next code => exact ack_ops (.inr rfl) (type.trans code)
    · next code =>
      exact .single (.drop session datagram fun busy => (may busy).2 (type.trans code))
    · exact ignored_ops
  · exact .refl

end Inbound

theorem driveRegistration_ops :
    Ops config rules session (session.driveRegistration config.topics.entry now) := by
  unfold Session.driveRegistration
  split
  · next registering =>
    dsimp only
    split
    · next all => exact .single (.finish session registering all)
    · next name next =>
      rw [request_eq]
      exact .single (.request session _ _ name registering next)
  · exact .refl

theorem handler_ops {datagram : Option (List Byte)}
    (may : rules.Admits session.ctx (.handler now datagram)) :
    Ops config rules session (mqttsnCHandler config.topics.entry session now datagram) := by
  have retried : Ops config rules session (session.checkRetry now) :=
    checkRetry_ops fun busy expired spent => (may busy).1 ⟨expired, spent⟩
  have pinged : Ops config rules session ((session.checkRetry now).checkPing now) :=
    retried.trans checkPing_ops
  refine ReflTransGen.trans ?_ driveRegistration_ops
  cases datagram with
  | none => exact pinged
  | some datagram =>
      refine pinged.trans (processInbound_ops fun busy => ?_)
      obtain ⟨before, message, callback, left⟩ := busy_of_checks busy
      rw [message, callback]
      exact (may before).2 left datagram rfl

/-- **A call is a sequence of operations.** -/
theorem step_ops {input : Input} (may : rules.Admits session.ctx input) :
    Ops config rules session (session.step config input) := by
  cases input with
  | handler now datagram => exact handler_ops may
  | connect now =>
      rw [Session.step]
      by_cases idle : session.ctx.state = .disconnected
      · rw [connect_eq config session now idle]
        exact .single (.connect session now _ idle)
      · have refused : mqttsnCConnect config session now = session.emit .connect :=
          if_pos idle
        rw [refused]
        exact .single (.connectAgain session idle)
  | disconnect now duration =>
      rw [Session.step]
      by_cases idle : session.ctx.state = .disconnected
      · have refused : mqttsnCDisconnect session now duration = session := if_pos idle
        rw [refused]
      · rw [disconnect_eq session now duration idle]
        exact .single (.disconnect session now _ duration idle may)
  | publish now index qos data =>
      rw [Session.step, mqttsnCPublish]
      split
      · exact .refl
      · next connected =>
        split
        · exact .refl
        · next fits =>
          rw [publish_eq]
          exact .single (.publish session now index qos data _ (not_not.mp connected)
            (Nat.le_of_not_lt fits) may rfl)
  | setPublishCallback cb => exact .single (.setCallbacks session cb session.ctx.cbPuback)
  | setPubackCallback cb => exact .single (.setCallbacks session session.ctx.cbPublish cb)

end Steps

/-! ### What an inbound message does -/

/-- The event tells of an inbound message that does not move the client. -/
def Event.still : Event → Bool
  | .received _ | .cbPublish _ _ => true
  | _ => false

/-- **The cases of an inbound message.** It is ignored but for a callback, or it is one of the six
that move the client. -/
theorem processInbound_elim {P : Session → Prop} {session : Session} {entry : Nat → Topic}
    {datagram : List Byte}
    (ignored : ∀ events : List Event, (∀ event ∈ events, event.still = true) →
      P ⟨session.ctx, session.log ++ events⟩)
    (welcomed : session.ctx.state = .connecting → P (mqttsnToState
      ((session.emit (.received datagram)).update fun ctx => { ctx with count := 0 })
      (if session.ctx.isRegistered then .connected else .registering)))
    (refused : session.ctx.state = .connecting → Inbound datagram .connack sizeofConnack →
      ofList datagram 2 ≠ rcAccepted →
      P (mqttsnToState (session.emit (.received datagram)) .disconnected))
    (answered : ∀ ack, ack = .regack ∨ ack = .suback → session.ctx.state = .busy →
      session.ctx.msgType = ack.request.code → Inbound datagram ack.type ack.size →
      raw16 (ofList datagram) ack.msgId = raw16 session.ctx.message ack.sentId →
      P (mqttsnToState ((session.emit (.received datagram)).update
        fun ctx => ctx.answer ack (ofList datagram)) .registering))
    (acknowledged : session.ctx.state = .busy → Inbound datagram .puback sizeofPuback →
      P (mqttsnToState ((session.emit (.received datagram)).acknowledge (ofList datagram))
        .connected))
    (dropped : inboundType datagram = some .disconnect →
      P (mqttsnToState (session.emit (.received datagram)) .disconnected)) :
    P (session.processInbound entry datagram) := by
  have taken : P (session.emit (.received datagram)) :=
    ignored [.received datagram] (by simp [Event.still])
  have acks (ack : Ack) (known : ack = .regack ∨ ack = .suback)
      (type : inboundType datagram = some ack.type) :
      P (mqttsnAckHandler (session.emit (.received datagram)) (ofList datagram) datagram.length
        ack) := by
    unfold mqttsnAckHandler
    split
    · exact taken
    · next long =>
      split
      · exact taken
      · next expected =>
        obtain ⟨busy, request⟩ := not_or.mp expected
        split
        · exact taken
        · next same =>
          exact answered ack known (not_not.mp busy) (not_not.mp request)
            ⟨type, Nat.le_of_not_lt long⟩ (not_not.mp same)
  have connack (type : inboundType datagram = some .connack) :
      P (mqttsnConnackHandler (session.emit (.received datagram)) (ofList datagram)
        datagram.length) := by
    unfold mqttsnConnackHandler
    split
    · exact taken
    · next long =>
      split
      · exact taken
      · next expected =>
        have connecting : session.ctx.state = .connecting := not_not.mp (not_or.mp expected).1
        split
        · exact welcomed connecting
        · next other => exact refused connecting ⟨type, Nat.le_of_not_lt long⟩ other
  have publish : P (mqttsnPublishHandler (session.emit (.received datagram)) (ofList datagram)
      datagram.length entry) := by
    unfold mqttsnPublishHandler
    split
    · exact taken
    · dsimp only
      split
      · exact taken
      · next index _ =>
        split
        · have both := ignored [.received datagram, .cbPublish index
            (window (ofList datagram) sizeofPublish (datagram.length - sizeofPublish))]
            (by simp [Event.still])
          rwa [← List.singleton_append, ← List.append_assoc] at both
        · exact taken
  have puback (type : inboundType datagram = some .puback) :
      P (mqttsnPubackHandler (session.emit (.received datagram)) (ofList datagram)
        datagram.length) := by
    unfold mqttsnPubackHandler
    split
    · exact taken
    · next long =>
      split
      · exact taken
      · next busy =>
        split
        · exact taken
        · exact acknowledged (not_not.mp busy) ⟨type, Nat.le_of_not_lt long⟩
  unfold Session.processInbound
  split
  · next sized =>
    have type : inboundType datagram = MsgType.ofCode (datagram.getD 1 0#8) := if_pos sized
    split
    · next code => exact connack (type.trans code)
    · next code => exact acks .regack (.inl rfl) (type.trans code)
    · exact publish
    · next code => exact puback (type.trans code)
    · next code => exact acks .suback (.inr rfl) (type.trans code)
    · next code => exact dropped (type.trans code)
    · exact taken
  · have none := ignored [] (by simp)
    rwa [List.append_nil] at none

/-! ### Runs -/

theorem run_ops {config : Config} {rules : Rules} {session : Session} {inputs : List Input}
    (along : session.Along config rules.Admits inputs) :
    Ops config rules session (session.run config inputs) := by
  induction inputs generalizing session with
  | nil => exact .refl
  | cons input inputs ih => exact (step_ops along.1).trans (ih along.2)

/-- **The invariant rule.** What holds at the start and is kept by every operation holds after every
run. -/
theorem run_invariant {config : Config} {rules : Rules} {P : Session → Prop} {session : Session}
    {inputs : List Input} (start : P session)
    (kept : ∀ before after, Op config rules before after → P before → P after)
    (along : session.Along config rules.Admits inputs) : P (session.run config inputs) := by
  have always : ∀ final, Ops config rules session final → P final := by
    intro final ops
    induction ops with
    | refl => exact start
    | tail _ op ih => exact kept _ _ op ih
  exact always _ (run_ops along)

/-- Every run is one that an environment without restrictions can make. -/
theorem along_any (config : Config) (session : Session) (inputs : List Input) :
    session.Along config Rules.any.Admits inputs := by
  induction inputs generalizing session with
  | nil => trivial
  | cons input inputs ih =>
      refine ⟨?_, ih _⟩
      cases input with
      | handler =>
          intro _
          exact ⟨fun _ => trivial, fun _ _ _ => ⟨fun _ _ => trivial, fun _ => trivial⟩⟩
      | publish => trivial
      | disconnect => exact fun _ => trivial
      | connect | setPublishCallback | setPubackCallback => trivial

end TinyHan.Mqttsn
