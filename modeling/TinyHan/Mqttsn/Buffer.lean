/-
**The message buffer and the request in it.**

The log says which request is outstanding: the last message sent since the client entered its state
(`outstanding`). `Request.Carried` says what the buffer has of it: the request, with the DUP bit set
where its type has one. `Consistent` is the invariant of the client, kept by every operation
(`op_consistent`, `run_consistent`):

* a retry timer is only armed while a request is outstanding, and the buffer carries that request;
* in Connecting the request is the CONNECT, in Disconnecting a DISCONNECT, and in Busy a PUBLISH or
  the request for the entry of the topic table in front of `count`.
-/

import TinyHan.Lib.History
import TinyHan.Mqttsn.Ops

namespace TinyHan.Mqttsn

open TinyHan.Lib Relation

/-! ### What a message leaves in the context -/

section Issue

variable (session : Session) (now : Nat → Time) (extra : List Byte) (message : Message)
  (retry : Bool)

@[simp] theorem issue_log : (session.issue now extra message retry).log =
    session.log ++ [.send (session.outgoing now extra message retry) retry message] := by
  unfold Session.issue
  split <;> rfl

@[simp] theorem issue_state :
    (session.issue now extra message retry).ctx.state = session.ctx.state := by
  unfold Session.issue
  split <;> cases retry <;> rfl

@[simp] theorem issue_count :
    (session.issue now extra message retry).ctx.count = session.ctx.count := by
  unfold Session.issue
  split <;> cases retry <;> rfl

@[simp] theorem issue_topicIds :
    (session.issue now extra message retry).ctx.topicIds = session.ctx.topicIds := by
  unfold Session.issue
  split <;> cases retry <;> rfl

@[simp] theorem issue_isRegistered :
    (session.issue now extra message retry).ctx.isRegistered = session.ctx.isRegistered := by
  unfold Session.issue
  split <;> cases retry <;> rfl

@[simp] theorem issue_nextId :
    (session.issue now extra message retry).ctx.nextId = session.ctx.nextId := by
  unfold Session.issue
  split <;> cases retry <;> rfl

theorem issue_tRetry_of_not_retry (once : retry = false) :
    (session.issue now extra message retry).ctx.tRetry = session.ctx.tRetry := by
  subst once
  unfold Session.issue
  split <;> rfl

theorem issue_nRetries_of_retry (again : retry = true) :
    (session.issue now extra message retry).ctx.nRetries = nRetry := by
  subst again
  unfold Session.issue
  split <;> rfl

theorem issue_message :
    let buffer := store (store session.ctx.message 2 (message.built ++ extra)) 0
      (header message.size message.type)
    (session.issue now extra message retry).ctx.message =
      if message.flagged then store buffer 2 [buffer 2 ||| flagDup] else buffer := by
  unfold Session.issue
  split <;> cases retry <;> rfl

end Issue

/-- Inside the buffer the memory is the buffer. -/
theorem Ctx.sameFront_memory (ctx : Ctx) : SameFront maxPacket ctx.memory ctx.message :=
  fun _ inside => if_pos inside

/-- **What is sent** when the buffer has the header and what the client builds. -/
theorem window_memory {ctx : Ctx} {message : Message} (fits : 2 + message.built.length ≤ maxPacket)
    (front : Holds ctx.message 0 (header message.size message.type ++ message.built)) :
    window ctx.memory 0 message.size = message.wire (ctx.memory (2 + message.built.length)) := by
  have length : (header message.size message.type ++ message.built).length =
      2 + message.built.length := List.length_append
  have first : window ctx.memory 0 (2 + message.built.length) =
      header message.size message.type ++ message.built := by
    rw [ctx.sameFront_memory.window_eq (by omega), ← length]
    exact front
  rw [Message.wire, Message.rest, ← List.append_assoc, ← first]
  cases subscribe : message.isSubscribe with
  | false => simp [Message.size, Message.built, subscribe]
  | true =>
      have size : message.size = 2 + message.built.length + 1 := by
        simp [Message.size, Message.built, subscribe]
        omega
      rw [size, window_add, Nat.zero_add]
      rfl

/-- What is handed to `cb_send` when the retry timer expires. -/
def Session.resent (session : Session) : List Byte :=
  window { session.ctx with nRetries := session.ctx.nRetries - 1 }.memory 0
    (session.ctx.message 0).toNat

section Log

variable (session : Session)

@[simp] theorem emit_log (event : Event) : (session.emit event).log = session.log ++ [event] := rfl

theorem update_ctx (change : Ctx → Ctx) : (session.update change).ctx = change session.ctx := rfl

@[simp] theorem update_log (change : Ctx → Ctx) : (session.update change).log = session.log := rfl

@[simp] theorem toState_log (state : State) :
    (mqttsnToState session state).log = session.log ++ [.entered state] := rfl

@[simp] theorem retransmit_log (now : Nat → Time) :
    (session.retransmit now).log = session.log ++ [.resend session.resent] := rfl

end Log

/-! ### The outstanding request -/

/-- A message that was sent, and how often it was sent again. -/
structure Request where
  bytes : List Byte
  retry : Bool
  message : Message
  resends : Nat

/-- What an event does to the outstanding request. -/
def observeRequest (request : Option Request) : Event → Option Request
  | .send bytes retry message => some ⟨bytes, retry, message, 0⟩
  | .resend _ => request.map fun request => { request with resends := request.resends + 1 }
  | .entered _ => none
  | _ => request

/-- The message that was sent last since the client entered its state. -/
def outstanding (log : List Event) : Option Request := view observeRequest none log

@[simp] theorem outstanding_snoc (log : List Event) (event : Event) :
    outstanding (log ++ [event]) = observeRequest (outstanding log) event :=
  view_snoc observeRequest none log event

/-- The buffer has the request, with the DUP bit set where its type has one. -/
structure Request.Carried (request : Request) (memory : Memory) (stale : Byte) : Prop where
  fits : 2 + request.message.built.length ≤ maxPacket
  sent : request.bytes = request.message.wire stale
  front : Holds memory 0
    (header request.message.dup.size request.message.dup.type ++ request.message.dup.built)
  /-- The stale byte of a SUBSCRIBE may lie behind the buffer. -/
  whole : request.message.size ≤ maxPacket → Holds memory 0 (request.message.dup.wire stale)

/-- **A message that is issued is carried by the buffer.** -/
theorem issue_carried (session : Session) (now : Nat → Time) (extra : List Byte)
    (message : Message) (retry : Bool) (fits : 2 + message.built.length ≤ maxPacket) :
    ∃ stale, Request.Carried ⟨session.outgoing now extra message retry, retry, message, 0⟩
      (session.issue now extra message retry).ctx.message stale := by
  let sent := (session.ctx.write 2 (message.built ++ extra)).send now message.type message.size
    retry
  have buffer : sent.message = store (store session.ctx.message 2 (message.built ++ extra)) 0
      (header message.size message.type) := by
    cases retry <;> rfl
  have front : Holds sent.message 0 (header message.size message.type ++ message.built) := by
    rw [buffer]
    refine holds_append.mpr ⟨holds_store _ _ _, ?_⟩
    exact (holds_append.mp (holds_store _ 2 (message.built ++ extra))).1.store_before (le_refl 2)
  have bytes := window_memory fits front
  have whole : message.size ≤ maxPacket →
      Holds sent.message 0 (message.wire (sent.memory (2 + message.built.length))) := by
    intro inside
    rw [Holds, wire_length, ← sent.sameFront_memory.window_eq (by omega)]
    exact bytes
  refine ⟨_, fits, bytes, ?_, fun inside => ?_⟩
  · rw [issue_message, ← buffer]
    cases flagged : message.flagged with
    | false =>
        rw [dup_of_not_flagged flagged]
        exact front
    | true =>
        rw [dup_front flagged]
        exact front.modify 2 (· ||| flagDup)
  · rw [issue_message, ← buffer]
    cases flagged : message.flagged with
    | false =>
        rw [dup_of_not_flagged flagged]
        exact whole inside
    | true =>
        rw [dup_wire flagged]
        exact (whole inside).modify 2 (· ||| flagDup)

section Carried

variable {request : Request} {memory : Memory} {stale : Byte}

/-- A message that fits is short enough for its length byte. -/
theorem size_lt_of_fits {message : Message} (fits : 2 + message.built.length ≤ maxPacket) :
    message.size < 256 := by
  rw [← rest_length message 0#8, Message.rest, List.length_append]
  have few : (if message.isSubscribe then [0#8] else []).length ≤ 1 := by
    split <;> decide
  have packet : maxPacket = 64 := rfl
  omega

theorem Request.Carried.length (carried : request.Carried memory stale) :
    (memory 0).toNat = request.message.size := by
  obtain ⟨first, -⟩ := holds_cons.mp carried.front
  rw [first, dup_size, BitVec.toNat_ofNat]
  exact Nat.mod_eq_of_lt (size_lt_of_fits carried.fits)

theorem Request.Carried.type (carried : request.Carried memory stale) :
    memory 1 = request.message.type.code := by
  obtain ⟨-, second⟩ := holds_cons.mp carried.front
  obtain ⟨code, -⟩ := holds_cons.mp second
  rw [code, dup_type]

/-- **What is sent again** is the request with the DUP bit, unchanged if it lies in the buffer. -/
theorem Request.Carried.resent {session : Session}
    (carried : request.Carried session.ctx.message stale) :
    ∃ other, session.resent = request.message.dup.wire other ∧
      (request.message.size ≤ maxPacket → other = stale) := by
  have fits : 2 + request.message.dup.built.length ≤ maxPacket := by
    rw [dup_built_length]
    exact carried.fits
  -- one retry less is counted before the message is sent
  let spent := { session.ctx with nRetries := session.ctx.nRetries - 1 }
  have bytes : window spent.memory 0 _ = _ := window_memory fits carried.front
  rw [dup_size] at bytes
  rw [Session.resent, carried.length]
  by_cases inside : request.message.size ≤ maxPacket
  · refine ⟨stale, ?_, fun _ => rfl⟩
    have whole := carried.whole inside
    rw [Holds, wire_length, dup_size] at whole
    exact (spent.sameFront_memory.window_eq (by omega)).trans whole
  · exact ⟨_, bytes, fun small => absurd small inside⟩

end Carried

/-! ### The invariant -/

/-- The request for an entry of the topic table. -/
def Config.request (config : Config) (index : Nat) : Option Message :=
  (config.topics.entry index).name.map
    ((config.topics.entry index).request (BitVec.ofNat 16 index))

/-- The client waits for an answer. -/
def State.waits : State → Bool
  | .connecting | .busy | .disconnecting => true
  | .disconnected | .registering | .connected => false

/-- The message is one whose answer the client waits for. -/
def Config.Expects (config : Config) (ctx : Ctx) (message : Message) : Prop :=
  match ctx.state with
  | .connecting => message = connectMessage config
  | .busy => message.type = .publish ∨ ∃ index < config.topics.length,
      ctx.count = index + 1 ∧ config.request index = some message
  | .disconnecting => message.type = .disconnect
  | _ => True

/-- The invariant of a session. -/
structure Consistent (config : Config) (session : Session) : Prop where
  armed : session.ctx.tRetry ≠ 0 → ∃ request, outstanding session.log = some request
  carried : ∀ request, outstanding session.log = some request →
    ∃ stale, request.Carried session.ctx.message stale
  idle : session.ctx.state = .disconnected → session.ctx.tRetry = 0
  counted : session.ctx.state = .registering → session.ctx.count ≤ config.topics.length
  waiting : session.ctx.state.waits = true →
    ∃ request, outstanding session.log = some request ∧ config.Expects session.ctx request.message

section Kept

variable {config : Config} {session : Session}

/-- A client that enters a state in which it does not wait has no request. -/
theorem consistent_entered {state : State} (rests : state.waits = false)
    (counted : state = .registering → session.ctx.count ≤ config.topics.length) :
    Consistent config (mqttsnToState session state) where
  armed := fun armed => absurd rfl armed
  carried := by
    intro request isOutstanding
    rw [toState_log, outstanding_snoc] at isOutstanding
    cases isOutstanding
  idle := fun _ => rfl
  counted := counted
  waiting := fun waits => absurd (waits.symm.trans rests) (by decide)

/-- A client that has just issued a message has it outstanding. -/
theorem consistent_issued {request : Request} {stale : Byte}
    (isOutstanding : outstanding session.log = some request)
    (carried : request.Carried session.ctx.message stale)
    (sends : session.ctx.state ≠ .disconnected ∧ session.ctx.state ≠ .registering)
    (expects : config.Expects session.ctx request.message) : Consistent config session where
  armed := fun _ => ⟨request, isOutstanding⟩
  carried := by
    intro other isOther
    obtain rfl := Option.some.inj (isOutstanding.symm.trans isOther)
    exact ⟨stale, carried⟩
  idle := fun idle => absurd idle sends.1
  counted := fun registering => absurd registering sends.2
  waiting := fun _ => ⟨request, isOutstanding, expects⟩

/-- What does not touch the request, the buffer, the timer, the state or the counter keeps the
invariant. -/
theorem Consistent.frame {after : Session} (consistent : Consistent config session)
    (sameRequest : outstanding after.log = outstanding session.log)
    (sameState : after.ctx.state = session.ctx.state)
    (sameCount : after.ctx.count = session.ctx.count)
    (sameMessage : after.ctx.message = session.ctx.message)
    (sameTimer : after.ctx.tRetry = session.ctx.tRetry) : Consistent config after where
  armed := by
    rw [sameTimer, sameRequest]
    exact consistent.armed
  carried := by
    rw [sameRequest, sameMessage]
    exact consistent.carried
  idle := by
    rw [sameState, sameTimer]
    exact consistent.idle
  counted := by
    rw [sameState, sameCount]
    exact consistent.counted
  waiting := by
    unfold Config.Expects
    rw [sameState, sameRequest, sameCount]
    exact consistent.waiting

theorem Consistent.emit {event : Event} (consistent : Consistent config session)
    (silent : observeRequest (outstanding session.log) event = outstanding session.log) :
    Consistent config (session.emit event) := by
  refine consistent.frame ?_ rfl rfl rfl rfl
  rw [Session.emit, outstanding_snoc, silent]

/-- The request in Busy whose type is not PUBLISH is the one for the entry in front of `count`. -/
theorem Consistent.requested (consistent : Consistent config session)
    (busy : session.ctx.state = .busy) (other : session.ctx.msgType ≠ MsgType.publish.code) :
    ∃ request index, outstanding session.log = some request ∧ index < config.topics.length ∧
      session.ctx.count = index + 1 ∧ config.request index = some request.message := by
  obtain ⟨request, isOutstanding, expects⟩ := consistent.waiting (by rw [busy]; rfl)
  obtain ⟨stale, carried⟩ := consistent.carried request isOutstanding
  rw [Config.Expects, busy] at expects
  rcases expects with published | ⟨index, inside, counted, isRequest⟩
  · refine absurd ?_ other
    rw [Ctx.msgType, carried.type, published]
  · exact ⟨request, index, isOutstanding, inside, counted, isRequest⟩

end Kept

/-! ### Every message fits the buffer -/

/-- The request for an entry fits if its name does. -/
theorem Topic.request_fits {topic : Topic} {name : CString}
    (fits : topic.offset + name.val.length + 1 ≤ maxPacket) (msgId : BitVec 16) :
    2 + (topic.request msgId name).built.length ≤ maxPacket := by
  unfold Topic.request
  unfold Topic.offset at fits
  split
  · next subscribes =>
    rw [if_pos subscribes, sizeofSubscribe] at fits
    simp only [Message.built, Message.body, Message.isSubscribe, Message.type, decide_true, if_true,
      List.length_append, List.length_cons, List.length_nil]
    omega
  · next registers =>
    rw [if_neg registers, sizeofRegister] at fits
    rw [built_of_not_subscribe rfl]
    simp only [Message.body, List.length_cons]
    omega

theorem request_fits (config : Config) {index : Nat} {name : CString}
    (inside : index < config.topics.length)
    (named : (config.topics.entry index).name = some name) (msgId : BitVec 16) :
    2 + ((config.topics.entry index).request msgId name).built.length ≤ maxPacket :=
  Topic.request_fits (config.topics.fits index inside name named) msgId

theorem connect_fits (config : Config) :
    2 + (connectMessage config).built.length ≤ maxPacket := by
  have short := config.short
  have limits : maxClientId = 16 ∧ maxPacket = 64 := ⟨rfl, rfl⟩
  rw [built_of_not_subscribe rfl]
  simp only [connectMessage, Message.body, List.length_cons]
  omega

theorem disconnect_fits (duration : BitVec 16) :
    2 + (disconnectMessage duration).built.length ≤ maxPacket := by
  unfold disconnectMessage
  split
  · change 4 ≤ maxPacket
    decide
  · decide

theorem publish_fits {flags : Byte} {topicId msgId : BitVec 16} {data : List Byte}
    (fits : sizeofPublish + data.length ≤ maxPacket) :
    2 + (Message.publish flags topicId msgId data).built.length ≤ maxPacket := by
  have size : sizeofPublish = 7 := rfl
  rw [built_of_not_subscribe rfl]
  simp only [Message.body, List.length_cons]
  omega

/-! ### Every run keeps the invariant -/

section Runs

variable {config : Config} {rules : Rules} {before after : Session}

/-- The request for an entry that has a name. -/
theorem request_eq_some {index : Nat} {name : CString}
    (named : (config.topics.entry index).name = some name) :
    config.request index =
      some ((config.topics.entry index).request (BitVec.ofNat 16 index) name) := by
  rw [Config.request, named]
  rfl

theorem lt_length_of_named {index : Nat} {name : CString} (inside : index ≤ config.topics.length)
    (named : (config.topics.entry index).name = some name) : index < config.topics.length := by
  refine lt_of_le_of_ne inside fun last => ?_
  rw [last, config.topics.ended] at named
  cases named

@[simp] theorem outstanding_toState (session : Session) (state : State) :
    outstanding (mqttsnToState session state).log = none :=
  outstanding_snoc _ _

theorem outstanding_issue (session : Session) (now : Nat → Time) (extra : List Byte)
    (message : Message) (retry : Bool) :
    outstanding (session.issue now extra message retry).log =
      some ⟨session.outgoing now extra message retry, retry, message, 0⟩ := by
  rw [issue_log, outstanding_snoc]
  rfl

/-- A client that issues the message it then waits for. -/
theorem consistent_issue {session : Session} (now : Nat → Time) (extra : List Byte)
    {message : Message} (retry : Bool) (fits : 2 + message.built.length ≤ maxPacket)
    (sends : session.ctx.state ≠ .disconnected ∧ session.ctx.state ≠ .registering)
    (expects : config.Expects session.ctx message) :
    Consistent config (session.issue now extra message retry) := by
  obtain ⟨stale, carried⟩ := issue_carried session now extra message retry fits
  refine consistent_issued (outstanding_issue ..) carried ?_ ?_
  · rw [issue_state]
    exact sends
  · unfold Config.Expects
    rw [issue_state, issue_count]
    exact expects

@[simp] theorem prepare_state (session : Session) (qos : Int) :
    (session.prepare qos).ctx.state = if 0 < qos then .busy else session.ctx.state := by
  unfold Session.prepare
  split <;> rfl

@[simp] theorem prepare_nextId (session : Session) (qos : Int) :
    (session.prepare qos).ctx.nextId = session.ctx.nextId + 1 := by
  unfold Session.prepare
  split <;> rfl

/-- **Every operation keeps the invariant.** -/
theorem op_consistent (op : Op config rules before after) (consistent : Consistent config before) :
    Consistent config after := by
  cases op with
  | resend now armed left =>
      -- only the number of retransmissions of the request changes
      obtain ⟨request, isOutstanding⟩ := consistent.armed armed
      have again : outstanding (before.retransmit now).log =
          some { request with resends := request.resends + 1 } := by
        rw [retransmit_log, outstanding_snoc, isOutstanding]
        rfl
      refine ⟨fun _ => ⟨_, again⟩, ?_, fun idle => absurd (consistent.idle idle) armed,
        consistent.counted, fun waits => ?_⟩
      · intro other isOther
        obtain rfl := Option.some.inj (again.symm.trans isOther)
        obtain ⟨stale, carried⟩ := consistent.carried request isOutstanding
        exact ⟨stale, carried.fits, carried.sent, carried.front, carried.whole⟩
      · obtain ⟨other, isOther, expects⟩ := consistent.waiting waits
        obtain rfl := Option.some.inj (isOutstanding.symm.trans isOther)
        exact ⟨_, again, expects⟩
  | giveUp armed spent may => exact consistent_entered rfl nofun
  | ping now connected =>
      refine consistent_issue now [] false (by decide) ?_ ?_
      · rw [connected]
        decide
      · unfold Config.Expects
        rw [connected]
        trivial
  | receive datagram => exact consistent.emit rfl
  | deliver index data => exact consistent.emit rfl
  | welcome datagram connecting welcomes =>
      refine consistent_entered ?_ fun _ => Nat.zero_le _
      split <;> rfl
  | refuse datagram connecting => exact consistent_entered rfl nofun
  | answer ack datagram known busy request inbound same =>
      have other : before.ctx.msgType ≠ MsgType.publish.code := by
        rw [request]
        rcases known with rfl | rfl <;> decide
      obtain ⟨_, index, -, inside, counted, -⟩ := consistent.requested busy other
      refine consistent_entered rfl fun _ => ?_
      have kept : ((before.emit (.received datagram)).update
          fun ctx => ctx.answer ack (ofList datagram)).ctx.count = before.ctx.count := by
        rw [update_ctx]
        unfold Ctx.answer
        split <;> rfl
      rw [kept, counted]
      exact inside
  | acknowledge datagram busy same may => exact consistent_entered rfl nofun
  | drop datagram may => exact consistent_entered rfl nofun
  | finish registering all => exact consistent_entered rfl nofun
  | request now extra name registering next =>
      have inside := lt_length_of_named (consistent.counted registering) next
      obtain ⟨stale, carried⟩ := issue_carried (mqttsnToState before .busy) now extra
        _ true (request_fits config inside next (BitVec.ofNat 16 before.ctx.count))
      refine consistent_issued (outstanding_issue ..) carried ?_ ?_
      · rw [update_ctx]
        dsimp only
        rw [issue_state]
        exact ⟨nofun, nofun⟩
      · unfold Config.Expects
        rw [update_ctx]
        dsimp only
        rw [issue_state, issue_count]
        exact .inr ⟨before.ctx.count, inside, rfl, request_eq_some next⟩
  | connectAgain active => exact consistent.emit rfl
  | connect now extra idle =>
      exact consistent_issue now extra true (connect_fits config) ⟨nofun, nofun⟩ rfl
  | disconnect now extra duration active may =>
      exact consistent_issue now extra true (disconnect_fits duration) ⟨nofun, nofun⟩ rfl
  | publish now index qos data msgId connected fits may returned =>
      have issued : Consistent config ((before.prepare qos).issue now []
          (before.ctx.publishMessage index qos data) (qos ≠ 0)) := by
        refine consistent_issue now [] _ (publish_fits fits) ?_ ?_
        · rw [prepare_state, connected]
          split <;> decide
        · unfold Config.Expects
          rw [prepare_state, connected]
          by_cases answered : 0 < qos
          · rw [if_pos answered]
            exact .inl rfl
          · rw [if_neg answered]
            trivial
      exact issued.emit rfl
  | setCallbacks cbPublish cbPuback => exact consistent.frame rfl rfl rfl rfl rfl

/-- A session in which nothing has happened yet, whatever is in the buffer. -/
def Session.fresh (buffer : Memory) : Session :=
  { mqttsnCInit with ctx := { mqttsnCInit.ctx with message := buffer } }

theorem fresh_consistent (config : Config) (buffer : Memory) :
    Consistent config (Session.fresh buffer) where
  armed := fun armed => absurd rfl armed
  carried := nofun
  idle := fun _ => rfl
  counted := nofun
  waiting := nofun

theorem init_consistent (config : Config) : Consistent config mqttsnCInit :=
  fresh_consistent config fun _ => 0#8

/-- **The invariant rule, with the invariant of the client.** What holds at the start and is kept by
every operation on a consistent session holds after every run. -/
theorem run_consistent {session : Session} {P : Session → Prop} {inputs : List Input}
    (consistent : Consistent config session) (start : P session)
    (kept : ∀ before after, Op config rules before after → Consistent config before → P before →
      P after)
    (along : session.Along config rules.Admits inputs) :
    Consistent config (session.run config inputs) ∧ P (session.run config inputs) := by
  refine run_invariant (P := fun session => Consistent config session ∧ P session)
    ⟨consistent, start⟩ ?_ along
  rintro before after op ⟨consistent, holds⟩
  exact ⟨op_consistent op consistent, kept before after op consistent holds⟩

end Runs

end TinyHan.Mqttsn
