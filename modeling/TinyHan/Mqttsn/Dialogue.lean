/-
**A session and its gateway, seen from the link.**

An observer of the link between a client and its gateway sees what the client sends and which
datagrams reach it. Both together say which request is pending: the last one of the client, until a
datagram that answers it is delivered (`Dialogue`). An answer is known by its type and its message
identifier (`answers`), and the state of the client has no part in it.

* **`processInbound_answered`**: an answer to the request that a client waits for ends the wait.
* **`Dialogue.step_open`**: so a client that waits has a request pending, in every run.
-/

import TinyHan.Mqttsn.Disconnection
import TinyHan.Mqttsn.Watch

namespace TinyHan.Mqttsn

open TinyHan.Lib

/-! ### Answers -/

instance (datagram : List Byte) (type : MsgType) (size : Nat) :
    Decidable (Inbound datagram type size) := inferInstanceAs (Decidable (_ ∧ _))

/-- The datagram is an acknowledgement of the topic in a request, with its message identifier. -/
def Ack.acknowledges (ack : Ack) (request datagram : List Byte) : Bool :=
  Inbound datagram ack.type ack.size ∧
    raw16 (ofList datagram) ack.msgId = raw16 (ofList request) ack.sentId

/-- The datagram answers a request. -/
def answers (request datagram : List Byte) : Bool :=
  match MsgType.ofCode (request.getD 1 0#8) with
  | some .connect => Inbound datagram .connack sizeofConnack
  | some .register => Ack.regack.acknowledges request datagram
  | some .subscribe => Ack.suback.acknowledges request datagram
  | some .publish => Inbound datagram .puback sizeofPuback ∧
      raw16 (ofList datagram) 4 = raw16 (ofList request) 5
  | _ => false

/-- **The buffer has the identifier of the request that was sent.** -/
theorem Request.Carried.identified {request : Request} {memory : Memory} {stale : Byte}
    (carried : request.Carried memory stale) {place : Nat} {msgId : BitVec 16}
    (isIdentifier : request.message.identifier = some (place, msgId)) :
    raw16 memory place = raw16 (ofList request.bytes) place := by
  have sent : Holds (ofList request.bytes) 0 (header request.message.size request.message.type ++
      request.message.built) := by
    have whole : Holds (ofList request.bytes) 0 request.bytes := window_ofList request.bytes
    rw [carried.sent, Message.wire, Message.rest, ← List.append_assoc] at whole
    rw [carried.sent, Message.wire, Message.rest, ← List.append_assoc]
    exact (holds_append.mp whole).1
  rw [carried.identifier isIdentifier, raw16_identifier sent isIdentifier]

/-! ### An answer ends the wait -/

section Answered

variable {config : Config} {session : Session} {request : Request} {entry : Nat → Topic}
  {datagram : List Byte}

theorem inboundType_eq_some {type : MsgType} (is : inboundType datagram = some type) :
    (sizeofHeader ≤ datagram.length ∧ (datagram.getD 0 0#8).toNat ≤ datagram.length) ∧
      MsgType.ofCode (datagram.getD 1 0#8) = some type := by
  unfold inboundType at is
  split at is
  · next sized => exact ⟨sized, is⟩
  · cases is

section Handlers

variable {buf : Memory} {size : Nat}

theorem connackHandler_rests (long : sizeofConnack ≤ size)
    (connecting : session.ctx.state = .connecting)
    (type : session.ctx.msgType = MsgType.connect.code) :
    (mqttsnConnackHandler session buf size).ctx.state.waits = false := by
  rw [mqttsnConnackHandler, if_neg (Nat.not_lt.mpr long),
    if_neg (not_or.mpr ⟨not_not.mpr connecting, not_not.mpr type⟩)]
  split
  · change (if session.ctx.isRegistered then State.connected else .registering).waits = false
    split <;> rfl
  · rfl

theorem ackHandler_rests {ack : Ack} (long : ack.size ≤ size) (busy : session.ctx.state = .busy)
    (type : session.ctx.msgType = ack.request.code)
    (same : raw16 buf ack.msgId = raw16 session.ctx.message ack.sentId) :
    (mqttsnAckHandler session buf size ack).ctx.state.waits = false := by
  rw [mqttsnAckHandler, if_neg (Nat.not_lt.mpr long),
    if_neg (not_or.mpr ⟨not_not.mpr busy, not_not.mpr type⟩), if_neg (not_not.mpr same)]
  rfl

theorem pubackHandler_rests (long : sizeofPuback ≤ size) (busy : session.ctx.state = .busy)
    (same : raw16 buf 4 = raw16 session.ctx.message 5) :
    (mqttsnPubackHandler session buf size).ctx.state.waits = false := by
  rw [mqttsnPubackHandler, if_neg (Nat.not_lt.mpr long), if_neg (not_not.mpr busy),
    if_neg (not_not.mpr same)]
  rfl

end Handlers

/-- **An answer ends the wait.** A datagram that answers the outstanding request of a client that
waits is taken by it. -/
theorem processInbound_answered (consistent : Consistent config session)
    (waits : session.ctx.state.waits = true)
    (isOutstanding : outstanding session.log = some request)
    (answered : answers request.bytes datagram = true) :
    (session.processInbound entry datagram).ctx.state.waits = false := by
  obtain ⟨stale, carried⟩ := consistent.carried request isOutstanding
  obtain ⟨expected, isExpected, expects⟩ := consistent.waiting waits
  obtain rfl := Option.some.inj (isOutstanding.symm.trans isExpected)
  have type : session.ctx.msgType = request.message.type.code := carried.type
  have code : MsgType.ofCode (request.bytes.getD 1 0#8) = some request.message.type := by
    rw [carried.sent, wire_type, MsgType.ofCode_code]
  simp only [answers, code] at answered
  unfold Config.Expects at expects
  cases state : session.ctx.state with
  | connecting =>
      rw [state] at expects
      dsimp only at expects
      rw [expects] at answered type
      have inbound : Inbound datagram .connack sizeofConnack := of_decide_eq_true answered
      obtain ⟨sized, isConnack⟩ := inboundType_eq_some inbound.1
      rw [Session.processInbound, if_pos sized]
      simp only [isConnack]
      exact connackHandler_rests inbound.2 state type
  | busy =>
      rw [state] at expects
      have topic (ack : Ack) (isType : request.message.type = ack.request) {msgId : BitVec 16}
          (identified : request.message.identifier = some (ack.sentId, msgId))
          (acknowledges : ack.acknowledges request.bytes datagram = true) :
          (mqttsnAckHandler (session.emit (.received datagram)) (ofList datagram) datagram.length
            ack).ctx.state.waits = false := by
        obtain ⟨inbound, same⟩ := of_decide_eq_true acknowledges
        rw [isType] at type
        exact ackHandler_rests inbound.2 state type
          (same.trans (carried.identified identified).symm)
      cases message : request.message with
      | publish flags topicId msgId data =>
          rw [message] at answered
          obtain ⟨inbound, same⟩ := of_decide_eq_true answered
          obtain ⟨sized, isPuback⟩ := inboundType_eq_some inbound.1
          have identified : request.message.identifier = some (5, msgId) := by rw [message]; rfl
          rw [Session.processInbound, if_pos sized]
          simp only [isPuback]
          exact pubackHandler_rests inbound.2 state
            (same.trans (carried.identified identified).symm)
      | register topicId msgId name =>
          rw [message] at answered
          obtain ⟨inbound, -⟩ := of_decide_eq_true answered
          obtain ⟨sized, isRegack⟩ := inboundType_eq_some inbound.1
          rw [Session.processInbound, if_pos sized]
          simp only [isRegack, Ack.regack]
          exact topic .regack (by rw [message]; rfl) (by rw [message]; rfl) answered
      | subscribe flags msgId name =>
          rw [message] at answered
          obtain ⟨inbound, -⟩ := of_decide_eq_true answered
          obtain ⟨sized, isSuback⟩ := inboundType_eq_some inbound.1
          rw [Session.processInbound, if_pos sized]
          simp only [isSuback, Ack.suback]
          exact topic .suback (by rw [message]; rfl) (by rw [message]; rfl) answered
      | connect | pingreq | disconnect =>
          rcases expects with published | ⟨index, -, -, isRequest⟩
          · rw [message] at published
            cases published
          · obtain ⟨name, -, is⟩ := Option.map_eq_some_iff.mp isRequest
            rw [message] at is
            unfold Topic.request at is
            split at is <;> cases is
  | disconnecting =>
      rw [state] at expects
      rw [show request.message.type = _ from expects] at answered
      cases answered
  | disconnected | registering | connected =>
      rw [state] at waits
      cases waits

end Answered

/-! ### Dialogues -/

/-- A session with its times, and what is seen on the link. -/
structure Dialogue where
  watch : Watch
  /-- The last request, until an answer to it is delivered. -/
  pending : Option (List Byte)
  /-- The datagrams that were delivered. -/
  delivered : List (List Byte)

/-- The link of a client is seen from now on. -/
def Watch.linked (watch : Watch) : Dialogue := ⟨watch, none, []⟩

/-- The datagram that a call delivers. -/
def Input.datagram : Input → Option (List Byte)
  | .handler _ datagram => datagram
  | _ => none

/-- A datagram is delivered. -/
def settle (datagram : Option (List Byte)) (pending : Option (List Byte)) : Option (List Byte) :=
  pending.filter fun request => !datagram.any (answers request)

/-- Something is sent. -/
def observePending (pending : Option (List Byte)) : Event → Option (List Byte)
  | .send bytes true _ => some bytes
  | _ => pending

/-- One call. What it delivers comes before the requests that it sends. -/
def Dialogue.step (config : Config) (dialogue : Dialogue) (input : Input) : Dialogue where
  watch := dialogue.watch.step config input
  pending := view observePending (settle input.datagram dialogue.pending)
    ((dialogue.watch.session.step config input).log.drop dialogue.watch.session.log.length)
  delivered := dialogue.delivered ++ input.datagram.toList

/-- The calls of a run. -/
def Dialogue.run (config : Config) (dialogue : Dialogue) (inputs : List Input) : Dialogue :=
  inputs.foldl (Dialogue.step config) dialogue

/-- Every call of the run meets a condition. -/
def Dialogue.Along (config : Config) (cond : Dialogue → Input → Prop) (dialogue : Dialogue) :
    List Input → Prop
  | [] => True
  | input :: inputs => cond dialogue input ∧
      Dialogue.Along config cond (dialogue.step config input) inputs

/-- **The invariant rule.** -/
theorem Dialogue.invariant {config : Config} {cond : Dialogue → Input → Prop}
    {I : Dialogue → Prop} {dialogue : Dialogue} {inputs : List Input} (start : I dialogue)
    (kept : ∀ dialogue input, cond dialogue input → I dialogue → I (dialogue.step config input))
    (along : dialogue.Along config cond inputs) : I (dialogue.run config inputs) := by
  induction inputs generalizing dialogue with
  | nil => exact start
  | cons input inputs ih => exact ih (kept dialogue input along.1 start) along.2

/-! ### A client that waits has a request pending -/

/-- The request that the client waits for is pending. -/
def Open (session : Session) (pending : Option (List Byte)) : Prop :=
  session.ctx.state.waits = true →
    ∃ request, outstanding session.log = some request ∧ pending = some request.bytes

theorem open_of_rests {session : Session} {pending : Option (List Byte)}
    (rests : session.ctx.state.waits = false) : Open session pending :=
  fun waits => absurd (rests.symm.trans waits) (by decide)

theorem settle_none (pending : Option (List Byte)) : settle none pending = pending := by
  cases pending <;> rfl

/-- Without a new request nothing else becomes pending. -/
theorem pending_of_not_asks {events : List Event} (pending : Option (List Byte))
    (unasked : ∀ event ∈ events, event.asks = false) :
    view observePending pending events = pending := by
  induction events with
  | nil => rfl
  | cons event events ih =>
      obtain ⟨asks, rest⟩ := List.forall_mem_cons.mp unasked
      have same : observePending pending event = pending := by
        cases event with
        | send bytes retry message =>
            cases retry with
            | true => cases asks
            | false => rfl
        | _ => rfl
      rw [view, List.foldl_cons, same]
      exact ih rest

theorem not_asks_of_silent {events : List Event} (silent : ∀ event ∈ events, event.airs = false) :
    ∀ event ∈ events, event.asks = false := by
  intro event member
  have quiet := silent event member
  cases event with
  | send | resend => cases quiet
  | _ => rfl

section Open

variable {config : Config} {session after : Session} {pending : Option (List Byte)}
  {now : Nat → Time}

theorem ops_consistent {rules : Rules} (ops : Ops config rules session after)
    (consistent : Consistent config session) : Consistent config after := by
  induction ops with
  | refl => exact consistent
  | tail _ op ih => exact op_consistent op ih

theorem checkRetry_open (isOpen : Open session pending) :
    Open (session.checkRetry now) pending := by
  unfold Session.checkRetry
  split
  · split
    · intro waits
      obtain ⟨request, isOutstanding, isPending⟩ := isOpen waits
      refine ⟨{ request with resends := request.resends + 1 }, ?_, isPending⟩
      rw [retransmit_log, outstanding_snoc, isOutstanding]
      rfl
    · exact open_of_rests rfl
  · exact isOpen

theorem checkPing_open (isOpen : Open session pending) :
    Open (session.checkPing now) pending := by
  unfold Session.checkPing
  split
  · next due =>
    refine open_of_rests ?_
    rw [ping_eq, issue_state, due.1]
    rfl
  · exact isOpen

/-- What the handler does before it looks at the datagram is not a request. -/
theorem checked_not_asks (session : Session) (now : Nat → Time) :
    Adds (fun event => event.asks = false) session
      ((session.checkRetry now).checkPing now) := by
  have retried : Adds (fun event => event.asks = false) session (session.checkRetry now) := by
    unfold Session.checkRetry
    split
    · split
      · exact .one rfl rfl
      · exact .one rfl rfl
    · exact .refl session
  unfold Session.checkPing
  split
  · rw [ping_eq]
    exact retried.trans (.one (issue_log ..) rfl)
  · exact retried

/-- What does not move the client leaves its request outstanding. -/
theorem outstanding_still {log events : List Event}
    (still : ∀ event ∈ events, event.still = true) :
    outstanding (log ++ events) = outstanding log := by
  induction events using List.reverseRecOn with
  | nil => rw [List.append_nil]
  | append_singleton events event ih =>
      have rests := still event (List.mem_append_right _ List.mem_cons_self)
      rw [← List.append_assoc, outstanding_snoc,
        ih fun other member => still other (List.mem_append_left _ member)]
      cases event with
      | received | cbPublish => rfl
      | _ => cases rests

theorem processInbound_open (consistent : Consistent config session) (entry : Nat → Topic)
    (datagram : List Byte) (isOpen : Open session pending) :
    Open (session.processInbound entry datagram) (settle (some datagram) pending) := by
  by_cases waits : session.ctx.state.waits = true
  · obtain ⟨request, isOutstanding, rfl⟩ := isOpen waits
    by_cases answered : answers request.bytes datagram = true
    · exact open_of_rests (processInbound_answered consistent waits isOutstanding answered)
    · have kept : settle (some datagram) (some request.bytes) = some request.bytes := by
        simp [settle, answered]
      rw [kept]
      refine processInbound_elim (P := fun after => Open after (some request.bytes))
        (fun events still _ => ?_) (fun _ => ?_) (fun _ _ _ => ?_) (fun ack _ _ _ _ _ => ?_)
        (fun _ _ => ?_) (fun _ => ?_)
      · exact ⟨request, (outstanding_still still).trans isOutstanding, rfl⟩
      · refine open_of_rests ?_
        change (if session.ctx.isRegistered then State.connected else .registering).waits = false
        split <;> rfl
      all_goals exact open_of_rests rfl
  · have rests := Bool.eq_false_iff.mpr waits
    refine open_of_rests ?_
    refine processInbound_elim (P := fun after => after.ctx.state.waits = false)
      (fun events still => rests) (fun _ => ?_) (fun _ _ _ => rfl) (fun ack _ _ _ _ _ => rfl)
      (fun _ _ => rfl) (fun _ => rfl)
    change (if session.ctx.isRegistered then State.connected else .registering).waits = false
    split <;> rfl

/-- **A request that is sent becomes pending.** -/
theorem driveRegistration_open (entry : Nat → Topic) (now : Nat → Time)
    (isOpen : Open session pending) :
    ∃ events, (session.driveRegistration entry now).log = session.log ++ events ∧
      Open (session.driveRegistration entry now) (view observePending pending events) := by
  unfold Session.driveRegistration
  split
  · dsimp only
    split
    · exact ⟨[.registered, .entered .connected], by simp, open_of_rests rfl⟩
    · rw [request_eq]
      refine ⟨_, by rw [update_log, issue_log, toState_log, List.append_assoc], fun _ => ?_⟩
      exact ⟨_, outstanding_issue .., rfl⟩
  · exact ⟨[], (List.append_nil _).symm, isOpen⟩

end Open

section Calls

variable {config : Config} {dialogue : Dialogue} {input : Input}

theorem handler_open {session : Session} {pending : Option (List Byte)} (now : Nat → Time)
    (consistent : Consistent config session) (datagram : Option (List Byte))
    (isOpen : Open session pending) :
    let after := mqttsnCHandler config.topics.entry session now datagram
    Open after (view observePending (settle datagram pending)
      (after.log.drop session.log.length)) := by
  intro after
  let checked := (session.checkRetry now).checkPing now
  have openChecked : Open checked pending := checkPing_open (checkRetry_open isOpen)
  have ops : Ops config Rules.any session checked :=
    (checkRetry_ops fun _ _ _ => trivial).trans checkPing_ops
  have consistentChecked : Consistent config checked := ops_consistent ops consistent
  obtain ⟨early, checks, unasked⟩ := checked_not_asks session now
  -- the requests of the call are sent behind the datagram
  have drives {processed : Session} {received : List Event}
      (inbound : processed.log = checked.log ++ received)
      (silent : ∀ event ∈ received, event.airs = false)
      (isOpen : Open processed (settle datagram pending)) :
      Open (processed.driveRegistration config.topics.entry now)
        (view observePending (settle datagram pending)
          ((processed.driveRegistration config.topics.entry now).log.drop
            session.log.length)) := by
    obtain ⟨late, grows, isOpen⟩ := driveRegistration_open config.topics.entry now isOpen
    have first := pending_of_not_asks (settle datagram pending) unasked
    have second := pending_of_not_asks (settle datagram pending) (not_asks_of_silent silent)
    rw [view] at first second
    rw [grows, inbound, checks, List.append_assoc, List.append_assoc, List.drop_left, view,
      List.foldl_append, List.foldl_append, first, second]
    exact isOpen
  cases datagram with
  | none =>
      refine drives (List.append_nil _).symm (by simp) ?_
      rw [settle_none]
      exact openChecked
  | some datagram =>
      obtain ⟨received, inbound, silent⟩ :=
        processInbound_silent checked config.topics.entry datagram
      exact drives inbound silent (processInbound_open consistentChecked _ _ openChecked)

/-- A client that begins to wait has its request pending. -/
theorem request_open {session ready : Session} {pending : Option (List Byte)} {early : List Event}
    (grows : ready.log = session.log ++ early) (now : Nat → Time) (extra : List Byte)
    (message : Message) :
    Open (ready.issue now extra message true) (view observePending pending
      ((ready.issue now extra message true).log.drop session.log.length)) := by
  refine fun _ => ⟨_, outstanding_issue .., ?_⟩
  rw [issue_log, grows, List.append_assoc, List.drop_left, view_snoc]
  rfl

theorem publish_open {session : Session} {pending : Option (List Byte)} (now : Nat → Time)
    (index : Fin maxClientTopics) (qos : Int) (data : List Byte)
    (connected : session.ctx.state = .connected) :
    Open (session.publish now index qos data).2 (view observePending pending
      ((session.publish now index qos data).2.log.drop session.log.length)) := by
  rw [publish_eq]
  by_cases answered : 0 < qos
  · have retry : decide (qos ≠ 0) = true := decide_eq_true (ne_of_gt answered)
    have prepared : (session.prepare qos).log = session.log ++ [.entered .busy] := by
      rw [Session.prepare, if_pos answered]
      rfl
    rw [retry]
    let issued := (session.prepare qos).issue now [] (session.ctx.publishMessage index qos data)
      true
    have isOpen : Open issued (view observePending pending
        (issued.log.drop session.log.length)) := request_open prepared now _ _
    have long : session.log.length ≤ issued.log.length := by
      rw [issue_log, prepared]
      simp
    intro waits
    obtain ⟨request, isOutstanding, isPending⟩ := isOpen waits
    refine ⟨request, ?_, ?_⟩
    · rw [emit_log, outstanding_snoc, isOutstanding]
      rfl
    · rw [emit_log, List.drop_append_of_le_length long, view_snoc, isPending]
      rfl
  · refine open_of_rests ?_
    change ((session.prepare qos).issue _ _ _ _).ctx.state.waits = false
    rw [issue_state, prepare_state, if_neg answered, connected]
    rfl

/-- **A client that waits has a request pending**, after every call. -/
theorem Dialogue.step_open (consistent : Consistent config dialogue.watch.session)
    (isOpen : Open dialogue.watch.session dialogue.pending) :
    Open (dialogue.step config input).watch.session (dialogue.step config input).pending := by
  change Open (dialogue.watch.step config input).session _
  rw [Watch.step_session]
  have same : Open dialogue.watch.session (view observePending
      (settle none dialogue.pending)
      (dialogue.watch.session.log.drop dialogue.watch.session.log.length)) := by
    rw [settle_none, List.drop_length]
    exact isOpen
  cases input with
  | handler now datagram => exact handler_open now consistent datagram isOpen
  | connect now =>
      by_cases idle : dialogue.watch.session.ctx.state = .disconnected
      · have connects := connect_eq config dialogue.watch.session now idle
        have grows : (mqttsnToState (dialogue.watch.session.emit .connect) .connecting).log =
            dialogue.watch.session.log ++ [.connect, .entered .connecting] := by simp
        rw [Dialogue.step, Session.step, connects]
        exact request_open grows now _ _
      · have refused : mqttsnCConnect config dialogue.watch.session now =
            dialogue.watch.session.emit .connect := if_pos idle
        rw [Dialogue.step, Session.step, refused, emit_log, List.drop_left]
        intro waits
        obtain ⟨request, isOutstanding, isPending⟩ := isOpen waits
        refine ⟨request, ?_, (settle_none _).trans isPending⟩
        rw [emit_log, outstanding_snoc, isOutstanding]
        rfl
  | disconnect now duration =>
      by_cases idle : dialogue.watch.session.ctx.state = .disconnected
      · have refused : mqttsnCDisconnect dialogue.watch.session now duration =
            dialogue.watch.session := if_pos idle
        rw [Dialogue.step, Session.step, refused]
        exact same
      · have disconnects := disconnect_eq dialogue.watch.session now duration idle
        have grows : (mqttsnToState (dialogue.watch.session.emit .disconnect) .disconnecting).log =
            dialogue.watch.session.log ++ [.disconnect, .entered .disconnecting] := by simp
        rw [Dialogue.step, Session.step, disconnects]
        exact request_open grows now _ _
  | publish now index qos data =>
      rw [Dialogue.step, Session.step, mqttsnCPublish]
      split
      · exact same
      · next connected =>
        split
        · exact same
        · exact publish_open now index qos data (not_not.mp connected)
  | setPublishCallback cb => exact same
  | setPubackCallback cb => exact same

end Calls

end TinyHan.Mqttsn
