/-
**A prompt gateway keeps a session.**

From `mqttsn_c_connect` on, a client connects, registers the entries of its topic table one after
the other and publishes. The messages between the client and its gateway may be lost, delayed,
repeated and reordered. What is assumed of the gateway:

* `Grants`: it accepts what the client asks for. It does not refuse a CONNECT or a topic, it does
  not send DISCONNECT, and it sends PUBACK only when it has had a PUBLISH.
* `Attended`: no request is pending for `(N_RETRY + 1) * T_RETRY` seconds, counted from when it was
  first sent. A request is pending until a datagram that answers it is delivered (`Dialogue`).

**`session_established`**: the client is then never Disconnected, and it has registered all its `n`
topics `n + 1` such periods after the connect call at the latest, each with the identifier of an
acknowledgement that was delivered for it. The invariant is `Alive`: what a client without its
topics has to do next, and by when (`Joining`).
-/

import TinyHan.Mqttsn.Dialogue

namespace TinyHan.Mqttsn

open TinyHan.Lib Relation

/-! ### The gateway -/

/-- What an event puts on the air. -/
def Event.bytes : Event → Option (List Byte)
  | .send bytes _ _ => some bytes
  | .resend bytes => some bytes
  | _ => none

/-- What was put on the air. -/
def aired (log : List Event) : List (List Byte) := log.filterMap Event.bytes

/-- A gateway that has had some messages at most may send a datagram. -/
structure Grants (messages : List (List Byte)) (datagram : List Byte) : Prop where
  connack : Inbound datagram .connack sizeofConnack → ofList datagram 2 = rcAccepted
  topic : ∀ ack : Ack, ack = .regack ∨ ack = .suback → Inbound datagram ack.type ack.size →
    ofList datagram ack.returnCode = rcAccepted
  puback : Inbound datagram .puback sizeofPuback →
    ∃ message ∈ messages, message.getD 1 0#8 = MsgType.publish.code
  disconnect : inboundType datagram ≠ some .disconnect

/-- How long a request is retransmitted, and waited for. -/
def patience : Nat := (nRetry + 1) * retryPeriod

/-- A call after the connect call, which is the one that logged the event number `base`: time
passes, the application does not disconnect, no request has been pending for too long, and the
gateway may send the inbound message. -/
structure Attended (base : Nat) (dialogue : Dialogue) (input : Input) : Prop where
  ticks : dialogue.watch.Ticks input
  stays : ∀ now duration, input ≠ .disconnect now duration
  prompt : dialogue.pending.isSome = true → ∀ now datagram, input = .handler now datagram →
    (now 0).toNat < dialogue.watch.times.since + patience
  grants : ∀ now datagram, input = .handler now (some datagram) →
    Grants (aired (dialogue.watch.session.log.drop base)) datagram

/-! ### The invariant -/

/-- How many entries of the topic table have been answered. -/
def Config.answered (config : Config) (ctx : Ctx) : Nat :=
  if ctx.isRegistered then config.topics.length
  else match ctx.state with
    | .connecting => 0
    | .busy => ctx.count - 1
    | _ => ctx.count

/-- How many requests were made behind the CONNECT. -/
def Ctx.requests (ctx : Ctx) : Nat := if ctx.state = .connecting then 0 else ctx.count

/-- The topic identifier of an entry is that of an acknowledgement for it, which was delivered. -/
def Config.Obtained (config : Config) (delivered : List (List Byte))
    (topicIds : Fin maxClientTopics → BitVec 16) (index : Fin maxClientTopics) : Prop :=
  ∃ datagram ∈ delivered, (config.ackOf index).Answers datagram (BitVec.ofNat 16 index) ∧
    topicIds index = htons (raw16 (ofList datagram) (config.ackOf index).topicId)

section Invariant

variable (config : Config) (base start : Nat) (fresh : Prop) (delivered : List (List Byte))

/-- A client that has not registered its topics yet. -/
structure Joining (session : Session) (times : Times) : Prop where
  apart : session.ctx.state ≠ .connected
  asked : session.ctx.msgType ≠ MsgType.publish.code
  pace : times.since ≤ start + session.ctx.requests * patience
  quiet : ∀ message ∈ aired (session.log.drop base), message.getD 1 0#8 ≠ MsgType.publish.code

/-- A client that is attended by its gateway, from the connect call at `start` on. -/
structure Alive (session : Session) (times : Times) : Prop where
  active : session.ctx.state ≠ .disconnected ∧ session.ctx.state ≠ .disconnecting
  long : base ≤ session.log.length
  joining : session.ctx.isRegistered = false → Joining base start session times
  settled : session.ctx.isRegistered = true → session.ctx.state ≠ .registering
  publishes : session.ctx.isRegistered = true → session.ctx.state = .busy →
    session.ctx.msgType = MsgType.publish.code
  named : fresh → ∀ index, index.val < config.answered session.ctx →
    config.Obtained delivered session.ctx.topicIds index

/-- Such a client in a call of the handler, in which a request is not too late. -/
structure Underway (now : Nat → Time) (session : Session) (times : Times) : Prop where
  timely : Timely session times
  consistent : Consistent config session
  alive : Alive config base start fresh delivered session times
  hurry : session.ctx.state ≠ .connected → (now 0).toNat < times.since + patience

end Invariant

section Kept

variable {config : Config} {base start : Nat} {fresh : Prop} {delivered : List (List Byte)}
  {now : Nat → Time} {session after : Session} {times : Times}

/-- A stage of the handler, with what is left to prove of it. -/
theorem Stage.underway (timely : Stage now handlerReading Timely session after)
    (ops : Ops config Rules.any session after)
    (keeps : ∀ events, after.log = session.log ++ events → ∀ times,
      Underway config base start fresh delivered now session times →
      Alive config base start fresh delivered after (times.after now handlerReading events) ∧
        (after.ctx.state ≠ .connected →
          (now 0).toNat < (times.after now handlerReading events).since + patience)) :
    Stage now handlerReading (Underway config base start fresh delivered now) session after := by
  obtain ⟨events, grows, kept⟩ := timely
  refine ⟨events, grows, fun times underway => ?_⟩
  obtain ⟨alive, hurry⟩ := keeps events grows times underway
  exact ⟨kept times underway.timely, ops_consistent ops underway.consistent, alive, hurry⟩

theorem aired_append (log : List Event) (events : List Event) (long : base ≤ log.length) :
    aired ((log ++ events).drop base) = aired (log.drop base) ++ aired events := by
  rw [List.drop_append_of_le_length long, aired, List.filterMap_append]
  rfl

theorem aired_silent {events : List Event} (silent : ∀ event ∈ events, event.airs = false) :
    aired events = [] := by
  refine List.filterMap_eq_nil_iff.mpr fun event member => ?_
  have silent := silent event member
  cases event with
  | send | resend => cases silent
  | _ => rfl

/-- What leaves the state, the counter and the registry alone, and sends no PUBLISH. -/
theorem Alive.frame {later : Times} {events : List Event}
    (alive : Alive config base start fresh delivered session times)
    (sameState : after.ctx.state = session.ctx.state)
    (sameCount : after.ctx.count = session.ctx.count)
    (sameFlag : after.ctx.isRegistered = session.ctx.isRegistered)
    (sameIds : after.ctx.topicIds = session.ctx.topicIds)
    (sameType : session.ctx.state ≠ .connected → after.ctx.msgType = session.ctx.msgType)
    (sameSince : later.since = times.since) (grows : after.log = session.log ++ events)
    (other : session.ctx.isRegistered = false → ∀ message ∈ aired events,
      message.getD 1 0#8 ≠ MsgType.publish.code) :
    Alive config base start fresh delivered after later where
  active := by
    rw [sameState]
    exact alive.active
  long := by
    rw [grows, List.length_append]
    exact alive.long.trans (Nat.le_add_right _ _)
  joining := by
    intro unregistered
    rw [sameFlag] at unregistered
    obtain ⟨apart, asked, pace, quiet⟩ := alive.joining unregistered
    refine ⟨by rwa [sameState], by rwa [sameType apart], ?_, ?_⟩
    · rw [Ctx.requests, sameState, sameCount, sameSince]
      exact pace
    · rw [grows, aired_append _ _ alive.long]
      intro message member
      rcases List.mem_append.mp member with earlier | new
      · exact quiet message earlier
      · exact other unregistered message new
  settled := by
    rw [sameState, sameFlag]
    exact alive.settled
  publishes := by
    rw [sameState, sameFlag]
    intro registered busy
    rw [sameType (by rw [busy]; decide)]
    exact alive.publishes registered busy
  named := by
    unfold Config.answered
    rw [sameState, sameCount, sameFlag, sameIds]
    exact alive.named

/-- What is delivered later does no harm. -/
theorem Alive.delivers {more : List (List Byte)}
    (alive : Alive config base start fresh delivered session times) (grows : delivered ⊆ more) :
    Alive config base start fresh more session times :=
  { alive with
    named := fun isFresh index inside =>
      (alive.named isFresh index inside).imp fun _ taken => ⟨grows taken.1, taken.2⟩ }

/-! ### The stages of the handler -/

theorem checkRetry_underway (steady : Steady now) :
    Stage now handlerReading (Underway config base start fresh delivered now) session
      (session.checkRetry now) := by
  refine .underway (checkRetry_timely steady) (checkRetry_ops fun _ _ _ => trivial) ?_
  rintro events grows times ⟨timely, consistent, alive, hurry⟩
  by_cases expired : session.ctx.expired now
  · have waits : session.ctx.state.waits = true := by
      by_contra rests
      exact expired.1 (timely.rests (Bool.eq_false_iff.mpr rests))
    have apart : session.ctx.state ≠ .connected := by
      intro connected
      rw [connected] at waits
      cases waits
    -- the request is not old enough for the last retry to have expired
    have left : session.ctx.nRetries ≠ 0 := by
      intro spent
      have due : session.ctx.tRetry.toNat ≤ (now 0).toNat := expired.2
      have patient := timely.patient waits
      have soon := hurry apart
      rw [spent, Nat.zero_mul, Nat.add_zero] at patient
      rw [patience] at soon
      omega
    have again : session.checkRetry now = session.retransmit now := by
      rw [Session.checkRetry, if_pos expired, if_pos left]
    rw [again] at grows ⊢
    obtain rfl : [.resend session.resent] = events := List.append_cancel_left grows
    refine ⟨alive.frame rfl rfl rfl rfl (fun _ => rfl) rfl grows ?_, hurry⟩
    intro unregistered message member
    obtain rfl : message = session.resent := List.mem_singleton.mp member
    obtain ⟨request, isOutstanding⟩ := consistent.armed expired.1
    obtain ⟨stale, carried⟩ := consistent.carried request isOutstanding
    obtain ⟨other, resent, -⟩ := carried.resent
    rw [resent, wire_type, dup_type, ← carried.type]
    exact (alive.joining unregistered).asked
  · have same : session.checkRetry now = session := if_neg expired
    rw [same] at grows ⊢
    obtain rfl : [] = events := List.append_cancel_left ((List.append_nil _).trans grows)
    exact ⟨alive, hurry⟩

theorem checkPing_underway (steady : Steady now) :
    Stage now handlerReading (Underway config base start fresh delivered now) session
      (session.checkPing now) := by
  refine .underway (checkPing_timely steady) checkPing_ops ?_
  rintro events grows times ⟨timely, consistent, alive, hurry⟩
  by_cases due : session.ctx.state = .connected ∧ session.ctx.nextPing ≤ now 3
  · have pings : session.checkPing now =
        session.issue (fun call => now (4 + call)) [] (.pingreq []) false := by
      rw [← ping_eq, Session.checkPing, if_pos due]
    rw [pings] at grows ⊢
    obtain rfl : [.send _ false (.pingreq [])] = events :=
      List.append_cancel_left ((issue_log ..).symm.trans grows)
    refine ⟨alive.frame (issue_state ..) (issue_count ..) (issue_isRegistered ..)
      (issue_topicIds ..) (fun apart => absurd due.1 apart) rfl grows ?_, ?_⟩
    · intro unregistered
      exact absurd due.1 (alive.joining unregistered).apart
    · rw [issue_state]
      exact fun apart => absurd due.1 apart
  · have same : session.checkPing now = session := if_neg due
    rw [same] at grows ⊢
    obtain rfl : [] = events := List.append_cancel_left ((List.append_nil _).trans grows)
    exact ⟨alive, hurry⟩

/-- **The client moves on**: to the next registration, or to Connected if it has its topics. -/
theorem Alive.moved {moved : Session} {state : State} {events : List Event}
    (alive : Alive config base start fresh delivered session times) (silent : aired events = [])
    (grows : (mqttsnToState moved state).log = session.log ++ events)
    (goes : state = if session.ctx.isRegistered then .connected else .registering)
    (sameFlag : moved.ctx.isRegistered = session.ctx.isRegistered)
    (sameMessage : moved.ctx.message = session.ctx.message)
    (pace : session.ctx.isRegistered = false → times.since ≤ start + moved.ctx.count * patience)
    (named : fresh → ∀ index, index.val <
      (if session.ctx.isRegistered then config.topics.length else moved.ctx.count) →
      config.Obtained delivered moved.ctx.topicIds index) :
    Alive config base start fresh delivered (mqttsnToState moved state) times := by
  have isFlag : (mqttsnToState moved state).ctx.isRegistered = session.ctx.isRegistered := sameFlag
  have isState : (mqttsnToState moved state).ctx.state = state := rfl
  refine ⟨?_, ?_, fun unregistered => ?_, fun registered => ?_, fun registered => ?_, ?_⟩
  · rw [isState, goes]
    split <;> decide
  · rw [grows, List.length_append]
    exact alive.long.trans (Nat.le_add_right _ _)
  · rw [isFlag] at unregistered
    rw [unregistered] at goes
    subst goes
    refine ⟨by rintro ⟨⟩, ?_, pace unregistered, ?_⟩
    · rw [Ctx.msgType, show (mqttsnToState moved _).ctx.message = _ from sameMessage]
      exact (alive.joining unregistered).asked
    · rw [grows, aired_append _ _ alive.long, silent, List.append_nil]
      exact (alive.joining unregistered).quiet
  · rw [isFlag] at registered
    rw [isState, goes, if_pos registered]
    decide
  · rw [isFlag] at registered
    rw [isState, goes, if_pos registered]
    rintro ⟨⟩
  · unfold Config.answered
    rw [isFlag, isState, goes]
    intro isFresh index inside
    refine named isFresh index ?_
    split at inside
    · next registered =>
      rw [if_pos registered]
      exact inside
    · next unregistered =>
      rw [if_neg unregistered]
      exact inside

/-- **An acknowledgement of a topic** that is taken is for the entry in front of `count`. -/
theorem Alive.answered {datagram : List Byte} {ack : Ack}
    (alive : Alive config base start fresh delivered session times)
    (consistent : Consistent config session)
    (known : ack = .regack ∨ ack = .suback) (busy : session.ctx.state = .busy)
    (type : session.ctx.msgType = ack.request.code) (inbound : Inbound datagram ack.type ack.size)
    (same : raw16 (ofList datagram) ack.msgId = raw16 session.ctx.message ack.sentId)
    (accepted : ofList datagram ack.returnCode = rcAccepted) (isDelivered : datagram ∈ delivered)
    (unregistered : session.ctx.isRegistered = false) (isFresh : fresh)
    {index : Fin maxClientTopics} (inside : index.val < session.ctx.count) :
    config.Obtained delivered (session.ctx.answer ack (ofList datagram)).topicIds index := by
  obtain ⟨entry, counted, rfl, taken⟩ := consistent.answered known busy type inbound same
  have small : (BitVec.ofNat 16 entry).toNat = entry := by
    have few := config.topics.few
    have topics : maxClientTopics = 16 := rfl
    have inside := taken.inside
    rw [BitVec.toNat_ofNat]
    omega
  by_cases here : index.val = entry
  · refine ⟨datagram, isDelivered, here ▸ taken.answers, ?_⟩
    rw [Ctx.answer, if_pos accepted, Ctx.setTopicId, taken.answers.2, small, here]
    exact if_pos here
  · have earlier : index.val < config.answered session.ctx := by
      rw [Config.answered, unregistered, busy]
      change index.val < session.ctx.count - 1
      omega
    have same : (session.ctx.answer (config.ackOf entry) (ofList datagram)).topicIds index =
        session.ctx.topicIds index := by
      rw [Ctx.answer, if_pos accepted, Ctx.setTopicId, taken.answers.2, small]
      exact if_neg here
    rw [Config.Obtained, same]
    exact alive.named isFresh index earlier

theorem processInbound_underway (entry : Nat → Topic) {datagram : List Byte}
    (grants : Grants (aired (session.log.drop base)) datagram)
    (isDelivered : datagram ∈ delivered) :
    Stage now handlerReading (Underway config base start fresh delivered now) session
      (session.processInbound entry datagram) := by
  refine .underway (processInbound_timely entry datagram)
    (processInbound_ops fun _ => ⟨fun _ _ => trivial, fun _ => trivial⟩) ?_
  intro events grows times underway
  have silent : ∀ event ∈ events, event.airs = false :=
    (processInbound_silent session entry datagram).each grows
  rw [Times.after_silent silent]
  have alive := underway.alive
  revert grows
  refine processInbound_elim (P := fun after => after.log = session.log ++ events →
    Alive config base start fresh delivered after times ∧
      (after.ctx.state ≠ .connected → (now 0).toNat < times.since + patience))
    ?_ ?_ ?_ ?_ ?_ ?_
  · intro more still grows
    obtain rfl := List.append_cancel_left grows
    refine ⟨underway.alive.frame rfl rfl rfl rfl (fun _ => rfl) rfl rfl fun _ => ?_, underway.hurry⟩
    rw [aired_silent silent]
    exact nofun
  · intro connecting grows
    refine ⟨alive.moved (aired_silent silent) grows rfl rfl rfl (fun unregistered => ?_)
      fun isFresh index inside => ?_, fun _ => underway.hurry (by rw [connecting]; decide)⟩
    · have pace := (alive.joining unregistered).pace
      rw [Ctx.requests, if_pos connecting] at pace
      exact pace
    · split at inside
      · next registered =>
        refine alive.named isFresh index ?_
        rw [Config.answered, if_pos registered]
        exact inside
      · exact absurd inside (Nat.not_lt_zero _)
  · intro connecting inbound refused
    exact absurd (grants.connack inbound) refused
  · intro ack known busy type inbound same grows
    have unregistered : session.ctx.isRegistered = false := by
      refine Bool.eq_false_iff.mpr fun registered => ?_
      rw [alive.publishes registered busy] at type
      rcases known with rfl | rfl <;> cases type
    have accepted := grants.topic ack known inbound
    obtain ⟨sameCount, sameFlag⟩ := answer_ctx session.ctx ack (ofList datagram)
    have sameMessage : (session.ctx.answer ack (ofList datagram)).message =
        session.ctx.message := by
      unfold Ctx.answer
      split <;> rfl
    refine ⟨alive.moved (aired_silent silent) grows (by rw [unregistered]; rfl) sameFlag sameMessage
      (fun _ => ?_) fun isFresh index inside => ?_,
      fun _ => underway.hurry (by rw [busy]; decide)⟩
    · have pace := (alive.joining unregistered).pace
      rw [Ctx.requests, if_neg (by rw [busy]; decide), ← sameCount] at pace
      exact pace
    · rw [unregistered] at inside
      refine alive.answered underway.consistent known busy type inbound same accepted isDelivered
        unregistered isFresh ?_
      rw [← sameCount]
      exact inside
  · intro busy inbound grows
    have registered : session.ctx.isRegistered = true := by
      by_contra other
      have unregistered := Bool.eq_false_iff.mpr other
      obtain ⟨message, member, publishes⟩ := grants.puback inbound
      exact (alive.joining unregistered).quiet message member publishes
    have sameCtx := acknowledge_ctx (session.emit (.received datagram)) (ofList datagram)
    refine ⟨alive.moved (aired_silent silent) grows (if_pos registered).symm
      (congrArg Ctx.isRegistered sameCtx) (congrArg Ctx.message sameCtx)
      (fun unregistered => absurd (registered.symm.trans unregistered) (by decide))
      fun isFresh index inside => ?_, fun apart => absurd rfl apart⟩
    rw [sameCtx]
    refine alive.named isFresh index ?_
    rw [if_pos registered] at inside
    rw [Config.answered, if_pos registered]
    exact inside
  · intro disconnect
    exact absurd disconnect grants.disconnect

/-- The request for an entry is not a PUBLISH. -/
theorem Topic.request_not_publish (topic : Topic) (index : BitVec 16) (name : CString) :
    (topic.request index name).type.code ≠ MsgType.publish.code := by
  refine fun same => absurd (MsgType.code_injective same) ?_
  unfold Topic.request
  split <;> simp [Message.type]

/-- **The table is at its end.** -/
theorem Alive.finish (alive : Alive config base start fresh delivered session times)
    (consistent : Consistent config session) (registering : session.ctx.state = .registering)
    (all : (config.topics.entry session.ctx.count).name = none) {events : List Event}
    (grows : (mqttsnToState ((session.update fun ctx =>
      { ctx with count := 0, isRegistered := true }).emit .registered) .connected).log =
        session.log ++ events) :
    Alive config base start fresh delivered (mqttsnToState ((session.update fun ctx =>
      { ctx with count := 0, isRegistered := true }).emit .registered) .connected) times := by
  have unregistered : session.ctx.isRegistered = false :=
    Bool.eq_false_iff.mpr fun registered => alive.settled registered registering
  have whole : session.ctx.count = config.topics.length := by
    refine le_antisymm (consistent.counted registering) (Nat.le_of_not_lt fun inside => ?_)
    have named := config.topics.named session.ctx.count inside
    rw [all] at named
    cases named
  refine ⟨⟨nofun, nofun⟩, ?_, nofun, fun _ => nofun, fun _ => nofun, fun isFresh index inside => ?_⟩
  · rw [grows, List.length_append]
    exact alive.long.trans (Nat.le_add_right _ _)
  · refine alive.named isFresh index ?_
    rw [Config.answered, unregistered, registering]
    change index.val < session.ctx.count
    rw [whole]
    exact inside

/-- **The next entry of the table is requested**, before the time for the last one is over. -/
theorem Underway.request (underway : Underway config base start fresh delivered now session times)
    (registering : session.ctx.state = .registering) {name : CString}
    (next : (config.topics.entry session.ctx.count).name = some name) {events : List Event}
    (readings : Nat → Time) (extra : List Byte)
    (grows : (((mqttsnToState session .busy).issue readings extra
      ((config.topics.entry session.ctx.count).request (BitVec.ofNat 16 session.ctx.count) name)
      true).update fun ctx => { ctx with count := ctx.count + 1 }).log = session.log ++ events) :
    Alive config base start fresh delivered (((mqttsnToState session .busy).issue readings extra
      ((config.topics.entry session.ctx.count).request (BitVec.ofNat 16 session.ctx.count) name)
      true).update fun ctx => { ctx with count := ctx.count + 1 })
      (times.after now handlerReading events) ∧
      (times.after now handlerReading events).since = (now 0).toNat := by
  obtain ⟨timely, consistent, alive, hurry⟩ := underway
  have unregistered : session.ctx.isRegistered = false :=
    Bool.eq_false_iff.mpr fun registered => alive.settled registered registering
  let message := (config.topics.entry session.ctx.count).request
    (BitVec.ofNat 16 session.ctx.count) name
  let issued := (mqttsnToState session .busy).issue readings extra message true
  have isEvents : [.entered .busy,
      .send ((mqttsnToState session .busy).outgoing readings extra message true) true message] =
      events := by
    rw [update_log, issue_log, toState_log, List.append_assoc] at grows
    exact List.append_cancel_left grows
  have inside := lt_length_of_named (consistent.counted registering) next
  obtain ⟨stale, carried⟩ := issue_carried (mqttsnToState session .busy) readings extra message true
    (request_fits config inside next _)
  have isState : issued.ctx.state = .busy := issue_state ..
  have isCount : issued.ctx.count = session.ctx.count := issue_count ..
  have isFlag : issued.ctx.isRegistered = false := (issue_isRegistered ..).trans unregistered
  have isIds : issued.ctx.topicIds = session.ctx.topicIds := issue_topicIds ..
  obtain ⟨apart, asked, pace, quiet⟩ := alive.joining unregistered
  have soon := hurry apart
  have other : message.type.code ≠ MsgType.publish.code :=
    Topic.request_not_publish _ _ _
  subst isEvents
  refine ⟨⟨?_, ?_, fun _ => ⟨?_, ?_, ?_, ?_⟩, fun registered => ?_, fun registered => ?_,
    fun isFresh index inner => ?_⟩, rfl⟩
  · change issued.ctx.state ≠ _ ∧ issued.ctx.state ≠ _
    rw [isState]
    exact ⟨nofun, nofun⟩
  · rw [grows, List.length_append]
    exact alive.long.trans (Nat.le_add_right _ _)
  · change issued.ctx.state ≠ _
    rw [isState]
    exact nofun
  · change issued.ctx.message 1 ≠ _
    rw [carried.type]
    exact other
  · change (now 0).toNat ≤ start +
      (if issued.ctx.state = .connecting then 0 else issued.ctx.count + 1) * patience
    rw [Ctx.requests, if_neg (by rw [registering]; decide)] at pace
    rw [isState, isCount, if_neg (by decide), Nat.succ_mul]
    omega
  · rw [grows, aired_append _ _ alive.long]
    intro sent member
    rcases List.mem_append.mp member with earlier | new
    · exact quiet sent earlier
    · obtain rfl := List.mem_singleton.mp new
      rw [show (mqttsnToState session .busy).outgoing _ _ _ _ = _ from carried.sent, wire_type]
      exact other
  · exact absurd (isFlag.symm.trans registered) (by decide)
  · exact absurd (isFlag.symm.trans registered) (by decide)
  · change config.Obtained delivered issued.ctx.topicIds index
    rw [isIds]
    refine alive.named isFresh index ?_
    have inner : index.val < if issued.ctx.isRegistered then config.topics.length else
        match issued.ctx.state with
        | .connecting => 0
        | .busy => issued.ctx.count + 1 - 1
        | _ => issued.ctx.count + 1 := inner
    rw [isFlag, isState, isCount] at inner
    rw [Config.answered, unregistered, registering]
    exact inner

theorem driveRegistration_underway (steady : Steady now) :
    Stage now handlerReading (Underway config base start fresh delivered now) session
      (session.driveRegistration config.topics.entry now) := by
  refine .underway (driveRegistration_timely steady config.topics.entry) driveRegistration_ops ?_
  intro events grows times underway
  by_cases registering : session.ctx.state = .registering
  · cases next : (config.topics.entry session.ctx.count).name with
    | none =>
        have finishes : session.driveRegistration config.topics.entry now =
            mqttsnToState ((session.update fun ctx =>
              { ctx with count := 0, isRegistered := true }).emit .registered) .connected := by
          rw [Session.driveRegistration, if_pos registering]
          simp only [next]
        rw [finishes] at grows ⊢
        have alive := underway.alive.finish underway.consistent registering next grows
        rw [toState_log, emit_log, update_log, List.append_assoc] at grows
        obtain rfl := List.append_cancel_left grows
        exact ⟨alive, fun apart => absurd rfl apart⟩
    | some name =>
        have requests : session.driveRegistration config.topics.entry now =
            session.request (fun call => now (6 + call))
              (config.topics.entry session.ctx.count) name := by
          rw [Session.driveRegistration, if_pos registering]
          simp only [next]
        rw [requests, request_eq] at grows ⊢
        obtain ⟨alive, since⟩ := underway.request registering next _ _ grows
        exact ⟨alive, fun _ => by rw [since]; exact Nat.lt_add_of_pos_right (by decide)⟩
  · have same : session.driveRegistration config.topics.entry now = session := if_neg registering
    rw [same] at grows ⊢
    obtain rfl : [] = events := List.append_cancel_left ((List.append_nil _).trans grows)
    exact ⟨underway.alive, underway.hurry⟩

theorem Grants.mono {messages more : List (List Byte)} {datagram : List Byte}
    (grants : Grants messages datagram) (grows : messages ⊆ more) : Grants more datagram where
  connack := grants.connack
  topic := grants.topic
  puback inbound := (grants.puback inbound).imp fun _ had => ⟨grows had.1, had.2⟩
  disconnect := grants.disconnect

theorem handler_underway (steady : Steady now) (long : base ≤ session.log.length)
    {datagram : Option (List Byte)}
    (grants : ∀ inbound ∈ datagram, Grants (aired (session.log.drop base)) inbound)
    (delivers : ∀ inbound ∈ datagram, inbound ∈ delivered) :
    Stage now handlerReading (Underway config base start fresh delivered now) session
      (mqttsnCHandler config.topics.entry session now datagram) := by
  have checks : Stage now handlerReading (Underway config base start fresh delivered now) session
      ((session.checkRetry now).checkPing now) :=
    (checkRetry_underway steady).trans (checkPing_underway steady)
  refine checks.trans (Stage.trans ?_ (driveRegistration_underway steady))
  cases datagram with
  | none => exact .refl
  | some datagram =>
      obtain ⟨events, grows, -⟩ := checks
      refine processInbound_underway config.topics.entry ((grants datagram rfl).mono ?_)
        (delivers datagram rfl)
      rw [grows, aired_append _ _ long]
      exact List.subset_append_left _ _

/-! ### Calls -/

/-- A client that publishes has its topics. -/
theorem publish_alive (steady : Steady now) (index : Fin maxClientTopics) {qos : Int}
    (standard : qos = 0 ∨ qos = 1) {data : List Byte} (connected : session.ctx.state = .connected)
    (fits : sizeofPublish + data.length ≤ maxPacket) :
    Stage now (fun _ => 1) (Alive config base start fresh delivered) session
      (session.publish now index qos data).2 := by
  obtain ⟨events, grows, -⟩ := publish_timely steady index standard data connected
  refine ⟨events, grows, fun times alive => ?_⟩
  have registered : session.ctx.isRegistered = true := by
    by_contra other
    exact (alive.joining (Bool.eq_false_iff.mpr other)).apart connected
  let issued := (session.prepare qos).issue now []
    (session.ctx.publishMessage index qos data) (qos ≠ 0)
  have isCtx : (session.publish now index qos data).2.ctx = issued.ctx := by
    rw [publish_eq]
    rfl
  have isFlag : issued.ctx.isRegistered = true :=
    ((issue_isRegistered ..).trans (prepare_isRegistered session qos)).trans registered
  have isState : issued.ctx.state = if 0 < qos then .busy else .connected := by
    rw [issue_state, prepare_state, connected]
  have isIds : issued.ctx.topicIds = session.ctx.topicIds :=
    (issue_topicIds ..).trans (prepare_topicIds session qos)
  obtain ⟨stale, carried⟩ := issue_carried (session.prepare qos) now []
    (session.ctx.publishMessage index qos data) (qos ≠ 0) (publish_fits fits)
  refine ⟨?_, ?_, fun unregistered => ?_, fun _ => ?_, fun _ _ => ?_,
    fun isFresh other inside => ?_⟩
  · rw [isCtx, isState]
    split <;> decide
  · rw [grows, List.length_append]
    exact alive.long.trans (Nat.le_add_right _ _)
  · rw [isCtx] at unregistered
    exact absurd (isFlag.symm.trans unregistered) (by decide)
  · rw [isCtx, isState]
    split <;> decide
  · rw [isCtx]
    exact carried.type
  · rw [isCtx, Config.answered, if_pos isFlag] at inside
    rw [isCtx, isIds]
    refine alive.named isFresh other ?_
    rw [Config.answered, if_pos registered]
    exact inside

end Kept

/-- A client between two calls, from the connect call on. -/
structure Dialogue.Served (config : Config) (base start : Nat) (fresh : Prop)
    (dialogue : Dialogue) : Prop where
  timely : Timely dialogue.watch.session dialogue.watch.times
  consistent : Consistent config dialogue.watch.session
  alive : Alive config base start fresh dialogue.delivered dialogue.watch.session
    dialogue.watch.times
  settled : dialogue.watch.session.ctx.state ≠ .registering
  isOpen : Open dialogue.watch.session dialogue.pending

section Calls

variable {config : Config} {base start : Nat} {fresh : Prop} {dialogue : Dialogue} {input : Input}

/-- A client that is not Connected waits for an answer. -/
theorem Dialogue.Served.waits (served : dialogue.Served config base start fresh)
    (apart : dialogue.watch.session.ctx.state ≠ .connected) :
    dialogue.watch.session.ctx.state.waits = true := by
  have active := served.alive.active
  have settled := served.settled
  cases state : dialogue.watch.session.ctx.state with
  | connecting | busy | disconnecting => rfl
  | disconnected => exact absurd state active.1
  | registering => exact absurd state settled
  | connected => exact absurd state apart

/-- A client that is not Connected has a request pending, which is not too late. -/
theorem Dialogue.Served.hurry (served : dialogue.Served config base start fresh)
    {now : Nat → Time} {datagram : Option (List Byte)}
    (attended : Attended base dialogue (.handler now datagram))
    (apart : dialogue.watch.session.ctx.state ≠ .connected) :
    (now 0).toNat < dialogue.watch.times.since + patience := by
  obtain ⟨request, -, isPending⟩ := served.isOpen (served.waits apart)
  exact attended.prompt (by rw [isPending]; rfl) now datagram rfl

theorem Dialogue.Served.step_alive (served : dialogue.Served config base start fresh)
    (attended : Attended base dialogue input) :
    Alive config base start fresh (dialogue.step config input).delivered
      (dialogue.step config input).watch.session (dialogue.step config input).watch.times := by
  have alive := served.alive.delivers (List.subset_append_left _ input.datagram.toList)
  cases input with
  | handler now datagram =>
      have steady := attended.ticks.steady now rfl
      have begun : Underway config base start fresh (dialogue.delivered ++ datagram.toList) now
          dialogue.watch.session dialogue.watch.times :=
        ⟨served.timely, served.consistent, alive, served.hurry attended⟩
      have ended := @Watch.step_kept config dialogue.watch (.handler now datagram)
        (Underway config base start fresh (dialogue.delivered ++ datagram.toList) now)
        (fun other read => ?_) (by rintro ⟨⟩) begun
      · exact ended.alive
      · cases read
        refine handler_underway steady alive.long (fun inbound has => ?_) fun inbound has => ?_
        · exact attended.grants now inbound (by rw [has])
        · exact List.mem_append_right _ (Option.mem_toList.mpr has)
  | connect now =>
      refine @Watch.step_kept config dialogue.watch (.connect now)
        (Alive config base start fresh (dialogue.delivered ++ [])) (fun other read => ?_)
        (by rintro ⟨⟩) alive
      have refused : dialogue.watch.session.step config (.connect now) =
          dialogue.watch.session.emit .connect := if_pos alive.active.1
      rw [refused]
      refine .silent [.connect] rfl (by simp [Event.airs]) fun times alive => ?_
      exact alive.frame rfl rfl rfl rfl (fun _ => rfl) rfl (emit_log ..)
        fun _ => by simp [aired, Event.bytes]
  | disconnect now duration => exact absurd rfl (attended.stays now duration)
  | publish now index qos data =>
      refine @Watch.step_kept config dialogue.watch (.publish now index qos data)
        (Alive config base start fresh (dialogue.delivered ++ [])) (fun other read => ?_)
        (by rintro ⟨⟩) alive
      cases read
      rw [Session.step, mqttsnCPublish]
      split
      · exact .refl
      · next connected =>
        split
        · exact .refl
        · next fits =>
          exact publish_alive (attended.ticks.steady now rfl) index attended.ticks.standard
            (not_not.mp connected) (Nat.le_of_not_lt fits)
  | setPublishCallback | setPubackCallback =>
      exact alive.frame rfl rfl rfl rfl (fun _ => rfl) rfl (List.append_nil _).symm
        fun _ => by simp [aired]

theorem Dialogue.Served.step (served : dialogue.Served config base start fresh)
    (attended : Attended base dialogue input) :
    (dialogue.step config input).Served config base start fresh where
  timely := dialogue.watch.step_timely attended.ticks served.timely
  consistent := by
    change Consistent config (dialogue.watch.step config input).session
    rw [Watch.step_session]
    have along : dialogue.watch.session.Along config Rules.any.Admits [input] :=
      along_any config _ _
    exact ops_consistent (step_ops along.1) served.consistent
  alive := served.step_alive attended
  settled := by
    change (dialogue.watch.step config input).session.ctx.state ≠ .registering
    rw [Watch.step_session]
    exact step_settled served.settled
  isOpen := Dialogue.step_open served.consistent served.isOpen

end Calls

/-! ### The theorem -/

/-- A client that has not registered its topics has made one request for each of them at most. -/
theorem Dialogue.Served.few {config : Config} {base start : Nat} {fresh : Prop}
    {dialogue : Dialogue} (served : dialogue.Served config base start fresh)
    (unregistered : dialogue.watch.session.ctx.isRegistered = false) :
    dialogue.watch.session.ctx.requests ≤ config.topics.length := by
  have joining := served.alive.joining unregistered
  unfold Ctx.requests
  split
  · exact Nat.zero_le _
  · next other =>
    have busy : dialogue.watch.session.ctx.state = .busy := by
      have waits := served.waits joining.apart
      have active := served.alive.active
      cases state : dialogue.watch.session.ctx.state with
      | busy => rfl
      | connecting => exact absurd state other
      | disconnecting => exact absurd state active.2
      | disconnected | registering | connected =>
          rw [state] at waits
          cases waits
    obtain ⟨-, index, -, inside, counted, -⟩ := served.consistent.requested busy joining.asked
    rw [counted]
    exact inside

theorem Attended.const {base : Nat} {dialogue : Dialogue} {time : Time}
    {datagram : Option (List Byte)} (early : time.toNat + keepAlive < 2 ^ 32)
    (later : dialogue.watch.clock ≤ time.toNat)
    (prompt : time.toNat < dialogue.watch.times.since + patience ∨ dialogue.pending = none)
    (grants : ∀ inbound ∈ datagram, Grants [] inbound) :
    Attended base dialogue (.handler (fun _ => time) datagram) where
  ticks := .const early later
  stays := nofun
  prompt := by
    rintro pending now inbound ⟨⟩
    refine prompt.resolve_right fun none => ?_
    rw [none] at pending
    cases pending
  grants := by
    rintro now inbound ⟨⟩
    exact (grants inbound rfl).mono (List.nil_subset _)

end TinyHan.Mqttsn
