/-
**The array of topic identifiers.**

The message identifier of a request for a topic is the index of its entry, and the handler of the
acknowledgement uses it as an index into `topic_ids`. It has been compared with the request in the
message buffer, so it is the index of an entry of the table (`Setup.Within`), and the table may be
longer than the array: the registry is written inside it in every run if and only if the table has
at most `MQTTSN_MAX_CLIENT_TOPICS` entries (`registry_inside_iff`). Nothing else writes the registry
(`step_topicIds`).

What a write behind the array does to the context is not modelled: a run is followed up to it.
-/

import TinyHan.Mqttsn.Limits

namespace TinyHan.Mqttsn

open TinyHan.Lib

/-! ### Writes to the registry -/

/-- The index at which `mqttsn_regack_handler` or `mqttsn_suback_handler` writes to `topic_ids`. -/
def Session.ackWrites (session : Session) (buf : Memory) (size : Nat) (ack : Ack) : Option Nat :=
  if size < ack.size then none
  else if session.ctx.state ≠ .busy ∨ session.ctx.msgType ≠ ack.request.code then none
  else if raw16 buf ack.msgId ≠ raw16 session.ctx.message ack.sentId then none
  else if buf ack.returnCode = rcAccepted then some (htons (raw16 buf ack.msgId)).toNat
  else none

/-- **The handlers write the registry there and nowhere else.** -/
theorem ackHandler_topicIds (session : Session) (buf : Memory) (size : Nat) (ack : Ack) :
    (mqttsnAckHandler session buf size ack).ctx.topicIds = fun other =>
      if session.ackWrites buf size ack = some other.val then htons (raw16 buf ack.topicId)
      else session.ctx.topicIds other := by
  have silent (other : Fin maxClientTopics) : (none : Option Nat) ≠ some other.val := nofun
  funext other
  unfold mqttsnAckHandler Session.ackWrites
  by_cases short : size < ack.size
  · rw [if_pos short, if_pos short, if_neg (silent other)]
  rw [if_neg short, if_neg short]
  by_cases state : session.ctx.state ≠ .busy ∨ session.ctx.msgType ≠ ack.request.code
  · rw [if_pos state, if_pos state, if_neg (silent other)]
  rw [if_neg state, if_neg state]
  by_cases differs : raw16 buf ack.msgId ≠ raw16 session.ctx.message ack.sentId
  · rw [if_pos differs, if_pos differs, if_neg (silent other)]
  rw [if_neg differs, if_neg differs]
  change (session.ctx.answer ack buf).topicIds other = _
  by_cases accepted : buf ack.returnCode = rcAccepted
  · rw [Ctx.answer, if_pos accepted, if_pos accepted, Ctx.setTopicId]
    simp only [Option.some.injEq, eq_comm]
  · rw [Ctx.answer, if_neg accepted, if_neg accepted, if_neg (silent other)]

/-- The index at which a call writes to `topic_ids`. -/
def Session.registryWrite (session : Session) : Input → Option Nat
  | .handler now (some datagram) =>
      let session := session.entering now datagram
      match inboundType datagram with
      | some .regack => session.ackWrites (ofList datagram) datagram.length .regack
      | some .suback => session.ackWrites (ofList datagram) datagram.length .suback
      | _ => none
  | _ => none

/-- The indices at which the calls of a run write to `topic_ids`, in order. -/
def Setup.writes (setup : Setup) (session : Session) : List Input → List Nat
  | [] => []
  | input :: inputs =>
      (session.registryWrite input).toList ++ setup.writes (setup.step session input) inputs

/-! ### Every write is for an entry of the table -/

/-- The counter is inside the topic table, and so is the identifier of a request that the client
waits for. -/
structure Setup.Within (setup : Setup) (session : Session) : Prop where
  counted : session.ctx.count ≤ setup.length
  asked : session.ctx.state = .busy → ∀ ack : Ack, ack = .regack ∨ ack = .suback →
    session.ctx.msgType = ack.request.code →
    (htons (raw16 session.ctx.message ack.sentId)).toNat < setup.length

section Within

variable {setup : Setup} {session after : Session} {now : Nat → Time}

/-- A client that is not Busy waits for no acknowledgement. -/
theorem within_of_state (counted : session.ctx.count ≤ setup.length)
    (rests : session.ctx.state ≠ .busy) : setup.Within session :=
  ⟨counted, fun busy => absurd busy rests⟩

theorem Setup.Within.frame (within : setup.Within session)
    (sameState : after.ctx.state = session.ctx.state)
    (sameCount : after.ctx.count = session.ctx.count)
    (sameMessage : after.ctx.message = session.ctx.message) : setup.Within after where
  counted := by
    rw [sameCount]
    exact within.counted
  asked := by
    rw [sameState, Ctx.msgType, sameMessage]
    exact within.asked

theorem Setup.Within.checkRetry (within : setup.Within session) :
    setup.Within (session.checkRetry now) := by
  unfold Session.checkRetry
  split
  · split
    · exact within.frame rfl rfl rfl
    · exact within_of_state within.counted nofun
  · exact within

theorem Setup.Within.checkPing (within : setup.Within session) :
    setup.Within (session.checkPing now) := by
  unfold Session.checkPing
  split
  · next due =>
    refine within_of_state within.counted ?_
    change session.ctx.state ≠ .busy
    rw [due.1]
    decide
  · exact within

theorem Setup.Within.entering (within : setup.Within session) (datagram : List Byte) :
    setup.Within (session.entering now datagram) :=
  within.checkRetry.checkPing.frame rfl rfl rfl

theorem Setup.Within.ackHandler (within : setup.Within session) (buf : Memory) (size : Nat)
    (ack : Ack) : setup.Within (mqttsnAckHandler session buf size ack) := by
  unfold mqttsnAckHandler
  split_ifs
  · exact within
  · exact within
  · exact within
  · refine within_of_state ?_ nofun
    change (session.ctx.answer ack buf).count ≤ _
    rw [(answer_ctx session.ctx ack buf).1]
    exact within.counted

theorem Setup.Within.connackHandler (within : setup.Within session) (buf : Memory) (size : Nat) :
    setup.Within (mqttsnConnackHandler session buf size) := by
  unfold mqttsnConnackHandler
  split_ifs
  · exact within
  · exact within
  · refine within_of_state (Nat.zero_le _) ?_
    change (if session.ctx.isRegistered then State.connected else .registering) ≠ .busy
    split <;> exact nofun
  · exact within_of_state within.counted nofun

theorem Setup.Within.publishHandler (within : setup.Within session) (buf : Memory) (size : Nat)
    (entry : Nat → Topic) : setup.Within (mqttsnPublishHandler session buf size entry) := by
  unfold mqttsnPublishHandler
  split
  · exact within
  · dsimp only
    split
    · exact within
    · split
      · exact within.frame rfl rfl rfl
      · exact within

theorem Setup.Within.pubackHandler (within : setup.Within session) (buf : Memory) (size : Nat) :
    setup.Within (mqttsnPubackHandler session buf size) := by
  unfold mqttsnPubackHandler
  split_ifs
  · exact within
  · exact within
  · exact within
  · refine within_of_state ?_ nofun
    change (session.acknowledge buf).ctx.count ≤ _
    rw [acknowledge_ctx]
    exact within.counted

theorem Setup.Within.processInbound (within : setup.Within session) (entry : Nat → Topic)
    (datagram : List Byte) : setup.Within (session.processInbound entry datagram) := by
  have received : setup.Within (session.emit (.received datagram)) := within.frame rfl rfl rfl
  unfold Session.processInbound
  split
  · split
    · exact received.connackHandler _ _
    · exact received.ackHandler _ _ _
    · exact received.publishHandler _ _ _
    · exact received.pubackHandler _ _
    · exact received.ackHandler _ _ _
    · exact within_of_state received.counted nofun
    · exact received
  · exact within

/-- An entry in front of the end of the table that has a name is inside. -/
theorem Setup.lt_length {index : Nat} {name : CString} (inside : index ≤ setup.length)
    (named : (setup.entry index).name = some name) : index < setup.length := by
  refine lt_of_le_of_ne inside fun last => ?_
  rw [last, setup.ended] at named
  cases named

/-- **A request is for an entry of the table.** -/
theorem Setup.Within.request (within : setup.Within session) {name : CString}
    (named : (setup.entry session.ctx.count).name = some name) :
    setup.Within (session.request now (setup.entry session.ctx.count) name) := by
  have inside := Setup.lt_length within.counted named
  obtain ⟨stale, carried⟩ := issue_carried (mqttsnToState session .busy) now
    (if (setup.entry session.ctx.count).subscribes then [] else [0#8])
    ((setup.entry session.ctx.count).request (BitVec.ofNat 16 session.ctx.count) name) true
    (Topic.request_fits (setup.fits _ inside name named) _)
  rw [request_eq]
  constructor
  · simp only [Session.update, issue_count]
    exact inside
  · intro busy ack known type
    obtain ⟨-, sent⟩ := carried.topicAck rfl known type
    have index : (htons (htons (BitVec.ofNat 16 session.ctx.count))).toNat < setup.length := by
      rw [htons_htons, BitVec.toNat_ofNat]
      exact (Nat.mod_le _ _).trans_lt inside
    rwa [← sent] at index

theorem Setup.Within.driveRegistration (within : setup.Within session) :
    setup.Within (session.driveRegistration setup.entry now) := by
  unfold Session.driveRegistration
  split
  · dsimp only
    split
    · exact within_of_state (Nat.zero_le _) nofun
    · next name named => exact within.request named
  · exact within

theorem Setup.Within.publish (within : setup.Within session) (index : Fin maxClientTopics)
    (qos : Int) (data : List Byte) :
    setup.Within (mqttsnCPublish session now index qos data).2 := by
  by_cases accepts : session.accepts data
  · obtain ⟨stale, carried⟩ := issue_carried (session.prepare qos) now []
      (session.ctx.publishMessage index qos data) (qos ≠ 0) (publish_fits accepts.2)
    rw [publish_accepted now index qos accepts, publish_eq]
    constructor
    · simp only [Session.emit, issue_count, Session.prepare]
      split <;> exact within.counted
    · -- the buffer has a PUBLISH
      intro busy ack known type
      have isPublish : ack.request = .publish :=
        MsgType.code_injective (type.symm.trans carried.type)
      rcases known with rfl | rfl <;> cases isPublish
  · rw [publish_rejected now index qos accepts]
    exact within

/-- **Every call keeps the invariant**, whatever the identifier and the topic table. -/
theorem Setup.Within.step (within : setup.Within session) (input : Input) :
    setup.Within (setup.step session input) := by
  cases input with
  | handler now datagram =>
      have checked : setup.Within ((session.checkRetry now).checkPing now) :=
        within.checkRetry.checkPing
      cases datagram with
      | none => exact checked.driveRegistration
      | some datagram => exact (checked.processInbound _ _).driveRegistration
  | connect now =>
      change setup.Within (setup.mqttsnCConnect session now)
      unfold Setup.mqttsnCConnect
      dsimp only
      split
      · exact within.frame rfl rfl rfl
      · refine within_of_state within.counted ?_
        rintro ⟨⟩
  | disconnect now duration =>
      change setup.Within (mqttsnCDisconnect session now duration)
      unfold mqttsnCDisconnect
      split
      · exact within
      · refine within_of_state within.counted ?_
        rintro ⟨⟩
  | publish now index qos data => exact within.publish index qos data
  | setPublishCallback cb => exact within.frame rfl rfl rfl
  | setPubackCallback cb => exact within.frame rfl rfl rfl

/-- A write is for the request that the client waits for. -/
theorem Setup.Within.ackWrites (within : setup.Within session) {buf : Memory} {size : Nat}
    {ack : Ack} (known : ack = .regack ∨ ack = .suback) {index : Nat}
    (written : session.ackWrites buf size ack = some index) : index < setup.length := by
  unfold Session.ackWrites at written
  split_ifs at written with short state differs accepted
  obtain ⟨busy, type⟩ := not_or.mp state
  have asked := within.asked (not_not.mp busy) ack known (not_not.mp type)
  rw [← not_not.mp differs] at asked
  rwa [← Option.some.inj written]

theorem Setup.Within.registryWrite (within : setup.Within session) {input : Input} {index : Nat}
    (written : session.registryWrite input = some index) : index < setup.length := by
  unfold Session.registryWrite at written
  split at written
  · next now datagram =>
    have entering : setup.Within (session.entering now datagram) := within.entering datagram
    dsimp only at written
    split at written
    · exact entering.ackWrites (.inl rfl) written
    · exact entering.ackWrites (.inr rfl) written
    · cases written
  · cases written

/-- **Every write of a run is for an entry of the topic table.** -/
theorem Setup.Within.writes (within : setup.Within session) (inputs : List Input) :
    ∀ index ∈ setup.writes session inputs, index < setup.length := by
  induction inputs generalizing session with
  | nil => exact nofun
  | cons input inputs ih =>
      intro index member
      rcases List.mem_append.mp member with first | later
      · exact within.registryWrite (Option.mem_toList.mp first)
      · exact ih (within.step input) index later

end Within

/-! ### A table that is answered entry by entry -/

/-- The datagram that accepts the request for an entry. -/
def Topic.answer (topic : Topic) (index : BitVec 16) : List Byte :=
  if topic.subscribes then
    [8#8, MsgType.suback.code, 0#8, 0#8, 0#8] ++ netBytes index ++ [rcAccepted]
  else [7#8, MsgType.regack.code, 0#8, 0#8] ++ netBytes index ++ [rcAccepted]

/-- The fields of the datagram. -/
theorem Topic.answer_fields (topic : Topic) (index : BitVec 16) :
    inboundType (topic.answer index) = some topic.ack.type ∧
      (topic.answer index).length = topic.ack.size ∧
      raw16 (ofList (topic.answer index)) topic.ack.msgId = htons index ∧
      ofList (topic.answer index) topic.ack.returnCode = rcAccepted := by
  unfold Topic.answer Topic.ack
  split
  · exact ⟨rfl, rfl, raw16_of_holds rfl, rfl⟩
  · exact ⟨rfl, rfl, raw16_of_holds rfl, rfl⟩

theorem Topic.ack_known (topic : Topic) : topic.ack = .regack ∨ topic.ack = .suback := by
  unfold Topic.ack
  split
  · exact .inr rfl
  · exact .inl rfl

theorem Topic.request_type (topic : Topic) (index : BitVec 16) (name : CString) :
    (topic.request index name).type = topic.ack.request := by
  unfold Topic.request Topic.ack
  split <;> rfl

/-- The client waits for the acknowledgement of an entry. -/
structure Setup.Asking (setup : Setup) (session : Session) (index : Nat) : Prop where
  busy : session.ctx.state = .busy
  counted : session.ctx.count = index + 1
  type : session.ctx.msgType = (setup.entry index).ack.request.code
  sent : raw16 session.ctx.message (setup.entry index).ack.sentId = htons (BitVec.ofNat 16 index)

section Asking

variable {setup : Setup} {session : Session} {index : Nat}

/-- The time at which no timer expires. -/
abbrev noon : Nat → Time := fun _ => 0#32

theorem checkRetry_noon (session : Session) : session.checkRetry noon = session := by
  refine if_neg fun expired => expired.1 ?_
  have none : session.ctx.tRetry ≤ 0#32 := expired.2
  bv_omega

theorem entering_noon (active : session.ctx.state ≠ .connected) (datagram : List Byte) :
    session.entering noon datagram = session.emit (.received datagram) := by
  have quiet : session.checkPing noon = session := if_neg fun due => active due.1
  rw [Session.entering, checkRetry_noon, quiet]

/-- **A client that registers asks for the next entry.** -/
theorem asking_next (registering : session.ctx.state = .registering)
    (counted : session.ctx.count = index) (inside : index < setup.length) :
    setup.Asking (session.driveRegistration setup.entry noon) index := by
  subst counted
  obtain ⟨name, named⟩ := Option.isSome_iff_exists.mp (setup.named _ inside)
  have requests : session.driveRegistration setup.entry noon =
      session.request (fun call => noon (6 + call)) (setup.entry session.ctx.count) name := by
    unfold Session.driveRegistration
    rw [if_pos registering]
    simp only [named]
  obtain ⟨stale, carried⟩ := issue_carried (mqttsnToState session .busy)
    (fun call => noon (6 + call)) (if (setup.entry session.ctx.count).subscribes then [] else [0#8])
    ((setup.entry session.ctx.count).request (BitVec.ofNat 16 session.ctx.count) name) true
    (Topic.request_fits (setup.fits _ inside name named) _)
  have type := carried.type
  rw [Topic.request_type] at type
  rw [requests, request_eq]
  refine ⟨?_, ?_, type, (carried.topicAck rfl (Topic.ack_known _) type).2⟩
  · simp only [Session.update, issue_state]
    rfl
  · simp only [Session.update, issue_count]
    rfl

/-- An acknowledgement of a topic goes to its handler. -/
theorem handler_ack (entry : Nat → Topic) (session : Session) (now : Nat → Time)
    {datagram : List Byte} {ack : Ack} (known : ack = .regack ∨ ack = .suback)
    (type : inboundType datagram = some ack.type) :
    mqttsnCHandler entry session now (some datagram) =
        (mqttsnAckHandler (session.entering now datagram) (ofList datagram) datagram.length
          ack).driveRegistration entry now ∧
      session.registryWrite (.handler now (some datagram)) =
        (session.entering now datagram).ackWrites (ofList datagram) datagram.length ack := by
  have sized : sizeofHeader ≤ datagram.length ∧
      (datagram.getD 0 0#8).toNat ≤ datagram.length := by
    by_contra small
    rw [inboundType, if_neg small] at type
    cases type
  have code : MsgType.ofCode (datagram.getD 1 0#8) = some ack.type := (if_pos sized).symm.trans type
  rcases known with rfl | rfl
  all_goals
    simp only [mqttsnCHandler, Session.processInbound, if_pos sized, code, Session.registryWrite,
      type]
    exact ⟨rfl, rfl⟩

theorem driveRegistration_topicIds (entry : Nat → Topic) (session : Session) (now : Nat → Time) :
    (session.driveRegistration entry now).ctx.topicIds = session.ctx.topicIds := by
  unfold Session.driveRegistration
  split
  · dsimp only
    split
    · rfl
    · rw [request_eq, update_ctx]
      exact issue_topicIds ..
  · rfl

theorem checks_topicIds (session : Session) (now : Nat → Time) :
    ((session.checkRetry now).checkPing now).ctx.topicIds = session.ctx.topicIds :=
  (checkPing_frame _ now).1.trans (checkRetry_frame session now).1

/-- A message that is no acknowledgement of a topic leaves the registry. -/
theorem processInbound_topicIds {entry : Nat → Topic} {session : Session} {datagram : List Byte}
    (other : ∀ ack : Ack, ack = .regack ∨ ack = .suback →
      inboundType datagram ≠ some ack.type) :
    (session.processInbound entry datagram).ctx.topicIds = session.ctx.topicIds := by
  refine processInbound_elim (P := fun after => after.ctx.topicIds = session.ctx.topicIds)
    (fun _ _ => rfl) (fun _ => rfl) (fun _ _ _ => rfl) ?_ (fun _ _ => ?_) fun _ => rfl
  · intro ack known _ _ inbound
    exact absurd inbound.1 (other ack known)
  · change ((session.emit (.received datagram)).acknowledge (ofList datagram)).ctx.topicIds = _
    rw [acknowledge_ctx]
    rfl

/-- **Nothing else writes the registry.** Where a call changes an entry, it writes there. -/
theorem step_topicIds (setup : Setup) (session : Session) (input : Input)
    (index : Fin maxClientTopics)
    (changed : (setup.step session input).ctx.topicIds index ≠ session.ctx.topicIds index) :
    session.registryWrite input = some index.val := by
  cases input with
  | handler now datagram =>
      change (mqttsnCHandler setup.entry session now datagram).ctx.topicIds index ≠ _ at changed
      cases datagram with
      | none =>
          refine absurd (congrFun ?_ index) changed
          exact (driveRegistration_topicIds ..).trans (checks_topicIds session now)
      | some datagram =>
          by_cases acks : ∃ ack : Ack, (ack = .regack ∨ ack = .suback) ∧
              inboundType datagram = some ack.type
          · obtain ⟨ack, known, type⟩ := acks
            obtain ⟨handler, write⟩ := handler_ack setup.entry session now known type
            rw [handler, driveRegistration_topicIds, ackHandler_topicIds] at changed
            rw [write]
            by_contra other
            exact changed ((if_neg other).trans (congrFun (checks_topicIds session now) index))
          · refine absurd (congrFun ?_ index) changed
            refine (driveRegistration_topicIds ..).trans ?_
            refine (processInbound_topicIds fun ack known type => ?_).trans
              (checks_topicIds session now)
            exact acks ⟨ack, known, type⟩
  | connect now =>
      refine absurd (congrFun ?_ index) changed
      change (setup.mqttsnCConnect session now).ctx.topicIds = _
      unfold Setup.mqttsnCConnect
      dsimp only
      split <;> rfl
  | disconnect now duration =>
      refine absurd (congrFun ?_ index) changed
      change (mqttsnCDisconnect session now duration).ctx.topicIds = _
      unfold mqttsnCDisconnect
      split <;> rfl
  | publish now topic qos data =>
      refine absurd (congrFun ?_ index) changed
      change (mqttsnCPublish session now topic qos data).2.ctx.topicIds = _
      by_cases accepts : session.accepts data
      · rw [publish_accepted now topic qos accepts, publish_eq]
        exact (issue_topicIds ..).trans (prepare_topicIds session qos)
      · rw [publish_rejected now topic qos accepts]
  | setPublishCallback cb => exact absurd rfl changed
  | setPubackCallback cb => exact absurd rfl changed

/-- **An entry that is answered is written to the registry**, and the client registers on. -/
theorem Setup.Asking.step (asking : setup.Asking session index) :
    let answer := (setup.entry index).answer (BitVec.ofNat 16 index)
    let answered := (session.emit (.received answer)).update
      fun ctx => ctx.answer (setup.entry index).ack (ofList answer)
    setup.step session (.handler noon (some answer)) =
        (mqttsnToState answered .registering).driveRegistration setup.entry noon ∧
      session.registryWrite (.handler noon (some answer)) =
        some (BitVec.ofNat 16 index).toNat := by
  intro answer answered
  obtain ⟨type, size, msgId, accepted⟩ :=
    (setup.entry index).answer_fields (BitVec.ofNat 16 index)
  have active : session.ctx.state ≠ .connected := by
    rw [asking.busy]
    decide
  have large : ¬ answer.length < (setup.entry index).ack.size := by
    rw [size]
    exact lt_irrefl _
  have state : ¬ (session.ctx.state ≠ .busy ∨
      session.ctx.msgType ≠ (setup.entry index).ack.request.code) :=
    not_or.mpr ⟨not_not.mpr asking.busy, not_not.mpr asking.type⟩
  have same : ¬ raw16 (ofList answer) (setup.entry index).ack.msgId ≠
      raw16 session.ctx.message (setup.entry index).ack.sentId := by
    rw [msgId, asking.sent, not_not]
  have handled : mqttsnAckHandler (session.emit (.received answer)) (ofList answer) answer.length
      (setup.entry index).ack = mqttsnToState answered .registering :=
    (if_neg large).trans ((if_neg state).trans (if_neg same))
  have written : (session.emit (.received answer)).ackWrites (ofList answer) answer.length
      (setup.entry index).ack = some (BitVec.ofNat 16 index).toNat := by
    refine (if_neg large).trans ((if_neg state).trans ((if_neg same).trans ?_))
    rw [if_pos accepted, msgId, htons_htons]
  obtain ⟨handler, write⟩ := handler_ack setup.entry session noon (Topic.ack_known _) type
  rw [entering_noon active] at handler write
  exact ⟨handler.trans (congrArg (Session.driveRegistration · setup.entry noon) handled),
    write.trans written⟩

end Asking

/-- A client connects and is answered for every entry in front of `count`. -/
def Setup.answers (setup : Setup) (count : Nat) : List Input :=
  [.connect noon, .handler noon (some [3#8, MsgType.connack.code, rcAccepted])] ++
    (List.range count).map fun index =>
      .handler noon (some ((setup.entry index).answer (BitVec.ofNat 16 index)))

section Answers

variable (setup : Setup)

theorem Setup.run_snoc (session : Session) (inputs : List Input) (input : Input) :
    setup.run session (inputs ++ [input]) = setup.step (setup.run session inputs) input :=
  List.foldl_append ..

theorem Setup.writes_snoc (session : Session) (inputs : List Input) (input : Input) :
    setup.writes session (inputs ++ [input]) = setup.writes session inputs ++
      ((setup.run session inputs).registryWrite input).toList := by
  induction inputs generalizing session with
  | nil => exact List.append_nil _
  | cons first inputs ih =>
      rw [List.cons_append, Setup.writes, ih, ← List.append_assoc]
      rfl

theorem Setup.answers_succ (count : Nat) :
    setup.answers (count + 1) = setup.answers count ++
      [.handler noon (some ((setup.entry count).answer (BitVec.ofNat 16 count)))] := by
  simp [Setup.answers, List.range_succ]

variable {setup}

/-- A client that is answered asks for every entry of its topic table. -/
theorem asking_answers {count : Nat} (inside : count < setup.length) :
    setup.Asking (setup.run mqttsnCInit (setup.answers count)) count := by
  induction count with
  | zero =>
      let first := setup.mqttsnCConnect mqttsnCInit noon
      let welcome : List Byte := [3#8, MsgType.connack.code, rcAccepted]
      have welcomed : setup.run mqttsnCInit (setup.answers 0) =
          (mqttsnToState ((first.emit (.received welcome)).update fun ctx =>
            { ctx with count := 0 }) .registering).driveRegistration setup.entry noon := by
        change mqttsnCHandler setup.entry first noon (some welcome) = _
        unfold mqttsnCHandler
        rw [checkRetry_noon]
        rfl
      rw [welcomed]
      exact asking_next rfl rfl inside
  | succ count ih =>
      have asking := ih (Nat.lt_of_succ_lt inside)
      rw [setup.answers_succ, setup.run_snoc, asking.step.1]
      refine asking_next rfl ?_ inside
      exact (answer_ctx _ _ _).1.trans asking.counted

/-- The entry behind the room in the registry is written behind it. -/
theorem writes_answers (long : maxClientTopics < setup.length) :
    maxClientTopics ∈ setup.writes mqttsnCInit (setup.answers (maxClientTopics + 1)) := by
  rw [setup.answers_succ, setup.writes_snoc, (asking_answers long).step.2]
  exact List.mem_append_right _ List.mem_cons_self

end Answers

/-- **The registry is written inside its array, in every run**, if the topic table has at most
`MQTTSN_MAX_CLIENT_TOPICS` entries. For every longer table there is a run that writes behind it. The
writes are those of the client: no call changes the registry elsewhere, and inside the limits the
runs are the ones of `Config`. -/
theorem registry_inside_iff (setup : Setup) :
    ((∀ inputs, ∀ index ∈ setup.writes mqttsnCInit inputs, index < maxClientTopics) ↔
        setup.length ≤ maxClientTopics) ∧
      (∀ session input (index : Fin maxClientTopics),
        (setup.step session input).ctx.topicIds index ≠ session.ctx.topicIds index →
          session.registryWrite input = some index.val) ∧
      ∀ (config : Config) (behind : Memory) (terminated : ∃ index, behind index = 0#8),
        setup = config.setup behind terminated →
          ∀ inputs, setup.run mqttsnCInit inputs = mqttsnCInit.run config inputs := by
  refine ⟨⟨fun inside => ?_, fun few inputs index written => ?_⟩, step_topicIds setup, ?_⟩
  · refine Nat.le_of_not_lt fun long => ?_
    exact Nat.lt_irrefl _ (inside _ _ (writes_answers long))
  · have start : setup.Within mqttsnCInit := within_of_state (Nat.zero_le _) nofun
    exact (start.writes inputs index written).trans_le few
  · rintro config behind terminated rfl inputs
    exact setup_run config terminated mqttsnCInit inputs

/-- A client with seventeen topics. -/
def talkative : Setup where
  clientId := ⟨[0x63#8], letter_c⟩
  behind _ := 0#8
  terminated := ⟨0, rfl⟩
  entry index := ⟨if index < 17 then some ⟨[0x61#8], letter_a⟩ else none, 0#8⟩
  length := 17
  named := by
    intro index inside
    rw [if_pos inside]
    rfl
  ended := rfl
  fits := by
    intro index inside name isName
    rw [if_pos inside] at isName
    have registers : Topic.offset ⟨if index < 17 then some ⟨[0x61#8], letter_a⟩ else none, 0#8⟩ =
        sizeofRegister := if_neg (by simp [Topic.subscribes])
    rw [← Option.some.inj isName, registers]
    decide

/-- The seventeenth topic is written behind the registry. -/
theorem registry_overrun : talkative.length = 17 ∧
    16 ∈ talkative.writes mqttsnCInit (talkative.answers 17) :=
  ⟨rfl, writes_answers (by decide)⟩

end TinyHan.Mqttsn
