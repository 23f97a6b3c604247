/-
**Publishing, in both directions.**

* `publish_zero_iff` — `mqttsn_c_publish` returns 0 for a packet that it rejects, and for one that
  it sends when the message identifier wraps to 0. An identifier is taken for every packet that is
  sent, so the packet behind the first 65535 is reported as rejected (`publish_wraps`).
* `publish_delivered_iff` — an inbound PUBLISH is handed to the application with the index of a
  subscription to which a SUBACK has assigned its topic identifier, and no entry behind the topic
  table is read, unless the topic identifier is 0. The registry holds 0 for every entry that has no
  identifier yet and for every index behind the table, so a PUBLISH for topic 0 finds subscriptions
  that were never acknowledged and reads the flags of whatever lies behind the table
  (`publish_unacknowledged`).
-/

import TinyHan.Mqttsn.Acknowledgement
import TinyHan.Mqttsn.Registration

namespace TinyHan.Mqttsn

open TinyHan.Lib

/-! ### The result of `mqttsn_c_publish` -/

/-- The event hands a message to `cb_send`. -/
def Event.sends : Event → Bool
  | .send _ _ _ => true
  | .resend _ => true
  | _ => false

/-- Nothing was handed to `cb_send`, and the context is as before. -/
def Rejected (before after : Session) : Prop :=
  after.ctx = before.ctx ∧ after.log.countP Event.sends = before.log.countP Event.sends

section Result

variable (session : Session) (now : Nat → Time) (index : Fin maxClientTopics) (qos : Int)
  (data : List Byte)

/-- The client is Connected, and the packet fits the buffer. -/
def Session.accepts : Prop :=
  session.ctx.state = .connected ∧ sizeofPublish + data.length ≤ maxPacket

instance : Decidable (session.accepts data) := inferInstanceAs (Decidable (_ ∧ _))

variable {session data} in
theorem publish_rejected (rejects : ¬ session.accepts data) :
    mqttsnCPublish session now index qos data = (0#16, session) := by
  unfold mqttsnCPublish
  split
  · rfl
  · next connected =>
    split
    · rfl
    · next fits => exact absurd ⟨not_not.mp connected, Nat.le_of_not_lt fits⟩ rejects

variable {session data} in
theorem publish_accepted (accepts : session.accepts data) :
    mqttsnCPublish session now index qos data = session.publish now index qos data := by
  rw [mqttsnCPublish, if_neg (not_not.mpr accepts.1), if_neg (Nat.not_lt.mpr accepts.2)]

/-- The message identifier of a PUBLISH in the buffer. -/
theorem Request.Carried.publish {request : Request} {memory : Memory} {stale flags : Byte}
    {topicId msgId : BitVec 16} {data : List Byte} (carried : request.Carried memory stale)
    (isPublish : request.message = .publish flags topicId msgId data) :
    raw16 memory 5 = htons msgId := by
  have front := carried.front
  rw [isPublish] at front
  simp only [Message.dup, Message.built, Message.body, header, List.cons_append, List.nil_append,
    holds_cons] at front
  obtain ⟨-, -, -, -, -, one, two, -⟩ := front
  exact raw16_of_holds (holds_cons.mpr ⟨one, holds_cons.mpr ⟨two, rfl⟩⟩)

variable {data} in
/-- **The identifier of a packet** is the next one, in network byte order. -/
theorem publish_id (fits : sizeofPublish + data.length ≤ maxPacket) :
    (session.publish now index qos data).1 = htons (session.ctx.nextId + 1) := by
  obtain ⟨stale, carried⟩ := issue_carried (session.prepare qos) now []
    (session.ctx.publishMessage index qos data) (qos ≠ 0) (publish_fits fits)
  have returned : (session.publish now index qos data).1 =
      raw16 (session.publish now index qos data).2.ctx.message 5 := rfl
  rw [returned, publish_eq]
  exact carried.publish rfl

theorem prepare_sends :
    (session.prepare qos).log.countP Event.sends = session.log.countP Event.sends := by
  unfold Session.prepare
  split <;> simp [List.countP_append, Event.sends]

/-- A packet that is accepted is handed to `cb_send`. -/
theorem publish_sends : (session.publish now index qos data).2.log.countP Event.sends =
    session.log.countP Event.sends + 1 := by
  rw [publish_eq, emit_log, issue_log, List.countP_append, List.countP_append, prepare_sends]
  simp [List.countP_singleton, Event.sends]

theorem htons_eq_zero {value : BitVec 16} : htons value = 0#16 ↔ value = 0#16 := by
  constructor
  · intro zero
    rw [← htons_htons value, zero]
    decide
  · rintro rfl
    decide

/-- **A zero result means that the packet was rejected**, as long as the identifier does not wrap. A
packet that is accepted with the last identifier in use is sent, and 0 is returned. -/
theorem publish_zero_iff :
    ((mqttsnCPublish session now index qos data).1 = 0#16 ↔
        Rejected session (mqttsnCPublish session now index qos data).2) ↔
      ¬ (session.accepts data ∧ session.ctx.nextId = 0xFFFF#16) := by
  by_cases accepts : session.accepts data
  · have sent : ¬ Rejected session (session.publish now index qos data).2 := by
      rintro ⟨-, same⟩
      rw [publish_sends] at same
      omega
    have wraps : session.ctx.nextId + 1 = 0#16 ↔ session.ctx.nextId = 0xFFFF#16 := by
      constructor <;> intro is <;> bv_omega
    rw [publish_accepted now index qos accepts, publish_id session now index qos accepts.2,
      htons_eq_zero, wraps, iff_false_right sent, not_and]
    exact ⟨fun still _ => still, fun still => still accepts⟩
  · rw [publish_rejected now index qos accepts]
    exact ⟨fun _ wraps => absurd wraps.1 accepts, fun _ => ⟨fun _ => ⟨rfl, rfl⟩, fun _ => rfl⟩⟩

end Result

/-- **Identifiers are counted**: packets of QoS 0 leave the client Connected and take an identifier
each. -/
theorem run_publishes (config : Config) (now : Nat → Time) (index : Fin maxClientTopics)
    {data : List Byte} (fits : sizeofPublish + data.length ≤ maxPacket) (count : Nat)
    {session : Session} (connected : session.ctx.state = .connected) :
    let after := session.run config (List.replicate count (.publish now index 0 data))
    after.ctx.state = .connected ∧
      after.ctx.nextId = session.ctx.nextId + BitVec.ofNat 16 count := by
  induction count generalizing session with
  | zero => exact ⟨connected, (BitVec.add_zero _).symm⟩
  | succ count ih =>
      let next := session.step config (.publish now index 0 data)
      have isNext : next.ctx = ((session.prepare 0).issue now []
          (session.ctx.publishMessage index 0 data) false).ctx := by
        change (mqttsnCPublish session now index 0 data).2.ctx = _
        rw [publish_accepted now index 0 ⟨connected, fits⟩, publish_eq]
        rfl
      have stays : next.ctx.state = .connected := by
        rw [isNext, issue_state, prepare_state, if_neg (lt_irrefl 0), connected]
      have taken : next.ctx.nextId = session.ctx.nextId + 1 := by
        rw [isNext, issue_nextId, prepare_nextId]
      obtain ⟨state, nextId⟩ := ih stays
      refine ⟨state, ?_⟩
      change (next.run config _).ctx.nextId = _
      rw [nextId, taken]
      simp only [BitVec.ofNat_eq_ofNat, BitVec.ofNat_add, BitVec.add_assoc, BitVec.add_comm 1#16]

/-- The packet behind the first 65535 is sent, and the result is 0. -/
theorem publish_wraps :
    let session := mqttsnCInit.run publisher ([.connect fun _ => 0#32,
      .handler (fun _ => 0#32) (some [3#8, 0x05#8, 0x00#8])] ++
      List.replicate 65535 (.publish (fun _ => 0#32) ⟨0, by decide⟩ 0 [0x2A#8]))
    let result := mqttsnCPublish session (fun _ => 0#32) ⟨0, by decide⟩ 0 [0x2A#8]
    result.1 = 0#16 ∧ ¬ Rejected session result.2 := by
  intro session result
  let first := mqttsnCInit.run publisher [.connect fun _ => 0#32,
    .handler (fun _ => 0#32) (some [3#8, 0x05#8, 0x00#8])]
  have ready : first.ctx.state = .connected ∧ first.ctx.nextId = 0#16 := by decide +kernel
  have isLater : session = first.run publisher
      (List.replicate 65535 (.publish (fun _ => 0#32) ⟨0, by decide⟩ 0 [0x2A#8])) :=
    List.foldl_append ..
  have short : sizeofPublish + ([0x2A#8] : List Byte).length ≤ maxPacket := by decide
  obtain ⟨connected, nextId⟩ := run_publishes publisher (fun _ => 0#32) ⟨0, by decide⟩ short 65535
    ready.1
  rw [← isLater] at connected nextId
  have accepts : session.accepts [0x2A#8] := ⟨connected, by decide⟩
  have accepted : result = session.publish (fun _ => 0#32) ⟨0, by decide⟩ 0 [0x2A#8] :=
    publish_accepted _ _ _ accepts
  rw [accepted]
  refine ⟨?_, fun rejected => ?_⟩
  · rw [publish_id session _ _ _ accepts.2, htons_eq_zero, nextId, ready.2]
    decide
  · have sent := publish_sends session (fun _ => 0#32) ⟨0, by decide⟩ 0 [0x2A#8]
    rw [rejected.2] at sent
    omega

/-! ### Inbound packets -/

/-- The topic identifier of an inbound PUBLISH. -/
def publishTopicId (datagram : List Byte) : BitVec 16 := htons (raw16 (ofList datagram) 3)

/-- The entries of the topic table whose flags the loop of `mqttsn_publish_handler` looks at: those
with the topic identifier, up to the first subscription among them. -/
def Ctx.flagsRead (ctx : Ctx) (entry : Nat → Topic) (topicId : BitVec 16) :
    List (Fin maxClientTopics) → List (Fin maxClientTopics)
  | [] => []
  | index :: rest =>
      if ctx.topicIds index = topicId then
        if (entry index).subscribes then [index]
        else index :: ctx.flagsRead entry topicId rest
      else ctx.flagsRead entry topicId rest

/-- The entries of the topic table that are read for an inbound PUBLISH. -/
def Ctx.entriesRead (ctx : Ctx) (entry : Nat → Topic) (datagram : List Byte) :
    List (Fin maxClientTopics) :=
  if datagram.length < sizeofPublish then []
  else ctx.flagsRead entry (publishTopicId datagram) (List.finRange maxClientTopics)

/-- The subscription that the loop stops at. -/
def Ctx.subscription (ctx : Ctx) (entry : Nat → Topic) (topicId : BitVec 16) :
    Option (Fin maxClientTopics) :=
  (List.finRange maxClientTopics).find? fun index =>
    ctx.topicIds index = topicId ∧ (entry index).subscribes = true

/-- The state in which the handler of an inbound message runs. -/
def Session.entering (session : Session) (now : Nat → Time) (datagram : List Byte) : Session :=
  ((session.checkRetry now).checkPing now).emit (.received datagram)

section Inbound

variable {config : Config} {session : Session} {datagram : List Byte}

theorem handler_publish (entry : Nat → Topic) (now : Nat → Time)
    (type : inboundType datagram = some .publish) :
    mqttsnCHandler entry session now (some datagram) =
      (mqttsnPublishHandler (session.entering now datagram) (ofList datagram) datagram.length
        entry).driveRegistration entry now := by
  unfold inboundType at type
  split at type
  · next sized =>
    simp only [mqttsnCHandler, Session.processInbound, if_pos sized, type]
    rfl
  · cases type

section Loop

variable {ctx : Ctx} {entry : Nat → Topic} {topicId : BitVec 16}
  {rest : List (Fin maxClientTopics)} {index : Fin maxClientTopics}

/-- **What the loop reads**: the entries with the topic identifier, up to the subscription that it
stops at. -/
theorem mem_flagsRead_iff (sorted : rest.Pairwise (· < ·)) :
    index ∈ ctx.flagsRead entry topicId rest ↔
      index ∈ rest ∧ ctx.topicIds index = topicId ∧ ∀ found, (rest.find? fun index =>
        ctx.topicIds index = topicId ∧ (entry index).subscribes = true) = some found →
          index.val ≤ found.val := by
  induction rest with
  | nil => simp [Ctx.flagsRead]
  | cons first rest ih =>
      obtain ⟨before, sorted⟩ := List.pairwise_cons.mp sorted
      have rest := ih sorted
      rw [Ctx.flagsRead, List.find?_cons, List.mem_cons]
      by_cases same : ctx.topicIds first = topicId
      · rw [if_pos same]
        cases subscribes : (entry first).subscribes with
        | true =>
            simp only [if_pos, same, and_self, decide_true, Option.some.injEq, List.mem_singleton]
            constructor
            · rintro rfl
              exact ⟨.inl rfl, same, fun found here => here ▸ le_rfl⟩
            · rintro ⟨member, -, last⟩
              refine member.resolve_right fun later => ?_
              exact absurd (before index later) (Nat.not_lt.mpr (last first rfl))
        | false =>
            simp only [Bool.false_eq_true, if_false, and_false, decide_false, List.mem_cons, rest]
            constructor
            · rintro (rfl | ⟨member, isTopic, last⟩)
              · exact ⟨.inl rfl, same, fun found finds =>
                  Nat.le_of_lt (before found (List.mem_of_find?_eq_some finds))⟩
              · exact ⟨.inr member, isTopic, last⟩
            · rintro ⟨rfl | member, isTopic, last⟩
              · exact .inl rfl
              · exact .inr ⟨member, isTopic, last⟩
      · simp only [same, false_and, if_false, decide_false, rest]
        constructor
        · rintro ⟨member, others⟩
          exact ⟨.inr member, others⟩
        · rintro ⟨rfl | member, isTopic, last⟩
          · exact absurd isTopic same
          · exact ⟨member, isTopic, last⟩

/-- The entries that are read for an inbound PUBLISH. -/
theorem mem_entriesRead_iff {datagram : List Byte} :
    index ∈ ctx.entriesRead entry datagram ↔ ¬ datagram.length < sizeofPublish ∧
      ctx.topicIds index = publishTopicId datagram ∧
      ∀ found, ctx.subscription entry (publishTopicId datagram) = some found →
        index.val ≤ found.val := by
  unfold Ctx.entriesRead
  split
  · next short => simp [short]
  · next long =>
    rw [mem_flagsRead_iff (List.pairwise_lt_finRange _), and_iff_right (List.mem_finRange _),
      and_iff_right long]
    rfl

end Loop

/-- The loop finds the same subscription in two tables that have the same flags where it reads. -/
theorem find_of_flagsRead {ctx : Ctx} {entry other : Nat → Topic} {topicId : BitVec 16}
    {rest : List (Fin maxClientTopics)}
    (same : ∀ index ∈ ctx.flagsRead entry topicId rest,
      (other index).subscribes = (entry index).subscribes) :
    (rest.find? fun index =>
        ctx.topicIds index = topicId ∧ (other index).subscribes = true) =
      rest.find? fun index =>
        ctx.topicIds index = topicId ∧ (entry index).subscribes = true := by
  induction rest with
  | nil => rfl
  | cons first rest ih =>
      rw [Ctx.flagsRead] at same
      by_cases hit : ctx.topicIds first = topicId
      · rw [if_pos hit] at same
        cases subscribes : (entry first).subscribes with
        | true =>
            rw [if_pos subscribes] at same
            have found := (same first (List.mem_singleton.mpr rfl)).trans subscribes
            simp [hit, found, subscribes]
        | false =>
            rw [subscribes, if_neg Bool.false_ne_true] at same
            have passed := (same first List.mem_cons_self).trans subscribes
            have later := ih fun index read => same index (List.mem_cons_of_mem _ read)
            simpa [hit, passed, subscribes] using later
      · rw [if_neg hit] at same
        simpa [hit] using ih same

/-- **`mqttsn_publish_handler` reads no other entry**: with another table that has the same flags in
the entries that are read, it does the same. -/
theorem publishHandler_congr {entry other : Nat → Topic}
    (same : ∀ index ∈ session.ctx.entriesRead entry datagram,
      (other index).subscribes = (entry index).subscribes) :
    mqttsnPublishHandler session (ofList datagram) datagram.length other =
      mqttsnPublishHandler session (ofList datagram) datagram.length entry := by
  unfold mqttsnPublishHandler
  unfold Ctx.entriesRead at same
  split
  · rfl
  · next long =>
    rw [if_neg long] at same
    have found := find_of_flagsRead same
    rw [publishTopicId] at found
    simp only [found]

/-- An accepted SUBACK has assigned the topic identifier to an entry of the topic table, which is a
subscription. -/
structure Config.Assigned (config : Config) (log : List Event) (index : Nat)
    (topicId : BitVec 16) : Prop where
  inside : index < config.topics.length
  subscribes : (config.topics.entry index).subscribes = true
  acknowledged : ∃ front suback back, log = front ++ .received suback :: back ∧
    config.Answered front suback index ∧ Ack.suback.Answers suback (BitVec.ofNat 16 index) ∧
    ofList suback Ack.suback.returnCode = rcAccepted ∧
    htons (raw16 (ofList suback) Ack.suback.topicId) = topicId

/-- What `mqttsn_publish_handler` does with a PUBLISH: it reads no entry behind the topic table, and
calls back for a subscription with the topic identifier. -/
structure Delivered (config : Config) (session : Session) (datagram : List Byte) : Prop where
  inside : ∀ index ∈ session.ctx.entriesRead config.topics.entry datagram,
    index.val ≤ config.topics.length
  attributed : ∀ index data,
    (mqttsnPublishHandler session (ofList datagram) datagram.length config.topics.entry).log =
      session.log ++ [.cbPublish index data] →
    config.Assigned session.log index (publishTopicId datagram)

theorem checkRetry_frame (session : Session) (now : Nat → Time) :
    (session.checkRetry now).ctx.topicIds = session.ctx.topicIds ∧
      session.log <+: (session.checkRetry now).log := by
  unfold Session.checkRetry
  split
  · split
    · exact ⟨rfl, List.prefix_append _ _⟩
    · exact ⟨rfl, List.prefix_append _ _⟩
  · exact ⟨rfl, List.prefix_rfl⟩

theorem checkPing_frame (session : Session) (now : Nat → Time) :
    (session.checkPing now).ctx.topicIds = session.ctx.topicIds ∧
      session.log <+: (session.checkPing now).log := by
  unfold Session.checkPing
  split
  · exact ⟨rfl, List.prefix_append _ _⟩
  · exact ⟨rfl, List.prefix_rfl⟩

/-- What comes before the handler of an inbound message leaves the registry alone. -/
theorem entering_sourced (sourced : config.Sourced session.log session.ctx.topicIds)
    (now : Nat → Time) (datagram : List Byte) :
    config.Sourced (session.entering now datagram).log
      (session.entering now datagram).ctx.topicIds := by
  obtain ⟨retryIds, retryLog⟩ := checkRetry_frame session now
  obtain ⟨pingIds, pingLog⟩ := checkPing_frame (session.checkRetry now) now
  have same : (session.entering now datagram).ctx.topicIds = session.ctx.topicIds :=
    pingIds.trans retryIds
  rw [same]
  exact sourced.grow (retryLog.trans (pingLog.trans (List.prefix_append _ _)))

/-- A callback is for the subscription that the loop stops at. -/
theorem found_of_callback {entry : Nat → Topic} {index : Nat} {data : List Byte}
    (called : (mqttsnPublishHandler session (ofList datagram) datagram.length entry).log =
      session.log ++ [.cbPublish index data]) :
    session.ctx.cbPublish = true ∧ ∃ inside : index < maxClientTopics,
      session.ctx.subscription entry (publishTopicId datagram) = some ⟨index, inside⟩ := by
  have silent : session.log ≠ session.log ++ [.cbPublish index data] := by simp
  unfold mqttsnPublishHandler at called
  split at called
  · exact absurd called silent
  · dsimp only at called
    split at called
    · exact absurd called silent
    · next found isFound =>
      split at called
      · next callback =>
        rw [emit_log, List.append_cancel_left_eq, List.singleton_inj] at called
        injection called with same _
        subst same
        exact ⟨callback, found.isLt, isFound⟩
      · exact absurd called silent

/-- The subscription that the loop stops at has the topic identifier. -/
theorem subscription_spec {ctx : Ctx} {entry : Nat → Topic} {topicId : BitVec 16}
    {found : Fin maxClientTopics} (isFound : ctx.subscription entry topicId = some found) :
    ctx.topicIds found = topicId ∧ (entry found).subscribes = true := by
  unfold Ctx.subscription at isFound
  have hit := List.find?_some isFound
  rwa [decide_eq_true_iff] at hit

/-- With a callback, the handler calls it for that subscription. -/
theorem callback_of_found {entry : Nat → Topic} {found : Fin maxClientTopics}
    (long : ¬ datagram.length < sizeofPublish) (callback : session.ctx.cbPublish = true)
    (isFound : session.ctx.subscription entry (publishTopicId datagram) = some found) :
    (mqttsnPublishHandler session (ofList datagram) datagram.length entry).log =
      session.log ++ [.cbPublish found
        (window (ofList datagram) sizeofPublish (datagram.length - sizeofPublish))] := by
  unfold Ctx.subscription publishTopicId at isFound
  simp only [mqttsnPublishHandler, if_neg long, isFound, if_pos callback]
  rfl

/-- **An identifier other than 0 in the registry** was assigned to an entry of the table. -/
theorem Config.Sourced.assigned {log : List Event} {topicIds : Fin maxClientTopics → BitVec 16}
    (sourced : config.Sourced log topicIds) {index : Fin maxClientTopics}
    (assigned : topicIds index ≠ 0#16) : ∃ front ack back,
      log = front ++ .received ack :: back ∧ config.Answered front ack index ∧
      ofList ack (config.ackOf index).returnCode = rcAccepted ∧
      topicIds index = htons (raw16 (ofList ack) (config.ackOf index).topicId) :=
  (sourced index).resolve_left assigned

theorem delivered_of_sourced (sourced : config.Sourced session.log session.ctx.topicIds)
    (named : publishTopicId datagram ≠ 0#16) : Delivered config session datagram where
  inside := by
    intro index read
    obtain ⟨-, isTopic, -⟩ := mem_entriesRead_iff.mp read
    obtain ⟨_, _, _, -, answered, -⟩ := sourced.assigned (isTopic ▸ named)
    exact answered.inside.le
  attributed := by
    intro index data called
    obtain ⟨-, inside, isFound⟩ := found_of_callback called
    obtain ⟨isTopic, subscribes⟩ := subscription_spec isFound
    obtain ⟨front, suback, back, logged, answered, accepted, source⟩ :=
      sourced.assigned (isTopic ▸ named)
    have isSuback : config.ackOf index = .suback := if_pos subscribes
    have answers := answered.answers
    rw [isSuback] at accepted source answers
    exact ⟨answered.inside, subscribes, front, suback, back, logged, answered, answers, accepted,
      source.symm.trans isTopic⟩

/-- A PUBLISH for topic 0 does no harm: the loop stops at an entry of the table to which a SUBACK
has assigned 0, or there is no callback to make; or it finds nothing, and the table has as many
entries as the registry but for its end. -/
def Config.Harmless (config : Config) (session : Session) : Prop :=
  match session.ctx.subscription config.topics.entry 0#16 with
  | some found => found.val ≤ config.topics.length ∧
      (session.ctx.cbPublish = true → config.Assigned session.log found 0#16)
  | none => maxClientTopics ≤ config.topics.length + 1

/-- **What a PUBLISH for topic 0 does**, in a session whose identifiers come from SUBACKs. -/
theorem delivered_zero_iff (sourced : config.Sourced session.log session.ctx.topicIds)
    (few : config.topics.length < maxClientTopics) (long : ¬ datagram.length < sizeofPublish)
    (zero : publishTopicId datagram = 0#16) :
    Delivered config session datagram ↔ config.Harmless session := by
  unfold Config.Harmless
  cases isFound : session.ctx.subscription config.topics.entry 0#16 with
  | some found =>
      rw [← zero] at isFound ⊢
      constructor
      · intro delivered
        refine ⟨delivered.inside found ?_, fun callback => ?_⟩
        · refine mem_entriesRead_iff.mpr ⟨long, (subscription_spec isFound).1, ?_⟩
          rintro other isOther
          rw [Option.some.inj (isFound.symm.trans isOther)]
        · exact delivered.attributed found _ (callback_of_found long callback isFound)
      · rintro ⟨inside, assigned⟩
        refine ⟨fun index read => ?_, fun index data called => ?_⟩
        · obtain ⟨-, -, last⟩ := mem_entriesRead_iff.mp read
          exact (last found isFound).trans inside
        · obtain ⟨callback, small, is⟩ := found_of_callback called
          obtain rfl := Option.some.inj (isFound.symm.trans is)
          exact assigned callback
  | none =>
      rw [← zero] at isFound
      constructor
      · intro delivered
        -- the last index is behind the table, so no identifier was assigned to it
        let last : Fin maxClientTopics := ⟨maxClientTopics - 1, by decide⟩
        have unset : session.ctx.topicIds last = 0#16 := by
          refine (sourced last).resolve_right ?_
          rintro ⟨_, _, _, -, answered, -⟩
          have inside : maxClientTopics - 1 < config.topics.length := answered.inside
          omega
        have inside := delivered.inside last (mem_entriesRead_iff.mpr ⟨long, unset.trans zero.symm,
          fun found is => by cases isFound.symm.trans is⟩)
        have isLast : last.val = maxClientTopics - 1 := rfl
        omega
      · intro full
        refine ⟨fun index _ => ?_, fun index data called => ?_⟩
        · have small := index.isLt
          omega
        · obtain ⟨-, _, is⟩ := found_of_callback called
          cases isFound.symm.trans is

theorem delivered_short (short : datagram.length < sizeofPublish) :
    Delivered config session datagram where
  inside index read := absurd short (mem_entriesRead_iff.mp read).1
  attributed index data called := by
    rw [mqttsnPublishHandler, if_pos short] at called
    simp at called

end Inbound

/-- **An inbound PUBLISH reaches only live subscriptions**, for every topic identifier but 0. No
entry behind the topic table is read, and the callback gets the index of a subscription to which a
SUBACK has assigned the identifier (`Delivered`):

* in every run of every client, if and only if the topic identifier is not 0;
* in one run, at one PUBLISH, if and only if its topic identifier is not 0, it is too short to be
  looked at, or it is `Harmless`. The handler of the session makes its callbacks in
  `mqttsn_publish_handler`, which does the same with any other table that has the same flags in the
  entries that are read. -/
theorem publish_delivered_iff (topicId : BitVec 16) :
    ((∀ (config : Config) (inputs : List Input) (now : Nat → Time) (datagram : List Byte),
      config.topics.length < maxClientTopics → inboundType datagram = some .publish →
      publishTopicId datagram = topicId →
      Delivered config ((mqttsnCInit.run config inputs).entering now datagram) datagram) ↔
    topicId ≠ 0#16) ∧
    ∀ (config : Config) (inputs : List Input) (now : Nat → Time) (datagram : List Byte),
      config.topics.length < maxClientTopics → inboundType datagram = some .publish →
      publishTopicId datagram = topicId →
      let before := mqttsnCInit.run config inputs
      let session := before.entering now datagram
      (Delivered config session datagram ↔
        topicId ≠ 0#16 ∨ datagram.length < sizeofPublish ∨ config.Harmless session) ∧
      mqttsnCHandler config.topics.entry before now (some datagram) =
        (mqttsnPublishHandler session (ofList datagram) datagram.length
          config.topics.entry).driveRegistration config.topics.entry now ∧
      ∀ other : Nat → Topic,
        (∀ index ∈ session.ctx.entriesRead config.topics.entry datagram,
          (other index).subscribes = (config.topics.entry index).subscribes) →
        mqttsnPublishHandler session (ofList datagram) datagram.length other =
          mqttsnPublishHandler session (ofList datagram) datagram.length config.topics.entry := by
  have always (config : Config) (inputs : List Input) (now : Nat → Time) (datagram : List Byte) :
      config.Sourced ((mqttsnCInit.run config inputs).entering now datagram).log
        ((mqttsnCInit.run config inputs).entering now datagram).ctx.topicIds :=
    entering_sourced (run_progressing config inputs).1.sourced now datagram
  refine ⟨⟨?_, ?_⟩, ?_⟩
  · rintro delivered rfl
    have read := (delivered publisher [] (fun _ => 0#32) [7#8, 0x0C#8, 0#8, 0#8, 0#8, 0#8, 0#8]
      (by decide) (by decide) (by decide)).inside ⟨1, by decide⟩ (by decide +kernel)
    exact absurd read (by decide)
  · intro named config inputs now datagram few type isTopic
    exact delivered_of_sourced (always config inputs now datagram) (isTopic ▸ named)
  · intro config inputs now datagram few type isTopic before session
    refine ⟨?_, handler_publish _ now type, fun other same => publishHandler_congr same⟩
    have sourced := always config inputs now datagram
    by_cases named : topicId ≠ 0#16
    · exact iff_of_true (delivered_of_sourced sourced (isTopic ▸ named)) (.inl named)
    · by_cases short : datagram.length < sizeofPublish
      · exact iff_of_true (delivered_short short) (.inr (.inl short))
      · rw [delivered_zero_iff sourced few short (isTopic.trans (not_not.mp named)),
          or_iff_right named, or_iff_right short]

/-- A PUBLISH for topic 0 is delivered to a subscription before its SUBACK, and without a
subscription the entry behind the end of the topic table is read. -/
theorem publish_unacknowledged :
    let packet := [8#8, 0x0C#8, 0x00#8, 0x00#8, 0x00#8, 0x00#8, 0x00#8, 0x2A#8]
    let session := mqttsnCInit.run subscriber [.setPublishCallback true]
    let other := mqttsnCInit.run publisher []
    (session.step subscriber (.handler (fun _ => 0#32) (some packet))).log =
        [.received packet, .cbPublish 0 [0x2A#8]] ∧
      ¬ Delivered subscriber (session.entering (fun _ => 0#32) packet) packet ∧
      publisher.topics.length = 0 ∧
      ⟨1, by decide⟩ ∈ (other.entering (fun _ => 0#32) packet).ctx.entriesRead
        publisher.topics.entry packet := by
  intro packet session other
  refine ⟨by decide +kernel, fun delivered => ?_, rfl, by decide +kernel⟩
  obtain ⟨front, suback, back, logged, -, answers, -⟩ :=
    (delivered.attributed 0 [0x2A#8] (by decide +kernel)).acknowledged
  have received : (session.entering (fun _ => 0#32) packet).log = [.received packet] := by
    decide +kernel
  rw [received] at logged
  cases front with
  | nil =>
      injection logged with same _
      injection same with same
      rw [← same] at answers
      exact absurd answers.1.1 (by decide)
  | cons event front =>
      injection logged with _ rest
      cases front <;> cases rest

end TinyHan.Mqttsn
