/-
**The topic registry.**

A client registers the entries of its topic table one after the other, and each request is answered
by a REGACK or SUBACK with the index of the entry as its message identifier. Whatever datagrams
arrive, in every run (`registry_sound`):

* a topic identifier in the registry is 0, or was carried by an accepted acknowledgement of the kind
  for the entry, with its index, which came while the request for the entry was outstanding;
* when `is_registered` becomes 1 the client was welcomed by a CONNACK and has not connected again
  since, and the request for every entry was answered since then.

The invariant counts the answered entries: `count` of them when the next request is due, one less
while a request is outstanding (`Progressing`).
-/

import TinyHan.Mqttsn.Exact

namespace TinyHan.Mqttsn

open TinyHan.Lib

/-! ### Message identifiers -/

/-- Where the message identifier of a request stands, and what it is. -/
def Message.identifier : Message → Option (Nat × BitVec 16)
  | .register _ msgId _ => some (4, msgId)
  | .subscribe _ msgId _ => some (3, msgId)
  | .publish _ _ msgId _ => some (5, msgId)
  | _ => none

theorem raw16_identifier {memory : Memory} {message : Message} {size place : Nat}
    {msgId : BitVec 16} (front : Holds memory 0 (header size message.type ++ message.built))
    (isIdentifier : message.identifier = some (place, msgId)) :
    raw16 memory place = htons msgId := by
  cases message with
  | register topicId msgId name =>
      cases isIdentifier
      simp only [Message.built, Message.body, header, List.cons_append, List.nil_append,
        holds_cons] at front
      obtain ⟨-, -, -, -, one, two, -⟩ := front
      exact raw16_of_holds (holds_cons.mpr ⟨one, holds_cons.mpr ⟨two, rfl⟩⟩)
  | subscribe flags msgId name =>
      cases isIdentifier
      simp only [Message.built, Message.body, header, List.cons_append, List.nil_append,
        holds_cons] at front
      obtain ⟨-, -, -, one, two, -⟩ := front
      exact raw16_of_holds (holds_cons.mpr ⟨one, holds_cons.mpr ⟨two, rfl⟩⟩)
  | publish flags topicId msgId data =>
      cases isIdentifier
      simp only [Message.built, Message.body, header, List.cons_append, List.nil_append,
        holds_cons] at front
      obtain ⟨-, -, -, -, -, one, two, -⟩ := front
      exact raw16_of_holds (holds_cons.mpr ⟨one, holds_cons.mpr ⟨two, rfl⟩⟩)
  | connect | pingreq | disconnect => cases isIdentifier

theorem dup_identifier (message : Message) : message.dup.identifier = message.identifier := by
  cases message <;> rfl

/-! ### Answers -/

/-- The acknowledgement for an entry. -/
def Topic.ack (topic : Topic) : Ack := if topic.subscribes then .suback else .regack

/-- The acknowledgement for an entry of the topic table. -/
def Config.ackOf (config : Config) (index : Nat) : Ack :=
  if (config.topics.entry index).subscribes then .suback else .regack

/-- The datagram answers the request for an entry of the topic table, which is outstanding after the
events of `front`. -/
structure Config.Answered (config : Config) (front : List Event) (datagram : List Byte)
    (index : Nat) : Prop where
  inside : index < config.topics.length
  answers : (config.ackOf index).Answers datagram (BitVec.ofNat 16 index)
  requested : ∃ request, outstanding front = some request ∧
    config.request index = some request.message

section Answers

variable {config : Config} {session : Session} {request : Request} {stale : Byte}

/-- The message identifier of a request in the buffer. -/
theorem Request.Carried.identifier {memory : Memory} (carried : request.Carried memory stale)
    {place : Nat} {msgId : BitVec 16}
    (isIdentifier : request.message.identifier = some (place, msgId)) :
    raw16 memory place = htons msgId :=
  raw16_identifier carried.front ((dup_identifier _).trans isIdentifier)

/-- **The buffer says which acknowledgement is due**: the one for the entry that was requested, with
its identifier. -/
theorem Request.Carried.topicAck {memory : Memory} {topic : Topic} {msgId : BitVec 16}
    {name : CString} {ack : Ack} (carried : request.Carried memory stale)
    (isRequest : request.message = topic.request msgId name)
    (known : ack = .regack ∨ ack = .suback) (type : memory 1 = ack.request.code) :
    ack = topic.ack ∧ raw16 memory ack.sentId = htons msgId := by
  have isType : request.message.type = ack.request := by
    rw [carried.type] at type
    exact MsgType.code_injective type
  rw [Topic.ack]
  unfold Topic.request at isRequest
  split at isRequest
  · next subscribes =>
    rw [if_pos subscribes]
    rcases known with rfl | rfl
    · rw [isRequest] at isType
      cases isType
    · exact ⟨rfl, carried.identifier (by rw [isRequest]; rfl)⟩
  · next registers =>
    rw [if_neg registers]
    rcases known with rfl | rfl
    · exact ⟨rfl, carried.identifier (by rw [isRequest]; rfl)⟩
    · rw [isRequest] at isType
      cases isType

/-- The acknowledgement of an entry of the topic table has its index. -/
theorem Request.Carried.ack {memory : Memory} {index : Nat} {ack : Ack}
    (carried : request.Carried memory stale)
    (isRequest : config.request index = some request.message)
    (known : ack = .regack ∨ ack = .suback) (type : memory 1 = ack.request.code) :
    ack = config.ackOf index ∧ raw16 memory ack.sentId = htons (BitVec.ofNat 16 index) := by
  obtain ⟨name, -, message⟩ := Option.map_eq_some_iff.mp isRequest
  exact carried.topicAck message.symm known type

/-- **An acknowledgement that is taken** answers the outstanding request for the entry in front of
`count`. -/
theorem Consistent.answered (consistent : Consistent config session) {ack : Ack}
    {datagram : List Byte} (known : ack = .regack ∨ ack = .suback)
    (busy : session.ctx.state = .busy) (type : session.ctx.msgType = ack.request.code)
    (inbound : Inbound datagram ack.type ack.size)
    (same : raw16 (ofList datagram) ack.msgId = raw16 session.ctx.message ack.sentId) :
    ∃ index, session.ctx.count = index + 1 ∧ ack = config.ackOf index ∧
      config.Answered session.log datagram index := by
  have other : session.ctx.msgType ≠ MsgType.publish.code := by
    rw [type]
    rcases known with rfl | rfl <;> decide
  obtain ⟨request, index, isOutstanding, inside, counted, isRequest⟩ :=
    consistent.requested busy other
  obtain ⟨stale, carried⟩ := consistent.carried request isOutstanding
  obtain ⟨isAck, sent⟩ := carried.ack isRequest known type
  refine ⟨index, counted, isAck, inside, ?_, request, isOutstanding, isRequest⟩
  rw [← isAck]
  refine ⟨inbound, ?_⟩
  rw [same, sent, htons_htons]

end Answers

/-! ### Where the identifiers come from -/

/-- The topic identifier of an entry is 0, or that of an accepted acknowledgement. -/
def Config.Sourced (config : Config) (log : List Event)
    (topicIds : Fin maxClientTopics → BitVec 16) : Prop :=
  ∀ index, topicIds index = 0#16 ∨ ∃ front datagram back,
    log = front ++ .received datagram :: back ∧ config.Answered front datagram index ∧
    ofList datagram (config.ackOf index).returnCode = rcAccepted ∧
    topicIds index = htons (raw16 (ofList datagram) (config.ackOf index).topicId)

theorem Config.Sourced.grow {config : Config} {log longer : List Event}
    {topicIds : Fin maxClientTopics → BitVec 16} (sourced : config.Sourced log topicIds)
    (grows : log <+: longer) : config.Sourced longer topicIds := by
  obtain ⟨more, rfl⟩ := grows
  intro index
  rcases sourced index with zero | ⟨front, datagram, back, rfl, rest⟩
  · exact .inl zero
  · refine .inr ⟨front, datagram, back ++ more, ?_, rest⟩
    rw [List.append_assoc, List.cons_append]

/-- **What an acknowledgement writes** comes from it. -/
theorem Config.Sourced.answer {config : Config} {log : List Event} {ctx : Ctx} {index : Nat}
    {datagram : List Byte} (sourced : config.Sourced log ctx.topicIds)
    (answered : config.Answered log datagram index) :
    config.Sourced (log ++ [.received datagram])
      (ctx.answer (config.ackOf index) (ofList datagram)).topicIds := by
  have grown : config.Sourced (log ++ [.received datagram]) ctx.topicIds :=
    sourced.grow (List.prefix_append _ _)
  unfold Ctx.answer
  split
  · next accepted =>
    intro entry
    have few := config.topics.few
    have topics : maxClientTopics = 16 := rfl
    have inside := answered.inside
    have position : (BitVec.ofNat 16 index).toNat = index := Nat.mod_eq_of_lt (by omega)
    simp only [Ctx.setTopicId, answered.answers.2, position]
    split
    · next here =>
      subst here
      exact .inr ⟨log, datagram, [], rfl, answered, accepted, rfl⟩
    · exact grown entry
  · exact grown

/-! ### How far the registrations are -/

/-- After the events of `early` the client was welcomed, in `late` it has not connected again, and
the requests for the first entries of its topic table have been answered there. -/
structure Config.Phase (config : Config) (early : List Event) (welcome : List Byte)
    (late : List Event) (entries : Nat) : Prop where
  welcomes : Welcomes welcome
  asked : ∃ request, outstanding early = some request ∧ request.message = connectMessage config
  once : .entered .connecting ∉ late
  answered : ∀ index < entries, ∃ front datagram back, late = front ++ .received datagram :: back ∧
    config.Answered (early ++ .received welcome :: front) datagram index

/-- So many entries have been answered since the client was welcomed. -/
def Config.Progress (config : Config) (log : List Event) (entries : Nat) : Prop :=
  ∃ early welcome late, log = early ++ .received welcome :: late ∧
    config.Phase early welcome late entries

section Progress

variable {config : Config} {log early late : List Event} {welcome : List Byte} {entries : Nat}

theorem Config.Phase.snoc (phase : config.Phase early welcome late entries) {event : Event}
    (stays : event ≠ .entered .connecting) :
    config.Phase early welcome (late ++ [event]) entries where
  welcomes := phase.welcomes
  asked := phase.asked
  once := by
    intro member
    rcases List.mem_append.mp member with member | member
    · exact phase.once member
    · exact stays (List.mem_singleton.mp member).symm
  answered := by
    intro index inside
    obtain ⟨front, datagram, back, rfl, isAnswered⟩ := phase.answered index inside
    refine ⟨front, datagram, back ++ [event], ?_, isAnswered⟩
    rw [List.append_assoc, List.cons_append]

theorem Config.Progress.snoc (progress : config.Progress log entries) {event : Event}
    (stays : event ≠ .entered .connecting) : config.Progress (log ++ [event]) entries := by
  obtain ⟨early, welcome, late, rfl, phase⟩ := progress
  refine ⟨early, welcome, late ++ [event], ?_, phase.snoc stays⟩
  rw [List.append_assoc, List.cons_append]

/-- **One more entry is answered.** -/
theorem Config.Progress.answer (progress : config.Progress log entries) {datagram : List Byte}
    (answered : config.Answered log datagram entries) :
    config.Progress (log ++ [.received datagram]) (entries + 1) := by
  obtain ⟨early, welcome, late, rfl, phase⟩ := progress
  have longer : config.Phase early welcome (late ++ [.received datagram]) entries :=
    phase.snoc nofun
  refine ⟨early, welcome, late ++ [.received datagram], ?_,
    longer.welcomes, longer.asked, longer.once, fun index inside => ?_⟩
  · rw [List.append_assoc, List.cons_append]
  · rcases Nat.lt_succ_iff_lt_or_eq.mp inside with earlier | rfl
    · exact longer.answered index earlier
    · exact ⟨late, datagram, [], rfl, answered⟩

/-- A client that has just been welcomed. -/
theorem progress_welcome {datagram : List Byte} (welcomes : Welcomes datagram)
    (asked : ∃ request, outstanding log = some request ∧
      request.message = connectMessage config) :
    config.Progress (log ++ [.received datagram]) 0 :=
  ⟨log, datagram, [], rfl, welcomes, asked, List.not_mem_nil,
    fun _ none => absurd none (Nat.not_lt_zero _)⟩

end Progress

/-! ### The invariant -/

/-- The registry and the registrations of a session. -/
structure Progressing (config : Config) (session : Session) : Prop where
  sourced : config.Sourced session.log session.ctx.topicIds
  registering : session.ctx.state = .registering → config.Progress session.log session.ctx.count
  requested : session.ctx.state = .busy → session.ctx.msgType ≠ MsgType.publish.code →
    config.Progress session.log (session.ctx.count - 1)
  registered : session.ctx.isRegistered = true → .registered ∈ session.log

section Kept

variable {config : Config} {rules : Rules} {session before after : Session}

/-- A client outside the registrations. -/
theorem Progressing.leave (progressing : Progressing config session)
    (grows : session.log <+: after.log) (sameIds : after.ctx.topicIds = session.ctx.topicIds)
    (sameFlag : after.ctx.isRegistered = session.ctx.isRegistered)
    (settled : after.ctx.state ≠ .registering)
    (other : after.ctx.state = .busy → after.ctx.msgType = MsgType.publish.code) :
    Progressing config after where
  sourced := by
    rw [sameIds]
    exact progressing.sourced.grow grows
  registering := fun registering => absurd registering settled
  requested := fun busy notPublish => absurd (other busy) notPublish
  registered := by
    rw [sameFlag]
    exact fun registered => grows.subset (progressing.registered registered)

/-- What does not touch the registry, the state, the counter or the buffer. -/
theorem Progressing.frame (progressing : Progressing config session)
    (grows : session.log <+: after.log)
    (progress : ∀ entries, config.Progress session.log entries → config.Progress after.log entries)
    (sameIds : after.ctx.topicIds = session.ctx.topicIds)
    (sameState : after.ctx.state = session.ctx.state)
    (sameCount : after.ctx.count = session.ctx.count)
    (sameMessage : after.ctx.message = session.ctx.message)
    (sameFlag : after.ctx.isRegistered = session.ctx.isRegistered) : Progressing config after where
  sourced := by
    rw [sameIds]
    exact progressing.sourced.grow grows
  registering := by
    rw [sameState, sameCount]
    exact fun registering => progress _ (progressing.registering registering)
  requested := by
    rw [sameState, sameCount, Ctx.msgType, sameMessage]
    exact fun busy other => progress _ (progressing.requested busy other)
  registered := by
    rw [sameFlag]
    exact fun registered => grows.subset (progressing.registered registered)

/-- A client that is in none of the two states in which the topics are registered. -/
theorem Progressing.away (progressing : Progressing config session) (state : State)
    (grows : session.log <+: after.log) (sameIds : after.ctx.topicIds = session.ctx.topicIds)
    (sameFlag : after.ctx.isRegistered = session.ctx.isRegistered) (is : after.ctx.state = state)
    (elsewhere : state ≠ .registering ∧ state ≠ .busy) : Progressing config after :=
  progressing.leave grows sameIds sameFlag (is ▸ elsewhere.1)
    fun busy => absurd (is.symm.trans busy) elsewhere.2

theorem Progressing.emit {event : Event} (progressing : Progressing config session)
    (stays : event ≠ .entered .connecting) : Progressing config (session.emit event) :=
  progressing.frame (List.prefix_append _ _) (fun _ progress => progress.snoc stays) rfl rfl rfl rfl
    rfl

theorem acknowledge_grows (session : Session) (buf : Memory) :
    session.log <+: (session.acknowledge buf).log := by
  unfold Session.acknowledge
  dsimp only
  split <;> simp

theorem acknowledge_ctx (session : Session) (buf : Memory) :
    (session.acknowledge buf).ctx = session.ctx := by
  unfold Session.acknowledge
  dsimp only
  split <;> rfl

theorem prepare_grows (session : Session) (qos : Int) :
    session.log <+: (session.prepare qos).log := by
  unfold Session.prepare
  split <;> simp

theorem prepare_topicIds (session : Session) (qos : Int) :
    (session.prepare qos).ctx.topicIds = session.ctx.topicIds := by
  unfold Session.prepare
  split <;> rfl

theorem prepare_isRegistered (session : Session) (qos : Int) :
    (session.prepare qos).ctx.isRegistered = session.ctx.isRegistered := by
  unfold Session.prepare
  split <;> rfl

theorem answer_ctx (ctx : Ctx) (ack : Ack) (buf : Memory) :
    (ctx.answer ack buf).count = ctx.count ∧
      (ctx.answer ack buf).isRegistered = ctx.isRegistered := by
  unfold Ctx.answer
  split <;> exact ⟨rfl, rfl⟩

/-- An entry of the topic table is answered. -/
theorem Progressing.answer (progressing : Progressing config before)
    (consistent : Consistent config before) {ack : Ack} {datagram : List Byte}
    (known : ack = .regack ∨ ack = .suback) (busy : before.ctx.state = .busy)
    (request : before.ctx.msgType = ack.request.code)
    (inbound : Inbound datagram ack.type ack.size)
    (same : raw16 (ofList datagram) ack.msgId = raw16 before.ctx.message ack.sentId) :
    Progressing config (mqttsnToState ((before.emit (.received datagram)).update
      fun ctx => ctx.answer ack (ofList datagram)) .registering) := by
  obtain ⟨index, counted, rfl, answered⟩ :=
    consistent.answered known busy request inbound same
  have other : before.ctx.msgType ≠ MsgType.publish.code := by
    rw [request]
    rcases known with is | is <;> rw [is] <;> decide
  have progress := progressing.requested busy other
  rw [counted, Nat.add_sub_cancel] at progress
  obtain ⟨count, flag⟩ := answer_ctx before.ctx (config.ackOf index) (ofList datagram)
  refine ⟨?_, fun _ => ?_, nofun, fun registered => ?_⟩
  · exact (progressing.sourced.answer answered).grow (List.prefix_append _ _)
  · change config.Progress _ (before.ctx.answer (config.ackOf index) (ofList datagram)).count
    rw [count, counted]
    exact (progress.answer answered).snoc nofun
  · have earlier : before.ctx.isRegistered = true := flag.symm.trans registered
    exact List.mem_append_left _ (List.mem_append_left _ (progressing.registered earlier))

/-- The next entry is asked for. -/
theorem Progressing.request (progressing : Progressing config before) (now : Nat → Time)
    (extra : List Byte) (message : Message) (registering : before.ctx.state = .registering) :
    Progressing config (((mqttsnToState before .busy).issue now extra message true).update
      fun ctx => { ctx with count := ctx.count + 1 }) := by
  have progress := progressing.registering registering
  refine ⟨?_, ?_, fun _ _ => ?_, fun registered => ?_⟩
  · rw [update_log, update_ctx]
    dsimp only
    rw [issue_topicIds]
    exact progressing.sourced.grow (by simp)
  · rw [update_ctx]
    dsimp only
    rw [issue_state]
    exact nofun
  · have entered : config.Progress (mqttsnToState before .busy).log before.ctx.count :=
      progress.snoc nofun
    rw [update_log, update_ctx]
    dsimp only
    rw [issue_count, issue_log]
    exact entered.snoc nofun
  · rw [update_ctx] at registered
    dsimp only at registered
    rw [issue_isRegistered] at registered
    rw [update_log, issue_log]
    exact List.mem_append_left _ (List.mem_append_left _ (progressing.registered registered))

/-- **Every operation keeps the registry and the count of the answered entries.** -/
theorem op_progressing (op : Op config rules before after) (consistent : Consistent config before)
    (progressing : Progressing config before) : Progressing config after := by
  cases op with
  | resend now armed left =>
      exact progressing.frame (List.prefix_append _ _) (fun _ progress => progress.snoc nofun) rfl
        rfl rfl rfl rfl
  | giveUp armed spent may =>
      exact progressing.away .disconnected (List.prefix_append _ _) rfl rfl rfl (by decide)
  | ping now connected =>
      exact progressing.away .connected (by simp) (issue_topicIds ..) (issue_isRegistered ..)
        ((issue_state ..).trans connected) (by decide)
  | receive datagram => exact progressing.emit nofun
  | deliver index data => exact progressing.emit nofun
  | welcome datagram connecting welcomes =>
      obtain ⟨request, isOutstanding, expects⟩ :=
        consistent.waiting (by rw [connecting]; rfl)
      unfold Config.Expects at expects
      rw [connecting] at expects
      cases registered : before.ctx.isRegistered with
      | true => exact progressing.away .connected (by simp) rfl rfl rfl (by decide)
      | false =>
          refine ⟨progressing.sourced.grow (by simp), fun _ => ?_, nofun, fun flag => ?_⟩
          · exact (progress_welcome welcomes ⟨request, isOutstanding, expects⟩).snoc nofun
          · exact absurd (registered.symm.trans flag) nofun
  | refuse datagram connecting =>
      exact progressing.away .disconnected (by simp) rfl rfl rfl (by decide)
  | answer ack datagram known busy request inbound same =>
      exact progressing.answer consistent known busy request inbound same
  | acknowledge datagram busy same may =>
      have same := acknowledge_ctx (before.emit (.received datagram)) (ofList datagram)
      have grows := acknowledge_grows (before.emit (.received datagram)) (ofList datagram)
      refine progressing.away .connected ?_ ?_ ?_ rfl (by decide)
      · exact (List.prefix_append _ _).trans (grows.trans (List.prefix_append _ _))
      · exact (congrArg Ctx.topicIds same :)
      · exact (congrArg Ctx.isRegistered same :)
  | drop datagram may => exact progressing.away .disconnected (by simp) rfl rfl rfl (by decide)
  | finish registering all =>
      refine ⟨progressing.sourced.grow (by simp), nofun, nofun, fun _ => by simp⟩
  | request now extra name registering next =>
      exact progressing.request now extra _ registering
  | connectAgain active => exact progressing.emit nofun
  | connect now extra idle =>
      exact progressing.away .connecting (by simp) (issue_topicIds ..) (issue_isRegistered ..)
        (issue_state ..) (by decide)
  | disconnect now extra duration active may =>
      exact progressing.away .disconnecting (by simp) (issue_topicIds ..) (issue_isRegistered ..)
        (issue_state ..) (by decide)
  | publish now index qos data msgId connected fits may returned =>
      obtain ⟨stale, carried⟩ := issue_carried (before.prepare qos) now []
        (before.ctx.publishMessage index qos data) (qos ≠ 0) (publish_fits fits)
      refine progressing.leave ?_ ((issue_topicIds ..).trans (prepare_topicIds ..))
        ((issue_isRegistered ..).trans (prepare_isRegistered ..)) ?_ fun _ => carried.type
      · rw [emit_log, issue_log]
        exact (prepare_grows before qos).trans
          ((List.prefix_append _ _).trans (List.prefix_append _ _))
      · change ((before.prepare qos).issue now [] _ _).ctx.state ≠ _
        rw [issue_state, prepare_state, connected]
        split <;> decide
  | setCallbacks cbPublish cbPuback =>
      exact progressing.frame List.prefix_rfl (fun _ progress => progress) rfl rfl rfl rfl rfl

/-- The end of the registrations comes when every entry of the topic table has been answered. -/
def Completed (config : Config) (front : List Event) : Event → Prop
  | .registered => config.Progress front config.topics.length
  | _ => True

theorem completed_logs (consistent : Consistent config session)
    (progressing : Progressing config session) :
    Op.Logs config rules (Completed config) session where
  plain := by
    intro front event plain
    cases event <;> trivial
  send := fun _ _ _ _ _ _ => trivial
  resend := fun _ _ => trivial
  acknowledge := fun _ _ _ _ => ⟨trivial, fun _ => trivial⟩
  finish := by
    intro registering all
    have last : session.ctx.count = config.topics.length := by
      refine le_antisymm (consistent.counted registering) (Nat.le_of_not_lt fun inside => ?_)
      have named := config.topics.named session.ctx.count inside
      rw [all] at named
      cases named
    have progress := progressing.registering registering
    rw [last] at progress
    exact progress

end Kept

/-- The invariant after every run. -/
theorem run_progressing (config : Config) (inputs : List Input) :
    Progressing config (mqttsnCInit.run config inputs) ∧
      Always (Completed config) (mqttsnCInit.run config inputs).log :=
  (run_consistent
    (P := fun session => Progressing config session ∧ Always (Completed config) session.log)
    (init_consistent config) ⟨⟨fun _ => .inl rfl, nofun, nofun, nofun⟩, always_nil⟩
    (fun _ _ op consistent holds => ⟨op_progressing op consistent holds.1,
      op_always op consistent (completed_logs consistent holds.1) holds.2⟩)
    (along_any config _ inputs)).2

/-- **The topic registry is sound**, in every run: every identifier comes from the acknowledgement
for its entry, and a client is registered only when all entries were answered since one CONNACK. -/
theorem registry_sound (config : Config) (inputs : List Input) :
    let session := mqttsnCInit.run config inputs
    config.Sourced session.log session.ctx.topicIds ∧
      (session.ctx.isRegistered = true → .registered ∈ session.log) ∧
      Always (Completed config) session.log := by
  obtain ⟨progressing, completed⟩ := run_progressing config inputs
  exact ⟨progressing.sourced, progressing.registered, completed⟩

example :
    let session := mqttsnCInit.run subscriber [.connect fun _ => 0#32,
      .handler (fun _ => 0#32) (some [3#8, 0x05#8, 0x00#8]),
      .handler (fun _ => 0#32)
        (some [8#8, 0x13#8, 0x00#8, 0x12#8, 0x34#8, 0x00#8, 0x00#8, 0x00#8])]
    session.ctx.isRegistered = true ∧ session.ctx.topicIds ⟨0, by decide⟩ = 0x1234#16 := by
  decide +kernel

end TinyHan.Mqttsn
