/-
**What the client hands to `cb_send`.**

`op_always` says once what an operation logs, so that a condition on the events of a run is checked
for the few events that matter to it. With it, every message of every run is what was wanted, and a
retransmission is the outstanding request with the DUP bit (`Faithful`).

**`sent_exact_iff`**: what is handed to `cb_send` stands exactly for the message that the call was
to send (`Config.Wants`), if and only if this is not a SUBSCRIBE.
-/

import TinyHan.Mqttsn.Buffer

namespace TinyHan.Mqttsn

open TinyHan.Lib

/-! ### What a call logs -/

/-- What is logged between two sessions is of a kind. -/
def Adds (P : Event → Prop) (before after : Session) : Prop :=
  ∃ events, after.log = before.log ++ events ∧ ∀ event ∈ events, P event

section Adds

variable {P Q : Event → Prop} {before between after : Session}

theorem Adds.refl (session : Session) : Adds P session session :=
  ⟨[], (List.append_nil _).symm, by simp⟩

theorem Adds.trans (first : Adds P before between) (second : Adds P between after) :
    Adds P before after := by
  obtain ⟨events, grows, each⟩ := first
  obtain ⟨more, grown, rest⟩ := second
  refine ⟨events ++ more, by rw [grown, grows, List.append_assoc], fun event member => ?_⟩
  rcases List.mem_append.mp member with earlier | later
  · exact each event earlier
  · exact rest event later

theorem Adds.mono (adds : Adds P before after) (weaker : ∀ event, P event → Q event) :
    Adds Q before after :=
  adds.imp fun _ logged => ⟨logged.1, fun event member => weaker event (logged.2 event member)⟩

/-- One event is logged. -/
theorem Adds.one {event : Event} (grows : after.log = before.log ++ [event]) (kind : P event) :
    Adds P before after := ⟨[event], grows, by simpa using kind⟩

theorem Adds.update (adds : Adds P before after) (change : Ctx → Ctx) :
    Adds P before (after.update change) := adds

theorem Adds.emit (adds : Adds P before after) {event : Event} (kind : P event) :
    Adds P before (after.emit event) := adds.trans (.one rfl kind)

/-- What a step adds is what its log is longer by. -/
theorem Adds.each (adds : Adds P before after) {events : List Event}
    (grows : after.log = before.log ++ events) : ∀ event ∈ events, P event := by
  obtain ⟨added, same, each⟩ := adds
  rw [List.append_cancel_left (grows.symm.trans same)]
  exact each

end Adds

/-- The event is a transmission. -/
def Event.airs : Event → Bool
  | .send .. | .resend _ => true
  | _ => false

theorem silent_of_still {events : List Event} (still : ∀ event ∈ events, event.still = true) :
    ∀ event ∈ events, event.airs = false := by
  intro event member
  have rests := still event member
  cases event with
  | received | cbPublish => rfl
  | _ => cases rests

/-- What is logged when a message moves the client is not a transmission. -/
theorem silent_acknowledge (session : Session) (buf : Memory) :
    Adds (fun event => event.airs = false) session (session.acknowledge buf) := by
  unfold Session.acknowledge
  dsimp only
  split
  · exact Adds.trans (.one rfl rfl) (.one rfl rfl)
  · exact .one rfl rfl

/-- **A datagram is answered by no transmission.** -/
theorem processInbound_silent (session : Session) (entry : Nat → Topic) (datagram : List Byte) :
    Adds (fun event => event.airs = false) session (session.processInbound entry datagram) := by
  have received : Adds (fun event => event.airs = false) session
      (session.emit (.received datagram)) := .one rfl rfl
  refine processInbound_elim (P := Adds (fun event => event.airs = false) session)
    (fun events still => ⟨events, rfl, silent_of_still still⟩) (fun _ => ?_) (fun _ _ _ => ?_)
    (fun ack _ _ _ _ _ => ?_) (fun _ _ => ?_) (fun _ => ?_)
  · exact received.trans (.one rfl rfl)
  · exact received.trans (.one rfl rfl)
  · exact received.trans (.one rfl rfl)
  · exact (received.trans (silent_acknowledge _ _)).trans (.one rfl rfl)
  · exact received.trans (.one rfl rfl)

/-! ### What is logged -/

section Always

variable {session : Session} {P : List Event → Event → Prop}

theorem always_emit {event : Event} (always : Always P session.log)
    (now : P session.log event) : Always P (session.emit event).log :=
  always_snoc.mpr ⟨always, now⟩

theorem always_toState {state : State} (always : Always P session.log)
    (now : P session.log (.entered state)) : Always P (mqttsnToState session state).log :=
  always_snoc.mpr ⟨always, now⟩

theorem always_issue {now : Nat → Time} {extra : List Byte} {message : Message} {retry : Bool}
    (always : Always P session.log)
    (sent : P session.log (.send (session.outgoing now extra message retry) retry message)) :
    Always P (session.issue now extra message retry).log := by
  rw [issue_log]
  exact always_snoc.mpr ⟨always, sent⟩

theorem always_retransmit {now : Nat → Time} (always : Always P session.log)
    (sent : P session.log (.resend session.resent)) : Always P (session.retransmit now).log :=
  always_snoc.mpr ⟨always, sent⟩

theorem always_acknowledge {buf : Memory} (always : Always P session.log)
    (acked : P session.log (.acked (raw16 buf 4)))
    (reported : ∀ result, P (session.log ++ [.acked (raw16 buf 4)])
      (.cbPuback (raw16 buf 4) result)) :
    Always P (session.acknowledge buf).log := by
  have first := always_snoc.mpr ⟨always, acked⟩
  unfold Session.acknowledge
  dsimp only
  split
  · exact always_snoc.mpr ⟨first, reported _⟩
  · exact first

theorem always_prepare {qos : Int} (always : Always P session.log)
    (entered : 0 < qos → P session.log (.entered .busy)) :
    Always P (session.prepare qos).log := by
  unfold Session.prepare
  split
  · next answered => exact always_toState always (entered answered)
  · exact always

end Always

/-- The event neither hands bytes to `cb_send` nor completes anything. -/
def Event.plain : Event → Bool
  | .connect | .disconnect | .received _ | .entered _ | .cbPublish .. | .published .. => true
  | .send .. | .resend _ | .acked _ | .cbPuback .. | .registered => false

/-- What an operation logs, said once: a condition on the events is kept if it holds of the messages
that are sent, of what is sent again, of an acknowledgement and of the end of the registrations. -/
structure Op.Logs (config : Config) (rules : Rules) (P : List Event → Event → Prop)
    (before : Session) : Prop where
  plain : ∀ front event, event.plain = true → P front event
  send : ∀ (session : Session) now extra message retry, 2 + message.built.length ≤ maxPacket →
    P session.log (.send (session.outgoing now extra message retry) retry message)
  resend : before.ctx.tRetry ≠ 0 → before.ctx.nRetries ≠ 0 → P before.log (.resend before.resent)
  acknowledge : ∀ datagram, before.ctx.state = .busy →
    raw16 (ofList datagram) 4 = raw16 before.ctx.message 5 →
    rules.ack before.ctx.message before.ctx.cbPuback →
    let received := before.log ++ [.received datagram]
    let msgId := raw16 (ofList datagram) 4
    P received (.acked msgId) ∧ ∀ result, P (received ++ [.acked msgId]) (.cbPuback msgId result)
  finish : before.ctx.state = .registering →
    (config.topics.entry before.ctx.count).name = none → P before.log .registered

theorem op_always {config : Config} {rules : Rules} {before after : Session}
    {P : List Event → Event → Prop} (op : Op config rules before after)
    (consistent : Consistent config before) (logs : Op.Logs config rules P before)
    (always : Always P before.log) : Always P after.log := by
  have emits : ∀ {session : Session} {event : Event}, event.plain = true →
      Always P session.log → Always P (session.emit event).log :=
    fun plain always => always_emit always (logs.plain _ _ plain)
  have enters : ∀ {session : Session} {state : State}, Always P session.log →
      Always P (mqttsnToState session state).log :=
    fun always => always_toState always (logs.plain _ _ rfl)
  have issues : ∀ {session : Session} {now : Nat → Time} {extra : List Byte} {message : Message}
      {retry : Bool}, 2 + message.built.length ≤ maxPacket → Always P session.log →
      Always P (session.issue now extra message retry).log :=
    fun fits always => always_issue always (logs.send _ _ _ _ _ fits)
  cases op with
  | resend now armed left => exact always_retransmit always (logs.resend armed left)
  | giveUp armed spent may => exact enters always
  | ping now connected => exact issues (by decide) always
  | receive datagram => exact emits rfl always
  | deliver index data => exact emits rfl always
  | welcome datagram connecting welcomes => exact enters (emits rfl always)
  | refuse datagram connecting => exact enters (emits rfl always)
  | answer ack datagram known busy request inbound same => exact enters (emits rfl always)
  | acknowledge datagram busy same may =>
      obtain ⟨acked, reported⟩ := logs.acknowledge datagram busy same may
      exact enters (always_acknowledge (emits rfl always) acked reported)
  | drop datagram may => exact enters (emits rfl always)
  | finish registering all =>
      exact enters (always_emit always (logs.finish registering all))
  | request now extra name registering next =>
      have inside := lt_length_of_named (consistent.counted registering) next
      exact issues (request_fits config inside next _) (enters always)
  | connectAgain active => exact emits rfl always
  | connect now extra idle => exact issues (connect_fits config) (enters (emits rfl always))
  | disconnect now extra duration active may =>
      exact issues (disconnect_fits duration) (enters (emits rfl always))
  | publish now index qos data msgId connected fits may returned =>
      exact emits rfl (issues (publish_fits fits) (always_prepare always fun _ =>
        logs.plain _ _ rfl))
  | setCallbacks cbPublish cbPuback => exact always

/-- The event, if it hands bytes to `cb_send`, does so for a message that was wanted: for its own,
or for the outstanding one. -/
def Faithful (front : List Event) : Event → Prop
  | .send bytes _ message => ∃ stale, 2 + message.built.length ≤ maxPacket ∧
      bytes = message.wire stale
  | .resend bytes => ∃ request stale other, outstanding front = some request ∧
      2 + request.message.built.length ≤ maxPacket ∧ request.bytes = request.message.wire stale ∧
      bytes = request.message.dup.wire other ∧ (request.message.size ≤ maxPacket → other = stale)
  | _ => True

section Faithful

variable {config : Config} {rules : Rules} {before after : Session}

theorem faithful_logs (consistent : Consistent config before) :
    Op.Logs config rules Faithful before where
  plain := by
    intro front event plain
    cases event <;> trivial
  send := by
    intro session now extra message retry fits
    obtain ⟨stale, carried⟩ := issue_carried session now extra message retry fits
    exact ⟨stale, fits, carried.sent⟩
  resend := by
    intro armed _
    obtain ⟨request, isOutstanding⟩ := consistent.armed armed
    obtain ⟨stale, carried⟩ := consistent.carried request isOutstanding
    obtain ⟨other, bytes, same⟩ := carried.resent
    exact ⟨request, stale, other, isOutstanding, carried.fits, carried.sent, bytes, same⟩
  acknowledge := fun _ _ _ _ => ⟨trivial, fun _ => trivial⟩
  finish := fun _ _ => trivial

end Faithful

/-! ### Wanted messages -/

/-- The message that a call is to send, by its arguments: the one that the application asks for; of
the handler a PINGREQ, or the request for an entry of the topic table, which is then counted. -/
def Config.Wants (config : Config) (before after : Ctx) (message : Message) : Input → Prop
  | .connect _ =>
      message = .connect 0#8 protocolId (BitVec.ofNat 16 keepAlive) config.clientId.val
  | .disconnect _ duration =>
      message = .disconnect (if duration ≠ 0#16 then some duration else none)
  | .publish _ index qos data =>
      message = .publish (publishFlags qos) (before.topicIds index) (before.nextId + 1) data
  | .handler _ _ => message = .pingreq [] ∨
      ∃ index, after.count = index + 1 ∧ config.request index = some message
  | .setPublishCallback _ | .setPubackCallback _ => False

/-- The event, if it is the first transmission of a message, is one of a kind of message. -/
def Event.Sends (P : Message → Prop) : Event → Prop
  | .send _ _ message => P message
  | _ => True

theorem Event.sends_of_silent {P : Message → Prop} {event : Event} (silent : event.airs = false) :
    event.Sends P := by
  cases event with
  | send => cases silent
  | _ => trivial

theorem Event.Sends.imp {P Q : Message → Prop} {event : Event} (sends : event.Sends P)
    (weaker : ∀ message, P message → Q message) : event.Sends Q := by
  cases event with
  | send bytes retry message => exact weaker message sends
  | _ => trivial

section Wants

variable {config : Config} {session : Session} {now : Nat → Time}

theorem checkRetry_sends (P : Message → Prop) :
    Adds (Event.Sends P) session (session.checkRetry now) := by
  unfold Session.checkRetry
  split
  · split
    · exact .one (retransmit_log ..) trivial
    · exact .one (toState_log ..) trivial
  · exact .refl session

theorem checkPing_sends {P : Message → Prop} (ping : P (.pingreq [])) :
    Adds (Event.Sends P) session (session.checkPing now) := by
  unfold Session.checkPing
  split
  · rw [ping_eq]
    exact .one (issue_log ..) ping
  · exact .refl session

theorem driveRegistration_sends :
    Adds (Event.Sends fun message => ∃ index,
      (session.driveRegistration config.topics.entry now).ctx.count = index + 1 ∧
        config.request index = some message) session
      (session.driveRegistration config.topics.entry now) := by
  unfold Session.driveRegistration
  split
  · dsimp only
    split
    · exact ⟨[.registered, .entered .connected], by simp, by simp [Event.Sends]⟩
    · next name next =>
      rw [request_eq]
      refine Adds.trans (.one (toState_log ..) trivial) (.one (issue_log ..) ?_)
      refine ⟨session.ctx.count, ?_, ?_⟩
      · rw [update_ctx, issue_count]
        rfl
      · rw [Config.request, next]
        rfl
  · exact .refl session

/-- **What a call sends for the first time** is what it is to send. -/
theorem step_wants (input : Input) :
    Adds (Event.Sends fun message =>
      config.Wants session.ctx (session.step config input).ctx message input) session
      (session.step config input) := by
  cases input with
  | handler now datagram =>
      let after := mqttsnCHandler config.topics.entry session now datagram
      have checks : Adds (Event.Sends fun message =>
          config.Wants session.ctx after.ctx message (.handler now datagram)) session
          ((session.checkRetry now).checkPing now) :=
        (checkRetry_sends _).trans (checkPing_sends (.inl rfl))
      cases datagram with
      | none =>
          exact checks.trans (driveRegistration_sends.mono fun _ sends => sends.imp fun _ => .inr)
      | some datagram =>
          refine (checks.trans ((processInbound_silent _ config.topics.entry datagram).mono
            fun _ silent => Event.sends_of_silent silent)).trans ?_
          exact driveRegistration_sends.mono fun _ sends => sends.imp fun _ => .inr
  | connect now =>
      by_cases idle : session.ctx.state = .disconnected
      · rw [Session.step, connect_eq config session now idle]
        exact (Adds.trans (.one (emit_log ..) trivial) (.one (toState_log ..) trivial)).trans
          (.one (issue_log ..) rfl)
      · have refused : mqttsnCConnect config session now = session.emit .connect := if_pos idle
        rw [Session.step, refused]
        exact .one (emit_log ..) trivial
  | disconnect now duration =>
      by_cases idle : session.ctx.state = .disconnected
      · have refused : mqttsnCDisconnect session now duration = session := if_pos idle
        rw [Session.step, refused]
        exact .refl session
      · rw [Session.step, disconnect_eq session now duration idle]
        exact (Adds.trans (.one (emit_log ..) trivial) (.one (toState_log ..) trivial)).trans
          (.one (issue_log ..) rfl)
  | publish now index qos data =>
      rw [Session.step, mqttsnCPublish]
      split
      · exact .refl session
      · split
        · exact .refl session
        · rw [publish_eq]
          refine Adds.trans (Adds.trans ?_ (.one (issue_log ..) rfl)) (.one (emit_log ..) trivial)
          unfold Session.prepare
          split
          · exact .one (toState_log ..) trivial
          · exact .refl session
  | setPublishCallback | setPubackCallback => exact ⟨[], (List.append_nil _).symm, by simp⟩

end Wants

/-! ### Exact messages -/

/-- What the event hands to `cb_send` stands exactly for the message that was wanted, if and only if
this is not a SUBSCRIBE; a retransmission has the DUP flag. -/
def ExactUnlessSubscribe (front : List Event) : Event → Prop
  | .send bytes _ message => Exact bytes message ↔ message.isSubscribe = false
  | .resend bytes => ∃ request, outstanding front = some request ∧
      (Exact bytes request.message.dup ↔ request.message.isSubscribe = false)
  | _ => True

theorem exactUnlessSubscribe_of_faithful {front : List Event} {event : Event}
    (faithful : Faithful front event) : ExactUnlessSubscribe front event := by
  cases event with
  | send bytes retry message =>
      obtain ⟨stale, fits, rfl⟩ := faithful
      exact exact_wire_iff message stale (size_lt_of_fits fits)
  | resend bytes =>
      obtain ⟨request, stale, other, isOutstanding, fits, -, rfl, -⟩ := faithful
      refine ⟨request, isOutstanding, ?_⟩
      have short : request.message.dup.size < 256 := by
        rw [dup_size]
        exact size_lt_of_fits fits
      rw [exact_wire_iff _ other short, dup_isSubscribe]
  | connect | disconnect | received | entered | cbPublish | acked | cbPuback | published
  | registered => trivial

/-- **Every message of every run is exact, except for a SUBSCRIBE.** It does not matter what the
buffer held in the beginning. The message that a transmission stands for is the one that the call is
to send. -/
theorem sent_exact_iff (config : Config) (buffer : Memory) (inputs : List Input) :
    let session := (Session.fresh buffer).run config inputs
    Always ExactUnlessSubscribe session.log ∧
      ∀ input, let after := session.step config input
        Adds (Event.Sends fun message => config.Wants session.ctx after.ctx message input) session
          after := by
  have faithful : Always Faithful ((Session.fresh buffer).run config inputs).log :=
    (run_consistent (P := fun session => Always Faithful session.log)
      (fresh_consistent config buffer) always_nil
      (fun _ _ op consistent => op_always op consistent (faithful_logs consistent))
      (along_any config _ inputs)).2
  exact ⟨faithful.mono fun _ _ => exactUnlessSubscribe_of_faithful, step_wants⟩

/-- A topic table with one entry. -/
def Table.single (topic : Topic) (name : CString) (isName : topic.name = some name)
    (fits : topic.offset + name.val.length + 1 ≤ maxPacket) : Table where
  entry index := if index = 0 then topic else ⟨none, 0#8⟩
  length := 1
  named := by
    intro index inside
    rw [if_pos (Nat.lt_one_iff.mp inside), isName]
    rfl
  ended := rfl
  few := by decide
  fits := by
    intro index inside other isOther
    rw [if_pos (Nat.lt_one_iff.mp inside), isName] at isOther
    rw [if_pos (Nat.lt_one_iff.mp inside), ← Option.some.inj isOther]
    exact fits

/-- A topic table without entries. -/
def Table.empty : Table := ⟨fun _ => ⟨none, 0#8⟩, 0, nofun, rfl, by decide, nofun⟩

theorem letter_a : 0#8 ∉ [0x61#8] := by decide

theorem letter_c : 0#8 ∉ [0x63#8] := by decide

theorem letter_short : [0x63#8].length < maxClientId := by decide

/-- A client that subscribes to the topic `a`. -/
def subscriber : Config where
  clientId := ⟨[0x63#8], letter_c⟩
  topics := .single ⟨some ⟨[0x61#8], letter_a⟩, regSubscribe⟩ ⟨[0x61#8], letter_a⟩ rfl (by decide)
  short := letter_short

/-- The SUBSCRIBE of a client asks for the topic `a` followed by two zero bytes. -/
theorem subscribe_not_exact :
    let log := ((Session.fresh fun _ => 0#8).run subscriber
      [.connect fun _ => 0#32, .handler (fun _ => 0#32) (some [3#8, 0x05#8, 0x00#8])]).log
    let bytes := [8#8, 0x12#8, 0x00#8, 0x00#8, 0x00#8, 0x61#8, 0x00#8, 0x00#8]
    .send bytes true (.subscribe 0x00#8 0#16 [0x61#8]) ∈ log ∧
      decode bytes = some (.subscribe 0x00#8 0#16 [0x61#8, 0x00#8, 0x00#8]) ∧
      ¬Exact bytes (.subscribe 0x00#8 0#16 [0x61#8]) := by
  intro log bytes
  have decoded : decode bytes = some (.subscribe 0x00#8 0#16 [0x61#8, 0x00#8, 0x00#8]) := by
    decide +kernel
  have sent : .send bytes true (.subscribe 0x00#8 0#16 [0x61#8]) ∈ log := by decide +kernel
  refine ⟨sent, decoded, fun exact => ?_⟩
  rw [exact.decoded] at decoded
  revert decoded
  decide

end TinyHan.Mqttsn
