/-
**The declared length of a message.**

The first byte of an MQTT-SN message is its length. `mqttsn_c_handler` compares it with the size of
the datagram, and then hands the size to the handlers. So what stands behind the message counts as
part of it: it satisfies the check of a handler on its minimum size, and it is delivered with the
data of a PUBLISH. A call for a datagram and one for the message in it are compared by what they do
to the context and outside of the client (`Session.Alike`):

* `handle_alike` — a handler that both calls enter reads the same bytes;
* `handle_moves` — a handler that only one of them enters shows;
* `declared_length_delimits_iff` — the calls are alike unless the client uses what stands behind the
  message (`Ctx.UsesTrailing`).
-/

import TinyHan.Mqttsn.Publishing

namespace TinyHan.Mqttsn

open TinyHan.Lib

/-! ### What a call does -/

/-- What a client does outside of its context. -/
inductive Effect where
  /-- The bytes are handed to `cb_send`. -/
  | sent (bytes : List Byte)
  | cbPublish (index : Nat) (data : List Byte)
  | cbPuback (msgId : BitVec 16) (result : Result)
  deriving DecidableEq, Repr

/-- The effect of an event. -/
def Event.effect : Event → Option Effect
  | .send bytes _ _ | .resend bytes => some (.sent bytes)
  | .cbPublish index data => some (.cbPublish index data)
  | .cbPuback msgId result => some (.cbPuback msgId result)
  | _ => none

/-- The effects of a session so far, in order. -/
def Session.effects (session : Session) : List Effect := session.log.filterMap Event.effect

theorem effects_emit (session : Session) (event : Event) :
    (session.emit event).effects = session.effects ++ event.effect.toList := by
  rw [Session.effects, Session.emit, List.filterMap_append, List.filterMap_cons]
  cases event.effect <;> rfl

/-- Two sessions with the same context and the same effects. -/
structure Session.Alike (one two : Session) : Prop where
  ctx : one.ctx = two.ctx
  effects : one.effects = two.effects

section Alike

variable {one two : Session} (alike : one.Alike two)

include alike

theorem Session.Alike.update (change : Ctx → Ctx) :
    (one.update change).Alike (two.update change) :=
  ⟨congrArg change alike.ctx, alike.effects⟩

theorem Session.Alike.emit (event : Event) : (one.emit event).Alike (two.emit event) := by
  refine ⟨alike.ctx, ?_⟩
  rw [effects_emit, effects_emit, alike.effects]

theorem Session.Alike.toState (state : State) :
    (mqttsnToState one state).Alike (mqttsnToState two state) :=
  (alike.update _).emit _

end Alike

/-- What a client logs of an inbound message is no effect. -/
theorem received_alike (session : Session) (datagram other : List Byte) :
    (session.emit (.received datagram)).Alike (session.emit (.received other)) := by
  refine ⟨rfl, ?_⟩
  rw [effects_emit, effects_emit]
  rfl

/-! ### Registrations -/

/-- A part of the client that looks at the context, and only adds to the log. -/
def Appends (part : Session → Session) : Prop :=
  ∀ ctx, ∃ after new, ∀ log, part ⟨ctx, log⟩ = ⟨after, log ++ new⟩

theorem appends_update (change : Ctx → Ctx) : Appends fun session => session.update change :=
  fun ctx => ⟨change ctx, [], fun log => by rw [List.append_nil]; rfl⟩

theorem appends_emit (event : Ctx → Event) :
    Appends fun session => session.emit (event session.ctx) :=
  fun ctx => ⟨ctx, [event ctx], fun _ => rfl⟩

theorem Appends.then {first second : Session → Session} (one : Appends first)
    (two : Appends second) : Appends fun session => second (first session) := by
  intro ctx
  obtain ⟨between, new, starts⟩ := one ctx
  obtain ⟨after, more, goes⟩ := two between
  refine ⟨after, new ++ more, fun log => ?_⟩
  show second (first ⟨ctx, log⟩) = _
  rw [starts, goes, List.append_assoc]

theorem appends_toState (state : State) : Appends fun session => mqttsnToState session state :=
  (appends_update _).then (appends_emit fun _ => .entered state)

theorem appends_send (now : Nat → Time) (type : MsgType) (size : Nat) (doRetry : Bool)
    (message : Message) :
    Appends fun session => mqttsnSend session now type size doRetry message :=
  (appends_update _).then
    (appends_emit fun ctx => .send (window ctx.memory 0 size) doRetry message)

theorem appends_register (now : Nat → Time) (msgId : BitVec 16) (topic : CString) :
    Appends fun session => mqttsnRegister session now msgId topic := by
  unfold mqttsnRegister
  exact ((appends_toState .busy).then (appends_update _)).then (appends_send _ _ _ _ _)

theorem appends_subscribe (now : Nat → Time) (msgId : BitVec 16) (topic : CString) (qos : Byte) :
    Appends fun session => mqttsnSubscribe session now msgId topic qos := by
  unfold mqttsnSubscribe Session.mark
  exact (((appends_toState .busy).then (appends_update _)).then (appends_send _ _ _ _ _)).then
    (appends_update _)

theorem appends_request (now : Nat → Time) (topic : Topic) (name : CString) :
    Appends fun session => session.request now topic name := by
  intro ctx
  have counts := appends_update fun ctx => { ctx with count := ctx.count + 1 }
  unfold Session.request
  dsimp only
  by_cases subscribes : topic.subscribes = true
  · simp only [if_pos subscribes]
    exact ((appends_subscribe now (BitVec.ofNat 16 ctx.count) name _).then counts) ctx
  · simp only [if_neg subscribes]
    exact ((appends_register now (BitVec.ofNat 16 ctx.count) name).then counts) ctx

/-- The part about the registrations is such a part. -/
theorem appends_driveRegistration (entry : Nat → Topic) (now : Nat → Time) :
    Appends fun session => session.driveRegistration entry now := by
  intro ctx
  unfold Session.driveRegistration
  dsimp only
  by_cases registering : ctx.state = .registering
  · simp only [if_pos registering]
    cases (entry ctx.count).name with
    | none =>
        exact (((appends_update _).then (appends_emit fun _ => .registered)).then
          (appends_toState .connected)) ctx
    | some name => exact appends_request _ _ name ctx
  · simp only [if_neg registering]
    exact ⟨ctx, [], fun log => by rw [List.append_nil]⟩

/-- It tells sessions apart as they were told apart before. -/
theorem driveRegistration_alike_iff {one two : Session} (same : one.ctx = two.ctx)
    (entry : Nat → Topic) (now : Nat → Time) :
    (one.driveRegistration entry now).Alike (two.driveRegistration entry now) ↔ one.Alike two := by
  obtain ⟨ctx, log⟩ := one
  obtain ⟨other, logged⟩ := two
  obtain rfl : ctx = other := same
  obtain ⟨after, new, drives⟩ := appends_driveRegistration entry now ctx
  dsimp only at drives
  rw [drives, drives]
  have effects (log : List Event) :
      (Session.mk after (log ++ new)).effects = (Session.mk ctx log).effects ++
        new.filterMap Event.effect := List.filterMap_append
  constructor
  · intro alike
    have same := alike.effects
    rw [effects, effects] at same
    exact ⟨rfl, List.append_cancel_right same⟩
  · intro alike
    refine ⟨rfl, ?_⟩
    rw [effects, effects, alike.effects]

/-! ### The handlers -/

/-- The switch over the types of an inbound message. -/
def Session.handle (session : Session) (entry : Nat → Topic) (buf : Memory) (size : Nat) :
    MsgType → Session
  | .connack => mqttsnConnackHandler session buf size
  | .regack => mqttsnRegackHandler session buf size
  | .publish => mqttsnPublishHandler session buf size entry
  | .puback => mqttsnPubackHandler session buf size
  | .suback => mqttsnSubackHandler session buf size
  | .disconnect => mqttsnDisconnectHandler session
  | _ => session

/-- The minimum size that the handler of a type asks for. -/
def MsgType.least : MsgType → Nat
  | .connack => sizeofConnack
  | .regack => sizeofRegack
  | .publish => sizeofPublish
  | .puback => sizeofPuback
  | .suback => sizeofSuback
  | _ => sizeofHeader

/-- The client waits for this acknowledgement of a topic. -/
def Ctx.answeredBy (ctx : Ctx) (buf : Memory) (ack : Ack) : Prop :=
  ctx.state = .busy ∧ ctx.msgType = ack.request.code ∧
    raw16 buf ack.msgId = raw16 ctx.message ack.sentId

/-- The checks of a handler behind that of the size: a message of this type changes the client, or
is reported to the application. -/
def Ctx.takes (ctx : Ctx) (entry : Nat → Topic) (buf : Memory) : MsgType → Prop
  | .connack => ctx.state = .connecting ∧ ctx.msgType = MsgType.connect.code
  | .regack => ctx.answeredBy buf .regack
  | .publish => ctx.cbPublish = true ∧ (ctx.subscription entry (htons (raw16 buf 3))).isSome = true
  | .puback => ctx.state = .busy ∧ raw16 buf 4 = raw16 ctx.message 5
  | .suback => ctx.answeredBy buf .suback
  | _ => False

section Handlers

variable (session : Session) (entry : Nat → Topic) (buf : Memory) (size : Nat)

theorem processInbound_eq {datagram : List Byte} (header : sizeofHeader ≤ datagram.length)
    (declared : (datagram.getD 0 0#8).toNat ≤ datagram.length) :
    session.processInbound entry datagram =
      match MsgType.ofCode (datagram.getD 1 0#8) with
      | some type => (session.emit (.received datagram)).handle entry (ofList datagram)
          datagram.length type
      | none => session.emit (.received datagram) := by
  rw [Session.processInbound, if_pos ⟨header, declared⟩]
  cases MsgType.ofCode (datagram.getD 1 0#8) with
  | none => rfl
  | some type => cases type <;> rfl

theorem ackHandler_idle {ack : Ack}
    (idle : ¬ (ack.size ≤ size ∧ session.ctx.answeredBy buf ack)) :
    mqttsnAckHandler session buf size ack = session := by
  unfold mqttsnAckHandler
  split_ifs with short other unequal
  · rfl
  · rfl
  · rfl
  · refine absurd ⟨not_lt.mp short, ?_⟩ idle
    exact ⟨not_not.mp (not_or.mp other).1, not_not.mp (not_or.mp other).2, not_not.mp unequal⟩

/-- A handler whose checks fail does nothing. -/
theorem handle_idle {type : MsgType} (ends : type ≠ .disconnect)
    (idle : ¬ (type.least ≤ size ∧ session.ctx.takes entry buf type)) :
    session.handle entry buf size type = session := by
  cases type with
  | connack =>
      simp only [Session.handle, mqttsnConnackHandler]
      split_ifs with short other accepted
      · rfl
      · rfl
      all_goals
        refine absurd ⟨not_lt.mp short, ?_⟩ idle
        exact ⟨not_not.mp (not_or.mp other).1, not_not.mp (not_or.mp other).2⟩
  | regack => exact ackHandler_idle session buf size idle
  | suback => exact ackHandler_idle session buf size idle
  | puback =>
      simp only [Session.handle, mqttsnPubackHandler]
      split_ifs with short other unequal
      · rfl
      · rfl
      · rfl
      · exact absurd ⟨not_lt.mp short, not_not.mp other, not_not.mp unequal⟩ idle
  | publish =>
      simp only [Session.handle, mqttsnPublishHandler]
      split_ifs with short callback
      · rfl
      · split
        · rfl
        · next index found =>
          refine absurd ⟨not_lt.mp short, callback, ?_⟩ idle
          exact Option.isSome_iff_exists.mpr ⟨index, found⟩
      · split <;> rfl
  | disconnect => exact absurd rfl ends
  | connect | register | subscribe | pingreq => rfl

/-- A PUBLISH that is taken is reported, with everything behind its fixed part. -/
theorem handle_publish (long : sizeofPublish ≤ size)
    (takes : session.ctx.takes entry buf .publish) :
    (session.handle entry buf size .publish).ctx = session.ctx ∧
      ∃ index, (session.handle entry buf size .publish).effects = session.effects ++
        [.cbPublish index (window buf sizeofPublish (size - sizeofPublish))] := by
  obtain ⟨callback, found⟩ := takes
  obtain ⟨index, found⟩ := Option.isSome_iff_exists.mp found
  have reports : session.handle entry buf size .publish =
      session.emit (.cbPublish index (window buf sizeofPublish (size - sizeofPublish))) := by
    unfold Ctx.subscription at found
    simp only [Session.handle, mqttsnPublishHandler, if_neg (not_lt.mpr long), found,
      if_pos callback]
  rw [reports]
  exact ⟨rfl, index, effects_emit session _⟩

end Handlers

section Reading

variable {one two : Session} {buf other : Memory} {size more : Nat}

/-- A field that two buffers agree on. -/
theorem raw16_congr {count : Nat} (same : SameFront count buf other) {place : Nat}
    (inside : place + 2 ≤ count) : raw16 buf place = raw16 other place := by
  rw [raw16, raw16, same.window_eq inside]

theorem ackHandler_alike (alike : one.Alike two) {ack : Ack}
    (same : SameFront ack.size buf other) (fields : ack.topicId + 2 ≤ ack.size ∧
      ack.msgId + 2 ≤ ack.size ∧ ack.returnCode < ack.size)
    (long : ack.size ≤ size) (longer : ack.size ≤ more) :
    (mqttsnAckHandler one buf size ack).Alike (mqttsnAckHandler two other more ack) := by
  obtain ⟨topicId, msgId, returnCode⟩ := fields
  have answers (ctx : Ctx) : ctx.answer ack buf = ctx.answer ack other := by
    unfold Ctx.answer
    rw [same _ returnCode, raw16_congr same topicId, raw16_congr same msgId]
  unfold mqttsnAckHandler
  rw [if_neg (not_lt.mpr long), if_neg (not_lt.mpr longer), alike.ctx, raw16_congr same msgId]
  split_ifs
  · exact alike
  · exact alike
  · simp only [answers]
    exact (alike.update _).toState _

/-- **A handler that both calls enter** reads the same bytes of the message. -/
theorem handle_alike (alike : one.Alike two) (entry : Nat → Topic) {type : MsgType}
    (acks : type ≠ .publish) (same : SameFront type.least buf other)
    (long : type.least ≤ size) (longer : type.least ≤ more) :
    (one.handle entry buf size type).Alike (two.handle entry other more type) := by
  cases type with
  | connack =>
      simp only [Session.handle, mqttsnConnackHandler]
      have enters : ¬ size < sizeofConnack ∧ ¬ more < sizeofConnack :=
        ⟨not_lt.mpr long, not_lt.mpr longer⟩
      rw [if_neg enters.1, if_neg enters.2, alike.ctx, same 2 (by decide)]
      split
      · exact alike
      · split
        · have cleared := alike.update fun ctx => { ctx with count := 0 }
          rw [cleared.ctx]
          exact cleared.toState _
        · exact alike.toState _
  | regack => exact ackHandler_alike alike same (by decide) long longer
  | suback => exact ackHandler_alike alike same (by decide) long longer
  | puback =>
      simp only [Session.handle, mqttsnPubackHandler]
      have enters : ¬ size < sizeofPuback ∧ ¬ more < sizeofPuback :=
        ⟨not_lt.mpr long, not_lt.mpr longer⟩
      have id : raw16 buf 4 = raw16 other 4 := raw16_congr same (by decide)
      rw [if_neg enters.1, if_neg enters.2, alike.ctx, id]
      split_ifs
      · exact alike
      · exact alike
      · refine Session.Alike.toState ?_ _
        have acked := alike.emit (.acked (raw16 other 4))
        simp only [Session.acknowledge, id, same 6 (by decide)]
        rw [acked.ctx]
        split
        · exact acked.emit _
        · exact acked
  | publish => exact absurd rfl acks
  | disconnect => exact alike.toState _
  | connect | register | subscribe | pingreq => exact alike

end Reading

section Moves

variable (session : Session) {entry : Nat → Topic} {buf : Memory} {size : Nat}

theorem driveRegistration_idle (idle : session.ctx.state ≠ .registering) (now : Nat → Time) :
    session.driveRegistration entry now = session := if_neg idle

variable (entry) in
/-- A client that registers asks for the next topic, or is through. -/
theorem driveRegistration_moves (registering : session.ctx.state = .registering)
    (now : Nat → Time) :
    (session.driveRegistration entry now).ctx.state = .connected ∨
      (session.driveRegistration entry now).ctx.state = .busy ∧
        (session.driveRegistration entry now).ctx.count = session.ctx.count + 1 := by
  unfold Session.driveRegistration
  rw [if_pos registering]
  dsimp only
  split
  · exact .inl rfl
  · unfold Session.request
    dsimp only
    split <;> exact .inr ⟨rfl, rfl⟩

theorem ackHandler_moves {ack : Ack} (long : ack.size ≤ size)
    (answered : session.ctx.answeredBy buf ack) (now : Nat → Time) :
    ((mqttsnAckHandler session buf size ack).driveRegistration entry now).ctx ≠ session.ctx := by
  obtain ⟨busy, request, id⟩ := answered
  have answers : mqttsnAckHandler session buf size ack =
      mqttsnToState (session.update fun ctx => ctx.answer ack buf) .registering := by
    rw [mqttsnAckHandler, if_neg (not_lt.mpr long), if_neg (by simp [busy, request]),
      if_neg (not_not.mpr id)]
  have counted : (session.ctx.answer ack buf).count = session.ctx.count := by
    unfold Ctx.answer
    split <;> rfl
  rw [answers]
  intro same
  rcases driveRegistration_moves (mqttsnToState (session.update fun ctx => ctx.answer ack buf)
    .registering) entry rfl now with state | ⟨-, count⟩
  · rw [same, busy] at state
    cases state
  · rw [same] at count
    have next : session.ctx.count = (session.ctx.answer ack buf).count + 1 := count
    omega

/-- **A handler that only one of the calls enters** shows: the client is not where it was. -/
theorem handle_moves {type : MsgType} (acks : type ≠ .publish) (long : type.least ≤ size)
    (takes : session.ctx.takes entry buf type) (now : Nat → Time) :
    ((session.handle entry buf size type).driveRegistration entry now).ctx ≠ session.ctx := by
  cases type with
  | connack =>
      obtain ⟨connecting, connect⟩ := takes
      intro same
      have enters : ¬ size < sizeofConnack := not_lt.mpr long
      have left : (session.handle entry buf size .connack).ctx.state ≠ .connecting := by
        simp only [Session.handle, mqttsnConnackHandler, if_neg enters, connecting, connect,
          ne_eq, not_true_eq_false, or_self, if_false]
        split
        · show (if session.ctx.isRegistered then State.connected else .registering) ≠ _
          split <;> nofun
        · nofun
      by_cases registering : (session.handle entry buf size .connack).ctx.state = .registering
      · rcases driveRegistration_moves _ entry registering now with state | ⟨state, -⟩ <;>
          rw [same, connecting] at state <;> cases state
      · rw [driveRegistration_idle _ registering] at same
        exact left (same ▸ connecting)
  | regack => exact ackHandler_moves session long takes now
  | suback => exact ackHandler_moves session long takes now
  | puback =>
      obtain ⟨busy, id⟩ := takes
      have enters : ¬ size < sizeofPuback := not_lt.mpr long
      have connected : (session.handle entry buf size .puback).ctx.state = .connected := by
        simp only [Session.handle, mqttsnPubackHandler, if_neg enters, busy, id, ne_eq,
          not_true_eq_false, if_false]
        rfl
      rw [driveRegistration_idle _ (by rw [connected]; nofun)]
      intro same
      rw [same, busy] at connected
      cases connected
  | publish => exact absurd rfl acks
  | disconnect | connect | register | subscribe | pingreq => exact takes.elim

end Moves

/-! ### The timers -/

/-- The session in front of the part about the inbound packet. -/
def Session.checked (session : Session) (now : Nat → Time) : Session :=
  (session.checkRetry now).checkPing now

section Checks

variable (session : Session) (now : Nat → Time)

theorem checkRetry_state : (session.checkRetry now).ctx.state =
    if session.ctx.givesUp now then .disconnected else session.ctx.state := by
  unfold Session.checkRetry
  by_cases expired : session.ctx.expired now
  · by_cases spent : session.ctx.nRetries = 0
    · rw [if_pos expired, if_neg (not_not.mpr spent), if_pos ⟨expired, spent⟩]
      rfl
    · rw [if_pos expired, if_pos spent, if_neg fun both => spent both.2]
      rfl
  · rw [if_neg expired, if_neg fun both => expired both.1]

theorem checked_state : (session.checked now).ctx.state =
    if session.ctx.givesUp now then .disconnected else session.ctx.state := by
  rw [← checkRetry_state, Session.checked, Session.checkPing]
  split <;> rfl

/-- The timers leave the message in the buffer, unless there is a PINGREQ. -/
theorem checked_message (waits : session.ctx.state ≠ .connected) :
    (session.checked now).ctx.message = session.ctx.message := by
  have quiet : (session.checkRetry now).checkPing now = session.checkRetry now := by
    refine if_neg fun due => ?_
    have connected := due.1
    rw [checkRetry_state] at connected
    split at connected
    · cases connected
    · exact waits connected
  rw [Session.checked, quiet, Session.checkRetry]
  split_ifs <;> rfl

/-- They leave what a PUBLISH is looked up in. -/
theorem checked_registry : (session.checked now).ctx.topicIds = session.ctx.topicIds ∧
    (session.checked now).ctx.cbPublish = session.ctx.cbPublish := by
  unfold Session.checked Session.checkPing Session.checkRetry
  split_ifs <;> exact ⟨rfl, rfl⟩

omit session now in
/-- A client takes an acknowledgement only while it waits for one. -/
theorem Ctx.takes.waits {ctx : Ctx} {entry : Nat → Topic} {buf : Memory} {type : MsgType}
    (takes : ctx.takes entry buf type) (acks : type ≠ .publish) :
    ctx.state = .connecting ∨ ctx.state = .busy := by
  cases type with
  | connack => exact .inl takes.1
  | regack | puback | suback => exact .inr takes.1
  | publish => exact absurd rfl acks
  | disconnect | connect | register | subscribe | pingreq => exact takes.elim

omit session now in
theorem Ctx.not_takes {ctx : Ctx} {entry : Nat → Topic} {buf : Memory} {type : MsgType}
    (acks : type ≠ .publish) (rests : ctx.state = .disconnected ∨ ctx.state = .connected) :
    ¬ ctx.takes entry buf type := by
  intro takes
  rcases rests with rests | rests <;> rcases takes.waits acks with waits | waits <;>
    cases rests.symm.trans waits

/-- **The checks of a handler behind the timers**: a client that gives up takes no
acknowledgement. -/
theorem checked_takes_iff (entry : Nat → Topic) (buf : Memory) (type : MsgType) :
    (session.checked now).ctx.takes entry buf type ↔
      (type ≠ .publish → ¬ session.ctx.givesUp now) ∧ session.ctx.takes entry buf type := by
  have state := checked_state session now
  by_cases publish : type = .publish
  · subst publish
    obtain ⟨topicIds, cbPublish⟩ := checked_registry session now
    simp [Ctx.takes, Ctx.subscription, topicIds, cbPublish]
  by_cases gaveUp : session.ctx.givesUp now
  · rw [if_pos gaveUp] at state
    exact iff_of_false (Ctx.not_takes publish (.inl state)) fun both => both.1 publish gaveUp
  rw [if_neg gaveUp] at state
  by_cases connected : session.ctx.state = .connected
  · exact iff_of_false (Ctx.not_takes publish (.inr (state.trans connected)))
      fun both => Ctx.not_takes publish (.inr connected) both.2
  · have message := checked_message session now connected
    have same : (session.checked now).ctx.takes entry buf type ↔
        session.ctx.takes entry buf type := by
      cases type with
      | publish => exact absurd rfl publish
      | _ => simp only [Ctx.takes, Ctx.answeredBy, Ctx.msgType, state, message]
    rw [same]
    exact (and_iff_right fun _ => gaveUp).symm

end Checks

/-! ### The message and the datagram -/

/-- The first byte of a datagram. -/
def declaredLength (datagram : List Byte) : Nat := (datagram.getD 0 0#8).toNat

/-- The client takes a message with the help of what stands behind it: it is a PUBLISH whose data
goes on there, or an acknowledgement that is too short without it. -/
def Ctx.UsesTrailing (ctx : Ctx) (entry : Nat → Topic) (now : Nat → Time) (datagram : List Byte) :
    Prop :=
  ∃ type, MsgType.ofCode (datagram.getD 1 0#8) = some type ∧
    declaredLength datagram < datagram.length ∧ type.least ≤ datagram.length ∧
    (type = .publish ∨ declaredLength datagram < type.least ∧ ¬ ctx.givesUp now) ∧
    ctx.takes entry (ofList datagram) type

section Cut

variable {datagram : List Byte} {count : Nat}

theorem getD_take {place : Nat} (inside : place < count) :
    (datagram.take count).getD place 0#8 = datagram.getD place 0#8 := by
  rw [List.getD_eq_getElem?_getD, List.getD_eq_getElem?_getD, List.getElem?_take_of_lt inside]

theorem sameFront_take : SameFront count (ofList datagram) (ofList (datagram.take count)) :=
  fun _ inside => (getD_take inside).symm

variable (session : Session) (entry : Nat → Topic) (now : Nat → Time) {type : MsgType}

/-- The acknowledgements: the handlers are entered together, or by neither, or the client uses what
is behind the message. -/
theorem handle_cut_iff (acks : type ≠ .publish) (header : sizeofHeader ≤ count)
    (fits : count ≤ datagram.length) :
    (((session.emit (.received datagram)).handle entry (ofList datagram) datagram.length
        type).driveRegistration entry now).Alike
      (((session.emit (.received (datagram.take count))).handle entry
        (ofList (datagram.take count)) count type).driveRegistration entry now) ↔
      ¬ (type.least ≤ datagram.length ∧ count < type.least ∧
        session.ctx.takes entry (ofList datagram) type) := by
  have received := received_alike session datagram (datagram.take count)
  rcases Nat.lt_or_ge count type.least with short | long
  · have ends : type ≠ .disconnect := by
      rintro rfl
      exact absurd short (not_lt.mpr header)
    rw [handle_idle _ _ _ _ ends fun entered => absurd entered.1 (not_le.mpr short)]
    by_cases taken : type.least ≤ datagram.length ∧ session.ctx.takes entry (ofList datagram) type
    · refine iff_of_false (fun alike => ?_) fun none => none ⟨taken.1, short, taken.2⟩
      have still : session.ctx.state ≠ .registering := by
        rcases taken.2.waits acks with waits | waits <;> rw [waits] <;> nofun
      have same := alike.ctx
      rw [driveRegistration_idle (session.emit (.received (datagram.take count))) still] at same
      exact handle_moves (session.emit (.received datagram)) acks taken.1 taken.2 now same
    · rw [handle_idle (session.emit (.received datagram)) entry _ _ ends taken,
        driveRegistration_alike_iff received.ctx]
      exact iff_of_true received fun uses => taken ⟨uses.1, uses.2.2⟩
  · have front : SameFront type.least (ofList datagram) (ofList (datagram.take count)) :=
      fun place inside => sameFront_take place (inside.trans_le long)
    have alike := handle_alike received entry acks front (long.trans fits) long
    rw [driveRegistration_alike_iff alike.ctx]
    exact iff_of_true alike fun uses => absurd uses.2.1 (not_lt.mpr long)

theorem takes_publish_congr (ctx : Ctx) {buf other : Memory}
    (same : SameFront sizeofPublish buf other) :
    ctx.takes entry buf .publish ↔ ctx.takes entry other .publish := by
  have topicId : raw16 buf 3 = raw16 other 3 := raw16_congr same (by decide)
  simp only [Ctx.takes, Ctx.subscription, topicId]

/-- A PUBLISH: the data goes on behind the message. -/
theorem publish_cut_iff (less : count < datagram.length) :
    (((session.emit (.received datagram)).handle entry (ofList datagram) datagram.length
        .publish).driveRegistration entry now).Alike
      (((session.emit (.received (datagram.take count))).handle entry
        (ofList (datagram.take count)) count .publish).driveRegistration entry now) ↔
      ¬ (sizeofPublish ≤ datagram.length ∧
        session.ctx.takes entry (ofList datagram) .publish) := by
  have received := received_alike session datagram (datagram.take count)
  have other : MsgType.publish ≠ .disconnect := nofun
  have together (long : sizeofPublish ≤ count) :
      session.ctx.takes entry (ofList datagram) .publish ↔
        session.ctx.takes entry (ofList (datagram.take count)) .publish :=
    takes_publish_congr entry session.ctx fun place inside =>
      sameFront_take place (inside.trans_le long)
  by_cases taken : sizeofPublish ≤ datagram.length ∧
      session.ctx.takes entry (ofList datagram) .publish
  · refine iff_of_false (fun alike => ?_) fun none => none taken
    obtain ⟨ctx, index, whole⟩ := handle_publish (session.emit (.received datagram)) entry
      (ofList datagram) datagram.length taken.1 taken.2
    by_cases long : sizeofPublish ≤ count
    · obtain ⟨same, again, part⟩ := handle_publish (session.emit (.received (datagram.take count)))
        entry (ofList (datagram.take count)) count long ((together long).mp taken.2)
      have effects :=
        ((driveRegistration_alike_iff (ctx.trans same.symm) entry now).mp alike).effects
      rw [whole, part, received.effects] at effects
      have reported := (Effect.cbPublish.inj (List.cons.inj (List.append_cancel_left effects)).1).2
      have lengths := congrArg List.length reported
      rw [window_length, window_length] at lengths
      omega
    · rw [handle_idle (session.emit (.received (datagram.take count))) entry _ _ other
        fun entered => long entered.1] at alike
      have effects :=
        ((driveRegistration_alike_iff (ctx.trans received.ctx) entry now).mp alike).effects
      rw [whole, received.effects] at effects
      cases List.append_right_eq_self.mp effects
  · have untaken : ¬ (sizeofPublish ≤ count ∧
        session.ctx.takes entry (ofList (datagram.take count)) .publish) := fun both =>
      taken ⟨both.1.trans less.le, (together both.1).mpr both.2⟩
    rw [handle_idle (session.emit (.received datagram)) entry _ _ other taken,
      handle_idle (session.emit (.received (datagram.take count))) entry _ _ other untaken,
      driveRegistration_alike_iff received.ctx]
    exact iff_of_true received taken

end Cut

/-- **The declared length delimits a message** in every state and for every datagram, unless the
client uses what stands behind it. -/
theorem declared_length_delimits_iff (entry : Nat → Topic) (session : Session) (now : Nat → Time)
    (datagram : List Byte) (header : 2 ≤ declaredLength datagram)
    (fits : declaredLength datagram ≤ datagram.length) :
    (mqttsnCHandler entry session now (some datagram)).Alike
        (mqttsnCHandler entry session now (some (datagram.take (declaredLength datagram)))) ↔
      ¬ session.ctx.UsesTrailing entry now datagram := by
  rcases fits.eq_or_lt with whole | less
  · rw [whole, List.take_length]
    exact iff_of_true ⟨rfl, rfl⟩ fun ⟨_, _, less, _⟩ => absurd whole less.ne
  have cut : (datagram.take (declaredLength datagram)).length = declaredLength datagram :=
    List.length_take_of_le fits
  have first : ((datagram.take (declaredLength datagram)).getD 0 0#8).toNat =
      declaredLength datagram := by
    rw [getD_take (by omega)]
    rfl
  have whole := processInbound_eq (session.checked now) entry (header.trans fits) fits
  have part := processInbound_eq (session.checked now) entry (header.trans_eq cut.symm)
    (first.trans cut.symm).le
  rw [getD_take header, cut] at part
  show (((session.checked now).processInbound entry datagram).driveRegistration entry now).Alike
      (((session.checked now).processInbound entry _).driveRegistration entry now) ↔ _
  rw [whole, part]
  cases code : MsgType.ofCode (datagram.getD 1 0#8) with
  | none =>
      have received := received_alike (session.checked now) datagram
        (datagram.take (declaredLength datagram))
      refine iff_of_true ((driveRegistration_alike_iff received.ctx entry now).mpr received) ?_
      rintro ⟨type, is, -⟩
      rw [code] at is
      cases is
  | some type =>
      have uses : session.ctx.UsesTrailing entry now datagram ↔
          type.least ≤ datagram.length ∧
            (type = .publish ∨ declaredLength datagram < type.least ∧ ¬ session.ctx.givesUp now) ∧
            session.ctx.takes entry (ofList datagram) type := by
        simp only [Ctx.UsesTrailing, code, less, Option.some.injEq, exists_eq_left', true_and]
      rw [uses]
      by_cases publish : type = .publish
      · subst publish
        rw [publish_cut_iff _ _ _ less, checked_takes_iff]
        simp [MsgType.least]
      · rw [handle_cut_iff _ _ _ publish header fits, checked_takes_iff]
        simp only [publish, ne_eq, not_false_eq_true, true_implies, false_or, and_assoc]

/-- A byte behind a whole CONNACK makes no difference. -/
theorem declared_length_delimits_connack :
    let session := mqttsnCInit.run subscriber [.connect fun _ => 0#32]
    let handle := fun datagram =>
      mqttsnCHandler subscriber.topics.entry session (fun _ => 0#32) (some datagram)
    (handle [3#8, 0x05#8, 0x00#8, 0xFF#8]).ctx.state = .busy ∧
      (handle [3#8, 0x05#8, 0x00#8, 0xFF#8]).Alike (handle [3#8, 0x05#8, 0x00#8]) := by
  intro session handle
  refine ⟨by decide +kernel, ?_⟩
  refine (declared_length_delimits_iff subscriber.topics.entry session (fun _ => 0#32)
    [3#8, 0x05#8, 0x00#8, 0xFF#8] (by decide) (by decide)).mpr ?_
  rintro ⟨type, code, -, -, shorter, -⟩
  cases (show some MsgType.connack = some type from code)
  rcases shorter with publish | ⟨shorter, -⟩
  · cases publish
  · exact absurd shorter (by decide)

/-- A CONNACK of two bytes is accepted because a third byte follows it, and the byte behind a
PUBLISH without data is delivered. -/
theorem trailing_bytes_used :
    let now : Nat → Time := fun _ => 0#32
    let connecting := mqttsnCInit.run subscriber [.connect now]
    let connack := fun datagram =>
      mqttsnCHandler subscriber.topics.entry connecting now (some datagram)
    let subscribed := mqttsnCInit.run subscriber [.setPublishCallback true, .connect now,
      .handler now (some [3#8, 0x05#8, 0x00#8]),
      .handler now (some [8#8, 0x13#8, 0x00#8, 0x00#8, 0x01#8, 0x00#8, 0x00#8, 0x00#8])]
    let publish := fun datagram =>
      mqttsnCHandler subscriber.topics.entry subscribed now (some datagram)
    let packet := [7#8, 0x0C#8, 0x00#8, 0x00#8, 0x01#8, 0x00#8, 0x00#8]
    ((connack [2#8, 0x05#8, 0x00#8]).ctx.state = .busy ∧
        (connack [2#8, 0x05#8]).ctx.state = .connecting ∧
        ¬ (connack [2#8, 0x05#8, 0x00#8]).Alike (connack [2#8, 0x05#8])) ∧
      (publish (packet ++ [0x2A#8])).effects = subscribed.effects ++ [.cbPublish 0 [0x2A#8]] ∧
      (publish packet).effects = subscribed.effects ++ [.cbPublish 0 []] ∧
      ¬ (publish (packet ++ [0x2A#8])).Alike (publish packet) := by
  intro now connecting connack subscribed publish packet
  have accepted : (connack [2#8, 0x05#8, 0x00#8]).ctx.state = .busy := by decide +kernel
  have refused : (connack [2#8, 0x05#8]).ctx.state = .connecting := by decide +kernel
  have extended : (publish (packet ++ [0x2A#8])).effects =
      subscribed.effects ++ [.cbPublish 0 [0x2A#8]] := by decide +kernel
  have bare : (publish packet).effects = subscribed.effects ++ [.cbPublish 0 []] := by
    decide +kernel
  refine ⟨⟨accepted, refused, fun alike => ?_⟩, extended, bare, fun alike => ?_⟩
  · rw [alike.ctx, refused] at accepted
    cases accepted
  · rw [alike.effects, bare] at extended
    exact absurd (List.append_cancel_left extended) (by decide)

end TinyHan.Mqttsn
