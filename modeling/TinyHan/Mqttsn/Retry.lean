/-
**Retransmissions.**

In a run that publishes with QoS 0 or 1 a retry timer is only pending while the client waits for an
answer, and the buffer then has the request that armed it. A retransmission is the request as it was
sent, with the DUP flag, and there are `MQTTSN_N_RETRY` of them at most: when the timer expires
again the client goes to Disconnected (`retry_integrity`).

This needs a topic table whose SUBSCRIBE messages lie in the buffer with all the bytes that the
client sends (`Config.Roomy`). The name of a subscription that just fits makes a message of 65
bytes: the last one is the number of retries that are left, and changes
(`subscribe_resent_changed`).

`Timed` is the invariant: the retries that are left and those made are `MQTTSN_N_RETRY` together.
-/

import TinyHan.Mqttsn.Exact

namespace TinyHan.Mqttsn

open TinyHan.Lib

/-- An environment that publishes with QoS 0 or 1. -/
def Rules.standard : Rules := { Rules.any with qos := fun qos => qos = 0 ∨ qos = 1 }

/-- What the client sends for a subscription lies in the buffer. -/
def Config.Roomy (config : Config) : Prop :=
  ∀ index < config.topics.length, ∀ name ∈ (config.topics.entry index).name,
    (config.topics.entry index).subscribes = true → sizeofSubscribe + name.val.length ≤ maxPacket

/-! ### The timer -/

/-- The retry timer is off, or counts the retransmissions of the request. -/
structure Timed (session : Session) : Prop where
  resting : session.ctx.state.waits = false → session.ctx.tRetry = 0
  waiting : session.ctx.state.waits = true → ∃ request, outstanding session.log = some request ∧
    request.retry = true ∧ session.ctx.nRetries + request.resends = nRetry

section Timed

variable {config : Config} {rules : Rules} {session before after : Session}

/-- An armed timer means that the client waits. -/
theorem Timed.waits (timed : Timed session) (armed : session.ctx.tRetry ≠ 0) :
    session.ctx.state.waits = true := by
  by_contra rests
  exact armed (timed.resting (Bool.eq_false_iff.mpr rests))

theorem timed_toState {state : State} (rests : state.waits = false) :
    Timed (mqttsnToState session state) where
  resting := fun _ => rfl
  waiting := fun waits => absurd (waits.symm.trans rests) (by decide)

theorem timed_issue {now : Nat → Time} {extra : List Byte} {message : Message}
    (waits : session.ctx.state.waits = true) : Timed (session.issue now extra message true) where
  resting := by
    intro rests
    rw [issue_state, waits] at rests
    cases rests
  waiting := by
    intro _
    refine ⟨_, outstanding_issue .., rfl, ?_⟩
    rw [issue_nRetries_of_retry _ _ _ _ _ rfl]
    rfl

theorem Timed.frame (timed : Timed session)
    (sameRequest : outstanding after.log = outstanding session.log)
    (sameState : after.ctx.state = session.ctx.state)
    (sameTimer : after.ctx.tRetry = session.ctx.tRetry)
    (sameLeft : after.ctx.nRetries = session.ctx.nRetries) : Timed after where
  resting := by
    rw [sameState, sameTimer]
    exact timed.resting
  waiting := by
    rw [sameState, sameRequest, sameLeft]
    exact timed.waiting

theorem Timed.emit {event : Event} (timed : Timed session)
    (silent : observeRequest (outstanding session.log) event = outstanding session.log) :
    Timed (session.emit event) := by
  refine timed.frame ?_ rfl rfl rfl
  rw [emit_log, outstanding_snoc, silent]

/-- A message that is not sent again leaves the timer off. -/
theorem Timed.issue_once (timed : Timed session) {now : Nat → Time} {extra : List Byte}
    {message : Message} (rests : session.ctx.state.waits = false) :
    Timed (session.issue now extra message false) where
  resting := by
    intro _
    rw [issue_tRetry_of_not_retry _ _ _ _ _ rfl]
    exact timed.resting rests
  waiting := by
    intro waits
    rw [issue_state, rests] at waits
    cases waits

/-- **Every operation keeps the count of the retransmissions.** -/
theorem op_timed (op : Op config rules before after)
    (standard : ∀ qos, rules.qos qos → qos = 0 ∨ qos = 1) (timed : Timed before) :
    Timed after := by
  cases op with
  | resend now armed left =>
      have waits := timed.waits armed
      obtain ⟨request, isOutstanding, again, count⟩ := timed.waiting waits
      refine ⟨fun rests => absurd (waits.symm.trans rests) (by decide), fun _ => ?_⟩
      refine ⟨{ request with resends := request.resends + 1 }, ?_, again, ?_⟩
      · rw [retransmit_log, outstanding_snoc, isOutstanding]
        rfl
      · change before.ctx.nRetries - 1 + (request.resends + 1) = nRetry
        omega
  | giveUp armed spent may => exact timed_toState rfl
  | ping now connected => exact timed.issue_once (by rw [connected]; rfl)
  | receive datagram => exact timed.emit rfl
  | deliver index data => exact timed.emit rfl
  | welcome datagram connecting welcomes =>
      refine timed_toState ?_
      split <;> rfl
  | refuse datagram connecting => exact timed_toState rfl
  | answer ack datagram known busy request inbound same => exact timed_toState rfl
  | acknowledge datagram busy same may => exact timed_toState rfl
  | drop datagram may => exact timed_toState rfl
  | finish registering all => exact timed_toState rfl
  | request now extra name registering next =>
      have issued : Timed ((mqttsnToState before .busy).issue now extra
          ((config.topics.entry before.ctx.count).request (BitVec.ofNat 16 before.ctx.count) name)
          true) := timed_issue rfl
      exact issued.frame rfl rfl rfl rfl
  | connectAgain active => exact timed.emit rfl
  | connect now extra idle => exact timed_issue rfl
  | disconnect now extra duration active may => exact timed_issue rfl
  | publish now index qos data msgId connected fits may returned =>
      refine Timed.emit ?_ rfl
      rcases standard qos may with rfl | rfl
      · -- nobody answers a packet with QoS 0, and the client stays Connected
        have prepared : Timed (before.prepare 0) := timed.frame rfl rfl rfl rfl
        refine prepared.issue_once ?_
        rw [prepare_state, connected]
        rfl
      · refine timed_issue ?_
        rw [prepare_state]
        rfl
  | setCallbacks cbPublish cbPuback => exact timed.frame rfl rfl rfl rfl

end Timed

/-! ### What is sent again -/

section Resent

variable {config : Config} {session : Session} {request : Request}

/-- A message that fits and is not a SUBSCRIBE lies in the buffer as it is sent. -/
theorem size_le_of_fits {message : Message} (fits : 2 + message.built.length ≤ maxPacket)
    (plain : message.isSubscribe = false) : message.size ≤ maxPacket := by
  rw [← rest_length message 0#8]
  simpa [Message.rest, plain] using fits

theorem request_size_le (roomy : config.Roomy) {index : Nat} {message : Message}
    (inside : index < config.topics.length) (isRequest : config.request index = some message)
    (fits : 2 + message.built.length ≤ maxPacket) : message.size ≤ maxPacket := by
  obtain ⟨name, named, rfl⟩ := Option.map_eq_some_iff.mp isRequest
  unfold Topic.request at fits ⊢
  split
  · next subscribes =>
    have room := roomy index inside name named subscribes
    have size : sizeofSubscribe = 7 := rfl
    simp only [Message.size, Message.body, Message.isSubscribe, Message.type, decide_true, if_true,
      List.length_cons]
    omega
  · next registers =>
    rw [if_neg registers] at fits
    exact size_le_of_fits fits rfl

/-- **The request that the client waits for lies in the buffer**, as it is sent again. -/
theorem Consistent.size_le (consistent : Consistent config session) (roomy : config.Roomy)
    (waits : session.ctx.state.waits = true)
    (isOutstanding : outstanding session.log = some request) :
    request.message.size ≤ maxPacket := by
  obtain ⟨stale, carried⟩ := consistent.carried request isOutstanding
  obtain ⟨expected, isExpected, expects⟩ := consistent.waiting waits
  obtain rfl := Option.some.inj (isOutstanding.symm.trans isExpected)
  have plain : ∀ type : MsgType, request.message.type = type → type ≠ .subscribe →
      request.message.size ≤ maxPacket := by
    intro type isType other
    refine size_le_of_fits carried.fits (decide_eq_false fun subscribe => other ?_)
    rw [← isType, subscribe]
  unfold Config.Expects at expects
  split at expects
  · exact plain .connect (by rw [expects]; rfl) nofun
  · rcases expects with published | ⟨index, inside, -, isRequest⟩
    · exact plain .publish published nofun
    · exact request_size_le roomy inside isRequest carried.fits
  · exact plain .disconnect expects nofun
  · next notConnecting notBusy notDisconnecting =>
    revert waits
    cases state : session.ctx.state with
    | connecting => exact absurd state notConnecting
    | busy => exact absurd state notBusy
    | disconnecting => exact absurd state notDisconnecting
    | disconnected | registering | connected => exact nofun

end Resent

/-- A retransmission is the outstanding request with the DUP flag, and not one too many. -/
def Retransmits (front : List Event) : Event → Prop
  | .resend bytes => ∃ request, outstanding front = some request ∧
      bytes = withDup request.bytes ∧ request.resends < nRetry
  | _ => True

theorem retransmits_logs {config : Config} {rules : Rules} {session : Session}
    (consistent : Consistent config session) (timed : Timed session) (roomy : config.Roomy) :
    Op.Logs config rules Retransmits session where
  plain := by
    intro front event plain
    cases event <;> trivial
  send := fun _ _ _ _ _ _ => trivial
  resend := by
    intro armed left
    have waits := timed.waits armed
    obtain ⟨request, isOutstanding, -, count⟩ := timed.waiting waits
    obtain ⟨stale, carried⟩ := consistent.carried request isOutstanding
    obtain ⟨other, bytes, same⟩ := carried.resent
    refine ⟨request, isOutstanding, ?_, by omega⟩
    rw [bytes, same (consistent.size_le roomy waits isOutstanding), carried.sent, withDup_wire]
  acknowledge := fun _ _ _ _ => ⟨trivial, fun _ => trivial⟩
  finish := fun _ _ => trivial

/-! ### The end of the retransmissions -/

section GiveUp

variable {session : Session}

/-- No message moves a client that is Disconnected. -/
theorem processInbound_disconnected (idle : session.ctx.state = .disconnected) (entry : Nat → Topic)
    (datagram : List Byte) :
    (session.processInbound entry datagram).ctx.state = .disconnected := by
  unfold Session.processInbound
  split
  · split
    · simp [mqttsnConnackHandler, Session.emit, idle]
    · simp [mqttsnRegackHandler, mqttsnAckHandler, Session.emit, idle]
    · unfold mqttsnPublishHandler
      dsimp only
      split
      · exact idle
      · split
        · exact idle
        · split <;> exact idle
    · simp [mqttsnPubackHandler, Session.emit, idle]
    · simp [mqttsnSubackHandler, mqttsnAckHandler, Session.emit, idle]
    · rfl
    · exact idle
  · exact idle

/-- **A timer that expires without retries left** ends in Disconnected. -/
theorem handler_gives_up (config : Config) {now : Nat → Time} (datagram : Option (List Byte))
    (expired : session.ctx.expired now) (spent : session.ctx.nRetries = 0) :
    (session.step config (.handler now datagram)).ctx.state = .disconnected := by
  have gaveUp : session.checkRetry now = mqttsnToState session .disconnected := by
    rw [Session.checkRetry, if_pos expired, if_neg (not_not.mpr spent)]
  have silent : (session.checkRetry now).checkPing now = mqttsnToState session .disconnected := by
    rw [gaveUp]
    exact if_neg fun due => nomatch due.1
  have received : ∀ received : Session, received.ctx.state = .disconnected →
      (received.driveRegistration config.topics.entry now).ctx.state = .disconnected := by
    intro received idle
    rw [Session.driveRegistration, if_neg (by rw [idle]; decide)]
    exact idle
  refine received _ ?_
  rw [silent]
  cases datagram with
  | none => rfl
  | some datagram => exact processInbound_disconnected rfl config.topics.entry datagram

end GiveUp

/-! ### The theorem -/

/-- The retransmissions of a session are what they should be. -/
structure RetryIntegrity (config : Config) (session : Session) : Prop where
  pending : session.ctx.tRetry ≠ 0 → session.ctx.state.waits = true ∧
    ∃ request, outstanding session.log = some request ∧ request.retry = true ∧
      Holds session.ctx.message 0 (withDup request.bytes)
  resent : Always Retransmits session.log
  exhausted : ∀ request now datagram, outstanding session.log = some request →
    request.resends = nRetry → session.ctx.expired now →
    (session.step config (.handler now datagram)).ctx.state = .disconnected

/-- **Retransmissions are what they should be**, when every SUBSCRIBE lies in the buffer. -/
theorem retry_integrity (config : Config) (roomy : config.Roomy) (inputs : List Input)
    (along : mqttsnCInit.Along config Rules.standard.Admits inputs) :
    RetryIntegrity config (mqttsnCInit.run config inputs) := by
  obtain ⟨consistent, timed, retransmits⟩ := run_consistent
    (P := fun session => Timed session ∧ Always Retransmits session.log) (init_consistent config)
    ⟨⟨fun _ => rfl, nofun⟩, always_nil⟩
    (fun _ _ op consistent holds => ⟨op_timed op (fun _ standard => standard) holds.1,
      op_always op consistent (retransmits_logs consistent holds.1 roomy) holds.2⟩)
    along
  refine ⟨fun armed => ?_, retransmits, fun request now datagram isOutstanding all expired => ?_⟩
  · have waits := timed.waits armed
    obtain ⟨request, isOutstanding, again, -⟩ := timed.waiting waits
    obtain ⟨stale, carried⟩ := consistent.carried request isOutstanding
    refine ⟨waits, request, isOutstanding, again, ?_⟩
    rw [carried.sent, withDup_wire]
    exact carried.whole (consistent.size_le roomy waits isOutstanding)
  · obtain ⟨waited, isWaited, -, count⟩ := timed.waiting (timed.waits expired.1)
    obtain rfl := Option.some.inj (isOutstanding.symm.trans isWaited)
    exact handler_gives_up config datagram expired (by omega)

/-- A CONNECT that nobody answers is sent again after five seconds. -/
theorem retry_integrity_connect :
    let inputs := [.connect fun _ => 0#32, .handler (fun _ => 5#32) none]
    .resend [7#8, 0x04#8, 0x00#8, 0x01#8, 0x00#8, 0x0A#8, 0x63#8] ∈
        (mqttsnCInit.run subscriber inputs).log ∧
      RetryIntegrity subscriber (mqttsnCInit.run subscriber inputs) := by
  intro inputs
  have roomy : subscriber.Roomy := by
    intro index inside name named _
    obtain rfl : index = 0 := Nat.lt_one_iff.mp inside
    obtain rfl := Option.some.inj named
    decide
  refine ⟨by decide +kernel, retry_integrity subscriber roomy inputs ⟨trivial, ?_, trivial⟩⟩
  exact fun _ => ⟨fun _ => trivial, fun _ => by rintro inbound ⟨⟩⟩

/-- A client that subscribes to a topic whose name just fits in the buffer. -/
def wideSubscriber : Config where
  clientId := ⟨[0x63#8], letter_c⟩
  topics := .single ⟨some ⟨List.replicate 58 0x61#8, by decide⟩, regSubscribe⟩
    ⟨List.replicate 58 0x61#8, by decide⟩ rfl (by decide)
  short := letter_short

/-- The SUBSCRIBE of such a client ends with the number of retries that are left, and is not sent
again as it was sent. -/
theorem subscribe_resent_changed :
    let log := (mqttsnCInit.run wideSubscriber [.connect fun _ => 0#32,
      .handler (fun _ => 0#32) (some [3#8, 0x05#8, 0x00#8]), .handler (fun _ => 5#32) none]).log
    let name := List.replicate 58 0x61#8
    let sent := [65#8, 0x12#8, 0x00#8, 0x00#8, 0x00#8] ++ name ++ [0#8, 3#8]
    let again := [65#8, 0x12#8, 0x80#8, 0x00#8, 0x00#8] ++ name ++ [0#8, 2#8]
    .send sent true (.subscribe 0x00#8 0#16 name) ∈ log ∧ .resend again ∈ log ∧
      again ≠ withDup sent := by
  decide +kernel

end TinyHan.Mqttsn
