/-
**Acknowledgements of published packets.**

The log says which published packet waits for its acknowledgement (`awaited`), and the context says
the same: a packet is awaited if the client is Busy with a PUBLISH in the buffer, whose message
identifier it is (`Awaiting`).

* `puback_genuine` — `cb_puback` is only called for the awaited packet, and once: in every run in
  which no PUBACK with the right bytes meets a REGISTER or SUBSCRIBE. `mqttsn_puback_handler` does
  not look at the type in the buffer, and compares with the last byte of a REGISTER's identifier and
  the first character of its topic, or with two characters of a SUBSCRIBE's topic
  (`puback_completes_subscribe`).
* `publish_completes` — a packet is reported when the client leaves Busy: in every run in which this
  happens by a PUBACK. When the retries are used up, or after a DISCONNECT from either side, the
  packet is never reported (`publish_unreported`).
-/

import Mathlib.Data.List.Induction
import TinyHan.Mqttsn.Exact

namespace TinyHan.Mqttsn

open TinyHan.Lib

/-! ### The awaited packet -/

/-- What an event does to the awaited packet. -/
def observeAwaited (packet : Option (BitVec 16)) : Event → Option (BitVec 16)
  | .published qos msgId => if 0 < qos then some msgId else none
  | .entered _ => none
  | .cbPuback _ _ => none
  | _ => packet

/-- The identifier that `mqttsn_c_publish` returned for the packet whose acknowledgement the client
waits for. -/
def awaited (log : List Event) : Option (BitVec 16) := view observeAwaited none log

@[simp] theorem awaited_snoc (log : List Event) (event : Event) :
    awaited (log ++ [event]) = observeAwaited (awaited log) event :=
  view_snoc observeAwaited none log event

/-- What the context says to be awaited. -/
def Ctx.awaits (ctx : Ctx) : Option (BitVec 16) :=
  if ctx.state = .busy ∧ ctx.msgType = MsgType.publish.code then some (raw16 ctx.message 5)
  else none

/-- The log and the context agree. -/
def Awaiting (session : Session) : Prop := awaited session.log = session.ctx.awaits

section Awaiting

variable {config : Config} {rules : Rules} {session before after : Session}

theorem awaits_eq_none {ctx : Ctx}
    (not : ctx.state = .busy → ctx.msgType ≠ MsgType.publish.code) : ctx.awaits = none :=
  if_neg fun waits => not waits.1 waits.2

theorem awaits_of_state {ctx : Ctx} (other : ctx.state ≠ .busy) : ctx.awaits = none :=
  awaits_eq_none fun busy => absurd busy other

/-- A client that enters a state other than Busy awaits nothing. -/
theorem awaiting_toState {state : State} (other : state ≠ .busy) :
    Awaiting (mqttsnToState session state) := by
  have nothing : (mqttsnToState session state).ctx.awaits = none := awaits_of_state other
  rw [Awaiting, toState_log, awaited_snoc, nothing]
  rfl

/-- A message that is issued outside Busy, or is not a PUBLISH. -/
theorem awaiting_issue {now : Nat → Time} {extra : List Byte} {message : Message} {retry : Bool}
    (nothing : awaited session.log = none) (fits : 2 + message.built.length ≤ maxPacket)
    (not : session.ctx.state = .busy → message.type ≠ .publish) :
    Awaiting (session.issue now extra message retry) := by
  obtain ⟨stale, carried⟩ := issue_carried session now extra message retry fits
  have none : (session.issue now extra message retry).ctx.awaits = none := by
    refine awaits_eq_none fun busy isPublish => ?_
    rw [issue_state] at busy
    rw [Ctx.msgType, carried.type] at isPublish
    exact not busy (MsgType.code_injective isPublish)
  rw [Awaiting, issue_log, awaited_snoc, none]
  exact nothing

theorem Awaiting.frame (awaiting : Awaiting session)
    (sameLog : awaited after.log = awaited session.log)
    (sameState : after.ctx.state = session.ctx.state)
    (sameMessage : after.ctx.message = session.ctx.message) : Awaiting after := by
  rw [Awaiting, sameLog, awaiting, Ctx.awaits, Ctx.awaits, Ctx.msgType, Ctx.msgType, sameState,
    sameMessage]

theorem Awaiting.emit {event : Event} (awaiting : Awaiting session)
    (silent : observeAwaited (awaited session.log) event = awaited session.log) :
    Awaiting (session.emit event) := by
  refine awaiting.frame ?_ rfl rfl
  rw [emit_log, awaited_snoc, silent]

theorem request_type_ne_publish (topic : Topic) (index : BitVec 16) (name : CString) :
    (topic.request index name).type ≠ .publish := by
  unfold Topic.request
  split <;> exact nofun

/-- **Every operation keeps the log and the context in agreement.** -/
theorem op_awaiting (op : Op config rules before after) (consistent : Consistent config before)
    (awaiting : Awaiting before) : Awaiting after := by
  cases op with
  | resend now armed left =>
      refine awaiting.frame ?_ rfl rfl
      rw [retransmit_log, awaited_snoc]
      rfl
  | giveUp armed spent may => exact awaiting_toState nofun
  | ping now connected =>
      have other : before.ctx.state ≠ .busy := by
        rw [connected]
        decide
      exact awaiting_issue (awaiting.trans (awaits_of_state other)) (by decide)
        fun busy => absurd busy other
  | receive datagram => exact awaiting.emit rfl
  | deliver index data => exact awaiting.emit rfl
  | welcome datagram connecting welcomes =>
      refine awaiting_toState ?_
      split <;> exact nofun
  | refuse datagram connecting => exact awaiting_toState nofun
  | answer ack datagram known busy request inbound same => exact awaiting_toState nofun
  | acknowledge datagram busy same may => exact awaiting_toState nofun
  | drop datagram may => exact awaiting_toState nofun
  | finish registering all => exact awaiting_toState nofun
  | request now extra name registering next =>
      have inside := lt_length_of_named (consistent.counted registering) next
      have issued : Awaiting ((mqttsnToState before .busy).issue now extra
          ((config.topics.entry before.ctx.count).request (BitVec.ofNat 16 before.ctx.count) name)
          true) :=
        awaiting_issue (awaited_snoc _ _) (request_fits config inside next _)
          fun _ => request_type_ne_publish _ _ _
      exact issued.frame rfl rfl rfl
  | connectAgain active => exact awaiting.emit rfl
  | connect now extra idle =>
      exact awaiting_issue (awaited_snoc _ _) (connect_fits config) nofun
  | disconnect now extra duration active may =>
      exact awaiting_issue (awaited_snoc _ _) (disconnect_fits duration) nofun
  | publish now index qos data msgId connected fits may returned =>
      obtain ⟨stale, carried⟩ := issue_carried (before.prepare qos) now []
        (before.ctx.publishMessage index qos data) (qos ≠ 0) (publish_fits fits)
      rw [Awaiting, emit_log, awaited_snoc, observeAwaited, Session.emit, Ctx.awaits, issue_state,
        prepare_state, Ctx.msgType, carried.type, connected]
      by_cases answered : 0 < qos
      · rw [if_pos answered, if_pos answered, if_pos ⟨rfl, rfl⟩, returned]
      · rw [if_neg answered, if_neg answered, if_neg fun waits => nomatch waits.1]
  | setCallbacks cbPublish cbPuback => exact awaiting.frame rfl rfl rfl

end Awaiting

/-! ### Genuine acknowledgements -/

/-- A PUBACK whose identifier is found in the buffer only comes while a PUBLISH is there, unless the
client has given up by then. -/
def Rules.genuine : Rules :=
  { Rules.any with ack := fun message _ => message 1 = MsgType.publish.code }

/-- An acknowledgement that is taken, or reported, is the one of the awaited packet. -/
def Genuine (front : List Event) : Event → Prop
  | .acked msgId => awaited front = some msgId
  | .cbPuback msgId _ => awaited front = some msgId
  | _ => True

theorem genuine_logs {config : Config} {session : Session} (awaiting : Awaiting session) :
    Op.Logs config .genuine Genuine session where
  plain := by
    intro front event plain
    cases event <;> trivial
  send := fun _ _ _ _ _ _ => trivial
  resend := fun _ _ => trivial
  acknowledge := by
    intro datagram busy same isPublish
    have waits : awaited session.log = some (raw16 (ofList datagram) 4) := by
      rw [awaiting, same]
      exact if_pos ⟨busy, isPublish⟩
    have received : awaited (session.log ++ [.received datagram]) =
        some (raw16 (ofList datagram) 4) := by
      rw [awaited_snoc]
      exact waits
    refine ⟨received, fun _ => ?_⟩
    rw [Genuine, awaited_snoc]
    exact received
  finish := fun _ _ => trivial

theorem run_awaiting {config : Config} {rules : Rules} {P : List Event → Event → Prop}
    (logged : ∀ before after, Op config rules before after → Consistent config before →
      Awaiting before → Always P before.log → Always P after.log)
    {inputs : List Input} (along : mqttsnCInit.Along config rules.Admits inputs) :
    Awaiting (mqttsnCInit.run config inputs) ∧ Always P (mqttsnCInit.run config inputs).log :=
  (run_consistent (P := fun session => Awaiting session ∧ Always P session.log)
    (init_consistent config) ⟨rfl, always_nil⟩
    (fun before after op consistent holds => ⟨op_awaiting op consistent holds.1,
      logged before after op consistent holds.1 holds.2⟩)
    along).2

/-- **Acknowledgements are genuine.** In every run in which no PUBACK meets another request with the
right bytes, one is only taken while a packet that was published with QoS 1 is outstanding, with its
identifier, and its callback is called once. -/
theorem puback_genuine (config : Config) (inputs : List Input)
    (along : mqttsnCInit.Along config Rules.genuine.Admits inputs) :
    Always Genuine (mqttsnCInit.run config inputs).log :=
  (run_awaiting (fun _ _ op consistent awaiting always =>
    op_always op consistent (genuine_logs awaiting) always) along).2

/-- A client without topics. -/
def publisher : Config where
  clientId := ⟨[0x63#8], letter_c⟩
  topics := .empty
  short := letter_short

/-- The calls of a client that connects, publishes one byte with QoS 1 and then sees `ending`. -/
def publishRun (ending : List Input) : List Input :=
  [.setPubackCallback true, .connect fun _ => 0#32,
    .handler (fun _ => 0#32) (some [3#8, 0x05#8, 0x00#8]),
    .publish (fun _ => 0#32) ⟨0, by decide⟩ 1 [0x2A#8]] ++ ending

/-- A packet is acknowledged. -/
theorem puback_genuine_ok :
    let ending := [.handler (fun _ => 0#32) (some [7#8, 0x0D#8, 0#8, 0#8, 0x00#8, 0x01#8, 0x00#8])]
    let log := (mqttsnCInit.run publisher (publishRun ending)).log
    .cbPuback 0x0100#16 .ok ∈ log ∧ Always Genuine log := by
  intro ending log
  refine ⟨by decide +kernel, puback_genuine publisher (publishRun ending)
    ⟨trivial, trivial, fun _ => ⟨fun _ => trivial, fun _ inbound is => ⟨fun puback => ?_,
      fun _ => trivial⟩⟩, trivial, fun _ => ⟨fun _ => trivial, fun _ _ _ => ⟨fun _ _ => ?_,
      fun _ => trivial⟩⟩, trivial⟩⟩
  · obtain rfl := Option.some.inj is
    exact absurd puback.1 (by decide)
  · change _ = MsgType.publish.code
    decide +kernel

/-- A PUBACK that nobody asked for completes a SUBSCRIBE and ends the registrations. -/
theorem puback_completes_subscribe :
    let session := mqttsnCInit.run subscriber [.setPubackCallback true, .connect fun _ => 0#32,
      .handler (fun _ => 0#32) (some [3#8, 0x05#8, 0x00#8]),
      .handler (fun _ => 0#32) (some [7#8, 0x0D#8, 0#8, 0#8, 0x61#8, 0x00#8, 0x00#8])]
    .cbPuback 0x0061#16 .ok ∈ session.log ∧ (∀ qos msgId, .published qos msgId ∉ session.log) ∧
      session.ctx.state = .connected ∧ session.ctx.isRegistered = false := by
  intro session
  have events : session.log.all (fun event => match event with
      | .published _ _ => false
      | _ => true) = true := by decide +kernel
  refine ⟨by decide +kernel, fun qos msgId member => ?_, by decide +kernel, by decide +kernel⟩
  exact absurd (List.all_eq_true.mp events _ member) Bool.false_ne_true

/-! ### Completed publishes -/

/-- A PUBACK is only taken with a callback, and the client does not leave Busy without an answer
while a PUBLISH is in the buffer. -/
def Rules.answered : Rules where
  qos := fun _ => True
  ack := fun _ callback => callback = true
  lose := fun message => message 1 ≠ MsgType.publish.code

/-- Nothing ends the wait for a packet but its own callback. -/
def Reported (front : List Event) : Event → Prop
  | .entered _ => awaited front = none
  | .published _ _ => awaited front = none
  | .cbPuback msgId _ => ∀ packet, awaited front = some packet → packet = msgId
  | _ => True

/-- Every packet that was published is awaited in the state that it was published in, or has been
reported. -/
def Completes (log : List Event) : Prop :=
  ∀ front qos msgId back, log = front ++ .published qos msgId :: back → 0 < qos →
    (awaited log = some msgId ∧ ∀ state, .entered state ∉ back) ∨
      ∃ result, .cbPuback msgId result ∈ back

/-- **One more event** keeps every packet awaited or reported. -/
theorem Completes.snoc {log : List Event} {event : Event} (completes : Completes log)
    (reported : Reported log event) : Completes (log ++ [event]) := by
  intro front qos msgId back is answered
  rcases append_singleton_eq_append_cons is with ⟨-, rfl, rfl⟩ | ⟨rest, rfl, earlier⟩
  · refine .inl ⟨?_, fun _ member => nomatch member⟩
    rw [awaited_snoc, observeAwaited, if_pos answered]
  · rcases completes front qos msgId rest earlier answered with ⟨waits, still⟩ | ⟨result, member⟩
    · have unchanged : awaited (log ++ [event]) = some msgId → (∀ state, event ≠ .entered state) →
          (awaited (log ++ [event]) = some msgId ∧ ∀ state, .entered state ∉ rest ++ [event]) := by
        intro same other
        refine ⟨same, fun state member => ?_⟩
        rcases List.mem_append.mp member with member | member
        · exact still state member
        · exact other state (List.mem_singleton.mp member).symm
      cases event with
      | entered state => exact absurd (waits.symm.trans reported) nofun
      | published other packet => exact absurd (waits.symm.trans reported) nofun
      | cbPuback packet result =>
          obtain rfl := reported msgId waits
          exact .inr ⟨result, List.mem_append_right rest (List.mem_singleton.mpr rfl)⟩
      | connect | disconnect | received | send | resend | cbPublish | acked | registered =>
          refine .inl (unchanged ?_ nofun)
          rw [awaited_snoc]
          exact waits
    · exact .inr ⟨result, List.mem_append_left _ member⟩

theorem completes_of_reported {log : List Event} (reported : Always Reported log) :
    Completes log := by
  induction log using List.reverseRecOn with
  | nil =>
      intro front qos msgId back is
      cases front <;> cases is
  | append_singleton log event ih =>
      obtain ⟨earlier, last⟩ := always_snoc.mp reported
      exact (ih earlier).snoc last

section Reported

variable {config : Config} {session before after : Session}

/-- A client that is not Busy with a PUBLISH may enter a state. -/
theorem Awaiting.nothing (awaiting : Awaiting session)
    (not : session.ctx.state = .busy → session.ctx.msgType ≠ MsgType.publish.code) :
    awaited session.log = none :=
  awaiting.trans (awaits_eq_none not)

theorem reported_received {state : State} {datagram : List Byte}
    (reported : Always Reported session.log) (nothing : awaited session.log = none)
    (change : Ctx → Ctx) :
    Always Reported
      (mqttsnToState ((session.emit (.received datagram)).update change) state).log := by
  refine always_toState (always_emit reported trivial) ?_
  rw [update_log, emit_log, Reported, awaited_snoc]
  exact nothing

/-- **No operation ends the wait for a packet without its callback.** -/
theorem op_reported (op : Op config .answered before after) (awaiting : Awaiting before)
    (reported : Always Reported before.log) : Always Reported after.log := by
  cases op with
  | resend now armed left => exact always_retransmit reported trivial
  | giveUp armed spent may => exact always_toState reported (awaiting.nothing may)
  | ping now connected => exact always_issue reported trivial
  | receive datagram => exact always_emit reported trivial
  | deliver index data => exact always_emit reported trivial
  | welcome datagram connecting welcomes =>
      exact reported_received reported (awaiting.nothing (by rw [connecting]; exact nofun)) _
  | refuse datagram connecting =>
      exact reported_received reported (awaiting.nothing (by rw [connecting]; exact nofun))
        (fun ctx => ctx)
  | answer ack datagram known busy request inbound same =>
      refine reported_received reported (awaiting.nothing fun _ => ?_) _
      rw [request]
      rcases known with rfl | rfl <;> decide
  | acknowledge datagram busy same may =>
      -- the packet, if one is awaited, has the identifier of the PUBACK
      have matched : ∀ packet, awaited before.log = some packet →
          packet = raw16 (ofList datagram) 4 := by
        intro packet waits
        rw [awaiting, Ctx.awaits] at waits
        split at waits
        · rw [same]
          exact (Option.some.inj waits).symm
        · cases waits
      have callback : before.ctx.cbPuback = true := may
      have acknowledged : Always Reported
          ((before.emit (.received datagram)).acknowledge (ofList datagram)).log := by
        refine always_acknowledge (always_emit reported trivial) trivial fun _ packet waits => ?_
        rw [awaited_snoc, emit_log, awaited_snoc] at waits
        exact matched packet waits
      refine always_toState acknowledged ?_
      rw [Session.acknowledge, if_pos (by exact callback), emit_log, Reported, awaited_snoc]
      rfl
  | drop datagram may =>
      exact reported_received reported (awaiting.nothing may) (fun ctx => ctx)
  | finish registering all =>
      have nothing := awaiting.nothing (by rw [registering]; exact nofun)
      refine always_toState (always_emit reported trivial) ?_
      rw [emit_log, Reported, awaited_snoc]
      exact nothing
  | request now extra name registering next =>
      have nothing := awaiting.nothing (by rw [registering]; exact nofun)
      exact always_issue (always_toState reported nothing) trivial
  | connectAgain active => exact always_emit reported trivial
  | connect now extra idle =>
      have nothing := awaiting.nothing (by rw [idle]; exact nofun)
      refine always_issue (always_toState (always_emit reported trivial) ?_) trivial
      rw [emit_log, Reported, awaited_snoc]
      exact nothing
  | disconnect now extra duration active may =>
      refine always_issue (always_toState (always_emit reported trivial) ?_) trivial
      rw [emit_log, Reported, awaited_snoc]
      exact awaiting.nothing may
  | publish now index qos data msgId connected fits may returned =>
      have nothing := awaiting.nothing (by rw [connected]; exact nofun)
      have prepared : awaited (before.prepare qos).log = none := by
        unfold Session.prepare
        split
        · exact awaited_snoc _ _
        · exact nothing
      refine always_emit (always_issue (always_prepare reported fun _ => nothing) trivial) ?_
      rw [issue_log, Reported, awaited_snoc]
      exact prepared
  | setCallbacks cbPublish cbPuback => exact reported

end Reported

/-- **Every packet that is published with QoS 1 completes with its callback.** In every run in which
the client leaves Busy only by a PUBACK while a PUBLISH is in the buffer, and has a callback then, a
packet has been reported unless the client is still in the Busy state that it was published in. -/
theorem publish_completes (config : Config) (inputs : List Input)
    (along : mqttsnCInit.Along config Rules.answered.Admits inputs) :
    let session := mqttsnCInit.run config inputs
    ∀ front qos msgId back, session.log = front ++ .published qos msgId :: back → 0 < qos →
      (session.ctx.state = .busy ∧ ∀ state, .entered state ∉ back) ∨
        ∃ result, .cbPuback msgId result ∈ back := by
  intro session front qos msgId back is answered
  obtain ⟨awaiting, reported⟩ := run_awaiting
    (fun _ _ op _ awaiting always => op_reported op awaiting always) along
  rcases completes_of_reported reported front qos msgId back is answered with ⟨waits, still⟩ | done
  · refine .inl ⟨?_, still⟩
    by_contra other
    exact absurd (waits.symm.trans (awaiting.trans (awaits_of_state other))) nofun
  · exact .inr done

/-- A packet that is acknowledged is reported. -/
theorem publish_completes_ok :
    let ending := [.handler (fun _ => 0#32) (some [7#8, 0x0D#8, 0#8, 0#8, 0x00#8, 0x01#8, 0x00#8])]
    let session := mqttsnCInit.run publisher (publishRun ending)
    .published 1 0x0100#16 ∈ session.log ∧ session.ctx.state = .connected ∧
      ∃ result, .cbPuback 0x0100#16 result ∈ session.log := by
  intro ending session
  have published : .published 1 0x0100#16 ∈ session.log := by decide +kernel
  have connected : session.ctx.state = .connected := by decide +kernel
  have along : mqttsnCInit.Along publisher Rules.answered.Admits (publishRun ending) := by
    refine ⟨trivial, trivial, fun busy => absurd busy ?_, trivial, fun _ => ⟨fun spent => ?_,
      fun _ inbound is => ⟨fun _ _ => ?_, fun type => ?_⟩⟩, trivial⟩
    · decide +kernel
    · exact absurd spent.1.2 (by decide +kernel)
    · change _ = true
      decide +kernel
    · rw [← Option.some.inj is] at type
      exact absurd type (by decide)
  refine ⟨published, connected, ?_⟩
  obtain ⟨front, back, is⟩ := List.append_of_mem published
  rcases publish_completes publisher (publishRun ending) along front 1 0x0100#16 back is
    (by decide) with ⟨busy, -⟩ | ⟨result, member⟩
  · exact absurd (busy.symm.trans connected) nofun
  · exact ⟨result, is ▸ List.mem_append_right front (List.mem_cons_of_mem _ member)⟩

/-- A packet is never reported after a DISCONNECT from either side, or when the retries are used
up. -/
theorem publish_unreported :
    let endings := [[.handler (fun _ => 0#32) (some [2#8, 0x18#8])],
      [.disconnect (fun _ => 0#32) 0#16],
      [.handler (fun _ => 5#32) none, .handler (fun _ => 10#32) none,
        .handler (fun _ => 15#32) none, .handler (fun _ => 20#32) none]]
    ∀ ending ∈ endings,
      let session := mqttsnCInit.run publisher (publishRun ending)
      .published 1 0x0100#16 ∈ session.log ∧ session.ctx.cbPuback = true ∧
        session.ctx.state ≠ .busy ∧ ∀ result, .cbPuback 0x0100#16 result ∉ session.log := by
  intro endings ending member
  have checked : ∀ ending ∈ endings,
      let session := mqttsnCInit.run publisher (publishRun ending)
      .published 1 0x0100#16 ∈ session.log ∧ session.ctx.cbPuback = true ∧
        session.ctx.state ≠ .busy ∧ .cbPuback 0x0100#16 .ok ∉ session.log ∧
        .cbPuback 0x0100#16 .error ∉ session.log := by
    decide +kernel
  obtain ⟨published, callback, left, notOk, notError⟩ := checked ending member
  refine ⟨published, callback, left, fun result => ?_⟩
  cases result with
  | ok => exact notOk
  | error => exact notError

end TinyHan.Mqttsn
