/-
**What the gateway relays.**

Between the MQTT-SN sessions and the broker there is the radio network, where frames are lost, come
late and come twice, and devices register, are dropped and register again at other addresses.

* `relayed_sent`: what the gateway sends to the broker from the socket of an address was handed over
  by the MQTT-SN session of a client, whose MAC accepted it under that address.
* `received_relayed`: what a session receives was sent by the broker to the socket of the address
  that the client has at that moment.
* `gateway_dies`: the gateway only dies of a MQTT-SN packet that the MAC of a client accepted while
  it had no address.
-/

import TinyHan.Bridge.Station
import TinyHan.Mqttsn.Exact

namespace TinyHan.Mqttsn

open TinyHan.Lib

/-! ### The log of a session -/

/-- If a datagram is received, it is this one. -/
def reads (datagram : Option (List Byte)) : Event → Prop
  | .received inbound => datagram = some inbound
  | _ => True

section Parts

variable {datagram : Option (List Byte)} {session after : Session}
  (adds : Adds (reads datagram) session after)

include adds

theorem Adds.toState (state : State) : Adds (reads datagram) session (mqttsnToState after state) :=
  (adds.update _).emit trivial

theorem Adds.send (now : Nat → Time) (type : MsgType) (size : Nat) (doRetry : Bool)
    (message : Message) :
    Adds (reads datagram) session (mqttsnSend after now type size doRetry message) :=
  (adds.update _).emit trivial

theorem Adds.checkRetry (now : Nat → Time) :
    Adds (reads datagram) session (after.checkRetry now) := by
  unfold Session.checkRetry
  refine iteInduction (fun _ => ?_) fun _ => adds
  exact iteInduction (fun _ => (adds.update _).emit trivial) fun _ => adds.toState _

theorem Adds.checkPing (now : Nat → Time) :
    Adds (reads datagram) session (after.checkPing now) := by
  unfold Session.checkPing
  exact iteInduction (fun _ => adds.send _ _ _ _ _) fun _ => adds

theorem Adds.request (now : Nat → Time) (topic : Topic) (name : CString) :
    Adds (reads datagram) session (after.request now topic name) := by
  unfold Session.request
  refine Adds.update ?_ _
  refine iteInduction (fun _ => ?_) fun _ => ?_
  · exact (((adds.toState .busy).update _).send _ _ _ _ _).update _
  · exact ((adds.toState .busy).update _).send _ _ _ _ _

theorem Adds.driveRegistration (entry : Nat → Topic) (now : Nat → Time) :
    Adds (reads datagram) session (after.driveRegistration entry now) := by
  unfold Session.driveRegistration
  refine iteInduction (fun _ => ?_) fun _ => adds
  dsimp only
  split
  · have finished : Adds (reads datagram) session ((after.update fun ctx =>
        { ctx with count := 0, isRegistered := true }).emit .registered) := adds.emit trivial
    exact finished.toState _
  · exact adds.request _ _ _

theorem Adds.ackHandler (buf : Memory) (size : Nat) (ack : Ack) :
    Adds (reads datagram) session (mqttsnAckHandler after buf size ack) := by
  unfold mqttsnAckHandler
  refine iteInduction (fun _ => adds) fun _ => ?_
  refine iteInduction (fun _ => adds) fun _ => ?_
  exact iteInduction (fun _ => adds) fun _ => (adds.update _).toState _

theorem Adds.connackHandler (buf : Memory) (size : Nat) :
    Adds (reads datagram) session (mqttsnConnackHandler after buf size) := by
  unfold mqttsnConnackHandler
  refine iteInduction (fun _ => adds) fun _ => ?_
  refine iteInduction (fun _ => adds) fun _ => ?_
  exact iteInduction (fun _ => (adds.update _).toState _) fun _ => adds.toState _

theorem Adds.publishHandler (buf : Memory) (size : Nat) (entry : Nat → Topic) :
    Adds (reads datagram) session (mqttsnPublishHandler after buf size entry) := by
  unfold mqttsnPublishHandler
  refine iteInduction (fun _ => adds) fun _ => ?_
  dsimp only
  split
  · exact adds
  · exact iteInduction (fun _ => adds.emit trivial) fun _ => adds

theorem Adds.pubackHandler (buf : Memory) (size : Nat) :
    Adds (reads datagram) session (mqttsnPubackHandler after buf size) := by
  unfold mqttsnPubackHandler
  refine iteInduction (fun _ => adds) fun _ => ?_
  refine iteInduction (fun _ => adds) fun _ => ?_
  refine iteInduction (fun _ => adds) fun _ => Adds.toState ?_ _
  unfold Session.acknowledge
  have acked : Adds (reads datagram) session (after.emit (.acked (raw16 buf 4))) :=
    adds.emit trivial
  exact iteInduction (fun _ => acked.emit trivial) fun _ => acked

end Parts

theorem processInbound_adds (session : Session) (entry : Nat → Topic) (inbound : List Byte) :
    Adds (reads (some inbound)) session (session.processInbound entry inbound) := by
  unfold Session.processInbound
  refine iteInduction (fun _ => ?_) fun _ => .refl session
  have received : Adds (reads (some inbound)) session (session.emit (.received inbound)) :=
    (Adds.refl session).emit rfl
  dsimp only
  split
  · exact received.connackHandler _ _
  · exact received.ackHandler _ _ _
  · exact received.publishHandler _ _ _
  · exact received.pubackHandler _ _
  · exact received.ackHandler _ _ _
  · exact received.toState _
  · exact received

/-- The datagram that a call of a session is given. -/
def given : Input → Option (List Byte)
  | .handler _ datagram => datagram
  | _ => none

/-- **A session receives what its handler is given.** -/
theorem step_adds (config : Config) (session : Session) (input : Input) :
    Adds (reads (given input)) session (session.step config input) := by
  cases input with
  | handler now datagram =>
      have checked : Adds (reads datagram) session ((session.checkRetry now).checkPing now) :=
        ((Adds.refl session).checkRetry now).checkPing now
      refine Adds.driveRegistration ?_ _ now
      cases datagram with
      | none => exact checked
      | some inbound => exact checked.trans (processInbound_adds _ _ inbound)
  | connect now =>
      have called : Adds (reads none) session (session.emit .connect) :=
        (Adds.refl session).emit trivial
      show Adds (reads none) session (mqttsnCConnect config session now)
      unfold mqttsnCConnect
      exact iteInduction (fun _ => called) fun _ => ((called.update _).toState _).send _ _ _ _ _
  | disconnect now duration =>
      show Adds (reads none) session (mqttsnCDisconnect session now duration)
      unfold mqttsnCDisconnect
      refine iteInduction (fun _ => .refl session) fun _ => ?_
      have called : Adds (reads none) session (session.emit .disconnect) :=
        (Adds.refl session).emit trivial
      exact ((called.toState _).update _).send _ _ _ _ _
  | publish now index qos data =>
      show Adds (reads none) session (mqttsnCPublish session now index qos data).2
      unfold mqttsnCPublish
      split
      · exact .refl session
      · split
        · exact .refl session
        · unfold Session.publish
          dsimp only
          refine Adds.emit (Adds.update (Adds.send (Adds.update ?_ _) _ _ _ _ _) _) trivial
          exact iteInduction (fun _ => (Adds.refl session).toState _) fun _ => .refl session
  | setPublishCallback cb => exact .refl session
  | setPubackCallback cb => exact .refl session

end TinyHan.Mqttsn

namespace TinyHan.Bridge

open TinyHan.Lib
open TinyHan.Tinymac (Mac NodePtr Party Setup Net Airing TxCall typeRawData addrUnassigned)
open TinyHan.Mqttsn (Config Session Time mqttsnCInit given step_adds)

/-! ### A client -/

/-- The datagram that an event receives. -/
def receipt : Mqttsn.Event → Option (List Byte)
  | .received datagram => some datagram
  | _ => none

/-- What the session of a program has handed to `cb_send`. -/
def App.handed : App → List (List Byte)
  | .client _ session => session.log.filterMap packet
  | _ => []

/-- What the session of a program has received. -/
def App.received : App → List (List Byte)
  | .client _ session => session.log.filterMap receipt
  | _ => []

/-- What a gateway has sent to the broker. -/
def App.relayed : App → List (BitVec 8 × List Byte)
  | .gateway relayed | .dead relayed => relayed
  | _ => []

/-- A process of a MQTT-SN client: the data that its MAC has taken is what its session has handed
over. -/
structure Honest (config : Config) (station : Station) : Prop where
  app : station.app = .off (.client config) ∨ ∃ session, station.app = .client config session
  sent : ∀ call, .txPacket call ∈ station.mac.out → typeRawData ≤ call.hdr.type →
    call.hdr.type = typeMqttsn ∧ call.payload ∈ station.app.handed

/-- The session receives nothing but such datagrams. -/
def Receives (P : List Byte → Prop) (before after : Station) : Prop :=
  ∃ new, after.app.received = before.app.received ++ new ∧ ∀ datagram ∈ new, P datagram

section Receives

variable {P : List Byte → Prop} {before middle after : Station}

theorem Receives.of_app (same : after.app = before.app) : Receives P before after :=
  ⟨[], by rw [same, List.append_nil], fun _ none => nomatch none⟩

theorem Receives.trans (one : Receives P before middle) (two : Receives P middle after) :
    Receives P before after := by
  obtain ⟨first, grown, each⟩ := one
  obtain ⟨second, more, every⟩ := two
  refine ⟨first ++ second, by rw [more, grown, List.append_assoc], fun datagram member => ?_⟩
  exact (List.mem_append.mp member).elim (each datagram) (every datagram)

end Receives

/-- The data of a MAC after `packet_send`: the old, and the packets. -/
theorem packetSend_sent {mac : Mac} {packets : List (List Byte)} {call : TxCall}
    (logged : .txPacket call ∈ (packetSend mac packets).out)
    (raw : typeRawData ≤ call.hdr.type) :
    .txPacket call ∈ mac.out ∨ call.hdr.type = typeMqttsn ∧ call.payload ∈ packets := by
  induction packets generalizing mac with
  | nil => exact .inl logged
  | cons bytes packets ih =>
      rcases ih logged with old | ⟨type, member⟩
      · rcases Tinymac.step_asked old raw with older | ⟨dest, type, ptr, asked⟩
        · exact .inl older
        · obtain ⟨validity, sends⟩ := asked.sends
          obtain ⟨-, rfl, rfl, -⟩ := Tinymac.Input.send.inj sends
          exact .inr ⟨asked.hdr_type, List.mem_cons_self⟩
      · exact .inr ⟨type, List.mem_cons_of_mem _ member⟩

section Client

variable {config : Config} {station : Station}

/-- **A call of the session.** -/
theorem Honest.drive (honest : Honest config station) {session : Session}
    (running : station.app = .client config session) (input : Mqttsn.Input) :
    Honest config (station.drive config session input) ∧
      Receives (fun datagram => given input = some datagram) station
        (station.drive config session input) := by
  obtain ⟨new, grown, each⟩ := step_adds config session input
  have fresh : (session.step config input).log.drop session.log.length = new := by
    rw [grown, List.drop_left]
  refine ⟨⟨.inr ⟨_, rfl⟩, fun call logged raw => ?_⟩, new.filterMap receipt, ?_, ?_⟩
  · show call.hdr.type = typeMqttsn ∧
      call.payload ∈ (session.step config input).log.filterMap packet
    rw [grown, List.filterMap_append]
    rw [Station.drive, fresh] at logged
    rcases packetSend_sent logged raw with old | ⟨type, member⟩
    · obtain ⟨type, member⟩ := honest.sent call old raw
      rw [running] at member
      exact ⟨type, List.mem_append_left _ member⟩
    · exact ⟨type, List.mem_append_right _ member⟩
  · rw [running]
    show (session.step config input).log.filterMap receipt = _
    rw [grown, List.filterMap_append]
    rfl
  · intro datagram member
    obtain ⟨event, logged, is⟩ := List.mem_filterMap.mp member
    cases event with
    | received inbound =>
        cases is
        exact each _ logged
    | _ => cases is

/-- `rx_handler` of a client. -/
theorem Honest.upcall (honest : Honest config station) (now : Nat → Time)
    (event : Tinymac.Event) :
    Honest config (station.upcall now event) ∧
      Receives (fun datagram => ∃ node, event = .rxCb node typeMqttsn datagram) station
        (station.upcall now event) := by
  cases event with
  | rxCb node type payload =>
      simp only [Station.upcall, Station.rxHandler]
      split
      · next is =>
        subst is
        rcases honest.app with off | ⟨session, running⟩
        · rw [off]
          exact ⟨honest, .of_app rfl⟩
        · rw [running]
          obtain ⟨after, new, grown, each⟩ :=
            honest.drive running (.handler now (some payload))
          refine ⟨after, new, grown, fun datagram member => ⟨node, ?_⟩⟩
          rw [← Option.some.inj (each datagram member)]
      · exact ⟨honest, .of_app rfl⟩
  | _ => exact ⟨honest, .of_app rfl⟩

theorem Honest.upcalls (honest : Honest config station) (now : Nat → Time)
    (events : List Tinymac.Event) :
    Honest config (events.foldl (Station.upcall now) station) ∧
      Receives (fun datagram => ∃ node, .rxCb node typeMqttsn datagram ∈ events) station
        (events.foldl (Station.upcall now) station) := by
  induction events generalizing station with
  | nil => exact ⟨honest, .of_app rfl⟩
  | cons event events ih =>
      obtain ⟨first, new, grown, each⟩ := honest.upcall now event
      obtain ⟨rest, more, longer, every⟩ := ih first
      refine ⟨rest, Receives.trans ⟨new, grown, fun datagram member => ?_⟩
        ⟨more, longer, fun datagram member => ?_⟩⟩
      · obtain ⟨node, rfl⟩ := each datagram member
        exact ⟨node, List.mem_cons_self⟩
      · obtain ⟨node, listed⟩ := every datagram member
        exact ⟨node, List.mem_cons_of_mem _ listed⟩

/-- A step of the MAC that is no call of `tinymac_send`. -/
theorem Honest.step (honest : Honest config station) (now : Nat → Time) {input : Tinymac.Input}
    (other : ∀ dest type buf validity cb, input ≠ .send dest type buf validity cb) :
    Honest config (station.step now input) ∧
      Receives (fun datagram => ∃ node,
        Tinymac.Origin station.mac.ctx input (.rxCb node typeMqttsn datagram)) station
        (station.step now input) := by
  obtain ⟨new, grown, each⟩ := Tinymac.step_origin station.mac input
  have moved : Honest config ⟨station.mac.step input, station.app⟩ := by
    refine ⟨honest.app, fun call logged raw => ?_⟩
    rcases Tinymac.step_asked logged raw with old | ⟨dest, type, _, ⟨validity, is⟩, -⟩
    · exact honest.sent call old raw
    · exact absurd is (other _ _ _ _ _)
  obtain ⟨after, fresh, longer, every⟩ := moved.upcalls now
    ((station.mac.step input).out.drop station.mac.out.length)
  refine ⟨after, fresh, longer, fun datagram member => ?_⟩
  obtain ⟨node, listed⟩ := every datagram member
  rw [grown, List.drop_left] at listed
  exact ⟨node, each _ listed⟩

/-- A tick of the MAC gives the session nothing to receive. -/
theorem Honest.tick (honest : Honest config station) (now : Nat → Time) :
    Honest config (station.step now .tick) ∧
      Receives (fun _ => False) station (station.step now .tick) := by
  obtain ⟨after, new, grown, each⟩ := honest.step now (by simp : ∀ dest type buf validity cb,
    Tinymac.Input.tick ≠ .send dest type buf validity cb)
  refine ⟨after, new, grown, fun datagram member => ?_⟩
  obtain ⟨node, upcall⟩ := each datagram member
  obtain ⟨_, _, _, hears⟩ := upcall.heard
  cases hears

/-- **A call of a client** keeps it honest, and gives its session nothing to receive. -/
theorem Honest.call (honest : Honest config station) (call : StationCall) :
    Honest config (station.call call) ∧
      Receives (fun _ => False) station (station.call call) := by
  have ignored (same : station.call call = station) :
      Honest config (station.call call) ∧
        Receives (fun _ => False) station (station.call call) := by
    rw [same]
    exact ⟨honest, .of_app rfl⟩
  have driven {session : Session} (running : station.app = .client config session)
      (input : Mqttsn.Input) (nothing : given input = none)
      (is : station.call call = station.drive config session input) :
      Honest config (station.call call) ∧
        Receives (fun _ => False) station (station.call call) := by
    obtain ⟨after, new, grown, each⟩ := honest.drive running input
    rw [is]
    refine ⟨after, new, grown, fun datagram member => ?_⟩
    cases nothing.symm.trans (each datagram member)
  rcases honest.app with off | ⟨session, running⟩
  · cases call with
    | main now =>
        -- the session starts with an empty log
        let fresh : Station := ⟨station.mac.step (.registerRecvCb true), .client config mqttsnCInit⟩
        have untouched : Honest config fresh := by
          refine ⟨.inr ⟨_, rfl⟩, fun made logged raw => ?_⟩
          rcases Tinymac.step_asked logged raw with old | ⟨_, _, _, ⟨_, is⟩, -⟩
          · have none := (honest.sent made old raw).2
            rw [off] at none
            cases none
          · cases is
        obtain ⟨after, new, grown, each⟩ := untouched.drive rfl (.connect now)
        have is : station.call (.main now) = fresh.drive config mqttsnCInit (.connect now) := by
          simp only [Station.call, off]
          rfl
        rw [is]
        refine ⟨after, new, grown.trans ?_, fun datagram member => ?_⟩
        · rw [off]
          rfl
        · cases each datagram member
    | tick now => exact ignored (by simp only [Station.call, off])
    | broker device datagram => exact ignored (by simp only [Station.call, off])
    | connect now => exact ignored (by simp only [Station.call, off])
    | publish now index qos data => exact ignored (by simp only [Station.call, off])
  · cases call with
    | main now => exact ignored (by simp only [Station.call, running])
    | broker device datagram => exact ignored (by simp only [Station.call, running])
    | connect now =>
        exact driven running (.connect now) rfl (by simp only [Station.call, running])
    | publish now index qos data =>
        exact driven running (.publish now index qos data) rfl
          (by simp only [Station.call, running])
    | tick now =>
        obtain ⟨ticked, received⟩ := honest.tick now
        rcases ticked.app with halted | ⟨session, still⟩
        · have is : station.call (.tick now) = station.step now .tick := by
            simp only [Station.call, running, halted]
          rw [is]
          exact ⟨ticked, received⟩
        · have is : station.call (.tick now) =
              (station.step now .tick).drive config session (.handler now none) := by
            simp only [Station.call, running, still]
          obtain ⟨after, new, grown, each⟩ := ticked.drive still (.handler now none)
          rw [is]
          refine ⟨after, received.trans ⟨new, grown, fun datagram member => ?_⟩⟩
          cases each datagram member

end Client

/-! ### The gateway -/

/-- A process of the gateway: what it has sent to the broker satisfies `P`, and it is dead only if
`D` holds. -/
def Relays (P : BitVec 8 × List Byte → Prop) (D : Prop) (app : App) : Prop :=
  app = .off .gateway ∨ (∃ relayed, app = .gateway relayed ∧ ∀ entry ∈ relayed, P entry) ∨
    ∃ relayed, app = .dead relayed ∧ (∀ entry ∈ relayed, P entry) ∧ D

theorem Relays.mono {P Q : BitVec 8 × List Byte → Prop} {D E : Prop} {app : App}
    (relays : Relays P D app) (weaker : ∀ entry, P entry → Q entry) (also : D → E) :
    Relays Q E app := by
  rcases relays with off | ⟨relayed, is, each⟩ | ⟨relayed, is, each, dead⟩
  · exact .inl off
  · exact .inr (.inl ⟨relayed, is, fun entry member => weaker entry (each entry member)⟩)
  · exact .inr (.inr ⟨relayed, is, fun entry member => weaker entry (each entry member),
      also dead⟩)

theorem Relays.relayed {P : BitVec 8 × List Byte → Prop} {D : Prop} {app : App}
    (relays : Relays P D app) : ∀ entry ∈ app.relayed, P entry := by
  rcases relays with rfl | ⟨relayed, rfl, each⟩ | ⟨relayed, rfl, each, -⟩
  · exact fun _ none => nomatch none
  · exact each
  · exact each

section Gateway

variable {P : BitVec 8 × List Byte → Prop} {D : Prop} {station : Station}

/-- `rx_handler` of the gateway. -/
theorem upcall_relays (relays : Relays P D station.app) (now : Nat → Time)
    {event : Tinymac.Event}
    (named : ∀ ptr payload, event = .rxCb (some ptr) typeMqttsn payload →
      P ((station.mac.ctx.node ptr).addr, payload))
    (unnamed : ∀ payload, event = .rxCb none typeMqttsn payload → D) :
    Relays P D (station.upcall now event).app ∧
      (station.upcall now event).mac = station.mac := by
  cases event with
  | rxCb node type payload =>
      simp only [Station.upcall, Station.rxHandler]
      split
      case isFalse => exact ⟨relays, rfl⟩
      case isTrue is =>
        subst is
        rcases relays with off | ⟨relayed, running, each⟩ | ⟨relayed, dead, each, why⟩
        · rw [off]
          exact ⟨.inl off, rfl⟩
        · rw [running]
          cases node with
          | none => exact ⟨.inr (.inr ⟨relayed, rfl, each, unnamed payload rfl⟩), rfl⟩
          | some ptr =>
              refine ⟨.inr (.inl ⟨_, rfl, fun entry member => ?_⟩), rfl⟩
              rcases List.mem_append.mp member with old | new
              · exact each entry old
              · rw [List.mem_singleton.mp new]
                exact named ptr payload rfl
        · rw [dead]
          exact ⟨.inr (.inr ⟨relayed, dead, each, why⟩), rfl⟩
  | _ => exact ⟨relays, rfl⟩

theorem upcalls_relay (relays : Relays P D station.app) (now : Nat → Time)
    {events : List Tinymac.Event}
    (named : ∀ ptr payload, .rxCb (some ptr) typeMqttsn payload ∈ events →
      P ((station.mac.ctx.node ptr).addr, payload))
    (unnamed : ∀ payload, .rxCb none typeMqttsn payload ∈ events → D) :
    Relays P D (events.foldl (Station.upcall now) station).app ∧
      (events.foldl (Station.upcall now) station).mac = station.mac := by
  induction events generalizing station with
  | nil => exact ⟨relays, rfl⟩
  | cons event events ih =>
      obtain ⟨first, same⟩ := upcall_relays relays now
        (fun ptr payload is => named ptr payload (is ▸ List.mem_cons_self))
        (fun payload is => unnamed payload (is ▸ List.mem_cons_self))
      obtain ⟨rest, still⟩ := ih first
        (fun ptr payload member => by
          rw [same]
          exact named ptr payload (List.mem_cons_of_mem _ member))
        (fun payload member => unnamed payload (List.mem_cons_of_mem _ member))
      exact ⟨rest, still.trans same⟩

/-- A step of the MAC below the gateway. -/
theorem step_relays (relays : Relays P D station.app) (now : Nat → Time) {input : Tinymac.Input}
    (named : ∀ ptr payload,
      Tinymac.Origin station.mac.ctx input (.rxCb (some ptr) typeMqttsn payload) →
      P (((station.mac.step input).ctx.node ptr).addr, payload))
    (unnamed : ∀ payload,
      Tinymac.Origin station.mac.ctx input (.rxCb none typeMqttsn payload) → D) :
    Relays P D (station.step now input).app ∧
      (station.step now input).mac = station.mac.step input := by
  obtain ⟨new, grown, each⟩ := Tinymac.step_origin station.mac input
  have fresh : (station.mac.step input).out.drop station.mac.out.length = new := by
    rw [grown, List.drop_left]
  unfold Station.step
  dsimp only
  rw [fresh]
  exact @upcalls_relay P D ⟨station.mac.step input, station.app⟩ relays now new
    (fun ptr payload member => named ptr payload (each _ member))
    (fun payload member => unnamed payload (each _ member))

/-- A step for which the MAC makes no upcall. -/
theorem step_relays_quiet (relays : Relays P D station.app) (now : Nat → Time)
    {input : Tinymac.Input} (deaf : ∀ buf size rssi, input ≠ .recv buf size rssi) :
    Relays P D (station.step now input).app ∧
      (station.step now input).mac = station.mac.step input := by
  have silent {node : Option NodePtr} {payload : List Byte} : ¬ Tinymac.Origin station.mac.ctx
      input (.rxCb node typeMqttsn payload) := by
    intro upcall
    obtain ⟨buf, size, rssi, is⟩ := upcall.heard
    exact deaf buf size rssi is
  exact step_relays relays now (fun _ _ upcall => absurd upcall silent)
    fun _ upcall => absurd upcall silent

/-- **A call of the gateway**: what it relays does not change, and its MAC takes one step or two. -/
theorem call_relays (relays : Relays P D station.app) (call : StationCall) :
    Relays P D (station.call call).app ∧ ∀ made,
      .txPacket made ∈ (station.call call).mac.out → typeRawData ≤ made.hdr.type →
        .txPacket made ∈ station.mac.out ∨ made.hdr.type = typeMqttsn ∧
          ∃ datagram, call = .broker made.hdr.destAddr datagram ∧
            made.payload = datagram.take maxPayload := by
  have ignored (same : station.call call = station) :
      Relays P D (station.call call).app ∧ ∀ made,
        .txPacket made ∈ (station.call call).mac.out → typeRawData ≤ made.hdr.type →
          .txPacket made ∈ station.mac.out ∨ made.hdr.type = typeMqttsn ∧
            ∃ datagram, call = .broker made.hdr.destAddr datagram ∧
              made.payload = datagram.take maxPayload := by
    rw [same]
    exact ⟨relays, fun _ logged _ => .inl logged⟩
  -- the steps of the MAC that take no data
  have unasked {mac : Mac} {input : Tinymac.Input} {made : TxCall}
      (other : ∀ dest type buf validity cb, input ≠ .send dest type buf validity cb)
      (logged : .txPacket made ∈ (mac.step input).out) (raw : typeRawData ≤ made.hdr.type) :
      .txPacket made ∈ mac.out := by
    rcases Tinymac.step_asked logged raw with old | ⟨_, _, _, ⟨_, is⟩, -⟩
    · exact old
    · exact absurd is (other _ _ _ _ _)
  rcases relays with off | ⟨relayed, running, each⟩ | ⟨relayed, dead, each, why⟩
  · cases call with
    | main now =>
        have is : station.call (.main now) = station.main now .gateway := by
          simp only [Station.call, off]
        rw [is]
        refine ⟨.inr (.inl ⟨[], rfl, fun _ none => nomatch none⟩), fun made logged raw => ?_⟩
        exact .inl (unasked (by simp) (unasked (by simp) logged raw) raw)
    | _ => exact ignored (by simp only [Station.call, off])
  · have relays : Relays P D station.app := .inr (.inl ⟨relayed, running, each⟩)
    cases call with
    | tick now =>
        have is : station.call (.tick now) = station.step now .tick := by
          simp only [Station.call, running]
        obtain ⟨after, mac⟩ := step_relays_quiet relays now
          (by simp : ∀ buf size rssi, Tinymac.Input.tick ≠ .recv buf size rssi)
        rw [is]
        refine ⟨after, fun made logged raw => .inl ?_⟩
        rw [mac] at logged
        exact unasked (by simp) logged raw
    | broker device datagram =>
        have is : station.call (.broker device datagram) = station.step (fun _ => 0)
            (.send device typeMqttsn (datagram.take maxPayload) 0#16 none) := by
          simp only [Station.call, running]
        obtain ⟨after, mac⟩ := step_relays_quiet relays (fun _ => 0)
          (by simp : ∀ buf size rssi, Tinymac.Input.send device typeMqttsn
            (datagram.take maxPayload) 0#16 none ≠ .recv buf size rssi)
        rw [is]
        refine ⟨after, fun made logged raw => ?_⟩
        rw [mac] at logged
        refine (Tinymac.step_asked logged raw).imp_right ?_
        rintro ⟨dest, type, ptr, asked⟩
        obtain ⟨validity, sends⟩ := asked.sends
        obtain ⟨rfl, rfl, payload, -⟩ := Tinymac.Input.send.inj sends
        exact ⟨asked.hdr_type, datagram, by rw [asked.destAddr], payload.symm⟩
    | main now => exact ignored (by simp only [Station.call, running])
    | connect now => exact ignored (by simp only [Station.call, running])
    | publish now index qos data => exact ignored (by simp only [Station.call, running])
  · cases call <;> exact ignored (by simp only [Station.call, dead])

end Gateway

/-! ### Runs -/

section Runs

variable {ι : Type} [DecidableEq ι]

/-- The MAC of a client has taken a MQTT-SN packet under an address. -/
def Took (stations : Stations ι) (addr : BitVec 8) (payload : List Byte) : Prop :=
  ∃ index call, .txPacket call ∈ (stations.device (.client index)).mac.out ∧
    call.accepted = true ∧ call.hdr.type = typeMqttsn ∧ call.hdr.srcAddr = addr ∧
    call.payload = payload

/-- The broker has sent the bytes to the socket of an address. -/
def Brokered (acts : List (StationAct ι)) (addr : BitVec 8) (bytes : List Byte) : Prop :=
  ∃ datagram, .call .coordinator (.broker addr datagram) ∈ acts ∧
    bytes = datagram.take maxPayload

/-- What is known of the stations of a run. -/
structure Bridged (site : Site ι) (acts : List (StationAct ι)) (stations : Stations ι) :
    Prop where
  clients : ∀ index, Honest (site.config index) (stations.device (.client index))
  gateway : Relays (fun entry => Took stations entry.1 entry.2)
    (∃ payload, Took stations addrUnassigned payload) (stations.device .coordinator).app
  asked : ∀ call, .txPacket call ∈ (stations.device .coordinator).mac.out →
    typeRawData ≤ call.hdr.type →
    call.hdr.type = typeMqttsn ∧ Brokered acts call.hdr.destAddr call.payload

theorem Site.run_snoc (site : Site ι) (acts : List (StationAct ι)) (act : StationAct ι) :
    site.run (acts ++ [act]) = System.step stationDevice (site.run acts) act :=
  System.run_append stationDevice site.start acts [act]

omit [DecidableEq ι] in
theorem Took.mono {before after : Stations ι} {addr : BitVec 8} {payload : List Byte}
    (took : Took before addr payload)
    (grown : ∀ index, ∀ event ∈ (before.device (.client index)).mac.out,
      event ∈ (after.device (.client index)).mac.out) : Took after addr payload := by
  obtain ⟨index, call, logged, is⟩ := took
  exact ⟨index, call, grown index _ logged, is⟩

omit [DecidableEq ι] in
theorem Brokered.snoc {acts : List (StationAct ι)} {addr : BitVec 8} {bytes : List Byte}
    (brokered : Brokered acts addr bytes) (act : StationAct ι) :
    Brokered (acts ++ [act]) addr bytes := by
  obtain ⟨datagram, member, is⟩ := brokered
  exact ⟨datagram, List.mem_append_left _ member, is⟩

/-- What is logged by the MAC of a station stays logged. -/
theorem drives_grow {stations : Stations ι} {act : StationAct ι} {party : Party ι}
    {after : Station} (drives : stations.Drives stationDevice act party after) :
    ∀ event ∈ (stations.device party).mac.out, event ∈ after.mac.out := by
  intro event logged
  rcases drives with ⟨call, -, rfl⟩ | ⟨_, ⟨rssi, now⟩, _, sent, -, -, rfl⟩
  · obtain ⟨calls, is⟩ := call_called (stations.device party) call
    show event ∈ ((stations.device party).call call).mac.out
    rw [is]
    exact (calls_grow _ calls).mem_of_mem logged
  · show event ∈ ((stations.device party).hear sent.message.frame rssi now).mac.out
    rcases hear_cases (stations.device party) now sent.message.frame rssi with is | is
    · rw [is]
      exact logged
    · obtain ⟨calls, after⟩ := step_called (stations.device party) now
        (.frame sent.message.frame rssi)
      rw [is, after]
      exact (calls_grow _ calls).mem_of_mem ((step_grows _ _).mem_of_mem logged)

section Step

variable {site : Site ι} {acts : List (StationAct ι)} {number : Nat}
  {sent : Sent (Party ι) Airing}

/-- **The gateway hears a frame**: what it relays for it was taken by a client. -/
theorem hear_relays (bridged : Bridged site acts (site.run acts))
    (heard : (site.run acts).medium.deliverable .coordinator number = some sent) (rssi : Int)
    (now : Nat → Time) :
    let station := (site.run acts).device .coordinator
    Relays (fun entry => Took (site.run acts) entry.1 entry.2)
        (∃ payload, Took (site.run acts) addrUnassigned payload)
        (station.hear sent.message.frame rssi now).app ∧
      ∀ made, .txPacket made ∈ (station.hear sent.message.frame rssi now).mac.out →
        typeRawData ≤ made.hdr.type → .txPacket made ∈ station.mac.out := by
  intro station
  have linked := stations_linked site acts
  obtain ⟨found, other, -⟩ := deliverable_eq_some.mp heard
  rcases hear_cases station now sent.message.frame rssi with is | is
  · rw [is]
    exact ⟨bridged.gateway, fun _ logged _ => logged⟩
  · -- the addresses of the slots never change
    have same (slot : Tinymac.Slot) :
        ((station.mac.step (.frame sent.message.frame rssi)).ctx.nodes slot).addr =
          (station.mac.ctx.nodes slot).addr := by
      have moved := (linked.backs.step .coordinator none (.frame sent.message.frame rssi)).hub
      rw [Tinymac.step_device_self] at moved
      exact (moved.registry.addr slot).trans (linked.backs.hub.registry.addr slot).symm
    have named (ptr : NodePtr) (payload : List Byte)
        (upcall : Tinymac.Origin station.mac.ctx (.frame sent.message.frame rssi)
          (.rxCb (some ptr) typeMqttsn payload)) : Took (site.run acts)
        ((station.mac.step (.frame sent.message.frame rssi)).ctx.node ptr).addr payload := by
      obtain ⟨-, raw, names, type, rfl⟩ := upcall.of_frame
      obtain ⟨index, call, logged, accepted, frame, -, ⟨none, -⟩ | ⟨slot, is, addr⟩⟩ :=
        linked.uploaded found raw other names
      · cases none
      · cases is
        have same := (same slot).trans addr
        rw [frame] at type same ⊢
        exact ⟨index, call, logged, accepted, type.symm, same.symm, rfl⟩
    have unnamed (payload : List Byte)
        (upcall : Tinymac.Origin station.mac.ctx (.frame sent.message.frame rssi)
          (.rxCb none typeMqttsn payload)) : ∃ payload, Took (site.run acts) addrUnassigned
          payload := by
      obtain ⟨-, raw, names, type, rfl⟩ := upcall.of_frame
      obtain ⟨index, call, logged, accepted, frame, -, ⟨-, unassigned⟩ | ⟨slot, none, -⟩⟩ :=
        linked.uploaded found raw other names
      · rw [frame] at type
        exact ⟨_, index, call, logged, accepted, type.symm, unassigned, rfl⟩
      · cases none
    obtain ⟨after, mac⟩ := step_relays bridged.gateway now named unnamed
    rw [is]
    refine ⟨after, fun made logged raw => ?_⟩
    rw [mac] at logged
    rcases Tinymac.step_asked logged raw with old | ⟨_, _, _, ⟨_, sends⟩, -⟩
    · exact old
    · cases sends

/-- **A client hears a frame**: what its session receives was sent by the broker to the socket of
the address that the client has. -/
theorem hear_receives (bridged : Bridged site acts (site.run acts)) {index : ι}
    (heard : (site.run acts).medium.deliverable (.client index) number = some sent) (rssi : Int)
    (now : Nat → Time) :
    let station := (site.run acts).device (.client index)
    Honest (site.config index) (station.hear sent.message.frame rssi now) ∧
      Receives (Brokered acts station.mac.ctx.addr) station
        (station.hear sent.message.frame rssi now) := by
  intro station
  have linked := stations_linked site acts
  have honest := bridged.clients index
  obtain ⟨found, -, -⟩ := deliverable_eq_some.mp heard
  rcases hear_cases station now sent.message.frame rssi with is | is
  · rw [is]
    exact ⟨honest, .of_app rfl⟩
  · obtain ⟨after, new, grown, each⟩ := honest.step now (by simp [Tinymac.Input.frame] :
      ∀ dest type buf validity cb, Tinymac.Input.frame sent.message.frame rssi ≠
        .send dest type buf validity cb)
    rw [is]
    refine ⟨after, new, grown, fun datagram member => ?_⟩
    obtain ⟨node, upcall⟩ := each datagram member
    obtain ⟨accepts, raw, names, -, rfl⟩ := upcall.of_frame
    obtain ⟨-, call, logged, -, frame, -, dest⟩ := linked.downloaded found raw accepts names
    rw [frame] at raw ⊢
    have brokered := (bridged.asked call logged raw).2
    rw [dest] at brokered
    exact brokered

/-- A move of a client. -/
theorem client_moves (bridged : Bridged site acts (site.run acts)) {index : ι}
    {act : StationAct ι} {after : Station}
    (drives : (site.run acts).Drives stationDevice act (.client index) after) :
    Honest (site.config index) after ∧
      Receives (Brokered acts ((site.run acts).device (.client index)).mac.ctx.addr)
        ((site.run acts).device (.client index)) after := by
  rcases drives with ⟨call, -, rfl⟩ | ⟨number, ⟨rssi, now⟩, _, sent, -, heard, rfl⟩
  · obtain ⟨honest, new, grown, each⟩ := (bridged.clients index).call call
    exact ⟨honest, new, grown, fun datagram member => (each datagram member).elim⟩
  · exact hear_receives bridged heard rssi now

/-- A move of the gateway. -/
theorem gateway_moves (bridged : Bridged site acts (site.run acts)) {act : StationAct ι}
    {after : Station}
    (drives : (site.run acts).Drives stationDevice act .coordinator after) :
    Relays (fun entry => Took (site.run acts) entry.1 entry.2)
        (∃ payload, Took (site.run acts) addrUnassigned payload) after.app ∧
      ∀ made, .txPacket made ∈ after.mac.out → typeRawData ≤ made.hdr.type →
        made.hdr.type = typeMqttsn ∧
          Brokered (acts ++ [act]) made.hdr.destAddr made.payload := by
  have earlier {made : TxCall}
      (logged : .txPacket made ∈ ((site.run acts).device .coordinator).mac.out)
      (raw : typeRawData ≤ made.hdr.type) : made.hdr.type = typeMqttsn ∧
        Brokered (acts ++ [act]) made.hdr.destAddr made.payload := by
    obtain ⟨type, brokered⟩ := bridged.asked made logged raw
    exact ⟨type, brokered.snoc act⟩
  rcases drives with ⟨call, rfl, rfl⟩ | ⟨number, ⟨rssi, now⟩, _, sent, -, heard, rfl⟩
  · obtain ⟨relays, asked⟩ := call_relays bridged.gateway call
    refine ⟨relays, fun made logged raw => ?_⟩
    rcases asked made logged raw with old | ⟨type, datagram, rfl, payload⟩
    · exact earlier old raw
    · exact ⟨type, datagram, List.mem_append_right _ (List.mem_singleton_self _), payload⟩
  · obtain ⟨relays, unasked⟩ := hear_relays bridged heard rssi now
    exact ⟨relays, fun made logged raw => earlier (unasked made logged raw) raw⟩

end Step

omit [DecidableEq ι] in
theorem start_bridged (site : Site ι) : Bridged site [] site.start where
  clients index := ⟨.inl rfl, fun call logged => by cases Tinymac.start_logs _ logged⟩
  gateway := .inl rfl
  asked call logged := by cases Tinymac.start_logs _ logged

omit [DecidableEq ι] in
/-- What clients have taken stays taken. -/
theorem Relays.later {before after : Stations ι} {app : App}
    (relays : Relays (fun entry => Took before entry.1 entry.2)
      (∃ payload, Took before addrUnassigned payload) app)
    (grown : ∀ index, ∀ event ∈ (before.device (.client index)).mac.out,
      event ∈ (after.device (.client index)).mac.out) :
    Relays (fun entry => Took after entry.1 entry.2)
      (∃ payload, Took after addrUnassigned payload) app :=
  relays.mono (fun _ took => took.mono grown) (Exists.imp fun _ took => took.mono grown)

/-- **Every run of the stations is bridged.** -/
theorem run_bridged (site : Site ι) (acts : List (StationAct ι)) :
    Bridged site acts (site.run acts) := by
  induction acts using List.reverseRecOn with
  | nil => exact start_bridged site
  | append_singleton acts act ih =>
      have earlier (call : TxCall)
          (logged : .txPacket call ∈ ((site.run acts).device .coordinator).mac.out)
          (raw : typeRawData ≤ call.hdr.type) : call.hdr.type = typeMqttsn ∧
            Brokered (acts ++ [act]) call.hdr.destAddr call.payload := by
        obtain ⟨type, brokered⟩ := ih.asked call logged raw
        exact ⟨type, brokered.snoc act⟩
      rw [Site.run_snoc]
      rcases System.step_moves stationDevice (site.run acts) act with
        ⟨same, -⟩ | ⟨party, after, drives, moved, -⟩
      · have grown (index : ι) : ∀ event ∈ ((site.run acts).device (.client index)).mac.out,
            event ∈ ((System.step stationDevice (site.run acts) act).device
              (.client index)).mac.out := by
          rw [same]
          exact fun _ logged => logged
        refine ⟨fun index => ?_, ?_, ?_⟩
        · rw [same]
          exact ih.clients index
        · refine Relays.later ?_ grown
          rw [same]
          exact ih.gateway
        · rw [same]
          exact earlier
      · have grown (index : ι) : ∀ event ∈ ((site.run acts).device (.client index)).mac.out,
            event ∈ ((System.step stationDevice (site.run acts) act).device
              (.client index)).mac.out := by
          intro event logged
          rw [moved]
          by_cases is : Party.client index = party
          · subst is
            rw [Function.update_self]
            exact drives_grow drives event logged
          · rw [Function.update_of_ne is]
            exact logged
        cases party with
        | coordinator =>
            obtain ⟨relays, asked⟩ := gateway_moves ih drives
            refine ⟨fun index => ?_, ?_, ?_⟩
            · rw [moved, Function.update_of_ne (by simp)]
              exact ih.clients index
            · refine Relays.later ?_ grown
              rw [moved, Function.update_self]
              exact relays
            · rw [moved, Function.update_self]
              exact asked
        | client mover =>
            obtain ⟨honest, -⟩ := client_moves ih drives
            refine ⟨fun index => ?_, ?_, ?_⟩
            · rw [moved]
              by_cases is : index = mover
              · subst is
                rw [Function.update_self]
                exact honest
              · rw [Function.update_of_ne (by simpa using is)]
                exact ih.clients index
            · refine Relays.later ?_ grown
              rw [moved, Function.update_of_ne (by simp)]
              exact ih.gateway
            · rw [moved, Function.update_of_ne (by simp)]
              exact earlier

/-! ### End to end -/

/-- **From a client to the broker.** What the gateway has sent to the broker from the socket of an
address was handed to `cb_send` by the session of a client, and the MAC of the client accepted it
when it had that address. -/
theorem relayed_sent (site : Site ι) (acts : List (StationAct ι)) :
    ∀ entry ∈ ((site.run acts).device .coordinator).app.relayed, ∃ index,
      entry.2 ∈ ((site.run acts).device (.client index)).app.handed ∧
        ∃ call, .txPacket call ∈ ((site.run acts).device (.client index)).mac.out ∧
          call.accepted = true ∧ call.hdr.srcAddr = entry.1 ∧ call.payload = entry.2 := by
  have bridged := run_bridged site acts
  intro entry member
  obtain ⟨index, call, logged, accepted, type, source, payload⟩ :=
    bridged.gateway.relayed entry member
  have raw : typeRawData ≤ call.hdr.type := by
    rw [type]
    decide
  refine ⟨index, ?_, call, logged, accepted, source, payload⟩
  rw [← payload]
  exact ((bridged.clients index).sent call logged raw).2

/-- **From the broker to a client.** What the session of a client receives was sent by the broker to
the socket of the address that the client has at that moment. -/
theorem received_relayed (site : Site ι) (acts : List (StationAct ι)) :
    ∀ move ∈ (site.run acts).history, ∀ index, move.party = .client index →
      ∀ datagram ∈ move.after.app.received.drop move.before.app.received.length,
        Brokered acts move.before.mac.ctx.addr datagram := by
  induction acts using List.reverseRecOn with
  | nil => exact fun _ member => nomatch member
  | append_singleton acts act ih =>
      intro move member index party datagram received
      rw [Site.run_snoc] at member
      rcases System.step_moves stationDevice (site.run acts) act with
        ⟨-, same⟩ | ⟨mover, after, drives, -, grown⟩
      · rw [same] at member
        exact (ih move member index party datagram received).snoc act
      · rw [grown, List.mem_append, List.mem_singleton] at member
        rcases member with old | rfl
        · exact (ih move old index party datagram received).snoc act
        · obtain rfl : mover = .client index := party
          obtain ⟨-, new, longer, each⟩ := client_moves (run_bridged site acts) drives
          rw [longer, List.drop_left] at received
          exact (each datagram received).snoc act

/-- **What kills the gateway.** It dies only of a MQTT-SN packet that the MAC of a client accepted
when it had no address. -/
theorem gateway_dies (site : Site ι) (acts : List (StationAct ι))
    {relayed : List (BitVec 8 × List Byte)}
    (dead : ((site.run acts).device .coordinator).app = .dead relayed) :
    ∃ index call, .txPacket call ∈ ((site.run acts).device (.client index)).mac.out ∧
      call.accepted = true ∧ call.hdr.type = typeMqttsn ∧ call.hdr.srcAddr = addrUnassigned ∧
      call.payload ∈ ((site.run acts).device (.client index)).app.handed := by
  have bridged := run_bridged site acts
  rcases bridged.gateway with off | ⟨_, running, -⟩ | ⟨_, -, -, payload, index, call, logged,
    accepted, type, source, -⟩
  · cases off.symm.trans dead
  · cases running.symm.trans dead
  · have raw : typeRawData ≤ call.hdr.type := by
      rw [type]
      decide
    exact ⟨index, call, logged, accepted, type, source,
      ((bridged.clients index).sent call logged raw).2⟩

end Runs

/-! ### A gateway with one client -/

/-- A gateway, and a client without topics. -/
def pairSite : Site Unit :=
  ⟨Tinymac.pairSetup, fun _ => ⟨⟨[0x63#8], Mqttsn.letter_c⟩, .empty, Mqttsn.letter_short⟩⟩

/-- A clock that stands still. -/
def clock (time : Time) : Nat → Time := fun _ => time

/-- Both are started. The client cannot send its CONNECT yet, asks for a beacon, and requests a
registration. -/
def pairStarts : List (StationAct Unit) :=
  [.call .coordinator (.main (clock 0)), .call (.client ()) (.main (clock 0)),
    .call (.client ()) (.tick (clock 1)), .hear .coordinator 0 (0, clock 1) false,
    .hear (.client ()) 1 (0, clock 1) false]

/-- The client is registered. It sends the CONNECT again, and the broker answers. -/
def pairConnects : List (StationAct Unit) :=
  pairStarts ++ [.hear .coordinator 2 (0, clock 1) false, .hear (.client ()) 3 (0, clock 1) false,
    .call (.client ()) (.tick (clock 5)), .hear .coordinator 4 (0, clock 5) false,
    .call .coordinator (.broker 1#8 [3#8, 0x05#8, 0x00#8]), .hear (.client ()) 5 (0, clock 5) false]

theorem relayed_sent_connect :
    let stations := pairSite.run pairConnects
    let connect := [7#8, 0x04#8, 0#8, 1#8, 0#8, 10#8, 0x63#8]
    (1#8, connect) ∈ (stations.device .coordinator).app.relayed ∧
      ∃ index, connect ∈ (stations.device (.client index)).app.handed ∧
        ∃ call, .txPacket call ∈ (stations.device (.client index)).mac.out ∧
          call.accepted = true ∧ call.hdr.srcAddr = 1#8 ∧ call.payload = connect := by
  intro stations connect
  have member : (1#8, connect) ∈ (stations.device .coordinator).app.relayed := by decide +kernel
  exact ⟨member, relayed_sent pairSite pairConnects _ member⟩

theorem received_relayed_connack :
    ∃ move ∈ (pairSite.run pairConnects).history, move.party = .client () ∧
      [3#8, 0x05#8, 0x00#8] ∈ move.after.app.received.drop move.before.app.received.length ∧
        Brokered pairConnects move.before.mac.ctx.addr [3#8, 0x05#8, 0x00#8] := by
  have some : (pairSite.run pairConnects).history.any (fun move => move.party = .client () ∧
      [3#8, 0x05#8, 0x00#8] ∈ move.after.app.received.drop move.before.app.received.length) =
      true := by
    decide +kernel
  obtain ⟨move, member, holds⟩ := List.any_eq_true.mp some
  obtain ⟨party, received⟩ := of_decide_eq_true holds
  exact ⟨move, member, party, received,
    received_relayed pairSite pairConnects move member () party _ received⟩

/-- The registration takes long. The client sends the CONNECT again in the meantime, and the gateway
dies of it. -/
theorem gateway_dies_registering :
    let acts := pairStarts ++
      [.call (.client ()) (.tick (clock 5)), .hear .coordinator 3 (0, clock 5) false]
    ((pairSite.run acts).device .coordinator).app = .dead [] ∧
      ∃ index call, .txPacket call ∈ ((pairSite.run acts).device (.client index)).mac.out ∧
        call.accepted = true ∧ call.hdr.type = typeMqttsn ∧ call.hdr.srcAddr = addrUnassigned ∧
        call.payload ∈ ((pairSite.run acts).device (.client index)).app.handed := by
  intro acts
  have dead : ((pairSite.run acts).device .coordinator).app = .dead [] := by rfl
  exact ⟨dead, gateway_dies pairSite acts dead⟩

end TinyHan.Bridge
