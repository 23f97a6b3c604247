/-
**Orphaned clients are expelled.**

A client is orphaned if it is Registered at an address for which its coordinator has no live slot. A
packet that it builds names its network and its address, so the coordinator answers it with a
response that has every node at the address register again, and that is all it does.

The ack timer of a client outlives its registration. A packet that it sends again may have been
built under another address, and the answer then goes there: `orphan_expelled_iff` says that this is
the only frame with which an orphaned client is not expelled.
-/

import TinyHan.Client.Uplink
import TinyHan.Coordinator.Timers
import TinyHan.Network.Delivery

namespace TinyHan.Tinymac

open TinyHan.Lib

/-! ### What a client sends -/

section Client

variable {σ : Mac} (client : Client σ.ctx) (registered : σ.ctx.state = .registered)

include client registered

/-- A heard frame: besides the acknowledgement, a poll. -/
theorem Client.heard_calls (buf : Memory) (size : Nat) (rssi : Int) {frame : Frame} :
    let heard := tinymacRecvKnown (tinymacRecvStandby σ (readHeader buf)) .coord (readHeader buf)
      rssi
    let after := tinymacRecvType heard (some .coord) (readHeader buf) buf size
    frame ∈ after.sentSince σ → frame.hdr.type ≠ PacketType.ack.code →
      Stays σ after ∧ frame.hdr.Between σ.ctx.netId σ.ctx.addr σ.ctx.coord.addr := by
  intro heard after sent own
  have ctx : heard.ctx = σ.ctx.modify .coord fun node => node.heard σ.ctx.tickCount rssi :=
    heard_ctx client _ rssi
  have still : Client heard.ctx := client.heard_coord rssi ctx
  have state : heard.ctx.state = .registered := by
    rw [ctx]
    exact registered
  have answered : frames heard.out = frames σ.out ++ σ.ctx.answer .coord (readHeader buf) :=
    heard_frames client _ rssi
  have acks : ∀ frame ∈ σ.ctx.answer .coord (readHeader buf),
      frame.hdr.type = PacketType.ack.code := by
    intro frame member
    rw [Ctx.answer] at member
    split at member
    · rw [List.mem_singleton.mp member]
      exact ackHeader_type ..
    · cases member
  rcases still.recvType_polls state buf size with none | polls
  · rw [sentSince_of_frames (none.trans answered)] at sent
    exact absurd (acks frame sent) own
  · have link : after.ctx.link = σ.ctx.link := by
      simp only [after]
      rw [polls, txPacket_link, ctx, modify_link]
    refine ⟨.of_link registered link, ?_⟩
    rcases still.txPacket_frames PacketType.poll.code [] 0#16 none with none | one
    · rw [← polls] at none
      rw [sentSince_of_frames (none.trans answered)] at sent
      exact absurd (acks frame sent) own
    · rw [← polls, answered, List.append_assoc] at one
      rw [sentSince_of_frames one, List.mem_append, List.mem_singleton] at sent
      rcases sent with ack | poll
      · exact absurd (acks frame ack) own
      · rw [poll, ctx]
        exact ⟨rfl, rfl, rfl⟩

/-- **The frames of a Registered client** that are not acknowledgements are packets it builds, which
go from its address to its coordinator, and the retransmission of a tick. It stays Registered. -/
theorem Client.calls {input : Input} {frame : Frame}
    (sent : frame ∈ (σ.step input).sentSince σ) (own : frame.hdr.type ≠ PacketType.ack.code) :
    Stays σ (σ.step input) ∧
      (frame.hdr.Between σ.ctx.netId σ.ctx.addr σ.ctx.coord.addr ∨
        input = .tick ∧ σ.ctx.retransmits = true ∧
          frame = ⟨σ.ctx.coord.pendingHeader, σ.ctx.coord.pending⟩) := by
  have unsent {after : Mac} (same : frames after.out = frames σ.out) :
      frame ∉ after.sentSince σ := by
    rw [sentSince_of_frames (same.trans (List.append_nil _).symm)]
    exact List.not_mem_nil
  cases input with
  | permitAttach | registerRecvCb | registerRegCb | registerDeregCb =>
      exact absurd sent (unsent rfl)
  | tick =>
      rw [client.tick_frames registered] at sent
      split at sent
      · next again =>
        exact ⟨client.tick_registered registered (retransmits_keeps again),
          .inr ⟨rfl, again, List.mem_singleton.mp sent⟩⟩
      · cases sent
  | send dest type buf validity cb =>
      rw [Mac.step] at sent ⊢
      rcases client.send_cases dest type buf validity cb with same | ⟨-, -, validity', is⟩
      · rw [same] at sent
        exact absurd sent (unsent rfl)
      · rw [is] at sent ⊢
        refine ⟨.of_link registered (txPacket_link ..), .inl ?_⟩
        rcases client.txPacket_frames type buf validity' cb with none | one
        · exact absurd sent (unsent none)
        · rw [sentSince_of_frames one, List.mem_singleton] at sent
          rw [sent]
          exact ⟨rfl, rfl, rfl⟩
  | recv buf size rssi =>
      rw [Mac.step] at sent ⊢
      cases attends : σ.ctx.attends (readHeader buf) size with
      | false => exact absurd sent (unsent (recv_ignored_frames client attends rssi))
      | true =>
          rw [recv_attended client (client.assigned registered) attends rssi] at sent ⊢
          exact (client.heard_calls registered buf size rssi sent own).imp_right .inl

end Client

/-! ### What the coordinator answers -/

/-- The answer to a frame from an address that no live slot has. -/
def Ctx.expulsion (ctx : Ctx) (addr : BitVec 8) : Frame :=
  ⟨ctx.buildHeader (some (.temp (dummyNode addr))) PacketType.registrationResponse.code,
    RegistrationResponse.bytes ⟨0#64, addrUnassigned, RegistrationStatus.addressInvalid.code⟩⟩

section Coordinator

variable {σ : Mac} (coordinator : Coordinator σ.ctx) (frame : Frame) (rssi : Int)

include coordinator

/-- **An unknown source** is told to register again, and nothing else happens. -/
theorem recv_expels (unhandled : σ.ctx.handles frame.hdr frame.bytes.length = false) :
    let after := σ.step (.frame frame rssi)
    after.ctx.nodes = σ.ctx.nodes ∧ deliveries after.out = deliveries σ.out ∧
      after.sentSince σ = if σ.ctx.accepts frame.hdr frame.bytes.length then
        [σ.ctx.expulsion frame.hdr.srcAddr] else [] := by
  intro after
  have unhandled' : σ.ctx.handles (readHeader frame.memory) frame.bytes.length = false := by
    rwa [readHeader_frame]
  have nodes := recv_unhandled coordinator frame.memory frame.bytes.length rssi unhandled'
  refine ⟨nodes, ?_⟩
  rcases recv_unhandled_cases coordinator frame.memory frame.bytes.length rssi unhandled' with
    ⟨refused, same⟩ | ⟨accepted, -, expels⟩
  · rw [readHeader_frame] at refused
    have same : after = σ := same
    rw [same, refused, if_neg Bool.false_ne_true]
    exact ⟨rfl, sentSince_of_frames (List.append_nil _).symm⟩
  · rw [readHeader_frame] at accepted expels
    have expels : after = (tinymacRecvStandby σ frame.hdr).expel frame.hdr.srcAddr := expels
    have ready : Coordinator (tinymacRecvStandby σ frame.hdr).ctx := by rwa [recvStandby_ctx]
    rw [accepted, if_pos rfl, expels]
    constructor
    · exact Emits.filterMap_eq ((recvStandby_emits σ frame.hdr delivery_standby).trans
        (txPacket_emits _ _ _ _ _ _ delivery_standby (fun _ => rfl) fun _ _ _ _ _ => rfl))
    · refine sentSince_of_frames ?_
      rw [Mac.expel, txPacket_unicast_frames _ _ _ _ _ _ (ready.fits (response_short _)) rfl
        (by simp [Node.sleepy, dummyNode, Node.zero]), recvStandby_frames, recvStandby_ctx]
      rfl

end Coordinator

/-! ### What the client does with the answer -/

section Answer

variable {σ : Mac} (client : Client σ.ctx) (bound : σ.ctx.Bound)
  (registered : σ.ctx.state = .registered) (coord : σ.ctx.coord.addr = 0#8)

include client

/-- An expulsion for another address is not for the client. -/
theorem expulsion_ignored {ctx : Ctx} {addr : BitVec 8} (other : addr ≠ σ.ctx.addr)
    (assigned : addr ≠ addrUnassigned) (rssi : Int) :
    (σ.step (.frame (ctx.expulsion addr) rssi)).ctx = σ.ctx := by
  have header : (ctx.expulsion addr).hdr.destAddr = addr := rfl
  have elsewhere : addr ≠ addrBroadcast := assigned
  have ignored : σ.ctx.attends (readHeader (ctx.expulsion addr).memory)
      (ctx.expulsion addr).bytes.length = false := by
    simp [Ctx.attends, Ctx.accepts, Ctx.addressed, header, other, elsewhere]
  rw [Input.frame, Mac.step]
  rcases recv_ignored client ignored rssi with same | standby
  · rw [same]
  · rw [standby, recvStandby_ctx]

include bound registered coord

/-- **An expulsion ends the registration**, whatever the UUID of the client. -/
theorem expulsion_detaches {ctx : Ctx} (network : ctx.netId = σ.ctx.netId) (source : ctx.addr = 0#8)
    (other : σ.ctx.addr ≠ 0#8) (rssi : Int) :
    (σ.step (.frame (ctx.expulsion σ.ctx.addr) rssi)).ctx.link = σ.ctx.link.detach := by
  have live := bound (Link.not_seeking_iff.mpr (.inr registered))
  have type : (ctx.expulsion σ.ctx.addr).hdr.type = PacketType.registrationResponse.code :=
    buildHeader_control ..
  have resp : readRegistrationResponse (ctx.expulsion σ.ctx.addr).memory =
      ⟨0#64, addrUnassigned, RegistrationStatus.addressInvalid.code⟩ :=
    readRegistrationResponse_frame ..
  have size : (ctx.expulsion σ.ctx.addr).bytes.length = headerSize + registrationResponseSize := by
    simp [Ctx.expulsion]
  have attends : σ.ctx.attends (readHeader (ctx.expulsion σ.ctx.addr).memory)
      (ctx.expulsion σ.ctx.addr).bytes.length = true := by
    rw [readHeader_frame]
    exact client.attends registered live coord other network source (.inl rfl)
  have signal : frameSignal (ctx.expulsion σ.ctx.addr).memory
      (ctx.expulsion σ.ctx.addr).bytes.length = .response (ctx.expulsion σ.ctx.addr).hdr
        ⟨0#64, addrUnassigned, RegistrationStatus.addressInvalid.code⟩ := by
    simp [frameSignal, type, size, resp]
  have unicast : (ctx.expulsion σ.ctx.addr).hdr.destAddr ≠ addrBroadcast :=
    client.assigned registered
  rw [Input.frame, Mac.step, recv_link σ client.role, Ctx.signal, if_pos attends, signal, Link.step,
    Link.onResponse, if_neg unicast]
  simp [registered]

end Answer

/-- What the ack timer of a client sends again asks for an acknowledgement. -/
def Ctx.Asks (ctx : Ctx) : Prop :=
  ctx.coord.ackTimer.armed = true → ctx.coord.pendingHeader.ackRequest = true

theorem Ctx.Asks.step {σ : Mac} (asks : σ.ctx.Asks) (client : Client σ.ctx) (input : Input) :
    (σ.step input).ctx.Asks := by
  intro armed
  rcases client.step_inherits input with inherits | ⟨_, type, _, _, _, -, -, requested, new, -⟩
  · rw [(inherits armed).2.1]
    exact asks (inherits armed).1
  · rw [new]
    exact (buildHeader_ackRequest ..).trans requested

theorem reachable_asks (boot : Boot) (role : boot.params.coordinator = false)
    (inputs : List Input) : (boot.start.run inputs).ctx.Asks := by
  have start : boot.start.ctx.Asks := by
    intro armed
    rw [start_coord] at armed
    cases armed
  have run (σ : Mac) (asks : σ.ctx.Asks) (client : Client σ.ctx) : (σ.run inputs).ctx.Asks := by
    induction inputs generalizing σ with
    | nil => exact asks
    | cons input inputs ih => exact ih _ (asks.step client input) (client.step input)
  exact run boot.start start (start_client boot role)

/-! ### The exchange -/

/-- The client is Registered at an address for which its coordinator has no live slot. -/
structure Orphaned (client σ : Mac) : Prop where
  state : client.ctx.state = .registered
  netId : client.ctx.netId = σ.ctx.netId
  coord : client.ctx.coord.addr = 0#8
  addr : client.ctx.addr ≠ 0#8
  gone : ∀ index, (σ.ctx.nodes index).live = true → (σ.ctx.nodes index).addr ≠ client.ctx.addr

/-- A data packet or a poll for one node. -/
def Frame.Calls (frame : Frame) : Prop :=
  frame.hdr.destAddr ≠ addrBroadcast ∧
    (frame.hdr.type = PacketType.poll.code ∨ typeRawData ≤ frame.hdr.type)

/-- The coordinator hears the frame, the client its answers: no slot has changed, nothing is
delivered or acknowledged, and the client is out of the network. -/
structure Expelled (client σ : Mac) (frame : Frame) (rssi : Frame → Int) : Prop where
  nodes : (σ.step (.frame frame (rssi frame))).ctx.nodes = σ.ctx.nodes
  undelivered : deliveries (σ.step (.frame frame (rssi frame))).out = deliveries σ.out
  unacked : ∀ answer ∈ (σ.step (.frame frame (rssi frame))).sentSince σ,
    answer.hdr.type ≠ PacketType.ack.code
  state : (client.receive rssi ((σ.step (.frame frame (rssi frame))).sentSince σ)).ctx.state =
    .unregistered
  addr : (client.receive rssi ((σ.step (.frame frame (rssi frame))).sentSince σ)).ctx.addr =
    addrUnassigned
  netId : (client.receive rssi ((σ.step (.frame frame (rssi frame))).sentSince σ)).ctx.netId =
    networkAny

/-- What the ack timer sends again was built under the network, the address and the coordinator that
the client has now. -/
def Ctx.SendsAsItself (ctx : Ctx) : Input → Prop
  | .tick => ctx.retransmits = true → ctx.coord.pendingHeader.destAddr ≠ addrBroadcast →
      ctx.coord.pendingHeader.Between ctx.netId ctx.addr 0#8
  | _ => True

section Exchange

variable {client σ : Mac} (isClient : Client client.ctx) (bound : client.ctx.Bound) (hub : Hub σ)
  (orphaned : Orphaned client σ) {frame : Frame} (rssi : Frame → Int)

include isClient orphaned

theorem Orphaned.real : σ.ctx.netId ≠ networkAny :=
  orphaned.netId ▸ isClient.networked orphaned.state

/-- A client that stays Registered stays orphaned. -/
theorem Orphaned.step {input : Input} (stays : Stays client (client.step input)) :
    Orphaned (client.step input) σ := by
  have seeking : ¬ client.ctx.link.seeking := Link.not_seeking_iff.mpr (.inr orphaned.state)
  refine ⟨stays.state, stays.netId.trans orphaned.netId,
    (isClient.step_coord_addr fun _ _ _ _ => seeking).trans orphaned.coord, ?_, ?_⟩
  · rw [stays.addr]
    exact orphaned.addr
  · rw [stays.addr]
    exact orphaned.gone

include bound hub

/-- **A frame from the client's address expels it.** -/
theorem Orphaned.expelled (between : frame.hdr.Between client.ctx.netId client.ctx.addr 0#8) :
    Expelled client σ frame rssi := by
  have real := orphaned.real isClient
  have assigned := isClient.assigned orphaned.state
  have unknown : tinymacGetNodeByAddr σ.ctx client.ctx.addr = none := by
    refine Option.eq_none_iff_forall_ne_some.mpr fun ptr found => ?_
    obtain ⟨index, -, addr, live⟩ := getNodeByAddr_coordinator hub.coordinator.role found
    exact orphaned.gone index live addr
  have accepted : σ.ctx.accepts frame.hdr frame.bytes.length = true := by
    simp [Ctx.accepts, Ctx.addressed, Ctx.admitted, between.netId, between.source, between.dest,
      orphaned.netId, orphaned.addr, hub.coordinator.addr, real, assigned]
  have unhandled : σ.ctx.handles frame.hdr frame.bytes.length = false := by
    simp [Ctx.handles, between.source, unknown, assigned]
  obtain ⟨nodes, undelivered, sent⟩ := recv_expels hub.coordinator frame (rssi frame) unhandled
  rw [accepted, if_pos rfl, between.source] at sent
  have link : (client.receive rssi
      ((σ.step (.frame frame (rssi frame))).sentSince σ)).ctx.link = client.ctx.link.detach := by
    rw [sent]
    exact expulsion_detaches isClient bound orphaned.state orphaned.coord orphaned.netId.symm
      hub.coordinator.addr orphaned.addr _
  refine ⟨nodes, undelivered, fun answer member => ?_, congrArg Link.state link,
    congrArg Link.addr link, congrArg Link.netId link⟩
  rw [sent, List.mem_singleton] at member
  have type : answer.hdr.type = PacketType.registrationResponse.code := by
    rw [member]
    exact buildHeader_control ..
  rw [type]
  decide

omit bound hub isClient orphaned in
/-- A frame for one node that a coordinator accepts is of its network and for its address. -/
theorem accepts_unicast (coordinator : Coordinator σ.ctx) {hdr : Header} {size : Nat}
    (accepted : σ.ctx.accepts hdr size = true) (unicast : hdr.destAddr ≠ addrBroadcast) :
    hdr.netId = σ.ctx.netId ∧ hdr.destAddr = 0#8 := by
  simp only [Ctx.accepts, Bool.and_eq_true] at accepted
  have addressed := accepted.1.2
  simpa [Ctx.addressed, unicast, coordinator.addr] using addressed

omit bound hub isClient in
/-- A client that the answers leave as it is has not been expelled. -/
theorem Orphaned.not_expelled_of_same (same : (client.receive rssi
    ((σ.step (.frame frame (rssi frame))).sentSince σ)).ctx = client.ctx) :
    ¬ Expelled client σ frame rssi := by
  intro expelled
  have state := expelled.state
  rw [same, orphaned.state] at state
  cases state

omit bound in
/-- A frame from an address that no live slot has is answered there, if it is answered. -/
theorem Orphaned.unhandled_same (unicast : frame.hdr.destAddr ≠ addrBroadcast)
    (unhandled : σ.ctx.handles frame.hdr frame.bytes.length = false)
    (other : ¬ frame.hdr.Between client.ctx.netId client.ctx.addr 0#8) :
    (client.receive rssi ((σ.step (.frame frame (rssi frame))).sentSince σ)).ctx =
      client.ctx := by
  obtain ⟨-, -, sent⟩ := recv_expels hub.coordinator frame (rssi frame) unhandled
  rw [sent]
  cases accepted : σ.ctx.accepts frame.hdr frame.bytes.length with
  | false => rfl
  | true =>
      obtain ⟨network, dest⟩ := accepts_unicast hub.coordinator accepted unicast
      have assigned : frame.hdr.srcAddr ≠ addrUnassigned := by
        rw [Ctx.handles, accepted, Bool.true_and, Bool.or_eq_false_iff] at unhandled
        exact beq_eq_false_iff_ne.mp unhandled.1
      have elsewhere : frame.hdr.srcAddr ≠ client.ctx.addr := fun source =>
        other ⟨network.trans orphaned.netId.symm, source, dest⟩
      exact expulsion_ignored isClient elsewhere assigned _

omit bound isClient orphaned in
/-- A data packet without a source address is not answered. -/
theorem unassigned_unanswered (handles : σ.ctx.handles frame.hdr frame.bytes.length = true)
    (unassigned : frame.hdr.srcAddr = addrUnassigned) (data : typeRawData ≤ frame.hdr.type) :
    (σ.step (.frame frame (rssi frame))).sentSince σ = [] := by
  have quiet : σ.hear frame.hdr (rssi frame) = tinymacRecvStandby σ frame.hdr := if_pos unassigned
  have shape := recv_handled σ hub.coordinator frame.memory frame.bytes.length (rssi frame)
    (by rwa [readHeader_frame])
  rw [readHeader_frame, quiet] at shape
  refine sentSince_of_frames ?_
  rw [Input.frame, Mac.step, shape, (recvType_data _ 0 frame.hdr _ _ _ (.inr data)).2.1,
    recvStandby_frames, List.append_nil]

omit bound isClient orphaned in
/-- A data packet from a live slot is acknowledged, if it asks for it. -/
theorem known_acked (real : σ.ctx.netId ≠ networkAny)
    (unicast : frame.hdr.destAddr ≠ addrBroadcast)
    (handles : σ.ctx.handles frame.hdr frame.bytes.length = true)
    (assigned : frame.hdr.srcAddr ≠ addrUnassigned) (data : typeRawData ≤ frame.hdr.type)
    (asks : frame.hdr.ackRequest = true) :
    ∃ answer ∈ (σ.step (.frame frame (rssi frame))).sentSince σ,
      answer.hdr.type = PacketType.ack.code := by
  rw [Ctx.handles, Bool.and_eq_true, Bool.or_eq_true, beq_iff_eq] at handles
  obtain ⟨accepted, known⟩ := handles
  obtain ⟨network, dest⟩ := accepts_unicast hub.coordinator accepted unicast
  obtain ⟨ptr, found⟩ := Option.isSome_iff_exists.mp (known.resolve_left assigned)
  obtain ⟨index, -, source, live⟩ := getNodeByAddr_coordinator hub.coordinator.role found
  have shape := hub.recv live real network dest source.symm (rssi frame)
  have sent : frames (σ.step (.frame frame (rssi frame))).out = frames σ.out ++
      (σ.ctx.answer (.slot index) frame.hdr ++ σ.ctx.kept (.slot index)) := by
    rw [shape, (recvType_data _ 0 frame.hdr _ _ _ (.inr data)).2.1]
    exact heardFrom_frames σ index frame.hdr (rssi frame)
  refine ⟨⟨σ.ctx.ackHeader (σ.ctx.node (.slot index)) frame.hdr.seq, []⟩, ?_, ackHeader_type ..⟩
  rw [sentSince_of_frames sent, Ctx.answer, if_pos asks]
  exact List.mem_append_left _ List.mem_cons_self

omit bound in
/-- **A data packet under another identity does not expel the client**, if it asks for an
acknowledgement. -/
theorem Orphaned.not_expelled (unicast : frame.hdr.destAddr ≠ addrBroadcast)
    (data : typeRawData ≤ frame.hdr.type) (asks : frame.hdr.ackRequest = true)
    (other : ¬ frame.hdr.Between client.ctx.netId client.ctx.addr 0#8) :
    ¬ Expelled client σ frame rssi := by
  cases handles : σ.ctx.handles frame.hdr frame.bytes.length with
  | false =>
      refine orphaned.not_expelled_of_same rssi ?_
      exact orphaned.unhandled_same isClient hub rssi unicast handles other
  | true =>
      by_cases unassigned : frame.hdr.srcAddr = addrUnassigned
      · refine orphaned.not_expelled_of_same rssi ?_
        rw [unassigned_unanswered hub rssi handles unassigned data]
        rfl
      · intro expelled
        obtain ⟨answer, member, acks⟩ := known_acked hub rssi (orphaned.real isClient) unicast
          handles unassigned data asks
        exact expelled.unacked answer member acks

end Exchange

/-- **Orphaned clients are expelled at first contact**, for every reachable coordinator and client:
every data packet or poll that an orphaned client sends in a step expels it, iff what its ack timer
sends again in that step, if anything, was built under the identity that it has now. -/
theorem orphan_expelled_iff (boot : Boot) (role : boot.params.coordinator = true)
    (inputs : List Input) (device : Boot) (isClient : device.params.coordinator = false)
    (commands : List Input) (input : Input) (rssi : Frame → Int) :
    let σ := boot.start.run inputs
    let client := device.start.run commands
    Orphaned client σ →
      ((∀ frame ∈ (client.step input).sentSince client, frame.Calls →
          Expelled (client.step input) σ frame rssi) ↔
        client.ctx.SendsAsItself input) := by
  intro σ client orphaned
  have hub : Hub σ := reachable_hub boot role inputs
  have asks : client.ctx.Asks := reachable_asks device isClient commands
  have bound : client.ctx.Bound := reachable_bound device isClient commands
  have isClient : Client client.ctx := reachable_client device isClient commands
  constructor
  · intro expels
    cases input with
    | tick =>
        intro again unicast
        by_contra other
        let packet : Frame := ⟨client.ctx.coord.pendingHeader, client.ctx.coord.pending⟩
        have stays := isClient.tick_registered orphaned.state (retransmits_keeps again)
        have armed := retransmits_armed again
        have data : typeRawData ≤ packet.hdr.type := isClient.coord.pending armed
        have sent : packet ∈ (client.step .tick).sentSince client := by
          rw [isClient.tick_frames orphaned.state, if_pos again]
          exact List.mem_cons_self
        rw [← stays.netId, ← stays.addr] at other
        exact (orphaned.step isClient stays).not_expelled (isClient.step .tick) hub rssi unicast
          data (asks armed) other (expels packet sent ⟨unicast, .inr data⟩)
    | _ => trivial
  · intro itself frame sent ⟨unicast, kind⟩
    have own : frame.hdr.type ≠ PacketType.ack.code := by
      intro ack
      rw [ack] at kind
      rcases kind with poll | data
      · cases poll
      · exact rawData_not_control .ack data
    obtain ⟨stays, built⟩ := isClient.calls orphaned.state sent own
    refine (orphaned.step isClient stays).expelled (isClient.step input)
      (bound.step isClient input) hub rssi ?_
    rw [stays.netId, stays.addr]
    rcases built with between | ⟨rfl, again, rfl⟩
    · rwa [orphaned.coord] at between
    · exact itself again unicast

/-- A client that its coordinator knows nothing of sends a byte, and is expelled. -/
theorem orphan_expelled_data :
    let σ := (Boot.coordinatorOn 5#8).start.run []
    let client := (Boot.clientWith 7#64 0#16).start.run [
      .frame (beaconFrame 5#8 1#8 beaconFlagsPermitAttach 0xC0#64) 0,
      .frame (registrationResponseFrame 5#8 1#8 ⟨7#64, 1#8, RegistrationStatus.success.code⟩) 0]
    Expelled (client.step (.send 0#8 0x51#8 [4] 0#16 none)) σ
      ⟨⟨headerFlags 0x51#8, 5#8, 0#8, 1#8, 2#8⟩, [4]⟩ fun _ => 0 := by
  intro σ client
  have orphaned : Orphaned client σ := by constructor <;> decide +kernel
  exact (orphan_expelled_iff (Boot.coordinatorOn 5#8) rfl [] (Boot.clientWith 7#64 0#16) rfl _
    (.send 0#8 0x51#8 [4] 0#16 none) (fun _ => 0) orphaned).mpr trivial _ (by decide +kernel)
    ⟨by decide, .inr (by decide)⟩

/-- A client is expelled while it waits for an acknowledgement, and registers again at another
address. What its ack timer sends again names the old one: the answer is not for the client, and it
stays Registered. -/
theorem stale_packet_not_expelled :
    let σ := (Boot.coordinatorOn 5#8).start.run []
    let beacon : Input := .frame (beaconFrame 5#8 1#8 beaconFlagsPermitAttach 0xC0#64) 0
    let granted (addr : BitVec 8) : Input :=
      .frame (registrationResponseFrame 5#8 1#8 ⟨7#64, addr, RegistrationStatus.success.code⟩) 0
    let client := (Boot.clientWith 7#64 0#16).start.run [beacon, granted 1#8,
      .send 0#8 0x51#8 [4] 0#16 none, .frame (σ.ctx.expulsion 1#8) 0, beacon, granted 2#8, .tick]
    let sent := (client.step .tick).sentSince client
    let answers := (σ.receive (fun _ => 0) sent).sentSince σ
    Orphaned client σ ∧ sent.map (·.hdr.srcAddr) = [1#8] ∧ answers = [σ.ctx.expulsion 1#8] ∧
      ((client.step .tick).receive (fun _ => 0) answers).ctx.state = .registered := by
  intro σ beacon granted client sent answers
  refine ⟨by constructor <;> decide +kernel, by decide +kernel, by decide +kernel,
    by decide +kernel⟩

end TinyHan.Tinymac
