/-
**Delivery of one packet without losses.**

A client that is Registered and the coordinator that holds its slot, both idle. `tinymac_send` sends
the packet at once to a client that is awake, and keeps it for a sleepy one until the client's next
frame. The packet then reaches the client's callback once, with its type and exactly its payload,
and a packet that asks for an acknowledgement is completed with success, once (`send_delivers`).

The last two frames are the same for both (`packet_delivered`): the packet, and the
acknowledgement the client answers it with.
-/

import TinyHan.Client.Reception
import TinyHan.Coordinator.Keeping

namespace TinyHan.Tinymac

open TinyHan.Lib

/-- A client and the slot that its coordinator has for it, with nothing under way between them. -/
structure Paired (client coordinator : Mac) (index : Slot) : Prop where
  state : client.ctx.state = .registered
  netId : client.ctx.netId = coordinator.ctx.netId
  addr : client.ctx.addr = (coordinator.ctx.nodes index).addr
  coord : client.ctx.coord.state = .registered
  coordAddr : client.ctx.coord.addr = coordinator.ctx.addr
  rxCb : client.ctx.rxCb = true
  slot : (coordinator.ctx.nodes index).state = .registered
  flags : (coordinator.ctx.nodes index).flags = client.ctx.params.flags
  ackTimer : (coordinator.ctx.nodes index).ackTimer.armed = false
  validityTimer : (coordinator.ctx.nodes index).validityTimer.armed = false

/-- The packet was handed to the client's application once since `before`, and is settled at the
coordinator if it asks for an acknowledgement. -/
structure Delivered (before received coordinator settled : Mac) (index : Slot) (type : BitVec 8)
    (payload : List Byte) (cb : SendCb) : Prop where
  delivered : deliveries received.out =
    deliveries before.out ++ [(type &&& flagsTypeMask.setWidth 8, payload)]
  settled : ackRequested type = true → Settled settled index cb (completions index coordinator.out)

theorem receive_append (σ : Mac) (rssi : Frame → Int) (one two : List Frame) :
    σ.receive rssi (one ++ two) = (σ.receive rssi one).receive rssi two := by
  rw [Mac.receive, List.map_append, run_append]
  rfl

/-- The header is of a frame of a network, from one address to another. -/
structure Header.Between (hdr : Header) (netId source dest : BitVec 8) : Prop where
  netId : hdr.netId = netId
  source : hdr.srcAddr = source
  dest : hdr.destAddr = dest

section Exchange

variable {client coordinator : Mac} {netId addr : BitVec 8} {index : Slot}
  (attached : Attached client netId addr) (hub : Hub coordinator)
  (network : coordinator.ctx.netId = netId) (slot : (coordinator.ctx.nodes index).addr = addr)
  {packet : Frame} (down : packet.hdr.Between netId 0#8 addr)
  (data : typeRawData ≤ packet.hdr.type) {cb : SendCb} (rssi : Frame → Int)

include attached hub network slot down data

/-- **The packet and its acknowledgement.** A data frame of the coordinator is delivered once, and
settled if it asks for an acknowledgement. -/
theorem packet_delivered {before : List (SendCb × Int)}
    (sent : packet.hdr.ackRequest = true →
      Waits coordinator index packet.hdr.seq cb before ∨ Settled coordinator index cb before) :
    let received := client.receive rssi [packet]
    deliveries received.out = deliveries client.out ++ [(packet.hdr.type, packet.payload)] ∧
      (packet.hdr.ackRequest = true →
        Settled (coordinator.receive rssi (received.sentSince client)) index cb before) := by
  intro received
  have other : addr ≠ 0#8 := slot ▸ (hub.assigned index).1
  obtain ⟨-, delivered, answered⟩ :=
    recv_data attached down.netId down.dest down.source (rssi packet) other data
  refine ⟨delivered, fun ack => ?_⟩
  have answer : received.sentSince client =
      [⟨client.ctx.ackHeader client.ctx.coord packet.hdr.seq, []⟩] :=
    sentSince_of_frames (answered.trans (congrArg _ (if_pos ack)))
  rw [answer]
  refine ack_settles hub ?_ ?_ ?_ ?_ (rssi _) (sent ack) (ackHeader_type ..) rfl
  · rw [network]
    exact attached.network
  · exact attached.netId.trans network.symm
  · exact attached.coord
  · exact attached.addr.trans slot.symm

/-- **The client calls in.** Its frame has the coordinator release what waits for it; the client
hears the acknowledgement of its own frame, if any, and then the packet. -/
theorem call_delivered (pending : (coordinator.ctx.nodes index).state = .sendPending)
    (held : packet = ⟨(coordinator.ctx.nodes index).pendingHeader,
      (coordinator.ctx.nodes index).pending⟩)
    (called : (coordinator.ctx.nodes index).sendCb = some cb)
    {frame : Frame} (up : frame.hdr.Between netId addr 0#8)
    (kind : frame.hdr.type = PacketType.poll.code ∨ typeRawData ≤ frame.hdr.type ∨
      frame.hdr.type = PacketType.ack.code) :
    let released := coordinator.receive rssi [frame]
    let received := client.receive rssi (released.sentSince coordinator)
    deliveries received.out = deliveries client.out ++ [(packet.hdr.type, packet.payload)] ∧
      (packet.hdr.ackRequest = true →
        Settled (released.receive rssi (received.sentSince client)) index cb
          (completions index coordinator.out)) := by
  intro released received
  have real : coordinator.ctx.netId ≠ networkAny := by
    rw [network]
    exact attached.network
  obtain ⟨sent, waits⟩ := call_releases hub real (up.netId.trans network.symm) up.dest
    (up.source.trans slot.symm) (rssi frame) pending kind
  have hub' : Hub released := hub.step (.frame frame (rssi frame))
  have network' : released.ctx.netId = netId := (congrArg (fun identity => identity.2.2.1)
    (step_identity coordinator hub.coordinator (.frame frame (rssi frame)))).trans network
  have slot' : (released.ctx.nodes index).addr = addr := by
    rw [hub'.registry.addr, ← hub.registry.addr, slot]
  -- the acknowledgement of the client's own frame comes first
  obtain ⟨attached', same, quiet⟩ : Attached (client.receive rssi
        (coordinator.ctx.answer (.slot index) frame.hdr)) netId addr ∧
      deliveries (client.receive rssi (coordinator.ctx.answer (.slot index) frame.hdr)).out =
        deliveries client.out ∧
      frames (client.receive rssi (coordinator.ctx.answer (.slot index) frame.hdr)).out =
        frames client.out := by
    rw [Ctx.answer]
    split
    · exact recv_ack attached network slot hub.coordinator.addr (rssi _)
        (slot ▸ (hub.assigned index).1) (ackHeader_type ..) (ackHeader_ackRequest ..)
    · exact ⟨attached, rfl, rfl⟩
  have shape : received =
      (client.receive rssi (coordinator.ctx.answer (.slot index) frame.hdr)).receive rssi
        [packet] := by
    rw [held, ← receive_append, ← sent]
    rfl
  have since : received.sentSince client = received.sentSince
      (client.receive rssi (coordinator.ctx.answer (.slot index) frame.hdr)) := by
    rw [Mac.sentSince, Mac.sentSince, quiet]
  have waits (ack : packet.hdr.ackRequest = true) :
      Waits released index packet.hdr.seq cb (completions index coordinator.out) ∨
        Settled released index cb (completions index coordinator.out) := by
    rw [held] at ack ⊢
    exact waits cb ack called
  obtain ⟨delivered, settled⟩ :=
    packet_delivered attached' hub' network' slot' down data rssi waits
  rw [since, shape, delivered, same]
  exact ⟨rfl, settled⟩

end Exchange

theorem Paired.attached {client coordinator : Mac} {index : Slot}
    (paired : Paired client coordinator index) (isClient : Client client.ctx)
    (hub : Hub coordinator) :
    Attached client client.ctx.netId client.ctx.addr where
  isClient := isClient
  state := paired.state
  netId := rfl
  addr := rfl
  live := by simp [Node.live, paired.coord]
  coord := paired.coordAddr.trans hub.coordinator.addr
  rxCb := paired.rxCb

/-- A validity is less than half a turn of the clock. -/
theorem seconds_near (validity : BitVec 16) : 2 * (seconds validity.toNat).toNat ≤ 2 ^ 32 := by
  have bound : validity.toNat < 65536 := validity.isLt
  have small : (seconds validity.toNat).toNat ≤ validity.toNat * 1000 / tickMs := by
    rw [seconds, BitVec.toNat_ofNat]
    exact Nat.mod_le _ _
  have tick : tickMs = 250 := rfl
  rw [tick] at small
  omega

section Send

variable {client coordinator : Mac} {index : Slot} (hub : Hub coordinator)
  (paired : Paired client coordinator index) {type : BitVec 8}
  (data : typeRawData ≤ type &&& flagsTypeMask.setWidth 8) {payload : List Byte}
  (fits : coordinator.ctx.fits payload) (validity : BitVec 16) (cb : SendCb) (rssi : Frame → Int)

/-- The frame of a packet for the node of a slot. -/
def Ctx.packetFor (ctx : Ctx) (index : Slot) (type : BitVec 8) (payload : List Byte) : Frame :=
  ⟨ctx.buildHeader (some (.slot index)) type, payload⟩

theorem packetFor_type (ctx : Ctx) (index : Slot) (type : BitVec 8) (payload : List Byte) :
    (ctx.packetFor index type payload).hdr.type = type &&& flagsTypeMask.setWidth 8 :=
  buildHeader_type ..

include paired

theorem Paired.sleepy : (coordinator.ctx.nodes index).sleepy = client.ctx.params.sleepy := by
  rw [Node.sleepy, paired.flags]
  rfl

include hub

theorem Paired.down : (coordinator.ctx.packetFor index type payload).hdr.Between
    client.ctx.netId 0#8 client.ctx.addr :=
  ⟨paired.netId.symm, hub.coordinator.addr, paired.addr.symm⟩

/-- What the coordinator does does not move the client's slot. -/
theorem Paired.step (input : Input) :
    (coordinator.step input).ctx.netId = client.ctx.netId ∧
      ((coordinator.step input).ctx.nodes index).addr = client.ctx.addr := by
  constructor
  · rw [paired.netId]
    exact congrArg (fun identity => identity.2.2.1)
      (step_identity coordinator hub.coordinator input)
  · rw [(hub.step input).registry.addr, ← hub.registry.addr, paired.addr]

include data fits

/-- A client that is awake hears the packet at once. -/
theorem awake_delivered (isClient : Client client.ctx) (awake : client.ctx.params.sleepy = false) :
    let sent := (tinymacSend coordinator client.ctx.addr type payload validity (some cb)).2
    let received := client.receive rssi (sent.sentSince coordinator)
    let settled := sent.receive rssi (received.sentSince client)
    Delivered client received coordinator settled index type payload cb := by
  intro sent received settled
  have hub' : Hub sent := hub.step (.send client.ctx.addr type payload validity (some cb))
  obtain ⟨network, slot⟩ :=
    paired.step hub (.send client.ctx.addr type payload validity (some cb))
  have down : (coordinator.ctx.packetFor index type payload).hdr.Between client.ctx.netId 0#8
      client.ctx.addr := paired.down hub
  have kind := packetFor_type coordinator.ctx index type payload
  obtain ⟨aired, silent, waits⟩ := send_awake hub paired.slot data fits validity (some cb)
    (paired.sleepy.trans awake)
  rw [← paired.addr] at aired silent waits
  have waits (ack : ackRequested type = true) :
      Waits sent index (coordinator.ctx.packetFor index type payload).hdr.seq cb
        (completions index coordinator.out) := by
    obtain ⟨state, header, held⟩ := waits ack
    exact ⟨state, congrArg Header.seq header, held, silent⟩
  obtain ⟨delivered, acknowledged⟩ := packet_delivered (paired.attached isClient hub) hub' network
    slot down (kind.symm ▸ data) rssi fun ack => .inl (waits ack)
  rw [kind] at delivered
  have aired : sent.sentSince coordinator = [coordinator.ctx.packetFor index type payload] := aired
  rw [← aired] at delivered acknowledged
  exact ⟨delivered, acknowledged⟩

/-- A sleepy client hears the packet after its call. -/
theorem sleepy_delivered (sleepy : client.ctx.params.sleepy = true) {between : List Input}
    (early : between.countP Input.isTick ≤
      (seconds ((coordinator.ctx.nodes index).validity validity).toNat).toNat)
    (silent : (tinymacSend coordinator client.ctx.addr type payload validity (some cb)).2.Along
      (fun ctx input => ¬ ctx.HearsSlot index input) between) {called : Mac}
    (attached : Attached called client.ctx.netId client.ctx.addr) {frame : Frame}
    (up : frame.hdr.Between client.ctx.netId client.ctx.addr coordinator.ctx.addr)
    (kind : frame.hdr.type = PacketType.poll.code ∨ typeRawData ≤ frame.hdr.type ∨
      frame.hdr.type = PacketType.ack.code) :
    let sent := (tinymacSend coordinator client.ctx.addr type payload validity (some cb)).2
    let waited := sent.run between
    let released := waited.receive rssi [frame]
    let received := called.receive rssi (released.sentSince waited)
    let settled := released.receive rssi (received.sentSince called)
    Delivered called received coordinator settled index type payload cb := by
  intro sent waited released received settled
  have hub' : Hub sent := hub.step (.send client.ctx.addr type payload validity (some cb))
  obtain ⟨network, slot⟩ :=
    paired.step hub (.send client.ctx.addr type payload validity (some cb))
  obtain ⟨kept, clock, uncalled⟩ := send_sleepy hub paired.slot data fits validity (some cb)
    (paired.sleepy.trans sleepy)
  rw [← paired.addr] at kept clock uncalled
  replace kept : sent.ctx.nodes index = _ := kept
  replace clock : sent.ctx.tickCount = coordinator.ctx.tickCount := clock
  have expiry : ahead sent.ctx.tickCount (sent.ctx.nodes index).validityTimer.expiry =
      (seconds ((coordinator.ctx.nodes index).validity validity).toNat).toNat := by
    rw [kept, clock]
    exact ahead_add _ _
  have keeping : (sent.ctx.nodes index).Keeping := by
    rw [kept]
    exact ⟨rfl, paired.ackTimer, rfl⟩
  obtain ⟨hub', same, sameNet, quiet⟩ := run_keeps between hub' keeping (expiry ▸ seconds_near _)
    (expiry ▸ early) silent
  have kept := same.trans kept
  have held : (waited.ctx.nodes index).sendCb = some cb := by
    rw [kept]
    rfl
  have down : (coordinator.ctx.packetFor index type payload).hdr.Between client.ctx.netId 0#8
      client.ctx.addr := paired.down hub
  have kind' := packetFor_type coordinator.ctx index type payload
  obtain ⟨delivered, acknowledged⟩ := call_delivered attached hub' (sameNet.trans network)
    (by rw [same]; exact slot) down (kind'.symm ▸ data) rssi (by rw [kept]; rfl)
    (by rw [kept]; rfl) held (hub.coordinator.addr ▸ up) kind
  rw [kind'] at delivered
  rw [quiet.trans uncalled] at acknowledged
  exact ⟨delivered, acknowledged⟩

end Send

/-- **Delivery without losses.** A packet for a client that is awake reaches it at once. A packet
for a sleepy client reaches it after its next frame to the coordinator. Until then the client may do
anything that leaves it attached, and the coordinator anything but hear the client's slot: tick
within the validity of the packet, serve other nodes, take further packets. An acknowledgement
counts as such a frame too, if what it acknowledges left the client registered. -/
theorem send_delivers (clientBoot coordinatorBoot : Boot)
    (isClient : clientBoot.params.coordinator = false)
    (isCoordinator : coordinatorBoot.params.coordinator = true)
    (clientInputs coordinatorInputs : List Input) (client coordinator : Mac)
    (clientRuns : client = clientBoot.start.run clientInputs)
    (coordinatorRuns : coordinator = coordinatorBoot.start.run coordinatorInputs)
    (index : Slot) (paired : Paired client coordinator index) (type : BitVec 8)
    (data : typeRawData ≤ type &&& flagsTypeMask.setWidth 8) (payload : List Byte)
    (fits : coordinator.ctx.fits payload) (validity : BitVec 16) (cb : SendCb)
    (rssi : Frame → Int) :
    let sent := (tinymacSend coordinator client.ctx.addr type payload validity (some cb)).2
    (client.ctx.params.sleepy = false →
      let received := client.receive rssi (sent.sentSince coordinator)
      let settled := sent.receive rssi (received.sentSince client)
      Delivered client received coordinator settled index type payload cb) ∧
    (client.ctx.params.sleepy = true →
      ∀ (asleep between : List Input) (input : Input) (frame : Frame),
      let rested := client.run asleep
      Attached rested client.ctx.netId client.ctx.addr →
      sent.Along (fun ctx input => ¬ ctx.HearsSlot index input) between →
      between.countP Input.isTick ≤
        (seconds ((coordinator.ctx.nodes index).validity validity).toNat).toNat →
      let waited := sent.run between
      let called := rested.step input
      called.sentSince rested = [frame] →
      frame.hdr.Between client.ctx.netId client.ctx.addr coordinator.ctx.addr →
      (frame.hdr.type = PacketType.ack.code →
        Attached called client.ctx.netId client.ctx.addr) →
      let released := waited.receive rssi [frame]
      let received := called.receive rssi (released.sentSince waited)
      let settled := released.receive rssi (received.sentSince called)
      Delivered called received coordinator settled index type payload cb ∧
        (frame.hdr.type ≠ PacketType.ack.code →
          deliveries called.out = deliveries rested.out)) := by
  have isClient : Client client.ctx :=
    clientRuns ▸ reachable_client clientBoot isClient clientInputs
  have hub : Hub coordinator :=
    coordinatorRuns ▸ reachable_hub coordinatorBoot isCoordinator coordinatorInputs
  refine ⟨awake_delivered hub paired data fits validity cb rssi isClient, ?_⟩
  intro sleepy asleep between input frame rested attached silent early waited called sent up still
  by_cases ack : frame.hdr.type = PacketType.ack.code
  · exact ⟨sleepy_delivered hub paired data fits validity cb rssi sleepy early silent (still ack)
      up (.inr (.inr ack)), fun own => absurd ack own⟩
  · obtain ⟨calling, quiet, kind⟩ := calls_in attached sent ack
    exact ⟨sleepy_delivered hub paired data fits validity cb rssi sleepy early silent calling
      up (kind.imp_right .inl), fun _ => quiet⟩

/-- A sleepy client registers and three bytes are sent to it. It sleeps for six ticks, in which the
coordinator registers another node, and calls in with data of its own. -/
theorem send_delivers_sleepy :
    let client := (Boot.clientWith 7#64 attachFlagsSleepy).start.run [.registerRecvCb true,
      .frame (beaconFrame 5#8 1#8 beaconFlagsPermitAttach 0xC0#64) 0,
      .frame (registrationResponseFrame 5#8 1#8 ⟨7#64, 1#8, RegistrationStatus.success.code⟩) 0]
    let coordinator := (Boot.coordinatorOn 5#8).start.run [.permitAttach true,
      .frame (registrationRequestFrame 5#8 1#8 ⟨7#64, attachFlagsSleepy⟩) 0]
    let sent := tinymacSend coordinator 1#8 0x50#8 [1, 2, 3] 2#16 (some 9)
    let rested := client.run (List.replicate 6 .tick)
    let waited := sent.2.run (.frame (registrationRequestFrame 5#8 1#8 ⟨8#64, 0#16⟩) 0 ::
      List.replicate 6 .tick)
    let called := rested.step (.send 0#8 0x51#8 [4] 0#16 none)
    let released := waited.receive (fun _ => 0) (called.sentSince rested)
    let received := called.receive (fun _ => 0) (released.sentSince waited)
    let settled := released.receive (fun _ => 0) (received.sentSince called)
    sent.1 = 0 ∧ (waited.ctx.nodes 1).uuid = 8#64 ∧
      Delivered called received coordinator settled 0 0x50#8 [1, 2, 3] 9 := by
  intro client coordinator sent rested waited called released received settled
  have paired : Paired client coordinator 0 := by constructor <;> decide +kernel
  have isClient : Client rested.ctx := by
    rw [show rested = _ from (run_append ..).symm]
    exact reachable_client (Boot.clientWith 7#64 attachFlagsSleepy) rfl _
  have attached : Attached rested client.ctx.netId client.ctx.addr :=
    ⟨isClient, by decide +kernel, by decide +kernel, by decide +kernel, by decide +kernel,
      by decide +kernel, by decide +kernel⟩
  have other : ¬ sent.2.ctx.HearsSlot 0
      (.frame (registrationRequestFrame 5#8 1#8 ⟨8#64, 0#16⟩) 0) := by
    rintro (⟨-, given⟩ | ⟨buf, size, rssi, same, -, source, -⟩)
    · exact absurd given (by decide +kernel)
    · injection same with same
      subst same
      exact absurd source (by decide +kernel)
  have silent : sent.2.Along (fun ctx input => ¬ ctx.HearsSlot 0 input)
      (.frame (registrationRequestFrame 5#8 1#8 ⟨8#64, 0#16⟩) 0 :: List.replicate 6 .tick) :=
    ⟨other, ticks_unheard _ 0 6⟩
  have call : called.sentSince rested = [⟨⟨headerFlags 0x51#8, 5#8, 0#8, 1#8, 2#8⟩, [4]⟩] := by
    decide +kernel
  refine ⟨by decide +kernel, by decide +kernel, ?_⟩
  have delivered := (send_delivers (Boot.clientWith 7#64 attachFlagsSleepy) (Boot.coordinatorOn 5#8)
    rfl rfl _ _ client coordinator rfl rfl 0 paired 0x50#8 (by decide) [1, 2, 3]
    (by decide +kernel) 2#16 9 fun _ => 0).2 (by decide +kernel) (List.replicate 6 .tick)
    (.frame (registrationRequestFrame 5#8 1#8 ⟨8#64, 0#16⟩) 0 :: List.replicate 6 .tick)
    (.send 0#8 0x51#8 [4] 0#16 none) _ attached silent (by decide +kernel) call
    (by constructor <;> decide +kernel) (fun ack => absurd ack (by decide))
  rw [← call] at delivered
  exact delivered.1

end TinyHan.Tinymac
