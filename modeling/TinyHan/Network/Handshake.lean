/-
**The registration handshake without losses.**

An Unregistered client ticks once, and the four frames of a registration reach the other party:
BeaconRequest, Beacon, RegistrationRequest, RegistrationResponse. Each step of either party is
followed by the one frame it answers with (`tick_asks`, `recv_offers`, `recv_joins`, `recv_grants`,
`recv_accepts`).

The handshake registers the client exactly when the network identifier that `tinymac_init` draws
from `rand()` is not the wildcard (`handshake_joins_iff`): a client drops every frame of network
0xFF, the beacons of such a coordinator among them.
-/

import TinyHan.Client.Ops
import TinyHan.Coordinator.Admission

namespace TinyHan.Tinymac

open TinyHan.Lib

/-- The handshake of a client with a coordinator: the client ticks once, and the frames of each of
the four types that a party sends are handed to the other. -/
def handshake (rssi : Frame → Int) (client coordinator : Mac) : Mac × Mac :=
  let asking := client.step .tick
  let offering := coordinator.receive rssi (asking.airedSince client .beaconRequest)
  let joining := asking.receive rssi (offering.airedSince coordinator .beacon)
  let granting := offering.receive rssi (joining.airedSince asking .registrationRequest)
  let joined := joining.receive rssi (granting.airedSince offering .registrationResponse)
  (joined, granting)

/-- The client is registered with the coordinator, in a slot with its own UUID and flags. -/
structure Joined (client coordinator : Mac) : Prop where
  state : client.ctx.state = .registered
  netId : client.ctx.netId = coordinator.ctx.netId
  slot : ∃ index, (coordinator.ctx.nodes index).addr = client.ctx.addr ∧
    (coordinator.ctx.nodes index).live = true ∧
    (coordinator.ctx.nodes index).uuid = client.ctx.params.uuid ∧
    (coordinator.ctx.nodes index).flags = client.ctx.params.flags

theorem receive_one (σ : Mac) (rssi : Frame → Int) (frame : Frame) :
    σ.receive rssi [frame] = tinymacRecvCb σ frame.memory frame.bytes.length (rssi frame) := by
  rw [Mac.receive, List.map_singleton, run_cons]
  rfl

@[simp] theorem receive_nil (σ : Mac) (rssi : Frame → Int) : σ.receive rssi [] = σ := rfl

/-- The permit flag of a written beacon. -/
theorem permits_frame (hdr : Header) (beacon : Beacon) :
    permits (Frame.memory ⟨hdr, beacon.bytes⟩) =
      (beacon.flags &&& beaconFlagsPermitAttach != 0#8) := by
  have flags := congrArg Beacon.flags (readBeacon_frame hdr beacon)
  exact congrArg (fun flags => flags &&& beaconFlagsPermitAttach != 0#8) flags

/-! ### The client -/

/-- What is sent is data of the application. -/
def Event.dataOnly : Event → Prop
  | .phySend _ frame _ => typeRawData ≤ frame.hdr.type
  | _ => True

theorem Event.dataOnly_of_standby (event : Event) (standby : event.standby) : event.dataOnly := by
  cases event <;> first | exact standby.elim | trivial

section Client

variable {σ : Mac} (client : Client σ.ctx)

include client

/-- **The client asks.** An Unregistered client sends one beacon request in its tick, and looks for
a network behind it. A retransmission of older data may follow in the same tick. -/
theorem tick_asks (unregistered : σ.ctx.state = .unregistered) :
    (σ.step .tick).ctx.link.seeking ∧
      (σ.step .tick).airedSince σ .beaconRequest = [beaconRequestFrame (σ.ctx.dseq + 1#8)] := by
  constructor
  · rw [step_link σ client.role]
    simp only [Ctx.signal, Link.step, Link.tick, Link.expire, Ctx.link_state, unregistered, if_true,
      Link.seeking]
    split_ifs <;> simp [Link.request]
  · let asking := σ.update fun ctx => ctx.setState .beaconRequest
    have fits : asking.ctx.fits [] := client.fits (by decide)
    have header : asking.ctx.buildHeader none PacketType.beaconRequest.code =
        (beaconRequestFrame (σ.ctx.dseq + 1#8)).hdr := by
      have netId := client.seeking_iff.mp (.inl unregistered)
      have addr := client.unaddressed (by simp [unregistered])
      simp [asking, Ctx.buildHeader, beaconRequestFrame, netId, addr]
    have asked : frames σ.solicit.out =
        frames σ.out ++ [beaconRequestFrame (σ.ctx.dseq + 1#8)] := by
      rw [Mac.solicit, if_pos unregistered, update_out, txPacket_broadcast_frames _ _ _ _ _ fits,
        header]
      rfl
    have record := (solicit_coord σ).1
    -- behind the request only data of the application is sent
    have resent : Emits Event.dataOnly σ.solicit (σ.step .tick) := by
      rw [Mac.step, tick_client σ client.role]
      refine Emits.trans ?_ (.of_out_eq (update_out ..))
      refine Emits.trans (Emits.trans ?_
        (despatchValidity_emits _ .coord coord_kept fun _ _ => trivial))
        (despatchRequest_emits _ trivial)
      refine despatchAck_emits _ .coord coord_kept Event.dataOnly_of_standby (fun armed => ?_)
        (fun _ => trivial) trivial
      rw [node_coord, record] at armed
      rw [node_coord, record]
      exact client.coord.pending armed
    have none : aired .beaconRequest (σ.step .tick).out = aired .beaconRequest σ.solicit.out :=
      resent.aired_eq fun packet frame flags data control =>
        rawData_not_control .beaconRequest (control ▸ data)
    rw [Mac.airedSince, none]
    exact airedSince_one asked (headerFlags_control .beaconRequest)

omit client in
/-- What the client says to the sender of a beacon. -/
theorem join_frames (fits : σ.ctx.fits (RegistrationRequest.bytes
    ⟨σ.ctx.params.uuid, σ.ctx.params.flags⟩)) (hdr : Header) (uuid : BitVec 64) :
    frames (σ.join hdr uuid).out = frames σ.out ++
      [⟨⟨headerFlags PacketType.registrationRequest.code, hdr.netId, hdr.srcAddr, σ.ctx.addr,
        σ.ctx.dseq + 1#8⟩, RegistrationRequest.bytes ⟨σ.ctx.params.uuid, σ.ctx.params.flags⟩⟩] := by
  rw [Mac.join, update_out, txPacket_unicast_frames (σ.update fun ctx => ctx.bind hdr uuid) .coord
    _ _ _ _ fits rfl (by simp [Node.sleepy, Ctx.bind])]
  rfl

theorem Client.accepts_broadcast (seeking : σ.ctx.link.seeking) {hdr : Header}
    (network : hdr.netId ≠ networkAny) (sender : hdr.srcAddr ≠ addrUnassigned)
    (broadcast : hdr.destAddr = addrBroadcast) {size : Nat} (long : headerSize ≤ size) :
    σ.ctx.accepts hdr size = true := by
  have netId := client.seeking_iff.mp seeking
  have addr : σ.ctx.addr = addrUnassigned := client.unaddressed (by
    rcases seeking with state | state <;> simp_all)
  simp [Ctx.accepts, Ctx.addressed, Ctx.admitted, network, sender, broadcast, netId, addr, long]

/-- **The client joins.** A client that looks for a network answers a beacon that permits
attachment with a registration request to its sender. -/
theorem recv_joins (seeking : σ.ctx.link.seeking) {buf : Memory} {size : Nat}
    (type : (readHeader buf).type = PacketType.beacon.code)
    (long : headerSize + beaconSize ≤ size) (network : (readHeader buf).netId ≠ networkAny)
    (sender : (readHeader buf).srcAddr ≠ addrUnassigned)
    (broadcast : (readHeader buf).destAddr = addrBroadcast) (permit : permits buf = true)
    (rssi : Int) :
    (tinymacRecvCb σ buf size rssi).ctx.link = σ.ctx.link.join (readHeader buf).netId ∧
      (tinymacRecvCb σ buf size rssi).airedSince σ .registrationRequest =
        [⟨⟨headerFlags PacketType.registrationRequest.code, (readHeader buf).netId,
          (readHeader buf).srcAddr, addrUnassigned, σ.ctx.dseq + 1#8⟩,
          RegistrationRequest.bytes ⟨σ.ctx.params.uuid, σ.ctx.params.flags⟩⟩] := by
  have unaddressed : σ.ctx.addr = addrUnassigned := client.unaddressed (by
    rcases seeking with state | state <;> simp_all)
  have accepted : σ.ctx.accepts (readHeader buf) size = true :=
    client.accepts_broadcast seeking network sender broadcast (by omega)
  constructor
  · have attended : σ.ctx.attends (readHeader buf) size = true := by
      simp [Ctx.attends, accepted, unaddressed]
    have signal : frameSignal buf size = .beacon (readHeader buf) true := by
      simp [frameSignal, type, permit, Nat.not_lt.mpr long]
    rw [recv_link σ client.role, Ctx.signal, if_pos attended, signal, Link.step, Link.onBeacon]
    rcases seeking with state | state <;> simp only [state, if_true]
  · have fits : σ.ctx.fits (RegistrationRequest.bytes ⟨σ.ctx.params.uuid, σ.ctx.params.flags⟩) :=
      client.fits (by rw [RegistrationRequest.bytes_length]; decide)
    have standby : (tinymacRecvStandby σ (readHeader buf)).ctx = σ.ctx :=
      recvStandby_ctx σ (readHeader buf)
    refine airedSince_one ?_ (headerFlags_control .registrationRequest)
    rw [recv_unaddressed unaddressed accepted, recvType_control _ _ _ _ _ .beacon type,
      tinymacRecvControl, if_neg (Nat.not_lt.mpr long),
      rxBeacon_eq _ (by rw [standby]; exact client.role), ← recvStandby_frames σ (readHeader buf)]
    simp only [permit, if_true]
    rcases seeking with state | state
    · have state : (tinymacRecvStandby σ (readHeader buf)).ctx.state = .unregistered := by
        rw [standby]
        exact state
      simp only [state]
      rw [join_frames (by rwa [standby]), standby, unaddressed]
    · have state : (tinymacRecvStandby σ (readHeader buf)).ctx.state = .beaconRequest := by
        rw [standby]
        exact state
      simp only [state]
      rw [join_frames (by rw [update_ctx, standby]; exact fits), update_ctx, standby, update_out]
      simp [unaddressed]

/-- **The client accepts.** A client that waits for its registration takes the address a response
grants to its UUID. -/
theorem recv_accepts (registering : σ.ctx.state = .registering) {buf : Memory} {size : Nat}
    (type : (readHeader buf).type = PacketType.registrationResponse.code)
    (long : headerSize + registrationResponseSize ≤ size)
    (network : (readHeader buf).netId = σ.ctx.netId)
    (sender : (readHeader buf).srcAddr ≠ addrUnassigned)
    (broadcast : (readHeader buf).destAddr = addrBroadcast)
    (own : (readRegistrationResponse buf).uuid = σ.ctx.params.uuid)
    (assigned : (readRegistrationResponse buf).addr ≠ addrUnassigned)
    (success : (readRegistrationResponse buf).status = RegistrationStatus.success.code)
    (rssi : Int) :
    (tinymacRecvCb σ buf size rssi).ctx.link =
      σ.ctx.link.cancel.attach σ.ctx.netId (readRegistrationResponse buf).addr := by
  have unaddressed : σ.ctx.addr = addrUnassigned := client.unaddressed (by simp [registering])
  have bound : σ.ctx.netId ≠ networkAny := fun any => by
    have seeking := client.seeking_iff.mpr any
    simp [Link.seeking, registering] at seeking
  have attended : σ.ctx.attends (readHeader buf) size = true := by
    have header : headerSize ≤ size := by omega
    simp [Ctx.attends, Ctx.accepts, Ctx.addressed, Ctx.admitted, unaddressed, sender, broadcast,
      network, bound, header]
  have signal : frameSignal buf size =
      .response (readHeader buf) (readRegistrationResponse buf) := by
    simp [frameSignal, type, Nat.not_lt.mpr long]
  rw [recv_link σ client.role, Ctx.signal, if_pos attended, signal, Link.step, Link.onResponse]
  simp [own, registering, assigned, success, network]

end Client

/-! ### The coordinator -/

section Coordinator

variable {σ : Mac} (coordinator : Coordinator σ.ctx) (permit : σ.ctx.permitAttach = true)

include coordinator permit

/-- A frame without a source address that a coordinator takes while it permits attachment. -/
theorem handles_unassigned {hdr : Header} (sender : hdr.srcAddr = addrUnassigned)
    (addressed : σ.ctx.addressed hdr = true) {size : Nat} (long : headerSize ≤ size) :
    σ.ctx.handles hdr size = true := by
  have other : hdr.srcAddr ≠ σ.ctx.addr := by
    rw [sender]
    exact coordinator.addr_ne.symm
  simp [Ctx.handles, Ctx.accepts, Ctx.admitted, sender, addressed, long, coordinator.role, permit,
    sender ▸ other]

/-- **The coordinator offers.** It answers a beacon request with one beacon. -/
theorem recv_offers {frame : Frame} {seq : BitVec 8} (is : frame = beaconRequestFrame seq)
    (rssi : Int) :
    (tinymacRecvCb σ frame.memory frame.bytes.length rssi).ctx = σ.ctx.nextBeacon ∧
      (tinymacRecvCb σ frame.memory frame.bytes.length rssi).airedSince σ .beacon =
        [⟨σ.ctx.beaconHeader, (σ.ctx.beacon false).bytes⟩] := by
  have handles : σ.ctx.handles (readHeader frame.memory) frame.bytes.length = true := by
    rw [readHeader_frame]
    refine handles_unassigned coordinator permit (by rw [is]; rfl) ?_ (by simp)
    simp [Ctx.addressed, is, beaconRequestFrame]
  have type : frame.hdr.type = PacketType.beaconRequest.code := by
    rw [is]
    exact headerFlags_control .beaconRequest
  have shape : tinymacRecvCb σ frame.memory frame.bytes.length rssi =
      tinymacTxBeacon (tinymacRecvStandby σ frame.hdr) false := by
    rw [recv_handled σ coordinator _ _ rssi handles, readHeader_frame,
      recvType_control _ _ _ _ _ .beaconRequest type, Mac.hear]
    exact congrArg (tinymacTxBeacon · false) (if_pos (by rw [is]; rfl))
  have standby := recvStandby_ctx σ frame.hdr
  constructor
  · rw [shape, txBeacon_ctx _ _ (by rw [standby]; exact coordinator.role), standby]
  · refine airedSince_one ?_ (beaconHeader_type σ.ctx)
    rw [shape, txBeacon_frames _ false (by rw [standby]; exact coordinator.role),
      recvStandby_frames, standby]

/-- **The coordinator grants.** It answers a registration request that finds a slot with the
address of the slot, which it registers. -/
theorem recv_grants {frame : Frame} {seq : BitVec 8} {attach : RegistrationRequest}
    (is : frame = registrationRequestFrame σ.ctx.netId seq attach) {index : Slot}
    (given : σ.ctx.registrationSlot attach.uuid = some index) (rssi : Int) :
    (tinymacRecvCb σ frame.memory frame.bytes.length rssi).ctx.nodes index =
        (σ.ctx.nodes index).register attach σ.ctx.tickCount ∧
      (tinymacRecvCb σ frame.memory frame.bytes.length rssi).ctx.netId = σ.ctx.netId ∧
      (tinymacRecvCb σ frame.memory frame.bytes.length rssi).airedSince σ .registrationResponse =
        [⟨σ.ctx.buildHeader none PacketType.registrationResponse.code,
          RegistrationResponse.bytes ⟨attach.uuid, (σ.ctx.nodes index).addr,
            RegistrationStatus.success.code⟩⟩] := by
  have reaches : σ.ctx.reachesRegistration frame.memory frame.bytes.length = true := by
    have handles : σ.ctx.handles (readHeader frame.memory) frame.bytes.length = true := by
      rw [readHeader_frame]
      refine handles_unassigned coordinator permit (by rw [is]; rfl) ?_ (by simp)
      simp [Ctx.addressed, is, registrationRequestFrame, coordinator.addr]
    have type : frame.hdr.type = PacketType.registrationRequest.code := by
      rw [is]
      exact headerFlags_control .registrationRequest
    have long : headerSize + registrationRequestSize ≤ frame.bytes.length := by
      simp [is, registrationRequestFrame]
    rw [Ctx.reachesRegistration, handles, readHeader_frame, type, decide_eq_true long]
    simp
  have read : readRegistrationRequest frame.memory = attach := by
    rw [is]
    exact readRegistrationRequest_frame _ attach
  have standby : (tinymacRecvStandby σ frame.hdr).ctx = σ.ctx := recvStandby_ctx σ frame.hdr
  have heard : σ.hear (readHeader frame.memory) rssi = tinymacRecvStandby σ frame.hdr := by
    rw [readHeader_frame, Mac.hear]
    exact if_pos (by rw [is]; rfl)
  have coordinator' : Coordinator (tinymacRecvStandby σ frame.hdr).ctx := by rwa [standby]
  have shape : tinymacRecvCb σ frame.memory frame.bytes.length rssi =
      tinymacRxRegistrationRequest (tinymacRecvStandby σ frame.hdr) frame.memory := by
    rw [recv_registration coordinator rssi reaches, heard]
  refine ⟨?_, ?_, airedSince_one ?_ (headerFlags_control .registrationResponse)⟩
  · rw [shape, rxRegistrationRequest_slot coordinator', read, standby, if_pos given]
  · have same := step_identity σ coordinator (.recv frame.memory frame.bytes.length rssi)
    exact congrArg (fun identity => identity.2.2.1) same
  · rw [shape, rxRegistrationRequest_frames coordinator', read, recvStandby_frames, standby,
      Ctx.registrationResponse, given]

end Coordinator

/-! ### The handshake -/

section Answers

variable {client coordinator : Mac} (isClient : Client client.ctx)
  (isCoordinator : Coordinator coordinator.ctx)

include isClient isCoordinator

/-- The beacon of a coordinator, to a client that looks for a network. -/
theorem offer_joins (seeking : client.ctx.link.seeking)
    (permit : coordinator.ctx.permitAttach = true) (network : coordinator.ctx.netId ≠ networkAny)
    {frame : Frame}
    (is : frame = ⟨coordinator.ctx.beaconHeader, (coordinator.ctx.beacon false).bytes⟩)
    (rssi : Int) :
    (tinymacRecvCb client frame.memory frame.bytes.length rssi).ctx.link =
        client.ctx.link.join coordinator.ctx.netId ∧
      (tinymacRecvCb client frame.memory frame.bytes.length rssi).airedSince client
          .registrationRequest =
        [registrationRequestFrame coordinator.ctx.netId (client.ctx.dseq + 1#8)
          ⟨client.ctx.params.uuid, client.ctx.params.flags⟩] := by
  have header : readHeader frame.memory = coordinator.ctx.beaconHeader := by
    rw [is]
    exact readHeader_frame _
  have permitted : permits frame.memory = true := by
    rw [is, permits_frame]
    simp [Ctx.beacon, permit, beaconFlagsPermitAttach]
  have long : headerSize + beaconSize ≤ frame.bytes.length := by
    rw [is]
    simp
  have joins := recv_joins isClient seeking (by rw [header, beaconHeader_type]) long
    (by rw [header]; exact network) (by rw [header]; exact isCoordinator.addr_ne)
    (by rw [header]; rfl) permitted rssi
  rw [header] at joins
  simpa [Ctx.beaconHeader, isCoordinator.addr, registrationRequestFrame] using joins

/-- The registration response of a coordinator, to the client that waits for it. -/
theorem grant_accepted (registering : client.ctx.state = .registering)
    (network : coordinator.ctx.netId = client.ctx.netId) {addr : BitVec 8}
    (assigned : addr ≠ addrUnassigned) {frame : Frame}
    (is : frame = ⟨coordinator.ctx.buildHeader none PacketType.registrationResponse.code,
      RegistrationResponse.bytes ⟨client.ctx.params.uuid, addr, RegistrationStatus.success.code⟩⟩)
    (rssi : Int) :
    (tinymacRecvCb client frame.memory frame.bytes.length rssi).ctx.link =
      client.ctx.link.cancel.attach client.ctx.netId addr := by
  have header : readHeader frame.memory =
      coordinator.ctx.buildHeader none PacketType.registrationResponse.code := by
    rw [is]
    exact readHeader_frame _
  have read : readRegistrationResponse frame.memory =
      ⟨client.ctx.params.uuid, addr, RegistrationStatus.success.code⟩ := by
    rw [is]
    exact readRegistrationResponse_frame _ _
  have long : headerSize + registrationResponseSize ≤ frame.bytes.length := by
    rw [is]
    simp
  have accepts := recv_accepts isClient registering (by rw [header, buildHeader_control]) long
    (by rw [header]; exact network) (by rw [header]; exact isCoordinator.addr_ne)
    (by rw [header]; rfl) (by rw [read]) (by rw [read]; exact assigned) (by rw [read]) rssi
  rwa [read] at accepts

end Answers

section Handshake

variable {client coordinator : Mac} (isClient : Client client.ctx)
  (isCoordinator : Coordinator coordinator.ctx) (permit : coordinator.ctx.permitAttach = true)
  (unregistered : client.ctx.state = .unregistered) (rssi : Frame → Int)

include isClient isCoordinator permit unregistered

/-- Every frame of the handshake is answered when the coordinator has a network identifier that
clients listen to and a slot for the client. -/
theorem handshake_joins (registry : Registry coordinator.ctx.nodes)
    {index : Slot} (given : coordinator.ctx.registrationSlot client.ctx.params.uuid = some index)
    (network : coordinator.ctx.netId ≠ networkAny) :
    Joined (handshake rssi client coordinator).1 (handshake rssi client coordinator).2 := by
  have params := step_params client isClient.role .tick
  have isAsking := isClient.step .tick
  obtain ⟨seeking, sent⟩ := tick_asks isClient unregistered
  simp only [handshake, sent, receive_one]
  generalize client.step .tick = asking at *
  generalize request : beaconRequestFrame (client.ctx.dseq + 1#8) = frame
  -- the coordinator offers
  obtain ⟨offered, sent⟩ := recv_offers isCoordinator permit request.symm (rssi frame)
  simp only [sent, receive_one]
  generalize tinymacRecvCb coordinator frame.memory frame.bytes.length (rssi frame) = offering at *
  have isOffering : Coordinator offering.ctx := by
    rw [offered]
    exact isCoordinator.of_identity rfl
  generalize beacon : (⟨coordinator.ctx.beaconHeader, (coordinator.ctx.beacon false).bytes⟩ : Frame)
    = frame
  -- the client joins
  have isJoining : Client (tinymacRecvCb asking frame.memory frame.bytes.length (rssi frame)).ctx :=
    isAsking.step (.frame frame (rssi frame))
  obtain ⟨bound, sent⟩ := offer_joins isAsking isCoordinator seeking permit network beacon.symm
    (rssi frame)
  simp only [sent, receive_one, params]
  generalize tinymacRecvCb asking frame.memory frame.bytes.length (rssi frame) = joining at *
  generalize request : registrationRequestFrame coordinator.ctx.netId (asking.ctx.dseq + 1#8)
    ⟨client.ctx.params.uuid, client.ctx.params.flags⟩ = frame
  -- the coordinator grants
  have given : offering.ctx.registrationSlot client.ctx.params.uuid = some index := by
    rw [offered]
    exact given
  have arrived : frame = registrationRequestFrame offering.ctx.netId (asking.ctx.dseq + 1#8)
      ⟨client.ctx.params.uuid, client.ctx.params.flags⟩ := by
    rw [offered, ← request]
    rfl
  obtain ⟨registered, netId, sent⟩ := recv_grants isOffering (by rw [offered]; exact permit)
    arrived given (rssi frame)
  simp only [sent, receive_one]
  generalize tinymacRecvCb offering frame.memory frame.bytes.length (rssi frame) = granting at *
  -- the client accepts
  have joinedNetId : joining.ctx.netId = coordinator.ctx.netId := congrArg Link.netId bound
  have joinedParams : joining.ctx.params = client.ctx.params :=
    (congrArg Link.params bound).trans params
  have assigned : (offering.ctx.nodes index).addr ≠ addrUnassigned := by
    rw [offered]
    exact (registry.addr index).trans_ne (slotAddr_ne index).2
  simp only [← joinedParams]
  generalize response : (⟨offering.ctx.buildHeader none PacketType.registrationResponse.code,
    RegistrationResponse.bytes ⟨joining.ctx.params.uuid, (offering.ctx.nodes index).addr,
      RegistrationStatus.success.code⟩⟩ : Frame) = frame
  have taken := grant_accepted isJoining isOffering (congrArg Link.state bound)
    (by rw [joinedNetId, offered]; rfl) assigned response.symm (rssi frame)
  have same : (tinymacRecvCb joining frame.memory frame.bytes.length (rssi frame)).ctx.params =
      client.ctx.params := (congrArg Link.params taken).trans joinedParams
  refine ⟨congrArg Link.state taken, ?_, index, ?_⟩
  · rw [netId, offered]
    exact (congrArg Link.netId taken).trans joinedNetId
  · rw [registered, same]
    exact ⟨(congrArg Link.addr taken).symm, rfl, rfl, rfl⟩

/-- The beacon of a coordinator on the wildcard network is dropped, and the handshake ends
there. -/
theorem handshake_ignored (wildcard : coordinator.ctx.netId = networkAny) :
    (handshake rssi client coordinator).1.ctx.state ≠ .registered := by
  obtain ⟨seeking, sent⟩ := tick_asks isClient unregistered
  simp only [handshake, sent, receive_one]
  have isAsking := isClient.step .tick
  generalize client.step .tick = asking at *
  generalize request : beaconRequestFrame (client.ctx.dseq + 1#8) = frame
  obtain ⟨offered, sent⟩ := recv_offers isCoordinator permit request.symm (rssi frame)
  simp only [sent, receive_one]
  generalize tinymacRecvCb coordinator frame.memory frame.bytes.length (rssi frame) = offering at *
  generalize beacon : (⟨coordinator.ctx.beaconHeader, (coordinator.ctx.beacon false).bytes⟩ : Frame)
    = frame
  have refused : asking.ctx.accepts (readHeader frame.memory) frame.bytes.length = false := by
    rw [← beacon, readHeader_frame]
    simp [Ctx.accepts, Ctx.admitted, Ctx.beaconHeader, wildcard, isAsking.role]
  have dropped : tinymacRecvCb asking frame.memory frame.bytes.length (rssi frame) = asking := by
    unfold tinymacRecvCb
    dsimp only
    rw [if_neg (Bool.eq_false_iff.mp refused)]
  have silent (σ : Mac) (type : PacketType) : σ.airedSince σ type = [] := by
    rw [Mac.airedSince, List.drop_length]
  simp only [dropped, silent, receive_nil]
  rcases seeking with state | state <;> simp_all

end Handshake

/-- **The handshake registers the client, exactly when the coordinator's network identifier is not
the wildcard.** For every client and coordinator in reachable states, with the client Unregistered,
attachment permitted, and the client's UUID known to the coordinator or a slot Unregistered. -/
theorem handshake_joins_iff (clientBoot coordinatorBoot : Boot)
    (clientRole : clientBoot.params.coordinator = false)
    (coordinatorRole : coordinatorBoot.params.coordinator = true)
    (clientInputs coordinatorInputs : List Input)
    (unregistered : (clientBoot.start.run clientInputs).ctx.state = .unregistered)
    (permit : (coordinatorBoot.start.run coordinatorInputs).ctx.permitAttach = true)
    (room : (∃ index, ((coordinatorBoot.start.run coordinatorInputs).ctx.nodes index).uuid =
        clientBoot.params.uuid) ∨
      ∃ index, ((coordinatorBoot.start.run coordinatorInputs).ctx.nodes index).state =
        .unregistered)
    (rssi : Frame → Int) :
    let ends := handshake rssi (clientBoot.start.run clientInputs)
      (coordinatorBoot.start.run coordinatorInputs)
    Joined ends.1 ends.2 ↔ (coordinatorBoot.rand 2).setWidth 8 ≠ networkAny := by
  intro ends
  have isClient := reachable_client clientBoot clientRole clientInputs
  obtain ⟨isCoordinator, same⟩ :=
    reachable_identity coordinatorBoot coordinatorRole coordinatorInputs
  obtain ⟨-, registry, -⟩ := reachable_registry coordinatorBoot coordinatorRole coordinatorInputs
  have netId : (coordinatorBoot.start.run coordinatorInputs).ctx.netId =
      (coordinatorBoot.rand 2).setWidth 8 := by
    rw [Ctx.identity, Ctx.identity, Prod.mk.injEq, Prod.mk.injEq, Prod.mk.injEq] at same
    rw [same.2.2.1, start_netId, if_pos coordinatorRole]
  rw [← netId]
  constructor
  · rintro joined wildcard
    exact handshake_ignored isClient isCoordinator permit unregistered rssi wildcard joined.state
  · intro network
    have params : (clientBoot.start.run clientInputs).ctx.params = clientBoot.params := by
      rw [(start_client clientBoot clientRole).run_params, start_params]
    cases given : (coordinatorBoot.start.run coordinatorInputs).ctx.registrationSlot
        (clientBoot.start.run clientInputs).ctx.params.uuid with
    | some index =>
        exact handshake_joins isClient isCoordinator permit unregistered rssi registry given network
    | none =>
        obtain ⟨unknown, full⟩ := registrationSlot_eq_none.mp given
        rw [params] at unknown
        rcases room with ⟨index, known⟩ | ⟨index, free⟩
        · exact absurd known (unknown index)
        · exact absurd free (full index).2

/-- `rand()` gives a coordinator the network identifier 0xFF: it permits attachment and has every
slot free, and a fresh client is not registered by the handshake. -/
theorem handshake_wildcard_fails :
    let coordinator := (Boot.coordinatorOn 0xFF#8).start.run [.permitAttach true]
    let client := (Boot.clientWith 7#64 0#16).start
    let ends := handshake (fun _ => 0) client coordinator
    client.ctx.state = .unregistered ∧ coordinator.ctx.permitAttach = true ∧
      (∀ index, (coordinator.ctx.nodes index).state = .unregistered) ∧
      ¬ Joined ends.1 ends.2 := by
  refine ⟨by decide +kernel, by decide +kernel, by decide +kernel, fun joined => ?_⟩
  have registered := joined.state
  revert registered
  decide +kernel

/-- The same client and a coordinator on network 5. -/
theorem handshake_joins_network_five :
    let coordinator := (Boot.coordinatorOn 5#8).start.run [.permitAttach true]
    let client := (Boot.clientWith 7#64 0#16).start
    let ends := handshake (fun _ => 0) client coordinator
    Joined ends.1 ends.2 :=
  (handshake_joins_iff (Boot.clientWith 7#64 0#16) (Boot.coordinatorOn 5#8) rfl rfl []
    [.permitAttach true] (by decide +kernel) (by decide +kernel)
    (.inr ⟨0, by decide +kernel⟩) fun _ => 0).mpr (by decide +kernel)

end TinyHan.Tinymac
