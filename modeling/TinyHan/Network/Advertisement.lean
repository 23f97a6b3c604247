/-
**Pending data is advertised, polled for and released.**

A coordinator lists the addresses of the slots in SendPending in its sync beacon. A client that is
Registered looks its address up in the list and polls if it is there, and the coordinator answers
the poll with the packet that waits.

* `pendingAddrs_count` — the list has the address of every slot in SendPending once, and no other;
* `recv_sync` — what a Registered client sends when it hears the beacon;
* `poll_released` — what the coordinator sends when it hears the poll.
-/

import TinyHan.Network.Delivery

namespace TinyHan.Tinymac

open TinyHan.Lib

/-! ### The list -/

theorem mem_pendingAddrs {ctx : Ctx} {addr : Byte} : addr ∈ ctx.pendingAddrs ↔
    ∃ index, (ctx.nodes index).state = .sendPending ∧ (ctx.nodes index).addr = addr := by
  simp [Ctx.pendingAddrs, slots]

section List

variable {ctx : Ctx} (registry : Registry ctx.nodes)

include registry

theorem addr_injective {one two : Slot} (same : (ctx.nodes one).addr = (ctx.nodes two).addr) :
    one = two := by
  rw [registry.addr, registry.addr] at same
  exact slotAddr_injective same

theorem pendingAddrs_nodup : ctx.pendingAddrs.Nodup := by
  refine List.Nodup.filterMap ?_ (List.nodup_finRange maxNodes)
  intro one two addr first second
  rw [Option.mem_def, Option.ite_none_right_eq_some, Option.some.injEq] at first second
  exact addr_injective registry (first.2.trans second.2.symm)

/-- **The address of a slot is listed once if the slot is in SendPending**, and not otherwise. -/
theorem pendingAddrs_count (index : Slot) : ctx.pendingAddrs.count (ctx.nodes index).addr =
    if (ctx.nodes index).state = .sendPending then 1 else 0 := by
  split
  · next pending =>
    exact List.count_eq_one_of_mem (pendingAddrs_nodup registry)
      (mem_pendingAddrs.mpr ⟨index, pending, rfl⟩)
  · next idle =>
    refine List.count_eq_zero.mpr fun listed => idle ?_
    obtain ⟨other, pending, same⟩ := mem_pendingAddrs.mp listed
    rwa [← addr_injective registry same]

end List

/-! ### The client -/

/-- The client is Registered with a coordinator and has nothing outstanding with it. -/
structure Follows (client coordinator : Mac) : Prop where
  state : client.ctx.state = .registered
  netId : client.ctx.netId = coordinator.ctx.netId
  coordAddr : client.ctx.coord.addr = 0#8
  idle : client.ctx.coord.state = .registered

/-- The sync beacon of a coordinator. -/
def Ctx.syncFrame (ctx : Ctx) : Frame := ⟨ctx.beaconHeader, (ctx.beacon true).bytes⟩

/-- The poll of a client. -/
def Ctx.poll (ctx : Ctx) : Frame := pollFrame ctx.netId ctx.addr (ctx.dseq + 1#8)

section Client

variable {client σ : Mac} (isClient : Client client.ctx) (hub : Hub σ) (follows : Follows client σ)
  (rssi : Int)

include isClient hub follows

/-- A Registered client attends to the beacons of its coordinator, unless it has the coordinator's
address. -/
theorem Follows.attends (other : client.ctx.addr ≠ 0#8) :
    client.ctx.attends σ.ctx.beaconHeader σ.ctx.syncFrame.bytes.length = true := by
  have source : σ.ctx.syncFrame.hdr.srcAddr = 0#8 := hub.coordinator.addr
  have network : σ.ctx.syncFrame.hdr.netId = client.ctx.netId := follows.netId.symm
  have live : client.ctx.coord.live = true := by
    rw [Node.live_iff, follows.idle]
    decide
  exact isClient.attends follows.state live follows.coordAddr other network source (.inr rfl)

omit hub in
/-- The heard beacon, handled by a Registered client: a poll if its address is listed. -/
theorem heard_sync :
    let heard := tinymacRecvKnown (tinymacRecvStandby client σ.ctx.beaconHeader) .coord
      σ.ctx.beaconHeader rssi
    frames (tinymacRecvType heard (some .coord) σ.ctx.beaconHeader σ.ctx.syncFrame.memory
        σ.ctx.syncFrame.bytes.length).out =
      frames client.out ++
        if client.ctx.addr ∈ σ.ctx.pendingAddrs then [client.ctx.poll] else [] := by
  intro heard
  have ctx : heard.ctx = client.ctx.modify .coord fun node =>
      node.heard client.ctx.tickCount rssi := heard_ctx isClient _ rssi
  have plain : σ.ctx.beaconHeader.ackRequest = false := by
    simp only [Header.ackRequest, Ctx.beaconHeader]
    decide
  have sent : frames heard.out = frames client.out := by
    rw [heard_frames isClient, Ctx.answer, if_neg (by simp [plain]), List.append_nil]
  have role : heard.ctx.params.coordinator = false := by
    rw [ctx]
    exact isClient.role
  have state : heard.ctx.state = .registered := by
    rw [ctx]
    exact follows.state
  have addr : heard.ctx.addr = client.ctx.addr := by rw [ctx]; rfl
  have size : σ.ctx.syncFrame.bytes.length =
      headerSize + (beaconSize + σ.ctx.pendingAddrs.length) := by
    simp [Ctx.syncFrame, Ctx.beacon]
  have list : window σ.ctx.syncFrame.memory (headerSize + beaconSize)
      σ.ctx.pendingAddrs.length = σ.ctx.pendingAddrs :=
    congrArg Beacon.addressList (readBeacon_frame σ.ctx.beaconHeader (σ.ctx.beacon true))
  have entries : headerSize + (beaconSize + σ.ctx.pendingAddrs.length) - headerSize - beaconSize =
      σ.ctx.pendingAddrs.length := by omega
  rw [recvType_control _ _ _ _ _ .beacon (beaconHeader_type _), tinymacRecvControl, size,
    if_neg (by omega), rxBeacon_eq _ role, state]
  dsimp only
  rw [entries, list, addr, List.any_beq']
  split
  · next listed =>
    have still : Client heard.ctx := isClient.heard_coord rssi ctx
    have idle : (heard.ctx.node .coord).state = .registered := by
      rw [ctx]
      exact follows.idle
    rw [if_pos (List.elem_iff.mp listed), txPacket_unicast_frames heard .coord _ _ _ _
      (still.fits (Nat.zero_le _)) idle still.coord.awake, sent]
    simp [Ctx.poll, pollFrame, Ctx.buildHeader, ctx, follows.coordAddr]
  · next unlisted =>
    rw [if_neg fun listed => unlisted (List.elem_iff.mpr listed), sent, List.append_nil]

/-- **A client that hears the sync beacon** polls once if its address is listed, and sends nothing
otherwise. -/
theorem recv_sync : (client.step (.frame σ.ctx.syncFrame rssi)).sentSince client =
    if client.ctx.addr ∈ σ.ctx.pendingAddrs then [client.ctx.poll] else [] := by
  have header : readHeader σ.ctx.syncFrame.memory = σ.ctx.beaconHeader := readHeader_frame ..
  refine sentSince_of_frames ?_
  rw [Input.frame, Mac.step]
  by_cases own : client.ctx.addr = 0#8
  · have unlisted : client.ctx.addr ∉ σ.ctx.pendingAddrs := fun listed => by
      obtain ⟨index, -, same⟩ := mem_pendingAddrs.mp listed
      exact (hub.assigned index).1 (same.trans own)
    have source : σ.ctx.beaconHeader.srcAddr = 0#8 := hub.coordinator.addr
    have ignored : client.ctx.attends σ.ctx.beaconHeader σ.ctx.syncFrame.bytes.length = false := by
      simp [Ctx.attends, Ctx.accepts, source, own]
    rw [if_neg unlisted, List.append_nil]
    exact recv_ignored_frames isClient (header ▸ ignored) rssi
  · have attends := follows.attends isClient hub own
    rw [recv_attended isClient (isClient.assigned follows.state) (header ▸ attends), header]
    exact heard_sync isClient follows rssi

end Client

/-! ### The coordinator -/

/-- **The poll is answered with the packet that waits**, and with nothing else. -/
theorem poll_released {client ρ : Mac} (hub : Hub ρ) (real : ρ.ctx.netId ≠ networkAny)
    (network : client.ctx.netId = ρ.ctx.netId) {index : Slot}
    (addr : (ρ.ctx.nodes index).addr = client.ctx.addr)
    (pending : (ρ.ctx.nodes index).state = .sendPending) (rssi : Int) :
    (ρ.step (.frame client.ctx.poll rssi)).sentSince ρ =
      [⟨(ρ.ctx.nodes index).pendingHeader, (ρ.ctx.nodes index).pending⟩] := by
  have type : client.ctx.poll.hdr.type = PacketType.poll.code := headerFlags_control .poll
  have plain : client.ctx.poll.hdr.ackRequest = false := by
    simp only [Ctx.poll, pollFrame, Header.ackRequest]
    decide
  have network : client.ctx.poll.hdr.netId = ρ.ctx.netId := network
  have released := (call_releases hub real network rfl addr.symm rssi pending (.inl type)).1
  rwa [Ctx.answer, if_neg (by simp [plain]), List.nil_append] at released

/-- The states of a coordinator in which a poll can reach it after a beacon built in `σ`: right
behind the beacon, and whatever it has done since its start. -/
inductive Answering (boot : Boot) (σ : Mac) : Mac → Prop where
  | built : Answering boot σ (tinymacTxBeacon σ true)
  | reached (inputs : List Input) : Answering boot σ (boot.start.run inputs)

theorem Answering.hub {boot : Boot} (role : boot.params.coordinator = true) {σ ρ : Mac}
    (hub : Hub σ) (same : σ.ctx.identity = boot.start.ctx.identity)
    (answering : Answering boot σ ρ) :
    Hub ρ ∧ ρ.ctx.netId = σ.ctx.netId := by
  have netId {one two : Ctx} (same : one.identity = two.identity) : one.netId = two.netId :=
    congrArg (fun identity => identity.2.2.1) same
  cases answering with
  | built =>
      have op : Op .any σ (tinymacTxBeacon σ true) := .beacon σ true fun _ => trivial
      exact ⟨hub.op op, netId op.identity⟩
  | reached inputs =>
      exact ⟨reachable_hub boot role inputs,
        netId ((reachable_identity boot role inputs).2.trans same.symm)⟩

/-- **The two sides of the advertisement agree**, for every reachable coordinator, at the point of a
tick where the sync beacon is built, and every reachable client. The beacon lists the address of
each slot in SendPending once, and nothing else. A client that is Registered with the coordinator
answers the beacon with one poll if the slot at its address is in SendPending, and with nothing
otherwise. The poll has the coordinator send the packet that waits in that slot, once. -/
theorem pending_advertised (boot : Boot) (role : boot.params.coordinator = true)
    (inputs : List Input) (device : Boot) (isClient : device.params.coordinator = false)
    (commands : List Input) :
    let σ := (boot.start.run inputs).update Ctx.nextSlot
    let client := device.start.run commands
    (tinymacTxBeacon σ true).sentSince σ = [σ.ctx.syncFrame] ∧
      (∀ index, (σ.ctx.beacon true).addressList.count (σ.ctx.nodes index).addr =
        if (σ.ctx.nodes index).state = .sendPending then 1 else 0) ∧
      (∀ addr ∈ (σ.ctx.beacon true).addressList, ∃ index, (σ.ctx.nodes index).addr = addr) ∧
      (Follows client σ → ∀ rssi,
        (client.step (.frame σ.ctx.syncFrame rssi)).sentSince client =
          (if ∃ index, (σ.ctx.nodes index).state = .sendPending ∧
              (σ.ctx.nodes index).addr = client.ctx.addr then [client.ctx.poll] else []) ∧
        ∀ ρ, Answering boot σ ρ → ∀ index, (ρ.ctx.nodes index).addr = client.ctx.addr →
          (ρ.ctx.nodes index).state = .sendPending →
          (ρ.step (.frame client.ctx.poll rssi)).sentSince ρ =
            [⟨(ρ.ctx.nodes index).pendingHeader, (ρ.ctx.nodes index).pending⟩]) := by
  intro σ client
  have reached := reachable_hub boot role inputs
  have hub : Hub σ :=
    ⟨reached.coordinator.of_identity rfl, reached.registry, reached.ungranted⟩
  have same : σ.ctx.identity = boot.start.ctx.identity :=
    (reachable_identity boot role inputs).2
  have isClient : Client client.ctx := reachable_client device isClient commands
  refine ⟨sentSince_of_frames (txBeacon_frames σ true hub.coordinator.role),
    pendingAddrs_count hub.registry, fun addr listed => ?_, fun follows rssi => ⟨?_, ?_⟩⟩
  · obtain ⟨index, -, is⟩ := mem_pendingAddrs.mp listed
    exact ⟨index, is⟩
  · rw [recv_sync isClient hub follows rssi]
    exact if_congr mem_pendingAddrs rfl rfl
  · intro ρ answering index addr pending
    obtain ⟨answers, network⟩ := answering.hub role hub same
    have real : ρ.ctx.netId ≠ networkAny := by
      rw [network, ← follows.netId]
      exact isClient.networked follows.state
    exact poll_released answers real (follows.netId.trans network.symm) addr pending rssi

/-- Three bytes wait for a sleepy client; it hears the beacon, polls, and they are sent. -/
theorem pending_advertised_sleepy :
    let σ := ((Boot.coordinatorOn 5#8).start.run [.permitAttach true,
      .frame (registrationRequestFrame 5#8 1#8 ⟨7#64, attachFlagsSleepy⟩) 0,
      .send 1#8 0x50#8 [1, 2, 3] 2#16 none]).update Ctx.nextSlot
    let client := (Boot.clientWith 7#64 attachFlagsSleepy).start.run [
      .frame (beaconFrame 5#8 1#8 beaconFlagsPermitAttach 0xC0#64) 0,
      .frame (registrationResponseFrame 5#8 1#8 ⟨7#64, 1#8, RegistrationStatus.success.code⟩) 0]
    (client.step (.frame σ.ctx.syncFrame 0)).sentSince client = [client.ctx.poll] ∧
      ((tinymacTxBeacon σ true).step (.frame client.ctx.poll 0)).sentSince
          (tinymacTxBeacon σ true) =
        [⟨((tinymacTxBeacon σ true).ctx.nodes 0).pendingHeader, [1, 2, 3]⟩] := by
  intro σ client
  have follows : Follows client σ := by constructor <;> decide +kernel
  obtain ⟨polls, released⟩ := (pending_advertised (Boot.coordinatorOn 5#8) rfl _
    (Boot.clientWith 7#64 attachFlagsSleepy) rfl _).2.2.2 follows 0
  have packet : ((tinymacTxBeacon σ true).ctx.nodes 0).pending = [1, 2, 3] := by decide +kernel
  refine ⟨polls.trans (if_pos ⟨0, by decide +kernel, by decide +kernel⟩), ?_⟩
  exact (released (tinymacTxBeacon σ true) .built 0 (by decide +kernel) (by decide +kernel)).trans
    (congrArg (fun payload => [Frame.mk _ payload]) packet)

end TinyHan.Tinymac
