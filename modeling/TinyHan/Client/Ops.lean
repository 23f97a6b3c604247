/-
**The operations of a client.**

`ClientOp` lists what the steps of a client are made of, as `Op` does for a coordinator. It is used
for what the link does not show: the coordinator record (`Node.Upstream`: it is never sleepy, so
nothing is ever deferred to it, and what it retransmits is data of the application) and the log
(`ClientEvent`: a client puts acknowledgements of what it heard, requests, polls and data on the
air, but no beacon and no registration response).
-/

import TinyHan.Client.Link
import TinyHan.Mac.Log

namespace TinyHan.Tinymac

open TinyHan.Lib
open Relation (ReflTransGen)

/-! ### Operations -/

/-- One operation of a client; `heard` is what is known of the frame that is handled, at the link
it is handled with. -/
inductive ClientOp (heard : Header → Link → Prop) : Mac → Mac → Prop where
  | event (σ : Mac) (event : Event) (silent : event.silent) : ClientOp heard σ (σ.emit event)
  | write (σ : Mac) (change : Ctx → Ctx) (same : (change σ.ctx).coord = σ.ctx.coord) :
      ClientOp heard σ (σ.update change)
  | bind (σ : Mac) (hdr : Header) (uuid : BitVec 64) :
      ClientOp heard σ (σ.update fun ctx => ctx.bind hdr uuid)
  | hear (σ : Mac) (rssi : Int) :
      ClientOp heard σ (σ.modify .coord fun node => node.heard σ.ctx.tickCount rssi)
  | ackFrame (σ : Mac) (hdr : Header) (asked : hdr.ackRequest = true)
      (origin : heard hdr σ.ctx.link) :
      ClientOp heard σ (tinymacPhySend σ none ⟨σ.ctx.ackHeader σ.ctx.coord hdr.seq, []⟩ 0#8).2
  | release (σ : Mac) : ClientOp heard σ (tinymacTxPending σ .coord)
  | acked (σ : Mac) (hdr : Header) : ClientOp heard σ (tinymacRxAck σ (some .coord) hdr)
  | solicit (σ : Mac) :
      ClientOp heard σ (tinymacTxPacket σ none PacketType.beaconRequest.code [] 0#16 none).2
  | request (σ : Mac) (attach : RegistrationRequest) :
      ClientOp heard σ (tinymacTxPacket σ (some .coord) PacketType.registrationRequest.code
        attach.bytes 0#16 none).2
  | poll (σ : Mac) :
      ClientOp heard σ (tinymacTxPacket σ (some .coord) PacketType.poll.code [] 0#16 none).2
  | send (σ : Mac) (type : BitVec 8) (buf : List Byte) (validity : BitVec 16)
      (cb : Option SendCb) (data : typeRawData ≤ type &&& flagsTypeMask.setWidth 8) :
      ClientOp heard σ (tinymacTxPacket σ (some .coord) type buf validity cb).2
  | ackDue (σ : Mac) : ClientOp heard σ (tinymacDespatchTimer σ (.ack .coord))
  | validityDue (σ : Mac) : ClientOp heard σ (tinymacDespatchTimer σ (.validity .coord))
  | giveUp (σ : Mac) : ClientOp heard σ (tinymacDeregisterNode σ .coord)

/-- A sequence of operations. -/
abbrev ClientOps (heard : Header → Link → Prop) : Mac → Mac → Prop :=
  ReflTransGen (ClientOp heard)

/-- A client's lookup by address finds its coordinator record. -/
theorem getNodeByAddr_client {ctx : Ctx} (client : ctx.params.coordinator = false)
    {addr : BitVec 8} {ptr : NodePtr} (found : tinymacGetNodeByAddr ctx addr = some ptr) :
    ptr = .coord ∧ ctx.coord.live = true ∧ ctx.coord.addr = addr := by
  rw [tinymacGetNodeByAddr, if_neg (by simp [client])] at found
  split at found
  · next live =>
    cases found
    exact ⟨rfl, (Node.live_iff _).mpr live.1, live.2⟩
  · cases found

/-! ### The parts of a step -/

section Parts

variable {heard : Header → Link → Prop}

theorem recvStandby_clientOps (σ : Mac) (hdr : Header) :
    ClientOps heard σ (tinymacRecvStandby σ hdr) := by
  unfold tinymacRecvStandby
  split
  · refine .single (.event σ _ ?_)
    split <;> trivial
  · exact .refl

/-- Hearing the coordinator. -/
theorem recvKnown_clientOps (σ : Mac) (hdr : Header) (rssi : Int)
    (origin : heard hdr σ.ctx.link) :
    ClientOps heard σ (tinymacRecvKnown σ .coord hdr rssi) := by
  have noted : ClientOp heard σ _ := .hear σ rssi
  unfold tinymacRecvKnown
  dsimp only
  split
  · next asked =>
    refine .tail ?_ (.release _)
    have acked : ClientOp heard (σ.modify .coord fun node => node.heard σ.ctx.tickCount rssi) _ :=
      .ackFrame _ hdr asked (by rwa [mac_modify_ctx, modify_link])
    unfold tinymacTxAck
    dsimp only
    split
    · exact .tail (.single noted) acked
    · exact .tail (.tail (.single noted) acked) (.release _)
  · exact .tail (.single noted) (.release _)

theorem join_clientOps (σ : Mac) (hdr : Header) (uuid : BitVec 64) :
    ClientOps heard σ (σ.join hdr uuid) := by
  unfold Mac.join
  exact .tail (.tail (.single (.bind σ hdr uuid)) (.request _ _)) (.write _ _ rfl)

theorem rxBeacon_clientOps (σ : Mac) (client : σ.ctx.params.coordinator = false) (hdr : Header)
    (buf : Memory) (size : Nat) : ClientOps heard σ (tinymacRxBeacon σ hdr buf size) := by
  have cancelled : ClientOp heard σ (σ.update Ctx.cancelRequest) := .write σ _ rfl
  rw [rxBeacon_eq σ client]
  split
  · split
    · exact join_clientOps σ hdr _
    · exact .refl
  · dsimp only
    split
    · exact .head cancelled (join_clientOps _ hdr _)
    · exact .single cancelled
  · exact .refl
  · split
    · exact .single (.poll σ)
    · exact .refl

theorem rxRegistrationResponse_clientOps (σ : Mac) (hdr : Header) (buf : Memory) :
    ClientOps heard σ (tinymacRxRegistrationResponse σ hdr buf) := by
  have detached (τ : Mac) : ClientOp heard τ (τ.update Ctx.detach) := .write τ _ rfl
  have cancelled : ClientOp heard σ (σ.update Ctx.cancelRequest) := .write σ _ rfl
  unfold tinymacRxRegistrationResponse
  dsimp only
  split
  · exact .refl
  · split
    · split
      · exact .refl
      · exact .single (detached σ)
    · by_cases waiting : σ.ctx.state = .registering
      · rw [if_pos waiting]
        split
        · exact .tail (.single cancelled) (detached _)
        · split
          · exact .tail (.single cancelled) (.write _ _ rfl)
          · exact .single cancelled
      · rw [if_neg waiting]
        split
        · exact .single (detached σ)
        · exact .refl

/-- The end of the receive handler. -/
theorem recvType_clientOps (σ : Mac) (client : σ.ctx.params.coordinator = false)
    (node : Option NodePtr) (known : node = none ∨ node = some .coord) (hdr : Header)
    (buf : Memory) (size : Nat) : ClientOps heard σ (tinymacRecvType σ node hdr buf size) := by
  unfold tinymacRecvType
  split
  · split
    · exact .single (.event σ _ trivial)
    · exact .refl
  · split
    case h_2 => exact .refl
    case h_1 type _ =>
      unfold tinymacRecvControl
      cases type with
      | beacon =>
          dsimp only
          split
          · exact .refl
          · exact rxBeacon_clientOps σ client hdr buf size
      | ack =>
          rcases known with rfl | rfl
          · exact .refl
          · exact .single (.acked σ hdr)
      | poll => exact .refl
      | beaconRequest =>
          dsimp only
          rw [txBeacon_client σ false client]
      | registrationRequest => simpa [tinymacRxRegistrationRequest, client] using ReflTransGen.refl
      | deregistrationRequest =>
          simpa [tinymacRxDeregistrationRequest, client] using ReflTransGen.refl
      | registrationResponse =>
          dsimp only
          split
          · exact .refl
          · exact rxRegistrationResponse_clientOps σ hdr buf

theorem recv_clientOps (σ : Mac) (client : σ.ctx.params.coordinator = false) (buf : Memory)
    (size : Nat) (rssi : Int)
    (origin : σ.ctx.attends (readHeader buf) size = true → σ.ctx.addr ≠ addrUnassigned →
      heard (readHeader buf) σ.ctx.link) :
    ClientOps heard σ (tinymacRecvCb σ buf size rssi) := by
  unfold tinymacRecvCb
  dsimp only
  split
  case isFalse => exact .refl
  case isTrue accepted =>
    refine (recvStandby_clientOps σ (readHeader buf)).trans ?_
    split
    case isFalse => exact recvType_clientOps _ (by simpa using client) none (.inl rfl) _ _ _
    case isTrue assigned =>
      rw [recvStandby_ctx] at assigned ⊢
      split
      · next ptr found =>
        obtain ⟨rfl, -⟩ := getNodeByAddr_client client found
        refine (recvKnown_clientOps _ _ rssi ?_).trans (recvType_clientOps _
          (by simpa [recvKnown_ctx] using client) (some .coord) (.inr rfl) _ _ _)
        rw [recvStandby_ctx]
        exact origin (by simp [Ctx.attends, accepted, found]) assigned.1
      · simpa [tinymacRecvUnknown, client] using ReflTransGen.refl

theorem despatchRequest_clientOps (σ : Mac) :
    ClientOps heard σ (tinymacDespatchTimer σ .request) := by
  have cancelled : ClientOp heard σ (σ.update Ctx.cancelRequest) := .write σ _ rfl
  unfold tinymacDespatchTimer
  split
  · unfold Mac.timerCallback Mac.clearTimer tinymacRequestTimeout
    dsimp only
    split_ifs
    · exact .tail (.single cancelled) (.giveUp _)
    · exact .single cancelled
  · exact .refl

theorem solicit_clientOps (σ : Mac) : ClientOps heard σ σ.solicit := by
  have asking : ClientOp heard σ (σ.update fun ctx => ctx.setState .beaconRequest) :=
    .write σ _ rfl
  unfold Mac.solicit
  split
  · exact .tail (.tail (.single asking) (.solicit _)) (.write _ _ rfl)
  · exact .refl

theorem tick_clientOps (σ : Mac) (client : σ.ctx.params.coordinator = false) :
    ClientOps heard σ (tinymacTickHandler σ) := by
  rw [tick_client σ client]
  refine .tail (.trans (.tail (.tail ?_ (.ackDue _)) (.validityDue _))
    (despatchRequest_clientOps _)) (.write _ _ rfl)
  exact solicit_clientOps σ

theorem send_clientOps (σ : Mac) (client : σ.ctx.params.coordinator = false)
    (dest type : BitVec 8) (buf : List Byte) (validity : BitVec 16) (cb : Option SendCb) :
    ClientOps heard σ (tinymacSend σ dest type buf validity cb).2 := by
  unfold tinymacSend
  split
  · exact .refl
  · next data =>
    split
    · exact .refl
    · next ptr found =>
      obtain ⟨rfl, -⟩ := getNodeByAddr_client client found
      exact .single (.send σ type buf _ cb (BitVec.not_lt.mp data))

end Parts

/-- The frame of the input is attended to, at the link before the step. -/
def Ctx.hears (ctx : Ctx) (input : Input) (hdr : Header) (link : Link) : Prop :=
  ∃ buf size rssi, input = .recv buf size rssi ∧ hdr = readHeader buf ∧ link = ctx.link ∧
    ctx.attends hdr size = true ∧ ctx.addr ≠ addrUnassigned

/-- **Every step of a client is a sequence of operations.** -/
theorem step_clientOps (σ : Mac) (client : σ.ctx.params.coordinator = false) (input : Input) :
    ClientOps (σ.ctx.hears input) σ (σ.step input) := by
  have setting (change : Ctx → Ctx) (same : (change σ.ctx).coord = σ.ctx.coord) :
      ClientOps (σ.ctx.hears input) σ (σ.update change) := .single (.write σ change same)
  cases input with
  | recv buf size rssi =>
      exact recv_clientOps σ client buf size rssi fun attends assigned =>
        ⟨buf, size, rssi, rfl, rfl, rfl, attends, assigned⟩
  | tick => exact tick_clientOps σ client
  | send dest type buf validity cb => exact send_clientOps σ client dest type buf validity cb
  | permitAttach permit => exact setting (fun ctx => { ctx with permitAttach := permit }) rfl
  | registerRecvCb cb => exact setting (fun ctx => { ctx with rxCb := cb }) rfl
  | registerRegCb cb => exact setting (fun ctx => { ctx with regCb := cb }) rfl
  | registerDeregCb cb => exact setting (fun ctx => { ctx with deregCb := cb }) rfl

/-- The count of packets built does not go back. -/
theorem ClientOp.built_le {heard : Header → Link → Prop} {σ τ : Mac} (op : ClientOp heard σ τ) :
    σ.built ≤ τ.built := by
  have packet (dest : Option NodePtr) (type : BitVec 8) (buf : List Byte) (validity : BitVec 16)
      (cb : Option SendCb) : σ.built ≤ (tinymacTxPacket σ dest type buf validity cb).2.built := by
    rw [txPacket_built]
    split <;> omega
  cases op with
  | event | write | bind | hear => exact le_rfl
  | ackFrame | release | ackDue | validityDue | giveUp => simp
  | acked hdr =>
      simp only [tinymacRxAck]
      split
      · simp
      · exact le_rfl
  | solicit | request | poll | send => exact packet ..

theorem ClientOps.built_le {heard : Header → Link → Prop} {σ τ : Mac} (ops : ClientOps heard σ τ) :
    σ.built ≤ τ.built := by
  induction ops with
  | refl => exact le_rfl
  | tail _ op ih => exact ih.trans op.built_le

/-! ### The coordinator record -/

/-- The coordinator record of a client. -/
structure Node.Upstream (node : Node) : Prop where
  flags : node.flags = 0#16
  state : node.state ≠ .sendPending
  validity : node.validityTimer.armed = false
  pending : node.ackTimer.armed = true → typeRawData ≤ node.pendingHeader.type

namespace Node.Upstream

variable {node : Node}

theorem awake (upstream : node.Upstream) : node.sleepy = false := by
  simp [Node.sleepy, upstream.flags]

theorem heard (upstream : node.Upstream) (now : BitVec 32) (rssi : Int) :
    (node.heard now rssi).Upstream :=
  ⟨upstream.flags, upstream.state, upstream.validity, upstream.pending⟩

/-- Nothing is ever released to a coordinator. -/
theorem release (upstream : node.Upstream) (now : BitVec 32) : node.release now = node := by
  rw [Node.release, if_neg upstream.state]

theorem setState (upstream : node.Upstream) {state : NodeState} (kept : state ≠ .sendPending) :
    (node.setState state).Upstream :=
  ⟨upstream.flags, kept, upstream.validity, upstream.pending⟩

theorem cancelAck (upstream : node.Upstream) : node.cancelAck.Upstream :=
  ⟨upstream.flags, upstream.state, upstream.validity, nofun⟩

theorem cancelValidity (upstream : node.Upstream) : node.cancelValidity.Upstream :=
  ⟨upstream.flags, upstream.state, rfl, upstream.pending⟩

theorem countRetry (upstream : node.Upstream) : node.countRetry.Upstream :=
  ⟨upstream.flags, upstream.state, upstream.validity, upstream.pending⟩

/-- A packet that asks for no acknowledgement is sent and forgotten. -/
theorem accept_plain (upstream : node.Upstream) (now : BitVec 32) {type : BitVec 8}
    (plain : ackRequested type = false) (validity : BitVec 16) (id : Nat) (hdr : Header)
    (payload : List Byte) (cb : Option SendCb) :
    node.accept now type validity id hdr payload cb = node := by
  simp [Node.accept, upstream.awake, plain]

theorem accept (upstream : node.Upstream) (now : BitVec 32) (type : BitVec 8)
    (validity : BitVec 16) (id : Nat) {hdr : Header} (data : typeRawData ≤ hdr.type)
    (payload : List Byte) (cb : Option SendCb) :
    (node.accept now type validity id hdr payload cb).Upstream := by
  unfold Node.accept
  rw [upstream.awake]
  split
  · exact upstream
  · simp only [Bool.false_eq_true, if_false]
    split
    · exact ⟨upstream.flags, nofun, upstream.validity, fun _ => data⟩
    · exact upstream

theorem despatchAck (upstream : node.Upstream) (now : BitVec 32) :
    (node.despatchAck now).Upstream := by
  unfold Node.despatchAck
  split
  · next due =>
    have data := upstream.pending (armed_of_due due)
    unfold Node.ackExpire
    rw [upstream.awake]
    split
    · exact ⟨upstream.flags, upstream.state, upstream.validity, fun _ => data⟩
    · exact upstream.cancelAck.countRetry.cancelValidity.setState nofun
  · exact upstream

theorem despatchValidity (upstream : node.Upstream) (now : BitVec 32) :
    node.despatchValidity now = node := by
  rw [Node.despatchValidity, due_of_disarmed now upstream.validity]
  rfl

end Node.Upstream

theorem despatchAck_coord (σ : Mac) :
    (tinymacDespatchTimer σ (.ack .coord)).ctx.coord =
      σ.ctx.coord.despatchAck σ.ctx.tickCount := by
  unfold tinymacDespatchTimer Node.despatchAck
  cases due : σ.timerDue (.ack .coord)
  · have notDue : σ.ctx.coord.ackTimer.due σ.ctx.tickCount = false := due
    simp [notDue]
  · have isDue : σ.ctx.coord.ackTimer.due σ.ctx.tickCount = true := due
    have sleepy : σ.ctx.coord.cancelAck.sleepy = σ.ctx.coord.sleepy := rfl
    by_cases exhausted : σ.ctx.coord.retries = 0#8
    · simp [Mac.timerCallback, Mac.clearTimer, tinymacAckTimeout, isDue, exhausted,
        deregister_coord_ctx, Node.ackExpire]
    · cases asleep : σ.ctx.coord.sleepy <;>
        simp [Mac.timerCallback, Mac.clearTimer, tinymacAckTimeout, isDue, exhausted, sleepy,
          asleep, Node.ackExpire]

theorem despatchValidity_coord (σ : Mac) :
    (tinymacDespatchTimer σ (.validity .coord)).ctx.coord =
      σ.ctx.coord.despatchValidity σ.ctx.tickCount := by
  unfold tinymacDespatchTimer Node.despatchValidity
  cases due : σ.timerDue (.validity .coord)
  · have notDue : σ.ctx.coord.validityTimer.due σ.ctx.tickCount = false := due
    simp [notDue]
  · have isDue : σ.ctx.coord.validityTimer.due σ.ctx.tickCount = true := due
    simp [Mac.timerCallback, Mac.clearTimer, tinymacValidityTimeout, isDue]

theorem txPacket_broadcast_coord (σ : Mac) (type : BitVec 8) (buf : List Byte)
    (validity : BitVec 16) (cb : Option SendCb) :
    (tinymacTxPacket σ none type buf validity cb).2.ctx.coord = σ.ctx.coord := by
  by_cases fits : σ.ctx.fits buf
  · rw [txPacket_broadcast_ctx _ _ _ _ _ fits, Ctx.nextSeq_coord]
  · rw [txPacket_oversize _ _ _ _ _ _ fits]

/-- A beacon request leaves the coordinator record and the clock alone. -/
theorem solicit_coord (σ : Mac) :
    σ.solicit.ctx.coord = σ.ctx.coord ∧ σ.solicit.ctx.tickCount = σ.ctx.tickCount := by
  constructor
  · unfold Mac.solicit
    split
    · rw [update_ctx, Ctx.armRequest_coord, txPacket_broadcast_coord]
      rfl
    · rfl
  · have link := congrArg Link.now (solicit_link σ)
    rw [Ctx.link_now] at link
    rw [link]
    split <;> rfl

/-- A packet for the coordinator leaves the record as it is, or as accepting the packet makes
it. -/
theorem txPacket_coord (σ : Mac) (type : BitVec 8) (buf : List Byte) (validity : BitVec 16)
    (cb : Option SendCb) :
    (tinymacTxPacket σ (some .coord) type buf validity cb).2.ctx.coord = σ.ctx.coord ∨
      (tinymacTxPacket σ (some .coord) type buf validity cb).2.ctx.coord =
        σ.ctx.coord.accept σ.ctx.tickCount type validity (σ.built + 1)
          (σ.ctx.buildHeader (some .coord) type) buf cb := by
  by_cases fits : σ.ctx.fits buf
  · exact .inr (by rw [txPacket_unicast_ctx _ _ _ _ _ _ fits]; rfl)
  · exact .inl (by rw [txPacket_oversize _ _ _ _ _ _ fits])

section Upstream

variable {heard : Header → Link → Prop}

theorem control_upstream {σ : Mac} (upstream : σ.ctx.coord.Upstream) (type : BitVec 8)
    (plain : ackRequested type = false) (buf : List Byte) :
    (tinymacTxPacket σ (some .coord) type buf 0#16 none).2.ctx.coord.Upstream := by
  rcases txPacket_coord σ type buf 0#16 none with same | accepted
  · rwa [same]
  · rwa [accepted, upstream.accept_plain _ plain]

/-- **Every operation of a client keeps its coordinator record.** -/
theorem ClientOp.upstream {σ τ : Mac} (op : ClientOp heard σ τ)
    (upstream : σ.ctx.coord.Upstream) : τ.ctx.coord.Upstream := by
  cases op with
  | event event silent => exact upstream
  | write change same => rwa [update_ctx, same]
  | bind hdr uuid => exact ⟨rfl, nofun, upstream.validity, upstream.pending⟩
  | hear rssi => exact upstream.heard _ rssi
  | ackFrame hdr asked origin => simpa using upstream
  | release => simpa [txPending_ctx, upstream.release] using upstream
  | acked hdr =>
      simp only [tinymacRxAck]
      split
      · have idle : (σ.ctx.coord.setState .registered).Upstream := upstream.setState nofun
        rw [invokeSendCb_ctx]
        exact idle.cancelAck.cancelValidity
      · exact upstream
  | solicit => rwa [txPacket_broadcast_coord]
  | request attach => exact control_upstream upstream _ (by decide) _
  | poll => exact control_upstream upstream _ (by decide) _
  | send type buf validity cb data =>
      rcases txPacket_coord σ type buf validity cb with same | accepted
      · rwa [same]
      · rw [accepted]
        exact upstream.accept _ type validity _ (by rwa [buildHeader_type]) buf cb
  | ackDue =>
      rw [despatchAck_coord]
      exact upstream.despatchAck _
  | validityDue => rwa [despatchValidity_coord, upstream.despatchValidity]
  | giveUp =>
      rw [deregister_coord_ctx]
      exact upstream.setState nofun

theorem ClientOps.upstream {σ τ : Mac} (ops : ClientOps heard σ τ)
    (upstream : σ.ctx.coord.Upstream) : τ.ctx.coord.Upstream := by
  induction ops with
  | refl => exact upstream
  | tail _ op ih => exact op.upstream ih

end Upstream

/-- A context in the client role. -/
structure Client (ctx : Ctx) : Prop where
  link : ctx.link.Sound
  coord : ctx.coord.Upstream

theorem Client.role {ctx : Ctx} (client : Client ctx) : ctx.params.coordinator = false :=
  client.link.role

theorem Client.step {σ : Mac} (client : Client σ.ctx) (input : Input) : Client (σ.step input).ctx :=
  ⟨step_sound σ client.link input, (step_clientOps σ client.role input).upstream client.coord⟩

theorem Client.run {σ : Mac} (client : Client σ.ctx) (inputs : List Input) :
    Client (σ.run inputs).ctx := by
  induction inputs generalizing σ with
  | nil => exact client
  | cons input inputs ih => exact ih (client.step input)

theorem Client.run_params {σ : Mac} (client : Client σ.ctx) (inputs : List Input) :
    (σ.run inputs).ctx.params = σ.ctx.params := by
  induction inputs generalizing σ with
  | nil => rfl
  | cons input inputs ih =>
      exact (ih (client.step input)).trans (step_params σ client.role input)

theorem start_client (boot : Boot) (role : boot.params.coordinator = false) :
    Client boot.start.ctx := by
  refine ⟨start_sound boot role, ?_⟩
  rw [start_coord]
  exact ⟨rfl, nofun, rfl, nofun⟩

/-- **Every reachable context of a client is a client**: its link is sound, and its coordinator
record holds nothing but data. -/
theorem reachable_client (boot : Boot) (role : boot.params.coordinator = false)
    (inputs : List Input) : Client (boot.start.run inputs).ctx :=
  (start_client boot role).run inputs

section Reachable

variable {σ : Mac} (client : Client σ.ctx)

include client

theorem Client.seeking_iff : σ.ctx.link.seeking ↔ σ.ctx.netId = networkAny :=
  client.link.net.symm

theorem Client.unaddressed (unregistered : σ.ctx.state ≠ .registered) :
    σ.ctx.addr = addrUnassigned := client.link.addr.mpr unregistered

theorem Client.assigned (registered : σ.ctx.state = .registered) :
    σ.ctx.addr ≠ addrUnassigned := fun unassigned => client.link.addr.mp unassigned registered

theorem Client.networked (registered : σ.ctx.state = .registered) : σ.ctx.netId ≠ networkAny := by
  intro any
  rcases client.seeking_iff.mpr any with state | state <;> cases registered.symm.trans state

theorem Client.fits {buf : List Byte} (short : buf.length ≤ 56) : σ.ctx.fits buf := by
  have mtu : 62 ≤ σ.ctx.phyMtu := client.link.mtu
  exact ⟨by unfold maxPayload; omega, by unfold headerSize; omega⟩

/-- What `tinymac_send` does on a client: nothing, or a packet of data for a coordinator record that
is live at the address. -/
theorem Client.send_cases (dest type : BitVec 8) (buf : List Byte) (validity : BitVec 16)
    (cb : Option SendCb) :
    tinymacSend σ dest type buf validity cb = (-1, σ) ∨
      typeRawData ≤ type &&& flagsTypeMask.setWidth 8 ∧
        tinymacGetNodeByAddr σ.ctx dest = some .coord ∧
        ∃ validity', tinymacSend σ dest type buf validity cb =
          tinymacTxPacket σ (some .coord) type buf validity' cb := by
  unfold tinymacSend
  split
  · exact .inl rfl
  · next data =>
    cases found : tinymacGetNodeByAddr σ.ctx dest with
    | none => exact .inl rfl
    | some ptr =>
        obtain ⟨rfl, -⟩ := getNodeByAddr_client client.role found
        exact .inr ⟨BitVec.not_lt.mp data, rfl, _, rfl⟩

end Reachable

/-- A frame that a client without an address accepts is handled by its type. -/
theorem recv_unaddressed {σ : Mac} (unaddressed : σ.ctx.addr = addrUnassigned) {buf : Memory}
    {size : Nat} (accepted : σ.ctx.accepts (readHeader buf) size = true) (rssi : Int) :
    tinymacRecvCb σ buf size rssi =
      tinymacRecvType (tinymacRecvStandby σ (readHeader buf)) none (readHeader buf) buf size := by
  unfold tinymacRecvCb
  dsimp only
  rw [if_pos accepted, if_neg (by simp [unaddressed])]

/-! ### The log -/

/-- The types of the packets a client builds. -/
def clientType (type : BitVec 8) : Prop :=
  type = PacketType.beaconRequest.code ∨ type = PacketType.registrationRequest.code ∨
    type = PacketType.poll.code ∨ typeRawData ≤ type

/-- The events an operation of a client logs. -/
inductive ClientEvent (heard : Header → Link → Prop) (σ : Mac) : Event → Prop where
  | silent (event : Event) (is : event.silent) : ClientEvent heard σ event
  | gone : ClientEvent heard σ (.deregCb .coord)
  | ackFrame (hdr : Header) (asked : hdr.ackRequest = true) (origin : heard hdr σ.ctx.link) :
      ClientEvent heard σ (.phySend none ⟨σ.ctx.ackHeader σ.ctx.coord hdr.seq, []⟩ 0#8)
  | packet (id : Nat) (frame : Frame) (kind : clientType frame.hdr.type) :
      ClientEvent heard σ (.phySend (some id) frame 0#8)
  | called (call : TxCall) : ClientEvent heard σ (.txPacket call)
  | completed (packet : Nat) (cb : SendCb) (result : Int) :
      ClientEvent heard σ (.sendCb .coord packet cb result)

section Emits

variable {heard : Header → Link → Prop}

theorem ClientEvent.standby {σ : Mac} (event : Event) (is : event.standby) :
    ClientEvent heard σ event := .silent event (Event.silent_of_standby is)

theorem txPacket_clientEvents (σ : Mac) (dest : Option NodePtr) (type : BitVec 8)
    (payload : List Byte) (validity : BitVec 16) (cb : Option SendCb)
    (kind : clientType (type &&& flagsTypeMask.setWidth 8)) :
    Emits (ClientEvent heard σ) σ (tinymacTxPacket σ dest type payload validity cb).2 :=
  txPacket_emits σ dest type payload validity cb .standby
    (fun _ => .packet _ _ (by rwa [buildHeader_type])) fun _ _ _ _ _ => .called _

/-- **Every event an operation of a client logs is one of `ClientEvent`.** -/
theorem ClientOp.emits {σ τ : Mac} (op : ClientOp heard σ τ) (upstream : σ.ctx.coord.Upstream) :
    Emits (ClientEvent heard σ) σ τ := by
  cases op with
  | event event silent => exact emit_emits σ (.silent event silent)
  | write change same => exact .of_out_eq rfl
  | bind hdr uuid => exact .of_out_eq rfl
  | hear rssi => exact .of_out_eq rfl
  | ackFrame hdr asked origin => exact phySend_emits σ _ _ _ .standby (.ackFrame hdr asked origin)
  | release =>
      rw [txPending_idle σ .coord upstream.state]
      exact .refl σ
  | acked hdr => exact rxAck_emits σ .coord coord_kept hdr fun cb _ _ => .completed _ cb 0
  | solicit => exact txPacket_clientEvents σ _ _ _ _ _ (.inl rfl)
  | request attach => exact txPacket_clientEvents σ _ _ _ _ _ (.inr (.inl rfl))
  | poll => exact txPacket_clientEvents σ _ _ _ _ _ (.inr (.inr (.inl rfl)))
  | send type buf validity cb data =>
      exact txPacket_clientEvents σ _ type buf validity cb (.inr (.inr (.inr data)))
  | ackDue =>
      exact despatchAck_emits σ .coord coord_kept .standby
        (fun armed => .packet _ _ (.inr (.inr (.inr (upstream.pending armed)))))
        (fun cb => .completed _ cb (-1)) .gone
  | validityDue =>
      exact despatchValidity_emits σ .coord coord_kept fun cb _ => .completed _ cb (-1)
  | giveUp => exact deregister_emits σ .coord .gone

/-- What every event of an operation satisfies, the events of a sequence satisfy. -/
theorem ClientOps.emits {P : Event → Prop} {σ τ : Mac} (ops : ClientOps heard σ τ)
    (upstream : σ.ctx.coord.Upstream)
    (each : ∀ {σ : Mac} {event : Event}, ClientEvent heard σ event → P event) : Emits P σ τ := by
  induction ops with
  | refl => exact .refl σ
  | tail before op ih =>
      exact ih.trans ((op.emits (ClientOps.upstream before upstream)).mono fun _ => each)

end Emits

end TinyHan.Tinymac
