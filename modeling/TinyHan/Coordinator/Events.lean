/-
**What an operation logs.**

`OpEvent` lists the events an operation of a coordinator can log in a state, each with what the code
knew when it logged it, and `Op.emits` says that there are no others. A packet that is on the air
was built by this operation (`Packet` lists the packets that are) or is the one a slot holds.
-/

import TinyHan.Coordinator.Slots

namespace TinyHan.Tinymac

open TinyHan.Lib

/-- The response that forces the users of an unknown address to register again. -/
def expelResponse : RegistrationResponse :=
  ⟨0#64, addrUnassigned, RegistrationStatus.addressInvalid.code⟩

/-- The packets a coordinator hands to `tinymac_tx_packet`. -/
inductive Packet (ctx : Ctx) : Option NodePtr → BitVec 8 → List Byte → Prop where
  | data (index : Slot) (type : BitVec 8) (payload : List Byte)
      (live : (ctx.nodes index).live = true)
      (data : typeRawData ≤ type &&& flagsTypeMask.setWidth 8) :
      Packet ctx (some (.slot index)) type payload
  | response (attach : RegistrationRequest) :
      Packet ctx none PacketType.registrationResponse.code (ctx.registrationResponse attach).bytes
  | expulsion (addr : BitVec 8) :
      Packet ctx (some (.temp (dummyNode addr))) PacketType.registrationResponse.code
        expelResponse.bytes
  | detachment (index : Slot) (live : (ctx.nodes index).live = true) :
      Packet ctx (some (.slot index)) PacketType.registrationResponse.code
        (detachResponse (ctx.nodes index).uuid).bytes

/-- The packet a record holds. -/
def Node.packet (node : Node) : Frame := ⟨node.pendingHeader, node.pending⟩

section Packet

variable (node : Node) (now : BitVec 32)

/-- The two records hold the same packet, with the same identity. -/
def Node.SamePacket (one two : Node) : Prop :=
  one.packet = two.packet ∧ one.pendingId = two.pendingId

theorem Node.release_packet : (node.release now).SamePacket node := by
  unfold Node.release
  split_ifs <;> simp [Node.SamePacket, Node.packet]

theorem Node.despatchAck_packet : (node.despatchAck now).SamePacket node := by
  unfold Node.despatchAck Node.ackExpire
  split_ifs <;> simp [Node.SamePacket, Node.packet]

theorem Node.despatchValidity_packet : (node.despatchValidity now).SamePacket node := by
  unfold Node.despatchValidity
  split_ifs <;> simp [Node.SamePacket, Node.packet]

/-- A record that is given a packet keeps its own or holds the new one. -/
theorem Node.accept_packet (flagsType : BitVec 8) (validity : BitVec 16) (id : Nat) (hdr : Header)
    (payload : List Byte) (cb : Option SendCb) :
    let after := node.accept now flagsType validity id hdr payload cb
    after.SamePacket node ∨ (after.packet = ⟨hdr, payload⟩ ∧ after.pendingId = id) := by
  intro after
  rcases node.accept_pending now flagsType validity id hdr payload cb with
    same | ⟨⟨header, content, number⟩, -⟩
  · exact .inl ⟨congrArg Node.packet same, congrArg Node.pendingId same⟩
  · exact .inr ⟨congrArg₂ Frame.mk header content, number⟩

end Packet

/-- **The packet a slot holds** stays the same, with its identity, or is one built now. -/
theorem SlotOp.packet {ok : Condition} {σ : Mac} {index : Slot} {node : Node}
    (op : SlotOp ok σ index node) :
    (node.packet = (σ.ctx.nodes index).packet ∧
      node.pendingId = (σ.ctx.nodes index).pendingId) ∨
    ∃ type payload, Packet σ.ctx (some (.slot index)) type payload ∧
      node.packet = ⟨σ.ctx.buildHeader (some (.slot index)) type, payload⟩ ∧
      node.pendingId = σ.built + 1 := by
  cases op with
  | released => exact .inl (Node.release_packet _ _)
  | accepted type validity payload cb live data =>
      rcases Node.accept_packet (σ.ctx.nodes index) σ.ctx.tickCount type validity (σ.built + 1)
        (σ.ctx.buildHeader (some (.slot index)) type) payload cb with same | built
      · exact .inl same
      · exact .inr ⟨type, payload, .data index type payload live data, built⟩
  | detached live =>
      rcases Node.accept_packet (σ.ctx.nodes index) σ.ctx.tickCount
        PacketType.registrationResponse.code 0#16 (σ.built + 1)
        (σ.ctx.buildHeader (some (.slot index)) PacketType.registrationResponse.code)
        (detachResponse (σ.ctx.nodes index).uuid).bytes none with same | built
      · exact .inl same
      · exact .inr ⟨_, _, .detachment index live, built⟩
  | ackDue timers => exact .inl (Node.despatchAck_packet _ _)
  | validityDue timers => exact .inl (Node.despatchValidity_packet _ _)
  | heard | acked | registered | expired => exact .inl ⟨rfl, rfl⟩

/-- The payload is the response to a request that is registered between the two states, in the slot
it is given. -/
def Enrolls (σ τ : Mac) (payload : List Byte) : Prop :=
  ∃ attach : RegistrationRequest, payload = (σ.ctx.registrationResponse attach).bytes ∧
    ∀ index, σ.ctx.registrationSlot attach.uuid = some index →
      τ.ctx.nodes index = (σ.ctx.nodes index).register attach σ.ctx.tickCount

/-- The events an operation of a coordinator logs between two states. -/
inductive OpEvent (ok : Condition) (σ τ : Mac) : Event → Prop where
  | silent (event : Event) (is : event.silent) : OpEvent ok σ τ event
  | gone (index : Slot) : OpEvent ok σ τ (.deregCb (.slot index))
  | beacon (periodic : Bool) (flags : BitVec 8) (timers : periodic = true → ok.timers) :
      OpEvent ok σ τ (.phySend none ⟨σ.ctx.beaconHeader, (σ.ctx.beacon periodic).bytes⟩ flags)
  | ackFrame (index : Slot) (seq : BitVec 8) (live : (σ.ctx.nodes index).live = true) :
      OpEvent ok σ τ (.phySend none ⟨σ.ctx.ackHeader (σ.ctx.nodes index) seq, []⟩ 0#8)
  | built (dest : Option NodePtr) (type : BitVec 8) (payload : List Byte)
      (packet : Packet σ.ctx dest type payload) (counted : τ.built = σ.built + 1)
      (enrolled : dest = none → Enrolls σ τ payload) :
      OpEvent ok σ τ (.phySend (some (σ.built + 1)) ⟨σ.ctx.buildHeader dest type, payload⟩ 0#8)
  | called (dest : Option NodePtr) (type : BitVec 8) (payload : List Byte)
      (packet : Packet σ.ctx dest type payload) (counted : τ.built = σ.built + 1)
      (flags : BitVec 16) (cb : Option SendCb) (accepted : Bool) (rc : Int)
      (refused : accepted = false → rc = -1) (unicast : cb.isSome = true → dest.isSome = true) :
      OpEvent ok σ τ (.txPacket
        ⟨σ.built + 1, dest, flags, σ.ctx.buildHeader dest type, payload, cb, accepted, rc⟩)
  | released (index : Slot) (pending : (σ.ctx.nodes index).state = .sendPending) :
      OpEvent ok σ τ (.phySend (some (σ.ctx.nodes index).pendingId)
        ⟨(σ.ctx.nodes index).pendingHeader, (σ.ctx.nodes index).pending⟩ 0#8)
  | retried (index : Slot) (armed : (σ.ctx.nodes index).ackTimer.armed = true) :
      OpEvent ok σ τ (.phySend (some (σ.ctx.nodes index).pendingId)
        ⟨(σ.ctx.nodes index).pendingHeader, (σ.ctx.nodes index).pending⟩ 0#8)
  | assumed (index : Slot) (cb : SendCb) (pending : (σ.ctx.nodes index).state = .sendPending)
      (plain : (σ.ctx.nodes index).pendingHeader.ackRequest = false) :
      OpEvent ok σ τ (.sendCb (.slot index) (σ.ctx.nodes index).pendingId cb 0)
  | acked (index : Slot) (cb : SendCb) (hdr : Header) (heard : ok.ack index hdr)
      (waiting : (σ.ctx.nodes index).state = .waitAck)
      (same : hdr.seq = (σ.ctx.nodes index).pendingHeader.seq) :
      OpEvent ok σ τ (.sendCb (.slot index) (σ.ctx.nodes index).pendingId cb 0)
  | failed (index : Slot) (cb : SendCb) :
      OpEvent ok σ τ (.sendCb (.slot index) (σ.ctx.nodes index).pendingId cb (-1))

section Emits

variable {ok : Condition}

theorem OpEvent.standby {σ τ : Mac} (event : Event) (is : event.standby) : OpEvent ok σ τ event :=
  .silent event (Event.silent_of_standby is)

theorem txPacket_opEvents (σ τ : Mac) (ptr : NodePtr) (type : BitVec 8) (payload : List Byte)
    (validity : BitVec 16) (cb : Option SendCb) (packet : Packet σ.ctx (some ptr) type payload)
    (counted : τ.built = (tinymacTxPacket σ (some ptr) type payload validity cb).2.built) :
    Emits (OpEvent ok σ τ) σ (tinymacTxPacket σ (some ptr) type payload validity cb).2 := by
  rw [txPacket_built] at counted
  refine txPacket_emits σ (some ptr) type payload validity cb .standby (fun fits => ?_)
    fun fits => ?_
  · rw [if_pos fits] at counted
    exact .built (some ptr) type payload packet counted nofun
  · rw [if_pos fits] at counted
    exact fun flags accepted rc refused =>
      .called (some ptr) type payload packet counted flags cb accepted rc refused fun _ => rfl

@[simp] theorem registerSlot_out (σ : Mac) (attach : RegistrationRequest) :
    (σ.registerSlot attach).out = σ.out := by
  unfold Mac.registerSlot
  split <;> rfl

@[simp] theorem registerSlot_built (σ : Mac) (attach : RegistrationRequest) :
    (σ.registerSlot attach).built = σ.built := by
  unfold Mac.registerSlot
  split <;> rfl

theorem registerSlot_buildHeader (σ : Mac) (attach : RegistrationRequest) (type : BitVec 8) :
    (σ.registerSlot attach).ctx.buildHeader none type = σ.ctx.buildHeader none type := by
  unfold Mac.registerSlot
  split <;> rfl

theorem respond_opEvents (σ : Mac) (attach : RegistrationRequest) :
    let τ := (σ.registerSlot attach).respond (σ.ctx.registrationResponse attach)
    Emits (OpEvent ok σ τ) σ τ := by
  intro τ
  have packet : Packet σ.ctx none _ _ := .response attach
  have counted (fits : (σ.registerSlot attach).ctx.fits
      (σ.ctx.registrationResponse attach).bytes) : τ.built = σ.built + 1 := by
    show (tinymacTxPacket _ _ _ _ _ _).2.built = _
    rw [txPacket_built, if_pos fits, registerSlot_built]
  have enrolled (fits : (σ.registerSlot attach).ctx.fits
      (σ.ctx.registrationResponse attach).bytes) :
      Enrolls σ τ (σ.ctx.registrationResponse attach).bytes := by
    refine ⟨attach, rfl, fun index given => ?_⟩
    show (tinymacTxPacket _ _ _ _ _ _).2.ctx.nodes index = _
    rw [txPacket_broadcast_ctx _ _ _ _ _ fits, Ctx.nextSeq_nodes]
    simp only [Mac.registerSlot, given, mac_modify_ctx, modify_slot_nodes_self]
  refine Emits.trans (.of_out_eq (registerSlot_out σ attach))
    (txPacket_emits _ none _ _ 0#16 none .standby (fun fits => ?_)
      fun fits flags accepted rc refused => ?_)
  · rw [registerSlot_buildHeader, registerSlot_built]
    exact .built none _ _ packet (counted fits) fun _ => enrolled fits
  · rw [registerSlot_buildHeader, registerSlot_built]
    exact .called none _ _ packet (counted fits) flags none accepted rc refused nofun

/-- **Every event an operation logs is one of `OpEvent`.** -/
theorem Op.emits {σ τ : Mac} (op : Op ok σ τ) (coordinator : Coordinator σ.ctx) :
    Emits (OpEvent ok σ τ) σ τ := by
  cases op with
  | event event silent => exact emit_emits σ (.silent event silent)
  | clock | setting => exact .of_out_eq rfl
  | beacon periodic timers =>
      exact txBeacon_emits σ periodic .standby fun flags => .beacon periodic flags timers
  | hear index rssi live => exact .of_out_eq rfl
  | ackFrame index seq live => exact phySend_emits σ _ _ _ .standby (.ackFrame index seq live)
  | release index =>
      exact txPending_emits σ (.slot index) .standby (fun pending => .released index pending)
        fun cb pending plain _ => .assumed index cb pending plain
  | acked index hdr heard =>
      exact rxAck_emits σ (.slot index) slot_kept hdr fun cb waiting same =>
        .acked index cb hdr heard waiting same
  | send index type buf validity cb live data =>
      exact txPacket_opEvents σ _ _ type buf validity cb (.data index type buf live data) rfl
  | register attach fresh => exact respond_opEvents σ attach
  | expel hdr =>
      rw [tinymacRecvUnknown, if_pos coordinator.role]
      exact txPacket_opEvents σ _ _ _ _ _ _ (.expulsion hdr.srcAddr) rfl
  | detach index live =>
      exact (txPacket_opEvents σ _ _ _ _ _ _ (.detachment index live) (deregister_built ..)).trans
        (deregister_emits _ _ (.gone index))
  | heartbeat index expired => exact deregister_emits _ _ (.gone index)
  | ackDue index timers =>
      exact despatchAck_emits σ (.slot index) slot_kept .standby (fun armed => .retried index armed)
        (fun cb => .failed index cb) (.gone index)
  | validityDue index timers =>
      exact despatchValidity_emits σ (.slot index) slot_kept fun cb _ => .failed index cb

/-- Operations forget nothing of the log. -/
theorem Ops.grows {σ τ : Mac} (ops : Ops ok σ τ) (coordinator : Coordinator σ.ctx) :
    Emits (fun _ => True) σ τ :=
  (ops.preserve (P := fun τ => Emits (fun _ => True) σ τ) coordinator
    (fun coordinator grown op => grown.trans ((op.emits coordinator).mono fun _ _ => trivial))
    (.refl σ)).2

/-- What hearing a frame logs: an acknowledgement, and the release of what waits for its source. -/
theorem hear_emits {P : Event → Prop} {σ : Mac} (role : σ.ctx.params.coordinator = true)
    (hdr : Header) (rssi : Int) (standby : ∀ event, event.standby → P event)
    (acked : ∀ index, P (.phySend none ⟨σ.ctx.ackHeader (σ.ctx.nodes index) hdr.seq, []⟩ 0#8))
    (sent : ∀ index, (σ.ctx.nodes index).state = .sendPending →
      P (.phySend (some (σ.ctx.nodes index).pendingId) (σ.ctx.nodes index).packet 0#8))
    (completed : ∀ index cb, (σ.ctx.nodes index).addr = hdr.srcAddr →
      (σ.ctx.nodes index).state = .sendPending →
      (σ.ctx.nodes index).pendingHeader.ackRequest = false →
      P (.sendCb (.slot index) (σ.ctx.nodes index).pendingId cb 0)) :
    Emits P σ (σ.hear hdr rssi) := by
  have quiet : Emits P σ (tinymacRecvStandby σ hdr) := recvStandby_emits σ hdr standby
  unfold Mac.hear
  dsimp only
  split
  · exact quiet
  · rw [recvStandby_ctx]
    split
    · next ptr found =>
      obtain ⟨index, rfl, source, -⟩ := getNodeByAddr_coordinator role found
      refine quiet.trans (recvKnown_emits _ (.slot index) slot_kept hdr rssi standby ?_ ?_ ?_)
      · rw [recvStandby_ctx]
        exact fun _ => acked index
      · rw [recvStandby_ctx]
        exact sent index
      · rw [recvStandby_ctx]
        exact fun cb => completed index cb source
    · exact quiet

end Emits

end TinyHan.Tinymac
