/-
**What a call into the MAC does**, in either role.

A node record holds a packet of `tinymac_tx_packet` and may send it again; what its state, its ack
timer and its retry counter still allow is its allowance. `Mac.Act` lists what happens in between: a
write outside the records, a write to a record that keeps its packet and allows no more than before,
a transmission that the record pays for, a new packet, a callback, and an event without a packet.
Every function of the MAC is a sequence of these, for any input (`step_acts`), so what one of them
preserves holds along every run.
-/

import TinyHan.Lib.Courier
import TinyHan.Mac.Reception

namespace TinyHan.Tinymac

open TinyHan.Lib Relation

/-! ### Records and what they allow -/

/-- How often a record may still send the packet it holds. -/
def Node.allowance (node : Node) : Nat :=
  if node.state = .sendPending then node.retries.toNat + 1
  else if node.ackTimer.armed then node.retries.toNat
  else 0

/-- The packet a record holds. -/
def Node.parcel (node : Node) : Parcel Frame :=
  ⟨node.pendingId, ⟨node.pendingHeader, node.pending⟩, node.allowance⟩

/-- The records that outlive a call: the coordinator record of a client, and the slots. -/
def recordPtr : Option Slot → NodePtr
  | none => .coord
  | some index => .slot index

theorem recordPtr_kept (holder : Option Slot) (node : Node) : recordPtr holder ≠ .temp node := by
  cases holder <;> nofun

theorem exists_recordPtr {ptr : NodePtr} (kept : ∀ node, ptr ≠ .temp node) :
    ∃ holder, ptr = recordPtr holder := by
  cases ptr with
  | coord => exact ⟨none, rfl⟩
  | slot index => exact ⟨some index, rfl⟩
  | temp node => exact absurd rfl (kept node)

/-! ### What a write does to the allowance of a record -/

/-- The record keeps its packet and may lose some of its allowance. -/
structure Node.Lapses (before after : Node) : Prop where
  packet : after.parcel = { before.parcel with allowance := after.allowance }
  less : after.allowance ≤ before.allowance

section Records

variable (node : Node)

/-- A state without a packet that waits for a poll allows no more than before. -/
theorem allowance_setState_le {state : NodeState} (idle : state ≠ .sendPending) :
    (node.setState state).allowance ≤ node.allowance := by
  simp only [Node.allowance, Node.setState_state, Node.setState_ackTimer, Node.setState_retries,
    if_neg idle]
  split_ifs <;> omega

/-- A record in no such state and with its ack timer off allows nothing. -/
theorem Node.Lapses.of_off {before after : Node}
    (packet : after.parcel = { before.parcel with allowance := after.allowance })
    (idle : after.state ≠ .sendPending) (off : after.ackTimer.armed = false) :
    before.Lapses after := by
  refine ⟨packet, ?_⟩
  have none : after.allowance = 0 := by simp [Node.allowance, idle, off]
  rw [none]
  exact Nat.zero_le _

theorem Node.Lapses.unregister : node.Lapses (node.setState .unregistered) :=
  ⟨rfl, allowance_setState_le node nofun⟩

theorem Node.Lapses.register (attach : RegistrationRequest) (now : BitVec 32) :
    node.Lapses (node.register attach now) :=
  ⟨rfl, @allowance_setState_le node .registered nofun⟩

theorem Node.Lapses.acked :
    node.Lapses (((node.setState .registered).cancelAck).cancelValidity) :=
  .of_off rfl (by simp) rfl

theorem Node.Lapses.invalid :
    node.Lapses (((node.cancelValidity).setState .registered).cancelAck) :=
  .of_off rfl (by simp) rfl

/-- A record without retries left: the counter wraps, and allows nothing. -/
theorem Node.Lapses.exhausted :
    node.Lapses (((node.cancelAck.countRetry).cancelValidity).setState .unregistered) :=
  .of_off rfl (by simp) rfl

section Retry

variable (armed : node.ackTimer.armed = true) (some : node.retries ≠ 0#8)

include armed some

/-- A retry that waits for a poll. -/
theorem Node.Lapses.deferred :
    node.Lapses ((node.cancelAck.countRetry).setState .sendPending) := by
  refine ⟨rfl, ?_⟩
  simp only [Node.allowance, Node.setState_state, Node.setState_retries, armed, if_true,
    Node.countRetry_retries, Node.cancelAck_retries]
  split <;> bv_omega

/-- A retry that is sent. -/
theorem allowance_retried_lt (now : BitVec 32) :
    ((node.cancelAck.countRetry).armAck now).allowance < node.allowance := by
  simp only [Node.allowance, Node.armAck_state, Node.countRetry_state, Node.cancelAck_state,
    Node.armAck_retries, Node.countRetry_retries, Node.cancelAck_retries, Node.armAck_ackTimer,
    set_armed, armed, if_true]
  split <;> bv_omega

end Retry

theorem parcel_retried (now : BitVec 32) :
    ((node.cancelAck.countRetry).armAck now).parcel =
      { node.parcel with allowance := ((node.cancelAck.countRetry).armAck now).allowance } := rfl

end Records

/-! ### The acts of a context -/

/-- The events that concern no packet of `tinymac_tx_packet`. A frame without a packet fits the
smallest MTU. -/
def Event.aside : Event → Prop
  | .phySend packet frame _ => packet = none ∧ frame.payload.length ≤ 56
  | .txPacket _ => False
  | .sendCb _ _ _ _ => False
  | _ => True

/-- What happens to a context between two looks at it. -/
inductive Mac.Act : Mac → Mac → Prop
  | write (σ : Mac) (change : Ctx → Ctx)
      (same : ∀ holder, (change σ.ctx).node (recordPtr holder) = σ.ctx.node (recordPtr holder))
      (mtu : (change σ.ctx).phyMtu = σ.ctx.phyMtu) : σ.Act (σ.update change)
  | log (σ : Mac) (event : Event) (aside : event.aside) : σ.Act (σ.emit event)
  | lapse (σ : Mac) (holder : Option Slot) (change : Node → Node)
      (lapses : (σ.ctx.node (recordPtr holder)).Lapses (change (σ.ctx.node (recordPtr holder)))) :
      σ.Act (σ.modify (recordPtr holder) change)
  /-- A record sends the packet it holds, and its allowance goes down. -/
  | resend (σ : Mac) (holder : Option Slot) (change : Node → Node)
      (packet : (change (σ.ctx.node (recordPtr holder))).parcel =
        { (σ.ctx.node (recordPtr holder)).parcel with
          allowance := (change (σ.ctx.node (recordPtr holder))).allowance })
      (less : (change (σ.ctx.node (recordPtr holder))).allowance <
        (σ.ctx.node (recordPtr holder)).allowance) (flags : BitVec 8) :
      σ.Act (tinymacPhySend (σ.modify (recordPtr holder) change)
        (some (σ.ctx.node (recordPtr holder)).pendingId)
        ⟨(σ.ctx.node (recordPtr holder)).pendingHeader,
          (σ.ctx.node (recordPtr holder)).pending⟩ flags).2
  | broadcast (σ : Mac) (flagsType : BitVec 8) (buf : List Byte) (validity : BitVec 16)
      (cb : Option SendCb) : σ.Act (tinymacTxPacket σ none flagsType buf validity cb).2
  | unicast (σ : Mac) (holder : Option Slot) (flagsType : BitVec 8) (buf : List Byte)
      (validity : BitVec 16) (cb : Option SendCb) :
      σ.Act (tinymacTxPacket σ (some (recordPtr holder)) flagsType buf validity cb).2
  /-- The answer to a node without a record, through a temporary one. -/
  | refuse (σ : Mac) (hdr : Header) : σ.Act (tinymacRecvUnknown σ hdr)
  | report (σ : Mac) (holder : Option Slot) (result : Int) :
      σ.Act (σ.invokeSendCb (recordPtr holder) result)
  /-- A record without retries left. The counter wraps before the state is written. -/
  | exhaust (σ : Mac) (holder : Option Slot) :
      σ.Act (tinymacDeregisterNode ((σ.modify (recordPtr holder) fun node =>
        (node.cancelAck.countRetry).cancelValidity).invokeSendCb (recordPtr holder) (-1))
        (recordPtr holder))

/-- A sequence of acts. -/
def Mac.Acts : Mac → Mac → Prop := ReflTransGen Mac.Act

section Acts

variable {σ τ υ : Mac}

theorem Mac.Acts.refl (σ : Mac) : σ.Acts σ := ReflTransGen.refl

theorem Mac.Acts.trans (one : σ.Acts τ) (two : τ.Acts υ) : σ.Acts υ := ReflTransGen.trans one two

theorem Mac.Act.acts (act : σ.Act τ) : σ.Acts τ := ReflTransGen.single act

theorem Mac.Acts.update (acts : σ.Acts τ) (change : Ctx → Ctx)
    (same : ∀ holder, (change τ.ctx).node (recordPtr holder) = τ.ctx.node (recordPtr holder))
    (mtu : (change τ.ctx).phyMtu = τ.ctx.phyMtu) : σ.Acts (τ.update change) :=
  acts.trans (Mac.Act.write τ change same mtu).acts

theorem Mac.Acts.emit (acts : σ.Acts τ) {event : Event} (aside : event.aside) :
    σ.Acts (τ.emit event) :=
  acts.trans (Mac.Act.log τ event aside).acts

end Acts

/-! ### The acts of each function -/

section Functions

variable (σ : Mac) (holder : Option Slot)

theorem phySend_acts (frame : Frame) (short : frame.payload.length ≤ 56) (flags : BitVec 8) :
    σ.Acts (tinymacPhySend σ none frame flags).2 := by
  unfold tinymacPhySend
  dsimp only
  have sent : σ.Acts (σ.emit (.phySend none frame flags)) :=
    (Mac.Acts.refl σ).emit ⟨rfl, short⟩
  split
  · refine sent.emit ?_
    split <;> trivial
  · exact sent

/-- What waits for a node goes out when the node calls in. -/
theorem txPending_acts : σ.Acts (tinymacTxPending σ (recordPtr holder)) := by
  by_cases pending : (σ.ctx.node (recordPtr holder)).state = .sendPending
  · have allowed : (σ.ctx.node (recordPtr holder)).allowance =
        (σ.ctx.node (recordPtr holder)).retries.toNat + 1 := by
      rw [Node.allowance, if_pos pending]
    cases ack : (σ.ctx.node (recordPtr holder)).pendingHeader.ackRequest
    · rw [txPending_plain σ _ pending ack]
      refine Mac.Acts.trans
        (Mac.Act.resend σ holder (fun node => node.setState .registered) rfl ?_ 0#8).acts ?_
      · rw [allowed]
        simp only [Node.allowance, Node.setState_state, Node.setState_ackTimer,
          Node.setState_retries, reduceCtorEq, if_false]
        split <;> omega
      · refine Mac.Acts.trans
          (Mac.Act.lapse _ holder (fun node => node.cancelValidity) ⟨rfl, le_rfl⟩).acts ?_
        exact (Mac.Act.report _ holder 0).acts
    · rw [txPending_ack σ _ pending ack]
      refine (Mac.Act.resend σ holder _ rfl ?_ 0#8).acts
      rw [allowed]
      simp [Node.allowance]
  · rw [txPending_idle σ _ pending]
    exact .refl σ

theorem txAck_acts (seq : BitVec 8) : σ.Acts (tinymacTxAck σ (recordPtr holder) seq) := by
  unfold tinymacTxAck
  dsimp only
  have answered (hdr : Header) : σ.Acts (tinymacPhySend σ none ⟨hdr, []⟩ 0#8).2 :=
    phySend_acts σ ⟨hdr, []⟩ (Nat.zero_le _) 0#8
  split
  · exact answered _
  · exact (answered _).trans (txPending_acts _ holder)

/-- A beacon that names every slot fits the smallest MTU. -/
theorem beacon_short (ctx : Ctx) (periodic : Bool) : (ctx.beacon periodic).bytes.length ≤ 56 := by
  have listed : ctx.pendingAddrs.length ≤ 32 := by
    refine (List.length_filterMap_le _ slots).trans ?_
    simp [slots]
  rw [Beacon.bytes_length, Ctx.beacon, beaconSize]
  dsimp only
  split
  · omega
  · decide

theorem txBeacon_acts (periodic : Bool) : σ.Acts (tinymacTxBeacon σ periodic) := by
  unfold tinymacTxBeacon
  split
  · exact .refl σ
  · refine Mac.Acts.trans ((Mac.Acts.refl σ).update Ctx.nextBeacon (fun holder => ?_) rfl)
      (phySend_acts _ _ (beacon_short σ.ctx periodic) _)
    cases holder <;> rfl

theorem deregister_acts : σ.Acts (tinymacDeregisterNode σ (recordPtr holder)) := by
  have written := (Mac.Act.lapse σ holder (fun node => node.setState .unregistered)
    (.unregister _)).acts
  have detached := written.update Ctx.detach (fun holder => by cases holder <;> rfl) rfl
  unfold tinymacDeregisterNode
  dsimp only
  split
  · split
    · exact detached.emit trivial
    · exact detached
  · split
    · exact written.emit trivial
    · exact written

/-- **The ack timer of a record.** A retry pays for its transmission or its deferral; a record
without retries left is Unregistered with the timer off, so that the counter that wraps allows
nothing. -/
theorem despatchAck_acts : σ.Acts (tinymacDespatchTimer σ (.ack (recordPtr holder))) := by
  unfold tinymacDespatchTimer
  split
  case isFalse => exact .refl σ
  case isTrue due =>
    have armed : (σ.ctx.node (recordPtr holder)).ackTimer.armed = true := armed_of_due due
    simp only [Mac.timerCallback, Mac.clearTimer, tinymacAckTimeout, mac_node, mac_modify_ctx,
      modify_node _ _ _ (recordPtr_kept holder), modify_tickCount, mac_modify_modify]
    split
    · next some =>
      split
      · exact (Mac.Act.lapse σ holder
          (fun node => (node.cancelAck.countRetry).setState .sendPending)
          (.deferred _ armed some)).acts
      · exact (Mac.Act.resend σ holder
          (fun node => (node.cancelAck.countRetry).armAck σ.ctx.tickCount)
          (parcel_retried _ _) (allowance_retried_lt _ armed some _) 0#8).acts
    · exact (Mac.Act.exhaust σ holder).acts

/-- The validity timer of a record: the packet is given up. -/
theorem despatchValidity_acts :
    σ.Acts (tinymacDespatchTimer σ (.validity (recordPtr holder))) := by
  unfold tinymacDespatchTimer
  split
  case isFalse => exact .refl σ
  case isTrue due =>
    simp only [Mac.timerCallback, Mac.clearTimer, tinymacValidityTimeout, mac_modify_modify]
    exact Mac.Acts.trans (Mac.Act.lapse σ holder
      (fun node => ((node.cancelValidity).setState .registered).cancelAck) (.invalid _)).acts
      (Mac.Act.report _ holder (-1)).acts

theorem despatchRequest_acts : σ.Acts (tinymacDespatchTimer σ .request) := by
  have cancelled : σ.Acts (σ.update Ctx.cancelRequest) :=
    (Mac.Acts.refl σ).update _ (fun holder => by cases holder <;> rfl) rfl
  unfold tinymacDespatchTimer
  split
  · unfold Mac.timerCallback Mac.clearTimer tinymacRequestTimeout
    dsimp only
    split
    · exact cancelled.trans (deregister_acts _ none)
    · exact cancelled
  · exact .refl σ

/-! ### Frames, ticks and sends -/

theorem recvStandby_acts (hdr : Header) : σ.Acts (tinymacRecvStandby σ hdr) := by
  unfold tinymacRecvStandby
  split
  · refine (Mac.Acts.refl σ).emit ?_
    split <;> trivial
  · exact .refl σ

theorem recvKnown_acts (hdr : Header) (rssi : Int) :
    σ.Acts (tinymacRecvKnown σ (recordPtr holder) hdr rssi) := by
  have heard := (Mac.Act.lapse σ holder (fun node => node.heard σ.ctx.tickCount rssi)
    ⟨rfl, le_rfl⟩).acts
  unfold tinymacRecvKnown
  dsimp only
  refine Mac.Acts.trans ?_ (txPending_acts _ holder)
  split
  · exact heard.trans (txAck_acts _ holder _)
  · exact heard

theorem rxAck_acts (node : Option NodePtr) (kept : ∀ ptr ∈ node, ∃ holder, ptr = recordPtr holder)
    (hdr : Header) : σ.Acts (tinymacRxAck σ node hdr) := by
  cases node with
  | none => exact .refl σ
  | some ptr =>
      obtain ⟨holder, rfl⟩ := kept ptr rfl
      unfold tinymacRxAck
      dsimp only
      split
      · exact Mac.Acts.trans (Mac.Act.lapse σ holder
          (fun node => ((node.setState .registered).cancelAck).cancelValidity) (.acked _)).acts
          (Mac.Act.report _ holder 0).acts
      · exact .refl σ

theorem getNodeByAddr_record {ctx : Ctx} {addr : BitVec 8} {ptr : NodePtr}
    (found : tinymacGetNodeByAddr ctx addr = some ptr) : ∃ holder, ptr = recordPtr holder :=
  exists_recordPtr (getNodeByAddr_sound found).1.kept

/-- A beacon binds a client to its sender over the record it has, whose packet it may still
hold. -/
theorem bind_acts (hdr : Header) (uuid : BitVec 64) :
    σ.Acts (σ.update fun ctx => ctx.bind hdr uuid) := by
  let bound (node : Node) : Node := { node with
    state := .registered
    addr := hdr.srcAddr
    uuid := uuid
    flags := 0#16
    lastHeard := σ.ctx.tickCount }
  have lapsed : σ.Acts (σ.modify (recordPtr none) bound) := by
    refine (Mac.Act.lapse σ none bound ⟨rfl, ?_⟩).acts
    simp only [Node.allowance, bound, reduceCtorEq, if_false]
    split_ifs <;> omega
  exact lapsed.update (fun _ => σ.ctx.bind hdr uuid) (fun holder => by cases holder <;> rfl) rfl

/-- A write to the fields of a context that are not node records. -/
theorem fields_acts {τ : Mac} (acts : σ.Acts τ) (change : Ctx → Ctx)
    (same : ∀ ctx, (change ctx).coord = ctx.coord ∧ (change ctx).nodes = ctx.nodes ∧
      (change ctx).phyMtu = ctx.phyMtu) : σ.Acts (τ.update change) := by
  obtain ⟨coord, nodes, mtu⟩ := same τ.ctx
  refine acts.update change (fun holder => ?_) mtu
  cases holder with
  | none => exact coord
  | some index => exact congrFun nodes index

theorem rxBeacon_acts (hdr : Header) (buf : Memory) (size : Nat) :
    σ.Acts (tinymacRxBeacon σ hdr buf size) := by
  unfold tinymacRxBeacon
  refine iteInduction (fun _ => .refl σ) fun _ => ?_
  dsimp only
  have cancelled : σ.Acts
      (if σ.ctx.state = .beaconRequest then σ.update Ctx.cancelRequest else σ) := by
    split
    · exact fields_acts σ (.refl σ) _ fun _ => ⟨rfl, rfl, rfl⟩
    · exact .refl σ
  generalize (if σ.ctx.state = .beaconRequest then σ.update Ctx.cancelRequest else σ) = τ
    at cancelled
  have joins (τ : Mac) (acts : σ.Acts τ) (uuid : BitVec 64) (attach : List Byte) : σ.Acts
      ((tinymacTxPacket (τ.update fun ctx => ctx.bind hdr uuid) (some .coord)
        PacketType.registrationRequest.code attach 0#16 none).2.update
          fun ctx => ctx.armRequest (millis registrationTimeout)) := by
    refine fields_acts σ ?_ _ fun _ => ⟨rfl, rfl, rfl⟩
    exact (acts.trans (bind_acts τ hdr uuid)).trans (Mac.Act.unicast _ none _ _ _ _).acts
  split
  · exact iteInduction (fun _ => joins τ cancelled _ _) fun _ => cancelled
  · exact iteInduction (fun _ => joins τ cancelled _ _) fun _ => cancelled
  · exact iteInduction (fun _ => cancelled.trans (Mac.Act.unicast _ none _ _ _ _).acts)
      fun _ => cancelled
  · exact cancelled

theorem rxRegistrationResponse_acts (hdr : Header) (buf : Memory) :
    σ.Acts (tinymacRxRegistrationResponse σ hdr buf) := by
  have detached {τ : Mac} (acts : σ.Acts τ) : σ.Acts (τ.update Ctx.detach) :=
    fields_acts σ acts _ fun _ => ⟨rfl, rfl, rfl⟩
  have cancelled : σ.Acts
      (if σ.ctx.state = .registering then σ.update Ctx.cancelRequest else σ) :=
    iteInduction (fun _ => fields_acts σ (.refl σ) _ fun _ => ⟨rfl, rfl, rfl⟩) fun _ => .refl σ
  unfold tinymacRxRegistrationResponse
  refine iteInduction (fun _ => .refl σ) fun _ => ?_
  refine iteInduction (fun _ => ?_) fun _ => ?_
  · exact iteInduction (fun _ => .refl σ) fun _ => detached (.refl σ)
  · refine iteInduction (fun _ => detached cancelled) fun _ => ?_
    refine iteInduction (fun _ => ?_) fun _ => cancelled
    exact fields_acts σ cancelled _ fun _ => ⟨rfl, rfl, rfl⟩

theorem rxRegistrationRequest_acts (buf : Memory) :
    σ.Acts (tinymacRxRegistrationRequest σ buf) := by
  have announced (τ : Mac) (acts : σ.Acts τ) (resp : List Byte) (ptr : Option NodePtr) :
      let answered := (tinymacTxPacket τ none PacketType.registrationResponse.code resp 0#16 none).2
      σ.Acts (if answered.ctx.regCb then answered.emit (.regCb ptr) else answered) := by
    intro answered
    have acts := acts.trans (Mac.Act.broadcast τ PacketType.registrationResponse.code resp
      0#16 none).acts
    split
    · exact acts.emit trivial
    · exact acts
  unfold tinymacRxRegistrationRequest
  refine iteInduction (fun _ => .refl σ) fun _ => ?_
  dsimp only
  cases σ.ctx.registrationSlot (readRegistrationRequest buf).uuid with
  | none => exact announced σ (.refl σ) _ _
  | some index =>
      exact announced _ (Mac.Act.lapse σ (some index)
        (fun node => node.register (readRegistrationRequest buf) σ.ctx.tickCount)
        (.register _ _ _)).acts _ _

theorem rxDeregistrationRequest_acts (hdr : Header) (buf : Memory) :
    σ.Acts (tinymacRxDeregistrationRequest σ hdr buf) := by
  unfold tinymacRxDeregistrationRequest
  refine iteInduction (fun _ => .refl σ) fun _ => ?_
  dsimp only
  cases found : tinymacGetNodeByAddr σ.ctx hdr.srcAddr with
  | none => exact .refl σ
  | some ptr =>
      obtain ⟨holder, rfl⟩ := getNodeByAddr_record found
      refine iteInduction (fun _ => .refl σ) fun _ => ?_
      exact (Mac.Act.unicast σ holder _ _ _ _).acts.trans (deregister_acts _ holder)

theorem recvControl_acts (type : PacketType) (node : Option NodePtr)
    (kept : ∀ ptr ∈ node, ∃ holder, ptr = recordPtr holder) (hdr : Header) (buf : Memory)
    (size : Nat) : σ.Acts (tinymacRecvControl σ type node hdr buf size) := by
  unfold tinymacRecvControl
  cases type with
  | beacon => exact iteInduction (fun _ => .refl σ) fun _ => rxBeacon_acts σ hdr buf size
  | ack => exact rxAck_acts σ node kept hdr
  | poll => exact .refl σ
  | beaconRequest => exact txBeacon_acts σ false
  | registrationRequest =>
      exact iteInduction (fun _ => .refl σ) fun _ => rxRegistrationRequest_acts σ buf
  | deregistrationRequest =>
      exact iteInduction (fun _ => .refl σ) fun _ => rxDeregistrationRequest_acts σ hdr buf
  | registrationResponse =>
      exact iteInduction (fun _ => .refl σ) fun _ => rxRegistrationResponse_acts σ hdr buf

theorem recvType_acts (node : Option NodePtr)
    (kept : ∀ ptr ∈ node, ∃ holder, ptr = recordPtr holder) (hdr : Header) (buf : Memory)
    (size : Nat) : σ.Acts (tinymacRecvType σ node hdr buf size) := by
  unfold tinymacRecvType
  refine iteInduction (fun _ => ?_) fun _ => ?_
  · split
    · exact (Mac.Acts.refl σ).emit trivial
    · exact .refl σ
  · split
    · exact recvControl_acts σ _ node kept hdr buf size
    · exact .refl σ

/-- **A frame of any content** is a sequence of acts. -/
theorem recv_acts (buf : Memory) (size : Nat) (rssi : Int) :
    σ.Acts (tinymacRecvCb σ buf size rssi) := by
  have standby := recvStandby_acts σ (readHeader buf)
  unfold tinymacRecvCb
  refine iteInduction (fun _ => ?_) fun _ => .refl σ
  refine iteInduction (fun _ => ?_) fun _ => ?_
  · cases found : tinymacGetNodeByAddr (tinymacRecvStandby σ (readHeader buf)).ctx
        (readHeader buf).srcAddr with
    | none => exact standby.trans (Mac.Act.refuse _ _).acts
    | some ptr =>
        obtain ⟨holder, rfl⟩ := getNodeByAddr_record found
        refine (standby.trans (recvKnown_acts _ holder _ rssi)).trans
          (recvType_acts _ _ (fun ptr is => ?_) _ buf size)
        exact ⟨holder, (Option.some.inj is).symm⟩
  · exact standby.trans (recvType_acts _ none nofun _ buf size)

theorem tickSlot_acts (index : Slot) : σ.Acts (tickSlot σ index) := by
  have checked (τ : Mac) : τ.Acts (tinymacDespatchTimer
      (tinymacDespatchTimer τ (.ack (.slot index))) (.validity (.slot index))) :=
    (despatchAck_acts τ (some index)).trans (despatchValidity_acts _ (some index))
  unfold tickSlot
  dsimp only
  refine Mac.Acts.trans ?_ (checked _)
  split
  · exact deregister_acts σ (some index)
  · exact .refl σ

/-- The loop over the slots, by induction on those that are left. -/
theorem foldl_tickSlot_acts (rest : List Slot) : σ.Acts (rest.foldl tickSlot σ) := by
  induction rest generalizing σ with
  | nil => exact .refl σ
  | cons index rest ih => exact (tickSlot_acts σ index).trans (ih _)

theorem tickCoordinator_acts : σ.Acts (tickCoordinator σ) := by
  have slotted : σ.Acts (σ.update Ctx.nextSlot) :=
    fields_acts σ (.refl σ) _ fun _ => ⟨rfl, rfl, rfl⟩
  unfold tickCoordinator
  dsimp only
  refine Mac.Acts.trans ?_ (foldl_tickSlot_acts _ slots)
  split
  · exact slotted.trans (txBeacon_acts _ true)
  · exact slotted

theorem tickClient_acts : σ.Acts (tickClient σ) := by
  have timers (τ : Mac) : τ.Acts (tinymacDespatchTimer (tinymacDespatchTimer
      (tinymacDespatchTimer τ (.ack .coord)) (.validity .coord)) .request) :=
    ((despatchAck_acts τ none).trans (despatchValidity_acts _ none)).trans
      (despatchRequest_acts _)
  have sought : σ.Acts (σ.update fun ctx => ctx.setState .beaconRequest) :=
    fields_acts σ (.refl σ) _ fun _ => ⟨rfl, rfl, rfl⟩
  unfold tickClient
  dsimp only
  refine Mac.Acts.trans ?_ (timers _)
  split
  · refine fields_acts σ ?_ _ fun _ => ⟨rfl, rfl, rfl⟩
    exact sought.trans (Mac.Act.broadcast _ _ _ _ _).acts
  · exact .refl σ

theorem tick_acts : σ.Acts (tinymacTickHandler σ) := by
  unfold tinymacTickHandler
  dsimp only
  refine fields_acts σ ?_ Ctx.nextTick fun _ => ⟨rfl, rfl, rfl⟩
  split
  · exact tickCoordinator_acts σ
  · exact tickClient_acts σ

theorem send_acts (dest type : BitVec 8) (buf : List Byte) (validity : BitVec 16)
    (cb : Option SendCb) : σ.Acts (tinymacSend σ dest type buf validity cb).2 := by
  unfold tinymacSend
  split
  · exact .refl σ
  · cases found : tinymacGetNodeByAddr σ.ctx dest with
    | none => exact .refl σ
    | some ptr =>
        obtain ⟨holder, rfl⟩ := getNodeByAddr_record found
        exact (Mac.Act.unicast σ holder _ _ _ _).acts

/-! ### Steps -/

/-- **Every step of a context**, in either role, is a sequence of acts. -/
theorem step_acts (input : Input) : σ.Acts (σ.step input) := by
  cases input with
  | recv buf size rssi => exact recv_acts σ buf size rssi
  | tick => exact tick_acts σ
  | send dest type buf validity cb => exact send_acts σ dest type buf validity cb
  | permitAttach permit =>
      exact fields_acts σ (.refl σ) (fun ctx => { ctx with permitAttach := permit })
        fun _ => ⟨rfl, rfl, rfl⟩
  | registerRecvCb cb =>
      exact fields_acts σ (.refl σ) (fun ctx => { ctx with rxCb := cb }) fun _ => ⟨rfl, rfl, rfl⟩
  | registerRegCb cb =>
      exact fields_acts σ (.refl σ) (fun ctx => { ctx with regCb := cb }) fun _ => ⟨rfl, rfl, rfl⟩
  | registerDeregCb cb =>
      exact fields_acts σ (.refl σ) (fun ctx => { ctx with deregCb := cb }) fun _ => ⟨rfl, rfl, rfl⟩

theorem run_acts (inputs : List Input) : σ.Acts (σ.run inputs) := by
  induction inputs generalizing σ with
  | nil => exact .refl σ
  | cons input inputs ih => exact (step_acts σ input).trans (ih _)

end Functions

end TinyHan.Tinymac
