/-
**What an operation does to the node table.**

Every operation of a coordinator writes at most one slot, and `SlotOp` lists what it can make of the
record there (`Op.slot`). An invariant of single records is then one case for each constructor, and
an invariant of the table follows with `Op.table`: only a registration gives a slot a new UUID or
new flags, no operation moves an address, and a slot that is neither live nor has a timer running
stays so until it is registered.
-/

import TinyHan.Coordinator.Ops

namespace TinyHan.Tinymac

open TinyHan.Lib

/-- What an accepted acknowledgement makes of a record. -/
def Node.acked (node : Node) : Node := ((node.setState .registered).cancelAck).cancelValidity

/-- What an operation can make of the record of a slot. -/
inductive SlotOp (ok : Condition) (σ : Mac) (index : Slot) : Node → Prop where
  | heard (rssi : Int) (live : (σ.ctx.nodes index).live = true) :
      SlotOp ok σ index ((σ.ctx.nodes index).heard σ.ctx.tickCount rssi)
  | released : SlotOp ok σ index ((σ.ctx.nodes index).release σ.ctx.tickCount)
  | acked (waiting : (σ.ctx.nodes index).state = .waitAck) :
      SlotOp ok σ index (σ.ctx.nodes index).acked
  | accepted (type : BitVec 8) (validity : BitVec 16) (payload : List Byte)
      (cb : Option SendCb) (live : (σ.ctx.nodes index).live = true)
      (data : typeRawData ≤ type &&& flagsTypeMask.setWidth 8) :
      SlotOp ok σ index ((σ.ctx.nodes index).accept σ.ctx.tickCount type validity (σ.built + 1)
        (σ.ctx.buildHeader (some (.slot index)) type) payload cb)
  | registered (attach : RegistrationRequest)
      (given : σ.ctx.registrationSlot attach.uuid = some index)
      (fresh : ok.register index attach (σ.ctx.nodes index)) :
      SlotOp ok σ index ((σ.ctx.nodes index).register attach σ.ctx.tickCount)
  | detached (live : (σ.ctx.nodes index).live = true) :
      SlotOp ok σ index (((σ.ctx.nodes index).accept σ.ctx.tickCount
        PacketType.registrationResponse.code 0#16 (σ.built + 1)
        (σ.ctx.buildHeader (some (.slot index)) PacketType.registrationResponse.code)
        (detachResponse (σ.ctx.nodes index).uuid).bytes none).setState .unregistered)
  | expired (idle : (σ.ctx.nodes index).state = .registered) :
      SlotOp ok σ index ((σ.ctx.nodes index).setState .unregistered)
  | ackDue (timers : ok.timers) :
      SlotOp ok σ index ((σ.ctx.nodes index).despatchAck σ.ctx.tickCount)
  | validityDue (timers : ok.timers) :
      SlotOp ok σ index ((σ.ctx.nodes index).despatchValidity σ.ctx.tickCount)

/-- One slot was written, or none. -/
def WritesOne (ok : Condition) (σ : Mac) (ctx : Ctx) : Prop :=
  ctx.nodes = σ.ctx.nodes ∨
    ∃ index, SlotOp ok σ index (ctx.nodes index) ∧
      ∀ other, other ≠ index → ctx.nodes other = σ.ctx.nodes other

theorem writesOne_modify {ok : Condition} {σ : Mac} {base : Ctx} {index : Slot}
    {change : Node → Node} (same : base.nodes = σ.ctx.nodes)
    (op : SlotOp ok σ index (change (σ.ctx.nodes index))) :
    WritesOne ok σ (base.modify (.slot index) change) := by
  refine .inr ⟨index, ?_, fun other different => ?_⟩
  · rw [modify_slot_nodes_self, same]
    exact op
  · rw [modify_slot_nodes_of_ne _ _ different, same]

theorem rxAck_eq (σ : Mac) (index : Slot) (hdr : Header) :
    tinymacRxAck σ (some (.slot index)) hdr =
      if (σ.ctx.nodes index).state = .waitAck ∧
          hdr.seq = (σ.ctx.nodes index).pendingHeader.seq then
        (σ.modify (.slot index) Node.acked).invokeSendCb (.slot index) 0
      else σ := rfl

theorem response_short (resp : RegistrationResponse) : resp.bytes.length ≤ 56 := by
  rw [RegistrationResponse.bytes_length]
  decide

/-- **Every operation of a coordinator writes at most one slot.** -/
theorem Op.slot {ok : Condition} {σ τ : Mac} (op : Op ok σ τ) (coordinator : Coordinator σ.ctx) :
    WritesOne ok σ τ.ctx := by
  cases op with
  | event | clock | setting => exact .inl rfl
  | beacon periodic => exact .inl (by rw [txBeacon_ctx _ _ coordinator.role]; rfl)
  | hear index rssi live => exact writesOne_modify rfl (.heard rssi live)
  | ackFrame index seq live => exact .inl (by rw [phySend_ctx])
  | release index =>
      rw [txPending_ctx]
      exact writesOne_modify rfl .released
  | acked index hdr heard =>
      rw [rxAck_eq]
      split
      · next waiting =>
        rw [invokeSendCb_ctx]
        exact writesOne_modify rfl (.acked waiting.1)
      · exact .inl rfl
  | send index type buf validity cb live data =>
      by_cases fits : σ.ctx.fits buf
      · rw [txPacket_unicast_ctx _ _ _ _ _ _ fits]
        exact writesOne_modify rfl (.accepted type validity buf cb live data)
      · rw [txPacket_oversize _ _ _ _ _ _ fits]
        exact .inl rfl
  | register attach fresh =>
      have fits : (σ.registerSlot attach).ctx.fits (σ.ctx.registrationResponse attach).bytes := by
        refine (coordinator.of_identity ?_).fits (response_short _)
        unfold Mac.registerSlot
        split <;> simp
      rw [Mac.respond, txPacket_broadcast_ctx _ _ _ _ _ fits]
      unfold Mac.registerSlot
      split
      · next index given =>
        have registered : WritesOne ok σ
            (σ.ctx.modify (.slot index) fun node => node.register attach σ.ctx.tickCount) :=
          writesOne_modify rfl (.registered attach given (fresh index given))
        exact registered
      · exact .inl rfl
  | expel hdr =>
      simp only [tinymacRecvUnknown, coordinator.role, if_true]
      rw [txPacket_unicast_ctx _ _ _ _ _ _ (coordinator.fits (response_short _))]
      exact .inl rfl
  | detach index live =>
      rw [deregister_slot_ctx,
        txPacket_unicast_ctx _ _ _ _ _ _ (coordinator.fits (response_short _)),
        modify_modify]
      exact writesOne_modify rfl (.detached live)
  | heartbeat index expired =>
      rw [deregister_slot_ctx]
      exact writesOne_modify rfl (.expired expired.1)
  | ackDue index timers =>
      rw [despatchAck_slot_ctx]
      exact writesOne_modify rfl (.ackDue timers)
  | validityDue index timers =>
      rw [despatchValidity_slot_ctx]
      exact writesOne_modify rfl (.validityDue timers)

/-- A slot across an operation: as before, or as one of the `SlotOp`s makes it. -/
theorem Op.at_slot {ok : Condition} {σ τ : Mac} (op : Op ok σ τ) (coordinator : Coordinator σ.ctx)
    (index : Slot) :
    τ.ctx.nodes index = σ.ctx.nodes index ∨ SlotOp ok σ index (τ.ctx.nodes index) := by
  rcases op.slot coordinator with same | ⟨written, change, others⟩
  · exact .inl (congrFun same index)
  · by_cases here : index = written
    · exact .inr (here ▸ change)
    · exact .inl (others index here)

/-- A slot behind `tinymac_send`: as it was, or as accepting the packet makes it. -/
theorem send_at_slot {σ : Mac} (coordinator : Coordinator σ.ctx) (dest type : BitVec 8)
    (buf : List Byte) (validity : BitVec 16) (cb : Option SendCb) (index : Slot) :
    (tinymacSend σ dest type buf validity cb).2.ctx.nodes index = σ.ctx.nodes index ∨
      ∃ validity', (tinymacSend σ dest type buf validity cb).2.ctx.nodes index =
        (σ.ctx.nodes index).accept σ.ctx.tickCount type validity' (σ.built + 1)
          (σ.ctx.buildHeader (some (.slot index)) type) buf cb := by
  unfold tinymacSend
  split
  · exact .inl rfl
  · split
    · exact .inl rfl
    · next ptr found =>
      obtain ⟨target, rfl, -⟩ := getNodeByAddr_coordinator coordinator.role found
      by_cases fits : σ.ctx.fits buf
      · rw [txPacket_unicast_ctx _ _ _ _ _ _ fits]
        by_cases here : index = target
        · subst here
          exact .inr ⟨_, modify_slot_nodes_self ..⟩
        · exact .inl (modify_slot_nodes_of_ne _ _ here)
      · rw [txPacket_oversize _ _ _ _ _ _ fits]
        exact .inl rfl

/-- Every slot ticks on its own. -/
theorem step_tick_nodes {σ : Mac} (coordinator : Coordinator σ.ctx) (index : Slot) :
    (σ.step .tick).ctx.nodes index = (σ.ctx.nodes index).tick σ.ctx.tickCount := by
  rw [Mac.step, tick_coordinator_ctx σ coordinator.role]
  simp

/-- A tick up to its loop over the slots: the slot counter has advanced, and a beacon that is due
has gone out. -/
def Mac.beginSlot (σ : Mac) : Mac :=
  let σ := σ.update Ctx.nextSlot
  if σ.ctx.beaconDue then tinymacTxBeacon σ true else σ

theorem step_tick {σ : Mac} (coordinator : Coordinator σ.ctx) :
    σ.step .tick = (slots.foldl tickSlot σ.beginSlot).update Ctx.nextTick := by
  rw [Mac.step, tinymacTickHandler, if_pos coordinator.role]
  rfl

theorem beginSlot_ctx {σ : Mac} (coordinator : Coordinator σ.ctx) :
    σ.beginSlot.ctx = σ.ctx.tickBeacon := by
  have role : (σ.update Ctx.nextSlot).ctx.params.coordinator = true := coordinator.role
  have due : (σ.update Ctx.nextSlot).ctx.beaconDue = σ.ctx.nextSlot.beaconDue := rfl
  unfold Mac.beginSlot Ctx.tickBeacon
  dsimp only
  rw [due]
  split
  · rw [txBeacon_ctx _ _ role, update_ctx]
  · rfl

theorem beginSlot_coordinator {σ : Mac} (coordinator : Coordinator σ.ctx) :
    Coordinator σ.beginSlot.ctx := by
  refine coordinator.of_identity ?_
  rw [beginSlot_ctx coordinator]
  unfold Ctx.tickBeacon
  split <;> rfl

/-- What a beacon logs before the loop over the slots. -/
theorem beginSlot_emits {P : Event → Prop} (σ : Mac)
    (standby : ∀ event, event.standby → P event)
    (beacon : ∀ flags, P (.phySend none ⟨σ.ctx.nextSlot.beaconHeader,
      (σ.ctx.nextSlot.beacon true).bytes⟩ flags)) : Emits P σ σ.beginSlot := by
  have counted : Emits P σ (σ.update Ctx.nextSlot) := .of_out_eq rfl
  unfold Mac.beginSlot
  dsimp only
  split
  · exact counted.trans (txBeacon_emits _ true standby beacon)
  · exact counted

/-! ### What stays -/

/-- A record is active while it is live or one of its timers runs. -/
def Node.active (node : Node) : Bool :=
  node.live || node.ackTimer.armed || node.validityTimer.armed

/-- An operation that is not a registration keeps the UUID, the flags and the address, and starts
nothing on an inactive record. -/
structure Node.Keeps (node node' : Node) : Prop where
  uuid : node'.uuid = node.uuid
  flags : node'.flags = node.flags
  addr : node'.addr = node.addr
  active : node'.active = true → node.active = true

theorem Node.Keeps.refl (node : Node) : node.Keeps node := ⟨rfl, rfl, rfl, id⟩

theorem Node.Keeps.of_active {node node' : Node} (uuid : node'.uuid = node.uuid)
    (flags : node'.flags = node.flags) (addr : node'.addr = node.addr)
    (active : node.active = true) : node.Keeps node' := ⟨uuid, flags, addr, fun _ => active⟩

theorem Node.active_of_live {node : Node} (live : node.live = true) : node.active = true := by
  simp [Node.active, live]

theorem Node.active_of_state {node : Node} {state : NodeState} (is : node.state = state)
    (live : state ≠ .unregistered) : node.active = true :=
  Node.active_of_live ((Node.live_iff node).mpr (is ▸ live))

theorem Node.keeps_release (node : Node) (now : BitVec 32) : node.Keeps (node.release now) := by
  unfold Node.release
  split_ifs with pending ack
  · exact .of_active rfl rfl rfl (Node.active_of_state pending (by decide))
  · exact .of_active rfl rfl rfl (Node.active_of_state pending (by decide))
  · exact .refl node

theorem Node.keeps_accept (node : Node) (now : BitVec 32) (flagsType : BitVec 8)
    (validity : BitVec 16) (id : Nat) (hdr : Header) (payload : List Byte) (cb : Option SendCb) :
    node.Keeps (node.accept now flagsType validity id hdr payload cb) := by
  unfold Node.accept
  split_ifs with busy sleepy ack
  · exact .refl node
  all_goals
    rw [not_not] at busy
    exact .of_active rfl rfl rfl (Node.active_of_state busy (by decide))

theorem Node.keeps_despatchAck (node : Node) (now : BitVec 32) :
    node.Keeps (node.despatchAck now) := by
  unfold Node.despatchAck
  by_cases due : node.ackTimer.due now = true
  · have active : node.active = true := by simp [Node.active, armed_of_due due]
    rw [if_pos due, Node.ackExpire]
    split_ifs <;> exact .of_active rfl rfl rfl active
  · rw [if_neg due]
    exact .refl node

theorem Node.keeps_despatchValidity (node : Node) (now : BitVec 32) :
    node.Keeps (node.despatchValidity now) := by
  unfold Node.despatchValidity
  split_ifs with due
  · exact .of_active rfl rfl rfl (by simp [Node.active, armed_of_due due])
  · exact .refl node

/-! ### A slot that is heard -/

/-- A slot after a frame is heard: as before, or the frame's live source. -/
theorem hear_nodes (ctx : Ctx) (role : ctx.params.coordinator = true) (hdr : Header) (rssi : Int)
    (index : Slot) :
    (ctx.hear hdr rssi).nodes index = ctx.nodes index ∨
      (ctx.nodes index).live = true ∧ (ctx.hear hdr rssi).nodes index =
        ((ctx.nodes index).heard ctx.tickCount rssi).release ctx.tickCount := by
  unfold Ctx.hear
  split_ifs with unassigned
  · exact .inl rfl
  · split
    · next ptr found =>
      obtain ⟨source, rfl, -, live⟩ := getNodeByAddr_coordinator role found
      by_cases here : index = source
      · subst here
        exact .inr ⟨live, modify_slot_nodes_self ..⟩
      · exact .inl (modify_slot_nodes_of_ne _ _ here)
    · exact .inl rfl

/-- A frame from another address leaves a slot alone. -/
theorem hear_elsewhere (ctx : Ctx) (role : ctx.params.coordinator = true) {hdr : Header}
    (rssi : Int) {index : Slot} (other : hdr.srcAddr ≠ (ctx.nodes index).addr) :
    (ctx.hear hdr rssi).nodes index = ctx.nodes index := by
  unfold Ctx.hear
  split_ifs
  · rfl
  · split
    · next ptr found =>
      obtain ⟨source, rfl, addr, -⟩ := getNodeByAddr_coordinator role found
      refine modify_slot_nodes_of_ne _ _ fun here => other ?_
      rw [here, addr]
    · rfl

section Hear

variable {ctx : Ctx} (role : ctx.params.coordinator = true) (hdr : Header) (rssi : Int)
  (index : Slot)
include role

theorem hear_keeps : (ctx.nodes index).Keeps ((ctx.hear hdr rssi).nodes index) := by
  rcases hear_nodes ctx role hdr rssi index with same | ⟨live, heard⟩
  · rw [same]
    exact .refl _
  · have released := ((ctx.nodes index).heard ctx.tickCount rssi).keeps_release ctx.tickCount
    rw [heard]
    exact ⟨released.uuid, released.flags, released.addr, fun _ => Node.active_of_live live⟩

theorem hear_live : ((ctx.hear hdr rssi).nodes index).live = (ctx.nodes index).live := by
  rcases hear_nodes ctx role hdr rssi index with same | ⟨-, heard⟩
  · rw [same]
  · rw [heard, Node.release_live]
    rfl

theorem hear_unregistered :
    ((ctx.hear hdr rssi).nodes index).state = .unregistered ↔
      (ctx.nodes index).state = .unregistered := by
  have live := hear_live role hdr rssi index
  rw [Bool.eq_iff_iff, Node.live_iff, Node.live_iff] at live
  exact not_iff_not.mp live

end Hear

/-- **Only a registration writes the UUID or the flags of a slot**, or starts an inactive one. -/
theorem SlotOp.keeps_or_registers {ok : Condition} {σ : Mac} {index : Slot} {node : Node}
    (op : SlotOp ok σ index node) :
    (σ.ctx.nodes index).Keeps node ∨
      ∃ attach, σ.ctx.registrationSlot attach.uuid = some index ∧
        ok.register index attach (σ.ctx.nodes index) ∧
        node = (σ.ctx.nodes index).register attach σ.ctx.tickCount := by
  cases op with
  | heard rssi live => exact .inl (.of_active rfl rfl rfl (Node.active_of_live live))
  | released => exact .inl (Node.keeps_release _ _)
  | acked waiting =>
      exact .inl (.of_active rfl rfl rfl (Node.active_of_state waiting (by decide)))
  | accepted type validity payload cb live data => exact .inl (Node.keeps_accept ..)
  | registered attach given fresh => exact .inr ⟨attach, given, fresh, rfl⟩
  | detached live =>
      have kept := (σ.ctx.nodes index).keeps_accept σ.ctx.tickCount
        PacketType.registrationResponse.code 0#16 (σ.built + 1)
        (σ.ctx.buildHeader (some (.slot index)) PacketType.registrationResponse.code)
        (detachResponse (σ.ctx.nodes index).uuid).bytes none
      exact .inl (.of_active kept.uuid kept.flags kept.addr (Node.active_of_live live))
  | expired idle =>
      exact .inl (.of_active rfl rfl rfl (Node.active_of_state idle (by decide)))
  | ackDue timers => exact .inl (Node.keeps_despatchAck _ _)
  | validityDue timers => exact .inl (Node.keeps_despatchValidity _ _)

/-- **The node table across an operation**: every slot is kept, or one slot is registered and every
other is as before. -/
theorem Op.table {ok : Condition} {σ τ : Mac} (op : Op ok σ τ) (coordinator : Coordinator σ.ctx) :
    (∀ index, (σ.ctx.nodes index).Keeps (τ.ctx.nodes index)) ∨
      ∃ index attach, σ.ctx.registrationSlot attach.uuid = some index ∧
        ok.register index attach (σ.ctx.nodes index) ∧
        τ.ctx.nodes index = (σ.ctx.nodes index).register attach σ.ctx.tickCount ∧
        ∀ other, other ≠ index → τ.ctx.nodes other = σ.ctx.nodes other := by
  rcases op.slot coordinator with same | ⟨index, written, others⟩
  · exact .inl fun index => by rw [same]; exact .refl _
  · rcases written.keeps_or_registers with kept | ⟨attach, given, fresh, registered⟩
    · refine .inl fun other => ?_
      by_cases here : other = index
      · subst here
        exact kept
      · rw [others other here]
        exact .refl _
    · exact .inr ⟨index, attach, given, fresh, registered, others⟩

/-! ### Where a slot comes to life -/

/-- A record that is kept and not brought to life. -/
structure Node.Calm (node node' : Node) : Prop extends node.Keeps node' where
  live : node'.live = true → node.live = true

theorem Node.Calm.refl (node : Node) : node.Calm node := ⟨.refl node, id⟩

theorem Node.Calm.trans {one two three : Node} (first : one.Calm two) (second : two.Calm three) :
    one.Calm three :=
  ⟨⟨second.uuid.trans first.uuid, second.flags.trans first.flags, second.addr.trans first.addr,
    fun active => first.active (second.active active)⟩, fun live => first.live (second.live live)⟩

/-- Without timers and without a registration no operation brings a slot to life. -/
theorem SlotOp.calm {ok : Condition} {σ : Mac} {index : Slot} {node : Node}
    (op : SlotOp ok σ index node) (timers : ¬ ok.timers)
    (others : ∀ attach, ¬ ok.register index attach (σ.ctx.nodes index)) :
    (σ.ctx.nodes index).Calm node := by
  have kept : (σ.ctx.nodes index).Keeps node :=
    op.keeps_or_registers.resolve_right fun ⟨attach, _, fresh, _⟩ => others attach fresh
  refine ⟨kept, fun alive => ?_⟩
  cases op with
  | heard rssi live => exact live
  | released => rwa [Node.release_live] at alive
  | acked waiting => exact (Node.live_iff _).mpr (by rw [waiting]; decide)
  | accepted type validity payload cb live data => exact live
  | registered attach given fresh => exact absurd fresh (others attach)
  | detached live => exact live
  | expired idle => exact (Node.live_iff _).mpr (by rw [idle]; decide)
  | ackDue allowed => exact absurd allowed timers
  | validityDue allowed => exact absurd allowed timers

/-- **A slot comes to life by a registration or a timer only.** -/
theorem Ops.calm {ok : Condition} {σ τ : Mac} (ops : Ops ok σ τ) (coordinator : Coordinator σ.ctx)
    (timers : ¬ ok.timers) (index : Slot)
    (others : ∀ attach node, ¬ ok.register index attach node) :
    (σ.ctx.nodes index).Calm (τ.ctx.nodes index) := by
  refine (ops.preserve (P := fun υ => (σ.ctx.nodes index).Calm (υ.ctx.nodes index)) coordinator
    (fun coordinator calm op => calm.trans ?_) (.refl _)).2
  rcases op.at_slot coordinator index with same | change
  · rw [same]
    exact .refl _
  · exact change.calm timers fun attach => others attach _

end TinyHan.Tinymac
