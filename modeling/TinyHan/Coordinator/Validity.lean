/-
**The validity period of a packet.**

A packet for a sleepy node waits for the node to call in, at most until its validity timer ends.
While a record may still send the packet (`Node.Awaits`), every operation of the coordinator leaves
the validity timer it was given in place (`SlotOp.awaits`), as long as no sleepy node registers over
an armed ack timer. The tick at which that timer is due then finds it, and afterwards no record
awaits the packet, whatever happens next (`validity_respected`).
-/

import TinyHan.Coordinator.Events
import TinyHan.Coordinator.Timers
import TinyHan.Mac.Retransmission

namespace TinyHan.Tinymac

open TinyHan.Lib

/-! ### Records that may still send a packet -/

/-- The record may still send the packet: it waits for the node to call in, or for its ack timer. -/
def Node.Awaits (packet : Nat) (node : Node) : Prop :=
  node.pendingId = packet ∧ (node.state = .sendPending ∨ node.ackTimer.armed = true)

/-- The record awaited the packet before, under the same validity timer. -/
def Node.AwaitedBy (packet : Nat) (before after : Node) : Prop :=
  before.Awaits packet ∧
    ((before.state = .sendPending → before.ackTimer.armed = false) →
      after.validityTimer = before.validityTimer)

section Records

variable {packet : Nat} {node : Node}

theorem Node.not_awaits_of_off (idle : node.state ≠ .sendPending)
    (off : node.ackTimer.armed = false) : ¬ node.Awaits packet := by
  rintro ⟨-, pending | armed⟩
  · exact idle pending
  · cases off.symm.trans armed

/-- An Unregistered record has at most its ack timer left. -/
theorem Node.awaits_unregister (awaits : (node.setState .unregistered).Awaits packet) :
    node.Awaits packet := by
  obtain ⟨same, pending | armed⟩ := awaits
  · cases pending
  · exact ⟨same, .inr armed⟩

theorem Node.awaits_release {now : BitVec 32} (awaits : (node.release now).Awaits packet) :
    Node.AwaitedBy packet node (node.release now) := by
  unfold Node.release at awaits ⊢
  split_ifs at awaits ⊢ with pending ack
  · exact ⟨⟨awaits.1, .inl pending⟩, fun _ => rfl⟩
  · obtain ⟨same, other | armed⟩ := awaits
    · cases other
    · -- only a stale ack timer is left, which the condition rules out
      exact ⟨⟨same, .inl pending⟩, fun off => by cases (off pending).symm.trans armed⟩
  · exact ⟨awaits, fun _ => rfl⟩

theorem Node.awaits_accept {now : BitVec 32} {flagsType : BitVec 8} {validity : BitVec 16}
    {id : Nat} {hdr : Header} {payload : List Byte} {cb : Option SendCb} (new : id ≠ packet)
    (awaits : (node.accept now flagsType validity id hdr payload cb).Awaits packet) :
    Node.AwaitedBy packet node (node.accept now flagsType validity id hdr payload cb) := by
  unfold Node.accept at awaits ⊢
  split_ifs at awaits ⊢
  · exact ⟨awaits, fun _ => rfl⟩
  · exact absurd awaits.1 new
  · exact absurd awaits.1 new
  · exact ⟨awaits, fun _ => rfl⟩

theorem Node.awaits_despatchAck {now : BitVec 32}
    (awaits : (node.despatchAck now).Awaits packet) :
    Node.AwaitedBy packet node (node.despatchAck now) := by
  unfold Node.despatchAck at awaits ⊢
  by_cases due : node.ackTimer.due now = true
  · rw [if_pos due] at awaits ⊢
    have armed := armed_of_due due
    unfold Node.ackExpire at awaits ⊢
    split_ifs at awaits ⊢
    · exact ⟨⟨awaits.1, .inr armed⟩, fun _ => rfl⟩
    · exact ⟨⟨awaits.1, .inr armed⟩, fun _ => rfl⟩
    · exact absurd awaits (Node.not_awaits_of_off (by simp) rfl)
  · rw [if_neg due] at awaits ⊢
    exact ⟨awaits, fun _ => rfl⟩

/-- A record that still awaits the packet has a validity timer that is not due. -/
theorem Node.awaits_despatchValidity {now : BitVec 32}
    (awaits : (node.despatchValidity now).Awaits packet) :
    node.validityTimer.due now = false ∧ node.despatchValidity now = node := by
  unfold Node.despatchValidity at awaits ⊢
  by_cases due : node.validityTimer.due now = true
  · rw [if_pos due] at awaits
    exact absurd awaits (Node.not_awaits_of_off (by simp) rfl)
  · rw [if_neg due]
    exact ⟨by simpa using due, rfl⟩

/-- **What a slot awaits after an operation it awaited before**, if the packet is not built now. -/
theorem SlotOp.awaits {ok : Condition} {σ : Mac} {index : Slot} (op : SlotOp ok σ index node)
    (older : packet ≤ σ.built) (awaits : node.Awaits packet) :
    Node.AwaitedBy packet (σ.ctx.nodes index) node := by
  have new : σ.built + 1 ≠ packet := by omega
  cases op with
  | heard rssi live => exact ⟨awaits, fun _ => rfl⟩
  | released => exact Node.awaits_release awaits
  | acked waiting => exact absurd awaits (Node.not_awaits_of_off (by simp [Node.acked]) rfl)
  | accepted type validity payload cb live data => exact Node.awaits_accept new awaits
  | registered attach given fresh =>
      obtain ⟨same, pending | armed⟩ := awaits
      · cases pending
      · exact ⟨⟨same, .inr armed⟩, fun _ => rfl⟩
  | detached live => exact Node.awaits_accept new (Node.awaits_unregister awaits)
  | expired idle => exact ⟨Node.awaits_unregister awaits, fun _ => rfl⟩
  | ackDue timers => exact Node.awaits_despatchAck awaits
  | validityDue timers =>
      have kept := (Node.awaits_despatchValidity awaits).2
      rw [kept] at awaits ⊢
      exact ⟨awaits, fun _ => rfl⟩

/-- **The tick at the end of the validity**: no record awaits the packet afterwards. -/
theorem Node.not_awaits_tick {now : BitVec 32}
    (valid : node.Awaits packet → node.validityTimer = ⟨true, now⟩)
    (paced : node.Paced) : ¬ (node.tick now).Awaits packet := by
  intro awaits
  unfold Node.tick at awaits
  have checked : (node.checkHeartbeat now).Awaits packet → node.Awaits packet ∧
      (node.checkHeartbeat now).validityTimer = node.validityTimer := by
    unfold Node.checkHeartbeat
    split_ifs
    · exact fun awaits => ⟨Node.awaits_unregister awaits, rfl⟩
    · exact fun awaits => ⟨awaits, rfl⟩
  have off : (node.checkHeartbeat now).state = .sendPending →
      (node.checkHeartbeat now).ackTimer.armed = false := by
    unfold Node.checkHeartbeat
    split_ifs
    · nofun
    · exact fun pending => (paced.pending pending).2.1
  obtain ⟨late, same⟩ := Node.awaits_despatchValidity awaits
  rw [same] at awaits
  obtain ⟨earlier, timer⟩ := Node.awaits_despatchAck awaits
  obtain ⟨first, still⟩ := checked earlier
  rw [timer off, still, valid first] at late
  simp [Timer.due] at late

end Records

/-! ### Before the end of the validity -/

/-- The packet was built, and every slot that awaits it has the validity timer that ends then. -/
structure Valid (packet : Nat) (ends : BitVec 32) (σ : Mac) : Prop where
  built : packet ≤ σ.built
  paced : ∀ index, (σ.ctx.nodes index).Paced
  timed : ∀ index, (σ.ctx.nodes index).Awaits packet →
    (σ.ctx.nodes index).validityTimer = ⟨true, ends⟩

theorem Valid.op {packet : Nat} {ends : BitVec 32} {σ τ : Mac} (coordinator : Coordinator σ.ctx)
    (valid : Valid packet ends σ) (op : Op .unwaited σ τ) : Valid packet ends τ where
  built := valid.built.trans op.built_le
  paced := paced_op coordinator valid.paced op
  timed := by
    intro index awaits
    rcases op.at_slot coordinator index with same | change
    · rw [same] at awaits ⊢
      exact valid.timed index awaits
    · obtain ⟨earlier, timer⟩ := change.awaits valid.built awaits
      rw [timer fun pending => ((valid.paced index).pending pending).2.1]
      exact valid.timed index earlier

theorem Valid.run {packet : Nat} {ends : BitVec 32} {σ : Mac} (coordinator : Coordinator σ.ctx)
    (valid : Valid packet ends σ) (inputs : List Input)
    (registers : σ.Along Ctx.RegistersUnwaited inputs) :
    Coordinator (σ.run inputs).ctx ∧ Valid packet ends (σ.run inputs) :=
  run_induction (fun coordinator valid op => valid.op coordinator op)
    (fun coordinator _ now => admits_unwaited coordinator.role now) coordinator valid inputs
    registers

/-! ### After it -/

/-- The packet was built, and no slot awaits it. -/
structure Over (packet : Nat) (σ : Mac) : Prop where
  built : packet ≤ σ.built
  free : ∀ index, ¬ (σ.ctx.nodes index).Awaits packet

/-- The event is no transmission of the packet. -/
def Event.omits (packet : Nat) (event : Event) : Prop :=
  ∀ frame flags, event ≠ .phySend (some packet) frame flags

theorem Over.op {packet : Nat} {σ τ : Mac} (coordinator : Coordinator σ.ctx)
    (ended : Over packet σ) (op : Op .any σ τ) : Over packet τ where
  built := ended.built.trans op.built_le
  free := by
    intro index awaits
    rcases op.at_slot coordinator index with same | change
    · rw [same] at awaits
      exact ended.free index awaits
    · exact ended.free index (change.awaits ended.built awaits).1

theorem Over.omits {packet : Nat} {σ τ : Mac} (ended : Over packet σ) {event : Event}
    (logged : OpEvent .any σ τ event) : event.omits packet := by
  have built := ended.built
  intro frame flags is
  cases logged with
  | silent event silent => subst is; exact silent
  | built dest type payload packet counted enrolled =>
      cases is
      omega
  | released index pending =>
      cases is
      exact ended.free index ⟨rfl, .inl pending⟩
  | retried index armed =>
      cases is
      exact ended.free index ⟨rfl, .inr armed⟩
  | _ => cases is

/-- **No operation sends the packet once it is over.** -/
theorem Over.run {packet : Nat} {σ : Mac} (coordinator : Coordinator σ.ctx)
    (ended : Over packet σ) (inputs : List Input) :
    Emits (Event.omits packet) σ (σ.run inputs) := by
  have kept := run_induction_any (P := fun τ => Over packet τ ∧ Emits (Event.omits packet) σ τ)
    (fun coordinator holds op => ⟨holds.1.op coordinator op,
      holds.2.trans ((op.emits coordinator).mono fun _ logged => holds.1.omits logged)⟩)
    coordinator ⟨ended, .refl σ⟩ inputs
  exact kept.2.2

/-! ### A packet for a sleepy node -/

theorem Node.heartbeat_lt (node : Node) : node.heartbeat < 2 ^ 16 := by
  have small : (node.flags &&& attachHeartbeatMask).toNat ≤ attachHeartbeatMask.toNat := by
    rw [BitVec.toNat_and]
    exact Nat.and_le_right
  have mask : attachHeartbeatMask.toNat = 15 := rfl
  exact Nat.pow_lt_pow_right (by decide) (by omega)

/-- The validity of a packet in seconds: the given one, or the heartbeat of its node. -/
def Node.effectiveValidity (node : Node) (validity : BitVec 16) : Nat :=
  if validity = 0#16 then node.heartbeat else validity.toNat

theorem effectiveValidity_toNat (node : Node) (validity : BitVec 16) :
    (if validity = 0#16 then BitVec.ofNat 16 node.heartbeat else validity).toNat =
      node.effectiveValidity validity := by
  unfold Node.effectiveValidity
  split
  · rw [BitVec.toNat_ofNat, Nat.mod_eq_of_lt node.heartbeat_lt]
  · rfl

section Accepted

variable {σ : Mac} {dest type : BitVec 8} {payload : List Byte} {validity : BitVec 16}
  {cb : Option SendCb} {index : Slot}
  (found : tinymacGetNodeByAddr σ.ctx dest = some (.slot index))
  (sleepy : (σ.ctx.nodes index).sleepy = true)
  (accepted : (tinymacSend σ dest type payload validity cb).1 = 0)

include found sleepy accepted

/-- A send to a sleepy node that returns 0 has kept the packet in the slot of the node. -/
theorem send_accepted :
    (tinymacSend σ dest type payload validity cb).2.ctx = σ.ctx.nextSeq.modify (.slot index)
        (fun node => ((node.hold (σ.built + 1) (σ.ctx.buildHeader (some (.slot index)) type) payload
          cb).armValidity σ.ctx.tickCount (if validity = 0#16 then
            BitVec.ofNat 16 (σ.ctx.nodes index).heartbeat else validity)).setState .sendPending) ∧
      (tinymacSend σ dest type payload validity cb).2.built = σ.built + 1 := by
  unfold tinymacSend at accepted ⊢
  by_cases control : type &&& flagsTypeMask.setWidth 8 < typeRawData
  · rw [if_pos control] at accepted
    cases accepted
  · simp only [if_neg control, found, mac_node, node_slot] at accepted ⊢
    by_cases fits : σ.ctx.fits payload
    · by_cases idle : (σ.ctx.nodes index).state = .registered
      · rw [txPacket_sleepy σ (.slot index) _ _ _ _ fits idle sleepy]
        exact ⟨rfl, rfl⟩
      · rw [txPacket_busy σ (.slot index) _ _ _ _ fits idle] at accepted
        cases accepted
    · rw [txPacket_oversize _ _ _ _ _ _ fits] at accepted
      cases accepted

/-- The slot of the node is then the only one that can await the packet, until the end of its
validity. -/
theorem send_valid (numbered : ∀ other, (σ.ctx.nodes other).pendingId ≤ σ.built)
    (paced : ∀ other,
      ((tinymacSend σ dest type payload validity cb).2.ctx.nodes other).Paced) :
    Valid (σ.built + 1)
      (σ.ctx.tickCount + seconds ((σ.ctx.nodes index).effectiveValidity validity))
      (tinymacSend σ dest type payload validity cb).2 := by
  obtain ⟨ctx, built⟩ := send_accepted found sleepy accepted
  refine ⟨built.ge, paced, fun other awaits => ?_⟩
  rw [ctx] at awaits ⊢
  by_cases here : other = index
  · subst here
    rw [modify_slot_nodes_self, Ctx.nextSeq_nodes, ← effectiveValidity_toNat]
    rfl
  · rw [modify_slot_nodes_of_ne _ _ here, Ctx.nextSeq_nodes] at awaits
    have below := numbered other
    have same := awaits.1
    omega

end Accepted

/-- **The validity period is respected**, in every run in which no sleepy node registers over an
armed ack timer until the period ends. A packet that `tinymac_send` accepts for a sleepy node is not
put on the air by any input after the tick at the end of its validity, first time or retry. -/
theorem validity_respected (boot : Boot) (role : boot.params.coordinator = true)
    (inputs before after : List Input) (dest type : BitVec 8) (payload : List Byte)
    (validity : BitVec 16) (cb : Option SendCb) (index : Slot) :
    let σ := boot.start.run inputs
    let send := Input.send dest type payload validity cb
    let due := (σ.step send).run before
    let late := due.step .tick
    tinymacGetNodeByAddr σ.ctx dest = some (.slot index) →
    (σ.ctx.nodes index).sleepy = true →
    (tinymacSend σ dest type payload validity cb).1 = 0 →
    due.ctx.tickCount =
      σ.ctx.tickCount + seconds ((σ.ctx.nodes index).effectiveValidity validity) →
    boot.start.Along Ctx.RegistersUnwaited (inputs ++ send :: before) →
    Emits (Event.omits (σ.built + 1)) late (late.run after) := by
  intro σ send due late found sleepy accepted reached registers
  obtain ⟨first, rest⟩ := (along_append _ _ _ _).mp registers
  have sent : boot.start.Along Ctx.RegistersUnwaited (inputs ++ [send]) :=
    (along_append _ _ _ _).mpr ⟨first, rest.1, trivial⟩
  have paced := reachable_paced boot role (inputs ++ [send]) sent
  rw [run_append] at paced
  have numbered (other : Slot) : (σ.ctx.nodes other).pendingId ≤ σ.built :=
    (reachable_courier boot inputs).numbered (some other)
  obtain ⟨coordinator, valid⟩ :
      Coordinator due.ctx ∧ Valid (σ.built + 1) due.ctx.tickCount due := by
    rw [reached]
    exact (send_valid found sleepy accepted numbered paced.2).run paced.1 before rest.2
  have ended : Over (σ.built + 1) late := by
    refine ⟨valid.built.trans ?_, fun other => ?_⟩
    · exact (step_ops due coordinator .tick (admits_any _ _)).built_le
    · rw [step_tick_nodes coordinator other]
      exact Node.not_awaits_tick (valid.timed other) (valid.paced other)
  exact ended.run (coordinator.of_identity (step_identity due coordinator .tick)) after

/-- A sleepy node calls in after the validity of its packet, and the packet is not sent. -/
theorem validity_respected_late_poll :
    let attach : Input := .frame (registrationRequestFrame 0x2A#8 1#8 ⟨1#64, 0x14#16⟩) 0
    let σ := (Boot.coordinatorOn 0x2A#8).start.run [.permitAttach true, attach]
    let due := (σ.step (.send 1#8 0x10#8 [8#8] 1#16 none)).run [.tick, .tick, .tick, .tick]
    let late := due.step .tick
    due.ctx.tickCount = σ.ctx.tickCount + seconds 1 ∧
      Emits (Event.omits (σ.built + 1)) late
        (late.run [.frame (pollFrame 0x2A#8 1#8 2#8) 0]) := by
  intro attach σ due late
  have reached : due.ctx.tickCount = σ.ctx.tickCount + seconds 1 := by decide +kernel
  refine ⟨reached, validity_respected (Boot.coordinatorOn 0x2A#8) rfl [.permitAttach true, attach]
    [.tick, .tick, .tick, .tick] _ 1#8 0x10#8 [8#8] 1#16 none 0 (by decide +kernel)
    (by decide +kernel) (by decide +kernel) reached ?_⟩
  exact ⟨trivial, fun _ _ index _ => by revert index; decide +kernel, trivial, trivial, trivial,
    trivial, trivial, trivial⟩

/-- A sleepy node registers again while a packet waits for its acknowledgement. The ack timer of
that packet is left running, and puts the next packet, which was sent and needs no acknowledgement,
back to wait for a poll with no validity timer. The node is sent it again after its validity. -/
theorem stale_timer_outlives_validity :
    let attach : Input := .frame (registrationRequestFrame 0x2A#8 1#8 ⟨1#64, 0x14#16⟩) 0
    let poll (seq : BitVec 8) : Input := .frame (pollFrame 0x2A#8 1#8 seq) 0
    let σ := (Boot.coordinatorOn 0x2A#8).start.run
      [.permitAttach true, attach, .send 1#8 0x50#8 [7#8] 0#16 none, poll 2#8, attach]
    let due := (σ.step (.send 1#8 0x10#8 [8#8] 1#16 none)).run
      [poll 3#8, .tick, .tick, .tick, .tick]
    let late := due.step .tick
    tinymacGetNodeByAddr σ.ctx 1#8 = some (.slot 0) ∧ (σ.ctx.nodes 0).sleepy = true ∧
      (tinymacSend σ 1#8 0x10#8 [8#8] 1#16 none).1 = 0 ∧
      due.ctx.tickCount = σ.ctx.tickCount + seconds 1 ∧
      transmissions (σ.built + 1) ((late.run [poll 4#8]).out.drop late.out.length) ≠ [] := by
  decide +kernel

end TinyHan.Tinymac
