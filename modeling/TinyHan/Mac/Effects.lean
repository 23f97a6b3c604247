/-
**What each function does to the context.**

Every function of the model writes at most one node record, the one behind the pointer it is handed,
and a few fields of the context. This module says once what it writes: a record-level function
(`Node.release`, `Node.accept`, `Node.ackExpire`, ...) for the record, and an equation `..._ctx` for
the context. The result of a `phy_send` decides none of these writes. Proofs about reachable states
use these equations and never unfold the functions again.
-/

import TinyHan.Mac.Api
import Mathlib.Tactic.SplitIfs

namespace TinyHan.Tinymac

open TinyHan.Lib

/-! ### Writing through pointers -/

section Modify

variable (ctx : Ctx) (ptr : NodePtr) (change : Node → Node)

@[simp] theorem modify_params : (ctx.modify ptr change).params = ctx.params := by cases ptr <;> rfl
@[simp] theorem modify_phyMtu : (ctx.modify ptr change).phyMtu = ctx.phyMtu := by cases ptr <;> rfl
@[simp] theorem modify_rxCb : (ctx.modify ptr change).rxCb = ctx.rxCb := by cases ptr <;> rfl
@[simp] theorem modify_tickCount : (ctx.modify ptr change).tickCount = ctx.tickCount := by
  cases ptr <;> rfl
@[simp] theorem modify_netId : (ctx.modify ptr change).netId = ctx.netId := by cases ptr <;> rfl
@[simp] theorem modify_addr : (ctx.modify ptr change).addr = ctx.addr := by cases ptr <;> rfl
@[simp] theorem modify_dseq : (ctx.modify ptr change).dseq = ctx.dseq := by cases ptr <;> rfl
@[simp] theorem modify_slot : (ctx.modify ptr change).slot = ctx.slot := by cases ptr <;> rfl
@[simp] theorem modify_state : (ctx.modify ptr change).state = ctx.state := by cases ptr <;> rfl
@[simp] theorem modify_timer : (ctx.modify ptr change).timer = ctx.timer := by cases ptr <;> rfl
@[simp] theorem modify_bseq : (ctx.modify ptr change).bseq = ctx.bseq := by cases ptr <;> rfl
@[simp] theorem modify_permitAttach : (ctx.modify ptr change).permitAttach = ctx.permitAttach := by
  cases ptr <;> rfl
@[simp] theorem modify_regCb : (ctx.modify ptr change).regCb = ctx.regCb := by cases ptr <;> rfl
@[simp] theorem modify_deregCb : (ctx.modify ptr change).deregCb = ctx.deregCb := by
  cases ptr <;> rfl

@[simp] theorem modify_slot_coord (index : Slot) :
    (ctx.modify (.slot index) change).coord = ctx.coord := rfl
@[simp] theorem modify_coord_nodes : (ctx.modify .coord change).nodes = ctx.nodes := rfl
@[simp] theorem modify_coord_coord : (ctx.modify .coord change).coord = change ctx.coord := rfl
@[simp] theorem modify_temp (node : Node) : ctx.modify (.temp node) change = ctx := rfl

theorem modify_slot_nodes (index other : Slot) :
    (ctx.modify (.slot index) change).nodes other =
      if other = index then change (ctx.nodes index) else ctx.nodes other := by
  simp [Ctx.modify, Function.update_apply]

@[simp] theorem modify_slot_nodes_self (index : Slot) :
    (ctx.modify (.slot index) change).nodes index = change (ctx.nodes index) := by
  rw [modify_slot_nodes, if_pos rfl]

@[simp] theorem modify_slot_nodes_of_ne {index other : Slot} (different : other ≠ index) :
    (ctx.modify (.slot index) change).nodes other = ctx.nodes other := by
  rw [modify_slot_nodes, if_neg different]

/-- Two writes through one pointer are one write. -/
@[simp] theorem modify_modify (again : Node → Node) :
    (ctx.modify ptr change).modify ptr again = ctx.modify ptr fun node => again (change node) := by
  cases ptr with
  | coord => rfl
  | temp node => rfl
  | slot index =>
      simp only [Ctx.modify]
      congr 1
      simp

@[simp] theorem modify_id : ctx.modify ptr (fun node => node) = ctx := by
  cases ptr with
  | coord => rfl
  | temp node => rfl
  | slot index => simp [Ctx.modify]

/-- A write only depends on what it makes of the record it finds. -/
theorem modify_congr (other : Node → Node) (same : change (ctx.node ptr) = other (ctx.node ptr)) :
    ctx.modify ptr change = ctx.modify ptr other := by
  cases ptr with
  | coord => simpa [Ctx.modify, Ctx.node] using same
  | temp node => rfl
  | slot index =>
      have inner : change (ctx.nodes index) = other (ctx.nodes index) := same
      simp only [Ctx.modify, inner]

/-- A write that makes nothing new of the record it finds is no write. -/
theorem modify_unchanged (same : change (ctx.node ptr) = ctx.node ptr) :
    ctx.modify ptr change = ctx :=
  (modify_congr ctx ptr change _ same).trans (modify_id ctx ptr)

/-- The record behind a pointer that was written through, unless it is temporary. -/
theorem modify_node (kept : ∀ node, ptr ≠ .temp node) :
    (ctx.modify ptr change).node ptr = change (ctx.node ptr) := by
  cases ptr with
  | coord => rfl
  | slot index => simp [Ctx.modify, Ctx.node]
  | temp node => exact absurd rfl (kept node)

@[simp] theorem node_coord : ctx.node .coord = ctx.coord := rfl
@[simp] theorem node_slot (index : Slot) : ctx.node (.slot index) = ctx.nodes index := rfl
@[simp] theorem node_temp (node : Node) : ctx.node (.temp node) = node := rfl

end Modify

section Log

variable (σ : Mac)

@[simp] theorem emit_ctx (event : Event) : (σ.emit event).ctx = σ.ctx := rfl
@[simp] theorem emit_built (event : Event) : (σ.emit event).built = σ.built := rfl
@[simp] theorem emit_phyRc (event : Event) : (σ.emit event).phyRc = σ.phyRc := rfl
@[simp] theorem emit_out (event : Event) : (σ.emit event).out = σ.out ++ [event] := rfl

@[simp] theorem mac_modify_ctx (ptr : NodePtr) (change : Node → Node) :
    (σ.modify ptr change).ctx = σ.ctx.modify ptr change := rfl
@[simp] theorem mac_modify_out (ptr : NodePtr) (change : Node → Node) :
    (σ.modify ptr change).out = σ.out := rfl
@[simp] theorem mac_modify_built (ptr : NodePtr) (change : Node → Node) :
    (σ.modify ptr change).built = σ.built := rfl
@[simp] theorem mac_modify_phyRc (ptr : NodePtr) (change : Node → Node) :
    (σ.modify ptr change).phyRc = σ.phyRc := rfl

@[simp] theorem mac_node (ptr : NodePtr) : σ.node ptr = σ.ctx.node ptr := rfl

@[simp] theorem invokeSendCb_ctx (ptr : NodePtr) (result : Int) :
    (σ.invokeSendCb ptr result).ctx = σ.ctx := by
  unfold Mac.invokeSendCb
  split <;> rfl

@[simp] theorem invokeSendCb_built (ptr : NodePtr) (result : Int) :
    (σ.invokeSendCb ptr result).built = σ.built := by
  unfold Mac.invokeSendCb
  split <;> rfl

@[simp] theorem phySend_ctx (packet : Option Nat) (frame : Frame) (flags : BitVec 8) :
    (tinymacPhySend σ packet frame flags).2.ctx = σ.ctx := by
  unfold tinymacPhySend
  dsimp only
  split <;> rfl

@[simp] theorem phySend_built (packet : Option Nat) (frame : Frame) (flags : BitVec 8) :
    (tinymacPhySend σ packet frame flags).2.built = σ.built := by
  unfold tinymacPhySend
  dsimp only
  split <;> rfl

end Log

@[simp] theorem node_nextSeq (ctx : Ctx) (ptr : NodePtr) : ctx.nextSeq.node ptr = ctx.node ptr := by
  cases ptr <;> rfl

@[simp] theorem update_ctx (σ : Mac) (change : Ctx → Ctx) : (σ.update change).ctx = change σ.ctx :=
  rfl
@[simp] theorem update_out (σ : Mac) (change : Ctx → Ctx) : (σ.update change).out = σ.out := rfl
@[simp] theorem update_built (σ : Mac) (change : Ctx → Ctx) : (σ.update change).built = σ.built :=
  rfl
@[simp] theorem update_phyRc (σ : Mac) (change : Ctx → Ctx) : (σ.update change).phyRc = σ.phyRc :=
  rfl

/-- Two writes through one pointer are one write. -/
@[simp] theorem mac_modify_modify (σ : Mac) (ptr : NodePtr) (change again : Node → Node) :
    (σ.modify ptr change).modify ptr again = σ.modify ptr fun node => again (change node) := by
  simp [Mac.modify]

/-! ### Packets -/

/-- The size check of `tinymac_tx_packet`. -/
def Ctx.fits (ctx : Ctx) (payload : List Byte) : Prop :=
  payload.length ≤ maxPayload ∧ payload.length + headerSize ≤ ctx.phyMtu

instance (ctx : Ctx) (payload : List Byte) : Decidable (ctx.fits payload) :=
  inferInstanceAs (Decidable (_ ∧ _))

theorem not_oversize_iff (ctx : Ctx) (payload : List Byte) :
    ¬ (payload.length > maxPayload ∨ payload.length + headerSize > ctx.phyMtu) ↔
      ctx.fits payload := by
  simp [Ctx.fits, not_or]

/-- The type of a header that is built. -/
theorem buildHeader_type (ctx : Ctx) (dest : Option NodePtr) (flagsType : BitVec 8) :
    (ctx.buildHeader dest flagsType).type = flagsType &&& flagsTypeMask.setWidth 8 :=
  headerFlags_type flagsType

@[simp] theorem buildHeader_ackRequest (ctx : Ctx) (dest : Option NodePtr) (flagsType : BitVec 8) :
    (ctx.buildHeader dest flagsType).ackRequest = ackRequested flagsType := rfl

/-- Control types are their own header type. -/
@[simp] theorem buildHeader_control (ctx : Ctx) (dest : Option NodePtr) (type : PacketType) :
    (ctx.buildHeader dest type.code).type = type.code := headerFlags_control type

@[simp] theorem beaconHeader_type (ctx : Ctx) :
    ctx.beaconHeader.type = PacketType.beacon.code := by
  simp only [Header.type, Ctx.beaconHeader]
  decide

@[simp] theorem ackHeader_type (ctx : Ctx) (node : Node) (seq : BitVec 8) :
    (ctx.ackHeader node seq).type = PacketType.ack.code := by
  simp only [Header.type, Ctx.ackHeader]
  split <;> decide

@[simp] theorem ackHeader_ackRequest (ctx : Ctx) (node : Node) (seq : BitVec 8) :
    (ctx.ackHeader node seq).ackRequest = false := by
  simp only [Header.ackRequest, Ctx.ackHeader]
  split <;> decide

section TxPacket

variable (σ : Mac) (ptr : NodePtr) (flagsType : BitVec 8) (buf : List Byte)
  (validity : BitVec 16) (cb : Option SendCb)

/-- A packet that does not fit leaves no trace. -/
theorem txPacket_oversize (dest : Option NodePtr) (large : ¬ σ.ctx.fits buf) :
    tinymacTxPacket σ dest flagsType buf validity cb = (-1, σ) := by
  rw [← not_oversize_iff, not_not] at large
  rw [tinymacTxPacket, if_pos large]

/-- A broadcast is sent at once. -/
theorem txPacket_broadcast (fits : σ.ctx.fits buf) :
    tinymacTxPacket σ none flagsType buf validity cb =
      let hdr := σ.ctx.buildHeader none flagsType
      let sent := tinymacPhySend σ.nextSeq (some (σ.built + 1)) ⟨hdr, buf⟩ 0#8
      (sent.1, sent.2.emit (.txPacket ⟨σ.built + 1, none, 0#16, hdr, buf, cb, true, sent.1⟩)) := by
  rw [tinymacTxPacket, if_neg ((not_oversize_iff _ _).mpr fits)]

/-- A busy destination rejects the packet, after it took its sequence number. -/
theorem txPacket_busy (fits : σ.ctx.fits buf) (busy : (σ.ctx.node ptr).state ≠ .registered) :
    tinymacTxPacket σ (some ptr) flagsType buf validity cb =
      (-1, σ.nextSeq.emit (.txPacket ⟨σ.built + 1, some ptr, (σ.ctx.node ptr).flags,
        σ.ctx.buildHeader (some ptr) flagsType, buf, cb, false, -1⟩)) := by
  rw [tinymacTxPacket, if_neg ((not_oversize_iff _ _).mpr fits)]
  simp [busy]

/-- A packet for a sleepy node is kept until the node calls in. -/
theorem txPacket_sleepy (fits : σ.ctx.fits buf) (idle : (σ.ctx.node ptr).state = .registered)
    (sleepy : (σ.ctx.node ptr).sleepy = true) :
    tinymacTxPacket σ (some ptr) flagsType buf validity cb =
      let hdr := σ.ctx.buildHeader (some ptr) flagsType
      (0, (σ.nextSeq.modify ptr fun node =>
          ((node.hold (σ.built + 1) hdr buf cb).armValidity σ.ctx.tickCount validity).setState
            .sendPending).emit
        (.txPacket ⟨σ.built + 1, some ptr, (σ.ctx.node ptr).flags, hdr, buf, cb, true, 0⟩)) := by
  rw [tinymacTxPacket, if_neg ((not_oversize_iff _ _).mpr fits)]
  simp [idle, sleepy]

/-- A packet that asks for an acknowledgement is kept and sent. -/
theorem txPacket_ack (fits : σ.ctx.fits buf) (idle : (σ.ctx.node ptr).state = .registered)
    (awake : (σ.ctx.node ptr).sleepy = false) (ack : ackRequested flagsType = true) :
    tinymacTxPacket σ (some ptr) flagsType buf validity cb =
      let hdr := σ.ctx.buildHeader (some ptr) flagsType
      let held := σ.nextSeq.modify ptr fun node =>
        ((node.hold (σ.built + 1) hdr buf cb).armAck σ.ctx.tickCount).setState .waitAck
      let sent := tinymacPhySend held (some (σ.built + 1)) ⟨hdr, buf⟩ 0#8
      (sent.1, sent.2.emit (.txPacket
        ⟨σ.built + 1, some ptr, (σ.ctx.node ptr).flags, hdr, buf, cb, true, sent.1⟩)) := by
  rw [tinymacTxPacket, if_neg ((not_oversize_iff _ _).mpr fits)]
  simp [idle, awake, ack]

/-- Any other packet is sent and forgotten. -/
theorem txPacket_plain (fits : σ.ctx.fits buf) (idle : (σ.ctx.node ptr).state = .registered)
    (awake : (σ.ctx.node ptr).sleepy = false) (plain : ackRequested flagsType = false) :
    tinymacTxPacket σ (some ptr) flagsType buf validity cb =
      let hdr := σ.ctx.buildHeader (some ptr) flagsType
      let sent := tinymacPhySend σ.nextSeq (some (σ.built + 1)) ⟨hdr, buf⟩ 0#8
      (sent.1, sent.2.emit (.txPacket
        ⟨σ.built + 1, some ptr, (σ.ctx.node ptr).flags, hdr, buf, cb, true, sent.1⟩)) := by
  rw [tinymacTxPacket, if_neg ((not_oversize_iff _ _).mpr fits)]
  simp [idle, awake, plain]

end TxPacket

/-- What a packet makes of its destination record. -/
def Node.accept (node : Node) (now : BitVec 32) (flagsType : BitVec 8) (validity : BitVec 16)
    (id : Nat) (hdr : Header) (payload : List Byte) (cb : Option SendCb) : Node :=
  if node.state ≠ .registered then node
  else if node.sleepy then
    ((node.hold id hdr payload cb).armValidity now validity).setState .sendPending
  else if ackRequested flagsType then
    ((node.hold id hdr payload cb).armAck now).setState .waitAck
  else node

/-- A record keeps the packet it is handed, to wait for a poll or an acknowledgement, or is as it
was. -/
theorem Node.accept_pending (node : Node) (now : BitVec 32) (flagsType : BitVec 8)
    (validity : BitVec 16) (id : Nat) (hdr : Header) (payload : List Byte) (cb : Option SendCb) :
    let after := node.accept now flagsType validity id hdr payload cb
    after = node ∨ (after.pendingHeader = hdr ∧ after.pending = payload ∧ after.pendingId = id) ∧
      (node.sleepy = true ∨ ackRequested flagsType = true) := by
  unfold Node.accept
  split_ifs with busy sleepy ack
  · exact .inl rfl
  · exact .inr ⟨⟨rfl, rfl, rfl⟩, .inl sleepy⟩
  · exact .inr ⟨⟨rfl, rfl, rfl⟩, .inr ack⟩
  · exact .inl rfl

/-- A packet keeps the address and the liveness of the record it is for. -/
theorem Node.accept_live (node : Node) (now : BitVec 32) (type : BitVec 8) (validity : BitVec 16)
    (id : Nat) (hdr : Header) (payload : List Byte) (cb : Option SendCb) :
    (node.accept now type validity id hdr payload cb).addr = node.addr ∧
      (node.accept now type validity id hdr payload cb).live = node.live := by
  unfold Node.accept
  split_ifs with busy
  · exact ⟨rfl, rfl⟩
  · exact ⟨rfl, by rw [Node.live, Node.live, of_not_not busy]; rfl⟩
  · exact ⟨rfl, by rw [Node.live, Node.live, of_not_not busy]; rfl⟩
  · exact ⟨rfl, rfl⟩

/-- A broadcast takes a sequence number and writes nothing else. -/
theorem txPacket_broadcast_ctx (σ : Mac) (flagsType : BitVec 8) (buf : List Byte)
    (validity : BitVec 16) (cb : Option SendCb) (fits : σ.ctx.fits buf) :
    (tinymacTxPacket σ none flagsType buf validity cb).2.ctx = σ.ctx.nextSeq := by
  simp [txPacket_broadcast σ flagsType buf validity cb fits]

/-- **A unicast** takes a sequence number and writes the destination record. -/
theorem txPacket_unicast_ctx (σ : Mac) (ptr : NodePtr) (flagsType : BitVec 8) (buf : List Byte)
    (validity : BitVec 16) (cb : Option SendCb) (fits : σ.ctx.fits buf) :
    (tinymacTxPacket σ (some ptr) flagsType buf validity cb).2.ctx =
      σ.ctx.nextSeq.modify ptr fun node =>
        node.accept σ.ctx.tickCount flagsType validity (σ.built + 1)
          (σ.ctx.buildHeader (some ptr) flagsType) buf cb := by
  by_cases idle : (σ.ctx.node ptr).state = .registered
  · cases sleepy : (σ.ctx.node ptr).sleepy
    · cases ack : ackRequested flagsType
      · rw [txPacket_plain σ ptr flagsType buf validity cb fits idle sleepy ack]
        simp only [emit_ctx, phySend_ctx, Mac.nextSeq_ctx]
        rw [modify_unchanged _ _ _ (by simp [Node.accept, idle, sleepy, ack])]
      · rw [txPacket_ack σ ptr flagsType buf validity cb fits idle sleepy ack]
        simp only [emit_ctx, phySend_ctx, mac_modify_ctx, Mac.nextSeq_ctx]
        exact modify_congr _ _ _ _ (by simp [Node.accept, idle, sleepy, ack])
    · rw [txPacket_sleepy σ ptr flagsType buf validity cb fits idle sleepy]
      simp only [emit_ctx, mac_modify_ctx, Mac.nextSeq_ctx]
      exact modify_congr _ _ _ _ (by simp [Node.accept, idle, sleepy])
  · rw [txPacket_busy σ ptr flagsType buf validity cb fits idle]
    simp only [emit_ctx, Mac.nextSeq_ctx]
    rw [modify_unchanged _ _ _ (by simp [Node.accept, idle])]

/-- A packet that fits counts, sent or not. -/
theorem txPacket_built (σ : Mac) (dest : Option NodePtr) (flagsType : BitVec 8) (buf : List Byte)
    (validity : BitVec 16) (cb : Option SendCb) :
    (tinymacTxPacket σ dest flagsType buf validity cb).2.built =
      if σ.ctx.fits buf then σ.built + 1 else σ.built := by
  split
  case isFalse large => rw [txPacket_oversize _ _ _ _ _ _ large]
  case isTrue fits =>
    cases dest with
    | none => simp [txPacket_broadcast _ _ _ _ _ fits]
    | some ptr =>
        by_cases idle : (σ.ctx.node ptr).state = .registered
        · cases sleepy : (σ.ctx.node ptr).sleepy
          · cases ack : ackRequested flagsType
            · simp [txPacket_plain _ _ _ _ _ _ fits idle sleepy ack]
            · simp [txPacket_ack _ _ _ _ _ _ fits idle sleepy ack]
          · simp [txPacket_sleepy _ _ _ _ _ _ fits idle sleepy]
        · simp [txPacket_busy _ _ _ _ _ _ fits idle]

/-! ### Pending packets -/

/-- What `tinymac_tx_pending` makes of a record. -/
def Node.release (node : Node) (now : BitVec 32) : Node :=
  if node.state = .sendPending then
    if node.pendingHeader.ackRequest then (node.setState .waitAck).armAck now
    else (node.setState .registered).cancelValidity
  else node

/-- A released record has nothing pending. -/
theorem Node.release_state_ne (node : Node) (now : BitVec 32) :
    (node.release now).state ≠ .sendPending := by
  unfold Node.release
  split_ifs with pending ack <;> simp_all

@[simp] theorem Node.release_live (node : Node) (now : BitVec 32) :
    (node.release now).live = node.live := by
  unfold Node.release
  split_ifs with pending ack
  · rw [Node.live, Node.live, pending]
    rfl
  · rw [Node.live, Node.live, pending]
    rfl
  · rfl

@[simp] theorem Node.release_addr (node : Node) (now : BitVec 32) :
    (node.release now).addr = node.addr := by
  unfold Node.release
  split_ifs <;> rfl

@[simp] theorem Node.release_release (node : Node) (now : BitVec 32) :
    (node.release now).release now = node.release now := by
  rw [Node.release, if_neg (node.release_state_ne now)]

@[simp] theorem setState_setState (node : Node) (first second : NodeState) :
    (node.setState first).setState second = node.setState second := rfl

/-- Without a pending packet there is nothing to release. -/
theorem txPending_idle (σ : Mac) (ptr : NodePtr) (idle : (σ.ctx.node ptr).state ≠ .sendPending) :
    tinymacTxPending σ ptr = σ := by
  simp [tinymacTxPending, idle]

/-- A released packet that asks for an acknowledgement waits for it. -/
theorem txPending_ack (σ : Mac) (ptr : NodePtr) (pending : (σ.ctx.node ptr).state = .sendPending)
    (ack : (σ.ctx.node ptr).pendingHeader.ackRequest = true) :
    tinymacTxPending σ ptr =
      (tinymacPhySend (σ.modify ptr fun node => (node.setState .waitAck).armAck σ.ctx.tickCount)
        (some (σ.ctx.node ptr).pendingId)
        ⟨(σ.ctx.node ptr).pendingHeader, (σ.ctx.node ptr).pending⟩ 0#8).2 := by
  simp [tinymacTxPending, pending, ack]

/-- A released packet that asks for none is complete. -/
theorem txPending_plain (σ : Mac) (ptr : NodePtr)
    (pending : (σ.ctx.node ptr).state = .sendPending)
    (plain : (σ.ctx.node ptr).pendingHeader.ackRequest = false) :
    tinymacTxPending σ ptr =
      (((tinymacPhySend (σ.modify ptr fun node => node.setState .registered)
        (some (σ.ctx.node ptr).pendingId)
        ⟨(σ.ctx.node ptr).pendingHeader, (σ.ctx.node ptr).pending⟩ 0#8).2).modify ptr
          fun node => node.cancelValidity).invokeSendCb ptr 0 := by
  simp [tinymacTxPending, pending, plain]

theorem txPending_ctx (σ : Mac) (ptr : NodePtr) :
    (tinymacTxPending σ ptr).ctx =
      σ.ctx.modify ptr fun node => node.release σ.ctx.tickCount := by
  by_cases pending : (σ.ctx.node ptr).state = .sendPending
  · cases ack : (σ.ctx.node ptr).pendingHeader.ackRequest
    · rw [txPending_plain σ ptr pending ack]
      simp only [invokeSendCb_ctx, mac_modify_ctx, phySend_ctx, modify_modify]
      exact modify_congr _ _ _ _ (by simp [Node.release, pending, ack])
    · rw [txPending_ack σ ptr pending ack]
      simp only [mac_modify_ctx, phySend_ctx]
      exact modify_congr _ _ _ _ (by simp [Node.release, pending, ack])
  · rw [txPending_idle σ ptr pending, modify_unchanged _ _ _ (by simp [Node.release, pending])]

@[simp] theorem txPending_built (σ : Mac) (ptr : NodePtr) :
    (tinymacTxPending σ ptr).built = σ.built := by
  by_cases pending : (σ.ctx.node ptr).state = .sendPending
  · cases ack : (σ.ctx.node ptr).pendingHeader.ackRequest
    · simp [txPending_plain σ ptr pending ack]
    · simp [txPending_ack σ ptr pending ack]
  · rw [txPending_idle σ ptr pending]

/-- Hearing from a node: the record notes it and has its pending packet released once, whether or
not the acknowledgement could be sent. -/
theorem recvKnown_ctx (σ : Mac) (ptr : NodePtr) (hdr : Header) (rssi : Int) :
    (tinymacRecvKnown σ ptr hdr rssi).ctx =
      σ.ctx.modify ptr fun node =>
        (node.heard σ.ctx.tickCount rssi).release σ.ctx.tickCount := by
  unfold tinymacRecvKnown
  dsimp only
  split
  · rw [txPending_ctx]
    unfold tinymacTxAck
    dsimp only
    split
    · simp
    · simp only [txPending_ctx, phySend_ctx, mac_modify_ctx, modify_modify, modify_tickCount,
        Node.release_release]
  · simp [txPending_ctx]

/-! ### Deregistration and timeouts -/

theorem deregister_slot_ctx (σ : Mac) (index : Slot) :
    (tinymacDeregisterNode σ (.slot index)).ctx =
      σ.ctx.modify (.slot index) fun node => node.setState .unregistered := by
  unfold tinymacDeregisterNode
  simp only [reduceCtorEq, if_false]
  split <;> simp

theorem deregister_coord_ctx (σ : Mac) :
    (tinymacDeregisterNode σ .coord).ctx =
      (σ.ctx.modify .coord fun node => node.setState .unregistered).detach := by
  unfold tinymacDeregisterNode
  simp only [if_true]
  split <;> simp

@[simp] theorem deregister_built (σ : Mac) (ptr : NodePtr) :
    (tinymacDeregisterNode σ ptr).built = σ.built := by
  unfold tinymacDeregisterNode
  dsimp only
  split <;> split <;> rfl

/-- What a due ack timer makes of a record: one retry less, and a retransmission, a deferral or the
end of the registration. -/
def Node.ackExpire (node : Node) (now : BitVec 32) : Node :=
  if node.retries ≠ 0#8 then
    if node.sleepy then (node.cancelAck.countRetry).setState .sendPending
    else (node.cancelAck.countRetry).armAck now
  else ((node.cancelAck.countRetry).cancelValidity).setState .unregistered

/-- `tinymac_despatch_timer` on the ack timer, at the level of the record. -/
def Node.despatchAck (node : Node) (now : BitVec 32) : Node :=
  if node.ackTimer.due now then node.ackExpire now else node

/-- `tinymac_despatch_timer` on the validity timer, at the level of the record. -/
def Node.despatchValidity (node : Node) (now : BitVec 32) : Node :=
  if node.validityTimer.due now then (node.cancelValidity.setState .registered).cancelAck
  else node

/-- The heartbeat check, at the level of the record. -/
def Node.checkHeartbeat (node : Node) (now : BitVec 32) : Node :=
  if node.state = .registered ∧ node.heartbeatExpired now then node.setState .unregistered
  else node

/-- The per-node operations of a tick, at the level of the record. -/
def Node.tick (node : Node) (now : BitVec 32) : Node :=
  ((node.checkHeartbeat now).despatchAck now).despatchValidity now

theorem despatchAck_slot_ctx (σ : Mac) (index : Slot) :
    (tinymacDespatchTimer σ (.ack (.slot index))).ctx =
      σ.ctx.modify (.slot index) fun node => node.despatchAck σ.ctx.tickCount := by
  unfold tinymacDespatchTimer
  cases due : σ.timerDue (.ack (.slot index))
  · have notDue : (σ.ctx.nodes index).ackTimer.due σ.ctx.tickCount = false := due
    simp only [Bool.false_eq_true, if_false]
    rw [modify_unchanged _ _ _ (by simp [Node.despatchAck, notDue])]
  · have isDue : (σ.ctx.nodes index).ackTimer.due σ.ctx.tickCount = true := due
    rw [if_pos rfl]
    by_cases exhausted : (σ.ctx.nodes index).retries = 0#8
    · have giveUp : ((σ.clearTimer (.ack (.slot index))).timerCallback (.ack (.slot index))).ctx =
          σ.ctx.modify (.slot index) fun node =>
            ((node.cancelAck.countRetry).cancelValidity).setState .unregistered := by
        simp [Mac.timerCallback, Mac.clearTimer, tinymacAckTimeout, exhausted, deregister_slot_ctx]
      rw [giveUp]
      exact modify_congr _ _ _ _ (by simp [Node.despatchAck, isDue, Node.ackExpire, exhausted])
    · cases sleepy : (σ.ctx.nodes index).sleepy
      · have resend : ((σ.clearTimer (.ack (.slot index))).timerCallback
            (.ack (.slot index))).ctx = σ.ctx.modify (.slot index) fun node =>
              (node.cancelAck.countRetry).armAck σ.ctx.tickCount := by
          have awake : (σ.ctx.nodes index).cancelAck.sleepy = false := sleepy
          simp [Mac.timerCallback, Mac.clearTimer, tinymacAckTimeout, exhausted, awake]
        rw [resend]
        exact modify_congr _ _ _ _
          (by simp [Node.despatchAck, isDue, Node.ackExpire, exhausted, sleepy])
      · have defer : ((σ.clearTimer (.ack (.slot index))).timerCallback
            (.ack (.slot index))).ctx = σ.ctx.modify (.slot index) fun node =>
              (node.cancelAck.countRetry).setState .sendPending := by
          have asleep : (σ.ctx.nodes index).cancelAck.sleepy = true := sleepy
          simp [Mac.timerCallback, Mac.clearTimer, tinymacAckTimeout, exhausted, asleep]
        rw [defer]
        exact modify_congr _ _ _ _
          (by simp [Node.despatchAck, isDue, Node.ackExpire, exhausted, sleepy])

theorem despatchValidity_slot_ctx (σ : Mac) (index : Slot) :
    (tinymacDespatchTimer σ (.validity (.slot index))).ctx =
      σ.ctx.modify (.slot index) fun node => node.despatchValidity σ.ctx.tickCount := by
  unfold tinymacDespatchTimer
  cases due : σ.timerDue (.validity (.slot index))
  · have notDue : (σ.ctx.nodes index).validityTimer.due σ.ctx.tickCount = false := due
    simp only [Bool.false_eq_true, if_false]
    rw [modify_unchanged _ _ _ (by simp [Node.despatchValidity, notDue])]
  · have isDue : (σ.ctx.nodes index).validityTimer.due σ.ctx.tickCount = true := due
    rw [if_pos rfl]
    simp only [Mac.timerCallback, Mac.clearTimer, tinymacValidityTimeout, invokeSendCb_ctx,
      mac_modify_ctx, modify_modify]
    exact modify_congr _ _ _ _ (by simp [Node.despatchValidity, isDue])

@[simp] theorem despatchTimer_built (σ : Mac) (timer : TimerPtr) :
    (tinymacDespatchTimer σ timer).built = σ.built := by
  unfold tinymacDespatchTimer
  split
  · cases timer with
    | ack ptr =>
        unfold Mac.timerCallback Mac.clearTimer tinymacAckTimeout
        dsimp only
        split_ifs <;> simp
    | validity ptr => simp [Mac.timerCallback, Mac.clearTimer, tinymacValidityTimeout]
    | request =>
        unfold Mac.timerCallback Mac.clearTimer tinymacRequestTimeout
        dsimp only
        split_ifs <;> simp
  · rfl

/-- **One slot's share of a tick.** -/
theorem tickSlot_ctx (σ : Mac) (index : Slot) :
    (tickSlot σ index).ctx =
      σ.ctx.modify (.slot index) fun node => node.tick σ.ctx.tickCount := by
  unfold tickSlot
  dsimp only
  rw [despatchValidity_slot_ctx, despatchAck_slot_ctx]
  split
  case isTrue expired =>
    rw [deregister_slot_ctx]
    simp only [modify_modify, modify_tickCount]
    refine modify_congr _ _ _ _ ?_
    rw [mac_node] at expired
    rw [Node.tick, Node.checkHeartbeat, if_pos expired]
  case isFalse kept =>
    simp only [modify_modify, modify_tickCount]
    refine modify_congr _ _ _ _ ?_
    rw [mac_node] at kept
    rw [Node.tick, Node.checkHeartbeat, if_neg kept]

/-! ### Received frames -/

@[simp] theorem recvStandby_ctx (σ : Mac) (hdr : Header) :
    (tinymacRecvStandby σ hdr).ctx = σ.ctx := by
  unfold tinymacRecvStandby
  split <;> rfl

theorem rawData_not_control (type : PacketType) : ¬ typeRawData ≤ type.code := by
  cases type <;> decide

/-- The end of the receive handler, for a control type. -/
theorem recvType_control (σ : Mac) (node : Option NodePtr) (hdr : Header) (buf : Memory)
    (size : Nat) (type : PacketType) (control : hdr.type = type.code) :
    tinymacRecvType σ node hdr buf size = tinymacRecvControl σ type node hdr buf size := by
  rw [tinymacRecvType, if_neg (by rw [control]; exact rawData_not_control type), control,
    PacketType.ofCode_code]

/-! ### Beacons and ticks -/

theorem txBeacon_ctx (σ : Mac) (periodic : Bool) (coordinator : σ.ctx.params.coordinator = true) :
    (tinymacTxBeacon σ periodic).ctx = σ.ctx.nextBeacon := by
  simp [tinymacTxBeacon, coordinator]

theorem txBeacon_client (σ : Mac) (periodic : Bool) (client : σ.ctx.params.coordinator = false) :
    tinymacTxBeacon σ periodic = σ := by
  simp [tinymacTxBeacon, client]

/-- Every slot ticks. -/
@[simps] def Ctx.tickNodes (ctx : Ctx) : Ctx :=
  { ctx with nodes := fun index => (ctx.nodes index).tick ctx.tickCount }

/-- The loop of the tick handler over some of the slots, each at most once. -/
theorem foldl_tickSlot_ctx (rest : List Slot) (distinct : rest.Nodup) (σ : Mac) :
    (rest.foldl tickSlot σ).ctx =
      { σ.ctx with nodes := fun index =>
          if index ∈ rest then (σ.ctx.nodes index).tick σ.ctx.tickCount
          else σ.ctx.nodes index } := by
  induction rest generalizing σ with
  | nil => simp
  | cons first rest ih =>
      obtain ⟨fresh, distinct⟩ := List.nodup_cons.mp distinct
      rw [List.foldl_cons, ih distinct, tickSlot_ctx]
      simp only [Ctx.modify, Function.update_apply]
      congr 1
      funext index
      by_cases same : index = first
      · subst same
        simp [fresh]
      · simp [same]

/-- **The per-node loop of a tick** ticks every slot. -/
theorem tickSlots_ctx (σ : Mac) : (slots.foldl tickSlot σ).ctx = σ.ctx.tickNodes := by
  rw [foldl_tickSlot_ctx slots (List.nodup_finRange maxNodes)]
  simp [Ctx.tickNodes]

/-- The beacon part of a coordinator's tick. -/
def Ctx.tickBeacon (ctx : Ctx) : Ctx :=
  if ctx.nextSlot.beaconDue then ctx.nextSlot.nextBeacon else ctx.nextSlot

theorem tickCoordinator_ctx (σ : Mac) (coordinator : σ.ctx.params.coordinator = true) :
    (tickCoordinator σ).ctx = σ.ctx.tickBeacon.tickNodes := by
  unfold tickCoordinator
  dsimp only
  rw [tickSlots_ctx, update_ctx, Ctx.tickBeacon]
  split
  · rw [txBeacon_ctx _ _ (by simpa using coordinator), update_ctx]
  · rfl

/-- **A coordinator's tick.** -/
theorem tick_coordinator_ctx (σ : Mac) (coordinator : σ.ctx.params.coordinator = true) :
    (tinymacTickHandler σ).ctx = σ.ctx.tickBeacon.tickNodes.nextTick := by
  simp [tinymacTickHandler, coordinator, tickCoordinator_ctx]

@[simp] theorem tickBeacon_nodes (ctx : Ctx) : ctx.tickBeacon.nodes = ctx.nodes := by
  unfold Ctx.tickBeacon
  split <;> rfl

@[simp] theorem tickBeacon_tickCount (ctx : Ctx) : ctx.tickBeacon.tickCount = ctx.tickCount := by
  unfold Ctx.tickBeacon
  split <;> rfl

/-! ### Runs -/

@[simp] theorem run_nil (σ : Mac) : σ.run [] = σ := rfl

@[simp] theorem run_cons (σ : Mac) (input : Input) (inputs : List Input) :
    σ.run (input :: inputs) = (σ.step input).run inputs := rfl

theorem run_append (σ : Mac) (before after : List Input) :
    σ.run (before ++ after) = (σ.run before).run after := List.foldl_append

/-- A run meets a condition that every one of its inputs meets anywhere. -/
theorem along_of_forall (σ : Mac) {cond : Ctx → Input → Prop} {inputs : List Input}
    (each : ∀ ctx, ∀ input ∈ inputs, cond ctx input) : σ.Along cond inputs := by
  induction inputs generalizing σ with
  | nil => trivial
  | cons input inputs ih =>
      exact ⟨each σ.ctx input List.mem_cons_self,
        ih (σ.step input) fun ctx other member => each ctx other (List.mem_cons_of_mem _ member)⟩

/-- Every run meets the trivial condition. -/
theorem along_trivial (σ : Mac) (inputs : List Input) : σ.Along (fun _ _ => True) inputs :=
  along_of_forall σ fun _ _ _ => trivial

/-- A run meets a condition when its two parts do. -/
theorem along_append (σ : Mac) (cond : Ctx → Input → Prop) (before after : List Input) :
    σ.Along cond (before ++ after) ↔ σ.Along cond before ∧ (σ.run before).Along cond after := by
  induction before generalizing σ with
  | nil => exact ⟨fun after => ⟨trivial, after⟩, fun both => both.2⟩
  | cons input before ih =>
      rw [List.cons_append, Mac.Along, ih, Mac.Along, run_cons, and_assoc]

/-! ### The start -/

section Start

variable (boot : Boot)

theorem start_ctx :
    boot.start.ctx = { Ctx.zero with
      params := boot.params
      phyMtu := phyGetMtu boot.phy
      nodes := fun index => { Node.zero with addr := BitVec.ofNat 8 (index.val + 1) }
      bseq := (boot.rand 0).setWidth 8
      dseq := (boot.rand 1).setWidth 8
      state := if boot.params.coordinator then .registered else .unregistered
      netId := if boot.params.coordinator then (boot.rand 2).setWidth 8 else networkAny
      addr := if boot.params.coordinator then 0#8 else addrUnassigned } := by
  unfold Boot.start tinymacInit
  cases boot.params.coordinator <;> cases boot.params.sleepy <;> rfl

@[simp] theorem start_params : boot.start.ctx.params = boot.params := by rw [start_ctx]
@[simp] theorem start_phyMtu : boot.start.ctx.phyMtu = phyGetMtu boot.phy := by rw [start_ctx]
@[simp] theorem start_nodes (index : Slot) : boot.start.ctx.nodes index =
    { Node.zero with addr := BitVec.ofNat 8 (index.val + 1) } := by rw [start_ctx]
@[simp] theorem start_addr : boot.start.ctx.addr =
    if boot.params.coordinator then 0#8 else addrUnassigned := by rw [start_ctx]
@[simp] theorem start_netId : boot.start.ctx.netId =
    if boot.params.coordinator then (boot.rand 2).setWidth 8 else networkAny := by rw [start_ctx]
@[simp] theorem start_state : boot.start.ctx.state =
    if boot.params.coordinator then .registered else .unregistered := by rw [start_ctx]
@[simp] theorem start_dseq : boot.start.ctx.dseq = (boot.rand 1).setWidth 8 := by rw [start_ctx]
@[simp] theorem start_coord : boot.start.ctx.coord = Node.zero := by rw [start_ctx]; rfl
@[simp] theorem start_timer : boot.start.ctx.timer = Timer.zero := by rw [start_ctx]; rfl
@[simp] theorem start_built : boot.start.built = 0 := by
  unfold Boot.start tinymacInit
  cases boot.params.sleepy <;> rfl

theorem start_out : boot.start.out = if boot.params.sleepy then [] else [.phyListen] := by
  unfold Boot.start tinymacInit
  cases boot.params.sleepy <;> rfl

end Start

end TinyHan.Tinymac
