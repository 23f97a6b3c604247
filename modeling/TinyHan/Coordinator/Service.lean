/-
**A packet for one node, from `tinymac_send` to its callback.**

The stages a packet goes through on the coordinator's side, each as an equation for the slot, the
frames that go on the air and the callbacks that are invoked for the slot (`completions`):

* `send_awake`, `send_sleepy` — the packet is sent at once, or kept until the node calls in;
* `tick_rests` — a tick leaves a packet that is kept alone, while its validity lasts;
* `call_releases` — a frame from the node is answered with the packet that waits;
* `ack_settles` — the acknowledgement of the packet completes it with success, once.
-/

import TinyHan.Coordinator.Registry

namespace TinyHan.Tinymac

open TinyHan.Lib

/-- The callback an event invokes for a slot, with its result. -/
def Event.completion (index : Slot) : Event → Option (SendCb × Int)
  | .sendCb (.slot other) _ cb result => if other = index then some (cb, result) else none
  | _ => none

/-- The callbacks a log invoked for a slot, with their results, in order. -/
def completions (index : Slot) (out : List Event) : List (SendCb × Int) :=
  out.filterMap (Event.completion index)

theorem completion_silent (index : Slot) (event : Event) (silent : event.silent) :
    event.completion index = none := by
  cases event <;> first | exact silent.elim | rfl

theorem completion_standby (index : Slot) (event : Event) (standby : event.standby) :
    event.completion index = none :=
  completion_silent index event (Event.silent_of_standby standby)

section Lookup

variable {σ : Mac} (hub : Hub σ) {index : Slot} (live : (σ.ctx.nodes index).live = true)

include hub

theorem Hub.assigned (index : Slot) :
    (σ.ctx.nodes index).addr ≠ 0#8 ∧ (σ.ctx.nodes index).addr ≠ addrUnassigned := by
  rw [hub.registry.addr]
  exact slotAddr_ne index

include live

/-- A live slot is found by its address. -/
theorem Hub.lookup :
    tinymacGetNodeByAddr σ.ctx (σ.ctx.nodes index).addr = some (.slot index) := by
  have unique (other : Slot) (same : (σ.ctx.nodes other).addr = (σ.ctx.nodes index).addr) :
      other = index := by
    rw [hub.registry.addr, hub.registry.addr] at same
    exact slotAddr_injective same
  rw [tinymacGetNodeByAddr, if_pos hub.coordinator.role, Option.map_eq_some_iff]
  refine ⟨index, find?_finRange_eq_some.mpr ⟨by simpa [Node.live] using live, ?_⟩, rfl⟩
  intro earlier before
  have different : (σ.ctx.nodes earlier).addr ≠ (σ.ctx.nodes index).addr := fun same =>
    absurd (unique earlier same) before.ne
  simp [different]

/-- A frame from the address of a live slot is heard, acknowledged if it asks for it, answered with
what waits for the node, and handled by its type. -/
theorem Hub.recv {frame : Frame} (real : σ.ctx.netId ≠ networkAny)
    (network : frame.hdr.netId = σ.ctx.netId) (dest : frame.hdr.destAddr = 0#8)
    (source : frame.hdr.srcAddr = (σ.ctx.nodes index).addr) (rssi : Int) :
    σ.step (.frame frame rssi) =
      tinymacRecvType (tinymacRecvKnown (tinymacRecvStandby σ frame.hdr) (.slot index) frame.hdr
        rssi) (some (.slot index)) frame.hdr frame.memory frame.bytes.length := by
  obtain ⟨other, assigned⟩ := hub.assigned index
  have found := hub.lookup live
  have handles : σ.ctx.handles (readHeader frame.memory) frame.bytes.length = true := by
    rw [readHeader_frame]
    simp [Ctx.handles, Ctx.accepts, Ctx.addressed, Ctx.admitted, network, dest, source, found,
      hub.coordinator.addr, other, assigned, real]
  have unassigned : ¬ frame.hdr.srcAddr = addrUnassigned := by rwa [source]
  have heard : σ.hear frame.hdr rssi = tinymacRecvKnown (tinymacRecvStandby σ frame.hdr)
      (.slot index) frame.hdr rssi := by
    unfold Mac.hear
    dsimp only
    rw [if_neg unassigned, recvStandby_ctx, source, found]
  show tinymacRecvCb σ frame.memory frame.bytes.length rssi = _
  rw [recv_handled σ hub.coordinator _ _ rssi handles, readHeader_frame, heard, Ctx.source,
    if_neg unassigned, source, found]

end Lookup

/-! ### Sending -/

/-- The validity of a packet: its own, or the heartbeat interval of the node if it is zero. -/
def Node.validity (node : Node) (validity : BitVec 16) : BitVec 16 :=
  if validity = 0#16 then BitVec.ofNat 16 node.heartbeat else validity

section Send

variable {σ : Mac} (hub : Hub σ) {index : Slot} (idle : (σ.ctx.nodes index).state = .registered)
  {type : BitVec 8} (data : typeRawData ≤ type &&& flagsTypeMask.setWidth 8)
  {payload : List Byte} (fits : σ.ctx.fits payload) (validity : BitVec 16) (cb : Option SendCb)

include hub idle data

/-- `tinymac_send` to the address of a slot that is Registered. -/
theorem send_slot :
    tinymacSend σ (σ.ctx.nodes index).addr type payload validity cb =
      tinymacTxPacket σ (some (.slot index)) type payload
        ((σ.ctx.nodes index).validity validity) cb := by
  have live : (σ.ctx.nodes index).live = true := by simp [Node.live, idle]
  rw [tinymacSend, if_neg (BitVec.not_lt.mpr data), hub.lookup live]
  rfl

include fits

/-- A packet for a node that is awake goes on the air, and waits for its acknowledgement if it asks
for one. -/
theorem send_awake (awake : (σ.ctx.nodes index).sleepy = false) :
    let after := (tinymacSend σ (σ.ctx.nodes index).addr type payload validity cb).2
    after.sentSince σ = [⟨σ.ctx.buildHeader (some (.slot index)) type, payload⟩] ∧
      completions index after.out = completions index σ.out ∧
      (ackRequested type = true →
        (after.ctx.nodes index).state = .waitAck ∧
        (after.ctx.nodes index).pendingHeader = σ.ctx.buildHeader (some (.slot index)) type ∧
        (after.ctx.nodes index).sendCb = cb) := by
  intro after
  have shape : after = (tinymacTxPacket σ (some (.slot index)) type payload
      ((σ.ctx.nodes index).validity validity) cb).2 := by
    simp only [after]
    rw [send_slot hub idle data]
  refine ⟨sentSince_of_frames ?_, ?_, fun ack => ?_⟩
  · rw [shape]
    exact txPacket_unicast_frames σ (.slot index) type payload _ cb fits idle awake
  · rw [shape]
    exact Emits.filterMap_eq (txPacket_emits σ _ type payload _ cb (completion_standby index)
      (fun _ => rfl) fun _ _ _ _ _ => rfl)
  · rw [shape, txPacket_unicast_ctx _ _ _ _ _ _ fits, modify_slot_nodes_self, Ctx.nextSeq_nodes]
    simp [Node.accept, idle, awake, ack]

/-- A packet for a sleepy node is kept. -/
theorem send_sleepy (sleepy : (σ.ctx.nodes index).sleepy = true) :
    let after := (tinymacSend σ (σ.ctx.nodes index).addr type payload validity cb).2
    after.ctx.nodes index =
        ((((σ.ctx.nodes index).hold (σ.built + 1) (σ.ctx.buildHeader (some (.slot index)) type)
          payload cb).armValidity σ.ctx.tickCount ((σ.ctx.nodes index).validity validity)).setState
            .sendPending) ∧
      after.ctx.tickCount = σ.ctx.tickCount ∧
      completions index after.out = completions index σ.out := by
  intro after
  have shape : after = (tinymacTxPacket σ (some (.slot index)) type payload
      ((σ.ctx.nodes index).validity validity) cb).2 := by
    simp only [after]
    rw [send_slot hub idle data]
  refine ⟨?_, ?_, ?_⟩
  · rw [shape, txPacket_unicast_ctx _ _ _ _ _ _ fits, modify_slot_nodes_self, Ctx.nextSeq_nodes]
    simp [Node.accept, idle, sleepy]
  · rw [shape, txPacket_unicast_ctx _ _ _ _ _ _ fits]
    rfl
  · rw [shape]
    exact Emits.filterMap_eq (txPacket_emits σ _ type payload _ cb (completion_standby index)
      (fun _ => rfl) fun _ _ _ _ _ => rfl)

end Send

/-! ### Waiting for the node -/

/-- A record that the next tick leaves alone: it is not checked for its heartbeat, and its timers
are not due. -/
structure Node.Rests (node : Node) (now : BitVec 32) : Prop where
  state : node.state ≠ .registered
  ack : node.ackTimer.due now = false
  validity : node.validityTimer.due now = false

section Ticks

variable {index : Slot}

/-- The share of a slot in a tick is nothing, while it rests. -/
theorem tickSlot_rests {σ : Mac} (rests : (σ.ctx.nodes index).Rests σ.ctx.tickCount) :
    tickSlot σ index = σ := by
  have ack : σ.timerDue (.ack (.slot index)) = false := rests.ack
  have validity : σ.timerDue (.validity (.slot index)) = false := rests.validity
  have state : ¬ ((σ.node (.slot index)).state = .registered ∧
      (σ.node (.slot index)).heartbeatExpired σ.ctx.tickCount = true) := fun both =>
    rests.state both.1
  unfold tickSlot
  dsimp only
  rw [if_neg state, tinymacDespatchTimer, tinymacDespatchTimer, ack, if_neg Bool.false_ne_true,
    validity, if_neg Bool.false_ne_true]

/-- The share of another slot in a tick invokes no callback for this one. -/
theorem tickSlot_other (σ : Mac) {other : Slot} (different : other ≠ index) :
    Emits (fun event => event.completion index = none) σ (tickSlot σ other) := by
  exact tickSlot_emits σ other (completion_standby index) (fun _ => rfl)
    (fun _ _ => if_neg different) rfl

/-- The loop of a tick invokes no callback for a slot that rests. -/
theorem foldl_tickSlot_rests (rest : List Slot) {σ : Mac}
    (rests : (σ.ctx.nodes index).Rests σ.ctx.tickCount) :
    Emits (fun event => event.completion index = none) σ (rest.foldl tickSlot σ) := by
  induction rest generalizing σ with
  | nil => exact .refl σ
  | cons first rest ih =>
      rw [List.foldl_cons]
      by_cases same : first = index
      · subst same
        rw [tickSlot_rests rests]
        exact ih rests
      · refine (tickSlot_other σ same).trans (ih ?_)
        rw [tickSlot_ctx, modify_slot_nodes_of_ne _ _ (Ne.symm same), modify_tickCount]
        exact rests

/-- **A tick leaves a slot that rests alone**, and invokes no callback for it. -/
theorem tick_rests {σ : Mac} (coordinator : Coordinator σ.ctx)
    (rests : (σ.ctx.nodes index).Rests σ.ctx.tickCount) :
    (σ.step .tick).ctx.nodes index = σ.ctx.nodes index ∧
      completions index (σ.step .tick).out = completions index σ.out := by
  have ctx : (σ.step .tick).ctx = σ.ctx.tickBeacon.tickNodes.nextTick :=
    tick_coordinator_ctx σ coordinator.role
  refine ⟨?_, Emits.filterMap_eq ?_⟩
  · rw [ctx, Ctx.nextTick_nodes, Ctx.tickNodes_nodes, tickBeacon_nodes, tickBeacon_tickCount,
      Node.tick, Node.checkHeartbeat, if_neg fun both => rests.state both.1, Node.despatchAck,
      rests.ack, if_neg Bool.false_ne_true, Node.despatchValidity, rests.validity,
      if_neg Bool.false_ne_true]
  · rw [step_tick coordinator]
    refine Emits.trans ?_ (.of_out_eq (update_out ..))
    refine (beginSlot_emits σ (completion_standby index) fun _ => rfl).trans
      (foldl_tickSlot_rests slots ?_)
    rwa [beginSlot_ctx coordinator, tickBeacon_nodes, tickBeacon_tickCount]

end Ticks

/-! ### Completion -/

/-- A slot waits for the acknowledgement of a packet, and its callback was not invoked since
`before`. -/
structure Waits (σ : Mac) (index : Slot) (seq : BitVec 8) (cb : SendCb)
    (before : List (SendCb × Int)) : Prop where
  state : (σ.ctx.nodes index).state = .waitAck
  seq : (σ.ctx.nodes index).pendingHeader.seq = seq
  held : (σ.ctx.nodes index).sendCb = some cb
  silent : completions index σ.out = before

/-- A slot is idle again, and the callback of its packet was invoked once since `before`, with
success. -/
structure Settled (σ : Mac) (index : Slot) (cb : SendCb) (before : List (SendCb × Int)) : Prop where
  state : (σ.ctx.nodes index).state = .registered
  ack : (σ.ctx.nodes index).ackTimer.armed = false
  validity : (σ.ctx.nodes index).validityTimer.armed = false
  once : completions index σ.out = before ++ [(cb, 0)]

section Completion

variable {σ : Mac} {index : Slot} {seq : BitVec 8} {cb : SendCb} {before : List (SendCb × Int)}

/-- The acknowledgement of the packet settles it. -/
theorem Waits.acked (waits : Waits σ index seq cb before) {hdr : Header} (same : hdr.seq = seq) :
    Settled (tinymacRxAck σ (some (.slot index)) hdr) index cb before := by
  have shape : tinymacRxAck σ (some (.slot index)) hdr =
      (σ.modify (.slot index) fun node =>
        ((node.setState .registered).cancelAck).cancelValidity).emit
        (.sendCb (.slot index) (σ.ctx.nodes index).pendingId cb 0) := by
    have waiting : (σ.node (.slot index)).state = .waitAck ∧
        hdr.seq = (σ.node (.slot index)).pendingHeader.seq :=
      ⟨waits.state, same.trans waits.seq.symm⟩
    have held : ((σ.modify (.slot index) fun node =>
        ((node.setState .registered).cancelAck).cancelValidity).node (.slot index)).sendCb =
        some cb := by
      rw [mac_node, mac_modify_ctx, modify_node _ (.slot index) _ nofun]
      exact waits.held
    simp only [tinymacRxAck, if_pos waiting, Mac.invokeSendCb, held]
    rw [mac_node, mac_modify_ctx, modify_node _ (.slot index) _ nofun]
    rfl
  have slot : (tinymacRxAck σ (some (.slot index)) hdr).ctx.nodes index =
      (((σ.ctx.nodes index).setState .registered).cancelAck).cancelValidity := by
    rw [shape, emit_ctx, mac_modify_ctx, modify_slot_nodes_self]
  refine ⟨by rw [slot]; rfl, by rw [slot]; rfl, by rw [slot]; rfl, ?_⟩
  rw [shape, emit_out, mac_modify_out, completions, List.filterMap_append, ← completions,
    waits.silent]
  simp [Event.completion]

/-- A second acknowledgement changes nothing. -/
theorem Settled.acked (settled : Settled σ index cb before) (hdr : Header) :
    tinymacRxAck σ (some (.slot index)) hdr = σ := by
  have idle : ¬ ((σ.node (.slot index)).state = .waitAck ∧
      hdr.seq = (σ.node (.slot index)).pendingHeader.seq) := by
    rintro ⟨waiting, -⟩
    cases waiting.symm.trans settled.state
  simp only [tinymacRxAck, if_neg idle]

/-- What a slot is, and the callbacks invoked for it, decide whether its packet is settled. -/
theorem Settled.of_same (settled : Settled σ index cb before) {τ : Mac} {now : BitVec 32}
    {rssi : Int} (slot : τ.ctx.nodes index = (σ.ctx.nodes index).heard now rssi)
    (silent : completions index τ.out = completions index σ.out) :
    Settled τ index cb before := by
  refine ⟨?_, ?_, ?_, silent.trans settled.once⟩
  · rw [slot]
    exact settled.state
  · rw [slot]
    exact settled.ack
  · rw [slot]
    exact settled.validity

theorem Waits.of_same (waits : Waits σ index seq cb before) {τ : Mac} {now : BitVec 32}
    {rssi : Int} (slot : τ.ctx.nodes index = (σ.ctx.nodes index).heard now rssi)
    (silent : completions index τ.out = completions index σ.out) :
    Waits τ index seq cb before := by
  refine ⟨?_, ?_, ?_, silent.trans waits.silent⟩
  · rw [slot]
    exact waits.state
  · rw [slot]
    exact waits.seq
  · rw [slot]
    exact waits.held

end Completion

/-- The state after a frame from a node was heard and what waited was released. -/
def Mac.heardFrom (σ : Mac) (index : Slot) (hdr : Header) (rssi : Int) : Mac :=
  tinymacRecvKnown (tinymacRecvStandby σ hdr) (.slot index) hdr rssi

section Heard

variable (σ : Mac) (index : Slot) (hdr : Header) (rssi : Int)

theorem heardFrom_slot :
    (σ.heardFrom index hdr rssi).ctx.nodes index =
      ((σ.ctx.nodes index).heard σ.ctx.tickCount rssi).release σ.ctx.tickCount := by
  rw [Mac.heardFrom, recvKnown_ctx, recvStandby_ctx, modify_slot_nodes_self]

theorem heardFrom_frames :
    frames (σ.heardFrom index hdr rssi).out =
      frames σ.out ++ (σ.ctx.answer (.slot index) hdr ++ σ.ctx.kept (.slot index)) := by
  rw [Mac.heardFrom, recvKnown_frames _ (.slot index) slot_kept, recvStandby_frames,
    recvStandby_ctx, List.append_assoc]

theorem heardFrom_completions
    (waits : (σ.ctx.nodes index).state = .sendPending →
      (σ.ctx.nodes index).pendingHeader.ackRequest = true) :
    completions index (σ.heardFrom index hdr rssi).out = completions index σ.out := by
  refine Emits.filterMap_eq ((recvStandby_emits σ hdr (completion_standby index)).trans
    (recvKnown_emits _ (.slot index) slot_kept hdr rssi (completion_standby index)
      (fun _ => rfl) (fun _ => rfl) ?_))
  intro cb pending plain
  rw [recvStandby_ctx] at pending plain
  cases plain.symm.trans (waits pending)

/-- The application hears of a data frame, and no slot does. -/
theorem recvType_data (ptr : Option NodePtr) (buf : Memory) (size : Nat)
    (kind : hdr.type = PacketType.poll.code ∨ typeRawData ≤ hdr.type) :
    (tinymacRecvType σ ptr hdr buf size).ctx = σ.ctx ∧
      frames (tinymacRecvType σ ptr hdr buf size).out = frames σ.out ∧
      completions index (tinymacRecvType σ ptr hdr buf size).out = completions index σ.out := by
  rcases kind with poll | data
  · rw [recvType_control _ _ _ _ _ .poll poll]
    exact ⟨rfl, rfl, rfl⟩
  · rw [tinymacRecvType, if_pos data]
    split
    · refine ⟨rfl, ?_, ?_⟩
      · rw [emit_out, frames_append]
        exact List.append_nil _
      · rw [emit_out, completions, List.filterMap_append]
        exact List.append_nil _
    · exact ⟨rfl, rfl, rfl⟩

end Heard

section Frames

variable {σ : Mac} (hub : Hub σ) {index : Slot} {frame : Frame} (real : σ.ctx.netId ≠ networkAny)
  (network : frame.hdr.netId = σ.ctx.netId) (dest : frame.hdr.destAddr = 0#8)
  (source : frame.hdr.srcAddr = (σ.ctx.nodes index).addr) (rssi : Int)

include hub real network dest source

/-- **A call from the node releases what waits for it.** A packet that asks for an acknowledgement
then waits for one; an acknowledgement that happens to name it settles it. -/
theorem call_releases (pending : (σ.ctx.nodes index).state = .sendPending)
    (kind : frame.hdr.type = PacketType.poll.code ∨ typeRawData ≤ frame.hdr.type ∨
      frame.hdr.type = PacketType.ack.code) :
    let after := σ.step (.frame frame rssi)
    after.sentSince σ = σ.ctx.answer (.slot index) frame.hdr ++
        [⟨(σ.ctx.nodes index).pendingHeader, (σ.ctx.nodes index).pending⟩] ∧
      ∀ cb, (σ.ctx.nodes index).pendingHeader.ackRequest = true →
        (σ.ctx.nodes index).sendCb = some cb →
        Waits after index (σ.ctx.nodes index).pendingHeader.seq cb (completions index σ.out) ∨
          Settled after index cb (completions index σ.out) := by
  intro after
  have live : (σ.ctx.nodes index).live = true := by simp [Node.live, pending]
  have shape : after = tinymacRecvType (σ.heardFrom index frame.hdr rssi) (some (.slot index))
      frame.hdr frame.memory frame.bytes.length := hub.recv live real network dest source rssi
  have packet : σ.ctx.kept (.slot index) =
      [⟨(σ.ctx.nodes index).pendingHeader, (σ.ctx.nodes index).pending⟩] := if_pos pending
  have released := heardFrom_frames σ index frame.hdr rssi
  rw [packet] at released
  have waits (cb : SendCb) (ack : (σ.ctx.nodes index).pendingHeader.ackRequest = true)
      (held : (σ.ctx.nodes index).sendCb = some cb) :
      Waits (σ.heardFrom index frame.hdr rssi) index (σ.ctx.nodes index).pendingHeader.seq cb
        (completions index σ.out) := by
    have slot := heardFrom_slot σ index frame.hdr rssi
    have pending : ((σ.ctx.nodes index).heard σ.ctx.tickCount rssi).state = .sendPending := pending
    have ack' : ((σ.ctx.nodes index).heard σ.ctx.tickCount rssi).pendingHeader.ackRequest = true :=
      ack
    rw [Node.release, if_pos pending, if_pos ack'] at slot
    refine ⟨by rw [slot]; rfl, by rw [slot]; rfl, by rw [slot]; exact held, ?_⟩
    exact heardFrom_completions σ index frame.hdr rssi fun _ => ack
  generalize σ.heardFrom index frame.hdr rssi = heard at *
  rcases or_assoc.mpr kind with quiet | acked
  · obtain ⟨ctx, sent, silent⟩ := recvType_data heard index frame.hdr (some (.slot index))
      frame.memory frame.bytes.length quiet
    rw [← shape] at ctx sent silent
    refine ⟨sentSince_of_frames (sent.trans released), fun cb ack held => .inl ?_⟩
    obtain ⟨state, seq, sendCb, before⟩ := waits cb ack held
    exact ⟨by rw [ctx, state], by rw [ctx, seq], by rw [ctx, sendCb], silent.trans before⟩
  · rw [recvType_control _ _ _ _ _ .ack acked] at shape
    replace shape : after = tinymacRxAck heard (some (.slot index)) frame.hdr := shape
    refine ⟨sentSince_of_frames ?_, fun cb ack held => ?_⟩
    · rw [shape, Emits.offAir_frames
        (rxAck_emits _ (.slot index) slot_kept _ fun _ _ _ => trivial), released]
    · have waiting := waits cb ack held
      by_cases same : frame.hdr.seq = (σ.ctx.nodes index).pendingHeader.seq
      · rw [shape]
        exact .inr (waiting.acked same)
      · have other : ¬ ((heard.node (.slot index)).state = .waitAck ∧
            frame.hdr.seq = (heard.node (.slot index)).pendingHeader.seq) := fun both =>
          same (both.2.trans waiting.seq)
        simp only [tinymacRxAck, if_neg other] at shape
        rw [shape]
        exact .inl waiting

/-- **The acknowledgement of a packet settles it**, unless it is settled already. -/
theorem ack_settles {seq : BitVec 8} {cb : SendCb} {before : List (SendCb × Int)}
    (sent : Waits σ index seq cb before ∨ Settled σ index cb before)
    (ack : frame.hdr.type = PacketType.ack.code) (same : frame.hdr.seq = seq) :
    Settled (σ.step (.frame frame rssi)) index cb before := by
  have idle : (σ.ctx.nodes index).state ≠ .sendPending ∧ (σ.ctx.nodes index).live = true := by
    rcases sent with waits | settled
    · simp [waits.state, Node.live]
    · simp [settled.state, Node.live]
  have slot : (σ.heardFrom index frame.hdr rssi).ctx.nodes index =
      (σ.ctx.nodes index).heard σ.ctx.tickCount rssi := by
    rw [heardFrom_slot, Node.release]
    exact if_neg idle.1
  have silent := heardFrom_completions σ index frame.hdr rssi fun pending => absurd pending idle.1
  have shape : σ.step (.frame frame rssi) =
      tinymacRxAck (σ.heardFrom index frame.hdr rssi) (some (.slot index)) frame.hdr := by
    rw [hub.recv idle.2 real network dest source rssi, recvType_control _ _ _ _ _ .ack ack]
    rfl
  rw [shape]
  rcases sent with waits | settled
  · exact (waits.of_same slot silent).acked same
  · have still := settled.of_same slot silent
    rw [still.acked]
    exact still

end Frames

end TinyHan.Tinymac
