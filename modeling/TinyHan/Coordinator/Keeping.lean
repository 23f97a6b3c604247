/-
**A packet that is kept for a sleepy node.**

`tinymac_send` leaves a packet for a sleepy node in the node's slot, with the validity timer armed,
until a frame from the node releases it. In between the coordinator ticks, serves its other nodes
and is asked to send more. None of this reaches the slot: as long as the node is not heard and the
validity lasts, every step leaves the record as it is and invokes no callback for it (`step_keeps`),
and so does a whole run (`run_keeps`).
-/

import TinyHan.Coordinator.Heartbeat

namespace TinyHan.Tinymac

open TinyHan.Lib

/-- The record keeps a packet until its node calls in: it waits for no acknowledgement, and the
validity of the packet is being timed. -/
structure Node.Keeping (node : Node) : Prop where
  state : node.state = .sendPending
  ack : node.ackTimer.armed = false
  validity : node.validityTimer.armed = true

/-! ### What a step logs for other slots -/

section Logged

variable (σ : Mac) (index : Slot)

theorem txPacket_completes_none (dest : Option NodePtr) (type : BitVec 8) (payload : List Byte)
    (validity : BitVec 16) (cb : Option SendCb) :
    Emits (fun event => event.completion index = none) σ
      (tinymacTxPacket σ dest type payload validity cb).2 :=
  txPacket_emits σ dest type payload validity cb (completion_standby index) (fun _ => rfl)
    fun _ _ _ _ _ => rfl

theorem send_completes_none (dest type : BitVec 8) (payload : List Byte) (validity : BitVec 16)
    (cb : Option SendCb) :
    Emits (fun event => event.completion index = none) σ
      (tinymacSend σ dest type payload validity cb).2 := by
  unfold tinymacSend
  split
  · exact .refl σ
  · split
    · exact .refl σ
    · exact txPacket_completes_none ..

end Logged

section Elsewhere

variable {σ : Mac} (coordinator : Coordinator σ.ctx) {index : Slot}

include coordinator

theorem hear_completes_none {hdr : Header} (other : hdr.srcAddr ≠ (σ.ctx.nodes index).addr)
    (rssi : Int) :
    Emits (fun event => event.completion index = none) σ (σ.hear hdr rssi) := by
  refine hear_emits coordinator.role hdr rssi (completion_standby index) (fun _ => rfl)
    (fun _ _ => rfl) fun source _ addr _ _ => if_neg fun same => other ?_
  rw [← same, addr]

theorem rxRegistrationRequest_completes_none (buf : Memory) :
    Emits (fun event => event.completion index = none) σ (tinymacRxRegistrationRequest σ buf) := by
  rw [rxRegistrationRequest_eq σ buf coordinator.role]
  have answered := Emits.trans (.of_out_eq (registerSlot_out σ (readRegistrationRequest buf)))
    (txPacket_completes_none (σ.registerSlot (readRegistrationRequest buf)) index none
      PacketType.registrationResponse.code
      (σ.ctx.registrationResponse (readRegistrationRequest buf)).bytes 0#16 none)
  exact iteInduction (fun _ => answered.emit rfl) fun _ => answered

omit coordinator in
theorem rxDeregistrationRequest_completes_none (hdr : Header) (buf : Memory) :
    Emits (fun event => event.completion index = none) σ
      (tinymacRxDeregistrationRequest σ hdr buf) := by
  unfold tinymacRxDeregistrationRequest
  dsimp only
  split
  · exact .refl σ
  · split
    · exact .refl σ
    · split
      · exact .refl σ
      · exact (txPacket_completes_none ..).trans (deregister_emits _ _ rfl)

/-- The handler of a frame that is not from the slot. -/
theorem recvType_completes_none {source : Option Slot} (other : source ≠ some index)
    (buf : Memory) (size : Nat) :
    Emits (fun event => event.completion index = none) σ
      (tinymacRecvType σ (source.map .slot) (readHeader buf) buf size) := by
  have role := coordinator.role
  unfold tinymacRecvType
  split
  · exact iteInduction (fun _ => emit_emits σ rfl) fun _ => .refl σ
  · split
    case h_2 => exact .refl σ
    case h_1 type known =>
      unfold tinymacRecvControl
      cases type with
      | beacon => simpa [tinymacRxBeacon, role] using .refl σ
      | ack =>
          cases source with
          | none => exact .refl σ
          | some slot =>
              exact rxAck_emits σ (.slot slot) slot_kept _ fun _ _ _ =>
                if_neg fun same => other (congrArg some same)
      | poll => exact .refl σ
      | beaconRequest => exact txBeacon_emits σ false (completion_standby index) fun _ => rfl
      | registrationRequest =>
          exact iteInduction (fun _ => .refl σ) fun _ =>
            rxRegistrationRequest_completes_none coordinator buf
      | deregistrationRequest =>
          exact iteInduction (fun _ => .refl σ) fun _ =>
            rxDeregistrationRequest_completes_none _ buf
      | registrationResponse => simpa [tinymacRxRegistrationResponse, role] using .refl σ

end Elsewhere

/-! ### One step -/

section Step

variable {σ : Mac} (hub : Hub σ) {index : Slot}

/-- A frame from the address of a slot that is live is heard there. -/
theorem unheard_source (live : (σ.ctx.nodes index).live = true) {buf : Memory} {size : Nat}
    {rssi : Int} (unheard : ¬ σ.ctx.HearsSlot index (.recv buf size rssi))
    (handles : σ.ctx.handles (readHeader buf) size = true) :
    (readHeader buf).srcAddr ≠ (σ.ctx.nodes index).addr := by
  intro source
  rw [Ctx.handles, Bool.and_eq_true] at handles
  exact unheard (.inr ⟨buf, size, rssi, rfl, handles.1, source, live⟩)

include hub

/-- A frame that is not heard from a slot with a kept packet leaves its record. -/
theorem recv_keeps (keeping : (σ.ctx.nodes index).Keeping) {buf : Memory} {size : Nat} {rssi : Int}
    (unheard : ¬ σ.ctx.HearsSlot index (.recv buf size rssi)) :
    (tinymacRecvCb σ buf size rssi).ctx.nodes index = σ.ctx.nodes index := by
  have role := hub.coordinator.role
  cases handles : σ.ctx.handles (readHeader buf) size with
  | false => rw [recv_unhandled hub.coordinator buf size rssi handles]
  | true =>
      have live : (σ.ctx.nodes index).live = true := by simp [Node.live, keeping.state]
      have other := unheard_source live unheard handles
      have quiet := hear_elsewhere σ.ctx role rssi other
      have handled := recv_handled_slot hub.coordinator buf size index rssi handles
      rw [quiet] at handled
      generalize (tinymacRecvCb σ buf size rssi).ctx.nodes index = after at handled ⊢
      cases handled with
      | kept => rfl
      | acked waiting => cases keeping.state.symm.trans waiting
      | registered type long given =>
          rw [hear_registrationSlot role] at given
          refine absurd (.inl ⟨?_, given⟩) unheard
          simp [Ctx.reachesRegistration, handles, type, long]
      | detached now id hdr payload type long found uuid =>
          have heard := (hub.coordinator.hear (readHeader buf) rssi).role
          rw [hear_ctx] at heard
          obtain ⟨source, is, addr, -⟩ := getNodeByAddr_coordinator heard found
          cases is
          rw [quiet] at addr
          exact absurd addr.symm other

/-- Nor is a callback invoked for the slot. -/
theorem recv_completes_none (keeping : (σ.ctx.nodes index).Keeping) {buf : Memory} {size : Nat}
    {rssi : Int} (unheard : ¬ σ.ctx.HearsSlot index (.recv buf size rssi)) :
    Emits (fun event => event.completion index = none) σ (tinymacRecvCb σ buf size rssi) := by
  have coordinator := hub.coordinator
  cases handles : σ.ctx.handles (readHeader buf) size with
  | false =>
      rcases recv_unhandled_cases coordinator buf size rssi handles with
        ⟨-, same⟩ | ⟨-, -, expels⟩
      · rw [same]
        exact .refl σ
      · rw [expels]
        exact (recvStandby_emits σ _ (completion_standby index)).trans
          (txPacket_completes_none ..)
  | true =>
      have live : (σ.ctx.nodes index).live = true := by simp [Node.live, keeping.state]
      have other := unheard_source live unheard handles
      obtain ⟨source, is, found⟩ := source_slot coordinator.role (readHeader buf)
      have elsewhere : source ≠ some index := by
        intro same
        obtain ⟨slot, at_slot, addr, -⟩ :=
          getNodeByAddr_coordinator coordinator.role (found index same)
        cases at_slot
        exact other addr.symm
      rw [recv_handled σ coordinator buf size rssi handles, is]
      exact (hear_completes_none coordinator other rssi).trans
        (recvType_completes_none (coordinator.hear _ rssi) elsewhere buf size)

/-- **A step keeps the packet** of a node that it does not hear, unless it is the tick at which the
validity is over. -/
theorem step_keeps (keeping : (σ.ctx.nodes index).Keeping)
    (near : 2 * ahead σ.ctx.tickCount (σ.ctx.nodes index).validityTimer.expiry ≤ 2 ^ 32)
    {input : Input}
    (early : input.isTick = true →
      ahead σ.ctx.tickCount (σ.ctx.nodes index).validityTimer.expiry ≠ 0)
    (unheard : ¬ σ.ctx.HearsSlot index input) :
    (σ.step input).ctx.nodes index = σ.ctx.nodes index ∧
      completions index (σ.step input).out = completions index σ.out := by
  cases input with
  | tick =>
      have rests : (σ.ctx.nodes index).Rests σ.ctx.tickCount := by
        refine ⟨by simp [keeping.state], due_of_disarmed _ keeping.ack, ?_⟩
        rw [← Bool.not_eq_true, due_iff keeping.validity near]
        exact early rfl
      exact tick_rests hub.coordinator rests
  | recv buf size rssi =>
      exact ⟨recv_keeps hub keeping unheard,
        Emits.filterMap_eq (recv_completes_none hub keeping unheard)⟩
  | send dest type payload validity cb =>
      refine ⟨?_, Emits.filterMap_eq (send_completes_none σ index dest type payload validity cb)⟩
      rcases send_at_slot hub.coordinator dest type payload validity cb index with
        same | ⟨validity', accepted⟩
      · exact same
      · refine accepted.trans (if_pos ?_)
        simp [keeping.state]
  | permitAttach | registerRecvCb | registerRegCb | registerDeregCb => exact ⟨rfl, rfl⟩

end Step

/-! ### A run -/

/-- **A packet that is kept stays as it is while its validity lasts**, until its node is heard. -/
theorem run_keeps {index : Slot} (inputs : List Input) {σ : Mac} (hub : Hub σ)
    (keeping : (σ.ctx.nodes index).Keeping)
    (near : 2 * ahead σ.ctx.tickCount (σ.ctx.nodes index).validityTimer.expiry ≤ 2 ^ 32)
    (early : inputs.countP Input.isTick ≤
      ahead σ.ctx.tickCount (σ.ctx.nodes index).validityTimer.expiry)
    (silent : σ.Along (fun ctx input => ¬ ctx.HearsSlot index input) inputs) :
    Hub (σ.run inputs) ∧ (σ.run inputs).ctx.nodes index = σ.ctx.nodes index ∧
      (σ.run inputs).ctx.netId = σ.ctx.netId ∧
      completions index (σ.run inputs).out = completions index σ.out := by
  induction inputs generalizing σ with
  | nil => exact ⟨hub, rfl, rfl, rfl⟩
  | cons input inputs ih =>
      obtain ⟨unheard, silent⟩ := silent
      rw [List.countP_cons] at early
      obtain ⟨same, none⟩ := step_keeps hub keeping near (fun ticks => by
        rw [ticks, if_pos rfl] at early
        omega) unheard
      have netId : (σ.step input).ctx.netId = σ.ctx.netId :=
        congrArg (fun identity => identity.2.2.1) (step_identity σ hub.coordinator input)
      -- a tick brings the end of the validity nearer by one, and no other step moves the clock
      have nearer : ahead (σ.step input).ctx.tickCount (σ.ctx.nodes index).validityTimer.expiry +
          (if input.isTick = true then 1 else 0) =
          ahead σ.ctx.tickCount (σ.ctx.nodes index).validityTimer.expiry := by
        have clock := congrArg Prod.fst (step_clocks σ hub.coordinator input)
        cases ticks : input.isTick with
        | false =>
            rw [ticks, if_neg Bool.false_ne_true] at clock
            rw [show (σ.step input).ctx.tickCount = σ.ctx.tickCount from clock]
            rfl
        | true =>
            rw [ticks, if_pos rfl] at clock early
            rw [show (σ.step input).ctx.tickCount = σ.ctx.tickCount + 1#32 from clock,
              ahead_succ (by omega), if_pos rfl]
            omega
      obtain ⟨hub', kept, network, quiet⟩ := ih (hub.step input) (same.symm ▸ keeping)
        (by rw [same]; omega) (by rw [same]; omega) silent
      exact ⟨hub', kept.trans same, network.trans netId, quiet.trans none⟩

end TinyHan.Tinymac
