/-
**Heartbeat supervision.**

A coordinator notes the tick at which it hears a slot: an accepted frame from the address of a live
slot, or the registration that is given the slot. A tick compares this note with its clock through
the sign of a 32-bit difference. Along a run the note stays and the clock advances with the ticks
(`run_lastHeard`), so the difference is the number of ticks that have gone by, also when the clock
has wrapped in between, and a tick drops a slot exactly when its time is up (`heartbeat_exact`).
-/

import TinyHan.Coordinator.Service
import TinyHan.Coordinator.Timers

namespace TinyHan.Tinymac

open TinyHan.Lib

/-! ### Hearing a slot -/

/-- The coordinator hears a slot: it is given to the registration that is processed, or it is live
and a frame from its address is accepted. -/
def Ctx.HearsSlot (ctx : Ctx) (index : Slot) (input : Input) : Prop :=
  ctx.Allocates index input ∨
    ∃ buf size rssi, input = .recv buf size rssi ∧ ctx.accepts (readHeader buf) size = true ∧
      (readHeader buf).srcAddr = (ctx.nodes index).addr ∧ (ctx.nodes index).live = true

theorem Ctx.HearsSlot.isTick {ctx : Ctx} {index : Slot} {input : Input}
    (hears : ctx.HearsSlot index input) : input.isTick = false := by
  rcases hears with allocates | ⟨buf, size, rssi, rfl, -⟩
  · cases input with
    | tick => exact allocates.elim
    | _ => rfl
  · rfl

/-- Ticks hear no slot. -/
theorem ticks_unheard (σ : Mac) (index : Slot) (ticks : Nat) :
    σ.Along (fun ctx input => ¬ ctx.HearsSlot index input) (List.replicate ticks .tick) := by
  refine along_of_forall σ fun ctx input member hears => ?_
  rw [List.eq_of_mem_replicate member] at hears
  cases hears.isTick

section Records

variable (node : Node) (now : BitVec 32)

theorem Node.release_lastHeard : (node.release now).lastHeard = node.lastHeard := by
  unfold Node.release
  split_ifs <;> rfl

theorem Node.accept_lastHeard (flagsType : BitVec 8) (validity : BitVec 16) (id : Nat)
    (hdr : Header) (payload : List Byte) (cb : Option SendCb) :
    (node.accept now flagsType validity id hdr payload cb).lastHeard = node.lastHeard := by
  unfold Node.accept
  split_ifs <;> rfl

theorem Node.checkHeartbeat_lastHeard : (node.checkHeartbeat now).lastHeard = node.lastHeard := by
  unfold Node.checkHeartbeat
  split_ifs <;> rfl

theorem Node.despatchAck_lastHeard : (node.despatchAck now).lastHeard = node.lastHeard := by
  unfold Node.despatchAck Node.ackExpire
  split_ifs <;> rfl

theorem Node.despatchValidity_lastHeard :
    (node.despatchValidity now).lastHeard = node.lastHeard := by
  unfold Node.despatchValidity
  split_ifs <;> rfl

theorem Node.tick_lastHeard : (node.tick now).lastHeard = node.lastHeard := by
  rw [Node.tick, Node.despatchValidity_lastHeard, Node.despatchAck_lastHeard,
    Node.checkHeartbeat_lastHeard]

end Records

/-- What the handler of a frame makes of the note: nothing, or the time of a registration. -/
theorem Handled.lastHeard {ctx : Ctx} {buf : Memory} {size : Nat} {index : Slot}
    {node after : Node} (handled : Handled ctx buf size index node after) :
    after.lastHeard = node.lastHeard ∨
      after.lastHeard = ctx.tickCount ∧
        (readHeader buf).type = PacketType.registrationRequest.code ∧
        headerSize + registrationRequestSize ≤ size ∧
        ctx.registrationSlot (readRegistrationRequest buf).uuid = some index := by
  cases handled with
  | kept => exact .inl rfl
  | acked waiting => exact .inl rfl
  | registered type long given => exact .inr ⟨rfl, type, long, given⟩
  | detached now id hdr payload type long found uuid =>
      exact .inl (Node.accept_lastHeard ..)

section Step

variable {σ : Mac} (hub : Hub σ) (index : Slot)

include hub

/-- A frame from a live slot is noted. -/
theorem recv_notes {buf : Memory} {size : Nat} (rssi : Int)
    (accepted : σ.ctx.accepts (readHeader buf) size = true)
    (source : (readHeader buf).srcAddr = (σ.ctx.nodes index).addr)
    (live : (σ.ctx.nodes index).live = true) :
    ((tinymacRecvCb σ buf size rssi).ctx.nodes index).lastHeard = σ.ctx.tickCount := by
  have found := hub.lookup live
  have assigned := (hub.assigned index).2
  have handles : σ.ctx.handles (readHeader buf) size = true := by
    simp [Ctx.handles, accepted, source, found]
  have noted : ((σ.ctx.hear (readHeader buf) rssi).nodes index).lastHeard = σ.ctx.tickCount := by
    rw [Ctx.hear, source, if_neg assigned, found]
    dsimp only
    rw [modify_slot_nodes_self, Node.release_lastHeard]
    rfl
  rcases (recv_handled_slot hub.coordinator buf size index rssi handles).lastHeard with
    same | ⟨now, -⟩
  · rw [same, noted]
  · rw [now, hear_tickCount]

/-- So is a registration. -/
theorem allocates_notes {buf : Memory} {size : Nat} (rssi : Int)
    (reaches : σ.ctx.reachesRegistration buf size = true)
    (given : σ.ctx.registrationSlot (readRegistrationRequest buf).uuid = some index) :
    ((tinymacRecvCb σ buf size rssi).ctx.nodes index).lastHeard = σ.ctx.tickCount := by
  rw [recv_registration_slot hub.coordinator rssi reaches, if_pos given, Node.register_lastHeard]

/-- A frame that is not from the slot and does not register it leaves the note. -/
theorem recv_unnoted {buf : Memory} {size : Nat} {rssi : Int}
    (unheard : ¬ σ.ctx.HearsSlot index (.recv buf size rssi)) :
    ((tinymacRecvCb σ buf size rssi).ctx.nodes index).lastHeard =
      (σ.ctx.nodes index).lastHeard := by
  have role := hub.coordinator.role
  cases handles : σ.ctx.handles (readHeader buf) size with
  | false => rw [recv_unhandled hub.coordinator buf size rssi handles]
  | true =>
      have accepted : σ.ctx.accepts (readHeader buf) size = true := by
        rw [Ctx.handles, Bool.and_eq_true] at handles
        exact handles.1
      have quiet : (σ.ctx.hear (readHeader buf) rssi).nodes index = σ.ctx.nodes index := by
        rcases hear_nodes σ.ctx role (readHeader buf) rssi index with same | ⟨live, -⟩
        · exact same
        · refine hear_elsewhere σ.ctx role rssi fun source => unheard (.inr ?_)
          exact ⟨buf, size, rssi, rfl, accepted, source, live⟩
      rcases (recv_handled_slot hub.coordinator buf size index rssi handles).lastHeard with
        same | ⟨-, type, long, given⟩
      · rw [same, quiet]
      · rw [hear_registrationSlot role] at given
        refine absurd (.inl ⟨?_, given⟩) unheard
        simp [Ctx.reachesRegistration, handles, type, long]

/-- **The note of a step**: the time of the step if it hears the slot. -/
theorem step_noted {input : Input} (hears : σ.ctx.HearsSlot index input) :
    ((σ.step input).ctx.nodes index).lastHeard = σ.ctx.tickCount := by
  rcases hears with allocates | ⟨buf, size, rssi, rfl, accepted, source, live⟩
  · cases input with
    | recv buf size rssi => exact allocates_notes hub index rssi allocates.1 allocates.2
    | _ => exact allocates.elim
  · exact recv_notes hub index rssi accepted source live

/-- **The note stays** in a step that does not hear the slot. -/
theorem step_unnoted {input : Input} (unheard : ¬ σ.ctx.HearsSlot index input) :
    ((σ.step input).ctx.nodes index).lastHeard = (σ.ctx.nodes index).lastHeard := by
  cases input with
  | recv buf size rssi => exact recv_unnoted hub index unheard
  | tick => rw [step_tick_nodes hub.coordinator, Node.tick_lastHeard]
  | send dest type buf validity cb =>
      show ((tinymacSend σ dest type buf validity cb).2.ctx.nodes index).lastHeard = _
      rcases send_at_slot hub.coordinator dest type buf validity cb index with same | ⟨_, accepted⟩
      · rw [same]
      · rw [accepted, Node.accept_lastHeard]
  | permitAttach | registerRecvCb | registerRegCb | registerDeregCb => rfl

/-- **Along a run that does not hear the slot** the note stays, and the clock advances with the
ticks. -/
theorem run_lastHeard {inputs : List Input}
    (silent : σ.Along (fun ctx input => ¬ ctx.HearsSlot index input) inputs) :
    ((σ.run inputs).ctx.nodes index).lastHeard = (σ.ctx.nodes index).lastHeard ∧
      (σ.run inputs).ctx.tickCount =
        σ.ctx.tickCount + BitVec.ofNat 32 (inputs.countP Input.isTick) := by
  induction inputs generalizing σ with
  | nil => exact ⟨rfl, (BitVec.add_zero _).symm⟩
  | cons input inputs ih =>
      obtain ⟨unheard, later⟩ := silent
      obtain ⟨noted, clock⟩ := ih (hub.step input) later
      refine ⟨noted.trans (step_unnoted hub index unheard), ?_⟩
      have ticked := congrArg Prod.fst (step_clocks σ hub.coordinator input)
      rw [run_cons, clock, List.countP_cons]
      cases ticks : input.isTick with
      | false =>
          rw [ticks] at ticked
          have stands : (σ.step input).ctx.tickCount = σ.ctx.tickCount := ticked
          simp [stands]
      | true =>
          rw [ticks] at ticked
          have advances : (σ.step input).ctx.tickCount = σ.ctx.tickCount + 1#32 := ticked
          rw [advances, if_pos rfl, Nat.add_comm _ 1, BitVec.ofNat_add, BitVec.add_assoc]

end Step

/-! ### The check of a slot in a tick -/

/-- The state in which the loop of a tick comes to a slot. -/
def Mac.reaching (σ : Mac) (index : Slot) : Mac :=
  (slots.take index).foldl tickSlot σ.beginSlot

/-- The heartbeat check of a slot, the first of its share in a tick. -/
def Mac.checkHeartbeat (σ : Mac) (index : Slot) : Mac :=
  let node := σ.node (.slot index)
  if node.state = .registered ∧ node.heartbeatExpired σ.ctx.tickCount then
    tinymacDeregisterNode σ (.slot index)
  else σ

/-- The tick behind the check of a slot: the timers of the slot, and the slots behind it. -/
def Mac.behindCheck (σ : Mac) (index : Slot) : Mac :=
  ((slots.drop (index + 1)).foldl tickSlot (tinymacDespatchTimer (tinymacDespatchTimer σ
    (.ack (.slot index))) (.validity (.slot index)))).update Ctx.nextTick

/-- **The tick, from the check of a slot on.** -/
theorem tick_reaching {σ : Mac} (role : σ.ctx.params.coordinator = true) (index : Slot) :
    σ.step .tick = ((σ.reaching index).checkHeartbeat index).behindCheck index := by
  have inside : index.val < slots.length := by simp [slots]
  have here : slots[index.val] = index := by simp [slots]
  have parted : slots = slots.take index ++ index :: slots.drop (index + 1) := by
    conv_lhs => rw [← List.take_append_drop index.val slots, List.drop_eq_getElem_cons inside, here]
  have loop : σ.step .tick = (slots.foldl tickSlot σ.beginSlot).update Ctx.nextTick := by
    rw [Mac.step, tinymacTickHandler, if_pos role]
    rfl
  rw [loop]
  conv_lhs => rw [parted, List.foldl_append, List.foldl_cons]
  rfl

/-- The slots before it leave a slot and the clock alone. -/
theorem reaching_slot {σ : Mac} (coordinator : Coordinator σ.ctx) (index : Slot) :
    (σ.reaching index).ctx.nodes index = σ.ctx.nodes index ∧
      (σ.reaching index).ctx.tickCount = σ.ctx.tickCount := by
  have distinct : (slots.take index).Nodup :=
    (List.nodup_finRange maxNodes).sublist (List.take_sublist ..)
  have later : index ∉ slots.take index := by
    intro member
    obtain ⟨place, small, is⟩ := List.mem_take_iff_getElem.mp member
    have value : place = index.val := by simpa [slots, Fin.ext_iff] using is
    omega
  rw [Mac.reaching, foldl_tickSlot_ctx _ distinct, beginSlot_ctx coordinator]
  simp [later]

/-- `TINYMAC_SECONDS(2^h + TINYMAC_HEARTBEAT_GRACE)` for the heartbeat exponent of a record. -/
def Node.heartbeatTicks (node : Node) : Nat := (seconds (node.heartbeat + heartbeatGrace)).toNat

/-- The deadline is far from half a turn of the clock, for each of the sixteen exponents. -/
theorem Node.heartbeatTicks_lt (node : Node) : 2 * node.heartbeatTicks < 2 ^ 32 := by
  have exponent : (node.flags &&& attachHeartbeatMask).toNat ≤ 15 := by
    rw [BitVec.toNat_and]
    exact Nat.and_le_right
  have interval : node.heartbeat ≤ 2 ^ 15 := Nat.pow_le_pow_right two_pos exponent
  rw [Node.heartbeatTicks, seconds, BitVec.toNat_ofNat, heartbeatGrace, tickMs]
  omega

/-- The heartbeat of a record heard `elapsed` ticks ago. -/
theorem Node.heartbeatExpired_iff (node : Node) {elapsed : Nat} (recent : elapsed < 2 ^ 31) :
    node.heartbeatExpired (node.lastHeard + BitVec.ofNat 32 elapsed) = true ↔
      node.heartbeatTicks ≤ elapsed := by
  have ticks : seconds (node.heartbeat + heartbeatGrace) = BitVec.ofNat 32 node.heartbeatTicks := by
    rw [Node.heartbeatTicks, BitVec.ofNat_toNat, BitVec.setWidth_eq]
  rw [Node.heartbeatExpired, decide_eq_true_iff, ticks]
  exact remaining_nonpos_iff _ node.heartbeatTicks_lt (by omega)

/-- The record of a Registered slot behind a tick in which no timer of the slot is due. -/
theorem Node.tick_unregistered_iff {node : Node} {now : BitVec 32}
    (idle : node.state = .registered) (ackIdle : node.ackTimer.due now = false)
    (validityIdle : node.validityTimer.due now = false) :
    (node.tick now).state = .unregistered ↔ node.heartbeatExpired now = true := by
  by_cases expired : node.heartbeatExpired now = true
  · have drops : node.checkHeartbeat now = node.setState .unregistered := if_pos ⟨idle, expired⟩
    have acks : (node.setState .unregistered).despatchAck now = node.setState .unregistered :=
      if_neg (Bool.eq_false_iff.mp ackIdle)
    have ends : (node.setState .unregistered).despatchValidity now =
        node.setState .unregistered := if_neg (Bool.eq_false_iff.mp validityIdle)
    rw [Node.tick, drops, acks, ends]
    exact iff_of_true rfl expired
  · have keeps : node.checkHeartbeat now = node := if_neg fun both => expired both.2
    have acks : node.despatchAck now = node := if_neg (Bool.eq_false_iff.mp ackIdle)
    have ends : node.despatchValidity now = node := if_neg (Bool.eq_false_iff.mp validityIdle)
    rw [Node.tick, keeps, acks, ends, idle]
    exact iff_of_false (by decide) expired

/-- **Heartbeat supervision is exact.** A slot was last heard `elapsed` ticks ago, fewer than half a
turn of the clock. The loop of the next tick comes to the slot as it was before the tick, and checks
it before it despatches the timers of the slot. If the slot is Registered:

* the check deregisters it if its time is up, and otherwise leaves everything as it is;
* so the slot is Unregistered behind the tick if and only if its time is up, unless a timer of the
  slot is due in the same tick. -/
theorem heartbeat_exact (boot : Boot) (role : boot.params.coordinator = true)
    (before after : List Input) (input : Input) (index : Slot)
    (hears : (boot.start.run before).ctx.HearsSlot index input)
    (silent : ((boot.start.run before).step input).Along
      (fun ctx input => ¬ ctx.HearsSlot index input) after)
    (recent : after.countP Input.isTick < 2 ^ 31) :
    let σ := boot.start.run (before ++ input :: after)
    let node := σ.ctx.nodes index
    let elapsed := after.countP Input.isTick
    (σ.reaching index).ctx.nodes index = node ∧
    σ.step .tick = ((σ.reaching index).checkHeartbeat index).behindCheck index ∧
    (node.state = .registered →
      (σ.reaching index).checkHeartbeat index = (if node.heartbeatTicks ≤ elapsed then
        tinymacDeregisterNode (σ.reaching index) (.slot index) else σ.reaching index) ∧
      (node.ackTimer.due σ.ctx.tickCount = false →
        node.validityTimer.due σ.ctx.tickCount = false →
        (((σ.step .tick).ctx.nodes index).state = .unregistered ↔
          node.heartbeatTicks ≤ elapsed))) := by
  intro σ node elapsed
  have hub := reachable_hub boot role before
  have final : σ = ((boot.start.run before).step input).run after := run_append ..
  have coordinator := (reachable_hub boot role (before ++ input :: after)).coordinator
  obtain ⟨kept, clock⟩ := run_lastHeard (hub.step input) index silent
  obtain ⟨same, now⟩ := reaching_slot coordinator index
  have stands : ((boot.start.run before).step input).ctx.tickCount =
      (boot.start.run before).ctx.tickCount := by
    have clocks := step_clocks (boot.start.run before) hub.coordinator input
    rw [hears.isTick] at clocks
    exact congrArg Prod.fst clocks
  have heard : σ.ctx.tickCount = node.lastHeard + BitVec.ofNat 32 elapsed := by
    have noted : node.lastHeard = (boot.start.run before).ctx.tickCount := by
      change (σ.ctx.nodes index).lastHeard = _
      rw [final, kept, step_noted hub index hears]
    rw [noted, final, clock, stands]
  have expired : node.heartbeatExpired σ.ctx.tickCount = true ↔ node.heartbeatTicks ≤ elapsed := by
    rw [heard]
    exact node.heartbeatExpired_iff recent
  refine ⟨same, tick_reaching coordinator.role index,
    fun idle => ⟨?_, fun ackIdle validityIdle => ?_⟩⟩
  · refine if_congr ?_ rfl rfl
    rw [show (σ.reaching index).node (.slot index) = node from same,
      show (σ.reaching index).ctx.tickCount = σ.ctx.tickCount from now]
    exact (and_iff_right idle).trans expired
  · rw [step_tick_nodes coordinator, Node.tick_unregistered_iff idle ackIdle validityIdle]
    exact expired

/-- A node that is registered and not heard again is dropped after three seconds: its heartbeat
interval of one second, and the grace. -/
theorem heartbeat_exact_three_seconds :
    let σ := (Boot.coordinatorOn 0x2A#8).start.run ([.permitAttach true] ++
      .frame (registrationRequestFrame 0x2A#8 1#8 ⟨1#64, 0#16⟩) 0 :: List.replicate 12 .tick)
    (σ.ctx.nodes 0).state = .registered ∧
      ((σ.step .tick).ctx.nodes 0).state = .unregistered := by
  have supervised := heartbeat_exact (Boot.coordinatorOn 0x2A#8) rfl [.permitAttach true]
    (List.replicate 12 .tick) (.frame (registrationRequestFrame 0x2A#8 1#8 ⟨1#64, 0#16⟩) 0) 0
    (.inl ⟨by decide +kernel, by decide +kernel⟩) (ticks_unheard _ 0 12) (by decide +kernel)
  dsimp only at supervised ⊢
  obtain ⟨-, dropped⟩ := supervised.2.2 (by decide +kernel)
  exact ⟨by decide +kernel,
    (dropped (by decide +kernel) (by decide +kernel)).mpr (by decide +kernel)⟩

end TinyHan.Tinymac
