/-
**The timers of the MAC**, in either role.

Each timer is an alarm on `tick_count`: armed or not, with a deadline. A tick despatches the timers
of the role once (`tick_despatches`), on a clock that stands still until the tick is over, and no
other call moves the clock. Along a run that neither arms nor cancels it, a timer is the alarm of
`Lib.Alarm` (`run_alarm`), so its callback runs exactly once and on time
(`timer_fires_once`).
-/

import TinyHan.Client.Ops
import TinyHan.Coordinator.Heartbeat
import TinyHan.Lib.Alarm

namespace TinyHan.Tinymac

open TinyHan.Lib

/-! ### A timer as an alarm -/

/-- The deadline of a timer whose callback is set. -/
def Timer.deadline {cb : TimerCb} (timer : Timer cb) : Option (BitVec 32) :=
  if timer.armed then some timer.expiry else none

theorem due_eq_any {cb : TimerCb} (timer : Timer cb) (now : BitVec 32) :
    timer.due now = timer.deadline.any (passed now) := by
  rw [Timer.due, Timer.deadline]
  cases timer.armed <;> rfl

/-- The deadline of a timer of the context. -/
def Mac.deadline (σ : Mac) : TimerPtr → Option (BitVec 32)
  | .ack ptr => (σ.node ptr).ackTimer.deadline
  | .validity ptr => (σ.node ptr).validityTimer.deadline
  | .request => σ.ctx.timer.deadline

/-- A timer of the context on its clock. -/
def Mac.alarm (σ : Mac) (timer : TimerPtr) : Alarm 32 := ⟨σ.ctx.tickCount, σ.deadline timer⟩

/-- **The test of `tinymac_despatch_timer`** is whether the alarm rings. -/
theorem timerDue_eq_rings (σ : Mac) (timer : TimerPtr) :
    σ.timerDue timer = (σ.alarm timer).rings := by
  cases timer <;> exact due_eq_any ..

/-- `tinymac_set_timer` for a timer of the context, with its callback. -/
def Mac.setTimer (σ : Mac) (timer : TimerPtr) (delay : BitVec 32) : Mac :=
  match timer with
  | .ack ptr => σ.modify ptr fun node =>
      { node with ackTimer := tinymacSetTimer node.ackTimer σ.ctx.tickCount delay }
  | .validity ptr => σ.modify ptr fun node =>
      { node with validityTimer := tinymacSetTimer node.validityTimer σ.ctx.tickCount delay }
  | .request => σ.update fun ctx => ctx.armRequest delay

/-- The timer is in a record that outlives the call. -/
def TimerPtr.kept : TimerPtr → Prop
  | .ack ptr | .validity ptr => ∀ node, ptr ≠ .temp node
  | .request => True

theorem setTimer_alarm (σ : Mac) {timer : TimerPtr} (kept : timer.kept) (delay : BitVec 32) :
    (σ.setTimer timer delay).alarm timer = .set σ.ctx.tickCount delay.toNat 0 := by
  have clock : σ.ctx.tickCount + BitVec.ofNat 32 0 = σ.ctx.tickCount := BitVec.add_zero _
  have ahead : BitVec.ofNat 32 delay.toNat = delay := by
    rw [BitVec.ofNat_toNat, BitVec.setWidth_eq]
  rw [Alarm.set, clock, ahead]
  cases timer with
  | ack ptr =>
      simp [Mac.setTimer, Mac.alarm, Mac.deadline, Timer.deadline, modify_node _ _ _ kept]
  | validity ptr =>
      simp [Mac.setTimer, Mac.alarm, Mac.deadline, Timer.deadline, modify_node _ _ _ kept]
  | request => rfl

/-- `tinymac_cancel_timer`, which is also how `tinymac_despatch_timer` clears a timer. -/
theorem clearTimer_deadline (σ : Mac) {timer : TimerPtr} (kept : timer.kept) :
    (σ.clearTimer timer).deadline timer = none := by
  cases timer with
  | ack ptr => simp [Mac.clearTimer, Mac.deadline, Timer.deadline, modify_node _ _ _ kept]
  | validity ptr => simp [Mac.clearTimer, Mac.deadline, Timer.deadline, modify_node _ _ _ kept]
  | request => rfl

/-! ### The clock -/

/-- The parameters and the clock. -/
def Ctx.clocked (ctx : Ctx) : Params × BitVec 32 := (ctx.params, ctx.tickCount)

theorem clocked_apart : Apart Ctx.clocked where
  modify ctx ptr change := by simp [Ctx.clocked]
  nextSeq _ := rfl
  nextBeacon _ := rfl

section Clock

variable (σ : Mac)

theorem deregister_clocked (ptr : NodePtr) :
    (tinymacDeregisterNode σ ptr).ctx.clocked = σ.ctx.clocked := by
  unfold tinymacDeregisterNode
  dsimp only
  split <;> split <;> simp [Ctx.clocked]

theorem txBeacon_clocked (periodic : Bool) :
    (tinymacTxBeacon σ periodic).ctx.clocked = σ.ctx.clocked := by
  unfold tinymacTxBeacon
  split
  · rfl
  · rw [phySend_ctx]
    rfl

/-- No callback of a timer moves the clock. -/
theorem despatchTimer_clocked (timer : TimerPtr) :
    (tinymacDespatchTimer σ timer).ctx.clocked = σ.ctx.clocked := by
  unfold tinymacDespatchTimer
  split
  · cases timer with
    | ack ptr =>
        unfold Mac.timerCallback Mac.clearTimer tinymacAckTimeout
        dsimp only
        split_ifs
        · simp [Ctx.clocked]
        · simp [Ctx.clocked]
        · rw [deregister_clocked]
          simp [Ctx.clocked]
    | validity ptr =>
        simp [Mac.timerCallback, Mac.clearTimer, tinymacValidityTimeout, Ctx.clocked]
    | request =>
        unfold Mac.timerCallback Mac.clearTimer tinymacRequestTimeout
        dsimp only
        split
        · exact deregister_clocked ..
        · rfl
  · rfl

theorem tickSlot_clocked (index : Slot) : (tickSlot σ index).ctx.clocked = σ.ctx.clocked := by
  rw [tickSlot_ctx, clocked_apart.modify]

theorem foldl_tickSlot_clocked (rest : List Slot) :
    (rest.foldl tickSlot σ).ctx.clocked = σ.ctx.clocked := by
  induction rest generalizing σ with
  | nil => rfl
  | cons index rest ih => rw [List.foldl_cons, ih, tickSlot_clocked]

theorem beginSlot_clocked : σ.beginSlot.ctx.clocked = σ.ctx.clocked := by
  unfold Mac.beginSlot
  dsimp only
  split
  · exact txBeacon_clocked ..
  · rfl

theorem checkHeartbeat_clocked (index : Slot) :
    (σ.checkHeartbeat index).ctx.clocked = σ.ctx.clocked := by
  unfold Mac.checkHeartbeat
  dsimp only
  split
  · exact deregister_clocked ..
  · rfl

theorem solicit_clocked : σ.solicit.ctx.clocked = σ.ctx.clocked := by
  unfold Mac.solicit
  split
  · exact txPacket_apart clocked_apart ..
  · rfl

theorem rxBeacon_clocked (hdr : Header) (buf : Memory) (size : Nat) :
    (tinymacRxBeacon σ hdr buf size).ctx.clocked = σ.ctx.clocked := by
  unfold tinymacRxBeacon
  split
  · rfl
  dsimp only
  have cancelled : (if σ.ctx.state = .beaconRequest then σ.update Ctx.cancelRequest
      else σ).ctx.clocked = σ.ctx.clocked := by
    split <;> rfl
  generalize (if σ.ctx.state = .beaconRequest then σ.update Ctx.cancelRequest else σ) = τ
    at cancelled
  have packet (τ : Mac) (dest : Option NodePtr) (type : BitVec 8) (buf : List Byte) :
      (tinymacTxPacket τ dest type buf 0#16 none).2.ctx.clocked = τ.ctx.clocked :=
    txPacket_apart clocked_apart ..
  split
  case h_4 => exact cancelled
  all_goals
    split
    · exact (packet ..).trans cancelled
    · exact cancelled

theorem rxRegistrationResponse_clocked (hdr : Header) (buf : Memory) :
    (tinymacRxRegistrationResponse σ hdr buf).ctx.clocked = σ.ctx.clocked := by
  unfold tinymacRxRegistrationResponse
  dsimp only
  split_ifs <;> rfl

theorem rxRegistrationRequest_clocked (buf : Memory) :
    (tinymacRxRegistrationRequest σ buf).ctx.clocked = σ.ctx.clocked := by
  have registered (τ : Mac) (bytes : List Byte) (same : τ.ctx.clocked = σ.ctx.clocked) :
      (tinymacTxPacket τ none PacketType.registrationResponse.code bytes 0#16
        none).2.ctx.clocked = σ.ctx.clocked :=
    (txPacket_apart clocked_apart ..).trans same
  unfold tinymacRxRegistrationRequest
  split
  · rfl
  dsimp only
  split
  all_goals
    split
    all_goals exact registered _ _ (by simp [Ctx.clocked])

theorem rxDeregistrationRequest_clocked (hdr : Header) (buf : Memory) :
    (tinymacRxDeregistrationRequest σ hdr buf).ctx.clocked = σ.ctx.clocked := by
  unfold tinymacRxDeregistrationRequest
  split
  · rfl
  dsimp only
  split
  · rfl
  · split
    · rfl
    · rw [deregister_clocked]
      exact txPacket_apart clocked_apart ..

theorem rxAck_clocked (node : Option NodePtr) (hdr : Header) :
    (tinymacRxAck σ node hdr).ctx.clocked = σ.ctx.clocked := by
  cases node with
  | none => rfl
  | some ptr =>
      simp only [tinymacRxAck]
      split
      · rw [invokeSendCb_ctx, mac_modify_ctx, clocked_apart.modify]
      · rfl

theorem recvType_clocked (node : Option NodePtr) (hdr : Header) (buf : Memory) (size : Nat) :
    (tinymacRecvType σ node hdr buf size).ctx.clocked = σ.ctx.clocked := by
  unfold tinymacRecvType
  split
  · split <;> rfl
  · split
    · next type _ =>
      have guarded (short : Prop) [Decidable short] {τ : Mac}
          (same : τ.ctx.clocked = σ.ctx.clocked) :
          (if short then σ else τ).ctx.clocked = σ.ctx.clocked := by
        split
        · rfl
        · exact same
      cases type with
      | beacon => exact guarded _ (rxBeacon_clocked ..)
      | ack => exact rxAck_clocked ..
      | poll => rfl
      | beaconRequest => exact txBeacon_clocked ..
      | registrationRequest => exact guarded _ (rxRegistrationRequest_clocked ..)
      | deregistrationRequest => exact guarded _ (rxDeregistrationRequest_clocked ..)
      | registrationResponse => exact guarded _ (rxRegistrationResponse_clocked ..)
    · rfl

/-- A frame does not move the clock. -/
theorem recv_clocked (buf : Memory) (size : Nat) (rssi : Int) :
    (tinymacRecvCb σ buf size rssi).ctx.clocked = σ.ctx.clocked := by
  unfold tinymacRecvCb
  dsimp only
  split
  · split
    · split
      · rw [recvType_clocked, recvKnown_ctx, clocked_apart.modify, recvStandby_ctx]
      · unfold tinymacRecvUnknown
        split
        · rw [txPacket_apart clocked_apart, recvStandby_ctx]
        · rw [recvStandby_ctx]
    · rw [recvType_clocked, recvStandby_ctx]
  · rfl

theorem send_clocked (dest type : BitVec 8) (buf : List Byte) (validity : BitVec 16)
    (cb : Option SendCb) :
    (tinymacSend σ dest type buf validity cb).2.ctx.clocked = σ.ctx.clocked := by
  unfold tinymacSend
  split
  · rfl
  · split
    · rfl
    · exact txPacket_apart clocked_apart ..

/-- **Only a tick moves the clock.** -/
theorem step_clocked {input : Input} (other : input.isTick = false) :
    (σ.step input).ctx.clocked = σ.ctx.clocked := by
  cases input with
  | recv buf size rssi => exact recv_clocked ..
  | tick => cases other
  | send dest type buf validity cb => exact send_clocked ..
  | permitAttach | registerRecvCb | registerRegCb | registerDeregCb => rfl

end Clock

/-! ### The despatch of a timer in a tick -/

/-- The timer is one of those that `tinymac_tick_handler` despatches in this role. -/
def Ctx.Despatches (ctx : Ctx) : TimerPtr → Prop
  | .ack (.slot _) | .validity (.slot _) => ctx.params.coordinator = true
  | .ack .coord | .validity .coord | .request => ctx.params.coordinator = false
  | .ack (.temp _) | .validity (.temp _) => False

/-- The state in which a tick despatches a timer. -/
def Mac.despatching (σ : Mac) : TimerPtr → Mac
  | .ack (.slot index) => (σ.reaching index).checkHeartbeat index
  | .validity (.slot index) =>
      tinymacDespatchTimer ((σ.reaching index).checkHeartbeat index) (.ack (.slot index))
  | .ack _ => σ.solicit
  | .validity _ => tinymacDespatchTimer σ.solicit (.ack .coord)
  | .request =>
      tinymacDespatchTimer (tinymacDespatchTimer σ.solicit (.ack .coord)) (.validity .coord)

/-- The rest of a tick, behind the despatch of a timer. -/
def Mac.despatched (σ : Mac) : TimerPtr → Mac
  | .ack (.slot index) => ((slots.drop (index + 1)).foldl tickSlot
      (tinymacDespatchTimer σ (.validity (.slot index)))).update Ctx.nextTick
  | .validity (.slot index) =>
      ((slots.drop (index + 1)).foldl tickSlot σ).update Ctx.nextTick
  | .ack _ => (tinymacDespatchTimer (tinymacDespatchTimer σ (.validity .coord)) .request).update
      Ctx.nextTick
  | .validity _ => (tinymacDespatchTimer σ .request).update Ctx.nextTick
  | .request => σ.update Ctx.nextTick

theorem Ctx.Despatches.kept {ctx : Ctx} {timer : TimerPtr} (despatches : ctx.Despatches timer) :
    timer.kept := by
  cases timer with
  | ack ptr | validity ptr =>
      cases ptr with
      | temp node => exact despatches.elim
      | slot | coord => nofun
  | request => trivial

section Tick

variable {σ : Mac} {timer : TimerPtr}

/-- **A tick despatches each timer of its role.** -/
theorem tick_despatches (despatches : σ.ctx.Despatches timer) :
    σ.step .tick = (tinymacDespatchTimer (σ.despatching timer) timer).despatched timer := by
  cases timer with
  | ack ptr | validity ptr =>
      cases ptr with
      | slot index => exact tick_reaching despatches index
      | coord => exact tick_client σ despatches
      | temp node => exact despatches.elim
  | request => exact tick_client σ despatches

/-- The clock has not moved when the timer is despatched. -/
theorem despatching_clocked (timer : TimerPtr) :
    (σ.despatching timer).ctx.clocked = σ.ctx.clocked := by
  have reached (index : Slot) :
      ((σ.reaching index).checkHeartbeat index).ctx.clocked = σ.ctx.clocked := by
    rw [checkHeartbeat_clocked, Mac.reaching, foldl_tickSlot_clocked, beginSlot_clocked]
  cases timer with
  | ack ptr =>
      cases ptr with
      | slot index => exact reached index
      | coord | temp => exact solicit_clocked σ
  | validity ptr =>
      cases ptr with
      | slot index => exact (despatchTimer_clocked ..).trans (reached index)
      | coord | temp => exact (despatchTimer_clocked ..).trans (solicit_clocked σ)
  | request =>
      exact (despatchTimer_clocked ..).trans
        ((despatchTimer_clocked ..).trans (solicit_clocked σ))

/-- It moves once behind it. -/
theorem despatched_clocked (timer : TimerPtr) :
    (σ.despatched timer).ctx.clocked = (σ.ctx.params, σ.ctx.tickCount + 1#32) := by
  have ticked {τ : Mac} (same : τ.ctx.clocked = σ.ctx.clocked) :
      (τ.update Ctx.nextTick).ctx.clocked = (σ.ctx.params, σ.ctx.tickCount + 1#32) := by
    obtain ⟨params, clock⟩ := Prod.mk.inj same
    rw [← params, ← clock]
    rfl
  cases timer with
  | ack ptr =>
      cases ptr with
      | slot index => exact ticked ((foldl_tickSlot_clocked ..).trans (despatchTimer_clocked ..))
      | coord | temp => exact ticked ((despatchTimer_clocked ..).trans (despatchTimer_clocked ..))
  | validity ptr =>
      cases ptr with
      | slot index => exact ticked (foldl_tickSlot_clocked ..)
      | coord | temp => exact ticked (despatchTimer_clocked ..)
  | request => exact ticked rfl

theorem tick_clocked (despatches : σ.ctx.Despatches timer) :
    (σ.step .tick).ctx.clocked = (σ.ctx.params, σ.ctx.tickCount + 1#32) := by
  have same := (despatchTimer_clocked (σ.despatching timer) timer).trans (despatching_clocked timer)
  obtain ⟨params, clock⟩ := Prod.mk.inj same
  rw [tick_despatches despatches, despatched_clocked, params, clock]

/-- A step does not change the role. -/
theorem Ctx.Despatches.step (despatches : σ.ctx.Despatches timer) (input : Input) :
    (σ.step input).ctx.Despatches timer := by
  have params : (σ.step input).ctx.params = σ.ctx.params := by
    cases ticks : input.isTick with
    | true =>
        cases input <;> cases ticks
        exact congrArg Prod.fst (tick_clocked despatches)
    | false => exact congrArg Prod.fst (step_clocked σ ticks)
  cases timer with
  | ack ptr | validity ptr =>
      cases ptr with
      | slot | coord => exact (congrArg Params.coordinator params).trans despatches
      | temp node => exact despatches.elim
  | request => exact (congrArg Params.coordinator params).trans despatches

end Tick

/-! ### Runs -/

/-- The step invokes the callback of the timer. -/
def Mac.invokes (σ : Mac) (timer : TimerPtr) : Input → Bool
  | .tick => (σ.despatching timer).timerDue timer
  | _ => false

/-- A tick does not touch the timer before it despatches it. -/
def Mac.Untouched (σ : Mac) (timer : TimerPtr) : Prop :=
  (σ.despatching timer).deadline timer = σ.deadline timer

/-- The step neither arms nor cancels the timer, beyond the despatch itself: not before it in a
tick, not in the callback, and not behind it. -/
def Mac.LeavesAlone (σ : Mac) (timer : TimerPtr) (input : Input) : Prop :=
  if input.isTick then
    let despatching := σ.despatching timer
    σ.Untouched timer ∧
      (despatching.timerDue timer = true →
        ((despatching.clearTimer timer).timerCallback timer).deadline timer =
          (despatching.clearTimer timer).deadline timer) ∧
      (σ.step input).deadline timer = (tinymacDespatchTimer despatching timer).deadline timer
  else (σ.step input).deadline timer = σ.deadline timer

instance (σ : Mac) (timer : TimerPtr) : Decidable (σ.Untouched timer) :=
  inferInstanceAs (Decidable (_ = _))

instance (σ : Mac) (timer : TimerPtr) (input : Input) : Decidable (σ.LeavesAlone timer input) :=
  inferInstanceAs (Decidable (ite ..))

/-- No step of the run arms or cancels the timer. -/
def Mac.LeftAlone (σ : Mac) (timer : TimerPtr) : List Input → Prop
  | [] => True
  | input :: inputs => σ.LeavesAlone timer input ∧ (σ.step input).LeftAlone timer inputs

instance decidableLeftAlone (σ : Mac) (timer : TimerPtr) :
    (inputs : List Input) → Decidable (σ.LeftAlone timer inputs)
  | [] => .isTrue trivial
  | input :: inputs =>
      have := decidableLeftAlone (σ.step input) timer inputs
      inferInstanceAs (Decidable (_ ∧ _))

/-- How often a run invokes the callback of the timer. -/
def Mac.invocations (σ : Mac) (timer : TimerPtr) : List Input → Nat
  | [] => 0
  | input :: inputs => (σ.invokes timer input).toNat + (σ.step input).invocations timer inputs

section Runs

variable {σ : Mac} {timer : TimerPtr} (despatches : σ.ctx.Despatches timer)

include despatches

omit despatches in
/-- A tick invokes the callback if and only if the alarm rings. -/
theorem invokes_tick (untouched : σ.Untouched timer) :
    σ.invokes timer .tick = (σ.alarm timer).rings := by
  have clock : (σ.despatching timer).ctx.tickCount = σ.ctx.tickCount :=
    congrArg Prod.snd (despatching_clocked timer)
  rw [Mac.invokes, timerDue_eq_rings, Mac.alarm, clock, untouched, Mac.alarm]

/-- **One step of a timer that is left alone**: a tick looks at the alarm, and nothing else does. -/
theorem step_alarm {input : Input} (alone : σ.LeavesAlone timer input) :
    σ.invokes timer input = (input.isTick && (σ.alarm timer).rings) ∧
      (σ.step input).alarm timer =
        if input.isTick then (σ.alarm timer).tick else σ.alarm timer := by
  cases ticks : input.isTick with
  | false =>
      rw [Mac.LeavesAlone, ticks] at alone
      have clock := congrArg Prod.snd (step_clocked σ ticks)
      constructor
      · cases input with
        | tick => cases ticks
        | _ => rfl
      · exact congrArg₂ Alarm.mk clock alone
  | true =>
      cases input <;> cases ticks
      obtain ⟨before, callback, behind⟩ := alone
      have due : (σ.despatching timer).timerDue timer = (σ.alarm timer).rings := invokes_tick before
      refine ⟨due, congrArg₂ Alarm.mk (congrArg Prod.snd (tick_clocked despatches)) ?_⟩
      rw [behind, tinymacDespatchTimer, due]
      split
      · next rings => rw [callback (due.trans rings), clearTimer_deadline _ despatches.kept]
      · exact before

/-- **A run of a timer that is left alone** is its alarm over the ticks of the run. -/
theorem run_alarm {inputs : List Input} (alone : σ.LeftAlone timer inputs) :
    (σ.run inputs).alarm timer = Alarm.tick^[inputs.countP Input.isTick] (σ.alarm timer) ∧
      σ.invocations timer inputs = (σ.alarm timer).rung (inputs.countP Input.isTick) := by
  induction inputs generalizing σ with
  | nil => exact ⟨rfl, rfl⟩
  | cons input inputs ih =>
      obtain ⟨invoked, stepped⟩ := step_alarm despatches alone.1
      obtain ⟨last, count⟩ := ih (despatches.step input) alone.2
      rw [run_cons, Mac.invocations, last, count, invoked, stepped, List.countP_cons]
      cases input.isTick with
      | true => exact ⟨rfl, rfl⟩
      | false => exact ⟨rfl, Nat.zero_add _⟩

end Runs

/-! ### The callbacks -/

/-- What the callback of a timer sets it to: an ack timer is set again for a retry that is sent. -/
def Mac.rearmed (σ : Mac) : TimerPtr → Option (BitVec 32)
  | .ack ptr =>
      if (σ.node ptr).retries ≠ 0#8 ∧ (σ.node ptr).sleepy = false then
        some (σ.ctx.tickCount + millis ackTimeout)
      else none
  | .validity _ | .request => none

theorem Node.ackExpire_deadline (node : Node) (now : BitVec 32) :
    (node.ackExpire now).ackTimer.deadline =
      if node.retries ≠ 0#8 ∧ node.sleepy = false then some (now + millis ackTimeout)
      else none := by
  unfold Node.ackExpire
  by_cases some : node.retries ≠ 0#8
  · rw [if_pos some]
    cases node.sleepy with
    | true => simp [Timer.deadline]
    | false => simp [some, Timer.deadline]
  · rw [if_neg some, if_neg fun both => some both.1]
    rfl

/-- **A despatch leaves what its callback set**, since the timer was cleared before the call. -/
theorem despatch_deadline {σ : Mac} {timer : TimerPtr} (kept : timer.kept)
    (due : σ.timerDue timer = true) :
    (tinymacDespatchTimer σ timer).deadline timer = σ.rearmed timer := by
  cases timer with
  | ack ptr =>
      have record : (tinymacDespatchTimer σ (.ack ptr)).node ptr =
          (σ.node ptr).ackExpire σ.ctx.tickCount := by
        have expires : (σ.node ptr).despatchAck σ.ctx.tickCount =
            (σ.node ptr).ackExpire σ.ctx.tickCount := if_pos due
        rw [← expires]
        cases ptr with
        | slot index =>
            rw [mac_node, despatchAck_slot_ctx]
            exact modify_slot_nodes_self ..
        | coord => exact despatchAck_coord σ
        | temp node => exact absurd rfl (kept node)
      rw [Mac.deadline, record, Node.ackExpire_deadline]
      rfl
  | validity ptr =>
      rw [tinymacDespatchTimer, if_pos due]
      simp [Mac.timerCallback, Mac.clearTimer, tinymacValidityTimeout, Mac.deadline,
        Mac.rearmed, Timer.deadline, modify_node _ _ _ kept]
  | request =>
      rw [tinymacDespatchTimer, if_pos due]
      unfold Mac.timerCallback Mac.clearTimer tinymacRequestTimeout
      dsimp only
      split
      · rw [Mac.deadline, deregister_coord_ctx]
        rfl
      · rfl

/-- **A tick runs the callback if and only if it invokes it**, after it has cleared the timer. -/
theorem tick_invokes {σ : Mac} {timer : TimerPtr} (despatches : σ.ctx.Despatches timer) :
    σ.step .tick = (if σ.invokes timer .tick then
      ((σ.despatching timer).clearTimer timer).timerCallback timer
      else σ.despatching timer).despatched timer := tick_despatches despatches

/-- The role stays along a run. -/
theorem Ctx.Despatches.run {σ : Mac} {timer : TimerPtr} (despatches : σ.ctx.Despatches timer)
    (inputs : List Input) : (σ.run inputs).ctx.Despatches timer := by
  induction inputs generalizing σ with
  | nil => exact despatches
  | cons input inputs ih => exact ih (despatches.step input)

/-- **A timer fires exactly once and on time.** For a timer that the ticks of the role despatch:

* a tick, behind any run, runs the callback of the timer where it despatches it, after the timer was
  cleared, if and only if it `invokes` it;
* `tinymac_set_timer` at tick `t` sets the alarm for `t + delay`;
* `elapsed` ticks later a despatch invokes the callback if and only if the delay is over;
* along a run that leaves the timer alone, the callback is invoked once if the run has more ticks
  than are left of the delay, and not at all before, whatever `t` is and however long the run;
* the tick behind such a run invokes it if and only if it is the first behind the delay, also if the
  callback then sets the timer again;
* a despatch leaves what the callback set;
* and a timer that is cancelled, and left alone from there, never fires. -/
theorem timer_fires_once (σ : Mac) (timer : TimerPtr) (despatches : σ.ctx.Despatches timer) :
    (∀ inputs, let τ := σ.run inputs
      τ.step .tick = (if τ.invokes timer .tick then
        ((τ.despatching timer).clearTimer timer).timerCallback timer
        else τ.despatching timer).despatched timer) ∧
    (∀ delay, (σ.setTimer timer delay).alarm timer = .set σ.ctx.tickCount delay.toNat 0) ∧
    (∀ start delay elapsed, delay < 2 ^ 31 → elapsed < 2 ^ 31 →
      σ.alarm timer = .set start delay elapsed →
        (σ.timerDue timer = true ↔ delay ≤ elapsed) ∧
        ∀ inputs, σ.LeftAlone timer inputs →
          σ.invocations timer inputs =
              (if delay - elapsed < inputs.countP Input.isTick then 1 else 0) ∧
            ((σ.run inputs).Untouched timer →
              ((σ.run inputs).invokes timer .tick = true ↔
                inputs.countP Input.isTick = delay - elapsed))) ∧
    (σ.timerDue timer = true →
      (tinymacDespatchTimer σ timer).deadline timer = σ.rearmed timer) ∧
    (σ.clearTimer timer).deadline timer = none ∧
    (σ.deadline timer = none → ∀ inputs, σ.LeftAlone timer inputs →
      σ.invocations timer inputs = 0) := by
  refine ⟨fun inputs => tick_invokes (despatches.run inputs),
    setTimer_alarm σ despatches.kept, fun start delay elapsed near recent armed => ?_,
    despatch_deadline despatches.kept, clearTimer_deadline σ despatches.kept,
    fun off inputs alone => ?_⟩
  · have near : 2 * delay < 2 ^ 32 := by omega
    have recent : 2 * elapsed < 2 ^ 32 := by omega
    refine ⟨?_, fun inputs alone => ⟨?_, ?_⟩⟩
    · rw [timerDue_eq_rings, armed, rings_set_iff start near recent]
    · rw [(run_alarm despatches alone).2, armed, rung_eq start near recent]
    · intro untouched
      rw [invokes_tick untouched, (run_alarm despatches alone).1, armed,
        rings_iff start near recent]
  · have unset : σ.alarm timer = ⟨σ.ctx.tickCount, none⟩ := congrArg (Alarm.mk _) off
    rw [(run_alarm despatches alone).2, unset, rung_unset]

/-- A coordinator whose clock is about to wrap, with a timer set two ticks ahead. -/
def wrapping (timer : TimerPtr) : Mac :=
  ((Boot.coordinatorOn 0x2A#8).start.update fun ctx =>
    { ctx with tickCount := 0xFFFFFFFF#32 }).setTimer timer 2#32

/-- The callback runs in the third tick, at tick count 1, and not again. -/
theorem timer_fires_across_wrap :
    let timer : TimerPtr := .validity (.slot 0)
    ((wrapping timer).run [.tick, .tick]).invokes timer .tick = true ∧
      ((wrapping timer).run [.tick, .tick]).ctx.tickCount = 1#32 ∧
      (wrapping timer).invocations timer (List.replicate 5 .tick) = 1 := by
  intro timer
  have fires := (timer_fires_once (wrapping timer) timer rfl).2.2.1 0xFFFFFFFF#32 2 0
    (by decide) (by decide) (by decide +kernel)
  obtain ⟨-, due⟩ := fires.2 [.tick, .tick] (by decide +kernel)
  obtain ⟨once, -⟩ := fires.2 (List.replicate 5 .tick) (by decide +kernel)
  exact ⟨(due (by decide +kernel)).mpr rfl, by decide +kernel, once⟩

end TinyHan.Tinymac
