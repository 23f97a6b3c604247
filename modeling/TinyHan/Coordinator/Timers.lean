/-
**State and timers of a slot.**

The state of a slot and its two timers are written by different functions. `Node.Paced` is what
holds between them as long as no sleepy node registers over an armed ack timer, and it is what
frees a busy slot: an ack timer runs in WaitAck, a validity timer in SendPending
(`busy_has_timer`). `Node.Timed` is the stronger relation of exactly-once completion; with it, and
as long as only idle slots are detached, no timer runs on a slot that is Registered or Unregistered
(`no_stale_timer`).

A registration request that arrives while a packet is outstanding resets the state of its slot and
leaves the timers, which breaks both (`reregistration_loses_validity`,
`reregistration_keeps_timer`).
-/

import TinyHan.Coordinator.Completion

namespace TinyHan.Tinymac

open TinyHan.Lib

/-! ### A busy slot has a timer -/

/-- The node that registers is sleepy. -/
def RegistrationRequest.sleepy (attach : RegistrationRequest) : Bool :=
  attach.flags &&& attachFlagsSleepy != 0#16

/-- A busy record has the timer that frees it, and an ack timer on a sleepy record runs inside the
validity of its packet. -/
structure Node.Paced (node : Node) : Prop where
  waiting : node.state = .waitAck → node.ackTimer.armed = true
  pending : node.state = .sendPending →
    node.sleepy = true ∧ node.ackTimer.armed = false ∧ node.validityTimer.armed = true
  idle : node.state = .registered → node.sleepy = true → node.ackTimer.armed = false
  deferrable : node.ackTimer.armed = true → node.sleepy = true → node.validityTimer.armed = true

namespace Node.Paced

variable {node : Node}

theorem unregister (paced : node.Paced) : (node.setState .unregistered).Paced where
  waiting := nofun
  pending := nofun
  idle := nofun
  deferrable := paced.deferrable

/-- A record whose ack timer is off and that waits for nothing. -/
theorem of_off (off : node.ackTimer.armed = false)
    (idle : node.state = .registered ∨ node.state = .unregistered) : node.Paced := by
  refine ⟨fun waiting => ?_, fun pending => ?_, fun _ _ => off, fun armed => ?_⟩
  · rcases idle with state | state <;> cases state.symm.trans waiting
  · rcases idle with state | state <;> cases state.symm.trans pending
  · cases off.symm.trans armed

theorem release (paced : node.Paced) (now : BitVec 32) : (node.release now).Paced := by
  unfold Node.release
  split_ifs with pending ack
  · exact ⟨fun _ => rfl, nofun, nofun, fun _ _ => (paced.pending pending).2.2⟩
  · exact .of_off (paced.pending pending).2.1 (.inl rfl)
  · exact paced

theorem accept (paced : node.Paced) (now : BitVec 32) (flagsType : BitVec 8)
    (validity : BitVec 16) (id : Nat) (hdr : Header) (payload : List Byte) (cb : Option SendCb) :
    (node.accept now flagsType validity id hdr payload cb).Paced := by
  unfold Node.accept
  split_ifs with busy sleepy ack
  · exact paced
  · have off := paced.idle (not_not.mp busy) sleepy
    exact ⟨nofun, fun _ => ⟨sleepy, off, rfl⟩, nofun, fun _ _ => rfl⟩
  · exact ⟨fun _ => rfl, nofun, nofun, fun _ asleep => absurd asleep sleepy⟩
  · exact paced

theorem despatchAck (paced : node.Paced) (now : BitVec 32) : (node.despatchAck now).Paced := by
  unfold Node.despatchAck
  split_ifs with due
  · have armed := armed_of_due due
    unfold Node.ackExpire
    split_ifs with retries sleepy
    · have valid := paced.deferrable armed sleepy
      exact ⟨nofun, fun _ => ⟨sleepy, rfl, valid⟩, nofun, nofun⟩
    · refine ⟨fun _ => rfl, fun pending => ?_, fun _ asleep => absurd asleep sleepy,
        fun _ asleep => absurd asleep sleepy⟩
      cases (paced.pending pending).2.1.symm.trans armed
    · exact .of_off rfl (.inr rfl)
  · exact paced

theorem despatchValidity (paced : node.Paced) (now : BitVec 32) :
    (node.despatchValidity now).Paced := by
  unfold Node.despatchValidity
  split_ifs
  · exact .of_off rfl (.inl rfl)
  · exact paced

end Node.Paced

/-- A sleepy node finds its slot with the ack timer off when it registers. -/
def Condition.unwaited : Condition :=
  ⟨fun _ attach node => attach.sleepy = true → node.ackTimer.armed = false, fun _ _ => True, True⟩

/-- **Every operation keeps a record paced**, as long as no sleepy node registers over an armed ack
timer. -/
theorem SlotOp.paced {σ : Mac} {index : Slot} {node : Node} (op : SlotOp .unwaited σ index node)
    (paced : (σ.ctx.nodes index).Paced) : node.Paced := by
  cases op with
  | heard rssi live => exact ⟨paced.waiting, paced.pending, paced.idle, paced.deferrable⟩
  | released => exact paced.release _
  | acked waiting => exact .of_off rfl (.inl rfl)
  | accepted type validity payload cb live data => exact paced.accept ..
  | registered attach given fresh =>
      refine ⟨nofun, nofun, fun _ sleepy => fresh sleepy, fun armed sleepy => ?_⟩
      cases (fresh sleepy).symm.trans armed
  | detached live => exact (paced.accept ..).unregister
  | expired idle => exact paced.unregister
  | ackDue timers => exact paced.despatchAck _
  | validityDue timers => exact paced.despatchValidity _

/-- A registration request of a sleepy node finds its slot with the ack timer off, and does not
itself release a packet there. -/
def Ctx.RegistersUnwaited (ctx : Ctx) : Input → Prop
  | .recv buf size _ => ctx.reachesRegistration buf size = true →
      (readRegistrationRequest buf).sleepy = true →
      ∀ index, ctx.registrationSlot (readRegistrationRequest buf).uuid = some index →
        (ctx.nodes index).ackTimer.armed = false ∧
          ((ctx.nodes index).state = .sendPending →
            (readHeader buf).srcAddr ≠ (ctx.nodes index).addr)
  | _ => True

/-- A slot that is not the source of a frame, or has nothing pending, keeps its ack timer. -/
theorem hear_ackTimer {ctx : Ctx} (role : ctx.params.coordinator = true) {hdr : Header}
    (rssi : Int) {index : Slot}
    (other : (ctx.nodes index).state = .sendPending → hdr.srcAddr ≠ (ctx.nodes index).addr) :
    ((ctx.hear hdr rssi).nodes index).ackTimer = (ctx.nodes index).ackTimer := by
  by_cases source : hdr.srcAddr = (ctx.nodes index).addr
  · have idle : (ctx.nodes index).state ≠ .sendPending := fun pending => other pending source
    rcases hear_nodes ctx role hdr rssi index with same | ⟨-, heard⟩
    · rw [same]
    · have kept : ((ctx.nodes index).heard ctx.tickCount rssi).state ≠ .sendPending := idle
      rw [heard, Node.release, if_neg kept]
      rfl
  · rw [hear_elsewhere ctx role rssi source]

theorem admits_unwaited {ctx : Ctx} (role : ctx.params.coordinator = true) {input : Input}
    (registers : ctx.RegistersUnwaited input) : ctx.admits .unwaited input := by
  cases input with
  | recv buf size rssi =>
      refine ⟨fun reaches index given sleepy => ?_, fun _ _ _ _ => trivial⟩
      rw [hear_registrationSlot role] at given
      obtain ⟨off, other⟩ := registers reaches sleepy index given
      rw [hear_ackTimer role rssi other]
      exact off
  | _ => trivial

theorem paced_op {σ τ : Mac} (coordinator : Coordinator σ.ctx)
    (paced : ∀ index, (σ.ctx.nodes index).Paced) (op : Op .unwaited σ τ) (index : Slot) :
    (τ.ctx.nodes index).Paced := by
  rcases op.at_slot coordinator index with same | change
  · rw [same]
    exact paced index
  · exact change.paced (paced index)

theorem start_paced (boot : Boot) (index : Slot) : (boot.start.ctx.nodes index).Paced := by
  rw [start_nodes]
  exact .of_off rfl (.inr rfl)

/-- Every slot is paced along the runs in which no sleepy node registers over an armed ack timer. -/
theorem reachable_paced (boot : Boot) (role : boot.params.coordinator = true)
    (inputs : List Input) (registers : boot.start.Along Ctx.RegistersUnwaited inputs) :
    Coordinator (boot.start.run inputs).ctx ∧
      ∀ index, ((boot.start.run inputs).ctx.nodes index).Paced :=
  run_induction (P := fun σ => ∀ index, (σ.ctx.nodes index).Paced)
    (fun coordinator paced op => paced_op coordinator paced op)
    (fun coordinator _ now => admits_unwaited coordinator.role now)
    (start_coordinator boot role) (start_paced boot) inputs registers

/-- **A busy slot has the timer that frees it**, in every run in which no sleepy node registers
over an armed ack timer. -/
theorem busy_has_timer (boot : Boot) (role : boot.params.coordinator = true) (inputs : List Input)
    (registers : boot.start.Along Ctx.RegistersUnwaited inputs) (index : Slot) :
    let node := (boot.start.run inputs).ctx.nodes index
    (node.state = .waitAck → node.ackTimer.armed = true) ∧
      (node.state = .sendPending → node.validityTimer.armed = true) := by
  intro node
  have paced : node.Paced := (reachable_paced boot role inputs registers).2 index
  exact ⟨paced.waiting, fun pending => (paced.pending pending).2.2⟩

/-- A sleepy node polls for its packet, which then waits for an acknowledgement. -/
theorem busy_has_timer_poll :
    let node := ((Boot.coordinatorOn 0x2A#8).start.run
      [.permitAttach true, .frame (registrationRequestFrame 0x2A#8 1#8 ⟨1#64, 0x14#16⟩) 0,
        .send 1#8 0x50#8 [7#8] 0#16 none, .frame (pollFrame 0x2A#8 1#8 2#8) 0]).ctx.nodes 0
    node.state = .waitAck ∧ node.ackTimer.armed = true := by
  intro node
  have waiting : node.state = .waitAck := by decide +kernel
  refine ⟨waiting, (busy_has_timer (Boot.coordinatorOn 0x2A#8) rfl _ ?_ 0).1 waiting⟩
  exact ⟨trivial, fun _ _ index _ => by revert index; decide +kernel, trivial,
    fun reaches => absurd reaches (by decide +kernel), trivial⟩

/-- A node that waits for an acknowledgement registers again, now as a sleepy one. Its ack timer
then puts the packet back to wait for a poll, with no validity timer to end that. -/
theorem reregistration_loses_validity :
    let attach (flags : BitVec 16) : Input :=
      .frame (registrationRequestFrame 0x2A#8 1#8 ⟨1#64, flags⟩) 0
    let node := ((Boot.coordinatorOn 0x2A#8).start.run
      [.permitAttach true, attach 0x04#16, .send 1#8 0x50#8 [7#8] 0#16 none, attach 0x14#16,
        .tick, .tick]).ctx.nodes 0
    node.state = .sendPending ∧ node.validityTimer.armed = false := by
  decide +kernel

/-! ### An idle slot has none -/

/-- What a received frame makes of a slot, behind the source lookup. -/
inductive Handled (ctx : Ctx) (buf : Memory) (size : Nat) (index : Slot) (node : Node) :
    Node → Prop where
  | kept : Handled ctx buf size index node node
  | acked (waiting : node.state = .waitAck) : Handled ctx buf size index node node.acked
  | registered (type : (readHeader buf).type = PacketType.registrationRequest.code)
      (long : headerSize + registrationRequestSize ≤ size)
      (given : ctx.registrationSlot (readRegistrationRequest buf).uuid = some index) :
      Handled ctx buf size index node (node.register (readRegistrationRequest buf) ctx.tickCount)
  | detached (now : BitVec 32) (id : Nat) (hdr : Header) (payload : List Byte)
      (type : (readHeader buf).type = PacketType.deregistrationRequest.code)
      (long : headerSize + deregistrationRequestSize ≤ size)
      (found : tinymacGetNodeByAddr ctx (readHeader buf).srcAddr = some (.slot index))
      (uuid : node.uuid = (readDeregistrationRequest buf).uuid) :
      Handled ctx buf size index node ((node.accept now PacketType.registrationResponse.code 0#16
        id hdr payload none).setState .unregistered)

section Handled

variable {σ : Mac} (coordinator : Coordinator σ.ctx) (buf : Memory) (size : Nat) (index : Slot)

include coordinator

theorem rxDeregistrationRequest_handled
    (type : (readHeader buf).type = PacketType.deregistrationRequest.code)
    (long : headerSize + deregistrationRequestSize ≤ size) :
    Handled σ.ctx buf size index (σ.ctx.nodes index)
      ((tinymacRxDeregistrationRequest σ (readHeader buf) buf).ctx.nodes index) := by
  unfold tinymacRxDeregistrationRequest
  rw [if_neg (by simp [coordinator.role])]
  dsimp only
  split
  · exact .kept
  · next ptr found =>
    obtain ⟨source, rfl, -, live⟩ := getNodeByAddr_coordinator coordinator.role found
    split
    · exact .kept
    · next same =>
      rw [deregister_slot_ctx,
        txPacket_unicast_ctx _ _ _ _ _ _ (coordinator.fits (response_short _)), modify_modify]
      by_cases here : index = source
      · subst here
        rw [modify_slot_nodes_self]
        exact .detached _ _ _ _ type long found (not_not.mp same)
      · rw [modify_slot_nodes_of_ne _ _ here]
        exact .kept

/-- The handler of a type writes a slot as `Handled` says. -/
theorem recvType_handled (node : Option Slot) :
    Handled σ.ctx buf size index (σ.ctx.nodes index)
      ((tinymacRecvType σ (node.map .slot) (readHeader buf) buf size).ctx.nodes index) := by
  have role := coordinator.role
  unfold tinymacRecvType
  split
  · split <;> exact .kept
  · split
    case h_2 => exact .kept
    case h_1 type known =>
      have code : (readHeader buf).type = type.code := PacketType.ofCode_eq_some.mp known
      unfold tinymacRecvControl
      cases type with
      | beacon => simpa [tinymacRxBeacon, role] using .kept
      | ack =>
          cases node with
          | none => exact .kept
          | some source =>
              dsimp only [Option.map_some]
              rw [rxAck_eq]
              split
              · next waiting =>
                rw [invokeSendCb_ctx, mac_modify_ctx]
                by_cases here : index = source
                · subst here
                  rw [modify_slot_nodes_self]
                  exact .acked waiting.1
                · rw [modify_slot_nodes_of_ne _ _ here]
                  exact .kept
              · exact .kept
      | poll => exact .kept
      | beaconRequest =>
          dsimp only
          rw [txBeacon_ctx σ false role]
          exact .kept
      | registrationRequest =>
          dsimp only
          split
          · exact .kept
          · next long =>
            rw [rxRegistrationRequest_slot coordinator buf]
            split
            · next given => exact .registered code (not_lt.mp long) given
            · exact .kept
      | deregistrationRequest =>
          dsimp only
          split
          · exact .kept
          · next long =>
            exact rxDeregistrationRequest_handled coordinator buf size index code (not_lt.mp long)
      | registrationResponse => simpa [tinymacRxRegistrationResponse, role] using .kept

/-- A frame that does not get past the source lookup writes no slot. -/
theorem recv_unhandled (rssi : Int) (unhandled : σ.ctx.handles (readHeader buf) size = false) :
    (tinymacRecvCb σ buf size rssi).ctx.nodes = σ.ctx.nodes := by
  rcases recv_unhandled_cases coordinator buf size rssi unhandled with ⟨-, same⟩ | ⟨-, -, expels⟩
  · rw [same]
  · have ready : Coordinator (tinymacRecvStandby σ (readHeader buf)).ctx := by
      rwa [recvStandby_ctx]
    rw [expels, Mac.expel, txPacket_unicast_ctx _ _ _ _ _ _ (ready.fits (response_short _)),
      recvStandby_ctx]
    rfl

/-- A frame that does is handled by its type, after its source was heard. -/
theorem recv_handled_slot (rssi : Int) (handles : σ.ctx.handles (readHeader buf) size = true) :
    Handled (σ.ctx.hear (readHeader buf) rssi) buf size index
      ((σ.ctx.hear (readHeader buf) rssi).nodes index)
      ((tinymacRecvCb σ buf size rssi).ctx.nodes index) := by
  have heard := coordinator.hear (readHeader buf) rssi
  obtain ⟨source, is, -⟩ := source_slot coordinator.role (readHeader buf)
  have written := recvType_handled heard buf size index source
  rw [hear_ctx] at written
  rw [recv_handled σ coordinator buf size rssi handles, is]
  exact written

/-- **A slot behind a received frame**: as it was, or as the handler of the type makes it after its
source was heard. -/
theorem recv_at_slot (rssi : Int) :
    (tinymacRecvCb σ buf size rssi).ctx.nodes index = σ.ctx.nodes index ∨
      σ.ctx.accepts (readHeader buf) size = true ∧
        Handled (σ.ctx.hear (readHeader buf) rssi) buf size index
          ((σ.ctx.hear (readHeader buf) rssi).nodes index)
          ((tinymacRecvCb σ buf size rssi).ctx.nodes index) := by
  cases handles : σ.ctx.handles (readHeader buf) size with
  | false => exact .inl (congrFun (recv_unhandled coordinator buf size rssi handles) index)
  | true =>
      refine .inr ⟨?_, recv_handled_slot coordinator buf size index rssi handles⟩
      rw [Ctx.handles, Bool.and_eq_true] at handles
      exact handles.1

end Handled

/-- State and timers go together, and no timer runs on a free record. -/
structure Node.Clean (node : Node) : Prop extends node.Timed where
  free : node.state = .unregistered → node.outstanding = false

/-- A deregistration request that is taken comes from a slot that is idle and not sleepy. -/
def Ctx.DetachesIdle (ctx : Ctx) : Input → Prop
  | .recv buf size _ => ctx.accepts (readHeader buf) size = true →
      (readHeader buf).type = PacketType.deregistrationRequest.code →
      headerSize + deregistrationRequestSize ≤ size →
      ∀ index, tinymacGetNodeByAddr ctx (readHeader buf).srcAddr = some (.slot index) →
        (ctx.nodes index).uuid = (readDeregistrationRequest buf).uuid →
        (ctx.nodes index).state = .registered ∧ (ctx.nodes index).sleepy = false
  | _ => True

namespace Node.Clean

variable {node : Node}

theorem checkHeartbeat (clean : node.Clean) (now : BitVec 32) :
    (node.checkHeartbeat now).Clean := by
  unfold Node.checkHeartbeat
  split_ifs with expired
  · exact ⟨clean.toTimed.unregister, fun _ => clean.registered expired.1⟩
  · exact clean

theorem despatchAck (clean : node.Clean) (now : BitVec 32) : (node.despatchAck now).Clean := by
  refine ⟨clean.toTimed.despatchAck now, ?_⟩
  unfold Node.despatchAck
  split_ifs with due
  · unfold Node.ackExpire
    split_ifs
    · exact nofun
    · intro unregistered
      have rest := Node.outstanding_eq_false.mp (clean.free unregistered)
      cases rest.1.symm.trans (armed_of_due due)
    · exact fun _ => rfl
  · exact clean.free

theorem despatchValidity (clean : node.Clean) (now : BitVec 32) :
    (node.despatchValidity now).Clean := by
  refine ⟨clean.toTimed.despatchValidity now, ?_⟩
  unfold Node.despatchValidity
  split_ifs
  · exact nofun
  · exact clean.free

theorem tick (clean : node.Clean) (now : BitVec 32) : (node.tick now).Clean :=
  ((clean.checkHeartbeat now).despatchAck now).despatchValidity now

theorem release (clean : node.Clean) (now : BitVec 32) : (node.release now).Clean := by
  refine ⟨clean.toTimed.release now, ?_⟩
  unfold Node.release
  split_ifs
  · exact nofun
  · exact nofun
  · exact clean.free

theorem accept (clean : node.Clean) (now : BitVec 32) (flagsType : BitVec 8)
    (validity : BitVec 16) (id : Nat) (hdr : Header) (payload : List Byte) (cb : Option SendCb) :
    (node.accept now flagsType validity id hdr payload cb).Clean := by
  refine ⟨clean.toTimed.accept .., ?_⟩
  unfold Node.accept
  split_ifs
  · exact clean.free
  · exact nofun
  · exact nofun
  · exact clean.free

end Node.Clean

/-- Hearing a frame does not change what a lookup by address finds. -/
theorem hear_getNodeByAddr {ctx : Ctx} (role : ctx.params.coordinator = true) (hdr : Header)
    (rssi : Int) (addr : BitVec 8) :
    tinymacGetNodeByAddr (ctx.hear hdr rssi) addr = tinymacGetNodeByAddr ctx addr := by
  have kept : (ctx.hear hdr rssi).params.coordinator = true :=
    (congrArg (fun identity => identity.1.coordinator) (hear_identity ctx hdr rssi)).trans role
  have same (index : Slot) : ((((ctx.hear hdr rssi).nodes index).addr == addr) &&
      (((ctx.hear hdr rssi).nodes index).state != .unregistered)) =
        (((ctx.nodes index).addr == addr) && ((ctx.nodes index).state != .unregistered)) := by
    rw [(hear_keeps role hdr rssi index).addr]
    exact congrArg _ (hear_live role hdr rssi index)
  rw [tinymacGetNodeByAddr, tinymacGetNodeByAddr, if_pos kept, if_pos role]
  simp only [same]

section Clean

variable {σ : Mac} (coordinator : Coordinator σ.ctx)
  (clean : ∀ index, (σ.ctx.nodes index).Clean)

include coordinator clean

theorem hear_clean (hdr : Header) (rssi : Int) (index : Slot) :
    ((σ.ctx.hear hdr rssi).nodes index).Clean := by
  rcases hear_nodes σ.ctx coordinator.role hdr rssi index with same | ⟨-, heard⟩
  · rw [same]
    exact clean index
  · have noted : ((σ.ctx.nodes index).heard σ.ctx.tickCount rssi).Clean :=
      ⟨⟨(clean index).registered, (clean index).pending, (clean index).waiting,
        (clean index).deferrable⟩, (clean index).free⟩
    rw [heard]
    exact noted.release _

/-- A frame leaves no timer on a free slot, unless it detaches a slot that is busy or sleepy. -/
theorem recv_free (buf : Memory) (size : Nat) (rssi : Int)
    (idle : σ.ctx.DetachesIdle (.recv buf size rssi)) (index : Slot)
    (free : ((tinymacRecvCb σ buf size rssi).ctx.nodes index).state = .unregistered) :
    ((tinymacRecvCb σ buf size rssi).ctx.nodes index).outstanding = false := by
  rcases recv_at_slot coordinator buf size index rssi with same | ⟨accepted, handled⟩
  · rw [same] at free ⊢
    exact (clean index).free free
  · have heard := hear_clean coordinator clean (readHeader buf) rssi index
    generalize (tinymacRecvCb σ buf size rssi).ctx.nodes index = after at handled free ⊢
    cases handled with
    | kept => exact heard.free free
    | acked waiting => cases free
    | registered type long given => cases free
    | detached now id hdr payload type long found uuid =>
        have kept := hear_keeps coordinator.role (readHeader buf) rssi index
        rw [hear_getNodeByAddr coordinator.role] at found
        obtain ⟨registered, awake⟩ :=
          idle accepted type long index found (kept.uuid.symm.trans uuid)
        have stays : ((σ.ctx.hear (readHeader buf) rssi).nodes index).accept now
            PacketType.registrationResponse.code 0#16 id hdr payload none =
              (σ.ctx.hear (readHeader buf) rssi).nodes index := by
          have awake : ((σ.ctx.hear (readHeader buf) rssi).nodes index).sleepy = false := by
            rw [Node.sleepy, kept.flags]
            exact awake
          have plain : ackRequested PacketType.registrationResponse.code = false := by decide
          simp [Node.accept, awake, plain]
        have still : ((σ.ctx.hear (readHeader buf) rssi).nodes index).state = .registered := by
          rcases hear_nodes σ.ctx coordinator.role (readHeader buf) rssi index with
            same | ⟨-, released⟩
          · rw [same, registered]
          · have nothing : ((σ.ctx.nodes index).heard σ.ctx.tickCount rssi).state ≠
                .sendPending := by
              rw [Node.heard_state, registered]
              decide
            rw [released, Node.release, if_neg nothing, Node.heard_state, registered]
        rw [stays]
        exact heard.registered still

theorem send_clean (dest type : BitVec 8) (buf : List Byte) (validity : BitVec 16)
    (cb : Option SendCb) (index : Slot) :
    ((tinymacSend σ dest type buf validity cb).2.ctx.nodes index).Clean := by
  rcases send_at_slot coordinator dest type buf validity cb index with same | ⟨_, accepted⟩
  · rw [same]
    exact clean index
  · rw [accepted]
    exact (clean index).accept ..

theorem clean_step (input : Input) (rest : σ.ctx.RegistersAtRest input)
    (idle : σ.ctx.DetachesIdle input) (index : Slot) :
    ((σ.step input).ctx.nodes index).Clean := by
  cases input with
  | recv buf size rssi =>
      have timed := ((step_ops σ coordinator _ (admits_rested rest)).preserve
        (P := fun σ => ∀ index, (σ.ctx.nodes index).Timed) coordinator
        (fun coordinator timed op index => timed_op coordinator timed op index)
        fun index => (clean index).toTimed).2
      exact ⟨timed index, recv_free coordinator clean buf size rssi idle index⟩
  | tick =>
      rw [step_tick_nodes coordinator]
      exact (clean index).tick _
  | send dest type buf validity cb =>
      exact send_clean coordinator clean dest type buf validity cb index
  | permitAttach permit => exact clean index
  | registerRecvCb cb => exact clean index
  | registerRegCb cb => exact clean index
  | registerDeregCb cb => exact clean index

end Clean

/-- The steps of a run register slots at rest, and detach slots that are idle and not sleepy. -/
def Ctx.KeepsClean (ctx : Ctx) (input : Input) : Prop :=
  ctx.RegistersAtRest input ∧ ctx.DetachesIdle input

theorem clean_run {σ : Mac} (coordinator : Coordinator σ.ctx)
    (clean : ∀ index, (σ.ctx.nodes index).Clean) (inputs : List Input)
    (keeps : σ.Along Ctx.KeepsClean inputs) (index : Slot) :
    ((σ.run inputs).ctx.nodes index).Clean := by
  induction inputs generalizing σ with
  | nil => exact clean index
  | cons input inputs ih =>
      obtain ⟨⟨rest, idle⟩, later⟩ := keeps
      exact ih (coordinator.of_identity (step_identity σ coordinator input))
        (clean_step coordinator clean input rest idle) later

/-! ### Whose packet a timer is for -/

/-- What the record may still send, or give up, is a packet built later than the packet `base`. -/
def Node.Later (base : Nat) (node : Node) : Prop :=
  node.outstanding = true ∨ node.state = .sendPending → base < node.pendingId

section Later

variable {base : Nat} {node : Node}

theorem Node.Later.release (later : node.Later base) (now : BitVec 32) :
    (node.release now).Later base := by
  unfold Node.release
  split_ifs with pending
  · exact fun _ => later (.inr pending)
  · exact fun _ => later (.inr pending)
  · exact later

theorem Node.Later.accept (later : node.Later base) {now : BitVec 32} {flagsType : BitVec 8}
    {validity : BitVec 16} {id : Nat} {hdr : Header} {payload : List Byte} {cb : Option SendCb}
    (young : base < id) : (node.accept now flagsType validity id hdr payload cb).Later base := by
  unfold Node.accept
  split_ifs
  · exact later
  · exact fun _ => young
  · exact fun _ => young
  · exact later

theorem Node.Later.despatchAck (later : node.Later base) (now : BitVec 32) :
    (node.despatchAck now).Later base := by
  unfold Node.despatchAck
  split_ifs with due
  · have armed : node.outstanding = true := by
      rw [Node.outstanding, armed_of_due due]
      rfl
    unfold Node.ackExpire
    split_ifs <;> exact fun _ => later (.inl armed)
  · exact later

theorem Node.Later.despatchValidity (later : node.Later base) (now : BitVec 32) :
    (node.despatchValidity now).Later base := by
  unfold Node.despatchValidity
  split_ifs
  · rintro (armed | pending)
    · cases armed
    · cases pending
  · exact later

/-- What ends the state of a record leaves its timers to the packet they are for. -/
theorem Node.Later.setState (later : node.Later base) {state : NodeState}
    (other : state ≠ .sendPending) : (node.setState state).Later base := by
  rintro (armed | pending)
  · exact later (.inl armed)
  · exact absurd pending other

/-- **A slot takes up no older packet.** -/
theorem SlotOp.later {ok : Condition} {σ : Mac} {index : Slot} (op : SlotOp ok σ index node)
    (built : base ≤ σ.built) (later : (σ.ctx.nodes index).Later base) : node.Later base := by
  cases op with
  | heard rssi live => exact later
  | released => exact later.release _
  | acked waiting =>
      rintro (armed | pending)
      · cases armed
      · cases pending
  | accepted type validity payload cb live data => exact later.accept (Nat.lt_succ_of_le built)
  | registered attach given fresh =>
      rintro (armed | pending)
      · exact later (.inl armed)
      · cases pending
  | detached live => exact (later.accept (Nat.lt_succ_of_le built)).setState (by decide)
  | expired idle => exact later.setState (by decide)
  | ackDue timers => exact later.despatchAck _
  | validityDue timers => exact later.despatchValidity _

end Later

/-- **From an idle slot on**, in any run, its timers are for packets that are built later. -/
theorem run_later {σ : Mac} (coordinator : Coordinator σ.ctx) {index : Slot}
    (later : (σ.ctx.nodes index).Later σ.built) (inputs : List Input) :
    ((σ.run inputs).ctx.nodes index).Later σ.built := by
  have kept := run_induction_any
    (P := fun τ => σ.built ≤ τ.built ∧ (τ.ctx.nodes index).Later σ.built)
    (fun coordinator holds op => ⟨holds.1.trans op.built_le, ?_⟩)
    coordinator ⟨le_rfl, later⟩ inputs
  · exact kept.2.2
  · rcases op.at_slot coordinator index with same | change
    · rw [same]
      exact holds.2
    · exact change.later holds.1 holds.2

/-- **No timer runs on an idle slot**, in every run that registers slots at rest and detaches slots
that are idle and not sleepy. So whatever comes next, a timer of such a slot only ever runs for a
packet that is built later: a node that has just registered is neither sent a packet again nor given
up for one from before. -/
theorem no_stale_timer (boot : Boot) (role : boot.params.coordinator = true) (inputs : List Input)
    (keeps : boot.start.Along Ctx.KeepsClean inputs) (index : Slot) :
    let σ := boot.start.run inputs
    let node := σ.ctx.nodes index
    node.state = .registered ∨ node.state = .unregistered →
      (node.ackTimer.armed = false ∧ node.validityTimer.armed = false) ∧
      ∀ later, let after := (σ.run later).ctx.nodes index
        after.ackTimer.armed = true ∨ after.validityTimer.armed = true →
          σ.built < after.pendingId := by
  intro σ node idle
  have coordinator : Coordinator σ.ctx := (reachable_hub boot role inputs).coordinator
  have started (index : Slot) : (boot.start.ctx.nodes index).Clean := by
    rw [start_nodes]
    exact ⟨.of_rest rfl (.inr rfl), fun _ => rfl⟩
  have clean : node.Clean := clean_run (start_coordinator boot role) started inputs keeps index
  have rests : node.outstanding = false := idle.elim clean.registered clean.free
  refine ⟨Node.outstanding_eq_false.mp rests, fun later armed => ?_⟩
  have young : node.Later σ.built := by
    rintro (armed | pending)
    · exact absurd (rests.symm.trans armed) (by decide)
    · rcases idle with state | state <;> exact absurd (state.symm.trans pending) (by decide)
  refine run_later coordinator young later (.inl ?_)
  rw [Node.outstanding, Bool.or_eq_true]
  exact armed

/-- A packet is acknowledged, and its slot is idle again. -/
theorem no_stale_timer_acked :
    let node := ((Boot.coordinatorOn 0x2A#8).start.run
      [.permitAttach true, .frame (registrationRequestFrame 0x2A#8 1#8 ⟨1#64, 0x04#16⟩) 0,
        .send 1#8 0x50#8 [7#8] 0#16 none,
        .frame ⟨⟨headerFlags PacketType.ack.code, 0x2A#8, 0#8, 1#8, 0x2C#8⟩, []⟩ 0]).ctx.nodes 0
    node.state = .registered ∧ node.ackTimer.armed = false := by
  intro node
  have registered : node.state = .registered := by decide +kernel
  refine ⟨registered, (no_stale_timer (Boot.coordinatorOn 0x2A#8) rfl _ ?_ 0 (.inl registered)).1.1⟩
  exact ⟨⟨trivial, trivial⟩, ⟨fun _ index _ => by revert index; decide +kernel,
    fun _ type => absurd type (by decide +kernel)⟩, ⟨trivial, trivial⟩,
    ⟨fun reaches => absurd reaches (by decide +kernel),
      fun _ type => absurd type (by decide +kernel)⟩, trivial⟩

/-- A node that waits for an acknowledgement registers again: its slot is Registered with the ack
timer running, and is given up five ticks later for the packet of the earlier registration. A
sleepy node that deregisters leaves the validity timer of the answer behind. -/
theorem reregistration_keeps_timer :
    let attach (flags : BitVec 16) : Input :=
      .frame (registrationRequestFrame 0x2A#8 1#8 ⟨1#64, flags⟩) 0
    let detach : Input := .frame ⟨⟨headerFlags PacketType.deregistrationRequest.code, 0x2A#8, 0#8,
      1#8, 2#8⟩, DeregistrationRequest.bytes ⟨1#64, 0#8⟩⟩ 0
    let start := (Boot.coordinatorOn 0x2A#8).start
    let again := start.run
      [.permitAttach true, attach 0x04#16, .send 1#8 0x50#8 [7#8] 0#16 none, attach 0x04#16]
    let detached := (start.run [.permitAttach true, attach 0x14#16, detach]).ctx.nodes 0
    (again.ctx.nodes 0).state = .registered ∧ (again.ctx.nodes 0).ackTimer.armed = true ∧
      ((again.run [.tick, .tick, .tick, .tick, .tick]).ctx.nodes 0).state = .unregistered ∧
      detached.state = .unregistered ∧ detached.validityTimer.armed = true := by
  decide +kernel

end TinyHan.Tinymac
