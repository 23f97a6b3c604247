/-
**What a registration request does to the registry.**

A request is given the slot that holds its UUID, else the first slot whose UUID is zero, else the
first Unregistered slot. The second search looks at the UUID alone: a node that registered with
UUID zero holds a slot that still counts as never given out. So a request leaves the other nodes
alone exactly when it is for a known UUID or no live slot has UUID zero
(`registration_isolated_iff`).

The gate `permit_attach` is checked for frames without a source address or network only. A frame
that carries the address of a live slot reaches the registration handler whatever the gate says
(`permitAttach_enforced_iff`).
-/

import TinyHan.Coordinator.Registry

namespace TinyHan.Tinymac

open TinyHan.Lib

/-! ### The registration handler -/

/-- A registration request that reaches its handler is handled there. -/
theorem recv_registration {σ : Mac} (coordinator : Coordinator σ.ctx) {buf : Memory} {size : Nat}
    (rssi : Int) (reaches : σ.ctx.reachesRegistration buf size = true) :
    tinymacRecvCb σ buf size rssi =
      tinymacRxRegistrationRequest (σ.hear (readHeader buf) rssi) buf := by
  rw [Ctx.reachesRegistration, Bool.and_eq_true, Bool.and_eq_true, beq_iff_eq,
    decide_eq_true_eq] at reaches
  obtain ⟨⟨handles, type⟩, long⟩ := reaches
  rw [recv_handled σ coordinator buf size rssi handles, recvType_control _ _ _ _ _ _ type,
    tinymacRecvControl]
  exact if_neg (not_lt.mpr long)

section Handler

variable {σ : Mac} (coordinator : Coordinator σ.ctx) (buf : Memory)

theorem registerSlot_identity (σ : Mac) (attach : RegistrationRequest) :
    (σ.registerSlot attach).ctx.identity = σ.ctx.identity := registerSlot_apart identity_apart ..

include coordinator

theorem respond_nodes (attach : RegistrationRequest) (resp : RegistrationResponse) :
    ((σ.registerSlot attach).respond resp).ctx.nodes = (σ.registerSlot attach).ctx.nodes := by
  have fits := (coordinator.of_identity (registerSlot_identity σ attach)).fits (response_short resp)
  rw [Mac.respond, txPacket_broadcast_ctx _ _ _ _ _ fits]
  rfl

theorem rxRegistrationRequest_nodes :
    (tinymacRxRegistrationRequest σ buf).ctx.nodes =
      (σ.registerSlot (readRegistrationRequest buf)).ctx.nodes := by
  rw [rxRegistrationRequest_eq σ buf coordinator.role]
  dsimp only
  split
  · rw [emit_ctx, respond_nodes coordinator]
  · exact respond_nodes coordinator ..

/-- The handler registers the slot that the UUID is given, and no other. -/
theorem rxRegistrationRequest_slot (index : Slot) :
    (tinymacRxRegistrationRequest σ buf).ctx.nodes index =
      if σ.ctx.registrationSlot (readRegistrationRequest buf).uuid = some index then
        (σ.ctx.nodes index).register (readRegistrationRequest buf) σ.ctx.tickCount
      else σ.ctx.nodes index := by
  rw [rxRegistrationRequest_nodes coordinator buf, Mac.registerSlot]
  cases given : σ.ctx.registrationSlot (readRegistrationRequest buf).uuid with
  | none => rw [if_neg (Option.some_ne_none index).symm]
  | some target =>
      rw [mac_modify_ctx]
      by_cases here : index = target
      · rw [here, if_pos rfl, modify_slot_nodes_self]
      · have other : ¬ some target = some index := fun is => here (Option.some.inj is).symm
        rw [if_neg other, modify_slot_nodes_of_ne _ _ here]

/-- The handler sends one frame, the broadcast response. -/
theorem rxRegistrationRequest_frames :
    frames (tinymacRxRegistrationRequest σ buf).out = frames σ.out ++
      [⟨σ.ctx.buildHeader none PacketType.registrationResponse.code,
        (σ.ctx.registrationResponse (readRegistrationRequest buf)).bytes⟩] := by
  have registered := coordinator.of_identity (registerSlot_identity σ (readRegistrationRequest buf))
  have fits := registered.fits
    (response_short (σ.ctx.registrationResponse (readRegistrationRequest buf)))
  have answered : frames ((σ.registerSlot (readRegistrationRequest buf)).respond
      (σ.ctx.registrationResponse (readRegistrationRequest buf))).out = frames σ.out ++
        [⟨σ.ctx.buildHeader none PacketType.registrationResponse.code,
          (σ.ctx.registrationResponse (readRegistrationRequest buf)).bytes⟩] := by
    rw [Mac.respond, txPacket_broadcast_frames _ _ _ _ _ fits, registerSlot_buildHeader,
      registerSlot_out]
  rw [rxRegistrationRequest_eq σ buf coordinator.role]
  dsimp only
  split
  · rw [emit_out, frames_append, answered]
    simp [frames]
  · exact answered

end Handler

/-! ### Isolation and capacity -/

/-- What a registration should do between entry and exit of its handler: leave every live slot of
another UUID alone, and answer with a slot that is now live for the UUID, or with NetworkFull when
no slot is known to it or free. -/
structure Isolates (before after : Mac) (attach : RegistrationRequest) : Prop where
  others : ∀ n, (before.ctx.nodes n).live = true → (before.ctx.nodes n).uuid ≠ attach.uuid →
    after.ctx.nodes n = before.ctx.nodes n
  success : (∃ n, (before.ctx.nodes n).uuid = attach.uuid ∨
      (before.ctx.nodes n).state = .unregistered) →
    ∃ n, frames after.out = frames before.out ++
        [⟨before.ctx.buildHeader none PacketType.registrationResponse.code,
          RegistrationResponse.bytes ⟨attach.uuid, (after.ctx.nodes n).addr,
            RegistrationStatus.success.code⟩⟩] ∧
      (after.ctx.nodes n).live = true ∧ (after.ctx.nodes n).uuid = attach.uuid
  full : (¬ ∃ n, (before.ctx.nodes n).uuid = attach.uuid ∨
      (before.ctx.nodes n).state = .unregistered) →
    frames after.out = frames before.out ++
        [⟨before.ctx.buildHeader none PacketType.registrationResponse.code,
          RegistrationResponse.bytes ⟨attach.uuid, addrUnassigned,
            RegistrationStatus.networkFull.code⟩⟩] ∧
      after.ctx.nodes = before.ctx.nodes

section Isolation

variable {σ : Mac} (coordinator : Coordinator σ.ctx) {attach : RegistrationRequest} {index : Slot}

/-- The first slot with UUID zero is given away, live or not. -/
theorem registrationSlot_takes_zero {ctx : Ctx} (registry : Registry ctx.nodes)
    {uuid : BitVec 64} (unknown : ∀ n, (ctx.nodes n).uuid ≠ uuid) {index : Slot}
    (live : (ctx.nodes index).live = true) (zero : (ctx.nodes index).uuid = 0#64) :
    ctx.registrationSlot uuid = some index := by
  have notKnown : tinymacGetNodeByUuid ctx uuid = none := getNodeByUuid_eq_none.mpr unknown
  have first : tinymacGetFreeNode ctx = some index := by
    refine getFreeNode_eq_some.mpr (.inl ⟨zero, fun earlier before also => ?_⟩)
    exact absurd (registry.firstZero index earlier zero (Node.active_of_live live) also)
      (not_le.mpr before)
  rw [Ctx.registrationSlot, notKnown, first]
  rfl

/-- With the UUID known, or no live slot of UUID zero, the slot given is known or free. -/
theorem registrationSlot_known_or_free {ctx : Ctx} {uuid : BitVec 64}
    (harmless : (∃ n, (ctx.nodes n).uuid = uuid) ∨
      ∀ n, (ctx.nodes n).live = true → (ctx.nodes n).uuid ≠ 0#64) {index : Slot}
    (given : ctx.registrationSlot uuid = some index) :
    (ctx.nodes index).uuid = uuid ∨ (ctx.nodes index).state = .unregistered := by
  rcases registrationSlot_cases given with ⟨known, -⟩ | ⟨unknown, ⟨zero, -⟩ | ⟨-, free⟩⟩
  · exact .inl known
  · rcases harmless with ⟨n, known⟩ | idle
    · exact absurd known (unknown n)
    · refine .inr (by_contra fun busy => ?_)
      exact idle index ((Node.live_iff _).mpr busy) zero
  · exact .inr free

include coordinator in
/-- **The handler isolates its request from the other nodes** unless it takes a live slot that
registered with UUID zero. -/
theorem rxRegistrationRequest_isolates_iff (registry : Registry σ.ctx.nodes) (buf : Memory) :
    Isolates σ (tinymacRxRegistrationRequest σ buf) (readRegistrationRequest buf) ↔
      (∃ n, (σ.ctx.nodes n).uuid = (readRegistrationRequest buf).uuid) ∨
        ∀ n, (σ.ctx.nodes n).live = true → (σ.ctx.nodes n).uuid ≠ 0#64 := by
  set attach := readRegistrationRequest buf with request
  have slot := rxRegistrationRequest_slot coordinator buf
  have sent := rxRegistrationRequest_frames coordinator buf
  rw [← request] at slot sent
  constructor
  · intro isolates
    by_contra harmful
    rw [not_or, not_exists, not_forall] at harmful
    obtain ⟨unknown, n, taken⟩ := harmful
    rw [Classical.not_imp, not_not] at taken
    have given := registrationSlot_takes_zero registry unknown taken.1 taken.2
    have kept := congrArg Node.uuid (isolates.others n taken.1 (unknown n))
    rw [slot, if_pos given] at kept
    exact unknown n kept.symm
  · intro harmless
    cases given : σ.ctx.registrationSlot attach.uuid with
    | none =>
        have nodes : (tinymacRxRegistrationRequest σ buf).ctx.nodes = σ.ctx.nodes := by
          funext n
          rw [slot, given, if_neg nofun]
        have unknown := registrationSlot_eq_none.mp given
        refine ⟨fun n _ _ => by rw [nodes], fun ⟨n, found⟩ => ?_, fun _ => ⟨?_, nodes⟩⟩
        · rcases found with known | free
          · exact absurd known (unknown.1 n)
          · exact absurd free (unknown.2 n).2
        · simpa only [Ctx.registrationResponse, given] using sent
    | some index =>
        have free := registrationSlot_known_or_free harmless given
        have here := slot index
        rw [if_pos given] at here
        refine ⟨fun n live other => ?_, fun _ => ⟨index, ?_, ?_, ?_⟩, fun none => ?_⟩
        · rw [slot, if_neg fun same => ?_]
          cases given.symm.trans same
          rcases free with known | free
          · exact other known
          · exact (Node.live_iff _).mp live free
        · rw [here, Node.register_addr]
          simpa only [Ctx.registrationResponse, given] using sent
        · rw [here]
          rfl
        · rw [here]
          rfl
        · exact absurd ⟨index, free⟩ none

end Isolation

theorem Registry.hear {ctx : Ctx} (role : ctx.params.coordinator = true)
    (registry : Registry ctx.nodes) (hdr : Header) (rssi : Int) :
    Registry (ctx.hear hdr rssi).nodes := registry.keep fun index => hear_keeps role hdr rssi index

/-- **Registration isolation and capacity**, for every reachable registry and every request that
reaches its handler. -/
theorem registration_isolated_iff (boot : Boot) (role : boot.params.coordinator = true)
    (inputs : List Input) (buf : Memory) (size : Nat) (rssi : Int)
    (reaches : (boot.start.run inputs).ctx.reachesRegistration buf size = true) :
    let σ := boot.start.run inputs
    Isolates (σ.hear (readHeader buf) rssi) (σ.step (.recv buf size rssi))
        (readRegistrationRequest buf) ↔
      (∃ n, (σ.ctx.nodes n).uuid = (readRegistrationRequest buf).uuid) ∨
        ∀ n, (σ.ctx.nodes n).live = true → (σ.ctx.nodes n).uuid ≠ 0#64 := by
  obtain ⟨coordinator, registry, -⟩ := reachable_registry boot role inputs
  have entry := coordinator.hear (readHeader buf) rssi
  have same (n : Slot) := (hear_keeps coordinator.role (readHeader buf) rssi n).uuid
  have live (n : Slot) := hear_live coordinator.role (readHeader buf) rssi n
  dsimp only [Mac.step]
  rw [recv_registration coordinator rssi reaches, rxRegistrationRequest_isolates_iff entry
    (by rw [hear_ctx]; exact registry.hear coordinator.role _ _) buf]
  simp only [hear_ctx, same, live]

/-- A node that registered with UUID zero loses its slot to the next new node. -/
theorem registration_takes_live_slot :
    let σ := (Boot.coordinatorOn 0x2A#8).start.run
      [.permitAttach true, .frame (registrationRequestFrame 0x2A#8 1#8 ⟨0#64, 0#16⟩) 0]
    let frame := registrationRequestFrame 0x2A#8 1#8 ⟨5#64, 0#16⟩
    σ.ctx.reachesRegistration frame.memory frame.bytes.length = true ∧
      ¬ Isolates (σ.hear frame.hdr 0) (σ.step (.frame frame 0)) ⟨5#64, 0#16⟩ := by
  refine ⟨by decide +kernel, fun isolates => ?_⟩
  have kept := congrArg Node.uuid (isolates.others 0 (by decide +kernel) (by decide +kernel))
  revert kept
  decide +kernel

/-- The first registration of a non-zero UUID leaves every other slot alone. -/
theorem registration_isolated_first :
    let σ := (Boot.coordinatorOn 0x2A#8).start.run [.permitAttach true]
    let frame := registrationRequestFrame 0x2A#8 1#8 ⟨5#64, 0#16⟩
    Isolates (σ.hear (readHeader frame.memory) 0) (σ.step (.frame frame 0))
      (readRegistrationRequest frame.memory) :=
  (registration_isolated_iff (Boot.coordinatorOn 0x2A#8) rfl [.permitAttach true]
    (registrationRequestFrame 0x2A#8 1#8 ⟨5#64, 0#16⟩).memory
    (registrationRequestFrame 0x2A#8 1#8 ⟨5#64, 0#16⟩).bytes.length 0 (by decide +kernel)).mpr
    (.inr (by decide +kernel))

/-! ### The gate -/

/-- No slot comes to life and none changes its UUID or flags. -/
def Unadmitted (before after : Ctx) : Prop :=
  ∀ n, ((after.nodes n).live = true → (before.nodes n).live = true) ∧
    (after.nodes n).uuid = (before.nodes n).uuid ∧ (after.nodes n).flags = (before.nodes n).flags

/-- The slot the request is given is not yet what the request makes of it. -/
def Ctx.registrationChanges (ctx : Ctx) (attach : RegistrationRequest) : Prop :=
  ∃ index, ctx.registrationSlot attach.uuid = some index ∧
    ¬ ((ctx.nodes index).live = true ∧ (ctx.nodes index).uuid = attach.uuid ∧
      (ctx.nodes index).flags = attach.flags)

/-- A registration request that names a network, is addressed to the coordinator, and carries the
address of a live slot as its source. -/
structure Ctx.Bypasses (ctx : Ctx) (buf : Memory) (size : Nat) : Prop where
  long : headerSize + registrationRequestSize ≤ size
  type : (readHeader buf).type = PacketType.registrationRequest.code
  netId : (readHeader buf).netId ≠ networkAny
  addressed : ctx.addressed (readHeader buf) = true
  source : ∃ index, (ctx.nodes index).live = true ∧
    (ctx.nodes index).addr = (readHeader buf).srcAddr

theorem getNodeByAddr_isSome {ctx : Ctx} (role : ctx.params.coordinator = true)
    (addr : BitVec 8) :
    (tinymacGetNodeByAddr ctx addr).isSome = true ↔
      ∃ index, (ctx.nodes index).live = true ∧ (ctx.nodes index).addr = addr := by
  rw [tinymacGetNodeByAddr, if_pos role, Option.isSome_map, List.find?_isSome]
  simp [Node.live, and_comm]

/-- With the gate closed, the registration handler is reached around it. -/
theorem reachesRegistration_closed {ctx : Ctx} (coordinator : Coordinator ctx)
    (registry : Registry ctx.nodes) (closed : ctx.permitAttach = false) (buf : Memory)
    (size : Nat) : ctx.reachesRegistration buf size = true ↔ ctx.Bypasses buf size := by
  simp only [Ctx.reachesRegistration, Ctx.handles, Ctx.accepts, Ctx.admitted, closed,
    Bool.and_false, Bool.or_false, Bool.and_eq_true, Bool.not_eq_true', Bool.or_eq_false_iff,
    Bool.or_eq_true, beq_eq_false_iff_ne, beq_iff_eq, decide_eq_true_eq, decide_eq_false_iff_not,
    getNodeByAddr_isSome coordinator.role]
  constructor
  · rintro ⟨⟨⟨⟨⟨⟨-, -⟩, addressed⟩, netId, assigned⟩, known⟩, type⟩, long⟩
    exact ⟨long, type, netId, addressed, known.resolve_left assigned⟩
  · rintro ⟨long, type, netId, addressed, index, live, source⟩
    have assigned : (readHeader buf).srcAddr ≠ 0#8 ∧ (readHeader buf).srcAddr ≠ addrUnassigned := by
      rw [← source, registry.addr]
      exact slotAddr_ne index
    refine ⟨⟨⟨⟨⟨⟨?_, ?_⟩, addressed⟩, netId, assigned.2⟩, .inr ⟨index, live, source⟩⟩, type⟩, long⟩
    · exact not_lt.mpr (le_trans (Nat.le_add_right _ _) long)
    · rw [coordinator.addr]
      exact assigned.1

/-- A frame that is no registration request admits nobody. -/
theorem recv_unadmitted {σ : Mac} (coordinator : Coordinator σ.ctx) (buf : Memory) (size : Nat)
    (rssi : Int) (other : ¬ σ.ctx.reachesRegistration buf size = true) :
    Unadmitted σ.ctx (tinymacRecvCb σ buf size rssi).ctx := by
  intro n
  have ops : Ops ⟨fun _ _ _ => False, fun _ _ => True, False⟩ σ (tinymacRecvCb σ buf size rssi) :=
    recv_ops σ coordinator buf size rssi
      ⟨fun reaches => absurd reaches other, fun _ _ _ _ => trivial⟩
  have calm := ops.calm coordinator not_false n fun _ _ => not_false
  exact ⟨calm.live, calm.uuid, calm.flags⟩

/-- Hearing a frame does not change which slot a UUID is given. -/
theorem hear_registrationSlot {ctx : Ctx} (role : ctx.params.coordinator = true) (hdr : Header)
    (rssi : Int) (uuid : BitVec 64) :
    (ctx.hear hdr rssi).registrationSlot uuid = ctx.registrationSlot uuid := by
  have same (n : Slot) := (hear_keeps role hdr rssi n).uuid
  have free (n : Slot) : (((ctx.hear hdr rssi).nodes n).state == NodeState.unregistered) =
      ((ctx.nodes n).state == NodeState.unregistered) := by
    rw [Bool.eq_iff_iff, beq_iff_eq, beq_iff_eq]
    exact hear_unregistered role hdr rssi n
  simp only [Ctx.registrationSlot, tinymacGetNodeByUuid, tinymacGetFreeNode, same, free]

/-- **A registration request that is served**, in the slots: the one that its UUID is given is
registered, and the others are as the frame leaves them. -/
theorem recv_registration_slot {σ : Mac} (coordinator : Coordinator σ.ctx) {buf : Memory}
    {size : Nat} (rssi : Int) (reaches : σ.ctx.reachesRegistration buf size = true)
    (index : Slot) :
    (tinymacRecvCb σ buf size rssi).ctx.nodes index =
      if σ.ctx.registrationSlot (readRegistrationRequest buf).uuid = some index then
        ((σ.ctx.hear (readHeader buf) rssi).nodes index).register (readRegistrationRequest buf)
          σ.ctx.tickCount
      else (σ.ctx.hear (readHeader buf) rssi).nodes index := by
  rw [recv_registration coordinator rssi reaches,
    rxRegistrationRequest_slot (coordinator.hear (readHeader buf) rssi), hear_ctx,
    hear_registrationSlot coordinator.role, hear_tickCount]

/-- A registration admits somebody unless the slot is as the request asks already. -/
theorem recv_registration_unadmitted_iff {σ : Mac} (coordinator : Coordinator σ.ctx)
    (buf : Memory) (size : Nat) (rssi : Int)
    (reaches : σ.ctx.reachesRegistration buf size = true) :
    Unadmitted σ.ctx (tinymacRecvCb σ buf size rssi).ctx ↔
      ¬ σ.ctx.registrationChanges (readRegistrationRequest buf) := by
  have kept (n : Slot) := hear_keeps coordinator.role (readHeader buf) rssi n
  have live (n : Slot) := hear_live coordinator.role (readHeader buf) rssi n
  have slot := recv_registration_slot coordinator rssi reaches
  unfold Unadmitted
  cases given : σ.ctx.registrationSlot (readRegistrationRequest buf).uuid with
  | none =>
      simp [slot, Ctx.registrationChanges, given, (kept _).uuid, (kept _).flags, live]
  | some index =>
      have here := slot index
      rw [if_pos given] at here
      simp only [Ctx.registrationChanges, given, Option.some.injEq, exists_eq_left', not_not]
      constructor
      · intro unadmitted
        obtain ⟨awake, uuid, flags⟩ := unadmitted index
        rw [here] at awake uuid flags
        exact ⟨awake rfl, uuid.symm, flags.symm⟩
      · rintro ⟨awake, uuid, flags⟩ n
        by_cases same : n = index
        · subst same
          rw [here]
          exact ⟨fun _ => awake, uuid.symm, flags.symm⟩
        · have other : ¬ some index = some n := fun is => same (Option.some.inj is).symm
          rw [slot, given, if_neg other, live, (kept n).uuid, (kept n).flags]
          exact ⟨id, rfl, rfl⟩

/-- **`permit_attach` is enforced** exactly for the frames that do not carry a registration request
around the gate. -/
theorem permitAttach_enforced_iff (boot : Boot) (role : boot.params.coordinator = true)
    (inputs : List Input) (closed : (boot.start.run inputs).ctx.permitAttach = false)
    (buf : Memory) (size : Nat) (rssi : Int) :
    let σ := boot.start.run inputs
    Unadmitted σ.ctx (σ.step (.recv buf size rssi)).ctx ↔
      ¬ (σ.ctx.Bypasses buf size ∧
        σ.ctx.registrationChanges (readRegistrationRequest buf)) := by
  obtain ⟨coordinator, registry, -⟩ := reachable_registry boot role inputs
  dsimp only [Mac.step]
  rw [← reachesRegistration_closed coordinator registry closed]
  by_cases reaches : (boot.start.run inputs).ctx.reachesRegistration buf size = true
  · rw [recv_registration_unadmitted_iff coordinator buf size rssi reaches, not_and]
    exact ⟨fun unchanged _ => unchanged, fun unchanged => unchanged reaches⟩
  · exact iff_of_true (recv_unadmitted coordinator buf size rssi reaches) fun both =>
      reaches both.1

/-- One node registers, the gate is closed, and a second node registers with a request that carries
the first one's address. -/
theorem permitAttach_bypassed :
    let σ := (Boot.coordinatorOn 0x2A#8).start.run
      [.permitAttach true, .frame (registrationRequestFrame 0x2A#8 1#8 ⟨5#64, 0#16⟩) 0,
        .permitAttach false]
    let frame : Frame := ⟨⟨headerFlags PacketType.registrationRequest.code, 0x2A#8, 0#8, 1#8, 7#8⟩,
      RegistrationRequest.bytes ⟨9#64, 0#16⟩⟩
    σ.ctx.permitAttach = false ∧ ¬ Unadmitted σ.ctx (σ.step (.frame frame 0)).ctx := by
  refine ⟨by decide +kernel, fun unadmitted => ?_⟩
  have admitted := (unadmitted 1).2.1
  revert admitted
  decide +kernel

/-- A poll of the registered node admits nobody. -/
theorem permitAttach_enforced_poll :
    let σ := (Boot.coordinatorOn 0x2A#8).start.run
      [.permitAttach true, .frame (registrationRequestFrame 0x2A#8 1#8 ⟨5#64, 0#16⟩) 0,
        .permitAttach false]
    σ.ctx.permitAttach = false ∧
      Unadmitted σ.ctx (σ.step (.frame (pollFrame 0x2A#8 1#8 7#8) 0)).ctx :=
  ⟨by decide +kernel,
    (permitAttach_enforced_iff (Boot.coordinatorOn 0x2A#8) rfl
      [.permitAttach true, .frame (registrationRequestFrame 0x2A#8 1#8 ⟨5#64, 0#16⟩) 0,
        .permitAttach false] (by decide +kernel)
      (pollFrame 0x2A#8 1#8 7#8).memory (pollFrame 0x2A#8 1#8 7#8).bytes.length 0).mpr
      fun both => absurd both.1.type (by decide +kernel)⟩

end TinyHan.Tinymac
