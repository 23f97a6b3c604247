/-
**The registry invariant of a coordinator.**

Slot `n` has address `n + 1`. A non-zero UUID is in at most one slot, live or not. UUID zero is
also the mark of a slot that was never given out, so several slots have it; the invariant
(`Registry`) says that only the first of them can be active. `registrationSlot_cases` is what the
two searches of a registration find, and `Registry.op` carries the invariant over every operation.
-/

import TinyHan.Coordinator.Events

namespace TinyHan.Tinymac

open TinyHan.Lib

/-! ### The slot a request is given -/

section Given

variable {ctx : Ctx} {uuid : BitVec 64} {index : Slot}

theorem getNodeByUuid_eq_some :
    tinymacGetNodeByUuid ctx uuid = some index ↔
      (ctx.nodes index).uuid = uuid ∧ ∀ earlier < index, (ctx.nodes earlier).uuid ≠ uuid := by
  simp [tinymacGetNodeByUuid, slots, find?_finRange_eq_some]

theorem getNodeByUuid_eq_none :
    tinymacGetNodeByUuid ctx uuid = none ↔ ∀ other, (ctx.nodes other).uuid ≠ uuid := by
  simp [tinymacGetNodeByUuid, slots]

theorem getFreeNode_eq_some :
    tinymacGetFreeNode ctx = some index ↔
      ((ctx.nodes index).uuid = 0#64 ∧ ∀ earlier < index, (ctx.nodes earlier).uuid ≠ 0#64) ∨
      ((∀ other, (ctx.nodes other).uuid ≠ 0#64) ∧ (ctx.nodes index).state = .unregistered ∧
        ∀ earlier < index, (ctx.nodes earlier).state ≠ .unregistered) := by
  rw [tinymacGetFreeNode_eq, Option.or_eq_some_iff]
  simp [slots, find?_finRange_eq_some]

theorem getFreeNode_eq_none :
    tinymacGetFreeNode ctx = none ↔
      ∀ other, (ctx.nodes other).uuid ≠ 0#64 ∧ (ctx.nodes other).state ≠ .unregistered := by
  rw [tinymacGetFreeNode_eq, Option.or_eq_none_iff]
  simp [slots, forall_and]

/-- **What the searches of a registration find**: the first slot that holds the UUID; without one
the first slot that holds UUID zero; without that the first Unregistered slot. -/
theorem registrationSlot_cases (given : ctx.registrationSlot uuid = some index) :
    ((ctx.nodes index).uuid = uuid ∧ ∀ earlier < index, (ctx.nodes earlier).uuid ≠ uuid) ∨
    (∀ other, (ctx.nodes other).uuid ≠ uuid) ∧
      ((ctx.nodes index).uuid = 0#64 ∧ (∀ earlier < index, (ctx.nodes earlier).uuid ≠ 0#64) ∨
        (∀ other, (ctx.nodes other).uuid ≠ 0#64) ∧ (ctx.nodes index).state = .unregistered) := by
  rw [Ctx.registrationSlot, Option.or_eq_some_iff, getNodeByUuid_eq_some, getNodeByUuid_eq_none,
    getFreeNode_eq_some] at given
  rcases given with known | ⟨unknown, blank | ⟨full, free, -⟩⟩
  · exact .inl known
  · exact .inr ⟨unknown, .inl blank⟩
  · exact .inr ⟨unknown, .inr ⟨full, free⟩⟩

theorem registrationSlot_eq_none :
    ctx.registrationSlot uuid = none ↔
      (∀ other, (ctx.nodes other).uuid ≠ uuid) ∧
        ∀ other, (ctx.nodes other).uuid ≠ 0#64 ∧ (ctx.nodes other).state ≠ .unregistered := by
  rw [Ctx.registrationSlot, Option.or_eq_none_iff, getNodeByUuid_eq_none, getFreeNode_eq_none]

end Given

/-! ### The invariant -/

theorem slotAddr_injective {m n : Slot}
    (same : BitVec.ofNat 8 (m.val + 1) = BitVec.ofNat 8 (n.val + 1)) : m = n := by
  have values := congrArg BitVec.toNat same
  have boundM : m.val < 32 := m.isLt
  have boundN : n.val < 32 := n.isLt
  simp only [BitVec.toNat_ofNat] at values
  exact Fin.ext (by omega)

theorem slotAddr_ne (n : Slot) :
    BitVec.ofNat 8 (n.val + 1) ≠ 0#8 ∧ BitVec.ofNat 8 (n.val + 1) ≠ addrUnassigned := by
  revert n
  decide

/-- The registry invariant. -/
structure Registry (nodes : Slot → Node) : Prop where
  addr : ∀ index, (nodes index).addr = BitVec.ofNat 8 (index.val + 1)
  unique : ∀ one two, (nodes one).uuid = (nodes two).uuid → (nodes one).uuid ≠ 0#64 → one = two
  firstZero : ∀ one two, (nodes one).uuid = 0#64 → (nodes one).active = true →
    (nodes two).uuid = 0#64 → one ≤ two

/-- No two live slots have the same UUID, zero included. -/
theorem Registry.live_unique {nodes : Slot → Node} (registry : Registry nodes) {one two : Slot}
    (liveOne : (nodes one).live = true) (liveTwo : (nodes two).live = true)
    (same : (nodes one).uuid = (nodes two).uuid) : one = two := by
  by_cases zero : (nodes one).uuid = 0#64
  · have zeroTwo : (nodes two).uuid = 0#64 := same ▸ zero
    exact le_antisymm
      (registry.firstZero one two zero (Node.active_of_live liveOne) zeroTwo)
      (registry.firstZero two one zeroTwo (Node.active_of_live liveTwo) zero)
  · exact registry.unique one two same zero

theorem Registry.start (boot : Boot) : Registry boot.start.ctx.nodes where
  addr index := by rw [start_nodes]
  unique one two _ nonzero := absurd (by rw [start_nodes]; rfl) nonzero
  firstZero one two _ active _ := by
    rw [start_nodes] at active
    cases active

/-- Slots that are kept keep the invariant. -/
theorem Registry.keep {nodes nodes' : Slot → Node} (registry : Registry nodes)
    (kept : ∀ index, (nodes index).Keeps (nodes' index)) : Registry nodes' where
  addr index := (kept index).addr.trans (registry.addr index)
  unique one two same nonzero := by
    rw [(kept one).uuid] at same nonzero
    rw [(kept two).uuid] at same
    exact registry.unique one two same nonzero
  firstZero one two zero active zeroTwo :=
    registry.firstZero one two ((kept one).uuid ▸ zero) ((kept one).active active)
      ((kept two).uuid ▸ zeroTwo)

/-- A registration keeps the invariant: the slot it is given holds the UUID already, or no slot
does. -/
theorem Registry.register {ctx : Ctx} (registry : Registry ctx.nodes) {nodes' : Slot → Node}
    {index : Slot} {attach : RegistrationRequest} {now : BitVec 32}
    (given : ctx.registrationSlot attach.uuid = some index)
    (registered : nodes' index = (ctx.nodes index).register attach now)
    (others : ∀ other, other ≠ index → nodes' other = ctx.nodes other) : Registry nodes' := by
  have uuidHere : (nodes' index).uuid = attach.uuid := by rw [registered]; rfl
  -- a slot other than the one given holds the UUID only if it is zero
  have elsewhere : ∀ other, other ≠ index → (ctx.nodes other).uuid = attach.uuid →
      attach.uuid = 0#64 ∧ index ≤ other := by
    intro other different holds
    rcases registrationSlot_cases given with ⟨known, first⟩ | ⟨unknown, -⟩
    · refine ⟨?_, not_lt.mp fun earlier => first other earlier holds⟩
      by_contra nonzero
      exact different (registry.unique other index (holds.trans known.symm) (holds ▸ nonzero))
    · exact absurd holds (unknown other)
  refine ⟨fun other => ?_, fun one two same nonzero => ?_, fun one two zero active zeroTwo => ?_⟩
  · by_cases here : other = index
    · rw [here, registered]
      exact registry.addr index
    · rw [others other here]
      exact registry.addr other
  · by_cases hereOne : one = index
    · by_cases hereTwo : two = index
      · rw [hereOne, hereTwo]
      · rw [hereOne, uuidHere] at same nonzero
        rw [others two hereTwo] at same
        exact absurd (elsewhere two hereTwo same.symm).1 nonzero
    · rw [others one hereOne] at same nonzero
      by_cases hereTwo : two = index
      · rw [hereTwo, uuidHere] at same
        exact absurd (same.trans (elsewhere one hereOne same).1) nonzero
      · rw [others two hereTwo] at same
        exact registry.unique one two same nonzero
  · by_cases hereOne : one = index
    · by_cases hereTwo : two = index
      · rw [hereOne, hereTwo]
      · rw [hereOne, uuidHere] at zero
        rw [others two hereTwo] at zeroTwo
        exact hereOne ▸ (elsewhere two hereTwo (zeroTwo.trans zero.symm)).2
    · rw [others one hereOne] at zero active
      by_cases hereTwo : two = index
      · rw [hereTwo, uuidHere] at zeroTwo
        rcases registrationSlot_cases given with ⟨known, -⟩ | ⟨unknown, -⟩
        · exact hereTwo ▸ registry.firstZero one index zero active (known.trans zeroTwo)
        · exact absurd (zero.trans zeroTwo.symm) (unknown one)
      · rw [others two hereTwo] at zeroTwo
        exact registry.firstZero one two zero active zeroTwo

/-- **Every operation keeps the registry invariant.** -/
theorem Registry.op {ok : Condition} {σ τ : Mac} (coordinator : Coordinator σ.ctx)
    (registry : Registry σ.ctx.nodes) (op : Op ok σ τ) : Registry τ.ctx.nodes := by
  rcases op.table coordinator with kept | ⟨index, attach, given, -, registered, others⟩
  · exact registry.keep kept
  · exact registry.register given registered others

/-! ### The addresses that responses name -/

/-- A registration response that gives `uuid` the address `addr`. One that names no address is a
detachment, whatever its status (`tinymac_rx_registration_response`). -/
def Frame.Grants (frame : Frame) (uuid : BitVec 64) (addr : BitVec 8) : Prop :=
  frame.hdr.type = PacketType.registrationResponse.code ∧
    readRegistrationResponse frame.memory = ⟨uuid, addr, RegistrationStatus.success.code⟩ ∧
    addr ≠ addrUnassigned

/-- The event puts such a response on the air. -/
def Event.Grants (event : Event) (uuid : BitVec 64) (addr : BitVec 8) : Prop :=
  ∃ packet frame flags, event = .phySend packet frame flags ∧ frame.Grants uuid addr

theorem Frame.grants_response {hdr : Header} {resp : RegistrationResponse} {uuid : BitVec 64}
    {addr : BitVec 8} (grants : Frame.Grants ⟨hdr, resp.bytes⟩ uuid addr) :
    resp = ⟨uuid, addr, RegistrationStatus.success.code⟩ ∧ addr ≠ addrUnassigned := by
  obtain ⟨-, read, named⟩ := grants
  rw [readRegistrationResponse_frame] at read
  exact ⟨read, named⟩

@[simp] theorem registrationResponse_uuid (ctx : Ctx) (attach : RegistrationRequest) :
    (ctx.registrationResponse attach).uuid = attach.uuid := by
  unfold Ctx.registrationResponse
  split <;> rfl

/-- A packet that grants an address answers a registration request, with the slot it was given. -/
theorem Packet.grants {ctx : Ctx} {dest : Option NodePtr} {type : BitVec 8} {payload : List Byte}
    (packet : Packet ctx dest type payload) {uuid : BitVec 64} {addr : BitVec 8}
    (grants : Frame.Grants ⟨ctx.buildHeader dest type, payload⟩ uuid addr) :
    dest = none ∧ ∃ index, ctx.registrationSlot uuid = some index ∧
      (ctx.nodes index).addr = addr := by
  cases packet with
  | data index type payload live data =>
      obtain ⟨control, -⟩ := grants
      rw [buildHeader_type] at control
      exact absurd (control ▸ data) (rawData_not_control _)
  | response attach =>
      obtain ⟨same, named⟩ := Frame.grants_response grants
      unfold Ctx.registrationResponse at same
      split at same
      · next index given =>
        cases same
        exact ⟨rfl, index, given, rfl⟩
      · cases same
  | expulsion other =>
      obtain ⟨same, named⟩ := Frame.grants_response grants
      cases same
  | detachment index live =>
      obtain ⟨same, named⟩ := Frame.grants_response grants
      cases same
      exact absurd rfl named

/-- No packet that waits in a slot grants an address. -/
def Ungranted (nodes : Slot → Node) : Prop :=
  ∀ index uuid addr, ¬ (nodes index).packet.Grants uuid addr

theorem Ungranted.start (boot : Boot) : Ungranted boot.start.ctx.nodes := by
  intro index uuid addr grants
  have type : Node.zero.pendingHeader.type = PacketType.registrationResponse.code := by
    have type := grants.1
    rw [start_nodes] at type
    exact type
  exact absurd type (by decide)

theorem Ungranted.op {ok : Condition} {σ τ : Mac} (coordinator : Coordinator σ.ctx)
    (ungranted : Ungranted σ.ctx.nodes) (op : Op ok σ τ) : Ungranted τ.ctx.nodes := by
  intro index uuid addr grants
  rcases op.at_slot coordinator index with same | change
  · rw [same] at grants
    exact ungranted index uuid addr grants
  · rcases change.packet with ⟨held, -⟩ | ⟨type, payload, packet, held, -⟩
    · rw [held] at grants
      exact ungranted index uuid addr grants
    · rw [held] at grants
      cases (packet.grants grants).1

/-- **A response that grants an address names the slot its UUID is given**, and registered in. -/
theorem Op.grants {ok : Condition} {σ τ : Mac} (op : Op ok σ τ) (coordinator : Coordinator σ.ctx)
    (ungranted : Ungranted σ.ctx.nodes) :
    Emits (fun event => ∀ uuid addr, event.Grants uuid addr →
      ∃ index, σ.ctx.registrationSlot uuid = some index ∧ (σ.ctx.nodes index).addr = addr ∧
        (τ.ctx.nodes index).uuid = uuid) σ τ := by
  refine (op.emits coordinator).mono fun event logged uuid addr grants => ?_
  obtain ⟨packet, frame, flags, rfl, grants⟩ := grants
  cases logged with
  | silent _ is => exact is.elim
  | beacon periodic => exact absurd grants.1 (by simp [PacketType.code])
  | ackFrame index seq live => exact absurd grants.1 (by simp [PacketType.code])
  | built dest type payload packet counted enrolled =>
      obtain ⟨broadcast, index, given, addr⟩ := packet.grants grants
      obtain ⟨attach, rfl, registered⟩ := enrolled broadcast
      have same : attach.uuid = uuid := by
        rw [← registrationResponse_uuid σ.ctx attach, (Frame.grants_response grants).1]
      refine ⟨index, given, addr, ?_⟩
      rw [registered index (same ▸ given)]
      exact same
  | released index pending => exact absurd grants (ungranted index uuid addr)
  | retried index armed => exact absurd grants (ungranted index uuid addr)

/-! ### Reachable registries -/

/-- **The registry invariant holds in every state a coordinator reaches.** -/
theorem reachable_registry (boot : Boot) (role : boot.params.coordinator = true)
    (inputs : List Input) :
    Coordinator (boot.start.run inputs).ctx ∧ Registry (boot.start.run inputs).ctx.nodes ∧
      Ungranted (boot.start.run inputs).ctx.nodes :=
  run_induction_any (P := fun σ => Registry σ.ctx.nodes ∧ Ungranted σ.ctx.nodes)
    (fun coordinator holds op => ⟨holds.1.op coordinator op, holds.2.op coordinator op⟩)
    (start_coordinator boot role) ⟨.start boot, .start boot⟩ inputs

/-- A coordinator with its registry. -/
structure Hub (σ : Mac) : Prop where
  coordinator : Coordinator σ.ctx
  registry : Registry σ.ctx.nodes
  ungranted : Ungranted σ.ctx.nodes

theorem Hub.op {ok : Condition} {σ τ : Mac} (hub : Hub σ) (op : Op ok σ τ) : Hub τ :=
  ⟨hub.coordinator.of_identity op.identity, hub.registry.op hub.coordinator op,
    hub.ungranted.op hub.coordinator op⟩

theorem Hub.step {σ : Mac} (hub : Hub σ) (input : Input) : Hub (σ.step input) :=
  ((step_ops σ hub.coordinator input (admits_any σ.ctx input)).preserve hub.coordinator
    (fun _ hub op => Hub.op hub op) hub).2

theorem start_hub (boot : Boot) (role : boot.params.coordinator = true) : Hub boot.start :=
  ⟨start_coordinator boot role, .start boot, .start boot⟩

theorem reachable_hub (boot : Boot) (role : boot.params.coordinator = true)
    (inputs : List Input) : Hub (boot.start.run inputs) := by
  obtain ⟨coordinator, registry, ungranted⟩ := reachable_registry boot role inputs
  exact ⟨coordinator, registry, ungranted⟩

/-- A live slot with a non-zero UUID is given to that UUID only. -/
theorem registrationSlot_live {ctx : Ctx} {uuid : BitVec 64} {index : Slot}
    (given : ctx.registrationSlot uuid = some index) (live : (ctx.nodes index).live = true)
    (nonzero : (ctx.nodes index).uuid ≠ 0#64) : uuid = (ctx.nodes index).uuid := by
  rcases registrationSlot_cases given with ⟨known, -⟩ | ⟨-, ⟨zero, -⟩ | ⟨-, free⟩⟩
  · exact known.symm
  · exact absurd zero nonzero
  · exact absurd free ((Node.live_iff _).mp live)

/-- The slot is registered for this UUID only. -/
def Condition.only (index : Slot) (uuid : BitVec 64) : Condition :=
  ⟨fun slot attach _ => slot = index → attach.uuid = uuid, fun _ _ => True, True⟩

/-- Since `σ` the slot has held the UUID, and only its address was granted to it. -/
structure Tenant (σ : Mac) (index : Slot) (uuid : BitVec 64) (τ : Mac) : Prop where
  registry : Registry τ.ctx.nodes
  ungranted : Ungranted τ.ctx.nodes
  held : (τ.ctx.nodes index).uuid = uuid
  granted : Emits (fun event => ∀ addr, event.Grants uuid addr →
    addr = BitVec.ofNat 8 (index.val + 1)) σ τ

theorem Tenant.op {σ τ υ : Mac} {index : Slot} {uuid : BitVec 64} (nonzero : uuid ≠ 0#64)
    (coordinator : Coordinator τ.ctx) (tenant : Tenant σ index uuid τ)
    (op : Op (.only index uuid) τ υ) : Tenant σ index uuid υ where
  registry := tenant.registry.op coordinator op
  ungranted := tenant.ungranted.op coordinator op
  held := by
    rcases op.table coordinator with kept | ⟨slot, attach, -, fresh, registered, others⟩
    · exact (kept index).uuid.trans tenant.held
    · by_cases here : index = slot
      · subst here
        rw [registered]
        exact fresh rfl
      · rw [others index here, tenant.held]
  granted := by
    refine tenant.granted.trans ((op.grants coordinator tenant.ungranted).mono ?_)
    intro event named addr grants
    obtain ⟨slot, found, rfl, -⟩ := named uuid addr grants
    rcases registrationSlot_cases found with ⟨known, -⟩ | ⟨unknown, -⟩
    · rw [tenant.registry.unique slot index (known.trans tenant.held.symm) (known ▸ nonzero)]
      exact tenant.registry.addr index
    · exact absurd tenant.held (unknown index)

theorem Tenant.admits {σ τ : Mac} {index : Slot} {uuid : BitVec 64} (nonzero : uuid ≠ 0#64)
    (coordinator : Coordinator τ.ctx) (tenant : Tenant σ index uuid τ)
    (live : (τ.ctx.nodes index).live = true) (input : Input) :
    τ.ctx.admits (.only index uuid) input := by
  cases input with
  | recv buf size rssi =>
      refine ⟨fun _ slot found here => ?_, fun _ _ _ _ => trivial⟩
      subst here
      have held : ((τ.ctx.hear (readHeader buf) rssi).nodes slot).uuid = uuid :=
        (hear_keeps coordinator.role (readHeader buf) rssi slot).uuid.trans tenant.held
      rw [← held]
      refine registrationSlot_live found ?_ (held ▸ nonzero)
      rw [hear_live coordinator.role, live]
  | _ => trivial

/-- **A slot keeps a non-zero UUID while it is live**, and every address granted to that UUID
meanwhile is the address of the slot. -/
theorem live_slot_tenant {σ : Mac} (coordinator : Coordinator σ.ctx)
    (registry : Registry σ.ctx.nodes) (ungranted : Ungranted σ.ctx.nodes) (index : Slot)
    (nonzero : (σ.ctx.nodes index).uuid ≠ 0#64) (later : List Input)
    (live : σ.Along (fun ctx _ => (ctx.nodes index).live = true) later) :
    Tenant σ index (σ.ctx.nodes index).uuid (σ.run later) :=
  (run_induction (fun coordinator tenant op => tenant.op nonzero coordinator op)
    (fun coordinator tenant live => tenant.admits nonzero coordinator live _)
    coordinator ⟨registry, ungranted, rfl, .refl σ⟩ later live).2

/-- **The registry of a coordinator**, for every run from one `tinymac_init`: slot `n` has address
`n + 1`; no two live slots share a UUID; a non-zero UUID is in one slot only; and as long as a slot
with a non-zero UUID stays live it keeps that UUID, and every successful registration response to
the UUID that names an address names the slot's. A successful response that names no address is a
detachment. -/
theorem coordinator_registry (boot : Boot) (role : boot.params.coordinator = true)
    (inputs : List Input) :
    let σ := boot.start.run inputs
    (∀ n, (σ.ctx.nodes n).addr = BitVec.ofNat 8 (n.val + 1)) ∧
    (∀ m n, (σ.ctx.nodes m).addr = (σ.ctx.nodes n).addr → m = n) ∧
    (∀ n, (σ.ctx.nodes n).addr ≠ 0#8 ∧ (σ.ctx.nodes n).addr ≠ addrUnassigned) ∧
    (∀ m n, (σ.ctx.nodes m).live = true → (σ.ctx.nodes n).live = true →
      (σ.ctx.nodes m).uuid = (σ.ctx.nodes n).uuid → m = n) ∧
    (∀ m n, (σ.ctx.nodes m).uuid ≠ 0#64 → (σ.ctx.nodes m).uuid = (σ.ctx.nodes n).uuid → m = n) ∧
    ∀ n later, (σ.ctx.nodes n).uuid ≠ 0#64 →
      σ.Along (fun ctx _ => (ctx.nodes n).live = true) later →
      ((σ.run later).ctx.nodes n).uuid = (σ.ctx.nodes n).uuid ∧
        Emits (fun event => ∀ addr, event.Grants (σ.ctx.nodes n).uuid addr →
          addr = (σ.ctx.nodes n).addr) σ (σ.run later) := by
  obtain ⟨coordinator, registry, ungranted⟩ := reachable_registry boot role inputs
  refine ⟨registry.addr, fun m n same => ?_, fun n => ?_,
    fun m n liveM liveN => registry.live_unique liveM liveN,
    fun m n nonzero same => registry.unique m n same nonzero, fun n later nonzero live => ?_⟩
  · rw [registry.addr, registry.addr] at same
    exact slotAddr_injective same
  · rw [registry.addr]
    exact slotAddr_ne n
  · have tenant := live_slot_tenant coordinator registry ungranted n nonzero later live
    rw [registry.addr]
    exact ⟨tenant.held, tenant.granted⟩

/-- Two nodes registered at addresses 1 and 2; the first keeps its UUID while it is live. -/
theorem coordinator_registry_two_nodes :
    let σ := (Boot.coordinatorOn 0x2A#8).start.run
      [.permitAttach true, .frame (registrationRequestFrame 0x2A#8 1#8 ⟨5#64, 0#16⟩) 0,
        .frame (registrationRequestFrame 0x2A#8 1#8 ⟨9#64, 0x10#16⟩) 0]
    (σ.ctx.nodes 0).addr = 1#8 ∧ (σ.ctx.nodes 1).addr = 2#8 ∧
      (σ.ctx.nodes 0).live = true ∧
      ∀ later, σ.Along (fun ctx _ => (ctx.nodes 0).live = true) later →
        ((σ.run later).ctx.nodes 0).uuid = 5#64 := by
  obtain ⟨addr, -, -, -, -, tenant⟩ := coordinator_registry (Boot.coordinatorOn 0x2A#8) rfl
    [.permitAttach true, .frame (registrationRequestFrame 0x2A#8 1#8 ⟨5#64, 0#16⟩) 0,
      .frame (registrationRequestFrame 0x2A#8 1#8 ⟨9#64, 0x10#16⟩) 0]
  refine ⟨addr 0, addr 1, by decide +kernel, fun later live => ?_⟩
  exact (tenant 0 later (by decide +kernel) live).1.trans (by decide +kernel)

/-- A detachment names no address. A node of UUID 5 is told so when it deregisters, by a response
with status Success. Where the slot has a timer armed from before (a packet to a sleepy node that
registered again), the response is sent once more at the next tick, and the node has registered
again by then: its slot is live at both ends of that tick. -/
theorem detachment_names_unassigned :
    let attach (flags : BitVec 16) : Input :=
      .frame (registrationRequestFrame 0x2A#8 1#8 ⟨5#64, flags⟩) 0
    let detach : Input := .frame ⟨⟨headerFlags PacketType.deregistrationRequest.code, 0x2A#8, 0#8,
      1#8, 3#8⟩, DeregistrationRequest.bytes ⟨5#64, 0#8⟩⟩ 0
    let told (before after : Mac) : List RegistrationResponse :=
      (after.airedSince before .registrationResponse).map (readRegistrationResponse ·.memory)
    let start := (Boot.coordinatorOn 0x2A#8).start
    let joined := start.run [.permitAttach true, attach 0x04#16]
    let again := start.run [.permitAttach true, attach 0x14#16,
      .send 1#8 0x50#8 [7#8] 60#16 none, .frame (pollFrame 0x2A#8 1#8 2#8) 0, attach 0x14#16, .tick,
      detach, attach 0x04#16]
    let ticked := again.step .tick
    (joined.ctx.nodes 0).uuid = 5#64 ∧ (joined.ctx.nodes 0).live = true ∧
      told joined (joined.step detach) = [⟨5#64, addrUnassigned, RegistrationStatus.success.code⟩] ∧
      (again.ctx.nodes 0).uuid = 5#64 ∧ (again.ctx.nodes 0).live = true ∧
      (ticked.ctx.nodes 0).uuid = 5#64 ∧ (ticked.ctx.nodes 0).live = true ∧
      told again ticked = [⟨5#64, addrUnassigned, RegistrationStatus.success.code⟩] ∧
      (ticked.ctx.nodes 0).addr ≠ addrUnassigned := by
  decide +kernel

end TinyHan.Tinymac
