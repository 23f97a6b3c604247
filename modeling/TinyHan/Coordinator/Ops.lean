/-
**What a coordinator's step is made of.**

`Op` lists the operations a coordinator performs, each with what the code checked before it: a frame
is acknowledged, a pending packet released, an acknowledgement taken, a packet sent, a slot
registered or freed, a timer despatched. `step_ops` decomposes every step of a coordinator, for
every input, into a sequence of them, so an invariant of reachable coordinators is proved once for
each operation (`run_induction`).

A registration is the one operation that reuses a record, and an acknowledgement the one that
completes a packet on the word of another party. Several results hold only as long as these two meet
a condition, so `Op` takes one: `ok.register` for the slot a registration is given and the record it
finds there, `ok.ack` for the slot an acknowledgement comes from and its header. What belongs to a
tick happens only where `ok.timers` holds: the timers and heartbeats, the clocks and the periodic
beacon. So what a received frame or a send can do is told from what a tick can do. `Condition.any`
is the trivial condition.
-/

import TinyHan.Mac.Log
import Mathlib.Logic.Relation

namespace TinyHan.Tinymac

open TinyHan.Lib Relation

/-- The registration response of `tinymac_rx_registration_request`. -/
def Ctx.registrationResponse (ctx : Ctx) (attach : RegistrationRequest) : RegistrationResponse :=
  match ctx.registrationSlot attach.uuid with
  | some index => ⟨attach.uuid, (ctx.nodes index).addr, RegistrationStatus.success.code⟩
  | none => ⟨attach.uuid, addrUnassigned, RegistrationStatus.networkFull.code⟩

/-- The response of `tinymac_rx_deregistration_request`. -/
def detachResponse (uuid : BitVec 64) : RegistrationResponse :=
  ⟨uuid, addrUnassigned, RegistrationStatus.success.code⟩

/-- The registration of a slot, without the answer. -/
def Mac.registerSlot (σ : Mac) (attach : RegistrationRequest) : Mac :=
  match σ.ctx.registrationSlot attach.uuid with
  | some index => σ.modify (.slot index) fun node => node.register attach σ.ctx.tickCount
  | none => σ

/-- The answer to a registration request, as it is broadcast. -/
def Mac.respond (σ : Mac) (resp : RegistrationResponse) : Mac :=
  (tinymacTxPacket σ none PacketType.registrationResponse.code resp.bytes 0#16 none).2

/-- A condition on the registrations and the acknowledgements of a run, and whether it has ticks. -/
structure Condition where
  register : Slot → RegistrationRequest → Node → Prop
  ack : Slot → Header → Prop
  timers : Prop

/-- No condition. -/
def Condition.any : Condition := ⟨fun _ _ _ => True, fun _ _ => True, True⟩

/-- The operations of a coordinator. -/
inductive Op (ok : Condition) : Mac → Mac → Prop where
  | event (σ : Mac) (event : Event) (silent : event.silent) : Op ok σ (σ.emit event)
  | clock (σ : Mac) (timers : ok.timers) : Op ok σ (σ.update Ctx.nextTick)
  | setting (σ : Mac) (permitAttach rxCb regCb deregCb : Bool) (slot : BitVec 16)
      (counted : slot = σ.ctx.slot ∨ ok.timers) :
      Op ok σ (σ.update fun ctx => { ctx with
        permitAttach := permitAttach, rxCb := rxCb, regCb := regCb, deregCb := deregCb,
        slot := slot })
  | beacon (σ : Mac) (periodic : Bool) (timers : periodic = true → ok.timers) :
      Op ok σ (tinymacTxBeacon σ periodic)
  | hear (σ : Mac) (index : Slot) (rssi : Int) (live : (σ.ctx.nodes index).live = true) :
      Op ok σ (σ.modify (.slot index) fun node => node.heard σ.ctx.tickCount rssi)
  | ackFrame (σ : Mac) (index : Slot) (seq : BitVec 8)
      (live : (σ.ctx.nodes index).live = true) :
      Op ok σ (tinymacPhySend σ none ⟨σ.ctx.ackHeader (σ.ctx.nodes index) seq, []⟩ 0#8).2
  | release (σ : Mac) (index : Slot) : Op ok σ (tinymacTxPending σ (.slot index))
  | acked (σ : Mac) (index : Slot) (hdr : Header) (heard : ok.ack index hdr) :
      Op ok σ (tinymacRxAck σ (some (.slot index)) hdr)
  | send (σ : Mac) (index : Slot) (type : BitVec 8) (buf : List Byte) (validity : BitVec 16)
      (cb : Option SendCb) (live : (σ.ctx.nodes index).live = true)
      (data : typeRawData ≤ type &&& flagsTypeMask.setWidth 8) :
      Op ok σ (tinymacTxPacket σ (some (.slot index)) type buf validity cb).2
  | register (σ : Mac) (attach : RegistrationRequest)
      (fresh : ∀ index, σ.ctx.registrationSlot attach.uuid = some index →
        ok.register index attach (σ.ctx.nodes index)) :
      Op ok σ ((σ.registerSlot attach).respond (σ.ctx.registrationResponse attach))
  | expel (σ : Mac) (hdr : Header) : Op ok σ (tinymacRecvUnknown σ hdr)
  | detach (σ : Mac) (index : Slot) (live : (σ.ctx.nodes index).live = true) :
      Op ok σ (tinymacDeregisterNode (tinymacTxPacket σ (some (.slot index))
        PacketType.registrationResponse.code (detachResponse (σ.ctx.nodes index).uuid).bytes
        0#16 none).2 (.slot index))
  | heartbeat (σ : Mac) (index : Slot)
      (expired : (σ.ctx.nodes index).state = .registered ∧
        (σ.ctx.nodes index).heartbeatExpired σ.ctx.tickCount = true) (timers : ok.timers) :
      Op ok σ (tinymacDeregisterNode σ (.slot index))
  | ackDue (σ : Mac) (index : Slot) (timers : ok.timers) :
      Op ok σ (tinymacDespatchTimer σ (.ack (.slot index)))
  | validityDue (σ : Mac) (index : Slot) (timers : ok.timers) :
      Op ok σ (tinymacDespatchTimer σ (.validity (.slot index)))

/-- A sequence of operations. -/
abbrev Ops (ok : Condition) : Mac → Mac → Prop := ReflTransGen (Op ok)

/-! ### The identity of a coordinator -/

/-- What a context never changes after `tinymac_init`, in the coordinator role. -/
def Ctx.identity (ctx : Ctx) : Params × Nat × BitVec 8 × BitVec 8 :=
  (ctx.params, ctx.phyMtu, ctx.netId, ctx.addr)

/-- A context in the coordinator role: address 0, above one of the PHY drivers. -/
structure Coordinator (ctx : Ctx) : Prop where
  role : ctx.params.coordinator = true
  addr : ctx.addr = 0#8
  mtu : 62 ≤ ctx.phyMtu

theorem Coordinator.addr_ne {ctx : Ctx} (coordinator : Coordinator ctx) :
    ctx.addr ≠ addrUnassigned := by
  rw [coordinator.addr]
  decide

/-- Control packets fit the smallest MTU. -/
theorem Coordinator.fits {ctx : Ctx} (coordinator : Coordinator ctx) {payload : List Byte}
    (short : payload.length ≤ 56) : ctx.fits payload := by
  have mtu := coordinator.mtu
  constructor
  · exact short.trans (by decide)
  · rw [headerSize]
    omega

theorem Coordinator.of_identity {ctx other : Ctx} (coordinator : Coordinator ctx)
    (same : other.identity = ctx.identity) : Coordinator other := by
  simp only [Ctx.identity, Prod.mk.injEq] at same
  obtain ⟨params, mtu, -, addr⟩ := same
  exact ⟨params ▸ coordinator.role, addr.trans coordinator.addr, mtu ▸ coordinator.mtu⟩

@[simp] theorem modify_identity (ctx : Ctx) (ptr : NodePtr) (change : Node → Node) :
    (ctx.modify ptr change).identity = ctx.identity := by
  simp [Ctx.identity]

@[simp] theorem nextSeq_identity (ctx : Ctx) : ctx.nextSeq.identity = ctx.identity := rfl

section Apart

/-- A view of the context that neither a write to a record nor a sequence number changes. -/
structure Apart {β : Type} (view : Ctx → β) : Prop where
  modify : ∀ ctx ptr change, view (Ctx.modify ctx ptr change) = view ctx
  nextSeq : ∀ ctx, view (Ctx.nextSeq ctx) = view ctx
  nextBeacon : ∀ ctx, view (Ctx.nextBeacon ctx) = view ctx

variable {β : Type} {view : Ctx → β} (apart : Apart view)

include apart

theorem txPacket_apart (σ : Mac) (dest : Option NodePtr) (flagsType : BitVec 8)
    (buf : List Byte) (validity : BitVec 16) (cb : Option SendCb) :
    view (tinymacTxPacket σ dest flagsType buf validity cb).2.ctx = view σ.ctx := by
  by_cases fits : σ.ctx.fits buf
  · cases dest with
    | none => rw [txPacket_broadcast_ctx σ flagsType buf validity cb fits, apart.nextSeq]
    | some ptr =>
        rw [txPacket_unicast_ctx σ ptr flagsType buf validity cb fits, apart.modify,
          apart.nextSeq]
  · rw [txPacket_oversize σ flagsType buf validity cb dest fits]

theorem registerSlot_apart (σ : Mac) (attach : RegistrationRequest) :
    view (σ.registerSlot attach).ctx = view σ.ctx := by
  unfold Mac.registerSlot
  split
  · rw [mac_modify_ctx, apart.modify]
  · rfl

/-- **What an operation leaves alone**: any such view that the clocks and the settings do not
change. -/
theorem Op.leaves {ok : Condition} {σ τ : Mac} (op : Op ok σ τ)
    (clock : ok.timers → view σ.ctx.nextTick = view σ.ctx)
    (setting : ∀ permitAttach rxCb regCb deregCb slot, slot = σ.ctx.slot ∨ ok.timers →
      view { σ.ctx with permitAttach, rxCb, regCb, deregCb, slot } = view σ.ctx) :
    view τ.ctx = view σ.ctx := by
  cases op with
  | event => rfl
  | clock timers => exact clock timers
  | setting permitAttach rxCb regCb deregCb slot counted =>
      exact setting permitAttach rxCb regCb deregCb slot counted
  | beacon periodic =>
      unfold tinymacTxBeacon
      split
      · rfl
      · rw [phySend_ctx, update_ctx, apart.nextBeacon]
  | hear index rssi live => rw [mac_modify_ctx, apart.modify]
  | ackFrame index seq live => rw [phySend_ctx]
  | release index => rw [txPending_ctx, apart.modify]
  | acked index hdr heard =>
      simp only [tinymacRxAck]
      split
      · rw [invokeSendCb_ctx, mac_modify_ctx, apart.modify]
      · rfl
  | send index type buf validity cb live data => exact txPacket_apart apart ..
  | register attach fresh => exact (txPacket_apart apart ..).trans (registerSlot_apart apart ..)
  | expel hdr =>
      unfold tinymacRecvUnknown
      split
      · exact txPacket_apart apart ..
      · rfl
  | detach index live =>
      rw [deregister_slot_ctx, apart.modify]
      exact txPacket_apart apart ..
  | heartbeat index expired => rw [deregister_slot_ctx, apart.modify]
  | ackDue index timers => rw [despatchAck_slot_ctx, apart.modify]
  | validityDue index timers => rw [despatchValidity_slot_ctx, apart.modify]

end Apart

theorem identity_apart : Apart Ctx.identity := ⟨modify_identity, nextSeq_identity, fun _ => rfl⟩

/-- **No operation changes the identity of a coordinator.** -/
theorem Op.identity {ok : Condition} {σ τ : Mac} (op : Op ok σ τ) :
    τ.ctx.identity = σ.ctx.identity :=
  op.leaves identity_apart (fun _ => rfl) fun _ _ _ _ _ _ => rfl

/-- The clocks of a coordinator: its ticks, and its slots. -/
def Ctx.clocks (ctx : Ctx) : BitVec 32 × BitVec 16 := (ctx.tickCount, ctx.slot)

theorem clocks_apart : Apart Ctx.clocks where
  modify ctx ptr change := by cases ptr <;> rfl
  nextSeq _ := rfl
  nextBeacon _ := rfl

/-- **The clocks stand still** where there is no tick. -/
theorem Op.clocks {ok : Condition} {σ τ : Mac} (op : Op ok σ τ) (timers : ¬ ok.timers) :
    τ.ctx.clocks = σ.ctx.clocks := by
  refine op.leaves clocks_apart (fun ticks => absurd ticks timers)
    fun permitAttach rxCb regCb deregCb slot counted => ?_
  rw [counted.resolve_right timers]
  rfl

/-- A packet takes a sequence number if it is counted. -/
theorem txPacket_dseq (σ : Mac) (dest : Option NodePtr) (flagsType : BitVec 8) (buf : List Byte)
    (validity : BitVec 16) (cb : Option SendCb) :
    (tinymacTxPacket σ dest flagsType buf validity cb).2.ctx.dseq =
      if σ.ctx.fits buf then σ.ctx.dseq + 1#8 else σ.ctx.dseq := by
  split
  case isFalse large => rw [txPacket_oversize _ _ _ _ _ _ large]
  case isTrue fits =>
    cases dest with
    | none =>
        rw [txPacket_broadcast_ctx _ _ _ _ _ fits]
        rfl
    | some ptr =>
        rw [txPacket_unicast_ctx _ _ _ _ _ _ fits, modify_dseq]
        rfl

/-- Sequence numbers are taken as packets are built. -/
def Counts (σ τ : Mac) : Prop :=
  (τ.built = σ.built ∧ τ.ctx.dseq = σ.ctx.dseq) ∨
    (τ.built = σ.built + 1 ∧ τ.ctx.dseq = σ.ctx.dseq + 1#8)

theorem txPacket_counts (σ : Mac) (dest : Option NodePtr) (flagsType : BitVec 8) (buf : List Byte)
    (validity : BitVec 16) (cb : Option SendCb) :
    Counts σ (tinymacTxPacket σ dest flagsType buf validity cb).2 := by
  unfold Counts
  rw [txPacket_built, txPacket_dseq]
  split
  · exact .inr ⟨rfl, rfl⟩
  · exact .inl ⟨rfl, rfl⟩

/-- **An operation builds at most one packet**, and takes one sequence number for it. -/
theorem Op.counts {ok : Condition} {σ τ : Mac} (op : Op ok σ τ) : Counts σ τ := by
  cases op with
  | event | clock | setting | hear => exact .inl ⟨rfl, rfl⟩
  | beacon periodic =>
      unfold tinymacTxBeacon
      split
      · exact .inl ⟨rfl, rfl⟩
      · exact .inl ⟨by simp, by simp⟩
  | ackFrame index seq live => exact .inl ⟨by simp, by simp⟩
  | release index => exact .inl ⟨by simp, by simp [txPending_ctx]⟩
  | acked index hdr heard =>
      simp only [tinymacRxAck]
      split
      · exact .inl ⟨by simp, by simp⟩
      · exact .inl ⟨rfl, rfl⟩
  | send index type buf validity cb live data => exact txPacket_counts ..
  | register attach fresh =>
      have counts := txPacket_counts (σ.registerSlot attach) none
        PacketType.registrationResponse.code (σ.ctx.registrationResponse attach).bytes 0#16 none
      have same : (σ.registerSlot attach).built = σ.built ∧
          (σ.registerSlot attach).ctx.dseq = σ.ctx.dseq := by
        unfold Mac.registerSlot
        split <;> exact ⟨rfl, rfl⟩
      rwa [Counts, same.1, same.2] at counts
  | expel hdr =>
      unfold tinymacRecvUnknown
      split
      · exact txPacket_counts ..
      · exact .inl ⟨rfl, rfl⟩
  | detach index live =>
      rw [Counts, deregister_built, deregister_slot_ctx, modify_dseq]
      exact txPacket_counts ..
  | heartbeat index expired => exact .inl ⟨by simp, by simp [deregister_slot_ctx]⟩
  | ackDue index timers => exact .inl ⟨by simp, by simp [despatchAck_slot_ctx]⟩
  | validityDue index timers => exact .inl ⟨by simp, by simp [despatchValidity_slot_ctx]⟩

/-- The count of packets built does not go back. -/
theorem Op.built_le {ok : Condition} {σ τ : Mac} (op : Op ok σ τ) : σ.built ≤ τ.built := by
  rcases op.counts with ⟨built, -⟩ | ⟨built, -⟩ <;> omega

/-- A coordinator's lookup by address finds a live slot with that address. -/
theorem getNodeByAddr_coordinator {ctx : Ctx} (role : ctx.params.coordinator = true)
    {addr : BitVec 8} {ptr : NodePtr} (found : tinymacGetNodeByAddr ctx addr = some ptr) :
    ∃ index, ptr = .slot index ∧ (ctx.nodes index).addr = addr ∧
      (ctx.nodes index).live = true := by
  rw [tinymacGetNodeByAddr, if_pos role, Option.map_eq_some_iff] at found
  obtain ⟨index, first, rfl⟩ := found
  have test := List.find?_some first
  rw [Bool.and_eq_true, beq_iff_eq] at test
  exact ⟨index, rfl, test.1, test.2⟩

/-! ### Hearing a frame -/

/-- The context in which a coordinator handles the type of a frame: its source, if it has an
address, has been heard and its pending packet released. -/
def Ctx.hear (ctx : Ctx) (hdr : Header) (rssi : Int) : Ctx :=
  if hdr.srcAddr = addrUnassigned then ctx
  else
    match tinymacGetNodeByAddr ctx hdr.srcAddr with
    | some ptr =>
        ctx.modify ptr fun node => (node.heard ctx.tickCount rssi).release ctx.tickCount
    | none => ctx

/-- The state in which a coordinator handles the type of a frame. -/
def Mac.hear (σ : Mac) (hdr : Header) (rssi : Int) : Mac :=
  let σ := tinymacRecvStandby σ hdr
  if hdr.srcAddr = addrUnassigned then σ
  else
    match tinymacGetNodeByAddr σ.ctx hdr.srcAddr with
    | some ptr => tinymacRecvKnown σ ptr hdr rssi
    | none => σ

@[simp] theorem hear_ctx (σ : Mac) (hdr : Header) (rssi : Int) :
    (σ.hear hdr rssi).ctx = σ.ctx.hear hdr rssi := by
  unfold Mac.hear Ctx.hear
  dsimp only
  split
  · exact recvStandby_ctx σ hdr
  · rw [recvStandby_ctx]
    split <;> simp [recvKnown_ctx]

theorem hear_apart {β : Type} {view : Ctx → β} (apart : Apart view) (ctx : Ctx) (hdr : Header)
    (rssi : Int) : view (ctx.hear hdr rssi) = view ctx := by
  unfold Ctx.hear
  split
  · rfl
  · split
    · exact apart.modify ..
    · rfl

theorem hear_identity (ctx : Ctx) (hdr : Header) (rssi : Int) :
    (ctx.hear hdr rssi).identity = ctx.identity := hear_apart identity_apart ..

theorem hear_tickCount (ctx : Ctx) (hdr : Header) (rssi : Int) :
    (ctx.hear hdr rssi).tickCount = ctx.tickCount :=
  congrArg Prod.fst (hear_apart clocks_apart ctx hdr rssi)

theorem Coordinator.hear {σ : Mac} (coordinator : Coordinator σ.ctx) (hdr : Header) (rssi : Int) :
    Coordinator (σ.hear hdr rssi).ctx := by
  rw [hear_ctx]
  exact coordinator.of_identity (hear_identity ..)

/-- The frame gets past the source lookup of a coordinator. -/
def Ctx.handles (ctx : Ctx) (hdr : Header) (size : Nat) : Bool :=
  ctx.accepts hdr size &&
    (hdr.srcAddr == addrUnassigned || (tinymacGetNodeByAddr ctx hdr.srcAddr).isSome)

/-- The frame is a registration request that reaches `tinymac_rx_registration_request`. -/
def Ctx.reachesRegistration (ctx : Ctx) (buf : Memory) (size : Nat) : Bool :=
  ctx.handles (readHeader buf) size &&
    (readHeader buf).type == PacketType.registrationRequest.code &&
    decide (headerSize + registrationRequestSize ≤ size)

/-- The node pointer that goes with a frame into the handler of its type. -/
def Ctx.source (ctx : Ctx) (hdr : Header) : Option NodePtr :=
  if hdr.srcAddr = addrUnassigned then none else tinymacGetNodeByAddr ctx hdr.srcAddr

/-- A frame that gets past the source lookup is handled by its type. -/
theorem recv_handled (σ : Mac) (coordinator : Coordinator σ.ctx) (buf : Memory) (size : Nat)
    (rssi : Int) (handles : σ.ctx.handles (readHeader buf) size = true) :
    tinymacRecvCb σ buf size rssi =
      tinymacRecvType (σ.hear (readHeader buf) rssi) (σ.ctx.source (readHeader buf))
        (readHeader buf) buf size := by
  rw [Ctx.handles, Bool.and_eq_true, Bool.or_eq_true, beq_iff_eq] at handles
  obtain ⟨accepted, known⟩ := handles
  unfold tinymacRecvCb Mac.hear Ctx.source
  dsimp only
  rw [if_pos accepted, recvStandby_ctx]
  by_cases unassigned : (readHeader buf).srcAddr = addrUnassigned
  · rw [if_neg (by simp [unassigned]), if_pos unassigned, if_pos unassigned]
  · rw [if_pos ⟨coordinator.addr_ne, unassigned⟩, if_neg unassigned, if_neg unassigned]
    obtain ⟨ptr, found⟩ := Option.isSome_iff_exists.mp (known.resolve_left unassigned)
    simp only [found]

/-- The response that has the nodes at an address register again. -/
def Mac.expel (σ : Mac) (addr : BitVec 8) : Mac :=
  (tinymacTxPacket σ (some (.temp (dummyNode addr))) PacketType.registrationResponse.code
    (RegistrationResponse.bytes
      ⟨0#64, addrUnassigned, RegistrationStatus.addressInvalid.code⟩) 0#16 none).2

/-- A frame that does not get past the source lookup is dropped, or its source is unknown and told
so. -/
theorem recv_unhandled_cases {σ : Mac} (coordinator : Coordinator σ.ctx) (buf : Memory) (size : Nat)
    (rssi : Int) (unhandled : σ.ctx.handles (readHeader buf) size = false) :
    σ.ctx.accepts (readHeader buf) size = false ∧ tinymacRecvCb σ buf size rssi = σ ∨
      σ.ctx.accepts (readHeader buf) size = true ∧ (readHeader buf).srcAddr ≠ addrUnassigned ∧
        tinymacRecvCb σ buf size rssi =
          (tinymacRecvStandby σ (readHeader buf)).expel (readHeader buf).srcAddr := by
  unfold tinymacRecvCb
  dsimp only
  cases accepted : σ.ctx.accepts (readHeader buf) size with
  | false => exact .inl ⟨rfl, rfl⟩
  | true =>
      have unknown : (readHeader buf).srcAddr ≠ addrUnassigned ∧
          tinymacGetNodeByAddr σ.ctx (readHeader buf).srcAddr = none := by
        simpa [Ctx.handles, accepted] using unhandled
      refine .inr ⟨rfl, unknown.1, ?_⟩
      rw [if_pos rfl, recvStandby_ctx, if_pos ⟨coordinator.addr_ne, unknown.1⟩, unknown.2]
      simp only [tinymacRecvUnknown, recvStandby_ctx, coordinator.role, if_true]
      rfl

/-- The pointer that goes with a frame is none, or the slot its source is looked up to. -/
theorem source_slot {ctx : Ctx} (role : ctx.params.coordinator = true) (hdr : Header) :
    ∃ slot : Option Slot, ctx.source hdr = slot.map .slot ∧ ∀ index, slot = some index →
      tinymacGetNodeByAddr ctx hdr.srcAddr = some (.slot index) := by
  unfold Ctx.source
  split
  · exact ⟨none, rfl, nofun⟩
  · cases found : tinymacGetNodeByAddr ctx hdr.srcAddr with
    | none => exact ⟨none, rfl, nofun⟩
    | some ptr =>
        obtain ⟨index, rfl, -⟩ := getNodeByAddr_coordinator role found
        exact ⟨some index, rfl, fun _ same => by cases same; rfl⟩

/-- A registration request, as an answered registration. -/
theorem rxRegistrationRequest_eq (σ : Mac) (buf : Memory)
    (role : σ.ctx.params.coordinator = true) :
    tinymacRxRegistrationRequest σ buf =
      let attach := readRegistrationRequest buf
      let answered := (σ.registerSlot attach).respond (σ.ctx.registrationResponse attach)
      if answered.ctx.regCb then
        answered.emit (.regCb ((σ.ctx.registrationSlot attach.uuid).map .slot))
      else answered := by
  unfold tinymacRxRegistrationRequest Mac.registerSlot Ctx.registrationResponse Mac.respond
  rw [if_neg (by simp [role])]
  cases slot : σ.ctx.registrationSlot (readRegistrationRequest buf).uuid <;> simp only [slot]

/-! ### The parts of a step -/

section Parts

variable {ok : Condition}

theorem recvStandby_ops (σ : Mac) (hdr : Header) : Ops ok σ (tinymacRecvStandby σ hdr) := by
  unfold tinymacRecvStandby
  split
  · refine .single (.event σ _ ?_)
    split <;> trivial
  · exact .refl

/-- Hearing a live slot: its record notes it, the frame is acknowledged, what waits is released. -/
theorem recvKnown_ops (σ : Mac) (index : Slot) (hdr : Header) (rssi : Int)
    (live : (σ.ctx.nodes index).live = true) :
    Ops ok σ (tinymacRecvKnown σ (.slot index) hdr rssi) := by
  have heard : Op ok σ _ := .hear σ index rssi live
  unfold tinymacRecvKnown
  dsimp only
  split
  · refine .tail ?_ (.release _ index)
    have acked : Op ok (σ.modify (.slot index) fun node => node.heard σ.ctx.tickCount rssi) _ :=
      .ackFrame _ index hdr.seq (by simpa [Node.live] using live)
    unfold tinymacTxAck
    dsimp only
    split
    · exact .tail (.single heard) acked
    · exact .tail (.tail (.single heard) acked) (.release _ index)
  · exact .tail (.single heard) (.release _ index)

/-- Hearing a frame before its type is handled. -/
theorem hear_ops (σ : Mac) (role : σ.ctx.params.coordinator = true) (hdr : Header) (rssi : Int) :
    Ops ok σ (σ.hear hdr rssi) := by
  unfold Mac.hear
  dsimp only
  split
  · exact recvStandby_ops σ hdr
  · rw [recvStandby_ctx]
    split
    · next ptr found =>
      obtain ⟨index, rfl, -, live⟩ := getNodeByAddr_coordinator role found
      refine (recvStandby_ops σ hdr).trans (recvKnown_ops _ index hdr rssi ?_)
      rw [recvStandby_ctx]
      exact live
    · exact recvStandby_ops σ hdr

theorem rxRegistrationRequest_ops (σ : Mac) (buf : Memory)
    (role : σ.ctx.params.coordinator = true)
    (fresh : ∀ index, σ.ctx.registrationSlot (readRegistrationRequest buf).uuid = some index →
      ok.register index (readRegistrationRequest buf) (σ.ctx.nodes index)) :
    Ops ok σ (tinymacRxRegistrationRequest σ buf) := by
  rw [rxRegistrationRequest_eq σ buf role]
  have registered := Op.register σ (readRegistrationRequest buf) fresh
  dsimp only
  split
  · exact .tail (.single registered) (.event _ _ trivial)
  · exact .single registered

theorem rxDeregistrationRequest_ops (σ : Mac) (hdr : Header) (buf : Memory)
    (role : σ.ctx.params.coordinator = true) :
    Ops ok σ (tinymacRxDeregistrationRequest σ hdr buf) := by
  unfold tinymacRxDeregistrationRequest
  rw [if_neg (by simp [role])]
  dsimp only
  split
  · exact .refl
  · next ptr found =>
    obtain ⟨index, rfl, -, live⟩ := getNodeByAddr_coordinator role found
    split
    · exact .refl
    · next same =>
      rw [not_not] at same
      rw [← same]
      exact .single (.detach σ index live)

/-- The end of the receive handler. -/
theorem recvType_ops (σ : Mac) (node : Option Slot) (hdr : Header) (buf : Memory) (size : Nat)
    (role : σ.ctx.params.coordinator = true)
    (fresh : hdr.type = PacketType.registrationRequest.code →
      headerSize + registrationRequestSize ≤ size →
      ∀ index, σ.ctx.registrationSlot (readRegistrationRequest buf).uuid = some index →
        ok.register index (readRegistrationRequest buf) (σ.ctx.nodes index))
    (heard : hdr.type = PacketType.ack.code → ∀ index, node = some index → ok.ack index hdr) :
    Ops ok σ (tinymacRecvType σ (node.map .slot) hdr buf size) := by
  unfold tinymacRecvType
  split
  · split
    · exact .single (.event σ _ trivial)
    · exact .refl
  · split
    case h_2 => exact .refl
    case h_1 type known =>
      have code : hdr.type = type.code := PacketType.ofCode_eq_some.mp known
      unfold tinymacRecvControl
      cases type with
      | beacon => simpa [tinymacRxBeacon, role] using ReflTransGen.refl
      | ack =>
          cases node with
          | none => exact .refl
          | some index => exact .single (.acked σ index hdr (heard code index rfl))
      | poll => exact .refl
      | beaconRequest => exact .single (.beacon σ false nofun)
      | registrationRequest =>
          dsimp only
          split
          · exact .refl
          · exact rxRegistrationRequest_ops σ buf role (fresh code (by omega))
      | deregistrationRequest =>
          dsimp only
          split
          · exact .refl
          · exact rxDeregistrationRequest_ops σ hdr buf role
      | registrationResponse =>
          simpa [tinymacRxRegistrationResponse, role] using ReflTransGen.refl

/-- Every slot's share of a tick. -/
theorem tickSlot_ops (timers : ok.timers) (σ : Mac) (index : Slot) :
    Ops ok σ (tickSlot σ index) := by
  unfold tickSlot
  dsimp only
  refine .tail (.tail ?_ (.ackDue _ index timers)) (.validityDue _ index timers)
  split
  · next expired => exact .single (.heartbeat σ index expired timers)
  · exact .refl

theorem foldl_tickSlot_ops (timers : ok.timers) (rest : List Slot) (σ : Mac) :
    Ops ok σ (rest.foldl tickSlot σ) := by
  induction rest generalizing σ with
  | nil => exact .refl
  | cons first rest ih => exact (tickSlot_ops timers σ first).trans (ih (tickSlot σ first))

theorem tick_ops (timers : ok.timers) (σ : Mac) (role : σ.ctx.params.coordinator = true) :
    Ops ok σ (tinymacTickHandler σ) := by
  have counted : Op ok σ (σ.update Ctx.nextSlot) :=
    .setting σ σ.ctx.permitAttach σ.ctx.rxCb σ.ctx.regCb σ.ctx.deregCb (σ.ctx.slot + 1#16)
      (.inr timers)
  unfold tinymacTickHandler tickCoordinator
  rw [if_pos role]
  refine .tail (ReflTransGen.trans ?_ (foldl_tickSlot_ops timers slots _)) (.clock _ timers)
  split
  · exact .tail (.single counted) (.beacon _ true fun _ => timers)
  · exact .single counted

theorem send_ops (σ : Mac) (role : σ.ctx.params.coordinator = true) (dest type : BitVec 8)
    (buf : List Byte) (validity : BitVec 16) (cb : Option SendCb) :
    Ops ok σ (tinymacSend σ dest type buf validity cb).2 := by
  unfold tinymacSend
  split
  · exact .refl
  · next data =>
    split
    · exact .refl
    · next ptr found =>
      obtain ⟨index, rfl, -, live⟩ := getNodeByAddr_coordinator role found
      exact .single (.send σ index type buf _ cb live (BitVec.not_lt.mp data))

end Parts

/-! ### Steps and runs -/

/-- A frame that reaches its handler meets `ok`, if it is a registration request or an
acknowledgement. -/
structure Ctx.FrameMeets (ctx : Ctx) (ok : Condition) (buf : Memory) (size : Nat) (rssi : Int) :
    Prop where
  register : ctx.reachesRegistration buf size = true →
    ∀ index, (ctx.hear (readHeader buf) rssi).registrationSlot
        (readRegistrationRequest buf).uuid = some index →
      ok.register index (readRegistrationRequest buf)
        ((ctx.hear (readHeader buf) rssi).nodes index)
  ack : ctx.accepts (readHeader buf) size = true →
    (readHeader buf).type = PacketType.ack.code →
    ∀ index, tinymacGetNodeByAddr ctx (readHeader buf).srcAddr = some (.slot index) →
      ok.ack index (readHeader buf)

/-- The input meets `ok`. -/
def Ctx.admits (ctx : Ctx) (ok : Condition) : Input → Prop
  | .recv buf size rssi => ctx.FrameMeets ok buf size rssi
  | .tick => ok.timers
  | _ => True

theorem admits_any (ctx : Ctx) (input : Input) : ctx.admits .any input := by
  cases input with
  | recv buf size rssi => exact ⟨fun _ _ _ => trivial, fun _ _ _ _ => trivial⟩
  | _ => trivial

/-- No condition, and no tick. -/
def Condition.untimed : Condition := { Condition.any with timers := False }

theorem admits_untimed (ctx : Ctx) {input : Input} (other : input.isTick = false) :
    ctx.admits .untimed input := by
  cases input with
  | recv buf size rssi => exact ⟨fun _ _ _ => trivial, fun _ _ _ _ => trivial⟩
  | tick => cases other
  | _ => trivial

theorem recv_ops {ok : Condition} (σ : Mac) (coordinator : Coordinator σ.ctx) (buf : Memory)
    (size : Nat) (rssi : Int) (meets : σ.ctx.FrameMeets ok buf size rssi) :
    Ops ok σ (tinymacRecvCb σ buf size rssi) := by
  cases handles : σ.ctx.handles (readHeader buf) size with
  | true =>
      obtain ⟨slot, source, found⟩ := source_slot coordinator.role (readHeader buf)
      have heard : Ops ok σ (σ.hear (readHeader buf) rssi) := hear_ops σ coordinator.role _ rssi
      rw [recv_handled σ coordinator buf size rssi handles, source]
      refine heard.trans
        (recvType_ops _ slot _ _ _ ?_ (fun type long => ?_) fun type index is => ?_)
      · exact (coordinator.hear ..).role
      · rw [hear_ctx]
        exact meets.register (by simp [Ctx.reachesRegistration, handles, type, long])
      · rw [Ctx.handles, Bool.and_eq_true] at handles
        exact meets.ack handles.1 type index (found index is)
  | false =>
      unfold tinymacRecvCb
      dsimp only
      split
      · next accepted =>
        -- a source with an address that is in no slot
        simp only [Ctx.handles, accepted, Bool.true_and, Bool.or_eq_false_iff, beq_eq_false_iff_ne,
          Option.isSome_eq_false_iff, Option.isNone_iff_eq_none] at handles
        rw [recvStandby_ctx, if_pos ⟨coordinator.addr_ne, handles.1⟩, handles.2]
        exact (recvStandby_ops σ (readHeader buf)).tail (.expel _ _)
      · exact .refl

/-- **Every step of a coordinator is a sequence of operations.** -/
theorem step_ops {ok : Condition} (σ : Mac) (coordinator : Coordinator σ.ctx) (input : Input)
    (admits : σ.ctx.admits ok input) : Ops ok σ (σ.step input) := by
  have setting (permitAttach rxCb regCb deregCb : Bool) :
      Ops ok σ (σ.update fun ctx => { ctx with
        permitAttach := permitAttach, rxCb := rxCb, regCb := regCb, deregCb := deregCb,
        slot := σ.ctx.slot }) :=
    .single (.setting σ permitAttach rxCb regCb deregCb σ.ctx.slot (.inl rfl))
  cases input with
  | recv buf size rssi => exact recv_ops σ coordinator buf size rssi admits
  | tick => exact tick_ops admits σ coordinator.role
  | send dest type buf validity cb => exact send_ops σ coordinator.role dest type buf validity cb
  | permitAttach permit =>
      exact setting permit σ.ctx.rxCb σ.ctx.regCb σ.ctx.deregCb
  | registerRecvCb cb =>
      exact setting σ.ctx.permitAttach cb σ.ctx.regCb σ.ctx.deregCb
  | registerRegCb cb =>
      exact setting σ.ctx.permitAttach σ.ctx.rxCb cb σ.ctx.deregCb
  | registerDeregCb cb =>
      exact setting σ.ctx.permitAttach σ.ctx.rxCb σ.ctx.regCb cb

theorem Ops.identity {ok : Condition} {σ τ : Mac} (ops : Ops ok σ τ) :
    τ.ctx.identity = σ.ctx.identity := by
  induction ops with
  | refl => rfl
  | tail _ op ih => exact op.identity.trans ih

theorem Ops.clocks {ok : Condition} {σ τ : Mac} (ops : Ops ok σ τ) (timers : ¬ ok.timers) :
    τ.ctx.clocks = σ.ctx.clocks := by
  induction ops with
  | refl => rfl
  | tail _ op ih => exact (op.clocks timers).trans ih

theorem Ops.built_le {ok : Condition} {σ τ : Mac} (ops : Ops ok σ τ) : σ.built ≤ τ.built := by
  induction ops with
  | refl => exact le_rfl
  | tail _ op ih => exact ih.trans op.built_le

theorem step_identity (σ : Mac) (coordinator : Coordinator σ.ctx) (input : Input) :
    (σ.step input).ctx.identity = σ.ctx.identity :=
  (step_ops σ coordinator input (admits_any σ.ctx input)).identity

/-- **The clocks advance with the ticks**, and only with them. -/
theorem step_clocks (σ : Mac) (coordinator : Coordinator σ.ctx) (input : Input) :
    (σ.step input).ctx.clocks = if input.isTick then
      (σ.ctx.tickCount + 1#32, σ.ctx.slot + 1#16) else σ.ctx.clocks := by
  cases ticks : input.isTick with
  | false =>
      exact (step_ops σ coordinator input (admits_untimed σ.ctx ticks)).clocks id
  | true =>
      cases input <;> cases ticks
      rw [Mac.step, tick_coordinator_ctx σ coordinator.role]
      unfold Ctx.tickBeacon
      split <;> rfl

section Induction

variable {ok : Condition} {P : Mac → Prop}

/-- What every operation of a coordinator preserves, a sequence of operations preserves. -/
theorem Ops.preserve {σ τ : Mac} (ops : Ops ok σ τ) (coordinator : Coordinator σ.ctx)
    (keep : ∀ {σ τ : Mac}, Coordinator σ.ctx → P σ → Op ok σ τ → P τ) (holds : P σ) :
    Coordinator τ.ctx ∧ P τ := by
  induction ops with
  | refl => exact ⟨coordinator, holds⟩
  | tail _ op ih => exact ⟨ih.1.of_identity op.identity, keep ih.1 ih.2 op⟩

/-- **The induction over runs of a coordinator.** A property that holds after `tinymac_init` and
that every operation preserves holds in every state reached, for runs whose steps meet `cond`, as
long as `cond` and the property together give the condition `ok` of the operations. -/
theorem run_induction {cond : Ctx → Input → Prop}
    (keep : ∀ {σ τ : Mac}, Coordinator σ.ctx → P σ → Op ok σ τ → P τ)
    (admits : ∀ {σ : Mac} {input : Input}, Coordinator σ.ctx → P σ → cond σ.ctx input →
      σ.ctx.admits ok input)
    {σ : Mac} (coordinator : Coordinator σ.ctx) (holds : P σ) (inputs : List Input)
    (along : σ.Along cond inputs) :
    Coordinator (σ.run inputs).ctx ∧ P (σ.run inputs) := by
  induction inputs generalizing σ with
  | nil => exact ⟨coordinator, holds⟩
  | cons input inputs ih =>
      obtain ⟨now, later⟩ := along
      obtain ⟨coordinator, holds⟩ :=
        (step_ops σ coordinator input (admits coordinator holds now)).preserve coordinator keep
          holds
      exact ih coordinator holds later

/-- The induction over all runs. -/
theorem run_induction_any (keep : ∀ {σ τ : Mac}, Coordinator σ.ctx → P σ → Op .any σ τ → P τ)
    {σ : Mac} (coordinator : Coordinator σ.ctx) (holds : P σ) (inputs : List Input) :
    Coordinator (σ.run inputs).ctx ∧ P (σ.run inputs) :=
  run_induction keep (fun _ _ _ => admits_any _ _) coordinator holds inputs (along_trivial σ inputs)

theorem Coordinator.step {σ : Mac} (coordinator : Coordinator σ.ctx) (input : Input) :
    Coordinator (σ.step input).ctx :=
  (run_induction_any (P := fun _ => True) (fun _ _ _ => trivial) coordinator trivial [input]).1

theorem start_coordinator (boot : Boot) (role : boot.params.coordinator = true) :
    Coordinator boot.start.ctx := by
  refine ⟨by simpa using role, by simp [role], ?_⟩
  rw [start_phyMtu]
  cases boot.phy <;> decide

/-- **A coordinator keeps the network identifier and address it started with.** -/
theorem reachable_identity (boot : Boot) (role : boot.params.coordinator = true)
    (inputs : List Input) :
    Coordinator (boot.start.run inputs).ctx ∧
      (boot.start.run inputs).ctx.identity = boot.start.ctx.identity :=
  run_induction_any (P := fun σ => σ.ctx.identity = boot.start.ctx.identity)
    (fun _ same op => op.identity.trans same) (start_coordinator boot role) rfl inputs

end Induction

end TinyHan.Tinymac
