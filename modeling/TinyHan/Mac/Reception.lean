/-
**What a received frame reads and what it delivers**, in either role and any state.

`tinymac_recv_cb` gets a pointer into the static receive buffer of the PHY and a size. Two facts
about it need no history of the context.

* The bytes behind the size have no influence (`recv_ignores_tail`): every handler checks the size
  before it reads its fields, so two buffers that agree on the frame give the same context and the
  same log. One congruence lemma for each reader carries this up to the handler.
* The source is looked up only if it has an address and the receiver has one, but data is delivered
  by its type alone. `upcalls_attributed_iff` says when `rx_cb` is called for a live record with the
  address of the source, and when it is called with no record at all.
-/

import TinyHan.Mac.Log

namespace TinyHan.Tinymac

open TinyHan.Lib

/-! ### The bytes behind the frame -/

section Agreement

variable {size : Nat} {one two : Memory} (same : SameFront size one two)
include same

theorem readHeader_congr (inside : headerSize ≤ size) : readHeader one = readHeader two := by
  have byte : ∀ index < headerSize, one index = two index := fun index bound =>
    same index (bound.trans_le inside)
  have flags : window one 0 2 = window two 0 2 :=
    same.window_eq (le_trans (by decide) inside)
  rw [readHeader, readHeader, flags, byte 2 (by decide), byte 3 (by decide), byte 4 (by decide),
    byte 5 (by decide)]

theorem readUuid_congr (inside : headerSize + 8 ≤ size) : readUuid one = readUuid two := by
  rw [readUuid, readUuid, same.window_eq inside]

/-- The address list is what the size leaves behind the fixed fields. -/
theorem readBeacon_congr (inside : headerSize + beaconSize ≤ size) :
    readBeacon one (size - headerSize - beaconSize) =
      readBeacon two (size - headerSize - beaconSize) := by
  have timestamp : window one (headerSize + 8) 2 = window two (headerSize + 8) 2 :=
    same.window_eq (le_trans (by decide) inside)
  have list : window one (headerSize + beaconSize) (size - headerSize - beaconSize) =
      window two (headerSize + beaconSize) (size - headerSize - beaconSize) :=
    same.window_eq (by omega)
  have flags : one (headerSize + 10) = two (headerSize + 10) :=
    same _ (lt_of_lt_of_le (by decide) inside)
  have interval : one (headerSize + 11) = two (headerSize + 11) :=
    same _ (lt_of_lt_of_le (by decide) inside)
  rw [readBeacon, readBeacon, readUuid_congr same (le_trans (by decide) inside), timestamp, list,
    flags, interval]

theorem readRegistrationRequest_congr (inside : headerSize + registrationRequestSize ≤ size) :
    readRegistrationRequest one = readRegistrationRequest two := by
  have flags : window one (headerSize + 8) 2 = window two (headerSize + 8) 2 :=
    same.window_eq inside
  rw [readRegistrationRequest, readRegistrationRequest,
    readUuid_congr same (le_trans (by decide) inside), flags]

theorem readDeregistrationRequest_congr (inside : headerSize + deregistrationRequestSize ≤ size) :
    readDeregistrationRequest one = readDeregistrationRequest two := by
  have reason : one (headerSize + 8) = two (headerSize + 8) :=
    same _ (lt_of_lt_of_le (by decide) inside)
  rw [readDeregistrationRequest, readDeregistrationRequest,
    readUuid_congr same (le_trans (by decide) inside), reason]

theorem readRegistrationResponse_congr (inside : headerSize + registrationResponseSize ≤ size) :
    readRegistrationResponse one = readRegistrationResponse two := by
  have addr : one (headerSize + 8) = two (headerSize + 8) :=
    same _ (lt_of_lt_of_le (by decide) inside)
  have status : one (headerSize + 9) = two (headerSize + 9) :=
    same _ (lt_of_lt_of_le (by decide) inside)
  rw [readRegistrationResponse, readRegistrationResponse,
    readUuid_congr same (le_trans (by decide) inside), addr, status]

/-- Each control handler reads its fields only behind its own size check. -/
theorem recvControl_congr (σ : Mac) (type : PacketType) (node : Option NodePtr) (hdr : Header) :
    tinymacRecvControl σ type node hdr one size = tinymacRecvControl σ type node hdr two size := by
  cases type with
  | beacon =>
      by_cases short : size < headerSize + beaconSize
      · simp only [tinymacRecvControl, if_pos short]
      · simp only [tinymacRecvControl, if_neg short, tinymacRxBeacon,
          readBeacon_congr same (not_lt.mp short)]
  | registrationRequest =>
      by_cases short : size < headerSize + registrationRequestSize
      · simp only [tinymacRecvControl, if_pos short]
      · simp only [tinymacRecvControl, if_neg short, tinymacRxRegistrationRequest,
          readRegistrationRequest_congr same (not_lt.mp short)]
  | deregistrationRequest =>
      by_cases short : size < headerSize + deregistrationRequestSize
      · simp only [tinymacRecvControl, if_pos short]
      · simp only [tinymacRecvControl, if_neg short, tinymacRxDeregistrationRequest,
          readDeregistrationRequest_congr same (not_lt.mp short)]
  | registrationResponse =>
      by_cases short : size < headerSize + registrationResponseSize
      · simp only [tinymacRecvControl, if_pos short]
      · simp only [tinymacRecvControl, if_neg short, tinymacRxRegistrationResponse,
          readRegistrationResponse_congr same (not_lt.mp short)]
  | ack => rfl
  | poll => rfl
  | beaconRequest => rfl

/-- The payload an upcall carries ends where the frame ends. -/
theorem recvType_congr (inside : headerSize ≤ size) (σ : Mac) (node : Option NodePtr)
    (hdr : Header) :
    tinymacRecvType σ node hdr one size = tinymacRecvType σ node hdr two size := by
  have payload : window one headerSize (size - headerSize) =
      window two headerSize (size - headerSize) := same.window_eq (by omega)
  simp only [tinymacRecvType, payload, recvControl_congr same]

/-- **The bytes behind the frame have no influence**: two receive buffers with the same first `size`
bytes leave the same context and the same log of frames, power transitions and callbacks. -/
theorem recv_ignores_tail (σ : Mac) (rssi : Int) :
    tinymacRecvCb σ one size rssi = tinymacRecvCb σ two size rssi := by
  by_cases short : size < headerSize
  · -- the header is read before the check, but nothing of it is used
    have dropped : ∀ hdr, σ.ctx.accepts hdr size = false := fun hdr => by
      simp [Ctx.accepts, short]
    simp [tinymacRecvCb, dropped]
  · have inside := not_lt.mp short
    simp only [tinymacRecvCb, readHeader_congr same inside, recvType_congr same inside]

end Agreement

/-- A data frame of seven bytes, over what a longer packet left in the buffer. -/
theorem recv_ignores_tail_stale :
    let σ := (Boot.coordinatorOn 0x2A#8).start.run [.permitAttach true, .registerRecvCb true,
      .frame (registrationRequestFrame 0x2A#8 1#8 ⟨1#64, 0#16⟩) 0]
    let frame : Frame := ⟨⟨headerFlags 0x10#8, 0x2A#8, 0#8, 1#8, 9#8⟩, [5#8]⟩
    let stale : Memory := fun index => if index < 7 then frame.memory index else 0xEE#8
    stale 7 ≠ frame.memory 7 ∧ tinymacRecvCb σ stale 7 0 = tinymacRecvCb σ frame.memory 7 0 := by
  intro σ frame stale
  refine ⟨by decide +kernel, recv_ignores_tail (fun index inside => ?_) σ 0⟩
  simp [stale, inside]

/-! ### Whose data reaches the application -/

/-- The records a role looks sources up in: the registry of a coordinator, the coord record of a
client. -/
def Ctx.keeps (ctx : Ctx) : NodePtr → Prop
  | .slot _ => ctx.params.coordinator = true
  | .coord => ctx.params.coordinator = false
  | .temp _ => False

/-- An upcall names a live record of the context that has the given address. -/
def Ctx.Attributes (ctx : Ctx) (addr : BitVec 8) : Event → Prop
  | .rxCb node _ _ =>
      ∃ ptr, node = some ptr ∧ ctx.keeps ptr ∧ (ctx.node ptr).live = true ∧
        (ctx.node ptr).addr = addr
  | _ => True

/-- Data that passes the filter while no lookup is made: the receiver or the source has no
address. -/
def Ctx.unattributed (ctx : Ctx) (hdr : Header) (size : Nat) : Bool :=
  ctx.accepts hdr size && typeRawData ≤ hdr.type && ctx.rxCb &&
    (ctx.addr == addrUnassigned || hdr.srcAddr == addrUnassigned)

/-- A lookup finds a live record of the role, with the address. -/
theorem getNodeByAddr_sound {ctx : Ctx} {addr : BitVec 8} {ptr : NodePtr}
    (found : tinymacGetNodeByAddr ctx addr = some ptr) :
    ctx.keeps ptr ∧ (ctx.node ptr).live = true ∧ (ctx.node ptr).addr = addr := by
  unfold tinymacGetNodeByAddr at found
  by_cases role : ctx.params.coordinator = true
  · rw [if_pos role] at found
    obtain ⟨index, scanned, rfl⟩ := Option.map_eq_some_iff.mp found
    have holds := List.find?_some scanned
    simp only [Bool.and_eq_true, beq_iff_eq] at holds
    exact ⟨role, holds.2, holds.1⟩
  · rw [if_neg role] at found
    split at found
    · rename_i holds
      cases found
      exact ⟨by simpa [Ctx.keeps] using role, (Node.live_iff _).mpr holds.1, holds.2⟩
    · cases found

theorem Ctx.keeps.kept {ctx : Ctx} {ptr : NodePtr} (keeps : ctx.keeps ptr) (node : Node) :
    ptr ≠ .temp node := by
  rintro rfl
  exact keeps

theorem Ctx.keeps.of_params {ctx later : Ctx} {ptr : NodePtr} (keeps : ctx.keeps ptr)
    (same : later.params = ctx.params) : later.keeps ptr := by
  cases ptr with
  | slot index => exact (congrArg Params.coordinator same).trans keeps
  | coord => exact (congrArg Params.coordinator same).trans keeps
  | temp node => exact keeps

/-- An event that is no upcall of `rx_cb`. -/
def Event.internal : Event → Prop
  | .rxCb _ _ _ => False
  | _ => True

theorem Event.internal_of_standby {event : Event} (standby : event.standby) : event.internal := by
  cases event <;> first | exact standby.elim | trivial

theorem txPacket_internal (σ : Mac) (dest : Option NodePtr) (flagsType : BitVec 8)
    (buf : List Byte) (validity : BitVec 16) (cb : Option SendCb) :
    Emits Event.internal σ (tinymacTxPacket σ dest flagsType buf validity cb).2 :=
  txPacket_emits σ dest flagsType buf validity cb (fun _ => Event.internal_of_standby)
    (fun _ => trivial) fun _ _ _ _ _ => trivial

theorem phySend_internal (σ : Mac) (packet : Option Nat) (frame : Frame) (flags : BitVec 8) :
    Emits Event.internal σ (tinymacPhySend σ packet frame flags).2 :=
  phySend_emits σ packet frame flags (fun _ => Event.internal_of_standby) trivial

theorem rxBeacon_internal (σ : Mac) (hdr : Header) (buf : Memory) (size : Nat) :
    Emits Event.internal σ (tinymacRxBeacon σ hdr buf size) := by
  unfold tinymacRxBeacon
  split
  · exact .refl σ
  · have cancelled : Emits Event.internal σ
        (if σ.ctx.state = .beaconRequest then σ.update Ctx.cancelRequest else σ) := by
      split <;> exact .of_out_eq rfl
    generalize (if σ.ctx.state = .beaconRequest then σ.update Ctx.cancelRequest else σ) = τ
      at cancelled ⊢
    dsimp only
    have joined : Emits Event.internal σ
        ((tinymacTxPacket (τ.update fun ctx => ctx.bind hdr
          (readBeacon buf (size - headerSize - beaconSize)).uuid) (some .coord)
          PacketType.registrationRequest.code
          (RegistrationRequest.bytes ⟨τ.ctx.params.uuid, τ.ctx.params.flags⟩) 0#16 none).2.update
          fun ctx => ctx.armRequest (millis registrationTimeout)) := by
      have bound : Emits Event.internal τ (τ.update fun ctx => ctx.bind hdr
          (readBeacon buf (size - headerSize - beaconSize)).uuid) := .of_out_eq rfl
      exact ((cancelled.trans bound).trans (txPacket_internal _ _ _ _ _ _)).trans (.of_out_eq rfl)
    cases τ.ctx.state with
    | unregistered => exact iteInduction (fun _ => joined) fun _ => cancelled
    | beaconRequest => exact iteInduction (fun _ => joined) fun _ => cancelled
    | registering => exact cancelled
    | registered =>
        exact iteInduction (fun _ => cancelled.trans (txPacket_internal _ _ _ _ _ _))
          fun _ => cancelled

theorem rxRegistrationResponse_internal (σ : Mac) (hdr : Header) (buf : Memory) :
    Emits Event.internal σ (tinymacRxRegistrationResponse σ hdr buf) := by
  unfold tinymacRxRegistrationResponse
  dsimp only
  split_ifs <;> exact .of_out_eq rfl

theorem rxRegistrationRequest_internal (σ : Mac) (buf : Memory) :
    Emits Event.internal σ (tinymacRxRegistrationRequest σ buf) := by
  unfold tinymacRxRegistrationRequest
  dsimp only
  split
  · exact .refl σ
  · -- only the record is written before the answer, which changes nothing in the log
    have answered (τ : Mac) (resp : RegistrationResponse) (written : τ.out = σ.out) :
        Emits Event.internal σ (tinymacTxPacket τ none PacketType.registrationResponse.code
          resp.bytes 0#16 none).2 :=
      Emits.trans (.of_out_eq written) (txPacket_internal τ _ _ _ _ _)
    cases σ.ctx.registrationSlot (readRegistrationRequest buf).uuid with
    | some index =>
        dsimp only
        exact iteInduction (fun _ => (answered _ _ (by rfl)).emit (by trivial))
          fun _ => answered _ _ (by rfl)
    | none =>
        dsimp only
        exact iteInduction (fun _ => (answered _ _ (by rfl)).emit (by trivial))
          fun _ => answered _ _ (by rfl)

theorem rxDeregistrationRequest_internal (σ : Mac) (hdr : Header) (buf : Memory) :
    Emits Event.internal σ (tinymacRxDeregistrationRequest σ hdr buf) := by
  unfold tinymacRxDeregistrationRequest
  dsimp only
  split
  · exact .refl σ
  · split
    · exact .refl σ
    · split
      · exact .refl σ
      · exact (txPacket_internal _ _ _ _ _ _).trans (deregister_emits _ _ trivial)

/-- A control packet makes no upcall of `rx_cb`, whatever it contains. -/
theorem recvControl_internal (σ : Mac) (type : PacketType) (node : Option NodePtr) (hdr : Header)
    (buf : Memory) (size : Nat) :
    Emits Event.internal σ (tinymacRecvControl σ type node hdr buf size) := by
  cases type with
  | beacon => exact iteInduction (fun _ => .refl σ) fun _ => rxBeacon_internal σ hdr buf size
  | ack =>
      unfold tinymacRecvControl tinymacRxAck
      cases node with
      | none => exact .refl σ
      | some ptr =>
          refine iteInduction (fun _ => ?_) fun _ => .refl σ
          exact Emits.trans (.of_out_eq (mac_modify_out ..))
            (invokeSendCb_emits _ _ _ fun _ _ => trivial)
  | poll => exact .refl σ
  | beaconRequest =>
      refine iteInduction (fun _ => .refl σ) fun _ => ?_
      exact Emits.trans (.of_out_eq rfl) (phySend_internal _ _ _ _)
  | registrationRequest =>
      exact iteInduction (fun _ => .refl σ) fun _ => rxRegistrationRequest_internal σ buf
  | deregistrationRequest =>
      exact iteInduction (fun _ => .refl σ) fun _ => rxDeregistrationRequest_internal σ hdr buf
  | registrationResponse =>
      exact iteInduction (fun _ => .refl σ) fun _ => rxRegistrationResponse_internal σ hdr buf

theorem recvUnknown_internal (σ : Mac) (hdr : Header) :
    Emits Event.internal σ (tinymacRecvUnknown σ hdr) :=
  iteInduction (fun _ => txPacket_internal _ _ _ _ _ _) fun _ => .refl σ

theorem recvKnown_internal (σ : Mac) {ptr : NodePtr} (kept : ∀ node, ptr ≠ .temp node)
    (hdr : Header) (rssi : Int) : Emits Event.internal σ (tinymacRecvKnown σ ptr hdr rssi) :=
  recvKnown_emits σ ptr kept hdr rssi (fun _ => Event.internal_of_standby)
    (fun _ => trivial) (fun _ => trivial) fun _ _ _ => trivial

/-- The end of the handler: one upcall for data, with the record the lookup has given. -/
theorem recvType_attributes {P : Event → Prop} (σ : Mac) (node : Option NodePtr) (hdr : Header)
    (buf : Memory) (size : Nat) (internal : ∀ event, event.internal → P event)
    (upcall : typeRawData ≤ hdr.type → σ.ctx.rxCb = true → ∀ type payload,
      P (.rxCb node type payload)) :
    Emits P σ (tinymacRecvType σ node hdr buf size) := by
  unfold tinymacRecvType
  split
  · next data =>
    split
    · next listens => exact emit_emits σ (upcall data listens _ _)
    · exact .refl σ
  · split
    · exact (recvControl_internal σ _ node hdr buf size).mono internal
    · exact .refl σ

/-- Data is handed on without a change to the context. -/
theorem recvType_data_ctx (σ : Mac) (node : Option NodePtr) (hdr : Header) (buf : Memory)
    (size : Nat) (data : typeRawData ≤ hdr.type) :
    (tinymacRecvType σ node hdr buf size).ctx = σ.ctx := by
  rw [tinymacRecvType, if_pos data]
  split <;> rfl

/-- A record that is heard stays live and keeps its address. -/
theorem recvKnown_node (σ : Mac) {ptr : NodePtr} (kept : ∀ node, ptr ≠ .temp node) (hdr : Header)
    (rssi : Int) :
    ((tinymacRecvKnown σ ptr hdr rssi).ctx.node ptr).live = (σ.ctx.node ptr).live ∧
      ((tinymacRecvKnown σ ptr hdr rssi).ctx.node ptr).addr = (σ.ctx.node ptr).addr := by
  rw [recvKnown_ctx, modify_node _ _ _ kept, Node.release_live, Node.release_addr]
  exact ⟨rfl, rfl⟩

theorem unattributed_iff (ctx : Ctx) (hdr : Header) (size : Nat) :
    ctx.unattributed hdr size = true ↔
      ctx.accepts hdr size = true ∧ typeRawData ≤ hdr.type ∧ ctx.rxCb = true ∧
        (ctx.addr = addrUnassigned ∨ hdr.srcAddr = addrUnassigned) := by
  simp [Ctx.unattributed, and_assoc]

/-- Accepted data of a side without an address is handed on with no record. -/
theorem recv_unattributed (σ : Mac) (buf : Memory) (size : Nat) (rssi : Int)
    (nobody : σ.ctx.unattributed (readHeader buf) size = true) :
    tinymacRecvCb σ buf size rssi =
      (tinymacRecvStandby σ (readHeader buf)).emit (.rxCb none
        ((readHeader buf).type &&& flagsTypeMask.setWidth 8)
        (window buf headerSize (size - headerSize))) := by
  obtain ⟨accepted, data, listens, nobody⟩ := (unattributed_iff _ _ _).mp nobody
  have unknown : ¬ (σ.ctx.addr ≠ addrUnassigned ∧ (readHeader buf).srcAddr ≠ addrUnassigned) := by
    tauto
  simp only [tinymacRecvCb, accepted, if_true, recvStandby_ctx, if_neg unknown, tinymacRecvType,
    if_pos data, listens]

/-- **When upcalls are attributed.** In any state and for any frame, every call of `rx_cb` names a
live record of the role with the source address of the frame, unless the frame is accepted data
and either side has no address. -/
theorem upcalls_attributed_iff (σ : Mac) (buf : Memory) (size : Nat) (rssi : Int) :
    let τ := tinymacRecvCb σ buf size rssi
    Emits (τ.ctx.Attributes (readHeader buf).srcAddr) σ τ ↔
      σ.ctx.unattributed (readHeader buf) size = false := by
  intro τ
  have internal (event : Event) (holds : event.internal) :
      τ.ctx.Attributes (readHeader buf).srcAddr event := by
    cases event <;> first | exact holds.elim | trivial
  have standby : Emits (τ.ctx.Attributes (readHeader buf).srcAddr) σ
      (tinymacRecvStandby σ (readHeader buf)) :=
    recvStandby_emits σ _ fun event standby => internal event (Event.internal_of_standby standby)
  constructor
  · rintro ⟨new, grown, attributed⟩
    by_contra nobody
    -- the upcall is behind the power transition, so it is one of the new events
    obtain ⟨before, grown', -⟩ := standby
    have called := recv_unattributed σ buf size rssi (by simpa using nobody)
    have listed := congrArg Mac.out called
    rw [emit_out, grown', List.append_assoc] at listed
    rw [List.append_cancel_left (grown.symm.trans listed)] at attributed
    obtain ⟨ptr, named, -⟩ :=
      attributed _ (List.mem_append_right before (List.mem_singleton_self _))
    cases named
  · intro attended
    show Emits _ σ (tinymacRecvCb σ buf size rssi)
    unfold tinymacRecvCb
    dsimp only
    refine iteInduction (fun accepted => ?_) fun _ => .refl σ
    by_cases known : σ.ctx.addr ≠ addrUnassigned ∧ (readHeader buf).srcAddr ≠ addrUnassigned
    · rw [recvStandby_ctx, if_pos known]
      cases found : tinymacGetNodeByAddr σ.ctx (readHeader buf).srcAddr with
      | none => exact standby.trans ((recvUnknown_internal _ _).mono internal)
      | some ptr =>
          obtain ⟨keeps, live, addr⟩ := getNodeByAddr_sound found
          have reached : τ = tinymacRecvType (tinymacRecvKnown (tinymacRecvStandby σ
              (readHeader buf)) ptr (readHeader buf) rssi) (some ptr) (readHeader buf) buf
              size := by
            show tinymacRecvCb σ buf size rssi = _
            simp only [tinymacRecvCb, accepted, if_true, recvStandby_ctx, if_pos known, found]
          have heard := recvKnown_node (tinymacRecvStandby σ (readHeader buf)) keeps.kept
            (readHeader buf) rssi
          rw [recvStandby_ctx] at heard
          refine (standby.trans ((recvKnown_internal _ keeps.kept _ _).mono internal)).trans
            (recvType_attributes _ _ _ _ _ internal fun data _ type payload => ?_)
          rw [reached]
          refine ⟨ptr, rfl, ?_⟩
          rw [recvType_data_ctx _ _ _ _ _ data, heard.1, heard.2]
          exact ⟨keeps.of_params (by rw [recvKnown_ctx, modify_params, recvStandby_ctx]), live,
            addr⟩
    · rw [recvStandby_ctx, if_neg known]
      refine standby.trans (recvType_attributes _ _ _ _ _ internal fun data listens => ?_)
      rw [recvStandby_ctx] at listens
      rw [(unattributed_iff _ _ _).mpr ⟨accepted, data, listens, by tauto⟩] at attended
      cases attended

/-- A coordinator that permits attachment hands on data from a source that has no address, and a
client that has none hands on the broadcasts of any network. Neither upcall names a record. -/
theorem upcall_of_no_record :
    let data (dest src : BitVec 8) : Frame :=
      ⟨⟨headerFlags 0x10#8, 0x2A#8, dest, src, 9#8⟩, [5#8]⟩
    let σ := (Boot.coordinatorOn 0x2A#8).start.run [.registerRecvCb true, .permitAttach true]
    let client := (Boot.clientWith 1#64 0#16).start.run [.registerRecvCb true]
    (σ.step (.frame (data 0#8 addrUnassigned) 0)).out = σ.out ++ [.rxCb none 0x10#8 [5#8]] ∧
      (client.step (.frame (data addrBroadcast 3#8) 0)).out =
        client.out ++ [.rxCb none 0x10#8 [5#8]] := by
  decide +kernel

end TinyHan.Tinymac
