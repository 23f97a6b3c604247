/-
**Whom the frames of a client are for.**

A client sends to its coordinator, at address zero, or asks for a beacon or a registration while it
has no address (`Header.Upward`). No client accepts such a frame: it is not the destination, or the
source is unassigned, which only a coordinator that lets devices attach goes on with. So clients do
not hear each other, and a client does not hear itself, even if the medium gives it its own frame
back after it has changed its address.
-/

import TinyHan.Client.Uplink
import TinyHan.Mac.Origin

namespace TinyHan.Tinymac

open TinyHan.Lib

/-- The header of a frame for the coordinator: at address zero, or a control packet of a client that
has no address. -/
def Header.Upward (hdr : Header) : Prop :=
  hdr.destAddr = 0#8 ∨ hdr.srcAddr = addrUnassigned ∧ ¬ typeRawData ≤ hdr.type

/-- What the event takes for transmission, or sends beside the packets, is for the coordinator. -/
def Event.upward : Event → Prop
  | .txPacket call => call.hdr.Upward
  | .phySend none frame _ => frame.hdr.Upward
  | _ => True

theorem Event.upward_of_standby (event : Event) (standby : event.standby) : event.upward := by
  cases event <;> first | exact standby.elim | trivial

/-- **A client does not accept what clients send.** -/
theorem Header.Upward.ignored {hdr : Header} (upward : hdr.Upward) {σ : Mac}
    (role : σ.ctx.params.coordinator = false) (other : σ.ctx.addr ≠ 0#8) (size : Nat) :
    σ.ctx.accepts hdr size = false := by
  rcases upward with zero | ⟨unassigned, -⟩
  · have elsewhere : σ.ctx.addressed hdr = false := by
      have unlike : (0#8 == σ.ctx.addr) = false := beq_false_of_ne other.symm
      have unicast : (0#8 == addrBroadcast) = false := by decide
      simp [Ctx.addressed, zero, unlike, unicast]
    simp [Ctx.accepts, elsewhere]
  · simp [Ctx.accepts, Ctx.admitted, role, unassigned]

/-! ### The frames of a step -/

section Parts

variable (σ : Mac)

/-- A packet for the coordinator record. -/
theorem unicast_upward (zero : σ.ctx.coord.addr = 0#8) (type : BitVec 8) (buf : List Byte)
    (validity : BitVec 16) (cb : Option SendCb) :
    Emits Event.upward σ (tinymacTxPacket σ (some .coord) type buf validity cb).2 :=
  txPacket_emits σ _ type buf validity cb Event.upward_of_standby (fun _ => trivial)
    fun _ _ _ _ _ => .inl zero

/-- A control packet of a client that has no address. -/
theorem unaddressed_upward (unaddressed : σ.ctx.addr = addrUnassigned) (dest : Option NodePtr)
    (type : PacketType) (buf : List Byte) :
    Emits Event.upward σ (tinymacTxPacket σ dest type.code buf 0#16 none).2 := by
  refine txPacket_emits σ dest type.code buf 0#16 none Event.upward_of_standby (fun _ => trivial)
    fun _ _ _ _ _ => .inr ⟨unaddressed, ?_⟩
  rw [buildHeader_control]
  exact rawData_not_control type

theorem join_upward (unaddressed : σ.ctx.addr = addrUnassigned) (hdr : Header)
    (uuid : BitVec 64) : Emits Event.upward σ (σ.join hdr uuid) := by
  have bound : Emits Event.upward σ (σ.update fun ctx => ctx.bind hdr uuid) := .of_out_eq rfl
  exact (bound.trans (unaddressed_upward (σ.update fun ctx => ctx.bind hdr uuid) unaddressed
    _ _ _)).trans (.of_out_eq rfl)

variable (client : Client σ.ctx) (zero : σ.ctx.coord.addr = 0#8)

include client zero

theorem rxBeacon_upward (hdr : Header) (buf : Memory) (size : Nat) :
    Emits Event.upward σ (tinymacRxBeacon σ hdr buf size) := by
  rw [rxBeacon_eq σ client.role]
  cases state : σ.ctx.state with
  | unregistered =>
      have unaddressed := client.unaddressed (by simp [state])
      exact iteInduction (fun _ => join_upward σ unaddressed hdr _) fun _ => .refl σ
  | beaconRequest =>
      have unaddressed := client.unaddressed (by simp [state])
      have cancelled : Emits Event.upward σ (σ.update Ctx.cancelRequest) := .of_out_eq rfl
      exact iteInduction (fun _ => cancelled.trans
        (join_upward (σ.update Ctx.cancelRequest) unaddressed hdr (readUuid buf)))
        fun _ => cancelled
  | registering => exact .refl σ
  | registered => exact iteInduction (fun _ => unicast_upward σ zero _ _ _ _) fun _ => .refl σ

theorem recvType_upward (node : Option NodePtr) (known : node = none ∨ node = some .coord)
    (hdr : Header) (buf : Memory) (size : Nat) :
    Emits Event.upward σ (tinymacRecvType σ node hdr buf size) := by
  have role := client.role
  unfold tinymacRecvType
  refine iteInduction (fun _ => ?_) fun _ => ?_
  · exact iteInduction (fun _ => emit_emits σ trivial) fun _ => .refl σ
  · split
    case h_2 => exact .refl σ
    case h_1 type _ =>
      cases type with
      | beacon =>
          exact iteInduction (fun _ => .refl σ) fun _ => rxBeacon_upward σ client zero hdr buf size
      | ack =>
          rcases known with rfl | rfl
          · exact .refl σ
          · exact rxAck_emits σ .coord coord_kept hdr fun _ _ _ => trivial
      | poll => exact .refl σ
      | beaconRequest =>
          rw [tinymacRecvControl, txBeacon_client σ false role]
          exact .refl σ
      | registrationRequest =>
          simpa [tinymacRecvControl, tinymacRxRegistrationRequest, role] using .refl σ
      | deregistrationRequest =>
          simpa [tinymacRecvControl, tinymacRxDeregistrationRequest, role] using .refl σ
      | registrationResponse =>
          simp only [tinymacRecvControl, tinymacRxRegistrationResponse]
          split_ifs <;> exact .of_out_eq rfl

theorem recv_upward (buf : Memory) (size : Nat) (rssi : Int) :
    Emits Event.upward σ (tinymacRecvCb σ buf size rssi) := by
  have ready : Emits Event.upward σ (tinymacRecvStandby σ (readHeader buf)) :=
    recvStandby_emits σ _ Event.upward_of_standby
  have ctx := recvStandby_ctx σ (readHeader buf)
  unfold tinymacRecvCb
  dsimp only
  refine iteInduction (fun _ => ?_) fun _ => .refl σ
  refine iteInduction (fun _ => ?_) fun _ => ?_
  · rw [ctx]
    cases found : tinymacGetNodeByAddr σ.ctx (readHeader buf).srcAddr with
    | none =>
        rw [tinymacRecvUnknown, ctx, if_neg (by simp [client.role])]
        exact ready
    | some ptr =>
        obtain ⟨rfl, -⟩ := getNodeByAddr_client client.role found
        have heardCtx := heard_ctx client (readHeader buf) rssi
        have heard : Emits Event.upward (tinymacRecvStandby σ (readHeader buf))
            (tinymacRecvKnown (tinymacRecvStandby σ (readHeader buf)) .coord (readHeader buf)
              rssi) :=
          recvKnown_emits _ .coord coord_kept _ rssi Event.upward_of_standby
            (fun _ => .inl ((congrArg (fun ctx : Ctx => ctx.coord.addr) ctx).trans zero))
            (fun _ => trivial) fun _ _ _ => trivial
        refine (ready.trans heard).trans (recvType_upward _ (client.heard_coord rssi heardCtx) ?_
          _ (.inr rfl) _ _ _)
        rw [heardCtx]
        exact zero
  · exact ready.trans (recvType_upward _ (ctx ▸ client) (ctx ▸ zero) none (.inl rfl) _ _ _)

omit zero in
theorem tick_upward : Emits Event.upward σ (tinymacTickHandler σ) := by
  have asked : Emits Event.upward σ σ.solicit := by
    unfold Mac.solicit
    refine iteInduction (fun idle => ?_) fun _ => .refl σ
    have unaddressed : σ.ctx.addr = addrUnassigned := client.unaddressed (by simp [idle])
    have asking : Emits Event.upward σ (σ.update fun ctx => ctx.setState .beaconRequest) :=
      .of_out_eq rfl
    exact (asking.trans (unaddressed_upward (σ.update fun ctx => ctx.setState .beaconRequest)
      unaddressed _ _ _)).trans (.of_out_eq rfl)
  rw [tick_client σ client.role]
  refine Emits.trans ?_ (.of_out_eq (update_out ..))
  refine ((asked.trans ?_).trans (despatchValidity_emits _ .coord coord_kept
    fun _ _ => trivial)).trans (despatchRequest_emits _ trivial)
  exact despatchAck_emits _ .coord coord_kept Event.upward_of_standby (fun _ => trivial)
    (fun _ => trivial) trivial

end Parts

/-- **What a client takes and answers in a step is for its coordinator.** -/
theorem Uplink.step_upward {σ : Mac} (uplink : Uplink σ) (input : Input) :
    Emits Event.upward σ (σ.step input) := by
  cases input with
  | recv buf size rssi => exact recv_upward σ uplink.client uplink.coord buf size rssi
  | tick => exact tick_upward σ uplink.client
  | send dest type buf validity cb =>
      rcases uplink.client.send_cases dest type buf validity cb with same | ⟨-, -, validity', is⟩
      · rw [Mac.step, same]
        exact .refl σ
      · rw [Mac.step, is]
        exact unicast_upward σ uplink.coord type buf validity' cb
  | permitAttach | registerRecvCb | registerRegCb | registerDeregCb => exact .of_out_eq rfl

end TinyHan.Tinymac
