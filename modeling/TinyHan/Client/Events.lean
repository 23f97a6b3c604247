/-
**What a step of a client logs.**

`StepEvent` lists the events a client logs in one step, each with what was known when it was logged,
in terms of the context before the step, and `Client.step_events` says that there are no others. A
frame that is received is answered with an acknowledgement, a poll or a registration request; data
comes from `tinymac_send` alone, and again from the ack timer.
-/

import TinyHan.Client.Ops

namespace TinyHan.Tinymac

open TinyHan.Lib

/-- The control packets of a client. -/
def PacketType.own (type : PacketType) : Prop :=
  type = .beaconRequest ∨ type = .registrationRequest ∨ type = .poll

/-- The events a client logs in one step. -/
inductive StepEvent (ctx : Ctx) (input : Input) : Event → Prop where
  | silent (event : Event) (is : event.silent) : StepEvent ctx input event
  | gone : StepEvent ctx input (.deregCb .coord)
  | called (call : TxCall) : StepEvent ctx input (.txPacket call)
  | completed (packet : Nat) (cb : SendCb) (result : Int) :
      StepEvent ctx input (.sendCb .coord packet cb result)
  | ackFrame (hdr : Header) (asked : hdr.ackRequest = true)
      (heard : ctx.hears input hdr ctx.link) :
      StepEvent ctx input (.phySend none ⟨ctx.ackHeader ctx.coord hdr.seq, []⟩ 0#8)
  | control (id : Nat) (frame : Frame) (type : PacketType) (own : type.own)
      (is : frame.hdr.type = type.code) (source : frame.hdr.srcAddr = ctx.addr) :
      StepEvent ctx input (.phySend (some id) frame 0#8)
  | data (id : Nat) (dest type : BitVec 8) (buf : List Byte) (validity : BitVec 16)
      (cb : Option SendCb) (sends : input = .send dest type buf validity cb)
      (found : tinymacGetNodeByAddr ctx dest = some .coord)
      (raw : typeRawData ≤ type &&& flagsTypeMask.setWidth 8) :
      StepEvent ctx input (.phySend (some id) ⟨ctx.buildHeader (some .coord) type, buf⟩ 0#8)
  | retried (ticks : input = .tick) (armed : ctx.coord.ackTimer.armed = true) :
      StepEvent ctx input (.phySend (some ctx.coord.pendingId)
        ⟨ctx.coord.pendingHeader, ctx.coord.pending⟩ 0#8)

section Parts

variable {ctx : Ctx} {input : Input}

theorem StepEvent.standby (event : Event) (is : event.standby) : StepEvent ctx input event :=
  .silent event (Event.silent_of_standby is)

variable (σ : Mac) (same : σ.ctx.addr = ctx.addr)

include same

theorem control_events (dest : Option NodePtr) {type : PacketType} (own : type.own)
    (buf : List Byte) :
    Emits (StepEvent ctx input) σ (tinymacTxPacket σ dest type.code buf 0#16 none).2 :=
  txPacket_emits σ dest type.code buf 0#16 none .standby
    (fun _ => .control _ _ type own (buildHeader_control ..) same) fun _ _ _ _ _ => .called _

theorem join_events (hdr : Header) (uuid : BitVec 64) :
    Emits (StepEvent ctx input) σ (σ.join hdr uuid) := by
  have bound : Emits (StepEvent ctx input) σ (σ.update fun ctx => ctx.bind hdr uuid) :=
    .of_out_eq rfl
  exact (bound.trans (control_events (σ.update fun ctx => ctx.bind hdr uuid) same _
    (.inr (.inl rfl)) _)).trans (.of_out_eq rfl)

variable (client : σ.ctx.params.coordinator = false)

include client

theorem rxBeacon_events (hdr : Header) (buf : Memory) (size : Nat) :
    Emits (StepEvent ctx input) σ (tinymacRxBeacon σ hdr buf size) := by
  rw [rxBeacon_eq σ client]
  cases σ.ctx.state with
  | unregistered => exact iteInduction (fun _ => join_events σ same hdr _) fun _ => .refl σ
  | beaconRequest =>
      have cancelled : Emits (StepEvent ctx input) σ (σ.update Ctx.cancelRequest) := .of_out_eq rfl
      exact iteInduction (fun _ => cancelled.trans
        (join_events (σ.update Ctx.cancelRequest) same hdr (readUuid buf))) fun _ => cancelled
  | registering => exact .refl σ
  | registered =>
      exact iteInduction (fun _ => control_events σ same _ (.inr (.inr rfl)) _) fun _ => .refl σ

/-- The end of the receive handler. -/
theorem recvType_events (node : Option NodePtr) (known : node = none ∨ node = some .coord)
    (hdr : Header) (buf : Memory) (size : Nat) :
    Emits (StepEvent ctx input) σ (tinymacRecvType σ node hdr buf size) := by
  unfold tinymacRecvType
  split
  · exact iteInduction (fun _ => emit_emits σ (.silent _ trivial)) fun _ => .refl σ
  · split
    case h_2 => exact .refl σ
    case h_1 type _ =>
      cases type with
      | beacon =>
          exact iteInduction (fun _ => .refl σ) fun _ => rxBeacon_events σ same client hdr buf size
      | ack =>
          rcases known with rfl | rfl
          · exact .refl σ
          · exact rxAck_emits σ .coord coord_kept hdr fun cb _ _ => .completed _ cb 0
      | poll => exact .refl σ
      | beaconRequest =>
          rw [tinymacRecvControl, txBeacon_client σ false client]
          exact .refl σ
      | registrationRequest =>
          simpa [tinymacRecvControl, tinymacRxRegistrationRequest, client] using .refl σ
      | deregistrationRequest =>
          simpa [tinymacRecvControl, tinymacRxDeregistrationRequest, client] using .refl σ
      | registrationResponse =>
          simp only [tinymacRecvControl, tinymacRxRegistrationResponse]
          split_ifs <;> exact .of_out_eq rfl

end Parts

section Step

variable {σ : Mac} (client : Client σ.ctx)

include client

theorem recv_events (buf : Memory) (size : Nat) (rssi : Int) :
    Emits (StepEvent σ.ctx (.recv buf size rssi)) σ (tinymacRecvCb σ buf size rssi) := by
  have ready : Emits (StepEvent σ.ctx (.recv buf size rssi)) σ
      (tinymacRecvStandby σ (readHeader buf)) := recvStandby_emits σ _ .standby
  have ctx := recvStandby_ctx σ (readHeader buf)
  unfold tinymacRecvCb
  dsimp only
  split
  case isFalse => exact .refl σ
  case isTrue accepted =>
    split
    case isFalse =>
      exact ready.trans (recvType_events _ (by rw [ctx]) (by rw [ctx]; exact client.role) none
        (.inl rfl) _ _ _)
    case isTrue assigned =>
      rw [ctx] at assigned ⊢
      split
      · next ptr found =>
        obtain ⟨rfl, -⟩ := getNodeByAddr_client client.role found
        have attends : σ.ctx.attends (readHeader buf) size = true := by
          simp [Ctx.attends, accepted, found]
        have heard : Emits (StepEvent σ.ctx (.recv buf size rssi))
            (tinymacRecvStandby σ (readHeader buf))
            (tinymacRecvKnown (tinymacRecvStandby σ (readHeader buf)) .coord (readHeader buf)
              rssi) := by
          refine recvKnown_emits _ .coord coord_kept _ rssi .standby ?_ ?_ ?_
          · rw [ctx]
            exact fun asked => .ackFrame _ asked
              ⟨buf, size, rssi, rfl, rfl, rfl, attends, assigned.1⟩
          · rw [ctx]
            exact fun pending => absurd pending client.coord.state
          · rw [ctx]
            exact fun cb pending => absurd pending client.coord.state
        refine (ready.trans heard).trans (recvType_events _ ?_ ?_ (some .coord) (.inr rfl) _ _ _)
        · rw [recvKnown_ctx, modify_addr, ctx]
        · rw [recvKnown_ctx, modify_params, ctx]
          exact client.role
      · rw [tinymacRecvUnknown, ctx, if_neg (by simp [client.role])]
        exact ready

theorem tick_events : Emits (StepEvent σ.ctx .tick) σ (tinymacTickHandler σ) := by
  have asked : Emits (StepEvent σ.ctx .tick) σ σ.solicit := by
    unfold Mac.solicit
    refine iteInduction (fun _ => ?_) fun _ => .refl σ
    have same : (σ.update fun ctx => ctx.setState .beaconRequest).ctx.addr = σ.ctx.addr := rfl
    have asking : Emits (StepEvent σ.ctx .tick) σ
        (σ.update fun ctx => ctx.setState .beaconRequest) :=
      .of_out_eq rfl
    exact (asking.trans (control_events _ same none (.inl rfl) [])).trans (.of_out_eq rfl)
  have again : Emits (StepEvent σ.ctx .tick) σ.solicit
      (tinymacDespatchTimer σ.solicit (.ack .coord)) := by
    refine despatchAck_emits _ .coord coord_kept .standby (fun armed => ?_)
      (fun cb => .completed _ cb (-1)) .gone
    have record : σ.solicit.ctx.node .coord = σ.ctx.coord := (solicit_coord σ).1
    rw [record] at armed ⊢
    exact .retried rfl armed
  rw [tick_client σ client.role]
  refine Emits.trans ?_ (.of_out_eq (update_out ..))
  exact ((asked.trans again).trans (despatchValidity_emits _ .coord coord_kept
    fun cb _ => .completed _ cb (-1))).trans (despatchRequest_emits _ .gone)

theorem send_events (dest type : BitVec 8) (buf : List Byte) (validity : BitVec 16)
    (cb : Option SendCb) :
    Emits (StepEvent σ.ctx (.send dest type buf validity cb)) σ
      (tinymacSend σ dest type buf validity cb).2 := by
  rcases client.send_cases dest type buf validity cb with same | ⟨raw, found, validity', is⟩
  · rw [same]
    exact .refl σ
  · rw [is]
    exact txPacket_emits σ _ type buf validity' cb .standby
      (fun _ => .data _ dest type buf validity cb rfl found raw) fun _ _ _ _ _ => .called _

/-- **Every event a client logs in a step is one of `StepEvent`.** -/
theorem Client.step_events (input : Input) : Emits (StepEvent σ.ctx input) σ (σ.step input) := by
  cases input with
  | recv buf size rssi => exact recv_events client buf size rssi
  | tick => exact tick_events client
  | send dest type buf validity cb => exact send_events client dest type buf validity cb
  | permitAttach | registerRecvCb | registerRegCb | registerDeregCb => exact .of_out_eq rfl

end Step

end TinyHan.Tinymac
