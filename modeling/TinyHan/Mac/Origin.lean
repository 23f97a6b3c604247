/-
**Where data comes from, and where it goes.**

A context makes its acknowledgements, beacons and control packets itself. It takes data from
`tinymac_send` alone, hands data to the application for a frame that it has accepted, and does
nothing else with data but to send it again; and it acknowledges no frame but the one it handles.
`Origin` says so of the events of one step of either role, in terms of the context before it
(`step_origin`). Over a run, every data frame of a context is a packet that its application handed
to `tinymac_send`, with the addresses the context had at that time (`frame_call`).
-/

import TinyHan.Mac.Retransmission

namespace TinyHan.Tinymac

open TinyHan.Lib

/-- The type is neither one of data nor that of an acknowledgement. -/
def chore (type : BitVec 8) : Prop := ¬ typeRawData ≤ type ∧ type ≠ PacketType.ack.code

/-- The event hands no data on, takes none from the application and acknowledges nothing. -/
def Event.routine : Event → Prop
  | .rxCb _ _ _ => False
  | .txPacket call => chore call.hdr.type
  | .phySend none frame _ => chore frame.hdr.type ∧ frame.hdr.ackRequest = false
  | _ => True

theorem chore_control {type : PacketType} (other : type ≠ .ack) : chore type.code := by
  refine ⟨rawData_not_control type, fun same => other ?_⟩
  cases type <;> first | rfl | exact absurd same (by decide)

/-- The call is the one that `tinymac_send` makes for an input. -/
structure TxCall.Asked (call : TxCall) (ctx : Ctx) (input : Input) (dest type : BitVec 8)
    (ptr : NodePtr) : Prop where
  sends : ∃ validity, input = .send dest type call.payload validity call.cb
  found : tinymacGetNodeByAddr ctx dest = some ptr
  raw : typeRawData ≤ type &&& flagsTypeMask.setWidth 8
  record : call.dest = some ptr
  hdr : call.hdr = ctx.buildHeader (some ptr) type

/-- The record an upcall names: that of the source, or none if a side has no address. -/
def Ctx.Names (ctx : Ctx) (hdr : Header) : Option NodePtr → Prop
  | none => ctx.addr = addrUnassigned ∨ hdr.srcAddr = addrUnassigned
  | some ptr => tinymacGetNodeByAddr ctx hdr.srcAddr = some ptr

/-- What a step of a context does with data, and what it acknowledges. -/
inductive Origin (ctx : Ctx) (input : Input) : Event → Prop where
  | routine (event : Event) (is : event.routine) : Origin ctx input event
  | asked (call : TxCall) (dest type : BitVec 8) (ptr : NodePtr)
      (is : call.Asked ctx input dest type ptr) : Origin ctx input (.txPacket call)
  | upcall (buf : Memory) (size : Nat) (rssi : Int) (node : Option NodePtr)
      (hears : input = .recv buf size rssi)
      (accepts : ctx.accepts (readHeader buf) size = true)
      (raw : typeRawData ≤ (readHeader buf).type) (names : ctx.Names (readHeader buf) node) :
      Origin ctx input (.rxCb node ((readHeader buf).type &&& flagsTypeMask.setWidth 8)
        (window buf headerSize (size - headerSize)))
  | answer (buf : Memory) (size : Nat) (rssi : Int) (ptr : NodePtr)
      (hears : input = .recv buf size rssi)
      (accepts : ctx.accepts (readHeader buf) size = true)
      (assigned : ctx.addr ≠ addrUnassigned ∧ (readHeader buf).srcAddr ≠ addrUnassigned)
      (found : tinymacGetNodeByAddr ctx (readHeader buf).srcAddr = some ptr)
      (asks : (readHeader buf).ackRequest = true) :
      Origin ctx input (.phySend none ⟨ctx.ackHeader (ctx.node ptr) (readHeader buf).seq, []⟩ 0#8)

namespace TxCall.Asked

variable {call : TxCall} {ctx : Ctx} {input : Input} {dest type : BitVec 8} {ptr : NodePtr}
  (asked : call.Asked ctx input dest type ptr)

include asked

theorem destAddr : call.hdr.destAddr = dest := by
  rw [asked.hdr]
  exact (getNodeByAddr_sound asked.found).2.2

theorem srcAddr : call.hdr.srcAddr = ctx.addr := by
  rw [asked.hdr]
  rfl

theorem hdr_type : call.hdr.type = type &&& flagsTypeMask.setWidth 8 := by
  rw [asked.hdr, buildHeader_type]

end TxCall.Asked

theorem Event.routine_of_standby (event : Event) (standby : event.standby) : event.routine := by
  cases event <;> first | exact standby.elim | trivial

/-! ### Routine -/

section Routine

variable (σ : Mac)

theorem control_routine (dest : Option NodePtr) {type : PacketType} (other : type ≠ .ack)
    (buf : List Byte) :
    Emits Event.routine σ (tinymacTxPacket σ dest type.code buf 0#16 none).2 := by
  refine txPacket_emits σ dest type.code buf 0#16 none Event.routine_of_standby
    (fun _ => trivial) fun _ _ _ _ _ => ?_
  show chore (σ.ctx.buildHeader dest type.code).type
  rw [buildHeader_control]
  exact chore_control other

theorem txBeacon_routine (periodic : Bool) :
    Emits Event.routine σ (tinymacTxBeacon σ periodic) := by
  refine txBeacon_emits σ periodic Event.routine_of_standby fun _ => ⟨?_, ?_⟩
  · rw [beaconHeader_type]
    exact chore_control (by decide)
  · simp only [Header.ackRequest, Ctx.beaconHeader]
    decide

theorem rxBeacon_routine (hdr : Header) (buf : Memory) (size : Nat) :
    Emits Event.routine σ (tinymacRxBeacon σ hdr buf size) := by
  unfold tinymacRxBeacon
  refine iteInduction (fun _ => .refl σ) fun _ => ?_
  dsimp only
  have cancelled : Emits Event.routine σ
      (if σ.ctx.state = .beaconRequest then σ.update Ctx.cancelRequest else σ) := by
    split <;> exact .of_out_eq rfl
  generalize (if σ.ctx.state = .beaconRequest then σ.update Ctx.cancelRequest else σ) = τ
    at cancelled ⊢
  have joined (uuid : BitVec 64) (attach : List Byte) : Emits Event.routine σ
      ((tinymacTxPacket (τ.update fun ctx => ctx.bind hdr uuid) (some .coord)
        PacketType.registrationRequest.code attach 0#16 none).2.update
          fun ctx => ctx.armRequest (millis registrationTimeout)) := by
    have bound : Emits Event.routine τ (τ.update fun ctx => ctx.bind hdr uuid) := .of_out_eq rfl
    exact ((cancelled.trans bound).trans (control_routine _ _ (by decide) _)).trans (.of_out_eq rfl)
  cases τ.ctx.state with
  | unregistered => exact iteInduction (fun _ => joined _ _) fun _ => cancelled
  | beaconRequest => exact iteInduction (fun _ => joined _ _) fun _ => cancelled
  | registering => exact cancelled
  | registered =>
      exact iteInduction (fun _ => cancelled.trans (control_routine _ _ (by decide) _))
        fun _ => cancelled

theorem rxRegistrationRequest_routine (buf : Memory) :
    Emits Event.routine σ (tinymacRxRegistrationRequest σ buf) := by
  have announced (τ : Mac) (written : τ.out = σ.out) (resp : List Byte) (ptr : Option NodePtr) :
      let answered := (tinymacTxPacket τ none PacketType.registrationResponse.code resp 0#16 none).2
      Emits Event.routine σ
        (if answered.ctx.regCb then answered.emit (.regCb ptr) else answered) := by
    intro answered
    have sent : Emits Event.routine σ answered :=
      Emits.trans (.of_out_eq written) (control_routine τ _ (by decide) _)
    exact iteInduction (fun _ => sent.emit trivial) fun _ => sent
  unfold tinymacRxRegistrationRequest
  refine iteInduction (fun _ => .refl σ) fun _ => ?_
  dsimp only
  cases σ.ctx.registrationSlot (readRegistrationRequest buf).uuid with
  | none => exact announced σ rfl _ _
  | some index =>
      exact announced (σ.modify (.slot index) fun node =>
        node.register (readRegistrationRequest buf) σ.ctx.tickCount) rfl _ _

theorem rxDeregistrationRequest_routine (hdr : Header) (buf : Memory) :
    Emits Event.routine σ (tinymacRxDeregistrationRequest σ hdr buf) := by
  unfold tinymacRxDeregistrationRequest
  refine iteInduction (fun _ => .refl σ) fun _ => ?_
  dsimp only
  cases tinymacGetNodeByAddr σ.ctx hdr.srcAddr with
  | none => exact .refl σ
  | some ptr =>
      refine iteInduction (fun _ => .refl σ) fun _ => ?_
      exact (control_routine σ _ (by decide) _).trans (deregister_emits _ ptr trivial)

/-- No control packet makes a context hand data on. -/
theorem recvControl_routine (type : PacketType) (node : Option NodePtr) (hdr : Header)
    (buf : Memory) (size : Nat) :
    Emits Event.routine σ (tinymacRecvControl σ type node hdr buf size) := by
  unfold tinymacRecvControl
  cases type with
  | beacon => exact iteInduction (fun _ => .refl σ) fun _ => rxBeacon_routine σ hdr buf size
  | ack =>
      cases node with
      | none => exact .refl σ
      | some ptr =>
          refine iteInduction (fun _ => ?_) fun _ => .refl σ
          exact Emits.trans (.of_out_eq (mac_modify_out ..))
            (invokeSendCb_emits _ ptr _ fun _ _ => trivial)
  | poll => exact .refl σ
  | beaconRequest => exact txBeacon_routine σ false
  | registrationRequest =>
      exact iteInduction (fun _ => .refl σ) fun _ => rxRegistrationRequest_routine σ buf
  | deregistrationRequest =>
      exact iteInduction (fun _ => .refl σ) fun _ => rxDeregistrationRequest_routine σ hdr buf
  | registrationResponse =>
      refine iteInduction (fun _ => .refl σ) fun _ => ?_
      unfold tinymacRxRegistrationResponse
      dsimp only
      split_ifs <;> exact .of_out_eq rfl

theorem recvUnknown_routine (hdr : Header) :
    Emits Event.routine σ (tinymacRecvUnknown σ hdr) :=
  iteInduction (fun _ => control_routine σ _ (by decide) _) fun _ => .refl σ

/-- The timers of a record. -/
theorem despatch_routine {ptr : NodePtr} (kept : ∀ node, ptr ≠ .temp node) :
    Emits Event.routine σ
      (tinymacDespatchTimer (tinymacDespatchTimer σ (.ack ptr)) (.validity ptr)) :=
  (despatchAck_emits σ ptr kept Event.routine_of_standby (fun _ => trivial) (fun _ => trivial)
    trivial).trans (despatchValidity_emits _ ptr kept fun _ _ => trivial)

theorem tickCoordinator_routine : Emits Event.routine σ (tickCoordinator σ) := by
  have scanned (rest : List Slot) (τ : Mac) : Emits Event.routine τ (rest.foldl tickSlot τ) := by
    induction rest generalizing τ with
    | nil => exact .refl τ
    | cons index rest ih =>
        exact (tickSlot_emits τ index Event.routine_of_standby (fun _ => trivial)
          (fun _ _ => trivial) trivial).trans (ih _)
  have slotted : Emits Event.routine σ (σ.update Ctx.nextSlot) := .of_out_eq rfl
  unfold tickCoordinator
  dsimp only
  refine Emits.trans ?_ (scanned slots _)
  exact iteInduction (fun _ => slotted.trans (txBeacon_routine _ true)) fun _ => slotted

theorem tickClient_routine : Emits Event.routine σ (tickClient σ) := by
  have sought : Emits Event.routine σ (σ.update fun ctx => ctx.setState .beaconRequest) :=
    .of_out_eq rfl
  unfold tickClient
  dsimp only
  refine Emits.trans ?_ ((despatch_routine _ coord_kept).trans (despatchRequest_emits _ trivial))
  refine iteInduction (fun _ => ?_) fun _ => .refl σ
  exact (sought.trans (control_routine _ _ (by decide) _)).trans (.of_out_eq rfl)

theorem tick_routine : Emits Event.routine σ (tinymacTickHandler σ) := by
  unfold tinymacTickHandler
  dsimp only
  refine Emits.trans ?_ (.of_out_eq (update_out ..))
  exact iteInduction (fun _ => tickCoordinator_routine σ) fun _ => tickClient_routine σ

end Routine

/-! ### Steps -/

section Step

variable (σ : Mac)

theorem recvType_origin {ctx : Ctx} {input : Input} (node : Option NodePtr) (buf : Memory)
    (size : Nat)
    (upcall : typeRawData ≤ (readHeader buf).type → Origin ctx input
      (.rxCb node ((readHeader buf).type &&& flagsTypeMask.setWidth 8)
        (window buf headerSize (size - headerSize)))) :
    Emits (Origin ctx input) σ (tinymacRecvType σ node (readHeader buf) buf size) := by
  unfold tinymacRecvType
  refine iteInduction (fun raw => ?_) fun _ => ?_
  · exact iteInduction (fun _ => emit_emits σ (upcall raw)) fun _ => .refl σ
  · split
    · exact (recvControl_routine σ _ node _ buf size).mono .routine
    · exact .refl σ

theorem recv_origin (buf : Memory) (size : Nat) (rssi : Int) :
    Emits (Origin σ.ctx (.recv buf size rssi)) σ (tinymacRecvCb σ buf size rssi) := by
  have standby : Emits (Origin σ.ctx (.recv buf size rssi)) σ
      (tinymacRecvStandby σ (readHeader buf)) :=
    (recvStandby_emits σ _ Event.routine_of_standby).mono .routine
  unfold tinymacRecvCb
  dsimp only
  refine iteInduction (fun accepts => ?_) fun _ => .refl σ
  rw [recvStandby_ctx]
  refine iteInduction (fun assigned => ?_) fun unassigned => ?_
  · cases found : tinymacGetNodeByAddr σ.ctx (readHeader buf).srcAddr with
    | none => exact standby.trans ((recvUnknown_routine _ _).mono .routine)
    | some ptr =>
        have kept := (getNodeByAddr_sound found).1.kept
        have known : Emits (Origin σ.ctx (.recv buf size rssi))
            (tinymacRecvStandby σ (readHeader buf))
            (tinymacRecvKnown (tinymacRecvStandby σ (readHeader buf)) ptr (readHeader buf)
              rssi) := by
          refine recvKnown_emits _ ptr kept _ rssi
            (fun event standby => .routine event (Event.routine_of_standby event standby))
            (fun asks => ?_) (fun _ => .routine _ trivial) fun _ _ _ => .routine _ trivial
          rw [recvStandby_ctx]
          exact .answer buf size rssi ptr rfl accepts assigned found asks
        refine (standby.trans known).trans (recvType_origin _ _ buf size fun raw => ?_)
        exact .upcall buf size rssi (some ptr) rfl accepts raw found
  · refine standby.trans (recvType_origin _ _ buf size fun raw => ?_)
    refine .upcall buf size rssi none rfl accepts raw ?_
    show σ.ctx.addr = addrUnassigned ∨ (readHeader buf).srcAddr = addrUnassigned
    tauto

theorem send_origin (dest type : BitVec 8) (buf : List Byte) (validity : BitVec 16)
    (cb : Option SendCb) :
    Emits (Origin σ.ctx (.send dest type buf validity cb)) σ
      (tinymacSend σ dest type buf validity cb).2 := by
  unfold tinymacSend
  split
  · exact .refl σ
  · next raw =>
    cases found : tinymacGetNodeByAddr σ.ctx dest with
    | none => exact .refl σ
    | some ptr =>
        refine txPacket_emits σ _ type buf _ cb
          (fun event standby => .routine event (Event.routine_of_standby event standby))
          (fun _ => .routine _ trivial) fun _ _ _ _ _ => ?_
        exact .asked _ dest type ptr ⟨⟨validity, rfl⟩, found, BitVec.not_lt.mp raw, rfl, rfl⟩

/-- **What a step does with data**, in either role. -/
theorem step_origin (input : Input) : Emits (Origin σ.ctx input) σ (σ.step input) := by
  cases input with
  | recv buf size rssi => exact recv_origin σ buf size rssi
  | tick => exact (tick_routine σ).mono .routine
  | send dest type buf validity cb => exact send_origin σ dest type buf validity cb
  | permitAttach | registerRecvCb | registerRegCb | registerDeregCb => exact .of_out_eq rfl

variable {σ}

/-- An upcall for a frame hands on the payload of the frame. -/
theorem Origin.of_frame {ctx : Ctx} {frame : Frame} {rssi : Int} {node : Option NodePtr}
    {type : BitVec 8} {payload : List Byte}
    (upcall : Origin ctx (.frame frame rssi) (.rxCb node type payload)) :
    ctx.accepts frame.hdr frame.bytes.length = true ∧ typeRawData ≤ frame.hdr.type ∧
      ctx.Names frame.hdr node ∧ type = frame.hdr.type ∧ payload = frame.payload := by
  cases upcall with
  | routine _ is => exact is.elim
  | upcall buf size rssi _ hears accepts raw names =>
      cases hears
      rw [readHeader_frame] at accepts raw names ⊢
      refine ⟨accepts, raw, names, Header.type_mask _, ?_⟩
      rw [Frame.bytes_length, Nat.add_sub_cancel_left, window_frame_payload]

/-- Only frames make a context hand data on. -/
theorem Origin.heard {ctx : Ctx} {input : Input} {node : Option NodePtr} {type : BitVec 8}
    {payload : List Byte} (upcall : Origin ctx input (.rxCb node type payload)) :
    ∃ buf size rssi, input = .recv buf size rssi := by
  cases upcall with
  | routine _ is => exact is.elim
  | upcall buf size rssi _ hears => exact ⟨buf, size, rssi, hears⟩

/-- **An acknowledgement answers the frame that the step handles**, which asks for it and comes from
the node of a record. -/
theorem Origin.of_ack {ctx : Ctx} {input : Input} {frame : Frame} {flags : BitVec 8}
    (sent : Origin ctx input (.phySend none frame flags))
    (ack : frame.hdr.type = PacketType.ack.code) :
    ∃ buf size rssi ptr, input = .recv buf size rssi ∧
      ctx.accepts (readHeader buf) size = true ∧
      (ctx.addr ≠ addrUnassigned ∧ (readHeader buf).srcAddr ≠ addrUnassigned) ∧
      tinymacGetNodeByAddr ctx (readHeader buf).srcAddr = some ptr ∧
      (readHeader buf).ackRequest = true ∧
      frame.hdr = ctx.ackHeader (ctx.node ptr) (readHeader buf).seq := by
  cases sent with
  | routine _ is => exact absurd ack is.1.2
  | answer buf size rssi ptr hears accepts assigned found asks =>
      exact ⟨buf, size, rssi, ptr, hears, accepts, assigned, found, asks, rfl⟩

/-- Data from the node of a record is handed to the application in the step that handles it. -/
theorem recv_upcalls {buf : Memory} {size : Nat} {ptr : NodePtr} (rssi : Int)
    (accepts : σ.ctx.accepts (readHeader buf) size = true)
    (assigned : σ.ctx.addr ≠ addrUnassigned ∧ (readHeader buf).srcAddr ≠ addrUnassigned)
    (found : tinymacGetNodeByAddr σ.ctx (readHeader buf).srcAddr = some ptr)
    (raw : typeRawData ≤ (readHeader buf).type) (upcall : σ.ctx.rxCb = true) :
    .rxCb (some ptr) ((readHeader buf).type &&& flagsTypeMask.setWidth 8)
        (window buf headerSize (size - headerSize)) ∈
      (tinymacRecvCb σ buf size rssi).out.drop σ.out.length := by
  have kept := (getNodeByAddr_sound found).1.kept
  have grown : Emits (fun _ => True) σ
      (tinymacRecvKnown (tinymacRecvStandby σ (readHeader buf)) ptr (readHeader buf) rssi) :=
    (recvStandby_emits σ _ fun _ _ => trivial).trans (recvKnown_emits _ ptr kept _ rssi
      (fun _ _ => trivial) (fun _ => trivial) (fun _ => trivial) fun _ _ _ => trivial)
  obtain ⟨new, out, -⟩ := grown
  unfold tinymacRecvCb
  dsimp only
  rw [if_pos accepts, recvStandby_ctx, if_pos assigned, found]
  dsimp only
  rw [tinymacRecvType, if_pos raw, recvKnown_ctx, modify_rxCb, recvStandby_ctx, if_pos upcall,
    emit_out, out, List.append_assoc, List.drop_left]
  exact List.mem_append_right _ (List.mem_singleton_self _)

/-- A data packet that a step takes is one that it was asked to send. -/
theorem step_asked {input : Input} {call : TxCall} (logged : .txPacket call ∈ (σ.step input).out)
    (raw : typeRawData ≤ call.hdr.type) :
    .txPacket call ∈ σ.out ∨ ∃ dest type ptr, call.Asked σ.ctx input dest type ptr := by
  refine ((step_origin σ input).mem logged).imp_right fun new => ?_
  cases new with
  | routine _ is => exact absurd raw is.1
  | asked _ dest type ptr is => exact ⟨dest, type, ptr, is⟩

end Step

/-! ### Runs -/

section Run

variable (boot : Boot)

/-- `tinymac_init` logs nothing but the listening of the receiver. -/
theorem start_logs {event : Event} (logged : event ∈ boot.start.out) : event = .phyListen := by
  rw [start_out] at logged
  split at logged
  · cases logged
  · exact List.mem_singleton.mp logged

/-- What a context sends beside the packets of `tinymac_tx_packet` is no data, and asks for
nothing. -/
theorem reachable_aside (inputs : List Input) {frame : Frame} {flags : BitVec 8}
    (sent : .phySend none frame flags ∈ (boot.start.run inputs).out) :
    ¬ typeRawData ≤ frame.hdr.type ∧ frame.hdr.ackRequest = false := by
  induction inputs using List.reverseRecOn with
  | nil => cases start_logs boot sent
  | append_singleton inputs input ih =>
      rw [run_append] at sent
      rcases (step_origin (boot.start.run inputs) input).mem sent with old | new
      · exact ih old
      · cases new with
        | routine _ is => exact ⟨is.1.1, is.2⟩
        | answer =>
            rw [ackHeader_type]
            exact ⟨rawData_not_control .ack, ackHeader_ackRequest _ _ _⟩

/-- The frame of a packet is the one that `tinymac_tx_packet` has built. -/
theorem packet_call (inputs : List Input) {id : Nat} {frame : Frame} {flags : BitVec 8}
    (sent : .phySend (some id) frame flags ∈ (boot.start.run inputs).out) :
    ∃ call, .txPacket call ∈ (boot.start.run inputs).out ∧ call.accepted = true ∧ call.id = id ∧
      frame = ⟨call.hdr, call.payload⟩ :=
  call_of_taken ((reachable_courier boot inputs).faithful (id, frame)
    (List.mem_filterMap.mpr ⟨_, sent, rfl⟩))

/-- No packet has the type of an acknowledgement. -/
theorem call_not_ack (inputs : List Input) {call : TxCall}
    (logged : .txPacket call ∈ (boot.start.run inputs).out) :
    call.hdr.type ≠ PacketType.ack.code := by
  induction inputs using List.reverseRecOn with
  | nil => cases start_logs boot logged
  | append_singleton inputs input ih =>
      rw [run_append] at logged
      rcases (step_origin (boot.start.run inputs) input).mem logged with old | new
      · exact ih old
      · cases new with
        | routine _ is => exact is.2
        | asked _ dest type ptr asked =>
            intro same
            rw [asked.hdr_type] at same
            exact rawData_not_control .ack (same ▸ asked.raw)

/-- **A data frame is a packet** that `tinymac_tx_packet` has accepted. -/
theorem frame_call (inputs : List Input) {packet : Option Nat} {frame : Frame} {flags : BitVec 8}
    (sent : .phySend packet frame flags ∈ (boot.start.run inputs).out)
    (raw : typeRawData ≤ frame.hdr.type) :
    ∃ call, .txPacket call ∈ (boot.start.run inputs).out ∧ call.accepted = true ∧
      packet = some call.id ∧ frame = ⟨call.hdr, call.payload⟩ := by
  cases packet with
  | none => exact absurd raw (reachable_aside boot inputs sent).1
  | some id =>
      obtain ⟨call, logged, accepted, rfl, is⟩ := packet_call boot inputs sent
      exact ⟨call, logged, accepted, rfl, is⟩

/-- The inputs contain the call of `tinymac_send` that a packet comes from. -/
def Boot.Demands (inputs : List Input) (call : TxCall) : Prop :=
  ∃ before input after dest type ptr, inputs = before ++ input :: after ∧
    call.Asked (boot.start.run before).ctx input dest type ptr

theorem call_demanded (inputs : List Input) {call : TxCall}
    (logged : .txPacket call ∈ (boot.start.run inputs).out)
    (raw : typeRawData ≤ call.hdr.type) : boot.Demands inputs call := by
  induction inputs using List.reverseRecOn with
  | nil => cases start_logs boot logged
  | append_singleton inputs input ih =>
      rw [run_append] at logged
      rcases step_asked logged raw with old | ⟨dest, type, ptr, asked⟩
      · obtain ⟨before, earlier, after, dest, type, ptr, rfl, asked⟩ := ih old
        exact ⟨before, earlier, after ++ [input], dest, type, ptr, by simp, asked⟩
      · exact ⟨inputs, input, [], dest, type, ptr, rfl, asked⟩

/-- **Data on the air is data of the application.** Whatever a context of either role has heard, a
data frame that it puts on the air carries the bytes of an earlier call of `tinymac_send`, and its
header is the one built for the record that had the destination address at the time of the call. -/
theorem data_from_application (inputs : List Input) {packet : Option Nat} {frame : Frame}
    {flags : BitVec 8} (sent : .phySend packet frame flags ∈ (boot.start.run inputs).out)
    (raw : typeRawData ≤ frame.hdr.type) :
    ∃ before dest type validity cb after ptr,
      inputs = before ++ .send dest type frame.payload validity cb :: after ∧
        tinymacGetNodeByAddr (boot.start.run before).ctx dest = some ptr ∧
        frame.hdr = (boot.start.run before).ctx.buildHeader (some ptr) type := by
  obtain ⟨call, logged, -, -, rfl⟩ := frame_call boot inputs sent raw
  obtain ⟨before, _, after, dest, type, ptr, rfl, asked⟩ := call_demanded boot inputs logged raw
  obtain ⟨validity, rfl⟩ := asked.sends
  exact ⟨before, dest, type, validity, call.cb, after, ptr, rfl, asked.found, asked.hdr⟩

end Run

/-- A client registers, is sent a byte of the application, and the acknowledgement does not come. -/
theorem data_from_application_retry :
    let boot := Boot.coordinatorOn 0x2A#8
    let inputs : List Input := [.permitAttach true,
      .frame (registrationRequestFrame 0x2A#8 1#8 ⟨1#64, 0#16⟩) 0,
      .send 1#8 0x50#8 [5#8] 0#16 none] ++ List.replicate 2 .tick
    let frame : Frame := ⟨⟨headerFlags 0x50#8, 0x2A#8, 1#8, 0#8, 0x2C#8⟩, [5#8]⟩
    (boot.start.run inputs).out.count (.phySend (some 2) frame 0#8) = 2 ∧
      ∃ before dest type validity cb after ptr,
        inputs = before ++ .send dest type frame.payload validity cb :: after ∧
          tinymacGetNodeByAddr (boot.start.run before).ctx dest = some ptr ∧
          frame.hdr = (boot.start.run before).ctx.buildHeader (some ptr) type := by
  intro boot inputs frame
  have twice : (boot.start.run inputs).out.count (.phySend (some 2) frame 0#8) = 2 := by
    decide +kernel
  have sent : .phySend (some 2) frame 0#8 ∈ (boot.start.run inputs).out :=
    List.count_pos_iff.mp (by rw [twice]; exact Nat.succ_pos 1)
  exact ⟨twice, data_from_application boot inputs sent (by decide)⟩

end TinyHan.Tinymac
