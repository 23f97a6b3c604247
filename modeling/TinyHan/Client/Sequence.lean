/-
**The sequence numbers of a client.**

A client numbers its packets as a coordinator does, and has one record that holds those that ask for
an acknowledgement. `Accounts` says what a step of a client logs of its packets: at most one is
built, with the next number, and a success is reported for nothing but an acknowledgement that names
the packet the record waits for.

`Tallied` is what follows for every run. As for a coordinator, an acknowledgement that comes before
256 more numbers are taken is taken for the packet that provoked it and for no other
(`Tallied.step_reports`).
-/

import TinyHan.Client.Events
import TinyHan.Coordinator.Sequence
import TinyHan.Mac.Origin

namespace TinyHan.Tinymac

open TinyHan.Lib

/-! ### What a step logs of the packets -/

/-- The event takes no packet, and reports no success. -/
def Event.plain : Event → Prop
  | .txPacket _ => False
  | .sendCb _ _ _ result => result ≠ 0
  | _ => True

/-- What a client logs of its packets in a step from `σ` to `τ`. -/
inductive Accounts (σ τ : Mac) (input : Input) : Event → Prop where
  | plain (event : Event) (is : event.plain) : Accounts σ τ input event
  | called (call : TxCall) (id : call.id = σ.built + 1) (seq : call.hdr.seq = σ.ctx.dseq + 1#8)
      (held : call.accepted = true → call.hdr.ackRequest = true →
        call.id ≤ τ.ctx.coord.pendingId) : Accounts σ τ input (.txPacket call)
  | acked (buf : Memory) (size : Nat) (rssi : Int) (cb : SendCb)
      (hears : input = .recv buf size rssi)
      (accepts : σ.ctx.accepts (readHeader buf) size = true)
      (type : (readHeader buf).type = PacketType.ack.code)
      (same : (readHeader buf).seq = σ.ctx.coord.pendingHeader.seq) :
      Accounts σ τ input (.sendCb .coord σ.ctx.coord.pendingId cb 0)

theorem Event.plain_of_standby {event : Event} (standby : event.standby) : event.plain := by
  cases event <;> first | exact standby.elim | trivial

/-- A part of the step from `σ` to `τ`, from `υ` to `ω`: it logs what the step may log, and at most
one packet has been built when it is done. -/
structure Adds (σ τ : Mac) (input : Input) (υ ω : Mac) : Prop where
  emits : Emits (Accounts σ τ input) υ ω
  counts : Counts σ ω

section Parts

variable {σ τ υ ω : Mac} {input : Input}

theorem Accounts.standby (event : Event) (is : event.standby) : Accounts σ τ input event :=
  .plain event (Event.plain_of_standby is)

/-- No packet has been built yet. -/
structure Uncounted (σ υ : Mac) : Prop where
  built : υ.built = σ.built
  dseq : υ.ctx.dseq = σ.ctx.dseq

theorem Uncounted.stay (uncounted : Uncounted σ υ) : Adds σ τ input υ υ :=
  ⟨.refl υ, .inl ⟨uncounted.built, uncounted.dseq⟩⟩

theorem Uncounted.quiet (uncounted : Uncounted σ ω) (same : ω.out = υ.out) :
    Adds σ τ input υ ω :=
  ⟨.of_out_eq same, .inl ⟨uncounted.built, uncounted.dseq⟩⟩

/-- A control packet takes the next number, and asks for nothing. -/
theorem Uncounted.control (uncounted : Uncounted σ υ) (dest : Option NodePtr) (type : PacketType)
    (buf : List Byte) : Adds σ τ input υ (tinymacTxPacket υ dest type.code buf 0#16 none).2 where
  emits := by
    refine txPacket_emits υ dest type.code buf 0#16 none .standby (fun _ => .plain _ trivial) ?_
    intro _ flags accepted rc _
    refine .called _ (congrArg (· + 1) uncounted.built) (congrArg (· + 1#8) uncounted.dseq) ?_
    intro _ asks
    rw [buildHeader_ackRequest, ackRequested_control] at asks
    cases asks
  counts := by
    have counts := txPacket_counts υ dest type.code buf 0#16 none
    rwa [Counts, uncounted.built, uncounted.dseq] at counts

theorem Adds.update (adds : Adds σ τ input υ ω) (change : Ctx → Ctx)
    (same : (change ω.ctx).dseq = ω.ctx.dseq) : Adds σ τ input υ (ω.update change) where
  emits := adds.emits.trans (.of_out_eq rfl)
  counts := by
    rw [Counts, update_built, update_ctx, same]
    exact adds.counts

theorem Adds.after {before : Mac} (adds : Adds σ τ input υ ω)
    (emits : Emits (Accounts σ τ input) before υ) : Adds σ τ input before ω :=
  ⟨emits.trans adds.emits, adds.counts⟩

theorem Uncounted.join (uncounted : Uncounted σ υ) (hdr : Header) (uuid : BitVec 64) :
    Adds σ τ input υ (υ.join hdr uuid) := by
  have bound : Uncounted σ (υ.update fun ctx => ctx.bind hdr uuid) :=
    ⟨uncounted.built, uncounted.dseq⟩
  have quiet : Emits (Accounts σ τ input) υ (υ.update fun ctx => ctx.bind hdr uuid) :=
    .of_out_eq rfl
  exact ((bound.control (some .coord) .registrationRequest _).after quiet).update
    (fun ctx => ctx.armRequest (millis registrationTimeout)) rfl

variable (client : υ.ctx.params.coordinator = false)

include client

theorem Uncounted.rxBeacon (uncounted : Uncounted σ υ) (hdr : Header) (buf : Memory)
    (size : Nat) : Adds σ τ input υ (tinymacRxBeacon υ hdr buf size) := by
  have cancelled : Uncounted σ (υ.update Ctx.cancelRequest) := ⟨uncounted.built, uncounted.dseq⟩
  have quiet : Emits (Accounts σ τ input) υ (υ.update Ctx.cancelRequest) := .of_out_eq rfl
  rw [rxBeacon_eq υ client]
  cases υ.ctx.state with
  | unregistered => exact iteInduction (fun _ => uncounted.join hdr _) fun _ => uncounted.stay
  | beaconRequest =>
      exact iteInduction (fun _ => (cancelled.join hdr _).after quiet) fun _ => cancelled.quiet rfl
  | registering => exact uncounted.stay
  | registered =>
      exact iteInduction (fun _ => uncounted.control (some .coord) .poll []) fun _ => uncounted.stay

/-- The end of the receive handler. -/
theorem Uncounted.recvType (uncounted : Uncounted σ υ) (node : Option NodePtr) (hdr : Header)
    (buf : Memory) (size : Nat)
    (acked : ∀ ptr cb, node = some ptr → hdr.type = PacketType.ack.code →
      hdr.seq = (υ.ctx.node ptr).pendingHeader.seq →
      Accounts σ τ input (.sendCb ptr (υ.ctx.node ptr).pendingId cb 0))
    (kept : ∀ ptr temp, node = some ptr → ptr ≠ .temp temp) :
    Adds σ τ input υ (tinymacRecvType υ node hdr buf size) := by
  by_cases raw : typeRawData ≤ hdr.type
  · rw [tinymacRecvType, if_pos raw]
    refine iteInduction (fun _ => ⟨emit_emits υ (.plain _ trivial), ?_⟩) fun _ => uncounted.stay
    exact .inl ⟨uncounted.built, uncounted.dseq⟩
  · cases known : PacketType.ofCode hdr.type with
    | none =>
        rw [tinymacRecvType, if_neg raw, known]
        exact uncounted.stay
    | some type =>
        have code : hdr.type = type.code := PacketType.ofCode_eq_some.mp known
        rw [recvType_control υ node hdr buf size type code]
        cases type with
        | beacon =>
            exact iteInduction (fun _ => uncounted.stay) fun _ =>
              uncounted.rxBeacon client hdr buf size
        | ack =>
            cases node with
            | none => exact uncounted.stay
            | some ptr =>
                refine ⟨rxAck_emits υ ptr (fun temp => kept ptr temp rfl) hdr fun cb _ same =>
                  acked ptr cb rfl code same, .inl ?_⟩
                unfold tinymacRecvControl tinymacRxAck
                dsimp only
                split_ifs
                · exact ⟨by simp [uncounted.built], by simp [uncounted.dseq]⟩
                · exact ⟨uncounted.built, uncounted.dseq⟩
        | poll => exact uncounted.stay
        | beaconRequest =>
            rw [tinymacRecvControl, txBeacon_client υ false client]
            exact uncounted.stay
        | registrationRequest =>
            simpa [tinymacRecvControl, tinymacRxRegistrationRequest, client] using uncounted.stay
        | deregistrationRequest =>
            simpa [tinymacRecvControl, tinymacRxDeregistrationRequest, client] using uncounted.stay
        | registrationResponse =>
            refine iteInduction (fun _ => uncounted.stay) fun _ => ?_
            unfold tinymacRxRegistrationResponse
            dsimp only
            split_ifs <;> exact Uncounted.quiet ⟨uncounted.built, uncounted.dseq⟩ rfl

end Parts

/-! ### Steps -/

section Step

variable {σ : Mac}

theorem deregister_dseq (ptr : NodePtr) :
    (tinymacDeregisterNode σ ptr).ctx.dseq = σ.ctx.dseq := by
  unfold tinymacDeregisterNode
  dsimp only
  split <;> split <;> simp [Ctx.detach]

theorem despatchTimer_dseq (timer : TimerPtr) :
    (tinymacDespatchTimer σ timer).ctx.dseq = σ.ctx.dseq := by
  unfold tinymacDespatchTimer
  split
  · cases timer with
    | ack ptr =>
        unfold Mac.timerCallback Mac.clearTimer tinymacAckTimeout
        dsimp only
        split_ifs <;> simp [deregister_dseq]
    | validity ptr => simp [Mac.timerCallback, Mac.clearTimer, tinymacValidityTimeout]
    | request =>
        unfold Mac.timerCallback Mac.clearTimer tinymacRequestTimeout
        dsimp only
        split_ifs <;> simp [deregister_dseq]
  · rfl

variable (client : Client σ.ctx) {τ : Mac}

include client

theorem recv_adds (buf : Memory) (size : Nat) (rssi : Int) :
    Adds σ τ (.recv buf size rssi) σ (tinymacRecvCb σ buf size rssi) := by
  have start : Uncounted σ σ := ⟨rfl, rfl⟩
  have ready : Emits (Accounts σ τ (.recv buf size rssi)) σ
      (tinymacRecvStandby σ (readHeader buf)) := recvStandby_emits σ _ .standby
  have ctx := recvStandby_ctx σ (readHeader buf)
  have standing : Uncounted σ (tinymacRecvStandby σ (readHeader buf)) :=
    ⟨recvStandby_built .., by rw [ctx]⟩
  unfold tinymacRecvCb
  dsimp only
  refine iteInduction (fun accepts => ?_) fun _ => start.stay
  refine iteInduction (fun _ => ?_) fun _ => ?_
  · cases found : tinymacGetNodeByAddr (tinymacRecvStandby σ (readHeader buf)).ctx
      (readHeader buf).srcAddr with
    | none =>
        dsimp only
        rw [tinymacRecvUnknown, ctx, if_neg (by simp [client.role])]
        exact standing.stay.after ready
    | some ptr =>
        rw [ctx] at found
        obtain ⟨rfl, -⟩ := getNodeByAddr_client client.role found
        have known := recvKnown_ctx (tinymacRecvStandby σ (readHeader buf)) .coord
          (readHeader buf) rssi
        rw [ctx] at known
        have heard : Uncounted σ (tinymacRecvKnown (tinymacRecvStandby σ (readHeader buf)) .coord
            (readHeader buf) rssi) :=
          ⟨(recvKnown_built ..).trans standing.built, by rw [known, modify_dseq]⟩
        have answered : Emits (Accounts σ τ (.recv buf size rssi))
            (tinymacRecvStandby σ (readHeader buf))
            (tinymacRecvKnown (tinymacRecvStandby σ (readHeader buf)) .coord (readHeader buf)
              rssi) := by
          refine recvKnown_emits _ .coord coord_kept _ rssi .standby
            (fun _ => .plain _ trivial) (fun _ => .plain _ trivial) ?_
          rw [ctx]
          exact fun cb pending => absurd pending client.coord.state
        refine (heard.recvType ?_ (some .coord) _ buf size ?_ ?_).after (ready.trans answered)
        · rw [known, modify_params]
          exact client.role
        · rintro _ cb ⟨⟩ type same
          have record : (σ.ctx.modify .coord fun node =>
              (node.heard σ.ctx.tickCount rssi).release σ.ctx.tickCount).node .coord =
                σ.ctx.coord.heard σ.ctx.tickCount rssi :=
            (client.coord.heard σ.ctx.tickCount rssi).release σ.ctx.tickCount
          rw [known, record] at same ⊢
          exact .acked buf size rssi cb rfl accepts type same
        · rintro _ temp ⟨⟩
          exact coord_kept temp
  · refine (standing.recvType (by rw [ctx]; exact client.role) none _ buf size ?_ ?_).after ready
    · rintro _ _ ⟨⟩
    · rintro _ _ ⟨⟩

theorem tick_adds : Adds σ τ .tick σ (tinymacTickHandler σ) := by
  have start : Uncounted σ σ := ⟨rfl, rfl⟩
  have asked : Adds σ τ .tick σ σ.solicit := by
    unfold Mac.solicit
    refine iteInduction (fun _ => ?_) fun _ => start.stay
    have asking : Uncounted σ (σ.update fun ctx => ctx.setState .beaconRequest) := ⟨rfl, rfl⟩
    have quiet : Emits (Accounts σ τ .tick) σ
        (σ.update fun ctx => ctx.setState .beaconRequest) := .of_out_eq rfl
    exact ((asking.control none .beaconRequest []).after quiet).update
      (fun ctx => ctx.armRequest (seconds beaconRequestTimeout)) rfl
  have failed (packet : Nat) (cb : SendCb) :
      Accounts σ τ .tick (.sendCb .coord packet cb (-1)) :=
    .plain _ (show (-1 : Int) ≠ 0 by decide)
  rw [tick_client σ client.role]
  refine Adds.update ⟨?_, ?_⟩ _ rfl
  · exact ((asked.emits.trans (despatchAck_emits _ .coord coord_kept .standby
      (fun _ => .plain _ trivial) (fun cb => failed _ cb) (.plain _ trivial))).trans
        (despatchValidity_emits _ .coord coord_kept fun cb _ => failed _ cb)).trans
          (despatchRequest_emits _ (.plain _ trivial))
  · rw [Counts, despatchTimer_built, despatchTimer_built, despatchTimer_built, despatchTimer_dseq,
      despatchTimer_dseq, despatchTimer_dseq]
    exact asked.counts

theorem send_adds (dest type : BitVec 8) (buf : List Byte) (validity : BitVec 16)
    (cb : Option SendCb) :
    Adds σ (tinymacSend σ dest type buf validity cb).2 (.send dest type buf validity cb) σ
      (tinymacSend σ dest type buf validity cb).2 := by
  have start : Uncounted σ σ := ⟨rfl, rfl⟩
  rcases client.send_cases dest type buf validity cb with same | ⟨-, -, validity', is⟩
  · rw [same]
    exact start.stay
  · rw [is]
    refine ⟨?_, txPacket_counts ..⟩
    by_cases fits : σ.ctx.fits buf
    · by_cases idle : σ.ctx.coord.state = .registered
      · refine txPacket_emits σ _ type buf validity' cb .standby (fun _ => .plain _ trivial) ?_
        intro _ flags accepted rc _
        refine .called _ rfl rfl fun _ asks => le_of_eq ?_
        rw [txPacket_unicast_ctx σ .coord type buf validity' cb fits]
        have asks : ackRequested type = true := asks
        show _ = (Node.accept σ.ctx.coord ..).pendingId
        rw [Node.accept, if_neg (not_not.mpr idle)]
        split_ifs <;> rfl
      · rw [txPacket_busy σ .coord type buf validity' cb fits idle]
        refine Emits.trans (.of_out_eq rfl) (emit_emits _ ?_)
        exact .called _ rfl rfl (by rintro ⟨⟩)
    · rw [txPacket_oversize σ type buf validity' cb _ fits]
      exact .refl σ

/-- **What a step of a client logs of its packets.** -/
theorem Client.step_adds (input : Input) : Adds σ (σ.step input) input σ (σ.step input) := by
  have start : Uncounted σ σ := ⟨rfl, rfl⟩
  cases input with
  | recv buf size rssi => exact recv_adds client buf size rssi
  | tick => exact tick_adds client
  | send dest type buf validity cb => exact send_adds client dest type buf validity cb
  | permitAttach | registerRecvCb | registerRegCb | registerDeregCb =>
      exact Uncounted.quiet ⟨rfl, rfl⟩ rfl

end Step

/-! ### Runs -/

/-- What a client knows of its packets; `first` is the sequence number it started with. -/
structure Tallied (first : BitVec 8) (σ : Mac) : Prop where
  client : Client σ.ctx
  sound : σ.courier.Sound sendLimit
  recorded : σ.courier.Recorded
  count : σ.ctx.dseq = first + BitVec.ofNat 8 σ.built
  numbered : ∀ call, .txPacket call ∈ σ.out → call.hdr.seq = first + BitVec.ofNat 8 call.id
  tracked : ∀ call, .txPacket call ∈ σ.out → call.accepted = true →
    call.hdr.ackRequest = true → call.id ≤ σ.ctx.coord.pendingId

namespace Tallied

variable {first : BitVec 8} {σ : Mac}

theorem start (boot : Boot) (role : boot.params.coordinator = false) :
    Tallied ((boot.rand 1).setWidth 8) boot.start where
  client := start_client boot role
  sound := start_courier boot
  recorded := by
    refine ⟨fun parcel made => ?_, fun holder held => absurd ?_ held⟩
    · obtain ⟨call, logged, -⟩ := call_of_taken made
      cases start_logs boot logged
    · cases holder <;> simp [Mac.courier, recordPtr, Node.parcel, Node.zero]
  count := by simp
  numbered call logged := by cases start_logs boot logged
  tracked call logged := by cases start_logs boot logged

section Step

variable (tallied : Tallied first σ)

include tallied

/-- The packet the record holds is none that has yet to be built. -/
theorem held_le : σ.ctx.coord.pendingId ≤ σ.built := tallied.sound.numbered none

/-- The packet the record holds is never an earlier one. -/
theorem pendingId_le (input : Input) :
    σ.ctx.coord.pendingId ≤ (σ.step input).ctx.coord.pendingId :=
  tallied.sound.number_le (step_acts σ input).moves none

theorem step (input : Input) : Tallied first (σ.step input) where
  client := tallied.client.step input
  sound := tallied.sound.steps (step_acts σ input).moves
  recorded := tallied.recorded.steps (step_acts σ input).moves
  count := by
    rcases (tallied.client.step_adds input).counts with ⟨built, dseq⟩ | ⟨built, dseq⟩
    · rw [built, dseq]
      exact tallied.count
    · rw [built, dseq, tallied.count, BitVec.ofNat_add, BitVec.add_assoc]
  numbered call logged := by
    rcases (tallied.client.step_adds input).emits.mem logged with old | new
    · exact tallied.numbered call old
    · cases new with
      | plain _ is => exact is.elim
      | called _ id seq => rw [seq, id, tallied.count, BitVec.ofNat_add, BitVec.add_assoc]
  tracked call logged accepted asks := by
    rcases (tallied.client.step_adds input).emits.mem logged with old | new
    · exact (tallied.tracked call old accepted asks).trans (tallied.pendingId_le input)
    · cases new with
      | plain _ is => exact is.elim
      | called _ _ _ held => exact held accepted asks

end Step

end Tallied

/-- **Every reachable client is tallied.** -/
theorem reachable_tallied (boot : Boot) (role : boot.params.coordinator = false)
    (inputs : List Input) : Tallied ((boot.rand 1).setWidth 8) (boot.start.run inputs) := by
  induction inputs using List.reverseRecOn with
  | nil => exact .start boot role
  | append_singleton inputs input ih =>
      rw [run_append]
      exact ih.step input

/-! ### Reports of success -/

/-- The client has built a `good` packet with the sequence number of an acknowledgement, fewer than
256 numbers ago. -/
structure Mac.Provoked (σ : Mac) (good : Frame → Prop) (seq : BitVec 8) (sent : TxCall) : Prop where
  logged : .txPacket sent ∈ σ.out
  accepted : sent.accepted = true
  asks : sent.hdr.ackRequest = true
  seq : sent.hdr.seq = seq
  recent : σ.built - sent.id < 256
  is : good ⟨sent.hdr, sent.payload⟩

namespace Tallied

variable {first : BitVec 8} {σ : Mac} (tallied : Tallied first σ) {good : Frame → Prop}

include tallied

/-- Accepted packets with one identity are one packet. -/
theorem frame_eq {one two : TxCall} (loggedOne : .txPacket one ∈ σ.out)
    (acceptedOne : one.accepted = true) (loggedTwo : .txPacket two ∈ σ.out)
    (acceptedTwo : two.accepted = true) (same : one.id = two.id) :
    (⟨one.hdr, one.payload⟩ : Frame) = ⟨two.hdr, two.payload⟩ :=
  congrArg Prod.snd (List.inj_on_of_nodup_map tallied.sound.distinct
    (taken_of_call loggedOne acceptedOne) (taken_of_call loggedTwo acceptedTwo) same)

/-- **The packet the record waits for is the one that provoked the acknowledgement**: it is not an
earlier one, and not 256 numbers later. -/
theorem held_provoked {sent : TxCall}
    (provoked : σ.Provoked good σ.ctx.coord.pendingHeader.seq sent) :
    sent.id = σ.ctx.coord.pendingId := by
  have order := tallied.tracked sent provoked.logged provoked.accepted provoked.asks
  have positive : 0 < sent.id :=
    tallied.recorded.positive _ (taken_of_call provoked.logged provoked.accepted)
  have numbered : σ.ctx.coord.pendingId ≠ 0 := by omega
  obtain ⟨held, logged, -, is, frame⟩ := call_of_taken (tallied.recorded.held none numbered)
  have header : σ.ctx.coord.pendingHeader = held.hdr :=
    congrArg (fun frame : Frame => frame.hdr) frame
  have is : held.id = σ.ctx.coord.pendingId := is
  have same := provoked.seq
  rw [header, tallied.numbered sent provoked.logged, tallied.numbered held logged, is] at same
  have residue : sent.id % 256 = σ.ctx.coord.pendingId % 256 := by
    have values := congrArg BitVec.toNat ((BitVec.add_right_inj _).mp same)
    simpa only [BitVec.toNat_ofNat] using values
  have bound := tallied.held_le
  have recent := provoked.recent
  omega

/-- **A step reports good packets only**, if the acknowledgements it accepts were provoked by good
packets. -/
theorem step_reports (reports : Reports good σ) (input : Input)
    (provoked : ∀ buf size rssi, input = .recv buf size rssi →
      σ.ctx.accepts (readHeader buf) size = true →
      (readHeader buf).type = PacketType.ack.code →
      ∃ sent, σ.Provoked good (readHeader buf).seq sent) : Reports good (σ.step input) := by
  have adds := tallied.client.step_adds input
  have monotone : σ.built ≤ (σ.step input).built := by
    rcases adds.counts with ⟨built, -⟩ | ⟨built, -⟩ <;> omega
  intro ptr packet cb reported
  -- a packet that is built in this step has a number that no report has
  suffices packet ≤ σ.built ∧ ∀ call, .txPacket call ∈ σ.out → call.accepted = true →
      call.hdr.ackRequest = true → call.id = packet → good ⟨call.hdr, call.payload⟩ by
    obtain ⟨old, each⟩ := this
    refine ⟨old.trans monotone, fun call logged accepted asks is => ?_⟩
    rcases adds.emits.mem logged with before | new
    · exact each call before accepted asks is
    · cases new with
      | plain _ is => exact is.elim
      | called _ id => omega
  rcases adds.emits.mem reported with before | new
  · exact reports ptr packet cb before
  · cases new with
    | plain _ is => exact absurd rfl is
    | acked buf size rssi cb hears accepts type same =>
        obtain ⟨sent, provoked⟩ := provoked buf size rssi hears accepts type
        rw [same] at provoked
        refine ⟨tallied.held_le, fun call logged accepted asks is => ?_⟩
        rw [tallied.frame_eq logged accepted provoked.logged provoked.accepted
          (is.trans (tallied.held_provoked provoked).symm)]
        exact provoked.is

end Tallied

end TinyHan.Tinymac
