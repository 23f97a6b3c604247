/-
**The sequence numbers of a coordinator.**

`tinymac_tx_packet` numbers the packets it builds with eight bits, for all destinations together and
whether or not the packet is then rejected. An acknowledgement names a packet by this number only,
and `tinymac_recv_cb` compares it with the number of the packet the node waits for.

`Sequenced` is what a coordinator knows of its packets: the number of each is its identity modulo
256, and a packet that asks for an acknowledgement is held by the slot it was sent to until a later
one takes its place. So an acknowledgement that comes before 256 more numbers are taken can only be
taken for the packet that provoked it (`Sequenced.acked`).
-/

import TinyHan.Coordinator.Registry
import TinyHan.Mac.Retransmission

namespace TinyHan.Tinymac

open TinyHan.Lib

/-! ### The acts of an operation -/

theorem respond_acts (σ : Mac) (attach : RegistrationRequest) (resp : RegistrationResponse) :
    σ.Acts ((σ.registerSlot attach).respond resp) := by
  have registered : σ.Acts (σ.registerSlot attach) := by
    unfold Mac.registerSlot
    split
    · next index _ =>
      exact (Mac.Act.lapse σ (some index) (fun node => node.register attach σ.ctx.tickCount)
        (.register _ _ _)).acts
    · exact .refl σ
  exact registered.trans (Mac.Act.broadcast _ _ _ _ _).acts

/-- **Every operation of a coordinator is a sequence of acts.** -/
theorem Op.acts {ok : Condition} {σ τ : Mac} (op : Op ok σ τ) : σ.Acts τ := by
  cases op with
  | event event silent =>
      refine (Mac.Acts.refl σ).emit ?_
      cases event <;> first | exact silent.elim | trivial
  | clock => exact (Mac.Acts.refl σ).update _ (fun holder => by cases holder <;> rfl) rfl
  | setting => exact (Mac.Acts.refl σ).update _ (fun holder => by cases holder <;> rfl) rfl
  | beacon periodic => exact txBeacon_acts σ periodic
  | hear index rssi live =>
      exact (Mac.Act.lapse σ (some index) (fun node => node.heard σ.ctx.tickCount rssi)
        ⟨rfl, le_rfl⟩).acts
  | ackFrame index seq live => exact phySend_acts σ _ (Nat.zero_le _) _
  | release index => exact txPending_acts σ (some index)
  | acked index hdr heard =>
      exact rxAck_acts σ _ (fun ptr is => ⟨some index, (Option.some.inj is).symm⟩) hdr
  | send index type buf validity cb live data =>
      exact (Mac.Act.unicast σ (some index) type buf validity cb).acts
  | register attach fresh => exact respond_acts σ attach _
  | expel hdr => exact (Mac.Act.refuse σ hdr).acts
  | detach index live =>
      exact (Mac.Act.unicast σ (some index) _ _ _ _).acts.trans (deregister_acts _ (some index))
  | heartbeat index expired => exact deregister_acts σ (some index)
  | ackDue index timers => exact despatchAck_acts σ (some index)
  | validityDue index timers => exact despatchValidity_acts σ (some index)

/-! ### What asks for an acknowledgement is held -/

/-- A packet that is accepted and asks for an acknowledgement is for a slot that holds it, or a
later one, afterwards. -/
def Tracks (σ τ : Mac) (event : Event) : Prop :=
  ∀ call, event = .txPacket call → call.accepted = true → call.hdr.ackRequest = true →
    ∃ index, call.hdr.destAddr = (σ.ctx.nodes index).addr ∧
      call.id ≤ (τ.ctx.nodes index).pendingId

theorem tracks_untaken {σ τ : Mac} {event : Event} (none : event.taken = none) :
    Tracks σ τ event := by
  rintro call rfl accepted
  rw [Event.taken, if_pos accepted] at none
  cases none

theorem tracks_standby (σ τ : Mac) (event : Event) (standby : event.standby) :
    Tracks σ τ event := tracks_untaken (Event.idle_of_standby standby).2

theorem ackRequested_control (type : PacketType) : ackRequested type.code = false := by
  cases type <;> decide

/-- A control packet asks for nothing. -/
theorem control_tracks (σ τ υ : Mac) (dest : Option NodePtr) (type : PacketType)
    (buf : List Byte) :
    Emits (Tracks τ υ) σ (tinymacTxPacket σ dest type.code buf 0#16 none).2 := by
  refine txPacket_emits σ dest type.code buf 0#16 none (tracks_standby τ υ)
    (fun _ => tracks_untaken rfl) ?_
  intro _ flags accepted rc refused call is _ asks
  cases is
  rw [buildHeader_ackRequest, ackRequested_control] at asks
  cases asks

theorem txPacket_tracks (σ : Mac) (index : Slot) (type : BitVec 8) (buf : List Byte)
    (validity : BitVec 16) (cb : Option SendCb) :
    let τ := (tinymacTxPacket σ (some (.slot index)) type buf validity cb).2
    Emits (Tracks σ τ) σ τ := by
  intro τ
  by_cases fits : σ.ctx.fits buf
  · by_cases idle : (σ.ctx.nodes index).state = .registered
    · refine txPacket_emits σ _ type buf validity cb (tracks_standby σ τ)
        (fun _ => tracks_untaken rfl) ?_
      intro _ flags accepted rc refused call is _ asks
      cases is
      refine ⟨index, rfl, ?_⟩
      have record : (τ.ctx.nodes index).pendingId = σ.built + 1 := by
        simp only [τ, txPacket_unicast_ctx σ _ type buf validity cb fits, modify_slot_nodes_self,
          Ctx.nextSeq_nodes]
        have asks : ackRequested type = true := asks
        rw [Node.accept, if_neg (not_not.mpr idle)]
        split_ifs <;> rfl
      exact le_of_eq record.symm
    · have busy : τ = _ := congrArg Prod.snd (txPacket_busy σ (.slot index) type buf validity cb
        fits idle)
      rw [busy]
      refine Emits.trans (.of_out_eq rfl) (emit_emits _ ?_)
      intro call is accepted
      cases is
      cases accepted
  · have same : τ = σ := congrArg Prod.snd (txPacket_oversize σ type buf validity cb _ fits)
    rw [same]
    exact .refl σ

/-- Only `tinymac_send` builds packets that ask for an acknowledgement. -/
theorem Op.tracks_or_send {ok : Condition} {σ τ : Mac} (op : Op ok σ τ) :
    (∀ υ, Emits (Tracks σ υ) σ τ) ∨
      ∃ index type buf validity cb,
        τ = (tinymacTxPacket σ (some (.slot index)) type buf validity cb).2 := by
  cases op with
  | event event silent =>
      refine .inl fun υ => emit_emits σ (tracks_untaken ?_)
      cases event <;> first | exact silent.elim | rfl
  | clock | setting | hear => exact .inl fun υ => .of_out_eq rfl
  | beacon periodic =>
      exact .inl fun υ =>
        txBeacon_emits σ periodic (tracks_standby σ υ) fun _ => tracks_untaken rfl
  | ackFrame index seq live =>
      exact .inl fun υ => phySend_emits σ _ _ _ (tracks_standby σ υ) (tracks_untaken rfl)
  | release index =>
      exact .inl fun υ => txPending_emits σ (.slot index) (tracks_standby σ υ)
        (fun _ => tracks_untaken rfl) fun _ _ _ _ => tracks_untaken rfl
  | acked index hdr heard =>
      exact .inl fun υ => rxAck_emits σ (.slot index) slot_kept hdr fun _ _ _ => tracks_untaken rfl
  | send index type buf validity cb live data => exact .inr ⟨index, type, buf, validity, cb, rfl⟩
  | register attach fresh =>
      exact .inl fun υ => Emits.trans (.of_out_eq (registerSlot_out σ attach))
        (control_tracks _ σ υ none .registrationResponse _)
  | expel hdr =>
      refine .inl fun υ => ?_
      unfold tinymacRecvUnknown
      split
      · exact control_tracks σ σ υ _ .registrationResponse _
      · exact .refl σ
  | detach index live =>
      exact .inl fun υ => (control_tracks σ σ υ _ .registrationResponse _).trans
        (deregister_emits _ _ (tracks_untaken rfl))
  | heartbeat index expired => exact .inl fun υ => deregister_emits _ _ (tracks_untaken rfl)
  | ackDue index timers =>
      exact .inl fun υ => despatchAck_emits σ (.slot index) slot_kept (tracks_standby σ υ)
        (fun _ => tracks_untaken rfl) (fun _ => tracks_untaken rfl) (tracks_untaken rfl)
  | validityDue index timers =>
      exact .inl fun υ =>
        despatchValidity_emits σ (.slot index) slot_kept fun _ _ => tracks_untaken rfl

theorem Op.tracks {ok : Condition} {σ τ : Mac} (op : Op ok σ τ) : Emits (Tracks σ τ) σ τ := by
  rcases op.tracks_or_send with any | ⟨index, type, buf, validity, cb, rfl⟩
  · exact any τ
  · exact txPacket_tracks σ index type buf validity cb

/-! ### The invariant -/

/-- The packet a slot holds is never an earlier one. -/
theorem Op.pendingId_le {ok : Condition} {σ τ : Mac} (op : Op ok σ τ)
    (coordinator : Coordinator σ.ctx) {index : Slot}
    (numbered : (σ.ctx.nodes index).pendingId ≤ σ.built) :
    (σ.ctx.nodes index).pendingId ≤ (τ.ctx.nodes index).pendingId := by
  rcases op.at_slot coordinator index with same | change
  · rw [same]
  · rcases change.packet with ⟨-, same⟩ | ⟨type, payload, -, -, new⟩
    · rw [same]
    · rw [new]
      exact Nat.le_succ_of_le numbered

/-- What a coordinator knows of its packets; `first` is the sequence number it started with. -/
structure Sequenced (first : BitVec 8) (σ : Mac) : Prop where
  hub : Hub σ
  sound : σ.courier.Sound sendLimit
  recorded : σ.courier.Recorded
  count : σ.ctx.dseq = first + BitVec.ofNat 8 σ.built
  numbered : ∀ call, .txPacket call ∈ σ.out →
    call.hdr.seq = first + BitVec.ofNat 8 call.id ∧ call.hdr.srcAddr = 0#8
  tracked : ∀ call, .txPacket call ∈ σ.out → call.accepted = true → call.hdr.ackRequest = true →
    ∃ index, call.hdr.destAddr = (σ.ctx.nodes index).addr ∧
      call.id ≤ (σ.ctx.nodes index).pendingId
  unasked : ∀ frame flags, .phySend none frame flags ∈ σ.out →
    frame.hdr.srcAddr = 0#8 ∧ frame.hdr.ackRequest = false

namespace Sequenced

variable {first : BitVec 8} {ok : Condition} {σ τ : Mac}

theorem held_le (sequenced : Sequenced first σ) (index : Slot) :
    (σ.ctx.nodes index).pendingId ≤ σ.built := sequenced.sound.numbered (some index)

theorem op (sequenced : Sequenced first σ) (op : Op ok σ τ) : Sequenced first τ where
  hub := sequenced.hub.op op
  sound := sequenced.sound.steps op.acts.moves
  recorded := sequenced.recorded.steps op.acts.moves
  count := by
    rcases op.counts with ⟨built, dseq⟩ | ⟨built, dseq⟩
    · rw [built, dseq]
      exact sequenced.count
    · rw [built, dseq, sequenced.count, BitVec.ofNat_add, BitVec.add_assoc]
  numbered call logged := by
    rcases (op.emits sequenced.hub.coordinator).mem logged with old | new
    · exact sequenced.numbered call old
    · cases new with
      | silent _ is => exact is.elim
      | called dest type payload packet counted flags cb accepted rc refused unicast =>
          refine ⟨?_, sequenced.hub.coordinator.addr⟩
          show σ.ctx.dseq + 1#8 = first + BitVec.ofNat 8 (σ.built + 1)
          rw [sequenced.count, BitVec.ofNat_add, BitVec.add_assoc]
  tracked call logged accepted asks := by
    have addr (index : Slot) : (τ.ctx.nodes index).addr = (σ.ctx.nodes index).addr :=
      ((sequenced.hub.op op).registry.addr index).trans (sequenced.hub.registry.addr index).symm
    rcases op.tracks.mem logged with old | new
    · obtain ⟨index, dest, held⟩ := sequenced.tracked call old accepted asks
      exact ⟨index, dest.trans (addr index).symm, held.trans
        (op.pendingId_le sequenced.hub.coordinator (sequenced.held_le index))⟩
    · obtain ⟨index, dest, held⟩ := new call rfl accepted asks
      exact ⟨index, dest.trans (addr index).symm, held⟩
  unasked frame flags logged := by
    rcases (op.emits sequenced.hub.coordinator).mem logged with old | new
    · exact sequenced.unasked frame flags old
    · cases new with
      | silent _ is => exact is.elim
      | beacon periodic =>
          refine ⟨sequenced.hub.coordinator.addr, ?_⟩
          simp only [Header.ackRequest, Ctx.beaconHeader]
          decide
      | ackFrame index seq live =>
          exact ⟨sequenced.hub.coordinator.addr, ackHeader_ackRequest _ _ _⟩

theorem ops (sequenced : Sequenced first σ) (ops : Ops ok σ τ) : Sequenced first τ := by
  induction ops with
  | refl => exact sequenced
  | tail _ last ih => exact ih.op last

theorem start (boot : Boot) (role : boot.params.coordinator = true) :
    Sequenced ((boot.rand 1).setWidth 8) boot.start := by
  have uncalled (call : TxCall) : .txPacket call ∉ boot.start.out := by
    rw [start_out]
    split <;> simp
  have unsent (frame : Frame) (flags : BitVec 8) : .phySend none frame flags ∉ boot.start.out := by
    rw [start_out]
    split <;> simp
  refine ⟨start_hub boot role, start_courier boot, ⟨fun parcel made => ?_, fun holder held => ?_⟩,
    by simp, fun call logged => absurd logged (uncalled call),
    fun call logged => absurd logged (uncalled call),
    fun frame flags logged => absurd logged (unsent frame flags)⟩
  · obtain ⟨call, logged, -⟩ := call_of_taken made
    exact absurd logged (uncalled call)
  · refine absurd ?_ held
    cases holder <;> simp [Mac.courier, recordPtr, Node.parcel, Node.zero]

end Sequenced

/-- **Every reachable coordinator is sequenced.** -/
theorem reachable_sequenced (boot : Boot) (role : boot.params.coordinator = true)
    (inputs : List Input) :
    Sequenced ((boot.rand 1).setWidth 8) (boot.start.run inputs) :=
  (run_induction_any (fun _ sequenced op => Sequenced.op sequenced op)
    (start_coordinator boot role) (.start boot role) inputs).2

/-! ### Reports of success -/

/-- Every packet that asked for an acknowledgement and is reported as delivered is `good`. -/
def Reports (good : Frame → Prop) (σ : Mac) : Prop :=
  ∀ ptr packet cb, .sendCb ptr packet cb 0 ∈ σ.out → packet ≤ σ.built ∧
    ∀ call, .txPacket call ∈ σ.out → call.accepted = true → call.hdr.ackRequest = true →
      call.id = packet → good ⟨call.hdr, call.payload⟩

namespace Sequenced

variable {first : BitVec 8} {ok : Condition} {σ τ : Mac} {good : Frame → Prop}

/-- Accepted packets with one identity are one packet. -/
theorem frame_eq (sequenced : Sequenced first σ) {one two : TxCall}
    (loggedOne : .txPacket one ∈ σ.out) (acceptedOne : one.accepted = true)
    (loggedTwo : .txPacket two ∈ σ.out) (acceptedTwo : two.accepted = true)
    (same : one.id = two.id) :
    (⟨one.hdr, one.payload⟩ : Frame) = ⟨two.hdr, two.payload⟩ :=
  congrArg Prod.snd (List.inj_on_of_nodup_map sequenced.sound.distinct
    (taken_of_call loggedOne acceptedOne) (taken_of_call loggedTwo acceptedTwo) same)

/-- **What a coordinator puts on the air** comes from address zero, and asks for an acknowledgement
only as a packet that was accepted. -/
theorem aired (sequenced : Sequenced first σ) {packet : Option Nat} {frame : Frame}
    {flags : BitVec 8} (logged : .phySend packet frame flags ∈ σ.out) :
    frame.hdr.srcAddr = 0#8 ∧ (frame.hdr.ackRequest = true →
      ∃ sent, .txPacket sent ∈ σ.out ∧ sent.accepted = true ∧ packet = some sent.id ∧
        frame = ⟨sent.hdr, sent.payload⟩) := by
  cases packet with
  | none =>
      obtain ⟨source, plain⟩ := sequenced.unasked frame flags logged
      exact ⟨source, fun asks => by rw [plain] at asks; cases asks⟩
  | some id =>
      have sent : (id, frame) ∈ σ.courier.sent := List.mem_filterMap.mpr ⟨_, logged, rfl⟩
      obtain ⟨call, called, accepted, is, rfl⟩ := call_of_taken (sequenced.sound.faithful _ sent)
      exact ⟨(sequenced.numbered call called).2, fun _ => ⟨call, called, accepted, by rw [is], rfl⟩⟩

/-- A slot holds the packet whose identity it holds. -/
theorem held_eq (sequenced : Sequenced first σ) {call : TxCall} (logged : .txPacket call ∈ σ.out)
    (accepted : call.accepted = true) {index : Slot}
    (is : call.id = (σ.ctx.nodes index).pendingId) :
    call.hdr = (σ.ctx.nodes index).pendingHeader := by
  have made := taken_of_call logged accepted
  have positive : 0 < call.id := sequenced.recorded.positive _ made
  have numbered : (σ.ctx.nodes index).pendingId ≠ 0 := by omega
  have held := sequenced.recorded.held (some index) numbered
  have same := List.inj_on_of_nodup_map sequenced.sound.distinct made held is
  exact congrArg (fun parcel : Nat × Frame => parcel.2.hdr) same

/-- **An acknowledgement within 256 numbers of its packet** is taken for no later one. -/
theorem acked (sequenced : Sequenced first σ) {sent call : TxCall}
    (loggedSent : .txPacket sent ∈ σ.out) (acceptedSent : sent.accepted = true)
    (logged : .txPacket call ∈ σ.out) (accepted : call.accepted = true)
    (order : sent.id ≤ call.id) (recent : call.id - sent.id < 256)
    (same : sent.hdr.seq = call.hdr.seq) :
    (⟨sent.hdr, sent.payload⟩ : Frame) = ⟨call.hdr, call.payload⟩ := by
  refine sequenced.frame_eq loggedSent acceptedSent logged accepted ?_
  rw [(sequenced.numbered sent loggedSent).1, (sequenced.numbered call logged).1] at same
  have residue : sent.id % 256 = call.id % 256 := by
    have values := congrArg BitVec.toNat ((BitVec.add_right_inj _).mp same)
    simpa only [BitVec.toNat_ofNat] using values
  omega

/-- A report is of a packet that was acknowledged, unless it asked for nothing. -/
theorem op_reports (sequenced : Sequenced first σ) (op : Op ok σ τ) (reports : Reports good σ)
    (acks : ∀ index hdr call, ok.ack index hdr → .txPacket call ∈ σ.out → call.accepted = true →
      call.id = (σ.ctx.nodes index).pendingId → hdr.seq = call.hdr.seq →
      good ⟨call.hdr, call.payload⟩) : Reports good τ := by
  intro ptr packet cb reported
  -- a packet that is built now has a number that no report has
  have bound (old : packet ≤ σ.built)
      (each : ∀ call, .txPacket call ∈ σ.out → call.accepted = true →
        call.hdr.ackRequest = true → call.id = packet → good ⟨call.hdr, call.payload⟩) :
      packet ≤ τ.built ∧ ∀ call, .txPacket call ∈ τ.out → call.accepted = true →
        call.hdr.ackRequest = true → call.id = packet → good ⟨call.hdr, call.payload⟩ := by
    refine ⟨old.trans op.built_le, fun call logged accepted asks is => ?_⟩
    rcases (op.emits sequenced.hub.coordinator).mem logged with before | new
    · exact each call before accepted asks is
    · cases new with
      | silent _ is => exact is.elim
      | called => exact absurd (is ▸ old) (Nat.not_succ_le_self _)
  rcases (op.emits sequenced.hub.coordinator).mem reported with before | new
  · exact bound (reports ptr packet cb before).1 (reports ptr packet cb before).2
  · cases new with
    | silent _ is => exact is.elim
    | assumed index cb pending plain =>
        refine bound (sequenced.held_le index) fun call logged accepted asks is => ?_
        rw [sequenced.held_eq logged accepted is, plain] at asks
        cases asks
    | acked index cb hdr heard waiting same =>
        refine bound (sequenced.held_le index) fun call logged accepted asks is => ?_
        refine acks index hdr call heard logged accepted is ?_
        rw [same, sequenced.held_eq logged accepted is]

theorem ops_reports (sequenced : Sequenced first σ) (ops : Ops ok σ τ)
    (silent : ∀ index hdr, ¬ ok.ack index hdr) (reports : Reports good σ) : Reports good τ := by
  induction ops with
  | refl => exact reports
  | tail before op ih =>
      exact (sequenced.ops before).op_reports op ih
        fun index hdr _ heard => absurd heard (silent index hdr)

end Sequenced

@[simp] theorem recvStandby_built (σ : Mac) (hdr : Header) :
    (tinymacRecvStandby σ hdr).built = σ.built := by
  unfold tinymacRecvStandby
  split <;> rfl

@[simp] theorem recvKnown_built (σ : Mac) (ptr : NodePtr) (hdr : Header) (rssi : Int) :
    (tinymacRecvKnown σ ptr hdr rssi).built = σ.built := by
  unfold tinymacRecvKnown tinymacTxAck
  dsimp only
  split_ifs <;> simp

theorem hear_built (σ : Mac) (hdr : Header) (rssi : Int) :
    (σ.hear hdr rssi).built = σ.built := by
  unfold Mac.hear
  dsimp only
  split
  · simp
  · split <;> simp

/-- The frame is an acknowledgement of a `good` packet, and fewer than 256 sequence numbers have
been taken since. -/
structure Mac.Answers (σ : Mac) (good : Frame → Prop) (hdr : Header) (sent : TxCall) : Prop where
  logged : .txPacket sent ∈ σ.out
  accepted : sent.accepted = true
  asks : sent.hdr.ackRequest = true
  dest : sent.hdr.destAddr = hdr.srcAddr
  seq : sent.hdr.seq = hdr.seq
  recent : σ.built - sent.id < 256
  is : good ⟨sent.hdr, sent.payload⟩

/-- **An acknowledgement of a good packet** reports no other: the packet the slot waits for is not
earlier than the one that is acknowledged, and not 256 numbers later. -/
theorem Sequenced.rxAck_reports {first : BitVec 8} {σ : Mac} {good : Frame → Prop}
    (sequenced : Sequenced first σ) (reports : Reports good σ) {index : Slot} {hdr : Header}
    (source : (σ.ctx.nodes index).addr = hdr.srcAddr) {sent : TxCall}
    (answers : σ.Answers good hdr sent) :
    Reports good (tinymacRxAck σ (some (.slot index)) hdr) := by
  have op : Op ⟨fun _ _ _ => True, fun slot heard => slot = index ∧ heard = hdr, True⟩ σ _ :=
    .acked σ index hdr ⟨rfl, rfl⟩
  refine sequenced.op_reports op reports ?_
  intro slot heard call ⟨here, this⟩ logged accepted is same
  rw [here] at is
  rw [this] at same
  obtain ⟨other, dest, order⟩ := sequenced.tracked sent answers.logged answers.accepted answers.asks
  have held : other = index := by
    refine slotAddr_injective ?_
    rw [← sequenced.hub.registry.addr, ← sequenced.hub.registry.addr, source, ← dest, answers.dest]
  rw [held, ← is] at order
  have bound := sequenced.held_le index
  have recent := answers.recent
  rw [← sequenced.acked answers.logged answers.accepted logged accepted order (by omega)
    (answers.seq.trans same)]
  exact answers.is

/-- The coordinator takes an acknowledgement: when its handler runs, the slot of its source waits
for the sequence number. -/
def Ctx.TakesAck (ctx : Ctx) (hdr : Header) (size : Nat) (rssi : Int) : Prop :=
  hdr.type = PacketType.ack.code ∧ ctx.handles hdr size = true ∧
    ∃ index, tinymacGetNodeByAddr ctx hdr.srcAddr = some (.slot index) ∧
      ((ctx.hear hdr rssi).nodes index).state = .waitAck ∧
      hdr.seq = ((ctx.hear hdr rssi).nodes index).pendingHeader.seq

/-- **A step reports good packets only**, if the acknowledgements it takes answer good packets. -/
theorem Sequenced.step_reports {first : BitVec 8} {σ : Mac} {good : Frame → Prop}
    (sequenced : Sequenced first σ) (reports : Reports good σ) (input : Input)
    (answers : ∀ buf size rssi, input = .recv buf size rssi →
      σ.ctx.TakesAck (readHeader buf) size rssi →
      ∃ sent, σ.Answers good (readHeader buf) sent) : Reports good (σ.step input) := by
  have coordinator := sequenced.hub.coordinator
  by_cases acks : ∃ buf size rssi, input = .recv buf size rssi ∧
      (readHeader buf).type = PacketType.ack.code ∧ σ.ctx.handles (readHeader buf) size = true
  · obtain ⟨buf, size, rssi, rfl, type, handles⟩ := acks
    have quiet : Ops ⟨fun _ _ _ => True, fun _ _ => False, True⟩ σ
      (σ.hear (readHeader buf) rssi) := hear_ops σ coordinator.role _ rssi
    have heard := sequenced.ops quiet
    have before := sequenced.ops_reports quiet (fun _ _ => not_false) reports
    show Reports good (tinymacRecvCb σ buf size rssi)
    rw [recv_handled σ coordinator buf size rssi handles, recvType_control _ _ _ _ _ .ack type]
    show Reports good (tinymacRxAck _ (σ.ctx.source (readHeader buf)) (readHeader buf))
    obtain ⟨slot, source, known⟩ := source_slot coordinator.role (readHeader buf)
    rw [source]
    cases slot with
    | none => exact before
    | some index =>
        have found := known index rfl
        have addr : (σ.ctx.nodes index).addr = (readHeader buf).srcAddr := by
          obtain ⟨_, same, addr, -⟩ := getNodeByAddr_coordinator coordinator.role found
          cases same
          exact addr
        by_cases waits : ((σ.hear (readHeader buf) rssi).ctx.nodes index).state = .waitAck ∧
            (readHeader buf).seq =
              ((σ.hear (readHeader buf) rssi).ctx.nodes index).pendingHeader.seq
        · rw [hear_ctx] at waits
          obtain ⟨sent, answers⟩ := answers buf size rssi rfl ⟨type, handles, index, found, waits⟩
          refine heard.rxAck_reports before ?_ ⟨(quiet.grows coordinator).mem_of_mem answers.logged,
            answers.accepted, answers.asks, answers.dest, answers.seq, ?_, answers.is⟩
          · rw [heard.hub.registry.addr, ← sequenced.hub.registry.addr, addr]
          · rw [hear_built]
            exact answers.recent
        · show Reports good (tinymacRxAck _ (some (.slot index)) _)
          rw [rxAck_eq, if_neg waits]
          exact before
  · have quiet : Ops ⟨fun _ _ _ => True, fun _ _ => False, True⟩ σ (σ.step input) := by
      refine step_ops σ coordinator input ?_
      cases input with
      | recv buf size rssi =>
          refine ⟨fun _ _ _ => trivial, fun accepted type index found => acks ?_⟩
          exact ⟨buf, size, rssi, rfl, type, by simp [Ctx.handles, accepted, found]⟩
      | _ => trivial
    exact sequenced.ops_reports quiet (fun _ _ => not_false) reports

end TinyHan.Tinymac
