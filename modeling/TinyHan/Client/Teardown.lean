/-
**What a client keeps of a registration it has lost.**

A registration is dropped in three places: `tinymac_deregister_node`, which frees the coordinator
record but leaves its timers, and the two branches of `tinymac_rx_registration_response` for a clash
and for a detachment, which only drop the link. What is left behind is seen later: the ack timer
retransmits under the old header and can end the next registration, and `tinymac_send` finds a live
record while the client has no address.

* `teardown_complete` — the record is free and its timers are off in every state without a network,
  along the runs that lose a registration in none of these ways;
* `data_identified` — every data frame has a source address and a network, along the runs whose
  application calls `tinymac_send` while it is registered.
-/

import TinyHan.Client.Association
import TinyHan.Client.Events

namespace TinyHan.Tinymac

open TinyHan.Lib

/-! ### The record of a client without a network -/

/-- The coordinator record is free and its timers are off. -/
structure Ctx.Severed (ctx : Ctx) : Prop where
  state : ctx.coord.state = .unregistered
  ack : ctx.coord.ackTimer.armed = false
  validity : ctx.coord.validityTimer.armed = false

/-- The response takes the registration of the client with the UUID away: a clash over its address,
or a detachment. -/
def RegistrationResponse.withdraws (resp : RegistrationResponse) (hdr : Header)
    (uuid : BitVec 64) : Prop :=
  resp.uuid ≠ uuid ∧ hdr.destAddr ≠ addrBroadcast ∨
    resp.uuid = uuid ∧
      (resp.addr = addrUnassigned ∨ resp.status ≠ RegistrationStatus.success.code)

instance (resp : RegistrationResponse) (hdr : Header) (uuid : BitVec 64) :
    Decidable (resp.withdraws hdr uuid) := inferInstanceAs (Decidable (_ ∨ _))

/-- The frame is a response that takes the registration of the client away. -/
def Ctx.detachedBy (ctx : Ctx) (buf : Memory) (size : Nat) : Prop :=
  ctx.attends (readHeader buf) size = true ∧
    (readHeader buf).type = PacketType.registrationResponse.code ∧
    headerSize + registrationResponseSize ≤ size ∧
    (readRegistrationResponse buf).withdraws (readHeader buf) ctx.params.uuid

instance (ctx : Ctx) (buf : Memory) (size : Nat) : Decidable (ctx.detachedBy buf size) :=
  inferInstanceAs (Decidable (_ ∧ _))

/-- The step does not drop the link alone: no response takes the registration away, and no
registration request times out while the ack timer of the coordinator record is armed and keeps
going. -/
def Ctx.TearsDown (ctx : Ctx) : Input → Prop
  | .recv buf size _ =>
      ctx.state = .registering ∨ ctx.state = .registered → ¬ ctx.detachedBy buf size
  | .tick =>
      ctx.state = .registering → ctx.timer.due ctx.tickCount = true →
        ctx.losesCoordinator = false → ctx.coord.ackTimer.armed = false
  | _ => True

/-- **A network is let go of** by a response that takes the registration away, or by a tick. -/
theorem Link.step_loses {link : Link} {signal : Signal} (before : ¬ link.seeking)
    (after : (link.step signal).seeking) :
    (∃ hdr resp, signal = .response hdr resp ∧ resp.withdraws hdr link.params.uuid) ∨
      ∃ lost, signal = .tick lost := by
  cases signal with
  | nothing => exact absurd after before
  | beacon hdr permit =>
      refine absurd after ?_
      rw [Link.not_seeking_iff] at before ⊢
      rcases before with state | state <;> simp [Link.step, Link.onBeacon, state]
  | response hdr resp =>
      refine .inl ⟨hdr, resp, rfl, ?_⟩
      by_contra kept
      refine absurd after ?_
      rw [Link.not_seeking_iff] at before ⊢
      simp only [Link.step, Link.onResponse]
      simp only [RegistrationResponse.withdraws] at kept
      split_ifs <;> simp_all
  | tick lost => exact .inr ⟨lost, rfl⟩

/-- An ack timer that is off does nothing. -/
theorem Node.despatchAck_disarmed {node : Node} (off : node.ackTimer.armed = false)
    (now : BitVec 32) : node.despatchAck now = node := by
  rw [Node.despatchAck, due_of_disarmed now off]
  rfl

/-- Without a network, the coordinator record is severed. -/
def Ctx.Torn (ctx : Ctx) : Prop := ctx.link.seeking → ctx.Severed

section Torn

variable {σ : Mac} (client : Client σ.ctx)

include client

/-- A tick of a client that has lost its coordinator, or its wait. -/
theorem tick_severed (torn : σ.ctx.Torn) (tears : σ.ctx.TearsDown .tick)
    (seeking : (σ.step .tick).ctx.link.seeking) : (σ.step .tick).ctx.Severed := by
  have upstream := (client.step .tick).coord
  by_cases before : σ.ctx.link.seeking
  · have severed := torn before
    have record := tick_coord client
    rw [Node.despatchAck_disarmed severed.ack] at record
    refine ⟨?_, ?_, upstream.validity⟩ <;> rw [record] <;> split
    · rfl
    · exact severed.state
    · exact severed.ack
    · exact severed.ack
  · rcases (tick_seeking client before).mp seeking with lost | abandons
    · -- the last retry has failed
      have kept : ¬ σ.ctx.abandons := fun abandons => by simp [abandons.1] at lost
      have record : (σ.step .tick).ctx.coord =
          ((σ.ctx.coord.cancelAck.countRetry).cancelValidity).setState .unregistered := by
        simp only [Ctx.losesCoordinator, Bool.and_eq_true, beq_iff_eq] at lost
        rw [tick_coord client, if_neg kept, Node.despatchAck, if_pos lost.1, Node.ackExpire,
          if_neg (by simp [lost.2])]
      exact ⟨by rw [record]; rfl, by rw [record]; rfl, upstream.validity⟩
    · obtain ⟨kept, due, registering⟩ := (abandons_iff before).mp abandons
      have off := tears registering due kept
      have record := tick_coord client
      rw [if_pos abandons, Node.despatchAck_disarmed off] at record
      exact ⟨by rw [record]; rfl, by rw [record]; exact off, upstream.validity⟩

theorem Ctx.Torn.step (torn : σ.ctx.Torn) (input : Input) (tears : σ.ctx.TearsDown input) :
    (σ.step input).ctx.Torn := by
  intro seeking
  cases input with
  | recv buf size rssi =>
      by_cases before : σ.ctx.link.seeking
      · rcases recv_coord_seeking client before buf size rssi with ⟨same, -⟩ | ⟨-, left⟩
        · have severed := torn before
          show (tinymacRecvCb σ buf size rssi).ctx.Severed
          exact ⟨by rw [same]; exact severed.state, by rw [same]; exact severed.ack,
            by rw [same]; exact severed.validity⟩
        · exact absurd seeking left
      · rw [step_link σ client.role] at seeking
        rcases Link.step_loses before seeking with ⟨hdr, resp, is, detaches⟩ | ⟨lost, is⟩
        · obtain ⟨buf', size', rssi', same, attends, type, long, rfl, rfl⟩ := signal_response is
          cases same
          have detached : σ.ctx.detachedBy buf size := ⟨attends, type, long, detaches⟩
          exact absurd detached (tears (Link.not_seeking_iff.mp before))
        · cases signal_tick is
  | tick => exact tick_severed client torn tears seeking
  | send dest type buf validity cb =>
      rw [step_link σ client.role] at seeking
      have severed := torn seeking
      have same : (tinymacSend σ dest type buf validity cb).2.ctx.coord = σ.ctx.coord := by
        rcases send_coord client dest type buf validity cb with same | ⟨found, -⟩
        · exact same
        · have live := (getNodeByAddr_client client.role found).2.1
          exact absurd severed.state ((Node.live_iff _).mp live)
      show (tinymacSend σ dest type buf validity cb).2.ctx.Severed
      exact ⟨by rw [same]; exact severed.state, by rw [same]; exact severed.ack,
        by rw [same]; exact severed.validity⟩
  | permitAttach permit => exact ⟨(torn seeking).state, (torn seeking).ack, (torn seeking).validity⟩
  | registerRecvCb cb => exact ⟨(torn seeking).state, (torn seeking).ack, (torn seeking).validity⟩
  | registerRegCb cb => exact ⟨(torn seeking).state, (torn seeking).ack, (torn seeking).validity⟩
  | registerDeregCb cb => exact ⟨(torn seeking).state, (torn seeking).ack, (torn seeking).validity⟩

theorem Ctx.Torn.run (torn : σ.ctx.Torn) (inputs : List Input)
    (tears : σ.Along Ctx.TearsDown inputs) : (σ.run inputs).ctx.Torn := by
  induction inputs generalizing σ with
  | nil => exact torn
  | cons input inputs ih =>
      exact ih (client.step input) (torn.step client input tears.1) tears.2

end Torn

/-! ### What the ack timer inherits -/

/-- The packet an armed ack timer would send is the one it would have sent before. -/
def Node.Inherits (node after : Node) : Prop :=
  after.ackTimer.armed = true → node.ackTimer.armed = true ∧
    after.pendingHeader = node.pendingHeader ∧ after.pendingId = node.pendingId

theorem Attended.inherits {node after : Node} (attended : Attended node after) :
    node.Inherits after := by
  cases attended with
  | kept => exact fun armed => ⟨armed, rfl, rfl⟩
  | heard now rssi => exact fun armed => ⟨armed, rfl, rfl⟩
  | acked now rssi waiting => exact nofun

/-- A join leaves the timers and the packet of an earlier coordinator in the record. -/
theorem bind_inherits (ctx : Ctx) (hdr : Header) (uuid : BitVec 64) :
    ctx.coord.Inherits (ctx.bind hdr uuid).coord := fun armed => ⟨armed, rfl, rfl⟩

theorem Node.despatchAck_inherits (node : Node) (now : BitVec 32) :
    node.Inherits (node.despatchAck now) := by
  intro armed
  unfold Node.despatchAck Node.ackExpire at armed ⊢
  split_ifs at armed ⊢ with due
  · cases armed
  · exact ⟨armed_of_due due, rfl, rfl⟩
  · cases armed
  · exact ⟨armed, rfl, rfl⟩

section Inherits

variable {σ : Mac} (client : Client σ.ctx)

include client

theorem recv_inherits (buf : Memory) (size : Nat) (rssi : Int) :
    σ.ctx.coord.Inherits (tinymacRecvCb σ buf size rssi).ctx.coord := by
  by_cases seeking : σ.ctx.link.seeking
  · rcases recv_coord_seeking client seeking buf size rssi with ⟨same, -⟩ | ⟨joined, -⟩
    · rw [same]
      exact fun armed => ⟨armed, rfl, rfl⟩
    · rw [joined]
      exact bind_inherits _ _ _
  · exact (recv_coord_attached client seeking buf size rssi).inherits

theorem tick_inherits : σ.ctx.coord.Inherits (σ.step .tick).ctx.coord := by
  rw [tick_coord client]
  split
  · exact fun armed => σ.ctx.coord.despatchAck_inherits σ.ctx.tickCount armed
  · exact σ.ctx.coord.despatchAck_inherits σ.ctx.tickCount

/-- **What the ack timer would send again** after a step is what it would have sent before, or the
packet that `tinymac_send` builds in the step. -/
theorem Client.step_inherits (input : Input) :
    σ.ctx.coord.Inherits (σ.step input).ctx.coord ∨
      ∃ dest type buf validity cb, input = .send dest type buf validity cb ∧
        tinymacGetNodeByAddr σ.ctx dest = some .coord ∧ ackRequested type = true ∧
        (σ.step input).ctx.coord.pendingHeader = σ.ctx.buildHeader (some .coord) type ∧
        (σ.step input).ctx.coord.pendingId = σ.built + 1 := by
  cases input with
  | recv buf size rssi => exact .inl (recv_inherits client buf size rssi)
  | tick => exact .inl (tick_inherits client)
  | send dest type buf validity cb =>
      have kept (same : (tinymacSend σ dest type buf validity cb).2.ctx.coord = σ.ctx.coord) :
          σ.ctx.coord.Inherits (tinymacSend σ dest type buf validity cb).2.ctx.coord := by
        rw [same]
        exact fun armed => ⟨armed, rfl, rfl⟩
      rcases send_coord client dest type buf validity cb with same | ⟨found, -, validity', accepted⟩
      · exact .inl (kept same)
      · rcases σ.ctx.coord.accept_pending σ.ctx.tickCount type validity' (σ.built + 1)
          (σ.ctx.buildHeader (some .coord) type) buf cb with same | ⟨⟨is, -, number⟩, waits⟩
        · exact .inl (kept (accepted.trans same))
        · exact .inr ⟨dest, type, buf, validity, cb, rfl, found,
            waits.resolve_left (Bool.eq_false_iff.mp client.coord.awake),
            (congrArg Node.pendingHeader accepted).trans is,
            (congrArg Node.pendingId accepted).trans number⟩
  | permitAttach | registerRecvCb | registerRegCb | registerDeregCb =>
      exact .inl fun armed => ⟨armed, rfl, rfl⟩

/-- **From a record without an ack timer on**, in any run, the timer is for packets that are built
later. -/
theorem Client.run_later {base : Nat} (built : base ≤ σ.built)
    (later : σ.ctx.coord.ackTimer.armed = true → base < σ.ctx.coord.pendingId)
    (inputs : List Input) : (σ.run inputs).ctx.coord.ackTimer.armed = true →
      base < (σ.run inputs).ctx.coord.pendingId := by
  induction inputs generalizing σ with
  | nil => exact later
  | cons input inputs ih =>
      refine ih (client.step input)
        (built.trans (step_clientOps σ client.role input).built_le) fun armed => ?_
      rcases client.step_inherits input with inherits | ⟨_, _, _, _, _, -, -, -, -, number⟩
      · obtain ⟨earlier, -, same⟩ := inherits armed
        rw [same]
        exact later earlier
      · rw [number]
        exact Nat.lt_succ_of_le built

end Inherits

/-! ### Teardown -/

/-- **Teardown is complete** along every run that never drops the link alone: in each state without
a network the coordinator record is free and its timers are off. So whatever comes next, the ack
timer only ever runs for a packet that is built later, and no packet from before is sent again or
ends a later registration. -/
theorem teardown_complete (boot : Boot) (role : boot.params.coordinator = false)
    (inputs : List Input) (tears : boot.start.Along Ctx.TearsDown inputs) :
    let σ := boot.start.run inputs
    σ.ctx.state = .unregistered ∨ σ.ctx.state = .beaconRequest →
      (σ.ctx.coord.state = .unregistered ∧ σ.ctx.coord.ackTimer.armed = false ∧
        σ.ctx.coord.validityTimer.armed = false) ∧
      ∀ later, (σ.run later).ctx.coord.ackTimer.armed = true →
        σ.built < (σ.run later).ctx.coord.pendingId := by
  intro σ seeking
  have started : boot.start.ctx.Torn := fun _ => by
    constructor <;> rw [start_coord] <;> rfl
  have severed := Ctx.Torn.run (start_client boot role) started inputs tears seeking
  refine ⟨⟨severed.state, severed.ack, severed.validity⟩, fun later => ?_⟩
  exact (reachable_client boot role inputs).run_later le_rfl
    (fun armed => absurd (severed.ack.symm.trans armed) (by decide)) later

/-- A client that gives its coordinator up after the last retry. -/
theorem teardown_complete_exhausted :
    let σ := (Boot.clientWith 7#64 0#16).start.run
      [.tick, .frame (beaconFrame 0x2A#8 3#8 beaconFlagsPermitAttach 0xC0#64) 0,
        .frame (registrationResponseFrame 0x2A#8 4#8
          ⟨7#64, 5#8, RegistrationStatus.success.code⟩) 0,
        .send 0#8 0x50#8 [1#8] 0#16 none, .tick, .tick, .tick, .tick, .tick]
    σ.ctx.state = .unregistered ∧ σ.ctx.coord.state = .unregistered := by
  intro σ
  have unregistered : σ.ctx.state = .unregistered := by decide +kernel
  refine ⟨unregistered, (teardown_complete (Boot.clientWith 7#64 0#16) rfl _ ?_
    (.inl unregistered)).1.1⟩
  refine ⟨?_, fun _ => by decide +kernel, fun _ => by decide +kernel, trivial, ?_, ?_, ?_, ?_, ?_,
    trivial⟩
  all_goals exact fun registering => absurd registering (by decide +kernel)

/-- A client that waits for an acknowledgement is told of a clash over its address. The record keeps
waiting, and four ticks into the next registration its ack timer ends that one. -/
theorem clash_leaves_ack_timer :
    let join : List Input :=
      [.tick, .frame (beaconFrame 0x2A#8 3#8 beaconFlagsPermitAttach 0xC0#64) 0,
        .frame (registrationResponseFrame 0x2A#8 4#8
          ⟨7#64, 5#8, RegistrationStatus.success.code⟩) 0]
    let clash : Frame := ⟨⟨headerFlags PacketType.registrationResponse.code, 0x2A#8, 5#8, 0#8, 9#8⟩,
      RegistrationResponse.bytes
        ⟨0#64, addrUnassigned, RegistrationStatus.addressInvalid.code⟩⟩
    let σ := (Boot.clientWith 7#64 0#16).start.run
      (join ++ [.send 0#8 0x50#8 [1#8] 0#16 none, .frame clash 0])
    let again := σ.run join
    σ.ctx.state = .unregistered ∧ σ.ctx.coord.state = .waitAck ∧
      σ.ctx.coord.ackTimer.armed = true ∧ again.ctx.state = .registered ∧
      (again.run [.tick, .tick, .tick, .tick]).ctx.state = .unregistered := by
  decide +kernel

/-! ### The identity of data -/

/-- A data frame has a source address and a network. -/
def Frame.identified (frame : Frame) : Prop :=
  typeRawData ≤ frame.hdr.type →
    frame.hdr.srcAddr ≠ addrUnassigned ∧ frame.hdr.netId ≠ networkAny

/-- `tinymac_send` takes a packet: it is data that fits into a frame, and the record at the address
is idle. -/
def Ctx.Takes (ctx : Ctx) (dest type : BitVec 8) (buf : List Byte) : Prop :=
  typeRawData ≤ type &&& flagsTypeMask.setWidth 8 ∧ ctx.fits buf ∧
    ∃ ptr, tinymacGetNodeByAddr ctx dest = some ptr ∧ (ctx.node ptr).state = .registered

/-- The packets that `tinymac_send` takes are sent while the client is registered. -/
def Ctx.SendsRegistered (ctx : Ctx) : Input → Prop
  | .send dest type buf _ _ => ctx.Takes dest type buf → ctx.state = .registered
  | _ => True

/-- The frames of a log are identified, and so is the packet the ack timer would send again. -/
structure Identity (σ : Mac) : Prop where
  sent : ∀ frame ∈ frames σ.out, frame.identified
  held : σ.ctx.coord.ackTimer.armed = true →
    σ.ctx.coord.pendingHeader.srcAddr ≠ addrUnassigned ∧
      σ.ctx.coord.pendingHeader.netId ≠ networkAny

/-- **The data a client puts on the air** is the packet of a call, or what the ack timer sends
again. -/
theorem Client.step_data_mem {σ : Mac} (client : Client σ.ctx) {input : Input} {frame : Frame}
    (member : frame ∈ frames (σ.step input).out) (data : typeRawData ≤ frame.hdr.type) :
    frame ∈ frames σ.out ∨
      (σ.ctx.coord.ackTimer.armed = true ∧
        frame = ⟨σ.ctx.coord.pendingHeader, σ.ctx.coord.pending⟩) ∨
      ∃ dest type buf validity cb, input = .send dest type buf validity cb ∧
        tinymacGetNodeByAddr σ.ctx dest = some .coord ∧
        frame = ⟨σ.ctx.buildHeader (some .coord) type, buf⟩ := by
  refine ((client.step_events input).frame_mem (fun packet frame flags logged =>
    (⟨packet, flags, logged⟩ : ∃ packet flags, StepEvent σ.ctx input (.phySend packet frame flags)))
    member).imp_right ?_
  rintro ⟨packet, flags, logged⟩
  cases logged with
  | silent _ is => exact is.elim
  | ackFrame hdr asked heard =>
      rw [ackHeader_type] at data
      exact absurd data (rawData_not_control .ack)
  | control id frame type own is source => exact absurd (is ▸ data) (rawData_not_control type)
  | data id dest type buf validity cb sends found _ =>
      exact .inr ⟨dest, type, buf, validity, cb, sends, found, rfl⟩
  | retried ticks armed => exact .inl ⟨armed, rfl⟩

section Identity

variable {σ : Mac} (client : Client σ.ctx)

include client

/-- **A packet that is not taken** is refused: nothing goes out, and the record stays. -/
theorem send_refused {dest type : BitVec 8} {buf : List Byte}
    (refused : ¬ σ.ctx.Takes dest type buf) (validity : BitVec 16) (cb : Option SendCb) :
    (tinymacSend σ dest type buf validity cb).1 = -1 ∧
      frames (tinymacSend σ dest type buf validity cb).2.out = frames σ.out ∧
      (tinymacSend σ dest type buf validity cb).2.ctx.coord = σ.ctx.coord := by
  rcases client.send_cases dest type buf validity cb with same | ⟨data, found, validity', is⟩
  · rw [same]
    exact ⟨rfl, rfl, rfl⟩
  · rw [is]
    by_cases fits : σ.ctx.fits buf
    · have busy : (σ.ctx.node .coord).state ≠ .registered :=
        fun idle => refused ⟨data, fits, .coord, found, idle⟩
      rw [txPacket_busy _ _ _ _ _ _ fits busy]
      exact ⟨rfl, by simp [Mac.nextSeq], rfl⟩
    · rw [txPacket_oversize _ _ _ _ _ _ fits]
      exact ⟨rfl, rfl, rfl⟩

/-- The packets a registered client builds are identified. -/
theorem registered_identity (registered : σ.ctx.state = .registered) (type : BitVec 8) :
    (σ.ctx.buildHeader (some .coord) type).srcAddr ≠ addrUnassigned ∧
      (σ.ctx.buildHeader (some .coord) type).netId ≠ networkAny := by
  constructor
  · show σ.ctx.addr ≠ addrUnassigned
    exact client.assigned registered
  · show σ.ctx.netId ≠ networkAny
    exact client.networked registered

theorem Identity.step (identity : Identity σ) (input : Input)
    (sends : σ.ctx.SendsRegistered input) : Identity (σ.step input) := by
  by_cases refused : ∃ dest type buf validity cb, input = .send dest type buf validity cb ∧
      ¬ σ.ctx.Takes dest type buf
  · obtain ⟨dest, type, buf, validity, cb, rfl, refused⟩ := refused
    obtain ⟨-, sent, record⟩ := send_refused client refused validity cb
    exact ⟨fun frame member => identity.sent frame (sent ▸ member), fun armed => by
      rw [Mac.step, record] at armed ⊢
      exact identity.held armed⟩
  have registered {dest type : BitVec 8} {buf : List Byte} {validity : BitVec 16}
      {cb : Option SendCb} (is : input = .send dest type buf validity cb) :
      σ.ctx.state = .registered := by
    subst is
    exact sends (not_not.mp fun other => refused ⟨dest, type, buf, validity, cb, rfl, other⟩)
  refine ⟨fun frame member data => ?_, fun armed => ?_⟩
  · rcases client.step_data_mem member data with old | ⟨armed, rfl⟩ |
      ⟨dest, type, buf, validity, cb, is, -, rfl⟩
    · exact identity.sent frame old data
    · exact identity.held armed
    · exact registered_identity client (registered is) type
  · rcases client.step_inherits input with
      inherits | ⟨dest, type, buf, validity, cb, is, -, -, new, -⟩
    · rw [(inherits armed).2.1]
      exact identity.held (inherits armed).1
    · rw [new]
      exact registered_identity client (registered is) type

theorem Identity.run (identity : Identity σ) (inputs : List Input)
    (sends : σ.Along Ctx.SendsRegistered inputs) : Identity (σ.run inputs) := by
  induction inputs generalizing σ with
  | nil => exact identity
  | cons input inputs ih =>
      exact ih (client.step input) (identity.step client input sends.1) sends.2

end Identity

/-- **Data is identified** along every run in which the packets that `tinymac_send` takes are sent
while the client is registered: each data frame has a source address and a network, and a call that
succeeds is made by a registered client. -/
theorem data_identified (boot : Boot) (role : boot.params.coordinator = false)
    (inputs : List Input) (sends : boot.start.Along Ctx.SendsRegistered inputs) :
    let σ := boot.start.run inputs
    (∀ frame ∈ frames σ.out, typeRawData ≤ frame.hdr.type →
      frame.hdr.srcAddr ≠ addrUnassigned ∧ frame.hdr.netId ≠ networkAny) ∧
    ∀ dest type buf validity cb, σ.ctx.SendsRegistered (.send dest type buf validity cb) →
      (tinymacSend σ dest type buf validity cb).1 = 0 → tinymacIsRegistered σ.ctx = 1 := by
  intro σ
  have client : Client σ.ctx := reachable_client boot role inputs
  have started : Identity boot.start := by
    refine ⟨fun frame member => ?_, fun armed => ?_⟩
    · rw [start_out] at member
      split at member <;> cases member
    · rw [start_coord] at armed
      cases armed
  have identity := started.run (start_client boot role) inputs sends
  refine ⟨identity.sent, fun dest type buf validity cb registered succeeds => ?_⟩
  by_cases takes : σ.ctx.Takes dest type buf
  · rw [tinymacIsRegistered, if_pos (registered takes)]
  · rw [(send_refused client takes validity cb).1] at succeeds
    cases succeeds

/-- A registered client sends a packet, and sends it again after a tick without an
acknowledgement. -/
theorem data_identified_retry :
    let σ := (Boot.clientWith 7#64 0#16).start.run
      [.tick, .frame (beaconFrame 0x2A#8 3#8 beaconFlagsPermitAttach 0xC0#64) 0,
        .frame (registrationResponseFrame 0x2A#8 4#8
          ⟨7#64, 5#8, RegistrationStatus.success.code⟩) 0,
        .send 0#8 0x50#8 [1#8] 0#16 none, .tick, .tick]
    (frames σ.out).countP (fun frame => typeRawData ≤ frame.hdr.type) = 2 ∧
      ∀ frame ∈ frames σ.out, typeRawData ≤ frame.hdr.type →
        frame.hdr.srcAddr ≠ addrUnassigned ∧ frame.hdr.netId ≠ networkAny := by
  refine ⟨by decide +kernel, (data_identified (Boot.clientWith 7#64 0#16) rfl _ ?_).1⟩
  exact ⟨trivial, trivial, trivial, fun _ => by decide +kernel, trivial, trivial, trivial⟩

/-- A client that waits for its address sends data without one, and a client that was told of a
clash sends data without an address and a network. Both calls succeed. -/
theorem data_without_identity :
    let join : List Input :=
      [.tick, .frame (beaconFrame 0x2A#8 3#8 beaconFlagsPermitAttach 0xC0#64) 0]
    let clash : List Input :=
      [.frame (registrationResponseFrame 0x2A#8 4#8
          ⟨7#64, 5#8, RegistrationStatus.success.code⟩) 0,
        .frame ⟨⟨headerFlags PacketType.registrationResponse.code, 0x2A#8, 5#8, 0#8, 9#8⟩,
          RegistrationResponse.bytes
            ⟨0#64, addrUnassigned, RegistrationStatus.addressInvalid.code⟩⟩ 0]
    let joining := (Boot.clientWith 7#64 0#16).start.run join
    let detached := joining.run clash
    tinymacIsRegistered joining.ctx = 0 ∧ tinymacIsRegistered detached.ctx = 0 ∧
      (tinymacSend joining 0#8 0x10#8 [1#8] 0#16 none).1 = 0 ∧
      (joining.step (.send 0#8 0x10#8 [1#8] 0#16 none)).sentSince joining =
        [⟨⟨headerFlags 0x10#8, 0x2A#8, 0#8, addrUnassigned, 3#8⟩, [1#8]⟩] ∧
      (tinymacSend detached 0#8 0x10#8 [1#8] 0#16 none).1 = 0 ∧
      (detached.step (.send 0#8 0x10#8 [1#8] 0#16 none)).sentSince detached =
        [⟨⟨headerFlags 0x10#8, networkAny, 0#8, addrUnassigned, 3#8⟩, [1#8]⟩] := by
  decide +kernel

end TinyHan.Tinymac
