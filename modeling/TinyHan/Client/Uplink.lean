/-
**What a client puts on the air**, as long as what it hears comes from its coordinator.

A client takes the address of its coordinator from the source of a beacon, and its own from a
registration response. If both are genuine (`Frame.Genuine`), its coordinator record stays at
address zero and its own address is another one (`Uplink`). So everything it sends is told from the
frames of the coordinator by its source, and is genuine again; and an acknowledgement it sends is
the answer to a frame that it has attended to in the same step (`Uplink.acks`).
-/

import TinyHan.Client.Teardown
import TinyHan.Coordinator.Registry

namespace TinyHan.Tinymac

open TinyHan.Lib

/-- Beacons come from address zero, and no response gives address zero away. -/
structure Frame.Genuine (frame : Frame) : Prop where
  beacon : frame.hdr.type = PacketType.beacon.code → frame.hdr.srcAddr = 0#8
  grants : ∀ uuid addr, frame.Grants uuid addr → addr ≠ 0#8

/-- The input is no frame, or a genuine one. -/
def Input.Genuine (input : Input) : Prop :=
  ∀ buf size rssi, input = .recv buf size rssi → ∃ frame : Frame, buf = frame.memory ∧ frame.Genuine

/-- A client whose coordinator has address zero, and which has another one itself. -/
structure Uplink (σ : Mac) : Prop where
  client : Client σ.ctx
  addr : σ.ctx.addr ≠ 0#8
  coord : σ.ctx.coord.addr = 0#8
  held : σ.ctx.coord.ackTimer.armed = true → σ.ctx.coord.pendingHeader.srcAddr ≠ 0#8

theorem Attended.addr {node after : Node} (attended : Attended node after) :
    after.addr = node.addr := by
  cases attended <;> rfl

theorem Node.despatchAck_addr (node : Node) (now : BitVec 32) :
    (node.despatchAck now).addr = node.addr := by
  unfold Node.despatchAck Node.ackExpire
  split_ifs <;> rfl

/-- **The address of the coordinator** stays as it is in every step but the frame on which a client
joins a network. -/
theorem Client.step_coord_addr {σ : Mac} (client : Client σ.ctx) {input : Input}
    (bound : ∀ buf size rssi, input = .recv buf size rssi → ¬ σ.ctx.link.seeking) :
    (σ.step input).ctx.coord.addr = σ.ctx.coord.addr := by
  cases input with
  | recv buf size rssi =>
      exact (recv_coord_attached client (bound buf size rssi rfl) buf size rssi).addr
  | tick =>
      rw [tick_coord client]
      split
      · exact σ.ctx.coord.despatchAck_addr _
      · exact σ.ctx.coord.despatchAck_addr _
  | send dest type buf validity cb =>
      show (tinymacSend σ dest type buf validity cb).2.ctx.coord.addr = _
      rcases send_coord client dest type buf validity cb with same | ⟨-, -, _, accepted⟩
      · rw [same]
      · rw [accepted, (Node.accept_live ..).1]
  | permitAttach | registerRecvCb | registerRegCb | registerDeregCb => rfl

namespace Uplink

theorem start (boot : Boot) (role : boot.params.coordinator = false) : Uplink boot.start where
  client := start_client boot role
  addr := by
    rw [start_addr, if_neg (by simp [role])]
    decide
  coord := by
    rw [start_coord]
    rfl
  held armed := by
    rw [start_coord] at armed
    cases armed

section Step

variable {σ : Mac} (uplink : Uplink σ) {input : Input}

include uplink

theorem step_addr (genuine : input.Genuine) : (σ.step input).ctx.addr ≠ 0#8 := by
  by_cases registered : (σ.step input).ctx.state = .registered
  · rcases uplink.client.step_address registered with ⟨-, kept⟩ |
      ⟨buf, size, rssi, is, type, given, named⟩
    · rw [kept]
      exact uplink.addr
    · obtain ⟨frame, rfl, real⟩ := genuine buf size rssi is
      rw [readHeader_frame] at type
      exact real.grants _ _ ⟨type, given, named⟩
  · rw [(uplink.client.step input).unaddressed registered]
    decide

theorem recv_coord_addr {buf : Memory} {size : Nat} {rssi : Int}
    (genuine : (Input.recv buf size rssi).Genuine) :
    (tinymacRecvCb σ buf size rssi).ctx.coord.addr = 0#8 := by
  have client := uplink.client
  by_cases seeking : σ.ctx.link.seeking
  · rcases recv_coord_seeking client seeking buf size rssi with ⟨same, -⟩ | ⟨joined, left⟩
    · rw [same]
      exact uplink.coord
    · -- the address is the source of the beacon
      rw [joined]
      show (readHeader buf).srcAddr = 0#8
      have moved := step_link σ client.role (.recv buf size rssi)
      have after : ¬ (σ.ctx.link.step (σ.ctx.signal (.recv buf size rssi))).seeking := by
        rw [← moved]
        exact left
      obtain ⟨hdr, is, -⟩ := Link.step_binds seeking after
      obtain ⟨_, _, _, same, -, type, -⟩ := signal_beacon is
      cases same
      obtain ⟨frame, rfl, real⟩ := genuine buf size rssi rfl
      rw [readHeader_frame] at type ⊢
      exact real.beacon type
  · rw [(recv_coord_attached client seeking buf size rssi).addr]
    exact uplink.coord

theorem step_coord (genuine : input.Genuine) : (σ.step input).ctx.coord.addr = 0#8 := by
  by_cases frame : ∃ buf size rssi, input = .recv buf size rssi
  · obtain ⟨buf, size, rssi, rfl⟩ := frame
    exact uplink.recv_coord_addr genuine
  · refine (uplink.client.step_coord_addr fun buf size rssi is => ?_).trans uplink.coord
    exact absurd ⟨buf, size, rssi, is⟩ frame

theorem step_held (armed : (σ.step input).ctx.coord.ackTimer.armed = true) :
    (σ.step input).ctx.coord.pendingHeader.srcAddr ≠ 0#8 := by
  rcases uplink.client.step_inherits input with inherits | ⟨_, type, _, _, _, -, -, -, new, -⟩
  · rw [(inherits armed).2.1]
    exact uplink.held (inherits armed).1
  · rw [new]
    exact uplink.addr

/-- **A client stays uplinked** as long as what it hears is genuine. -/
theorem step (genuine : input.Genuine) : Uplink (σ.step input) where
  client := uplink.client.step input
  addr := uplink.step_addr genuine
  coord := uplink.step_coord genuine
  held := uplink.step_held

end Step

/-! ### Its frames -/

section Frames

variable {σ : Mac} (uplink : Uplink σ) {input : Input} {packet : Option Nat} {frame : Frame}
  {flags : BitVec 8} (logged : StepEvent σ.ctx input (.phySend packet frame flags))

include uplink logged

/-- The frames of a client do not come from address zero. -/
theorem srcAddr : frame.hdr.srcAddr ≠ 0#8 := by
  cases logged with
  | silent _ is => exact is.elim
  | ackFrame hdr asked heard => exact uplink.addr
  | control id frame type own is source =>
      rw [source]
      exact uplink.addr
  | data id dest type buf validity cb sends found raw => exact uplink.addr
  | retried ticks armed => exact uplink.held armed

/-- A client sends acknowledgements, its own control packets and data. -/
theorem frame_type : frame.hdr.type = PacketType.ack.code ∨ clientType frame.hdr.type := by
  cases logged with
  | silent _ is => exact is.elim
  | ackFrame hdr asked heard => exact .inl (ackHeader_type ..)
  | control id frame type own is source =>
      rw [is]
      rcases own with rfl | rfl | rfl
      · exact .inr (.inl rfl)
      · exact .inr (.inr (.inl rfl))
      · exact .inr (.inr (.inr (.inl rfl)))
  | data id dest type buf validity cb sends found raw =>
      refine .inr (.inr (.inr (.inr ?_)))
      rw [buildHeader_type]
      exact raw
  | retried ticks armed => exact .inr (.inr (.inr (.inr (uplink.client.coord.pending armed))))

/-- A client sends no beacon, and gives no address away. -/
theorem genuine : frame.Genuine := by
  have kind := uplink.frame_type logged
  constructor
  · intro beacon
    exfalso
    rw [beacon] at kind
    revert kind
    unfold clientType
    decide
  · rintro uuid addr ⟨response, -⟩
    exfalso
    rw [response] at kind
    revert kind
    unfold clientType
    decide

/-- **An acknowledgement of a client** answers a frame that it has attended to. -/
theorem acks (ack : frame.hdr.type = PacketType.ack.code) :
    ∃ hdr, hdr.ackRequest = true ∧ σ.ctx.hears input hdr σ.ctx.link ∧
      frame.hdr = σ.ctx.ackHeader σ.ctx.coord hdr.seq := by
  cases logged with
  | silent _ is => exact is.elim
  | ackFrame hdr asked heard => exact ⟨hdr, asked, heard, rfl⟩
  | control id frame type own is source =>
      rw [is] at ack
      rcases own with rfl | rfl | rfl <;> cases ack
  | data id dest type buf validity cb sends found raw =>
      rw [← buildHeader_type σ.ctx (some .coord), ack] at raw
      exact absurd raw (rawData_not_control .ack)
  | retried ticks armed =>
      have raw := uplink.client.coord.pending armed
      rw [ack] at raw
      exact absurd raw (rawData_not_control .ack)

end Frames

end Uplink

end TinyHan.Tinymac
