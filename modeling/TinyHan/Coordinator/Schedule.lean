/-
**The beacon schedule.**

A tick of a coordinator advances its slot counter and sends a sync beacon if the counter is at
`beacon_offset` modulo two to the `beacon_interval`. No other step sends one, and no packet of a
record is one (`Ctx.Unsynced`), so the sync beacons of a run are the visits of a counter that wraps
(`run_syncs`).

* `step_syncs` — the sync beacons of one step;
* `run_syncs` — those of a run, from any state reached;
* `beacon_schedule_iff` — every period has its beacon. The value of `beacon_interval` that stands
  for no beacon is read as a period of 32768 slots like any other.
-/

import TinyHan.Coordinator.Events
import TinyHan.Lib.Schedule

namespace TinyHan.Tinymac

open TinyHan.Lib

/-- The frame is a beacon with the SYNC flag. -/
def Frame.sync (frame : Frame) : Bool :=
  frame.hdr.type == PacketType.beacon.code &&
    (readBeacon frame.memory 0).flags &&& beaconFlagsSync != 0#8

/-- How many sync beacons a context has handed to `phy_send`. -/
def Mac.syncs (σ : Mac) : Nat := (frames σ.out).countP Frame.sync

/-- The event is no sync beacon. -/
def Event.unsync : Event → Prop
  | .phySend _ frame _ => frame.sync = false
  | _ => True

theorem Event.unsync_of_standby (event : Event) (standby : event.standby) : event.unsync := by
  cases event <;> first | exact standby.elim | trivial

/-- No slot holds a sync beacon. -/
def Ctx.Unsynced (ctx : Ctx) : Prop := ∀ index, (ctx.nodes index).packet.sync = false

theorem sync_of_type {frame : Frame} (other : frame.hdr.type ≠ PacketType.beacon.code) :
    frame.sync = false := by
  simp [Frame.sync, other]

theorem beacon_flags (ctx : Ctx) (periodic : Bool) :
    ((ctx.beacon periodic).flags &&& beaconFlagsSync != 0#8) = periodic := by
  rw [Ctx.beacon]
  dsimp only
  generalize ctx.permitAttach = permit
  revert periodic permit
  decide

/-- A beacon is a sync beacon if it is periodic. -/
theorem beacon_sync (ctx : Ctx) (periodic : Bool) :
    Frame.sync ⟨ctx.beaconHeader, (ctx.beacon periodic).bytes⟩ = periodic := by
  have read := congrArg Beacon.flags (readBeacon_frame ctx.beaconHeader (ctx.beacon periodic))
  -- the flags do not depend on how much of the address list is read
  have flags : (readBeacon (Frame.memory ⟨ctx.beaconHeader, (ctx.beacon periodic).bytes⟩) 0).flags =
      (ctx.beacon periodic).flags := read
  rw [Frame.sync, flags, beaconHeader_type, beq_self_eq_true, Bool.true_and, beacon_flags]

/-- No packet of `tinymac_tx_packet` is a beacon. -/
theorem Packet.type_ne {ctx : Ctx} {dest : Option NodePtr} {type : BitVec 8} {payload : List Byte}
    (packet : Packet ctx dest type payload) :
    (ctx.buildHeader dest type).type ≠ PacketType.beacon.code := by
  cases packet with
  | data index type payload live data =>
      intro beacon
      rw [← buildHeader_type ctx (some (.slot index)), beacon] at data
      exact rawData_not_control .beacon data
  | response | expulsion | detachment =>
      rw [buildHeader_control]
      decide

section Log

variable {σ τ : Mac}

theorem Emits.syncs_eq (emits : Emits Event.unsync σ τ) : τ.syncs = σ.syncs := by
  obtain ⟨new, grown, ok⟩ := emits
  have none : (frames new).countP Frame.sync = 0 := by
    rw [List.countP_eq_zero]
    intro frame member
    obtain ⟨event, logged, is⟩ := List.mem_filterMap.mp member
    cases event with
    | phySend packet sent flags =>
        cases is
        have unsync : frame.sync = false := ok _ logged
        simp [unsync]
    | _ => cases is
  rw [Mac.syncs, grown, frames_append, List.countP_append, none, Nat.add_zero, Mac.syncs]

end Log

section Ops

variable {ok : Condition} {σ τ : Mac}

/-- **Every operation keeps sync beacons out of the slots.** -/
theorem Op.unsynced (op : Op ok σ τ) (coordinator : Coordinator σ.ctx)
    (unsynced : σ.ctx.Unsynced) : τ.ctx.Unsynced := by
  intro index
  rcases op.at_slot coordinator index with same | change
  · rw [same]
    exact unsynced index
  · rcases change.packet with ⟨same, -⟩ | ⟨type, payload, packet, new, -⟩
    · rw [same]
      exact unsynced index
    · rw [new]
      exact sync_of_type packet.type_ne

theorem Ops.unsynced (ops : Ops ok σ τ) (coordinator : Coordinator σ.ctx)
    (unsynced : σ.ctx.Unsynced) : τ.ctx.Unsynced :=
  (ops.preserve (P := fun τ => τ.ctx.Unsynced) coordinator
    (fun coordinator unsynced op => op.unsynced coordinator unsynced) unsynced).2

/-- Where there is no tick, no operation sends a sync beacon. -/
theorem Op.unsync (op : Op ok σ τ) (coordinator : Coordinator σ.ctx) (timers : ¬ ok.timers)
    (unsynced : σ.ctx.Unsynced) : Emits Event.unsync σ τ := by
  refine (op.emits coordinator).mono fun event logged => ?_
  cases logged with
  | silent event is => cases event <;> first | exact is.elim | trivial
  | beacon periodic flags allowed =>
      have once : periodic = false := by
        rw [← Bool.not_eq_true]
        exact fun periodic => timers (allowed periodic)
      subst once
      exact beacon_sync σ.ctx false
  | ackFrame index seq live =>
      refine sync_of_type ?_
      rw [ackHeader_type]
      decide
  | built dest type payload packet counted enrolled => exact sync_of_type packet.type_ne
  | released index pending => exact unsynced index
  | retried index armed => exact unsynced index
  | gone | called | assumed | acked | failed => trivial

theorem Ops.unsync (ops : Ops ok σ τ) (coordinator : Coordinator σ.ctx) (timers : ¬ ok.timers)
    (unsynced : σ.ctx.Unsynced) : Emits Event.unsync σ τ :=
  (ops.preserve (P := fun τ => τ.ctx.Unsynced ∧ Emits Event.unsync σ τ) coordinator
    (fun coordinator both op => ⟨op.unsynced coordinator both.1,
      both.2.trans (op.unsync coordinator timers both.1)⟩) ⟨unsynced, .refl σ⟩).2.2

end Ops

/-! ### The tick -/

section Tick

variable {σ : Mac}

/-- The loop over the slots sends what they hold. -/
theorem foldl_tickSlot_unsync (rest : List Slot) (coordinator : Coordinator σ.ctx)
    (unsynced : σ.ctx.Unsynced) : Emits Event.unsync σ (rest.foldl tickSlot σ) := by
  induction rest generalizing σ with
  | nil => exact .refl σ
  | cons first rest ih =>
      have ops : Ops .any σ (tickSlot σ first) := tickSlot_ops trivial σ first
      have ticked : Emits Event.unsync σ (tickSlot σ first) :=
        tickSlot_emits σ first Event.unsync_of_standby (fun _ => unsynced first)
          (fun _ _ => trivial) trivial
      exact ticked.trans (ih (coordinator.of_identity ops.identity)
        (ops.unsynced coordinator unsynced))

/-- **A tick sends a sync beacon if one is due** in the slot that begins. -/
theorem tick_syncs (coordinator : Coordinator σ.ctx) (unsynced : σ.ctx.Unsynced) :
    (σ.step .tick).syncs = σ.syncs + if σ.ctx.nextSlot.beaconDue then 1 else 0 := by
  have begun : σ.beginSlot.ctx.Unsynced := by
    intro index
    rw [beginSlot_ctx coordinator, tickBeacon_nodes]
    exact unsynced index
  have loop := foldl_tickSlot_unsync slots (beginSlot_coordinator coordinator) begun
  have rest : (σ.step .tick).syncs = σ.beginSlot.syncs := by
    rw [step_tick coordinator, ← loop.syncs_eq, Mac.syncs, update_out, Mac.syncs]
  have due : (σ.update Ctx.nextSlot).ctx.beaconDue = σ.ctx.nextSlot.beaconDue := rfl
  rw [rest, Mac.beginSlot, due]
  split
  · have role : (σ.update Ctx.nextSlot).ctx.params.coordinator = true := coordinator.role
    rw [Mac.syncs, txBeacon_frames _ true role, List.countP_append, List.countP_singleton,
      beacon_sync]
    rfl
  · rfl

/-- **The sync beacons of a step.** -/
theorem step_syncs (coordinator : Coordinator σ.ctx) (unsynced : σ.ctx.Unsynced) (input : Input) :
    (σ.step input).syncs =
      σ.syncs + if input.isTick ∧ σ.ctx.nextSlot.beaconDue then 1 else 0 := by
  cases ticks : input.isTick with
  | false =>
      have ops := step_ops σ coordinator input (admits_untimed σ.ctx ticks)
      rw [(ops.unsync coordinator id unsynced).syncs_eq]
      simp
  | true =>
      cases input <;> cases ticks
      rw [tick_syncs coordinator unsynced]
      simp

end Tick

/-! ### Runs -/

/-- **A beacon is due** when the slot counter is at the offset, modulo the period. -/
theorem beaconDue_iff {ctx : Ctx} (short : ctx.params.beaconInterval.toNat ≤ 16) :
    ctx.beaconDue = true ↔
      ctx.slot.toNat % 2 ^ ctx.params.beaconInterval.toNat = ctx.params.beaconOffset.toNat := by
  have power : 2 ^ ctx.params.beaconInterval.toNat ≤ 2 ^ 16 := Nat.pow_le_pow_right two_pos short
  have positive := Nat.two_pow_pos ctx.params.beaconInterval.toNat
  have mask : (1#32 <<< ctx.params.beaconInterval.toNat - 1#32).toNat =
      2 ^ ctx.params.beaconInterval.toNat - 1 := by
    rw [BitVec.toNat_sub, BitVec.toNat_shiftLeft]
    simp only [BitVec.toNat_ofNat, Nat.shiftLeft_eq]
    omega
  have slot : (ctx.slot.setWidth 32).toNat = ctx.slot.toNat := by
    rw [BitVec.toNat_setWidth]
    omega
  rw [Ctx.beaconDue, beq_iff_eq, ← BitVec.toNat_inj, BitVec.toNat_and, mask, slot,
    Nat.and_two_pow_sub_one_eq_mod, BitVec.toNat_setWidth]
  omega

/-- **The sync beacons of a run** are the visits of the slot counter to the offset. -/
theorem run_syncs {σ : Mac} (coordinator : Coordinator σ.ctx) (unsynced : σ.ctx.Unsynced)
    (short : σ.ctx.params.beaconInterval.toNat ≤ 16) (inputs : List Input) :
    (σ.run inputs).syncs = σ.syncs + visits (2 ^ σ.ctx.params.beaconInterval.toNat)
      σ.ctx.params.beaconOffset.toNat (σ.ctx.slot.toNat + 1) (inputs.countP Input.isTick) := by
  induction inputs generalizing σ with
  | nil => simp
  | cons input inputs ih =>
      have params : (σ.step input).ctx.params = σ.ctx.params :=
        congrArg Prod.fst (step_identity σ coordinator input)
      have clocks := step_clocks σ coordinator input
      have next := step_syncs coordinator unsynced input
      rw [run_cons, ih (coordinator.of_identity (step_identity σ coordinator input))
        ((step_ops σ coordinator input (admits_any _ _)).unsynced coordinator unsynced)
        (by rwa [params]), params, next, List.countP_cons]
      cases ticks : input.isTick with
      | false =>
          rw [ticks] at clocks
          have slot : (σ.step input).ctx.slot = σ.ctx.slot := congrArg Prod.snd clocks
          simp [slot]
      | true =>
          rw [ticks] at clocks
          have advanced : (σ.step input).ctx.slot = σ.ctx.slot + 1#16 := congrArg Prod.snd clocks
          have slot : (σ.step input).ctx.slot.toNat = (σ.ctx.slot.toNat + 1) % 2 ^ 16 := by
            rw [advanced]
            exact BitVec.toNat_add ..
          have wraps : (σ.ctx.slot.toNat + 1) % 2 ^ 16 ≡ σ.ctx.slot.toNat + 1
              [MOD 2 ^ σ.ctx.params.beaconInterval.toNat] :=
            Nat.mod_mod_of_dvd _ (pow_dvd_pow 2 short)
          have due : σ.ctx.nextSlot.beaconDue = true ↔
              (σ.ctx.slot.toNat + 1) % 2 ^ σ.ctx.params.beaconInterval.toNat =
                σ.ctx.params.beaconOffset.toNat := by
            rw [beaconDue_iff (by exact short), ← wraps]
            exact Iff.rfl
          rw [slot, visits_congr (wraps.add_right 1), if_pos rfl, visits_succ, Nat.add_assoc]
          simp only [true_and, due]

theorem reachable_unsynced (boot : Boot) (role : boot.params.coordinator = true)
    (inputs : List Input) : (boot.start.run inputs).ctx.Unsynced := by
  have blank : Node.zero.packet.sync = false := by decide
  refine (run_induction_any (P := fun σ => σ.ctx.Unsynced)
    (fun coordinator unsynced op => op.unsynced coordinator unsynced)
    (start_coordinator boot role) (fun index => ?_) inputs).2
  rw [start_nodes]
  exact blank

/-- The beacon schedule, over every run: in whatever state it begins, a stretch of a run with as
many ticks as the period has slots sends one sync beacon, and with the interval that stands for no
beacon nothing sends one. -/
def Boot.Scheduled (boot : Boot) : Prop :=
  ∀ before stretch : List Input,
    let σ := boot.start.run before
    (boot.params.beaconInterval.toNat ≤ 14 →
      boot.params.beaconOffset.toNat < 2 ^ boot.params.beaconInterval.toNat →
      stretch.countP Input.isTick = 2 ^ boot.params.beaconInterval.toNat →
      (σ.run stretch).syncs = σ.syncs + 1) ∧
    (boot.params.beaconInterval = beaconIntervalNoBeacon → (σ.run stretch).syncs = σ.syncs)

/-- **One period, one beacon**: in any state reached, for every period that divides the turn of the
slot counter. -/
theorem period_syncs (boot : Boot) (role : boot.params.coordinator = true)
    (short : boot.params.beaconInterval.toNat ≤ 16)
    (inside : boot.params.beaconOffset.toNat < 2 ^ boot.params.beaconInterval.toNat)
    (before : List Input) {stretch : List Input}
    (period : stretch.countP Input.isTick = 2 ^ boot.params.beaconInterval.toNat) :
    ((boot.start.run before).run stretch).syncs = (boot.start.run before).syncs + 1 := by
  obtain ⟨coordinator, identity⟩ := reachable_identity boot role before
  have params : (boot.start.run before).ctx.params = boot.params :=
    (congrArg Prod.fst identity).trans (start_params boot)
  rw [run_syncs coordinator (reachable_unsynced boot role before) (by rwa [params]), params, period,
    visits_period inside]

/-- **The beacon schedule holds unless no beacon is asked for.** -/
theorem beacon_schedule_iff (boot : Boot) (role : boot.params.coordinator = true) :
    boot.Scheduled ↔ boot.params.beaconInterval ≠ beaconIntervalNoBeacon := by
  constructor
  · intro scheduled none
    -- the interval is read as a period like any other, and the offset is inside it
    have interval : boot.params.beaconInterval.toNat = 15 := by rw [none]; rfl
    have inside : boot.params.beaconOffset.toNat < 2 ^ boot.params.beaconInterval.toNat := by
      rw [interval]
      exact boot.params.beaconOffset.isLt.trans (by norm_num)
    have ticks : (List.replicate (2 ^ boot.params.beaconInterval.toNat) Input.tick).countP
        Input.isTick = 2 ^ boot.params.beaconInterval.toNat := by
      simp [List.countP_replicate, Input.isTick]
    have sent := period_syncs boot role (by omega) inside [] ticks
    rw [(scheduled [] _).2 none] at sent
    omega
  · intro beacons before stretch
    refine ⟨fun short inside period => ?_, fun none => absurd none beacons⟩
    exact period_syncs boot role (by omega) inside before period

/-- A coordinator with the given interval and offset of its beacons. -/
def Boot.beaconEvery (interval offset : BitVec 8) : Boot :=
  { Boot.coordinatorOn 0x2A#8 with params := ⟨0xC0#64, true, 0#16, interval, offset⟩ }

/-- Four ticks, with a frame among them, send one beacon at the interval of four slots. -/
theorem beacon_schedule_fourth :
    let σ := (Boot.beaconEvery 2#8 3#8).start.run [.permitAttach true, .tick]
    (σ.run [.tick, .tick, .frame (beaconRequestFrame 1#8) 0, .tick, .tick]).syncs =
      σ.syncs + 1 :=
  (((beacon_schedule_iff (Boot.beaconEvery 2#8 3#8) rfl).mpr (by decide)) _ _).1 (by decide)
    (by decide) rfl

/-- With the interval that stands for no beacon and offset 1, the first tick sends a sync beacon. -/
theorem no_beacon_interval_beacons :
    (Boot.beaconEvery beaconIntervalNoBeacon 1#8).start.syncs = 0 ∧
      ((Boot.beaconEvery beaconIntervalNoBeacon 1#8).start.step .tick).syncs = 1 := by
  decide +kernel

end TinyHan.Tinymac
