/-
**The callbacks for nodes that come and go.**

`reg_cb` is invoked behind every registration request and `dereg_cb` in every
`tinymac_deregister_node`. `Reported` says when a step's invocations tell the truth: a registration
is reported with the slot that now holds the node, and `dereg_cb` is invoked once for each slot that
loses its node and for no other.

* `tick_departures` — what a tick reports of a slot: the end of its heartbeat, and the end of its
  retries, whether it is live or not;
* `recv_deregistration_reported`, `registration_reported_iff` — what the two requests report;
* `departures_balance` — along a run: a registration ends in one report, or is live.
-/

import TinyHan.Coordinator.Timers

namespace TinyHan.Tinymac

open TinyHan.Lib

/-- The UUID of the node that is registered in a slot. -/
def Node.tenant (node : Node) : Option (BitVec 64) := if node.live then some node.uuid else none

/-- The events logged since an earlier state. -/
def Mac.loggedSince (after before : Mac) : List Event := after.out.drop before.out.length

/-- How often `dereg_cb` has been invoked for a slot. -/
def Mac.departures (σ : Mac) (index : Slot) : Nat := σ.out.count (.deregCb (.slot index))

/-- The invocations of `reg_cb` and `dereg_cb` in a step tell what happened. -/
structure Reported (σ : Mac) (input : Input) : Prop where
  /-- `reg_cb` is given a slot, which is live with the UUID of the request. -/
  arrival : ∀ ptr, .regCb ptr ∈ (σ.step input).loggedSince σ → ∃ index buf size rssi,
    input = .recv buf size rssi ∧ ptr = some (.slot index) ∧
      ((σ.step input).ctx.nodes index).tenant = some (readRegistrationRequest buf).uuid
  /-- `dereg_cb` is given a slot that was live and is Unregistered. -/
  departure : ∀ ptr, .deregCb ptr ∈ (σ.step input).loggedSince σ → ∃ index, ptr = .slot index ∧
    (σ.ctx.nodes index).live = true ∧ ((σ.step input).ctx.nodes index).state = .unregistered
  /-- If it is set, it is invoked once for every slot that loses its node. -/
  once : ∀ index, (σ.step input).departures index = σ.departures index +
    if σ.ctx.deregCb = true ∧ (σ.ctx.nodes index).live = true ∧
      ((σ.step input).ctx.nodes index).tenant ≠ (σ.ctx.nodes index).tenant then 1 else 0
  /-- A node takes a slot by a registration request only. -/
  admitted : ∀ index, ((σ.step input).ctx.nodes index).live = true →
    ((σ.step input).ctx.nodes index).tenant ≠ (σ.ctx.nodes index).tenant →
    σ.ctx.Allocates index input

theorem tenant_isSome (node : Node) : node.tenant.isSome = node.live := by
  rw [Node.tenant]
  cases node.live <;> rfl

/-- With its UUID kept, the tenant of a slot changes with its being live. -/
theorem tenant_eq_iff {node node' : Node} (uuid : node'.uuid = node.uuid) :
    node'.tenant = node.tenant ↔ node'.live = node.live := by
  rw [Node.tenant, Node.tenant, uuid]
  cases node'.live <;> cases node.live <;> simp

/-! ### The log -/

/-- The events that are no invocation of `reg_cb` or `dereg_cb`. -/
def Event.mute : Event → Prop
  | .regCb _ => False
  | .deregCb _ => False
  | _ => True

theorem Event.mute_of_standby (event : Event) (standby : event.standby) : event.mute := by
  cases event <;> first | exact standby.elim | trivial

section Log

variable {σ τ : Mac}

theorem loggedSince_of_out {new : List Event} (grown : τ.out = σ.out ++ new) :
    τ.loggedSince σ = new := by
  rw [Mac.loggedSince, grown, List.drop_left]

theorem Emits.logged {P : Event → Prop} (emits : Emits P σ τ) {event : Event}
    (member : event ∈ τ.loggedSince σ) : P event := by
  obtain ⟨new, grown, ok⟩ := emits
  rw [loggedSince_of_out grown] at member
  exact ok event member

/-- A log that grows by no report of a slot. -/
theorem Emits.departures_eq {index : Slot}
    (emits : Emits (fun event => event ≠ .deregCb (.slot index)) σ τ) :
    τ.departures index = σ.departures index := by
  obtain ⟨new, grown, ok⟩ := emits
  rw [Mac.departures, grown, List.count_append,
    List.count_eq_zero.mpr fun member => ok _ member rfl, Nat.add_zero, Mac.departures]

theorem Event.mute.ne {event : Event} (mute : event.mute) (ptr : NodePtr) :
    event ≠ .deregCb ptr := by
  rintro rfl
  exact mute

theorem Emits.mute_departures (emits : Emits Event.mute σ τ) (index : Slot) :
    τ.departures index = σ.departures index :=
  (emits.mono fun _ mute => mute.ne _).departures_eq

/-- A step that says nothing and moves no node. -/
theorem Reported.of_mute {input : Input} (emits : Emits Event.mute σ (σ.step input))
    (same : ∀ index, ((σ.step input).ctx.nodes index).tenant = (σ.ctx.nodes index).tenant) :
    Reported σ input where
  arrival ptr logged := (emits.logged logged).elim
  departure ptr logged := (emits.logged logged).elim
  once index := by
    rw [if_neg fun both => both.2.2 (same index), Nat.add_zero]
    exact emits.mute_departures index
  admitted index _ moved := absurd (same index) moved

end Log

/-! ### The tick -/

section Tick

variable (node : Node) (now : BitVec 32)

/-- The heartbeat check of the tick drops the record. -/
def Node.drops : Bool := node.state == .registered && node.heartbeatExpired now

/-- The ack timer ends the last retry in the tick. -/
def Node.exhausts : Bool := node.ackTimer.due now && node.retries == 0#8

/-- How often a tick reports the departure of a slot. -/
def Node.tickReports (reporting : Bool) : Nat :=
  if reporting then (node.drops now).toNat + (node.exhausts now).toNat else 0

theorem Node.checkHeartbeat_eq :
    node.checkHeartbeat now = if node.drops now then node.setState .unregistered else node := by
  simp [Node.checkHeartbeat, Node.drops]

/-- **A record behind a tick**: one that is free, or is dropped, is live if a timer revives it, and
any other unless its retries end. -/
theorem Node.tick_live :
    (node.tick now).live =
      if !node.live || node.drops now then node.timerRevives now else !node.exhausts now := by
  by_cases free : node.state = .unregistered
  · have unchanged := node.tick_unregistered now free
    have dead : node.live = false := by simp [Node.live, free]
    rw [dead]
    cases revives : node.timerRevives now
    · simpa [Node.live] using unchanged.mpr revives
    · simp only [revives] at unchanged
      simpa [Node.live] using unchanged
  · have live : node.live = true := (Node.live_iff node).mpr free
    cases drops : node.drops now
    · have kept : node.checkHeartbeat now = node := by simp [Node.checkHeartbeat_eq, drops]
      rw [live, Node.tick, kept, Node.exhausts]
      unfold Node.despatchValidity Node.despatchAck Node.ackExpire
      cases ackDue : node.ackTimer.due now
      · cases validityDue : node.validityTimer.due now <;> simp [validityDue, live]
        simp [Node.live]
      · by_cases exhausted : node.retries = 0#8
        · simp [exhausted, Node.live]
        · have left : (node.retries == 0#8) = false := beq_eq_false_iff_ne.mpr exhausted
          have held : (node.state != .unregistered) = true := bne_iff_ne.mpr free
          cases sleepy : node.sleepy <;> cases validityDue : node.validityTimer.due now <;>
            simp [exhausted, validityDue, Node.live, left, held]
    · have dropped : node.tick now = (node.setState .unregistered).tick now := by
        have none : (node.setState .unregistered).checkHeartbeat now =
            node.setState .unregistered := by simp [Node.checkHeartbeat]
        rw [Node.tick, Node.checkHeartbeat_eq, drops, if_pos rfl, Node.tick, none]
      have unchanged := (node.setState .unregistered).tick_unregistered now rfl
      have revives : (node.setState .unregistered).timerRevives now = node.timerRevives now := rfl
      rw [dropped, live]
      rw [revives] at unchanged
      cases again : node.timerRevives now
      · simpa [Node.live] using unchanged.mpr again
      · simp only [again] at unchanged
        simpa [Node.live] using unchanged

theorem Node.tick_uuid : (node.tick now).uuid = node.uuid := by
  have checked : (node.checkHeartbeat now).uuid = node.uuid := by
    rw [Node.checkHeartbeat]
    split <;> rfl
  rw [Node.tick, (Node.keeps_despatchValidity _ now).uuid, (Node.keeps_despatchAck _ now).uuid,
    checked]

/-- A record that is free, or that a reporting tick drops, has a due timer that revives it or
reports it once more. -/
def Node.strays (reporting : Bool) : Bool :=
  (!node.live || reporting && node.drops now) &&
    (node.timerRevives now || reporting && node.exhausts now)

theorem Node.revives_exhausts (revives : node.timerRevives now = true) :
    node.exhausts now = false := by
  rw [Node.timerRevives] at revives
  rw [Node.exhausts]
  generalize node.ackTimer.due now = due at revives ⊢
  cases due
  · rfl
  · by_cases exhausted : node.retries = 0#8
    · simp [exhausted] at revives
    · simp [exhausted]

theorem Node.drops_live (drops : node.drops now = true) : node.live = true := by
  rw [Node.drops, Bool.and_eq_true, beq_iff_eq] at drops
  simp [Node.live, drops.1]

/-- **When a tick tells the truth about a slot.** -/
theorem Node.tick_reported_iff (reporting : Bool) :
    ((node.tickReports now reporting = if reporting = true ∧ node.live = true ∧
        (node.tick now).live = false then 1 else 0) ∧
      (node.live = false → (node.tick now).live = false)) ↔ node.strays now reporting = false := by
  have exclusive := node.revives_exhausts now
  have live := node.drops_live now
  rw [Node.tick_live, Node.tickReports, Node.strays]
  revert exclusive live
  generalize node.timerRevives now = revives
  generalize node.exhausts now = exhausts
  generalize node.drops now = drops
  generalize node.live = live
  revert reporting revives exhausts drops live
  decide

end Tick

section Departures

variable {σ : Mac} (index : Slot)

theorem deregister_departures : (tinymacDeregisterNode σ (.slot index)).departures index =
    σ.departures index + σ.ctx.deregCb.toNat := by
  have kept : (σ.modify (.slot index) fun node => node.setState .unregistered).ctx.deregCb =
      σ.ctx.deregCb := rfl
  simp only [tinymacDeregisterNode, reduceCtorEq, if_false, Mac.departures, kept]
  cases σ.ctx.deregCb
  · rw [if_neg Bool.false_ne_true, mac_modify_out]
    rfl
  · rw [if_pos rfl, emit_out, mac_modify_out, List.count_append, List.count_singleton_self]
    rfl

/-- The ack timer with a retry left: a retransmission, or a deferral. -/
theorem ackTimeout_retries (left : (σ.ctx.nodes index).retries ≠ 0#8) :
    ((σ.clearTimer (.ack (.slot index))).timerCallback (.ack (.slot index))).departures index =
      σ.departures index := by
  have cancelled : (σ.ctx.modify (.slot index) fun node => node.cancelAck).node (.slot index) =
      (σ.ctx.nodes index).cancelAck := modify_slot_nodes_self ..
  have again : (σ.ctx.nodes index).cancelAck.retries ≠ 0#8 := left
  refine Emits.mute_departures ?_ index
  simp only [Mac.timerCallback, Mac.clearTimer, tinymacAckTimeout, mac_node, mac_modify_ctx,
    cancelled, mac_modify_modify]
  rw [if_pos again]
  split
  · exact .of_out_eq rfl
  · exact Emits.trans (.of_out_eq (mac_modify_out ..))
      (phySend_emits _ _ _ _ Event.mute_of_standby trivial)

/-- The ack timer with none left: a failure, and the end of the registration. -/
theorem ackTimeout_exhausted (exhausted : (σ.ctx.nodes index).retries = 0#8) :
    ((σ.clearTimer (.ack (.slot index))).timerCallback (.ack (.slot index))).departures index =
      σ.departures index + σ.ctx.deregCb.toNat := by
  let ended := σ.modify (.slot index) fun node => (node.cancelAck.countRetry).cancelValidity
  have failed : ((σ.clearTimer (.ack (.slot index))).timerCallback (.ack (.slot index))) =
      tinymacDeregisterNode (ended.invokeSendCb (.slot index) (-1)) (.slot index) := by
    simp [Mac.timerCallback, Mac.clearTimer, tinymacAckTimeout, exhausted, ended]
  have quiet : (ended.invokeSendCb (.slot index) (-1)).departures index = σ.departures index :=
    Emits.mute_departures (invokeSendCb_emits ended (.slot index) (-1) fun _ _ => trivial) index
  rw [failed, deregister_departures, quiet, invokeSendCb_ctx]
  rfl

theorem despatchAck_departures :
    (tinymacDespatchTimer σ (.ack (.slot index))).departures index = σ.departures index +
      if σ.ctx.deregCb then ((σ.ctx.nodes index).exhausts σ.ctx.tickCount).toNat else 0 := by
  have due : σ.timerDue (.ack (.slot index)) =
      (σ.ctx.nodes index).ackTimer.due σ.ctx.tickCount := rfl
  rw [tinymacDespatchTimer, due, Node.exhausts]
  split
  · next isDue =>
    rw [isDue, Bool.true_and]
    by_cases exhausted : (σ.ctx.nodes index).retries = 0#8
    · rw [ackTimeout_exhausted index exhausted, exhausted]
      cases σ.ctx.deregCb <;> rfl
    · rw [ackTimeout_retries index exhausted, beq_eq_false_iff_ne.mpr exhausted]
      simp
  · next notDue => simp [notDue]

theorem despatchValidity_departures :
    (tinymacDespatchTimer σ (.validity (.slot index))).departures index = σ.departures index :=
  Emits.mute_departures
    (despatchValidity_emits σ (.slot index) slot_kept fun _ _ => trivial) index

/-- A slot's share of a tick, in its reports. -/
theorem tickSlot_departures : (tickSlot σ index).departures index = σ.departures index +
    (σ.ctx.nodes index).tickReports σ.ctx.tickCount σ.ctx.deregCb := by
  unfold tickSlot
  dsimp only
  rw [despatchValidity_departures, despatchAck_departures, Node.tickReports]
  by_cases expired : (σ.node (.slot index)).state = .registered ∧
      (σ.node (.slot index)).heartbeatExpired σ.ctx.tickCount = true
  · have drops : (σ.ctx.nodes index).drops σ.ctx.tickCount = true := by
      simpa [Node.drops] using expired
    rw [if_pos expired, deregister_departures, deregister_slot_ctx, modify_slot_nodes_self, drops]
    change _ + _ + (if σ.ctx.deregCb then ((σ.ctx.nodes index).exhausts σ.ctx.tickCount).toNat
      else 0) = _
    cases σ.ctx.deregCb <;> simp [Nat.add_assoc]
  · have stays : (σ.ctx.nodes index).drops σ.ctx.tickCount = false := by
      simpa [Node.drops] using expired
    rw [if_neg expired, stays]
    simp

theorem tickSlot_departures_other {other : Slot} (different : other ≠ index) :
    (tickSlot σ other).departures index = σ.departures index := by
  refine (tickSlot_emits σ other (fun event standby => ?_) (fun _ => nofun)
    (fun _ _ => nofun) ?_).departures_eq
  · exact (Event.mute_of_standby event standby).ne _
  · simpa using different

/-- The loop of the tick over some of the slots, each at most once. -/
theorem foldl_tickSlot_departures (rest : List Slot) (distinct : rest.Nodup) :
    (rest.foldl tickSlot σ).departures index = σ.departures index +
      if index ∈ rest then
        (σ.ctx.nodes index).tickReports σ.ctx.tickCount σ.ctx.deregCb
      else 0 := by
  induction rest generalizing σ with
  | nil => rfl
  | cons first rest ih =>
      obtain ⟨fresh, distinct⟩ := List.nodup_cons.mp distinct
      rw [List.foldl_cons, ih distinct]
      by_cases same : index = first
      · subst same
        rw [if_neg fresh, if_pos List.mem_cons_self, tickSlot_departures]
        rfl
      · have other := tickSlot_departures_other (σ := σ) index (Ne.symm same)
        rw [other, tickSlot_ctx, modify_slot_nodes_of_ne _ _ same]
        simp [same]

/-- **What a tick reports of a slot.** -/
theorem tick_departures (coordinator : Coordinator σ.ctx) :
    (σ.step .tick).departures index = σ.departures index +
      (σ.ctx.nodes index).tickReports σ.ctx.tickCount σ.ctx.deregCb := by
  have begun : σ.beginSlot.departures index = σ.departures index := by
    refine (beginSlot_emits σ (fun event standby => ?_) fun _ => nofun).departures_eq
    exact (Event.mute_of_standby event standby).ne _
  have same : σ.beginSlot.ctx.nodes = σ.ctx.nodes ∧
      σ.beginSlot.ctx.tickCount = σ.ctx.tickCount ∧ σ.beginSlot.ctx.deregCb = σ.ctx.deregCb := by
    rw [beginSlot_ctx coordinator, Ctx.tickBeacon]
    split <;> exact ⟨rfl, rfl, rfl⟩
  have looped := foldl_tickSlot_departures (σ := σ.beginSlot) index slots
    (List.nodup_finRange maxNodes)
  have member : index ∈ slots := List.mem_finRange index
  rw [if_pos member, begun, same.1, same.2.1, same.2.2] at looped
  rw [step_tick coordinator, Mac.departures, update_out]
  exact looped

end Departures

/-- The events of a tick: what the slots report of themselves, and nothing of `reg_cb`. -/
def Event.ticks : Event → Prop
  | .regCb _ => False
  | .deregCb ptr => ∃ index : Slot, ptr = .slot index
  | _ => True

theorem foldl_tickSlot_emits (rest : List Slot) (σ : Mac) :
    Emits Event.ticks σ (rest.foldl tickSlot σ) := by
  induction rest generalizing σ with
  | nil => exact .refl σ
  | cons first rest ih =>
      refine (tickSlot_emits σ first (fun event standby => ?_) (fun _ => trivial)
        (fun _ _ => trivial) ⟨first, rfl⟩).trans (ih _)
      cases event <;> first | exact standby.elim | trivial

theorem tick_emits {σ : Mac} (coordinator : Coordinator σ.ctx) :
    Emits Event.ticks σ (σ.step .tick) := by
  have begun : Emits Event.ticks σ σ.beginSlot := by
    refine beginSlot_emits σ (fun event standby => ?_) fun _ => trivial
    cases event <;> first | exact standby.elim | trivial
  rw [step_tick coordinator]
  exact (begun.trans (foldl_tickSlot_emits ..)).trans (.of_out_eq (update_out ..))

/-- A slot whose departure a step reports is one the step logs. -/
theorem departures_lt {σ τ : Mac} (grows : Emits (fun _ => True) σ τ) {index : Slot}
    (logged : .deregCb (.slot index) ∈ τ.loggedSince σ) :
    σ.departures index < τ.departures index := by
  obtain ⟨new, grown, -⟩ := grows
  rw [loggedSince_of_out grown] at logged
  rw [Mac.departures, Mac.departures, grown, List.count_append]
  have := List.count_pos_iff.mpr logged
  omega

section Ticks

variable {σ : Mac} (coordinator : Coordinator σ.ctx)

include coordinator

/-- A tick keeps the UUID of a slot, so its tenant changes with its being live. -/
theorem tick_tenant_iff (index : Slot) :
    ((σ.step .tick).ctx.nodes index).tenant = (σ.ctx.nodes index).tenant ↔
      ((σ.ctx.nodes index).tick σ.ctx.tickCount).live = (σ.ctx.nodes index).live := by
  rw [step_tick_nodes coordinator]
  exact tenant_eq_iff (Node.tick_uuid ..)

/-- The departures that a tick is to report. -/
theorem tick_leaves_iff (index : Slot) :
    (σ.ctx.deregCb = true ∧ (σ.ctx.nodes index).live = true ∧
      ((σ.step .tick).ctx.nodes index).tenant ≠ (σ.ctx.nodes index).tenant) ↔
    (σ.ctx.deregCb = true ∧ (σ.ctx.nodes index).live = true ∧
      ((σ.ctx.nodes index).tick σ.ctx.tickCount).live = false) := by
  refine and_congr_right fun _ => and_congr_right fun live => ?_
  rw [← Bool.not_eq_true, ← live]
  exact not_congr (tick_tenant_iff coordinator index)

/-- A tick that finds no slot astray is reported. -/
theorem tick_reported
    (quiet : ∀ index, (σ.ctx.nodes index).strays σ.ctx.tickCount σ.ctx.deregCb = false) :
    Reported σ .tick := by
  have told (index : Slot) := (Node.tick_reported_iff _ _ _).mpr (quiet index)
  have once (index : Slot) : (σ.step .tick).departures index = σ.departures index +
      if σ.ctx.deregCb = true ∧ (σ.ctx.nodes index).live = true ∧
        ((σ.step .tick).ctx.nodes index).tenant ≠ (σ.ctx.nodes index).tenant then 1 else 0 := by
    rw [tick_departures index coordinator, (told index).1,
      if_congr (tick_leaves_iff coordinator index) rfl rfl]
  refine ⟨fun ptr logged => ((tick_emits coordinator).logged logged).elim,
    fun ptr logged => ?_, once, fun index live different => ?_⟩
  · obtain ⟨index, rfl⟩ := (tick_emits coordinator).logged logged
    have more := departures_lt ((tick_emits coordinator).mono fun _ _ => trivial) logged
    rw [once index, if_congr (tick_leaves_iff coordinator index) rfl rfl] at more
    split at more
    · next gone =>
      refine ⟨index, rfl, gone.2.1, ?_⟩
      simpa [step_tick_nodes coordinator, Node.live] using gone.2.2
    · exact absurd more (lt_irrefl _)
  · rw [step_tick_nodes coordinator] at live
    refine absurd ((tick_tenant_iff coordinator index).mpr ?_) different
    rw [live]
    by_contra free
    have still := (told index).2 (by simpa using Ne.symm free)
    cases still.symm.trans live

/-- **When a tick tells the truth.** -/
theorem tick_reported_iff : Reported σ .tick ↔
    ∀ index, (σ.ctx.nodes index).strays σ.ctx.tickCount σ.ctx.deregCb = false := by
  refine ⟨?_, tick_reported coordinator⟩
  rintro ⟨-, -, once, admitted⟩ index
  refine (Node.tick_reported_iff ..).mp ⟨?_, fun free => ?_⟩
  · have departs := tick_departures index coordinator
    rw [Nat.add_left_cancel (departs.symm.trans (once index))]
    exact if_congr (tick_leaves_iff coordinator index) rfl rfl
  · refine Bool.eq_false_iff.mpr fun revived => admitted index ?_ fun same => ?_
    · rwa [step_tick_nodes coordinator]
    · rw [tick_tenant_iff coordinator, revived, free] at same
      cases same

end Ticks

/-! ### A received frame -/

theorem txPacket_mute (σ : Mac) (dest : Option NodePtr) (flagsType : BitVec 8) (buf : List Byte)
    (validity : BitVec 16) (cb : Option SendCb) :
    Emits Event.mute σ (tinymacTxPacket σ dest flagsType buf validity cb).2 :=
  txPacket_emits σ dest flagsType buf validity cb Event.mute_of_standby (fun _ => trivial)
    fun _ _ _ _ _ => trivial

section Hear

variable {σ : Mac} (role : σ.ctx.params.coordinator = true) (hdr : Header) (rssi : Int)

include role

theorem hear_mute : Emits Event.mute σ (σ.hear hdr rssi) :=
  hear_emits role hdr rssi Event.mute_of_standby (fun _ => trivial) (fun _ _ => trivial)
    fun _ _ _ _ _ => trivial

theorem hear_tenant (index : Slot) :
    ((σ.ctx.hear hdr rssi).nodes index).tenant = (σ.ctx.nodes index).tenant :=
  (tenant_eq_iff (hear_keeps role hdr rssi index).uuid).mpr (hear_live role hdr rssi index)

end Hear

/-- The settings of the two callbacks. -/
def Ctx.callbacks (ctx : Ctx) : Bool × Bool := (ctx.regCb, ctx.deregCb)

theorem callbacks_apart : Apart Ctx.callbacks where
  modify ctx ptr change := by cases ptr <;> rfl
  nextSeq _ := rfl
  nextBeacon _ := rfl

theorem hear_callbacks (σ : Mac) (hdr : Header) (rssi : Int) :
    (σ.hear hdr rssi).ctx.callbacks = σ.ctx.callbacks := by
  rw [hear_ctx]
  exact hear_apart callbacks_apart ..

section Recv

variable {σ : Mac} (coordinator : Coordinator σ.ctx) (buf : Memory) (size : Nat) (rssi : Int)

include coordinator

theorem recv_unhandled_mute (unhandled : σ.ctx.handles (readHeader buf) size = false) :
    Emits Event.mute σ (tinymacRecvCb σ buf size rssi) := by
  rcases recv_unhandled_cases coordinator buf size rssi unhandled with ⟨-, same⟩ | ⟨-, -, expels⟩
  · rw [same]
    exact .refl σ
  · rw [expels]
    exact (recvStandby_emits σ (readHeader buf) Event.mute_of_standby).trans (txPacket_mute ..)

/-- A frame from an unknown source is answered, and no slot changes. -/
theorem recv_unhandled_reported (unhandled : σ.ctx.handles (readHeader buf) size = false) :
    Reported σ (.recv buf size rssi) := by
  refine .of_mute ?_ fun index => ?_
  · exact recv_unhandled_mute coordinator buf size rssi unhandled
  · rw [Mac.step, recv_unhandled coordinator buf size rssi unhandled]

/-- The handlers other than those of registrations and deregistrations are mute. -/
theorem recvType_mute (source : Option Slot)
    (unregistering : (readHeader buf).type = PacketType.registrationRequest.code →
      size < headerSize + registrationRequestSize)
    (undetaching : (readHeader buf).type = PacketType.deregistrationRequest.code →
      size < headerSize + deregistrationRequestSize) :
    Emits Event.mute σ (tinymacRecvType σ (source.map .slot) (readHeader buf) buf size) := by
  have role := coordinator.role
  unfold tinymacRecvType
  split
  · split
    · exact emit_emits σ trivial
    · exact .refl σ
  · split
    case h_2 => exact .refl σ
    case h_1 type known =>
      have code : (readHeader buf).type = type.code := PacketType.ofCode_eq_some.mp known
      unfold tinymacRecvControl
      cases type with
      | beacon => simpa [tinymacRxBeacon, role] using .refl σ
      | ack =>
          cases source with
          | none => exact .refl σ
          | some index => exact rxAck_emits σ (.slot index) slot_kept _ fun _ _ _ => trivial
      | poll => exact .refl σ
      | beaconRequest => exact txBeacon_emits σ false Event.mute_of_standby fun _ => trivial
      | registrationRequest =>
          dsimp only
          rw [if_pos (unregistering code)]
          exact .refl σ
      | deregistrationRequest =>
          dsimp only
          rw [if_pos (undetaching code)]
          exact .refl σ
      | registrationResponse => simpa [tinymacRxRegistrationResponse, role] using .refl σ

/-- A frame that is neither a registration nor a deregistration request reports nothing. -/
theorem recv_other_reported (handles : σ.ctx.handles (readHeader buf) size = true)
    (unregistering : (readHeader buf).type = PacketType.registrationRequest.code →
      size < headerSize + registrationRequestSize)
    (undetaching : (readHeader buf).type = PacketType.deregistrationRequest.code →
      size < headerSize + deregistrationRequestSize) : Reported σ (.recv buf size rssi) := by
  have heard := coordinator.hear (readHeader buf) rssi
  refine .of_mute ?_ fun index => ?_
  · obtain ⟨source, is, -⟩ := source_slot coordinator.role (readHeader buf)
    rw [Mac.step, recv_handled σ coordinator buf size rssi handles, is]
    exact (hear_mute coordinator.role _ rssi).trans
      (recvType_mute heard buf size source unregistering undetaching)
  · rw [← hear_tenant coordinator.role (readHeader buf) rssi index]
    have written := recv_handled_slot coordinator buf size index rssi handles
    rw [Mac.step]
    generalize (tinymacRecvCb σ buf size rssi).ctx.nodes index = after at written ⊢
    cases written with
    | kept => rfl
    | acked waiting =>
        have uuid : ((σ.ctx.hear (readHeader buf) rssi).nodes index).acked.uuid =
            ((σ.ctx.hear (readHeader buf) rssi).nodes index).uuid := rfl
        refine (tenant_eq_iff uuid).mpr ?_
        rw [Node.live, Node.live, waiting]
        rfl
    | registered type long => exact absurd (unregistering type) (not_lt.mpr long)
    | detached now id hdr payload type long =>
        exact absurd (undetaching type) (not_lt.mpr long)

end Recv

/-! ### Departure by request -/

/-- A step that is mute up to the end of one live registration. -/
theorem Reported.of_departure {σ before : Mac} {input : Input} {source : Slot}
    (mute : Emits Event.mute σ before)
    (detaches : σ.step input = tinymacDeregisterNode before (.slot source))
    (set : before.ctx.callbacks = σ.ctx.callbacks) (live : (σ.ctx.nodes source).live = true)
    (others : ∀ index, index ≠ source →
      (before.ctx.nodes index).tenant = (σ.ctx.nodes index).tenant) : Reported σ input := by
  have emits : Emits (fun event => event.mute ∨ event = .deregCb (.slot source)) σ
      (σ.step input) := by
    rw [detaches]
    exact (mute.mono fun _ => .inl).trans (deregister_emits before _ (.inr rfl))
  have freed : ((σ.step input).ctx.nodes source).state = .unregistered := by
    rw [detaches, deregister_slot_ctx, modify_slot_nodes_self]
    rfl
  have dead : ((σ.step input).ctx.nodes source).live = false := by simp [Node.live, freed]
  have elsewhere (index : Slot) (other : index ≠ source) :
      ((σ.step input).ctx.nodes index).tenant = (σ.ctx.nodes index).tenant := by
    rw [detaches, deregister_slot_ctx, modify_slot_nodes_of_ne _ _ other]
    exact others index other
  refine ⟨fun ptr logged => ?_, fun ptr logged => ?_, fun index => ?_, fun index alive moved => ?_⟩
  · rcases emits.logged logged with mute | same
    · exact mute.elim
    · cases same
  · rcases emits.logged logged with mute | same
    · exact mute.elim
    · cases same
      exact ⟨source, rfl, live, freed⟩
  · by_cases here : index = source
    · subst here
      have left : ((σ.step input).ctx.nodes index).tenant ≠ (σ.ctx.nodes index).tenant := by
        simp [Node.tenant, dead, live]
      have quiet := mute.mute_departures index
      have same : before.ctx.deregCb = σ.ctx.deregCb := congrArg Prod.snd set
      rw [detaches, deregister_departures, quiet, same, ← detaches]
      cases reporting : σ.ctx.deregCb <;> simp [live, left]
    · rw [if_neg fun moved => moved.2.2 (elsewhere index here), Nat.add_zero]
      refine (emits.mono fun event is => ?_).departures_eq
      rcases is with mute | rfl
      · exact mute.ne _
      · simpa using Ne.symm here
  · by_cases here : index = source
    · subst here
      cases dead.symm.trans alive
    · exact absurd (elsewhere index here) moved

section Requests

variable {σ : Mac} (coordinator : Coordinator σ.ctx) (buf : Memory) (size : Nat) (rssi : Int)

include coordinator

/-- **A deregistration request** detaches its source and reports that, or does nothing. -/
theorem recv_deregistration_reported (handles : σ.ctx.handles (readHeader buf) size = true)
    (type : (readHeader buf).type = PacketType.deregistrationRequest.code)
    (long : headerSize + deregistrationRequestSize ≤ size) :
    Reported σ (.recv buf size rssi) := by
  have role := coordinator.role
  have step : σ.step (.recv buf size rssi) =
      tinymacRxDeregistrationRequest (σ.hear (readHeader buf) rssi) (readHeader buf) buf := by
    rw [Mac.step, recv_handled σ coordinator buf size rssi handles,
      recvType_control _ _ _ _ _ _ type, tinymacRecvControl]
    exact if_neg (not_lt.mpr long)
  have heard := coordinator.hear (readHeader buf) rssi
  have tenant (index : Slot) : ((σ.hear (readHeader buf) rssi).ctx.nodes index).tenant =
      (σ.ctx.nodes index).tenant := by
    rw [hear_ctx]
    exact hear_tenant role ..
  have mute := hear_mute role (readHeader buf) rssi
  have nothing (same : σ.step (.recv buf size rssi) = σ.hear (readHeader buf) rssi) :
      Reported σ (.recv buf size rssi) :=
    .of_mute (same ▸ mute) fun index => same ▸ tenant index
  have serves : ¬ (σ.hear (readHeader buf) rssi).ctx.params.coordinator = false := by
    rw [heard.role]
    decide
  unfold tinymacRxDeregistrationRequest at step
  rw [if_neg serves] at step
  dsimp only at step
  split at step
  · exact nothing step
  · next ptr found =>
    obtain ⟨source, rfl, -, live⟩ := getNodeByAddr_coordinator heard.role found
    split at step
    · exact nothing step
    · have fits := heard.fits (response_short ⟨(readDeregistrationRequest buf).uuid,
        addrUnassigned, RegistrationStatus.success.code⟩)
      refine .of_departure (mute.trans (txPacket_mute ..)) step ?_ ?_ fun index other => ?_
      · exact (txPacket_apart callbacks_apart ..).trans (hear_callbacks ..)
      · rw [hear_ctx, hear_live role] at live
        exact live
      · rw [txPacket_unicast_ctx _ _ _ _ _ _ fits, modify_slot_nodes_of_ne _ _ other]
        exact tenant index

/-- A registration request that is served: the slot it is given is live with its UUID, and the
others are as they were. -/
theorem recv_registration_tenant (reaches : σ.ctx.reachesRegistration buf size = true)
    (index : Slot) :
    ((σ.step (.recv buf size rssi)).ctx.nodes index).tenant =
      if σ.ctx.registrationSlot (readRegistrationRequest buf).uuid = some index then
        some (readRegistrationRequest buf).uuid
      else (σ.ctx.nodes index).tenant := by
  rw [Mac.step, recv_registration_slot coordinator rssi reaches]
  split
  · rfl
  · exact hear_tenant coordinator.role ..

/-- A registration request that is served is mute up to `reg_cb`, which is given what the request
was given. -/
theorem recv_registration_mute (reaches : σ.ctx.reachesRegistration buf size = true) :
    ∃ before, Emits Event.mute σ before ∧ σ.step (.recv buf size rssi) =
      if σ.ctx.regCb then before.emit
        (.regCb ((σ.ctx.registrationSlot (readRegistrationRequest buf).uuid).map .slot))
      else before := by
  have heard := coordinator.hear (readHeader buf) rssi
  let attach := readRegistrationRequest buf
  let answered := ((σ.hear (readHeader buf) rssi).registerSlot attach).respond
    ((σ.hear (readHeader buf) rssi).ctx.registrationResponse attach)
  have set : answered.ctx.callbacks = σ.ctx.callbacks := by
    refine ((txPacket_apart callbacks_apart ..).trans (registerSlot_apart callbacks_apart ..)).trans
      (hear_callbacks σ (readHeader buf) rssi)
  have same : answered.ctx.regCb = σ.ctx.regCb := congrArg Prod.fst set
  have slot : (σ.hear (readHeader buf) rssi).ctx.registrationSlot attach.uuid =
      σ.ctx.registrationSlot attach.uuid := by
    rw [hear_ctx, hear_registrationSlot coordinator.role]
  refine ⟨answered, ?_, ?_⟩
  · refine (hear_mute coordinator.role (readHeader buf) rssi).trans
      (.trans (.of_out_eq (registerSlot_out ..)) (txPacket_mute ..))
  · rw [Mac.step, recv_registration coordinator rssi reaches,
      rxRegistrationRequest_eq _ buf heard.role]
    dsimp only
    rw [slot, ← same]

/-- A registration request that is served logs `reg_cb` if it is set, and else is mute. -/
theorem recv_registration_logs (reaches : σ.ctx.reachesRegistration buf size = true) :
    Emits (fun event => event.mute ∨ σ.ctx.regCb = true ∧ event =
      .regCb ((σ.ctx.registrationSlot (readRegistrationRequest buf).uuid).map .slot)) σ
      (σ.step (.recv buf size rssi)) := by
  obtain ⟨before, mute, step⟩ := recv_registration_mute coordinator buf size rssi reaches
  rw [step]
  split
  · next set => exact (mute.mono fun _ => .inl).emit (.inr ⟨set, rfl⟩)
  · exact mute.mono fun _ => .inl

theorem recv_registration_departures (reaches : σ.ctx.reachesRegistration buf size = true)
    (index : Slot) : (σ.step (.recv buf size rssi)).departures index = σ.departures index := by
  refine ((recv_registration_logs coordinator buf size rssi reaches).mono
    fun event is => ?_).departures_eq
  rcases is with mute | ⟨-, rfl⟩
  · exact mute.ne _
  · nofun

/-- A request that is refused is reported with no record. -/
theorem refused_logged (reaches : σ.ctx.reachesRegistration buf size = true)
    (set : σ.ctx.regCb = true)
    (refused : σ.ctx.registrationSlot (readRegistrationRequest buf).uuid = none) :
    .regCb none ∈ (σ.step (.recv buf size rssi)).loggedSince σ := by
  obtain ⟨before, mute, step⟩ := recv_registration_mute coordinator buf size rssi reaches
  obtain ⟨new, grown, -⟩ := mute
  have out : (σ.step (.recv buf size rssi)).out = σ.out ++ (new ++ [.regCb none]) := by
    rw [step, if_pos set, emit_out, grown, refused, List.append_assoc]
    rfl
  rw [loggedSince_of_out out]
  simp

/-- A request that is given a slot, and takes it from no other live node, is reported. -/
theorem registration_reported (reaches : σ.ctx.reachesRegistration buf size = true)
    (served : σ.ctx.regCb = true →
      σ.ctx.registrationSlot (readRegistrationRequest buf).uuid ≠ none)
    (stays : σ.ctx.deregCb = true → ∀ index,
      σ.ctx.registrationSlot (readRegistrationRequest buf).uuid = some index →
      (σ.ctx.nodes index).live = true →
      (σ.ctx.nodes index).uuid = (readRegistrationRequest buf).uuid) :
    Reported σ (.recv buf size rssi) := by
  have tenant := recv_registration_tenant coordinator buf size rssi reaches
  have emits := recv_registration_logs coordinator buf size rssi reaches
  refine ⟨fun ptr logged => ?_, fun ptr logged => ?_, fun index => ?_,
    fun index live moved => ?_⟩
  · rcases emits.logged logged with mute | ⟨set, is⟩
    · exact mute.elim
    · obtain ⟨index, given⟩ := Option.ne_none_iff_exists'.mp (served set)
      refine ⟨index, buf, size, rssi, rfl, ?_, ?_⟩
      · cases is
        rw [given]
        rfl
      · rw [tenant, if_pos given]
  · rcases emits.logged logged with mute | ⟨-, is⟩
    · exact mute.elim
    · cases is
  · rw [recv_registration_departures coordinator buf size rssi reaches, tenant]
    refine (Nat.add_eq_left.mpr (if_neg ?_)).symm
    rintro ⟨set, live, moved⟩
    split at moved
    · next given =>
      refine moved ?_
      rw [Node.tenant, if_pos live, stays set index given live]
    · exact moved rfl
  · rw [tenant] at moved
    split at moved
    · next given => exact ⟨reaches, given⟩
    · exact absurd rfl moved

/-- **When a registration request that is served tells the truth**: a refused one is not reported,
and none takes the slot of another live node. -/
theorem registration_reported_iff (reaches : σ.ctx.reachesRegistration buf size = true) :
    Reported σ (.recv buf size rssi) ↔
      (σ.ctx.regCb = true →
        σ.ctx.registrationSlot (readRegistrationRequest buf).uuid ≠ none) ∧
      (σ.ctx.deregCb = true → ∀ index,
        σ.ctx.registrationSlot (readRegistrationRequest buf).uuid = some index →
        (σ.ctx.nodes index).live = true →
        (σ.ctx.nodes index).uuid = (readRegistrationRequest buf).uuid) := by
  constructor
  · rintro ⟨arrival, -, once, -⟩
    refine ⟨fun set refused => ?_, fun set index given live => ?_⟩
    · obtain ⟨index, -, -, -, -, is, -⟩ := arrival none
        (refused_logged coordinator buf size rssi reaches set refused)
      cases is
    · have counted := once index
      rw [recv_registration_departures coordinator buf size rssi reaches,
        recv_registration_tenant coordinator buf size rssi reaches, if_pos given] at counted
      by_contra other
      have left : some (readRegistrationRequest buf).uuid ≠ (σ.ctx.nodes index).tenant := by
        rw [Node.tenant, if_pos live]
        exact fun same => other (Option.some.inj same).symm
      rw [if_pos ⟨set, live, left⟩] at counted
      omega
  · rintro ⟨served, stays⟩
    exact registration_reported coordinator buf size rssi reaches served stays

end Requests

/-! ### Every step -/

/-- The step has nothing to report wrongly: a registration request is served if `reg_cb` is set, and
takes no other live node's slot if `dereg_cb` is; a tick finds no slot astray. -/
def Ctx.Reportable (ctx : Ctx) : Input → Prop
  | .recv buf size _ => ctx.reachesRegistration buf size = true →
      (ctx.regCb = true → ctx.registrationSlot (readRegistrationRequest buf).uuid ≠ none) ∧
      (ctx.deregCb = true → ∀ index,
        ctx.registrationSlot (readRegistrationRequest buf).uuid = some index →
        (ctx.nodes index).live = true →
        (ctx.nodes index).uuid = (readRegistrationRequest buf).uuid)
  | .tick => ∀ index, (ctx.nodes index).strays ctx.tickCount ctx.deregCb = false
  | _ => True

theorem send_reported {σ : Mac} (coordinator : Coordinator σ.ctx) (dest type : BitVec 8)
    (buf : List Byte) (validity : BitVec 16) (cb : Option SendCb) :
    Reported σ (.send dest type buf validity cb) := by
  refine .of_mute ?_ fun index => ?_
  · unfold Mac.step tinymacSend
    dsimp only
    split
    · exact .refl σ
    · split
      · exact .refl σ
      · exact txPacket_mute ..
  · rw [Mac.step]
    rcases send_at_slot coordinator dest type buf validity cb index with same | ⟨_, accepted⟩
    · rw [same]
    · rw [accepted]
      exact (tenant_eq_iff (Node.keeps_accept ..).uuid).mpr (Node.accept_live ..).2

/-- **When the callbacks of a step tell the truth.** -/
theorem step_reported_iff {σ : Mac} (coordinator : Coordinator σ.ctx) (input : Input) :
    Reported σ input ↔ σ.ctx.Reportable input := by
  cases input with
  | recv buf size rssi =>
      cases reaches : σ.ctx.reachesRegistration buf size with
      | true =>
          rw [registration_reported_iff coordinator buf size rssi reaches]
          exact ⟨fun both _ => both, fun both => both reaches⟩
      | false =>
          refine iff_of_true ?_ fun served => absurd served (by simp [reaches])
          cases handles : σ.ctx.handles (readHeader buf) size with
          | false => exact recv_unhandled_reported coordinator buf size rssi handles
          | true =>
              have unregistering : (readHeader buf).type = PacketType.registrationRequest.code →
                  size < headerSize + registrationRequestSize := by
                intro type
                simpa [Ctx.reachesRegistration, handles, type] using reaches
              by_cases detaches : (readHeader buf).type = PacketType.deregistrationRequest.code ∧
                  headerSize + deregistrationRequestSize ≤ size
              · exact recv_deregistration_reported coordinator buf size rssi handles detaches.1
                  detaches.2
              · exact recv_other_reported coordinator buf size rssi handles unregistering
                  fun type => not_le.mp fun long => detaches ⟨type, long⟩
  | tick => exact tick_reported_iff coordinator
  | send dest type buf validity cb =>
      exact iff_of_true (send_reported coordinator dest type buf validity cb) trivial
  | permitAttach | registerRecvCb | registerRegCb | registerDeregCb =>
      exact iff_of_true (.of_mute (.of_out_eq rfl) fun _ => rfl) trivial

/-- How often a slot is taken by a node that did not hold it, along a run. -/
def Mac.arrivals (index : Slot) (σ : Mac) : List Input → Nat
  | [] => 0
  | input :: inputs =>
      (if ((σ.step input).ctx.nodes index).live = true ∧
        ((σ.step input).ctx.nodes index).tenant ≠ (σ.ctx.nodes index).tenant then 1 else 0) +
        (σ.step input).arrivals index inputs

/-- What one step reports keeps the balance of a slot. -/
theorem Reported.balance {σ : Mac} {input : Input} (reported : Reported σ input)
    (set : σ.ctx.deregCb = true) (index : Slot) :
    (σ.step input).departures index + ((σ.step input).ctx.nodes index).live.toNat =
      σ.departures index + (σ.ctx.nodes index).live.toNat +
        if ((σ.step input).ctx.nodes index).live = true ∧
          ((σ.step input).ctx.nodes index).tenant ≠ (σ.ctx.nodes index).tenant then 1 else 0 := by
  rw [reported.once index]
  by_cases same : ((σ.step input).ctx.nodes index).tenant = (σ.ctx.nodes index).tenant
  · have live : ((σ.step input).ctx.nodes index).live = (σ.ctx.nodes index).live := by
      rw [← tenant_isSome, same, tenant_isSome]
    simp [same, live]
  · cases before : (σ.ctx.nodes index).live <;>
      cases after : ((σ.step input).ctx.nodes index).live <;> simp [set, same]

/-- **Arrivals and departures of a slot**, along a run whose steps can be reported while `dereg_cb`
is set: every registration ends in one report, or is live. -/
theorem departures_balance {σ : Mac} (coordinator : Coordinator σ.ctx) (inputs : List Input)
    (along : σ.Along (fun ctx input => ctx.Reportable input ∧ ctx.deregCb = true) inputs)
    (index : Slot) :
    (σ.run inputs).departures index + ((σ.run inputs).ctx.nodes index).live.toNat =
      σ.departures index + (σ.ctx.nodes index).live.toNat + σ.arrivals index inputs := by
  induction inputs generalizing σ with
  | nil => rfl
  | cons input inputs ih =>
      obtain ⟨⟨reportable, set⟩, rest⟩ := along
      have reported := (step_reported_iff coordinator input).mpr reportable
      have later := ih (coordinator.step input) rest
      rw [run_cons, later, reported.balance set index, Mac.arrivals]
      omega

/-- **The registration callbacks**, for every reachable coordinator and every step: they tell what
happened iff the step is reportable. In a run of such steps with `dereg_cb` set, every registration
in a slot has ended in one report or is live. -/
theorem callbacks_reported_iff (boot : Boot) (role : boot.params.coordinator = true)
    (inputs : List Input) :
    let σ := boot.start.run inputs
    (∀ input, Reported σ input ↔ σ.ctx.Reportable input) ∧
      ∀ later, σ.Along (fun ctx input => ctx.Reportable input ∧ ctx.deregCb = true) later →
        ∀ index, (σ.run later).departures index + ((σ.run later).ctx.nodes index).live.toNat =
          σ.departures index + (σ.ctx.nodes index).live.toNat + σ.arrivals index later := by
  intro σ
  have coordinator : Coordinator σ.ctx := (reachable_registry boot role inputs).1
  refine ⟨step_reported_iff coordinator, fun later along => ?_⟩
  exact departures_balance coordinator later along

/-- A node deregisters: its one registration has one report. -/
theorem callbacks_reported_deregistration :
    let σ := (Boot.coordinatorOn 0x2A#8).start.run [.permitAttach true, .registerDeregCb true,
      .frame (registrationRequestFrame 0x2A#8 1#8 ⟨1#64, 0#16⟩) 0]
    let later : List Input := [.frame ⟨⟨headerFlags PacketType.deregistrationRequest.code, 0x2A#8,
      0#8, 1#8, 2#8⟩, DeregistrationRequest.bytes ⟨1#64, 0#8⟩⟩ 0]
    (σ.run later).departures 0 + ((σ.run later).ctx.nodes 0).live.toNat =
        σ.departures 0 + (σ.ctx.nodes 0).live.toNat + σ.arrivals 0 later ∧
      (σ.run later).departures 0 = 1 := by
  refine ⟨(callbacks_reported_iff (Boot.coordinatorOn 0x2A#8) rfl
    [.permitAttach true, .registerDeregCb true,
      .frame (registrationRequestFrame 0x2A#8 1#8 ⟨1#64, 0#16⟩) 0]).2 _ ?_ 0, by decide +kernel⟩
  exact ⟨⟨fun reaches => absurd reaches (by decide +kernel), by decide +kernel⟩, trivial⟩

/-- A coordinator with `reg_cb` set registers 32 nodes; the request of the next one is refused
and reported with no record. -/
theorem refused_request_reported :
    let request (uuid : Nat) : Input :=
      .frame (registrationRequestFrame 0x2A#8 1#8 ⟨BitVec.ofNat 64 uuid, 0#16⟩) 0
    let σ := (Boot.coordinatorOn 0x2A#8).start.run
      (.permitAttach true :: .registerRegCb true :: (List.range' 1 32).map request)
    .regCb none ∈ (σ.step (request 33)).loggedSince σ := by
  decide +kernel

/-- A node is detached while its coordinator waits for an acknowledgement. The end of the retries
reports the Unregistered slot a second time. -/
example :
    let inputs : List Input := [.permitAttach true, .registerDeregCb true,
      .frame (registrationRequestFrame 0x2A#8 1#8 ⟨1#64, 0#16⟩) 0,
      .send 1#8 0x50#8 [7#8] 0#16 none,
      .frame ⟨⟨headerFlags PacketType.deregistrationRequest.code, 0x2A#8, 0#8, 1#8, 2#8⟩,
        DeregistrationRequest.bytes ⟨1#64, 0#8⟩⟩ 0, .tick, .tick, .tick, .tick, .tick]
    let σ := (Boot.coordinatorOn 0x2A#8).start
    σ.arrivals 0 inputs = 1 ∧ (σ.run inputs).departures 0 = 2 := by
  decide +kernel

end TinyHan.Tinymac
