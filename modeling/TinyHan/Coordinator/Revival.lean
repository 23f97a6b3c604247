/-
**How an Unregistered slot comes back to life.**

A received frame, a send or a setting leaves an Unregistered slot Unregistered, unless the frame is
a registration request that is given the slot. A tick does not: the timeout callbacks assign the
state of the record whatever it was, and `tinymac_deregister_node` leaves the timers running. A
deregistration request from a sleepy node arms the validity timer for its own answer and frees the
slot, so the next tick makes the slot Registered again.

`no_resurrection_iff` says which ticks do that: those at which the ack timer or the validity timer
of an Unregistered slot is due, except where the ack timer ends the last retry.
-/

import TinyHan.Coordinator.Admission

namespace TinyHan.Tinymac

open TinyHan.Lib

/-- A due timer makes something else of an Unregistered record: the ack timer defers a packet to a
sleepy node, or the validity timer, which the end of the last retry would have cancelled,
expires. -/
def Node.timerRevives (node : Node) (now : BitVec 32) : Bool :=
  (node.ackTimer.due now && node.retries != 0#8 && node.sleepy) ||
    (node.validityTimer.due now && !(node.ackTimer.due now && node.retries == 0#8))

/-- The tick of an Unregistered record. -/
theorem Node.tick_unregistered (node : Node) (now : BitVec 32)
    (free : node.state = .unregistered) :
    (node.tick now).state = .unregistered ↔ node.timerRevives now = false := by
  have unchecked : node.checkHeartbeat now = node := by
    simp [Node.checkHeartbeat, free]
  rw [Node.tick, unchecked, Node.timerRevives]
  cases ackDue : node.ackTimer.due now
  · have same : node.despatchAck now = node := by simp [Node.despatchAck, ackDue]
    rw [same, Node.despatchValidity]
    cases validityDue : node.validityTimer.due now <;> simp [free]
  · have expires : node.despatchAck now = node.ackExpire now := by
      simp [Node.despatchAck, ackDue]
    rw [expires, Node.ackExpire, Node.despatchValidity]
    by_cases exhausted : node.retries = 0#8
    · simp [exhausted]
    · cases sleepy : node.sleepy <;> cases validityDue : node.validityTimer.due now <;>
        simp [exhausted, free, validityDue]

/-- The step is the processing of a registration request that is given the slot. -/
def Ctx.Allocates (ctx : Ctx) (index : Slot) : Input → Prop
  | .recv buf size _ => ctx.reachesRegistration buf size = true ∧
      ctx.registrationSlot (readRegistrationRequest buf).uuid = some index
  | _ => False

/-- **A step that is no tick revives no slot**, unless it allocates the slot. -/
theorem step_calm {σ : Mac} (coordinator : Coordinator σ.ctx) {input : Input}
    (noTick : input ≠ .tick) {index : Slot} (other : ¬ σ.ctx.Allocates index input) :
    (σ.ctx.nodes index).Calm ((σ.step input).ctx.nodes index) := by
  let elsewhere : Condition := ⟨fun slot _ _ => σ.ctx.Allocates slot input, fun _ _ => True, False⟩
  have admits : σ.ctx.admits elsewhere input := by
    cases input with
    | recv buf size rssi =>
        refine ⟨fun reaches slot given => ⟨reaches, ?_⟩, fun _ _ _ _ => trivial⟩
        rwa [hear_registrationSlot coordinator.role] at given
    | tick => exact absurd rfl noTick
    | _ => trivial
  exact (step_ops σ coordinator input admits).calm coordinator not_false index fun _ _ => other

/-- **No resurrection**, for every reachable coordinator and every step: an Unregistered slot stays
Unregistered or is allocated by a registration request, unless the step is a tick at which a timer
of an Unregistered slot revives it. -/
theorem no_resurrection_iff (boot : Boot) (role : boot.params.coordinator = true)
    (inputs : List Input) (input : Input) :
    let σ := boot.start.run inputs
    (∀ n, (σ.ctx.nodes n).state = .unregistered →
        ((σ.step input).ctx.nodes n).state = .unregistered ∨ σ.ctx.Allocates n input) ↔
      ¬ (input = .tick ∧ ∃ n, (σ.ctx.nodes n).state = .unregistered ∧
        (σ.ctx.nodes n).timerRevives σ.ctx.tickCount = true) := by
  obtain ⟨coordinator, -, -⟩ := reachable_registry boot role inputs
  intro σ
  by_cases tick : input = .tick
  · subst tick
    have ticked (n : Slot) := step_tick_nodes coordinator n
    constructor
    · rintro kept ⟨-, n, free, revives⟩
      have still := (kept n free).resolve_right id
      rw [ticked, Node.tick_unregistered _ _ free, revives] at still
      cases still
    · intro quiet n free
      refine .inl ?_
      rw [ticked, Node.tick_unregistered _ _ free, Bool.eq_false_iff]
      exact fun revives => quiet ⟨rfl, n, free, revives⟩
  · refine iff_of_true (fun n free => ?_) fun both => tick both.1
    by_cases allocates : σ.ctx.Allocates n input
    · exact .inr allocates
    · refine .inl (by_contra fun revived => ?_)
      have live := (step_calm coordinator tick allocates).live ((Node.live_iff _).mpr revived)
      exact (Node.live_iff _).mp live free

/-- A sleepy node registers and deregisters; the next tick makes its slot Registered again. -/
theorem deregistered_node_resurrected :
    let σ := (Boot.coordinatorOn 0x2A#8).start.run
      [.permitAttach true, .frame (registrationRequestFrame 0x2A#8 1#8 ⟨1#64, 0x10#16⟩) 0,
        .frame ⟨⟨headerFlags PacketType.deregistrationRequest.code, 0x2A#8, 0#8, 1#8, 2#8⟩,
          DeregistrationRequest.bytes ⟨1#64, 0#8⟩⟩ 0]
    (σ.ctx.nodes 0).state = .unregistered ∧ ((σ.step .tick).ctx.nodes 0).state = .registered := by
  decide +kernel

/-- The heartbeat of a node that never calls in again ends its registration for good. -/
theorem no_resurrection_after_heartbeat :
    let σ := (Boot.coordinatorOn 0x2A#8).start.run
      (.permitAttach true :: .frame (registrationRequestFrame 0x2A#8 1#8 ⟨1#64, 0#16⟩) 0 ::
        List.replicate 13 .tick)
    (σ.ctx.nodes 0).state = .unregistered ∧ ((σ.step .tick).ctx.nodes 0).state = .unregistered := by
  have expired : (((Boot.coordinatorOn 0x2A#8).start.run
      (.permitAttach true :: .frame (registrationRequestFrame 0x2A#8 1#8 ⟨1#64, 0#16⟩) 0 ::
        List.replicate 13 .tick)).ctx.nodes 0).state = .unregistered := by decide +kernel
  refine ⟨expired, ?_⟩
  refine ((no_resurrection_iff (Boot.coordinatorOn 0x2A#8) rfl _ .tick).mpr ?_ 0
    expired).resolve_right id
  rintro ⟨-, quiet⟩
  revert quiet
  decide +kernel

end TinyHan.Tinymac
