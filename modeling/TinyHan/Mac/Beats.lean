/-
**The calls a context makes to its PHY.**

Every step of a context, in either role, is a sequence of writes, of calls of the application, of
`tinymac_phy_send` and of the standby of a sleepy node that has accepted a frame (`Beat`,
`step_beats`). The order of the PHY calls in a log follows from that: a sleepy node never leaves off
behind a `phy_send` or a `phy_listen` (`Beats.poise`), it leaves off behind a standby if it has
accepted a frame (`recv_poise`), and another one makes no call that turns its receiver off
(`Beats.steady`).
-/

import TinyHan.Mac.Log

namespace TinyHan.Tinymac

open TinyHan.Lib
open Relation (ReflTransGen)

/-! ### PHY calls -/

/-- What a PHY call does to the receiver. -/
inductive Poise where
  /-- On, until another call. -/
  | on
  /-- Off now, or after a time. -/
  | dozing
  deriving DecidableEq, Repr

/-- The PHY calls of a log. -/
def Event.poise : Event → Option Poise
  | .phySend _ _ _ => some .on
  | .phyListen => some .on
  | .phyStandby => some .dozing
  | .phyDelayedStandby _ => some .dozing
  | _ => none

/-- The last PHY call. -/
def poise (events : List Event) : Option Poise := (events.filterMap Event.poise).getLast?

theorem poise_append (one two : List Event) :
    poise (one ++ two) = (poise two).or (poise one) := by
  rw [poise, poise, poise, List.filterMap_append, List.getLast?_append]

theorem poise_snoc {events : List Event} {event : Event} (call : Poise)
    (is : event.poise = some call) : poise (events ++ [event]) = some call := by
  rw [poise_append]
  simp [poise, is]

/-! ### Beats -/

/-- What a context does between two looks at its log. -/
inductive Beat : Mac → Mac → Prop where
  | write (σ τ : Mac) (out : τ.out = σ.out) (params : τ.ctx.params = σ.ctx.params)
      (phyRc : τ.phyRc = σ.phyRc) : Beat σ τ
  | note (σ : Mac) (event : Event) (off : event.poise = none) : Beat σ (σ.emit event)
  | send (σ : Mac) (packet : Option Nat) (frame : Frame) (flags : BitVec 8) :
      Beat σ (tinymacPhySend σ packet frame flags).2
  | doze (σ : Mac) (hdr : Header) : Beat σ (tinymacRecvStandby σ hdr)

/-- A sequence of beats. -/
abbrev Beats : Mac → Mac → Prop := ReflTransGen Beat

section Functions

variable {σ τ υ : Mac}

theorem Beats.update (beats : Beats σ τ) (change : Ctx → Ctx)
    (params : (change τ.ctx).params = τ.ctx.params) : Beats σ (τ.update change) :=
  beats.tail (.write _ _ rfl params rfl)

theorem Beats.modify (beats : Beats σ τ) (ptr : NodePtr) (change : Node → Node) :
    Beats σ (τ.modify ptr change) :=
  beats.tail (.write _ _ rfl (modify_params ..) rfl)

theorem Beats.emit (beats : Beats σ τ) {event : Event} (off : event.poise = none) :
    Beats σ (τ.emit event) := beats.tail (.note _ _ off)

theorem Beats.send (beats : Beats σ τ) (packet : Option Nat) (frame : Frame) (flags : BitVec 8) :
    Beats σ (tinymacPhySend τ packet frame flags).2 := beats.tail (.send _ _ _ _)

theorem Beats.nextSeq (beats : Beats σ τ) : Beats σ τ.nextSeq := beats.tail (.write _ _ rfl rfl rfl)

theorem Beats.invokeSendCb (beats : Beats σ τ) (ptr : NodePtr) (result : Int) :
    Beats σ (τ.invokeSendCb ptr result) := by
  unfold Mac.invokeSendCb
  split
  · exact beats.emit rfl
  · exact beats

theorem Beats.deregister (beats : Beats σ τ) (ptr : NodePtr) :
    Beats σ (tinymacDeregisterNode τ ptr) := by
  unfold tinymacDeregisterNode
  dsimp only
  have gone : Beats σ (τ.modify ptr fun node => node.setState .unregistered) := beats.modify ..
  split
  · have detached := gone.update Ctx.detach rfl
    exact iteInduction (fun _ => detached.emit rfl) fun _ => detached
  · exact iteInduction (fun _ => gone.emit rfl) fun _ => gone

theorem Beats.txPacket (beats : Beats σ τ) (dest : Option NodePtr) (flagsType : BitVec 8)
    (buf : List Byte) (validity : BitVec 16) (cb : Option SendCb) :
    Beats σ (tinymacTxPacket τ dest flagsType buf validity cb).2 := by
  by_cases fits : τ.ctx.fits buf
  · cases dest with
    | none =>
        rw [txPacket_broadcast _ _ _ _ _ fits]
        exact (beats.nextSeq.send ..).emit rfl
    | some ptr =>
        by_cases idle : (τ.ctx.node ptr).state = .registered
        · cases sleepy : (τ.ctx.node ptr).sleepy
          · cases ack : ackRequested flagsType
            · rw [txPacket_plain _ _ _ _ _ _ fits idle sleepy ack]
              exact (beats.nextSeq.send ..).emit rfl
            · rw [txPacket_ack _ _ _ _ _ _ fits idle sleepy ack]
              exact ((beats.nextSeq.modify ..).send ..).emit rfl
          · rw [txPacket_sleepy _ _ _ _ _ _ fits idle sleepy]
            exact (beats.nextSeq.modify ..).emit rfl
        · rw [txPacket_busy _ _ _ _ _ _ fits idle]
          exact beats.nextSeq.emit rfl
  · rw [txPacket_oversize _ _ _ _ _ _ fits]
    exact beats

theorem Beats.txPending (beats : Beats σ τ) (ptr : NodePtr) :
    Beats σ (tinymacTxPending τ ptr) := by
  by_cases pending : (τ.ctx.node ptr).state = .sendPending
  · cases ack : (τ.ctx.node ptr).pendingHeader.ackRequest
    · rw [txPending_plain τ ptr pending ack]
      exact (((beats.modify ..).send ..).modify ..).invokeSendCb ..
    · rw [txPending_ack τ ptr pending ack]
      exact (beats.modify ..).send ..
  · rw [txPending_idle τ ptr pending]
    exact beats

theorem Beats.recvKnown (beats : Beats σ τ) (ptr : NodePtr) (hdr : Header) (rssi : Int) :
    Beats σ (tinymacRecvKnown τ ptr hdr rssi) := by
  have heard : Beats σ (τ.modify ptr fun node => node.heard τ.ctx.tickCount rssi) :=
    beats.modify ..
  unfold tinymacRecvKnown
  dsimp only
  refine Beats.txPending ?_ ptr
  refine iteInduction (fun _ => ?_) fun _ => heard
  unfold tinymacTxAck
  dsimp only
  exact iteInduction (fun _ => heard.send ..) fun _ => (heard.send ..).txPending ptr

theorem Beats.txBeacon (beats : Beats σ τ) (periodic : Bool) :
    Beats σ (tinymacTxBeacon τ periodic) :=
  iteInduction (fun _ => beats) fun _ => (beats.update Ctx.nextBeacon rfl).send ..

theorem Beats.rxBeacon (beats : Beats σ τ) (hdr : Header) (buf : Memory) (size : Nat) :
    Beats σ (tinymacRxBeacon τ hdr buf size) := by
  unfold tinymacRxBeacon
  refine iteInduction (fun _ => beats) fun _ => ?_
  dsimp only
  have cancelled : Beats σ
      (if τ.ctx.state = .beaconRequest then τ.update Ctx.cancelRequest else τ) :=
    iteInduction (fun _ => beats.update Ctx.cancelRequest rfl) fun _ => beats
  generalize (if τ.ctx.state = .beaconRequest then τ.update Ctx.cancelRequest else τ) = υ
    at cancelled ⊢
  have joined (uuid : BitVec 64) (attach : List Byte) : Beats σ
      ((tinymacTxPacket (υ.update fun ctx => ctx.bind hdr uuid) (some .coord)
        PacketType.registrationRequest.code attach 0#16 none).2.update
          fun ctx => ctx.armRequest (millis registrationTimeout)) :=
    ((cancelled.update (fun ctx => ctx.bind hdr uuid) rfl).txPacket ..).update _ rfl
  cases υ.ctx.state with
  | unregistered => exact iteInduction (fun _ => joined _ _) fun _ => cancelled
  | beaconRequest => exact iteInduction (fun _ => joined _ _) fun _ => cancelled
  | registering => exact cancelled
  | registered => exact iteInduction (fun _ => cancelled.txPacket ..) fun _ => cancelled

theorem Beats.rxRegistrationRequest (beats : Beats σ τ) (buf : Memory) :
    Beats σ (tinymacRxRegistrationRequest τ buf) := by
  have announced (υ : Mac) (written : Beats σ υ) (resp : List Byte) (ptr : Option NodePtr) :
      let answered := (tinymacTxPacket υ none PacketType.registrationResponse.code resp 0#16 none).2
      Beats σ (if answered.ctx.regCb then answered.emit (.regCb ptr) else answered) := by
    intro answered
    have sent : Beats σ answered := written.txPacket ..
    exact iteInduction (fun _ => sent.emit rfl) fun _ => sent
  unfold tinymacRxRegistrationRequest
  refine iteInduction (fun _ => beats) fun _ => ?_
  dsimp only
  cases τ.ctx.registrationSlot (readRegistrationRequest buf).uuid with
  | none => exact announced τ beats _ _
  | some index => exact announced _ (beats.modify ..) _ _

theorem Beats.rxDeregistrationRequest (beats : Beats σ τ) (hdr : Header) (buf : Memory) :
    Beats σ (tinymacRxDeregistrationRequest τ hdr buf) := by
  unfold tinymacRxDeregistrationRequest
  refine iteInduction (fun _ => beats) fun _ => ?_
  dsimp only
  cases tinymacGetNodeByAddr τ.ctx hdr.srcAddr with
  | none => exact beats
  | some ptr => exact iteInduction (fun _ => beats) fun _ => (beats.txPacket ..).deregister ptr

theorem Beats.recvType (beats : Beats σ τ) (node : Option NodePtr) (hdr : Header) (buf : Memory)
    (size : Nat) : Beats σ (tinymacRecvType τ node hdr buf size) := by
  unfold tinymacRecvType
  refine iteInduction (fun _ => ?_) fun _ => ?_
  · exact iteInduction (fun _ => beats.emit rfl) fun _ => beats
  · split
    case h_2 => exact beats
    case h_1 type _ =>
      unfold tinymacRecvControl
      cases type with
      | beacon => exact iteInduction (fun _ => beats) fun _ => beats.rxBeacon hdr buf size
      | ack =>
          cases node with
          | none => exact beats
          | some ptr =>
              exact iteInduction (fun _ => (beats.modify ..).invokeSendCb ..) fun _ => beats
      | poll => exact beats
      | beaconRequest => exact beats.txBeacon false
      | registrationRequest =>
          exact iteInduction (fun _ => beats) fun _ => beats.rxRegistrationRequest buf
      | deregistrationRequest =>
          exact iteInduction (fun _ => beats) fun _ => beats.rxDeregistrationRequest hdr buf
      | registrationResponse =>
          refine iteInduction (fun _ => beats) fun _ => ?_
          unfold tinymacRxRegistrationResponse
          dsimp only
          split_ifs <;> exact beats.tail (.write _ _ rfl rfl rfl)

theorem Beats.despatchTimer (beats : Beats σ τ) (timer : TimerPtr) :
    Beats σ (tinymacDespatchTimer τ timer) := by
  unfold tinymacDespatchTimer
  refine iteInduction (fun _ => ?_) fun _ => beats
  cases timer with
  | ack ptr =>
      unfold Mac.timerCallback Mac.clearTimer tinymacAckTimeout
      dsimp only
      have counted : Beats σ ((τ.modify ptr fun node => node.cancelAck).modify ptr fun node =>
          node.countRetry) := (beats.modify ..).modify ..
      refine iteInduction (fun _ => ?_) fun _ => ?_
      · exact iteInduction (fun _ => counted.modify ..) fun _ => (counted.modify ..).send ..
      · exact ((counted.modify ..).invokeSendCb ..).deregister ptr
  | validity ptr => exact ((beats.modify ..).modify ..).invokeSendCb ..
  | request =>
      have cleared := beats.update Ctx.cancelRequest rfl
      exact iteInduction (fun _ => cleared.deregister _) fun _ => cleared

theorem Beats.tickSlot (beats : Beats σ τ) (index : Slot) : Beats σ (tickSlot τ index) := by
  unfold Tinymac.tickSlot
  dsimp only
  refine Beats.despatchTimer (Beats.despatchTimer ?_ _) _
  exact iteInduction (fun _ => beats.deregister _) fun _ => beats

end Functions

/-! ### Steps -/

section Step

variable (σ : Mac)

theorem recv_beats (buf : Memory) (size : Nat) (rssi : Int)
    (accepts : σ.ctx.accepts (readHeader buf) size = true) :
    Beats (tinymacRecvStandby σ (readHeader buf)) (tinymacRecvCb σ buf size rssi) := by
  unfold tinymacRecvCb
  dsimp only
  rw [if_pos accepts]
  refine iteInduction (fun _ => ?_) fun _ => Beats.recvType .refl ..
  cases tinymacGetNodeByAddr (tinymacRecvStandby σ (readHeader buf)).ctx
    (readHeader buf).srcAddr with
  | none => exact iteInduction (fun _ => Beats.txPacket .refl ..) fun _ => .refl
  | some ptr => exact (Beats.recvKnown .refl ..).recvType ..

theorem tick_beats : Beats σ (tinymacTickHandler σ) := by
  have scanned (rest : List Slot) (τ : Mac) (beats : Beats σ τ) :
      Beats σ (rest.foldl tickSlot τ) := by
    induction rest generalizing τ with
    | nil => exact beats
    | cons index rest ih => exact ih _ (beats.tickSlot index)
  unfold tinymacTickHandler
  dsimp only
  refine Beats.update ?_ Ctx.nextTick rfl
  refine iteInduction (fun _ => ?_) fun _ => ?_
  · have slotted : Beats σ (σ.update Ctx.nextSlot) := Beats.update .refl _ rfl
    unfold tickCoordinator
    dsimp only
    refine scanned slots _ ?_
    exact iteInduction (fun _ => slotted.txBeacon true) fun _ => slotted
  · unfold tickClient
    dsimp only
    refine Beats.despatchTimer (Beats.despatchTimer (Beats.despatchTimer ?_ _) _) _
    refine iteInduction (fun _ => ?_) fun _ => .refl
    have asking : Beats σ (σ.update fun ctx => ctx.setState .beaconRequest) :=
      Beats.update .refl _ rfl
    exact (asking.txPacket ..).update _ rfl

/-- **Every step is a sequence of beats**, in either role. -/
theorem step_beats (input : Input) : Beats σ (σ.step input) := by
  cases input with
  | recv buf size rssi =>
      cases accepts : σ.ctx.accepts (readHeader buf) size with
      | true => exact (ReflTransGen.single (.doze σ _)).trans (recv_beats σ buf size rssi accepts)
      | false =>
          show Beats σ (tinymacRecvCb σ buf size rssi)
          unfold tinymacRecvCb
          dsimp only
          rw [if_neg (by simp [accepts])]
  | tick => exact tick_beats σ
  | send dest type buf validity cb =>
      show Beats σ (tinymacSend σ dest type buf validity cb).2
      unfold tinymacSend
      split
      · exact .refl
      · cases tinymacGetNodeByAddr σ.ctx dest with
        | none => exact .refl
        | some ptr => exact Beats.txPacket .refl ..
  | permitAttach | registerRecvCb | registerRegCb | registerDeregCb =>
      exact .single (.write _ _ rfl rfl rfl)

end Step

/-! ### The order of the PHY calls -/

section Order

variable {σ τ : Mac}

theorem Beat.params (beat : Beat σ τ) : τ.ctx.params = σ.ctx.params ∧ τ.phyRc = σ.phyRc := by
  cases beat with
  | write _ _ params phyRc => exact ⟨params, phyRc⟩
  | note => exact ⟨rfl, rfl⟩
  | send packet frame flags =>
      unfold tinymacPhySend
      dsimp only
      split <;> exact ⟨rfl, rfl⟩
  | doze hdr =>
      unfold tinymacRecvStandby
      split <;> exact ⟨rfl, rfl⟩

theorem Beats.params (beats : Beats σ τ) : τ.ctx.params = σ.ctx.params ∧ τ.phyRc = σ.phyRc := by
  induction beats with
  | refl => exact ⟨rfl, rfl⟩
  | tail _ beat ih => exact ⟨beat.params.1.trans ih.1, beat.params.2.trans ih.2⟩

/-- The standby of a sleepy node. -/
theorem recvStandby_out (sleepy : σ.ctx.params.sleepy = true) (hdr : Header) :
    (tinymacRecvStandby σ hdr).out = σ.out ++
      [if hdr.dataPending then .phyDelayedStandby listenPeriodUs else .phyStandby] := by
  unfold tinymacRecvStandby
  rw [if_pos sleepy]
  rfl

/-- **A sleepy node leaves off dozing**: behind every `phy_send` there is a standby. -/
theorem Beat.poise (beat : Beat σ τ) (sleepy : σ.ctx.params.sleepy = true) :
    ∃ new, τ.out = σ.out ++ new ∧ Tinymac.poise new ≠ some .on := by
  cases beat with
  | write _ out => exact ⟨[], by rw [out, List.append_nil], by decide⟩
  | note event off => exact ⟨[event], rfl, by simp [Tinymac.poise, off]⟩
  | send packet frame flags =>
      have sends : (tinymacPhySend σ packet frame flags).2.out = σ.out ++
          [.phySend packet frame flags, if σ.phyRc σ.out.length < 0 then .phyStandby
          else .phyDelayedStandby listenPeriodUs] := by
        unfold tinymacPhySend
        dsimp only
        rw [if_pos (show (σ.emit _).ctx.params.sleepy = true from sleepy)]
        simp [Mac.emit]
      refine ⟨_, sends, ?_⟩
      rw [show ∀ one two : Event, [one, two] = [one] ++ [two] from fun _ _ => rfl,
        poise_snoc .dozing (by split <;> rfl)]
      decide
  | doze hdr =>
      refine ⟨_, recvStandby_out sleepy hdr, ?_⟩
      rw [← List.nil_append [_], poise_snoc .dozing (by split <;> rfl)]
      decide

theorem Beats.poise (beats : Beats σ τ) (sleepy : σ.ctx.params.sleepy = true) :
    ∃ new, τ.out = σ.out ++ new ∧ Tinymac.poise new ≠ some .on := by
  induction beats with
  | refl => exact ⟨[], (List.append_nil _).symm, by decide⟩
  | tail before beat ih =>
      obtain ⟨first, out, calm⟩ := ih
      obtain ⟨second, out', calm'⟩ := beat.poise (by rw [(Beats.params before).1]; exact sleepy)
      refine ⟨first ++ second, by rw [out', out, List.append_assoc], ?_⟩
      rw [poise_append]
      cases last : Tinymac.poise second with
      | none => exact calm
      | some call =>
          rw [last] at calm'
          exact calm'

/-- **A sleepy node that has accepted a frame** leaves off dozing. -/
theorem recv_poise (σ : Mac) (buf : Memory) (size : Nat) (rssi : Int)
    (accepts : σ.ctx.accepts (readHeader buf) size = true)
    (sleepy : σ.ctx.params.sleepy = true) :
    ∃ new, (tinymacRecvCb σ buf size rssi).out = σ.out ++ new ∧
      Tinymac.poise new = some .dozing := by
  have same : (tinymacRecvStandby σ (readHeader buf)).ctx.params = σ.ctx.params :=
    (Beat.doze σ (readHeader buf)).params.1
  obtain ⟨new, out, calm⟩ := (recv_beats σ buf size rssi accepts).poise (by rw [same]; exact sleepy)
  refine ⟨_, by rw [out, recvStandby_out sleepy, List.append_assoc], ?_⟩
  rw [poise_append, ← List.nil_append [_], poise_snoc .dozing (by split <;> rfl)]
  cases last : Tinymac.poise new with
  | none => rfl
  | some call =>
      cases call with
      | on => exact absurd last calm
      | dozing => rfl

/-- The event does not turn the receiver off. -/
def Event.steady (event : Event) : Prop := event.poise ≠ some .dozing

/-- **Another node leaves its receiver on.** -/
theorem Beats.steady (beats : Beats σ τ) (awake : σ.ctx.params.sleepy = false) :
    Emits Event.steady σ τ := by
  induction beats with
  | refl => exact .refl σ
  | @tail υ τ before beat ih =>
      refine ih.trans ?_
      have awake : υ.ctx.params.sleepy = false := by rw [(Beats.params before).1]; exact awake
      cases beat with
      | write _ out => exact .of_out_eq out
      | note event off =>
          refine emit_emits υ ?_
          rw [Event.steady, off]
          decide
      | send packet frame flags =>
          unfold tinymacPhySend
          dsimp only
          rw [if_neg (by simpa [Mac.emit] using awake)]
          exact emit_emits υ (by simp [Event.steady, Event.poise])
      | doze hdr =>
          unfold tinymacRecvStandby
          rw [if_neg (by simp [awake])]
          exact .refl υ

end Order

end TinyHan.Tinymac
