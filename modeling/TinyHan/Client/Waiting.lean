/-
**A client that waits for an answer.**

A client in BeaconRequest or Registering relies on its request timer: when the timer expires it is
Unregistered again and asks for a beacon in its next tick. The machine of `Client.Link` keeps the
timer armed while it waits (`Link.Timed.step`), with one exception, which is a defect of
`tinymac_rx_beacon`: in BeaconRequest the timer is cancelled for every beacon, also for one without
the permit flag, which starts no registration (`Link.refuses`).

* `client_recovers_iff` — the clients that recover from every wait, in every state of a run, are
  those that accept no such beacon in BeaconRequest;
* `refused_beacon_strands` — one such beacon, and the client waits with no timer.
-/

import TinyHan.Client.Link
import TinyHan.Mac.Log

namespace TinyHan.Tinymac

open TinyHan.Lib

/-- `TINYMAC_SECONDS(TINYMAC_BEACON_REQUEST_TIMEOUT)`, in ticks. -/
def requestTicks : Nat := (seconds beaconRequestTimeout).toNat

theorem requestTicks_eq : requestTicks = 40 := by decide

/-! ### The timer of the machine -/

/-- While the client waits, its request timer is armed and at most `requestTicks` ahead. -/
def Link.Timed (link : Link) : Prop :=
  link.waiting → link.timer.armed = true ∧ ahead link.now link.timer.expiry ≤ requestTicks

/-- A beacon that does not permit attachment, in BeaconRequest. -/
def Link.refuses (link : Link) : Signal → Prop
  | .beacon _ permit => link.state = .beaconRequest ∧ permit = false
  | _ => False

namespace Link.Timed

variable {link : Link}

theorem of_idle (idle : ¬ link.waiting) : link.Timed := fun waiting => absurd waiting idle

theorem detach : link.detach.Timed := of_idle (by simp [Link.waiting])

theorem join (netId : BitVec 8) : (link.join netId).Timed := by
  intro _
  refine ⟨rfl, ?_⟩
  have delay : ahead link.now (link.now + millis registrationTimeout) =
      (millis registrationTimeout).toNat := ahead_add _ _
  simpa [Link.join] using delay.trans_le (by decide)

theorem request : link.request.Timed := by
  intro _
  refine ⟨rfl, ?_⟩
  have delay : ahead link.now (link.now + seconds beaconRequestTimeout) = requestTicks :=
    ahead_add _ _
  simpa [Link.request] using delay.le

theorem onBeacon (timed : link.Timed) (hdr : Header) (permit : Bool)
    (kept : ¬ (link.state = .beaconRequest ∧ permit = false)) :
    (link.onBeacon hdr permit).Timed := by
  unfold Link.onBeacon
  split
  · split
    · exact join _
    · exact timed
  · next state =>
    split
    · exact join _
    · next refused => exact absurd ⟨state, by simpa using refused⟩ kept
  · exact timed
  · exact timed

theorem onResponse (timed : link.Timed) (hdr : Header) (resp : RegistrationResponse) :
    (link.onResponse hdr resp).Timed := by
  unfold Link.onResponse
  dsimp only
  split
  · split
    · exact timed
    · exact detach
  · split
    · exact detach
    · split
      · exact of_idle (by simp [Link.waiting])
      · exact timed

/-- What is left of the wait after the request timer was despatched and the clock advanced. -/
theorem expire_nextTick (timed : link.Timed) : link.expire.nextTick.Timed := by
  unfold Link.expire
  split
  · split
    · exact of_idle (by simp [Link.waiting])
    · next idle => exact of_idle idle
  · next waits =>
    intro waiting
    obtain ⟨armed, near⟩ := timed waiting
    have small : 2 * ahead link.now link.timer.expiry ≤ 2 ^ 32 := by
      rw [requestTicks_eq] at near
      omega
    have later : ahead link.now link.timer.expiry ≠ 0 := by
      rwa [Ne, ← due_iff armed small]
    refine ⟨armed, ?_⟩
    change ahead (link.now + 1#32) link.timer.expiry ≤ requestTicks
    rw [ahead_succ later]
    omega

theorem tick (timed : link.Timed) (lost : Bool) : (link.tick lost).Timed := by
  unfold Link.tick
  dsimp only
  split
  · exact expire_nextTick detach
  · split
    · exact expire_nextTick request
    · exact expire_nextTick timed

/-- **The request timer runs through every wait**, unless a beacon is refused. -/
theorem step (timed : link.Timed) (signal : Signal) (kept : ¬ link.refuses signal) :
    (link.step signal).Timed := by
  cases signal with
  | nothing => exact timed
  | beacon hdr permit => exact timed.onBeacon hdr permit kept
  | response hdr resp => exact timed.onResponse hdr resp
  | tick lost => exact timed.tick lost

end Link.Timed

/-- A refused beacon leaves a client that waits without a timer. -/
theorem Link.refuses.strands {link : Link} {signal : Signal} (refused : link.refuses signal) :
    ¬ (link.step signal).Timed := by
  cases signal with
  | beacon hdr permit =>
      obtain ⟨state, rfl⟩ := refused
      have stuck : link.onBeacon hdr false = link.cancel := by simp [Link.onBeacon, state]
      intro timed
      have armed := (timed (by simp [Link.step, stuck, Link.waiting, state])).1
      simp [Link.step, stuck] at armed
  | nothing => exact refused.elim
  | response hdr resp => exact refused.elim
  | tick lost => exact refused.elim

/-- **A tick of a client that waits** ends the wait or brings its end nearer. -/
theorem Link.Timed.tick_nearer {link : Link} (timed : link.Timed) (waiting : link.waiting)
    (lost : Bool) :
    (link.tick lost).state = .unregistered ∨
      (link.tick lost).waiting ∧
        ahead (link.tick lost).now (link.tick lost).timer.expiry + 1 =
          ahead link.now link.timer.expiry := by
  obtain ⟨armed, near⟩ := timed waiting
  have asked : link.state ≠ .unregistered := by
    rcases waiting with state | state <;> simp [state]
  unfold Link.tick
  rw [if_neg asked]
  cases lost
  · unfold Link.expire
    rw [requestTicks_eq] at near
    by_cases due : link.timer.due link.now = true
    · exact .inl (by simp [due, waiting])
    · have later : ahead link.now link.timer.expiry ≠ 0 := by
        rwa [Ne, ← due_iff armed (by omega)]
      refine .inr ?_
      simp only [Bool.false_eq_true, if_false, if_neg due]
      refine ⟨waiting, ?_⟩
      change ahead (link.now + 1#32) link.timer.expiry + 1 = _
      rw [ahead_succ later]
      omega
  · refine .inl ?_
    unfold Link.expire
    simp only [if_true]
    split_ifs <;> rfl

/-! ### Runs without frames -/

/-- The input is a frame from the PHY. -/
def Input.isRecv : Input → Bool
  | .recv _ _ _ => true
  | _ => false

/-- What is neither a frame nor a tick leaves the link alone. -/
theorem step_link_other (σ : Mac) (client : σ.ctx.params.coordinator = false) {input : Input}
    (noFrame : input.isRecv = false) (noTick : input.isTick = false) :
    (σ.step input).ctx.link = σ.ctx.link := by
  rw [step_link σ client]
  cases input <;> first | rfl | simp_all [Input.isRecv, Input.isTick]

/-- **With no further frames a wait ends** within one tick more than the timer has ahead. -/
theorem run_returns {σ : Mac} (sound : σ.ctx.link.Sound) (timed : σ.ctx.link.Timed)
    (waiting : σ.ctx.link.waiting) (quiet : List Input)
    (noFrames : ∀ input ∈ quiet, input.isRecv = false)
    (enough : ahead σ.ctx.tickCount σ.ctx.timer.expiry < quiet.countP Input.isTick) :
    ∃ before after, quiet = before ++ after ∧ (σ.run before).ctx.state = .unregistered ∧
      before.countP Input.isTick ≤ ahead σ.ctx.tickCount σ.ctx.timer.expiry + 1 := by
  induction quiet generalizing σ with
  | nil => simp at enough
  | cons input quiet ih =>
      have noFrame := noFrames input List.mem_cons_self
      have noFrames' : ∀ other ∈ quiet, other.isRecv = false := fun other member =>
        noFrames other (List.mem_cons_of_mem input member)
      have sound' := step_sound σ sound input
      have moved := step_link σ sound.role input
      cases ticks : input.isTick
      case false =>
        have same := step_link_other σ sound.role noFrame ticks
        have now := congrArg Link.now same
        have timer := congrArg Link.timer same
        simp only [Ctx.link_now, Ctx.link_timer] at now timer
        obtain ⟨before, after, rfl, state, soon⟩ := ih sound' (by rwa [same]) (by rwa [same])
          noFrames' (by simpa [now, timer, ticks] using enough)
        exact ⟨input :: before, after, rfl, state, by simpa [now, timer, ticks] using soon⟩
      case true =>
        cases input <;> simp only [Input.isTick, Bool.false_eq_true] at ticks
        rcases timed.tick_nearer waiting σ.ctx.losesCoordinator with state | ⟨waiting', nearer⟩
        · refine ⟨[.tick], quiet, rfl, ?_, by simp [Input.isTick]⟩
          have unregistered := congrArg Link.state moved
          simpa [state, Ctx.signal, Link.step] using unregistered
        · have timed' := timed.tick σ.ctx.losesCoordinator
          have moved : (σ.step .tick).ctx.link = σ.ctx.link.tick σ.ctx.losesCoordinator := moved
          rw [← moved] at waiting' nearer timed'
          simp only [Ctx.link_now, Ctx.link_timer] at nearer
          simp only [List.countP_cons, Input.isTick, if_true] at enough
          obtain ⟨before, after, rfl, state, soon⟩ := ih sound' timed' waiting' noFrames' (by omega)
          refine ⟨.tick :: before, after, rfl, state, ?_⟩
          simp only [List.countP_cons, Input.isTick, if_true]
          omega

/-- An Unregistered client is still so at its next tick, if no frame arrives before. -/
theorem run_unregistered {σ : Mac} (sound : σ.ctx.link.Sound)
    (unregistered : σ.ctx.state = .unregistered) (quiet : List Input)
    (noFrames : ∀ input ∈ quiet, input.isRecv = false)
    (ticks : 0 < quiet.countP Input.isTick) :
    ∃ before after, quiet = before ++ .tick :: after ∧
      (σ.run before).ctx.state = .unregistered := by
  induction quiet generalizing σ with
  | nil => simp at ticks
  | cons input quiet ih =>
      cases tick : input.isTick
      case true =>
        cases input <;> simp only [Input.isTick, Bool.false_eq_true] at tick
        exact ⟨[], quiet, rfl, unregistered⟩
      case false =>
        have noFrame := noFrames input List.mem_cons_self
        have state := congrArg Link.state (step_link_other σ sound.role noFrame tick)
        obtain ⟨before, after, rfl, still⟩ := ih (step_sound σ sound input)
          (state.trans unregistered)
          (fun other member => noFrames other (List.mem_cons_of_mem input member))
          (by simpa [tick] using ticks)
        exact ⟨input :: before, after, rfl, still⟩

/-! ### The beacon request of a tick -/

/-- An Unregistered client asks for a beacon in its tick. -/
theorem tick_requests {σ : Mac} (sound : σ.ctx.link.Sound)
    (unregistered : σ.ctx.state = .unregistered) :
    ∃ hdr new, (σ.step .tick).out = σ.out ++ new ∧ ⟨hdr, []⟩ ∈ frames new ∧
      hdr.type = PacketType.beaconRequest.code := by
  have mtu : 62 ≤ σ.ctx.phyMtu := sound.mtu
  let asking := σ.update fun ctx => ctx.setState .beaconRequest
  have fits : asking.ctx.fits [] := ⟨Nat.zero_le _, by simp [asking, headerSize]; omega⟩
  have solicited : ∃ rest, σ.solicit.out = σ.out ++ .phySend (some (σ.built + 1))
      ⟨asking.ctx.buildHeader none PacketType.beaconRequest.code, []⟩ 0#8 :: rest := by
    rw [Mac.solicit, if_pos unregistered, update_out, txPacket_broadcast _ _ _ _ _ fits]
    unfold tinymacPhySend
    dsimp only
    split <;> simp [asking]
  obtain ⟨rest, asked⟩ := solicited
  -- the timers despatched behind the request only add to the log
  have grows : Emits (fun _ => True) σ.solicit (σ.step .tick) := by
    have shape := tick_client σ sound.role
    rw [Mac.step, shape]
    refine Emits.trans ?_ (.of_out_eq (update_out ..))
    refine Emits.trans (Emits.trans ?_
      (despatchValidity_emits _ .coord coord_kept fun _ _ => trivial))
      (despatchRequest_emits _ trivial)
    exact despatchAck_emits _ .coord coord_kept (fun _ _ => trivial) (fun _ => trivial)
      (fun _ => trivial) trivial
  obtain ⟨later, grown, -⟩ := grows
  rw [asked, List.append_assoc] at grown
  exact ⟨asking.ctx.buildHeader none PacketType.beaconRequest.code, _, grown, by simp [frames],
    buildHeader_control ..⟩

/-! ### Recovery -/

/-- The client is not stuck: while it waits, its request timer is armed and at most `requestTicks`
ahead, and with no further frames it returns to Unregistered and asks for a beacon again, within
the ticks the timer takes and two more. -/
def Mac.Recovers (σ : Mac) : Prop :=
  σ.ctx.state = .beaconRequest ∨ σ.ctx.state = .registering →
    σ.ctx.timer.armed = true ∧
    ahead σ.ctx.tickCount σ.ctx.timer.expiry ≤ requestTicks ∧
    ∀ quiet : List Input, (∀ input ∈ quiet, input.isRecv = false) →
      requestTicks + 2 ≤ quiet.countP Input.isTick →
      ∃ before after, quiet = before ++ .tick :: after ∧
        (σ.run before).ctx.state = .unregistered ∧
        ∃ hdr new, ((σ.run before).step .tick).out = (σ.run before).out ++ new ∧
          ⟨hdr, []⟩ ∈ frames new ∧ hdr.type = PacketType.beaconRequest.code

/-- A beacon without the permit flag that is accepted in BeaconRequest. -/
def Ctx.RefusesBeacon (ctx : Ctx) : Input → Prop
  | .recv buf size _ =>
      ctx.state = .beaconRequest ∧ ctx.accepts (readHeader buf) size = true ∧
        (readHeader buf).type = PacketType.beacon.code ∧ headerSize + beaconSize ≤ size ∧
        (readBeacon buf (size - headerSize - beaconSize)).flags &&& beaconFlagsPermitAttach = 0#8
  | _ => False

/-- The frames that a machine in BeaconRequest refuses. -/
theorem refuses_frameSignal_iff {link : Link} (state : link.state = .beaconRequest) (buf : Memory)
    (size : Nat) :
    link.refuses (frameSignal buf size) ↔
      (readHeader buf).type = PacketType.beacon.code ∧ headerSize + beaconSize ≤ size ∧
        permits buf = false := by
  by_cases beacon : (readHeader buf).type = PacketType.beacon.code
  · rw [frameSignal, beacon, PacketType.ofCode_code]
    dsimp only
    split
    · next short => simp [Link.refuses, Nat.not_le.mpr short]
    · next long => simp [Link.refuses, state, Nat.not_lt.mp long]
  · have other : ¬ link.refuses (frameSignal buf size) := by
      unfold frameSignal
      split
      · next known => exact absurd (PacketType.ofCode_eq_some.mp known) beacon
      · split <;> exact not_false
      · exact not_false
    simp [beacon, other]

/-- The refused beacons of the code are those of the machine: a client in BeaconRequest has no
address, so the source lookup lets every accepted beacon through. -/
theorem refusesBeacon_iff {ctx : Ctx} (sound : ctx.link.Sound) (input : Input) :
    ctx.RefusesBeacon input ↔ ctx.link.refuses (ctx.signal input) := by
  cases input with
  | recv buf size rssi =>
      by_cases state : ctx.state = .beaconRequest
      case neg =>
        have elsewhere : ¬ ctx.link.refuses (ctx.signal (.recv buf size rssi)) := by
          cases ctx.signal (.recv buf size rssi) <;> simp [Link.refuses, state]
        simp [Ctx.RefusesBeacon, state, elsewhere]
      case pos =>
        have unaddressed : ctx.addr = addrUnassigned := sound.addr.mpr (by simp [state])
        have attends : ctx.attends (readHeader buf) size = ctx.accepts (readHeader buf) size := by
          simp [Ctx.attends, unaddressed]
        have refused := refuses_frameSignal_iff (show ctx.link.state = _ from state) buf size
        simp only [Ctx.RefusesBeacon, Ctx.signal, attends, state, true_and]
        cases accepted : ctx.accepts (readHeader buf) size
        · simp [Link.refuses]
        · simpa [permits, readBeacon] using refused.symm
  | _ => simp [Ctx.RefusesBeacon, Ctx.signal, Link.refuses]

theorem recovers_of_timed {σ : Mac} (sound : σ.ctx.link.Sound) (timed : σ.ctx.link.Timed) :
    σ.Recovers := by
  intro waiting
  obtain ⟨armed, near⟩ := timed waiting
  refine ⟨armed, near, fun quiet noFrames enough => ?_⟩
  have near : ahead σ.ctx.tickCount σ.ctx.timer.expiry ≤ requestTicks := near
  obtain ⟨early, rest, rfl, unregistered, soon⟩ := run_returns sound timed waiting quiet noFrames
    (by omega)
  rw [List.countP_append] at enough
  obtain ⟨idle, after, rfl, still⟩ := run_unregistered (run_sound sound early) unregistered rest
    (fun input member => noFrames input (List.mem_append_right early member)) (by omega)
  rw [← run_append] at still
  refine ⟨early ++ idle, after, by rw [List.append_assoc], still, ?_⟩
  exact tick_requests (run_sound sound _) still

theorem Mac.Recovers.timed {σ : Mac} (recovers : σ.Recovers) : σ.ctx.link.Timed := fun waiting =>
  ⟨(recovers waiting).1, (recovers waiting).2.1⟩

/-- The induction behind `client_recovers_iff`: a state that recovers keeps the timer through its
next step exactly when that step refuses no beacon. -/
theorem run_recovers_iff {σ : Mac} (sound : σ.ctx.link.Sound) (timed : σ.ctx.link.Timed)
    (inputs : List Input) :
    (∀ before after, inputs = before ++ after → (σ.run before).Recovers) ↔
      σ.Along (fun ctx input => ¬ ctx.RefusesBeacon input) inputs := by
  induction inputs generalizing σ with
  | nil =>
      refine ⟨fun _ => trivial, fun _ before after empty => ?_⟩
      obtain ⟨rfl, rfl⟩ := List.append_eq_nil_iff.mp empty.symm
      exact recovers_of_timed sound timed
  | cons input inputs ih =>
      have moved := step_link σ sound.role input
      have sound' := step_sound σ sound input
      constructor
      · intro recovers
        have timed' : (σ.step input).ctx.link.Timed := (recovers [input] inputs rfl).timed
        refine ⟨fun refused => ?_, (ih sound' timed').mp fun before after split => ?_⟩
        · rw [refusesBeacon_iff sound] at refused
          rw [moved] at timed'
          exact refused.strands timed'
        · exact recovers (input :: before) after (by rw [split, List.cons_append])
      · rintro ⟨kept, later⟩ before after split
        rw [refusesBeacon_iff sound] at kept
        have timed' : (σ.step input).ctx.link.Timed := by
          rw [moved]
          exact timed.step _ kept
        cases before with
        | nil => exact recovers_of_timed sound timed
        | cons first before =>
            obtain ⟨rfl, rfl⟩ := List.cons_eq_cons.mp split
            exact (ih sound' timed').mpr later before after rfl

/-- **A client is never stuck waiting, exactly when it refuses no beacon.** In a run of a client
every state recovers if and only if no step accepts, in BeaconRequest, a beacon without the permit
flag. -/
theorem client_recovers_iff (boot : Boot) (client : boot.params.coordinator = false)
    (inputs : List Input) :
    (∀ before after, inputs = before ++ after → (boot.start.run before).Recovers) ↔
      boot.start.Along (fun ctx input => ¬ ctx.RefusesBeacon input) inputs :=
  run_recovers_iff (start_sound boot client) (.of_idle (by simp [Link.waiting, client])) inputs

/-- A client asks for a beacon, and the answer does not permit attachment: the request timer is
cancelled, and the client waits in BeaconRequest with nothing that would end the wait. -/
theorem refused_beacon_strands :
    let σ := (Boot.clientWith 7#64 0#16).start.run
      [.tick, .frame (beaconFrame 1#8 1#8 0#8 0xC0#64) 0]
    σ.ctx.state = .beaconRequest ∧ σ.ctx.timer.armed = false ∧ ¬ σ.Recovers := by
  have state : ((Boot.clientWith 7#64 0#16).start.run
      [.tick, .frame (beaconFrame 1#8 1#8 0#8 0xC0#64) 0]).ctx.state = .beaconRequest := by
    decide +kernel
  have disarmed : ((Boot.clientWith 7#64 0#16).start.run
      [.tick, .frame (beaconFrame 1#8 1#8 0#8 0xC0#64) 0]).ctx.timer.armed = false := by
    decide +kernel
  refine ⟨state, disarmed, fun recovers => ?_⟩
  have armed := (recovers (.inl state)).1
  rw [disarmed] at armed
  cases armed

/-- The answer permits attachment: the client waits for its registration, and recovers. -/
theorem client_recovers_permitted :
    let σ := (Boot.clientWith 7#64 0#16).start.run
      [.tick, .frame (beaconFrame 1#8 1#8 beaconFlagsPermitAttach 0xC0#64) 0]
    σ.ctx.state = .registering ∧ σ.Recovers := by
  refine ⟨by decide +kernel, ?_⟩
  refine (client_recovers_iff (Boot.clientWith 7#64 0#16) rfl
    [.tick, .frame (beaconFrame 1#8 1#8 beaconFlagsPermitAttach 0xC0#64) 0]).mpr
      ⟨id, ?_, trivial⟩ _ [] rfl
  rintro ⟨-, -, -, -, refused⟩
  revert refused
  decide +kernel

end TinyHan.Tinymac
