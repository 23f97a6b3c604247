/-
**The link of a client.**

What a client knows of its place in a network is a small part of its context: its state, its
address and network, and the request timer. `Link` is that part, and `Link.step` is the machine it
runs, driven by what the client observes (`Signal`): a beacon, a registration response, a tick, or
nothing of interest.

* `step_link` — every step of a client moves its link as the machine does, on the signal that
  `Ctx.signal` reads off the context and the input;
* `Link.Sound` — a client has an address exactly when it is Registered, and a network exactly when
  it is Registering or Registered; `start_sound` and `run_sound` show it for every reachable state.
-/

import TinyHan.Mac.Effects

namespace TinyHan.Tinymac

open TinyHan.Lib

/-! ### The machine -/

/-- What a client knows of its place in a network, with what never changes about the client. -/
@[ext] structure Link where
  params : Params
  phyMtu : Nat
  state : ClientState
  addr : BitVec 8
  netId : BitVec 8
  timer : Timer .requestTimeout
  now : BitVec 32
  deriving DecidableEq

/-- The link of a context. -/
@[simps] def Ctx.link (ctx : Ctx) : Link :=
  ⟨ctx.params, ctx.phyMtu, ctx.state, ctx.addr, ctx.netId, ctx.timer, ctx.tickCount⟩

section Writes

variable (link : Link)

/-- The registration is dropped. -/
@[simps] def Link.detach : Link :=
  { link with state := .unregistered, addr := addrUnassigned, netId := networkAny }

/-- The request timer is cancelled. -/
@[simps] def Link.cancel : Link := { link with timer := tinymacCancelTimer link.timer }

/-- The request timer is set. -/
@[simps] def Link.arm (delay : BitVec 32) : Link :=
  { link with timer := tinymacSetTimer link.timer link.now delay }

/-- The client binds itself to the network of a beacon. -/
@[simps] def Link.bind (netId : BitVec 8) : Link :=
  { link with state := .registering, netId := netId }

/-- The state changes. -/
@[simps] def Link.setState (state : ClientState) : Link := { link with state := state }

/-- A short address is accepted. -/
@[simps] def Link.attach (netId addr : BitVec 8) : Link :=
  { link with state := .registered, addr := addr, netId := netId }

/-- The clock advances. -/
@[simps] def Link.nextTick : Link := { link with now := link.now + 1#32 }

/-- The client waits for an answer, to a beacon request or to a registration request. -/
def Link.waiting : Prop := link.state = .beaconRequest ∨ link.state = .registering

instance : Decidable link.waiting := inferInstanceAs (Decidable (_ ∨ _))

/-- The client looks for a network. -/
def Link.seeking (link : Link) : Prop :=
  link.state = .unregistered ∨ link.state = .beaconRequest

/-- A registration is requested from the sender of a beacon. -/
def Link.join (netId : BitVec 8) : Link := (link.bind netId).arm (millis registrationTimeout)

/-- A beacon is requested. -/
def Link.request : Link := (link.setState .beaconRequest).arm (seconds beaconRequestTimeout)

/-- A beacon: a client that looks for a network joins if it may, and otherwise stops waiting. -/
def Link.onBeacon (hdr : Header) (permit : Bool) : Link :=
  match link.state with
  | .unregistered => if permit then link.join hdr.netId else link
  | .beaconRequest => if permit then link.join hdr.netId else link.cancel
  | .registering => link
  | .registered => link

/-- A registration response: an address for this client, its detachment, or a clash. -/
def Link.onResponse (hdr : Header) (resp : RegistrationResponse) : Link :=
  if resp.uuid ≠ link.params.uuid then
    if hdr.destAddr = addrBroadcast then link else link.detach
  else
    let answered := if link.state = .registering then link.cancel else link
    if resp.addr = addrUnassigned ∨ resp.status ≠ RegistrationStatus.success.code then
      answered.detach
    else if link.state = .registering then answered.attach hdr.netId resp.addr
    else answered

/-- The request timer is despatched. -/
def Link.expire : Link :=
  if link.timer.due link.now then
    if link.waiting then link.cancel.detach else link.cancel
  else link

/-- A tick; `lost` says that the client gave its coordinator up in it. -/
def Link.tick (lost : Bool) : Link :=
  let requested := if link.state = .unregistered then link.request else link
  let kept := if lost then requested.detach else requested
  kept.expire.nextTick

end Writes

/-- What a client observes in one step. -/
inductive Signal where
  | nothing
  | beacon (hdr : Header) (permit : Bool)
  | response (hdr : Header) (resp : RegistrationResponse)
  | tick (lost : Bool)
  deriving DecidableEq

/-- One step of the machine. -/
def Link.step (link : Link) : Signal → Link
  | .nothing => link
  | .beacon hdr permit => link.onBeacon hdr permit
  | .response hdr resp => link.onResponse hdr resp
  | .tick lost => link.tick lost

/-- The machine never changes what the client was started with. -/
theorem Link.step_params (link : Link) (signal : Signal) :
    (link.step signal).params = link.params := by
  cases signal with
  | nothing => rfl
  | beacon hdr permit =>
      simp only [Link.step, Link.onBeacon]
      split <;> (try split) <;> rfl
  | response hdr resp =>
      simp only [Link.step, Link.onResponse]
      split_ifs <;> rfl
  | tick lost =>
      simp only [Link.step, Link.tick, Link.expire]
      split_ifs <;> rfl

/-- The signal comes from a network. -/
def Signal.networked : Signal → Prop
  | .beacon hdr _ => hdr.netId ≠ networkAny
  | .response hdr _ => hdr.netId ≠ networkAny
  | _ => True

/-- The link of a client: it has an address exactly when it is Registered, and a network exactly
when it is Registering or Registered. -/
structure Link.Sound (link : Link) : Prop where
  role : link.params.coordinator = false
  mtu : 62 ≤ link.phyMtu
  addr : link.addr = addrUnassigned ↔ link.state ≠ .registered
  net : link.netId = networkAny ↔ link.state = .unregistered ∨ link.state = .beaconRequest

namespace Link.Sound

variable {link : Link}

theorem detach (sound : link.Sound) : link.detach.Sound := by
  constructor <;> simp [sound.role, sound.mtu]

theorem cancel (sound : link.Sound) : link.cancel.Sound :=
  ⟨sound.role, sound.mtu, sound.addr, sound.net⟩

theorem arm (sound : link.Sound) (delay : BitVec 32) : (link.arm delay).Sound :=
  ⟨sound.role, sound.mtu, sound.addr, sound.net⟩

theorem nextTick (sound : link.Sound) : link.nextTick.Sound :=
  ⟨sound.role, sound.mtu, sound.addr, sound.net⟩

theorem join (sound : link.Sound) {netId : BitVec 8} (network : netId ≠ networkAny)
    (unregistered : link.state ≠ .registered) : (link.join netId).Sound := by
  have bound : (link.bind netId).Sound :=
    ⟨sound.role, sound.mtu, by simpa using sound.addr.mpr unregistered, by simpa using network⟩
  exact bound.arm _

theorem attach (sound : link.Sound) {netId addr : BitVec 8} (network : netId ≠ networkAny)
    (assigned : addr ≠ addrUnassigned) : (link.attach netId addr).Sound :=
  ⟨sound.role, sound.mtu, by simpa using assigned, by simpa using network⟩

theorem request (sound : link.Sound) (unregistered : link.state = .unregistered) :
    link.request.Sound := by
  have requested : (link.setState .beaconRequest).Sound :=
    ⟨sound.role, sound.mtu, by simpa using sound.addr.mpr (by simp [unregistered]),
      by simpa using sound.net.mpr (.inl unregistered)⟩
  exact requested.arm _

theorem onBeacon (sound : link.Sound) {hdr : Header} (network : hdr.netId ≠ networkAny)
    (permit : Bool) : (link.onBeacon hdr permit).Sound := by
  unfold Link.onBeacon
  split
  · next state =>
    split
    · exact sound.join network (by simp [state])
    · exact sound
  · next state =>
    split
    · exact sound.join network (by simp [state])
    · exact sound.cancel
  · exact sound
  · exact sound

theorem onResponse (sound : link.Sound) {hdr : Header} (network : hdr.netId ≠ networkAny)
    (resp : RegistrationResponse) : (link.onResponse hdr resp).Sound := by
  have answered : (if link.state = .registering then link.cancel else link).Sound := by
    split
    · exact sound.cancel
    · exact sound
  unfold Link.onResponse
  dsimp only
  split
  · split
    · exact sound
    · exact sound.detach
  · split
    · exact answered.detach
    · next accepted =>
      split
      · exact sound.cancel.attach network fun unassigned => accepted (.inl unassigned)
      · exact sound

theorem expire (sound : link.Sound) : link.expire.Sound := by
  unfold Link.expire
  split
  · split
    · exact sound.cancel.detach
    · exact sound.cancel
  · exact sound

theorem tick (sound : link.Sound) (lost : Bool) : (link.tick lost).Sound := by
  have requested : (if link.state = .unregistered then link.request else link).Sound := by
    split
    · next unregistered => exact sound.request unregistered
    · exact sound
  unfold Link.tick
  dsimp only
  split
  · exact requested.detach.expire.nextTick
  · exact requested.expire.nextTick

theorem step (sound : link.Sound) (signal : Signal) (networked : signal.networked) :
    (link.step signal).Sound := by
  cases signal with
  | nothing => exact sound
  | beacon hdr permit => exact sound.onBeacon networked permit
  | response hdr resp => exact sound.onResponse networked resp
  | tick lost => exact sound.tick lost

end Link.Sound

/-! ### What a client observes -/

/-- The frame gets past the source lookup of a client. -/
def Ctx.attends (ctx : Ctx) (hdr : Header) (size : Nat) : Bool :=
  ctx.accepts hdr size &&
    (ctx.addr == addrUnassigned || (tinymacGetNodeByAddr ctx hdr.srcAddr).isSome)

/-- The permit flag of a beacon in a receive buffer. -/
def permits (buf : Memory) : Bool :=
  (readBeacon buf 0).flags &&& beaconFlagsPermitAttach != 0#8

/-- What a frame that is attended to means for the link. -/
def frameSignal (buf : Memory) (size : Nat) : Signal :=
  match PacketType.ofCode (readHeader buf).type with
  | some .beacon =>
      if size < headerSize + beaconSize then .nothing
      else .beacon (readHeader buf) (permits buf)
  | some .registrationResponse =>
      if size < headerSize + registrationResponseSize then .nothing
      else .response (readHeader buf) (readRegistrationResponse buf)
  | _ => .nothing

/-- The client gives its coordinator up in this tick. -/
def Ctx.losesCoordinator (ctx : Ctx) : Bool :=
  ctx.coord.ackTimer.due ctx.tickCount && ctx.coord.retries == 0#8

/-- What an input means for the link. -/
def Ctx.signal (ctx : Ctx) : Input → Signal
  | .recv buf size _ =>
      if ctx.attends (readHeader buf) size then frameSignal buf size else .nothing
  | .tick => .tick ctx.losesCoordinator
  | _ => .nothing

/-! ### Steps of the context -/

section Writes

variable (ctx : Ctx)

/-- Writes to a node record leave the link alone. -/
@[simp] theorem modify_link (ptr : NodePtr) (change : Node → Node) :
    (ctx.modify ptr change).link = ctx.link := by
  cases ptr <;> rfl

@[simp] theorem nextSeq_link : ctx.nextSeq.link = ctx.link := rfl
@[simp] theorem detach_link : ctx.detach.link = ctx.link.detach := rfl
@[simp] theorem cancelRequest_link : ctx.cancelRequest.link = ctx.link.cancel := rfl
@[simp] theorem armRequest_link (delay : BitVec 32) :
    (ctx.armRequest delay).link = ctx.link.arm delay := rfl
@[simp] theorem bind_link (hdr : Header) (uuid : BitVec 64) :
    (ctx.bind hdr uuid).link = ctx.link.bind hdr.netId := rfl
@[simp] theorem attach_link (netId addr : BitVec 8) :
    (ctx.attach netId addr).link = ctx.link.attach netId addr := rfl
@[simp] theorem setState_link (state : ClientState) :
    (ctx.setState state).link = ctx.link.setState state := rfl
@[simp] theorem nextTick_link : ctx.nextTick.link = ctx.link.nextTick := rfl

/-- A request timer that is set again was not cancelled. -/
@[simp] theorem cancel_join (link : Link) (netId : BitVec 8) :
    link.cancel.join netId = link.join netId := rfl

end Writes

/-- A client requests a registration from the sender of a beacon. -/
def Mac.join (σ : Mac) (hdr : Header) (uuid : BitVec 64) : Mac :=
  let attach : RegistrationRequest := ⟨σ.ctx.params.uuid, σ.ctx.params.flags⟩
  (tinymacTxPacket (σ.update fun ctx => ctx.bind hdr uuid) (some .coord)
    PacketType.registrationRequest.code attach.bytes 0#16 none).2.update
      fun ctx => ctx.armRequest (millis registrationTimeout)

section Parts

variable (σ : Mac)

@[simp] theorem txPacket_link (dest : Option NodePtr) (flagsType : BitVec 8) (buf : List Byte)
    (validity : BitVec 16) (cb : Option SendCb) :
    (tinymacTxPacket σ dest flagsType buf validity cb).2.ctx.link = σ.ctx.link := by
  by_cases fits : σ.ctx.fits buf
  · cases dest with
    | none => rw [txPacket_broadcast_ctx _ _ _ _ _ fits, nextSeq_link]
    | some ptr => rw [txPacket_unicast_ctx _ _ _ _ _ _ fits, modify_link, nextSeq_link]
  · rw [txPacket_oversize _ _ _ _ _ _ fits]

@[simp] theorem rxAck_link (node : Option NodePtr) (hdr : Header) :
    (tinymacRxAck σ node hdr).ctx.link = σ.ctx.link := by
  unfold tinymacRxAck
  split
  · split <;> simp
  · rfl

@[simp] theorem join_link (hdr : Header) (uuid : BitVec 64) :
    (σ.join hdr uuid).ctx.link = σ.ctx.link.join hdr.netId := by
  simp [Mac.join, Link.join]

/-- What a client does with a beacon, by its state. -/
theorem rxBeacon_eq (client : σ.ctx.params.coordinator = false) (hdr : Header) (buf : Memory)
    (size : Nat) :
    tinymacRxBeacon σ hdr buf size =
      match σ.ctx.state with
      | .unregistered => if permits buf then σ.join hdr (readUuid buf) else σ
      | .beaconRequest =>
          let σ := σ.update Ctx.cancelRequest
          if permits buf then σ.join hdr (readUuid buf) else σ
      | .registering => σ
      | .registered =>
          if (window buf (headerSize + beaconSize) (size - headerSize - beaconSize)).any
              (· == σ.ctx.addr) then
            (tinymacTxPacket σ (some .coord) PacketType.poll.code [] 0#16 none).2
          else σ := by
  unfold tinymacRxBeacon
  rw [if_neg (by simp [client])]
  cases state : σ.ctx.state <;> simp [state, Mac.join, permits, readBeacon]

theorem rxBeacon_link (client : σ.ctx.params.coordinator = false) (hdr : Header) (buf : Memory)
    (size : Nat) :
    (tinymacRxBeacon σ hdr buf size).ctx.link = σ.ctx.link.onBeacon hdr (permits buf) := by
  rw [rxBeacon_eq σ client, Link.onBeacon, Ctx.link_state]
  cases σ.ctx.state <;> dsimp only
  · split <;> simp
  · split <;> simp
  · split <;> simp

theorem rxRegistrationResponse_link (client : σ.ctx.params.coordinator = false) (hdr : Header)
    (buf : Memory) :
    (tinymacRxRegistrationResponse σ hdr buf).ctx.link =
      σ.ctx.link.onResponse hdr (readRegistrationResponse buf) := by
  unfold tinymacRxRegistrationResponse Link.onResponse
  rw [if_neg (by simp [client])]
  simp only [Ctx.link_params, Ctx.link_state]
  split_ifs <;> simp_all

/-- The end of the receive handler. -/
theorem recvType_link (client : σ.ctx.params.coordinator = false) (node : Option NodePtr)
    (buf : Memory) (size : Nat) :
    (tinymacRecvType σ node (readHeader buf) buf size).ctx.link =
      σ.ctx.link.step (frameSignal buf size) := by
  cases known : PacketType.ofCode (readHeader buf).type with
  | none =>
      have nothing : frameSignal buf size = .nothing := by simp [frameSignal, known]
      rw [nothing, tinymacRecvType]
      simp only [known]
      split_ifs <;> rfl
  | some type =>
      rw [recvType_control σ node _ buf size type (PacketType.ofCode_eq_some.mp known), frameSignal,
        known]
      unfold tinymacRecvControl
      cases type with
      | beacon =>
          dsimp only
          split
          · rfl
          · exact rxBeacon_link σ client _ buf size
      | ack => exact rxAck_link σ node _
      | poll => rfl
      | beaconRequest => rw [txBeacon_client σ false client]; rfl
      | registrationRequest => simp [tinymacRxRegistrationRequest, client, Link.step]
      | deregistrationRequest => simp [tinymacRxDeregistrationRequest, client, Link.step]
      | registrationResponse =>
          dsimp only
          split
          · rfl
          · exact rxRegistrationResponse_link σ client _ buf

end Parts

/-- A client only accepts frames of a network, from a sender with an address. -/
theorem accepts_client {ctx : Ctx} (client : ctx.params.coordinator = false) {hdr : Header}
    {size : Nat} (accepted : ctx.accepts hdr size = true) :
    hdr.netId ≠ networkAny ∧ hdr.srcAddr ≠ addrUnassigned := by
  simp only [Ctx.accepts, Ctx.admitted, client, Bool.false_and, Bool.or_false, Bool.and_eq_true,
    Bool.not_eq_true', Bool.or_eq_false_iff, beq_eq_false_iff_ne] at accepted
  exact accepted.2

theorem recv_link (σ : Mac) (client : σ.ctx.params.coordinator = false) (buf : Memory)
    (size : Nat) (rssi : Int) :
    (tinymacRecvCb σ buf size rssi).ctx.link =
      σ.ctx.link.step (σ.ctx.signal (.recv buf size rssi)) := by
  unfold tinymacRecvCb Ctx.signal
  dsimp only
  split
  case isFalse refused =>
    rw [if_neg (by simp [Ctx.attends, refused])]
    rfl
  case isTrue accepted =>
    have assigned := (accepts_client client accepted).2
    by_cases unaddressed : σ.ctx.addr = addrUnassigned
    · rw [if_neg (by simp [unaddressed]), if_pos (by simp [Ctx.attends, accepted, unaddressed]),
        recvType_link _ (by simpa using client), recvStandby_ctx]
    · rw [if_pos (by simp [unaddressed, assigned]), recvStandby_ctx]
      cases found : tinymacGetNodeByAddr σ.ctx (readHeader buf).srcAddr with
      | some ptr =>
          rw [if_pos (by simp [Ctx.attends, accepted, found])]
          dsimp only
          rw [recvType_link _ (by simpa [recvKnown_ctx] using client), recvKnown_ctx, modify_link,
            recvStandby_ctx]
      | none =>
          rw [if_neg (by simp [Ctx.attends, accepted, found, unaddressed])]
          simp [tinymacRecvUnknown, client, Link.step]

/-! ### Ticks -/

/-- A due ack timer on the coordinator record: when no retry is left, the client has lost its
coordinator. -/
theorem despatchAck_coord_link (σ : Mac) :
    (tinymacDespatchTimer σ (.ack .coord)).ctx.link =
      if σ.ctx.losesCoordinator then σ.ctx.link.detach else σ.ctx.link := by
  unfold tinymacDespatchTimer Ctx.losesCoordinator
  cases due : σ.timerDue (.ack .coord)
  · have notDue : σ.ctx.coord.ackTimer.due σ.ctx.tickCount = false := due
    simp [notDue]
  · have isDue : σ.ctx.coord.ackTimer.due σ.ctx.tickCount = true := due
    by_cases exhausted : σ.ctx.coord.retries = 0#8
    · simp [Mac.timerCallback, Mac.clearTimer, tinymacAckTimeout, isDue, exhausted,
        deregister_coord_ctx]
    · cases sleepy : σ.ctx.coord.cancelAck.sleepy <;>
        simp [Mac.timerCallback, Mac.clearTimer, tinymacAckTimeout, isDue, exhausted, sleepy]

@[simp] theorem despatchValidity_coord_link (σ : Mac) :
    (tinymacDespatchTimer σ (.validity .coord)).ctx.link = σ.ctx.link := by
  unfold tinymacDespatchTimer
  split <;> simp [Mac.timerCallback, Mac.clearTimer, tinymacValidityTimeout]

theorem despatchRequest_link (σ : Mac) :
    (tinymacDespatchTimer σ .request).ctx.link = σ.ctx.link.expire := by
  unfold tinymacDespatchTimer Link.expire Mac.timerDue Mac.timerCallback Mac.clearTimer
    tinymacRequestTimeout
  simp only [Ctx.link_timer, Ctx.link_now, Link.waiting, Ctx.link_state, update_ctx,
    Ctx.cancelRequest_state]
  split_ifs <;> simp [deregister_coord_ctx]

/-- The beacon request of a client that has no network. -/
def Mac.solicit (σ : Mac) : Mac :=
  if σ.ctx.state = .unregistered then
    (tinymacTxPacket (σ.update fun ctx => ctx.setState .beaconRequest) none
      PacketType.beaconRequest.code [] 0#16 none).2.update
        fun ctx => ctx.armRequest (seconds beaconRequestTimeout)
  else σ

theorem solicit_link (σ : Mac) : σ.solicit.ctx.link =
    if σ.ctx.state = .unregistered then σ.ctx.link.request else σ.ctx.link := by
  unfold Mac.solicit
  split <;> simp [Link.request]

/-- A beacon request leaves the coordinator record alone. -/
theorem solicit_losesCoordinator (σ : Mac) :
    σ.solicit.ctx.losesCoordinator = σ.ctx.losesCoordinator := by
  unfold Mac.solicit
  split
  · by_cases fits : (σ.update fun ctx => ctx.setState .beaconRequest).ctx.fits []
    · simp [txPacket_broadcast_ctx _ _ _ _ _ fits, Ctx.losesCoordinator]
    · simp [txPacket_oversize _ _ _ _ _ _ fits, Ctx.losesCoordinator]
  · rfl

/-- The tick of a client: a beacon request if it has no network, then its three timers. -/
theorem tick_client (σ : Mac) (client : σ.ctx.params.coordinator = false) :
    tinymacTickHandler σ = (tinymacDespatchTimer (tinymacDespatchTimer
      (tinymacDespatchTimer σ.solicit (.ack .coord)) (.validity .coord)) .request).update
        Ctx.nextTick := by
  simp [tinymacTickHandler, tickClient, client, Mac.solicit]

theorem tick_link (σ : Mac) (client : σ.ctx.params.coordinator = false) :
    (tinymacTickHandler σ).ctx.link = σ.ctx.link.tick σ.ctx.losesCoordinator := by
  rw [tick_client σ client, update_ctx, nextTick_link, despatchRequest_link,
    despatchValidity_coord_link,
    despatchAck_coord_link, solicit_losesCoordinator, solicit_link, Link.tick, Ctx.link_state]

/-! ### Runs -/

/-- **A client moves its link as the machine does.** -/
theorem step_link (σ : Mac) (client : σ.ctx.params.coordinator = false) (input : Input) :
    (σ.step input).ctx.link = σ.ctx.link.step (σ.ctx.signal input) := by
  cases input with
  | recv buf size rssi => exact recv_link σ client buf size rssi
  | tick => exact tick_link σ client
  | send dest type buf validity cb =>
      change (tinymacSend σ dest type buf validity cb).2.ctx.link = σ.ctx.link
      unfold tinymacSend
      split
      · rfl
      · split
        · rfl
        · exact txPacket_link ..
  | permitAttach permit => rfl
  | registerRecvCb cb => rfl
  | registerRegCb cb => rfl
  | registerDeregCb cb => rfl

theorem step_params (σ : Mac) (client : σ.ctx.params.coordinator = false) (input : Input) :
    (σ.step input).ctx.params = σ.ctx.params := by
  have moved := congrArg Link.params (step_link σ client input)
  rwa [Link.step_params] at moved

theorem signal_networked {ctx : Ctx} (client : ctx.params.coordinator = false) (input : Input) :
    (ctx.signal input).networked := by
  cases input with
  | recv buf size rssi =>
      unfold Ctx.signal frameSignal
      dsimp only
      split
      · next attended =>
        have accepted : ctx.accepts (readHeader buf) size = true := by
          rw [Ctx.attends, Bool.and_eq_true] at attended
          exact attended.1
        have network := (accepts_client client accepted).1
        split
        · split
          · trivial
          · exact network
        · split
          · trivial
          · exact network
        · trivial
      · trivial
  | _ => trivial

theorem step_sound (σ : Mac) (sound : σ.ctx.link.Sound) (input : Input) :
    (σ.step input).ctx.link.Sound := by
  rw [step_link σ sound.role input]
  exact sound.step _ (signal_networked sound.role input)

theorem run_sound {σ : Mac} (sound : σ.ctx.link.Sound) (inputs : List Input) :
    (σ.run inputs).ctx.link.Sound := by
  induction inputs generalizing σ with
  | nil => exact sound
  | cons input inputs ih => exact ih (step_sound σ sound input)

theorem start_sound (boot : Boot) (client : boot.params.coordinator = false) :
    boot.start.ctx.link.Sound := by
  refine ⟨by simpa using client, ?_, by simp [client], by simp [client]⟩
  rw [Ctx.link_phyMtu, start_phyMtu]
  cases boot.phy <;> decide

end TinyHan.Tinymac
