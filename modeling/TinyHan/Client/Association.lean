/-
**The association of a client**: its link and its coordinator record, together.

A client tracks its registration twice: in its link (state, address, network) and in the record of
its coordinator, which is what `tinymac_send` looks up. This module says what one step does to
both.

* `Link.step_registered`, `Link.step_binds`, `Link.step_netId` — how the machine of the link enters
  Registered, how it takes on a network, and that it keeps the network until it lets go of it;
* `recv_coord`, `tick_coord`, `send_coord` — the coordinator record behind a frame, a tick and a
  call of `tinymac_send`;
* `client_association` — the invariant over every reachable state.
-/

import TinyHan.Client.Reception

namespace TinyHan.Tinymac

open TinyHan.Lib

/-! ### The link -/

section Link

variable {link : Link} {signal : Signal}

theorem Link.not_seeking_iff :
    ¬ link.seeking ↔ link.state = .registering ∨ link.state = .registered := by
  cases state : link.state <;> simp [Link.seeking, state]

/-- **Registered is entered only from Registering**, by a response to this client with an
address. -/
theorem Link.step_registered (before : link.state ≠ .registered)
    (after : (link.step signal).state = .registered) :
    link.state = .registering ∧ ∃ hdr resp, signal = .response hdr resp ∧
      resp.uuid = link.params.uuid ∧ resp.status = RegistrationStatus.success.code ∧
      resp.addr ≠ addrUnassigned := by
  cases signal with
  | nothing => exact absurd after before
  | beacon hdr permit =>
      exfalso
      simp only [Link.step, Link.onBeacon] at after
      split at after
      · split at after <;> simp_all [Link.join]
      · split at after <;> simp_all [Link.join]
      · exact before after
      · exact before after
  | response hdr resp =>
      simp only [Link.step, Link.onResponse] at after
      split_ifs at after with foreign broadcast refused waiting waiting
      · exact absurd after before
      · cases after
      · cases after
      · cases after
      · exact ⟨waiting, hdr, resp, rfl, of_not_not foreign, by tauto, by tauto⟩
      · exact absurd after before
  | tick lost =>
      exfalso
      simp only [Link.step, Link.tick, Link.expire] at after
      split_ifs at after <;> simp_all [Link.request]

/-- **Where the address of a Registered client comes from**: it had it, or a response to this client
names it. -/
theorem Link.step_address (after : (link.step signal).state = .registered) :
    (link.state = .registered ∧ (link.step signal).addr = link.addr) ∨
      ∃ hdr resp, signal = .response hdr resp ∧
        resp = ⟨link.params.uuid, (link.step signal).addr, RegistrationStatus.success.code⟩ ∧
        resp.addr ≠ addrUnassigned := by
  by_cases before : link.state = .registered
  · refine .inl ⟨before, ?_⟩
    cases signal with
    | nothing => rfl
    | beacon hdr permit => simp [Link.step, Link.onBeacon, before]
    | response hdr resp =>
        simp only [Link.step, Link.onResponse, before] at after ⊢
        split_ifs at after ⊢ <;> simp_all
    | tick lost =>
        simp only [Link.step, Link.tick, Link.expire] at after ⊢
        split_ifs at after ⊢ <;> simp_all
  · obtain ⟨waiting, hdr, resp, rfl, uuid, success, named⟩ := Link.step_registered before after
    refine .inr ⟨hdr, resp, rfl, ?_, named⟩
    obtain ⟨_, addr, _⟩ := resp
    dsimp only at uuid success named
    subst uuid success
    simp [Link.step, Link.onResponse, named, waiting]

/-- A client that looks for a network joins on a beacon that permits attachment. -/
theorem Link.step_joins (seeking : link.seeking) (hdr : Header) :
    link.step (.beacon hdr true) = link.join hdr.netId := by
  rcases seeking with state | state <;> simp [Link.step, Link.onBeacon, state]

theorem Link.join_not_seeking (netId : BitVec 8) : ¬ (link.join netId).seeking := by
  simp [Link.seeking, Link.join]

/-- **A network is taken on** only from a beacon that permits attachment. -/
theorem Link.step_binds (before : link.seeking) (after : ¬ (link.step signal).seeking) :
    ∃ hdr, signal = .beacon hdr true ∧ (link.step signal).netId = hdr.netId := by
  cases signal with
  | nothing => exact absurd before after
  | beacon hdr permit =>
      cases permit with
      | true =>
          refine ⟨hdr, rfl, ?_⟩
          rw [Link.step_joins before hdr]
          rfl
      | false =>
          refine absurd ?_ after
          rcases before with state | state <;> simp [Link.step, Link.onBeacon, state, Link.seeking]
  | response hdr resp =>
      refine absurd ?_ after
      have idle : link.state ≠ .registering := by
        rcases before with state | state <;> simp [state]
      simp only [Link.step, Link.onResponse, if_neg idle]
      split_ifs
      · exact before
      · exact .inl rfl
      · exact .inl rfl
      · exact before
  | tick lost =>
      refine absurd ?_ after
      simp only [Link.step, Link.tick, Link.expire]
      split_ifs <;> simp_all [Link.request, Link.seeking]

/-- **The network is kept** until the link lets go of it: an address comes from the same network as
the response that carries it. -/
theorem Link.step_netId (before : ¬ link.seeking) (after : ¬ (link.step signal).seeking)
    (own : ∀ hdr resp, signal = .response hdr resp → hdr.netId = link.netId) :
    (link.step signal).netId = link.netId := by
  rw [Link.not_seeking_iff] at before
  cases signal with
  | nothing => rfl
  | beacon hdr permit => rcases before with state | state <;> simp [Link.step, Link.onBeacon, state]
  | response hdr resp =>
      have network := own hdr resp rfl
      simp only [Link.step, Link.onResponse, Link.seeking] at after ⊢
      split_ifs at after ⊢ <;> simp_all
  | tick lost =>
      simp only [Link.step, Link.tick, Link.expire, Link.seeking] at after ⊢
      split_ifs at after ⊢ <;> simp_all

end Link

/-! ### The coordinator record -/

/-- What a frame makes of the coordinator record of a client that has a network. -/
inductive Attended (node : Node) : Node → Prop where
  | kept : Attended node node
  | heard (now : BitVec 32) (rssi : Int) : Attended node (node.heard now rssi)
  | acked (now : BitVec 32) (rssi : Int) (waiting : node.state = .waitAck) :
      Attended node ((((node.heard now rssi).setState .registered).cancelAck).cancelValidity)

/-- The frame is a beacon on which a client that looks for a network joins. -/
def Ctx.joinsOn (ctx : Ctx) (buf : Memory) (size : Nat) : Prop :=
  ctx.link.seeking ∧ ∃ hdr, frameSignal buf size = .beacon hdr true

/-- The request timer ends the wait of the client in this tick. -/
def Ctx.abandons (ctx : Ctx) : Prop :=
  let link := if ctx.state = .unregistered then ctx.link.request else ctx.link
  ctx.losesCoordinator = false ∧ link.timer.due link.now = true ∧ link.waiting

instance (ctx : Ctx) : Decidable ctx.abandons := inferInstanceAs (Decidable (_ ∧ _ ∧ _))

section Coord

variable {σ : Mac} (client : Client σ.ctx)

include client

/-- A join writes the record, and the request that follows leaves it. -/
theorem join_coord (hdr : Header) (uuid : BitVec 64) :
    (σ.join hdr uuid).ctx.coord = (σ.ctx.bind hdr uuid).coord := by
  have upstream : (σ.ctx.bind hdr uuid).coord.Upstream :=
    ⟨rfl, nofun, client.coord.validity, client.coord.pending⟩
  rw [Mac.join, update_ctx, Ctx.armRequest_coord]
  rcases txPacket_coord (σ.update fun ctx => ctx.bind hdr uuid)
    PacketType.registrationRequest.code _ 0#16 none with same | accepted
  · exact same
  · exact accepted.trans (upstream.accept_plain _ (by decide) _ _ _ _ _)

/-- A control packet for the coordinator leaves the record alone. -/
theorem control_coord (type : BitVec 8) (plain : ackRequested type = false) (buf : List Byte) :
    (tinymacTxPacket σ (some .coord) type buf 0#16 none).2.ctx.coord = σ.ctx.coord := by
  rcases txPacket_coord σ type buf 0#16 none with same | accepted
  · exact same
  · rw [accepted, client.coord.accept_plain _ plain]

theorem rxBeacon_coord (buf : Memory) (size : Nat) :
    let τ := tinymacRxBeacon σ (readHeader buf) buf size
    (σ.ctx.link.seeking ∧ permits buf = true) ∧
        τ.ctx.coord = (σ.ctx.bind (readHeader buf) (readUuid buf)).coord ∨
      ¬ (σ.ctx.link.seeking ∧ permits buf = true) ∧ τ.ctx.coord = σ.ctx.coord := by
  intro τ
  have shape : τ = _ := rxBeacon_eq σ client.role (readHeader buf) buf size
  have cancelled : Client (σ.update Ctx.cancelRequest).ctx := ⟨client.link.cancel, client.coord⟩
  have seeking : σ.ctx.link.seeking ↔ σ.ctx.state = .unregistered ∨ σ.ctx.state = .beaconRequest :=
    Iff.rfl
  rw [shape, seeking]
  cases σ.ctx.state with
  | unregistered =>
      cases permits buf with
      | true => exact .inl ⟨⟨.inl rfl, rfl⟩, join_coord client _ _⟩
      | false => exact .inr ⟨nofun, rfl⟩
  | beaconRequest =>
      cases permits buf with
      | true => exact .inl ⟨⟨.inr rfl, rfl⟩, join_coord cancelled _ _⟩
      | false => exact .inr ⟨nofun, rfl⟩
  | registering => exact .inr ⟨nofun, rfl⟩
  | registered =>
      refine .inr ⟨nofun, ?_⟩
      dsimp only
      split
      · exact control_coord client _ (by decide) _
      · rfl

/-- The end of the receive handler: the record is bound by a join, and freed by the acknowledgement
it waits for. -/
theorem recvType_coord (node : Option NodePtr) (known : node = none ∨ node = some .coord)
    (buf : Memory) (size : Nat) :
    let τ := tinymacRecvType σ node (readHeader buf) buf size
    σ.ctx.joinsOn buf size ∧ τ.ctx.coord = (σ.ctx.bind (readHeader buf) (readUuid buf)).coord ∨
      ¬ σ.ctx.joinsOn buf size ∧ (τ.ctx.coord = σ.ctx.coord ∨
        node = some .coord ∧ σ.ctx.coord.state = .waitAck ∧
          τ.ctx.coord = ((σ.ctx.coord.setState .registered).cancelAck).cancelValidity) := by
  intro τ
  have other (signal : Signal) (is : frameSignal buf size = signal)
      (no : ∀ hdr, signal ≠ .beacon hdr true) : ¬ σ.ctx.joinsOn buf size :=
    fun ⟨_, hdr, joins⟩ => no hdr (is.symm.trans joins)
  have ignored (is : frameSignal buf size = .nothing) : ¬ σ.ctx.joinsOn buf size :=
    other .nothing is nofun
  cases type : PacketType.ofCode (readHeader buf).type with
  | none =>
      refine .inr ⟨ignored (by simp [frameSignal, type]), .inl ?_⟩
      simp only [τ, tinymacRecvType, type]
      split_ifs <;> rfl
  | some type' =>
      have control : τ = tinymacRecvControl σ type' node (readHeader buf) buf size :=
        recvType_control σ node _ buf size type' (PacketType.ofCode_eq_some.mp type)
      cases type' with
      | beacon =>
          by_cases short : size < headerSize + beaconSize
          · refine .inr ⟨ignored (by simp [frameSignal, type, short]), .inl ?_⟩
            simp [control, tinymacRecvControl, short]
          · have signal : frameSignal buf size = .beacon (readHeader buf) (permits buf) := by
              simp [frameSignal, type, short]
            have joins : σ.ctx.joinsOn buf size ↔ σ.ctx.link.seeking ∧ permits buf = true := by
              simp [Ctx.joinsOn, signal]
            have beacon : τ = tinymacRxBeacon σ (readHeader buf) buf size := by
              simp [control, tinymacRecvControl, short]
            rw [joins, beacon]
            exact (rxBeacon_coord client buf size).imp_right fun kept => ⟨kept.1, .inl kept.2⟩
      | ack =>
          refine .inr ⟨ignored (by simp [frameSignal, type]), ?_⟩
          rcases known with rfl | rfl
          · exact .inl (by rw [control]; rfl)
          · rw [control]
            simp only [tinymacRecvControl, tinymacRxAck]
            split
            · next waiting => exact .inr ⟨trivial, waiting.1, by rw [invokeSendCb_ctx]; rfl⟩
            · exact .inl rfl
      | poll =>
          refine .inr ⟨ignored (by simp [frameSignal, type]), .inl ?_⟩
          rw [control]
          rfl
      | beaconRequest =>
          refine .inr ⟨ignored (by simp [frameSignal, type]), .inl ?_⟩
          rw [control, tinymacRecvControl, txBeacon_client σ false client.role]
      | registrationRequest =>
          refine .inr ⟨ignored (by simp [frameSignal, type]), .inl ?_⟩
          simp [control, tinymacRecvControl, tinymacRxRegistrationRequest, client.role]
      | deregistrationRequest =>
          refine .inr ⟨ignored (by simp [frameSignal, type]), .inl ?_⟩
          simp [control, tinymacRecvControl, tinymacRxDeregistrationRequest, client.role]
      | registrationResponse =>
          refine .inr ⟨other (frameSignal buf size) rfl ?_, .inl ?_⟩
          · intro hdr
            simp only [frameSignal, type]
            split <;> simp
          · rw [control]
            simp only [tinymacRecvControl, tinymacRxRegistrationResponse]
            split_ifs <;> rfl

/-- **The record behind a frame**, for a client that looks for a network: it is bound if the client
joins on the frame, and otherwise left alone. -/
theorem recv_coord_seeking (seeking : σ.ctx.link.seeking) (buf : Memory) (size : Nat) (rssi : Int) :
    let τ := tinymacRecvCb σ buf size rssi
    τ.ctx.coord = σ.ctx.coord ∧ τ.ctx.link.seeking ∨
      τ.ctx.coord = (σ.ctx.bind (readHeader buf) (readUuid buf)).coord ∧ ¬ τ.ctx.link.seeking := by
  intro τ
  have unaddressed := client.unaddressed fun registered => by
    rcases seeking with state | state <;> simp [registered] at state
  cases accepted : σ.ctx.accepts (readHeader buf) size
  · have dropped : τ = σ := by simp [τ, tinymacRecvCb, accepted]
    exact .inl ⟨by rw [dropped], by rw [dropped]; exact seeking⟩
  · have standby : Client (tinymacRecvStandby σ (readHeader buf)).ctx := by rwa [recvStandby_ctx]
    have shape : τ = _ := recv_unaddressed unaddressed accepted rssi
    have record := recvType_coord standby none (.inl rfl) buf size
    have link := recvType_link _ standby.role none buf size
    rw [← shape, recvStandby_ctx] at record link
    rcases record with ⟨⟨-, hdr, joins⟩, bound⟩ | ⟨no, same | ⟨known, -⟩⟩
    · refine .inr ⟨bound, ?_⟩
      rw [link, joins, Link.step_joins seeking]
      exact Link.join_not_seeking hdr.netId
    · refine .inl ⟨same, ?_⟩
      by_contra left
      rw [link] at left
      obtain ⟨hdr, joins, -⟩ := Link.step_binds seeking left
      exact no ⟨seeking, hdr, joins⟩
    · cases known

/-- **The record behind a frame**, for a client that has a network. -/
theorem recv_coord_attached (bound : ¬ σ.ctx.link.seeking) (buf : Memory) (size : Nat)
    (rssi : Int) : Attended σ.ctx.coord (tinymacRecvCb σ buf size rssi).ctx.coord := by
  have stays {ctx : Ctx} (link : ctx.link = σ.ctx.link) : ¬ ctx.joinsOn buf size := by
    rintro ⟨seeking, -⟩
    rw [link] at seeking
    exact bound seeking
  cases attends : σ.ctx.attends (readHeader buf) size
  · rcases recv_ignored client attends rssi with same | standby
    · rw [same]
      exact .kept
    · rw [standby, recvStandby_ctx]
      exact .kept
  · by_cases unaddressed : σ.ctx.addr = addrUnassigned
    · have standby : Client (tinymacRecvStandby σ (readHeader buf)).ctx := by rwa [recvStandby_ctx]
      have accepted : σ.ctx.accepts (readHeader buf) size = true := by
        rw [Ctx.attends, Bool.and_eq_true] at attends
        exact attends.1
      rw [recv_unaddressed unaddressed accepted rssi]
      have record := recvType_coord standby none (.inl rfl) buf size
      rw [recvStandby_ctx] at record
      rcases record with ⟨joins, -⟩ | ⟨-, same | ⟨known, -⟩⟩
      · exact absurd joins (stays rfl)
      · rw [same]
        exact .kept
      · cases known
    · have ctx := heard_ctx client (readHeader buf) rssi
      rw [recv_attended client unaddressed attends rssi]
      have record := recvType_coord (client.heard_coord rssi ctx) (some .coord) (.inr rfl) buf size
      rw [ctx, modify_coord_coord] at record
      rcases record with ⟨joins, -⟩ | ⟨-, same | ⟨-, waiting, acked⟩⟩
      · exact absurd joins (stays (modify_link _ _ _))
      · rw [same]
        exact .heard _ rssi
      · rw [acked]
        exact .acked _ rssi waiting

omit client in
/-- The request timer: a wait that ends gives the coordinator up. -/
theorem despatchRequest_record : (tinymacDespatchTimer σ .request).ctx.coord =
    if σ.ctx.link.timer.due σ.ctx.link.now = true ∧ σ.ctx.link.waiting then
      σ.ctx.coord.setState .unregistered
    else σ.ctx.coord := by
  unfold tinymacDespatchTimer Mac.timerDue Mac.timerCallback Mac.clearTimer tinymacRequestTimeout
  simp only [Ctx.link_timer, Ctx.link_now, Link.waiting, Ctx.link_state, update_ctx,
    Ctx.cancelRequest_state]
  split_ifs <;> simp_all [deregister_coord_ctx]

/-- **The record behind a tick.** -/
theorem tick_coord : (σ.step .tick).ctx.coord =
    if σ.ctx.abandons then (σ.ctx.coord.despatchAck σ.ctx.tickCount).setState .unregistered
    else σ.ctx.coord.despatchAck σ.ctx.tickCount := by
  let τ := tinymacDespatchTimer (tinymacDespatchTimer σ.solicit (.ack .coord)) (.validity .coord)
  have upstream := client.coord.despatchAck σ.ctx.tickCount
  have record : τ.ctx.coord = σ.ctx.coord.despatchAck σ.ctx.tickCount := by
    rw [despatchValidity_coord, despatchAck_coord, (solicit_coord σ).1, (solicit_coord σ).2,
      upstream.despatchValidity]
  have link : τ.ctx.link = if σ.ctx.losesCoordinator then σ.solicit.ctx.link.detach
      else σ.solicit.ctx.link := by
    rw [despatchValidity_coord_link, despatchAck_coord_link, solicit_losesCoordinator]
  -- a client that has just lost its coordinator waits for nothing
  have ends : (τ.ctx.link.timer.due τ.ctx.link.now = true ∧ τ.ctx.link.waiting) ↔
      σ.ctx.abandons := by
    rw [link, solicit_link]
    cases lost : σ.ctx.losesCoordinator
    · simp [Ctx.abandons, lost]
    · simp [Ctx.abandons, lost, Link.waiting]
  show (tinymacTickHandler σ).ctx.coord = _
  rw [tick_client σ client.role, update_ctx, Ctx.nextTick_coord, despatchRequest_record, record]
  exact if_congr ends rfl rfl

/-- **The record behind a call of `tinymac_send`.** -/
theorem send_coord (dest type : BitVec 8) (buf : List Byte) (validity : BitVec 16)
    (cb : Option SendCb) :
    let τ := (tinymacSend σ dest type buf validity cb).2
    τ.ctx.coord = σ.ctx.coord ∨
      tinymacGetNodeByAddr σ.ctx dest = some .coord ∧
        typeRawData ≤ type &&& flagsTypeMask.setWidth 8 ∧ ∃ validity', τ.ctx.coord =
        σ.ctx.coord.accept σ.ctx.tickCount type validity' (σ.built + 1)
          (σ.ctx.buildHeader (some .coord) type) buf cb := by
  intro τ
  rcases client.send_cases dest type buf validity cb with same | ⟨data, found, validity', is⟩
  · exact .inl (by simp only [τ, same])
  · rcases txPacket_coord σ type buf validity' cb with kept | accepted
    · exact .inl (by simp only [τ, is, kept])
    · exact .inr ⟨found, data, validity', by simp only [τ, is, accepted]⟩

end Coord

/-! ### The invariant -/

/-- A packet leaves the record of its destination live. -/
theorem Attended.live {node after : Node} (attended : Attended node after)
    (live : node.live = true) : after.live = true := by
  cases attended with
  | kept => exact live
  | heard now rssi => exact live
  | acked now rssi waiting => rfl

/-- An ack timer that still has a retry leaves an upstream record live. -/
theorem Node.Upstream.despatchAck_live {node : Node} (upstream : node.Upstream)
    (live : node.live = true) {now : BitVec 32}
    (kept : ¬ (node.ackTimer.due now = true ∧ node.retries = 0#8)) :
    (node.despatchAck now).live = true := by
  unfold Node.despatchAck Node.ackExpire
  rw [upstream.awake]
  simp only [Bool.false_eq_true, if_false]
  split_ifs with due left
  · exact live
  · exact absurd ⟨due, of_not_not left⟩ kept
  · exact live

/-- What the input is that a client takes for a registration response. -/
theorem signal_response {ctx : Ctx} {input : Input} {hdr : Header} {resp : RegistrationResponse}
    (is : ctx.signal input = .response hdr resp) :
    ∃ buf size rssi, input = .recv buf size rssi ∧ ctx.attends (readHeader buf) size = true ∧
      (readHeader buf).type = PacketType.registrationResponse.code ∧
      headerSize + registrationResponseSize ≤ size ∧ hdr = readHeader buf ∧
      resp = readRegistrationResponse buf := by
  cases input with
  | recv buf size rssi =>
      simp only [Ctx.signal, frameSignal] at is
      by_cases attends : ctx.attends (readHeader buf) size = true
      · rw [if_pos attends] at is
        split at is
        · split at is <;> cases is
        · next type =>
          split at is
          · cases is
          · next long =>
            cases is
            exact ⟨buf, size, rssi, rfl, attends, PacketType.ofCode_eq_some.mp type,
              not_lt.mp long, rfl, rfl⟩
        · cases is
      · rw [if_neg attends] at is
        cases is
  | _ => cases is

/-- A client that is Registered after a step was so before, with the same address, or has just
received its address. -/
theorem Client.step_address {σ : Mac} (client : Client σ.ctx) {input : Input}
    (after : (σ.step input).ctx.state = .registered) :
    (σ.ctx.state = .registered ∧ (σ.step input).ctx.addr = σ.ctx.addr) ∨
      ∃ buf size rssi, input = .recv buf size rssi ∧
        (readHeader buf).type = PacketType.registrationResponse.code ∧
        readRegistrationResponse buf =
          ⟨σ.ctx.params.uuid, (σ.step input).ctx.addr, RegistrationStatus.success.code⟩ ∧
        (σ.step input).ctx.addr ≠ addrUnassigned := by
  have moved := step_link σ client.role input
  have state : (σ.ctx.link.step (σ.ctx.signal input)).state = .registered := by
    rw [← moved]
    exact after
  have addr : (σ.step input).ctx.addr = (σ.ctx.link.step (σ.ctx.signal input)).addr := by
    rw [← moved]
    rfl
  rw [addr]
  rcases Link.step_address state with kept | ⟨hdr, resp, heard, given, named⟩
  · exact .inl kept
  · obtain ⟨buf, size, rssi, is, -, type, -, -, rfl⟩ := signal_response heard
    refine .inr ⟨buf, size, rssi, is, type, given, ?_⟩
    rw [given] at named
    exact named

/-- What the input is that a client takes for a beacon. -/
theorem signal_beacon {ctx : Ctx} {input : Input} {hdr : Header} {permit : Bool}
    (is : ctx.signal input = .beacon hdr permit) :
    ∃ buf size rssi, input = .recv buf size rssi ∧ ctx.attends (readHeader buf) size = true ∧
      (readHeader buf).type = PacketType.beacon.code ∧ headerSize + beaconSize ≤ size ∧
      hdr = readHeader buf ∧ permit = permits buf := by
  cases input with
  | recv buf size rssi =>
      simp only [Ctx.signal, frameSignal] at is
      by_cases attends : ctx.attends (readHeader buf) size = true
      · rw [if_pos attends] at is
        split at is
        · next type =>
          split at is
          · cases is
          · next long =>
            cases is
            exact ⟨buf, size, rssi, rfl, attends, PacketType.ofCode_eq_some.mp type,
              not_lt.mp long, rfl, rfl⟩
        · split at is <;> cases is
        · cases is
      · rw [if_neg attends] at is
        cases is
  | _ => cases is

theorem signal_tick {ctx : Ctx} {input : Input} {lost : Bool} (is : ctx.signal input = .tick lost) :
    input = .tick := by
  cases input with
  | recv buf size rssi =>
      simp only [Ctx.signal, frameSignal] at is
      split at is
      · split at is
        · split at is <;> cases is
        · split at is <;> cases is
        · cases is
      · cases is
  | tick => rfl
  | _ => cases is

/-- In a network, the wait that a tick can end is the one for a registration. -/
theorem abandons_iff {ctx : Ctx} (bound : ¬ ctx.link.seeking) :
    ctx.abandons ↔ ctx.losesCoordinator = false ∧ ctx.timer.due ctx.tickCount = true ∧
      ctx.state = .registering := by
  have unregistered : ctx.state ≠ .unregistered := fun state => bound (.inl state)
  have beaconRequest : ctx.state ≠ .beaconRequest := fun state => bound (.inr state)
  simp [Ctx.abandons, Link.waiting, unregistered, beaconRequest]

/-- In a network, the coordinator record is live. -/
def Ctx.Bound (ctx : Ctx) : Prop := ¬ ctx.link.seeking → ctx.coord.live = true

section Bound

variable {σ : Mac} (client : Client σ.ctx)

include client

/-- The states in which a tick ends the association. -/
theorem tick_seeking (bound : ¬ σ.ctx.link.seeking) :
    (σ.step .tick).ctx.link.seeking ↔ σ.ctx.losesCoordinator = true ∨ σ.ctx.abandons := by
  have state : σ.ctx.state ≠ .unregistered := fun unregistered => bound (.inl unregistered)
  rw [step_link σ client.role]
  show (σ.ctx.link.tick σ.ctx.losesCoordinator).seeking ↔ _
  rw [Link.not_seeking_iff] at bound
  unfold Link.tick Link.expire Ctx.abandons
  rw [Ctx.link_state, if_neg state]
  cases lost : σ.ctx.losesCoordinator
  · simp only [Bool.false_eq_true, if_false, false_or, true_and]
    split_ifs with due waiting
    · exact iff_of_true (.inl rfl) ⟨due, waiting⟩
    · rcases bound with state | state <;> simp_all [Link.seeking, Link.waiting]
    · rcases bound with state | state <;> simp_all [Link.seeking]
  · simp only [if_true, true_or, iff_true]
    split_ifs <;> simp [Link.seeking]

theorem Ctx.Bound.step (bound : σ.ctx.Bound) (input : Input) : (σ.step input).ctx.Bound := by
  intro associated
  cases input with
  | recv buf size rssi =>
      by_cases seeking : σ.ctx.link.seeking
      · rcases recv_coord_seeking client seeking buf size rssi with ⟨-, still⟩ | ⟨joined, -⟩
        · exact absurd still associated
        · show (tinymacRecvCb σ buf size rssi).ctx.coord.live = true
          rw [joined]
          rfl
      · exact (recv_coord_attached client seeking buf size rssi).live (bound seeking)
  | tick =>
      by_cases seeking : σ.ctx.link.seeking
      · rw [step_link σ client.role] at associated
        obtain ⟨hdr, is, -⟩ := Link.step_binds seeking associated
        cases is
      · rw [tick_seeking client seeking, not_or] at associated
        rw [tick_coord client, if_neg associated.2]
        refine client.coord.despatchAck_live (bound seeking) ?_
        simpa [Ctx.losesCoordinator] using associated.1
  | send dest type buf validity cb =>
      have link := step_link σ client.role (.send dest type buf validity cb)
      rw [link] at associated
      show (tinymacSend σ dest type buf validity cb).2.ctx.coord.live = true
      rcases send_coord client dest type buf validity cb with same | ⟨-, -, validity', accepted⟩
      · rw [same]
        exact bound associated
      · rw [accepted, (Node.accept_live ..).2]
        exact bound associated
  | permitAttach permit => exact bound associated
  | registerRecvCb cb => exact bound associated
  | registerRegCb cb => exact bound associated
  | registerDeregCb cb => exact bound associated

theorem Ctx.Bound.run (bound : σ.ctx.Bound) (inputs : List Input) : (σ.run inputs).ctx.Bound := by
  induction inputs generalizing σ with
  | nil => exact bound
  | cons input inputs ih => exact ih (client.step input) (bound.step client input)

omit client in
theorem reachable_bound (boot : Boot) (role : boot.params.coordinator = false)
    (inputs : List Input) : (boot.start.run inputs).ctx.Bound :=
  Ctx.Bound.run (start_client boot role)
    (fun associated => absurd (.inl (by simp [role])) associated) inputs

/-- A client in a network accepts only the frames of that network. -/
theorem accepts_network (bound : ¬ σ.ctx.link.seeking) {hdr : Header} {size : Nat}
    (accepted : σ.ctx.accepts hdr size = true) : hdr.netId = σ.ctx.netId := by
  have named : σ.ctx.netId ≠ networkAny := fun any => bound (client.seeking_iff.mpr any)
  have network := (accepts_client client.role accepted).1
  have addressed : σ.ctx.addressed hdr = true := by
    simp only [Ctx.accepts, Bool.and_eq_true] at accepted
    exact accepted.1.2
  simp only [Ctx.addressed, Bool.or_eq_true, Bool.and_eq_true, beq_iff_eq] at addressed
  tauto

/-- **The network is kept** by every step that keeps the association. -/
theorem step_netId (bound : ¬ σ.ctx.link.seeking) (input : Input)
    (still : ¬ (σ.step input).ctx.link.seeking) :
    (σ.step input).ctx.netId = σ.ctx.netId := by
  have link := step_link σ client.role input
  rw [link] at still
  have kept := Link.step_netId bound still fun hdr resp is => by
    obtain ⟨buf, size, rssi, rfl, attends, -, -, rfl, -⟩ := signal_response is
    rw [Ctx.attends, Bool.and_eq_true] at attends
    exact accepts_network client bound attends.1
  rw [← link] at kept
  exact kept

/-- **The network is kept** along every run that keeps the association. -/
theorem run_netId (later : List Input)
    (kept : ∀ before, before <+: later → ¬ (σ.run before).ctx.link.seeking) :
    (σ.run later).ctx.netId = σ.ctx.netId := by
  induction later generalizing σ with
  | nil => rfl
  | cons input later ih =>
      have here := kept [] List.nil_prefix
      have next := kept [input] (List.prefix_append [input] later)
      refine (ih (client.step input) fun before front => ?_).trans
        (step_netId client here input next)
      exact kept (input :: before) ((List.prefix_cons_inj input).mpr front)

end Bound

/-- **The association invariant of a client**, in every reachable state: the address and the
network go with the state, the coordinator record is live in a network, Registered is entered only
from Registering by a response to this client with an address, a network is taken from the beacon
that starts a registration, and it stays the same for as long as the client keeps it. -/
theorem client_association (boot : Boot) (role : boot.params.coordinator = false)
    (inputs : List Input) :
    let σ := boot.start.run inputs
    (σ.ctx.addr ≠ addrUnassigned ↔ σ.ctx.state = .registered) ∧
      (σ.ctx.netId = networkAny ↔ σ.ctx.state = .unregistered ∨ σ.ctx.state = .beaconRequest) ∧
      (σ.ctx.state = .registering ∨ σ.ctx.state = .registered → σ.ctx.coord.state ≠ .unregistered) ∧
      (∀ input, σ.ctx.state ≠ .registered → (σ.step input).ctx.state = .registered →
        σ.ctx.state = .registering ∧ ∃ buf size rssi, input = .recv buf size rssi ∧
          (readHeader buf).type = PacketType.registrationResponse.code ∧
          headerSize + registrationResponseSize ≤ size ∧
          (readRegistrationResponse buf).uuid = σ.ctx.params.uuid ∧
          (readRegistrationResponse buf).status = RegistrationStatus.success.code ∧
          (readRegistrationResponse buf).addr ≠ addrUnassigned) ∧
      (∀ input, σ.ctx.state = .unregistered ∨ σ.ctx.state = .beaconRequest →
        (σ.step input).ctx.state = .registering →
        ∃ buf size rssi, input = .recv buf size rssi ∧
          (readHeader buf).type = PacketType.beacon.code ∧
          (σ.step input).ctx.netId = (readHeader buf).netId) ∧
      (∀ later, (∀ before, before <+: later →
          (σ.run before).ctx.state = .registering ∨ (σ.run before).ctx.state = .registered) →
        (σ.run later).ctx.netId = σ.ctx.netId) := by
  intro σ
  have client : Client σ.ctx := reachable_client boot role inputs
  have bound : σ.ctx.Bound := reachable_bound boot role inputs
  refine ⟨client.link.addr.not_left, client.link.net, fun associated => ?_,
    fun input before after => ?_,
    fun input before after => ?_, fun later kept => ?_⟩
  · exact (Node.live_iff _).mp (bound (Link.not_seeking_iff.mpr associated))
  · have moved := congrArg Link.state (step_link σ client.role input)
    obtain ⟨registering, hdr, resp, is, uuid, status, addr⟩ :=
      Link.step_registered before (moved.symm.trans after)
    obtain ⟨buf, size, rssi, rfl, -, type, long, -, rfl⟩ := signal_response is
    exact ⟨registering, buf, size, rssi, rfl, type, long, uuid, status, addr⟩
  · have moved := step_link σ client.role input
    have joined : ¬ (σ.ctx.link.step (σ.ctx.signal input)).seeking := by
      rw [← moved, Link.not_seeking_iff]
      exact .inl after
    have seeking : σ.ctx.link.seeking := before
    obtain ⟨hdr, is, netId⟩ := Link.step_binds seeking joined
    obtain ⟨buf, size, rssi, rfl, -, type, -, rfl, -⟩ := signal_beacon is
    exact ⟨buf, size, rssi, rfl, type, (congrArg Link.netId moved).trans netId⟩
  · exact run_netId client later fun before isPrefix =>
      Link.not_seeking_iff.mpr (kept before isPrefix)

/-- A client that finds a beacon and is given the address 5. -/
theorem client_association_joins :
    let σ := (Boot.clientWith 7#64 0#16).start.run
      [.tick, .frame (beaconFrame 0x2A#8 3#8 beaconFlagsPermitAttach 0xC0#64) 0,
        .frame (registrationResponseFrame 0x2A#8 4#8
          ⟨7#64, 5#8, RegistrationStatus.success.code⟩) 0]
    σ.ctx.state = .registered ∧ σ.ctx.addr = 5#8 ∧ σ.ctx.netId = 0x2A#8 ∧
      σ.ctx.coord.state ≠ .unregistered := by
  intro σ
  have registered : σ.ctx.state = .registered := by decide +kernel
  exact ⟨registered, by decide +kernel, by decide +kernel,
    (client_association (Boot.clientWith 7#64 0#16) rfl _).2.2.1 (.inr registered)⟩

end TinyHan.Tinymac
