/-
**What a registered client does with the frames of its coordinator.**

A registered client attends to frames from the address in its coordinator record. Nothing is ever
deferred to a coordinator, so hearing it comes down to an acknowledgement, if one was asked for
(`heard_frames`); then data goes to the application and control frames to their handlers.

* `deliveries` — what a log handed to the application, in order;
* `recv_data` — a data frame is delivered once, and acknowledged if it asks for it;
* `recv_ack` — an acknowledgement delivers nothing and sends nothing;
* `calls_in` — a step in which a registered client sends a frame of its own leaves it registered
  and delivers nothing.
-/

import TinyHan.Client.Ops

namespace TinyHan.Tinymac

open TinyHan.Lib

/-- What an event hands to the application: the type and the payload of a frame. -/
def Event.delivery : Event → Option (BitVec 8 × List Byte)
  | .rxCb _ type payload => some (type, payload)
  | _ => none

/-- What a log handed to the application, in order. -/
def deliveries (out : List Event) : List (BitVec 8 × List Byte) := out.filterMap Event.delivery

/-- A client that is registered at an address of a network, with its coordinator live at address
zero and a receive callback. -/
structure Attached (client : Mac) (netId addr : BitVec 8) : Prop where
  isClient : Client client.ctx
  state : client.ctx.state = .registered
  netId : client.ctx.netId = netId
  addr : client.ctx.addr = addr
  live : client.ctx.coord.live = true
  coord : client.ctx.coord.addr = 0#8
  rxCb : client.ctx.rxCb = true

namespace Attached

variable {client : Mac} {netId addr : BitVec 8}

theorem network (attached : Attached client netId addr) : netId ≠ networkAny :=
  attached.netId ▸ attached.isClient.networked attached.state

theorem assigned (attached : Attached client netId addr) : client.ctx.addr ≠ addrUnassigned :=
  attached.isClient.assigned attached.state

/-- Everything `Attached` asks for is in the link, the coordinator record and the callback. -/
theorem of_same (attached : Attached client netId addr) {after : Mac}
    (isClient : Client after.ctx) (state : after.ctx.state = client.ctx.state)
    (sameNetId : after.ctx.netId = client.ctx.netId) (sameAddr : after.ctx.addr = client.ctx.addr)
    (live : after.ctx.coord.live = true) (coord : after.ctx.coord.addr = client.ctx.coord.addr)
    (rxCb : after.ctx.rxCb = client.ctx.rxCb) : Attached after netId addr :=
  ⟨isClient, state.trans attached.state, sameNetId.trans attached.netId,
    sameAddr.trans attached.addr, live, coord.trans attached.coord, rxCb.trans attached.rxCb⟩

/-- The link of a client that stays attached may only change in its timer and clock. -/
theorem of_link (attached : Attached client netId addr) {after : Mac}
    (isClient : Client after.ctx) (link : after.ctx.link = client.ctx.link)
    (live : after.ctx.coord.live = true) (coord : after.ctx.coord.addr = client.ctx.coord.addr)
    (rxCb : after.ctx.rxCb = client.ctx.rxCb) : Attached after netId addr :=
  attached.of_same isClient (congrArg Link.state link) (congrArg Link.netId link)
    (congrArg Link.addr link) live coord rxCb

end Attached

/-! ### Hearing the coordinator -/

theorem delivery_standby (event : Event) (standby : event.standby) : event.delivery = none := by
  cases event <;> first | exact standby.elim | rfl

/-- A frame that a client with an address attends to. -/
theorem recv_attended {σ : Mac} (client : Client σ.ctx) (assigned : σ.ctx.addr ≠ addrUnassigned)
    {buf : Memory} {size : Nat} (attends : σ.ctx.attends (readHeader buf) size = true)
    (rssi : Int) :
    tinymacRecvCb σ buf size rssi =
      tinymacRecvType (tinymacRecvKnown (tinymacRecvStandby σ (readHeader buf)) .coord
        (readHeader buf) rssi) (some .coord) (readHeader buf) buf size := by
  rw [Ctx.attends, Bool.and_eq_true, Bool.or_eq_true, beq_iff_eq] at attends
  obtain ⟨accepted, known⟩ := attends
  obtain ⟨ptr, found⟩ := Option.isSome_iff_exists.mp (known.resolve_left assigned)
  obtain ⟨rfl, -⟩ := getNodeByAddr_client client.role found
  have sender := (accepts_client client.role accepted).2
  unfold tinymacRecvCb
  dsimp only
  rw [if_pos accepted, recvStandby_ctx, if_pos ⟨assigned, sender⟩, found]

/-- A Registered client attends to what its coordinator sends to it or to every node, unless it has
the address of the coordinator itself. -/
theorem Client.attends {σ : Mac} (client : Client σ.ctx) (registered : σ.ctx.state = .registered)
    (live : σ.ctx.coord.live = true) (coord : σ.ctx.coord.addr = 0#8) (other : σ.ctx.addr ≠ 0#8)
    {frame : Frame} (network : frame.hdr.netId = σ.ctx.netId) (source : frame.hdr.srcAddr = 0#8)
    (dest : frame.hdr.destAddr = σ.ctx.addr ∨ frame.hdr.destAddr = addrBroadcast) :
    σ.ctx.attends frame.hdr frame.bytes.length = true := by
  have found : tinymacGetNodeByAddr σ.ctx 0#8 = some .coord := by
    have live := (Node.live_iff _).mp live
    rw [tinymacGetNodeByAddr, if_neg (by simp [client.role]), if_pos ⟨live, coord⟩]
  have sender : ¬ 0#8 = addrUnassigned := by decide
  have addressed : σ.ctx.addressed frame.hdr = true := by
    rcases dest with own | broadcast
    · simp [Ctx.addressed, network, own]
    · simp [Ctx.addressed, network, broadcast]
  simp [Ctx.attends, Ctx.accepts, Ctx.admitted, addressed, source, found, other.symm, sender,
    network, client.networked registered]

/-- A frame that is not attended to changes at most the power state. -/
theorem recv_ignored {σ : Mac} (client : Client σ.ctx) {buf : Memory} {size : Nat}
    (ignored : σ.ctx.attends (readHeader buf) size = false) (rssi : Int) :
    tinymacRecvCb σ buf size rssi = σ ∨
      tinymacRecvCb σ buf size rssi = tinymacRecvStandby σ (readHeader buf) := by
  unfold tinymacRecvCb
  dsimp only
  split
  · next accepted =>
    have sender := (accepts_client client.role accepted).2
    have unknown : σ.ctx.addr ≠ addrUnassigned ∧
        tinymacGetNodeByAddr σ.ctx (readHeader buf).srcAddr = none := by
      simpa [Ctx.attends, accepted] using ignored
    rw [recvStandby_ctx, if_pos ⟨unknown.1, sender⟩, unknown.2]
    exact .inr (by simp [tinymacRecvUnknown, client.role])
  · exact .inl rfl

theorem recv_ignored_frames {σ : Mac} (client : Client σ.ctx) {buf : Memory} {size : Nat}
    (ignored : σ.ctx.attends (readHeader buf) size = false) (rssi : Int) :
    frames (tinymacRecvCb σ buf size rssi).out = frames σ.out := by
  rcases recv_ignored client ignored rssi with same | standby
  · rw [same]
  · rw [standby, recvStandby_frames]

section Heard

variable {σ : Mac} (client : Client σ.ctx) (hdr : Header) (rssi : Int)

include client

theorem heard_ctx :
    (tinymacRecvKnown (tinymacRecvStandby σ hdr) .coord hdr rssi).ctx =
      σ.ctx.modify .coord fun node => node.heard σ.ctx.tickCount rssi := by
  rw [recvKnown_ctx, recvStandby_ctx]
  exact modify_congr _ _ _ _ ((client.coord.heard _ rssi).release _)

theorem heard_frames :
    frames (tinymacRecvKnown (tinymacRecvStandby σ hdr) .coord hdr rssi).out =
      frames σ.out ++ σ.ctx.answer .coord hdr := by
  have none : σ.ctx.kept .coord = [] := if_neg client.coord.state
  rw [recvKnown_frames _ .coord coord_kept, recvStandby_frames, recvStandby_ctx, none,
    List.append_nil]

omit client in
theorem heard_deliveries :
    deliveries (tinymacRecvKnown (tinymacRecvStandby σ hdr) .coord hdr rssi).out =
      deliveries σ.out :=
  Emits.filterMap_eq ((recvStandby_emits σ hdr delivery_standby).trans
    (recvKnown_emits _ .coord coord_kept hdr rssi delivery_standby (fun _ => rfl) (fun _ => rfl)
      fun _ _ _ => rfl))

omit client in
/-- Noting the time of a frame keeps a client attached. -/
theorem Attached.heard {netId addr : BitVec 8} (attached : Attached σ netId addr) {after : Mac}
    (isClient : Client after.ctx)
    (ctx : after.ctx = σ.ctx.modify .coord fun node => node.heard σ.ctx.tickCount rssi) :
    Attached after netId addr := by
  refine attached.of_link isClient (by rw [ctx, modify_link]) ?_ (by rw [ctx]; rfl)
    (by rw [ctx]; rfl)
  rw [ctx]
  exact attached.live

/-- Noting the time of a frame keeps a client a client. -/
theorem Client.heard_coord {after : Mac}
    (ctx : after.ctx = σ.ctx.modify .coord fun node => node.heard σ.ctx.tickCount rssi) :
    Client after.ctx := by
  rw [ctx]
  refine ⟨?_, client.coord.heard _ rssi⟩
  rw [modify_link]
  exact client.link

omit client in
/-- An acknowledgement keeps a client attached: its coordinator record is live before and
after. -/
theorem Attached.acked {netId addr : BitVec 8} (attached : Attached σ netId addr) {after : Mac}
    (isClient : Client after.ctx) (is : after = tinymacRxAck σ (some .coord) hdr) :
    Attached after netId addr := by
  have record : after.ctx = σ.ctx ∨
      after.ctx = σ.ctx.modify .coord fun node =>
        ((node.setState .registered).cancelAck).cancelValidity := by
    rw [is]
    simp only [tinymacRxAck]
    split
    · exact .inr (invokeSendCb_ctx ..)
    · exact .inl rfl
  rcases record with same | acked
  · refine attached.of_link isClient (by rw [same]) ?_ (by rw [same]) (by rw [same])
    rw [same]
    exact attached.live
  · exact attached.of_link isClient (by rw [acked, modify_link]) (by rw [acked]; rfl)
      (by rw [acked]; rfl) (by rw [acked]; rfl)

/-- A data frame that a client with an address attends to goes to the application, after it was
acknowledged. -/
theorem recv_upcall (assigned : σ.ctx.addr ≠ addrUnassigned) {frame : Frame}
    (attends : σ.ctx.attends (readHeader frame.memory) frame.bytes.length = true)
    (data : typeRawData ≤ frame.hdr.type) (upcall : σ.ctx.rxCb = true) :
    σ.step (.frame frame rssi) =
      (tinymacRecvKnown (tinymacRecvStandby σ frame.hdr) .coord frame.hdr rssi).emit
        (.rxCb (some .coord) frame.hdr.type frame.payload) := by
  have rxCb : (tinymacRecvKnown (tinymacRecvStandby σ frame.hdr) .coord frame.hdr
      rssi).ctx.rxCb = true := by
    rw [heard_ctx client, modify_rxCb]
    exact upcall
  have payload : window frame.memory headerSize (frame.bytes.length - headerSize) =
      frame.payload := by
    rw [Frame.bytes_length, Nat.add_sub_cancel_left, window_frame_payload]
  show tinymacRecvCb σ frame.memory frame.bytes.length rssi = _
  rw [recv_attended client assigned attends, readHeader_frame, tinymacRecvType, if_pos data,
    if_pos rxCb, payload, Header.type_mask]

end Heard

/-! ### The frames of the coordinator -/

section Frames

variable {client : Mac} {netId addr : BitVec 8} (attached : Attached client netId addr)
  {frame : Frame} (network : frame.hdr.netId = netId) (dest : frame.hdr.destAddr = addr)
  (source : frame.hdr.srcAddr = 0#8) (rssi : Int)

include attached network dest source

/-- A client attends to what its coordinator sends to its address. -/
theorem Attached.attends (other : addr ≠ 0#8) :
    client.ctx.attends (readHeader frame.memory) frame.bytes.length = true := by
  rw [readHeader_frame]
  exact attached.isClient.attends attached.state attached.live attached.coord
    (attached.addr.symm ▸ other) (network.trans attached.netId.symm) source
    (.inl (dest.trans attached.addr.symm))

/-- **A data frame is delivered once**, with its type and exactly its payload, and acknowledged if
it asks for it. -/
theorem recv_data (other : addr ≠ 0#8) (data : typeRawData ≤ frame.hdr.type) :
    let after := client.step (.frame frame rssi)
    Attached after netId addr ∧
      deliveries after.out = deliveries client.out ++ [(frame.hdr.type, frame.payload)] ∧
      frames after.out = frames client.out ++ client.ctx.answer .coord frame.hdr := by
  intro after
  have attends := attached.attends network dest source other
  have shape : after = _ :=
    recv_upcall attached.isClient rssi attached.assigned attends data attached.rxCb
  refine ⟨attached.heard rssi (attached.isClient.step _) ?_, ?_, ?_⟩
  · rw [shape, emit_ctx, heard_ctx attached.isClient]
  · rw [shape, emit_out, deliveries, List.filterMap_append]
    exact congrArg (· ++ _) (heard_deliveries frame.hdr rssi)
  · rw [shape, emit_out, frames_append, heard_frames attached.isClient]
    simp [frames]

/-- **An acknowledgement** delivers nothing and sends nothing. -/
theorem recv_ack (other : addr ≠ 0#8) (ack : frame.hdr.type = PacketType.ack.code)
    (plain : frame.hdr.ackRequest = false) :
    let after := client.step (.frame frame rssi)
    Attached after netId addr ∧ deliveries after.out = deliveries client.out ∧
      frames after.out = frames client.out := by
  intro after
  have attends := attached.attends network dest source other
  have answer : client.ctx.answer .coord frame.hdr = [] := by simp [Ctx.answer, plain]
  have shape : after = tinymacRxAck (tinymacRecvKnown (tinymacRecvStandby client frame.hdr) .coord
      frame.hdr rssi) (some .coord) frame.hdr := by
    simp only [after, Mac.step, Input.frame]
    rw [recv_attended attached.isClient attached.assigned attends, readHeader_frame,
      recvType_control _ _ _ _ _ .ack ack]
    rfl
  -- the acknowledgement may complete a packet of the client's own
  have completes : Emits (fun event => ∃ packet cb result, event = .sendCb .coord packet cb result)
      (tinymacRecvKnown (tinymacRecvStandby client frame.hdr) .coord frame.hdr rssi) after := by
    rw [shape]
    exact rxAck_emits _ .coord coord_kept _ fun cb _ _ => ⟨_, cb, 0, rfl⟩
  have before : Attached (tinymacRecvKnown (tinymacRecvStandby client frame.hdr) .coord frame.hdr
      rssi) netId addr :=
    attached.heard rssi (attached.isClient.heard_coord rssi (heard_ctx attached.isClient _ rssi))
      (heard_ctx attached.isClient _ rssi)
  refine ⟨before.acked frame.hdr (attached.isClient.step _) shape, ?_, ?_⟩
  · refine (Emits.filterMap_eq (completes.mono ?_)).trans (heard_deliveries frame.hdr rssi)
    rintro event ⟨packet, cb, result, rfl⟩
    rfl
  · rw [completes.frames_eq (by rintro packet frame flags ⟨_, _, _, is⟩; cases is),
      heard_frames attached.isClient, answer, List.append_nil]

end Frames

/-! ### The frames of the client -/

/-- The ack timer of the coordinator record has a packet to send again. -/
def Ctx.retransmits (ctx : Ctx) : Bool :=
  ctx.coord.ackTimer.due ctx.tickCount && ctx.coord.retries != 0#8

theorem retransmits_armed {ctx : Ctx} (again : ctx.retransmits = true) :
    ctx.coord.ackTimer.armed = true := by
  rw [Ctx.retransmits, Bool.and_eq_true] at again
  exact armed_of_due again.1

theorem retransmits_keeps {ctx : Ctx} (again : ctx.retransmits = true) :
    ctx.losesCoordinator = false := by
  rw [Ctx.retransmits, Bool.and_eq_true, bne_iff_ne] at again
  simp [Ctx.losesCoordinator, again.2]

/-- The ack timer of the coordinator record puts the packet it holds on the air, as long as it has a
retry. -/
theorem despatchAck_coord_frames {σ : Mac} (awake : σ.ctx.coord.sleepy = false) :
    frames (tinymacDespatchTimer σ (.ack .coord)).out = frames σ.out ++
      if σ.ctx.retransmits then [⟨σ.ctx.coord.pendingHeader, σ.ctx.coord.pending⟩] else [] := by
  have awake : σ.ctx.coord.cancelAck.sleepy = false := awake
  have timer : σ.timerDue (.ack .coord) = σ.ctx.coord.ackTimer.due σ.ctx.tickCount := rfl
  rw [tinymacDespatchTimer, timer, Ctx.retransmits]
  split
  case isFalse notDue => simp [notDue]
  case isTrue due =>
    rw [due, Bool.true_and]
    simp only [Mac.timerCallback, Mac.clearTimer, tinymacAckTimeout, mac_node, mac_modify_ctx,
      node_coord, modify_coord_coord, mac_modify_modify, awake]
    split
    · next left =>
      have left : σ.ctx.coord.retries ≠ 0#8 := left
      rw [if_neg Bool.false_ne_true, phySend_frames, if_pos (bne_iff_ne.mpr left)]
      rfl
    · next none =>
      have none : σ.ctx.coord.retries = 0#8 := not_not.mp none
      have failed (τ : Mac) :
          Emits Event.offAir τ (tinymacDeregisterNode (τ.invokeSendCb .coord (-1)) .coord) :=
        (invokeSendCb_emits τ .coord (-1) fun _ _ => trivial).trans
          (deregister_emits _ .coord trivial)
      rw [(failed _).offAir_frames, none, if_neg (by decide), List.append_nil]
      rfl

/-- The request timer of a registered client concerns no record. -/
theorem despatchRequest_coord {σ : Mac} (registered : σ.ctx.state = .registered) :
    (tinymacDespatchTimer σ .request).ctx.coord = σ.ctx.coord := by
  unfold tinymacDespatchTimer
  split
  · simp [Mac.timerCallback, Mac.clearTimer, tinymacRequestTimeout, registered]
  · rfl

@[simp] theorem deregister_rxCb (σ : Mac) (ptr : NodePtr) :
    (tinymacDeregisterNode σ ptr).ctx.rxCb = σ.ctx.rxCb := by
  unfold tinymacDeregisterNode
  dsimp only
  split <;> split <;> simp

@[simp] theorem despatchTimer_rxCb (σ : Mac) (timer : TimerPtr) :
    (tinymacDespatchTimer σ timer).ctx.rxCb = σ.ctx.rxCb := by
  unfold tinymacDespatchTimer
  split
  · cases timer with
    | ack ptr =>
        unfold Mac.timerCallback Mac.clearTimer tinymacAckTimeout
        dsimp only
        split_ifs <;> simp
    | validity ptr => simp [Mac.timerCallback, Mac.clearTimer, tinymacValidityTimeout]
    | request =>
        unfold Mac.timerCallback Mac.clearTimer tinymacRequestTimeout
        dsimp only
        split_ifs <;> simp
  · rfl

/-- A client is still Registered as it was. -/
structure Stays (σ τ : Mac) : Prop where
  state : τ.ctx.state = .registered
  netId : τ.ctx.netId = σ.ctx.netId
  addr : τ.ctx.addr = σ.ctx.addr

theorem Stays.of_link {σ τ : Mac} (registered : σ.ctx.state = .registered)
    (link : τ.ctx.link = σ.ctx.link) : Stays σ τ :=
  ⟨(congrArg Link.state link).trans registered, congrArg Link.netId link, congrArg Link.addr link⟩

section Registered

variable {σ : Mac} (client : Client σ.ctx)

include client

/-- A packet for the coordinator goes on the air as it is built, or not at all. -/
theorem Client.txPacket_frames (type : BitVec 8) (buf : List Byte) (validity : BitVec 16)
    (cb : Option SendCb) :
    frames (tinymacTxPacket σ (some .coord) type buf validity cb).2.out = frames σ.out ∨
      frames (tinymacTxPacket σ (some .coord) type buf validity cb).2.out =
        frames σ.out ++ [⟨σ.ctx.buildHeader (some .coord) type, buf⟩] := by
  by_cases fits : σ.ctx.fits buf
  · by_cases idle : (σ.ctx.node .coord).state = .registered
    · exact .inr (txPacket_unicast_frames σ .coord type buf validity cb fits idle
        client.coord.awake)
    · refine .inl ?_
      rw [txPacket_busy _ _ _ _ _ _ fits idle, emit_out, frames_append, frames_txPacket,
        List.append_nil]
      rfl
  · exact .inl (by rw [txPacket_oversize _ _ _ _ _ _ fits])

variable (registered : σ.ctx.state = .registered)

include registered

/-- **The frames of a tick**: the retransmission, or nothing. -/
theorem Client.tick_frames : (σ.step .tick).sentSince σ =
    if σ.ctx.retransmits then [⟨σ.ctx.coord.pendingHeader, σ.ctx.coord.pending⟩] else [] := by
  have solicits : σ.solicit = σ := by simp [Mac.solicit, registered]
  -- the validity and request timers put nothing on the air
  have quiet : Emits Event.offAir (tinymacDespatchTimer σ (.ack .coord)) (σ.step .tick) := by
    rw [Mac.step, tick_client σ client.role, solicits]
    refine Emits.trans ?_ (.of_out_eq (update_out ..))
    exact (despatchValidity_emits _ .coord coord_kept fun _ _ => trivial).trans
      (despatchRequest_emits _ trivial)
  exact sentSince_of_frames
    (quiet.offAir_frames.trans (despatchAck_coord_frames client.coord.awake))

/-- A tick that does not lose the coordinator leaves the registration alone. -/
theorem Client.tick_registered (kept : σ.ctx.losesCoordinator = false) :
    Stays σ (σ.step .tick) := by
  have link : (σ.step .tick).ctx.link = σ.ctx.link.expire.nextTick := by
    rw [step_link σ client.role]
    simp [Ctx.signal, Link.step, Link.tick, kept, registered]
  have idle : ¬ σ.ctx.link.waiting := by simp [Link.waiting, registered]
  have same : σ.ctx.link.expire = σ.ctx.link ∨ σ.ctx.link.expire = σ.ctx.link.cancel := by
    unfold Link.expire
    split
    · exact .inr rfl
    · exact .inl rfl
  refine ⟨(congrArg Link.state link).trans ?_, (congrArg Link.netId link).trans ?_,
    (congrArg Link.addr link).trans ?_⟩
  · rcases same with same | same <;> rw [same] <;> exact registered
  · rcases same with same | same <;> rw [same] <;> rfl
  · rcases same with same | same <;> rw [same] <;> rfl

/-- The handler of a type puts nothing on the air, or is that of a beacon that lists the client. -/
theorem Client.recvType_polls (buf : Memory) (size : Nat) :
    let after := tinymacRecvType σ (some .coord) (readHeader buf) buf size
    frames after.out = frames σ.out ∨
      after = (tinymacTxPacket σ (some .coord) PacketType.poll.code [] 0#16 none).2 := by
  intro after
  have role := client.role
  cases known : PacketType.ofCode (readHeader buf).type with
  | none =>
      refine .inl ?_
      simp only [after, tinymacRecvType, known]
      split_ifs
      · rw [emit_out, frames_append]
        exact List.append_nil _
      · rfl
      · rfl
  | some type =>
      have is : after = tinymacRecvControl σ type (some .coord) (readHeader buf) buf size :=
        recvType_control _ _ _ _ _ type (PacketType.ofCode_eq_some.mp known)
      cases type with
      | beacon =>
          simp only [tinymacRecvControl] at is
          split at is
          · exact .inl (by rw [is])
          · rw [rxBeacon_eq σ role, registered] at is
            dsimp only at is
            split at is
            · exact .inr is
            · exact .inl (by rw [is])
      | ack =>
          have completes : Emits Event.offAir σ after := by
            rw [is]
            exact rxAck_emits _ .coord coord_kept _ fun _ _ _ => trivial
          exact .inl completes.offAir_frames
      | poll => exact .inl (by rw [is]; rfl)
      | beaconRequest =>
          exact .inl (by rw [is, tinymacRecvControl, txBeacon_client σ false role])
      | registrationRequest =>
          exact .inl (by rw [is]; simp [tinymacRecvControl, tinymacRxRegistrationRequest, role])
      | deregistrationRequest =>
          exact .inl (by rw [is]; simp [tinymacRecvControl, tinymacRxDeregistrationRequest, role])
      | registrationResponse =>
          refine .inl ?_
          rw [is]
          simp only [tinymacRecvControl, tinymacRxRegistrationResponse]
          split_ifs <;> rfl

end Registered

section Calls

variable {client : Mac} {netId addr : BitVec 8} (attached : Attached client netId addr)

include attached

/-- What a packet for the coordinator does to an attached client. -/
theorem Attached.txPacket (type : BitVec 8) (buf : List Byte) (validity : BitVec 16)
    (cb : Option SendCb) {after : Mac}
    (is : after = (tinymacTxPacket client (some .coord) type buf validity cb).2)
    (isClient : Client after.ctx) :
    Attached after netId addr ∧ deliveries after.out = deliveries client.out ∧
      (frames after.out = frames client.out ∨ frames after.out =
        frames client.out ++ [⟨client.ctx.buildHeader (some .coord) type, buf⟩]) := by
  have kept : after.ctx.coord.addr = client.ctx.coord.addr ∧
      after.ctx.coord.live = client.ctx.coord.live ∧ after.ctx.rxCb = client.ctx.rxCb := by
    rw [is]
    by_cases fits : client.ctx.fits buf
    · rw [txPacket_unicast_ctx _ _ _ _ _ _ fits]
      exact ⟨(Node.accept_live ..).1, (Node.accept_live ..).2, rfl⟩
    · rw [txPacket_oversize _ _ _ _ _ _ fits]
      exact ⟨rfl, rfl, rfl⟩
  refine ⟨attached.of_link isClient (by rw [is, txPacket_link]) (kept.2.1.trans attached.live)
    kept.1 kept.2.2, ?_, ?_⟩
  · rw [is]
    exact Emits.filterMap_eq (txPacket_emits client _ type buf validity cb delivery_standby
      (fun _ => rfl) fun _ _ _ _ _ => rfl)
  · rw [is]
    exact attached.isClient.txPacket_frames type buf validity cb

/-- A tick that does not lose the coordinator leaves a client attached. -/
theorem Attached.tick (kept : client.ctx.losesCoordinator = false) :
    Attached (client.step .tick) netId addr ∧
      deliveries (client.step .tick).out = deliveries client.out := by
  have registered : client.solicit = client := by simp [Mac.solicit, attached.state]
  have shape : client.step .tick = (tinymacDespatchTimer (tinymacDespatchTimer
      (tinymacDespatchTimer client (.ack .coord)) (.validity .coord)) .request).update
        Ctx.nextTick := by
    rw [Mac.step, tick_client client attached.isClient.role, registered]
  obtain ⟨state, sameNetId, sameAddr⟩ :=
    attached.isClient.tick_registered attached.state kept
  have live : (client.ctx.coord.despatchAck client.ctx.tickCount).live = true ∧
      (client.ctx.coord.despatchAck client.ctx.tickCount).addr = client.ctx.coord.addr := by
    have live := attached.live
    unfold Node.despatchAck Node.ackExpire
    rw [attached.isClient.coord.awake]
    simp only [Bool.false_eq_true, if_false]
    split_ifs with due left
    · exact ⟨live, rfl⟩
    · simp [Ctx.losesCoordinator, due, of_not_not left] at kept
    · exact ⟨live, rfl⟩
  have record : (client.step .tick).ctx.coord =
      client.ctx.coord.despatchAck client.ctx.tickCount := by
    have upstream := attached.isClient.coord.despatchAck client.ctx.tickCount
    have idle : (tinymacDespatchTimer (tinymacDespatchTimer client (.ack .coord))
        (.validity .coord)).ctx.state = .registered := by
      have link := despatchValidity_coord_link (tinymacDespatchTimer client (.ack .coord))
      rw [despatchAck_coord_link, kept] at link
      exact (congrArg Link.state link).trans attached.state
    rw [shape, update_ctx, Ctx.nextTick_coord, despatchRequest_coord idle, despatchValidity_coord,
      despatchAck_coord, upstream.despatchValidity]
  constructor
  · refine attached.of_same (attached.isClient.step .tick) (state.trans attached.state.symm)
      sameNetId sameAddr (by rw [record]; exact live.1) (by rw [record]; exact live.2) ?_
    rw [shape, update_ctx, Ctx.nextTick_rxCb, despatchTimer_rxCb, despatchTimer_rxCb,
      despatchTimer_rxCb]
  · rw [shape, update_out]
    refine Emits.filterMap_eq (Emits.trans (Emits.trans ?_
      (despatchValidity_emits _ .coord coord_kept fun _ _ => rfl)) (despatchRequest_emits _ rfl))
    exact despatchAck_emits client .coord coord_kept delivery_standby (fun _ => rfl) (fun _ => rfl)
      rfl

/-- The frames of the handler of a type: a poll for a beacon, and none for any other. -/
theorem Attached.recvType_frames (buf : Memory) (size : Nat) {after : Mac}
    (is : after = tinymacRecvType client (some .coord) (readHeader buf) buf size)
    (isClient : Client after.ctx) :
    frames after.out = frames client.out ∨
      Attached after netId addr ∧ deliveries after.out = deliveries client.out ∧
        frames after.out = frames client.out ++
          [⟨client.ctx.buildHeader (some .coord) PacketType.poll.code, []⟩] := by
  rcases attached.isClient.recvType_polls attached.state buf size with none | polls
  · exact .inl (is ▸ none)
  · obtain ⟨still, same, none | one⟩ := attached.txPacket _ [] 0#16 none (is.trans polls) isClient
    · exact .inl none
    · exact .inr ⟨still, same, one⟩

/-- **A frame of the client's own.** A step in which an attached client sends one frame that is not
an acknowledgement leaves it attached and delivers nothing; the frame is a poll or data. -/
theorem calls_in {input : Input} {frame : Frame}
    (sent : (client.step input).sentSince client = [frame])
    (own : frame.hdr.type ≠ PacketType.ack.code) :
    Attached (client.step input) netId addr ∧
      deliveries (client.step input).out = deliveries client.out ∧
      (frame.hdr.type = PacketType.poll.code ∨ typeRawData ≤ frame.hdr.type) := by
  have isClient := attached.isClient.step input
  have silent {after : Mac} (same : frames after.out = frames client.out) :
      after.sentSince client = [] := sentSince_of_frames (by rw [same, List.append_nil])
  have nothing : client.sentSince client = [] := silent rfl
  cases input with
  | permitAttach permit => exact absurd (nothing.symm.trans sent) nofun
  | registerRecvCb cb => exact absurd (nothing.symm.trans sent) nofun
  | registerRegCb cb => exact absurd (nothing.symm.trans sent) nofun
  | registerDeregCb cb => exact absurd (nothing.symm.trans sent) nofun
  | send dest type buf validity cb =>
      rcases attached.isClient.send_cases dest type buf validity cb with
        same | ⟨data, -, validity', is⟩
      · rw [Mac.step, same, nothing] at sent
        cases sent
      · obtain ⟨still, same, none | one⟩ := attached.txPacket type buf validity' cb
          (congrArg Prod.snd is) isClient
        · exact absurd ((silent none).symm.trans sent) nofun
        · refine ⟨still, same, .inr ?_⟩
          obtain rfl := (List.singleton_inj.mp ((sentSince_of_frames one).symm.trans sent)).symm
          rwa [buildHeader_type]
  | tick =>
      have again := (attached.isClient.tick_frames attached.state).symm.trans sent
      split at again
      · next retransmits =>
        obtain ⟨still, same⟩ := attached.tick (retransmits_keeps retransmits)
        refine ⟨still, same, .inr ?_⟩
        obtain rfl := (List.singleton_inj.mp again).symm
        exact attached.isClient.coord.pending (retransmits_armed retransmits)
      · cases again
  | recv buf size rssi =>
      cases attends : client.ctx.attends (readHeader buf) size
      · have unsent := silent (recv_ignored_frames attached.isClient attends rssi)
        exact absurd (unsent.symm.trans sent) nofun
      · have ctx := heard_ctx attached.isClient (readHeader buf) rssi
        have heardClient := attached.isClient.heard_coord rssi ctx
        have answered := heard_frames attached.isClient (readHeader buf) rssi
        have shape := recv_attended attached.isClient attached.assigned attends rssi
        rcases (attached.heard rssi heardClient ctx).recvType_frames buf size shape isClient with
          none | ⟨still, same, one⟩
        · rw [answered] at none
          have only := (sentSince_of_frames none).symm.trans sent
          rw [Ctx.answer] at only
          split at only
          · obtain rfl := (List.singleton_inj.mp only).symm
            exact absurd (ackHeader_type ..) own
          · cases only
        · rw [answered, List.append_assoc] at one
          have both := (sentSince_of_frames one).symm.trans sent
          rw [heard_deliveries] at same
          refine ⟨still, same, .inl ?_⟩
          rw [Ctx.answer] at both
          split at both
          · cases both
          · obtain rfl := (List.singleton_inj.mp both).symm
            exact buildHeader_control ..

end Calls

end TinyHan.Tinymac
