/-
**Retransmission is bounded and faithful.**

A packet leaves the MAC from three functions: `tinymac_tx_packet` sends it at once,
`tinymac_tx_pending` when its sleepy destination calls in, and `tinymac_ack_timeout` again when no
acknowledgement came. The last two send what a node record holds, and the record may have been
registered again or reused since. A context is seen as a courier whose holders are its node records
(`Mac.courier`). The retry counter of a record wraps to 255 when it is exhausted, but by then the
record is Unregistered with its ack timer off, which is an allowance of zero.

Every act of a context is a sequence of the courier's moves (`Mac.Act.moves`), so what the library
says of couriers holds of every run (`retransmission_bounded`).
-/

import TinyHan.Mac.Acts

namespace TinyHan.Tinymac

open TinyHan.Lib Relation

/-! ### A context as a courier -/

/-- The packet an event hands to `phy_send`. -/
def Event.transmission : Event → Option (Nat × Frame)
  | .phySend (some id) frame _ => some (id, frame)
  | _ => none

/-- The packet that passed the checks of a `tinymac_tx_packet` call. -/
def Event.taken : Event → Option (Nat × Frame)
  | .txPacket call => if call.accepted then some (call.id, ⟨call.hdr, call.payload⟩) else none
  | _ => none

/-- The event is no transmission of a packet and takes none. -/
def Event.idle (event : Event) : Prop := event.transmission = none ∧ event.taken = none

/-- A context, as the courier of its packets. -/
def Mac.courier (σ : Mac) : Courier (Option Slot) Frame where
  held holder := (σ.ctx.node (recordPtr holder)).parcel
  issued := σ.built
  made := σ.out.filterMap Event.taken
  sent := σ.out.filterMap Event.transmission

/-- `1 + TINYMAC_MAX_RETRIES`. -/
def sendLimit : Nat := 1 + maxRetries.toNat

/-- What happens to the packets of a context is a sequence of moves. -/
def Moves (σ τ : Mac) : Prop :=
  ReflTransGen (Courier.Step sendLimit) σ.courier τ.courier

section Equations

variable (σ : Mac) (holder : Option Slot)

theorem courier_emit (event : Event) :
    (σ.emit event).courier = { σ.courier with
      made := σ.courier.made ++ event.taken.toList
      sent := σ.courier.sent ++ event.transmission.toList } := by
  simp only [Mac.courier, emit_ctx, emit_built, emit_out, List.filterMap_append]
  rfl

theorem courier_update (change : Ctx → Ctx)
    (same : ∀ holder, (change σ.ctx).node (recordPtr holder) = σ.ctx.node (recordPtr holder)) :
    (σ.update change).courier = σ.courier := by
  simp only [Mac.courier, update_ctx, update_built, update_out, same]

theorem courier_nextSeq :
    σ.nextSeq.courier = { σ.courier with issued := σ.built + 1 } := by
  simp only [Mac.courier, Mac.nextSeq_ctx, Mac.nextSeq_built, Mac.nextSeq_out, node_nextSeq]

theorem courier_modify (change : Node → Node) :
    (σ.modify (recordPtr holder) change).courier = { σ.courier with
      held := Function.update σ.courier.held holder
        (change (σ.ctx.node (recordPtr holder))).parcel } := by
  simp only [Mac.courier, mac_modify_ctx, mac_modify_out, mac_modify_built]
  congr 1
  funext other
  rw [Function.update_apply]
  split
  · next same =>
    subst same
    rw [modify_node _ _ _ (recordPtr_kept other)]
  · next different =>
    congr 1
    cases holder <;> cases other <;> first
      | exact absurd rfl different
      | rfl
      | exact modify_slot_nodes_of_ne _ _ fun same => different (congrArg some same)

/-- A log that grows by nothing of a packet, over the same records. -/
theorem courier_eq {τ : Mac} (quiet : Emits Event.idle σ τ) (built : τ.built = σ.built)
    (same : ∀ holder, τ.ctx.node (recordPtr holder) = σ.ctx.node (recordPtr holder)) :
    τ.courier = σ.courier := by
  simp only [Mac.courier, built, same]
  rw [(quiet.mono fun _ idle => idle.1).filterMap_eq,
    (quiet.mono fun _ idle => idle.2).filterMap_eq]

theorem Event.idle_of_aside {event : Event} (aside : event.aside) : event.idle := by
  cases event with
  | phySend packet frame flags =>
      obtain ⟨rfl, -⟩ := aside
      exact ⟨rfl, rfl⟩
  | txPacket | sendCb => exact aside.elim
  | _ => exact ⟨rfl, rfl⟩

theorem Event.idle_of_standby {event : Event} (standby : event.standby) : event.idle := by
  cases event <;> first | exact standby.elim | exact ⟨rfl, rfl⟩

theorem courier_phySend_some (id : Nat) (frame : Frame) (flags : BitVec 8) :
    (tinymacPhySend σ (some id) frame flags).2.courier = { σ.courier with
      sent := σ.courier.sent ++ [(id, frame)] } := by
  have sent : (σ.emit (.phySend (some id) frame flags)).courier = { σ.courier with
      sent := σ.courier.sent ++ [(id, frame)] } := by
    rw [courier_emit]
    simp [Event.taken, Event.transmission]
  rw [← sent]
  refine courier_eq _ ?_ (phySend_built ..) fun _ => by rw [phySend_ctx, emit_ctx]
  unfold tinymacPhySend
  dsimp only
  split
  · refine emit_emits _ (Event.idle_of_standby ?_)
    split <;> trivial
  · exact .refl _

theorem courier_invokeSendCb (ptr : NodePtr) (result : Int) :
    (σ.invokeSendCb ptr result).courier = σ.courier := by
  refine courier_eq σ ?_ (invokeSendCb_built ..) fun _ => by rw [invokeSendCb_ctx]
  exact invokeSendCb_emits σ ptr result fun _ _ => ⟨rfl, rfl⟩

end Equations

/-! ### The moves of each act -/

section Moves

variable {σ τ υ : Mac}

theorem Moves.of_eq (same : τ.courier = σ.courier) : Moves σ τ := by
  rw [Moves, same]

theorem Moves.refl (σ : Mac) : Moves σ σ := .of_eq rfl

theorem Moves.trans (one : Moves σ τ) (two : Moves τ υ) : Moves σ υ := ReflTransGen.trans one two

end Moves

section Functions

variable (σ : Mac) (holder : Option Slot)

theorem courier_lapse {change : Node → Node}
    (packet : (change (σ.ctx.node (recordPtr holder))).parcel =
      { (σ.ctx.node (recordPtr holder)).parcel with
        allowance := (change (σ.ctx.node (recordPtr holder))).allowance }) :
    (σ.modify (recordPtr holder) change).courier =
      σ.courier.allow holder (change (σ.ctx.node (recordPtr holder))).allowance := by
  rw [courier_modify, packet]
  rfl

theorem modify_moves (change : Node → Node)
    (lapses : (σ.ctx.node (recordPtr holder)).Lapses (change (σ.ctx.node (recordPtr holder)))) :
    Moves σ (σ.modify (recordPtr holder) change) := by
  rw [Moves, courier_lapse σ holder lapses.packet]
  exact .single (.lapse σ.courier holder _ lapses.less)

/-- A record sends the packet it holds, and its allowance goes down. -/
theorem resend_moves (change : Node → Node)
    (packet : (change (σ.ctx.node (recordPtr holder))).parcel =
      { (σ.ctx.node (recordPtr holder)).parcel with
        allowance := (change (σ.ctx.node (recordPtr holder))).allowance })
    (less : (change (σ.ctx.node (recordPtr holder))).allowance <
      (σ.ctx.node (recordPtr holder)).allowance) (flags : BitVec 8) :
    Moves σ (tinymacPhySend (σ.modify (recordPtr holder) change)
      (some (σ.ctx.node (recordPtr holder)).pendingId)
      ⟨(σ.ctx.node (recordPtr holder)).pendingHeader,
        (σ.ctx.node (recordPtr holder)).pending⟩ flags).2 := by
  rw [Moves, courier_phySend_some, courier_lapse σ holder packet]
  exact .single (.spend σ.courier holder _ less)

/-- A packet goes out at once and no record keeps it. -/
theorem post_moves (dest : Option NodePtr) (flags : BitVec 16) (hdr : Header)
    (payload : List Byte) (cb : Option SendCb) (rc : Int) :
    Moves σ ((tinymacPhySend σ.nextSeq (some (σ.built + 1)) ⟨hdr, payload⟩ 0#8).2.emit
      (.txPacket ⟨σ.built + 1, dest, flags, hdr, payload, cb, true, rc⟩)) := by
  rw [Moves, courier_emit, courier_phySend_some, courier_nextSeq]
  simp only [Event.taken, if_true, Event.transmission, Option.toList_some, Option.toList_none,
    List.append_nil]
  exact .single (.post σ.courier ⟨hdr, payload⟩ (by decide))

/-- A packet is kept for a sleepy node, with the whole limit to go. -/
theorem defer_moves (change : Node → Node) (dest : Option NodePtr) (flags : BitVec 16)
    (hdr : Header) (payload : List Byte) (cb : Option SendCb) (rc : Int)
    (packet : (change (σ.ctx.node (recordPtr holder))).parcel =
      ⟨σ.built + 1, ⟨hdr, payload⟩, sendLimit⟩) :
    Moves σ ((σ.nextSeq.modify (recordPtr holder) change).emit
      (.txPacket ⟨σ.built + 1, dest, flags, hdr, payload, cb, true, rc⟩)) := by
  rw [Moves, courier_emit, courier_modify, courier_nextSeq, Mac.nextSeq_ctx, node_nextSeq, packet]
  simp only [Event.taken, if_true, Event.transmission, Option.toList_some, Option.toList_none,
    List.append_nil]
  exact .single (.keep σ.courier holder ⟨hdr, payload⟩ sendLimit le_rfl)

/-- A packet is kept and sent for the first time. -/
theorem hold_moves (change : Node → Node) (dest : Option NodePtr) (flags : BitVec 16)
    (hdr : Header) (payload : List Byte) (cb : Option SendCb) (rc : Int)
    (packet : (change (σ.ctx.node (recordPtr holder))).parcel =
      ⟨σ.built + 1, ⟨hdr, payload⟩, maxRetries.toNat⟩) :
    Moves σ ((tinymacPhySend (σ.nextSeq.modify (recordPtr holder) change) (some (σ.built + 1))
      ⟨hdr, payload⟩ 0#8).2.emit
      (.txPacket ⟨σ.built + 1, dest, flags, hdr, payload, cb, true, rc⟩)) := by
  rw [Moves, courier_emit, courier_phySend_some, courier_modify, courier_nextSeq,
    Mac.nextSeq_ctx, node_nextSeq, packet]
  simp only [Event.taken, if_true, Event.transmission, Option.toList_some, Option.toList_none,
    List.append_nil]
  exact σ.courier.keep_spend holder ⟨hdr, payload⟩ maxRetries.toNat (by decide)

theorem txPacket_broadcast_moves (flagsType : BitVec 8) (buf : List Byte) (validity : BitVec 16)
    (cb : Option SendCb) : Moves σ (tinymacTxPacket σ none flagsType buf validity cb).2 := by
  by_cases fits : σ.ctx.fits buf
  · rw [txPacket_broadcast _ _ _ _ _ fits]
    exact post_moves ..
  · rw [txPacket_oversize _ _ _ _ _ _ fits]
    exact .refl σ

theorem txPacket_unicast_moves (flagsType : BitVec 8) (buf : List Byte) (validity : BitVec 16)
    (cb : Option SendCb) :
    Moves σ (tinymacTxPacket σ (some (recordPtr holder)) flagsType buf validity cb).2 := by
  by_cases fits : σ.ctx.fits buf
  · by_cases idle : (σ.ctx.node (recordPtr holder)).state = .registered
    · cases sleepy : (σ.ctx.node (recordPtr holder)).sleepy
      · cases ack : ackRequested flagsType
        · rw [txPacket_plain _ _ _ _ _ _ fits idle sleepy ack]
          exact post_moves ..
        · rw [txPacket_ack _ _ _ _ _ _ fits idle sleepy ack]
          apply hold_moves
          simp [Node.parcel, Node.allowance]
      · rw [txPacket_sleepy _ _ _ _ _ _ fits idle sleepy]
        apply defer_moves
        simp [Node.parcel, Node.allowance, sendLimit, Nat.add_comm]
    · -- a busy record rejects the packet, which used a number up
      rw [txPacket_busy _ _ _ _ _ _ fits idle]
      rw [Moves, courier_emit, courier_nextSeq]
      simp only [Event.taken, Event.transmission, Option.toList_none, List.append_nil,
        Bool.false_eq_true, if_false]
      exact .single (.skip σ.courier)
  · rw [txPacket_oversize _ _ _ _ _ _ fits]
    exact .refl σ

/-- To deregister a node is, for its packets, to write its state. -/
theorem courier_deregister :
    (tinymacDeregisterNode σ (recordPtr holder)).courier =
      (σ.modify (recordPtr holder) fun node => node.setState .unregistered).courier := by
  have cut (τ : Mac) :
      (if recordPtr holder = .coord then τ.update Ctx.detach else τ).courier = τ.courier := by
    split
    · exact courier_update τ _ fun holder => by cases holder <;> rfl
    · rfl
  have logged (τ : Mac) :
      (if τ.ctx.deregCb then τ.emit (.deregCb (recordPtr holder)) else τ).courier = τ.courier := by
    split
    · exact courier_eq τ (emit_emits τ ⟨rfl, rfl⟩) rfl fun _ => rfl
    · rfl
  exact (logged _).trans (cut _)

theorem recvUnknown_moves (hdr : Header) : Moves σ (tinymacRecvUnknown σ hdr) := by
  unfold tinymacRecvUnknown
  split
  · -- the temporary record is idle and awake, and the answer asks for no acknowledgement
    dsimp only
    by_cases fits : σ.ctx.fits
        (RegistrationResponse.bytes ⟨0#64, addrUnassigned, RegistrationStatus.addressInvalid.code⟩)
    · have awake : (dummyNode hdr.srcAddr).sleepy = false := by
        simp [dummyNode, Node.sleepy, Node.zero]
      rw [txPacket_plain σ (.temp (dummyNode hdr.srcAddr)) PacketType.registrationResponse.code
        _ _ _ fits rfl awake (by decide)]
      exact post_moves ..
    · rw [txPacket_oversize _ _ _ _ _ _ fits]
      exact .refl σ
  · exact .refl σ

/-- A record without retries left is Unregistered with its ack timer off, so that the counter that
wraps allows nothing. -/
theorem exhaust_moves :
    Moves σ (tinymacDeregisterNode ((σ.modify (recordPtr holder) fun node =>
      (node.cancelAck.countRetry).cancelValidity).invokeSendCb (recordPtr holder) (-1))
      (recordPtr holder)) := by
  rw [Moves, courier_deregister, courier_modify, courier_invokeSendCb, invokeSendCb_ctx,
    courier_modify, mac_modify_ctx, modify_node _ _ _ (recordPtr_kept holder),
    Function.update_idem, ← courier_modify σ holder fun node =>
      ((node.cancelAck.countRetry).cancelValidity).setState .unregistered]
  exact modify_moves σ holder
    (fun node => ((node.cancelAck.countRetry).cancelValidity).setState .unregistered)
    (.exhausted _)

end Functions

/-- **Every act is a sequence of moves.** -/
theorem Mac.Act.moves {σ τ : Mac} (act : σ.Act τ) : Moves σ τ := by
  cases act with
  | write change same mtu => exact .of_eq (courier_update σ change same)
  | log event aside =>
      exact .of_eq (courier_eq σ (emit_emits σ (Event.idle_of_aside aside)) rfl fun _ => rfl)
  | lapse holder change lapses => exact modify_moves σ holder change lapses
  | resend holder change packet less flags => exact resend_moves σ holder change packet less flags
  | broadcast flagsType buf validity cb =>
      exact txPacket_broadcast_moves σ flagsType buf validity cb
  | unicast holder flagsType buf validity cb =>
      exact txPacket_unicast_moves σ holder flagsType buf validity cb
  | refuse hdr => exact recvUnknown_moves σ hdr
  | report holder result => exact .of_eq (courier_invokeSendCb σ _ result)
  | exhaust holder => exact exhaust_moves σ holder

theorem Mac.Acts.moves {σ τ : Mac} (acts : σ.Acts τ) : Moves σ τ := by
  induction acts with
  | refl => exact .refl σ
  | tail _ act ih => exact ih.trans act.moves

/-! ### Runs -/

theorem start_courier (boot : Boot) : boot.start.courier.Sound sendLimit := by
  have empty : boot.start.courier.made = [] ∧ boot.start.courier.sent = [] := by
    simp only [Mac.courier, start_out]
    split <;> exact ⟨rfl, rfl⟩
  have blank (holder : Option Slot) :
      (boot.start.courier.held holder).number = 0 ∧
        (boot.start.courier.held holder).allowance = 0 := by
    cases holder with
    | none => simp [Mac.courier, recordPtr, Node.parcel, Node.allowance, Node.zero, Timer.zero]
    | some index =>
        simp [Mac.courier, recordPtr, Node.parcel, Node.allowance, Node.zero, Timer.zero]
  have none (holder : Option Slot) : ¬ 0 < (boot.start.courier.held holder).allowance := by
    rw [(blank holder).2]
    exact lt_irrefl 0
  refine ⟨fun holder => ?_, ?_, ?_, ?_, fun holder some => absurd some (none holder),
    fun one _ some => absurd some (none one), fun holder some => absurd some (none holder),
    fun number => ?_⟩
  · rw [(blank holder).1]
    exact Nat.zero_le _
  · simp [empty.1]
  · simp [empty.1]
  · simp [empty.2]
  · simp [empty.2, countNumber]

/-- Every reachable context is a sound courier, in either role. -/
theorem reachable_courier (boot : Boot) (inputs : List Input) :
    (boot.start.run inputs).courier.Sound sendLimit :=
  (start_courier boot).steps (run_acts boot.start inputs).moves

/-- The frames with which the packet of one `tinymac_tx_packet` call is handed to `phy_send`. -/
def transmissions (id : Nat) (out : List Event) : List Frame :=
  (out.filterMap Event.transmission).filterMap fun sent => if sent.1 = id then some sent.2 else none

theorem mem_transmissions {id : Nat} {out : List Event} {frame : Frame} :
    frame ∈ transmissions id out ↔ (id, frame) ∈ out.filterMap Event.transmission := by
  rw [transmissions, List.mem_filterMap]
  constructor
  · rintro ⟨⟨number, content⟩, member, is⟩
    split at is
    · next same =>
      cases is
      cases same
      exact member
    · cases is
  · intro member
    exact ⟨(id, frame), member, if_pos rfl⟩

theorem length_transmissions (id : Nat) (out : List Event) :
    (transmissions id out).length = countNumber id (out.filterMap Event.transmission) := by
  rw [transmissions, countNumber]
  induction out.filterMap Event.transmission with
  | nil => rfl
  | cons sent rest ih =>
      by_cases same : sent.1 = id
      · simp [same, ih]
      · simp [same, ih]

/-- An accepted call is logged as the packet it took. -/
theorem taken_of_call {out : List Event} {call : TxCall} (logged : .txPacket call ∈ out)
    (accepted : call.accepted = true) :
    (call.id, ⟨call.hdr, call.payload⟩) ∈ out.filterMap Event.taken :=
  List.mem_filterMap.mpr ⟨_, logged, if_pos accepted⟩

theorem call_of_taken {out : List Event} {id : Nat} {frame : Frame}
    (member : (id, frame) ∈ out.filterMap Event.taken) :
    ∃ call, .txPacket call ∈ out ∧ call.accepted = true ∧ call.id = id ∧
      frame = ⟨call.hdr, call.payload⟩ := by
  obtain ⟨event, logged, is⟩ := List.mem_filterMap.mp member
  cases event with
  | txPacket call =>
      rw [Event.taken] at is
      split at is
      · next accepted =>
        cases is
        exact ⟨call, logged, accepted, rfl, rfl⟩
      · cases is
  | _ => cases is

/-- **Retransmission is bounded and faithful**, in every run of a coordinator or a client. The
packets that passed the checks of `tinymac_tx_packet` have distinct identities; each is handed to
`phy_send` at most `1 + TINYMAC_MAX_RETRIES` times, each time with the header and payload its call
built; and nothing else is sent as a packet. -/
theorem retransmission_bounded (boot : Boot) (inputs : List Input) :
    let out := (boot.start.run inputs).out
    ((out.filterMap Event.taken).map Prod.fst).Nodup ∧
      (∀ call, .txPacket call ∈ out → call.accepted = true →
        (transmissions call.id out).length ≤ 1 + maxRetries.toNat ∧
          ∀ frame ∈ transmissions call.id out, frame = ⟨call.hdr, call.payload⟩) ∧
      ∀ id frame flags, .phySend (some id) frame flags ∈ out →
        ∃ call, .txPacket call ∈ out ∧ call.accepted = true ∧ call.id = id ∧
          frame = ⟨call.hdr, call.payload⟩ := by
  intro out
  have sound := reachable_courier boot inputs
  refine ⟨sound.distinct, fun call logged accepted => ⟨?_, fun frame sent => ?_⟩,
    fun id frame flags sent => ?_⟩
  · rw [length_transmissions]
    exact sound.bounded call.id
  · have made := sound.faithful _ (mem_transmissions.mp sent)
    have same := List.inj_on_of_nodup_map sound.distinct made (taken_of_call logged accepted) rfl
    exact congrArg Prod.snd same
  · have made := sound.faithful (id, frame) (List.mem_filterMap.mpr ⟨_, sent, rfl⟩)
    exact call_of_taken made

/-- A packet that is never acknowledged goes out as often as the bound allows. -/
theorem retransmission_bounded_exhausted :
    let out := ((Boot.coordinatorOn 0x2A#8).start.run
      [.permitAttach true, .frame (registrationRequestFrame 0x2A#8 1#8 ⟨1#64, 0x04#16⟩) 0,
        .send 1#8 0x50#8 [7#8] 0#16 none, .tick, .tick, .tick, .tick, .tick]).out
    (transmissions 2 out).length = 4 ∧ (transmissions 2 out).length ≤ 1 + maxRetries.toNat := by
  intro out
  have four : (transmissions 2 out).length = 4 := by decide +kernel
  have bounded := (retransmission_bounded (Boot.coordinatorOn 0x2A#8)
    [.permitAttach true, .frame (registrationRequestFrame 0x2A#8 1#8 ⟨1#64, 0x04#16⟩) 0,
      .send 1#8 0x50#8 [7#8] 0#16 none, .tick, .tick, .tick, .tick, .tick]).2
  obtain ⟨frame, sent⟩ := List.exists_mem_of_length_pos (show 0 < (transmissions 2 out).length by
    rw [four]; decide)
  obtain ⟨event, logged, is⟩ := List.mem_filterMap.mp (mem_transmissions.mp sent)
  cases event with
  | phySend packet other flags =>
      cases packet with
      | none => cases is
      | some id =>
          cases is
          obtain ⟨call, called, accepted, same, -⟩ := bounded.2 2 frame flags logged
          exact ⟨four, same ▸ (bounded.1 call called accepted).1⟩
  | _ => cases is

end TinyHan.Tinymac
