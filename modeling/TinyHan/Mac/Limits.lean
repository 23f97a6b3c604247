/-
**The sizes of frames.**

`tinymac_tx_packet` is the one function of the transmit path that checks a size, against the payload
buffer of a node record and against the MTU of the PHY. Everything else that goes to `phy_send` is a
packet that a record holds, an acknowledgement or a beacon, and a beacon that names every slot still
fits the smaller MTU. So no act makes a frame too long (`Mac.Act.sized`), in either role.

The MTU that `tinymac_get_mtu` announces does not know of the payload buffer: above a PHY with long
frames it is larger than what `tinymac_send` takes (`frame_limits`).
-/

import TinyHan.Mac.Acts

namespace TinyHan.Tinymac

open TinyHan.Lib

/-- No frame exceeds the MTU: none that was sent, and none that a record holds. -/
structure Mac.Sized (mtu : Nat) (σ : Mac) : Prop where
  limit : σ.ctx.phyMtu = mtu
  held : ∀ holder, (σ.ctx.node (recordPtr holder)).pending.length + headerSize ≤ mtu
  sent : ∀ frame ∈ frames σ.out, frame.payload.length + headerSize ≤ mtu

/-- An event that is no frame, or a frame of at most `mtu` bytes. -/
def Event.within (mtu : Nat) : Event → Prop
  | .phySend _ frame _ => frame.payload.length + headerSize ≤ mtu
  | _ => True

theorem Event.within_of_standby {mtu : Nat} (event : Event) (standby : event.standby) :
    event.within mtu := by
  cases event <;> first | exact standby.elim | trivial

/-- Every PHY takes a control frame of 56 bytes of payload. -/
theorem phyGetMtu_ge (phy : Phy) : 62 ≤ phyGetMtu phy := by
  cases phy <;> decide

section Sized

variable {mtu : Nat} {σ τ : Mac}

theorem Mac.Sized.sent_of_emits (sized : σ.Sized mtu) (emits : Emits (Event.within mtu) σ τ) :
    ∀ frame ∈ frames τ.out, frame.payload.length + headerSize ≤ mtu := by
  intro frame member
  rcases emits.frame_mem (fun _ _ _ within => within) member with old | within
  · exact sized.sent frame old
  · exact within

/-- Records that hold the packets they held, and frames that fit. -/
theorem Mac.Sized.of_same (sized : σ.Sized mtu) (limit : τ.ctx.phyMtu = σ.ctx.phyMtu)
    (same : ∀ holder, (τ.ctx.node (recordPtr holder)).pending =
      (σ.ctx.node (recordPtr holder)).pending)
    (emits : Emits (Event.within mtu) σ τ) : τ.Sized mtu where
  limit := limit.trans sized.limit
  held holder := by
    rw [same]
    exact sized.held holder
  sent := sized.sent_of_emits emits

/-- A write to one record. -/
theorem modify_held {ctx : Ctx} {holder : Option Slot} {change : Node → Node}
    (held : ∀ holder, (ctx.node (recordPtr holder)).pending.length + headerSize ≤ mtu)
    (new : (change (ctx.node (recordPtr holder))).pending.length + headerSize ≤ mtu)
    (other : Option Slot) :
    ((ctx.modify (recordPtr holder) change).node (recordPtr other)).pending.length + headerSize ≤
      mtu := by
  by_cases here : other = holder
  · subst here
    rwa [modify_node _ _ _ (recordPtr_kept other)]
  · have elsewhere : (ctx.modify (recordPtr holder) change).node (recordPtr other) =
        ctx.node (recordPtr other) := by
      cases holder with
      | none =>
          cases other with
          | none => exact absurd rfl here
          | some index => rfl
      | some written =>
          cases other with
          | none => rfl
          | some index =>
              exact modify_slot_nodes_of_ne _ _ fun same => here (congrArg some same)
    rw [elsewhere]
    exact held other

theorem modify_sized (sized : σ.Sized mtu) (holder : Option Slot) (change : Node → Node)
    (new : (change (σ.ctx.node (recordPtr holder))).pending.length + headerSize ≤ mtu) :
    (σ.modify (recordPtr holder) change).Sized mtu where
  limit := by
    rw [mac_modify_ctx, modify_phyMtu]
    exact sized.limit
  held := modify_held sized.held new
  sent := sized.sent

theorem phySend_sized (sized : σ.Sized mtu) (packet : Option Nat) {frame : Frame}
    (fits : frame.payload.length + headerSize ≤ mtu) (flags : BitVec 8) :
    (tinymacPhySend σ packet frame flags).2.Sized mtu :=
  sized.of_same (by rw [phySend_ctx]) (fun _ => by rw [phySend_ctx])
    (phySend_emits σ packet frame flags Event.within_of_standby fits)

theorem txPacket_within (sized : σ.Sized mtu) (dest : Option NodePtr) (flagsType : BitVec 8)
    (buf : List Byte) (validity : BitVec 16) (cb : Option SendCb) :
    Emits (Event.within mtu) σ (tinymacTxPacket σ dest flagsType buf validity cb).2 := by
  refine txPacket_emits σ dest flagsType buf validity cb Event.within_of_standby (fun fits => ?_)
    fun _ _ _ _ _ => trivial
  show buf.length + headerSize ≤ mtu
  rw [← sized.limit]
  exact fits.2

/-- A packet that no record outliving the call keeps. -/
theorem txPacket_unkept_sized (sized : σ.Sized mtu) {dest : Option NodePtr}
    (unkept : dest = none ∨ ∃ node, dest = some (.temp node)) (flagsType : BitVec 8)
    (buf : List Byte) (validity : BitVec 16) (cb : Option SendCb) :
    (tinymacTxPacket σ dest flagsType buf validity cb).2.Sized mtu := by
  by_cases fits : σ.ctx.fits buf
  · have ctx : (tinymacTxPacket σ dest flagsType buf validity cb).2.ctx = σ.ctx.nextSeq := by
      rcases unkept with rfl | ⟨node, rfl⟩
      · exact txPacket_broadcast_ctx σ flagsType buf validity cb fits
      · exact txPacket_unicast_ctx σ (.temp node) flagsType buf validity cb fits
    refine sized.of_same (by rw [ctx]; rfl) (fun holder => ?_) (txPacket_within sized ..)
    rw [ctx]
    cases holder <;> rfl
  · rwa [txPacket_oversize _ _ _ _ _ _ fits]

/-- A packet that its record may keep: it was checked. -/
theorem txPacket_unicast_sized (sized : σ.Sized mtu) (holder : Option Slot) (flagsType : BitVec 8)
    (buf : List Byte) (validity : BitVec 16) (cb : Option SendCb) :
    (tinymacTxPacket σ (some (recordPtr holder)) flagsType buf validity cb).2.Sized mtu := by
  by_cases fits : σ.ctx.fits buf
  · have ctx := txPacket_unicast_ctx σ (recordPtr holder) flagsType buf validity cb fits
    have counted : ∀ other, (σ.ctx.nextSeq.node (recordPtr other)).pending.length + headerSize ≤
        mtu := by
      intro other
      have kept := sized.held other
      cases other <;> exact kept
    refine ⟨?_, fun other => ?_, sized.sent_of_emits (txPacket_within sized ..)⟩
    · rw [ctx, modify_phyMtu]
      exact sized.limit
    · rw [ctx]
      refine modify_held counted ?_ other
      rcases Node.accept_pending (σ.ctx.nextSeq.node (recordPtr holder)) σ.ctx.tickCount flagsType
        validity (σ.built + 1) (σ.ctx.buildHeader (some (recordPtr holder)) flagsType) buf cb
        with same | ⟨⟨-, new, -⟩, -⟩
      · rw [same]
        exact counted holder
      · rw [new, ← sized.limit]
        exact fits.2
  · rwa [txPacket_oversize _ _ _ _ _ _ fits]

theorem invokeSendCb_sized (sized : σ.Sized mtu) (ptr : NodePtr) (result : Int) :
    (σ.invokeSendCb ptr result).Sized mtu :=
  sized.of_same (by rw [invokeSendCb_ctx]) (fun _ => by rw [invokeSendCb_ctx])
    (invokeSendCb_emits σ ptr result fun _ _ => trivial)

theorem deregister_sized (sized : σ.Sized mtu) (holder : Option Slot) :
    (tinymacDeregisterNode σ (recordPtr holder)).Sized mtu := by
  have freed := modify_sized sized holder (fun node => node.setState .unregistered)
    (sized.held holder)
  refine freed.of_same ?_ (fun other => ?_) ?_
  · cases holder with
    | none => rw [recordPtr, deregister_coord_ctx]; rfl
    | some index => rw [recordPtr, deregister_slot_ctx]; rfl
  · cases holder with
    | none =>
        rw [recordPtr, deregister_coord_ctx]
        cases other <;> rfl
    | some index => rw [recordPtr, deregister_slot_ctx]; rfl
  · exact deregister_emits σ (recordPtr holder) trivial

/-- A record that keeps its packet. -/
theorem pending_of_parcel {before after : Node} {left : Nat}
    (packet : after.parcel = { before.parcel with allowance := left }) :
    after.pending = before.pending :=
  congrArg (fun parcel => parcel.content.payload) packet

/-- **No act makes a frame too long.** -/
theorem Mac.Act.sized (large : 62 ≤ mtu) (act : σ.Act τ) (sized : σ.Sized mtu) : τ.Sized mtu := by
  cases act with
  | write change same limit =>
      exact sized.of_same limit (fun holder => congrArg Node.pending (same holder))
        (.of_out_eq rfl)
  | log event aside =>
      refine sized.of_same rfl (fun _ => rfl) (emit_emits σ ?_)
      cases event with
      | phySend packet frame flags =>
          have short : frame.payload.length ≤ 56 := aside.2
          show frame.payload.length + headerSize ≤ mtu
          rw [headerSize]
          omega
      | _ => trivial
  | lapse holder change lapses =>
      refine modify_sized sized holder change ?_
      rw [pending_of_parcel lapses.packet]
      exact sized.held holder
  | resend holder change packet less flags =>
      refine phySend_sized (modify_sized sized holder change ?_) _ (sized.held holder) flags
      rw [pending_of_parcel packet]
      exact sized.held holder
  | broadcast flagsType buf validity cb => exact txPacket_unkept_sized sized (.inl rfl) ..
  | unicast holder flagsType buf validity cb => exact txPacket_unicast_sized sized holder ..
  | refuse hdr =>
      unfold tinymacRecvUnknown
      split
      · exact txPacket_unkept_sized sized (.inr ⟨_, rfl⟩) ..
      · exact sized
  | report holder result => exact invokeSendCb_sized sized _ result
  | exhaust holder =>
      have counted := modify_sized sized holder
        (fun node => (node.cancelAck.countRetry).cancelValidity) (sized.held holder)
      exact deregister_sized (invokeSendCb_sized counted _ (-1)) holder

theorem Mac.Acts.sized (large : 62 ≤ mtu) (acts : σ.Acts τ) (sized : σ.Sized mtu) :
    τ.Sized mtu := by
  induction acts with
  | refl => exact sized
  | tail _ act ih => exact act.sized large ih

end Sized

theorem start_sized (boot : Boot) : boot.start.Sized (phyGetMtu boot.phy) where
  limit := start_phyMtu boot
  held holder := by
    have large := phyGetMtu_ge boot.phy
    have empty : (boot.start.ctx.node (recordPtr holder)).pending = [] := by
      cases holder with
      | none => simp [recordPtr, Node.zero]
      | some index => simp [recordPtr, Node.zero]
    rw [empty, List.length_nil, headerSize]
    omega
  sent frame member := by
    rw [start_out] at member
    split at member <;> cases member

/-- No frame of a run exceeds the MTU of the PHY. -/
theorem reachable_sized (boot : Boot) (inputs : List Input) :
    (boot.start.run inputs).Sized (phyGetMtu boot.phy) :=
  (run_acts boot.start inputs).sized (phyGetMtu_ge boot.phy) (start_sized boot)

/-! ### The announced limit -/

/-- The destination of a data packet is live and idle. -/
structure Ctx.Ready (ctx : Ctx) (dest type : BitVec 8) (ptr : NodePtr) : Prop where
  raw : ¬ type &&& flagsTypeMask.setWidth 8 < typeRawData
  found : tinymacGetNodeByAddr ctx dest = some ptr
  idle : (ctx.node ptr).state = .registered

/-- The payload of a call was taken: it went to `phy_send`, or its destination record keeps it until
the node calls in. -/
def Mac.Took (before after : Mac) (ptr : NodePtr) (buf : List Byte) : Prop :=
  (∃ hdr, after.sentSince before = [⟨hdr, buf⟩]) ∨
    (after.ctx.node ptr).state = .sendPending ∧ (after.ctx.node ptr).pending = buf

section Send

variable {σ : Mac} {dest type : BitVec 8} {ptr : NodePtr}

/-- **What `tinymac_send` takes** for an idle destination: what passes the size check. -/
theorem send_took_iff (ready : σ.ctx.Ready dest type ptr) (buf : List Byte) (validity : BitVec 16)
    (cb : Option SendCb) :
    σ.Took (tinymacSend σ dest type buf validity cb).2 ptr buf ↔ σ.ctx.fits buf := by
  rw [tinymacSend, if_neg ready.raw, ready.found]
  dsimp only
  by_cases fits : σ.ctx.fits buf
  · refine iff_of_true ?_ fits
    cases sleepy : (σ.ctx.node ptr).sleepy with
    | false =>
        exact .inl ⟨_, sentSince_of_frames
          (txPacket_unicast_frames σ ptr type buf _ cb fits ready.idle sleepy)⟩
    | true =>
        right
        have kept := (getNodeByAddr_sound ready.found).1.kept
        rw [txPacket_sleepy _ _ _ _ _ _ fits ready.idle sleepy]
        simp only [emit_ctx, mac_modify_ctx, modify_node _ _ _ kept]
        exact ⟨rfl, rfl⟩
  · refine iff_of_false ?_ fits
    rw [txPacket_oversize _ _ _ _ _ _ fits]
    rintro (⟨hdr, sent⟩ | ⟨pending, -⟩)
    · have none : σ.sentSince σ = [] := sentSince_of_frames (List.append_nil _).symm
      rw [none] at sent
      cases sent
    · rw [ready.idle] at pending
      cases pending

end Send

/-- **The sizes of frames.** In every run no frame exceeds the MTU of the PHY, and `tinymac_send`
takes exactly what `tinymac_get_mtu` announces for every payload but those that exceed the payload
buffer and not the announced limit. -/
theorem frame_limits (boot : Boot) (inputs : List Input) :
    let σ := boot.start.run inputs
    (∀ frame ∈ frames σ.out, frame.bytes.length ≤ phyGetMtu boot.phy) ∧
      ∀ dest type ptr buf validity cb, σ.ctx.Ready dest type ptr →
        ((σ.Took (tinymacSend σ dest type buf validity cb).2 ptr buf ↔
            buf.length ≤ tinymacGetMtu boot.phy) ↔
          (buf.length ≤ maxPayload ∨ tinymacGetMtu boot.phy < buf.length)) := by
  intro σ
  have sized : σ.Sized (phyGetMtu boot.phy) := reachable_sized boot inputs
  constructor
  · intro frame member
    have fits := sized.sent frame member
    rw [Frame.bytes_length]
    omega
  · intro dest type ptr buf validity cb ready
    have large := phyGetMtu_ge boot.phy
    rw [send_took_iff ready, Ctx.fits, sized.limit, tinymacGetMtu, headerSize]
    omega

/-- A coordinator with one node, above the PHY with long frames. -/
def oneNode : Mac :=
  (Boot.coordinatorOn 0x2A#8).start.run
    [.permitAttach true, .frame (registrationRequestFrame 0x2A#8 1#8 ⟨1#64, 0x04#16⟩) 0]

/-- A payload of one byte is within both limits, and is taken. -/
theorem frame_limits_one_byte :
    oneNode.ctx.Ready 1#8 0x10#8 (.slot 0) ∧
      oneNode.Took (tinymacSend oneNode 1#8 0x10#8 [7#8] 0#16 none).2 (.slot 0) [7#8] := by
  have ready : oneNode.ctx.Ready 1#8 0x10#8 (.slot 0) :=
    ⟨by decide, by decide +kernel, by decide +kernel⟩
  have limit := ((frame_limits (Boot.coordinatorOn 0x2A#8) _).2 1#8 0x10#8 (.slot 0) [7#8] 0#16
    none ready).mpr (.inl (by decide))
  exact ⟨ready, limit.mpr (by decide)⟩

/-- A payload of 129 bytes is within the announced limit, and is refused. -/
theorem announced_payload_refused :
    let buf : List Byte := List.replicate 129 0#8
    oneNode.ctx.Ready 1#8 0x10#8 (.slot 0) ∧ buf.length ≤ tinymacGetMtu .udp ∧
      (tinymacSend oneNode 1#8 0x10#8 buf 0#16 none).1 = -1 ∧
      ¬ oneNode.Took (tinymacSend oneNode 1#8 0x10#8 buf 0#16 none).2 (.slot 0) buf := by
  intro buf
  have ready : oneNode.ctx.Ready 1#8 0x10#8 (.slot 0) :=
    ⟨by decide, by decide +kernel, by decide +kernel⟩
  have size : buf.length = 129 := List.length_replicate
  refine ⟨ready, by rw [size]; decide, by decide +kernel, ?_⟩
  rw [send_took_iff ready, Ctx.fits, size]
  exact fun fits => absurd fits.1 (by decide)

end TinyHan.Tinymac
