/-
**A failed send** (`tinymac_send`).

`tinymac_send` returns a negative value for a type below `tinymacType_RawData`, an unknown
destination, a packet that is too large, a destination that is not Registered, and when `phy_send`
fails. In the last case a packet that asks for an acknowledgement is in its node record by then: the
record waits for an acknowledgement with its ack timer running, the packet goes out again from
there, and the callback of the rejected call is invoked in the end.

`send_traceless_iff`: this is the only such case. A failed send writes no record otherwise, and no
later call reports its packet, because a packet that no record holds is never held again
(`Courier.Dropped`).
-/

import TinyHan.Mac.Retransmission

namespace TinyHan.Tinymac

open TinyHan.Lib Relation

/-! ### Callbacks belong to held packets -/

/-- The event is the callback for a packet. -/
def Event.reports (id : Nat) : Event → Prop
  | .sendCb _ packet _ _ => packet = id
  | _ => False

section Acts

variable {σ τ : Mac} {id : Nat}

theorem Event.not_reports_of_standby (event : Event) (standby : event.standby) :
    ¬ event.reports id := by
  cases event <;> first | exact standby.elim | exact fun reports => reports

/-- `tinymac_tx_packet` makes no callback. -/
theorem txPacket_unreported (dest : Option NodePtr) (flagsType : BitVec 8) (buf : List Byte)
    (validity : BitVec 16) (cb : Option SendCb) : Emits (fun event => ¬ event.reports id) σ
      (tinymacTxPacket σ dest flagsType buf validity cb).2 :=
  txPacket_emits σ dest flagsType buf validity cb Event.not_reports_of_standby (fun _ => nofun)
    fun _ _ _ _ _ => nofun

/-- A packet that no record holds is not reported. -/
theorem Mac.Act.unreported (act : σ.Act τ) (dropped : σ.courier.Dropped id) :
    Emits (fun event => ¬ event.reports id) σ τ := by
  cases act with
  | write => exact .of_out_eq rfl
  | log event aside =>
      refine emit_emits σ ?_
      cases event <;> first | exact aside.elim | exact fun reports => reports
  | lapse => exact .of_out_eq (mac_modify_out ..)
  | resend holder change =>
      exact Emits.trans (.of_out_eq (mac_modify_out ..))
        (phySend_emits _ _ _ _ Event.not_reports_of_standby nofun)
  | broadcast => exact txPacket_unreported ..
  | unicast => exact txPacket_unreported ..
  | refuse hdr =>
      unfold tinymacRecvUnknown
      split
      · exact txPacket_unreported ..
      · exact .refl σ
  | report holder result =>
      exact invokeSendCb_emits σ _ result fun _ _ => dropped.unheld holder
  | exhaust holder =>
      refine Emits.trans ?_ (deregister_emits _ _ nofun)
      refine Emits.trans (.of_out_eq (mac_modify_out ..)) (invokeSendCb_emits _ _ _ fun _ _ => ?_)
      rw [mac_modify_ctx, modify_node _ _ _ (recordPtr_kept holder)]
      exact dropped.unheld holder

theorem Mac.Acts.unreported (acts : σ.Acts τ) (dropped : σ.courier.Dropped id) :
    Emits (fun event => ¬ event.reports id) σ τ := by
  induction acts with
  | refl => exact .refl σ
  | tail before act ih => exact ih.trans (act.unreported (dropped.steps (Mac.Acts.moves before)))

end Acts

/-! ### Sends without a trace -/

/-- A call left no trace: every node record is as it was, and no callback is made for a packet of
the call, neither in the call nor afterwards. -/
structure Mac.Traceless (before after : Mac) : Prop where
  records : ∀ holder, after.ctx.node (recordPtr holder) = before.ctx.node (recordPtr holder)
  unreported : ∀ id, before.built < id → id ≤ after.built → ∀ inputs,
    Emits (fun event => ¬ event.reports id) before (after.run inputs)

/-- A packet of `tinymac_send` that will wait for its acknowledgement: it passes every check, its
destination is awake, and it asks for an acknowledgement. -/
structure Ctx.AwaitsAck (ctx : Ctx) (dest type : BitVec 8) (buf : List Byte) (ptr : NodePtr) :
    Prop where
  raw : ¬ type &&& flagsTypeMask.setWidth 8 < typeRawData
  found : tinymacGetNodeByAddr ctx dest = some ptr
  fits : ctx.fits buf
  idle : (ctx.node ptr).state = .registered
  awake : (ctx.node ptr).sleepy = false
  ack : ackRequested type = true

section Send

variable (σ : Mac)

theorem Mac.Traceless.refl : σ.Traceless σ where
  records _ := rfl
  unreported id new old := by omega

theorem phySend_rc (packet : Option Nat) (frame : Frame) (flags : BitVec 8) :
    (tinymacPhySend σ packet frame flags).1 = σ.phyRc σ.out.length := by
  unfold tinymacPhySend
  dsimp only
  split <;> rfl

variable {σ} (sound : σ.courier.Sound sendLimit)

include sound

/-- A packet that goes into no record leaves no trace. -/
theorem txPacket_traceless {ptr : NodePtr} {flagsType : BitVec 8} {buf : List Byte}
    {validity : BitVec 16} {cb : Option SendCb}
    (records : ∀ holder, (tinymacTxPacket σ (some ptr) flagsType buf validity cb).2.ctx.node
      (recordPtr holder) = σ.ctx.node (recordPtr holder)) :
    σ.Traceless (tinymacTxPacket σ (some ptr) flagsType buf validity cb).2 where
  records := records
  unreported id new old inputs := by
    refine (txPacket_unreported ..).trans ((run_acts _ inputs).unreported ⟨old, fun holder => ?_⟩)
    have numbered : (σ.ctx.node (recordPtr holder)).pendingId ≤ σ.built := sound.numbered holder
    change ((tinymacTxPacket σ (some ptr) flagsType buf validity cb).2.ctx.node
      (recordPtr holder)).pendingId ≠ id
    rw [records]
    omega

/-- **A failed packet leaves no trace**, unless it waits for its acknowledgement. -/
theorem txPacket_failed {ptr : NodePtr} {flagsType : BitVec 8} {buf : List Byte}
    {validity : BitVec 16} {cb : Option SendCb}
    (failed : (tinymacTxPacket σ (some ptr) flagsType buf validity cb).1 < 0)
    (sent : σ.ctx.fits buf → (σ.ctx.node ptr).state = .registered →
      (σ.ctx.node ptr).sleepy = false → ackRequested flagsType = true →
      0 ≤ σ.phyRc σ.out.length) :
    σ.Traceless (tinymacTxPacket σ (some ptr) flagsType buf validity cb).2 := by
  by_cases fits : σ.ctx.fits buf
  · by_cases idle : (σ.ctx.node ptr).state = .registered
    · cases sleepy : (σ.ctx.node ptr).sleepy
      · cases ack : ackRequested flagsType
        · refine txPacket_traceless sound fun holder => ?_
          rw [txPacket_plain _ _ _ _ _ _ fits idle sleepy ack]
          simp only [emit_ctx, phySend_ctx, Mac.nextSeq_ctx, node_nextSeq]
        · rw [txPacket_ack _ _ _ _ _ _ fits idle sleepy ack] at failed
          dsimp only at failed
          rw [phySend_rc] at failed
          exact absurd failed (not_lt.mpr (sent fits idle sleepy ack))
      · rw [txPacket_sleepy _ _ _ _ _ _ fits idle sleepy] at failed
        cases failed
    · refine txPacket_traceless sound fun holder => ?_
      rw [txPacket_busy _ _ _ _ _ _ fits idle]
      simp only [emit_ctx, Mac.nextSeq_ctx, node_nextSeq]
  · rw [txPacket_oversize _ _ _ _ _ _ fits]
    exact .refl σ

end Send

/-- **A failed send leaves no trace**, in every reachable state of a coordinator or a client, unless
`phy_send` fails for a packet that waits for its acknowledgement: such a packet always leaves one.
-/
theorem send_traceless_iff (boot : Boot) (inputs : List Input) (dest type : BitVec 8)
    (buf : List Byte) (validity : BitVec 16) (cb : Option SendCb) :
    let σ := boot.start.run inputs
    let sent := tinymacSend σ dest type buf validity cb
    (sent.1 < 0 → σ.Traceless sent.2) ↔
      ¬ ((∃ ptr, σ.ctx.AwaitsAck dest type buf ptr) ∧ σ.phyRc σ.out.length < 0) := by
  intro σ sent
  have sound : σ.courier.Sound sendLimit := reachable_courier boot inputs
  constructor
  · rintro traceless ⟨⟨ptr, waits⟩, fails⟩
    obtain ⟨holder, rfl⟩ := getNodeByAddr_record waits.found
    have called : sent = tinymacSend σ dest type buf validity cb := rfl
    rw [tinymacSend, if_neg waits.raw, waits.found] at called
    dsimp only at called
    rw [txPacket_ack _ _ _ _ _ _ waits.fits waits.idle waits.awake waits.ack] at called
    have failed : sent.1 < 0 := by
      rw [called]
      dsimp only
      rw [phySend_rc]
      exact fails
    have same := congrArg Node.state ((traceless failed).records holder)
    rw [waits.idle, called] at same
    simp [modify_node _ _ _ (recordPtr_kept holder)] at same
  · intro otherwise failed
    by_cases raw : type &&& flagsTypeMask.setWidth 8 < typeRawData
    · have called : sent = (-1, σ) := by
        change tinymacSend σ dest type buf validity cb = _
        rw [tinymacSend, if_pos raw]
      rw [called]
      exact .refl σ
    · cases found : tinymacGetNodeByAddr σ.ctx dest with
      | none =>
          have called : sent = (-1, σ) := by
            change tinymacSend σ dest type buf validity cb = _
            rw [tinymacSend, if_neg raw, found]
          rw [called]
          exact .refl σ
      | some ptr =>
          have called : sent = tinymacTxPacket σ (some ptr) type buf
              (if validity = 0#16 then BitVec.ofNat 16 (σ.node ptr).heartbeat else validity)
              cb := by
            change tinymacSend σ dest type buf validity cb = _
            rw [tinymacSend, if_neg raw, found]
          rw [called] at failed ⊢
          refine txPacket_failed sound failed fun fits idle awake ack => ?_
          by_contra fails
          exact otherwise ⟨⟨ptr, raw, found, fits, idle, awake, ack⟩, not_le.mp fails⟩

/-- A coordinator whose PHY fails at the fourth event. -/
def failingPhy : Boot :=
  { Boot.coordinatorOn 0x2A#8 with phyRc := fun index => if index = 3 then -1 else 0 }

/-- The send to the node that has joined is rejected. The record waits for an acknowledgement
nevertheless, and the callback is invoked when the retries are used up. -/
theorem failed_send_reported :
    let σ := failingPhy.start.run
      [.permitAttach true, .frame (registrationRequestFrame 0x2A#8 1#8 ⟨1#64, 0x04#16⟩) 0]
    let sent := tinymacSend σ 1#8 0x50#8 [7#8] 0#16 (some 9)
    sent.1 = -1 ∧ (σ.ctx.nodes 0).state = .registered ∧ (sent.2.ctx.nodes 0).state = .waitAck ∧
      .sendCb (.slot 0) 2 9 (-1) ∈ (sent.2.run [.tick, .tick, .tick, .tick, .tick]).out := by
  decide +kernel

end TinyHan.Tinymac
