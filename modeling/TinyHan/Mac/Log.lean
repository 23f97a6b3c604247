/-
**What each function logs.**

`Emits P σ τ` says that `τ` extends the log of `σ` by events that all satisfy `P`. It is reflexive
and transitive, so what a composite function logs follows from its parts; the lemmas below give the
events of each function of the transmit path.
-/

import TinyHan.Mac.Effects

namespace TinyHan.Tinymac

open TinyHan.Lib

/-- The log grows by events that satisfy `P`. -/
def Emits (P : Event → Prop) (σ τ : Mac) : Prop :=
  ∃ new, τ.out = σ.out ++ new ∧ ∀ event ∈ new, P event

/-- The power transitions that go with sending. -/
def Event.standby : Event → Prop
  | .phyStandby => True
  | .phyDelayedStandby _ => True
  | _ => False

/-- The events that put nothing on the air. -/
def Event.offAir : Event → Prop
  | .phySend _ _ _ => False
  | _ => True

/-- The events that concern no packet and no slot. -/
def Event.silent : Event → Prop
  | .phyStandby => True
  | .phyDelayedStandby _ => True
  | .rxCb _ _ _ => True
  | .regCb _ => True
  | _ => False

theorem Event.silent_of_standby {event : Event} (standby : event.standby) : event.silent := by
  cases event <;> first | exact standby.elim | trivial

/-- The frames a log puts on the air, in order. -/
def frames (out : List Event) : List Frame :=
  out.filterMap fun
    | .phySend _ frame _ => some frame
    | _ => none

@[simp] theorem frames_append (one two : List Event) :
    frames (one ++ two) = frames one ++ frames two := List.filterMap_append

@[simp] theorem frames_phySend (packet : Option Nat) (frame : Frame) (flags : BitVec 8) :
    frames [.phySend packet frame flags] = [frame] := rfl

@[simp] theorem frames_txPacket (call : TxCall) : frames [.txPacket call] = [] := rfl

theorem phySend_frames (σ : Mac) (packet : Option Nat) (frame : Frame) (flags : BitVec 8) :
    frames (tinymacPhySend σ packet frame flags).2.out = frames σ.out ++ [frame] := by
  unfold tinymacPhySend
  dsimp only
  split
  · have standby : frames [if σ.phyRc σ.out.length < 0 then .phyStandby
        else .phyDelayedStandby listenPeriodUs] = [] := by
      split <;> rfl
    rw [emit_out, emit_out, frames_append, frames_append, standby, frames_phySend, List.append_nil]
  · rw [emit_out, frames_append, frames_phySend]

theorem recvStandby_frames (σ : Mac) (hdr : Header) :
    frames (tinymacRecvStandby σ hdr).out = frames σ.out := by
  unfold tinymacRecvStandby
  split
  · split <;> simp [frames]
  · rfl

/-- The frames a context put on the air since an earlier state. -/
def Mac.sentSince (after before : Mac) : List Frame :=
  (frames after.out).drop (frames before.out).length

theorem sentSince_of_frames {after before : Mac} {new : List Frame}
    (grown : frames after.out = frames before.out ++ new) : after.sentSince before = new := by
  rw [Mac.sentSince, grown, List.drop_left]

/-- The frames of one control type a log puts on the air. -/
def aired (type : PacketType) (out : List Event) : List Frame :=
  (frames out).filter fun frame => frame.hdr.type == type.code

/-- The frames of one control type a context put on the air since an earlier state. -/
def Mac.airedSince (after before : Mac) (type : PacketType) : List Frame :=
  (aired type after.out).drop (aired type before.out).length

/-- A context that put one frame on the air. -/
theorem airedSince_one {after before : Mac} {type : PacketType} {frame : Frame}
    (grown : frames after.out = frames before.out ++ [frame])
    (is : frame.hdr.type = type.code) : after.airedSince before type = [frame] := by
  have grown : aired type after.out = aired type before.out ++ [frame] := by
    simp [aired, grown, is]
  rw [Mac.airedSince, grown, List.drop_left]

section Emits

variable {P : Event → Prop} {σ τ υ : Mac}

theorem Emits.of_out_eq (same : τ.out = σ.out) : Emits P σ τ :=
  ⟨[], by simpa using same, fun _ none => by cases none⟩

theorem Emits.refl (σ : Mac) : Emits P σ σ := .of_out_eq rfl

theorem Emits.trans (one : Emits P σ τ) (two : Emits P τ υ) : Emits P σ υ := by
  obtain ⟨first, grown, ok⟩ := one
  obtain ⟨second, grown', ok'⟩ := two
  refine ⟨first ++ second, by rw [grown', grown, List.append_assoc], fun event member => ?_⟩
  rcases List.mem_append.mp member with member | member
  · exact ok event member
  · exact ok' event member

theorem Emits.mono {Q : Event → Prop} (emits : Emits P σ τ) (weaker : ∀ event, P event → Q event) :
    Emits Q σ τ := by
  obtain ⟨new, grown, ok⟩ := emits
  exact ⟨new, grown, fun event member => weaker event (ok event member)⟩

theorem emit_emits (σ : Mac) {event : Event} (ok : P event) : Emits P σ (σ.emit event) :=
  ⟨[event], rfl, fun other member => by rw [List.mem_singleton.mp member]; exact ok⟩

theorem Emits.emit (emits : Emits P σ τ) {event : Event} (ok : P event) :
    Emits P σ (τ.emit event) := emits.trans (emit_emits τ ok)

/-- A log that grows by nothing a view shows. -/
theorem Emits.filterMap_eq {β : Type} {view : Event → Option β}
    (emits : Emits (fun event => view event = none) σ τ) :
    τ.out.filterMap view = σ.out.filterMap view := by
  obtain ⟨new, grown, ok⟩ := emits
  rw [grown, List.filterMap_append, List.filterMap_eq_nil_iff.mpr ok, List.append_nil]

/-- The frames of a log that grows: the old ones, and those of the new events. -/
theorem Emits.frame_mem {Q : Frame → Prop} (emits : Emits P σ τ)
    (each : ∀ packet frame flags, P (.phySend packet frame flags) → Q frame) {frame : Frame}
    (member : frame ∈ frames τ.out) : frame ∈ frames σ.out ∨ Q frame := by
  obtain ⟨new, grown, ok⟩ := emits
  rw [grown, frames_append, List.mem_append] at member
  refine member.imp_right fun new => ?_
  obtain ⟨event, logged, is⟩ := List.mem_filterMap.mp new
  cases event with
  | phySend packet sent flags =>
      cases is
      exact each packet frame flags (ok _ logged)
  | _ => cases is

/-- A log that grows by no frame. -/
theorem Emits.frames_eq (emits : Emits P σ τ)
    (silent : ∀ packet frame flags, ¬ P (.phySend packet frame flags)) :
    frames τ.out = frames σ.out := by
  refine Emits.filterMap_eq (emits.mono fun event holds => ?_)
  cases event with
  | phySend packet frame flags => exact absurd holds (silent packet frame flags)
  | _ => rfl

theorem Emits.offAir_frames (emits : Emits Event.offAir σ τ) : frames τ.out = frames σ.out :=
  emits.frames_eq fun _ _ _ sent => sent

/-- A log that grows by no frame of a type. -/
theorem Emits.aired_eq {type : PacketType} (emits : Emits P σ τ)
    (other : ∀ packet frame flags, P (.phySend packet frame flags) →
      frame.hdr.type ≠ type.code) : aired type τ.out = aired type σ.out := by
  obtain ⟨new, grown, ok⟩ := emits
  have none : (frames new).filter (fun frame => frame.hdr.type == type.code) = [] := by
    rw [List.filter_eq_nil_iff]
    intro frame member
    obtain ⟨event, logged, sent⟩ := List.mem_filterMap.mp member
    cases event <;> simp only [reduceCtorEq, Option.some.injEq] at sent
    next packet _ flags =>
      subst sent
      simpa using other packet _ flags (ok _ logged)
  rw [aired, grown, frames_append, List.filter_append, none, List.append_nil, aired]

/-- Every event of the longer log is an old one or satisfies `P`. -/
theorem Emits.mem (emits : Emits P σ τ) {event : Event} (member : event ∈ τ.out) :
    event ∈ σ.out ∨ P event := by
  obtain ⟨new, grown, ok⟩ := emits
  rw [grown, List.mem_append] at member
  exact member.imp_right (ok event)

/-- What is logged stays logged. -/
theorem Emits.mem_of_mem (emits : Emits P σ τ) {event : Event} (logged : event ∈ σ.out) :
    event ∈ τ.out := by
  obtain ⟨new, grown, -⟩ := emits
  exact grown ▸ List.mem_append_left new logged

end Emits

section Functions

variable {P : Event → Prop} (σ : Mac) (ptr : NodePtr)

theorem phySend_emits (packet : Option Nat) (frame : Frame) (flags : BitVec 8)
    (standby : ∀ event, event.standby → P event) (sent : P (.phySend packet frame flags)) :
    Emits P σ (tinymacPhySend σ packet frame flags).2 := by
  unfold tinymacPhySend
  dsimp only
  split
  · refine (emit_emits σ sent).emit (standby _ ?_)
    split <;> trivial
  · exact emit_emits σ sent

/-- What `tinymac_tx_beacon` logs. -/
theorem txBeacon_emits (periodic : Bool) (standby : ∀ event, event.standby → P event)
    (beacon : ∀ flags,
      P (.phySend none ⟨σ.ctx.beaconHeader, (σ.ctx.beacon periodic).bytes⟩ flags)) :
    Emits P σ (tinymacTxBeacon σ periodic) := by
  unfold tinymacTxBeacon
  split
  · exact .refl σ
  · exact Emits.trans (.of_out_eq (update_out ..)) (phySend_emits _ _ _ _ standby (beacon _))

theorem txBeacon_frames (periodic : Bool) (role : σ.ctx.params.coordinator = true) :
    frames (tinymacTxBeacon σ periodic).out =
      frames σ.out ++ [⟨σ.ctx.beaconHeader, (σ.ctx.beacon periodic).bytes⟩] := by
  rw [tinymacTxBeacon, if_neg (by simp [role])]
  simp only [phySend_frames, update_out]

theorem invokeSendCb_emits (result : Int)
    (invoked : ∀ cb, (σ.ctx.node ptr).sendCb = some cb →
      P (.sendCb ptr (σ.ctx.node ptr).pendingId cb result)) :
    Emits P σ (σ.invokeSendCb ptr result) := by
  unfold Mac.invokeSendCb
  split
  · next cb held => exact emit_emits σ (invoked cb held)
  · exact .refl σ

theorem deregister_emits (gone : P (.deregCb ptr)) : Emits P σ (tinymacDeregisterNode σ ptr) := by
  unfold tinymacDeregisterNode
  dsimp only
  split
  · split
    · exact Emits.emit (.of_out_eq rfl) gone
    · exact .of_out_eq rfl
  · split
    · exact Emits.emit (.of_out_eq rfl) gone
    · exact .of_out_eq rfl

theorem txPacket_emits (dest : Option NodePtr) (flagsType : BitVec 8) (buf : List Byte)
    (validity : BitVec 16) (cb : Option SendCb) (standby : ∀ event, event.standby → P event)
    (sent : σ.ctx.fits buf →
      P (.phySend (some (σ.built + 1)) ⟨σ.ctx.buildHeader dest flagsType, buf⟩ 0#8))
    (called : σ.ctx.fits buf → ∀ flags accepted rc, (accepted = false → rc = -1) → P (.txPacket
      ⟨σ.built + 1, dest, flags, σ.ctx.buildHeader dest flagsType, buf, cb, accepted, rc⟩)) :
    Emits P σ (tinymacTxPacket σ dest flagsType buf validity cb).2 := by
  have taken : Emits P σ σ.nextSeq := .of_out_eq rfl
  by_cases fits : σ.ctx.fits buf
  · replace sent := sent fits
    replace called := called fits
    cases dest with
    | none =>
        rw [txPacket_broadcast _ _ _ _ _ fits]
        exact (taken.trans (phySend_emits _ _ _ _ standby sent)).emit (called _ _ _ nofun)
    | some ptr =>
        by_cases idle : (σ.ctx.node ptr).state = .registered
        · cases sleepy : (σ.ctx.node ptr).sleepy
          · cases ack : ackRequested flagsType
            · rw [txPacket_plain _ _ _ _ _ _ fits idle sleepy ack]
              exact (taken.trans (phySend_emits _ _ _ _ standby sent)).emit (called _ _ _ nofun)
            · rw [txPacket_ack _ _ _ _ _ _ fits idle sleepy ack]
              refine (Emits.trans ?_ (phySend_emits _ _ _ _ standby sent)).emit (called _ _ _ nofun)
              exact .of_out_eq rfl
          · rw [txPacket_sleepy _ _ _ _ _ _ fits idle sleepy]
            exact Emits.emit (.of_out_eq rfl) (called _ _ _ nofun)
        · rw [txPacket_busy _ _ _ _ _ _ fits idle]
          exact taken.emit (called _ _ _ fun _ => rfl)
  · rw [txPacket_oversize _ _ _ _ _ _ fits]
    exact .refl σ

/-- A broadcast puts one frame on the air. -/
theorem txPacket_broadcast_frames (flagsType : BitVec 8) (buf : List Byte) (validity : BitVec 16)
    (cb : Option SendCb) (fits : σ.ctx.fits buf) :
    frames (tinymacTxPacket σ none flagsType buf validity cb).2.out =
      frames σ.out ++ [⟨σ.ctx.buildHeader none flagsType, buf⟩] := by
  rw [txPacket_broadcast _ _ _ _ _ fits]
  simp [phySend_frames]

/-- So does a unicast to an idle record that is awake. -/
theorem txPacket_unicast_frames (flagsType : BitVec 8) (buf : List Byte) (validity : BitVec 16)
    (cb : Option SendCb) (fits : σ.ctx.fits buf) (idle : (σ.ctx.node ptr).state = .registered)
    (awake : (σ.ctx.node ptr).sleepy = false) :
    frames (tinymacTxPacket σ (some ptr) flagsType buf validity cb).2.out =
      frames σ.out ++ [⟨σ.ctx.buildHeader (some ptr) flagsType, buf⟩] := by
  cases ack : ackRequested flagsType
  · rw [txPacket_plain _ _ _ _ _ _ fits idle awake ack]
    simp [phySend_frames]
  · rw [txPacket_ack _ _ _ _ _ _ fits idle awake ack]
    simp [phySend_frames]

theorem txPending_emits (standby : ∀ event, event.standby → P event)
    (sent : (σ.ctx.node ptr).state = .sendPending →
      P (.phySend (some (σ.ctx.node ptr).pendingId)
        ⟨(σ.ctx.node ptr).pendingHeader, (σ.ctx.node ptr).pending⟩ 0#8))
    (completed : ∀ cb, (σ.ctx.node ptr).state = .sendPending →
      (σ.ctx.node ptr).pendingHeader.ackRequest = false →
      (σ.ctx.node ptr).sendCb = some cb →
      P (.sendCb ptr (σ.ctx.node ptr).pendingId cb 0)) :
    Emits P σ (tinymacTxPending σ ptr) := by
  by_cases pending : (σ.ctx.node ptr).state = .sendPending
  · cases ack : (σ.ctx.node ptr).pendingHeader.ackRequest
    · rw [txPending_plain σ ptr pending ack]
      have sentNow : Emits P σ (tinymacPhySend (σ.modify ptr fun node => node.setState .registered)
          (some (σ.ctx.node ptr).pendingId)
          ⟨(σ.ctx.node ptr).pendingHeader, (σ.ctx.node ptr).pending⟩ 0#8).2 :=
        Emits.trans (.of_out_eq (mac_modify_out ..)) (phySend_emits _ _ _ _ standby (sent pending))
      refine (sentNow.trans (.of_out_eq (mac_modify_out ..))).trans
        (invokeSendCb_emits _ _ _ fun cb held => ?_)
      have same : ((tinymacPhySend (σ.modify ptr fun node => node.setState .registered)
          (some (σ.ctx.node ptr).pendingId)
          ⟨(σ.ctx.node ptr).pendingHeader, (σ.ctx.node ptr).pending⟩ 0#8).2.modify ptr
          fun node => node.cancelValidity).ctx.node ptr =
          ((σ.ctx.node ptr).setState .registered).cancelValidity ∨ ∃ node, ptr = .temp node := by
        cases ptr <;> simp
      rcases same with same | ⟨node, rfl⟩
      · rw [same] at held ⊢
        exact completed cb pending ack held
      · exact completed cb pending ack held
    · rw [txPending_ack σ ptr pending ack]
      exact Emits.trans (.of_out_eq rfl) (phySend_emits _ _ _ _ standby (sent pending))
  · rw [txPending_idle σ ptr pending]
    exact .refl σ

theorem recvStandby_emits (hdr : Header) (standby : ∀ event, event.standby → P event) :
    Emits P σ (tinymacRecvStandby σ hdr) := by
  unfold tinymacRecvStandby
  split
  · refine emit_emits σ (standby _ ?_)
    split <;> trivial
  · exact .refl σ

/-- The packet that waits for the node of a record. -/
def Ctx.kept (ctx : Ctx) (ptr : NodePtr) : List Frame :=
  if (ctx.node ptr).state = .sendPending then
    [⟨(ctx.node ptr).pendingHeader, (ctx.node ptr).pending⟩]
  else []

/-- The acknowledgement of a frame from the node of a record, if it asks for one. -/
def Ctx.answer (ctx : Ctx) (ptr : NodePtr) (hdr : Header) : List Frame :=
  if hdr.ackRequest then [⟨ctx.ackHeader (ctx.node ptr) hdr.seq, []⟩] else []

theorem txPending_frames :
    frames (tinymacTxPending σ ptr).out = frames σ.out ++ σ.ctx.kept ptr := by
  rw [Ctx.kept]
  split
  case isTrue pending =>
    cases ack : (σ.ctx.node ptr).pendingHeader.ackRequest
    · rw [txPending_plain σ ptr pending ack,
        Emits.offAir_frames (invokeSendCb_emits _ ptr 0 fun _ _ => trivial), mac_modify_out,
        phySend_frames, mac_modify_out]
    · rw [txPending_ack σ ptr pending ack, phySend_frames, mac_modify_out]
  case isFalse idle => rw [txPending_idle σ ptr idle, List.append_nil]

section Known

variable (kept : ∀ node, ptr ≠ .temp node) (hdr : Header) (rssi : Int)

include kept

/-- A frame from a known node is answered with its acknowledgement, and with what waits for the
node. -/
theorem recvKnown_frames :
    frames (tinymacRecvKnown σ ptr hdr rssi).out =
      frames σ.out ++ σ.ctx.answer ptr hdr ++ σ.ctx.kept ptr := by
  unfold tinymacRecvKnown
  dsimp only
  have same : (σ.modify ptr fun node => node.heard σ.ctx.tickCount rssi).ctx.node ptr =
      (σ.ctx.node ptr).heard σ.ctx.tickCount rssi := modify_node _ _ _ kept
  have waiting : (σ.modify ptr fun node => node.heard σ.ctx.tickCount rssi).ctx.kept ptr =
      σ.ctx.kept ptr := by
    rw [Ctx.kept, same]
    rfl
  have answer : (σ.modify ptr fun node => node.heard σ.ctx.tickCount rssi).ctx.answer ptr hdr =
      σ.ctx.answer ptr hdr := by
    rw [Ctx.answer, same]
    simp [Ctx.answer, Ctx.ackHeader]
  rw [← waiting, ← answer, ← mac_modify_out σ ptr fun node => node.heard σ.ctx.tickCount rssi]
  generalize σ.modify ptr (fun node => node.heard σ.ctx.tickCount rssi) = heard
  rw [Ctx.answer]
  split
  · unfold tinymacTxAck
    dsimp only
    split
    · rw [txPending_frames, phySend_frames, phySend_ctx]
      rfl
    · -- the acknowledgement has released the packet, and the second call finds nothing
      rw [txPending_idle, txPending_frames, phySend_frames, phySend_ctx]
      · rfl
      · rw [txPending_ctx, modify_node _ _ _ kept]
        exact Node.release_state_ne _ _
  · rw [txPending_frames, List.append_nil]

/-- A frame from a known node: its acknowledgement, and the packet that is released. -/
theorem recvKnown_emits (standby : ∀ event, event.standby → P event)
    (acked : hdr.ackRequest = true →
      P (.phySend none ⟨σ.ctx.ackHeader (σ.ctx.node ptr) hdr.seq, []⟩ 0#8))
    (sent : (σ.ctx.node ptr).state = .sendPending →
      P (.phySend (some (σ.ctx.node ptr).pendingId)
        ⟨(σ.ctx.node ptr).pendingHeader, (σ.ctx.node ptr).pending⟩ 0#8))
    (completed : ∀ cb, (σ.ctx.node ptr).state = .sendPending →
      (σ.ctx.node ptr).pendingHeader.ackRequest = false →
      P (.sendCb ptr (σ.ctx.node ptr).pendingId cb 0)) :
    Emits P σ (tinymacRecvKnown σ ptr hdr rssi) := by
  have released (τ : Mac) (same : τ.ctx.node ptr =
      (σ.ctx.node ptr).heard σ.ctx.tickCount rssi) : Emits P τ (tinymacTxPending τ ptr) := by
    refine txPending_emits τ ptr standby (fun pending => ?_) fun cb pending plain _ => ?_
    · rw [same] at pending ⊢
      exact sent pending
    · rw [same] at pending plain ⊢
      exact completed cb pending plain
  have same : (σ.modify ptr fun node => node.heard σ.ctx.tickCount rssi).ctx.node ptr =
      (σ.ctx.node ptr).heard σ.ctx.tickCount rssi := modify_node _ _ _ kept
  have heard : Emits P σ (σ.modify ptr fun node => node.heard σ.ctx.tickCount rssi) :=
    .of_out_eq rfl
  have answer (asks : hdr.ackRequest = true) : P (.phySend none ⟨(σ.modify ptr fun node =>
      node.heard σ.ctx.tickCount rssi).ctx.ackHeader ((σ.modify ptr fun node =>
        node.heard σ.ctx.tickCount rssi).ctx.node ptr) hdr.seq, []⟩ 0#8) := by
    rw [same]
    simpa [Ctx.ackHeader] using acked asks
  unfold tinymacRecvKnown
  dsimp only
  split
  · next asks =>
    have answer := answer asks
    unfold tinymacTxAck
    dsimp only
    split
    · refine (heard.trans (phySend_emits _ _ _ _ standby answer)).trans (released _ ?_)
      rw [phySend_ctx, same]
    · rw [txPending_idle (tinymacTxPending _ ptr)]
      · refine (heard.trans (phySend_emits _ _ _ _ standby answer)).trans (released _ ?_)
        rw [phySend_ctx, same]
      · rw [txPending_ctx, modify_node _ _ _ kept]
        exact Node.release_state_ne _ _
  · exact heard.trans (released _ same)

end Known

/-- An acknowledgement: the success of the packet it names. -/
theorem rxAck_emits (kept : ∀ node, ptr ≠ .temp node) (hdr : Header)
    (acked : ∀ cb, (σ.ctx.node ptr).state = .waitAck →
      hdr.seq = (σ.ctx.node ptr).pendingHeader.seq →
      P (.sendCb ptr (σ.ctx.node ptr).pendingId cb 0)) :
    Emits P σ (tinymacRxAck σ (some ptr) hdr) := by
  unfold tinymacRxAck
  dsimp only
  split
  · next waiting =>
    refine Emits.trans (.of_out_eq (mac_modify_out ..)) (invokeSendCb_emits _ _ _ fun cb _ => ?_)
    rw [mac_modify_ctx, modify_node _ _ _ kept]
    exact acked cb waiting.1 waiting.2
  · exact .refl σ

/-- The ack timer of a record: a retransmission, a deferral or a failure. -/
theorem despatchAck_emits (kept : ∀ node, ptr ≠ .temp node)
    (standby : ∀ event, event.standby → P event)
    (resent : (σ.ctx.node ptr).ackTimer.armed = true →
      P (.phySend (some (σ.ctx.node ptr).pendingId)
        ⟨(σ.ctx.node ptr).pendingHeader, (σ.ctx.node ptr).pending⟩ 0#8))
    (failed : ∀ cb, P (.sendCb ptr (σ.ctx.node ptr).pendingId cb (-1)))
    (gone : P (.deregCb ptr)) : Emits P σ (tinymacDespatchTimer σ (.ack ptr)) := by
  unfold tinymacDespatchTimer
  split
  case isFalse => exact .refl σ
  case isTrue due =>
    have armed : (σ.ctx.node ptr).ackTimer.armed = true := armed_of_due due
    simp only [Mac.timerCallback, Mac.clearTimer, tinymacAckTimeout, mac_node, mac_modify_ctx,
      modify_node _ _ _ kept, modify_tickCount, mac_modify_modify]
    split
    · split
      · exact .of_out_eq rfl
      · exact Emits.trans (.of_out_eq (mac_modify_out ..))
          (phySend_emits _ _ _ _ standby (resent armed))
    · refine Emits.trans ?_ (deregister_emits _ _ gone)
      refine Emits.trans (.of_out_eq (mac_modify_out ..)) (invokeSendCb_emits _ _ _ fun cb _ => ?_)
      rw [mac_modify_ctx, modify_node _ _ _ kept]
      exact failed cb

/-- The validity timer of a record: a failure. -/
theorem despatchValidity_emits (kept : ∀ node, ptr ≠ .temp node)
    (failed : ∀ cb, (σ.ctx.node ptr).validityTimer.armed = true →
      P (.sendCb ptr (σ.ctx.node ptr).pendingId cb (-1))) :
    Emits P σ (tinymacDespatchTimer σ (.validity ptr)) := by
  unfold tinymacDespatchTimer
  split
  case isFalse => exact .refl σ
  case isTrue due =>
    have armed : (σ.ctx.node ptr).validityTimer.armed = true := armed_of_due due
    simp only [Mac.timerCallback, Mac.clearTimer, tinymacValidityTimeout, mac_modify_modify]
    refine Emits.trans (.of_out_eq (mac_modify_out ..)) (invokeSendCb_emits _ _ _ fun cb _ => ?_)
    rw [mac_modify_ctx, modify_node _ _ _ kept]
    exact failed cb armed

/-- The share of a slot in a tick: what its timers log, and the end of its registration. -/
theorem tickSlot_emits (index : Slot) (standby : ∀ event, event.standby → P event)
    (resent : (σ.ctx.nodes index).ackTimer.armed = true →
      P (.phySend (some (σ.ctx.nodes index).pendingId)
        ⟨(σ.ctx.nodes index).pendingHeader, (σ.ctx.nodes index).pending⟩ 0#8))
    (failed : ∀ packet cb, P (.sendCb (.slot index) packet cb (-1)))
    (gone : P (.deregCb (.slot index))) : Emits P σ (tickSlot σ index) := by
  unfold tickSlot
  dsimp only
  generalize is : (if (σ.node (.slot index)).state = .registered ∧
      (σ.node (.slot index)).heartbeatExpired σ.ctx.tickCount = true then
    tinymacDeregisterNode σ (.slot index) else σ) = checked
  have expired : Emits P σ checked := by
    rw [← is]
    split
    · exact deregister_emits σ _ gone
    · exact .refl σ
  have record : checked.ctx.nodes index = σ.ctx.nodes index ∨
      checked.ctx.nodes index = (σ.ctx.nodes index).setState .unregistered := by
    rw [← is]
    split
    · right
      rw [deregister_slot_ctx, modify_slot_nodes_self]
    · exact .inl rfl
  have timer : Emits P checked (tinymacDespatchTimer checked (.ack (.slot index))) := by
    refine despatchAck_emits checked (.slot index) slot_kept standby ?_ (fun cb => failed _ cb) gone
    rcases record with same | freed
    · simpa [same] using resent
    · simpa [freed] using resent
  exact (expired.trans timer).trans
    (despatchValidity_emits _ (.slot index) slot_kept fun cb _ => failed _ cb)

/-- The request timer: the coordinator is given up. -/
theorem despatchRequest_emits (gone : P (.deregCb .coord)) :
    Emits P σ (tinymacDespatchTimer σ .request) := by
  unfold tinymacDespatchTimer
  split
  · unfold Mac.timerCallback Mac.clearTimer tinymacRequestTimeout
    dsimp only
    split_ifs
    · exact Emits.trans (.of_out_eq (update_out ..)) (deregister_emits _ _ gone)
    · exact .of_out_eq rfl
  · exact .refl σ

end Functions

end TinyHan.Tinymac
