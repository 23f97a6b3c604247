/-
**Transmit functions and timeout callbacks** of `tinymac.c`.

`tinymac_tx_packet` builds a header, rejects a busy destination, keeps a copy of the packet for
retransmission, defers it to a sleepy node or sends it now. `tinymac_tx_pending` releases a deferred
packet, `tinymac_tx_ack` answers a frame and releases what is pending behind the answer, and
`tinymac_tx_beacon` lists the slots with data pending. The timeout callbacks retransmit, defer or
give up.
-/

import TinyHan.Mac.Registry

namespace TinyHan.Tinymac

open TinyHan.Lib

/-- `tinymac_phy_send`: `phy_send`, and the power state transition of a sleepy node. -/
def tinymacPhySend (σ : Mac) (packet : Option Nat) (frame : Frame) (flags : BitVec 8) :
    Int × Mac :=
  let rc := σ.phyRc σ.out.length
  let σ := σ.emit (.phySend packet frame flags)
  if σ.ctx.params.sleepy then
    (rc, σ.emit (if rc < 0 then .phyStandby else .phyDelayedStandby listenPeriodUs))
  else (rc, σ)

/-! ### Timeout callbacks -/

/-- `tinymac_request_timeout`. -/
def tinymacRequestTimeout (σ : Mac) : Mac :=
  if σ.ctx.state = .beaconRequest ∨ σ.ctx.state = .registering then
    tinymacDeregisterNode σ .coord
  else σ

/-- `tinymac_validity_timeout`. -/
def tinymacValidityTimeout (σ : Mac) (ptr : NodePtr) : Mac :=
  let σ := σ.modify ptr fun node => (node.setState .registered).cancelAck
  σ.invokeSendCb ptr (-1)

/-- `tinymac_ack_timeout`. -/
def tinymacAckTimeout (σ : Mac) (ptr : NodePtr) : Mac :=
  let node := σ.node ptr
  let now := σ.ctx.tickCount
  let σ := σ.modify ptr fun node => node.countRetry
  if node.retries ≠ 0#8 then
    if node.sleepy then
      σ.modify ptr fun node => node.setState .sendPending
    else
      let σ := σ.modify ptr fun node => node.armAck now
      (tinymacPhySend σ (some node.pendingId) ⟨node.pendingHeader, node.pending⟩ 0#8).2
  else
    let σ := σ.modify ptr fun node => node.cancelValidity
    let σ := σ.invokeSendCb ptr (-1)
    tinymacDeregisterNode σ ptr

/-- A timer of the context, as `tinymac_despatch_timer` is handed it. -/
inductive TimerPtr where
  | ack (ptr : NodePtr)
  | validity (ptr : NodePtr)
  | request

/-- `timer->callback && (int32_t)(tick_count - timer->expiry) >= 0`. -/
def Mac.timerDue (σ : Mac) : TimerPtr → Bool
  | .ack ptr => (σ.node ptr).ackTimer.due σ.ctx.tickCount
  | .validity ptr => (σ.node ptr).validityTimer.due σ.ctx.tickCount
  | .request => σ.ctx.timer.due σ.ctx.tickCount

/-- `timer->callback = NULL`. -/
def Mac.clearTimer (σ : Mac) : TimerPtr → Mac
  | .ack ptr => σ.modify ptr fun node => node.cancelAck
  | .validity ptr => σ.modify ptr fun node => node.cancelValidity
  | .request => σ.update Ctx.cancelRequest

/-- `callback(timer->arg)`. -/
def Mac.timerCallback (σ : Mac) : TimerPtr → Mac
  | .ack ptr => tinymacAckTimeout σ ptr
  | .validity ptr => tinymacValidityTimeout σ ptr
  | .request => tinymacRequestTimeout σ

/-- `tinymac_despatch_timer`: the timer is cleared before its callback runs, which may set it
again. -/
def tinymacDespatchTimer (σ : Mac) (timer : TimerPtr) : Mac :=
  if σ.timerDue timer then (σ.clearTimer timer).timerCallback timer else σ

/-! ### Packets -/

/-- The header `tinymac_tx_packet` builds, with the sequence number it takes. -/
def Ctx.buildHeader (ctx : Ctx) (dest : Option NodePtr) (flagsType : BitVec 8) : Header where
  flags := headerFlags flagsType
  netId := ctx.netId
  srcAddr := ctx.addr
  destAddr := match dest with
    | some ptr => (ctx.node ptr).addr
    | none => addrBroadcast
  seq := ctx.dseq + 1#8

/-- `tinymac_tx_packet`. -/
def tinymacTxPacket (σ : Mac) (dest : Option NodePtr) (flagsType : BitVec 8) (buf : List Byte)
    (validity : BitVec 16) (cb : Option SendCb) : Int × Mac :=
  if buf.length > maxPayload ∨ buf.length + headerSize > σ.ctx.phyMtu then (-1, σ)
  else
    let hdr := σ.ctx.buildHeader dest flagsType
    let id := σ.built + 1
    let σ := σ.nextSeq
    match dest with
    | none =>
        let (rc, σ) := tinymacPhySend σ (some id) ⟨hdr, buf⟩ 0#8
        (rc, σ.emit (.txPacket ⟨id, none, 0#16, hdr, buf, cb, true, rc⟩))
    | some ptr =>
        let node := σ.node ptr
        let now := σ.ctx.tickCount
        if node.state ≠ .registered then
          (-1, σ.emit (.txPacket ⟨id, some ptr, node.flags, hdr, buf, cb, false, -1⟩))
        else
          let σ := if ackRequested flagsType ∨ node.sleepy then
              σ.modify ptr fun node => node.hold id hdr buf cb
            else σ
          if node.sleepy then
            let σ := σ.modify ptr fun node =>
              (node.armValidity now validity).setState .sendPending
            (0, σ.emit (.txPacket ⟨id, some ptr, node.flags, hdr, buf, cb, true, 0⟩))
          else
            let σ := if ackRequested flagsType then
                σ.modify ptr fun node => (node.armAck now).setState .waitAck
              else σ
            let (rc, σ) := tinymacPhySend σ (some id) ⟨hdr, buf⟩ 0#8
            (rc, σ.emit (.txPacket ⟨id, some ptr, node.flags, hdr, buf, cb, true, rc⟩))

/-- `tinymac_tx_pending`. -/
def tinymacTxPending (σ : Mac) (ptr : NodePtr) : Mac :=
  let node := σ.node ptr
  if node.state = .sendPending then
    let hdr := node.pendingHeader
    let now := σ.ctx.tickCount
    let σ := σ.modify ptr fun node => node.setState .registered
    let σ := if hdr.ackRequest then
        σ.modify ptr fun node => (node.setState .waitAck).armAck now
      else σ
    let σ := (tinymacPhySend σ (some node.pendingId) ⟨hdr, node.pending⟩ 0#8).2
    if hdr.ackRequest then σ
    else
      -- no acknowledgement is required, so success is assumed
      let σ := σ.modify ptr fun node => node.cancelValidity
      σ.invokeSendCb ptr 0
  else σ

/-- The header of an acknowledgement, with data pending flagged for a node in SendPending. -/
def Ctx.ackHeader (ctx : Ctx) (node : Node) (seq : BitVec 8) : Header where
  flags := (flagsVersion ||| PacketType.ack.code.setWidth 16) |||
    (if node.state = .sendPending then flagsDataPending else 0#16)
  netId := ctx.netId
  srcAddr := ctx.addr
  destAddr := node.addr
  seq := seq

/-- `tinymac_tx_ack`. -/
def tinymacTxAck (σ : Mac) (ptr : NodePtr) (seq : BitVec 8) : Mac :=
  let (rc, σ) := tinymacPhySend σ none ⟨σ.ctx.ackHeader (σ.node ptr) seq, []⟩ 0#8
  if rc < 0 then σ else tinymacTxPending σ ptr

/-- The addresses of the slots in SendPending, in table order. -/
def Ctx.pendingAddrs (ctx : Ctx) : List Byte :=
  slots.filterMap fun index =>
    if (ctx.nodes index).state = .sendPending then some (ctx.nodes index).addr else none

/-- The beacon `tinymac_tx_beacon` builds. -/
def Ctx.beacon (ctx : Ctx) (periodic : Bool) : Beacon where
  uuid := ctx.params.uuid
  timestamp := ctx.slot
  flags := (if periodic then beaconFlagsSync else 0#8) |||
    (if ctx.permitAttach then beaconFlagsPermitAttach else 0#8)
  beaconInterval := beaconIntervalNoBeacon
  addressList := if periodic then ctx.pendingAddrs else []

/-- The header of a beacon. -/
def Ctx.beaconHeader (ctx : Ctx) : Header where
  flags := flagsVersion ||| PacketType.beacon.code.setWidth 16
  netId := ctx.netId
  srcAddr := ctx.addr
  destAddr := addrBroadcast
  seq := ctx.bseq + 1#8

/-- `PHY_FLAG_IMMEDIATE`. -/
def phyFlagImmediate : BitVec 8 := 1#8

/-- `tinymac_tx_beacon`. -/
def tinymacTxBeacon (σ : Mac) (periodic : Bool) : Mac :=
  if σ.ctx.params.coordinator = false then σ
  else
    let frame : Frame := ⟨σ.ctx.beaconHeader, (σ.ctx.beacon periodic).bytes⟩
    let σ := σ.update Ctx.nextBeacon
    (tinymacPhySend σ none frame (if periodic then phyFlagImmediate else 0#8)).2

end TinyHan.Tinymac
