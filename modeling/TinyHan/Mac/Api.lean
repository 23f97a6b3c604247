/-
**The public functions of the MAC and its runs.**

`tinymac_init`, `tinymac_tick_handler`, `tinymac_send` and `tinymac_permit_attach`, and the steps a
context takes after one `tinymac_init` from zeroed memory: a frame from the PHY, a tick, a send or a
setting. `Mac.run` is a whole run.
-/

import TinyHan.Mac.Receive

namespace TinyHan.Tinymac

open TinyHan.Lib

/-- The PHY drivers of the repository. -/
inductive Phy where
  | udp
  | si443x
  deriving DecidableEq, Repr

/-- `phy_get_mtu`. -/
def phyGetMtu : Phy → Nat
  | .udp => 254
  | .si443x => 62

/-- `tinymac_init`; `rand` is what the successive calls of `rand()` return. -/
def tinymacInit (σ : Mac) (params : Params) (phy : Phy) (rand : Nat → BitVec 32) : Mac :=
  let ctx := { σ.ctx with
    params := params
    nodes := fun index => { σ.ctx.nodes index with
      state := .unregistered
      addr := BitVec.ofNat 8 (index.val + 1) }
    bseq := (rand 0).setWidth 8
    permitAttach := false
    dseq := (rand 1).setWidth 8
    coord := { σ.ctx.coord with state := .unregistered } }
  let ctx := if params.coordinator then
      { ctx with state := .registered, netId := (rand 2).setWidth 8, addr := 0#8 }
    else
      { ctx with state := .unregistered, netId := networkAny, addr := addrUnassigned }
  let σ := { σ with ctx := { ctx with phyMtu := phyGetMtu phy } }
  if params.sleepy then σ else σ.emit .phyListen

/-- The heartbeat test of `tinymac_tick_handler`:
`(int32_t)(last_heard + TINYMAC_SECONDS(heartbeat + GRACE) - now) <= 0`. -/
def Node.heartbeatExpired (node : Node) (now : BitVec 32) : Bool :=
  decide ((node.lastHeard + seconds (node.heartbeat + heartbeatGrace) - now).toInt ≤ 0)

/-- The per-node operations of `tinymac_tick_handler`. -/
def tickSlot (σ : Mac) (index : Slot) : Mac :=
  let node := σ.node (.slot index)
  let σ := if node.state = .registered ∧ node.heartbeatExpired σ.ctx.tickCount then
      tinymacDeregisterNode σ (.slot index)
    else σ
  let σ := tinymacDespatchTimer σ (.ack (.slot index))
  tinymacDespatchTimer σ (.validity (.slot index))

/-- A beacon is due in this slot:
`(slot & ((1 << beacon_interval) - 1)) == beacon_offset`. -/
def Ctx.beaconDue (ctx : Ctx) : Bool :=
  ctx.slot.setWidth 32 &&& (1#32 <<< ctx.params.beaconInterval.toNat - 1#32) ==
    ctx.params.beaconOffset.setWidth 32

/-- The coordinator branch of `tinymac_tick_handler`. -/
def tickCoordinator (σ : Mac) : Mac :=
  let σ := σ.update Ctx.nextSlot
  let σ := if σ.ctx.beaconDue then tinymacTxBeacon σ true else σ
  slots.foldl tickSlot σ

/-- The client branch of `tinymac_tick_handler`. -/
def tickClient (σ : Mac) : Mac :=
  let σ := if σ.ctx.state = .unregistered then
      let σ := σ.update fun ctx => ctx.setState .beaconRequest
      let σ := (tinymacTxPacket σ none PacketType.beaconRequest.code [] 0#16 none).2
      σ.update fun ctx => ctx.armRequest (seconds beaconRequestTimeout)
    else σ
  let σ := tinymacDespatchTimer σ (.ack .coord)
  let σ := tinymacDespatchTimer σ (.validity .coord)
  tinymacDespatchTimer σ .request

/-- `tinymac_tick_handler`. -/
def tinymacTickHandler (σ : Mac) : Mac :=
  let σ := if σ.ctx.params.coordinator then tickCoordinator σ else tickClient σ
  σ.update Ctx.nextTick

/-- `tinymac_send`. -/
def tinymacSend (σ : Mac) (dest type : BitVec 8) (buf : List Byte) (validity : BitVec 16)
    (cb : Option SendCb) : Int × Mac :=
  if type &&& flagsTypeMask.setWidth 8 < typeRawData then (-1, σ)
  else
    match tinymacGetNodeByAddr σ.ctx dest with
    | none => (-1, σ)
    | some ptr =>
        let validity := if validity = 0#16 then BitVec.ofNat 16 (σ.node ptr).heartbeat else validity
        tinymacTxPacket σ (some ptr) type buf validity cb

/-- `tinymac_get_mtu`. -/
def tinymacGetMtu (phy : Phy) : Nat := phyGetMtu phy - headerSize

/-- `tinymac_is_registered`. -/
def tinymacIsRegistered (ctx : Ctx) : Int := if ctx.state = .registered then 1 else 0

/-! ### Runs -/

/-- What the environment does to a context. -/
inductive Input where
  /-- The PHY calls `tinymac_recv_cb`. -/
  | recv (buf : Memory) (size : Nat) (rssi : Int)
  /-- `tinymac_tick_handler`. -/
  | tick
  /-- `tinymac_send`. -/
  | send (dest type : BitVec 8) (buf : List Byte) (validity : BitVec 16) (cb : Option SendCb)
  /-- `tinymac_permit_attach`. -/
  | permitAttach (permit : Bool)
  /-- `tinymac_register_recv_cb`. -/
  | registerRecvCb (cb : Bool)
  /-- `tinymac_register_reg_cb`. -/
  | registerRegCb (cb : Bool)
  /-- `tinymac_register_dereg_cb`. -/
  | registerDeregCb (cb : Bool)

/-- The input is a tick. -/
def Input.isTick : Input → Bool
  | .tick => true
  | _ => false

/-- The PHY hands over a frame as it was sent. -/
def Input.frame (frame : Frame) (rssi : Int) : Input :=
  .recv frame.memory frame.bytes.length rssi

/-- One step of a context. -/
def Mac.step (σ : Mac) : Input → Mac
  | .recv buf size rssi => tinymacRecvCb σ buf size rssi
  | .tick => tinymacTickHandler σ
  | .send dest type buf validity cb => (tinymacSend σ dest type buf validity cb).2
  | .permitAttach permit => σ.update fun ctx => { ctx with permitAttach := permit }
  | .registerRecvCb cb => σ.update fun ctx => { ctx with rxCb := cb }
  | .registerRegCb cb => σ.update fun ctx => { ctx with regCb := cb }
  | .registerDeregCb cb => σ.update fun ctx => { ctx with deregCb := cb }

/-- The steps of a run, in order. -/
def Mac.run (σ : Mac) (inputs : List Input) : Mac := inputs.foldl Mac.step σ

/-- The PHY hands over frames as they were sent, in order. -/
def Mac.receive (σ : Mac) (rssi : Frame → Int) (frames : List Frame) : Mac :=
  σ.run (frames.map fun frame => .frame frame (rssi frame))

/-- Every step of the run meets `cond`, a condition on the context before the step and its
input. -/
def Mac.Along (σ : Mac) (cond : Ctx → Input → Prop) : List Input → Prop
  | [] => True
  | input :: inputs => cond σ.ctx input ∧ (σ.step input).Along cond inputs

/-- Everything a context is started with. -/
structure Boot where
  params : Params
  phy : Phy
  rand : Nat → BitVec 32
  phyRc : Nat → Int

/-- The context after one `tinymac_init` from zeroed memory. -/
def Boot.start (boot : Boot) : Mac :=
  tinymacInit ⟨Ctx.zero, [], boot.phyRc, 0⟩ boot.params boot.phy boot.rand

/-- A coordinator on network `netId` whose first periodic beacon is far away and whose PHY always
succeeds. -/
def Boot.coordinatorOn (netId : BitVec 8) : Boot :=
  ⟨⟨0xC0#64, true, 0#16, 15#8, 0#8⟩, .udp, fun _ => netId.setWidth 32, fun _ => 0⟩

/-- A client with the given UUID and node flags, whose PHY always succeeds. -/
def Boot.clientWith (uuid : BitVec 64) (flags : BitVec 16) : Boot :=
  ⟨⟨uuid, false, flags, 0#8, 0#8⟩, .udp, fun _ => 0#32, fun _ => 0⟩

end TinyHan.Tinymac
