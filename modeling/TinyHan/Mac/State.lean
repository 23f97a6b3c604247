/-
**The MAC context** (`tinymac_t`, `tinymac_node_t` and `tinymac_timer_t`).

One context serves both roles: `params.coordinator` selects the branches, and a build without
`WITH_TINYMAC_COORDINATOR` behaves like a context with that parameter clear.

* A timer is a callback pointer, an argument and an expiry. Each timer of the source is only ever
  armed with one callback, and the node timers only with the record that holds them, so the type of
  a timer carries its callback and `armed` says whether the pointer is set.
* A node pointer (`NodePtr`) is the coordinator record of a client, a registry slot, or the
  temporary record `tinymac_recv_cb` builds for an unknown source.
* `Mac` is a context together with what it did: `out` lists its calls of the PHY and of the
  application's callbacks in order. `phyRc` is the PHY's answer to each `phy_send`.

Two fields are history, read by no branch: `built` counts the headers built by
`tinymac_tx_packet`, and `pendingId` is that count for the packet a node record holds. They give a
packet an identity that outlives its eight-bit sequence number.
-/

import TinyHan.Lib.Serial
import TinyHan.Mac.Frame
import Mathlib.Tactic.Simps.Basic

namespace TinyHan.Tinymac

open TinyHan.Lib

/-! ### Constants -/

/-- `TINYMAC_MAX_NODES`. -/
abbrev maxNodes : Nat := 32
/-- `TINYMAC_MAX_PAYLOAD`. -/
def maxPayload : Nat := 128
/-- `TINYMAC_MAX_RETRIES`. -/
def maxRetries : BitVec 8 := 3#8
/-- `TINYMAC_ACK_TIMEOUT` in milliseconds. -/
def ackTimeout : Nat := 250
/-- `TINYMAC_BEACON_REQUEST_TIMEOUT` in seconds. -/
def beaconRequestTimeout : Nat := 10
/-- `TINYMAC_REGISTRATION_TIMEOUT` in milliseconds. -/
def registrationTimeout : Nat := 1000
/-- `TINYMAC_HEARTBEAT_GRACE` in seconds. -/
def heartbeatGrace : Nat := 2
/-- `TINYMAC_LISTEN_PERIOD_US`. -/
def listenPeriodUs : Nat := 10000
/-- `TINYMAC_TICK_MS`. -/
def tickMs : Nat := 250

/-- `TINYMAC_MILLIS`. -/
def millis (ms : Nat) : BitVec 32 := BitVec.ofNat 32 (ms / tickMs)

/-- `TINYMAC_SECONDS`. -/
def seconds (s : Nat) : BitVec 32 := BitVec.ofNat 32 (s * 1000 / tickMs)

/-! ### Timers -/

/-- The functions the source installs as timer callbacks. -/
inductive TimerCb where
  | requestTimeout
  | validityTimeout
  | ackTimeout
  deriving DecidableEq, Repr

/-- A `tinymac_timer_t` whose callback pointer is `NULL` or the function `cb`. -/
structure Timer (cb : TimerCb) where
  armed : Bool
  expiry : BitVec 32
  deriving DecidableEq, Repr

/-- A timer in zeroed memory. -/
def Timer.zero {cb : TimerCb} : Timer cb := ⟨false, 0#32⟩

/-- `tinymac_set_timer` at tick `now`. -/
def tinymacSetTimer {cb : TimerCb} (_timer : Timer cb) (now delay : BitVec 32) : Timer cb :=
  ⟨true, now + delay⟩

/-- `tinymac_cancel_timer`. -/
def tinymacCancelTimer {cb : TimerCb} (timer : Timer cb) : Timer cb :=
  { timer with armed := false }

/-- The test of `tinymac_despatch_timer`: the callback is set and
`(int32_t)(tick_count - expiry) >= 0`. -/
def Timer.due {cb : TimerCb} (timer : Timer cb) (now : BitVec 32) : Bool :=
  timer.armed && decide (0 ≤ (now - timer.expiry).toInt)

@[simp] theorem set_armed {cb : TimerCb} (timer : Timer cb) (now delay : BitVec 32) :
    (tinymacSetTimer timer now delay).armed = true := rfl

@[simp] theorem set_expiry {cb : TimerCb} (timer : Timer cb) (now delay : BitVec 32) :
    (tinymacSetTimer timer now delay).expiry = now + delay := rfl

@[simp] theorem cancel_armed {cb : TimerCb} (timer : Timer cb) :
    (tinymacCancelTimer timer).armed = false := rfl

theorem due_of_disarmed {cb : TimerCb} {timer : Timer cb} (now : BitVec 32)
    (disarmed : timer.armed = false) : timer.due now = false := by
  simp [Timer.due, disarmed]

@[simp] theorem cancel_due {cb : TimerCb} (timer : Timer cb) (now : BitVec 32) :
    (tinymacCancelTimer timer).due now = false := rfl

theorem armed_of_due {cb : TimerCb} {timer : Timer cb} {now : BitVec 32}
    (due : timer.due now = true) : timer.armed = true := by
  cases h : timer.armed
  · rw [due_of_disarmed now h] at due
    cases due
  · rfl

/-- An armed timer close ahead is due when the clock shows its expiry. -/
theorem due_iff {cb : TimerCb} {timer : Timer cb} {now : BitVec 32} (armed : timer.armed = true)
    (near : 2 * ahead now timer.expiry ≤ 2 ^ 32) :
    timer.due now = true ↔ ahead now timer.expiry = 0 := by
  rw [← passed_iff near, Timer.due, armed, Bool.true_and, passed]

/-! ### Node records -/

/-- `tinymac_node_state_t`. -/
inductive NodeState where
  | unregistered
  | registered
  | sendPending
  | waitAck
  deriving DecidableEq, Repr

/-- A send callback of the application, by its identity; `NULL` is `none`. -/
abbrev SendCb := Nat

/-- `tinymac_node_t`. Only the first `pending_size` bytes of the pending buffer are ever read, so
`pending` is that prefix. -/
structure Node where
  uuid : BitVec 64
  lastHeard : BitVec 32
  flags : BitVec 16
  addr : BitVec 8
  rssi : BitVec 8
  state : NodeState
  pendingHeader : Header
  pending : List Byte
  sendCb : Option SendCb
  ackTimer : Timer .ackTimeout
  validityTimer : Timer .validityTimeout
  retries : BitVec 8
  pendingId : Nat
  deriving DecidableEq, Repr

/-- A node record in zeroed memory. -/
def Node.zero : Node where
  uuid := 0
  lastHeard := 0
  flags := 0
  addr := 0
  rssi := 0
  state := .unregistered
  pendingHeader := ⟨0, 0, 0, 0, 0⟩
  pending := []
  sendCb := none
  ackTimer := Timer.zero
  validityTimer := Timer.zero
  retries := 0
  pendingId := 0

/-- `node->flags & TINYMAC_ATTACH_FLAGS_SLEEPY`. -/
def Node.sleepy (node : Node) : Bool := node.flags &&& attachFlagsSleepy != 0#16

/-- `1 << (node->flags & TINYMAC_ATTACH_HEARTBEAT_MASK)`, in seconds. -/
def Node.heartbeat (node : Node) : Nat := 2 ^ (node.flags &&& attachHeartbeatMask).toNat

/-- A record is live when its state is not Unregistered. -/
def Node.live (node : Node) : Bool := node.state != .unregistered

theorem Node.live_iff (node : Node) : node.live = true ↔ node.state ≠ .unregistered := by
  simp [Node.live]

/-! ### Writes to a record -/

section Writes

variable (node : Node)

/-- `node->state = state`. -/
@[simps] def Node.setState (state : NodeState) : Node := { node with state := state }

/-- `tinymac_set_timer(&node->ack_timer, ...)` at tick `now`. -/
@[simps] def Node.armAck (now : BitVec 32) : Node :=
  { node with ackTimer := tinymacSetTimer node.ackTimer now (millis ackTimeout) }

/-- `tinymac_set_timer(&node->validity_timer, ...)` at tick `now`. -/
@[simps] def Node.armValidity (now : BitVec 32) (validity : BitVec 16) : Node :=
  { node with validityTimer := tinymacSetTimer node.validityTimer now (seconds validity.toNat) }

/-- `tinymac_cancel_timer(&node->ack_timer)`. -/
@[simps] def Node.cancelAck : Node := { node with ackTimer := tinymacCancelTimer node.ackTimer }

/-- `tinymac_cancel_timer(&node->validity_timer)`. -/
@[simps] def Node.cancelValidity : Node :=
  { node with validityTimer := tinymacCancelTimer node.validityTimer }

/-- `node->retries--`. -/
@[simps] def Node.countRetry : Node := { node with retries := node.retries - 1#8 }

/-- The time and signal strength of a frame heard from the node. -/
@[simps] def Node.heard (now : BitVec 32) (rssi : Int) : Node :=
  { node with lastHeard := now, rssi := BitVec.ofInt 8 rssi }

/-- The copy `tinymac_tx_packet` keeps for (re-)transmission. -/
@[simps] def Node.hold (id : Nat) (hdr : Header) (payload : List Byte) (cb : Option SendCb) :
    Node :=
  { node with
    pending := payload
    pendingHeader := hdr
    sendCb := cb
    retries := maxRetries
    pendingId := id }

/-- What a registration writes into its slot. -/
@[simps] def Node.register (attach : RegistrationRequest) (now : BitVec 32) : Node :=
  { node with
    state := .registered
    uuid := attach.uuid
    flags := attach.flags
    lastHeard := now }

end Writes

/-- A slot of the coordinator's node table. -/
abbrev Slot := Fin maxNodes

/-- A `tinymac_node_t*` that is not `NULL`. -/
inductive NodePtr where
  | coord
  | slot (index : Slot)
  | temp (node : Node)
  deriving DecidableEq, Repr

theorem coord_kept (node : Node) : NodePtr.coord ≠ .temp node := nofun

theorem slot_kept {index : Slot} (node : Node) : NodePtr.slot index ≠ .temp node := nofun

/-! ### The context -/

/-- `tinymac_client_state_t`. -/
inductive ClientState where
  | unregistered
  | beaconRequest
  | registering
  | registered
  deriving DecidableEq, Repr

/-- `tinymac_params_t`. -/
structure Params where
  uuid : BitVec 64
  coordinator : Bool
  flags : BitVec 16
  beaconInterval : BitVec 8
  beaconOffset : BitVec 8
  deriving DecidableEq, Repr

/-- `params.flags & TINYMAC_ATTACH_FLAGS_SLEEPY`. -/
def Params.sleepy (params : Params) : Bool := params.flags &&& attachFlagsSleepy != 0#16

/-- `tinymac_t`. The callbacks of the upper layer are only tested for `NULL`. -/
structure Ctx where
  params : Params
  phyMtu : Nat
  rxCb : Bool
  tickCount : BitVec 32
  netId : BitVec 8
  addr : BitVec 8
  dseq : BitVec 8
  slot : BitVec 16
  state : ClientState
  coord : Node
  timer : Timer .requestTimeout
  bseq : BitVec 8
  nodes : Slot → Node
  permitAttach : Bool
  regCb : Bool
  deregCb : Bool

/-- The context in zeroed memory. -/
def Ctx.zero : Ctx where
  params := ⟨0, false, 0, 0, 0⟩
  phyMtu := 0
  rxCb := false
  tickCount := 0
  netId := 0
  addr := 0
  dseq := 0
  slot := 0
  state := .unregistered
  coord := Node.zero
  timer := Timer.zero
  bseq := 0
  nodes := fun _ => Node.zero
  permitAttach := false
  regCb := false
  deregCb := false

section Writes

variable (ctx : Ctx)

/-- `++dseq`. -/
@[simps] def Ctx.nextSeq : Ctx := { ctx with dseq := ctx.dseq + 1#8 }

/-- `++bseq`. -/
@[simps] def Ctx.nextBeacon : Ctx := { ctx with bseq := ctx.bseq + 1#8 }

/-- `++slot`. -/
@[simps] def Ctx.nextSlot : Ctx := { ctx with slot := ctx.slot + 1#16 }

/-- `tick_count++`. -/
@[simps] def Ctx.nextTick : Ctx := { ctx with tickCount := ctx.tickCount + 1#32 }

/-- `tinymac_set_timer(&timer, tinymac_request_timeout, ...)`. -/
@[simps] def Ctx.armRequest (delay : BitVec 32) : Ctx :=
  { ctx with timer := tinymacSetTimer ctx.timer ctx.tickCount delay }

/-- `tinymac_cancel_timer(&timer)`. -/
@[simps] def Ctx.cancelRequest : Ctx := { ctx with timer := tinymacCancelTimer ctx.timer }

/-- `state = state`. -/
@[simps] def Ctx.setState (state : ClientState) : Ctx := { ctx with state := state }

/-- The three assignments that drop a client's registration. -/
@[simps] def Ctx.detach : Ctx :=
  { ctx with state := .unregistered, addr := addrUnassigned, netId := networkAny }

/-- The assignments that bind a client to the sender of a beacon, as its temporary coordinator. -/
@[simps] def Ctx.bind (hdr : Header) (uuid : BitVec 64) : Ctx :=
  { ctx with
    state := .registering
    netId := hdr.netId
    coord := { ctx.coord with
      state := .registered
      addr := hdr.srcAddr
      uuid := uuid
      flags := 0#16
      lastHeard := ctx.tickCount } }

/-- The assignments that accept a short address. -/
@[simps] def Ctx.attach (netId addr : BitVec 8) : Ctx :=
  { ctx with state := .registered, addr := addr, netId := netId }

end Writes

/-- The record behind a pointer. -/
def Ctx.node (ctx : Ctx) : NodePtr → Node
  | .coord => ctx.coord
  | .slot index => ctx.nodes index
  | .temp node => node

/-- A write through a pointer. The temporary record does not outlive the call that made it. -/
def Ctx.modify (ctx : Ctx) (ptr : NodePtr) (change : Node → Node) : Ctx :=
  match ptr with
  | .coord => { ctx with coord := change ctx.coord }
  | .slot index =>
      { ctx with nodes := Function.update ctx.nodes index (change (ctx.nodes index)) }
  | .temp _ => ctx

/-! ### What a context does -/

/-- The record of one `tinymac_tx_packet` call that passed its size check: the packet it built, the
destination record and the flags of that record, whether the busy check was passed, and what the
call returned. -/
structure TxCall where
  id : Nat
  dest : Option NodePtr
  destFlags : BitVec 16
  hdr : Header
  payload : List Byte
  cb : Option SendCb
  accepted : Bool
  rc : Int
  deriving DecidableEq, Repr

/-- One observable action of the MAC. -/
inductive Event where
  /-- `phy_send`; `packet` is the identity of the packet when `tinymac_tx_packet` built it. -/
  | phySend (packet : Option Nat) (frame : Frame) (flags : BitVec 8)
  | phyStandby
  | phyDelayedStandby (us : Nat)
  | phyListen
  /-- A return of `tinymac_tx_packet`. -/
  | txPacket (call : TxCall)
  /-- `send_cb` of a node record, for the packet the record holds. -/
  | sendCb (ptr : NodePtr) (packet : Nat) (cb : SendCb) (result : Int)
  | rxCb (ptr : Option NodePtr) (type : BitVec 8) (payload : List Byte)
  | regCb (ptr : Option NodePtr)
  | deregCb (ptr : NodePtr)
  deriving DecidableEq, Repr

/-- A context, what it has done so far, and the PHY below it: `phyRc` answers a `phy_send` made
when `out` has the given length. -/
structure Mac where
  ctx : Ctx
  out : List Event
  phyRc : Nat → Int
  built : Nat

/-- Log one event. -/
def Mac.emit (σ : Mac) (event : Event) : Mac := { σ with out := σ.out ++ [event] }

/-- A write to the context. -/
def Mac.update (σ : Mac) (change : Ctx → Ctx) : Mac := { σ with ctx := change σ.ctx }

/-- Take the next sequence number for a header. -/
@[simps] def Mac.nextSeq (σ : Mac) : Mac := { σ with ctx := σ.ctx.nextSeq, built := σ.built + 1 }

/-- The record behind a pointer. -/
def Mac.node (σ : Mac) (ptr : NodePtr) : Node := σ.ctx.node ptr

/-- A write through a pointer. -/
def Mac.modify (σ : Mac) (ptr : NodePtr) (change : Node → Node) : Mac :=
  { σ with ctx := σ.ctx.modify ptr change }

/-- `if (node->send_cb) node->send_cb(result)`. -/
def Mac.invokeSendCb (σ : Mac) (ptr : NodePtr) (result : Int) : Mac :=
  match (σ.node ptr).sendCb with
  | some cb => σ.emit (.sendCb ptr (σ.node ptr).pendingId cb result)
  | none => σ

end TinyHan.Tinymac
