/-
**Exactly-once completion of a send.**

Four events complete the packet a slot holds: its acknowledgement, the last ack timeout, the end of
its validity, and its release when it asks for no acknowledgement. As long as the state and the
timers of a slot go together (`Node.Timed`), the packet is outstanding exactly while one of the
timers runs, each of the four ends that, and the slot is a desk that issues one ticket at a time
(`Op.desk`).

A registration request resets the state of its slot and nothing else. The callback of the packet
that was outstanding is then lost to the next packet, and the timers of the old packet complete the
new one once more (`reregistration_completes_twice`). In every run whose registration requests find
their slot with both timers stopped, completion is exactly once (`send_completion_exactly_once`).
-/

import TinyHan.Lib.Ticket
import TinyHan.Coordinator.Revival

namespace TinyHan.Tinymac

open TinyHan.Lib Relation

/-! ### State and timers -/

/-- A timer of the record runs: the packet it holds is outstanding. -/
def Node.outstanding (node : Node) : Bool := node.ackTimer.armed || node.validityTimer.armed

/-- The state of a record and its timers go together. -/
structure Node.Timed (node : Node) : Prop where
  registered : node.state = .registered → node.outstanding = false
  pending : node.state = .sendPending →
    node.ackTimer.armed = false ∧ node.validityTimer.armed = true
  waiting : node.state = .waitAck → node.ackTimer.armed = true
  deferrable : node.ackTimer.armed = true → node.sleepy = true → node.validityTimer.armed = true

theorem Node.outstanding_eq_false {node : Node} :
    node.outstanding = false ↔ node.ackTimer.armed = false ∧ node.validityTimer.armed = false := by
  simp [Node.outstanding]

/-- A record at rest goes with every state that waits for nothing. -/
theorem Node.Timed.of_rest {node : Node} (rest : node.outstanding = false)
    (idle : node.state = .registered ∨ node.state = .unregistered) : node.Timed := by
  obtain ⟨ack, validity⟩ := Node.outstanding_eq_false.mp rest
  refine ⟨fun _ => rest, fun pending => ?_, fun waiting => ?_, fun armed => ?_⟩
  · rcases idle with state | state <;> rw [state] at pending <;> cases pending
  · rcases idle with state | state <;> rw [state] at waiting <;> cases waiting
  · rw [ack] at armed
    cases armed

/-- Dropping the registration of a record leaves its timers as they are. -/
theorem Node.Timed.unregister {node : Node} (timed : node.Timed) :
    (node.setState .unregistered).Timed where
  registered state := by cases state
  pending state := by cases state
  waiting state := by cases state
  deferrable := timed.deferrable

theorem Node.Timed.release {node : Node} (timed : node.Timed) (now : BitVec 32) :
    (node.release now).Timed := by
  unfold Node.release
  split_ifs with pending ack
  · exact ⟨nofun, nofun, fun _ => rfl,
      fun _ _ => (timed.pending pending).2⟩
  · refine .of_rest ?_ (.inl rfl)
    exact Node.outstanding_eq_false.mpr ⟨(timed.pending pending).1, rfl⟩
  · exact timed

theorem Node.Timed.accept {node : Node} (timed : node.Timed) (now : BitVec 32)
    (flagsType : BitVec 8) (validity : BitVec 16) (id : Nat) (hdr : Header) (payload : List Byte)
    (cb : Option SendCb) : (node.accept now flagsType validity id hdr payload cb).Timed := by
  unfold Node.accept
  split_ifs with busy sleepy ack
  · exact timed
  all_goals
    rw [not_not] at busy
    have rest := Node.outstanding_eq_false.mp (timed.registered busy)
  · exact ⟨nofun, fun _ => ⟨rest.1, rfl⟩, nofun,
      fun _ _ => rfl⟩
  · exact ⟨nofun, nofun, fun _ => rfl,
      fun _ asleep => absurd asleep sleepy⟩
  · exact timed

theorem Node.Timed.despatchAck {node : Node} (timed : node.Timed) (now : BitVec 32) :
    (node.despatchAck now).Timed := by
  unfold Node.despatchAck Node.ackExpire
  by_cases due : node.ackTimer.due now = true
  · rw [if_pos due]
    have armed := armed_of_due due
    split_ifs with retries sleepy
    · exact ⟨nofun, fun _ => ⟨rfl, timed.deferrable armed sleepy⟩,
        nofun, nofun⟩
    · refine ⟨fun state => ?_, fun state => ?_, fun _ => rfl, fun _ asleep => absurd asleep sleepy⟩
      · have rest := Node.outstanding_eq_false.mp (timed.registered state)
        rw [rest.1] at armed
        cases armed
      · rw [(timed.pending state).1] at armed
        cases armed
    · exact .of_rest rfl (.inr rfl)
  · rw [if_neg due]
    exact timed

theorem Node.Timed.despatchValidity {node : Node} (timed : node.Timed) (now : BitVec 32) :
    (node.despatchValidity now).Timed := by
  unfold Node.despatchValidity
  split_ifs with due
  · exact .of_rest rfl (.inl rfl)
  · exact timed

/-- A registration finds its slot with both timers stopped. -/
def Condition.rested : Condition :=
  ⟨fun _ _ node => node.outstanding = false, fun _ _ => True, True⟩

/-- **Every operation keeps state and timers together**, as long as registrations find their slots
at rest. -/
theorem SlotOp.timed {σ : Mac} {index : Slot} {node : Node} (op : SlotOp .rested σ index node)
    (timed : (σ.ctx.nodes index).Timed) : node.Timed := by
  cases op with
  | heard rssi live =>
      exact ⟨timed.registered, timed.pending, timed.waiting, timed.deferrable⟩
  | released => exact timed.release _
  | acked waiting => exact .of_rest rfl (.inl rfl)
  | accepted type validity payload cb live data => exact timed.accept ..
  | registered attach given fresh => exact .of_rest fresh (.inl rfl)
  | detached live => exact (timed.accept ..).unregister
  | expired idle => exact timed.unregister
  | ackDue timers => exact timed.despatchAck _
  | validityDue timers => exact timed.despatchValidity _

theorem timed_op {σ τ : Mac} (coordinator : Coordinator σ.ctx)
    (timed : ∀ index, (σ.ctx.nodes index).Timed) (op : Op .rested σ τ) (index : Slot) :
    (τ.ctx.nodes index).Timed := by
  rcases op.at_slot coordinator index with same | change
  · rw [same]
    exact timed index
  · exact change.timed (timed index)

/-! ### The desk of a coordinator -/

/-- `tinymac_tx_packet` kept a copy of the packet: it asks for an acknowledgement or its destination
is sleepy. -/
def TxCall.stored (call : TxCall) : Bool :=
  call.hdr.ackRequest || call.destFlags &&& attachFlagsSleepy != 0#16

/-- What an event means for the desk: an accepted packet with a callback is issued a ticket, and its
callback completes the ticket. -/
def Event.ticket : Event → Option (Ticket NodePtr Nat)
  | .txPacket call =>
      if call.accepted && call.cb.isSome && call.stored then
        call.dest.map fun ptr => .issue ptr call.id
      else none
  | .sendCb ptr packet _ _ => some (.complete ptr packet)
  | _ => none

theorem Event.ticket_silent {event : Event} (silent : event.silent) : event.ticket = none := by
  cases event <;> first | rfl | exact silent.elim

/-- The history of the desk. -/
def tickets (out : List Event) : List (Ticket NodePtr Nat) := out.filterMap Event.ticket

/-- The ticket of a record: the outstanding packet, if it has a callback. -/
def Node.ticket (node : Node) : Option Nat :=
  if node.outstanding && node.sendCb.isSome then some node.pendingId else none

/-- The tickets the slots hold. -/
def Ctx.held (ctx : Ctx) : NodePtr → Option Nat
  | .slot index => (ctx.nodes index).ticket
  | _ => none

/-- The desk of a coordinator. -/
def Mac.desk (σ : Mac) : Desk NodePtr Nat := ⟨σ.ctx.held, tickets σ.out⟩

@[simp] theorem tickets_append (one two : List Event) :
    tickets (one ++ two) = tickets one ++ tickets two := List.filterMap_append

@[simp] theorem tickets_nil : tickets [] = [] := rfl

@[simp] theorem tickets_cons (event : Event) (rest : List Event) :
    tickets (event :: rest) = event.ticket.toList ++ tickets rest := by
  cases ticket : event.ticket <;> simp [tickets, ticket]

theorem Node.ticket_rest {node : Node} (rest : node.outstanding = false) : node.ticket = none := by
  simp [Node.ticket, rest]

/-- The same outstanding packet is the same ticket. -/
theorem Node.ticket_congr {node node' : Node} (outstanding : node'.outstanding = node.outstanding)
    (cb : node'.sendCb = node.sendCb) (id : node'.pendingId = node.pendingId) :
    node'.ticket = node.ticket := by
  simp [Node.ticket, outstanding, cb, id]

section Desk

variable {σ τ : Mac} {index : Slot} {node : Node}

theorem held_eq_update (here : τ.ctx.nodes index = node)
    (others : ∀ other, other ≠ index → τ.ctx.nodes other = σ.ctx.nodes other) :
    τ.ctx.held = Function.update σ.ctx.held (.slot index) node.ticket := by
  funext ptr
  cases ptr with
  | slot other =>
      by_cases same : other = index
      · subst same
        rw [Function.update_self, Ctx.held, here]
      · rw [Function.update_of_ne (by simpa using same), Ctx.held, Ctx.held, others other same]
  | coord => rfl
  | temp node => rfl

/-- No slot changes its ticket and the log records none. -/
theorem desk_same (held : ∀ index, (τ.ctx.nodes index).ticket = (σ.ctx.nodes index).ticket)
    (log : tickets τ.out = tickets σ.out) : ReflGen Desk.Step σ.desk τ.desk := by
  have same : τ.desk = σ.desk := by
    rw [Mac.desk, Mac.desk, log]
    congr 1
    funext ptr
    cases ptr with
    | slot index => exact held index
    | coord => rfl
    | temp node => rfl
  rw [same]

variable (index node)

/-- One slot is written, its ticket stays, and the log records none. -/
theorem desk_kept (here : τ.ctx.nodes index = node)
    (others : ∀ other, other ≠ index → τ.ctx.nodes other = σ.ctx.nodes other)
    (ticket : node.ticket = (σ.ctx.nodes index).ticket) (log : tickets τ.out = tickets σ.out) :
    ReflGen Desk.Step σ.desk τ.desk := by
  refine desk_same (fun other => ?_) log
  by_cases same : other = index
  · rw [same, here, ticket]
  · rw [others other same]

/-- The outstanding packet of a slot is over and its callback, if any, was invoked. -/
theorem desk_completed (here : τ.ctx.nodes index = node)
    (others : ∀ other, other ≠ index → τ.ctx.nodes other = σ.ctx.nodes other)
    (before : (σ.ctx.nodes index).outstanding = true) (after : node.outstanding = false)
    (log : tickets τ.out = tickets σ.out ++ ((σ.ctx.nodes index).sendCb.map fun _ =>
      Ticket.complete (.slot index) (σ.ctx.nodes index).pendingId).toList) :
    ReflGen Desk.Step σ.desk τ.desk := by
  cases cb : (σ.ctx.nodes index).sendCb with
  | none =>
      refine desk_kept index node here others ?_ (by simpa [cb] using log)
      rw [Node.ticket_rest after]
      simp [Node.ticket, cb]
  | some cb =>
      have held : σ.desk.held (.slot index) = some (σ.ctx.nodes index).pendingId := by
        simp [Mac.desk, Ctx.held, Node.ticket, before, cb]
      have moved : τ.desk = σ.desk.complete (.slot index) (σ.ctx.nodes index).pendingId := by
        rw [Mac.desk, Desk.complete, held_eq_update here others, Node.ticket_rest after, log]
        simp [Mac.desk, cb]
      rw [moved]
      exact .single (.complete _ _ _ held)

end Desk

/-! ### What the functions record -/

section Tickets

variable (σ : Mac)

@[simp] theorem phySend_tickets (packet : Option Nat) (frame : Frame) (flags : BitVec 8) :
    tickets (tinymacPhySend σ packet frame flags).2.out = tickets σ.out := by
  unfold tinymacPhySend
  dsimp only
  split
  · split <;> simp [Event.ticket]
  · simp [Event.ticket]

@[simp] theorem invokeSendCb_tickets (ptr : NodePtr) (result : Int) :
    tickets (σ.invokeSendCb ptr result).out = tickets σ.out ++
      ((σ.ctx.node ptr).sendCb.map fun _ =>
        Ticket.complete ptr (σ.ctx.node ptr).pendingId).toList := by
  unfold Mac.invokeSendCb
  rw [mac_node]
  split
  · next cb held => simp [held, Event.ticket]
  · next held => simp [held]

@[simp] theorem deregister_tickets (index : Slot) :
    tickets (tinymacDeregisterNode σ (.slot index)).out = tickets σ.out := by
  unfold tinymacDeregisterNode
  simp only [reduceCtorEq, if_false]
  split <;> simp [Event.ticket]

/-- The ticket of a unicast: one for a packet that is kept and has a callback. -/
theorem txPacket_tickets (ptr : NodePtr) (flagsType : BitVec 8) (buf : List Byte)
    (validity : BitVec 16) (cb : Option SendCb) :
    tickets (tinymacTxPacket σ (some ptr) flagsType buf validity cb).2.out = tickets σ.out ++
      if σ.ctx.fits buf ∧ (σ.ctx.node ptr).state = .registered ∧ cb.isSome = true ∧
          (ackRequested flagsType = true ∨ (σ.ctx.node ptr).sleepy = true) then
        [Ticket.issue ptr (σ.built + 1)]
      else [] := by
  by_cases fits : σ.ctx.fits buf
  · by_cases idle : (σ.ctx.node ptr).state = .registered
    · cases sleepy : (σ.ctx.node ptr).sleepy
      · cases ack : ackRequested flagsType
        · rw [txPacket_plain _ _ _ _ _ _ fits idle sleepy ack]
          have awake : (σ.ctx.node ptr).flags &&& attachFlagsSleepy = 0#16 := by
            simpa [Node.sleepy] using sleepy
          simp [Event.ticket, TxCall.stored, ack, awake]
        · rw [txPacket_ack _ _ _ _ _ _ fits idle sleepy ack]
          cases cb <;> simp [Event.ticket, TxCall.stored, ack, fits, idle]
      · rw [txPacket_sleepy _ _ _ _ _ _ fits idle sleepy]
        have asleep : (σ.ctx.node ptr).flags &&& attachFlagsSleepy ≠ 0#16 := by
          simpa [Node.sleepy] using sleepy
        cases cb <;> simp [Event.ticket, TxCall.stored, asleep, fits, idle]
    · rw [txPacket_busy _ _ _ _ _ _ fits idle]
      simp [Event.ticket, idle]
  · rw [txPacket_oversize _ _ _ _ _ _ fits]
    simp [fits]

theorem respond_tickets (resp : RegistrationResponse) :
    tickets (σ.respond resp).out = tickets σ.out := by
  rw [Mac.respond]
  by_cases fits : σ.ctx.fits resp.bytes
  · rw [txPacket_broadcast _ _ _ _ _ fits]
    simp [Event.ticket]
  · rw [txPacket_oversize _ _ _ _ _ _ fits]

end Tickets

/-! ### Every operation is a move of the desk -/

/-- Every ticket issued so far has the number of a packet that was built. -/
def Numbered (σ : Mac) : Prop := ∀ ptr id, Ticket.issue ptr id ∈ tickets σ.out → id ≤ σ.built

section Moves

variable {σ : Mac} (index : Slot)

theorem desk_release (timed : (σ.ctx.nodes index).Timed) :
    ReflGen Desk.Step σ.desk (tinymacTxPending σ (.slot index)).desk := by
  by_cases pending : (σ.ctx.nodes index).state = .sendPending
  · have armed := (timed.pending pending).2
    have here : (tinymacTxPending σ (.slot index)).ctx.nodes index =
        (σ.ctx.nodes index).release σ.ctx.tickCount := by
      rw [txPending_ctx, modify_slot_nodes_self]
    have others (other : Slot) (different : other ≠ index) :
        (tinymacTxPending σ (.slot index)).ctx.nodes other = σ.ctx.nodes other := by
      rw [txPending_ctx, modify_slot_nodes_of_ne _ _ different]
    cases ack : (σ.ctx.nodes index).pendingHeader.ackRequest
    · refine desk_completed index _ here others (by simp [Node.outstanding, armed]) ?_ ?_
      · simp [Node.release, pending, ack, Node.outstanding, (timed.pending pending).1]
      · rw [txPending_plain σ (.slot index) pending ack]
        simp
    · refine desk_kept index _ here others (Node.ticket_congr ?_ ?_ ?_) ?_
      · simp [Node.release, pending, ack, Node.outstanding, armed]
      · simp [Node.release, pending, ack]
      · simp [Node.release, pending, ack]
      · rw [txPending_ack σ (.slot index) pending ack]
        simp
  · rw [txPending_idle σ (.slot index) pending]

theorem desk_acked (timed : (σ.ctx.nodes index).Timed) (hdr : Header) :
    ReflGen Desk.Step σ.desk (tinymacRxAck σ (some (.slot index)) hdr).desk := by
  rw [rxAck_eq]
  split
  · next waiting =>
    refine desk_completed index (σ.ctx.nodes index).acked ?_ ?_ ?_ ?_ ?_
    · simp
    · intro other different
      simp [different]
    · simp [Node.outstanding, timed.waiting waiting.1]
    · rfl
    · simp [Node.acked]
  · exact .refl

theorem desk_ackDue (timed : (σ.ctx.nodes index).Timed) :
    ReflGen Desk.Step σ.desk (tinymacDespatchTimer σ (.ack (.slot index))).desk := by
  have here : (tinymacDespatchTimer σ (.ack (.slot index))).ctx.nodes index =
      (σ.ctx.nodes index).despatchAck σ.ctx.tickCount := by
    rw [despatchAck_slot_ctx, modify_slot_nodes_self]
  have others (other : Slot) (different : other ≠ index) :
      (tinymacDespatchTimer σ (.ack (.slot index))).ctx.nodes other = σ.ctx.nodes other := by
    rw [despatchAck_slot_ctx, modify_slot_nodes_of_ne _ _ different]
  by_cases due : (σ.ctx.nodes index).ackTimer.due σ.ctx.tickCount = true
  · have armed := armed_of_due due
    have isDue : σ.timerDue (.ack (.slot index)) = true := due
    by_cases exhausted : (σ.ctx.nodes index).retries = 0#8
    · refine desk_completed index _ here others (by simp [Node.outstanding, armed]) ?_ ?_
      · simp [Node.despatchAck, due, Node.ackExpire, exhausted, Node.outstanding]
      · rw [tinymacDespatchTimer, if_pos isDue]
        simp [Mac.timerCallback, Mac.clearTimer, tinymacAckTimeout, exhausted]
    · refine desk_kept index _ here others ?_ ?_
      · cases sleepy : (σ.ctx.nodes index).sleepy
        · refine Node.ticket_congr ?_ ?_ ?_ <;>
            simp [Node.despatchAck, due, Node.ackExpire, exhausted, sleepy, Node.outstanding, armed]
        · have valid := timed.deferrable armed sleepy
          refine Node.ticket_congr ?_ ?_ ?_ <;>
            simp [Node.despatchAck, due, Node.ackExpire, exhausted, sleepy, Node.outstanding, valid]
      · rw [tinymacDespatchTimer, if_pos isDue]
        unfold Mac.timerCallback Mac.clearTimer tinymacAckTimeout
        dsimp only
        split_ifs with retries sleepy
        · rfl
        · simp
        · simp [exhausted] at retries
  · have notDue : ¬ σ.timerDue (.ack (.slot index)) = true := due
    rw [tinymacDespatchTimer, if_neg notDue]

theorem desk_validityDue :
    ReflGen Desk.Step σ.desk (tinymacDespatchTimer σ (.validity (.slot index))).desk := by
  by_cases due : (σ.ctx.nodes index).validityTimer.due σ.ctx.tickCount = true
  · have armed := armed_of_due due
    have isDue : σ.timerDue (.validity (.slot index)) = true := due
    refine desk_completed index ((σ.ctx.nodes index).despatchValidity σ.ctx.tickCount) ?_ ?_
      (by simp [Node.outstanding, armed]) ?_ ?_
    · rw [despatchValidity_slot_ctx, modify_slot_nodes_self]
    · intro other different
      rw [despatchValidity_slot_ctx, modify_slot_nodes_of_ne _ _ different]
    · simp [Node.despatchValidity, due, Node.outstanding]
    · rw [tinymacDespatchTimer, if_pos isDue]
      simp [Mac.timerCallback, Mac.clearTimer, tinymacValidityTimeout]
  · have notDue : ¬ σ.timerDue (.validity (.slot index)) = true := due
    rw [tinymacDespatchTimer, if_neg notDue]

/-- A packet that is kept takes a ticket from a slot at rest. -/
theorem desk_txPacket (timed : (σ.ctx.nodes index).Timed) (numbered : Numbered σ)
    (flagsType : BitVec 8) (buf : List Byte) (validity : BitVec 16) (cb : Option SendCb) :
    ReflGen Desk.Step σ.desk
      (tinymacTxPacket σ (some (.slot index)) flagsType buf validity cb).2.desk := by
  have log := txPacket_tickets σ (.slot index) flagsType buf validity cb
  by_cases fits : σ.ctx.fits buf
  case neg => rw [txPacket_oversize _ _ _ _ _ _ fits]
  set τ := (tinymacTxPacket σ (some (.slot index)) flagsType buf validity cb).2 with sent
  have here : τ.ctx.nodes index = (σ.ctx.nodes index).accept σ.ctx.tickCount flagsType validity
      (σ.built + 1) (σ.ctx.buildHeader (some (.slot index)) flagsType) buf cb := by
    rw [sent, txPacket_unicast_ctx _ _ _ _ _ _ fits, modify_slot_nodes_self]
    rfl
  have others (other : Slot) (different : other ≠ index) :
      τ.ctx.nodes other = σ.ctx.nodes other := by
    rw [sent, txPacket_unicast_ctx _ _ _ _ _ _ fits, modify_slot_nodes_of_ne _ _ different]
    rfl
  by_cases idle : (σ.ctx.nodes index).state = .registered
  case neg =>
    refine desk_kept index _ here others ?_ (by simpa [idle] using log)
    simp [Node.accept, idle]
  have rest := timed.registered idle
  by_cases stored : ackRequested flagsType = true ∨ (σ.ctx.nodes index).sleepy = true
  case neg =>
    rw [not_or, Bool.not_eq_true, Bool.not_eq_true] at stored
    refine desk_kept index _ here others ?_ (by simpa [stored] using log)
    simp [Node.accept, idle, stored]
  have ticket : ((σ.ctx.nodes index).accept σ.ctx.tickCount flagsType validity (σ.built + 1)
      (σ.ctx.buildHeader (some (.slot index)) flagsType) buf cb).ticket =
        if cb.isSome then some (σ.built + 1) else none := by
    cases sleepy : (σ.ctx.nodes index).sleepy
    · have ack := stored.resolve_right (by simp [sleepy])
      simp [Node.accept, idle, sleepy, ack, Node.ticket, Node.outstanding]
    · simp [Node.accept, idle, sleepy, Node.ticket, Node.outstanding]
  cases cb with
  | none =>
      refine desk_kept index _ here others ?_ (by simpa using log)
      rw [ticket, Node.ticket_rest rest]
      rfl
  | some cb =>
      have moved : τ.desk = σ.desk.issue (.slot index) (σ.built + 1) := by
        rw [Mac.desk, Desk.issue, held_eq_update here others, ticket, log]
        simp [Mac.desk, fits, idle, stored]
      rw [moved]
      refine .single (.issue _ _ _ (Node.ticket_rest rest) fun other issued => ?_)
      have bound := numbered other _ issued
      omega

/-- Giving up a registration is no move. -/
theorem desk_deregister :
    ReflGen Desk.Step σ.desk (tinymacDeregisterNode σ (.slot index)).desk := by
  refine desk_kept index ((σ.ctx.nodes index).setState .unregistered) ?_ ?_ rfl (by simp)
  · rw [deregister_slot_ctx, modify_slot_nodes_self]
  · intro other different
    rw [deregister_slot_ctx, modify_slot_nodes_of_ne _ _ different]

end Moves

theorem Numbered.op {ok : Condition} {σ τ : Mac} (coordinator : Coordinator σ.ctx)
    (numbered : Numbered σ) (op : Op ok σ τ) : Numbered τ := by
  intro ptr id issued
  rw [tickets, List.mem_filterMap] at issued
  obtain ⟨event, logged, ticket⟩ := issued
  rcases (op.emits coordinator).mem logged with old | new
  · exact (numbered ptr id (List.mem_filterMap.mpr ⟨event, old, ticket⟩)).trans op.built_le
  · cases new with
    | called dest type payload packet counted flags cb accepted rc refused unicast =>
        simp only [Event.ticket, Option.ite_none_right_eq_some, Option.map_eq_some_iff] at ticket
        obtain ⟨-, other, -, same⟩ := ticket
        cases same
        exact counted.ge
    | silent event is =>
        rw [Event.ticket_silent is] at ticket
        cases ticket
    | _ => cases ticket

/-- **Every operation is a move of the desk, or none**, as long as registrations find their slots at
rest. -/
theorem Op.desk {σ τ : Mac} (op : Op .rested σ τ) (coordinator : Coordinator σ.ctx)
    (timed : ∀ index, (σ.ctx.nodes index).Timed) (numbered : Numbered σ) :
    ReflTransGen Desk.Step σ.desk τ.desk := by
  cases op with
  | event event silent =>
      refine ReflGen.to_reflTransGen ?_
      refine desk_same (fun _ => rfl) ?_
      simp [Event.ticket_silent silent]
  | clock | setting => exact .refl
  | beacon periodic =>
      rw [tinymacTxBeacon, if_neg (by simp [coordinator.role])]
      exact (desk_same (by simp) (by simp)).to_reflTransGen
  | hear index rssi live =>
      refine ReflGen.to_reflTransGen ?_
      refine desk_kept index ((σ.ctx.nodes index).heard σ.ctx.tickCount rssi) ?_ ?_ rfl rfl
      · simp
      · intro other different
        simp [different]
  | ackFrame index seq live => exact (desk_same (by simp) (by simp)).to_reflTransGen
  | release index => exact (desk_release index (timed index)).to_reflTransGen
  | acked index hdr heard => exact (desk_acked index (timed index) hdr).to_reflTransGen
  | send index type buf validity cb live data =>
      exact (desk_txPacket index (timed index) numbered type buf validity cb).to_reflTransGen
  | register attach fresh =>
      refine (desk_same (fun index => ?_) ?_).to_reflTransGen
      · rw [respond_nodes coordinator]
        unfold Mac.registerSlot
        split
        · next given slot =>
          by_cases here : index = given
          · subst here
            have rest : (σ.ctx.nodes index).outstanding = false := fresh index slot
            rw [mac_modify_ctx, modify_slot_nodes_self, Node.ticket_rest rest]
            exact Node.ticket_rest rest
          · rw [mac_modify_ctx, modify_slot_nodes_of_ne _ _ here]
        · rfl
      · rw [respond_tickets, registerSlot_out]
  | expel hdr =>
      rw [tinymacRecvUnknown, if_pos coordinator.role]
      refine (desk_same (fun index => ?_) ?_).to_reflTransGen
      · rw [txPacket_unicast_ctx _ _ _ _ _ _ (coordinator.fits (response_short _))]
        rfl
      · rw [txPacket_tickets]
        simp
  | detach index live =>
      exact (desk_txPacket index (timed index) numbered _ _ _ _).to_reflTransGen.trans
        (desk_deregister index).to_reflTransGen
  | heartbeat index expired => exact (desk_deregister index).to_reflTransGen
  | ackDue index timers => exact (desk_ackDue index (timed index)).to_reflTransGen
  | validityDue index timers => exact (desk_validityDue index).to_reflTransGen

/-! ### Exactly once -/

/-- A tracked send: it returned 0, it has a callback, and it asks for an acknowledgement or its
destination is sleepy. -/
def TxCall.tracked (call : TxCall) : Bool := call.rc == 0 && call.cb.isSome && call.stored

/-- The event is the callback of the packet. -/
def Event.completes (id : Nat) : Event → Bool
  | .sendCb _ packet _ _ => packet == id
  | _ => false

/-- Completion is exactly once in a log: the callback of a tracked send is invoked at most once, and
a tracked send is only accepted after the callbacks of the earlier ones to the same node. -/
structure CompletesOnce (out : List Event) : Prop where
  atMostOnce : ∀ call, .txPacket call ∈ out → call.tracked = true →
    out.countP (Event.completes call.id) ≤ 1
  exclusive : ∀ before after call, out = before ++ .txPacket call :: after → call.tracked = true →
    ∀ earlier, .txPacket earlier ∈ before → earlier.tracked = true → earlier.dest = call.dest →
      ∃ event ∈ before, event.completes earlier.id = true

/-- Every tracked send in the log was issued a ticket. -/
def Ticketed (σ : Mac) : Prop :=
  ∀ call, Event.txPacket call ∈ σ.out → call.tracked = true →
    ∃ ptr, call.dest = some ptr ∧ (Event.txPacket call).ticket = some (.issue ptr call.id)

theorem Ticketed.op {ok : Condition} {σ τ : Mac} (coordinator : Coordinator σ.ctx)
    (ticketed : Ticketed σ) (op : Op ok σ τ) : Ticketed τ := by
  intro call logged tracked
  rcases (op.emits coordinator).mem logged with old | new
  · exact ticketed call old tracked
  · cases new with
    | silent _ is => exact is.elim
    | called dest type payload packet counted flags cb accepted rc refused unicast =>
        simp only [TxCall.tracked, Bool.and_eq_true, beq_iff_eq] at tracked
        obtain ⟨⟨zero, callback⟩, stored⟩ := tracked
        obtain ⟨ptr, rfl⟩ := Option.isSome_iff_exists.mp (unicast callback)
        cases accepted with
        | false =>
            rw [refused rfl] at zero
            cases zero
        | true => exact ⟨ptr, rfl, by simp [Event.ticket, callback, stored]⟩

/-- A log with an orderly desk completes once. -/
theorem completesOnce_of_orderly {σ : Mac} (orderly : σ.desk.Orderly) (ticketed : Ticketed σ) :
    CompletesOnce σ.out where
  atMostOnce call _ _ := by
    have same (event : Event) : event.completes call.id =
        (event.ticket.map (Ticket.completes call.id)).getD false := by
      cases event with
      | txPacket other =>
          show false = _
          simp only [Event.ticket]
          split
          · cases other.dest <;> rfl
          · rfl
      | _ => rfl
    rw [funext same, ← List.countP_filterMap]
    exact orderly.once call.id
  exclusive before after call split tracked earlier logged trackedEarlier same := by
    obtain ⟨ptr, dest, ticket⟩ := ticketed call (by rw [split]; simp) tracked
    obtain ⟨other, destEarlier, ticketEarlier⟩ :=
      ticketed earlier (by rw [split]; exact List.mem_append_left _ logged) trackedEarlier
    obtain rfl : other = ptr := by
      rw [destEarlier, dest, Option.some.injEq] at same
      exact same
    have history : σ.desk.history = tickets before ++ .issue other call.id :: tickets after := by
      rw [Mac.desk, split, tickets_append, tickets_cons, ticket]
      rfl
    have issued : Ticket.issue other earlier.id ∈ tickets before :=
      List.mem_filterMap.mpr ⟨_, logged, ticketEarlier⟩
    obtain ⟨event, member, completed⟩ :=
      List.mem_filterMap.mp (orderly.exclusive history issued)
    refine ⟨event, member, ?_⟩
    cases event with
    | sendCb at_ packet cb result =>
        cases completed
        exact beq_self_eq_true _
    | txPacket call =>
        simp [Event.ticket] at completed
    | _ => cases completed

/-- Everything the completion argument keeps. -/
structure Ledger (σ : Mac) : Prop where
  timed : ∀ index, (σ.ctx.nodes index).Timed
  numbered : Numbered σ
  orderly : σ.desk.Orderly

theorem Ledger.start (boot : Boot) : Ledger boot.start where
  timed index := by
    rw [start_nodes]
    exact .of_rest rfl (.inr rfl)
  numbered ptr id issued := by
    rw [start_out] at issued
    split at issued <;> cases issued
  orderly := by
    have empty : boot.start.desk = ⟨fun _ => none, []⟩ := by
      rw [Mac.desk, start_out]
      congr 1
      · funext ptr
        cases ptr with
        | slot index =>
            rw [Ctx.held, start_nodes]
            rfl
        | coord => rfl
        | temp node => rfl
      · split <;> rfl
    rw [empty]
    exact .empty

theorem Ledger.op {σ τ : Mac} (coordinator : Coordinator σ.ctx) (ledger : Ledger σ)
    (op : Op .rested σ τ) : Ledger τ where
  timed := timed_op coordinator ledger.timed op
  numbered := ledger.numbered.op coordinator op
  orderly := ledger.orderly.steps (op.desk coordinator ledger.timed ledger.numbered)

/-- A registration request that reaches its handler finds its slot with both timers stopped there.
The slot may have had a packet pending before that the frame itself released. -/
def Ctx.RegistersAtRest (ctx : Ctx) : Input → Prop
  | .recv buf size rssi => ctx.reachesRegistration buf size = true →
      let entered := ctx.hear (readHeader buf) rssi
      ∀ index, entered.registrationSlot (readRegistrationRequest buf).uuid = some index →
        (entered.nodes index).ackTimer.armed = false ∧
          (entered.nodes index).validityTimer.armed = false
  | _ => True

theorem admits_rested {ctx : Ctx} {input : Input} (rest : ctx.RegistersAtRest input) :
    ctx.admits .rested input := by
  cases input with
  | recv buf size rssi =>
      refine ⟨fun reaches index given => ?_, fun _ _ _ _ => trivial⟩
      exact Node.outstanding_eq_false.mpr (rest reaches index given)
  | tick => trivial
  | _ => trivial

/-- **Exactly-once send completion** in every run of a coordinator whose registration requests find
their slots with both timers stopped. -/
theorem send_completion_exactly_once (boot : Boot) (role : boot.params.coordinator = true)
    (inputs : List Input) (rest : boot.start.Along Ctx.RegistersAtRest inputs) :
    CompletesOnce (boot.start.run inputs).out := by
  have reached := run_induction (P := fun σ => Ledger σ ∧ Ticketed σ)
    (fun coordinator holds op => ⟨holds.1.op coordinator op, holds.2.op coordinator op⟩)
    (fun _ _ rest => admits_rested rest)
    (start_coordinator boot role) ⟨.start boot, fun call logged => ?_⟩ inputs rest
  · exact completesOnce_of_orderly reached.2.1.orderly reached.2.2
  · rw [start_out] at logged
    split at logged <;> simp at logged

/-- A sleepy node is sent a packet, polls for it, and registers again before it acknowledges. The
next packet is accepted while the first callback is outstanding, and is completed twice: when the
node polls for it, and again after the ack timer of the first packet has put it back. -/
theorem reregistration_completes_twice :
    let attach : Input := .frame (registrationRequestFrame 0x2A#8 1#8 ⟨1#64, 0x10#16⟩) 0
    let poll : Input := .frame (pollFrame 0x2A#8 1#8 2#8) 0
    let σ := (Boot.coordinatorOn 0x2A#8).start.run
      [.permitAttach true, attach, .send 1#8 0x50#8 [7#8] 60#16 (some 100), poll, attach,
        .send 1#8 0x10#8 [8#8] 60#16 (some 101), poll, .tick, .tick, poll]
    σ.out.countP (Event.completes 2) = 0 ∧ σ.out.countP (Event.completes 4) = 2 ∧
      ¬ CompletesOnce σ.out := by
  refine ⟨by decide +kernel, by decide +kernel, fun once => ?_⟩
  have counted := once.atMostOnce
    ⟨4, some (.slot 0), 0x10#16, ⟨0x10#16, 0x2A#8, 1#8, 0#8, 0x2E#8⟩, [8#8], some 101, true, 0⟩
    (by decide +kernel) (by decide +kernel)
  revert counted
  decide +kernel

/-- A packet for a sleepy node that polls and acknowledges. -/
theorem send_completion_exactly_once_poll :
    CompletesOnce ((Boot.coordinatorOn 0x2A#8).start.run
      [.permitAttach true, .frame (registrationRequestFrame 0x2A#8 1#8 ⟨1#64, 0x10#16⟩) 0,
        .send 1#8 0x50#8 [7#8] 60#16 (some 100), .frame (pollFrame 0x2A#8 1#8 2#8) 0,
        .frame ⟨⟨headerFlags PacketType.ack.code, 0x2A#8, 0#8, 1#8, 0x2C#8⟩, []⟩ 0]).out :=
  send_completion_exactly_once (Boot.coordinatorOn 0x2A#8) rfl _
    ⟨trivial, fun _ index _ => by revert index; decide +kernel, trivial,
      fun reaches => absurd reaches (by decide +kernel),
      fun reaches => absurd reaches (by decide +kernel), trivial⟩

end TinyHan.Tinymac
