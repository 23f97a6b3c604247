/-
**Delivery reports of a coordinator.**

The coordinator reports a packet as delivered (send callback with result 0) when it hears an
acknowledgement with the sequence number of the packet it waits for. The acknowledgement was
provoked by some copy of some packet, maybe much earlier, and names it by eight bits.

`Witnessed` follows the acknowledgements over the air: each of them was provoked by a packet of the
coordinator to the client that sent it, and the client has handed that packet to its application. As
long as no acknowledgement is heard after 256 more sequence numbers were taken (`Net.timely`), every
report is true (`reports_true`). Numbers are taken by rejected packets as well, so the bound is not
one on the packets that are accepted (`false_report`).
-/

import TinyHan.Network.Addressing
import TinyHan.Client.Uplink
import TinyHan.Coordinator.Sequence

namespace TinyHan.Tinymac

open TinyHan.Lib

section Network

variable {ι : Type} [DecidableEq ι]

/-! ### Deliveries -/

/-- A client whose short address was `addr` has handed the packet to its application. -/
def Net.Delivered (net : Net ι) (addr type : BitVec 8) (payload : List Byte) : Prop :=
  ∃ move ∈ net.history, move.party ≠ .coordinator ∧ move.before.ctx.addr = addr ∧
    (type, payload) ∈ deliveries (move.after.out.drop move.before.out.length)

/-- The frame has been delivered if it is data. -/
def Net.Received (net : Net ι) (frame : Frame) : Prop :=
  typeRawData ≤ frame.hdr.type → net.Delivered frame.hdr.destAddr frame.hdr.type frame.payload

/-- No false delivery report: data that asked for an acknowledgement, and whose send callback the
coordinator has invoked with result 0, has been delivered. -/
def Net.Truthful (net : Net ι) : Prop :=
  ∀ ptr cb call, .txPacket call ∈ (net.device .coordinator).out → call.accepted = true →
    call.hdr.ackRequest = true → typeRawData ≤ call.hdr.type →
    .sendCb ptr call.id cb 0 ∈ (net.device .coordinator).out →
    net.Delivered call.hdr.destAddr call.hdr.type call.payload

/-- Clients have a receive callback when they hear a frame. -/
def Net.upcalls (net : Net ι) : Act ι → Prop
  | .hear (.client index) _ _ _ => (net.device (.client index)).ctx.rxCb = true
  | _ => True

/-- When the coordinator takes an acknowledgement, `tinymac_tx_packet` has taken fewer than 256
sequence numbers since it built the packet that provoked it. -/
def Net.timely (net : Net ι) : Act ι → Prop
  | .hear .coordinator number rssi _ =>
      ∀ ack, net.medium.deliverable .coordinator number = some ack →
        (net.device .coordinator).ctx.TakesAck ack.message.frame.hdr
          ack.message.frame.bytes.length rssi →
        ∀ cause sent packet, ack.cause = some cause → net.medium.sent[cause]? = some sent →
          sent.sender = .coordinator → sent.message.packet = some packet →
          (net.device .coordinator).built - packet < 256
  | _ => True

variable {net : Net ι}

omit [DecidableEq ι] in
theorem Net.Delivered.mono {after : Net ι} {addr type : BitVec 8} {payload : List Byte}
    (delivered : net.Delivered addr type payload)
    (grown : ∀ move ∈ net.history, move ∈ after.history) : after.Delivered addr type payload := by
  obtain ⟨move, member, here⟩ := delivered
  exact ⟨move, grown move member, here⟩

theorem Net.Received.step {frame : Frame} (received : net.Received frame) (party : Party ι)
    (cause : Option Nat) (input : Input) : (net.step party cause input).Received frame :=
  fun data => (received data).mono fun _ member => List.mem_append_left _ member

/-! ### Acknowledgements -/

/-- The acknowledgement was provoked by a packet of the coordinator to its sender, which has
received it. -/
structure Net.Confirms (net : Net ι) (ack : Sent (Party ι) Airing) (number : Nat)
    (sent : Sent (Party ι) Airing) (call : TxCall) : Prop where
  cause : ack.cause = some number
  found : net.medium.sent[number]? = some sent
  sender : sent.sender = .coordinator
  packet : sent.message.packet = some call.id
  logged : .txPacket call ∈ (net.device .coordinator).out
  accepted : call.accepted = true
  asks : call.hdr.ackRequest = true
  dest : call.hdr.destAddr = ack.message.frame.hdr.srcAddr
  seq : call.hdr.seq = ack.message.frame.hdr.seq
  received : net.Received ⟨call.hdr, call.payload⟩

/-- Every acknowledgement on the air is confirmed, and every report is true. -/
structure Witnessed (setup : Setup ι) (net : Net ι) : Prop where
  backs : setup.Backs net
  uplink : ∀ index, Uplink (net.device (.client index))
  genuine : ∀ (number : Nat) (sent : Sent (Party ι) Airing), net.medium.sent[number]? = some sent →
    sent.message.frame.Genuine
  origin : ∀ (number : Nat) (sent : Sent (Party ι) Airing), net.medium.sent[number]? = some sent →
    sent.message.frame.hdr.srcAddr = 0#8 → sent.sender = .coordinator
  acks : ∀ (number : Nat) (ack : Sent (Party ι) Airing), net.medium.sent[number]? = some ack →
    ack.sender ≠ .coordinator → ack.message.frame.hdr.type = PacketType.ack.code →
    ∃ provoking sent call, net.Confirms ack provoking sent call
  reports : Reports net.Received (net.device .coordinator)

variable {setup : Setup ι}

omit [DecidableEq ι] in
theorem Setup.Backs.sequenced (backs : setup.Backs net) :
    Sequenced ((setup.coordinator.rand 1).setWidth 8) (net.device .coordinator) := by
  obtain ⟨inputs, reached⟩ := backs.reached .coordinator
  rw [reached]
  exact reachable_sequenced _ setup.isCoordinator inputs

/-- What the coordinator has logged stays logged. -/
theorem Setup.Backs.logged_step (backs : setup.Backs net) {event : Event}
    (logged : event ∈ (net.device .coordinator).out) (party : Party ι) (cause : Option Nat)
    (input : Input) : event ∈ ((net.step party cause input).device .coordinator).out := by
  by_cases same : Party.coordinator = party
  · subst same
    rw [step_device_self]
    exact (backs.grows _ input).mem_of_mem logged
  · rw [step_device_ne same]
    exact logged

theorem Net.Confirms.step {ack sent : Sent (Party ι) Airing} {number : Nat} {call : TxCall}
    (confirms : net.Confirms ack number sent call) (backs : setup.Backs net) (party : Party ι)
    (cause : Option Nat) (input : Input) :
    (net.step party cause input).Confirms ack number sent call where
  cause := confirms.cause
  found := sent_put confirms.found ..
  sender := confirms.sender
  packet := confirms.packet
  logged := backs.logged_step confirms.logged party cause input
  accepted := confirms.accepted
  asks := confirms.asks
  dest := confirms.dest
  seq := confirms.seq
  received := confirms.received.step party cause input

omit [DecidableEq ι] in
theorem Reports.mono {good better : Frame → Prop} {σ : Mac} (reports : Reports good σ)
    (weaker : ∀ frame, good frame → better frame) : Reports better σ := by
  intro ptr packet cb reported
  obtain ⟨built, each⟩ := reports ptr packet cb reported
  exact ⟨built, fun call logged accepted asks is => weaker _ (each call logged accepted asks is)⟩

/-! ### A step of a client -/

/-- Data that a client attends to is delivered in the step that hears it. -/
theorem delivered_step {index : ι} {number : Option Nat} {frame : Frame} {rssi : Int}
    (client : Client (net.device (.client index)).ctx)
    (assigned : (net.device (.client index)).ctx.addr ≠ addrUnassigned)
    (attends : (net.device (.client index)).ctx.attends (readHeader frame.memory)
      frame.bytes.length = true)
    (dest : frame.hdr.destAddr = (net.device (.client index)).ctx.addr)
    (upcall : (net.device (.client index)).ctx.rxCb = true) :
    (net.step (.client index) number (.frame frame rssi)).Received frame := by
  intro data
  refine ⟨_, List.mem_append_right _ (List.mem_singleton_self _), nofun, dest.symm, ?_⟩
  have ready : Emits (fun _ => True) (net.device (.client index)) _ :=
    (recvStandby_emits _ frame.hdr fun _ _ => trivial).trans
      (recvKnown_emits _ .coord coord_kept frame.hdr rssi (fun _ _ => trivial) (fun _ => trivial)
        (fun _ => trivial) fun _ _ _ => trivial)
  obtain ⟨new, grown, -⟩ := ready
  dsimp only
  rw [recv_upcall client rssi assigned attends data upcall, emit_out, grown, List.append_assoc,
    List.drop_left, deliveries, List.filterMap_append]
  exact List.mem_append_right _ (List.mem_singleton_self _)

/-- **An acknowledgement that a client sends** answers a packet of the coordinator, which the client
has received. -/
theorem Witnessed.confirms (witnessed : Witnessed setup net) {index : ι} {cause : Option Nat}
    {input : Input} (arrives : net.Arrives (.client index) cause input)
    (upcall : ∀ number, cause = some number → (net.device (.client index)).ctx.rxCb = true)
    {ack : Sent (Party ι) Airing}
    (aired : ack.message ∈ airings (net.device (.client index))
      ((net.device (.client index)).step input))
    (provoked : ack.cause = cause) (type : ack.message.frame.hdr.type = PacketType.ack.code) :
    ∃ number sent call,
      (net.step (.client index) cause input).Confirms ack number sent call := by
  have uplink := witnessed.uplink index
  obtain ⟨flags, logged, -⟩ := (uplink.client.step_events input).airings aired
  obtain ⟨hdr, asked, ⟨buf, size, rssi, is, rfl, -, attends, assigned⟩, shape⟩ :=
    uplink.acks logged type
  cases arrives with
  | call call => cases call <;> cases is
  | frame number sent rssi heard =>
      cases is
      have found := (deliverable_eq_some.mp heard).1
      have accepts := attends
      rw [readHeader_frame] at asked shape accepts
      simp only [Ctx.attends, Bool.and_eq_true, Bool.or_eq_true, beq_iff_eq,
        Option.isSome_iff_exists] at accepts
      -- the source is the coordinator of the client, so the frame is one of the coordinator
      obtain ⟨ptr, known⟩ := accepts.2.resolve_left assigned
      have source := (getNodeByAddr_client uplink.client.role known).2.2
      rw [uplink.coord] at source
      have sender := witnessed.origin number sent found source.symm
      have sequenced := witnessed.backs.sequenced
      obtain ⟨_, sentLogged⟩ := witnessed.backs.logged number sent found
      rw [sender] at sentLogged
      obtain ⟨call, called, accepted, packet, frame⟩ := (sequenced.aired sentLogged).2 asked
      have asks : call.hdr.ackRequest = true := by
        rw [frame] at asked
        exact asked
      -- what asks for an acknowledgement is for a slot, so it is for this client
      have dest : sent.message.frame.hdr.destAddr = (net.device (.client index)).ctx.addr := by
        obtain ⟨slot, target, -⟩ := sequenced.tracked call called accepted asks
        have unicast : sent.message.frame.hdr.destAddr ≠ addrBroadcast := by
          rw [frame, target, sequenced.hub.registry.addr]
          exact (slotAddr_ne slot).2
        have addressed := accepts.1
        simp only [Ctx.accepts, Ctx.addressed, Bool.and_eq_true, Bool.or_eq_true,
          beq_iff_eq] at addressed
        tauto
      refine ⟨number, sent, call, provoked, sent_put found .., sender, packet,
        witnessed.backs.logged_step called .., accepted, asks, ?_, ?_, ?_⟩
      · rw [shape]
        rw [frame] at dest
        exact dest
      · rw [shape]
        exact (congrArg (fun frame : Frame => frame.hdr.seq) frame).symm
      · rw [← frame]
        exact delivered_step uplink.client assigned attends dest (upcall number rfl)

theorem Witnessed.stepClient (witnessed : Witnessed setup net) (index : ι) {cause : Option Nat}
    {input : Input} (arrives : net.Arrives (.client index) cause input)
    (upcall : ∀ number, cause = some number → (net.device (.client index)).ctx.rxCb = true) :
    Witnessed setup (net.step (.client index) cause input) where
  backs := witnessed.backs.step _ cause input
  uplink other := by
    by_cases same : other = index
    · subst same
      rw [step_device_self]
      refine (witnessed.uplink other).step fun buf size rssi is => ?_
      obtain ⟨number, sent, heard, memory, -⟩ := (is ▸ arrives).of_recv
      exact ⟨_, memory, witnessed.genuine number sent (deliverable_eq_some.mp heard).1⟩
    · rw [step_device_ne (by simpa using same)]
      exact witnessed.uplink other
  genuine number sent found := by
    rcases sent_put_cases found with old | ⟨new, -, -⟩
    · exact witnessed.genuine number sent old
    · have uplink := witnessed.uplink index
      obtain ⟨flags, logged, -⟩ := (uplink.client.step_events input).airings new
      exact uplink.genuine logged
  origin number sent found source := by
    rcases sent_put_cases found with old | ⟨new, -, -⟩
    · exact witnessed.origin number sent old source
    · have uplink := witnessed.uplink index
      obtain ⟨flags, logged, -⟩ := (uplink.client.step_events input).airings new
      exact absurd source (uplink.srcAddr logged)
  acks number ack found other type := by
    rcases sent_put_cases found with old | ⟨new, -, provoked⟩
    · obtain ⟨provoking, sent, call, confirms⟩ := witnessed.acks number ack old other type
      exact ⟨provoking, sent, call, confirms.step witnessed.backs _ cause input⟩
    · exact witnessed.confirms arrives upcall new provoked type
  reports := by
    rw [step_device_ne (by simp)]
    exact witnessed.reports.mono fun _ received => received.step _ cause input

/-! ### A step of the coordinator -/

/-- What the coordinator puts on the air is genuine. -/
theorem Setup.Backs.genuine (backs : setup.Backs net) (cause : Option Nat) {input : Input}
    {airing : Airing} (aired : airing ∈ airings (net.device .coordinator)
      ((net.device .coordinator).step input)) : airing.frame.Genuine := by
  have after := (backs.step .coordinator cause input).sequenced
  rw [step_device_self] at after
  obtain ⟨flags, holds, logged⟩ := (backs.hub.step_grants input).airings aired
  refine ⟨fun _ => (after.aired logged).1, fun uuid addr grants => ?_⟩
  obtain ⟨slot, -, rfl⟩ := holds uuid addr ⟨_, _, flags, rfl, grants⟩
  rw [after.hub.registry.addr]
  exact (slotAddr_ne slot).1

theorem Witnessed.stepCoordinator (witnessed : Witnessed setup net) {cause : Option Nat}
    {input : Input} (arrives : net.Arrives .coordinator cause input)
    (timely : ∀ number ack rssi provoking sent call, cause = some number →
      input = .frame ack.message.frame rssi →
      net.medium.deliverable .coordinator number = some ack →
      (net.device .coordinator).ctx.TakesAck ack.message.frame.hdr
        ack.message.frame.bytes.length rssi →
      net.Confirms ack provoking sent call → (net.device .coordinator).built - call.id < 256) :
    Witnessed setup (net.step .coordinator cause input) where
  backs := witnessed.backs.step _ cause input
  uplink index := by
    rw [step_device_ne (by simp)]
    exact witnessed.uplink index
  genuine number sent found := by
    rcases sent_put_cases found with old | ⟨new, -, -⟩
    · exact witnessed.genuine number sent old
    · exact witnessed.backs.genuine cause new
  origin number sent found source := by
    rcases sent_put_cases found with old | ⟨-, sender, -⟩
    · exact witnessed.origin number sent old source
    · exact sender
  acks number ack found other type := by
    rcases sent_put_cases found with old | ⟨-, sender, -⟩
    · obtain ⟨provoking, sent, call, confirms⟩ := witnessed.acks number ack old other type
      exact ⟨provoking, sent, call, confirms.step witnessed.backs _ cause input⟩
    · exact absurd sender other
  reports := by
    rw [step_device_self]
    have reports := witnessed.backs.sequenced.step_reports witnessed.reports input ?_
    · exact reports.mono fun _ received => received.step _ cause input
    · intro buf size rssi is takes
      cases arrives with
      | call call => cases call <;> cases is
      | frame number ack rssi heard =>
          cases is
          rw [readHeader_frame] at takes ⊢
          obtain ⟨found, other, -⟩ := deliverable_eq_some.mp heard
          obtain ⟨provoking, sent, call, confirms⟩ := witnessed.acks number ack found other takes.1
          exact ⟨call, confirms.logged, confirms.accepted, confirms.asks, confirms.dest,
            confirms.seq, timely number ack rssi provoking sent call rfl rfl heard takes confirms,
            confirms.received⟩

/-! ### Runs -/

omit [DecidableEq ι] in
theorem Witnessed.start (setup : Setup ι) : Witnessed setup setup.start where
  backs := .start setup
  uplink index := .start _ (setup.isClient index)
  genuine _ _ found := nomatch found
  origin _ _ found := nomatch found
  acks _ _ found := nomatch found
  reports ptr packet cb reported := by
    have reported : .sendCb ptr packet cb 0 ∈ setup.coordinator.start.out := reported
    rw [start_out] at reported
    split at reported <;> simp at reported

theorem Witnessed.close (witnessed : Witnessed setup net) (party : Party ι) (number : Nat) :
    Witnessed setup (net.close party number) where
  backs := witnessed.backs.close party number
  uplink := witnessed.uplink
  genuine := witnessed.genuine
  origin := witnessed.origin
  acks other ack found sender type := by
    obtain ⟨provoking, sent, call, confirms⟩ := witnessed.acks other ack found sender type
    exact ⟨provoking, sent, call, { confirms with }⟩
  reports := witnessed.reports

/-- **Every acknowledgement on the air is confirmed** in every state of a run whose clients have a
receive callback and whose acknowledgements are heard in time. -/
theorem reachable_witnessed (setup : Setup ι) (acts : List (Act ι))
    (along : setup.start.Along macDevice
      (fun (net : Net ι) act => net.upcalls act ∧ net.timely act) acts) :
    Witnessed setup (setup.run acts) := by
  refine System.run_induction (motive := Witnessed setup) ?_ ?_ ?_ (.start setup) acts along
  · intro net party call witnessed _
    cases party with
    | coordinator => exact witnessed.stepCoordinator (.call call) fun _ _ _ _ _ _ is => nomatch is
    | client index => exact witnessed.stepClient index (.call call) fun _ is => nomatch is
  · intro net party number rssi again sent witnessed ⟨upcalls, timely⟩ heard
    cases party with
    | coordinator =>
        refine witnessed.stepCoordinator (.frame number sent rssi heard) ?_
        intro _ ack _ provoking packet call is arrives deliverable takes confirms
        cases is
        injection arrives with _ _ same
        subst same
        exact timely ack deliverable takes provoking packet call.id confirms.cause confirms.found
          confirms.sender confirms.packet
    | client index =>
        exact witnessed.stepClient index (.frame number sent rssi heard) fun _ _ => upcalls
  · exact fun party number witnessed => witnessed.close party number

/-- **Delivery reports are true**: over a medium that loses, delays and repeats frames, a send
callback with result 0 for data that asked for an acknowledgement follows the delivery of exactly
that data at its address, in every run in which each acknowledgement is heard before 256 more
sequence numbers are taken. -/
theorem reports_true (setup : Setup ι) (acts : List (Act ι))
    (along : setup.start.Along macDevice
      (fun (net : Net ι) act => net.upcalls act ∧ net.timely act) acts) :
    (setup.run acts).Truthful := by
  intro ptr cb call logged accepted asks data reported
  obtain ⟨-, each⟩ := (reachable_witnessed setup acts along).reports ptr call.id cb reported
  exact each call logged accepted asks rfl data

instance (net : Net ι) : (act : Act ι) → Decidable (net.upcalls act)
  | .hear (.client _) _ _ _ => inferInstanceAs (Decidable (_ = true))
  | .hear .coordinator _ _ _ | .call _ _ | .lose _ _ => .isTrue trivial

/-- As long as fewer than 256 numbers have been taken in all, no acknowledgement is late. -/
theorem Net.timely_of_few (few : (net.device .coordinator).built < 256) (act : Act ι) :
    net.timely act := by
  cases act with
  | hear party number rssi again =>
      cases party with
      | coordinator => exact fun _ _ _ _ _ _ _ _ _ _ => by omega
      | client index => trivial
  | _ => trivial

end Network

/-! ### An acknowledgement that comes late -/

theorem pair_coordinator : (Boot.coordinatorOn 0x2A#8).params.coordinator = true := rfl

/-- A coordinator and one client. -/
def pairSetup : Setup Unit where
  coordinator := .coordinatorOn 0x2A#8
  client _ := .clientWith 1#64 0#16
  isCoordinator := pair_coordinator
  isClient _ := rfl

/-- The coordinator sends one byte to the client, and asks for an acknowledgement. -/
def sendAct (byte : Byte) (cb : SendCb) : Act Unit :=
  .call .coordinator (.send 1#8 0x50#8 [byte] 0#16 (some cb))

/-- The client registers. -/
def pairJoins : List (Act Unit) :=
  [.call .coordinator (.permitAttach true), .call (.client ()) (.registerRecvCb true),
    .call (.client ()) .tick, .hear .coordinator 0 0 false, .hear (.client ()) 1 0 false,
    .hear .coordinator 2 0 false, .hear (.client ()) 3 0 false]

/-- A packet is delivered and acknowledged; the acknowledgement may be heard again. -/
def firstSent : List (Act Unit) :=
  [sendAct 1#8 100, .hear (.client ()) 4 0 false, .hear .coordinator 5 0 true]

/-- While the next packet waits for its acknowledgement, 254 more are rejected. The one after that
is lost, and the first acknowledgement is heard again. -/
def lateAck : List (Act Unit) :=
  sendAct 2#8 101 :: List.replicate 254 (sendAct 9#8 102) ++
    [.hear (.client ()) 6 0 false, .hear .coordinator 7 0 false, sendAct 3#8 103,
      .lose (.client ()) 8, .hear .coordinator 5 0 false]

theorem reports_true_first :
    let net := pairSetup.run (pairJoins ++ firstSent)
    .sendCb (.slot 0) 2 100 0 ∈ (net.device .coordinator).out ∧ net.Truthful := by
  refine ⟨by decide +kernel, reports_true pairSetup (pairJoins ++ firstSent) ?_⟩
  refine ⟨?_, ?_, ?_, ?_, ?_, ?_, ?_, ?_, ?_, ?_, trivial⟩
  all_goals exact ⟨by decide +kernel, Net.timely_of_few (by decide +kernel) _⟩

/-- The last packet: 256 numbers after the first one to the client, it has its sequence number. -/
def lastCall : TxCall :=
  ⟨258, some (.slot 0), 0#16, ⟨0x0050#16, 0x2A#8, 1#8, 0#8, 0x2C#8⟩, [3#8], some 103, true, 0⟩

theorem lateAck_run :
    pairSetup.start.Along macDevice Net.upcalls (pairJoins ++ firstSent ++ lateAck) ∧
      let net := pairSetup.run (pairJoins ++ firstSent ++ lateAck)
      ((net.device .coordinator).out.filterMap Event.taken).length = 4 ∧
      .txPacket lastCall ∈ (net.device .coordinator).out ∧
      .sendCb (.slot 0) lastCall.id 103 0 ∈ (net.device .coordinator).out ∧
      ¬ ∃ move ∈ net.history, move.party ≠ .coordinator ∧
        move.before.ctx.addr = lastCall.hdr.destAddr ∧
        (lastCall.hdr.type, lastCall.payload) ∈
          deliveries (move.after.out.drop move.before.out.length) := by
  decide +kernel

/-- The coordinator has had four packets accepted, the registration response among them. The last,
which nobody has heard, has the sequence number of the first that the client has acknowledged, and
is reported as delivered. -/
theorem false_report :
    let net := pairSetup.run (pairJoins ++ firstSent ++ lateAck)
    pairSetup.start.Along macDevice Net.upcalls (pairJoins ++ firstSent ++ lateAck) ∧
      ((net.device .coordinator).out.filterMap Event.taken).length = 4 ∧ ¬ net.Truthful := by
  obtain ⟨upcalls, taken, logged, reported, undelivered⟩ := lateAck_run
  exact ⟨upcalls, taken, fun truthful => undelivered
    (truthful (.slot 0) 103 lastCall logged rfl (by decide) (by decide) reported)⟩

end TinyHan.Tinymac
