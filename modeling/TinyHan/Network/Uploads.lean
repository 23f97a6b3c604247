/-
**Delivery reports of a client.**

A client reports a packet as delivered when it accepts an acknowledgement with the sequence number
of the packet its coordinator record waits for. The acknowledgement comes from the coordinator,
which sends it for the frame it handles and goes on to hand the data of that frame to its
application (`Net.Echoes`).

So the report of a client is true (`upload_reports_true`) if every acknowledgement it hears for its
address was provoked by a packet of its own, and not 256 sequence numbers ago (`Net.Own`). These are
conditions on what an acknowledgement says: it names its receiver by an address that may have had
another owner before, and its packet by eight bits.
-/

import TinyHan.Client.Sequence
import TinyHan.Network.Linked

namespace TinyHan.Tinymac

open TinyHan.Lib

section Network

variable {ι : Type} [DecidableEq ι]

/-! ### Uploads -/

/-- The coordinator has handed the data to its application, with the record of `addr`. -/
def Net.Collected (net : Net ι) (addr type : BitVec 8) (payload : List Byte) : Prop :=
  ∃ move ∈ net.history, move.party = .coordinator ∧ ∃ slot,
    (move.before.ctx.nodes slot).addr = addr ∧
      .rxCb (some (.slot slot)) type payload ∈ move.after.out.drop move.before.out.length

/-- The frame has been collected if it is data. -/
def Net.Uploads (net : Net ι) (frame : Frame) : Prop :=
  typeRawData ≤ frame.hdr.type →
    net.Collected frame.hdr.srcAddr frame.hdr.type frame.payload

/-- No false delivery report of a client: data that asked for an acknowledgement, and whose send
callback the client has invoked with result 0, has been collected. -/
def Net.Honest (net : Net ι) (index : ι) : Prop :=
  ∀ ptr cb call, .txPacket call ∈ (net.device (.client index)).out → call.accepted = true →
    call.hdr.ackRequest = true → typeRawData ≤ call.hdr.type →
    .sendCb ptr call.id cb 0 ∈ (net.device (.client index)).out →
    net.Collected call.hdr.srcAddr call.hdr.type call.payload

/-- The coordinator has a receive callback when it hears a frame. -/
def Net.collects (net : Net ι) : Act ι → Prop
  | .hear .coordinator _ _ _ => (net.device .coordinator).ctx.rxCb = true
  | _ => True

/-- If the frame on its way to a client is an acknowledgement for its address, a packet of the
client has provoked it, and fewer than 256 sequence numbers have been taken since. -/
def Net.Own (net : Net ι) (index : ι) (number : Nat) : Prop :=
  ∀ ack ∈ net.medium.deliverable (.client index) number,
    ack.message.frame.hdr.type = PacketType.ack.code →
    ack.message.frame.hdr.destAddr = (net.device (.client index)).ctx.addr →
    ∀ cause ∈ ack.cause, ∀ sent ∈ net.medium.sent[cause]?,
      sent.sender = .client index ∧ ∀ packet ∈ sent.message.packet,
        (net.device (.client index)).built - packet < 256

/-- What a client hears is in that sense its own. -/
def Net.answered (net : Net ι) : Act ι → Prop
  | .hear (.client index) number _ _ => net.Own index number
  | _ => True

variable {net : Net ι}

theorem Net.Uploads.step {frame : Frame} (uploads : net.Uploads frame) (party : Party ι)
    (cause : Option Nat) (input : Input) : (net.step party cause input).Uploads frame := by
  intro raw
  obtain ⟨move, member, here⟩ := uploads raw
  exact ⟨move, List.mem_append_left _ member, here⟩

/-! ### Acknowledgements -/

/-- The acknowledgement was provoked by a frame that asked for it, and whose data has been
collected. -/
structure Net.Echoes (net : Net ι) (ack : Sent (Party ι) Airing) (number : Nat)
    (sent : Sent (Party ι) Airing) : Prop where
  cause : ack.cause = some number
  found : net.medium.sent[number]? = some sent
  asks : sent.message.frame.hdr.ackRequest = true
  seq : sent.message.frame.hdr.seq = ack.message.frame.hdr.seq
  unicast : ack.message.frame.hdr.destAddr ≠ addrBroadcast
  uploads : net.Uploads sent.message.frame

/-- Every acknowledgement of the coordinator is an echo, and every report of a client is true. -/
structure Collecting (setup : Setup ι) (net : Net ι) : Prop where
  linked : Linked setup net
  echoes : ∀ (number : Nat) (ack : Sent (Party ι) Airing), net.medium.sent[number]? = some ack →
    ack.sender = .coordinator → ack.message.frame.hdr.type = PacketType.ack.code →
    ∃ provoking sent, net.Echoes ack provoking sent
  reports : ∀ index, Reports net.Uploads (net.device (.client index))

theorem Net.Echoes.step {ack sent : Sent (Party ι) Airing} {number : Nat}
    (echoes : net.Echoes ack number sent) (party : Party ι) (cause : Option Nat) (input : Input) :
    (net.step party cause input).Echoes ack number sent where
  cause := echoes.cause
  found := sent_put echoes.found ..
  asks := echoes.asks
  seq := echoes.seq
  unicast := echoes.unicast
  uploads := echoes.uploads.step party cause input

variable {setup : Setup ι}

omit [DecidableEq ι] in
theorem Setup.Backs.tallied (backs : setup.Backs net) (index : ι) :
    Tallied (((setup.client index).rand 1).setWidth 8) (net.device (.client index)) := by
  obtain ⟨inputs, reached⟩ := backs.reached (.client index)
  rw [reached]
  exact reachable_tallied _ (setup.isClient index) inputs

omit [DecidableEq ι] in
/-- A frame that asks for an acknowledgement is a packet of its sender. -/
theorem Setup.Backs.asking_call (backs : setup.Backs net) {number : Nat}
    {sent : Sent (Party ι) Airing} (found : net.medium.sent[number]? = some sent)
    (asks : sent.message.frame.hdr.ackRequest = true) :
    ∃ call, .txPacket call ∈ (net.device sent.sender).out ∧ call.accepted = true ∧
      sent.message.packet = some call.id ∧ sent.message.frame = ⟨call.hdr, call.payload⟩ := by
  obtain ⟨flags, aired⟩ := backs.logged number sent found
  obtain ⟨inputs, reached⟩ := backs.reached sent.sender
  rw [reached] at aired ⊢
  cases packet : sent.message.packet with
  | none =>
      rw [packet] at aired
      rw [(reachable_aside _ inputs aired).2] at asks
      cases asks
  | some id =>
      rw [packet] at aired
      obtain ⟨call, logged, accepted, rfl, is⟩ := packet_call _ inputs aired
      exact ⟨call, logged, accepted, rfl, is⟩

/-! ### Steps -/

namespace Collecting

variable (collecting : Collecting setup net)

include collecting

/-- **An acknowledgement that the coordinator sends** echoes the frame it handles, whose data it
hands to its application. -/
theorem echoes_step {cause : Option Nat} {input : Input}
    (arrives : net.Arrives .coordinator cause input)
    (upcall : ∀ number, cause = some number → (net.device .coordinator).ctx.rxCb = true)
    {ack : Sent (Party ι) Airing}
    (aired : ack.message ∈ airings (net.device .coordinator)
      ((net.device .coordinator).step input))
    (provoked : ack.cause = cause) (type : ack.message.frame.hdr.type = PacketType.ack.code) :
    ∃ number sent, (net.step .coordinator cause input).Echoes ack number sent := by
  have hub := collecting.linked.backs.hub
  obtain ⟨flags, origin, logged⟩ := (step_origin (net.device .coordinator) input).airings aired
  -- a packet has another type
  have aside : ack.message.packet = none := by
    cases packet : ack.message.packet with
    | none => rfl
    | some id =>
        obtain ⟨inputs, reached⟩ :=
          (collecting.linked.backs.step .coordinator cause input).reached .coordinator
        rw [step_device_self] at reached
        rw [packet, reached] at logged
        obtain ⟨call, called, -, -, is⟩ := packet_call _ inputs logged
        rw [is] at type
        exact absurd type (call_not_ack _ inputs called)
  rw [aside] at origin
  obtain ⟨buf, size, rssi, ptr, is, accepts, assigned, found, asks, shape⟩ := origin.of_ack type
  obtain ⟨slot, rfl, addr, -⟩ := getNodeByAddr_coordinator hub.coordinator.role found
  cases arrives with
  | call call => cases call <;> cases is
  | frame number sent rssi heard =>
      cases is
      have upcalled := recv_upcalls rssi accepts assigned found
      rw [readHeader_frame] at asks shape addr upcalled
      refine ⟨number, sent, provoked, sent_put (deliverable_eq_some.mp heard).1 .., asks, ?_, ?_,
        fun raw => ?_⟩
      · rw [shape]
        rfl
      · rw [shape]
        show ((net.device .coordinator).ctx.nodes slot).addr ≠ addrBroadcast
        rw [hub.registry.addr]
        exact (slotAddr_ne slot).2
      · refine ⟨_, List.mem_append_right _ (List.mem_singleton_self _), rfl, slot, addr, ?_⟩
        have upcalled := upcalled raw (upcall number rfl)
        have length : sent.message.frame.bytes.length - headerSize =
            sent.message.frame.payload.length := by
          rw [Frame.bytes_length, Nat.add_sub_cancel_left]
        rw [Header.type_mask, length, window_frame_payload] at upcalled
        exact upcalled

theorem stepCoordinator {cause : Option Nat} {input : Input}
    (arrives : net.Arrives .coordinator cause input)
    (upcall : ∀ number, cause = some number → (net.device .coordinator).ctx.rxCb = true) :
    Collecting setup (net.step .coordinator cause input) where
  linked := collecting.linked.step arrives
  echoes number ack found sender type := by
    rcases sent_put_cases found with old | ⟨new, -, provoked⟩
    · obtain ⟨provoking, sent, echoes⟩ := collecting.echoes number ack old sender type
      exact ⟨provoking, sent, echoes.step _ cause input⟩
    · exact collecting.echoes_step arrives upcall new provoked type
  reports index := by
    rw [step_device_ne (by simp)]
    exact (collecting.reports index).mono fun _ uploads => uploads.step _ cause input

/-- **An acknowledgement that a client accepts** was provoked by a packet that has been
collected. -/
theorem provoked {index : ι} {number : Nat} {ack : Sent (Party ι) Airing}
    (heard : net.medium.deliverable (.client index) number = some ack)
    (own : net.Own index number)
    (accepts : (net.device (.client index)).ctx.accepts ack.message.frame.hdr
      ack.message.frame.bytes.length = true)
    (type : ack.message.frame.hdr.type = PacketType.ack.code) :
    ∃ call, (net.device (.client index)).Provoked net.Uploads ack.message.frame.hdr.seq call := by
  have linked := collecting.linked
  have uplink := linked.uplink index
  have found := (deliverable_eq_some.mp heard).1
  obtain ⟨flags, aired⟩ := linked.backs.logged number ack found
  have sender : ack.sender = .coordinator := by
    cases is : ack.sender with
    | coordinator => rfl
    | client another =>
        rw [is] at aired
        have ignored := (linked.frame_upward aired).ignored uplink.client.role uplink.addr
          ack.message.frame.bytes.length
        rw [ignored] at accepts
        cases accepts
  obtain ⟨provoking, sent, echoes⟩ := collecting.echoes number ack found sender type
  have dest : ack.message.frame.hdr.destAddr = (net.device (.client index)).ctx.addr := by
    have unicast := echoes.unicast
    simp only [Ctx.accepts, Ctx.addressed, Bool.and_eq_true, Bool.or_eq_true,
      beq_iff_eq] at accepts
    tauto
  obtain ⟨mine, recent⟩ := own ack heard type dest provoking echoes.cause sent echoes.found
  obtain ⟨call, logged, accepted, packet, is⟩ := linked.backs.asking_call echoes.found echoes.asks
  have asks := echoes.asks
  have seq := echoes.seq
  have uploads := echoes.uploads
  rw [mine] at logged
  rw [is] at asks seq uploads
  exact ⟨call, logged, accepted, asks, seq, recent call.id packet, uploads⟩

theorem stepClient (index : ι) {cause : Option Nat} {input : Input}
    (arrives : net.Arrives (.client index) cause input)
    (own : ∀ number, cause = some number → net.Own index number) :
    Collecting setup (net.step (.client index) cause input) where
  linked := collecting.linked.step arrives
  echoes number ack found sender type := by
    rcases sent_put_cases found with old | ⟨-, other, -⟩
    · obtain ⟨provoking, sent, echoes⟩ := collecting.echoes number ack old sender type
      exact ⟨provoking, sent, echoes.step _ cause input⟩
    · cases other.symm.trans sender
  reports other := by
    suffices Reports net.Uploads ((net.step (.client index) cause input).device (.client other))
      from this.mono fun _ uploads => uploads.step _ cause input
    by_cases same : other = index
    · subst same
      rw [step_device_self]
      refine (collecting.linked.backs.tallied other).step_reports (collecting.reports other) input
        ?_
      intro buf size rssi is accepts type
      cases arrives with
      | call call => cases call <;> cases is
      | frame number ack rssi heard =>
          cases is
          rw [readHeader_frame] at accepts type ⊢
          exact collecting.provoked heard (own number rfl) accepts type
    · rw [step_device_ne (by simpa using same)]
      exact collecting.reports other

theorem close (party : Party ι) (number : Nat) : Collecting setup (net.close party number) where
  linked := collecting.linked.close party number
  echoes other ack found sender type := by
    obtain ⟨provoking, sent, echoes⟩ := collecting.echoes other ack found sender type
    exact ⟨provoking, sent, { echoes with }⟩
  reports := collecting.reports

end Collecting

/-! ### Runs -/

omit [DecidableEq ι] in
theorem Collecting.start (setup : Setup ι) : Collecting setup setup.start where
  linked := .start setup
  echoes _ _ found := nomatch found
  reports index ptr packet cb reported := by cases start_logs _ reported

/-- **Every acknowledgement of the coordinator is an echo**, in every state of a run in which the
coordinator has a receive callback and the clients hear acknowledgements of their own packets. -/
theorem reachable_collecting (setup : Setup ι) (acts : List (Act ι))
    (along : setup.start.Along macDevice
      (fun (net : Net ι) act => net.collects act ∧ net.answered act) acts) :
    Collecting setup (setup.run acts) := by
  refine System.run_induction (motive := Collecting setup) ?_ ?_ ?_ (.start setup) acts along
  · intro net party call collecting _
    cases party with
    | coordinator => exact collecting.stepCoordinator (.call call) fun _ is => nomatch is
    | client index => exact collecting.stepClient index (.call call) fun _ is => nomatch is
  · intro net party number rssi again sent collecting ⟨collects, answered⟩ heard
    cases party with
    | coordinator =>
        exact collecting.stepCoordinator (.frame number sent rssi heard) fun _ _ => collects
    | client index =>
        refine collecting.stepClient index (.frame number sent rssi heard) fun _ is => ?_
        cases is
        exact answered
  · exact fun party number collecting => collecting.close party number

/-- **The delivery reports of clients are true**: over a medium that loses, delays and repeats
frames, a send callback with result 0 for data that asked for an acknowledgement follows the upcall
of exactly that data by the coordinator, with the record of the client's address, in every run in
which the acknowledgements a client hears for its address are for packets of its own, fewer than 256
sequence numbers ago. -/
theorem upload_reports_true (setup : Setup ι) (acts : List (Act ι))
    (along : setup.start.Along macDevice
      (fun (net : Net ι) act => net.collects act ∧ net.answered act) acts) (index : ι) :
    (setup.run acts).Honest index := by
  intro ptr cb call logged accepted asks raw reported
  obtain ⟨-, each⟩ := (reachable_collecting setup acts along).reports index ptr call.id cb reported
  exact each call logged accepted asks rfl raw

instance (net : Net ι) : (act : Act ι) → Decidable (net.collects act)
  | .hear .coordinator _ _ _ => inferInstanceAs (Decidable (_ = true))
  | .hear (.client _) _ _ _ | .call _ _ | .lose _ _ => .isTrue trivial

instance (net : Net ι) (index : ι) (number : Nat) : Decidable (net.Own index number) :=
  inferInstanceAs (Decidable (∀ ack ∈ net.medium.deliverable (.client index) number,
    _ = _ → _ = _ → ∀ cause ∈ ack.cause, ∀ sent ∈ net.medium.sent[cause]?,
      sent.sender = _ ∧ ∀ packet ∈ sent.message.packet, _ - packet < 256))

instance (net : Net ι) : (act : Act ι) → Decidable (net.answered act)
  | .hear (.client index) number _ _ => inferInstanceAs (Decidable (net.Own index number))
  | .hear .coordinator _ _ _ | .call _ _ | .lose _ _ => .isTrue trivial

end Network

/-- The client of a pair registers and sends a byte. The frame comes twice, and the first
acknowledgement is lost. -/
def uploads : List (Act Unit) :=
  .call .coordinator (.registerRecvCb true) :: pairJoins ++
    [.call (.client ()) (.send 0#8 0x50#8 [7#8] 0#16 (some 200)), .hear .coordinator 4 0 true,
    .lose (.client ()) 5, .hear .coordinator 4 0 false, .hear (.client ()) 6 0 false]

theorem upload_reports_true_repeated :
    .sendCb .coord 3 200 0 ∈ ((pairSetup.run uploads).device (.client ())).out ∧
      (pairSetup.run uploads).Honest () :=
  ⟨by decide +kernel, upload_reports_true pairSetup uploads (by decide +kernel) ()⟩

end TinyHan.Tinymac
