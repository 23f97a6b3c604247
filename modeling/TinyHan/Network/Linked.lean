/-
**What holds in every run of a network.**

`Linked` is the invariant of a network of one coordinator and its clients, without any condition on
the medium or on the users: clients know their coordinator at address zero and have other addresses
themselves, what is on the air is genuine, what a client sends is for the coordinator, and the data
of the coordinator is for one address.

From it, `own_role_ignored`: a party never acts on a frame of its own role. The coordinator ignores
every frame that it has sent, and a client every frame that any client has sent, itself included,
however late the frame arrives and whatever address its receiver has by then.
-/

import TinyHan.Client.Upward
import TinyHan.Network.Reports

namespace TinyHan.Tinymac

open TinyHan.Lib

/-- What is not accepted changes nothing. -/
theorem recv_rejected {σ : Mac} {buf : Memory} {size : Nat}
    (rejected : σ.ctx.accepts (readHeader buf) size = false) (rssi : Int) :
    tinymacRecvCb σ buf size rssi = σ := by
  unfold tinymacRecvCb
  dsimp only
  rw [if_neg (by simp [rejected])]

section Network

variable {ι : Type} [DecidableEq ι] {setup : Setup ι} {net : Net ι}

/-- The invariant of a network. -/
structure Linked (setup : Setup ι) (net : Net ι) : Prop where
  backs : setup.Backs net
  uplink : ∀ index, Uplink (net.device (.client index))
  genuine : ∀ (number : Nat) (sent : Sent (Party ι) Airing), net.medium.sent[number]? = some sent →
    sent.message.frame.Genuine
  upward : ∀ index, ∀ event ∈ (net.device (.client index)).out, event.upward
  unicast : ∀ call, .txPacket call ∈ (net.device .coordinator).out →
    typeRawData ≤ call.hdr.type → call.hdr.destAddr ≠ addrBroadcast

namespace Linked

omit [DecidableEq ι] in
theorem start (setup : Setup ι) : Linked setup setup.start where
  backs := .start setup
  uplink index := .start _ (setup.isClient index)
  genuine _ _ found := nomatch found
  upward index event logged := by
    rw [start_logs _ logged]
    trivial
  unicast call logged := by cases start_logs _ logged

theorem close (linked : Linked setup net) (party : Party ι) (number : Nat) :
    Linked setup (net.close party number) where
  backs := linked.backs.close party number
  uplink := linked.uplink
  genuine := linked.genuine
  upward := linked.upward
  unicast := linked.unicast

theorem stepClient (linked : Linked setup net) (index : ι) {cause : Option Nat} {input : Input}
    (arrives : net.Arrives (.client index) cause input) :
    Linked setup (net.step (.client index) cause input) where
  backs := linked.backs.step _ cause input
  uplink other := by
    by_cases same : other = index
    · subst same
      rw [step_device_self]
      refine (linked.uplink other).step fun buf size rssi is => ?_
      obtain ⟨number, sent, heard, memory, -⟩ := (is ▸ arrives).of_recv
      exact ⟨_, memory, linked.genuine number sent (deliverable_eq_some.mp heard).1⟩
    · rw [step_device_ne (by simpa using same)]
      exact linked.uplink other
  genuine number sent found := by
    rcases sent_put_cases found with old | ⟨new, -, -⟩
    · exact linked.genuine number sent old
    · have uplink := linked.uplink index
      obtain ⟨flags, logged, -⟩ := (uplink.client.step_events input).airings new
      exact uplink.genuine logged
  upward other event logged := by
    by_cases same : other = index
    · subst same
      rw [step_device_self] at logged
      rcases ((linked.uplink other).step_upward input).mem logged with old | new
      · exact linked.upward other event old
      · exact new
    · rw [step_device_ne (by simpa using same)] at logged
      exact linked.upward other event logged
  unicast := by
    rw [step_device_ne (by simp)]
    exact linked.unicast

theorem stepCoordinator (linked : Linked setup net) (cause : Option Nat) (input : Input) :
    Linked setup (net.step .coordinator cause input) where
  backs := linked.backs.step _ cause input
  uplink index := by
    rw [step_device_ne (by simp)]
    exact linked.uplink index
  genuine number sent found := by
    rcases sent_put_cases found with old | ⟨new, -, -⟩
    · exact linked.genuine number sent old
    · exact linked.backs.genuine cause new
  upward index := by
    rw [step_device_ne (by simp)]
    exact linked.upward index
  unicast call logged raw := by
    rw [step_device_self] at logged
    rcases step_asked logged raw with old | ⟨dest, type, ptr, asked⟩
    · exact linked.unicast call old raw
    · -- the record is a slot, and no slot has the broadcast address
      have hub := linked.backs.hub
      obtain ⟨slot, rfl, -⟩ := getNodeByAddr_coordinator hub.coordinator.role asked.found
      rw [asked.hdr]
      show ((net.device .coordinator).ctx.nodes slot).addr ≠ addrBroadcast
      rw [hub.registry.addr]
      exact (slotAddr_ne slot).2

theorem step (linked : Linked setup net) {party : Party ι} {cause : Option Nat} {input : Input}
    (arrives : net.Arrives party cause input) : Linked setup (net.step party cause input) := by
  cases party with
  | coordinator => exact linked.stepCoordinator cause input
  | client index => exact linked.stepClient index arrives

end Linked

/-- **Every network is linked**, in every state of every run. -/
theorem reachable_linked (setup : Setup ι) (acts : List (Act ι)) :
    Linked setup (setup.run acts) := by
  refine System.run_invariant (motive := Linked setup) ?_ ?_ ?_ (.start setup) acts
  · exact fun party call linked => linked.step (.call call)
  · exact fun party number rssi sent linked heard => linked.step (.frame number sent rssi heard)
  · exact fun party number linked => linked.close party number

/-! ### Frames of one's own role -/

namespace Linked

omit [DecidableEq ι]

variable (linked : Linked setup net)

include linked

/-- Everything a client sends is for the coordinator. -/
theorem frame_upward {index : ι} {packet : Option Nat} {frame : Frame} {flags : BitVec 8}
    (sent : .phySend packet frame flags ∈ (net.device (.client index)).out) :
    frame.hdr.Upward := by
  cases packet with
  | none => exact linked.upward index _ sent
  | some id =>
      obtain ⟨inputs, reached⟩ := linked.backs.reached (.client index)
      rw [reached] at sent
      obtain ⟨call, logged, -, -, rfl⟩ := packet_call _ inputs sent
      rw [← reached] at logged
      exact linked.upward index _ logged

/-- The data of a client is for address zero. -/
theorem data_upward {index : ι} {call : TxCall}
    (logged : .txPacket call ∈ (net.device (.client index)).out)
    (raw : typeRawData ≤ call.hdr.type) : call.hdr.destAddr = 0#8 :=
  (linked.upward index _ logged).resolve_right fun control => control.2 raw

/-- Everything the coordinator sends comes from address zero. -/
theorem frame_source {packet : Option Nat} {frame : Frame} {flags : BitVec 8}
    (sent : .phySend packet frame flags ∈ (net.device .coordinator).out) :
    frame.hdr.srcAddr = 0#8 := (linked.backs.sequenced.aired sent).1

theorem client_ignores (index : ι) {frame : Frame} (upward : frame.hdr.Upward) (rssi : Int) :
    (net.device (.client index)).step (.frame frame rssi) = net.device (.client index) := by
  have uplink := linked.uplink index
  refine recv_rejected ?_ rssi
  rw [readHeader_frame]
  exact upward.ignored uplink.client.role uplink.addr _

theorem coordinator_ignores {frame : Frame} (source : frame.hdr.srcAddr = 0#8) (rssi : Int) :
    (net.device .coordinator).step (.frame frame rssi) = net.device .coordinator := by
  refine recv_rejected ?_ rssi
  have addr : (net.device .coordinator).ctx.addr = 0#8 := linked.backs.hub.coordinator.addr
  rw [readHeader_frame, Ctx.accepts, source, addr]
  simp

end Linked

/-! ### Data on the air -/

namespace Linked

omit [DecidableEq ι]

variable (linked : Linked setup net) {number : Nat} {sent : Sent (Party ι) Airing}
  (found : net.medium.sent[number]? = some sent)
  (raw : typeRawData ≤ sent.message.frame.hdr.type) {node : Option NodePtr}

include linked found raw

/-- Data on the air is a packet that its sender has accepted. -/
theorem data_call : ∃ call, .txPacket call ∈ (net.device sent.sender).out ∧
    call.accepted = true ∧ sent.message.frame = ⟨call.hdr, call.payload⟩ := by
  obtain ⟨flags, aired⟩ := linked.backs.logged number sent found
  obtain ⟨inputs, reached⟩ := linked.backs.reached sent.sender
  rw [reached] at aired
  obtain ⟨call, logged, accepted, -, is⟩ := frame_call _ inputs aired raw
  exact ⟨call, reached ▸ logged, accepted, is⟩

/-- **Data that the coordinator hears** is a packet that a client has accepted. It comes from the
address of the record that is found for it, or from no address. -/
theorem uploaded (other : sent.sender ≠ .coordinator)
    (names : (net.device .coordinator).ctx.Names sent.message.frame.hdr node) :
    ∃ index call, .txPacket call ∈ (net.device (.client index)).out ∧ call.accepted = true ∧
      sent.message.frame = ⟨call.hdr, call.payload⟩ ∧ call.hdr.destAddr = 0#8 ∧
      (node = none ∧ call.hdr.srcAddr = addrUnassigned ∨
        ∃ slot, node = some (.slot slot) ∧
          ((net.device .coordinator).ctx.nodes slot).addr = call.hdr.srcAddr) := by
  have coordinator := linked.backs.hub.coordinator
  obtain ⟨call, logged, accepted, is⟩ := linked.data_call found raw
  rw [is] at names raw
  cases sender : sent.sender with
  | coordinator => exact absurd sender other
  | client index =>
      rw [sender] at logged
      refine ⟨index, call, logged, accepted, is, linked.data_upward logged raw, ?_⟩
      cases node with
      | none =>
          refine .inl ⟨rfl, names.resolve_left ?_⟩
          rw [coordinator.addr]
          decide
      | some ptr =>
          obtain ⟨slot, rfl, addr, -⟩ := getNodeByAddr_coordinator coordinator.role names
          exact .inr ⟨slot, rfl, addr⟩

/-- **Data that a client hears** is a packet that the coordinator has accepted for the address the
client has. -/
theorem downloaded {index : ι}
    (accepts : (net.device (.client index)).ctx.accepts sent.message.frame.hdr
      sent.message.frame.bytes.length = true)
    (names : (net.device (.client index)).ctx.Names sent.message.frame.hdr node) :
    node = some .coord ∧ ∃ call, .txPacket call ∈ (net.device .coordinator).out ∧
      call.accepted = true ∧ sent.message.frame = ⟨call.hdr, call.payload⟩ ∧
      call.hdr.srcAddr = 0#8 ∧
      call.hdr.destAddr = (net.device (.client index)).ctx.addr := by
  have uplink := linked.uplink index
  obtain ⟨flags, aired⟩ := linked.backs.logged number sent found
  obtain ⟨call, logged, accepted, is⟩ := linked.data_call found raw
  cases sender : sent.sender with
  | client another =>
      -- a client does not accept the frame of a client
      rw [sender] at aired
      have ignored := (linked.frame_upward aired).ignored uplink.client.role uplink.addr
        sent.message.frame.bytes.length
      rw [ignored] at accepts
      cases accepts
  | coordinator =>
      rw [sender] at aired logged
      have source := linked.frame_source aired
      rw [is] at accepts raw names source
      have unicast := linked.unicast call logged raw
      have dest : call.hdr.destAddr = (net.device (.client index)).ctx.addr := by
        simp only [Ctx.accepts, Ctx.addressed, Bool.and_eq_true, Bool.or_eq_true,
          beq_iff_eq] at accepts
        tauto
      refine ⟨?_, call, logged, accepted, is, source, dest⟩
      cases node with
      | none =>
          rcases names with unassigned | unassigned
          · exact absurd (dest.trans unassigned) unicast
          · rw [source] at unassigned
            cases unassigned
      | some ptr => rw [(getNodeByAddr_client uplink.client.role names).1]

end Linked

/-! ### One's own role -/

/-- The parties have the same role. -/
def Party.sameRole : Party ι → Party ι → Prop
  | .coordinator, .coordinator => True
  | .client _, .client _ => True
  | _, _ => False

omit [DecidableEq ι] in
theorem Linked.ignores (linked : Linked setup net) {sender receiver : Party ι}
    (same : sender.sameRole receiver) {packet : Option Nat} {frame : Frame} {flags : BitVec 8}
    (sent : .phySend packet frame flags ∈ (net.device sender).out) (rssi : Int) :
    (net.device receiver).step (.frame frame rssi) = net.device receiver := by
  cases sender with
  | coordinator =>
      cases receiver with
      | coordinator => exact linked.coordinator_ignores (linked.frame_source sent) rssi
      | client index => exact same.elim
  | client other =>
      cases receiver with
      | coordinator => exact same.elim
      | client index => exact linked.client_ignores index (linked.frame_upward sent) rssi

/-- **No party acts on a frame of its own role.** In every state of every run, hearing a frame that
the party itself or, for a client, any other client has put on the air changes nothing and logs
nothing. -/
theorem own_role_ignored (setup : Setup ι) (acts : List (Act ι)) {sender receiver : Party ι}
    (same : sender.sameRole receiver) {packet : Option Nat} {frame : Frame} {flags : BitVec 8}
    (sent : .phySend packet frame flags ∈ ((setup.run acts).device sender).out) (rssi : Int) :
    ((setup.run acts).device receiver).step (.frame frame rssi) =
      (setup.run acts).device receiver :=
  (reachable_linked setup acts).ignores same sent rssi

end Network

/-- The client of a pair has registered. Its beacon request, which it sent before it had an address,
comes back to it. -/
theorem own_role_ignored_request :
    let net := pairSetup.run pairJoins
    let request : Frame := ⟨⟨headerFlags PacketType.beaconRequest.code, networkAny, addrBroadcast,
      addrUnassigned, 1#8⟩, []⟩
    .phySend (some 1) request 0#8 ∈ (net.device (.client ())).out ∧
      (net.device (.client ())).ctx.addr = 1#8 ∧
      (net.device (.client ())).step (.frame request 0) = net.device (.client ()) := by
  intro net request
  have sent : .phySend (some 1) request 0#8 ∈ (net.device (.client ())).out := by decide +kernel
  have same : (Party.client ()).sameRole (.client ()) := trivial
  exact ⟨sent, by decide +kernel, own_role_ignored pairSetup pairJoins same sent 0⟩

end TinyHan.Tinymac
