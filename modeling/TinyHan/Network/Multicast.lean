/-
**The network over UDP multicast** (`tinymac.c` above `phy-udp.c`).

A process of the simulation is a TinyMAC context with the driver below it. What the MAC hands to
`phy_send` goes to the group as one datagram, and a datagram that arrives goes through
`phy_event_handler` to `tinymac_recv_cb`. Datagrams are lost, delayed and repeated, and a burst of
errors may hit them on the way. The socket is in the group with loopback, so that a process also
gets its own datagrams.

`multicast_refines`: this is the network of `Network.Air`. Every run of the processes is a run of
the contexts alone, whose medium loses, delays and repeats frames and never changes them, as long as
no datagram is hit by one of the twelve bursts that the CRC does not see. What comes back to its
sender is ignored there. So what holds in every run of the network holds over UDP.

The hosts are little-endian: the frames of `Mac.Frame` are laid out as on such a host, and which
bursts go unseen depends on the byte order of the CRC.
-/

import TinyHan.Lib.Simulation
import TinyHan.Mac.Limits
import TinyHan.Network.Linked
import TinyHan.Phy.Burst

namespace TinyHan.PhyUdp

open TinyHan.Lib
open TinyHan.Tinymac (Mac Frame Airing Party Params Setup Act PacketType airings macDevice)

/-! ### Processes -/

/-- A process of the simulation: the MAC, and the driver below it. -/
structure Process where
  mac : Mac
  udp : Udp

/-- The buffers in which a frame is handed to `phy_send`: an acknowledgement is the header alone,
and a beacon has its address list apart. -/
def bufs (frame : Frame) : List (List Byte) :=
  match PacketType.ofCode frame.hdr.type with
  | some .ack => [frame.bytes]
  | some .beacon =>
      [frame.hdr.bytes, frame.payload.take Tinymac.beaconSize,
        frame.payload.drop Tinymac.beaconSize]
  | _ => [frame.hdr.bytes, frame.payload]

/-- What an event of the MAC does to the driver. -/
def driverCall : Tinymac.Event → Option Call
  | .phySend _ frame flags => some (.send (bufs frame) flags)
  | .phyStandby => some .standby
  | .phyDelayedStandby us => some (.delayedStandby (BitVec.ofNat 16 us))
  | .phyListen => some .listen
  | _ => none

/-- The MAC takes a step, and calls the driver on its way. -/
def Process.step (order : ByteOrder) (process : Process) (input : Tinymac.Input) : Process :=
  let mac := process.mac.step input
  ⟨mac, process.udp.run order ((mac.out.drop process.mac.out.length).filterMap driverCall)⟩

/-- A datagram arrives and `phy_event_handler` is called; what it accepts goes to
`tinymac_recv_cb`. -/
def Process.hear (order : ByteOrder) (process : Process) (datagram : List Byte) : Process :=
  let udp := (process.udp.step order (.arrives (some datagram))).step order .eventHandler
  (udp.received.drop process.udp.received.length).foldl
    (fun process received => process.step order received.input) ⟨process.mac, udp⟩

/-- The datagram as it arrives, with the errors that hit it. -/
def arriving (datagram : List Byte) : Option (List Byte) → List Byte
  | none => datagram
  | some error => corrupt datagram error

/-- What happens to a process by itself: its user calls the MAC, or a datagram that it has sent
comes back to its socket. -/
inductive HostCall where
  | mac (call : Tinymac.Call)
  | loopback (number : Nat)

def Process.call (order : ByteOrder) (process : Process) : HostCall → Process
  | .mac call => process.step order call.input
  | .loopback number =>
      match process.udp.sent[number]? with
      | some datagram => process.hear order datagram
      | none => process

/-- A process as a device; the quality of a reception are the errors. -/
def processDevice (order : ByteOrder) :
    Device Process HostCall (List Byte) (Option (List Byte)) where
  call := Process.call order
  hear process datagram error := process.hear order (arriving datagram error)
  sent before after := after.udp.sent.drop before.udp.sent.length

/-- The process after `phy_init` and `tinymac_init`, which registers `tinymac_recv_cb`. -/
def Process.start (order : ByteOrder) (boot : Tinymac.Boot) : Process :=
  ⟨boot.start, phyInit.run order (.registerRecvCb true :: boot.start.out.filterMap driverCall)⟩

/-- What the processes of a network are started with. -/
structure Hosts (ι : Type) where
  coordinator : Params
  client : ι → Params
  rand : Party ι → Nat → BitVec 32
  isCoordinator : coordinator.coordinator = true
  isClient : ∀ index, (client index).coordinator = false

section Hosts

variable {ι : Type}

/-- The contexts of the processes; `phy_send` of the driver always returns 0. -/
def Hosts.setup (hosts : Hosts ι) : Setup ι where
  coordinator := ⟨hosts.coordinator, .udp, hosts.rand .coordinator, fun _ => 0⟩
  client index := ⟨hosts.client index, .udp, hosts.rand (.client index), fun _ => 0⟩
  isCoordinator := hosts.isCoordinator
  isClient := hosts.isClient

/-- Every process is started, and no datagram is on its way. -/
def Hosts.start (hosts : Hosts ι) (order : ByteOrder) : System (Party ι) Process (List Byte) :=
  ⟨fun party => .start order (hosts.setup.boot party), ⟨[], fun _ _ => false⟩, []⟩

theorem Hosts.setup_phy (hosts : Hosts ι) (party : Party ι) :
    (hosts.setup.boot party).phy = .udp := by
  cases party <;> rfl

end Hosts

/-! ### The driver follows the MAC -/

theorem flatten_bufs (frame : Frame) : (bufs frame).flatten = frame.bytes := by
  unfold bufs
  split <;> simp [Frame.bytes]

section Follow

variable (order : ByteOrder)

/-- What a driver sends and keeps while it follows the events of its MAC. -/
theorem run_driverCalls (udp : Udp) (ready : udp.Ready) (events : List Tinymac.Event) :
    let after := udp.run order (events.filterMap driverCall)
    after.Ready ∧ after.recvCb = udp.recvCb ∧ after.inbox = udp.inbox ∧
      after.received = udp.received ∧
      after.sent = udp.sent ++ (events.filterMap Tinymac.Event.airing).map
        fun airing => datagram order airing.frame.bytes := by
  intro after
  induction events generalizing udp with
  | nil => exact ⟨ready, rfl, rfl, rfl, (List.append_nil _).symm⟩
  | cons event events ih =>
      cases event with
      | phySend packet frame flags =>
          have sends : after = Udp.run order { udp with
              corked := []
              sent := udp.sent ++ [datagram order frame.bytes] } (events.filterMap driverCall) := by
            show Udp.run order (phySend order udp (bufs frame) flags).2 _ = _
            rw [phySend_eq, flatten_bufs, ready.uncorked, List.nil_append]
          obtain ⟨rest, cb, inbox, received, sent⟩ := ih { udp with
            corked := []
            sent := udp.sent ++ [datagram order frame.bytes] } ⟨ready.listening, rfl⟩
          rw [sends]
          exact ⟨rest, cb, inbox, received, sent.trans (List.append_assoc ..)⟩
      | phyStandby => exact ih udp ready
      | phyDelayedStandby us => exact ih udp ready
      | phyListen => exact ih { udp with listening := true } ⟨rfl, ready.uncorked⟩
      | txPacket | sendCb | rxCb | regCb | deregCb => exact ih udp ready

end Follow

/-! ### The refinement -/

section Refinement

variable {ι : Type} (order : ByteOrder) {hosts : Hosts ι}

/-- The datagrams of the frames a context has put on the air. -/
def datagrams (order : ByteOrder) (out : List Tinymac.Event) : List (List Byte) :=
  (out.filterMap Tinymac.Event.airing).map fun airing => datagram order airing.frame.bytes

/-- The state of a process, and the context above it. -/
structure Hosts.Runs (hosts : Hosts ι) (order : ByteOrder) (party : Party ι) (process : Process)
    (mac : Mac) : Prop where
  same : process.mac = mac
  ready : process.udp.Ready
  registered : process.udp.recvCb = true
  idle : process.udp.inbox = []
  sent : process.udp.sent = datagrams order mac.out
  reached : ∃ inputs, mac = (hosts.setup.boot party).start.run inputs

/-- A datagram, and the frame it carries. -/
structure Wire (order : ByteOrder) (bytes : List Byte) (airing : Airing) : Prop where
  bytes : bytes = datagram order airing.frame.bytes
  fits : airing.frame.bytes.length ≤ phyGetMtu

/-- The error is none, or a burst that the CRC sees. -/
def Seen (datagram : List Byte) : Option (List Byte) → Prop
  | none => True
  | some error => error.length = datagram.length ∧ Burst error ∧
      error.dropWhile (· = 0#8) ∉ blindBursts

theorem airing_mem {out : List Tinymac.Event} {airing : Airing}
    (member : airing ∈ out.filterMap Tinymac.Event.airing) :
    ∃ flags, .phySend airing.packet airing.frame flags ∈ out := by
  obtain ⟨event, logged, shows⟩ := List.mem_filterMap.mp member
  cases event with
  | phySend packet frame flags =>
      cases shows
      exact ⟨flags, logged⟩
  | _ => cases shows

/-- The frames of a context fit into a datagram of the driver. -/
theorem aired_fits (hosts : Hosts ι) {party : Party ι} {mac : Mac}
    (reached : ∃ inputs, mac = (hosts.setup.boot party).start.run inputs) {airing : Airing}
    (aired : airing ∈ mac.out.filterMap Tinymac.Event.airing) :
    airing.frame.bytes.length ≤ phyGetMtu := by
  obtain ⟨inputs, rfl⟩ := reached
  obtain ⟨flags, logged⟩ := airing_mem aired
  have sized := Tinymac.reachable_sized (hosts.setup.boot party) inputs
  rw [hosts.setup_phy] at sized
  rw [Tinymac.Frame.bytes_length, Nat.add_comm]
  exact sized.sent airing.frame (List.mem_filterMap.mpr ⟨_, logged, rfl⟩)

/-- **A step of the MAC**, with what it does to the driver. -/
theorem Hosts.Runs.step {party : Party ι} {process : Process} {mac : Mac}
    (runs : hosts.Runs order party process mac) (input : Tinymac.Input) :
    hosts.Runs order party (process.step order input) (mac.step input) ∧
      List.Forall₂ (Wire order)
        ((process.step order input).udp.sent.drop process.udp.sent.length)
        (airings mac (mac.step input)) := by
  obtain ⟨rfl, ready, registered, idle, before, inputs, reached⟩ := runs
  have follows := run_driverCalls order process.udp ready
    ((process.mac.step input).out.drop process.mac.out.length)
  obtain ⟨ready', cb, inbox, -, sent⟩ := follows
  have after : ∃ inputs, process.mac.step input = (hosts.setup.boot party).start.run inputs := by
    refine ⟨inputs ++ [input], ?_⟩
    rw [Tinymac.run_append, ← reached]
    rfl
  obtain ⟨new, grown, -⟩ := Tinymac.step_origin process.mac input
  have logged : (process.mac.step input).out.drop process.mac.out.length = new := by
    rw [grown, List.drop_left]
  refine ⟨⟨rfl, ready', cb.trans registered, inbox.trans idle, ?_, after⟩, ?_⟩
  · refine sent.trans ?_
    rw [logged, before, grown, datagrams, datagrams, List.filterMap_append, List.map_append]
  · rw [Process.step, sent, List.drop_left, List.forall₂_map_left_iff]
    refine List.forall₂_same.mpr fun airing aired => ⟨rfl, aired_fits hosts after ?_⟩
    rw [grown, List.filterMap_append]
    rw [logged] at aired
    exact List.mem_append_right _ aired

/-- **A datagram as it was sent** goes to the MAC as its frame. -/
theorem hear_clean {process : Process} (ready : process.udp.Ready)
    (registered : process.udp.recvCb = true) (idle : process.udp.inbox = []) {frame : Frame}
    (fits : frame.bytes.length ≤ phyGetMtu) :
    ∃ udp : Udp, udp.Ready ∧ udp.recvCb = true ∧ udp.inbox = [] ∧ udp.sent = process.udp.sent ∧
      process.hear order (datagram order frame.bytes) =
        Process.step order ⟨process.mac, udp⟩ (.frame frame rssiNone) := by
  refine ⟨{ process.udp with
    received := process.udp.received ++ [⟨frame.bytes, rssiNone⟩] },
    ⟨ready.listening, ready.uncorked⟩, registered, idle, rfl, ?_⟩
  have accepted := handle_datagram order { process.udp with inbox := [] } fits registered
    ready.listening
  have handled : ((process.udp.step order (.arrives (some (datagram order frame.bytes)))).step
      order .eventHandler) = { process.udp with
        received := process.udp.received ++ [⟨frame.bytes, rssiNone⟩] } := by
    rw [Udp.step, Udp.step, phyEventHandler, idle, List.nil_append]
    refine (congrArg Prod.snd accepted).trans ?_
    rw [← idle]
  rw [Process.hear, handled, List.drop_left]
  rfl

theorem handle_rejected {udp : Udp} {bytes : List Byte}
    (rejected : (udp.handle order bytes).1 = .crcError) : (udp.handle order bytes).2 = udp := by
  revert rejected
  unfold Udp.handle
  dsimp only
  split_ifs <;> simp

/-- **A burst that is seen** does not reach the MAC. -/
theorem hear_corrupt {process : Process} (idle : process.udp.inbox = []) {payload : List Byte}
    (fits : payload.length ≤ phyGetMtu) {error : List Byte}
    (seen : Seen (datagram .little payload) (some error)) :
    process.hear .little (corrupt (datagram .little payload) error) = process := by
  obtain ⟨size, burst, visible⟩ := seen
  rw [datagram, List.length_append, ByteOrder.length_bytes] at size
  have two : (error.drop payload.length).length = 2 := by
    rw [List.length_drop]
    omega
  rw [← List.take_append_drop payload.length error] at burst visible ⊢
  have rejected := (handle_corrupt_iff { process.udp with inbox := [] } fits
    (by rw [List.length_take]; omega) two).mpr fun unseen =>
      visible (blind_of_unseen two burst unseen)
  have handled : ((process.udp.step .little (.arrives (some (corrupt (datagram .little payload)
      (error.take payload.length ++ error.drop payload.length))))).step .little .eventHandler) =
      process.udp := by
    rw [Udp.step, Udp.step, phyEventHandler, idle, List.nil_append]
    refine (handle_rejected .little rejected).trans ?_
    rw [← idle]
  rw [Process.hear, handled, List.drop_length]
  rfl

/-! ### Runs -/

theorem start_runs (hosts : Hosts ι) (party : Party ι) :
    hosts.Runs order party (.start order (hosts.setup.boot party))
      (hosts.setup.boot party).start := by
  have follows := run_driverCalls order { phyInit with recvCb := true } ⟨rfl, rfl⟩
    (hosts.setup.boot party).start.out
  obtain ⟨ready, cb, inbox, -, sent⟩ := follows
  exact ⟨rfl, ready, cb, inbox, sent, [], rfl⟩

/-- A context does not act on its own frames. -/
def Deaf (_ : Party ι) (mac : Mac) : Prop :=
  ∀ packet frame flags, .phySend packet frame flags ∈ mac.out →
    ∀ rssi, mac.step (.frame frame rssi) = mac

/-- **A datagram that comes back** to the process that has sent it. -/
theorem Hosts.Runs.loopback {party : Party ι} {process : Process} {mac : Mac}
    (runs : hosts.Runs order party process mac) (deaf : Deaf party mac) (number : Nat) :
    hosts.Runs order party (process.call order (.loopback number)) mac ∧
      (process.call order (.loopback number)).udp.sent = process.udp.sent := by
  unfold Process.call
  dsimp only
  split
  case h_2 => exact ⟨runs, rfl⟩
  case h_1 bytes found =>
    have member := List.mem_of_getElem? found
    rw [runs.sent, datagrams] at member
    obtain ⟨airing, aired, rfl⟩ := List.mem_map.mp member
    obtain ⟨flags, logged⟩ := airing_mem aired
    have unmoved := deaf _ _ _ logged rssiNone
    obtain ⟨udp, ready, registered, idle, sent, heard⟩ := hear_clean order runs.ready
      runs.registered runs.idle (aired_fits hosts runs.reached aired)
    have below : hosts.Runs order party ⟨process.mac, udp⟩ mac :=
      ⟨runs.same, ready, registered, idle, sent.trans runs.sent, runs.reached⟩
    obtain ⟨after, -⟩ := below.step order (.frame airing.frame rssiNone)
    rw [unmoved] at after
    rw [heard]
    exact ⟨after, after.sent.trans runs.sent.symm⟩

theorem calls_match (hosts : Hosts ι) :
    (processDevice order).CallsMatch macDevice (hosts.Runs order) (Wire order) Deaf := by
  intro party process mac call runs deaf
  cases call with
  | mac call =>
      obtain ⟨after, sent⟩ := runs.step order call.input
      refine ⟨[call], after, ?_⟩
      rw [Device.sends_cons, Device.sends_nil, List.append_nil]
      exact sent
  | loopback number =>
      obtain ⟨after, sent⟩ := runs.loopback order deaf number
      refine ⟨[], after, ?_⟩
      show List.Forall₂ (Wire order) ((process.call order (.loopback number)).udp.sent.drop
        process.udp.sent.length) []
      rw [sent, List.drop_length]
      exact .nil

theorem hears_match (hosts : Hosts ι) :
    (processDevice .little).HearsMatch macDevice (hosts.Runs .little) (Wire .little) Deaf Seen := by
  rintro party process mac _ airing error runs - ⟨rfl, fits⟩ seen
  cases error with
  | none =>
      left
      obtain ⟨udp, ready, registered, idle, sent, heard⟩ :=
        hear_clean .little runs.ready runs.registered runs.idle fits
      have below : hosts.Runs .little party ⟨process.mac, udp⟩ mac :=
        ⟨runs.same, ready, registered, idle, sent.trans runs.sent, runs.reached⟩
      obtain ⟨after, aired⟩ := below.step .little (.frame airing.frame rssiNone)
      refine ⟨rssiNone, [], ?_, ?_⟩
      · show hosts.Runs .little party
          (process.hear .little (datagram .little airing.frame.bytes)) _
        rw [heard]
        exact after
      · show List.Forall₂ (Wire .little)
          ((process.hear .little (datagram .little airing.frame.bytes)).udp.sent.drop
            process.udp.sent.length) _
        rw [heard, Device.sends_nil, List.append_nil, ← sent]
        exact aired
  | some error =>
      right
      have unchanged : (processDevice .little).hear process (datagram .little airing.frame.bytes)
          (some error) = process := hear_corrupt runs.idle fits seen
      rw [unchanged]
      exact ⟨runs, List.drop_length⟩

end Refinement

section Network

variable {ι : Type} [DecidableEq ι]

/-- **The network over UDP is the network on the air.** For every run of processes over UDP on
little-endian hosts, in which datagrams are lost, delayed, repeated, given back to their sender and
hit by bursts that the CRC sees, there is a run of the network of their contexts that ends with the
same contexts, and with a frame on the air for each datagram. -/
theorem multicast_refines (hosts : Hosts ι)
    (acts : List (Action (Party ι) HostCall (Option (List Byte))))
    (along : (hosts.start .little).Along (processDevice .little) (System.clear Seen) acts) :
    ∃ above : List (Act ι),
      let processes := (hosts.start .little).run (processDevice .little) acts
      let net := hosts.setup.run above
      (∀ party, (processes.device party).mac = net.device party) ∧
        List.Forall₂ (fun (sent : Sent (Party ι) (List Byte)) (aired : Sent (Party ι) Airing) =>
          sent.sender = aired.sender ∧
            sent.message = datagram .little aired.message.frame.bytes)
          processes.medium.sent net.medium.sent := by
  have start : Carries (hosts.Runs .little) (Wire .little) (hosts.start .little)
      hosts.setup.start :=
    ⟨fun party => start_runs .little hosts party, .nil, rfl⟩
  have deaf (above : List (Act ι)) (party : Party ι) :
      Deaf party ((hosts.setup.run above).device party) := by
    intro packet frame flags logged rssi
    have same : party.sameRole party := by cases party <;> trivial
    exact (Tinymac.reachable_linked hosts.setup above).ignores same logged rssi
  obtain ⟨above, carries⟩ := start.run (calls_match .little hosts) (hears_match hosts) deaf acts
    along
  refine ⟨above, fun party => (carries.device party).same, carries.sent.imp ?_⟩
  exact fun _ _ related => ⟨related.sender, related.message.bytes⟩

end Network

/-- A coordinator that lets devices attach, and one client. -/
def twoHosts : Hosts Unit where
  coordinator := ⟨0xC0#64, true, 0#16, 15#8, 0#8⟩
  client _ := ⟨1#64, false, 0#16, 0#8, 0#8⟩
  rand _ _ := 0x2A#32
  isCoordinator := rfl
  isClient _ := rfl

/-- The client asks for a beacon, and its request comes back to it. The coordinator gets the request
with a byte inverted, and then as it was sent. -/
def requestTwice : List (Action (Party Unit) HostCall (Option (List Byte))) :=
  [.call .coordinator (.mac (.permitAttach true)), .call (.client ()) (.mac .tick),
    .call (.client ()) (.loopback 0),
    .hear .coordinator 0 (some (0xFF#8 :: List.replicate 7 0#8)) true,
    .hear .coordinator 0 none false]

theorem multicast_refines_request :
    ((twoHosts.start .little).run (processDevice .little) requestTwice).medium.sent.length = 2 ∧
      ∃ above : List (Act Unit),
        (((twoHosts.start .little).run (processDevice .little) requestTwice).device
          .coordinator).mac = (twoHosts.setup.run above).device .coordinator := by
  have request : ((((twoHosts.start .little).run (processDevice .little)
      (requestTwice.take 3)).medium.deliverable .coordinator 0).map
      Sent.message) = some [0x01#8, 0x00#8, 0xFF#8, 0xFF#8, 0xFF#8, 0x2B#8, 0x96#8,
        0x57#8] := by
    decide +kernel
  refine ⟨by decide +kernel, ?_⟩
  have burst : Burst (0xFF#8 :: List.replicate 7 0#8) :=
    @Burst.of_bits _ 0 0 (by decide) (by decide)
  obtain ⟨above, contexts, -⟩ := multicast_refines twoHosts requestTwice
    ⟨trivial, trivial, trivial, fun sent found => by
      have bytes := (congrArg (Option.map Sent.message) found).symm.trans request
      rw [Option.some.inj bytes]
      exact ⟨rfl, burst, by decide⟩, fun _ _ => trivial, trivial⟩
  exact ⟨above, contexts .coordinator⟩

end TinyHan.PhyUdp
