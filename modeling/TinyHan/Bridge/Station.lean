/-
**MQTT-SN over TinyHAN** (`mqttsn-simple-gateway/main.c` and `mqttsn-client/main.c`).

A station is a process: a TinyMAC context and the program above it. The program of the coordinator
is the gateway. It has a UDP socket for each short address: what a device sends goes to the broker
from the socket of its address, and what the broker sends to a socket goes to the device with that
address. The program of every other station is a MQTT-SN client.

* `rx_cb` is the last thing that `tinymac_recv_cb` does, so what the receive handler of a program
  calls in the MAC comes after the reception.
* A MQTT-SN client never looks at the result of `cb_send`, so what it hands over in one call goes to
  the MAC in one go.
* `rx_handler` of the gateway reads the address of the node it is given. There is none if the sender
  has no short address, and the process dies.

`stations_refine`: the contexts of the stations run as a network of `Network.Air`, so that whatever
holds in every run of a network holds below the programs.
-/

import TinyHan.Lib.Simulation
import TinyHan.Mqttsn.Client
import TinyHan.Network.Linked

namespace TinyHan.Bridge

open TinyHan.Lib
open TinyHan.Tinymac (Mac NodePtr Party Setup Net Act Airing airings macDevice)
open TinyHan.Mqttsn (Config Session Time mqttsnCInit maxClientTopics)

/-! ### Programs -/

/-- `tinymacType_MQTTSN`. -/
def typeMqttsn : BitVec 8 := 18#8
/-- `MAX_PAYLOAD` of the gateway. -/
def maxPayload : Nat := 1024

/-- The programs. -/
inductive Program where
  | gateway
  | client (config : Config)

/-- The state of a program. Of the gateway it is what was sent to the broker, with the address
whose socket it was sent from. -/
inductive App where
  | off (program : Program)
  | gateway (relayed : List (BitVec 8 × List Byte))
  | dead (relayed : List (BitVec 8 × List Byte))
  | client (config : Config) (session : Session)

/-- A process. -/
structure Station where
  mac : Mac
  app : App

/-- What is handed to `cb_send`. -/
def packet : Mqttsn.Event → Option (List Byte)
  | .send bytes _ _ => some bytes
  | .resend bytes => some bytes
  | _ => none

/-- `packet_send` of the client, for each packet that it hands over. -/
def packetSend (mac : Mac) (packets : List (List Byte)) : Mac :=
  packets.foldl (fun mac bytes => mac.step (.send 0#8 typeMqttsn bytes 0#16 none)) mac

/-- A call of the MQTT-SN client. -/
def Station.drive (station : Station) (config : Config) (session : Session)
    (input : Mqttsn.Input) : Station :=
  let after := session.step config input
  ⟨packetSend station.mac ((after.log.drop session.log.length).filterMap packet),
    .client config after⟩

/-- `rx_handler` of either program. -/
def Station.rxHandler (station : Station) (now : Nat → Time) (node : Option NodePtr)
    (type : BitVec 8) (payload : List Byte) : Station :=
  if type = typeMqttsn then
    match station.app with
    | .gateway relayed =>
        match node with
        | some ptr => { station with
            app := .gateway (relayed ++ [((station.mac.ctx.node ptr).addr, payload)]) }
        | none => { station with app := .dead relayed }
    | .client config session => station.drive config session (.handler now (some payload))
    | .off _ | .dead _ => station
  else station

/-- The upcall of an event of the MAC. -/
def Station.upcall (now : Nat → Time) (station : Station) : Tinymac.Event → Station
  | .rxCb node type payload => station.rxHandler now node type payload
  | _ => station

/-- The MAC takes a step and calls the program on its way. -/
def Station.step (station : Station) (now : Nat → Time) (input : Tinymac.Input) : Station :=
  let mac := station.mac.step input
  (mac.out.drop station.mac.out.length).foldl (Station.upcall now) ⟨mac, station.app⟩

/-- What happens to a process by itself. A process is not ended: the signal that breaks the loop of
`main`, and the `mqttsn_c_disconnect` of a client behind it, are left out. -/
inductive StationCall where
  /-- `main` up to its loop. -/
  | main (now : Nat → Time)
  | tick (now : Nat → Time)
  /-- The broker sends a datagram to the socket of a device. -/
  | broker (device : BitVec 8) (datagram : List Byte)
  | connect (now : Nat → Time)
  | publish (now : Nat → Time) (index : Fin maxClientTopics) (qos : Int) (data : List Byte)

/-- `main` registers the receive handler. The gateway then lets devices attach, and a client
connects. -/
def Station.main (station : Station) (now : Nat → Time) : Program → Station
  | .gateway =>
      ⟨(station.mac.step (.registerRecvCb true)).step (.permitAttach true), .gateway []⟩
  | .client config =>
      Station.drive ⟨station.mac.step (.registerRecvCb true), station.app⟩ config mqttsnCInit
        (.connect now)

/-- A call of a process that is running. -/
def Station.call (station : Station) (call : StationCall) : Station :=
  match station.app, call with
  | .off program, .main now => station.main now program
  | .gateway _, .tick now => station.step now .tick
  | .gateway _, .broker device datagram =>
      station.step (fun _ => 0)
        (.send device typeMqttsn (datagram.take maxPayload) 0#16 none)
  | .client _ _, .tick now =>
      let station := station.step now .tick
      match station.app with
      | .client config session => station.drive config session (.handler now none)
      | _ => station
  | .client config session, .connect now => station.drive config session (.connect now)
  | .client config session, .publish now index qos data =>
      station.drive config session (.publish now index qos data)
  | _, _ => station

/-- A frame arrives at a process. -/
def Station.hear (station : Station) (frame : Tinymac.Frame) (rssi : Int) (now : Nat → Time) :
    Station :=
  match station.app with
  | .off _ | .dead _ => station
  | .gateway _ | .client _ _ => station.step now (.frame frame rssi)

/-- A process as a device; a reception has a signal strength and the readings of the clock. -/
def stationDevice : Device Station StationCall Airing (Int × (Nat → Time)) where
  call := Station.call
  hear station airing reception := station.hear airing.frame reception.1 reception.2
  sent before after := airings before.mac after.mac

/-- What the processes are started with. -/
structure Site (ι : Type) where
  setup : Setup ι
  config : ι → Config

section Site

variable {ι : Type}

/-- The program of a station. -/
def Site.program (site : Site ι) : Party ι → Program
  | .coordinator => .gateway
  | .client index => .client (site.config index)

/-- The stations of a network. -/
abbrev Stations (ι : Type) := System (Party ι) Station Airing

/-- What can happen to them. -/
abbrev StationAct (ι : Type) := Action (Party ι) StationCall (Int × (Nat → Time))

/-- No program is running, and the MACs are initialised. -/
def Site.start (site : Site ι) : Stations ι :=
  ⟨fun party => ⟨(site.setup.boot party).start, .off (site.program party)⟩,
    ⟨[], fun _ _ => false⟩, []⟩

def Site.run [DecidableEq ι] (site : Site ι) (acts : List (StationAct ι)) : Stations ι :=
  site.start.run stationDevice acts

end Site

/-! ### The contexts below the programs -/

theorem airings_self (mac : Mac) : airings mac mac = [] := by
  rw [airings, List.drop_length]
  rfl

/-- What a context has put on the air in two parts. -/
theorem airings_append {mac middle after : Mac}
    (one : Tinymac.Emits (fun _ => True) mac middle)
    (two : Tinymac.Emits (fun _ => True) middle after) :
    airings mac after = airings mac middle ++ airings middle after := by
  obtain ⟨first, grown, -⟩ := one
  obtain ⟨second, more, -⟩ := two
  rw [airings, airings, airings, more, grown, List.append_assoc, List.drop_left, List.drop_left,
    ← List.append_assoc, List.drop_left, List.filterMap_append]

theorem step_grows (mac : Mac) (input : Tinymac.Input) :
    Tinymac.Emits (fun _ => True) mac (mac.step input) :=
  (Tinymac.step_origin mac input).mono fun _ _ => trivial

theorem calls_grow (mac : Mac) (calls : List Tinymac.Call) :
    Tinymac.Emits (fun _ => True) mac (macDevice.calls mac calls) := by
  induction calls generalizing mac with
  | nil => exact .refl mac
  | cons call calls ih => exact (step_grows mac call.input).trans (ih _)

/-- What a context sends in some calls. -/
theorem sends_eq (mac : Mac) (calls : List Tinymac.Call) :
    macDevice.sends mac calls = airings mac (macDevice.calls mac calls) := by
  induction calls generalizing mac with
  | nil => exact (airings_self mac).symm
  | cons call calls ih =>
      rw [Device.sends_cons, ih, Device.calls_cons]
      exact (airings_append (step_grows mac call.input) (calls_grow _ calls)).symm

/-- The second context is the first one after some calls. -/
def Called (mac after : Mac) : Prop := ∃ calls, after = macDevice.calls mac calls

theorem Called.refl (mac : Mac) : Called mac mac := ⟨[], rfl⟩

theorem Called.trans {mac middle after : Mac} (one : Called mac middle)
    (two : Called middle after) : Called mac after := by
  obtain ⟨first, rfl⟩ := one
  obtain ⟨second, rfl⟩ := two
  exact ⟨first ++ second, (macDevice.calls_append mac first second).symm⟩

theorem called_step (mac : Mac) (call : Tinymac.Call) : Called mac (mac.step call.input) :=
  ⟨[call], rfl⟩

theorem packetSend_called (mac : Mac) (packets : List (List Byte)) :
    Called mac (packetSend mac packets) := by
  induction packets generalizing mac with
  | nil => exact .refl mac
  | cons bytes packets ih =>
      exact (called_step mac (.send 0#8 typeMqttsn bytes 0#16 none)).trans (ih _)

section Station

variable (station : Station) (now : Nat → Time)

theorem rxHandler_called (node : Option NodePtr) (type : BitVec 8) (payload : List Byte) :
    Called station.mac (station.rxHandler now node type payload).mac := by
  unfold Station.rxHandler
  split
  · split
    · split <;> exact .refl _
    · exact packetSend_called _ _
    · exact .refl _
    · exact .refl _
  · exact .refl _

theorem upcalls_called (events : List Tinymac.Event) :
    Called station.mac (events.foldl (Station.upcall now) station).mac := by
  induction events generalizing station with
  | nil => exact .refl _
  | cons event events ih =>
      refine Called.trans ?_ (ih (station.upcall now event))
      cases event with
      | rxCb node type payload => exact rxHandler_called station now node type payload
      | _ => exact .refl _

theorem step_called (input : Tinymac.Input) :
    Called (station.mac.step input) (station.step now input).mac :=
  upcalls_called ⟨station.mac.step input, station.app⟩ now _

/-- A process that is running passes a frame to its MAC. -/
theorem hear_cases (frame : Tinymac.Frame) (rssi : Int) :
    station.hear frame rssi now = station ∨
      station.hear frame rssi now = station.step now (.frame frame rssi) := by
  unfold Station.hear
  split
  · exact .inl rfl
  · exact .inl rfl
  · exact .inr rfl
  · exact .inr rfl

theorem call_called (call : StationCall) : Called station.mac (station.call call).mac := by
  unfold Station.call
  split
  · next program now _ =>
    cases program with
    | gateway =>
        exact (called_step _ (.registerRecvCb true)).trans (called_step _ (.permitAttach true))
    | client config =>
        exact (called_step _ (.registerRecvCb true)).trans (packetSend_called _ _)
  · exact (called_step _ .tick).trans (step_called station _ .tick)
  · exact (called_step _ (.send ..)).trans (step_called station _ _)
  · have ticked := (called_step _ .tick).trans (step_called station ‹_› .tick)
    dsimp only
    split
    · exact ticked.trans (packetSend_called _ _)
    · exact ticked
  · exact packetSend_called _ _
  · exact packetSend_called _ _
  · exact .refl _

end Station

/-! ### The refinement -/

section Refinement

variable {ι : Type}

/-- A station, and the context in the network. -/
def Runs (_ : Party ι) (station : Station) (mac : Mac) : Prop := station.mac = mac

/-- Nothing needs to be known of the contexts. -/
def Anything (_ : Party ι) (_ : Mac) : Prop := True

theorem calls_match :
    stationDevice.CallsMatch macDevice (Runs : Party ι → Station → Mac → Prop) Eq Anything := by
  rintro party station _ call rfl -
  obtain ⟨calls, after⟩ := call_called station call
  refine ⟨calls, after, ?_⟩
  rw [sends_eq, ← after, List.forall₂_eq_eq_eq]
  rfl

theorem hears_match : stationDevice.HearsMatch macDevice
    (Runs : Party ι → Station → Mac → Prop) Eq Anything fun _ _ => True := by
  rintro party station _ airing _ ⟨rssi, now⟩ rfl - rfl -
  show (∃ quality calls, Runs party (station.hear airing.frame rssi now)
      (macDevice.calls (station.mac.step (.frame airing.frame quality)) calls) ∧ _) ∨
    Runs party (station.hear airing.frame rssi now) station.mac ∧
      airings station.mac (station.hear airing.frame rssi now).mac = []
  rcases hear_cases station now airing.frame rssi with is | is
  · rw [is]
    exact .inr ⟨rfl, airings_self station.mac⟩
  · obtain ⟨calls, after⟩ := step_called station now (.frame airing.frame rssi)
    refine .inl ⟨rssi, calls, by rw [is]; exact after, ?_⟩
    show List.Forall₂ Eq (airings station.mac (station.hear airing.frame rssi now).mac)
      (airings station.mac (station.mac.step (.frame airing.frame rssi)) ++
        macDevice.sends (station.mac.step (.frame airing.frame rssi)) calls)
    rw [is, sends_eq, ← airings_append (step_grows _ _) (calls_grow _ calls), ← after,
      List.forall₂_eq_eq_eq]

variable [DecidableEq ι]

theorem stations_carried (site : Site ι) (acts : List (StationAct ι)) :
    ∃ above : List (Act ι), Carries (Runs : Party ι → Station → Mac → Prop) Eq (site.run acts)
      (site.setup.run above) := by
  have start : Carries (Runs : Party ι → Station → Mac → Prop) Eq site.start site.setup.start :=
    ⟨fun _ => rfl, .nil, rfl⟩
  exact start.run calls_match hears_match (fun _ _ => trivial) acts
    (System.along_always System.clear_always _ acts)

/-- **The stations are a network.** For every run of the gateway and its clients there is a run of
the network of their contexts that ends with the same contexts and the same frames on the air. -/
theorem stations_refine (site : Site ι) (acts : List (StationAct ι)) :
    ∃ above : List (Act ι),
      (∀ party, ((site.run acts).device party).mac = (site.setup.run above).device party) ∧
        List.Forall₂ (fun (below above : Sent (Party ι) Airing) =>
            below.sender = above.sender ∧ below.message = above.message)
          (site.run acts).medium.sent (site.setup.run above).medium.sent := by
  obtain ⟨above, carries⟩ := stations_carried site acts
  exact ⟨above, carries.device, carries.sent.imp fun _ _ related =>
    ⟨related.sender, related.message⟩⟩

/-- The contexts of the stations, and what is on the air. -/
def below (stations : Stations ι) : Net ι :=
  ⟨fun party => (stations.device party).mac, stations.medium, []⟩

/-- **The network below the stations is linked.** -/
theorem stations_linked (site : Site ι) (acts : List (StationAct ι)) :
    Tinymac.Linked site.setup (below (site.run acts)) := by
  obtain ⟨above, carries⟩ := stations_carried site acts
  have linked := Tinymac.reachable_linked site.setup above
  have device : (below (site.run acts)).device = (site.setup.run above).device :=
    funext carries.device
  have aired {number : Nat} {sent : Sent (Party ι) Airing}
      (found : (below (site.run acts)).medium.sent[number]? = some sent) :
      ∃ same, (site.setup.run above).medium.sent[number]? = some same ∧
        Relates Eq sent same := by
    have both := relates_getElem? carries.sent number
    rw [show (site.run acts).medium.sent[number]? = some sent from found] at both
    generalize (site.setup.run above).medium.sent[number]? = upper at both
    cases both with
    | some related => exact ⟨_, rfl, related⟩
  refine ⟨⟨fun party => ?_, fun number sent found => ?_⟩, fun index => ?_,
    fun number sent found => ?_, fun index => ?_, ?_⟩
  · rw [device]
    exact linked.backs.reached party
  · obtain ⟨same, upper, related⟩ := aired found
    rw [device, related.sender, related.message]
    exact linked.backs.logged number same upper
  · rw [device]
    exact linked.uplink index
  · obtain ⟨same, upper, related⟩ := aired found
    rw [related.message]
    exact linked.genuine number same upper
  · rw [device]
    exact linked.upward index
  · rw [device]
    exact linked.unicast

end Refinement

end TinyHan.Bridge
