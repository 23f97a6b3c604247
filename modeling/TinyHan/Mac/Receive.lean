/-
**Receive handlers** of `tinymac.c`.

`tinymac_recv_cb` filters a frame by network and address, looks its source up, acknowledges it and
releases pending data, and hands the rest to the application or to the handler of its control
type. The buffer is the memory behind the PHY's pointer; `size` is what the PHY says of it.
-/

import TinyHan.Mac.Transmit

namespace TinyHan.Tinymac

open TinyHan.Lib

/-- `tinymac_rx_beacon`. -/
def tinymacRxBeacon (σ : Mac) (hdr : Header) (buf : Memory) (size : Nat) : Mac :=
  if σ.ctx.params.coordinator then σ
  else
    let beacon := readBeacon buf (size - headerSize - beaconSize)
    let σ := if σ.ctx.state = .beaconRequest then σ.update Ctx.cancelRequest else σ
    match σ.ctx.state with
    | .unregistered | .beaconRequest =>
        if beacon.flags &&& beaconFlagsPermitAttach != 0#8 then
          let attach : RegistrationRequest := ⟨σ.ctx.params.uuid, σ.ctx.params.flags⟩
          let σ := σ.update fun ctx => ctx.bind hdr beacon.uuid
          let σ := (tinymacTxPacket σ (some .coord) PacketType.registrationRequest.code attach.bytes
            0#16 none).2
          σ.update fun ctx => ctx.armRequest (millis registrationTimeout)
        else σ
    | .registered =>
        if beacon.addressList.any (· == σ.ctx.addr) then
          (tinymacTxPacket σ (some .coord) PacketType.poll.code [] 0#16 none).2
        else σ
    | .registering => σ

/-- `tinymac_rx_registration_response`. -/
def tinymacRxRegistrationResponse (σ : Mac) (hdr : Header) (buf : Memory) : Mac :=
  if σ.ctx.params.coordinator then σ
  else
    let resp := readRegistrationResponse buf
    if resp.uuid ≠ σ.ctx.params.uuid then
      -- a broadcast for another device, or an address clash
      if hdr.destAddr = addrBroadcast then σ else σ.update Ctx.detach
    else
      let σ := if σ.ctx.state = .registering then σ.update Ctx.cancelRequest else σ
      if resp.addr = addrUnassigned ∨ resp.status ≠ RegistrationStatus.success.code then
        σ.update Ctx.detach
      else if σ.ctx.state = .registering then σ.update fun ctx => ctx.attach hdr.netId resp.addr
      else σ

/-- The slot a registration request is given: the one that holds its UUID, or a free one. -/
def Ctx.registrationSlot (ctx : Ctx) (uuid : BitVec 64) : Option Slot :=
  (tinymacGetNodeByUuid ctx uuid).or (tinymacGetFreeNode ctx)

/-- `tinymac_rx_registration_request`. -/
def tinymacRxRegistrationRequest (σ : Mac) (buf : Memory) : Mac :=
  if σ.ctx.params.coordinator = false then σ
  else
    let attach := readRegistrationRequest buf
    let node := σ.ctx.registrationSlot attach.uuid
    let now := σ.ctx.tickCount
    let (σ, resp) : Mac × RegistrationResponse := match node with
      | some index =>
          (σ.modify (.slot index) fun node => node.register attach now,
            ⟨attach.uuid, (σ.ctx.nodes index).addr, RegistrationStatus.success.code⟩)
      | none => (σ, ⟨attach.uuid, addrUnassigned, RegistrationStatus.networkFull.code⟩)
    let σ := (tinymacTxPacket σ none PacketType.registrationResponse.code resp.bytes 0#16 none).2
    if σ.ctx.regCb then σ.emit (.regCb (node.map .slot)) else σ

/-- `tinymac_rx_deregistration_request`. -/
def tinymacRxDeregistrationRequest (σ : Mac) (hdr : Header) (buf : Memory) : Mac :=
  if σ.ctx.params.coordinator = false then σ
  else
    let detach := readDeregistrationRequest buf
    match tinymacGetNodeByAddr σ.ctx hdr.srcAddr with
    | none => σ
    | some ptr =>
        if (σ.node ptr).uuid ≠ detach.uuid then σ
        else
          let resp : RegistrationResponse :=
            ⟨detach.uuid, addrUnassigned, RegistrationStatus.success.code⟩
          let σ := (tinymacTxPacket σ (some ptr) PacketType.registrationResponse.code resp.bytes
            0#16 none).2
          tinymacDeregisterNode σ ptr

/-- The Ack case of `tinymac_recv_cb`: an acknowledgement of the packet the node waits for. -/
def tinymacRxAck (σ : Mac) (node : Option NodePtr) (hdr : Header) : Mac :=
  match node with
  | some ptr =>
      if (σ.node ptr).state = .waitAck ∧ hdr.seq = (σ.node ptr).pendingHeader.seq then
        let σ := σ.modify ptr fun node =>
          ((node.setState .registered).cancelAck).cancelValidity
        σ.invokeSendCb ptr 0
      else σ
  | none => σ

/-- The switch of `tinymac_recv_cb` over the control types. -/
def tinymacRecvControl (σ : Mac) (type : PacketType) (node : Option NodePtr) (hdr : Header)
    (buf : Memory) (size : Nat) : Mac :=
  match type with
  | .beacon => if size < headerSize + beaconSize then σ else tinymacRxBeacon σ hdr buf size
  | .ack => tinymacRxAck σ node hdr
  | .poll => σ
  | .beaconRequest => tinymacTxBeacon σ false
  | .registrationRequest =>
      if size < headerSize + registrationRequestSize then σ
      else tinymacRxRegistrationRequest σ buf
  | .deregistrationRequest =>
      if size < headerSize + deregistrationRequestSize then σ
      else tinymacRxDeregistrationRequest σ hdr buf
  | .registrationResponse =>
      if size < headerSize + registrationResponseSize then σ
      else tinymacRxRegistrationResponse σ hdr buf

/-- The end of `tinymac_recv_cb`: data for the application, or a control packet. -/
def tinymacRecvType (σ : Mac) (node : Option NodePtr) (hdr : Header) (buf : Memory)
    (size : Nat) : Mac :=
  if typeRawData ≤ hdr.type then
    if σ.ctx.rxCb then
      σ.emit (.rxCb node (hdr.type &&& flagsTypeMask.setWidth 8)
        (window buf headerSize (size - headerSize)))
    else σ
  else
    match PacketType.ofCode hdr.type with
    | some type => tinymacRecvControl σ type node hdr buf size
    | none => σ

/-- The destination filter of `tinymac_recv_cb`: our network and address, our network and
broadcast, the wildcard network and broadcast, or any network and broadcast while we have no
network. -/
def Ctx.addressed (ctx : Ctx) (hdr : Header) : Bool :=
  (hdr.netId == ctx.netId && (hdr.destAddr == ctx.addr || hdr.destAddr == addrBroadcast)) ||
    (hdr.netId == networkAny && hdr.destAddr == addrBroadcast) ||
    (ctx.netId == networkAny && hdr.destAddr == addrBroadcast)

/-- Broadcasts to all networks and unassigned sources are only for a coordinator that permits
attachment. -/
def Ctx.admitted (ctx : Ctx) (hdr : Header) : Bool :=
  !(hdr.netId == networkAny || hdr.srcAddr == addrUnassigned) ||
    (ctx.params.coordinator && ctx.permitAttach)

/-- The checks a frame passes before `tinymac_recv_cb` looks its source up. -/
def Ctx.accepts (ctx : Ctx) (hdr : Header) (size : Nat) : Bool :=
  !(size < headerSize) && !(hdr.srcAddr == ctx.addr) && ctx.addressed hdr && ctx.admitted hdr

/-- The frame's source is heard: its time and signal strength, then the acknowledgement it asked
for, then the packet that waits for it. -/
def tinymacRecvKnown (σ : Mac) (ptr : NodePtr) (hdr : Header) (rssi : Int) : Mac :=
  let now := σ.ctx.tickCount
  let σ := σ.modify ptr fun node => node.heard now rssi
  let σ := if hdr.ackRequest then tinymacTxAck σ ptr hdr.seq else σ
  tinymacTxPending σ ptr

/-- The temporary record for an unknown source. -/
def dummyNode (addr : BitVec 8) : Node := { Node.zero with addr := addr, state := .registered }

/-- An unknown source: a coordinator forces every node that uses the address to register again. -/
def tinymacRecvUnknown (σ : Mac) (hdr : Header) : Mac :=
  if σ.ctx.params.coordinator then
    let resp : RegistrationResponse :=
      ⟨0#64, addrUnassigned, RegistrationStatus.addressInvalid.code⟩
    (tinymacTxPacket σ (some (.temp (dummyNode hdr.srcAddr)))
      PacketType.registrationResponse.code resp.bytes 0#16 none).2
  else σ

/-- The receiver of a sleepy node goes off unless more data is on its way. -/
def tinymacRecvStandby (σ : Mac) (hdr : Header) : Mac :=
  if σ.ctx.params.sleepy then
    σ.emit (if hdr.dataPending then .phyDelayedStandby listenPeriodUs else .phyStandby)
  else σ

/-- `tinymac_recv_cb`. -/
def tinymacRecvCb (σ : Mac) (buf : Memory) (size : Nat) (rssi : Int) : Mac :=
  let hdr := readHeader buf
  if σ.ctx.accepts hdr size then
    let σ := tinymacRecvStandby σ hdr
    if σ.ctx.addr ≠ addrUnassigned ∧ hdr.srcAddr ≠ addrUnassigned then
      match tinymacGetNodeByAddr σ.ctx hdr.srcAddr with
      | some ptr => tinymacRecvType (tinymacRecvKnown σ ptr hdr rssi) (some ptr) hdr buf size
      | none => tinymacRecvUnknown σ hdr
    else tinymacRecvType σ none hdr buf size
  else σ

end TinyHan.Tinymac
