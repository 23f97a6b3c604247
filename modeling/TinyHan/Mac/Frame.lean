/-
**TinyMAC frames on the wire** (the protocol half of `tinymac.h`).

A frame is a packed six-byte header and a payload. The structures of the header file are overlaid
on the receive buffer in host byte order, which is little-endian on every target of the library,
so a reader here takes the memory behind the buffer pointer and looks at fixed offsets of it.

* `Header`, `Frame`, `Frame.bytes`: what `phy_send` is handed;
* `readHeader` and the payload readers: what the receive handlers look at, through a pointer that
  carries no length;
* `readHeader_frame`, `readRegistrationRequest_frame`, ...: reading a frame that was written gives
  back what was written.
-/

import TinyHan.Lib.Bytes

namespace TinyHan.Tinymac

open TinyHan.Lib

/-! ### Constants -/

/-- `TINYMAC_ADDR_BROADCAST`. -/
def addrBroadcast : BitVec 8 := 0xFF#8
/-- `TINYMAC_ADDR_UNASSIGNED`. -/
def addrUnassigned : BitVec 8 := 0xFF#8
/-- `TINYMAC_NETWORK_ANY`. -/
def networkAny : BitVec 8 := 0xFF#8

/-- `TINYMAC_FLAGS_VERSION`. -/
def flagsVersion : BitVec 16 := 0#16
/-- `TINYMAC_FLAGS_DATA_PENDING`. -/
def flagsDataPending : BitVec 16 := 0x80#16
/-- `TINYMAC_FLAGS_ACK_REQUEST`. -/
def flagsAckRequest : BitVec 16 := 0x40#16
/-- `TINYMAC_FLAGS_TYPE_MASK`. -/
def flagsTypeMask : BitVec 16 := 0x1F#16

/-- `TINYMAC_BEACON_FLAGS_PERMIT_ATTACH`. -/
def beaconFlagsPermitAttach : BitVec 8 := 0x02#8
/-- `TINYMAC_BEACON_FLAGS_SYNC`. -/
def beaconFlagsSync : BitVec 8 := 0x01#8
/-- `TINYMAC_BEACON_INTERVAL_NO_BEACON`. -/
def beaconIntervalNoBeacon : BitVec 8 := 0x0F#8

/-- `TINYMAC_ATTACH_FLAGS_SLEEPY`. -/
def attachFlagsSleepy : BitVec 16 := 0x10#16
/-- `TINYMAC_ATTACH_HEARTBEAT_MASK`. -/
def attachHeartbeatMask : BitVec 16 := 0x0F#16

/-- The MAC control types of `tinymac_packet_type_t`; every other type below `tinymacType_RawData`
is reserved. -/
inductive PacketType where
  | beacon
  | beaconRequest
  | poll
  | ack
  | registrationRequest
  | deregistrationRequest
  | registrationResponse
  deriving DecidableEq, Repr

/-- The number of a control type. -/
def PacketType.code : PacketType → BitVec 8
  | .beacon => 0#8
  | .beaconRequest => 1#8
  | .poll => 2#8
  | .ack => 3#8
  | .registrationRequest => 4#8
  | .deregistrationRequest => 5#8
  | .registrationResponse => 6#8

/-- The control type with a number, if there is one: the cases of the switch in
`tinymac_recv_cb`. -/
def PacketType.ofCode (code : BitVec 8) : Option PacketType :=
  if code = 0#8 then some .beacon
  else if code = 1#8 then some .beaconRequest
  else if code = 2#8 then some .poll
  else if code = 3#8 then some .ack
  else if code = 4#8 then some .registrationRequest
  else if code = 5#8 then some .deregistrationRequest
  else if code = 6#8 then some .registrationResponse
  else none

@[simp] theorem PacketType.ofCode_code (type : PacketType) :
    PacketType.ofCode type.code = some type := by
  cases type <;> rfl

theorem PacketType.ofCode_eq_some {code : BitVec 8} {type : PacketType} :
    PacketType.ofCode code = some type ↔ code = type.code := by
  constructor
  · intro found
    unfold PacketType.ofCode at found
    split_ifs at found with h0 h1 h2 h3 h4 h5 h6 <;> cases found <;> assumption
  · rintro rfl
    exact PacketType.ofCode_code type

/-- `tinymacType_RawData`, the first type that belongs to the application. -/
def typeRawData : BitVec 8 := 16#8

/-- `tinymac_registration_status_t`. -/
inductive RegistrationStatus where
  | success
  | accessDenied
  | networkFull
  | shutdown
  | admin
  | addressInvalid
  deriving DecidableEq, Repr

/-- The number of a registration status. -/
def RegistrationStatus.code : RegistrationStatus → BitVec 8
  | .success => 0#8
  | .accessDenied => 1#8
  | .networkFull => 2#8
  | .shutdown => 3#8
  | .admin => 4#8
  | .addressInvalid => 5#8

/-! ### Headers and frames -/

/-- `tinymac_header_t`. -/
structure Header where
  flags : BitVec 16
  netId : BitVec 8
  destAddr : BitVec 8
  srcAddr : BitVec 8
  seq : BitVec 8
  deriving DecidableEq, Repr

/-- `sizeof(tinymac_header_t)`. -/
def headerSize : Nat := 6

/-- `hdr.flags & TINYMAC_FLAGS_TYPE_MASK`, as the byte the receive handler keeps it in. -/
def Header.type (hdr : Header) : BitVec 8 := (hdr.flags &&& flagsTypeMask).setWidth 8

/-- The type has no bits but those of the mask. -/
@[simp] theorem Header.type_mask (hdr : Header) :
    hdr.type &&& flagsTypeMask.setWidth 8 = hdr.type := by
  rw [Header.type, ← BitVec.setWidth_and, BitVec.and_assoc, BitVec.and_self]

/-- `hdr.flags & TINYMAC_FLAGS_ACK_REQUEST`. -/
def Header.ackRequest (hdr : Header) : Bool := hdr.flags &&& flagsAckRequest != 0#16

/-- `hdr.flags & TINYMAC_FLAGS_DATA_PENDING`. -/
def Header.dataPending (hdr : Header) : Bool := hdr.flags &&& flagsDataPending != 0#16

/-- The header flags of a packet with the given type and flag bits. -/
def headerFlags (flagsType : BitVec 8) : BitVec 16 := flagsVersion ||| flagsType.setWidth 16

/-- `flags_type & TINYMAC_FLAGS_ACK_REQUEST`. -/
def ackRequested (flagsType : BitVec 8) : Bool := headerFlags flagsType &&& flagsAckRequest != 0#16

theorem headerFlags_type (flagsType : BitVec 8) :
    (headerFlags flagsType &&& flagsTypeMask).setWidth 8 =
      flagsType &&& flagsTypeMask.setWidth 8 := by
  simp [headerFlags, flagsVersion, BitVec.setWidth_and]

/-- Control types are their own header type. -/
@[simp] theorem headerFlags_control (type : PacketType) :
    (headerFlags type.code &&& flagsTypeMask).setWidth 8 = type.code := by
  cases type <;> decide

/-- A packet as `phy_send` is handed it: the header and the payload fragments behind it. -/
structure Frame where
  hdr : Header
  payload : List Byte
  deriving DecidableEq, Repr

/-- The packed header. -/
def Header.bytes (hdr : Header) : List Byte :=
  leBytes 2 hdr.flags.toNat ++ [hdr.netId, hdr.destAddr, hdr.srcAddr, hdr.seq]

/-- The bytes on the air. -/
def Frame.bytes (frame : Frame) : List Byte := frame.hdr.bytes ++ frame.payload

@[simp] theorem Header.bytes_length (hdr : Header) : hdr.bytes.length = headerSize := by
  simp [Header.bytes, headerSize]

@[simp] theorem Frame.bytes_length (frame : Frame) :
    frame.bytes.length = headerSize + frame.payload.length := by
  simp [Frame.bytes]

/-- The buffer a receiver is handed for a frame: its bytes, at the start of a buffer. -/
def Frame.memory (frame : Frame) : Memory := ofList frame.bytes

/-- The header at the start of a receive buffer. -/
def readHeader (buf : Memory) : Header where
  flags := BitVec.ofNat 16 (leValue (window buf 0 2))
  netId := buf 2
  destAddr := buf 3
  srcAddr := buf 4
  seq := buf 5

/-- **A written header is read back.** -/
@[simp] theorem readHeader_frame (frame : Frame) : readHeader frame.memory = frame.hdr := by
  obtain ⟨⟨flags, netId, destAddr, srcAddr, seq⟩, payload⟩ := frame
  have low : window (Frame.memory ⟨⟨flags, netId, destAddr, srcAddr, seq⟩, payload⟩) 0 2 =
      leBytes 2 flags.toNat := by
    have front := window_ofList_append (leBytes 2 flags.toNat)
      ([netId, destAddr, srcAddr, seq] ++ payload)
    rw [leBytes_length] at front
    simpa [Frame.memory, Frame.bytes, Header.bytes] using front
  simp only [readHeader, low, ofNat_leValue_leBytes 2 (by norm_num) flags]
  simp [Frame.memory, Frame.bytes, Header.bytes, ofList, leBytes]

/-- A window of the payload of a written frame. -/
theorem window_frame (frame : Frame) (start count : Nat) :
    window frame.memory (headerSize + start) count =
      window (ofList frame.payload) start count := by
  rw [← frame.hdr.bytes_length]
  exact window_ofList_skip _ _ _ _

/-- The whole payload of a written frame. -/
@[simp] theorem window_frame_payload (frame : Frame) :
    window frame.memory headerSize frame.payload.length = frame.payload := by
  have whole := window_frame frame 0 frame.payload.length
  rwa [Nat.add_zero, window_ofList] at whole

/-! ### Payloads of the control types -/

/-- `tinymac_beacon_t` with its address list. -/
structure Beacon where
  uuid : BitVec 64
  timestamp : BitVec 16
  flags : BitVec 8
  beaconInterval : BitVec 8
  addressList : List Byte
  deriving DecidableEq, Repr

/-- `sizeof(tinymac_beacon_t)`: the address list is a zero-length array. -/
def beaconSize : Nat := 12

/-- The beacon fragments of `tinymac_tx_beacon`. -/
def Beacon.bytes (beacon : Beacon) : List Byte :=
  leBytes 8 beacon.uuid.toNat ++
    (leBytes 2 beacon.timestamp.toNat ++
      (beacon.flags :: beacon.beaconInterval :: beacon.addressList))

/-- `tinymac_registration_request_t`. -/
structure RegistrationRequest where
  uuid : BitVec 64
  flags : BitVec 16
  deriving DecidableEq, Repr

/-- `sizeof(tinymac_registration_request_t)`. -/
def registrationRequestSize : Nat := 10

def RegistrationRequest.bytes (attach : RegistrationRequest) : List Byte :=
  leBytes 8 attach.uuid.toNat ++ leBytes 2 attach.flags.toNat

/-- `tinymac_deregistration_request_t`. -/
structure DeregistrationRequest where
  uuid : BitVec 64
  reason : BitVec 8
  deriving DecidableEq, Repr

/-- `sizeof(tinymac_deregistration_request_t)`. -/
def deregistrationRequestSize : Nat := 9

def DeregistrationRequest.bytes (detach : DeregistrationRequest) : List Byte :=
  leBytes 8 detach.uuid.toNat ++ [detach.reason]

/-- `tinymac_registration_response_t`; the status is the byte on the wire. -/
structure RegistrationResponse where
  uuid : BitVec 64
  addr : BitVec 8
  status : BitVec 8
  deriving DecidableEq, Repr

/-- `sizeof(tinymac_registration_response_t)`. -/
def registrationResponseSize : Nat := 10

def RegistrationResponse.bytes (resp : RegistrationResponse) : List Byte :=
  leBytes 8 resp.uuid.toNat ++ [resp.addr, resp.status]

@[simp] theorem Beacon.bytes_length (beacon : Beacon) :
    beacon.bytes.length = beaconSize + beacon.addressList.length := by
  simp [Beacon.bytes, beaconSize]
  omega

@[simp] theorem RegistrationRequest.bytes_length (attach : RegistrationRequest) :
    attach.bytes.length = registrationRequestSize := by
  simp [RegistrationRequest.bytes, registrationRequestSize]

@[simp] theorem DeregistrationRequest.bytes_length (detach : DeregistrationRequest) :
    detach.bytes.length = deregistrationRequestSize := by
  simp [DeregistrationRequest.bytes, deregistrationRequestSize]

@[simp] theorem RegistrationResponse.bytes_length (resp : RegistrationResponse) :
    resp.bytes.length = registrationResponseSize := by
  simp [RegistrationResponse.bytes, registrationResponseSize]

/-- The 64-bit UUID every control payload starts with. -/
def readUuid (buf : Memory) : BitVec 64 :=
  BitVec.ofNat 64 (leValue (window buf headerSize 8))

/-- `(tinymac_beacon_t*)hdr->payload`, with `count` entries of the address list. -/
def readBeacon (buf : Memory) (count : Nat) : Beacon where
  uuid := readUuid buf
  timestamp := BitVec.ofNat 16 (leValue (window buf (headerSize + 8) 2))
  flags := buf (headerSize + 10)
  beaconInterval := buf (headerSize + 11)
  addressList := window buf (headerSize + beaconSize) count

/-- `(tinymac_registration_request_t*)hdr->payload`. -/
def readRegistrationRequest (buf : Memory) : RegistrationRequest where
  uuid := readUuid buf
  flags := BitVec.ofNat 16 (leValue (window buf (headerSize + 8) 2))

/-- `(tinymac_deregistration_request_t*)hdr->payload`. -/
def readDeregistrationRequest (buf : Memory) : DeregistrationRequest where
  uuid := readUuid buf
  reason := buf (headerSize + 8)

/-- `(tinymac_registration_response_t*)hdr->payload`. -/
def readRegistrationResponse (buf : Memory) : RegistrationResponse where
  uuid := readUuid buf
  addr := buf (headerSize + 8)
  status := buf (headerSize + 9)

/-- A byte of the payload of a written frame. -/
theorem memory_frame (frame : Frame) (index : Nat) :
    frame.memory (headerSize + index) = frame.payload.getD index 0 := by
  simp [Frame.memory, Frame.bytes, ofList, List.getElem?_append_right]

/-- The UUID at the front of a written payload is read back. -/
theorem readUuid_frame (hdr : Header) (uuid : BitVec 64) (rest : List Byte) :
    readUuid (Frame.memory ⟨hdr, leBytes 8 uuid.toNat ++ rest⟩) = uuid := by
  have front : window (Frame.memory ⟨hdr, leBytes 8 uuid.toNat ++ rest⟩) headerSize 8 =
      leBytes 8 uuid.toNat := by
    have inside := window_frame ⟨hdr, leBytes 8 uuid.toNat ++ rest⟩ 0 8
    have left := window_ofList_append (leBytes 8 uuid.toNat) rest
    rw [leBytes_length] at left
    rw [Nat.add_zero] at inside
    rw [inside, left]
  rw [readUuid, front, ofNat_leValue_leBytes 8 (by norm_num) uuid]

/-- The 16-bit field behind the UUID is read back. -/
theorem window_frame_half (hdr : Header) (uuid : BitVec 64) (half : BitVec 16)
    (rest : List Byte) :
    BitVec.ofNat 16 (leValue (window
      (Frame.memory ⟨hdr, leBytes 8 uuid.toNat ++ (leBytes 2 half.toNat ++ rest)⟩)
      (headerSize + 8) 2)) = half := by
  have inside := window_frame ⟨hdr, leBytes 8 uuid.toNat ++ (leBytes 2 half.toNat ++ rest)⟩ 8 2
  have skip := window_ofList_skip (leBytes 8 uuid.toNat) (leBytes 2 half.toNat ++ rest) 0 2
  have left := window_ofList_append (leBytes 2 half.toNat) rest
  rw [leBytes_length] at skip left
  rw [inside, skip, left, ofNat_leValue_leBytes 2 (by norm_num) half]

/-- **A written beacon is read back**, with its whole address list. -/
theorem readBeacon_frame (hdr : Header) (beacon : Beacon) :
    readBeacon (Frame.memory ⟨hdr, beacon.bytes⟩) beacon.addressList.length = beacon := by
  obtain ⟨uuid, timestamp, flags, interval, list⟩ := beacon
  have listRead : window (Frame.memory ⟨hdr, Beacon.bytes ⟨uuid, timestamp, flags, interval, list⟩⟩)
      (headerSize + beaconSize) list.length = list := by
    have inside := window_frame ⟨hdr, Beacon.bytes ⟨uuid, timestamp, flags, interval, list⟩⟩
      beaconSize list.length
    have skip := window_ofList_skip
      (leBytes 8 uuid.toNat ++ leBytes 2 timestamp.toNat ++ [flags, interval]) list 0 list.length
    have shape : Beacon.bytes ⟨uuid, timestamp, flags, interval, list⟩ =
        leBytes 8 uuid.toNat ++ leBytes 2 timestamp.toNat ++ [flags, interval] ++ list := by
      simp [Beacon.bytes]
    have size :
        (leBytes 8 uuid.toNat ++ leBytes 2 timestamp.toNat ++ [flags, interval]).length + 0 =
        beaconSize := by
      simp [beaconSize]
    rw [size, window_ofList] at skip
    rw [shape] at inside ⊢
    exact inside.trans skip
  simp only [readBeacon, listRead]
  rw [Beacon.bytes, readUuid_frame, window_frame_half, memory_frame, memory_frame]
  simp [leBytes]

/-- **A written registration request is read back.** -/
@[simp] theorem readRegistrationRequest_frame (hdr : Header) (attach : RegistrationRequest) :
    readRegistrationRequest (Frame.memory ⟨hdr, attach.bytes⟩) = attach := by
  obtain ⟨uuid, flags⟩ := attach
  have half := window_frame_half hdr uuid flags []
  rw [List.append_nil] at half
  rw [readRegistrationRequest, RegistrationRequest.bytes, readUuid_frame, half]

/-- **A written registration response is read back.** -/
@[simp] theorem readRegistrationResponse_frame (hdr : Header) (resp : RegistrationResponse) :
    readRegistrationResponse (Frame.memory ⟨hdr, resp.bytes⟩) = resp := by
  obtain ⟨uuid, addr, status⟩ := resp
  rw [readRegistrationResponse, RegistrationResponse.bytes, readUuid_frame, memory_frame,
    memory_frame]
  simp [leBytes]

/-- The beacon request of a client without an address or network. -/
def beaconRequestFrame (seq : BitVec 8) : Frame :=
  ⟨⟨headerFlags PacketType.beaconRequest.code, networkAny, addrBroadcast, addrUnassigned, seq⟩, []⟩

/-- The registration request of a client without an address. -/
def registrationRequestFrame (netId seq : BitVec 8) (attach : RegistrationRequest) : Frame :=
  ⟨⟨headerFlags PacketType.registrationRequest.code, netId, 0#8, addrUnassigned, seq⟩, attach.bytes⟩

/-- The answer of a coordinator to a registration request. -/
def registrationResponseFrame (netId seq : BitVec 8) (resp : RegistrationResponse) : Frame :=
  ⟨⟨headerFlags PacketType.registrationResponse.code, netId, addrBroadcast, 0#8, seq⟩, resp.bytes⟩

/-- The poll of a client for what the coordinator holds for it. -/
def pollFrame (netId srcAddr seq : BitVec 8) : Frame :=
  ⟨⟨headerFlags PacketType.poll.code, netId, 0#8, srcAddr, seq⟩, []⟩

/-- A beacon of the coordinator of a network that lists no address. -/
def beaconFrame (netId seq flags : BitVec 8) (uuid : BitVec 64) : Frame :=
  ⟨⟨flagsVersion ||| PacketType.beacon.code.setWidth 16, netId, addrBroadcast, 0#8, seq⟩,
    Beacon.bytes ⟨uuid, 0#16, flags, beaconIntervalNoBeacon, []⟩⟩

end TinyHan.Tinymac
