import TinyHan.App.Bounds
import TinyHan.App.RoundTrip
import TinyHan.Bridge.Relay
import TinyHan.Client.Teardown
import TinyHan.Client.Waiting
import TinyHan.Coordinator.Callbacks
import TinyHan.Coordinator.Heartbeat
import TinyHan.Coordinator.Schedule
import TinyHan.Coordinator.Validity
import TinyHan.Mac.Alarms
import TinyHan.Mac.Atomicity
import TinyHan.Mac.Limits
import TinyHan.Mqttsn.Acknowledgement
import TinyHan.Mqttsn.Disconnection
import TinyHan.Mqttsn.Establishment
import TinyHan.Mqttsn.Framing
import TinyHan.Mqttsn.Overrun
import TinyHan.Mqttsn.Retry
import TinyHan.Network.Addressing
import TinyHan.Network.Advertisement
import TinyHan.Network.Expulsion
import TinyHan.Network.Handshake
import TinyHan.Network.Multicast
import TinyHan.Network.Origin
import TinyHan.Network.Reports
import TinyHan.Network.Uploads
import TinyHan.Phy.Burst
import TinyHan.Phy.Mote
