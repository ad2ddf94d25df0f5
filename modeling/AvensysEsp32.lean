import AvensysEsp32.Foundation.Memory
import AvensysEsp32.Foundation.Footprint
import AvensysEsp32.Foundation.Machine
import AvensysEsp32.Foundation.Simulation
import AvensysEsp32.Foundation.Watching
import AvensysEsp32.Foundation.Trace
import AvensysEsp32.Foundation.Grants
import AvensysEsp32.Foundation.DropOldest
import AvensysEsp32.Foundation.Overwrite
import AvensysEsp32.Foundation.Reassembly
import AvensysEsp32.Foundation.CString
import AvensysEsp32.Foundation.Clock
import AvensysEsp32.Foundation.Nibble
import AvensysEsp32.Foundation.Decimal
import AvensysEsp32.Foundation.Json
import AvensysEsp32.Foundation.Printing
import AvensysEsp32.Foundation.Accumulation
import AvensysEsp32.Foundation.Accounting
import AvensysEsp32.Foundation.Response
import AvensysEsp32.Foundation.Relay
import AvensysEsp32.Foundation.Blinking
import AvensysEsp32.Serial.Protocol
import AvensysEsp32.Serial.WbmSerial
import AvensysEsp32.Serial.RoundTrip
import AvensysEsp32.Serial.UnitBoard
import AvensysEsp32.Serial.Receiver
import AvensysEsp32.Serial.Arrival
import AvensysEsp32.Serial.Outstanding
import AvensysEsp32.Serial.Corruption
import AvensysEsp32.Serial.WriteRequest
import AvensysEsp32.UnitComm.State
import AvensysEsp32.UnitComm.Parse
import AvensysEsp32.UnitComm.Bootloader
import AvensysEsp32.UnitComm.ConnectToUnit
import AvensysEsp32.UnitComm.Connected
import AvensysEsp32.UnitComm.Task
import AvensysEsp32.UnitComm.Sending
import AvensysEsp32.UnitComm.Outputs
import AvensysEsp32.UnitComm.ReplyAcceptance
import AvensysEsp32.UnitComm.LinkTimeout
import AvensysEsp32.UnitComm.Image
import AvensysEsp32.UnitComm.ClientUpdate
import AvensysEsp32.UnitComm.PowerMode
import AvensysEsp32.UnitComm.Link
import AvensysEsp32.UnitComm.Handshake
import AvensysEsp32.UnitComm.LoadedImage
import AvensysEsp32.UnitComm.MirrorLine
import AvensysEsp32.UnitComm.Mirror
import AvensysEsp32.UnitComm.Convergence
import AvensysEsp32.UnitComm.Transfer
import AvensysEsp32.UnitComm.OneRequest
import AvensysEsp32.UnitComm.Quiescence
import AvensysEsp32.UnitComm.SectionRequests
import AvensysEsp32.UnitComm.LastRequest
import AvensysEsp32.UnitComm.TransferMessages
import AvensysEsp32.UnitComm.Conversation
import AvensysEsp32.UnitComm.Recovery
import AvensysEsp32.UnitComm.ClockWrap
import AvensysEsp32.UnitComm.ReplyBounds
import AvensysEsp32.UnitComm.ShortPolling
import AvensysEsp32.UnitComm.Acknowledged
import AvensysEsp32.UnitComm.Telemetry
import AvensysEsp32.UnitComm.Provenance
import AvensysEsp32.UnitUpdate.HttpHandler
import AvensysEsp32.UnitUpdate.Sessions
import AvensysEsp32.UnitUpdate.Interrupted
import AvensysEsp32.UnitUpdate.Exclusion
import AvensysEsp32.UnitUpdate.Delivery
import AvensysEsp32.Wifi.Provisioning
import AvensysEsp32.Wifi.Packets
import AvensysEsp32.Wifi.Manager
import AvensysEsp32.Wifi.Stored
import AvensysEsp32.Wifi.Applied
import AvensysEsp32.Wifi.Pairs
import AvensysEsp32.Wifi.Unaltered
import AvensysEsp32.Wifi.Persistence
import AvensysEsp32.Wifi.Session
import AvensysEsp32.Wifi.LatestRequest
import AvensysEsp32.Wifi.Answers
import AvensysEsp32.Wifi.Attempts
import AvensysEsp32.Mqtt.Endpoint
import AvensysEsp32.Mqtt.Manager
import AvensysEsp32.Mqtt.Passes
import AvensysEsp32.Mqtt.Readiness
import AvensysEsp32.Mqtt.Backoff
import AvensysEsp32.Mqtt.RetryGate
import AvensysEsp32.Mqtt.Subscriptions
import AvensysEsp32.Mqtt.Coherence
import AvensysEsp32.Mqtt.EndpointSave
import AvensysEsp32.Mqtt.EndpointRoundTrip
import AvensysEsp32.Mqtt.Discovery
import AvensysEsp32.Mqtt.DiscoveredEndpoint
import AvensysEsp32.Mqtt.CloudIdentity
import AvensysEsp32.Mqtt.Telemetry
import AvensysEsp32.Mqtt.Reports
import AvensysEsp32.Mqtt.Messages
import AvensysEsp32.Mqtt.Configuration
import AvensysEsp32.Mqtt.Recovery
import AvensysEsp32.Ble.Server
import AvensysEsp32.Ble.EepromPaths
import AvensysEsp32.Ble.PreparedLeak
import AvensysEsp32.Ble.ProvTimer
import AvensysEsp32.Ble.PreparedBounds
import AvensysEsp32.Ble.Peripheral
import AvensysEsp32.Ota.UpdateTask
import AvensysEsp32.Ota.RetryPolicy
import AvensysEsp32.Ota.VersionResponse
import AvensysEsp32.Ota.BootCheck
import AvensysEsp32.Ota.NvsFaults
import AvensysEsp32.Led.CommLed
import AvensysEsp32.Led.StatusLed
import AvensysEsp32.Gateway.Composition
import AvensysEsp32.Gateway.Coherence
import AvensysEsp32.Gateway.Refinement
import AvensysEsp32.Gateway.Readiness
import AvensysEsp32.Gateway.Fleet
import AvensysEsp32.Gateway.Signals
