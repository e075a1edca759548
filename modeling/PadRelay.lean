import PadRelay.Bytes
import PadRelay.Cbor
import PadRelay.Cbor.Document
import PadRelay.Cbor.Head
import PadRelay.Cbor.Parser
import PadRelay.Cbor.Printer
import PadRelay.Cipher
import PadRelay.Client
import PadRelay.Config
import PadRelay.Connection
import PadRelay.Connection.Callback
import PadRelay.Connection.Lifecycle
import PadRelay.Connection.Line
import PadRelay.Connection.Writer
import PadRelay.Digest.Fingerprint
import PadRelay.Digest.Sha256
import PadRelay.Directory
import PadRelay.Entropy
import PadRelay.Entropy.ChaCha
import PadRelay.Gateway
import PadRelay.Gateway.Call
import PadRelay.Gateway.Handshake
import PadRelay.Gateway.Metrics
import PadRelay.Gateway.Pairing
import PadRelay.Gateway.Rehearsal
import PadRelay.Gateway.Relay
import PadRelay.Gateway.Script
import PadRelay.Gateway.Stage
import PadRelay.Http.Request
import PadRelay.Http.Target
import PadRelay.Identity
import PadRelay.Json
import PadRelay.Json.Document
import PadRelay.Json.Numeral
import PadRelay.Json.Parser
import PadRelay.Json.Printer
import PadRelay.Json.Quoted
import PadRelay.Json.Token
import PadRelay.Key
import PadRelay.Key.SizePolicy
import PadRelay.Key.Staged
import PadRelay.Main
import PadRelay.Net.Address
import PadRelay.Net.Address.Parser
import PadRelay.Pairs
import PadRelay.Proofs.Assurance
import PadRelay.Proofs.Cbor.Document
import PadRelay.Proofs.Cbor.Head
import PadRelay.Proofs.Cipher
import PadRelay.Proofs.Client
import PadRelay.Proofs.Connection
import PadRelay.Proofs.Connection.Closing
import PadRelay.Proofs.Connection.Outbound
import PadRelay.Proofs.Connection.Writer
import PadRelay.Proofs.Directory
import PadRelay.Proofs.Directory.Edit
import PadRelay.Proofs.Directory.Vacant
import PadRelay.Proofs.Exchange.Accounting
import PadRelay.Proofs.Exchange.Activation
import PadRelay.Proofs.Exchange.Agreement
import PadRelay.Proofs.Exchange.Answers
import PadRelay.Proofs.Exchange.Balance
import PadRelay.Proofs.Exchange.Calls
import PadRelay.Proofs.Exchange.Drawing
import PadRelay.Proofs.Exchange.Effect
import PadRelay.Proofs.Exchange.Entrants
import PadRelay.Proofs.Exchange.Fading
import PadRelay.Proofs.Exchange.Fetch
import PadRelay.Proofs.Exchange.Holding
import PadRelay.Proofs.Exchange.Interference
import PadRelay.Proofs.Exchange.Interruption
import PadRelay.Proofs.Exchange.Issuing
import PadRelay.Proofs.Exchange.Loss
import PadRelay.Proofs.Exchange.OneShot
import PadRelay.Proofs.Exchange.Phases
import PadRelay.Proofs.Exchange.Provenance
import PadRelay.Proofs.Exchange.Queue
import PadRelay.Proofs.Exchange.Reach
import PadRelay.Proofs.Exchange.Reading
import PadRelay.Proofs.Exchange.Replies
import PadRelay.Proofs.Exchange.Run
import PadRelay.Proofs.Exchange.Timers
import PadRelay.Proofs.Exchange.Unfailing
import PadRelay.Proofs.Exchange.Unnoticed
import PadRelay.Proofs.Gateway.Alike
import PadRelay.Proofs.Gateway.Attached
import PadRelay.Proofs.Gateway.Balance
import PadRelay.Proofs.Gateway.Booking
import PadRelay.Proofs.Gateway.Channel
import PadRelay.Proofs.Gateway.Counting
import PadRelay.Proofs.Gateway.Drift
import PadRelay.Proofs.Gateway.Homely
import PadRelay.Proofs.Gateway.Hooks
import PadRelay.Proofs.Gateway.Idle
import PadRelay.Proofs.Gateway.Journal
import PadRelay.Proofs.Gateway.Lodging
import PadRelay.Proofs.Gateway.Log
import PadRelay.Proofs.Gateway.Occurrence
import PadRelay.Proofs.Gateway.Ownership
import PadRelay.Proofs.Gateway.Realm
import PadRelay.Proofs.Gateway.Roster
import PadRelay.Proofs.Gateway.Slots
import PadRelay.Proofs.Gateway.Surroundings
import PadRelay.Proofs.Gateway.Sweep
import PadRelay.Proofs.Gateway.Tenancy
import PadRelay.Proofs.Gateway.Upkeep
import PadRelay.Proofs.Gateway.Vacant
import PadRelay.Proofs.Gather
import PadRelay.Proofs.Json.Document
import PadRelay.Proofs.Json.Grammar
import PadRelay.Proofs.Json.Machine
import PadRelay.Proofs.Json.Numeral
import PadRelay.Proofs.Json.Range
import PadRelay.Proofs.Json.Readable
import PadRelay.Proofs.Json.Reading
import PadRelay.Proofs.Json.Token
import PadRelay.Proofs.Json.Writing
import PadRelay.Proofs.Key.Departure
import PadRelay.Proofs.Key.Overdue
import PadRelay.Proofs.Key.Staged
import PadRelay.Proofs.Key.Waiting
import PadRelay.Proofs.Pairs
import PadRelay.Proofs.Relay.Audience
import PadRelay.Proofs.Relay.Broadcast
import PadRelay.Proofs.Relay.Cleanup
import PadRelay.Proofs.Relay.Delivery
import PadRelay.Proofs.Relay.Metrics
import PadRelay.Proofs.Relay.Pairing
import PadRelay.Proofs.Relay.Reach
import PadRelay.Proofs.Relay.Recipients
import PadRelay.Proofs.Relay.Registry
import PadRelay.Proofs.Relay.Run
import PadRelay.Proofs.Relay.Shutdown
import PadRelay.Proofs.Relay.Welcome
import PadRelay.Proofs.Script
import PadRelay.Proofs.Stream.Framing
import PadRelay.Proofs.Transcript
import PadRelay.Proofs.Wire.Classification
import PadRelay.Proofs.Wire.Frame
import PadRelay.Proofs.Wire.Members
import PadRelay.Proofs.Wire.Presentation
import PadRelay.Proofs.Wire.RoundTrip
import PadRelay.Proofs.Wire.Size
import PadRelay.RequestError
import PadRelay.Server.Arguments
import PadRelay.Server.Bind
import PadRelay.Server.Endpoint
import PadRelay.Server.Error
import PadRelay.Server.Machine
import PadRelay.Service
import PadRelay.Service.Hall
import PadRelay.Stream.Framing
import PadRelay.Stream.Upgrade
import PadRelay.Stream.WebSocket
import PadRelay.Table
import PadRelay.Wire.Code
import PadRelay.Wire.Codec
import PadRelay.Wire.Fields
import PadRelay.Wire.FormatError
import PadRelay.Wire.Frame
import PadRelay.Wire.Message
import PadRelay.Wire.Value
