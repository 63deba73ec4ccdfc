import RouteDiscovery.Address.Ipv4
import RouteDiscovery.Address.Ipv6
import RouteDiscovery.CommandLine.Arguments
import RouteDiscovery.CommandLine.Duration
import RouteDiscovery.CommandLine.LogLevel
import RouteDiscovery.CommandLine.Startup
import RouteDiscovery.Log.Event
import RouteDiscovery.Log.Line
import RouteDiscovery.Log.Outcome
import RouteDiscovery.Main
import RouteDiscovery.Node.Channel
import RouteDiscovery.Node.Config
import RouteDiscovery.Node.Document
import RouteDiscovery.Node.Load
import RouteDiscovery.Node.Queue
import RouteDiscovery.Node.Request
import RouteDiscovery.Proofs.Log.Breaks
import RouteDiscovery.Proofs.Log.Columns
import RouteDiscovery.Proofs.Log.OneLine
import RouteDiscovery.Proofs.Node.Delivery
import RouteDiscovery.Proofs.Node.Layers
import RouteDiscovery.Proofs.Node.OwnRequests
import RouteDiscovery.Proofs.Route.Counters
import RouteDiscovery.Proofs.Route.Erasure
import RouteDiscovery.Proofs.Route.HandedBack
import RouteDiscovery.Proofs.Route.NamedNodes
import RouteDiscovery.Proofs.Route.Packets
import RouteDiscovery.Proofs.Route.ReplyBuilds
import RouteDiscovery.Proofs.Route.ReplyNumbers
import RouteDiscovery.Proofs.Route.Reuse
import RouteDiscovery.Proofs.Route.Sends
import RouteDiscovery.Proofs.Route.Verdicts
import RouteDiscovery.Proofs.SeqNum.Cycle
import RouteDiscovery.Proofs.SeqNum.Reservations
import RouteDiscovery.Proofs.SeqNum.SerialOrder
import RouteDiscovery.Proofs.SeqNum.Unknown
import RouteDiscovery.Proofs.Wire.Acceptance
import RouteDiscovery.Proofs.Wire.AddressTable
import RouteDiscovery.Proofs.Wire.AddressWidth
import RouteDiscovery.Proofs.Wire.Append
import RouteDiscovery.Proofs.Wire.BoundedList
import RouteDiscovery.Proofs.Wire.CallbackOrder
import RouteDiscovery.Proofs.Wire.Callbacks
import RouteDiscovery.Proofs.Wire.Calls
import RouteDiscovery.Proofs.Wire.Capacity
import RouteDiscovery.Proofs.Wire.Checked
import RouteDiscovery.Proofs.Wire.Decode
import RouteDiscovery.Proofs.Wire.Frame
import RouteDiscovery.Proofs.Wire.Handover
import RouteDiscovery.Proofs.Wire.InRange
import RouteDiscovery.Proofs.Wire.Independence
import RouteDiscovery.Proofs.Wire.Interleaving
import RouteDiscovery.Proofs.Wire.Lookup
import RouteDiscovery.Proofs.Wire.Objections
import RouteDiscovery.Proofs.Wire.OwnErrors
import RouteDiscovery.Proofs.Wire.PassingOn
import RouteDiscovery.Proofs.Wire.Pieces
import RouteDiscovery.Proofs.Wire.Registration
import RouteDiscovery.Proofs.Wire.Registry
import RouteDiscovery.Proofs.Wire.Rejections
import RouteDiscovery.Proofs.Wire.Reuse
import RouteDiscovery.Proofs.Wire.RoundTrip
import RouteDiscovery.Proofs.Wire.TlvOrder
import RouteDiscovery.Proofs.Wire.TlvStream
import RouteDiscovery.Record.Route
import RouteDiscovery.Record.Source
import RouteDiscovery.Record.Value
import RouteDiscovery.Record.Wire
import RouteDiscovery.Route.Content
import RouteDiscovery.Route.Data
import RouteDiscovery.Route.Message
import RouteDiscovery.Route.Reuse
import RouteDiscovery.Route.Sender
import RouteDiscovery.Route.Site
import RouteDiscovery.Route.Transport
import RouteDiscovery.SeqNum.Basic
import RouteDiscovery.SeqNum.Store
import RouteDiscovery.Text.Blank
import RouteDiscovery.Text.Invisible
import RouteDiscovery.Text.Numeral
import RouteDiscovery.Text.Quoted
import RouteDiscovery.Wire.Buffer
import RouteDiscovery.Wire.Draft
import RouteDiscovery.Wire.Error
import RouteDiscovery.Wire.Flags
import RouteDiscovery.Wire.Header
import RouteDiscovery.Wire.NetAddr
import RouteDiscovery.Wire.Reuse
import RouteDiscovery.Wire.Script
import RouteDiscovery.Wire.Tlv
import RouteDiscovery.Wire.Writer
import RouteDiscovery.Word
import RouteDiscovery.Yaml.Cursor
import RouteDiscovery.Yaml.Error
import RouteDiscovery.Yaml.Node
import RouteDiscovery.Yaml.Scalar
import RouteDiscovery.Yaml.Token
