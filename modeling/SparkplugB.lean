import SparkplugB.Codec.WireLaws
import SparkplugB.Codec.Fields
import SparkplugB.Codec.Shape
import SparkplugB.Codec.Decode
import SparkplugB.Codec.Encode
import SparkplugB.Codec.Wire
import SparkplugB.Alias
import SparkplugB.Lib.Base128
import SparkplugB.Lib.LittleEndian
import SparkplugB.Lib.BitPacking
import SparkplugB.Codec.RoundTrip
import SparkplugB.Codec.Canonical
import SparkplugB.Codec.Stripped
import SparkplugB.Lib.Fallible
import SparkplugB.Sequence
import SparkplugB.State
import SparkplugB.Topic
import SparkplugB.Transport
import SparkplugB.Host.Engine
import SparkplugB.Lib.Run
import SparkplugB.Host.Session
import SparkplugB.Host.Requests
import SparkplugB.Host.LostRequests
import SparkplugB.Host.Death
import SparkplugB.Host.Loss
import SparkplugB.Edge.Engine
import SparkplugB.Edge.Runs
import SparkplugB.Lib.Past
import SparkplugB.Edge.Session
import SparkplugB.Edge.Discipline
import SparkplugB.Edge.Gate
import SparkplugB.Codec.Survival
import SparkplugB.Edge.Numbers
import SparkplugB.Edge.BdSeq
import SparkplugB.Edge.Effects
import SparkplugB.Edge.Restarts
import SparkplugB.Host.FailedBirth
import SparkplugB.Host.Isolation
import SparkplugB.Edge.Faults
import SparkplugB.Edge.Announced
import SparkplugB.Link.Commands
import SparkplugB.Edge.Registry
import SparkplugB.Link.Channel
import SparkplugB.Edge.Dressing
import SparkplugB.Link.Births
import SparkplugB.Link.BirthAliases
import SparkplugB.Link.Resync
import SparkplugB.Host.History
import SparkplugB.Host.Devices
import SparkplugB.Host.Lifecycle
import SparkplugB.Bindings
import SparkplugB.Link.Repair
import SparkplugB.Codec.Grammar
import SparkplugB.Codec.Kinds
import SparkplugB.Codec.Rearranged
import SparkplugB.Codec.WireNumbers
import SparkplugB.Codec.Varints
import SparkplugB.Codec.Repacking
import SparkplugB.Codec.Truncation
import SparkplugB.Codec.Narrowing
import SparkplugB.Codec.Checked
import SparkplugB.Codec.Safety
import SparkplugB.Compress
import SparkplugB.Link.Wills
import SparkplugB.Link.Utterances
import SparkplugB.Link.Calls
import SparkplugB.Link.InStep
import SparkplugB.Link.Data
import SparkplugB.Link.Delivery
import SparkplugB.TopicText
import SparkplugB.StateFields
import SparkplugB.Lib.Json
import SparkplugB.Lib.Replace
import SparkplugB.Lib.TopicFilter
import SparkplugB.FileStore
import SparkplugB.StateJson
import SparkplugB.Edge.LostMessages
import SparkplugB.Codec.Extension
import SparkplugB.Link.Twins
import SparkplugB.Link.Aliasing
import SparkplugB.Link.OwnAliases
import SparkplugB.Link.Remarks
import SparkplugB.Link.Sessions
import SparkplugB.Link.Integrity
import SparkplugB.Link.Recovery
import SparkplugB.Link.Routing
import SparkplugB.Link.Network
import SparkplugB.Link.Relays
