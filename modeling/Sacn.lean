import Sacn.Packet.Parse
import Sacn.Packet.Wire
import Sacn.Packet.Pack
import Sacn.Packet.Panic
import Sacn.Packet.RoundTrip
import Sacn.Packet.Number
import Sacn.Packet.Reencode
import Sacn.Receive.Network
import Sacn.Receive.Sequence
import Sacn.Receive.Announce
import Sacn.Receive.Stream
import Sacn.Rust.SortedVec
import Sacn.Packet.Multicast
import Sacn.Source.Internal
import Sacn.Source.Numbering
import Sacn.EndToEnd.Numbering
import Sacn.Receive.Dmx
import Sacn.Receive.Receiver
import Sacn.Receive.Waiting
import Sacn.Receive.Discovery
import Sacn.Receive.Recovery
import Sacn.Source.Emission
import Sacn.EndToEnd.Delivery
import Sacn.EndToEnd.Discovery
import Sacn.Receive.Recv
import Sacn.EndToEnd.Sync
import Sacn.Receive.Terminate
import Sacn.Rust.Run
import Sacn.Receive.Runs
import Sacn.Receive.Limit
import Sacn.Receive.History
import Sacn.Receive.Listening
import Sacn.Source.Calls
import Sacn.Source.Datagrams
import Sacn.EndToEnd.Parsing
import Sacn.Receive.Records
import Sacn.Source.Failures
import Sacn.Receive.Unaffected
import Sacn.Rust.Fold
import Sacn.Receive.Merge
import Sacn.Receive.Join
import Sacn.Receive.Reject
import Sacn.Receive.Expired
import Sacn.Source.Split
import Sacn.Source.Universes
import Sacn.Source.Pages
import Sacn.Packet.Confined
import Sacn.Packet.Ignored
import Sacn.Packet.Lengths
import Sacn.Rust.Loop
import Sacn.Packet.UniverseList
import Sacn.Receive.Names
import Sacn.Receive.Partial
import Sacn.EndToEnd.Advertise
import Sacn.EndToEnd.Forgotten
import Sacn.EndToEnd.Lists
import Sacn.Packet.Errors
import Sacn.Rust.Repeat
import Sacn.Receive.Loop
import Sacn.Receive.Ends
import Sacn.Receive.Session
import Sacn.Receive.Results
import Sacn.Receive.Deadline
import Sacn.Receive.Lost
import Sacn.EndToEnd.Stream
import Sacn.Source.Shutdown
import Sacn.EndToEnd.Termination
import Sacn.Source.Panic
