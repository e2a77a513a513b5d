import NodeBridge.Hex
import NodeBridge.BigEndian
import NodeBridge.Word
import NodeBridge.Keccak
import NodeBridge.Address
import NodeBridge.Duration
import NodeBridge.Text.Range
import NodeBridge.Text.Blank
import NodeBridge.Json.Basic
import NodeBridge.Json.Printer
import NodeBridge.Json.Parser
import NodeBridge.Url.Ipv4
import NodeBridge.Url.Ipv6
import NodeBridge.Url.Name.Direction
import NodeBridge.Url.Name.Fold
import NodeBridge.Url.Name.Joining
import NodeBridge.Url.Name.Mark
import NodeBridge.Url.Name.Punycode
import NodeBridge.Url.Name.Unfit
import NodeBridge.Url.Name.Part
import NodeBridge.Url.Name
import NodeBridge.Url.Basic
import NodeBridge.Toml.Basic
import NodeBridge.Toml.Scalar
import NodeBridge.Toml.Parser
import NodeBridge.FileTree
import NodeBridge.Entries
import NodeBridge.Feed.Capacity
import NodeBridge.Config.Basic
import NodeBridge.Config.Format
import NodeBridge.Config.Json
import NodeBridge.Config.Toml
import NodeBridge.Config.Validation
import NodeBridge.Config.Loading
import NodeBridge.Event
import NodeBridge.Metrics
import NodeBridge.Retry
import NodeBridge.Staking.Record
import NodeBridge.Staking.RecordJson
import NodeBridge.Staking.Error
import NodeBridge.Observer.Error
import NodeBridge.Bridge.Error
import NodeBridge.Feed.Error
import NodeBridge.Log.Filter
import NodeBridge.Log.Line
import NodeBridge.Staking.Query
import NodeBridge.Staking.Inquiry
import NodeBridge.Staking.Accessor
import NodeBridge.Staking.Encoding
import NodeBridge.Connection.Exchange
import NodeBridge.Staking.Facade
import NodeBridge.Staking.Call
import NodeBridge.Feed.Queue
import NodeBridge.Feed.Channel
import NodeBridge.Feed.Dispatch
import NodeBridge.Shutdown.Coordinator
import NodeBridge.Shutdown.Session
import NodeBridge.Observer.Source
import NodeBridge.Observer.Happening
import NodeBridge.Observer.Worker
import NodeBridge.Observer.Session
import NodeBridge.Observer.Script
import NodeBridge.Text.Hidden
import NodeBridge.Text.Quoted
import NodeBridge.Heads.Broadcast
import NodeBridge.Heads.Node
import NodeBridge.Heads.Client
import NodeBridge.Heads.Subscription
import NodeBridge.Heads.Session
import NodeBridge.Heads.Source
import NodeBridge.Network.Error
import NodeBridge.Network.SocketAddress
import NodeBridge.Bridge.Endpoint
import NodeBridge.Bridge.Query
import NodeBridge.Bridge.Basic
import NodeBridge.Bridge.Session
import NodeBridge.CommandLine.Similarity
import NodeBridge.CommandLine.Basic
import NodeBridge.Daemon.Failure
import NodeBridge.Daemon.Startup
import NodeBridge.Daemon.Run
import NodeBridge.Main
import NodeBridge.Proofs.Shutdown.Action
import NodeBridge.Proofs.Feed.Channel
import NodeBridge.Proofs.Observer.Chronicle
import NodeBridge.Proofs.Observer.Step
import NodeBridge.Proofs.Observer.Run
import NodeBridge.Proofs.Observer.Delivery
import NodeBridge.Proofs.Observer.Ownership
import NodeBridge.Proofs.Observer.Precedence
import NodeBridge.Proofs.Heads.Opening
import NodeBridge.Proofs.Heads.Client
import NodeBridge.Proofs.Heads.Closing
import NodeBridge.Proofs.Heads.Waiting
import NodeBridge.Proofs.Heads.CloseRun
import NodeBridge.Proofs.Bridge.Close
import NodeBridge.Proofs.Shutdown.Threads
import NodeBridge.Proofs.Shutdown.Waiting
import NodeBridge.Proofs.Shutdown.Outcome
import NodeBridge.Proofs.Shutdown.Audience
import NodeBridge.Proofs.Shutdown.Signal
import NodeBridge.Proofs.Observer.Announcement
import NodeBridge.Proofs.Observer.Bookkeeping
import NodeBridge.Proofs.Observer.Timing
import NodeBridge.Proofs.Observer.Pacing
import NodeBridge.Proofs.Observer.Crew
import NodeBridge.Proofs.Observer.Joining
import NodeBridge.Proofs.Observer.Schedule
import NodeBridge.Proofs.Observer.Conduct
import NodeBridge.Proofs.Observer.Departure
import NodeBridge.Proofs.Observer.Twins
import NodeBridge.Proofs.Observer.Isolation
import NodeBridge.Proofs.Bridge.Construction
import NodeBridge.Proofs.Config.Validation
import NodeBridge.Proofs.Entries
import NodeBridge.Proofs.Numeral
import NodeBridge.Proofs.Staking.RecordJson
import NodeBridge.Proofs.Config.Overrides
import NodeBridge.Proofs.Staking.Reporting
import NodeBridge.Proofs.Staking.Conversation
import NodeBridge.Proofs.Staking.Fidelity
import NodeBridge.Proofs.Feed.Fifo
import NodeBridge.Proofs.Staking.Exactness
import NodeBridge.Proofs.Staking.Market
import NodeBridge.Proofs.Staking.Magnitude
import NodeBridge.Proofs.Config.Independence
import NodeBridge.Proofs.Bridge.Endpoint
import NodeBridge.Proofs.Daemon.Startup
import NodeBridge.Proofs.Heads.Reading
import NodeBridge.Proofs.Heads.Traffic
import NodeBridge.Proofs.Heads.Reception
import NodeBridge.Proofs.Heads.Vigil
import NodeBridge.Proofs.Heads.Obtaining
import NodeBridge.Proofs.Heads.Ledger
import NodeBridge.Proofs.Heads.Tracing
import NodeBridge.Proofs.Heads.Strays
