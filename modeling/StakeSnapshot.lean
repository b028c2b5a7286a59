import StakeSnapshot.Abi.Decode
import StakeSnapshot.Abi.Encode
import StakeSnapshot.Abi.Method
import StakeSnapshot.Abi.Type
import StakeSnapshot.Address
import StakeSnapshot.Address.Lemmas
import StakeSnapshot.Amount
import StakeSnapshot.Amount.Lemmas
import StakeSnapshot.Bytes
import StakeSnapshot.Bytes.Lemmas
import StakeSnapshot.Chain.Block
import StakeSnapshot.Chain.Config
import StakeSnapshot.Clock
import StakeSnapshot.CommandLine.Command
import StakeSnapshot.CommandLine.Invocation
import StakeSnapshot.CommandLine.Options
import StakeSnapshot.CommandLine.Scan
import StakeSnapshot.Contract.Interface
import StakeSnapshot.Contract.Registry
import StakeSnapshot.Count
import StakeSnapshot.Error
import StakeSnapshot.Fetch.Batch
import StakeSnapshot.Fetch.Minipools
import StakeSnapshot.Fetch.Nodes
import StakeSnapshot.Http.BeaconApi
import StakeSnapshot.Http.Exchange
import StakeSnapshot.Http.ExecutionApi
import StakeSnapshot.Http.ExecutionApi.Block
import StakeSnapshot.Http.ExecutionApi.Form
import StakeSnapshot.Http.ExecutionApi.Transaction
import StakeSnapshot.Http.Host
import StakeSnapshot.Http.JsonRpc
import StakeSnapshot.Http.Message
import StakeSnapshot.Http.Name
import StakeSnapshot.Http.Name.Mapping
import StakeSnapshot.Http.Remote
import StakeSnapshot.Http.Url
import StakeSnapshot.Json.Basic
import StakeSnapshot.Json.ByteArray
import StakeSnapshot.Json.Codec
import StakeSnapshot.Json.Deferred
import StakeSnapshot.Json.Reader
import StakeSnapshot.Keccak
import StakeSnapshot.Main
import StakeSnapshot.Metrics
import StakeSnapshot.Pool.Minipool
import StakeSnapshot.Pool.Node
import StakeSnapshot.Pool.Shares
import StakeSnapshot.Proofs.Abi.Nested
import StakeSnapshot.Proofs.Abi.RoundTrip
import StakeSnapshot.Proofs.Answers
import StakeSnapshot.Proofs.Clock.LatestBlock
import StakeSnapshot.Proofs.Clock.Overflow
import StakeSnapshot.Proofs.Clock.Walk
import StakeSnapshot.Proofs.Clock.Window
import StakeSnapshot.Proofs.Concurrency
import StakeSnapshot.Proofs.Configuration
import StakeSnapshot.Proofs.Contract.Loading
import StakeSnapshot.Proofs.Contract.Selectors
import StakeSnapshot.Proofs.FailingCall
import StakeSnapshot.Proofs.Fetch.Batching
import StakeSnapshot.Proofs.Fetch.Completion
import StakeSnapshot.Proofs.Fetch.Fields
import StakeSnapshot.Proofs.Fetch.Independence
import StakeSnapshot.Proofs.Fetch.Listing
import StakeSnapshot.Proofs.Fetch.Numbers
import StakeSnapshot.Proofs.Fetch.Records
import StakeSnapshot.Proofs.Fetch.Selectors
import StakeSnapshot.Proofs.Http.Endpoint
import StakeSnapshot.Proofs.Http.RemoteCall
import StakeSnapshot.Proofs.Json.Forms
import StakeSnapshot.Proofs.Json.Reading
import StakeSnapshot.Proofs.Json.Records
import StakeSnapshot.Proofs.Multicall
import StakeSnapshot.Proofs.Pool.ExactShares
import StakeSnapshot.Proofs.Pool.MeanFee
import StakeSnapshot.Proofs.Pool.Resettling
import StakeSnapshot.Proofs.Pool.Rounding
import StakeSnapshot.Proofs.Pool.Settling
import StakeSnapshot.Proofs.Pool.SmoothingPool
import StakeSnapshot.Proofs.Pool.Splitting
import StakeSnapshot.Proofs.Questions
import StakeSnapshot.Proofs.Queue.Bounds
import StakeSnapshot.Proofs.Queue.Positions
import StakeSnapshot.Proofs.Queue.Saturation
import StakeSnapshot.Proofs.ReadBack
import StakeSnapshot.Proofs.Recomputation
import StakeSnapshot.Proofs.Session.FirstConfig
import StakeSnapshot.Proofs.Session.Meters
import StakeSnapshot.Proofs.Simulation.Answering
import StakeSnapshot.Proofs.Simulation.Chain
import StakeSnapshot.Proofs.Simulation.Head
import StakeSnapshot.Proofs.Simulation.History
import StakeSnapshot.Proofs.Simulation.Ledger
import StakeSnapshot.Proofs.Simulation.Orderly
import StakeSnapshot.Proofs.Simulation.Queue
import StakeSnapshot.Proofs.Simulation.Reads
import StakeSnapshot.Proofs.Simulation.Slots
import StakeSnapshot.Proofs.Simulation.Snapshot
import StakeSnapshot.Proofs.Simulation.Writes
import StakeSnapshot.Proofs.SingleBlock
import StakeSnapshot.Proofs.SingleNode
import StakeSnapshot.Proofs.Task.Change
import StakeSnapshot.Proofs.Task.Counting
import StakeSnapshot.Proofs.Task.FirstPart
import StakeSnapshot.Proofs.Task.Guarantee
import StakeSnapshot.Proofs.Task.InTime
import StakeSnapshot.Proofs.Task.Interleaving
import StakeSnapshot.Proofs.Task.Looks
import StakeSnapshot.Proofs.Task.Matching
import StakeSnapshot.Proofs.Task.Noting
import StakeSnapshot.Proofs.Task.Outcomes
import StakeSnapshot.Proofs.Task.Sequence
import StakeSnapshot.Proofs.Task.Steady
import StakeSnapshot.Proofs.Task.Trails
import StakeSnapshot.Proofs.Text.Numerals
import StakeSnapshot.Proofs.Text.Utf8
import StakeSnapshot.Proofs.WellFormed
import StakeSnapshot.Query
import StakeSnapshot.Queue.Contract
import StakeSnapshot.Queue.Partition
import StakeSnapshot.Queue.Position
import StakeSnapshot.Request
import StakeSnapshot.Session
import StakeSnapshot.Simulation.Beacon
import StakeSnapshot.Simulation.CannedServer
import StakeSnapshot.Simulation.Chain
import StakeSnapshot.Simulation.Faults
import StakeSnapshot.Simulation.Gateway
import StakeSnapshot.Simulation.Protocol
import StakeSnapshot.Simulation.ScriptedQueue
import StakeSnapshot.Simulation.World
import StakeSnapshot.Snapshot
import StakeSnapshot.Task.Basic
import StakeSnapshot.Task.Schedule
import StakeSnapshot.Text.Base64
import StakeSnapshot.Text.Direction
import StakeSnapshot.Text.Joining
import StakeSnapshot.Text.Mark
import StakeSnapshot.Text.Normal
import StakeSnapshot.Text.Normal.Data
import StakeSnapshot.Text.Numeral
import StakeSnapshot.Text.Punycode
import StakeSnapshot.Text.Split
import StakeSnapshot.Text.Table
import StakeSnapshot.Text.Utf8
