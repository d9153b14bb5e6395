import Daq.Acl.Consent
import Daq.Acl.Incoming
import Daq.Acl.Interfaces
import Daq.Acl.Main
import Daq.Acl.Mirror
import Daq.Acl.Port
import Daq.Acl.Portset
import Daq.Acl.References
import Daq.Acl.Reflect
import Daq.Acl.Rule
import Daq.Acl.Tables
import Daq.Cloud.Agreement
import Daq.Cloud.Channel
import Daq.Cloud.Order
import Daq.Cloud.Settling
import Daq.Combine.Aggregate
import Daq.Combine.DateTime
import Daq.Combine.Selection
import Daq.Config.Include
import Daq.Config.Layers
import Daq.Config.Merge
import Daq.Config.Print
import Daq.Config.Read
import Daq.Data
import Daq.Dhcp.Line
import Daq.Dhcp.Monitor
import Daq.Dot1x.Attributes
import Daq.Dot1x.Attribution
import Daq.Dot1x.Authenticator
import Daq.Dot1x.Data
import Daq.Dot1x.Evolution
import Daq.Dot1x.Fidelity
import Daq.Dot1x.Forgery
import Daq.Dot1x.Frames
import Daq.Dot1x.Message
import Daq.Dot1x.Outcome
import Daq.Dot1x.Parsing
import Daq.Dot1x.Provenance
import Daq.Dot1x.Radius
import Daq.Dot1x.Rehash
import Daq.Dot1x.Rejection
import Daq.Dot1x.Relay
import Daq.Dot1x.Signing
import Daq.Dot1x.Silence
import Daq.Dot1x.Survival
import Daq.Dot1x.Transcript
import Daq.Dot1x.Transparency
import Daq.Dot1x.UserPassword
import Daq.Dot1x.Verdict
import Daq.Dot1x.Wire
import Daq.Faucet.Client
import Daq.Faucet.Debounce
import Daq.Faucet.Malformed
import Daq.Faucet.Received
import Daq.Faucet.Repeats
import Daq.Faucet.Steps
import Daq.Faucet.Stream
import Daq.Host.Core
import Daq.Host.IpAddr
import Daq.Host.IpAddrRuns
import Daq.Host.Life
import Daq.Host.Lifecycle
import Daq.Host.Regular
import Daq.Host.Report
import Daq.Host.Termination
import Daq.Host.TestPorts
import Daq.Lib.Assigned
import Daq.Lib.Bytes
import Daq.Lib.Chunks
import Daq.Lib.Dict
import Daq.Lib.Exec
import Daq.Lib.Fallible
import Daq.Lib.Feedback
import Daq.Lib.Fields
import Daq.Lib.Filled
import Daq.Lib.FirstMatch
import Daq.Lib.Grouped
import Daq.Lib.History
import Daq.Lib.Ignores
import Daq.Lib.Json
import Daq.Lib.JsonRoundTrip
import Daq.Lib.Loops
import Daq.Lib.Numeral
import Daq.Lib.Pattern
import Daq.Lib.Raises
import Daq.Lib.Reach
import Daq.Lib.Rolling
import Daq.Lib.RollingOrder
import Daq.Lib.Tally
import Daq.Lib.Tree
import Daq.Lib.TreeHeap
import Daq.Lib.TreeLeaves
import Daq.Lib.Utf8
import Daq.Lib.Window
import Daq.Mudacl.Compile
import Daq.Mudacl.Converter
import Daq.Mudacl.Enforcement
import Daq.Mudacl.Generator
import Daq.Mudacl.Policy
import Daq.Mudacl.Sanity
import Daq.Mudacl.Spec
import Daq.Mudacl.Templates
import Daq.Network.Discovery
import Daq.Network.Hosts
import Daq.Report.Categories
import Daq.Report.Generator
import Daq.Report.Orders
import Daq.Report.Overall
import Daq.Report.Processing
import Daq.Report.ReadBack
import Daq.Report.Refinement
import Daq.Report.ResultLine
import Daq.Report.Returned
import Daq.Report.Tables
import Daq.Runner.Activation
import Daq.Runner.Capacity
import Daq.Runner.Capture
import Daq.Runner.CommandSimulation
import Daq.Runner.Containment
import Daq.Runner.Core
import Daq.Runner.Devices
import Daq.Runner.Events
import Daq.Runner.Failures
import Daq.Runner.Flapping
import Daq.Runner.Gateway
import Daq.Runner.GroupActivation
import Daq.Runner.Groups
import Daq.Runner.Invariant
import Daq.Runner.Isolation
import Daq.Runner.Ledger
import Daq.Runner.Loop
import Daq.Runner.Muster
import Daq.Runner.Orderly
import Daq.Runner.Overtaking
import Daq.Runner.Pool
import Daq.Runner.Ports
import Daq.Runner.Provision
import Daq.Runner.Refusal
import Daq.Runner.Registry
import Daq.Runner.Release
import Daq.Runner.Retirement
import Daq.Runner.Rule
import Daq.Runner.SetDevices
import Daq.Runner.Settling
import Daq.Runner.Simulation
import Daq.Runner.Stages
import Daq.Runner.Succession
import Daq.Runner.Suppression
import Daq.Runner.Teardown
import Daq.Runner.TestHistory
import Daq.Runner.TestList
import Daq.Runner.Topology
import Daq.Runner.Traffic
import Daq.Runner.Verdict
import Daq.Session.Delivery
import Daq.Session.Handshake
import Daq.Session.Invariant
import Daq.Session.Server
import Daq.Stream.Copy
import Daq.Stream.Dispatch
import Daq.Stream.External
import Daq.Stream.Monitor
import Daq.Traffic.AclState
import Daq.Traffic.Analyzer
import Daq.Usi.Cisco9300
import Daq.Usi.Columns
import Daq.Usi.Exclusion
import Daq.Usi.Table
import Daq.Usi.Telnet
