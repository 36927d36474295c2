import Switchboard.Address.Endpoint
import Switchboard.Address.Ip
import Switchboard.Address.Resolve
import Switchboard.Buffer.Datagram
import Switchboard.Buffer.Receive
import Switchboard.Buffer.Send
import Switchboard.Bytes
import Switchboard.Config.Decode
import Switchboard.Config.Load
import Switchboard.Config.Schema
import Switchboard.Config.Settings
import Switchboard.Config.Validation
import Switchboard.Connect.Candidates
import Switchboard.Connect.Timeout
import Switchboard.Connection.Identity
import Switchboard.Connection.Mailbox
import Switchboard.Connection.Note
import Switchboard.Connection.SendRequest
import Switchboard.Connection.State
import Switchboard.Connection.Tracker
import Switchboard.Crypto.Curve
import Switchboard.Crypto.Edwards
import Switchboard.Crypto.Sha512
import Switchboard.Encoding.Base64
import Switchboard.Encoding.Der
import Switchboard.Encoding.Pem
import Switchboard.Encoding.Utf8
import Switchboard.Fault.Network
import Switchboard.Fault.System
import Switchboard.Files
import Switchboard.Host
import Switchboard.Loop.Interleaving
import Switchboard.Loop.Pool
import Switchboard.Main
import Switchboard.Metrics
import Switchboard.Number.Binary64
import Switchboard.Proxy.CommandLine
import Switchboard.Proxy.Exchange
import Switchboard.Proxy.Forwarder
import Switchboard.Proxy.Pair
import Switchboard.Proxy.Program
import Switchboard.Shutdown
import Switchboard.Simulation.Datagram
import Switchboard.Simulation.Script
import Switchboard.Simulation.Stage
import Switchboard.Table
import Switchboard.Tcp.Connection
import Switchboard.Tcp.Driver
import Switchboard.Tcp.Framing
import Switchboard.Tcp.Gate
import Switchboard.Tcp.Manager
import Switchboard.Tcp.Outbound
import Switchboard.Text.Invisible
import Switchboard.Text.Numeral
import Switchboard.Text.Split
import Switchboard.Tls.Material
import Switchboard.Tls.PrivateKey
import Switchboard.Tls.ServerName
import Switchboard.Tls.X509
import Switchboard.Toml.Document
import Switchboard.Toml.Node
import Switchboard.Toml.Quote
import Switchboard.Toml.Scalar
import Switchboard.Toml.Statement
import Switchboard.Udp.Acceptor
import Switchboard.Udp.Connection
import Switchboard.Udp.Driver
import Switchboard.Udp.Manager
import Switchboard.Udp.Outbound
import Switchboard.Proofs.History
import Switchboard.Proofs.Tcp.Moves
import Switchboard.Proofs.Tcp.Coherence
import Switchboard.Proofs.Tcp.Receiving
import Switchboard.Proofs.Tcp.Calls
import Switchboard.Proofs.Tcp.Sending
import Switchboard.Proofs.Proxy.Moves
import Switchboard.Proofs.Proxy.Soundness
import Switchboard.Proofs.Proxy.Handover
import Switchboard.Proofs.Proxy.Projection
import Switchboard.Proofs.Proxy.Departure
import Switchboard.Proofs.Tcp.Spared
import Switchboard.Proofs.Tcp.Stalling
import Switchboard.Proofs.Tcp.Frames
import Switchboard.Proofs.Tcp.Echoing
import Switchboard.Proofs.Proxy.Prompt
import Switchboard.Proofs.Proxy.Return
import Switchboard.Proofs.Proxy.Relaying
import Switchboard.Proofs.Proxy.Orphans
import Switchboard.Proofs.Udp.Moves
import Switchboard.Proofs.Udp.Demultiplexing
import Switchboard.Proofs.Udp.Counting
import Switchboard.Proofs.Udp.Active
import Switchboard.Proofs.Udp.Stale
import Switchboard.Proofs.Udp.Sending
import Switchboard.Proofs.Udp.Lives
import Switchboard.Proofs.Connect.Candidates
import Switchboard.Proofs.Connect.Outcome
import Switchboard.Proofs.Connect.Readiness
import Switchboard.Proofs.Tcp.Outbound
import Switchboard.Proofs.Udp.Outbound
import Switchboard.Proofs.Connect.Requests
import Switchboard.Proofs.Gate.Moves
import Switchboard.Proofs.Gate.Permits
import Switchboard.Proofs.Gate.Arrivals
import Switchboard.Proofs.Gate.Waiting
import Switchboard.Proofs.Manager.Cells
import Switchboard.Proofs.Manager.Loops
import Switchboard.Proofs.Manager.Quiet
import Switchboard.Proofs.Manager.Opening
import Switchboard.Proofs.Manager.Ports
import Switchboard.Proofs.Manager.Rotation
import Switchboard.Proofs.Manager.Standing
import Switchboard.Proofs.Tcp.Starting
import Switchboard.Proofs.Udp.Starting
import Switchboard.Proofs.Tcp.Reporting
import Switchboard.Proofs.Udp.Reporting
import Switchboard.Proofs.Manager.Binding
import Switchboard.Proofs.Tcp.Equipping
import Switchboard.Proofs.Tcp.Securing
import Switchboard.Proofs.Connect.Waiting
import Switchboard.Proofs.Manager.Lifecycle
import Switchboard.Proofs.Connect.Retrying
import Switchboard.Proofs.Dialogue
import Switchboard.Proofs.Buffer.Draining
import Switchboard.Proofs.Buffer.Reservation
import Switchboard.Proofs.Accounts.Books
import Switchboard.Proofs.Accounts.Streams
import Switchboard.Proofs.Accounts.Datagrams
import Switchboard.Proofs.Accounts.Processes
import Switchboard.Proofs.Accounts.Agreement
import Switchboard.Proofs.Connect.Codes
import Switchboard.Proofs.Proxy.Allowance
import Switchboard.Proofs.Proxy.Gapless
import Switchboard.Proofs.Proxy.Listening
import Switchboard.Proofs.Toml.Numbers
import Switchboard.Proofs.Config.Limits
import Switchboard.Proofs.Config.Rules
import Switchboard.Proofs.StopRequests
import Switchboard.Proofs.Tcp.Metering
import Switchboard.Proofs.Config.Layout
import Switchboard.Proofs.Config.Sections
import Switchboard.Proofs.Address.Services
import Switchboard.Proofs.Tcp.Offering
import Switchboard.Proofs.Tcp.Vetting
