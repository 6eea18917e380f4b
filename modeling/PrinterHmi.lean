import PrinterHmi.Lib.FileProg
import PrinterHmi.Lib.Faults
import PrinterHmi.Lib.Checks
import PrinterHmi.Lib.Dict
import PrinterHmi.Lib.Json
import PrinterHmi.Lib.JsonText
import PrinterHmi.Lib.JsonIndent
import PrinterHmi.Lib.JsonPath
import PrinterHmi.Lib.Redact
import PrinterHmi.Lib.Bytes
import PrinterHmi.Lib.LineReader
import PrinterHmi.Lib.Paths
import PrinterHmi.Lib.Substitution
import PrinterHmi.Lib.Runs
import PrinterHmi.Lib.Since
import PrinterHmi.Lib.Tickets
import PrinterHmi.Lib.Schema
import PrinterHmi.Lib.Script
import PrinterHmi.Lib.Simulation
import PrinterHmi.Lib.Tokens
import PrinterHmi.Platform
import PrinterHmi.Wire
import PrinterHmi.Spelling
import PrinterHmi.Sample
import PrinterHmi.Enrollment.Trials
import PrinterHmi.Enrollment.Pairing
import PrinterHmi.Enrollment.Acceptance
import PrinterHmi.Enrollment.Replay
import PrinterHmi.Enrollment.Rotation
import PrinterHmi.Enrollment.Peers
import PrinterHmi.Enrollment.AuditTrail
import PrinterHmi.Enrollment.Writing
import PrinterHmi.Enrollment.Rejection
import PrinterHmi.Enrollment.Lockout
import PrinterHmi.Transport.Authenticity
import PrinterHmi.Transport.Frame
import PrinterHmi.Transport.Stream
import PrinterHmi.Transport.Snapshot
import PrinterHmi.Transport.Projection
import PrinterHmi.Transport.Connector
import PrinterHmi.Transport.Windows
import PrinterHmi.Transport.Interleaving
import PrinterHmi.Transport.Queue
import PrinterHmi.Transport.Retry
import PrinterHmi.Receiver.Config
import PrinterHmi.Receiver.Registry
import PrinterHmi.Receiver.Durability
import PrinterHmi.Receiver.Handler
import PrinterHmi.Receiver.Publication
import PrinterHmi.Receiver.Sessions
import PrinterHmi.Receiver.Telemetry
import PrinterHmi.Receiver.Exchange
import PrinterHmi.Receiver.Delivery
import PrinterHmi.Receiver.Meeting
import PrinterHmi.Receiver.Isolation
import PrinterHmi.Receiver.Dialogue
import PrinterHmi.Receiver.Simulator
import PrinterHmi.Receiver.Usability
import PrinterHmi.Worker.Cycle
import PrinterHmi.Worker.Loop
import PrinterHmi.Monitor.Telemetry
import PrinterHmi.Monitor.Refinement
import PrinterHmi.Monitor.Sharing
import PrinterHmi.Monitor.Normalization
import PrinterHmi.Monitor.Snapshots
import PrinterHmi.Monitor.Clients
import PrinterHmi.Service.SnapshotStore
import PrinterHmi.Service.WriteRate
import PrinterHmi.Service.Monitoring
import PrinterHmi.Service.LocalApi
import PrinterHmi.Service.Diagnostics
import PrinterHmi.Service.Discovery
import PrinterHmi.Service.Catalog
import PrinterHmi.Service.Agent
import PrinterHmi.Receiver.Api
import PrinterHmi.Configuration.Acceptance
import PrinterHmi.Configuration.Allowlist
import PrinterHmi.Configuration.Atomicity
import PrinterHmi.Configuration.Completeness
import PrinterHmi.Configuration.Documents
import PrinterHmi.Configuration.Enroll
import PrinterHmi.Configuration.Hostile
import PrinterHmi.Configuration.Initialization
import PrinterHmi.Configuration.Manager
import PrinterHmi.Configuration.Outcomes
import PrinterHmi.Configuration.Recovery
import PrinterHmi.Configuration.WellFormed
import PrinterHmi.Protocol.Schemas
import PrinterHmi.Protocol.Conformance
import PrinterHmi.Protocol.Tolerance
import PrinterHmi.Protocol.Documents
import PrinterHmi.Receiver.Site
import PrinterHmi.Receiver.Integration
