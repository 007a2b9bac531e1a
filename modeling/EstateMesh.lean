import EstateMesh.Lib.Fallible
import EstateMesh.Lib.Joined
import EstateMesh.Lib.EventLoop
import EstateMesh.Lib.View
import EstateMesh.Lib.Erasure
import EstateMesh.Mesh.CircuitBreaker
import EstateMesh.Mesh.BreakerHistory
import EstateMesh.Mesh.EventBus
import EstateMesh.Mesh.Engine
import EstateMesh.Mesh.Typestate
import EstateMesh.Mesh.Identity
import EstateMesh.Mesh.Signature
import EstateMesh.Mesh.Failover
import EstateMesh.Mesh.RegistryAnswers
import EstateMesh.Mesh.Attempts
import EstateMesh.Mesh.Telemetry
import EstateMesh.Mesh.Prediction
import EstateMesh.Mesh.Probing
import EstateMesh.Mesh.Admission
import EstateMesh.Mesh.SharedCircuits
import EstateMesh.Resolver.GlobalResolver
import EstateMesh.Resolver.Liveness
import EstateMesh.Dispatch.Acts
import EstateMesh.Dispatch.Lifecycle
import EstateMesh.Dispatch.Freshness
import EstateMesh.Dispatch.Records
import EstateMesh.Dispatch.DeadEnds
import EstateMesh.Dispatch.Terminal
import EstateMesh.Dispatch.Concurrent
import EstateMesh.Dispatch.Liveness
import EstateMesh.Dispatch.AuditTrail
import EstateMesh.Agent.ExecutorServer
import EstateMesh.Executors.HttpExecutor
import EstateMesh.Agent.Rejoin
import EstateMesh.Executors.Agreement
import EstateMesh.Conformance.Certify
import EstateMesh.Conformance.Evidence
import EstateMesh.Lib.Queries
import EstateMesh.Mesh.Queries
import EstateMesh.Mesh.FanOut
import EstateMesh.Lib.StableSort
import EstateMesh.Resolver.Answers
import EstateMesh.Resolver.Reload
import EstateMesh.Resolver.LiveTable
import EstateMesh.Resolver.Ranking
import EstateMesh.Resolver.Answerable
import EstateMesh.Dispatch.Telemetry
import EstateMesh.Resolver.Routes
import EstateMesh.Resolver.Selection
import EstateMesh.Resolver.References
import EstateMesh.Dispatch.Refusals
import EstateMesh.Dispatch.Outcomes
import EstateMesh.Mesh.Recovery
import EstateMesh.RuntimeEvidence.Certify
import EstateMesh.RuntimeEvidence.Harvest
import EstateMesh.Lib.Alternation
import EstateMesh.Resolver.OfflineEvents
import EstateMesh.Resolver.Consistency
import EstateMesh.Executors.ExecutorRegistry
import EstateMesh.Lib.Monitor
import EstateMesh.Mesh.RetryBudget
import EstateMesh.Lib.Json.Decoder
import EstateMesh.Lib.Json.Number
import EstateMesh.Lib.Utf8
import EstateMesh.Mesh.Capture
import EstateMesh.Documents
import EstateMesh.Lib.EventStream
import EstateMesh.Mesh.EventStream
import EstateMesh.Dispatch.Accounts
import EstateMesh.Dispatch.Server
import EstateMesh.Executors.LocalCommand
import EstateMesh.Executors.Results
import EstateMesh.Agent.Loop
import EstateMesh.Dispatch.Logs
import EstateMesh.RuntimeEvidence.Repairs
import EstateMesh.Resolver.Digest
import EstateMesh.Mesh.Destinations
import EstateMesh.Mesh.FailClosed
import EstateMesh.Agent.Commands
import EstateMesh.Resolver.LiveHistory
import EstateMesh.Dispatch.Standings
import EstateMesh.Resolver.NonInterference
import EstateMesh.ControlPlane.Endpoints
import EstateMesh.ControlPlane.Isolation
import EstateMesh.ControlPlane.Certified
import EstateMesh.Agent.Inventory
import EstateMesh.Agent.Fleet
