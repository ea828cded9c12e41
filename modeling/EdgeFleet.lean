import EdgeFleet.Agent.Message
import EdgeFleet.Cluster.Client
import EdgeFleet.Json.Parser
import EdgeFleet.Json.Printer
import EdgeFleet.Main
import EdgeFleet.Orchestration.Script
import EdgeFleet.Pki.Summary
import EdgeFleet.Proofs.Cluster.Store
import EdgeFleet.Proofs.Orchestration.Program
import EdgeFleet.Proofs.Orchestration.Script
import EdgeFleet.Proofs.Cluster.Naming
import EdgeFleet.Proofs.Orchestration.Placing
import EdgeFleet.Proofs.Orchestration.Action
import EdgeFleet.Proofs.Orchestration.Lifecycle
import EdgeFleet.Proofs.Orchestration.PolicyHistory
import EdgeFleet.Proofs.Orchestration.Selection
import EdgeFleet.Proofs.CommandLine.Authority
import EdgeFleet.Proofs.Orchestration.Retry
import EdgeFleet.Proofs.Orchestration.Concurrent
import EdgeFleet.Proofs.Orchestration.Command
import EdgeFleet.Proofs.Orchestration.Atomic
import EdgeFleet.Proofs.Inventory
import EdgeFleet.Proofs.Orchestration.FailStop
import EdgeFleet.Proofs.Orchestration.Sites
import EdgeFleet.Proofs.Agent.Workloads
import EdgeFleet.Proofs.Orchestration.Backends
import EdgeFleet.Proofs.Orchestration.Routing
import EdgeFleet.Proofs.Orchestration.Refusal
import EdgeFleet.Proofs.Orchestration.Serial
import EdgeFleet.Proofs.Orchestration.Balance
import EdgeFleet.Proofs.Orchestration.Pinning
import EdgeFleet.Proofs.Broker.Port
import EdgeFleet.Proofs.Pki.Recovery
import EdgeFleet.Proofs.Inventory.Retrieval
import EdgeFleet.Proofs.Pki.Verdict
import EdgeFleet.Proofs.Inventory.Duplicates
import EdgeFleet.Proofs.Record.RoundTrip
import EdgeFleet.Proofs.Orchestration.Admission
import EdgeFleet.Proofs.Orchestration.DnsRecords
import EdgeFleet.Proofs.Agent.Policy
import EdgeFleet.Proofs.Record.IpBlock
import EdgeFleet.Proofs.Cluster.Condition
import EdgeFleet.Proofs.Orchestration.Demand
import EdgeFleet.Proofs.Net.RoundTrip
import EdgeFleet.Proofs.Broker.Target
import EdgeFleet.Proofs.Broker.Resolution
import EdgeFleet.Proofs.Orchestration.Redeploy
import EdgeFleet.Proofs.Orchestration.Ports
import EdgeFleet.Proofs.Net.Mac
import EdgeFleet.Proofs.Record.Filter
import EdgeFleet.Proofs.Cluster.Client
import EdgeFleet.Proofs.Orchestration.Missing
import EdgeFleet.Proofs.Cluster.Spelling
import EdgeFleet.Proofs.Orchestration.Legality
