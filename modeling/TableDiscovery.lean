import TableDiscovery.Json.Reader
import TableDiscovery.Main
import TableDiscovery.Program
import TableDiscovery.Proofs.Monitor.Made
import TableDiscovery.Retry.Trial
import TableDiscovery.Proofs.Monitor.Poll
import TableDiscovery.Proofs.Monitor.History
import TableDiscovery.Proofs.Monitor.Loop
import TableDiscovery.Proofs.Monitor.Tables
import TableDiscovery.Proofs.Assignment
import TableDiscovery.Proofs.Connector.Reachable
import TableDiscovery.Proofs.Connector.Tasks
import TableDiscovery.Proofs.Dialect.NameList
import TableDiscovery.Proofs.Connector.Connections
import TableDiscovery.Proofs.Waiting
import TableDiscovery.Proofs.Connector.Refusal
import TableDiscovery.Proofs.QueryMode
import TableDiscovery.Proofs.Program.Agreement
import TableDiscovery.Proofs.Connector.Faults
import TableDiscovery.Proofs.Monitor.Accounting
import TableDiscovery.Proofs.Probing
import TableDiscovery.Proofs.Dialect.Credentials
import TableDiscovery.Proofs.Retry.Backoff
import TableDiscovery.Proofs.Connector.Numbers
import TableDiscovery.Proofs.Table
import TableDiscovery.Proofs.Dialect.Whitelist
import TableDiscovery.Proofs.Dialect.SigningIn
import TableDiscovery.Proofs.Dialect.Listing
import TableDiscovery.Proofs.Environment
import TableDiscovery.Proofs.Tracing.Work
import TableDiscovery.Proofs.Program.IntegerOptions
import TableDiscovery.Proofs.Logs.Sharing
import TableDiscovery.Proofs.Logs.JsonFormat
import TableDiscovery.Proofs.Snapshot
