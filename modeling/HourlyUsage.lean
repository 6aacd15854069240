import HourlyUsage.Binary64
import HourlyUsage.Cell
import HourlyUsage.CommandLine.Arguments
import HourlyUsage.CommandLine.Run
import HourlyUsage.Database.Engine
import HourlyUsage.Database.Transaction
import HourlyUsage.Disk.Basic
import HourlyUsage.Http.CrossOrigin
import HourlyUsage.Http.Listing
import HourlyUsage.Http.Message
import HourlyUsage.Http.Serving
import HourlyUsage.Json.Parser
import HourlyUsage.Json.Printer
import HourlyUsage.Log.Basic
import HourlyUsage.Log.Sink
import HourlyUsage.Main
import HourlyUsage.Numeral
import HourlyUsage.Proofs.Cell
import HourlyUsage.Proofs.Cell.Bijection
import HourlyUsage.Proofs.CommandLine.Reading
import HourlyUsage.Proofs.CommandLine.Running
import HourlyUsage.Proofs.Database.Connections
import HourlyUsage.Proofs.Database.Engine
import HourlyUsage.Proofs.Database.Failing
import HourlyUsage.Proofs.Database.Growth
import HourlyUsage.Proofs.Database.Idle
import HourlyUsage.Proofs.Database.Standing
import HourlyUsage.Proofs.Database.Twins
import HourlyUsage.Proofs.Database.Writing
import HourlyUsage.Proofs.Disk
import HourlyUsage.Proofs.Http.Asking
import HourlyUsage.Proofs.Http.Escaping
import HourlyUsage.Proofs.Http.Usage
import HourlyUsage.Proofs.Json.Printing
import HourlyUsage.Proofs.Json.Reading
import HourlyUsage.Proofs.Numeral
import HourlyUsage.Proofs.Query.Answers
import HourlyUsage.Proofs.Query.Arguments
import HourlyUsage.Proofs.Query.Calls
import HourlyUsage.Proofs.Query.Collect
import HourlyUsage.Proofs.Query.Containment
import HourlyUsage.Proofs.Query.Cost
import HourlyUsage.Proofs.Query.Failing
import HourlyUsage.Proofs.Query.History
import HourlyUsage.Proofs.Query.Isolation
import HourlyUsage.Proofs.Query.Lifecycle
import HourlyUsage.Proofs.Query.Listing
import HourlyUsage.Proofs.Query.Ranges
import HourlyUsage.Proofs.Query.Spending
import HourlyUsage.Proofs.Settings.Loading
import HourlyUsage.Proofs.Settings.Origins
import HourlyUsage.Proofs.Snapshot.ClusterOrder
import HourlyUsage.Proofs.Snapshot.Grammar
import HourlyUsage.Proofs.Snapshot.Key
import HourlyUsage.Proofs.Snapshot.KeyOrder
import HourlyUsage.Proofs.Snapshot.NormalForm
import HourlyUsage.Proofs.Snapshot.Response
import HourlyUsage.Proofs.Store.Accounting
import HourlyUsage.Proofs.Store.Atomicity
import HourlyUsage.Proofs.Store.Closing
import HourlyUsage.Proofs.Store.Delivery
import HourlyUsage.Proofs.Store.Failing
import HourlyUsage.Proofs.Store.Files
import HourlyUsage.Proofs.Store.Growth
import HourlyUsage.Proofs.Store.Handing
import HourlyUsage.Proofs.Store.Interleaving
import HourlyUsage.Proofs.Store.Iterations
import HourlyUsage.Proofs.Store.LastWrite
import HourlyUsage.Proofs.Store.Ledger
import HourlyUsage.Proofs.Store.Memories
import HourlyUsage.Proofs.Store.Opening
import HourlyUsage.Proofs.Store.Pulls
import HourlyUsage.Proofs.Store.Quiet
import HourlyUsage.Proofs.Store.Reading
import HourlyUsage.Proofs.Store.Registry
import HourlyUsage.Proofs.Store.Run
import HourlyUsage.Proofs.Store.Scanners
import HourlyUsage.Proofs.Store.Serving
import HourlyUsage.Proofs.Store.Telltales
import HourlyUsage.Proofs.Store.Twins
import HourlyUsage.Proofs.Surfaces.Agreement
import HourlyUsage.Proofs.Surfaces.Failing
import HourlyUsage.Proofs.Table.Agreement
import HourlyUsage.Proofs.Table.Cost
import HourlyUsage.Proofs.Table.Filters
import HourlyUsage.Proofs.Table.Limits
import HourlyUsage.Proofs.Table.Overwriting
import HourlyUsage.Proofs.Table.Paging
import HourlyUsage.Proofs.Table.Ranged
import HourlyUsage.Proofs.Table.Reference
import HourlyUsage.Proofs.Table.Rounds
import HourlyUsage.Proofs.Table.Rows
import HourlyUsage.Proofs.Table.Sharing
import HourlyUsage.Proofs.Table.StopKeys
import HourlyUsage.Proofs.Text.Lines
import HourlyUsage.Proofs.Text.Pieces
import HourlyUsage.Proofs.Text.Reading
import HourlyUsage.Proofs.Text.Utf8
import HourlyUsage.Proofs.Text.WellFormed
import HourlyUsage.Query.Request
import HourlyUsage.Query.Scripted
import HourlyUsage.Query.Source
import HourlyUsage.Settings.App
import HourlyUsage.Settings.Environment
import HourlyUsage.Settings.Store
import HourlyUsage.Snapshot.Bucket
import HourlyUsage.Snapshot.Key
import HourlyUsage.Snapshot.Record
import HourlyUsage.SortedMap
import HourlyUsage.Store.Basic
import HourlyUsage.Store.Failure
import HourlyUsage.Store.Host
import HourlyUsage.Store.Scanning
import HourlyUsage.Table.Basic
import HourlyUsage.Table.Scan
import HourlyUsage.Text.Basic
import HourlyUsage.Text.Casing
import HourlyUsage.Text.Lowercase
import HourlyUsage.Text.Printable
import HourlyUsage.Text.Quoted
import HourlyUsage.Text.Uppercase
import HourlyUsage.Text.Utf8
import HourlyUsage.Validation
import HourlyUsage.Wording
