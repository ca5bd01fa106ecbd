import QueryGateway.Main
import QueryGateway.Proofs.Binary64.Shortest
import QueryGateway.Proofs.Cache.History
import QueryGateway.Rehearsal
import QueryGateway.Storage.Database
import QueryGateway.Storage.Memory
import QueryGateway.Proofs.Binary64.Numeral
import QueryGateway.Proofs.Json.Text
import QueryGateway.Proofs.Dictionary
import QueryGateway.Proofs.Json.Canonical
import QueryGateway.Proofs.Cache.Identity
import QueryGateway.Proofs.Engine.Sources
import QueryGateway.Proofs.Engine.Transparency
import QueryGateway.Proofs.Engine.Execute
import QueryGateway.Proofs.Engine.Interleaving
import QueryGateway.Proofs.Engine.Steps
import QueryGateway.Proofs.Engine.Activity
import QueryGateway.Proofs.Engine.Removal
import QueryGateway.Proofs.Engine.Logging
import QueryGateway.Proofs.Journal.Balance
import QueryGateway.Proofs.Service.Isolation
import QueryGateway.Proofs.Engine.Failing
import QueryGateway.Proofs.Engine.Contacts
import QueryGateway.Proofs.Journal.Order
import QueryGateway.Proofs.Catalog.RoundTrip
import QueryGateway.Proofs.Registry
import QueryGateway.Proofs.Storage.Batch
import QueryGateway.Proofs.Service.Accounting
import QueryGateway.Proofs.Rows.Order
import QueryGateway.Proofs.Rows.Integers
import QueryGateway.Proofs.Rows.Columns
import QueryGateway.Proofs.Template
import QueryGateway.Proofs.Remote.Address
import QueryGateway.Proofs.Remote.Overriding
import QueryGateway.Proofs.Engine.Freshness
import QueryGateway.Proofs.Rows.Stability
import QueryGateway.Proofs.Rows.Partition
import QueryGateway.Proofs.Rows.Ranges
import QueryGateway.Proofs.Binary64.Addition
import QueryGateway.Proofs.Rows.Matching
import QueryGateway.Proofs.Rows.Metrics
import QueryGateway.Proofs.Rows.Totals
import QueryGateway.Proofs.Rows.Chaining
import QueryGateway.Proofs.Engine.Declared
import QueryGateway.Proofs.Engine.Counts
import QueryGateway.Proofs.Storage.NulFree
import QueryGateway.Proofs.Journal.Draining
import QueryGateway.Proofs.Remote.Body
import QueryGateway.Proofs.Cache.Sections
import QueryGateway.Proofs.Json.Address
