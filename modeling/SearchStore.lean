import SearchStore.Assoc
import SearchStore.Text.Blank
import SearchStore.Text.List
import SearchStore.Decimal.Reading
import SearchStore.Decimal.Layout
import SearchStore.Json.Merge
import SearchStore.Json.Printer
import SearchStore.Json.Parser
import SearchStore.Time.Reading
import SearchStore.Duration.Parser
import SearchStore.Pattern.Parser
import SearchStore.Text.Quoted
import SearchStore.Error
import SearchStore.Config.Connector
import SearchStore.Config.Query
import SearchStore.Config.Storage
import SearchStore.Compiler
import SearchStore.Mapping.Registry
import SearchStore.Storage.VersionList
import SearchStore.Page
import SearchStore.Engine.Access
import SearchStore.Engine.Script
import SearchStore.Connector
import SearchStore.QueryService
import SearchStore.Storage.Writer
import SearchStore.Storage.Reader
import SearchStore.Schema
import SearchStore.Description.Component
import SearchStore.Http.Client
import SearchStore.Proofs.Results
import SearchStore.Proofs.Text.Digits
import SearchStore.Proofs.Json.Merge
import SearchStore.Proofs.Json.Layers
import SearchStore.Proofs.Json.Regrouping
import SearchStore.Proofs.Json.Overlay
import SearchStore.Proofs.Json.Record
import SearchStore.Proofs.Mapping
import SearchStore.Proofs.Time.Numbers
import SearchStore.Proofs.Time.RoundTrip
import SearchStore.Proofs.Duration.Parts
import SearchStore.Proofs.Duration.RoundTrip
import SearchStore.Proofs.Config.Selection
import SearchStore.Proofs.Config.RoundTrip
import SearchStore.Proofs.Filter.Forest
import SearchStore.Proofs.Filter.Grouping
import SearchStore.Proofs.Filter.Reading
import SearchStore.Proofs.Filter.Meaning
import SearchStore.Proofs.Filter.Compiled
import SearchStore.Proofs.Filter.Fault
import SearchStore.Proofs.Filter.Restriction
import SearchStore.Proofs.Filter.Inversion
import SearchStore.Proofs.Filter.Shape
import SearchStore.Proofs.Engine.Calls
import SearchStore.Proofs.Engine.Interleaving
import SearchStore.Proofs.Engine.Exchange
import SearchStore.Proofs.Engine.Replies
import SearchStore.Proofs.Http.Request
import SearchStore.Proofs.Http.Resolution
import SearchStore.Proofs.Http.Reference
import SearchStore.Proofs.Http.Location
import SearchStore.Proofs.Http.Sending
import SearchStore.Proofs.Finder.Calls
import SearchStore.Proofs.Finder.Target
import SearchStore.Proofs.Finder.Order
import SearchStore.Proofs.Finder.Service
import SearchStore.Proofs.Finder.Lookup
import SearchStore.Proofs.Finder.Operations
import SearchStore.Proofs.Finder.Scrolls
import SearchStore.Proofs.Storage.Reader
import SearchStore.Proofs.Storage.Paging
import SearchStore.Proofs.Storage.Address
import SearchStore.Proofs.Storage.Documents
import SearchStore.Proofs.Storage.Operations
import SearchStore.Proofs.Storage.Batch
import SearchStore.Proofs.Storage.BulkAnswer
import SearchStore.Proofs.Storage.Target
import SearchStore.Proofs.Storage.VersionList
import SearchStore.Proofs.Operation.Calls
import SearchStore.Proofs.Operation.Failures
import SearchStore.Proofs.Schema.Creation
import SearchStore.Proofs.Schema.Provisioning
import SearchStore.Proofs.Filter.Bounds
import SearchStore.Proofs.Mapping.Items
import SearchStore.Proofs.Text.Literal
import SearchStore.Proofs.Time.Strict
import SearchStore.Proofs.Filter.Dates
import SearchStore.Proofs.Pattern.Run
import SearchStore.Proofs.Text.CharSet
import SearchStore.Proofs.Pattern.Suggestion
import SearchStore.Proofs.Search.Phrase
import SearchStore.Proofs.Storage.Parameters
import SearchStore.Proofs.Storage.Failure
import SearchStore.Proofs.Finder.Index
import SearchStore.Proofs.Schema.Reachable
