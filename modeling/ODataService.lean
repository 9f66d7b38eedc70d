import ODataService.Gateway
import ODataService.Main
import ODataService.Proofs.Filter.Grammar
import ODataService.Store.Operations
import ODataService.Store.Values
import ODataService.Proofs.Filter.Parsing
import ODataService.Proofs.Filter.Lexing
import ODataService.Proofs.Filter.Balance
import ODataService.Proofs.Filter.RoundTrip
import ODataService.Proofs.Action
import ODataService.Proofs.Service.Keeps
import ODataService.Proofs.Assoc
import ODataService.Proofs.Keyed
import ODataService.Proofs.Store.Operations
import ODataService.Proofs.Store.Records
import ODataService.Proofs.Store.Steps
import ODataService.Proofs.Store.Reachable
import ODataService.Proofs.Service.Records
import ODataService.Proofs.Service.Routes
import ODataService.Proofs.Service.Frame
import ODataService.Proofs.Number.Rounding
import ODataService.Proofs.Time.Calendar
import ODataService.Proofs.Time.Stamps
import ODataService.Proofs.Time.Order
import ODataService.Proofs.Store.History
import ODataService.Proofs.Store.Calls
import ODataService.Proofs.Store.Stamps
import ODataService.Proofs.EntityTag.Tags
import ODataService.Proofs.Service.Versions
import ODataService.Proofs.Service.Concurrency
import ODataService.Proofs.Batch.Isolation
import ODataService.Proofs.Batch.Sequential
import ODataService.Proofs.Batch.RoundTrip
import ODataService.Proofs.Query.Order
import ODataService.Proofs.Query.Projection
import ODataService.Proofs.Expand.Options
import ODataService.Proofs.Expand.PerRecord
import ODataService.Proofs.Expand.Bounds
import ODataService.Proofs.Expand.Projecting
import ODataService.Proofs.Store.Maps
import ODataService.Proofs.Service.Paths
import ODataService.Proofs.Service.Reads
import ODataService.Proofs.Filter.Wire
import ODataService.Proofs.Query.Wire
import ODataService.Proofs.Sorting.Contents
import ODataService.Proofs.Query.Counting
import ODataService.Proofs.Query.Options
import ODataService.Proofs.Service.Counts
import ODataService.Proofs.Service.Interleaving
import ODataService.Proofs.Service.Location
import ODataService.Proofs.Service.Addressing
import ODataService.Proofs.Http.Rendering
import ODataService.Proofs.Service.Headers
import ODataService.Proofs.Batch.Payload
import ODataService.Proofs.Batch.RequestLines
import ODataService.Proofs.Json.RoundTrip
import ODataService.Proofs.Service.Envelopes
import ODataService.Proofs.Expand.Chain
import ODataService.Proofs.Service.Parallel
import ODataService.Proofs.Service.Confidential
import ODataService.Proofs.Remote.Conversation
import ODataService.Proofs.Service.Upstream
import ODataService.Proofs.Service.Refusals
import ODataService.Proofs.Service.CallerFaults
import ODataService.Proofs.Query.Answers
import ODataService.Proofs.Filter.Parentheses
import ODataService.Proofs.Expand.ForeignKeys
import ODataService.Proofs.Filter.Lexemes
import ODataService.Proofs.Filter.Literals
import ODataService.Proofs.Expand.Splitting
import ODataService.Proofs.Expand.Writing
import ODataService.Proofs.Expand.Trees
import ODataService.Proofs.Expand.NestedFilters
import ODataService.Proofs.Batch.Changesets
import ODataService.Proofs.Filter.Spans
import ODataService.Proofs.Filter.Diagnosis
import ODataService.Proofs.EntityTag.Echo
import ODataService.Proofs.Query.Faults
import ODataService.Proofs.Text.LineBreaks
import ODataService.Proofs.Batch.LineBreaks
import ODataService.Proofs.Batch.Envelope
import ODataService.Proofs.Remote.Refresh
import ODataService.Proofs.Text.Utf8
import ODataService.Proofs.Url.Percent
import ODataService.Proofs.Url.Forms
import ODataService.Proofs.Expand.Balance
import ODataService.Proofs.EntityTag.RollingHash
import ODataService.Proofs.EntityTag.Times
import ODataService.Proofs.Schema.XmlReader
import ODataService.Proofs.Schema.XmlRoundTrip
import ODataService.Proofs.Schema.Published
