import Keyspace.Agent
import Keyspace.Binary64.Basic
import Keyspace.Binary64.Shortest
import Keyspace.Config
import Keyspace.Document
import Keyspace.DomainName.Basic
import Keyspace.DomainName.Direction
import Keyspace.DomainName.Joining
import Keyspace.DomainName.Mapping
import Keyspace.DomainName.Punycode
import Keyspace.DoneSet
import Keyspace.Engine.Basic
import Keyspace.Engine.CouchDb
import Keyspace.Engine.Firestore
import Keyspace.Engine.Memory
import Keyspace.Engine.Observed
import Keyspace.Http.Exchange
import Keyspace.Http.Host.Basic
import Keyspace.Http.Host.Ipv4
import Keyspace.Http.Host.Ipv6
import Keyspace.Http.Url.Basic
import Keyspace.Http.Url.Reader
import Keyspace.Json.Access
import Keyspace.Json.Basic
import Keyspace.Json.Number
import Keyspace.Json.Parser
import Keyspace.Json.Printer
import Keyspace.Json.Read
import Keyspace.OnceCells
import Keyspace.Proofs.Binary64
import Keyspace.Proofs.DocId
import Keyspace.Proofs.Engine.Command
import Keyspace.Proofs.Engine.CouchDb.Absence
import Keyspace.Proofs.Engine.CouchDb.Caches
import Keyspace.Proofs.Engine.CouchDb.Conversation
import Keyspace.Proofs.Engine.CouchDb.Exchanges
import Keyspace.Proofs.Engine.CouchDb.Fallback
import Keyspace.Proofs.Engine.CouchDb.Guarded
import Keyspace.Proofs.Engine.CouchDb.Operations
import Keyspace.Proofs.Engine.CouchDb.Runs
import Keyspace.Proofs.Engine.CouchDb.Server
import Keyspace.Proofs.Engine.CouchDb.Shelf
import Keyspace.Proofs.Engine.Firestore.Absence
import Keyspace.Proofs.Engine.Firestore.Fallback
import Keyspace.Proofs.Engine.Firestore.Filter
import Keyspace.Proofs.Engine.Firestore.Operations
import Keyspace.Proofs.Engine.Firestore.Paging
import Keyspace.Proofs.Engine.Firestore.Reading
import Keyspace.Proofs.Engine.Firestore.Resources
import Keyspace.Proofs.Engine.Firestore.Server
import Keyspace.Proofs.Engine.Firestore.Shelf
import Keyspace.Proofs.Engine.Memory
import Keyspace.Proofs.Engine.Memory.Refinement
import Keyspace.Proofs.Engine.Observed
import Keyspace.Proofs.Engine.Reference
import Keyspace.Proofs.FieldPath
import Keyspace.Proofs.Http.Client
import Keyspace.Proofs.Http.Shared
import Keyspace.Proofs.InTurn
import Keyspace.Proofs.Json.Members
import Keyspace.Proofs.Json.Reread
import Keyspace.Proofs.Json.Token
import Keyspace.Proofs.Lockstep
import Keyspace.Proofs.OnceCells
import Keyspace.Proofs.Record.Alike
import Keyspace.Proofs.Record.Filed
import Keyspace.Proofs.Record.Legible
import Keyspace.Proofs.Record.Reading
import Keyspace.Proofs.Record.Revised
import Keyspace.Proofs.Record.RoundTrip
import Keyspace.Proofs.Record.SameData
import Keyspace.Proofs.Runs
import Keyspace.Proofs.Service.Absence
import Keyspace.Proofs.Service.Agreement
import Keyspace.Proofs.Service.Alike
import Keyspace.Proofs.Service.Batches
import Keyspace.Proofs.Service.Calls
import Keyspace.Proofs.Service.Clearing
import Keyspace.Proofs.Service.Confined
import Keyspace.Proofs.Service.CouchDb
import Keyspace.Proofs.Service.Draft
import Keyspace.Proofs.Service.Fallback
import Keyspace.Proofs.Service.Faults
import Keyspace.Proofs.Service.FieldTypes
import Keyspace.Proofs.Service.Finding
import Keyspace.Proofs.Service.Firestore
import Keyspace.Proofs.Service.History
import Keyspace.Proofs.Service.IndexFailures
import Keyspace.Proofs.Service.Interchangeable
import Keyspace.Proofs.Service.Isolation
import Keyspace.Proofs.Service.Kept
import Keyspace.Proofs.Service.Listing
import Keyspace.Proofs.Service.Lockstep
import Keyspace.Proofs.Service.Memory
import Keyspace.Proofs.Service.Merging
import Keyspace.Proofs.Service.Observed
import Keyspace.Proofs.Service.Provisioning
import Keyspace.Proofs.Service.Reads
import Keyspace.Proofs.Service.Request
import Keyspace.Proofs.Service.ResourceIds
import Keyspace.Proofs.Service.Revising
import Keyspace.Proofs.Service.Selector
import Keyspace.Proofs.Service.Serving
import Keyspace.Proofs.Service.SetOverHttp
import Keyspace.Proofs.Service.SetThenGet
import Keyspace.Proofs.Service.Spaces
import Keyspace.Proofs.Service.TaggedReads
import Keyspace.Proofs.Service.Telemetry
import Keyspace.Proofs.Service.Untagged
import Keyspace.Proofs.Service.Upkeep
import Keyspace.Proofs.Service.Values
import Keyspace.Proofs.Service.View
import Keyspace.Proofs.SortedMap
import Keyspace.Proofs.Text.Base64
import Keyspace.Proofs.Text.Percent
import Keyspace.Proofs.Time.RoundTrip
import Keyspace.Proofs.Tool.Confined
import Keyspace.Proofs.Tool.Operations
import Keyspace.Proofs.Tool.PlainMap
import Keyspace.Proofs.Tool.Refinement
import Keyspace.Proofs.TypedValue
import Keyspace.Proofs.TypedValue.Decoding
import Keyspace.Proofs.TypedValue.Equality
import Keyspace.Proofs.TypedValue.Grammar
import Keyspace.Proofs.TypedValue.Reread
import Keyspace.Proofs.TypedValue.RoundTrip
import Keyspace.Proofs.TypedValue.Types
import Keyspace.Record
import Keyspace.Service
import Keyspace.SortedMap
import Keyspace.StoreError
import Keyspace.StructuredQuery
import Keyspace.Text.Base64
import Keyspace.Text.CaseClass
import Keyspace.Text.CharClass
import Keyspace.Text.Composition
import Keyspace.Text.Lowercase
import Keyspace.Text.Marks
import Keyspace.Text.Numeral
import Keyspace.Text.Percent
import Keyspace.Text.Printability
import Keyspace.Time.Date
import Keyspace.Time.Instant
import Keyspace.Time.Reader
import Keyspace.Tool.Basic
import Keyspace.Tool.DataStore
import Keyspace.Tool.Provider
import Keyspace.TypedValue
