import EntityQuery.Calendar.Date
import EntityQuery.Calendar.Instant
import EntityQuery.Calendar.Reading
import EntityQuery.Decimal.Binary64
import EntityQuery.Decimal.Layout
import EntityQuery.Decimal.Numeral
import EntityQuery.Decimal.Shortest
import EntityQuery.Duration
import EntityQuery.EdmType
import EntityQuery.Entity
import EntityQuery.Error
import EntityQuery.Fields
import EntityQuery.Hook.Basic
import EntityQuery.Hook.Script
import EntityQuery.Json.Basic
import EntityQuery.Json.Parser
import EntityQuery.Json.Printer
import EntityQuery.Literal
import EntityQuery.Metadata
import EntityQuery.Processor
import EntityQuery.Proofs.Alike
import EntityQuery.Proofs.Amounts
import EntityQuery.Proofs.Calendar.Date
import EntityQuery.Proofs.Calendar.Instant
import EntityQuery.Proofs.Calendar.Reading
import EntityQuery.Proofs.Calendar.Reread
import EntityQuery.Proofs.Decimal.Layout
import EntityQuery.Proofs.Decimal.Nearest
import EntityQuery.Proofs.Decimal.Numeral
import EntityQuery.Proofs.Decimal.Rounding
import EntityQuery.Proofs.Decimal.Spelling
import EntityQuery.Proofs.Decimal.Thousandths
import EntityQuery.Proofs.Duration
import EntityQuery.Proofs.Duration.Form
import EntityQuery.Proofs.Fields
import EntityQuery.Proofs.Json.Nesting
import EntityQuery.Proofs.Json.WholeNumber
import EntityQuery.Proofs.KeyText
import EntityQuery.Proofs.Keys
import EntityQuery.Proofs.Processor.Abandonment
import EntityQuery.Proofs.Processor.Answer
import EntityQuery.Proofs.Processor.Collections
import EntityQuery.Proofs.Processor.Draining
import EntityQuery.Proofs.Processor.Ending
import EntityQuery.Proofs.Processor.EventHooks
import EntityQuery.Proofs.Processor.Invariant
import EntityQuery.Proofs.Processor.Reception
import EntityQuery.Proofs.Processor.Relay
import EntityQuery.Proofs.Processor.Scopes
import EntityQuery.Proofs.Processor.Sending
import EntityQuery.Proofs.Processor.SideBySide
import EntityQuery.Proofs.Processor.Streaming
import EntityQuery.Proofs.Query.FilterLiterals
import EntityQuery.Proofs.Query.Fragments
import EntityQuery.Proofs.Query.Grammar
import EntityQuery.Proofs.Query.InlineText
import EntityQuery.Proofs.Query.Literal
import EntityQuery.Proofs.Query.LiteralConversion
import EntityQuery.Proofs.Query.LiteralFields
import EntityQuery.Proofs.Query.LiteralReading
import EntityQuery.Proofs.Query.Meaning
import EntityQuery.Proofs.Query.Operand
import EntityQuery.Proofs.Query.Pattern
import EntityQuery.Proofs.Query.RoundTrip
import EntityQuery.Proofs.Query.Soundness
import EntityQuery.Proofs.Query.Statement
import EntityQuery.Proofs.Query.StatementReading
import EntityQuery.Proofs.Query.StatementTokens
import EntityQuery.Proofs.Query.StatementWords
import EntityQuery.Proofs.Query.StringOption
import EntityQuery.Proofs.Query.Token
import EntityQuery.Proofs.Renaming.Query
import EntityQuery.Proofs.Renaming.Record
import EntityQuery.Proofs.Renaming.Service
import EntityQuery.Proofs.Renaming.Store
import EntityQuery.Proofs.Renaming.Table
import EntityQuery.Proofs.SentBack
import EntityQuery.Proofs.Service.Adding
import EntityQuery.Proofs.Service.Attaching
import EntityQuery.Proofs.Service.Collection
import EntityQuery.Proofs.Service.Consulting
import EntityQuery.Proofs.Service.Copying
import EntityQuery.Proofs.Service.DeepInsert
import EntityQuery.Proofs.Service.DeepShowing
import EntityQuery.Proofs.Service.Displaying
import EntityQuery.Proofs.Service.Fixed
import EntityQuery.Proofs.Service.GivenText
import EntityQuery.Proofs.Service.Hooks
import EntityQuery.Proofs.Service.Inbound
import EntityQuery.Proofs.Service.Likeness
import EntityQuery.Proofs.Service.Linking
import EntityQuery.Proofs.Service.Mirroring
import EntityQuery.Proofs.Service.Nesting
import EntityQuery.Proofs.Service.Operations
import EntityQuery.Proofs.Service.PathKey
import EntityQuery.Proofs.Service.Pending
import EntityQuery.Proofs.Service.Persisting
import EntityQuery.Proofs.Service.Recording
import EntityQuery.Proofs.Service.Rejecting
import EntityQuery.Proofs.Service.Results
import EntityQuery.Proofs.Service.Rows
import EntityQuery.Proofs.Service.Saving
import EntityQuery.Proofs.Service.Schema
import EntityQuery.Proofs.Service.Shape
import EntityQuery.Proofs.Service.Showing
import EntityQuery.Proofs.Service.SideBySide
import EntityQuery.Proofs.Service.Updating
import EntityQuery.Proofs.Sorting.Order
import EntityQuery.Proofs.Sorting.Permutation
import EntityQuery.Proofs.Sorting.Precedence
import EntityQuery.Proofs.Sorting.Stability
import EntityQuery.Proofs.Store.Agreement
import EntityQuery.Proofs.Store.Browsing
import EntityQuery.Proofs.Store.Cells
import EntityQuery.Proofs.Store.Commit
import EntityQuery.Proofs.Store.Conflicts
import EntityQuery.Proofs.Store.Copies
import EntityQuery.Proofs.Store.Cursors
import EntityQuery.Proofs.Store.Freshness
import EntityQuery.Proofs.Store.History
import EntityQuery.Proofs.Store.Index
import EntityQuery.Proofs.Store.Isolation
import EntityQuery.Proofs.Store.Kept
import EntityQuery.Proofs.Store.KeyLookup
import EntityQuery.Proofs.Store.Ledger
import EntityQuery.Proofs.Store.Listing
import EntityQuery.Proofs.Store.Merge
import EntityQuery.Proofs.Store.MergedOrder
import EntityQuery.Proofs.Store.Ordering
import EntityQuery.Proofs.Store.Paging
import EntityQuery.Proofs.Store.Publishing
import EntityQuery.Proofs.Store.Reads
import EntityQuery.Proofs.Store.Renumbering
import EntityQuery.Proofs.Store.Rows
import EntityQuery.Proofs.Store.Selection
import EntityQuery.Proofs.Store.Sequence
import EntityQuery.Proofs.Store.Serial
import EntityQuery.Proofs.Store.Served
import EntityQuery.Proofs.Store.Step
import EntityQuery.Proofs.Store.Storage
import EntityQuery.Proofs.Store.Table
import EntityQuery.Proofs.Store.TableCall
import EntityQuery.Proofs.Store.Versions
import EntityQuery.Proofs.Store.Write
import EntityQuery.Proofs.Text.Distance
import EntityQuery.Proofs.Text.Escapes
import EntityQuery.Proofs.Text.Runs
import EntityQuery.Proofs.Text.Utf8
import EntityQuery.Proofs.Transaction
import EntityQuery.Proofs.Transport.Delivery
import EntityQuery.Proofs.Transport.Head
import EntityQuery.Proofs.Transport.Patience
import EntityQuery.Proofs.Transport.Traffic
import EntityQuery.Proofs.Triple
import EntityQuery.Proofs.WholeNumbers
import EntityQuery.Query.Expression
import EntityQuery.Query.Lowering
import EntityQuery.Query.OptionParser
import EntityQuery.Query.Parser
import EntityQuery.Query.Plan
import EntityQuery.Query.Predicate
import EntityQuery.Query.Rendering
import EntityQuery.Query.Token
import EntityQuery.Registry
import EntityQuery.Request
import EntityQuery.Server.Address
import EntityQuery.Server.Route
import EntityQuery.Server.Settings
import EntityQuery.Service.Call
import EntityQuery.Service.Dispatch
import EntityQuery.Service.Inbound
import EntityQuery.Service.Reading
import EntityQuery.Service.Rows
import EntityQuery.Service.Writing
import EntityQuery.Session
import EntityQuery.Sorting.Block
import EntityQuery.Sorting.Runs
import EntityQuery.Sorting.Stable
import EntityQuery.Store.Basic
import EntityQuery.Store.Cursor
import EntityQuery.Store.Selection
import EntityQuery.Store.Staged
import EntityQuery.Store.Storage
import EntityQuery.Store.Table
import EntityQuery.Text.Blank
import EntityQuery.Text.Case
import EntityQuery.Text.CaseTable
import EntityQuery.Text.Described
import EntityQuery.Text.Distance
import EntityQuery.Text.Percent
import EntityQuery.Text.PrintableTable
import EntityQuery.Text.Quoted
import EntityQuery.Text.Utf8
import EntityQuery.Transaction
import EntityQuery.Transport.Basic
import EntityQuery.Transport.Channel
import EntityQuery.Transport.Connection
import EntityQuery.Transport.Recorder
import EntityQuery.Value
