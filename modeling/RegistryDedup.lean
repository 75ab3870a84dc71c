import RegistryDedup.Audit.Orphans
import RegistryDedup.Command.EnvFile
import RegistryDedup.Command.Environment
import RegistryDedup.Command.Job
import RegistryDedup.Command.Line
import RegistryDedup.Command.Network
import RegistryDedup.Command.Options
import RegistryDedup.Command.Outcome
import RegistryDedup.Command.Snapshot
import RegistryDedup.Decimal.Binary64
import RegistryDedup.Decimal.Shortest
import RegistryDedup.Detail.Dedupe
import RegistryDedup.Detail.Duplicates
import RegistryDedup.Detail.OwnerUpdate
import RegistryDedup.Files.Directory
import RegistryDedup.Files.Journal
import RegistryDedup.Files.Lock
import RegistryDedup.Http.Message
import RegistryDedup.Idna.Direction
import RegistryDedup.Idna.DirectionTable
import RegistryDedup.Idna.Domain
import RegistryDedup.Idna.Joining
import RegistryDedup.Idna.JoiningTable
import RegistryDedup.Idna.Mapping
import RegistryDedup.Idna.MappingTable
import RegistryDedup.Idna.Punycode
import RegistryDedup.Json.Basic
import RegistryDedup.Json.Printer
import RegistryDedup.Json.Record
import RegistryDedup.Json.Tree
import RegistryDedup.Json.Value
import RegistryDedup.Main
import RegistryDedup.Merge.References
import RegistryDedup.Merge.Report
import RegistryDedup.Merge.Run
import RegistryDedup.Merge.Settings
import RegistryDedup.Merge.Stepwise
import RegistryDedup.Merge.Survivor
import RegistryDedup.Name.Grouping
import RegistryDedup.Name.Normalizer
import RegistryDedup.Postgrest.Client
import RegistryDedup.Postgrest.Filter
import RegistryDedup.Postgrest.Paging
import RegistryDedup.Postgrest.Reply
import RegistryDedup.Program
import RegistryDedup.Proofs.Audit.Orphans
import RegistryDedup.Proofs.Command.Assignments
import RegistryDedup.Proofs.Command.Redaction
import RegistryDedup.Proofs.Decimal.Rounding
import RegistryDedup.Proofs.Detail.Dedupe
import RegistryDedup.Proofs.Detail.Duplicates
import RegistryDedup.Proofs.Detail.Newest
import RegistryDedup.Proofs.Detail.OwnerUpdate
import RegistryDedup.Proofs.Detail.Refusals
import RegistryDedup.Proofs.Detail.Repetition
import RegistryDedup.Proofs.Detail.Restoration
import RegistryDedup.Proofs.Except
import RegistryDedup.Proofs.Files.Continuation
import RegistryDedup.Proofs.Files.DefaultLock
import RegistryDedup.Proofs.Files.Directory
import RegistryDedup.Proofs.Files.Exclusion
import RegistryDedup.Proofs.Files.Journal
import RegistryDedup.Proofs.Interleaving
import RegistryDedup.Proofs.Json.Extension
import RegistryDedup.Proofs.Json.Integers
import RegistryDedup.Proofs.Json.Reading
import RegistryDedup.Proofs.Merge.Accounting
import RegistryDedup.Proofs.Merge.Choice
import RegistryDedup.Proofs.Merge.Concurrent
import RegistryDedup.Proofs.Merge.Counting
import RegistryDedup.Proofs.Merge.Course
import RegistryDedup.Proofs.Merge.EarlyEnd
import RegistryDedup.Proofs.Merge.Election
import RegistryDedup.Proofs.Merge.Ending
import RegistryDedup.Proofs.Merge.Exits
import RegistryDedup.Proofs.Merge.Faithful
import RegistryDedup.Proofs.Merge.Fatal
import RegistryDedup.Proofs.Merge.Flights
import RegistryDedup.Proofs.Merge.Idempotence
import RegistryDedup.Proofs.Merge.Memory
import RegistryDedup.Proofs.Merge.Onward
import RegistryDedup.Proofs.Merge.Order
import RegistryDedup.Proofs.Merge.Outcome
import RegistryDedup.Proofs.Merge.Preflight
import RegistryDedup.Proofs.Merge.Preview
import RegistryDedup.Proofs.Merge.Ranking
import RegistryDedup.Proofs.Merge.References
import RegistryDedup.Proofs.Merge.Reliable
import RegistryDedup.Proofs.Merge.Repetition
import RegistryDedup.Proofs.Merge.Resume
import RegistryDedup.Proofs.Merge.Safety
import RegistryDedup.Proofs.Merge.Settlement
import RegistryDedup.Proofs.Merge.Steps
import RegistryDedup.Proofs.Merge.Streak
import RegistryDedup.Proofs.Merge.Survivor
import RegistryDedup.Proofs.Merge.Totals
import RegistryDedup.Proofs.Merge.Transient
import RegistryDedup.Proofs.Merge.Underway
import RegistryDedup.Proofs.Merge.Unfinished
import RegistryDedup.Proofs.Merge.Verdict
import RegistryDedup.Proofs.Merge.WrittenAhead
import RegistryDedup.Proofs.Name.Fronts
import RegistryDedup.Proofs.Name.Grouping
import RegistryDedup.Proofs.Name.Normalizer
import RegistryDedup.Proofs.Name.Partition
import RegistryDedup.Proofs.Name.Qualifiers
import RegistryDedup.Proofs.Postgrest.Filter
import RegistryDedup.Proofs.Postgrest.Paging
import RegistryDedup.Proofs.Registry.Dependents
import RegistryDedup.Proofs.Registry.Identifier
import RegistryDedup.Proofs.Run.Calls
import RegistryDedup.Proofs.Sql.Agreement
import RegistryDedup.Proofs.Sql.Atomicity
import RegistryDedup.Proofs.Sql.Course
import RegistryDedup.Proofs.Sql.Quoting
import RegistryDedup.Proofs.Sql.Reference
import RegistryDedup.Proofs.Sql.Tokens
import RegistryDedup.Proofs.Store.Growth
import RegistryDedup.Proofs.Store.Purge
import RegistryDedup.Proofs.Store.Redirect
import RegistryDedup.Proofs.Store.Retry
import RegistryDedup.Proofs.Store.Shared
import RegistryDedup.Proofs.Store.Struck
import RegistryDedup.Proofs.Store.Tables
import RegistryDedup.Proofs.Store.Tally
import RegistryDedup.Proofs.Store.Torn
import RegistryDedup.Proofs.Store.Truthful
import RegistryDedup.Proofs.Store.Unrepeated
import RegistryDedup.Proofs.Text.Blank
import RegistryDedup.Proofs.Text.ByteOrder
import RegistryDedup.Proofs.Text.Digits
import RegistryDedup.Proofs.Text.Excerpt
import RegistryDedup.Proofs.Text.Split
import RegistryDedup.Proofs.Text.Trim
import RegistryDedup.Proofs.Text.Upper
import RegistryDedup.Proofs.Text.Utf8
import RegistryDedup.Proofs.Time.Order
import RegistryDedup.Proofs.Time.Reading
import RegistryDedup.Proofs.Transcript
import RegistryDedup.Proofs.Url.Form
import RegistryDedup.Proofs.Url.Reader
import RegistryDedup.Registry.Basic
import RegistryDedup.Registry.Identifier
import RegistryDedup.Run.Action
import RegistryDedup.Run.Trouble
import RegistryDedup.Run.World
import RegistryDedup.Sql.Address
import RegistryDedup.Sql.Database
import RegistryDedup.Sql.Fault
import RegistryDedup.Sql.Statement
import RegistryDedup.Sql.Transaction
import RegistryDedup.Store.Failure
import RegistryDedup.Store.Faults
import RegistryDedup.Store.Request
import RegistryDedup.Store.Retry
import RegistryDedup.Store.Row
import RegistryDedup.Store.Tables
import RegistryDedup.Text.Blank
import RegistryDedup.Text.CaseTable
import RegistryDedup.Text.CodeRange
import RegistryDedup.Text.Composition
import RegistryDedup.Text.CompositionTable
import RegistryDedup.Text.EscapeTable
import RegistryDedup.Text.Excerpt
import RegistryDedup.Text.Hex
import RegistryDedup.Text.Integer
import RegistryDedup.Text.Letter
import RegistryDedup.Text.LetterTable
import RegistryDedup.Text.Quoted
import RegistryDedup.Text.Split
import RegistryDedup.Text.Upper
import RegistryDedup.Text.Utf8
import RegistryDedup.Time.Instant
import RegistryDedup.Time.Printer
import RegistryDedup.Time.Reader
import RegistryDedup.Time.Span
import RegistryDedup.Url.Address
import RegistryDedup.Url.Basic
import RegistryDedup.Url.Encode
import RegistryDedup.Url.Host
import RegistryDedup.Url.Path
import RegistryDedup.Url.Reader
