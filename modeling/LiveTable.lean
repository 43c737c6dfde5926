import LiveTable.Binary64.Basic
import LiveTable.Binary64.Read
import LiveTable.Binary64.Round
import LiveTable.Binary64.Shortest
import LiveTable.Binary64.Text
import LiveTable.CommandLine.Arguments
import LiveTable.CommandLine.Movies
import LiveTable.CommandLine.Output
import LiveTable.Dict
import LiveTable.Html.Escape
import LiveTable.Json.Document
import LiveTable.Json.Number
import LiveTable.Json.Record
import LiveTable.Json.Token
import LiveTable.Main
import LiveTable.Proofs.Binary64.NumberLine
import LiveTable.Proofs.Binary64.WholeNumbers
import LiveTable.Proofs.CommandLine.Streaming
import LiveTable.Proofs.Html.Entities
import LiveTable.Proofs.Html.Unescaping
import LiveTable.Proofs.Order.StableSort
import LiveTable.Proofs.Stream.Draining
import LiveTable.Proofs.Stream.Exhaustion
import LiveTable.Proofs.Stream.Flights
import LiveTable.Proofs.Stream.Following
import LiveTable.Proofs.Stream.Halves
import LiveTable.Proofs.Stream.Runs
import LiveTable.Proofs.Stream.Sifting
import LiveTable.Proofs.Stream.Stopping
import LiveTable.Proofs.Table.Arranged
import LiveTable.Proofs.Table.Batches
import LiveTable.Proofs.Table.Commuting
import LiveTable.Proofs.Table.Comparing
import LiveTable.Proofs.Table.Declarations
import LiveTable.Proofs.Table.Frame
import LiveTable.Proofs.Table.Fresh
import LiveTable.Proofs.Table.History
import LiveTable.Proofs.Table.Indexing
import LiveTable.Proofs.Table.Narrowing
import LiveTable.Proofs.Table.Notices
import LiveTable.Proofs.Table.PageWindow
import LiveTable.Proofs.Table.Paging
import LiveTable.Proofs.Table.Reachable
import LiveTable.Proofs.Table.RowOrder
import LiveTable.Proofs.Table.SortColumns
import LiveTable.Proofs.Table.SortHistory
import LiveTable.Proofs.Table.Toggling
import LiveTable.Proofs.Table.Unstreamed
import LiveTable.Proofs.Table.Visible
import LiveTable.Proofs.Template.Asking
import LiveTable.Proofs.Template.Blame
import LiveTable.Proofs.Template.Coherence
import LiveTable.Proofs.Template.Compiling
import LiveTable.Proofs.Template.Cursor
import LiveTable.Proofs.Template.Drafting
import LiveTable.Proofs.Template.Escaping
import LiveTable.Proofs.Template.Framing
import LiveTable.Proofs.Template.Joining
import LiveTable.Proofs.Template.Journal
import LiveTable.Proofs.Template.LambdaFree
import LiveTable.Proofs.Template.Layout
import LiveTable.Proofs.Template.Lockstep
import LiveTable.Proofs.Template.Lookups
import LiveTable.Proofs.Template.Outlines
import LiveTable.Proofs.Template.Places
import LiveTable.Proofs.Template.Printing
import LiveTable.Proofs.Template.Reader
import LiveTable.Proofs.Template.Recalling
import LiveTable.Proofs.Template.Rounds
import LiveTable.Proofs.Template.Sections
import LiveTable.Proofs.Template.Shifting
import LiveTable.Proofs.Template.Spacing
import LiveTable.Proofs.Text.Parts
import LiveTable.Proofs.Value.Equality
import LiveTable.Stream.Feed
import LiveTable.Stream.Fetch
import LiveTable.Stream.Loader
import LiveTable.Stream.Round
import LiveTable.Stream.Run
import LiveTable.Stream.Source
import LiveTable.Stream.Step
import LiveTable.Stream.Strand
import LiveTable.Stream.Timeline
import LiveTable.Table.Basic
import LiveTable.Table.Command
import LiveTable.Table.Fault
import LiveTable.Table.Markup
import LiveTable.Table.Options
import LiveTable.Table.OptionsDocument
import LiveTable.Table.Pages
import LiveTable.Table.RowView
import LiveTable.Table.SearchIndex
import LiveTable.Table.SortSpec
import LiveTable.Template.Delimiters
import LiveTable.Template.Engine
import LiveTable.Template.Fault
import LiveTable.Template.Frame
import LiveTable.Template.Line
import LiveTable.Template.Mark
import LiveTable.Template.Piece
import LiveTable.Template.Program
import LiveTable.Template.Render
import LiveTable.Template.Session
import LiveTable.Template.Tag
import LiveTable.Template.Token
import LiveTable.Text.Blank
import LiveTable.Text.Bytes
import LiveTable.Text.CaseRun
import LiveTable.Text.Count
import LiveTable.Text.Duration
import LiveTable.Text.HiddenTable
import LiveTable.Text.Lower
import LiveTable.Text.LowerTable
import LiveTable.Text.Occurrence
import LiveTable.Text.Quoted
import LiveTable.Text.Upper
import LiveTable.Text.UpperTable
import LiveTable.Value.Basic
import LiveTable.Value.Equality
import LiveTable.Value.Json
import LiveTable.Value.Text
import LiveTable.Proofs.Stream.Delivering
import LiveTable.Proofs.Stream.Resting
