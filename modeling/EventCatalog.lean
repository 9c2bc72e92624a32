import EventCatalog.Calendar.Date
import EventCatalog.Calendar.Indianapolis
import EventCatalog.Calendar.Pattern
import EventCatalog.Calendar.Reading
import EventCatalog.Calendar.Timestamp
import EventCatalog.Calendar.Zone
import EventCatalog.Catalog.Content
import EventCatalog.Catalog.Event
import EventCatalog.Catalog.Field
import EventCatalog.Catalog.Member
import EventCatalog.Catalog.Rule
import EventCatalog.Catalog.Vocabulary
import EventCatalog.CommandLine.Arguments
import EventCatalog.CommandLine.EnvironmentFile
import EventCatalog.CommandLine.Folder
import EventCatalog.CommandLine.Program
import EventCatalog.Decimal.Reading
import EventCatalog.Decimal.Shortest
import EventCatalog.Json.Basic
import EventCatalog.Json.Number
import EventCatalog.Json.Outline
import EventCatalog.Json.Printer
import EventCatalog.Json.Reader
import EventCatalog.Main
import EventCatalog.Proofs.Outcome
import EventCatalog.Proofs.Query.Interval
import EventCatalog.Proofs.Query.Joined
import EventCatalog.Proofs.Query.Scan
import EventCatalog.Proofs.Query.Token
import EventCatalog.Proofs.Query.Written
import EventCatalog.Proofs.Text.Pieces
import EventCatalog.Proofs.Text.Trim
import EventCatalog.Query.Error
import EventCatalog.Query.Range
import EventCatalog.Query.Term
import EventCatalog.Query.Value
import EventCatalog.Search.Parameter
import EventCatalog.Search.Request
import EventCatalog.Search.Results
import EventCatalog.Spreadsheet.Csv
import EventCatalog.Spreadsheet.Loading
import EventCatalog.Store.Bulk
import EventCatalog.Store.Client
import EventCatalog.Store.Message
import EventCatalog.Store.Script
import EventCatalog.Store.Settings
import EventCatalog.Text.Alphanumeric
import EventCatalog.Text.Base64
import EventCatalog.Text.Blank
import EventCatalog.Text.CodePoint
import EventCatalog.Text.Extender
import EventCatalog.Text.FormCoding
import EventCatalog.Text.Hex
import EventCatalog.Text.Integer
import EventCatalog.Text.Letters
import EventCatalog.Text.Quoted
import EventCatalog.Text.Split
import EventCatalog.Text.Utf8
import EventCatalog.Text.Visible
import EventCatalog.Web.Address
import EventCatalog.Web.Document
import EventCatalog.Web.Links
import EventCatalog.Web.Service
import EventCatalog.Web.Wire
import EventCatalog.Proofs.Query.Tiling
import EventCatalog.Proofs.Text.FormCoding
import EventCatalog.Proofs.Json.Readable
import EventCatalog.Proofs.Search.Grouping
import EventCatalog.Proofs.Search.Paging
import EventCatalog.Proofs.Web.Links
import EventCatalog.Proofs.Web.Walk
import EventCatalog.Proofs.FirstSeen
import EventCatalog.Proofs.Search.Independence
import EventCatalog.Proofs.Spreadsheet.Accounting
import EventCatalog.Proofs.Store.Answer
import EventCatalog.Proofs.Store.Writing
import EventCatalog.Proofs.Calendar.DayNumber
import EventCatalog.Proofs.Calendar.Relaxed
import EventCatalog.Proofs.Calendar.Stored
import EventCatalog.Proofs.Catalog.Attributes
import EventCatalog.Proofs.Catalog.Conformity
import EventCatalog.Proofs.Catalog.Document
import EventCatalog.Proofs.Catalog.Entries
import EventCatalog.Proofs.Catalog.Literals
import EventCatalog.Proofs.Search.Results
import EventCatalog.Proofs.Calendar.Normalized
import EventCatalog.Proofs.Catalog.Mapping
import EventCatalog.Proofs.Catalog.Members
import EventCatalog.Proofs.Json.Inline
import EventCatalog.Proofs.Query.Clauses
import EventCatalog.Proofs.Query.Meaning
import EventCatalog.Proofs.Search.Body
import EventCatalog.Proofs.Search.Building
import EventCatalog.Proofs.Spreadsheet.Columns
import EventCatalog.Proofs.Store.Framing
import EventCatalog.Proofs.Search.Keywords
import EventCatalog.Proofs.Search.Hits
import EventCatalog.Proofs.Web.Replies
import EventCatalog.Proofs.Web.Pages
import EventCatalog.Proofs.Query.Scalars
import EventCatalog.Proofs.Search.Texts
import EventCatalog.Proofs.Calendar.Earliest
import EventCatalog.Proofs.Calendar.Strict
import EventCatalog.Proofs.Calendar.Stable
import EventCatalog.Proofs.Search.Dates
import EventCatalog.Proofs.Calendar.Cells
import EventCatalog.Proofs.Query.Rendering
import EventCatalog.Proofs.Search.StoredWords
import EventCatalog.Proofs.Catalog.Resource
import EventCatalog.Proofs.Catalog.Tables
import EventCatalog.Proofs.Spreadsheet.Arrival
import EventCatalog.Proofs.Calendar.Forms
import EventCatalog.Proofs.Query.Grammar
import EventCatalog.Proofs.Query.Pattern
import EventCatalog.Proofs.Search.Sorting
