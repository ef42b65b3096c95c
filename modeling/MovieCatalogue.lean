import MovieCatalogue.Calendar.Component
import MovieCatalogue.Calendar.Date
import MovieCatalogue.Calendar.DayCount
import MovieCatalogue.Calendar.Duration
import MovieCatalogue.Calendar.Moment
import MovieCatalogue.Calendar.Reading
import MovieCatalogue.Calendar.SummerTime
import MovieCatalogue.Calendar.Template
import MovieCatalogue.Calendar.Zone
import MovieCatalogue.Calendar.ZoneReading
import MovieCatalogue.Digest.Sha256
import MovieCatalogue.Disk.Buffer
import MovieCatalogue.Disk.Bytes
import MovieCatalogue.Disk.Change
import MovieCatalogue.Disk.Fault
import MovieCatalogue.Disk.Move
import MovieCatalogue.Disk.Path
import MovieCatalogue.Disk.Steps
import MovieCatalogue.Disk.System
import MovieCatalogue.Disk.Tree
import MovieCatalogue.Endpoint.Dispatch
import MovieCatalogue.Endpoint.Documentation
import MovieCatalogue.Endpoint.Listing
import MovieCatalogue.Endpoint.Operation
import MovieCatalogue.Endpoint.Registry
import MovieCatalogue.Endpoint.Request
import MovieCatalogue.Endpoint.Session
import MovieCatalogue.Fields
import MovieCatalogue.Journal.AppenderReading
import MovieCatalogue.Journal.Event
import MovieCatalogue.Journal.Interval
import MovieCatalogue.Journal.Level
import MovieCatalogue.Journal.LinePattern
import MovieCatalogue.Journal.Lines
import MovieCatalogue.Journal.Part
import MovieCatalogue.Journal.Piece
import MovieCatalogue.Journal.Rotation
import MovieCatalogue.Journal.RotationReading
import MovieCatalogue.Journal.Routing
import MovieCatalogue.Journal.Setup
import MovieCatalogue.Journal.SetupReading
import MovieCatalogue.Journal.Telemetry
import MovieCatalogue.Json.Basic
import MovieCatalogue.Json.Number
import MovieCatalogue.Json.Printer
import MovieCatalogue.Json.Reader
import MovieCatalogue.Json.Selection
import MovieCatalogue.Main
import MovieCatalogue.Number.Binary64
import MovieCatalogue.Number.Digits
import MovieCatalogue.Number.Integer
import MovieCatalogue.Number.Literal
import MovieCatalogue.Number.Notation
import MovieCatalogue.Number.Operators
import MovieCatalogue.Number.Shortest
import MovieCatalogue.Proofs.Calendar.WrittenDate
import MovieCatalogue.Proofs.Calendar.WrittenOrder
import MovieCatalogue.Proofs.Endpoint.Accounting
import MovieCatalogue.Proofs.Endpoint.Addressing
import MovieCatalogue.Proofs.Endpoint.Agreement
import MovieCatalogue.Proofs.Endpoint.AnswerEvents
import MovieCatalogue.Proofs.Endpoint.Browsing
import MovieCatalogue.Proofs.Endpoint.Building
import MovieCatalogue.Proofs.Endpoint.Creating
import MovieCatalogue.Proofs.Endpoint.Dispatch
import MovieCatalogue.Proofs.Endpoint.DocumentedErrors
import MovieCatalogue.Proofs.Endpoint.FiniteReals
import MovieCatalogue.Proofs.Endpoint.ListBounds
import MovieCatalogue.Proofs.Endpoint.Operation
import MovieCatalogue.Proofs.Endpoint.Paging
import MovieCatalogue.Proofs.Endpoint.QueryText
import MovieCatalogue.Proofs.Endpoint.RacedUpdate
import MovieCatalogue.Proofs.Endpoint.RacedWrites
import MovieCatalogue.Proofs.Endpoint.Recording
import MovieCatalogue.Proofs.Endpoint.Refusal
import MovieCatalogue.Proofs.Endpoint.Segment
import MovieCatalogue.Proofs.Endpoint.ShownValues
import MovieCatalogue.Proofs.Endpoint.Updating
import MovieCatalogue.Proofs.Journal.Accounting
import MovieCatalogue.Proofs.Json.Escape
import MovieCatalogue.Proofs.Json.Number
import MovieCatalogue.Proofs.Json.Range
import MovieCatalogue.Proofs.Json.RoundTrip
import MovieCatalogue.Proofs.Lists
import MovieCatalogue.Proofs.Members
import MovieCatalogue.Proofs.Number.DigitOrder
import MovieCatalogue.Proofs.Number.ExactValue
import MovieCatalogue.Proofs.Number.Finite
import MovieCatalogue.Proofs.Number.Whole
import MovieCatalogue.Proofs.Number.Written
import MovieCatalogue.Proofs.Record.CatalogueTables
import MovieCatalogue.Proofs.Record.Identifier
import MovieCatalogue.Proofs.Record.Merging
import MovieCatalogue.Proofs.Record.RowDecoding
import MovieCatalogue.Proofs.Record.StoredRecords
import MovieCatalogue.Proofs.Refusal
import MovieCatalogue.Proofs.Selection.Condition
import MovieCatalogue.Proofs.Selection.QueryText
import MovieCatalogue.Proofs.Selection.WordStart
import MovieCatalogue.Proofs.Settings.Layering
import MovieCatalogue.Proofs.Shell.LogOpening
import MovieCatalogue.Proofs.Shell.LogWriting
import MovieCatalogue.Proofs.Shell.OneProcess
import MovieCatalogue.Proofs.Shell.Reaching
import MovieCatalogue.Proofs.Shell.Serving
import MovieCatalogue.Proofs.Shell.Work
import MovieCatalogue.Proofs.Storage.Answering
import MovieCatalogue.Proofs.Storage.Batch
import MovieCatalogue.Proofs.Storage.Change
import MovieCatalogue.Proofs.Storage.ChosenKeys
import MovieCatalogue.Proofs.Storage.DateOrder
import MovieCatalogue.Proofs.Storage.FiniteReals
import MovieCatalogue.Proofs.Storage.Insertions
import MovieCatalogue.Proofs.Storage.Loading
import MovieCatalogue.Proofs.Storage.MixedOrder
import MovieCatalogue.Proofs.Storage.NextKey
import MovieCatalogue.Proofs.Storage.OwnKey
import MovieCatalogue.Proofs.Storage.RealOrder
import MovieCatalogue.Proofs.Storage.Restoring
import MovieCatalogue.Proofs.Storage.Run
import MovieCatalogue.Proofs.Storage.SameChanges
import MovieCatalogue.Proofs.Storage.SameRows
import MovieCatalogue.Proofs.Storage.SnapshotText
import MovieCatalogue.Proofs.Storage.Soundness
import MovieCatalogue.Proofs.Storage.StorageForm
import MovieCatalogue.Proofs.Storage.StoredOrder
import MovieCatalogue.Proofs.Storage.Tables
import MovieCatalogue.Proofs.Storage.WrittenIntegers
import MovieCatalogue.Proofs.Text.Cutting
import MovieCatalogue.Proofs.Text.Order
import MovieCatalogue.Proofs.Text.Trimming
import MovieCatalogue.Proofs.Token.Grammar
import MovieCatalogue.Proofs.Token.Membership
import MovieCatalogue.Proofs.Token.Resolution
import MovieCatalogue.Record.Catalogue
import MovieCatalogue.Record.Datum
import MovieCatalogue.Record.Entity
import MovieCatalogue.Record.Field
import MovieCatalogue.Record.Identifier
import MovieCatalogue.Record.Shape
import MovieCatalogue.RequestError
import MovieCatalogue.Selection.Evaluation
import MovieCatalogue.Selection.Page
import MovieCatalogue.Selection.PageReading
import MovieCatalogue.Selection.Pattern
import MovieCatalogue.Selection.Query
import MovieCatalogue.Settings.Basic
import MovieCatalogue.Settings.Layer
import MovieCatalogue.Settings.Source
import MovieCatalogue.Shell.Arguments
import MovieCatalogue.Shell.Command
import MovieCatalogue.Shell.Grammar
import MovieCatalogue.Shell.Log
import MovieCatalogue.Shell.LogWriting
import MovieCatalogue.Shell.PathTemplate
import MovieCatalogue.Shell.Program
import MovieCatalogue.Shell.RotatedFile
import MovieCatalogue.Shell.Running
import MovieCatalogue.Shell.Scene
import MovieCatalogue.Shell.Turns
import MovieCatalogue.Shell.World
import MovieCatalogue.Storage.Column
import MovieCatalogue.Storage.Error
import MovieCatalogue.Storage.Extended
import MovieCatalogue.Storage.File
import MovieCatalogue.Storage.Json
import MovieCatalogue.Storage.Snapshot
import MovieCatalogue.Storage.Store
import MovieCatalogue.Storage.Table
import MovieCatalogue.Storage.Value
import MovieCatalogue.Text.Alphabetic
import MovieCatalogue.Text.Alphanumeric
import MovieCatalogue.Text.Blank
import MovieCatalogue.Text.BreakClass
import MovieCatalogue.Text.Cut
import MovieCatalogue.Text.Grapheme
import MovieCatalogue.Text.Hidden
import MovieCatalogue.Text.Quoted
import MovieCatalogue.Token.Grammar
import MovieCatalogue.Token.Operator
import MovieCatalogue.Token.Resolution
import MovieCatalogue.Toml.Reader
import MovieCatalogue.Toml.Scalar
import MovieCatalogue.Toml.Text
import MovieCatalogue.Toml.Value
import MovieCatalogue.Yaml.Content
import MovieCatalogue.Yaml.ContentReading
import MovieCatalogue.Yaml.Event
import MovieCatalogue.Yaml.Fault
import MovieCatalogue.Yaml.Meaning
import MovieCatalogue.Yaml.Place
import MovieCatalogue.Yaml.Reader
import MovieCatalogue.Yaml.Scalar
import MovieCatalogue.Yaml.Spot
import MovieCatalogue.Yaml.Structure
import MovieCatalogue.Yaml.Tag
import MovieCatalogue.Yaml.Token
import MovieCatalogue.Yaml.TokenStream
import MovieCatalogue.Yaml.Value
