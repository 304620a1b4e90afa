import NoteTemplate.Calendar.Date
import NoteTemplate.Calendar.Instant
import NoteTemplate.Calendar.LocalZone
import NoteTemplate.Calendar.Week
import NoteTemplate.CommandLine.Arguments
import NoteTemplate.CommandLine.Commands
import NoteTemplate.CommandLine.Console
import NoteTemplate.CommandLine.Program
import NoteTemplate.CommandLine.Question
import NoteTemplate.CommandLine.Request
import NoteTemplate.Counter.Pattern
import NoteTemplate.Counter.Tag
import NoteTemplate.Creation.Filling
import NoteTemplate.Creation.Note
import NoteTemplate.Creation.Plan
import NoteTemplate.Disk.Path
import NoteTemplate.Disk.Session
import NoteTemplate.Disk.Tree
import NoteTemplate.Editor.Context
import NoteTemplate.Editor.Highlight
import NoteTemplate.Editor.Suggestion
import NoteTemplate.Failure
import NoteTemplate.Format.Piece
import NoteTemplate.Format.Rendering
import NoteTemplate.Format.Stored
import NoteTemplate.Format.Token
import NoteTemplate.Json.Basic
import NoteTemplate.Json.Reader
import NoteTemplate.Json.StoredText
import NoteTemplate.Json.Writer
import NoteTemplate.Markdown.Fence
import NoteTemplate.NamePattern.Basic
import NoteTemplate.NamePattern.Format
import NoteTemplate.NamePattern.Matching
import NoteTemplate.Number.Binary64
import NoteTemplate.Number.Decimal
import NoteTemplate.Number.Numeral
import NoteTemplate.Prompt.Basic
import NoteTemplate.Prompt.Content
import NoteTemplate.Prompt.Extraction
import NoteTemplate.Prompt.Merging
import NoteTemplate.Prompt.Name
import NoteTemplate.Prompt.Parts
import NoteTemplate.Prompt.Reading
import NoteTemplate.Prompt.Substitution
import NoteTemplate.Prompt.Tag
import NoteTemplate.Prompt.Writing
import NoteTemplate.Settings.Basic
import NoteTemplate.Settings.File
import NoteTemplate.Settings.Reading
import NoteTemplate.Settings.Writing
import NoteTemplate.Template
import NoteTemplate.Terminal.Cell
import NoteTemplate.Terminal.Columns
import NoteTemplate.Terminal.Control
import NoteTemplate.Terminal.Drawing
import NoteTemplate.Terminal.Markup
import NoteTemplate.Terminal.Message
import NoteTemplate.Terminal.Table
import NoteTemplate.Text.Basic
import NoteTemplate.Text.Blank
import NoteTemplate.Text.CodeRanges
import NoteTemplate.Text.Digit
import NoteTemplate.Text.Keyed
import NoteTemplate.Text.Lowercase
import NoteTemplate.Text.Occurrence
import NoteTemplate.Text.Printable
import NoteTemplate.Text.Quoted
import NoteTemplate.Text.Replacement
import NoteTemplate.Text.Utf8
import NoteTemplate.Text.Word
import NoteTemplate.Title.Checking
import NoteTemplate.Title.Filename
import NoteTemplate.Title.Pieces
import NoteTemplate.Value.Output
import NoteTemplate.Value.Picker
import NoteTemplate.Value.Validation
import NoteTemplate.Variable.Basic
import NoteTemplate.Variable.Rendering
import NoteTemplate.Variable.Tag
import NoteTemplate.Vault.Counter
import NoteTemplate.Vault.Notes
import NoteTemplate.Vault.Path
import NoteTemplate.Vault.Storage
import NoteTemplate.Main
import NoteTemplate.Proofs.Prompt.TagReading
import NoteTemplate.Proofs.Text.Split
import NoteTemplate.Proofs.Prompt.ContentReading
import NoteTemplate.Proofs.Prompt.DetailReading
import NoteTemplate.Proofs.Prompt.PairReading
import NoteTemplate.Proofs.Prompt.RoundTrip
import NoteTemplate.Proofs.NamePattern.Language
import NoteTemplate.Proofs.NamePattern.Capture
import NoteTemplate.Proofs.Number.Decimal
import NoteTemplate.Proofs.Text.Ascii
import NoteTemplate.Proofs.Title.Chosen
import NoteTemplate.Proofs.Counter.Place
import NoteTemplate.Proofs.Title.Cleaning
import NoteTemplate.Proofs.Title.Walk
import NoteTemplate.Proofs.Title.Choice
import NoteTemplate.Proofs.Title.Holes
import NoteTemplate.Proofs.Variable.Parting
import NoteTemplate.Proofs.Counter.ReadBack
import NoteTemplate.Proofs.Counter.NumberInName
import NoteTemplate.Proofs.Counter.Recognisers
import NoteTemplate.Proofs.Calendar.Bounds
import NoteTemplate.Proofs.Calendar.LocalZone
import NoteTemplate.Proofs.Calendar.SinceEpoch
import NoteTemplate.Proofs.Calendar.Recent
import NoteTemplate.Proofs.NamePattern.Covering
import NoteTemplate.Proofs.Format.Covering
import NoteTemplate.Proofs.Variable.Covering
import NoteTemplate.Proofs.Counter.FullPrecision
import NoteTemplate.Proofs.Disk.NewFile
import NoteTemplate.Proofs.Disk.Running
import NoteTemplate.Proofs.Vault.Storage
import NoteTemplate.Proofs.Vault.Names
import NoteTemplate.Proofs.Vault.NewNote
import NoteTemplate.Proofs.Vault.TemplateText
import NoteTemplate.Proofs.Creation.NextNumber
import NoteTemplate.Proofs.Creation.Advance
import NoteTemplate.Proofs.Creation.ShownCounter
import NoteTemplate.Proofs.Creation.NoteText
import NoteTemplate.Proofs.Prompt.Extracted
import NoteTemplate.Proofs.Title.Tidy
import NoteTemplate.Proofs.Disk.NewFolder
import NoteTemplate.Proofs.Creation.Rounds
import NoteTemplate.Proofs.Text.Leftmost
import NoteTemplate.Proofs.Text.Slice
import NoteTemplate.Proofs.Text.Replacing
import NoteTemplate.Proofs.Markdown.Lookup
import NoteTemplate.Proofs.Prompt.Grammar
import NoteTemplate.Proofs.Prompt.FencedCode
import NoteTemplate.Proofs.Prompt.Places
import NoteTemplate.Proofs.Format.Placing
import NoteTemplate.Proofs.Prompt.PartPlaces
import NoteTemplate.Proofs.Prompt.MovedParts
import NoteTemplate.Proofs.Editor.Painting
import NoteTemplate.Proofs.Editor.TagHighlights
import NoteTemplate.Proofs.Editor.Overlap
import NoteTemplate.Proofs.Disk.Refusing
import NoteTemplate.Proofs.Vault.OneNote
import NoteTemplate.Proofs.Creation.LeftBehind
import NoteTemplate.Proofs.Prompt.PartedText
import NoteTemplate.Proofs.Prompt.Retagging
import NoteTemplate.Proofs.NamePattern.Notation
import NoteTemplate.Proofs.Counter.Groups
import NoteTemplate.Proofs.Settings.Settled
import NoteTemplate.Proofs.Prompt.Asking
import NoteTemplate.Proofs.Creation.FilledNote
import NoteTemplate.Proofs.Disk.FolderWalk
import NoteTemplate.Proofs.Disk.Leaving
import NoteTemplate.Proofs.Vault.Enclosure
import NoteTemplate.Proofs.Terminal.Effective
import NoteTemplate.Proofs.Terminal.Escaped
import NoteTemplate.Proofs.CommandLine.Ending
import NoteTemplate.Proofs.Prompt.Numbering
import NoteTemplate.Proofs.Prompt.Showing
import NoteTemplate.Proofs.CommandLine.Answering
import NoteTemplate.Proofs.Disk.Rewriting
import NoteTemplate.Proofs.CommandLine.NoteReport
import NoteTemplate.Proofs.CommandLine.NotesApart
import NoteTemplate.Proofs.CommandLine.FillRun
import NoteTemplate.Proofs.Failing
import NoteTemplate.Proofs.Prompt.Syncing
import NoteTemplate.Proofs.Settings.Shape
import NoteTemplate.Proofs.Settings.Loading
import NoteTemplate.Proofs.Json.Faults
import NoteTemplate.Proofs.Settings.Formats
import NoteTemplate.Proofs.Creation.TitleInText
import NoteTemplate.Proofs.CommandLine.DryRun
import NoteTemplate.Proofs.Title.CleanName
import NoteTemplate.Proofs.Format.Cutting
import NoteTemplate.Proofs.Calendar.WeekYear
import NoteTemplate.Proofs.Prompt.LastTag
import NoteTemplate.Proofs.Prompt.NameReading
import NoteTemplate.Proofs.Prompt.PresetReading
import NoteTemplate.Proofs.Editor.Typed
import NoteTemplate.Proofs.Editor.Closing
import NoteTemplate.Proofs.Editor.Completion
import NoteTemplate.Proofs.Text.Lines
import NoteTemplate.Proofs.Markdown.FencedLines
import NoteTemplate.Proofs.Editor.ShownVariables
import NoteTemplate.Proofs.Value.Choices
import NoteTemplate.Proofs.Value.PickerShapes
import NoteTemplate.Proofs.Number.Scripts
import NoteTemplate.Proofs.Value.EnteredShapes
import NoteTemplate.Proofs.Vault.Joining
import NoteTemplate.Proofs.Editor.QueryPlace
import NoteTemplate.Proofs.Text.Order
import NoteTemplate.Proofs.Vault.ShownPlaces
import NoteTemplate.Proofs.Vault.Walking
