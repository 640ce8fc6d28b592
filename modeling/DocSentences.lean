import DocSentences.Command.Answer
import DocSentences.Command.Arguments
import DocSentences.Command.Configuration
import DocSentences.Command.Execution
import DocSentences.Command.Failure
import DocSentences.Command.Report
import DocSentences.Command.Usage
import DocSentences.Comment.Basic
import DocSentences.Comment.Reading
import DocSentences.Corpus.Basic
import DocSentences.Corpus.Walk
import DocSentences.Declaration.Lexer
import DocSentences.Declaration.Token
import DocSentences.Declaration.TopLevel
import DocSentences.Document.Basic
import DocSentences.Document.Path
import DocSentences.Extraction.Description
import DocSentences.Extraction.Failure
import DocSentences.Extraction.Records
import DocSentences.Extraction.Settings
import DocSentences.FileTree.Basic
import DocSentences.Main
import DocSentences.Markup.Basic
import DocSentences.Markup.Builder
import DocSentences.Markup.CharacterReference
import DocSentences.Markup.Construction
import DocSentences.Markup.Doctype
import DocSentences.Markup.ElementClass
import DocSentences.Markup.EntityNames
import DocSentences.Markup.Formatting
import DocSentences.Markup.PlainText
import DocSentences.Markup.Reader
import DocSentences.Markup.Rules
import DocSentences.Markup.Tree
import DocSentences.Proofs.Comment.Offsets
import DocSentences.Proofs.Comment.Prose
import DocSentences.Proofs.Corpus.Discovery
import DocSentences.Proofs.Declaration.Brackets
import DocSentences.Proofs.Declaration.Layout
import DocSentences.Proofs.Declaration.Lexemes
import DocSentences.Proofs.Declaration.Places
import DocSentences.Proofs.Declaration.Scanner
import DocSentences.Proofs.Declaration.Statements
import DocSentences.Proofs.Document.PathOrder
import DocSentences.Proofs.Extraction.Description
import DocSentences.Proofs.Extraction.Outcome
import DocSentences.Proofs.Extraction.PlainClass
import DocSentences.Proofs.FileTree.Resolution
import DocSentences.Proofs.Markup.Canonical
import DocSentences.Proofs.Markup.Truncation
import DocSentences.Proofs.Record.Calls
import DocSentences.Proofs.Record.Lifetime
import DocSentences.Proofs.Record.Refusal
import DocSentences.Proofs.Record.Sink
import DocSentences.Proofs.Record.Table
import DocSentences.Proofs.Run.Account
import DocSentences.Proofs.Run.Accounting
import DocSentences.Proofs.Run.Bounds
import DocSentences.Proofs.Run.Course
import DocSentences.Proofs.Run.Delivery
import DocSentences.Proofs.Run.Drain
import DocSentences.Proofs.Run.Fatal
import DocSentences.Proofs.Run.Interleaving
import DocSentences.Proofs.Run.Ledger
import DocSentences.Proofs.Run.MinimumLength
import DocSentences.Proofs.Run.Moves
import DocSentences.Proofs.Run.Occurrence
import DocSentences.Proofs.Run.Rows
import DocSentences.Proofs.Run.Shape
import DocSentences.Proofs.Run.Termination
import DocSentences.Proofs.Sentence.Sanitized
import DocSentences.Proofs.Sentence.Undivided
import DocSentences.Proofs.Text.Blank
import DocSentences.Proofs.Text.Collapse
import DocSentences.Proofs.Text.Lines
import DocSentences.Proofs.Text.Offsets
import DocSentences.Proofs.Text.Utf8
import DocSentences.Record.Basic
import DocSentences.Record.Csv
import DocSentences.Record.Sink
import DocSentences.Run.Failure
import DocSentences.Run.Notice
import DocSentences.Run.Progress
import DocSentences.Run.Schedule
import DocSentences.Run.Settings
import DocSentences.Run.State
import DocSentences.Run.Tally
import DocSentences.Run.Time
import DocSentences.Selector.Basic
import DocSentences.Selector.Lexer
import DocSentences.Selector.Matching
import DocSentences.Selector.Reading
import DocSentences.Selector.Token
import DocSentences.Sentence.Boundary
import DocSentences.Sentence.BreakClass
import DocSentences.Sentence.Sanitized
import DocSentences.Sentence.Segmenter
import DocSentences.Text.Blank
import DocSentences.Text.CodePoints
import DocSentences.Text.Letters
import DocSentences.Text.Lines
import DocSentences.Text.Quoted
import DocSentences.Text.Rounding
import DocSentences.Text.SinglePrecision
import DocSentences.Text.Utf8
import DocSentences.Toml.Number
import DocSentences.Toml.Quoted
import DocSentences.Toml.Reading
import DocSentences.Toml.Table
import DocSentences.Toml.Value
import DocSentences.Toml.Writing
import DocSentences.Proofs.Comment.Decoration
import DocSentences.Proofs.Markup.Paragraphs
import DocSentences.Proofs.Toml.Quoted
import DocSentences.Proofs.Toml.Number
import DocSentences.Proofs.Toml.Statement
import DocSentences.Proofs.Toml.Document
import DocSentences.Proofs.FileTree.Writing
import DocSentences.Proofs.Command.SavedConfiguration
import DocSentences.Proofs.Declaration.Acceptance
import DocSentences.Proofs.Declaration.Opacity
import DocSentences.Proofs.Declaration.LineEnds
import DocSentences.Proofs.Declaration.CutOff
import DocSentences.Proofs.Comment.Spellings
import DocSentences.Proofs.Extraction.LineEnds
import DocSentences.Proofs.Comment.BlockTags
import DocSentences.Proofs.Markup.UnmarkedText
import DocSentences.Proofs.Document.Components
import DocSentences.Proofs.Document.Keys
import DocSentences.Proofs.Run.Counting
import DocSentences.Proofs.Run.Causes
import DocSentences.Proofs.Command.Rejection
import DocSentences.Proofs.FileTree.Directories
import DocSentences.Proofs.Command.Initialization
import DocSentences.Proofs.Command.Layers
