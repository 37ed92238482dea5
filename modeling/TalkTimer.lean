import TalkTimer.Arguments
import TalkTimer.Block
import TalkTimer.CommandLine
import TalkTimer.Dump
import TalkTimer.EventLoop
import TalkTimer.Excerpt
import TalkTimer.Files
import TalkTimer.FrontMatter
import TalkTimer.Input
import TalkTimer.Main
import TalkTimer.Markdown.Block
import TalkTimer.Markdown.Emphasis
import TalkTimer.Markdown.Entity
import TalkTimer.Markdown.EntityTable
import TalkTimer.Markdown.Events
import TalkTimer.Markdown.Inline
import TalkTimer.Markdown.Line
import TalkTimer.Markdown.Link
import TalkTimer.Markdown.Start
import TalkTimer.Markdown.Tag
import TalkTimer.Marker
import TalkTimer.Program
import TalkTimer.Proofs.Acceptance
import TalkTimer.Proofs.AutoAdvance
import TalkTimer.Proofs.Commands
import TalkTimer.Proofs.Counters
import TalkTimer.Proofs.Delimiters
import TalkTimer.Proofs.Displays
import TalkTimer.Proofs.Drawing
import TalkTimer.Proofs.Findings
import TalkTimer.Proofs.Gate
import TalkTimer.Proofs.Grammar
import TalkTimer.Proofs.JoinedScripts
import TalkTimer.Proofs.Labels
import TalkTimer.Proofs.Lines
import TalkTimer.Proofs.Listing
import TalkTimer.Proofs.MarkerText
import TalkTimer.Proofs.Markers
import TalkTimer.Proofs.Moves
import TalkTimer.Proofs.Numerals
import TalkTimer.Proofs.Outline
import TalkTimer.Proofs.Padding
import TalkTimer.Proofs.PipedInput
import TalkTimer.Proofs.Places
import TalkTimer.Proofs.PlannedTime
import TalkTimer.Proofs.Positionals
import TalkTimer.Proofs.Runs
import TalkTimer.Proofs.Schedule
import TalkTimer.Proofs.Scopes
import TalkTimer.Proofs.Sections
import TalkTimer.Proofs.ShownBlocks
import TalkTimer.Proofs.Slices
import TalkTimer.Proofs.Steps
import TalkTimer.Proofs.Stretches
import TalkTimer.Proofs.SuiteReports
import TalkTimer.Proofs.TestTrees
import TalkTimer.Proofs.Titles
import TalkTimer.Proofs.Trimming
import TalkTimer.Proofs.Verdicts
import TalkTimer.Proofs.Words
import TalkTimer.Proofs.WrittenScript
import TalkTimer.Readers
import TalkTimer.Report
import TalkTimer.Sample
import TalkTimer.Screen
import TalkTimer.Script
import TalkTimer.ScriptTest
import TalkTimer.Section
import TalkTimer.Segment
import TalkTimer.Session
import TalkTimer.Settings
import TalkTimer.Step
import TalkTimer.TestSuite
import TalkTimer.Text.Binary64
import TalkTimer.Text.Blank
import TalkTimer.Text.CaseFold
import TalkTimer.Text.CharSet
import TalkTimer.Text.Lines
import TalkTimer.Text.Numeral
import TalkTimer.Text.Order
import TalkTimer.Text.Punctuation
import TalkTimer.Text.Visible
import TalkTimer.Text.Width
import TalkTimer.Timer
import TalkTimer.Title
import TalkTimer.Toml.Document
import TalkTimer.Toml.Scalar
import TalkTimer.Toml.Value
import TalkTimer.Validation
