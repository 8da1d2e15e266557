import StateSheet.Text.Basic
import StateSheet.Candidate.Quoted
import StateSheet.Text.Blank
import StateSheet.Candidate.Attribute
import StateSheet.Text.Nesting
import StateSheet.Candidate.ClassList
import StateSheet.Candidate.Valid
import StateSheet.Text.Distinct
import StateSheet.Candidate.Extraction
import StateSheet.Variant.Basic
import StateSheet.Variant.Reader
import StateSheet.ClassName
import StateSheet.Command.Basic
import StateSheet.Command.Arguments
import StateSheet.Command.Help
import StateSheet.Glob.Shape
import StateSheet.Glob.Token
import StateSheet.Glob.Expression
import StateSheet.Glob.Method
import StateSheet.Glob.Reader
import StateSheet.Path.Basic
import StateSheet.Glob.Basic
import StateSheet.Glob.Root
import StateSheet.Command.Watching
import StateSheet.IgnoreFile
import StateSheet.FileTree.Basic
import StateSheet.FileTree.Workspace
import StateSheet.FileTree.Lines
import StateSheet.Repository
import StateSheet.Walk
import StateSheet.Scan
import StateSheet.Text.SortedTable
import StateSheet.Utilities
import StateSheet.Settings.Basic
import StateSheet.Toml.Progress
import StateSheet.Toml.Value
import StateSheet.Toml.Moment
import StateSheet.Toml.Number
import StateSheet.Toml.Trivia
import StateSheet.Toml.Quoted
import StateSheet.Toml.Table
import StateSheet.Toml.Reader
import StateSheet.Toml.Document
import StateSheet.Settings.Reader
import StateSheet.Settings.File
import StateSheet.Declaration
import StateSheet.Text.Concealed
import StateSheet.Text.Quoted
import StateSheet.Selector
import StateSheet.Notice
import StateSheet.Registration
import StateSheet.Registry
import StateSheet.Stylesheet.Basic
import StateSheet.Stylesheet.Layout
import StateSheet.Stylesheet.Generation
import StateSheet.Command.Run
import StateSheet.Command.Rebuilding
import StateSheet.Command.Sources
import StateSheet.Main
import StateSheet.Proofs.Text.ByteOrder
import StateSheet.Proofs.Text.Nesting
import StateSheet.Proofs.Text.SortedTable
import StateSheet.Proofs.Variant.Grammar
import StateSheet.Proofs.ClassName.Split
import StateSheet.Proofs.Selector.Escape
import StateSheet.Proofs.Registry
import StateSheet.Proofs.Registry.History
import StateSheet.Proofs.Candidate.Attribute
import StateSheet.Proofs.Candidate.ClassList
import StateSheet.Proofs.Stylesheet.Fate
import StateSheet.Proofs.Stylesheet.Generation
import StateSheet.Proofs.Stylesheet.Accounting
import StateSheet.Proofs.Stylesheet.Blanks
import StateSheet.Proofs.Selector.Injective
import StateSheet.Proofs.Stylesheet.Reach
import StateSheet.Proofs.Candidate.Surroundings
import StateSheet.Proofs.Path.Segments
import StateSheet.Proofs.Path.Names
import StateSheet.Proofs.Path.Enclosing
import StateSheet.Proofs.Glob.OwnText
import StateSheet.Proofs.Traversal
import StateSheet.Proofs.Glob.Sets
import StateSheet.Proofs.Glob.LiteralStart
import StateSheet.Proofs.Glob.Root
import StateSheet.Proofs.FileTree.Places
import StateSheet.Proofs.FileTree.Resolve
import StateSheet.Proofs.FileTree.Writing
import StateSheet.Proofs.FileTree.Reordered
import StateSheet.Proofs.Walk
import StateSheet.Proofs.Walk.Alike
import StateSheet.Proofs.Walk.PlainRoot
import StateSheet.Proofs.Scan.Selection
import StateSheet.Proofs.Scan.Union
import StateSheet.Proofs.Scan.Once
import StateSheet.Proofs.Scan.Order
import StateSheet.Proofs.Command.Watching
import StateSheet.Proofs.Command.Changes
import StateSheet.Proofs.Command.Output
import StateSheet.Proofs.Command.Rebuilding
import StateSheet.Proofs.Command.Listing
import StateSheet.Proofs.Command.Effects
import StateSheet.Proofs.Command.Minified
import StateSheet.Proofs.Walk.Reach
import StateSheet.Proofs.Walk.Users
import StateSheet.Proofs.Scan.Roots
import StateSheet.Proofs.Candidate.Literals
import StateSheet.Proofs.Candidate.Provenance
import StateSheet.Proofs.Candidate.Brackets
import StateSheet.Proofs.Candidate.Writing
import StateSheet.Proofs.Candidate.Lines
import StateSheet.Proofs.Selector.Reading
import StateSheet.Proofs.Text.Distinct
import StateSheet.Proofs.Registration
import StateSheet.Proofs.Command.Grammar
import StateSheet.Proofs.Command.Polling
import StateSheet.Proofs.Text.Trim
import StateSheet.Proofs.Stylesheet.Declarations
import StateSheet.Proofs.Text.Words
import StateSheet.Proofs.Stylesheet.Collapsed
import StateSheet.Proofs.Scan.Pass
import StateSheet.Proofs.Scan.Found
import StateSheet.Proofs.Scan.CommonRoot
import StateSheet.Proofs.Scan.Ignoring
import StateSheet.Proofs.Command.Ignoring
import StateSheet.Proofs.Command.WatchedRoots
import StateSheet.Proofs.ClassName.Cut
import StateSheet.Proofs.Candidate.Separation
