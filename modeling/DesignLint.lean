import DesignLint.Text.Case
import DesignLint.Text.Quoted
import DesignLint.Source.Session
import DesignLint.Token.Lexer
import DesignLint.Tree.Arena
import DesignLint.Reader.Phrase
import DesignLint.Reader.Declaration
import DesignLint.Reader.DesignUnit
import DesignLint.Json.Writer
import DesignLint.Json.Reader
import DesignLint.Tree.Export
import DesignLint.Regex.Reader
import DesignLint.Inference.Memo
import DesignLint.Lint.Check
import DesignLint.Standard.Library
import DesignLint.Project.Linking
import DesignLint.Project.Regions
import DesignLint.Project.Dependents
import DesignLint.Project.Statistics
import DesignLint.Project.Findings
import DesignLint.Lint.Workbench
import DesignLint.Files.Glob
import DesignLint.Files.Expand
import DesignLint.Report.Duration
import DesignLint.Report.Listing
import DesignLint.Text.Blank
import DesignLint.Digest.Sha256
import DesignLint.Report.Severity
import DesignLint.Settings.Reader
import DesignLint.Contract.Formats
import DesignLint.Contract.Document
import DesignLint.Config.Read
import DesignLint.Config.Load
import DesignLint.Config.Libraries
import DesignLint.Run.Scan
import DesignLint.Report.Text
import DesignLint.Run.Pipeline
import DesignLint.Command.Lint
import DesignLint.Command.Tree
import DesignLint.Main
import DesignLint.Proofs.Text.Lowered
import DesignLint.Proofs.Token.Extent
import DesignLint.Proofs.Token.Order
import DesignLint.Proofs.Token.Lossless
import DesignLint.Proofs.Tree.Depth
import DesignLint.Proofs.Tree.Parts
import DesignLint.Proofs.Tree.Growth
import DesignLint.Proofs.Reader.Outcome
import DesignLint.Proofs.Reader.Cursor
import DesignLint.Proofs.Reader.Building
import DesignLint.Proofs.Reader.Phrase
import DesignLint.Proofs.Reader.Group
import DesignLint.Proofs.Reader.Subprogram
import DesignLint.Proofs.Reader.Declaration
import DesignLint.Proofs.Reader.Concurrent
import DesignLint.Proofs.Reader.DesignUnit
import DesignLint.Proofs.Parse.Outcome
import DesignLint.Proofs.Parse.Ranges
import DesignLint.Proofs.Tree.WellFormed
import DesignLint.Proofs.Tree.Traversal
import DesignLint.Proofs.Inference.Flatten
import DesignLint.Proofs.Lint.Items
import DesignLint.Proofs.Lint.Occurrences
import DesignLint.Proofs.Lint.Undeclared
import DesignLint.Proofs.Lint.Completion
import DesignLint.Proofs.Lockstep.Outline
import DesignLint.Proofs.Lockstep.Run
import DesignLint.Proofs.Lockstep.Cursor
import DesignLint.Proofs.Lockstep.Phrase
import DesignLint.Proofs.Lockstep.Declaration
import DesignLint.Proofs.Lockstep.Statement
import DesignLint.Proofs.Lockstep.DesignUnit
import DesignLint.Proofs.Lockstep.Analysis
import DesignLint.Proofs.Lockstep.Findings
import DesignLint.Proofs.Layout.Independence
import DesignLint.Proofs.Inference.Memo
import DesignLint.Proofs.Lint.Schedule
import DesignLint.Proofs.Lint.Context
import DesignLint.Proofs.Project.Symbols
import DesignLint.Proofs.Project.Renumbering
import DesignLint.Proofs.Project.Dependents
import DesignLint.Proofs.Lockstep.Linking
import DesignLint.Proofs.Spelling.Lexing
import DesignLint.Proofs.Spelling.Reading
import DesignLint.Proofs.Spelling.Matching
import DesignLint.Proofs.Spelling.Insensitivity
import DesignLint.Proofs.Text.Decoding
import DesignLint.Proofs.Json.Writing
import DesignLint.Proofs.Json.Reading
import DesignLint.Proofs.Run.Outcome
import DesignLint.Proofs.Run.Settings
import DesignLint.Proofs.Run.Inputs
import DesignLint.Proofs.Run.Transparency
import DesignLint.Proofs.Lint.Construction
import DesignLint.Proofs.Tree.Fields
import DesignLint.Proofs.Contract.Fits
import DesignLint.Proofs.Contract.Terms
import DesignLint.Proofs.Contract.Report
import DesignLint.Proofs.Tree.Export
import DesignLint.Proofs.Tree.Visits
import DesignLint.Proofs.Parse.Structure
import DesignLint.Proofs.Project.Keys
import DesignLint.Proofs.Scope.Visibility
import DesignLint.Proofs.Report.Severity
import DesignLint.Proofs.Source.Coordinate
import DesignLint.Proofs.Lint.Findings
import DesignLint.Proofs.Config.Accepted
import DesignLint.Proofs.Config.Options
import DesignLint.Proofs.Config.Reading
import DesignLint.Proofs.Config.Formats
import DesignLint.Proofs.Run.Scan
import DesignLint.Proofs.Run.Libraries
import DesignLint.Proofs.Run.Report
import DesignLint.Proofs.Tree.Containment
import DesignLint.Proofs.Scope.Walk
import DesignLint.Proofs.Scope.Assignment
import DesignLint.Proofs.Scope.Declarations
import DesignLint.Proofs.Scope.Relocation
import DesignLint.Proofs.Scope.RelocatedReads
import DesignLint.Proofs.Inference.Order
import DesignLint.Proofs.Lint.Resets
import DesignLint.Proofs.Reader.Names
import DesignLint.Proofs.Inference.Association
import DesignLint.Proofs.Inference.Coverage
import DesignLint.Proofs.Reader.Grammar
import DesignLint.Proofs.Reader.Runs
import DesignLint.Proofs.Reader.ReadBack
import DesignLint.Proofs.Reader.Simple
import DesignLint.Proofs.Token.Naming
import DesignLint.Proofs.Reader.Compound
import DesignLint.Proofs.Reader.Skipping
import DesignLint.Proofs.Project.Impact
import DesignLint.Proofs.Files.Path
import DesignLint.Proofs.Files.Tree
import DesignLint.Proofs.Files.Glob
import DesignLint.Proofs.Files.Expand
import DesignLint.Proofs.Project.Regions
import DesignLint.Proofs.Source.Session
import DesignLint.Proofs.Source.Trimming
import DesignLint.Proofs.Config.Saving
