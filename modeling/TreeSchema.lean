import TreeSchema.Ast.Calc
import TreeSchema.Ast.Debug
import TreeSchema.Ast.Expr
import TreeSchema.Ast.Interner
import TreeSchema.Ast.Record
import TreeSchema.Ast.Schemas
import TreeSchema.Ast.Sink
import TreeSchema.Ast.Stmt
import TreeSchema.Ast.Token
import TreeSchema.CommandLine
import TreeSchema.CommandLine.Arguments
import TreeSchema.Decimal.Places
import TreeSchema.Decimal.Shortest
import TreeSchema.Decimal.Style
import TreeSchema.Failure
import TreeSchema.Formatter
import TreeSchema.Formatter.Editing.Basic
import TreeSchema.Formatter.Editing.Reading
import TreeSchema.Formatter.Editing.Running
import TreeSchema.Formatter.Script.Arithmetic
import TreeSchema.Formatter.Script.Basic
import TreeSchema.Formatter.Script.Builtins
import TreeSchema.Formatter.Script.Expansion
import TreeSchema.Formatter.Script.Reading
import TreeSchema.Formatter.Script.Running
import TreeSchema.Formatter.Script.Shell
import TreeSchema.Formatter.Script.Source
import TreeSchema.Formatter.Script.Words
import TreeSchema.Formatter.Utility
import TreeSchema.Formatter.Utility.Basic
import TreeSchema.Formatter.Utility.Characters
import TreeSchema.Formatter.Utility.Condition
import TreeSchema.Formatter.Utility.Editor
import TreeSchema.Formatter.Utility.Expression
import TreeSchema.Formatter.Utility.Fields
import TreeSchema.Formatter.Utility.Files
import TreeSchema.Formatter.Utility.Lines
import TreeSchema.Formatter.Utility.Names
import TreeSchema.Formatter.Utility.Numbers
import TreeSchema.Formatter.Utility.Order
import TreeSchema.Formatter.Utility.Printing
import TreeSchema.Formatter.Utility.Search
import TreeSchema.Graph.Cycle
import TreeSchema.Json.Document
import TreeSchema.Json.Fault
import TreeSchema.Json.Number
import TreeSchema.Json.Reading
import TreeSchema.Json.StringBody
import TreeSchema.Json.Token
import TreeSchema.Json.Value
import TreeSchema.Log
import TreeSchema.Main
import TreeSchema.Output
import TreeSchema.Proofs.Graph.Cycle
import TreeSchema.Proofs.Output.Atomicity
import TreeSchema.Proofs.Output.Committing
import TreeSchema.Proofs.Output.Naming
import TreeSchema.Proofs.Output.Phases
import TreeSchema.Proofs.Output.Staging
import TreeSchema.Proofs.Output.Undoing
import TreeSchema.Proofs.Render.Correctness
import TreeSchema.Proofs.Render.Meaning
import TreeSchema.Proofs.Render.Programs
import TreeSchema.Proofs.Render.Running
import TreeSchema.Proofs.Render.Templates
import TreeSchema.Proofs.Schema.Acceptance
import TreeSchema.Proofs.Schema.Names
import TreeSchema.Proofs.Schema.Programs
import TreeSchema.Proofs.Schema.WellFormed
import TreeSchema.Proofs.Steps
import TreeSchema.Proofs.Store.Changes
import TreeSchema.Proofs.Store.Making
import TreeSchema.Proofs.Store.Paths
import TreeSchema.Proofs.Text.Literal
import TreeSchema.Proofs.Units.Closure
import TreeSchema.Proofs.Units.Declarations
import TreeSchema.Proofs.Units.Files
import TreeSchema.Proofs.Units.Imports
import TreeSchema.Schema.Basic
import TreeSchema.Schema.Check
import TreeSchema.Schema.Defect
import TreeSchema.Schema.Index
import TreeSchema.Schema.Json
import TreeSchema.Schema.Naming
import TreeSchema.Source.Basic
import TreeSchema.Source.Layout
import TreeSchema.Source.OfSchema
import TreeSchema.Store.Basic
import TreeSchema.Store.Calls
import TreeSchema.Store.Fault
import TreeSchema.Store.Glob
import TreeSchema.Template
import TreeSchema.Text.CharClass
import TreeSchema.Text.Lossy
import TreeSchema.Text.Octets
import TreeSchema.Text.Quoted
import TreeSchema.Text.Regex
import TreeSchema.Text.Regex.Reading
import TreeSchema.Text.Size
import TreeSchema.Text.Span
import TreeSchema.Text.Tables.Alphanumeric
import TreeSchema.Text.Tables.Casing
import TreeSchema.Text.Tables.Extending
import TreeSchema.Text.Tables.Lowercase
import TreeSchema.Text.Tables.Unprintable
import TreeSchema.Text.Tables.Uppercase
import TreeSchema.Text.Wildcard
import TreeSchema.Text.Words
import TreeSchema.Proofs.Output.Contents
import TreeSchema.Proofs.Output.Installation
import TreeSchema.Proofs.Units.Emission
import TreeSchema.Proofs.Units.Prefix
import TreeSchema.Proofs.Json.Strings
import TreeSchema.Proofs.Json.Documents
import TreeSchema.Proofs.Json.Reading
import TreeSchema.Proofs.Schema.Printing
import TreeSchema.Proofs.Json.Accepted
import TreeSchema.Proofs.Schema.Loading
import TreeSchema.Proofs.Schema.RoundTrip
import TreeSchema.Proofs.Ast.Pieces
import TreeSchema.Proofs.Ast.Sinks
import TreeSchema.Proofs.Ast.Interning
import TreeSchema.Proofs.Ast.Interpretation
import TreeSchema.Proofs.Ast.Schemas
import TreeSchema.Proofs.Text.Words
import TreeSchema.Proofs.Output.Bystanders
import TreeSchema.Proofs.Template.Grammar
import TreeSchema.Proofs.Template.Segments
import TreeSchema.Proofs.Schema.Embedding
import TreeSchema.Proofs.Output.Outcomes
import TreeSchema.Proofs.CommandLine.Arguments
import TreeSchema.Proofs.CommandLine.Delivery
import TreeSchema.Proofs.Schema.Defects
import TreeSchema.Proofs.Units.Scope
import TreeSchema.Proofs.Text.Casing
import TreeSchema.Proofs.Text.Spelling
import TreeSchema.Proofs.Text.Identifiers
import TreeSchema.Proofs.Schema.Identifiers
import TreeSchema.Proofs.Text.Quoting
import TreeSchema.Proofs.Render.Literals
import TreeSchema.Proofs.Schema.Resolution
import TreeSchema.Proofs.Output.Cleaning
import TreeSchema.Proofs.Ast.Skeletons
import TreeSchema.Proofs.Text.Styles
import TreeSchema.Proofs.Schema.Modules
import TreeSchema.Proofs.Output.Separation
import TreeSchema.Proofs.Render.Mentions
import TreeSchema.Proofs.Units.Frames
import TreeSchema.Proofs.Json.Grammar
import TreeSchema.Proofs.Json.Numerals
import TreeSchema.Proofs.Json.Scanning
import TreeSchema.Proofs.Json.Parsing
import TreeSchema.Proofs.Json.Flaws
import TreeSchema.Proofs.Json.Places
import TreeSchema.Proofs.Json.Members
import TreeSchema.Proofs.Schema.Arrangement
import TreeSchema.Proofs.Schema.Layout
import TreeSchema.Proofs.Render.Scopes
import TreeSchema.Proofs.Render.Blocks
import TreeSchema.Proofs.Render.Binders
import TreeSchema.Proofs.Render.Reading
import TreeSchema.Proofs.Render.Renderers
import TreeSchema.Proofs.Units.Reading
import TreeSchema.Proofs.Units.Uses
import TreeSchema.Proofs.Units.Constructors
import TreeSchema.Proofs.Ast.Emitted
