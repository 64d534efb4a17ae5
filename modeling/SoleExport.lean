import SoleExport.Assignment
import SoleExport.Command.Arguments
import SoleExport.Command.Basic
import SoleExport.Command.Failure
import SoleExport.Command.Run
import SoleExport.Command.Verdict
import SoleExport.Comment
import SoleExport.Conversion
import SoleExport.Declaration
import SoleExport.Directory
import SoleExport.Event
import SoleExport.Exports
import SoleExport.FreshName
import SoleExport.Grammar.Basic
import SoleExport.Grammar.Classes
import SoleExport.Grammar.Expressions
import SoleExport.Grammar.Functions
import SoleExport.Grammar.Markup
import SoleExport.Grammar.Modules
import SoleExport.Grammar.Patterns
import SoleExport.Grammar.Statements
import SoleExport.Grammar.Types
import SoleExport.Grammar.Uses
import SoleExport.Host
import SoleExport.Ident
import SoleExport.Item
import SoleExport.Json.Fault
import SoleExport.Json.Scan
import SoleExport.Json.Writer
import SoleExport.Layout.Basic
import SoleExport.Layout.Definitions
import SoleExport.Layout.Expressions
import SoleExport.Layout.Module
import SoleExport.Layout.Patterns
import SoleExport.Layout.Printer
import SoleExport.Layout.Statements
import SoleExport.Layout.Types
import SoleExport.Main
import SoleExport.Options
import SoleExport.Options.Reader
import SoleExport.OutputPaths
import SoleExport.Parse
import SoleExport.Path
import SoleExport.Pattern
import SoleExport.Roots
import SoleExport.SourceFile
import SoleExport.Span
import SoleExport.Text.Conversion
import SoleExport.Text.Entity
import SoleExport.Text.Escape
import SoleExport.Text.NameChar
import SoleExport.Text.Numeral
import SoleExport.Text.Printable
import SoleExport.Text.Shortest
import SoleExport.Token.Basic
import SoleExport.Token.Comments
import SoleExport.Token.Lexer
import SoleExport.Transform
import SoleExport.Tree
import SoleExport.Proofs.Rules
import SoleExport.Proofs.Designation
import SoleExport.Proofs.ExportedNames
import SoleExport.Proofs.Outcome
import SoleExport.Proofs.FreshNames
import SoleExport.Proofs.Identifiers
import SoleExport.Proofs.Capture
import SoleExport.Proofs.DefaultForms
import SoleExport.Proofs.Repetition
import SoleExport.Proofs.Verdict
import SoleExport.Proofs.Ambient
import SoleExport.Proofs.NormalPaths
import SoleExport.Proofs.Frame
import SoleExport.Proofs.Placement
import SoleExport.Proofs.Outputs
import SoleExport.Proofs.Parting
import SoleExport.Proofs.Reading
import SoleExport.Proofs.Printing
import SoleExport.Proofs.Accumulation
import SoleExport.Proofs.Contents
import SoleExport.Proofs.Resolution
import SoleExport.Proofs.Renaming
import SoleExport.Proofs.Spelling
import SoleExport.Proofs.FreshNumbers
import SoleExport.Proofs.Naming
import SoleExport.Proofs.ExportLists
import SoleExport.Proofs.Log
import SoleExport.Proofs.Positions
import SoleExport.Proofs.Bindings
import SoleExport.Proofs.Requests
import SoleExport.Proofs.JsonStrings
import SoleExport.Proofs.JsonText
import SoleExport.Proofs.OptionText
