import FlowDefs.Number.Layout
import FlowDefs.Number.Reading
import FlowDefs.Syntax.Outline
import FlowDefs.Text.StringLiteral
import FlowDefs.Json.Printer
import FlowDefs.Json.Reader
import FlowDefs.Syntax.Construct
import FlowDefs.TypeScript.Type
import FlowDefs.Library.Builtin
import FlowDefs.TypeScript.Statement
import FlowDefs.Flow.Format
import FlowDefs.Conversion.File
import FlowDefs.Config.Settings
import FlowDefs.Workspace.Store
import FlowDefs.Main
import FlowDefs.Proofs.Conversion.Converted
import FlowDefs.Proofs.Conversion.Refinement
import FlowDefs.Proofs.Conversion.Isolation
import FlowDefs.Proofs.Syntax.Subtree
import FlowDefs.Proofs.TypeScript.Reading
import FlowDefs.Proofs.Conversion.Parts
import FlowDefs.Proofs.Conversion.Origin
import FlowDefs.Proofs.Conversion.Substitutes
import FlowDefs.Proofs.TypeScript.Soundness
import FlowDefs.Proofs.Conversion.Completeness
import FlowDefs.Proofs.Syntax.Comments
import FlowDefs.Proofs.TypeScript.Comments
import FlowDefs.Proofs.Conversion.Comments
import FlowDefs.Proofs.Text.Listing
import FlowDefs.Proofs.Text.Surrogates
import FlowDefs.Proofs.Flow.Spelling
import FlowDefs.Proofs.Flow.Layout
import FlowDefs.Proofs.Flow.Tokens
import FlowDefs.Proofs.Flow.Forms
import FlowDefs.Proofs.Flow.Parts
import FlowDefs.Proofs.Flow.Signatures
import FlowDefs.Proofs.Flow.Objects
import FlowDefs.Proofs.Flow.Unambiguous
import FlowDefs.Proofs.Syntax.Written
import FlowDefs.Proofs.TypeScript.Common
import FlowDefs.Proofs.Conversion.Common
import FlowDefs.Proofs.Conversion.Leftovers
import FlowDefs.Proofs.Flow.Placeholders
import FlowDefs.Proofs.Conversion.Errors
import FlowDefs.Proofs.Library.Selection
import FlowDefs.Proofs.Library.Extension
import FlowDefs.Proofs.Workspace.Paths
import FlowDefs.Proofs.Workspace.Places
import FlowDefs.Proofs.Workspace.Sound
import FlowDefs.Proofs.Command.Outputs
import FlowDefs.Proofs.Command.Scheduling
import FlowDefs.Proofs.Flow.Fragments
import FlowDefs.Proofs.Flow.Bodies
import FlowDefs.Proofs.Conversion.Agreement
import FlowDefs.Proofs.Library.Resolution
import FlowDefs.Proofs.Text.Literals
import FlowDefs.Proofs.Json.Reading
import FlowDefs.Proofs.Number.Lexemes
import FlowDefs.Proofs.Text.Cooked
import FlowDefs.Proofs.Flow.Numerals
import FlowDefs.Proofs.Flow.Unvalued
import FlowDefs.Proofs.Flow.Lossless
import FlowDefs.Proofs.Text.Escapes
import FlowDefs.Proofs.Text.Quoting
import FlowDefs.Proofs.Conversion.Imports
import FlowDefs.Proofs.Conversion.Strings
import FlowDefs.Proofs.Conversion.Unions
import FlowDefs.Proofs.Conversion.ObjectTypes
import FlowDefs.Proofs.Flow.Optionality
import FlowDefs.Proofs.Conversion.Optionality
import FlowDefs.Proofs.TypeScript.Clauses
import FlowDefs.Proofs.Conversion.Bindings
import FlowDefs.Proofs.Conversion.PrintedImports
import FlowDefs.Proofs.Flow.CommentEnds
import FlowDefs.Proofs.Library.Answers
import FlowDefs.Proofs.Command.Collisions
import FlowDefs.Proofs.Conversion.Failures
import FlowDefs.Proofs.Number.Rounding
import FlowDefs.Proofs.Number.Radix
