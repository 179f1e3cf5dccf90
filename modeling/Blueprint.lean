import Blueprint.Api.Basic
import Blueprint.Api.Models
import Blueprint.Api.Modifiers
import Blueprint.Api.Normalize
import Blueprint.Api.Payload
import Blueprint.Api.Printing
import Blueprint.Api.RouteName
import Blueprint.Api.Transform
import Blueprint.Ast.Document
import Blueprint.Ast.Element
import Blueprint.Ast.Reading
import Blueprint.Command.Arguments
import Blueprint.Command.Failure
import Blueprint.Command.Files
import Blueprint.Command.Path
import Blueprint.Command.Report
import Blueprint.Command.Run
import Blueprint.Command.Store
import Blueprint.Decimal.Nearest
import Blueprint.Decimal.Shortest
import Blueprint.Diagnostic
import Blueprint.Dictionary
import Blueprint.Java.Comment
import Blueprint.Java.Controller
import Blueprint.Java.File
import Blueprint.Java.Lexeme
import Blueprint.Java.Model
import Blueprint.Java.Signature
import Blueprint.Json.Basic
import Blueprint.Json.Decode
import Blueprint.Json.Numeral
import Blueprint.Json.Printer
import Blueprint.Json.Quoted
import Blueprint.Json.Reader
import Blueprint.Main
import Blueprint.Method
import Blueprint.Name
import Blueprint.Pattern.Basic
import Blueprint.Pattern.Class
import Blueprint.Pattern.Reader
import Blueprint.Proofs.Ast.Alike
import Blueprint.Proofs.Ast.Faithful
import Blueprint.Proofs.Ast.Parts
import Blueprint.Proofs.Ast.Printed
import Blueprint.Proofs.Ast.Reader
import Blueprint.Proofs.Ast.RoundTrip
import Blueprint.Proofs.Ast.Slots
import Blueprint.Proofs.Command.Confined
import Blueprint.Proofs.Command.Effects
import Blueprint.Proofs.Command.Path
import Blueprint.Proofs.Command.Session
import Blueprint.Proofs.Command.Store
import Blueprint.Proofs.Command.Strict
import Blueprint.Proofs.Command.Verdict
import Blueprint.Proofs.Command.Writing
import Blueprint.Proofs.Complete
import Blueprint.Proofs.Delimiters
import Blueprint.Proofs.Dictionary
import Blueprint.Proofs.Groups.Account
import Blueprint.Proofs.Groups.Kept
import Blueprint.Proofs.Java.Members
import Blueprint.Proofs.Java.Methods
import Blueprint.Proofs.Java.Paths
import Blueprint.Proofs.Java.Types
import Blueprint.Proofs.Json.Numeral
import Blueprint.Proofs.Json.Ordered
import Blueprint.Proofs.Json.Origin
import Blueprint.Proofs.Json.Quoted
import Blueprint.Proofs.Json.Text
import Blueprint.Proofs.Json.Tree
import Blueprint.Proofs.Models.Ancestry
import Blueprint.Proofs.Models.Candidates
import Blueprint.Proofs.Models.Definitions
import Blueprint.Proofs.Models.Extraction
import Blueprint.Proofs.Models.Fields
import Blueprint.Proofs.Models.Flattening
import Blueprint.Proofs.Models.Hierarchy
import Blueprint.Proofs.Models.Inheritance
import Blueprint.Proofs.Models.Parents
import Blueprint.Proofs.Modifiers.Applying
import Blueprint.Proofs.Modifiers.Compiling
import Blueprint.Proofs.Modifiers.Marks
import Blueprint.Proofs.Name
import Blueprint.Proofs.Name.Ascii
import Blueprint.Proofs.Noted
import Blueprint.Proofs.Rules
import Blueprint.Proofs.Source.Record
import Blueprint.Proofs.Text.Ascii
import Blueprint.Proofs.Text.Lines
import Blueprint.Proofs.Text.Words
import Blueprint.Proofs.Transform
import Blueprint.Settings
import Blueprint.Source.Node
import Blueprint.Source.Reader
import Blueprint.Source.Record
import Blueprint.Status
import Blueprint.Text.Basic
import Blueprint.Text.Casing
import Blueprint.Text.Quoted
import Blueprint.Text.Words
import Blueprint.TypeName
import Blueprint.Unicode.CaseFolding
import Blueprint.Unicode.CaseMapping
import Blueprint.Unicode.Category
import Blueprint.Unicode.Property
import Blueprint.Unicode.Script
import Blueprint.Unicode.Trait
import Blueprint.Uri.Template
import Blueprint.Yaml.Cursor
import Blueprint.Yaml.Printer
import Blueprint.Yaml.Reader
import Blueprint.Yaml.ScalarText
import Blueprint.Yaml.Tag
import Blueprint.Yaml.Token
import Blueprint.Yaml.Tree
import Blueprint.Yaml.Value
import Blueprint.Proofs.Groups.Inherited
import Blueprint.Proofs.Models.Climbing
import Blueprint.Proofs.Uri.Pieces
import Blueprint.Proofs.Uri.Template
import Blueprint.Proofs.Groups.Status
import Blueprint.Proofs.Models.References
import Blueprint.Proofs.Name.Casings
import Blueprint.Proofs.TypeName.Skeleton
import Blueprint.Proofs.Java.Comments
import Blueprint.Proofs.Java.Literals
import Blueprint.Proofs.Models.OptionLines
import Blueprint.Proofs.Java.Documentation
import Blueprint.Proofs.Filled
import Blueprint.Proofs.Java.Identifiers
import Blueprint.Proofs.Models.Skipping
import Blueprint.Proofs.Models.InlineObjects
import Blueprint.Proofs.Models.ModelOptions
import Blueprint.Proofs.Name.Recased
import Blueprint.Proofs.Name.Together
import Blueprint.Proofs.Groups.RouteNames
