import OperationClasses.Accessor.Caching
import OperationClasses.Accessor.Dispatch
import OperationClasses.Accessor.FieldAccess
import OperationClasses.Accessor.Method
import OperationClasses.Accessor.Path
import OperationClasses.Calendar.Clock
import OperationClasses.Calendar.Date
import OperationClasses.Calendar.DateTime
import OperationClasses.Calendar.Digits
import OperationClasses.Class.Basic
import OperationClasses.Class.Registry
import OperationClasses.CommandLine.Options
import OperationClasses.CommandLine.Run
import OperationClasses.Conversion.Basic
import OperationClasses.Conversion.Input
import OperationClasses.Conversion.Output
import OperationClasses.Decimal.Binary64
import OperationClasses.Decimal.Shortest
import OperationClasses.Declaration
import OperationClasses.Document.Basic
import OperationClasses.Document.BlockText
import OperationClasses.Document.UsedFragments
import OperationClasses.Document.Parse
import OperationClasses.Document.Printer
import OperationClasses.Document.Reader
import OperationClasses.Document.Resolved
import OperationClasses.Document.Token
import OperationClasses.Failure
import OperationClasses.Files.Archive
import OperationClasses.Files.Deflate
import OperationClasses.Files.ModuleFile
import OperationClasses.Files.Tree
import OperationClasses.Files.Sources
import OperationClasses.Generation.Inputs
import OperationClasses.Generation.Occurrence
import OperationClasses.Generation.Operations
import OperationClasses.Generation.Outputs
import OperationClasses.Generation.State
import OperationClasses.Json.Basic
import OperationClasses.Json.Equality
import OperationClasses.Json.Literal
import OperationClasses.Json.Reader
import OperationClasses.Json.Writer
import OperationClasses.KeyedList
import OperationClasses.Layer
import OperationClasses.Main
import OperationClasses.Module.ClassText
import OperationClasses.Module.Rendering
import OperationClasses.Module.Syntax.Expression
import OperationClasses.Module.Syntax.Filling
import OperationClasses.Module.Syntax.Lexeme
import OperationClasses.Module.Syntax.Number
import OperationClasses.Module.Syntax.Pattern
import OperationClasses.Module.Syntax.Reading
import OperationClasses.Module.Syntax.Statement
import OperationClasses.Module.Syntax.TextLiteral
import OperationClasses.Module.Template
import OperationClasses.NameSet
import OperationClasses.Naming.Identifier
import OperationClasses.Naming.Reserved
import OperationClasses.Naming.Words
import OperationClasses.Result.Basic
import OperationClasses.Scalar.Binding
import OperationClasses.Scalar.Reference
import OperationClasses.Scalar.Uuid
import OperationClasses.Scalar.Value
import OperationClasses.Schema.Basic
import OperationClasses.Schema.Construction
import OperationClasses.Schema.Definition
import OperationClasses.Schema.Introspection
import OperationClasses.Schema.Reader
import OperationClasses.Schema.Rules
import OperationClasses.Schema.Standard
import OperationClasses.Schema.TypeRef
import OperationClasses.Text.Blank
import OperationClasses.Text.CaseMap
import OperationClasses.Text.CharacterName
import OperationClasses.Text.CharacterName.Family
import OperationClasses.Text.CharacterName.Letters
import OperationClasses.Text.CharacterName.Pictographs
import OperationClasses.Text.CharacterName.Symbols
import OperationClasses.Text.Composition
import OperationClasses.Text.Encoding
import OperationClasses.Text.Hexadecimal
import OperationClasses.Text.Holes
import OperationClasses.Text.IdentifierChars
import OperationClasses.Text.Integer
import OperationClasses.Text.Letters
import OperationClasses.Text.Lines
import OperationClasses.Text.Printable
import OperationClasses.Text.Quoted
import OperationClasses.Text.Similarity
import OperationClasses.Text.Utf8
import OperationClasses.Transport.Address
import OperationClasses.Transport.Bytes
import OperationClasses.Transport.Executor
import OperationClasses.Transport.HostName
import OperationClasses.Transport.HostName.Characters
import OperationClasses.Transport.HostName.Punycode
import OperationClasses.Transport.Url
import OperationClasses.Validation.Delivery
import OperationClasses.Validation.Directives
import OperationClasses.Validation.Merging
import OperationClasses.Validation.Order
import OperationClasses.Validation.Rules
import OperationClasses.Validation.Typename
import OperationClasses.Validation.Values
import OperationClasses.Validation.Visit
import OperationClasses.Variable
import OperationClasses.Proofs.Schema.TypeLayers
import OperationClasses.Proofs.Accessor.Reduction
import OperationClasses.Proofs.Accessor.Branches
import OperationClasses.Proofs.Accessor.Body
import OperationClasses.Proofs.Accessor.Dispatch
import OperationClasses.Proofs.Accessor.Caching
import OperationClasses.Proofs.Accessor.Freezing
import OperationClasses.Proofs.Accessor.ExactReduction
import OperationClasses.Proofs.Accessor.Covering
import OperationClasses.Proofs.Accessor.MergeOrder
import OperationClasses.Proofs.Accessor.Repetition
import OperationClasses.Proofs.Accessor.Signature
import OperationClasses.Proofs.Selection.Spreads
import OperationClasses.Proofs.Selection.Execution
import OperationClasses.Proofs.Selection.Standing
import OperationClasses.Proofs.Selection.Flattening
import OperationClasses.Proofs.Selection.Response
import OperationClasses.Proofs.Validation.ValidSchema
import OperationClasses.Proofs.Validation.Acceptance
import OperationClasses.Proofs.Validation.Plainness
import OperationClasses.Proofs.Validation.Places
import OperationClasses.Proofs.Generation.Steps
import OperationClasses.Proofs.Generation.Growth
import OperationClasses.Proofs.Generation.Reading
import OperationClasses.Proofs.Generation.Accumulation
import OperationClasses.Proofs.Generation.Provenance
import OperationClasses.Proofs.Generation.Failures
import OperationClasses.Proofs.Generation.Breaches
import OperationClasses.Proofs.Generation.Wrapping
import OperationClasses.Proofs.Class.DependencyOrder
import OperationClasses.Proofs.Class.RegistrationOrder
import OperationClasses.Proofs.Generation.Retention
import OperationClasses.Proofs.Generation.Contribution
import OperationClasses.Proofs.Document.QueryText
import OperationClasses.Proofs.Generation.SharedNames
import OperationClasses.Proofs.Generation.ResponseKeys
import OperationClasses.Proofs.Generation.Linking
import OperationClasses.Proofs.Generation.DependencyGraph
import OperationClasses.Proofs.Validation.Covariance
import OperationClasses.Proofs.Generation.Readability
import OperationClasses.Proofs.Generation.Representation
import OperationClasses.Proofs.Generation.Caches
import OperationClasses.Proofs.Generation.InputTypes
import OperationClasses.Proofs.Generation.Namespaces
import OperationClasses.Proofs.Generation.Replaying
import OperationClasses.Proofs.Generation.OperationOrder
import OperationClasses.Proofs.Generation.Views
import OperationClasses.Proofs.Generation.QueryTexts
import OperationClasses.Proofs.Generation.Inlining
import OperationClasses.Proofs.Generation.Directives
import OperationClasses.Proofs.Generation.Coverage
import OperationClasses.Proofs.Validation.TypenameRule
import OperationClasses.Proofs.Generation.TypenameDispatch
import OperationClasses.Proofs.Generation.VariableClasses
import OperationClasses.Proofs.Generation.VariableSteps
import OperationClasses.Proofs.Naming.Words
import OperationClasses.Proofs.Naming.Identifier
import OperationClasses.Proofs.Naming.Escaping
import OperationClasses.Proofs.Naming.Underscoring
import OperationClasses.Proofs.Generation.ResultClasses
import OperationClasses.Proofs.Document.Spelling
import OperationClasses.Proofs.Generation.EmittedNames
import OperationClasses.Proofs.Generation.StrictScalars
import OperationClasses.Proofs.Generation.DistinctNames
import OperationClasses.Proofs.Conversion.Reading
import OperationClasses.Proofs.Conversion.Composition
import OperationClasses.Proofs.Conversion.Phrases
import OperationClasses.Proofs.Conversion.Meaning
import OperationClasses.Proofs.Conversion.Computation
import OperationClasses.Proofs.Conversion.Layers
import OperationClasses.Proofs.Conversion.OutputMeaning
import OperationClasses.Proofs.Conversion.InputMeaning
import OperationClasses.Proofs.Conversion.Filling
import OperationClasses.Proofs.Generation.InputClosure
import OperationClasses.Proofs.Generation.Rereading
import OperationClasses.Proofs.Generation.Reselection
import OperationClasses.Proofs.Files.Writing
import OperationClasses.Proofs.CommandLine.Output
import OperationClasses.Proofs.Class.EnumMembers
import OperationClasses.Proofs.Class.VariableOrder
import OperationClasses.Proofs.Text.Quoted
import OperationClasses.Proofs.Calendar.RoundTrip
import OperationClasses.Proofs.Json.Literal
import OperationClasses.Proofs.Result.Digest
import OperationClasses.Proofs.Generation.ClassBody
import OperationClasses.Proofs.Selection.Fetching
import OperationClasses.Proofs.Generation.Imports
import OperationClasses.Proofs.Generation.Nullability
import OperationClasses.Proofs.Generation.ImportedNames
