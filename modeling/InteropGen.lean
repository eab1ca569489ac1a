import InteropGen.ArraySize
import InteropGen.Binaries
import InteropGen.Bound.Expr
import InteropGen.Bound.Parser
import InteropGen.Bound.Quoted
import InteropGen.Bound.Token
import InteropGen.Build
import InteropGen.Code.Builder
import InteropGen.Code.Tree
import InteropGen.Command
import InteropGen.Decimal.Binary64
import InteropGen.Decimal.Shortest
import InteropGen.Decl.Basic
import InteropGen.Decl.Marshal
import InteropGen.Decl.Tidy
import InteropGen.Files.Change
import InteropGen.Files.Path
import InteropGen.Files.Tree
import InteropGen.Generate.Bindings
import InteropGen.Generate.Callbacks
import InteropGen.Generate.Constants
import InteropGen.Generate.Enums
import InteropGen.Generate.Externs
import InteropGen.Generate.Structs
import InteropGen.Generate.Typedefs
import InteropGen.Generate.Wrappers
import InteropGen.Guards
import InteropGen.Identifier
import InteropGen.ImGui
import InteropGen.Json.Display
import InteropGen.Json.Printer
import InteropGen.Json.Reader
import InteropGen.Json.Value
import InteropGen.Main
import InteropGen.Metadata.Basic
import InteropGen.Metadata.Decode
import InteropGen.Metadata.Shape
import InteropGen.Render.Accessors
import InteropGen.Render.Decls
import InteropGen.Render.Steps
import InteropGen.Run
import InteropGen.Settings
import InteropGen.Symbols
import InteropGen.Table
import InteropGen.Text.Basic
import InteropGen.Text.Classes
import InteropGen.Text.Letters
import InteropGen.Text.Marks
import InteropGen.Text.Names
import InteropGen.Text.Names.Controls
import InteropGen.Text.Names.Letters
import InteropGen.Text.Names.Pictures
import InteropGen.Text.Names.Symbols
import InteropGen.Text.Numerals
import InteropGen.Text.Unprintable
import InteropGen.Types.Arena
import InteropGen.Types.Resolve
import InteropGen.Types.Spelling
import InteropGen.Types.Text
import InteropGen.Proofs.Steps
import InteropGen.Proofs.Accessors
import InteropGen.Proofs.Accounts
import InteropGen.Proofs.Bodies
import InteropGen.Proofs.Sources
import InteropGen.Proofs.Calls
import InteropGen.Proofs.Delegates
import InteropGen.Proofs.DefaultWrappers
import InteropGen.Proofs.EntryPoints
import InteropGen.Proofs.FailedRuns
import InteropGen.Proofs.FiniteSpelling
import InteropGen.Proofs.ForwardReferences
import InteropGen.Proofs.Generation
import InteropGen.Proofs.Opaque
import InteropGen.Proofs.PassedTypes
import InteropGen.Proofs.Regeneration
import InteropGen.Proofs.RoundTrip
import InteropGen.Proofs.Signatures
import InteropGen.Proofs.Sizes
import InteropGen.Proofs.Views
import InteropGen.Proofs.Aliases
import InteropGen.Proofs.BoundValues
import InteropGen.Proofs.Captures
import InteropGen.Proofs.GuardedDefines
import InteropGen.Proofs.ConstantNames
import InteropGen.Proofs.Stems
import InteropGen.Proofs.EnumRegistry
import InteropGen.Proofs.PrivateEnums
import InteropGen.Proofs.Evaluation
import InteropGen.Proofs.VectorElements
import InteropGen.Proofs.Leaves
import InteropGen.Proofs.Expansion
import InteropGen.Proofs.Nesting
import InteropGen.Proofs.Writing
import InteropGen.Proofs.Documentation
