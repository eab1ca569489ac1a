import InteropGen.Decl.Tidy
import InteropGen.Generate.Constants
import InteropGen.Generate.Enums
import InteropGen.Generate.Structs
import InteropGen.Generate.Typedefs
import InteropGen.Render.Decls

/-!
# The bindings of a document

All declarations that one metadata document gives under one configuration, and the files that they
are placed in.
-/

namespace InteropGen

/-- A metadata file and where its bindings go. -/
structure Configuration where
  metadataFile : String
  namespaceName : String
  mainClass : String
  nativeClass : String
  outputSubdirectory : String := ""
  usings : List String := []
  deriving Repr

namespace Generate

open Metadata Decl

/-- The declarations of a document. -/
structure Bindings where
  constants : List Constant
  enums : List Decl.Enum
  structs : List (Layout × View)
  externs : List Method
  mainWrappers : List Wrapper

/-- Runs the steps of one class of wrappers in a scope of its own. -/
def inNewScope {α : Type} (build : Build Scoped α) : Build Symbols α :=
  ExceptT.mk fun s =>
    let (outcome, state) := build.runOn { symbols := s }
    (outcome, state.symbols)

/-- The enums of a document that are not left out. -/
def enums : List Metadata.Enum → StateM Symbols (List Decl.Enum)
  | [] => return []
  | item :: rest => do
    let first ← enum item
    let others ← enums rest
    return first.toList ++ others

/-- Is the function one of the main class? -/
def isMain (s : Symbols) (function : Function) : Bool :=
  Text.startsWith function.name s.settings.mainMark && (skipReason? s function).isNone

/-- The wrappers of the main class. -/
def mainWrappers (target : WrapperClass) : List Function → Build Scoped (List Wrapper)
  | [] => return []
  | function :: rest => do
    let state ← get
    if isMain state.symbols function then
      let first ← wrappers target function
      let others ← mainWrappers target rest
      return first ++ others
    else mainWrappers target rest

/-- The bindings of a document, with all forward references bound. -/
def bindings (nativeClass : String) (metadata : Metadata) : Build Symbols Bindings := do
  let constants ← constants metadata.defines
  let enums ← enums metadata.enums
  typedefs metadata.typedefs
  let pairs ← inNewScope (structs ⟨nativeClass, false⟩ metadata.functions metadata.structs)
  let externs ← externMethods metadata.functions
  let wrappers ← inNewScope (mainWrappers ⟨nativeClass, true⟩ metadata.functions)
  let kept ← keepLaidOut (fun pair => .ok (emptyLayout? pair)) pairs
  Symbols.resolvePending
  return ⟨constants, enums, kept, externs, wrappers⟩

/-! ## Files -/

/-- The modifiers of the native and the main class. -/
def classModifiers : List String := ["public", "static", "unsafe", "partial"]

/-- A class of declarations. -/
def classOf (name : String) (members : List Decl) : Decl :=
  .group .plainClass { name := name, modifiers := classModifiers } members

/-- A source file of a configuration. -/
def sourceFile (config : Configuration) (stem : String) (usings : List String)
    (decls : List Decl) : Render.SourceFile :=
  { fileName := stem ++ ".gen.cs"
    namespaceName := config.namespaceName
    usings := usings ++ config.usings
    decls := decls }

/-- The two files of a struct. -/
def structFiles (config : Configuration) (pair : Layout × View) : List Render.SourceFile :=
  let usings := ["System", "System.Numerics", "System.Runtime.CompilerServices", "System.Text"]
  let file (decl : Decl) : Render.SourceFile :=
    { sourceFile config decl.name usings [decl] with subdirectory := "Structs" }
  [file pair.1.toDecl, file pair.2.toDecl]

/-- The files of a configuration, in the order in which they are written. -/
def placeFiles (config : Configuration) (b : Bindings) (delegates : List Method) :
    List Render.SourceFile :=
  let interop := ["System", "System.Numerics", "System.Runtime.InteropServices"]
  [sourceFile config "Constants" ["System"] [constantsClass b.constants],
    sourceFile config "Enums" ["System"] (b.enums.map .enum)] ++
  b.structs.flatMap (structFiles config) ++
  [sourceFile config config.nativeClass interop
      [classOf config.nativeClass (b.externs.map .method)],
    sourceFile config "Delegates" interop (delegates.map .delegate),
    { sourceFile config config.mainClass (interop ++ ["System.Text"])
        [classOf config.mainClass (b.mainWrappers.map .wrapper)] with
      header := ["// ReSharper disable InconsistentNaming"] }]

/-- A file with comments without markers and elements without stems. -/
def tidyFile (file : Render.SourceFile) : Render.SourceFile :=
  { file with decls := dropStemsAll (uncommentAll file.decls) }

end Generate

end InteropGen
