import InteropGen.Guards
import InteropGen.Identifier
import InteropGen.Types.Resolve

/-!
# Enums

An enum becomes a C# enum of its name without the last underscore. A private extension is generated
under the name of its base and begins with the base's elements. The registry keeps, by C# name,
the elements of the enum that was generated last; elements that count others give array sizes.
-/

namespace InteropGen.Generate

open Metadata

/-- The native name of an enum without the mark of a private extension. -/
def baseName (name : String) : String :=
  if Text.endsWith name "Private_" then Text.replace name "Private" "" else name

/-- The text of an element's value: the expression it was written as, or the number. -/
def elementValue (element : EnumElement) : String :=
  element.expression.getD element.value.toText

/-- Does the name of an element say that it counts others? -/
def isCounting (name : String) : Bool := Text.includes name "COUNT"

/-- Elements so far, with the symbols. -/
structure EnumRun where
  symbols : Symbols
  elements : List Decl.Element

/-- Adds an element under the C# name of its enum. -/
def EnumRun.addElement (name : String) (run : EnumRun) (element : EnumElement) : EnumRun :=
  let s := run.symbols
  if s.admits element.guards then
    let value := elementValue element
    let sizes :=
      if isCounting element.name then
        s.arraySizes.insert element.name (element.value.toInt?.getD 0)
      else s.arraySizes
    let registered := (s.enums.find? name).getD [] ++ [(element.name, value)]
    { symbols := { s with
        arraySizes := sizes
        enums := s.enums.insert name registered }
      elements := run.elements ++
        [⟨Decl.Head.withComments { name := element.name } element.comments, value⟩] }
  else { run with symbols := s.skip .enumElement element.name .guards }

/-- The C# enum of an enum, unless its guards leave it out. -/
def enum (item : Metadata.Enum) : StateM Symbols (Option Decl.Enum) := fun s =>
  if s.admits item.guards then
    let nativeName := baseName item.name
    let name := Identifier.ofEnum nativeName
    let base := if nativeName = item.name then none else s.enums.find? name
    let (id, s) := Symbols.namedType name s
    let s := ((s.registerType name id).registerType nativeName id).registerType item.name id
    let s := if base.isNone then { s with enums := s.enums.insert name [] } else s
    let inherited := (base.getD []).map fun (element, value) =>
      ({ head := { name := element }, value := value } : Decl.Element)
    let run := item.elements.foldl (EnumRun.addElement name) ⟨s, inherited⟩
    let head : Decl.Head :=
      { name := name
        modifiers := ["public"]
        attributes := if item.isFlags then ["[Flags]"] else [] }
    (some ⟨head.withComments item.comments, run.elements, nativeName⟩, run.symbols)
  else (none, s.skip .enum item.name .guards)

end InteropGen.Generate
