import InteropGen.Render.Decls
import InteropGen.Proofs.Locals

/-!
# What the bodies of wrappers declare

The code of a wrapper with its declarations marked. In a `Statement` a line may be the declaration of a local:
what stands in front of the name, the name, and the rest. `stepBody` and `wrapperBody` say so for every line of
a wrapper, and without the marks they are the code that is written (`step_eq`, `wrapper_eq`).

A name is in scope in the block where it is declared and in all blocks in that one; what a loop or a `fixed`
declares belongs to the block under it. `Statement.scopes` lists the names in scope block by block, and no name
is captured (`NoCapture`) if they are different from each other in every block.
-/

namespace InteropGen.Render

open Decl

/-! ### Statements -/

/-- A line: a text, or the declaration of a local with what stands before and after the name. -/
inductive Line
  | plain (parts : List String)
  | declares (opening : List String) (name : String) (rest : List String)

namespace Line

def text : Line → String
  | plain parts => String.join parts
  | declares opening name rest => String.join (opening ++ name :: rest)

/-- The local that a line declares; the mark of an escaped word is no part of its name. -/
def local? : Line → Option String
  | plain _ => none
  | declares _ name _ => some (Identifier.bare name)

end Line

/-- A line, or a block with the statements above it that reach over the block, and its header. -/
inductive Statement
  | line (content : Line)
  | block (above : List Statement) (header : Line) (body : List Statement)

namespace Statement

mutual

/-- The code of a statement. -/
def code : Statement → List Code
  | .line content => [.line content.text]
  | .block above header body => codeOf above ++ [.block header.text (codeOf body)]

/-- The code of statements one below the other. -/
def codeOf : List Statement → List Code
  | [] => []
  | statement :: rest => code statement ++ codeOf rest

end

/-- The locals that the lines of a block declare, without those of the blocks in it. -/
def declaredIn (body : List Statement) : List String :=
  body.filterMap fun
    | .line content => content.local?
    | .block _ _ _ => none

mutual

/-- The names in scope in each block of a statement, for the names in scope where it stands. -/
def scopes (names : List String) : Statement → List (List String)
  | .line _ => []
  | .block above header body =>
    scopesOf names above ++
      (names ++ declaredIn above ++ header.local?.toList ++ declaredIn body) ::
        scopesOf (names ++ declaredIn above ++ header.local?.toList ++ declaredIn body) body

/-- The names in scope in each block of some statements. -/
def scopesOf (names : List String) : List Statement → List (List String)
  | [] => []
  | statement :: rest => scopes names statement ++ scopesOf names rest

end

/-- In every block of a statement all names in scope are different, the given ones included. -/
def NoCapture (names : List String) (statement : Statement) : Prop :=
  ∀ scope ∈ statement.scopes names, scope.Nodup

theorem codeOf_append (body body' : List Statement) : codeOf (body ++ body') = codeOf body ++ codeOf body' := by
  induction body with
  | nil => rfl
  | cons first rest ih => rw [List.cons_append, codeOf, codeOf, ih, List.append_assoc]

theorem codeOf_flatten (bodies : List (List Statement)) :
    codeOf bodies.flatten = (bodies.map codeOf).flatten := by
  induction bodies with
  | nil => rfl
  | cons first rest ih => rw [List.flatten_cons, codeOf_append, ih, List.map_cons, List.flatten_cons]

theorem declaredIn_append (body body' : List Statement) :
    declaredIn (body ++ body') = declaredIn body ++ declaredIn body' := List.filterMap_append

theorem scopesOf_append (names : List String) (body body' : List Statement) :
    scopesOf names (body ++ body') = scopesOf names body ++ scopesOf names body' := by
  induction body with
  | nil => rfl
  | cons first rest ih => rw [List.cons_append, scopesOf, scopesOf, ih, List.append_assoc]

end Statement

/-! ### The statements of steps -/

open Statement

/-- A line that declares nothing. -/
def said (parts : List String) : Statement := .line (.plain parts)

/-- A declaration whose type is left to the compiler. -/
def declared (name : String) (rest : List String) : Statement := .line (.declares ["var "] name rest)

/-- A block under a line that declares nothing. -/
def under (header : List String) (body : List Statement) : Statement := .block [] (.plain header) body

/-- `longText` as a statement. -/
def longTextBody (name : String) (body : List Statement) : Statement :=
  under ["if (", name, "_byteCount > Util.StackAllocationSizeLimit)"] body

/-- `eachElement` as a statement. -/
def eachElementBody (name : String) (body : List Statement) : Statement :=
  .block [] (.declares ["for (var "] "i" [" = 0; i < ", name, ".Length; i++)"]) body

/-- `marshalNote` as a statement. -/
def noteBody (name kind : String) : Statement := said ["// Marshaling '", name, "' to native ", kind]

/-- `allocateText` as statements. -/
def allocateTextBody (name target : String) : List Statement :=
  [longTextBody name [said [target, " = Util.Allocate(", name, "_byteCount + 1);"]],
    under ["else"]
      [declared (target ++ "_stackBytes") [" = stackalloc byte[", name, "_byteCount + 1];"],
        said [target, " = ", target, "_stackBytes;"]]]

/-- `encodeText` as statements. -/
def encodeTextBody (name native : String) : List Statement :=
  [noteBody name "string",
    .line (.declares ["byte* "] native [";"]),
    declared (name ++ "_byteCount") [" = 0;"],
    under ["if (", name, " != null)"]
      (said [name, "_byteCount = Encoding.UTF8.GetByteCount(", name, ");"] ::
        allocateTextBody name native ++
        [declared (name ++ "_offset") [" = Util.GetUtf8(", name, ", ", native, ", ", name, "_byteCount);"],
          said [native, "[", name, "_offset] = 0;"]]),
    said ["else ", native, " = null;"]]

/-- `encodeTexts` as statements. -/
def encodeTextsBody (name native : String) : List Statement :=
  [noteBody name "string array",
    declared (name ++ "_byteCounts") [" = stackalloc int[", name, ".Length];"],
    declared (name ++ "_byteCount") [" = 0;"],
    eachElementBody name
      [said [name, "_byteCounts[i] = Encoding.UTF8.GetByteCount(", name, "[i]);"],
        said [name, "_byteCount += ", name, "_byteCounts[i] + 1;"]],
    declared (native ++ "_data") [" = stackalloc byte[", name, "_byteCount];"],
    declared (name ++ "_offset") [" = 0;"],
    eachElementBody name
      [declared "s" [" = ", name, "[i];"],
        said [name, "_offset += Util.GetUtf8(s, ", native, "_data + ", name, "_offset, ", name,
          "_byteCounts[i]);"],
        said [native, "_data[", name, "_offset++] = 0;"]],
    declared native [" = stackalloc byte*[", name, ".Length];"],
    said [name, "_offset = 0;"],
    eachElementBody name
      [said [native, "[i] = &", native, "_data[", name, "_offset];"],
        said [name, "_offset += ", name, "_byteCounts[i] + 1;"]]]

/-- `encodeDefault` as statements. -/
def encodeDefaultBody (name type value : String) : List Statement :=
  [.line (.declares [type, " "] name [";"]),
    declared (name ++ "_byteCount") [" = Encoding.UTF8.GetByteCount(", value, ");"]] ++
    [longTextBody name [said [name, " = Util.Allocate(", name, "_byteCount + 1);"]],
      under ["else"]
        [declared (name ++ "_stackBytes") [" = stackalloc byte[", name, "_byteCount + 1];"],
          said [name, " = ", name, "_stackBytes;"]],
      declared (name ++ "_offset") [" = Util.GetUtf8(", value, ", ", name, ", ", name, "_byteCount);"],
      said [name, "[", name, "_offset] = 0;"]]

/-- The code of a step with its declarations marked. -/
def stepBody (s : Symbols) : Step → Except Fault (List Statement)
  | .boolValue name =>
    return [noteBody name "bool",
      declared (Identifier.nativeLocal name) [" = ", name, " ? (byte)1 : (byte)0;"]]
  | .boolRef name =>
    let native := Identifier.nativeLocal name
    return [noteBody name "bool",
      declared (native ++ "_val") [" = ", name, " ? (byte)1 : (byte)0;"],
      declared native [" = &", native, "_val;"]]
  | .boolWriteback name =>
    return [said [name, " = ", Identifier.nativeLocal name, "_val != 0;"]]
  | .voidPointer name =>
    return [noteBody name "void pointer",
      declared (Identifier.nativeLocal name) [" = ", name, ".ToPointer();"]]
  | .string name => return encodeTextBody name (Identifier.nativeLocal name)
  | .stringFree name =>
    return [longTextBody name [said ["Util.Free(", Identifier.nativeLocal name, ");"]]]
  | .stringBuffer name =>
    return [.line (.declares ["fixed (byte* "] (Identifier.nativeLocal name) [" = ", name, ")"])]
  | .pinned name type => do
    let type ← s.spell type
    return [.line (.declares ["fixed (", type, "* "] (Identifier.nativeLocal name) [" = &", name, ")"])]
  | .array name type => do
    let type ← s.spell type
    let native := Identifier.nativeLocal name
    return [noteBody name (type ++ " array"),
      declared native [" = stackalloc ", type, "[", name, ".Length];"],
      eachElementBody name [said [native, "[i] = ", name, "[i];"]]]
  | .stringArray name => return encodeTextsBody name (Identifier.nativeLocal name)
  | .defaultValue name type value => do
    let type ← s.spell type
    let value ← s.spellValue value
    return [.line (.declares [type, " "] name [" = ", value, ";"])]
  | .defaultString name type value => do
    let type ← s.spell type
    let value ← s.spellValue value
    return encodeDefaultBody name type value
  | .defaultStringFree name => return [longTextBody name [said ["Util.Free(", name, ");"]]]

/-- The body from the call on: the call, what comes after it, and the line that returns. -/
def innerBody (w : Wrapper) (result : String) (after : List (List Statement)) : List Statement :=
  let call := String.join
    [w.nativeClass, ".", w.entryPoint, "(", String.intercalate ", " w.marshaling.native, ");"]
  (if result ≠ "void" then declared "ret" [" = ", call] else said [call]) :: after.flatten ++
    (if result ≠ "void" then [said ["return ", w.resultCode, ";"]] else [])

/-- The body of a wrapper. -/
def methodBody (w : Wrapper) (result : String) (before fixed after : List (List Statement)) :
    List Statement :=
  before.flatMap (· ++ [said []]) ++
    (if w.marshaling.fixed.isEmpty then innerBody w result after
      else [.block fixed.flatten (.plain []) (innerBody w result after)])

/-- A wrapper with its declarations marked; its head stands above the block of its body. -/
def wrapperBody (s : Symbols) (w : Wrapper) : Except Fault Statement := do
  let result ← s.spell w.result
  let parameters ← w.marshaling.managed.mapM (managed s)
  let before ← w.marshaling.before.mapM (stepBody s)
  let fixed ← w.marshaling.fixed.mapM (stepBody s)
  let after ← w.marshaling.after.mapM (stepBody s)
  let header := String.join
    [modifierText w.head, result, " ", w.head.name, "(", String.intercalate ", " parameters, ")"]
  return .block [said [header]] (.plain []) (methodBody w result before fixed after)

/-! ### The code that is written -/

theorem join_split (front : List String) (text text' : String) (back : List String) :
    String.join (front ++ (text ++ text') :: back) = String.join (front ++ text :: text' :: back) := by
  simp [String.join, List.foldl_append, String.append_assoc]

/-- What follows a name may stand with the text after it or with the name. -/
theorem text_declares (opening rest : List String) (name suffix first : String) :
    (Line.declares opening (name ++ suffix) (first :: rest)).text =
      String.join (opening ++ name :: (suffix ++ first) :: rest) := by
  have hname := join_split opening name suffix (first :: rest)
  have hrest := join_split (opening ++ [name]) suffix first rest
  simp only [List.append_assoc, List.cons_append, List.nil_append] at hname hrest
  rw [Line.text, hname, hrest]

theorem code_declared (name suffix first : String) (rest : List String) :
    code (declared (name ++ suffix) (first :: rest)) =
      [Render.line ("var " :: name :: (suffix ++ first) :: rest)] :=
  congrArg (fun text => [Code.line text]) (text_declares ["var "] rest name suffix first)

theorem code_under (header : List String) (body : List Statement) :
    code (under header body) = [Render.block header (codeOf body)] := rfl

theorem code_eachElementBody (name : String) (body : List Statement) :
    code (eachElementBody name body) = [eachElement name (codeOf body)] := rfl

theorem codeOf_encodeTextBody (name native : String) :
    codeOf (encodeTextBody name native) = encodeText name native := by
  simp only [encodeTextBody, allocateTextBody, codeOf, codeOf_append, code_declared, code_under]
  rfl

theorem codeOf_encodeTextsBody (name native : String) :
    codeOf (encodeTextsBody name native) = encodeTexts name native := by
  simp only [encodeTextsBody, codeOf, code_declared, code_eachElementBody]
  rfl

theorem codeOf_encodeDefaultBody (name type value : String) :
    codeOf (encodeDefaultBody name type value) = encodeDefault name type value := by
  simp only [encodeDefaultBody, codeOf, codeOf_append, code_declared, code_under]
  rfl

/-- The code of a step is what its statements say. -/
theorem step_eq (s : Symbols) (step : Step) : Render.step s step = (stepBody s step).map codeOf := by
  cases step with
  | boolRef name =>
    refine congrArg Except.ok ?_
    simp only [codeOf, code_declared]
    rfl
  | string name => exact congrArg Except.ok (codeOf_encodeTextBody name _).symm
  | stringArray name => exact congrArg Except.ok (codeOf_encodeTextsBody name _).symm
  | pinned name type =>
    simp only [stepBody, Render.step]
    cases s.spell type <;> rfl
  | array name type =>
    simp only [stepBody, Render.step]
    cases s.spell type <;> rfl
  | defaultValue name type value =>
    simp only [stepBody, Render.step]
    cases s.spell type with
    | error fault => rfl
    | ok type => cases s.spellValue value <;> rfl
  | defaultString name type value =>
    simp only [stepBody, Render.step]
    cases s.spell type with
    | error fault => rfl
    | ok type =>
      cases s.spellValue value with
      | error fault => rfl
      | ok value => exact congrArg Except.ok (codeOf_encodeDefaultBody name type value).symm
  | boolValue | boolWriteback | voidPointer | stringFree | stringBuffer | defaultStringFree => rfl

theorem mapM_map {ε α β γ : Type} {f : α → Except ε β} {g : α → Except ε γ} {h : γ → β}
    (heq : ∀ a, f a = (g a).map h) (items : List α) : items.mapM f = (items.mapM g).map (List.map h) := by
  induction items with
  | nil => rfl
  | cons first rest ih =>
    rw [List.mapM_cons, List.mapM_cons, heq, ih]
    cases g first with
    | error fault => rfl
    | ok first => cases rest.mapM g <;> rfl

theorem steps_eq (s : Symbols) (list : List Step) :
    steps s list = (list.mapM (stepBody s)).map fun bodies => codeOf bodies.flatten := by
  unfold steps
  rw [mapM_map (step_eq s)]
  cases list.mapM (stepBody s) with
  | error fault => rfl
  | ok bodies => exact congrArg Except.ok (codeOf_flatten bodies).symm

theorem codeOf_innerBody (w : Wrapper) (result : String) (after : List (List Statement)) :
    codeOf (innerBody w result after) =
      Render.line [if result ≠ "void" then "var ret = " else "", String.join
        [w.nativeClass, ".", w.entryPoint, "(", String.intercalate ", " w.marshaling.native, ");"]] ::
        codeOf after.flatten ++
        (if result ≠ "void" then [Render.line ["return ", w.resultCode, ";"]] else []) := by
  rw [innerBody, List.cons_append, codeOf, codeOf_append]
  split
  · rfl
  · rfl

theorem codeOf_methodBody (w : Wrapper) (result : String) (before fixed after : List (List Statement)) :
    codeOf (methodBody w result before fixed after) =
      (before.map codeOf).flatMap (· ++ [Code.line ""]) ++
        (if w.marshaling.fixed.isEmpty then codeOf (innerBody w result after)
          else codeOf fixed.flatten ++ [Code.block "" (codeOf (innerBody w result after))]) := by
  have hgaps : codeOf (before.flatMap (· ++ [said []])) =
      (before.map codeOf).flatMap (· ++ [Code.line ""]) := by
    induction before with
    | nil => rfl
    | cons first rest ih =>
      rw [List.flatMap_cons, codeOf_append, codeOf_append, ih, List.map_cons, List.flatMap_cons]
      rfl
  rw [methodBody, codeOf_append, hgaps]
  split
  · rfl
  · rw [codeOf, codeOf, code, List.append_nil]
    rfl

/-- The code of a wrapper is what its statement says. -/
theorem wrapper_eq (s : Symbols) (w : Wrapper) : Render.wrapper s w = (wrapperBody s w).map code := by
  unfold Render.wrapper wrapperBody
  rw [mapM_map (step_eq s), steps_eq, steps_eq]
  cases s.spell w.result with
  | error fault => rfl
  | ok result =>
  cases w.marshaling.managed.mapM (managed s) with
  | error fault => rfl
  | ok parameters =>
  cases w.marshaling.before.mapM (stepBody s) with
  | error fault => rfl
  | ok before =>
  cases w.marshaling.fixed.mapM (stepBody s) with
  | error fault => rfl
  | ok fixed =>
  cases w.marshaling.after.mapM (stepBody s) with
  | error fault => rfl
  | ok after =>
    have hbody := codeOf_methodBody w result before fixed after
    rw [codeOf_innerBody] at hbody
    exact congrArg (fun body => Except.ok [Code.line _, Code.block "" body]) hbody.symm

end InteropGen.Render
