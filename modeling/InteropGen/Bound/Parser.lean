import InteropGen.Bound.Expr
import InteropGen.Bound.Token

/-!
# Parsing bounds

The grammar of the expression language. Binary operators bind by level, from `or` at 1 to the power
at 12, and all but the power to the left; a sign binds at 11, between products and powers. Forms
without a value as a bound (names, calls, comparisons, texts, lists and so on) are recognised and
kept as `Expr.foreign`, so that they can be told from texts that are no expression at all.
-/

namespace InteropGen.Bound

/-- A binary operator at the front of some tokens. -/
structure Joint where
  level : Nat
  rightLevel : Nat
  operator : Option Operator
  rest : List Token

/-- Joins two operands; what is no arithmetic gives a foreign expression. -/
def Joint.join (joint : Joint) (left right : Expr) : Expr :=
  match joint.operator with
  | some operator => .binary operator left right
  | none => .foreign

/-- The operator of a symbol, with its level. -/
def symbolOperator? (text : String) : Option (Nat × Option Operator) :=
  if text = "+" then some (9, some .add)
  else if text = "-" then some (9, some .sub)
  else if text = "*" then some (10, some .mul)
  else if text = "/" || text = "//" then some (10, some .div)
  else if text = "%" || text = "@" then some (10, some .other)
  else if text = "<<" || text = ">>" then some (8, some .other)
  else if text = "&" then some (7, some .other)
  else if text = "^" then some (6, some .other)
  else if text = "|" then some (5, some .other)
  else if ["<", ">", "==", "<=", ">=", "!="].contains text then some (4, none)
  else none

/-- The binary operator at the front. -/
def joint? : List Token → Option Joint
  | .sym text :: rest =>
    if text = "**" then some ⟨12, 11, some .other, rest⟩
    else (symbolOperator? text).map fun (level, operator) => ⟨level, level + 1, operator, rest⟩
  | .keyword text :: rest =>
    if text = "or" then some ⟨1, 2, none, rest⟩
    else if text = "and" then some ⟨2, 3, none, rest⟩
    else if text = "in" then some ⟨4, 5, none, rest⟩
    else if text = "is" then
      match rest with
      | .keyword "not" :: more => some ⟨4, 5, none, more⟩
      | _ => some ⟨4, 5, none, rest⟩
    else if text = "not" then
      match rest with
      | .keyword "in" :: more => some ⟨4, 5, none, more⟩
      | _ => none
    else none
  | _ => none

/-- What follows a symbol, if it is at the front. -/
def after? (text : String) : List Token → Option (List Token)
  | .sym found :: rest => if found = text then some rest else none
  | _ => none

/--
An expression at the front of some tokens, and the tokens after it. `bindable` says that a clause
may bind it: it is a name, a member or an item of something, or a list of such places.
-/
structure Parsed where
  expr : Expr
  rest : List Token
  bindable : Bool := false

/-- A foreign expression before some tokens. -/
def Parsed.foreign (rest : List Token) (bindable : Bool := false) : Parsed :=
  ⟨.foreign, rest, bindable⟩

/-- Is an expression given a name here? -/
def isNamed : List Token → Bool
  | .name _ :: .sym text :: _ => text = ":="
  | _ => false

/-- Which arguments of a call came before: none by name, some, or unpacked ones. -/
inductive ArgumentStage
  | plain
  | named
  | unpacked
  deriving DecidableEq

/-- The parameters of an anonymous function that came before. -/
structure ParameterStage where
  /-- There is one, so that a slash may follow. -/
  isSome : Bool := false
  /-- The slash came. -/
  slashed : Bool := false
  /-- One has a default, so that the next one needs one too. -/
  defaulted : Bool := false
  /-- A star came, behind which defaults are free. -/
  starred : Bool := false
  /-- The star stood alone, so that a name must follow. -/
  nameNeeded : Bool := false
  /-- Two stars came, behind which nothing follows. -/
  closed : Bool := false

/-- After a parameter without a default. -/
def ParameterStage.plain? (stage : ParameterStage) : Option ParameterStage :=
  if stage.closed || (stage.defaulted && !stage.starred) then none
  else some { stage with isSome := true, nameNeeded := false }

/-- After a parameter with a default. -/
def ParameterStage.default? (stage : ParameterStage) : Option ParameterStage :=
  if stage.closed then none
  else some { stage with isSome := true, defaulted := true, nameNeeded := false }

/-- After a slash. -/
def ParameterStage.slash? (stage : ParameterStage) : Option ParameterStage :=
  if stage.isSome && !stage.slashed && !stage.starred && !stage.closed then
    some { stage with slashed := true }
  else none

/-- After a star, alone or before a name. -/
def ParameterStage.star? (stage : ParameterStage) (alone : Bool) : Option ParameterStage :=
  if stage.starred || stage.closed then none
  else some { stage with starred := true, nameNeeded := alone }

/-- After two stars before a name. -/
def ParameterStage.close? (stage : ParameterStage) : Option ParameterStage :=
  if stage.nameNeeded || stage.closed then none else some { stage with closed := true }

mutual

/-- Operands joined by operators of at least the level. -/
def climb : Nat → Nat → List Token → Option Parsed
  | 0, _, _ => none
  | fuel + 1, level, tokens => do extend fuel level (← operand fuel level tokens)

/-- Joins further operands to the left one while an operator of at least the level follows. -/
def extend : Nat → Nat → Parsed → Option Parsed
  | 0, _, _ => none
  | fuel + 1, level, left =>
    match joint? left.rest with
    | some joint =>
      if level ≤ joint.level then do
        let right ← climb fuel joint.rightLevel joint.rest
        extend fuel level ⟨joint.join left.expr right.expr, right.rest, false⟩
      else some left
    | none => some left

/-- A signed operand, or an atom with what is applied to it. -/
def operand : Nat → Nat → List Token → Option Parsed
  | 0, _, _ => none
  | fuel + 1, level, tokens =>
    match tokens with
    | .sym "+" :: rest => (climb fuel 11 rest).map fun p => ⟨.plus p.expr, p.rest, false⟩
    | .sym "-" :: rest => (climb fuel 11 rest).map fun p => ⟨.minus p.expr, p.rest, false⟩
    | .sym "~" :: rest => (climb fuel 11 rest).map fun p => .foreign p.rest
    | .keyword "not" :: rest =>
      if level ≤ 3 then (climb fuel 3 rest).map fun p => .foreign p.rest else none
    | .keyword "await" :: rest => (place fuel rest).map fun p => .foreign p.rest
    | _ => place fuel tokens

/-- An atom with what is applied to it. -/
def place : Nat → List Token → Option Parsed
  | 0, _ => none
  | fuel + 1, tokens => do trailers fuel (← atom fuel tokens)

/-- Calls, subscripts and attributes after an atom. -/
def trailers : Nat → Parsed → Option Parsed
  | 0, _ => none
  | fuel + 1, before =>
    match before.rest with
    | .sym "(" :: rest => do trailers fuel (.foreign (← arguments fuel true .plain rest))
    | .sym "[" :: rest => do trailers fuel (.foreign (← subscripts fuel false rest) true)
    | .sym "." :: .name _ :: rest => trailers fuel (.foreign rest true)
    | .sym "." :: _ => none
    | _ => some before

/-- A literal, a name, or a form in brackets. -/
def atom : Nat → List Token → Option Parsed
  | 0, _ => none
  | fuel + 1, tokens =>
    match tokens with
    | .int value :: rest => some ⟨.int value, rest, false⟩
    | .fraction :: rest => some (.foreign rest)
    | .quoted bytes :: rest => (quotes fuel bytes rest).map fun rest => .foreign rest
    | .name _ :: rest => some (.foreign rest true)
    | .keyword text :: rest =>
      if ["True", "False", "None"].contains text then some (.foreign rest) else none
    | .sym "..." :: rest => some (.foreign rest)
    | .sym "(" :: rest => group fuel rest
    | .sym "[" :: rest => sequence fuel "]" true true rest
    | .sym "\x7b" :: rest => (braces fuel rest).map fun rest => .foreign rest
    | _ => none

/-- What follows texts that stand side by side; all hold bytes or none does. -/
def quotes : Nat → Bool → List Token → Option (List Token)
  | 0, _, _ => none
  | fuel + 1, bytes, tokens =>
    match tokens with
    | .quoted also :: rest => if also = bytes then quotes fuel bytes rest else none
    | .hole :: .sym "(" :: rest => do quotes fuel bytes (← group fuel rest).rest
    | rest => some rest

/-- What stands in parentheses: one expression, which keeps its value, or a foreign form. -/
def group : Nat → List Token → Option Parsed
  | 0, _ => none
  | fuel + 1, tokens =>
    match tokens with
    | .sym ")" :: rest => some (.foreign rest true)
    | .sym "*" :: _ => do
      let first ← item fuel tokens
      sequence fuel ")" false first.bindable (← after? "," first.rest)
    | .keyword "yield" :: .sym ")" :: rest => some (.foreign rest)
    | .keyword "yield" :: .keyword "from" :: rest => do
      let p ← expression fuel rest
      return .foreign (← after? ")" p.rest)
    | .keyword "yield" :: rest => (yielded fuel rest).map fun rest => .foreign rest
    | _ => do
      let p ← named fuel tokens
      match p.rest with
      | .sym ")" :: rest => return { p with rest := rest }
      | .sym "," :: rest => sequence fuel ")" false p.bindable rest
      | rest => return .foreign (← after? ")" (← clauses fuel true rest))

/-- The items that a generator yields, none with a name, up to the closing parenthesis. -/
def yielded : Nat → List Token → Option (List Token)
  | 0, _ => none
  | fuel + 1, tokens => do
    let rest ← match tokens with
      | .sym "*" :: rest => (climb fuel 5 rest).map (·.rest)
      | tokens => (expression fuel tokens).map (·.rest)
    match rest with
    | .sym ")" :: rest => return rest
    | .sym "," :: .sym ")" :: rest => return rest
    | .sym "," :: rest => yielded fuel rest
    | _ => none

/-- One expression, which may be given a name. -/
def named : Nat → List Token → Option Parsed
  | 0, _ => none
  | fuel + 1, tokens =>
    match tokens with
    | .name _ :: .sym ":=" :: rest => (expression fuel rest).map fun p => .foreign p.rest
    | _ => expression fuel tokens

/-- One expression: a choice between two, an anonymous function, or operands and operators. -/
def expression : Nat → List Token → Option Parsed
  | 0, _ => none
  | fuel + 1, tokens =>
    match tokens with
    | .keyword "lambda" :: rest => do
      let p ← expression fuel (← parameters fuel {} rest)
      return .foreign p.rest
    | _ => do
      let p ← climb fuel 1 tokens
      match p.rest with
      | .keyword "if" :: rest =>
        let condition ← climb fuel 1 rest
        match condition.rest with
        | .keyword "else" :: rest =>
          let p ← expression fuel rest
          return .foreign p.rest
        | _ => none
      | _ => return p

/-- An item of a list, which may be unpacked. -/
def item : Nat → List Token → Option Parsed
  | 0, _ => none
  | fuel + 1, tokens =>
    match tokens with
    | .sym "*" :: rest => climb fuel 5 rest
    | _ => named fuel tokens

/--
Items up to a closing bracket. The first may come with clauses that make it many; together they can
be bound if each can, those before included.
-/
def sequence : Nat → String → Bool → Bool → List Token → Option Parsed
  | 0, _, _, _, _ => none
  | fuel + 1, close, mayRepeat, bindable, tokens =>
    match after? close tokens with
    | some rest => some (.foreign rest bindable)
    | none => do
      let p ← item fuel tokens
      let mayRepeat := mayRepeat && (after? "*" tokens).isNone
      sequenceEnd fuel close mayRepeat { p with bindable := bindable && p.bindable }

/-- A comma with further items, clauses, or the closing bracket, after an item. -/
def sequenceEnd : Nat → String → Bool → Parsed → Option Parsed
  | 0, _, _, _ => none
  | fuel + 1, close, mayRepeat, before =>
    match after? close before.rest, after? "," before.rest with
    | some rest, _ => some (.foreign rest before.bindable)
    | none, some rest => sequence fuel close false before.bindable rest
    | none, none =>
      if mayRepeat then do
        return .foreign (← after? close (← clauses fuel true before.rest))
      else none

/-- What stands in braces after the opening one, up to the closing one: what follows. -/
def braces : Nat → List Token → Option (List Token)
  | 0, _ => none
  | fuel + 1, tokens =>
    match tokens with
    | .sym "\x7d" :: rest => some rest
    | .sym "**" :: _ => entries fuel false tokens
    | .sym "*" :: _ => (sequence fuel "\x7d" false false tokens).map (·.rest)
    | _ => do
      let first ← named fuel tokens
      match first.rest with
      | .sym ":" :: rest => if isNamed tokens then none else entryEnd fuel true rest
      | _ => return (← sequenceEnd fuel "\x7d" true first).rest

/-- Pairs of key and value up to the closing brace: what follows it. -/
def entries : Nat → Bool → List Token → Option (List Token)
  | 0, _, _ => none
  | fuel + 1, mayRepeat, tokens =>
    match tokens with
    | .sym "\x7d" :: rest => some rest
    | .sym "**" :: rest => do entriesEnd fuel false (← climb fuel 5 rest).rest
    | _ => do
      let key ← expression fuel tokens
      entryEnd fuel mayRepeat (← after? ":" key.rest)

/-- The value of a pair and what comes up to the closing brace: what follows it. -/
def entryEnd : Nat → Bool → List Token → Option (List Token)
  | 0, _, _ => none
  | fuel + 1, mayRepeat, tokens => do entriesEnd fuel mayRepeat (← expression fuel tokens).rest

/-- A comma with further pairs, clauses, or the closing brace: what follows. -/
def entriesEnd : Nat → Bool → List Token → Option (List Token)
  | 0, _, _ => none
  | fuel + 1, mayRepeat, tokens =>
    match tokens with
    | .sym "\x7d" :: rest => some rest
    | .sym "," :: rest => entries fuel false rest
    | _ => if mayRepeat then do after? "\x7d" (← clauses fuel true tokens) else none

/-- Clauses that repeat an item; the first must be there. -/
def clauses : Nat → Bool → List Token → Option (List Token)
  | 0, _, _ => none
  | fuel + 1, first, tokens =>
    match tokens with
    | .keyword "for" :: rest => do
      let source ← climb fuel 1 (← targets fuel rest)
      clauses fuel false source.rest
    | .keyword "async" :: .keyword "for" :: rest => do
      let source ← climb fuel 1 (← targets fuel rest)
      clauses fuel false source.rest
    | .keyword "if" :: rest =>
      if first then none
      else do clauses fuel false (← climb fuel 1 rest).rest
    | _ => if first then none else some tokens

/-- The places that a clause binds, with the word after them: what follows. -/
def targets : Nat → List Token → Option (List Token)
  | 0, _ => none
  | fuel + 1, tokens => do
    let p ← place fuel ((after? "*" tokens).getD tokens)
    if !p.bindable then none
    else match p.rest with
      | .keyword "in" :: rest => return rest
      | .sym "," :: .keyword "in" :: rest => return rest
      | .sym "," :: rest => targets fuel rest
      | _ => none

/--
Arguments of a call up to its closing parenthesis: what follows it. Clauses may come only with an
argument that is the only one.
-/
def arguments : Nat → Bool → ArgumentStage → List Token → Option (List Token)
  | 0, _, _, _ => none
  | fuel + 1, first, stage, tokens =>
    match tokens with
    | .sym ")" :: rest => some rest
    | .sym "*" :: rest =>
      if stage = .unpacked then none
      else do argumentsEnd fuel stage (← expression fuel rest).rest
    | .sym "**" :: rest => do argumentsEnd fuel .unpacked (← expression fuel rest).rest
    | .name _ :: .sym "=" :: rest => do
      let p ← expression fuel rest
      argumentsEnd fuel (if stage = .plain then .named else stage) p.rest
    | _ =>
      if stage = .plain then do
        let p ← named fuel tokens
        match argumentsEnd fuel .plain p.rest with
        | some rest => return rest
        | none => if first then after? ")" (← clauses fuel true p.rest) else none
      else none

/-- A comma with further arguments, or the closing parenthesis. -/
def argumentsEnd : Nat → ArgumentStage → List Token → Option (List Token)
  | 0, _, _ => none
  | fuel + 1, stage, tokens =>
    match tokens with
    | .sym ")" :: rest => some rest
    | .sym "," :: rest => arguments fuel false stage rest
    | _ => none

/-- Subscripts up to the closing bracket, at least one unless some came before: what follows it. -/
def subscripts : Nat → Bool → List Token → Option (List Token)
  | 0, _, _ => none
  | fuel + 1, someBefore, tokens =>
    match tokens with
    | .sym "]" :: rest => if someBefore then some rest else none
    | _ => do
      match ← subscript fuel tokens with
      | .sym "]" :: rest => return rest
      | .sym "," :: rest => subscripts fuel true rest
      | _ => none

/-- One subscript: an unpacked expression, one with a name, or the bounds of a range. -/
def subscript : Nat → List Token → Option (List Token)
  | 0, _ => none
  | fuel + 1, tokens =>
    match tokens with
    | .sym "*" :: rest => (expression fuel rest).map (·.rest)
    | .sym ":" :: rest => rangeEnd fuel 1 rest
    | _ => do
      let p ← named fuel tokens
      match p.rest with
      | .sym ":" :: rest => if isNamed tokens then none else rangeEnd fuel 1 rest
      | rest => return rest

/-- The rest of a range after so many colons, of at most two: what follows it. -/
def rangeEnd : Nat → Nat → List Token → Option (List Token)
  | 0, _, _ => none
  | fuel + 1, colons, tokens =>
    match tokens with
    | .sym "]" :: _ => some tokens
    | .sym "," :: _ => some tokens
    | .sym ":" :: rest => if colons < 2 then rangeEnd fuel 2 rest else none
    | _ => do
      match (← expression fuel tokens).rest with
      | .sym ":" :: rest => if colons < 2 then rangeEnd fuel 2 rest else none
      | rest => return rest

/-- Parameters of an anonymous function up to the colon: what follows it. -/
def parameters : Nat → ParameterStage → List Token → Option (List Token)
  | 0, _, _ => none
  | fuel + 1, stage, tokens =>
    match tokens with
    | .sym ":" :: rest => if stage.nameNeeded then none else some rest
    | .sym "**" :: .name _ :: rest => do parametersEnd fuel (← stage.close?) rest
    | .sym "*" :: .name _ :: rest => do parametersEnd fuel (← stage.star? false) rest
    | .sym "*" :: .sym "," :: rest => do parameters fuel (← stage.star? true) rest
    | .sym "/" :: rest => do parametersEnd fuel (← stage.slash?) rest
    | .name _ :: .sym "=" :: rest => do
      let stage ← stage.default?
      parametersEnd fuel stage (← expression fuel rest).rest
    | .name _ :: rest => do parametersEnd fuel (← stage.plain?) rest
    | _ => none

/-- A comma with further parameters, or the colon. -/
def parametersEnd : Nat → ParameterStage → List Token → Option (List Token)
  | 0, _, _ => none
  | fuel + 1, stage, tokens =>
    match tokens with
    | .sym ":" :: rest => some rest
    | .sym "," :: rest => parameters fuel stage rest
    | _ => none

end

/-- Expressions with commas between them, up to the end. -/
def topLevel : Nat → Expr → List Token → Option Expr
  | 0, _, _ => none
  | fuel + 1, expr, tokens =>
    if tokens.all (· == .lineEnd) then some expr
    else do
      let rest ← after? "," tokens
      if rest.all (· == .lineEnd) then return .foreign
      let p ← expression fuel rest
      topLevel fuel .foreign p.rest

/-- The expression that all tokens make up. -/
def Expr.ofTokens? (tokens : List Token) : Option Expr := do
  let fuel := 24 * tokens.length + 24
  let p ← expression fuel tokens
  topLevel fuel p.expr p.rest

/-- The expression that a text is. -/
def Expr.ofText? (text : String) : Option Expr := (tokensOf? text).bind Expr.ofTokens?

/-- The value of a text with blanks around it. -/
def evaluate (text : String) : Except EvalError Int :=
  match Expr.ofText? (Text.strip text) with
  | some expr => expr.eval
  | none => .error .malformed

end InteropGen.Bound
