/-!
# Bound expressions

The integer expressions that give an array its length, and their value: sums, differences, products
and quotients rounded toward zero. `Expr.eval` works from left to right, so the first operand that
has no value decides the error.
-/

namespace InteropGen.Bound

/-- The operators with two operands; `other` are those that bounds may not use. -/
inductive Operator
  | add
  | sub
  | mul
  | div
  | other
  deriving DecidableEq, Repr

/-- An expression; `foreign` is any form that is no arithmetic on integers. -/
inductive Expr
  | int (value : Nat)
  | plus (operand : Expr)
  | minus (operand : Expr)
  | binary (operator : Operator) (left right : Expr)
  | foreign
  deriving DecidableEq, Repr

/-- Why a bound has no value. -/
inductive EvalError
  | malformed
  | divisionByZero
  | unsupported
  deriving DecidableEq, Repr

/-- What an error says about a text. -/
def EvalError.message (text : String) : EvalError → String
  | malformed => "malformed expression \"" ++ text ++ "\""
  | divisionByZero => "division by zero in \"" ++ text ++ "\""
  | unsupported => "unsupported term in \"" ++ text ++ "\""

/-- Applies an operator to two values. -/
def Operator.apply : Operator → Int → Int → Except EvalError Int
  | add, a, b => .ok (a + b)
  | sub, a, b => .ok (a - b)
  | mul, a, b => .ok (a * b)
  | div, a, b => if b = 0 then .error .divisionByZero else .ok (a.tdiv b)
  | other, _, _ => .error .unsupported

/-- The value of an expression: left operand, right operand, operator. -/
def Expr.eval : Expr → Except EvalError Int
  | int value => .ok value
  | plus operand => operand.eval
  | minus operand => do
    let value ← operand.eval
    return -value
  | binary operator left right => do
    let a ← left.eval
    let b ← right.eval
    operator.apply a b
  | foreign => .error .unsupported

end InteropGen.Bound
