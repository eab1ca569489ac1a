import InteropGen.ArraySize
import InteropGen.Proofs.Climbing
import Mathlib.Data.Bool.AllAny

/-!
# Formulas

The arithmetic that bounds are meant to hold (`Formula`), with the value that it has where its symbols have values,
and the texts that it is written as (`Printed`): with blanks before every part, and with the parentheses that the
levels of the operations ask for, maybe with more of them. In parentheses a text may go over many lines (`Laid`).
Literals may be written in every base of the expression language (`Numeral`), among them the way in which integers
are put into a text (`numeral_toDigits`).
-/

namespace InteropGen

namespace Bound

/-! ### Values -/

/-- An operation on two integers. -/
inductive Operation
  | add
  | sub
  | mul
  | div
  deriving DecidableEq, Repr

namespace Operation

/-- How closely the operation binds: products more closely than sums. -/
def level : Operation → Nat
  | add | sub => 9
  | mul | div => 10

/-- The ways of writing the operation. -/
def symbols : Operation → List String
  | add => ["+"]
  | sub => ["-"]
  | mul => ["*"]
  | div => ["/", "//"]

/-- The operator that the parser has for the operation. -/
def operator : Operation → Operator
  | add => .add
  | sub => .sub
  | mul => .mul
  | div => .div

/-- The result, if there is one; a quotient is rounded toward zero. -/
def apply : Operation → Int → Int → Option Int
  | add, a, b => some (a + b)
  | sub, a, b => some (a - b)
  | mul, a, b => some (a * b)
  | div, a, b => if b = 0 then none else some (a.tdiv b)

theorem level_le (o : Operation) : o.level ≤ 10 := by cases o <;> decide

theorem symbolOperator?_symbols {o : Operation} {symbol : String} (h : symbol ∈ o.symbols) :
    symbolOperator? symbol = some (o.level, some o.operator) := by
  cases o with
  | add => obtain rfl := List.mem_singleton.mp h; rfl
  | sub => obtain rfl := List.mem_singleton.mp h; rfl
  | mul => obtain rfl := List.mem_singleton.mp h; rfl
  | div =>
    rcases List.mem_cons.mp h with rfl | h
    · rfl
    · obtain rfl := List.mem_singleton.mp h
      rfl

end Operation

/-- A formula over literals and symbols. -/
inductive Formula
  | literal (value : Nat)
  | symbol (name : String)
  | plus (operand : Formula)
  | minus (operand : Formula)
  | binary (operation : Operation) (left right : Formula)
  deriving DecidableEq, Repr

namespace Formula

/-- The value of a formula; where all its symbols have one, there is none only by a division by zero. -/
def value (env : String → Option Int) : Formula → Option Int
  | literal n => some n
  | symbol name => env name
  | plus operand => operand.value env
  | minus operand => (operand.value env).map (- ·)
  | binary operation left right => do
    let a ← left.value env
    let b ← right.value env
    operation.apply a b

/-- The formula of an integer. -/
def ofInt (v : Int) : Formula := if v < 0 then minus (literal v.natAbs) else literal v.natAbs

/-- The formula with the values of its symbols in their places. -/
def expand (env : String → Option Int) : Formula → Formula
  | literal n => literal n
  | symbol name => ((env name).map ofInt).getD (symbol name)
  | plus operand => plus (operand.expand env)
  | minus operand => minus (operand.expand env)
  | binary operation left right => binary operation (left.expand env) (right.expand env)

/-- The expression that the parser reads for a formula without symbols. -/
def expr : Formula → Expr
  | literal n => .int n
  | symbol _ => .foreign
  | plus operand => .plus operand.expr
  | minus operand => .minus operand.expr
  | binary operation left right => .binary operation.operator left.expr right.expr

theorem value_ofInt (env : String → Option Int) (v : Int) : (ofInt v).value env = some v := by
  unfold ofInt
  split
  · simp only [value, Option.map_some, Option.some.injEq]
    omega
  · simp only [value, Option.some.injEq]
    omega

/-- Putting the values in changes no value. -/
theorem value_expand (env env' : String → Option Int) (f : Formula) (h : ∀ name, env name = none → env' name = none) :
    (f.expand env).value env' = f.value env := by
  induction f with
  | literal n => rfl
  | symbol name =>
    cases hname : env name with
    | none => simp [expand, value, hname, h name hname]
    | some v => simp [expand, value, hname, value_ofInt]
  | plus operand ih => exact ih
  | minus operand ih => simp only [expand, value, ih]
  | binary operation left right ihLeft ihRight => simp only [expand, value, ihLeft, ihRight]

end Formula

/-- What the evaluation of a bound gives for a value, and where there is none. -/
def outcome : Option Int → Except EvalError Int
  | some v => .ok v
  | none => .error .divisionByZero

theorem apply_operator (o : Operation) (a b : Int) : o.operator.apply a b = outcome (o.apply a b) := by
  cases o with
  | add => rfl
  | sub => rfl
  | mul => rfl
  | div =>
    by_cases hzero : b = 0
    · simp [Operation.operator, Operation.apply, Operator.apply, outcome, hzero]
    · simp [Operation.operator, Operation.apply, Operator.apply, outcome, hzero]

/-! ### Numerals -/

/-- The characters are the digits, before each of which one underscore may stand. -/
inductive Grouped (ok : Char → Bool) : List Char → List Char → Prop
  | nil : Grouped ok [] []
  | digit {d : Char} {ds cs : List Char} (here : ok d = true) (rest : Grouped ok ds cs) :
    Grouped ok (d :: ds) (d :: cs)
  | parted {d : Char} {ds cs : List Char} (here : ok d = true) (rest : Grouped ok ds cs) :
    Grouped ok (d :: ds) ('_' :: d :: cs)

/-- The bases with a mark, and the digits that they have. -/
inductive Radix : Nat → List Char → (Char → Bool) → Prop
  | hex : Radix 16 ['x', 'X'] isHex
  | octal : Radix 8 ['o', 'O'] isOctal
  | binary : Radix 2 ['b', 'B'] isBinary

/-- The characters are a literal for the number; in base ten it has no zeros in front and not too many digits. -/
inductive Numeral : List Char → Nat → Prop
  | decimal {d : Char} {ds cs : List Char} (first : Text.isPlainDigit d = true)
    (rest : Grouped Text.isPlainDigit ds cs) (zeros : d = '0' → ∀ c ∈ ds, c = '0')
    (short : Text.hasDecimal (Text.digitsValue 10 (d :: ds)) = true) :
    Numeral (d :: cs) (Text.digitsValue 10 (d :: ds))
  | based {base : Nat} {marks : List Char} {ok : Char → Bool} {mark : Char} {ds cs : List Char}
    (radix : Radix base marks ok) (marked : mark ∈ marks) (some : ds ≠ []) (digits : Grouped ok ds cs) :
    Numeral ('0' :: mark :: cs) (Text.digitsValue base ds)

theorem isPlainDigit_iff {c : Char} : Text.isPlainDigit c = true ↔ 48 ≤ c.toNat ∧ c.toNat ≤ 57 := by
  simp only [Text.isPlainDigit, Bool.and_eq_true, decide_eq_true_eq, Char.le_def, UInt32.le_iff_toNat_le]
  rfl

theorem isHex_iff {c : Char} : isHex c = true ↔ (48 ≤ c.toNat ∧ c.toNat ≤ 57) ∨
    (97 ≤ c.toNat ∧ c.toNat ≤ 102) ∨ (65 ≤ c.toNat ∧ c.toNat ≤ 70) := by
  simp only [isHex, Bool.or_eq_true, isPlainDigit_iff, Bool.and_eq_true, decide_eq_true_eq, Char.le_def,
    UInt32.le_iff_toNat_le]
  exact or_assoc

/-- The digits of every base are digits of base sixteen. -/
theorem Radix.isHex_of_ok {base : Nat} {marks : List Char} {ok : Char → Bool} (h : Radix base marks ok) {c : Char}
    (hc : ok c = true) : isHex c = true := by
  cases h with
  | hex => exact hc
  | octal =>
    simp only [isOctal, Bool.and_eq_true, decide_eq_true_eq, Char.le_def, UInt32.le_iff_toNat_le] at hc
    exact isHex_iff.mpr (.inl ⟨hc.1, Nat.le_trans hc.2 (by decide)⟩)
  | binary =>
    simp only [isBinary, Bool.or_eq_true, beq_iff_eq] at hc
    rcases hc with rfl | rfl
    all_goals decide

/-! #### The characters of numerals -/

/-- An ASCII letter, an ASCII digit or the underscore. -/
def IsPlainWord (c : Char) : Prop :=
  48 ≤ c.toNat ∧ c.toNat ≤ 57 ∨ 65 ≤ c.toNat ∧ c.toNat ≤ 90 ∨ c.toNat = 95 ∨ 97 ≤ c.toNat ∧ c.toNat ≤ 122

theorem IsPlainWord.isWord {c : Char} (h : IsPlainWord c) : Text.isWord c = true := by
  have hascii : c.toNat < 128 := by unfold IsPlainWord at h; omega
  have hunder : c == '_' ↔ c.toNat = 95 := by
    rw [beq_iff_eq, ← Char.toNat_inj]
    rfl
  rw [Text.isWord, if_pos hascii, Bool.or_eq_true, hunder]
  delta Char.isAlphanum Char.isAlpha Char.isUpper Char.isLower Char.isDigit
  simp only [Bool.or_eq_true, Bool.and_eq_true, decide_eq_true_eq, ge_iff_le, UInt32.le_iff_toNat_le]
  unfold IsPlainWord at h
  change ((((65 ≤ c.toNat ∧ c.toNat ≤ 90) ∨ (97 ≤ c.toNat ∧ c.toNat ≤ 122)) ∨
    (48 ≤ c.toNat ∧ c.toNat ≤ 57)) ∨ c.toNat = 95)
  omega

theorem IsPlainWord.isBlank {c : Char} (h : IsPlainWord c) : Text.isBlank c = false := by
  unfold IsPlainWord at h
  simp only [Text.isBlank, Bool.or_eq_false_iff, Bool.and_eq_false_iff, decide_eq_false_iff_not, beq_eq_false_iff_ne]
  omega

theorem isPlainWord_of_isHex {c : Char} (h : isHex c = true) : IsPlainWord c := by
  rw [isHex_iff] at h
  unfold IsPlainWord
  omega

theorem isHex_of_isPlainDigit {c : Char} (h : Text.isPlainDigit c = true) : isHex c = true :=
  isHex_iff.mpr (.inl (isPlainDigit_iff.mp h))

theorem Grouped.isPlainWord {ok : Char → Bool} {ds cs : List Char} (h : Grouped ok ds cs)
    (hok : ∀ c, ok c = true → isHex c = true) : ∀ c ∈ cs, IsPlainWord c := by
  induction h with
  | nil => exact fun c hc => nomatch hc
  | digit here _ ih =>
    intro c hc
    rcases List.mem_cons.mp hc with rfl | hc
    · exact isPlainWord_of_isHex (hok _ here)
    · exact ih c hc
  | parted here _ ih =>
    intro c hc
    rcases List.mem_cons.mp hc with rfl | hc
    · exact .inr (.inr (.inl rfl))
    · rcases List.mem_cons.mp hc with rfl | hc
      · exact isPlainWord_of_isHex (hok _ here)
      · exact ih c hc

theorem Radix.isPlainWord_mark {base : Nat} {marks : List Char} {ok : Char → Bool} (h : Radix base marks ok)
    {mark : Char} (hmark : mark ∈ marks) : IsPlainWord mark := by
  have hall : ∀ c ∈ ['x', 'X', 'o', 'O', 'b', 'B'], IsPlainWord c := by
    unfold IsPlainWord
    exact List.all_iff_forall_prop.mp (by decide)
  refine hall mark ?_
  cases h with
  | hex => exact List.mem_append_left ['o', 'O', 'b', 'B'] hmark
  | octal => exact List.mem_append_right ['x', 'X'] (List.mem_append_left ['b', 'B'] hmark)
  | binary => exact List.mem_append_right ['x', 'X', 'o', 'O'] hmark

namespace Numeral

variable {cs : List Char} {n : Nat}

theorem isPlainWord (h : Numeral cs n) : ∀ c ∈ cs, IsPlainWord c := by
  cases h with
  | decimal first rest _ _ =>
    intro c hc
    rcases List.mem_cons.mp hc with rfl | hc
    · exact isPlainWord_of_isHex (isHex_of_isPlainDigit first)
    · exact rest.isPlainWord (fun _ => isHex_of_isPlainDigit) c hc
  | based radix marked _ digits =>
    intro c hc
    rcases List.mem_cons.mp hc with rfl | hc
    · exact .inl (by decide)
    · rcases List.mem_cons.mp hc with rfl | hc
      · exact radix.isPlainWord_mark marked
      · exact digits.isPlainWord (fun _ => radix.isHex_of_ok) c hc

theorem exists_digit (h : Numeral cs n) : ∃ d rest, cs = d :: rest ∧ Text.isPlainDigit d = true := by
  cases h with
  | decimal first _ _ _ => exact ⟨_, _, rfl, first⟩
  | based _ _ _ _ => exact ⟨_, _, rfl, by decide⟩

end Numeral

/-! #### Integers as texts -/

theorem Grouped.of_forall {ok : Char → Bool} {ds : List Char} (h : ∀ d ∈ ds, ok d = true) : Grouped ok ds ds := by
  induction ds with
  | nil => exact .nil
  | cons d ds ih => exact .digit (h d List.mem_cons_self) (ih fun e he => h e (List.mem_cons_of_mem _ he))

theorem isPlainDigit_of_isDigit {c : Char} (h : c.isDigit = true) : Text.isPlainDigit c = true := by
  simp only [Char.isDigit, Bool.and_eq_true, decide_eq_true_eq, ge_iff_le, UInt32.le_iff_toNat_le] at h
  exact isPlainDigit_iff.mpr h

theorem hexValue?_of_isPlainDigit {c : Char} (h : Text.isPlainDigit c = true) :
    Text.hexValue? c = some (c.toNat - 48) := by
  rw [isPlainDigit_iff] at h
  have hzero : Text.digitZero? c.toNat = some 48 := by simp [Text.digitZero?, h.1, h.2]
  have hvalue : (c.toNat - 48) % 10 = c.toNat - 48 := Nat.mod_eq_of_lt (by omega)
  rw [Text.hexValue?]
  simp [show ¬97 ≤ c.toNat by omega, show ¬65 ≤ c.toNat by omega, Text.decimalValue?, hzero, hvalue]

theorem digitsValue_toDigits (n : Nat) : Text.digitsValue 10 (Nat.toDigits 10 n) = n := by
  have hdigits : ∀ c ∈ Nat.toDigits 10 n, c.isDigit = true :=
    fun c hc => Nat.isDigit_of_mem_toDigits (by decide) (by decide) hc
  have hfold : ∀ (ds : List Char) (m : Nat), (∀ c ∈ ds, c.isDigit = true) →
      ds.foldl (fun m c => 10 * m + (Text.hexValue? c).getD 0) m = Nat.ofDigitChars 10 ds m := by
    intro ds
    induction ds with
    | nil => exact fun m _ => rfl
    | cons d ds ih =>
      intro m h
      have hd := hexValue?_of_isPlainDigit (isPlainDigit_of_isDigit (h d List.mem_cons_self))
      rw [List.foldl_cons, hd]
      exact ih _ fun c hc => h c (List.mem_cons_of_mem _ hc)
  exact (hfold _ 0 hdigits).trans (Nat.ofDigitChars_toDigits (by decide) (by decide))

/-- The digits of a number begin with a zero only if it is zero. -/
theorem toDigits_eq (n : Nat) : ∃ d ds, Nat.toDigits 10 n = d :: ds ∧ (d = '0' → ds = []) := by
  induction n using Nat.strongRecOn with
  | _ n ih =>
    by_cases hn : n < 10
    · rw [Nat.toDigits_of_lt_base hn]
      exact ⟨_, [], rfl, fun _ => rfl⟩
    · obtain ⟨d, ds, hdigits, hzero⟩ := ih (n / 10) (by omega)
      refine ⟨d, ds ++ [(n % 10).digitChar], ?_, fun hd => ?_⟩
      · rw [Nat.toDigits_of_base_le (by decide) (by omega), hdigits, List.cons_append]
      · have hvalue := digitsValue_toDigits (n / 10)
        rw [hdigits, hd, hzero hd] at hvalue
        have hpositive : 0 < n / 10 := by omega
        rw [← hvalue] at hpositive
        exact absurd hpositive (by decide)

theorem numeral_toDigits {n : Nat} (h : Text.hasDecimal n = true) : Numeral (Nat.toDigits 10 n) n := by
  have hdigits : ∀ c ∈ Nat.toDigits 10 n, Text.isPlainDigit c = true :=
    fun c hc => isPlainDigit_of_isDigit (Nat.isDigit_of_mem_toDigits (by decide) (by decide) hc)
  have hvalue := digitsValue_toDigits n
  obtain ⟨d, ds, heq, hzero⟩ := toDigits_eq n
  rw [heq] at hdigits hvalue ⊢
  have hall := @Numeral.decimal d ds ds (hdigits d List.mem_cons_self)
    (.of_forall fun c hc => hdigits c (List.mem_cons_of_mem _ hc))
    (fun hd c hc => by rw [hzero hd] at hc; cases hc) (by rw [hvalue]; exact h)
  rwa [hvalue] at hall

/-! ### Texts -/

/-- Blanks that may stand before a part of a formula. -/
def Gap (chars : List Char) : Prop := ∀ c ∈ chars, isGap c = true

theorem gap_nil : Gap [] := fun _ hc => nomatch hc

instance (chars : List Char) : Decidable (Gap chars) := List.decidableBAll _ chars

/--
The characters write the formula at the level: sums have the level 9, products 10, signed and single operands 11. No
more than `room` parentheses are open at once.
-/
inductive Printed (env : String → Option Int) : Nat → Nat → Formula → List Char → Prop
  | literal {room n : Nat} {gap cs : List Char} (blank : Gap gap) (numeral : Numeral cs n) :
    Printed env room 11 (.literal n) (gap ++ cs)
  | symbol {room : Nat} {name : String} {v : Int} {gap : List Char} (blank : Gap gap) (known : env name = some v) :
    Printed env room 11 (.symbol name) (gap ++ name.toList)
  | plus {room : Nat} {f : Formula} {gap cs : List Char} (blank : Gap gap) (operand : Printed env room 11 f cs) :
    Printed env room 11 (.plus f) (gap ++ '+' :: cs)
  | minus {room : Nat} {f : Formula} {gap cs : List Char} (blank : Gap gap) (operand : Printed env room 11 f cs) :
    Printed env room 11 (.minus f) (gap ++ '-' :: cs)
  | paren {room : Nat} {f : Formula} {gap gap' cs : List Char} (blank : Gap gap) (blank' : Gap gap')
    (inside : Printed env room 9 f cs) : Printed env (room + 1) 11 f (gap ++ '(' :: (cs ++ gap' ++ [')']))
  | binary {room : Nat} {o : Operation} {symbol : String} {left right : Formula} {gap cs ds : List Char}
    (spelled : symbol ∈ o.symbols) (blank : Gap gap) (first : Printed env room o.level left cs)
    (second : Printed env room (o.level + 1) right ds) :
    Printed env room o.level (.binary o left right) (cs ++ gap ++ symbol.toList ++ ds)
  | product {room : Nat} {f : Formula} {cs : List Char} (factor : Printed env room 11 f cs) :
    Printed env room 10 f cs
  | sum {room : Nat} {f : Formula} {cs : List Char} (product : Printed env room 10 f cs) :
    Printed env room 9 f cs

/-- Blanks that may stand before a part of a formula: in parentheses line ends are blanks as well. -/
def Blanks (inside : Bool) (chars : List Char) : Prop :=
  ∀ c ∈ chars, isGap c = true ∨ inside = true ∧ (c = '\n' ∨ c = '\r')

theorem blanks_nil {inside : Bool} : Blanks inside [] := fun _ hc => nomatch hc

instance (inside : Bool) (chars : List Char) : Decidable (Blanks inside chars) := List.decidableBAll _ chars

theorem Gap.blanks {inside : Bool} {chars : List Char} (h : Gap chars) : Blanks inside chars :=
  fun c hc => .inl (h c hc)

/--
The characters write the formula without symbols at the level, as `Printed` has it, and maybe on many lines: `inside`
says that a parenthesis is open.
-/
inductive Laid : Bool → Nat → Nat → Formula → List Char → Prop
  | literal {inside : Bool} {room n : Nat} {gap cs : List Char} (blank : Blanks inside gap) (numeral : Numeral cs n) :
    Laid inside room 11 (.literal n) (gap ++ cs)
  | plus {inside : Bool} {room : Nat} {f : Formula} {gap cs : List Char} (blank : Blanks inside gap)
    (operand : Laid inside room 11 f cs) : Laid inside room 11 (.plus f) (gap ++ '+' :: cs)
  | minus {inside : Bool} {room : Nat} {f : Formula} {gap cs : List Char} (blank : Blanks inside gap)
    (operand : Laid inside room 11 f cs) : Laid inside room 11 (.minus f) (gap ++ '-' :: cs)
  | paren {inside : Bool} {room : Nat} {f : Formula} {gap gap' cs : List Char} (blank : Blanks inside gap)
    (blank' : Blanks true gap') (within : Laid true room 9 f cs) :
    Laid inside (room + 1) 11 f (gap ++ '(' :: (cs ++ gap' ++ [')']))
  | binary {inside : Bool} {room : Nat} {o : Operation} {symbol : String} {left right : Formula}
    {gap cs ds : List Char} (spelled : symbol ∈ o.symbols) (blank : Blanks inside gap)
    (first : Laid inside room o.level left cs) (second : Laid inside room (o.level + 1) right ds) :
    Laid inside room o.level (.binary o left right) (cs ++ gap ++ symbol.toList ++ ds)
  | product {inside : Bool} {room : Nat} {f : Formula} {cs : List Char} (factor : Laid inside room 11 f cs) :
    Laid inside room 10 f cs
  | sum {inside : Bool} {room : Nat} {f : Formula} {cs : List Char} (product : Laid inside room 10 f cs) :
    Laid inside room 9 f cs

/-- What is printed on one line is laid out anywhere. -/
theorem Printed.laid {room level : Nat} {f : Formula} {cs : List Char}
    (h : Printed (fun _ => none) room level f cs) (inside : Bool) : Laid inside room level f cs := by
  induction h generalizing inside with
  | literal blank numeral => exact .literal blank.blanks numeral
  | symbol _ known => cases known
  | plus blank _ ih => exact .plus blank.blanks (ih inside)
  | minus blank _ ih => exact .minus blank.blanks (ih inside)
  | paren blank blank' _ ih => exact .paren blank.blanks blank'.blanks (ih true)
  | binary spelled blank _ _ ih ih' => exact .binary spelled blank.blanks (ih inside) (ih' inside)
  | product _ ih => exact .product (ih inside)
  | sum _ ih => exact .sum (ih inside)

end Bound

end InteropGen
