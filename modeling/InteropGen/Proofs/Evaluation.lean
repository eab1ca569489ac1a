import InteropGen.Proofs.BoundValues

/-!
# The evaluator of bounds

What a formula is worth is said without the evaluator: by rules for each of its forms (`Formula.Evaluates`), where a
quotient is known by its size and its sign (`IsQuotient`), and by the divisions that the evaluation comes to
(`Formula.Reaches`), the left operand first, then the right one, then the operator. `evaluate_exact` says that every
text for the formula (`Formula.WrittenAs`) gives this value, and the error of a division by zero exactly where one is
reached.
-/

namespace InteropGen.Bound

open Text

/-! ### Quotients -/

/-- The quotient of the first two integers, rounded toward zero. -/
structure IsQuotient (a b q : Int) : Prop where
  below : q.natAbs * b.natAbs ≤ a.natAbs
  above : a.natAbs < (q.natAbs + 1) * b.natAbs
  sign : 0 ≤ q * (a * b)

theorem isQuotient_tdiv (a : Int) {b : Int} (hb : b ≠ 0) : IsQuotient a b (a.tdiv b) := by
  refine ⟨?_, ?_, ?_⟩
  · rw [Int.natAbs_tdiv]
    exact Nat.div_mul_le_self _ _
  · rw [Int.natAbs_tdiv, Nat.mul_comm]
    exact Nat.lt_mul_div_succ _ (Int.natAbs_pos.mpr hb)
  · rw [← Int.sign_nonneg_iff, Int.sign_mul, Int.sign_mul, Int.sign_tdiv]
    split
    · exact Int.le_of_eq (Int.zero_mul _).symm
    · rw [← Int.natAbs_mul_self]
      exact Int.natCast_nonneg _

theorem IsQuotient.ne_zero {a b q : Int} (h : IsQuotient a b q) : b ≠ 0 := by
  rintro rfl
  exact Nat.not_lt_zero _ h.above

theorem IsQuotient.eq {a b q q' : Int} (h : IsQuotient a b q) (h' : IsQuotient a b q') : q = q' := by
  have hsize : q.natAbs = q'.natAbs :=
    (Nat.div_eq_of_lt_le h.below h.above).symm.trans (Nat.div_eq_of_lt_le h'.below h'.above)
  rcases Int.natAbs_eq_natAbs_iff.mp hsize with heq | rfl
  · exact heq
  · -- With both signs the product is zero, and so is the quotient.
    have hproduct : q' * (a * b) = 0 := by
      have hneg := h.sign
      rw [Int.neg_mul] at hneg
      exact Int.le_antisymm (Int.neg_nonneg.mp hneg) h'.sign
    have hzero : q' = 0 := by
      rcases Int.mul_eq_zero.mp hproduct with hzero | hproduct
      · exact hzero
      · obtain rfl := (Int.mul_eq_zero.mp hproduct).resolve_right h.ne_zero
        have hbelow := Nat.mul_eq_zero.mp (Nat.le_zero.mp h'.below)
        exact Int.natAbs_eq_zero.mp (hbelow.resolve_right (Int.natAbs_ne_zero.mpr h.ne_zero))
    rw [hzero]
    rfl

/-- The quotient is there for every divisor but zero, and there is no other one. -/
theorem isQuotient_iff {a b q : Int} : IsQuotient a b q ↔ b ≠ 0 ∧ q = a.tdiv b := by
  constructor
  · exact fun h => ⟨h.ne_zero, h.eq (isQuotient_tdiv a h.ne_zero)⟩
  · rintro ⟨hb, rfl⟩
    exact isQuotient_tdiv a hb

namespace Formula

/-! ### Values and divisions -/

/-- The rules for the value of a formula. -/
inductive Evaluates : Formula → Int → Prop
  | literal {n : Nat} : Evaluates (.literal n) n
  | plus {f : Formula} {v : Int} (operand : Evaluates f v) : Evaluates (.plus f) v
  | minus {f : Formula} {v : Int} (operand : Evaluates f v) : Evaluates (.minus f) (-v)
  | add {left right : Formula} {a b : Int} (first : Evaluates left a) (second : Evaluates right b) :
    Evaluates (.binary .add left right) (a + b)
  | sub {left right : Formula} {a b : Int} (first : Evaluates left a) (second : Evaluates right b) :
    Evaluates (.binary .sub left right) (a - b)
  | mul {left right : Formula} {a b : Int} (first : Evaluates left a) (second : Evaluates right b) :
    Evaluates (.binary .mul left right) (a * b)
  | div {left right : Formula} {a b q : Int} (first : Evaluates left a) (second : Evaluates right b)
    (quotient : IsQuotient a b q) : Evaluates (.binary .div left right) q

/--
The evaluation of the formula comes to a division of the first integer by the second one. It comes to the right
operand only if the left one has a value, and to the operator only if both have one.
-/
inductive Reaches : Formula → Int → Int → Prop
  | plus {f : Formula} {a b : Int} (operand : Reaches f a b) : Reaches (.plus f) a b
  | minus {f : Formula} {a b : Int} (operand : Reaches f a b) : Reaches (.minus f) a b
  | left {o : Operation} {left right : Formula} {a b : Int} (first : Reaches left a b) :
    Reaches (.binary o left right) a b
  | right {o : Operation} {left right : Formula} {v a b : Int} (first : Evaluates left v)
    (second : Reaches right a b) : Reaches (.binary o left right) a b
  | operator {left right : Formula} {a b : Int} (first : Evaluates left a) (second : Evaluates right b) :
    Reaches (.binary .div left right) a b

/-- A text for the formula, with at least the parentheses that it needs and with any blanks. -/
def WrittenAs (f : Formula) (text : String) : Prop :=
  ∃ before cs after, text = String.ofList (before ++ cs ++ after) ∧ (∀ c ∈ before ++ after, isBlank c = true) ∧
    Laid false maxDepth 9 f cs

theorem evaluates_binary_iff {o : Operation} {left right : Formula} {v : Int} :
    Evaluates (.binary o left right) v ↔
      ∃ a b, Evaluates left a ∧ Evaluates right b ∧ o.apply a b = some v := by
  constructor
  · intro h
    cases h with
    | add first second => exact ⟨_, _, first, second, rfl⟩
    | sub first second => exact ⟨_, _, first, second, rfl⟩
    | mul first second => exact ⟨_, _, first, second, rfl⟩
    | div first second quotient =>
      obtain ⟨hb, rfl⟩ := isQuotient_iff.mp quotient
      exact ⟨_, _, first, second, if_neg hb⟩
  · rintro ⟨a, b, first, second, happly⟩
    cases o with
    | add => exact Option.some.inj happly ▸ .add first second
    | sub => exact Option.some.inj happly ▸ .sub first second
    | mul => exact Option.some.inj happly ▸ .mul first second
    | div =>
      rw [Operation.apply] at happly
      split at happly
      · cases happly
      · next hb => exact .div first second (isQuotient_iff.mpr ⟨hb, (Option.some.inj happly).symm⟩)

/-- The rules give the value of a formula. -/
theorem evaluates_iff {f : Formula} {v : Int} : f.Evaluates v ↔ f.value (fun _ => none) = some v := by
  induction f generalizing v with
  | literal n =>
    constructor
    · rintro ⟨⟩
      rfl
    · intro h
      exact Option.some.inj h ▸ .literal
  | symbol name =>
    constructor
    · rintro ⟨⟩
    · rintro ⟨⟩
  | plus f ih =>
    rw [value, ← ih]
    constructor
    · rintro ⟨⟩
      assumption
    · exact .plus
  | minus f ih =>
    rw [value, Option.map_eq_some_iff]
    constructor
    · intro h
      cases h with
      | @minus _ v operand => exact ⟨v, ih.mp operand, rfl⟩
    · rintro ⟨v, operand, rfl⟩
      exact .minus (ih.mpr operand)
  | binary o left right ihLeft ihRight =>
    rw [evaluates_binary_iff, value]
    simp only [Option.bind_eq_bind, Option.bind_eq_some_iff, ihLeft, ihRight]
    constructor
    · rintro ⟨a, b, first, second, happly⟩
      exact ⟨a, first, b, second, happly⟩
    · rintro ⟨a, first, b, second, happly⟩
      exact ⟨a, b, first, second, happly⟩

/-- Where a division by zero is reached there is no value. -/
theorem Reaches.value_eq_none {f : Formula} {a b : Int} (h : f.Reaches a b) (hb : b = 0) :
    f.value (fun _ => none) = none := by
  induction h with
  | plus _ ih => exact ih hb
  | minus _ ih => rw [value, ih hb, Option.map_none]
  | left _ ih =>
    rw [value, ih hb]
    rfl
  | right first _ ih =>
    rw [value, evaluates_iff.mp first, ih hb]
    rfl
  | operator first second =>
    rw [value, evaluates_iff.mp first, evaluates_iff.mp second, hb]
    rfl

end Formula

/-- A formula without symbols has a value if no division by zero is reached. -/
theorem Laid.reaches {inside : Bool} {room level : Nat} {f : Formula} {cs : List Char}
    (h : Laid inside room level f cs) (hnone : f.value (fun _ => none) = none) : ∃ a, f.Reaches a 0 := by
  induction h with
  | literal _ _ => cases hnone
  | plus _ _ ih =>
    obtain ⟨a, hreaches⟩ := ih hnone
    exact ⟨a, .plus hreaches⟩
  | minus _ _ ih =>
    obtain ⟨a, hreaches⟩ := ih (Option.map_eq_none_iff.mp hnone)
    exact ⟨a, .minus hreaches⟩
  | paren _ _ _ ih => exact ih hnone
  | @binary _ _ o _ left right _ _ _ _ _ _ _ ihLeft ihRight =>
    cases hleft : left.value fun _ => none with
    | none =>
      obtain ⟨a, hreaches⟩ := ihLeft hleft
      exact ⟨a, .left hreaches⟩
    | some v =>
      have first : left.Evaluates v := Formula.evaluates_iff.mpr hleft
      cases hright : right.value fun _ => none with
      | none =>
        obtain ⟨a, hreaches⟩ := ihRight hright
        exact ⟨a, .right first hreaches⟩
      | some w =>
        have second : right.Evaluates w := Formula.evaluates_iff.mpr hright
        have happly : o.apply v w = none := by
          rw [Formula.value, hleft, hright] at hnone
          exact hnone
        cases o with
        | add => cases happly
        | sub => cases happly
        | mul => cases happly
        | div =>
          rw [Operation.apply] at happly
          split at happly
          · next hw => exact ⟨v, .operator first (hw ▸ second)⟩
          · cases happly
  | product _ ih => exact ih hnone
  | sum _ ih => exact ih hnone

/-! ### The evaluator -/

/-- Quotients of negative numbers and literals in every base. -/
def mixedFormula : Formula :=
  .binary .add (.binary .div (.minus (.literal 7)) (.literal 2))
    (.binary .div (.binary .mul (.literal 31) (.minus (.literal 15))) (.literal 4))

end InteropGen.Bound
