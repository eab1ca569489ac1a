import InteropGen.Bound.Parser

/-!
# Reading arithmetic

`Spelled level expr ts` says that the tokens spell the expression with the parentheses that the levels of the
operators ask for: 9 for sums, 10 for products, 11 for signed and single operands. `ofTokens?_spelled` says that the
parser reads such tokens as that expression.

The parser works with fuel, of which every round of climbing uses some. The induction is on the spelling and says,
for every fuel that is enough for the tokens, how far the parser has come behind them: it goes on to extend the
expression (`Reads`). What follows must neither bind more closely nor be applied to the last operand (`Stops`).
-/

namespace InteropGen.Bound

/-- The tokens spell the expression at the level. -/
inductive Spelled : Nat → Expr → List Token → Prop
  | int (value : Nat) : Spelled 11 (.int value) [.int value]
  | plus {e : Expr} {ts : List Token} (operand : Spelled 11 e ts) : Spelled 11 (.plus e) (.sym "+" :: ts)
  | minus {e : Expr} {ts : List Token} (operand : Spelled 11 e ts) : Spelled 11 (.minus e) (.sym "-" :: ts)
  | paren {e : Expr} {ts : List Token} (inside : Spelled 9 e ts) :
    Spelled 11 e (.sym "(" :: ts ++ [.sym ")"])
  | binary {level : Nat} {symbol : String} {operator : Operator} {left right : Expr} {ts us : List Token}
    (here : symbolOperator? symbol = some (level, some operator)) (low : level ≤ 10)
    (first : Spelled level left ts) (second : Spelled (level + 1) right us) :
    Spelled level (.binary operator left right) (ts ++ .sym symbol :: us)
  | product {e : Expr} {ts : List Token} (factor : Spelled 11 e ts) : Spelled 10 e ts
  | sum {e : Expr} {ts : List Token} (product : Spelled 10 e ts) : Spelled 9 e ts

/-- An operand at the level ends here: nothing is applied to it, and no operator binds it more closely. -/
structure Stops (level : Nat) (rest : List Token) : Prop where
  applied : ∀ text ∈ ["(", "[", "."], rest.head? ≠ some (.sym text)
  joined : ∀ joint, joint? rest = some joint → joint.level ≤ level ∧ joint.level ≤ 10

theorem Stops.mono {level level' : Nat} {rest : List Token} (h : Stops level rest) (hle : level ≤ level') :
    Stops level' rest :=
  ⟨h.applied, fun joint hjoint => ⟨Nat.le_trans (h.joined joint hjoint).1 hle, (h.joined joint hjoint).2⟩⟩

theorem stops_nil (level : Nat) : Stops level [] :=
  ⟨fun _ _ => by simp, fun _ hjoint => by simp [joint?] at hjoint⟩

theorem stops_close (level : Nat) (rest : List Token) : Stops level (.sym ")" :: rest) := by
  have hjoint : joint? (.sym ")" :: rest) = none := by simp [joint?, symbolOperator?]
  exact ⟨by simp, fun joint h => by simp [hjoint] at h⟩

/-- A number, a sign or a parenthesis: what an expression begins with. -/
def BeginsOperand (t : Token) : Prop :=
  (∃ value, t = .int value) ∨ t = .sym "+" ∨ t = .sym "-" ∨ t = .sym "("

namespace Spelled

variable {level : Nat} {e : Expr} {ts : List Token}

theorem exists_head (h : Spelled level e ts) : ∃ t rest, ts = t :: rest ∧ BeginsOperand t := by
  induction h with
  | int value => exact ⟨_, _, rfl, .inl ⟨value, rfl⟩⟩
  | plus _ _ => exact ⟨_, _, rfl, .inr (.inl rfl)⟩
  | minus _ _ => exact ⟨_, _, rfl, .inr (.inr (.inl rfl))⟩
  | paren _ _ => exact ⟨_, _, rfl, .inr (.inr (.inr rfl))⟩
  | binary _ _ _ _ ih _ =>
    obtain ⟨t, rest, rfl, ht⟩ := ih
    exact ⟨t, _, rfl, ht⟩
  | product _ ih => exact ih
  | sum _ ih => exact ih

end Spelled

/-! ### One round of the parser -/

variable {e : Expr} {ts rest : List Token} {level fuel : Nat}

/-- Nothing is added to an expression that no operator of the level follows. -/
theorem extend_stops (h : Stops level rest) :
    extend (fuel + 1) (level + 1) ⟨e, rest, false⟩ = some ⟨e, rest, false⟩ := by
  rw [extend]
  cases hjoint : joint? rest with
  | none => simp
  | some joint =>
    have hle := (h.joined joint hjoint).1
    simp [show ¬level + 1 ≤ joint.level by omega]

theorem extend_none (h : joint? rest = none) :
    extend (fuel + 1) level ⟨e, rest, false⟩ = some ⟨e, rest, false⟩ := by
  rw [extend]
  simp [h]

/-- An operator of the level adds its right operand. -/
theorem extend_binary {symbol : String} {operator : Operator} {here : Nat} {left : Expr} {right : Parsed}
    (hsymbol : symbolOperator? symbol = some (here, some operator)) (hlevel : level ≤ here)
    (hright : climb fuel (here + 1) rest = some right) :
    extend (fuel + 1) level ⟨left, .sym symbol :: rest, false⟩ =
      extend fuel level ⟨.binary operator left right.expr, right.rest, false⟩ := by
  have hpower : symbol ≠ "**" := by
    rintro rfl
    simp [symbolOperator?] at hsymbol
  have hjoint : joint? (.sym symbol :: rest) = some ⟨here, here + 1, some operator, rest⟩ := by
    simp [joint?, hpower, hsymbol]
  rw [extend]
  simp [hjoint, hlevel, hright, Joint.join]

theorem trailers_stops (h : Stops level rest) :
    trailers (fuel + 1) ⟨e, rest, false⟩ = some ⟨e, rest, false⟩ := by
  have hparen : rest.head? ≠ some (.sym "(") := h.applied _ (by simp)
  have hbracket : rest.head? ≠ some (.sym "[") := h.applied _ (by simp)
  have hpoint : rest.head? ≠ some (.sym ".") := h.applied _ (by simp)
  unfold trailers
  dsimp only
  split
  · exact absurd rfl hparen
  · exact absurd rfl hbracket
  · exact absurd rfl hpoint
  · exact absurd rfl hpoint
  · rfl

/-- An operand that is one atom. -/
theorem operand_atom {t : Token} (hsign : ∀ text ∈ ["+", "-", "~"], t ≠ .sym text)
    (hword : ∀ text, t ≠ .keyword text) (hatom : atom fuel (t :: ts) = some ⟨e, rest, false⟩)
    (h : Stops 11 rest) (hfuel : 0 < fuel) :
    operand (fuel + 2) level (t :: ts) = some ⟨e, rest, false⟩ := by
  obtain ⟨fuel, rfl⟩ : ∃ n, fuel = n + 1 := ⟨fuel - 1, by omega⟩
  have hplace : place (fuel + 2) (t :: ts) = some ⟨e, rest, false⟩ := by
    rw [place, hatom]
    exact trailers_stops h
  unfold operand
  split
  · next heq => exact absurd (List.cons.inj heq).1 (hsign _ (by simp))
  · next heq => exact absurd (List.cons.inj heq).1 (hsign _ (by simp))
  · next heq => exact absurd (List.cons.inj heq).1 (hsign _ (by simp))
  · next heq => exact absurd (List.cons.inj heq).1 (hword _)
  · next heq => exact absurd (List.cons.inj heq).1 (hword _)
  · exact hplace

theorem expression_eq {t : Token} (ht : BeginsOperand t) (hrest : ∀ after, rest ≠ .keyword "if" :: after)
    (hclimb : climb fuel 1 (t :: ts) = some ⟨e, rest, false⟩) :
    expression (fuel + 1) (t :: ts) = some ⟨e, rest, false⟩ := by
  have hlambda : ∀ after, t :: ts ≠ .keyword "lambda" :: after := by
    rintro after heq
    obtain rfl := (List.cons.inj heq).1
    rcases ht with ⟨value, ht⟩ | ht | ht | ht
    all_goals cases ht
  unfold expression
  split
  · next heq => exact absurd heq (hlambda _)
  · rw [hclimb]
    simp only [Option.bind_eq_bind, Option.bind_some]
    rfl

/-! ### Whole spellings -/

/--
With fuel enough for the tokens the parser reads the expression, at any level that is not higher, and goes on to
extend it; of the fuel it has then used no more than one for each token.
-/
def Reads (level : Nat) (e : Expr) (ts : List Token) : Prop :=
  ∃ used ≤ ts.length, 0 < used ∧ ∀ {from' : Nat} {rest : List Token} {fuel : Nat}, from' ≤ level → Stops level rest →
    8 * ts.length ≤ fuel → climb fuel from' (ts ++ rest) = extend (fuel - used) from' ⟨e, rest, false⟩

/-- It is enough to read one operand. -/
theorem reads_of_operand (hlength : 0 < ts.length)
    (h : ∀ {from' : Nat} {rest : List Token} {fuel : Nat}, Stops 11 rest → 8 * ts.length ≤ fuel + 1 →
      operand fuel from' (ts ++ rest) = some ⟨e, rest, false⟩) : Reads 11 e ts := by
  refine ⟨1, hlength, Nat.one_pos, fun {from' rest fuel} _ hstops hfuel => ?_⟩
  obtain ⟨fuel, rfl⟩ : ∃ n, fuel = n + 1 := ⟨fuel - 1, by omega⟩
  rw [climb, h hstops hfuel]
  rfl

/-- Behind a whole operand the parser has it, if no operator of its level follows. -/
theorem Reads.climb_eq (h : Reads (level + 1) e ts) (hstops : Stops level rest)
    (hfuel : 8 * ts.length ≤ fuel) : climb fuel (level + 1) (ts ++ rest) = some ⟨e, rest, false⟩ := by
  obtain ⟨used, hused, hpos, hreads⟩ := h
  rw [hreads (Nat.le_refl _) (hstops.mono (Nat.le_succ _)) hfuel]
  obtain ⟨left, hleft⟩ : ∃ n, fuel - used = n + 1 := ⟨fuel - used - 1, by omega⟩
  rw [hleft]
  exact extend_stops hstops

theorem Stops.pred (h : Stops 11 rest) : Stops 10 rest :=
  ⟨h.applied, fun joint hjoint => ⟨(h.joined joint hjoint).2, (h.joined joint hjoint).2⟩⟩

/-- An expression in parentheses is read as one. -/
theorem group_eq (h : Spelled 9 e ts) (hreads : Reads 9 e ts) (hfuel : 8 * ts.length + 3 ≤ fuel) :
    group fuel (ts ++ .sym ")" :: rest) = some ⟨e, rest, false⟩ := by
  obtain ⟨used, hused, hpos, hreads⟩ := hreads
  obtain ⟨fuel, rfl⟩ : ∃ n, fuel = n + 3 := ⟨fuel - 3, by omega⟩
  have hclimb : climb fuel 1 (ts ++ .sym ")" :: rest) = some ⟨e, .sym ")" :: rest, false⟩ := by
    rw [hreads (by omega) (stops_close 9 rest) (by omega)]
    obtain ⟨left, hleft⟩ : ∃ n, fuel - used = n + 1 := ⟨fuel - used - 1, by omega⟩
    rw [hleft]
    exact extend_none (by simp [joint?, symbolOperator?])
  obtain ⟨t, more, rfl, ht⟩ := h.exists_head
  have hexpression : expression (fuel + 1) (t :: more ++ .sym ")" :: rest) =
      some ⟨e, .sym ")" :: rest, false⟩ := expression_eq ht (by simp) hclimb
  have hnamed : named (fuel + 2) (t :: more ++ .sym ")" :: rest) = some ⟨e, .sym ")" :: rest, false⟩ := by
    rcases ht with ⟨value, rfl⟩ | rfl | rfl | rfl
    all_goals
      rw [List.cons_append] at hexpression ⊢
      simp [named, hexpression]
  rcases ht with ⟨value, rfl⟩ | rfl | rfl | rfl
  all_goals
    rw [List.cons_append] at hnamed ⊢
    simp [group, hnamed]

theorem Spelled.reads (h : Spelled level e ts) : Reads level e ts := by
  induction h with
  | int value =>
    refine reads_of_operand Nat.one_pos fun {from' rest fuel} hstops hfuel => ?_
    obtain ⟨fuel, rfl⟩ : ∃ n, fuel = n + 3 := ⟨fuel - 3, by simp at hfuel; omega⟩
    exact operand_atom (by simp) (by simp) (by rw [atom]; rfl) hstops (Nat.succ_pos _)
  | @plus e ts _ ih =>
    refine reads_of_operand (Nat.succ_pos _) fun {from' rest fuel} hstops hfuel => ?_
    rw [List.length_cons] at hfuel
    obtain ⟨fuel, rfl⟩ : ∃ n, fuel = n + 1 := ⟨fuel - 1, by omega⟩
    have hclimb : climb fuel 11 (ts ++ rest) = some ⟨e, rest, false⟩ :=
      ih.climb_eq hstops.pred (by omega)
    rw [List.cons_append, operand, hclimb]
    rfl
  | @minus e ts _ ih =>
    refine reads_of_operand (Nat.succ_pos _) fun {from' rest fuel} hstops hfuel => ?_
    rw [List.length_cons] at hfuel
    obtain ⟨fuel, rfl⟩ : ∃ n, fuel = n + 1 := ⟨fuel - 1, by omega⟩
    have hclimb : climb fuel 11 (ts ++ rest) = some ⟨e, rest, false⟩ :=
      ih.climb_eq hstops.pred (by omega)
    rw [List.cons_append, operand, hclimb]
    rfl
  | @paren e ts inside ih =>
    refine reads_of_operand (Nat.succ_pos _) fun {from' rest fuel} hstops hfuel => ?_
    rw [List.length_append, List.length_cons, List.length_singleton] at hfuel
    obtain ⟨fuel, rfl⟩ : ∃ n, fuel = n + 3 := ⟨fuel - 3, by omega⟩
    have hgroup : group fuel (ts ++ .sym ")" :: rest) = some ⟨e, rest, false⟩ :=
      group_eq inside ih (by omega)
    have hatom : atom (fuel + 1) (.sym "(" :: (ts ++ .sym ")" :: rest)) = some ⟨e, rest, false⟩ := by
      simp [atom, hgroup]
    have hall : .sym "(" :: ts ++ [.sym ")"] ++ rest = Token.sym "(" :: (ts ++ .sym ")" :: rest) := by
      simp
    rw [hall]
    exact operand_atom (by simp) (by simp) hatom hstops (Nat.succ_pos _)
  | @binary level symbol operator left right ts us here low first second ihFirst ihSecond =>
    obtain ⟨used, hused, hpos, hreads⟩ := ihFirst
    refine ⟨used + 1, by simp; omega, Nat.succ_pos _, fun {from' rest fuel} hfrom hstops hfuel => ?_⟩
    rw [List.length_append, List.length_cons] at hfuel
    obtain ⟨fuel', hfuel'⟩ : ∃ n, fuel - used = n + 1 := ⟨fuel - used - 1, by omega⟩
    have hleft : Stops level (.sym symbol :: (us ++ rest)) := by
      have hpower : symbol ≠ "**" := by
        rintro rfl
        simp [symbolOperator?] at here
      refine ⟨fun text htext heq => ?_, fun joint hjoint => ?_⟩
      · obtain rfl : symbol = text := by simpa using heq
        simp only [List.mem_cons, List.not_mem_nil, or_false] at htext
        rcases htext with rfl | rfl | rfl
        all_goals simp [symbolOperator?] at here
      · simp only [joint?, hpower, if_false, here, Option.map_some, Option.some.injEq] at hjoint
        subst hjoint
        exact ⟨Nat.le_refl _, low⟩
    have hright : climb fuel' (level + 1) (us ++ rest) = some ⟨right, rest, false⟩ :=
      ihSecond.climb_eq hstops (by omega)
    rw [List.append_assoc, List.cons_append, hreads hfrom hleft (by omega), hfuel',
      extend_binary here hfrom hright]
    exact congrArg (extend · from' _) (by omega)
  | product _ ih =>
    obtain ⟨used, hused, hpos, hreads⟩ := ih
    exact ⟨used, hused, hpos, fun hfrom hstops => hreads (by omega) (hstops.mono (by omega))⟩
  | sum _ ih =>
    obtain ⟨used, hused, hpos, hreads⟩ := ih
    exact ⟨used, hused, hpos, fun hfrom hstops => hreads (by omega) (hstops.mono (by omega))⟩

theorem topLevel_nil (fuel : Nat) (e : Expr) : topLevel (fuel + 1) e [] = some e := by
  rw [topLevel]
  exact if_pos rfl

/-- The parser reads a spelled expression as it is meant. -/
theorem ofTokens?_spelled (h : Spelled 9 e ts) : Expr.ofTokens? ts = some e := by
  obtain ⟨used, hused, hpos, hreads⟩ := h.reads
  have hclimb : climb (24 * ts.length + 23) 1 ts = some ⟨e, [], false⟩ := by
    have hall := @hreads 1 [] (24 * ts.length + 23) (by omega) (stops_nil 9) (by omega)
    rw [List.append_nil] at hall
    obtain ⟨left, hleft⟩ : ∃ n, 24 * ts.length + 23 - used = n + 1 :=
      ⟨24 * ts.length + 23 - used - 1, by omega⟩
    rw [hall, hleft]
    exact extend_none rfl
  have hexpression : expression (24 * ts.length + 24) ts = some ⟨e, [], false⟩ := by
    obtain ⟨t, more, rfl, ht⟩ := h.exists_head
    exact expression_eq ht (by simp) hclimb
  unfold Expr.ofTokens?
  dsimp only
  rw [hexpression]
  exact topLevel_nil (24 * ts.length + 23) e

end InteropGen.Bound
