import InteropGen.Proofs.Lexing

/-!
# The value of a formula in a text

A formula that is laid out without symbols is read as the formula that it is and comes to its value
(`Laid.evaluate`). The blanks around it are stripped (`Laid.strip`), its line ends are written as one character
(`Laid.unifyLineEnds`), its characters are split into tokens that spell it, and the evaluation of the expression goes
from left to right as that of the formula does (`Laid.eval_eq`).
-/

namespace InteropGen.Bound

open Text

/-! ### Blanks around a formula -/

theorem Blanks.isBlank {inside : Bool} {gap : List Char} (h : Blanks inside gap) : ∀ c ∈ gap, isBlank c = true := by
  intro c hc
  rcases h c hc with hgap | ⟨-, rfl | rfl⟩
  · have hall : ∀ c ∈ [' ', '\t', '\x0c'], Text.isBlank c = true :=
      List.all_iff_forall_prop.mp (by decide)
    exact hall c (isGap_iff.mp hgap)
  · decide
  · decide

/-- Before its first part a formula has nothing but blanks. -/
theorem Laid.dropWhile {inside : Bool} {room level : Nat} {f : Formula} {cs : List Char}
    (h : Laid inside room level f cs) : ∃ cs', Laid inside room level f cs' ∧
      ∀ rest, (cs ++ rest).dropWhile isBlank = cs' ++ rest := by
  have hblanks : ∀ {inside : Bool} {gap : List Char} {c : Char} {part : List Char}, Blanks inside gap →
      isBlank c = false → ∀ rest, (gap ++ c :: part ++ rest).dropWhile isBlank = c :: part ++ rest := by
    intro inside gap c part hgap hc rest
    rw [List.append_assoc, List.dropWhile_append_of_pos hgap.isBlank, List.cons_append,
      List.dropWhile_cons_of_neg (by simp [hc])]
  induction h with
  | literal blank numeral =>
    obtain ⟨d, tail, rfl, -⟩ := numeral.exists_digit
    exact ⟨_, .literal blanks_nil numeral, hblanks blank (numeral.isPlainWord d List.mem_cons_self).isBlank⟩
  | plus blank operand _ => exact ⟨_, .plus blanks_nil operand, hblanks blank (by decide)⟩
  | minus blank operand _ => exact ⟨_, .minus blanks_nil operand, hblanks blank (by decide)⟩
  | paren blank blank' within _ => exact ⟨_, .paren blanks_nil blank' within, hblanks blank (by decide)⟩
  | binary spelled blank _ second ih _ =>
    obtain ⟨cs', hfirst, hdrop⟩ := ih
    refine ⟨_, .binary spelled blank hfirst second, fun rest => ?_⟩
    simp only [List.append_assoc, hdrop]
  | product _ ih =>
    obtain ⟨cs', hfactor, hdrop⟩ := ih
    exact ⟨cs', .product hfactor, hdrop⟩
  | sum _ ih =>
    obtain ⟨cs', hproduct, hdrop⟩ := ih
    exact ⟨cs', .sum hproduct, hdrop⟩

/-- A formula ends in a digit or in a closing parenthesis. -/
theorem Laid.exists_last {inside : Bool} {room level : Nat} {f : Formula} {cs : List Char}
    (h : Laid inside room level f cs) : ∃ front c, cs = front ++ [c] ∧ isBlank c = false := by
  induction h with
  | @literal inside room n gap cs blank numeral =>
    obtain ⟨d, tail, hcs, -⟩ := numeral.exists_digit
    rcases List.eq_nil_or_concat cs with rfl | ⟨front, c, rfl⟩
    · cases hcs
    · exact ⟨gap ++ front, c, by simp, (numeral.isPlainWord c (by simp)).isBlank⟩
  | plus _ _ ih =>
    obtain ⟨front, c, rfl, hc⟩ := ih
    exact ⟨_, c, (List.append_assoc _ ('+' :: front) [c]).symm, hc⟩
  | minus _ _ ih =>
    obtain ⟨front, c, rfl, hc⟩ := ih
    exact ⟨_, c, (List.append_assoc _ ('-' :: front) [c]).symm, hc⟩
  | @paren _ _ _ gap gap' cs _ _ _ _ =>
    exact ⟨gap ++ '(' :: (cs ++ gap'), ')', by simp, by decide⟩
  | binary _ _ _ _ _ ih =>
    obtain ⟨front, c, rfl, hc⟩ := ih
    exact ⟨_, c, (List.append_assoc _ front [c]).symm, hc⟩
  | product _ ih => exact ih
  | sum _ ih => exact ih

theorem dropEndWhile_append {front blanks : List Char} {c : Char} {p : Char → Bool} (hc : p c = false)
    (hblanks : ∀ d ∈ blanks, p d = true) : dropEndWhile p (front ++ [c] ++ blanks) = front ++ [c] := by
  rw [dropEndWhile, List.reverse_append, List.dropWhile_append_of_pos fun d hd => hblanks d (List.mem_reverse.mp hd),
    List.reverse_append, List.reverse_singleton, List.singleton_append, List.dropWhile_cons_of_neg (by simp [hc]),
    List.reverse_cons, List.reverse_reverse]

theorem strip_eq {text : String} (h : ∀ c ∈ text.toList, isBlank c = false) : Text.strip text = text := by
  have hnone : ∀ {chars : List Char}, (∀ c ∈ chars, isBlank c = false) → chars.dropWhile isBlank = chars := by
    intro chars hchars
    cases chars with
    | nil => rfl
    | cons c rest => rw [List.dropWhile_cons_of_neg (by simp [hchars c List.mem_cons_self])]
  rw [Text.strip, hnone h, dropEndWhile, hnone fun c hc => h c (List.mem_reverse.mp hc), List.reverse_reverse,
    String.ofList_toList]

/-- Blanks around a formula are stripped. -/
theorem Laid.strip {inside : Bool} {room level : Nat} {f : Formula} {before cs after : List Char}
    (h : Laid inside room level f cs) (hbefore : ∀ c ∈ before, isBlank c = true)
    (hafter : ∀ c ∈ after, isBlank c = true) : ∃ cs', Laid inside room level f cs' ∧
      Text.strip (String.ofList (before ++ cs ++ after)) = String.ofList cs' := by
  obtain ⟨cs', hlaid, hdrop⟩ := h.dropWhile
  obtain ⟨front, c, rfl, hc⟩ := hlaid.exists_last
  refine ⟨_, hlaid, ?_⟩
  rw [Text.strip, String.toList_ofList, List.append_assoc, List.dropWhile_append_of_pos hbefore, hdrop,
    dropEndWhile_append hc hafter]

/-! ### Line ends -/

theorem unifyLineEnds_append_of_notMem {part : List Char} (h : '\r' ∉ part) (rest : List Char) :
    unifyLineEnds (part ++ rest) = part ++ unifyLineEnds rest := by
  induction part with
  | nil => rfl
  | cons c part ih =>
    rw [List.mem_cons, not_or] at h
    rw [List.cons_append, unifyLineEnds_cons (Ne.symm h.1), ih h.2]
    rfl

theorem unifyLineEnds_eq {chars : List Char} (h : '\r' ∉ chars) : unifyLineEnds chars = chars := by
  simpa using unifyLineEnds_append_of_notMem h []

/-- Only a line end of two characters could be torn apart. -/
theorem unifyLineEnds_append_cons (front : List Char) {c : Char} (hc : c ≠ '\n') (rest : List Char) :
    unifyLineEnds (front ++ c :: rest) = unifyLineEnds front ++ unifyLineEnds (c :: rest) := by
  fun_induction unifyLineEnds front with
  | case1 => rfl
  | case2 front ih => exact congrArg ('\n' :: ·) ih
  | case3 front hne ih =>
    have hhead : (front ++ c :: rest).head? ≠ some '\n' := by
      intro heq
      cases front with
      | nil => exact hc (Option.some.inj heq)
      | cons d front =>
        obtain rfl := Option.some.inj heq
        exact hne front rfl
    rw [List.cons_append, unifyLineEnds_return hhead, ih]
    rfl
  | case4 d front _ hd ih =>
    rw [List.cons_append, unifyLineEnds_cons hd, ih]
    rfl

/-- Around a part without blanks nothing is torn apart. -/
theorem unifyLineEnds_append_part (front : List Char) {part : List Char} (hsome : part ≠ [])
    (hpart : ∀ c ∈ part, Text.isBlank c = false) (rest : List Char) :
    unifyLineEnds (front ++ (part ++ rest)) = unifyLineEnds front ++ (part ++ unifyLineEnds rest) := by
  have hreturn : '\r' ∉ part := fun hmem => absurd (hpart _ hmem) (by decide)
  rw [← unifyLineEnds_append_of_notMem hreturn]
  cases part with
  | nil => exact absurd rfl hsome
  | cons c part =>
    refine unifyLineEnds_append_cons front ?_ (part ++ rest)
    rintro rfl
    exact absurd (hpart _ List.mem_cons_self) (by decide)

theorem unifyLineEnds_append_end (front : List Char) {part : List Char} (hsome : part ≠ [])
    (hpart : ∀ c ∈ part, Text.isBlank c = false) : unifyLineEnds (front ++ part) = unifyLineEnds front ++ part := by
  simpa using unifyLineEnds_append_part front hsome hpart []

theorem mem_unifyLineEnds {c : Char} {chars : List Char} (h : c ∈ unifyLineEnds chars) :
    c ≠ '\r' ∧ (c ∈ chars ∨ c = '\n' ∧ '\r' ∈ chars) := by
  fun_induction unifyLineEnds chars with
  | case1 => cases h
  | case2 rest ih => grind
  | case3 rest _ ih => grind
  | case4 d rest _ hne ih => grind

theorem not_mem_unifyLineEnds (chars : List Char) : '\r' ∉ unifyLineEnds chars :=
  fun h => (mem_unifyLineEnds h).1 rfl

theorem Blanks.unifyLineEnds {inside : Bool} {gap : List Char} (h : Blanks inside gap) :
    Blanks inside (unifyLineEnds gap) := by
  intro c hc
  obtain ⟨-, hc | ⟨rfl, hreturn⟩⟩ := mem_unifyLineEnds hc
  · exact h c hc
  · exact .inr ⟨((h _ hreturn).resolve_left (by decide)).1, .inl rfl⟩

theorem Laid.unifyLineEnds_append {inside : Bool} {room level : Nat} {f : Formula} {cs : List Char}
    (h : Laid inside room level f cs) (rest : List Char) :
    Bound.unifyLineEnds (cs ++ rest) = Bound.unifyLineEnds cs ++ Bound.unifyLineEnds rest := by
  obtain ⟨front, c, rfl, hc⟩ := h.exists_last
  have hpart : ∀ d ∈ [c], Text.isBlank d = false := by simpa using hc
  rw [List.append_assoc, unifyLineEnds_append_part front (List.cons_ne_nil c []) hpart,
    unifyLineEnds_append_end front (List.cons_ne_nil c []) hpart, List.append_assoc]

/-- A layout stays one when its line ends are written as one character. -/
theorem Laid.unifyLineEnds {inside : Bool} {room level : Nat} {f : Formula} {cs : List Char}
    (h : Laid inside room level f cs) : Laid inside room level f (unifyLineEnds cs) := by
  have hsign : ∀ {sign : Char}, sign ∈ ['+', '-', '*', '/', '(', ')'] → ∀ c ∈ [sign], Text.isBlank c = false := by
    intro sign hsign c hc
    have hall : ∀ c ∈ ['+', '-', '*', '/', '(', ')'], Text.isBlank c = false :=
      List.all_iff_forall_prop.mp (by decide)
    exact List.mem_singleton.mp hc ▸ hall sign hsign
  induction h with
  | @literal inside room n gap cs blank numeral =>
    have hsome : cs ≠ [] := by
      obtain ⟨d, tail, rfl, -⟩ := numeral.exists_digit
      exact List.cons_ne_nil d tail
    rw [unifyLineEnds_append_end gap hsome fun c hc => (numeral.isPlainWord c hc).isBlank]
    exact .literal blank.unifyLineEnds numeral
  | plus blank _ ih =>
    rw [← List.singleton_append, unifyLineEnds_append_part _ (by simp) (hsign (by decide))]
    exact .plus blank.unifyLineEnds ih
  | minus blank _ ih =>
    rw [← List.singleton_append, unifyLineEnds_append_part _ (by simp) (hsign (by decide))]
    exact .minus blank.unifyLineEnds ih
  | @paren inside room f gap gap' cs blank blank' within ih =>
    rw [← List.singleton_append, unifyLineEnds_append_part _ (by simp) (hsign (by decide)), List.append_assoc,
      within.unifyLineEnds_append, unifyLineEnds_append_end gap' (List.cons_ne_nil ')' []) (hsign (by decide)),
      ← List.append_assoc (Bound.unifyLineEnds cs)]
    exact .paren blank.unifyLineEnds blank'.unifyLineEnds ih
  | @binary inside room o symbol left right gap cs ds spelled blank first _ ih ih' =>
    have hall : ∀ o : Operation, ∀ symbol ∈ o.symbols, symbol.toList.all (!Text.isBlank ·) = true := by
      rintro (_ | _ | _ | _) <;> decide
    have hplain : ∀ c ∈ symbol.toList, Text.isBlank c = false := by simpa using hall o symbol spelled
    have hsome : symbol.toList ≠ [] := by
      obtain ⟨sign, rest, heq, -⟩ := exists_sign spelled
      rw [heq]
      exact List.cons_ne_nil sign rest
    rw [List.append_assoc, List.append_assoc, first.unifyLineEnds_append, unifyLineEnds_append_part gap hsome hplain,
      ← List.append_assoc, ← List.append_assoc]
    exact .binary spelled blank.unifyLineEnds ih ih'
  | product _ ih => exact .product ih
  | sum _ ih => exact .sum ih

/-! ### Values -/

/-- The evaluation works on the formula that is read. -/
theorem Laid.eval_eq {inside : Bool} {room level : Nat} {f : Formula} {cs : List Char}
    (h : Laid inside room level f cs) : f.expr.eval = outcome (f.value fun _ => none) := by
  induction h with
  | literal _ _ => rfl
  | plus _ _ ih => exact ih
  | @minus _ _ f _ _ _ _ ih =>
    rw [Formula.expr, Expr.eval, ih, Formula.value]
    cases f.value fun _ => none <;> rfl
  | paren _ _ _ ih => exact ih
  | @binary _ _ o _ left right _ _ _ _ _ _ _ ihLeft ihRight =>
    rw [Formula.expr, Expr.eval, ihLeft, ihRight, Formula.value]
    cases left.value fun _ => none with
    | none => rfl
    | some a =>
      cases right.value fun _ => none with
      | none => rfl
      | some b => exact apply_operator o a b
  | product _ ih => exact ih
  | sum _ ih => exact ih

/-- A formula that is laid out with any blanks around it comes to its value. -/
theorem Laid.evaluate {f : Formula} {before cs after : List Char} (h : Laid false maxDepth 9 f cs)
    (hbefore : ∀ c ∈ before, isBlank c = true) (hafter : ∀ c ∈ after, isBlank c = true) :
    evaluate (String.ofList (before ++ cs ++ after)) = outcome (f.value fun _ => none) := by
  obtain ⟨cs, hlaid, hstrip⟩ := h.strip hbefore hafter
  obtain ⟨ts, hspelled, steps, hsteps, hscan⟩ := hlaid.unifyLineEnds.tokens (not_mem_unifyLineEnds cs)
  have htokens : tokensOf? (String.ofList cs) = some ts := by
    obtain ⟨fuel, hfuel⟩ : ∃ fuel, (Bound.unifyLineEnds cs).length + 1 = fuel + 1 + steps :=
      ⟨(Bound.unifyLineEnds cs).length - steps, by omega⟩
    have hall := @hscan (fuel + 1) 0 true [] nofun (by omega) fun c hc => nomatch hc
    rw [List.append_nil] at hall
    unfold tokensOf?
    dsimp only
    rw [String.toList_ofList, hfuel, hall, tokens.eq_def]
    simp
  rw [Bound.evaluate, hstrip, Expr.ofText?, htokens, Option.bind_some, ofTokens?_spelled hspelled]
  exact hlaid.eval_eq

/-- A printed formula without symbols has the value of the formula. -/
theorem Printed.evaluate {f : Formula} {cs blanks : List Char} (h : Printed (fun _ => none) maxDepth 9 f cs)
    (hblanks : Gap blanks) : evaluate (String.ofList (cs ++ blanks)) = outcome (f.value fun _ => none) := by
  have hafter : Blanks false blanks := hblanks.blanks
  exact @Laid.evaluate f [] cs blanks (h.laid false) nofun hafter.isBlank

/-- A row of decimal digits that is too long is no expression. -/
theorem evaluate_long {d : Char} {ds : List Char} (first : isPlainDigit d = true) (hd : d ≠ '0')
    (digits : ∀ c ∈ ds, isPlainDigit c = true) (long : hasDecimal (digitsValue 10 (d :: ds)) = false) :
    evaluate (String.ofList (d :: ds)) = .error .malformed := by
  have hplain : ∀ c ∈ d :: ds, IsPlainWord c := by
    intro c hc
    refine isPlainWord_of_isHex (isHex_of_isPlainDigit ?_)
    rcases List.mem_cons.mp hc with rfl | hc
    · exact first
    · exact digits c hc
  have hstrip : Text.strip (String.ofList (d :: ds)) = String.ofList (d :: ds) :=
    strip_eq fun c hc => (hplain c (by rwa [String.toList_ofList] at hc)).isBlank
  have hreturn : '\r' ∉ d :: ds := fun hmem => absurd (hplain _ hmem).isBlank (by decide)
  have hnumber : number? (d :: ds) = none := by
    have hall := @decimalNumber?_digits d ds ds [] first (.of_forall digits) fun c hc => nomatch hc
    rw [List.append_nil] at hall
    rw [number?_of_unmarked fun mark tail heq => absurd (List.cons.inj heq).1 hd, hall, if_neg (by simp [hd]),
      if_neg (by simp [hd]), if_neg (by simp [long])]
  have htokens : tokensOf? (String.ofList (d :: ds)) = none := by
    unfold tokensOf?
    dsimp only
    rw [String.toList_ofList, unifyLineEnds_eq hreturn,
      tokens_none (.inl first) ((token?_of_digit first ds).trans hnumber)]
  rw [evaluate, hstrip, Expr.ofText?, htokens]
  rfl

end InteropGen.Bound
