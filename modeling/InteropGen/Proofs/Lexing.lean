import InteropGen.Proofs.Formulas

/-!
# The tokens of a formula

A formula that is laid out without symbols is split into tokens that spell it (`Laid.tokens`). Every part is a token
of its own, since what may stand behind an operand (`EndsOperand`) neither lengthens a number nor joins with a
parenthesis, and what an operand begins with (`BeginsChars`) does not join with an operator in front of it.

The scanner works with fuel, one for each token, row of blanks and line end. The induction is on the layout and says
what the scanner does with any characters behind it. Line ends are passed over only where a parenthesis is open.
-/

namespace InteropGen.Bound

/-- A blank, a line end, an operator, or a closing parenthesis. -/
def operandEnds : List Char := [' ', '\t', '\x0c', '\n', '+', '-', '*', '/', ')']

/-- What may stand behind an operand: nothing, or what ends one. -/
def EndsOperand (rest : List Char) : Prop := ∀ c ∈ rest.head?, c ∈ operandEnds

/-- What an operand begins with: a blank, a digit, a line end, a sign, or an opening parenthesis. -/
def BeginsChars (chars : List Char) : Prop :=
  ∃ c rest, chars = c :: rest ∧ (isGap c = true ∨ Text.isPlainDigit c = true ∨ c ∈ ['\n', '+', '-', '('])

theorem isGap_iff {c : Char} : isGap c = true ↔ c ∈ [' ', '\t', '\x0c'] := by
  simp [isGap, or_assoc]

/-! ### Numbers -/

theorem EndsOperand.not_digit {rest : List Char} (h : EndsOperand rest) :
    ∀ c ∈ rest.head?, isHex c = false ∧ c ≠ '_' := by
  have hall : ∀ c ∈ operandEnds, isHex c = false ∧ c ≠ '_' := List.all_iff_forall_prop.mp (by decide)
  exact fun c hc => hall c (h c hc)

theorem digitRun_cons {ok : Char → Bool} {d : Char} (h : ok d = true) (rest : List Char) :
    digitRun ok (d :: rest) = (d :: (digitRun ok rest).1, (digitRun ok rest).2) := by
  rw [digitRun.eq_def]
  simp [h]

theorem digitRun_parted {ok : Char → Bool} (hunder : ok '_' = false) {d : Char} (h : ok d = true)
    (rest : List Char) :
    digitRun ok ('_' :: d :: rest) = (d :: (digitRun ok rest).1, (digitRun ok rest).2) := by
  rw [digitRun.eq_def]
  simp [hunder, h]

theorem digitRun_stop {ok : Char → Bool} {rest : List Char}
    (h : ∀ c ∈ rest.head?, ok c = false ∧ c ≠ '_') : digitRun ok rest = ([], rest) := by
  cases rest with
  | nil => rfl
  | cons c rest =>
    obtain ⟨hc, hne⟩ := h c rfl
    rw [digitRun.eq_def]
    simp [hc, hne]

/-- A row of digits is read to its end. -/
theorem digitRun_grouped {ok : Char → Bool} (hunder : ok '_' = false) {ds cs rest : List Char}
    (h : Grouped ok ds cs) (hrest : ∀ c ∈ rest.head?, ok c = false ∧ c ≠ '_') :
    digitRun ok (cs ++ rest) = (ds, rest) := by
  induction h with
  | nil => exact digitRun_stop hrest
  | digit here _ ih => rw [List.cons_append, digitRun_cons here, ih]
  | parted here _ ih => rw [List.cons_append, List.cons_append, digitRun_parted hunder here, ih]

theorem Radix.not_ok {base : Nat} {marks : List Char} {ok : Char → Bool} (h : Radix base marks ok) {c : Char}
    (hc : isHex c = false) : ok c = false := by
  cases hok : ok c with
  | false => rfl
  | true => exact absurd (h.isHex_of_ok hok) (by simp [hc])

theorem numberEnds_of_ends {rest : List Char} (h : EndsOperand rest) : numberEnds rest = true := by
  have hall : ∀ c ∈ operandEnds, isWordPart c = false := List.all_iff_forall_prop.mp (by decide)
  cases rest with
  | nil => rfl
  | cons c rest =>
    rw [numberEnds, hall c (h c rfl)]
    rfl

theorem basedNumber?_numeral {base : Nat} {marks : List Char} {ok : Char → Bool} (radix : Radix base marks ok)
    {ds cs rest : List Char} (some' : ds ≠ []) (digits : Grouped ok ds cs) (h : EndsOperand rest) :
    basedNumber? base ok (cs ++ rest) = some (.int (Text.digitsValue base ds), rest) := by
  have hrun := digitRun_grouped (radix.not_ok (by decide)) digits fun c hc =>
    ⟨radix.not_ok (h.not_digit c hc).1, (h.not_digit c hc).2⟩
  rw [basedNumber?, hrun]
  simp [some', numberEnds_of_ends h]

theorem digitsValue_zeros {ds : List Char} (h : ∀ c ∈ ds, c = '0') : Text.digitsValue 10 ds = 0 := by
  induction ds with
  | nil => rfl
  | cons d ds ih =>
    obtain rfl := h d List.mem_cons_self
    exact ih fun c hc => h c (List.mem_cons_of_mem _ hc)

/-- A row of decimal digits with nothing of a fraction behind it is an integer if it may be one. -/
theorem decimalNumber?_digits {d : Char} {ds cs rest : List Char} (first : Text.isPlainDigit d = true)
    (digits : Grouped Text.isPlainDigit ds cs) (h : EndsOperand rest) :
    decimalNumber? (d :: cs ++ rest) =
      if (d :: ds).all (· == '0') then some (.int 0, rest)
      else if (d :: ds).head? == some '0' then
        if "else".toList.isPrefixOf rest then some (.fraction, rest) else none
      else if Text.hasDecimal (Text.digitsValue 10 (d :: ds)) then
        some (.int (Text.digitsValue 10 (d :: ds)), rest)
      else none := by
  have hstop : ∀ c ∈ rest.head?, Text.isPlainDigit c = false ∧ c ≠ '_' := by
    have hall : ∀ c ∈ operandEnds, Text.isPlainDigit c = false ∧ c ≠ '_' :=
      List.all_iff_forall_prop.mp (by decide)
    exact fun c hc => hall c (h c hc)
  have hrun : digitRun Text.isPlainDigit (d :: cs ++ rest) = (d :: ds, rest) :=
    digitRun_grouped (by decide) (.digit first digits) hstop
  have hends := numberEnds_of_ends h
  have hexponent : afterExponent? rest = none := by
    cases rest with
    | nil => rfl
    | cons c rest =>
      have hall : ∀ c ∈ operandEnds, c ≠ 'e' ∧ c ≠ 'E' := List.all_iff_forall_prop.mp (by decide)
      obtain ⟨hsmall, hlarge⟩ := hall c (h c rfl)
      simp [afterExponent?, hsmall, hlarge]
  -- Neither a point nor an exponent nor a unit follows, so that the digits are all there is.
  unfold decimalNumber?
  rw [hrun]
  cases rest with
  | nil => rfl
  | cons c rest =>
    have hc := h c rfl
    simp only [operandEnds, List.mem_cons, List.not_mem_nil, or_false] at hc
    rcases hc with rfl | rfl | rfl | rfl | rfl | rfl | rfl | rfl | rfl
    all_goals simp [hexponent, hends]

theorem decimalNumber?_numeral {d : Char} {ds cs rest : List Char} (first : Text.isPlainDigit d = true)
    (digits : Grouped Text.isPlainDigit ds cs) (zeros : d = '0' → ∀ c ∈ ds, c = '0')
    (short : Text.hasDecimal (Text.digitsValue 10 (d :: ds)) = true) (h : EndsOperand rest) :
    decimalNumber? (d :: cs ++ rest) = some (.int (Text.digitsValue 10 (d :: ds)), rest) := by
  rw [decimalNumber?_digits first digits h]
  by_cases hzero : d = '0'
  · have hzeros : ∀ c ∈ d :: ds, c = '0' := fun c hc => by
      rcases List.mem_cons.mp hc with rfl | hc
      · exact hzero
      · exact zeros hzero c hc
    rw [if_pos (List.all_eq_true.mpr fun c hc => by simp [hzeros c hc]), digitsValue_zeros hzeros]
  · rw [if_neg (by simp [hzero]), if_neg (by simp [hzero]), if_pos short]

theorem number?_of_unmarked {chars : List Char} (h : ∀ mark tail, chars = '0' :: mark :: tail →
    mark ∉ ['x', 'X', 'o', 'O', 'b', 'B']) : number? chars = decimalNumber? chars := by
  unfold number?
  split
  · next mark rest =>
    have hmark := h mark rest rfl
    simp only [List.mem_cons, List.not_mem_nil, or_false, not_or] at hmark
    simp [hmark]
  · rfl

theorem number?_numeral {cs rest : List Char} {n : Nat} (hn : Numeral cs n) (h : EndsOperand rest) :
    number? (cs ++ rest) = some (.int n, rest) := by
  cases hn with
  | @decimal d ds cs first digits zeros short =>
    rw [number?_of_unmarked, decimalNumber?_numeral first digits zeros short h]
    intro mark tail heq hmark
    obtain ⟨-, heq⟩ := List.cons.inj heq
    have hdigit : ∀ c ∈ ['x', 'X', 'o', 'O', 'b', 'B'], Text.isPlainDigit c = false ∧ c ≠ '_' ∧ c ∉ operandEnds :=
      List.all_iff_forall_prop.mp (by decide)
    obtain ⟨hplain, hunder, hend⟩ := hdigit mark hmark
    cases digits with
    | nil => exact hend (h mark (by rw [show rest = mark :: tail from heq]; rfl))
    | digit here _ =>
      obtain ⟨rfl, -⟩ := List.cons.inj heq
      rw [here] at hplain
      cases hplain
    | parted _ _ => exact hunder (List.cons.inj heq).1.symm
  | @based base marks ok mark ds cs radix marked hds digits =>
    have hbased := basedNumber?_numeral radix hds digits h
    rw [List.cons_append, List.cons_append]
    cases radix with
    | hex =>
      simp only [List.mem_cons, List.not_mem_nil, or_false] at marked
      rcases marked with rfl | rfl
      all_goals simpa [number?] using hbased
    | octal =>
      simp only [List.mem_cons, List.not_mem_nil, or_false] at marked
      rcases marked with rfl | rfl
      all_goals simpa [number?] using hbased
    | binary =>
      simp only [List.mem_cons, List.not_mem_nil, or_false] at marked
      rcases marked with rfl | rfl
      all_goals simpa [number?] using hbased

/-! ### Symbols -/

theorem exists_sign {o : Operation} {symbol : String} (hsymbol : symbol ∈ o.symbols) :
    ∃ c tail, symbol.toList = c :: tail ∧ c ∈ ['+', '-', '*', '/'] := by
  cases o with
  | add => obtain rfl := List.mem_singleton.mp hsymbol; exact ⟨'+', [], by decide, by decide⟩
  | sub => obtain rfl := List.mem_singleton.mp hsymbol; exact ⟨'-', [], by decide, by decide⟩
  | mul => obtain rfl := List.mem_singleton.mp hsymbol; exact ⟨'*', [], by decide, by decide⟩
  | div =>
    rcases List.mem_cons.mp hsymbol with rfl | hsymbol
    · exact ⟨'/', [], by decide, by decide⟩
    · obtain rfl := List.mem_singleton.mp hsymbol
      exact ⟨'/', ['/'], by decide, by decide⟩

/-- No operator opens or closes a bracket. -/
theorem depthAfter?_operation {o : Operation} {symbol : String} (hsymbol : symbol ∈ o.symbols) (depth : Nat) :
    depthAfter? depth (.sym symbol) = some depth := by
  have hall : ∀ o : Operation, ∀ symbol ∈ o.symbols, symbol ∉ ["(", "[", "\x7b", ")", "]", "\x7d"] := by
    rintro (_ | _ | _ | _) <;> decide
  have hno := hall o symbol hsymbol
  simp only [List.mem_cons, List.not_mem_nil, or_false, not_or] at hno
  simp [depthAfter?, hno]

/-- An operator is not joined with the operand behind it. -/
theorem symbol?_operation {o : Operation} {symbol : String} (hsymbol : symbol ∈ o.symbols) {rest : List Char}
    (h : BeginsChars rest) : symbol? (symbol.toList ++ rest) = some (.sym symbol, rest) := by
  obtain ⟨c, rest, rfl, hc⟩ := h
  have hjoins : '=' ≠ c ∧ '*' ≠ c ∧ '/' ≠ c ∧ '>' ≠ c := by
    refine ⟨?_, ?_, ?_, ?_⟩
    all_goals
      rintro rfl
      exact absurd hc (by decide)
  have hprefix : ∀ x ∈ ['=', '*', '/', '>'], ∀ more, (x :: more).isPrefixOf (c :: rest) = false := by
    intro x hx more
    simp only [List.mem_cons, List.not_mem_nil, or_false] at hx
    rcases hx with rfl | rfl | rfl | rfl
    all_goals simp [List.isPrefixOf, hjoins]
  have hfound : symbols.find? (fun text => text.toList.isPrefixOf (symbol.toList ++ c :: rest)) =
      some symbol := by
    cases o with
    | add =>
      obtain rfl := List.mem_singleton.mp hsymbol
      simp [symbols, hjoins, hprefix]
    | sub =>
      obtain rfl := List.mem_singleton.mp hsymbol
      simp [symbols, hjoins, hprefix]
    | mul =>
      obtain rfl := List.mem_singleton.mp hsymbol
      simp [symbols, hjoins, hprefix]
    | div =>
      rcases List.mem_cons.mp hsymbol with rfl | hsymbol
      · simp [symbols, hjoins, hprefix]
      · obtain rfl := List.mem_singleton.mp hsymbol
        simp [symbols, hjoins, hprefix]
  rw [symbol?, hfound, Option.map_some, List.drop_left]

theorem symbol?_open (rest : List Char) : symbol? ('(' :: rest) = some (.sym "(", rest) := by
  have hfound : symbols.find? (fun text => text.toList.isPrefixOf ('(' :: rest)) = some "(" := by simp [symbols]
  rw [symbol?, hfound]
  rfl

theorem symbol?_close (rest : List Char) : symbol? (')' :: rest) = some (.sym ")", rest) := by
  have hfound : symbols.find? (fun text => text.toList.isPrefixOf (')' :: rest)) = some ")" := by simp [symbols]
  rw [symbol?, hfound]
  rfl

/-! ### One token -/

/-- A digit, an operator or a parenthesis: what the tokens of a formula begin with. -/
def BeginsToken (c : Char) : Prop := Text.isPlainDigit c = true ∨ c ∈ ['+', '-', '*', '/', '(', ')']

theorem BeginsToken.ne {c d : Char} (h : BeginsToken c) (hd : ¬BeginsToken d) : c ≠ d := by
  rintro rfl
  exact hd h

instance (c : Char) : Decidable (BeginsToken c) := inferInstanceAs (Decidable (_ ∨ _))

theorem BeginsToken.isGap {c : Char} (h : BeginsToken c) : isGap c = false := by
  cases hc : Bound.isGap c with
  | false => rfl
  | true =>
    have hall : ∀ c ∈ [' ', '\t', '\x0c'], ¬BeginsToken c :=
      List.all_iff_forall_prop.mp (by decide)
    exact absurd h (hall c (isGap_iff.mp hc))

theorem BeginsToken.split?_eq_none {c : Char} (h : BeginsToken c) (rest : List Char) :
    Quoted.split? (c :: rest) = none := by
  have halpha : c.isAlpha = false := by
    rcases h with h | h
    · rw [isPlainDigit_iff] at h
      delta Char.isAlpha Char.isUpper Char.isLower
      simp only [Bool.or_eq_false_iff, Bool.and_eq_false_iff, decide_eq_false_iff_not, ge_iff_le,
        UInt32.le_iff_toNat_le]
      change ¬(65 ≤ c.toNat ∧ c.toNat ≤ 90) ∧ (¬97 ≤ c.toNat ∨ ¬c.toNat ≤ 122)
      omega
    · have hall : ∀ c ∈ ['+', '-', '*', '/', '(', ')'], c.isAlpha = false :=
        List.all_iff_forall_prop.mp (by decide)
      exact hall c h
  have hdouble : c ≠ '"' := h.ne (by decide)
  have hsingle : c ≠ '\'' := h.ne (by decide)
  rw [Quoted.split?, List.takeWhile_cons_of_neg (by simp [halpha])]
  simp [hdouble, hsingle]

/-- One token and what the scanner makes of the characters behind it. -/
theorem tokens_token {c : Char} {rest after : List Char} {t : Token} {depth depth' : Nat} (hc : BeginsToken c)
    (htoken : token? (c :: rest) = some (t, after)) (hdepth : depthAfter? depth t = some depth') (fuel : Nat)
    (fresh : Bool) :
    tokens (fuel + 1) depth fresh false (c :: rest) =
      (tokens fuel depth' false false after).map ([t] ++ ·) := by
  have hcomment : c ≠ '#' := hc.ne (by decide)
  have hline : c ≠ '\n' := hc.ne (by decide)
  have hjoin : c ≠ '\\' := hc.ne (by decide)
  rw [tokens.eq_def]
  simp only [hc.isGap, hcomment, hline, hjoin, if_false, hc.split?_eq_none, htoken, Option.bind_eq_bind,
    Option.bind_some, hdepth, Bool.false_eq_true]
  cases tokens fuel depth' false false after <;> rfl

/-- Where no token begins the characters are none of the language. -/
theorem tokens_none {c : Char} {rest : List Char} (hc : BeginsToken c) (htoken : token? (c :: rest) = none)
    (fuel depth : Nat) (fresh : Bool) : tokens fuel depth fresh false (c :: rest) = none := by
  have hcomment : c ≠ '#' := hc.ne (by decide)
  have hline : c ≠ '\n' := hc.ne (by decide)
  have hjoin : c ≠ '\\' := hc.ne (by decide)
  cases fuel with
  | zero => rfl
  | succ fuel =>
    rw [tokens.eq_def]
    simp [hc.isGap, hcomment, hline, hjoin, hc.split?_eq_none, htoken]

/-- One parenthesis too many ends the scan. -/
theorem tokens_too_deep {c : Char} {rest after : List Char} {t : Token} {depth : Nat} (hc : BeginsToken c)
    (htoken : token? (c :: rest) = some (t, after)) (hdepth : depthAfter? depth t = none) (fuel : Nat)
    (fresh : Bool) : tokens fuel depth fresh false (c :: rest) = none := by
  have hcomment : c ≠ '#' := hc.ne (by decide)
  have hline : c ≠ '\n' := hc.ne (by decide)
  have hjoin : c ≠ '\\' := hc.ne (by decide)
  cases fuel with
  | zero => rfl
  | succ fuel =>
    rw [tokens.eq_def]
    simp [hc.isGap, hcomment, hline, hjoin, hc.split?_eq_none, htoken, hdepth]

/-- In front of a token the scanner passes over the characters. -/
def Skips (inside : Bool) (gap : List Char) : Prop :=
  ∃ steps ≤ gap.length, ∀ {rest : List Char}, (∀ c ∈ rest.head?, isGap c = false) →
    ∀ (fuel : Nat) {depth : Nat} (fresh : Bool), (inside = true → 0 < depth) →
      tokens (fuel + steps) depth fresh false (gap ++ rest) = tokens fuel depth fresh false rest

theorem dropWhile_append {p : Char → Bool} (chars : List Char) {rest : List Char}
    (h : ∀ c ∈ rest.head?, p c = false) : (chars ++ rest).dropWhile p = chars.dropWhile p ++ rest := by
  rw [List.dropWhile_append]
  split
  · next hnone =>
    rw [List.isEmpty_iff.mp hnone, List.nil_append]
    cases rest with
    | nil => rfl
    | cons c rest => rw [List.dropWhile_cons_of_neg (by simp [h c rfl])]
  · rfl

/-- A row of blanks is one step, and so is each line end. -/
theorem Blanks.skips {inside : Bool} {gap : List Char} (h : Blanks inside gap) (hreturn : '\r' ∉ gap) :
    Skips inside gap := by
  induction hn : gap.length using Nat.strongRecOn generalizing gap with
  | _ n ih =>
  cases gap with
  | nil => exact ⟨0, Nat.zero_le _, fun _ _ _ _ _ => rfl⟩
  | cons c gap =>
    have hlater : ∀ {after : List Char}, after <:+ gap → Skips inside after := fun {after} hafter =>
      ih after.length (by rw [← hn]; exact Nat.lt_succ_of_le hafter.length_le)
        (fun d hd => h d (List.mem_cons_of_mem _ (hafter.subset hd)))
        (fun hd => hreturn (List.mem_cons_of_mem _ (hafter.subset hd))) rfl
    by_cases hc : isGap c = true
    · obtain ⟨steps, hsteps, hskips⟩ := hlater (List.dropWhile_suffix isGap)
      have hshort := (List.dropWhile_suffix (l := gap) isGap).length_le
      refine ⟨steps + 1, by rw [List.length_cons]; omega, fun {rest} hrest fuel depth fresh hdepth => ?_⟩
      rw [List.cons_append, ← Nat.add_assoc, tokens.eq_def]
      simp [hc, dropWhile_append gap hrest, hskips hrest fuel fresh hdepth]
    · obtain ⟨hinside, hend⟩ := (h c List.mem_cons_self).resolve_left hc
      obtain rfl : c = '\n' := hend.resolve_right fun heq => hreturn (heq ▸ List.mem_cons_self)
      obtain ⟨steps, hsteps, hskips⟩ := hlater (List.suffix_refl gap)
      refine ⟨steps + 1, by rw [List.length_cons]; omega, fun {rest} hrest fuel depth fresh hdepth => ?_⟩
      rw [List.cons_append, ← Nat.add_assoc, tokens.eq_def]
      simp [hc, hdepth hinside, hskips hrest fuel fresh hdepth]

theorem token?_of_digit {d : Char} (hd : Text.isPlainDigit d = true) (rest : List Char) :
    token? (d :: rest) = number? (d :: rest) := by
  have hbegins : numberBegins (d :: rest) = true := by
    rw [numberBegins.eq_def]
    split
    · next heq => rw [(List.cons.inj heq).1] at hd; exact absurd hd (by decide)
    · next heq => rw [← (List.cons.inj heq).1]; exact hd
    · next heq => cases heq
  rw [token?.eq_def, if_pos hbegins]

theorem token?_numeral {cs rest : List Char} {n : Nat} (hn : Numeral cs n) (h : EndsOperand rest) :
    token? (cs ++ rest) = some (.int n, rest) := by
  have hnumber := number?_numeral hn h
  obtain ⟨d, tail, rfl, hd⟩ := hn.exists_digit
  rw [List.cons_append] at hnumber ⊢
  rw [token?_of_digit hd, hnumber]

theorem token?_of_symbol {c : Char} (hc : c ∈ ['+', '-', '*', '/', '(', ')']) (rest : List Char) :
    token? (c :: rest) = symbol? (c :: rest) := by
  have hall : ∀ c ∈ ['+', '-', '*', '/', '(', ')'], Text.isPlainDigit c = false ∧ isWordPart c = false ∧
      c ≠ '.' := List.all_iff_forall_prop.mp (by decide)
  obtain ⟨hdigit, hword, hpoint⟩ := hall c hc
  simp [token?, numberBegins, hdigit, hword, hpoint]

theorem token?_operation {o : Operation} {symbol : String} (hsymbol : symbol ∈ o.symbols) {rest : List Char}
    (h : BeginsChars rest) : token? (symbol.toList ++ rest) = some (.sym symbol, rest) := by
  obtain ⟨c, tail, heq, hc⟩ := exists_sign hsymbol
  rw [← symbol?_operation hsymbol h, heq]
  exact token?_of_symbol (List.mem_append_left ['(', ')'] hc) (tail ++ rest)

/-- A part of a formula with the blanks in front of it. -/
theorem tokens_part {inside : Bool} {gap part : List Char} {t : Token} (hgap : Blanks inside gap)
    (hreturn : '\r' ∉ gap) (hpart : ∃ c tail, part = c :: tail ∧ BeginsToken c) :
    ∃ steps ≤ gap.length + part.length, ∀ {after : List Char} {depth depth' : Nat}, (inside = true → 0 < depth) →
      token? (part ++ after) = some (t, after) → depthAfter? depth t = some depth' → ∀ (fuel : Nat) (fresh : Bool),
        tokens (fuel + steps) depth fresh false (gap ++ (part ++ after)) =
          (tokens fuel depth' false false after).map ([t] ++ ·) := by
  obtain ⟨c, tail, rfl, hc⟩ := hpart
  obtain ⟨steps, hsteps, hskips⟩ := hgap.skips hreturn
  refine ⟨steps + 1, by simp; omega, fun {after depth depth'} hdepth htoken hdeeper fuel fresh => ?_⟩
  have hhead : ∀ d ∈ (c :: tail ++ after).head?, isGap d = false := by
    rintro d hd
    obtain rfl := Option.some.inj hd
    exact hc.isGap
  rw [Nat.add_comm steps 1, ← Nat.add_assoc, hskips hhead (fuel + 1) fresh hdepth]
  exact tokens_token hc htoken hdeeper fuel fresh

/-! ### Whole formulas -/

theorem BeginsChars.append_blanks {inside : Bool} {gap part : List Char} (hgap : Blanks inside gap)
    (hreturn : '\r' ∉ gap) (h : BeginsChars part) : BeginsChars (gap ++ part) := by
  cases gap with
  | nil => exact h
  | cons c gap =>
    refine ⟨c, _, rfl, ?_⟩
    rcases hgap c List.mem_cons_self with hc | ⟨-, rfl | rfl⟩
    · exact .inl hc
    · exact .inr (.inr List.mem_cons_self)
    · exact absurd List.mem_cons_self hreturn

/-- A formula begins as an operand does. -/
theorem Laid.beginsChars {inside : Bool} {room level : Nat} {f : Formula} {cs : List Char}
    (h : Laid inside room level f cs) (hreturn : '\r' ∉ cs) (rest : List Char) : BeginsChars (cs ++ rest) := by
  induction h generalizing rest with
  | literal blank numeral =>
    obtain ⟨d, tail, rfl, hd⟩ := numeral.exists_digit
    rw [List.append_assoc]
    exact .append_blanks blank (mt (List.mem_append_left _) hreturn) ⟨d, _, rfl, .inr (.inl hd)⟩
  | plus blank _ _ =>
    rw [List.append_assoc]
    exact .append_blanks blank (mt (List.mem_append_left _) hreturn) ⟨'+', _, rfl, .inr (.inr (by decide))⟩
  | minus blank _ _ =>
    rw [List.append_assoc]
    exact .append_blanks blank (mt (List.mem_append_left _) hreturn) ⟨'-', _, rfl, .inr (.inr (by decide))⟩
  | paren blank _ _ _ =>
    rw [List.append_assoc]
    exact .append_blanks blank (mt (List.mem_append_left _) hreturn) ⟨'(', _, rfl, .inr (.inr (by decide))⟩
  | binary _ _ _ _ ih _ =>
    simp only [List.mem_append, not_or] at hreturn
    rw [List.append_assoc, List.append_assoc, List.append_assoc]
    exact ih hreturn.1.1.1 _
  | product _ ih => exact ih hreturn rest
  | sum _ ih => exact ih hreturn rest

theorem EndsOperand.append_blanks {inside : Bool} {gap rest : List Char} (hgap : Blanks inside gap)
    (hreturn : '\r' ∉ gap) (h : EndsOperand rest) : EndsOperand (gap ++ rest) := by
  cases gap with
  | nil => exact h
  | cons c gap =>
    rintro d hd
    obtain rfl := Option.some.inj hd
    rcases hgap c List.mem_cons_self with hc | ⟨-, rfl | rfl⟩
    · exact List.mem_append_left ['\n', '+', '-', '*', '/', ')'] (isGap_iff.mp hc)
    · decide
    · exact absurd List.mem_cons_self hreturn

theorem endsOperand_operation {o : Operation} {symbol : String} (hsymbol : symbol ∈ o.symbols) (rest : List Char) :
    EndsOperand (symbol.toList ++ rest) := by
  obtain ⟨c, tail, heq, hc⟩ := exists_sign hsymbol
  rw [heq]
  rintro d hd
  obtain rfl := Option.some.inj hd
  exact List.mem_append_right [' ', '\t', '\x0c', '\n'] (List.mem_append_left [')'] hc)

/-- Before anything that may follow an operand the scanner finds these tokens and goes on behind them. -/
def Scans (inside : Bool) (room : Nat) (cs : List Char) (ts : List Token) : Prop :=
  ∃ steps ≤ cs.length, ∀ {fuel depth : Nat} {fresh : Bool} {rest : List Char}, (inside = true → 0 < depth) →
    depth + room ≤ maxDepth → EndsOperand rest → tokens (fuel + steps) depth fresh false (cs ++ rest) =
      (tokens fuel depth false false rest).map (ts ++ ·)

theorem Scans.signed {inside : Bool} {room : Nat} {gap cs : List Char} {ts : List Token} {symbol : String}
    {o : Operation} {sign : Char} (hsymbol : symbol ∈ o.symbols) (hsign : symbol.toList = [sign])
    (hbegins : BeginsToken sign) (hgap : Blanks inside gap) (hreturn : '\r' ∉ gap)
    (hcs : ∀ rest, BeginsChars (cs ++ rest)) (h : Scans inside room cs ts) :
    Scans inside room (gap ++ sign :: cs) (.sym symbol :: ts) := by
  obtain ⟨steps, hsteps, hscan⟩ := h
  obtain ⟨before, hbefore, hpart⟩ :=
    @tokens_part inside gap [sign] (.sym symbol) hgap hreturn ⟨sign, [], rfl, hbegins⟩
  refine ⟨steps + before, by simp at hbefore ⊢; omega, fun {fuel depth fresh rest} hdepth hroom hrest => ?_⟩
  have htoken : token? ([sign] ++ (cs ++ rest)) = some (.sym symbol, cs ++ rest) := by
    rw [← hsign]
    exact token?_operation hsymbol (hcs rest)
  have hsplit : gap ++ sign :: cs ++ rest = gap ++ ([sign] ++ (cs ++ rest)) := by simp
  rw [hsplit, ← Nat.add_assoc, hpart hdepth htoken (depthAfter?_operation hsymbol depth),
    hscan hdepth hroom hrest, Option.map_map]
  rfl

theorem Laid.tokens {inside : Bool} {room level : Nat} {f : Formula} {cs : List Char}
    (h : Laid inside room level f cs) (hreturn : '\r' ∉ cs) :
    ∃ ts, Spelled level f.expr ts ∧ Scans inside room cs ts := by
  induction h with
  | @literal inside room n gap cs blank numeral =>
    simp only [List.mem_append, not_or] at hreturn
    obtain ⟨d, tail, hcs, hd⟩ := numeral.exists_digit
    obtain ⟨steps, hsteps, hpart⟩ := tokens_part (t := .int n) blank hreturn.1 ⟨d, tail, hcs, .inl hd⟩
    refine ⟨[.int n], .int n, steps, by simpa using hsteps, fun {fuel depth fresh rest} hdepth _ hrest => ?_⟩
    rw [List.append_assoc]
    exact hpart hdepth (token?_numeral numeral hrest) rfl fuel fresh
  | plus blank operand ih =>
    simp only [List.mem_append, List.mem_cons, not_or] at hreturn
    obtain ⟨ts, hspelled, hscans⟩ := ih hreturn.2.2
    exact ⟨_, .plus hspelled, hscans.signed (o := .add) (List.mem_singleton.mpr rfl) rfl (by decide) blank
      hreturn.1 (operand.beginsChars hreturn.2.2)⟩
  | minus blank operand ih =>
    simp only [List.mem_append, List.mem_cons, not_or] at hreturn
    obtain ⟨ts, hspelled, hscans⟩ := ih hreturn.2.2
    exact ⟨_, .minus hspelled, hscans.signed (o := .sub) (List.mem_singleton.mpr rfl) rfl (by decide) blank
      hreturn.1 (operand.beginsChars hreturn.2.2)⟩
  | @paren inside room f gap gap' cs blank blank' within ih =>
    simp only [List.mem_append, List.mem_cons, not_or] at hreturn
    obtain ⟨hgap, -, ⟨hcs, hgap'⟩, -⟩ := hreturn
    obtain ⟨ts, hspelled, steps, hsteps, hscan⟩ := ih hcs
    obtain ⟨before, hbefore, hopen⟩ :=
      @tokens_part inside gap ['('] (.sym "(") blank hgap ⟨'(', [], rfl, by decide⟩
    obtain ⟨behind, hbehind, hclose⟩ :=
      @tokens_part true gap' [')'] (.sym ")") blank' hgap' ⟨')', [], rfl, by decide⟩
    refine ⟨_, .paren hspelled, behind + steps + before, by simp at *; omega,
      fun {fuel depth fresh rest} hdepth hroom hrest => ?_⟩
    have hends : EndsOperand (gap' ++ ([')'] ++ rest)) := by
      refine EndsOperand.append_blanks blank' hgap' fun c hc => ?_
      obtain rfl := Option.some.inj hc
      decide
    have hdeeper : depthAfter? depth (.sym "(") = some (depth + 1) := by
      simp [depthAfter?, show depth < maxDepth by omega]
    have hback : depthAfter? (depth + 1) (.sym ")") = some depth := by simp [depthAfter?]
    have hopened : true = true → 0 < depth + 1 := fun _ => Nat.succ_pos depth
    have hsplit : gap ++ '(' :: (cs ++ gap' ++ [')']) ++ rest =
        gap ++ (['('] ++ (cs ++ (gap' ++ ([')'] ++ rest)))) := by simp
    rw [hsplit, ← Nat.add_assoc,
      hopen hdepth ((token?_of_symbol (by decide) _).trans (symbol?_open _)) hdeeper,
      ← Nat.add_assoc, hscan hopened (by omega) hends,
      hclose hopened ((token?_of_symbol (by decide) _).trans (symbol?_close _)) hback, Option.map_map,
      Option.map_map]
    congr 1
    funext more
    simp
  | @binary inside room o symbol left right gap cs ds spelled blank first second ihFirst ihSecond =>
    simp only [List.mem_append, not_or] at hreturn
    obtain ⟨⟨⟨hcs, hgap⟩, -⟩, hds⟩ := hreturn
    obtain ⟨ts, hfirst, steps, hsteps, hscan⟩ := ihFirst hcs
    obtain ⟨us, hsecond, steps', hsteps', hscan'⟩ := ihSecond hds
    obtain ⟨c, tail, hsymbol, hc⟩ := exists_sign spelled
    have hbegins : ∃ c tail, symbol.toList = c :: tail ∧ BeginsToken c :=
      ⟨c, tail, hsymbol, .inr (List.mem_append_left ['(', ')'] hc)⟩
    obtain ⟨between, hbetween, hpart⟩ := tokens_part (t := .sym symbol) blank hgap hbegins
    refine ⟨_, .binary (Operation.symbolOperator?_symbols spelled) o.level_le hfirst hsecond,
      steps' + between + steps, by simp at *; omega, fun {fuel depth fresh rest} hdepth hroom hrest => ?_⟩
    have hends : EndsOperand (gap ++ (symbol.toList ++ (ds ++ rest))) :=
      (endsOperand_operation spelled _).append_blanks blank hgap
    have hsplit : cs ++ gap ++ symbol.toList ++ ds ++ rest =
        cs ++ (gap ++ (symbol.toList ++ (ds ++ rest))) := by simp
    rw [hsplit, ← Nat.add_assoc, hscan hdepth hroom hends, ← Nat.add_assoc,
      hpart hdepth (token?_operation spelled (second.beginsChars hds rest)) (depthAfter?_operation spelled depth),
      hscan' hdepth hroom hrest, Option.map_map, Option.map_map]
    congr 1
    funext more
    simp
  | product _ ih =>
    obtain ⟨ts, hspelled, hscans⟩ := ih hreturn
    exact ⟨ts, .product hspelled, hscans⟩
  | sum _ ih =>
    obtain ⟨ts, hspelled, hscans⟩ := ih hreturn
    exact ⟨ts, .sum hspelled, hscans⟩

end InteropGen.Bound
