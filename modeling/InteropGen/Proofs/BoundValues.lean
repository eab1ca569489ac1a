import InteropGen.Proofs.FormulaValues
import InteropGen.Proofs.Substitution

/-!
# The values of bounds

A bound is a formula over defines and counting elements. Its symbols are replaced in the text, and the text that
comes out is read and evaluated. `evaluate_substitute` says that this gives the value of the formula: no value that
is put in, a negative one in front of or behind any operator included, changes how the text around it is read.

The words of the text are rewritten each on its own, so that a printed formula becomes a printed formula with the
values in it (`Printed.expand`). The values hold no symbols, so that a second round changes nothing
(`substitute_eq`).
-/

namespace InteropGen

open Text InteropGen.Bound

namespace Bound

/-! ### Putting values in -/

theorem Gap.not_word {gap : List Char} (h : Gap gap) : ∀ c ∈ gap, isWord c = false := by
  have hall : ∀ c ∈ [' ', '\t', '\x0c'], isWord c = false :=
    List.all_iff_forall_prop.mp (by decide)
  exact fun c hc => hall c (isGap_iff.mp (h c hc))

/-- The characters are a numeral for the integer, with a sign if it is negative. -/
def Writes (chars : List Char) (v : Int) : Prop :=
  0 ≤ v ∧ Numeral chars v.natAbs ∨ v < 0 ∧ ∃ digits, chars = '-' :: digits ∧ Numeral digits v.natAbs

/-- What is put in for each word: a numeral for each symbol, and every numeral stays. -/
structure Rewriting (env : String → Option Int) (g : List Char → List Char) : Prop where
  symbol : ∀ {name : String} {v : Int}, env name = some v →
    AllWord name.toList ∧ name.toList ≠ [] ∧ Writes (g name.toList) v
  numeral : ∀ {cs : List Char} {n : Nat}, Numeral cs n → g cs = cs

theorem Writes.printed {chars gap : List Char} {v : Int} (h : Writes chars v) (hgap : Gap gap) (room : Nat) :
    Printed (fun _ => none) room 11 (Formula.ofInt v) (gap ++ chars) := by
  unfold Formula.ofInt
  rcases h with ⟨hv, hnumeral⟩ | ⟨hv, digits, rfl, hnumeral⟩
  · rw [if_neg (by omega)]
    exact .literal hgap hnumeral
  · rw [if_pos hv]
    exact .minus hgap (.literal gap_nil hnumeral)

/-- A printed formula becomes one with the values in the places of its symbols. -/
theorem Printed.expand {env : String → Option Int} {g : List Char → List Char} (hg : Rewriting env g)
    {room level : Nat} {f : Formula} {cs : List Char} (h : Printed env room level f cs) :
    Printed (fun _ => none) room level (f.expand env) (mapWords g cs) := by
  have hoperations : ∀ o : Operation, ∀ symbol ∈ o.symbols, ∀ c ∈ symbol.toList, isWord c = false := by
    intro o symbol hsymbol
    have hall : ∀ o : Operation, ∀ symbol ∈ o.symbols, symbol.toList.all (!isWord ·) = true := by
      rintro (_ | _ | _ | _) <;> decide
    simpa using hall o symbol hsymbol
  induction h with
  | @literal room n gap cs blank numeral =>
    obtain ⟨d, tail, hcs, -⟩ := numeral.exists_digit
    have hword : AllWord cs := fun c hc => (numeral.isPlainWord c hc).isWord
    rw [mapWords_between blank.not_word, mapWords_word hword (by simp [hcs]), hg.numeral numeral]
    exact .literal blank numeral
  | @symbol room name v gap blank known =>
    obtain ⟨hword, hne, hwrites⟩ := hg.symbol known
    rw [mapWords_between blank.not_word, mapWords_word hword hne, Formula.expand, known]
    exact hwrites.printed blank room
  | plus blank _ ih =>
    rw [mapWords_between blank.not_word, mapWords_cons (by decide)]
    exact .plus blank ih
  | minus blank _ ih =>
    rw [mapWords_between blank.not_word, mapWords_cons (by decide)]
    exact .minus blank ih
  | @paren room f gap gap' cs blank blank' _ ih =>
    have hclose : ∀ c ∈ gap' ++ [')'], isWord c = false := by
      intro c hc
      rcases List.mem_append.mp hc with hc | hc
      · exact blank'.not_word c hc
      · exact List.mem_singleton.mp hc ▸ by decide
    have hinside := mapWords_append_between (f := g) (by simp) hclose cs []
    rw [List.append_nil, mapWords_nil, List.append_nil, ← List.append_assoc, ← List.append_assoc] at hinside
    rw [mapWords_between blank.not_word, mapWords_cons (by decide), hinside]
    exact .paren blank blank' ih
  | @binary room o symbol left right gap cs ds spelled blank _ _ ihLeft ihRight =>
    obtain ⟨c, tail, hsymbol, -⟩ := exists_sign spelled
    have hbetween : ∀ c ∈ gap ++ symbol.toList, isWord c = false := by
      intro c hc
      rcases List.mem_append.mp hc with hc | hc
      · exact blank.not_word c hc
      · exact hoperations o symbol spelled c hc
    have hparts := mapWords_append_between (f := g) (by simp [hsymbol]) hbetween cs ds
    simp only [← List.append_assoc] at hparts
    rw [hparts]
    exact .binary spelled blank ihLeft ihRight
  | product _ ih => exact .product ih
  | sum _ ih => exact .sum ih

/-! ### The numerals that are put in -/

theorem writes_ofInt {v : Int} (h : hasDecimal v.natAbs = true) : Writes (ofInt v).toList v := by
  cases v with
  | ofNat n => exact .inl ⟨Int.natCast_nonneg n, String.toList_ofList ▸ numeral_toDigits h⟩
  | negSucc n =>
    exact .inr ⟨Int.negSucc_lt_zero n, _, String.toList_ofList, numeral_toDigits h⟩

theorem Grouped.mono {ok ok' : Char → Bool} {ds cs : List Char} (h : Grouped ok ds cs)
    (hok : ∀ c, ok c = true → ok' c = true) : Grouped ok' ds cs := by
  induction h with
  | nil => exact .nil
  | digit here _ ih => exact .digit (hok _ here) ih
  | parted here _ ih => exact .parted (hok _ here) ih

/-- A numeral with the mark of base sixteen has digits of that base. -/
theorem Numeral.hex_of_mark {mark : Char} {cs : List Char} {n : Nat} (h : Numeral ('0' :: mark :: cs) n)
    (hmark : mark = 'x' ∨ mark = 'X') : ∃ ds, n = digitsValue 16 ds ∧ Grouped isHex ds cs ∧ ds ≠ [] := by
  cases h with
  | decimal _ rest _ _ =>
    have hno : Text.isPlainDigit mark = false ∧ mark ≠ '_' := by
      rcases hmark with rfl | rfl
      all_goals decide
    cases rest with
    | digit here _ => rw [hno.1] at here; cases here
    | parted _ _ => exact absurd rfl hno.2
  | based radix marked hne digits =>
    cases radix with
    | hex => exact ⟨_, rfl, digits, hne⟩
    | octal =>
      rcases hmark with rfl | rfl
      all_goals exact absurd marked (by decide)
    | binary =>
      rcases hmark with rfl | rfl
      all_goals exact absurd marked (by decide)

/-- A numeral stays one: those of base sixteen are written in base ten if that is possible. -/
theorem numeral_asDecimal {content : String} {n : Nat} (h : Numeral content.toList n) :
    Numeral (asDecimal content).toList n := by
  have hstrip : Text.strip content = content := strip_eq fun c hc => (h.isPlainWord c hc).isBlank
  have hdigit : ∀ {c : Char}, isHex c = true → (hexValue? c).isSome = true := by
    intro c hc
    rw [isHex_iff] at hc
    rcases hc with hc | hc | hc
    · rw [hexValue?_of_isPlainDigit (isPlainDigit_iff.mpr hc)]
      rfl
    · simp [hexValue?, hc]
    · simp [hexValue?, hc, show ¬97 ≤ c.toNat by omega]
  unfold asDecimal
  dsimp only
  rw [hstrip]
  split
  · next mark digits heq =>
    split
    · next hmark =>
      have hmarks : mark = 'x' ∨ mark = 'X' := by simpa using hmark
      rw [heq] at h
      obtain ⟨ds, rfl, hgrouped, hne⟩ := h.hex_of_mark hmarks
      have hrun : Bound.digitRun (fun c => (hexValue? c).isSome) digits = (ds, []) := by
        have hall : Bound.digitRun (fun c => (hexValue? c).isSome) (digits ++ []) = (ds, []) :=
          digitRun_grouped (by decide) (hgrouped.mono fun _ => hdigit) (by simp)
        rwa [List.append_nil] at hall
      rw [hrun]
      dsimp only
      split
      · rw [heq]
        exact h
      · next hshort =>
        have hdecimal : hasDecimal (digitsValue 16 ds) = true := by
          simp only [List.isEmpty_nil, Bool.not_true, Bool.or_false, Bool.or_eq_true, Bool.not_eq_true', not_or,
            Bool.not_eq_false] at hshort
          exact hshort.2
        show Numeral (Text.ofInt (Int.ofNat _)).toList _
        rw [Text.ofInt, String.toList_ofList]
        exact numeral_toDigits hdecimal
    · exact h
  · exact h

end Bound

namespace Symbols

variable {s : Symbols}

/-! ### Contexts of numbers -/

/-- A word that no number begins with. -/
def IsIdentifier (name : String) : Prop :=
  isWordText name = true ∧ ∀ c ∈ name.toList.head?, isPlainDigit c = false

/--
Every define with a content is an identifier for a numeral, and every size is one for an integer that has not too
many digits; `env` has the values of just these symbols.
-/
structure Means (s : Symbols) (env : String → Option Int) : Prop where
  define : ∀ {name content : String} {type : Option String}, (name, type, content) ∈ s.defines.entries →
    content ≠ "" → IsIdentifier name ∧ ∃ n : Nat, Numeral content.toList n ∧ env name = some n
  size : ∀ {name : String} {size : Int}, (name, size) ∈ s.arraySizes.entries →
    IsIdentifier name ∧ hasDecimal size.natAbs = true ∧ env name = some size
  known : ∀ {name : String} {v : Int}, env name = some v →
    (∃ type content, (name, type, content) ∈ s.defines.entries ∧ content ≠ "") ∨
      ∃ size, (name, size) ∈ s.arraySizes.entries

namespace Means

variable {env : String → Option Int}

/-- The words of a bound are identifiers for the values in their rows. -/
theorem writes (h : s.Means env) {row : String × String} (hrow : s.IsWordOf row) :
    IsIdentifier row.1 ∧ ∃ v, env row.1 = some v ∧ Writes row.2.toList v := by
  cases hrow with
  | @define name content _ known filled =>
    obtain ⟨hname, n, hnumeral, henv⟩ := h.define known filled
    have hwrites : Writes (asDecimal content).toList n :=
      .inl ⟨Int.natCast_nonneg n, numeral_asDecimal hnumeral⟩
    dsimp only
    exact ⟨hname, n, henv, hwrites⟩
  | @size name size known _ =>
    obtain ⟨hname, hshort, henv⟩ := h.size known
    dsimp only
    exact ⟨hname, size, henv, writes_ofInt hshort⟩

theorem numeral_ne {name : String} (hname : IsIdentifier name) {cs : List Char} {n : Nat} (h : Numeral cs n) :
    cs ≠ name.toList := by
  rintro rfl
  obtain ⟨d, rest, heq, hd⟩ := h.exists_digit
  rw [hname.2 d (by rw [heq]; rfl)] at hd
  cases hd

/-- No numeral holds an identifier. -/
theorem replaceWord_eq {name value text : String} {v : Int} (hname : IsIdentifier name)
    (h : Writes text.toList v) : replaceWord text name value = text := by
  have hnumeral : ∀ {cs : List Char} {n : Nat}, Numeral cs n →
      mapWords (replaced name.toList value.toList) cs = cs := by
    intro cs n hcs
    obtain ⟨d, rest, heq, -⟩ := hcs.exists_digit
    rw [mapWords_word (fun c hc => (hcs.isPlainWord c hc).isWord) (by simp [heq]), replaced,
      if_neg (numeral_ne hname hcs)]
  rw [← String.toList_inj, toList_replaceWord hname.1]
  rcases h with ⟨-, hcs⟩ | ⟨-, digits, hdigits, hcs⟩
  · exact hnumeral hcs
  · rw [hdigits, mapWords_cons (by decide), hnumeral hcs]

theorem isWordOf {row : String × String} (hrow : row ∈ replacementOrder s.boundWords) : s.IsWordOf row :=
  isWordOf_boundWords (List.mem_mergeSort.mp hrow)

theorem isWordText (h : s.Means env) : ∀ row ∈ replacementOrder s.boundWords, Text.isWordText row.1 = true :=
  fun _ hrow => (h.writes (isWordOf hrow)).1.1

theorem inert (h : s.Means env) :
    ∀ row ∈ replacementOrder s.boundWords, Inert (replacementOrder s.boundWords) row.2 := by
  intro row hrow other hother
  obtain ⟨-, v, -, hwrites⟩ := h.writes (isWordOf hrow)
  exact replaceWord_eq (h.writes (isWordOf hother)).1 hwrites

theorem rewriting (h : s.Means env) : Rewriting env (expandWord (replacementOrder s.boundWords)) := by
  refine ⟨fun {name v} henv => ?_, fun {cs n} hcs => ?_⟩
  · have hthere : s.boundWords.contains name = true := by
      refine contains_boundWords ((h.known henv).imp_right fun ⟨size, hsize⟩ => ⟨size, hsize, ?_⟩)
      exact (h.size hsize).1.1
    have hkey : name ∈ (replacementOrder s.boundWords).map (·.1) :=
      ((List.mergeSort_perm s.boundWords.entries _).map _).mem_iff.mpr (Table.mem_keys_iff.mpr hthere)
    obtain ⟨value, hvalue⟩ := Table.contains_iff.mp (Table.mem_keys_iff (t := ⟨_⟩).mp hkey)
    obtain ⟨hname, w, henv', hwrites⟩ := h.writes (isWordOf (Table.mem_of_lookupIn hvalue))
    obtain rfl : v = w := Option.some.inj (henv.symm.trans henv')
    obtain ⟨hword, hne⟩ := allWord_of_isWordText hname.1
    refine ⟨hword, hne, ?_⟩
    have hlookup : Table.lookupIn name (replacementOrder s.boundWords) = some value := hvalue
    rw [expandWord_eq h.isWordText h.inert hword hne, String.ofList_toList, hlookup]
    exact hwrites
  · obtain ⟨d, rest, heq, -⟩ := hcs.exists_digit
    rw [expandWord_eq h.isWordText h.inert (fun c hc => (hcs.isPlainWord c hc).isWord) (by simp [heq])]
    cases hvalue : Table.lookupIn (String.ofList cs) (replacementOrder s.boundWords) with
    | none => rfl
    | some value =>
      have hname := (h.writes (isWordOf (Table.mem_of_lookupIn hvalue))).1
      exact absurd String.toList_ofList.symm (numeral_ne hname hcs)

theorem substitute_eq (h : s.Means env) (text : String) :
    (s.substitute text).toList = mapWords (expandWord (replacementOrder s.boundWords)) text.toList := by
  rw [substitute, replaceRounds_eq h.isWordText h.inert 7, toList_replaceRound h.isWordText]

end Means

/-- A define in base sixteen and a counting element with a negative value. -/
def signedContext : Symbols :=
  { Symbols.ofSettings {} with
    defines := ⟨[("LIMIT", none, "0x10")]⟩
    arraySizes := ⟨[("ImGuiKey_COUNT", -3)]⟩ }

/-- What the two symbols of the context mean. -/
def signedValues (name : String) : Option Int :=
  if name = "LIMIT" then some 16 else if name = "ImGuiKey_COUNT" then some (-3) else none

/-- Differences of one and another difference, so many of them in parentheses. -/
def nested : Nat → Formula
  | 0 => .binary .sub (.literal 1) (.literal 1)
  | n + 1 => .binary .sub (.literal 1) (nested n)

/-- The text of nested differences. -/
def nestedText : Nat → List Char
  | 0 => ['1', '-', '1']
  | n + 1 => '1' :: '-' :: '(' :: (nestedText n ++ [')'])

theorem numeral_one : Numeral ['1'] 1 := @Numeral.decimal '1' [] [] (by decide) .nil (by decide) (by decide +kernel)

theorem printed_nested (n : Nat) : Printed (fun _ => none) n 9 (nested n) (nestedText n) := by
  have hnone : Gap [] := by decide
  induction n with
  | zero =>
    exact .binary (show "-" ∈ Operation.sub.symbols by decide) hnone (.sum (.product (.literal hnone numeral_one)))
      (.product (.literal hnone numeral_one))
  | succ n ih =>
    have hparen := Printed.paren hnone hnone ih
    rw [List.append_nil] at hparen
    exact .binary (show "-" ∈ Operation.sub.symbols by decide) hnone (.sum (.product (.literal hnone numeral_one)))
      (.product hparen)

theorem value_nested (n : Nat) : (nested n).value (fun _ => none) = some ((n % 2 : Nat) : Int) := by
  induction n with
  | zero => rfl
  | succ n ih =>
    rw [nested, Formula.value, ih]
    show some ((1 : Int) - ((n % 2 : Nat) : Int)) = some (((n + 1) % 2 : Nat) : Int)
    congr 1
    omega

theorem isBlank_nestedText (n : Nat) : ∀ c ∈ nestedText n, isBlank c = false := by
  induction n with
  | zero => exact List.all_iff_forall_prop.mp (by decide)
  | succ n ih =>
    intro c hc
    simp only [nestedText, List.mem_cons, List.mem_append, List.not_mem_nil, or_false] at hc
    rcases hc with rfl | rfl | rfl | hc | rfl
    · decide
    · decide
    · decide
    · exact ih c hc
    · decide

/-- With more parentheses than may be open at once there are no tokens. -/
theorem tokens_nested (n : Nat) (rest : List Char) (depth : Nat) (hdepth : depth ≤ maxDepth)
    (h : maxDepth < depth + n) (fuel : Nat) (fresh : Bool) :
    tokens fuel depth fresh false (nestedText n ++ rest) = none := by
  induction n generalizing rest depth fuel fresh with
  | zero => omega
  | succ n ih =>
    have hsplit : nestedText (n + 1) ++ rest = '1' :: '-' :: '(' :: (nestedText n ++ (')' :: rest)) := by
      simp [nestedText]
    have hends : EndsOperand ('-' :: '(' :: (nestedText n ++ (')' :: rest))) := fun c hc => by
      obtain rfl := Option.some.inj hc
      decide
    have hbegins : BeginsChars ('(' :: (nestedText n ++ (')' :: rest))) := ⟨'(', _, rfl, .inr (.inr (by decide))⟩
    have hone := token?_numeral numeral_one hends
    have hminus := token?_operation (o := .sub) (List.mem_singleton.mpr rfl) hbegins
    have hopen := (token?_of_symbol (c := '(') (by decide) (nestedText n ++ (')' :: rest))).trans (symbol?_open _)
    rw [List.singleton_append] at hone
    rw [show "-".toList = ['-'] by decide, List.singleton_append] at hminus
    rw [hsplit]
    cases fuel with
    | zero => rfl
    | succ fuel =>
      rw [tokens_token (.inl (by decide)) hone rfl]
      cases fuel with
      | zero => rfl
      | succ fuel =>
        rw [tokens_token (.inr (by decide)) hminus rfl]
        rcases Nat.lt_or_ge depth maxDepth with hlow | hhigh
        · have hdeeper : depthAfter? depth (.sym "(") = some (depth + 1) := by simp [depthAfter?, hlow]
          cases fuel with
          | zero => rfl
          | succ fuel =>
            rw [tokens_token (.inr (by decide)) hopen hdeeper, ih _ _ hlow (by omega)]
            rfl
        · have hfull : depthAfter? depth (.sym "(") = none := by
            simp [depthAfter?, show ¬depth < maxDepth by omega]
          rw [tokens_too_deep (.inr (by decide)) hopen hfull]
          rfl

theorem evaluate_nested {n : Nat} (h : maxDepth < n) :
    Bound.evaluate (String.ofList (nestedText n)) = .error .malformed := by
  have hstrip : Text.strip (String.ofList (nestedText n)) = String.ofList (nestedText n) :=
    strip_eq fun c hc => isBlank_nestedText n c (by rwa [String.toList_ofList] at hc)
  have hnone := tokens_nested n [] 0 (Nat.zero_le _) (by omega)
  have htokens : tokensOf? (String.ofList (nestedText n)) = none := by
    have hreturn : '\r' ∉ nestedText n := fun hmem => absurd (isBlank_nestedText n _ hmem) (by decide)
    unfold tokensOf?
    dsimp only
    rw [String.toList_ofList, unifyLineEnds_eq hreturn, ← List.append_nil (nestedText n), hnone]
  rw [Bound.evaluate, hstrip, Expr.ofText?, htokens]
  rfl

/-- A one with so many zeros behind it. -/
theorem digitsValue_power (zeros : Nat) : digitsValue 10 ('1' :: List.replicate zeros '0') = Nat.pow 10 zeros := by
  have hfold : ∀ n : Nat, (List.replicate zeros '0').foldl (fun n c => 10 * n + (hexValue? c).getD 0) n =
      Nat.pow 10 zeros * n := by
    induction zeros with
    | zero => exact fun n => (Nat.one_mul n).symm
    | succ zeros ih =>
      intro n
      have hzero : (hexValue? '0').getD 0 = 0 := by decide
      rw [List.replicate_succ, List.foldl_cons, ih, hzero, Nat.add_zero, ← Nat.mul_assoc]
      rfl
  have hone : 10 * 0 + (hexValue? '1').getD 0 = 1 := by decide
  rw [digitsValue, List.foldl_cons, hone, hfold, Nat.mul_one]

theorem hasDecimal_eq_false {n : Nat} (h : Nat.pow 10 maxDigits ≤ n) : hasDecimal n = false :=
  decide_eq_false (Nat.not_lt.mpr h)

/-- Where nothing is known a bound stays as it is. -/
theorem substitute_ofSettings (text : String) : (Symbols.ofSettings {}).substitute text = text := by
  have horder : replacementOrder (Symbols.ofSettings {}).boundWords = [] := by
    unfold replacementOrder
    exact List.mergeSort_nil
  rw [substitute, horder, replaceRounds_eq (by simp) (by simp) 7]
  rfl

end Symbols

end InteropGen
