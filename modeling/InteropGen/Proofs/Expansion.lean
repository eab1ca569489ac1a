import InteropGen.Proofs.BoundValues
import InteropGen.Proofs.Correspondence.Walk

/-!
# Expanding the symbols of bounds

The content of a define may hold further symbols. Where no chain of symbols that mention one another is longer than
the number of rounds (`Nested`), replacing them round after round comes to the full expansion: the rewriting of words
that puts in for a symbol the expansion of its content (`IsExpansion`). Two things are followed through the rounds. One
replacement does not change what the text expands to (`IsExpansion.mapWords_replaceRound`), and a round lowers the
depth of the symbols that the text holds (`Layered.deep_replaceRound`), so that no symbol is left at the end.

The symbols are put in from the longest to the shortest, and a symbol may be put in again in the round in which it
came into the text. The proofs do not depend on the order, only on the round getting to every symbol.
-/

namespace InteropGen

open InteropGen.Bound

namespace Text

variable {name w chars front rest : List Char} {c : Char} {f g : List Char → List Char}

/-! ### Words that a text holds -/

/-- The name stands in the characters as a whole word. -/
def HoldsWord (name chars : List Char) : Prop :=
  ∃ before after, chars = before ++ (name ++ after) ∧ before.getLast?.any isWord = false ∧
    after.head?.any isWord = false

theorem holdsWord_iff_exists_prefix : HoldsWord name chars ↔ ∃ i ∈ List.range (chars.length + 1),
    (chars.take i).getLast?.any isWord = false ∧ name <+: chars.drop i ∧
      (chars.drop (i + name.length)).head?.any isWord = false := by
  constructor
  · rintro ⟨before, after, rfl, hbefore, hafter⟩
    refine ⟨before.length, List.mem_range.mpr ?_, ?_, ?_, ?_⟩
    · rw [List.length_append]
      omega
    · rwa [List.take_left]
    · rw [List.drop_left]
      exact List.prefix_append name after
    · rwa [← List.drop_drop, List.drop_left, List.drop_left]
  · rintro ⟨i, -, hbefore, ⟨after, hafter⟩, hend⟩
    refine ⟨chars.take i, after, by rw [hafter, List.take_append_drop], hbefore, ?_⟩
    rwa [← List.drop_drop, ← hafter, List.drop_left] at hend

instance (name chars : List Char) : Decidable (HoldsWord name chars) :=
  decidable_of_iff' _ holdsWord_iff_exists_prefix

/-- The only word in a word is itself. -/
theorem holdsWord_word_iff (hw : AllWord w) : HoldsWord name w ↔ w = name := by
  constructor
  · rintro ⟨before, after, rfl, hbefore, hafter⟩
    have hnoBefore : before = [] := by
      by_contra hne
      have hlast : AllWord before := fun c hc => hw c (List.mem_append_left _ hc)
      have hany := hlast.getLast?_any hne none
      rw [Option.or_none, hbefore] at hany
      cases hany
    have hnoAfter : after = [] := by
      by_contra hne
      have hfirst : AllWord after := fun c hc => hw c (List.mem_append_right _ (List.mem_append_right _ hc))
      have hany := hfirst.head?_any hne []
      rw [List.append_nil, hafter] at hany
      cases hany
    rw [hnoBefore, hnoAfter, List.nil_append, List.append_nil]
  · rintro rfl
    exact ⟨[], [], by simp, rfl, rfl⟩

theorem getLast?_any_append_cons (hc : isWord c = false) (front rest : List Char) :
    (front ++ c :: rest).getLast?.any isWord = rest.getLast?.any isWord := by
  rw [List.getLast?_append, getLast?_cons_or]
  cases rest.getLast? with
  | none => exact hc
  | some d => rfl

theorem head?_any_append_cons (hc : isWord c = false) (front rest : List Char) :
    (front ++ c :: rest).head?.any isWord = front.head?.any isWord := by
  cases front with
  | nil => exact hc
  | cons d front => rfl

/-- No word goes across a character that belongs to none. -/
theorem holdsWord_append_cons (hname : AllWord name) (hne : name ≠ []) (hc : isWord c = false)
    (front rest : List Char) :
    HoldsWord name (front ++ c :: rest) ↔ HoldsWord name front ∨ HoldsWord name rest := by
  have houtside : c ∉ name := fun hmem => by
    rw [hname c hmem] at hc
    cases hc
  constructor
  · rintro ⟨before, after, heq, hbefore, hafter⟩
    rcases List.append_eq_append_iff.mp heq with ⟨inner, rfl, hrest⟩ | ⟨inner, rfl, hrest⟩
    · rcases List.cons_eq_append_iff.mp hrest with ⟨rfl, hname'⟩ | ⟨inner, rfl, rfl⟩
      · obtain ⟨d, tail, rfl⟩ := List.exists_cons_of_ne_nil hne
        obtain ⟨rfl, -⟩ := List.cons.inj hname'
        exact absurd List.mem_cons_self houtside
      · exact .inr ⟨inner, after, rfl, getLast?_any_append_cons hc front inner ▸ hbefore, hafter⟩
    · rcases List.append_eq_append_iff.mp hrest with ⟨inner', rfl, rfl⟩ | ⟨inner', rfl, hrest'⟩
      · exact .inl ⟨before, inner', rfl, hbefore, head?_any_append_cons hc inner' rest ▸ hafter⟩
      · rcases List.cons_eq_append_iff.mp hrest' with ⟨rfl, -⟩ | ⟨inner', rfl, -⟩
        · exact .inl ⟨before, [], by simp, hbefore, rfl⟩
        · exact absurd (List.mem_append_right _ List.mem_cons_self) houtside
  · rintro (⟨before, after, rfl, hbefore, hafter⟩ | ⟨before, after, rfl, hbefore, hafter⟩)
    · exact ⟨before, after ++ c :: rest, by simp, hbefore, (head?_any_append_cons hc after rest).trans hafter⟩
    · exact ⟨front ++ c :: before, after, by simp, (getLast?_any_append_cons hc front before).trans hbefore, hafter⟩

theorem not_holdsWord_nil (hne : name ≠ []) : ¬ HoldsWord name [] := fun h =>
  hne ((holdsWord_word_iff (List.forall_mem_nil _)).mp h).symm

/-- Characters that belong to no word hide none. -/
theorem HoldsWord.between {back : List Char} (h : HoldsWord name chars) (hfront : ∀ c ∈ front, isWord c = false)
    (hback : ∀ c ∈ back, isWord c = false) : HoldsWord name (front ++ (chars ++ back)) := by
  obtain ⟨before, after, rfl, hbefore, hafter⟩ := h
  refine ⟨front ++ before, after ++ back, by simp, ?_, ?_⟩
  · rw [List.getLast?_append]
    cases hlast : before.getLast? with
    | some d => rwa [hlast] at hbefore
    | none =>
      rw [Option.none_or]
      cases hfrontLast : front.getLast? with
      | none => rfl
      | some d => exact hfront d (List.mem_of_getLast? hfrontLast)
  · rw [List.head?_append]
    cases hhead : after.head? with
    | some d => rwa [hhead] at hafter
    | none =>
      rw [Option.none_or]
      cases hbackHead : back.head? with
      | none => rfl
      | some d => exact hback d (List.mem_of_head? hbackHead)

/-- A word that is there after a rewriting was put in for one that was there before. -/
theorem HoldsWord.of_mapWords (hname : AllWord name) (hne : name ≠ []) (h : HoldsWord name (mapWords f chars)) :
    ∃ w, AllWord w ∧ w ≠ [] ∧ HoldsWord w chars ∧ HoldsWord name (f w) := by
  induction chars using word_induction with
  | word w hw =>
    by_cases hempty : w = []
    · rw [hempty, mapWords_nil] at h
      exact absurd h (not_holdsWord_nil hne)
    · rw [mapWords_word hw hempty] at h
      exact ⟨w, hw, hempty, (holdsWord_word_iff hw).mpr rfl, h⟩
  | step w c rest hw hc ih =>
    rw [mapWords_append hc, holdsWord_append_cons hname hne hc] at h
    rcases h with h | h
    · by_cases hempty : w = []
      · rw [hempty, mapWords_nil] at h
        exact absurd h (not_holdsWord_nil hne)
      · rw [mapWords_word hw hempty] at h
        exact ⟨w, hw, hempty, (holdsWord_append_cons hw hempty hc w rest).mpr (.inl ((holdsWord_word_iff hw).mpr rfl)),
          h⟩
    · obtain ⟨w', hw', hne', hholds, hinner⟩ := ih h
      exact ⟨w', hw', hne', (holdsWord_append_cons hw' hne' hc w rest).mpr (.inr hholds), hinner⟩

/-- Only the words that the characters hold are rewritten. -/
theorem mapWords_congr_of_holdsWord (h : ∀ w, AllWord w → w ≠ [] → HoldsWord w chars → f w = g w) :
    mapWords f chars = mapWords g chars := by
  induction chars using word_induction with
  | word w hw =>
    by_cases hempty : w = []
    · rw [hempty, mapWords_nil, mapWords_nil]
    · rw [mapWords_word hw hempty, mapWords_word hw hempty, h w hw hempty ((holdsWord_word_iff hw).mpr rfl)]
  | step w c rest hw hc ih =>
    have hrest := ih fun w' hw' hne' hholds => h w' hw' hne' ((holdsWord_append_cons hw' hne' hc w rest).mpr (.inr hholds))
    rw [mapWords_append hc, mapWords_append hc, hrest]
    by_cases hempty : w = []
    · rw [hempty, mapWords_nil, mapWords_nil]
    · rw [mapWords_word hw hempty, mapWords_word hw hempty,
        h w hw hempty ((holdsWord_append_cons hw hempty hc w rest).mpr (.inl ((holdsWord_word_iff hw).mpr rfl)))]

/-- Blanks belong to no word. -/
theorem isWord_of_isBlank (h : isBlank c = true) : isWord c = false := by
  have hall : ∀ n ∈ List.range' 9 5 ++ List.range' 28 5 ++ List.range' 0x2000 11 ++
      [0x85, 0xA0, 0x1680, 0x2028, 0x2029, 0x202F, 0x205F, 0x3000], isWord (Char.ofNat n) = false := by
    decide +kernel
  have hmem : c.toNat ∈ List.range' 9 5 ++ List.range' 28 5 ++ List.range' 0x2000 11 ++
      [0x85, 0xA0, 0x1680, 0x2028, 0x2029, 0x202F, 0x205F, 0x3000] := by
    simp only [isBlank, Bool.or_eq_true, Bool.and_eq_true, decide_eq_true_eq, beq_iff_eq] at h
    simp only [List.mem_append, List.mem_range'_1, List.mem_cons, List.not_mem_nil, or_false]
    omega
  exact Char.ofNat_toNat c ▸ hall _ hmem

theorem exists_strip (text : String) : ∃ front back, text.toList = front ++ ((strip text).toList ++ back) ∧
    (∀ c ∈ front, isBlank c = true) ∧ ∀ c ∈ back, isBlank c = true := by
  refine ⟨text.toList.takeWhile isBlank, ((text.toList.dropWhile isBlank).reverse.takeWhile isBlank).reverse, ?_,
    fun c hc => List.mem_takeWhile_imp hc, fun c hc => List.mem_takeWhile_imp (List.mem_reverse.mp hc)⟩
  rw [strip, String.toList_ofList, dropEndWhile, ← List.reverse_append, List.takeWhile_append_dropWhile,
    List.reverse_reverse, List.takeWhile_append_dropWhile]

end Text

open Text

namespace Symbols

variable {s t : Symbols} {name other value : String} {n : Nat} {f : List Char → List Char}

theorem isIdentifier_iff :
    IsIdentifier name ↔ isWordText name = true ∧ name.toList.head?.all (!isPlainDigit ·) = true := by
  unfold IsIdentifier
  cases name.toList.head? <;> simp

instance (name : String) : Decidable (IsIdentifier name) := decidable_of_iff' _ isIdentifier_iff

/-- An identifier is no part of a numeral. -/
theorem not_holdsWord_ofInt (hname : IsIdentifier name) (v : Int) : ¬ HoldsWord name.toList (Text.ofInt v).toList := by
  have hdigits : ∀ m : Nat, ¬ HoldsWord name.toList (Nat.toDigits 10 m) := by
    intro m h
    have hplain : ∀ c ∈ Nat.toDigits 10 m, isPlainDigit c = true :=
      fun c hc => isPlainDigit_of_isDigit (Nat.isDigit_of_mem_toDigits (by decide) (by decide) hc)
    have hword : AllWord (Nat.toDigits 10 m) :=
      fun c hc => (isPlainWord_of_isHex (isHex_of_isPlainDigit (hplain c hc))).isWord
    have hsame := (holdsWord_word_iff hword).mp h
    obtain ⟨d, ds, heq, -⟩ := toDigits_eq m
    have hfirst := hname.2 d (by rw [← hsame, heq]; rfl)
    rw [hplain d (by rw [heq]; exact List.mem_cons_self)] at hfirst
    cases hfirst
  obtain ⟨hword, hne⟩ := allWord_of_isWordText hname.1
  cases v with
  | ofNat m => exact String.toList_ofList ▸ hdigits m
  | negSucc m =>
    rw [Text.ofInt, String.toList_ofList, ← List.nil_append ('-' :: _),
      holdsWord_append_cons hword hne (by decide)]
    rintro (h | h)
    · exact not_holdsWord_nil hne h
    · exact hdigits _ h

theorem asDecimal_cases (content : String) :
    asDecimal content = Text.strip content ∨ ∃ v, asDecimal content = Text.ofInt v := by
  unfold asDecimal
  dsimp only
  split
  · split
    · split
      · exact .inl rfl
      · exact .inr ⟨_, rfl⟩
    · exact .inl rfl
  · exact .inl rfl

/-- Writing a content in base ten brings no identifier into it. -/
theorem holdsWord_of_asDecimal {content : String} (hname : IsIdentifier name)
    (h : HoldsWord name.toList (asDecimal content).toList) : HoldsWord name.toList content.toList := by
  rcases asDecimal_cases content with heq | ⟨v, heq⟩
  · obtain ⟨front, back, hcontent, hfront, hback⟩ := exists_strip content
    rw [heq] at h
    rw [hcontent]
    exact h.between (fun c hc => isWord_of_isBlank (hfront c hc)) fun c hc => isWord_of_isBlank (hback c hc)
  · rw [heq] at h
    exact absurd h (not_holdsWord_ofInt hname v)

/-! ### Symbols that mention one another -/

/-- The name is a define with a content or a size with a name. -/
def IsSymbol (s : Symbols) (name : String) : Prop := ∃ value, s.IsWordOf (name, value)

/-- The content of a define holds the name of another symbol as a whole word. -/
def Mentions (s : Symbols) (name other : String) : Prop :=
  s.IsSymbol other ∧ ∃ type content, (name, type, content) ∈ s.defines.entries ∧ content ≠ "" ∧
    HoldsWord other.toList content.toList

/--
The symbols are identifiers, each with one content, and no more than eight of them mention one another in a row. In
particular there is no circle.
-/
structure Nested (s : Symbols) : Prop where
  identifiers : ∀ {row}, s.IsWordOf row → IsIdentifier row.1
  distinct : ∀ {name value value'}, s.IsWordOf (name, value) → s.IsWordOf (name, value') → value' = value
  shallow : ∀ chain : List String, chain.IsChain s.Mentions → chain.length ≤ 8

/-- The value that is put in for a symbol holds the name of another one. -/
def Uses (s : Symbols) (name other : String) : Prop :=
  s.IsSymbol other ∧ ∃ value, s.IsWordOf (name, value) ∧ HoldsWord other.toList value.toList

/-- No more symbols use one another in a row than there are rounds. -/
structure Layered (s : Symbols) : Prop where
  identifiers : ∀ {row}, s.IsWordOf row → IsIdentifier row.1
  distinct : ∀ {name value value'}, s.IsWordOf (name, value) → s.IsWordOf (name, value') → value' = value
  shallow : ∀ chain : List String, chain.IsChain s.Uses → chain.length ≤ 8

theorem Nested.mentions_of_uses (h : s.Nested) (huses : s.Uses name other) : s.Mentions name other := by
  obtain ⟨hother, value, hrow, hholds⟩ := huses
  have ⟨_, hrow'⟩ := hother
  have hidentifier := h.identifiers hrow'
  cases hrow with
  | define known filled => exact ⟨hother, _, _, known, filled, holdsWord_of_asDecimal hidentifier hholds⟩
  | size _ _ => exact absurd hholds (not_holdsWord_ofInt hidentifier _)

theorem Nested.layered (h : s.Nested) : s.Layered where
  identifiers := h.identifiers
  distinct := h.distinct
  shallow chain hchain := h.shallow chain (hchain.imp fun _ _ => h.mentions_of_uses)

/-- Fewer symbols than the bound come after the name in a row of symbols that use one another. -/
def Within (s : Symbols) (n : Nat) (name : String) : Prop :=
  ∀ chain, (name :: chain).IsChain s.Uses → chain.length < n

theorem not_within_zero : ¬ s.Within 0 name := fun h => Nat.not_lt_zero 0 (h [] (.singleton name))

theorem Within.of_uses (h : s.Within (n + 1) name) (huses : s.Uses name other) : s.Within n other :=
  fun chain hchain => Nat.lt_of_succ_lt_succ (h (other :: chain) (.cons_cons huses hchain))

theorem Layered.within (h : s.Layered) (name : String) : s.Within 8 name :=
  fun chain hchain => h.shallow (name :: chain) hchain

/-- Every symbol that the characters hold is within the bound. -/
def Deep (s : Symbols) (n : Nat) (chars : List Char) : Prop :=
  ∀ name, s.IsSymbol name → HoldsWord name.toList chars → s.Within n name

/-! ### Full expansions -/

/-- Symbols become the expansion of their contents, in base ten where these are hexadecimal; other words stay. -/
structure IsExpansion (s : Symbols) (f : List Char → List Char) : Prop where
  symbol : ∀ {name value}, s.IsWordOf (name, value) → f name.toList = mapWords f value.toList
  other : ∀ {w}, AllWord w → ¬ s.IsSymbol (String.ofList w) → f w = w

/-- Where no symbol is held, there is nothing to expand. -/
theorem IsExpansion.mapWords_of_deep {chars : List Char} (hf : s.IsExpansion f) (hdeep : s.Deep 0 chars) :
    mapWords f chars = chars := by
  have hstays : mapWords f chars = mapWords (fun w => w) chars := mapWords_congr_of_holdsWord fun w hw _ hholds => by
    refine hf.other hw fun hsymbol => not_within_zero (hdeep _ hsymbol ?_)
    rwa [String.toList_ofList]
  rw [hstays, mapWords_id]

/-- Putting values in does not change what the text expands to. -/
theorem IsExpansion.mapWords_replaceRound (hf : s.IsExpansion f) (h : s.Layered) {rows : List (String × String)}
    (hrows : ∀ row ∈ rows, s.IsWordOf row) (text : String) :
    mapWords f (replaceRound rows text).toList = mapWords f text.toList := by
  induction rows generalizing text with
  | nil => rfl
  | cons row rows ih =>
    obtain ⟨name, value⟩ := row
    have hrow := hrows _ List.mem_cons_self
    show mapWords f (replaceRound rows (replaceWord text name value)).toList = _
    rw [ih (fun other hother => hrows other (List.mem_cons_of_mem _ hother)),
      toList_replaceWord (h.identifiers hrow).1, mapWords_mapWords]
    refine mapWords_congr (fun w hw hne => ?_) text.toList
    unfold replaced
    split
    · next hthis => rw [hthis, hf.symbol hrow]
    · exact mapWords_word hw hne

/-- A round gets to every symbol, and what it puts in holds only symbols that are less deep. -/
theorem Layered.deep_replaceRound (h : s.Layered) {rows : List (String × String)} (hrows : ∀ row ∈ rows, s.IsWordOf row)
    {text : String} (hdeep : s.Deep (n + 1) text.toList)
    (hleft : ∀ name, s.IsSymbol name → HoldsWord name.toList text.toList →
      s.Within n name ∨ name ∈ rows.map Prod.fst) : s.Deep n (replaceRound rows text).toList := by
  induction rows generalizing text with
  | nil => exact fun name hname hholds => (hleft name hname hholds).resolve_right List.not_mem_nil
  | cons row rows ih =>
    obtain ⟨word, value⟩ := row
    have hrow := hrows _ List.mem_cons_self
    -- a symbol that is held after the replacement was held before it, or the value of the word holds it
    have hheld : ∀ name, s.IsSymbol name → HoldsWord name.toList (replaceWord text word value).toList →
        s.Within n name ∨ name ≠ word ∧ HoldsWord name.toList text.toList := by
      intro name hname hholds
      obtain ⟨value', hname'⟩ := hname
      obtain ⟨hword, hne⟩ := allWord_of_isWordText (h.identifiers hname').1
      rw [toList_replaceWord (h.identifiers hrow).1] at hholds
      obtain ⟨w, hw, -, htext, hinner⟩ := hholds.of_mapWords hword hne
      unfold replaced at hinner
      split at hinner
      · next hthis =>
        exact .inl ((hdeep word ⟨_, hrow⟩ (hthis ▸ htext)).of_uses ⟨⟨_, hname'⟩, value, hrow, hinner⟩)
      · next hthis =>
        obtain rfl := (holdsWord_word_iff hw).mp hinner
        exact .inr ⟨fun heq => hthis (heq ▸ rfl), htext⟩
    refine ih (fun other hother => hrows other (List.mem_cons_of_mem _ hother)) (fun name hname hholds => ?_)
      fun name hname hholds => ?_
    · rcases hheld name hname hholds with hwithin | ⟨-, htext⟩
      · exact fun chain hchain => Nat.lt_succ_of_lt (hwithin chain hchain)
      · exact hdeep name hname htext
    · rcases hheld name hname hholds with hwithin | ⟨hne, htext⟩
      · exact .inl hwithin
      · exact (hleft name hname htext).imp_right fun hmem => (List.mem_cons.mp hmem).resolve_left hne

/-! ### Rounds -/

section Rounds

variable {rows : List (String × String)}

/-- The rows of a replacement are the symbols with their values. -/
structure Complete (s : Symbols) (rows : List (String × String)) : Prop where
  sound : ∀ row ∈ rows, s.IsWordOf row
  all : ∀ name, s.IsSymbol name → name ∈ rows.map Prod.fst

theorem Layered.deep_round (h : s.Layered) (hrows : s.Complete rows) {text : String}
    (hdeep : s.Deep (n + 1) text.toList) : s.Deep n (replaceRound rows text).toList :=
  h.deep_replaceRound hrows.sound hdeep fun name hname _ => .inr (hrows.all name hname)

/-- A text that a round does not change holds no symbol. -/
theorem Layered.deep_of_fixed (h : s.Layered) (hrows : s.Complete rows) {text : String}
    (hfixed : replaceRound rows text = text) (hdeep : s.Deep n text.toList) : s.Deep 0 text.toList := by
  induction n with
  | zero => exact hdeep
  | succ n ih => exact ih (hfixed ▸ h.deep_round hrows hdeep)

/-- As many rounds as the text is deep leave no symbol, and stopping early does too. -/
theorem Layered.deep_replaceRounds (h : s.Layered) (hrows : s.Complete rows) {text : String}
    (hdeep : s.Deep n text.toList) : s.Deep 0 (replaceRounds rows n text).toList := by
  induction n generalizing text with
  | zero => exact hdeep
  | succ n ih =>
    unfold replaceRounds
    dsimp only
    split
    · next hfixed => exact h.deep_of_fixed hrows hfixed hdeep
    · exact ih (h.deep_round hrows hdeep)

theorem IsExpansion.mapWords_replaceRounds (hf : s.IsExpansion f) (h : s.Layered) (hrows : s.Complete rows)
    (rounds : Nat) (text : String) : mapWords f (replaceRounds rows rounds text).toList = mapWords f text.toList := by
  induction rounds generalizing text with
  | zero => rfl
  | succ rounds ih =>
    unfold replaceRounds
    dsimp only
    split
    · rfl
    · rw [ih, hf.mapWords_replaceRound h hrows.sound]

end Rounds

theorem complete_replacementOrder (s : Symbols) : s.Complete (replacementOrder s.boundWords) := by
  refine ⟨fun row hrow => isWordOf_boundWords (List.mem_mergeSort.mp hrow), fun name ⟨value, hrow⟩ => ?_⟩
  refine ((List.mergeSort_perm s.boundWords.entries _).map _).mem_iff.mpr (Table.mem_keys_iff.mpr ?_)
  refine contains_boundWords ?_
  cases hrow with
  | define known filled => exact .inl ⟨_, _, known, filled⟩
  | size known word => exact .inr ⟨_, known, word⟩

theorem Layered.deep_substitute (h : s.Layered) (bound : String) : s.Deep 0 (s.substitute bound).toList :=
  h.deep_replaceRounds (complete_replacementOrder s) fun name _ _ => h.within name

theorem IsExpansion.toList_substitute (hf : s.IsExpansion f) (h : s.Layered) (bound : String) :
    (s.substitute bound).toList = mapWords f bound.toList := by
  rw [← hf.mapWords_of_deep (h.deep_substitute bound), substitute,
    hf.mapWords_replaceRounds h (complete_replacementOrder s)]

/-! ### There is an expansion -/

/-- The expansion of a word that goes on for no more than so many symbols in a row. -/
def expandWithin (s : Symbols) : Nat → List Char → List Char
  | 0, w => w
  | n + 1, w =>
    match s.boundWords.find? (String.ofList w) with
    | some value => mapWords (s.expandWithin n) value.toList
    | none => w

theorem Layered.find?_boundWords (h : s.Layered) (hrow : s.IsWordOf (name, value)) :
    s.boundWords.find? name = some value := by
  have hkey := (complete_replacementOrder s).all name ⟨value, hrow⟩
  have hthere := ((List.mergeSort_perm s.boundWords.entries _).map _).mem_iff.mp hkey
  obtain ⟨value', hvalue⟩ := Table.contains_iff.mp (Table.mem_keys_iff.mp hthere)
  rw [hvalue, h.distinct hrow (isWordOf_boundWords (Table.mem_of_lookupIn hvalue))]

theorem find?_boundWords_of_not (h : ¬ s.IsSymbol name) : s.boundWords.find? name = none := by
  cases hvalue : s.boundWords.find? name with
  | none => rfl
  | some value => exact absurd ⟨value, isWordOf_boundWords (Table.mem_of_lookupIn hvalue)⟩ h

/-- Going further than a word is deep makes no difference. -/
theorem expandWithin_succ {w : List Char}
    (hwithin : s.IsSymbol (String.ofList w) → s.Within n (String.ofList w)) :
    s.expandWithin (n + 1) w = s.expandWithin n w := by
  induction n generalizing w with
  | zero =>
    have hnone := find?_boundWords_of_not fun hsymbol => not_within_zero (hwithin hsymbol)
    simp only [expandWithin, hnone]
  | succ n ih =>
    rw [expandWithin, expandWithin]
    cases hvalue : s.boundWords.find? (String.ofList w) with
    | none => rfl
    | some value =>
      have hrow := isWordOf_boundWords (Table.mem_of_lookupIn hvalue)
      refine mapWords_congr_of_holdsWord fun w' _ _ hholds => ih fun hsymbol => ?_
      refine (hwithin ⟨value, hrow⟩).of_uses ⟨hsymbol, value, hrow, ?_⟩
      rwa [String.toList_ofList]

theorem Layered.isExpansion (h : s.Layered) : s.IsExpansion (s.expandWithin 8) where
  symbol {name value} hrow := by
    rw [expandWithin, String.ofList_toList, h.find?_boundWords hrow]
    refine mapWords_congr_of_holdsWord fun w _ _ hholds => (expandWithin_succ fun hsymbol => ?_).symm
    refine (h.within name).of_uses ⟨hsymbol, value, hrow, ?_⟩
    rwa [String.toList_ofList]
  other {w} _ hnot := by rw [expandWithin, find?_boundWords_of_not hnot]

/-! ### What becomes of a bound -/

/-- The text that a bound becomes; there is none where a size has too many digits to be written. -/
def substituted (s : Symbols) (bound : String) : Except Fault String :=
  if s.hasLongWord then .error .longNumber else .ok (s.substitute bound)

/-- A bound that is read for the first time comes to the value of this text, or to zero if that has none. -/
theorem fst_readSize_of_new {bound : String} (hnew : s.arraySizes.contains bound = false) (owner : String) :
    ((readSize bound owner).runOn s).1 = (s.substituted bound).map fun text =>
      match Bound.evaluate text with
      | .ok size => size
      | .error _ => 0 := by
  rw [Generate.runOn_readSize, hnew, substituted, Bool.not_false, Bool.true_and]
  split
  · rfl
  · have hnone : s.arraySizes.find? bound = none := by simpa [Table.contains] using hnew
    unfold arraySize
    dsimp only
    rw [hnone]
    dsimp only [Except.map]
    cases Bound.evaluate (s.substitute bound) <;> rfl

theorem isWordOf_perm (hdefines : t.defines.entries.Perm s.defines.entries)
    (hsizes : t.arraySizes.entries.Perm s.arraySizes.entries) {row : String × String} :
    t.IsWordOf row ↔ s.IsWordOf row := by
  constructor
  · rintro (⟨known, filled⟩ | ⟨known, word⟩)
    · exact .define (hdefines.mem_iff.mp known) filled
    · exact .size (hsizes.mem_iff.mp known) word
  · rintro (⟨known, filled⟩ | ⟨known, word⟩)
    · exact .define (hdefines.mem_iff.mpr known) filled
    · exact .size (hsizes.mem_iff.mpr known) word

theorem Layered.of_iff (h : s.Layered) (hrows : ∀ {row}, t.IsWordOf row ↔ s.IsWordOf row) : t.Layered := by
  have huses : ∀ name other, t.Uses name other → s.Uses name other := by
    rintro name other ⟨⟨_, hother⟩, value, hrow, hholds⟩
    exact ⟨⟨_, hrows.mp hother⟩, value, hrows.mp hrow, hholds⟩
  exact ⟨fun hrow => h.identifiers (hrows.mp hrow), fun hrow hrow' => h.distinct (hrows.mp hrow) (hrows.mp hrow'),
    fun chain hchain => h.shallow chain (hchain.imp huses)⟩

theorem IsExpansion.of_iff (hf : s.IsExpansion f) (hrows : ∀ {row}, t.IsWordOf row ↔ s.IsWordOf row) :
    t.IsExpansion f :=
  ⟨fun hrow => hf.symbol (hrows.mp hrow), fun hw hnot => hf.other hw fun ⟨value, hrow⟩ => hnot ⟨value, hrows.mpr hrow⟩⟩

/--
Where no more than eight symbols mention one another in a row, and no size has too many digits to be written, every
bound becomes the text in which each word that is a symbol is replaced by its full expansion and everything else stays.
No symbol is left in it as a whole word, and it is the same in whatever order the symbols came to be known.
-/
theorem substitute_expands (h : s.Nested) (hshort : s.hasLongWord = false) :
    (∃ f, s.IsExpansion f) ∧
    ∀ bound, ∃ text, s.substituted bound = .ok text ∧
      (∀ f, s.IsExpansion f → text.toList = mapWords f bound.toList) ∧
      (∀ name, s.IsSymbol name → ¬ HoldsWord name.toList text.toList) ∧
      ∀ t : Symbols, t.defines.entries.Perm s.defines.entries → t.arraySizes.entries.Perm s.arraySizes.entries →
        t.substituted bound = .ok text := by
  have hexpansion := h.layered.isExpansion
  refine ⟨⟨_, hexpansion⟩, fun bound => ⟨s.substitute bound, by rw [substituted, hshort]; rfl, fun f hf => ?_,
    fun name hname hholds => ?_, fun t hdefines hsizes => ?_⟩⟩
  · exact hf.toList_substitute h.layered bound
  · exact not_within_zero (h.layered.deep_substitute bound name hname hholds)
  · have hrows : ∀ {row}, t.IsWordOf row ↔ s.IsWordOf row := isWordOf_perm hdefines hsizes
    have hsame : t.substitute bound = s.substitute bound := by
      rw [← String.toList_inj, (hexpansion.of_iff hrows).toList_substitute (h.layered.of_iff hrows),
        hexpansion.toList_substitute h.layered]
    have hshort' : t.hasLongWord = false := by
      rw [hasLongWord, hsizes.any_eq]
      exact hshort
    rw [substituted, hshort', hsame]
    rfl

/-- Where each step lowers a rank, no more steps follow one another than the rank of the first name. -/
theorem length_le_rank {R : String → String → Prop} {rank : String → Nat} (h : ∀ a b, R a b → rank b < rank a)
    {chain : List String} (hchain : (name :: chain).IsChain R) : chain.length ≤ rank name := by
  induction chain generalizing name with
  | nil => exact Nat.zero_le _
  | cons next chain ih =>
    obtain ⟨hstep, hrest⟩ := List.isChain_cons_cons.mp hchain
    exact Nat.lt_of_le_of_lt (ih hrest) (h name next hstep)

/-- An area that is made of a width and a counting element. -/
def areaContext : Symbols :=
  { Symbols.ofSettings {} with
    defines := ⟨[("AREA", none, "(WIDTH*ImGuiKey_COUNT)"), ("WIDTH", none, " 0x10")]⟩
    arraySizes := ⟨[("ImGuiKey_COUNT", -4)]⟩ }

theorem substitute_expands_area :
    areaContext.Nested ∧ areaContext.hasLongWord = false ∧
    areaContext.substituted "AREA-WIDTH_2" = .ok "(16*-4)-WIDTH_2" := by
  have hrows : ∀ {row}, areaContext.IsWordOf row →
      row ∈ [("AREA", "(WIDTH*ImGuiKey_COUNT)"), ("WIDTH", "16"), ("ImGuiKey_COUNT", "-4")] := by
    intro row hrow
    cases hrow with
    | define known _ =>
      simp only [areaContext, List.mem_cons, Prod.mk.injEq, List.not_mem_nil, or_false] at known
      rcases known with ⟨rfl, -, rfl⟩ | ⟨rfl, -, rfl⟩
      all_goals decide +kernel
    | size known _ =>
      simp only [areaContext, List.mem_cons, Prod.mk.injEq, List.not_mem_nil, or_false] at known
      obtain ⟨rfl, rfl⟩ := known
      decide +kernel
  have hrank : ∀ name other, areaContext.Mentions name other →
      (if other = "AREA" then 1 else 0) < if name = "AREA" then 1 else 0 := by
    rintro name other ⟨⟨value, hother⟩, type, content, known, -, hholds⟩
    have hsymbol : other ∈ ["AREA", "WIDTH", "ImGuiKey_COUNT"] := List.mem_map_of_mem (f := Prod.fst) (hrows hother)
    simp only [areaContext, List.mem_cons, Prod.mk.injEq, List.not_mem_nil, or_false] at known hsymbol
    rcases known with ⟨rfl, -, rfl⟩ | ⟨rfl, -, rfl⟩ <;> rcases hsymbol with rfl | rfl | rfl
    all_goals revert hholds
    all_goals decide +kernel
  have hnested : areaContext.Nested := by
    refine ⟨fun {row} hrow => ?_, fun {name value value'} hrow hrow' => ?_, fun chain hchain => ?_⟩
    · have hall : ∀ row ∈ [("AREA", "(WIDTH*ImGuiKey_COUNT)"), ("WIDTH", "16"), ("ImGuiKey_COUNT", "-4")],
          IsIdentifier row.1 := by decide +kernel
      exact hall row (hrows hrow)
    · have hall : ∀ row ∈ [("AREA", "(WIDTH*ImGuiKey_COUNT)"), ("WIDTH", "16"), ("ImGuiKey_COUNT", "-4")],
          ∀ row' ∈ [("AREA", "(WIDTH*ImGuiKey_COUNT)"), ("WIDTH", "16"), ("ImGuiKey_COUNT", "-4")],
            row.1 = row'.1 → row'.2 = row.2 := by decide +kernel
      exact hall _ (hrows hrow) _ (hrows hrow') rfl
    · cases chain with
      | nil => exact Nat.zero_le 8
      | cons name chain =>
        have hlength := length_le_rank hrank hchain
        have hle : (if name = "AREA" then 1 else 0) ≤ 1 := by split <;> omega
        rw [List.length_cons]
        omega
  have hshort : areaContext.hasLongWord = false := by decide +kernel
  obtain ⟨-, hbounds⟩ := substitute_expands hnested hshort
  obtain ⟨text, htext, hexpands, -⟩ := hbounds "AREA-WIDTH_2"
  refine ⟨hnested, hshort, htext.trans (congrArg Except.ok ?_)⟩
  rw [← String.toList_inj, hexpands _ hnested.layered.isExpansion]
  decide +kernel

/-- A counting element with a value of too many digits. -/
def longContext : Symbols :=
  { Symbols.ofSettings {} with arraySizes := ⟨[("ImGuiKey_COUNT", Int.ofNat (Nat.pow 10 maxDigits))]⟩ }

/-- The other conditions do not keep a size from having too many digits, and then no bound becomes a text. -/
theorem substituted_beyond_limit :
    longContext.Nested ∧ longContext.substituted "ImGuiKey_COUNT+1" = .error .longNumber ∧
    (readSize "ImGuiKey_COUNT+1" "").runOn longContext = (.error .longNumber, longContext) := by
  have hrows : ∀ {row}, longContext.IsWordOf row →
      row = ("ImGuiKey_COUNT", Text.ofInt (Int.ofNat (Nat.pow 10 maxDigits))) := by
    intro row hrow
    cases hrow with
    | define known _ => exact absurd known List.not_mem_nil
    | size known _ =>
      obtain ⟨rfl, rfl⟩ := Prod.mk.inj (List.mem_singleton.mp known)
      rfl
  have hnested : longContext.Nested := by
    refine ⟨fun {row} hrow => ?_, fun {name value value'} hrow hrow' => ?_, fun chain hchain => ?_⟩
    · rw [hrows hrow]
      exact isIdentifier_iff.mpr (by decide +kernel)
    · exact (congrArg Prod.snd (hrows hrow')).trans (congrArg Prod.snd (hrows hrow)).symm
    · match chain, hchain with
      | [], _ => exact Nat.zero_le 8
      | [_], _ => exact Nat.le_of_ble_eq_true rfl
      | name :: other :: chain, hchain =>
        obtain ⟨⟨-, _, _, known, -⟩, -⟩ := List.isChain_cons_cons.mp hchain
        exact absurd known List.not_mem_nil
  have hlong : longContext.hasLongWord = true := by
    have hnat : ∀ n : Nat, hasDecimal n = false → hasDecimal (Int.ofNat n).natAbs = false := fun _ hn => hn
    have hsize := hnat _ (hasDecimal_eq_false (Nat.le_refl (Nat.pow 10 maxDigits)))
    have hname : isWordText "ImGuiKey_COUNT" = true := by decide +kernel
    simp only [hasLongWord, longContext, List.any_cons, hname, hsize, Bool.not_false, Bool.and_self, Bool.true_or]
  refine ⟨hnested, by rw [substituted, hlong]; rfl, ?_⟩
  have hnew : longContext.arraySizes.contains "ImGuiKey_COUNT+1" = false := by decide +kernel
  rw [Generate.runOn_readSize, hnew, hlong]
  rfl

end Symbols

end InteropGen
