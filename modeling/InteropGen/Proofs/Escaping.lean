import InteropGen.Proofs.Trees

/-!
# Escaped texts in documentation

Escaping keeps a text whole: `unescapeXml` gives it back (`unescapeXml_escapeXml`), and it neither adds nor takes away
line ends. What is written of a text behind a mark of documentation therefore has the lines of the text, and behind the
mark stands the first of them only: the others are documentation only where the text itself marks them as such
(`map_isDocumentation`).
-/

namespace InteropGen.Text

/-! ### Escaping -/

/-- What stands for a character in XML. -/
def escapedChar (c : Char) : List Char :=
  if c = '&' then "&amp;".toList else if c = '<' then "&lt;".toList else if c = '>' then "&gt;".toList else [c]

/-- The characters with the entities of escaping replaced, from left to right. -/
def unescapedChars : List Char → List Char
  | '&' :: 'a' :: 'm' :: 'p' :: ';' :: rest => '&' :: unescapedChars rest
  | '&' :: 'l' :: 't' :: ';' :: rest => '<' :: unescapedChars rest
  | '&' :: 'g' :: 't' :: ';' :: rest => '>' :: unescapedChars rest
  | c :: rest => c :: unescapedChars rest
  | [] => []

/-- The text with the entities of escaping replaced. -/
def unescapeXml (text : String) : String := String.ofList (unescapedChars text.toList)

variable {c separator : Char} {chars front back : List Char}

theorem toList_escapeXml (text : String) : (escapeXml text).toList = text.toList.flatMap escapedChar :=
  String.toList_ofList

theorem escapedChar_of_plain (hamp : c ≠ '&') (hlt : c ≠ '<') (hgt : c ≠ '>') : escapedChar c = [c] := by
  rw [escapedChar, if_neg hamp, if_neg hlt, if_neg hgt]

theorem unescapedChars_cons (h : c ≠ '&') (rest : List Char) :
    unescapedChars (c :: rest) = c :: unescapedChars rest := by
  rw [unescapedChars]
  all_goals
    rintro _ rfl
    exact absurd rfl h

theorem unescapedChars_escaped (chars : List Char) : unescapedChars (chars.flatMap escapedChar) = chars := by
  induction chars with
  | nil => rfl
  | cons c rest ih =>
    rw [List.flatMap_cons]
    by_cases hamp : c = '&'
    · subst hamp
      exact congrArg _ ih
    · by_cases hlt : c = '<'
      · subst hlt
        exact congrArg _ ih
      · by_cases hgt : c = '>'
        · subst hgt
          exact congrArg _ ih
        · rw [escapedChar_of_plain hamp hlt hgt, List.singleton_append, unescapedChars_cons hamp, ih]

/-- Escaping is undone. -/
theorem unescapeXml_escapeXml (text : String) : unescapeXml (escapeXml text) = text := by
  rw [unescapeXml, toList_escapeXml, unescapedChars_escaped, String.ofList_toList]

/-! ### Physical lines -/

/-- The lines that a text has in a file, where a line feed ends a line. -/
def physicalLines (text : String) : List String := split text '\n'

/-- After its indentation the line is marked as documentation. -/
def isDocumentation (line : String) : Bool := startsWith (stripStart line ' ') "///"

/-- The marks of documentation after blanks, for characters. -/
def MarksDocumentation (chars : List Char) : Prop := "///".toList <+: chars.dropWhile (· == ' ')

/-- Are the characters a line of documentation? -/
def isMarked (chars : List Char) : Bool := isDocumentation (String.ofList chars)

theorem isMarked_iff : isMarked chars = true ↔ MarksDocumentation chars := by
  simp only [isMarked, isDocumentation, startsWith_iff, stripStart, String.toList_ofList]
  rfl

theorem map_physicalLines (text : String) :
    (physicalLines text).map isDocumentation = (splitChars '\n' text.toList).map isMarked := by
  rw [physicalLines, split, List.map_map]
  exact List.map_congr_left fun part _ => by rw [Function.comp_apply, isMarked]

/-- Characters that hold no separator go to the last part. -/
theorem splitChars_append_free (h : separator ∉ back) (chars : List Char) :
    ∃ parts part, splitChars separator chars = parts ++ [part] ∧
      splitChars separator (chars ++ back) = parts ++ [part ++ back] := by
  induction chars with
  | nil => exact ⟨[], [], rfl, splitChars_of_notMem h⟩
  | cons c rest ih =>
    obtain ⟨parts, part, hrest, happended⟩ := ih
    rw [List.cons_append, splitChars, splitChars, hrest, happended]
    split
    · exact ⟨[] :: parts, part, rfl, rfl⟩
    · cases parts with
      | nil => exact ⟨[], c :: part, rfl, rfl⟩
      | cons first parts => exact ⟨(c :: first) :: parts, part, rfl, rfl⟩

/-- Characters before others that hold no separator go to the first part. -/
theorem splitChars_free_append (h : separator ∉ front) (chars : List Char) :
    ∃ first parts, splitChars separator chars = first :: parts ∧
      splitChars separator (front ++ chars) = (front ++ first) :: parts := by
  induction front with
  | nil =>
    obtain ⟨first, parts, hsplit⟩ := List.exists_cons_of_ne_nil (splitChars_ne_nil separator chars)
    exact ⟨first, parts, hsplit, hsplit⟩
  | cons c front ih =>
    obtain ⟨first, parts, hsplit, hfront⟩ := ih fun hmem => h (List.mem_cons_of_mem _ hmem)
    refine ⟨first, parts, hsplit, ?_⟩
    have hc : c ≠ separator := fun heq => h (heq ▸ List.mem_cons_self)
    rw [List.cons_append, splitChars, if_neg hc, hfront]
    rfl

theorem escapedChar_cases (c : Char) : (∃ entity, escapedChar c = '&' :: entity) ∨ escapedChar c = [c] := by
  unfold escapedChar
  split
  · exact .inl ⟨_, rfl⟩
  · split
    · exact .inl ⟨_, rfl⟩
    · split
      · exact .inl ⟨_, rfl⟩
      · exact .inr rfl

theorem free_escapedChar (h : c ≠ '\n') : '\n' ∉ escapedChar c := by
  unfold escapedChar
  split
  · decide
  · split
    · decide
    · split
      · decide
      · exact fun hmem => h (List.mem_singleton.mp hmem).symm

/-- The parts of an escaped text are those of the text, escaped. -/
theorem splitChars_escaped (chars : List Char) :
    splitChars '\n' (chars.flatMap escapedChar) = (splitChars '\n' chars).map (·.flatMap escapedChar) := by
  induction chars with
  | nil => rfl
  | cons c rest ih =>
    rw [List.flatMap_cons]
    by_cases hend : c = '\n'
    · subst hend
      show splitChars '\n' ('\n' :: rest.flatMap escapedChar) = _
      rw [splitChars, if_pos rfl, ih, splitChars, if_pos rfl]
      rfl
    · obtain ⟨first, parts, hsplit, hfront⟩ := splitChars_free_append (free_escapedChar hend) (rest.flatMap escapedChar)
      have hplain : '\n' ∉ [c] := fun hmem => hend (List.mem_singleton.mp hmem).symm
      obtain ⟨first', parts', hsplit', hfront'⟩ := splitChars_free_append hplain rest
      have hparts : first :: parts = (first' :: parts').map (·.flatMap escapedChar) := by
        rw [← hsplit, ← hsplit', ih]
      obtain ⟨rfl, rfl⟩ := List.cons.inj hparts
      rw [List.singleton_append] at hfront'
      rw [hfront, hfront']
      rfl

/-! ### Marks -/

theorem marksDocumentation_cons (h : c ≠ ' ') (chars : List Char) :
    MarksDocumentation (c :: chars) ↔ "///".toList <+: c :: chars := by
  rw [MarksDocumentation, List.dropWhile_cons_of_neg (by simpa using h)]

theorem prefix_append_iff {pattern : List Char} (h : ∀ c ∈ back.head?, c ∉ pattern) (chars : List Char) :
    pattern <+: chars ++ back ↔ pattern <+: chars := by
  induction pattern generalizing chars with
  | nil => simp
  | cons a pattern ih =>
    cases chars with
    | nil =>
      cases back with
      | nil => simp
      | cons b back =>
        have hne : a ≠ b := by
          rintro rfl
          exact h a rfl List.mem_cons_self
        simp [List.cons_prefix_cons, hne]
    | cons b chars =>
      rw [List.cons_append, List.cons_prefix_cons, List.cons_prefix_cons,
        ih fun c hc hmem => h c hc (List.mem_cons_of_mem _ hmem)]

theorem prefix_escaped_iff {pattern : List Char} (h : ∀ c ∈ pattern, c = '/') (chars : List Char) :
    pattern <+: chars.flatMap escapedChar ↔ pattern <+: chars := by
  induction pattern generalizing chars with
  | nil => simp
  | cons a pattern ih =>
    obtain ⟨rfl, hrest⟩ := List.forall_mem_cons.mp h
    cases chars with
    | nil => exact Iff.rfl
    | cons c chars =>
      rw [List.flatMap_cons]
      by_cases hplain : c = '/'
      · subst hplain
        show '/' :: pattern <+: '/' :: chars.flatMap escapedChar ↔ _
        rw [List.cons_prefix_cons, List.cons_prefix_cons, ih hrest]
      · have hslash : '/' ≠ c := fun h => hplain h.symm
        rcases escapedChar_cases c with ⟨entity, hentity⟩ | hself
        · simp [hentity, List.cons_prefix_cons, hslash]
        · simp [hself, List.cons_prefix_cons, hslash]

/-- What stands behind a text does not mark it. -/
theorem marksDocumentation_append (hback : ∀ c ∈ back.head?, c ≠ ' ' ∧ c ≠ '/') (chars : List Char) :
    MarksDocumentation (chars ++ back) ↔ MarksDocumentation chars := by
  have hslashes : ∀ c ∈ back.head?, c ∉ "///".toList := fun c hc hmem => by
    rcases hback c hc with ⟨-, hslash⟩
    simp [hslash] at hmem
  induction chars with
  | nil =>
    cases back with
    | nil => exact Iff.rfl
    | cons b back =>
      rw [List.nil_append, marksDocumentation_cons (hback b rfl).1]
      exact prefix_append_iff hslashes []
  | cons c rest ih =>
    by_cases hblank : c = ' '
    · subst hblank
      exact ih
    · rw [List.cons_append, marksDocumentation_cons hblank, marksDocumentation_cons hblank, ← List.cons_append,
        prefix_append_iff hslashes]

/-- Escaping a line does not mark it. -/
theorem marksDocumentation_escaped (chars : List Char) :
    MarksDocumentation (chars.flatMap escapedChar) ↔ MarksDocumentation chars := by
  induction chars with
  | nil => exact Iff.rfl
  | cons c rest ih =>
    by_cases hblank : c = ' '
    · subst hblank
      exact ih
    · have hmark : MarksDocumentation ((c :: rest).flatMap escapedChar) ↔
          "///".toList <+: (c :: rest).flatMap escapedChar := by
        rw [List.flatMap_cons]
        rcases escapedChar_cases c with ⟨entity, hentity⟩ | hself
        · rw [hentity]
          exact marksDocumentation_cons (by decide) _
        · rw [hself]
          exact marksDocumentation_cons hblank _
      rw [hmark, prefix_escaped_iff (by simp), marksDocumentation_cons hblank]

theorem marksDocumentation_blanks (count : Nat) (chars : List Char) :
    MarksDocumentation (List.replicate count ' ' ++ chars) ↔ MarksDocumentation chars := by
  induction count with
  | zero => exact Iff.rfl
  | succ count ih => exact ih

theorem isMarked_congr (h : MarksDocumentation front ↔ MarksDocumentation back) : isMarked front = isMarked back := by
  rw [Bool.eq_iff_iff, isMarked_iff, isMarked_iff, h]

/--
Of the lines of a text behind a mark of documentation, the first is marked, and each of the others is marked exactly if
it is marked in the text.
-/
theorem map_isDocumentation {opening closing : String} (hopening : '\n' ∉ opening.toList)
    (hclosing : '\n' ∉ closing.toList) (hmarks : ∀ rest, MarksDocumentation (opening.toList ++ rest))
    (hback : ∀ c ∈ closing.toList.head?, c ≠ ' ' ∧ c ≠ '/') (text : String) :
    (physicalLines (opening ++ escapeXml text ++ closing)).map isDocumentation =
      true :: (physicalLines text).tail.map isDocumentation := by
  obtain ⟨first, others, htext⟩ := List.exists_cons_of_ne_nil (splitChars_ne_nil '\n' text.toList)
  obtain ⟨escaped, rest, hescaped, hopened⟩ := splitChars_free_append hopening (escapeXml text).toList
  have hrest : rest.map isMarked = others.map isMarked := by
    rw [toList_escapeXml, splitChars_escaped, htext] at hescaped
    have hparts : ∀ part, isMarked (part.flatMap escapedChar) = isMarked part := fun part =>
      isMarked_congr (marksDocumentation_escaped part)
    rw [← (List.cons.inj hescaped).2]
    simp only [List.map_map, Function.comp_def, hparts]
  obtain ⟨parts, last, hparts, hclosed⟩ := splitChars_append_free hclosing (opening.toList ++ (escapeXml text).toList)
  have hmarked : ∀ chars, isMarked (opening.toList ++ chars) = true := fun chars => isMarked_iff.mpr (hmarks chars)
  have htail : (physicalLines text).tail.map isDocumentation = others.map isMarked := by
    rw [List.map_tail, map_physicalLines, htext]
    rfl
  rw [map_physicalLines, String.toList_append, String.toList_append, hclosed, htail, ← hrest]
  rw [hopened] at hparts
  cases parts with
  | nil =>
    obtain ⟨hlast, rfl⟩ := List.cons.inj hparts
    rw [← hlast, List.append_assoc]
    exact congrArg ([·]) (hmarked _)
  | cons front parts =>
    obtain ⟨rfl, rfl⟩ := List.cons.inj (hparts.trans List.cons_append)
    rw [List.cons_append, List.map_cons, hmarked, List.map_append, List.map_append, List.map_singleton,
      List.map_singleton, isMarked_congr (marksDocumentation_append hback last)]

end InteropGen.Text
