import InteropGen.Decl.Tidy
import InteropGen.Proofs.Words

/-!
# Elements without the stem of their enum

The elements of an enum lose the stem in two passes over their names and over the texts of their values, and the
second pass reads what the first one wrote. Both find the stem only where a word begins (`hitsWords_stemAt`), so that
together they rewrite each maximal word on its own (`toList_dropStem`), and what they make of a word in the text of a
value is what they make of it as a name (`toList_dropStem_words`). `elements_renamed` says this of a whole enum, with
what becomes of a word that begins with the stem.
-/

namespace InteropGen

namespace Text

variable {w rest : List Char}

theorem isWord_of_isDecimal {c : Char} (h : isDecimal c = true) : isWord c = true := by
  by_cases hascii : c.toNat < 128
  · have hrange : ∀ range ∈ decimalRanges, 128 ≤ range.1 := by decide
    have hplain : 48 ≤ c.toNat ∧ c.toNat ≤ 57 := by
      unfold isDecimal digitZero? at h
      split at h
      · next hplain => simpa using hplain
      · rw [Option.isSome_map] at h
        obtain ⟨range, hfound⟩ := Option.isSome_iff_exists.mp h
        have hle := hrange range (List.mem_of_find?_eq_some hfound)
        have hin := List.find?_some hfound
        simp only [Bool.and_eq_true, decide_eq_true_eq] at hin
        omega
    have hdigit : c.isDigit = true := by
      simp only [Char.isDigit, Bool.and_eq_true, decide_eq_true_eq, ge_iff_le, UInt32.le_iff_toNat_le]
      exact hplain
    simp [isWord, hascii, Char.isAlphanum, hdigit]
  · simp [isWord, hascii, isDigit, h]

/-- A word stands in front of a text exactly if it stands in front of the first word of the text. -/
theorem AllWord.prefix_append_iff {word : List Char} (hword : AllWord word) (hw : AllWord w)
    (hrest : rest.head?.any isWord = false) : word <+: w ++ rest ↔ word <+: w := by
  constructor
  · rintro ⟨suffix, hsuffix⟩
    refine ⟨suffix.takeWhile isWord, ?_⟩
    rw [← List.takeWhile_append_of_pos hword, hsuffix, hw.takeWhile_append hrest]
  · exact fun h => h.trans (List.prefix_append w rest)

theorem AllWord.append {w' : List Char} (h : AllWord w) (h' : AllWord w') : AllWord (w ++ w') := by
  intro c hc
  rcases List.mem_append.mp hc with hc | hc
  · exact h c hc
  · exact h' c hc

theorem AllWord.stripEnd {text : String} (h : AllWord text.toList) (c : Char) :
    AllWord (stripEnd text c).toList := by
  intro d hd
  rw [Text.stripEnd, String.toList_ofList, dropEndWhile, List.mem_reverse] at hd
  exact h d (List.mem_reverse.mp ((List.dropWhile_sublist _).subset hd))

end Text

namespace Decl

open Text

variable {mark w rest value : List Char} {next : List Char → Bool}

/-! ### The places of a stem -/

/-- What is asked for after the stem hangs on the word alone. -/
def WithinWord (next : List Char → Bool) : Prop :=
  ∀ w rest, AllWord w → rest.head?.any isWord = false → next (w ++ rest) = next w

theorem withinWord_beginsWithDigit : WithinWord beginsWithDigit := by
  intro w rest _ hrest
  cases w with
  | cons c tail => rfl
  | nil =>
    cases rest with
    | nil => rfl
    | cons c tail =>
      have hc : ¬isDecimal c = true := fun hdecimal => by
        have hword : isWord c = true := isWord_of_isDecimal hdecimal
        rw [show (c :: tail).head?.any isWord = isWord c from rfl, hword] at hrest
        cases hrest
      show isDecimal c = false
      simpa using hc

theorem stemAt_iff {before : Option Char} (hmark : AllWord mark) (hne : mark ≠ []) (chars : List Char) :
    stemAt mark next before chars = true ↔
      before.any isWord = false ∧ ∃ rest, chars = mark ++ rest ∧ next rest = true := by
  unfold stemAt isBoundary
  rw [Bool.and_eq_true, Bool.and_eq_true, List.isPrefixOf_iff_prefix, bne_iff_ne]
  constructor
  · rintro ⟨⟨hboundary, rest, rfl⟩, hnext⟩
    rw [hmark.head?_any hne] at hboundary
    rw [List.drop_left] at hnext
    exact ⟨by simpa using hboundary, rest, rfl, hnext⟩
  · rintro ⟨hbefore, rest, rfl, hnext⟩
    rw [hmark.head?_any hne, List.drop_left, hbefore]
    exact ⟨⟨by decide, List.prefix_append mark rest⟩, hnext⟩

/-- A stem that is a word is found only at the beginning of words. -/
theorem hitsWords_stemAt (hmark : AllWord mark) (hne : mark ≠ []) (hnext : WithinWord next) :
    HitsWords (stemAt mark next) mark.length where
  wide := by simpa using hne
  begins hhit := ((stemAt_iff hmark hne _).mp hhit).1
  within hhit := by
    obtain ⟨-, rest, rfl, -⟩ := (stemAt_iff hmark hne _).mp hhit
    exact ⟨mark, rest, rfl, rfl, hmark⟩
  alone {before w rest} hbefore hw hwne hrest := by
    rw [Bool.eq_iff_iff, stemAt_iff hmark hne, stemAt_iff hmark hne]
    refine and_congr (by simp [hbefore]) ?_
    constructor
    · rintro ⟨after, hchars, hafter⟩
      obtain ⟨s, rfl⟩ := (hmark.prefix_append_iff hw hrest).mp ⟨after, hchars.symm⟩
      rw [List.append_assoc] at hchars
      have hs : AllWord s := fun c hc => hw c (List.mem_append_right _ hc)
      rw [← List.append_cancel_left hchars, hnext s rest hs hrest] at hafter
      exact ⟨s, rfl, hafter⟩
    · rintro ⟨s, rfl, hs⟩
      refine ⟨s ++ rest, List.append_assoc _ _ _, ?_⟩
      rw [hnext s rest (fun c hc => hw c (List.mem_append_right _ hc)) hrest, hs]

/-! ### What becomes of a word -/

/-- One pass over a word that begins with the stem. -/
theorem rewritten_stem (hmark : AllWord mark) (hne : mark ≠ []) (s : List Char) :
    rewritten (stemAt mark next) mark.length value (mark ++ s) = if next s then value ++ s else mark ++ s := by
  have hiff : stemAt mark next none (mark ++ s) = true ↔ next s = true := by
    rw [stemAt_iff hmark hne]
    constructor
    · rintro ⟨-, rest, hrest, hnext⟩
      rwa [List.append_cancel_left hrest]
    · exact fun hnext => ⟨rfl, s, rfl, hnext⟩
  rw [rewritten, List.drop_left]
  simp only [hiff]

/-- One pass over a word that does not. -/
theorem rewritten_other (hmark : AllWord mark) (hne : mark ≠ []) (hw : ¬mark <+: w) :
    rewritten (stemAt mark next) mark.length value w = w := by
  rw [rewritten, if_neg fun hhit => hw ?_]
  obtain ⟨-, rest, rfl, -⟩ := (stemAt_iff hmark hne _).mp hhit
  exact List.prefix_append mark rest

/-- The stem with the underscore that follows it. -/
def marked (stem : String) : List Char := stem.toList ++ ['_']

theorem allWord_underscore : AllWord ['_'] := by decide

theorem allWord_marked {stem : String} (h : AllWord stem.toList) : AllWord (marked stem) :=
  h.append allWord_underscore

theorem marked_ne_nil (stem : String) : marked stem ≠ [] := by simp [marked]

/-- The first pass over a word, which leaves an underscore before a digit. -/
def keepDigit (stem : String) (w : List Char) : List Char :=
  rewritten (stemAt (marked stem) beginsWithDigit) (marked stem).length ['_'] w

/-- The second pass over a word, which leaves nothing of the stem. -/
def cutStem (stem : String) (w : List Char) : List Char :=
  rewritten (stemAt (marked stem) fun _ => true) (marked stem).length [] w

/-- Both passes together rewrite each maximal word on its own. -/
theorem toList_dropStem {stem : String} (h : AllWord stem.toList) (text : String) :
    (dropStem stem text).toList = mapWords (fun w => mapWords (cutStem stem) (keepDigit stem w)) text.toList := by
  have hstem := allWord_marked h
  have hne := marked_ne_nil stem
  have hdigit := hitsWords_stemAt hstem hne withinWord_beginsWithDigit
  have hany : HitsWords (stemAt (marked stem) fun _ => true) (marked stem).length :=
    hitsWords_stemAt hstem hne fun _ _ _ _ => rfl
  rw [← mapWords_mapWords]
  show (String.ofList (replaceHits _ _ _ _ _ (replaceHits _ _ _ _ _ _))).toList = _
  rw [String.toList_ofList]
  exact (hany.replaceHits_eq_mapWords _ rfl).trans
    (congrArg (mapWords (cutStem stem)) (hdigit.replaceHits_eq_mapWords text.toList rfl))

theorem toList_dropStem_word {stem : String} (h : AllWord stem.toList) (hw : AllWord w) (hne : w ≠ []) :
    (dropStem stem (String.ofList w)).toList = mapWords (cutStem stem) (keepDigit stem w) := by
  rw [toList_dropStem h, String.toList_ofList, mapWords_word hw hne]

/-- A word of a text is rewritten as it is when it is the whole text. -/
theorem toList_dropStem_words {stem : String} (h : AllWord stem.toList) (text : String) :
    (dropStem stem text).toList = mapWords (fun w => (dropStem stem (String.ofList w)).toList) text.toList := by
  rw [toList_dropStem h]
  exact mapWords_congr (fun w hw hne => (toList_dropStem_word h hw hne).symm) text.toList

/-- A word behind the stem stays, with an underscore if it begins with a digit. -/
theorem dropStem_stem {stem : String} (h : AllWord stem.toList) (hne : stem ≠ "")
    (hstart : startsWith stem "_" = false) {s : String} (hs : AllWord s.toList) (hsne : s ≠ "") :
    dropStem stem (stem ++ "_" ++ s) = if beginsWithDigit s.toList then "_" ++ s else s := by
  have hmarked := allWord_marked h
  have hsne : s.toList ≠ [] := by simpa using hsne
  have hchars : stem ++ "_" ++ s = String.ofList (marked stem ++ s.toList) := by
    rw [← String.toList_inj, String.toList_ofList, String.toList_append, String.toList_append]
    rfl
  have hword : AllWord (marked stem ++ s.toList) := hmarked.append hs
  have hfirst : keepDigit stem (marked stem ++ s.toList) =
      if beginsWithDigit s.toList then '_' :: s.toList else marked stem ++ s.toList :=
    rewritten_stem hmarked (marked_ne_nil stem) s.toList
  rw [← String.toList_inj, hchars, toList_dropStem_word h hword (by simp [marked]), hfirst]
  split
  · -- what the first pass leaves begins with the underscore, and the stem does not
    have hother : ¬marked stem <+: '_' :: s.toList := by
      rintro ⟨rest, hrest⟩
      obtain ⟨c, tail, hstem⟩ := List.exists_cons_of_ne_nil (show stem.toList ≠ [] by simpa using hne)
      rw [marked, hstem] at hrest
      obtain ⟨rfl, -⟩ := List.cons.inj hrest
      have htrue : startsWith stem "_" = true := startsWith_iff.mpr ⟨tail, hstem.symm⟩
      rw [hstart] at htrue
      cases htrue
    have hkept : AllWord ('_' :: s.toList) := allWord_underscore.append hs
    rw [mapWords_word hkept (by simp), cutStem, rewritten_other hmarked (marked_ne_nil stem) hother,
      String.toList_append]
    rfl
  · rw [mapWords_word hword (by simp [marked]), cutStem, rewritten_stem hmarked (marked_ne_nil stem), if_pos rfl,
      List.nil_append]

/-- A word that does not begin with the stem stays. -/
theorem dropStem_other {stem : String} (h : AllWord stem.toList) {w : String} (hw : AllWord w.toList)
    (hstart : startsWith w (stem ++ "_") = false) : dropStem stem w = w := by
  have hmarked := allWord_marked h
  have hother : ¬marked stem <+: w.toList := fun hprefix => by
    have htrue : startsWith w (stem ++ "_") = true := by
      rw [startsWith_iff, String.toList_append]
      exact hprefix
    rw [hstart] at htrue
    cases htrue
  by_cases hne : w.toList = []
  · rw [← String.toList_inj, toList_dropStem h, hne]
    rfl
  · have hsame := toList_dropStem_word h hw hne
    rw [String.ofList_toList] at hsame
    rw [← String.toList_inj, hsame, keepDigit, rewritten_other hmarked (marked_ne_nil stem) hother,
      mapWords_word hw hne, cutStem, rewritten_other hmarked (marked_ne_nil stem) hother]

/-! ### Enums -/

/-- The stem of the elements of an enum: its native name without the underscores at the end. -/
def Enum.stem (e : Enum) : String := stripEnd e.nativeName '_'

/-- What an element of the enum is called without the stem. -/
def Enum.renamed (e : Enum) (name : String) : String := dropStem e.stem name

/--
The elements of an enum lose the stem in their names, and in the texts of their values every maximal word is replaced
by what it is called as an element, while what stands between the words stays. A word behind the stem and an
underscore is what is left of it, with an underscore before a digit, and a word that does not begin so stays.
-/
theorem elements_renamed {e : Enum} (h : AllWord e.nativeName.toList) :
    e.dropStems = { e with
      elements := e.elements.map fun element =>
        { head := { element.head with name := e.renamed element.head.name }
          value := String.ofList
            (mapWords (fun w => (e.renamed (String.ofList w)).toList) element.value.toList) } } ∧
    (e.stem ≠ "" → startsWith e.stem "_" = false → ∀ s : String, s ≠ "" → AllWord s.toList →
      e.renamed (e.stem ++ "_" ++ s) = if beginsWithDigit s.toList then "_" ++ s else s) ∧
    ∀ w : String, AllWord w.toList → startsWith w (e.stem ++ "_") = false → e.renamed w = w := by
  have hstem : AllWord e.stem.toList := h.stripEnd '_'
  refine ⟨?_, fun hne hstart s hsne hs => dropStem_stem hstem hne hstart hs hsne,
    fun w hw hstart => dropStem_other hstem hw hstart⟩
  have hvalue : ∀ text : String, dropStem e.stem text =
      String.ofList (mapWords (fun w => (e.renamed (String.ofList w)).toList) text.toList) := by
    intro text
    rw [← String.toList_inj, String.toList_ofList, toList_dropStem_words hstem]
    rfl
  unfold Enum.dropStems
  dsimp only
  refine congrArg (fun elements => { e with elements := elements }) (List.map_congr_left fun element _ => ?_)
  rw [← hvalue]
  rfl

/-- An enum with digits behind the stem, with the stem twice, and with a word that ends in an element. -/
def keyEnum : Enum where
  head := { name := "ImGuiKey" }
  nativeName := "ImGuiKey_"
  elements := [⟨{ name := "ImGuiKey_0" }, "536"⟩,
    ⟨{ name := "ImGuiKey_ImGuiKey_A" }, "(ImGuiKey_0|NotImGuiKey_0)+ImGuiKey_B"⟩]

theorem elements_renamed_keys :
    AllWord keyEnum.nativeName.toList ∧
    keyEnum.stem ≠ "" ∧ startsWith keyEnum.stem "_" = false ∧ "0" ≠ "" ∧ AllWord "0".toList ∧
    keyEnum.renamed (keyEnum.stem ++ "_" ++ "0") = "_0" ∧
    AllWord "NotImGuiKey_0".toList ∧ startsWith "NotImGuiKey_0" (keyEnum.stem ++ "_") = false ∧
    keyEnum.renamed "NotImGuiKey_0" = "NotImGuiKey_0" ∧
    keyEnum.dropStems.elements.map (fun element => (element.head.name, element.value)) =
      [("_0", "536"), ("ImGuiKey_A", "(_0|NotImGuiKey_0)+B")] := by
  have hnative : AllWord keyEnum.nativeName.toList := by decide +kernel
  have hne : keyEnum.stem ≠ "" := by decide +kernel
  have hstart : startsWith keyEnum.stem "_" = false := by decide +kernel
  have hdigit : AllWord "0".toList := by decide +kernel
  have hword : AllWord "NotImGuiKey_0".toList := by decide +kernel
  have hother : startsWith "NotImGuiKey_0" (keyEnum.stem ++ "_") = false := by decide +kernel
  obtain ⟨henum, hbehind, hothers⟩ := elements_renamed hnative
  refine ⟨hnative, hne, hstart, by decide, hdigit, hbehind hne hstart "0" (by decide) hdigit, hword, hother,
    hothers _ hword hother, ?_⟩
  rw [henum]
  decide +kernel

end Decl

end InteropGen
