import InteropGen.ArraySize

/-!
# Replacing words

A text is made of maximal words with other characters between them. A pattern that is found only at the beginning of
words and does not reach beyond them (`HitsWords`) rewrites each of these words on its own. So does replacing a word
everywhere (`toList_replaceWord`), and a round that replaces many words one after the other (`toList_replaceRound`):
the characters between the words stay, so that what is put in for one word never joins with what stands beside it
(`mapWords_mapWords`). Proofs about all texts go from word to word (`word_induction`).
-/

namespace InteropGen

namespace Text

variable {f g : List Char → List Char} {w chars : List Char} {c : Char}

/-- What becomes of a word that is at its end. -/
def closeWord (f : List Char → List Char) (word : List Char) : List Char :=
  if word.isEmpty then [] else f word

/-- Rewrites the words of the characters, of which the first one has begun already. -/
def mapWordsFrom (f : List Char → List Char) : List Char → List Char → List Char
  | word, [] => closeWord f word
  | word, c :: rest =>
    if isWord c then mapWordsFrom f (word ++ [c]) rest
    else closeWord f word ++ c :: mapWordsFrom f [] rest

/-- Rewrites every maximal word of the characters. -/
def mapWords (f : List Char → List Char) (chars : List Char) : List Char := mapWordsFrom f [] chars

/-- Are the characters those of a word, or are there none? -/
def AllWord (chars : List Char) : Prop := ∀ c ∈ chars, isWord c = true

instance (chars : List Char) : Decidable (AllWord chars) :=
  List.decidableBAll (isWord · = true) chars

theorem AllWord.takeWhile_append {rest : List Char} (h : AllWord w) (hrest : rest.head?.any isWord = false) :
    (w ++ rest).takeWhile isWord = w := by
  rw [List.takeWhile_append_of_pos h]
  cases rest with
  | nil => exact List.append_nil w
  | cons c rest =>
    rw [List.takeWhile_cons_of_neg (by simpa using hrest), List.append_nil]

theorem AllWord.getLast?_any (h : AllWord w) (hw : w ≠ []) (before : Option Char) :
    (w.getLast?.or before).any isWord = true := by
  rw [List.getLast?_eq_some_getLast hw]
  exact h _ (List.getLast_mem hw)

theorem AllWord.head?_any (h : AllWord w) (hw : w ≠ []) (rest : List Char) :
    (w ++ rest).head?.any isWord = true := by
  obtain ⟨c, tail, rfl⟩ := List.exists_cons_of_ne_nil hw
  exact h c List.mem_cons_self

theorem mapWordsFrom_of_allWord (h : AllWord chars) (w : List Char) :
    mapWordsFrom f w chars = closeWord f (w ++ chars) := by
  induction chars generalizing w with
  | nil => rw [mapWordsFrom, List.append_nil]
  | cons c rest ih =>
    rw [mapWordsFrom, if_pos (h c List.mem_cons_self), ih fun d hd => h d (List.mem_cons_of_mem _ hd),
      List.append_assoc, List.singleton_append]

theorem mapWordsFrom_append (hc : isWord c = false) (front rest w : List Char) :
    mapWordsFrom f w (front ++ c :: rest) = mapWordsFrom f w front ++ c :: mapWords f rest := by
  induction front generalizing w with
  | nil =>
    have hstep : mapWordsFrom f w (c :: rest) = closeWord f w ++ c :: mapWordsFrom f [] rest := by
      simp [mapWordsFrom, hc]
    exact hstep
  | cons d front ih =>
    rw [List.cons_append, mapWordsFrom, mapWordsFrom]
    split
    · exact ih _
    · rw [ih, List.append_assoc, List.cons_append]

@[simp] theorem mapWords_nil : mapWords f [] = [] := rfl

theorem mapWords_of_allWord (h : AllWord w) : mapWords f w = closeWord f w :=
  mapWordsFrom_of_allWord h []

theorem mapWords_word (h : AllWord w) (hw : w ≠ []) : mapWords f w = f w := by
  rw [mapWords_of_allWord h, closeWord, if_neg (by simpa using hw)]

/-- A character that belongs to no word keeps its place, and what is beside it is rewritten on its own. -/
theorem mapWords_append (hc : isWord c = false) (front rest : List Char) :
    mapWords f (front ++ c :: rest) = mapWords f front ++ c :: mapWords f rest :=
  mapWordsFrom_append hc front rest []

theorem mapWords_cons (hc : isWord c = false) (rest : List Char) :
    mapWords f (c :: rest) = c :: mapWords f rest :=
  mapWords_append hc [] rest

/-- Characters are a word, or a word and something that is none before other characters. -/
theorem word_induction {P : List Char → Prop} (word : ∀ w, AllWord w → P w)
    (step : ∀ w c rest, AllWord w → isWord c = false → P rest → P (w ++ c :: rest)) (chars : List Char) :
    P chars := by
  have hwords : ∀ (rest w : List Char), AllWord w → P (w ++ rest) := by
    intro rest
    induction rest with
    | nil => exact fun w hw => (List.append_nil w).symm ▸ word w hw
    | cons c rest ih =>
      intro w hw
      cases hc : isWord c with
      | true =>
        have hall := ih (w ++ [c]) fun d hd => by
          rcases List.mem_append.mp hd with hd | hd
          · exact hw d hd
          · exact List.mem_singleton.mp hd ▸ hc
        rwa [List.append_assoc, List.singleton_append] at hall
      | false => exact step w c rest hw hc (ih [] fun _ hd => nomatch hd)
  exact hwords chars [] fun _ hd => nomatch hd

theorem mapWords_congr (h : ∀ w, AllWord w → w ≠ [] → f w = g w) (chars : List Char) :
    mapWords f chars = mapWords g chars := by
  induction chars using word_induction with
  | word w hw =>
    by_cases hempty : w = []
    · rw [hempty, mapWords_nil, mapWords_nil]
    · rw [mapWords_word hw hempty, mapWords_word hw hempty, h w hw hempty]
  | step w c rest hw hc ih =>
    rw [mapWords_append hc, mapWords_append hc, ih]
    by_cases hempty : w = []
    · rw [hempty, mapWords_nil, mapWords_nil]
    · rw [mapWords_word hw hempty, mapWords_word hw hempty, h w hw hempty]

theorem mapWords_id (chars : List Char) : mapWords (fun w => w) chars = chars := by
  induction chars using word_induction with
  | word w hw =>
    by_cases hempty : w = []
    · rw [hempty, mapWords_nil]
    · rw [mapWords_word hw hempty]
  | step w c rest hw hc ih =>
    rw [mapWords_append hc, ih]
    by_cases hempty : w = []
    · rw [hempty, mapWords_nil]
    · rw [mapWords_word hw hempty]

/-- Rewriting again goes on inside of what was put in for each word. -/
theorem mapWords_mapWords (f g : List Char → List Char) (chars : List Char) :
    mapWords g (mapWords f chars) = mapWords (fun w => mapWords g (f w)) chars := by
  induction chars using word_induction with
  | word w hw =>
    by_cases hempty : w = []
    · rw [hempty, mapWords_nil, mapWords_nil, mapWords_nil]
    · rw [mapWords_word hw hempty, mapWords_word hw hempty]
  | step w c rest hw hc ih =>
    rw [mapWords_append hc, mapWords_append hc, mapWords_append hc, ih]
    by_cases hempty : w = []
    · rw [hempty, mapWords_nil, mapWords_nil, mapWords_nil]
    · rw [mapWords_word hw hempty, mapWords_word hw hempty]

/-- A text without word characters stays, and what is beside it is rewritten on its own. -/
theorem mapWords_between {between : List Char} (h : ∀ c ∈ between, isWord c = false)
    (rest : List Char) : mapWords f (between ++ rest) = between ++ mapWords f rest := by
  induction between with
  | nil => rfl
  | cons c between ih =>
    rw [List.cons_append, mapWords_cons (h c List.mem_cons_self), ih fun d hd => h d (List.mem_cons_of_mem _ hd),
      List.cons_append]

theorem mapWords_append_between {between : List Char} (hne : between ≠ [])
    (h : ∀ c ∈ between, isWord c = false) (front rest : List Char) :
    mapWords f (front ++ (between ++ rest)) = mapWords f front ++ (between ++ mapWords f rest) := by
  obtain ⟨c, between, rfl⟩ := List.exists_cons_of_ne_nil hne
  rw [List.cons_append, mapWords_append (h c List.mem_cons_self),
    mapWords_between fun d hd => h d (List.mem_cons_of_mem _ hd), List.cons_append]

/-! ### Hits at the beginning of words -/

variable {hit : Option Char → List Char → Bool} {width : Nat} {value : List Char} {before : Option Char}
  {rest : List Char}

/-- A pattern hits words at their beginning and stays within them, and only the word decides whether it does. -/
structure HitsWords (hit : Option Char → List Char → Bool) (width : Nat) : Prop where
  wide : width ≠ 0
  begins : ∀ {before chars}, hit before chars = true → before.any isWord = false
  within : ∀ {before chars}, hit before chars = true → ∃ w rest, chars = w ++ rest ∧ w.length = width ∧ AllWord w
  alone : ∀ {before w rest}, before.any isWord = false → AllWord w → w ≠ [] → rest.head?.any isWord = false →
    hit before (w ++ rest) = hit none w

/-- What becomes of a word that a pattern may hit at its beginning. -/
def rewritten (hit : Option Char → List Char → Bool) (width : Nat) (value w : List Char) : List Char :=
  if hit none w then value ++ w.drop width else w

/-- The last character of a row, if there is one, stands before what follows. -/
theorem getLast?_cons_or (c : Char) (tail : List Char) (before : Option Char) :
    (c :: tail).getLast?.or before = tail.getLast?.or (some c) := by
  rw [List.getLast?_cons]
  cases tail.getLast? <;> rfl

/-- The characters that a hit covers are left out. -/
theorem replaceHits_covered (w : List Char) (width : Nat) (before : Option Char) :
    replaceHits hit width value before w.length (w ++ rest) =
      replaceHits hit width value (w.getLast?.or before) 0 rest := by
  induction w generalizing before with
  | nil => rfl
  | cons c tail ih =>
    rw [List.length_cons, List.cons_append, replaceHits, ih, getLast?_cons_or]

/-- A hit puts the value in for the characters that it covers. -/
theorem replaceHits_hit (hw : w ≠ []) (hhit : hit before (w ++ rest) = true) :
    replaceHits hit w.length value before 0 (w ++ rest) =
      value ++ replaceHits hit w.length value (w.getLast?.or before) 0 rest := by
  obtain ⟨c, tail, rfl⟩ := List.exists_cons_of_ne_nil hw
  rw [List.cons_append] at hhit ⊢
  rw [replaceHits, if_pos hhit, if_neg (by simp), getLast?_cons_or]
  exact congrArg (value ++ ·) (replaceHits_covered tail _ _)

namespace HitsWords

/-- Inside of a word nothing is hit. -/
theorem replaceHits_inside (h : HitsWords hit width) (hbefore : before.any isWord = true) (hw : AllWord w) :
    replaceHits hit width value before 0 (w ++ rest) =
      w ++ replaceHits hit width value (w.getLast?.or before) 0 rest := by
  induction w generalizing before with
  | nil => rfl
  | cons c tail ih =>
    have hc : isWord c = true := hw c List.mem_cons_self
    have hno : ¬hit before (c :: (tail ++ rest)) = true := fun hhit => by
      rw [h.begins hhit] at hbefore
      cases hbefore
    rw [List.cons_append, replaceHits_miss hno,
      ih (by simpa using hc) fun d hd => hw d (List.mem_cons_of_mem _ hd), List.cons_append, getLast?_cons_or]

/-- Between words nothing is hit. -/
theorem replaceHits_between (h : HitsWords hit width) (hc : isWord c = false) :
    replaceHits hit width value before 0 (c :: rest) = c :: replaceHits hit width value (some c) 0 rest := by
  have hno : ¬hit before (c :: rest) = true := fun hhit => by
    obtain ⟨w, others, hchars, hwidth, hw⟩ := h.within hhit
    cases w with
    | nil => exact h.wide hwidth.symm
    | cons d tail =>
      obtain ⟨rfl, -⟩ := List.cons.inj hchars
      rw [hw c List.mem_cons_self] at hc
      cases hc
  exact replaceHits_miss hno width value

/-- A word is rewritten on its own. -/
theorem replaceHits_word (h : HitsWords hit width) (hw : AllWord w) (hbefore : before.any isWord = false)
    (hrest : rest.head?.any isWord = false) :
    replaceHits hit width value before 0 (w ++ rest) = closeWord (rewritten hit width value) w ++
      replaceHits hit width value (w.getLast?.or before) 0 rest := by
  by_cases hne : w = []
  · subst hne
    rfl
  rw [closeWord, if_neg (by simpa using hne), rewritten]
  have halone : hit before (w ++ rest) = hit none w := h.alone hbefore hw hne hrest
  by_cases hhit : hit none w = true
  · obtain ⟨front, back, rfl, rfl, hfront⟩ := h.within hhit
    have hfrontNe : front ≠ [] := fun hnil => h.wide (hnil ▸ rfl)
    have hback : AllWord back := fun c hc => hw c (List.mem_append_right _ hc)
    rw [List.append_assoc] at halone
    rw [if_pos hhit, List.drop_left, List.append_assoc, replaceHits_hit hfrontNe (by rw [halone, hhit]),
      h.replaceHits_inside (hfront.getLast?_any hfrontNe before) hback, List.getLast?_append, Option.or_assoc,
      List.append_assoc]
  · obtain ⟨c, tail, rfl⟩ := List.exists_cons_of_ne_nil hne
    have hc : (some c).any isWord = true := hw c List.mem_cons_self
    rw [List.cons_append] at halone ⊢
    rw [if_neg hhit, replaceHits_miss (by rwa [halone]),
      h.replaceHits_inside hc fun d hd => hw d (List.mem_cons_of_mem _ hd), List.cons_append, getLast?_cons_or]

/-- Replacing rewrites each maximal word of the characters on its own. -/
theorem replaceHits_eq_mapWords (h : HitsWords hit width) (chars : List Char) (hbefore : before.any isWord = false) :
    replaceHits hit width value before 0 chars = mapWords (rewritten hit width value) chars := by
  induction chars using word_induction generalizing before with
  | word w hw =>
    have hall := @replaceHits_word w hit width value before [] h hw hbefore rfl
    rw [List.append_nil, replaceHits, if_neg (by simp [h.wide]), List.append_nil] at hall
    rw [hall, mapWords_of_allWord hw]
  | step w c rest hw hc ih =>
    rw [h.replaceHits_word hw hbefore (by simpa using hc), h.replaceHits_between hc, ih (by simpa using hc),
      mapWords_append hc, mapWords_of_allWord hw]

end HitsWords

/-! ### One word -/

/-- Replaces one word. -/
def replaced (word value w : List Char) : List Char := if w = word then value else w

variable {word : List Char}

/-- In front of a maximal word stands a whole word only if it is that one. -/
theorem wholeWordAt_iff (hword : AllWord word) (hne : word ≠ []) (hw : AllWord w) (hwne : w ≠ [])
    (hbefore : before.any isWord = false) (hrest : rest.head?.any isWord = false) :
    wholeWordAt word before (w ++ rest) = true ↔ w = word := by
  unfold wholeWordAt isBoundary
  rw [Bool.and_eq_true, Bool.and_eq_true, bne_iff_ne, bne_iff_ne, hbefore, hword.getLast?_any hne,
    List.isPrefixOf_iff_prefix, hw.head?_any hwne]
  constructor
  · rintro ⟨⟨-, suffix, hsuffix⟩, hafter⟩
    rw [← hsuffix, List.drop_left] at hafter
    rw [← hw.takeWhile_append hrest, ← hsuffix, hword.takeWhile_append (by simpa using hafter.symm)]
  · rintro rfl
    refine ⟨⟨by decide, List.prefix_append w rest⟩, ?_⟩
    rw [List.drop_left, hrest]
    decide

/-- Alone there is a whole word only if the characters are it. -/
theorem wholeWordAt_none_iff (hword : AllWord word) (hne : word ≠ []) (hw : AllWord w) (hwne : w ≠ []) :
    wholeWordAt word none w = true ↔ w = word := by
  have halone : wholeWordAt word none (w ++ []) = true ↔ w = word := wholeWordAt_iff hword hne hw hwne rfl rfl
  rwa [List.append_nil] at halone

theorem hitsWords_wholeWordAt (hword : AllWord word) (hne : word ≠ []) :
    HitsWords (wholeWordAt word) word.length where
  wide := by simpa using hne
  begins {before chars} hhit := by
    unfold wholeWordAt isBoundary at hhit
    rw [Bool.and_eq_true, Bool.and_eq_true, bne_iff_ne, List.isPrefixOf_iff_prefix] at hhit
    obtain ⟨⟨hboundary, rest, rfl⟩, -⟩ := hhit
    rw [hword.head?_any hne] at hboundary
    simpa using hboundary
  within {before chars} hhit := by
    unfold wholeWordAt at hhit
    rw [Bool.and_eq_true, Bool.and_eq_true, List.isPrefixOf_iff_prefix] at hhit
    obtain ⟨⟨-, rest, rfl⟩, -⟩ := hhit
    exact ⟨word, rest, rfl, rfl, hword⟩
  alone {before w rest} hbefore hw hwne hrest := by
    rw [Bool.eq_iff_iff, wholeWordAt_iff hword hne hw hwne hbefore hrest, wholeWordAt_none_iff hword hne hw hwne]

theorem rewritten_wholeWordAt (hword : AllWord word) (hne : word ≠ []) (hw : AllWord w) (hwne : w ≠ []) :
    rewritten (wholeWordAt word) word.length value w = replaced word value w := by
  have hiff := wholeWordAt_none_iff hword hne hw hwne
  unfold rewritten replaced
  by_cases hthis : w = word
  · rw [if_pos (hiff.mpr hthis), if_pos hthis, hthis, List.drop_length, List.append_nil]
  · rw [if_neg fun h => hthis (hiff.mp h), if_neg hthis]

theorem allWord_of_isWordText {text : String} (h : isWordText text = true) :
    AllWord text.toList ∧ text.toList ≠ [] := by
  rw [isWordText, Bool.and_eq_true, Bool.not_eq_true', List.isEmpty_eq_false_iff, List.all_eq_true] at h
  exact ⟨h.2, h.1⟩

/-- Replacing a word puts the value in for each maximal word that is the word. -/
theorem toList_replaceWord {word : String} (h : isWordText word = true) (text value : String) :
    (replaceWord text word value).toList = mapWords (replaced word.toList value.toList) text.toList := by
  obtain ⟨hword, hne⟩ := allWord_of_isWordText h
  rw [replaceWord, String.toList_ofList, (hitsWords_wholeWordAt hword hne).replaceHits_eq_mapWords text.toList rfl]
  exact mapWords_congr (fun w hw hwne => rewritten_wholeWordAt hword hne hw hwne) text.toList

end Text

namespace Symbols

open Text

variable {words : List (String × String)}

/-- What a round of replacing makes of one word. -/
def expandWord (words : List (String × String)) (w : List Char) : List Char :=
  (replaceRound words (String.ofList w)).toList

/-- A round of replacing rewrites each maximal word on its own. -/
theorem toList_replaceRound (h : ∀ entry ∈ words, isWordText entry.1 = true) (text : String) :
    (replaceRound words text).toList = mapWords (expandWord words) text.toList := by
  induction words generalizing text with
  | nil =>
    have hsame : expandWord [] = fun w => w := funext fun w => String.toList_ofList
    rw [hsame, mapWords_id]
    rfl
  | cons entry words ih =>
    obtain ⟨word, value⟩ := entry
    have hword := h (word, value) List.mem_cons_self
    have hothers := fun text => ih (fun other hother => h other (List.mem_cons_of_mem _ hother)) text
    show (replaceRound words (replaceWord text word value)).toList = _
    rw [hothers, toList_replaceWord hword, mapWords_mapWords]
    have heach : ∀ w, AllWord w → w ≠ [] →
        mapWords (expandWord words) (replaced word.toList value.toList w) =
          expandWord ((word, value) :: words) w := by
      intro w hw hne
      have hround : expandWord ((word, value) :: words) w =
          (replaceRound words (replaceWord (String.ofList w) word value)).toList := rfl
      rw [hround, hothers, toList_replaceWord hword, String.toList_ofList, mapWords_word hw hne]
    exact mapWords_congr heach text.toList

end Symbols

end InteropGen
