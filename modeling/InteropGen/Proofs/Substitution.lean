import InteropGen.Proofs.Constants
import InteropGen.Proofs.Sizes
import InteropGen.Proofs.Words

/-!
# The words of bounds

Which words a bound may hold (`IsWordOf`, `contains_boundWords`), and what their replacement makes of a text in
which no value holds a word: every word becomes its value, every other word stays (`expandWord_eq`), and one round
is enough (`replaceRounds_eq`).
-/

namespace InteropGen

open Text

/-! ### The words of a table -/

namespace Table

variable {α : Type}

theorem mem_putIn {key : String} {value : α} {row : String × α} {l : List (String × α)}
    (h : row ∈ putIn key value l) : row = (key, value) ∨ row ∈ l := by
  induction l with
  | nil => exact .inl (List.mem_singleton.mp h)
  | cons first l ih =>
    rw [putIn] at h
    split at h
    · next hkey =>
      rcases List.mem_cons.mp h with rfl | h
      · exact .inl (by rw [hkey])
      · exact .inr (List.mem_cons_of_mem _ h)
    · rcases List.mem_cons.mp h with rfl | h
      · exact .inr List.mem_cons_self
      · exact (ih h).imp_right (List.mem_cons_of_mem _)

theorem mem_insertNew {t : Table α} {key : String} {value : α} {row : String × α}
    (h : row ∈ (t.insertNew key value).entries) : row = (key, value) ∨ row ∈ t.entries := by
  unfold insertNew at h
  split at h
  · exact .inr h
  · exact mem_putIn h

end Table

namespace Symbols

variable {s : Symbols}

/-- A word of a bound is a define with a content or a size with a name. -/
inductive IsWordOf (s : Symbols) : String × String → Prop
  | define {name content : String} {type : Option String} (known : (name, type, content) ∈ s.defines.entries)
    (filled : content ≠ "") : IsWordOf s (name, asDecimal content)
  | size {name : String} {size : Int} (known : (name, size) ∈ s.arraySizes.entries)
    (word : isWordText name = true) : IsWordOf s (name, Text.ofInt size)

theorem isWordOf_boundWords {row : String × String} (h : row ∈ s.boundWords.entries) : s.IsWordOf row := by
  refine List.foldlRecOn (motive := fun words : Table String => ∀ row ∈ words.entries, s.IsWordOf row)
    s.arraySizes.entries _ ?_ (fun words hwords entry hentry row hrow => ?_) row h
  · refine List.foldlRecOn (motive := fun words : Table String => ∀ row ∈ words.entries, s.IsWordOf row)
      s.defines.entries _ (fun row hrow => nomatch hrow) fun words hwords entry hentry row hrow => ?_
    dsimp only at hrow
    split at hrow
    · exact hwords row hrow
    · next hsome =>
      rcases Table.mem_putIn hrow with rfl | hrow
      · exact .define hentry (by simpa using hsome)
      · exact hwords row hrow
  · dsimp only at hrow
    split at hrow
    · next hword =>
      rcases Table.mem_insertNew hrow with rfl | hrow
      · exact .size hentry hword
      · exact hwords row hrow
    · exact hwords row hrow

/-- What one step of a fold reaches and no step loses holds at the end. -/
theorem foldl_reaches {α β : Type} {P : β → Prop} {step : β → α → β} (keeps : ∀ b a, P b → P (step b a)) {a : α}
    (reaches : ∀ b, P (step b a)) {l : List α} (ha : a ∈ l) (b : β) : P (l.foldl step b) := by
  induction l generalizing b with
  | nil => cases ha
  | cons first l ih =>
    rcases List.mem_cons.mp ha with rfl | ha
    · exact List.foldlRecOn l step (reaches b) fun b hb a _ => keeps b a hb
    · exact ih ha _

/-- Every define with a content and every size with a name is a word of a bound. -/
theorem contains_boundWords {name : String} (h : (∃ type content, (name, type, content) ∈ s.defines.entries ∧
      content ≠ "") ∨ ∃ size, (name, size) ∈ s.arraySizes.entries ∧ isWordText name = true) :
    s.boundWords.contains name = true := by
  have hsizes : ∀ (words : Table String) (entry : String × Int), words.contains name = true →
      (if isWordText entry.1 then words.insertNew entry.1 (Text.ofInt entry.2) else words).contains name = true := by
    intro words entry hwords
    split
    · exact Table.contains_insertNew hwords _ _
    · exact hwords
  rcases h with ⟨type, content, hdefine, hcontent⟩ | ⟨size, hsize, hword⟩
  · refine List.foldlRecOn (motive := fun words : Table String => words.contains name = true)
      s.arraySizes.entries _ ?_ fun words hwords entry _ => hsizes words entry hwords
    refine foldl_reaches (P := fun words : Table String => words.contains name = true) (fun words entry hwords => ?_)
      (fun words => ?_) hdefine Table.empty
    · dsimp only
      split
      · exact hwords
      · exact Table.contains_insert hwords _ _
    · dsimp only
      rw [if_neg (by simpa using hcontent)]
      exact Table.contains_insert_self _ _ _
  · refine foldl_reaches (P := fun words : Table String => words.contains name = true)
      (fun words entry hwords => hsizes words entry hwords) (fun words => ?_) hsize _
    dsimp only
    rw [if_pos hword, Table.contains_iff, Table.find?_insertNew_self]
    exact ⟨_, rfl⟩

/-! ### Replacing the words -/

/-- The values of the words hold none of them. -/
def Inert (words : List (String × String)) (text : String) : Prop :=
  ∀ entry ∈ words, replaceWord text entry.1 entry.2 = text

theorem Inert.replaceRound_eq {words : List (String × String)} {text : String} (h : Inert words text) :
    replaceRound words text = text := by
  induction words with
  | nil => rfl
  | cons entry words ih =>
    show replaceRound words (replaceWord text entry.1 entry.2) = text
    rw [h entry List.mem_cons_self]
    exact ih fun other hother => h other (List.mem_cons_of_mem _ hother)

/-- Where the values hold no words, a word becomes its first value, and every other word stays. -/
theorem expandWord_eq {words : List (String × String)} (hwords : ∀ entry ∈ words, isWordText entry.1 = true)
    (hinert : ∀ entry ∈ words, Inert words entry.2) {w : List Char} (hw : AllWord w) (hne : w ≠ []) :
    expandWord words w = ((Table.lookupIn (String.ofList w) words).map String.toList).getD w := by
  induction words with
  | nil => exact String.toList_ofList
  | cons entry words ih =>
    obtain ⟨word, value⟩ := entry
    have hword : isWordText word = true := hwords (word, value) List.mem_cons_self
    have hrest : ∀ entry ∈ words, Inert words entry.2 := fun entry hentry other hother =>
      hinert entry (List.mem_cons_of_mem _ hentry) other (List.mem_cons_of_mem _ hother)
    have hfirst : (replaceWord (String.ofList w) word value).toList = replaced word.toList value.toList w := by
      rw [toList_replaceWord hword, String.toList_ofList, mapWords_word hw hne]
    show (replaceRound words (replaceWord (String.ofList w) word value)).toList = _
    by_cases hthis : word = String.ofList w
    · have hvalue : replaceWord (String.ofList w) word value = value := by
        rw [← String.toList_inj, hfirst, replaced, if_pos (by rw [hthis, String.toList_ofList])]
      have hstays : Inert words value := fun other hother =>
        hinert (word, value) List.mem_cons_self other (List.mem_cons_of_mem _ hother)
      rw [hvalue, hstays.replaceRound_eq, Table.lookupIn, if_pos hthis]
      rfl
    · have hstays : replaceWord (String.ofList w) word value = String.ofList w := by
        rw [← String.toList_inj, hfirst, replaced, if_neg, String.toList_ofList]
        rintro rfl
        exact hthis (String.ofList_toList).symm
      rw [hstays, Table.lookupIn, if_neg hthis]
      exact ih (fun other hother => hwords other (List.mem_cons_of_mem _ hother)) hrest

/-- Where the values hold no words, one round is enough. -/
theorem replaceRounds_eq {words : List (String × String)} (hwords : ∀ entry ∈ words, isWordText entry.1 = true)
    (hinert : ∀ entry ∈ words, Inert words entry.2) (rounds : Nat) (text : String) :
    replaceRounds words (rounds + 1) text = replaceRound words text := by
  have hagain : replaceRound words (replaceRound words text) = replaceRound words text := by
    rw [← String.toList_inj, toList_replaceRound hwords, toList_replaceRound hwords, mapWords_mapWords]
    refine mapWords_congr (fun w hw hne => ?_) text.toList
    rw [expandWord_eq hwords hinert hw hne]
    cases hvalue : Table.lookupIn (String.ofList w) words with
    | none =>
      show mapWords (expandWord words) w = w
      rw [mapWords_word hw hne, expandWord_eq hwords hinert hw hne, hvalue]
      rfl
    | some value =>
      have hround := (hinert _ (Table.mem_of_lookupIn hvalue)).replaceRound_eq
      rw [← String.toList_inj, toList_replaceRound hwords] at hround
      exact hround
  unfold replaceRounds
  dsimp only
  split
  · next hsame => exact hsame.symm
  · cases rounds with
    | zero => rfl
    | succ rounds =>
      unfold replaceRounds
      dsimp only
      rw [if_pos hagain]

end Symbols

end InteropGen
