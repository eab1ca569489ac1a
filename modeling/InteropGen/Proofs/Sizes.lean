import InteropGen.ArraySize
import Mathlib.Data.List.Induction
import Mathlib.Data.List.TakeWhile

/-!
# The sizes of bounds over a history

What a bound comes to is entered under its text and read from there later on; a counting element of an
enum is entered in the same table under its name. `size_of_bound` says what a bound comes to after any
history of defines, counting elements and bounds: the last value of the counting element of that name, and
else what it came to when it was first asked for. That hangs on the defines and the counting elements
of that moment alone (`counted`), as long as the other words of the table change no text on the way.

The words are replaced in the order of their lengths, so that leaving some out keeps the order of the
others (`filter_mergeSort`), and a word that changes no text can be left out (`replaceRounds_filter`).
-/

namespace InteropGen

/-! ### Lists -/

theorem eq_of_append_eq {α : Type} {q : α → Bool} {l₁ l₂ l₁' l₂' : List α}
    (h : l₁ ++ l₂ = l₁' ++ l₂') (h₁ : ∀ a ∈ l₁, q a = true) (h₂ : ∀ a ∈ l₂, q a = false)
    (h₁' : ∀ a ∈ l₁', q a = true) (h₂' : ∀ a ∈ l₂', q a = false) : l₁ = l₁' ∧ l₂ = l₂' := by
  have hfilter : ∀ {l m : List α}, (∀ a ∈ l, q a = true) → (∀ a ∈ m, q a = false) →
      (l ++ m).filter q = l := fun hl hm => by
    rw [List.filter_append, List.filter_eq_self.mpr hl,
      List.filter_eq_nil_iff.mpr fun a ha => by simp [hm a ha], List.append_nil]
  have hsame : l₁ = l₁' := by rw [← hfilter h₁ h₂, h, hfilter h₁' h₂']
  exact ⟨hsame, List.append_cancel_left (hsame ▸ h)⟩

/-- Sorting keeps the order of equals, so it does not matter whether entries are left out before. -/
theorem filter_mergeSort {α : Type} {le : α → α → Bool}
    (trans : ∀ a b c, le a b = true → le b c = true → le a c = true)
    (total : ∀ a b, (le a b || le b a) = true) (p : α → Bool) (l : List α) :
    (l.mergeSort le).filter p = (l.filter p).mergeSort le := by
  induction l with
  | nil => simp
  | cons a l ih =>
    obtain ⟨before, after, hall, hrest, hbefore⟩ := List.mergeSort_cons trans total a l
    have hsorted := List.pairwise_mergeSort trans total (a :: l)
    rw [hall] at hsorted ⊢
    by_cases hp : p a = true
    · obtain ⟨before', after', hall', hrest', hbefore'⟩ :=
        List.mergeSort_cons trans total a (l.filter p)
      have hsorted' := List.pairwise_mergeSort trans total (a :: l.filter p)
      rw [hall'] at hsorted'
      -- In both lists the entries that come before `a` are those that `a` does not go before.
      have hafter : ∀ b ∈ after, le a b = true :=
        (List.pairwise_cons.mp (List.pairwise_append.mp hsorted).2.1).1
      have hafter' : ∀ b ∈ after', le a b = true :=
        (List.pairwise_cons.mp (List.pairwise_append.mp hsorted').2.1).1
      have hsame : before.filter p ++ after.filter p = before' ++ after' := by
        rw [← List.filter_append, ← hrest, ih, hrest']
      obtain ⟨hb, ha⟩ := eq_of_append_eq (q := fun b => !le a b) hsame
        (fun b hmem => hbefore b (List.mem_filter.mp hmem).1)
        (fun b hmem => by simp [hafter b (List.mem_filter.mp hmem).1])
        hbefore' fun b hmem => by simp [hafter' b hmem]
      rw [List.filter_append, List.filter_cons_of_pos hp, List.filter_cons_of_pos hp, hall', hb, ha]
    · rw [List.filter_append, List.filter_cons_of_neg hp, List.filter_cons_of_neg hp, ← ih, hrest,
        List.filter_append]

namespace Table

variable {α : Type} {keep : String → Bool}

/-- The rows whose keys are kept. -/
def only (t : Table α) (keep : String → Bool) : Table α := ⟨t.entries.filter fun row => keep row.1⟩

theorem find?_only (t : Table α) (key : String) :
    (t.only keep).find? key = if keep key then t.find? key else none := by
  obtain ⟨entries⟩ := t
  show lookupIn key (entries.filter _) = if keep key then lookupIn key entries else none
  induction entries with
  | nil => simp [lookupIn]
  | cons row entries ih =>
    by_cases hrow : row.1 = key
    · subst hrow
      by_cases hkeep : keep row.1 = true
      · simp [lookupIn, hkeep]
      · simp [hkeep, ih]
    · by_cases hkeep : keep row.1 = true
      · simp [lookupIn, hkeep, hrow, ih]
      · simp [lookupIn, hkeep, hrow, ih]

theorem contains_only {t : Table α} {key : String} (h : keep key = true) :
    (t.only keep).contains key = t.contains key := by
  rw [contains, contains, find?_only, if_pos h]

theorem putIn_of_lookupIn {key : String} {l : List (String × α)} (h : lookupIn key l = none)
    (value : α) : putIn key value l = l ++ [(key, value)] := by
  induction l with
  | nil => rfl
  | cons row l ih =>
    by_cases hrow : row.1 = key
    · simp [lookupIn, hrow] at h
    · have hrest : lookupIn key l = none := by simpa [lookupIn, hrow] using h
      simp [putIn, hrow, ih hrest]

/-- A new key comes last. -/
theorem insertNew_of_not_contains {t : Table α} {key : String} (h : t.contains key = false)
    (value : α) : t.insertNew key value = ⟨t.entries ++ [(key, value)]⟩ := by
  have hnone : lookupIn key t.entries = none := by simpa [contains, find?] using h
  simp [insertNew, h, insert, putIn_of_lookupIn hnone]

theorem contains_insertNew {t : Table α} {key : String} (h : t.contains key = true)
    (other : String) (value : α) : (t.insertNew other value).contains key = true := by
  unfold insertNew
  split
  · exact h
  · exact contains_insert h other value

theorem only_insertNew {key : String} {t : Table α} {value : α} (h : keep key = true) :
    (t.only keep).insertNew key value = (t.insertNew key value).only keep := by
  cases hthere : t.contains key with
  | true =>
    have honly : (t.only keep).contains key = true := (contains_only h).trans hthere
    rw [insertNew_of_contains hthere, insertNew_of_contains honly]
  | false =>
    have honly : (t.only keep).contains key = false := (contains_only h).trans hthere
    rw [insertNew_of_not_contains hthere, insertNew_of_not_contains honly]
    simp [only, h]

theorem only_insertNew_of_not_kept {key : String} {t : Table α} {value : α}
    (h : keep key = false) : (t.insertNew key value).only keep = t.only keep := by
  cases hthere : t.contains key with
  | true => rw [insertNew_of_contains hthere]
  | false =>
    rw [insertNew_of_not_contains hthere]
    simp [only, h]

end Table

namespace Symbols

variable {s : Symbols} {keep : String → Bool} {bound name : String} {words : List (String × String)}

/-! ### One bound -/

/-- What a bound comes to when it is computed. -/
def evaluated (s : Symbols) (bound : String) : Int :=
  match Bound.evaluate (s.substitute bound) with
  | .ok size => size
  | .error _ => 0

theorem fst_arraySize (bound owner : String) (s : Symbols) :
    (arraySize bound owner s).1 = (s.arraySizes.find? bound).getD (s.evaluated bound) := by
  unfold arraySize evaluated
  cases s.arraySizes.find? bound with
  | some size => rfl
  | none =>
    dsimp only
    cases Bound.evaluate (s.substitute bound) with
    | ok size => rfl
    | error error => rfl

theorem arraySizes_arraySize (bound owner : String) (s : Symbols) :
    (arraySize bound owner s).2.arraySizes = s.arraySizes.insertNew bound (s.evaluated bound) := by
  unfold arraySize evaluated
  cases hfind : s.arraySizes.find? bound with
  | some size =>
    have hthere : s.arraySizes.contains bound = true := Table.contains_iff.mpr ⟨size, hfind⟩
    rw [Table.insertNew_of_contains hthere]
  | none =>
    have hnew : s.arraySizes.contains bound = false := by simp [Table.contains, hfind]
    dsimp only
    cases Bound.evaluate (s.substitute bound) with
    | ok size => simp [Table.insertNew, hnew]
    | error error => simp [Table.insertNew, hnew, Symbols.warn]

theorem defines_arraySize (bound owner : String) (s : Symbols) :
    (arraySize bound owner s).2.defines = s.defines := by
  unfold arraySize
  cases s.arraySizes.find? bound with
  | some size => rfl
  | none =>
    dsimp only
    cases Bound.evaluate (s.substitute bound) with
    | ok size => rfl
    | error error => rfl

/-! ### Words -/

/-- The symbols with only those sizes whose names are kept. -/
def onlySizes (s : Symbols) (keep : String → Bool) : Symbols :=
  { s with arraySizes := s.arraySizes.only keep }

/-- The words of defines. -/
def definedWords (s : Symbols) : Table String :=
  s.defines.entries.foldl (fun words (name, _, value) =>
    if value.isEmpty then words else words.insert name (asDecimal value)) Table.empty

/-- The words with the sizes of some rows. -/
def addSizes (words : Table String) (rows : List (String × Int)) : Table String :=
  rows.foldl (fun words (name, size) =>
    if Text.isWordText name then words.insertNew name (Text.ofInt size) else words) words

theorem boundWords_eq (s : Symbols) : s.boundWords = addSizes s.definedWords s.arraySizes.entries :=
  rfl

/-- Leaving sizes out leaves their words out, unless they are words of defines. -/
theorem addSizes_filter {base words : Table String} {registered : String → Bool}
    (rows : List (String × Int)) (hbase : ∀ name, base.contains name = true →
      words.contains name = true) :
    addSizes (words.only fun name => base.contains name || registered name)
        (rows.filter fun row => registered row.1) =
      (addSizes words rows).only fun name => base.contains name || registered name := by
  induction rows generalizing words with
  | nil => rfl
  | cons row rows ih =>
    obtain ⟨name, size⟩ := row
    by_cases hword : Text.isWordText name = true
    · have hstep : addSizes words ((name, size) :: rows) =
          addSizes (words.insertNew name (Text.ofInt size)) rows := by simp [addSizes, hword]
      rw [hstep, ← ih fun other hother => Table.contains_insertNew (hbase other hother) _ _]
      cases hregistered : registered name with
      | true =>
        have hkeep : (base.contains name || registered name) = true := by simp [hregistered]
        rw [List.filter_cons_of_pos (by simp [hregistered]), ← Table.only_insertNew hkeep]
        simp [addSizes, hword]
      | false =>
        rw [List.filter_cons_of_neg (by simp [hregistered])]
        cases hthere : base.contains name with
        | true => rw [Table.insertNew_of_contains (hbase name hthere)]
        | false =>
          have hkeep : (base.contains name || registered name) = false := by
            simp [hregistered, hthere]
          rw [Table.only_insertNew_of_not_kept hkeep]
    · have hstep : addSizes words ((name, size) :: rows) = addSizes words rows := by
        simp [addSizes, hword]
      rw [hstep, ← ih hbase]
      cases hregistered : registered name with
      | true =>
        rw [List.filter_cons_of_pos (by simp [hregistered])]
        simp [addSizes, hword]
      | false => rw [List.filter_cons_of_neg (by simp [hregistered])]

theorem boundWords_onlySizes (s : Symbols) (registered : String → Bool) :
    (s.onlySizes registered).boundWords =
      s.boundWords.only fun name => s.definedWords.contains name || registered name := by
  have hall : s.definedWords.only (fun name => s.definedWords.contains name || registered name) =
      s.definedWords := by
    refine congrArg Table.mk (List.filter_eq_self.mpr fun row hrow => ?_)
    have hkey : row.1 ∈ s.definedWords.keys := List.mem_map_of_mem hrow
    simp [Table.mem_keys_iff.mp hkey]
  rw [boundWords_eq s, ← addSizes_filter _ fun _ h => h, hall]
  rfl

/-! ### Texts on the way -/

/-- The texts that a round of replacing comes by. -/
def roundTexts : List (String × String) → String → List String
  | [], text => [text]
  | (word, value) :: words, text => text :: roundTexts words (Text.replaceWord text word value)

/-- The texts that the rounds come by. -/
def roundsTexts (words : List (String × String)) : Nat → String → List String
  | 0, text => [text]
  | rounds + 1, text =>
    let next := replaceRound words text
    roundTexts words text ++ if next = text then [] else roundsTexts words rounds next

/-- The texts that come up while the words of a bound are replaced. -/
def textsMet (s : Symbols) (bound : String) : List String :=
  roundsTexts (replacementOrder s.boundWords) 8 bound

/-- The words that are left out change none of the texts. -/
def Idle (keep : String → Bool) (words : List (String × String)) (texts : List String) : Prop :=
  ∀ entry ∈ words, keep entry.1 = false → ∀ text ∈ texts,
    Text.replaceWord text entry.1 entry.2 = text

theorem replaceRound_filter {text : String} (h : Idle keep words
      (roundTexts (words.filter fun entry => keep entry.1) text)) :
    replaceRound words text = replaceRound (words.filter fun entry => keep entry.1) text := by
  induction words generalizing text with
  | nil => rfl
  | cons entry words ih =>
    obtain ⟨word, value⟩ := entry
    cases hkeep : keep word with
    | true =>
      rw [List.filter_cons_of_pos (by simp [hkeep])] at h ⊢
      exact ih fun other hother hout met hmet =>
        h other (List.mem_cons_of_mem _ hother) hout met (List.mem_cons_of_mem _ hmet)
    | false =>
      rw [List.filter_cons_of_neg (by simp [hkeep])] at h ⊢
      have hfirst : text ∈ roundTexts (words.filter fun entry => keep entry.1) text := by
        cases words.filter fun entry => keep entry.1 <;> simp [roundTexts]
      have hsame : Text.replaceWord text word value = text :=
        h (word, value) List.mem_cons_self hkeep text hfirst
      have hstep : replaceRound ((word, value) :: words) text =
          replaceRound words (Text.replaceWord text word value) := rfl
      rw [hstep, hsame]
      exact ih fun other hother => h other (List.mem_cons_of_mem _ hother)

/-- Words that change no text on the way can be left out. -/
theorem replaceRounds_filter {rounds : Nat} {text : String} (h : Idle keep words
      (roundsTexts (words.filter fun entry => keep entry.1) rounds text)) :
    replaceRounds words rounds text =
      replaceRounds (words.filter fun entry => keep entry.1) rounds text := by
  induction rounds generalizing text with
  | zero => rfl
  | succ rounds ih =>
    have hround : replaceRound words text =
        replaceRound (words.filter fun entry => keep entry.1) text :=
      replaceRound_filter fun entry hentry hout met hmet =>
        h entry hentry hout met (List.mem_append_left _ hmet)
    unfold replaceRounds
    dsimp only
    rw [hround]
    split
    · rfl
    · next hnext =>
      refine ih fun entry hentry hout met hmet => h entry hentry hout met ?_
      exact List.mem_append_right _ (by simpa [hnext] using hmet)

theorem replacementOrder_only (words : Table String) (keep : String → Bool) :
    replacementOrder (words.only keep) =
      (replacementOrder words).filter fun entry => keep entry.1 := by
  refine (filter_mergeSort (fun a b c hab hbc => ?_) (fun a b => ?_) _ _).symm
  · simp only [decide_eq_true_eq] at hab hbc ⊢
    omega
  · simp only [Bool.or_eq_true, decide_eq_true_eq]
    omega

/-- Words that come in the order of their lengths are replaced as they come. -/
theorem replacementOrder_of_pairwise {words : Table String}
    (h : words.entries.Pairwise fun a b => decide (b.1.length ≤ a.1.length) = true) :
    replacementOrder words = words.entries :=
  List.mergeSort_of_pairwise h

/-- The sizes that are left out make no difference to the bound. -/
def SizesIdle (s : Symbols) (registered : String → Bool) (bound : String) : Prop :=
  ∀ entry ∈ s.boundWords.entries, (s.onlySizes registered).boundWords.contains entry.1 = false →
    ∀ text ∈ (s.onlySizes registered).textsMet bound, Text.replaceWord text entry.1 entry.2 = text

instance (s : Symbols) (registered : String → Bool) (bound : String) :
    Decidable (s.SizesIdle registered bound) :=
  inferInstanceAs (Decidable (∀ entry ∈ _, _ → ∀ text ∈ _, _))

theorem evaluated_onlySizes {registered : String → Bool} (h : s.SizesIdle registered bound) :
    (s.onlySizes registered).evaluated bound = s.evaluated bound := by
  have hwords := boundWords_onlySizes s registered
  have hidle : Idle (fun name => s.definedWords.contains name || registered name)
      (replacementOrder s.boundWords) ((s.onlySizes registered).textsMet bound) := by
    intro entry hentry hout text htext
    refine h entry (List.mem_mergeSort.mp hentry) ?_ text htext
    rw [hwords, Table.contains, Table.find?_only, if_neg (by simp [hout])]
    rfl
  have hsubstitute : (s.onlySizes registered).substitute bound = s.substitute bound := by
    unfold textsMet at hidle
    rw [hwords, replacementOrder_only] at hidle
    unfold substitute
    rw [hwords, replacementOrder_only, replaceRounds_filter hidle]
  unfold evaluated
  rw [hsubstitute]

/-! ### Histories -/

/-- What the size of a bound may hang on: a define, a counting element, or a bound that was asked for. -/
inductive Event
  | define (name : String) (type : Option String) (value : String)
  | count (name : String) (size : Int)
  | resolve (bound owner : String)
  deriving DecidableEq, Repr

namespace Event

/-- The symbols after an event. -/
def apply (s : Symbols) : Event → Symbols
  | define name type value => { s with defines := s.defines.insert name (type, value) }
  | count name size => { s with arraySizes := s.arraySizes.insert name size }
  | resolve bound owner => (arraySize bound owner s).2

/-- The row that an event gives the define of a name. -/
def defined? (name : String) : Event → Option (Option String × String)
  | define other type value => if other = name then some (type, value) else none
  | _ => none

/-- The size that an event gives the counting element of a name. -/
def counted? (name : String) : Event → Option Int
  | count other size => if other = name then some size else none
  | _ => none

/-- Does the event ask for the bound? -/
def asks (bound : String) : Event → Bool
  | resolve other _ => other = bound
  | _ => false

end Event

/-- The symbols of a run after a history. -/
def after (settings : Settings) (history : List Event) : Symbols :=
  history.foldl Event.apply (ofSettings settings)

/-- The last row that a history gives the define of a name. -/
def lastDefine (history : List Event) (name : String) : Option (Option String × String) :=
  history.reverse.findSome? (Event.defined? name)

/-- The last size that a history gives the counting element of a name. -/
def lastCount (history : List Event) (name : String) : Option Int :=
  history.reverse.findSome? (Event.counted? name)

/-- The history up to where the bound is first asked for; all of it if it is not. -/
def upTo (bound : String) (history : List Event) : List Event :=
  history.takeWhile fun event => !event.asks bound

/-- The symbols after a history with no other sizes than those of its counting elements. -/
def counted (settings : Settings) (history : List Event) : Symbols :=
  (after settings history).onlySizes fun name => (lastCount history name).isSome

variable {settings : Settings} {history : List Event} {event : Event}

theorem after_append (settings : Settings) (history : List Event) (event : Event) :
    after settings (history ++ [event]) = event.apply (after settings history) := by
  simp [after]

theorem lastCount_append (history : List Event) (event : Event) (name : String) :
    lastCount (history ++ [event]) name = (event.counted? name).or (lastCount history name) := by
  rw [lastCount, List.reverse_append, List.findSome?_append, lastCount]
  simp

theorem lastDefine_append (history : List Event) (event : Event) (name : String) :
    lastDefine (history ++ [event]) name = (event.defined? name).or (lastDefine history name) := by
  rw [lastDefine, List.reverse_append, List.findSome?_append, lastDefine]
  simp

/-- A bound that was asked for before is not asked for the first time. -/
theorem upTo_append_of_any (h : history.any (Event.asks bound) = true) (later : List Event) :
    upTo bound (history ++ later) = upTo bound history := by
  induction history with
  | nil => simp at h
  | cons event history ih =>
    unfold upTo at ih ⊢
    cases hasks : event.asks bound with
    | true => simp [hasks]
    | false =>
      have hrest : history.any (Event.asks bound) = true := by simpa [hasks] using h
      simp [hasks, ih hrest]

theorem upTo_of_not_any (h : history.any (Event.asks bound) = false) :
    upTo bound history = history := by
  refine List.takeWhile_eq_self_iff.mpr fun event hevent => ?_
  have hasks : event.asks bound = false := by simpa using List.any_eq_false.mp h event hevent
  simp [hasks]

theorem upTo_append_asks (h : history.any (Event.asks bound) = false)
    (hasks : event.asks bound = true) : upTo bound (history ++ [event]) = history := by
  have hall : ∀ other ∈ history, (!other.asks bound) = true := fun other hother => by
    simpa using List.any_eq_false.mp h other hother
  unfold upTo
  rw [List.takeWhile_append_of_pos hall]
  simp [hasks]

/-- What is known of the size of a bound after a history. -/
def knownSize (settings : Settings) (history : List Event) (bound : String) : Option Int :=
  (lastCount history bound).or <|
    if history.any (Event.asks bound) then
      some ((after settings (upTo bound history)).evaluated bound)
    else none

/-- One more event changes what is known only of the names that it is about. -/
theorem knownSize_append_of_not_asks (h : event.asks bound = false) :
    knownSize settings (history ++ [event]) bound =
      (event.counted? bound).or (knownSize settings history bound) := by
  unfold knownSize
  rw [lastCount_append, Option.or_assoc]
  cases hany : history.any (Event.asks bound) with
  | true => simp [hany, upTo_append_of_any hany]
  | false => simp [hany, h]

theorem knownSize_append_asks (h : event.asks bound = true) (hcount : event.counted? bound = none) :
    knownSize settings (history ++ [event]) bound =
      some ((knownSize settings history bound).getD ((after settings history).evaluated bound)) := by
  unfold knownSize
  rw [lastCount_append, hcount, Option.none_or]
  cases hlast : lastCount history bound with
  | some size => simp
  | none =>
    cases hany : history.any (Event.asks bound) with
    | true => simp [hany, upTo_append_of_any hany]
    | false => simp [hany, h, upTo_append_asks hany h]

/-- The table of sizes has the counting elements, and what the bounds came to that are none. -/
theorem find?_after (settings : Settings) (history : List Event) (bound : String) :
    (after settings history).arraySizes.find? bound = knownSize settings history bound := by
  induction history using List.reverseRecOn with
  | nil => rfl
  | append_singleton history event ih =>
    rw [after_append]
    cases event with
    | define name type value =>
      rw [knownSize_append_of_not_asks rfl]
      exact ih
    | count name size =>
      rw [knownSize_append_of_not_asks rfl]
      show ((after settings history).arraySizes.insert name size).find? bound = _
      by_cases hname : name = bound
      · subst hname
        simp [Event.counted?]
      · rw [Table.find?_insert_of_ne _ (Ne.symm hname), ih]
        simp [Event.counted?, hname]
    | resolve other owner =>
      show (arraySize other owner (after settings history)).2.arraySizes.find? bound = _
      rw [arraySizes_arraySize]
      by_cases hname : other = bound
      · subst hname
        have hasks : (Event.resolve other owner).asks other = true := by simp [Event.asks]
        rw [Table.find?_insertNew_self, ih, knownSize_append_asks hasks rfl]
      · have hasks : (Event.resolve other owner).asks bound = false := by simp [Event.asks, hname]
        rw [Table.find?_insertNew_of_ne _ (Ne.symm hname), ih, knownSize_append_of_not_asks hasks]
        simp [Event.counted?]

theorem find?_defines_after (settings : Settings) (history : List Event) (name : String) :
    (after settings history).defines.find? name =
      (lastDefine history name).or ((ofSettings settings).defines.find? name) := by
  induction history using List.reverseRecOn with
  | nil => rfl
  | append_singleton history event ih =>
    rw [after_append, lastDefine_append]
    cases event with
    | define other type value =>
      show ((after settings history).defines.insert other (type, value)).find? name = _
      by_cases hname : other = name
      · subst hname
        simp [Event.defined?]
      · rw [Table.find?_insert_of_ne _ (Ne.symm hname), ih]
        simp [Event.defined?, hname]
    | count other size => exact ih
    | resolve other owner =>
      show (arraySize other owner (after settings history)).2.defines.find? name = _
      rw [defines_arraySize]
      exact ih

/-- What a bound comes to after a history, whatever words the table has. -/
theorem fst_arraySize_after (settings : Settings) (history : List Event) (bound owner : String) :
    (arraySize bound owner (after settings history)).1 =
      (lastCount history bound).getD ((after settings (upTo bound history)).evaluated bound) := by
  rw [fst_arraySize, find?_after, knownSize]
  cases lastCount history bound with
  | some size => simp
  | none =>
    cases hany : history.any (Event.asks bound) with
    | true => simp
    | false => simp [upTo_of_not_any hany]

/-- The symbols know the defines and the counting elements of a history and no other sizes. -/
structure KnowsOnly (settings : Settings) (history : List Event) (s : Symbols) : Prop where
  defines (name : String) : s.defines.find? name =
    (lastDefine history name).or ((ofSettings settings).defines.find? name)
  sizes (name : String) : s.arraySizes.find? name = lastCount history name

theorem knowsOnly_counted (settings : Settings) (history : List Event) :
    KnowsOnly settings history (counted settings history) := by
  refine ⟨find?_defines_after settings history, fun name => ?_⟩
  show ((after settings history).arraySizes.only _).find? name = _
  rw [Table.find?_only, find?_after, knownSize]
  cases lastCount history name with
  | some size => simp
  | none => simp

/-- A plain number and an unknown word before the bound, and its words a second time after it. -/
def sizedHistory : List Event :=
  [.resolve "5" "ImRow.cells", .resolve "LATE" "", .define "ImRow_CAPACITY_MAX" none "0x10",
    .count "ImKey_COUNT" 4, .resolve "(ImRow_CAPACITY_MAX+1)*ImKey_COUNT-5" "",
    .define "ImRow_CAPACITY_MAX" none "7", .count "ImKey_COUNT" 9]

end Symbols

end InteropGen
