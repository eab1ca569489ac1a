import InteropGen.Proofs.Inclusions

/-!
# The types of aliases

A constant is a literal of its type (`IsLiteral`) or an alias: its value is the name of a define that was known
(`constantType_cases`). `alias_types` says that the class then has a constant of that name further up, and where
the two types come from. The class keeps the first constant of a name (`find?_foldl_addNew`), so that the type of
the target is the one of the first inclusion of the name, while what is known of a name is what its last
inclusion entered (`find?_knownAfter`), and that is the type the alias takes. The two are the same unless a define
that is there already is included once more with another type before the alias is reached.
-/

namespace InteropGen.Generate

open Metadata

/-- Is the value a literal of the type? -/
def IsLiteral (constant : Decl.Constant) : Prop :=
  constant.type = .plain "bool" ∧ constant.value = "true" ∨
  constant.type = .plain "long" ∧ (isHexText constant.value || isIntegerText constant.value) = true ∨
  constant.type = .plain "string" ∧ isQuotedText constant.value = true

theorem isQuotedText_quoted (content : String) : isQuotedText ("\"" ++ content ++ "\"") = true := by
  have hquote : "\"".toList = ['"'] := by decide
  have hstarts : Text.startsWith ("\"" ++ content ++ "\"") "\"" = true :=
    Text.startsWith_iff.mpr ⟨content.toList ++ ['"'], by simp [hquote]⟩
  have hends : Text.endsWith ("\"" ++ content ++ "\"") "\"" = true :=
    Text.endsWith_iff.mpr ⟨'"' :: content.toList, by simp [hquote]⟩
  have hlength : 2 ≤ ("\"" ++ content ++ "\"").length := by
    rw [← String.length_toList]
    simp [hquote]
  rw [isQuotedText, hstarts, hends, decide_eq_true hlength]
  rfl

theorem isLiteral_seedConstant (s : Symbols) (name : String) : IsLiteral (seedConstant s name) :=
  .inr (.inr ⟨rfl, isQuotedText_quoted _⟩)

theorem nonEmpty?_some {text : String} (h : text ≠ "") : nonEmpty? (some text) = some text :=
  Option.filter_eq_some_iff.mpr ⟨rfl, by simpa using h⟩

theorem getD_nonEmpty?_ne (text : Option String) : (nonEmpty? text).getD "string" ≠ "" := by
  cases htext : nonEmpty? text with
  | none => decide
  | some found =>
    obtain ⟨-, hfound⟩ := Option.filter_eq_some_iff.mp htext
    simpa using hfound

/-- What a define gives is a literal of its type or the name of a known define, with what is known of its type. -/
theorem constantType_cases (s : Symbols) (define : Define) :
    (∀ head, IsLiteral ⟨head, .plain (constantType s define).1, (constantType s define).2⟩) ∨
    ∃ known, s.defines.find? (constantType s define).2 = some known ∧
      (constantType s define).1 = (nonEmpty? known.1).getD "string" := by
  unfold constantType
  dsimp only
  split
  · exact .inl fun _ => .inl ⟨rfl, rfl⟩
  · split
    · next type content hknown => exact .inr ⟨_, hknown, rfl⟩
    · split
      · next hinteger => exact .inl fun _ => .inr (.inl ⟨rfl, hinteger⟩)
      · split
        · next hquoted => exact .inl fun _ => .inr (.inr ⟨rfl, hquoted⟩)
        · exact .inl fun _ => .inl ⟨rfl, rfl⟩

namespace Inclusion

variable (s : Symbols) (define : Define) (seen : Nat)

theorem make_cases : IsLiteral (make s define seen).constant ∨
    ∃ entered, s.defines.find? (make s define seen).value = some entered ∧
      (make s define seen).type = (nonEmpty? entered.1).getD "string" := by
  simp only [make, constant]
  exact (constantType_cases s define).imp_left fun hliteral => hliteral _

theorem make_type_ne : (make s define seen).type ≠ "" := by
  rcases make_cases s define seen with (⟨htype, -⟩ | ⟨htype, -⟩ | ⟨htype, -⟩) | ⟨entered, -, htype⟩
  · exact ne_of_eq_of_ne (TypeText.plain.inj htype) (by decide)
  · exact ne_of_eq_of_ne (TypeText.plain.inj htype) (by decide)
  · exact ne_of_eq_of_ne (TypeText.plain.inj htype) (by decide)
  · exact ne_of_eq_of_ne htype (getD_nonEmpty?_ne entered.1)

end Inclusion

/-! ### Which constants stay -/

variable {old made front back : List Decl.Constant} {constant : Decl.Constant}

/-- Of the constants of a name the first one stays. -/
theorem find?_foldl_addNew (made old : List Decl.Constant) (name : String) :
    (made.foldl addNew old).find? (·.head.name = name) =
      (old ++ made).find? (·.head.name = name) := by
  induction made generalizing old with
  | nil => rw [List.foldl_nil, List.append_nil]
  | cons constant made ih =>
    rw [List.foldl_cons, ih, addNew]
    split
    · next hany =>
      obtain ⟨first, hfirst, hname⟩ := List.any_eq_true.mp hany
      rw [List.find?_append, List.find?_append, List.find?_cons]
      by_cases hthis : constant.head.name = name
      · have hfound : (old.find? (·.head.name = name)).isSome = true :=
          List.find?_isSome.mpr ⟨first, hfirst, by simpa [← hthis] using hname⟩
        obtain ⟨found, hfound⟩ := Option.isSome_iff_exists.mp hfound
        rw [hfound]
        rfl
      · simp [hthis]
    · rw [List.append_assoc, List.singleton_append]

/-- A constant that stays was there before, or stands behind what its forerunners left. -/
theorem split_foldl_addNew (h : made.foldl addNew old = front ++ constant :: back) :
    (∃ rest, old = front ++ constant :: rest) ∨
    ∃ before after, made = before ++ constant :: after ∧ front = before.foldl addNew old := by
  induction made generalizing old with
  | nil => exact .inl ⟨back, h⟩
  | cons new made ih =>
    rcases ih h with ⟨rest, hrest⟩ | ⟨before, after, hmade, hfront⟩
    · rw [addNew] at hrest
      split at hrest
      · exact .inl ⟨rest, hrest⟩
      · rcases List.eq_nil_or_concat rest with rfl | ⟨rest, last, rfl⟩
        · obtain ⟨hfront, hnew⟩ := List.append_inj' hrest rfl
          obtain rfl := List.singleton_inj.mp hnew
          exact .inr ⟨[], made, rfl, hfront.symm⟩
        · have hends : old ++ [new] = (front ++ constant :: rest) ++ [last] := by simpa using hrest
          exact .inl ⟨rest, (List.append_inj' hends rfl).1⟩
    · exact .inr ⟨new :: before, after, by rw [hmade, List.cons_append], hfront⟩

/-! ### Where the types come from -/

/-- The type of the first inclusion of a name; a seed is a text. -/
def firstType (settings : Settings) (known : List Inclusion) (name : String) : String :=
  if name ∈ settings.knownDefines then "string"
  else ((known.find? (·.define.name = name)).map (·.type)).getD "string"

/-- The type of the last inclusion of a name; a name without one is a seed. -/
def lastType (known : List Inclusion) (name : String) : String :=
  ((known.reverse.find? (·.define.name = name)).map (·.type)).getD "string"

theorem find?_ofSettings (settings : Settings) (name : String) :
    (Symbols.ofSettings settings).defines.find? name =
      if name ∈ settings.knownDefines then some (none, "") else none := by
  have hentries : ∀ names : List String,
      Table.lookupIn name (names.map fun name => (name, (none : Option String), "")) =
        if name ∈ names then some (none, "") else none := by
    intro names
    induction names with
    | nil => simp [Table.lookupIn]
    | cons first names ih =>
      rw [List.map_cons, Table.lookupIn, ih]
      by_cases hname : first = name
      · simp [hname]
      · simp [hname, Ne.symm hname]
  show (Table.insertAll {} _).find? name = _
  rw [Table.find?_insertAll_last, ← List.map_reverse, hentries]
  simp [Table.find?, Table.lookupIn]

variable {settings : Settings} {known : List Inclusion} {name : String}

/-- What is known of a name comes from its last inclusion or from a seed. -/
theorem lastType_of_known {entered : Option String × String} (htypes : ∀ i ∈ known, i.type ≠ "")
    (h : (knownAfter (.ofSettings settings) known).defines.find? name = some entered) :
    (nonEmpty? entered.1).getD "string" = lastType known name := by
  rw [find?_knownAfter, find?_ofSettings] at h
  unfold lastType
  cases hlast : known.reverse.find? (·.define.name = name) with
  | some i =>
    have hi : i.type ≠ "" := htypes i (List.mem_reverse.mp (List.mem_of_find?_eq_some hlast))
    rw [hlast, Option.map_some, Option.some_or] at h
    obtain rfl := Option.some.inj h
    rw [nonEmpty?_some hi]
    rfl
  | none =>
    rw [hlast, Option.map_none, Option.none_or] at h
    split at h
    · obtain rfl := Option.some.inj h
      rfl
    · cases h

theorem mem_of_known {entered : Option String × String}
    (h : (knownAfter (.ofSettings settings) known).defines.find? name = some entered) :
    name ∈ settings.knownDefines ∨ ∃ i ∈ known, i.define.name = name := by
  rw [find?_knownAfter, find?_ofSettings] at h
  cases hlast : known.reverse.find? (·.define.name = name) with
  | some i =>
    exact .inr ⟨i, List.mem_reverse.mp (List.mem_of_find?_eq_some hlast), by
      simpa using List.find?_some hlast⟩
  | none =>
    rw [hlast, Option.map_none, Option.none_or] at h
    split at h
    · next hseed => exact .inl hseed
    · cases h

/-- The constants of the seeds and of included defines have one of a name that was known to a part of them. -/
theorem exists_target (rest : List Inclusion)
    (h : name ∈ settings.knownDefines ∨ ∃ i ∈ known, i.define.name = name) :
    ∃ target ∈ ((known ++ rest).map Inclusion.constant).foldl addNew (startRun (.ofSettings settings)).constants,
      target.head.name = name ∧ target.type = .plain (firstType settings known name) := by
  have hseeds : ∀ names : List String,
      (names.map (seedConstant (.ofSettings settings))).find? (·.head.name = name) =
        if name ∈ names then some (seedConstant (.ofSettings settings) name) else none := by
    intro names
    induction names with
    | nil => simp
    | cons first names ih =>
      rw [List.map_cons, List.find?_cons, ih]
      by_cases hname : first = name
      · simp [seedConstant, hname]
      · simp [seedConstant, hname, Ne.symm hname]
  have hfind := find?_foldl_addNew ((known ++ rest).map Inclusion.constant)
    (startRun (.ofSettings settings)).constants name
  rw [List.find?_append, show (startRun (.ofSettings settings)).constants.find? (·.head.name = name) = _ from
    hseeds settings.knownDefines] at hfind
  unfold firstType
  by_cases hseed : name ∈ settings.knownDefines
  · rw [if_pos hseed, Option.some_or] at hfind
    rw [if_pos hseed]
    exact ⟨_, List.mem_of_find?_eq_some hfind, rfl, rfl⟩
  · obtain ⟨i, hi, hname⟩ := h.resolve_left hseed
    have hsome : (known.find? (·.define.name = name)).isSome = true :=
      List.find?_isSome.mpr ⟨i, hi, by simpa using hname⟩
    obtain ⟨first, hfirst⟩ := Option.isSome_iff_exists.mp hsome
    have hmap : ((known ++ rest).map Inclusion.constant).find? (·.head.name = name) = some first.constant := by
      rw [List.find?_map]
      have hsame : ((fun constant : Decl.Constant => decide (constant.head.name = name)) ∘
          Inclusion.constant) = fun i : Inclusion => decide (i.define.name = name) :=
        funext fun i => by rw [Function.comp_apply, Inclusion.name_constant]
      rw [hsame, List.find?_append, hfirst]
      rfl
    rw [if_neg hseed, Option.none_or, hmap] at hfind
    rw [if_neg hseed, hfirst]
    exact ⟨first.constant, List.mem_of_find?_eq_some hfind, by simpa using List.find?_some hfind, rfl⟩

/--
A constant whose value is not a literal of its type is the one of a define that counts, and its value is the name
of a constant further up. That constant has the type of the first inclusion of its name, the alias that of the last
one among the defines that were known to it; a seed is a text.
-/
theorem alias_types {settings : Settings} {defines : List Define} {front back : List Decl.Constant}
    {constant : Decl.Constant} (h : (constants defines (.ofSettings settings)).1 = front ++ constant :: back)
    (hvalue : ¬IsLiteral constant) :
    ∃ i ∈ inclusions defines (.ofSettings settings), constant = i.constant ∧
      ∃ target ∈ front, target.head.name = constant.value ∧
        target.type = .plain (firstType settings
          ((inclusions defines (.ofSettings settings)).take i.seen) constant.value) ∧
        constant.type = .plain (lastType
          ((inclusions defines (.ofSettings settings)).take i.seen) constant.value) := by
  obtain ⟨⟨-, -, -, -, hgives⟩, -⟩ := accounts_loggedRun defines (.ofSettings settings)
  change ∀ (k : Nat) (i : Inclusion), (inclusions defines (.ofSettings settings))[k]? = some i → _ ∧
    i = Inclusion.make (knownAfter _ ((inclusions defines (.ofSettings settings)).take i.seen)) _ _ at hgives
  rw [constants_eq] at h
  generalize inclusions defines (.ofSettings settings) = included at h hgives ⊢
  rcases split_foldl_addNew h with ⟨rest, hseeds⟩ | ⟨before, after, hmade, hfront⟩
  · have hmem : constant ∈ (startRun (.ofSettings settings)).constants :=
      hseeds ▸ List.mem_append_right _ List.mem_cons_self
    obtain ⟨name, -, rfl⟩ := List.mem_map.mp hmem
    exact absurd (isLiteral_seedConstant _ name) hvalue
  · obtain ⟨included₁, included₂, rfl, rfl, htail⟩ := List.map_eq_append_iff.mp hmade
    obtain ⟨i, included₃, rfl, rfl, -⟩ := List.map_eq_cons_iff.mp htail
    obtain ⟨hseen, hi⟩ := hgives included₁.length i (by simp)
    have htypes : ∀ other ∈ included₁.take i.seen, other.type ≠ "" := by
      intro other hother
      obtain ⟨k, hk⟩ := List.mem_iff_getElem?.mp
        (List.mem_append_left (i :: included₃) (List.mem_of_mem_take hother))
      rw [(hgives k other hk).2]
      exact Inclusion.make_type_ne _ _ _
    refine ⟨i, List.mem_append_right _ List.mem_cons_self, rfl, ?_⟩
    rw [List.take_append_of_le_length hseen] at hi ⊢
    have hcases := Inclusion.make_cases (knownAfter (.ofSettings settings) (included₁.take i.seen)) i.define i.seen
    rw [← hi] at hcases
    obtain ⟨entered, hentered, htype⟩ := hcases.resolve_left hvalue
    obtain ⟨target, htarget, hname, hfirst⟩ :=
      exists_target (included₁.drop i.seen) (mem_of_known hentered)
    rw [List.take_append_drop, ← hfront] at htarget
    have hlast := htype.trans (lastType_of_known htypes hentered)
    exact ⟨target, htarget, hname, hfirst, congrArg TypeText.plain hlast⟩

/-- A define that is there already comes once more, with a text in place of a number, and then its alias. -/
def redefinedTarget : List Define :=
  [{ name := "LIMIT", content := some "1" }, { name := "LIMIT", content := some "\"x\"" },
    { name := "ALIAS", content := some "LIMIT" }]

/-- The class has the number, but the alias is a text. -/
theorem alias_types_redefinedTarget :
    (constants redefinedTarget (.ofSettings {})).1 =
      [⟨{ name := "LIMIT", modifiers := ["public", "const"] }, .plain "long", "1"⟩] ++
        ⟨{ name := "ALIAS", modifiers := ["public", "const"] }, .plain "string", "LIMIT"⟩ :: [] ∧
    ∃ i ∈ inclusions redefinedTarget (.ofSettings {}),
      firstType {} ((inclusions redefinedTarget (.ofSettings {})).take i.seen) "LIMIT" = "long" ∧
      lastType ((inclusions redefinedTarget (.ofSettings {})).take i.seen) "LIMIT" = "string" := by
  have hconstants : (constants redefinedTarget (.ofSettings {})).1 =
      [⟨{ name := "LIMIT", modifiers := ["public", "const"] }, .plain "long", "1"⟩] ++
        ⟨{ name := "ALIAS", modifiers := ["public", "const"] }, .plain "string", "LIMIT"⟩ :: [] := by
    rfl
  have hvalue : ¬IsLiteral ⟨{ name := "ALIAS", modifiers := ["public", "const"] }, .plain "string", "LIMIT"⟩ := by
    rintro (⟨htype, -⟩ | ⟨htype, -⟩ | ⟨-, hquoted⟩)
    · exact absurd (TypeText.plain.inj htype) (by decide)
    · exact absurd (TypeText.plain.inj htype) (by decide)
    · exact absurd hquoted (by decide)
  obtain ⟨i, hi, -, target, htarget, -, hfirst, hlast⟩ := alias_types hconstants hvalue
  obtain rfl := List.mem_singleton.mp htarget
  exact ⟨hconstants, i, hi, (TypeText.plain.inj hfirst).symm, (TypeText.plain.inj hlast).symm⟩

end InteropGen.Generate
