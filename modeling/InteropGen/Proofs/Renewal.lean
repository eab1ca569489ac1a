import InteropGen.Proofs.Grounded

/-!
# Directories that are made anew

What making a directory comes to is told by what is in the way (`blocked?`), a file or a name that is too long. If
there is nothing and the directory is not there yet, all directories on the way are there afterwards, whether
they were there before or not (`run_makeRoute`).

So a directory that is made anew is empty, and the tree is the same whatever the directory held
(`run_renewDirectory`). This needs a path that the file system can make a directory at (`OutputPath`): a dot at
its end, for example, asks for a directory that is there, and keeps one that is there from being removed.
-/

namespace InteropGen.Files

variable {t u : Tree} {place other q : List String} {path name : String} {names front : List String}
  {fromRoot : Bool}

/-! ### What is in the way -/

/-- What keeps a directory from being made along names, given from the last one on, if anything does. -/
def blocked? (t : Tree) (fromRoot : Bool) : List String → Option PathError
  | [] => none
  | name :: front =>
    (blocked? t fromRoot front).or <|
      match t.entry? (placeOf fromRoot front) with
      | some (.file _) => some .notDirectory
      | _ => if Tree.maxNameBytes < name.utf8ByteSize then some .unusable else none

theorem blocked?_cons_eq_none : blocked? t fromRoot (name :: front) = none ↔
    blocked? t fromRoot front = none ∧
      (∀ contents, t.entry? (placeOf fromRoot front) ≠ some (.file contents)) ∧
      name.utf8ByteSize ≤ Tree.maxNameBytes := by
  rw [blocked?, Option.or_eq_none_iff]
  refine and_congr_right fun _ => ?_
  rcases t.entry? (placeOf fromRoot front) with _ | _ | contents <;> simp

/-- Only files are in the way. -/
theorem blocked?_congr {fromRoot : Bool}
    (h : ∀ front name, (name :: front) <:+ names → ∀ contents,
      t.entry? (placeOf fromRoot front) = some (.file contents) ↔
        u.entry? (placeOf fromRoot front) = some (.file contents)) :
    blocked? t fromRoot names = blocked? u fromRoot names := by
  induction names with
  | nil => rfl
  | cons name front ih =>
    rw [blocked?, blocked?, ih fun front name hsuffix => h front name (hsuffix.trans (List.suffix_cons _ _))]
    congr 1
    have hfile := h front name (List.suffix_refl _)
    rcases ht : t.entry? (placeOf fromRoot front) with _ | _ | contents
    · rcases hu : u.entry? (placeOf fromRoot front) with _ | _ | contents
      · rfl
      · rfl
      · rw [ht, hu] at hfile
        exact absurd ((hfile contents).mpr rfl) (by simp)
    · rcases hu : u.entry? (placeOf fromRoot front) with _ | _ | contents
      · rfl
      · rfl
      · rw [ht, hu] at hfile
        exact absurd ((hfile contents).mpr rfl) (by simp)
    · rw [(hfile contents).mp ht]

/-- What can be followed has nothing in the way. -/
theorem blocked?_eq_none_of_follow (hup : ".." ∉ names)
    (h : names.reverse.foldlM t.enter (Route.start ⟨fromRoot, []⟩) = .ok q) :
    blocked? t fromRoot names = none := by
  induction names generalizing q with
  | nil => rfl
  | cons name front ih =>
    have hfront : ".." ∉ front := fun hmem => hup (List.mem_cons_of_mem _ hmem)
    rw [List.reverse_cons, List.foldlM_append] at h
    obtain ⟨q', hfollow, hlast⟩ := Build.except_bind_ok.mp h
    rw [List.foldlM_cons] at hlast
    obtain ⟨place, henter, -⟩ := Build.except_bind_ok.mp hlast
    obtain ⟨hdirectory, hshort, -⟩ := enter_eq_ok.mp henter
    have hplace : q' = placeOf fromRoot front :=
      (foldlM_enter_ok hfollow).trans (foldl_walk (fun hmem => hfront (List.mem_reverse.mp hmem)) _)
    refine blocked?_cons_eq_none.mpr ⟨ih hfront hfollow, fun contents => ?_, hshort⟩
    rw [← hplace, hdirectory]
    simp

/-- Where nothing is in the way, what is there is reached. -/
theorem Grounded.follow_of_there (h : Grounded t) (hup : ".." ∉ names)
    (hfree : blocked? t fromRoot names = none) (hthere : t.entry? (placeOf fromRoot names) ≠ none) :
    names.reverse.foldlM t.enter (Route.start ⟨fromRoot, []⟩) = .ok (placeOf fromRoot names) := by
  induction names with
  | nil =>
    rw [placeOf, List.reverse_nil, show onward [] = [] from rfl, List.append_nil]
    rfl
  | cons name front ih =>
    obtain ⟨hfront, hfile, hshort⟩ := blocked?_cons_eq_none.mp hfree
    have hname : name ≠ ".." := fun heq => hup (heq ▸ List.mem_cons_self)
    have hwalk : placeOf fromRoot (name :: front) = walk (placeOf fromRoot front) name := by
      rw [placeOf_cons, ← foldl_walk (by simpa using hname.symm) (placeOf fromRoot front)]
      rfl
    have hdirectory : t.entry? (placeOf fromRoot front) = some .directory := by
      by_cases hdot : name = "."
      · rw [hwalk, walk, if_pos hdot] at hthere
        rcases hentry : t.entry? (placeOf fromRoot front) with _ | _ | contents
        · exact absurd hentry hthere
        · rfl
        · exact absurd hentry (hfile contents)
      · rw [hwalk, walk, if_neg hdot, if_neg hname] at hthere
        exact h.parent _ _ hthere
    have hfollow := ih (fun hmem => hup (List.mem_cons_of_mem _ hmem)) hfront (by simp [hdirectory])
    rw [List.reverse_cons, List.foldlM_append, hfollow]
    have henter : t.enter (placeOf fromRoot front) name = .ok (placeOf fromRoot (name :: front)) :=
      enter_eq_ok.mpr ⟨hdirectory, hshort, hwalk⟩
    show List.foldlM t.enter (placeOf fromRoot front) [name] = _
    rw [List.foldlM_cons, henter]
    rfl

/-! ### Reaching places -/

theorem exists_intercalate_concat (separator : String) (names : List String) (name : String) :
    ∃ front, String.intercalate separator (names ++ [name]) = front ++ name := by
  induction names with
  | nil => exact ⟨"", by rw [List.nil_append, String.intercalate_singleton, String.empty_append]⟩
  | cons first rest ih =>
    obtain ⟨front, hfront⟩ := ih
    refine ⟨first ++ separator ++ front, ?_⟩
    rw [String.append_assoc, ← hfront]
    cases rest <;> exact String.intercalate_cons_cons

theorem exists_routeText (fromRoot : Bool) (name : String) (front : List String) :
    ∃ rest, routeText fromRoot (name :: front) = rest ++ name := by
  obtain ⟨rest, hrest⟩ := exists_intercalate_concat "/" front.reverse name
  refine ⟨(if fromRoot then "/" else "") ++ rest, ?_⟩
  rw [routeText, Route.text, List.reverse_cons, hrest, String.append_assoc]

/-- The text of a route ends in its last name, not in a slash. -/
theorem endsWith_routeText (h : IsName name) :
    Text.endsWith (routeText fromRoot (name :: front)) "/" = false := by
  obtain ⟨rest, hrest⟩ := exists_routeText fromRoot name front
  rw [← Bool.not_eq_true, Text.endsWith_iff, hrest, String.toList_append]
  intro hsuffix
  have hlength : 1 ≤ name.toList.length :=
    List.length_pos_iff.mpr fun hnil => h.empty (String.toList_eq_nil_iff.mp hnil)
  have hslash := List.suffix_of_suffix_length_le hsuffix (List.suffix_append _ _) hlength
  exact h.slash (hslash.subset List.mem_cons_self)

theorem follow_routeText (hnames : ∀ name ∈ names, IsName name) (hstart : fromRoot = true ∨ names ≠ []) :
    t.follow (routeOf (routeText fromRoot names)) =
      names.reverse.foldlM t.enter (Route.start ⟨fromRoot, []⟩) := by
  rw [routeOf_routeText hnames, Tree.follow, if_neg]
  · rfl
  · rcases hstart with hroot | hne
    · simp [hroot]
    · simp [hne]

theorem find_eq_directory (hsize : path.utf8ByteSize ≤ Tree.maxPathBytes)
    (hfollow : t.follow (routeOf path) = .ok place) (hplace : t.entry? place = some .directory) :
    t.find path = .ok (place, some .directory) := by
  unfold Tree.find
  rw [if_neg (Nat.not_lt.mpr hsize)]
  refine Build.except_bind_ok.mpr ⟨place, hfollow, ?_⟩
  rw [hplace]
  rfl

theorem has_of_find {entry : Entry} (h : t.find path = .ok (place, some entry)) : t.has path = true := by
  rw [Tree.has, h]

/-- What is there is found if nothing is in the way. -/
theorem has_routeText (h : Grounded t) (hnames : ∀ name ∈ names, IsName name) (hup : ".." ∉ names)
    (hsize : (routeText fromRoot names).utf8ByteSize ≤ Tree.maxPathBytes)
    (hstart : fromRoot = true ∨ names ≠ []) :
    t.has (routeText fromRoot names) = true ↔
      blocked? t fromRoot names = none ∧ t.entry? (placeOf fromRoot names) ≠ none := by
  have hfollow := follow_routeText (t := t) hnames hstart
  constructor
  · intro hhas
    unfold Tree.has at hhas
    rcases hfind : t.find (routeText fromRoot names) with error | ⟨place, _ | entry⟩ <;>
      rw [hfind] at hhas <;> try cases hhas
    obtain ⟨hreached, hentry⟩ := follow_of_find hfind
    have hplace : place = placeOf fromRoot names :=
      (follow_ok hreached).trans (resolvePath_routeText hnames hup)
    rw [hfollow] at hreached
    exact ⟨blocked?_eq_none_of_follow hup hreached, by simp [← hplace, hentry]⟩
  · rintro ⟨hfree, hthere⟩
    rw [h.follow_of_there hup hfree hthere] at hfollow
    cases names with
    | nil =>
      refine has_of_find (find_eq_directory hsize hfollow ?_)
      rw [placeOf, List.reverse_nil, show onward [] = [] from rfl, List.append_nil]
      exact h.start _
    | cons name front =>
      obtain ⟨entry, hentry⟩ := Option.ne_none_iff_exists'.mp hthere
      have hfound : t.find (routeText fromRoot (name :: front)) =
          .ok (placeOf fromRoot (name :: front), some entry) := by
        rw [find_eq (endsWith_routeText (hnames name List.mem_cons_self)), if_neg (Nat.not_lt.mpr hsize),
          hfollow, ← hentry]
        rfl
      exact has_of_find hfound

/-- Either the route is at its start, or what it leads to is found by its text. -/
theorem hasOuter_iff (h : Grounded t) (hnames : ∀ name ∈ names, IsName name) (hup : ".." ∉ names)
    (hsize : (routeText fromRoot names).utf8ByteSize ≤ Tree.maxPathBytes) :
    ((routeText fromRoot names).isEmpty || t.has (routeText fromRoot names)) = true ↔
      blocked? t fromRoot names = none ∧ t.entry? (placeOf fromRoot names) ≠ none := by
  cases names with
  | nil =>
    cases fromRoot with
    | false => exact iff_of_true rfl ⟨rfl, by simp [placeOf, onward, Route.start, h.here]⟩
    | true => exact has_routeText h hnames hup hsize (.inl rfl)
  | cons name front =>
    obtain ⟨rest, hrest⟩ := exists_routeText fromRoot name front
    have hempty : (routeText fromRoot (name :: front)).isEmpty = false := by
      rw [hrest, ← Bool.not_eq_true, String.isEmpty_iff, String.append_eq_empty_iff]
      exact fun hboth => (hnames name List.mem_cons_self).empty hboth.2
    rw [hempty, Bool.false_or]
    exact has_routeText h hnames hup hsize (.inr (List.cons_ne_nil _ _))

/-! ### Making directories -/

/-- What making the directory at the end of a route comes to. -/
def routeOutcome (t : Tree) (fromRoot : Bool) (names : List String) : Except PathError Unit :=
  match blocked? t fromRoot names with
  | some error => .error error
  | none => if t.entry? (placeOf fromRoot names) = none then .ok () else .error .taken

/-- The directory at the end of a route is made or was there, with all on the way, unless something is in the way. -/
structure Makes (t : Tree) (fromRoot : Bool) (names : List String) (run : Except PathError Unit × Tree) :
    Prop where
  outcome : run.1 = routeOutcome t fromRoot names
  entries : blocked? t fromRoot names = none →
    Tree.entry? run.2 = Tree.entry? (t.addDirectories (placeOf fromRoot names))

theorem Makes.of_blocked {error : PathError} (h : blocked? t fromRoot names = some error) (u : Tree) :
    Makes t fromRoot names (.error error, u) := by
  refine ⟨by rw [routeOutcome, h], fun hfree => ?_⟩
  rw [h] at hfree
  cases hfree

theorem Makes.of_free (h : blocked? t fromRoot names = none)
    (hnone : t.entry? (placeOf fromRoot names) = none)
    (hentries : u.entry? = Tree.entry? (t.addDirectories (placeOf fromRoot names))) :
    Makes t fromRoot names (.ok (), u) :=
  ⟨by rw [routeOutcome, h, if_pos hnone], fun _ => hentries⟩

/-- In what is reached a directory is made. -/
theorem makes_ensureDirectory (h : Grounded t) (hnames : ∀ other ∈ name :: front, IsName other)
    (hup : ".." ∉ name :: front)
    (hsize : (routeText fromRoot (name :: front)).utf8ByteSize ≤ Tree.maxPathBytes)
    (hfree : blocked? t fromRoot front = none) (hfront : t.entry? (placeOf fromRoot front) ≠ none) :
    Makes t fromRoot (name :: front)
      ((ExceptT.run (Change.ensureDirectory (routeText fromRoot (name :: front)) false)).run t) := by
  have hrest : ".." ∉ front := fun hmem => hup (List.mem_cons_of_mem _ hmem)
  have hname : name ≠ ".." := fun heq => hup (heq ▸ List.mem_cons_self)
  have hwalk : walk (placeOf fromRoot front) name = placeOf fromRoot (name :: front) := by
    rw [placeOf_cons, ← foldl_walk (by simpa using hname.symm) _]
    rfl
  have hfollow : t.follow (routeOf (routeText fromRoot (name :: front))) =
      t.enter (placeOf fromRoot front) name := by
    rw [follow_routeText hnames (.inr (List.cons_ne_nil _ _)), List.reverse_cons, List.foldlM_append,
      h.follow_of_there hrest hfree hfront]
    show List.foldlM t.enter (placeOf fromRoot front) [name] = _
    rw [List.foldlM_cons]
    exact bind_pure _
  have hblocked : blocked? t fromRoot (name :: front) =
      match t.entry? (placeOf fromRoot front) with
      | some (.file _) => some .notDirectory
      | _ => if Tree.maxNameBytes < name.utf8ByteSize then some .unusable else none := by
    rw [blocked?, hfree, Option.none_or]
  rw [Tree.enter, hwalk] at hfollow
  have hslash : Text.endsWith (routeText fromRoot (name :: front)) "/" = false :=
    endsWith_routeText (hnames name List.mem_cons_self)
  have hfind : t.find (routeText fromRoot (name :: front)) = _ := find_eq hslash
  rw [if_neg (Nat.not_lt.mpr hsize), hfollow] at hfind
  rw [run_ensureDirectory, run_makeDirectory, hfind]
  rcases hentry : t.entry? (placeOf fromRoot front) with _ | _ | contents
  · exact absurd hentry hfront
  · rw [hentry] at hblocked
    dsimp only at hblocked ⊢
    by_cases hlong : Tree.maxNameBytes < name.utf8ByteSize
    · rw [if_pos hlong] at hblocked ⊢
      exact .of_blocked hblocked t
    · rw [if_neg hlong] at hblocked ⊢
      dsimp only [Except.map]
      cases hplace : t.entry? (placeOf fromRoot (name :: front)) with
      | none => exact .of_free hblocked hplace rfl
      | some entry =>
        refine ⟨?_, fun _ => (h.entry?_addDirectories (by simp [hplace])).symm⟩
        rw [routeOutcome, hblocked, hplace]
        rfl
  · rw [hentry] at hblocked
    exact .of_blocked hblocked t

theorem blocked?_ne_taken : blocked? t fromRoot names ≠ some .taken := by
  induction names with
  | nil => simp [blocked?]
  | cons name front ih =>
    rw [blocked?]
    cases hfront : blocked? t fromRoot front with
    | some error => rwa [hfront] at ih
    | none =>
      rw [Option.none_or]
      split
      · simp
      · split <;> simp

/-- Files stay where they are when directories are added, and no others come. -/
theorem blocked?_addDirectories (hentries : u.entry? = Tree.entry? (t.addDirectories place)) :
    blocked? u fromRoot names = blocked? t fromRoot names := by
  refine blocked?_congr fun front name _ contents => ?_
  rw [hentries, entry?_eq_file, entry?_eq_file]
  rfl

/-- What is made in a directory that was made is made on the way from what was there before. -/
theorem Makes.cons {run : Except PathError Unit × Tree} (h : Grounded t) (hname : name ≠ ".")
    (hnone : t.entry? (placeOf fromRoot front) = none)
    (hentries : u.entry? = Tree.entry? (t.addDirectories (placeOf fromRoot front)))
    (hmakes : Makes u fromRoot (name :: front) run) : Makes t fromRoot (name :: front) run := by
  have hplace : placeOf fromRoot (name :: front) = placeOf fromRoot front ++ [name] := by
    rw [placeOf_cons, onward, List.filter_cons_of_pos (by simpa using hname)]
    rfl
  have hbelow : t.entry? (placeOf fromRoot (name :: front)) = none := by
    rw [hplace]
    exact h.none_below (by simp [hnone]) (List.prefix_append _ _) (by simp)
  have hbelow' : u.entry? (placeOf fromRoot (name :: front)) = none := by
    rw [hentries, entry?_addDirectories, hbelow]
    refine if_neg fun hlead => ?_
    have := hlead.length_le
    rw [hplace, List.length_append, List.length_singleton] at this
    omega
  refine ⟨?_, fun hfree => ?_⟩
  · rw [hmakes.outcome, routeOutcome, routeOutcome, blocked?_addDirectories hentries, hbelow, hbelow']
  · rw [hmakes.entries (by rw [blocked?_addDirectories hentries, hfree])]
    funext other
    rw [entry?_addDirectories, entry?_addDirectories, hentries, entry?_addDirectories]
    cases t.entry? other with
    | some entry => rfl
    | none =>
      by_cases hlead : other <+: placeOf fromRoot front
      · rw [if_pos hlead]
        exact (if_pos (hplace ▸ hlead.trans (List.prefix_append _ _))).symm
      · rw [if_neg hlead]

/-- Making the directories along a route makes the one at its end, and those on the way that are missing. -/
theorem makes_makeRoute (h : Grounded t) (hnames : ∀ name ∈ names, IsName name) (hup : ".." ∉ names)
    (hne : names ≠ [])
    (hsize : ∀ front, front <:+ names →
      (routeText fromRoot front).utf8ByteSize ≤ Tree.maxPathBytes) :
    Makes t fromRoot names ((ExceptT.run (Change.makeRoute fromRoot false names)).run t) := by
  induction names with
  | nil => exact absurd rfl hne
  | cons name front ih =>
    have hfrontNames : ∀ other ∈ front, IsName other := fun other hother =>
      hnames other (List.mem_cons_of_mem _ hother)
    have hfrontUp : ".." ∉ front := fun hmem => hup (List.mem_cons_of_mem _ hmem)
    have hfrontSize : ∀ part, part <:+ front →
        (routeText fromRoot part).utf8ByteSize ≤ Tree.maxPathBytes :=
      fun part hpart => hsize part (hpart.trans (List.suffix_cons _ _))
    have houter : _ ↔ blocked? t fromRoot front = none ∧ _ := hasOuter_iff h hfrontNames hfrontUp
      (hfrontSize front (List.suffix_refl _))
    rw [run_makeRoute_cons]
    by_cases hthere : blocked? t fromRoot front = none ∧ t.entry? (placeOf fromRoot front) ≠ none
    · rw [if_pos (houter.mpr hthere)]
      exact makes_ensureDirectory h hnames hup (hsize _ (List.suffix_refl _)) hthere.1 hthere.2
    rw [if_neg fun hfound => hthere (houter.mp hfound)]
    have hfront : front ≠ [] := by
      rintro rfl
      exact hthere ⟨rfl, by simp [placeOf_nil, h.start]⟩
    have hmakes := ih hfrontNames hfrontUp hfront hfrontSize
    have hpaves : Paves (placeOf fromRoot front) t _ := paves_makeRoute false h hfrontNames hfrontUp
    rcases hrun : (ExceptT.run (Change.makeRoute fromRoot false front)).run t with ⟨outcome, u⟩
    rw [hrun] at hmakes hpaves
    have houtcome : outcome = routeOutcome t fromRoot front := hmakes.outcome
    cases hblocked : blocked? t fromRoot front with
    | some error =>
      rw [routeOutcome, hblocked] at houtcome
      rw [houtcome]
      cases error
      case taken => exact absurd hblocked blocked?_ne_taken
      all_goals exact .of_blocked (by rw [blocked?, hblocked]; rfl) u
    | none =>
      have hnone : t.entry? (placeOf fromRoot front) = none := by
        by_contra hfound
        exact hthere ⟨hblocked, hfound⟩
      have hentries : u.entry? = Tree.entry? (t.addDirectories (placeOf fromRoot front)) := hmakes.entries hblocked
      rw [routeOutcome, hblocked, if_pos hnone] at houtcome
      rw [houtcome]
      dsimp only
      by_cases hdot : name = "."
      · have hplace : placeOf fromRoot (name :: front) = placeOf fromRoot front := by
          rw [placeOf_cons, hdot]
          exact List.append_nil _
        rw [if_pos hdot]
        refine .of_free ?_ (hplace ▸ hnone) (hplace ▸ hentries)
        exact blocked?_cons_eq_none.mpr ⟨hblocked, by simp [hnone], by rw [hdot]; decide⟩
      · rw [if_neg hdot]
        refine .cons h hdot hnone hentries (makes_ensureDirectory hpaves.grounded hnames hup
          (hsize _ (List.suffix_refl _)) ?_ ?_)
        · rw [blocked?_addDirectories hentries, hblocked]
        · rw [hentries, entry?_addDirectories, hnone]
          simp

/-! ### Removing directories -/

/-- The place is not one where a directory always is: the root, the current directory, or one around it. -/
structure Removable (place : List String) : Prop where
  notRoot : place ≠ ["/"]
  inside : ∃ name ∈ place, name ≠ ".."

namespace Removable

theorem ne_nil (h : Removable place) : place ≠ [] := by
  obtain ⟨name, hname, -⟩ := h.inside
  exact List.ne_nil_of_mem hname

theorem mono (h : Removable place) (hlead : place <+: other) : Removable other := by
  refine ⟨?_, ?_⟩
  · rintro rfl
    have hconcat : place <+: [] ++ ["/"] := hlead
    rcases List.prefix_concat_iff.mp hconcat with heq | hnil
    · exact h.notRoot heq
    · exact h.ne_nil (List.prefix_nil.mp hnil)
  · exact h.inside.imp fun name hname => ⟨hlead.subset hname.1, hname.2⟩

theorem hasDirectory (h : Removable place) (t : Tree) :
    t.hasDirectory place = t.directories.contains place := by
  have hall : place.all (· = "..") = false := by simpa using h.inside
  unfold Tree.hasDirectory
  rw [hall, decide_eq_false h.notRoot, Bool.false_or, Bool.false_or]

theorem isBelow (h : Removable place) : Tree.isBelow place other = decide (place <+: other ∧ other ≠ place) := by
  have hempty : place.isEmpty = false := by simpa using h.ne_nil
  unfold Tree.isBelow
  rw [hempty, Bool.false_and, Bool.not_false, Bool.and_true, Bool.eq_iff_iff]
  simp

end Removable

/-- After clearing a directory nothing is below it. -/
theorem entry?_clear (h : Removable place) (t : Tree) (other : List String) :
    Tree.entry? (t.clear place) other =
      if place <+: other ∧ other ≠ place then none else t.entry? other := by
  have hread : (t.clear place).read? other =
      if place <+: other ∧ other ≠ place then none else t.read? other := by
    show (t.files.filter fun file => !Tree.isBelow place file.1).lookup other = _
    rw [Tree.lookup_filter fun way => !Tree.isBelow place way, h.isBelow]
    by_cases hbelow : place <+: other ∧ other ≠ place <;> simp [hbelow, Tree.read?]
  have hdirectory : (t.clear place).hasDirectory other =
      if place <+: other ∧ other ≠ place then false else t.hasDirectory other := by
    by_cases hbelow : place <+: other ∧ other ≠ place
    · rw [if_pos hbelow, (h.mono hbelow.1).hasDirectory, ← Bool.not_eq_true, List.contains_iff_mem]
      intro hmem
      have hkept := (List.mem_filter.mp hmem).2
      rw [h.isBelow, decide_eq_true hbelow] at hkept
      cases hkept
    · rw [if_neg hbelow, Bool.eq_iff_iff]
      unfold Tree.hasDirectory
      have hmem : other ∈ (t.clear place).directories ↔ other ∈ t.directories := by
        show other ∈ t.directories.filter _ ↔ _
        rw [List.mem_filter, h.isBelow, decide_eq_false hbelow]
        simp
      simp only [Bool.or_eq_true, List.contains_iff_mem, hmem]
  unfold Tree.entry?
  rw [hread, hdirectory]
  by_cases hbelow : place <+: other ∧ other ≠ place <;> simp [hbelow]

theorem entry?_removed (h : Removable place) (hplace : t.entry? place = some .directory)
    (other : List String) :
    Tree.entry? { t with directories := t.directories.filter (· ≠ place) } other =
      if other = place then none else t.entry? other := by
  by_cases heq : other = place
  · subst heq
    rw [if_pos rfl, entry?_eq_none, h.hasDirectory]
    refine ⟨(entry?_eq_directory.mp hplace).1, ?_⟩
    simp
  · have hmem : other ∈ t.directories.filter (· ≠ place) ↔ other ∈ t.directories := by simp [heq]
    rw [if_neg heq]
    unfold Tree.entry? Tree.hasDirectory
    have hcontains : (t.directories.filter (· ≠ place)).contains other = t.directories.contains other := by
      rw [Bool.eq_iff_iff, List.contains_iff_mem, List.contains_iff_mem, hmem]
    rw [hcontains]
    rfl

/-- A tree stays grounded without what is at some place and below it. -/
theorem Grounded.without {P : List String → Prop} (h : Grounded t) (hroot : ¬ P ["/"])
    (hbelow : ∀ place name, P place → P (place ++ [name]))
    (hnone : ∀ place, P place → u.entry? place = none)
    (hkept : ∀ place, ¬ P place → u.entry? place = t.entry? place) : Grounded u := by
  have hthere : ∀ place, u.entry? place ≠ none → ¬ P place := fun place hplace hP => hplace (hnone place hP)
  refine ⟨(hkept _ hroot).trans h.root, fun place name hplace => ?_, fun place hplace => ?_⟩
  · have hP := hthere _ hplace
    rw [hkept _ hP] at hplace
    rw [hkept place fun hP' => hP (hbelow place name hP')]
    exact h.parent place name hplace
  · rw [hkept _ (hthere _ hplace)] at hplace
    exact h.short place hplace

/-! ### Making directories anew -/

/-- The path is one at which a directory can be made: not too long, and ending in a name of its own. -/
structure Renewable (path : String) : Prop where
  size : path.utf8ByteSize ≤ Tree.maxPathBytes
  noUp : ".." ∉ (routeOf path).names
  named : ∃ front name, (routeOf path).names = front ++ [name] ∧ name ≠ "."

/-- What is in the way of a path. -/
def pathBlocked? (t : Tree) (path : String) : Option PathError :=
  blocked? t (routeOf path).fromRoot (routeOf path).names.reverse

namespace Renewable

theorem removable (h : Renewable path) : Removable (resolvePath path) := by
  obtain ⟨front, name, hnames, hdot⟩ := h.named
  have hmem : name ∈ (routeOf path).names := by
    rw [hnames]
    exact List.mem_append_right _ List.mem_cons_self
  have hplace : resolvePath path = placeOf (routeOf path).fromRoot front.reverse ++ [name] := by
    rw [resolvePath_eq_placeOf h.noUp, hnames, List.reverse_append, List.reverse_singleton,
      List.singleton_append, placeOf_cons, onward, List.filter_cons_of_pos (by simpa using hdot)]
    rfl
  rw [hplace]
  refine ⟨fun hroot => ?_, name, List.mem_append_right _ List.mem_cons_self, ?_⟩
  · have hlast : name = "/" := by simpa using congrArg List.getLast? hroot
    exact (isName_of_mem hmem).slash (hlast ▸ by decide)
  · exact fun hup => h.noUp (hup ▸ hmem)

theorem follow (hpath : Renewable path) (h : Grounded t) (hfree : pathBlocked? t path = none)
    (hthere : t.entry? (resolvePath path) ≠ none) : t.follow (routeOf path) = .ok (resolvePath path) := by
  have hup : ".." ∉ (routeOf path).names.reverse := fun hmem => hpath.noUp (List.mem_reverse.mp hmem)
  have hempty : (routeOf path).names.isEmpty = false := by
    obtain ⟨front, name, hnames, -⟩ := hpath.named
    simp [hnames]
  rw [resolvePath_eq_placeOf hpath.noUp] at hthere ⊢
  rw [Tree.follow, hempty, Bool.false_and, if_neg Bool.false_ne_true, ← h.follow_of_there hup hfree hthere,
    List.reverse_reverse]
  rfl

/-- Only files on the way are in the way. -/
theorem blocked_congr (hpath : Renewable path) (h : ∀ place, place <+: resolvePath path → ∀ contents,
      t.entry? place = some (.file contents) ↔ u.entry? place = some (.file contents)) :
    pathBlocked? t path = pathBlocked? u path := by
  rw [resolvePath_eq_placeOf hpath.noUp] at h
  refine blocked?_congr fun front name hsuffix => h _ (placeOf_mono ?_)
  exact (List.suffix_cons _ _).trans hsuffix

theorem find (hpath : Renewable path) (h : Grounded t) (hfree : pathBlocked? t path = none)
    (hthere : t.entry? (resolvePath path) = some .directory) :
    t.find path = .ok (resolvePath path, some .directory) :=
  find_eq_directory hpath.size (hpath.follow h hfree (by simp [hthere])) hthere

/-- What is there is found if nothing is in the way. -/
theorem has_iff (hpath : Renewable path) (h : Grounded t)
    (hfile : ∀ contents, t.entry? (resolvePath path) ≠ some (.file contents)) :
    t.has path = true ↔ pathBlocked? t path = none ∧ t.entry? (resolvePath path) = some .directory := by
  constructor
  · intro hhas
    unfold Tree.has at hhas
    rcases hfind : t.find path with error | ⟨place, _ | entry⟩ <;> rw [hfind] at hhas <;> try cases hhas
    obtain ⟨hreached, hentry⟩ := follow_of_find hfind
    obtain rfl : place = resolvePath path := follow_ok hreached
    refine ⟨?_, ?_⟩
    · unfold Tree.follow at hreached
      split at hreached
      · cases hreached
      · rw [← List.reverse_reverse (routeOf path).names] at hreached
        exact blocked?_eq_none_of_follow (fun hmem => hpath.noUp (List.mem_reverse.mp hmem)) hreached
    · cases entry with
      | directory => exact hentry
      | file contents => exact absurd hentry (hfile contents)
  · rintro ⟨hfree, hthere⟩
    exact has_of_find (hpath.find h hfree hthere)

end Renewable

/-- An empty directory is removed. -/
theorem run_removeDirectory (hpath : Renewable path) (h : Grounded t) (hfree : pathBlocked? t path = none)
    (hthere : t.entry? (resolvePath path) = some .directory) :
    (ExceptT.run (Change.removeDirectory path)).run t =
      (.ok (), { t with directories := t.directories.filter (· ≠ resolvePath path) }) := by
  obtain ⟨front, name, hnames, hdot⟩ := hpath.named
  have hup : name ≠ ".." := by
    rintro rfl
    exact hpath.noUp (hnames ▸ List.mem_append_right _ List.mem_cons_self)
  have hsplit : (routeOf path).split? = some ({ routeOf path with names := front }, name) := by
    rw [Route.split?, hnames]
    simp
  have hfollow := hpath.follow h hfree (by simp [hthere])
  have hempty : (routeOf path).names.isEmpty = false := by simp [hnames]
  rw [Tree.follow, hempty, Bool.false_and, if_neg Bool.false_ne_true, hnames, List.foldlM_append] at hfollow
  obtain ⟨q, hq, hlast⟩ := Build.except_bind_ok.mp hfollow
  have henter : t.enter q name = .ok (resolvePath path) := by
    rw [List.foldlM_cons] at hlast
    obtain ⟨place, henter, hpure⟩ := Build.except_bind_ok.mp hlast
    cases hpure
    exact henter
  unfold Change.removeDirectory
  rw [hsplit]
  have hdots : (decide (name = ".") || decide (name = "..")) = false := by simp [hdot, hup]
  dsimp only
  split
  · next hfront =>
    rw [List.isEmpty_iff.mp hfront] at hq
    cases hq
    rw [pure_bind, Build.run_bind_ok (run_look henter), hdots]
    rfl
  · next hfront =>
    have houter : t.follow { routeOf path with names := front } = .ok q := by
      rw [Tree.follow, if_neg (by simp [hfront])]
      exact hq
    rw [Build.run_bind_ok (run_look houter), Build.run_bind_ok (run_look henter), hdots]
    rfl

/-- A directory is removed with all that is below it. -/
theorem run_removeAll (hpath : Renewable path) (h : Grounded t) (hfree : pathBlocked? t path = none)
    (hthere : t.entry? (resolvePath path) = some .directory) :
    ∃ u, (ExceptT.run (Change.removeAll path)).run t = (.ok (), u) ∧
      ∀ other, u.entry? other = if resolvePath path <+: other then none else t.entry? other := by
  have hplace := hpath.removable
  have hcleared := entry?_clear hplace t
  have hthere' : Tree.entry? (t.clear (resolvePath path)) (resolvePath path) = some .directory := by
    rw [hcleared, if_neg (fun hboth => hboth.2 rfl), hthere]
  have hground : Grounded (t.clear (resolvePath path)) := by
    refine h.without (fun hroot => ?_) (fun place name hbelow => ?_)
      (fun place hbelow => (hcleared place).trans (if_pos hbelow))
      (fun place hbelow => (hcleared place).trans (if_neg hbelow))
    · exact (hplace.mono hroot.1).notRoot rfl
    · refine ⟨hbelow.1.trans (List.prefix_append _ _), fun heq => ?_⟩
      have hlength := hbelow.1.length_le
      rw [← heq, List.length_append, List.length_singleton] at hlength
      omega
  have hfree' : pathBlocked? (t.clear (resolvePath path)) path = none := by
    rw [← hfree]
    refine hpath.blocked_congr fun place hlead contents => ?_
    rw [hcleared, if_neg fun hbelow => hbelow.2 (hlead.eq_of_length_le hbelow.1.length_le)]
  refine ⟨{ t.clear (resolvePath path) with
      directories := (t.clear (resolvePath path)).directories.filter (· ≠ resolvePath path) }, ?_,
    fun other => ?_⟩
  · unfold Change.removeAll
    rw [Build.run_bind_ok (run_look (hpath.find h hfree hthere))]
    exact run_removeDirectory hpath hground hfree' hthere'
  · rw [entry?_removed hplace hthere', hcleared]
    by_cases heq : other = resolvePath path
    · rw [if_pos heq, heq, if_pos (List.prefix_refl _)]
    · rw [if_neg heq]
      simp [heq]

/-- How a directory is made anew, and what stands where then. -/
structure Renewed (t : Tree) (path : String) (run : Except PathError Unit × Tree) : Prop where
  grounded : Grounded run.2
  outcome : run.1 = match pathBlocked? t path with
    | some error => .error error
    | none => .ok ()
  noFile : ∀ contents, Tree.entry? run.2 (resolvePath path) ≠ some (.file contents)
  outside : ∀ other, ¬ resolvePath path <+: other → Tree.entry? run.2 other = t.entry? other ∨
    (other <+: resolvePath path ∧ t.entry? other = none ∧ Tree.entry? run.2 other = some .directory)
  above : pathBlocked? t path = none → ∀ other, other <+: resolvePath path →
    Tree.entry? run.2 other = some .directory
  below : ∀ other, resolvePath path <+: other → other ≠ resolvePath path → Tree.entry? run.2 other = none

theorem makes_makeDirectories (hpath : Renewable path) (h : Grounded t) :
    Makes t (routeOf path).fromRoot (routeOf path).names.reverse
      ((ExceptT.run (Change.makeDirectories path false)).run t) := by
  refine makes_makeRoute h (fun name hmem => isName_of_mem (List.mem_reverse.mp hmem))
    (fun hmem => hpath.noUp (List.mem_reverse.mp hmem)) ?_ fun front hsuffix => ?_
  · obtain ⟨front, name, hnames, -⟩ := hpath.named
    simp [hnames]
  · have hlead := List.reverse_prefix.mpr hsuffix
    rw [List.reverse_reverse] at hlead
    exact (size_text_le hlead.sublist).trans hpath.size

/-- Nothing is in the way of a directory that is there. -/
theorem Grounded.free_of_there (h : Grounded t) (hup : ".." ∉ names)
    (hthere : t.entry? (placeOf fromRoot names) = some .directory) : blocked? t fromRoot names = none := by
  induction names with
  | nil => rfl
  | cons name front ih =>
    have hname : name ≠ ".." := fun heq => hup (heq ▸ List.mem_cons_self)
    have hfront : t.entry? (placeOf fromRoot front) = some .directory ∧
        name.utf8ByteSize ≤ Tree.maxNameBytes := by
      rw [placeOf_cons] at hthere
      by_cases hdot : name = "."
      · subst hdot
        rw [show onward ["."] = [] from rfl, List.append_nil] at hthere
        exact ⟨hthere, by decide⟩
      · rw [onward, List.filter_cons_of_pos (by simpa using hdot), List.filter_nil] at hthere
        have hsome : t.entry? (placeOf fromRoot front ++ [name]) ≠ none := by simp [hthere]
        exact ⟨h.parent _ _ hsome, h.short _ hsome name (List.mem_append_right _ List.mem_cons_self)⟩
    refine blocked?_cons_eq_none.mpr ⟨ih (fun hmem => hup (List.mem_cons_of_mem _ hmem)) hfront.1, ?_, hfront.2⟩
    simp [hfront.1]

/-- Where there was nothing a directory is made. -/
theorem renewed_of_free (hpath : Renewable path) (hu : Grounded u) (hfree : pathBlocked? t path = none)
    (hfree' : pathBlocked? u path = none)
    (hentries : ∀ other, u.entry? other = if resolvePath path <+: other then none else t.entry? other) :
    Renewed t path ((ExceptT.run (Change.makeDirectories path false)).run u) := by
  have hmakes := makes_makeDirectories hpath hu
  have hpaves : Paves (resolvePath path) u _ := paves_makeDirectories false hu hpath.noUp
  have hplace := resolvePath_eq_placeOf hpath.noUp
  have hnone : u.entry? (resolvePath path) = none := by rw [hentries, if_pos (List.prefix_refl _)]
  have hmade := hmakes.entries hfree'
  rw [← hplace] at hmade
  have hthere : Tree.entry? ((ExceptT.run (Change.makeDirectories path false)).run u).2 (resolvePath path) =
      some .directory := by
    rw [hmade, entry?_addDirectories, hnone, if_pos (List.prefix_refl _)]
  refine ⟨hpaves.grounded, ?_, by simp [hthere], fun other hother => ?_, fun _ other hlead => ?_,
    fun other hlead hne => ?_⟩
  · have hway : blocked? u (routeOf path).fromRoot (routeOf path).names.reverse = none := hfree'
    rw [hmakes.outcome, routeOutcome, hway, ← hplace, hnone, hfree]
    rfl
  · rw [hmade, entry?_addDirectories, hentries, if_neg hother]
    cases t.entry? other with
    | some entry => exact .inl rfl
    | none =>
      by_cases hlead : other <+: resolvePath path
      · exact .inr ⟨hlead, rfl, if_pos hlead⟩
      · exact .inl (if_neg hlead)
  · by_cases heq : other = resolvePath path
    · rw [heq, hthere]
    · exact hpaves.grounded.above (by simp [hthere]) hlead heq
  · rw [hmade, entry?_addDirectories, hentries, if_pos hlead]
    exact if_neg fun hother => hne (hother.eq_of_length_le hlead.length_le)

/-- Where something is in the way there is nothing below. -/
theorem renewed_of_blocked {error : PathError} (hpath : Renewable path) (h : Grounded t)
    (hfile : ∀ contents, t.entry? (resolvePath path) ≠ some (.file contents))
    (hblocked : pathBlocked? t path = some error) :
    Renewed t path ((ExceptT.run (Change.makeDirectories path false)).run t) := by
  have hpaves : Paves (resolvePath path) t _ := paves_makeDirectories false h hpath.noUp
  have hmissing : t.entry? (resolvePath path) ≠ some .directory := by
    intro hthere
    rw [resolvePath_eq_placeOf hpath.noUp] at hthere
    have hfree := h.free_of_there (fun hmem => hpath.noUp (List.mem_reverse.mp hmem)) hthere
    rw [pathBlocked?, hfree] at hblocked
    cases hblocked
  refine ⟨hpaves.grounded, ?_, fun contents hmade => ?_, fun other _ => hpaves.entries other, fun hfree => ?_,
    fun other hlead hne => ?_⟩
  · have hway : blocked? t (routeOf path).fromRoot (routeOf path).names.reverse = some error := hblocked
    rw [(makes_makeDirectories hpath h).outcome, routeOutcome, hway, hblocked]
  · rcases hpaves.entries (resolvePath path) with heq | ⟨-, -, hdirectory⟩
    · exact hfile contents (heq ▸ hmade)
    · rw [hdirectory] at hmade
      cases hmade
  · rw [hblocked] at hfree
    cases hfree
  · rcases hpaves.entries other with heq | ⟨hother, -, -⟩
    · rw [heq, h.none_below hmissing hlead hne]
    · exact absurd (hother.eq_of_length_le hlead.length_le) hne

/-- A directory that is made anew is empty, and what else there is does not depend on what was in it. -/
theorem run_renewDirectory (hpath : Renewable path) (h : Grounded t)
    (hfile : ∀ contents, t.entry? (resolvePath path) ≠ some (.file contents)) :
    Renewed t path ((ExceptT.run (Change.renewDirectory path)).run t) := by
  have hget : (ExceptT.run (get : Change Tree)).run t = (.ok t, t) := rfl
  unfold Change.renewDirectory
  rw [Build.run_bind_ok hget]
  dsimp only
  by_cases hhas : t.has path = true
  · obtain ⟨hfree, hthere⟩ := (hpath.has_iff h hfile).mp hhas
    obtain ⟨u, hremoved, hentries⟩ := run_removeAll hpath h hfree hthere
    rw [if_pos hhas, Build.run_bind_ok hremoved]
    have hu : Grounded u := by
      refine h.without (fun hroot => (hpath.removable.mono hroot).notRoot rfl)
        (fun place name hbelow => hbelow.trans (List.prefix_append _ _))
        (fun place hbelow => (hentries place).trans (if_pos hbelow))
        (fun place hbelow => (hentries place).trans (if_neg hbelow))
    refine renewed_of_free hpath hu hfree ?_ hentries
    rw [← hfree]
    refine hpath.blocked_congr fun place hlead contents => ?_
    by_cases heq : place = resolvePath path
    · rw [heq, hentries, if_pos (List.prefix_refl _), hthere]
      simp
    · rw [hentries, if_neg fun hbelow => heq (hlead.eq_of_length_le hbelow.length_le)]
  · rw [if_neg hhas]
    cases hblocked : pathBlocked? t path with
    | some error => exact renewed_of_blocked hpath h hfile hblocked
    | none =>
      have hmissing : t.entry? (resolvePath path) = none := by
        rcases hentry : t.entry? (resolvePath path) with _ | _ | contents
        · rfl
        · exact absurd ((hpath.has_iff h hfile).mpr ⟨hblocked, hentry⟩) hhas
        · exact absurd hentry (hfile contents)
      refine renewed_of_free hpath h hblocked hblocked fun other => ?_
      by_cases hbelow : resolvePath path <+: other
      · rw [if_pos hbelow]
        by_cases heq : other = resolvePath path
        · rw [heq, hmissing]
        · exact h.none_below (by simp [hmissing]) hbelow heq
      · rw [if_neg hbelow]

end InteropGen.Files
