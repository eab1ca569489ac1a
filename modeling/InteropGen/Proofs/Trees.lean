import InteropGen.Files.Change
import InteropGen.Proofs.Steps
import Mathlib.Data.List.Basic

/-!
# What a change leaves alone

`Alters P t t'` says that only files at the places in `P` are other ones, and that directories stay. A path
that leads to a place goes on leading there (`Leads.alters`), so a file stays in reach until its own place is
touched. Making directories touches no file, and a write touches the place that its path leads to.

`resolvePath_joinPath` gives that place for a name in a directory: it comes right after the directory's,
unless the name has slashes or is made of dots.
-/

namespace InteropGen

/-! ### Splitting -/

namespace Text

theorem splitChars_of_notMem {separator : Char} {chars : List Char} (h : separator ∉ chars) :
    splitChars separator chars = [chars] := by
  induction chars with
  | nil => rfl
  | cons c rest ih =>
    have hc : c ≠ separator := fun hc => h (hc ▸ List.mem_cons_self)
    rw [splitChars, if_neg hc, ih fun hrest => h (List.mem_cons_of_mem _ hrest)]

/-- At a separator a text falls into the parts before it and those after it. -/
theorem splitChars_append (separator : Char) (front back : List Char) :
    splitChars separator (front ++ separator :: back) =
      splitChars separator front ++ splitChars separator back := by
  induction front with
  | nil => simp [splitChars]
  | cons c rest ih =>
    rw [List.cons_append, splitChars, splitChars, ih]
    split
    · rfl
    · cases hsplit : splitChars separator rest with
      | nil => exact absurd hsplit (splitChars_ne_nil separator rest)
      | cons part parts => rfl

end Text

namespace Files

variable {t t' t'' : Tree} {P Q : List String → Prop} {place : List String} {path name : String}
  {α β : Type}

/-! ### Places of names in a directory -/

/-- A name that is one step of a route: it has no slashes and is not made of dots. -/
structure IsPlain (name : String) : Prop where
  slash : '/' ∉ name.toList
  empty : name ≠ ""
  dot : name ≠ "."
  dots : name ≠ ".."

theorem IsPlain.walk (h : IsPlain name) (place : List String) : walk place name = place ++ [name] := by
  rw [Files.walk, if_neg h.dot, if_neg h.dots]

theorem names_append (front back : String) :
    (routeOf (front ++ "/" ++ back)).names = (routeOf front).names ++ (routeOf back).names := by
  have hchars : (front ++ "/" ++ back).toList = front.toList ++ '/' :: back.toList := by simp
  unfold routeOf Text.split
  rw [hchars, Text.splitChars_append, List.map_append, List.filter_append]

theorem IsPlain.names (h : IsPlain name) : (routeOf name).names = [name] := by
  unfold routeOf Text.split
  rw [Text.splitChars_of_notMem h.slash]
  simp [h.empty]

theorem startsWith_append {text : String} (h : text ≠ "") (more : String) :
    Text.startsWith (text ++ more) "/" = Text.startsWith text "/" := by
  unfold Text.startsWith
  rw [String.toList_append]
  cases hchars : text.toList with
  | nil => exact absurd (String.toList_eq_nil_iff.mp hchars) h
  | cons c rest => rfl

theorem IsPlain.startsWith (h : IsPlain name) : Text.startsWith name "/" = false := by
  rw [← Bool.not_eq_true, Text.startsWith_iff]
  exact fun hfront => h.slash (hfront.subset (by simp))

/-- The route of a path below a directory goes on from the route of the directory. -/
theorem routeOf_joinPath_of_relative (h : Text.startsWith name "/" = false) (directory : String) :
    routeOf (joinPath directory name) =
      { routeOf directory with names := (routeOf directory).names ++ (routeOf name).names } := by
  suffices hparts : (routeOf (joinPath directory name)).fromRoot = (routeOf directory).fromRoot ∧
      (routeOf (joinPath directory name)).names =
        (routeOf directory).names ++ (routeOf name).names from
    congrArg₂ Route.mk hparts.1 hparts.2
  unfold joinPath
  rw [if_neg (by simp [h])]
  by_cases hempty : directory = ""
  · subst hempty
    rw [if_pos (by simp), String.empty_append]
    exact ⟨h, rfl⟩
  · by_cases hslash : Text.endsWith directory "/" = true
    · rw [if_pos (by simp [hslash])]
      refine ⟨startsWith_append hempty name, ?_⟩
      obtain ⟨front, rfl⟩ : ∃ front, directory = front ++ "/" :=
        ⟨_, (Text.dropLast_append hslash).symm⟩
      have hfront : (routeOf (front ++ "/")).names = (routeOf front).names ++ (routeOf "").names := by
        rw [← names_append, String.append_empty]
      rw [names_append, hfront]
      exact congrArg (· ++ (routeOf name).names) (List.append_nil _).symm
    · rw [if_neg (by simp [hslash, hempty])]
      refine ⟨?_, ?_⟩
      · show Text.startsWith (directory ++ "/" ++ name) "/" = _
        rw [String.append_assoc]
        exact startsWith_append hempty _
      · rw [names_append]

/-- A plain name in a directory is one more name of its route. -/
theorem routeOf_joinPath (h : IsPlain name) (directory : String) :
    routeOf (joinPath directory name) =
      { routeOf directory with names := (routeOf directory).names ++ [name] } := by
  rw [routeOf_joinPath_of_relative h.startsWith, h.names]

/-- A plain name in a directory leads to the place after the directory's. -/
theorem resolvePath_joinPath (h : IsPlain name) (directory : String) :
    resolvePath (joinPath directory name) = resolvePath directory ++ [name] := by
  unfold resolvePath
  rw [routeOf_joinPath h, List.foldl_append]
  exact h.walk _

/-- Names below a directory lead to the place that ends in these names. -/
theorem resolvePath_foldl_joinPath {names : List String} (h : ∀ name ∈ names, IsPlain name)
    (directory : String) : resolvePath (names.foldl joinPath directory) = resolvePath directory ++ names := by
  induction names generalizing directory with
  | nil => exact (List.append_nil _).symm
  | cons name names ih =>
    rw [List.foldl_cons, ih fun other hother => h other (List.mem_cons_of_mem _ hother),
      resolvePath_joinPath (h name List.mem_cons_self), List.append_assoc, List.singleton_append]

/-! ### Trees that differ in files -/

/-- Only the files at some places are touched, and directories stay. -/
structure Alters (P : List String → Prop) (t t' : Tree) : Prop where
  files : ∀ place, ¬ P place → t'.read? place = t.read? place
  directories : ∀ place, t.entry? place = some .directory → t'.entry? place = some .directory

theorem Alters.refl (P : List String → Prop) (t : Tree) : Alters P t t :=
  ⟨fun _ _ => rfl, fun _ h => h⟩

theorem Alters.trans (h : Alters P t t') (h' : Alters P t' t'') : Alters P t t'' :=
  ⟨fun place hplace => (h'.files place hplace).trans (h.files place hplace),
    fun place hplace => h'.directories place (h.directories place hplace)⟩

theorem Alters.mono (h : Alters P t t') (hPQ : ∀ place, P place → Q place) : Alters Q t t' :=
  ⟨fun place hplace => h.files place fun hP => hplace (hPQ place hP), h.directories⟩

theorem entry?_eq_directory :
    t.entry? place = some .directory ↔ t.read? place = none ∧ t.hasDirectory place = true := by
  unfold Tree.entry?
  cases t.read? place <;> simp

theorem entry?_write (t : Tree) (place other : List String) (contents : Contents) :
    Tree.entry? (t.write place contents) other =
      if other = place then some (.file contents) else t.entry? other := by
  unfold Tree.entry?
  rw [Tree.read?_write]
  by_cases h : other = place
  · rw [if_pos h, if_pos h]
  · rw [if_neg h, if_neg h]
    rfl

theorem alters_write (h : t.entry? place ≠ some .directory) (contents : Contents) :
    Alters (· = place) t (t.write place contents) := by
  refine ⟨fun other hother => ?_, fun other hother => ?_⟩
  · rw [Tree.read?_write, if_neg hother]
  · have hne : other ≠ place := by
      rintro rfl
      exact h hother
    rw [entry?_write, if_neg hne, hother]

theorem alters_addDirectories (P : List String → Prop) (t : Tree) (place : List String) :
    Alters P t (t.addDirectories place) := by
  refine ⟨fun _ _ => rfl, fun other hother => ?_⟩
  obtain ⟨hread, hdirectory⟩ := entry?_eq_directory.mp hother
  refine entry?_eq_directory.mpr ⟨hread, ?_⟩
  unfold Tree.hasDirectory at hdirectory ⊢
  unfold Tree.addDirectories
  simp only [Bool.or_eq_true, List.contains_iff_mem] at hdirectory ⊢
  exact hdirectory.imp_right fun hmem => List.mem_append_left _ hmem

/-! ### Following a route -/

theorem enter_eq_ok {place' : List String} :
    t.enter place name = .ok place' ↔ t.entry? place = some .directory ∧
      name.utf8ByteSize ≤ Tree.maxNameBytes ∧ place' = walk place name := by
  unfold Tree.enter
  rcases t.entry? place with _ | _ | contents
  · simp
  · by_cases hsize : Tree.maxNameBytes < name.utf8ByteSize
    · simp [hsize, Nat.not_le.mpr hsize]
    · simp [hsize, Nat.le_of_not_lt hsize, eq_comm]
  · simp

theorem foldlM_enter_ok {names : List String} {start : List String}
    (h : names.foldlM t.enter start = .ok place) : place = names.foldl walk start := by
  induction names generalizing start with
  | nil =>
    cases h
    rfl
  | cons name names ih =>
    rw [List.foldlM_cons] at h
    cases hstep : t.enter start name with
    | error error =>
      rw [hstep] at h
      cases h
    | ok next =>
      rw [hstep] at h
      obtain ⟨-, -, rfl⟩ := enter_eq_ok.mp hstep
      exact ih h

theorem foldlM_enter_alters {names : List String} {start : List String} (ht : Alters P t t')
    (h : names.foldlM t.enter start = .ok place) : names.foldlM t'.enter start = .ok place := by
  induction names generalizing start with
  | nil => exact h
  | cons name names ih =>
    rw [List.foldlM_cons] at h ⊢
    cases hstep : t.enter start name with
    | error error =>
      rw [hstep] at h
      cases h
    | ok next =>
      rw [hstep] at h
      obtain ⟨hentry, hsize, hnext⟩ := enter_eq_ok.mp hstep
      have hstep' : t'.enter start name = .ok next :=
        enter_eq_ok.mpr ⟨ht.directories start hentry, hsize, hnext⟩
      rw [hstep']
      exact ih h

theorem follow_ok {route : Route} (h : t.follow route = .ok place) :
    place = route.names.foldl walk route.start := by
  unfold Tree.follow at h
  split at h
  · cases h
  · exact foldlM_enter_ok h

theorem follow_alters {route : Route} (ht : Alters P t t') (h : t.follow route = .ok place) :
    t'.follow route = .ok place := by
  unfold Tree.follow at h ⊢
  split at h
  · cases h
  · next hsome =>
    rw [if_neg hsome]
    exact foldlM_enter_alters ht h

/-! ### Paths that lead to files -/

/-- The path leads to a place where a file may be. -/
structure Leads (t : Tree) (path : String) (place : List String) : Prop where
  size : path.utf8ByteSize ≤ Tree.maxPathBytes
  noSlash : Text.endsWith path "/" = false
  follow : t.follow (routeOf path) = .ok place

theorem Leads.eq_resolvePath (h : Leads t path place) : place = resolvePath path := follow_ok h.follow

theorem Leads.alters (ht : Alters P t t') (h : Leads t path place) : Leads t' path place :=
  ⟨h.size, h.noSlash, follow_alters ht h.follow⟩

/-- A path with contents leads to something. -/
theorem has_of_contents {contents : Contents} (h : t.contents path = .ok contents) :
    t.has path = true := by
  unfold Tree.contents at h
  unfold Tree.has
  rcases hfind : t.find path with error | ⟨place, _ | entry⟩
  · rw [hfind] at h
    cases h
  · rw [hfind] at h
    cases h
  · rfl

/-- A path without a slash at its end asks for no directory. -/
theorem find_eq (hslash : Text.endsWith path "/" = false) :
    t.find path = if Tree.maxPathBytes < path.utf8ByteSize then .error .unusable
      else (t.follow (routeOf path)).map fun place => (place, t.entry? place) := by
  unfold Tree.find
  by_cases hsize : Tree.maxPathBytes < path.utf8ByteSize
  · rw [if_pos hsize, if_pos hsize]
    rfl
  · rw [if_neg hsize, if_neg hsize, hslash]
    cases t.follow (routeOf path) with
    | error error => rfl
    | ok place =>
      rcases hentry : t.entry? place with _ | _ | contents <;>
        simp [bind, Except.bind, Except.map, hentry, pure, Except.pure]

/-- A path without a slash at its end leads to what it finds. -/
theorem find_eq_ok {entry : Option Entry} (hslash : Text.endsWith path "/" = false) :
    t.find path = .ok (place, entry) ↔ Leads t path place ∧ entry = t.entry? place := by
  rw [find_eq hslash]
  constructor
  · intro h
    split at h
    · cases h
    · next hsize =>
      cases hfollow : t.follow (routeOf path) with
      | error error =>
        rw [hfollow] at h
        cases h
      | ok place =>
        rw [hfollow] at h
        cases h
        exact ⟨⟨Nat.le_of_not_lt hsize, hslash, hfollow⟩, rfl⟩
  · rintro ⟨h, rfl⟩
    rw [if_neg (Nat.not_lt.mpr h.size), h.follow]
    rfl

theorem Leads.contents {contents : Contents} (h : Leads t path place)
    (hread : t.read? place = some contents) : t.contents path = .ok contents := by
  have hentry : t.entry? place = some (.file contents) := by
    unfold Tree.entry?
    rw [hread]
  unfold Tree.contents
  rw [(find_eq_ok h.noSlash).mpr ⟨h, rfl⟩, hentry]
  rfl

/-! ### Changes -/

theorem run_look_eq (f : Tree → Except PathError α) (t : Tree) :
    (ExceptT.run (Change.look f)).run t = (f t, t) := by
  have hget : (ExceptT.run (get : Change Tree)).run t = (.ok t, t) := rfl
  unfold Change.look
  rw [Build.run_bind_ok hget]
  cases f t <;> rfl

theorem run_look {look : Tree → Except PathError α} {a : α} (h : look t = .ok a) :
    (ExceptT.run (Change.look look)).run t = (.ok a, t) := by
  rw [run_look_eq, h]

theorem ok_look {look : Tree → Except PathError α} {a : α}
    (h : (ExceptT.run (Change.look look)).run t = (.ok a, t')) : look t = .ok a ∧ t' = t := by
  rw [run_look_eq] at h
  exact ⟨congrArg Prod.fst h, (congrArg Prod.snd h).symm⟩

/-- A failure is handled in the state that it left. -/
theorem run_tryCatch (steps : Change α) (handler : PathError → Change α) (t : Tree) :
    (ExceptT.run (tryCatch steps handler)).run t =
      match (ExceptT.run steps).run t with
      | (.ok a, after) => (.ok a, after)
      | (.error error, after) => (ExceptT.run (handler error)).run after := by
  rw [ExceptT.run_tryCatch]
  rw [StateT.run_bind]
  show (match StateT.run (ExceptT.run steps) t with | (a, after) => _) = _
  rcases StateT.run (ExceptT.run steps) t with ⟨_ | a, after⟩ <;> rfl

/-- The steps touch only files at some places, whether they are refused or not. -/
def Confined (P : List String → Prop) (steps : Change α) : Prop :=
  ∀ t, Alters P t ((ExceptT.run steps).run t).2

namespace Confined

theorem pure (a : α) : Confined P (pure a : Change α) := fun t => .refl P t

theorem throw (error : PathError) : Confined P (throw error : Change α) := fun t => .refl P t

theorem get : Confined P (get : Change Tree) := fun t => .refl P t

theorem bind {steps : Change α} {next : α → Change β} (h : Confined P steps)
    (hnext : ∀ a, Confined P (next a)) : Confined P (steps >>= next) := by
  intro t
  have hfirst := h t
  rw [Build.run_bind]
  rcases hrun : (ExceptT.run steps).run t with ⟨error | a, middle⟩
  · rw [hrun] at hfirst
    exact hfirst
  · rw [hrun] at hfirst
    exact hfirst.trans (hnext a middle)

theorem tryCatch {steps : Change α} {handler : PathError → Change α} (h : Confined P steps)
    (hhandler : ∀ error, Confined P (handler error)) :
    Confined P (tryCatch steps handler) := by
  intro t
  have hfirst := h t
  rw [run_tryCatch]
  rcases hrun : (ExceptT.run steps).run t with ⟨error | a, middle⟩
  · rw [hrun] at hfirst
    exact hfirst.trans (hhandler error middle)
  · rw [hrun] at hfirst
    exact hfirst

theorem look (f : Tree → Except PathError α) : Confined P (Change.look f) := by
  refine .bind .get fun t => ?_
  split
  · exact .pure _
  · exact .throw _

theorem makeDirectory (path : String) : Confined P (Change.makeDirectory path) := by
  refine .bind (.look _) fun found => ?_
  split
  · exact .throw _
  · exact fun t => alters_addDirectories P t _

theorem ensureDirectory (path : String) (mayExist : Bool) :
    Confined P (Change.ensureDirectory path mayExist) := by
  refine .tryCatch (.makeDirectory path) fun error => .bind .get fun t => ?_
  split
  · exact .throw _
  · exact .pure _

theorem makeRoute (fromRoot mayExist : Bool) (names : List String) :
    Confined P (Change.makeRoute fromRoot mayExist names) := by
  induction names with
  | nil => exact .ensureDirectory _ _
  | cons name front ih =>
    have hlast : ∀ (needed : Prop) [Decidable needed] (path : String),
        Confined P (if needed then Change.ensureDirectory path mayExist else Pure.pure ()) := by
      intro needed _ path
      split
      · exact .ensureDirectory path mayExist
      · exact .pure ()
    refine .bind .get fun t => ?_
    dsimp only
    split
    · refine .bind (.tryCatch ih fun error => ?_) fun _ => hlast _ _
      split
      · exact .pure ()
      · exact .throw error
    · exact hlast _ _

/-- Making directories touches no file. -/
theorem makeDirectories (path : String) (mayExist : Bool) :
    Confined P (Change.makeDirectories path mayExist) :=
  .makeRoute _ _ _

end Confined

/-- A file is written to the place that its path leads to, which is no directory. -/
theorem ok_writeFile {contents : Contents}
    (h : (ExceptT.run (Change.writeFile path contents)).run t = (.ok (), t')) :
    Leads t path (resolvePath path) ∧ t.entry? (resolvePath path) ≠ some .directory ∧
      t' = t.write (resolvePath path) contents := by
  unfold Change.writeFile at h
  by_cases hslash : Text.endsWith path "/" = true
  · rw [if_pos hslash] at h
    cases h
  · rw [if_neg hslash] at h
    obtain ⟨⟨place, entry⟩, middle, hlook, h⟩ := Build.run_bind_eq_ok.mp h
    obtain ⟨hfind, hmiddle⟩ := ok_look hlook
    obtain ⟨hleads, hentry⟩ := (find_eq_ok (by simpa using hslash)).mp hfind
    rw [hmiddle, hentry] at h
    rw [← hleads.eq_resolvePath]
    refine ⟨hleads, ?_⟩
    rcases hplace : t.entry? place with _ | _ | found <;> rw [hplace] at h
    · cases h
      exact ⟨by simp, rfl⟩
    · cases h
    · cases h
      exact ⟨by simp, rfl⟩

end Files

end InteropGen
