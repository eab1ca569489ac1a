import InteropGen.Proofs.Routes
import Mathlib.Data.List.Induction

/-!
# Trees that stand on directories

In a `Grounded` tree everything stands in directories. The `entry?_*` lemmas say what each change of a tree does
to what stands at a place. `Paves` says that a change only makes directories on the way to a place, which holds
of making directories along any route without `..`, whether it succeeds or not (`paves_makeDirectories`).
-/

namespace InteropGen.Files

variable {t t' u v : Tree} {place other q : List String} {path name : String} {names front : List String}

/-- Everything stands in a directory, absolute paths start in one, and no name is too long. -/
structure Grounded (t : Tree) : Prop where
  root : t.entry? ["/"] = some .directory
  parent : ∀ place name, t.entry? (place ++ [name]) ≠ none → t.entry? place = some .directory
  short : ∀ place, t.entry? place ≠ none → ∀ name ∈ place, name.utf8ByteSize ≤ Tree.maxNameBytes

namespace Grounded

/-- The current directory is there. -/
theorem here (h : Grounded t) : t.entry? [] = some .directory := by
  refine h.parent [] ".." ?_
  unfold Tree.entry?
  cases hread : t.read? [".."] <;> simp [hread, Tree.hasDirectory]

theorem start (h : Grounded t) (route : Route) : t.entry? route.start = some .directory := by
  unfold Route.start
  split
  · exact h.root
  · exact h.here

/-- What leads to something is a directory. -/
theorem above (h : Grounded t) (hthere : t.entry? place ≠ none) (hlead : other <+: place)
    (hne : other ≠ place) : t.entry? other = some .directory := by
  obtain ⟨more, rfl⟩ := hlead
  induction more using List.reverseRecOn with
  | nil => exact absurd (List.append_nil other).symm hne
  | append_singleton more name ih =>
    rw [← List.append_assoc] at hthere
    have hparent := h.parent _ _ hthere
    by_cases hmore : more = []
    · rwa [hmore, List.append_nil] at hparent
    · exact ih (by simp [hparent]) (by simpa using hmore)

theorem none_below (h : Grounded t) (hnone : t.entry? place ≠ some .directory) (hlead : place <+: other)
    (hne : other ≠ place) : t.entry? other = none := by
  by_contra hthere
  exact hnone (h.above hthere hlead hne.symm)

end Grounded

/-! ### What changes do to places -/

theorem entry?_eq_file {contents : Contents} :
    t.entry? place = some (.file contents) ↔ t.read? place = some contents := by
  unfold Tree.entry?
  cases t.read? place with
  | some found => simp
  | none => by_cases h : t.hasDirectory place <;> simp [h]

theorem entry?_eq_none : t.entry? place = none ↔ t.read? place = none ∧ t.hasDirectory place = false := by
  unfold Tree.entry?
  cases t.read? place with
  | some found => simp
  | none => by_cases h : t.hasDirectory place <;> simp [h]

theorem mem_addDirectories : (t.addDirectories place).hasDirectory other = true ↔
    t.hasDirectory other = true ∨ other <+: place := by
  have hways : other ∈ (List.range place.length).map (fun n => place.take (n + 1)) ↔
      other <+: place ∧ other ≠ [] := by
    rw [List.mem_map]
    constructor
    · rintro ⟨n, hn, rfl⟩
      refine ⟨List.take_prefix _ _, fun hnil => ?_⟩
      have hlength := congrArg List.length hnil
      rw [List.length_take, List.length_nil] at hlength
      have := List.mem_range.mp hn
      omega
    · rintro ⟨hlead, hne⟩
      have hpos := List.length_pos_iff.mpr hne
      refine ⟨other.length - 1, List.mem_range.mpr ?_, ?_⟩
      · have := hlead.length_le
        omega
      · rw [Nat.sub_add_cancel hpos]
        exact (List.prefix_iff_eq_take.mp hlead).symm
  by_cases hbefore : t.hasDirectory other = true
  · have hstays : (t.addDirectories place).hasDirectory other = true := by
      unfold Tree.hasDirectory at hbefore ⊢
      simp only [Bool.or_eq_true, List.contains_iff_mem] at hbefore ⊢
      exact hbefore.imp_right fun hmem => List.mem_append_left _ hmem
    simp [hbefore, hstays]
  · have hnil : other ≠ [] := fun hnil => hbefore (by simp [hnil, Tree.hasDirectory])
    have hmissing : (t.addDirectories place).hasDirectory other = true ↔
        other ∈ (List.range place.length).map fun n => place.take (n + 1) := by
      have hnone := hbefore
      unfold Tree.hasDirectory at hnone
      simp only [Bool.or_eq_true, List.contains_iff_mem, not_or] at hnone
      have hadded : other ∈ (t.addDirectories place).directories ↔
          other ∈ (List.range place.length).map fun n => place.take (n + 1) := by
        show other ∈ t.directories ++ _ ↔ _
        rw [List.mem_append, List.mem_filter]
        simp [hnone.2, hbefore]
      unfold Tree.hasDirectory
      simp only [Bool.or_eq_true, List.contains_iff_mem]
      rw [hadded]
      exact or_iff_right (not_or.mpr hnone.1)
    rw [hmissing, hways]
    simp [hbefore, hnil]

/-- Directories are added on the way to a place where nothing stands. -/
theorem entry?_addDirectories (t : Tree) (place other : List String) :
    Tree.entry? (t.addDirectories place) other =
      match t.entry? other with
      | some entry => some entry
      | none => if other <+: place then some .directory else none := by
  have hread : (t.addDirectories place).read? other = t.read? other := rfl
  rcases hentry : t.entry? other with _ | _ | contents
  · obtain ⟨hnone, hdirectory⟩ := entry?_eq_none.mp hentry
    unfold Tree.entry?
    rw [hread, hnone]
    by_cases hlead : other <+: place
    · simp [mem_addDirectories.mpr (.inr hlead), hlead]
    · have hstill : (t.addDirectories place).hasDirectory other = false := by
        rw [← Bool.not_eq_true, mem_addDirectories]
        simp [hdirectory, hlead]
      simp [hstill, hlead]
  · obtain ⟨hnone, hdirectory⟩ := entry?_eq_directory.mp hentry
    exact entry?_eq_directory.mpr ⟨hnone, mem_addDirectories.mpr (.inl hdirectory)⟩
  · exact entry?_eq_file.mpr (hread.trans (entry?_eq_file.mp hentry))

theorem entry?_addDirectories_of_some {entry : Entry} (h : t.entry? other = some entry)
    (place : List String) : Tree.entry? (t.addDirectories place) other = some entry := by
  rw [entry?_addDirectories, h]

/-- Nothing is added on the way to what is there. -/
theorem Grounded.entry?_addDirectories (h : Grounded t) (hthere : t.entry? place ≠ none) :
    Tree.entry? (t.addDirectories place) = t.entry? := by
  funext other
  rw [Files.entry?_addDirectories]
  cases hentry : t.entry? other with
  | some entry => rfl
  | none =>
    refine if_neg fun hlead => ?_
    by_cases hne : other = place
    · exact hthere (hne ▸ hentry)
    · rw [h.above hthere hlead hne] at hentry
      cases hentry

/-! ### Trees stay grounded -/

theorem Grounded.empty : Grounded {} := by
  have hentry : ∀ place, Tree.entry? {} place =
      if place = ["/"] ∨ ∀ name ∈ place, name = ".." then some .directory else none := by
    intro place
    show (if Tree.hasDirectory {} place then some Entry.directory else none) = _
    simp [Tree.hasDirectory]
  have hthere : ∀ place, Tree.entry? {} place ≠ none → place = ["/"] ∨ ∀ name ∈ place, name = ".." := by
    intro place hplace
    by_contra hnot
    exact hplace ((hentry place).trans (if_neg hnot))
  refine ⟨rfl, fun place name hplace => ?_, fun place hplace name hname => ?_⟩
  · refine (hentry place).trans (if_pos (.inr fun other hother => ?_))
    rcases hthere _ hplace with hroot | hup
    · have hnil : place = [] := by simpa using congrArg List.length hroot
      rw [hnil] at hother
      cases hother
    · exact hup other (List.mem_append_left _ hother)
  · rcases hthere _ hplace with rfl | hup
    · rw [List.mem_singleton.mp hname]
      decide
    · rw [hup name hname]
      decide

theorem Grounded.addDirectories (h : Grounded t) (hq : t.entry? q = some .directory)
    (hname : name.utf8ByteSize ≤ Tree.maxNameBytes) : Grounded (t.addDirectories (q ++ [name])) := by
  have hadded : ∀ {other}, Tree.entry? (t.addDirectories (q ++ [name])) other ≠ none →
      t.entry? other ≠ none ∨ other = q ++ [name] := by
    intro other hthere
    by_contra hno
    obtain ⟨hnone, hne⟩ := not_or.mp hno
    rw [Files.entry?_addDirectories, not_ne_iff.mp hnone] at hthere
    dsimp only at hthere
    have hlead : other <+: q ++ [name] := by
      by_contra hlead
      exact hthere (if_neg hlead)
    rcases List.prefix_concat_iff.mp hlead with heq | hlead
    · exact hne heq
    · by_cases heq : other = q
      · rw [heq, hq] at hnone
        exact hnone (by simp)
      · exact hnone (by rw [h.above (by simp [hq]) hlead heq]; simp)
  refine ⟨entry?_addDirectories_of_some h.root _, fun place last hthere => ?_, fun place hthere => ?_⟩
  · rcases hadded hthere with hbefore | heq
    · exact entry?_addDirectories_of_some (h.parent _ _ hbefore) _
    · obtain ⟨rfl, -⟩ := List.append_inj' heq rfl
      exact entry?_addDirectories_of_some hq _
  · rcases hadded hthere with hbefore | rfl
    · exact h.short place hbefore
    · intro last hlast
      rcases List.mem_append.mp hlast with hmem | hmem
      · exact h.short q (by simp [hq]) last hmem
      · rwa [List.mem_singleton.mp hmem]

theorem Grounded.write (h : Grounded t) (hq : t.entry? q = some .directory)
    (hname : name.utf8ByteSize ≤ Tree.maxNameBytes)
    (hplace : t.entry? (q ++ [name]) ≠ some .directory) (contents : Contents) :
    Grounded (t.write (q ++ [name]) contents) := by
  have hstays : ∀ {other}, t.entry? other = some .directory →
      Tree.entry? (t.write (q ++ [name]) contents) other = some .directory := by
    intro other hother
    have hne : other ≠ q ++ [name] := fun heq => hplace (heq ▸ hother)
    rw [entry?_write, if_neg hne, hother]
  refine ⟨hstays h.root, fun place last hthere => ?_, fun place hthere => ?_⟩
  · rw [entry?_write] at hthere
    by_cases heq : place ++ [last] = q ++ [name]
    · obtain ⟨rfl, -⟩ := List.append_inj' heq rfl
      exact hstays hq
    · rw [if_neg heq] at hthere
      exact hstays (h.parent _ _ hthere)
  · rw [entry?_write] at hthere
    by_cases heq : place = q ++ [name]
    · intro last hlast
      rw [heq] at hlast
      rcases List.mem_append.mp hlast with hmem | hmem
      · exact h.short q (by simp [hq]) last hmem
      · rwa [List.mem_singleton.mp hmem]
    · rw [if_neg heq] at hthere
      exact h.short place hthere

/-- Where a route without detours finds no directory, it has come there from one. -/
theorem Grounded.found_below (h : Grounded t) (hup : ".." ∉ (routeOf path).names)
    (hfollow : t.follow (routeOf path) = .ok place) (hplace : t.entry? place ≠ some .directory) :
    ∃ q name, place = q ++ [name] ∧ t.entry? q = some .directory ∧
      name.utf8ByteSize ≤ Tree.maxNameBytes := by
  unfold Tree.follow at hfollow
  split at hfollow
  · cases hfollow
  rcases List.eq_nil_or_concat (routeOf path).names with hnil | ⟨front, name, hnames⟩
  · rw [hnil] at hfollow
    cases hfollow
    exact absurd (h.start _) hplace
  · rw [List.concat_eq_append] at hnames
    rw [hnames, List.foldlM_append] at hfollow
    obtain ⟨q, -, hlast⟩ := Build.except_bind_ok.mp hfollow
    rw [List.foldlM_cons] at hlast
    obtain ⟨place', henter, hpure⟩ := Build.except_bind_ok.mp hlast
    obtain ⟨hq, hshort, rfl⟩ := enter_eq_ok.mp henter
    cases hpure
    refine ⟨q, name, ?_, hq, hshort⟩
    have hnot : name ≠ ".." := fun heq => hup (hnames ▸ heq ▸ List.mem_append_right _ List.mem_cons_self)
    unfold walk at hplace ⊢
    by_cases hdot : name = "."
    · rw [if_pos hdot] at hplace
      exact absurd hq hplace
    · rw [if_neg hdot, if_neg hnot]

/-! ### Making directories -/

/-- Only directories on the way to a place were made. -/
structure Paves (place : List String) (t t' : Tree) : Prop where
  grounded : Grounded t'
  entries : ∀ other, t'.entry? other = t.entry? other ∨
    (other <+: place ∧ t.entry? other = none ∧ t'.entry? other = some .directory)

theorem Paves.refl (h : Grounded t) (place : List String) : Paves place t t :=
  ⟨h, fun _ => .inl rfl⟩

theorem Paves.trans (h : Paves place t u) (h' : Paves place u v) : Paves place t v := by
  refine ⟨h'.grounded, fun other => ?_⟩
  rcases h'.entries other with heq' | ⟨hlead, hnone, hmade⟩
  · rcases h.entries other with heq | ⟨hlead, hnone, hmade⟩
    · exact .inl (heq'.trans heq)
    · exact .inr ⟨hlead, hnone, heq'.trans hmade⟩
  · rcases h.entries other with heq | ⟨-, -, hdirectory⟩
    · exact .inr ⟨hlead, heq ▸ hnone, hmade⟩
    · rw [hdirectory] at hnone
      cases hnone

theorem Paves.mono (h : Paves q t u) (hlead : q <+: place) : Paves place t u :=
  ⟨h.grounded, fun other => (h.entries other).imp_right fun ⟨hother, hmade⟩ => ⟨hother.trans hlead, hmade⟩⟩

theorem Grounded.paves (h : Grounded t) (hq : t.entry? q = some .directory)
    (hname : name.utf8ByteSize ≤ Tree.maxNameBytes) :
    Paves (q ++ [name]) t (t.addDirectories (q ++ [name])) := by
  refine ⟨h.addDirectories hq hname, fun other => ?_⟩
  rw [Files.entry?_addDirectories]
  cases hentry : t.entry? other with
  | some entry => exact .inl rfl
  | none =>
    by_cases hlead : other <+: q ++ [name]
    · exact .inr ⟨hlead, rfl, if_pos hlead⟩
    · exact .inl (if_neg hlead)

theorem run_makeDirectory (path : String) (t : Tree) :
    (ExceptT.run (Change.makeDirectory path)).run t =
      match t.find path with
      | .error error => (.error error, t)
      | .ok (_, some _) => (.error .taken, t)
      | .ok (place, none) => (.ok (), t.addDirectories place) := by
  unfold Change.makeDirectory
  rw [Build.run_bind, run_look_eq]
  rcases t.find path with error | ⟨place, _ | entry⟩ <;> rfl

/-- What a path finds is at the end of its route. -/
theorem follow_of_find {entry : Option Entry} (h : t.find path = .ok (place, entry)) :
    t.follow (routeOf path) = .ok place ∧ t.entry? place = entry := by
  unfold Tree.find at h
  by_cases hsize : Tree.maxPathBytes < path.utf8ByteSize
  · rw [if_pos hsize] at h
    cases h
  rw [if_neg hsize] at h
  obtain ⟨place', hfollow, h⟩ := Build.except_bind_ok.mp h
  rcases hentry : t.entry? place' with _ | _ | contents <;> rw [hentry] at h <;> dsimp only at h
  · cases h
    exact ⟨hfollow, hentry⟩
  · cases h
    exact ⟨hfollow, hentry⟩
  · split at h <;> cases h
    exact ⟨hfollow, hentry⟩

/-- What a path holds stands at the place that it leads to. -/
theorem read?_of_contents {contents : Contents} (h : t.contents path = .ok contents) :
    t.read? (resolvePath path) = some contents := by
  obtain ⟨⟨place, entry⟩, hfind, hentry⟩ := Build.except_bind_ok.mp h
  obtain ⟨hfollow, hplace⟩ := follow_of_find hfind
  rw [show resolvePath path = place from (follow_ok hfollow).symm]
  rcases entry with _ | _ | found <;> cases hentry
  exact entry?_eq_file.mp hplace

theorem paves_makeDirectory (h : Grounded t) (hup : ".." ∉ (routeOf path).names) :
    Paves (resolvePath path) t ((ExceptT.run (Change.makeDirectory path)).run t).2 := by
  rw [run_makeDirectory]
  rcases hfind : t.find path with error | ⟨place, _ | entry⟩
  · exact .refl h _
  · obtain ⟨hfollow, hentry⟩ := follow_of_find hfind
    obtain ⟨q, name, hplace, hq, hshort⟩ := h.found_below hup hfollow (by simp [hentry])
    have hresolve : resolvePath path = place := (follow_ok hfollow).symm
    rw [hresolve]
    subst hplace
    exact h.paves hq hshort
  · exact .refl h _

theorem run_ensureDirectory (path : String) (mayExist : Bool) (t : Tree) :
    (ExceptT.run (Change.ensureDirectory path mayExist)).run t =
      match (ExceptT.run (Change.makeDirectory path)).run t with
      | (.ok (), after) => (.ok (), after)
      | (.error error, after) =>
        (if !mayExist || !after.isDirectory path then .error error else .ok (), after) := by
  unfold Change.ensureDirectory
  rw [run_tryCatch]
  rcases (ExceptT.run (Change.makeDirectory path)).run t with ⟨error | ⟨⟩, after⟩
  · have hget : (ExceptT.run (get : Change Tree)).run after = (.ok after, after) := rfl
    dsimp only
    rw [Build.run_bind_ok hget]
    split <;> rfl
  · rfl

theorem paves_ensureDirectory (h : Grounded t) (hup : ".." ∉ (routeOf path).names) (mayExist : Bool) :
    Paves (resolvePath path) t ((ExceptT.run (Change.ensureDirectory path mayExist)).run t).2 := by
  have hmade := paves_makeDirectory h hup
  rw [run_ensureDirectory]
  rcases hrun : (ExceptT.run (Change.makeDirectory path)).run t with ⟨error | ⟨⟩, after⟩ <;>
    rw [hrun] at hmade <;> exact hmade

/-- The text of the route with these names, from the last one on. -/
def routeText (fromRoot : Bool) (names : List String) : String := Route.text ⟨fromRoot, names.reverse⟩

/-- The way to a directory is made if it is not there, then the directory. -/
theorem run_makeRoute_cons (fromRoot mayExist : Bool) (name : String) (front : List String) (t : Tree) :
    (ExceptT.run (Change.makeRoute fromRoot mayExist (name :: front))).run t =
      if (routeText fromRoot front).isEmpty || t.has (routeText fromRoot front) then
        (ExceptT.run (Change.ensureDirectory (routeText fromRoot (name :: front)) mayExist)).run t
      else
        match (ExceptT.run (Change.makeRoute fromRoot mayExist front)).run t with
        | (.ok (), after) | (.error .taken, after) =>
          if name = "." then (.ok (), after)
          else (ExceptT.run
            (Change.ensureDirectory (routeText fromRoot (name :: front)) mayExist)).run after
        | (.error error, after) => (.error error, after) := by
  have hget : (ExceptT.run (get : Change Tree)).run t = (.ok t, t) := rfl
  rw [Change.makeRoute, Build.run_bind_ok hget]
  dsimp only
  by_cases houter : ((routeText fromRoot front).isEmpty || t.has (routeText fromRoot front)) = true
  · rw [if_pos houter, show Route.text ⟨fromRoot, front.reverse⟩ = routeText fromRoot front from rfl,
      houter]
    rfl
  · have hlast : ∀ after, (ExceptT.run (if (false || name != ".") = true then
        Change.ensureDirectory (routeText fromRoot (name :: front)) mayExist else Pure.pure ())).run after =
          if name = "." then (.ok (), after)
          else (ExceptT.run
            (Change.ensureDirectory (routeText fromRoot (name :: front)) mayExist)).run after := by
      intro after
      simp only [Bool.false_or, bne_iff_ne, ne_eq, ite_not]
      split <;> rfl
    rw [if_neg houter, show Route.text ⟨fromRoot, front.reverse⟩ = routeText fromRoot front from rfl,
      (Bool.not_eq_true _).mp houter, if_pos (by rfl), Build.run_bind, run_tryCatch]
    rcases (ExceptT.run (Change.makeRoute fromRoot mayExist front)).run t with ⟨error | ⟨⟩, after⟩
    · cases error
      case taken => exact hlast after
      all_goals rfl
    · exact hlast after

/-- The place that a route without detours leads to, by its names from the last one on. -/
def placeOf (fromRoot : Bool) (names : List String) : List String :=
  Route.start ⟨fromRoot, []⟩ ++ onward names.reverse

theorem placeOf_nil (fromRoot : Bool) : placeOf fromRoot [] = Route.start ⟨fromRoot, []⟩ := List.append_nil _

theorem placeOf_cons (fromRoot : Bool) (name : String) (front : List String) :
    placeOf fromRoot (name :: front) = placeOf fromRoot front ++ onward [name] := by
  rw [placeOf, List.reverse_cons, onward_append, ← List.append_assoc]
  rfl

theorem placeOf_mono {fromRoot : Bool} (h : front <:+ names) :
    placeOf fromRoot front <+: placeOf fromRoot names :=
  (List.prefix_append_right_inj _).mpr ((List.reverse_prefix.mpr h).filter _)

theorem resolvePath_eq_placeOf (hup : ".." ∉ (routeOf path).names) :
    resolvePath path = placeOf (routeOf path).fromRoot (routeOf path).names.reverse := by
  rw [placeOf, List.reverse_reverse]
  exact foldl_walk hup _

theorem routeOf_routeText {fromRoot : Bool} (hnames : ∀ name ∈ names, IsName name) :
    routeOf (routeText fromRoot names) = ⟨fromRoot, names.reverse⟩ :=
  routeOf_text fun name hmem => hnames name (List.mem_reverse.mp hmem)

theorem resolvePath_routeText {fromRoot : Bool} (hnames : ∀ name ∈ names, IsName name)
    (hup : ".." ∉ names) : resolvePath (routeText fromRoot names) = placeOf fromRoot names := by
  unfold resolvePath
  rw [routeOf_routeText hnames]
  exact foldl_walk (fun hmem => hup (List.mem_reverse.mp hmem)) _

theorem paves_makeRoute {fromRoot : Bool} (mayExist : Bool) (h : Grounded t)
    (hnames : ∀ name ∈ names, IsName name) (hup : ".." ∉ names) :
    Paves (placeOf fromRoot names) t
      ((ExceptT.run (Change.makeRoute fromRoot mayExist names)).run t).2 := by
  have hensure : ∀ {names : List String} {t : Tree}, (∀ name ∈ names, IsName name) → ".." ∉ names →
      Grounded t → Paves (placeOf fromRoot names) t
        ((ExceptT.run (Change.ensureDirectory (routeText fromRoot names) mayExist)).run t).2 := by
    intro names t hnames hup h
    rw [← resolvePath_routeText hnames hup]
    refine paves_ensureDirectory h ?_ mayExist
    rw [routeOf_routeText hnames]
    exact fun hmem => hup (List.mem_reverse.mp hmem)
  induction names generalizing t with
  | nil => exact hensure hnames hup h
  | cons name front ih =>
    have hfront := ih h (fun other hother => hnames other (List.mem_cons_of_mem _ hother)) fun hmem =>
      hup (List.mem_cons_of_mem _ hmem)
    have hway : placeOf fromRoot front <+: placeOf fromRoot (name :: front) := by
      rw [placeOf_cons]
      exact List.prefix_append _ _
    rw [run_makeRoute_cons]
    split
    · exact hensure hnames hup h
    · rcases hrun : (ExceptT.run (Change.makeRoute fromRoot mayExist front)).run t with
        ⟨error | ⟨⟩, after⟩ <;> rw [hrun] at hfront
      · have hpaved := hfront.mono hway
        cases error
        case taken =>
          dsimp only
          split
          · exact hpaved
          · exact hpaved.trans (hensure hnames hup hpaved.grounded)
        all_goals exact hpaved
      · have hpaved := hfront.mono hway
        dsimp only
        split
        · exact hpaved
        · exact hpaved.trans (hensure hnames hup hpaved.grounded)

/-- Making directories along a route without `..` makes only directories on the way to its end. -/
theorem paves_makeDirectories (mayExist : Bool) (h : Grounded t) (hup : ".." ∉ (routeOf path).names) :
    Paves (resolvePath path) t
      ((ExceptT.run (Change.makeDirectories path mayExist)).run t).2 := by
  rw [resolvePath_eq_placeOf hup]
  exact paves_makeRoute mayExist h (fun name hmem => isName_of_mem (List.mem_reverse.mp hmem))
    fun hmem => hup (List.mem_reverse.mp hmem)

end InteropGen.Files
