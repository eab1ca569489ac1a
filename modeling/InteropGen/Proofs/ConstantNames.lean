import InteropGen.Proofs.GuardedDefines
import InteropGen.Proofs.Inclusions

/-!
# The names of the constants

Which defines of a document count can be said without a run (`counted`): they are taken group by group, and each
one counts if its guards hold with the names that are known to it, which are those from before the document and
those of the defines that counted already, but of its own group only if the group has less than two guards
(`isKnownTo`). A logged run includes exactly these (`included_loggedRun`). While a group is under way, what is
known are the included defines up to the last that is published, and these are the ones that are known to a define
of the group (`Shows`), so that every step of the run decides as `counting` does.

`constants_names` reads the class off the included defines: the seeds, then every new name once, and afterwards
all names are known.
-/

namespace InteropGen

namespace Symbols

/-- The symbols with some more names defined. -/
def knowing (s : Symbols) (names : List String) : Symbols :=
  { s with defines := s.defines.insertAll (names.map fun name => (name, none, "")) }

theorem isDefined_knowing (s : Symbols) (names : List String) (name : String) :
    (s.knowing names).isDefined name = true ↔ name ∈ names ∨ s.isDefined name = true := by
  show (s.defines.insertAll _).contains name = true ↔ _
  rw [Table.contains_insertAll, List.map_map]
  show name ∈ names.map id ∨ _ ↔ _
  rw [List.map_id]
  rfl

end Symbols

namespace Generate

open Metadata

variable {s : Symbols} {log : LoggedRun} {define : Define} {defines before row : List Define} {depth : Nat}

/-! ### The defines that count -/

/-- The defines in the order in which they are processed: group by group, each in the order of the document. -/
def processed (defines : List Define) : List Define :=
  (guardDepths defines).flatMap fun depth => guardedBy depth defines

/-- Is the name of a define that counted known to a later one? Within a group under several guards it is not. -/
def isKnownTo (later earlier : Define) : Bool :=
  earlier.guards.length < 2 || earlier.guards.length ≠ later.guards.length

/-- The symbols that a define is judged by, after the defines that counted before it. -/
def judging (s : Symbols) (before : List Define) (define : Define) : Symbols :=
  s.knowing ((before.filter (isKnownTo define)).map (·.name))

/-- The defines of a row that count, behind those that counted before. -/
def counting (s : Symbols) : List Define → List Define → List Define
  | before, [] => before
  | before, define :: row =>
    if (judging s before define).admits define.guards then counting s (before ++ [define]) row
    else counting s before row

/-- The defines of a document that count, in the order in which they are processed. -/
def counted (s : Symbols) (defines : List Define) : List Define := counting s [] (processed defines)

theorem counting_append (s : Symbols) (before row row' : List Define) :
    counting s before (row ++ row') = counting s (counting s before row) row' := by
  induction row generalizing before with
  | nil => rfl
  | cons define row ih =>
    rw [List.cons_append, counting, counting]
    split
    · exact ih _
    · exact ih _

/-- What counts was there before or is in the row. -/
theorem mem_counting (h : define ∈ counting s before row) : define ∈ before ∨ define ∈ row := by
  induction row generalizing before with
  | nil => exact .inl h
  | cons first row ih =>
    rw [counting] at h
    split at h
    · rcases ih h with hbefore | hrow
      · rcases List.mem_append.mp hbefore with hbefore | hfirst
        · exact .inl hbefore
        · exact .inr (List.mem_singleton.mp hfirst ▸ List.mem_cons_self)
      · exact .inr (List.mem_cons_of_mem _ hrow)
    · exact (ih h).imp_right (List.mem_cons_of_mem _)

/-! ### A run includes the defines that count -/

/-- The included defines that are published are those that are known to the defines with so many guards. -/
def Shows (depth : Nat) (log : LoggedRun) : Prop :=
  ∀ define : Define, define.guards.length = depth →
    (log.included.map (·.define)).filter (isKnownTo define) =
      (log.included.take log.published).map (·.define)

/-- In the middle of the group with so many guards, the log is an account of the run and shows what is known. -/
structure InGroup (s : Symbols) (depth : Nat) (log : LoggedRun) : Prop where
  traced : Traced s log
  shows : Shows depth log
  published : depth < 2 → log.published = log.included.length

theorem map_noted (log : LoggedRun) (define : Define) :
    (log.noted define).map (·.define) = log.included.map (·.define) ++ [define] := by
  rw [LoggedRun.noted, List.map_append]
  rfl

namespace InGroup

theorem start (h : Traced s log) (hpublished : log.published = log.included.length)
    (hothers : ∀ i ∈ log.included, i.define.guards.length ≠ depth) : InGroup s depth log := by
  refine ⟨h, fun define hdepth => ?_, fun _ => hpublished⟩
  rw [hpublished, List.take_length, List.filter_eq_self]
  refine List.forall_mem_map.mpr fun i hi => ?_
  simp [isKnownTo, hdepth, hothers i hi]

/-- A define of the group is judged by what is published. -/
theorem admits (h : InGroup s depth log) (hdepth : define.guards.length = depth) :
    log.run.symbols.admits define.guards =
      (judging s (log.included.map (·.define)) define).admits define.guards := by
  refine Symbols.admits_congr (fun name => ?_) _
  have hknown : log.run.symbols.isDefined name = (s.defines.insertAll
      ((log.included.take log.published).map Inclusion.entry)).contains name := by
    rw [Symbols.isDefined, Table.contains, h.traced.defines]
    rfl
  have hnames : ((log.included.take log.published).map Inclusion.entry).map (·.1) =
      ((log.included.take log.published).map (·.define)).map (·.name) := by
    rw [List.map_map, List.map_map]
    rfl
  rw [hknown, judging, h.shows define hdepth, Bool.eq_iff_iff, Table.contains_insertAll, hnames,
    Symbols.isDefined_knowing]
  rfl

theorem addDefine_left (h : InGroup s depth log) (hadmits : log.run.symbols.admits define.guards = false)
    (deep : Bool) : InGroup s depth (log.addDefine deep define) := by
  have htraced := h.traced.addDefine_left hadmits deep
  rw [LoggedRun.addDefine, if_neg (by simp [hadmits])] at htraced ⊢
  exact ⟨htraced, h.shows, h.published⟩

/-- A define of a group under several guards is not known to the others of the group. -/
theorem addDefine_deep (h : InGroup s depth log) (hdeep : 2 ≤ depth) (hdepth : define.guards.length = depth)
    (hadmits : log.run.symbols.admits define.guards = true) : InGroup s depth (log.addDefine true define) := by
  have htraced := h.traced.addDefine_deep hadmits
  rw [LoggedRun.addDefine, if_pos hadmits] at htraced ⊢
  refine ⟨htraced, fun other hother => ?_, fun hlow => by omega⟩
  show ((log.noted define).map (·.define)).filter (isKnownTo other) =
    ((log.noted define).take log.published).map (·.define)
  have hunknown : isKnownTo other define = false := by
    rw [isKnownTo, hdepth, hother, Bool.or_eq_false_iff]
    exact ⟨decide_eq_false (by omega), decide_eq_false fun hne => hne rfl⟩
  have hhidden : [define].filter (isKnownTo other) = [] := List.filter_cons_of_neg (by simp [hunknown])
  rw [map_noted, List.filter_append, hhidden, List.append_nil, h.shows other hother, LoggedRun.noted,
    List.take_append_of_le_length h.traced.published_le]

theorem addDefine_shallow (h : InGroup s depth log) (hlow : depth < 2) (hdepth : define.guards.length = depth)
    (hadmits : log.run.symbols.admits define.guards = true) : InGroup s depth (log.addDefine false define) := by
  have hpublished := h.published hlow
  have htraced := h.traced.addDefine_shallow hpublished hadmits
  rw [LoggedRun.addDefine, if_pos hadmits] at htraced ⊢
  refine ⟨htraced, fun other hother => ?_, fun _ => rfl⟩
  show ((log.noted define).map (·.define)).filter (isKnownTo other) =
    ((log.noted define).take (log.noted define).length).map (·.define)
  have hshown : [define].filter (isKnownTo other) = [define] := by
    simp [isKnownTo, hdepth, hlow]
  have hall := h.shows other hother
  rw [hpublished, List.take_length] at hall
  rw [List.take_length, map_noted, List.filter_append, hshown, hall]

/-- One define keeps the log such an account, and is included if it counts. -/
theorem addDefine (h : InGroup s depth log) (hdepth : define.guards.length = depth) :
    InGroup s depth (log.addDefine (2 ≤ depth) define) ∧
      (log.addDefine (2 ≤ depth) define).included.map (·.define) =
        counting s (log.included.map (·.define)) [define] := by
  have hjudged := h.admits hdepth
  cases hadmits : log.run.symbols.admits define.guards with
  | false =>
    refine ⟨h.addDefine_left hadmits _, ?_⟩
    rw [counting, if_neg (by simp [← hjudged, hadmits]), LoggedRun.addDefine, if_neg (by simp [hadmits])]
    rfl
  | true =>
    constructor
    · by_cases hdeep : 2 ≤ depth
      · rw [decide_eq_true hdeep]
        exact h.addDefine_deep hdeep hdepth hadmits
      · rw [decide_eq_false hdeep]
        exact h.addDefine_shallow (by omega) hdepth hadmits
    · rw [counting, if_pos (by rw [← hjudged, hadmits]), LoggedRun.addDefine, if_pos hadmits]
      exact map_noted log define

theorem foldl_addDefine (h : InGroup s depth log) (hrow : ∀ define ∈ row, define.guards.length = depth) :
    (row.foldl (LoggedRun.addDefine (2 ≤ depth)) log).included.map (·.define) =
      counting s (log.included.map (·.define)) row := by
  induction row generalizing log with
  | nil => rfl
  | cons define row ih =>
    obtain ⟨hnext, hcounts⟩ := h.addDefine (hrow define List.mem_cons_self)
    rw [List.foldl_cons, ih hnext fun other hother => hrow other (List.mem_cons_of_mem _ hother), hcounts,
      ← counting_append, List.singleton_append]

end InGroup

/-- The included defines of a run are those that count, in their order. -/
theorem included_loggedRun (defines : List Define) (s : Symbols) :
    (inclusions defines s).map (·.define) = counted s defines := by
  have hgroups : ∀ (depths : List Nat) {log : LoggedRun}, depths.Nodup → Traced s log →
      log.published = log.included.length →
      (∀ i ∈ log.included, i.define.guards.length ∉ depths) →
      (depths.foldl (LoggedRun.addGroup defines) log).included.map (·.define) =
        counting s (log.included.map (·.define)) (depths.flatMap fun depth => guardedBy depth defines) := by
    intro depths
    induction depths with
    | nil => exact fun _ _ _ _ => rfl
    | cons depth depths ih =>
      intro log hdepths h hpublished hothers
      obtain ⟨hdepth, hdepths⟩ := List.nodup_cons.mp hdepths
      have hgroup : ∀ define ∈ guardedBy depth defines, define.guards.length = depth := by
        intro define hdefine
        simpa using (List.mem_filter.mp hdefine).2
      have hcounts : (log.addGroup defines depth).included.map (·.define) =
          counting s (log.included.map (·.define)) (guardedBy depth defines) :=
        (InGroup.start h hpublished fun i hi => fun heq => hothers i hi (heq ▸ List.mem_cons_self)).foldl_addDefine
          hgroup
      obtain ⟨htraced, hall⟩ := h.addGroup hpublished defines depth
      rw [List.foldl_cons, ih hdepths htraced hall, hcounts, List.flatMap_cons, counting_append]
      intro i hi
      have hmem : i.define ∈ counting s (log.included.map (·.define)) (guardedBy depth defines) :=
        hcounts ▸ List.mem_map_of_mem hi
      rcases mem_counting hmem with hold | hnew
      · obtain ⟨j, hj, hsame⟩ := List.mem_map.mp hold
        rw [← hsame]
        exact fun hlater => hothers j hj (List.mem_cons_of_mem _ hlater)
      · rw [hgroup i.define hnew]
        exact hdepth
  exact hgroups (guardDepths defines) (nodup_eraseDups _) (.start s) rfl fun _ hi => nomatch hi

/-! ### The names of the class -/

theorem names_addNew (constants : List Decl.Constant) (constant : Decl.Constant) :
    (addNew constants constant).map (·.head.name) =
      if constant.head.name ∈ constants.map (·.head.name) then constants.map (·.head.name)
      else constants.map (·.head.name) ++ [constant.head.name] := by
  have hany : constants.any (·.head.name = constant.head.name) = true ↔
      constant.head.name ∈ constants.map (·.head.name) := by
    rw [List.any_eq_true, List.mem_map]
    simp only [decide_eq_true_eq]
  unfold addNew
  by_cases hmem : constant.head.name ∈ constants.map (·.head.name)
  · rw [if_pos (hany.mpr hmem), if_pos hmem]
  · rw [if_neg fun h => hmem (hany.mp h), if_neg hmem, List.map_append, List.map_singleton]

/-- Behind the constants that are there come the new names, each where it comes first. -/
theorem names_foldl_addNew (made constants : List Decl.Constant) :
    (made.foldl addNew constants).map (·.head.name) = constants.map (·.head.name) ++
      ((made.map (·.head.name)).filter (· ∉ constants.map (·.head.name))).eraseDups := by
  induction made generalizing constants with
  | nil => simp
  | cons constant made ih =>
    rw [List.foldl_cons, ih, names_addNew, List.map_cons]
    by_cases hmem : constant.head.name ∈ constants.map (·.head.name)
    · rw [if_pos hmem, List.filter_cons_of_neg (by simpa using hmem)]
    · have hnew : (made.map (·.head.name)).filter (· ∉ constants.map (·.head.name) ++ [constant.head.name]) =
          (made.map (·.head.name)).filter fun name =>
            !name == constant.head.name && decide (name ∉ constants.map (·.head.name)) := by
        refine List.filter_congr fun name _ => ?_
        rw [Bool.eq_iff_iff, decide_eq_true_iff, List.mem_append, List.mem_singleton, not_or, and_comm]
        simp
      rw [if_neg hmem, List.filter_cons_of_pos (by simpa using hmem), List.eraseDups_cons, List.filter_filter,
        List.append_assoc, List.singleton_append, hnew]

theorem names_seeds (s : Symbols) :
    (startRun s).constants.map (·.head.name) = s.settings.knownDefines := by
  show (s.settings.knownDefines.map (seedConstant s)).map _ = _
  rw [List.map_map]
  exact List.map_id _

/--
The constants have distinct names: first those of the seeds, then those of the defines that count and are no seeds,
each where it comes first. Afterwards the names that were known before are known, and those of all defines that
count.
-/
theorem constants_names (h : s.settings.knownDefines.Nodup) (defines : List Define) :
    ((constants defines s).1.map (·.head.name)).Nodup ∧
    (constants defines s).1.map (·.head.name) = s.settings.knownDefines ++
      (((counted s defines).map (·.name)).filter (· ∉ s.settings.knownDefines)).eraseDups ∧
    ∀ name, name ∈ (constants defines s).2.defines.keys ↔
      name ∈ s.defines.keys ∨ name ∈ (counted s defines).map (·.name) := by
  have hincluded : ((inclusions defines s).map Inclusion.constant).map (·.head.name) =
      (counted s defines).map (·.name) := by
    rw [← included_loggedRun, List.map_map, List.map_map]
    exact List.map_congr_left fun i _ => i.name_constant
  have hnames : (constants defines s).1.map (·.head.name) = s.settings.knownDefines ++
      (((counted s defines).map (·.name)).filter (· ∉ s.settings.knownDefines)).eraseDups := by
    rw [constants_eq, names_foldl_addNew, names_seeds, hincluded]
  refine ⟨?_, hnames, fun name => ?_⟩
  · rw [hnames]
    refine List.nodup_append.mpr ⟨h, nodup_eraseDups _, fun seed hseed name hname => ?_⟩
    rintro rfl
    simpa [hseed] using (List.mem_filter.mp (List.mem_eraseDups.mp hname)).2
  · obtain ⟨htraced, hall⟩ := accounts_loggedRun defines s
    have hentries : ((inclusions defines s).map Inclusion.entry).map (·.1) = (counted s defines).map (·.name) := by
      rw [← included_loggedRun, List.map_map, List.map_map]
      rfl
    have hknown : (constants defines s).2.defines.contains name =
        (s.defines.insertAll ((inclusions defines s).map Inclusion.entry)).contains name := by
      rw [run_loggedRun, Table.contains, htraced.defines, hall, List.take_length]
      rfl
    rw [Table.mem_keys_iff, Table.mem_keys_iff, hknown, Table.contains_insertAll, hentries, or_comm]

/-- Symbols with one seed. -/
def seededSymbols : Symbols := .ofSettings { knownDefines := ["DISABLE_KEYIO"] }

/--
A define that is asked for too early and in time, one that comes twice, one with the name of the seed, and two under
two guards of which the second asks for the first.
-/
def versionDefines : List Define :=
  [{ name := "DEBUG", guards := [⟨.defined, "VERSION"⟩] }, { name := "VERSION", content := some "1" },
    { name := "LIMIT", content := some "8", guards := [⟨.undefined, "API"⟩, ⟨.defined, "VERSION"⟩] },
    { name := "ALIAS", content := some "LIMIT", guards := [⟨.undefined, "API"⟩, ⟨.defined, "LIMIT"⟩] },
    { name := "VERSION", content := some "2" }, { name := "DISABLE_KEYIO", content := some "1" }]

theorem constants_names_versions :
    seededSymbols.settings.knownDefines.Nodup ∧
    (counted seededSymbols versionDefines).map (·.name) = ["VERSION", "VERSION", "DISABLE_KEYIO", "LIMIT"] ∧
    (constants versionDefines seededSymbols).1.map (·.head.name) = ["DISABLE_KEYIO", "VERSION", "LIMIT"] ∧
    "LIMIT" ∈ (constants versionDefines seededSymbols).2.defines.keys ∧
    "ALIAS" ∉ (constants versionDefines seededSymbols).2.defines.keys := by
  have hseeds : seededSymbols.settings.knownDefines.Nodup := by decide
  have hcounted : (counted seededSymbols versionDefines).map (·.name) =
      ["VERSION", "VERSION", "DISABLE_KEYIO", "LIMIT"] := by decide +kernel
  obtain ⟨-, hnames, hknown⟩ := constants_names hseeds versionDefines
  rw [hcounted] at hnames hknown
  refine ⟨hseeds, hcounted, hnames.trans (by decide +kernel), (hknown _).mpr (.inr (by decide)), fun halias => ?_⟩
  exact absurd ((hknown _).mp halias) (by decide +kernel)

end Generate

end InteropGen
