import InteropGen.Proofs.Trees
import Mathlib.Data.String.Basic

/-!
# Routes that lead down

A route without `..` leads from its start down along its names, apart from those that stay where they are
(`foldl_walk`), and so does a path that is `Inward` from any directory it is joined to
(`resolvePath_joinPath_of_inward`). The text of a route leads along the same names (`routeOf_text`), and no part
of a route has a longer text than the path that the route was read from (`size_text_le`).
-/

namespace InteropGen

namespace Text

variable {separator : Char} {chars part : List Char}

theorem notMem_of_mem_splitChars (h : part ∈ splitChars separator chars) : separator ∉ part := by
  induction chars generalizing part with
  | nil =>
    rw [splitChars, List.mem_singleton] at h
    rw [h]
    exact List.not_mem_nil
  | cons c rest ih =>
    rw [splitChars] at h
    split at h
    · rcases List.mem_cons.mp h with rfl | h
      · exact List.not_mem_nil
      · exact ih h
    · next hc =>
      cases hsplit : splitChars separator rest with
      | nil => exact absurd hsplit (splitChars_ne_nil separator rest)
      | cons first parts =>
        rw [hsplit] at h ih
        rcases List.mem_cons.mp h with rfl | h
        · intro hmem
          rcases List.mem_cons.mp hmem with heq | hmem
          · exact hc heq.symm
          · exact ih List.mem_cons_self hmem
        · exact ih (List.mem_cons_of_mem _ h)

/-- Leaving out parts leaves out characters. -/
theorem sublist_intercalate {parts parts' : List (List Char)} (separator : List Char)
    (h : parts.Sublist parts') :
    (separator.intercalate parts).Sublist (separator.intercalate parts') := by
  induction h with
  | slnil => exact .refl _
  | @cons parts parts' part h ih =>
    cases parts' with
    | nil =>
      cases h
      exact List.nil_sublist _
    | cons next others =>
      rw [List.intercalate_cons_cons]
      exact ih.trans (List.sublist_append_right _ _)
  | @cons_cons parts parts' part h ih =>
    cases parts' with
    | nil =>
      cases h
      exact .refl _
    | cons next others =>
      rw [List.intercalate_cons_cons]
      cases parts with
      | nil =>
        rw [List.intercalate_singleton, List.append_assoc]
        exact List.sublist_append_left _ _
      | cons first rest =>
        rw [List.intercalate_cons_cons]
        exact ih.append_left _

theorem size_le_of_sublist {text text' : String} (h : text.toList.Sublist text'.toList) :
    text.utf8ByteSize ≤ text'.utf8ByteSize := by
  have hsize := String.utf8Len_le_of_sublist h
  rwa [← String.utf8ByteSize_ofList, ← String.utf8ByteSize_ofList, String.ofList_toList,
    String.ofList_toList] at hsize

end Text

namespace Files

variable {path name : String} {names place : List String} {route : Route}

/-! ### Names -/

/-- The name can stand in a route: it is there and has no slashes. -/
structure IsName (name : String) : Prop where
  slash : '/' ∉ name.toList
  empty : name ≠ ""

theorem isName_of_mem (h : name ∈ (routeOf path).names) : IsName name := by
  obtain ⟨hsplit, hempty⟩ := List.mem_filter.mp h
  obtain ⟨part, hpart, rfl⟩ := List.mem_map.mp hsplit
  refine ⟨?_, by simpa using hempty⟩
  rw [String.toList_ofList]
  exact Text.notMem_of_mem_splitChars hpart

theorem IsName.names_eq (h : IsName name) : (routeOf name).names = [name] := by
  unfold routeOf Text.split
  rw [Text.splitChars_of_notMem h.slash]
  simp [h.empty]

/-- The names that lead on. -/
def onward (names : List String) : List String := names.filter (· ≠ ".")

theorem onward_append (names names' : List String) :
    onward (names ++ names') = onward names ++ onward names' := List.filter_append ..

/-- Without names that lead up a route leads on to what its names say. -/
theorem foldl_walk (h : ".." ∉ names) (place : List String) :
    names.foldl walk place = place ++ onward names := by
  induction names generalizing place with
  | nil => exact (List.append_nil _).symm
  | cons name names ih =>
    rw [List.foldl_cons, ih fun hmem => h (List.mem_cons_of_mem _ hmem)]
    have hup : name ≠ ".." := fun heq => h (heq ▸ List.mem_cons_self)
    unfold walk onward
    by_cases hdot : name = "."
    · rw [if_pos hdot, List.filter_cons_of_neg (by simpa using hdot)]
    · rw [if_neg hdot, if_neg hup, List.filter_cons_of_pos (by simpa using hdot), List.append_assoc]
      rfl

/-! ### Paths below a directory -/

/-- The path begins where it is used and never leads up. -/
structure Inward (path : String) : Prop where
  relative : Text.startsWith path "/" = false
  noUp : ".." ∉ (routeOf path).names

theorem IsPlain.inward (h : IsPlain name) : Inward name :=
  ⟨h.startsWith, by rw [h.names]; simpa using h.dots.symm⟩

theorem resolvePath_joinPath_of_inward (h : Inward path) (directory : String) :
    resolvePath (joinPath directory path) = resolvePath directory ++ onward (routeOf path).names := by
  unfold resolvePath
  rw [routeOf_joinPath_of_relative h.relative, List.foldl_append]
  exact foldl_walk h.noUp _

theorem noUp_joinPath {directory : String} (hdirectory : ".." ∉ (routeOf directory).names)
    (h : Inward path) : ".." ∉ (routeOf (joinPath directory path)).names := by
  rw [routeOf_joinPath_of_relative h.relative]
  exact fun hmem => (List.mem_append.mp hmem).elim hdirectory h.noUp

/-! ### Texts of routes -/

theorem names_intercalate (h : ∀ name ∈ names, IsName name) :
    (routeOf (String.intercalate "/" names)).names = names := by
  induction names with
  | nil => rfl
  | cons first rest ih =>
    obtain ⟨hfirst, hrest⟩ := List.forall_mem_cons.mp h
    cases rest with
    | nil => rw [String.intercalate_singleton, hfirst.names_eq]
    | cons second rest => rw [String.intercalate_cons_cons, names_append, hfirst.names_eq, ih hrest, List.singleton_append]

theorem startsWith_intercalate (h : ∀ name ∈ names, IsName name) :
    Text.startsWith (String.intercalate "/" names) "/" = false := by
  cases names with
  | nil => rfl
  | cons first rest =>
    have hfirst := h first List.mem_cons_self
    have hnone : Text.startsWith first "/" = false := by
      rw [← Bool.not_eq_true, Text.startsWith_iff]
      exact fun hfront => hfirst.slash (hfront.subset (by simp))
    cases rest with
    | nil => rw [String.intercalate_singleton, hnone]
    | cons second rest =>
      rw [String.intercalate_cons_cons, String.append_assoc, startsWith_append hfirst.empty, hnone]

/-- The text of a route leads along its names. -/
theorem routeOf_text (h : ∀ name ∈ route.names, IsName name) : routeOf route.text = route := by
  obtain ⟨fromRoot, names⟩ := route
  cases fromRoot with
  | false =>
    show routeOf ("" ++ String.intercalate "/" names) = _
    rw [String.empty_append]
    exact congrArg₂ Route.mk (startsWith_intercalate h) (names_intercalate h)
  | true =>
    show routeOf ("/" ++ String.intercalate "/" names) = _
    refine congrArg₂ Route.mk (startsWith_append (by decide) _) ?_
    have happend := names_append "" (String.intercalate "/" names)
    rw [String.empty_append, names_intercalate h] at happend
    exact happend

theorem toList_names (path : String) :
    (routeOf path).names.map String.toList =
      (Text.splitChars '/' path.toList).filter fun part => !part.isEmpty := by
  have hempty : (fun text : String => !text.isEmpty) ∘ String.ofList = fun part => !part.isEmpty := by
    funext part
    cases part <;> simp
  have hid : String.toList ∘ String.ofList = id := funext fun _ => String.toList_ofList
  rw [routeOf, Text.split, List.filter_map, hempty, List.map_map, hid, List.map_id]

/-- A part of a route has no longer a text than the path that the route was read from. -/
theorem size_text_le (h : names.Sublist (routeOf path).names) :
    (Route.text ⟨(routeOf path).fromRoot, names⟩).utf8ByteSize ≤ path.utf8ByteSize := by
  refine Text.size_le_of_sublist ?_
  have hparts := h.map String.toList
  rw [toList_names] at hparts
  have htext : ∀ start : String, (start ++ String.intercalate "/" names).toList =
      start.toList ++ ['/'].intercalate (names.map String.toList) := by
    intro start
    rw [String.toList_append, String.toList_intercalate]
    rfl
  unfold Route.text
  by_cases hroot : (routeOf path).fromRoot = true
  · -- The part before the slash at the beginning is empty, so it is no name.
    obtain ⟨rest, hrest⟩ := Text.startsWith_iff.mp hroot
    have hpath : '/' :: rest = path.toList := hrest
    rw [← hpath, Text.splitChars, if_pos rfl, List.filter_cons_of_neg (by simp)] at hparts
    rw [if_pos hroot, htext, ← hpath]
    have hsub := Text.sublist_intercalate ['/'] (hparts.trans List.filter_sublist)
    rw [Text.intercalate_splitChars] at hsub
    exact hsub.cons_cons '/'
  · have hsub := Text.sublist_intercalate ['/'] (hparts.trans List.filter_sublist)
    rw [Text.intercalate_splitChars] at hsub
    rw [if_neg hroot, htext]
    exact hsub

end Files

end InteropGen
