import InteropGen.Proofs.Entries
import InteropGen.Proofs.Spelling

/-!
# Which spellings have a view

A spelling is the handle or the name of an open entry with stars after it (`Spells.exists_leaf`). A view is
written for a spelling with exactly one star at its end (`viewName?_some`). So the view of a type is named
for an open entry, unless the name of an entry or the handle has a star of its own.
-/

namespace InteropGen

namespace Text

/-- So many stars. -/
def stars : Nat → String
  | 0 => ""
  | n + 1 => stars n ++ "*"

variable {text leaf base : String} {n : Nat}

/-- A text without a star at its end has none to strip. -/
theorem stripEnd_star (h : ¬ (stripEnd (text ++ "*") '*').length < text.length) :
    stripEnd (text ++ "*") '*' = text ∧ endsWith text "*" = false := by
  let kept : List Char := text.toList.reverse.dropWhile (· == '*')
  have hstrip : (stripEnd (text ++ "*") '*').toList = kept.reverse := by
    simp [stripEnd, dropEndWhile, kept]
  have hlength : text.toList.reverse.length ≤ kept.length := by
    rw [← String.length_toList, ← String.length_toList, hstrip, List.length_reverse] at h
    rw [List.length_reverse]
    omega
  have hkept : kept = text.toList.reverse :=
    (List.dropWhile_suffix _).eq_of_length ((List.dropWhile_suffix _).length_le.antisymm hlength)
  refine ⟨?_, ?_⟩
  · rw [← String.toList_inj, hstrip, hkept, List.reverse_reverse]
  · rw [← Bool.not_eq_true, endsWith_iff]
    rintro ⟨front, hfront⟩
    have hreverse : text.toList.reverse = '*' :: front.reverse := by
      rw [← hfront]
      simp
    have hshort : kept.length ≤ front.length := by
      show (text.toList.reverse.dropWhile (· == '*')).length ≤ front.length
      rw [hreverse, List.dropWhile_cons_of_pos (by simp)]
      simpa using (List.dropWhile_suffix (l := front.reverse) (· == '*')).length_le
    rw [hkept, hreverse, List.length_cons, List.length_reverse] at hshort
    omega

/-- What ends in no star and has stars after it is as it was. -/
theorem eq_of_append_stars (hbase : endsWith base "*" = false) (h : leaf ++ stars n = base) :
    leaf = base := by
  cases n with
  | zero => simpa [stars] using h
  | succ n =>
    have hends : endsWith base "*" = true := by
      rw [endsWith_iff, ← h, stars, ← String.append_assoc, String.toList_append]
      exact List.suffix_append _ _
    rw [hbase] at hends
    simp at hends

/-- A text with stars after it is another one with a single star: the star is its own or not. -/
theorem eq_of_append_stars_star (hbase : endsWith base "*" = false)
    (h : leaf ++ stars n = base ++ "*") : leaf = base ∨ leaf = base ++ "*" := by
  cases n with
  | zero => exact .inr (by simpa [stars] using h)
  | succ n =>
    rw [stars, ← String.append_assoc, String.append_left_inj] at h
    exact .inl (eq_of_append_stars hbase h)

end Text

namespace Arena

variable {a : Arena} {id : TypeId} {text : String}

/-- The name of an open entry. -/
def HasLeaf (a : Arena) (leaf : String) : Prop :=
  ∃ id, a.get? id = some (.named leaf false) ∨ a.get? id = some (.forward leaf none)

/-- A spelling is the handle, or the name of an open entry with stars after it. -/
theorem Spells.exists_leaf (h : a.Spells id text) :
    text = a.handle ∨ ∃ leaf n, a.HasLeaf leaf ∧ text = leaf ++ Text.stars n := by
  obtain ⟨fuel, hfuel⟩ := h
  induction fuel generalizing id text with
  | zero => simp [spellWithin] at hfuel
  | succ fuel ih =>
    have hplain : ∀ leaf, leaf = leaf ++ Text.stars 0 := fun leaf => by simp [Text.stars]
    rw [spellWithin] at hfuel
    rcases hget : a.get? id with _ | ⟨name, _ | _⟩ | target | ⟨name, _ | target⟩ <;> rw [hget] at hfuel
    · simp at hfuel
    · obtain rfl : name = text := Option.some.inj hfuel
      exact .inr ⟨name, 0, ⟨id, .inl hget⟩, hplain name⟩
    · exact .inl (Option.some.inj hfuel).symm
    · obtain ⟨inner, hinner, rfl⟩ := Option.map_eq_some_iff.mp hfuel
      rcases ih hinner with rfl | ⟨leaf, n, hleaf, rfl⟩
      · exact .inl a.star_handle
      · by_cases hhandle : leaf ++ Text.stars n = a.handle
        · exact .inl (by rw [star, if_pos hhandle])
        · exact .inr ⟨leaf, n + 1, hleaf, by rw [star, if_neg hhandle, Text.stars, String.append_assoc]⟩
    · obtain rfl : name = text := Option.some.inj hfuel
      exact .inr ⟨name, 0, ⟨id, .inr hget⟩, hplain name⟩
    · exact ih hfuel

end Arena

namespace Symbols

variable {s : Symbols} {spelled base view : String} {id : TypeId}

/-- A view is written for a spelling with one star, of a name that no enum has. -/
theorem viewName?_some (h : s.viewName? spelled = some view) :
    ∃ base, spelled = base ++ "*" ∧ view = base ++ s.settings.viewSuffix ∧
      Text.endsWith base "*" = false ∧ s.enums.contains base = false := by
  unfold viewName? at h
  simp only [Option.ite_none_left_eq_some] at h
  obtain ⟨hmarks, -, hlength, henums, -, -, hview⟩ := h
  obtain ⟨-, hends⟩ : Text.startsWith spelled s.settings.wrapMark = true ∧
      Text.endsWith spelled "*" = true := by simpa using hmarks
  obtain rfl := Option.some.inj hview
  have hspelled := Text.dropLast_append hends
  generalize Text.dropLast spelled _ = base at hspelled
  subst hspelled
  obtain ⟨hbase, hstar⟩ : Text.stripEnd (base ++ "*") '*' = base ∧ Text.endsWith base "*" = false :=
    Text.stripEnd_star (by
      have hstar : (base ++ "*").length = base.length + 1 := String.length_append _ _
      omega)
  rw [hbase] at henums ⊢
  exact ⟨base, rfl, rfl, hstar, by simpa using henums⟩

/-- A type that is spelled with one star ends in an entry of the name without it, or the star is not its own. -/
theorem leaf_of_spelled_star (hs : s.Sound) (hbase : Text.endsWith base "*" = false)
    (h : s.spellId id = .ok (base ++ "*")) :
    s.arena.HasLeaf base ∨ s.arena.HasLeaf (base ++ "*") ∨ s.settings.handle = base ++ "*" := by
  rcases (spellId_eq_ok_iff.mp h).exists_leaf with hhandle | ⟨leaf, n, hleaf, heq⟩
  · rw [hs.handle] at hhandle
    exact .inr (.inr hhandle.symm)
  · rcases Text.eq_of_append_stars_star hbase heq.symm with rfl | rfl
    · exact .inl hleaf
    · exact .inr (.inl hleaf)

/-- A type that is spelled without a star at its end ends in an entry of that name, or is the handle. -/
theorem leaf_of_spelled (hs : s.Sound) (hbase : Text.endsWith base "*" = false)
    (h : s.spellId id = .ok base) : s.arena.HasLeaf base ∨ s.settings.handle = base := by
  rcases (spellId_eq_ok_iff.mp h).exists_leaf with hhandle | ⟨leaf, n, hleaf, heq⟩
  · rw [hs.handle] at hhandle
    exact .inr hhandle.symm
  · exact .inl (Text.eq_of_append_stars hbase heq.symm ▸ hleaf)

end Symbols

end InteropGen
