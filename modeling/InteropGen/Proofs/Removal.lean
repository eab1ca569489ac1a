import InteropGen.Proofs.Words

/-!
# Removing a part of a text

Removing a part takes away its occurrences from left to right. Each of them makes the text shorter by the part
(`length_removed_add_le`). If the first character of the part stands nowhere else in it, then occurrences do not
overlap, and the one behind a front is found there: what is in front of it stays unless the part occurs there as well
(`removed_append`), and then more than this one is gone (`length_removed_append`).
-/

namespace InteropGen.Text

variable {part chars front rest : List Char} {c : Char}

/-- The characters without a part. -/
def removed (part chars : List Char) : List Char :=
  replaceHits (fun _ chars => part.isPrefixOf chars) part.length [] none 0 chars

theorem toList_replace_empty (text part : String) : (replace text part "").toList = removed part.toList text.toList :=
  String.toList_ofList

/-- What stands before a position is of no matter. -/
theorem replaceHits_before (part value : List Char) (before before' : Option Char) (skip : Nat) (chars : List Char) :
    replaceHits (fun _ chars => part.isPrefixOf chars) part.length value before skip chars =
      replaceHits (fun _ chars => part.isPrefixOf chars) part.length value before' skip chars := by
  cases chars with
  | nil => rfl
  | cons c rest =>
    cases skip with
    | zero => rfl
    | succ skip => rfl

/-- An occurrence at the beginning is taken away. -/
theorem removed_part (h : part ≠ []) (rest : List Char) : removed part (part ++ rest) = removed part rest := by
  have hhit : part.isPrefixOf (part ++ rest) = true := List.isPrefixOf_iff_prefix.mpr (List.prefix_append part rest)
  have hremoved : removed part (part ++ rest) =
      replaceHits (fun _ chars => part.isPrefixOf chars) part.length [] (part.getLast?.or none) 0 rest :=
    @replaceHits_hit part (fun _ chars => part.isPrefixOf chars) [] none rest h hhit
  exact hremoved.trans (replaceHits_before part [] _ none 0 rest)

theorem removed_cons (h : ¬part <+: c :: rest) : removed part (c :: rest) = c :: removed part rest := by
  unfold removed
  rw [replaceHits_miss (by rwa [List.isPrefixOf_iff_prefix])]
  exact congrArg (c :: ·) (replaceHits_before part [] _ none 0 rest)

theorem length_replaceHits_le (hit : Option Char → List Char → Bool) {width : Nat} (hwidth : width ≠ 0)
    (before : Option Char) (skip : Nat) (chars : List Char) :
    (replaceHits hit width [] before skip chars).length ≤ chars.length := by
  induction chars generalizing before skip with
  | nil => simp [replaceHits, hwidth]
  | cons c rest ih =>
    cases skip with
    | succ skip => exact Nat.le_succ_of_le (ih (some c) skip)
    | zero =>
      rw [replaceHits]
      split
      · exact Nat.le_succ_of_le (ih (some c) (width - 1))
      · exact Nat.succ_le_succ (ih _ _)

theorem length_removed_le (hpart : part ≠ []) (chars : List Char) : (removed part chars).length ≤ chars.length :=
  length_replaceHits_le _ (by simpa using hpart) _ _ chars

/-- Characters in which the part occurs become shorter by the part at least. -/
theorem length_removed_add_le (hpart : part ≠ []) (h : part <:+: chars) :
    (removed part chars).length + part.length ≤ chars.length := by
  induction chars with
  | nil => exact absurd (List.infix_nil.mp h) hpart
  | cons c rest ih =>
    by_cases hprefix : part <+: c :: rest
    · obtain ⟨others, hothers⟩ := hprefix
      rw [← hothers, removed_part hpart, List.length_append]
      have hle := length_removed_le hpart others
      omega
    · have hrest := ih ((List.infix_cons_iff.mp h).resolve_left hprefix)
      rw [removed_cons hprefix, List.length_cons, List.length_cons]
      omega

/-! ### Parts whose occurrences do not overlap -/

variable {first : Char} {tail : List Char}

/-- No occurrence begins before another one and reaches into it. -/
theorem not_prefix_of_once (hfirst : first ∉ tail) (hne : front ≠ []) (h : ¬first :: tail <+: front)
    (rest : List Char) : ¬first :: tail <+: front ++ (first :: tail ++ rest) := by
  intro hprefix
  rcases List.prefix_or_prefix_of_prefix hprefix (List.prefix_append front _) with hpart | ⟨more, hmore⟩
  · exact h hpart
  · -- the part goes on behind the front, with its first character in its own middle
    obtain ⟨c, others, rfl⟩ := List.exists_cons_of_ne_nil hne
    obtain ⟨hc, htail⟩ := List.cons.inj hmore
    rw [← hmore] at hprefix
    cases more with
    | nil =>
      rw [List.append_nil] at hmore
      exact h (hmore ▸ List.prefix_refl _)
    | cons d more =>
      obtain ⟨hd, -⟩ := List.cons_prefix_cons.mp ((List.prefix_append_right_inj _).mp hprefix)
      exact hfirst (htail ▸ List.mem_append_right _ (List.mem_cons.mpr (.inl (hd.trans hc).symm)))

/-- A front without the part stays. -/
theorem removed_append (hfirst : first ∉ tail) (h : ¬first :: tail <:+: front) (rest : List Char) :
    removed (first :: tail) (front ++ (first :: tail ++ rest)) = front ++ removed (first :: tail) rest := by
  induction front with
  | nil => exact removed_part (List.cons_ne_nil _ _) rest
  | cons c front ih =>
    have hno : ¬first :: tail <+: c :: (front ++ (first :: tail ++ rest)) :=
      not_prefix_of_once hfirst (List.cons_ne_nil c front) (fun hprefix => h hprefix.isInfix) rest
    rw [List.cons_append, removed_cons hno, ih fun hinfix => h (List.infix_cons hinfix), List.cons_append]

/-- With a part in front of another one both are taken away. -/
theorem length_removed_append (hfirst : first ∉ tail) (h : first :: tail <:+: front) (rest : List Char) :
    (removed (first :: tail) (front ++ (first :: tail ++ rest))).length + (first :: tail).length ≤
      front.length + rest.length := by
  have hne : first :: tail ≠ [] := List.cons_ne_nil _ _
  induction front with
  | nil => exact absurd (List.infix_nil.mp h) hne
  | cons c front ih =>
    by_cases hprefix : first :: tail <+: c :: front
    · obtain ⟨back, hback⟩ := hprefix
      have hshorter := length_removed_add_le hne
        (List.infix_append back (first :: tail) rest)
      rw [← hback, List.append_assoc, removed_part hne, List.length_append]
      rw [List.append_assoc, List.length_append, List.length_append] at hshorter
      omega
    · have hno : ¬first :: tail <+: c :: (front ++ (first :: tail ++ rest)) :=
        not_prefix_of_once hfirst (List.cons_ne_nil c front) hprefix rest
      have hfront := ih ((List.infix_cons_iff.mp h).resolve_left hprefix)
      rw [List.cons_append, removed_cons hno, List.length_cons, @List.length_cons _ c]
      omega

end InteropGen.Text
