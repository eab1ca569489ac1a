import InteropGen.Proofs.Bodies

/-!
# Calls on a builder

Code is laid out by calls on a builder: a line, the opening and the closing of a block. Calls in which every block that
is opened is closed again (`Matched`) add the same lines at every depth, only further to the right, and end at the depth
at which they begin (`Matched.perform_eq`). None of them closes a block where none is open, so that a builder that
refuses to (`Call.perform?`) does just the same (`Matched.performAll?_eq`).
-/

namespace InteropGen.Code

/-- A call on a builder. -/
inductive Call
  | line (text : String)
  | push
  | pop
  deriving DecidableEq, Repr

/-- The builder after a call. -/
def Call.perform : Call → Builder → Builder
  | .line text, b => b.line text
  | .push, b => b.pushBlock
  | .pop, b => b.popBlock

/-- The builder after calls. -/
def performAll (calls : List Call) (b : Builder) : Builder := calls.foldl (fun b call => call.perform b) b

/-- The builder after a call, unless the call closes a block where none is open. -/
def Call.perform? (call : Call) (b : Builder) : Option Builder :=
  if call = .pop ∧ b.depth = 0 then none else some (call.perform b)

/-- The builder after calls of which none closes a block where none is open. -/
def performAll? (calls : List Call) (b : Builder) : Option Builder := calls.foldlM (fun b call => call.perform? b) b

/-- Every block that is opened is closed again, after calls of which the same holds. -/
inductive Matched : List Call → Prop
  | nil : Matched []
  | line (text : String) {rest : List Call} (h : Matched rest) : Matched (.line text :: rest)
  | block {inner rest : List Call} (hinner : Matched inner) (h : Matched rest) :
      Matched (.push :: (inner ++ .pop :: rest))

variable {made made' : List Call}

theorem Matched.append (h : Matched made) (h' : Matched made') : Matched (made ++ made') := by
  induction h with
  | nil => exact h'
  | line text _ ih => exact .line text ih
  | block hinner _ _ ih =>
    rw [List.cons_append, List.append_assoc, List.cons_append]
    exact .block hinner ih

theorem matched_block (h : Matched made) : Matched (.push :: (made ++ [.pop])) := .block h .nil

theorem matched_line (text : String) : Matched [.line text] := .line text .nil

/-- What is opened is closed by its own closing: between the two everything else is closed too. -/
theorem Matched.exists_closing (h : Matched made) {before after : List Call}
    (hopen : made = before ++ .push :: after) : ∃ inner rest, after = inner ++ .pop :: rest ∧ Matched inner := by
  induction h generalizing before after with
  | nil => simp at hopen
  | line text _ ih =>
    cases before with
    | nil => simp at hopen
    | cons _ before => exact ih (List.cons.inj hopen).2
  | @block inner rest hinner _ ihInner ihRest =>
    cases before with
    | nil => exact ⟨inner, rest, (List.cons.inj hopen).2.symm, hinner⟩
    | cons _ before =>
      rcases List.append_eq_append_iff.mp (List.cons.inj hopen).2 with ⟨back, hbefore, hback⟩ | ⟨back, hinner', hback⟩
      · rcases List.cons_eq_append_iff.mp hback with ⟨rfl, hcall⟩ | ⟨back, rfl, hrest⟩
        · cases hcall
        · exact ihRest hrest
      · rcases List.cons_eq_append_iff.mp hback with ⟨rfl, hcall⟩ | ⟨back, rfl, hafter⟩
        · cases hcall
        · obtain ⟨inner', rest', rfl, hmatched⟩ := ihInner hinner'
          exact ⟨inner', rest' ++ .pop :: rest, by rw [hafter, List.append_assoc, List.cons_append], hmatched⟩

/-! ### Lines that calls add -/

theorem performAll_append (made made' : List Call) (b : Builder) :
    performAll (made ++ made') b = performAll made' (performAll made b) :=
  List.foldl_append

theorem performAll?_append (made made' : List Call) (b : Builder) :
    performAll? (made ++ made') b = (performAll? made b).bind (performAll? made') :=
  List.foldlM_append

/-- A builder that refuses nothing is the one that could have refused. -/
theorem performAll_of_performAll? {b b' : Builder} (h : performAll? made b = some b') : performAll made b = b' := by
  induction made generalizing b with
  | nil => exact Option.some.inj h
  | cons call made ih =>
    obtain ⟨middle, hcall, hrest⟩ := Option.bind_eq_some_iff.mp h
    dsimp only [Call.perform?] at hcall
    split at hcall
    · cases hcall
    · obtain rfl := Option.some.inj hcall
      exact ih hrest

theorem placed_of_ne {text : String} (h : text ≠ "") (depth : Nat) :
    placed depth text = Builder.margin depth ++ text :=
  if_neg (by simpa using h)

theorem placed_placed (depth inner : Nat) (text : String) :
    placed depth (placed inner text) = placed (depth + inner) text := by
  rcases eq_or_ne text "" with rfl | hne
  · rfl
  · have hmargin : Builder.margin inner ++ text ≠ "" := fun h => hne (String.append_eq_empty_iff.mp h).2
    have hmargins : Builder.margin depth ++ Builder.margin inner = Builder.margin (depth + inner) := by
      rw [← String.toList_inj]
      simp only [Builder.margin, String.toList_append, String.toList_ofList, List.replicate_append_replicate]
      rw [Nat.mul_add]
    rw [placed_of_ne hne, placed_of_ne hmargin, placed_of_ne hne, ← String.append_assoc, hmargins]

/-- Adds texts at depths that are counted from the one of the builder. -/
def addRows (b : Builder) (rows : List (Nat × String)) : Builder :=
  { b with lines := b.lines ++ (rows.map fun row => placed (b.depth + row.1) row.2).toArray }

theorem addRows_append (b : Builder) (rows rows' : List (Nat × String)) :
    addRows b (rows ++ rows') = addRows (addRows b rows) rows' := by
  simp [addRows]

/-- Calls that are matched add rows that do not depend on the builder. -/
theorem Matched.exists_rows (h : Matched made) : ∃ rows, ∀ b, performAll? made b = some (addRows b rows) := by
  have hline : ∀ (b : Builder) (text : String), b.line text = addRows b [(0, text)] := fun b text => by
    simp [Builder.line, addRows, placed]
  induction h with
  | nil => exact ⟨[], fun b => by simp [addRows, performAll?]⟩
  | @line text rest _ ih =>
    obtain ⟨rows, hrows⟩ := ih
    refine ⟨(0, text) :: rows, fun b => ?_⟩
    show performAll? rest (b.line text) = _
    rw [hrows, hline, ← addRows_append]
    rfl
  | @block inner rest _ _ ihInner ihRest =>
    obtain ⟨rows, hrows⟩ := ihInner
    obtain ⟨rows', hrows'⟩ := ihRest
    refine ⟨(0, "\x7b") :: (rows.map fun row => (row.1 + 1, row.2)) ++ (0, "\x7d") :: rows', fun b => ?_⟩
    have hinner : addRows (b.line "\x7b").indent rows =
        { addRows (b.line "\x7b") (rows.map fun row => (row.1 + 1, row.2)) with depth := b.depth + 1 } := by
      simp [addRows, Builder.indent, Nat.add_assoc, Nat.add_comm 1, Function.comp_def]
    show performAll? (inner ++ .pop :: rest) (b.line "\x7b").indent = _
    rw [performAll?_append, hrows, hinner]
    show performAll? rest ((addRows (b.line "\x7b") (rows.map fun row => (row.1 + 1, row.2))).line "\x7d") = _
    rw [hrows', hline, hline, ← addRows_append, ← addRows_append, ← addRows_append]
    rfl

/-- The lines that matched calls add are those that they add at the left, moved to the right, and the depth stays. -/
theorem Matched.perform_eq (h : Matched made) (b : Builder) :
    performAll made b =
      { lines := b.lines ++ (performAll made {}).lines.map (placed b.depth), depth := b.depth } := by
  obtain ⟨rows, hrows⟩ := h.exists_rows
  rw [performAll_of_performAll? (hrows b), performAll_of_performAll? (hrows {})]
  simp [addRows, Function.comp_def, placed_placed]

/-- Matched calls close nothing that they have not opened. -/
theorem Matched.performAll?_eq (h : Matched made) (b : Builder) : performAll? made b = some (performAll made b) := by
  obtain ⟨rows, hrows⟩ := h.exists_rows
  rw [hrows, performAll_of_performAll? (hrows b)]

/--
The calls add the same lines wherever they are made, only further to the right; the builder ends at the depth at which
it begins, and no block is closed that is not open. A block that is opened is closed by the calls themselves, at the
margin at which it is opened, and what stands between is one level deeper.
-/
structure Nests (made : List Call) : Prop where
  lines_eq : ∀ b : Builder, performAll made b =
    { lines := b.lines ++ (performAll made {}).lines.map (placed b.depth), depth := b.depth }
  unrefused : ∀ b : Builder, performAll? made b = some (performAll made b)
  closed : ∀ before after, made = before ++ .push :: after → ∃ inner rest, after = inner ++ .pop :: rest ∧
    Matched inner ∧ ∀ b : Builder, performAll (.push :: (inner ++ [.pop])) b =
      { lines := b.lines ++ #[placed b.depth "\x7b"] ++ (performAll inner {}).lines.map (placed (b.depth + 1)) ++
          #[placed b.depth "\x7d"]
        depth := b.depth }

theorem perform_block {inner : List Call} (h : Matched inner) (b : Builder) :
    performAll (.push :: (inner ++ [.pop])) b =
      { lines := b.lines ++ #[placed b.depth "\x7b"] ++ (performAll inner {}).lines.map (placed (b.depth + 1)) ++
          #[placed b.depth "\x7d"]
        depth := b.depth } := by
  show performAll (inner ++ [.pop]) (b.line "\x7b").indent = _
  rw [performAll_append, h.perform_eq]
  simp [performAll, Call.perform, Builder.popBlock, Builder.line, Builder.indent, Builder.dedent, placed]

theorem Matched.nests {made : List Call} (h : Matched made) : Nests made where
  lines_eq := h.perform_eq
  unrefused := h.performAll?_eq
  closed := fun _ _ hopen => by
    obtain ⟨inner, rest, hafter, hinner⟩ := h.exists_closing hopen
    exact ⟨inner, rest, hafter, hinner, perform_block hinner⟩

/-! ### Calls that lay code out -/

mutual

/-- The calls that lay code out. -/
def calls : Code → List Call
  | line text => [.line text]
  | block header body =>
    (if header.isEmpty then [] else [.line header]) ++ .push :: (callsOf body ++ [.pop])

/-- The calls that lay pieces of code out one below the other. -/
def callsOf : List Code → List Call
  | [] => []
  | code :: rest => calls code ++ callsOf rest

end

theorem callsOf_append (code code' : List Code) : callsOf (code ++ code') = callsOf code ++ callsOf code' := by
  induction code with
  | nil => rfl
  | cons first rest ih => rw [List.cons_append, callsOf, callsOf, ih, List.append_assoc]

mutual

theorem performAll_calls (code : Code) (b : Builder) : performAll (calls code) b = emit code b := by
  cases code with
  | line text => rfl
  | block header body =>
    have hopen : performAll ((if header.isEmpty then [] else [.line header]) ++ [.push]) b = b.openBlock header := by
      unfold Builder.openBlock
      split <;> rfl
    have hcalls : calls (block header body) =
        ((if header.isEmpty then [] else [.line header]) ++ [.push]) ++ (callsOf body ++ [.pop]) := by
      simp [calls]
    rw [hcalls, performAll_append, hopen, performAll_append, performAll_callsOf body]
    rfl

theorem performAll_callsOf (code : List Code) (b : Builder) : performAll (callsOf code) b = emitAll code b := by
  cases code with
  | nil => rfl
  | cons first rest => rw [callsOf, performAll_append, performAll_calls first, performAll_callsOf rest, emitAll]

end

mutual

theorem matched_calls (code : Code) : Matched (calls code) := by
  cases code with
  | line text => exact matched_line text
  | block header body =>
    have hblock := matched_block (matched_callsOf body)
    rw [calls]
    split
    · exact hblock
    · exact .line header hblock

/-- Code is laid out by matched calls. -/
theorem matched_callsOf (code : List Code) : Matched (callsOf code) := by
  cases code with
  | nil => exact .nil
  | cons first rest => exact (matched_calls first).append (matched_callsOf rest)

end

end InteropGen.Code
