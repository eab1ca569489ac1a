import InteropGen.Proofs.Escaping
import InteropGen.Proofs.Recommenting
import InteropGen.Proofs.Writing

/-!
# Code with documentation

The code of a declaration is the code of the same declaration without comments, with documentation between its lines.
A `Row` is a line of code, a tag around documentation, or a line that carries the text of one comment. `Documents` says
that code differs from other code by rows that are not code, and which texts these carry; it passes from the parts of
code to the whole (`documents_decl`, `documents_fileText`). What a row with a text looks like in a file is said by
`map_isDocumentation_line` and `shown_line`.
-/

namespace InteropGen

variable {f g : Comments → Comments}

/-! ### The texts of comments -/

/-- The texts of comments in the order in which they are written. -/
def Comments.texts (comments : Comments) : List String := comments.preceding ++ comments.attached.toList

/-- The comments with every text replaced or left out. -/
def Comments.filterMap (p : String → Option String) (comments : Comments) : Comments where
  attached := comments.attached.bind p
  preceding := comments.preceding.filterMap p

theorem Comments.texts_filterMap (p : String → Option String) (comments : Comments) :
    (comments.filterMap p).texts = comments.texts.filterMap p := by
  have hattached : (comments.attached.bind p).toList = comments.attached.toList.filterMap p := by
    cases comments.attached with
    | none => rfl
    | some text => cases h : p text <;> simp [h]
  rw [texts, texts, List.filterMap_append, ← hattached]
  rfl

namespace Decl

mutual

/-- The declaration and all it holds with their comments replaced. -/
def recomment (f : Comments → Comments) : Decl → Decl
  | group form head members => group form (head.recomment f) (recommentAll f members)
  | enum e => enum (e.recomment f)
  | field d => field (d.recomment f)
  | constant c => constant (c.recomment f)
  | method m => method (m.recomment f)
  | delegate m => delegate (m.recomment f)
  | accessor a => accessor (a.recomment f)
  | wrapper w => wrapper (w.recomment f)
  | unplanned w => unplanned (w.recomment f)
  | element e => element (e.recomment f)
  | parameter p => parameter p

/-- Declarations with their comments replaced. -/
def recommentAll (f : Comments → Comments) : List Decl → List Decl
  | [] => []
  | d :: rest => recomment f d :: recommentAll f rest

end

mutual

/-- The texts of all comments of a declaration, in the order in which they are written. -/
def texts : Decl → List String
  | group _ head members => head.comments.texts ++ textsAll members
  | enum e => e.head.comments.texts ++ e.elements.flatMap fun element => element.head.comments.texts
  | field d => d.head.comments.texts
  | constant c => c.head.comments.texts
  | method m => m.head.comments.texts
  | delegate m => m.head.comments.texts
  | accessor a => a.head.comments.texts
  | wrapper w => w.head.comments.texts
  | unplanned w => w.head.comments.texts
  | element e => e.head.comments.texts
  | parameter _ => []

/-- The texts of all comments of declarations. -/
def textsAll : List Decl → List String
  | [] => []
  | d :: rest => texts d ++ textsAll rest

end

theorem recommentAll_eq_map (ds : List Decl) : recommentAll f ds = ds.map (recomment f) := by
  induction ds with
  | nil => rfl
  | cons d rest ih => rw [recommentAll, ih, List.map_cons]

theorem Enum.texts_recomment (p : String → Option String) (e : Enum) :
    (e.recomment (Comments.filterMap p)).elements.flatMap (fun element => element.head.comments.texts) =
      (e.elements.flatMap fun element => element.head.comments.texts).filterMap p := by
  show (e.elements.map _).flatMap _ = _
  rw [List.flatMap_map, List.filterMap_flatMap]
  exact List.flatMap_congr fun element _ => Comments.texts_filterMap p element.head.comments

mutual

/-- The texts of a declaration are replaced and left out one by one. -/
theorem texts_recomment (p : String → Option String) (d : Decl) :
    texts (recomment (Comments.filterMap p) d) = (texts d).filterMap p := by
  have hhead (head : Head) :
      (head.recomment (Comments.filterMap p)).comments.texts = head.comments.texts.filterMap p :=
    Comments.texts_filterMap p head.comments
  cases d with
  | group form head members =>
    rw [recomment, texts, texts, hhead, textsAll_recommentAll p members, List.filterMap_append]
  | enum e =>
    rw [recomment, texts, texts, List.filterMap_append, e.texts_recomment p]
    exact congrArg (· ++ _) (hhead e.head)
  | field d => cases d <;> exact hhead _
  | constant c => exact hhead c.head
  | method m => exact hhead m.head
  | delegate m => exact hhead m.head
  | accessor a => exact hhead a.head
  | wrapper w => exact hhead w.head
  | unplanned w => exact hhead w.head
  | element e => exact hhead e.head
  | parameter p => rfl

theorem textsAll_recommentAll (p : String → Option String) (ds : List Decl) :
    textsAll (recommentAll (Comments.filterMap p) ds) = (textsAll ds).filterMap p := by
  cases ds with
  | nil => rfl
  | cons d rest =>
    rw [recommentAll, textsAll, textsAll, texts_recomment p d, textsAll_recommentAll p rest, List.filterMap_append]

end

mutual

theorem recomment_recomment (d : Decl) : recomment g (recomment f d) = recomment (g ∘ f) d := by
  cases d with
  | group form head members =>
    rw [recomment, recomment, recomment, recommentAll_recommentAll members]
    rfl
  | enum e =>
    refine congrArg (fun elements => enum { e with head := e.head.recomment (g ∘ f), elements := elements }) ?_
    exact List.map_map
  | field d => cases d <;> rfl
  | constant | method | delegate | accessor | wrapper | unplanned | element | parameter => rfl

/-- Comments that are replaced twice. -/
theorem recommentAll_recommentAll (ds : List Decl) :
    recommentAll g (recommentAll f ds) = recommentAll (g ∘ f) ds := by
  cases ds with
  | nil => rfl
  | cons d rest => rw [recommentAll, recommentAll, recommentAll, recomment_recomment d, recommentAll_recommentAll rest]

end

/-- The comments without the markers of line comments. -/
def unmark : Comments → Comments := Comments.filterMap fun text => some (Identifier.uncomment text)

theorem Head.uncomment_eq (head : Head) : head.uncomment = head.recomment unmark := by
  have hpreceding : head.preceding.map Identifier.uncomment =
      head.preceding.filterMap fun text => some (Identifier.uncomment text) :=
    (congrFun List.filterMap_eq_map head.preceding).symm
  have hattached : head.attached.map Identifier.uncomment =
      head.attached.bind fun text => some (Identifier.uncomment text) :=
    Option.map_eq_bind
  rw [Head.uncomment, hattached, hpreceding]
  rfl

mutual

theorem uncomment_eq_recomment (d : Decl) : uncomment d = recomment unmark d := by
  cases d with
  | group form head members => rw [uncomment, recomment, head.uncomment_eq, uncommentAll_eq_recommentAll members]
  | enum e =>
    have helements : (e.elements.map fun element => { element with head := element.head.uncomment }) =
        e.elements.map (Element.recomment unmark) :=
      List.map_congr_left fun element _ => congrArg (Element.mk · element.value) element.head.uncomment_eq
    rw [uncomment, helements, e.head.uncomment_eq]
    rfl
  | field d =>
    cases d with
    | single head type => exact congrArg _ (congrArg (Field.single · type) head.uncomment_eq)
    | buffer head type size => exact congrArg _ (congrArg (Field.buffer · type size) head.uncomment_eq)
  | constant c => exact congrArg _ (congrArg (Constant.mk · _ _) c.head.uncomment_eq)
  | method m => exact congrArg _ (congrArg (Method.mk · _ _) m.head.uncomment_eq)
  | delegate m => exact congrArg _ (congrArg (Method.mk · _ _) m.head.uncomment_eq)
  | accessor a => exact congrArg _ (congrArg (Accessor.mk · _) a.head.uncomment_eq)
  | wrapper w => exact congrArg _ (congrArg (Wrapper.mk · _ _ _ _ _) w.head.uncomment_eq)
  | unplanned w => exact congrArg _ (congrArg (Method.mk · _ _) w.head.uncomment_eq)
  | element e => exact congrArg _ (congrArg (Element.mk · _) e.head.uncomment_eq)
  | parameter p => rfl

/-- Taking the markers away replaces comments. -/
theorem uncommentAll_eq_recommentAll (ds : List Decl) : uncommentAll ds = recommentAll unmark ds := by
  cases ds with
  | nil => rfl
  | cons d rest => rw [uncommentAll, recommentAll, uncomment_eq_recomment d, uncommentAll_eq_recommentAll rest]

end

mutual

theorem dropStems_recomment (d : Decl) : dropStems (recomment f d) = recomment f (dropStems d) := by
  cases d with
  | group form head members => rw [recomment, dropStems, dropStems, recomment, dropStemsAll_recommentAll members]
  | enum e =>
    refine congrArg (fun elements => enum { e with head := e.head.recomment f, elements := elements }) ?_
    show (e.elements.map (Element.recomment f)).map _ = (e.elements.map _).map (Element.recomment f)
    rw [List.map_map, List.map_map]
    rfl
  | field | constant | method | delegate | accessor | wrapper | unplanned | element | parameter => rfl

/-- Names lose their stems whatever the comments are. -/
theorem dropStemsAll_recommentAll (ds : List Decl) :
    dropStemsAll (recommentAll f ds) = recommentAll f (dropStemsAll ds) := by
  cases ds with
  | nil => rfl
  | cons d rest =>
    rw [recommentAll, dropStemsAll, dropStemsAll, recommentAll, dropStems_recomment d, dropStemsAll_recommentAll rest]

end

mutual

theorem texts_dropStems (d : Decl) : texts (dropStems d) = texts d := by
  cases d with
  | group form head members => rw [dropStems, texts, texts, textsAll_dropStemsAll members]
  | enum e =>
    refine congrArg (e.head.comments.texts ++ ·) ?_
    show (e.elements.map _).flatMap _ = _
    rw [List.flatMap_map]
    rfl
  | field | constant | method | delegate | accessor | wrapper | unplanned | element | parameter => rfl

theorem textsAll_dropStemsAll (ds : List Decl) : textsAll (dropStemsAll ds) = textsAll ds := by
  cases ds with
  | nil => rfl
  | cons d rest => rw [dropStemsAll, textsAll, textsAll, texts_dropStems d, textsAll_dropStemsAll rest]

end

end Decl

/-! ### Rows -/

namespace Render

open Decl Build Code Generate

/-- How the text of a comment stands in documentation: as a paragraph, or by itself. -/
inductive Style
  | paragraph
  | plain
  deriving DecidableEq, Repr

/-- What stands before the text. -/
def Style.opening : Style → String
  | paragraph => "/// <para>"
  | plain => "/// "

/-- What stands behind the text. -/
def Style.closing : Style → String
  | paragraph => "</para>"
  | plain => ""

/-- A line of code, the begin or the end of a summary, or the text of a comment. -/
inductive Row
  | code (line : String)
  | summary (depth : Nat) (ends : Bool)
  | comment (depth : Nat) (style : Style) (text : String)
  deriving DecidableEq, Repr

namespace Row

/-- The line that is written. -/
def line : Row → String
  | code line => line
  | summary depth ends => placed depth (if ends then "/// </summary>" else "/// <summary>")
  | comment depth style text => placed depth (style.opening ++ Text.escapeXml text ++ style.closing)

/-- Is it a line of code? -/
def isCode : Row → Bool
  | code _ => true
  | _ => false

/-- The text that is carried. -/
def comment? : Row → Option String
  | comment _ _ text => some text
  | _ => none

theorem isCode_of_comment? {row : Row} {text : String} (h : row.comment? = some text) : row.isCode = false := by
  cases row with
  | code line => cases h
  | summary | comment => rfl

/-- The text that a line carries in its documentation, as it can be read off the line. -/
def shown (style : Style) (line : String) : String :=
  Text.unescapeXml <|
    Text.dropLast (Text.dropFirst (Text.stripStart line ' ') style.opening.length) style.closing.length

/-- The text of a file with these rows. -/
def text (rows : List Row) : String := String.intercalate "\n" (rows.map line) ++ "\n"

/-- Text behind a mark, on a line. -/
theorem placed_append {opening : String} (h : opening ≠ "") (depth : Nat) (text : String) :
    placed depth (opening ++ text) = Builder.margin depth ++ opening ++ text := by
  have hempty : (opening ++ text).isEmpty = false := by
    rw [← Bool.not_eq_true, String.isEmpty_iff, String.append_eq_empty_iff]
    exact fun hboth => h hboth.1
  rw [placed, hempty, if_neg (by decide), String.append_assoc]

theorem opening_ne (style : Style) : style.opening ≠ "" := by cases style <;> decide

/-- The text of a comment is read off its line. -/
theorem shown_line (depth : Nat) (style : Style) (text : String) :
    shown style (line (comment depth style text)) = text := by
  have hstrip : (Text.stripStart (line (comment depth style text)) ' ').toList =
      style.opening.toList ++ ((Text.escapeXml text).toList ++ style.closing.toList) := by
    have hblanks : ∀ c ∈ List.replicate (4 * depth) ' ', (c == ' ') = true := fun c hc => by
      simp [List.eq_of_mem_replicate hc]
    rw [line, String.append_assoc, placed_append (opening_ne style), Text.stripStart, Builder.margin]
    simp only [String.toList_append, String.toList_ofList, List.append_assoc]
    rw [List.dropWhile_append_of_pos hblanks]
    cases style <;> rfl
  have hinner : Text.dropLast (Text.dropFirst (Text.stripStart (line (comment depth style text)) ' ')
      style.opening.length) style.closing.length = Text.escapeXml text := by
    rw [← String.toList_inj, Text.toList_dropLast, Text.toList_dropFirst, hstrip]
    simp [← String.length_toList]
  rw [shown, hinner, Text.unescapeXml_escapeXml]

/-- The physical lines of text behind a mark of documentation. -/
theorem map_isDocumentation_placed {opening closing : String} (hopening : '\n' ∉ opening.toList)
    (hclosing : '\n' ∉ closing.toList) (hmark : "///".toList <+: opening.toList)
    (hback : ∀ c ∈ closing.toList.head?, c ≠ ' ' ∧ c ≠ '/') (depth : Nat) (text : String) :
    (Text.physicalLines (placed depth (opening ++ Text.escapeXml text ++ closing))).map Text.isDocumentation =
      true :: (Text.physicalLines text).tail.map Text.isDocumentation := by
  obtain ⟨front, hfront⟩ := hmark
  have hne : opening ≠ "" := by
    rintro rfl
    cases hfront
  have hmargin : (Builder.margin depth ++ opening).toList = List.replicate (4 * depth) ' ' ++ opening.toList := by
    rw [String.toList_append, Builder.margin, String.toList_ofList]
  rw [String.append_assoc, placed_append hne, ← String.append_assoc]
  refine Text.map_isDocumentation ?_ hclosing (fun rest => ?_) hback text
  · rw [hmargin, List.mem_append]
    exact fun hmem => hmem.elim (fun hblank => absurd (List.eq_of_mem_replicate hblank) (by decide)) hopening
  · rw [hmargin, List.append_assoc, Text.marksDocumentation_blanks, ← hfront, List.append_assoc]
    exact (Text.marksDocumentation_cons (by decide) _).mpr (List.prefix_append _ _)

/-- A row that is not code is marked as documentation, but of its text only the first line is behind the mark. -/
theorem map_isDocumentation_line (row : Row) (h : row.isCode = false) :
    (Text.physicalLines row.line).map Text.isDocumentation =
      true :: (Text.physicalLines (row.comment?.getD "")).tail.map Text.isDocumentation := by
  cases row with
  | code line => cases h
  | summary depth ends =>
    have hrow (opening : String) : opening ++ Text.escapeXml "" ++ "" = opening := by
      rw [show Text.escapeXml "" = "" from rfl, String.append_empty, String.append_empty]
    rw [line, ← hrow (if ends then "/// </summary>" else "/// <summary>")]
    cases ends <;> exact map_isDocumentation_placed (by decide) (by decide) (by decide) (by simp) depth ""
  | comment depth style text =>
    cases style <;>
      exact map_isDocumentation_placed (by decide) (by decide) (by decide) (by simp [Style.closing]) depth text

end Row

/-! ### Lines and code with and without documentation -/

/-- The full lines are the bare lines, and between them documentation that carries the texts. -/
def Annotates (texts : List String) (bare full : List String) : Prop :=
  ∃ rows : List Row, full = rows.map Row.line ∧ bare = (rows.filter Row.isCode).map Row.line ∧
    rows.filterMap Row.comment? = texts

namespace Annotates

variable {texts texts' : List String} {bare bare' full full' : List String}

theorem same (lines : List String) : Annotates [] lines lines := by
  refine ⟨lines.map .code, ?_, ?_, ?_⟩
  · rw [List.map_map]
    exact (List.map_id lines).symm
  · have hall : lines.filter (Row.isCode ∘ Row.code) = lines := List.filter_eq_self.mpr fun _ _ => rfl
    rw [List.filter_map, hall, List.map_map]
    exact (List.map_id lines).symm
  · rw [List.filterMap_map]
    exact List.filterMap_eq_nil_iff.mpr fun _ _ => rfl

theorem append (h : Annotates texts bare full) (h' : Annotates texts' bare' full') :
    Annotates (texts ++ texts') (bare ++ bare') (full ++ full') := by
  obtain ⟨rows, rfl, rfl, rfl⟩ := h
  obtain ⟨rows', rfl, rfl, rfl⟩ := h'
  refine ⟨rows ++ rows', List.map_append.symm, ?_, List.filterMap_append⟩
  rw [List.filter_append, List.map_append]

end Annotates

/-- At every depth the full code has the lines of the bare code with documentation that carries the texts. -/
def Documents (texts : List String) (bare full : List Code) : Prop :=
  ∀ depth, Annotates texts (linesOf depth bare) (linesOf depth full)

namespace Documents

variable {texts texts' : List String} {bare bare' full full' : List Code}

theorem same (code : List Code) : Documents [] code code := fun _ => .same _

theorem append (h : Documents texts bare full) (h' : Documents texts' bare' full') :
    Documents (texts ++ texts') (bare ++ bare') (full ++ full') := fun depth => by
  rw [linesOf_append, linesOf_append]
  exact (h depth).append (h' depth)

/-- Code without documentation behind code with documentation. -/
theorem before (h : Documents texts bare full) (code : List Code) : Documents texts (bare ++ code) (full ++ code) := by
  simpa using h.append (same code)

/-- Code without documentation in front of code with documentation. -/
theorem after (h : Documents texts bare full) (code : List Code) : Documents texts (code ++ bare) (code ++ full) :=
  (same code).append h

theorem block (header : String) (h : Documents texts bare full) :
    Documents texts [.block header bare] [.block header full] := by
  intro depth
  have hbody : Annotates (texts ++ []) _ _ := (h (depth + 1)).append (.same [placed depth "\x7d"])
  have hopened := (Annotates.same (if header.isEmpty then [] else [placed depth header])).append
    ((Annotates.same [placed depth "\x7b"]).append hbody)
  simpa [linesOf, lines] using hopened

theorem tag (ends : Bool) : Documents [] [] [.line (if ends then "/// </summary>" else "/// <summary>")] :=
  fun depth => ⟨[.summary depth ends], rfl, rfl, rfl⟩

theorem comment (style : Style) (text : String) :
    Documents [text] [] [.line (style.opening ++ Text.escapeXml text ++ style.closing)] :=
  fun depth => ⟨[.comment depth style text], rfl, rfl, rfl⟩

theorem paragraphs (texts : List String) :
    Documents texts [] (texts.map fun text => Render.line ["/// <para>", Text.escapeXml text, "</para>"]) := by
  induction texts with
  | nil => exact same []
  | cons text texts ih =>
    have hfirst := comment .paragraph text
    rw [show Style.opening .paragraph ++ Text.escapeXml text ++ Style.closing .paragraph =
      String.join ["/// <para>", Text.escapeXml text, "</para>"] by simp [String.join, Style.opening, Style.closing]]
      at hfirst
    exact hfirst.append ih

/-- The documentation above a declaration. -/
theorem summaries (head : Head) : Documents head.comments.texts [] (Render.summaries head) := by
  obtain ⟨name, modifiers, attributes, attached, preceding⟩ := head
  have hpreceding : Documents preceding [] (if preceding.isEmpty then [] else
      .line "/// <summary>" :: preceding.map (fun text => Render.line ["/// <para>", Text.escapeXml text, "</para>"]) ++
        [.line "/// </summary>"]) := by
    split
    · next hnone =>
      rw [List.isEmpty_iff.mp hnone]
      exact same []
    · have hall := (tag false).append ((paragraphs preceding).append (tag true))
      rw [List.nil_append, List.append_nil] at hall
      exact hall
  refine hpreceding.append ?_
  cases attached with
  | none => exact same []
  | some text =>
    have htext := comment .plain text
    rw [show Style.opening .plain ++ Text.escapeXml text ++ Style.closing .plain =
      String.join ["/// ", Text.escapeXml text] by simp [String.join, Style.opening, Style.closing]] at htext
    exact (tag false).append (htext.append (tag true))

/-- What stands above a declaration. -/
theorem preamble (head : Head) (h : Documents texts bare full) :
    Documents (head.comments.texts ++ texts) (Render.preamble (head.recomment fun _ => {}) ++ bare)
      (Render.preamble head ++ full) := by
  rw [Render.preamble, Render.preamble, List.append_assoc, List.append_assoc]
  exact (summaries head).append (h.after _)

/-- A declaration that has comments only above it. -/
theorem leaf (head : Head) (code : List Code) :
    Documents head.comments.texts (Render.preamble (head.recomment fun _ => {}) ++ code)
      (Render.preamble head ++ code) := by
  rw [← List.append_nil head.comments.texts]
  exact (same code).preamble head

theorem flatMap {α : Type} {items : List α} {texts : α → List String} {bare full : α → List Code}
    (h : ∀ item ∈ items, Documents (texts item) (bare item) (full item)) :
    Documents (items.flatMap texts) (items.flatMap bare) (items.flatMap full) := by
  induction items with
  | nil => exact same []
  | cons item items ih =>
    obtain ⟨hitem, hitems⟩ := List.forall_mem_cons.mp h
    exact hitem.append (ih hitems)

end Documents

/-! ### Declarations -/

variable {s : Symbols} {d : Decl} {ds : List Decl} {code : List Code} {previous : Option Bool}

theorem vectorElement_recomment (name : String) : vectorElement (s.recomment f) name = vectorElement s name := by
  unfold vectorElement
  cases builtinTypes.find? name with
  | some spelled => rfl
  | none =>
    rw [show (s.recomment f).settings = s.settings from rfl]
    dsimp only
    rw [lookUp_recomment]
    rcases Symbols.lookUp (Identifier.lastSegment name) s with ⟨_ | id, after⟩ <;> rfl

theorem accessorLine_recomment (a : Accessor) :
    accessorLine (s.recomment f) (a.recomment g) = accessorLine s a := by
  obtain ⟨head, reach⟩ := a
  cases reach with
  | list elements size inPlace => rfl
  | vector elementName =>
    show (vectorElement (s.recomment f) elementName >>= _) = (vectorElement s elementName >>= _)
    rw [vectorElement_recomment]
    rfl
  | field type => rfl

theorem wrapper_recomment (w : Wrapper) : wrapper (s.recomment f) (w.recomment g) = wrapper s w := by
  rfl

theorem documents_enum (e : Enum) :
    Documents (texts (.enum e)) (enumCode (e.recomment fun _ => {})) (enumCode e) := by
  have helements : Documents (e.elements.flatMap fun element => element.head.comments.texts)
      ((e.recomment fun _ => {}).elements.flatMap fun element =>
        summaries element.head ++ [line [element.head.name, " = ", element.value, ","]])
      (e.elements.flatMap fun element =>
        summaries element.head ++ [line [element.head.name, " = ", element.value, ","]]) := by
    show Documents _ ((e.elements.map _).flatMap _) _
    rw [List.flatMap_map]
    exact .flatMap fun element _ => (Documents.summaries element.head).before _
  exact (helements.block _).preamble e.head

theorem documents_group (form : GroupForm) (head : Head) {bare full : List Code} {texts : List String}
    (h : Documents texts bare full) (hempty : bare = [] ↔ full = []) :
    Documents (head.comments.texts ++ texts) (groupCode (s.recomment f) form (head.recomment fun _ => {}) bare)
      (groupCode s form head full) := by
  have hmembers : Documents texts (if bare.isEmpty then [] else .line "" :: bare)
      (if full.isEmpty then [] else .line "" :: full) := by
    simp only [List.isEmpty_iff, hempty]
    split
    · next hnone =>
      rw [hempty.mpr hnone, hnone] at h
      exact h
    · exact h.after [.line ""]
  cases form with
  | plainClass => exact (h.block _).preamble head
  | layout nativeName => exact (h.block _).preamble head
  | view target => exact ((hmembers.after _).block _).preamble head

theorem decls_eq_nil_iff (h : decls s previous ds = .ok code) : code = [] ↔ ds = [] := by
  cases ds with
  | nil =>
    cases h
    exact iff_of_true rfl rfl
  | cons d rest => exact iff_of_false (decls_ne_nil h) (List.cons_ne_nil d rest)

mutual

/-- What is written of a declaration is what is written of it without comments, and documentation. -/
theorem documents_decl (d : Decl) {code : List Code} (h : decl s d = .ok code) :
    ∃ bare, decl (s.recomment f) (d.recomment fun _ => {}) = .ok bare ∧ Documents d.texts bare code := by
  cases d with
  | group form head members =>
    obtain ⟨inner, hinner, h⟩ := except_bind_ok.mp h
    obtain ⟨bare, hbare, hdocuments⟩ := documents_decls members hinner
    -- A view has an empty line in front of its members, if it has any.
    have hempty : bare = [] ↔ inner = [] := by
      rw [decls_eq_nil_iff hbare, decls_eq_nil_iff hinner, recommentAll_eq_map, List.map_eq_nil_iff]
    cases h
    exact ⟨_, except_bind_ok.mpr ⟨bare, hbare, rfl⟩, documents_group form head hdocuments hempty⟩
  | enum e =>
    cases h
    exact ⟨_, rfl, documents_enum e⟩
  | field d =>
    cases d with
    | single head type =>
      obtain ⟨spelled, hspelled, h⟩ := except_bind_ok.mp h
      cases h
      exact ⟨_, except_bind_ok.mpr ⟨spelled, hspelled, rfl⟩, .leaf head _⟩
    | buffer head type size =>
      obtain ⟨spelled, hspelled, h⟩ := except_bind_ok.mp h
      obtain ⟨number, hnumber, h⟩ := except_bind_ok.mp h
      cases h
      exact ⟨_, except_bind_ok.mpr ⟨spelled, hspelled, except_bind_ok.mpr ⟨number, hnumber, rfl⟩⟩, .leaf head _⟩
  | constant c =>
    obtain ⟨spelled, hspelled, h⟩ := except_bind_ok.mp h
    cases h
    exact ⟨_, except_bind_ok.mpr ⟨spelled, hspelled, rfl⟩, .leaf c.head _⟩
  | method m | delegate m =>
    obtain ⟨text, htext, h⟩ := except_bind_ok.mp h
    cases h
    exact ⟨_, except_bind_ok.mpr ⟨text, htext, rfl⟩, .leaf m.head _⟩
  | accessor a =>
    obtain ⟨text, htext, h⟩ := except_bind_ok.mp h
    cases h
    exact ⟨_, except_bind_ok.mpr ⟨text, (accessorLine_recomment a).trans htext, rfl⟩,
      (Documents.summaries a.head).before _⟩
  | wrapper w =>
    obtain ⟨body, hbody, h⟩ := except_bind_ok.mp h
    cases h
    exact ⟨_, except_bind_ok.mpr ⟨body, hbody, rfl⟩, .leaf w.head _⟩
  | unplanned w =>
    obtain ⟨text, -, h⟩ := except_bind_ok.mp h
    cases h
  | element e => cases h
  | parameter p => cases h

theorem documents_decls (ds : List Decl) {previous : Option Bool} {code : List Code}
    (h : decls s previous ds = .ok code) :
    ∃ bare, decls (s.recomment f) previous (recommentAll (fun _ => {}) ds) = .ok bare ∧
      Documents (textsAll ds) bare code := by
  cases ds with
  | nil =>
    cases h
    exact ⟨[], rfl, .same []⟩
  | cons d rest =>
    obtain ⟨first, hfirst, h⟩ := except_bind_ok.mp h
    obtain ⟨others, hothers, h⟩ := except_bind_ok.mp h
    obtain ⟨bare, hbare, hdocuments⟩ := documents_decl d hfirst
    obtain ⟨bares, hbares, hall⟩ := documents_decls rest hothers
    cases h
    have hcompact : (d.recomment fun _ => {}).isCompact = d.isCompact := by cases d <;> rfl
    rw [← hcompact] at hbares ⊢
    exact ⟨_, except_bind_ok.mpr ⟨bare, hbare, except_bind_ok.mpr ⟨bares, hbares, rfl⟩⟩,
      (hdocuments.after _).append hall⟩

end

/-! ### Files -/

/-- The file with the comments of its declarations replaced. -/
def SourceFile.recomment (f : Comments → Comments) (file : SourceFile) : SourceFile :=
  { file with decls := recommentAll f file.decls }

theorem render_eq (code : List Code) : Code.render code = String.intercalate "\n" (linesOf 0 code) ++ "\n" := by
  rw [Code.render, Builder.output, toList_emitAll]
  rfl

/-- A file has the rows of the file without comments, and between them rows with the texts of its comments. -/
theorem documents_fileText {file : SourceFile} {text : String} (h : fileText s file = .ok text) :
    ∃ rows : List Row, text = Row.text rows ∧ rows.filterMap Row.comment? = textsAll file.decls ∧
      fileText (s.recomment f) (file.recomment fun _ => {}) = .ok (Row.text (rows.filter Row.isCode)) := by
  obtain ⟨body, hbody, h⟩ := except_bind_ok.mp h
  obtain ⟨bare, hbare, hdocuments⟩ := documents_decls file.decls hbody
  let opening : List Code := .line generatedHeader :: file.header.map .line ++
    file.usings.map (fun name => line ["using ", name, ";"])
  have hall := ((hdocuments.block (String.join ["namespace ", file.namespaceName])).after [.line ""]).after opening
  obtain ⟨rows, hfull, hcode, htexts⟩ := hall 0
  refine ⟨rows, ?_, htexts, except_bind_ok.mpr ⟨bare, hbare, congrArg Except.ok ?_⟩⟩
  · rw [Row.text, ← hfull, ← render_eq]
    exact (Except.ok.inj h).symm
  · rw [Row.text, ← hcode, ← render_eq]
    rfl

end Render

end InteropGen
