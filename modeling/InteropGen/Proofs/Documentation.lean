import InteropGen.Proofs.CommentFlow
import InteropGen.Proofs.Configurations
import InteropGen.Proofs.DocumentedCode

/-!
# The documentation of a document

The text of a comment never gets into code: each file of a document is the file of the same document without comments,
and between its lines stands documentation that carries comments of the document, each without its marker
(`documentation_marked`). A line of documentation holds its whole text, and the text is read back from it. But a text
with line ends takes several lines of the file, and only the first of them is marked.

That the texts are the document's own needs no further walk through the generators: dropping all other texts leaves the
document as it is, and so it leaves its bindings as they are (`texts_of_document`).
-/

namespace InteropGen

open Metadata

variable {f : Comments → Comments} {p : String → Option String}

/-! ### Comments of documents -/

/-- The texts of the comments that an item has. -/
def textsOf (comments : Option Comments) : List String := comments.elim [] Comments.texts

/-- The texts of all comments of a document. -/
def Metadata.texts (document : Metadata) : List String :=
  document.defines.flatMap (fun item => textsOf item.comments) ++
    (document.enums.flatMap (fun item =>
      textsOf item.comments ++ item.elements.flatMap fun element => textsOf element.comments) ++
    (document.typedefs.flatMap (fun item => textsOf item.comments) ++
    (document.structs.flatMap (fun item =>
      textsOf item.comments ++ item.fields.flatMap fun field => textsOf field.comments) ++
    document.functions.flatMap fun item => textsOf item.comments)))

theorem map_eq_self {α : Type} {items : List α} {change : α → α} :
    items.map change = items ↔ ∀ item ∈ items, change item = item := by
  conv_lhs => rhs; rw [← List.map_id items]
  exact List.map_inj_left

theorem Comments.filterMap_of_kept {comments : Comments} (h : ∀ text ∈ comments.texts, p text = some text) :
    comments.filterMap p = comments := by
  obtain ⟨hpreceding, hattached⟩ := List.forall_mem_append.mp h
  have hlist : comments.preceding.filterMap p = comments.preceding := by
    rw [List.filterMap_congr hpreceding]
    exact List.filterMap_some
  have hoption : comments.attached.bind p = comments.attached := by
    cases hnone : comments.attached with
    | none => rfl
    | some text => exact hattached text (by simp [hnone])
  rw [filterMap, hlist, hoption]

theorem map_filterMap_of_kept {comments : Option Comments} (h : ∀ text ∈ textsOf comments, p text = some text) :
    comments.map (Comments.filterMap p) = comments := by
  cases comments with
  | none => rfl
  | some comments => exact congrArg some (Comments.filterMap_of_kept h)

/-- A document is left as it is if all texts of its comments are. -/
theorem Metadata.recomment_of_kept {document : Metadata} (h : ∀ text ∈ document.texts, p text = some text) :
    document.recomment (Comments.filterMap p) = document := by
  simp only [Metadata.texts, List.forall_mem_append, List.forall_mem_flatMap] at h
  obtain ⟨hdefines, henums, htypedefs, hstructs, hfunctions⟩ := h
  have hdefine : document.defines.map (Define.recomment (Comments.filterMap p)) = document.defines :=
    map_eq_self.mpr fun item hitem => by
      rw [Define.recomment, map_filterMap_of_kept (hdefines item hitem)]
  have henum : document.enums.map (Enum.recomment (Comments.filterMap p)) = document.enums :=
    map_eq_self.mpr fun item hitem => by
      have helements : item.elements.map (EnumElement.recomment (Comments.filterMap p)) = item.elements :=
        map_eq_self.mpr fun element helement => by
          rw [EnumElement.recomment, map_filterMap_of_kept ((henums item hitem).2 element helement)]
      rw [Enum.recomment, helements, map_filterMap_of_kept (henums item hitem).1]
  have htypedef : document.typedefs.map (Typedef.recomment (Comments.filterMap p)) = document.typedefs :=
    map_eq_self.mpr fun item hitem => by
      rw [Typedef.recomment, map_filterMap_of_kept (htypedefs item hitem)]
  have hstruct : document.structs.map (Struct.recomment (Comments.filterMap p)) = document.structs :=
    map_eq_self.mpr fun item hitem => by
      have hfields : item.fields.map (Field.recomment (Comments.filterMap p)) = item.fields :=
        map_eq_self.mpr fun field hfield => by
          rw [Field.recomment, map_filterMap_of_kept ((hstructs item hitem).2 field hfield)]
      rw [Struct.recomment, hfields, map_filterMap_of_kept (hstructs item hitem).1]
  have hfunction : document.functions.map (Function.recomment (Comments.filterMap p)) = document.functions :=
    map_eq_self.mpr fun item hitem => by
      rw [Function.recomment, map_filterMap_of_kept (hfunctions item hitem)]
  rw [Metadata.recomment, hdefine, henum, htypedef, hstruct, hfunction]

namespace Generate

open Decl Build Render

variable {s s' : Symbols} {b : Bindings} {document : Metadata} {config : Configuration} {file : SourceFile}
  {nativeClass text : String}

/-! ### Files with their comments replaced -/

theorem recommentAll_map {α : Type} (toDecl : α → Decl) (change : α → α)
    (h : ∀ item, (toDecl item).recomment f = toDecl (change item)) (items : List α) :
    recommentAll f (items.map toDecl) = (items.map change).map toDecl := by
  rw [recommentAll_eq_map, List.map_map, List.map_map]
  exact List.map_congr_left fun item _ => h item

theorem recommentPair_toDecl (pair : Layout × View) :
    pair.1.toDecl.recomment f = (recommentPair f pair).1.toDecl ∧
      pair.2.toDecl.recomment f = (recommentPair f pair).2.toDecl := by
  have hfields : recommentAll f (pair.1.fields.map .field) =
      (pair.1.fields.map (Decl.Field.recomment f)).map .field :=
    recommentAll_map .field _ (fun _ => rfl) _
  have haccessors : recommentAll f (pair.2.accessors.map .accessor) =
      (pair.2.accessors.map (Accessor.recomment f)).map .accessor :=
    recommentAll_map .accessor _ (fun _ => rfl) _
  have hwrappers : recommentAll f (pair.2.wrappers.map .wrapper) =
      (pair.2.wrappers.map (Wrapper.recomment f)).map .wrapper :=
    recommentAll_map .wrapper _ (fun _ => rfl) _
  constructor
  · rw [Layout.toDecl, Decl.recomment, hfields]
    rfl
  · rw [View.toDecl, Decl.recomment, recommentAll_eq_map, List.map_append, ← recommentAll_eq_map,
      ← recommentAll_eq_map, haccessors, hwrappers]
    rfl

/-- The files of bindings with other comments are the files with these comments. -/
theorem placeFiles_recomment (hf : f {} = {}) (config : Configuration) (b : Bindings) (delegates : List Method) :
    placeFiles config (b.recomment f) (delegates.map (Method.recomment f)) =
      (placeFiles config b delegates).map (SourceFile.recomment f) := by
  have hgroup : ∀ head members, head.comments = {} →
      (Decl.group .plainClass head members).recomment f = .group .plainClass head (recommentAll f members) :=
    fun head members hnone => by rw [Decl.recomment, recomment_of_none hf hnone]
  have hconstants : (constantsClass b.constants).recomment f =
      constantsClass (b.constants.map (Constant.recomment f)) := by
    rw [constantsClass, hgroup _ _ rfl, recommentAll_map .constant (Constant.recomment f) fun _ => rfl]
    rfl
  have henums : recommentAll f (b.enums.map .enum) = (b.enums.map (Decl.Enum.recomment f)).map .enum :=
    recommentAll_map .enum _ (fun _ => rfl) _
  have hstructs : (b.structs.map (recommentPair f)).flatMap (structFiles config) =
      (b.structs.flatMap (structFiles config)).map (SourceFile.recomment f) := by
    rw [List.flatMap_map, List.map_flatMap]
    refine List.flatMap_congr fun pair _ => ?_
    obtain ⟨hlayout, hview⟩ := recommentPair_toDecl (f := f) pair
    rw [structFiles, ← hlayout, ← hview]
    rfl
  have hexterns : (classOf config.nativeClass (b.externs.map .method)).recomment f =
      classOf config.nativeClass ((b.externs.map (Method.recomment f)).map .method) := by
    rw [classOf, hgroup _ _ rfl, recommentAll_map .method (Method.recomment f) fun _ => rfl]
    rfl
  have hdelegates : recommentAll f (delegates.map .delegate) = (delegates.map (Method.recomment f)).map .delegate :=
    recommentAll_map .delegate _ (fun _ => rfl) _
  have hmain : (classOf config.mainClass (b.mainWrappers.map .wrapper)).recomment f =
      classOf config.mainClass ((b.mainWrappers.map (Wrapper.recomment f)).map .wrapper) := by
    rw [classOf, hgroup _ _ rfl, recommentAll_map .wrapper (Wrapper.recomment f) fun _ => rfl]
    rfl
  rw [placeFiles, placeFiles, List.map_append, List.map_append]
  refine congrArg₂ (· ++ ·) (congrArg₂ (· ++ ·) ?_ hstructs) ?_
  · rw [Bindings.recomment, ← hconstants, ← henums]
    rfl
  · rw [Bindings.recomment, ← hexterns, ← hdelegates, ← hmain]
    rfl

theorem tidyFile_recomment (file : SourceFile) :
    tidyFile (file.recomment fun _ => {}) = (tidyFile file).recomment fun _ => {} := by
  have hdecls : uncommentAll (recommentAll (fun _ => {}) file.decls) =
      recommentAll (fun _ => {}) (uncommentAll file.decls) := by
    rw [uncommentAll_eq_recommentAll, uncommentAll_eq_recommentAll, recommentAll_recommentAll,
      recommentAll_recommentAll]
    rfl
  show { file with decls := dropStemsAll (uncommentAll (recommentAll (fun _ => {}) file.decls)) } = _
  rw [hdecls, dropStemsAll_recommentAll]
  rfl

theorem textsAll_tidyFile (file : SourceFile) :
    textsAll (tidyFile file).decls = (textsAll file.decls).map Identifier.uncomment := by
  show textsAll (dropStemsAll (uncommentAll file.decls)) = _
  rw [textsAll_dropStemsAll, uncommentAll_eq_recommentAll, unmark, textsAll_recommentAll]
  exact congrFun List.filterMap_eq_map _

/-! ### Runs on documents with other comments -/

/-- A document with other comments gives the same bindings with these comments. -/
theorem bindings_recomment (hf : f {} = {})
    (hrun : (bindings nativeClass document).runOn s.beginConfiguration = (.ok b, s')) :
    (bindings nativeClass (document.recomment f)).runOn s.beginConfiguration =
      (.ok (b.recomment f), s'.recomment f) := by
  have hcommutes := commutes_bindings hf nativeClass document s.beginConfiguration
  rw [hrun] at hcommutes
  exact hcommutes

/-- The configuration makes the file, which has the text when it is tidied. -/
def MakesFile (config : Configuration) (document : Metadata) (s : Symbols) (file : SourceFile) (text : String) : Prop :=
  ∃ b s', (bindings config.nativeClass document).runOn s.beginConfiguration = (.ok b, s') ∧
    file ∈ placeFiles config b s'.delegates.values ∧ fileText s' (tidyFile file) = .ok text

theorem mem_placeFiles_recomment (hf : f {} = {}) (hfile : file ∈ placeFiles config b s'.delegates.values) :
    file.recomment f ∈ placeFiles config (b.recomment f) (s'.recomment f).delegates.values := by
  have hvalues : (s'.recomment f).delegates.values = s'.delegates.values.map (Method.recomment f) :=
    values_mapValues _ _
  rw [hvalues, placeFiles_recomment hf]
  exact List.mem_map_of_mem hfile

/-- A replacement that changes nothing in a document changes nothing in its files. -/
theorem recomment_file (hf : f {} = {}) (hdocument : document.recomment f = document)
    (h : MakesFile config document s file text) : file.recomment f = file := by
  obtain ⟨b, s', hrun, hfile, -⟩ := h
  have hrun' := bindings_recomment hf hrun
  rw [hdocument, hrun] at hrun'
  obtain ⟨hb, hs⟩ := Prod.mk.inj hrun'
  have hdelegates : s'.delegates.mapValues (Method.recomment f) = s'.delegates :=
    congrArg Symbols.delegates hs.symm
  have hfiles := placeFiles_recomment hf config b s'.delegates.values
  rw [← values_mapValues, hdelegates, ← Except.ok.inj hb] at hfiles
  exact map_eq_self.mp hfiles.symm file hfile

/-- The comments in a file of a document are the document's. -/
theorem texts_of_document (h : MakesFile config document s file text) :
    ∀ comment ∈ textsAll file.decls, comment ∈ document.texts := by
  -- Dropping all texts but the document's own changes nothing in the document.
  let own := fun comment => if comment ∈ document.texts then some comment else none
  have hdocument : document.recomment (Comments.filterMap own) = document :=
    recomment_of_kept fun comment hmem => if_pos hmem
  have hkept : (textsAll file.decls).filterMap own = textsAll file.decls := by
    rw [← textsAll_recommentAll]
    exact congrArg (fun file => textsAll file.decls) (recomment_file rfl hdocument h)
  intro comment hmem
  rw [← hkept] at hmem
  obtain ⟨other, -, hother⟩ := List.mem_filterMap.mp hmem
  obtain ⟨hown, hsame⟩ := Option.ite_none_right_eq_some.mp hother
  exact Option.some.inj hsame ▸ hown

/--
Every file of a document is the file of the document without comments, with documentation between its lines. The
documentation carries the comments of the file, which are the document's, each without its marker; each is read back
from the line that carries it. The first physical line of documentation is marked, and of the others those that are
marked in the text of the comment itself.
-/
theorem documentation_marked (h : MakesFile config document s file text) :
    ∃ rows : List Row, text = Row.text rows ∧
      MakesFile config (document.recomment fun _ => {}) s (file.recomment fun _ => {})
        (Row.text (rows.filter Row.isCode)) ∧
      (∀ comment ∈ textsAll file.decls, comment ∈ document.texts) ∧
      rows.filterMap Row.comment? = (textsAll file.decls).map Identifier.uncomment ∧
      (∀ depth style comment, .comment depth style comment ∈ rows →
        Row.shown style (Row.line (.comment depth style comment)) = comment) ∧
      ∀ row ∈ rows, row.isCode = false →
        (Text.physicalLines row.line).map Text.isDocumentation =
          true :: (Text.physicalLines (row.comment?.getD "")).tail.map Text.isDocumentation := by
  have htexts := texts_of_document h
  obtain ⟨b, s', hrun, hfile, htext⟩ := h
  obtain ⟨rows, hrows, hcomments, hbare⟩ := documents_fileText htext
  rw [textsAll_tidyFile] at hcomments
  rw [← tidyFile_recomment] at hbare
  have hmade : MakesFile config (document.recomment fun _ => {}) s (file.recomment fun _ => {})
      (Row.text (rows.filter Row.isCode)) :=
    ⟨_, _, bindings_recomment rfl hrun, mem_placeFiles_recomment rfl hfile, hbare⟩
  exact ⟨rows, hrows, hmade, htexts, hcomments, fun depth style comment _ => Row.shown_line depth style comment,
    fun row _ hrow => row.map_isDocumentation_line hrow⟩

/-! ### A comment of two lines -/

/-- A document with one define, whose comment has two lines. -/
def twoLines : Metadata :=
  { defines := [{ name := "LIMIT", content := some "1", comments := some { attached := some "// at most\nhere" } }] }

/-- The file of its constants, where the second line of the comment stands among the code. -/
def twoLinesText : String :=
  String.intercalate "\n" ["// machine generated, do not edit", "using System;", "", "namespace N", "\x7b",
    "    public static class Constants", "    \x7b", "        /// <summary>", "        /// at most", "here",
    "        /// </summary>", "        public const long LIMIT = 1;", "    \x7d", "\x7d", ""]

/-- The comments and the text of the first file. -/
def firstFile? (document : Metadata) : Option (List String × String) :=
  match (bindings plainConfiguration.nativeClass document).runOn (Symbols.ofSettings {}).beginConfiguration with
  | (.ok b, s') =>
    match (placeFiles plainConfiguration b s'.delegates.values).head? with
    | some file =>
      match fileText s' (tidyFile file) with
      | .ok text => some (textsAll file.decls, text)
      | .error _ => none
    | none => none
  | _ => none

theorem makes_of_firstFile? {texts : List String} (h : firstFile? document = some (texts, text)) :
    ∃ file, MakesFile plainConfiguration document (.ofSettings {}) file text ∧ textsAll file.decls = texts := by
  unfold firstFile? at h
  split at h
  · next b s' hrun =>
    split at h
    · next file hfile =>
      split at h
      · next written htext =>
        obtain ⟨rfl, rfl⟩ := Prod.mk.inj (Option.some.inj h)
        exact ⟨file, ⟨b, s', hrun, List.mem_of_head? hfile, htext⟩, rfl⟩
      · cases h
    · cases h
  · cases h

theorem documentation_marked_twoLines :
    ∃ file rows, MakesFile plainConfiguration twoLines (.ofSettings {}) file twoLinesText ∧
      twoLinesText = Row.text rows ∧ ∃ row ∈ rows, row.comment? = some "at most\nhere" ∧
        (Text.physicalLines row.line).map Text.isDocumentation = [true, false] := by
  have hfirst : firstFile? twoLines = some (["// at most\nhere"], twoLinesText) := by decide +kernel
  obtain ⟨file, hmakes, htexts⟩ := makes_of_firstFile? hfirst
  obtain ⟨rows, hrows, -, -, hcomments, -, hlines⟩ := documentation_marked hmakes
  have hcomment : "at most\nhere" ∈ rows.filterMap Row.comment? := by
    rw [hcomments, htexts]
    decide
  obtain ⟨row, hrow, hcarried⟩ := List.mem_filterMap.mp hcomment
  have hmarks := hlines row hrow (Row.isCode_of_comment? hcarried)
  rw [hcarried] at hmarks
  exact ⟨file, rows, hmakes, hrows, row, hrow, hcarried, hmarks.trans (by decide)⟩

end Generate

end InteropGen
