import InteropGen.Proofs.Constants
import Mathlib.Data.List.Induction

/-!
# The defines that count

A run of the constants is taken with a log of the defines it includes (`LoggedRun`), in the order in which it
comes to them. The log says all there is to say about the run (`Traced`): what is known is what the included
defines entered, up to the last group under several guards; the constants are those of the included defines whose
name is new; and what an included define gives hangs on the defines that were known to it. One define keeps the
log a trace of its run (`Traced.addDefine`), and so does the end of a group (`Traced.publish`).
-/

namespace InteropGen

namespace Table

variable {α : Type}

/-- A look-up after a row of puts finds the last one of the key. -/
theorem find?_insertAll_last (t : Table α) (pairs : List (String × α)) (name : String) :
    (t.insertAll pairs).find? name = (lookupIn name pairs.reverse).or (t.find? name) := by
  induction pairs using List.reverseRecOn with
  | nil => rfl
  | append_singleton pairs pair ih =>
    rw [insertAll_append, List.reverse_append]
    show ((t.insertAll pairs).insert pair.1 pair.2).find? name =
      (lookupIn name (pair :: pairs.reverse)).or (t.find? name)
    by_cases hname : pair.1 = name
    · subst hname
      rw [find?_insert_self, lookupIn_cons_self]
      rfl
    · rw [find?_insert_of_ne _ (Ne.symm hname), ih, lookupIn_cons_of_ne hname]

/-- Puts may be collected first, each key once. -/
theorem find?_insertAll_collected (t : Table α) (pairs : List (String × α)) (name : String) :
    (t.insertAll (insertAll {} pairs).entries).find? name = (t.insertAll pairs).find? name := by
  have hdistinct : ((insertAll {} pairs).entries.map (·.1)).Nodup :=
    nodup_keys_insertAll (t := {}) List.nodup_nil pairs
  have hcollected : lookupIn name (insertAll {} pairs).entries = lookupIn name pairs.reverse := by
    have hlast := find?_insertAll_last {} pairs name
    rwa [show (({} : Table α).find? name) = none from rfl, Option.or_none] at hlast
  rw [find?_insertAll t hdistinct, hcollected, find?_insertAll_last]

end Table

namespace Generate

open Metadata

/-- A define that counts, with the type and the value that it gives and the number of those known to it. -/
structure Inclusion where
  define : Define
  type : String
  value : String
  seen : Nat

namespace Inclusion

/-- A define with what it gives. -/
def make (s : Symbols) (define : Define) (seen : Nat) : Inclusion :=
  ⟨define, (constantType s define).1, (constantType s define).2, seen⟩

/-- What becomes known of the define. -/
def entry (i : Inclusion) : String × (Option String × String) :=
  (i.define.name, some i.type, i.define.content.getD "")

/-- The constant of the define. -/
def constant (i : Inclusion) : Decl.Constant where
  head := Decl.Head.withComments { name := i.define.name, modifiers := ["public", "const"] } i.define.comments
  type := .plain i.type
  value := i.value

theorem make_congr {s s' : Symbols} (h : ∀ name, s.defines.find? name = s'.defines.find? name)
    (define : Define) (seen : Nat) : make s define seen = make s' define seen := by
  unfold make
  rw [constantType_congr h]

theorem entry_make (s : Symbols) (define : Define) (seen : Nat) :
    (make s define seen).entry = knownEntry s define := by
  simp only [entry, make, knownEntry]

theorem constant_make (s : Symbols) (define : Define) (seen : Nat) :
    (make s define seen).constant = constantOf s define := by
  simp only [constant, make, constantOf]

theorem name_constant (i : Inclusion) : i.constant.head.name = i.define.name := by
  unfold constant Decl.Head.withComments
  cases i.define.comments with
  | none => rfl
  | some comments => rfl

theorem lookupIn_entries (known : List Inclusion) (name : String) :
    Table.lookupIn name (known.map entry) =
      (known.find? (·.define.name = name)).map fun i => (some i.type, i.define.content.getD "") := by
  induction known with
  | nil => rfl
  | cons i known ih =>
    rw [List.map_cons, entry, Table.lookupIn, List.find?_cons]
    by_cases hname : i.define.name = name
    · simp [hname]
    · simp [hname, ih]

end Inclusion

/-- A run with the defines that it included and the number of those that are known. -/
structure LoggedRun where
  run : ConstantRun
  included : List Inclusion := []
  published : Nat := 0

namespace LoggedRun

/-- The log with one more define. -/
def noted (log : LoggedRun) (define : Define) : List Inclusion :=
  log.included ++ [Inclusion.make log.run.symbols define log.published]

def addDefine (deep : Bool) (log : LoggedRun) (define : Define) : LoggedRun :=
  if log.run.symbols.admits define.guards then
    { run := log.run.addDefine deep define
      included := log.noted define
      published := if deep then log.published else (log.noted define).length }
  else { log with run := log.run.addDefine deep define }

def publish (log : LoggedRun) : LoggedRun :=
  { log with run := log.run.publish, published := log.included.length }

def addGroup (defines : List Define) (log : LoggedRun) (depth : Nat) : LoggedRun :=
  ((defines.filter fun define => define.guards.length = depth).foldl (addDefine (2 ≤ depth)) log).publish

end LoggedRun

/-- The start of a run: the constants of the seeds. -/
def startRun (s : Symbols) : ConstantRun where
  symbols := s
  constants := s.settings.knownDefines.map (seedConstant s)

/-- The run over a document's defines with its log. -/
def loggedRun (defines : List Define) (s : Symbols) : LoggedRun :=
  (guardDepths defines).foldl (LoggedRun.addGroup defines) { run := startRun s }

/-- The defines of a document that count, in the order in which a run comes to them. -/
def inclusions (defines : List Define) (s : Symbols) : List Inclusion := (loggedRun defines s).included

/-! ### The log does not change the run -/

variable {s : Symbols} {log : LoggedRun} {define : Define} {defines : List Define} {name : String}

namespace LoggedRun

theorem run_addDefine (deep : Bool) (log : LoggedRun) (define : Define) :
    (log.addDefine deep define).run = log.run.addDefine deep define := by
  unfold addDefine
  split <;> rfl

theorem run_addGroup (defines : List Define) (log : LoggedRun) (depth : Nat) :
    (log.addGroup defines depth).run = log.run.addGroup defines depth := by
  have hfold : ∀ (group : List Define) (log : LoggedRun),
      (group.foldl (addDefine (2 ≤ depth)) log).run =
        group.foldl (ConstantRun.addDefine (2 ≤ depth)) log.run := by
    intro group
    induction group with
    | nil => exact fun _ => rfl
    | cons define group ih =>
      intro log
      rw [List.foldl_cons, List.foldl_cons, ih, run_addDefine]
  exact congrArg ConstantRun.publish (hfold _ log)

end LoggedRun

theorem run_loggedRun (defines : List Define) (s : Symbols) :
    constants defines s =
      ((loggedRun defines s).run.constants, (loggedRun defines s).run.symbols) := by
  have hfold : ∀ (depths : List Nat) (log : LoggedRun),
      (depths.foldl (LoggedRun.addGroup defines) log).run =
        depths.foldl (ConstantRun.addGroup defines) log.run := by
    intro depths
    induction depths with
    | nil => exact fun _ => rfl
    | cons depth depths ih =>
      intro log
      rw [List.foldl_cons, List.foldl_cons, ih, LoggedRun.run_addGroup]
  unfold loggedRun
  rw [hfold]
  rfl

/-! ### The log is an account of the run -/

/-- The symbols with what the defines entered. -/
def knownAfter (s : Symbols) (known : List Inclusion) : Symbols :=
  { s with defines := s.defines.insertAll (known.map Inclusion.entry) }

theorem find?_knownAfter (s : Symbols) (known : List Inclusion) (name : String) :
    (knownAfter s known).defines.find? name =
      ((known.reverse.find? (·.define.name = name)).map fun i =>
        (some i.type, i.define.content.getD "")).or (s.defines.find? name) := by
  show (s.defines.insertAll (known.map Inclusion.entry)).find? name = _
  rw [Table.find?_insertAll_last, ← List.map_reverse, Inclusion.lookupIn_entries]

/-- The log tells what is known, which constants there are, and what every included define was given. -/
structure Traced (s : Symbols) (log : LoggedRun) : Prop where
  published_le : log.published ≤ log.included.length
  defines : ∀ name, log.run.symbols.defines.find? name =
    (knownAfter s (log.included.take log.published)).defines.find? name
  discovered : log.run.discovered =
    Table.insertAll {} ((log.included.drop log.published).map Inclusion.entry)
  constants : log.run.constants =
    (log.included.map Inclusion.constant).foldl addNew (startRun s).constants
  gives : ∀ (k : Nat) (i : Inclusion), log.included[k]? = some i → i.seen ≤ k ∧
    i = Inclusion.make (knownAfter s (log.included.take i.seen)) i.define i.seen

namespace Traced

theorem start (s : Symbols) : Traced s { run := startRun s } where
  published_le := Nat.le_refl 0
  defines _ := rfl
  discovered := rfl
  constants := rfl
  gives k i h := by simp at h

theorem gives_snoc (h : Traced s log) (define : Define) (k : Nat) (i : Inclusion)
    (hi : (log.noted define)[k]? = some i) : i.seen ≤ k ∧
      i = Inclusion.make (knownAfter s ((log.noted define).take i.seen)) i.define i.seen := by
  have hle := h.published_le
  unfold LoggedRun.noted at hi ⊢
  rcases Nat.lt_or_ge k log.included.length with hk | hk
  · rw [List.getElem?_append_left hk] at hi
    obtain ⟨hseen, hgives⟩ := h.gives k i hi
    rw [List.take_append_of_le_length (by omega)]
    exact ⟨hseen, hgives⟩
  · rw [List.getElem?_append_right hk] at hi
    obtain rfl := List.mem_singleton.mp (List.mem_of_getElem? hi)
    refine ⟨Nat.le_trans hle hk, ?_⟩
    show Inclusion.make log.run.symbols define log.published =
      Inclusion.make (knownAfter s ((log.included ++ _).take log.published)) define log.published
    rw [List.take_append_of_le_length hle]
    exact Inclusion.make_congr h.defines define log.published

theorem constants_noted (h : Traced s log) (define : Define) :
    addNew log.run.constants (constantOf log.run.symbols define) =
      ((log.noted define).map Inclusion.constant).foldl addNew (startRun s).constants := by
  rw [LoggedRun.noted, List.map_append, List.foldl_append, h.constants, List.map_singleton,
    Inclusion.constant_make]
  rfl

/-- A define that is left out changes nothing that the log tells. -/
theorem addDefine_left (h : Traced s log) (hadmits : log.run.symbols.admits define.guards = false)
    (deep : Bool) : Traced s (log.addDefine deep define) := by
  rw [LoggedRun.addDefine, if_neg (by simp [hadmits]), ConstantRun.addDefine_left hadmits]
  exact ⟨h.published_le, h.defines, h.discovered, h.constants, h.gives⟩

theorem addDefine_deep (h : Traced s log) (hadmits : log.run.symbols.admits define.guards = true) :
    Traced s (log.addDefine true define) := by
  rw [LoggedRun.addDefine, if_pos hadmits, ConstantRun.addDefine_admitted hadmits]
  have hle := h.published_le
  refine ⟨?_, fun name => ?_, ?_, h.constants_noted define, h.gives_snoc define⟩
  · show log.published ≤ (log.noted define).length
    rw [LoggedRun.noted, List.length_append]
    omega
  · show log.run.symbols.defines.find? name =
      (knownAfter s ((log.noted define).take log.published)).defines.find? name
    rw [LoggedRun.noted, List.take_append_of_le_length hle]
    exact h.defines name
  · show log.run.discovered.insertAll [knownEntry log.run.symbols define] =
      Table.insertAll {} (((log.noted define).drop log.published).map Inclusion.entry)
    rw [LoggedRun.noted, List.drop_append_of_le_length hle, List.map_append, Table.insertAll_append,
      h.discovered, List.map_singleton, Inclusion.entry_make]

theorem addDefine_shallow (h : Traced s log) (hpublished : log.published = log.included.length)
    (hadmits : log.run.symbols.admits define.guards = true) : Traced s (log.addDefine false define) := by
  rw [LoggedRun.addDefine, if_pos hadmits, ConstantRun.addDefine_admitted hadmits]
  refine ⟨Nat.le_refl _, fun name => ?_, ?_, h.constants_noted define, h.gives_snoc define⟩
  · show (log.run.symbols.defines.insertAll [knownEntry log.run.symbols define]).find? name =
      (s.defines.insertAll (((log.noted define).take (log.noted define).length).map Inclusion.entry)).find? name
    have hknown := h.defines name
    rw [hpublished, List.take_length] at hknown
    rw [List.take_length, LoggedRun.noted, List.map_append, Table.insertAll_append, List.map_singleton,
      Inclusion.entry_make, Table.find?_insertAll _ (by simp), hknown, Table.find?_insertAll _ (by simp)]
    rfl
  · have hnone := h.discovered
    rw [hpublished, List.drop_length] at hnone
    show log.run.discovered =
      Table.insertAll {} (((log.noted define).drop (log.noted define).length).map Inclusion.entry)
    rw [List.drop_length]
    exact hnone

theorem publish (h : Traced s log) : Traced s log.publish := by
  refine ⟨Nat.le_refl _, fun name => ?_, ?_, h.constants, h.gives⟩
  · show (log.run.symbols.defines.insertAll log.run.discovered.entries).find? name =
      (s.defines.insertAll ((log.included.take log.included.length).map Inclusion.entry)).find? name
    have hknown := h.defines name
    have hall := List.take_append_drop log.published log.included
    rw [h.discovered, Table.find?_insertAll_collected, Table.find?_insertAll_last, hknown, List.take_length,
      ← Table.find?_insertAll_last]
    conv_rhs => rw [← hall, List.map_append, Table.insertAll_append]
    rfl
  · show ({} : Table (Option String × String)) =
      Table.insertAll {} ((log.included.drop log.included.length).map Inclusion.entry)
    rw [List.drop_length]
    rfl

/-- A group keeps the log an account, and leaves nothing that is not known. -/
theorem addGroup (h : Traced s log) (hpublished : log.published = log.included.length)
    (defines : List Define) (depth : Nat) : Traced s (log.addGroup defines depth) ∧
      (log.addGroup defines depth).published = (log.addGroup defines depth).included.length := by
  refine ⟨publish ?_, rfl⟩
  generalize defines.filter (fun define => define.guards.length = depth) = group
  cases decide (2 ≤ depth) with
  | true =>
    clear hpublished
    induction group generalizing log with
    | nil => exact h
    | cons define group ih =>
      cases hadmits : log.run.symbols.admits define.guards with
      | true => exact ih (h.addDefine_deep hadmits)
      | false => exact ih (h.addDefine_left hadmits true)
  | false =>
    induction group generalizing log with
    | nil => exact h
    | cons define group ih =>
      cases hadmits : log.run.symbols.admits define.guards with
      | true =>
        refine ih (h.addDefine_shallow hpublished hadmits) ?_
        rw [LoggedRun.addDefine, if_pos hadmits]
        rfl
      | false =>
        refine ih (h.addDefine_left hadmits false) ?_
        rw [LoggedRun.addDefine, if_neg (by simp [hadmits])]
        exact hpublished

end Traced

/-- The log of a whole run is an account of it, and all that is in it is known. -/
theorem accounts_loggedRun (defines : List Define) (s : Symbols) :
    Traced s (loggedRun defines s) ∧
      (loggedRun defines s).published = (loggedRun defines s).included.length := by
  have hfold : ∀ (depths : List Nat) {log : LoggedRun}, Traced s log →
      log.published = log.included.length →
      Traced s (depths.foldl (LoggedRun.addGroup defines) log) ∧
        (depths.foldl (LoggedRun.addGroup defines) log).published =
          (depths.foldl (LoggedRun.addGroup defines) log).included.length := by
    intro depths
    induction depths with
    | nil => exact fun h hpublished => ⟨h, hpublished⟩
    | cons depth depths ih =>
      intro log h hpublished
      obtain ⟨hgroup, hgroupPublished⟩ := h.addGroup hpublished defines depth
      exact ih hgroup hgroupPublished
  exact hfold _ (.start s) rfl

/-- The constants are those of the seeds and then those of the included defines whose name is new. -/
theorem constants_eq (defines : List Define) (s : Symbols) :
    (constants defines s).1 =
      ((inclusions defines s).map Inclusion.constant).foldl addNew (startRun s).constants := by
  rw [run_loggedRun]
  exact (accounts_loggedRun defines s).1.constants

end Generate

end InteropGen
