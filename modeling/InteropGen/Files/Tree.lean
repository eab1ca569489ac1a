import InteropGen.Files.Path

/-!
# File trees

The directories and files that a run sees and changes, by place. A path is followed name by name,
and every name on the way must be a directory that is there, also before `..`. `read?_write` says
what a write does to a read.
-/

namespace InteropGen.Files

/-- What a file holds: text, or bytes that are no text. -/
inductive Contents
  | text (text : String)
  | bytes (bytes : ByteArray)

/-- What stands at a place. -/
inductive Entry
  | directory
  | file (contents : Contents)

/-- Directories and files. A file stands in the list once, the one written last. -/
structure Tree where
  directories : List (List String) := []
  files : List (List String × Contents) := []

instance : Inhabited Tree := ⟨{}⟩

/-- Why the file system refuses a path. -/
inductive PathError
  /-- The last name, or one on the way, is not there. -/
  | missing
  /-- A name on the way, or what should be listed, is a file. -/
  | notDirectory
  /-- What should be opened is a directory. -/
  | isDirectory
  /-- What should be made is there. -/
  | taken
  /-- A copy would overwrite what it is made of. -/
  | sameFile
  /-- A name is too long, or a path with dots at its end should be removed. -/
  | unusable
  deriving DecidableEq, Repr

namespace Tree

/-! ## Places -/

/-- What a file holds, if it is there. -/
def read? (t : Tree) (place : List String) : Option Contents := t.files.lookup place

/-- Is there a directory? The current one and those around it always are. -/
def hasDirectory (t : Tree) (place : List String) : Bool :=
  place = ["/"] || place.all (· = "..") || t.directories.contains place

/-- What stands at a place. -/
def entry? (t : Tree) (place : List String) : Option Entry :=
  match t.read? place with
  | some contents => some (.file contents)
  | none => if t.hasDirectory place then some .directory else none

/-- Puts a file at a place. -/
def write (t : Tree) (place : List String) (contents : Contents) : Tree :=
  { t with files := (place, contents) :: t.files.filter fun file => file.1 ≠ place }

/-- Puts a directory at a place, and those on the way to it. -/
def addDirectories (t : Tree) (place : List String) : Tree :=
  let ways := (List.range place.length).map fun n => place.take (n + 1)
  let missing := ways.filter fun way => !t.hasDirectory way
  { t with directories := t.directories ++ missing }

/-- Puts a file at a place, and the directories on the way to it. -/
def put (t : Tree) (place : List String) (contents : Contents) : Tree :=
  (t.addDirectories place.dropLast).write place contents

/-- Is a place below another one? The current directory has nothing that lies outside of it. -/
def isBelow (directory place : List String) : Bool :=
  directory.isPrefixOf place && place != directory &&
    !(directory.isEmpty && (place.head? == some ".." || place.head? == some "/"))

/-- Empties a directory. -/
def clear (t : Tree) (directory : List String) : Tree where
  directories := t.directories.filter fun way => !isBelow directory way
  files := t.files.filter fun file => !isBelow directory file.1

/-- The files below a directory. -/
def below (t : Tree) (directory : List String) : List (List String × Contents) :=
  t.files.filter fun file => isBelow directory file.1

/-- The names in a directory, in code point order. -/
def namesIn (t : Tree) (directory : List String) : List String :=
  let places := t.files.map (·.1) ++ t.directories
  let names := places.filterMap fun place =>
    if isBelow directory place && place.dropLast = directory then place.getLast? else none
  names.mergeSort fun a b => a ≤ b

/-! ## Paths -/

/-- The most bytes that a name may have. -/
def maxNameBytes : Nat := 255

/-- The most bytes that a path may have. -/
def maxPathBytes : Nat := 4095

/-- One step along a route, from a place that must be a directory. -/
def enter (t : Tree) (place : List String) (name : String) : Except PathError (List String) :=
  match t.entry? place with
  | none => .error .missing
  | some (.file _) => .error .notDirectory
  | some .directory =>
    if maxNameBytes < name.utf8ByteSize then .error .unusable else .ok (walk place name)

/-- The place that a route leads to, where nothing need be; the empty route leads nowhere. -/
def follow (t : Tree) (route : Route) : Except PathError (List String) :=
  if route.names.isEmpty && !route.fromRoot then .error .missing
  else route.names.foldlM t.enter route.start

/-- The place of a path and what stands there. A slash at the end asks for a directory. -/
def find (t : Tree) (path : String) : Except PathError (List String × Option Entry) := do
  if maxPathBytes < path.utf8ByteSize then throw .unusable
  let place ← t.follow (routeOf path)
  match t.entry? place with
  | some (.file contents) =>
    if Text.endsWith path "/" then throw .notDirectory
    else return (place, some (.file contents))
  | entry => return (place, entry)

/-- Does the path lead to something? -/
def has (t : Tree) (path : String) : Bool :=
  match t.find path with
  | .ok (_, some _) => true
  | _ => false

/-- Does the path lead to a directory? -/
def isDirectory (t : Tree) (path : String) : Bool :=
  match t.find path with
  | .ok (_, some .directory) => true
  | _ => false

/-- Does the path lead to a file? -/
def isFile (t : Tree) (path : String) : Bool :=
  match t.find path with
  | .ok (_, some (.file _)) => true
  | _ => false

/-- What the file at a path holds. -/
def contents (t : Tree) (path : String) : Except PathError Contents := do
  match (← t.find path).2 with
  | some (.file contents) => return contents
  | some .directory => throw .isDirectory
  | none => throw .missing

/-- The names in the directory at a path. -/
def list (t : Tree) (path : String) : Except PathError (List String) := do
  match ← t.find path with
  | (place, some .directory) => return t.namesIn place
  | (_, some (.file _)) => throw .notDirectory
  | (_, none) => throw .missing

/-! ## Laws -/

/-- Files are left out by their place. -/
theorem lookup_filter (keep : List String → Bool) (place : List String)
    (files : List (List String × Contents)) :
    (files.filter fun file => keep file.1).lookup place =
      if keep place then files.lookup place else none := by
  induction files with
  | nil => simp
  | cons file files ih =>
    obtain ⟨way, contents⟩ := file
    by_cases hway : place = way
    · subst hway
      by_cases hkeep : keep place <;> simp [hkeep, ih]
    · have hne : (place == way) = false := by simp [hway]
      by_cases hkeep : keep way <;> simp [List.lookup_cons, hkeep, hne, ih]

theorem read?_write (t : Tree) (place other : List String) (contents : Contents) :
    (t.write place contents).read? other =
      if other = place then some contents else t.read? other := by
  unfold write read?
  by_cases h : other = place
  · simp [h]
  · have hne : (other == place) = false := by simp [h]
    simp only [List.lookup_cons, hne, h, if_false]
    rw [lookup_filter fun way => way ≠ place, if_pos (by simpa using h)]

end Tree

end InteropGen.Files
