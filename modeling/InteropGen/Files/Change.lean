import InteropGen.Files.Tree

/-!
# Changes of a file tree

Making directories, writing and copying files, and removing what is there. A change that is refused
keeps what it did before.
-/

namespace InteropGen.Files

/-- Steps on a tree; a refused step keeps the tree it reached. -/
abbrev Change (α : Type) := ExceptT PathError (StateM Tree) α

namespace Change

/-- Looks something up in the tree. -/
def look {α : Type} (f : Tree → Except PathError α) : Change α := do
  match f (← get) with
  | .ok value => return value
  | .error error => throw error

/-- Writes a file into a directory that is there, in place of the file that was. -/
def writeFile (path : String) (contents : Contents) : Change Unit := do
  if Text.endsWith path "/" then throw .isDirectory
  match ← look (·.find path) with
  | (_, some .directory) => throw .isDirectory
  | (place, _) => modify fun t => t.write place contents

/-- Makes one directory in a directory that is there. -/
def makeDirectory (path : String) : Change Unit := do
  match ← look (·.find path) with
  | (_, some _) => throw .taken
  | (place, none) => modify fun t => t.addDirectories place

/-- Makes one directory, or leaves the one that is there if it may be there. -/
def ensureDirectory (path : String) (mayExist : Bool) : Change Unit :=
  tryCatch (makeDirectory path) fun error => do
    if !mayExist || !(← get).isDirectory path then throw error

/--
Makes a directory and those on the way to it that are not there. The names of the route are given
from the last one on; a dot at the end asks only for the directory before it.
-/
def makeRoute (fromRoot mayExist : Bool) : List String → Change Unit
  | [] => ensureDirectory (Route.text ⟨fromRoot, []⟩) mayExist
  | name :: front => do
    let outer := Route.text ⟨fromRoot, front.reverse⟩
    let hasOuter := outer.isEmpty || (← get).has outer
    if !hasOuter then
      tryCatch (makeRoute fromRoot mayExist front) fun error =>
        if error = .taken then pure () else throw error
    if hasOuter || name != "." then
      ensureDirectory (Route.text ⟨fromRoot, (name :: front).reverse⟩) mayExist

/-- Makes the directory at a path and those on the way to it. -/
def makeDirectories (path : String) (mayExist : Bool) : Change Unit :=
  let route := routeOf path
  makeRoute route.fromRoot mayExist route.names.reverse

/-- Removes the directory at a path, which must be empty and not be named by dots. -/
def removeDirectory (path : String) : Change Unit := do
  match (routeOf path).split? with
  | none => throw .unusable
  | some (outer, name) =>
    let place ←
      if outer.names.isEmpty then pure outer.start else look (·.follow outer)
    let place ← look (·.enter place name)
    if name = "." || name = ".." then throw .unusable
    modify fun t => { t with directories := t.directories.filter (· ≠ place) }

/-- Removes the directory at a path with all that is in it. -/
def removeAll (path : String) : Change Unit := do
  match ← look (·.find path) with
  | (_, none) => throw .missing
  | (_, some (.file _)) => throw .notDirectory
  | (place, some .directory) =>
    modify fun t => t.clear place
    removeDirectory path

/-- Makes the directory at a path anew. -/
def renewDirectory (path : String) : Change Unit := do
  if (← get).has path then removeAll path
  makeDirectories path false

/-- Copies a file. -/
def copyFile (source target : String) : Change Unit := do
  let t ← get
  match t.find source, t.find target with
  | .ok (here, some _), .ok (there, some _) => if here = there then throw .sameFile
  | _, _ => pure ()
  writeFile target (← look (·.contents source))

end Change

end InteropGen.Files
