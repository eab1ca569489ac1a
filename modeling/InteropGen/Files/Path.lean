import InteropGen.Text.Basic

/-!
# Paths

Paths as texts with slashes between the names, the route of names that a path takes, and places: the
names that lead from the current directory to a file without detours.
-/

namespace InteropGen.Files

/-- A path below another one; an absolute path stands for itself. -/
def joinPath (directory name : String) : String :=
  if Text.startsWith name "/" then name
  else if directory.isEmpty || Text.endsWith directory "/" then directory ++ name
  else directory ++ "/" ++ name

/-! ## Routes -/

/-- The names between the slashes of a path, from the root or from the current directory. -/
structure Route where
  fromRoot : Bool
  names : List String
  deriving DecidableEq, Repr

/-- The route of a path; empty names lead nowhere and are left out. -/
def routeOf (path : String) : Route where
  fromRoot := Text.startsWith path "/"
  names := (Text.split path '/').filter (!·.isEmpty)

/-- The path of a route. -/
def Route.text (route : Route) : String :=
  (if route.fromRoot then "/" else "") ++ String.intercalate "/" route.names

/-- The route to the directory that the last name is in, and the last name. -/
def Route.split? (route : Route) : Option (Route × String) :=
  route.names.getLast?.map fun name => ({ route with names := route.names.dropLast }, name)

/-! ## Places -/

/-- Where a route starts. -/
def Route.start (route : Route) : List String := if route.fromRoot then ["/"] else []

/-- The place that one name leads to from another place. -/
def walk (place : List String) (name : String) : List String :=
  if name = "." then place
  else if name = ".." then
    match place.getLast? with
    | none => [".."]
    | some last =>
      if last = ".." then place ++ [".."] else if last = "/" then place else place.dropLast
  else place ++ [name]

/-- The place that a path leads to if all directories on the way are there. -/
def resolvePath (path : String) : List String :=
  (routeOf path).names.foldl walk (routeOf path).start

/-- The text of a place. -/
def pathText : List String → String
  | [] => "."
  | "/" :: names => "/" ++ String.intercalate "/" names
  | names => String.intercalate "/" names

/-- The way from one place to another. -/
def relativePath : List String → List String → List String
  | a :: base, b :: target =>
    if a = b then relativePath base target
    else List.replicate (base.length + 1) ".." ++ b :: target
  | base, target => List.replicate base.length ".." ++ target

/-! ## File names -/

/-- The ending of a file name from its last point on; points at the beginning begin no ending. -/
def extension (name : String) : String :=
  let stem := name.toList.dropWhile (· == '.')
  let ending := stem.reverse.takeWhile (· != '.')
  if ending.length < stem.length then String.ofList ('.' :: ending.reverse) else ""

end InteropGen.Files
