import InteropGen.Run

/-!
# Native binaries

The binaries that stand beside the metadata are copied to one directory for each platform, under the
name of the library.
-/

namespace InteropGen.Binaries

open Files

/-- The directory of the platform of each binary. -/
def platforms : Table String := ⟨[
  ("dcimgui_x64.dll", "win-x64"), ("dcimgui_x86.dll", "win-x86"), ("dcimgui.so", "linux"),
  ("dcimgui.dylib", "osx"), ("libdcimgui_arm.so", "android-arm"),
  ("libdcimgui_x86.so", "android-x86")]⟩

/-- The endings of files that stand beside the binaries and are no binaries. -/
def ignoredEndings : List String := [".json", ".h", ".cpp"]

/-- Is the file left where it is? -/
def isIgnored (fileName : String) : Bool := ignoredEndings.any (Text.endsWith fileName ·)

/-- Copies one binary: the path of the copy. -/
def copyOne (source output library fileName : String) : Run String := do
  match platforms.find? fileName with
  | none => throw (.unknownPlatform fileName)
  | some platform =>
    let directory := joinPath output platform
    let target := joinPath directory (library ++ extension fileName)
    Run.change do
      Change.makeDirectories directory true
      Change.copyFile (joinPath source fileName) target
    Run.say ("  " ++ fileName ++ " => " ++
      pathText (relativePath (resolvePath output) (resolvePath target)))
    return target

/-- Copies one file of a directory if it is a binary. -/
def copyIfBinary (source output library fileName : String) : Run (Option String) := do
  if (← get).tree.isFile (joinPath source fileName) && !isIgnored fileName then
    return some (← copyOne source output library fileName)
  else return none

/-- Makes the output directory anew and copies every binary: the paths of the copies. -/
def copy (source output library : String) : Run (List String) := do
  Run.change (Change.renewDirectory output)
  let names ← Run.change (Change.look (·.list source))
  let copies ← names.mapM (copyIfBinary source output library)
  return copies.filterMap id

end InteropGen.Binaries
