import InteropGen.Command

/-!
# The program

Reads the metadata directory, runs the command on what it holds, and writes the directories that the
command made.
-/

namespace InteropGen

open Files

/-- Reads the files of a directory that is there, without those below it. -/
def loadDirectory (path : String) : IO Tree := do
  let start : Tree := Tree.addDirectories {} (resolvePath path)
  let entries ← (← IO.FS.realPath path).readDir
  entries.foldlM (fun tree entry => do
    if ← entry.path.isDir then return tree
    let bytes ← IO.FS.readBinFile entry.path
    let contents := match String.fromUTF8? bytes with
      | some text => Contents.text text
      | none => .bytes bytes
    return tree.put (resolvePath path ++ [entry.fileName]) contents) start

/-- Makes a directory anew with what the tree has below it. -/
def storeDirectory (tree : Tree) (path : String) : IO Unit := do
  let place := resolvePath path
  if tree.hasDirectory place then
    try IO.FS.removeDirAll path catch _ => pure ()
    IO.FS.createDirAll path
    for (way, contents) in tree.below place do
      IO.FS.createDirAll (pathText way.dropLast)
      match contents with
      | .text text => IO.FS.writeFile (pathText way) text
      | .bytes bytes => IO.FS.writeBinFile (pathText way) bytes

/-- Runs the command with the words of the command line. -/
def runCommand (words : List String) : IO UInt32 := do
  match Command.parse? words with
  | none =>
    IO.eprintln "usage: --metadata DIR --output DIR [--natives DIR]"
    return 2
  | some arguments =>
    let tree ← try loadDirectory arguments.metadata catch _ => pure {}
    let (outcome, state) := (Command.run arguments).run.run { tree := tree }
    storeDirectory state.tree arguments.output
    match arguments.natives with
    | some natives => if !natives.isEmpty then storeDirectory state.tree natives
    | none => pure ()
    state.log.forM IO.println
    match outcome with
    | .ok _ => return 0
    | .error failure =>
      IO.eprintln (failure.message?.getD "the run failed")
      return 1

end InteropGen

/-- The entry point. -/
def main (words : List String) : IO UInt32 := InteropGen.runCommand words
