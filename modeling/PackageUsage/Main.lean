import PackageUsage.Program

/-!
# The command line

Reads the files below the working directory, runs the program on them, and prints what it leaves
behind. Nothing is decided here.
-/

namespace PackageUsage

/-- The path from a folder to a place, both given from the working directory. -/
def Place.seenFrom (folder place : Place) : String :=
  "/".intercalate ("." :: folder.map (fun _ => "..") ++ place)

/-- The entries of the directory at a place, with all below them. A link is kept as a link to the
place that it finally leads to; one that leads nowhere, or out of the working directory, has no
target. -/
partial def readEntries (top : String) (place : Place) : IO (List (String × FileNode)) := do
  let here := "/".intercalate (top :: place)
  let entries ← (← IO.FS.realPath here).readDir
  entries.toList.filterMapM fun entry => do
    let path := here ++ "/" ++ entry.fileName
    let next := place ++ [entry.fileName]
    match (← entry.path.symlinkMetadata).type with
    | .dir => return some (entry.fileName, .directory (← readEntries top next))
    | .file => return some (entry.fileName, .file (← IO.FS.readBinFile path))
    | .symlink =>
      let final ← try pure (← IO.FS.realPath path).toString catch _ => pure ""
      let target := match Path.stripBase? top final with
        | some steps => Place.seenFrom place (steps.map Path.Component.name)
        | none => ""
      return some (entry.fileName, .link target)
    | .other => return none

end PackageUsage

open PackageUsage in
def main (words : List String) : IO UInt32 := do
  let top := (← IO.FS.realPath ".").toString
  let outcome := Program.run { entries := ← readEntries top [] } words
  (← IO.getStdout).putStr outcome.output
  let err ← IO.getStderr
  outcome.events.forM fun event => err.putStrLn event.line
  outcome.remarks.forM fun line => err.putStrLn line
  return UInt32.ofNat outcome.exit
