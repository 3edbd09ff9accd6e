import PackageUsage.Discovery.Levels

/-!
# Walking a file tree

All regular files below a scan root, through links, except those that exclude patterns or ignore
files keep out; an excluded directory is not entered. A link that leads nowhere, or back to a
directory on the way to it, is reported and passed over.
-/

namespace PackageUsage.Discovery

/-- What a walk is about. -/
structure Survey where
  tree : FileTree
  /-- The scan root as it was given. -/
  root : String
  excludes : IgnoreRules
  respectIgnoreFiles : Bool

/-- What a walk comes upon: a regular file, by the names from the scan root to it, or a problem. -/
inductive Finding
  | file (names : List String)
  | problem (message : String)
deriving DecidableEq, Repr

/-- A directory on the way: its place, the names from the scan root to it, and the levels whose
ignore files bear on its entries. -/
structure Folder where
  place : Place
  names : List String := []
  levels : List Level := []

namespace Survey

def pathOf (s : Survey) (names : List String) : String :=
  if names.isEmpty then s.root else Path.join s.root ("/".intercalate names)

/-- Whether an entry is kept out. The rules see the names below the scan root, whose text may begin
with `./` once and not more often. -/
def skips (s : Survey) (levels : List Level) (names : List String) (isDirectory : Bool) : Bool :=
  (s.excludes.verdict? ("/".intercalate names) isDirectory).isSome ||
    verdict? levels names isDirectory == some .ignored

def enter (s : Survey) (parent : Folder) (place : Place) (names : List String) : Folder :=
  { place, names
    levels :=
      if s.respectIgnoreFiles then
        Level.read s.tree (s.pathOf names) names.length [] :: parent.levels
      else [] }

def unreadable (s : Survey) (names : List String) (e : FileError) : Finding :=
  let path := s.pathOf names
  .problem (path ++ ": IO error for operation on " ++ path ++ ": " ++ e.message)

/-- The report on a link to a directory on the way to it. -/
def loop (s : Survey) (names ancestor : List String) : Finding :=
  .problem ("File system loop found: " ++ s.pathOf names ++ " points to an ancestor "
    ++ s.pathOf ancestor)

/-- What becomes of one entry of a directory: it is passed over, it is a finding, or it is a directory
that the walk enters. -/
inductive Visit
  | passed
  | found (f : Finding)
  | entered (folder : Folder)

def visitFile (s : Survey) (folder : Folder) (names : List String) : Visit :=
  if s.skips folder.levels names false then .passed else .found (.file names)

def visitDirectory (s : Survey) (folder : Folder) (names : List String) (place : Place) : Visit :=
  if s.skips folder.levels names true then .passed else .entered (s.enter folder place names)

/-- Visits an entry of a directory; `way` holds the directories above it up to the scan root. The
path of a link is followed from the working directory on, so the links on the way to it count too. -/
def visit (s : Survey) (way : List Folder) (folder : Folder) (name : String) (node : FileNode) :
    Visit :=
  let names := folder.names ++ [name]
  match node with
  | .file _ => s.visitFile folder names
  | .directory _ => s.visitDirectory folder names (folder.place ++ [name])
  | .link _ =>
    match s.tree.locate (s.pathOf names) with
    | .error e => .found (s.unreadable names e)
    | .ok place =>
      match FileTree.nodeAt? s.tree.top place with
      | some (.directory _) =>
        match (folder :: way).find? (·.place == place) with
        | some ancestor => .found (s.loop names ancestor.names)
        | none => s.visitDirectory folder names place
      | _ => s.visitFile folder names

def entries (s : Survey) (folder : Folder) : List (String × FileNode) :=
  match FileTree.nodeAt? s.tree.top folder.place with
  | some (.directory entries) => entries
  | _ => []

def below (s : Survey) : Nat → List Folder → Folder → List Finding
  | 0, _, _ => []
  | fuel + 1, way, folder =>
    (s.entries folder).flatMap fun (name, node) =>
      match s.visit way folder name node with
      | .passed => []
      | .found f => [f]
      | .entered next => s.below fuel (folder :: way) next

def start? (s : Survey) : Option Folder :=
  match s.tree.locate s.root with
  | .error _ => none
  | .ok place =>
    let outside : Folder :=
      { place, levels := if s.respectIgnoreFiles then levelsAbove s.tree place else [] }
    some (s.enter outside place [])

/-- The number of steps that suffices for every walk: between two links a walk only goes down, and
no path leads through more links than the limit. -/
def stepLimit (s : Survey) : Nat :=
  (FileTree.linkLimit + 1) * s.tree.top.directoryCount

def findings (s : Survey) : List Finding :=
  match s.start? with
  | none => []
  | some folder => s.below s.stepLimit [] folder

end Survey

end PackageUsage.Discovery
