import PackageUsage.IgnoreRules

/-!
# Ignore files along a path

The ignore files that bear on an entry: those of the directories from the scan root down to it, and
those of the directories above the root. `.ignore` files come before `.gitignore` files, and these
before the exclude file of the repository; of one kind the nearest file with an opinion decides.
Files of a repository hold only inside it. The ignore file that a user keeps for all repositories is
left out: it lies outside the tree.
-/

namespace PackageUsage.Discovery

/-- The ignore files of one directory. -/
structure Level where
  /-- The number of leading names of an entry's path that lead to this directory. -/
  depth : Nat := 0
  /-- The names from this directory down to the scan root, for a directory above it. -/
  above : List String := []
  own : IgnoreRules := {}
  repository : IgnoreRules := {}
  repositoryExclude : IgnoreRules := {}
  /-- A repository starts here. -/
  startsRepository : Bool := false
deriving Inhabited

/-- An entry's path as seen from a level, given by names from the scan root. How the root itself is
written does not matter here, so its text may begin with `./` once and not more often. -/
def Level.relative (l : Level) (names : List String) : String :=
  "/".intercalate (l.above ++ names.drop l.depth)

def firstLine? (t : FileTree) (path : String) : Option String :=
  match t.readBytes path with
  | .ok contents => (IgnoreRules.linesOf contents).head?
  | .error _ => none

/-- The directory of a repository's own files, for the directory that holds it. Where the repository
is a file, that file names a directory, and a file there names the one in question. -/
def repositoryFiles? (t : FileTree) (directory : String) : Option String :=
  let git := Path.join directory ".git"
  if t.isFile git then do
    let line ← firstLine? t git
    let named ← Text.dropPrefix? "gitdir: ".toList line.toList
    let real := String.ofList named
    let common ← firstLine? t (Path.join real "commondir")
    return if common.startsWith "." then Path.join real common else common
  else some git

def Level.read (t : FileTree) (directory : String) (depth : Nat) (above : List String) : Level :=
  { depth, above
    own := .ofFile t (Path.join directory ".ignore")
    repository := .ofFile t (Path.join directory ".gitignore")
    repositoryExclude :=
      match repositoryFiles? t directory with
      | some files => .ofFile t (Path.join files "info/exclude")
      | none => {}
    startsRepository :=
      t.exists? (Path.join directory ".git") || t.exists? (Path.join directory ".jj") }

/-- The levels above a scan root at a place, the nearest first. -/
def levelsAbove (t : FileTree) (place : Place) : List Level :=
  (List.range place.length).reverse.map fun n =>
    let directory := place.take n
    let path := if directory.isEmpty then "." else "/".intercalate directory
    Level.read t path 0 (place.drop n)

/-- The levels of one repository: up to the first at which one starts. -/
def repositoryLevels : List Level → List Level
  | [] => []
  | l :: rest => if l.startsRepository then [l] else l :: repositoryLevels rest

/-- What the ignore files along a path say of an entry; the nearest level comes first. -/
def verdict? (levels : List Level) (names : List String) (isDirectory : Bool) :
    Option IgnoreVerdict :=
  let opinion (rules : Level → IgnoreRules) (l : Level) : Option IgnoreVerdict :=
    (rules l).verdict? (l.relative names) isDirectory
  let own := levels.findSome? (opinion Level.own)
  if levels.any Level.startsRepository then
    let inside := repositoryLevels levels
    own.or ((inside.findSome? (opinion Level.repository)).or
      (inside.findSome? (opinion Level.repositoryExclude)))
  else own

end PackageUsage.Discovery
