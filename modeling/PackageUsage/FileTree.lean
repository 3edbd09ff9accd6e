import PackageUsage.Path

/-!
# File trees

The files below a working directory as a value: directories, regular files and symbolic links. A
path is followed step by step, through links, to a place: the names that lead from the working
directory to it.

Nothing is known of what lies outside the working directory, nor where it lies itself. So a scan
root, the path of a settings file and the target of a link are relative: an absolute one leads
nowhere, and so does one that leads out of the working directory.
-/

namespace PackageUsage

/-- An entry of a directory, or a directory itself. -/
inductive FileNode
  | file (contents : ByteArray)
  | directory (entries : List (String × FileNode))
  | link (target : String)
deriving Inhabited

structure FileTree where
  entries : List (String × FileNode) := []
deriving Inhabited

/-- Why a path leads nowhere, or its contents cannot be had. -/
inductive FileError
  | notFound
  | notADirectory
  | isADirectory
  | tooManyLinks
  | invalidText
deriving DecidableEq, Repr

def FileError.message : FileError → String
  | .notFound => "No such file or directory (os error 2)"
  | .notADirectory => "Not a directory (os error 20)"
  | .isADirectory => "Is a directory (os error 21)"
  | .tooManyLinks => "Too many levels of symbolic links (os error 40)"
  | .invalidText => "stream did not contain valid UTF-8"

/-- The names that lead from the working directory to a node. -/
abbrev Place := List String

namespace FileNode

def entry? (name : String) : List (String × FileNode) → Option FileNode
  | [] => none
  | (n, node) :: rest => if n == name then some node else entry? name rest

/-- Replaces the entry with a name, or adds it at the end. -/
def putEntry (name : String) (node : FileNode) : List (String × FileNode) → List (String × FileNode)
  | [] => [(name, node)]
  | (n, old) :: rest =>
    if n == name then (n, node) :: rest else (n, old) :: putEntry name node rest

mutual

def directoryCount : FileNode → Nat
  | .file _ | .link _ => 0
  | .directory entries => directoryCountList entries + 1

def directoryCountList : List (String × FileNode) → Nat
  | [] => 0
  | (_, node) :: rest => node.directoryCount + directoryCountList rest

end

end FileNode

namespace FileTree

def top (t : FileTree) : FileNode :=
  .directory t.entries

/-- The node at the end of names that are followed without regard to links. -/
def nodeAt? : FileNode → Place → Option FileNode
  | node, [] => some node
  | .directory entries, name :: rest => (FileNode.entry? name entries).bind (nodeAt? · rest)
  | _, _ :: _ => none

/-- The steps of a path. A separator at the end asks for a directory, as does a final dot. -/
def steps (path : String) : List String :=
  let parts := (Path.segments path).filter (· != "")
  if path.endsWith "/" then parts ++ ["."] else parts

/-- Where a path has led: to a place, or to a link with steps left after it. -/
inductive Stop
  | arrived (place : Place)
  | atLink (folder : Place) (target : String) (rest : List String)

/-- Takes steps from a place, up to the first link. -/
def follow (t : FileTree) (place : Place) : List String → Except FileError Stop
  | [] => .ok (.arrived place)
  | step :: rest =>
    match nodeAt? t.top place with
    | some (.directory entries) =>
      if step == "." then t.follow place rest
      else if step == ".." then
        if place.isEmpty then .error .notFound else t.follow place.dropLast rest
      else
        match FileNode.entry? step entries with
        | none => .error .notFound
        | some (.link target) => .ok (.atLink place target rest)
        | some _ => t.follow (place ++ [step]) rest
    | _ => .error .notADirectory

/-- The number of links that may be followed on the way to one place. -/
def linkLimit : Nat := 40

/-- Takes steps from a place, through as many links as given, all of them relative. -/
def walkTo (t : FileTree) : Nat → Place → List String → Except FileError Place
  | links, place, todo =>
    match t.follow place todo with
    | .error e => .error e
    | .ok (.arrived p) => .ok p
    | .ok (.atLink folder target rest) =>
      if target.isEmpty || Path.isAbsolute target then .error .notFound
      else
        match links with
        | 0 => .error .tooManyLinks
        | links + 1 => t.walkTo links folder (steps target ++ rest)

/-- The place that a relative path leads to. -/
def locate (t : FileTree) (path : String) : Except FileError Place :=
  if path.isEmpty || Path.isAbsolute path then .error .notFound
  else t.walkTo linkLimit [] (steps path)

def find (t : FileTree) (path : String) : Except FileError FileNode := do
  let place ← t.locate path
  match nodeAt? t.top place with
  | some node => return node
  | none => throw .notFound

def exists? (t : FileTree) (path : String) : Bool :=
  (t.find path).toOption.isSome

def isDirectory (t : FileTree) (path : String) : Bool :=
  match t.find path with
  | .ok (.directory _) => true
  | _ => false

def isFile (t : FileTree) (path : String) : Bool :=
  match t.find path with
  | .ok (.file _) => true
  | _ => false

def readBytes (t : FileTree) (path : String) : Except FileError ByteArray := do
  match ← t.find path with
  | .file contents => return contents
  | .directory _ => throw .isADirectory
  | .link _ => throw .notFound

def readText (t : FileTree) (path : String) : Except FileError String := do
  match String.fromUTF8? (← t.readBytes path) with
  | some text => return text
  | none => throw .invalidText

/-! ## Changes -/

/-- Puts a node at the end of names, making the directories on the way that are missing. -/
def putAt (node : FileNode) : Place → List (String × FileNode) → List (String × FileNode)
  | [], entries => entries
  | [name], entries => FileNode.putEntry name node entries
  | name :: rest, entries =>
    let inner := match FileNode.entry? name entries with
      | some (.directory inner) => inner
      | _ => []
    FileNode.putEntry name (.directory (putAt node rest inner)) entries

def removeAt : Place → List (String × FileNode) → List (String × FileNode)
  | [], entries => entries
  | [name], entries => entries.filter (·.1 != name)
  | name :: rest, entries =>
    match FileNode.entry? name entries with
    | some (.directory inner) => FileNode.putEntry name (.directory (removeAt rest inner)) entries
    | _ => entries

/-- The place that a path names for a new entry: its directory is looked up through links as far as
it exists, and the last name is taken as it is. -/
def placeFor (t : FileTree) (path : String) : Place :=
  let names := (Path.segments path).filter fun s => s != "" && s != "."
  let parent := names.dropLast
  match t.walkTo linkLimit [] parent with
  | .ok place => place ++ names.getLast?.toList
  | .error _ => names

/-- The place that is written to: a regular file is written through links, as many as given. -/
def placeBehind (t : FileTree) : Nat → Place → Place
  | 0, place => place
  | links + 1, place =>
    match nodeAt? t.top place with
    | some (.link target) =>
      t.placeBehind links (t.placeFor ("/".intercalate (place.dropLast ++ [target])))
    | _ => place

/-- Creates or replaces an entry. A directory that exists is kept with its entries. -/
def write (t : FileTree) (path : String) (node : FileNode) : FileTree :=
  let place := t.placeFor path
  match node, nodeAt? t.top place with
  | .directory [], some (.directory _) => t
  | .file _, some (.link _) => { entries := putAt node (t.placeBehind linkLimit place) t.entries }
  | _, _ => { entries := putAt node place t.entries }

def remove (t : FileTree) (path : String) : FileTree :=
  { entries := removeAt (t.placeFor path) t.entries }

end FileTree

end PackageUsage
