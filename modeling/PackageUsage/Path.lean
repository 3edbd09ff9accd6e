import PackageUsage.Text.Blank

/-!
# Paths

A path is the text the user wrote. It is read as a list of components: repeated separators and
inner `.` components do not count, a leading `.` and every `..` do. Paths are compared by their
components, so `a//b`, `a/./b` and `a/b` are equal, and `a/b` stands before `a-b/c`.
-/

namespace PackageUsage.Path

/-- One step of a path. The constructors are listed in the order of comparison. -/
inductive Component where
  | root
  | current
  | parent
  | named (name : String)
deriving DecidableEq, Repr, Inhabited

namespace Component

/-- The place of a component's constructor in the order. -/
def rank : Component → Nat
  | .root => 0
  | .current => 1
  | .parent => 2
  | .named _ => 3

/-- The name of a component, empty for the three others. -/
def name : Component → String
  | .named s => s
  | _ => ""

/-- Components are ordered by kind and, within the named ones, by code points. -/
def compare (a b : Component) : Ordering :=
  (Ord.compare a.rank b.rank).then (Ord.compare a.name b.name)

def text : Component → String
  | .root => "/"
  | .current => "."
  | .parent => ".."
  | .named s => s

end Component

/-- The separator-free pieces of a path text. -/
def segments (path : String) : List String :=
  (Text.splitOn '/' path.toList).map String.ofList

/-- The component a segment stands for, when it stands for one inside a path. -/
def ofSegment : String → Option Component
  | "" => none
  | "." => none
  | ".." => some .parent
  | s => some (.named s)

def components (path : String) : List Component :=
  match segments path with
  | [] => []
  | [""] => []
  | first :: rest =>
    let start : List Component :=
      match first with
      | "" => [.root]
      | "." => [.current]
      | s => (ofSegment s).toList
    start ++ rest.filterMap ofSegment

/-- Lexicographic comparison of two component lists. -/
def compareComponents : List Component → List Component → Ordering
  | [], [] => .eq
  | [], _ :: _ => .lt
  | _ :: _, [] => .gt
  | a :: as, b :: bs => (a.compare b).then (compareComponents as bs)

def compare (a b : String) : Ordering :=
  compareComponents (components a) (components b)

/-- The order by components, ties allowed. -/
def le (a b : String) : Bool :=
  (compare a b).isLE

/-- The last component, when it has a name. -/
def fileName? (path : String) : Option String :=
  match (components path).getLast? with
  | some (.named s) => some s
  | _ => none

/-- What follows the last dot of a file name, when something stands before that dot. -/
def extensionOf? (name : String) : Option String :=
  match (Text.splitOn '.' name.toList).reverse with
  | [] => none
  | [_] => none
  | [_, []] => none
  | after :: _ => some (String.ofList after)

def extension? (path : String) : Option String :=
  (fileName? path).bind extensionOf?

def isAbsolute (path : String) : Bool :=
  path.startsWith "/"

/-- `path` seen from the directory `base`. -/
def join (base path : String) : String :=
  if isAbsolute path then path
  else if base.isEmpty || base.endsWith "/" then base ++ path
  else base ++ "/" ++ path

def ofComponents : List Component → String
  | [] => ""
  | .root :: rest => "/" ++ "/".intercalate (rest.map Component.text)
  | cs => "/".intercalate (cs.map Component.text)

/-- The components of `path` below the directory `base`, when it lies there. -/
def stripBase? (base path : String) : Option (List Component) :=
  Text.dropPrefix? (components base) (components path)

end PackageUsage.Path
