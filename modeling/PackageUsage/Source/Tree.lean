import PackageUsage.Source.Cursor

/-!
# Syntax trees

The tree of a source file, with the nodes of its module declarations spelled out and everything
else left out or kept as `other`. Text that fits no rule is held by `error` nodes, and a token
that was supposed without being written is marked as missing.
-/

namespace PackageUsage.Source

inductive NodeKind where
  | program
  | importStatement
  | importClause
  | namedImports
  | importSpecifier
  | namespaceImport
  | exportStatement
  | exportClause
  | exportSpecifier
  | namespaceExport
  | identifier
  | string
  /-- Text that fits no rule. -/
  | error
  /-- Any other rule or token. -/
  | other
deriving DecidableEq, Repr, Inhabited

inductive Role where
  | name
  | renaming
  | source
deriving DecidableEq, Repr, Inhabited

structure NodeInfo where
  kind : NodeKind
  role : Option Role := none
  /-- The token was supposed, not written. -/
  missing : Bool := false
  text : String := ""
  /-- The line the node starts on, from 0. -/
  line : Nat := 0
  /-- The byte of that line it starts at, from 0. -/
  column : Nat := 0
deriving DecidableEq, Repr, Inhabited

inductive Tree where
  | node (info : NodeInfo) (children : List Tree)
deriving Repr, Inhabited

namespace Tree

def info : Tree → NodeInfo
  | .node info _ => info

def children : Tree → List Tree
  | .node _ children => children

def kind (t : Tree) : NodeKind :=
  t.info.kind

/-- Whether the top node itself is a fault: text that fits no rule, or a missing token. -/
def isFault (t : Tree) : Bool :=
  t.info.kind == .error || t.info.missing

def text (t : Tree) : String :=
  t.info.text

/-- The line the tree starts on, counted from 1. -/
def line (t : Tree) : Nat :=
  t.info.line + 1

/-- The byte column the tree starts at, counted from 1. -/
def column (t : Tree) : Nat :=
  t.info.column + 1

def child? (t : Tree) (role : Role) : Option Tree :=
  t.children.find? fun c => c.info.role == some role

mutual

/-- The nodes of a tree, each before the nodes below it and these from left to right. -/
def preorder : Tree → List Tree
  | .node info children => .node info children :: preorderList children

/-- The nodes of a list of trees, tree after tree. -/
def preorderList : List Tree → List Tree
  | [] => []
  | t :: rest => preorder t ++ preorderList rest

end

mutual

def hasFault : Tree → Bool
  | .node info children => info.kind == .error || info.missing || hasFaultList children

def hasFaultList : List Tree → Bool
  | [] => false
  | t :: rest => hasFault t || hasFaultList rest

end

end Tree

end PackageUsage.Source
