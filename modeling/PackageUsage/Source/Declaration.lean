import PackageUsage.Record
import PackageUsage.Source.Tree

/-!
# Declarations of a tree

What an import or export node says: the module it names, and the names it binds or re-exports in
source order.
-/

namespace PackageUsage.Source.Tree

/-- The declaration kind of a node, if it is a declaration. -/
def declarationKind? (t : Tree) : Option DeclarationKind :=
  match t.kind with
  | .importStatement => some .importing
  | .exportStatement => some .exporting
  | _ => none

/-- A literal without one pair of equal quotes around it. -/
def unquoteList (cs : List Char) : List Char :=
  match cs with
  | q :: rest =>
    if (q = '"' ∨ q = '\'') ∧ rest.getLast? = some q then rest.dropLast else cs
  | [] => []

def unquote (literal : String) : String :=
  String.ofList (unquoteList literal.toList)

/-- The module a declaration names, when it is given by a string. -/
def specifier? (t : Tree) : Option String := do
  let _ ← t.declarationKind?
  let source ← t.child? .source
  if source.kind = .string then some (unquote source.text) else none

/-- The name a leaf spells: the text of an identifier, the contents of a string. -/
def nameText (t : Tree) : String :=
  if t.kind = .string then unquote t.text else t.text

/-- The name of one list element: its new name if it has one, else its name; none if empty. -/
def specifierName? (t : Tree) : Option String :=
  match (t.child? .renaming).or (t.child? .name) with
  | some leaf => if leaf.nameText.isEmpty then none else some leaf.nameText
  | none => none

def listNames (element : NodeKind) (t : Tree) : List String :=
  (t.children.filter fun c => c.kind == element).filterMap specifierName?

/-- The name a whole module is bound to. -/
def namespaceName? (t : Tree) : Option String :=
  (t.children.find? fun c => c.kind == .identifier || c.kind == .string).map nameText

def importPartNames (t : Tree) : List String :=
  match t.kind with
  | .identifier => [t.text]
  | .namedImports => t.listNames .importSpecifier
  | .namespaceImport => t.namespaceName?.toList
  | _ => []

def importNames (t : Tree) : List String :=
  match t.kind with
  | .importClause => t.children.flatMap importPartNames
  | .namedImports => t.listNames .importSpecifier
  | .namespaceImport => t.namespaceName?.toList
  | _ => []

def exportNames (t : Tree) : List String :=
  match t.kind with
  | .exportClause => t.listNames .exportSpecifier
  | .namespaceExport => t.namespaceName?.toList
  | _ => []

/-- The names a node binds or re-exports; none if it is no declaration. -/
def boundNames (t : Tree) : List String :=
  match t.declarationKind? with
  | some .importing => t.children.flatMap importNames
  | some .exporting => t.children.flatMap exportNames
  | none => []

/-- The declarations of a tree, each before those below it. -/
def declarations (t : Tree) : List Tree :=
  t.preorder.filter fun n => n.declarationKind?.isSome

end PackageUsage.Source.Tree
