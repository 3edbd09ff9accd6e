import PackageUsage.Source.Declaration
import PackageUsage.Source.Walk
import PackageUsage.Target

/-!
# Collecting records

The records of one file: one for each declaration that names an accepted module and binds at least
one name, in the order of the walk.
-/

namespace PackageUsage

/-- The record of a node, if it is a declaration that counts. -/
def Source.Tree.record? (file : String) (matcher : Matcher) (node : Source.Tree) :
    Option Record := do
  let kind ← node.declarationKind?
  let specifier ← node.specifier?
  if matcher.accepts specifier && !node.boundNames.isEmpty then
    some { file, kind, specifier, names := node.boundNames, line := node.line }
  else none

def collect (file : String) (matcher : Matcher) (tree : Source.Tree) (records : List Record) :
    List Record :=
  records ++ (tree.walk [] fun found node =>
    match node.record? file matcher with
    | some r => r :: found
    | none => found).reverse

end PackageUsage
