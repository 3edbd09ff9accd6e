import PackageUsage.Source.Fault
import PackageUsage.Source.Repair
import PackageUsage.Source.Verdict

/-!
# The tree of a file

A file is accepted when its tree has no fault, or when the strict dialect of its kind accepts it:
then the tree with its faults is used as it is.
-/

namespace PackageUsage.Source

inductive ParseError
  | unsupported (path : String)
  | malformed (path : String) (line column : Nat)
deriving DecidableEq, Repr

def ParseError.message : ParseError → String
  | .unsupported path => "no grammar for " ++ path
  | .malformed path line column =>
    "syntax error in " ++ path ++ " at line " ++ toString line ++ ", column " ++ toString column

/-- The tree of a file with the given text. -/
def parse (path text : String) : Except ParseError Tree :=
  match Language.ofPath? path with
  | none => .error (.unsupported path)
  | some language =>
    let tree := treeOfText language text
    if tree.hasFault then
      let (line, column) := tree.faultPlace
      if isWellFormed path text then .ok tree else .error (.malformed path line column)
    else .ok tree

end PackageUsage.Source
