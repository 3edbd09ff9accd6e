import PackageUsage.Source.Walk

/-!
# The first fault of a tree

The search for the first fault moves like the walk, but it does not go below a node without a fault.
A search that has not ended after a number of rounds is told from one that has ended with nothing.
-/

namespace PackageUsage.Source

namespace Visitor

/-- The place at which a search for faults goes on: below the focus only if a fault is there. -/
def onward? (v : Visitor) : Option Visitor :=
  (if v.focus.hasFault then v.firstChild? else none).or (nextSibling? v.right)

end Visitor

namespace Tree

/-- What a search for the first fault finds from a place on; `none` if it has not ended after the
given number of rounds. -/
def seekFault : Nat → Visitor → Option (Option Tree)
  | 0, _ => none
  | rounds + 1, v =>
    if v.focus.isFault then some (some v.focus)
    else
      match v.onward? with
      | some v' => seekFault rounds v'
      | none => some none

def firstFault? (t : Tree) : Option Tree :=
  (seekFault t.count (.top t)).join

/-- The line and the column of the first fault; those of the start of a text if none is found. -/
def faultPlace (t : Tree) : Nat × Nat :=
  match t.firstFault? with
  | some fault => (fault.line, fault.column)
  | none => (1, 1)

end Tree

end PackageUsage.Source
