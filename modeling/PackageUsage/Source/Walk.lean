import PackageUsage.Source.Tree

/-!
# Walking a tree

A place in a tree from which one moves to the first child, the next sibling or the parent, and the
walk that visits every node by such moves. The walk needs no stack of pending nodes beyond the
siblings to the right of the way from the top.
-/

namespace PackageUsage.Source

/-- A node of a tree with, for each node on the way up to the top, the siblings to its right. -/
structure Visitor where
  focus : Tree
  /-- The siblings to the right of the focus, then of its parent, and so on; the top has none. -/
  right : List (List Tree)

namespace Visitor

def top (t : Tree) : Visitor :=
  { focus := t, right := [] }

def firstChild? (v : Visitor) : Option Visitor :=
  match v.focus.children with
  | [] => none
  | c :: cs => some { focus := c, right := cs :: v.right }

/-- The nearest place to the right: the next sibling of the focus, or else of its parent, and so
on. -/
def nextSibling? : List (List Tree) → Option Visitor
  | [] => none
  | [] :: up => nextSibling? up
  | (t :: ts) :: up => some { focus := t, right := ts :: up }

def next? (v : Visitor) : Option Visitor :=
  v.firstChild?.or (nextSibling? v.right)

end Visitor

namespace Tree

mutual

def count : Tree → Nat
  | .node _ children => countList children + 1

def countList : List Tree → Nat
  | [] => 0
  | t :: rest => t.count + countList rest

end

/-- Visits a node and those after it, at most as many as the fuel allows. -/
def walkFrom {σ : Type} (visit : σ → Tree → σ) : Nat → Visitor → σ → σ
  | 0, _, s => s
  | fuel + 1, v, s =>
    let s' := visit s v.focus
    match v.next? with
    | some v' => walkFrom visit fuel v' s'
    | none => s'

def walk {σ : Type} (t : Tree) (s : σ) (visit : σ → Tree → σ) : σ :=
  walkFrom visit t.count (.top t) s

end Tree

end PackageUsage.Source
