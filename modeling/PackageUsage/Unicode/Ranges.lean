/-!
# Sets of characters

A set of code points as a sorted array of closed ranges, with membership by bisection. Tables are
spelled as lines of text: hexadecimal ranges `lo-hi`, ranges `lo~hi` of every second point, or
single points, divided by blanks.
-/

namespace PackageUsage.Unicode

/-- Closed ranges of code points, in increasing order and disjoint. -/
structure Ranges where
  items : Array (Nat × Nat)
deriving Repr, Inhabited

namespace Ranges

/-- Whether a code point lies in one of the ranges with index from `lo` up to `hi`; the fuel bounds
the number of halvings. -/
def search (r : Ranges) (n : Nat) : Nat → Nat → Nat → Bool
  | 0, _, _ => false
  | fuel + 1, lo, hi =>
    if lo < hi then
      let mid := (lo + hi) / 2
      match r.items[mid]? with
      | none => false
      | some (first, last) =>
        if n < first then r.search n fuel lo mid
        else if last < n then r.search n fuel (mid + 1) hi
        else true
    else false

def containsNat (r : Ranges) (n : Nat) : Bool :=
  r.search n 32 0 r.items.size

def contains (r : Ranges) (c : Char) : Bool :=
  r.containsNat c.toNat

def empty : Ranges := ⟨#[]⟩

def between (first last : Nat) : Ranges := ⟨#[(first, last)]⟩

/-- Joins ranges that are sorted by their first point where they meet or overlap; `first` and `last`
bound the range that may still grow. -/
def joinFrom (first last : Nat) : List (Nat × Nat) → List (Nat × Nat)
  | [] => [(first, last)]
  | (a, b) :: rest =>
    if a ≤ last + 1 then joinFrom first (max last b) rest
    else (first, last) :: joinFrom a b rest

/-- The set of the points of any closed ranges. -/
def ofPairs (pairs : List (Nat × Nat)) : Ranges :=
  match pairs.mergeSort (fun p q => p.1 ≤ q.1) with
  | [] => empty
  | (a, b) :: rest => ⟨(joinFrom a b rest).toArray⟩

def union (r s : Ranges) : Ranges :=
  ofPairs (r.items.toList ++ s.items.toList)

def unionAll (sets : List Ranges) : Ranges :=
  ofPairs (sets.flatMap (·.items.toList))

def maxPoint : Nat := 0x10FFFF

/-- The points from `next` on that lie in none of some increasing ranges. -/
def gapsFrom (next : Nat) : List (Nat × Nat) → List (Nat × Nat)
  | [] => if next ≤ maxPoint then [(next, maxPoint)] else []
  | (a, b) :: rest =>
    if next < a then (next, a - 1) :: gapsFrom (b + 1) rest else gapsFrom (b + 1) rest

def complement (r : Ranges) : Ranges :=
  ⟨(gapsFrom 0 r.items.toList).toArray⟩

def inter (r s : Ranges) : Ranges :=
  (r.complement.union s.complement).complement

def diff (r s : Ranges) : Ranges :=
  r.inter s.complement

def symmDiff (r s : Ranges) : Ranges :=
  (r.diff s).union (s.diff r)

def digit (c : Char) : Nat :=
  if c.isDigit then c.toNat - 48 else c.toNat - 55

/-- Every second point from one to another. -/
def alternate (first last : Nat) : List (Nat × Nat) :=
  (List.range ((last - first) / 2 + 1)).map fun i => (first + 2 * i, first + 2 * i)

/-- The state of the reader of a table: the ranges read, the start of a range whose end is being
read, whether that range takes every second point, and the number being read. -/
structure Reading where
  items : Array (Nat × Nat) := #[]
  first : Option Nat := none
  everySecond : Bool := false
  number : Option Nat := none

def Reading.close (s : Reading) : Reading :=
  match s.number with
  | none => { s with first := none }
  | some n =>
    let first := s.first.getD n
    { items :=
        if s.everySecond then s.items ++ (alternate first n).toArray else s.items.push (first, n) }

def Reading.take (s : Reading) (c : Char) : Reading :=
  if c == ' ' then s.close
  else if c == '-' then { s with first := s.number, number := none }
  else if c == '~' then { s with first := s.number, everySecond := true, number := none }
  else { s with number := some (s.number.getD 0 * 16 + digit c) }

def ofTable (lines : List String) : Ranges :=
  ⟨(lines.foldl (fun (s : Reading) (line : String) => (line.foldl Reading.take s).close) {}).items⟩

end Ranges

end PackageUsage.Unicode
