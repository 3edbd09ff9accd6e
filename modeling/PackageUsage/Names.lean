import PackageUsage.Path
import PackageUsage.Record

/-!
# Names and order of a report

The set of names that a list of records takes from a package, and the records in the order of
their files. A bound name may hold several pieces: braces are dropped and commas divide.
-/

namespace PackageUsage

/-- The pieces of a bound name: braces dropped, cut at commas, trimmed, empty pieces dropped. -/
def pieces (name : String) : List String :=
  let kept := name.toList.filter fun c => c != '{' && c != '}'
  ((Text.splitOn ',' kept).map Text.trimList |>.filter (!·.isEmpty)).map String.ofList

/-- A sorted list without repetitions of neighbours. -/
def dropRepeats {α : Type} [DecidableEq α] : List α → List α
  | [] => []
  | [x] => [x]
  | x :: y :: rest => if x = y then dropRepeats (y :: rest) else x :: dropRepeats (y :: rest)

/-- The texts of a list, once each, in the order of their code points. -/
def sortedSet (texts : List String) : List String :=
  dropRepeats (texts.mergeSort fun a b => decide (a ≤ b))

namespace Record

/-- The names that a list of records takes, once each and sorted. -/
def uniqueNames (records : List Record) : List String :=
  sortedSet ((records.flatMap Record.names).flatMap pieces)

/-- The records in the order of their files; records of one file keep their order. -/
def sortedByFile (records : List Record) : List Record :=
  records.mergeSort fun a b => Path.le a.file b.file

end Record

end PackageUsage
