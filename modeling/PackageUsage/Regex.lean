import PackageUsage.Unicode.Property

/-!
# Regular expressions

Regular expressions over characters with assertions about places in a text, and the places at which
they can end a match. The places reached from a set of places are computed for the whole set at
once, so that the work grows with the length of the text and never with the number of ways to match
it.
-/

namespace PackageUsage

/-- A condition on a place in a text. -/
inductive Assertion
  | textStart
  | textEnd
  /-- The start of a line; `crlf` takes a carriage return for a line end too. -/
  | lineStart (crlf : Bool)
  /-- The end of a line. -/
  | lineEnd (crlf : Bool)
  /-- A place with a word character of a set on exactly one side. -/
  | wordBoundary (word : Unicode.Ranges)
  | notWordBoundary (word : Unicode.Ranges)
  | wordStart (word : Unicode.Ranges)
  | wordEnd (word : Unicode.Ranges)
  /-- A place with no word character before it. -/
  | wordStartHalf (word : Unicode.Ranges)
  /-- A place with no word character after it. -/
  | wordEndHalf (word : Unicode.Ranges)
deriving Inhabited

namespace Assertion

def before? (text : Array Char) : Nat → Option Char
  | 0 => none
  | i + 1 => text[i]?

def holds (text : Array Char) (i : Nat) : Assertion → Bool
  | .textStart => i == 0
  | .textEnd => i == text.size
  | .lineStart crlf =>
    i == 0 || before? text i == some '\n' ||
      (crlf && before? text i == some '\r' && text[i]? != some '\n')
  | .lineEnd crlf =>
    i == text.size ||
      if crlf then
        text[i]? == some '\r' || (text[i]? == some '\n' && before? text i != some '\r')
      else text[i]? == some '\n'
  | .wordBoundary w => (before? text i).any w.contains != text[i]?.any w.contains
  | .notWordBoundary w => (before? text i).any w.contains == text[i]?.any w.contains
  | .wordStart w => !(before? text i).any w.contains && text[i]?.any w.contains
  | .wordEnd w => (before? text i).any w.contains && !text[i]?.any w.contains
  | .wordStartHalf w => !(before? text i).any w.contains
  | .wordEndHalf w => !text[i]?.any w.contains

end Assertion

inductive Regex
  | empty
  | char (c : Char)
  | set (chars : Unicode.Ranges)
  | assertion (a : Assertion)
  | group (e : Regex)
  | seq (e f : Regex)
  | alt (e f : Regex)
  /-- At least `least` and, if given, at most `most` times. -/
  | repetition (e : Regex) (least : Nat) (most : Option Nat)
deriving Inhabited

namespace Regex

def seqAll : List Regex → Regex
  | [] => .empty
  | [e] => e
  | e :: rest => .seq e (seqAll rest)

/-- Any one of several expressions; there is at least the first. -/
def altAll (e : Regex) : List Regex → Regex
  | [] => e
  | f :: rest => .alt e (altAll f rest)

/-- The union of two increasing lists of places. -/
def merge : List Nat → List Nat → List Nat
  | [], js => js
  | i :: is, [] => i :: is
  | i :: is, j :: js =>
    if i < j then i :: merge is (j :: js)
    else if j < i then j :: merge (i :: is) js
    else i :: merge is js
termination_by is js => is.length + js.length

/-- The places reached by a step applied a number of times. -/
def iterate (step : List Nat → List Nat) : Nat → List Nat → List Nat
  | 0, places => places
  | n + 1, places => iterate step n (step places)

/-- The places reached by a step applied up to a number of times; once a step adds no place, no
further step does. -/
def closure (step : List Nat → List Nat) : Nat → List Nat → List Nat
  | 0, places => places
  | n + 1, places =>
    let more := merge places (step places)
    if more == places then places else closure step n more

/-- The places, in increasing order, at which a match that starts at one of some places can end. No
more than one repetition for each place of the text, and one more, can lead to new places. -/
def ends (text : Array Char) : Regex → List Nat → List Nat
  | .empty, places => places
  | .char c, places => (places.filter fun i => text[i]? == some c).map (· + 1)
  | .set s, places => (places.filter fun i => text[i]?.any s.contains).map (· + 1)
  | .assertion a, places => places.filter fun i => a.holds text i
  | .group e, places => e.ends text places
  | .seq e f, places => f.ends text (e.ends text places)
  | .alt e f, places => merge (e.ends text places) (f.ends text places)
  | .repetition e least most, places =>
    let bound := text.size + 2
    let start := iterate (e.ends text) (min least bound) places
    let further := match most with
      | none => bound
      | some n => min (n - least) bound
    closure (e.ends text) further start

def matchesIn (e : Regex) (text : String) : Bool :=
  let chars := text.toList.toArray
  !(e.ends chars (List.range (chars.size + 1))).isEmpty

end Regex

end PackageUsage
