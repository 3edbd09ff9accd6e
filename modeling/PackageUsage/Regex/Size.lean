import PackageUsage.Regex

/-!
# The size of a regular expression

How much memory the automaton of an expression would take that reads a text byte by byte. A pattern
is refused when this exceeds a limit, so that counted repetitions within repetitions stay small.
-/

namespace PackageUsage.Regex

/-- The greatest size that is accepted, in bytes. -/
def sizeLimit : Nat := 10485760

/-- The bytes that one state takes. -/
def stateSize : Nat := 32

/-- The bytes that one edge of a state with several edges takes. -/
def edgeSize : Nat := 8

def alternativeSize : Nat := 4

/-- The first and last bytes of the characters from one code point to another, position by position,
when these characters are exactly the combinations of such bytes. -/
def byteRanges (first last : Nat) : List (Nat × Nat) :=
  let cont (n k : Nat) := 0x80 + n / Nat.pow 64 k % 64
  if last < 0x80 then [(first, last)]
  else if last < 0x800 then
    [(0xC0 + first / 64, 0xC0 + last / 64), (cont first 0, cont last 0)]
  else if last < 0x10000 then
    [(0xE0 + first / 4096, 0xE0 + last / 4096), (cont first 1, cont last 1),
      (cont first 0, cont last 0)]
  else
    [(0xF0 + first / 262144, 0xF0 + last / 262144), (cont first 2, cont last 2),
      (cont first 1, cont last 1), (cont first 0, cont last 0)]

/-- Where a range of code points has to be cut so that one half is nearer to a combination of byte
ranges: after the first characters of one length, around the surrogates, and at multiples of a power
of 64. -/
def cut? (first last : Nat) : Option Nat :=
  let atLength := [0x7F, 0x7FF, 0xD7FF, 0xDFFF, 0xFFFF].find? fun m => first ≤ m && m < last
  let aligned := [64, 4096, 262144].findSome? fun m =>
    if first / m == last / m then none
    else if first % m != 0 then some (first / m * m + m - 1)
    else if last % m != m - 1 then some (last / m * m - 1)
    else none
  if atLength.isSome then atLength else if first < 0x80 then none else aligned

/-- The combinations of byte ranges for a range of code points; the fuel bounds the cuts. -/
def byteSequences : Nat → Nat → Nat → List (List (Nat × Nat))
  | 0, _, _ => []
  | fuel + 1, first, last =>
    if 0xD800 ≤ first && last ≤ 0xDFFF then []
    else
      match cut? first last with
      | some m => byteSequences fuel first m ++ byteSequences fuel (m + 1) last
      | none => [byteRanges first last]

def commonLength : List (Nat × Nat) → List (Nat × Nat) → Nat
  | a :: as, b :: bs => if a == b then commonLength as bs + 1 else 0
  | _, _ => 0

/-- The number of states for byte sequences that share equal starts with the sequence before
them. -/
def sharedStates (previous : List (Nat × Nat)) : List (List (Nat × Nat)) → Nat
  | [] => 0
  | s :: rest => s.length - commonLength previous s + sharedStates s rest

def setSize (s : Unicode.Ranges) : Nat :=
  let pairs := s.items.toList
  if pairs.all (·.2 < 0x80) then
    2 * stateSize + (if pairs.length ≤ 1 then 0 else pairs.length * edgeSize)
  else
    let sequences := pairs.flatMap fun (a, b) => byteSequences 32 a b
    (2 + sharedStates [] sequences) * stateSize + sequences.length * alternativeSize

/-- Whether an expression can match only the empty text. -/
def isWidthless : Regex → Bool
  | .empty | .assertion _ => true
  | .char _ | .set _ => false
  | .group e => e.isWidthless
  | .seq e f | .alt e f => e.isWidthless && f.isWidthless
  | .repetition e _ most => e.isWidthless || most == some 0

/-- The bytes that the automaton of an expression takes. -/
def size : Regex → Nat
  | .empty | .assertion _ => stateSize
  | .char c => c.utf8Size * stateSize
  | .set s => setSize s
  | .group e => e.size + 2 * stateSize
  | .seq e f => e.size + f.size
  | .alt e f => e.size + f.size + stateSize + 2 * alternativeSize
  | .repetition e least most =>
    let least' := if e.isWidthless then min least 1 else least
    let most' := if e.isWidthless then some (min (most.getD 1) 1) else most
    let choice := stateSize + 2 * alternativeSize
    match most' with
    | none => max least' 1 * e.size + choice + (if least' == 0 then choice + stateSize else 0)
    | some n =>
      if n == 0 then stateSize
      else n * e.size + (n - least') * choice + (if n == least' then 0 else stateSize)

def fits (e : Regex) : Bool :=
  e.size + 6 * stateSize ≤ sizeLimit

end PackageUsage.Regex
