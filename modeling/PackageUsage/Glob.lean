import PackageUsage.Regex

/-!
# Globs

Patterns of file paths: `*` and `?` stay within a segment, `**` stands for any number of whole
segments, brackets hold a class and braces alternatives. A path is matched byte by byte in UTF-8, so
`?` stands for one byte.
-/

namespace PackageUsage

namespace Glob

inductive Token
  | literal (c : Char)
  /-- One byte other than a separator. -/
  | any
  /-- Any number of bytes other than separators. -/
  | zeroOrMore
  /-- Any number of leading segments: a double star and a separator at the start. -/
  | leadingSegments
  /-- Everything below a directory: a separator and a double star at the end. -/
  | trailingSegments
  /-- Any number of segments between two separators. -/
  | innerSegments
  | set (negated : Bool) (ranges : List (Char × Char))
  | alternatives (branches : List (List Token))
deriving Repr, Inhabited

inductive Fault
  | unclosedClass
  | invalidRange (first last : Char)
  | unopenedAlternatives
  | unclosedAlternatives
  | danglingEscape
deriving DecidableEq, Repr

def Fault.message : Fault → String
  | .unclosedClass => "unclosed character class; missing ']'"
  | .invalidRange first last =>
    "invalid range; '" ++ String.singleton first ++ "' > '" ++ String.singleton last ++ "'"
  | .unopenedAlternatives =>
    "unopened alternate group; missing '\x7b' (maybe escape '\x7d' with '[\x7d]'?)"
  | .unclosedAlternatives =>
    "unclosed alternate group; missing '\x7d' (maybe escape '\x7b' with '[\x7b]'?)"
  | .danglingEscape => "dangling '\\'"

def Fault.report (f : Fault) (text : String) : String :=
  "error parsing glob '" ++ text ++ "': " ++ f.message

/-! ## Reading -/

/-- The members of a class up to its closing bracket, last first, with the text after it. A hyphen
between two characters makes a range; `pending` tells that one has just been read. -/
def classMembers : Bool → Bool → List (Char × Char) → List Char →
    Except Fault (Option (List (Char × Char) × List Char))
  | _, _, _, [] => .ok none
  | isFirst, pending, ranges, ']' :: rest =>
    if isFirst then classMembers false pending ((']', ']') :: ranges) rest
    else .ok (some (if pending then ('-', '-') :: ranges else ranges, rest))
  | isFirst, pending, ranges, c :: rest =>
    if c == '-' && isFirst then classMembers false pending (('-', '-') :: ranges) rest
    else if c == '-' && !pending then classMembers false true ranges rest
    else if pending then
      match ranges with
      | (first, _) :: others =>
        if c < first then .error (.invalidRange first c)
        else classMembers false false ((first, c) :: others) rest
      | [] => classMembers false false [(c, c)] rest
    else classMembers false false ((c, c) :: ranges) rest

/-- A class after its opening bracket, with the text after it; nothing if it is not closed. -/
def classToken (rest : List Char) : Except Fault (Option (Token × List Char)) := do
  let negated := rest.head? == some '!' || rest.head? == some '^'
  let found ← classMembers true false [] (if negated then rest.tail else rest)
  return found.map fun (ranges, rest) => (.set negated ranges.reverse, rest)

/-- An open group of alternatives: the branches read, last first, and the tokens before it. -/
structure Group where
  branches : List (List Token)
  before : List Token

/-- What has been read: the tokens of the current branch, last first, the open groups, the last
character read, and whether a bracket has turned out not to be closed. -/
structure Reading where
  tokens : List Token := []
  groups : List Group := []
  last : Option Char := none
  bracketsLiteral : Bool := false

def Reading.add (r : Reading) (c : Char) (ts : List Token) : Reading :=
  { r with tokens := ts.reverse ++ r.tokens, last := some c }

/-- Reads one star or two, the first of which has been taken; the text after them starts at `rest`.
A double star has its meaning only where it makes up a whole segment. -/
def Reading.star (r : Reading) (rest : List Char) : Reading × List Char :=
  match rest with
  | '*' :: rest =>
    let plain := (r.add '*' [.zeroOrMore, .zeroOrMore], rest)
    if r.tokens.isEmpty then
      match rest with
      | [] => (r.add '*' [.leadingSegments], [])
      | '/' :: more => (r.add '/' [.leadingSegments], more)
      | _ => plain
    else
      let afterOpening := !r.groups.isEmpty && (r.last == some ',' || r.last == some '{')
      if r.last != some '/' && !afterOpening then plain
      else
        let place (c : Char) (token : Token) : Reading :=
          match r.tokens with
          | .leadingSegments :: _ | .trailingSegments :: _ => { r with last := some c }
          | _ :: others => { r with tokens := token :: others, last := some c }
          | [] => { r with last := some c }
        match rest with
        | [] => (place '*' .trailingSegments, [])
        | '/' :: more => (place '/' .innerSegments, more)
        | c :: _ =>
          if (c == ',' || c == '}') && !r.groups.isEmpty then (place '*' .trailingSegments, rest)
          else plain
  | _ => (r.add '*' [.zeroOrMore], rest)

/-- Reads one construct, of which the first character has been taken. -/
def Reading.step (openBrackets : Bool) (r : Reading) (c : Char) (rest : List Char) :
    Except Fault (Reading × List Char) :=
  match c with
  | '?' => .ok (r.add c [.any], rest)
  | '*' => .ok (r.star rest)
  | '[' =>
    if r.bracketsLiteral then .ok (r.add c [.literal c], rest)
    else do
      match ← classToken rest with
      | some (token, rest) => return (r.add ']' [token], rest)
      | none =>
        if openBrackets then return ({ r.add c [.literal c] with bracketsLiteral := true }, rest)
        else throw .unclosedClass
  | '{' =>
    .ok ({ r with tokens := [], groups := ⟨[], r.tokens⟩ :: r.groups, last := some c }, rest)
  | '}' =>
    match r.groups with
    | [] => .error .unopenedAlternatives
    | g :: groups =>
      let branches := ((r.tokens :: g.branches).map List.reverse).reverse
      .ok ({ r with tokens := .alternatives branches :: g.before, groups, last := some c }, rest)
  | ',' =>
    match r.groups with
    | [] => .ok (r.add c [.literal c], rest)
    | g :: groups =>
      .ok ({ r with
        tokens := [], groups := { g with branches := r.tokens :: g.branches } :: groups,
        last := some c }, rest)
  | '\\' =>
    match rest with
    | [] => .error .danglingEscape
    | e :: rest => .ok (r.add e [.literal e], rest)
  | _ => .ok (r.add c [.literal c], rest)

/-- Reads a whole text; each step takes at least one character. -/
def readFrom (openBrackets : Bool) : Nat → Reading → List Char → Except Fault (List Token)
  | 0, r, _ | _, r, [] =>
    if r.groups.isEmpty then .ok r.tokens.reverse else .error .unclosedAlternatives
  | fuel + 1, r, c :: rest => do
    let (r, rest) ← r.step openBrackets c rest
    readFrom openBrackets fuel r rest

end Glob

structure Glob where
  tokens : List Glob.Token
deriving Repr, Inhabited

namespace Glob

/-- The glob that a text spells. With `openBrackets`, a bracket that is never closed stands for
itself. -/
def ofText (openBrackets : Bool) (text : String) : Except Fault Glob := do
  let tokens ← readFrom openBrackets text.length {} text.toList
  return ⟨tokens⟩

/-! ## Matching -/

/-- The bytes of a character in UTF-8, each as the character with its number. -/
def bytesOf (c : Char) : List Char :=
  (String.utf8EncodeChar c).map fun b => Char.ofNat b.toNat

def bytes (text : String) : List Char :=
  text.toList.flatMap bytesOf

def anyByte : Regex :=
  .set (Unicode.Ranges.between 0 255)

def segmentByte : Regex :=
  .set ⟨#[(0, 0x2E), (0x30, 255)]⟩

def star (e : Regex) : Regex :=
  .repetition e 0 none

/-- The bytes of some characters, one after another. -/
def exactly (cs : List Char) : Regex :=
  Regex.seqAll ((cs.flatMap bytesOf).map Regex.char)

/-- The bytes that the ranges of a class take in: of an end beyond ASCII each byte but the one next
to the hyphen stands for itself. -/
def classRanges (ranges : List (Char × Char)) : Unicode.Ranges :=
  let single (b : Char) := (b.toNat, b.toNat)
  Unicode.Ranges.ofPairs <| ranges.flatMap fun (first, last) =>
    if first == last then (bytesOf first).map single
    else
      let low := bytesOf first
      let high := bytesOf last
      (low.dropLast.map single) ++ [((low.getLastD 'a').toNat, (high.headD 'a').toNat)]
        ++ high.tail.map single

mutual

/-- The regular expression of a token over bytes. Alternatives that are empty do not count. -/
def Token.regex : Token → Regex
  | .literal c => exactly [c]
  | .any => segmentByte
  | .zeroOrMore => star segmentByte
  | .leadingSegments => .alt (.repetition (.char '/') 0 (some 1)) (.seq (star anyByte) (.char '/'))
  | .trailingSegments => .seq (.char '/') (star anyByte)
  | .innerSegments => .alt (.char '/') (.seq (.char '/') (.seq (star anyByte) (.char '/')))
  | .set negated ranges =>
    let bytes := classRanges ranges
    .set (if negated then bytes.complement else bytes)
  | .alternatives branches =>
    match branchRegexes branches with
    | [] => .empty
    | e :: rest => Regex.altAll e rest

def tokenRegexes : List Token → List Regex
  | [] => []
  | t :: ts => t.regex :: tokenRegexes ts

/-- The regular expressions of the branches that spell something. -/
def branchRegexes : List (List Token) → List Regex
  | [] => []
  | ts :: rest =>
    if spellsNothing ts then branchRegexes rest
    else Regex.seqAll (tokenRegexes ts) :: branchRegexes rest

def spellsNothing : List Token → Bool
  | [] => true
  | .alternatives branches :: ts => branchesSpellNothing branches && spellsNothing ts
  | _ :: _ => false

def branchesSpellNothing : List (List Token) → Bool
  | [] => true
  | ts :: rest => spellsNothing ts && branchesSpellNothing rest

end

/-- The regular expression of a glob. A double star alone stands for every path. -/
def regex (g : Glob) : Regex :=
  match g.tokens with
  | [.leadingSegments] => star anyByte
  | ts => Regex.seqAll (tokenRegexes ts)

def isName (ts : List Token) : Bool :=
  !ts.isEmpty && ts.all fun | .literal c => c != '/' | _ => false

/-- Whether tokens, last first, start with an extension and its dot. -/
def endsWithExtension : List Token → Bool
  | .literal '/' :: _ => false
  | .literal '.' :: _ => true
  | .literal _ :: ts => endsWithExtension ts
  | _ => false

/-- Whether a glob is decided by the last segment of a path: it gives the whole segment, or its
extension. A path that ends with a dot has no such segment. -/
def isByName (g : Glob) : Bool :=
  match g.tokens with
  | .leadingSegments :: ts => isName ts || (endsWithExtension ts.reverse && !isSuffixOnly ts)
  | ts => !ts.all (fun | .literal _ => true | _ => false) && endsWithExtension ts.reverse
where
  /-- Whether tokens spell several whole segments. -/
  isSuffixOnly (ts : List Token) : Bool :=
    ts.all fun | .literal _ => true | _ => false

def accepts (g : Glob) (path : String) : Bool :=
  let text := (bytes path).toArray
  if g.isByName && path.endsWith "." then false
  else (g.regex.ends text [0]).contains text.size

end Glob

end PackageUsage
