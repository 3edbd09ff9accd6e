import PackageUsage.Pattern.Expression
import PackageUsage.Regex
import PackageUsage.Unicode.Folding
import PackageUsage.Unicode.Script

/-!
# The meaning of target patterns

The regular expression that an expression of a pattern stands for, under the flags in force. Flags
set in the middle of a group hold to the end of that group, across its branches.
-/

namespace PackageUsage.Pattern

open Unicode (Ranges)

structure Flags where
  caseless : Bool := false
  multiLine : Bool := false
  dotMatchesNewLine : Bool := false
  unicode : Bool := true
  crlf : Bool := false

/-- Changes flags by one setting. Which repetitions try less first does not matter here, and blanks
have been dealt with in reading. -/
def Flags.setOne (f : Flags) : Flag × Bool → Flags
  | (.caseless, v) => { f with caseless := v }
  | (.multiLine, v) => { f with multiLine := v }
  | (.dotMatchesNewLine, v) => { f with dotMatchesNewLine := v }
  | (.unicode, v) => { f with unicode := v }
  | (.crlf, v) => { f with crlf := v }
  | (.swapGreed, _) | (.ignoreBlanks, _) => f

def Flags.set (f : Flags) (settings : FlagSettings) : Flags :=
  settings.foldl Flags.setOne f

/-! ## Sets of characters -/

def asciiWord : Ranges :=
  Ranges.ofPairs [(0x30, 0x39), (0x41, 0x5A), (0x5F, 0x5F), (0x61, 0x7A)]

/-- The characters of words: letters, marks, decimal digits, connectors and the two joiners. -/
def unicodeWord : Ranges :=
  Ranges.unionAll
    ([Unicode.propertyRanges "alphabetic", Unicode.propertyRanges "joincontrol"]
      ++ ["mn", "mc", "me", "nd", "pc"].map Unicode.categoryRanges)

def Flags.word (f : Flags) : Ranges :=
  if f.unicode then unicodeWord else asciiWord

def Shorthand.ranges (f : Flags) : Shorthand → Ranges
  | .digit => if f.unicode then Unicode.categoryRanges "nd" else Ranges.between 0x30 0x39
  | .space =>
    if f.unicode then Unicode.propertyRanges "whitespace"
    else Ranges.ofPairs [(9, 13), (0x20, 0x20)]
  | .word => f.word

def PosixClass.ranges : PosixClass → Ranges
  | .alnum => Ranges.ofPairs [(0x30, 0x39), (0x41, 0x5A), (0x61, 0x7A)]
  | .alpha => Ranges.ofPairs [(0x41, 0x5A), (0x61, 0x7A)]
  | .ascii => Ranges.between 0 0x7F
  | .blank => Ranges.ofPairs [(9, 9), (0x20, 0x20)]
  | .cntrl => Ranges.ofPairs [(0, 0x1F), (0x7F, 0x7F)]
  | .digit => Ranges.between 0x30 0x39
  | .graph => Ranges.between 0x21 0x7E
  | .lower => Ranges.between 0x61 0x7A
  | .print => Ranges.between 0x20 0x7E
  | .punct => Ranges.ofPairs [(0x21, 0x2F), (0x3A, 0x40), (0x5B, 0x60), (0x7B, 0x7E)]
  | .space => Ranges.ofPairs [(9, 13), (0x20, 0x20)]
  | .upper => Ranges.between 0x41 0x5A
  | .word => asciiWord
  | .xdigit => Ranges.ofPairs [(0x30, 0x39), (0x41, 0x46), (0x61, 0x66)]

/-- A set with all that differs from its members in case only; without Unicode, the ASCII letters
alone have a case. -/
def fold (unicode : Bool) (s : Ranges) : Ranges :=
  let families := Unicode.caseFamilies.map fun family =>
    if unicode then family else family.filter (· < 128)
  let touched := families.filter (·.any s.containsNat)
  if touched.isEmpty then s else s.union (Ranges.ofPairs (touched.flatten.map fun n => (n, n)))

/-- Folds the case of a set if the flags ask for it, then negates it. Without Unicode the complement
holds bytes that are no characters, which is a fault. -/
def Flags.close (f : Flags) (span : Span) (negated : Bool) (s : Ranges) : Except Fault Ranges :=
  let folded := if f.caseless then fold f.unicode s else s
  if !negated then .ok folded
  else if f.unicode then .ok folded.complement
  else .error { cause := .invalidUtf8, span }

/-- The loose form of the name of a property: letters in lower case, without separators and without
a leading `is`. -/
def looseName (name : String) : String :=
  let chars := name.toList
  let lowered := chars.map Char.toLower
  let isMarked := lowered.take 2 == ['i', 's']
  let body := (if isMarked then lowered.drop 2 else lowered).filter fun c =>
    c != ' ' && c != '_' && c != '-' && c.toNat < 128
  if isMarked && body == ['c'] then "isc" else String.ofList body

/-- Properties of the standard, in loose form, of which a pattern cannot ask for the characters. -/
def otherProperties : List String :=
  ["age", "bidiclass", "bc", "bidimirroringglyph", "bmg", "bidipairedbracket", "bpb",
    "bidipairedbrackettype", "bpt", "block", "blk", "canonicalcombiningclass", "ccc", "casefolding",
    "cf", "compositionexclusion", "ce", "decompositionmapping", "dm", "decompositiontype", "dt",
    "eastasianwidth", "ea", "equivalentunifiedideograph", "equideo", "expandsonnfc", "xonfc",
    "expandsonnfd", "xonfd", "expandsonnfkc", "xonfkc", "expandsonnfkd", "xonfkd", "fcnfkcclosure",
    "fcnfkc", "fullcompositionexclusion", "compex", "graphemeclusterbreak", "gcb", "graphemelink",
    "grlink", "hangulsyllabletype", "hst", "hyphen", "idsunaryoperator", "idsu",
    "indicpositionalcategory", "inpc", "indicsyllabiccategory", "insc", "indicconjunctbreak",
    "incb", "isocomment", "isc", "jamoshortname", "jsn", "joininggroup", "jg", "joiningtype", "jt",
    "linebreak", "lb", "lowercasemapping", "lc", "modifiercombiningmark", "mcm", "name", "na",
    "namealias", "nfcquickcheck", "nfcqc", "nfdquickcheck", "nfdqc", "nfkccasefold", "nfkccf",
    "nfkcquickcheck", "nfkcqc", "nfkcsimplecasefold", "nfkcscf", "nfkdquickcheck", "nfkdqc",
    "numerictype", "nt", "numericvalue", "nv", "otheralphabetic", "oalpha",
    "otherdefaultignorablecodepoint", "odi", "othergraphemeextend", "ogrext", "otheridcontinue",
    "oidc", "otheridstart", "oids", "otherlowercase", "olower", "othermath", "omath",
    "otheruppercase", "oupper", "prependedconcatenationmark", "pcm", "sentencebreak", "sb",
    "simplecasefolding", "scf", "sfc", "simplelowercasemapping", "slc", "simpletitlecasemapping",
    "stc", "simpleuppercasemapping", "suc", "titlecasemapping", "tc", "unicode1name", "na1",
    "unicoderadicalstroke", "urs", "krsunicode", "uppercasemapping", "uc", "verticalorientation",
    "vo", "wordbreak", "wb", "script", "sc", "scriptextensions", "scx", "generalcategory", "gc",
    "changeswhennfkccasefolded", "cwkcf"]

/-- The characters of a general category in the wide sense, with the three that are no category. -/
def categoryLike? : String → Option Ranges
  | "any" => some (Ranges.between 0 Ranges.maxPoint)
  | "ascii" => some (Ranges.between 0 0x7F)
  | "assigned" => some Unicode.unassigned.complement
  | name => Unicode.category? name

/-- The characters that a query asks for, or why there are none. A bare name is a property, a
category or a script, tried in this order. -/
def PropertyQuery.ranges : PropertyQuery → Except Cause Ranges
  | .named name =>
    let loose := looseName name
    let isCategoryFirst := loose == "cf" || loose == "sc" || loose == "lc"
    match if isCategoryFirst then none else Unicode.property? loose with
    | some s => .ok s
    | none =>
      if !isCategoryFirst && otherProperties.contains loose then .error .propertyNotFound
      else if loose == "cs" || loose == "surrogate" then .error .propertyValueNotFound
      else
        match (categoryLike? loose).or (Unicode.script? loose) with
        | some s => .ok s
        | none => .error .propertyNotFound
  | .valued name value =>
    let found := match looseName name with
      | "gc" | "generalcategory" => some (categoryLike? (looseName value))
      | "sc" | "script" => some (Unicode.script? (looseName value))
      | "scx" | "scriptextensions" => some (Unicode.scriptExtensions? (looseName value))
      | other =>
        if (Unicode.property? other).isSome || otherProperties.contains other then some none
        else none
    match found with
    | some (some s) => .ok s
    | some none => .error .propertyValueNotFound
    | none => .error .propertyNotFound

def Flags.property (f : Flags) (span : Span) (query : PropertyQuery) (negated : Bool) :
    Except Fault Ranges :=
  if !f.unicode then .error { cause := .unicodeNotAllowed, span }
  else
    match query.ranges with
    | .ok s => f.close span negated s
    | .error cause => .error { cause, span }

/-- The characters of a class with a one-letter escape, which is closed under case already. -/
def Flags.shorthand (f : Flags) (span : Span) (kind : Shorthand) (negated : Bool) :
    Except Fault Ranges :=
  if !negated then .ok (kind.ranges f)
  else if f.unicode then .ok (kind.ranges f).complement
  else .error { cause := .invalidUtf8, span }

/-- The value of a literal that stands for a character: without Unicode, two hexadecimal digits
spell a byte, and a byte beyond ASCII is no character. -/
def Flags.literal (f : Flags) (l : Literal) : Except Fault Char :=
  if !f.unicode && l.isByte && l.value.toNat ≥ 128 then
    .error { cause := .invalidUtf8, span := l.span }
  else .ok l.value

/-- The code of a literal in brackets: without Unicode it must be ASCII. -/
def Flags.setLiteral (f : Flags) (l : Literal) : Except Fault Nat := do
  let c ← f.literal l
  if !f.unicode && c.toNat ≥ 128 then throw { cause := .unicodeNotAllowed, span := l.span }
  else return c.toNat

mutual

def Flags.setOf (f : Flags) : SetExpr → Except Fault Ranges
  | .empty _ => .ok .empty
  | .literal l => do
    let n ← f.setLiteral l
    return Ranges.between n n
  | .range a b => do
    let first ← f.setLiteral a
    let last ← f.setLiteral b
    return Ranges.between first last
  | .posix span kind negated => f.close span negated kind.ranges
  | .property span query negated => f.property span query negated
  | .shorthand span kind negated => f.shorthand span kind negated
  | .bracket span negated body => do
    f.close span negated (← f.setOf body)
  | .union items => do
    return Ranges.unionAll (← f.setsOf items)
  | .operation kind lhs rhs => do
    let l ← f.setOf lhs
    let r ← f.setOf rhs
    let (l, r) := if f.caseless then (fold f.unicode l, fold f.unicode r) else (l, r)
    return match kind with
      | .intersection => l.inter r
      | .difference => l.diff r
      | .symmetricDifference => l.symmDiff r

def Flags.setsOf (f : Flags) : List SetExpr → Except Fault (List Ranges)
  | [] => .ok []
  | e :: rest => do
    let s ← f.setOf e
    return s :: (← f.setsOf rest)

end

/-! ## Expressions -/

def Flags.char (f : Flags) (c : Char) : Regex :=
  if !f.caseless || (!f.unicode && c.toNat ≥ 128) then .char c
  else
    let s := Ranges.between c.toNat c.toNat
    let folded := fold f.unicode s
    if folded.items == s.items then .char c else .set folded

def AssertionKind.meaning (f : Flags) : AssertionKind → Assertion
  | .lineStart => if f.multiLine then .lineStart f.crlf else .textStart
  | .lineEnd => if f.multiLine then .lineEnd f.crlf else .textEnd
  | .textStart => .textStart
  | .textEnd => .textEnd
  | .wordBoundary => .wordBoundary f.word
  | .notWordBoundary => .notWordBoundary f.word
  | .wordStart => .wordStart f.word
  | .wordEnd => .wordEnd f.word
  | .wordStartHalf => .wordStartHalf f.word
  | .wordEndHalf => .wordEndHalf f.word

def Flags.dot (f : Flags) : Ranges :=
  if f.dotMatchesNewLine then Ranges.between 0 Ranges.maxPoint
  else if f.crlf then (Ranges.ofPairs [(10, 10), (13, 13)]).complement
  else (Ranges.between 10 10).complement

mutual

/-- The regular expression that an expression stands for, with the flags in force after it. -/
def Expr.meaning (f : Flags) : Expr → Except Fault (Regex × Flags)
  | .empty _ => .ok (.empty, f)
  | .flags _ settings => .ok (.empty, f.set settings)
  | .literal l => do
    return (f.char (← f.literal l), f)
  | .dot span => if f.unicode then .ok (.set f.dot, f) else .error { cause := .invalidUtf8, span }
  | .assertion _ kind => .ok (.assertion (kind.meaning f), f)
  | .property span query negated => do
    return (.set (← f.property span query negated), f)
  | .shorthand span kind negated => do
    return (.set (← f.shorthand span kind negated), f)
  | .bracket span negated body => do
    return (.set (← f.close span negated (← f.setOf body)), f)
  | .repetition _ body least most => do
    let (e, f') ← body.meaning f
    return (.repetition e least most, f')
  | .group _ .capturing body => do
    let (e, _) ← body.meaning f
    return (.group e, f)
  | .group _ (.plain settings) body => do
    let (e, _) ← body.meaning (f.set settings)
    return (e, f)
  | .alternation _ branches => do
    let (es, f') ← Expr.meanings f branches
    match es with
    | [] => return (.empty, f')
    | e :: rest => return (Regex.altAll e rest, f')
  | .sequence _ items => do
    let (es, f') ← Expr.meanings f items
    return (Regex.seqAll es, f')

def Expr.meanings (f : Flags) : List Expr → Except Fault (List Regex × Flags)
  | [] => .ok ([], f)
  | e :: rest => do
    let (r, f') ← e.meaning f
    let (rs, f'') ← Expr.meanings f' rest
    return (r :: rs, f'')

end

end PackageUsage.Pattern
