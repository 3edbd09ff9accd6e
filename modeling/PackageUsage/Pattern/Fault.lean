import PackageUsage.Text.Blank

/-!
# Faults of target patterns

Where a pattern goes wrong and why, and the report that shows the pattern with the faulty part
underlined. A place is counted in lines and characters from one.
-/

namespace PackageUsage.Pattern

/-- A place between two characters of a pattern. -/
structure Place where
  line : Nat := 1
  column : Nat := 1
deriving DecidableEq, Repr, Inhabited

def Place.after (p : Place) (c : Char) : Place :=
  if c == '\n' then { line := p.line + 1, column := 1 } else { p with column := p.column + 1 }

def Place.le (p q : Place) : Bool :=
  p.line < q.line || (p.line == q.line && p.column ≤ q.column)

/-- A part of a pattern, from a place up to another. -/
structure Span where
  first : Place
  last : Place
deriving DecidableEq, Repr, Inhabited

/-- The span of no character at a place. -/
def Span.at (p : Place) : Span := ⟨p, p⟩

inductive Cause
  | classEscapeInvalid
  | classRangeInvalid
  | classRangeLiteral
  | classUnclosed
  | decimalInvalid
  | escapeHexEmpty
  | escapeHexInvalid
  | escapeHexInvalidDigit
  | escapeUnexpectedEnd
  | escapeUnrecognized
  | flagDanglingNegation
  | flagDuplicate
  | flagRepeatedNegation
  | flagUnexpectedEnd
  | flagUnrecognized
  | groupNameDuplicate
  | groupNameEmpty
  | groupNameInvalid
  | groupNameUnexpectedEnd
  | groupUnclosed
  | groupUnopened
  | nestLimitExceeded (limit : Nat)
  | repetitionCountInvalid
  | repetitionCountDecimalEmpty
  | repetitionCountUnclosed
  | repetitionMissing
  | boundaryUnclosed
  | boundaryUnrecognized
  | boundaryUnexpectedEnd
  | unicodeClassInvalid
  | backreference
  | lookAround
  | unicodeNotAllowed
  | invalidUtf8
  | propertyNotFound
  | propertyValueNotFound
deriving DecidableEq, Repr

def Cause.message : Cause → String
  | .classEscapeInvalid => "invalid escape sequence found in character class"
  | .classRangeInvalid => "invalid character class range, the start must be <= the end"
  | .classRangeLiteral => "invalid range boundary, must be a literal"
  | .classUnclosed => "unclosed character class"
  | .decimalInvalid => "decimal literal invalid"
  | .escapeHexEmpty => "hexadecimal literal empty"
  | .escapeHexInvalid => "hexadecimal literal is not a Unicode scalar value"
  | .escapeHexInvalidDigit => "invalid hexadecimal digit"
  | .escapeUnexpectedEnd => "incomplete escape sequence, reached end of pattern prematurely"
  | .escapeUnrecognized => "unrecognized escape sequence"
  | .flagDanglingNegation => "dangling flag negation operator"
  | .flagDuplicate => "duplicate flag"
  | .flagRepeatedNegation => "flag negation operator repeated"
  | .flagUnexpectedEnd => "expected flag but got end of regex"
  | .flagUnrecognized => "unrecognized flag"
  | .groupNameDuplicate => "duplicate capture group name"
  | .groupNameEmpty => "empty capture group name"
  | .groupNameInvalid => "invalid capture group character"
  | .groupNameUnexpectedEnd => "unclosed capture group name"
  | .groupUnclosed => "unclosed group"
  | .groupUnopened => "unopened group"
  | .nestLimitExceeded limit =>
    "exceed the maximum number of nested parentheses/brackets (" ++ toString limit ++ ")"
  | .repetitionCountInvalid =>
    "invalid repetition count range, the start must be <= the end"
  | .repetitionCountDecimalEmpty => "repetition quantifier expects a valid decimal"
  | .repetitionCountUnclosed => "unclosed counted repetition"
  | .repetitionMissing => "repetition operator missing expression"
  | .boundaryUnclosed =>
    "special word boundary assertion is either unclosed or contains an invalid character"
  | .boundaryUnrecognized =>
    "unrecognized special word boundary assertion, valid choices are: start, end, start-half or " ++
      "end-half"
  | .boundaryUnexpectedEnd =>
    "found either the beginning of a special word boundary or a bounded repetition on a \\b " ++
      "with an opening brace, but no closing brace"
  | .unicodeClassInvalid => "invalid Unicode character class"
  | .backreference => "backreferences are not supported"
  | .lookAround => "look-around, including look-ahead and look-behind, is not supported"
  | .unicodeNotAllowed => "Unicode not allowed here"
  | .invalidUtf8 => "pattern can match invalid UTF-8"
  | .propertyNotFound => "Unicode property not found"
  | .propertyValueNotFound => "Unicode property value not found"

/-- A cause at a part of the pattern, with the earlier part that it contradicts if there is one. -/
structure Fault where
  cause : Cause
  span : Span
  earlier : Option Span := none
deriving Repr

def Fault.spans (f : Fault) : List Span :=
  match f.earlier with
  | none => [f.span]
  | some e => if e.first.le f.span.first then [e, f.span] else [f.span, e]

/-- The lines of a pattern: a line feed ends a line, and a carriage return before it goes with
it. -/
def lines (pattern : String) : List String :=
  let pieces := Text.splitOn '\n' pattern.toList
  let ended := pieces.dropLast.map fun l => if l.getLast? == some '\r' then l.dropLast else l
  let rest := match pieces.getLast? with
    | none | some [] => []
    | some l => [l]
  (ended ++ rest).map String.ofList

/-- The marks below a line for spans within it, from a column on. -/
def marks (column : Nat) : List Span → String
  | [] => ""
  | s :: rest =>
    let gap := s.first.column - 1 - column
    let width := max 1 (s.last.column - s.first.column)
    "".pushn ' ' gap ++ "".pushn '^' width ++ marks (column + gap + width) rest

/-- The line of marks for the line with a given number, when a span lies within that line. -/
def noteFor (spans : List Span) (margin line : Nat) : String :=
  match spans.filter (fun s => s.first.line == s.last.line && s.first.line == line) with
  | [] => ""
  | here => "".pushn ' ' margin ++ marks 0 here ++ "\n"

/-- The pattern line by line, each under its number if there are several, with the marks. -/
def annotated (spans : List Span) (width : Nat) : Nat → List String → String
  | _, [] => ""
  | number, line :: rest =>
    let label :=
      if width == 0 then "    "
      else
        let digits := toString number
        "".pushn ' ' (width - digits.length) ++ digits ++ ": "
    let margin := if width == 0 then 4 else width + 2
    label ++ line ++ "\n" ++ noteFor spans margin number ++ annotated spans width (number + 1) rest

/-- The report on a fault of a pattern. A pattern of several lines stands between two rules, and
spans over several lines are given by their ends. -/
def Fault.report (f : Fault) (pattern : String) : String :=
  let ls := lines pattern
  let count := if pattern.toList.getLast? == some '\n' then ls.length + 1 else ls.length
  let width := if count ≤ 1 then 0 else (toString count).length
  let body := annotated f.spans width 1 ls
  let wide := f.spans.filter fun s => s.first.line != s.last.line
  let error := "error: " ++ f.cause.message
  if pattern.toList.contains '\n' then
    let rule := "".pushn '~' 79 ++ "\n"
    let notes := wide.map fun s =>
      "on line " ++ toString s.first.line ++ " (column " ++ toString s.first.column
        ++ ") through line " ++ toString s.last.line ++ " (column "
        ++ toString (s.last.column - 1) ++ ")"
    "regex parse error:\n" ++ rule ++ body ++ rule
      ++ (if notes.isEmpty then "" else "\n".intercalate notes ++ "\n") ++ error
  else
    "regex parse error:\n" ++ body ++ error

end PackageUsage.Pattern
