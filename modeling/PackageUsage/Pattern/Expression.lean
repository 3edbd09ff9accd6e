import PackageUsage.Pattern.Fault

/-!
# Expressions of target patterns

A pattern as it is written: every construct with the part of the pattern that it takes up. Nothing
is decided here about what a construct matches.
-/

namespace PackageUsage.Pattern

/-- A character that stands for itself. `isByte` marks the spelling with two hexadecimal digits. -/
structure Literal where
  span : Span
  value : Char
  isByte : Bool := false
deriving Repr, Inhabited

/-- The three classes with a one-letter escape. -/
inductive Shorthand
  | digit
  | space
  | word
deriving DecidableEq, Repr

inductive PropertyQuery
  | named (name : String)
  | valued (name value : String)
deriving Repr

/-- The classes written between `[:` and `:]`. -/
inductive PosixClass
  | alnum
  | alpha
  | ascii
  | blank
  | cntrl
  | digit
  | graph
  | lower
  | print
  | punct
  | space
  | upper
  | word
  | xdigit
deriving DecidableEq, Repr

def PosixClass.ofName? : String → Option PosixClass
  | "alnum" => some .alnum
  | "alpha" => some .alpha
  | "ascii" => some .ascii
  | "blank" => some .blank
  | "cntrl" => some .cntrl
  | "digit" => some .digit
  | "graph" => some .graph
  | "lower" => some .lower
  | "print" => some .print
  | "punct" => some .punct
  | "space" => some .space
  | "upper" => some .upper
  | "word" => some .word
  | "xdigit" => some .xdigit
  | _ => none

inductive SetOperation
  | intersection
  | difference
  | symmetricDifference
deriving DecidableEq, Repr

/-- What stands between brackets. -/
inductive SetExpr
  | empty (span : Span)
  | literal (l : Literal)
  | range (first last : Literal)
  | posix (span : Span) (kind : PosixClass) (negated : Bool)
  | property (span : Span) (query : PropertyQuery) (negated : Bool)
  | shorthand (span : Span) (kind : Shorthand) (negated : Bool)
  | bracket (span : Span) (negated : Bool) (body : SetExpr)
  | union (items : List SetExpr)
  | operation (kind : SetOperation) (lhs rhs : SetExpr)
deriving Repr, Inhabited

/-- The places that match no character. -/
inductive AssertionKind
  | lineStart
  | lineEnd
  | textStart
  | textEnd
  | wordBoundary
  | notWordBoundary
  | wordStart
  | wordEnd
  | wordStartHalf
  | wordEndHalf
deriving DecidableEq, Repr

inductive Flag
  | caseless
  | multiLine
  | dotMatchesNewLine
  | swapGreed
  | unicode
  | crlf
  | ignoreBlanks
deriving DecidableEq, Repr

def Flag.ofLetter? : Char → Option Flag
  | 'i' => some .caseless
  | 'm' => some .multiLine
  | 's' => some .dotMatchesNewLine
  | 'U' => some .swapGreed
  | 'u' => some .unicode
  | 'R' => some .crlf
  | 'x' => some .ignoreBlanks
  | _ => none

abbrev FlagSettings := List (Flag × Bool)

inductive GroupKind
  | capturing
  | plain (flags : FlagSettings)
deriving Repr

inductive Expr
  | empty (span : Span)
  | flags (span : Span) (settings : FlagSettings)
  | literal (l : Literal)
  | dot (span : Span)
  | assertion (span : Span) (kind : AssertionKind)
  | property (span : Span) (query : PropertyQuery) (negated : Bool)
  | shorthand (span : Span) (kind : Shorthand) (negated : Bool)
  | bracket (span : Span) (negated : Bool) (body : SetExpr)
  | repetition (span : Span) (body : Expr) (least : Nat) (most : Option Nat)
  | group (span : Span) (kind : GroupKind) (body : Expr)
  | alternation (span : Span) (branches : List Expr)
  | sequence (span : Span) (items : List Expr)
deriving Repr, Inhabited

def SetExpr.first : SetExpr → Place
  | .empty s | .posix s _ _ | .property s _ _ | .shorthand s _ _ | .bracket s _ _ => s.first
  | .literal l => l.span.first
  | .range a _ => a.span.first
  | .union [] => {}
  | .union (i :: _) => i.first
  | .operation _ l _ => l.first

def Expr.span : Expr → Span
  | .empty s | .flags s _ | .dot s | .assertion s _ | .property s _ _ | .shorthand s _ _
  | .bracket s _ _ | .repetition s _ _ _ | .group s _ _ | .alternation s _ | .sequence s _ => s
  | .literal l => l.span

/-- How deeply brackets and their contents may be nested. -/
def nestLimit : Nat := 250

mutual

/-- The start of the first part of a set expression that is nested too deeply. -/
def SetExpr.tooDeep? (depth : Nat) : SetExpr → Option Place
  | .bracket s _ body =>
    if depth + 1 > nestLimit then some s.first else body.tooDeep? (depth + 1)
  | .union items =>
    if depth + 1 > nestLimit then some (SetExpr.union items).first
    else SetExpr.anyTooDeep? (depth + 1) items
  | .operation k l r =>
    if depth + 1 > nestLimit then some (SetExpr.operation k l r).first
    else (l.tooDeep? (depth + 1)).or (r.tooDeep? (depth + 1))
  | _ => none

def SetExpr.anyTooDeep? (depth : Nat) : List SetExpr → Option Place
  | [] => none
  | e :: rest => (e.tooDeep? depth).or (SetExpr.anyTooDeep? depth rest)

end

mutual

def Expr.tooDeep? (depth : Nat) : Expr → Option Span
  | .bracket s _ body =>
    if depth + 1 > nestLimit then some s
    else (body.tooDeep? (depth + 1)).map Span.at
  | .repetition s body _ _ | .group s _ body =>
    if depth + 1 > nestLimit then some s else body.tooDeep? (depth + 1)
  | .alternation s items | .sequence s items =>
    if depth + 1 > nestLimit then some s else Expr.anyTooDeep? (depth + 1) items
  | _ => none

def Expr.anyTooDeep? (depth : Nat) : List Expr → Option Span
  | [] => none
  | e :: rest => (e.tooDeep? depth).or (Expr.anyTooDeep? depth rest)

end

end PackageUsage.Pattern
