import PackageUsage.Pattern.Expression
import PackageUsage.Unicode.Property

/-!
# Reading target patterns

The expression that a pattern spells, or the first fault in it. A group or a bracket is read by
recursion that is bounded by the number of characters left, since each step takes at least one.
-/

namespace PackageUsage.Pattern

/-- What is left of a pattern, where it starts, whether blanks and comments are skipped, and the
group names used so far. -/
structure Reading where
  rest : List Char
  place : Place := {}
  skipping : Bool := false
  names : List (List Char × Span) := []

abbrev Reader := StateT Reading (Except Fault)

def fault {α : Type} (cause : Cause) (span : Span) : Reader α :=
  throw { cause, span }

def ahead? : Reader (Option Char) := do
  return (← get).rest.head?

def atEnd : Reader Bool := do
  return (← get).rest.isEmpty

def here : Reader Place := do
  return (← get).place

def charSpan : Reader Span := do
  let r ← get
  match r.rest with
  | [] => return Span.at r.place
  | c :: _ => return ⟨r.place, r.place.after c⟩

def Reading.next (r : Reading) : Reading :=
  match r.rest with
  | [] => r
  | c :: rest => { r with rest, place := r.place.after c }

/-- Takes the character ahead, and tells whether another follows. -/
def bump : Reader Bool := do
  modify Reading.next
  return !(← atEnd)

/-- Drops blanks and comments from the start of a text that lies at a place. -/
def dropBlanks : Bool → Place → List Char → Place × List Char
  | _, p, [] => (p, [])
  | true, p, c :: rest => dropBlanks (c != '\n') (p.after c) rest
  | false, p, c :: rest =>
    if Text.isBlank c then dropBlanks false (p.after c) rest
    else if c == '#' then dropBlanks true (p.after c) rest
    else (p, c :: rest)

/-- Skips blanks and comments where the flags say so. -/
def skipBlanks : Reader Unit := do
  let r ← get
  if r.skipping then
    let (place, rest) := dropBlanks false r.place r.rest
    set { r with place, rest }

/-- Takes the character ahead and what may be skipped after it, and tells whether more follows. -/
def bumpSkip : Reader Bool := do
  modify Reading.next
  skipBlanks
  return !(← atEnd)

/-- The state after a given start of the text, when it has that start. -/
def Reading.after? (r : Reading) : List Char → Option Reading
  | [] => some r
  | c :: cs => if r.rest.head? == some c then r.next.after? cs else none

/-- Takes a given text if it is ahead, and tells whether it was. -/
def bumpIf (text : String) : Reader Bool := do
  match (← get).after? text.toList with
  | some r => set r; return true
  | none => return false

/-- The character after the one ahead, as a range in brackets looks for it: blanks are passed over
where they are skipped, and the first mark of a comment with them. -/
def second? : Reader (Option Char) := do
  let r ← get
  let tail := r.rest.tail
  if r.skipping then
    let body := tail.dropWhile Text.isBlank
    let found := match body with
      | '#' :: more => more.dropWhile Text.isBlank
      | _ => body
    return (found.head?).or tail.head?
  else return tail.head?

def hexDigit? (c : Char) : Option Nat :=
  if '0' ≤ c && c ≤ '9' then some (c.toNat - '0'.toNat)
  else if 'a' ≤ c && c ≤ 'f' then some (c.toNat - 'a'.toNat + 10)
  else if 'A' ≤ c && c ≤ 'F' then some (c.toNat - 'A'.toNat + 10)
  else none

def hexValue (digits : List Char) : Nat :=
  digits.foldl (fun n c => n * 16 + (hexDigit? c).getD 0) 0

/-- The character with a code, when the code is a Unicode scalar value. -/
def scalar? (n : Nat) : Option Char :=
  if n.isValidChar then some (Char.ofNat n) else none

/-- Takes characters of a class, skipping after each, up to a bound on their number. -/
def takeSkipping (p : Char → Bool) : Nat → Reader (List Char)
  | 0 => return []
  | fuel + 1 => do
    match ← ahead? with
    | some c =>
      if p c then
        let _ ← bumpSkip
        return c :: (← takeSkipping p fuel)
      else return []
    | none => return []

def takeAll (p : Char → Bool) : Reader (List Char) := do
  takeSkipping p (← get).rest.length

def takeBlanks : Reader Unit := do
  let r ← get
  let blanks := r.rest.takeWhile Text.isBlank
  set { r with rest := r.rest.drop blanks.length, place := blanks.foldl Place.after r.place }

/-- A decimal number of 32 bits with blanks around it, or why there is none. The number is read in
any case, since a later fault may take precedence. -/
def decimal : Reader (Except Fault Nat) := do
  takeBlanks
  let first ← here
  let digits ← takeAll Char.isDigit
  let span : Span := ⟨first, ← here⟩
  let _ ← takeAll Text.isBlank
  if digits.isEmpty then return .error { cause := .repetitionCountDecimalEmpty, span }
  else
    let n := digits.foldl (fun n c => n * 10 + (c.toNat - '0'.toNat)) 0
    if n < Nat.pow 2 32 then return .ok n else return .error { cause := .decimalInvalid, span }

/-- The characters with a meaning of their own outside brackets or within them. -/
def isMeta (c : Char) : Bool :=
  "\\.+*?()|[]\x7b\x7d^$#&-~".toList.contains c

/-- The characters that a backslash makes stand for themselves. -/
def isEscapable (c : Char) : Bool :=
  isMeta c || (c.toNat < 128 && !c.isAlphanum && c != '<' && c != '>')

/-- One construct that takes part in no grouping: what a backslash or a single character spells. -/
inductive Primitive
  | literal (l : Literal)
  | assertion (span : Span) (kind : AssertionKind)
  | dot (span : Span)
  | shorthand (span : Span) (kind : Shorthand) (negated : Bool)
  | property (span : Span) (query : PropertyQuery) (negated : Bool)

def Primitive.span : Primitive → Span
  | .literal l => l.span
  | .assertion s _ | .dot s | .shorthand s _ _ | .property s _ _ => s

def Primitive.toExpr : Primitive → Expr
  | .literal l => .literal l
  | .assertion s k => .assertion s k
  | .dot s => .dot s
  | .shorthand s k n => .shorthand s k n
  | .property s q n => .property s q n

/-- A primitive as a member of a bracketed set: assertions have no place there. -/
def Primitive.toSetExpr : Primitive → Reader SetExpr
  | .literal l => return .literal l
  | .shorthand s k n => return .shorthand s k n
  | .property s q n => return .property s q n
  | .assertion s _ | .dot s => fault .classEscapeInvalid s

def Primitive.toRangeEnd : Primitive → Reader Literal
  | .literal l => return l
  | p => fault .classRangeLiteral p.span

def hexDigits : Nat → Bool → Reader (List Char)
  | 0, _ => return []
  | n + 1, isFirst => do
    let more ← if isFirst then pure true else bumpSkip
    if !more then fault .escapeUnexpectedEnd (Span.at (← here))
    else
      match ← ahead? with
      | some c =>
        if (hexDigit? c).isSome then return c :: (← hexDigits n false)
        else fault .escapeHexInvalidDigit (← charSpan)
      | none => fault .escapeUnexpectedEnd (Span.at (← here))

def hexUntilBrace : Nat → Reader (List Char)
  | 0 => return []
  | fuel + 1 => do
    if !(← bumpSkip) then return []
    else
      match ← ahead? with
      | some '}' | none => return []
      | some c =>
        if (hexDigit? c).isSome then return c :: (← hexUntilBrace fuel)
        else fault .escapeHexInvalidDigit (← charSpan)

/-- A character by its code, after a backslash at `start`: `x`, `u` or `U` is ahead. -/
def hexEscape (start : Place) (letter : Char) : Reader Literal := do
  if !(← bumpSkip) then fault .escapeUnexpectedEnd (Span.at (← here))
  else if (← ahead?) == some '{' then
    let brace ← here
    let first := (← charSpan).last
    let digits ← hexUntilBrace ((← get).rest.length + 1)
    if ← atEnd then fault .escapeUnexpectedEnd ⟨brace, ← here⟩
    else
      let last ← here
      let _ ← bumpSkip
      if digits.isEmpty then fault .escapeHexEmpty ⟨brace, ← here⟩
      else
        match scalar? (hexValue digits) with
        | none => fault .escapeHexInvalid ⟨first, last⟩
        | some c => return { span := ⟨start, ← here⟩, value := c }
  else
    let first ← here
    let digits ← hexDigits (if letter == 'x' then 2 else if letter == 'u' then 4 else 8) true
    let _ ← bumpSkip
    let last ← here
    match scalar? (hexValue digits) with
    | none => fault .escapeHexInvalid ⟨first, last⟩
    | some c => return { span := ⟨start, last⟩, value := c, isByte := letter == 'x' }

/-- Collects characters up to a closing brace; the character ahead is taken first. -/
def untilBrace : Nat → Reader (List Char)
  | 0 => return []
  | fuel + 1 => do
    if !(← bumpSkip) then return []
    else
      match ← ahead? with
      | some '}' | none => return []
      | some c => return c :: (← untilBrace fuel)

/-- The parts of a list before and after the first occurrence of another. -/
def splitAround? (sep : List Char) : List Char → Option (List Char × List Char)
  | [] => if sep.isEmpty then some ([], []) else none
  | c :: cs =>
    match Text.dropPrefix? sep (c :: cs) with
    | some rest => some ([], rest)
    | none => (splitAround? sep cs).map fun (a, b) => (c :: a, b)

/-- What the text between the braces of a Unicode class asks for. -/
def queryOf (text : List Char) : PropertyQuery :=
  match (splitAround? ['!', '='] text).or
      ((splitAround? [':'] text).or (splitAround? ['='] text)) with
  | some (name, value) => .valued (String.ofList name) (String.ofList value)
  | none => .named (String.ofList text)

/-- A Unicode class, after a backslash at `start`: `p` or `P` is ahead. -/
def propertyEscape (start : Place) (negated : Bool) : Reader Primitive := do
  if !(← bumpSkip) then fault .escapeUnexpectedEnd (Span.at (← here))
  else
    match ← ahead? with
    | some '{' =>
      let text ← untilBrace ((← get).rest.length + 1)
      if ← atEnd then fault .escapeUnexpectedEnd (Span.at (← here))
      else
        let _ ← bump
        return .property ⟨start, ← here⟩ (queryOf text) negated
    | some '\\' => fault .unicodeClassInvalid (← charSpan)
    | some c =>
      let _ ← bumpSkip
      return .property ⟨start, ← here⟩ (.named (String.singleton c)) negated
    | none => fault .escapeUnexpectedEnd (Span.at (← here))

def isBoundaryChar (c : Char) : Bool :=
  c.isAlpha || c == '-'

/-- The kind of word boundary named between braces after the escape at `start`, or nothing when the
brace ahead starts a counted repetition. -/
def namedBoundary (start : Place) : Reader (Option AssertionKind) := do
  let before ← get
  let brace ← here
  if !(← bumpSkip) then fault .boundaryUnexpectedEnd ⟨start, ← here⟩
  else
    let first ← here
    if !((← ahead?).any isBoundaryChar) then
      set before
      return none
    else
      let name ← takeAll isBoundaryChar
      if (← ahead?) != some '}' then fault .boundaryUnclosed ⟨brace, ← here⟩
      else
        let last ← here
        let _ ← bump
        match String.ofList name with
        | "start" => return some .wordStart
        | "end" => return some .wordEnd
        | "start-half" => return some .wordStartHalf
        | "end-half" => return some .wordEndHalf
        | _ => fault .boundaryUnrecognized ⟨first, last⟩

/-- What a backslash and the characters after it spell; the backslash is ahead. -/
def escape : Reader Primitive := do
  let start ← here
  if !(← bump) then fault .escapeUnexpectedEnd ⟨start, ← here⟩
  else
    let c := (← ahead?).getD '\\'
    if c.isDigit then fault .backreference ⟨start, (← charSpan).last⟩
    else if c == 'x' || c == 'u' || c == 'U' then return .literal (← hexEscape start c)
    else if c == 'p' || c == 'P' then propertyEscape start (c == 'P')
    else
      let _ ← bump
      let span : Span := ⟨start, ← here⟩
      if isEscapable c then return .literal { span, value := c }
      else
        match c with
        | 'd' => return .shorthand span .digit false
        | 'D' => return .shorthand span .digit true
        | 's' => return .shorthand span .space false
        | 'S' => return .shorthand span .space true
        | 'w' => return .shorthand span .word false
        | 'W' => return .shorthand span .word true
        | 'a' => return .literal { span, value := '\x07' }
        | 'f' => return .literal { span, value := '\x0C' }
        | 't' => return .literal { span, value := '\t' }
        | 'n' => return .literal { span, value := '\n' }
        | 'r' => return .literal { span, value := '\r' }
        | 'v' => return .literal { span, value := '\x0B' }
        | 'A' => return .assertion span .textStart
        | 'z' => return .assertion span .textEnd
        | 'b' =>
          if (← ahead?) == some '{' then
            match ← namedBoundary start with
            | some kind => return .assertion ⟨start, ← here⟩ kind
            | none => return .assertion span .wordBoundary
          else return .assertion span .wordBoundary
        | 'B' => return .assertion span .notWordBoundary
        | '<' => return .assertion span .wordStart
        | '>' => return .assertion span .wordEnd
        | _ => fault .escapeUnrecognized span

/-- One construct outside brackets that takes part in no grouping. -/
def primitive (c : Char) : Reader Primitive := do
  if c == '\\' then escape
  else
    let span ← charSpan
    let _ ← bump
    match c with
    | '.' => return .dot span
    | '^' => return .assertion span .lineStart
    | '$' => return .assertion span .lineEnd
    | _ => return .literal { span, value := c }

/-! ## Bracketed sets -/

/-- One construct within brackets that may be an end of a range. -/
def setPrimitive : Reader Primitive := do
  match ← ahead? with
  | some '\\' => escape
  | some c =>
    let span ← charSpan
    let _ ← bump
    return .literal { span, value := c }
  | none => fault .classUnclosed (Span.at (← here))

/-- A member of a bracketed set, or a range of characters; `opened` is the start of the set. -/
def setRange (opened : Span) : Reader SetExpr := do
  let lower ← setPrimitive
  skipBlanks
  if ← atEnd then fault .classUnclosed opened
  else
    let follower ← second?
    if (← ahead?) != some '-' || follower == some ']' || follower == some '-' then lower.toSetExpr
    else if !(← bumpSkip) then fault .classUnclosed opened
    else
      let upper ← setPrimitive
      let first ← lower.toRangeEnd
      let last ← upper.toRangeEnd
      if first.value ≤ last.value then return .range first last
      else fault .classRangeInvalid ⟨first.span.first, last.span.last⟩

/-- A class between `[:` and `:]`, if that is what the bracket ahead starts. -/
def posixClass? : Reader (Option SetExpr) := do
  let before ← get
  let start ← here
  if !(← bumpIf "[:") || (← atEnd) then set before; return none
  else
    let negated ← bumpIf "^"
    let name := (← get).rest.takeWhile (· != ':')
    let _ ← name.mapM fun _ => bump
    if ← bumpIf ":]" then
      match PosixClass.ofName? (String.ofList name) with
      | some kind => return some (.posix ⟨start, ← here⟩ kind negated)
      | none => set before; return none
    else set before; return none

/-- The hyphens that stand for themselves at the start of a set, last first. -/
def leadingHyphens (start : Place) : Nat → List SetExpr → Reader (List SetExpr)
  | 0, items => return items
  | fuel + 1, items => do
    if (← ahead?) == some '-' then
      let span ← charSpan
      if ← bumpSkip then leadingHyphens start fuel (.literal { span, value := '-' } :: items)
      else fault .classUnclosed (Span.at start)
    else return items

/-- A bracket that has been opened: its first characters and whether it is negated. -/
structure Opened where
  span : Span
  negated : Bool

/-- Opens the bracket ahead. A caret negates, and hyphens or else one closing bracket after it stand
for themselves. -/
def openBracket : Reader (Opened × List SetExpr) := do
  let start ← here
  if !(← bumpSkip) then fault .classUnclosed ⟨start, ← here⟩
  else
    let negated := (← ahead?) == some '^'
    let more ← if negated then bumpSkip else pure true
    if !more then fault .classUnclosed ⟨start, ← here⟩
    else
      let hyphens ← leadingHyphens start (← get).rest.length []
      if hyphens.isEmpty && (← ahead?) == some ']' then
        let span ← charSpan
        if ← bumpSkip then
          return ({ span := ⟨start, ← here⟩, negated }, [.literal { span, value := ']' }])
        else fault .classUnclosed ⟨start, ← here⟩
      else return ({ span := ⟨start, ← here⟩, negated }, hyphens)

def unionOf (place : Place) : List SetExpr → SetExpr
  | [] => .empty (Span.at place)
  | [item] => item
  | items => .union items.reverse

/-- An operation with its left operand waits for its right one. -/
abbrev PendingOperation := Option (SetOperation × SetExpr)

def PendingOperation.apply (pending : PendingOperation) (rhs : SetExpr) : SetExpr :=
  match pending with
  | none => rhs
  | some (kind, lhs) => .operation kind lhs rhs

/-- The rest of a bracketed set after its start, up to and with the closing bracket. -/
def setBody : Nat → Opened → PendingOperation → List SetExpr → Reader SetExpr
  | 0, opened, _, _ => fault .classUnclosed opened.span
  | fuel + 1, opened, pending, items => do
    skipBlanks
    let place ← here
    let operate (kind : SetOperation) : Reader SetExpr := do
      let _ ← bump
      let _ ← bump
      setBody fuel opened (some (kind, pending.apply (unionOf place items))) []
    match (← get).rest with
    | [] => fault .classUnclosed opened.span
    | '[' :: _ =>
      match ← posixClass? with
      | some item => setBody fuel opened pending (item :: items)
      | none =>
        let (inner, start) ← openBracket
        let item ← setBody fuel inner none start
        setBody fuel opened pending (item :: items)
    | ']' :: _ =>
      let _ ← bump
      let body := pending.apply (unionOf place items)
      return .bracket ⟨opened.span.first, ← here⟩ opened.negated body
    | '&' :: '&' :: _ => operate .intersection
    | '-' :: '-' :: _ => operate .difference
    | '~' :: '~' :: _ => operate .symmetricDifference
    | _ =>
      let item ← setRange opened.span
      setBody fuel opened pending (item :: items)

/-- A bracketed set; the bracket is ahead. -/
def bracketed : Reader Expr := do
  let fuel := (← get).rest.length
  let (opened, start) ← openBracket
  match ← setBody fuel opened none start with
  | .bracket span negated body => return .bracket span negated body
  | e => return .bracket opened.span opened.negated e

/-! ## Repetitions -/

/-- Takes the last expression of a sequence for a repetition to apply to. -/
def operand : List Expr → Reader (Expr × List Expr)
  | [] | .empty _ :: _ | .flags _ _ :: _ => do fault .repetitionMissing (Span.at (← here))
  | e :: rest => return (e, rest)

/-- Applies `?`, `*` or `+`, which is ahead, to the last expression of a sequence. -/
def simpleRepetition (least : Nat) (most : Option Nat) (items : List Expr) :
    Reader (List Expr) := do
  let (body, rest) ← operand items
  if (← bump) && (← ahead?) == some '?' then
    let _ ← bump
  return .repetition ⟨body.span.first, ← here⟩ body least most :: rest

/-- Applies a count in braces, which is ahead, to the last expression of a sequence. -/
def countedRepetition (items : List Expr) : Reader (List Expr) := do
  let start ← here
  let (body, rest) ← operand items
  let unclosed {α : Type} : Reader α := do fault .repetitionCountUnclosed ⟨start, ← here⟩
  if !(← bumpSkip) then unclosed
  else
    let low ← decimal
    let (least, most) ← match ← ahead? with
      | none => unclosed
      | some ',' =>
        if !(← bumpSkip) then unclosed
        else if (← ahead?) == some '}' then do
          let n ← liftExcept low
          pure (n, none)
        else do
          let n ← liftExcept low
          let m ← liftExcept (← decimal)
          pure (n, some m)
      | some _ => do
        let n ← liftExcept low
        pure (n, some n)
    if (← ahead?) != some '}' then unclosed
    else
      if (← bumpSkip) && (← ahead?) == some '?' then
        let _ ← bump
      let last ← here
      if most.all (least ≤ ·) then
        return .repetition ⟨body.span.first, last⟩ body least most :: rest
      else fault .repetitionCountInvalid ⟨start, last⟩
where
  /-- Gives a value that has been read, or fails as its reading did. -/
  liftExcept {α : Type} : Except Fault α → Reader α
    | .ok a => return a
    | .error e => throw e

/-! ## Groups -/

def isNameChar (isFirst : Bool) (c : Char) : Bool :=
  c == '_' || (Unicode.propertyRanges "alphabetic").contains c ||
    (!isFirst && (c == '.' || c == '[' || c == ']' ||
      ((Unicode.category? "n").getD .empty).contains c))

def nameChars : Nat → Bool → Reader (List Char)
  | 0, _ => return []
  | fuel + 1, isFirst => do
    match ← ahead? with
    | none | some '>' => return []
    | some c =>
      if isNameChar isFirst c then
        let _ ← bump
        return c :: (← nameChars fuel false)
      else fault .groupNameInvalid (← charSpan)

/-- The name of a group, which must be new, and the closing angle. -/
def groupName : Reader Unit := do
  let first ← here
  let name ← nameChars (← get).rest.length true
  let last ← here
  if ← atEnd then fault .groupNameUnexpectedEnd (Span.at last)
  else
    let _ ← bump
    if name.isEmpty then fault .groupNameEmpty (Span.at first)
    else
      let span : Span := ⟨first, last⟩
      let r ← get
      match r.names.find? (·.1 == name) with
      | some (_, earlier) => throw { cause := .groupNameDuplicate, span, earlier := some earlier }
      | none => set { r with names := (name, span) :: r.names }

/-- The flags before a colon or a closing parenthesis, last first. A hyphen is kept as the place
from which flags are unset. -/
def flagItems : Nat → List (Option Flag × Span) → Reader (List (Option Flag × Span))
  | 0, items => return items
  | fuel + 1, items => do
    match ← ahead? with
    | none => fault .flagUnexpectedEnd (Span.at (← here))
    | some c =>
      if c == ':' || c == ')' then
        match items with
        | (none, span) :: _ => fault .flagDanglingNegation span
        | _ => return items
      else
        let span ← charSpan
        let item ← if c == '-' then pure none
          else match Flag.ofLetter? c with
            | some flag => pure (some flag)
            | none => fault .flagUnrecognized span
        match items.find? (·.1 == item) with
        | some (_, earlier) =>
          let cause := if item.isNone then Cause.flagRepeatedNegation else .flagDuplicate
          throw { cause, span, earlier := some earlier }
        | none =>
          if ← bump then flagItems fuel ((item, span) :: items)
          else fault .flagUnexpectedEnd (Span.at (← here))

def settingsOf (value : Bool) : List (Option Flag × Span) → FlagSettings
  | [] => []
  | (none, _) :: rest => settingsOf false rest
  | (some flag, _) :: rest => (flag, value) :: settingsOf value rest

inductive GroupStart
  | flags (span : Span) (settings : FlagSettings)
  | group (span : Span) (kind : GroupKind)

/-- Reads an opening parenthesis, which is ahead, and what belongs to it. -/
def groupStart : Reader GroupStart := do
  let opening ← charSpan
  let _ ← bump
  skipBlanks
  if (← bumpIf "?=") || (← bumpIf "?!") || (← bumpIf "?<=") || (← bumpIf "?<!") then
    fault .lookAround ⟨opening.first, ← here⟩
  else
    let inner ← here
    if (← bumpIf "?P<") || (← bumpIf "?<") then
      if ← atEnd then fault .groupNameUnexpectedEnd (Span.at (← here))
      else
        groupName
        return .group opening .capturing
    else if ← bumpIf "?" then
      if ← atEnd then fault .groupUnclosed opening
      else
        let items ← flagItems (← get).rest.length []
        let settings := settingsOf true items.reverse
        let close ← ahead?
        let _ ← bump
        if close == some ')' then
          if items.isEmpty then fault .repetitionMissing (Span.at inner)
          else return .flags ⟨opening.first, ← here⟩ settings
        else return .group opening (.plain settings)
    else return .group opening .capturing

def sequenceOf (span : Span) : List Expr → Expr
  | [] => .empty span
  | [e] => e
  | items => .sequence span items.reverse

/-- What has been read inside a group, or outside all: the finished branches, last first, the items
of the current branch, last first, and where the first and the current branch start. -/
structure Body where
  branches : List Expr := []
  items : List Expr := []
  first : Place
  start : Place

def Body.finish (b : Body) (last : Place) : Expr :=
  let current := sequenceOf ⟨b.start, last⟩ b.items
  if b.branches.isEmpty then current
  else .alternation ⟨b.first, last⟩ (current :: b.branches).reverse

def Body.split (b : Body) (last next : Place) : Body :=
  { b with
    branches := sequenceOf ⟨b.start, last⟩ b.items :: b.branches
    items := []
    start := next }

/-- Reads to the end of a group, or of the pattern when no group is open. -/
def body : Nat → Option Span → Body → Reader Expr
  | 0, _, b => return b.finish (← here)
  | fuel + 1, opened, b => do
    skipBlanks
    let place ← here
    match ← ahead? with
    | none =>
      match opened with
      | some span => fault .groupUnclosed span
      | none => return b.finish place
    | some '(' =>
      match ← groupStart with
      | .flags span settings =>
        match settings.find? (·.1 == .ignoreBlanks) with
        | some (_, v) => modify fun r => { r with skipping := v }
        | none => pure ()
        body fuel opened { b with items := .flags span settings :: b.items }
      | .group span kind =>
        let before := (← get).skipping
        let settings := match kind with
          | .plain settings => settings
          | .capturing => []
        match settings.find? (·.1 == .ignoreBlanks) with
        | some (_, v) => modify fun r => { r with skipping := v }
        | none => pure ()
        let start ← here
        let inner ← body fuel (some span) { first := start, start }
        modify fun r => { r with skipping := before }
        body fuel opened { b with items := .group ⟨span.first, ← here⟩ kind inner :: b.items }
    | some ')' =>
      match opened with
      | none => fault .groupUnopened (← charSpan)
      | some _ =>
        let _ ← bump
        return b.finish place
    | some '|' =>
      let _ ← bump
      body fuel opened (b.split place (← here))
    | some '[' =>
      let set ← bracketed
      body fuel opened { b with items := set :: b.items }
    | some '?' =>
      let items ← simpleRepetition 0 (some 1) b.items
      body fuel opened { b with items }
    | some '*' =>
      let items ← simpleRepetition 0 none b.items
      body fuel opened { b with items }
    | some '+' =>
      let items ← simpleRepetition 1 none b.items
      body fuel opened { b with items }
    | some '{' =>
      let items ← countedRepetition b.items
      body fuel opened { b with items }
    | some c =>
      let p ← primitive c
      body fuel opened { b with items := p.toExpr :: b.items }

/-- The expression that a pattern spells, or its first fault. -/
def read (pattern : String) : Except Fault Expr := do
  let chars := pattern.toList
  let (e, _) ← (body (chars.length + 1) none { first := {}, start := {} }).run { rest := chars }
  match e.tooDeep? 0 with
  | some span => throw { cause := .nestLimitExceeded nestLimit, span }
  | none => return e

end PackageUsage.Pattern
