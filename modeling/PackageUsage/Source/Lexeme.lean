import PackageUsage.Source.Cursor
import PackageUsage.Source.Dialect
import PackageUsage.Unicode.Identifier

/-!
# Lexemes

The words, literals and marks of a source text, read one at a time from a cursor. Regular
expressions, templates and markup text depend on the rule that reads them: they have scanners of
their own here, which a rule calls in place of reading the next lexeme.
-/

namespace PackageUsage.Source

inductive LexemeKind where
  /-- An identifier or a keyword, as written. -/
  | word (text : String)
  /-- A name with `#` in front. -/
  | secret
  | number
  | string
  /-- A punctuation mark. -/
  | mark (text : String)
  | endOfText
  /-- A character that starts no lexeme. -/
  | stray
deriving DecidableEq, Repr, Inhabited

inductive WordReading where
  | any
  /-- Only as an identifier. -/
  | identifier
  /-- Only as a keyword, if it is one anywhere. -/
  | keyword
deriving DecidableEq, Repr, Inhabited

/-- A lexeme with its place. -/
structure Lexeme where
  kind : LexemeKind
  start : Cursor
  stop : Cursor
  /-- A line ends in the blanks before it. -/
  lineBreak : Bool := false
  /-- A line ends inside a comment before it. -/
  commentBreak : Bool := false
  /-- It is supposed, not written. -/
  missing : Bool := false
  reading : WordReading := .any
deriving Repr, Inhabited

namespace Lexeme

/-- The text of a word or a mark, empty for everything else. -/
def word (l : Lexeme) : String :=
  match l.kind with
  | .word text => text
  | .mark text => text
  | _ => ""

def text (l : Lexeme) : String :=
  l.start.textTo l.stop

end Lexeme

/-! ### Characters -/

def isTolerantBlank (c : Char) : Bool :=
  let n := c.toNat
  (9 ≤ n && n ≤ 13) || n == 0x20 || n == 0x85 || n == 0xA0 || n == 0x1680 ||
    (0x2000 ≤ n && n ≤ 0x200B) || n == 0x2028 || n == 0x2029 || n == 0x202F ||
    n == 0x205F || n == 0x2060 || n == 0x3000 || n == 0xFEFF

def isStrictBlank (c : Char) : Bool :=
  let n := c.toNat
  (9 ≤ n && n ≤ 13) || n == 0x20 || n == 0xA0 || n == 0x1680 ||
    (0x2000 ≤ n && n ≤ 0x200A) || n == 0x2028 || n == 0x2029 || n == 0x202F ||
    n == 0x205F || n == 0x3000 || n == 0xFEFF

def Dialect.isBlank (d : Dialect) (c : Char) : Bool :=
  if d.strict then isStrictBlank c else isTolerantBlank c

def isAsciiBlank (c : Char) : Bool :=
  let n := c.toNat
  (9 ≤ n && n ≤ 13) || n == 0x20

/-- The characters that end a line in the language standards. -/
def isLineEnd (c : Char) : Bool :=
  let n := c.toNat
  n == 10 || n == 13 || n == 0x2028 || n == 0x2029

/-- The characters that end a line for a dialect when it looks for the end of a statement. -/
def Dialect.breaksLine (d : Dialect) (c : Char) : Bool :=
  if d.strict then isLineEnd c
  else c == '\n' || (!d.types && (c.toNat == 0x2028 || c.toNat == 0x2029))

/-- The characters of ASCII that are no part of an identifier in the tolerant dialects. -/
def isAsciiMark (c : Char) : Bool :=
  c.toNat < 32 || " :;`\"'@#.,|^&<=>+-*/\\%?!~()[]\x7b\x7d".toList.contains c

def Dialect.continuesWord (d : Dialect) (c : Char) : Bool :=
  if c.isAlphanum || c == '_' || c == '$' then true
  else if d.strict then c.toNat ≥ 128 && Unicode.continuesIdentifier c
  else !isAsciiMark c && !isTolerantBlank c

def Dialect.startsWord (d : Dialect) (c : Char) : Bool :=
  if c.isAlpha || c == '_' || c == '$' then true
  else if c.isDigit then false
  else if d.strict then c.toNat ≥ 128 && Unicode.startsIdentifier c
  else d.continuesWord c

def isHexDigit (c : Char) : Bool :=
  c.isDigit || ('a' ≤ c && c ≤ 'f') || ('A' ≤ c && c ≤ 'F')

/-! ### Blanks and comments -/

/-- Where the reader of blanks and comments stands. -/
inductive TriviaMode where
  | blank
  | lineComment
  /-- Inside a block comment, with the last character a star or not. -/
  | blockComment (star : Bool)
deriving DecidableEq, Repr, Inhabited

structure Trivia where
  place : Cursor
  mode : TriviaMode := .blank
  /-- Only ASCII blanks since the last comment. -/
  clean : Bool := true
  lineBreak : Bool := false
  commentBreak : Bool := false
  /-- A line ends inside the block comment being read. -/
  inner : Bool := false
  /-- Where the block comment being read starts. -/
  opening : Cursor
deriving Repr, Inhabited

namespace Trivia

/-- Reads blanks and comments from the characters that remain at the state's cursor. A block
comment without an end is not read. -/
def read (d : Dialect) : List Char → Trivia → Trivia
  | [], t =>
    match t.mode with
    | .blockComment _ => { t with place := t.opening, mode := .blank }
    | _ => t
  | ch :: rest, t =>
    let onward := t.place.step ch rest
    match t.mode with
    | .blank =>
      if d.isBlank ch then
        let t := { t with
          place := onward
          lineBreak := t.lineBreak || (d.breaksLine ch && (t.clean || d.strict))
          clean := t.clean && isAsciiBlank ch }
        read d rest t
      else if ch == '/' && rest.head? == some '/' then
        read d rest { t with place := onward, mode := .lineComment }
      else if ch == '/' && rest.head? == some '*' then
        read d rest
          { t with
            place := onward, opening := t.place, mode := .blockComment false, inner := false }
      else t
    | .lineComment =>
      if isLineEnd ch then
        let t := { t with
          place := onward, mode := .blank
          lineBreak := t.lineBreak || d.breaksLine ch, clean := true }
        read d rest t
      else read d rest { t with place := onward }
    | .blockComment star =>
      if star && ch == '/' && t.place.offset > t.opening.offset + 2 then
        let t := { t with
          place := onward, mode := .blank, clean := true
          commentBreak := t.commentBreak || t.inner }
        read d rest t
      else
        let ends := if d.strict then isLineEnd ch else ch == '\n' || (isLineEnd ch && ch != '\r')
        read d rest
          { t with place := onward, mode := .blockComment (ch == '*'), inner := t.inner || ends }

/-- The blanks and comments at a cursor. -/
def of (d : Dialect) (c : Cursor) : Trivia :=
  read d c.rest { place := c, opening := c }

end Trivia

/-! ### Words, numbers, strings and marks -/

/-- The number of characters of an escape inside a word, `\u` with four digits or with braces. -/
def escapeLength? : List Char → Option Nat
  | '\\' :: 'u' :: '{' :: rest =>
    let digits := rest.takeWhile isHexDigit
    match digits, rest.dropWhile isHexDigit with
    | _ :: _, '}' :: _ => some (digits.length + 4)
    | _, _ => none
  | '\\' :: 'u' :: w :: x :: y :: z :: _ =>
    if isHexDigit w && isHexDigit x && isHexDigit y && isHexDigit z then some 6 else none
  | _ => none

/-- The end of a word whose first character has been read. The number counts the characters of an
escape that are still to be passed over. -/
def scanWordRest (d : Dialect) : Nat → List Char → Cursor → Cursor
  | _, [], c => c
  | pending + 1, ch :: rest, c => scanWordRest d pending rest (c.step ch rest)
  | 0, ch :: rest, c =>
    if d.continuesWord ch then scanWordRest d 0 rest (c.step ch rest)
    else
      match escapeLength? (ch :: rest) with
      | some (pending + 1) => scanWordRest d pending rest (c.step ch rest)
      | _ => c

def scanWord? (d : Dialect) (c : Cursor) : Option Cursor :=
  match c.rest with
  | [] => none
  | ch :: rest =>
    if d.startsWord ch then some (scanWordRest d 0 rest (c.step ch rest))
    else
      match escapeLength? c.rest with
      | some (pending + 1) => some (scanWordRest d pending rest (c.step ch rest))
      | _ => none

/-- The end of a run of digits with single underscores between them. -/
def scanDigits (p : Char → Bool) (c : Cursor) : Cursor :=
  c.skipWhile fun ch => p ch || ch == '_'

/-- The end of the exponent of a number, when one starts here. -/
def scanExponent (c : Cursor) : Cursor :=
  match c.rest with
  | e :: sign :: digit :: _ =>
    if (e == 'e' || e == 'E') && (sign == '+' || sign == '-') && digit.isDigit then
      scanDigits Char.isDigit (c.skip 2)
    else if (e == 'e' || e == 'E') && sign.isDigit then scanDigits Char.isDigit (c.skip 1)
    else c
  | e :: digit :: _ =>
    if (e == 'e' || e == 'E') && digit.isDigit then scanDigits Char.isDigit (c.skip 1) else c
  | _ => c

/-- The end of a number in a base with its own digits, after its two-letter start. -/
def scanBased (p : Char → Bool) (c : Cursor) : Option Cursor :=
  match c.rest with
  | _ :: _ :: digit :: _ =>
    if p digit then
      let stop := scanDigits p (c.skip 2)
      some (if stop.peek? == some 'n' then stop.next else stop)
    else none
  | _ => none

def scanDecimal (c : Cursor) : Cursor :=
  let whole := scanDigits Char.isDigit c
  match whole.rest with
  | 'n' :: _ => whole.next
  | '.' :: _ => scanExponent (scanDigits Char.isDigit whole.next)
  | _ => scanExponent whole

def scanNumber? (c : Cursor) : Option Cursor :=
  match c.rest with
  | '0' :: base :: _ =>
    if base == 'x' || base == 'X' then scanBased isHexDigit c
    else if base == 'b' || base == 'B' then scanBased (fun ch => ch == '0' || ch == '1') c
    else if base == 'o' || base == 'O' then scanBased (fun ch => '0' ≤ ch && ch ≤ '7') c
    else some (scanDecimal c)
  | '.' :: digit :: _ =>
    if digit.isDigit then some (scanExponent (scanDigits Char.isDigit c.next)) else none
  | ch :: _ => if ch.isDigit then some (scanDecimal c) else none
  | [] => none

/-- Whether what follows a backslash is an escape of the language. -/
def isEscape (d : Dialect) : List Char → Bool
  | [] => false
  | 'x' :: rest =>
    match rest with
    | a :: b :: _ => isHexDigit a && isHexDigit b
    | _ => false
  | 'u' :: '{' :: rest =>
    match rest.takeWhile isHexDigit, rest.dropWhile isHexDigit with
    | _ :: _, '}' :: _ => true
    | _, _ => false
  | 'u' :: rest =>
    match rest with
    | w :: x :: y :: z :: _ => isHexDigit w && isHexDigit x && isHexDigit y && isHexDigit z
    | _ => false
  | '0' :: next :: _ => !d.strict || !next.isDigit
  | ch :: _ => !d.strict || !ch.isDigit || ch == '0'

/-- The end of a string after its opening quote; `escaped` says that a backslash comes before. -/
def scanStringRest (d : Dialect) (quote : Char) : Bool → List Char → Cursor → Option Cursor
  | _, [], _ => none
  | true, ch :: rest, c => scanStringRest d quote false rest (c.step ch rest)
  | false, ch :: rest, c =>
    if ch == quote then some (c.step ch rest)
    else if ch == '\\' then
      if rest.head? == some '\r' && rest.tail.head? == some '\n' then
        -- the carriage return belongs to the escape, the line feed is read as its second character
        match rest with
        | cr :: more => scanStringRest d quote true more ((c.step ch rest).step cr more)
        | [] => none
      else if isEscape d rest then scanStringRest d quote true rest (c.step ch rest)
      else none
    else if ch == '\n' || ch == '\r' then none
    else scanStringRest d quote false rest (c.step ch rest)

/-- The marks of more than one character, longer ones first. -/
def longMarks : List String :=
  [">>>=", "...", "===", "!==", "**=", "<<=", ">>=", ">>>", "&&=", "||=", "??=", "=>", "==", "!=",
    "<=", ">=", "&&", "||", "??", "?.", "++", "--", "+=", "-=", "*=", "/=", "%=", "&=", "|=", "^=",
    "<<", ">>", "**"]

def shortMarks : List Char :=
  "\x7b\x7d()[];,<>+-*/%&|^!~?:=.@`".toList

/-- The mark at a cursor. A question mark before a fraction is a mark of its own. -/
def scanMark? (c : Cursor) : Option String :=
  match longMarks.find? c.startsWith with
  | some "?." =>
    match c.rest with
    | _ :: _ :: digit :: _ => if digit.isDigit then some "?" else some "?."
    | _ => some "?."
  | some m => some m
  | none =>
    match c.rest with
    | ch :: _ => if shortMarks.contains ch then some (String.singleton ch) else none
    | [] => none

/-- What stands at a cursor, and where it ends. -/
def scanKind (d : Dialect) (c : Cursor) : LexemeKind × Cursor :=
  match c.rest with
  | [] => (.endOfText, c)
  | ch :: rest =>
    if ch == '"' || ch == '\'' then
      match scanStringRest d ch false rest (c.step ch rest) with
      | some stop => (.string, stop)
      | none => (.stray, c.next)
    else
      match scanWord? d c with
      | some stop => (.word (c.textTo stop), stop)
      | none =>
        match scanNumber? c with
        | some stop =>
          if d.strict && (scanWord? d stop).isSome then (.stray, c.next) else (.number, stop)
        | none =>
          if ch == '#' then
            match scanWord? d c.next with
            | some stop => (.secret, stop)
            | none => (.stray, c.next)
          else
            match scanMark? c with
            | some m => (.mark m, c.skip m.length)
            | none => (.stray, c.next)

/-- The next lexeme from a cursor on. -/
def lexeme (d : Dialect) (c : Cursor) : Lexeme :=
  let t := Trivia.of d c
  let (kind, stop) := scanKind d t.place
  let commentBreak := t.commentBreak
  { kind, stop, start := t.place
    lineBreak := t.lineBreak || (d.strict && commentBreak), commentBreak }

/-- The next lexeme from a cursor on in skipped text, where a quote is a lexeme of its own. -/
def skippedLexeme (d : Dialect) (c : Cursor) : Lexeme :=
  let l := lexeme d c
  if l.kind == .string then { l with kind := .stray, stop := l.start.next } else l

/-! ### Scanners for single rules -/

/-- The end of a regular expression's body after its opening slash. -/
def scanRegexBody : (escaped inClass : Bool) → List Char → Cursor → Option Cursor
  | _, _, [], _ => none
  | true, inClass, ch :: rest, c =>
    if isLineEnd ch then none else scanRegexBody false inClass rest (c.step ch rest)
  | false, inClass, ch :: rest, c =>
    if ch == '\n' then none
    else if ch == '\\' then scanRegexBody true inClass rest (c.step ch rest)
    else if ch == '[' then scanRegexBody false true rest (c.step ch rest)
    else if ch == ']' then scanRegexBody false false rest (c.step ch rest)
    else if ch == '/' && !inClass then some (c.step ch rest)
    else scanRegexBody false inClass rest (c.step ch rest)

/-- The end of a regular expression that starts here, flags included. -/
def scanRegex (c : Cursor) : Option Cursor :=
  match c.rest with
  | '/' :: rest =>
    (scanRegexBody false false rest c.next).map fun stop => stop.skipWhile Char.isAlpha
  | _ => none

/-- The end of a piece of template text: after its closing backtick (`true`) or after the start
of a substitution (`false`). -/
def scanTemplateText (d : Dialect) : (escaped : Bool) → List Char → Cursor → Option (Bool × Cursor)
  | _, [], _ => none
  | true, ch :: rest, c => scanTemplateText d false rest (c.step ch rest)
  | false, ch :: rest, c =>
    if ch.toNat = 0x60 then some (true, c.step ch rest)
    else if ch == '\\' then
      if d.strict || isEscape d rest then scanTemplateText d true rest (c.step ch rest) else none
    else if ch == '$' && rest.head? == some '{' then some (false, (c.step ch rest).next)
    else scanTemplateText d false rest (c.step ch rest)

/-- The end of a quoted value of a markup attribute, which has no escapes. -/
def scanMarkupString (c : Cursor) : Option Cursor :=
  match c.rest with
  | [] => none
  | quote :: _ =>
    let stop := c.next.skipWhile (· != quote)
    if stop.rest.isEmpty then none else some stop.next

/-- The end of a markup entity, when one starts here. -/
def scanEntity (c : Cursor) : Option Cursor :=
  let body := c.next.skipWhile fun ch => ch.isAlphanum || ch == '#'
  if body.peek? == some ';' && body.offset > c.offset + 1 then some body.next else none

/-- The end of the text between two markup tags; the fuel bounds the number of entities. -/
def scanMarkupText (d : Dialect) : Nat → Cursor → Cursor
  | 0, c => c
  | fuel + 1, c =>
    let c := c.skipWhile fun ch => !"<>\x7b\x7d&".toList.contains ch
    if c.peek? == some '&' then
      match scanEntity c with
      | some c => scanMarkupText d fuel c
      | none => if d.strict then scanMarkupText d fuel c.next else c
    else c

end PackageUsage.Source
