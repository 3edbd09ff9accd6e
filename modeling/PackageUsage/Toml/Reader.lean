import PackageUsage.Toml.Basic

/-!
# Readers of settings files

A reader takes a value from the start of a text or does without: it is then either refused, and
another reader may be tried in its place, or has failed for good. What was expected is collected on
the way out, so that a message names the innermost construct.
-/

namespace PackageUsage.Toml

/-- What went wrong: the innermost construct with a name, what could have come instead, and a cause
beyond spelling. -/
structure Fault where
  label : Option String := none
  expected : List String := []
  cause : Option Cause := none
deriving Repr, Inhabited

/-- The wording of a fault, each part on a line of its own; empty if nothing is known. -/
def Fault.message (f : Fault) : String :=
  let label := f.label.map ("invalid " ++ ·)
  let expected :=
    if f.expected.isEmpty then none else some ("expected " ++ ", ".intercalate f.expected)
  "\n".intercalate (label.toList ++ expected.toList ++ (f.cause.map Cause.message).toList)

inductive Outcome (α : Type)
  | done (a : α) (rest : List Char)
  | refused (f : Fault)
  | failed (f : Fault)

def Reader (α : Type) : Type :=
  List Char → Outcome α

namespace Reader

variable {α β : Type}

def give (a : α) : Reader α :=
  fun cs => .done a cs

def andThen (p : Reader α) (f : α → Reader β) : Reader β :=
  fun cs =>
    match p cs with
    | .done a rest => f a rest
    | .refused e => .refused e
    | .failed e => .failed e

instance : Monad Reader where
  pure := give
  bind := andThen

def refuse : Reader α :=
  fun _ => .refused {}

def refuseFor (cause : Cause) : Reader α :=
  fun _ => .refused { cause := some cause }

def orTry (p q : Reader α) : Reader α :=
  fun cs =>
    match p cs with
    | .refused _ => q cs
    | outcome => outcome

/-- A reader whose refusal is final. -/
def committed (p : Reader α) : Reader α :=
  fun cs =>
    match p cs with
    | .refused e => .failed e
    | outcome => outcome

def explain (f : Fault → Fault) (p : Reader α) : Reader α :=
  fun cs =>
    match p cs with
    | .done a rest => .done a rest
    | .refused e => .refused (f e)
    | .failed e => .failed (f e)

def labelled (name : String) (p : Reader α) : Reader α :=
  explain (fun f => { f with label := f.label.or (some name) }) p

/-- Says what could have come instead. -/
def expecting (what : List String) (p : Reader α) : Reader α :=
  explain (fun f => { f with expected := f.expected ++ what }) p

def optional (p : Reader α) : Reader (Option α) :=
  fun cs =>
    match p cs with
    | .done a rest => .done (some a) rest
    | .refused _ => .done none cs
    | .failed e => .failed e

def ahead (p : Reader α) : Reader α :=
  fun cs =>
    match p cs with
    | .done a _ => .done a cs
    | outcome => outcome

def next? : Reader (Option Char) :=
  fun cs => .done cs.head? cs

def remaining : Reader Nat :=
  fun cs => .done cs.length cs

def charWhere (p : Char → Bool) : Reader Char
  | c :: rest => if p c then .done c rest else .refused {}
  | [] => .refused {}

def char (c : Char) : Reader Char :=
  charWhere (· == c)

def word : List Char → Reader Unit
  | [], cs => .done () cs
  | w :: ws, c :: cs => if w == c then word ws cs else .refused {}
  | _ :: _, [] => .refused {}

def takeWhile (p : Char → Bool) : Reader (List Char) :=
  fun cs => .done (cs.takeWhile p) (cs.dropWhile p)

/-- All characters of a class, at least one. -/
def takeWhile1 (p : Char → Bool) : Reader (List Char) :=
  fun cs =>
    match cs.takeWhile p with
    | [] => .refused {}
    | taken => .done taken (cs.dropWhile p)

/-- As many turns of a reader as it takes, up to a bound. -/
def turns (p : Reader α) : Nat → Reader (List α)
  | 0 => give []
  | n + 1 => do
    match ← optional p with
    | some a => return a :: (← turns p n)
    | none => return []

/-- As many turns of a reader as it takes; each takes at least one character. -/
def many (p : Reader α) : Reader (List α) :=
  fun cs => turns p cs.length cs

/-- Items with a separator between two of them, possibly none; a separator without an item after it
stays. -/
def separated (p : Reader α) (sep : Reader β) : Reader (List α) := do
  match ← optional p with
  | none => return []
  | some a =>
    let rest ← many (andThen sep fun _ => p)
    return a :: rest

def atEnd : Reader Unit
  | [] => .done () []
  | _ :: _ => .refused {}

end Reader

open Reader

/-! ## Blanks, line ends and comments -/

/-- Blanks within a line. -/
def isBlank (c : Char) : Bool :=
  c == ' ' || c == '\t'

def isWide (c : Char) : Bool :=
  c.toNat ≥ 128

/-- Characters of ASCII that are no control characters. -/
def isVisible (c : Char) : Bool :=
  0x20 ≤ c.toNat && c.toNat ≤ 0x7E

def blanks : Reader Unit := do
  let _ ← takeWhile isBlank

def newline : Reader Unit :=
  orTry (word ['\n']) (word ['\r', '\n'])

def comment : Reader Unit := do
  let _ ← char '#'
  let _ ← takeWhile fun c => c == '\t' || isVisible c || isWide c

def lineEnd : Reader Unit :=
  orTry newline atEnd

/-- What may follow on the line of an entry. -/
def lineRest : Reader Unit := do
  blanks
  let _ ← optional comment
  lineEnd

/-- What may follow on the line of an entry, with the message that it is all that may follow. -/
def lineRestOnly : Reader Unit :=
  expecting ["newline", "`#`"] lineRest

/-- Blanks, line ends and comments, as they may stand in an array. -/
def gap : Reader Unit := do
  let _ ← many (orTry (do let _ ← takeWhile1 isBlank)
    (orTry newline (do comment; newline)))

/-! ## Strings -/

/-- The character with a code, if it is a Unicode scalar value. -/
def scalar? (n : Nat) : Option Char :=
  if n.isValidChar then some (Char.ofNat n) else none

def hexDigit? (c : Char) : Option Nat :=
  if c.isDigit then some (c.toNat - '0'.toNat)
  else if 'a' ≤ c && c ≤ 'f' then some (c.toNat - 'a'.toNat + 10)
  else if 'A' ≤ c && c ≤ 'F' then some (c.toNat - 'A'.toNat + 10)
  else none

def valueOf (base : Nat) (digits : List Char) : Nat :=
  digits.foldl (fun n c => n * base + (hexDigit? c).getD 0) 0

/-- A character by its code in a number of hexadecimal digits. -/
def hexEscape (count : Nat) : Reader Char :=
  fun cs =>
    let digits := (cs.take count).takeWhile fun c => (hexDigit? c).isSome
    if digits.length == count then
      match scalar? (valueOf 16 digits) with
      | some c => .done c (cs.drop count)
      | none => .refused { cause := some .outOfRange }
    else .refused {}

def escapeRest : Reader Char := do
  let c ← charWhere fun _ => true
  match c with
  | 'b' => return '\x08'
  | 'f' => return '\x0C'
  | 'n' => return '\n'
  | 'r' => return '\r'
  | 't' => return '\t'
  | '\\' => return '\\'
  | '"' => return '"'
  | 'u' => labelled "unicode 4-digit hex code" (committed (hexEscape 4))
  | 'U' => labelled "unicode 8-digit hex code" (committed (hexEscape 8))
  | _ =>
    expecting ["`b`", "`f`", "`n`", "`r`", "`t`", "`u`", "`U`", "`\\`", "`\"`"]
      (labelled "escape sequence" (committed refuse))

def escaped : Reader Char := do
  let _ ← char '\\'
  escapeRest

/-- The characters that stand for themselves in a basic string. -/
def isBasic (c : Char) : Bool :=
  c == '\t' || (isVisible c && c != '"' && c != '\\') || isWide c

def basicPart : Reader (List Char) :=
  orTry (takeWhile1 isBasic) (do return [← escaped])

def basicString : Reader String := do
  let _ ← char '"'
  let parts ← many basicPart
  let _ ← labelled "basic string" (committed (char '"'))
  return String.ofList parts.flatten

/-- A line end that a backslash hides, with the blanks and line ends after it. -/
def hiddenLineEnd : Reader Unit := do
  let _ ← char '\\'
  blanks
  newline
  let _ ← many (orTry (do let _ ← takeWhile1 isBlank) newline)

def longBasicPart : Reader (List Char) :=
  orTry (takeWhile1 isBasic) <|
    orTry (do hiddenLineEnd; return []) <|
      orTry (do return [← escaped]) (do newline; return ['\n'])

/-- One or two quotes with something after them that stays. -/
def quotesBefore {α : Type} (quote : Char) (p : Reader α) : Reader (List Char) :=
  orTry (do word [quote, quote]; let _ ← ahead p; return [quote, quote])
    (do word [quote]; let _ ← ahead p; return [quote])

/-- The contents of a string over several lines: parts, with one or two quotes between them or
before the closing quotes. -/
def longBody (quote : Char) (part : Reader (List Char)) : Reader (List Char) := do
  let first ← many part
  let middle ← many do
    let quotes ← quotesBefore quote part
    let parts ← many part
    return quotes ++ parts.flatten
  let last ← optional (quotesBefore quote (word [quote, quote, quote]))
  return first.flatten ++ middle.flatten ++ last.getD []

/-- A string over several lines; a line end right after the opening quotes is dropped. -/
def longString (quote : Char) (part : Reader (List Char)) : Reader String := do
  word [quote, quote, quote]
  let _ ← optional newline
  let body ← committed (longBody quote part)
  committed (word [quote, quote, quote])
  return String.ofList body

def longBasicString : Reader String :=
  labelled "multiline basic string" (longString '"' longBasicPart)

def isLiteral (c : Char) : Bool :=
  c == '\t' || (isVisible c && c != '\'') || isWide c

def literalString : Reader String :=
  labelled "literal string" do
    let _ ← char '\''
    let body ← takeWhile isLiteral
    let _ ← committed (char '\'')
    return String.ofList body

def longLiteralString : Reader String :=
  labelled "multiline literal string"
    (longString '\'' (orTry (takeWhile1 isLiteral) (do newline; return ['\n'])))

def string : Reader String :=
  orTry longBasicString (orTry basicString (orTry longLiteralString literalString))

/-! ## Keys -/

/-- The characters of a key without quotes. -/
def isBare (c : Char) : Bool :=
  (c.isAlphanum && c.toNat < 128) || c == '-' || c == '_'

def simpleKey : Reader String := do
  match ← next? with
  | some '"' => basicString
  | some '\'' => literalString
  | some _ => return String.ofList (← takeWhile1 isBare)
  | none => refuse

/-- How deeply values may be nested, and how many parts a key may have. -/
def depthLimit : Nat := 79

def key : Reader (List String) := do
  let part : Reader String := do
    blanks
    let k ← simpleKey
    blanks
    return k
  let parts ← labelled "key" do
    let first ← part
    let rest ← many (andThen (char '.') fun _ => part)
    return first :: rest
  if parts.length > depthLimit then refuseFor .tooDeep else return parts

def equalsSign : Reader Unit :=
  expecting ["`.`", "`=`"] do
    let _ ← char '='

/-! ## Numbers -/

/-- A run of digits with single underscores between two digits, without the underscores. -/
def digitRun (isDigit : Char → Bool) : Reader (List Char) :=
  many (orTry (charWhere isDigit) do
    let _ ← char '_'
    expecting ["digit"] (committed (charWhere isDigit)))

/-- A decimal integer with its sign, as it is spelled but for underscores. -/
def decimalDigits : Reader (Option Char × List Char) :=
  labelled "integer" do
    let sign ← optional (charWhere fun c => c == '+' || c == '-')
    let digits ← orTry
      (do
        let first ← charWhere fun c => '1' ≤ c && c ≤ '9'
        return first :: (← digitRun Char.isDigit))
      (do return [← charWhere Char.isDigit])
    return (sign, digits)

/-- An integer that fits into 64 bits. -/
def fitting (negative : Bool) (n : Nat) : Reader Int :=
  if negative then
    if n ≤ Nat.pow 2 63 then give (-Int.ofNat n) else committed (refuseFor .integerTooSmall)
  else if n < Nat.pow 2 63 then give (Int.ofNat n) else committed (refuseFor .integerTooLarge)

/-- An integer in another base after its two-letter start. -/
def basedInteger (start : List Char) (base : Nat) (label : String) (isDigit : Char → Bool) :
    Reader Int := do
  let digits ← labelled label do
    word start
    committed do
      let first ← charWhere isDigit
      return first :: (← digitRun isDigit)
  fitting false (valueOf base digits)

def integer : Reader Int :=
  fun cs =>
    let isHex (c : Char) := (hexDigit? c).isSome
    let p := match cs with
      | '0' :: 'x' :: _ => committed (basedInteger ['0', 'x'] 16 "hexadecimal integer" isHex)
      | '0' :: 'o' :: _ =>
        committed (basedInteger ['0', 'o'] 8 "octal integer" fun c => '0' ≤ c && c ≤ '7')
      | '0' :: 'b' :: _ =>
        committed (basedInteger ['0', 'b'] 2 "binary integer" fun c => c == '0' || c == '1')
      | _ => do
        let (sign, digits) ← decimalDigits
        fitting (sign == some '-') (valueOf 10 digits)
    p cs

/-- Digits that may start with a zero. -/
def looseDigits : Reader (List Char) := do
  let first ← charWhere Char.isDigit
  return first :: (← digitRun Char.isDigit)

def fraction : Reader (List Char) := do
  let _ ← char '.'
  expecting ["digit"] (committed looseDigits)

def exponent : Reader Int := do
  let _ ← charWhere fun c => c == 'e' || c == 'E'
  let sign ← optional (charWhere fun c => c == '+' || c == '-')
  let digits ← committed looseDigits
  let n := Int.ofNat (valueOf 10 digits)
  return if sign == some '-' then -n else n

/-- The greatest exponent that matters: beyond it every number is infinite, or zero. -/
def clampExponent (e : Int) : Int :=
  if e > 20000 then 20000 else if e < -20000 then -20000 else e

/-- Whether a number is beyond the greatest double. -/
def overflows (mantissa : Nat) (e : Int) : Bool :=
  (Float.ofScientific mantissa (e < 0) e.natAbs).isInf

/-- A floating-point number with a fraction or an exponent; one above all doubles is no number,
while one below all is infinite. -/
def plainReal : Reader Real := do
  let (sign, whole) ← decimalDigits
  let (frac, e) ← orTry
    (do return ([], ← exponent))
    (do
      let frac ← fraction
      let e ← optional exponent
      return (frac, e.getD 0))
  let negative := sign == some '-'
  let mantissa := valueOf 10 (whole ++ frac)
  let scale := clampExponent (e - Int.ofNat frac.length)
  if overflows mantissa scale then
    if negative then return .infinite true else committed refuse
  else return .finite negative mantissa scale

def infinity : Reader Unit :=
  word ['i', 'n', 'f']

def nan : Reader Unit :=
  word ['n', 'a', 'n']

def real : Reader Real :=
  labelled "floating-point number" <| orTry plainReal do
    let sign ← optional (charWhere fun c => c == '+' || c == '-')
    orTry (do infinity; return .infinite (sign == some '-')) (do nan; return .notANumber)

/-! ## Dates and times -/

/-- A number of exactly so many digits between two bounds. -/
def number (digits low high : Nat) : Reader Nat :=
  fun cs =>
    let taken := (cs.take digits).takeWhile Char.isDigit
    if taken.length == digits then
      let n := valueOf 10 taken
      if low ≤ n && n ≤ high then .done n (cs.drop digits)
      else .refused { cause := some .outOfRange }
    else .refused {}

def daysIn (year month : Nat) : Nat :=
  if month == 2 then
    if year % 4 == 0 && (year % 100 != 0 || year % 400 == 0) then 29 else 28
  else if [4, 6, 9, 11].contains month then 30 else 31

def date : Reader Unit := do
  let year ← number 4 0 9999
  let _ ← char '-'
  let month ← committed (number 2 1 12)
  let _ ← committed (char '-')
  let day ← committed (number 2 1 31)
  if day > daysIn year month then committed (refuseFor .outOfRange)

def time : Reader Unit := do
  let _ ← number 2 0 23
  let _ ← char ':'
  committed do
    let _ ← number 2 0 59
    let _ ← char ':'
    let _ ← number 2 0 60
    let _ ← optional do
      let _ ← char '.'
      takeWhile1 Char.isDigit

/-- The offset of a time from universal time. -/
def offset : Reader Unit :=
  labelled "time offset" <| orTry (do let _ ← charWhere fun c => c == 'Z' || c == 'z') do
    let _ ← charWhere fun c => c == '+' || c == '-'
    committed do
      let _ ← number 2 0 23
      let _ ← char ':'
      let _ ← number 2 0 59

def dateTime : Reader Unit :=
  orTry
    (labelled "date-time" do
      date
      let _ ← optional do
        let _ ← charWhere fun c => c == 'T' || c == 't' || c == ' '
        time
        optional offset)
    (labelled "time" time)

end PackageUsage.Toml
