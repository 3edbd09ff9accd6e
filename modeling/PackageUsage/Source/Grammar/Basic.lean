import PackageUsage.Source.Parser

/-!
# Common parts of the grammar

Rules call each other through a handle `rule`, so every rule is a plain definition and the knot is
tied once. A rule for expressions says what the text it has read may stand for.
-/

namespace PackageUsage.Source.Grammar

open PackageUsage.Source.Parser

inductive Rule where
  | statement
  /-- Expressions with commas between them. -/
  | expression
  | assignment
  /-- An expression without binary operators. -/
  | operand
  | type
  | block
  | classBody
  | element
  /-- The target of a declaration or a parameter. -/
  | pattern
deriving DecidableEq, Repr, Inhabited

/-- What a text that has been read may stand for. -/
structure Shape where
  value : Bool := true
  /-- Something may be assigned to it. -/
  target : Bool := false
  parameter : Bool := false
  /-- It is a function given by an arrow. -/
  arrow : Bool := false
  place : Bool := false
  /-- A member of it may be absent. -/
  chained : Bool := false
deriving DecidableEq, Repr, Inhabited

abbrev Rules : Type :=
  Rule → Parser Shape

/-- The shape of an expression that is nothing else. -/
def Shape.plain : Shape :=
  {}

def Shape.name : Shape :=
  { target := true, parameter := true, place := true }

/-- The shape of brackets or braces that may be the target of several values. -/
def Shape.pattern : Shape :=
  { target := true, parameter := true }

/-! ### Words -/

/-- The words that no identifier is spelled like in the strict dialects. -/
def reservedWords : List String :=
  ["break", "case", "catch", "class", "const", "continue", "debugger", "default", "delete", "do",
    "else", "enum", "export", "extends", "false", "finally", "for", "function", "if", "import",
    "in", "instanceof", "new", "null", "return", "super", "switch", "this", "throw", "true", "try",
    "typeof", "var", "void", "while", "with"]

/-- The words that are keywords in some rule. -/
def keywords (types : Bool) : List String :=
  reservedWords ++
  ["as", "async", "await", "from", "get", "let", "meta", "of", "set", "static", "target",
    "undefined", "yield"] ++
  if types then
    ["abstract", "accessor", "any", "assert", "asserts", "boolean", "declare", "global",
      "implements", "infer", "interface", "is", "keyof", "module", "namespace", "never", "number",
      "object", "override", "private", "protected", "public", "readonly", "require", "satisfies",
      "string", "symbol", "type", "unique", "unknown"]
  else []

/-- The keywords that may also be the name of a value. -/
def nameLikeKeywords (types : Bool) : List String :=
  ["get", "set", "async", "static", "export", "let"] ++
  if types then
    ["declare", "namespace", "type", "public", "private", "protected", "override", "readonly",
      "module", "any", "number", "boolean", "string", "symbol", "object", "new"]
  else []

/-- Whether a lexeme may be taken for an identifier where the given keywords have a meaning. -/
def isIdentifier (e : Context) (valid : List String) (l : Lexeme) : Bool :=
  match l.kind with
  | .word w =>
    if e.dialect.strict then
      !reservedWords.contains w && !(w == "yield" && e.inGenerator) && !(w == "await" && e.inAsync)
    else
      match l.reading with
      | .any => !valid.contains w
      | .identifier => true
      | .keyword => !(keywords e.dialect.types).contains w
  | _ => false

/-- Reads an identifier where the given keywords have a meaning. -/
def identifier (valid : List String := []) : Parser Unit := do
  let l ← look
  if isIdentifier (← context) valid l then bump else refuse

/-- The identifier that is supposed where one is missing, if a rule is complete with it before the
given lexeme: one of the marks comes next. -/
def supposedName (completedBy : List String) (l : Lexeme) : List LexemeKind :=
  match l.kind with
  | .mark m => if completedBy.contains m then [.word ""] else []
  | .endOfText => if completedBy.contains "" then [.word ""] else []
  | _ => []

/-- Reads an identifier into a leaf. One may be supposed before the marks that complete its rule. -/
def identifierLeaf (role : Option Role := none) (completedBy : List String := []) :
    Parser Unit := do
  let l ← look
  if isIdentifier (← context) [] l then leaf .identifier role
  else refuse (supposedName completedBy l)

def anyWord : Parser Unit := do
  match (← look).kind with
  | .word _ => bump
  | _ => refuse

/-! ### Ends of statements -/

/-- Whether the next line goes on with the statement, by the character that starts it. -/
def continuesStatement (types expression : Bool) (cs : List Char) : Bool :=
  match cs with
  | [] => false
  | c :: rest =>
    if "`,;*%><=?^|&/:".toList.contains c then true
    else if c == '.' then types || !(rest.head?.any Char.isDigit)
    else if c == '(' || c == '[' then !types || expression
    else if c == '+' then rest.head? != some '+'
    else if c == '-' then rest.head? != some '-'
    else if c == '!' then rest.head? == some '='
    else if c == 'i' then
      match rest with
      | 'n' :: more =>
        let after :=
          match Text.dropPrefix? "stanceof".toList more with
          | some after => after
          | none => more
        !(after.head?.any fun c => c.isAlpha)
      | _ => false
    else false

/-- Whether a statement may end before a lexeme without a semicolon. `expression` says that it
could go on with an operator. A lexeme that is tried after a repair ends nothing. -/
def endsStatement (d : Dialect) (expression : Bool) (l : Lexeme) : Bool :=
  if l.reading != .any then false
  else match l.kind with
  | .endOfText => true
  | .mark "\x7d" =>
    if d.strict || !d.types || expression then true
    else (l.stop.skipWhile isAsciiBlank).peek? != some ':'
  | _ =>
    if d.strict then l.lineBreak
    else if l.lineBreak then !continuesStatement d.types expression l.start.rest
    else !d.types && !expression && l.commentBreak && l.start.peek? != some ',' &&
      l.start.peek? != some '='

def semicolon (expression : Bool) : Parser Unit := do
  if ← optionalMark ";" then pure ()
  else if endsStatement (← context).dialect expression (← look) then pure ()
  else refuse [.mark ";"]

/-- Whether the line break before the next lexeme ends the expression being read. -/
def lineEndsHere : Parser Bool := do
  let e ← context
  let l ← look
  if e.dialect.strict then return l.lineBreak
  else return e.lineEnds && l.lineBreak && endsStatement e.dialect true l

/-- Reads inside brackets, where the end of a line ends nothing. -/
def enclosed {α : Type} (p : Parser α) : Parser α :=
  within (fun e => { e with
    lineEnds := false, noIn := false, noResultType := false, noCondition := false }) p

/-! ### Lists and raw text -/

/-- Reads items divided by commas up to a closing mark, which is not read. A comma may follow the
last item. -/
def commaList (close : String) (item : Parser Unit) : Parser Unit := do
  if ← atMark close then pure ()
  else
    symbol item <|> refuse [.mark close]
    many do
      if ← optionalMark "," then
        if ← atMark close then return false
        symbol item <|> refuse [.mark close]
        return true
      else if ← atMark close then return false
      else refuse [.mark close]

/-- Reads a closing angle bracket, also from the front of a longer mark. A supposed one is read as
it is. -/
def closingAngle : Parser Unit := do
  let l ← look
  match l.kind with
  | .mark m =>
    if !m.startsWith ">" then refuse [.mark ">"]
    else if l.missing then bump
    else jump l.start.next
  | _ => refuse [.mark ">"]

/-- Reads an opening angle bracket, also from the front of a longer mark. -/
def openingAngle : Parser Unit := do
  let l ← look
  match l.kind with
  | .mark m => if m == "<" || m == "<<" then jump l.start.next else refuse
  | _ => refuse

/-- Whether the next lexeme is a mark that starts with an opening angle bracket. -/
def atAngle : Parser Bool := do
  return (← look).kind == .mark "<" || (← look).kind == .mark "<<"

/-- Reads with a scanner from the start of the next lexeme. -/
def scanned (scan : Cursor → Option Cursor) : Parser Unit := do
  let l ← look
  match scan l.start with
  | some stop => jump stop
  | none => refuse

/-- Skips the lines that start with a markup comment, outside the strict dialects. -/
def skipMarkupComments : Parser Unit :=
  whileTrue do
    let e ← context
    let l ← look
    if !e.dialect.strict && (l.start.startsWith "<!--" || l.start.startsWith "-->") then
      jump (l.start.skipWhile fun c => c != '\n')
      return true
    else return false

/-- Reads a template; the lexeme `backtick` comes next. A brace that is supposed behind a
substitution stands at the end of the template. -/
def template (substitution : Parser Unit) : Parser Unit := symbol do
  let d := (← context).dialect
  let l ← look
  match scanTemplateText d false l.start.next.rest l.start.next with
  | none => refuse
  | some (closed, stop) =>
    jump stop
    if closed then pure ()
    else
      whileTrue do
        enclosed substitution
        let l ← look
        if l.kind != .mark "\x7d" then refuse [.mark "\x7d"]
        else if l.missing then
          bump
          mark "`"
          return false
        else
          match scanTemplateText d false l.start.next.rest l.start.next with
          | none => refuse
          | some (closed, stop) =>
            jump stop
            return !closed

end PackageUsage.Source.Grammar
