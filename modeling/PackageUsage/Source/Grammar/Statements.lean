import PackageUsage.Source.Grammar.Modules

/-!
# Statements and declarations
-/

namespace PackageUsage.Source.Grammar

open PackageUsage.Source.Parser

/-- Reads statements up to a closing brace, the end of the text or, in a `switch`, the next
alternative. The closing brace is not read; it is wanted where it is in the list. -/
def statements (rule : Rules) (wanted : List LexemeKind) : Parser Unit :=
  many do
    skipMarkupComments
    let e ← context
    let l ← look
    if l.kind == .mark "\x7d" || l.kind == .endOfText then return false
    else if e.inSwitch && (l.kind == .word "case" || l.kind == .word "default") then return false
    else
      let _ ← rule .statement <|> refuse wanted
      return true

def block (rule : Rules) : Parser Shape := symbol do
  mark "\x7b"
  within (fun e => { e with lineEnds := true, noIn := false, noResultType := false,
                            inSwitch := false }) (statements rule [.mark "\x7d"])
  closing "\x7d"
  return Shape.plain

def parenthesized (rule : Rules) : Parser Unit := symbol do
  mark "("
  enclosed (value rule .expression)
  closing ")"

/-! ### Variables -/

/-- One variable of a declaration; `loop` says that the declaration stands in the head of a loop. -/
def declarator (rule : Rules) (constant loop : Bool) : Parser Unit := do
  let e ← context
  let destructured := (← atMark "\x7b") || (← atMark "[")
  let _ ← rule .pattern
  if e.dialect.types then
    let _ ← optionalMark "!"
  optionalAnnotation rule
  if ← atMark "=" then
    optionalDefault rule
    if loop then require !((← atWord "of"))
  else require (loop || e.ambient || !(constant || destructured))

def declarators (rule : Rules) (constant loop : Bool) : Parser Unit := do
  symbol (declarator rule constant loop)
  many do
    if ← optionalMark "," then
      symbol (declarator rule constant loop)
      return true
    else return false

def variableDeclaration (rule : Rules) : Parser Unit := do
  let constant ← atWord "const"
  bump
  declarators rule constant false
  semicolon true

/-! ### Loops and choices -/

/-- What follows the keyword `of` or `in` in the head of a loop. -/
def loopRange (rule : Rules) : Parser Unit := do
  bump
  value rule .expression

/-- What follows the start of a loop's head: the range, or a condition and a step. -/
def loopRest (rule : Rules) (target : Bool) : Parser Unit := do
  if target && ((← atWord "of") || (← atWord "in")) then loopRange rule
  else
    mark ";"
    if !(← optionalMark ";") then
      value rule .expression
      mark ";"
    if !(← atMark ")") then value rule .expression

/-- Whether a word starts a declaration of variables before a lexeme. -/
def declares (d : Dialect) (l next : Lexeme) : Bool :=
  match l.kind with
  | .word "var" | .word "const" => true
  | .word "let" =>
    match next.kind with
    | .word w => !(["in", "instanceof"].contains w) && (w != "of" || d.strict)
    | .mark "[" | .mark "\x7b" => true
    | _ => false
  | .word "using" =>
    d.strict &&
      match next.kind with
      | .word w => !(["in", "instanceof", "of"].contains w) && !next.lineBreak
      | _ => false
  | _ => false

/-- A loop over a range or with a condition. -/
def forLoop (rule : Rules) : Parser Unit := do
  keyword "for"
  let _ ← optionalWord "await"
  mark "("
  enclosed do
    let d := (← context).dialect
    let l ← look
    let next ← lookAfter
    if l.kind == .mark ";" then loopRest rule false
    else if l.kind == .word "await" && next.kind == .word "using" && d.strict then
      bump
      bump
      within (fun e => { e with noIn := true }) (declarators rule false true)
      loopRest rule true
    else if declares d l next then
      bump
      within (fun e => { e with noIn := true }) (declarators rule false true)
      loopRest rule true
    else
      let s ← within (fun e => { e with noIn := true }) (rule .expression)
      if (← atWord "of") || (← atWord "in") then guard s.target else guard s.value
      loopRest rule s.target
  closing ")"
  let _ ← rule .statement

def switch (rule : Rules) : Parser Unit := do
  keyword "switch"
  parenthesized rule
  symbol do
    mark "\x7b"
    many do
      if ← atMark "\x7d" then return false
      symbol do
        if ← optionalWord "case" then
          within (fun e => { e with lineEnds := false, noIn := false }) (value rule .expression)
          mark ":"
        else
          keyword "default"
          mark ":"
        within (fun e => { e with lineEnds := true, inSwitch := true }) <|
          statements rule [.mark "\x7d"]
      return true
    closing "\x7d"

def tryStatement (rule : Rules) : Parser Unit := do
  keyword "try"
  let _ ← rule .block
  let caught ← atWord "catch"
  if caught then
    symbol do
      bump
      if ← optionalMark "(" then
        enclosed do
          let _ ← rule .pattern
          optionalAnnotation rule
        closing ")"
      let _ ← rule .block
  let finished ← atWord "finally"
  if finished then
    symbol do
      bump
      let _ ← rule .block
  require (caught || finished)

/-! ### Declarations of types and namespaces -/

/-- The types a declaration extends or implements. -/
def typeList (rule : Rules) : Parser Unit :=
  many do
    let _ ← rule .type
    optionalMark ","

def interface (rule : Rules) : Parser Unit := do
  keyword "interface"
  identifier
  optionalTypeParameters rule
  if ← optionalWord "extends" then typeList rule
  objectType rule

/-- An enumeration, after the word `const` if there is one. -/
def enumeration (rule : Rules) : Parser Unit := do
  keyword "enum"
  let l ← look
  noteBound l.word
  identifier
  symbol do
    mark "\x7b"
    enclosed <| commaList "\x7d" do
      match (← look).kind with
      | .word _ | .string => bump
      | .number => do
        require false
        bump
      | .mark "[" => memberName rule
      | .secret => do
        require false
        bump
      | _ => refuse
      if ← optionalMark "=" then value rule .assignment
    closing "\x7d"

/-- A namespace or a module, from its keyword on. -/
def namespaceDeclaration (rule : Rules) : Parser Unit := do
  bump
  if (← look).kind == .string then bump
  else dottedName
  if ← atMark "\x7b" then
    let _ ← rule .block
  else semicolon false

def optionalLabel : Parser Unit := do
  let e ← context
  let l ← look
  if isIdentifier e [] l && !endsStatement e.dialect false l then bump

def expressionStatement (rule : Rules) : Parser Unit := do
  value rule .expression
  semicolon true

/-! ### Statements -/

def ambientDeclaration (rule : Rules) : Parser Unit :=
  within (fun e => { e with ambient := true }) do
    let next ← lookAfter
    if (← atWord "global") && next.kind == .mark "\x7b" then
      bump
      let _ ← rule .block
    else if (← atWord "module") && next.kind == .mark "." then
      bump
      bump
      identifier
      mark ":"
      let _ ← rule .type
      semicolon false
    else
      let _ ← rule .statement

/-- Whether the word that comes next starts a declaration of its own, by the lexeme after it; if
not, it is the name of a value. -/
def startsNamed (d : Dialect) (word : String) (next : Lexeme) : Bool :=
  let broken := next.lineBreak && (d.strict || endsStatement d true next)
  match next.kind with
  | .word w =>
    if broken || ["in", "instanceof", "as", "satisfies"].contains w then false
    else if word == "declare" then
      startsDeclaration { d with types := true } w || w == "import" || w == "export"
    else true
  | .string => word == "module" && !broken
  | .mark "\x7b" => word == "global" && d.strict
  | _ => false

def wordStatement (rule : Rules) (l next : Lexeme) : Parser Unit := do
  let e ← context
  let d := e.dialect
  -- a line break after the word ends a statement that is only this word
  let broken := !d.strict && endsStatement d true next && next.kind != .mark "\x7d" &&
    next.kind != .endOfText
  match l.word with
  | "import" =>
    if next.kind == .mark "(" || next.kind == .mark "." || next.kind == .mark "<" then
      expressionStatement rule
    else if d.strict then strictImport rule
    else tolerantImport rule
  | "export" =>
    if d.strict then strictExport rule
    else
      let declares :=
        match next.kind with
        | .mark m => m == "*" || m == "\x7b" || m == "@" || (d.types && m == "=")
        | .word w => !(["in", "instanceof"].contains w)
        | _ => false
      if broken || !declares then expressionStatement rule
      else tolerantExport rule
  | "var" | "const" =>
    if l.word == "const" && d.types && next.kind == .word "enum" then
      bump
      enumeration rule
    else variableDeclaration rule
  | "let" =>
    if declares d l next && (d.strict || !broken) then variableDeclaration rule
    else expressionStatement rule
  | "using" =>
    if declares d l next then variableDeclaration rule else expressionStatement rule
  | "await" =>
    if d.strict && next.kind == .word "using" && !next.lineBreak then
      (do bump
          bump
          declarators rule false false
          semicolon true) <|> expressionStatement rule
    else expressionStatement rule
  | "function" =>
    function rule false true
  | "async" =>
    if next.kind == .word "function" && !next.lineBreak then
      bump
      function rule true true
    else expressionStatement rule
  | "class" => classRest rule true
  | "if" =>
    bump
    parenthesized rule
    let _ ← rule .statement
    if ← atWord "else" then
      symbol do
        bump
        let _ ← rule .statement
  | "for" => forLoop rule
  | "while" =>
    bump
    parenthesized rule
    let _ ← rule .statement
  | "do" =>
    bump
    let _ ← rule .statement
    keyword "while"
    parenthesized rule
    let _ ← optionalMark ";"
  | "switch" => switch rule
  | "try" => tryStatement rule
  | "with" =>
    bump
    parenthesized rule
    let _ ← rule .statement
  | "break" | "continue" =>
    bump
    optionalLabel
    semicolon false
  | "debugger" =>
    bump
    semicolon false
  | "return" =>
    require e.inFunction
    bump
    if endsStatement d false (← look) || (← atMark ";") then semicolon false
    else
      value rule .expression
      semicolon true
  | "throw" =>
    bump
    if d.strict then guard !(← look).lineBreak
    value rule .expression
    semicolon true
  | "type" =>
    if d.types && startsNamed d "type" next then
      bump
      typeAliasRest rule
    else expressionStatement rule
  | "interface" =>
    if d.types && (!d.strict || startsNamed d "interface" next) then interface rule
    else expressionStatement rule
  | "enum" => if d.types then enumeration rule else expressionStatement rule
  | "abstract" =>
    if d.types && (!d.strict || next.kind == .word "class") then
      bump
      classRest rule true
    else expressionStatement rule
  | "namespace" | "module" =>
    if d.types && startsNamed d l.word next then namespaceDeclaration rule
    else expressionStatement rule
  | "global" =>
    if d.types && startsNamed d l.word next then
      bump
      let _ ← rule .block
    else expressionStatement rule
  | "declare" =>
    if d.types && startsNamed d "declare" next then
      bump
      ambientDeclaration rule
    else expressionStatement rule
  | _ => expressionStatement rule

def statement (rule : Rules) : Parser Shape := symbol do
  let e ← context
  let l ← look
  let next ← lookAfter
  match l.kind with
  | .mark "\x7b" =>
    let _ ← rule .block
  | .mark ";" => bump
  | .mark "@" => nodeOf do
    decorators rule
    if ← atWord "export" then
      if e.dialect.strict then strictExport rule else exportBody rule
      return .exportStatement
    else
      if e.dialect.types then let _ ← optionalWord "abstract"
      classRest rule true
      return .other
  | .word _ =>
    if l.reading == .identifier then expressionStatement rule
    else if next.kind == .mark ":" && isIdentifier e (expressionWords e.dialect.types) l then
      bump
      bump
      let _ ← rule .statement
    else wordStatement rule l next
  | _ => expressionStatement rule
  return Shape.plain

end PackageUsage.Source.Grammar
