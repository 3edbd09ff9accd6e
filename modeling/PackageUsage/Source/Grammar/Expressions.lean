import PackageUsage.Source.Grammar.Types

/-!
# Expressions

The text between parentheses, brackets or braces may turn out to be an expression or the target of
an assignment or an arrow. It is read once, and its shape says what it may be.
-/

namespace PackageUsage.Source.Grammar

open PackageUsage.Source.Parser

/-- Reads an expression, and refuses what is only a target. -/
def value (rule : Rules) (r : Rule) : Parser Unit := do
  let s ← rule r
  guard s.value

def arguments (rule : Rules) : Parser Unit := symbol do
  mark "("
  enclosed <| commaList ")" do
    if (← atMark ",") && !(← context).dialect.strict then pure ()
    else
      let _ ← optionalMark "..."
      value rule .assignment
  closing ")"

/-! ### Functions -/

def functionBody (rule : Rules) (async generator : Bool) : Parser Unit :=
  within (fun e => { e with
      lineEnds := true, noIn := false, noResultType := false, inFunction := true, inAsync := async,
      inGenerator := generator, inSwitch := false }) do
    let _ ← rule .block

def functionParameters (rule : Rules) (async generator : Bool) : Parser Unit :=
  within (fun e => { e with inAsync := async, inGenerator := generator }) (parameters rule)

def arrowRest (rule : Rules) (async : Bool) : Parser Shape := do
  if (← context).dialect.strict && (← look).lineBreak then refuse
  mark "=>"
  if ← atMark "\x7b" then
    functionBody rule async false
    return { arrow := true }
  else
    within (fun e => { e with inFunction := true, inAsync := async, inGenerator := false }) <|
      value rule .assignment
    return { arrow := true }

/-- The result type and the arrow after the parameters of an arrow function. -/
def typedArrow (rule : Rules) (async : Bool) : Parser Shape := do
  if ← atMark ":" then
    guard ((← context).dialect.types && !(← context).noResultType)
    bump
    within (fun e => { e with lineEnds := false }) (resultType rule)
  arrowRest rule async

/-- A function expression or declaration, from the keyword on. A declaration may lack its body
where types are allowed. -/
def function (rule : Rules) (async declaration : Bool) : Parser Unit := do
  keyword "function"
  let generator ← optionalMark "*"
  let e ← context
  let l ← look
  if isIdentifier { e with inAsync := e.inAsync && declaration } [] l then
    noteBound l.word
    bump
  else guard !declaration
  optionalTypeParameters rule
  functionParameters rule async generator
  optionalResult rule
  if ← atMark "\x7b" then functionBody rule async generator
  else if declaration && e.dialect.types then semicolon false
  else refuse

/-! ### Brackets and braces -/

/-- An array, or a target with the same spelling. -/
def array (rule : Rules) : Parser Shape := symbol do
  mark "["
  let mut shape : Shape := Shape.pattern
  shape ← enclosed (items (← context).fuel shape)
  closing "]"
  return shape
where
  items : Nat → Shape → Parser Shape
    | 0, _ => refuse
    | fuel + 1, shape => do
      if ← atMark "]" then return shape
      if ← optionalMark "," then items fuel shape
      else
        let _ ← optionalMark "..."
        let s ← symbol (rule .assignment) <|> refuse [.mark "]"]
        let shape : Shape := { shape with
          value := shape.value && s.value, target := shape.target && (s.target || s.parameter),
          parameter := shape.parameter && (s.target || s.parameter) }
        if ← optionalMark "," then items fuel shape
        else if ← atMark "]" then return shape
        else refuse [.mark "]"]

/-- The words that qualify a method. -/
def methodWords : List String :=
  ["get", "set", "async", "static", "public", "private", "protected", "readonly", "override"]

/-- Whether a word stands in front of a member's name rather than being it. -/
def isQualifier (words : List String) (l next : Lexeme) : Bool :=
  words.contains l.word &&
    match next.kind with
    | .word _ | .string | .number | .secret => true
    | .mark "[" | .mark "*" => true
    | _ => false

def methodRest (rule : Rules) (async generator : Bool) : Parser Unit := do
  optionalTypeParameters rule
  functionParameters rule async generator
  optionalResult rule
  functionBody rule async generator

/-- One member of an object, or of a target with the same spelling. -/
def objectMember (rule : Rules) : Parser Shape := do
  let e ← context
  let l ← look
  let next ← lookAfter
  if l.kind == .mark "," then return Shape.name
  else if l.kind == .mark "..." then
    bump
    let s ← rule .assignment
    guard s.value
    return { value := true, target := s.target, parameter := s.parameter }
  else if isQualifier methodWords l next && !(next.kind == .mark "*" && l.word != "async") then
    -- a method with words in front of its name
    let async := l.word == "async"
    bump
    let generator ← optionalMark "*"
    if !e.dialect.strict then
      whileTrue do
        if isQualifier methodWords (← look) (← lookAfter) then
          bump
          return true
        else return false
    memberName rule
    methodRest rule async generator
    return Shape.plain
  else if l.kind == .mark "*" then
    bump
    memberName rule
    methodRest rule false true
    return Shape.plain
  else if isIdentifier e [] l && next.kind != .mark ":" && next.kind != .mark "(" &&
      next.kind != .mark "<" && next.kind != .mark "<<" then
    bump
    if ← optionalMark "=" then
      value rule .assignment
      return { value := false, target := true, parameter := true }
    return Shape.name
  else
    memberName rule
    if ← optionalMark ":" then
      let s ← rule .assignment
      return { value := s.value, target := s.target || s.parameter,
               parameter := s.target || s.parameter }
    else
      methodRest rule false false
      return Shape.plain

/-- An object, or a target with the same spelling. -/
def object (rule : Rules) : Parser Shape := symbol do
  mark "\x7b"
  let shape ← enclosed (members (← context).fuel Shape.pattern)
  closing "\x7d"
  return shape
where
  members : Nat → Shape → Parser Shape
    | 0, _ => refuse
    | fuel + 1, shape => do
      if ← atMark "\x7d" then return shape
      if (← context).dialect.strict && (← atMark ",") then refuse
      let s ← symbol (objectMember rule) <|> refuse [.mark "\x7d"]
      let shape : Shape := { shape with
        value := shape.value && s.value, target := shape.target && s.target,
        parameter := shape.parameter && s.parameter }
      if ← optionalMark "," then members fuel shape
      else if ← atMark "\x7d" then return shape
      else refuse [.mark "\x7d"]

/-- What the items between two parentheses may be: an expression, or parameters. -/
structure Group where
  value : Bool := true
  parameters : Bool := true
  /-- The one item is a single place. -/
  place : Bool := false
deriving Repr, Inhabited

def groupItems (rule : Rules) (first : Bool) : Nat → Group → Parser Group
  | 0, _ => refuse
  | fuel + 1, group => do
    if ← atMark ")" then return { group with value := false }
    let e ← context
    decorators rule
    let rest ← optionalMark "..."
    let receiver := e.dialect.types && (← atWord "this") && (← lookAfter).kind == .mark ":"
    let s ← if receiver then
        bump
        Pure.pure Shape.name
      else symbol (rule .assignment)
    let mut item : Group :=
      { value := s.value && !rest && !receiver, parameters := s.parameter, place := s.place }
    if e.dialect.types && s.parameter then
      if ← optionalMark "?" then item := { item with value := false }
      if ← atMark ":" then
        bump
        let _ ← rule .type
        item := { item with value := false }
        optionalDefault rule
      else if !item.value && !rest then optionalDefault rule
    let group : Group :=
      { value := group.value && item.value, parameters := group.parameters && item.parameters }
    if ← optionalMark "," then
      if ← atMark ")" then return { group with value := false }
      require !rest
      groupItems rule false fuel group
    else if ← atMark ")" then return { group with place := first && item.place }
    else refuse [.mark ")"]

/-- Whether an arrow, or a result type with an arrow, may come next. -/
def atArrow : Parser Bool := do
  let e ← context
  return (← atMark "=>") || (e.dialect.types && !e.noResultType && (← atMark ":"))

/-- A group between parentheses: an expression, or the start of an arrow function. -/
def group (rule : Rules) : Parser Shape := symbol do
  mark "("
  if ← atMark ")" then
    bump
    typedArrow rule false
  else
    let g ← enclosed (groupItems rule true (← context).fuel {})
    closing ")"
    let place := g.place || !(← context).dialect.strict
    let whole : Shape := { target := place, place }
    if ← atArrow then
      if !g.parameters then
        guard g.value
        return whole
      else if g.value then typedArrow rule false <|> Pure.pure whole
      else typedArrow rule false
    else
      guard g.value
      return whole

/-- What follows the word `async`: a function, an arrow function, or nothing, when the word is a
name. -/
def asyncForms (rule : Rules) : Parser Shape := do
  let e ← context
  let next ← lookAfter
  match next.kind with
  | .word "function" =>
    if next.lineBreak && e.lineEnds then
      bump
      return Shape.name
    else
      bump
      function rule true false
      return Shape.plain
  | .word _ =>
    -- one parameter without parentheses
    if next.lineBreak then
      bump
      return Shape.name
    else
      (do bump
          within (fun e => { e with inAsync := true }) do let _ ← rule .pattern
          arrowRest rule true) <|>
        (do bump
            return Shape.name)
  | .mark "(" | .mark "<" | .mark "<<" =>
    (do bump
        if ← atAngle then
          guard e.dialect.types
          typeParameters rule
        parameters rule
        typedArrow rule true) <|>
      (do bump
          return Shape.name)
  | .mark "=>" =>
    bump
    arrowRest rule false
  | _ =>
    bump
    return Shape.name

/-! ### Classes, markup and angle brackets -/

def classRest (rule : Rules) (named : Bool) : Parser Unit := do
  keyword "class"
  let e ← context
  let l ← look
  if isIdentifier e ["extends", "implements"] l && !(["extends", "implements"].contains l.word) then
    noteBound l.word
    bump
  else guard !named
  optionalTypeParameters rule
  if ← optionalWord "extends" then
    run do
      let _ ← within (fun e => { e with lineEnds := false }) (rule .operand)
      if e.dialect.types then
        if ← atAngle then typeArguments rule
        whileTrue do
          if ← optionalMark "," then
            let _ ← rule .operand
            return true
          else return false
  if e.dialect.types then
    if ← optionalWord "implements" then
      many do
        let _ ← rule .type
        optionalMark ","
  let _ ← rule .classBody

/-- An expression that starts with an angle bracket, where types are allowed and markup is not: an
arrow function with type parameters, or an expression of an asserted type. -/
def angleExpression (rule : Rules) : Parser Shape :=
  (do typeParameters rule
      parameters rule
      typedArrow rule false) <|>
    (do openingAngle
        if ← atWord "const" then bump
        else
          let _ ← enclosed (rule .type)
        closingAngle
        let s ← rule .operand
        let place := s.place && (← context).dialect.strict
        return { target := place, place })

/-- An arrow function with type parameters, where markup is allowed. -/
def genericArrow (rule : Rules) : Parser Shape := do
  typeParameters rule
  parameters rule
  typedArrow rule false

/-! ### Operands -/

def newExpression (rule : Rules) : Parser Shape := do
  let e ← context
  let next ← lookAfter
  let starts :=
    match next.kind with
    | .word w => !(["in", "instanceof", "of", "as", "satisfies"].contains w)
    | .string | .number => true
    | .mark "(" | .mark "[" | .mark "\x7b" | .mark "." | .mark "`" | .mark "/" => true
    | .mark "<" | .mark "@" => true
    | _ => false
  if !e.dialect.strict && e.dialect.types &&
      (!starts || (next.lineBreak && endsStatement e.dialect true next)) then
    bump
    return Shape.name
  else
    bump
    if ← optionalMark "." then
      keyword "target"
      return Shape.plain
    else
      let _ ← rule .operand
      return Shape.plain

/-- The words that an expression may start with and that are no names. -/
def expressionWords (types : Bool) : List String :=
  ["function", "class", "this", "super", "true", "false", "null", "import", "typeof", "void",
    "delete", "await", "yield"] ++
  if types then ["undefined"] else ["undefined", "new"]

/-- The identifier that is supposed where an operand is missing, unless what comes next would make
a target or a parameter of it. -/
def supposedOperand (l : Lexeme) : List LexemeKind :=
  match l.kind with
  | .mark m => if m == "=" || m == "=>" || m == ":" then [] else [.word ""]
  | _ => [.word ""]

/-- An operand without what may follow it. -/
def primary (rule : Rules) : Parser Shape := do
  skipMarkupComments
  let e ← context
  let l ← look
  let next ← lookAfter
  let free := l.reading == .identifier
  match l.kind with
  | .number | .string =>
    bump
    return Shape.plain
  | .secret =>
    guard (next.kind == .word "in")
    bump
    return Shape.plain
  | .mark "(" => group rule
  | .mark "[" => array rule
  | .mark "\x7b" => object rule
  | .mark "`" =>
    template (value rule .expression)
    return Shape.plain
  | .mark "/" | .mark "/=" =>
    scanned scanRegex
    return Shape.plain
  | .mark "@" =>
    decorators rule
    classRest rule false
    return Shape.plain
  | .mark "<" | .mark "<<" =>
    if e.dialect.markup then
      if e.dialect.types then genericArrow rule <|> wholeElement
      else wholeElement
    else
      guard e.dialect.types
      angleExpression rule
  | .word "function" =>
    if free then
      bump
      return Shape.name
    function rule false false
    return Shape.plain
  | .word "class" =>
    if free then
      bump
      return Shape.name
    classRest rule false
    return Shape.plain
  | .word "async" => if free then do bump; return Shape.name else asyncForms rule
  | .word "new" => if free then do bump; return Shape.name else newExpression rule
  | .word "import" =>
    if free then
      bump
      return Shape.name
    bump
    if ← optionalMark "." then
      if e.dialect.strict && ((← atWord "source") || (← atWord "defer")) then
        bump
        arguments rule
      else keyword "meta"
    else
      if e.dialect.types then
        if ← atAngle then typeArguments rule
      arguments rule
    return Shape.plain
  | .word w =>
    if w == "undefined" && !free then
      bump
      return { Shape.name with parameter := e.dialect.strict }
    else if ["this", "super", "true", "false", "null"].contains w && !free then
      bump
      return Shape.plain
    else if isIdentifier e (expressionWords e.dialect.types) l ||
        (l.reading == .keyword && (nameLikeKeywords e.dialect.types).contains w) then
      bump
      if ← atMark "=>" then arrowRest rule false
      else return Shape.name
    else refuse (supposedOperand l)
  | _ => refuse (supposedOperand l)
where
  /-- A markup element with its last bracket, which its rule leaves to be read. -/
  wholeElement : Parser Shape := do
    let s ← rule .element
    let l ← look
    if l.start.peek? == some '>' then jump l.start.next else refuse [.mark ">"]
    return s

/-- Whether type arguments may end before a lexeme. -/
def endsTypeArguments (l : Lexeme) : Bool :=
  match l.kind with
  | .mark m =>
    ["(", "`", ")", "]", "\x7d", ":", ";", ",", ".", "?.", "?", "==", "===", "!=", "!==", "&&",
      "||", "??", "^", "&", "|", "=", "=>"].contains m
  | .endOfText => true
  | .word w => l.lineBreak || ["in", "instanceof", "as", "satisfies", "of"].contains w
  | _ => l.lineBreak

/-- One thing that may follow an operand; gives the shape with it. -/
def suffix (rule : Rules) (shape : Shape) : Parser (Option Shape) := do
  let e ← context
  let l ← look
  let place (chained : Bool) : Shape :=
    let absent := e.dialect.strict && chained
    { target := !absent, parameter := !e.dialect.strict, place := !absent, chained }
  match l.kind with
  | .mark "." | .mark "?." =>
    let chained := l.kind == .mark "?."
    bump
    match (← look).kind with
    | .word _ | .secret =>
      bump
      let member := place (chained || shape.chained)
      return some (if chained then { member with parameter := false } else member)
    | .mark "(" =>
      guard chained
      arguments rule
      return some { chained := true }
    | .mark "[" =>
      guard chained
      bump
      value (fun r => enclosed (rule r)) .expression
      closing "]"
      return some (place true)
    | .mark "`" =>
      guard chained
      template (value rule .expression)
      return some Shape.plain
    | .mark "<" =>
      guard (chained && e.dialect.types)
      typeArguments rule
      arguments rule
      return some { chained := true }
    | _ => refuse [.word ""]
  | .mark "[" =>
    bump
    enclosed (value rule .expression)
    closing "]"
    return some (place shape.chained)
  | .mark "(" =>
    arguments rule
    return some { chained := shape.chained }
  | .mark "`" =>
    require !shape.chained
    template (value rule .expression)
    return some Shape.plain
  | .mark "!" =>
    if e.dialect.types && !(← lineEndsHere) then
      bump
      return some { shape with value := true, parameter := false }
    else return none
  | .mark "++" | .mark "--" =>
    if ← lineEndsHere then return none
    else
      require shape.place
      bump
      return some Shape.plain
  | .mark "<" | .mark "<<" =>
    if e.dialect.types then
      (do typeArguments rule
          guard (endsTypeArguments (← look))
          return some { Shape.plain with }) <|> Pure.pure none
    else return none
  | _ => return none

def suffixes (rule : Rules) : Nat → Shape → Parser Shape
  | 0, _ => refuse
  | fuel + 1, shape => do
    match ← suffix rule shape with
    | some shape => suffixes rule fuel shape
    | none => return shape

def startsExpression (e : Context) (l : Lexeme) : Bool :=
  match l.kind with
  | .word w => !(["in", "instanceof", "of"].contains w)
  | .string | .number | .secret => true
  | .mark m =>
    ["(", "[", "\x7b", "`", "/", "/=", "!", "~", "+", "-", "++", "--", "@"].contains m ||
      (m == "<" && (e.dialect.types || e.dialect.markup))
  | _ => false

/-- An expression without binary operators. -/
def operand (rule : Rules) : Parser Shape := symbol do
  skipMarkupComments
  let e ← context
  let l ← look
  let next ← lookAfter
  let prefixed (step : Bool) : Parser Shape := do
    bump
    let s ← rule .operand
    guard s.value
    let power ← atMark "**"
    require (if step then s.place else !power)
    return Shape.plain
  match l.kind with
  | .mark "!" | .mark "~" | .mark "+" | .mark "-" => prefixed false
  | .mark "++" | .mark "--" => prefixed true
  | .word "typeof" | .word "void" | .word "delete" =>
    if l.reading == .identifier then
      bump
      return Shape.name
    else prefixed false
  | .word "await" =>
    if e.dialect.strict && !e.inAsync then
      bump
      suffixes rule e.fuel Shape.name
    else prefixed false
  | .word "yield" =>
    if e.dialect.strict && !e.inGenerator then suffixes rule e.fuel (← primary rule)
    else
      bump
      if ← optionalMark "*" then
        value rule .assignment
      else if startsExpression e next && !(next.lineBreak && endsStatement e.dialect true next) &&
          !(e.dialect.strict && next.lineBreak) then
        value rule .assignment
      return Shape.plain
  | _ =>
    let s ← primary rule
    if s.arrow && (e.dialect.strict || !(← atSuffix)) then return s
    else suffixes rule e.fuel s
where
  /-- Whether something follows that may follow the body of an arrow function. -/
  atSuffix : Parser Bool := do
    return (← atMark "(") || (← atMark "[") || (← atMark ".")

/-! ### Operators -/

def binaryMarks : List String :=
  ["&&", "||", "??", ">>", ">>>", "<<", "&", "^", "|", "+", "-", "*", "/", "%", "**", "<", "<=",
    "==", "===", "!=", "!==", ">=", ">"]

def assignmentMarks : List String :=
  ["=", "+=", "-=", "*=", "/=", "%=", "**=", "<<=", ">>=", ">>>=", "&=", "|=", "^=", "&&=", "||=",
    "??="]

def rightOperand (rule : Rules) : Parser (Option Shape) := do
  bump
  let s ← rule .operand
  guard s.value
  return some Shape.plain

/-- One binary operator with its right operand, if one comes next; gives the shape of the whole. -/
def binaryStep (rule : Rules) (shape : Shape) : Parser (Option Shape) := do
  let e ← context
  let l ← look
  match l.kind with
  | .mark m =>
    if binaryMarks.contains m && (e.dialect.strict || !(← lineEndsHere)) then rightOperand rule
    else return none
  | .word "in" => if e.noIn then return none else rightOperand rule
  | .word "instanceof" => rightOperand rule
  | .word w =>
    if e.dialect.types && (w == "as" || w == "satisfies") && l.reading != .identifier &&
        !(← lineEndsHere) then
      bump
      if (w == "as") && (← atWord "const") then bump
      else
        let _ ← within (fun e => { e with noIn := false }) (rule .type)
      let place := shape.place && e.dialect.strict
      return some { target := place, place }
    else return none
  | _ => return none

/-- Whether two operators may not stand beside each other without parentheses. -/
def clash (a b : String) : Bool :=
  (a == "??" && (b == "||" || b == "&&")) || (b == "??" && (a == "||" || a == "&&"))

/-- Reads binary operators with their right operands; gives the shape of the whole. The marks read
so far are given. -/
def binaries (rule : Rules) : Nat → List String → Shape → Parser Shape
  | 0, _, _ => refuse
  | fuel + 1, read, shape => do
    let next := (← look).kind
    match ← binaryStep rule shape with
    | none => return shape
    | some shape =>
      match next with
      | .mark m =>
        require !(read.any (clash m))
        binaries rule fuel (m :: read) shape
      | _ => binaries rule fuel read shape

/-- Whether a question mark belongs to a parameter, by the lexeme after it. -/
def marksParameter (types : Bool) (next : Lexeme) : Bool :=
  types &&
    match next.kind with
    | .mark ":" | .mark "," | .mark ")" | .mark "=" => true
    | _ => false

def alternatives (rule : Rules) : Parser Unit := do
  mark "?"
  (do within (fun e => { e with lineEnds := false, noIn := false, noResultType := false }) <|
        value rule .assignment
      mark ":") <|>
    (do within (fun e => { e with lineEnds := false, noIn := false, noResultType := true }) <|
          value rule .assignment
        mark ":")
  value rule .assignment

/-- One expression, without commas outside of brackets. -/
def assignment (rule : Rules) : Parser Shape := symbol do
  let e ← context
  let first ← operand rule
  if first.arrow && e.dialect.strict then return first
  let shape ← binaries rule e.fuel [] first
  if (← atMark "?") && !marksParameter e.dialect.types (← lookAfter) then
    guard shape.value
    alternatives rule
    return Shape.plain
  let l ← look
  match l.kind with
  | .mark m =>
    if assignmentMarks.contains m && shape.target && (m == "=" || shape.place) then
      bump
      value rule .assignment
      return { value := true, target := false, parameter := shape.parameter && m == "=" }
    else return shape
  | _ => return shape

def expression (rule : Rules) : Parser Shape := symbol do
  let s ← rule .assignment
  if ← atMark "," then
    guard s.value
    whileTrue do
      if ← optionalMark "," then
        value rule .assignment
        return true
      else return false
    return Shape.plain
  else return s

end PackageUsage.Source.Grammar
