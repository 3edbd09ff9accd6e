import PackageUsage.Source.Grammar.Basic

/-!
# Types, patterns and parameters
-/

namespace PackageUsage.Source.Grammar

open PackageUsage.Source.Parser

def atClosingAngle : Parser Bool := do
  match (← look).kind with
  | .mark m => return m.startsWith ">"
  | _ => return false

def angleList (item : Parser Unit) : Parser Unit := symbol do
  openingAngle
  enclosed <| many do
    symbol item
    if ← optionalMark "," then return !(← atClosingAngle)
    return false
  closingAngle

def typeArguments (rule : Rules) : Parser Unit :=
  angleList do let _ ← rule .type

def typeParameters (rule : Rules) : Parser Unit :=
  angleList do
    let e ← context
    if ← atWord "const" then bump
    if e.dialect.strict then
      whileTrue do
        let l ← look
        let next ← lookAfter
        match l.kind, next.kind with
        | .word w, .word _ =>
          if (w == "in" || w == "out") && next.word != "extends" then
            bump
            return true
          else return false
        | _, _ => return false
    anyWord
    if ← optionalWord "extends" then let _ ← rule .type
    if ← optionalMark "=" then let _ ← rule .type

def optionalTypeParameters (rule : Rules) : Parser Unit := do
  if (← context).dialect.types then
    if ← atAngle then typeParameters rule

/-! ### Patterns -/

def memberName (rule : Rules) : Parser Unit := symbol do
  match (← look).kind with
  | .word _ | .string | .number | .secret => bump
  | .mark "[" => do
    bump
    let _ ← enclosed (rule .assignment)
    closing "]"
  | _ => refuse

def optionalDefault (rule : Rules) : Parser Unit := do
  if ← optionalMark "=" then
    let s ← rule .assignment
    guard s.value

/-- A target between braces. -/
def objectPattern (rule : Rules) : Parser Unit := symbol do
  mark "\x7b"
  enclosed <| commaList "\x7d" do
    if ← atMark "," then pure ()
    else if ← optionalMark "..." then
      let _ ← rule .pattern
    else
      let l ← look
      let next ← lookAfter
      let e ← context
      if isIdentifier e [] l && next.kind != .mark ":" then
        bump
        noteBound l.word
        optionalDefault rule
      else
        memberName rule
        mark ":"
        let _ ← rule .pattern
        optionalDefault rule
  closing "\x7d"

/-- A target between brackets. -/
def arrayPattern (rule : Rules) : Parser Unit := symbol do
  mark "["
  enclosed <| many do
    if ← atMark "]" then return false
    if ← optionalMark "," then return true
    (do let _ ← optionalMark "..."
        let _ ← rule .pattern
        optionalDefault rule) <|> refuse [.mark "]"]
    if ← optionalMark "," then return true
    if ← atMark "]" then return false
    refuse [.mark "]"]
  closing "]"

/-- The target of a declaration or a parameter. -/
def pattern (rule : Rules) : Parser Shape := symbol do
  if ← atMark "\x7b" then objectPattern rule
  else if ← atMark "[" then arrayPattern rule
  else
    let l ← look
    if isIdentifier (← context) [] l then
      noteBound l.word
      bump
    else refuse (supposedName [",", ";", ")", "]", "\x7d", ""] l)
  return Shape.name

/-! ### Parameters -/

/-- Reads decorators. The expression after each is a name with members and arguments. -/
def decorators (rule : Rules) : Parser Unit :=
  many do
    if ← optionalMark "@" then
      symbol do
        if ← atMark "(" then
          bump
          let _ ← enclosed (rule .expression)
          closing ")"
        else
          anyWord
          whileTrue do
            if ← optionalMark "." then
              match (← look).kind with
              | .word _ | .secret => bump
              | _ => refuse
              return true
            else return false
          if (← context).dialect.types then
            if ← atAngle then
              (typeArguments rule) <|> pure ()
          whileTrue do
            if ← atMark "(" then
              bump
              enclosed <| commaList ")" do
                let _ ← optionalMark "..."
                let _ ← rule .assignment
              closing ")"
              return true
            else if ← optionalMark "." then
              anyWord
              return true
            else return false
      return true
    else return false

def parameterModifiers : List String :=
  ["public", "private", "protected", "override", "readonly"]

def optionalAnnotation (rule : Rules) : Parser Unit := do
  if (← context).dialect.types then
    if ← optionalMark ":" then let _ ← rule .type

def parameter (rule : Rules) : Parser Unit := do
  decorators rule
  if (← context).dialect.types then
    whileTrue do
      let l ← look
      let next ← lookAfter
      let followed :=
        match next.kind with
        | .word _ | .mark "\x7b" | .mark "[" => true
        | _ => false
      if parameterModifiers.contains l.word && followed then
        bump
        return true
      else return false
  let rest ← optionalMark "..."
  if ← atWord "this" then bump else let _ ← rule .pattern
  if (← context).dialect.types then
    let _ ← optionalMark "?"
  optionalAnnotation rule
  optionalDefault rule
  if rest then require !(← atMark ",")

def parameters (rule : Rules) : Parser Unit := locally <| symbol do
  mark "("
  enclosed (commaList ")" (parameter rule))
  closing ")"

/-! ### Types -/

/-- The type of a result: a type, or what the function says about an argument. -/
def resultType (rule : Rules) : Parser Unit := symbol do
  let l ← look
  let next ← lookAfter
  match l.kind, next.kind with
  | .word "asserts", .word w =>
    if next.lineBreak || w == "is" then
      let _ ← rule .type
    else
      bump
      bump
      if ← optionalWord "is" then let _ ← rule .type
  | .word _, .word "is" =>
    if next.lineBreak then
      let _ ← rule .type
    else
      bump
      bump
      let _ ← rule .type
  | _, _ => let _ ← rule .type

def optionalResult (rule : Rules) : Parser Unit := do
  if (← context).dialect.types then
    if ← optionalMark ":" then resultType rule

def functionType (rule : Rules) : Parser Unit := symbol do
  optionalTypeParameters rule
  parameters rule
  mark "=>"
  resultType rule

/-- The arguments of a generic name, where there are some on the same line. -/
def optionalTypeArguments (rule : Rules) : Parser Unit := do
  if ← atAngle then
    if !(← look).lineBreak then typeArguments rule

def dottedName : Parser Unit := run do
  anyWord
  whileTrue do
    if ← optionalMark "." then
      match (← look).kind with
      | .word _ | .secret => bump
      | _ => refuse
      return true
    else return false

/-- Whether a member's name follows a word that may qualify it. -/
def qualifies (next : Lexeme) : Bool :=
  match next.kind with
  | .word _ | .string | .number | .secret => true
  | .mark "[" | .mark "\x7b" | .mark "*" => true
  | _ => false

/-- A name between brackets with its type: the members of a signature that share it. -/
def indexedMember (rule : Rules) : Parser Unit := do
  mark "["
  let next ← lookAfter
  match next.kind with
  | .mark ":" =>
    anyWord
    mark ":"
    let _ ← enclosed (rule .type)
  | .word "in" =>
    anyWord
    keyword "in"
    enclosed do
      let _ ← rule .type
      if ← optionalWord "as" then let _ ← rule .type
  | _ =>
    let _ ← enclosed (rule .assignment)
  closing "]"

def typeMember (rule : Rules) : Parser Unit := symbol do
  -- words and signs in front of the name
  whileTrue do
    let l ← look
    let next ← lookAfter
    match l.kind with
    | .mark "+" | .mark "-" =>
      bump
      return true
    | .word w =>
      if ["readonly", "get", "set", "static", "async", "public", "private", "protected", "override",
          "declare", "abstract", "export"].contains w && qualifies next && !next.lineBreak then
        bump
        return true
      else return false
    | _ => return false
  let l ← look
  let next ← lookAfter
  match l.kind with
  | .mark "(" | .mark "<" =>
    optionalTypeParameters rule
    parameters rule
    optionalResult rule
  | .mark "[" =>
    indexedMember rule
    let _ ← optionalMark "+"
    let _ ← optionalMark "-"
    let _ ← optionalMark "?"
    if ← atMark "(" then
      parameters rule
    optionalResult rule
  | .word "new" =>
    if next.kind == .mark "(" || next.kind == .mark "<" then
      bump
      optionalTypeParameters rule
      parameters rule
      optionalResult rule
    else
      bump
      let _ ← optionalMark "?"
      optionalResult rule
  | _ =>
    memberName rule
    let _ ← optionalMark "?"
    if (← atMark "(") || (← atAngle) then
      optionalTypeParameters rule
      parameters rule
    optionalResult rule

def objectType (rule : Rules) : Parser Unit := symbol do
  mark "\x7b"
  enclosed <| many do
    if ← atMark "\x7d" then return false
    if ← optionalMark ";" then return true
    if ← optionalMark "," then return true
    typeMember rule <|> refuse [.mark "\x7d"]
    if ← optionalMark "," then return true
    if ← atMark "\x7d" then return false
    semicolon false
    return true
  closing "\x7d"

def tupleElement (rule : Rules) : Parser Unit := do
  let _ ← optionalMark "..."
  (do anyWord
      let _ ← optionalMark "?"
      mark ":"
      let _ ← rule .type) <|>
    (do let _ ← rule .type
        let _ ← optionalMark "?")

def importedType (rule : Rules) : Parser Unit := do
  mark "("
  enclosed <| commaList ")" do let _ ← rule .type
  closing ")"
  whileTrue do
    if ← optionalMark "." then
      anyWord
      return true
    else return false
  optionalTypeArguments rule

/-- A type without operators. -/
def primaryType (rule : Rules) : Parser Unit := symbol do
  let l ← look
  let next ← lookAfter
  match l.kind with
  | .word "import" =>
    bump
    importedType rule
  | .word "typeof" =>
    bump
    if ← optionalWord "import" then importedType rule
    else
      dottedName
      optionalTypeArguments rule
  | .word _ =>
    if (← context).dialect.strict && reservedWords.contains l.word &&
        !(["void", "null", "true", "false", "this"].contains l.word) then refuse
    dottedName
    optionalTypeArguments rule
  | .string | .number => bump
  | .mark "-" => do
    guard (next.kind == .number)
    bump
    bump
  | .mark "`" => template do let _ ← rule .type
  | .mark "\x7b" => objectType rule
  | .mark "[" => do
    bump
    enclosed (commaList "]" (tupleElement rule))
    closing "]"
  | .mark "(" => do
    bump
    let _ ← enclosed (rule .type)
    closing ")"
  | _ => refuse

def typeSuffixes (rule : Rules) : Parser Unit :=
  whileTrue do
    let l ← look
    if l.kind == .mark "[" && !l.lineBreak then
      bump
      if ← optionalMark "]" then return true
      let _ ← enclosed (rule .type)
      closing "]"
      return true
    else return false

def typeOperators : List String :=
  ["keyof", "unique", "readonly"]

/-- A type with the operators in front of it; the fuel bounds their number. -/
def unaryType (rule : Rules) : Nat → Parser Unit
  | 0 => refuse
  | fuel + 1 => symbol do
    let l ← look
    let next ← lookAfter
    let operand :=
      match next.kind with
      | .word _ | .string | .number | .mark "\x7b" | .mark "[" | .mark "(" | .mark "`" => true
      | _ => false
    match l.kind with
    | .word "infer" =>
      bump
      anyWord
      (do keyword "extends"
          unaryType rule fuel
          guard ((← context).noCondition || !(← atMark "?"))) <|> pure ()
    | .word "new" =>
      bump
      functionType rule
    | .word "abstract" =>
      if next.kind == .word "new" then
        bump
        bump
        functionType rule
      else
        primaryType rule
        typeSuffixes rule
    | .mark "<" => functionType rule
    | .mark "(" =>
      functionType rule <|> (do
        primaryType rule
        typeSuffixes rule)
    | .word w =>
      if typeOperators.contains w && operand then
        bump
        unaryType rule fuel
      else
        primaryType rule
        typeSuffixes rule
    | _ =>
      primaryType rule
      typeSuffixes rule

def type (rule : Rules) : Parser Shape := symbol do
  let e ← context
  if ← atMark "|" then bump
  else if ← atMark "&" then bump
  unaryType rule e.fuel
  whileTrue do
    if (← atMark "|") || (← atMark "&") then
      bump
      unaryType rule e.fuel
      return true
    else return false
  if !e.noCondition && (← atWord "extends") && (!(← look).lineBreak || !e.lineEnds) then
    (do bump
        within (fun e => { e with noCondition := true }) do let _ ← rule .type
        mark "?"
        enclosed do
          let _ ← rule .type
        mark ":"
        let _ ← rule .type) <|> pure ()
  return Shape.plain

def typeAliasRest (rule : Rules) : Parser Unit := do
  let l ← look
  if isIdentifier (← context) [] l then bump else refuse
  optionalTypeParameters rule
  mark "="
  let _ ← rule .type
  semicolon false

end PackageUsage.Source.Grammar
