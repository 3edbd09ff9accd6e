import PackageUsage.Source.Grammar.Expressions

/-!
# Members of classes
-/

namespace PackageUsage.Source.Grammar

open PackageUsage.Source.Parser

/-- The words that qualify a member of a class. -/
def memberModifiers (d : Dialect) : List String :=
  ["static", "async", "get", "set"] ++
  (if d.types then
    ["public", "private", "protected", "readonly", "override", "abstract", "declare", "accessor"]
  else []) ++
  if d.strict then ["accessor"] else []

/-- The words in front of a member's name; gives those read. -/
def modifiers : Nat → List String → Parser (List String)
  | 0, _ => refuse
  | fuel + 1, read => do
    let d := (← context).dialect
    let l ← look
    let next ← lookAfter
    if isQualifier (memberModifiers d) l next && !(next.kind == .mark "*" && l.word != "async" &&
        l.word != "static") then
      bump
      modifiers fuel (l.word :: read)
    else return read

/-- What follows the name of a method: its parameters and its body, which may be left out where
types are allowed. -/
def methodTail (rule : Rules) (async generator : Bool) : Parser Unit := do
  let e ← context
  optionalTypeParameters rule
  functionParameters rule async generator
  optionalResult rule
  if ← atMark "\x7b" then
    functionBody rule async generator
    let _ ← optionalMark ";"
  else
    guard e.dialect.types
    if !(← optionalMark ",") then semicolon false

def fieldTail (rule : Rules) : Parser Unit := do
  optionalAnnotation rule
  let d := (← context).dialect
  if ← optionalMark "=" then
    within (fun e => { e with lineEnds := true, inFunction := true, inAsync := false }) <|
      value rule .assignment
    if d.types && (← optionalMark ",") then pure () else semicolon true
  else if d.types && (← optionalMark ",") then pure ()
  else semicolon false

def classMember (rule : Rules) : Parser Unit := symbol do
  let e ← context
  decorators rule
  let l ← look
  let next ← lookAfter
  if l.kind == .word "static" && next.kind == .mark "\x7b" then
    bump
    within (fun e => { e with lineEnds := true, inFunction := false, inAsync := false }) do
      let _ ← rule .block
  else
    let read ← modifiers e.fuel []
    let async := read.contains "async"
    let generator ← optionalMark "*"
    let l ← look
    let next ← lookAfter
    let indexed ← if e.dialect.types && l.kind == .mark "[" then
        test (do bump; anyWord; mark ":")
      else pure false
    if indexed then
      bump
      anyWord
      mark ":"
      let _ ← enclosed (rule .type)
      closing "]"
      optionalAnnotation rule
      if !(← optionalMark ",") then semicolon false
    else
      let _ := next
      memberName rule
      if e.dialect.types then
        if !(← optionalMark "?") then let _ ← optionalMark "!"
      if (← atMark "(") || (e.dialect.types && (← atAngle)) then methodTail rule async generator
      else
        guard !generator
        fieldTail rule

def classBody (rule : Rules) : Parser Shape := symbol do
  mark "\x7b"
  within (fun e => { e with lineEnds := true, noIn := false, noResultType := false }) <|
    many do
      if ← atMark "\x7d" then return false
      if ← optionalMark ";" then return true
      classMember rule <|> refuse [.mark "\x7d"]
      return true
  closing "\x7d"
  return Shape.plain

end PackageUsage.Source.Grammar
