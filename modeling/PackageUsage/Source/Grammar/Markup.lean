import PackageUsage.Source.Grammar.Expressions

/-!
# Markup

Elements inside expressions. The names of a closing tag are compared with those of its opening tag
in the strict dialects only.
-/

namespace PackageUsage.Source.Grammar

open PackageUsage.Source.Parser

/-- The end of one part of a tag's or an attribute's name. -/
def scanMarkupName (d : Dialect) (c : Cursor) : Option Cursor :=
  (scanWord? d c).map fun stop => stop.skipWhile fun ch => d.continuesWord ch || ch == '-'

/-- Where the text read last ends. -/
def previousEnd : Parser Cursor :=
  fun _ s => .done s.previous s

/-- The name of a tag, as written without blanks; empty for a fragment. -/
def tagName : Parser String := run do
  let d := (← context).dialect
  let l ← look
  if (scanMarkupName d l.start).isNone then return ""
  else
    scanned (scanMarkupName d)
    let first := l.start.textTo (← previousEnd)
    let mut name := first
    if ← optionalMark ":" then
      let part ← look
      scanned (scanMarkupName d)
      return name ++ ":" ++ part.start.textTo (← previousEnd)
    else
      name ← dotted (← context).fuel name
      return name
where
  /-- The parts after points. -/
  dotted : Nat → String → Parser String
    | 0, _ => refuse
    | fuel + 1, name => do
      if ← optionalMark "." then
        let d := (← context).dialect
        let part ← look
        scanned (scanMarkupName d)
        dotted fuel (name ++ "." ++ part.start.textTo (← previousEnd))
      else return name

/-- The expression between two braces, which may be left out where it is optional. The closing
brace is not read. -/
def markupExpression (rule : Rules) (optional : Bool) : Parser Unit := do
  mark "\x7b"
  enclosed do
    if optional && (← atMark "\x7d") then pure ()
    else
      let _ ← optionalMark "..."
      value rule .expression

def lastAngle : Parser Unit := do
  let l ← look
  if l.start.peek? == some '>' then jump l.start.next else refuse [.mark ">"]

def attributes (rule : Rules) : Parser Unit :=
  many do
    let d := (← context).dialect
    let l ← look
    if l.kind == .mark "\x7b" then
      symbol do
        require ((← lookAfter).kind == .mark "...")
        markupExpression rule true
        closing "\x7d"
      return true
    else if (scanMarkupName d l.start).isSome then
      symbol do
        scanned (scanMarkupName d)
        if ← optionalMark ":" then scanned (scanMarkupName d)
        if ← atMark "=" then
          bump
          let v ← look
          match v.start.peek? with
          | some '"' | some '\'' => scanned scanMarkupString
          | some '{' => do
            markupExpression rule !d.strict
            closing "\x7d"
          | _ =>
            let _ ← rule .element
            lastAngle
      return true
    else return false

/-- Goes on after one character, with markup text. -/
def afterText : Parser Unit := do
  let e ← context
  let l ← look
  jump (scanMarkupText e.dialect e.fuel l.start.next)

/-- The children of an element, up to the opening bracket of its closing tag. -/
def children (rule : Rules) : Parser Unit :=
  many do
    let l ← look
    if l.kind == .mark "\x7b" then
      symbol do
        markupExpression rule true
        if ← atMark "\x7d" then afterText else refuse [.mark "\x7d"]
      return true
    else if l.start.startsWith "</" then return false
    else if l.start.startsWith "<" then
      let _ ← rule .element
      if (← look).start.peek? == some '>' then afterText else refuse [.mark ">"]
      return true
    else refuse

/-- An element without its last bracket. -/
def element (rule : Rules) : Parser Shape := symbol do
  let e ← context
  openingAngle
  let name ← tagName
  if e.dialect.types then
    if ← atAngle then typeArguments rule
  attributes rule
  if ← atMark "/" then
    guard (name != "")
    bump
    if (← look).start.peek? == some '>' then return Shape.plain else refuse [.mark ">"]
  else if (← look).start.peek? == some '>' then
    afterText
    children rule
    -- the closing tag, up to its last bracket
    jump (← look).start.next
    mark "/"
    let last ← tagName
    require (last == name)
    if (← look).start.peek? == some '>' then return Shape.plain else refuse [.mark ">"]
  else refuse [.mark ">"]

end PackageUsage.Source.Grammar
