import PackageUsage.Source.Grammar.Markup
import PackageUsage.Source.Grammar.Statements

/-!
# The grammar

All rules together. A rule is called with a fuel that bounds the depth of the calls; the depth of
a text is bounded by its length.
-/

namespace PackageUsage.Source.Grammar

open PackageUsage.Source.Parser

/-- One rule, given all rules. Only statements and targets bind names outside of themselves. -/
def step (rule : Rules) : Rules
  | .statement => statement rule
  | .pattern => pattern rule
  | .expression => locally (expression rule)
  | .assignment => locally (assignment rule)
  | .operand => locally (operand rule)
  | .type => locally (type rule)
  | .block => locally (block rule)
  | .classBody => locally (classBody rule)
  | .element => locally (element rule)

/-- The rules, with calls up to the given depth. -/
def rules : Nat → Rules
  | 0 => fun _ => refuse
  | depth + 1 => step (rules depth)

/-- A whole text: a first line for the system if there is one, then statements. -/
def program (depth : Nat) : Parser Unit := do
  let l ← look
  if l.start.offset == 0 && l.start.startsWith "#!" then
    jump (l.start.skipWhile fun c => !isLineEnd c)
  statements (rules depth) []
  if (← look).kind == .endOfText then pure () else refuse

/-- How a text reads under a list of repairs. -/
def read (d : Dialect) (text : Cursor) (repairs : List Repair) : Step Unit :=
  let size := text.rest.length
  let (l, repairs, out) := lexemeWith d repairs text []
  let reach : Reach :=
    { lexeme := { l with start := text, stop := text }, previous := text, marks := [], wanted := [] }
  program (16 * size + 64) { dialect := d, fuel := size + 2 }
    { lexeme := l, previous := text, out, marks := [], reach, repairs }

end PackageUsage.Source.Grammar
