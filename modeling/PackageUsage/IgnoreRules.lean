import PackageUsage.FileTree
import PackageUsage.Glob

/-!
# Ignore rules

The lines of ignore files: globs relative to the directory of the file, of which the last that
matches decides. A line may take back what earlier lines ignore, or hold for directories only.
-/

namespace PackageUsage

/-- One line of an ignore file. -/
structure IgnoreRule where
  glob : Glob
  /-- The rule takes back what others ignore. -/
  keeps : Bool := false
  onlyDirectories : Bool := false
deriving Inhabited

/-- What rules say of an entry. -/
inductive IgnoreVerdict
  | ignored
  | kept
deriving DecidableEq, Repr

namespace IgnoreRule

/-- Blanks at the end of a line do not count, unless the last is escaped. -/
def trimLine (line : List Char) : List Char :=
  if (line.reverse.take 2) == [' ', '\\'] then line else Text.trimRight line

/-- The text of the glob of a rule. A glob without a separator matches at any depth, and one that
ends with a double star matches what lies below a directory but not the directory itself. -/
def globText (anchored : Bool) (line : List Char) : List Char :=
  let deep :=
    if anchored || line.contains '/' || line == ['*', '*'] then line else ['*', '*', '/'] ++ line
  if ['/', '*', '*'].isSuffixOf deep then deep ++ ['/', '*'] else deep

/-- A line without a separator at its end, and whether it had one; a backslash before that separator
goes with it. -/
def dropFinalSeparator (line : List Char) : List Char × Bool :=
  if line.getLast? == some '/' then
    let body := line.dropLast
    (if body.getLast? == some '\\' then body.dropLast else body, true)
  else (line, false)

/-- The rule that a line spells; comments and blank lines spell none. -/
def ofLine (openBrackets : Bool) (line : String) : Except Glob.Fault (Option IgnoreRule) := do
  if line.startsWith "#" then return none
  else
    let chars := trimLine line.toList
    if chars.isEmpty then return none
    else
      let (keeps, anchored, body) := match chars with
        | '\\' :: '!' :: rest => (false, false, '!' :: rest)
        | '\\' :: '#' :: rest => (false, false, '#' :: rest)
        | '!' :: '/' :: rest => (true, true, rest)
        | '!' :: rest => (true, false, rest)
        | '/' :: rest => (false, true, rest)
        | _ => (false, false, chars)
      let (body, onlyDirectories) := dropFinalSeparator body
      let glob ← Glob.ofText openBrackets (String.ofList (globText anchored body))
      return some { glob, keeps, onlyDirectories }

end IgnoreRule

structure IgnoreRules where
  rules : List IgnoreRule := []
deriving Inhabited

namespace IgnoreRules

/-- What rules say of an entry at a path relative to them: the last rule that matches decides. -/
def verdict? (r : IgnoreRules) (path : String) (isDirectory : Bool) : Option IgnoreVerdict :=
  (r.rules.reverse.find? fun rule =>
    (!rule.onlyDirectories || isDirectory) && rule.glob.accepts path).map fun rule =>
      if rule.keeps then .kept else .ignored

/-- The lines of a file up to the first that is no text: each is ended by a line feed, and a
carriage return before it goes with it. -/
def linesOf (contents : ByteArray) : List String :=
  let pieces := Text.splitOn 10 contents.toList
  let pieces := if pieces.getLast? == some [] then pieces.dropLast else pieces
  let texts := pieces.map fun piece =>
    let ended := if piece.getLast? == some 13 then piece.dropLast else piece
    String.fromUTF8? ⟨ended.toArray⟩
  (texts.takeWhile Option.isSome).filterMap id

/-- The rules of a file. A byte order mark before the first line is dropped, and a line that spells
no glob is passed over. -/
def ofContents (contents : ByteArray) : IgnoreRules :=
  let lines := match linesOf contents with
    | [] => []
    | first :: rest => String.ofList (first.toList.dropWhile (· == '\uFEFF')) :: rest
  { rules := lines.filterMap fun line =>
      match IgnoreRule.ofLine true line with
      | .ok rule => rule
      | .error _ => none }

def ofFile (t : FileTree) (path : String) : IgnoreRules :=
  match t.readBytes path with
  | .ok contents => ofContents contents
  | .error _ => {}

end IgnoreRules

end PackageUsage
