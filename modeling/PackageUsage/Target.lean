import PackageUsage.Pattern.Meaning
import PackageUsage.Pattern.Reader
import PackageUsage.Regex.Size
import PackageUsage.Text.Blank

/-!
# Targets of a scan

Which module specifiers refer to the package that a scan looks for. A target is either the start of
a specifier or a pattern that occurs in it; quotes around the specifier do not count.
-/

namespace PackageUsage

/-- How a target is compared with specifiers. -/
inductive TargetMode
  | start
  | pattern
deriving DecidableEq, Repr, Inhabited

def TargetMode.name : TargetMode → String
  | .start => "prefix"
  | .pattern => "pattern"

def TargetMode.ofName? : String → Option TargetMode
  | "prefix" => some .start
  | "pattern" => some .pattern
  | _ => none

/-- What a scan is asked to look for. -/
structure Target where
  text : String
  mode : TargetMode := .start
deriving DecidableEq, Repr, Inhabited

inductive PatternError
  | faulty (pattern : String) (fault : Pattern.Fault)
  | tooBig (pattern : String)

def PatternError.pattern : PatternError → String
  | .faulty pattern _ | .tooBig pattern => pattern

/-- What is wrong with a pattern, in words. -/
def PatternError.reason : PatternError → String
  | .faulty pattern fault => fault.report pattern
  | .tooBig _ => "Compiled regex exceeds size limit of " ++ toString Regex.sizeLimit ++ " bytes."

def PatternError.message (e : PatternError) : String :=
  "invalid target pattern `" ++ e.pattern ++ "`: " ++ e.reason

/-- The regular expression that a pattern spells, if it is well-formed and not too big. -/
def Regex.ofPattern (pattern : String) : Except PatternError Regex :=
  match Pattern.read pattern with
  | .error fault => .error (.faulty pattern fault)
  | .ok expr =>
    match expr.meaning {} with
    | .error fault => .error (.faulty pattern fault)
    | .ok (regex, _) => if regex.fits then .ok regex else .error (.tooBig pattern)

/-- A target that is ready for use. -/
inductive Matcher
  | start (chars : List Char)
  | pattern (regex : Regex)
deriving Inhabited

namespace Matcher

/-- Makes a target ready for use; only a pattern can fail. -/
def ofTarget (t : Target) : Except PatternError Matcher :=
  match t.mode with
  | .start => .ok (.start t.text.toList)
  | .pattern =>
    match Regex.ofPattern t.text with
    | .ok regex => .ok (.pattern regex)
    | .error e => .error e

/-- The two characters that may quote a specifier. -/
def isQuote (c : Char) : Bool :=
  c == '\'' || c == '"'

/-- A text without one quote at its start, if there is one. -/
def dropOpeningQuote : List Char → List Char
  | [] => []
  | c :: cs => if isQuote c then cs else c :: cs

/-- A text without one quote at each end, where there is one. -/
def dropQuotes (cs : List Char) : List Char :=
  (dropOpeningQuote (dropOpeningQuote cs).reverse).reverse

/-- Whether a specifier refers to the target. -/
def accepts (m : Matcher) (specifier : String) : Bool :=
  let bare := dropQuotes specifier.toList
  match m with
  | .start chars => chars.isPrefixOf bare
  | .pattern regex => regex.matchesIn (String.ofList bare)

end Matcher

end PackageUsage
