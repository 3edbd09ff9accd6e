import PackageUsage.CommandLine.Help

/-!
# Reading a command line

The words of a command line are read from left to right. An argument that takes a value as the next
word waits for it and is settled only when something else has to be settled, so a word that cannot
be understood is reported before a fault in the value that waits. What excludes each other is
checked at the end.
-/

namespace PackageUsage

/-- What a command line asks for. -/
structure Invocation where
  patterns : List String := []
  searchPath : String := "."
  targetPackage : Option String := none
  regex : Bool := false
  excludePaths : List String := []
  format : Option ReportFormat := none
  json : Bool := false
  detailed : Bool := false
  config : Option String := none
  noIgnoreFiles : Bool := false
  /-- How often more events were asked for, at most 255. -/
  verbosity : Nat := 0
deriving DecidableEq, Repr, Inhabited

def Invocation.reportFormat (i : Invocation) : ReportFormat :=
  if i.json then .json else if i.detailed then .detailed else i.format.getD .simple

namespace CommandLine

inductive UsageError
  | unknownArgument (word : String)
  | valueMissing (a : Argument)
  | invalidValue (a : Argument) (value : String)
  | unexpectedValue (a : Argument) (value : String)
  | repeated (a : Argument)
  | conflict (a : Argument) (others : List Argument)
deriving DecidableEq, Repr

/-- The first line of what is said about a usage error. Further lines, which are left out here, list
what was or may be given and show how the program is used. -/
def UsageError.message : UsageError → String
  | .unknownArgument word => "error: unexpected argument '" ++ word ++ "' found"
  | .valueMissing a => "error: a value is required for '" ++ a.spelling ++ "' but none was supplied"
  | .invalidValue a value => "error: invalid value '" ++ value ++ "' for '" ++ a.spelling ++ "'"
  | .unexpectedValue a value =>
    "error: unexpected value '" ++ value ++ "' for '" ++ a.spelling
      ++ "' found; no more were expected"
  | .repeated a => "error: the argument '" ++ a.spelling ++ "' cannot be used multiple times"
  | .conflict a [other] =>
    "error: the argument '" ++ a.spelling ++ "' cannot be used with '" ++ other.spelling ++ "'"
  | .conflict a _ => "error: the argument '" ++ a.spelling ++ "' cannot be used with:"

/-- What ends the reading of a command line early. -/
inductive Stop
  | help (style : HelpStyle)
  | version
  | usage (e : UsageError)
deriving DecidableEq, Repr

def verbosityLimit : Nat := 255

/-- How far a command line has been read. -/
structure Reading where
  invocation : Invocation := {}
  given : List Argument := []
  /-- An argument that takes a value as the next word, with that word once it is read. -/
  waiting : Option (Argument × Option String) := none
deriving Repr, Inhabited

namespace Reading

/-- Notes that an argument is given; most may be given only once. -/
def note (r : Reading) (a : Argument) : Except Stop Reading :=
  if r.given.contains a && !a.isRepeatable then .error (.usage (.repeated a))
  else .ok { r with given := r.given ++ [a] }

/-- Takes the value of an argument. -/
def assign (r : Reading) (a : Argument) (value : String) : Except Stop Reading := do
  let r ← r.note a
  let i := r.invocation
  match a with
  | .searchPath =>
    if value.isEmpty then throw (.usage (.valueMissing a))
    return { r with invocation := { i with searchPath := value } }
  | .targetPackage => return { r with invocation := { i with targetPackage := some value } }
  | .excludePaths =>
    let paths := (Text.splitOn ',' value.toList).map String.ofList
    return { r with invocation := { i with excludePaths := i.excludePaths ++ paths } }
  | .format =>
    match ReportFormat.ofName? value with
    | some format => return { r with invocation := { i with format := some format } }
    | none =>
      throw (.usage (if value.isEmpty then .valueMissing a else .invalidValue a value))
  | .config =>
    if value.isEmpty then throw (.usage (.valueMissing a))
    return { r with invocation := { i with config := some value } }
  | _ => return r

def settle (r : Reading) : Except Stop Reading :=
  match r.waiting with
  | none => .ok r
  | some (a, none) => .error (.usage (.valueMissing a))
  | some (a, some value) => { r with waiting := none }.assign a value

/-- Takes an argument without a value. -/
def raise (r : Reading) (style : HelpStyle) (a : Argument) : Except Stop Reading := do
  let r ← r.settle
  if a == .help then throw (.help style)
  if a == .version then throw .version
  let r ← r.note a
  let i := r.invocation
  match a with
  | .regex => return { r with invocation := { i with regex := true } }
  | .json => return { r with invocation := { i with json := true } }
  | .detailed => return { r with invocation := { i with detailed := true } }
  | .noIgnoreFiles => return { r with invocation := { i with noIgnoreFiles := true } }
  | .verbose =>
    return { r with invocation := { i with verbosity := min (i.verbosity + 1) verbosityLimit } }
  | _ => return r

/-- Takes a word of two hyphens and a name, which a value may follow after an equals sign. -/
def takeNamed (r : Reading) (name : String) (value : Option String) : Except Stop Reading := do
  match Argument.ofName? name with
  | none => throw (.usage (.unknownArgument ("--" ++ name)))
  | some a =>
    match a.takesValue, value with
    | true, some value => (← r.settle).assign a value
    | true, none => return { ← r.settle with waiting := some (a, none) }
    | false, some value => throw (.usage (.unexpectedValue a value))
    | false, none => r.raise .full a

/-- Takes the letters after one hyphen. -/
def takeLetters (r : Reading) : List Char → Except Stop Reading
  | [] => .ok r
  | c :: cs =>
    match Argument.ofLetter? c with
    | none => .error (.usage (.unknownArgument ("-" ++ String.singleton c)))
    | some a => do takeLetters (← r.raise .brief a) cs

/-- Takes a word that is no argument: the value that is waited for, or a pattern. -/
def takePlain (r : Reading) (word : String) : Except Stop Reading := do
  match r.waiting with
  | some (a, none) => return { r with waiting := some (a, some word) }
  | _ =>
    let r ← r.settle
    let patterns := r.invocation.patterns ++ [word]
    return { r with invocation := { r.invocation with patterns } }

/-- A name and what follows the first equals sign after it. -/
def splitValue (cs : List Char) : String × Option String :=
  match cs.dropWhile (· != '=') with
  | [] => (String.ofList cs, none)
  | _ :: value => (String.ofList (cs.takeWhile (· != '=')), some (String.ofList value))

def take (r : Reading) (word : String) : Except Stop Reading :=
  match word.toList with
  | '-' :: '-' :: rest => r.takeNamed (splitValue rest).1 (splitValue rest).2
  | '-' :: c :: rest => r.takeLetters (c :: rest)
  | _ => r.takePlain word

/-- The first of the given arguments that another one excludes, with those others. -/
def conflict? (given : List Argument) : Option UsageError :=
  given.findSome? fun a =>
    match given.filter a.excludes with
    | [] => none
    | others => some (.conflict a others)

/-- Ends the reading; the words after a lone pair of hyphens are patterns. -/
def finish (r : Reading) (rest : List String) : Except Stop Invocation := do
  let r ← r.settle
  match conflict? r.given with
  | some e => throw (.usage e)
  | none => return { r.invocation with patterns := r.invocation.patterns ++ rest }

def takeAll (r : Reading) : List String → Except Stop Invocation
  | [] => r.finish []
  | word :: rest => if word == "--" then r.finish rest else do takeAll (← r.take word) rest

end Reading

def read (words : List String) : Except Stop Invocation :=
  Reading.takeAll {} words

end CommandLine

end PackageUsage
