import PackageUsage.Scan

/-!
# The program

What a command line does in a file tree: an exit code, a text on the standard output, events, and
lines of its own beside them.
-/

namespace PackageUsage

/-- What a run leaves behind. -/
structure Outcome where
  exit : Nat
  output : String := ""
  /-- The events that are shown. -/
  events : List LogEvent := []
  /-- What is said beside the events; of a command line that is refused only the start. -/
  remarks : List String := []
deriving DecidableEq, Repr, Inhabited

namespace Program

def linesOf (text : String) : List String :=
  (Text.splitOn '\n' text.toList).map String.ofList

/-- The lines of one of several causes: the first has its number, the others stand below its
text. -/
def causeLines (number : Nat) (message : String) : List String :=
  match linesOf message with
  | [] => []
  | first :: rest =>
    ("    " ++ toString number ++ ": " ++ first) :: rest.map ("       " ++ ·)

def patternRemarks (e : PatternError) : List String :=
  ["Error: invalid --target-pkg", "", "Caused by:"]
    ++ causeLines 0 e.message ++ causeLines 1 e.reason

/-- The rendering with a line end, nothing if it is empty. -/
def outputOf (rendering : String) : String :=
  if rendering.isEmpty then "" else rendering ++ "\n"

def skippedRemarks (failed : Nat) : List String :=
  if failed = 0 then []
  else [toString failed ++ " file(s) skipped because of read or parse errors"]

/-- Carries out a command line that was understood. All events are kept here. -/
def carryOut (tree : FileTree) (i : Invocation) : Outcome :=
  match i.plan tree with
  | .error e => { exit := 1, remarks := linesOf ("Error: " ++ e.message) }
  | .ok plan =>
    match Scanner.ofPlan plan with
    | .error e => { exit := 1, remarks := patternRemarks e }
    | .ok scanner =>
      let step := scanner.tryScan tree []
      match step.answer with
      | .error e => { exit := 2, events := step.events ++ [scanner.abortEvent e] }
      | .ok _ =>
        { exit := 0
          output := outputOf (step.scanner.render i.reportFormat)
          events := step.events
          remarks := skippedRemarks step.scanner.result.failures.length }

/-- What is shown of an outcome at a verbosity. -/
def shown (verbosity : Nat) (o : Outcome) : Outcome :=
  { o with events := o.events.filter (·.shownAt verbosity) }

def run (tree : FileTree) (words : List String) : Outcome :=
  match CommandLine.read words with
  | .error (.help style) => { exit := 0, output := CommandLine.helpText style }
  | .error .version => { exit := 0, output := CommandLine.versionText }
  | .error (.usage e) => { exit := 2, remarks := linesOf e.message }
  | .ok i => shown i.verbosity (carryOut tree i)

end Program

end PackageUsage
