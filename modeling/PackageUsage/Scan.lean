import PackageUsage.Collect
import PackageUsage.Report
import PackageUsage.Scan.Plan
import PackageUsage.Source.Parse

/-!
# Scans

A scanner keeps the results of its latest scan. Each scan starts anew: it finds the files, takes the
records of each, and sets a file aside that cannot be read or has no tree.
-/

namespace PackageUsage

inductive FileFault
  | unreadable (path : String) (cause : FileError)
  | noTree (cause : Source.ParseError)
deriving DecidableEq, Repr

def FileFault.message : FileFault → String
  | .unreadable path cause => "failed to read " ++ path ++ ": " ++ cause.message
  | .noTree cause => cause.message

/-- A file that was set aside. -/
structure FileFailure where
  path : String
  fault : FileFault
deriving DecidableEq, Repr

structure ScanStats where
  filesDiscovered : Nat := 0
  filesScanned : Nat := 0
  filesFailed : Nat := 0
  records : Nat := 0
deriving DecidableEq, Repr, Inhabited

structure ScanResult where
  records : List Record := []
  failures : List FileFailure := []
  stats : ScanStats := {}
deriving DecidableEq, Repr, Inhabited

namespace ScanResult

/-- The names that the records bind, sorted and each once. -/
def names (r : ScanResult) : List String :=
  Record.uniqueNames r.records

/-- The event of a well-formed file whose tree has a fault all the same. -/
def gapEvents (path : String) (tree : Source.Tree) : List LogEvent :=
  if tree.hasFault then
    let (line, column) := tree.faultPlace
    [{ level := .debug, message := "grammar gap in well-formed file"
       fields := [("path", path), ("line", toString line), ("column", toString column)] }]
  else []

/-- The tree of a found file, with the events on the way to it. -/
def treeOf (tree : FileTree) (file : SourceFile) : Except FileFault Source.Tree :=
  match tree.readText file.path with
  | .error cause => .error (.unreadable file.relative cause)
  | .ok text =>
    match Source.parse file.relative text with
    | .error cause => .error (.noTree cause)
    | .ok parsed => .ok parsed

def add (tree : FileTree) (matcher : Matcher) (r : ScanResult) (file : SourceFile) :
    ScanResult × List LogEvent :=
  let start : LogEvent :=
    { level := .debug, message := "scanning"
      fields := [("path", file.relative), ("language", file.language.name)] }
  match treeOf tree file with
  | .ok parsed =>
    ({ r with
        records := collect file.relative matcher parsed r.records
        stats := { r.stats with filesScanned := r.stats.filesScanned + 1 } },
      start :: gapEvents file.relative parsed)
  | .error fault =>
    ({ r with failures := r.failures ++ [{ path := file.relative, fault }] },
      [start, { level := .warn, message := "skipping file"
                fields := [("path", file.relative), ("error", fault.message)] }])

def addAll (tree : FileTree) (matcher : Matcher) (r : ScanResult) :
    List SourceFile → ScanResult × List LogEvent
  | [] => (r, [])
  | file :: files =>
    let (next, events) := r.add tree matcher file
    let (last, later) := next.addAll tree matcher files
    (last, events ++ later)

/-- Counts the failures and the records. -/
def tally (r : ScanResult) : ScanResult :=
  { r with stats := { r.stats with filesFailed := r.failures.length, records := r.records.length } }

def summary (r : ScanResult) : LogEvent :=
  { level := .info, message := "scan complete"
    fields := [("files", toString r.stats.filesDiscovered),
      ("failed", toString r.stats.filesFailed),
      ("records", toString r.stats.records)] }

def ofFiles (tree : FileTree) (matcher : Matcher) (files : List SourceFile) :
    ScanResult × List LogEvent :=
  let start : ScanResult := { stats := { filesDiscovered := files.length } }
  let (found, events) := start.addAll tree matcher files
  (found.tally, events ++ [found.tally.summary])

end ScanResult

/-- A plan that is ready for use, with the results of its latest scan. -/
structure Scanner where
  plan : ScanPlan
  matcher : Matcher
  result : ScanResult := {}
deriving Inhabited

namespace Scanner

/-- Makes a plan ready for use; only a pattern can fail. -/
def ofPlan (plan : ScanPlan) : Except PatternError Scanner := do
  return { plan, matcher := ← Matcher.ofTarget plan.target }

/-- The files that a scan looks for: given patterns go before those of the plan. -/
def options (s : Scanner) (patterns : List String) : DiscoveryOptions :=
  { s.plan.toDiscoveryOptions with
    patterns := if patterns.isEmpty then s.plan.patterns else patterns }

/-- The results of a scan: the names or the reason why there was nothing to scan, the scanner after
it, and the events on the way. -/
structure Step (α : Type) where
  answer : α
  scanner : Scanner
  events : List LogEvent

def tryScan (s : Scanner) (tree : FileTree) (patterns : List String) :
    Step (Except DiscoveryError (List String)) :=
  match discover tree s.plan.root (s.options patterns) with
  | .error e => { answer := .error e, scanner := { s with result := {} }, events := [] }
  | .ok (files, found) =>
    let (result, events) := ScanResult.ofFiles tree s.matcher files
    { answer := .ok result.names, scanner := { s with result }, events := found ++ events }

def abortEvent (s : Scanner) (e : DiscoveryError) : LogEvent :=
  { level := .error, message := "scan aborted"
    fields := [("root", s.plan.root), ("error", e.message)] }

/-- Scans a file tree; if there is nothing to scan, that is only an event. -/
def scan (s : Scanner) (tree : FileTree) (patterns : List String) : Step (List String) :=
  let step := s.tryScan tree patterns
  match step.answer with
  | .ok names => { step with answer := names }
  | .error e => { step with answer := [], events := step.events ++ [s.abortEvent e] }

def render (s : Scanner) (format : ReportFormat) : String :=
  report format s.result.records

end Scanner

end PackageUsage
