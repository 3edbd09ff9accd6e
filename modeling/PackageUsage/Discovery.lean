import PackageUsage.Discovery.Walk
import PackageUsage.Language
import PackageUsage.Log

/-!
# Discovery of source files

The files below a directory that some include pattern selects and that a grammar exists for, each
once and in the order of their paths.
-/

namespace PackageUsage

structure DiscoveryOptions where
  /-- Globs of which a file must match one; none stands for the default ones. -/
  patterns : List String := []
  /-- Globs of what is left out, beside what always is. -/
  exclude : List String := []
  respectIgnoreFiles : Bool := true
deriving DecidableEq, Repr, Inhabited

structure SourceFile where
  path : String
  /-- The path seen from the scan root. -/
  relative : String
  language : Language
deriving DecidableEq, Repr

/-- Why there is nothing to discover. Every directory of a file tree can be read, and globs that
are sound one by one are sound together, so `cannot read`, `failed to build patterns` and `failed to
build excludes` do not come up. -/
inductive DiscoveryError
  | notADirectory (root : String)
  | badPattern (pattern : String) (text : String) (fault : Glob.Fault)
  | badExclude (pattern : String) (fault : Glob.Fault)
deriving Repr

def DiscoveryError.message : DiscoveryError → String
  | .notADirectory root => "file discovery failed: " ++ root ++ " is not a readable directory"
  | .badPattern pattern text fault =>
    "file discovery failed: invalid pattern `" ++ pattern ++ "`: " ++ fault.report text
  | .badExclude pattern fault =>
    "file discovery failed: invalid exclude pattern `" ++ pattern ++ "`: "
      ++ fault.report ("!" ++ pattern)

namespace Discovery

def defaultPatterns : List String :=
  ["**/*.ts", "**/*.tsx"]

/-- What is always left out: dependencies, build results and the files of a repository. -/
def defaultExcludes : List String :=
  ["node_modules/", "dist/", "build/", "coverage/", ".git/"]

/-- A text without the steps to the current directory at its start. -/
def dropCurrentSteps : List Char → List Char
  | '.' :: '/' :: rest => dropCurrentSteps rest
  | cs => cs

/-- A pattern without blanks around it and without steps to the current directory. -/
def normalize (pattern : String) : String :=
  String.ofList (dropCurrentSteps (Text.trimList pattern.toList))

def includeGlobs (patterns : List String) : Except DiscoveryError (List Glob) :=
  (if patterns.isEmpty then defaultPatterns else patterns).mapM fun pattern =>
    match Glob.ofText false (normalize pattern) with
    | .ok glob => .ok glob
    | .error fault => .error (.badPattern pattern (normalize pattern) fault)

/-- The rule of an exclude pattern, none if it is blank. -/
def excludeRule (pattern : String) : Except DiscoveryError (Option IgnoreRule) :=
  if (normalize pattern).isEmpty then .ok none
  else
    match IgnoreRule.ofLine false ("!" ++ normalize pattern) with
    | .ok rule => .ok rule
    | .error fault => .error (.badExclude (normalize pattern) fault)

/-- The rules of the default excludes and further ones. -/
def excludeRules (exclude : List String) : Except DiscoveryError IgnoreRules := do
  let rules ← (defaultExcludes ++ exclude).mapM excludeRule
  return { rules := rules.filterMap id }

/-- What discovery makes of a finding: a source file, or an event. -/
def sift (root : String) (globs : List Glob) : Finding → Option SourceFile × List LogEvent
  | .problem message =>
    (none,
      [{ level := .warn, message := "skipping unreadable entry", fields := [("error", message)] }])
  | .file names =>
    let relative := "/".intercalate names
    if globs.any (·.accepts relative) then
      let path := Path.join root relative
      match Language.ofPath? path with
      | some language => (some { path, relative, language }, [])
      | none =>
        (none,
          [{ level := .debug, message := "skipping file with no grammar"
             fields := [("path", relative)] }])
    else (none, [])

/-- Whether a file stands before another or has the same path. -/
def inOrder (a b : SourceFile) : Bool :=
  Path.le a.relative b.relative

def dropRepeated : List SourceFile → List SourceFile
  | a :: b :: rest =>
    if Path.compare a.relative b.relative == .eq then dropRepeated (a :: rest)
    else a :: dropRepeated (b :: rest)
  | files => files
termination_by files => files.length

end Discovery

open Discovery in
/-- The source files below a directory, with the events on the way. -/
def discover (tree : FileTree) (root : String) (options : DiscoveryOptions) :
    Except DiscoveryError (List SourceFile × List LogEvent) := do
  if !tree.isDirectory root then throw (.notADirectory root)
  let globs ← includeGlobs options.patterns
  let excludes ← excludeRules options.exclude
  let survey : Survey :=
    { tree, root, excludes, respectIgnoreFiles := options.respectIgnoreFiles }
  let sifted := survey.findings.map (sift root globs)
  let files := dropRepeated ((sifted.filterMap (·.1)).mergeSort inOrder)
  let events := sifted.flatMap (·.2)
  let total : LogEvent :=
    { level := .debug, message := "discovered files"
      fields := [("count", toString files.length), ("root", root)] }
  return (files, events ++ [total])

end PackageUsage
