import PackageUsage.CommandLine.Argument

/-!
# Help texts

The two help texts, a brief and a full one, and the version. The brief text adds defaults and
possible values to the description of an argument; the full one gives them lines of their own.
-/

namespace PackageUsage

def ReportFormat.description : ReportFormat → String
  | .simple => "One unique name per line, sorted"
  | .detailed => "One line per declaration, grouped by file"
  | .json => "Pretty-printed JSON records"
  | .compact => "Single-line JSON records"

def ReportFormat.all : List ReportFormat :=
  [.simple, .detailed, .json, .compact]

namespace CommandLine

def programName : String := "importscan"

def versionText : String :=
  programName ++ " 0.1.0\n"

inductive HelpStyle
  | brief
  | full
deriving DecidableEq, Repr

def Argument.description (style : HelpStyle) : Argument → String
  | .searchPath => "Directory to scan"
  | .targetPackage => "Package to look for: a specifier prefix, or a regex with --regex"
  | .regex => "Treat --target-pkg as a regular expression"
  | .excludePaths => "Comma-separated globs to exclude, relative to the search path"
  | .format => "Output format"
  | .json => "Shorthand for --format json"
  | .detailed => "Shorthand for --format detailed"
  | .config => "Config file (default: .importscan.toml or importscan.toml in the search path)"
  | .noIgnoreFiles => "Scan files even if .gitignore excludes them"
  | .verbose => "Increase log verbosity (-v info, -vv debug, -vvv trace)"
  | .help =>
    match style with
    | .brief => "Print help (see more with '--help')"
    | .full => "Print help (see a summary with '-h')"
  | .version => "Print version"

def margin : String := "          "

/-- A text with blanks after it up to a width. -/
def padRight (width : Nat) (s : String) : String :=
  s ++ String.ofList (List.replicate (width - s.length) ' ')

def formatLines : List String :=
  ReportFormat.all.map fun f => margin ++ "- " ++ padRight 10 (f.name ++ ":") ++ f.description

def Argument.remarks : HelpStyle → Argument → String
  | .brief, .searchPath => " [default: .]"
  | .brief, .format =>
    " [possible values: " ++ ", ".intercalate (ReportFormat.all.map ReportFormat.name) ++ "]"
  | .full, .searchPath => "\n" ++ margin ++ "\n" ++ margin ++ "[default: .]"
  | .full, .format => "\n\n" ++ "\n".intercalate ((margin ++ "Possible values:") :: formatLines)
  | _, _ => ""

def Argument.entry (style : HelpStyle) (a : Argument) : String :=
  let letter := match a.letter? with
    | some c => "  -" ++ String.singleton c ++ ", "
    | none => "      "
  letter ++ a.spelling ++ "\n" ++ margin ++ a.description style ++ a.remarks style

def patternsEntry : HelpStyle → String
  | .brief => "  [PATTERNS]...  Glob patterns selecting files to scan (default: **/*.ts **/*.tsx)"
  | .full =>
    "  [PATTERNS]...\n" ++ margin
      ++ "Glob patterns selecting files to scan (default: **/*.ts **/*.tsx)"

def helpText (style : HelpStyle) : String :=
  let gap := match style with
    | .brief => "\n"
    | .full => "\n\n"
  "List every name a codebase imports from a package\n\n"
    ++ "Usage: " ++ programName ++ " [OPTIONS] [PATTERNS]...\n\n"
    ++ "Arguments:\n" ++ patternsEntry style ++ "\n\n"
    ++ "Options:\n" ++ gap.intercalate (Argument.all.map (Argument.entry style)) ++ "\n\n"
    ++ "Example: " ++ programName
    ++ " --search-path ./packages --target-pkg @scope/pkg-name --exclude-paths packages/pkg\n"

end CommandLine

end PackageUsage
