import PackageUsage.Report

/-!
# The arguments of the command line

The named arguments: how they are spelled, which of them take a value, and what the help says about
them. Words that belong to no named argument are patterns.
-/

namespace PackageUsage.CommandLine

/-- A named argument. The constructors are listed in the order of the help. -/
inductive Argument
  | searchPath
  | targetPackage
  | regex
  | excludePaths
  | format
  | json
  | detailed
  | config
  | noIgnoreFiles
  | verbose
  | help
  | version
deriving DecidableEq, Repr

namespace Argument

def all : List Argument :=
  [.searchPath, .targetPackage, .regex, .excludePaths, .format, .json, .detailed, .config,
    .noIgnoreFiles, .verbose, .help, .version]

/-- The name of an argument after two hyphens. -/
def name : Argument → String
  | .searchPath => "search-path"
  | .targetPackage => "target-pkg"
  | .regex => "regex"
  | .excludePaths => "exclude-paths"
  | .format => "format"
  | .json => "json"
  | .detailed => "detailed"
  | .config => "config"
  | .noIgnoreFiles => "no-gitignore"
  | .verbose => "verbose"
  | .help => "help"
  | .version => "version"

/-- A second name, which the help does not show. -/
def otherName? : Argument → Option String
  | .searchPath => some "searchPath"
  | .targetPackage => some "targetPkg"
  | .excludePaths => some "excludePaths"
  | _ => none

/-- The letter of an argument after one hyphen. -/
def letter? : Argument → Option Char
  | .verbose => some 'v'
  | .help => some 'h'
  | .version => some 'V'
  | _ => none

/-- What stands for the value of an argument that takes one. -/
def valueName? : Argument → Option String
  | .searchPath => some "SEARCH_PATH"
  | .targetPackage => some "TARGET_PKG"
  | .excludePaths => some "EXCLUDE_PATHS"
  | .format => some "FORMAT"
  | .config => some "CONFIG"
  | _ => none

def takesValue (a : Argument) : Bool :=
  a.valueName?.isSome

def isRepeatable : Argument → Bool
  | .excludePaths | .verbose => true
  | _ => false

/-- The three arguments that select a format; at most one of them may be given. -/
def selectsFormat : Argument → Bool
  | .format | .json | .detailed => true
  | _ => false

def excludes (a b : Argument) : Bool :=
  a != b && a.selectsFormat && b.selectsFormat

def spelling (a : Argument) : String :=
  match a.valueName? with
  | some value => "--" ++ a.name ++ " <" ++ value ++ ">"
  | none => if a == .verbose then "--verbose..." else "--" ++ a.name

def ofName? (name : String) : Option Argument :=
  all.find? fun a => a.name == name || a.otherName? == some name

def ofLetter? (letter : Char) : Option Argument :=
  all.find? fun a => a.letter? == some letter

end Argument

end PackageUsage.CommandLine
