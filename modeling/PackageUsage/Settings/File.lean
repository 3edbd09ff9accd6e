import PackageUsage.FileTree
import PackageUsage.Settings

/-!
# Settings in a file tree

Which file holds the settings of a scan root, and what it says. A file that is named is the only one
looked for; else the hidden name goes before the plain one.
-/

namespace PackageUsage

/-- Why there are no settings, though a file for them was given or found. -/
inductive SettingsError
  | missing (path : String)
  | unreadable (path : String) (cause : FileError)
  | invalid (path : String) (message : String)
deriving DecidableEq, Repr

def SettingsError.message : SettingsError → String
  | .missing path => "config file not found: " ++ path
  | .unreadable path cause => "invalid config at " ++ path ++ ": " ++ cause.message
  | .invalid path message => "invalid config at " ++ path ++ ": " ++ message

namespace Settings

/-- The names of settings files in a scan root, the preferred one first. -/
def fileNames : List String :=
  [".importscan.toml", "importscan.toml"]

/-- The path of the settings file for a root: the named one if there is such a file, or the first of
the usual names that is there. -/
def findFile? (tree : FileTree) (root : String) : Option String → Option String
  | some named => if tree.exists? named then some named else none
  | none => (fileNames.map (Path.join root)).find? tree.exists?

def load (tree : FileTree) (path : String) : Except SettingsError Settings :=
  match tree.readText path with
  | .error cause => .error (.unreadable path cause)
  | .ok text =>
    match ofText text with
    | .error message => .error (.invalid path message)
    | .ok settings => .ok settings

/-- The settings for a root, empty if no file was named and none is there. -/
def forRoot (tree : FileTree) (root : String) (named : Option String) :
    Except SettingsError Settings :=
  match findFile? tree root named, named with
  | some path, _ => load tree path
  | none, some path => .error (.missing path)
  | none, none => .ok {}

end Settings

end PackageUsage
