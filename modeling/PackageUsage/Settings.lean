import PackageUsage.Target
import PackageUsage.Text.Quoted
import PackageUsage.Toml.Document

/-!
# Settings files

What a settings file can say: five optional keys and no others. Entries are looked at in the order
of the file, and the first that does not fit is reported.
-/

namespace PackageUsage

/-- The contents of a settings file; a list that is absent is empty. -/
structure Settings where
  target : Option String := none
  mode : Option TargetMode := none
  exclude : List String := []
  patterns : List String := []
  respectIgnoreFiles : Option Bool := none
deriving DecidableEq, Repr, Inhabited

namespace Settings

inductive Misfit
  | unknownField (key : String)
  | unknownVariant (name : String)
  | wrongType (found expected : String)
  | modeNeedsWord
  | modeTableEmpty
  | modeTableTooBig
  | expectedEmptyArray
  | expectedEmptyTable
  | expectedTable (found : String)
deriving Repr

def Misfit.message : Misfit → String
  | .unknownField key =>
    "unknown field `" ++ key ++
      "`, expected one of `target`, `mode`, `exclude`, `patterns`, `respect_gitignore`"
  | .unknownVariant name => "unknown variant `" ++ name ++ "`, expected `prefix` or `pattern`"
  | .wrongType found expected => "invalid type: " ++ found ++ ", expected " ++ expected
  | .modeNeedsWord => "wanted string or table"
  | .modeTableEmpty => "wanted exactly 1 element, found 0 elements"
  | .modeTableTooBig => "wanted exactly 1 element, more than 1 element"
  | .expectedEmptyArray => "expected empty array"
  | .expectedEmptyTable => "expected empty table"
  | .expectedTable found => "expected table, found " ++ found

open Toml (Value Item)

/-- A value as a message about its type shows it. -/
def describeValue : Value → String
  | .string s => "string " ++ Text.quoted s
  | .integer n => "integer `" ++ toString n ++ "`"
  | .real x => "floating point `" ++ x.spelling ++ "`"
  | .boolean b => "boolean `" ++ (if b then "true" else "false") ++ "`"
  | .dateTime | .inlineTable _ _ => "map"
  | .array _ => "sequence"

def describe : Item → String
  | .value v => describeValue v
  | .table _ => "map"
  | .tables _ => "sequence"

def textOf : Item → Except Misfit String
  | .value (.string s) => .ok s
  | other => .error (.wrongType (describe other) "a string")

def flagOf : Item → Except Misfit Bool
  | .value (.boolean b) => .ok b
  | other => .error (.wrongType (describe other) "a boolean")

def textsOf : Item → Except Misfit (List String)
  | .value (.array items) => items.mapM fun v => textOf (.value v)
  | .tables ts => ts.mapM fun t => textOf (.table t)
  | other => .error (.wrongType (describe other) "a sequence")

def modeNamed (name : String) : Except Misfit TargetMode :=
  match TargetMode.ofName? name with
  | some mode => .ok mode
  | none => .error (.unknownVariant name)

/-- Accepts what may stand beside the name of a mode in a table: nothing at all. -/
def emptyContents : Item → Except Misfit Unit
  | .tables ts => if ts.isEmpty then .ok () else .error .expectedEmptyArray
  | .value (.array items) => if items.isEmpty then .ok () else .error .expectedEmptyArray
  | .table t => if t.entries.isEmpty then .ok () else .error .expectedEmptyTable
  | .value (.inlineTable _ entries) =>
    if entries.isEmpty then .ok () else .error .expectedEmptyTable
  | other => .error (.expectedTable other.kind)

/-- The mode that a table with one entry names. -/
def modeOfEntries : List (String × Item) → Except Misfit TargetMode
  | [] => .error .modeTableEmpty
  | [(name, contents)] => do
    let mode ← modeNamed name
    emptyContents contents
    return mode
  | _ => .error .modeTableTooBig

/-- The mode of an item: a name, or a table with the name as its one key. -/
def modeOf : Item → Except Misfit TargetMode
  | .value (.string name) => modeNamed name
  | .value (.inlineTable _ entries) => modeOfEntries (entries.map fun (k, v) => (k, .value v))
  | .table t => modeOfEntries t.entries
  | _ => .error .modeNeedsWord

def set (s : Settings) : String × Item → Except Misfit Settings
  | ("target", item) => do return { s with target := some (← textOf item) }
  | ("mode", item) => do return { s with mode := some (← modeOf item) }
  | ("exclude", item) => do return { s with exclude := ← textsOf item }
  | ("patterns", item) => do return { s with patterns := ← textsOf item }
  | ("respect_gitignore", item) => do return { s with respectIgnoreFiles := some (← flagOf item) }
  | (key, _) => .error (.unknownField key)

/-- The settings that the text of a file spells, or the message that says what is wrong with it. -/
def ofText (text : String) : Except String Settings :=
  match Toml.read text with
  | .error message => .error message
  | .ok table =>
    match table.entries.foldlM set {} with
    | .ok settings => .ok settings
    | .error misfit => .error misfit.message

end Settings

end PackageUsage
