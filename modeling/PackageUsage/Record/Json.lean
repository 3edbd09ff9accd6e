import PackageUsage.Decimal.Shortest
import PackageUsage.Json.Basic
import PackageUsage.Record
import PackageUsage.Text.Quoted

/-!
# Records as JSON

A record is written as an object of five members in a fixed order. It is read from such an object,
in any order and with unknown members ignored, or from an array of the five values.
-/

namespace PackageUsage

namespace Record

def toJson (r : Record) : Json :=
  .obj [("file", .str r.file), ("declaration_kind", .str r.kind.keyword),
    ("package_specifier", .str r.specifier), ("bound_names", Json.strings r.names),
    ("line", Json.nat r.line)]

/-- Why a JSON value is no record. -/
inductive DecodeError where
  | missing (field : String)
  | unknownKind (text : String)
  | invalidType (found : Json) (expected : String)
  | invalidValue (found : Json) (expected : String)
  | invalidLength (length : Nat) (expected : String)
deriving Repr, Inhabited

/-- How a value found in the wrong place is named. -/
def describe : Json → String
  | .null => "null"
  | .bool true => "boolean `true`"
  | .bool false => "boolean `false`"
  | .int n => s!"integer `{n}`"
  | .decimal negative mantissa exponent =>
    let text := Decimal.spellDoubleBriefly negative mantissa exponent
    s!"floating point `{text}`"
  | .str s => "string " ++ Text.quoted s
  | .arr _ => "sequence"
  | .obj _ => "map"

def DecodeError.message : DecodeError → String
  | .missing field => s!"missing field `{field}`"
  | .unknownKind text => s!"unknown variant `{text}`, expected `import` or `export`"
  | .invalidType found expected =>
    let found := describe found
    s!"invalid type: {found}, expected {expected}"
  | .invalidValue found expected =>
    let found := describe found
    s!"invalid value: {found}, expected {expected}"
  | .invalidLength length expected => s!"invalid length {length}, expected {expected}"

def decodeText (expected : String) : Json → Except DecodeError String
  | .str s => .ok s
  | v => .error (.invalidType v expected)

/-- A declaration kind: its keyword, or an object with the keyword as its only key. -/
def decodeKind : Json → Except DecodeError DeclarationKind
  | .str s =>
    match DeclarationKind.ofKeyword? s with
    | some k => .ok k
    | none => .error (.unknownKind s)
  | .obj [(key, value)] =>
    match DeclarationKind.ofKeyword? key, value with
    | none, _ => .error (.unknownKind key)
    | some k, .null => .ok k
    | some _, v => .error (.invalidType v "unit")
  | .obj members => .error (.invalidValue (.obj members) "map with a single key")
  | v => .error (.invalidType v "string or map")

def decodeTexts : List Json → Except DecodeError (List String)
  | [] => .ok []
  | v :: rest => do
    let s ← decodeText "a string" v
    let ss ← decodeTexts rest
    return s :: ss

def decodeNames : Json → Except DecodeError (List String)
  | .arr items => decodeTexts items
  | v => .error (.invalidType v "a sequence")

/-- A line number: a whole number from 0 to 2^64 - 1. -/
def decodeLine : Json → Except DecodeError Nat
  | .int n =>
    if 0 ≤ n ∧ n.toNat < Nat.pow 2 64 then .ok n.toNat else .error (.invalidValue (.int n) "usize")
  | v => .error (.invalidType v "usize")

/-- The fields of a record that have been read so far. -/
structure Draft where
  file : Option String := none
  kind : Option DeclarationKind := none
  specifier : Option String := none
  names : Option (List String) := none
  line : Option Nat := none

/-- Takes one member of an object into the draft; other keys than the five are ignored. -/
def Draft.take (d : Draft) (key : String) (v : Json) : Except DecodeError Draft :=
  match key with
  | "file" => (decodeText "path string" v).map fun s => { d with file := some s }
  | "declaration_kind" => (decodeKind v).map fun k => { d with kind := some k }
  | "package_specifier" => (decodeText "a string" v).map fun s => { d with specifier := some s }
  | "bound_names" => (decodeNames v).map fun ns => { d with names := some ns }
  | "line" => (decodeLine v).map fun n => { d with line := some n }
  | _ => .ok d

def Draft.finish (d : Draft) : Except DecodeError Record :=
  match d.file, d.kind, d.specifier, d.names, d.line with
  | some file, some kind, some specifier, some names, some line =>
    .ok { file, kind, specifier, names, line }
  | none, _, _, _, _ => .error (.missing "file")
  | _, none, _, _, _ => .error (.missing "declaration_kind")
  | _, _, none, _, _ => .error (.missing "package_specifier")
  | _, _, _, none, _ => .error (.missing "bound_names")
  | _, _, _, _, none => .error (.missing "line")

def ofJson : Json → Except DecodeError Record
  | .obj members => do
    let draft ← members.foldlM (fun (d : Draft) m => d.take m.1 m.2) {}
    draft.finish
  | .arr [file, kind, specifier, names, line] => do
    let file ← decodeText "path string" file
    let kind ← decodeKind kind
    let specifier ← decodeText "a string" specifier
    let names ← decodeNames names
    let line ← decodeLine line
    return { file, kind, specifier, names, line }
  | .arr items => do
    let fields := ["file", "declaration_kind", "package_specifier", "bound_names", "line"]
    let _ ← (fields.zip items).foldlM (fun (d : Draft) m => d.take m.1 m.2) {}
    if items.length < 5 then
      .error (.invalidLength items.length "struct ImportRecord with 5 elements")
    else .error (.invalidLength items.length "fewer elements in array")
  | v => .error (.invalidType v "struct ImportRecord")

/-- The records an array spells, in order. -/
def listOfJson : Json → Except DecodeError (List Record)
  | .arr items => items.mapM ofJson
  | v => .error (.invalidType v "a sequence")

end Record

end PackageUsage
