import PackageUsage.Decimal.Shortest

/-!
# Values of settings files

The values of the TOML format, and the tables under construction while a file is read. A table
remembers how it came to be, since the format forbids to define a table twice.
-/

namespace PackageUsage.Toml

inductive Real
  | finite (negative : Bool) (mantissa : Nat) (exponent : Int)
  | infinite (negative : Bool)
  | notANumber
deriving Repr, Inhabited

/-- The spelling of a floating-point number, with a point unless it is not finite. -/
def Real.spelling : Real → String
  | .finite negative mantissa exponent => Decimal.spellDouble negative mantissa exponent
  | .infinite negative => if negative then "-inf" else "inf"
  | .notANumber => "NaN"

inductive Value
  | string (s : String)
  | integer (n : Int)
  | real (x : Real)
  | boolean (b : Bool)
  | dateTime
  | array (items : List Value)
  /-- `extensible` tables come from dotted keys, which may add to them. -/
  | inlineTable (extensible : Bool) (entries : List (String × Value))
deriving Repr, Inhabited

/-- What kind of thing a value is, in messages. -/
def Value.kind : Value → String
  | .string _ => "string"
  | .integer _ => "integer"
  | .real _ => "float"
  | .boolean _ => "boolean"
  | .dateTime => "datetime"
  | .array _ => "array"
  | .inlineTable _ _ => "inline table"

structure TableOf (α : Type) where
  /-- The table has been mentioned as the parent of another only. -/
  isImplicit : Bool := false
  /-- The table comes from a dotted key. -/
  isDotted : Bool := false
  entries : List (String × α) := []
deriving Repr, Inhabited

inductive Item
  | value (v : Value)
  | table (t : TableOf Item)
  | tables (ts : List (TableOf Item))
deriving Repr, Inhabited

abbrev Table := TableOf Item

def Item.kind : Item → String
  | .value v => v.kind
  | .table _ => "table"
  | .tables _ => "array of tables"

def lookup? {α : Type} (key : String) : List (String × α) → Option α
  | [] => none
  | (k, a) :: rest => if k == key then some a else lookup? key rest

/-- Replaces the entry under a key, or adds it at the end. -/
def put {α : Type} (key : String) (a : α) : List (String × α) → List (String × α)
  | [] => [(key, a)]
  | (k, b) :: rest => if k == key then (k, a) :: rest else (k, b) :: put key a rest

def erase {α : Type} (key : String) (entries : List (String × α)) : List (String × α) :=
  entries.filter (·.1 != key)

inductive Cause
  | duplicateKey (key : String) (table : Option (List String))
  | extendsOther (path : List String) (kind : String)
  | outOfRange
  | tooDeep
  | integerTooLarge
  | integerTooSmall
deriving Repr

def Cause.message : Cause → String
  | .duplicateKey key none => "duplicate key `" ++ key ++ "`"
  | .duplicateKey key (some []) => "duplicate key `" ++ key ++ "` in document root"
  | .duplicateKey key (some path) =>
    "duplicate key `" ++ key ++ "` in table `" ++ ".".intercalate path ++ "`"
  | .extendsOther path kind =>
    "dotted key `" ++ ".".intercalate path ++ "` attempted to extend non-table type (" ++ kind ++
      ")"
  | .outOfRange => "value is out of range"
  | .tooDeep => "recursion limit exceeded"
  | .integerTooLarge => "number too large to fit in target type"
  | .integerTooSmall => "number too small to fit in target type"

end PackageUsage.Toml
