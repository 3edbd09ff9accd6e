/-!
# JSON values
-/

namespace PackageUsage

/-- A JSON value. Members keep the order in which they are written. -/
inductive Json where
  | null
  | bool (b : Bool)
  /-- A whole number written without point and exponent. -/
  | int (n : Int)
  /-- The number `±mantissa · 10^exponent`, written with a point or an exponent. -/
  | decimal (negative : Bool) (mantissa : Nat) (exponent : Int)
  | str (s : String)
  | arr (items : List Json)
  | obj (members : List (String × Json))
deriving Repr, Inhabited

namespace Json

/-- The value of a member; the last one of a repeated key counts. -/
def get? (key : String) : Json → Option Json
  | .obj members => (members.reverse.find? fun m => m.1 == key).map Prod.snd
  | _ => none

/-- A JSON number without sign. -/
def nat (n : Nat) : Json :=
  .int (Int.ofNat n)

def strings (texts : List String) : Json :=
  .arr (texts.map Json.str)

end Json

end PackageUsage
