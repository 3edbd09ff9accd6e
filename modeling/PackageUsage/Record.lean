/-!
# Usage records

A record says that one declaration of one file takes names from a package.
-/

namespace PackageUsage

/-- The two kinds of declaration that name a module. -/
inductive DeclarationKind where
  | importing
  | exporting
deriving DecidableEq, Repr, Inhabited

def DeclarationKind.keyword : DeclarationKind → String
  | .importing => "import"
  | .exporting => "export"

def DeclarationKind.ofKeyword? : String → Option DeclarationKind
  | "import" => some .importing
  | "export" => some .exporting
  | _ => none

/-- One declaration that takes names from a package. -/
structure Record where
  /-- The file of the declaration, relative to the scanned directory. -/
  file : String
  kind : DeclarationKind
  /-- The module named by the declaration, without its quotes. -/
  specifier : String
  /-- The names bound or re-exported, in source order. -/
  names : List String
  /-- The line the declaration starts on, counted from 1. -/
  line : Nat
deriving DecidableEq, Repr, Inhabited

end PackageUsage
