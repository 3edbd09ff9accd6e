import PackageUsage.Source.Grammar

/-!
# Well-formed texts

The second opinion on a text: whether the strict dialect of its file accepts it.
-/

namespace PackageUsage.Source

def allDistinct : List String → Bool
  | [] => true
  | x :: rest => !rest.contains x && allDistinct rest

/-- Whether a text follows the standard of the language its path implies. A name may be exported
only once, except where types are allowed. -/
def isWellFormed (path text : String) : Bool :=
  match (Path.extension? path).bind Dialect.strict? with
  | none => false
  | some d =>
    match Grammar.read d (Cursor.ofText text) [] with
    | .done _ s => d.types || allDistinct s.exported
    | .refused _ => false

end PackageUsage.Source
