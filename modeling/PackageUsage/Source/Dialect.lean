import PackageUsage.Language

/-!
# Dialects

The choices in which the readers of source files differ. Each language has a tolerant dialect, by
which trees are built: it takes words out of place for identifiers, allows declarations anywhere
and ends a statement wherever a line break allows it. The strict dialects follow the language
standards and are used for a second opinion on a file only.
-/

namespace PackageUsage.Source

structure Dialect where
  /-- Type annotations and the declarations of types are allowed. -/
  types : Bool
  /-- Markup elements are allowed in expressions. -/
  markup : Bool
  /-- The language standards are followed to the letter. -/
  strict : Bool
deriving DecidableEq, Repr, Inhabited

namespace Dialect

/-- The dialect by which trees are built. -/
def tolerant : Language → Dialect
  | .typescript => { types := true, markup := false, strict := false }
  | .tsx => { types := true, markup := true, strict := false }
  | .javascript => { types := false, markup := true, strict := false }

/-- The strict dialect of an extension; markup is left to the extensions that end in `x`. -/
def strict? : String → Option Dialect
  | "ts" | "mts" | "cts" => some { types := true, markup := false, strict := true }
  | "tsx" => some { types := true, markup := true, strict := true }
  | "jsx" => some { types := false, markup := true, strict := true }
  | "js" | "mjs" | "cjs" => some { types := false, markup := false, strict := true }
  | _ => none

end Dialect

end PackageUsage.Source
