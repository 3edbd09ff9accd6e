import PackageUsage.Path

/-!
# Source languages

The three grammars a source file may be written in, and the choice between them by extension.
-/

namespace PackageUsage

/-- The grammar of a source file. -/
inductive Language where
  | typescript
  | tsx
  | javascript
deriving DecidableEq, Repr, Inhabited

namespace Language

def name : Language → String
  | .typescript => "typescript"
  | .tsx => "tsx"
  | .javascript => "javascript"

/-- The language of an extension, which is compared letter for letter. -/
def ofExtension? : String → Option Language
  | "ts" | "mts" | "cts" => some .typescript
  | "tsx" => some .tsx
  | "js" | "jsx" | "mjs" | "cjs" => some .javascript
  | _ => none

/-- The language of a path, by the extension of its last component. -/
def ofPath? (path : String) : Option Language :=
  (Path.extension? path).bind ofExtension?

end Language

end PackageUsage
