import PackageUsage.Source.Declaration

/-!
# Module items

The import and re-export declarations of a module in their plain forms, with comments between them,
and the layout they are written in. An item says which characters spell it and what it declares;
both are stated without the grammar, so that reading can be compared with them.
-/

namespace PackageUsage.Source

/-! ## Layout -/

/-- A blank between two tokens. -/
inductive Blank
  | space
  | tab
  | lineFeed
deriving DecidableEq, Repr

/-- The character of a blank. -/
def Blank.char : Blank → Char
  | .space => ' '
  | .tab => '\t'
  | .lineFeed => '\n'

/-- The characters of a run of blanks. -/
def layout (blanks : List Blank) : List Char :=
  blanks.map Blank.char

/-- A run of blanks that is not empty. -/
structure Gap where
  first : Blank
  rest : List Blank := []
deriving DecidableEq, Repr

/-- The characters of a gap. -/
def Gap.chars (g : Gap) : List Char :=
  layout (g.first :: g.rest)

/-! ## Names and literals -/

/-- The characters that may start an identifier of ASCII characters. -/
def isNameStart (c : Char) : Bool :=
  c.isAlpha || c == '_' || c == '$'

/-- The characters that may continue an identifier of ASCII characters. -/
def isNamePart (c : Char) : Bool :=
  c.isAlphanum || c == '_' || c == '$'

/-- An identifier of ASCII characters. The two words that may qualify an imported or exported name
are left out; any other word will do, also where it is a keyword elsewhere. -/
structure Identifier where
  first : Char
  rest : List Char
  spelled : (isNameStart first && rest.all isNamePart) = true
  unqualifying : first :: rest ≠ "type".toList ∧ first :: rest ≠ "typeof".toList

namespace Identifier

/-- The characters of an identifier. -/
def chars (i : Identifier) : List Char :=
  i.first :: i.rest

/-- The text of an identifier. -/
def text (i : Identifier) : String :=
  String.ofList i.chars

end Identifier

/-- Printable characters: neither control characters nor the separators of lines and paragraphs. -/
def isPrintable (c : Char) : Bool :=
  let n := c.toNat
  32 ≤ n && !(127 ≤ n && n ≤ 159) && n != 0x2028 && n != 0x2029

/-- The two quotes of literals. -/
inductive Quote
  | single
  | double
deriving DecidableEq, Repr

/-- The character of a quote. -/
def Quote.char : Quote → Char
  | .single => '\''
  | .double => '"'

/-- A quoted string of printable text, without its own quote and without backslashes. -/
structure Literal where
  quote : Quote
  contents : List Char
  plain : ∀ c ∈ contents, isPrintable c = true ∧ c ≠ quote.char ∧ c ≠ '\\'

namespace Literal

/-- The characters of a literal, quotes included. -/
def chars (l : Literal) : List Char :=
  l.quote.char :: l.contents ++ [l.quote.char]

/-- The text between the quotes of a literal. -/
def text (l : Literal) : String :=
  String.ofList l.contents

end Literal

/-- A name in an export list: an identifier, or a literal that is not empty. -/
inductive ExportName
  | identifier (name : Identifier)
  | literal (name : Literal) (nonempty : name.contents ≠ [])

namespace ExportName

/-- The characters of an exported name. -/
def chars : ExportName → List Char
  | .identifier name => name.chars
  | .literal name _ => name.chars

/-- The text of an exported name, without quotes. -/
def text : ExportName → String
  | .identifier name => name.text
  | .literal name _ => name.text

end ExportName

/-! ## Lists between braces -/

/-- A new name after the word `as`, with the gaps around this word. -/
structure Renaming (ν : Type) where
  before : Gap
  after : Gap
  name : ν

/-- One element of a list: a name, and a new name for it if there is one. -/
structure Element (ν : Type) where
  name : ν
  newName : Option (Renaming ν) := none

namespace Element

variable {ν : Type}

/-- The characters of an element, given those of a name. -/
def chars (spell : ν → List Char) (e : Element ν) : List Char :=
  spell e.name ++
    match e.newName with
    | none => []
    | some r => r.before.chars ++ "as".toList ++ r.after.chars ++ spell r.name

/-- The name that an element binds: the new one if there is one. -/
def bound (e : Element ν) : ν :=
  match e.newName with
  | none => e.name
  | some r => r.name

end Element

/-- An element after another one, with the blanks around the comma between them. -/
structure Following (ν : Type) where
  before : List Blank
  after : List Blank
  element : Element ν

/-- A list between braces. -/
structure Braced (ν : Type) where
  opening : List Blank
  elements : Option (Element ν × List (Following ν))
  closing : List Blank

namespace Braced

variable {ν : Type}

/-- The characters of the elements after the first. -/
def followingChars (spell : ν → List Char) (fs : List (Following ν)) : List Char :=
  fs.flatMap fun f => layout f.before ++ ',' :: layout f.after ++ f.element.chars spell

/-- The characters of the elements with the commas between them. -/
def elementsChars (spell : ν → List Char) (b : Braced ν) : List Char :=
  match b.elements with
  | none => []
  | some (first, fs) => first.chars spell ++ followingChars spell fs

/-- The characters of a list with its braces. -/
def chars (spell : ν → List Char) (b : Braced ν) : List Char :=
  '{' :: layout b.opening ++ b.elementsChars spell ++ layout b.closing ++ ['}']

/-- The names that a list binds, in order. -/
def bound (b : Braced ν) : List ν :=
  match b.elements with
  | none => []
  | some (first, fs) => first.bound :: fs.map fun f => f.element.bound

end Braced

/-! ## Declarations and comments -/

/-- What an import takes beside a default: the whole module under one name, or a list. -/
inductive ImportGroup
  | whole (afterStar afterAs : Gap) (name : Identifier)
  | list (elements : Braced Identifier)

namespace ImportGroup

/-- The characters of a group. -/
def chars : ImportGroup → List Char
  | .whole afterStar afterAs name =>
    '*' :: afterStar.chars ++ "as".toList ++ afterAs.chars ++ name.chars
  | .list elements => elements.chars Identifier.chars

/-- The names that a group binds. -/
def names : ImportGroup → List String
  | .whole _ _ name => [name.text]
  | .list elements => elements.bound.map Identifier.text

end ImportGroup

/-- What stands between the words `import` and `from`. -/
inductive ImportClause
  | default (name : Identifier)
  | group (g : ImportGroup)
  | both (name : Identifier) (before after : List Blank) (g : ImportGroup)

namespace ImportClause

/-- The characters of a clause. -/
def chars : ImportClause → List Char
  | .default name => name.chars
  | .group g => g.chars
  | .both name before after g =>
    name.chars ++ layout before ++ ',' :: layout after ++ g.chars

/-- The names that a clause binds. -/
def names : ImportClause → List String
  | .default name => [name.text]
  | .group g => g.names
  | .both name _ _ g => name.text :: g.names

end ImportClause

/-- What an import declaration says before its source: nothing, or a clause and the word `from`. -/
inductive ImportHead
  | effect
  | binding (after : Gap) (clause : ImportClause) (before : Gap)

namespace ImportHead

/-- The characters of what an import says before its source. -/
def chars : ImportHead → List Char
  | .effect => []
  | .binding after clause before =>
    after.chars ++ clause.chars ++ before.chars ++ "from".toList

/-- The names that an import binds. -/
def names : ImportHead → List String
  | .effect => []
  | .binding _ clause _ => clause.names

end ImportHead

/-- What a re-export names. -/
inductive ExportHead
  | all
  | whole (name : Identifier)
  | list (elements : Braced ExportName)

namespace ExportHead

/-- The characters of what a re-export names; there are single spaces outside the braces. -/
def chars : ExportHead → List Char
  | .all => ['*']
  | .whole name => "* as ".toList ++ name.chars
  | .list elements => elements.chars ExportName.chars

/-- The names that are re-exported. -/
def names : ExportHead → List String
  | .all => []
  | .whole name => [name.text]
  | .list elements => elements.bound.map ExportName.text

end ExportHead

/-- A declaration that names a module. -/
inductive ModuleItem
  | importing (head : ImportHead) (gap : Gap) (source : Literal)
  | exporting (head : ExportHead) (source : Literal)

namespace ModuleItem

/-- The characters of a declaration up to its source. -/
def chars : ModuleItem → List Char
  | .importing head gap source => "import".toList ++ head.chars ++ gap.chars ++ source.chars
  | .exporting head source =>
    "export ".toList ++ head.chars ++ " from ".toList ++ source.chars

def kind : ModuleItem → DeclarationKind
  | .importing .. => .importing
  | .exporting .. => .exporting

/-- The module that a declaration names. -/
def source : ModuleItem → Literal
  | .importing _ _ source => source
  | .exporting _ source => source

/-- The names that a declaration binds or re-exports. -/
def names : ModuleItem → List String
  | .importing head _ _ => head.names
  | .exporting head _ => head.names

end ModuleItem

/-- A comment: to the end of the line, or between its marks. -/
inductive Comment
  | line (text : List Char) (printable : ∀ c ∈ text, isPrintable c = true)
  | block (text : List Char) (printable : ∀ c ∈ text, isPrintable c = true ∨ c = '\n')
      (unended : ¬ "*/".toList <:+: text)

/-- The characters of a comment. -/
def Comment.chars : Comment → List Char
  | .line text _ => "//".toList ++ text
  | .block text _ _ => "/*".toList ++ text ++ "*/".toList

/-- An item of a module. A declaration is ended by a semicolon, with blanks before it or none. -/
inductive Item
  | declaration (item : ModuleItem) (ending : List Blank)
  | comment (c : Comment)

/-- The characters of an item; a line feed ends it. -/
def Item.chars : Item → List Char
  | .declaration item ending => item.chars ++ layout ending ++ [';', '\n']
  | .comment c => c.chars ++ ['\n']

/-- The text of some items. -/
def textOf (items : List Item) : String :=
  String.ofList (items.flatMap Item.chars)

/-! ## What is declared -/

/-- What a declaration says: its kind, its line, the module it names, and its names. -/
structure Declared where
  kind : DeclarationKind
  line : Nat
  specifier : Option String
  names : List String
deriving DecidableEq, Repr

/-- What a node declares, if it is a declaration. -/
def Tree.declared? (t : Tree) : Option Declared :=
  t.declarationKind?.map fun kind =>
    { kind, line := t.line, specifier := t.specifier?, names := t.boundNames }

/-- What a declaration says that starts on a line. -/
def ModuleItem.declared (line : Nat) (item : ModuleItem) : Declared :=
  { kind := item.kind, line, specifier := some item.source.text, names := item.names }

/-- What an item declares that starts on a line. -/
def Item.declared? (line : Nat) : Item → Option Declared
  | .declaration item _ => some (item.declared line)
  | .comment _ => none

/-- What some items declare, the first of which starts on a line. -/
def declaredFrom : Nat → List Item → List Declared
  | _, [] => []
  | line, item :: items =>
    (item.declared? line).toList ++ declaredFrom (line + item.chars.count '\n') items

end PackageUsage.Source
