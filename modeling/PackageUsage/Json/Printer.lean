import PackageUsage.Json.Basic

/-!
# Printing JSON

Two layouts: on one line without blanks, and indented by two spaces with one member a line. In
both, the characters below U+0020, the quote and the backslash are escaped, by their short escape
when they have one, and every other character is written as it is.
-/

namespace PackageUsage.Json

/-- The digit of a number below 16, in lower case. -/
def hexDigit (n : Nat) : Char :=
  if n < 10 then Char.ofNat (48 + n) else Char.ofNat (87 + n)

def escapeChar (c : Char) : List Char :=
  if c = '"' then ['\\', '"']
  else if c = '\\' then ['\\', '\\']
  else if c = '\n' then ['\\', 'n']
  else if c = '\r' then ['\\', 'r']
  else if c = '\t' then ['\\', 't']
  else if c.toNat = 8 then ['\\', 'b']
  else if c.toNat = 12 then ['\\', 'f']
  else if c.toNat < 32 then
    ['\\', 'u', '0', '0', hexDigit (c.toNat / 16), hexDigit (c.toNat % 16)]
  else [c]

def quote (s : List Char) : List Char :=
  '"' :: s.flatMap escapeChar ++ ['"']

def numberChars : Json → List Char
  | .int n => (toString n).toList
  | .decimal negative mantissa exponent =>
    (if negative then ['-'] else []) ++ (toString mantissa).toList ++ ['e'] ++
      (toString exponent).toList
  | _ => []

def joinWith (sep : List Char) : List (List Char) → List Char
  | [] => []
  | [x] => x
  | x :: y :: rest => x ++ sep ++ joinWith sep (y :: rest)

mutual

/-- The value on one line. -/
def compactChars : Json → List Char
  | .null => "null".toList
  | .bool true => "true".toList
  | .bool false => "false".toList
  | .int n => numberChars (.int n)
  | .decimal s m e => numberChars (.decimal s m e)
  | .str s => quote s.toList
  | .arr items => '[' :: joinWith [','] (compactItems items) ++ [']']
  | .obj members => '{' :: joinWith [','] (compactMembers members) ++ ['}']

def compactItems : List Json → List (List Char)
  | [] => []
  | v :: rest => compactChars v :: compactItems rest

def compactMembers : List (String × Json) → List (List Char)
  | [] => []
  | (k, v) :: rest => (quote k.toList ++ ':' :: compactChars v) :: compactMembers rest

end

def newline (level : Nat) : List Char :=
  '\n' :: List.replicate (2 * level) ' '

mutual

/-- The indented value at a level of nesting. -/
def prettyChars (level : Nat) : Json → List Char
  | .null => "null".toList
  | .bool true => "true".toList
  | .bool false => "false".toList
  | .int n => numberChars (.int n)
  | .decimal s m e => numberChars (.decimal s m e)
  | .str s => quote s.toList
  | .arr [] => ['[', ']']
  | .arr (v :: rest) =>
    '[' :: newline (level + 1) ++
      joinWith (',' :: newline (level + 1)) (prettyItems (level + 1) (v :: rest)) ++
      newline level ++ [']']
  | .obj [] => ['{', '}']
  | .obj (m :: rest) =>
    '{' :: newline (level + 1) ++
      joinWith (',' :: newline (level + 1)) (prettyMembers (level + 1) (m :: rest)) ++
      newline level ++ ['}']

def prettyItems (level : Nat) : List Json → List (List Char)
  | [] => []
  | v :: rest => prettyChars level v :: prettyItems level rest

def prettyMembers (level : Nat) : List (String × Json) → List (List Char)
  | [] => []
  | (k, v) :: rest =>
    (quote k.toList ++ [':', ' '] ++ prettyChars level v) :: prettyMembers level rest

end

def compact (v : Json) : String :=
  String.ofList (compactChars v)

/-- The value indented by two spaces a level. -/
def pretty (v : Json) : String :=
  String.ofList (prettyChars 0 v)

end PackageUsage.Json
