/-!
# Cursors

A place in a source text: the characters still to be read, and where they start. Offsets and
columns count the bytes of UTF-8; lines and columns are counted from 0, and only a line feed ends
a line.
-/

namespace PackageUsage.Source

/-- A place in a source text. -/
structure Cursor where
  /-- The characters still to be read. -/
  rest : List Char
  /-- The bytes before this place. -/
  offset : Nat := 0
  /-- The line feeds before this place. -/
  line : Nat := 0
  /-- The bytes since the last line feed. -/
  column : Nat := 0
deriving Repr, Inhabited, DecidableEq

namespace Cursor

def ofText (text : String) : Cursor :=
  { rest := text.toList }

/-- The place after the character `ch`, where `rest` remains. -/
def step (c : Cursor) (ch : Char) (rest : List Char) : Cursor :=
  if ch = '\n' then { rest, offset := c.offset + 1, line := c.line + 1, column := 0 }
  else
    let width := ch.utf8Size
    { rest, offset := c.offset + width, line := c.line, column := c.column + width }

/-- The place after the next character, if there is one. -/
def next (c : Cursor) : Cursor :=
  match c.rest with
  | [] => c
  | ch :: rest => c.step ch rest

def peek? (c : Cursor) : Option Char :=
  c.rest.head?

/-- The place after the longest run of characters that satisfy `p`. -/
def skipWhile (p : Char → Bool) (c : Cursor) : Cursor :=
  go c.rest c
where
  /-- Walks over the characters `cs` that remain at the cursor. -/
  go : List Char → Cursor → Cursor
    | [], c => c
    | ch :: rest, c => if p ch then go rest (c.step ch rest) else c

/-- The place after `count` characters. -/
def skip : Nat → Cursor → Cursor
  | 0, c => c
  | count + 1, c => skip count c.next

def startsWith (c : Cursor) (text : String) : Bool :=
  text.toList.isPrefixOf c.rest

/-- The characters that make up the first `bytes` bytes. -/
def takeBytes : Nat → List Char → List Char
  | 0, _ => []
  | _, [] => []
  | bytes + 1, ch :: rest => ch :: takeBytes (bytes + 1 - ch.utf8Size) rest

/-- The text from one place up to a later one. -/
def textTo (start stop : Cursor) : String :=
  String.ofList (takeBytes (stop.offset - start.offset) start.rest)

end Cursor

end PackageUsage.Source
