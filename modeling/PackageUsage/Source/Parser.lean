import PackageUsage.Source.Lexeme
import PackageUsage.Source.Tree

/-!
# Parsers

A parser reads lexemes from a state and either is done, with a new state, or refuses. Children of
the node under construction are collected in the state, so a rule is written as a plain sequence
of what it expects. Every refusal is compared with the refusals before it, and the one that got
furthest into the text is kept: that is where a faulty text is repaired.

A parse may be made under a list of repairs: stretches of text to skip, and lexemes to suppose.
-/

namespace PackageUsage.Source

inductive Repair where
  /-- The text from one place to another is held by an error node. -/
  | skip (start stop : Cursor)
  /-- A lexeme is supposed at a place. -/
  | suppose (place : Cursor) (kind : LexemeKind)
  /-- The word that follows a place is taken in one way only. -/
  | read (place : Cursor) (reading : WordReading)
deriving Repr, Inhabited

/-- A symbol that has been read and not yet been taken into a larger one. -/
structure Mark where
  start : Cursor
  /-- The number of symbols that stand for themselves in it. -/
  weight : Nat := 1
deriving Repr, Inhabited

def Mark.total : List Mark → Nat
  | [] => 0
  | m :: ms => m.weight + total ms

/-- The refusal that got furthest. -/
structure Reach where
  /-- The lexeme that was refused. -/
  lexeme : Lexeme
  /-- Where the lexeme before it ends. -/
  previous : Cursor
  /-- The symbols read before it, the last one first. -/
  marks : List Mark
  /-- The lexemes that would have completed a rule here. -/
  wanted : List LexemeKind
  /-- How the refused word had been taken. -/
  reading : WordReading := .identifier
deriving Repr, Inhabited

/-- Of two refusals the one further on; refusals of one lexeme are joined. -/
def Reach.join (old new : Reach) : Reach :=
  if old.lexeme.start.offset < new.lexeme.start.offset then new
  else if old.lexeme.start.offset = new.lexeme.start.offset then
    let marks := if old.marks.length < new.marks.length then new.marks else old.marks
    { old with
      marks, wanted := old.wanted ++ new.wanted.filter fun k => !old.wanted.contains k }
  else old

structure Context where
  dialect : Dialect
  /-- A bound on the length of every list of the text. -/
  fuel : Nat
  /-- The end of a line may end the statement being read. -/
  lineEnds : Bool := true
  /-- The word `in` is no operator here. -/
  noIn : Bool := false
  /-- A colon after a parenthesis starts no result type. -/
  noResultType : Bool := false
  /-- A question mark after a type belongs to a condition around it. -/
  noCondition : Bool := false
  inFunction : Bool := false
  inAsync : Bool := true
  inGenerator : Bool := false
  /-- The declarations are ambient: they have no bodies and no values. -/
  ambient : Bool := false
  /-- The statement is an alternative of a `switch`. -/
  inSwitch : Bool := false
deriving Repr, Inhabited

structure State where
  lexeme : Lexeme
  /-- Where the lexeme read last ends. -/
  previous : Cursor
  /-- The children of the node under construction, the last one first. -/
  out : List Tree
  /-- The symbols read, the last one first. -/
  marks : List Mark
  /-- The symbols as they stood when the last lexeme had been read, before any was taken into a
  larger one. -/
  shifted : List Mark := []
  /-- How the next word is taken where it is refused. -/
  reading : WordReading := .identifier
  reach : Reach
  /-- The repairs still to be made. -/
  repairs : List Repair
  /-- The names exported so far, the last one first. -/
  exported : List String := []
  /-- The names bound by patterns so far, the last one first. -/
  bound : List String := []
deriving Inhabited

inductive Step (α : Type) where
  | done (value : α) (state : State)
  | refused (reach : Reach)

def Parser (α : Type) : Type :=
  Context → State → Step α

namespace Parser

variable {α β : Type}

@[inline] def give (a : α) : Parser α :=
  fun _ s => .done a s

@[inline] def andThen (p : Parser α) (f : α → Parser β) : Parser β :=
  fun e s =>
    match p e s with
    | .done a s => f a e s
    | .refused r => .refused r

instance : Monad Parser where
  pure := give
  bind := andThen

/-- Reads with the first parser and, where it refuses, with the second from the same place. -/
@[inline] def orTry (p q : Parser α) : Parser α :=
  fun e s =>
    match p e s with
    | .done a s => .done a s
    | .refused r => q e { s with reach := r }

instance : OrElse (Parser α) where
  orElse p q := orTry p (q ())

/-- Refuses the next lexeme; the lexemes in the list would have completed a rule. -/
def refuse (wanted : List LexemeKind := []) : Parser α :=
  fun _ s =>
    .refused (s.reach.join
      { lexeme := s.lexeme, previous := s.previous, marks := s.shifted, wanted,
        reading := s.reading })

def context : Parser Context :=
  fun e s => .done e s

@[inline] def within (f : Context → Context) (p : Parser α) : Parser α :=
  fun e s => p (f e) s

def look : Parser Lexeme :=
  fun _ s => .done s.lexeme s

def lookAfter : Parser Lexeme :=
  fun e s => .done (Source.lexeme e.dialect s.lexeme.stop) s

def test (p : Parser α) : Parser Bool :=
  fun e s =>
    match p e s with
    | .done _ _ => .done true s
    | .refused _ => .done false s

def guard (condition : Bool) : Parser Unit :=
  if condition then give () else refuse

/-- Refuses, in a strict dialect, unless the condition holds. -/
def require (condition : Bool) : Parser Unit :=
  fun e s => if condition || !e.dialect.strict then .done () s else refuse [] e s

end Parser

def errorNode (start : Cursor) : Tree :=
  .node { kind := .error, line := start.line, column := start.column } []

/-- The next lexeme under a list of repairs, with the repairs that remain and the nodes of the text
skipped on the way, the last one first. -/
def lexemeWith (d : Dialect) : List Repair → Cursor → List Tree → Lexeme × List Repair × List Tree
  | [], c, out => (lexeme d c, [], out)
  | .suppose place kind :: rest, c, out =>
    if place.offset = c.offset then
      ({ kind, start := c, stop := c, missing := true }, rest, out)
    else (lexeme d c, .suppose place kind :: rest, out)
  | .read place reading :: rest, c, out =>
    if place.offset = c.offset then
      let (l, rest, out) := lexemeWith d rest c out
      ({ l with reading }, rest, out)
    else (lexeme d c, .read place reading :: rest, out)
  | .skip start stop :: rest, c, out =>
    let l := lexeme d c
    if start.offset = l.start.offset then lexemeWith d rest stop (errorNode start :: out)
    else (l, .skip start stop :: rest, out)

namespace Parser

variable {α : Type}

/-- Goes on reading at a place behind the next lexeme. -/
def jump (c : Cursor) : Parser Unit :=
  fun e s =>
    let (l, repairs, out) := lexemeWith e.dialect s.repairs c s.out
    .done () { s with
      lexeme := l, previous := c, out, repairs
      marks := { start := s.lexeme.start } :: s.marks
      shifted := { start := s.lexeme.start } :: s.marks
      reading := .identifier }

/-- Reads the next lexeme, whatever it is. -/
def bump : Parser Unit :=
  fun e s =>
    let out := if s.lexeme.missing then
      .node { kind := .other, missing := true, line := s.lexeme.start.line,
              column := s.lexeme.start.column } [] :: s.out
      else s.out
    let (l, repairs, out) := lexemeWith e.dialect s.repairs s.lexeme.stop out
    .done () { s with
      lexeme := l, previous := s.lexeme.stop, out, repairs
      marks := { start := s.lexeme.start } :: s.marks
      shifted := { start := s.lexeme.start } :: s.marks
      reading := .identifier }

def leaf (kind : NodeKind) (role : Option Role := none) : Parser Unit :=
  fun e s =>
    let l := s.lexeme
    let out := .node { kind, role, missing := l.missing, text := l.text, line := l.start.line,
                       column := l.start.column } [] :: s.out
    let (next, repairs, out) := lexemeWith e.dialect s.repairs l.stop out
    .done () { s with
      lexeme := next, previous := l.stop, out, repairs
      marks := { start := l.start } :: s.marks
      shifted := { start := l.start } :: s.marks
      reading := .identifier }

/-- The marks of a symbol made of all that was read since there were `depth` marks. -/
def closeMarks (depth : Nat) (weigh : List Mark → Nat) (marks : List Mark) : List Mark :=
  let fresh := marks.take (marks.length - depth)
  match fresh.getLast? with
  | none => marks
  | some first => { start := first.start, weight := weigh fresh } :: marks.drop fresh.length

def symbol (p : Parser α) : Parser α :=
  fun e s =>
    match p e s with
    | .done a s' => .done a { s' with marks := closeMarks s.marks.length (fun _ => 1) s'.marks }
    | .refused r => .refused r

/-- Reads a run of symbols that stands on its own only through its members. -/
def run (p : Parser α) : Parser α :=
  fun e s =>
    match p e s with
    | .done a s' =>
      .done a { s' with marks := closeMarks s.marks.length Mark.total s'.marks }
    | .refused r => .refused r

/-- Takes all that a parser reads for one symbol at once where the word that follows shows that the
symbol is complete. -/
def settledBefore (words : List String) (p : Parser α) : Parser α :=
  fun e s =>
    match symbol p e s with
    | .done a s' =>
      if words.any fun w => s'.lexeme.kind == .word w then
        .done a { s' with shifted := s'.marks, reading := .keyword }
      else .done a s'
    | .refused r => .refused r

/-- Reads one symbol into a node whose kind the parser gives. -/
def nodeOf (p : Parser NodeKind) : Parser Unit :=
  fun e s =>
    match symbol p e { s with out := [] } with
    | .done kind s' =>
      let info : NodeInfo := { kind, line := s.lexeme.start.line, column := s.lexeme.start.column }
      .done () { s' with out := .node info s'.out.reverse :: s.out }
    | .refused r => .refused r

def node (kind : NodeKind) (p : Parser Unit) : Parser Unit :=
  nodeOf (andThen p fun _ => give kind)

def atMark (text : String) : Parser Bool :=
  fun _ s => .done (s.lexeme.kind == .mark text) s

/-- Whether the next lexeme is a word that may be taken as the given keyword. -/
def atWord (text : String) : Parser Bool :=
  fun _ s => .done (s.lexeme.kind == .word text && s.lexeme.reading != .identifier) s

def mark (text : String) : Parser Unit :=
  fun e s => if s.lexeme.kind == .mark text then bump e s else refuse [] e s

/-- Reads a mark that completes a rule, and so may be supposed. -/
def closing (text : String) : Parser Unit :=
  fun e s => if s.lexeme.kind == .mark text then bump e s else refuse [.mark text] e s

def keyword (text : String) : Parser Unit :=
  andThen (atWord text) fun here => if here then bump else refuse

def optionalMark (text : String) : Parser Bool :=
  andThen (atMark text) fun here => if here then andThen bump fun _ => give true else give false

def optionalWord (text : String) : Parser Bool :=
  andThen (atWord text) fun here => if here then andThen bump fun _ => give true else give false

/-- Repeats a parser as long as it gives `true`; the fuel bounds the number of turns. -/
def turns (p : Parser Bool) : Nat → Parser Unit
  | 0 => refuse
  | fuel + 1 => andThen p fun more => if more then turns p fuel else give ()

def whileTrue (p : Parser Bool) : Parser Unit :=
  fun e s => turns p e.fuel e s

/-- Repeats a parser as long as it gives `true`; what all turns have read is one run of symbols
that were read since there were `depth` marks. -/
def gatherTurns (depth : Nat) (p : Parser Bool) : Nat → Parser Unit
  | 0 => refuse
  | fuel + 1 => fun e s =>
    match p e s with
    | .done true s' =>
      gatherTurns depth p fuel e { s' with marks := closeMarks depth Mark.total s'.marks }
    | .done false s' => .done () s'
    | .refused r => .refused r

/-- Repeats a parser as long as it gives `true`, and takes what the turns have read together. -/
def many (p : Parser Bool) : Parser Unit :=
  fun e s => gatherTurns s.marks.length p e.fuel e s

def noteExport (name : String) : Parser Unit :=
  fun _ s => .done () { s with exported := name :: s.exported }

def noteBound (name : String) : Parser Unit :=
  fun _ s => .done () { s with bound := name :: s.bound }

/-- Reads what binds its names only for itself. -/
def locally (p : Parser α) : Parser α :=
  fun e s =>
    match p e s with
    | .done a s' => .done a { s' with bound := s.bound }
    | .refused r => .refused r

def boundBy (p : Parser Unit) : Parser (List String) :=
  fun e s =>
    match p e { s with bound := [] } with
    | .done _ s' => .done s'.bound { s' with bound := s'.bound ++ s.bound }
    | .refused r => .refused r

end Parser

end PackageUsage.Source
