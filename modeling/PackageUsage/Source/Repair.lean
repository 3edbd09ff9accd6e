import PackageUsage.Source.Grammar

/-!
# Repairs of faulty texts

Where a text is refused, several ways to go on are followed side by side, lexeme by lexeme: to
suppose a lexeme that completes a rule, or to skip what was read back to some symbol together with
the lexemes that follow, up to one that fits there. Every repair has a cost, a way that is clearly
worse than another is given up, and of the ways that reach the end of the text the cheapest is
taken. The result is a tree for every text.
-/

namespace PackageUsage.Source

namespace Cost

/-- The cost of an error node. -/
def recovery : Nat := 500

/-- The cost of a lexeme that is supposed. -/
def missing : Nat := 110 + recovery

/-- The cost of each symbol in an error node. -/
def skippedSymbol : Nat := 100

/-- The cost of each line in an error node. -/
def skippedLine : Nat := 30

/-- The difference from which on the dearer of two ways is given up. -/
def clearDifference : Nat := 18 * skippedSymbol

/-- The cost of an error node that holds some symbols between two places. -/
def skip (symbols : Nat) (start stop : Cursor) : Nat :=
  recovery + skippedSymbol * symbols + (stop.offset - start.offset) +
    skippedLine * (stop.line - start.line)

end Cost

/-- The number of symbols that are looked back over. -/
def lookBack : Nat := 16

/-- The number of ways followed side by side. -/
def breadth : Nat := 6

/-- The lexemes skipped since a refusal. -/
structure Skipped where
  reach : Reach
  count : Nat := 0
  /-- Where the first of them starts. -/
  start : Cursor
  /-- Where the last of them ends. -/
  stop : Cursor

inductive Stage where
  /-- It reads on; the outcome says how far. -/
  | reading (outcome : Step Unit)
  /-- It skips lexemes. -/
  | skipping (skipped : Skipped)

structure Way where
  /-- The repairs made, in the order of the text. -/
  repairs : List Repair
  cost : Nat
  /-- The number of the lexeme at which the last repair was made. -/
  since : Nat
  stage : Stage

/-- A way that has reached the end of the text. -/
structure Ending where
  cost : Nat
  tree : Tree

/-- The text to be repaired, with its dialect. -/
structure Job where
  dialect : Dialect
  start : Cursor

namespace Job

def read (job : Job) (repairs : List Repair) : Step Unit :=
  Grammar.read job.dialect job.start repairs

/-- Whether the text is accepted beyond a lexeme under some repairs. -/
def accepts (job : Job) (repairs : List Repair) (l : Lexeme) : Bool :=
  match job.read repairs with
  | .done _ _ => true
  | .refused r => l.start.offset < r.lexeme.start.offset

/-- Supposed lexemes are tried in this order. -/
def supposable : List LexemeKind :=
  [.word "", .mark "\x7d", .mark ";", .mark ")", .mark "]", .mark ">"]

/-- The way on from a refusal with a supposed lexeme, if one completes a rule there. -/
def suppose? (job : Job) (repairs : List Repair) (cost index : Nat) (r : Reach) : Option Way :=
  let fits (kind : LexemeKind) : Bool :=
    r.wanted.contains kind &&
      job.accepts (repairs ++ [.suppose r.previous kind, .read r.previous .identifier]) r.lexeme
  (supposable.find? fits).map fun kind =>
    let repairs := repairs ++ [.suppose r.previous kind]
    { repairs, cost := cost + Cost.missing, since := index, stage := .reading (job.read repairs) }

/-- The places to go back to from a refusal: the nearest first, each with the number of symbols
that are skipped with it. A place behind the skipped text is none of them: where refusals of one
lexeme are joined, symbols of the one may start in what the other takes for a comment. -/
def places (s : Skipped) : List (Cursor × Nat) :=
  let own := if s.count = 0 then [] else [(s.start, 0)]
  (own ++ backwards (s.reach.marks.take lookBack) 0).filter fun p => p.1.offset ≤ s.stop.offset
where
  /-- The starts of the symbols read before, with the symbols up to each. -/
  backwards : List Mark → Nat → List (Cursor × Nat)
    | [], _ => []
    | m :: rest, symbols => (m.start, symbols + m.weight) :: backwards rest (symbols + m.weight)

/-- The way on from the nearest place at which a lexeme fits. -/
def recover? (job : Job) (repairs : List Repair) (cost index : Nat) (s : Skipped) (l : Lexeme)
    (reading : WordReading) (worse : Nat → Bool) : Option Way :=
  go (places s)
where
  /-- Tries the places in turn, until one fits or is too dear. -/
  go : List (Cursor × Nat) → Option Way
    | [] => none
    | (start, symbols) :: rest =>
      let total := cost + Cost.skip (symbols + s.count) start s.stop
      if worse total then none
      else
        let made := repairs ++ [.skip start s.stop]
        if job.accepts (made ++ [.read s.stop reading]) l then
          some { repairs := made, cost := total, since := index, stage := .reading (job.read made) }
        else go rest

end Job

inductive Comparison where
  | takeLeft
  | preferLeft
  | equal
  | preferRight
  | takeRight
deriving DecidableEq, Repr, Inhabited

structure Standing where
  cost : Nat
  /-- It has been refused, or is skipping. -/
  faulty : Bool
  /-- The lexemes read since the last repair. -/
  progress : Nat
deriving Repr, Inhabited

def Standing.compare (a b : Standing) : Comparison :=
  if !a.faulty && b.faulty then if a.cost < b.cost then .takeLeft else .preferLeft
  else if a.faulty && !b.faulty then if b.cost < a.cost then .takeRight else .preferRight
  else if a.cost < b.cost then
    if (b.cost - a.cost) * (1 + a.progress) > Cost.clearDifference then .takeLeft else .preferLeft
  else if b.cost < a.cost then
    if (a.cost - b.cost) * (1 + b.progress) > Cost.clearDifference then .takeRight
    else .preferRight
  else .equal

namespace Way

/-- Whether a way has been refused before the end of a lexeme. -/
def refusedAt? (w : Way) (l : Lexeme) : Option Reach :=
  match w.stage with
  | .reading (.refused r) => if r.lexeme.start.offset ≤ l.start.offset then some r else none
  | _ => none

def standing (w : Way) (index : Nat) (l : Lexeme) : Standing :=
  match w.stage with
  | .skipping s =>
    { cost := w.cost + (if s.count = 0 then Cost.recovery else Cost.skip s.count s.start s.stop)
      faulty := true, progress := if s.count = 0 then 0 else s.count + 1 }
  | .reading _ =>
    if (w.refusedAt? l).isSome then
      { cost := w.cost + Cost.recovery + Cost.skippedSymbol, faulty := true
        progress := index - w.since }
    else { cost := w.cost, faulty := false, progress := index - w.since }

/-- Takes a way into a list of ways that is ordered from the best: ways that are clearly worse than
another are given up. -/
def insert (index : Nat) (l : Lexeme) (w : Way) : List Way → List Way
  | [] => [w]
  | best :: rest =>
    match (best.standing index l).compare (w.standing index l) with
    | .takeLeft => best :: rest
    | .takeRight => insert index l w rest
    | .preferRight => w :: best :: rest
    | _ => best :: insert index l w rest

/-- The ways worth following, from the best. -/
def condense (index : Nat) (l : Lexeme) (ways : List Way) : List Way :=
  (ways.foldl (fun kept w => insert index l w kept) []).take breadth

end Way

structure Search where
  ending : Option Ending := none
  ways : List Way := []

namespace Search

/-- Takes an ending, unless a cheaper one is known. -/
def finish (s : Search) (e : Ending) : Search :=
  match s.ending with
  | some known => if known.cost < e.cost then s else { s with ending := some e }
  | none => { s with ending := some e }

/-- Whether some way that has come as far is clearly better than a cost. -/
def worse (s : Search) (others : List Way) (index : Nat) (l : Lexeme) (cost : Nat) : Bool :=
  (s.ending.any fun e => e.cost ≤ cost) ||
    others.any fun w =>
      let mine : Standing := { cost, faulty := false, progress := 0 }
      mine.compare (w.standing index l) == .takeRight

def add (s : Search) (w : Way) : Search :=
  { s with ways := s.ways ++ [w] }

/-- The tree in which all of the text is one error. -/
def allError (root : Lexeme) : Tree :=
  .node { kind := .error, line := root.start.line, column := root.start.column } []

/-- Goes on with a way that skips, at a lexeme: back to a place where the lexeme fits, and also on
over the lexeme. -/
def skipOn (job : Job) (first : Lexeme) (search : Search) (others : List Way) (index : Nat)
    (w : Way) (s : Skipped) (l : Lexeme) (reading : WordReading) : Search :=
  let worse := search.worse others index l
  let recovered := job.recover? w.repairs w.cost index s l reading worse
  if l.kind == .endOfText then
    let search :=
      match recovered with
      | some way => search.add way
      | none => search
    let symbols := Mark.total s.reach.marks + s.count
    search.finish
      { cost := w.cost + Cost.skip symbols first.start s.stop, tree := allError first }
  else
    let start := if s.count = 0 then l.start else s.start
    let skipped : Skipped := { s with count := s.count + 1, start, stop := l.stop }
    let cost := w.cost + Cost.skip skipped.count start l.stop
    let search :=
      if worse cost then search
      else search.add { w with since := index, stage := .skipping skipped }
    match recovered with
    | some way => search.add way
    | none => search

/-- Starts to repair a way at its refusal. -/
def repair (job : Job) (first : Lexeme) (search : Search) (others : List Way) (index : Nat)
    (w : Way) (r : Reach) : Search :=
  let supposed := job.suppose? w.repairs w.cost index r
  let skipped : Skipped := { reach := r, start := r.lexeme.start, stop := r.previous }
  let others := others ++ supposed.toList
  let l := skippedLexeme job.dialect r.lexeme.start
  let search := skipOn job first search others index w skipped l r.reading
  match supposed with
  | some way => search.add way
  | none => search

/-- The tree of a way that has read the whole text. -/
def treeOf (s : State) : Tree :=
  .node { kind := .program } s.out.reverse

/-- Takes all ways over one lexeme. -/
def round (job : Job) (first : Lexeme) (index : Nat) (l : Lexeme) (search : Search) : Search :=
  -- ways that skip go on, ways that read wait where they are refused
  let moved := search.ways.foldl (fun (acc : Search) w =>
      match w.stage with
      | .skipping s =>
        let others := search.ways.filter fun o => o.since != w.since || o.cost != w.cost
        skipOn job first acc others index w s l .keyword
      | .reading (.done _ state) =>
        if l.kind == .endOfText then acc.finish { cost := w.cost, tree := treeOf state }
        else acc.add w
      | .reading (.refused _) => acc.add w)
    { ending := search.ending }
  let kept := Way.condense index l moved.ways
  -- the best way is repaired where it is refused; other refused ways are given up
  match kept with
  | [] => { moved with ways := [] }
  | best :: rest =>
    let others := rest.filter fun w => (w.refusedAt? l).isNone
    match best.refusedAt? l with
    | none => { moved with ways := best :: others }
    | some r =>
      let repaired := repair job first { ending := moved.ending } others index best r
      { repaired with ways := repaired.ways ++ others }

/-- Follows the ways over the lexemes of the text; the fuel bounds the number of lexemes. -/
def follow (job : Job) (first : Lexeme) : Nat → Nat → Lexeme → Search → Search
  | 0, _, _, search => search
  | fuel + 1, index, l, search =>
    let search := round job first index l search
    if search.ways.isEmpty then search
    else if l.kind == .endOfText then
      -- ways recovered at the end have read the whole text
      search.ways.foldl (fun (acc : Search) w =>
        match w.stage with
        | .reading (.done _ state) => acc.finish { cost := w.cost, tree := treeOf state }
        | _ => acc) { search with ways := [] }
    else follow job first fuel (index + 1) (skippedLexeme job.dialect l.stop) search

end Search

def treeOfText (language : Language) (text : String) : Tree :=
  let job : Job := { dialect := Dialect.tolerant language, start := Cursor.ofText text }
  match job.read [] with
  | .done _ state => Search.treeOf state
  | .refused r =>
    let first := lexeme job.dialect job.start
    let way : Way := { repairs := [], cost := 0, since := 0, stage := .reading (.refused r) }
    let search := Search.follow job first (text.length + 2) 0 r.lexeme { ways := [way] }
    match search.ending with
    | some e => e.tree
    | none => Search.allError first

end PackageUsage.Source
