import PackageUsage.Toml.Reader

/-!
# Settings documents

The entries and headers of a settings file, and the table that they build up line by line. Recursion
into values is bounded by the depth to which the format lets them be nested.
-/

namespace PackageUsage.Toml

open Reader

/-! ## Tables by dotted keys -/

/-- Adds a value under a dotted key to the entries of an inline table. `whole` is the key without
its last part, of which `seen` parts have been followed. -/
def addInline (whole : List String) (seen : Nat) (v : Value) (last : String) :
    List String → List (String × Value) → Except Cause (List (String × Value))
  | [], entries =>
    match lookup? last entries with
    | some _ => .error (.duplicateKey last none)
    | none => .ok (put last v entries)
  | k :: path, entries =>
    match lookup? k entries with
    | none => do
      let inner ← addInline whole (seen + 1) v last path []
      return put k (.inlineTable true inner) entries
    | some (.inlineTable true inner) => do
      let inner ← addInline whole (seen + 1) v last path inner
      return put k (.inlineTable true inner) entries
    | some (.inlineTable false _) => .error (.duplicateKey k none)
    | some other => .error (.extendsOther (whole.take (seen + 1)) other.kind)

/-- The inline table of some entries in order. -/
def inlineTableOf (entries : List (List String × Value)) : Except Cause Value := do
  let built ← entries.foldlM (fun built (path, v) =>
    let parents := path.dropLast
    addInline parents 0 v (path.getLast?.getD "") parents built) []
  return .inlineTable false built

/-- Changes the table at the end of a path below a table, making the tables on the way that are
missing. `dotted` tells whether the path is part of a key rather than of a header. -/
def editAt (dotted : Bool) (whole : List String) (edit : Table → Except Cause Table) (seen : Nat) :
    List String → Table → Except Cause Table
  | [], t => edit t
  | k :: path, t =>
    match lookup? k t.entries with
    | none => do
      let inner ←
        editAt dotted whole edit (seen + 1) path { isImplicit := true, isDotted := dotted }
      return { t with entries := put k (.table inner) t.entries }
    | some (.value v) => .error (.extendsOther (whole.take (seen + 1)) v.kind)
    | some (.tables ts) =>
      match ts.getLast? with
      | none => .error (.duplicateKey k none)
      | some child => do
        let inner ← editAt dotted whole edit (seen + 1) path child
        return { t with entries := put k (.tables (ts.dropLast ++ [inner])) t.entries }
    | some (.table child) =>
      if dotted && !child.isImplicit then .error (.duplicateKey k none)
      else do
        let inner ← editAt dotted whole edit (seen + 1) path child
        return { t with entries := put k (.table inner) t.entries }

/-! ## Values -/

/-- What a word that is no value is reported as. -/
def likeString {α : Type} (p : Reader α) : Reader α :=
  expecting ["`\"`", "`'`"] (labelled "string" p)

/-- A reader that fails where its construct would be nested too deeply. -/
def tooDeep {α : Type} : Reader α :=
  committed (refuseFor .tooDeep)

def arrayItem (value : Reader Value) : Reader Value := do
  gap
  let v ← value
  gap
  return v

def array (value : Reader Value) : Reader Value := do
  let _ ← char '['
  let items ← committed do
    let items ← separated (arrayItem value) (char ',')
    if !items.isEmpty then
      let _ ← optional (char ',')
    gap
    return items
  let _ ← expecting ["`]`"] (labelled "array" (committed (char ']')))
  return .array items

def inlineTable (value : Reader Value) : Reader Value := do
  let _ ← char '\x7b'
  let entry : Reader (List String × Value) := do
    let path ← key
    let v ← committed do
      equalsSign
      blanks
      let v ← value
      blanks
      return v
    return (path, v)
  let table ← committed do
    let entries ← separated entry (char ',')
    blanks
    match inlineTableOf entries with
    | .ok table => return table
    | .error cause => refuseFor cause
  let _ ← expecting ["`\x7d`"] (labelled "inline table" (committed (char '\x7d')))
  return table

def valueWith (array inlineTable : Reader Value) : Reader Value := do
  match ← next? with
  | none => refuse
  | some '"' | some '\'' => return .string (← string)
  | some '[' => array
  | some '{' => inlineTable
  | some 't' => likeString do
    committed (word ['t', 'r', 'u', 'e'])
    return .boolean true
  | some 'f' => likeString do
    committed (word ['f', 'a', 'l', 's', 'e'])
    return .boolean false
  | some 'i' => likeString do
    infinity
    return .real (.infinite false)
  | some 'n' => likeString do
    nan
    return .real .notANumber
  | some '_' => expecting ["leading digit"] do return .integer (← integer)
  | some '.' => expecting ["leading digit"] do return .real (← real)
  | some c =>
    if c.isDigit || c == '+' || c == '-' then
      orTry (do dateTime; return .dateTime)
        (orTry (do return .real (← real)) (do return .integer (← integer)))
    else likeString refuse

/-- A value that holds others no deeper than the given bound. -/
def value : Nat → Reader Value
  | 0 => valueWith tooDeep tooDeep
  | depth + 1 => valueWith (array (value depth)) (inlineTable (value depth))

/-! ## Documents -/

/-- A document under construction: the tables that are complete, and the one that entries go to,
with the path of its header. -/
structure Building where
  root : Table := {}
  current : Table := {}
  path : List String := []
  inArray : Bool := false

/-- The cause for a header that repeats another. -/
def repeatedHeader (path : List String) : Cause :=
  .duplicateKey (path.getLast?.getD "") (some path.dropLast)

def Building.close (b : Building) : Except Cause Table :=
  match b.path.getLast? with
  | none => .ok b.current
  | some last =>
    editAt false b.path.dropLast (fun parent =>
      match lookup? last parent.entries with
      | some (.tables ts) =>
        if b.inArray then
          .ok { parent with entries := put last (.tables (ts ++ [b.current])) parent.entries }
        else .error (repeatedHeader b.path)
      | some (.table t) =>
        if t.isImplicit && !b.inArray then
          .ok { parent with entries := put last (.table b.current) parent.entries }
        else .error (repeatedHeader b.path)
      | some (.value _) => .error (repeatedHeader b.path)
      | none =>
        let item := if b.inArray then Item.tables [b.current] else .table b.current
        .ok { parent with entries := put last item parent.entries }) 0 b.path.dropLast b.root

/-- Adds an entry to the current table. A key without dots adds to a table of its own, a dotted key
to a table that dotted keys made. -/
def Building.entry (b : Building) (path : List String) (v : Value) : Except Cause Building := do
  let last := path.getLast?.getD ""
  let parents := path.dropLast
  let current ← editAt true parents (fun t =>
    if t.isDotted == parents.isEmpty then .error (.duplicateKey last none)
    else
      match lookup? last t.entries with
      | some _ => .error (.duplicateKey last (some b.path))
      | none => .ok { t with entries := put last (.value v) t.entries }) 0 parents b.current
  return { b with current }

/-- Starts the table of a header. A table that was only mentioned is taken over with its entries. -/
def Building.header (b : Building) (path : List String) : Except Cause Building := do
  let root ← b.close
  let last := path.getLast?.getD ""
  let parents := path.dropLast
  let (root, found) ← editAndSee parents root last
  match found with
  | none => return { root, current := {}, path }
  | some (.table t) =>
    if t.isImplicit && !t.isDotted then
      return { root, current := { t with isImplicit := false, isDotted := false }, path }
    else .error (repeatedHeader path)
  | some _ => .error (repeatedHeader path)
where
  /-- The root without the last table of a path, and what stood there. -/
  editAndSee (parents : List String) (root : Table) (last : String) :
      Except Cause (Table × Option Item) := do
    let found := findAt parents root last
    let root ← editAt false parents
      (fun parent => .ok { parent with entries := erase last parent.entries }) 0 parents root
    return (root, found)
  findAt : List String → Table → String → Option Item
    | [], t, last => lookup? last t.entries
    | k :: path, t, last =>
      match lookup? k t.entries with
      | some (.table child) => findAt path child last
      | some (.tables ts) => (ts.getLast?).bind fun child => findAt path child last
      | _ => none

/-- Starts the next table of an array of tables. -/
def Building.arrayHeader (b : Building) (path : List String) : Except Cause Building := do
  let root ← b.close
  let last := path.getLast?.getD ""
  let parents := path.dropLast
  let root ← editAt false parents (fun parent =>
    match lookup? last parent.entries with
    | none => .ok { parent with entries := put last (.tables []) parent.entries }
    | some (.tables _) => .ok parent
    | some _ => .error (repeatedHeader path)) 0 parents root
  return { root, current := {}, path, inArray := true }

/-- Makes the outcome of a step of building that of a reader. -/
def built {α : Type} : Except Cause α → Reader α
  | .ok a => give a
  | .error cause => refuseFor cause

def documentEntry (b : Building) : Reader Building := do
  let path ← key
  let v ← committed do
    equalsSign
    blanks
    let v ← value depthLimit
    lineRestOnly
    return v
  built (b.entry path v)

def documentHeader (b : Building) : Reader Building :=
  labelled "table header" fun cs =>
    let p : Reader Building := match cs with
      | '[' :: '[' :: _ => do
        word ['[', '[']
        let path ← committed key
        expecting ["`.`", "`]]`"] (committed (word [']', ']']))
        committed lineRestOnly
        built (b.arrayHeader path)
      | _ :: _ :: _ => do
        word ['[']
        let path ← committed key
        expecting ["`.`", "`]`"] (committed (word [']']))
        committed lineRestOnly
        built (b.header path)
      | _ => refuse
    p cs

def documentPart (b : Building) : Reader Building := do
  match ← next? with
  | none => refuse
  | some '#' =>
    committed do comment; lineEnd
    return b
  | some '[' => committed (documentHeader b)
  | some '\n' | some '\r' => newline; return b
  | some _ => committed (documentEntry b)

def documentParts : Nat → Building → Reader Building
  | 0, b => give b
  | fuel + 1, b => do
    match ← optional (documentPart b) with
    | none => return b
    | some b =>
      blanks
      documentParts fuel b

/-- A whole document; a byte order mark before it is dropped. -/
def document : Reader Building := do
  let _ ← optional (char '\uFEFF')
  blanks
  let b ← documentParts (← remaining) {}
  atEnd
  return b

/-- The table that a text spells, or the message that says why it spells none. -/
def read (text : String) : Except String Table :=
  match document text.toList with
  | .done b _ =>
    match b.close with
    | .ok t => .ok t
    | .error cause => .error cause.message
  | .refused f | .failed f => .error f.message

end PackageUsage.Toml
