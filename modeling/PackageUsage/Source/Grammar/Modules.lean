import PackageUsage.Source.Grammar.Classes

/-!
# Module declarations

Imports and exports. The tolerant dialects decide by one lexeme of lookahead;
the strict dialects know newer forms that the tolerant ones have to recover from.
-/

namespace PackageUsage.Source.Grammar

open PackageUsage.Source.Parser

def stringLeaf (role : Role) : Parser Unit := do
  if (← look).kind == .string then leaf .string (some role) else refuse

/-- The module a declaration names, after the keyword `from`. -/
def fromClause : Parser Unit := settledBefore ["with", "assert"] do
  keyword "from"
  stringLeaf .source

def importAttributes (rule : Rules) : Parser Unit := do
  let d := (← context).dialect
  if (← atWord "with") || (d.types && (← atWord "assert")) then
    symbol do
      bump
      let s ← object rule
      guard s.value

/-! ### Imports -/

/-- The name of an exported thing: a word or a string. -/
def exportedName (role : Role) : Parser Unit := do
  if (← look).kind == .string then leaf .string (some role)
  else identifierLeaf (some role) [",", "\x7d"]

/-- One element of an import list. -/
def importSpecifier : Parser Unit := node .importSpecifier do
  let e ← context
  let l ← look
  let next ← lookAfter
  -- `type` is a modifier unless the list goes on or a new name follows
  let modified := e.dialect.types && l.reading != .identifier &&
    (l.kind == .word "typeof" ||
      (l.kind == .word "type" &&
        match next.kind with
        | .string => true
        | .word w => w != "as"
        | _ => false))
  if modified then bump
  if (← look).kind == .string then
    leaf .string (some .name)
    keyword "as"
    identifierLeaf (some .renaming) [",", "\x7d"]
  else
    identifierLeaf (some .name) [",", "\x7d"]
    if ← optionalWord "as" then identifierLeaf (some .renaming) [",", "\x7d"]

def namedImports : Parser Unit := node .namedImports do
  mark "\x7b"
  enclosed do
    if ← atMark "," then bump
    else commaList "\x7d" importSpecifier
  closing "\x7d"

def namespaceImport : Parser Unit := node .namespaceImport do
  mark "*"
  keyword "as"
  identifierLeaf

/-- The list or the whole module of an import. -/
def importList : Parser Unit := do
  if ← atMark "*" then namespaceImport else namedImports

/-- What comes after the `=` of an import: a required module (`true`) or a dotted name. -/
def importValue : Parser Bool := do
  let next ← lookAfter
  if (← atWord "require") && next.kind == .mark "(" then
    bump
    bump
    let l ← look
    if l.kind == .string then bump else refuse
    closing ")"
    return true
  else
    dottedName
    return false

def tolerantImport (rule : Rules) : Parser Unit := nodeOf do
  let e ← context
  keyword "import"
  let l ← look
  let next ← lookAfter
  let modified := e.dialect.types &&
    (l.kind == .word "typeof" ||
      (l.kind == .word "type" && next.kind != .mark "," && next.kind != .word "from" &&
        next.kind != .mark "="))
  if modified then bump
  let l ← look
  let next ← lookAfter
  if l.kind == .string then
    leaf .string (some .source)
    importAttributes rule
    semicolon false
    return .importStatement
  else if e.dialect.types && isIdentifier e [] l && next.kind == .mark "=" then
    symbol do
      bump
      mark "="
      let required ← importValue
      semicolon false
      return if required then .importStatement else .other
  else
    node .importClause do
      if (← atMark "\x7b") || (← atMark "*") then importList
      else
        identifierLeaf
        if ← optionalMark "," then importList
    fromClause
    importAttributes rule
    semicolon false
    return .importStatement

/-! ### Exports -/

/-- One element of an export list. -/
def exportSpecifier : Parser Unit := node .exportSpecifier do
  let e ← context
  if e.dialect.types && ((← atWord "type") || (← atWord "typeof")) then bump
  exportedName .name
  if ← optionalWord "as" then exportedName .renaming

def exportClause : Parser Unit := node .exportClause do
  mark "\x7b"
  enclosed do
    if ← atMark "," then bump
    else commaList "\x7d" exportSpecifier
  closing "\x7d"

def namespaceExport : Parser Unit := node .namespaceExport do
  mark "*"
  keyword "as"
  if (← look).kind == .string then leaf .string else identifierLeaf

/-- What follows the list of an export: the module, or the end of the statement. A line break ends
the statement where it may. -/
def exportListRest : Parser Unit := do
  let e ← context
  let l ← look
  if (← atWord "from") && !endsStatement e.dialect false l then
    fromClause
  semicolon false

/-- Whether a lexeme after `export` starts a declaration that is exported. -/
def startsDeclaration (d : Dialect) (w : String) : Bool :=
  ["var", "let", "const", "function", "async", "class"].contains w ||
    (d.types && ["abstract", "declare", "enum", "interface", "type", "namespace", "module",
      "global"].contains w)

def defaultExport (rule : Rules) : Parser Unit := do
  keyword "default"
  let e ← context
  let l ← look
  let next ← lookAfter
  match l.kind with
  | .word "function" => functionDefault false
  | .word "async" =>
    if next.kind == .word "function" && !next.lineBreak then
      bump
      functionDefault true
    else ended
  | .word "class" =>
    classRest rule false
  | .mark "@" =>
    decorators rule
    let _ ← optionalWord "abstract"
    classRest rule false
  | .word "abstract" =>
    if e.dialect.types && next.kind == .word "class" then
      bump
      classRest rule false
    else ended
  | .word "interface" =>
    if e.dialect.types && (isIdentifier e [] next) && !next.lineBreak then
      let _ ← rule .statement
    else ended
  | .word "enum" =>
    if e.dialect.types && !e.dialect.strict then
      let _ ← rule .statement
    else ended
  | _ => ended
where
  ended : Parser Unit := do
    value rule .assignment
    semicolon true
  /-- A function whose name may be left out. -/
  functionDefault (async : Bool) : Parser Unit := do
    keyword "function"
    let generator ← optionalMark "*"
    if isIdentifier (← context) [] (← look) then bump
    optionalTypeParameters rule
    functionParameters rule async generator
    optionalResult rule
    if ← atMark "\x7b" then functionBody rule async generator
    else if (← context).dialect.types then semicolon false
    else refuse

/-- An export declaration of the tolerant dialects, without its decorators and its node. -/
def exportBody (rule : Rules) : Parser Unit := do
  let d := (← context).dialect
  keyword "export"
  let l ← look
  let next ← lookAfter
  match l.kind with
  | .mark "*" =>
    if next.kind == .word "as" then namespaceExport else bump
    fromClause
    semicolon false
  | .mark "\x7b" =>
    exportClause
    exportListRest
  | .mark "=" =>
    guard d.types
    bump
    value rule .expression
    semicolon true
  | .mark "@" =>
    let _ ← rule .statement
  | .word "default" => defaultExport rule
  | .word "as" =>
    guard d.types
    bump
    keyword "namespace"
    identifier
    semicolon false
  | .word "import" =>
    guard d.types
    symbol do
      bump
      identifier
      mark "="
      dottedName
      semicolon false
  | .word "type" =>
    guard d.types
    bump
    if ← atMark "\x7b" then
      exportClause
      exportListRest
    else symbol (typeAliasRest rule)
  | .word w =>
    guard (startsDeclaration d w)
    let _ ← rule .statement
  | _ => refuse

def tolerantExport (rule : Rules) : Parser Unit :=
  node .exportStatement (exportBody rule)

/-! ### The strict dialects -/

/-- The next lexeme as a name that may be exported: any word, or a string. -/
def anyExportName : Parser String := do
  let l ← look
  match l.kind with
  | .word w =>
    bump
    return w
  | .string =>
    bump
    return l.text
  | _ => refuse

def atExportName : Parser Bool := do
  match (← look).kind with
  | .word _ | .string => return true
  | _ => return false

/-- One element of a list: the name in the module and the new name, which may be the same. -/
def strictSpecifier : Parser (String × String) := symbol do
  let types := (← context).dialect.types
  let first ← anyExportName
  if types && first == "type" && (← atExportName) then
    if ← atWord "as" then
      bump
      if ← atWord "as" then
        bump
        if ← atExportName then
          let name ← anyExportName
          return ("as", name)
        else return ("type", "as")
      else if ← atExportName then
        let name ← anyExportName
        return ("type", name)
      else return ("as", "as")
    else
      let name ← anyExportName
      if ← optionalWord "as" then
        let renamed ← anyExportName
        return (name, renamed)
      else return (name, name)
  else if ← optionalWord "as" then
    let renamed ← anyExportName
    return (first, renamed)
  else return (first, first)

def isBindable (name : String) : Bool :=
  !reservedWords.contains name && !name.startsWith "'" && !name.startsWith "\""

def strictNamedImports : Parser Unit := do
  mark "\x7b"
  enclosed <| commaList "\x7d" do
    let (_, name) ← strictSpecifier
    guard (isBindable name)
  mark "\x7d"

def strictAttributes (rule : Rules) : Parser Unit := do
  let l ← look
  if (← atWord "with") || ((← atWord "assert") && !l.lineBreak) then
    bump
    let s ← object rule
    guard s.value

def strictBindings : Parser Unit := do
  if ← atMark "*" then
    bump
    keyword "as"
    identifier
  else if ← atMark "\x7b" then strictNamedImports
  else
    identifier
    if ← optionalMark "," then
      if ← atMark "*" then
        bump
        keyword "as"
        identifier
      else strictNamedImports

def strictImport (rule : Rules) : Parser Unit := do
  let e ← context
  keyword "import"
  let whole : Parser Unit := do
    if (← look).kind == .string then bump
    else
      strictBindings
      keyword "from"
      if (← look).kind == .string then bump else refuse
    strictAttributes rule
    semicolon false
  let required : Parser Unit := do
    identifier
    mark "="
    let _ ← importValue
    semicolon false
  let phased : Parser Unit := do
    keyword "source"
    identifier
    keyword "from"
    if (← look).kind == .string then bump else refuse
    strictAttributes rule
    semicolon false
  let deferred : Parser Unit := do
    keyword "defer"
    mark "*"
    keyword "as"
    identifier
    keyword "from"
    if (← look).kind == .string then bump else refuse
    strictAttributes rule
    semicolon false
  let typed : Parser Unit := do
    guard e.dialect.types
    keyword "type"
    required <|> whole
  if e.dialect.types then whole <|> required <|> typed <|> phased <|> deferred
  else whole <|> phased <|> deferred

/-- The list of a strict export; gives the names in the module and the exported names. -/
def strictExportList : Parser (List (String × String)) := do
  mark "\x7b"
  let items ← enclosed (elements (← context).fuel [])
  mark "\x7d"
  return items
where
  /-- The elements up to the closing brace. -/
  elements : Nat → List (String × String) → Parser (List (String × String))
    | 0, _ => refuse
    | fuel + 1, read => do
      if ← atMark "\x7d" then return read.reverse
      let item ← strictSpecifier
      if ← optionalMark "," then elements fuel (item :: read)
      else return (item :: read).reverse

/-- The name under which something is exported, without quotes. -/
def bareName (name : String) : String :=
  if name.startsWith "'" || name.startsWith "\"" then
    String.ofList ((name.toList.drop 1).dropLast)
  else name

def strictExportRest (rule : Rules) (items : List (String × String)) : Parser Unit := do
  for item in items do noteExport (bareName item.2)
  let sourced ← if ← optionalWord "from" then
      match (← look).kind with
      | .string =>
        bump
        strictAttributes rule
        pure true
      | .number => refuse
      | _ => pure false
    else pure false
  if !sourced then
    guard (items.all fun item => isBindable item.1)
  semicolon false

/-- The rest of a strict export of a whole module. -/
def strictExportAll (rule : Rules) : Parser Unit := do
  mark "*"
  if ← optionalWord "as" then
    let name ← anyExportName
    noteExport (bareName name)
  keyword "from"
  if (← look).kind == .string then bump else refuse
  strictAttributes rule
  semicolon false

def strictExport (rule : Rules) : Parser Unit := do
  let d := (← context).dialect
  keyword "export"
  let l ← look
  let next ← lookAfter
  match l.kind with
  | .mark "*" => strictExportAll rule
  | .mark "\x7b" =>
    let items ← strictExportList
    strictExportRest rule items
  | .mark "=" =>
    guard d.types
    bump
    value rule .expression
    semicolon true
  | .mark "@" =>
    let names ← boundBy do let _ ← rule .statement
    for name in names do noteExport name
  | .word "default" =>
    noteExport "default"
    defaultExport rule
  | .word "as" =>
    guard d.types
    bump
    keyword "namespace"
    identifier
    semicolon false
  | .word "import" =>
    guard d.types
    bump
    let _ ← optionalWord "type"
    identifier
    mark "="
    let _ ← importValue
    semicolon false
  | .word "type" =>
    guard d.types
    if next.kind == .mark "\x7b" then
      bump
      let items ← strictExportList
      strictExportRest rule items
    else if next.kind == .mark "*" then
      bump
      strictExportAll rule
    else
      let _ ← rule .statement
  | .word w =>
    guard (startsDeclaration d w)
    let names ← boundBy do let _ ← rule .statement
    for name in names do noteExport name
  | _ => refuse

end PackageUsage.Source.Grammar
