import PackageUsage.Proofs.Collect
import PackageUsage.Proofs.Source.Expressions

/-!
# Line breaks before a source

A re-export of a list, written with gaps between its parts. With no line feed before the word
`from`, it is one declaration that names its module. With a line feed there, the list is a statement
for itself; if a line ends behind the word too, the word and the literal are two more statements,
the text is read without a fault, and nothing is left of the module.
-/

namespace PackageUsage.Source

open PackageUsage.Source.Parser PackageUsage.Source.Grammar

variable {e : Context} {c c' m x y z : Cursor} {rule : Rules} {d : Dialect} {k : LexemeKind}

/-- There is a line feed in a gap. -/
def Gap.breaks (g : Gap) : Bool :=
  (g.first :: g.rest).contains .lineFeed

/-- A re-export of a list, with the gaps behind `export` and around `from`. -/
structure ListExport where
  before : Gap
  elements : Braced ExportName
  between : Gap
  behind : Gap
  source : Literal

namespace ListExport

/-- The characters of a re-export with its semicolon. -/
def chars (l : ListExport) : List Char :=
  "export".toList ++ (l.before.chars ++ (l.elements.chars ExportName.chars ++ (l.between.chars ++
    ("from".toList ++ (l.behind.chars ++ (l.source.chars ++ [';']))))))

/-- The text of a file that is only this re-export. -/
def text (l : ListExport) : String :=
  String.ofList (l.chars ++ ['\n'])

theorem length_chars (l : ListExport) : 6 ≤ l.chars.length := by
  have hexport : "export".toList.length = 6 := by decide
  show 6 ≤ ("export".toList ++ _).length
  rw [List.length_append, hexport]
  exact Nat.le_add_right ..

/-- The names that are re-exported. -/
def names (l : ListExport) : List String :=
  l.elements.bound.map ExportName.text

end ListExport

/-! ## The end of a statement -/

/-- A statement ends before a lexeme with a line feed before it, unless the lexeme goes on with the
statement. -/
theorem endsStatement_eq_true (hd : d.strict = false) (hlex : Lexes d c k m c')
    (hbrace : k ≠ .mark "\x7d") {g : Gap} (hpass : c.Passes g.chars m) (hbreaks : g.breaks = true)
    (hhalt : Halts d m.rest) {expression : Bool}
    (hgoes : continuesStatement d.types expression m.rest = false) :
    endsStatement d expression (lexeme d c) = true := by
  obtain ⟨hline, -⟩ := lexeme_after_layout hd hpass hhalt
  have hreading : (lexeme d c).reading = .any := rfl
  have hline' : (lexeme d c).lineBreak = true := hline.trans hbreaks
  unfold endsStatement
  rw [hreading, hlex.kind, hline', hlex.start, hgoes, hd]
  split
  · contradiction
  · split <;> simp_all

theorem reads_semicolon_absent {expression : Bool} (hlex : Lexes e.dialect c k m x)
    (hk : k ≠ .mark ";")
    (hends : endsStatement e.dialect expression (lexeme e.dialect c) = true) :
    Reads e (semicolon expression) c () [] c := by
  refine (Reads.optionalMark_absent hlex hk).silent_bind ?_
  refine Reads.context.silent_bind (Reads.look.silent_bind ?_)
  rw [hends, if_pos rfl]
  exact .pure ()

theorem continuesStatement_from (types expression : Bool) (rest : List Char) :
    continuesStatement types expression ("from".toList ++ rest) = false :=
  rfl

theorem continuesStatement_literal (types expression : Bool) (l : Literal) (rest : List Char) :
    continuesStatement types expression (l.chars ++ rest) = false := by
  unfold Literal.chars
  cases l.quote <;> rfl

theorem halts_literal (hd : d.strict = false) (l : Literal) (rest : List Char) :
    Halts d (l.chars ++ rest) := by
  obtain ⟨types, markup, strict⟩ := d
  subst hd
  unfold Literal.chars
  cases l.quote <;> exact ⟨rfl, by decide⟩

/-! ## The parts of a re-export -/

/-- The places between the lexemes of a re-export. -/
structure ListExport.Places (d : Dialect) (l : ListExport) (c m c' : Cursor) where
  list : Cursor
  word : Cursor
  literal : Cursor
  semicolon : Cursor
  listStart : Cursor
  wordStart : Cursor
  literalStart : Cursor
  export_lexes : Lexes d c (.word "export") m list
  room : list.rest.length ≤ c.rest.length
  before : list.Passes l.before.chars listStart
  elements : Stands d list listStart (l.elements.chars ExportName.chars) word
  between : word.Passes l.between.chars wordStart
  from_lexes : Lexes d word (.word "from") wordStart literal
  from_rest : ∃ rest, wordStart.rest = "from".toList ++ rest
  behind : literal.Passes l.behind.chars literalStart
  literal_lexes : Lexes d literal .string literalStart semicolon
  source : literalStart.Passes l.source.chars semicolon
  semicolon_lexes : Lexes d semicolon (.mark ";") semicolon c'

theorem ListExport.exists_places (hd : d.strict = false) {l : ListExport}
    (h : Stands d c m l.chars c') : Nonempty (l.Places d c m c') := by
  obtain ⟨u, v, hu, hblank, hbefore, hv⟩ := h.split_blanks hd
  obtain ⟨w, f, hw, hblank', hbetween, hf⟩ := hv.split_blanks hd
  obtain ⟨g, s, hg, hblank'', hbehind, hs⟩ := hf.split_blanks hd
  obtain ⟨t, ht, hend⟩ := hs.split
  have hroom := hu.rest_length
  exact ⟨{
    list := u, word := w, literal := g, semicolon := t
    listStart := v, wordStart := f, literalStart := s
    export_lexes := Lexes.keyword hd hu (by decide) hblank.wordEnds
    room := by omega
    before := hbefore
    elements := hw
    between := hbetween
    from_lexes := Lexes.keyword hd hg (by decide) hblank''.wordEnds
    from_rest := ⟨_, hg.passes.rest_eq⟩
    behind := hbehind
    literal_lexes := Lexes.literal hd ht
    source := ht.passes
    semicolon_lexes := Lexes.mark hd hend .semicolon (by simp) }⟩

/-! ## The statement -/

variable {l : ListExport}

/-- The list is the whole statement where a line ends before the word `from`. -/
theorem reads_exportListRest_broken (hd : e.dialect.strict = false)
    (p : l.Places e.dialect c m c') (hbreaks : l.between.breaks = true) :
    Reads e exportListRest p.word () [] p.word := by
  obtain ⟨rest, hrest⟩ := p.from_rest
  have hhalt : Halts e.dialect p.wordStart.rest := by
    rw [hrest]
    exact not_isBlank_of_isNameStart hd (by decide)
  have hends : endsStatement e.dialect false (lexeme e.dialect p.word) = true := by
    refine endsStatement_eq_true hd p.from_lexes (by simp) p.between hbreaks hhalt ?_
    rw [hrest]
    exact continuesStatement_from _ _ rest
  refine Reads.context.silent_bind (Reads.look.silent_bind ((Reads.atWord p.from_lexes).silent_bind
    ?_))
  rw [hends, if_neg (by simp)]
  exact reads_semicolon_absent p.from_lexes (by simp) hends

/-- The statement goes on where no line ends before the word `from`. -/
theorem reads_exportListRest_unbroken (hd : e.dialect.strict = false)
    (p : l.Places e.dialect c m c') (hbreaks : l.between.breaks = false) :
    Reads e exportListRest p.word ()
      [.leafBetween .string (some .source) p.literalStart p.semicolon] c' := by
  obtain ⟨rest, hrest⟩ := p.from_rest
  have hhalt : Halts e.dialect p.wordStart.rest := by
    rw [hrest]
    exact not_isBlank_of_isNameStart hd (by decide)
  exact reads_exportListRest hd p.between hbreaks hhalt p.from_lexes p.literal_lexes
    p.semicolon_lexes

/-- The word `export`, a list and what follows it are one statement. -/
theorem reads_listExport (rule : Rules) (hd : e.dialect.strict = false)
    (hfuel : c.rest.length < e.fuel) (p : l.Places e.dialect c m c')
    (hbefore : l.before.breaks = false) {ts : List Tree}
    (hrest : Reads e exportListRest p.word () ts x) :
    ∃ t : Tree, t.info.role = none ∧ t.exportNames = l.names ∧ t.Plain ∧
      Reads e (statement rule) c Shape.plain
        [.node { kind := .exportStatement, line := m.line, column := m.column } ([t] ++ ts)] x := by
  obtain ⟨t, v, hopen, hread, hrole, hnames, hplain⟩ :=
    reads_exportClause hd (Nat.lt_of_le_of_lt p.room hfuel) p.elements
  refine ⟨t, hrole, hnames, hplain, ?_⟩
  have hbody : Reads e (exportBody rule) c () ([t] ++ ts) x := by
    refine Reads.context.silent_bind ((Reads.keyword p.export_lexes).silent_bind ?_)
    refine Reads.look.silent_bind ((Reads.lookAfter hopen).silent_bind ?_)
    simp only [hopen.kind]
    exact hread.bind hrest
  have hhalt : Halts e.dialect p.listStart.rest := by
    rw [p.elements.passes.rest_eq]
    exact IsMark.halts hd .opening
  have hgoes : endsStatement e.dialect true (lexeme e.dialect p.list) = false :=
    endsStatement_eq_false hd hopen (by simp) (by simp) p.before hbefore hhalt true
  have hword : (lexeme e.dialect c).word = "export" := by
    simp only [Lexeme.word, p.export_lexes.kind]
  refine reads_wordStatement p.export_lexes hopen (by simp) (Reads.context.silent_bind ?_)
  simp only [hword, hopen.kind, hd, hgoes]
  exact Reads.node p.export_lexes hbody

/-! ## The word and the literal behind it -/

theorem ListExport.Places.unmarked_word (p : l.Places d c m c') : Unmarked p.wordStart := by
  obtain ⟨rest, hrest⟩ := p.from_rest
  unfold Unmarked Cursor.startsWith
  rw [hrest]
  exact ⟨rfl, rfl, rfl⟩

theorem ListExport.Places.unmarked_literal (p : l.Places d c m c') : Unmarked p.literalStart := by
  unfold Unmarked Cursor.startsWith
  rw [p.source.rest_eq]
  unfold Literal.chars
  cases l.source.quote <;> exact ⟨rfl, rfl, rfl⟩

/-- The word `from` is a statement where a line ends behind it. -/
theorem reads_from {rule inner innermost : Rules}
    (hrule : rule .expression = locally (expression inner))
    (hinner : inner .assignment = locally (assignment innermost)) (hd : e.dialect.strict = false)
    (hfuel : 0 < e.fuel) (p : l.Places e.dialect c m c') (hbreaks : l.behind.breaks = true) :
    Reads e (statement rule) p.word Shape.plain [] p.literal := by
  have hends : endsStatement e.dialect true (lexeme e.dialect p.literal) = true := by
    have hliteral := p.source.rest_eq
    refine endsStatement_eq_true hd p.literal_lexes (by simp) p.behind hbreaks ?_ ?_
    · rw [hliteral]
      exact halts_literal hd l.source _
    · rw [hliteral]
      exact continuesStatement_literal _ _ l.source _
  have hword : (lexeme e.dialect p.word).word = "from" := by
    simp only [Lexeme.word, p.from_lexes.kind]
  refine reads_wordStatement p.from_lexes p.literal_lexes (by simp) ?_
  refine Reads.context.silent_bind ?_
  simp only [hword]
  exact reads_expressionStatement hfuel hd hrule hinner .name p.from_lexes p.unmarked_word .string
    p.literal_lexes (reads_semicolon_absent p.literal_lexes (by simp) hends)

/-- The literal is a statement for itself, with its semicolon. -/
theorem reads_literal {rule inner innermost : Rules}
    (hrule : rule .expression = locally (expression inner))
    (hinner : inner .assignment = locally (assignment innermost)) (hd : e.dialect.strict = false)
    (hfuel : 0 < e.fuel) (p : l.Places e.dialect c m c') :
    Reads e (statement rule) p.literal Shape.plain [] c' := by
  refine Reads.symbol (Reads.context.silent_bind (Reads.look.silent_bind ?_))
  refine (Reads.lookAfter p.literal_lexes).silent_bind ?_
  simp only [p.literal_lexes.kind]
  have hread := reads_expressionStatement hfuel hd hrule hinner .string p.literal_lexes
    p.unmarked_literal .semicolon p.semicolon_lexes (reads_semicolon p.semicolon_lexes true)
  exact hread.silent_bind (.pure Shape.plain)

/-! ## The whole text -/

/-- What the text of a re-export declares: its module is lost where a line ends before `from`. -/
def ListExport.declared (l : ListExport) : Declared :=
  { kind := .exporting, line := 1
    specifier := if l.between.breaks then none else some l.source.text, names := l.names }

/-- The text is one statement, or three. -/
theorem reads_program_listExport {n : Nat} (hd : e.dialect.strict = false)
    (hswitch : e.inSwitch = false) (hfuel : c.rest.length < e.fuel) (hline : c.line = 0)
    (hpass : c.Passes l.chars c') (hfeed : c'.Passes ['\n'] z) (hend : z.rest = [])
    (hbefore : l.before.breaks = false) (hbehind : l.behind.breaks = true) :
    ∃ ts, Reads e (program (n + 4)) c () ts c' ∧ Tree.DeclareAll [l.declared] ts := by
  have hstands : Stands e.dialect c c l.chars c' := Stands.of_passes hpass
  obtain ⟨p⟩ := ListExport.exists_places hd hstands
  have hpos : 0 < e.fuel := Nat.lt_of_le_of_lt (Nat.zero_le _) hfuel
  obtain ⟨fuel, hturns⟩ : ∃ fuel, e.fuel = fuel + 4 := by
    have hlength := hstands.rest_length
    have hexport := l.length_chars
    exact ⟨e.fuel - 4, by omega⟩
  have hunmarked : Unmarked c := by
    unfold Unmarked Cursor.startsWith
    rw [hpass.rest_eq]
    exact ⟨rfl, rfl, rfl⟩
  have hstart : Unmarked (lexeme e.dialect c).start := by
    rw [p.export_lexes.start]
    exact hunmarked
  have hskip : Skips e.dialect ['\n'] := skips_layout hd [.lineFeed]
  have hlex : Lexes e.dialect c' .endOfText z z :=
    Lexes.endOfText ⟨⟨_, hskip, hfeed⟩, .nil z⟩ hend
  have hlast : Reads e (statementTurn (rules (n + 4)) []) c' false [] c' :=
    statementTurn_last hpos hlex (unmarked_of_end hend)
  have hfirst {x : Cursor} {ts : List Tree}
      (hread : Reads e (statement (rules (n + 3))) c Shape.plain ts x) :
      Reads e (statementTurn (rules (n + 4)) []) c true ts x :=
    statementTurn_more hpos hswitch p.export_lexes (by simp) (by simp) hunmarked hread
  have hwhole {ts : List Tree} (hreads : ∀ marks, Reads e
      (gatherTurns marks (statementTurn (rules (n + 4)) []) (fuel + 4)) c () ts c') :
      Reads e (program (n + 4)) c () ts c' := by
    rw [← hturns] at hreads
    exact reads_program_of_turns hstart hreads hlex.kind
  -- one statement that names the module, or the list alone with two more statements behind it
  cases hbetween : l.between.breaks with
  | false =>
    obtain ⟨t, hrole, hnames, hplain, hread⟩ := reads_listExport (rules (n + 3)) hd hfuel p hbefore
      (reads_exportListRest_unbroken hd p hbetween)
    have hdeclares := Tree.declares_export c.line c.column [t] (by simpa using hrole)
      (by simpa using hplain) p.source
    refine ⟨_, hwhole fun marks => .gatherTurns_more (hfirst hread) (.gatherTurns_last hlast),
      .cons ?_ .nil⟩
    simpa [ListExport.declared, hbetween, hline, hnames] using hdeclares
  | true =>
    obtain ⟨t, hrole, hnames, hplain, hread⟩ := reads_listExport (rules (n + 3)) hd hfuel p hbefore
      (reads_exportListRest_broken hd p hbetween)
    have hdeclares := Tree.declares_export_unsourced c.line c.column [t] (by simpa using hrole)
      (by simpa using hplain)
    have hword : Reads e (statementTurn (rules (n + 4)) []) p.word true [] p.literal :=
      statementTurn_more hpos hswitch p.from_lexes (by simp) (by simp) p.unmarked_word
        (reads_from rfl rfl hd hpos p hbehind)
    have hliteral : Reads e (statementTurn (rules (n + 4)) []) p.literal true [] c' :=
      statementTurn_more hpos hswitch p.literal_lexes (by simp) (by simp) p.unmarked_literal
        (reads_literal rfl rfl hd hpos p)
    refine ⟨_, hwhole fun marks => .gatherTurns_more (hfirst hread) (.gatherTurns_more hword
      (.gatherTurns_more hliteral (.gatherTurns_last hlast))), .cons ?_ .nil⟩
    simpa [ListExport.declared, hbetween, hline, hnames] using hdeclares

theorem treeOfText_listExport (language : Language) (l : ListExport)
    (hbefore : l.before.breaks = false) (hbehind : l.behind.breaks = true) :
    ∃ ts, treeOfText language l.text = .node { kind := .program } ts ∧
      Tree.DeclareAll [l.declared] ts := by
  let start := Cursor.ofText l.text
  have hrest : start.rest = l.chars ++ ['\n'] ++ [] := by
    rw [List.append_nil]
    exact String.toList_ofList
  let e : Context := { dialect := Dialect.tolerant language, fuel := start.rest.length + 2 }
  obtain ⟨z, hpass, hend⟩ := Cursor.Passes.exists_of_rest hrest
  obtain ⟨c', hpass', hfeed⟩ := hpass.split
  have hfuel : start.rest.length < e.fuel := by
    show start.rest.length < start.rest.length + 2
    omega
  obtain ⟨ts, hread, hts⟩ := reads_program_listExport (e := e) (n := 16 * start.rest.length + 60)
    (strict_tolerant language) rfl hfuel rfl hpass' hfeed hend hbefore hbehind
  exact ⟨ts, treeOfText_of_reads hread, hts⟩

/-- The record of what a node declares, if it counts for a target. -/
def Declared.record? (file : String) (matcher : Matcher) (declared : Declared) : Option Record :=
  declared.specifier.bind fun specifier =>
    if matcher.accepts specifier && !declared.names.isEmpty then
      some { file, kind := declared.kind, specifier, names := declared.names
             line := declared.line }
    else none

theorem Tree.record?_eq_bind (file : String) (matcher : Matcher) (node : Tree) :
    node.record? file matcher = node.declared?.bind (Declared.record? file matcher) := by
  unfold Tree.record? Tree.declared? Declared.record?
  cases node.declarationKind? with
  | none => rfl
  | some kind =>
    cases node.specifier? with
    | none => simp
    | some specifier => simp

/-- The records of a tree are those of what it declares. -/
theorem collect_of_declared {tree : Tree} {declareds : List Declared}
    (h : tree.preorder.filterMap Tree.declared? = declareds) (file : String) (matcher : Matcher)
    (records : List Record) :
    collect file matcher tree records =
      records ++ declareds.filterMap (Declared.record? file matcher) := by
  have hrecord : Tree.record? file matcher =
      fun node : Tree => node.declared?.bind (Declared.record? file matcher) :=
    funext (Tree.record?_eq_bind file matcher)
  rw [collect_eq_append, ← h, List.filterMap_filterMap, hrecord]

theorem ListExport.filterMap_record? (l : ListExport) (file : String) (matcher : Matcher) :
    [l.declared].filterMap (Declared.record? file matcher) =
      if l.between.breaks = false ∧ matcher.accepts l.source.text = true ∧ l.names ≠ [] then
        [{ file, kind := .exporting, specifier := l.source.text, names := l.names, line := 1 }]
      else [] := by
  cases hbetween : l.between.breaks with
  | true => simp [ListExport.declared, Declared.record?, hbetween]
  | false =>
    simp only [List.filterMap_cons, List.filterMap_nil, ListExport.declared, Declared.record?,
      hbetween, Bool.false_eq_true, if_false, Option.bind_some, true_and]
    cases hnames : l.names <;> cases matcher.accepts l.source.text <;> simp

/-- A re-export of a list that is the text of a file is read without a fault. It has a record only
if no line ends before the word `from`. -/
theorem collect_listExport {path : String} {language : Language}
    (h : Language.ofPath? path = some language) (l : ListExport)
    (hbefore : l.before.breaks = false) (hbehind : l.behind.breaks = true)
    (file : String) (matcher : Matcher) (records : List Record) :
    ∃ tree, parse path l.text = .ok tree ∧ tree.hasFault = false ∧
      collect file matcher tree records = records ++
        if l.between.breaks = false ∧ matcher.accepts l.source.text = true ∧ l.names ≠ [] then
          [{ file, kind := .exporting, specifier := l.source.text, names := l.names, line := 1 }]
        else [] := by
  obtain ⟨ts, htree, hts⟩ := treeOfText_listExport language l hbefore hbehind
  have hprogram : (Tree.node { kind := .program } ts).hasFault = false :=
    Tree.hasFault_node rfl (by simp) hts.faultless
  have hdeclared : (Tree.node { kind := .program } ts).preorder.filterMap Tree.declared? =
      [l.declared] := by
    rw [Tree.filterMap_preorder_node, hts.declared_eq]
    rfl
  refine ⟨_, ?_, hprogram, ?_⟩
  · rw [parse, h]
    simp [htree, hprogram]
  · rw [collect_of_declared hdeclared, l.filterMap_record?]

namespace LineBreakSample

def identifier : Identifier :=
  { first := 'x', rest := [], spelled := by decide, unqualifying := by decide }

/-- `export \x7bx\x7d` and `from` with a gap between them, and a line feed before the module. -/
def listExport (between : Gap) : ListExport where
  before := { first := .space }
  elements :=
    { opening := [], elements := some ({ name := .identifier identifier }, []), closing := [] }
  between := between
  behind := { first := .lineFeed }
  source :=
    { quote := .single, contents := "pkg".toList, plain := by simp [isPrintable, Quote.char] }

/-- A re-export with attributes, between two imports. -/
def withAttributes : String :=
  "import b from 'y'\nexport \x7bx\x7d from 'x' with \x7btype:'json'\x7d\nimport c from 'z'"

end LineBreakSample

open LineBreakSample in
theorem collect_listExport_sample :
    Language.ofPath? "a.ts" = some .typescript ∧
      (listExport { first := .space }).text = "export \x7bx\x7d from\n'pkg';\n" ∧
      (listExport { first := .lineFeed }).text = "export \x7bx\x7d\nfrom\n'pkg';\n" ∧
      (∃ tree, parse "a.ts" (listExport { first := .space }).text = .ok tree ∧
        collect "a.ts" (.start "pkg".toList) tree [] =
          [{ file := "a.ts", kind := .exporting, specifier := "pkg", names := ["x"], line := 1 }]) ∧
      ∃ tree, parse "a.ts" (listExport { first := .lineFeed }).text = .ok tree ∧
        collect "a.ts" (.start "pkg".toList) tree [] = [] := by
  have hpath : Language.ofPath? "a.ts" = some .typescript := by decide +kernel
  refine ⟨hpath, by decide +kernel, by decide +kernel, ?_, ?_⟩
  · obtain ⟨tree, hparse, -, hcollect⟩ := collect_listExport hpath
      (listExport { first := .space }) rfl rfl "a.ts" (.start "pkg".toList) []
    refine ⟨tree, hparse, hcollect.trans ?_⟩
    decide +kernel
  · obtain ⟨tree, hparse, -, hcollect⟩ := collect_listExport hpath
      (listExport { first := .lineFeed }) rfl rfl "a.ts" (.start "pkg".toList) []
    refine ⟨tree, hparse, hcollect.trans ?_⟩
    decide +kernel

open LineBreakSample in
/-- Well-formed texts that have trees and no record of their re-export. The first is a list with a
line break before `from`; in the second one attributes follow the module. -/
theorem collect_listExport_lost :
    (isWellFormed "a.ts" "export \x7b x \x7d\nfrom 'pkg';\n" = true ∧
      (parse "a.ts" "export \x7b x \x7d\nfrom 'pkg';\n").toOption.map
        (fun tree => collect "a.ts" (.start "pkg".toList) tree []) = some []) ∧
    isWellFormed "a.ts" withAttributes = true ∧
      (parse "a.ts" withAttributes).toOption.map
        (fun tree => collect "a.ts" (.start "x".toList) tree []) = some [] := by
  decide +kernel

end PackageUsage.Source
