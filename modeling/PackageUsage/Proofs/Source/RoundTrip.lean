import PackageUsage.Proofs.Source.Exports
import PackageUsage.Source.Parse

/-!
# Reading undoes writing

The text of some module items is read into a tree without faults, and the declarations of this tree
are those of the items: in their order, each with its kind, the line it starts on, the module it
names and the names it binds.
-/

namespace PackageUsage.Source

open PackageUsage.Source.Parser PackageUsage.Source.Grammar

variable {e : Context} {c c' m : Cursor} {rule : Rules} {d : Dialect} {pre : List Char}

/-! ## Statements -/

/-- The word that starts a statement is a keyword, and no label. -/
theorem reads_wordStatement {w : String} {x u v : Cursor} {k : LexemeKind} {ts : List Tree}
    (hword : Lexes e.dialect c (.word w) m x) (hnext : Lexes e.dialect x k u v)
    (hk : k ≠ .mark ":")
    (hread : Reads e (wordStatement rule (lexeme e.dialect c) (lexeme e.dialect x)) c () ts c') :
    Reads e (statement rule) c Shape.plain ts c' := by
  have hreading : (lexeme e.dialect c).reading = .any := rfl
  refine Reads.symbol (Reads.context.silent_bind (Reads.look.silent_bind ?_))
  refine (Reads.lookAfter hword).silent_bind ?_
  simp only [hword.kind, hreading, hnext.kind]
  rw [if_neg (by simp), if_neg (by simp [hk])]
  exact hread.bind_silent (.pure _)

theorem reads_statement (rule : Rules) (hd : e.dialect.strict = false)
    (hfuel : c.rest.length < e.fuel)
    {item : ModuleItem} {ending : List Blank}
    (h : Stands e.dialect c m (item.chars ++ (layout ending ++ [';'])) c') :
    ∃ t w x, Lexes e.dialect c (.word w) m x ∧ Reads e (statement rule) c Shape.plain [t] c' ∧
      t.Declares (item.declared (m.line + 1)) := by
  obtain ⟨y, z, hy, -, hz⟩ := h.split_layout hd
  have hsemi : Lexes e.dialect y (.mark ";") z c' := Lexes.mark hd hz .semicolon (by simp)
  cases item with
  | importing head gap source =>
    obtain ⟨t, k, x, u, v, himport, hlex, hk, hread, ht⟩ :=
      reads_tolerantImport rule hd hfuel hy hsemi
    have hword : (lexeme e.dialect c).word = "import" := by simp only [Lexeme.word, himport.kind]
    have hmark {text : String} (hbrace : text ≠ "\x7b") (hstar : text ≠ "*") :
        (k == .mark text) = false := beq_eq_false_iff_ne.mpr (hk.ne_mark hbrace hstar)
    refine ⟨t, "import", x, himport, reads_wordStatement himport hlex ?_ ?_, ht⟩
    · exact hk.ne_mark (by decide) (by decide)
    · refine Reads.context.silent_bind ?_
      simp only [hword, hlex.kind, hd]
      rw [hmark (by decide) (by decide), hmark (by decide) (by decide),
        hmark (by decide) (by decide)]
      exact hread
  | exporting head source =>
    obtain ⟨t, k, x, u, v, hexport, hlex, hk, hgoes, hread, ht⟩ :=
      reads_tolerantExport rule hd hfuel hy hsemi
    have hword : (lexeme e.dialect c).word = "export" := by simp only [Lexeme.word, hexport.kind]
    refine ⟨t, "export", x, hexport, reads_wordStatement hexport hlex ?_ ?_, ht⟩
    · exact hk.ne_mark (by decide) (by decide)
    · refine Reads.context.silent_bind ?_
      simp only [hword, hlex.kind, hd, hgoes]
      cases hk with
      | brace => exact hread
      | star => exact hread

/-! ## Items -/

/-- Neither a first line for the system nor a markup comment starts here. -/
def Unmarked (c : Cursor) : Prop :=
  c.startsWith "#!" = false ∧ c.startsWith "<!--" = false ∧ c.startsWith "-->" = false

theorem unmarked_of_end (h : c.rest = []) : Unmarked c := by
  simp [Unmarked, Cursor.startsWith, h]

theorem unmarked_of_item {item : ModuleItem} {rest : List Char}
    (h : c.rest = item.chars ++ rest) : Unmarked c := by
  unfold Unmarked Cursor.startsWith
  rw [h]
  cases item with
  | importing head gap source => exact ⟨rfl, rfl, rfl⟩
  | exporting head source => exact ⟨rfl, rfl, rfl⟩

/-- Nothing is skipped before a lexeme that starts no markup comment. -/
theorem reads_skipMarkupComments {k : LexemeKind} {x : Cursor} (hfuel : 0 < e.fuel)
    (hlex : Lexes e.dialect c k m x) (hm : Unmarked m) :
    Reads e skipMarkupComments c () [] c := by
  refine Reads.whileTrue_stop hfuel (Reads.context.silent_bind (Reads.look.silent_bind ?_))
  rw [hlex.start, hm.2.1, hm.2.2, if_neg (by simp)]
  exact .pure false

/-- One turn of the statements of a text. -/
def statementTurn (rule : Rules) (wanted : List LexemeKind) : Parser Bool := do
  skipMarkupComments
  let e ← context
  let l ← look
  if l.kind == .mark "\x7d" || l.kind == .endOfText then return false
  else if e.inSwitch && (l.kind == .word "case" || l.kind == .word "default") then return false
  else
    let _ ← rule .statement <|> refuse wanted
    return true

theorem statements_eq (rule : Rules) (wanted : List LexemeKind) :
    statements rule wanted = many (statementTurn rule wanted) :=
  rfl

theorem statementTurn_more {k : LexemeKind} {x : Cursor} {ts : List Tree} {shape : Shape}
    (hfuel : 0 < e.fuel) (hswitch : e.inSwitch = false) (hlex : Lexes e.dialect c k m x)
    (hbrace : k ≠ .mark "\x7d") (hend : k ≠ .endOfText) (hm : Unmarked m)
    (hread : Reads e (rule .statement) c shape ts c') :
    Reads e (statementTurn rule []) c true ts c' := by
  refine (reads_skipMarkupComments hfuel hlex hm).silent_bind ?_
  refine Reads.context.silent_bind (Reads.look.silent_bind ?_)
  rw [hlex.kind, hswitch, if_neg (by simp [hbrace, hend]), if_neg (by simp)]
  exact (Reads.orTry hread).bind_silent (.pure true)

theorem statementTurn_last {x : Cursor} (hfuel : 0 < e.fuel)
    (hlex : Lexes e.dialect c .endOfText m x) (hm : Unmarked m) :
    Reads e (statementTurn rule []) c false [] c := by
  refine (reads_skipMarkupComments hfuel hlex hm).silent_bind ?_
  refine Reads.context.silent_bind (Reads.look.silent_bind ?_)
  rw [hlex.kind, if_pos (by simp)]
  exact .pure false

theorem halts_item (hd : d.strict = false) (item : ModuleItem) (rest : List Char) :
    Halts d (item.chars ++ rest) := by
  cases item with
  | importing head gap source =>
    have hi : isNameStart 'i' = true := by decide
    exact not_isBlank_of_isNameStart hd hi
  | exporting head source =>
    have he : isNameStart 'e' = true := by decide
    exact not_isBlank_of_isNameStart hd he

/-- The place of a declaration behind what is skipped, and what follows its semicolon. -/
theorem declaration_split {item : ModuleItem} {ending : List Blank} {rest : List Char}
    (hpre : Skips d pre)
    (h : c.Passes (pre ++ ((Item.declaration item ending).chars ++ rest)) c') :
    ∃ m x, c.Passes pre m ∧ Unmarked m ∧ Stands d c m (item.chars ++ (layout ending ++ [';'])) x ∧
      x.Passes (['\n'] ++ rest) c' := by
  have hchars : (Item.declaration item ending).chars ++ rest =
      (item.chars ++ (layout ending ++ [';'])) ++ (['\n'] ++ rest) := by
    simp [Item.chars]
  rw [hchars] at h
  obtain ⟨m, hm, hstands⟩ := Stands.of_skips hpre h
  obtain ⟨x, hx, hrest⟩ := hstands.split
  refine ⟨m, x, hm, ?_, hx, hrest.passes⟩
  have hplace := hx.passes.rest_eq
  rw [List.append_assoc] at hplace
  exact unmarked_of_item hplace

theorem line_declaration {item : ModuleItem} {ending : List Blank} {x : Cursor}
    (h : m.Passes (item.chars ++ (layout ending ++ [';'])) x) :
    x.line + 1 = m.line + (Item.declaration item ending).chars.count '\n' := by
  rw [h.line_eq]
  simp [Item.chars]
  omega

/-- The statements of a text, up to its end. The induction is on the items; what has been skipped
since the last declaration is carried along. -/
theorem reads_items {rule inner : Rules} (hrule : rule .statement = statement inner)
    (hd : e.dialect.strict = false) (hswitch : e.inSwitch = false) {items : List Item} {fuel : Nat}
    (hturns : items.length < fuel) (hpre : Skips e.dialect pre) (hroom : c.rest.length < e.fuel)
    (h : c.Passes (pre ++ items.flatMap Item.chars) c') (hend : c'.rest = []) :
    ∃ ts z, (∀ depth, Reads e (gatherTurns depth (statementTurn rule []) fuel) c () ts z) ∧
      (lexeme e.dialect z).kind = .endOfText ∧
      Tree.DeclareAll (declaredFrom (c.line + pre.count '\n' + 1) items) ts := by
  have hpos : 0 < e.fuel := Nat.lt_of_le_of_lt (Nat.zero_le _) hroom
  obtain ⟨fuel, rfl⟩ : ∃ n, fuel = n + 1 := ⟨fuel - 1, by omega⟩
  induction items generalizing c pre fuel with
  | nil =>
    obtain ⟨m, hm, hstands⟩ := Stands.of_skips hpre h
    have hlex := Lexes.endOfText hstands hend
    exact ⟨[], c, fun depth => .gatherTurns_last
      (statementTurn_last hpos hlex (unmarked_of_end hend)), hlex.kind, .nil⟩
  | cons item items ih =>
    rw [List.flatMap_cons] at h
    cases item with
    | declaration item ending =>
      obtain ⟨m, x, hm, hunmarked, hstands, hrest⟩ := declaration_split hpre h
      obtain ⟨t, w, y, hlex, hread, ht⟩ := reads_statement inner hd hroom hstands
      rw [← hrule] at hread
      have hlength := hstands.rest_length
      have hroom' : x.rest.length < e.fuel := by omega
      obtain ⟨fuel, rfl⟩ : ∃ n, fuel = n + 1 := ⟨fuel - 1, by simp at hturns; omega⟩
      have hfeed : Skips e.dialect ['\n'] := skips_layout hd [.lineFeed]
      obtain ⟨ts, z, hreads, hkind, hts⟩ :=
        ih hfeed hroom' hrest fuel (by simpa using hturns)
      refine ⟨t :: ts, z, ?_, hkind, ?_⟩
      · intro depth
        exact Reads.gatherTurns_more (statementTurn_more hpos hswitch hlex (by simp) (by simp)
          hunmarked hread)
          (hreads depth)
      · have hline := line_declaration hstands.passes
        have hfirst := hm.line_eq
        have hcount : x.line + ['\n'].count '\n' + 1 = c.line + pre.count '\n' + 1 +
            (Item.declaration item ending).chars.count '\n' := by
          simp only [List.count_singleton_self]
          omega
        rw [hcount] at hts
        rw [hfirst] at ht
        exact .cons ht hts
    | comment comment =>
      rw [← List.append_assoc] at h
      obtain ⟨ts, z, hreads, hkind, hts⟩ :=
        ih (hpre.append (skips_comment hd comment)) hroom h fuel (by simp at hturns; omega)
      refine ⟨ts, z, hreads, hkind, ?_⟩
      have hcount : c.line + (pre ++ (comment.chars ++ ['\n'])).count '\n' + 1 =
          c.line + pre.count '\n' + 1 + (Item.comment comment).chars.count '\n' := by
        rw [List.count_append, Item.chars]
        omega
      rw [hcount] at hts
      exact hts

/-- The first lexeme of a text starts a declaration or stands at the end. -/
theorem unmarked_first {items : List Item} (hd : d.strict = false) (hpre : Skips d pre)
    (h : c.Passes (pre ++ items.flatMap Item.chars) c') (hend : c'.rest = []) :
    Unmarked (lexeme d c).start := by
  induction items generalizing pre with
  | nil =>
    obtain ⟨m, -, hstands⟩ := Stands.of_skips hpre h
    rw [(Lexes.endOfText hstands hend).start]
    exact unmarked_of_end hend
  | cons item items ih =>
    rw [List.flatMap_cons] at h
    cases item with
    | declaration item ending =>
      obtain ⟨m, x, -, hunmarked, hstands, -⟩ := declaration_split hpre h
      have hhalt : Halts d m.rest := by
        rw [hstands.passes.rest_eq, List.append_assoc]
        exact halts_item hd item _
      have hstart : (lexeme d c).start = m := hstands.place_eq hhalt
      rw [hstart]
      exact hunmarked
    | comment comment =>
      rw [← List.append_assoc] at h
      exact ih (hpre.append (skips_comment hd comment)) h

theorem length_le_chars (items : List Item) :
    items.length ≤ (items.flatMap Item.chars).length := by
  induction items with
  | nil => exact Nat.le_refl 0
  | cons item items ih =>
    rw [List.flatMap_cons, List.length_append, List.length_cons]
    have hitem : 0 < item.chars.length := by
      cases item <;> simp only [Item.chars, List.length_append, List.length_cons] <;> omega
    omega

/-- A text is its statements, up to the end. -/
theorem reads_program_of_turns {z : Cursor} {ts : List Tree} {depth : Nat}
    (hstart : Unmarked (lexeme e.dialect c).start)
    (hreads : ∀ marks,
      Reads e (gatherTurns marks (statementTurn (rules depth) []) e.fuel) c () ts z)
    (hend : (lexeme e.dialect z).kind = .endOfText) : Reads e (program depth) c () ts z := by
  refine Reads.look.silent_bind ?_
  rw [hstart.1, Bool.and_false, if_neg Bool.false_ne_true, statements_eq]
  refine (Reads.many hreads).bind_silent (Reads.look.silent_bind ?_)
  rw [hend, if_pos (by simp)]
  exact .pure ()

theorem reads_program {items : List Item} (hd : e.dialect.strict = false)
    (hswitch : e.inSwitch = false) (hfuel : (items.flatMap Item.chars).length + 1 < e.fuel)
    (hrest : c.rest = items.flatMap Item.chars) (depth : Nat) :
    ∃ ts z, Reads e (program (depth + 1)) c () ts z ∧
      Tree.DeclareAll (declaredFrom (c.line + 1) items) ts := by
  have hall : c.rest = items.flatMap Item.chars ++ [] := by rw [hrest, List.append_nil]
  obtain ⟨c', hpass, hend⟩ := Cursor.Passes.exists_of_rest hall
  have hlength := length_le_chars items
  have hstart : Unmarked (lexeme e.dialect c).start := unmarked_first hd Skips.nil hpass hend
  have hrule : rules (depth + 1) .statement = statement (rules depth) := rfl
  have hturns : items.length < e.fuel := by omega
  have hroom : c.rest.length < e.fuel := by
    rw [hrest]
    omega
  obtain ⟨ts, z, hreads, hkind, hts⟩ :=
    reads_items hrule hd hswitch hturns Skips.nil hroom hpass hend
  exact ⟨ts, z, reads_program_of_turns hstart hreads hkind, hts⟩

/-! ## The whole text -/

/-- A text that is read to its end is read without repairs. -/
theorem treeOfText_of_reads {language : Language} {text : String} {z : Cursor} {ts : List Tree}
    (h : let start := Cursor.ofText text
      Reads { dialect := Dialect.tolerant language, fuel := start.rest.length + 2 }
        (program (16 * start.rest.length + 64)) start () ts z) :
    treeOfText language text = .node { kind := .program } ts := by
  let start := Cursor.ofText text
  let d := Dialect.tolerant language
  obtain ⟨s, hdone, -, hout⟩ := h
    { lexeme := lexeme d start, previous := start, out := [], marks := [], repairs := []
      reach := { lexeme := { lexeme d start with start := start, stop := start }
                 previous := start, marks := [], wanted := [] } } ⟨rfl, rfl⟩
  have hdone' : Grammar.read (Dialect.tolerant language) start [] = .done () s := hdone
  simp only [treeOfText, Job.read]
  rw [hdone']
  simp only [Search.treeOf, hout, List.append_nil, List.reverse_reverse]

/-- Reading the text of some items makes no repairs. -/
theorem treeOfText_textOf (language : Language) (items : List Item) :
    ∃ ts, treeOfText language (textOf items) = .node { kind := .program } ts ∧
      Tree.DeclareAll (declaredFrom 1 items) ts := by
  let start := Cursor.ofText (textOf items)
  have hrest : start.rest = items.flatMap Item.chars := String.toList_ofList
  let e : Context := { dialect := Dialect.tolerant language, fuel := start.rest.length + 2 }
  have hfuel : (items.flatMap Item.chars).length + 1 < e.fuel := by
    rw [← hrest]
    exact Nat.lt_succ_self _
  obtain ⟨ts, z, hread, hts⟩ := reads_program (e := e) (strict_tolerant language) rfl hfuel hrest
    (16 * start.rest.length + 63)
  exact ⟨ts, treeOfText_of_reads hread, hts⟩

/-- Reading undoes writing: the tree of a text of module items has their declarations. -/
theorem parse_textOf {path : String} {language : Language}
    (h : Language.ofPath? path = some language) (items : List Item) :
    ∃ tree, parse path (textOf items) = .ok tree ∧ tree.hasFault = false ∧
      tree.preorder.filterMap Tree.declared? = declaredFrom 1 items := by
  obtain ⟨ts, htree, hts⟩ := treeOfText_textOf language items
  have hprogram : (Tree.node { kind := .program } ts).hasFault = false :=
    Tree.hasFault_node rfl (by simp) hts.faultless
  refine ⟨.node { kind := .program } ts, ?_, hprogram, ?_⟩
  · rw [parse, h]
    simp [htree, hprogram]
  · rw [Tree.filterMap_preorder_node, hts.declared_eq]
    rfl

namespace RoundTripSample

def react : Identifier :=
  { first := 'R', rest := "eact".toList, spelled := by decide, unqualifying := by decide }

def h : Identifier :=
  { first := 'h', rest := [], spelled := by decide, unqualifying := by decide }

def mount : Identifier :=
  { first := 'm', rest := "ount_1".toList, spelled := by decide, unqualifying := by decide }

def space : Gap :=
  { first := .space }

theorem unended_remark : ¬ "*/".toList <:+: "/ import a from 'a';\n*".toList := by
  decide +kernel

/-- A comment that reads like an import and goes over two lines. -/
def remark : Comment :=
  .block "/ import a from 'a';\n*".toList (by simp [isPrintable]) unended_remark

/-- A default and a list, with a new name and line feeds in the list. -/
def importing : ModuleItem :=
  .importing
    (.binding space
      (.both react [] [.space]
        (.list
          { opening := [.lineFeed, .tab]
            elements := some ({ name := h },
              [{ before := [], after := [.space]
                 element := { name := react, newName := some ⟨space, space, mount⟩ } }])
            closing := [.lineFeed] }))
      space)
    space
    { quote := .single, contents := "react".toList, plain := by simp [isPrintable, Quote.char] }

/-- A literal with a quote of the other kind in it. -/
def quoted : Literal :=
  { quote := .double, contents := "it's".toList, plain := by simp [isPrintable, Quote.char] }

/-- A new name that is a literal. -/
def exporting : ModuleItem :=
  .exporting
    (.list
      { opening := [.space]
        elements := some
          ({ name := .identifier h
             newName := some ⟨space, space, .literal quoted (by decide)⟩ },
            [])
        closing := [] })
    { quote := .double, contents := "./dom".toList, plain := by simp [isPrintable, Quote.char] }

def items : List Item :=
  [.comment remark, .declaration importing [], .declaration exporting [.space]]

end RoundTripSample

open RoundTripSample in
theorem parse_textOf_sample :
    Language.ofPath? "src/view.tsx" = some .tsx ∧
      textOf items = "/*/ import a from 'a';\n**/\nimport React, \x7b\n\th, React as mount_1\n" ++
        "\x7d from 'react';\nexport \x7b h as \"it's\"\x7d from \"./dom\" ;\n" ∧
      ∃ tree, parse "src/view.tsx" (textOf items) = .ok tree ∧ tree.hasFault = false ∧
        tree.preorder.filterMap Tree.declared? =
          [{ kind := .importing, line := 3, specifier := some "react"
             names := ["React", "h", "mount_1"] },
           { kind := .exporting, line := 6, specifier := some "./dom", names := ["it's"] }] := by
  have hpath : Language.ofPath? "src/view.tsx" = some .tsx := by decide +kernel
  have hdeclared : declaredFrom 1 items =
      [{ kind := .importing, line := 3, specifier := some "react"
         names := ["React", "h", "mount_1"] },
       { kind := .exporting, line := 6, specifier := some "./dom", names := ["it's"] }] := by
    decide +kernel
  rw [← hdeclared]
  exact ⟨hpath, by decide +kernel, parse_textOf hpath items⟩

end PackageUsage.Source
