import PackageUsage.Proofs.Source.Imports

/-!
# Re-export declarations

What a re-export is read into: one node, which starts on the line of the word `export`, names the
module of its literal, and holds the exported names in order. Where a statement may end at a line
break, a single space before a lexeme shows that the declaration goes on.
-/

namespace PackageUsage.Source

open PackageUsage.Source.Parser PackageUsage.Source.Grammar

variable {e : Context} {c c' m w x y z : Cursor} {d : Dialect} {k : LexemeKind}

/-! ## Lines -/

/-- A lexeme with no line feed before it ends no statement, unless it always does. -/
theorem endsStatement_eq_false (hd : d.strict = false) (hlex : Lexes d c k m c')
    (hend : k ≠ .endOfText) (hbrace : k ≠ .mark "\x7d") {blanks : List Blank}
    (hpass : c.Passes (layout blanks) m) (hblanks : blanks.contains .lineFeed = false)
    (hhalt : Halts d m.rest) (expression : Bool) :
    endsStatement d expression (lexeme d c) = false := by
  obtain ⟨hline, hcomment⟩ := lexeme_after_layout hd hpass hhalt
  rw [hblanks] at hline
  have hreading : (lexeme d c).reading = .any := rfl
  unfold endsStatement
  rw [hreading, hlex.kind, hline, hcomment, hd]
  split
  · rfl
  · split <;> simp_all

/-! ## What is exported -/

theorem reads_exportClause (hd : e.dialect.strict = false) (hfuel : c.rest.length < e.fuel)
    {b : Braced ExportName} (h : Stands e.dialect c m (b.chars ExportName.chars) c') :
    ∃ t x, Lexes e.dialect c (.mark "\x7b") m x ∧ Reads e exportClause c () [t] c' ∧
      t.info.role = none ∧ t.exportNames = b.bound.map ExportName.text ∧ t.Plain := by
  have hitem (e' : Context) (he : e'.dialect = e.dialect) :
      ElementReader e' ExportName.chars ExportName.text .exportSpecifier exportSpecifier :=
    elementReader_export (by rw [he, hd])
  obtain ⟨t, x, hopen, hread, ht⟩ := reads_list hd hitem .exportClause (by decide) hfuel h
  rw [← exportClause_eq] at hread
  refine ⟨t, x, hopen, hread, ht.role_eq, ?_, ht.plain⟩
  rw [Tree.exportNames, ht.kind_eq, ht.names_eq]

theorem reads_namespaceExport (hd : e.dialect.strict = false) {g g' : Gap} {name : Identifier}
    (h : Stands e.dialect c m
      (['*'] ++ (g.chars ++ ("as".toList ++ (g'.chars ++ name.chars)))) c')
    (hends : WordEnds c'.rest) :
    ∃ t u v w, Lexes e.dialect c (.mark "*") m u ∧ Lexes e.dialect u (.word "as") v w ∧
      Reads e namespaceExport c () [t] c' ∧ t.info.role = none ∧ t.exportNames = [name.text] ∧
      t.Plain := by
  obtain ⟨u, v, w, x, hstar, has, hname⟩ := whole_split hd h
  have hlex := Lexes.identifier hd hname hends
  have hleaf := Tree.nameLeaf_identifier hname.passes none
  refine ⟨.node { kind := .namespaceExport, line := m.line, column := m.column }
    [.leafBetween .identifier none x c'], u, v, w, hstar, has, Reads.node hstar ?_, rfl, ?_, ?_⟩
  · refine (Reads.mark hstar).silent_bind ((Reads.keyword has).silent_bind ?_)
    refine Reads.look.silent_bind ?_
    rw [if_neg (by simp [hlex.kind])]
    exact reads_identifierLeaf hd hname hends none []
  · show [(Tree.leafBetween .identifier none x c').nameText] = [name.text]
    rw [hleaf.nameText_eq]
  · exact Tree.plain_node rfl (by simp) (by simpa using hleaf.plain)

/-! ## Declarations -/

/-- The lexemes of a re-export around what is exported. -/
theorem exporting_split (hd : d.strict = false) {head : ExportHead} {source : Literal}
    (h : Stands d c m (ModuleItem.chars (.exporting head source)) c') :
    ∃ u v w x y z, Lexes d c (.word "export") m u ∧ u.rest.length ≤ c.rest.length ∧
      u.Passes (layout [.space]) v ∧ Stands d u v head.chars w ∧ BlankAhead w ∧
      w.Passes (layout [.space]) x ∧ Halts d x.rest ∧ Lexes d w (.word "from") x y ∧
      Stands d y z source.chars c' := by
  let space : Gap := { first := .space }
  have hchars : ModuleItem.chars (.exporting head source) =
      "export".toList ++ (space.chars ++ (head.chars ++ (space.chars ++ ("from".toList ++
        (space.chars ++ source.chars))))) := by
    show ("export".toList ++ [' ']) ++ head.chars ++ (' ' :: "from".toList ++ [' ']) ++
      source.chars = _
    simp only [List.append_assoc, List.cons_append, List.nil_append]
    rfl
  rw [hchars] at h
  obtain ⟨u, v, hu, hblank, hspace, hv⟩ := h.split_blanks hd
  obtain ⟨w, x, hw, hblank', hspace', hx⟩ := hv.split_blanks hd
  obtain ⟨y, z, hy, hblank'', hz⟩ := hx.split_gap hd
  have hroom := hu.rest_length
  have hhalt : Halts d x.rest := by
    rw [hy.passes.rest_eq]
    exact not_isBlank_of_isNameStart hd (by decide)
  exact ⟨u, v, w, x, y, z, Lexes.keyword hd hu (by decide) hblank.wordEnds, by omega, hspace, hw,
    hblank', hspace', hhalt, Lexes.keyword hd hy (by decide) hblank''.wordEnds, hz⟩

theorem halts_exportHead (hd : d.strict = false) (head : ExportHead) (rest : List Char) :
    Halts d (head.chars ++ rest) := by
  cases head with
  | all => exact IsMark.halts hd .star
  | whole name => exact IsMark.halts hd .star
  | list elements => exact IsMark.halts hd .opening

/-- What follows the list of a re-export. -/
theorem reads_exportListRest (hd : e.dialect.strict = false) {blanks : List Blank}
    (hpass : c.Passes (layout blanks) m) (hblanks : blanks.contains .lineFeed = false)
    (hhalt : Halts e.dialect m.rest) (hfrom : Lexes e.dialect c (.word "from") m x)
    (hsource : Lexes e.dialect x .string y c') (hsemi : Lexes e.dialect c' (.mark ";") z w) :
    Reads e exportListRest c () [.leafBetween .string (some .source) y c'] w := by
  have hgoes := endsStatement_eq_false hd hfrom (by simp) (by simp) hpass hblanks hhalt false
  refine Reads.context.silent_bind (Reads.look.silent_bind ((Reads.atWord hfrom).silent_bind ?_))
  rw [hgoes, if_pos (by simp)]
  exact (reads_fromClause hfrom hsource).bind_silent (reads_semicolon hsemi false)

theorem reads_exportBody (rule : Rules) (hd : e.dialect.strict = false)
    (hfuel : c.rest.length < e.fuel)
    {head : ExportHead} {source : Literal}
    (h : Stands e.dialect c m (ModuleItem.chars (.exporting head source)) c')
    (hsemi : Lexes e.dialect c' (.mark ";") z w) :
    ∃ parts k x u v s, Lexes e.dialect c (.word "export") m x ∧ Lexes e.dialect x k u v ∧
      StartsGroup k ∧ endsStatement e.dialect true (lexeme e.dialect x) = false ∧
      Reads e (exportBody rule) c () (parts ++ [.leafBetween .string (some .source) s c']) w ∧
      s.Passes source.chars c' ∧ parts.flatMap Tree.exportNames = head.names ∧
      (∀ t ∈ parts, t.info.role = none) ∧ ∀ t ∈ parts, t.Plain := by
  obtain ⟨x, u, n, f, f', s, hexport, hroom, hspace, hhead, hblank, hspace', hhalt, hfrom, hs⟩ :=
    exporting_split hd h
  have hsource := Lexes.literal hd hs
  have hgoes {k : LexemeKind} {v : Cursor} (hlex : Lexes e.dialect x k u v) (hk : StartsGroup k) :
      endsStatement e.dialect true (lexeme e.dialect x) = false := by
    have hhalt' : Halts e.dialect u.rest := by
      rw [hhead.passes.rest_eq]
      exact halts_exportHead hd head _
    exact endsStatement_eq_false hd hlex (by cases hk <;> simp) (by cases hk <;> simp) hspace rfl
      hhalt' true
  cases head with
  | all =>
    have hstar : Lexes e.dialect x (.mark "*") u n := Lexes.mark hd hhead .star (fun _ => hblank)
    refine ⟨[], _, x, u, n, s, hexport, hstar, .star, hgoes hstar .star, ?_, hs.passes, rfl,
      by simp, by simp⟩
    refine Reads.context.silent_bind ((Reads.keyword hexport).silent_bind ?_)
    refine Reads.look.silent_bind ((Reads.lookAfter hstar).silent_bind ?_)
    simp only [hstar.kind, hfrom.kind]
    rw [if_neg (by simp)]
    refine (Reads.bump hstar).silent_bind ?_
    exact (reads_fromClause hfrom hsource).bind_silent (reads_semicolon hsemi false)
  | whole name =>
    have hchars : ExportHead.chars (.whole name) = ['*'] ++ (Gap.chars { first := .space } ++
        ("as".toList ++ (Gap.chars { first := .space } ++ name.chars))) := rfl
    rw [hchars] at hhead
    obtain ⟨t, v, a, b, hstar, has, hread, hrole, hnames, hplain⟩ :=
      reads_namespaceExport hd hhead hblank.wordEnds
    refine ⟨[t], _, x, u, v, s, hexport, hstar, .star, hgoes hstar .star, ?_, hs.passes, ?_, ?_, ?_⟩
    · refine Reads.context.silent_bind ((Reads.keyword hexport).silent_bind ?_)
      refine Reads.look.silent_bind ((Reads.lookAfter hstar).silent_bind ?_)
      simp only [hstar.kind, has.kind]
      rw [if_pos (by simp)]
      refine hread.bind ?_
      exact (reads_fromClause hfrom hsource).bind_silent (reads_semicolon hsemi false)
    · simpa [ExportHead.names] using hnames
    · simpa using hrole
    · simpa using hplain
  | list elements =>
    obtain ⟨t, v, hopen, hread, hrole, hnames, hplain⟩ :=
      reads_exportClause hd (Nat.lt_of_le_of_lt hroom hfuel) hhead
    refine ⟨[t], _, x, u, v, s, hexport, hopen, .brace, hgoes hopen .brace, ?_, hs.passes, ?_, ?_,
      ?_⟩
    · refine Reads.context.silent_bind ((Reads.keyword hexport).silent_bind ?_)
      refine Reads.look.silent_bind ((Reads.lookAfter hopen).silent_bind ?_)
      simp only [hopen.kind]
      exact hread.bind (reads_exportListRest hd hspace' rfl hhalt hfrom hsource hsemi)
    · simpa [ExportHead.names] using hnames
    · simpa using hrole
    · simpa using hplain

theorem reads_tolerantExport (rule : Rules) (hd : e.dialect.strict = false)
    (hfuel : c.rest.length < e.fuel)
    {head : ExportHead} {source : Literal}
    (h : Stands e.dialect c m (ModuleItem.chars (.exporting head source)) c')
    (hsemi : Lexes e.dialect c' (.mark ";") z w) :
    ∃ t k x u v, Lexes e.dialect c (.word "export") m x ∧ Lexes e.dialect x k u v ∧
      StartsGroup k ∧ endsStatement e.dialect true (lexeme e.dialect x) = false ∧
      Reads e (tolerantExport rule) c () [t] w ∧
      t.Declares { kind := .exporting, line := m.line + 1, specifier := some source.text,
                   names := head.names } := by
  obtain ⟨parts, k, x, u, v, s, hexport, hlex, hk, hgoes, hread, hs, hnames, hrole, hplain⟩ :=
    reads_exportBody rule hd hfuel h hsemi
  have hdeclares := Tree.declares_export m.line m.column parts hrole hplain hs
  rw [hnames] at hdeclares
  exact ⟨_, k, x, u, v, hexport, hlex, hk, hgoes, Reads.node hexport hread, hdeclares⟩

end PackageUsage.Source
