import PackageUsage.Proofs.Source.Specifiers

/-!
# Import declarations

What an import declaration is read into: one node, which starts on the line of the word `import`,
names the module of its literal, and binds the names of its clause in order.
-/

namespace PackageUsage.Source

open PackageUsage.Source.Parser PackageUsage.Source.Grammar

variable {e : Context} {c c' m x y z : Cursor} {rule : Rules} {d : Dialect}

/-! ## Groups -/

theorem reads_namedImports (hd : e.dialect.strict = false) (hfuel : c.rest.length < e.fuel)
    {b : Braced Identifier} (h : Stands e.dialect c m (b.chars Identifier.chars) c') :
    ∃ t x, Lexes e.dialect c (.mark "\x7b") m x ∧ Reads e namedImports c () [t] c' ∧
      t.importPartNames = b.bound.map Identifier.text ∧ t.Plain := by
  have hitem (e' : Context) (he : e'.dialect = e.dialect) :
      ElementReader e' Identifier.chars Identifier.text .importSpecifier importSpecifier :=
    elementReader_import (by rw [he, hd])
  obtain ⟨t, x, hopen, hread, ht⟩ := reads_list hd hitem .namedImports (by decide) hfuel h
  rw [← namedImports_eq] at hread
  refine ⟨t, x, hopen, hread, ?_, ht.plain⟩
  rw [Tree.importPartNames, ht.kind_eq, ht.names_eq]

/-- A star and a new name for the whole module. -/
theorem whole_split (hd : d.strict = false) {g g' : Gap} {name : Identifier}
    (h : Stands d c m (['*'] ++ (g.chars ++ ("as".toList ++ (g'.chars ++ name.chars)))) c') :
    ∃ u v w x, Lexes d c (.mark "*") m u ∧ Lexes d u (.word "as") v w ∧
      Stands d w x name.chars c' := by
  obtain ⟨u, v, hu, hblank, hv⟩ := h.split_gap hd
  obtain ⟨w, x, hw, hblank', hx⟩ := hv.split_gap hd
  exact ⟨u, v, w, x, Lexes.mark hd hu .star (fun _ => hblank),
    Lexes.keyword hd hw (by decide) hblank'.wordEnds, hx⟩

theorem reads_namespaceImport (hd : e.dialect.strict = false) {g g' : Gap} {name : Identifier}
    (h : Stands e.dialect c m
      (['*'] ++ (g.chars ++ ("as".toList ++ (g'.chars ++ name.chars)))) c')
    (hends : WordEnds c'.rest) :
    ∃ t x, Lexes e.dialect c (.mark "*") m x ∧ Reads e namespaceImport c () [t] c' ∧
      t.importPartNames = [name.text] ∧ t.Plain := by
  obtain ⟨u, v, w, x, hstar, has, hname⟩ := whole_split hd h
  have hleaf := Tree.nameLeaf_identifier hname.passes none
  have hread : Reads e (mark "*" >>= fun _ => keyword "as" >>= fun _ => identifierLeaf) c ()
      [.leafBetween .identifier none x c'] c' :=
    (Reads.mark hstar).silent_bind ((Reads.keyword has).silent_bind
      (reads_identifierLeaf hd hname hends none []))
  refine ⟨_, u, hstar, Reads.node hstar hread, ?_, Tree.plain_node rfl (by simp) ?_⟩
  · show [(Tree.leafBetween .identifier none x c').nameText] = [name.text]
    rw [hleaf.nameText_eq]
  · simpa using hleaf.plain

/-- The marks that start a group. -/
inductive StartsGroup : LexemeKind → Prop
  | brace : StartsGroup (.mark "\x7b")
  | star : StartsGroup (.mark "*")

theorem reads_importList (hd : e.dialect.strict = false) (hfuel : c.rest.length < e.fuel)
    {g : ImportGroup} (h : Stands e.dialect c m g.chars c') (hends : WordEnds c'.rest) :
    ∃ t k x, Lexes e.dialect c k m x ∧ StartsGroup k ∧ Reads e importList c () [t] c' ∧
      t.importPartNames = g.names ∧ t.Plain := by
  cases g with
  | whole afterStar afterAs name =>
    have hchars : ImportGroup.chars (.whole afterStar afterAs name) =
        ['*'] ++ (afterStar.chars ++ ("as".toList ++ (afterAs.chars ++ name.chars))) := by
      simp [ImportGroup.chars]
    rw [hchars] at h
    obtain ⟨t, x, hstar, hread, hnames, hplain⟩ := reads_namespaceImport hd h hends
    refine ⟨t, _, x, hstar, .star, (Reads.atMark hstar).silent_bind ?_, hnames, hplain⟩
    exact hread
  | list elements =>
    obtain ⟨t, x, hopen, hread, hnames, hplain⟩ := reads_namedImports hd hfuel h
    refine ⟨t, _, x, hopen, .brace, (Reads.atMark hopen).silent_bind ?_, hnames, hplain⟩
    exact hread

theorem StartsGroup.ne_mark {k : LexemeKind} (h : StartsGroup k) {text : String}
    (hbrace : text ≠ "\x7b") (hstar : text ≠ "*") : k ≠ .mark text := by
  cases h with
  | brace => simpa using hbrace.symm
  | star => simpa using hstar.symm

/-! ## Clauses -/

/-- What stands between the words `import` and `from`. -/
def importBindings : Parser Unit := do
  if (← atMark "\x7b") || (← atMark "*") then importList
  else
    identifierLeaf
    if ← optionalMark "," then importList

/-- The first lexeme behind the word `import`: no word that may qualify the import. -/
inductive StartsImport : LexemeKind → Prop
  | string : StartsImport .string
  | name (i : Identifier) : StartsImport (.word i.text)
  | group {k : LexemeKind} (h : StartsGroup k) : StartsImport k

theorem StartsImport.unqualifying {k : LexemeKind} (h : StartsImport k) :
    (k == .word "type") = false ∧ (k == .word "typeof") = false := by
  cases h with
  | string => exact ⟨rfl, rfl⟩
  | name i => simpa using i.text_ne
  | group h => cases h <;> exact ⟨rfl, rfl⟩

theorem StartsImport.ne_mark {k : LexemeKind} (h : StartsImport k) {text : String}
    (hbrace : text ≠ "\x7b") (hstar : text ≠ "*") : k ≠ .mark text := by
  cases h with
  | string => simp
  | name i => simp
  | group h => exact h.ne_mark hbrace hstar

theorem reads_importBindings (hd : e.dialect.strict = false) (hfuel : c.rest.length < e.fuel)
    {cl : ImportClause} (h : Stands e.dialect c m cl.chars c') (hends : WordEnds c'.rest)
    (hfrom : Lexes e.dialect c' (.word "from") y z) :
    ∃ ts k x, Lexes e.dialect c k m x ∧ k ≠ .string ∧ StartsImport k ∧
      (isIdentifier e [] (lexeme e.dialect c) && (lexeme e.dialect x).kind == .mark "=") = false ∧
      Reads e importBindings c () ts c' ∧ ts.flatMap Tree.importPartNames = cl.names ∧
      ∀ t ∈ ts, t.Plain := by
  cases cl with
  | default name =>
    have hname := Lexes.identifier hd h hends
    have hleaf := Tree.nameLeaf_identifier h.passes none
    refine ⟨[.leafBetween .identifier none m c'], _, c', hname, by simp, .name name, ?_, ?_, ?_, ?_⟩
    · simp [hfrom.kind]
    · refine (Reads.atMark hname).silent_bind ((Reads.atMark hname).silent_bind ?_)
      refine (reads_identifierLeaf hd h hends none []).bind_silent ?_
      exact (Reads.optionalMark_absent hfrom (by simp)).silent_bind (.pure ())
    · show [m.textTo c'] = [name.text]
      rw [h.passes.textTo_eq]
      rfl
    · simpa using hleaf.plain
  | group g =>
    obtain ⟨t, k, x, hlex, hk, hread, hnames, hplain⟩ := reads_importList hd hfuel h hends
    refine ⟨[t], k, x, hlex, ?_, .group hk, ?_, ?_, ?_, by simpa using hplain⟩
    · cases hk <;> simp
    · cases hk <;> simp [isIdentifier, hlex.kind]
    · refine (Reads.atMark hlex).silent_bind ((Reads.atMark hlex).silent_bind ?_)
      rw [if_pos (by cases hk <;> rfl)]
      exact hread
    · simpa [ImportClause.names] using hnames
  | both name before after g =>
    have hchars : ImportClause.chars (.both name before after g) =
        name.chars ++ (layout before ++ ([','] ++ (layout after ++ g.chars))) := by
      simp [ImportClause.chars]
    rw [hchars] at h
    obtain ⟨u, v, hu, hrest, hv⟩ := h.split_layout hd
    obtain ⟨w, x, hw, -, hx⟩ := hv.split_layout hd
    have hends' : WordEnds u.rest := by
      rw [hrest]
      exact wordEnds_layout (.comma _) before
    have hname := Lexes.identifier hd hu hends'
    have hcomma : Lexes e.dialect u (.mark ",") v w := Lexes.mark hd hw .comma (by simp)
    have hroom : w.rest.length < e.fuel := by
      have hu' := hu.rest_length
      have hw' := hw.rest_length
      omega
    obtain ⟨t, k, x', hlex, hk, hread, hnames, hplain⟩ := reads_importList hd hroom hx hends
    refine ⟨[.leafBetween .identifier none m u, t], _, u, hname, by simp, .name name, ?_, ?_, ?_,
      ?_⟩
    · simp [hcomma.kind]
    · refine (Reads.atMark hname).silent_bind ((Reads.atMark hname).silent_bind ?_)
      refine (reads_identifierLeaf hd hu hends' none []).bind ?_
      exact (Reads.optionalMark hcomma).silent_bind hread
    · show m.textTo u :: (t.importPartNames ++ []) = name.text :: g.names
      rw [hu.passes.textTo_eq, hnames, List.append_nil]
      rfl
    · simpa using ⟨(Tree.nameLeaf_identifier hu.passes none).plain, hplain⟩

/-! ## Declarations -/

theorem reads_fromClause (hfrom : Lexes e.dialect c (.word "from") m x)
    (hsource : Lexes e.dialect x .string y c') :
    Reads e fromClause c () [.leafBetween .string (some .source) y c'] c' := by
  refine Reads.settledBefore ((Reads.keyword hfrom).silent_bind (Reads.look.silent_bind ?_))
  rw [if_pos (by simp [hsource.kind])]
  exact Reads.leaf hsource .string (some .source)

theorem reads_importAttributes (hsemi : Lexes e.dialect c (.mark ";") m c') :
    Reads e (importAttributes rule) c () [] c := by
  refine Reads.context.silent_bind ((Reads.atWord hsemi).silent_bind ?_)
  refine (Reads.atWord hsemi).silent_bind ?_
  rw [if_neg (by simp)]
  exact .pure ()

theorem reads_semicolon (hsemi : Lexes e.dialect c (.mark ";") m c') (expression : Bool) :
    Reads e (semicolon expression) c () [] c' :=
  (Reads.optionalMark hsemi).silent_bind (.pure ())

/-- The lexemes of an import declaration from its clause on. -/
theorem binding_split (hd : d.strict = false) {after before gap : Gap} {clause : ImportClause}
    {source : Literal}
    (h : Stands d c m
      (ModuleItem.chars (.importing (.binding after clause before) gap source)) c') :
    ∃ u v w x y z, Lexes d c (.word "import") m u ∧ u.rest.length ≤ c.rest.length ∧
      Stands d u v clause.chars w ∧ WordEnds w.rest ∧ Lexes d w (.word "from") x y ∧
      Stands d y z source.chars c' := by
  have hchars : ModuleItem.chars (.importing (.binding after clause before) gap source) =
      "import".toList ++ (after.chars ++ (clause.chars ++ (before.chars ++
        ("from".toList ++ (gap.chars ++ source.chars))))) := by
    show "import".toList ++ (after.chars ++ clause.chars ++ before.chars ++ "from".toList) ++
      gap.chars ++ source.chars = _
    simp only [List.append_assoc]
  rw [hchars] at h
  obtain ⟨u, v, hu, hblank, hv⟩ := h.split_gap hd
  obtain ⟨w, x, hw, hblank', hx⟩ := hv.split_gap hd
  obtain ⟨y, z, hy, hblank'', hz⟩ := hx.split_gap hd
  have hroom := hu.rest_length
  exact ⟨u, v, w, x, y, z, Lexes.keyword hd hu (by decide) hblank.wordEnds, by omega, hw,
    hblank'.wordEnds, Lexes.keyword hd hy (by decide) hblank''.wordEnds, hz⟩

theorem reads_tolerantImport (rule : Rules) (hd : e.dialect.strict = false)
    (hfuel : c.rest.length < e.fuel)
    {head : ImportHead} {gap : Gap} {source : Literal}
    (h : Stands e.dialect c m (ModuleItem.chars (.importing head gap source)) c')
    (hsemi : Lexes e.dialect c' (.mark ";") y z) :
    ∃ t k x u v, Lexes e.dialect c (.word "import") m x ∧ Lexes e.dialect x k u v ∧
      StartsImport k ∧ Reads e (tolerantImport rule) c () [t] z ∧
      t.Declares { kind := .importing, line := m.line + 1, specifier := some source.text,
                   names := head.names } := by
  cases head with
  | effect =>
    have hchars : ModuleItem.chars (.importing .effect gap source) =
        "import".toList ++ (gap.chars ++ source.chars) := by
      show "import".toList ++ [] ++ gap.chars ++ source.chars = _
      rw [List.append_nil, List.append_assoc]
    rw [hchars] at h
    obtain ⟨x, u, hx, hblank, hu⟩ := h.split_gap hd
    have himport : Lexes e.dialect c (.word "import") m x :=
      Lexes.keyword hd hx (by decide) hblank.wordEnds
    have hsource := Lexes.literal hd hu
    refine ⟨_, _, x, u, c', himport, hsource, .string, Reads.nodeOf himport ?_,
      Tree.declares_import m.line m.column [] (by simp) (by simp) hu.passes⟩
    refine Reads.context.silent_bind ((Reads.keyword himport).silent_bind ?_)
    refine Reads.look.silent_bind ((Reads.lookAfter hsource).silent_bind ?_)
    simp only [hsource.kind]
    rw [if_neg (by simp)]
    refine Reads.look.silent_bind ((Reads.lookAfter hsource).silent_bind ?_)
    rw [if_pos (by simp [hsource.kind])]
    refine (Reads.leaf hsource .string (some .source)).bind_silent ?_
    refine (reads_importAttributes hsemi).silent_bind ?_
    exact (reads_semicolon hsemi false).silent_bind (.pure _)
  | binding after clause before =>
    obtain ⟨x, u, w, f, f', s, himport, hroom, hclause, hends, hfrom, hs⟩ := binding_split hd h
    have hsource := Lexes.literal hd hs
    obtain ⟨ts, k, v, hlex, hstring, hk, hassign, hread, hnames, hplain⟩ :=
      reads_importBindings hd (Nat.lt_of_le_of_lt hroom hfuel) hclause hends hfrom
    let part : Tree := .node { kind := .importClause, line := u.line, column := u.column } ts
    have hpart : part.Plain := Tree.plain_node rfl (by simp) hplain
    have hnames' : [part].flatMap Tree.importNames = clause.names := by
      show ts.flatMap Tree.importPartNames ++ [] = clause.names
      rw [hnames, List.append_nil]
    have hdeclares := Tree.declares_import m.line m.column [part] (by simp [part, Tree.info])
      (by simpa using hpart) hs.passes
    rw [hnames'] at hdeclares
    refine ⟨_, k, x, u, v, himport, hlex, hk, Reads.nodeOf himport ?_, hdeclares⟩
    obtain ⟨htype, htypeof⟩ := hk.unqualifying
    refine Reads.context.silent_bind ((Reads.keyword himport).silent_bind ?_)
    refine Reads.look.silent_bind ((Reads.lookAfter hlex).silent_bind ?_)
    simp only [hlex.kind]
    rw [if_neg (by simp [htype, htypeof])]
    refine Reads.look.silent_bind ((Reads.lookAfter hlex).silent_bind ?_)
    rw [if_neg (by simpa [hlex.kind] using hstring), Bool.and_assoc, hassign, Bool.and_false,
      if_neg Bool.false_ne_true]
    refine (Reads.node hlex hread).bind ?_
    refine (reads_fromClause hfrom hsource).bind_silent ?_
    refine (reads_importAttributes hsemi).silent_bind ?_
    exact (reads_semicolon hsemi false).silent_bind (.pure _)

end PackageUsage.Source
