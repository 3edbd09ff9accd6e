import PackageUsage.Proofs.Source.Lists

/-!
# The elements of imports and exports

The names of imports are identifiers, those of exports are identifiers or literals. An element of
either list is one node that binds the name of the element, and so is the whole list.
-/

namespace PackageUsage.Source

open PackageUsage.Source.Parser PackageUsage.Source.Grammar

variable {e : Context} {c c' m : Cursor}

/-! ## Names -/

theorem Identifier.text_ne_empty (i : Identifier) : i.text ≠ "" := by
  intro h
  have hlist := congrArg String.toList h
  simp [Identifier.text, Identifier.chars] at hlist

/-- An identifier is none of the two words that may qualify a name. -/
theorem Identifier.text_ne (i : Identifier) : i.text ≠ "type" ∧ i.text ≠ "typeof" := by
  have hchars {w : String} (h : i.text = w) : i.first :: i.rest = w.toList := by
    rw [← h, Identifier.text, String.toList_ofList]
    rfl
  exact ⟨fun h => i.unqualifying.1 (hchars h), fun h => i.unqualifying.2 (hchars h)⟩

theorem isIdentifier_of_word (hd : e.dialect.strict = false) {w : String}
    (h : Lexes e.dialect c (.word w) m c') : isIdentifier e [] (lexeme e.dialect c) = true := by
  have hreading : (lexeme e.dialect c).reading = .any := rfl
  simp [isIdentifier, h.kind, hd, hreading]

theorem reads_identifierLeaf (hd : e.dialect.strict = false) {i : Identifier}
    (h : Stands e.dialect c m i.chars c') (hends : WordEnds c'.rest) (role : Option Role)
    (completedBy : List String) :
    Reads e (identifierLeaf role completedBy) c () [.leafBetween .identifier role m c'] c' := by
  have hlex := Lexes.identifier hd h hends
  refine Reads.look.silent_bind (Reads.context.silent_bind ?_)
  rw [if_pos (isIdentifier_of_word hd hlex)]
  exact Reads.leaf hlex .identifier role

theorem nameReader_import (hd : e.dialect.strict = false) :
    NameReader e Identifier.chars Identifier.text
      fun role => identifierLeaf (some role) [",", "\x7d"] where
  nonempty := Identifier.text_ne_empty
  lexes h hends := ⟨_, Lexes.identifier hd h hends, by simp⟩
  reads h hends role :=
    ⟨_, reads_identifierLeaf hd h hends (some role) _, Tree.nameLeaf_identifier h.passes _⟩

theorem nameReader_export (hd : e.dialect.strict = false) :
    NameReader e ExportName.chars ExportName.text exportedName where
  nonempty n := by
    cases n with
    | identifier i => exact i.text_ne_empty
    | literal l nonempty =>
      intro h
      have hlist := congrArg String.toList h
      exact nonempty (by simpa [ExportName.text, Literal.text] using hlist)
  lexes {n _ _ _} h hends := by
    cases n with
    | identifier i => exact ⟨_, Lexes.identifier hd h hends, by simp⟩
    | literal l nonempty => exact ⟨_, Lexes.literal hd h, by simp⟩
  reads {n _ _ _} h hends role := by
    cases n with
    | identifier i =>
      have hlex := Lexes.identifier hd h hends
      refine ⟨_, ?_, Tree.nameLeaf_identifier h.passes _⟩
      refine Reads.look.silent_bind ?_
      rw [if_neg (by simp [hlex.kind])]
      exact reads_identifierLeaf hd h hends (some role) _
    | literal l nonempty =>
      have hlex := Lexes.literal hd h
      refine ⟨_, ?_, Tree.nameLeaf_literal h.passes _⟩
      refine Reads.look.silent_bind ?_
      rw [if_pos (by simp [hlex.kind])]
      exact Reads.leaf hlex .string (some role)

/-- The lexeme of an exported name is none of the two words that may qualify it. -/
theorem exportName_lexes (hd : e.dialect.strict = false) {n : ExportName}
    (h : Stands e.dialect c m n.chars c') (hends : WordEnds c'.rest) :
    ∃ k, Lexes e.dialect c k m c' ∧ k ≠ .word "type" ∧ k ≠ .word "typeof" := by
  cases n with
  | identifier i =>
    obtain ⟨htype, htypeof⟩ := i.text_ne
    exact ⟨_, Lexes.identifier hd h hends, by simpa using htype, by simpa using htypeof⟩
  | literal l nonempty => exact ⟨_, Lexes.literal hd h, by simp, by simp⟩

/-! ## Elements -/

theorem elementReader_import (hd : e.dialect.strict = false) :
    ElementReader e Identifier.chars Identifier.text .importSpecifier importSpecifier where
  lexes h hends := by
    obtain ⟨x, hx, hends'⟩ := element_name hd h hends
    exact ⟨_, x, Lexes.identifier hd hx hends', by simp⟩
  reads {el c m c'} h hdiv := by
    obtain ⟨x, hx, hends⟩ := element_name hd h hdiv.ends
    have hlex := Lexes.identifier hd hx hends
    obtain ⟨ts, hread, hts⟩ := (nameReader_import hd).reads_renamable hd h hdiv
    let info : NodeInfo := { kind := .importSpecifier, line := m.line, column := m.column }
    refine ⟨.node info ts, Reads.node hlex ?_, hts info rfl (by simp [info])⟩
    obtain ⟨htype, htypeof⟩ := el.name.text_ne
    refine Reads.context.silent_bind (Reads.look.silent_bind ?_)
    refine (Reads.lookAfter hlex).silent_bind ?_
    simp only [hlex.kind]
    rw [if_neg (by simp [htype, htypeof])]
    refine Reads.look.silent_bind ?_
    rw [if_neg (by simp [hlex.kind])]
    exact hread

theorem elementReader_export (hd : e.dialect.strict = false) :
    ElementReader e ExportName.chars ExportName.text .exportSpecifier exportSpecifier where
  lexes h hends := by
    obtain ⟨x, hx, hends'⟩ := element_name hd h hends
    obtain ⟨k, hlex, hk⟩ := (nameReader_export hd).lexes hx hends'
    exact ⟨k, x, hlex, hk⟩
  reads {el c m c'} h hdiv := by
    obtain ⟨x, hx, hends⟩ := element_name hd h hdiv.ends
    obtain ⟨k, hlex, htype, htypeof⟩ := exportName_lexes hd hx hends
    obtain ⟨ts, hread, hts⟩ := (nameReader_export hd).reads_renamable hd h hdiv
    let info : NodeInfo := { kind := .exportSpecifier, line := m.line, column := m.column }
    refine ⟨.node info ts, Reads.node hlex ?_, hts info rfl (by simp [info])⟩
    refine Reads.context.silent_bind ?_
    refine (Reads.atWord hlex).silent_bind ((Reads.atWord hlex).silent_bind ?_)
    rw [if_neg (by simp [htype, htypeof])]
    exact hread

/-! ## Lists -/

theorem namedImports_eq : namedImports = node .namedImports (braced importSpecifier) :=
  rfl

theorem exportClause_eq : exportClause = node .exportClause (braced exportSpecifier) :=
  rfl

end PackageUsage.Source
