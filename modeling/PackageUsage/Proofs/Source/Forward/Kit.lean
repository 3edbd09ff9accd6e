import PackageUsage.Proofs.Source.Forward.Basic

/-!
# The kit goes forward

A parser moves on in the text with each lexeme it takes. A raw jump moves on when it leads behind
the next lexeme, a leaf is made of a lexeme of its kind, and a node starts at the first lexeme of
its symbol.
-/

namespace PackageUsage.Source

namespace Forward

variable {α β : Type} {l : Lexeme} {text : Cursor} {e : Context} {s : State}

/-! ## Lexemes -/

/-- Raw reading goes forward from the next lexeme on, to a place where reading may start. -/
theorem jump {c : Cursor} (h : l.start ≤ c) (hreached : l.ReadIn text → text.Reached c) :
    Forward text l (Parser.jump c) where
  follows hd _ hs hl := by
    subst hl
    exact follows_shift hd hs (hreached hs.lexeme) (.nil (Cursor.position_mono h)) .nil

instance jump_next [hraw : text.HasRaw] : Forward text l (Parser.jump l.start.next) :=
  jump l.start.le_next fun hl => .raw (hl.within.start.trans l.start.le_next) hraw

/-- A leaf goes forward when it is made of a lexeme of its kind. -/
theorem leaf {kind : NodeKind} (h : kind.MadeOf l.kind) (role : Option Role)
    [hrole : Role.Allowed text role] : Forward text l (Parser.leaf kind role) where
  follows hd s hs hl := by
    have hfits : Tree.Fits _ (.node
        { kind, role, missing := s.lexeme.missing, text := s.lexeme.text,
          line := s.lexeme.start.line, column := s.lexeme.start.column } []) :=
      ⟨.of_readIn hs.lexeme (hl ▸ h) rfl rfl, hrole⟩
    have hlexeme := hs.lexeme.within
    exact follows_shift hd hs hlexeme.reached
      (.leaf rfl (Cursor.position_mono hlexeme.stop)) (.leaf hfits)

/-- A string is read into a leaf only where one comes next. -/
instance (priority := high) leaf_string {role : Option Role} [Role.Allowed text role]
    {q : Parser Unit} [Forward text l q] :
    Forward text l (if (l.kind == .string) = true then Parser.leaf .string role else q) := by
  split
  · next hstring => exact leaf (beq_iff_eq.mp hstring ▸ .string) role
  · infer_instance

instance (priority := high) leaf_string_bind {role : Option Role} [Role.Allowed text role]
    {f : Unit → Parser α} {q : Parser α} [∀ u l', Forward text l' (f u)] [Forward text l q] :
    Forward text l (if (l.kind == .string) = true then Parser.leaf .string role >>= f else q) := by
  split
  · next hstring => exact seq (leaf (beq_iff_eq.mp hstring ▸ .string) role) inferInstance
  · infer_instance

instance bump : Forward text l Parser.bump where
  follows hd s hs _ := by
    have hlexeme := hs.lexeme.within
    have honward := Cursor.position_mono hlexeme.stop
    unfold Parser.bump
    split
    · exact follows_shift hd hs hlexeme.reached (.leaf rfl honward)
        (.leaf (.plain rfl nofun rfl))
    · exact follows_shift hd hs hlexeme.reached (.nil honward) .nil

instance mark (written : String) : Forward text l (Parser.mark written) :=
  of_eq fun e s => by
    unfold Parser.mark
    split
    · exact ⟨Parser.bump, rfl, inferInstance⟩
    · exact ⟨Parser.refuse [], rfl, inferInstance⟩

instance closing (written : String) : Forward text l (Parser.closing written) :=
  of_eq fun e s => by
    unfold Parser.closing
    split
    · exact ⟨Parser.bump, rfl, inferInstance⟩
    · exact ⟨Parser.refuse [.mark written], rfl, inferInstance⟩

instance keyword (written : String) : Forward text l (Parser.keyword written) := by
  unfold Parser.keyword
  infer_instance

/-- Behind a keyword, the keyword is a lexeme of the text. -/
theorem keyword_bind {written : String} {f : Unit → Parser α}
    (h : l.kind = .word written → l.ReadIn text → ∀ u l', Forward text l' (f u)) :
    Forward text l (Parser.keyword written >>= f) := by
  refine .of_read fun hl => (keyword written).of_done fun {e s _ _} hnext hdone => ?_
  refine h ?_ hl _
  by_contra hkind
  have hrefused : Parser.keyword written e s = Parser.refuse [] e s := by
    simp [Parser.keyword, Parser.andThen, Parser.atWord, hnext, hkind]
  cases hdone.symm.trans hrefused

instance optionalMark (written : String) : Forward text l (Parser.optionalMark written) := by
  unfold Parser.optionalMark
  infer_instance

instance optionalWord (written : String) : Forward text l (Parser.optionalWord written) := by
  unfold Parser.optionalWord
  infer_instance

/-! ## Symbols and nodes -/

/-- Where symbols are taken together, the places stay. -/
theorem within_closeMarks {s' : State} (h : s'.Within text) (depth : Nat)
    (weigh : List Mark → Nat) :
    ({ s' with marks := Parser.closeMarks depth weigh s'.marks } : State).Within text :=
  { h with marks := h.marks.closeMarks depth weigh }

theorem follows_closeMarks {step : Step α} (h : step.Follows text s) (depth : Nat)
    (weigh : List Mark → Nat) :
    Step.Follows text s (match step with
      | .done a s' => .done a { s' with marks := Parser.closeMarks depth weigh s'.marks }
      | .refused r => .refused r) := by
  cases step with
  | done a s' => exact ⟨within_closeMarks h.1 depth weigh, h.2⟩
  | refused r => exact h

instance symbol {p : Parser α} [h : Forward text l p] : Forward text l (Parser.symbol p) where
  follows hd _ hs hl := follows_closeMarks (h.follows hd hs hl) _ _

instance run {p : Parser α} [h : Forward text l p] : Forward text l (Parser.run p) where
  follows hd _ hs hl := follows_closeMarks (h.follows hd hs hl) _ _

instance settledBefore {words : List String} {p : Parser α} [Forward text l p] :
    Forward text l (Parser.settledBefore words p) where
  follows {e} hd {s} hs hl := by
    have hstep := (symbol (p := p)).follows hd hs hl
    unfold Parser.settledBefore
    split
    · next a s' heq =>
      rw [heq] at hstep
      obtain ⟨hs', hleads⟩ := hstep
      split
      · exact ⟨{ hs' with shifted := hs'.marks }, hleads⟩
      · exact ⟨hs', hleads⟩
    · next r heq =>
      rw [heq] at hstep
      exact hstep

/-- A node starts at the first lexeme of its symbol. -/
instance nodeOf {p : Parser NodeKind} [h : Forward text l p] [hinner : GivesInner p] :
    Forward text l (Parser.nodeOf p) where
  follows {e} hd {s} hs hl := by
    have hstep := (symbol (p := p)).follows hd (s := { s with out := [] })
      { hs with out := .nil } hl
    unfold Parser.nodeOf
    split
    · next kind s' heq =>
      rw [heq] at hstep
      obtain ⟨hs', ts, hout, hts⟩ := hstep
      have hchildren : s'.out.reverse = ts := by rw [hout, List.append_nil, List.reverse_reverse]
      let info : NodeInfo := { kind, line := s.lexeme.start.line, column := s.lexeme.start.column }
      have hfit : Tree.AllFit text [.node info s'.out.reverse] :=
        .node (.plain rfl (fun hkind => absurd hkind (hinner.of_symbol heq)) rfl) hs'.out.reverse
      refine ⟨{ hs' with out := hfit.append hs.out }, [_], rfl, .node rfl ?_⟩
      rw [hchildren]
      exact hts
    · next r heq =>
      rw [heq] at hstep
      exact hstep

instance node (kind : NodeKind) [kind.Inner] {p : Parser Unit} [Forward text l p] :
    Forward text l (Parser.node kind p) := by
  unfold Parser.node
  infer_instance

/-! ## Repetition -/

instance turns {p : Parser Bool} [∀ l, Forward text l p] (fuel : Nat) :
    Forward text l (Parser.turns p fuel) := by
  induction fuel generalizing l with
  | zero => exact refuse []
  | succ fuel ih =>
    unfold Parser.turns
    infer_instance

instance whileTrue {p : Parser Bool} [h : ∀ l, Forward text l p] :
    Forward text l (Parser.whileTrue p) :=
  of_eq fun e _ => ⟨Parser.turns p e.fuel, rfl, inferInstance⟩

instance gatherTurns {p : Parser Bool} [h : ∀ l, Forward text l p] (depth fuel : Nat) :
    Forward text l (Parser.gatherTurns depth p fuel) := by
  induction fuel generalizing l with
  | zero => exact refuse []
  | succ fuel ih =>
    refine ⟨fun {e} hd {s} hs hl => ?_⟩
    have hstep := (h l).follows hd hs hl
    unfold Parser.gatherTurns
    split
    · next s' heq =>
      rw [heq] at hstep
      obtain ⟨hs', hleads⟩ := hstep
      have hmore := (@ih s'.lexeme).follows hd (within_closeMarks hs' depth Mark.total) rfl
      cases hturns : Parser.gatherTurns depth p fuel e
          { s' with marks := Parser.closeMarks depth Mark.total s'.marks } with
      | done _ s'' =>
        rw [hturns] at hmore
        exact ⟨hmore.1, hleads.trans hmore.2⟩
      | refused r =>
        rw [hturns] at hmore
        exact hmore
    · next s' heq =>
      rw [heq] at hstep
      exact hstep
    · next r heq =>
      rw [heq] at hstep
      exact hstep

instance many {p : Parser Bool} [h : ∀ l, Forward text l p] : Forward text l (Parser.many p) :=
  of_eq fun e s => ⟨Parser.gatherTurns s.marks.length p e.fuel, rfl, inferInstance⟩

instance forIn (xs : List α) (b : β) {f : α → β → Parser (ForInStep β)}
    [∀ a b l, Forward text l (f a b)] : Forward text l (ForIn.forIn xs b f) := by
  induction xs generalizing b l with
  | nil =>
    rw [List.forIn_nil]
    infer_instance
  | cons x xs ih =>
    rw [List.forIn_cons]
    have hrest (step : ForInStep β) (l : Lexeme) : Forward text l (match step with
        | .done b => Pure.pure b
        | .yield b => ForIn.forIn xs b f) := by
      cases step <;> infer_instance
    exact bind

/-! ## Names -/

instance noteExport (name : String) : Forward text l (Parser.noteExport name) where
  follows _ s hs _ := ⟨{ hs with }, State.Leads.refl s⟩

instance noteBound (name : String) : Forward text l (Parser.noteBound name) where
  follows _ s hs _ := ⟨{ hs with }, State.Leads.refl s⟩

instance locally {p : Parser α} [h : Forward text l p] : Forward text l (Parser.locally p) where
  follows {e} hd {s} hs hl := by
    have hstep := h.follows hd hs hl
    unfold Parser.locally
    split
    · next a s' heq =>
      rw [heq] at hstep
      obtain ⟨hs', hleads⟩ := hstep
      exact ⟨{ hs' with }, hleads⟩
    · next r heq =>
      rw [heq] at hstep
      exact hstep

instance boundBy {p : Parser Unit} [h : Forward text l p] : Forward text l (Parser.boundBy p) where
  follows {e} hd {s} hs hl := by
    have hstep := h.follows hd (s := { s with bound := [] }) { hs with } hl
    unfold Parser.boundBy
    split
    · next s' heq =>
      rw [heq] at hstep
      obtain ⟨hs', hleads⟩ := hstep
      exact ⟨{ hs' with }, hleads⟩
    · next r heq =>
      rw [heq] at hstep
      exact hstep

end Forward

end PackageUsage.Source
