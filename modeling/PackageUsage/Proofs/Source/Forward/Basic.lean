import PackageUsage.Proofs.Source.Forward.State

/-!
# Parsers that go forward

The nodes that a parser adds to a tree stand in the order of the text: in pre-order their positions
ascend from the lexeme the parser starts at to the one it stops at, and what text they have is that
of words and strings. A parser is judged from the states with a given next lexeme, so one that has
looked at the lexeme knows it. Parsers that only look go forward, and parsers that follow each other
do when each of them does.
-/

namespace PackageUsage.Source

/-- From every state of the text with the given next lexeme the parser goes forward in a tolerant
dialect. -/
class Forward {α : Type} (text : Cursor) (l : Lexeme) (p : Parser α) : Prop where
  follows : ∀ {e : Context} (_ : e.dialect.strict = false) {s : State},
    s.Within text → s.lexeme = l → (p e s).Follows text s

/-! ## Kinds of nodes with parts -/

/-- The kind of a node that is made of parts: it is no word. -/
class NodeKind.Inner (kind : NodeKind) : Prop where
  ne_identifier : kind ≠ .identifier

namespace NodeKind.Inner

instance importStatement : Inner .importStatement := ⟨nofun⟩
instance importClause : Inner .importClause := ⟨nofun⟩
instance namedImports : Inner .namedImports := ⟨nofun⟩
instance importSpecifier : Inner .importSpecifier := ⟨nofun⟩
instance namespaceImport : Inner .namespaceImport := ⟨nofun⟩
instance exportStatement : Inner .exportStatement := ⟨nofun⟩
instance exportClause : Inner .exportClause := ⟨nofun⟩
instance exportSpecifier : Inner .exportSpecifier := ⟨nofun⟩
instance namespaceExport : Inner .namespaceExport := ⟨nofun⟩
instance other : Inner .other := ⟨nofun⟩

instance ite {c : Prop} [Decidable c] {kind kind' : NodeKind} [h : Inner kind] [h' : Inner kind'] :
    Inner (if c then kind else kind') := by
  split
  · exact h
  · exact h'

end NodeKind.Inner

/-- Whatever kind the parser gives is that of a node with parts. -/
class GivesInner (p : Parser NodeKind) : Prop where
  ne_identifier : ∀ {e : Context} {s s' : State} {kind : NodeKind},
    p e s = .done kind s' → kind ≠ .identifier

namespace GivesInner

instance give (kind : NodeKind) [h : kind.Inner] : GivesInner (Parser.give kind) where
  ne_identifier hstep := by
    cases hstep
    exact h.ne_identifier

instance pure (kind : NodeKind) [kind.Inner] : GivesInner (Pure.pure kind : Parser NodeKind) :=
  give kind

instance andThen {α : Type} {p : Parser α} {f : α → Parser NodeKind}
    [h : ∀ a, GivesInner (f a)] : GivesInner (Parser.andThen p f) where
  ne_identifier {e s} _ _ hstep := by
    unfold Parser.andThen at hstep
    split at hstep
    · exact (h _).ne_identifier hstep
    · cases hstep

instance bind {α : Type} {p : Parser α} {f : α → Parser NodeKind} [∀ a, GivesInner (f a)] :
    GivesInner (p >>= f) :=
  andThen

instance ite {c : Prop} [Decidable c] {p q : Parser NodeKind} [hp : GivesInner p]
    [hq : GivesInner q] : GivesInner (if c then p else q) := by
  split
  · exact hp
  · exact hq

theorem of_symbol {p : Parser NodeKind} (h : GivesInner p) {e : Context} {s s' : State}
    {kind : NodeKind} (hstep : Parser.symbol p e s = .done kind s') : kind ≠ .identifier := by
  unfold Parser.symbol at hstep
  split at hstep
  · next heq =>
    cases hstep
    exact h.ne_identifier heq
  · cases hstep

instance symbol {p : Parser NodeKind} [h : GivesInner p] : GivesInner (Parser.symbol p) where
  ne_identifier := h.of_symbol

end GivesInner

/-! ## Looking and combining -/

namespace Forward

variable {α β : Type} {l : Lexeme} {text : Cursor} {e : Context} {s : State}

/-- What comes next is a lexeme of the text. -/
theorem of_read {p : Parser α} (h : l.ReadIn text → Forward text l p) : Forward text l p where
  follows hd _ hs hl := (h (hl ▸ hs.lexeme)).follows hd hs hl

/-- A parser that only looks. -/
theorem of_look {p : Parser α} (h : ∀ e s, ∃ a, p e s = .done a s) : Forward text l p where
  follows {e} _ {s} hs _ := by
    obtain ⟨a, ha⟩ := h e s
    rw [ha]
    exact ⟨hs, .refl s⟩

/-- A parser that does as another one does, in each state. -/
theorem of_eq {p : Parser α} (h : ∀ e s, ∃ q : Parser α, p e s = q e s ∧ ∀ l, Forward text l q) :
    Forward text l p where
  follows {e} hd {s} hs hl := by
    obtain ⟨q, hq, hforward⟩ := h e s
    rw [hq]
    exact (hforward l).follows hd hs hl

instance give (a : α) : Forward text l (Parser.give a) :=
  of_look fun _ _ => ⟨a, rfl⟩

instance pure (a : α) : Forward text l (Pure.pure a : Parser α) :=
  give a

instance context : Forward text l Parser.context :=
  of_look fun _ _ => ⟨_, rfl⟩

instance look : Forward text l Parser.look :=
  of_look fun _ _ => ⟨_, rfl⟩

instance lookAfter : Forward text l Parser.lookAfter :=
  of_look fun _ _ => ⟨_, rfl⟩

instance atMark (written : String) : Forward text l (Parser.atMark written) :=
  of_look fun _ _ => ⟨_, rfl⟩

instance atWord (written : String) : Forward text l (Parser.atWord written) :=
  of_look fun _ _ => ⟨_, rfl⟩

instance test (p : Parser α) : Forward text l (Parser.test p) :=
  of_look fun e s => by
    unfold Parser.test
    split
    · exact ⟨true, rfl⟩
    · exact ⟨false, rfl⟩

instance refuse (wanted : List LexemeKind) : Forward text l (Parser.refuse wanted : Parser α) where
  follows _ _ hs _ := hs.reach.join ⟨hs.lexeme.within, hs.previous, hs.shifted⟩

/-- Steps follow each other. -/
theorem follows_andThen {p : Parser α} {f : α → Parser β} (hp : (p e s).Follows text s)
    (hf : ∀ a s', p e s = .done a s' → s'.Within text → (f a e s').Follows text s') :
    (Parser.andThen p f e s).Follows text s := by
  unfold Parser.andThen
  cases hstep : p e s with
  | refused r =>
    rw [hstep] at hp
    exact hp
  | done a s' =>
    rw [hstep] at hp
    obtain ⟨hs', hleads⟩ := hp
    have hnext := hf a s' hstep hs'
    dsimp only
    cases hstep' : f a e s' with
    | refused r =>
      rw [hstep'] at hnext
      exact hnext
    | done b s'' =>
      rw [hstep'] at hnext
      exact ⟨hnext.1, hleads.trans hnext.2⟩

/-- Where the second parser starts, the first one has been done. -/
theorem of_done {p : Parser α} {f : α → Parser β} (hp : Forward text l p)
    (hf : ∀ {e s a s'}, s.lexeme = l → p e s = .done a s' → ∀ l', Forward text l' (f a)) :
    Forward text l (Parser.andThen p f) where
  follows hd _ hs hl :=
    follows_andThen (hp.follows hd hs hl) fun _ s' hdone hs' =>
      (hf hl hdone s'.lexeme).follows hd hs' rfl

instance andThen {p : Parser α} {f : α → Parser β} [hp : Forward text l p]
    [hf : ∀ a l', Forward text l' (f a)] : Forward text l (Parser.andThen p f) :=
  hp.of_done fun _ _ => hf _

instance bind {p : Parser α} {f : α → Parser β} [Forward text l p] [∀ a l', Forward text l' (f a)] :
    Forward text l (p >>= f) :=
  andThen

/-- The sequence of two parsers, for a second one that has to be looked into. -/
theorem seq {p : Parser α} {f : α → Parser β} (hp : Forward text l p)
    (hf : ∀ a l', Forward text l' (f a)) : Forward text l (p >>= f) :=
  bind

/-- A parser that has looked at the next lexeme knows it. -/
instance (priority := high) look_bind {f : Lexeme → Parser α} [h : Forward text l (f l)] :
    Forward text l (Parser.look >>= f) where
  follows hd _ hs hl := by
    subst hl
    exact h.follows hd hs rfl

/-- To look leaves the next lexeme where it is. -/
theorem keep_bind {p : Parser β} {f : β → Parser α} (hp : ∀ e s, ∃ b, p e s = .done b s)
    (hf : ∀ b, Forward text l (f b)) : Forward text l (p >>= f) where
  follows {e} hd {s} hs hl := by
    obtain ⟨b, hb⟩ := hp e s
    show Step.Follows _ s (Parser.andThen p f e s)
    unfold Parser.andThen
    rw [hb]
    exact (hf b).follows hd hs hl

instance (priority := high) lookAfter_bind {f : Lexeme → Parser α}
    [h : ∀ next, Forward text l (f next)] :
    Forward text l (Parser.lookAfter >>= f) :=
  keep_bind (fun _ _ => ⟨_, rfl⟩) h

/-- Where a word has been found, it is the next lexeme. -/
theorem atWord_bind {written : String} {f : Bool → Parser α}
    (h : ∀ here, (here = true → l.kind = .word written) → Forward text l (f here)) :
    Forward text l (Parser.atWord written >>= f) where
  follows {e} hd {s} hs hl := by
    subst hl
    refine (h _ fun here => ?_).follows hd hs rfl
    simp only [Bool.and_eq_true, beq_iff_eq] at here
    exact here.1

instance (priority := high) context_bind {f : Context → Parser α} [h : ∀ e, Forward text l (f e)] :
    Forward text l (Parser.context >>= f) :=
  keep_bind (fun _ _ => ⟨_, rfl⟩) h

instance ite {c : Prop} [Decidable c] {p q : Parser α} [hp : Forward text l p]
    [hq : Forward text l q] : Forward text l (if c then p else q) := by
  split
  · exact hp
  · exact hq

instance orTry {p q : Parser α} [hp : Forward text l p] [hq : Forward text l q] :
    Forward text l (p <|> q) where
  follows {e} hd {s} hs hl := by
    have hfirst := hp.follows hd hs hl
    show Step.Follows _ s (Parser.orTry p q e s)
    unfold Parser.orTry
    cases hstep : p e s with
    | done a s' =>
      rw [hstep] at hfirst
      exact hfirst
    | refused r =>
      rw [hstep] at hfirst
      exact hq.follows hd (s := { s with reach := r }) { hs with reach := hfirst } hl

/-- No surroundings change the dialect. -/
instance within {fuel : Context → Nat}
    {lineEnds noIn noResultType noCondition inFunction inAsync inGenerator ambient inSwitch :
      Context → Bool} {p : Parser α} [h : Forward text l p] :
    Forward text l (Parser.within (fun e => ⟨e.dialect, fuel e, lineEnds e, noIn e, noResultType e,
      noCondition e, inFunction e, inAsync e, inGenerator e, ambient e, inSwitch e⟩) p) where
  follows hd _ hs hl := by
    unfold Parser.within
    refine h.follows ?_ hs hl
    exact hd

instance guard (condition : Bool) : Forward text l (Parser.guard condition) := by
  unfold Parser.guard
  infer_instance

instance require (condition : Bool) : Forward text l (Parser.require condition) :=
  of_eq fun e s => by
    unfold Parser.require
    split
    · exact ⟨Parser.give (), rfl, inferInstance⟩
    · exact ⟨Parser.refuse [], rfl, inferInstance⟩

end Forward

end PackageUsage.Source
