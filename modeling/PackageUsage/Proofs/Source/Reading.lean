import PackageUsage.Proofs.Source.Token
import PackageUsage.Source.Parser

/-!
# What a parser reads

A parser that has no repairs to make is determined by the place it stands at. It reads from one
cursor to another when, from every state at the first, it is done with a given value in a state at
the second, and has added given trees to the node under construction. One lemma for each parser of
the kit says what it reads, so that the rules of the grammar are followed without opening a state.
-/

namespace PackageUsage.Source

open PackageUsage.Source.Parser

/-- The state stands behind the lexeme that ends at a cursor, and no repairs are to be made. -/
structure At (d : Dialect) (c : Cursor) (s : State) : Prop where
  lexeme : s.lexeme = Source.lexeme d c
  repairs : s.repairs = []

/-- The parser reads from one cursor to another, with a value and some trees. -/
def Reads {α : Type} (e : Context) (p : Parser α) (c : Cursor) (a : α) (ts : List Tree)
    (c' : Cursor) : Prop :=
  ∀ s, At e.dialect c s →
    ∃ s', p e s = .done a s' ∧ At e.dialect c' s' ∧ s'.out = ts.reverse ++ s.out

/-- The leaf of the lexeme between two places. -/
def Tree.leafBetween (kind : NodeKind) (role : Option Role) (m c' : Cursor) : Tree :=
  .node { kind, role, text := m.textTo c', line := m.line, column := m.column } []

namespace Reads

variable {α β : Type} {e : Context} {p q : Parser α} {a : α} {b : β} {c c' c'' m : Cursor}
  {ts us : List Tree} {k : LexemeKind} {text : String}

theorem pure (a : α) : Reads e (Pure.pure a) c a [] c := by
  intro s hs
  exact ⟨s, rfl, hs, rfl⟩

theorem give (a : α) : Reads e (Parser.give a) c a [] c :=
  pure a

theorem bind {f : α → Parser β} (hp : Reads e p c a ts c') (hf : Reads e (f a) c' b us c'') :
    Reads e (p >>= f) c b (ts ++ us) c'' := by
  intro s hs
  obtain ⟨s', hp', hs', hout'⟩ := hp s hs
  obtain ⟨s'', hf', hs'', hout''⟩ := hf s' hs'
  refine ⟨s'', ?_, hs'', ?_⟩
  · show andThen p f e s = _
    rw [andThen, hp']
    exact hf'
  · rw [hout'', hout', List.reverse_append, List.append_assoc]

/-- The first parser adds no trees. -/
theorem silent_bind {f : α → Parser β} (hp : Reads e p c a [] c')
    (hf : Reads e (f a) c' b us c'') : Reads e (p >>= f) c b us c'' :=
  hp.bind hf

/-- The second parser adds no trees. -/
theorem bind_silent {f : α → Parser β} (hp : Reads e p c a ts c')
    (hf : Reads e (f a) c' b [] c'') : Reads e (p >>= f) c b ts c'' := by
  have hboth := hp.bind hf
  rwa [List.append_nil] at hboth

/-! ## Looking -/

theorem look : Reads e Parser.look c (lexeme e.dialect c) [] c := by
  intro s hs
  exact ⟨s, by rw [Parser.look, hs.lexeme], hs, rfl⟩

theorem lookAfter (h : Lexes e.dialect c k m c') :
    Reads e Parser.lookAfter c (lexeme e.dialect c') [] c := by
  intro s hs
  exact ⟨s, by rw [Parser.lookAfter, hs.lexeme, h.stop], hs, rfl⟩

theorem context : Reads e Parser.context c e [] c := by
  intro s hs
  exact ⟨s, rfl, hs, rfl⟩

theorem atMark (h : Lexes e.dialect c k m c') :
    Reads e (Parser.atMark text) c (k == .mark text) [] c := by
  intro s hs
  exact ⟨s, by rw [Parser.atMark, hs.lexeme, h.kind], hs, rfl⟩

theorem atWord (h : Lexes e.dialect c k m c') :
    Reads e (Parser.atWord text) c (k == .word text) [] c := by
  intro s hs
  have hreading : (lexeme e.dialect c).reading = .any := rfl
  refine ⟨s, ?_, hs, rfl⟩
  rw [Parser.atWord, hs.lexeme, h.kind, hreading]
  simp

/-! ## Lexemes -/

theorem bump (h : Lexes e.dialect c k m c') : Reads e Parser.bump c () [] c' := by
  intro s hs
  have hmissing : (lexeme e.dialect c).missing = false := rfl
  simp only [Parser.bump, hs.lexeme, hs.repairs, hmissing, lexemeWith, h.stop]
  exact ⟨_, rfl, ⟨rfl, rfl⟩, rfl⟩

theorem leaf (h : Lexes e.dialect c k m c') (kind : NodeKind) (role : Option Role) :
    Reads e (Parser.leaf kind role) c () [.leafBetween kind role m c'] c' := by
  intro s hs
  have hmissing : (lexeme e.dialect c).missing = false := rfl
  simp only [Parser.leaf, hs.lexeme, hs.repairs, hmissing, lexemeWith, Lexeme.text, h.start, h.stop]
  exact ⟨_, rfl, ⟨rfl, rfl⟩, rfl⟩

theorem mark (h : Lexes e.dialect c (.mark text) m c') :
    Reads e (Parser.mark text) c () [] c' := by
  intro s hs
  have hkind : (s.lexeme.kind == .mark text) = true := by
    rw [hs.lexeme, h.kind, beq_self_eq_true]
  rw [Parser.mark, if_pos hkind]
  exact bump h s hs

theorem closing (h : Lexes e.dialect c (.mark text) m c') :
    Reads e (Parser.closing text) c () [] c' := by
  intro s hs
  have hkind : (s.lexeme.kind == .mark text) = true := by
    rw [hs.lexeme, h.kind, beq_self_eq_true]
  rw [Parser.closing, if_pos hkind]
  exact bump h s hs

theorem keyword (h : Lexes e.dialect c (.word text) m c') :
    Reads e (Parser.keyword text) c () [] c' := by
  refine silent_bind (atWord h) ?_
  rw [if_pos (beq_self_eq_true _)]
  exact bump h

theorem optionalMark (h : Lexes e.dialect c (.mark text) m c') :
    Reads e (Parser.optionalMark text) c true [] c' := by
  refine silent_bind (atMark h) ?_
  rw [if_pos (beq_self_eq_true _)]
  exact (bump h).bind (give true)

theorem optionalMark_absent (h : Lexes e.dialect c k m c') (hk : k ≠ .mark text) :
    Reads e (Parser.optionalMark text) c false [] c := by
  refine silent_bind (atMark h) ?_
  rw [if_neg (by simpa using hk)]
  exact give false

theorem optionalWord (h : Lexes e.dialect c (.word text) m c') :
    Reads e (Parser.optionalWord text) c true [] c' := by
  refine silent_bind (atWord h) ?_
  rw [if_pos (beq_self_eq_true _)]
  exact (bump h).bind (give true)

theorem optionalWord_absent (h : Lexes e.dialect c k m c') (hk : k ≠ .word text) :
    Reads e (Parser.optionalWord text) c false [] c := by
  refine silent_bind (atWord h) ?_
  rw [if_neg (by simpa using hk)]
  exact give false

/-! ## Symbols and nodes -/

theorem symbol (h : Reads e p c a ts c') : Reads e (Parser.symbol p) c a ts c' := by
  intro s hs
  obtain ⟨s', hp, hs', hout⟩ := h s hs
  rw [Parser.symbol, hp]
  exact ⟨_, rfl, ⟨hs'.lexeme, hs'.repairs⟩, hout⟩

theorem settledBefore {words : List String} (h : Reads e p c a ts c') :
    Reads e (Parser.settledBefore words p) c a ts c' := by
  intro s hs
  obtain ⟨s', hp, hs', hout⟩ := h.symbol s hs
  simp only [Parser.settledBefore, hp]
  split
  · exact ⟨_, rfl, ⟨hs'.lexeme, hs'.repairs⟩, hout⟩
  · exact ⟨_, rfl, hs', hout⟩

theorem orTry (h : Reads e p c a ts c') : Reads e (p <|> q) c a ts c' := by
  intro s hs
  obtain ⟨s', hp, hs', hout⟩ := h s hs
  refine ⟨s', ?_, hs', hout⟩
  show Parser.orTry p q e s = _
  rw [Parser.orTry, hp]

theorem within {f : Context → Context} (hf : (f e).dialect = e.dialect)
    (h : Reads (f e) p c a ts c') : Reads e (Parser.within f p) c a ts c' := by
  intro s hs
  obtain ⟨s', hp, hs', hout⟩ := h s (by rwa [hf])
  exact ⟨s', hp, by rwa [hf] at hs', hout⟩

theorem locally (h : Reads e p c a ts c') : Reads e (Parser.locally p) c a ts c' := by
  intro s hs
  obtain ⟨s', hp, hs', hout⟩ := h s hs
  rw [Parser.locally, hp]
  exact ⟨_, rfl, ⟨hs'.lexeme, hs'.repairs⟩, hout⟩

theorem nodeOf {p : Parser NodeKind} {kind : NodeKind} (hlex : Lexes e.dialect c k m c'')
    (h : Reads e p c kind ts c') :
    Reads e (Parser.nodeOf p) c ()
      [.node { kind, line := m.line, column := m.column } ts] c' := by
  intro s hs
  obtain ⟨s', hp, hs', hout⟩ := h.symbol { s with out := [] } ⟨hs.lexeme, hs.repairs⟩
  have hts : s'.out.reverse = ts := by rw [hout, List.append_nil, List.reverse_reverse]
  let info : NodeInfo := { kind, line := m.line, column := m.column }
  refine ⟨{ s' with out := .node info ts :: s.out }, ?_, ⟨hs'.lexeme, hs'.repairs⟩, rfl⟩
  rw [Parser.nodeOf, hp, hs.lexeme, hlex.start]
  simp only [hts, info]

theorem node {p : Parser Unit} {kind : NodeKind} (hlex : Lexes e.dialect c k m c'')
    (h : Reads e p c () ts c') :
    Reads e (Parser.node kind p) c ()
      [.node { kind, line := m.line, column := m.column } ts] c' := by
  have hp : Reads e (p >>= fun _ => Parser.give kind) c kind ts c' := h.bind_silent (give kind)
  exact nodeOf hlex hp

/-! ## Repetition -/

theorem gatherTurns_succ (depth : Nat) (p : Parser Bool) (fuel : Nat) (e : Context) (s : State) :
    gatherTurns depth p (fuel + 1) e s =
      match p e s with
      | .done true s' =>
        gatherTurns depth p fuel e { s' with marks := closeMarks depth Mark.total s'.marks }
      | .done false s' => .done () s'
      | .refused r => .refused r :=
  rfl

theorem gatherTurns_more {p : Parser Bool} {depth fuel : Nat} (hp : Reads e p c true ts c')
    (hturns : Reads e (gatherTurns depth p fuel) c' () us c'') :
    Reads e (gatherTurns depth p (fuel + 1)) c () (ts ++ us) c'' := by
  intro s hs
  obtain ⟨s', hp', hs', hout'⟩ := hp s hs
  obtain ⟨s'', hturns', hs'', hout''⟩ := hturns
    { s' with marks := closeMarks depth Mark.total s'.marks } ⟨hs'.lexeme, hs'.repairs⟩
  refine ⟨s'', ?_, hs'', ?_⟩
  · rw [gatherTurns_succ, hp']
    exact hturns'
  · rw [hout'', hout', List.reverse_append, List.append_assoc]

theorem gatherTurns_last {p : Parser Bool} {depth fuel : Nat} (hp : Reads e p c false ts c') :
    Reads e (gatherTurns depth p (fuel + 1)) c () ts c' := by
  intro s hs
  obtain ⟨s', hp', hs', hout'⟩ := hp s hs
  exact ⟨s', by rw [gatherTurns_succ, hp'], hs', hout'⟩

theorem many {p : Parser Bool} (h : ∀ depth, Reads e (gatherTurns depth p e.fuel) c () ts c') :
    Reads e (Parser.many p) c () ts c' := by
  intro s hs
  exact h s.marks.length s hs

/-- A repetition that stops at once. -/
theorem whileTrue_stop {p : Parser Bool} (hfuel : 0 < e.fuel) (hp : Reads e p c false ts c') :
    Reads e (Parser.whileTrue p) c () ts c' := by
  intro s hs
  obtain ⟨fuel, hfuel⟩ : ∃ fuel, e.fuel = fuel + 1 := ⟨e.fuel - 1, by omega⟩
  obtain ⟨s', hp', hs', hout'⟩ := hp s hs
  refine ⟨s', ?_, hs', hout'⟩
  rw [Parser.whileTrue, hfuel, turns, andThen, hp']
  rfl

end Reads

end PackageUsage.Source
