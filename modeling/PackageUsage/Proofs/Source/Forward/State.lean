import PackageUsage.Proofs.Source.Forward.Trees
import PackageUsage.Source.Parser

/-!
# States in a text

A state of a parse knows of places of the text only, and has built trees of it. The state after the
next lexeme does so too, under any repairs that only skip forward.
-/

namespace PackageUsage.Source

open PackageUsage.Source.Tree (Ascend)

/-! ## Places of a text -/

/-- The marks are symbols of a text. -/
def Mark.AllWithin (text : Cursor) (marks : List Mark) : Prop :=
  ∀ m ∈ marks, text ≤ m.start

/-- A refusal in a text. -/
structure Reach.Within (text : Cursor) (r : Reach) : Prop where
  lexeme : r.lexeme.Within text
  previous : text.Reached r.previous
  marks : Mark.AllWithin text r.marks

/-- What a repair skips is text between two places, the first one first, and what it supposes is one
of a few lexemes. That a word is read in one way is only tried. -/
def Repair.Within (text : Cursor) : Repair → Prop
  | .skip start stop => text ≤ start ∧ start ≤ stop ∧ text.Reached stop
  | .suppose _ kind => kind ∈ Job.supposable
  | .read _ _ => False

/-- All places a state knows of are places of the text, and what it has built fits the text. -/
structure State.Within (text : Cursor) (s : State) : Prop where
  lexeme : s.lexeme.ReadIn text
  out : Tree.AllFit text s.out
  previous : text.Reached s.previous
  marks : Mark.AllWithin text s.marks
  shifted : Mark.AllWithin text s.shifted
  reach : s.reach.Within text
  repairs : ∀ r ∈ s.repairs, r.Within text

theorem Reach.Within.join {text : Cursor} {old new : Reach} (hold : old.Within text)
    (hnew : new.Within text) : (old.join new).Within text := by
  unfold Reach.join
  split
  · exact hnew
  · split
    · refine ⟨hold.lexeme, hold.previous, ?_⟩
      dsimp only
      split
      · exact hnew.marks
      · exact hold.marks
    · exact hold

theorem Mark.AllWithin.closeMarks {text : Cursor} {marks : List Mark}
    (h : Mark.AllWithin text marks) (depth : Nat) (weigh : List Mark → Nat) :
    Mark.AllWithin text (Parser.closeMarks depth weigh marks) := by
  unfold Parser.closeMarks
  dsimp only
  split
  · exact h
  · next first hfirst =>
    intro m hm
    rcases List.mem_cons.mp hm with rfl | hm
    · exact h first (List.mem_of_mem_take (List.mem_of_getLast? hfirst))
    · exact h m (List.mem_of_mem_drop hm)

/-! ## States and steps -/

/-- The second state has gone on from the first: it has added trees in the order of the text. -/
def State.Leads (s s' : State) : Prop :=
  ∃ ts, s'.out = ts.reverse ++ s.out ∧
    Ascend s.lexeme.start.position ts s'.lexeme.start.position

theorem State.Leads.refl (s : State) : s.Leads s :=
  ⟨[], rfl, .nil (le_refl _)⟩

theorem State.Leads.trans {s s' s'' : State} (h : s.Leads s') (h' : s'.Leads s'') :
    s.Leads s'' := by
  obtain ⟨ts, hout, hts⟩ := h
  obtain ⟨us, hout', hus⟩ := h'
  refine ⟨ts ++ us, ?_, hts.append hus⟩
  rw [hout', hout, List.reverse_append, List.append_assoc]

/-- A step from a state of a text stays in the text, and goes on in it. -/
def Step.Follows {α : Type} (text : Cursor) (s : State) : Step α → Prop
  | .done _ s' => s'.Within text ∧ s.Leads s'
  | .refused r => r.Within text

/-! ## The next lexeme -/

/-- What the reading of a lexeme under repairs adds from a place on. -/
structure Continues (text c : Cursor) (out : List Tree)
    (r : Lexeme × List Repair × List Tree) : Prop where
  start : c ≤ r.1.start
  lexeme : r.1.ReadIn text
  repairs : ∀ x ∈ r.2.1, x.Within text
  out : ∃ ts, r.2.2 = ts.reverse ++ out ∧ Ascend c.position ts r.1.start.position ∧
    Tree.AllFit text ts

theorem Continues.onward {text : Cursor} {d : Dialect} (hd : d.strict = false)
    {repairs : List Repair} {c : Cursor} {out : List Tree} (hc : text.Reached c)
    (hrepairs : ∀ x ∈ repairs, x.Within text) :
    Continues text c out (Source.lexeme d c, repairs, out) where
  start := le_start_lexeme d c
  lexeme := .written hd hc rfl
  repairs := hrepairs
  out := ⟨[], rfl, .nil (Cursor.position_mono (le_start_lexeme d c)), .nil⟩

/-- Repairs go forward: a stretch is skipped from the lexeme it starts at. -/
theorem continues_lexemeWith {text : Cursor} {d : Dialect} (hd : d.strict = false)
    (repairs : List Repair) {c : Cursor} {out : List Tree} (hc : text.Reached c)
    (hrepairs : ∀ x ∈ repairs, x.Within text) :
    Continues text c out (lexemeWith d repairs c out) := by
  induction repairs generalizing c out with
  | nil => exact .onward hd hc hrepairs
  | cons repair rest ih =>
    have hrest : ∀ x ∈ rest, x.Within text := fun x hx => hrepairs x (List.mem_cons_of_mem _ hx)
    have hrepair := hrepairs repair List.mem_cons_self
    cases repair with
    | suppose place kind =>
      rw [lexemeWith]
      split
      · exact ⟨le_refl c, .supposed hrepair rfl hc rfl, hrest, [], rfl, .nil (le_refl _), .nil⟩
      · exact .onward hd hc hrepairs
    | read place reading => exact hrepair.elim
    | skip start stop =>
      obtain ⟨hstart, hstop, hreached⟩ := hrepair
      have honward := le_start_lexeme d c
      rw [lexemeWith]
      split
      · next hoffset =>
        -- the stretch starts at the lexeme itself, so what follows it lies further on
        have hsame := Cursor.eq_of_offset_eq hstart (hc.le.trans honward) hoffset
        have hbefore : c ≤ start := hsame ▸ honward
        have hread : Continues text stop (errorNode start :: out)
            (lexemeWith d rest stop (errorNode start :: out)) := ih hreached hrest
        obtain ⟨ts, hout, hts, hfit⟩ := hread.out
        have herror : Ascend c.position [errorNode start] stop.position :=
          (Ascend.nil (Cursor.position_mono hbefore)).append
            (.leaf rfl (Cursor.position_mono hstop))
        have hboth : Tree.AllFit text ([errorNode start] ++ ts) :=
          .append (.leaf (.plain rfl nofun rfl)) hfit
        refine ⟨(hbefore.trans hstop).trans hread.start, hread.lexeme, hread.repairs,
          errorNode start :: ts, ?_, herror.append hts, hboth⟩
        rw [hout, List.reverse_cons, List.append_assoc, List.singleton_append]
      · exact .onward hd hc hrepairs

/-- The state after a lexeme that ends at a place, with the trees of the lexeme. -/
theorem follows_shift {text : Cursor} {e : Context} (hd : e.dialect.strict = false) {s : State}
    (hs : s.Within text) {c : Cursor} (hc : text.Reached c)
    {ts : List Tree} (hts : Ascend s.lexeme.start.position ts c.position)
    (hfit : Tree.AllFit text ts) :
    let next := lexemeWith e.dialect s.repairs c (ts.reverse ++ s.out)
    Step.Follows text s (.done () { s with
      lexeme := next.1, previous := c, out := next.2.2, repairs := next.2.1
      marks := { start := s.lexeme.start } :: s.marks
      shifted := { start := s.lexeme.start } :: s.marks
      reading := .identifier }) := by
  intro next
  have hnext : Continues text c (ts.reverse ++ s.out) next :=
    continues_lexemeWith hd s.repairs hc hs.repairs
  have hmarks : Mark.AllWithin text ({ start := s.lexeme.start } :: s.marks) := by
    intro m hm
    rcases List.mem_cons.mp hm with rfl | hm
    · exact hs.lexeme.within.start
    · exact hs.marks m hm
  obtain ⟨us, hout, hus, hfit'⟩ := hnext.out
  have hall : Tree.AllFit text next.2.2 :=
    hout ▸ hfit'.reverse.append (hfit.reverse.append hs.out)
  refine ⟨⟨hnext.lexeme, hall, hc, hmarks, hmarks, hs.reach, hnext.repairs⟩, ts ++ us, ?_,
    hts.append hus⟩
  show next.2.2 = _
  rw [hout, List.reverse_append, List.append_assoc]

end PackageUsage.Source
