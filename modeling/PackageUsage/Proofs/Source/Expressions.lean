import PackageUsage.Proofs.Source.RoundTrip

/-!
# Expressions of one lexeme

A name or a string that is an expression for itself: it is read through all levels of the grammar,
none of which finds anything behind it, and takes no part in the tree. Between two lines such an
expression is a whole statement.
-/

namespace PackageUsage.Source

open PackageUsage.Source.Parser PackageUsage.Source.Grammar

variable {e : Context} {c c' m x y z : Cursor} {rule inner innermost : Rules} {k k' : LexemeKind}
  {shape : Shape}

/-- The expressions of one lexeme that are read here, with their shapes. -/
inductive IsAtom : LexemeKind → Shape → Prop
  | name : IsAtom (.word "from") Shape.name
  | string : IsAtom .string Shape.plain

/-- The lexemes behind them, none of which goes on with an expression. -/
inductive EndsAtom : LexemeKind → Prop
  | string : EndsAtom .string
  | semicolon : EndsAtom (.mark ";")

namespace EndsAtom

theorem ne_mark (h : EndsAtom k) {text : String} (htext : text ≠ ";") : k ≠ .mark text := by
  cases h with
  | string => simp
  | semicolon => simpa using htext.symm

end EndsAtom

theorem reads_primary (hfuel : 0 < e.fuel) (hd : e.dialect.strict = false) (hatom : IsAtom k shape)
    (hlex : Lexes e.dialect c k m c') (hm : Unmarked m) (hend : EndsAtom k')
    (hnext : Lexes e.dialect c' k' y z) : Reads e (primary rule) c shape [] c' := by
  have hreading : (lexeme e.dialect c).reading = .any := rfl
  refine (reads_skipMarkupComments hfuel hlex hm).silent_bind ?_
  refine Reads.context.silent_bind (Reads.look.silent_bind ((Reads.lookAfter hlex).silent_bind ?_))
  simp only [hlex.kind]
  cases hatom with
  | name =>
    have hname : isIdentifier e (expressionWords e.dialect.types) (lexeme e.dialect c) = true := by
      simp only [isIdentifier, hlex.kind, hd, hreading, expressionWords]
      cases e.dialect.types <;> rfl
    simp only [hname, Bool.true_or, if_true]
    refine (Reads.bump hlex).silent_bind ((Reads.atMark hnext).silent_bind ?_)
    rw [if_neg (by simpa using hend.ne_mark (by decide))]
    exact .pure _
  | string => exact (Reads.bump hlex).silent_bind (.pure _)

theorem reads_suffixes (hfuel : 0 < e.fuel) (hend : EndsAtom k)
    (hlex : Lexes e.dialect c k m x) (shape : Shape) :
    Reads e (suffixes rule e.fuel shape) c shape [] c := by
  obtain ⟨fuel, hfuel⟩ : ∃ fuel, e.fuel = fuel + 1 := ⟨e.fuel - 1, by omega⟩
  have hnone : Reads e (suffix rule shape) c none [] c := by
    refine Reads.context.silent_bind (Reads.look.silent_bind ?_)
    simp only [hlex.kind]
    cases hend <;> exact .pure none
  rw [hfuel, suffixes]
  exact hnone.silent_bind (.pure shape)

theorem reads_operand (hfuel : 0 < e.fuel) (hd : e.dialect.strict = false) (hatom : IsAtom k shape)
    (hlex : Lexes e.dialect c k m c') (hm : Unmarked m) (hend : EndsAtom k')
    (hnext : Lexes e.dialect c' k' y z) : Reads e (operand rule) c shape [] c' := by
  have hprimary : Reads e (primary rule) c shape [] c' :=
    reads_primary hfuel hd hatom hlex hm hend hnext
  have hrest : Reads e (suffixes rule e.fuel shape) c' shape [] c' :=
    reads_suffixes hfuel hend hnext shape
  have hsuffix : Reads e operand.atSuffix c' false [] c' := by
    refine (Reads.atMark hnext).silent_bind ((Reads.atMark hnext).silent_bind
      ((Reads.atMark hnext).silent_bind ?_))
    cases hend <;> exact .pure false
  refine Reads.symbol ((reads_skipMarkupComments hfuel hlex hm).silent_bind ?_)
  refine Reads.context.silent_bind (Reads.look.silent_bind ((Reads.lookAfter hlex).silent_bind ?_))
  simp only [hlex.kind]
  cases hatom with
  | name => exact hprimary.silent_bind (hsuffix.silent_bind hrest)
  | string => exact hprimary.silent_bind (hsuffix.silent_bind hrest)

theorem reads_lineEndsHere (hd : e.dialect.strict = false) (c : Cursor) :
    let l := lexeme e.dialect c
    Reads e lineEndsHere c (e.lineEnds && l.lineBreak && endsStatement e.dialect true l) [] c := by
  refine Reads.context.silent_bind (Reads.look.silent_bind ?_)
  rw [if_neg (by simp [hd])]
  exact .pure _

theorem reads_binaries (hfuel : 0 < e.fuel) (hd : e.dialect.strict = false) (hend : EndsAtom k)
    (hlex : Lexes e.dialect c k m x) (shape : Shape) :
    Reads e (binaries rule e.fuel [] shape) c shape [] c := by
  obtain ⟨fuel, hfuel⟩ : ∃ fuel, e.fuel = fuel + 1 := ⟨e.fuel - 1, by omega⟩
  have hnone : Reads e (binaryStep rule shape) c none [] c := by
    refine Reads.context.silent_bind (Reads.look.silent_bind ?_)
    simp only [hlex.kind]
    cases hend with
    | string => exact .pure none
    | semicolon => exact (reads_lineEndsHere hd c).silent_bind (.pure none)
  rw [hfuel, binaries]
  exact Reads.look.silent_bind (hnone.silent_bind (.pure shape))

theorem reads_assignment (hfuel : 0 < e.fuel) (hd : e.dialect.strict = false)
    (hatom : IsAtom k shape) (hlex : Lexes e.dialect c k m c') (hm : Unmarked m)
    (hend : EndsAtom k') (hnext : Lexes e.dialect c' k' y z) :
    Reads e (assignment rule) c shape [] c' := by
  refine Reads.symbol (Reads.context.silent_bind ?_)
  refine (reads_operand hfuel hd hatom hlex hm hend hnext).silent_bind ?_
  rw [hd, Bool.and_false, if_neg Bool.false_ne_true]
  refine (reads_binaries hfuel hd hend hnext shape).silent_bind ?_
  refine (Reads.atMark hnext).silent_bind ((Reads.lookAfter hnext).silent_bind ?_)
  rw [if_neg (by simp [hend.ne_mark])]
  refine Reads.look.silent_bind ?_
  simp only [hnext.kind]
  cases hend <;> exact .pure shape

theorem reads_expression (hfuel : 0 < e.fuel) (hd : e.dialect.strict = false)
    (hrule : rule .assignment = locally (assignment inner)) (hatom : IsAtom k shape)
    (hlex : Lexes e.dialect c k m c') (hm : Unmarked m) (hend : EndsAtom k')
    (hnext : Lexes e.dialect c' k' y z) : Reads e (expression rule) c shape [] c' := by
  have hassignment : Reads e (rule .assignment) c shape [] c' := by
    rw [hrule]
    exact (reads_assignment hfuel hd hatom hlex hm hend hnext).locally
  refine Reads.symbol (hassignment.silent_bind ((Reads.atMark hnext).silent_bind ?_))
  rw [if_neg (by simp [hend.ne_mark])]
  exact .pure shape

/-- A statement that is only an atom, up to where it ends. -/
theorem reads_expressionStatement (hfuel : 0 < e.fuel) (hd : e.dialect.strict = false)
    (hrule : rule .expression = locally (expression inner))
    (hinner : inner .assignment = locally (assignment innermost))
    (hatom : IsAtom k shape) (hlex : Lexes e.dialect c k m c') (hm : Unmarked m)
    (hend : EndsAtom k') (hnext : Lexes e.dialect c' k' y z)
    (hsemicolon : Reads e (semicolon true) c' () [] x) :
    Reads e (expressionStatement rule) c () [] x := by
  have hexpression : Reads e (rule .expression) c shape [] c' := by
    rw [hrule]
    exact (reads_expression hfuel hd hinner hatom hlex hm hend hnext).locally
  have hvalue : shape.value = true := by cases hatom <;> rfl
  have hread : Reads e (value rule .expression) c () [] c' := by
    refine hexpression.silent_bind ?_
    rw [hvalue, Parser.guard, if_pos rfl]
    exact .give ()
  exact hread.silent_bind hsemicolon

end PackageUsage.Source
