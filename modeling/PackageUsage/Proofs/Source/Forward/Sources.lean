import PackageUsage.Proofs.Source.Forward.Lexemes

/-!
# Lexemes of a text

A lexeme of a text is one that is found from a place where reading starts, or one that is supposed
there. A text names a module only if it has a lexeme that leads to one: the word `import`, the star
of an export, or a word `from` that does not start a new statement.
-/

namespace PackageUsage.Source

open Cursor

variable {text : Cursor} {l : Lexeme}

/-! ## Lexemes that are read -/

/-- A lexeme stands between two places of a text, and the next one is looked for from its end. -/
structure Lexeme.Within (text : Cursor) (l : Lexeme) : Prop where
  start : text ≤ l.start
  stop : l.start ≤ l.stop
  reached : text.Reached l.stop

theorem within_lexeme {d : Dialect} {c : Cursor} (hd : d.strict = false) (hc : text ≤ c) :
    (lexeme d c).Within text where
  start := hc.trans (le_start_lexeme d c)
  stop := (reached_scanKind hd (le_refl _) (head_start_lexeme hd c)).le
  reached := reached_scanKind hd (hc.trans (le_start_lexeme d c)) (head_start_lexeme hd c)

theorem within_skippedLexeme {d : Dialect} {c : Cursor} (hd : d.strict = false) (hc : text ≤ c) :
    (skippedLexeme d c).Within text := by
  have hlexeme : (lexeme d c).Within text := within_lexeme hd hc
  unfold skippedLexeme
  dsimp only
  split
  · exact ⟨hlexeme.start, le_next _, .next hlexeme.start (head_start_lexeme hd c)⟩
  · exact hlexeme

/-- A lexeme is read in a text: it is supposed, or it is what comes next at some place. -/
inductive Lexeme.ReadIn (text : Cursor) (l : Lexeme) : Prop
  | supposed (hkind : l.kind ∈ Job.supposable) (hmissing : l.missing = true)
      (hplace : text.Reached l.start) (hnone : l.stop = l.start)
  | written {d : Dialect} {c : Cursor} (hd : d.strict = false) (hc : text.Reached c)
      (hlexeme : lexeme d c = l)

namespace Lexeme.ReadIn

theorem within (h : l.ReadIn text) : l.Within text := by
  cases h with
  | supposed hkind hmissing hplace hnone =>
    exact ⟨hplace.le, hnone.ge, hnone ▸ hplace⟩
  | written hd hc hlexeme =>
    subst hlexeme
    exact within_lexeme hd hc.le

/-- A lexeme that is not supposed starts with a character that shows. -/
theorem reached_next (h : l.ReadIn text) (hkind : l.kind ∉ Job.supposable ∨ l.missing = false) :
    text.Reached l.start.next := by
  have hstart := h.within.start
  cases h with
  | supposed hsupposable hmissing => simp_all
  | @written d c hd _ hlexeme =>
    subst hlexeme
    exact .next hstart (head_start_lexeme hd c)

end Lexeme.ReadIn

/-! ## What lexemes are spelled like -/

/-- A mark stands where it is found. -/
theorem prefix_of_scanKind_mark {d : Dialect} {c stop : Cursor} {m : String}
    (h : scanKind d c = (.mark m, stop)) : m.toList <+: c.rest := by
  unfold scanKind at h
  split at h
  · cases h
  · split at h
    · split at h <;> cases h
    · split at h
      · cases h
      · split at h
        · split at h <;> cases h
        · split at h
          · split at h <;> cases h
          · split at h
            · next m' hmark =>
              cases h
              exact (prefix_of_scanMark? hmark).1
            · cases h

/-- A word is spelled where it starts. -/
theorem passes_of_scanKind_word {d : Dialect} (hd : d.strict = false) {c stop : Cursor} {w : String}
    (h : scanKind d c = (.word w, stop)) : c.Passes w.toList stop := by
  obtain ⟨hscan, hword⟩ := scanWord?_of_scanKind h
  obtain ⟨read, hread, -⟩ := passes_scanWord? hd hscan
  rw [← hword, hread.textTo_eq, String.toList_ofList]
  exact hread

/-- A word or a mark stands in the text, unless it is one that may be supposed. -/
theorem Lexeme.ReadIn.isInfix (h : l.ReadIn text) {w : String}
    (hkind : l.kind = .word w ∨ l.kind = .mark w) (hnot : l.kind ∉ Job.supposable) :
    w.toList <:+: text.rest := by
  have hstart := h.within.start
  cases h with
  | supposed hsupposable => exact absurd hsupposable hnot
  | @written d c hd _ hlexeme =>
    subst hlexeme
    have hprefix : w.toList <+: (lexeme d c).start.rest := by
      rcases hkind with hkind | hkind
      · exact ⟨_, (passes_of_scanKind_word hd (Prod.ext hkind rfl)).rest_eq.symm⟩
      · exact prefix_of_scanKind_mark (Prod.ext hkind rfl)
    exact hprefix.isInfix.trans (Tree.Spelled.suffix_of_le hstart).isInfix

/-! ## Modules -/

/-- A lexeme behind which a declaration may name its module. -/
inductive Lexeme.NamesModule (l : Lexeme) : Prop
  | word_import (h : l.kind = .word "import")
  | star (h : l.kind = .mark "*")
  | word_from {d : Dialect} (h : l.kind = .word "from")
      (hgoes : Grammar.endsStatement d false l = false)

/-- Some lexeme of the text may lead to a module. -/
class Cursor.Sourced (text : Cursor) : Prop where
  named : ∃ l : Lexeme, l.ReadIn text ∧ l.NamesModule

/-- The role of a leaf in a text: only where modules are named is there a source. -/
class Role.Allowed (text : Cursor) (role : Option Role) : Prop where
  sourced : role = some .source → text.Sourced

namespace Role.Allowed

instance none : Allowed text Option.none := ⟨nofun⟩
instance named : Allowed text (some .name) := ⟨nofun⟩
instance renamed : Allowed text (some .renaming) := ⟨nofun⟩
instance ofSource [text.Sourced] : Allowed text (some .source) := ⟨fun _ => inferInstance⟩

end Role.Allowed

end PackageUsage.Source
