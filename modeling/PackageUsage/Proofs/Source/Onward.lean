import Mathlib.Data.Prod.Lex
import PackageUsage.Proofs.Source.Cursor
import PackageUsage.Source.Grammar.Markup

/-!
# Scanners go onward

Cursors are ordered by what has been read: one comes before another when the characters between
them can be passed over. The places of one text are ordered totally, by their offsets, and lines
and columns ascend with them. Blanks, words and markup end at or behind the place they start from.
-/

namespace PackageUsage.Source

namespace Cursor

/-! ## The order of places -/

theorem Passes.unique {c a b : Cursor} {cs : List Char} (ha : c.Passes cs a) (hb : c.Passes cs b) :
    a = b := by
  induction ha with
  | nil c => cases hb; rfl
  | cons hrest _ ih =>
    obtain ⟨rest', hrest', hb⟩ := hb.uncons
    rw [hrest] at hrest'
    obtain ⟨-, rfl⟩ := List.cons.inj hrest'
    exact ih hb

/-- A place comes before the places that reading leads to. -/
instance : PartialOrder Cursor where
  le c c' := ∃ cs, c.Passes cs c'
  le_refl c := ⟨[], .nil c⟩
  le_trans := by
    rintro a b c ⟨cs, h⟩ ⟨cs', h'⟩
    exact ⟨cs ++ cs', h.append h'⟩
  le_antisymm := by
    rintro a b ⟨cs, h⟩ ⟨cs', h'⟩
    have hlength := congrArg List.length h.rest_eq
    have hlength' := congrArg List.length h'.rest_eq
    rw [List.length_append] at hlength hlength'
    obtain rfl : cs = [] := List.eq_nil_of_length_eq_zero (by omega)
    cases h
    rfl

theorem Passes.le {c c' : Cursor} {cs : List Char} (h : c.Passes cs c') : c ≤ c' :=
  ⟨cs, h⟩

/-- Two places of one text are ordered by their offsets. -/
theorem le_of_offset_le {text a b : Cursor} (ha : text ≤ a) (hb : text ≤ b)
    (h : a.offset ≤ b.offset) : a ≤ b := by
  obtain ⟨cs, ha⟩ := ha
  obtain ⟨cs', hb⟩ := hb
  have hrest : cs ++ a.rest = cs' ++ b.rest := by rw [← ha.rest_eq, ← hb.rest_eq]
  rcases List.append_eq_append_iff.mp hrest with ⟨more, rfl, -⟩ | ⟨more, rfl, -⟩
  · obtain ⟨m, hm, hmore⟩ := hb.split
    obtain rfl := ha.unique hm
    exact hmore.le
  · obtain ⟨m, hm, hmore⟩ := ha.split
    obtain rfl := hb.unique hm
    have hoffset := hmore.offset_eq
    cases more with
    | nil => cases hmore; exact le_refl _
    | cons ch more =>
      have hpos := ch.utf8Size_pos
      rw [Text.byteLength] at hoffset
      omega

theorem eq_of_offset_eq {text a b : Cursor} (ha : text ≤ a) (hb : text ≤ b)
    (h : a.offset = b.offset) : a = b :=
  le_antisymm (le_of_offset_le ha hb h.le) (le_of_offset_le hb ha h.ge)

/-! ## Lines and columns -/

/-- The line and the column of a place. -/
def position (c : Cursor) : Nat ×ₗ Nat :=
  toLex (c.line, c.column)

theorem position_step_le (c : Cursor) (ch : Char) (rest : List Char) :
    c.position ≤ (c.step ch rest).position := by
  unfold position step
  by_cases hch : ch = '\n'
  · rw [if_pos hch]
    exact Prod.Lex.toLex_le_toLex.mpr (Or.inl (Nat.lt_succ_self _))
  · rw [if_neg hch]
    exact Prod.Lex.toLex_le_toLex.mpr (Or.inr ⟨rfl, Nat.le_add_right _ _⟩)

theorem position_mono {c c' : Cursor} (h : c ≤ c') : c.position ≤ c'.position := by
  obtain ⟨cs, h⟩ := h
  induction h with
  | nil c => exact le_refl _
  | @cons c c' ch rest cs _ _ ih => exact (c.position_step_le ch rest).trans ih

/-- No place of a text lies beyond its last line. -/
theorem line_le_count {text c : Cursor} (h : text ≤ c) :
    c.line ≤ text.line + text.rest.count '\n' := by
  obtain ⟨cs, h⟩ := h
  rw [h.line_eq, h.rest_eq, List.count_append]
  omega

/-! ## Moves -/

variable {c c' stop : Cursor} {ch : Char} {cs rest : List Char} {d : Dialect}

theorem le_step (h : c.rest = ch :: rest) : c ≤ c.step ch rest :=
  (Passes.single h).le

theorem le_next (c : Cursor) : c ≤ c.next := by
  cases hrest : c.rest with
  | nil => rw [next, hrest]
  | cons ch rest =>
    rw [next_eq_step hrest]
    exact le_step hrest

/-- A run of characters is passed over up to the first one that does not belong to it. -/
theorem exists_passes_skipWhile (c : Cursor) (p : Char → Bool) :
    ∃ cs, c.Passes cs (c.skipWhile p) ∧ (∀ ch ∈ cs, p ch = true) ∧
      ∀ ch ∈ (c.skipWhile p).rest.head?, p ch = false := by
  have hgo (rest : List Char) (c : Cursor) (h : c.rest = rest) :
      ∃ cs, c.Passes cs (skipWhile.go p rest c) ∧ (∀ ch ∈ cs, p ch = true) ∧
        ∀ ch ∈ (skipWhile.go p rest c).rest.head?, p ch = false := by
    induction rest generalizing c with
    | nil => exact ⟨[], .nil c, by simp, by simp [skipWhile.go, h]⟩
    | cons ch rest ih =>
      rw [skipWhile.go]
      split
      · next hch =>
        obtain ⟨cs, hpass, hall, hend⟩ := ih (c.step ch rest) (rest_step ..)
        exact ⟨ch :: cs, .cons h hpass, List.forall_mem_cons.mpr ⟨hch, hall⟩, hend⟩
      · next hch => exact ⟨[], .nil c, by simp, by simpa [h] using hch⟩
  exact hgo c.rest c rfl

theorem le_skipWhile (p : Char → Bool) (c : Cursor) : c ≤ c.skipWhile p := by
  obtain ⟨cs, hpass, -⟩ := c.exists_passes_skipWhile p
  exact hpass.le

end Cursor

open Cursor

/-! ## Lexemes -/

variable {c c' start stop : Cursor} {cs : List Char} {d : Dialect}

/-- Blanks and comments end behind their start; a comment without an end is not passed over. -/
theorem Trivia.le_place_read {t : Trivia} (hrest : t.place.rest = cs) (hplace : start ≤ t.place)
    (hopening : start ≤ t.opening) : start ≤ (Trivia.read d cs t).place := by
  induction cs generalizing t with
  | nil =>
    rw [Trivia.read]
    split
    · exact hopening
    · exact hplace
  | cons ch rest ih =>
    have honward : start ≤ t.place.step ch rest := hplace.trans (le_step hrest)
    unfold Trivia.read
    split
    · split_ifs
      · exact ih (rest_step ..) honward hopening
      · exact ih (rest_step ..) honward hopening
      · exact ih (rest_step ..) honward hplace
      · exact hplace
    · split_ifs
      · exact ih (rest_step ..) honward hopening
      · exact ih (rest_step ..) honward hopening
    · split_ifs
      · exact ih (rest_step ..) honward hopening
      · exact ih (rest_step ..) honward hopening
      · exact ih (rest_step ..) honward hopening

theorem Trivia.le_place (d : Dialect) (c : Cursor) : c ≤ (Trivia.of d c).place :=
  le_place_read rfl (le_refl c) (le_refl c)

theorem le_scanWordRest {pending : Nat} (h : c.rest = cs) : c ≤ scanWordRest d pending cs c := by
  fun_induction scanWordRest d pending cs c with
  | case1 => exact le_refl _
  | case2 c pending ch rest ih => exact (le_step h).trans (ih (rest_step ..))
  | case3 c ch rest _ ih => exact (le_step h).trans (ih (rest_step ..))
  | case4 c ch rest _ pending _ ih => exact (le_step h).trans (ih (rest_step ..))
  | case5 => exact le_refl _

theorem le_of_scanWord? (h : scanWord? d c = some stop) : c ≤ stop := by
  unfold scanWord? at h
  split at h
  · cases h
  · next ch rest hrest =>
    have hword (pending : Nat) : c ≤ scanWordRest d pending rest (c.step ch rest) :=
      (le_step hrest).trans (le_scanWordRest (rest_step ..))
    split at h
    · cases h
      exact hword 0
    · split at h
      · cases h
        exact hword _
      · cases h

theorem le_start_lexeme (d : Dialect) (c : Cursor) : c ≤ (lexeme d c).start :=
  Trivia.le_place d c

/-! ## Markup -/

theorem le_of_scanMarkupString (h : scanMarkupString c = some stop) : c ≤ stop := by
  unfold scanMarkupString at h
  split at h
  · cases h
  · dsimp only at h
    split_ifs at h
    cases h
    exact c.le_next.trans ((le_skipWhile _ _).trans (le_next _))

theorem le_of_scanEntity (h : scanEntity c = some stop) : c ≤ stop := by
  unfold scanEntity at h
  dsimp only at h
  split_ifs at h
  cases h
  exact c.le_next.trans ((le_skipWhile _ _).trans (le_next _))

theorem le_scanMarkupText (d : Dialect) (fuel : Nat) (c : Cursor) :
    c ≤ scanMarkupText d fuel c := by
  induction fuel generalizing c with
  | zero => exact le_refl c
  | succ fuel ih =>
    rw [scanMarkupText]
    refine (c.le_skipWhile fun ch => !"<>\x7b\x7d&".toList.contains ch).trans ?_
    split
    · split
      · next stop hentity => exact (le_of_scanEntity hentity).trans (ih stop)
      · split
        · exact (le_next _).trans (ih _)
        · exact le_refl _
    · exact le_refl _

theorem le_of_scanMarkupName (h : Grammar.scanMarkupName d c = some stop) : c ≤ stop := by
  obtain ⟨word, hword, rfl⟩ := Option.map_eq_some_iff.mp h
  exact (le_of_scanWord? hword).trans (word.le_skipWhile _)

end PackageUsage.Source
