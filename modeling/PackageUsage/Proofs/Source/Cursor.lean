import PackageUsage.Source.Cursor
import PackageUsage.Text.Blank

/-!
# Passing over characters

One cursor stands behind another when the characters between them have been read one by one. All
that a reader keeps of a place follows from these characters: the bytes and the lines before it, and
the text between two places.
-/

namespace PackageUsage.Source.Cursor

@[simp] theorem rest_step (c : Cursor) (ch : Char) (rest : List Char) :
    (c.step ch rest).rest = rest := by
  unfold step
  split <;> rfl

theorem next_eq_step {c : Cursor} {ch : Char} {rest : List Char} (h : c.rest = ch :: rest) :
    c.next = c.step ch rest := by
  rw [next, h]

/-- The characters `cs` come next at the first cursor, and the second stands behind them. -/
inductive Passes : Cursor → List Char → Cursor → Prop
  | nil (c : Cursor) : Passes c [] c
  | cons {c c' : Cursor} {ch : Char} {rest cs : List Char} (hrest : c.rest = ch :: rest)
      (h : Passes (c.step ch rest) cs c') : Passes c (ch :: cs) c'

namespace Passes

variable {c c' c'' : Cursor} {cs cs' : List Char}

theorem rest_eq (h : Passes c cs c') : c.rest = cs ++ c'.rest := by
  induction h with
  | nil c => rfl
  | cons hrest _ ih =>
    rw [rest_step] at ih
    rw [hrest, ih]
    rfl

theorem uncons {ch : Char} (h : Passes c (ch :: cs) c') :
    ∃ rest, c.rest = ch :: rest ∧ Passes (c.step ch rest) cs c' := by
  cases h with
  | @cons _ _ _ rest _ hrest h => exact ⟨rest, hrest, h⟩

theorem append (h : Passes c cs c') (h' : Passes c' cs' c'') : Passes c (cs ++ cs') c'' := by
  induction h with
  | nil c => exact h'
  | cons hrest _ ih => exact .cons hrest (ih h')

theorem split (h : Passes c (cs ++ cs') c'') : ∃ m, Passes c cs m ∧ Passes m cs' c'' := by
  induction cs generalizing c with
  | nil => exact ⟨c, .nil c, h⟩
  | cons ch cs ih =>
    obtain ⟨rest, hrest, h⟩ := h.uncons
    obtain ⟨m, hm, hm'⟩ := ih h
    exact ⟨m, .cons hrest hm, hm'⟩

theorem single {ch : Char} {rest : List Char} (h : c.rest = ch :: rest) :
    Passes c [ch] (c.step ch rest) :=
  .cons h (.nil _)

theorem of_singleton {ch : Char} (h : Passes c [ch] c') :
    ∃ rest, c.rest = ch :: rest ∧ c' = c.step ch rest := by
  obtain ⟨rest, hrest, h⟩ := h.uncons
  cases h with
  | nil => exact ⟨rest, hrest, rfl⟩

/-- The characters at a cursor can be passed over. -/
theorem exists_of_rest {rest : List Char} (h : c.rest = cs ++ rest) :
    ∃ c', Passes c cs c' ∧ c'.rest = rest := by
  induction cs generalizing c with
  | nil => exact ⟨c, .nil c, h⟩
  | cons ch cs ih =>
    obtain ⟨c', hpass, hrest⟩ := ih (c := c.step ch (cs ++ rest)) (rest_step ..)
    exact ⟨c', .cons h hpass, hrest⟩

theorem line_eq (h : Passes c cs c') : c'.line = c.line + cs.count '\n' := by
  induction h with
  | nil c => rfl
  | @cons c c' ch rest cs hrest _ ih =>
    rw [ih, List.count_cons]
    unfold step
    by_cases hch : ch = '\n'
    · simp [hch]
      omega
    · simp [hch]

theorem offset_eq (h : Passes c cs c') : c'.offset = c.offset + Text.byteLength cs := by
  induction h with
  | nil c => rfl
  | @cons c c' ch rest cs hrest _ ih =>
    rw [ih, Text.byteLength]
    unfold step
    by_cases hch : ch = '\n'
    · have hsize : ('\n' : Char).utf8Size = 1 := by decide
      simp only [hch, if_true, hsize]
      omega
    · simp only [hch, if_false]
      omega

theorem takeBytes_byteLength (cs rest : List Char) :
    takeBytes (Text.byteLength cs) (cs ++ rest) = cs := by
  induction cs with
  | nil => cases rest <;> rfl
  | cons ch cs ih =>
    obtain ⟨width, hwidth⟩ : ∃ width, ch.utf8Size = width + 1 :=
      Nat.exists_eq_succ_of_ne_zero (Nat.pos_iff_ne_zero.mp ch.utf8Size_pos)
    have hsum : Text.byteLength (ch :: cs) = (width + Text.byteLength cs) + 1 := by
      rw [Text.byteLength, hwidth]
      omega
    have hrest : width + Text.byteLength cs + 1 - ch.utf8Size = Text.byteLength cs := by omega
    rw [hsum, List.cons_append, takeBytes, hrest, ih]

/-- The text between two places is spelled by the characters between them. -/
theorem textTo_eq (h : Passes c cs c') : c.textTo c' = String.ofList cs := by
  have hbytes : c'.offset - c.offset = Text.byteLength cs := by
    have hoffset := h.offset_eq
    omega
  rw [textTo, hbytes, h.rest_eq, takeBytes_byteLength]

end Passes

end PackageUsage.Source.Cursor
