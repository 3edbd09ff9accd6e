import PackageUsage.Proofs.Source.Cursor
import PackageUsage.Proofs.Source.Item
import PackageUsage.Source.Lexeme

/-!
# Blanks and comments before a lexeme

The scanner passes over blanks and comments one character at a time. A list of characters is skipped
when this leads from any place before it to the place behind it; layouts and whole comments are
skipped, in the tolerant dialects, whatever follows them.
-/

namespace PackageUsage.Source

open Cursor

variable {d : Dialect} {c c' m : Cursor} {cs cs' rest : List Char} {ch : Char}

namespace Trivia

variable {t : Trivia}

/-! ## Single characters -/

theorem read_blank (hmode : t.mode = .blank) (hch : d.isBlank ch = true) :
    read d (ch :: rest) t = read d rest { t with
      place := t.place.step ch rest
      lineBreak := t.lineBreak || (d.breaksLine ch && (t.clean || d.strict))
      clean := t.clean && isAsciiBlank ch } := by
  rw [read, hmode]
  simp only [hch, if_true]

theorem read_line_open (hmode : t.mode = .blank) (hslash : d.isBlank '/' = false)
    (rest : List Char) :
    read d ('/' :: '/' :: rest) t = read d rest { t with
      place := (t.place.step '/' ('/' :: rest)).step '/' rest, mode := .lineComment } := by
  rw [read, hmode]
  simp [hslash, read, isLineEnd]

theorem read_line_text (hmode : t.mode = .lineComment) (hch : isLineEnd ch = false) :
    read d (ch :: rest) t = read d rest { t with place := t.place.step ch rest } := by
  rw [read, hmode]
  simp [hch]

theorem read_line_end (hmode : t.mode = .lineComment) :
    read d ('\n' :: rest) t = read d rest { t with
      place := t.place.step '\n' rest, mode := .blank
      lineBreak := t.lineBreak || d.breaksLine '\n', clean := true } := by
  rw [read, hmode]
  simp [isLineEnd]

theorem read_block_open (hmode : t.mode = .blank) (hslash : d.isBlank '/' = false)
    (rest : List Char) :
    read d ('/' :: '*' :: rest) t = read d rest { t with
      place := (t.place.step '/' ('*' :: rest)).step '*' rest, opening := t.place
      mode := .blockComment true, inner := false } := by
  rw [read, hmode]
  simp [hslash, read, isLineEnd]

/-- A character inside a block comment, unless it is the slash that ends the comment. -/
theorem read_block_text {star : Bool} (hmode : t.mode = .blockComment star)
    (hopen : star = true → ch = '/' → t.place.offset ≤ t.opening.offset + 2) (rest : List Char) :
    ∃ inner, read d (ch :: rest) t = read d rest { t with
      place := t.place.step ch rest, mode := .blockComment (ch == '*'), inner } := by
  have hnot : (star && ch == '/' && decide (t.place.offset > t.opening.offset + 2)) = false := by
    cases star with
    | false => rfl
    | true =>
      by_cases hch : ch = '/'
      · have hoffset := hopen rfl hch
        simp [hch]
        omega
      · simp [hch]
  rw [read, hmode]
  simp only [hnot]
  exact ⟨_, rfl⟩

theorem read_block_end (hmode : t.mode = .blockComment true)
    (hplace : t.place.offset > t.opening.offset + 2) :
    read d ('/' :: rest) t = read d rest { t with
      place := t.place.step '/' rest, mode := .blank, clean := true
      commentBreak := t.commentBreak || t.inner } := by
  rw [read, hmode]
  simp [hplace]

end Trivia

/-! ## Skipped characters -/

/-- From between two lexemes, the reader of blanks and comments passes over these characters. -/
def Skips (d : Dialect) (cs : List Char) : Prop :=
  ∀ ⦃t : Trivia⦄ ⦃c' : Cursor⦄, t.mode = .blank → t.place.Passes cs c' →
    ∃ t' : Trivia, t'.mode = .blank ∧ t'.place = c' ∧
      Trivia.read d t.place.rest t = Trivia.read d c'.rest t'

namespace Skips

theorem nil : Skips d [] := by
  intro t c' hmode hpass
  cases hpass with
  | nil => exact ⟨t, hmode, rfl, rfl⟩

theorem append (h : Skips d cs) (h' : Skips d cs') : Skips d (cs ++ cs') := by
  intro t c' hmode hpass
  obtain ⟨m, hm, hm'⟩ := hpass.split
  obtain ⟨u, hu, hplace, hread⟩ := h hmode hm
  subst hplace
  obtain ⟨v, hv, hplace', hread'⟩ := h' hu hm'
  exact ⟨v, hv, hplace', hread.trans hread'⟩

theorem blank (h : d.isBlank ch = true) : Skips d [ch] := by
  intro t c' hmode hpass
  obtain ⟨rest, hrest, rfl⟩ := hpass.of_singleton
  rw [hrest, Trivia.read_blank hmode h, rest_step]
  exact ⟨{ t with
    place := t.place.step ch rest
    lineBreak := t.lineBreak || (d.breaksLine ch && (t.clean || d.strict))
    clean := t.clean && isAsciiBlank ch }, hmode, rfl, rfl⟩

end Skips

theorem isBlank_blank (hd : d.strict = false) (b : Blank) : d.isBlank b.char = true := by
  unfold Dialect.isBlank
  rw [hd]
  cases b <;> decide

theorem isBlank_slash (hd : d.strict = false) : d.isBlank '/' = false := by
  unfold Dialect.isBlank
  rw [hd]
  decide

/-- Of the blanks only a line feed ends a line. -/
theorem Trivia.read_layout (hd : d.strict = false) {t : Trivia} {blanks : List Blank}
    (hmode : t.mode = .blank) (hclean : t.clean = true)
    (hpass : t.place.Passes (layout blanks) m) :
    read d t.place.rest t = read d m.rest { t with
      place := m, lineBreak := t.lineBreak || blanks.contains .lineFeed } := by
  induction blanks generalizing t with
  | nil =>
    cases hpass with
    | nil => rw [List.contains_nil, Bool.or_false]
  | cons b blanks ih =>
    obtain ⟨rest, hrest, hpass⟩ := hpass.uncons
    have hascii : isAsciiBlank b.char = true := by cases b <;> decide
    have hbreak : d.breaksLine b.char = (Blank.lineFeed == b) := by
      unfold Dialect.breaksLine
      rw [hd]
      cases b <;> simp [Blank.char]
    let next : Trivia := { t with
      place := t.place.step b.char rest
      lineBreak := t.lineBreak || (d.breaksLine b.char && (t.clean || d.strict))
      clean := t.clean && isAsciiBlank b.char }
    have hnext := @ih next hmode (by simp [next, hclean, hascii]) hpass
    rw [show next.place.rest = rest from rest_step ..] at hnext
    rw [hrest, read_blank hmode (isBlank_blank hd b), hnext]
    simp only [next, hclean, hascii, hbreak, List.contains_cons, Bool.or_assoc, Bool.true_or,
      Bool.and_true]

theorem skips_layout (hd : d.strict = false) (blanks : List Blank) :
    Skips d (layout blanks) := by
  induction blanks with
  | nil => exact Skips.nil
  | cons b blanks ih => exact (Skips.blank (isBlank_blank hd b)).append ih

/-! ## Comments -/

theorem not_isLineEnd_of_isPrintable (h : isPrintable ch = true) : isLineEnd ch = false := by
  simp only [isPrintable, isLineEnd] at *
  grind

namespace Trivia

/-- The text of a comment to the end of the line, with the line feed behind it. -/
theorem read_line {t : Trivia} {text : List Char} (htext : ∀ ch ∈ text, isPrintable ch = true)
    (hmode : t.mode = .lineComment) (hpass : t.place.Passes (text ++ ['\n']) c') :
    ∃ t' : Trivia, t'.mode = .blank ∧ t'.place = c' ∧
      read d t.place.rest t = read d c'.rest t' := by
  induction text generalizing t with
  | nil =>
    obtain ⟨rest, hrest, rfl⟩ := hpass.of_singleton
    rw [hrest, read_line_end hmode, rest_step]
    exact ⟨_, rfl, rfl, rfl⟩
  | cons ch text ih =>
    obtain ⟨rest, hrest, hpass⟩ := hpass.uncons
    have hch := not_isLineEnd_of_isPrintable (htext ch (List.mem_cons_self ..))
    rw [hrest, read_line_text hmode hch]
    obtain ⟨t', hmode', hplace, hread⟩ :=
      @ih { t with place := t.place.step ch rest }
        (fun x hx => htext x (List.mem_cons_of_mem _ hx)) hmode hpass
    rw [rest_step] at hread
    exact ⟨t', hmode', hplace, hread⟩

/-- The text of a block comment, with the marks that end it. The text before has been read from the
opening on; `star` says that it ends in a star, of which the opening has one itself. -/
theorem read_block {t : Trivia} {text : List Char} {star : Bool}
    (htext : ¬ ['*', '/'] <:+: text) (hmode : t.mode = .blockComment star)
    (hstar : star = true → text.head? = some '/' → t.place.offset ≤ t.opening.offset + 2)
    (hoffset : t.opening.offset + 2 ≤ t.place.offset)
    (hpass : t.place.Passes (text ++ ['*', '/']) c') :
    ∃ t' : Trivia, t'.mode = .blank ∧ t'.place = c' ∧
      read d t.place.rest t = read d c'.rest t' := by
  induction text generalizing t star with
  | nil =>
    obtain ⟨rest, hrest, hpass⟩ := hpass.uncons
    have hopen : star = true → '*' = '/' → t.place.offset ≤ t.opening.offset + 2 := by simp
    obtain ⟨inner, hread⟩ := read_block_text (d := d) hmode hopen rest
    obtain ⟨rest', hrest', rfl⟩ := hpass.of_singleton
    rw [rest_step] at hrest'
    subst hrest'
    have hafter : (t.place.step '*' ('/' :: rest')).offset > t.opening.offset + 2 := by
      have hstar := (Passes.single hrest).offset_eq
      simp only [Text.byteLength, show ('*' : Char).utf8Size = 1 by decide] at hstar
      omega
    rw [hrest, hread, read_block_end rfl hafter, rest_step]
    exact ⟨_, rfl, rfl, rfl⟩
  | cons ch text ih =>
    obtain ⟨rest, hrest, hpass⟩ := hpass.uncons
    have hopen : star = true → ch = '/' → t.place.offset ≤ t.opening.offset + 2 :=
      fun hs hch => hstar hs (by simp [hch])
    obtain ⟨inner, hread⟩ := read_block_text (d := d) hmode hopen rest
    have hforward : t.opening.offset + 2 ≤ (t.place.step ch rest).offset := by
      have hstep := (Passes.single hrest).offset_eq
      omega
    have hnext : (ch == '*') = true → text.head? = some '/' →
        (t.place.step ch rest).offset ≤ t.opening.offset + 2 := by
      -- a star before a slash would end the comment
      intro hch hhead
      obtain ⟨more, rfl⟩ : ∃ more, text = '/' :: more := by
        cases text with
        | nil => simp at hhead
        | cons x more => exact ⟨more, by simpa using hhead⟩
      have hch' : ch = '*' := by simpa using hch
      subst hch'
      exact absurd ⟨[], more, rfl⟩ htext
    have htext' : ¬ ['*', '/'] <:+: text :=
      fun hin => htext (hin.trans (List.suffix_cons ..).isInfix)
    obtain ⟨t', hmode', hplace, hread'⟩ :=
      @ih { t with place := t.place.step ch rest, mode := .blockComment (ch == '*'), inner }
        (ch == '*') htext' rfl hnext hforward hpass
    rw [rest_step] at hread'
    rw [hrest, hread]
    exact ⟨t', hmode', hplace, hread'⟩

end Trivia

theorem skips_line (hd : d.strict = false) {text : List Char}
    (htext : ∀ ch ∈ text, isPrintable ch = true) : Skips d ('/' :: '/' :: text ++ ['\n']) := by
  intro t c' hmode hpass
  obtain ⟨rest, hrest, hpass⟩ := hpass.uncons
  obtain ⟨rest', hrest', hpass⟩ := hpass.uncons
  rw [rest_step] at hrest'
  subst hrest'
  have hread := Trivia.read_line_open hmode (isBlank_slash hd) rest'
  obtain ⟨t', hmode', hplace, hread'⟩ := Trivia.read_line (d := d) (t :=
    { t with place := (t.place.step '/' ('/' :: rest')).step '/' rest', mode := .lineComment })
    htext rfl hpass
  rw [rest_step] at hread'
  rw [hrest, hread]
  exact ⟨t', hmode', hplace, hread'⟩

theorem skips_block (hd : d.strict = false) {text : List Char}
    (htext : ¬ ['*', '/'] <:+: text) : Skips d ('/' :: '*' :: text ++ ['*', '/']) := by
  intro t c' hmode hpass
  obtain ⟨rest, hrest, hpass⟩ := hpass.uncons
  obtain ⟨rest', hrest', hpass⟩ := hpass.uncons
  rw [rest_step] at hrest'
  subst hrest'
  have hread := Trivia.read_block_open hmode (isBlank_slash hd) rest'
  have hoffset : ((t.place.step '/' ('*' :: rest')).step '*' rest').offset
      = t.place.offset + 2 := by
    simp [step, show ('/' : Char).utf8Size = 1 by decide, show ('*' : Char).utf8Size = 1 by decide]
  obtain ⟨t', hmode', hplace, hread'⟩ := Trivia.read_block (d := d) (t :=
    { t with
      place := (t.place.step '/' ('*' :: rest')).step '*' rest', opening := t.place
      mode := .blockComment true, inner := false })
    htext rfl (fun _ _ => Nat.le_of_eq hoffset) (Nat.le_of_eq hoffset.symm) hpass
  rw [rest_step] at hread'
  rw [hrest, hread]
  exact ⟨t', hmode', hplace, hread'⟩

/-- A comment is skipped together with the line feed behind it. -/
theorem skips_comment (hd : d.strict = false) (comment : Comment) :
    Skips d (comment.chars ++ ['\n']) := by
  cases comment with
  | line text printable => exact skips_line hd printable
  | block text printable unended =>
    exact (skips_block hd unended).append (skips_layout hd [.lineFeed])

end PackageUsage.Source
