import PackageUsage.Proofs.Source.Trivia

/-!
# Tokens

What the scanner of a tolerant dialect makes of the characters that spell a token: behind blanks and
comments that are skipped, the next lexeme is this token, up to the place behind its characters.
-/

namespace PackageUsage.Source

open Cursor

variable {d : Dialect} {c c' m : Cursor} {cs cs' pre rest : List Char} {ch : Char} {k : LexemeKind}

theorem strict_tolerant (language : Language) : (Dialect.tolerant language).strict = false := by
  cases language <;> rfl

/-! ## Characters behind layout -/

/-- Behind characters that are skipped, these characters stand between two places. -/
structure Stands (d : Dialect) (c m : Cursor) (cs : List Char) (c' : Cursor) : Prop where
  skipped : ∃ pre, Skips d pre ∧ c.Passes pre m
  passes : m.Passes cs c'

/-- A blank comes next. -/
def BlankAhead (c : Cursor) : Prop :=
  ∃ (b : Blank) (rest : List Char), c.rest = b.char :: rest

namespace Stands

theorem of_passes (h : c.Passes cs c') : Stands d c c cs c' :=
  ⟨⟨[], Skips.nil, .nil c⟩, h⟩

theorem of_skips (hpre : Skips d pre) (h : c.Passes (pre ++ cs) c') :
    ∃ m, c.Passes pre m ∧ Stands d c m cs c' := by
  obtain ⟨m, hm, hm'⟩ := h.split
  exact ⟨m, hm, ⟨pre, hpre, hm⟩, hm'⟩

/-- Layout before layout. -/
theorem trans {x y : Cursor} (h : Stands d c m [] x) (h' : Stands d x y cs c') :
    Stands d c y cs c' := by
  obtain ⟨pre, hpre, hm⟩ := h.skipped
  obtain ⟨pre', hpre', hy⟩ := h'.skipped
  cases h.passes with
  | nil => exact ⟨⟨pre ++ pre', hpre.append hpre', hm.append hy⟩, h'.passes⟩

theorem rest_length (h : Stands d c m cs c') : cs.length + c'.rest.length ≤ c.rest.length := by
  obtain ⟨pre, -, hpre⟩ := h.skipped
  rw [hpre.rest_eq, h.passes.rest_eq]
  simp only [List.length_append]
  omega

theorem split (h : Stands d c m (cs ++ cs') c') :
    ∃ x, Stands d c m cs x ∧ Stands d x x cs' c' := by
  obtain ⟨x, hx, hx'⟩ := h.passes.split
  exact ⟨x, ⟨h.skipped, hx⟩, of_passes hx'⟩

theorem split_layout (hd : d.strict = false) {blanks : List Blank}
    (h : Stands d c m (cs ++ (layout blanks ++ cs')) c') :
    ∃ x y, Stands d c m cs x ∧ x.rest = layout blanks ++ (cs' ++ c'.rest) ∧
      Stands d x y cs' c' := by
  obtain ⟨x, hx, hx'⟩ := h.passes.split
  obtain ⟨y, -, hy⟩ := of_skips (skips_layout hd blanks) hx'
  have hrest := hx'.rest_eq
  rw [List.append_assoc] at hrest
  exact ⟨x, y, ⟨h.skipped, hx⟩, hrest, hy⟩

theorem split_blanks (hd : d.strict = false) {g : Gap}
    (h : Stands d c m (cs ++ (g.chars ++ cs')) c') :
    ∃ x y, Stands d c m cs x ∧ BlankAhead x ∧ x.Passes g.chars y ∧ Stands d x y cs' c' := by
  obtain ⟨x, hx, hx'⟩ := h.passes.split
  obtain ⟨y, hy, hy'⟩ := of_skips (skips_layout hd (g.first :: g.rest)) hx'
  exact ⟨x, y, ⟨h.skipped, hx⟩, ⟨g.first, _, hx'.rest_eq⟩, hy, hy'⟩

theorem split_gap (hd : d.strict = false) {g : Gap}
    (h : Stands d c m (cs ++ (g.chars ++ cs')) c') :
    ∃ x y, Stands d c m cs x ∧ BlankAhead x ∧ Stands d x y cs' c' := by
  obtain ⟨x, y, hx, hblank, -, hy⟩ := h.split_blanks hd
  exact ⟨x, y, hx, hblank, hy⟩

end Stands

/-! ## The next lexeme -/

/-- The next lexeme from a cursor on, with the place where it starts and the place behind it. -/
structure Lexes (d : Dialect) (c : Cursor) (k : LexemeKind) (m c' : Cursor) : Prop where
  kind : (lexeme d c).kind = k
  start : (lexeme d c).start = m
  stop : (lexeme d c).stop = c'

/-- Nothing that is passed over before a lexeme starts with these characters. -/
def Halts (d : Dialect) : List Char → Prop
  | [] => True
  | ch :: _ => d.isBlank ch = false ∧ ch ≠ '/'

namespace Trivia

theorem read_of_halts {t : Trivia} (hmode : t.mode = .blank) (h : Halts d cs) :
    read d cs t = t := by
  cases cs with
  | nil => rw [read, hmode]
  | cons ch rest =>
    rw [read, hmode]
    simp [h.1, h.2]

theorem place_of_skips (hskip : Skips d pre) (hpass : c.Passes pre m) (hhalt : Halts d m.rest) :
    (Trivia.of d c).place = m := by
  obtain ⟨t, hmode, hplace, hread⟩ :=
    @hskip { place := c, opening := c } m rfl hpass
  unfold Trivia.of
  rw [hread, read_of_halts hmode hhalt, hplace]

end Trivia

theorem Stands.place_eq (h : Stands d c m cs c') (hhalt : Halts d m.rest) :
    (Trivia.of d c).place = m := by
  obtain ⟨pre, hskip, hpass⟩ := h.skipped
  exact Trivia.place_of_skips hskip hpass hhalt

theorem Lexes.of_scanKind (hstands : Stands d c m cs c') (hhalt : Halts d m.rest)
    (hscan : scanKind d m = (k, c')) : Lexes d c k m c' := by
  have hplace := hstands.place_eq hhalt
  constructor <;> simp only [lexeme, hplace, hscan]

/-! ## Words -/

/-- The characters spell a word of ASCII characters. -/
def IsWord : List Char → Bool
  | [] => false
  | first :: rest => isNameStart first && rest.all isNamePart

/-- A word ends before these characters, which start with a blank, a comma or a closing brace. -/
inductive WordEnds : List Char → Prop
  | blank (b : Blank) (rest : List Char) : WordEnds (b.char :: rest)
  | comma (rest : List Char) : WordEnds (',' :: rest)
  | brace (rest : List Char) : WordEnds ('}' :: rest)

theorem BlankAhead.wordEnds (h : BlankAhead c) : WordEnds c.rest := by
  obtain ⟨b, rest, hrest⟩ := h
  rw [hrest]
  exact .blank b rest

theorem wordEnds_layout (h : WordEnds rest) (blanks : List Blank) :
    WordEnds (layout blanks ++ rest) := by
  cases blanks with
  | nil => exact h
  | cons b blanks => exact .blank b _

theorem escapeLength?_eq_none (h : ch ≠ '\\') : escapeLength? (ch :: rest) = none := by
  unfold escapeLength?
  split <;> simp_all

theorem scanWordRest_of_wordEnds (hd : d.strict = false) (h : WordEnds c.rest) :
    scanWordRest d 0 c.rest c = c := by
  obtain ⟨ch, rest, hrest, hch, hescape⟩ : ∃ ch rest, c.rest = ch :: rest ∧
      d.continuesWord ch = false ∧ ch ≠ '\\' := by
    obtain ⟨types, markup, strict⟩ := d
    subst hd
    generalize c.rest = cs at h
    cases h with
    | blank b rest => exact ⟨_, rest, rfl, by cases b <;> rfl, by cases b <;> decide⟩
    | comma rest => exact ⟨_, rest, rfl, rfl, by decide⟩
    | brace rest => exact ⟨_, rest, rfl, rfl, by decide⟩
  rw [hrest, scanWordRest]
  simp only [hch, escapeLength?_eq_none hescape, Bool.false_eq_true, if_false]

theorem scanWordRest_eq (hd : d.strict = false) (hcs : cs.all isNamePart = true)
    (hpass : c.Passes cs c') (hends : WordEnds c'.rest) : scanWordRest d 0 c.rest c = c' := by
  induction hpass with
  | nil c => exact scanWordRest_of_wordEnds hd hends
  | @cons c c' ch rest cs hrest hpass ih =>
    rw [List.all_cons, Bool.and_eq_true] at hcs
    have hch : d.continuesWord ch = true := by
      have hpart : (ch.isAlphanum || ch == '_' || ch == '$') = true := hcs.1
      simp only [Dialect.continuesWord, hpart, if_true]
    have hword := ih hcs.2 hends
    rw [rest_step] at hword
    rw [hrest, scanWordRest]
    simp only [hch, if_true]
    exact hword

theorem not_quote_of_isNameStart (h : isNameStart ch = true) :
    (ch == '"' || ch == '\'') = false := by
  cases hquote : (ch == '"' || ch == '\'') with
  | false => rfl
  | true =>
    simp only [Bool.or_eq_true, beq_iff_eq] at hquote
    obtain rfl | rfl := hquote <;> exact absurd h (by decide)

theorem scanKind_word (hd : d.strict = false) (hcs : IsWord cs = true) (hpass : m.Passes cs c')
    (hends : WordEnds c'.rest) : scanKind d m = (.word (String.ofList cs), c') := by
  cases cs with
  | nil => simp [IsWord] at hcs
  | cons ch cs =>
    have htext := hpass.textTo_eq
    obtain ⟨rest, hrest, hpass⟩ := hpass.uncons
    obtain ⟨hstart, hparts⟩ : isNameStart ch = true ∧ cs.all isNamePart = true := by
      simpa only [IsWord, Bool.and_eq_true] using hcs
    have hword : d.startsWord ch = true := by
      have hfirst : (ch.isAlpha || ch == '_' || ch == '$') = true := hstart
      simp only [Dialect.startsWord, hfirst, if_true]
    have hstop := scanWordRest_eq hd hparts hpass hends
    rw [rest_step] at hstop
    simp only [scanKind, hrest, not_quote_of_isNameStart hstart, scanWord?, hword, if_true, hstop,
      htext, Bool.false_eq_true, if_false]

theorem toNat_of_isNameStart (h : isNameStart ch = true) :
    36 ≤ ch.toNat ∧ ch.toNat ≤ 122 ∧ ch.toNat ≠ 47 := by
  have hval : ch.toNat = ch.val.toNat := rfl
  have hcases : (decide (ch.val ≥ 'A'.val ∧ ch.val ≤ 'Z'.val) ||
      (decide (ch.val ≥ 'a'.val) && decide (ch.val ≤ 'z'.val)) || ch == '_' || ch == '$') = true :=
    h
  simp only [Bool.or_eq_true, beq_iff_eq, Bool.and_eq_true, decide_eq_true_eq,
    UInt32.le_iff_toNat_le, GE.ge] at hcases
  obtain ((hupper | hlower) | rfl) | rfl := hcases
  · simp at hupper
    omega
  · simp at hlower
    omega
  · decide
  · decide

theorem not_isBlank_of_isNameStart (hd : d.strict = false) (h : isNameStart ch = true) :
    d.isBlank ch = false ∧ ch ≠ '/' := by
  have hbounds := toNat_of_isNameStart h
  constructor
  · simp [Dialect.isBlank, hd, isTolerantBlank]
    omega
  · rintro rfl
    exact hbounds.2.2 rfl

theorem Lexes.word (hd : d.strict = false) (h : Stands d c m cs c') (hcs : IsWord cs = true)
    (hends : WordEnds c'.rest) : Lexes d c (.word (String.ofList cs)) m c' := by
  refine .of_scanKind h ?_ (scanKind_word hd hcs h.passes hends)
  cases cs with
  | nil => simp [IsWord] at hcs
  | cons ch cs =>
    rw [h.passes.rest_eq]
    exact not_isBlank_of_isNameStart hd (Bool.and_eq_true _ _ ▸ hcs).1

theorem Lexes.keyword (hd : d.strict = false) {w : String} (h : Stands d c m w.toList c')
    (hw : IsWord w.toList = true) (hends : WordEnds c'.rest) : Lexes d c (.word w) m c' := by
  have hlex := Lexes.word hd h hw hends
  rwa [String.ofList_toList] at hlex

theorem Lexes.identifier (hd : d.strict = false) {i : Identifier} (h : Stands d c m i.chars c')
    (hends : WordEnds c'.rest) : Lexes d c (.word i.text) m c' :=
  Lexes.word hd h i.spelled hends

/-! ## Marks -/

/-- The marks that module declarations are written with. -/
inductive IsMark : Char → Prop
  | opening : IsMark '{'
  | closing : IsMark '}'
  | comma : IsMark ','
  | semicolon : IsMark ';'
  | star : IsMark '*'

namespace IsMark

theorem not_startsWord (hd : d.strict = false) (h : IsMark ch) : d.startsWord ch = false := by
  obtain ⟨types, markup, strict⟩ := d
  subst hd
  cases h <;> rfl

theorem halts (hd : d.strict = false) (h : IsMark ch) : Halts d (ch :: rest) := by
  obtain ⟨types, markup, strict⟩ := d
  subst hd
  cases h <;> exact ⟨rfl, by decide⟩

theorem scanNumber?_eq_none (h : IsMark ch) (hrest : m.rest = ch :: rest) :
    scanNumber? m = none := by
  unfold scanNumber?
  rw [hrest]
  cases h <;> rfl

/-- No longer mark starts with one of these, unless a second star or an equals sign follows. -/
theorem find?_longMarks (h : IsMark ch) (hrest : m.rest = ch :: rest)
    (hstar : ch = '*' → ∃ (b : Blank) (more : List Char), rest = b.char :: more) :
    longMarks.find? m.startsWith = none := by
  have hstarts : m.startsWith = fun text : String => text.toList.isPrefixOf (ch :: rest) := by
    funext text
    rw [startsWith, hrest]
  rw [hstarts]
  cases h with
  | star =>
    obtain ⟨b, more, rfl⟩ := hstar rfl
    cases b <;> rfl
  | _ => rfl

theorem scanKind_eq (hd : d.strict = false) (h : IsMark ch) (hrest : m.rest = ch :: rest)
    (hstar : ch = '*' → ∃ (b : Blank) (more : List Char), rest = b.char :: more) :
    scanKind d m = (.mark (String.singleton ch), m.step ch rest) := by
  have hescape : escapeLength? (ch :: rest) = none :=
    escapeLength?_eq_none (by cases h <;> decide)
  have hword : scanWord? d m = none := by
    simp only [scanWord?, hrest, h.not_startsWord hd, hescape, Bool.false_eq_true, if_false]
  have hmark : scanMark? m = some (String.singleton ch) := by
    simp only [scanMark?, h.find?_longMarks hrest hstar, hrest]
    cases h <;> rfl
  have hskip : m.skip (String.singleton ch).length = m.step ch rest := by
    rw [String.length_singleton]
    exact next_eq_step hrest
  have hquote : (ch == '"' || ch == '\'') = false := by cases h <;> rfl
  have hhash : (ch == '#') = false := by cases h <;> rfl
  rw [scanKind, hrest]
  simp only [hquote, hword, h.scanNumber?_eq_none hrest, hhash, hmark, hskip, Bool.false_eq_true,
    if_false]

end IsMark

theorem Lexes.mark (hd : d.strict = false) (h : Stands d c m [ch] c') (hch : IsMark ch)
    (hstar : ch = '*' → BlankAhead c') : Lexes d c (.mark (String.singleton ch)) m c' := by
  obtain ⟨rest, hrest, rfl⟩ := h.passes.of_singleton
  rw [BlankAhead, rest_step] at hstar
  refine .of_scanKind h ?_ (hch.scanKind_eq hd hrest hstar)
  rw [hrest]
  exact hch.halts hd

/-! ## Literals -/

theorem scanStringRest_eq {q : Char} (hcs : ∀ x ∈ cs, isPrintable x = true ∧ x ≠ q ∧ x ≠ '\\')
    (hpass : c.Passes (cs ++ [q]) c') : scanStringRest d q false c.rest c = some c' := by
  induction cs generalizing c with
  | nil =>
    obtain ⟨rest, hrest, rfl⟩ := hpass.of_singleton
    rw [hrest, scanStringRest.eq_def]
    simp
  | cons x cs ih =>
    obtain ⟨rest, hrest, hpass⟩ := hpass.uncons
    obtain ⟨hprintable, hquote, hescape⟩ := hcs x (List.mem_cons_self ..)
    have hline := not_isLineEnd_of_isPrintable hprintable
    have hbreak : (x == '\n' || x == '\r') = false := by
      cases hx : (x == '\n' || x == '\r') with
      | false => rfl
      | true =>
        simp only [Bool.or_eq_true, beq_iff_eq] at hx
        obtain rfl | rfl := hx <;> exact absurd hline (by decide)
    have hrec := ih (c := c.step x rest) (fun y hy => hcs y (List.mem_cons_of_mem _ hy)) hpass
    rw [rest_step] at hrec
    rw [hrest, scanStringRest.eq_def]
    simp only [beq_eq_false_iff_ne.mpr hquote, beq_eq_false_iff_ne.mpr hescape, hbreak,
      Bool.false_eq_true, if_false, hrec]

theorem scanKind_literal (l : Literal) (hpass : m.Passes l.chars c') :
    scanKind d m = (.string, c') := by
  obtain ⟨rest, hrest, hpass⟩ := hpass.uncons
  have hquote : (l.quote.char == '"' || l.quote.char == '\'') = true := by
    cases l.quote <;> rfl
  have hstop := scanStringRest_eq (d := d) l.plain hpass
  rw [rest_step] at hstop
  rw [scanKind, hrest]
  simp only [hquote, if_true, hstop]

theorem Lexes.literal (hd : d.strict = false) {l : Literal} (h : Stands d c m l.chars c') :
    Lexes d c .string m c' := by
  refine .of_scanKind h ?_ (scanKind_literal l h.passes)
  rw [h.passes.rest_eq]
  obtain ⟨types, markup, strict⟩ := d
  subst hd
  unfold Literal.chars
  cases l.quote <;> exact ⟨rfl, by decide⟩

/-! ## The end of the text -/

theorem Lexes.endOfText (h : Stands d c m [] c') (hrest : c'.rest = []) :
    Lexes d c .endOfText c' c' := by
  cases h.passes with
  | nil =>
    refine .of_scanKind h ?_ ?_
    · rw [hrest]
      trivial
    · rw [scanKind, hrest]

/-! ## Lines -/

/-- A line ends before a lexeme if there is a line feed in the blanks in front of it. -/
theorem lexeme_after_layout (hd : d.strict = false) {blanks : List Blank}
    (hpass : c.Passes (layout blanks) m) (hhalt : Halts d m.rest) :
    (lexeme d c).lineBreak = blanks.contains .lineFeed ∧ (lexeme d c).commentBreak = false := by
  have hread : Trivia.of d c =
      { place := m, opening := c, lineBreak := blanks.contains .lineFeed } := by
    unfold Trivia.of
    rw [Trivia.read_layout (t := { place := c, opening := c }) hd rfl rfl hpass,
      Trivia.read_of_halts rfl hhalt, Bool.false_or]
  simp only [lexeme, hread, hd, Bool.false_and, Bool.or_false, and_self]

end PackageUsage.Source
