import PackageUsage.Proofs.Regex
import PackageUsage.Target

/-!
# Patterns that ask for a start

A text is written into a pattern with a backslash before every character that has a meaning of its
own there. Behind a caret such a pattern reads as the start of the text followed by its characters,
one after the other, and it matches some part of a specifier exactly if the specifier starts with the
text. So it decides as the text itself does when it is a target of the other mode. Nothing but its
size can keep it from being used.
-/

namespace PackageUsage

namespace Pattern

/-- The characters that have a meaning of their own somewhere in a pattern. -/
def metacharacters : List Char :=
  ['\\', '.', '+', '*', '?', '(', ')', '|', '[', ']', '{', '}', '^', '$', '#', '&', '-', '~']

/-- What stands for one character in a pattern that asks for it. -/
def escapedChar (c : Char) : List Char :=
  if c ∈ metacharacters then ['\\', c] else [c]

/-- What stands for a text in a pattern that asks for it. -/
def escaped (cs : List Char) : List Char :=
  cs.flatMap escapedChar

/-- The pattern that asks for a text at the start. -/
def startingWith (text : String) : String :=
  String.ofList ('^' :: escaped text.toList)

/-! ## Readers -/

section Runs
variable {α β : Type} (r : Reading)

theorem run_pure (a : α) : (pure a : Reader α) r = .ok (a, r) := rfl

theorem run_bind (x : Reader α) (f : α → Reader β) :
    (x >>= f) r = (x r).bind fun found => f found.1 found.2 := rfl

theorem bind_ok {ε : Type} (a : α) (f : α → Except ε β) : (Except.ok a).bind f = f a := rfl

theorem run_get : (get : Reader Reading) r = .ok (r, r) := rfl

theorem run_here : here r = .ok (r.place, r) := rfl

theorem run_ahead? : ahead? r = .ok (r.rest.head?, r) := rfl

theorem run_bump : bump r = .ok (!r.next.rest.isEmpty, r.next) := rfl

theorem run_skipBlanks (h : r.skipping = false) : skipBlanks r = .ok ((), r) := by
  rw [skipBlanks, run_bind, run_get, bind_ok]
  simp only [h, Bool.false_eq_true, if_false, run_pure]

end Runs

/-! ## Reading -/

section Reading
variable {c : Char} {rest : List Char} {place : Place} {skipping : Bool}
  {names : List (List Char × Span)}

theorem next_cons : Reading.next { rest := c :: rest, place, skipping, names } =
    { rest, place := place.after c, skipping, names } := rfl

theorem run_charSpan : charSpan { rest := c :: rest, place, skipping, names } =
    .ok (⟨place, place.after c⟩, { rest := c :: rest, place, skipping, names }) := rfl

theorem escapable_of_mem_metacharacters (hc : c ∈ metacharacters) : isEscapable c = true ∧
    c.isDigit = false ∧ (c == 'x' || c == 'u' || c == 'U') = false ∧
    (c == 'p' || c == 'P') = false := by
  have hall : (metacharacters.all fun c => isEscapable c && !c.isDigit &&
      !(c == 'x' || c == 'u' || c == 'U') && !(c == 'p' || c == 'P')) = true := by
    decide
  have hone := List.all_eq_true.mp hall c hc
  rwa [Bool.and_eq_true, Bool.and_eq_true, Bool.and_eq_true, Bool.not_eq_true', Bool.not_eq_true',
    Bool.not_eq_true', and_assoc, and_assoc] at hone

theorem escape_metacharacter (hc : c ∈ metacharacters) :
    escape { rest := '\\' :: c :: rest, place, skipping, names } =
      .ok (.literal { span := ⟨place, (place.after '\\').after c⟩, value := c },
        { rest, place := (place.after '\\').after c, skipping, names }) := by
  obtain ⟨hescapable, hdigit, hcode, hproperty⟩ := escapable_of_mem_metacharacters hc
  simp only [escape, run_bind, run_here, run_bump, run_ahead?, run_pure, bind_ok, next_cons,
    List.isEmpty_cons, List.head?_cons, Option.getD_some, Bool.not_false, Bool.not_true,
    Bool.false_eq_true, if_false, if_true, hdigit, hcode, hproperty, hescapable]

theorem primitive_plain (hc : c ∉ metacharacters) :
    primitive c { rest := c :: rest, place, skipping, names } =
      .ok (.literal { span := ⟨place, place.after c⟩, value := c },
        { rest, place := place.after c, skipping, names }) := by
  simp only [metacharacters, List.mem_cons, not_or] at hc
  obtain ⟨hbackslash, hdot, -, -, -, -, -, -, -, -, -, -, hcaret, hdollar, -⟩ := hc
  simp only [primitive, beq_eq_false_iff_ne.mpr hbackslash, run_bind, run_charSpan, run_bump,
    run_pure, bind_ok, next_cons, Bool.false_eq_true, if_false]

/-- The characters that start something else than a primitive outside brackets. -/
def openers : List Char :=
  ['(', ')', '|', '[', '?', '*', '+', '{']

theorem body_primitive {fuel : Nat} {opened : Option Span} {b : Body} {p : Primitive} {r : Reading}
    (hc : c ∉ openers)
    (hp : primitive c { rest := c :: rest, place, skipping := false, names } = .ok (p, r)) :
    body (fuel + 1) opened b { rest := c :: rest, place, skipping := false, names } =
      body fuel opened { b with items := p.toExpr :: b.items } r := by
  simp only [openers, List.mem_cons, not_or] at hc
  rw [body]
  simp [run_bind, run_skipBlanks, run_here, run_ahead?, bind_ok, hp, hc]

/-- What stands for a character is read as the literal that stands for it. -/
theorem body_escapedChar (c : Char) (fuel : Nat) (opened : Option Span) (b : Body)
    (rest : List Char) (place : Place) :
    ∃ (literal : Literal) (next : Place), literal.value = c ∧
      body (fuel + 1) opened b { rest := escapedChar c ++ rest, place, skipping := false, names } =
        body fuel opened { b with items := .literal literal :: b.items }
          { rest, place := next, skipping := false, names } := by
  by_cases hc : c ∈ metacharacters
  · have hp : primitive '\\' { rest := '\\' :: c :: rest, place, skipping := false, names } = _ :=
      escape_metacharacter hc
    rw [escapedChar, if_pos hc]
    exact ⟨⟨_, c, false⟩, _, rfl, body_primitive (by decide) hp⟩
  · have hopener : c ∉ openers := by
      have hsubset : openers ⊆ metacharacters := by decide
      exact fun h => hc (hsubset h)
    rw [escapedChar, if_neg hc]
    exact ⟨⟨_, c, false⟩, _, rfl, body_primitive hopener (primitive_plain hc)⟩

/-- A text that is written into a pattern is read as literals, one for each of its characters. -/
theorem body_escaped (cs : List Char) {fuel : Nat} (hfuel : cs.length < fuel) (b : Body)
    (place : Place) :
    ∃ literals : List Literal, literals.map Literal.value = cs ∧ ∃ last r,
      body fuel none b { rest := escaped cs, place, skipping := false, names } =
        .ok (({ b with items := (literals.map Expr.literal).reverse ++ b.items } : Body).finish last,
          r) := by
  induction cs generalizing fuel b place with
  | nil =>
    obtain ⟨fuel, rfl⟩ : ∃ n, fuel = n + 1 := ⟨fuel - 1, by omega⟩
    exact ⟨[], rfl, place, _, rfl⟩
  | cons c cs ih =>
    -- one round of the reader takes one character of the text, with its backslash if it has one
    obtain ⟨fuel, rfl⟩ : ∃ n, fuel = n + 1 := ⟨fuel - 1, by omega⟩
    have hless : cs.length < fuel := by
      rw [List.length_cons] at hfuel
      omega
    obtain ⟨literal, next, hvalue, hfirst⟩ :=
      @body_escapedChar names c fuel none b (escaped cs) place
    obtain ⟨literals, hvalues, last, r, hrest⟩ :=
      ih hless { b with items := .literal literal :: b.items } next
    refine ⟨literal :: literals, by rw [List.map_cons, hvalue, hvalues], last, r, ?_⟩
    rw [escaped, List.flatMap_cons]
    refine hfirst.trans (hrest.trans ?_)
    rw [List.map_cons, List.reverse_cons, List.append_assoc]
    rfl

end Reading

theorem tooDeep?_sequenceOf {span : Span} {items : List Expr}
    (h : ∀ e ∈ items, ∀ depth, e.tooDeep? depth = none) : (sequenceOf span items).tooDeep? 0 = none := by
  have hall (es : List Expr) (hes : es ⊆ items) : Expr.anyTooDeep? 1 es = none := by
    induction es with
    | nil => rfl
    | cons e es ih =>
      obtain ⟨he, hes⟩ := List.cons_subset.mp hes
      rw [Expr.anyTooDeep?, h e he, ih hes]
      rfl
  match items with
  | [] => rfl
  | [e] => exact h e List.mem_cons_self 0
  | e :: f :: items =>
    rw [sequenceOf, Expr.tooDeep?, if_neg (by decide)]
    · exact hall _ (List.reverse_subset.mpr (List.Subset.refl _))
    · simp
    · simp

theorem length_le_escaped (cs : List Char) : cs.length ≤ (escaped cs).length := by
  induction cs with
  | nil => exact Nat.le_refl 0
  | cons c cs ih =>
    have hchar : 1 ≤ (escapedChar c).length := by
      unfold escapedChar
      split
      · exact Nat.le_add_left 1 1
      · exact Nat.le_refl 1
    rw [escaped, List.flatMap_cons, List.length_append, List.length_cons, Nat.add_comm]
    exact Nat.add_le_add hchar ih

theorem read_startingWith (text : String) :
    ∃ (span caret : Span) (literals : List Literal),
      literals.map Literal.value = text.toList ∧
      read (startingWith text) = .ok (sequenceOf span
        ((literals.map Expr.literal).reverse ++ [.assertion caret .lineStart])) := by
  have hfuel := Nat.lt_succ_of_le (length_le_escaped text.toList)
  obtain ⟨literals, hvalues, last, r, hbody⟩ := @body_escaped [] text.toList _ hfuel
    { items := [.assertion ⟨{}, Place.after {} '^'⟩ .lineStart], first := {}, start := {} }
    (Place.after {} '^')
  have hcaret : primitive '^' { rest := '^' :: escaped text.toList } =
      .ok (.assertion ⟨{}, Place.after {} '^'⟩ .lineStart,
        { rest := escaped text.toList, place := Place.after {} '^' }) := rfl
  refine ⟨⟨{}, last⟩, ⟨{}, Place.after {} '^'⟩, literals, hvalues, ?_⟩
  have hdepth : ∀ e ∈ (literals.map Expr.literal).reverse ++
      [.assertion ⟨{}, Place.after {} '^'⟩ .lineStart], ∀ depth, e.tooDeep? depth = none := by
    intro e he depth
    rcases List.mem_append.mp he with he | he
    · obtain ⟨l, -, rfl⟩ := List.mem_map.mp (List.mem_reverse.mp he)
      rfl
    · obtain rfl := List.mem_singleton.mp he
      rfl
  have hrun : body ((escaped text.toList).length + 1 + 1) none { first := {}, start := {} }
      { rest := '^' :: escaped text.toList } = _ :=
    (body_primitive (by decide) hcaret).trans hbody
  rw [read, startingWith, String.toList_ofList]
  simp only [List.length_cons, StateT.run, hrun, bind, Except.bind]
  rw [Body.finish]
  simp only [List.isEmpty_nil, if_true, tooDeep?_sequenceOf hdepth]
  rfl

/-! ## Meaning -/

theorem meaning_sequenceOf {f f' : Flags} {items : List Expr} {es : List Regex}
    (h : Expr.meanings f items.reverse = .ok (es, f')) (span : Span) :
    (sequenceOf span items).meaning f = .ok (Regex.seqAll es, f') := by
  match items with
  | [] =>
    cases h
    rfl
  | [e] =>
    rw [List.reverse_singleton, Expr.meanings] at h
    rw [sequenceOf]
    cases he : e.meaning f with
    | error fault =>
      rw [he] at h
      cases h
    | ok found =>
      rw [he] at h
      cases h
      rfl
  | e :: g :: items =>
    rw [sequenceOf, Expr.meaning, h]
    · rfl
    · simp
    · simp

theorem meanings_literals (literals : List Literal) :
    Expr.meanings {} (literals.map Expr.literal) =
      .ok (literals.map fun l => .char l.value, {}) := by
  induction literals with
  | nil => rfl
  | cons l literals ih =>
    have hfirst : (Expr.literal l).meaning {} = .ok (.char l.value, {}) := rfl
    simp only [List.map_cons, Expr.meanings, hfirst, ih, bind, Except.bind, pure, Except.pure]

end Pattern

namespace Regex

/-- The expression that matches a text at the start. -/
def startingWith (cs : List Char) : Regex :=
  seqAll (.assertion .textStart :: cs.map .char)

theorem matches_chars_iff {cs w : List Char} : (seqAll (cs.map .char)).Matches w ↔ w = cs := by
  induction cs generalizing w with
  | nil => exact Iff.rfl
  | cons c cs ih =>
    rw [List.map_cons, matches_seqAll_cons_iff]
    simp only [ih]
    constructor
    · rintro ⟨_, _, rfl, rfl, rfl⟩
      rfl
    · rintro rfl
      exact ⟨[c], cs, rfl, rfl, rfl⟩

theorem matchesIn_startingWith_iff {cs : List Char} {text : String} :
    (startingWith cs).matchesIn text = true ↔ cs <+: text.toList := by
  have hplain : (seqAll (cs.map .char)).isPlain = true := by
    apply isPlain_seqAll
    intro e he
    obtain ⟨c, -, rfl⟩ := List.mem_map.mp he
    rfl
  have hspans (i k : Nat) : (startingWith cs).Spans text.toList.toArray i k ↔
      i = 0 ∧ Between text.toList.toArray 0 cs k := by
    rw [startingWith, spans_seqAll_cons_iff]
    simp only [spans_iff_matches hplain, matches_chars_iff, exists_eq_left, Spans, Assertion.holds,
      beq_iff_eq]
    constructor
    · rintro ⟨j, ⟨rfl, rfl⟩, h⟩
      exact ⟨rfl, h⟩
    · rintro ⟨rfl, h⟩
      exact ⟨0, ⟨rfl, rfl⟩, h⟩
  rw [matchesIn_iff]
  simp only [hspans]
  constructor
  · rintro ⟨i, -, k, rfl, hstart, -⟩
    exact hstart
  · intro h
    exact ⟨0, Nat.zero_le _, 0 + cs.length, rfl, h, rfl⟩

theorem size_seqAll_chars (e : Regex) (cs : List Char) :
    (seqAll (e :: cs.map .char)).size = e.size + stateSize * Text.byteLength cs := by
  induction cs generalizing e with
  | nil => rfl
  | cons c cs ih =>
    have hchar : (Regex.char c).size = stateSize * c.utf8Size := by
      rw [size, Nat.mul_comm]
    rw [List.map_cons, seqAll, size, ih, hchar, Text.byteLength, Nat.mul_add]
    exact List.cons_ne_nil _ _

theorem size_startingWith (cs : List Char) :
    (startingWith cs).size = stateSize * (Text.byteLength cs + 1) := by
  rw [startingWith, size_seqAll_chars, size, Nat.mul_add, Nat.mul_one, Nat.add_comm]

theorem fits_startingWith_iff {cs : List Char} :
    (startingWith cs).fits = true ↔ stateSize * (Text.byteLength cs + 7) ≤ sizeLimit := by
  rw [fits, decide_eq_true_iff, size_startingWith]
  unfold stateSize
  omega

/-- A pattern that asks for a start is well-formed. -/
theorem ofPattern_startingWith (text : String) :
    ofPattern (Pattern.startingWith text) =
      if (startingWith text.toList).fits then .ok (startingWith text.toList)
      else .error (.tooBig (Pattern.startingWith text)) := by
  obtain ⟨span, caret, literals, hvalues, hread⟩ := Pattern.read_startingWith text
  have hcaret : (Pattern.Expr.assertion caret .lineStart).meaning {} =
      .ok (.assertion .textStart, {}) := rfl
  have hchars : (literals.map fun l => Regex.char l.value) = text.toList.map .char := by
    rw [← hvalues, List.map_map]
    rfl
  have hmeanings : Pattern.Expr.meanings {}
      ((literals.map Pattern.Expr.literal).reverse ++
        [Pattern.Expr.assertion caret .lineStart]).reverse =
          .ok (.assertion .textStart :: text.toList.map .char, {}) := by
    rw [List.reverse_append, List.reverse_reverse, List.reverse_singleton, List.singleton_append]
    simp only [Pattern.Expr.meanings, hcaret, Pattern.meanings_literals, hchars, bind, Except.bind,
      pure, Except.pure]
  rw [ofPattern, hread]
  simp only [Pattern.meaning_sequenceOf hmeanings]
  rfl

end Regex

/-- A target that asks for a start and the pattern that asks for the same start make the same
decisions, whatever the text and the specifier hold. The pattern is always well-formed, and it can be
used unless it is too big. -/
theorem start_pattern_agrees (text : String) :
    let pattern : Target := { text := Pattern.startingWith text, mode := .pattern }
    ∃ start, Matcher.ofTarget { text, mode := .start } = .ok start ∧
      (∀ m, Matcher.ofTarget pattern = .ok m →
        ∀ specifier, start.accepts specifier = true ↔ m.accepts specifier = true) ∧
      (∀ e, Matcher.ofTarget pattern = .error e → e = .tooBig pattern.text) ∧
      ((∃ m, Matcher.ofTarget pattern = .ok m) ↔
        Regex.stateSize * (Text.byteLength text.toList + 7) ≤ Regex.sizeLimit) := by
  intro pattern
  have hpattern : Regex.ofPattern pattern.text = _ := Regex.ofPattern_startingWith text
  refine ⟨.start text.toList, rfl, ?_⟩
  rw [← Regex.fits_startingWith_iff, Matcher.ofTarget, hpattern]
  cases hfits : (Regex.startingWith text.toList).fits with
  | false =>
    refine ⟨nofun, ?_, nofun, nofun⟩
    rintro e ⟨⟩
    rfl
  | true =>
    refine ⟨?_, nofun, fun _ => rfl, fun _ => ⟨_, rfl⟩⟩
    rintro m ⟨⟩ specifier
    simp only [Matcher.accepts, Regex.matchesIn_startingWith_iff, List.isPrefixOf_iff_prefix,
      String.toList_ofList]

/-- A text with characters that would be taken for constructs. -/
theorem start_pattern_agrees_constructs :
    ∃ m, Matcher.ofTarget { text := "^@scope/a\\.b\\+\\(", mode := .pattern } = .ok m ∧
      m.accepts "'@scope/a.b+(c'" = true ∧ m.accepts "@scope/aab+(" = false := by
  obtain ⟨start, hstart, hagree, -, hsize⟩ := start_pattern_agrees "@scope/a.b+("
  obtain ⟨m, hm⟩ := hsize.mpr (by decide)
  cases hstart
  refine ⟨m, hm, (hagree m hm _).mp (by decide), ?_⟩
  rw [Bool.eq_false_iff]
  intro haccepts
  exact absurd ((hagree m hm _).mpr haccepts) (by decide)

end PackageUsage
