import PackageUsage.Proofs.Json.Layout
import PackageUsage.Proofs.Json.Token

/-!
# Reading what was printed

A value is read back from its spelling in every layout. The fuel of the reader is bounded by the
length of the text, since each call takes at least one character off it.
-/

namespace PackageUsage.Json

mutual

/-- All numbers of a value are whole and fit 64 bits. -/
def Plain : Json → Prop
  | .int n => WholeFits n
  | .decimal .. => False
  | .arr items => PlainItems items
  | .obj members => PlainMembers members
  | _ => True

/-- All numbers of some values are whole and fit 64 bits. -/
def PlainItems : List Json → Prop
  | [] => True
  | v :: rest => v.Plain ∧ PlainItems rest

/-- All numbers of some members are whole and fit 64 bits. -/
def PlainMembers : List (String × Json) → Prop
  | [] => True
  | (_, v) :: rest => v.Plain ∧ PlainMembers rest

end

/-! ## Blanks -/

theorem skipSpace_blanks {blanks : List Char} (h : ∀ b ∈ blanks, isSpace b = true)
    (cs : List Char) : skipSpace (blanks ++ cs) = skipSpace cs := by
  rw [skipSpace, skipSpace, List.dropWhile_append_of_pos h]

theorem skipSpace_cons {c : Char} (h : isSpace c = false) (cs : List Char) :
    skipSpace (c :: cs) = c :: cs := by
  rw [skipSpace, List.dropWhile_cons, h]
  rfl

/-- Blanks in front of a value do not count. -/
theorem readValue_blanks {blanks : List Char} (h : ∀ b ∈ blanks, isSpace b = true)
    (cs : List Char) (fuel : Nat) : readValue fuel (blanks ++ cs) = readValue fuel cs := by
  cases fuel with
  | zero => rfl
  | succ fuel => rw [readValue, readValue, skipSpace_blanks h]

/-- The digits are no blanks, and what stands between two tokens is no digit. -/
theorem not_isSpace_of_isDigit {c : Char} (h : c.isDigit = true) : isSpace c = false := by
  have hbounds := Char.isDigit_iff_toNat.mp h
  simp only [isSpace, Bool.or_eq_false_iff, beq_eq_false_iff_ne]
  refine ⟨⟨⟨?_, ?_⟩, ?_⟩, ?_⟩ <;> rintro rfl <;> exact absurd hbounds (by decide)

theorem endsNumber_of_isSpace {c : Char} (h : isSpace c = true) (rest : List Char) :
    EndsNumber (c :: rest) := by
  intro d hd
  obtain rfl : c = d := Option.some.inj hd
  refine ⟨?_, ?_, ?_, ?_⟩
  · cases hdigit : c.isDigit with
    | false => rfl
    | true =>
      rw [not_isSpace_of_isDigit hdigit] at h
      cases h
  all_goals
    rintro rfl
    exact absurd h (by decide)

/-- The characters that a value can start with. -/
def StartsValue (c : Char) : Prop :=
  c ∈ ['n', 't', 'f', '"', '[', '{', '-'] ∨ c.isDigit = true

theorem StartsValue.not_isSpace {c : Char} (h : StartsValue c) : isSpace c = false := by
  rcases h with hmem | hdigit
  · have hall : (['n', 't', 'f', '"', '[', '{', '-'].all fun c => !isSpace c) = true := by decide
    simpa using List.all_eq_true.mp hall c hmem
  · exact not_isSpace_of_isDigit hdigit

theorem StartsValue.ne_bracket {c : Char} (h : StartsValue c) : c ≠ ']' := by
  rintro rfl
  exact absurd h (by simp [StartsValue])

/-! ## Numbers -/

/-- A number stands where none of the other values starts. -/
theorem readValue_number {c : Char} (hc : c = '-' ∨ c.isDigit = true) (cs : List Char)
    (fuel : Nat) : readValue (fuel + 1) (c :: cs) = readNumber (c :: cs) := by
  have hstarts : StartsValue c := by
    rcases hc with rfl | hdigit
    · exact Or.inl (by decide)
    · exact Or.inr hdigit
  have hne (x : Char) (hx : x ≠ '-' ∧ x.isDigit = false) : c ≠ x := by
    rintro rfl
    rcases hc with hsign | hdigit
    · exact hx.1 hsign
    · rw [hx.2] at hdigit
      cases hdigit
  rw [readValue, skipSpace_cons hstarts.not_isSpace]
  split
  case h_1 heq => exact absurd (List.cons.inj heq).1 (hne 'n' (by decide))
  case h_2 heq => exact absurd (List.cons.inj heq).1 (hne 't' (by decide))
  case h_3 heq => exact absurd (List.cons.inj heq).1 (hne 'f' (by decide))
  case h_4 heq => exact absurd (List.cons.inj heq).1 (hne '"' (by decide))
  case h_5 heq => exact absurd (List.cons.inj heq).1 (hne '[' (by decide))
  case h_6 heq => exact absurd (List.cons.inj heq).1 (hne '{' (by decide))
  case h_7 => rfl

theorem exists_numberChars (n : Int) :
    ∃ c cs, numberChars (.int n) = c :: cs ∧ (c = '-' ∨ c.isDigit = true) := by
  cases n with
  | ofNat n =>
    rw [numberChars_ofNat]
    cases hn : Nat.toDigits 10 n with
    | nil => exact absurd hn Nat.toDigits_ne_nil
    | cons d ds => exact ⟨d, ds, rfl, Or.inr (isDigit_toDigits (n := n) (by simp [hn]))⟩
  | negSucc n =>
    rw [numberChars_negSucc]
    exact ⟨_, _, rfl, Or.inl rfl⟩

/-! ## Single calls of the reader -/

section Calls

variable {blanks cs rest : List Char} {fuel : Nat} {v : Json}
variable (hblanks : ∀ b ∈ blanks, isSpace b = true)
include hblanks

/-- An array that is not empty. -/
theorem readValue_array {c : Char} (hc : StartsValue c) :
    readValue (fuel + 1) ('[' :: (blanks ++ c :: cs)) =
      (readItems fuel (c :: cs)).map fun r => (.arr r.1, r.2) := by
  rw [readValue, skipSpace_cons rfl]
  simp only [skipSpace_blanks hblanks, skipSpace_cons hc.not_isSpace]
  split
  case h_1 heq => exact absurd (List.cons.inj heq).1 hc.ne_bracket
  case h_2 => rfl

/-- An object that is not empty. -/
theorem readValue_object :
    readValue (fuel + 1) ('{' :: (blanks ++ '"' :: cs)) =
      (readMembers fuel ('"' :: cs)).map fun r => (.obj r.1, r.2) := by
  rw [readValue, skipSpace_cons rfl]
  simp only [skipSpace_blanks hblanks, skipSpace_cons (c := '"') rfl]
  rfl

/-- The last item of an array. -/
theorem readItems_last (h : readValue fuel cs = some (v, blanks ++ ']' :: rest)) :
    readItems (fuel + 1) cs = some ([v], rest) := by
  simp only [readItems, h, skipSpace_blanks hblanks, skipSpace_cons (c := ']') rfl]

omit hblanks in
/-- An item of an array that others follow. -/
theorem readItems_more (h : readValue fuel cs = some (v, ',' :: rest)) :
    readItems (fuel + 1) cs = (readItems fuel rest).map fun r => (v :: r.1, r.2) := by
  simp only [readItems, h, skipSpace_cons (c := ',') rfl]

/-- The last member of an object. -/
theorem readMembers_last {key : String} (h : readValue fuel cs = some (v, blanks ++ '}' :: rest)) :
    readMembers (fuel + 1) (quote key.toList ++ ':' :: cs) = some ([(key, v)], rest) := by
  obtain ⟨inside, hquote, hread⟩ := readString_quote key.toList (':' :: cs)
  rw [hquote]
  simp only [readMembers, skipSpace_cons (c := '"') rfl, hread, skipSpace_cons (c := ':') rfl, h,
    skipSpace_blanks hblanks, skipSpace_cons (c := '}') rfl, String.ofList_toList]

omit hblanks in
/-- A member of an object that others follow. -/
theorem readMembers_more {key : String} (h : readValue fuel cs = some (v, ',' :: rest)) :
    readMembers (fuel + 1) (quote key.toList ++ ':' :: cs) =
      (readMembers fuel rest).map fun r => ((key, v) :: r.1, r.2) := by
  obtain ⟨inside, hquote, hread⟩ := readString_quote key.toList (':' :: cs)
  rw [hquote]
  simp only [readMembers, skipSpace_cons (c := '"') rfl, hread, skipSpace_cons (c := ':') rfl, h,
    skipSpace_cons (c := ',') rfl, String.ofList_toList]

/-- Blanks in front of a member do not count. -/
theorem readMembers_blanks : readMembers fuel (blanks ++ cs) = readMembers fuel cs := by
  cases fuel with
  | zero => rfl
  | succ fuel => rw [readMembers, readMembers, skipSpace_blanks hblanks]

/-- Blanks in front of an item do not count. -/
theorem readItems_blanks : readItems fuel (blanks ++ cs) = readItems fuel cs := by
  cases fuel with
  | zero => rfl
  | succ fuel => rw [readItems, readItems, readValue_blanks hblanks]

end Calls

namespace Layout

variable (l : Layout)

/-! ## Starts and ends -/

theorem exists_chars (level : Nat) {v : Json} (hv : v.Plain) :
    ∃ c cs, l.chars level v = c :: cs ∧ StartsValue c := by
  have hmem {c : Char} (hc : c ∈ ['n', 't', 'f', '"', '[', '{', '-']) : StartsValue c := Or.inl hc
  cases v with
  | null => exact ⟨_, _, rfl, hmem (by decide)⟩
  | bool b => cases b <;> exact ⟨_, _, rfl, hmem (by decide)⟩
  | int n =>
    obtain ⟨c, cs, hchars, hc⟩ := exists_numberChars n
    refine ⟨c, cs, hchars, ?_⟩
    rcases hc with rfl | hdigit
    · exact hmem (by decide)
    · exact Or.inr hdigit
  | decimal negative mantissa exponent => exact hv.elim
  | str s => exact ⟨_, _, rfl, hmem (by decide)⟩
  | arr items => cases items <;> exact ⟨_, _, rfl, hmem (by decide)⟩
  | obj members => cases members <;> exact ⟨_, _, rfl, hmem (by decide)⟩

theorem endsNumber_gap (level : Nat) {c : Char} (hc : EndsNumber [c]) (rest : List Char) :
    EndsNumber (l.gap level ++ c :: rest) := by
  cases hgap : l.gap level with
  | nil => exact hc
  | cons b blanks =>
    exact endsNumber_of_isSpace (l.gap_blank level b (by rw [hgap]; exact List.mem_cons_self)) _

/-- The items of an array start with its first value. -/
theorem exists_items (level : Nat) {v : Json} (hv : v.Plain) (items : List Json) :
    ∃ c cs, l.items level (v :: items) = c :: cs ∧ StartsValue c := by
  obtain ⟨c, cs, hchars, hc⟩ := l.exists_chars (level + 1) hv
  cases items with
  | nil => exact ⟨c, _, by rw [Layout.items, hchars, List.cons_append], hc⟩
  | cons w items => exact ⟨c, _, by rw [Layout.items, hchars, List.cons_append], hc⟩

/-- The members of an object start with a quote. -/
theorem exists_members (level : Nat) (m : String × Json) (members : List (String × Json)) :
    ∃ cs, l.members level (m :: members) = '"' :: cs := by
  obtain ⟨key, v⟩ := m
  cases members with
  | nil => exact ⟨_, by rw [Layout.members, quote, List.cons_append, List.cons_append]⟩
  | cons m members => exact ⟨_, by rw [Layout.members, quote, List.cons_append, List.cons_append]⟩

/-! ## Values -/

mutual

/-- A value is read back from its spelling. -/
theorem readValue_chars (level fuel : Nat) (v : Json) (hv : v.Plain) (rest : List Char)
    (hrest : EndsNumber rest) (hfuel : (l.chars level v).length ≤ fuel) :
    readValue fuel (l.chars level v ++ rest) = some (v, rest) := by
  obtain ⟨c, cs, hchars, -⟩ := l.exists_chars level hv
  obtain ⟨fuel, rfl⟩ : ∃ n, fuel = n + 1 := by
    rw [hchars, List.length_cons] at hfuel
    exact ⟨fuel - 1, by omega⟩
  cases v with
  | null => rfl
  | bool b => cases b <;> rfl
  | int n =>
    obtain ⟨c, cs, hnumber, hc⟩ := exists_numberChars n
    rw [chars, hnumber, List.cons_append, readValue_number hc, ← List.cons_append, ← hnumber]
    exact readNumber_numberChars hv hrest
  | decimal negative mantissa exponent => exact hv.elim
  | str s =>
    obtain ⟨inside, hquote, hread⟩ := readString_quote s.toList rest
    rw [chars, hquote, readValue, skipSpace_cons rfl]
    simp only [hread, Option.map_some, String.ofList_toList]
  | arr items =>
    cases items with
    | nil => rfl
    | cons v items =>
      obtain ⟨d, ds, hstart, hd⟩ := l.exists_items level hv.1 items
      have hread := readItems_chars level fuel (v :: items) (List.cons_ne_nil v items) hv rest (by
        simp only [chars, List.length_cons, List.length_append] at hfuel
        omega)
      rw [chars, List.cons_append, List.append_assoc]
      rw [hstart, List.cons_append] at hread ⊢
      rw [readValue_array (l.gap_blank _) hd, hread]
      rfl
  | obj members =>
    cases members with
    | nil => rfl
    | cons m members =>
      obtain ⟨ds, hstart⟩ := l.exists_members level m members
      have hread := readMembers_chars level fuel (m :: members) (List.cons_ne_nil m members) hv rest
        (by
          simp only [chars, List.length_cons, List.length_append] at hfuel
          omega)
      rw [chars, List.cons_append, List.append_assoc]
      rw [hstart, List.cons_append] at hread ⊢
      rw [readValue_object (l.gap_blank _), hread]
      rfl

/-- The items of an array are read back, up to its closing bracket. -/
theorem readItems_chars (level fuel : Nat) (items : List Json) (hne : items ≠ [])
    (hitems : PlainItems items) (rest : List Char) (hfuel : (l.items level items).length ≤ fuel) :
    readItems fuel (l.items level items ++ rest) = some (items, rest) := by
  match items, hne, hitems with
  | [v], _, hitems =>
    simp only [Layout.items, List.length_append, List.length_singleton] at hfuel
    obtain ⟨fuel, rfl⟩ : ∃ n, fuel = n + 1 := ⟨fuel - 1, by omega⟩
    simp only [Layout.items, List.append_assoc, List.singleton_append]
    refine readItems_last (l.gap_blank level) ?_
    exact readValue_chars (level + 1) fuel v hitems.1 _
      (l.endsNumber_gap level (by simp [EndsNumber]) rest) (by omega)
  | v :: w :: items, _, hitems =>
    simp only [Layout.items, List.length_append, List.length_cons] at hfuel
    obtain ⟨fuel, rfl⟩ : ∃ n, fuel = n + 1 := ⟨fuel - 1, by omega⟩
    simp only [Layout.items, List.append_assoc, List.cons_append]
    have hfirst := readValue_chars (level + 1) fuel v hitems.1
      (',' :: (l.gap (level + 1) ++ (l.items level (w :: items) ++ rest))) (by simp [EndsNumber])
      (by omega)
    rw [readItems_more hfirst, readItems_blanks (l.gap_blank _),
      readItems_chars level fuel (w :: items) (List.cons_ne_nil w items) hitems.2 rest (by omega)]
    rfl

/-- The members of an object are read back, up to its closing brace. -/
theorem readMembers_chars (level fuel : Nat) (members : List (String × Json)) (hne : members ≠ [])
    (hmembers : PlainMembers members) (rest : List Char)
    (hfuel : (l.members level members).length ≤ fuel) :
    readMembers fuel (l.members level members ++ rest) = some (members, rest) := by
  match members, hne, hmembers with
  | [(key, v)], _, hmembers =>
    simp only [Layout.members, List.length_append, List.length_cons] at hfuel
    obtain ⟨fuel, rfl⟩ : ∃ n, fuel = n + 1 := ⟨fuel - 1, by omega⟩
    simp only [Layout.members, List.append_assoc, List.cons_append, List.nil_append]
    refine readMembers_last (l.gap_blank level) ?_
    rw [readValue_blanks l.afterColon_blank]
    exact readValue_chars (level + 1) fuel v hmembers.1 _
      (l.endsNumber_gap level (by simp [EndsNumber]) rest) (by omega)
  | (key, v) :: m :: members, _, hmembers =>
    simp only [Layout.members, List.length_append, List.length_cons] at hfuel
    obtain ⟨fuel, rfl⟩ : ∃ n, fuel = n + 1 := ⟨fuel - 1, by omega⟩
    simp only [Layout.members, List.append_assoc, List.cons_append]
    have hfirst := readValue_chars (level + 1) fuel v hmembers.1
      (',' :: (l.gap (level + 1) ++ (l.members level (m :: members) ++ rest)))
      (by simp [EndsNumber]) (by omega)
    rw [readMembers_more (by rw [readValue_blanks l.afterColon_blank]; exact hfirst),
      readMembers_blanks (l.gap_blank _),
      readMembers_chars level fuel (m :: members) (List.cons_ne_nil m members) hmembers.2 rest
        (by omega)]
    rfl

end

/-- A text that follows a layout is read back whole. -/
theorem read?_chars (level : Nat) {v : Json} (hv : v.Plain) :
    read? (String.ofList (l.chars level v)) = some v := by
  have hread := l.readValue_chars level (2 * (l.chars level v).length + 2) v hv []
    (by simp [EndsNumber]) (by omega)
  rw [List.append_nil] at hread
  simp only [read?, String.toList_ofList, hread]
  rfl

/-! ## Shown characters -/

mutual

/-- A layout without control characters prints none. -/
theorem shown_chars (hgap : ∀ level, ∀ c ∈ l.gap level, Shown c)
    (hcolon : ∀ c ∈ l.afterColon, Shown c) (level : Nat) (v : Json) (hv : v.Plain) {c : Char}
    (hc : c ∈ l.chars level v) : Shown c := by
  have hword (cs : List Char) (hall : (cs.all fun c => decide (Shown c)) = true) (hc : c ∈ cs) :
      Shown c :=
    of_decide_eq_true (List.all_eq_true.mp hall c hc)
  cases v with
  | null => exact hword ['n', 'u', 'l', 'l'] (by decide) hc
  | bool b =>
    cases b with
    | true => exact hword ['t', 'r', 'u', 'e'] (by decide) hc
    | false => exact hword ['f', 'a', 'l', 's', 'e'] (by decide) hc
  | int n => exact shown_numberChars hc
  | decimal negative mantissa exponent => exact hv.elim
  | str s => exact shown_quote hc
  | arr items =>
    cases items with
    | nil => exact hword ['[', ']'] (by decide) hc
    | cons v items =>
      simp only [chars, List.mem_cons, List.mem_append] at hc
      rcases hc with rfl | hc | hc
      · decide
      · exact hgap _ c hc
      · exact shown_items hgap hcolon level (v :: items) hv hc
  | obj members =>
    cases members with
    | nil => exact hword ['{', '}'] (by decide) hc
    | cons m members =>
      simp only [chars, List.mem_cons, List.mem_append] at hc
      rcases hc with rfl | hc | hc
      · decide
      · exact hgap _ c hc
      · exact shown_members hgap hcolon level (m :: members) hv hc

theorem shown_items (hgap : ∀ level, ∀ c ∈ l.gap level, Shown c)
    (hcolon : ∀ c ∈ l.afterColon, Shown c) (level : Nat) (items : List Json)
    (hitems : PlainItems items) {c : Char} (hc : c ∈ l.items level items) : Shown c := by
  match items, hitems with
  | [], _ => cases hc
  | [v], hitems =>
    simp only [Layout.items, List.mem_append, List.mem_singleton] at hc
    rcases hc with hc | hc | rfl
    · exact shown_chars hgap hcolon (level + 1) v hitems.1 hc
    · exact hgap _ c hc
    · decide
  | v :: w :: items, hitems =>
    simp only [Layout.items, List.mem_append, List.mem_cons] at hc
    rcases hc with hc | rfl | hc | hc
    · exact shown_chars hgap hcolon (level + 1) v hitems.1 hc
    · decide
    · exact hgap _ c hc
    · exact shown_items hgap hcolon level (w :: items) hitems.2 hc

theorem shown_members (hgap : ∀ level, ∀ c ∈ l.gap level, Shown c)
    (hcolon : ∀ c ∈ l.afterColon, Shown c) (level : Nat) (members : List (String × Json))
    (hmembers : PlainMembers members) {c : Char} (hc : c ∈ l.members level members) : Shown c := by
  match members, hmembers with
  | [], _ => cases hc
  | [(key, v)], hmembers =>
    simp only [Layout.members, List.mem_append, List.mem_cons, List.not_mem_nil, or_false] at hc
    rcases hc with hc | rfl | hc | hc | hc | rfl
    · exact shown_quote hc
    · decide
    · exact hcolon c hc
    · exact shown_chars hgap hcolon (level + 1) v hmembers.1 hc
    · exact hgap _ c hc
    · decide
  | (key, v) :: m :: members, hmembers =>
    simp only [Layout.members, List.mem_append, List.mem_cons] at hc
    rcases hc with hc | rfl | hc | hc | rfl | hc | hc
    · exact shown_quote hc
    · decide
    · exact hcolon c hc
    · exact shown_chars hgap hcolon (level + 1) v hmembers.1 hc
    · decide
    · exact hgap _ c hc
    · exact shown_members hgap hcolon level (m :: members) hmembers.2 hc

end

end Layout

/-! ## The two printers -/

theorem read?_compact {v : Json} (hv : v.Plain) : read? v.compact = some v := by
  rw [compact, ← Layout.chars_oneLine 0 v]
  exact Layout.oneLine.read?_chars 0 hv

theorem read?_pretty {v : Json} (hv : v.Plain) : read? v.pretty = some v := by
  rw [pretty, ← Layout.chars_indented 0 v]
  exact Layout.indented.read?_chars 0 hv

/-- On one line stands no control character. -/
theorem shown_compact {v : Json} (hv : v.Plain) {c : Char} (hc : c ∈ v.compact.toList) :
    Shown c := by
  rw [compact, String.toList_ofList, ← Layout.chars_oneLine 0 v] at hc
  exact Layout.oneLine.shown_chars (by simp [Layout.oneLine]) (by simp [Layout.oneLine]) 0 v hv hc

end PackageUsage.Json
