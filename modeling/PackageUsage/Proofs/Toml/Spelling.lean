import Mathlib.Data.List.TakeWhile
import PackageUsage.Toml.Document
import PackageUsage.Proofs.Toml.Reading

/-!
# How entries are spelled

Basic strings, arrays of them, truth values and the lines of a document, in every spelling that the
format leaves open: escapes, blanks, line ends within arrays. Each is taken by its reader and gives
back what it spells.
-/

namespace PackageUsage.Toml

/-! ## Strings -/

/-- The letters behind a backslash, and the characters they stand for. -/
def shortEscapes : List (Char × Char) :=
  [('b', '\x08'), ('f', '\x0C'), ('n', '\n'), ('r', '\r'), ('t', '\t'), ('\\', '\\'), ('"', '"')]

/-- The ways to escape a character: by a letter, or by its code in four or eight digits. -/
inductive SpellsEscape (c : Char) : List Char → Prop
  | short {letter : Char} (h : (letter, c) ∈ shortEscapes) : SpellsEscape c ['\\', letter]
  | code {mark : Char} {digits : List Char}
      (hmark : mark = 'u' ∧ digits.length = 4 ∨ mark = 'U' ∧ digits.length = 8)
      (hdigits : ∀ d ∈ digits, (hexDigit? d).isSome) (hcode : valueOf 16 digits = c.toNat) :
      SpellsEscape c ('\\' :: mark :: digits)

/-- A text between the quotes of a basic string. -/
inductive SpellsText : List Char → List Char → Prop
  | nil : SpellsText [] []
  | plain {c : Char} {text body : List Char} (hc : isBasic c) (htext : SpellsText text body) :
      SpellsText (c :: text) (c :: body)
  | escape {c : Char} {cs text body : List Char} (hc : SpellsEscape c cs)
      (htext : SpellsText text body) : SpellsText (c :: text) (cs ++ body)

/-- A basic string with its quotes. -/
def SpellsString (s : String) (cs : List Char) : Prop :=
  ∃ body, SpellsText s.toList body ∧ cs = '"' :: (body ++ ['"'])

section Strings
variable {c : Char} {cs text body run mid rest : List Char} {s : String}

theorem scalar?_toNat (c : Char) : scalar? c.toNat = some c := by
  rw [scalar?, if_pos (show c.toNat.isValidChar from c.valid), Char.ofNat_toNat]

theorem takes_hexEscape {digits : List Char} (hdigits : ∀ d ∈ digits, (hexDigit? d).isSome)
    (hcode : valueOf 16 digits = c.toNat) (rest : List Char) :
    Takes (hexEscape digits.length) (digits ++ rest) c rest := by
  have htaken : digits.takeWhile (fun d => (hexDigit? d).isSome) = digits :=
    List.takeWhile_eq_self_iff.mpr hdigits
  simp only [Takes, hexEscape, List.take_left, List.drop_left, htaken, beq_self_eq_true, if_true,
    hcode, scalar?_toNat]

theorem takes_escaped (h : SpellsEscape c cs) (rest : List Char) :
    Takes escaped (cs ++ rest) c rest := by
  cases h with
  | short h =>
    refine (Takes.char '\\' _).bind ?_
    simp only [shortEscapes, List.mem_cons, Prod.mk.injEq, List.not_mem_nil, or_false] at h
    rcases h with ⟨rfl, rfl⟩ | ⟨rfl, rfl⟩ | ⟨rfl, rfl⟩ | ⟨rfl, rfl⟩ | ⟨rfl, rfl⟩ | ⟨rfl, rfl⟩ |
      ⟨rfl, rfl⟩ <;> rfl
  | code hmark hdigits hcode =>
    refine (Takes.char '\\' _).bind ((Takes.charWhere rfl _).bind ?_)
    have htaken := takes_hexEscape hdigits hcode rest
    rcases hmark with ⟨rfl, hlength⟩ | ⟨rfl, hlength⟩ <;> rw [hlength] at htaken <;>
      exact htaken.committed.labelled _

/-- No escape starts with a character that stands for itself. -/
theorem SpellsEscape.head (h : SpellsEscape c cs) : cs.head? = some '\\' := by
  cases h <;> rfl

theorem takes_basicRun (hne : run ≠ []) (hrun : ∀ c ∈ run, isBasic c)
    (hmid : NotNext isBasic mid) : Takes basicPart (run ++ mid) run mid :=
  (Takes.takeWhile1 hne hrun hmid).orTry

theorem takes_basicEscape (h : SpellsEscape c cs) (rest : List Char) :
    Takes basicPart (cs ++ rest) [c] rest :=
  (Refuses.takeWhile1 (.append h.head rfl rest)).orTry_takes
    ((takes_escaped h rest).bind (.pure _ _))

/-- The parts of a basic string up to its quote, with a run of plain characters in front. -/
theorem repeats_basicPart (h : SpellsText text body) (hrun : ∀ c ∈ run, isBasic c)
    (rest : List Char) :
    ∃ parts, parts.flatten = run ++ text ∧
      Repeats basicPart (run ++ (body ++ '"' :: rest)) parts ('"' :: rest) := by
  -- the reader takes plain characters in whole runs, so those passed by are carried along in front
  induction h generalizing run with
  | nil =>
    refine ⟨_, ?_, .after_run id (fun _ _ => takes_basicRun) hrun (.cons rfl rest)
      (.stop ⟨_, rfl⟩)⟩
    split <;> simp [*]
  | @plain c text body hc _ ih =>
    have hrun' : ∀ d ∈ run ++ [c], isBasic d := by simpa [or_imp, forall_and, hc] using hrun
    obtain ⟨parts, hparts, hrepeats⟩ := ih hrun'
    exact ⟨parts, by simpa using hparts, by simpa using hrepeats⟩
  | @escape c cs text body hc _ ih =>
    obtain ⟨parts, hparts, hrepeats⟩ := ih (List.forall_mem_nil _)
    rw [List.nil_append] at hparts hrepeats
    have hshorter : (body ++ '"' :: rest).length < (cs ++ (body ++ '"' :: rest)).length := by
      have hcs : 0 < cs.length := by cases hc <;> simp
      simp only [List.length_append]
      omega
    have hturn := Repeats.turn (takes_basicEscape hc _) hshorter hrepeats
    rw [List.append_assoc]
    refine ⟨_, ?_, .after_run id (fun _ _ => takes_basicRun) hrun (.append hc.head rfl _) hturn⟩
    split <;> simp_all

/-- A basic string is taken up to its closing quote. -/
theorem takes_basicString (h : SpellsText text body) (rest : List Char) :
    Takes basicString ('"' :: (body ++ '"' :: rest)) (String.ofList text) rest := by
  obtain ⟨parts, hparts, hrepeats⟩ := repeats_basicPart h (List.forall_mem_nil _) rest
  rw [List.nil_append] at hparts hrepeats
  refine (Takes.char '"' _).bind (hrepeats.many.bind ?_)
  refine ((Takes.char '"' rest).committed.labelled _).bind ?_
  rw [← hparts]
  exact .pure _ _

theorem SpellsText.notNext_quote (h : SpellsText text body) (hne : body ≠ []) (rest : List Char) :
    NotNext (· == '"') (body ++ rest) := by
  cases h with
  | nil => exact absurd rfl hne
  | plain hc =>
    refine .cons ?_ _
    rw [beq_eq_false_iff_ne]
    rintro rfl
    cases hc
  | escape hc =>
    rw [List.append_assoc]
    exact .append hc.head rfl _

/-- A basic string on one line does not start one over several lines. -/
theorem refuses_longBasicString (h : SpellsText text body) (hrest : NotNext (· == '"') rest) :
    Refuses longBasicString ('"' :: (body ++ '"' :: rest)) := by
  have hquotes : Refuses (Reader.word ['"', '"']) (body ++ '"' :: rest) := by
    by_cases hempty : body = []
    · rw [hempty]
      exact (Refuses.word hrest []).word_cons '"'
    · exact .word (h.notNext_quote hempty _) _
  exact ((hquotes.word_cons '"').bind _).explain _

theorem takes_string (h : SpellsString s cs) (hrest : NotNext (· == '"') rest) :
    Takes string (cs ++ rest) s rest := by
  obtain ⟨body, hbody, rfl⟩ := h
  have htaken := takes_basicString hbody rest
  rw [String.ofList_toList] at htaken
  have hlong := refuses_longBasicString hbody hrest
  rw [List.cons_append, List.append_assoc]
  exact hlong.orTry_takes htaken.orTry

end Strings

/-! ## Blanks -/

/-- Blanks within a line. -/
def IsBlanks (cs : List Char) : Prop :=
  ∀ c ∈ cs, isBlank c

/-- Blanks and line ends, as they may stand in an array. -/
def IsGap (cs : List Char) : Prop :=
  ∀ c ∈ cs, isBlank c ∨ c = '\n'

/-- The characters that a gap goes on with. -/
def startsGap (c : Char) : Bool :=
  isBlank c || c == '\n' || c == '\r' || c == '#'

section Blanks
variable {cs run mid rest : List Char}

theorem takes_blanks (hcs : IsBlanks cs) (hrest : NotNext isBlank rest) :
    Takes blanks (cs ++ rest) () rest :=
  (Takes.takeWhile hcs hrest).bind (.pure _ _)

theorem isBlanks_nil : IsBlanks [] := by
  simp [IsBlanks]

theorem takes_noBlanks (hrest : NotNext isBlank rest) : Takes blanks rest () rest :=
  takes_blanks isBlanks_nil hrest

theorem IsBlanks.forall_false (hcs : IsBlanks cs) {q : Char → Bool} (hspace : q ' ' = false)
    (htab : q '\t' = false) : ∀ c ∈ cs, q c = false := by
  intro c hc
  have hblank := hcs c hc
  rw [isBlank, Bool.or_eq_true, beq_iff_eq, beq_iff_eq] at hblank
  rcases hblank with rfl | rfl <;> assumption

/-- A part of a gap. -/
def gapPart : Reader Unit :=
  Reader.orTry (do let _ ← Reader.takeWhile1 isBlank)
    (Reader.orTry newline (do comment; newline))

theorem takes_blankRun (hne : run ≠ []) (hrun : ∀ c ∈ run, isBlank c)
    (hmid : NotNext isBlank mid) : Takes gapPart (run ++ mid) () mid :=
  .orTry ((Takes.takeWhile1 hne hrun hmid).bind (.pure _ _))

theorem refuses_gapPart (hrest : NotNext startsGap rest) : Refuses gapPart rest := by
  have hother (q : Char → Bool) (hq : ∀ c, q c → startsGap c) : NotNext q rest := hrest.mono hq
  have hblank : Refuses (Reader.takeWhile1 isBlank) rest :=
    .takeWhile1 (hother _ fun c hc => by simp [startsGap, hc])
  have hline : Refuses newline rest :=
    .orTry (.word (hother _ fun c hc => by simp_all [startsGap]) _)
      (.word (hother _ fun c hc => by simp_all [startsGap]) _)
  have hcomment : Refuses comment rest :=
    .bind (.charWhere (hother _ fun c hc => by simp_all [startsGap])) _
  exact .orTry (hblank.bind _) (.orTry hline (hcomment.bind _))

theorem repeats_gapPart (hcs : IsGap cs) (hrun : IsBlanks run) (hrest : NotNext startsGap rest) :
    ∃ units, Repeats gapPart (run ++ (cs ++ rest)) units rest := by
  induction cs generalizing run with
  | nil =>
    exact ⟨_, .after_run (fun _ => ()) (fun _ _ => takes_blankRun) hrun
      (hrest.mono fun c hc => by simp [startsGap, hc]) (.stop (refuses_gapPart hrest))⟩
  | cons c cs ih =>
    have hrest' : IsGap cs := fun d hd => hcs d (List.mem_cons_of_mem _ hd)
    rcases hcs c List.mem_cons_self with hblank | rfl
    · have hrun' : IsBlanks (run ++ [c]) := by
        simpa [IsBlanks, or_imp, forall_and, hblank] using hrun
      obtain ⟨units, hunits⟩ := ih hrest' hrun'
      exact ⟨units, by simpa using hunits⟩
    · obtain ⟨units, hunits⟩ := ih hrest' isBlanks_nil
      have hline : Takes gapPart ('\n' :: (cs ++ rest)) () (cs ++ rest) :=
        Refuses.orTry_takes (.bind (.takeWhile1 (.cons rfl _)) _)
          (.orTry (.orTry (.word ['\n'] _)))
      exact ⟨_, .after_run (fun _ => ()) (fun _ _ => takes_blankRun) hrun (.cons rfl _)
        (.turn hline (by simp) hunits)⟩

theorem takes_gap (hcs : IsGap cs) (hrest : NotNext startsGap rest) :
    Takes gap (cs ++ rest) () rest := by
  obtain ⟨units, hunits⟩ := repeats_gapPart hcs isBlanks_nil hrest
  exact hunits.many.bind (.pure _ _)

end Blanks

/-! ## Values -/

/-- A string in an array with what stands around it. -/
def SpellsItem (s : String) (cs : List Char) : Prop :=
  ∃ before body after, IsGap before ∧ SpellsString s body ∧ IsGap after ∧
    cs = before ++ (body ++ after)

/-- The strings of an array with commas between them. -/
inductive SpellsItems : List String → List Char → Prop
  | last {s : String} {cs : List Char} (h : SpellsItem s cs) : SpellsItems [s] cs
  | more {s : String} {ss : List String} {cs cs' : List Char} (h : SpellsItem s cs)
      (hmore : SpellsItems ss cs') : SpellsItems (s :: ss) (cs ++ ',' :: cs')

/-- A truth value, a basic string or an array of basic strings, with or without a comma after the
last of them. -/
inductive SpellsValue : Value → List Char → Prop
  | true : SpellsValue (.boolean true) ['t', 'r', 'u', 'e']
  | false : SpellsValue (.boolean false) ['f', 'a', 'l', 's', 'e']
  | string {s : String} {cs : List Char} (h : SpellsString s cs) : SpellsValue (.string s) cs
  | noTexts {space : List Char} (hspace : IsGap space) :
      SpellsValue (.array []) ('[' :: (space ++ [']']))
  | texts {ss : List String} {cs : List Char} (h : SpellsItems ss cs) :
      SpellsValue (.array (ss.map .string)) ('[' :: (cs ++ [']']))
  | textsComma {ss : List String} {cs space : List Char} (h : SpellsItems ss cs)
      (hspace : IsGap space) :
      SpellsValue (.array (ss.map .string)) ('[' :: (cs ++ ',' :: (space ++ [']'])))

section Values
variable {s : String} {ss : List String} {cs rest : List Char} {n : Nat} {v : Value}

theorem takes_value_string (h : SpellsString s cs) (hrest : NotNext (· == '"') rest) (n : Nat) :
    Takes (value n) (cs ++ rest) (.string s) rest := by
  have hstring := takes_string h hrest
  obtain ⟨body, -, rfl⟩ := h
  cases n <;> exact (Takes.next? '"' _).bind (hstring.bind (.pure _ _))

theorem refuses_value_bracket (n : Nat) (rest : List Char) : Refuses (value n) (']' :: rest) := by
  cases n <;> exact ⟨_, rfl⟩

/-- What ends an item of an array. -/
def EndsItem (rest : List Char) : Prop :=
  rest.head? = some ',' ∨ rest.head? = some ']'

theorem EndsItem.notNext (h : EndsItem rest) {q : Char → Bool} (hcomma : q ',' = false)
    (hbracket : q ']' = false) : NotNext q rest := by
  intro c hc
  rcases h with h | h <;> cases h.symm.trans hc <;> assumption

theorem takes_arrayItem (h : SpellsItem s cs) (hrest : EndsItem rest) (n : Nat) :
    Takes (arrayItem (value n)) (cs ++ rest) (.string s) rest := by
  obtain ⟨before, body, after, hbefore, hbody, hafter, rfl⟩ := h
  have hquote : NotNext (· == '"') (after ++ rest) := by
    refine .append_of_forall (fun c hc => ?_) (hrest.notNext rfl rfl)
    rw [beq_eq_false_iff_ne]
    rintro rfl
    simpa [isBlank] using hafter _ hc
  have hstart : NotNext startsGap (body ++ (after ++ rest)) := by
    obtain ⟨inner, -, rfl⟩ := hbody
    exact .cons rfl _
  have hgap := takes_gap hafter (hrest.notNext rfl rfl)
  have hvalue := takes_value_string hbody hquote n
  rw [List.append_assoc, List.append_assoc]
  exact (takes_gap hbefore hstart).bind (hvalue.bind (hgap.bind (.pure _ _)))

/-- One more item behind a comma. -/
theorem takes_commaItem (h : SpellsItem s cs) (hrest : EndsItem rest) (n : Nat) :
    Takes (Reader.andThen (Reader.char ',') fun _ => arrayItem (value n)) (',' :: (cs ++ rest))
      (.string s) rest :=
  Takes.bind (.char ',' _) (takes_arrayItem h hrest n)

theorem repeats_items (h : SpellsItems ss cs) (hrest : EndsItem rest)
    (hstop : Refuses (Reader.andThen (Reader.char ',') fun _ => arrayItem (value n)) rest) :
    Repeats (Reader.andThen (Reader.char ',') fun _ => arrayItem (value n))
      (',' :: (cs ++ rest)) (ss.map .string) rest := by
  have hshorter (item rest : List Char) : rest.length < (',' :: (item ++ rest)).length := by
    rw [List.length_cons, List.length_append]
    omega
  induction h with
  | last h => exact .turn (takes_commaItem h hrest n) (hshorter _ _) (.stop hstop)
  | more h _ ih =>
    rw [List.append_assoc]
    exact .turn (takes_commaItem h (.inl rfl) n) (hshorter _ _) ih

theorem takes_items (h : SpellsItems ss cs) (hrest : EndsItem rest)
    (hstop : Refuses (Reader.andThen (Reader.char ',') fun _ => arrayItem (value n)) rest) :
    Takes (Reader.separated (arrayItem (value n)) (Reader.char ',')) (cs ++ rest)
      (ss.map .string) rest := by
  cases h with
  | last h => exact .separated (takes_arrayItem h hrest n) (.stop hstop)
  | more h hmore =>
    rw [List.append_assoc]
    exact .separated (takes_arrayItem h (.inl rfl) n) (repeats_items hmore hrest hstop)

/-- An array whose items are taken, with what stands between them and its bracket. -/
theorem takes_array {v : Reader Value} {items : List Value} {mid mid' : List Char}
    (hitems : Takes (Reader.separated (arrayItem v) (Reader.char ',')) cs items mid)
    (hcomma : items = [] ∧ mid' = mid ∨
      items ≠ [] ∧ ∃ o, Takes (Reader.optional (Reader.char ',')) mid o mid')
    (hgap : Takes gap mid' () (']' :: rest)) : Takes (array v) ('[' :: cs) (.array items) rest := by
  have hclose : Takes (Reader.expecting ["`]`"]
      (Reader.labelled "array" (Reader.committed (Reader.char ']')))) (']' :: rest) ']' rest :=
    ((Takes.char ']' rest).committed.labelled _).expecting _
  refine (Takes.char '[' _).bind ?_
  refine Takes.bind (.committed (hitems.bind ?_)) (hclose.bind (.pure _ _))
  rcases hcomma with ⟨rfl, rfl⟩ | ⟨hne, o, ho⟩
  · exact hgap.bind (.pure _ _)
  · cases items with
    | nil => exact absurd rfl hne
    | cons item items => exact ho.bind (hgap.bind (.pure _ _))

theorem takes_likeWord (w : List Char) (v : Value) (rest : List Char) :
    Takes (likeString do Reader.committed (Reader.word w); return v) (w ++ rest) v rest := by
  have hword : Takes (do Reader.committed (Reader.word w); return v) (w ++ rest) v rest :=
    (Takes.word w rest).committed.bind (.pure _ _)
  exact (hword.labelled _).expecting _

theorem SpellsItems.ne_nil (h : SpellsItems ss cs) : ss.map Value.string ≠ [] := by
  cases h <;> simp

theorem takes_value (h : SpellsValue v cs) (hrest : NotNext (· == '"') rest) (n : Nat) :
    Takes (value (n + 1)) (cs ++ rest) v rest := by
  have hbracket : NotNext startsGap (']' :: rest) := .cons rfl rest
  cases h with
  | true =>
    have hword := takes_likeWord ['t', 'r', 'u', 'e'] (.boolean true) rest
    exact (Takes.next? 't' _).bind hword
  | false =>
    have hword := takes_likeWord ['f', 'a', 'l', 's', 'e'] (.boolean false) rest
    exact (Takes.next? 'f' _).bind hword
  | string h => exact takes_value_string h hrest _
  | noTexts hspace =>
    have hgap := takes_gap hspace hbracket
    have hitem : Refuses (arrayItem (value n)) _ :=
      .bind_of_takes hgap (.bind (refuses_value_bracket n rest) _)
    have harray := takes_array (hitem.separated _) (.inl ⟨rfl, rfl⟩) hgap
    rw [List.cons_append, List.append_assoc]
    exact (Takes.next? '[' _).bind harray
  | texts h =>
    have hstop : Refuses (Reader.char ',') (']' :: rest) := .charWhere (.cons rfl rest)
    have hitems := takes_items h (.inr rfl) (hstop.bind fun _ => arrayItem (value n))
    have hempty : IsGap [] := by simp [IsGap]
    have harray := takes_array hitems (.inr ⟨h.ne_nil, _, hstop.optional⟩)
      (takes_gap hempty hbracket)
    rw [List.cons_append, List.append_assoc]
    exact (Takes.next? '[' _).bind harray
  | @textsComma _ _ space h hspace =>
    have hgap := takes_gap hspace hbracket
    have hstop : Refuses (Reader.andThen (Reader.char ',') fun _ => arrayItem (value n))
        (',' :: (space ++ ']' :: rest)) :=
      .bind_of_takes (.char ',' _) (.bind_of_takes hgap (.bind (refuses_value_bracket n rest) _))
    have hitems := takes_items h (.inl rfl) hstop
    have harray := takes_array hitems (.inr ⟨h.ne_nil, _, (Takes.char ',' _).optional⟩) hgap
    rw [List.cons_append, List.append_assoc, List.cons_append, List.append_assoc]
    exact (Takes.next? '[' _).bind harray

end Values

/-! ## Writing -/

/-- One way to spell a character: quotes and backslashes behind a backslash, control characters by
their codes. -/
def writeChar (c : Char) : List Char :=
  if c == '"' || c == '\\' then ['\\', c]
  else if isBasic c then [c]
  else ['\\', 'u', '0', '0', Nat.digitChar (c.toNat / 16), Nat.digitChar (c.toNat % 16)]

/-- A basic string. -/
def writeString (s : String) : List Char :=
  '"' :: (s.toList.flatMap writeChar ++ ['"'])

/-- The items of an array with commas between them. -/
def writeItems : List (List Char) → List Char
  | [] => []
  | [item] => item
  | item :: items => item ++ ',' :: writeItems items

/-- A value, if it is a truth value, a string or an array of strings. -/
def writeValue : Value → List Char
  | .boolean true => ['t', 'r', 'u', 'e']
  | .boolean false => ['f', 'a', 'l', 's', 'e']
  | .string s => writeString s
  | .array items =>
    '[' :: (writeItems (items.map fun
      | .string s => writeString s
      | _ => []) ++ [']'])
  | _ => []

section Writing
variable {c : Char} {ss : List String}

theorem isBasic_of_le (hc : 128 ≤ c.toNat) : isBasic c := by
  simp [isBasic, isWide, hc]

theorem hexDigit?_digitChar {n : Nat} (h : n < 16) : hexDigit? (Nat.digitChar n) = some n := by
  have hall : ∀ n < 16, hexDigit? (Nat.digitChar n) = some n := by decide
  exact hall n h

theorem spellsText_writeChar (c : Char) {text body : List Char} (h : SpellsText text body) :
    SpellsText (c :: text) (writeChar c ++ body) := by
  unfold writeChar
  split
  · next hmark =>
    rw [Bool.or_eq_true, beq_iff_eq, beq_iff_eq] at hmark
    rcases hmark with rfl | rfl <;> exact .escape (.short (by decide)) h
  · split
    · next hc => exact .plain hc h
    · next hc =>
      have hsmall : c.toNat < 128 := Nat.lt_of_not_le fun hlarge => hc (isBasic_of_le hlarge)
      have hhigh := hexDigit?_digitChar (n := c.toNat / 16) (by omega)
      have hlow := hexDigit?_digitChar (n := c.toNat % 16) (by omega)
      have hzero : hexDigit? '0' = some 0 := by decide
      refine .escape (.code (.inl ⟨rfl, rfl⟩) ?_ ?_) h
      · simp [hzero, hhigh, hlow]
      · simp only [valueOf, List.foldl, hzero, hhigh, hlow, Option.getD_some]
        omega

theorem spellsString_writeString (s : String) : SpellsString s (writeString s) := by
  refine ⟨_, ?_, rfl⟩
  induction s.toList with
  | nil => exact .nil
  | cons c text ih => exact spellsText_writeChar c ih

theorem spellsItem_writeString (s : String) : SpellsItem s (writeString s) :=
  ⟨[], _, [], by simp [IsGap], spellsString_writeString s, by simp [IsGap], by simp⟩

theorem spellsValue_string (s : String) : SpellsValue (.string s) (writeValue (.string s)) :=
  .string (spellsString_writeString s)

theorem spellsValue_boolean (b : Bool) : SpellsValue (.boolean b) (writeValue (.boolean b)) := by
  cases b
  · exact .false
  · exact .true

theorem spellsItems_writeItems (s : String) (ss : List String) :
    SpellsItems (s :: ss) (writeItems ((s :: ss).map writeString)) := by
  induction ss generalizing s with
  | nil => exact .last (spellsItem_writeString s)
  | cons next ss ih => exact .more (spellsItem_writeString s) (ih next)

theorem spellsValue_texts (ss : List String) :
    SpellsValue (.array (ss.map .string)) (writeValue (.array (ss.map .string))) := by
  have hwritten : writeValue (.array (ss.map .string)) =
      '[' :: (writeItems (ss.map writeString) ++ [']']) := by
    simp [writeValue, Function.comp_def]
  rw [hwritten]
  cases ss with
  | nil => exact .noTexts (by simp [IsGap, writeItems])
  | cons s ss => exact .texts (spellsItems_writeItems s ss)

end Writing

end PackageUsage.Toml
