import PackageUsage.Glob

/-!
# Texts that spell a glob

Whether a text spells a glob depends on its brackets, braces and backslashes only: `Spells` says
which texts do, apart from the tokens that are read. So separators and stars may be put before a
text, and behind one that does not end with a backslash.
-/

namespace PackageUsage.Glob

/-- Characters that stand for themselves or for a wildcard wherever they are read. -/
def isPlain (c : Char) : Bool :=
  c != '[' && c != '{' && c != '}' && c != '\\'

/-- The texts that can be read to their end with a number of groups open before them. -/
inductive Spells : Nat → List Char → Prop
  | done : Spells 0 []
  | opening {depth : Nat} {rest : List Char} : Spells (depth + 1) rest → Spells depth ('{' :: rest)
  | closing {depth : Nat} {rest : List Char} : Spells depth rest → Spells (depth + 1) ('}' :: rest)
  | escaped {depth : Nat} {rest : List Char} (c : Char) :
      Spells depth rest → Spells depth ('\\' :: c :: rest)
  | set {depth : Nat} {token : Token} {rest more : List Char} :
      classToken rest = .ok (some (token, more)) → Spells depth more → Spells depth ('[' :: rest)
  | plain {depth : Nat} {c : Char} {rest : List Char} :
      isPlain c = true → Spells depth rest → Spells depth (c :: rest)

variable {depth : Nat} {text rest extra : List Char} {c : Char}

theorem cases_of_not_isPlain (h : ¬ isPlain c = true) :
    c = '[' ∨ c = '{' ∨ c = '}' ∨ c = '\\' := by
  simp only [isPlain, Bool.and_eq_true, bne_iff_ne] at h
  grind

theorem spells_nil_iff : Spells depth [] ↔ depth = 0 := by
  constructor
  · intro h
    cases h
    rfl
  · rintro rfl
    exact .done

theorem spells_plain_iff (hc : isPlain c = true) :
    Spells depth (c :: rest) ↔ Spells depth rest := by
  constructor
  · intro h
    cases h with
    | plain _ h => exact h
    | opening => cases hc
    | closing => cases hc
    | escaped => cases hc
    | set => cases hc
  · exact .plain hc

theorem spells_opening_iff : Spells depth ('{' :: rest) ↔ Spells (depth + 1) rest := by
  constructor
  · intro h
    cases h with
    | opening h => exact h
    | plain hc => cases hc
  · exact .opening

theorem spells_closing_iff : Spells depth ('}' :: rest) ↔ ∃ n, depth = n + 1 ∧ Spells n rest := by
  constructor
  · intro h
    cases h with
    | closing h => exact ⟨_, rfl, h⟩
    | plain hc => cases hc
  · rintro ⟨n, rfl, h⟩
    exact .closing h

theorem spells_escape_iff :
    Spells depth ('\\' :: text) ↔ ∃ c rest, text = c :: rest ∧ Spells depth rest := by
  constructor
  · intro h
    cases h with
    | escaped c h => exact ⟨c, _, rfl, h⟩
    | plain hc => cases hc
  · rintro ⟨c, rest, rfl, h⟩
    exact .escaped c h

theorem spells_set_iff :
    Spells depth ('[' :: rest) ↔
      ∃ token more, classToken rest = .ok (some (token, more)) ∧ Spells depth more := by
  constructor
  · intro h
    cases h with
    | set htoken h => exact ⟨_, _, htoken, h⟩
    | plain hc => cases hc
  · rintro ⟨token, more, htoken, h⟩
    exact .set htoken h

/-! ## Classes -/

/-- What one character of a class does, whatever comes after it: it is a fault, it is followed by
further members, or it closes the class. -/
theorem classMembers_cons (isFirst pending : Bool) (ranges : List (Char × Char)) (c : Char) :
    (∃ fault, ∀ rest, classMembers isFirst pending ranges (c :: rest) = .error fault) ∨
    (∃ pending' ranges', ∀ rest, classMembers isFirst pending ranges (c :: rest) =
      classMembers false pending' ranges' rest) ∨
    (c = ']' ∧ ∃ found, ∀ rest,
      classMembers isFirst pending ranges (c :: rest) = .ok (some (found, rest))) := by
  by_cases hclose : c = ']'
  · subst hclose
    cases isFirst with
    | true => exact Or.inr (Or.inl ⟨_, _, fun rest => by rw [classMembers]; rfl⟩)
    | false => exact Or.inr (Or.inr ⟨rfl, _, fun rest => by rw [classMembers]; rfl⟩)
  · by_cases hfirst : (c == '-' && isFirst) = true
    · refine Or.inr (Or.inl ⟨pending, ('-', '-') :: ranges, fun rest => ?_⟩)
      cases ranges <;> rw [classMembers, if_pos hfirst] <;> exact hclose
    · by_cases hhyphen : (c == '-' && !pending) = true
      · refine Or.inr (Or.inl ⟨true, ranges, fun rest => ?_⟩)
        cases ranges <;> rw [classMembers, if_neg hfirst, if_pos hhyphen] <;> exact hclose
      · cases pending with
        | false =>
          refine Or.inr (Or.inl ⟨false, (c, c) :: ranges, fun rest => ?_⟩)
          cases ranges <;>
            rw [classMembers, if_neg hfirst, if_neg hhyphen, if_neg Bool.false_ne_true] <;>
            exact hclose
        | true =>
          cases ranges with
          | nil =>
            refine Or.inr (Or.inl ⟨false, [(c, c)], fun rest => ?_⟩)
            rw [classMembers, if_neg hfirst, if_neg hhyphen, if_pos rfl]
            exact hclose
          | cons range others =>
            obtain ⟨first, last⟩ := range
            by_cases hlt : c < first
            · refine Or.inl ⟨.invalidRange first c, fun rest => ?_⟩
              rw [classMembers, if_neg hfirst, if_neg hhyphen, if_pos rfl, if_pos hlt]
              exact hclose
            · refine Or.inr (Or.inl ⟨false, (first, c) :: others, fun rest => ?_⟩)
              rw [classMembers, if_neg hfirst, if_neg hhyphen, if_pos rfl, if_neg hlt]
              exact hclose

theorem exists_append_of_classMembers {isFirst pending : Bool} {ranges found : List (Char × Char)}
    (h : classMembers isFirst pending ranges text = .ok (some (found, rest))) :
    ∃ c before, text = c :: (before ++ rest) := by
  induction text generalizing isFirst pending ranges with
  | nil => cases h
  | cons c text ih =>
    rcases classMembers_cons isFirst pending ranges c with
      ⟨fault, hcons⟩ | ⟨pending', ranges', hcons⟩ | ⟨-, found', hcons⟩
    · rw [hcons] at h
      cases h
    · rw [hcons] at h
      obtain ⟨c', before, rfl⟩ := ih h
      exact ⟨c, c' :: before, rfl⟩
    · rw [hcons] at h
      cases h
      exact ⟨c, [], rfl⟩

/-- What comes behind a class has no part in it, and cannot close a class unless it has a
bracket. -/
theorem classMembers_append_iff {isFirst pending : Bool} {ranges found : List (Char × Char)}
    (hextra : ']' ∉ extra) :
    classMembers isFirst pending ranges (text ++ extra) = .ok (some (found, rest)) ↔
      ∃ more, rest = more ++ extra ∧
        classMembers isFirst pending ranges text = .ok (some (found, more)) := by
  induction text generalizing isFirst pending ranges with
  | nil =>
    constructor
    · intro h
      rw [List.nil_append] at h
      exfalso
      induction extra generalizing isFirst pending ranges with
      | nil => cases h
      | cons c extra ih =>
        rw [List.mem_cons, not_or] at hextra
        rcases classMembers_cons isFirst pending ranges c with
          ⟨fault, hcons⟩ | ⟨pending', ranges', hcons⟩ | ⟨hclose, -⟩
        · rw [hcons] at h
          cases h
        · rw [hcons] at h
          exact ih hextra.2 h
        · exact hextra.1 hclose.symm
    · rintro ⟨more, -, h⟩
      cases h
  | cons c text ih =>
    rw [List.cons_append]
    rcases classMembers_cons isFirst pending ranges c with
      ⟨fault, hcons⟩ | ⟨pending', ranges', hcons⟩ | ⟨-, found', hcons⟩
    · simp [hcons]
    · rw [hcons, hcons]
      exact ih
    · rw [hcons, hcons]
      constructor
      · intro h
        cases h
        exact ⟨text, rfl, rfl⟩
      · rintro ⟨more, rfl, h⟩
        cases h
        rfl

/-- The members of a class, without the mark of a negated one. -/
def classBody (rest : List Char) : List Char :=
  if rest.head? == some '!' || rest.head? == some '^' then rest.tail else rest

theorem classToken_eq_ok_iff {more : List Char} :
    (∃ token, classToken rest = .ok (some (token, more))) ↔
      ∃ found, classMembers true false [] (classBody rest) = .ok (some (found, more)) := by
  unfold classToken classBody
  dsimp only
  generalize classMembers true false []
    (if rest.head? == some '!' || rest.head? == some '^' then rest.tail else rest) = members
  cases members with
  | error fault => simp [bind, Except.bind]
  | ok result =>
    cases result with
    | none => simp [bind, Except.bind, pure, Except.pure]
    | some found =>
      obtain ⟨ranges, after⟩ := found
      simp [bind, Except.bind, pure, Except.pure]

theorem classBody_append (hne : rest ≠ []) :
    classBody (rest ++ extra) = classBody rest ++ extra := by
  cases rest with
  | nil => exact absurd rfl hne
  | cons c rest =>
    unfold classBody
    rw [List.cons_append, List.head?_cons, List.head?_cons]
    split <;> rfl

theorem classToken_append_iff {after : List Char} (hextra : ']' ∉ extra) :
    (∃ token, classToken (rest ++ extra) = .ok (some (token, after))) ↔
      ∃ more, after = more ++ extra ∧ ∃ token, classToken rest = .ok (some (token, more)) := by
  by_cases hne : rest = []
  · subst hne
    have hbody : ']' ∉ classBody extra := by
      unfold classBody
      split
      · intro hmem
        exact hextra (List.mem_of_mem_tail hmem)
      · exact hextra
    constructor
    · intro h
      obtain ⟨found, h⟩ := classToken_eq_ok_iff.mp h
      rw [List.nil_append, ← List.nil_append (classBody extra), classMembers_append_iff hbody] at h
      obtain ⟨more, -, hnone⟩ := h
      cases hnone
    · rintro ⟨more, -, h⟩
      obtain ⟨found, h⟩ := classToken_eq_ok_iff.mp h
      cases h
  · simp only [classToken_eq_ok_iff, classBody_append hne, classMembers_append_iff hextra]
    constructor
    · rintro ⟨found, more, hafter, h⟩
      exact ⟨more, hafter, found, h⟩
    · rintro ⟨more, hafter, found, h⟩
      exact ⟨found, more, hafter, h⟩

theorem exists_append_of_classToken {token : Token} {more : List Char}
    (h : classToken rest = .ok (some (token, more))) :
    ∃ c before, rest = c :: (before ++ more) := by
  obtain ⟨found, h⟩ := classToken_eq_ok_iff.mp ⟨token, h⟩
  obtain ⟨c, before, hbody⟩ := exists_append_of_classMembers h
  unfold classBody at hbody
  split at hbody
  · cases rest with
    | nil => cases hbody
    | cons mark rest => exact ⟨mark, c :: before, congrArg (List.cons mark) hbody⟩
  · exact ⟨c, before, hbody⟩

/-! ## Plain characters around a text -/

theorem spells_plain_append (hplain : ∀ c ∈ extra, isPlain c = true) :
    Spells depth (extra ++ text) ↔ Spells depth text := by
  induction extra with
  | nil => exact Iff.rfl
  | cons c extra ih =>
    rw [List.cons_append, spells_plain_iff (hplain c List.mem_cons_self)]
    exact ih fun c hc => hplain c (List.mem_cons_of_mem _ hc)

theorem spells_set_append_iff (hextra : ']' ∉ extra)
    (hmore : ∀ before more, rest = before ++ more →
      (Spells depth (more ++ extra) ↔ Spells depth more)) :
    Spells depth ('[' :: (rest ++ extra)) ↔ Spells depth ('[' :: rest) := by
  rw [spells_set_iff, spells_set_iff]
  constructor
  · rintro ⟨token, after, htoken, h⟩
    obtain ⟨more, rfl, token', htoken'⟩ := (classToken_append_iff hextra).mp ⟨token, htoken⟩
    obtain ⟨c, before, hrest⟩ := exists_append_of_classToken htoken'
    exact ⟨token', more, htoken', (hmore (c :: before) more hrest).mp h⟩
  · rintro ⟨token, more, htoken, h⟩
    obtain ⟨token', htoken'⟩ := (classToken_append_iff hextra).mpr ⟨more, rfl, token, htoken⟩
    obtain ⟨c, before, hrest⟩ := exists_append_of_classToken htoken
    exact ⟨token', more ++ extra, htoken', (hmore (c :: before) more hrest).mpr h⟩

/-- Plain characters behind a text do not matter, unless a backslash before them takes the first of
them or a bracket among them closes a class. -/
theorem spells_append_iff (hplain : ∀ c ∈ extra, isPlain c = true) (hextra : ']' ∉ extra)
    (hlast : text.getLast? ≠ some '\\') : Spells depth (text ++ extra) ↔ Spells depth text := by
  -- the texts that are left after a construct are shorter by an unknown number of characters
  induction hlength : text.length using Nat.strongRecOn generalizing text depth with
  | ind length ih =>
    have hshorter (before more : List Char) (htext : text = before ++ more) (hne : before ≠ [])
        (depth : Nat) : Spells depth (more ++ extra) ↔ Spells depth more := by
      refine ih more.length ?_ ?_ rfl
      · rw [← hlength, htext, List.length_append]
        have hpos := List.length_pos_iff.mpr hne
        omega
      · intro hmore
        apply hlast
        rw [htext, List.getLast?_append, hmore]
        rfl
    cases text with
    | nil =>
      rw [List.nil_append, ← List.append_nil extra, spells_plain_append hplain]
    | cons c text =>
      have htail := hshorter [c] text rfl (List.cons_ne_nil _ _)
      rw [List.cons_append]
      by_cases hc : isPlain c = true
      · rw [spells_plain_iff hc, spells_plain_iff hc]
        exact htail depth
      · rcases cases_of_not_isPlain hc with rfl | rfl | rfl | rfl
        · apply spells_set_append_iff hextra
          intro before more htext
          exact hshorter ('[' :: before) more (congrArg (List.cons '[') htext)
            (List.cons_ne_nil _ _) depth
        · rw [spells_opening_iff, spells_opening_iff]
          exact htail (depth + 1)
        · rw [spells_closing_iff, spells_closing_iff]
          exact exists_congr fun n => and_congr_right fun _ => htail n
        · rw [spells_escape_iff, spells_escape_iff]
          cases text with
          | nil => exact absurd rfl hlast
          | cons e text =>
            have hmore := hshorter ['\\', e] text rfl (List.cons_ne_nil _ _) depth
            constructor
            · rintro ⟨_, _, heq, h⟩
              cases heq
              exact ⟨e, text, rfl, hmore.mp h⟩
            · rintro ⟨_, _, heq, h⟩
              cases heq
              exact ⟨e, text ++ extra, rfl, hmore.mpr h⟩

/-! ## Reading -/

/-- Going on from one reading with a text is as good as going on from another one with another. -/
structure Continues (r : Reading) (text : List Char) (r' : Reading) (rest : List Char) : Prop where
  shorter : rest.length < text.length
  bracketsLiteral : r'.bracketsLiteral = r.bracketsLiteral
  spells : Spells r.groups.length text ↔ Spells r'.groups.length rest

theorem continues_add {r : Reading} {ts : List Token} {last : Char} (hc : isPlain c = true) :
    Continues r (c :: rest) (r.add last ts) rest where
  shorter := Nat.lt_succ_self _
  bracketsLiteral := rfl
  spells := spells_plain_iff hc

theorem groups_star (r : Reading) (rest : List Char) :
    (r.star rest).1.groups = r.groups ∧
      (r.star rest).1.bracketsLiteral = r.bracketsLiteral := by
  simp only [Reading.star]
  repeat' split
  all_goals exact ⟨rfl, rfl⟩

theorem exists_taken_star (r : Reading) (rest : List Char) :
    ∃ taken, (∀ c ∈ taken, isPlain c = true) ∧ rest = taken ++ (r.star rest).2 := by
  have hnone : ∃ taken, (∀ c ∈ taken, isPlain c = true) ∧ rest = taken ++ rest := ⟨[], by simp, rfl⟩
  simp only [Reading.star]
  split
  · next rest =>
    have hstar : ∃ taken, (∀ c ∈ taken, isPlain c = true) ∧ '*' :: rest = taken ++ rest :=
      ⟨['*'], by simp [isPlain], rfl⟩
    repeat' split
    all_goals first
      | exact hstar
      | exact ⟨['*', '/'], by simp [isPlain], rfl⟩
  · exact hnone

theorem continues_star (r : Reading) (rest : List Char) :
    Continues r ('*' :: rest) (r.star rest).1 (r.star rest).2 := by
  obtain ⟨hgroups, hbrackets⟩ := groups_star r rest
  obtain ⟨taken, hplain, hrest⟩ := exists_taken_star r rest
  refine ⟨?_, hbrackets, ?_⟩
  · have hlength := congrArg List.length hrest
    rw [List.length_append] at hlength
    rw [List.length_cons]
    omega
  · rw [hgroups, spells_plain_iff rfl]
    conv => lhs; rw [hrest]
    exact spells_plain_append hplain

/-- One construct is read, and the rest is to be read from there, or the text spells no glob. -/
theorem step_cases {r : Reading} (hbrackets : r.bracketsLiteral = false) (c : Char)
    (rest : List Char) :
    (∃ r' rest', r.step false c rest = .ok (r', rest') ∧ Continues r (c :: rest) r' rest') ∨
      (∃ fault, r.step false c rest = .error fault) ∧ ¬ Spells r.groups.length (c :: rest) := by
  unfold Reading.step
  split
  · exact Or.inl ⟨_, _, rfl, continues_add rfl⟩
  · exact Or.inl ⟨_, _, rfl, continues_star r rest⟩
  · rw [hbrackets, if_neg Bool.false_ne_true, spells_set_iff]
    cases htoken : classToken rest with
    | error fault =>
      refine Or.inr ⟨⟨fault, rfl⟩, ?_⟩
      rintro ⟨token, more, h, -⟩
      cases h
    | ok found =>
      cases found with
      | none =>
        refine Or.inr ⟨⟨.unclosedClass, rfl⟩, ?_⟩
        rintro ⟨token, more, h, -⟩
        cases h
      | some found =>
        obtain ⟨token, more⟩ := found
        obtain ⟨d, before, hrest⟩ := exists_append_of_classToken htoken
        refine Or.inl ⟨r.add ']' [token], more, rfl, ?_, rfl, ?_⟩
        · rw [hrest]
          simp only [List.length_cons, List.length_append]
          omega
        · rw [spells_set_iff]
          constructor
          · rintro ⟨token', more', h, hmore⟩
            rw [htoken] at h
            cases h
            exact hmore
          · intro hmore
            exact ⟨token, more, htoken, hmore⟩
  · exact Or.inl ⟨_, _, rfl, Nat.lt_succ_self _, rfl, spells_opening_iff⟩
  · split
    · next hgroups =>
      refine Or.inr ⟨⟨_, rfl⟩, ?_⟩
      rw [hgroups, spells_closing_iff]
      rintro ⟨n, h, -⟩
      cases h
    · next g groups hgroups =>
      refine Or.inl ⟨_, _, rfl, Nat.lt_succ_self _, rfl, ?_⟩
      rw [hgroups, spells_closing_iff]
      constructor
      · rintro ⟨n, hn, h⟩
        cases hn
        exact h
      · intro h
        exact ⟨_, rfl, h⟩
  · split
    · exact Or.inl ⟨_, _, rfl, continues_add rfl⟩
    · next g groups hgroups =>
      refine Or.inl ⟨_, _, rfl, Nat.lt_succ_self _, rfl, ?_⟩
      rw [hgroups, spells_plain_iff rfl]
      rfl
  · split
    · refine Or.inr ⟨⟨_, rfl⟩, ?_⟩
      rw [spells_escape_iff]
      rintro ⟨c, rest, h, -⟩
      cases h
    · next e rest =>
      refine Or.inl ⟨_, _, rfl, Nat.lt_succ_of_lt (Nat.lt_succ_self _), rfl, ?_⟩
      rw [spells_escape_iff]
      constructor
      · rintro ⟨_, _, heq, h⟩
        cases heq
        exact h
      · intro h
        exact ⟨e, rest, rfl, h⟩
  · next h₁ h₂ h₃ h₄ h₅ h₆ h₇ =>
    refine Or.inl ⟨_, _, rfl, continues_add ?_⟩
    cases hc : isPlain c with
    | true => rfl
    | false =>
      rcases cases_of_not_isPlain (ne_true_of_eq_false hc) with h | h | h | h
      · exact (h₃ h).elim
      · exact (h₄ h).elim
      · exact (h₅ h).elim
      · exact (h₇ h).elim

theorem readFrom_nil_iff {fuel : Nat} {r : Reading} :
    (∃ tokens, readFrom false fuel r [] = .ok tokens) ↔ Spells r.groups.length [] := by
  have hend : readFrom false fuel r [] =
      if r.groups.isEmpty then .ok r.tokens.reverse else .error .unclosedAlternatives := by
    cases fuel <;> simp [readFrom]
  rw [hend, spells_nil_iff, List.length_eq_zero_iff]
  cases r.groups <;> simp

theorem readFrom_eq_ok_iff {fuel : Nat} {r : Reading} (hfuel : text.length ≤ fuel)
    (hbrackets : r.bracketsLiteral = false) :
    (∃ tokens, readFrom false fuel r text = .ok tokens) ↔ Spells r.groups.length text := by
  induction fuel generalizing r text with
  | zero =>
    obtain rfl := List.length_eq_zero_iff.mp (Nat.le_zero.mp hfuel)
    exact readFrom_nil_iff
  | succ fuel ih =>
    cases text with
    | nil => exact readFrom_nil_iff
    | cons c rest =>
      rw [readFrom]
      rcases step_cases hbrackets c rest with
        ⟨r', rest', hstep, hcontinues⟩ | ⟨⟨fault, hstep⟩, hnot⟩
      · have hshorter := hcontinues.shorter
        rw [List.length_cons] at hshorter hfuel
        rw [hstep, hcontinues.spells]
        exact ih (by omega) (hcontinues.bracketsLiteral.trans hbrackets)
      · rw [hstep]
        constructor
        · rintro ⟨tokens, h⟩
          cases h
        · intro h
          exact absurd h hnot

/-- A text that spells a glob, with every bracket closed. -/
def Valid (text : String) : Prop :=
  ∃ glob, ofText false text = .ok glob

instance : DecidablePred Valid := fun text =>
  match h : ofText false text with
  | .ok glob => isTrue ⟨glob, h⟩
  | .error _ => isFalse fun ⟨_, hglob⟩ => by rw [h] at hglob; cases hglob

theorem valid_iff {text : String} : Valid text ↔ Spells 0 text.toList := by
  have hread : (∃ tokens, readFrom false text.length {} text.toList = .ok tokens) ↔
      Spells 0 text.toList :=
    readFrom_eq_ok_iff (Nat.le_of_eq String.length_toList) rfl
  rw [← hread]
  unfold Valid ofText
  cases readFrom false text.length {} text.toList with
  | error fault => simp [bind, Except.bind]
  | ok tokens => simp [bind, Except.bind, pure, Except.pure]

end PackageUsage.Glob
