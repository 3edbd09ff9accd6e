import PackageUsage.Discovery
import PackageUsage.Proofs.Glob
import PackageUsage.Proofs.Text

/-!
# Include and exclude patterns

Which patterns are refused. An include pattern has to spell a glob once it is normalised. Of an
exclude pattern a separator at the end is left out first, together with a backslash right before it;
what else is put before and behind it makes no difference. Nor do blanks around a pattern or steps
to the current directory before it, since both are left out of the normalised one.
-/

namespace PackageUsage.Discovery

/-! ## Lists of patterns -/

section MapM
variable {α β ε : Type} {f : α → Except ε β} {xs : List α}

theorem mem_of_mapM {ys : List β} (h : xs.mapM f = .ok ys) {y : β} :
    y ∈ ys ↔ ∃ x ∈ xs, f x = .ok y := by
  induction xs generalizing ys with
  | nil =>
    cases h
    simp
  | cons x xs ih =>
    rw [List.mapM_cons] at h
    cases hx : f x with
    | error e =>
      rw [hx] at h
      cases h
    | ok first =>
      cases hxs : xs.mapM f with
      | error e =>
        rw [hx, hxs] at h
        cases h
      | ok rest =>
        rw [hx, hxs] at h
        cases h
        simp [hx, ih hxs, eq_comm (a := y)]

theorem mapM_eq_error_iff : (∃ e, xs.mapM f = .error e) ↔ ∃ x ∈ xs, ∃ e, f x = .error e := by
  induction xs with
  | nil => simp [pure, Except.pure]
  | cons x xs ih =>
    rw [List.mapM_cons]
    cases hx : f x with
    | error e => simp [hx, bind, Except.bind]
    | ok first =>
      have hcons : (∃ y ∈ x :: xs, ∃ e, f y = .error e) ↔ ∃ y ∈ xs, ∃ e, f y = .error e := by
        simp [hx]
      rw [hcons, ← ih]
      cases xs.mapM f <;> simp [bind, Except.bind, pure, Except.pure]

theorem exists_ok_iff {x : Except ε α} : (∃ a, x = .ok a) ↔ ¬ ∃ e, x = .error e := by
  cases x <;> simp

end MapM

/-! ## Spellings -/

/-- Another spelling of a pattern: a step to the current directory before it, which no blank may
follow, or blanks around it. -/
inductive Respells (pattern : String) : String → Prop
  | currentStep : (∀ c, pattern.toList.head? = some c → Text.isBlank c = false) →
      Respells pattern ("./" ++ pattern)
  | padded {before after : String} : (∀ c ∈ before.toList, Text.isBlank c = true) →
      (∀ c ∈ after.toList, Text.isBlank c = true) → Respells pattern (before ++ pattern ++ after)

theorem normalize_respelt {pattern other : String} (h : Respells pattern other) :
    normalize other = normalize pattern := by
  cases h with
  | currentStep hhead =>
    have hleft : Text.trimLeft pattern.toList = pattern.toList := by
      unfold Text.trimLeft
      cases hcs : pattern.toList with
      | nil => rfl
      | cons c cs => exact List.dropWhile_cons_of_neg (by simp [hhead c (by rw [hcs]; rfl)])
    have htrim : Text.trimList ("./" ++ pattern).toList =
        '.' :: '/' :: Text.trimList pattern.toList := by
      rw [Text.trimList, Text.trimList, hleft, String.toList_append]
      refine (congrArg Text.trimRight (List.dropWhile_cons_of_neg (by decide))).trans ?_
      exact (Text.trimRight_cons (by decide) _).trans
        (congrArg _ (Text.trimRight_cons (by decide) _))
    rw [normalize, htrim, dropCurrentSteps, normalize]
  | padded hbefore hafter =>
    rw [normalize, String.toList_append, String.toList_append,
      Text.trimList_padded hbefore hafter, normalize]

/-! ## Include patterns -/

/-- The include patterns that hold: the default ones if none are given. -/
def wanted (patterns : List String) : List String :=
  if patterns.isEmpty then defaultPatterns else patterns

/-- A path is accepted by the globs exactly if one of the patterns spells a glob that accepts it. -/
theorem any_accepts_iff {patterns : List String} {globs : List Glob}
    (h : includeGlobs patterns = .ok globs) {path : String} :
    globs.any (·.accepts path) = true ↔
      ∃ pattern ∈ wanted patterns, ∃ glob, Glob.ofText false (normalize pattern) = .ok glob ∧
        glob.accepts path = true := by
  have hmem (glob : Glob) : glob ∈ globs ↔
      ∃ pattern ∈ wanted patterns, Glob.ofText false (normalize pattern) = .ok glob := by
    refine (mem_of_mapM h).trans (exists_congr fun pattern => and_congr_right fun _ => ?_)
    cases Glob.ofText false (normalize pattern) <;> simp
  rw [List.any_eq_true]
  constructor
  · rintro ⟨glob, hglob, haccepts⟩
    obtain ⟨pattern, hpattern, htext⟩ := (hmem glob).mp hglob
    exact ⟨pattern, hpattern, glob, htext, haccepts⟩
  · rintro ⟨pattern, hpattern, glob, htext, haccepts⟩
    exact ⟨glob, (hmem glob).mpr ⟨pattern, hpattern, htext⟩, haccepts⟩

theorem getLast?_dropCurrentSteps {cs : List Char} {c : Char}
    (h : (dropCurrentSteps cs).getLast? = some c) : cs.getLast? = some c := by
  fun_induction dropCurrentSteps cs with
  | case1 rest ih =>
    have hrest := ih h
    cases rest with
    | nil => cases hrest
    | cons first rest => exact hrest
  | case2 cs hother => exact h

theorem isBlank_of_getLast?_normalize {pattern : String} {c : Char}
    (h : (normalize pattern).toList.getLast? = some c) : Text.isBlank c = false := by
  rw [normalize, String.toList_ofList] at h
  exact Text.getLast?_trimRight (getLast?_dropCurrentSteps h)

theorem trimLine_of_getLast? {cs : List Char} {c : Char} (h : cs.getLast? = some c)
    (hc : Text.isBlank c = false) : IgnoreRule.trimLine cs = cs := by
  unfold IgnoreRule.trimLine
  split
  · rfl
  · exact Text.trimRight_of_getLast? h hc

theorem dropFinalSeparator_cons {rest : List Char} (h : rest ≠ []) :
    (IgnoreRule.dropFinalSeparator ('/' :: rest)).1 =
      '/' :: (IgnoreRule.dropFinalSeparator rest).1 := by
  obtain ⟨first, more, rfl⟩ := List.exists_cons_of_ne_nil h
  unfold IgnoreRule.dropFinalSeparator
  rw [List.getLast?_cons_cons]
  split
  · dsimp only
    rw [List.dropLast_cons_cons]
    cases hbody : (first :: more).dropLast with
    | nil => rfl
    | cons second body =>
      rw [List.getLast?_cons_cons]
      split <;> rfl
  · rfl

/-- The separators and stars that are put around the text of a rule make no difference. -/
theorem spells_globText_iff {anchored : Bool} {line : List Char} :
    Glob.Spells 0 (IgnoreRule.globText anchored line) ↔ Glob.Spells 0 line := by
  have hdeep (deep : List Char) :
      Glob.Spells 0 (if ['/', '*', '*'].isSuffixOf deep then deep ++ ['/', '*'] else deep) ↔
        Glob.Spells 0 deep := by
    split
    · next hsuffix =>
      obtain ⟨before, rfl⟩ := List.isSuffixOf_iff_suffix.mp hsuffix
      exact Glob.spells_append_iff (by simp [Glob.isPlain]) (by simp) (by simp)
    · exact Iff.rfl
  unfold IgnoreRule.globText
  refine (hdeep _).trans ?_
  split
  · exact Iff.rfl
  · exact Glob.spells_plain_append (by simp [Glob.isPlain])

/-- The text that an exclude pattern has to spell a glob with. -/
def excludeText (pattern : String) : String :=
  String.ofList (IgnoreRule.dropFinalSeparator pattern.toList).1

/-- Whether a line is anchored at its directory, and what follows the separator that says so. -/
def anchoredBody : List Char → Bool × List Char
  | '/' :: rest => (true, rest)
  | cs => (false, cs)

/-- The rule of a line that takes back what others ignore. -/
theorem ofLine_bang {pattern : String} {c : Char} (hlast : pattern.toList.getLast? = some c)
    (hc : Text.isBlank c = false) :
    IgnoreRule.ofLine false ("!" ++ pattern) =
      let (anchored, body) := anchoredBody pattern.toList
      let (line, onlyDirectories) := IgnoreRule.dropFinalSeparator body
      (Glob.ofText false (String.ofList (IgnoreRule.globText anchored line))).map fun glob =>
        some { glob, keeps := true, onlyDirectories } := by
  obtain ⟨first, rest, hcs⟩ : ∃ first rest, pattern.toList = first :: rest := by
    apply List.exists_cons_of_ne_nil
    intro hnil
    rw [hnil] at hlast
    cases hlast
  have hchars : ("!" ++ pattern).toList = '!' :: first :: rest := by
    rw [String.toList_append, hcs]
    rfl
  have hstart : ("!" ++ pattern).startsWith "#" = false := by
    rw [Bool.eq_false_iff, Ne, String.startsWith_string_iff, hchars]
    simp
  have htrim : IgnoreRule.trimLine ('!' :: first :: rest) = '!' :: first :: rest := by
    rw [hcs] at hlast
    exact trimLine_of_getLast? (List.getLast?_cons_cons.trans hlast) hc
  unfold IgnoreRule.ofLine
  rw [hstart, hchars, htrim, hcs]
  by_cases hslash : first = '/'
  · subst hslash
    simp only [anchoredBody, List.isEmpty_cons, Bool.false_eq_true, if_false]
    cases Glob.ofText false _ <;> rfl
  · have hbody : anchoredBody (first :: rest) = (false, first :: rest) := by
      rw [anchoredBody]
      intro more heq
      exact hslash (List.cons.inj heq).1
    simp only [hbody, List.isEmpty_cons, Bool.false_eq_true, if_false]
    split
    · next heq => cases heq
    · next heq => cases heq
    · next heq => exact absurd (List.cons.inj (List.cons.inj heq).2).1 hslash
    · next heq =>
      cases heq
      cases Glob.ofText false _ <;> rfl
    · next heq => cases heq
    · next hbang _ => exact absurd rfl (hbang (first :: rest))

theorem spells_anchoredBody_iff {cs : List Char} :
    Glob.Spells 0 (IgnoreRule.dropFinalSeparator (anchoredBody cs).2).1 ↔
      Glob.Spells 0 (IgnoreRule.dropFinalSeparator cs).1 := by
  unfold anchoredBody
  split
  · next rest =>
    by_cases hrest : rest = []
    · subst hrest
      exact Iff.rfl
    · rw [dropFinalSeparator_cons hrest, Glob.spells_plain_iff rfl]
  · exact Iff.rfl

theorem ofLine_eq_error_iff {pattern : String} {c : Char}
    (hlast : pattern.toList.getLast? = some c) (hc : Text.isBlank c = false) :
    (∃ fault, IgnoreRule.ofLine false ("!" ++ pattern) = .error fault) ↔
      ¬ Glob.Valid (excludeText pattern) := by
  have hvalid : Glob.Valid (String.ofList (IgnoreRule.globText (anchoredBody pattern.toList).1
      (IgnoreRule.dropFinalSeparator (anchoredBody pattern.toList).2).1)) ↔
      Glob.Valid (excludeText pattern) := by
    rw [Glob.valid_iff, Glob.valid_iff, excludeText, String.toList_ofList, String.toList_ofList,
      spells_globText_iff, spells_anchoredBody_iff]
  rw [ofLine_bang hlast hc, ← hvalid]
  unfold Glob.Valid
  dsimp only
  cases Glob.ofText false _ <;> simp [Except.map]

theorem excludeRule_eq_error_iff {pattern : String} :
    (∃ e, excludeRule pattern = .error e) ↔
      normalize pattern ≠ "" ∧ ¬ Glob.Valid (excludeText (normalize pattern)) := by
  unfold excludeRule
  by_cases hempty : normalize pattern = ""
  · simp [hempty]
  · have hne : (normalize pattern).toList ≠ [] := by simpa using hempty
    have hlast := List.getLast?_eq_some_getLast hne
    have hline := ofLine_eq_error_iff hlast (isBlank_of_getLast?_normalize hlast)
    rw [if_neg (by simpa using hempty), ← hline]
    cases IgnoreRule.ofLine false ("!" ++ normalize pattern) <;> simp [hempty]

theorem valid_defaultExcludes :
    ∀ pattern ∈ defaultExcludes, Glob.Valid (excludeText (normalize pattern)) := by
  decide

theorem excludeRules_eq_error_iff {exclude : List String} :
    (∃ e, excludeRules exclude = .error e) ↔
      ∃ pattern ∈ exclude, normalize pattern ≠ "" ∧
        ¬ Glob.Valid (excludeText (normalize pattern)) := by
  have hall : (∃ e, excludeRules exclude = .error e) ↔
      ∃ pattern ∈ defaultExcludes ++ exclude, ∃ e, excludeRule pattern = .error e := by
    rw [← mapM_eq_error_iff]
    unfold excludeRules
    cases (defaultExcludes ++ exclude).mapM excludeRule <;>
      simp [bind, Except.bind, pure, Except.pure]
  rw [hall]
  simp only [excludeRule_eq_error_iff]
  constructor
  · rintro ⟨pattern, hmem, hne, hinvalid⟩
    rcases List.mem_append.mp hmem with hdefault | hgiven
    · exact absurd (valid_defaultExcludes pattern hdefault) hinvalid
    · exact ⟨pattern, hgiven, hne, hinvalid⟩
  · rintro ⟨pattern, hmem, h⟩
    exact ⟨pattern, List.mem_append_right _ hmem, h⟩

/-- The rules are those of the default patterns and of the given ones. -/
theorem mem_rules_iff {exclude : List String} {excludes : IgnoreRules} {rule : IgnoreRule}
    (h : excludeRules exclude = .ok excludes) :
    rule ∈ excludes.rules ↔
      ∃ pattern ∈ defaultExcludes ++ exclude, excludeRule pattern = .ok (some rule) := by
  unfold excludeRules at h
  cases hrules : (defaultExcludes ++ exclude).mapM excludeRule with
  | error e =>
    rw [hrules] at h
    cases h
  | ok rules =>
    rw [hrules] at h
    cases h
    rw [List.mem_filterMap]
    simp only [id_eq, exists_eq_right]
    exact mem_of_mapM hrules

end PackageUsage.Discovery
