import Mathlib.Data.List.Infix
import PackageUsage.Proofs.Names
import PackageUsage.Proofs.Source.Onward
import PackageUsage.Proofs.Source.Token
import PackageUsage.Source.Tree

/-!
# The characters of words and strings

A word starts with a character that shows, and no line ends in it. In a string a line ends only
where it is continued: behind a backslash. So a text in which no line is continued has no line
feeds in its words and strings.
-/

namespace PackageUsage.Source

open Cursor

variable {d : Dialect} {c stop : Cursor} {cs : List Char} {ch : Char}

/-! ## Continued lines -/

/-- No line ends behind a backslash. -/
structure NoLineContinued (cs : List Char) : Prop where
  lineFeed : ¬ "\\\n".toList <:+: cs
  both : ¬ "\\\r\n".toList <:+: cs

instance : DecidablePred NoLineContinued := fun cs =>
  decidable_of_iff (¬ "\\\n".toList <:+: cs ∧ ¬ "\\\r\n".toList <:+: cs)
    ⟨fun h => ⟨h.1, h.2⟩, fun h => ⟨h.lineFeed, h.both⟩⟩

namespace NoLineContinued

theorem of_suffix {more : List Char} (h : NoLineContinued more) (hsuffix : cs <:+ more) :
    NoLineContinued cs where
  lineFeed := fun hpart => h.lineFeed (hpart.trans hsuffix.isInfix)
  both := fun hpart => h.both (hpart.trans hsuffix.isInfix)

theorem tail (h : NoLineContinued (ch :: cs)) : NoLineContinued cs :=
  h.of_suffix (List.suffix_cons ch cs)

theorem head_ne (h : NoLineContinued ('\\' :: cs)) : cs.head? ≠ some '\n' := by
  intro hhead
  obtain ⟨rest, rfl⟩ := List.head?_eq_some_iff.mp hhead
  exact h.lineFeed ⟨[], rest, rfl⟩

theorem not_both (h : NoLineContinued ('\\' :: '\r' :: cs)) : cs.head? ≠ some '\n' := by
  intro hhead
  obtain ⟨rest, rfl⟩ := List.head?_eq_some_iff.mp hhead
  exact h.both ⟨[], rest, rfl⟩

end NoLineContinued

/-! ## Strings -/

/-- In a string no line ends that is not continued. -/
theorem passes_scanStringRest {quote : Char} {escaped : Bool} (hquote : quote ≠ '\n')
    (hrest : c.rest = cs) (h : scanStringRest d quote escaped cs c = some stop) :
    ∃ read, c.Passes read stop ∧
      (NoLineContinued cs → (escaped = true → cs.head? ≠ some '\n') → '\n' ∉ read) := by
  fun_induction scanStringRest d quote escaped cs c with
  | case1 => cases h
  | case2 ch rest c ih =>
    obtain ⟨read, hread, hnone⟩ := ih (rest_step ..) h
    refine ⟨_, .cons hrest hread, fun hcs hescaped => ?_⟩
    have hch : ch ≠ '\n' := fun heq => hescaped rfl (by rw [heq]; rfl)
    exact List.not_mem_cons_of_ne_of_not_mem hch.symm (hnone hcs.tail (by simp))
  | case3 ch rest c heq =>
    cases h
    obtain rfl := beq_iff_eq.mp heq
    exact ⟨_, .single hrest, fun _ _ => by simpa using hquote.symm⟩
  | case4 ch c _ hslash cr more hboth ih =>
    obtain ⟨read, hread, hnone⟩ := ih (rest_step ..) h
    refine ⟨_, .cons hrest (.cons (rest_step ..) hread), fun hcs _ => ?_⟩
    -- the carriage return and the line feed continue a line
    obtain rfl := beq_iff_eq.mp hslash
    simp only [List.head?_cons, List.tail_cons, Bool.and_eq_true, beq_iff_eq,
      Option.some.injEq] at hboth
    obtain ⟨rfl, hfeed⟩ := hboth
    exact absurd hfeed hcs.not_both
  | case5 => cases h
  | case6 ch rest c _ hslash _ _ ih =>
    obtain ⟨read, hread, hnone⟩ := ih (rest_step ..) h
    refine ⟨_, .cons hrest hread, fun hcs _ => ?_⟩
    obtain rfl := beq_iff_eq.mp hslash
    exact List.not_mem_cons_of_ne_of_not_mem (by decide) (hnone hcs.tail fun _ => hcs.head_ne)
  | case7 => cases h
  | case8 => cases h
  | case9 ch rest c _ _ hend ih =>
    obtain ⟨read, hread, hnone⟩ := ih (rest_step ..) h
    refine ⟨_, .cons hrest hread, fun hcs _ => ?_⟩
    have hch : ch ≠ '\n' := by
      rintro rfl
      exact hend rfl
    exact List.not_mem_cons_of_ne_of_not_mem hch.symm (hnone hcs.tail (by simp))

/-! ## Characters that show -/

theorem isTolerantBlank_of_isBlank (h : Text.isBlank ch = true) : isTolerantBlank ch = true := by
  simp only [Text.isBlank, isTolerantBlank, Bool.or_eq_true, Bool.and_eq_true, decide_eq_true_eq,
    beq_iff_eq] at h ⊢
  omega

/-- The characters of ASCII behind the space and before the last one are no blanks. -/
theorem not_isTolerantBlank (h : 33 ≤ ch.toNat) (h' : ch.toNat ≤ 126) :
    isTolerantBlank ch = false := by
  rw [Bool.eq_false_iff]
  intro hblank
  simp only [isTolerantBlank, Bool.or_eq_true, Bool.and_eq_true, decide_eq_true_eq,
    beq_iff_eq] at hblank
  omega

theorem not_isTolerantBlank_of_isDigit (h : ch.isDigit = true) : isTolerantBlank ch = false := by
  simp only [Char.isDigit, Bool.and_eq_true, decide_eq_true_eq, GE.ge,
    UInt32.le_iff_toNat_le] at h
  exact not_isTolerantBlank (le_trans (by decide) h.1) (le_trans h.2 (by decide))

theorem not_isTolerantBlank_of_isHexDigit (h : isHexDigit ch = true) :
    isTolerantBlank ch = false := by
  simp only [isHexDigit, Bool.or_eq_true, Bool.and_eq_true, decide_eq_true_eq] at h
  rcases h with (hdigit | ⟨hlow, hhigh⟩) | ⟨hlow, hhigh⟩
  · exact not_isTolerantBlank_of_isDigit hdigit
  · exact not_isTolerantBlank (le_trans (by decide) hlow) (le_trans hhigh (by decide))
  · exact not_isTolerantBlank (le_trans (by decide) hlow) (le_trans hhigh (by decide))

theorem toNat_of_isNamePart (h : isNamePart ch = true) : 36 ≤ ch.toNat ∧ ch.toNat ≤ 122 := by
  by_cases hstart : isNameStart ch = true
  · have hbounds := toNat_of_isNameStart hstart
    exact ⟨hbounds.1, hbounds.2.1⟩
  · have hdigit : ch.isDigit = true := by
      simp only [isNamePart, isNameStart, Char.isAlphanum, Bool.or_eq_true] at h hstart
      tauto
    simp only [Char.isDigit, Bool.and_eq_true, decide_eq_true_eq, GE.ge,
      UInt32.le_iff_toNat_le] at hdigit
    exact ⟨le_trans (by decide) hdigit.1, le_trans hdigit.2 (by decide)⟩

/-- A character of a word is one of ASCII names, or neither a mark nor a blank. -/
theorem continuesWord_cases (hd : d.strict = false) (h : d.continuesWord ch = true) :
    isNamePart ch = true ∨ isAsciiMark ch = false ∧ isTolerantBlank ch = false := by
  unfold Dialect.continuesWord at h
  rw [hd] at h
  split at h
  · next hpart => exact .inl hpart
  · exact .inr (by simpa using h)

theorem continuesWord_of_startsWord (hd : d.strict = false) (h : d.startsWord ch = true) :
    d.continuesWord ch = true := by
  unfold Dialect.startsWord at h
  split at h
  · next hstart =>
    have hpart : (ch.isAlphanum || ch == '_' || ch == '$') = true := by
      simp only [Char.isAlphanum, Bool.or_eq_true] at hstart ⊢
      tauto
    rw [Dialect.continuesWord, if_pos hpart]
  · split at h
    · cases h
    · rwa [hd, if_neg Bool.false_ne_true] at h

/-- No character of a word is a blank. -/
theorem not_isTolerantBlank_of_continuesWord (hd : d.strict = false)
    (h : d.continuesWord ch = true) : isTolerantBlank ch = false := by
  rcases continuesWord_cases hd h with hpart | ⟨-, hnone⟩
  · have hbounds := toNat_of_isNamePart hpart
    exact not_isTolerantBlank (by omega) (by omega)
  · exact hnone

/-- No character of a word is a blank, a brace or a comma. -/
theorem isFiller_of_continuesWord (hd : d.strict = false) (h : d.continuesWord ch = true) :
    isFiller ch = false := by
  have hmark (c : Char) (hc : c = '\x7b' ∨ c = '\x7d' ∨ c = ',') : (ch == c) = false := by
    rw [beq_eq_false_iff_ne]
    rintro rfl
    unfold Dialect.continuesWord at h
    rw [hd] at h
    rcases hc with rfl | rfl | rfl <;> revert h <;> decide
  have hblank : Text.isBlank ch = false := by
    rw [Bool.eq_false_iff]
    intro hblank
    have hnone := not_isTolerantBlank_of_continuesWord hd h
    rw [isTolerantBlank_of_isBlank hblank] at hnone
    cases hnone
  simp [isFiller, hblank, hmark]

/-! ## Words -/

theorem eq_backslash_of_escapeLength? {length : Nat} (h : escapeLength? (ch :: cs) = some length) :
    ch = '\\' := by
  by_contra hne
  rw [escapeLength?_eq_none hne] at h
  cases h

/-- There are no blanks in an escape. -/
theorem shown_take_of_escapeLength? {pending : Nat}
    (h : escapeLength? (ch :: cs) = some (pending + 1)) :
    ∀ x ∈ cs.take pending, isTolerantBlank x = false := by
  unfold escapeLength? at h
  split at h
  · next rest hsplit =>
    obtain ⟨-, rfl⟩ := List.cons.inj hsplit
    have hshown : ∀ x ∈ rest.takeWhile isHexDigit, isTolerantBlank x = false := fun x hx =>
      not_isTolerantBlank_of_isHexDigit (List.all_eq_true.mp List.all_takeWhile x hx)
    have hrest := List.takeWhile_append_dropWhile (p := isHexDigit) (l := rest)
    dsimp only at h
    generalize rest.takeWhile isHexDigit = digits at h hshown hrest
    split at h
    · next after hafter =>
      cases h
      rw [← hrest, hafter]
      have hu : isTolerantBlank 'u' = false := by decide
      have hopening : isTolerantBlank '\x7b' = false := by decide
      have hclosing : isTolerantBlank '\x7d' = false := by decide
      simpa [List.take_append, List.take_of_length_le, hu, hopening, or_imp, forall_and,
        hclosing] using hshown
    · cases h
  · next w x y z after hsplit =>
    obtain ⟨-, rfl⟩ := List.cons.inj hsplit
    split_ifs at h with hhex
    cases h
    simp only [Bool.and_eq_true] at hhex
    obtain ⟨⟨⟨hw, hx⟩, hy⟩, hz⟩ := hhex
    have hu : isTolerantBlank 'u' = false := by decide
    simp [hu, not_isTolerantBlank_of_isHexDigit hw, not_isTolerantBlank_of_isHexDigit hx,
      not_isTolerantBlank_of_isHexDigit hy, not_isTolerantBlank_of_isHexDigit hz]
  · cases h

theorem passes_scanWordRest (hd : d.strict = false) {pending : Nat} (hrest : c.rest = cs)
    (hpending : ∀ x ∈ cs.take pending, isTolerantBlank x = false) :
    ∃ read, c.Passes read (scanWordRest d pending cs c) ∧
      ∀ x ∈ read, isTolerantBlank x = false := by
  fun_induction scanWordRest d pending cs c with
  | case1 c => exact ⟨[], .nil _, by simp⟩
  | case2 pending ch rest c ih =>
    rw [List.take_succ_cons, List.forall_mem_cons] at hpending
    obtain ⟨read, hread, hshown⟩ := ih (rest_step ..) hpending.2
    exact ⟨_, .cons hrest hread, List.forall_mem_cons.mpr ⟨hpending.1, hshown⟩⟩
  | case3 ch rest c hword ih =>
    obtain ⟨read, hread, hshown⟩ := ih (rest_step ..) (by simp)
    exact ⟨_, .cons hrest hread, List.forall_mem_cons.mpr
      ⟨not_isTolerantBlank_of_continuesWord hd hword, hshown⟩⟩
  | case4 ch rest c _ pending hescape ih =>
    obtain ⟨read, hread, hshown⟩ := ih (rest_step ..) (shown_take_of_escapeLength? hescape)
    obtain rfl := eq_backslash_of_escapeLength? hescape
    exact ⟨_, .cons hrest hread, List.forall_mem_cons.mpr ⟨by decide, hshown⟩⟩
  | case5 => exact ⟨[], .nil _, by simp⟩

/-- The characters of a word show, and there is one that no piece of a name is without. -/
theorem passes_scanWord? (hd : d.strict = false) (h : scanWord? d c = some stop) :
    ∃ read, c.Passes read stop ∧ (∀ x ∈ read, isTolerantBlank x = false) ∧
      ∃ ch ∈ read, isFiller ch = false := by
  unfold scanWord? at h
  split at h
  · cases h
  · next ch rest hrest =>
    split at h
    · next hstarts =>
      cases h
      obtain ⟨read, hread, hshown⟩ : ∃ read,
          (c.step ch rest).Passes read (scanWordRest d 0 rest (c.step ch rest)) ∧
            ∀ x ∈ read, isTolerantBlank x = false :=
        passes_scanWordRest hd (c.rest_step ch rest) (by simp)
      have hcontinues := continuesWord_of_startsWord hd hstarts
      exact ⟨_, .cons hrest hread, List.forall_mem_cons.mpr
        ⟨not_isTolerantBlank_of_continuesWord hd hcontinues, hshown⟩, ch, List.mem_cons_self,
        isFiller_of_continuesWord hd hcontinues⟩
    · split at h
      · next pending hescape =>
        cases h
        rw [hrest] at hescape
        obtain ⟨read, hread, hshown⟩ : ∃ read,
            (c.step ch rest).Passes read (scanWordRest d pending rest (c.step ch rest)) ∧
              ∀ x ∈ read, isTolerantBlank x = false :=
          passes_scanWordRest hd (c.rest_step ch rest) (shown_take_of_escapeLength? hescape)
        obtain rfl := eq_backslash_of_escapeLength? hescape
        exact ⟨_, .cons hrest hread, List.forall_mem_cons.mpr ⟨by decide, hshown⟩, _,
          List.mem_cons_self, by decide⟩
      · cases h

/-! ## Lexemes -/

theorem scanWord?_of_scanKind {w : String} (h : scanKind d c = (.word w, stop)) :
    scanWord? d c = some stop ∧ c.textTo stop = w := by
  unfold scanKind at h
  split at h
  · cases h
  · split at h
    · split at h <;> cases h
    · split at h
      · next hword =>
        cases h
        exact ⟨hword, rfl⟩
      · split at h
        · split at h <;> cases h
        · split at h
          · split at h <;> cases h
          · split at h <;> cases h

theorem scanStringRest_of_scanKind (h : scanKind d c = (.string, stop)) :
    ∃ quote rest, c.rest = quote :: rest ∧ quote ≠ '\n' ∧
      scanStringRest d quote false rest (c.step quote rest) = some stop := by
  unfold scanKind at h
  split at h
  · cases h
  · next quote rest hrest =>
    split at h
    · next hquote =>
      split at h
      · next hstring =>
        cases h
        refine ⟨quote, rest, hrest, ?_, hstring⟩
        rintro rfl
        cases hquote
      · cases h
    · split at h
      · cases h
      · split at h
        · split at h <;> cases h
        · split at h
          · split at h <;> cases h
          · split at h <;> cases h

/-! ## Leaves -/

/-- The lexemes that leaves of a kind are made of. -/
inductive NodeKind.MadeOf : NodeKind → LexemeKind → Prop
  | identifier (w : String) : MadeOf .identifier (.word w)
  | string : MadeOf .string .string

theorem NodeKind.MadeOf.identifier_or_string {kind : NodeKind} {made : LexemeKind}
    (h : kind.MadeOf made) : kind = .identifier ∨ kind = .string := by
  cases h with
  | identifier _ => exact .inl rfl
  | string => exact .inr rfl

/-- How the text of a node is spelled: there is none, which for a word is to say that it is missing,
or the node is a leaf made of a lexeme. -/
inductive Tree.Spelled (text : Cursor) (t : Tree) : Prop
  | empty (htext : t.text = "") (hword : t.kind = .identifier → t.info.missing = true)
  | leaf {d : Dialect} {l : Lexeme} (hd : d.strict = false) (hstart : text ≤ l.start)
      (hscan : scanKind d l.start = (l.kind, l.stop)) (hkind : t.kind.MadeOf l.kind)
      (htext : t.text = l.text)

namespace Tree.Spelled

variable {text : Cursor} {t : Tree}

theorem suffix_of_le {c' : Cursor} (h : c ≤ c') : c'.rest <:+ c.rest := by
  obtain ⟨cs, h⟩ := h
  exact ⟨cs, h.rest_eq.symm⟩

/-- No line ends in a leaf of a text in which no line is continued. -/
theorem not_mem_text (h : t.Spelled text) (htext : NoLineContinued text.rest) :
    '\n' ∉ t.text.toList := by
  cases h with
  | empty hnone => simp [hnone]
  | @leaf d l hd hstart hscan hkind hspelled =>
    obtain ⟨read, hread, hnone⟩ : ∃ read, l.start.Passes read l.stop ∧ '\n' ∉ read := by
      generalize l.kind = made at hscan hkind
      generalize t.kind = kind at hkind
      cases hkind with
      | identifier w =>
        obtain ⟨read, hread, hshown, -⟩ := passes_scanWord? hd (scanWord?_of_scanKind hscan).1
        exact ⟨read, hread, fun hfeed => Bool.false_ne_true (hshown _ hfeed).symm⟩
      | string =>
        obtain ⟨quote, rest, hrest, hquote, hstring⟩ := scanStringRest_of_scanKind hscan
        obtain ⟨read, hread, hnone⟩ :=
          passes_scanStringRest hquote (l.start.rest_step quote rest) hstring
        have hcontinued : NoLineContinued (quote :: rest) :=
          hrest ▸ htext.of_suffix (suffix_of_le hstart)
        exact ⟨_, .cons hrest hread, List.not_mem_cons_of_ne_of_not_mem hquote.symm
          (hnone hcontinued.tail (by simp))⟩
    rw [hspelled, Lexeme.text, hread.textTo_eq, String.toList_ofList]
    exact hnone

/-- An identifier is missing, or it is written and has a piece. -/
theorem missing_or_exists_not_isFiller (h : t.Spelled text) (hkind : t.kind = .identifier) :
    t.text = "" ∧ t.info.missing = true ∨ ∃ c ∈ t.text.toList, isFiller c = false := by
  cases h with
  | empty hnone hword => exact .inl ⟨hnone, hword hkind⟩
  | @leaf d l hd hstart hscan hmade hspelled =>
    rw [hkind] at hmade
    generalize l.kind = made at hscan hmade
    cases hmade with
    | identifier w =>
      obtain ⟨read, hread, -, hshows⟩ := passes_scanWord? hd (scanWord?_of_scanKind hscan).1
      rw [hspelled, Lexeme.text, hread.textTo_eq, String.toList_ofList]
      exact .inr hshows

end Tree.Spelled

end PackageUsage.Source
