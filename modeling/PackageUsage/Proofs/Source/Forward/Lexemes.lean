import PackageUsage.Proofs.Source.Forward.Reached

/-!
# Where lexemes end

Reading starts again behind every lexeme, and behind what the scanners for single rules read.
-/

namespace PackageUsage.Source

open Cursor

variable {text c stop : Cursor} {cs : List Char} {d : Dialect}

/-! ## Lexemes -/

theorem reached_of_scanWord? (hd : d.strict = false) (hc : text ≤ c)
    (h : scanWord? d c = some stop) : text.Reached stop := by
  obtain ⟨read, hread, hshown, ch, hmem, -⟩ := passes_scanWord? hd h
  exact .of_passes hc hread (List.ne_nil_of_mem hmem) hshown

/-- A string ends with its quote. -/
theorem reached_of_scanStringRest {quote : Char} {escaped : Bool}
    (hquote : isTolerantBlank quote = false) (hc : text ≤ c) (hrest : c.rest = cs)
    (h : scanStringRest d quote escaped cs c = some stop) : text.Reached stop := by
  fun_induction scanStringRest d quote escaped cs c with
  | case1 => cases h
  | case2 c ch rest ih => exact ih (hc.trans (le_step hrest)) (rest_step ..) h
  | case3 c ch rest heq =>
    cases h
    exact .shown hc hrest (beq_iff_eq.mp heq ▸ hquote)
  | case4 c ch _ _ cr more _ ih =>
    have hmore := (le_step hrest).trans (le_step (rest_step ..))
    exact ih (hc.trans hmore) (rest_step ..) h
  | case5 => cases h
  | case6 c ch rest _ _ _ _ ih => exact ih (hc.trans (le_step hrest)) (rest_step ..) h
  | case7 => cases h
  | case8 => cases h
  | case9 c ch rest _ _ _ ih => exact ih (hc.trans (le_step hrest)) (rest_step ..) h

theorem passes_skip {c : Cursor} {rest : List Char} (h : c.rest = cs ++ rest) :
    c.Passes cs (c.skip cs.length) := by
  induction cs generalizing c with
  | nil => exact .nil c
  | cons ch cs ih =>
    rw [List.length_cons, Cursor.skip, next_eq_step h]
    exact .cons h (ih (rest_step ..))

/-- A mark is one of the list, and stands where it is found. -/
theorem prefix_of_scanMark? {m : String} (h : scanMark? c = some m) :
    m.toList <+: c.rest ∧ m ∈ longMarks ++ shortMarks.map String.singleton := by
  have hlong {m : String} (hfind : longMarks.find? c.startsWith = some m) :
      m.toList <+: c.rest ∧ m ∈ longMarks ++ shortMarks.map String.singleton :=
    ⟨List.isPrefixOf_iff_prefix.mp (List.find?_some hfind : c.startsWith m = true),
      List.mem_append_left _ (List.mem_of_find?_eq_some hfind)⟩
  unfold scanMark? at h
  split at h
  · next hfind =>
    have hmark := hlong hfind
    split at h
    · split_ifs at h <;> cases h
      · exact ⟨(by decide : "?".toList <+: "?.".toList).trans hmark.1, by decide⟩
      · exact hmark
    · cases h
      exact hmark
  · next hfind =>
    cases h
    exact hlong hfind
  · split at h
    · next ch rest hrest =>
      split_ifs at h with hshort
      cases h
      refine ⟨by simp [hrest], List.mem_append_right _ (List.mem_map_of_mem ?_)⟩
      simpa using hshort
    · cases h

/-- No mark has blanks in it. -/
theorem shown_mark {m : String} (h : m ∈ longMarks ++ shortMarks.map String.singleton) :
    m.toList ≠ [] ∧ ∀ ch ∈ m.toList, isTolerantBlank ch = false := by
  have hmarks : ∀ m ∈ longMarks ++ shortMarks.map String.singleton,
      m.toList ≠ [] ∧ m.toList.any isTolerantBlank = false := by
    decide
  simpa using hmarks m h

theorem reached_of_scanMark? {m : String} (hc : text ≤ c) (h : scanMark? c = some m) :
    text.Reached (c.skip m.length) := by
  obtain ⟨⟨rest, hrest⟩, hmark⟩ := prefix_of_scanMark? h
  rw [← String.length_toList]
  exact .of_passes hc (passes_skip hrest.symm) (shown_mark hmark).1 (shown_mark hmark).2

theorem reached_scanKind (hd : d.strict = false) (hc : text ≤ c)
    (hshown : ∀ ch ∈ c.rest.head?, isTolerantBlank ch = false) :
    text.Reached (scanKind d c).2 := by
  have hnext : text.Reached c.next := .next hc hshown
  unfold scanKind
  split
  · next hrest => exact .lineEnd hc (by simp [hrest])
  · next ch rest hrest =>
    split
    · split
      · next stop hstring =>
        exact reached_of_scanStringRest (hshown ch (by simp [hrest])) (hc.trans (le_step hrest))
          (rest_step ..) hstring
      · exact hnext
    · split
      · next stop hword => exact reached_of_scanWord? hd hc hword
      · split
        · next stop hnumber =>
          split
          · exact hnext
          · exact reached_of_scanNumber? hc hnumber
        · split
          · split
            · next stop hword => exact reached_of_scanWord? hd hnext.le hword
            · exact hnext
          · split
            · next m hmark => exact reached_of_scanMark? hc hmark
            · exact hnext

/-- Blanks and comments end before a character that shows. -/
theorem Trivia.head_place_read (hd : d.strict = false) {t : Trivia} (hrest : t.place.rest = cs)
    (hopening : ∀ star, t.mode = .blockComment star → t.opening.rest.head? = some '/') :
    ∀ ch ∈ (Trivia.read d cs t).place.rest.head?, isTolerantBlank ch = false := by
  induction cs generalizing t with
  | nil =>
    rw [Trivia.read]
    split
    · next star hmode =>
      rw [hopening star hmode]
      simp
      decide
    · simp [hrest]
  | cons ch rest ih =>
    unfold Trivia.read
    split
    · next hmode =>
      split_ifs with hblank hline hblock
      · exact ih (rest_step ..) (by simp [hmode])
      · exact ih (rest_step ..) (by simp)
      · refine ih (rest_step ..) fun _ _ => ?_
        simp only [Bool.and_eq_true, beq_iff_eq] at hblock
        simp [hrest, hblock.1]
      · simpa [hrest, Dialect.isBlank, hd] using hblank
    · next hmode =>
      split_ifs
      · exact ih (rest_step ..) (by simp)
      · exact ih (rest_step ..) (by simp [hmode])
    · next star hmode =>
      split
      · exact ih (rest_step ..) (by simp)
      · exact ih (rest_step ..) fun _ _ => hopening star hmode

theorem head_start_lexeme (hd : d.strict = false) (c : Cursor) :
    ∀ ch ∈ (lexeme d c).start.rest.head?, isTolerantBlank ch = false :=
  Trivia.head_place_read hd rfl (by simp)

/-! ## Scanners for single rules -/

theorem reached_of_scanRegexBody {escaped inClass : Bool} (hc : text ≤ c) (hrest : c.rest = cs)
    (h : scanRegexBody escaped inClass cs c = some stop) : text.Reached stop := by
  fun_induction scanRegexBody escaped inClass cs c with
  | case1 => cases h
  | case2 => cases h
  | case3 inClass c ch rest _ ih => exact ih (hc.trans (le_step hrest)) (rest_step ..) h
  | case4 => cases h
  | case5 inClass c ch rest _ _ ih => exact ih (hc.trans (le_step hrest)) (rest_step ..) h
  | case6 inClass c ch rest _ _ _ ih => exact ih (hc.trans (le_step hrest)) (rest_step ..) h
  | case7 inClass c ch rest _ _ _ _ ih => exact ih (hc.trans (le_step hrest)) (rest_step ..) h
  | case8 inClass ch rest c _ _ _ _ hslash =>
    cases h
    simp only [Bool.and_eq_true, beq_iff_eq] at hslash
    exact .shown hc hrest (by rw [hslash.1]; decide)
  | case9 inClass c ch rest _ _ _ _ _ ih => exact ih (hc.trans (le_step hrest)) (rest_step ..) h

theorem reached_of_scanRegex (hc : text ≤ c) (h : scanRegex c = some stop) :
    text.Reached stop := by
  unfold scanRegex at h
  split at h
  · next rest hrest =>
    obtain ⟨body, hbody, rfl⟩ := Option.map_eq_some_iff.mp h
    have hnext : c.next.rest = rest := by rw [next_eq_step hrest, rest_step]
    refine (reached_of_scanRegexBody (hc.trans c.le_next) hnext hbody).skipWhile fun ch hch => ?_
    have hpart : isNamePart ch = true := by simp [isNamePart, Char.isAlphanum, hch]
    have hbounds := toNat_of_isNamePart hpart
    exact not_isTolerantBlank (by omega) (by omega)
  · cases h

/-- Template text ends with a backtick or an opening brace. -/
theorem reached_of_scanTemplateText {escaped closed : Bool} (hc : text ≤ c) (hrest : c.rest = cs)
    (h : scanTemplateText d escaped cs c = some (closed, stop)) : text.Reached stop := by
  fun_induction scanTemplateText d escaped cs c with
  | case1 => cases h
  | case2 c ch rest ih => exact ih (hc.trans (le_step hrest)) (rest_step ..) h
  | case3 c ch rest htick =>
    cases h
    exact .shown hc hrest (not_isTolerantBlank (by omega) (by omega))
  | case4 c ch rest _ _ _ ih => exact ih (hc.trans (le_step hrest)) (rest_step ..) h
  | case5 => cases h
  | case6 ch rest c _ _ hopening =>
    cases h
    simp only [Bool.and_eq_true, beq_iff_eq] at hopening
    refine .next (hc.trans (le_step hrest)) ?_
    rw [rest_step, hopening.2]
    simp
    decide
  | case7 c ch rest _ _ _ ih => exact ih (hc.trans (le_step hrest)) (rest_step ..) h

end PackageUsage.Source
