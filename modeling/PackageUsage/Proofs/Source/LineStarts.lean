import PackageUsage.Proofs.Collect
import PackageUsage.Proofs.Source.Fault

/-!
# Modules lost behind the end of a line

An exported list ends with its line: a word `from` that starts the next line leads to no module. So
a text in which every `from` starts a line has no records, as long as it has no imports and exports
no whole module. This is so of whatever tree the text has, also of one whose faults were repaired.
-/

namespace PackageUsage.Source

open Cursor

variable {text c : Cursor} {cs rest : List Char} {d : Dialect} {ch : Char}

/-! ## Words that start a line -/

/-- Whether only blanks stand before the next character on its line, behind a character. -/
def staysFirst (first : Bool) (ch : Char) : Bool :=
  ch == '\n' || (first && isAsciiBlank ch)

/-- Whether each word `from` is the first of its line. `first` says that only blanks stand before
the characters that are left. -/
def fromStartsLines : (first : Bool) → List Char → Bool
  | _, [] => true
  | first, ch :: rest =>
    (first || !"from".toList.isPrefixOf (ch :: rest)) && fromStartsLines (staysFirst first ch) rest

theorem fromStartsLines_append {first : Bool} (h : fromStartsLines first (cs ++ rest) = true) :
    fromStartsLines (cs.foldl staysFirst first) rest = true := by
  induction cs generalizing first with
  | nil => exact h
  | cons ch cs ih =>
    rw [List.cons_append, fromStartsLines, Bool.and_eq_true] at h
    exact ih h.2

theorem first_of_fromStartsLines {first : Bool}
    (h : fromStartsLines first ("from".toList ++ rest) = true) : first = true := by
  have hhead : (first || !"from".toList.isPrefixOf ("from".toList ++ rest)) = true :=
    (Bool.and_eq_true _ _ ▸ h).1
  simpa using hhead

/-- Behind a character that shows, only the end of a line leads to the start of one. -/
theorem mem_of_foldl_staysFirst (h : cs.foldl staysFirst false = true) : '\n' ∈ cs := by
  induction cs with
  | nil => cases h
  | cons ch cs ih =>
    by_cases hch : ch = '\n'
    · exact hch ▸ List.mem_cons_self
    · rw [List.foldl_cons, staysFirst, Bool.false_and, Bool.or_false,
        beq_eq_false_iff_ne.mpr hch] at h
      exact List.mem_cons_of_mem _ (ih h)

/-! ## Blanks and comments without stars -/

namespace Trivia

/-- A character is passed over outside of block comments, and noticed if it is a line feed. -/
structure Notices (ch : Char) (rest : List Char) (t t' : Trivia) : Prop where
  place : t'.place = t.place.step ch rest
  mode : t'.mode = .blank ∨ t'.mode = .lineComment
  clean : t'.clean = true
  lineBreak : t.lineBreak = true ∨ ch = '\n' → t'.lineBreak = true

variable {t : Trivia}

theorem read_cons_blank (hd : d.strict = false) (hmode : t.mode = .blank)
    (hclean : t.clean = true) (hstar : rest.head? ≠ some '*')
    (hblank : isTolerantBlank ch = true → isAsciiBlank ch = true) :
    read d (ch :: rest) t = t ∨
      ∃ t', read d (ch :: rest) t = read d rest t' ∧ Notices ch rest t t' := by
  by_cases hch : d.isBlank ch = true
  · have hascii : isAsciiBlank ch = true :=
      hblank (by simpa [Dialect.isBlank, hd] using hch)
    refine .inr ⟨_, read_blank hmode hch, rfl, .inl hmode, ?_, ?_⟩
    · simp [hclean, hascii]
    · rintro (hbefore | rfl)
      · simp [hbefore]
      · simp [hclean, Dialect.breaksLine, hd]
  · by_cases hcomment : (ch == '/' && rest.head? == some '/') = true
    · refine .inr ⟨{ t with place := t.place.step ch rest, mode := .lineComment },
        ?_, rfl, .inr rfl, hclean, ?_⟩
      · rw [read, hmode]
        simp [hch, hcomment]
      · rintro (hbefore | rfl)
        · exact hbefore
        · cases hcomment
    · refine .inl ?_
      rw [read, hmode]
      simp only [hch, hcomment, hstar, beq_iff_eq, Bool.and_eq_true, and_false,
        Bool.false_eq_true, if_false]

theorem read_cons_lineComment (hd : d.strict = false) (hmode : t.mode = .lineComment)
    (hclean : t.clean = true) :
    ∃ t', read d (ch :: rest) t = read d rest t' ∧ Notices ch rest t t' := by
  by_cases hend : isLineEnd ch = true
  · refine ⟨{ t with
        place := t.place.step ch rest, mode := .blank
        lineBreak := t.lineBreak || d.breaksLine ch, clean := true },
      ?_, rfl, .inl rfl, rfl, ?_⟩
    · rw [read, hmode]
      simp [hend]
    · rintro (hbefore | rfl)
      · simp [hbefore]
      · simp [Dialect.breaksLine, hd]
  · refine ⟨_, read_line_text hmode (by simpa using hend), rfl, .inr hmode, hclean, ?_⟩
    rintro (hbefore | rfl)
    · exact hbefore
    · exact absurd rfl hend

/-- Where there are no block comments, and no blanks but those of ASCII, no line feed is missed. -/
theorem exists_passes_read (hd : d.strict = false) (hrest : t.place.rest = cs)
    (hmode : t.mode = .blank ∨ t.mode = .lineComment) (hclean : t.clean = true) (hstar : '*' ∉ cs)
    (hblanks : ∀ ch ∈ cs, isTolerantBlank ch = true → isAsciiBlank ch = true) :
    ∃ passed, t.place.Passes passed (read d cs t).place ∧
      (t.lineBreak = true ∨ '\n' ∈ passed → (read d cs t).lineBreak = true) := by
  induction cs generalizing t with
  | nil =>
    have hread : read d [] t = t := by
      rw [read]
      rcases hmode with hmode | hmode <;> rw [hmode]
    rw [hread]
    exact ⟨[], .nil t.place, by simp⟩
  | cons ch rest ih =>
    rw [List.mem_cons, not_or] at hstar
    rw [List.forall_mem_cons] at hblanks
    have hstep : read d (ch :: rest) t = t ∨
        ∃ t', read d (ch :: rest) t = read d rest t' ∧ Notices ch rest t t' := by
      rcases hmode with hmode | hmode
      · exact read_cons_blank hd hmode hclean (fun h => hstar.2 (List.mem_of_head? h)) hblanks.1
      · exact .inr (read_cons_lineComment hd hmode hclean)
    rcases hstep with hread | ⟨t', hread, hstep⟩
    · rw [hread]
      exact ⟨[], .nil t.place, by simp⟩
    · have hrest' : t'.place.rest = rest := by rw [hstep.place, rest_step]
      obtain ⟨passed, hpassed, hnoticed⟩ := ih hrest' hstep.mode hstep.clean hstar.2 hblanks.2
      rw [hread]
      refine ⟨ch :: passed, .cons hrest (hstep.place ▸ hpassed), ?_⟩
      rintro (hbefore | hfeed)
      · exact hnoticed (.inl (hstep.lineBreak (.inl hbefore)))
      · rcases List.mem_cons.mp hfeed with rfl | hfeed
        · exact hnoticed (.inl (hstep.lineBreak (.inr rfl)))
        · exact hnoticed (.inr hfeed)

end Trivia

/-! ## Texts that lose their modules -/

/-- No declaration of the text names a module: each word `from` starts a line, and there are no
imports and no stars. There is no markup and no line for the system either, in which reading may
start again behind a blank, and all blanks are those of ASCII. -/
structure LosesModules (text : Cursor) : Prop where
  fromFirst : fromStartsLines false text.rest = true
  unimported : ¬"import".toList <:+: text.rest
  starless : '*' ∉ text.rest
  unmarked : '<' ∉ text.rest
  unsystematic : ¬"#!".toList <:+: text.rest
  blanks : ∀ ch ∈ text.rest, isTolerantBlank ch = true → isAsciiBlank ch = true

theorem losesModules_iff : LosesModules text ↔
    fromStartsLines false text.rest = true ∧ ¬"import".toList <:+: text.rest ∧
      '*' ∉ text.rest ∧ '<' ∉ text.rest ∧ ¬"#!".toList <:+: text.rest ∧
      (text.rest.filter isTolerantBlank).all isAsciiBlank = true := by
  simp only [List.all_eq_true, List.mem_filter, and_imp]
  constructor
  · rintro ⟨hfrom, himport, hstar, hmark, hsystem, hblanks⟩
    exact ⟨hfrom, himport, hstar, hmark, hsystem, hblanks⟩
  · rintro ⟨hfrom, himport, hstar, hmark, hsystem, hblanks⟩
    exact ⟨hfrom, himport, hstar, hmark, hsystem, hblanks⟩

instance (text : Cursor) : Decidable (LosesModules text) :=
  decidable_of_iff' _ losesModules_iff

theorem isTolerantBlank_of_isAsciiBlank (h : isAsciiBlank ch = true) :
    isTolerantBlank ch = true := by
  simp only [isAsciiBlank, isTolerantBlank, Bool.or_eq_true] at h ⊢
  tauto

/-- A character that shows is not at the start of its line any more. -/
theorem staysFirst_of_shown {first : Bool} (h : isTolerantBlank ch = false) :
    staysFirst first ch = false := by
  have hascii : isAsciiBlank ch = false :=
    Bool.eq_false_iff.mpr fun hblank => by simp [isTolerantBlank_of_isAsciiBlank hblank] at h
  have hfeed : ch ≠ '\n' := by
    rintro rfl
    cases h
  simp [staysFirst, hascii, hfeed]

namespace LosesModules

/-- The way to a word `from` leads over the end of a line. -/
theorem mem_passed (h : LosesModules text) (hc : text.Reached c) {start : Cursor}
    (hpassed : c.Passes cs start) (hword : start.rest = "from".toList ++ rest) : '\n' ∈ cs := by
  have hrest : c.rest = cs ++ ("from".toList ++ rest) := hword ▸ hpassed.rest_eq
  have hfirst := h.fromFirst
  cases hc with
  | start =>
    rw [hrest] at hfirst
    exact mem_of_foldl_staysFirst (first_of_fromStartsLines (fromStartsLines_append hfirst))
  | @shown c ch more hc hshown hch =>
    obtain ⟨before, hbefore⟩ := hc
    rw [rest_step] at hrest
    rw [hbefore.rest_eq, hshown, hrest] at hfirst
    have hbehind := (Bool.and_eq_true _ _ ▸ fromStartsLines_append hfirst).2
    rw [staysFirst_of_shown hch] at hbehind
    exact mem_of_foldl_staysFirst (first_of_fromStartsLines (fromStartsLines_append hbehind))
  | lineEnd _ hend =>
    cases cs with
    | nil => exact absurd (hend 'f' (by simp [hrest])) (by decide)
    | cons ch cs =>
      obtain rfl := hend ch (by simp [hrest])
      exact List.mem_cons_self
  | raw _ hraw =>
    rcases hraw.marked with hmark | hsystem
    · exact absurd hmark h.unmarked
    · exact absurd hsystem h.unsystematic

theorem lineBreak_lexeme (h : LosesModules text) (hd : d.strict = false) (hc : text.Reached c)
    (hkind : (lexeme d c).kind = .word "from") : (lexeme d c).lineBreak = true := by
  have hsuffix : c.rest ⊆ text.rest := (Tree.Spelled.suffix_of_le hc.le).subset
  have hstar : '*' ∉ c.rest := fun hstar => h.starless (hsuffix hstar)
  obtain ⟨passed, hpassed, hnoticed⟩ :=
    Trivia.exists_passes_read (t := { place := c, opening := c }) hd rfl (.inl rfl) rfl hstar
      fun ch hch => h.blanks ch (hsuffix hch)
  have hword : (lexeme d c).start.Passes "from".toList (lexeme d c).stop :=
    passes_of_scanKind_word hd (Prod.ext hkind rfl)
  have hfeed : '\n' ∈ passed := h.mem_passed hc hpassed hword.rest_eq
  have hbreak : (Trivia.of d c).lineBreak = true := hnoticed (.inr hfeed)
  simp [lexeme, hbreak]

theorem endsStatement_lexeme (h : LosesModules text) (hd : d.strict = false) (hc : text.Reached c)
    (hkind : (lexeme d c).kind = .word "from") (d' : Dialect) :
    Grammar.endsStatement d' false (lexeme d c) = true := by
  have hbreak := h.lineBreak_lexeme hd hc hkind
  have hword := passes_of_scanKind_word hd (c := (lexeme d c).start) (Prod.ext hkind rfl)
  have hgoes : Grammar.continuesStatement d'.types false (lexeme d c).start.rest = false := by
    rw [hword.rest_eq]
    rfl
  have hany : (lexeme d c).reading = .any := rfl
  simp [Grammar.endsStatement, hany, hkind, hbreak, hgoes]

theorem not_sourced (h : LosesModules text) : ¬text.Sourced := by
  rintro ⟨l, hl, hnamed⟩
  cases hnamed with
  | word_import hkind =>
    exact h.unimported (hl.isInfix (.inl hkind) (by rw [hkind]; decide))
  | star hkind =>
    exact h.starless ((hl.isInfix (.inr hkind) (by rw [hkind]; decide)).subset (by decide))
  | @word_from d' hkind hgoes =>
    cases hl with
    | supposed hsupposable => simp [hkind, Job.supposable] at hsupposable
    | written hd hc hlexeme =>
      subst hlexeme
      rw [h.endsStatement_lexeme hd hc hkind d'] at hgoes
      cases hgoes

/-- Whatever tree the text has, it holds no records. -/
theorem record?_eq_none {source path : String} {tree node : Tree}
    (h : LosesModules (ofText source)) (hparse : parse path source = .ok tree)
    (hnode : node ∈ tree.preorder) (file : String) (matcher : Matcher) :
    node.record? file matcher = none := by
  by_contra hsome
  obtain ⟨r, hr⟩ := Option.ne_none_iff_exists'.mp hsome
  obtain ⟨-, specifier, -, hspecifier, -⟩ := (Tree.record?_eq_some_iff file matcher node r).mp hr
  obtain ⟨-, leaf, hleaf, -⟩ := (Tree.specifier?_eq_some_iff node specifier).mp hspecifier
  have hfound : node.children.find? (fun c => c.info.role == some .source) = some leaf := hleaf
  have hrole : leaf.info.role = some .source := by simpa using List.find?_some hfound
  have hmem : leaf ∈ tree.preorder := Tree.preorder_subset hnode
    (Tree.mem_preorder_of_mem_children (List.mem_of_find?_eq_some hfound))
  exact h.not_sourced (((ofText_of_parse hparse).fits leaf hmem).allowed.sourced hrole)

end LosesModules

/-- A well-formed text is accepted with the tree it has, faulty or not. Where each `from` starts a
line and nothing else leads to a module, no declaration of it is recorded. -/
theorem collect_of_losesModules {path source : String} {language : Language}
    (hpath : Language.ofPath? path = some language) (hwell : isWellFormed path source = true)
    (h : LosesModules (ofText source)) (file : String) (matcher : Matcher)
    (records : List Record) :
    ∃ tree, parse path source = .ok tree ∧ collect file matcher tree records = records := by
  have hparse : parse path source = .ok (treeOfText language source) := by
    rw [parse_of_language hpath, hwell]
    simp
  refine ⟨_, hparse, ?_⟩
  have hnone : (treeOfText language source).preorder.filterMap (Tree.record? file matcher) = [] :=
    List.filterMap_eq_nil_iff.mpr fun node hnode =>
      h.record?_eq_none hparse hnode file matcher
  rw [collect_eq_append, hnone, List.append_nil]

namespace LineStartSample

/-- A list whose module is named on the next line, which is no statement. -/
def broken : String :=
  "export \x7b x \x7d\nfrom 'pkg';\n"

end LineStartSample

open LineStartSample in
example : (treeOfText .typescript broken).hasFault = true ∧
    ∃ tree, parse "a.ts" broken = .ok tree ∧
      collect "a.ts" (.start "pkg".toList) tree [] = [] :=
  ⟨by decide +kernel, collect_of_losesModules
    (by decide +kernel : Language.ofPath? "a.ts" = some .typescript) (by decide +kernel)
    (by decide +kernel) "a.ts" (.start "pkg".toList) []⟩

end PackageUsage.Source
