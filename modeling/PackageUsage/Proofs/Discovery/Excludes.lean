import PackageUsage.Proofs.Discovery.Includes

/-!
# Exclude patterns

Exclude patterns only remove. A walk comes upon a file exactly if the walk without exclude rules
does and no rule keeps the file out, by its own path or by that of a directory on the way to it.
What a rule keeps out does not depend on the other rules, so no rule brings back what another one
has kept out, and two lists of patterns leave together what both of them leave.
-/

namespace PackageUsage

/-! ## What a rule keeps out -/

/-- A rule matches an entry at a path. -/
def IgnoreRule.Matches (rule : IgnoreRule) (path : String) (isDirectory : Bool) : Prop :=
  ((!rule.onlyDirectories || isDirectory) && rule.glob.accepts path) = true

/-- A rule matches a directory on the way to the end of some names, or at their end. -/
def IgnoreRule.Bars (rule : IgnoreRule) (names : List String) : Prop :=
  ∃ above below, above ≠ [] ∧ names = above ++ below ∧ rule.Matches ("/".intercalate above) true

/-- A rule matches a file with some names from the scan root on, or a directory on the way to it. -/
def IgnoreRule.KeepsOut (rule : IgnoreRule) (names : List String) : Prop :=
  rule.Matches ("/".intercalate names) false ∨ rule.Bars names.dropLast

theorem IgnoreRules.isSome_verdict?_iff {r : IgnoreRules} {path : String} {isDirectory : Bool} :
    (r.verdict? path isDirectory).isSome = true ↔
      ∃ rule ∈ r.rules, rule.Matches path isDirectory := by
  rw [verdict?, Option.isSome_map, List.find?_isSome]
  simp only [List.mem_reverse]
  exact Iff.rfl

theorem IgnoreRule.bars_concat_iff {rule : IgnoreRule} {names : List String} {name : String} :
    rule.Bars (names ++ [name]) ↔
      rule.Bars names ∨ rule.Matches ("/".intercalate (names ++ [name])) true := by
  constructor
  · rintro ⟨above, below, hne, hnames, hmatches⟩
    rcases List.eq_nil_or_concat below with rfl | ⟨more, last, rfl⟩
    · rw [List.append_nil] at hnames
      rw [hnames]
      exact Or.inr hmatches
    · rw [List.concat_eq_append, ← List.append_assoc] at hnames
      obtain ⟨hnames, -⟩ := List.append_inj' hnames rfl
      exact Or.inl ⟨above, more, hne, hnames, hmatches⟩
  · rintro (⟨above, below, hne, rfl, hmatches⟩ | hmatches)
    · exact ⟨above, below ++ [name], hne, List.append_assoc _ _ _, hmatches⟩
    · exact ⟨names ++ [name], [], by simp, (List.append_nil _).symm, hmatches⟩

namespace Discovery

namespace Survey

variable {s : Survey} {way : List Folder} {folder : Folder} {name : String} {node : FileNode}

/-! ## The walk without exclude rules -/

/-- The same walk with other exclude rules. -/
def excluding (s : Survey) (excludes : IgnoreRules) : Survey :=
  { s with excludes }

theorem skips_eq_false_iff {levels : List Level} {names : List String} {isDirectory : Bool} :
    s.skips levels names isDirectory = false ↔
      (s.excluding {}).skips levels names isDirectory = false ∧
        ∀ rule ∈ s.excludes.rules, ¬ rule.Matches ("/".intercalate names) isDirectory := by
  have hempty : (s.excluding {}).skips levels names isDirectory =
      (verdict? levels names isDirectory == some .ignored) := rfl
  have hrules : (s.excludes.verdict? ("/".intercalate names) isDirectory).isSome = false ↔
      ∀ rule ∈ s.excludes.rules, ¬ rule.Matches ("/".intercalate names) isDirectory := by
    rw [Bool.eq_false_iff, Ne, IgnoreRules.isSome_verdict?_iff]
    push Not
    exact Iff.rfl
  rw [hempty, skips, Bool.or_eq_false_iff, hrules]
  exact and_comm

/-- One step of a walk: the step without exclude rules, and no rule matches the directory. -/
theorem visit_eq_entered_iff_excluding {next : Folder} :
    s.visit way folder name node = .entered next ↔
      (s.excluding {}).visit way folder name node = .entered next ∧
        ∀ rule ∈ s.excludes.rules,
          ¬ rule.Matches ("/".intercalate (folder.names ++ [name])) true := by
  rw [visit_eq_entered_iff, visit_eq_entered_iff]
  constructor
  · rintro ⟨place, hentry, hskips, hnext⟩
    obtain ⟨hbare, hrules⟩ := skips_eq_false_iff.mp hskips
    exact ⟨⟨place, hentry.congr rfl rfl rfl rfl, hbare, hnext⟩, hrules⟩
  · rintro ⟨⟨place, hentry, hbare, hnext⟩, hrules⟩
    exact ⟨place, hentry.congr rfl rfl rfl rfl, skips_eq_false_iff.mpr ⟨hbare, hrules⟩, hnext⟩

theorem visit_eq_file_iff_excluding {names : List String} :
    s.visit way folder name node = .found (.file names) ↔
      (s.excluding {}).visit way folder name node = .found (.file names) ∧
        ∀ rule ∈ s.excludes.rules, ¬ rule.Matches ("/".intercalate names) false := by
  rw [visit_eq_file_iff, visit_eq_file_iff]
  constructor
  · rintro ⟨hentry, hskips, rfl⟩
    obtain ⟨hbare, hrules⟩ := skips_eq_false_iff.mp hskips
    exact ⟨⟨hentry.congr rfl rfl rfl, hbare, rfl⟩, hrules⟩
  · rintro ⟨⟨hentry, hbare, rfl⟩, hrules⟩
    exact ⟨hentry.congr rfl rfl rfl, skips_eq_false_iff.mpr ⟨hbare, hrules⟩, rfl⟩

/-- A directory is entered exactly if the walk without exclude rules enters it and no rule matches
it or a directory on the way to it. -/
theorem reaches_iff_excluding :
    s.Reaches way folder ↔
      (s.excluding {}).Reaches way folder ∧
        ∀ rule ∈ s.excludes.rules, ¬ rule.Bars folder.names := by
  constructor
  · intro h
    induction h with
    | start hstart =>
      refine ⟨.start hstart, ?_⟩
      rintro rule - ⟨above, below, hne, hnames, -⟩
      rw [names_of_start? hstart] at hnames
      exact hne (List.append_eq_nil_iff.mp hnames.symm).1
    | enter _ hmem hvisit ih =>
      obtain ⟨hreach, hbars⟩ := ih
      obtain ⟨hbare, hrules⟩ := visit_eq_entered_iff_excluding.mp hvisit
      obtain ⟨place, -, -, rfl⟩ := visit_eq_entered_iff.mp hvisit
      refine ⟨.enter hreach hmem hbare, ?_⟩
      intro rule hrule h
      rcases IgnoreRule.bars_concat_iff.mp h with habove | hlast
      · exact hbars rule hrule habove
      · exact hrules rule hrule hlast
  · rintro ⟨h, hbars⟩
    induction h with
    | start hstart => exact .start hstart
    | enter _ hmem hbare ih =>
      obtain ⟨place, -, -, rfl⟩ := visit_eq_entered_iff.mp hbare
      refine .enter (ih ?_) hmem (visit_eq_entered_iff_excluding.mpr ⟨hbare, ?_⟩)
      · intro rule hrule habove
        exact hbars rule hrule (IgnoreRule.bars_concat_iff.mpr (Or.inl habove))
      · intro rule hrule hlast
        exact hbars rule hrule (IgnoreRule.bars_concat_iff.mpr (Or.inr hlast))

/-- A file is come upon exactly if the walk without exclude rules comes upon it and no rule keeps it
out. -/
theorem comesUpon_iff_excluding {names : List String} :
    s.ComesUpon (.file names) ↔
      (s.excluding {}).ComesUpon (.file names) ∧
        ∀ rule ∈ s.excludes.rules, ¬ rule.KeepsOut names := by
  constructor
  · rintro ⟨way, folder, name, node, hreach, hmem, hvisit⟩
    obtain ⟨hreach, hbars⟩ := reaches_iff_excluding.mp hreach
    obtain ⟨hbare, hrules⟩ := visit_eq_file_iff_excluding.mp hvisit
    refine ⟨⟨way, folder, name, node, hreach, hmem, hbare⟩, ?_⟩
    obtain ⟨-, -, rfl⟩ := visit_eq_file_iff.mp hvisit
    intro rule hrule h
    rcases h with hfile | habove
    · exact hrules rule hrule hfile
    · rw [List.dropLast_concat] at habove
      exact hbars rule hrule habove
  · rintro ⟨⟨way, folder, name, node, hreach, hmem, hbare⟩, hrules⟩
    obtain ⟨-, -, rfl⟩ := visit_eq_file_iff.mp hbare
    refine ⟨way, folder, name, node, reaches_iff_excluding.mpr ⟨hreach, ?_⟩, hmem,
      visit_eq_file_iff_excluding.mpr ⟨hbare, ?_⟩⟩
    · intro rule hrule habove
      refine hrules rule hrule (Or.inr ?_)
      rwa [List.dropLast_concat]
    · intro rule hrule hfile
      exact hrules rule hrule (Or.inl hfile)

/-! ## Rules that match the same entries -/

section Same
variable {excludes : IgnoreRules}
  (h : ∀ path isDirectory, (∃ rule ∈ excludes.rules, rule.Matches path isDirectory) ↔
    ∃ rule ∈ s.excludes.rules, rule.Matches path isDirectory)
include h

theorem visit_excluding :
    (s.excluding excludes).visit way folder name node = s.visit way folder name node := by
  have hskips (levels : List Level) (names : List String) (isDirectory : Bool) :
      (s.excluding excludes).skips levels names isDirectory =
        s.skips levels names isDirectory := by
    have hverdict : (excludes.verdict? ("/".intercalate names) isDirectory).isSome =
        (s.excludes.verdict? ("/".intercalate names) isDirectory).isSome := by
      rw [Bool.eq_iff_iff, IgnoreRules.isSome_verdict?_iff, IgnoreRules.isSome_verdict?_iff]
      exact h _ _
    unfold skips
    rw [← hverdict]
    rfl
  cases node with
  | file contents => simp only [visit, visitFile, hskips]
  | directory inner =>
    simp only [visit, visitDirectory, hskips]
    rfl
  | link target =>
    simp only [visit, visitFile, visitDirectory, hskips]
    rfl

theorem below_excluding (fuel : Nat) :
    (s.excluding excludes).below fuel way folder = s.below fuel way folder := by
  induction fuel generalizing way folder with
  | zero => rfl
  | succ fuel ih =>
    unfold below
    apply List.flatMap_congr
    rintro ⟨name, node⟩ -
    dsimp only
    rw [visit_excluding h]
    split
    · rfl
    · rfl
    · exact ih

theorem findings_excluding : (s.excluding excludes).findings = s.findings := by
  have hstart : (s.excluding excludes).start? = s.start? := rfl
  unfold findings
  rw [hstart]
  cases s.start? with
  | none => rfl
  | some folder => exact below_excluding h _

end Same

end Survey

/-! ## Lists of exclude patterns -/

variable {exclude others : List String} {excludes otherExcludes : IgnoreRules} {rule : IgnoreRule}

theorem excludeRules_eq_ok_iff :
    (∃ excludes, excludeRules exclude = .ok excludes) ↔
      ∀ pattern ∈ exclude, normalize pattern ≠ "" →
        Glob.Valid (excludeText (normalize pattern)) := by
  rw [exists_ok_iff, excludeRules_eq_error_iff]
  push Not
  exact Iff.rfl

theorem excludeRules_of_subset (hsubset : exclude ⊆ others)
    (hothers : excludeRules others = .ok otherExcludes) :
    ∃ excludes, excludeRules exclude = .ok excludes := by
  apply excludeRules_eq_ok_iff.mpr
  intro pattern hpattern
  exact excludeRules_eq_ok_iff.mp ⟨otherExcludes, hothers⟩ pattern (hsubset hpattern)

theorem mem_rules_append_iff (hfirst : excludeRules exclude = .ok excludes)
    (hsecond : excludeRules others = .ok otherExcludes) {both : IgnoreRules}
    (hboth : excludeRules (exclude ++ others) = .ok both) :
    rule ∈ both.rules ↔ rule ∈ excludes.rules ∨ rule ∈ otherExcludes.rules := by
  rw [mem_rules_iff hfirst, mem_rules_iff hsecond, mem_rules_iff hboth]
  simp only [List.mem_append]
  grind

theorem rules_subset (hsubset : exclude ⊆ others) (h : excludeRules exclude = .ok excludes)
    (hothers : excludeRules others = .ok otherExcludes) (hrule : rule ∈ excludes.rules) :
    rule ∈ otherExcludes.rules := by
  rw [mem_rules_iff h] at hrule
  rw [mem_rules_iff hothers]
  obtain ⟨pattern, hpattern, hspells⟩ := hrule
  refine ⟨pattern, ?_, hspells⟩
  rcases List.mem_append.mp hpattern with hdefault | hgiven
  · exact List.mem_append_left _ hdefault
  · exact List.mem_append_right _ (hsubset hgiven)

/-- A pattern of blanks and of steps to the current directory only. -/
def IsVoid (pattern : String) : Prop :=
  ∃ before steps after, (∀ c ∈ before.toList, Text.isBlank c = true) ∧
    (∀ c ∈ after.toList, Text.isBlank c = true) ∧
    pattern = before ++ String.join (List.replicate steps "./") ++ after

theorem IsVoid.normalize_eq {pattern : String} (h : IsVoid pattern) : normalize pattern = "" := by
  obtain ⟨before, steps, after, hbefore, hafter, rfl⟩ := h
  rw [normalize_respelt (.padded hbefore hafter)]
  induction steps with
  | zero => rfl
  | succ steps ih =>
    rw [List.replicate_succ, String.join_cons, normalize_respelt (.currentStep ?_), ih]
    intro c hc
    cases steps with
    | zero => cases hc
    | succ steps =>
      rw [List.replicate_succ, String.join_cons, String.toList_append] at hc
      cases hc
      rfl

theorem excludeRules_void {before after : List String} {pattern : String} (h : IsVoid pattern) :
    excludeRules (before ++ pattern :: after) = excludeRules (before ++ after) := by
  have hrule : excludeRule pattern = .ok none := by
    unfold excludeRule
    rw [h.normalize_eq]
    rfl
  unfold excludeRules
  rw [← List.append_assoc, ← List.append_assoc]
  generalize defaultExcludes ++ before = front
  rw [List.mapM_append, List.mapM_append, List.mapM_cons, hrule]
  cases front.mapM excludeRule with
  | error e => rfl
  | ok first =>
    cases after.mapM excludeRule with
    | error e => rfl
    | ok second => simp [bind, Except.bind, pure, Except.pure]

end Discovery

open Discovery

section Excludes
variable {tree : FileTree} {root : String} {options : DiscoveryOptions} {exclude others : List String}

/-- A file is left exactly if it is found without exclude rules and no rule keeps its path out. -/
theorem mem_discover_iff_keepsOut {files : List SourceFile} {events : List LogEvent}
    {excludes : IgnoreRules} (hwf : tree.WellFormed)
    (h : discover tree root { options with exclude } = .ok (files, events))
    (hexcludes : excludeRules exclude = .ok excludes) {file : SourceFile} :
    file ∈ files ↔
      (∃ names, (surveyOf tree root options {}).ComesUpon (.file names) ∧
        IsSource root options.patterns names file) ∧
      ∀ rule ∈ excludes.rules, ¬ rule.KeepsOut (Path.segments file.relative) := by
  rw [mem_discover_iff hwf h hexcludes, ← exists_and_right]
  apply exists_congr
  intro names
  rw [Survey.comesUpon_iff_excluding]
  constructor
  · rintro ⟨⟨hcomes, hrules⟩, hsource⟩
    obtain ⟨hne, hnames⟩ := hcomes.isName hwf
    rw [hsource.relative, Path.segments_intercalate hnames hne]
    exact ⟨⟨hcomes, hsource⟩, hrules⟩
  · rintro ⟨⟨hcomes, hsource⟩, hrules⟩
    obtain ⟨hne, hnames⟩ := hcomes.isName hwf
    rw [hsource.relative, Path.segments_intercalate hnames hne] at hrules
    exact ⟨⟨hcomes, hrules⟩, hsource⟩

/-- Two lists of exclude patterns leave together what both of them leave. -/
theorem discover_append_excludes (hwf : tree.WellFormed) {first second : List SourceFile}
    {firstEvents secondEvents : List LogEvent}
    (hfirst : discover tree root { options with exclude } = .ok (first, firstEvents))
    (hsecond : discover tree root { options with exclude := others } =
      .ok (second, secondEvents)) :
    ∃ events, discover tree root { options with exclude := exclude ++ others } =
      .ok (first.filter (· ∈ second), events) := by
  obtain ⟨hroot, globs, excludes, hglobs, hexcludes, -⟩ := discover_eq_ok_iff_outcome.mp hfirst
  obtain ⟨-, -, otherExcludes, -, hothers, -⟩ := discover_eq_ok_iff_outcome.mp hsecond
  obtain ⟨bothExcludes, hboth⟩ : ∃ rules, excludeRules (exclude ++ others) = .ok rules := by
    apply excludeRules_eq_ok_iff.mpr
    intro pattern hpattern
    rcases List.mem_append.mp hpattern with hleft | hright
    · exact excludeRules_eq_ok_iff.mp ⟨excludes, hexcludes⟩ pattern hleft
    · exact excludeRules_eq_ok_iff.mp ⟨otherExcludes, hothers⟩ pattern hright
  obtain ⟨⟨both, events⟩, hfound⟩ :
      ∃ result, discover tree root { options with exclude := exclude ++ others } = .ok result :=
    exists_discover_iff.mpr ⟨hroot, ⟨globs, hglobs⟩, bothExcludes, hboth⟩
  have hsame : both = first.filter (· ∈ second) := by
    apply (pairwise_discover hfound).eq_of_mem_iff ((pairwise_discover hfirst).filter _)
    intro file
    rw [List.mem_filter, decide_eq_true_eq, mem_discover_iff_keepsOut hwf hfound hboth,
      mem_discover_iff_keepsOut hwf hfirst hexcludes, mem_discover_iff_keepsOut hwf hsecond hothers]
    constructor
    · rintro ⟨hcomes, hrules⟩
      refine ⟨⟨hcomes, ?_⟩, ⟨hcomes, ?_⟩⟩
      · intro rule hrule
        exact hrules rule ((mem_rules_append_iff hexcludes hothers hboth).mpr (Or.inl hrule))
      · intro rule hrule
        exact hrules rule ((mem_rules_append_iff hexcludes hothers hboth).mpr (Or.inr hrule))
    · rintro ⟨⟨hcomes, hleft⟩, ⟨-, hright⟩⟩
      refine ⟨hcomes, ?_⟩
      intro rule hrule
      rcases (mem_rules_append_iff hexcludes hothers hboth).mp hrule with hrule | hrule
      · exact hleft rule hrule
      · exact hright rule hrule
  rw [← hsame]
  exact ⟨events, hfound⟩

/-- Fewer exclude patterns leave no fewer files. -/
theorem discover_of_exclude_subset (hwf : tree.WellFormed) (hsubset : exclude ⊆ others)
    {fewer : List SourceFile} {events : List LogEvent}
    (h : discover tree root { options with exclude := others } = .ok (fewer, events)) :
    ∃ more events', discover tree root { options with exclude } = .ok (more, events') ∧
      fewer ⊆ more := by
  obtain ⟨hroot, globs, otherExcludes, hglobs, hothers, -⟩ := discover_eq_ok_iff_outcome.mp h
  obtain ⟨excludes, hexcludes⟩ := excludeRules_of_subset hsubset hothers
  obtain ⟨⟨more, events'⟩, hfound⟩ :
      ∃ result, discover tree root { options with exclude } = .ok result :=
    exists_discover_iff.mpr ⟨hroot, ⟨globs, hglobs⟩, excludes, hexcludes⟩
  refine ⟨more, events', hfound, ?_⟩
  intro file hfile
  rw [mem_discover_iff_keepsOut hwf h hothers] at hfile
  rw [mem_discover_iff_keepsOut hwf hfound hexcludes]
  obtain ⟨hcomes, hrules⟩ := hfile
  refine ⟨hcomes, ?_⟩
  intro rule hrule
  exact hrules rule (rules_subset hsubset hexcludes hothers hrule)

theorem discover_of_same_excludes (hsame : ∀ pattern, pattern ∈ exclude ↔ pattern ∈ others)
    {result : List SourceFile × List LogEvent}
    (h : discover tree root { options with exclude } = .ok result) :
    discover tree root { options with exclude := others } = .ok result := by
  obtain ⟨hroot, globs, excludes, hglobs, hexcludes, rfl⟩ := discover_eq_ok_iff_outcome.mp h
  obtain ⟨otherExcludes, hothers⟩ :=
    excludeRules_of_subset (fun pattern => (hsame pattern).mpr) hexcludes
  refine discover_eq_ok_iff_outcome.mpr ⟨hroot, globs, otherExcludes, hglobs, hothers, ?_⟩
  apply congrArg (outcome root globs)
  refine (Survey.findings_excluding (s := surveyOf tree root options excludes) ?_).symm
  intro path isDirectory
  apply exists_congr
  intro rule
  apply and_congr_left
  intro _
  constructor
  · exact rules_subset (fun pattern => (hsame pattern).mpr) hothers hexcludes
  · exact rules_subset (fun pattern => (hsame pattern).mp) hexcludes hothers

/-- Exclude patterns only remove: two lists of them leave together exactly what both leave, more of
them never leave more, neither their order nor their repetition matters, and void ones do nothing. -/
theorem exclude_patterns_intersect (tree : FileTree) (root : String) (options : DiscoveryOptions) :
    let found (exclude : List String) := discover tree root { options with exclude }
    (tree.WellFormed →
      (∀ exclude others first firstEvents second secondEvents,
        found exclude = .ok (first, firstEvents) → found others = .ok (second, secondEvents) →
        ∃ events, found (exclude ++ others) = .ok (first.filter (· ∈ second), events)) ∧
      ∀ exclude others fewer events, exclude ⊆ others → found others = .ok (fewer, events) →
        ∃ more events', found exclude = .ok (more, events') ∧ fewer ⊆ more) ∧
    (∀ exclude others, (∀ pattern, pattern ∈ exclude ↔ pattern ∈ others) →
      ∀ result, found exclude = .ok result ↔ found others = .ok result) ∧
    ∀ before pattern after, IsVoid pattern →
      found (before ++ pattern :: after) = found (before ++ after) := by
  intro found
  refine ⟨?_, ?_, ?_⟩
  · intro hwf
    constructor
    · intro exclude others first firstEvents second secondEvents hfirst hsecond
      exact discover_append_excludes hwf hfirst hsecond
    · intro exclude others fewer events hsubset h
      exact discover_of_exclude_subset hwf hsubset h
  · intro exclude others hsame result
    constructor
    · exact discover_of_same_excludes hsame
    · exact discover_of_same_excludes fun pattern => (hsame pattern).symm
  · intro before pattern after hvoid
    show discover _ _ _ = discover _ _ _
    unfold discover
    dsimp only
    rw [excludeRules_void hvoid]

end Excludes

namespace ExcludeSample

def tree : FileTree :=
  { entries := [("a.ts", .file .empty),
      ("src", .directory [("b.ts", .file .empty), ("c.ts", .file .empty)])] }

def fileA : SourceFile :=
  { path := "./a.ts", relative := "a.ts", language := .typescript }

def fileB : SourceFile :=
  { path := "./src/b.ts", relative := "src/b.ts", language := .typescript }

def fileC : SourceFile :=
  { path := "./src/c.ts", relative := "src/c.ts", language := .typescript }

end ExcludeSample

open ExcludeSample in
/-- A pattern with an exclamation mark does not bring back what another one has removed. -/
theorem exclude_patterns_intersect_taken_back :
    (∃ events, discover tree "." { exclude := ["src/b.ts"] ++ ["!src/b.ts", "/a.ts"] } =
      .ok ([fileC], events)) ∧
    (∃ more events, discover tree "." { exclude := ["!src/b.ts"] } = .ok (more, events) ∧
      [fileB, fileC] ⊆ more) ∧
    (∃ events, discover tree "." { exclude := ["/a.ts", "!src/b.ts", "/a.ts"] } =
      .ok ([fileB, fileC], events)) ∧
    discover tree "." { exclude := ["src/b.ts", " ././\t"] } =
      discover tree "." { exclude := ["src/b.ts"] } := by
  obtain ⟨firstEvents, hfirst⟩ :
      ∃ events, discover tree "." { exclude := ["src/b.ts"] } = .ok ([fileA, fileC], events) :=
    discover_of_sifted (by decide +kernel) (by decide)
  obtain ⟨secondEvents, hsecond⟩ :
      ∃ events, discover tree "." { exclude := ["!src/b.ts", "/a.ts"] } =
        .ok ([fileB, fileC], events) := discover_of_sifted (by decide +kernel) (by decide)
  obtain ⟨hwf, hsame, hvoid⟩ := exclude_patterns_intersect tree "." {}
  obtain ⟨hboth, hfewer⟩ := hwf (by decide)
  refine ⟨?_, ?_, ⟨secondEvents, ?_⟩, ?_⟩
  · exact hboth _ _ _ _ _ _ hfirst hsecond
  · exact hfewer ["!src/b.ts"] _ _ _ (by simp) hsecond
  · exact (hsame ["/a.ts", "!src/b.ts", "/a.ts"] ["!src/b.ts", "/a.ts"] (by simp [or_comm]) _).mpr
      hsecond
  · have hblank : IsVoid " ././\t" :=
      ⟨" ", 2, "\t", List.all_eq_true.mp rfl, List.all_eq_true.mp rfl, rfl⟩
    exact hvoid ["src/b.ts"] " ././\t" [] hblank

end PackageUsage
