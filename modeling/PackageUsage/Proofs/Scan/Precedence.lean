import PackageUsage.Proofs.Discovery.Includes
import PackageUsage.Proofs.Program
import PackageUsage.Proofs.Scan.Relocation

/-!
# What goes before what in a plan

A plan is put together from a command line and the settings that go with it. For the target and the
patterns the command line goes before the settings, the mode of the settings counts unless patterns
are asked for, excludes of both are used, and either may switch the ignore files off. Each part of a
plan depends on the one argument and the one setting that it is made from, so command lines that
agree on these agree on the part.
-/

namespace PackageUsage

namespace Invocation

variable {i j : Invocation} {tree : FileTree} {s s' : Settings} {p q : ScanPlan}

/-- What a plan takes from a command line and what from the settings that go with it. -/
structure Merges (i : Invocation) (s : Settings) (p : ScanPlan) : Prop where
  root : p.root = i.searchPath
  target : i.targetPackage.or s.target = some p.target.text
  target_ne : p.target.text ≠ ""
  mode : p.target.mode = if i.regex then .pattern else s.mode.getD .start
  exclude : p.exclude =
    s.exclude ++ i.excludePaths.filter fun path => path.toList.any fun c => !Text.isBlank c
  patterns : p.patterns = if i.patterns = [] then s.patterns else i.patterns
  ignoreFiles : p.respectIgnoreFiles = true ↔
    i.noIgnoreFiles = false ∧ s.respectIgnoreFiles ≠ some false

/-- Which parts two plans share, by what the two command lines and their settings have in common. -/
structure Agree (i j : Invocation) (s s' : Settings) (p q : ScanPlan) : Prop where
  root : i.searchPath = j.searchPath → p.root = q.root
  target : i.targetPackage = j.targetPackage → (i.targetPackage = none → s.target = s'.target) →
    p.target.text = q.target.text
  mode : i.regex = j.regex → (i.regex = false → s.mode = s'.mode) → p.target.mode = q.target.mode
  exclude : i.excludePaths = j.excludePaths → s.exclude = s'.exclude → p.exclude = q.exclude
  patterns : i.patterns = j.patterns → (i.patterns = [] → s.patterns = s'.patterns) →
    p.patterns = q.patterns
  ignoreFiles : i.noIgnoreFiles = j.noIgnoreFiles →
    (i.noIgnoreFiles = false → s.respectIgnoreFiles = s'.respectIgnoreFiles) →
    p.respectIgnoreFiles = q.respectIgnoreFiles

/-- Two command lines look for their settings in the same place. -/
structure SameSource (i j : Invocation) : Prop where
  config : i.config = j.config
  searchPath : i.config = none → i.searchPath = j.searchPath

/-! ## Merging -/

theorem not_isEmpty_trim (text : String) :
    (!(Text.trim text).isEmpty) = text.toList.any fun c => !Text.isBlank c := by
  have hempty : (Text.trim text).isEmpty = true ↔ ∀ c ∈ text.toList, Text.isBlank c = true := by
    rw [String.isEmpty_iff, ← String.toList_eq_nil_iff, Text.trim, String.toList_ofList,
      Text.trimList_eq_nil_iff]
  rw [Bool.eq_iff_iff, Bool.not_eq_true', ← Bool.not_eq_true, hempty]
  simp

theorem planWith_eq_ok_iff : i.planWith s = .ok p ↔ i.Merges s p := by
  have htrim : (fun path => !(Text.trim path).isEmpty) =
      fun path => path.toList.any fun c => !Text.isBlank c := funext not_isEmpty_trim
  have hor : (i.targetPackage <|> s.target) = i.targetPackage.or s.target := Option.orElse_eq_or
  rw [planWith, hor, htrim]
  constructor
  · intro h
    split at h
    · cases h
    · next text htext =>
      cases h
      obtain ⟨htarget, hne⟩ := Option.filter_eq_some_iff.mp htext
      refine ⟨rfl, htarget, by simpa using hne, rfl, rfl, by simp, ?_⟩
      cases i.noIgnoreFiles <;> rcases s.respectIgnoreFiles with _ | _ | _ <;> simp
  · intro h
    have htext : (i.targetPackage.or s.target).filter (!·.isEmpty) = some p.target.text :=
      Option.filter_eq_some_iff.mpr ⟨h.target, by simpa using h.target_ne⟩
    have hignore : (!i.noIgnoreFiles && s.respectIgnoreFiles.getD true) = p.respectIgnoreFiles := by
      rw [Bool.eq_iff_iff, h.ignoreFiles]
      cases i.noIgnoreFiles <;> rcases s.respectIgnoreFiles with _ | _ | _ <;> simp
    have hpatterns : (if i.patterns.isEmpty then s.patterns else i.patterns) = p.patterns := by
      rw [h.patterns]
      simp
    rw [htext]
    dsimp only
    rw [hignore, hpatterns, ← h.root, ← h.mode, ← h.exclude]

theorem plan_eq_ok_iff :
    i.plan tree = .ok p ↔ ∃ settings, i.GoesWith tree settings ∧ i.Merges settings p := by
  simp only [← forRoot_eq_ok_iff, ← planWith_eq_ok_iff, plan]
  cases Settings.forRoot tree i.searchPath i.config <;> simp

theorem exists_plan_iff :
    (∃ plan, i.plan tree = .ok plan) ↔ ∃ settings text, i.GoesWith tree settings ∧
      i.targetPackage.or settings.target = some text ∧ text ≠ "" := by
  constructor
  · rintro ⟨plan, hplan⟩
    obtain ⟨settings, hgoes, hmerges⟩ := plan_eq_ok_iff.mp hplan
    exact ⟨settings, _, hgoes, hmerges.target, hmerges.target_ne⟩
  · rintro ⟨settings, text, hgoes, htarget, hne⟩
    cases hplan : i.plan tree with
    | ok plan => exact ⟨plan, rfl⟩
    | error e =>
      have hfails : ∃ e, i.planWith settings = .error e := by
        rw [plan, forRoot_eq_ok_iff.mpr hgoes] at hplan
        exact ⟨e, hplan⟩
      exact absurd (planWith_eq_error_iff.mp hfails text htarget) hne

theorem plan_of_missing {path : String} (hconfig : i.config = some path)
    (hmissing : tree.exists? path = false) :
    i.plan tree = .error (.settings (.missing path)) := by
  simp [plan, Settings.forRoot, Settings.findFile?, hconfig, hmissing]

/-! ## What each argument has a say in -/

theorem Merges.agree (h : i.Merges s p) (h' : j.Merges s' q) : Agree i j s s' p q where
  root hroot := by rw [h.root, h'.root, hroot]
  target htarget hsettings := by
    have hsame : i.targetPackage.or s.target = j.targetPackage.or s'.target := by
      rw [← htarget]
      cases hnone : i.targetPackage with
      | none => rw [hsettings hnone]
      | some text => rfl
    rw [h.target, h'.target] at hsame
    exact Option.some.inj hsame
  mode hregex hsettings := by
    rw [h.mode, h'.mode, ← hregex]
    cases hstart : i.regex with
    | true => rfl
    | false => rw [hsettings hstart]
  exclude hpaths hsettings := by rw [h.exclude, h'.exclude, hpaths, hsettings]
  patterns hpatterns hsettings := by
    rw [h.patterns, h'.patterns, ← hpatterns]
    split_ifs with hnone
    · exact hsettings hnone
    · rfl
  ignoreFiles hflag hsettings := by
    rw [Bool.eq_iff_iff, h.ignoreFiles, h'.ignoreFiles, ← hflag]
    cases hrespect : i.noIgnoreFiles with
    | true => simp
    | false => rw [hsettings hrespect]

theorem SameSource.forRoot_eq (h : i.SameSource j) :
    Settings.forRoot tree i.searchPath i.config = Settings.forRoot tree j.searchPath j.config := by
  rw [← h.config]
  cases hconfig : i.config with
  | none => rw [h.searchPath hconfig]
  | some path => rfl

theorem SameSource.goesWith_iff (h : i.SameSource j) :
    i.GoesWith tree s ↔ j.GoesWith tree s := by
  rw [← forRoot_eq_ok_iff, ← forRoot_eq_ok_iff, h.forRoot_eq]

/-- With settings from the same place, nothing but the target decides whether there is a plan. -/
theorem SameSource.plan_eq_error_iff_of_target (h : i.SameSource j)
    (htarget : i.targetPackage = j.targetPackage) {e : PlanError} :
    i.plan tree = .error e ↔ j.plan tree = .error e := by
  rw [plan, plan, h.forRoot_eq]
  cases Settings.forRoot tree j.searchPath j.config with
  | error cause => rfl
  | ok settings =>
    dsimp only
    rw [planWith, planWith, htarget]
    cases (j.targetPackage <|> settings.target).filter (!·.isEmpty) <;> simp

end Invocation

/-! ## The patterns of a run -/

namespace Discovery

theorem includeGlobs_wanted (patterns : List String) :
    includeGlobs (wanted patterns) = includeGlobs patterns := by
  by_cases hempty : patterns = []
  · subst hempty
    rfl
  · rw [wanted_of_ne_nil hempty]

theorem discover_wanted (tree : FileTree) (root : String) (options : DiscoveryOptions) :
    discover tree root { options with patterns := wanted options.patterns } =
      discover tree root options := by
  rw [discover, discover]
  dsimp only
  rw [includeGlobs_wanted]

end Discovery

namespace Invocation

variable {i : Invocation} {tree : FileTree} {s : Settings} {p : ScanPlan} {used : List String}

theorem Merges.wanted_eq (h : i.Merges s p)
    (hused : [i.patterns, s.patterns, ["**/*.ts", "**/*.tsx"]].find? (· ≠ []) = some used) :
    Discovery.wanted p.patterns = used := by
  rw [h.patterns]
  by_cases hgiven : i.patterns = []
  · rw [if_pos hgiven]
    rw [hgiven, List.find?_cons_of_neg (by simp)] at hused
    by_cases hset : s.patterns = []
    · rw [hset, List.find?_cons_of_neg (by simp), List.find?_cons_of_pos (by simp)] at hused
      rw [hset, ← Option.some.inj hused]
      rfl
    · rw [List.find?_cons_of_pos (by simpa using hset)] at hused
      rw [Discovery.wanted_of_ne_nil hset, Option.some.inj hused]
  · rw [List.find?_cons_of_pos (by simpa using hgiven)] at hused
    rw [if_neg hgiven, Discovery.wanted_of_ne_nil hgiven, Option.some.inj hused]

theorem Merges.withPatterns (h : i.Merges s p) (hne : used ≠ []) :
    { i with patterns := used }.Merges s { p with patterns := used } :=
  { h with patterns := (if_neg hne).symm }

end Invocation

/-- A run does what it would do with the patterns given that it falls back on. -/
theorem Program.carryOut_wanted {tree : FileTree} {i j : Invocation} {p : ScanPlan}
    (hplan : i.plan tree = .ok p)
    (hwanted : j.plan tree = .ok { p with patterns := Discovery.wanted p.patterns })
    (hformat : j.reportFormat = i.reportFormat) : carryOut tree j = carryOut tree i := by
  rw [carryOut, carryOut, hplan, hwanted]
  dsimp only
  rw [ofPlan_eq, ofPlan_eq]
  cases Matcher.ofTarget p.target with
  | error e => rfl
  | ok matcher =>
    dsimp only [Except.map]
    rw [Scanner.tryScan, Scanner.tryScan, options_nil, options_nil]
    dsimp only
    rw [Discovery.discover_wanted]
    cases discover tree p.root p.toDiscoveryOptions with
    | error e => rfl
    | ok found => rw [hformat]; rfl

open Invocation in
/-- The plan of every command line in every file tree. A settings file that is named but missing is
an error; else there is a plan exactly if the settings can be had and the first target that is given
is not empty, and then it is merged as described. A run uses the first patterns that there are: of
the command line, of the settings, or the default ones. Command lines that differ have plans that
differ only in the parts which the differing arguments have a say in. -/
theorem plan_merges (i : Invocation) (tree : FileTree) :
    (∀ path, i.config = some path → tree.exists? path = false →
      i.plan tree = .error (.settings (.missing path))) ∧
    (∀ p, i.plan tree = .ok p ↔ ∃ s, i.GoesWith tree s ∧ i.Merges s p) ∧
    ((∃ p, i.plan tree = .ok p) ↔
      ∃ s text, i.GoesWith tree s ∧ i.targetPackage.or s.target = some text ∧ text ≠ "") ∧
    (∀ s p used, i.GoesWith tree s → i.plan tree = .ok p →
      [i.patterns, s.patterns, ["**/*.ts", "**/*.tsx"]].find? (· ≠ []) = some used →
      Program.carryOut tree { i with patterns := used } = Program.carryOut tree i ∧
        discover tree p.root { p.toDiscoveryOptions with patterns := used } =
          discover tree p.root p.toDiscoveryOptions ∧
        (tree.WellFormed → ∀ files events,
          discover tree p.root p.toDiscoveryOptions = .ok (files, events) →
          ∀ file ∈ files, ∃ pattern ∈ used, ∃ glob,
            Glob.ofText false (Discovery.normalize pattern) = .ok glob ∧
              glob.accepts file.relative = true)) ∧
    ∀ j : Invocation,
      (i.SameSource j → (∀ s, i.GoesWith tree s ↔ j.GoesWith tree s) ∧
        (i.targetPackage = j.targetPackage →
          ∀ e, i.plan tree = .error e ↔ j.plan tree = .error e)) ∧
      ∀ s s' p q, i.GoesWith tree s → j.GoesWith tree s' → i.plan tree = .ok p →
        j.plan tree = .ok q → Agree i j s s' p q := by
  have hmerges {k : Invocation} {s : Settings} {p : ScanPlan} (hgoes : k.GoesWith tree s)
      (hplan : k.plan tree = .ok p) : k.Merges s p := by
    obtain ⟨s', hgoes', h⟩ := plan_eq_ok_iff.mp hplan
    obtain rfl := hgoes.unique hgoes'
    exact h
  refine ⟨fun path => plan_of_missing, fun p => plan_eq_ok_iff, exists_plan_iff, ?_, ?_⟩
  · intro s p used hgoes hplan hused
    have hmerge := hmerges hgoes hplan
    have hne : used ≠ [] := by simpa using List.find?_some hused
    obtain rfl := hmerge.wanted_eq hused
    -- patterns have no say in where the settings are looked for
    have hsame : i.SameSource { i with patterns := Discovery.wanted p.patterns } :=
      ⟨rfl, fun _ => rfl⟩
    have hgiven : { i with patterns := Discovery.wanted p.patterns }.plan tree =
        .ok { p with patterns := Discovery.wanted p.patterns } :=
      plan_eq_ok_iff.mpr ⟨s, hsame.goesWith_iff.mp hgoes, hmerge.withPatterns hne⟩
    refine ⟨Program.carryOut_wanted hplan hgiven rfl,
      Discovery.discover_wanted tree p.root p.toDiscoveryOptions, ?_⟩
    intro hwf files events hdiscover file hfile
    obtain ⟨names, -, hsource⟩ := exists_names_of_discover hwf hdiscover file hfile
    exact hsource.accepted
  · intro j
    refine ⟨fun hsame => ⟨fun s => hsame.goesWith_iff, ?_⟩, ?_⟩
    · exact fun htarget e => hsame.plan_eq_error_iff_of_target htarget
    · intro s s' p q hgoes hgoes' hplan hplan'
      exact (hmerges hgoes hplan).agree (hmerges hgoes' hplan')

namespace PrecedenceSample

def hiddenText : String :=
  "target = \"pkg\"\nmode = \"pattern\"\nexclude = [\"x/\"]\nrespect_gitignore = false\n"

/-- A settings file with the hidden name beside one with the plain name, and a source file. -/
def tree : FileTree :=
  { entries := [(".importscan.toml", .file hiddenText.toUTF8),
      ("importscan.toml", .file "target = \"other\"\npatterns = [\"**/*.js\"]\n".toUTF8),
      ("a.ts", .file "import a from 'pkg';".toUTF8)] }

/-- What the hidden file says. -/
def settings : Settings :=
  { target := some "pkg", mode := some .pattern, exclude := ["x/"], respectIgnoreFiles := some false }

/-- A command line that adds excludes, one of them blank. -/
def adding : Invocation :=
  { excludePaths := ["y/", " ", "z/"] }

def plan : ScanPlan :=
  { root := ".", target := { text := "pkg", mode := .pattern }, exclude := ["x/", "y/", "z/"]
    respectIgnoreFiles := false }

theorem goesWith_settings {i : Invocation} (hpath : i.searchPath = ".") (hconfig : i.config = none) :
    i.GoesWith tree settings := by
  have hhidden : Path.join i.searchPath ".importscan.toml" = "./.importscan.toml" := by
    rw [hpath]
    decide +kernel
  have huses : i.UsesFile tree (Path.join i.searchPath ".importscan.toml") :=
    .hidden hconfig (by rw [hhidden]; decide +kernel)
  rw [hhidden] at huses
  have hread : tree.readText "./.importscan.toml" = .ok hiddenText := by decide +kernel
  exact .file huses hread (by decide +kernel)

theorem merges_plan : adding.Merges settings plan where
  root := rfl
  target := rfl
  target_ne := by decide
  mode := rfl
  exclude := by decide
  patterns := rfl
  ignoreFiles := by decide

end PrecedenceSample

open PrecedenceSample in
theorem plan_merges_hidden_file :
    adding.plan tree = .ok plan ∧
    { adding with config := some "none.toml" }.plan tree =
      .error (.settings (.missing "none.toml")) ∧
    (¬ ∃ p, { adding with targetPackage := some "" }.plan tree = .ok p) ∧
    Program.carryOut tree { adding with patterns := ["**/*.ts", "**/*.tsx"] } =
      Program.carryOut tree adding ∧
    ∀ q, { adding with excludePaths := [] }.plan tree = .ok q →
      q.target.mode = .pattern ∧ q.patterns = [] := by
  have hgoes : adding.GoesWith tree settings := goesWith_settings rfl rfl
  obtain ⟨-, hmerged, -, hpatterns, hagree⟩ := plan_merges adding tree
  have hplan : adding.plan tree = .ok plan := (hmerged plan).mpr ⟨settings, hgoes, merges_plan⟩
  refine ⟨hplan, ?_, ?_, (hpatterns settings plan _ hgoes hplan rfl).1, ?_⟩
  · exact (plan_merges _ tree).1 "none.toml" rfl (by decide +kernel)
  · intro hsome
    obtain ⟨s, text, -, htarget, hne⟩ := (plan_merges _ tree).2.2.1.mp hsome
    cases htarget
    exact hne rfl
  · intro q hq
    have hsame := (hagree { adding with excludePaths := [] }).2 settings settings plan q hgoes
      (goesWith_settings rfl rfl) hplan hq
    exact ⟨(hsame.mode rfl fun _ => rfl).symm, (hsame.patterns rfl fun _ => rfl).symm⟩

end PackageUsage
