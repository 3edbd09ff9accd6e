import PackageUsage.Scan.Plan

/-!
# Where a plan comes from

The settings file of a command line is the one that it names, or else the first of the usual names
in the scan root. There is no plan exactly if the named file is missing, the settings file cannot be
read or spells no settings, or the first target that is given is missing or empty.
-/

namespace PackageUsage.Invocation

variable {i : Invocation} {tree : FileTree} {path : String} {settings : Settings}

/-- The settings file that a command line goes with. -/
inductive UsesFile (i : Invocation) (tree : FileTree) : String → Prop
  | named {path : String} : i.config = some path → tree.exists? path = true → UsesFile i tree path
  | hidden : i.config = none → tree.exists? (Path.join i.searchPath ".importscan.toml") = true →
      UsesFile i tree (Path.join i.searchPath ".importscan.toml")
  | plain : i.config = none → tree.exists? (Path.join i.searchPath ".importscan.toml") = false →
      tree.exists? (Path.join i.searchPath "importscan.toml") = true →
      UsesFile i tree (Path.join i.searchPath "importscan.toml")

/-- The settings that a command line goes with: those of its file, or none at all. -/
inductive GoesWith (i : Invocation) (tree : FileTree) : Settings → Prop
  | file {path text : String} {settings : Settings} : i.UsesFile tree path →
      tree.readText path = .ok text → Settings.ofText text = .ok settings → GoesWith i tree settings
  | none : i.config = none → (∀ path, ¬ i.UsesFile tree path) → GoesWith i tree {}

theorem findFile?_eq_some_iff :
    Settings.findFile? tree i.searchPath i.config = some path ↔ i.UsesFile tree path := by
  cases hconfig : i.config with
  | some named =>
    constructor
    · intro h
      rw [Settings.findFile?] at h
      split at h
      · next hexists =>
        cases h
        exact .named hconfig hexists
      · cases h
    · intro h
      cases h with
      | named hnamed hexists =>
        obtain rfl := Option.some.inj (hconfig.symm.trans hnamed)
        rw [Settings.findFile?, if_pos hexists]
      | hidden hnone => cases hconfig.symm.trans hnone
      | plain hnone => cases hconfig.symm.trans hnone
  | none =>
    rw [Settings.findFile?, Settings.fileNames, List.map_cons, List.map_cons, List.map_nil]
    constructor
    · intro h
      cases hhidden : tree.exists? (Path.join i.searchPath ".importscan.toml") with
      | true =>
        rw [List.find?_cons_of_pos hhidden] at h
        cases h
        exact .hidden hconfig hhidden
      | false =>
        rw [List.find?_cons_of_neg (by simp [hhidden])] at h
        cases hplain : tree.exists? (Path.join i.searchPath "importscan.toml") with
        | true =>
          rw [List.find?_cons_of_pos hplain] at h
          cases h
          exact .plain hconfig hhidden hplain
        | false =>
          rw [List.find?_cons_of_neg (by simp [hplain])] at h
          cases h
    · intro h
      cases h with
      | named hnamed => cases hconfig.symm.trans hnamed
      | hidden _ hhidden => rw [List.find?_cons_of_pos hhidden]
      | plain _ hhidden hplain =>
        rw [List.find?_cons_of_neg (by simp [hhidden]), List.find?_cons_of_pos hplain]

theorem UsesFile.unique {other : String} (h : i.UsesFile tree path) (h' : i.UsesFile tree other) :
    path = other :=
  Option.some.inj ((findFile?_eq_some_iff.mpr h).symm.trans (findFile?_eq_some_iff.mpr h'))

/-- The three ways in which the settings for a root are looked up. -/
theorem forRoot_cases (i : Invocation) (tree : FileTree) :
    (∃ path, i.UsesFile tree path ∧
      Settings.forRoot tree i.searchPath i.config = Settings.load tree path) ∨
    (∃ path, i.config = some path ∧ tree.exists? path = false ∧ (∀ path, ¬ i.UsesFile tree path) ∧
      Settings.forRoot tree i.searchPath i.config = .error (.missing path)) ∨
    (i.config = none ∧ (∀ path, ¬ i.UsesFile tree path) ∧
      Settings.forRoot tree i.searchPath i.config = .ok {}) := by
  unfold Settings.forRoot
  cases hfile : Settings.findFile? tree i.searchPath i.config with
  | some path => exact Or.inl ⟨path, findFile?_eq_some_iff.mp hfile, rfl⟩
  | none =>
    have hnone (path : String) : ¬ i.UsesFile tree path := by
      intro h
      rw [findFile?_eq_some_iff.mpr h] at hfile
      cases hfile
    cases hconfig : i.config with
    | none => exact Or.inr (Or.inr ⟨rfl, hnone, rfl⟩)
    | some path =>
      refine Or.inr (Or.inl ⟨path, rfl, ?_, hnone, rfl⟩)
      cases hexists : tree.exists? path with
      | false => rfl
      | true => exact absurd (.named hconfig hexists) (hnone path)

theorem load_eq_ok_iff :
    Settings.load tree path = .ok settings ↔
      ∃ text, tree.readText path = .ok text ∧ Settings.ofText text = .ok settings := by
  unfold Settings.load
  cases tree.readText path with
  | error cause => simp
  | ok text => cases htext : Settings.ofText text <;> simp [htext]

/-- The settings for the root of a command line are those that it goes with. -/
theorem forRoot_eq_ok_iff :
    Settings.forRoot tree i.searchPath i.config = .ok settings ↔ i.GoesWith tree settings := by
  rcases forRoot_cases i tree with
    ⟨path, huses, hroot⟩ | ⟨path, hconfig, -, hnone, hroot⟩ | ⟨hconfig, hnone, hroot⟩
  · rw [hroot, load_eq_ok_iff]
    constructor
    · rintro ⟨text, hread, htext⟩
      exact .file huses hread htext
    · intro h
      cases h with
      | file huses' hread htext =>
        obtain rfl := huses.unique huses'
        exact ⟨_, hread, htext⟩
      | none _ hnone => exact absurd huses (hnone path)
  · rw [hroot]
    constructor
    · intro h
      cases h
    · intro h
      cases h with
      | file huses => exact absurd huses (hnone _)
      | none hempty =>
        rw [hconfig] at hempty
        cases hempty
  · rw [hroot]
    constructor
    · intro h
      cases h
      exact .none hconfig hnone
    · intro h
      cases h with
      | file huses => exact absurd huses (hnone _)
      | none => rfl

theorem GoesWith.unique {other : Settings} (h : i.GoesWith tree settings)
    (h' : i.GoesWith tree other) : settings = other :=
  Except.ok.inj ((forRoot_eq_ok_iff.mpr h).symm.trans (forRoot_eq_ok_iff.mpr h'))

theorem planWith_eq_error_iff :
    (∃ e, i.planWith settings = .error e) ↔
      ∀ text, i.targetPackage.or settings.target = some text → text = "" := by
  unfold planWith
  rw [show (i.targetPackage <|> settings.target) = i.targetPackage.or settings.target from
    Option.orElse_eq_or]
  cases i.targetPackage.or settings.target with
  | none => simp
  | some text =>
    by_cases hempty : text = ""
    · simp [hempty, Option.filter]
    · simp [hempty, Option.filter]

end PackageUsage.Invocation
