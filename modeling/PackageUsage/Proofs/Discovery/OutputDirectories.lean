import PackageUsage.Proofs.Discovery.Selection
import PackageUsage.Proofs.Glob.Segments
import PackageUsage.Proofs.Scan.Contribution

/-!
# Output directories

The directories that are always left out stand first among the exclude rules, and an exclude rule
that matches keeps an entry out whatever other rules, ignore files or include patterns say. So the
walk enters none of them at any depth, and no scan has a record or a failure from there.
-/

namespace PackageUsage

namespace Discovery

/-! ## The rule of a name -/

theorem dropFinalSeparator_name {name : List Char} (h : '\\' ∉ name) :
    IgnoreRule.dropFinalSeparator (name ++ ['/']) = (name, true) := by
  have hlast : name.getLast? ≠ some '\\' := by
    intro hlast
    exact h (List.mem_of_getLast? hlast)
  simp [IgnoreRule.dropFinalSeparator, hlast]

theorem globText_name {name : List Char} (hslash : '/' ∉ name) (hstar : '*' ∉ name) :
    IgnoreRule.globText false name = ['*', '*', '/'] ++ name := by
  have hstars : (name == ['*', '*']) = false := by
    rw [beq_eq_false_iff_ne]
    rintro rfl
    exact hstar List.mem_cons_self
  have hsuffix : ¬ ['/', '*', '*'].isSuffixOf (['*', '*', '/'] ++ name) = true := by
    rw [List.isSuffixOf_iff_suffix]
    rintro ⟨before, heq⟩
    have hlast := congrArg List.getLast? heq
    rw [List.getLast?_append, List.getLast?_append] at hlast
    cases hname : name.getLast? with
    | none => simp [hname] at hlast
    | some c =>
      obtain rfl : '*' = c := by simpa [hname] using hlast
      exact hstar (List.mem_of_getLast? hname)
  have hdeep : (false || name.contains '/' || name == ['*', '*']) = false := by
    simp [hslash, hstars]
  unfold IgnoreRule.globText
  rw [hdeep]
  exact if_neg hsuffix

/-- The rule of a directory name holds for the directories of that name at every depth. -/
theorem excludeRule_name {name : String} (hnormal : normalize (name ++ "/") = name ++ "/")
    (hname : Path.isName name = true) (hliteral : ∀ c ∈ name.toList, Glob.isLiteral c = true) :
    excludeRule (name ++ "/") =
      .ok (some { glob := .ofName name, keeps := true, onlyDirectories := true }) := by
  obtain ⟨hne, -, -, hslash⟩ := Path.isName_iff.mp hname
  have hspecial (c : Char) (hc : Glob.isLiteral c = false) : c ∉ name.toList := by
    intro hmem
    rw [hliteral c hmem] at hc
    cases hc
  have hchars : (name ++ "/").toList = name.toList ++ ['/'] := String.toList_append
  have hbody : anchoredBody (name.toList ++ ['/']) = (false, name.toList ++ ['/']) := by
    obtain ⟨first, rest, hfirst⟩ :=
      List.exists_cons_of_ne_nil (l := name.toList) (by simpa using hne)
    rw [hfirst, List.cons_append, anchoredBody]
    rintro more heq
    rw [hfirst] at hslash
    exact hslash (by rw [(List.cons.inj heq).1]; exact List.mem_cons_self)
  have hlast : (name ++ "/").toList.getLast? = some '/' := by
    rw [hchars, List.getLast?_concat]
  unfold excludeRule
  rw [hnormal, if_neg (by simp), ofLine_bang hlast (by decide), hchars, hbody]
  dsimp only
  rw [dropFinalSeparator_name (hspecial _ rfl)]
  dsimp only
  rw [globText_name hslash (hspecial _ rfl), Glob.ofText_name hliteral, String.ofList_toList]
  rfl

/-! ## Output directories on the way of a walk -/

/-- The names of the directories that are always left out. -/
def outputDirectories : List String :=
  ["node_modules", "dist", "build", "coverage", ".git"]

/-- A name that stands among the default excludes and means itself there. -/
structure OutputName (name : String) : Prop where
  excluded : name ++ "/" ∈ defaultExcludes
  normal : normalize (name ++ "/") = name ++ "/"
  isName : Path.isName name = true
  literal : name.toList.all Glob.isLiteral = true
  undotted : name.endsWith "." = false

theorem outputName_of_mem : ∀ name ∈ outputDirectories, OutputName name := by
  have hall : ∀ name ∈ outputDirectories, name ++ "/" ∈ defaultExcludes ∧
      normalize (name ++ "/") = name ++ "/" ∧ Path.isName name = true ∧
      name.toList.all Glob.isLiteral = true ∧ name.endsWith "." = false := by decide +kernel
  intro name hname
  obtain ⟨excluded, normal, isName, literal, undotted⟩ := hall name hname
  exact { excluded, normal, isName, literal, undotted }

theorem mem_excludeRules {exclude : List String} {excludes : IgnoreRules}
    (h : excludeRules exclude = .ok excludes) {name : String} (hname : name ∈ outputDirectories) :
    { glob := .ofName name, keeps := true, onlyDirectories := true } ∈ excludes.rules := by
  have hplain := outputName_of_mem name hname
  refine (mem_rules_iff h).mpr ⟨name ++ "/", List.mem_append_left _ hplain.excluded, ?_⟩
  exact excludeRule_name hplain.normal hplain.isName (List.all_eq_true.mp hplain.literal)

variable {s : Survey} {exclude : List String}

theorem skips_outputDirectory (h : excludeRules exclude = .ok s.excludes) {name : String}
    (hname : name ∈ outputDirectories) (levels : List Level) (before : List String) :
    s.skips levels (before ++ [name]) true = true := by
  have hplain := outputName_of_mem name hname
  have hverdict :
      (s.excludes.verdict? ("/".intercalate (before ++ [name])) true).isSome = true := by
    rw [IgnoreRules.verdict?, Option.isSome_map, List.find?_isSome]
    exact ⟨_, List.mem_reverse.mpr (mem_excludeRules h hname),
      by simpa using Glob.accepts_ofName hplain.isName hplain.undotted before⟩
  rw [Survey.skips, hverdict, Bool.true_or]

/-- No way leads through an output directory. -/
theorem not_mem_names_of_reaches (h : excludeRules exclude = .ok s.excludes) {way : List Folder}
    {folder : Folder} (hreach : s.Reaches way folder) :
    ∀ name ∈ outputDirectories, name ∉ folder.names := by
  induction hreach with
  | start hstart =>
    rw [Survey.names_of_start? hstart]
    exact fun _ _ => List.not_mem_nil
  | enter _ _ hvisit ih =>
    obtain ⟨place, -, hskips, rfl⟩ := Survey.visit_eq_entered_iff.mp hvisit
    intro name hname hmem
    rcases List.mem_append.mp hmem with hbefore | hlast
    · exact ih name hname hbefore
    · obtain rfl := List.mem_singleton.mp hlast
      rw [skips_outputDirectory h hname] at hskips
      cases hskips

/-- A path leads through an output directory. -/
def InOutputDirectory (path : String) : Prop :=
  ∃ name ∈ outputDirectories, .named name ∈ (Path.components path).dropLast

end Discovery

open Discovery

theorem not_inOutputDirectory_of_discover {tree : FileTree} {root : String}
    {options : DiscoveryOptions} {files : List SourceFile} {events : List LogEvent}
    (hwf : tree.WellFormed) (h : discover tree root options = .ok (files, events))
    {file : SourceFile} (hfile : file ∈ files) : ¬ InOutputDirectory file.relative := by
  obtain ⟨-, globs, excludes, hglobs, hexcludes, rfl⟩ :=
    discover_eq_ok_iff_selected.mp ⟨events, h⟩
  rw [mem_selected_iff_comesUpon hwf hglobs fun _ => Iff.rfl] at hfile
  obtain ⟨names, hcomes, hsource⟩ := hfile
  obtain ⟨hne, hnames⟩ := hcomes.isName hwf
  obtain ⟨way, folder, last, node, hreach, -, hvisit⟩ := hcomes
  obtain ⟨-, -, rfl⟩ := Survey.visit_eq_file_iff.mp hvisit
  rintro ⟨name, hname, hmem⟩
  rw [hsource.relative, Path.components_intercalate hnames hne, ← List.map_dropLast,
    List.dropLast_concat] at hmem
  obtain ⟨other, hother, heq⟩ := List.mem_map.mp hmem
  cases heq
  exact not_mem_names_of_reaches hexcludes hreach name hname hother

/-- Whatever the patterns, the excludes and the ignore files say, no discovered file lies in an
output directory, and so no record and no failure of a scan does. -/
theorem output_directories_unscanned {tree : FileTree} (hwf : tree.WellFormed) :
    (∀ root options files events, discover tree root options = .ok (files, events) →
      ∀ file ∈ files, ¬ InOutputDirectory file.relative) ∧
    ∀ (s : Scanner) (patterns : List String),
      ∀ result ∈ [(s.tryScan tree patterns).scanner.result, (s.scan tree patterns).scanner.result],
        (∀ record ∈ result.records, ¬ InOutputDirectory record.file) ∧
          ∀ failure ∈ result.failures, ¬ InOutputDirectory failure.path := by
  refine ⟨fun _ _ _ _ h _ hfile => not_inOutputDirectory_of_discover hwf h hfile,
    fun s patterns result hresult => ?_⟩
  have hsame : result = (s.tryScan tree patterns).scanner.result := by
    rcases List.mem_pair.mp hresult with rfl | rfl
    · rfl
    · rw [Scanner.scanner_scan]
  cases h : discover tree s.plan.root (s.options patterns) with
  | error e =>
    rw [hsame, (Scanner.tryScan_of_error h).1]
    exact ⟨by simp, by simp⟩
  | ok found =>
    rw [hsame, (Scanner.tryScan_of_discover h).1, ScanResult.records_ofFiles,
      ScanResult.failures_ofFiles]
    constructor
    · intro record hrecord
      obtain ⟨file, hfile, hmem⟩ := List.mem_flatMap.mp hrecord
      rw [ScanResult.file_of_mem_alone hmem]
      exact not_inOutputDirectory_of_discover hwf h hfile
    · intro failure hfailure
      obtain ⟨file, hfile, hmem⟩ := List.mem_flatMap.mp hfailure
      rw [ScanResult.path_of_mem_alone hmem]
      exact not_inOutputDirectory_of_discover hwf h hfile

namespace OutputSample

/-- An output directory that an ignore file takes back, and another one further down. -/
def tree : FileTree :=
  { entries :=
      [(".ignore", .file "!dist/\n".toUTF8), ("dist", .directory [("a.ts", .file .empty)]),
        ("src", .directory [("b.ts", .file .empty),
          ("build", .directory [("c.ts", .file .empty)])])] }

def options : DiscoveryOptions :=
  { patterns := ["**/*.ts", "dist/**"], exclude := ["!dist/", "!src/build/c.ts"] }

def files : List SourceFile :=
  [{ path := "./src/b.ts", relative := "src/b.ts", language := .typescript }]

end OutputSample

open OutputSample in
theorem output_directories_unscanned_whitelisted :
    ∃ events, discover tree "." options = .ok (files, events) ∧
      ∀ file ∈ files, ¬ InOutputDirectory file.relative := by
  obtain ⟨events, h⟩ : ∃ events, discover tree "." options = .ok (files, events) :=
    discover_of_sifted (by decide +kernel) (by decide)
  have hwf : tree.WellFormed := by decide
  exact ⟨events, h, (output_directories_unscanned hwf).1 "." options files events h⟩

end PackageUsage
