import Mathlib.Data.List.Sort
import PackageUsage.Proofs.Discovery.Growth
import PackageUsage.Proofs.Discovery.Order
import PackageUsage.Proofs.Discovery.Patterns

/-!
# The files that are discovered

A file is discovered exactly if the walk comes upon it, an include pattern accepts its relative path
and its extension has a grammar. Sorting and dropping repetitions lose nothing: two findings whose
paths tie are the same, since the names on a path can be told from it. So the order in which the
walk comes upon the files, and the order of the entries in a directory, do not matter.
-/

namespace PackageUsage

namespace SourceFile

instance : Std.Irrefl Before where
  irrefl _ h := Path.ne_of_lt h rfl

instance : Std.Antisymm Before where
  antisymm _ _ hab hba := absurd rfl (Path.ne_of_lt (Std.TransCmp.lt_trans hab hba))

end SourceFile

namespace Discovery

/-- A source file is what discovery makes of a file with some names from the scan root on. -/
structure IsSource (root : String) (patterns names : List String) (file : SourceFile) : Prop where
  relative : file.relative = "/".intercalate names
  path : file.path = Path.join root file.relative
  accepted : ∃ pattern ∈ wanted patterns, ∃ glob,
    Glob.ofText false (normalize pattern) = .ok glob ∧ glob.accepts file.relative = true
  grammar : ∃ extension, Path.extension? file.relative = some extension ∧
    Language.ofExtension? extension = some file.language

/-- Names that lead from the scan root to something below it. -/
def AreNames (names : List String) : Prop :=
  names ≠ [] ∧ ∀ name ∈ names, Path.isName name = true

variable {root : String} {patterns names : List String} {globs : List Glob} {file : SourceFile}

theorem sift_file_iff (hglobs : includeGlobs patterns = .ok globs) (hnames : AreNames names) :
    (sift root globs (.file names)).1 = some file ↔ IsSource root patterns names file := by
  have haccepts : globs.any (·.accepts ("/".intercalate names)) = true ↔ _ := any_accepts_iff hglobs
  have hlanguage := Path.language_join root hnames.2 hnames.1
  constructor
  · intro h
    unfold sift at h
    dsimp only at h
    split at h
    · next hany =>
      split at h
      · next language hfound =>
        cases h
        rw [hlanguage] at hfound
        exact ⟨rfl, rfl, haccepts.mp hany, Option.bind_eq_some_iff.mp hfound⟩
      · cases h
    · cases h
  · rintro ⟨hrelative, hpath, haccepted, hgrammar⟩
    have hfound := Option.bind_eq_some_iff.mpr hgrammar
    rw [hrelative] at haccepted hpath hfound
    have hjoined : Language.ofPath? (Path.join root ("/".intercalate names)) = some file.language :=
      hlanguage.trans hfound
    unfold sift
    dsimp only
    rw [if_pos (haccepts.mpr haccepted), hjoined, ← hpath, ← hrelative]

theorem IsSource.eq_of_tie {others : List String} {other : SourceFile} (hnames : AreNames names)
    (hothers : AreNames others) (h : IsSource root patterns names file)
    (h' : IsSource root patterns others other)
    (htie : Path.compare file.relative other.relative = .eq) : file = other := by
  have hcomponents := (Path.compare_eq_eq_iff _ _).mp htie
  rw [h.relative, h'.relative, Path.components_intercalate hnames.2 hnames.1,
    Path.components_intercalate hothers.2 hothers.1] at hcomponents
  have hsame : names = others := by
    refine List.map_injective_iff.mpr ?_ hcomponents
    intro a b hab
    cases hab
    rfl
  have hrelative : file.relative = other.relative := by rw [h.relative, h'.relative, hsame]
  have hpath : file.path = other.path := by rw [h.path, h'.path, hrelative]
  have hlanguage : file.language = other.language := by
    obtain ⟨extension, hextension, hlanguage⟩ := h.grammar
    obtain ⟨extension', hextension', hlanguage'⟩ := h'.grammar
    rw [hrelative, hextension'] at hextension
    cases hextension
    exact Option.some.inj (hlanguage.symm.trans hlanguage')
  cases file
  cases other
  simp_all

/-! ## Sorting and dropping repetitions -/

theorem mem_dropRepeated_iff {files : List SourceFile}
    (h : ∀ a ∈ files, ∀ b ∈ files, Path.compare a.relative b.relative = .eq → a = b) :
    file ∈ dropRepeated files ↔ file ∈ files := by
  refine ⟨mem_of_mem_dropRepeated, fun hmem => ?_⟩
  fun_induction dropRepeated files with
  | case1 a b rest heq ih =>
    obtain rfl := h a (by simp) b (by simp) (beq_iff_eq.mp heq)
    refine ih (fun x hx y hy => h x (List.mem_cons_of_mem a hx) y (List.mem_cons_of_mem a hy)) ?_
    rcases List.mem_cons.mp hmem with rfl | hrest
    · exact List.mem_cons_self
    · exact hrest
  | case2 a b rest hne ih =>
    rcases List.mem_cons.mp hmem with rfl | hrest
    · exact List.mem_cons_self
    · refine List.mem_cons_of_mem a (ih (fun x hx y hy => ?_) hrest)
      exact h x (List.mem_cons_of_mem a hx) y (List.mem_cons_of_mem a hy)
  | case3 files hshort => exact hmem

/-- The files that discovery selects from the findings of a walk. -/
def selected (root : String) (globs : List Glob) (found : List Finding) : List SourceFile :=
  dropRepeated ((found.filterMap fun f => (sift root globs f).1).mergeSort inOrder)

theorem pairwise_selected (root : String) (globs : List Glob) (found : List Finding) :
    (selected root globs found).Pairwise SourceFile.Before :=
  pairwise_dropRepeated (pairwise_mergeSort_inOrder _)

theorem mem_selected_iff {found : List Finding} (hglobs : includeGlobs patterns = .ok globs)
    (hnames : ∀ names, .file names ∈ found → AreNames names) :
    file ∈ selected root globs found ↔
      ∃ names, .file names ∈ found ∧ IsSource root patterns names file := by
  have hsifted (a : SourceFile) :
      a ∈ (found.filterMap fun f => (sift root globs f).1).mergeSort inOrder ↔
        ∃ names, .file names ∈ found ∧ IsSource root patterns names a := by
    rw [List.mem_mergeSort, List.mem_filterMap]
    constructor
    · rintro ⟨f, hf, hsift⟩
      cases f with
      | problem message => cases hsift
      | file names => exact ⟨names, hf, (sift_file_iff hglobs (hnames names hf)).mp hsift⟩
    · rintro ⟨names, hf, hsource⟩
      exact ⟨_, hf, (sift_file_iff hglobs (hnames names hf)).mpr hsource⟩
  rw [selected, mem_dropRepeated_iff, hsifted]
  intro a ha b hb htie
  obtain ⟨names, hf, hsource⟩ := (hsifted a).mp ha
  obtain ⟨others, hf', hsource'⟩ := (hsifted b).mp hb
  exact hsource.eq_of_tie (hnames names hf) (hnames others hf') hsource' htie

/-- What discovery makes of the findings of a walk: the selected files, and the events on the way. -/
def outcome (root : String) (globs : List Glob) (found : List Finding) :
    List SourceFile × List LogEvent :=
  let files := selected root globs found
  (files, found.flatMap (fun f => (sift root globs f).2) ++
    [{ level := .debug, message := "discovered files"
       fields := [("count", toString files.length), ("root", root)] }])

/-- The walk of a discovery. -/
def surveyOf (tree : FileTree) (root : String) (options : DiscoveryOptions)
    (excludes : IgnoreRules) : Survey :=
  { tree, root, excludes, respectIgnoreFiles := options.respectIgnoreFiles }

end Discovery

open Discovery

theorem discover_eq_ok_iff_selected {tree : FileTree} {root : String} {options : DiscoveryOptions}
    {files : List SourceFile} :
    (∃ events, discover tree root options = .ok (files, events)) ↔
      tree.isDirectory root = true ∧ ∃ globs excludes,
        includeGlobs options.patterns = .ok globs ∧ excludeRules options.exclude = .ok excludes ∧
        files = selected root globs (surveyOf tree root options excludes).findings := by
  rw [discover_eq_ok_iff]
  unfold sifted?
  cases tree.isDirectory root with
  | false => simp
  | true =>
    cases includeGlobs options.patterns with
    | error e => simp
    | ok globs =>
      cases excludeRules options.exclude with
      | error e => simp
      | ok excludes => simp [selected, surveyOf]

theorem discover_eq_ok_iff_outcome {tree : FileTree} {root : String} {options : DiscoveryOptions}
    {result : List SourceFile × List LogEvent} :
    discover tree root options = .ok result ↔
      tree.isDirectory root = true ∧ ∃ globs excludes,
        includeGlobs options.patterns = .ok globs ∧ excludeRules options.exclude = .ok excludes ∧
        result = outcome root globs (surveyOf tree root options excludes).findings := by
  unfold discover
  cases tree.isDirectory root with
  | false => simp [throw, throwThe, MonadExceptOf.throw, bind, Except.bind]
  | true =>
    cases includeGlobs options.patterns with
    | error e => simp [bind, Except.bind]
    | ok globs =>
      cases excludeRules options.exclude with
      | error e => simp [bind, Except.bind]
      | ok excludes =>
        simp [bind, Except.bind, pure, Except.pure, outcome, selected, surveyOf, List.filterMap_map,
          List.flatMap_map, eq_comm (a := result)]

section Discover
variable {tree : FileTree} {root : String} {options : DiscoveryOptions} {globs : List Glob}
  {excludes : IgnoreRules}

theorem mem_selected_iff_comesUpon {found : List Finding} (hwf : tree.WellFormed)
    (hglobs : includeGlobs options.patterns = .ok globs)
    (hfound : ∀ f, f ∈ found ↔ f ∈ (surveyOf tree root options excludes).findings)
    {file : SourceFile} :
    file ∈ selected root globs found ↔
      ∃ names, (surveyOf tree root options excludes).ComesUpon (.file names) ∧
        IsSource root options.patterns names file := by
  have hcomes (names : List String) : .file names ∈ found ↔
      (surveyOf tree root options excludes).ComesUpon (.file names) :=
    (hfound _).trans (Survey.mem_findings_iff hwf)
  rw [mem_selected_iff hglobs fun names hmem => ((hcomes names).mp hmem).isName hwf]
  exact exists_congr fun names => and_congr_left fun _ => hcomes names

theorem mem_discover_iff {files : List SourceFile} {events : List LogEvent}
    (hwf : tree.WellFormed) (h : discover tree root options = .ok (files, events))
    (hexcludes : excludeRules options.exclude = .ok excludes) {file : SourceFile} :
    file ∈ files ↔
      ∃ names, (surveyOf tree root options excludes).ComesUpon (.file names) ∧
        IsSource root options.patterns names file := by
  obtain ⟨-, globs, others, hglobs, hothers, rfl⟩ := discover_eq_ok_iff_selected.mp ⟨events, h⟩
  obtain rfl : excludes = others := Except.ok.inj (hexcludes.symm.trans hothers)
  exact mem_selected_iff_comesUpon hwf hglobs fun _ => Iff.rfl

/-- A walk comes upon the same files if the entries stand in another order. -/
theorem comesUpon_reordered {other : FileTree} (hwf : tree.WellFormed) (h : tree.GrowsTo other)
    (h' : other.GrowsTo tree) {names : List String}
    (hfile : (surveyOf tree root options excludes).ComesUpon (.file names)) :
    (surveyOf other root options excludes).ComesUpon (.file names) :=
  Survey.ComesUpon.moved h hwf (fun _ => Survey.sameLevels_of_leadsAlike (h.leadsAlike h')) hfile

/-- The discovered files: in strict order, exactly the source files that the walk comes upon, each
with its path and language, and the same for every order of the walk and of the entries. -/
theorem discover_selects {files : List SourceFile} {events : List LogEvent} (hwf : tree.WellFormed)
    (h : discover tree root options = .ok (files, events)) :
    files.Pairwise SourceFile.Before ∧ files.Nodup ∧
    (∃ globs excludes, includeGlobs options.patterns = .ok globs ∧
      excludeRules options.exclude = .ok excludes ∧
      (∀ file, file ∈ files ↔
        ∃ names, (surveyOf tree root options excludes).ComesUpon (.file names) ∧
          IsSource root options.patterns names file) ∧
      (∀ file ∈ files, tree.isFile file.path = true) ∧
      ∀ found, found.Perm (surveyOf tree root options excludes).findings →
        selected root globs found = files) ∧
    ∀ other : FileTree, other.WellFormed → tree.GrowsTo other → other.GrowsTo tree →
      ∃ events', discover other root options = .ok (files, events') := by
  have hsorted := pairwise_discover h
  obtain ⟨hroot, globs, excludes, hglobs, hexcludes, hfiles⟩ :=
    discover_eq_ok_iff_selected.mp ⟨events, h⟩
  have hmem (file : SourceFile) : file ∈ files ↔
      ∃ names, (surveyOf tree root options excludes).ComesUpon (.file names) ∧
        IsSource root options.patterns names file := by
    rw [hfiles]
    exact mem_selected_iff_comesUpon hwf hglobs fun _ => Iff.rfl
  refine ⟨hsorted, hsorted.nodup, ⟨globs, excludes, hglobs, hexcludes, hmem, ?_, ?_⟩, ?_⟩
  · intro file hfile
    obtain ⟨names, hcomes, hsource⟩ := (hmem file).mp hfile
    rw [hsource.path, hsource.relative]
    exact hcomes.isFile hwf
  · intro found hperm
    apply (pairwise_selected root globs found).eq_of_mem_iff hsorted
    intro file
    rw [hmem]
    exact mem_selected_iff_comesUpon hwf hglobs fun _ => hperm.mem_iff
  · intro other hother hgrows hback
    refine discover_eq_ok_iff_selected.mpr
      ⟨hgrows.isDirectory hroot, globs, excludes, hglobs, hexcludes, ?_⟩
    apply hsorted.eq_of_mem_iff (pairwise_selected root globs _)
    intro file
    rw [hmem, mem_selected_iff_comesUpon hother hglobs fun _ => Iff.rfl]
    refine exists_congr fun names => and_congr_left fun _ => ⟨?_, ?_⟩
    · exact comesUpon_reordered hwf hgrows hback
    · exact comesUpon_reordered hother hback hgrows

end Discover

namespace SelectionSample

/-- A directory with two source files and a third file, and a link to the directory. -/
def entries : List (String × FileNode) :=
  [("lib", .link "src"),
    ("src", .directory [("a.ts", .file .empty), ("b.tsx", .file .empty), ("c.md", .file .empty)])]

def files : List SourceFile :=
  [{ path := "./lib/a.ts", relative := "lib/a.ts", language := .typescript },
    { path := "./lib/b.tsx", relative := "lib/b.tsx", language := .tsx },
    { path := "./src/a.ts", relative := "src/a.ts", language := .typescript },
    { path := "./src/b.tsx", relative := "src/b.tsx", language := .tsx }]

theorem discover_files : ∃ events, discover { entries } "." {} = .ok (files, events) :=
  discover_of_sifted (by decide +kernel) (by decide)

end SelectionSample

open SelectionSample in
theorem discover_selects_reversed :
    (∃ excludes names, (surveyOf { entries } "." {} excludes).ComesUpon (.file names) ∧
      "lib/a.ts" = "/".intercalate names) ∧
    ∃ events, discover { entries := entries.reverse } "." {} = .ok (files, events) := by
  obtain ⟨events, h⟩ := discover_files
  have hwf : FileTree.WellFormed { entries } := by decide
  have hwf' : FileTree.WellFormed { entries := entries.reverse } := by decide
  obtain ⟨-, -, ⟨globs, excludes, -, -, hmem, -⟩, hother⟩ := discover_selects hwf h
  constructor
  · obtain ⟨names, hcomes, hsource⟩ := (hmem _).mp List.mem_cons_self
    exact ⟨excludes, names, hcomes, hsource.relative⟩
  · exact hother _ hwf' (FileTree.growsTo_of_perm hwf' entries.reverse_perm.symm)
      (FileTree.growsTo_of_perm hwf entries.reverse_perm)

end PackageUsage
