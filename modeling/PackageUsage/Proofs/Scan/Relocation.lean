import PackageUsage.Proofs.Discovery.Relocation
import PackageUsage.Proofs.Scan.Narrowing

/-!
# Scans below a directory

A scan from the directory below which a tree is held has the results of a scan of the tree itself,
whatever the scan looks for: results are about relative paths only. Nothing outside the tree may
have a say in what is ignored. That takes more than that the directories above have no ignore files
and no `.git`: a repository may also start at a `.jj`, and a `.git` in the tree that is a file may
name a directory, which need not move with the tree.
-/

namespace PackageUsage

open Discovery

/-- The files that are discovered have names from the scan root on. -/
theorem exists_names_of_discover {tree : FileTree} {root : String} {options : DiscoveryOptions}
    {files : List SourceFile} {events : List LogEvent} (hwf : tree.WellFormed)
    (h : discover tree root options = .ok (files, events)) :
    ∀ file ∈ files, ∃ names, AreNames names ∧ IsSource root options.patterns names file := by
  obtain ⟨-, globs, excludes, hglobs, -, rfl⟩ := discover_eq_ok_iff_selected.mp ⟨events, h⟩
  intro file hfile
  obtain ⟨names, hcomes, hsource⟩ :=
    (mem_selected_iff_comesUpon hwf hglobs fun _ => Iff.rfl).mp hfile
  exact ⟨names, hcomes.isName hwf, hsource⟩

namespace ScanResult

/-- Files with the same contents in both trees have the same results. -/
theorem addAll_under {a b : FileTree} {matcher : Matcher} {root : String} {files : List SourceFile}
    (h : ∀ file ∈ files, a.readText (file.under root).path = b.readText file.path)
    (r : ScanResult) :
    r.addAll a matcher (files.map (SourceFile.under root)) = r.addAll b matcher files := by
  induction files generalizing r with
  | nil => rfl
  | cons file files ih =>
    obtain ⟨hfile, hfiles⟩ := List.forall_mem_cons.mp h
    have htree : treeOf a (file.under root) = treeOf b file := by
      rw [treeOf, treeOf, hfile]
      rfl
    have hadd : r.add a matcher (file.under root) = r.add b matcher file := by
      unfold add
      rw [htree]
      rfl
    rw [List.map_cons, addAll, addAll, hadd]
    dsimp only
    rw [ih hfiles]

theorem ofFiles_under {a b : FileTree} {matcher : Matcher} {root : String} {files : List SourceFile}
    (h : ∀ file ∈ files, a.readText (file.under root).path = b.readText file.path) :
    ofFiles a matcher (files.map (SourceFile.under root)) = ofFiles b matcher files := by
  rw [ofFiles, ofFiles, List.length_map]
  dsimp only
  rw [addAll_under h]

end ScanResult

/-- A scanner with another scan root. -/
def Scanner.from (s : Scanner) (root : String) : Scanner :=
  { s with plan := { s.plan with root } }

/-- Two scans have the same results and answer with the same names or the same error. -/
structure SameOutcome {α : Type} (a b : Scanner.Step α) : Prop where
  result : a.scanner.result = b.scanner.result
  answer : a.answer = b.answer

theorem SameOutcome.scan {a b : Scanner} {tree other : FileTree} {patterns : List String}
    (h : SameOutcome (a.tryScan tree patterns) (b.tryScan other patterns)) :
    SameOutcome (a.scan tree patterns) (b.scan other patterns) where
  result := by rw [Scanner.scanner_scan, Scanner.scanner_scan, h.result]
  answer := by
    rw [Scanner.scan, Scanner.scan, h.answer]
    cases (b.tryScan other patterns).answer <;> rfl

section Relocation
variable {outer inner : FileTree} {folder : Place}

theorem tryScan_relocates (s : Scanner) (patterns : List String)
    (h : outer.HoldsPlainly folder inner)
    (hclear : s.plan.respectIgnoreFiles = true → Secluded outer folder inner) :
    SameOutcome ((s.from ("/".intercalate folder)).tryScan outer patterns)
      ((s.from ".").tryScan inner patterns) := by
  have hdiscover : (discover outer ("/".intercalate folder) (s.options patterns)).map Prod.fst =
      (discover inner "." (s.options patterns)).map _ :=
    discover_relocates h hclear
  cases hinner : discover inner "." (s.options patterns) with
  | error e =>
    rw [hinner] at hdiscover
    cases houter : discover outer ("/".intercalate folder) (s.options patterns) with
    | ok found =>
      rw [houter] at hdiscover
      cases hdiscover
    | error e' =>
      rw [houter] at hdiscover
      cases hdiscover
      obtain ⟨hscanner, hanswer⟩ :=
        @Scanner.tryScan_of_error (s.from ("/".intercalate folder)) _ _ _ houter
      obtain ⟨hscanner', hanswer'⟩ := @Scanner.tryScan_of_error (s.from ".") _ _ _ hinner
      exact ⟨by rw [hscanner, hscanner'], hanswer.trans hanswer'.symm⟩
  | ok found =>
    obtain ⟨files, events⟩ := found
    rw [hinner] at hdiscover
    cases houter : discover outer ("/".intercalate folder) (s.options patterns) with
    | error e =>
      rw [houter] at hdiscover
      cases hdiscover
    | ok found' =>
      obtain ⟨files', events'⟩ := found'
      rw [houter] at hdiscover
      cases hdiscover
      obtain ⟨hscanner, hanswer⟩ :=
        @Scanner.tryScan_of_discover (s.from ("/".intercalate folder)) _ _ _ _ houter
      obtain ⟨hscanner', hanswer'⟩ := @Scanner.tryScan_of_discover (s.from ".") _ _ _ _ hinner
      have hread : ∀ file ∈ files, outer.readText
          (file.under ("/".intercalate folder)).path = inner.readText file.path := by
        intro file hfile
        obtain ⟨names, hnames, hsource⟩ :=
          exists_names_of_discover h.inner_wellFormed hinner file hfile
        rw [hsource.path, SourceFile.under, hsource.relative]
        exact h.readText_join hnames.2 hnames.1
      have hfiles := @ScanResult.ofFiles_under outer inner s.matcher _ files hread
      constructor
      · rw [hscanner, hscanner']
        exact congrArg Prod.fst hfiles
      · rw [hanswer, hanswer']
        exact congrArg (fun found => Except.ok found.1.names) hfiles

/-- Relocation invariance, for every scanner and all patterns of a call.

A scan of a tree without links has the records, failures, numbers and names of a scan from a
directory below which another tree holds it, if ignore files are passed over or nothing outside the
tree has a say in what is ignored. -/
theorem scan_relocates (s : Scanner) (patterns : List String)
    (h : outer.HoldsPlainly folder inner)
    (hclear : s.plan.respectIgnoreFiles = true → Secluded outer folder inner) :
    SameOutcome ((s.from ("/".intercalate folder)).tryScan outer patterns)
        ((s.from ".").tryScan inner patterns) ∧
      SameOutcome ((s.from ("/".intercalate folder)).scan outer patterns)
        ((s.from ".").scan inner patterns) :=
  ⟨tryScan_relocates s patterns h hclear, (tryScan_relocates s patterns h hclear).scan⟩

end Relocation

namespace RelocationSample

/-- A scanner for the package `pkg` that respects ignore files. -/
def scanner : Scanner :=
  { plan := { root := ".", target := { text := "pkg" } }, matcher := .start "pkg".toList }

/-- A repository that ignores one of two source files. -/
def repository : FileTree :=
  { entries := [(".git", .directory []), (".gitignore", .file "b.ts\n".toUTF8),
      ("src", .directory [("a.ts", .file .empty), ("b.ts", .file .empty)])] }

/-- A tree that holds the repository below two directories. -/
def workspace : FileTree :=
  { entries := [("b.ts", .file .empty),
      ("packages", .directory [("app", repository.top), ("lib", .directory [])])] }

theorem holds_repository : workspace.HoldsPlainly ["packages", "app"] repository where
  wellFormed := by decide +kernel
  holds := rfl
  below := by decide
  linkFree := by decide +kernel

theorem secluded_repository : Secluded workspace ["packages", "app"] repository where
  ignore := by decide +kernel
  git := by decide +kernel
  jj := by decide +kernel
  gitdirs := by decide +kernel

theorem discover_repository : ∃ events, discover repository "." {} =
    .ok ([{ path := "./src/a.ts", relative := "src/a.ts", language := .typescript }], events) :=
  discover_of_sifted (by decide +kernel) (by decide)

/-- A tree with an ignore file that is not in force, since no repository starts there. -/
def loose : FileTree :=
  { entries := [(".gitignore", .file "a.ts\n".toUTF8), ("a.ts", .file .empty)] }

/-- A tree whose `.git` names a directory in it as seen from its top. -/
def linked : FileTree :=
  { entries := [(".git", .file "gitdir: g".toUTF8),
      ("g", .directory [("commondir", .file ".".toUTF8),
        ("info", .directory [("exclude", .file "a.ts\n".toUTF8)])]),
      ("a.ts", .file .empty)] }

/-- A tree that holds another one below a directory, and nothing else. -/
def inside (name : String) (tree : FileTree) : FileTree :=
  { entries := [(name, tree.top)] }

theorem discover_nothing {tree : FileTree} {root : String} (h : sifted? tree root {} = some []) :
    ∃ events, discover tree root {} = .ok ([], events) :=
  discover_of_sifted h (by decide)

theorem discover_one {tree : FileTree} {root path : String}
    (h : sifted? tree root {} = some [{ path, relative := "a.ts", language := .typescript }]) :
    ∃ events, discover tree root {} =
      .ok ([{ path, relative := "a.ts", language := .typescript }], events) :=
  discover_of_sifted h (List.pairwise_singleton _ _)

theorem filesDiscovered_of_discover {tree : FileTree} {root : String} {files : List SourceFile}
    (h : ∃ events, discover tree root {} = .ok (files, events)) :
    ((scanner.from root).tryScan tree []).scanner.result.stats.filesDiscovered = files.length := by
  obtain ⟨events, h⟩ := h
  rw [(@Scanner.tryScan_of_discover (scanner.from root) tree [] files events h).1]
  exact ScanResult.filesDiscovered_ofFiles _ _ _

end RelocationSample

open RelocationSample in
theorem scan_relocates_repository :
    ((scanner.from "packages/app").tryScan workspace []).scanner.result.stats.filesDiscovered =
      1 := by
  have hsame := (scan_relocates scanner [] holds_repository fun _ => secluded_repository).1
  have hpath : "/".intercalate ["packages", "app"] = "packages/app" := by decide +kernel
  rw [hpath] at hsame
  rw [hsame.result]
  exact filesDiscovered_of_discover discover_repository

open RelocationSample in
/-- It does not suffice that no directory above has an ignore file or a `.git`. Below a `.jj`, an
ignore file is in force that is not in force elsewhere; and a `.git` that names a directory names
another one when seen from elsewhere. -/
theorem scan_not_relocated :
    ((inside ".jj" loose).HoldsPlainly [".jj"] loose ∧
      (∀ name ∈ [".ignore", ".gitignore", ".git"], (inside ".jj" loose).NoneAbove [".jj"] name) ∧
      ((scanner.from ".jj").tryScan (inside ".jj" loose) []).scanner.result ≠
        ((scanner.from ".").tryScan loose []).scanner.result) ∧
    (inside "p" linked).HoldsPlainly ["p"] linked ∧
      (∀ name ∈ [".ignore", ".gitignore", ".git"], (inside "p" linked).NoneAbove ["p"] name) ∧
      ((scanner.from "p").tryScan (inside "p" linked) []).scanner.result ≠
        ((scanner.from ".").tryScan linked []).scanner.result := by
  refine ⟨⟨⟨by decide +kernel, rfl, by decide, by decide +kernel⟩, by decide +kernel, ?_⟩,
    ⟨by decide +kernel, rfl, by decide, by decide +kernel⟩, by decide +kernel, ?_⟩
  · intro hsame
    have hnone := filesDiscovered_of_discover (@discover_nothing (inside ".jj" loose) ".jj"
      (by decide +kernel))
    have hone := filesDiscovered_of_discover (@discover_one loose "." "./a.ts" (by decide +kernel))
    rw [hsame, hone] at hnone
    cases hnone
  · intro hsame
    have hone := filesDiscovered_of_discover (@discover_one (inside "p" linked) "p" "p/a.ts"
      (by decide +kernel))
    have hnone := filesDiscovered_of_discover (@discover_nothing linked "." (by decide +kernel))
    rw [hsame, hnone] at hone
    cases hone

end PackageUsage
