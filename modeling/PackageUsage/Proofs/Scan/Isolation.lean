import Mathlib.Data.List.Basic
import PackageUsage.Proofs.Scan.Contribution

/-!
# Failure isolation

Two scans over the same discovered files, whose contents differ in one file only, differ only in
what they say about this file. In particular a broken file that is discovered in addition changes
neither the records nor the names.
-/

namespace PackageUsage

open ScanResult

/-- Two results agree on all files but the one with a given path. -/
structure ScanResult.AgreeBut (path : String) (a b : ScanResult) : Prop where
  records : a.records.filter (·.file ≠ path) = b.records.filter (·.file ≠ path)
  failures : a.failures.filter (·.path ≠ path) = b.failures.filter (·.path ≠ path)

/-- What is left of the contributions of some files when the entries with one path are taken out:
the contributions of the files with other paths. -/
theorem filter_flatMap_contribution {α : Type} (contribution : SourceFile → List α)
    (pathOf : α → String) (hpath : ∀ file, ∀ x ∈ contribution file, pathOf x = file.relative)
    (path : String) (files : List SourceFile) :
    (files.flatMap contribution).filter (pathOf · ≠ path) =
      (files.filter (·.relative ≠ path)).flatMap contribution := by
  induction files with
  | nil => rfl
  | cons file files ih =>
    rw [List.flatMap_cons, List.filter_append, ih]
    by_cases hfile : file.relative = path
    · have hnone : (contribution file).filter (pathOf · ≠ path) = [] := by
        rw [List.filter_eq_nil_iff]
        intro x hx
        simp [hpath file x hx, hfile]
      rw [hnone, List.filter_cons_of_neg (by simpa using hfile)]
      rfl
    · have hall : (contribution file).filter (pathOf · ≠ path) = contribution file := by
        rw [List.filter_eq_self]
        intro x hx
        simp [hpath file x hx, hfile]
      rw [hall, List.filter_cons_of_pos (by simpa using hfile), List.flatMap_cons]

/-- The results on the same files of two trees that agree on all of them but one. -/
theorem agreeBut_ofFiles {a b : FileTree} {matcher : Matcher} {files : List SourceFile}
    {f : SourceFile} (h : ∀ g ∈ files, g ≠ f → a.readText g.path = b.readText g.path) :
    AgreeBut f.relative (ofFiles a matcher files).1 (ofFiles b matcher files).1 := by
  have halone : ∀ g ∈ files.filter (·.relative ≠ f.relative),
      alone a matcher g = alone b matcher g := by
    intro g hg
    obtain ⟨hmem, hpath⟩ := List.mem_filter.mp hg
    refine alone_eq_of_readText matcher (h g hmem ?_)
    rintro rfl
    simp at hpath
  constructor
  · rw [records_ofFiles, records_ofFiles,
      filter_flatMap_contribution _ _ (fun _ _ => file_of_mem_alone),
      filter_flatMap_contribution _ _ (fun _ _ => file_of_mem_alone)]
    exact List.flatMap_congr fun g hg => by rw [halone g hg]
  · rw [failures_ofFiles, failures_ofFiles,
      filter_flatMap_contribution _ _ (fun _ _ => path_of_mem_alone),
      filter_flatMap_contribution _ _ (fun _ _ => path_of_mem_alone)]
    exact List.flatMap_congr fun g hg => by rw [halone g hg]

/-- A broken file among others changes none of the records. -/
theorem records_ofFiles_insert_broken (matcher : Matcher) {a b : FileTree}
    {before after : List SourceFile} {f : SourceFile} (hf : f.Broken b)
    (h : ∀ g ∈ before ++ after, a.readText g.path = b.readText g.path) :
    (ofFiles b matcher (before ++ f :: after)).1.records =
      (ofFiles a matcher (before ++ after)).1.records := by
  have hnone : (alone b matcher f).records = [] := (alone_of_broken matcher hf).1
  have hsame : ∀ g ∈ before ++ after,
      (alone b matcher g).records = (alone a matcher g).records := by
    intro g hg
    rw [alone_eq_of_readText matcher (h g hg)]
  rw [records_ofFiles, records_ofFiles, ← List.flatMap_congr hsame]
  simp [hnone]

/-- Failure isolation, for every scanner and all patterns of a call.

Two trees with the same discovered files and the same contents in all of them but `f` give results
that agree on all files but `f`. The records and failures of a scan are the contributions of its
files, one after the other; a broken file contributes no record and one failure, any other file no
failure. A broken file that is discovered in addition changes neither the records nor the names. -/
theorem scan_isolates_failures (s : Scanner) (patterns : List String) :
    (∀ (a b : FileTree) (files : List SourceFile) (f : SourceFile) (ea eb : List LogEvent),
      discover a s.plan.root (s.options patterns) = .ok (files, ea) →
      discover b s.plan.root (s.options patterns) = .ok (files, eb) →
      (∀ g ∈ files, g ≠ f → a.readText g.path = b.readText g.path) →
      AgreeBut f.relative (s.tryScan a patterns).scanner.result
        (s.tryScan b patterns).scanner.result) ∧
    (∀ (tree : FileTree) (files : List SourceFile) (events : List LogEvent),
      discover tree s.plan.root (s.options patterns) = .ok (files, events) →
      (s.tryScan tree patterns).scanner.result.records =
        files.flatMap (fun g => (alone tree s.matcher g).records) ∧
      (s.tryScan tree patterns).scanner.result.failures =
        files.flatMap (fun g => (alone tree s.matcher g).failures) ∧
      ∀ g ∈ files,
        (g.Broken tree → (alone tree s.matcher g).records = [] ∧
          ∃ failure, (alone tree s.matcher g).failures = [failure] ∧ failure.path = g.relative) ∧
        (¬ g.Broken tree → (alone tree s.matcher g).failures = [])) ∧
    (∀ (a b : FileTree) (before after : List SourceFile) (f : SourceFile) (ea eb : List LogEvent),
      discover a s.plan.root (s.options patterns) = .ok (before ++ after, ea) →
      discover b s.plan.root (s.options patterns) = .ok (before ++ f :: after, eb) →
      (∀ g ∈ before ++ after, a.readText g.path = b.readText g.path) → f.Broken b →
      (s.tryScan b patterns).scanner.result.records =
        (s.tryScan a patterns).scanner.result.records ∧
      (s.tryScan b patterns).answer = (s.tryScan a patterns).answer) ∧
    ∀ tree, (s.scan tree patterns).scanner = (s.tryScan tree patterns).scanner := by
  refine ⟨?_, ?_, ?_, fun tree => s.scanner_scan tree patterns⟩
  · intro a b files f ea eb ha hb hsame
    rw [(Scanner.tryScan_of_discover ha).1, (Scanner.tryScan_of_discover hb).1]
    exact agreeBut_ofFiles hsame
  · intro tree files events h
    rw [(Scanner.tryScan_of_discover h).1]
    exact ⟨records_ofFiles _ _ files, failures_ofFiles _ _ files,
      fun g _ => ⟨alone_of_broken _, alone_of_not_broken _⟩⟩
  · intro a b before after f ea eb ha hb hsame hf
    obtain ⟨hscannerA, hanswerA⟩ := Scanner.tryScan_of_discover ha
    obtain ⟨hscannerB, hanswerB⟩ := Scanner.tryScan_of_discover hb
    have hrecords := records_ofFiles_insert_broken s.matcher hf hsame
    rw [hscannerA, hscannerB, hanswerA, hanswerB, names, names, hrecords]
    exact ⟨rfl, rfl⟩

namespace IsolationSample

/-- A scanner for the package `pkg` in the current directory. -/
def scanner : Scanner :=
  { plan := { root := ".", target := { text := "pkg" } }, matcher := .start "pkg".toList }

def fileA : SourceFile :=
  { path := "./a.ts", relative := "a.ts", language := .typescript }

def fileB : SourceFile :=
  { path := "./b.ts", relative := "b.ts", language := .typescript }

def textA : String :=
  "import a from 'pkg';"

/-- One sound file. -/
def sound : FileTree :=
  { entries := [("a.ts", .file textA.toUTF8)] }

/-- The sound file and a second one. -/
def mended : FileTree :=
  { entries := [("a.ts", .file textA.toUTF8), ("b.ts", .file "export * as b from 'pkg';".toUTF8)] }

/-- The sound file and a second one that breaks off after a whole declaration. -/
def broken : FileTree :=
  { entries := [("a.ts", .file textA.toUTF8),
      ("b.ts", .file "import b from 'pkg'; import \x7b".toUTF8)] }

/-- The trees hold the files that they show, and nothing else is discovered. -/
theorem discover_sample (tree : FileTree) (files : List SourceFile)
    (h : (tree, files) = (sound, [fileA]) ∨ (tree, files) = (mended, [fileA, fileB]) ∨
      (tree, files) = (broken, [fileA, fileB])) :
    ∃ events, discover tree scanner.plan.root (scanner.options []) = .ok (files, events) := by
  rcases h with h | h | h <;> cases h
  · exact discover_of_sifted (by decide +kernel) (by decide +kernel)
  · exact discover_of_sifted (by decide +kernel) (by decide +kernel)
  · exact discover_of_sifted (by decide +kernel) (by decide +kernel)

theorem readText_eq_of_toOption {tree : FileTree} {path text : String}
    (h : (tree.readText path).toOption = some text) : tree.readText path = .ok text := by
  cases hread : tree.readText path with
  | error cause => simp [hread, Except.toOption] at h
  | ok other => simpa [hread, Except.toOption] using h

theorem broken_fileB : fileB.Broken broken := by
  have hread : broken.readText fileB.path = .ok "import b from 'pkg'; import \x7b" :=
    readText_eq_of_toOption (by decide +kernel)
  have hparse : (Source.parse fileB.relative "import b from 'pkg'; import \x7b").toOption.isSome =
      false := by decide +kernel
  cases h : Source.parse fileB.relative "import b from 'pkg'; import \x7b" with
  | error cause => exact Or.inr ⟨_, cause, hread, h⟩
  | ok parsed => simp [h, Except.toOption] at hparse

end IsolationSample

open IsolationSample in
theorem scan_isolates_failures_sample :
    AgreeBut "b.ts" (scanner.tryScan mended []).scanner.result
      (scanner.tryScan broken []).scanner.result ∧
    (∃ failure, (alone broken scanner.matcher fileB).failures = [failure] ∧
      failure.path = "b.ts") ∧
    (scanner.tryScan broken []).answer = (scanner.tryScan sound []).answer := by
  obtain ⟨es, hsound⟩ := discover_sample sound [fileA] (by simp)
  obtain ⟨em, hmended⟩ := discover_sample mended [fileA, fileB] (by simp)
  obtain ⟨eb, hbroken⟩ := discover_sample broken [fileA, fileB] (by simp)
  have hread (tree : FileTree) (h : (tree.readText fileA.path).toOption = some textA) :
      tree.readText fileA.path = .ok textA := readText_eq_of_toOption h
  obtain ⟨hagree, hparts, hinsert, -⟩ := scan_isolates_failures scanner []
  refine ⟨hagree mended broken [fileA, fileB] fileB em eb hmended hbroken ?_, ?_, ?_⟩
  · intro g hg hne
    have hA : g = fileA := by simpa [hne] using hg
    rw [hA, hread mended (by decide +kernel), hread broken (by decide +kernel)]
  · have hfileB := (hparts broken [fileA, fileB] eb hbroken).2.2 fileB (by simp)
    exact (hfileB.1 broken_fileB).2
  · refine (hinsert sound broken [fileA] [] fileB es eb hsound hbroken ?_ broken_fileB).2
    intro g hg
    have hA : g = fileA := by simpa using hg
    rw [hA, hread sound (by decide +kernel), hread broken (by decide +kernel)]

end PackageUsage
