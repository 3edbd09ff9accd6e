import Mathlib.Data.List.Pairwise
import PackageUsage.Proofs.Scan.Contribution

/-!
# Sound results

What holds of the results of every scan: the numbers count what is there, every record is worth
recording, the failures stand in the order of their paths, and no file has both records and a
failure. The order of the failures, and that records and failures keep apart, come from the order in
which the files are discovered.
-/

namespace PackageUsage

namespace ScanResult

/-- The results of a scan fit together, for the target of the scan. -/
structure Sound (matcher : Matcher) (r : ScanResult) : Prop where
  records_counted : r.stats.records = r.records.length
  failures_counted : r.stats.filesFailed = r.failures.length
  files_counted : r.stats.filesScanned + r.stats.filesFailed = r.stats.filesDiscovered
  binding : ∀ record ∈ r.records, record.names ≠ []
  accepted : ∀ record ∈ r.records, matcher.accepts record.specifier = true
  failures_distinct : (r.failures.map FileFailure.path).Nodup
  failures_ordered : r.failures.Pairwise (fun a b => Path.compare a.path b.path = .lt)
  apart : ∀ record ∈ r.records, ∀ failure ∈ r.failures,
    Path.compare record.file failure.path ≠ .eq

theorem sound_empty (matcher : Matcher) : Sound matcher {} where
  records_counted := rfl
  failures_counted := rfl
  files_counted := rfl
  binding := by simp
  accepted := by simp
  failures_distinct := List.nodup_nil
  failures_ordered := .nil
  apart := by simp

/-! ## Numbers -/

/-- Each file is scanned or fails. -/
theorem add_counted (tree : FileTree) (matcher : Matcher) (r : ScanResult) (file : SourceFile) :
    let next := (r.add tree matcher file).1
    next.stats.filesScanned + next.failures.length =
        r.stats.filesScanned + r.failures.length + 1 ∧
      next.stats.filesDiscovered = r.stats.filesDiscovered := by
  cases htree : treeOf tree file with
  | error fault =>
    simp only [add, htree, List.length_append, List.length_singleton]
    exact ⟨by omega, trivial⟩
  | ok parsed =>
    simp only [add, htree]
    exact ⟨by omega, trivial⟩

/-- Adding files counts each of them once. -/
theorem addAll_counted (tree : FileTree) (matcher : Matcher) (r : ScanResult)
    (files : List SourceFile) :
    let last := (r.addAll tree matcher files).1
    last.stats.filesScanned + last.failures.length =
        r.stats.filesScanned + r.failures.length + files.length ∧
      last.stats.filesDiscovered = r.stats.filesDiscovered := by
  induction files generalizing r with
  | nil => exact ⟨rfl, rfl⟩
  | cons file files ih =>
    obtain ⟨hfirst, hdiscovered⟩ := add_counted tree matcher r file
    obtain ⟨hrest, hdiscovered'⟩ := ih (r.add tree matcher file).1
    simp only [addAll, List.length_cons]
    exact ⟨by omega, hdiscovered'.trans hdiscovered⟩

/-! ## Records and failures -/

theorem record_of_mem_alone {tree : FileTree} {matcher : Matcher} {file : SourceFile}
    {record : Record} (h : record ∈ (alone tree matcher file).records) :
    record.names ≠ [] ∧ matcher.accepts record.specifier = true ∧
      (alone tree matcher file).failures = [] := by
  cases htree : treeOf tree file with
  | error fault =>
    rw [(alone_of_treeOf_error matcher htree).1] at h
    cases h
  | ok parsed =>
    obtain ⟨hrecords, hfailures⟩ := alone_of_treeOf_ok matcher htree
    rw [hrecords] at h
    obtain ⟨node, -, hnode⟩ := List.mem_filterMap.mp h
    obtain ⟨kind, specifier, -, -, haccepts, hnames, rfl⟩ :=
      (Source.Tree.record?_eq_some_iff ..).mp hnode
    exact ⟨hnames, haccepts, hfailures⟩

/-- The failures of one file do not stand in each other's way: there is at most one. -/
theorem pairwise_alone_failures {tree : FileTree} {matcher : Matcher} {file : SourceFile}
    (R : FileFailure → FileFailure → Prop) :
    (alone tree matcher file).failures.Pairwise R := by
  by_cases hbroken : file.Broken tree
  · obtain ⟨-, failure, hfailure, -⟩ := alone_of_broken matcher hbroken
    rw [hfailure]
    exact List.pairwise_singleton R failure
  · rw [alone_of_not_broken matcher hbroken]
    exact .nil

/-- Files in strict order have their failures in strict order. -/
theorem failures_pairwise {tree : FileTree} {matcher : Matcher} {files : List SourceFile}
    (h : files.Pairwise SourceFile.Before) :
    (ofFiles tree matcher files).1.failures.Pairwise
      (fun a b => Path.compare a.path b.path = .lt) := by
  rw [failures_ofFiles, List.pairwise_flatMap]
  refine ⟨fun file _ => pairwise_alone_failures _, h.imp ?_⟩
  intro a b hab x hx y hy
  rw [path_of_mem_alone hx, path_of_mem_alone hy]
  exact hab

/-- In a list of files in strict order, two files whose paths tie are one. -/
theorem eq_of_compare_eq {files : List SourceFile} (h : files.Pairwise SourceFile.Before)
    {a b : SourceFile} (ha : a ∈ files) (hb : b ∈ files)
    (hab : Path.compare a.relative b.relative = .eq) : a = b := by
  rw [Path.compare_eq_eq_iff] at hab
  induction h with
  | nil => cases ha
  | @cons first rest hfirst _ ih =>
    have hne : ∀ c ∈ rest, Path.components first.relative ≠ Path.components c.relative := by
      intro c hc heq
      have hlt : Path.compare first.relative c.relative = .lt := hfirst c hc
      rw [(Path.compare_eq_eq_iff _ _).mpr heq] at hlt
      cases hlt
    rcases List.mem_cons.mp ha with rfl | ha' <;> rcases List.mem_cons.mp hb with rfl | hb'
    · rfl
    · exact absurd hab (hne b hb')
    · exact absurd hab.symm (hne a ha')
    · exact ih ha' hb'

/-- The results on files in strict order are sound. -/
theorem sound_ofFiles {tree : FileTree} {matcher : Matcher} {files : List SourceFile}
    (h : files.Pairwise SourceFile.Before) : Sound matcher (ofFiles tree matcher files).1 where
  records_counted := rfl
  failures_counted := rfl
  files_counted := by
    obtain ⟨hcount, hdiscovered⟩ :=
      addAll_counted tree matcher { stats := { filesDiscovered := files.length } } files
    simp only [ofFiles, tally, hdiscovered]
    simpa using hcount
  binding := by
    intro record hrecord
    rw [records_ofFiles] at hrecord
    obtain ⟨file, -, hfile⟩ := List.mem_flatMap.mp hrecord
    exact (record_of_mem_alone hfile).1
  accepted := by
    intro record hrecord
    rw [records_ofFiles] at hrecord
    obtain ⟨file, -, hfile⟩ := List.mem_flatMap.mp hrecord
    exact (record_of_mem_alone hfile).2.1
  failures_distinct := by
    rw [List.Nodup, List.pairwise_map]
    exact (failures_pairwise h).imp fun hlt => Path.ne_of_lt hlt
  failures_ordered := failures_pairwise h
  apart := by
    intro record hrecord failure hfailure htie
    rw [records_ofFiles] at hrecord
    rw [failures_ofFiles] at hfailure
    obtain ⟨a, ha, hrecord⟩ := List.mem_flatMap.mp hrecord
    obtain ⟨b, hb, hfailure⟩ := List.mem_flatMap.mp hfailure
    rw [file_of_mem_alone hrecord, path_of_mem_alone hfailure] at htie
    -- the two paths tie, so it is one file; but a file with a record has no failure
    obtain rfl := eq_of_compare_eq h ha hb htie
    rw [(record_of_mem_alone hrecord).2.2] at hfailure
    cases hfailure

end ScanResult

end PackageUsage
