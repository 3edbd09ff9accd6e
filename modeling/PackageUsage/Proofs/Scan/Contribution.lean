import PackageUsage.Proofs.Collect
import PackageUsage.Proofs.Discovery.Order
import PackageUsage.Scan

/-!
# What each file contributes to a scan

The results of a scan are put together file after file. A file adds to them what a scan of this file
alone finds: the records of its tree, or else one failure. So a file that cannot be read or has no
tree leaves no trace among the records, and no file changes what another one adds.
-/

namespace PackageUsage

/-- A file is broken: its text cannot be had, or the text has no tree. -/
def SourceFile.Broken (tree : FileTree) (file : SourceFile) : Prop :=
  (∃ cause, tree.readText file.path = .error cause) ∨
  ∃ text cause, tree.readText file.path = .ok text ∧
    Source.parse file.relative text = .error cause

namespace ScanResult

variable {tree : FileTree}

theorem treeOf_eq_of_readText {a b : FileTree} {file : SourceFile}
    (h : a.readText file.path = b.readText file.path) : treeOf a file = treeOf b file := by
  rw [treeOf, treeOf, h]

/-- A file with a tree has a text, and it is the tree of this text. -/
theorem parse_of_treeOf {file : SourceFile} {parsed : Source.Tree}
    (h : treeOf tree file = .ok parsed) :
    ∃ text, tree.readText file.path = .ok text ∧
      Source.parse file.relative text = .ok parsed := by
  unfold treeOf at h
  split at h
  · cases h
  · next text htext =>
    refine ⟨text, htext, ?_⟩
    split at h
    · cases h
    · next hparse =>
      cases h
      exact hparse

/-- A file has no tree exactly when it is broken. -/
theorem treeOf_eq_error_iff (tree : FileTree) (file : SourceFile) :
    (∃ fault, treeOf tree file = .error fault) ↔ file.Broken tree := by
  unfold treeOf SourceFile.Broken
  cases tree.readText file.path with
  | error cause => simp
  | ok text => cases hparse : Source.parse file.relative text <;> simp [hparse]

/-! ## One file -/

/-- The results on one file alone. -/
def alone (tree : FileTree) (matcher : Matcher) (file : SourceFile) : ScanResult :=
  (ofFiles tree matcher [file]).1

theorem alone_of_treeOf_ok (matcher : Matcher) {file : SourceFile} {parsed : Source.Tree}
    (h : treeOf tree file = .ok parsed) :
    (alone tree matcher file).records =
        parsed.preorder.filterMap (Source.Tree.record? file.relative matcher) ∧
      (alone tree matcher file).failures = [] := by
  simp [alone, ofFiles, addAll, add, tally, h, collect_eq_append]

theorem alone_of_treeOf_error (matcher : Matcher) {file : SourceFile} {fault : FileFault}
    (h : treeOf tree file = .error fault) :
    (alone tree matcher file).records = [] ∧
      (alone tree matcher file).failures = [{ path := file.relative, fault }] := by
  simp [alone, ofFiles, addAll, add, tally, h]

theorem alone_eq_of_readText (matcher : Matcher) {a b : FileTree} {file : SourceFile}
    (h : a.readText file.path = b.readText file.path) :
    alone a matcher file = alone b matcher file := by
  simp only [alone, ofFiles, addAll, add, treeOf_eq_of_readText h]

/-- A broken file contributes no record and exactly one failure. -/
theorem alone_of_broken (matcher : Matcher) {file : SourceFile} (h : file.Broken tree) :
    (alone tree matcher file).records = [] ∧
      ∃ failure, (alone tree matcher file).failures = [failure] ∧ failure.path = file.relative := by
  obtain ⟨fault, hfault⟩ := (treeOf_eq_error_iff tree file).mpr h
  obtain ⟨hrecords, hfailures⟩ := alone_of_treeOf_error matcher hfault
  exact ⟨hrecords, _, hfailures, rfl⟩

/-- A file that is not broken contributes no failure. -/
theorem alone_of_not_broken (matcher : Matcher) {file : SourceFile} (h : ¬ file.Broken tree) :
    (alone tree matcher file).failures = [] := by
  cases htree : treeOf tree file with
  | error fault => exact absurd ((treeOf_eq_error_iff tree file).mp ⟨fault, htree⟩) h
  | ok parsed => exact (alone_of_treeOf_ok matcher htree).2

/-- The records that a file contributes are those of the nodes of its tree. -/
theorem node_of_mem_alone {matcher : Matcher} {file : SourceFile} {r : Record}
    (h : r ∈ (alone tree matcher file).records) :
    ∃ parsed, treeOf tree file = .ok parsed ∧
      ∃ node ∈ parsed.preorder, node.record? file.relative matcher = some r := by
  cases htree : treeOf tree file with
  | error fault =>
    rw [(alone_of_treeOf_error matcher htree).1] at h
    cases h
  | ok parsed =>
    rw [(alone_of_treeOf_ok matcher htree).1] at h
    exact ⟨parsed, rfl, List.mem_filterMap.mp h⟩

/-- The records that a file contributes carry its path. -/
theorem file_of_mem_alone {matcher : Matcher} {file : SourceFile} {r : Record}
    (h : r ∈ (alone tree matcher file).records) : r.file = file.relative := by
  obtain ⟨parsed, -, node, -, hnode⟩ := node_of_mem_alone h
  exact (Source.Tree.describes_of_record? hnode).file

/-- The failures that a file contributes carry its path. -/
theorem path_of_mem_alone {matcher : Matcher} {file : SourceFile} {failure : FileFailure}
    (h : failure ∈ (alone tree matcher file).failures) : failure.path = file.relative := by
  cases htree : treeOf tree file with
  | error fault =>
    rw [(alone_of_treeOf_error matcher htree).2, List.mem_singleton] at h
    rw [h]
  | ok parsed =>
    rw [(alone_of_treeOf_ok matcher htree).2] at h
    cases h

/-! ## One file after the other -/

/-- Adding a file appends what it contributes alone. -/
theorem add_eq_append (tree : FileTree) (matcher : Matcher) (r : ScanResult) (file : SourceFile) :
    (r.add tree matcher file).1.records = r.records ++ (alone tree matcher file).records ∧
      (r.add tree matcher file).1.failures = r.failures ++ (alone tree matcher file).failures := by
  cases htree : treeOf tree file with
  | error fault =>
    obtain ⟨hrecords, hfailures⟩ := alone_of_treeOf_error matcher htree
    simp [add, htree, hrecords, hfailures]
  | ok parsed =>
    obtain ⟨hrecords, hfailures⟩ := alone_of_treeOf_ok matcher htree
    simp [add, htree, hrecords, hfailures, collect_eq_append]

/-- Adding files appends what each contributes alone, in their order. -/
theorem addAll_eq_append (tree : FileTree) (matcher : Matcher) (r : ScanResult)
    (files : List SourceFile) :
    (r.addAll tree matcher files).1.records =
        r.records ++ files.flatMap (fun file => (alone tree matcher file).records) ∧
      (r.addAll tree matcher files).1.failures =
        r.failures ++ files.flatMap (fun file => (alone tree matcher file).failures) := by
  induction files generalizing r with
  | nil => simp [addAll]
  | cons file files ih =>
    obtain ⟨hrecords, hfailures⟩ := ih (r.add tree matcher file).1
    obtain ⟨hrecord, hfailure⟩ := add_eq_append tree matcher r file
    rw [hrecord] at hrecords
    rw [hfailure] at hfailures
    constructor
    · simpa [addAll, List.append_assoc] using hrecords
    · simpa [addAll, List.append_assoc] using hfailures

/-- The records of a scan are those that its files contribute, one file after the other. -/
theorem records_ofFiles (tree : FileTree) (matcher : Matcher) (files : List SourceFile) :
    (ofFiles tree matcher files).1.records =
      files.flatMap (fun file => (alone tree matcher file).records) := by
  simpa [ofFiles, tally] using (addAll_eq_append tree matcher
    { stats := { filesDiscovered := files.length } } files).1

/-- The failures of a scan are those that its files contribute, one file after the other. -/
theorem failures_ofFiles (tree : FileTree) (matcher : Matcher) (files : List SourceFile) :
    (ofFiles tree matcher files).1.failures =
      files.flatMap (fun file => (alone tree matcher file).failures) := by
  simpa [ofFiles, tally] using (addAll_eq_append tree matcher
    { stats := { filesDiscovered := files.length } } files).2

end ScanResult

namespace Scanner

/-- A scan that discovers files leaves the results on them and answers with their names. -/
theorem tryScan_of_discover {s : Scanner} {tree : FileTree} {patterns : List String}
    {files : List SourceFile} {events : List LogEvent}
    (h : discover tree s.plan.root (s.options patterns) = .ok (files, events)) :
    (s.tryScan tree patterns).scanner =
        { s with result := (ScanResult.ofFiles tree s.matcher files).1 } ∧
      (s.tryScan tree patterns).answer =
        .ok (ScanResult.ofFiles tree s.matcher files).1.names := by
  unfold tryScan
  rw [h]
  exact ⟨rfl, rfl⟩

/-- A scan with nothing to discover leaves empty results. -/
theorem tryScan_of_error {s : Scanner} {tree : FileTree} {patterns : List String}
    {e : DiscoveryError} (h : discover tree s.plan.root (s.options patterns) = .error e) :
    (s.tryScan tree patterns).scanner = { s with result := {} } ∧
      (s.tryScan tree patterns).answer = .error e := by
  unfold tryScan
  rw [h]
  exact ⟨rfl, rfl⟩

/-- Both kinds of scan leave the same scanner. -/
@[simp] theorem scanner_scan (s : Scanner) (tree : FileTree) (patterns : List String) :
    (s.scan tree patterns).scanner = (s.tryScan tree patterns).scanner := by
  unfold scan
  cases h : (s.tryScan tree patterns).answer <;> simp [h]

end Scanner

end PackageUsage
