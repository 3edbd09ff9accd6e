import PackageUsage.Proofs.Names
import PackageUsage.Proofs.Scan.Soundness

/-!
# Narrower targets

The target of a scan decides only which declarations are recorded. Discovery, the trees of the files
and the failures do not depend on it, so a target that accepts less gives the records of the wider
one that it accepts, and all else stays as it is.
-/

namespace PackageUsage

/-- Both targets can be used, and what the first accepts is accepted by the second. -/
def Target.Refines (narrow wide : Target) : Prop :=
  ∃ m m', Matcher.ofTarget narrow = .ok m ∧ Matcher.ofTarget wide = .ok m' ∧
    ∀ specifier, m.accepts specifier = true → m'.accepts specifier = true

/-- A start refines every shorter start of it. -/
theorem Target.refines_of_prefix {narrow wide : Target} (hnarrow : narrow.mode = .start)
    (hwide : wide.mode = .start) (h : wide.text.toList <+: narrow.text.toList) :
    narrow.Refines wide := by
  refine ⟨.start narrow.text.toList, .start wide.text.toList, ?_, ?_, ?_⟩
  · rw [Matcher.ofTarget, hnarrow]
  · rw [Matcher.ofTarget, hwide]
  · intro specifier haccepts
    simp only [Matcher.accepts, List.isPrefixOf_iff_prefix] at haccepts ⊢
    exact h.trans haccepts

/-- One result is what remains of another when only the specifiers of a target are let through. -/
structure ScanResult.Narrows (matcher : Matcher) (narrow wide : ScanResult) : Prop where
  records : narrow.records = wide.records.filter fun r => matcher.accepts r.specifier
  failures : narrow.failures = wide.failures
  discovered : narrow.stats.filesDiscovered = wide.stats.filesDiscovered
  scanned : narrow.stats.filesScanned = wide.stats.filesScanned
  failed : narrow.stats.filesFailed = wide.stats.filesFailed
  names : narrow.names ⊆ wide.names

/-- One scan answers with names of another, or both give the same reason for having none. -/
def AnswersWithin : Except DiscoveryError (List String) → Except DiscoveryError (List String) → Prop
  | .ok names, .ok more => names ⊆ more
  | .error e, .error e' => e = e'
  | _, _ => False

/-! ## Records -/

/-- The narrower target records a node exactly when it accepts what the wider one records. -/
theorem Source.Tree.record?_narrow {m m' : Matcher}
    (h : ∀ specifier, m.accepts specifier = true → m'.accepts specifier = true) (file : String)
    (node : Source.Tree) :
    node.record? file m = (node.record? file m').filter fun r => m.accepts r.specifier := by
  unfold Source.Tree.record?
  cases node.declarationKind? with
  | none => rfl
  | some kind =>
    cases node.specifier? with
    | none => rfl
    | some specifier =>
      have hfilter (r : Record) (hr : r.specifier = specifier) :
          (some r).filter (fun r => m.accepts r.specifier) =
            if m.accepts specifier then some r else none := by
        rw [Option.filter_some, hr]
      cases hm : m.accepts specifier with
      | false =>
        cases hm' : m'.accepts specifier <;> cases node.boundNames.isEmpty <;>
          simp [hm, hm', hfilter]
      | true => cases node.boundNames.isEmpty <;> simp [hm, h specifier hm, hfilter]

namespace ScanResult

variable {m m' : Matcher}

/-- The records and failures that one file contributes. -/
theorem alone_narrow (h : ∀ specifier, m.accepts specifier = true → m'.accepts specifier = true)
    (tree : FileTree) (file : SourceFile) :
    (alone tree m file).records =
        (alone tree m' file).records.filter (fun r => m.accepts r.specifier) ∧
      (alone tree m file).failures = (alone tree m' file).failures := by
  cases htree : treeOf tree file with
  | error fault =>
    obtain ⟨hrecords, hfailures⟩ := alone_of_treeOf_error m htree
    obtain ⟨hrecords', hfailures'⟩ := alone_of_treeOf_error m' htree
    rw [hrecords, hrecords', hfailures, hfailures']
    exact ⟨rfl, rfl⟩
  | ok parsed =>
    obtain ⟨hrecords, hfailures⟩ := alone_of_treeOf_ok m htree
    obtain ⟨hrecords', hfailures'⟩ := alone_of_treeOf_ok m' htree
    rw [hrecords, hrecords', hfailures, hfailures', List.filter_filterMap]
    refine ⟨List.filterMap_congr ?_, rfl⟩
    intro node _
    exact Source.Tree.record?_narrow h file.relative node

theorem filesDiscovered_ofFiles (tree : FileTree) (matcher : Matcher) (files : List SourceFile) :
    (ofFiles tree matcher files).1.stats.filesDiscovered = files.length :=
  (addAll_counted tree matcher { stats := { filesDiscovered := files.length } } files).2

/-- The results on the same files for a narrower target. -/
theorem narrows_ofFiles
    (h : ∀ specifier, m.accepts specifier = true → m'.accepts specifier = true) (tree : FileTree)
    {files : List SourceFile} (hfiles : files.Pairwise SourceFile.Before) :
    Narrows m (ofFiles tree m files).1 (ofFiles tree m' files).1 := by
  have hsound : Sound m (ofFiles tree m files).1 := sound_ofFiles hfiles
  have hsound' : Sound m' (ofFiles tree m' files).1 := sound_ofFiles hfiles
  have hrecords : (ofFiles tree m files).1.records =
      (ofFiles tree m' files).1.records.filter fun r => m.accepts r.specifier := by
    rw [records_ofFiles, records_ofFiles, List.filter_flatMap]
    exact List.flatMap_congr fun file _ => (alone_narrow h tree file).1
  have hfailures : (ofFiles tree m files).1.failures = (ofFiles tree m' files).1.failures := by
    rw [failures_ofFiles, failures_ofFiles]
    exact List.flatMap_congr fun file _ => (alone_narrow h tree file).2
  have hdiscovered := filesDiscovered_ofFiles tree m files
  have hdiscovered' := filesDiscovered_ofFiles tree m' files
  have hfailed := hsound.failures_counted
  have hfailed' := hsound'.failures_counted
  have hcounted := hsound.files_counted
  have hcounted' := hsound'.files_counted
  rw [hfailures] at hfailed
  refine ⟨hrecords, hfailures, by omega, by omega, by omega, ?_⟩
  rw [names, names, hrecords]
  exact Record.uniqueNames_subset fun r hr => List.mem_of_mem_filter hr

end ScanResult

/-! ## Scans -/

namespace Scanner

/-- Scans of two scanners that differ in their targets only. -/
theorem tryScan_narrow {a b : Scanner} (hroot : a.plan.root = b.plan.root)
    (hoptions : ∀ patterns, a.options patterns = b.options patterns)
    (h : ∀ specifier, a.matcher.accepts specifier = true → b.matcher.accepts specifier = true)
    (tree : FileTree) (patterns : List String) :
    (a.tryScan tree patterns).scanner.result.Narrows a.matcher
        (b.tryScan tree patterns).scanner.result ∧
      AnswersWithin (a.tryScan tree patterns).answer (b.tryScan tree patterns).answer := by
  cases hdiscover : discover tree b.plan.root (b.options patterns) with
  | error e =>
    have hdiscover' := hdiscover
    rw [← hroot, ← hoptions] at hdiscover'
    obtain ⟨hscanner, hanswer⟩ := tryScan_of_error hdiscover'
    obtain ⟨hscanner', hanswer'⟩ := tryScan_of_error hdiscover
    rw [hscanner, hscanner', hanswer, hanswer']
    exact ⟨⟨rfl, rfl, rfl, rfl, rfl, List.Subset.refl _⟩, rfl⟩
  | ok found =>
    have hdiscover' := hdiscover
    rw [← hroot, ← hoptions] at hdiscover'
    obtain ⟨hscanner, hanswer⟩ := tryScan_of_discover hdiscover'
    obtain ⟨hscanner', hanswer'⟩ := tryScan_of_discover hdiscover
    have hnarrows := ScanResult.narrows_ofFiles h tree (pairwise_discover hdiscover)
    rw [hscanner, hscanner', hanswer, hanswer']
    exact ⟨hnarrows, hnarrows.names⟩

/-- Where the answers of two attempts lie within each other, so do those of two scans. -/
theorem scan_answer_subset {a b : Scanner} {tree : FileTree} {patterns : List String}
    (h : AnswersWithin (a.tryScan tree patterns).answer (b.tryScan tree patterns).answer) :
    (a.scan tree patterns).answer ⊆ (b.scan tree patterns).answer := by
  unfold scan
  cases ha : (a.tryScan tree patterns).answer with
  | error e => simp [ha]
  | ok names =>
    cases hb : (b.tryScan tree patterns).answer with
    | error e =>
      rw [ha, hb] at h
      exact h.elim
    | ok more =>
      rw [ha, hb] at h
      simp only [ha, hb]
      exact h

theorem ofPlan_of_ofTarget {plan : ScanPlan} {m : Matcher}
    (h : Matcher.ofTarget plan.target = .ok m) :
    Scanner.ofPlan plan = .ok { plan, matcher := m } := by
  simp [Scanner.ofPlan, h, bind, Except.bind, pure, Except.pure]

end Scanner

/-- A narrower target only filters. The scan for it discovers the same files and gives the same
failures and counts of files; its records are those of the wider target that it accepts, in the same
order and otherwise the same; and its names are among those of the wider target. A start of
specifiers is narrower than every shorter start of it. -/
theorem narrower_target_filters (narrow wide : Target) :
    (narrow.Refines wide → ∀ (plan : ScanPlan) (tree : FileTree) (patterns : List String),
      ∃ a b, Scanner.ofPlan { plan with target := narrow } = .ok a ∧
        Scanner.ofPlan { plan with target := wide } = .ok b ∧
        (a.tryScan tree patterns).scanner.result.Narrows a.matcher
          (b.tryScan tree patterns).scanner.result ∧
        AnswersWithin (a.tryScan tree patterns).answer (b.tryScan tree patterns).answer ∧
        (a.scan tree patterns).scanner.result.Narrows a.matcher
          (b.scan tree patterns).scanner.result ∧
        (a.scan tree patterns).answer ⊆ (b.scan tree patterns).answer) ∧
    (narrow.mode = .start → wide.mode = .start → wide.text.toList <+: narrow.text.toList →
      narrow.Refines wide) := by
  refine ⟨?_, Target.refines_of_prefix⟩
  rintro ⟨m, m', hm, hm', haccepts⟩ plan tree patterns
  let a : Scanner := { plan := { plan with target := narrow }, matcher := m }
  let b : Scanner := { plan := { plan with target := wide }, matcher := m' }
  obtain ⟨hresult, hanswer⟩ :=
    Scanner.tryScan_narrow (a := a) (b := b) rfl (fun _ => rfl) haccepts tree patterns
  refine ⟨a, b, Scanner.ofPlan_of_ofTarget hm, Scanner.ofPlan_of_ofTarget hm', hresult, hanswer, ?_,
    Scanner.scan_answer_subset hanswer⟩
  rw [Scanner.scanner_scan, Scanner.scanner_scan]
  exact hresult

theorem narrower_target_filters_scope :
    let narrow : Target := { text := "@scope/pkg" }
    let wide : Target := { text := "@scope/" }
    let tree : FileTree := { entries := [("a.ts", .file
      "import a from '@scope/pkg'; import b from \"@scope/other\";".toUTF8)] }
    narrow.Refines wide ∧
      ∃ a b, Scanner.ofPlan { root := ".", target := narrow } = .ok a ∧
        Scanner.ofPlan { root := ".", target := wide } = .ok b ∧
        (a.tryScan tree []).scanner.result.records =
          (b.tryScan tree []).scanner.result.records.filter (a.matcher.accepts ·.specifier) := by
  intro narrow wide tree
  obtain ⟨hfilters, hstart⟩ := narrower_target_filters narrow wide
  have hrefines : narrow.Refines wide := hstart rfl rfl (by decide)
  obtain ⟨a, b, ha, hb, hresult, -⟩ :=
    hfilters hrefines { root := ".", target := narrow } tree []
  exact ⟨hrefines, a, b, ha, hb, hresult.records⟩

end PackageUsage
