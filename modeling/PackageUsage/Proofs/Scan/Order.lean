import PackageUsage.Proofs.Scan.Contribution
import PackageUsage.Proofs.Source.Repair

/-!
# The order of records

The records of a scan stand in the order of their files and, within one file, of their lines, and
every line is a line of its file. Discovery orders the files, and the tree of each file is in the
order of its text; so the detailed report, which sorts the records by file, moves none of them.
-/

namespace PackageUsage

/-- One record may stand before another: its file does not come later and, where it is the same
file, neither does its line. -/
def Record.MayPrecede (a b : Record) : Prop :=
  Path.le a.file b.file = true ∧ (Path.compare a.file b.file = .eq → a.line ≤ b.line)

namespace ScanResult

variable {tree : FileTree} {matcher : Matcher} {file : SourceFile}

/-- A file with a tree has a text, and the tree is in the order of this text. -/
theorem inOrder_of_treeOf {parsed : Source.Tree} (h : treeOf tree file = .ok parsed) :
    ∃ text, tree.readText file.path = .ok text ∧
      parsed.InOrder (Source.Cursor.ofText text) := by
  obtain ⟨text, htext, hparse⟩ := parse_of_treeOf h
  exact ⟨text, htext, (Source.ofText_of_parse hparse).inOrder⟩

/-- The records of one file follow its lines. -/
theorem pairwise_line_alone :
    (alone tree matcher file).records.Pairwise fun a b => a.line ≤ b.line := by
  cases htree : treeOf tree file with
  | error fault =>
    rw [(alone_of_treeOf_error matcher htree).1]
    exact .nil
  | ok parsed =>
    obtain ⟨text, -, horder⟩ := inOrder_of_treeOf htree
    rw [(alone_of_treeOf_ok matcher htree).1, List.pairwise_filterMap]
    refine horder.sorted.imp ?_
    intro node node' hle r hr r' hr'
    rw [(Source.Tree.describes_of_record? hr).line, (Source.Tree.describes_of_record? hr').line]
    exact Nat.succ_le_succ (Source.line_le_of_toLex_le hle)

/-- The line of a record is a line of its file. -/
theorem line_of_mem_alone {r : Record} (h : r ∈ (alone tree matcher file).records) :
    ∃ text, tree.readText file.path = .ok text ∧
      1 ≤ r.line ∧ r.line ≤ 1 + text.toList.count '\n' := by
  obtain ⟨parsed, htree, node, hnode, hr⟩ := node_of_mem_alone h
  obtain ⟨text, htext, horder⟩ := inOrder_of_treeOf htree
  have hline : node.info.line ≤ 0 + text.toList.count '\n' := horder.line_le hnode
  rw [(Source.Tree.describes_of_record? hr).line]
  exact ⟨text, htext, by omega, by omega⟩

/-- Files in strict order have their records in order. -/
theorem records_pairwise {files : List SourceFile} (h : files.Pairwise SourceFile.Before) :
    (ofFiles tree matcher files).1.records.Pairwise Record.MayPrecede := by
  rw [records_ofFiles, List.pairwise_flatMap]
  constructor
  · intro file _
    refine pairwise_line_alone.imp_of_mem ?_
    intro a b ha hb hline
    refine ⟨?_, fun _ => hline⟩
    rw [file_of_mem_alone ha, file_of_mem_alone hb, Path.le,
      (Path.compare_eq_eq_iff _ _).mpr rfl]
    rfl
  · refine h.imp ?_
    intro f g hfg a ha b hb
    have hlt : Path.compare a.file b.file = .lt := by
      rw [file_of_mem_alone ha, file_of_mem_alone hb]
      exact hfg
    exact ⟨by rw [Path.le, hlt]; rfl, fun htie => by rw [hlt] at htie; cases htie⟩

end ScanResult

/-- Records in order stay where they are when they are sorted by file. -/
theorem Record.sortedByFile_eq_self {records : List Record}
    (h : records.Pairwise Record.MayPrecede) : Record.sortedByFile records = records :=
  List.mergeSort_of_pairwise (h.imp And.left)

/-- After a scan that succeeds, the records are ordered by file and, within one file, by line, and
each stands on a line of a discovered file. Sorting them by file changes nothing, so the detailed
report lists them in the order in which both JSON reports do. -/
theorem scan_orders_records (s : Scanner) (tree : FileTree) (patterns names : List String)
    (h : (s.tryScan tree patterns).answer = .ok names) :
    ∃ files events, discover tree s.plan.root (s.options patterns) = .ok (files, events) ∧
      ∀ after ∈ [(s.tryScan tree patterns).scanner, (s.scan tree patterns).scanner],
        let records := after.result.records
        records.Pairwise Record.MayPrecede ∧
        (∀ r ∈ records, ∃ file ∈ files, ∃ text, r.file = file.relative ∧
          tree.readText file.path = .ok text ∧ 1 ≤ r.line ∧
          r.line ≤ 1 + text.toList.count '\n') ∧
        Record.sortedByFile records = records ∧
        after.render .detailed = "\n".intercalate (records.map Record.detail) ∧
        after.render .json = (Json.arr (records.map Record.toJson)).pretty ∧
        after.render .compact = (Json.arr (records.map Record.toJson)).compact := by
  cases hdiscover : discover tree s.plan.root (s.options patterns) with
  | error e =>
    rw [(Scanner.tryScan_of_error hdiscover).2] at h
    cases h
  | ok found =>
    obtain ⟨files, events⟩ := found
    refine ⟨files, events, rfl, ?_⟩
    intro after hafter records
    have hrecords : records = (ScanResult.ofFiles tree s.matcher files).1.records := by
      simp only [s.scanner_scan, List.mem_cons, List.not_mem_nil, or_false, or_self] at hafter
      rw [show records = after.result.records from rfl, hafter,
        (Scanner.tryScan_of_discover hdiscover).1]
    have hordered : records.Pairwise Record.MayPrecede := by
      rw [hrecords]
      exact ScanResult.records_pairwise (pairwise_discover hdiscover)
    have hsorted := Record.sortedByFile_eq_self hordered
    refine ⟨hordered, ?_, hsorted, ?_, rfl, rfl⟩
    · intro r hr
      rw [hrecords, ScanResult.records_ofFiles] at hr
      obtain ⟨file, hfile, hr⟩ := List.mem_flatMap.mp hr
      obtain ⟨text, htext, hline⟩ := ScanResult.line_of_mem_alone hr
      exact ⟨file, hfile, text, ScanResult.file_of_mem_alone hr, htext, hline⟩
    · rw [Scanner.render, report, hsorted]

namespace OrderSample

/-- A scanner for the package `pkg` in the current directory. -/
def scanner : Scanner :=
  { plan := { root := ".", target := { text := "pkg" } }, matcher := .start "pkg".toList }

/-- A file in a directory and one beside the directory. -/
def tree : FileTree :=
  { entries :=
      [("a", .directory [("c.ts", .file
          "\nimport y from 'pkg';\nexport \x7b z \x7d from 'pkg';".toUTF8)]),
        ("a-b.ts", .file "import x from 'pkg';".toUTF8)] }

/-- The file in the directory comes first, though `-` comes before the separator. -/
def files : List SourceFile :=
  [{ path := "./a/c.ts", relative := "a/c.ts", language := .typescript },
    { path := "./a-b.ts", relative := "a-b.ts", language := .typescript }]

theorem discover_files :
    ∃ events, discover tree scanner.plan.root (scanner.options []) = .ok (files, events) :=
  discover_of_sifted (by decide +kernel) (by decide +kernel)

end OrderSample

open OrderSample in
theorem scan_orders_records_nested :
    ∃ names, (scanner.tryScan tree []).answer = .ok names ∧
      (scanner.tryScan tree []).scanner.result.records.Pairwise Record.MayPrecede ∧
      (scanner.tryScan tree []).scanner.result.records.map (fun r => (r.file, r.line)) =
        [("a/c.ts", 2), ("a/c.ts", 3), ("a-b.ts", 1)] := by
  obtain ⟨events, h⟩ := discover_files
  obtain ⟨hscanner, hanswer⟩ := Scanner.tryScan_of_discover h
  obtain ⟨_, _, _, hafter⟩ := scan_orders_records scanner tree [] _ hanswer
  refine ⟨_, hanswer, (hafter _ List.mem_cons_self).1, ?_⟩
  rw [hscanner]
  decide +kernel

end PackageUsage
