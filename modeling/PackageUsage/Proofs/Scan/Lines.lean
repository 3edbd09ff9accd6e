import PackageUsage.Proofs.Scan.Consumers

/-!
# Reports by lines

The two plain reports have a line for each name or each record exactly if no name, or no line of a
record, holds a line feed itself. Names and modules are spelled as in the text, so a line feed gets
into them only where a line of a string is continued, and into a record also from the path of its
file.
-/

namespace PackageUsage

/-! ## Reports on any records -/

section

variable {records : List Record}

/-- The lines of the simple report are the names if there is no line feed in a name. -/
theorem cut_report_simple_iff (hne : Record.uniqueNames records ≠ []) :
    Text.cut '\n' (report .simple records) = Record.uniqueNames records ↔
      ∀ name ∈ Record.uniqueNames records, '\n' ∉ name.toList :=
  Text.cut_intercalate_eq_iff hne

/-- The detailed report has one line for each record if there is no line feed in such a line. -/
theorem length_cut_report_detailed_iff (hne : records ≠ []) :
    (Text.cut '\n' (report .detailed records)).length = records.length ↔
      ∀ r ∈ records, '\n' ∉ r.detail.toList := by
  have hperm : (Record.sortedByFile records).Perm records := List.mergeSort_perm ..
  have hsorted : (Record.sortedByFile records).map Record.detail ≠ [] := by
    rw [Ne, List.map_eq_nil_iff, ← List.length_eq_zero_iff, hperm.length_eq]
    exact fun hlength => hne (List.length_eq_zero_iff.mp hlength)
  have hcut := @Text.length_cut_intercalate_eq_iff '\n' _ hsorted
  rw [List.length_map, hperm.length_eq, List.forall_mem_map] at hcut
  exact hcut.trans
    ⟨fun h r hr => h r (hperm.mem_iff.mpr hr), fun h r hr => h r (hperm.mem_iff.mp hr)⟩

end

/-- A line feed in the line of a record is in its file, its names or its module. -/
theorem Record.not_mem_detail {r : Record} (hfile : '\n' ∉ r.file.toList)
    (hnames : ∀ name ∈ r.names, '\n' ∉ name.toList) (hspecifier : '\n' ∉ r.specifier.toList) :
    '\n' ∉ r.detail.toList := by
  have hjoined : '\n' ∉ (", ".intercalate r.names).toList := fun hmem => by
    rcases Text.mem_intercalate hmem with hsep | ⟨name, hname, hmem⟩
    · exact absurd hsep (by decide)
    · exact hnames name hname hmem
  have hkeyword : '\n' ∉ r.kind.keyword.toList := by
    cases r.kind <;> decide
  simp only [Record.detail, String.toList_append, List.mem_append, not_or]
  exact ⟨⟨⟨⟨⟨⟨⟨hfile, by decide⟩, hjoined⟩, by decide⟩, hkeyword⟩, by decide⟩, hspecifier⟩,
    by decide⟩

theorem not_mem_of_mem_uniqueNames {records : List Record}
    (h : ∀ r ∈ records, ∀ name ∈ r.names, '\n' ∉ name.toList) {name : String}
    (hname : name ∈ Record.uniqueNames records) : '\n' ∉ name.toList := by
  obtain ⟨r, hr, bound, hbound, hpiece⟩ := Record.mem_uniqueNames.mp hname
  exact fun hmem => h r hr bound hbound (mem_of_mem_pieces hpiece hmem)

/-! ## Reports on a scan -/

/-- A file of lines: no line ends in its path, and none is continued in its text. -/
structure SourceFile.Lined (tree : FileTree) (file : SourceFile) : Prop where
  path : '\n' ∉ file.relative.toList
  text : ∀ text, tree.readText file.path = .ok text → Source.NoLineContinued text.toList

/-- No line ends in what a record of such a file says. -/
theorem ScanResult.not_mem_of_mem_alone {tree : FileTree} {matcher : Matcher} {file : SourceFile}
    (hfile : file.Lined tree) {r : Record} (h : r ∈ (alone tree matcher file).records) :
    (∀ name ∈ r.names, '\n' ∉ name.toList) ∧ '\n' ∉ r.detail.toList := by
  obtain ⟨parsed, htree, node, hnode, hr⟩ := node_of_mem_alone h
  obtain ⟨text, htext, hparse⟩ := parse_of_treeOf htree
  obtain ⟨hnames, hspecifier⟩ := Source.Tree.writes_of_record? hr
  have hwritten {name : String} (hname : node.Writes name) : '\n' ∉ name.toList :=
    Source.not_mem_of_writes hparse (hfile.text text htext) (hname.of_mem_preorder hnode)
  have hpath : '\n' ∉ r.file.toList := by
    rw [file_of_mem_alone h]
    exact hfile.path
  exact ⟨fun name hname => hwritten (hnames name hname),
    Record.not_mem_detail hpath (fun name hname => hwritten (hnames name hname))
      (hwritten hspecifier)⟩

/-- After a scan that succeeds, the lines of the simple report are the names, and the detailed
report has one line for each record, exactly if no name and no line of a record holds a line feed.
None does if all discovered files are files of lines. -/
theorem scan_renders_lines (s : Scanner) (tree : FileTree) (patterns names : List String)
    (h : (s.tryScan tree patterns).answer = .ok names) :
    ∃ files events, discover tree s.plan.root (s.options patterns) = .ok (files, events) ∧
      ∀ after ∈ [(s.tryScan tree patterns).scanner, (s.scan tree patterns).scanner],
        let records := after.result.records
        (names ≠ [] → (Text.cut '\n' (after.render .simple) = names ↔
          ∀ name ∈ names, '\n' ∉ name.toList)) ∧
        (records ≠ [] → ((Text.cut '\n' (after.render .detailed)).length = records.length ↔
          ∀ r ∈ records, '\n' ∉ r.detail.toList)) ∧
        ((∀ file ∈ files, file.Lined tree) →
          (∀ name ∈ names, '\n' ∉ name.toList) ∧ ∀ r ∈ records, '\n' ∉ r.detail.toList) := by
  cases hdiscover : discover tree s.plan.root (s.options patterns) with
  | error e =>
    rw [(Scanner.tryScan_of_error hdiscover).2] at h
    cases h
  | ok found =>
    obtain ⟨files, events⟩ := found
    refine ⟨files, events, rfl, ?_⟩
    intro after hafter records
    obtain ⟨hscanner, hanswer⟩ := Scanner.tryScan_of_discover hdiscover
    have hrecords : records = (ScanResult.ofFiles tree s.matcher files).1.records := by
      simp only [s.scanner_scan, List.mem_cons, List.not_mem_nil, or_false, or_self] at hafter
      rw [show records = after.result.records from rfl, hafter, hscanner]
    have hnames : names = Record.uniqueNames records := by
      rw [hanswer] at h
      rw [hrecords]
      exact (Except.ok.inj h).symm
    refine ⟨fun hne => ?_, length_cut_report_detailed_iff, fun hlined => ?_⟩
    · rw [hnames] at hne ⊢
      exact cut_report_simple_iff hne
    · have hlines : ∀ r ∈ records, (∀ name ∈ r.names, '\n' ∉ name.toList) ∧
          '\n' ∉ r.detail.toList := by
        intro r hr
        rw [hrecords, ScanResult.records_ofFiles] at hr
        obtain ⟨file, hfile, hr⟩ := List.mem_flatMap.mp hr
        exact ScanResult.not_mem_of_mem_alone (hlined file hfile) hr
      refine ⟨fun name hname => ?_, fun r hr => (hlines r hr).2⟩
      rw [hnames] at hname
      exact not_mem_of_mem_uniqueNames (fun r hr => (hlines r hr).1) hname

namespace LinesSample

open PackageSample

/-- An export under a name in quotes, and an import on two lines. -/
def plainText : String :=
  "export \x7b \"a b\" \x7d from 'pkg';\nimport x, \x7b\ny \x7d from 'pkg';\n"

/-- An export under a name in quotes that goes on in the next line. -/
def continuedText : String :=
  "export \x7b \"a\\\nb\" \x7d from 'pkg';\n"

def plain : FileTree :=
  project plainText

def continued : FileTree :=
  project continuedText

theorem discover_plain :
    ∃ events, discover plain scanner.plan.root (scanner.options []) = .ok ([file], events) :=
  discover_of_sifted (by decide +kernel) (by decide +kernel)

theorem discover_continued :
    ∃ events, discover continued scanner.plan.root (scanner.options []) = .ok ([file], events) :=
  discover_of_sifted (by decide +kernel) (by decide +kernel)

theorem lined_plain : file.Lined plain where
  path := by decide
  text := by
    intro text htext
    have hread : plain.readText file.path = .ok plainText := by decide +kernel
    rw [hread] at htext
    cases htext
    decide +kernel

theorem records_plain :
    (ScanResult.ofFiles plain scanner.matcher [file]).1.records =
      [{ file := "a.ts", kind := .exporting, specifier := "pkg", names := ["a b"], line := 1 },
        { file := "a.ts", kind := .importing, specifier := "pkg", names := ["x", "y"], line := 2 }]
    := by
  decide +kernel

theorem records_continued :
    (ScanResult.ofFiles continued scanner.matcher [file]).1.records =
      [{ file := "a.ts", kind := .exporting, specifier := "pkg", names := ["a\\\nb"], line := 1 }]
    := by
  decide +kernel

theorem names_plain :
    (ScanResult.ofFiles plain scanner.matcher [file]).1.names = ["a b", "x", "y"] := by
  rw [ScanResult.names, records_plain]
  exact sortedSet_eq_self (by decide)

theorem names_continued :
    (ScanResult.ofFiles continued scanner.matcher [file]).1.names = ["a\\\nb"] := by
  rw [ScanResult.names, records_continued]
  exact sortedSet_eq_self (by decide)

end LinesSample

open PackageSample LinesSample in
theorem scan_renders_lines_sample :
    (scanner.tryScan plain []).answer = .ok ["a b", "x", "y"] ∧
      Text.cut '\n' ((scanner.tryScan plain []).scanner.render .simple) = ["a b", "x", "y"] ∧
      (Text.cut '\n' ((scanner.tryScan plain []).scanner.render .detailed)).length = 2 := by
  obtain ⟨events, h⟩ := discover_plain
  obtain ⟨hscanner, hanswer⟩ := Scanner.tryScan_of_discover h
  have hrecords : (scanner.tryScan plain []).scanner.result.records.length = 2 := by
    rw [hscanner, records_plain]
    rfl
  rw [names_plain] at hanswer
  obtain ⟨files, _, hfiles, hafter⟩ := scan_renders_lines scanner plain [] _ hanswer
  obtain ⟨hsimple, hdetailed, hlines⟩ := hafter _ List.mem_cons_self
  obtain rfl : [file] = files := congrArg Prod.fst (Except.ok.inj (h.symm.trans hfiles))
  obtain ⟨hnone, hnone'⟩ := hlines (by simpa using lined_plain)
  have hne : (scanner.tryScan plain []).scanner.result.records ≠ [] := by
    rw [← List.length_pos_iff_ne_nil, hrecords]
    decide
  exact ⟨hanswer, (hsimple (by simp)).mpr hnone, ((hdetailed hne).mpr hnone').trans hrecords⟩

open PackageSample LinesSample in
/-- A scan of a file without a line feed in its name, with one name on two lines of the simple
report and one record on two lines of the detailed one. -/
theorem scan_renders_more_lines :
    (scanner.tryScan continued []).answer = .ok ["a\\\nb"] ∧
      Text.cut '\n' ((scanner.tryScan continued []).scanner.render .simple) = ["a\\", "b"] ∧
      (scanner.tryScan continued []).scanner.result.records.length = 1 ∧
      (Text.cut '\n' ((scanner.tryScan continued []).scanner.render .detailed)).length = 2 := by
  obtain ⟨events, h⟩ := discover_continued
  obtain ⟨hscanner, hanswer⟩ := Scanner.tryScan_of_discover h
  rw [hanswer, hscanner, names_continued]
  refine ⟨rfl, ?_, ?_, ?_⟩
  · show Text.cut '\n' ("\n".intercalate (ScanResult.ofFiles continued _ [file]).1.names) = _
    rw [names_continued]
    decide
  · rw [records_continued]
    rfl
  · rw [Scanner.render, report, records_continued, Record.sortedByFile, List.mergeSort_singleton]
    decide

end PackageUsage
