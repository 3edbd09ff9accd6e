import PackageUsage.Proofs.Scan.Contribution
import PackageUsage.Proofs.Source.Names

/-!
# Records and reported names

A file takes something from a package exactly if it has a record. Each record binds a name, but what
is bound is reported in pieces, and a name in quotes may hold nothing that is left of it.
-/

namespace PackageUsage

open Source (parse)
open Source.Tree (unquote)

/-- The answer of a scan are the names of the records it leaves. -/
theorem Scanner.answer_scan (s : Scanner) (tree : FileTree) (patterns : List String) :
    (s.scan tree patterns).answer =
      Record.uniqueNames (s.scan tree patterns).scanner.result.records := by
  rw [scanner_scan, scan]
  cases hdiscover : discover tree s.plan.root (s.options patterns) with
  | error e =>
    obtain ⟨hscanner, hanswer⟩ := tryScan_of_error hdiscover
    rw [hanswer, hscanner]
    exact (Record.uniqueNames_eq_nil_iff.mpr (by simp)).symm
  | ok found =>
    obtain ⟨hscanner, hanswer⟩ := tryScan_of_discover hdiscover
    rw [hanswer, hscanner]
    rfl

/-- Every record of a text binds a name. A name is empty only where a whole module is bound to it or
a word is missing, and any other name is reported in pieces unless it is the contents of a string.
A scan answers without names exactly if all names that its records bind hold braces, commas and
blanks only. -/
theorem scan_names_consumers :
    (∀ (path source : String) (tree : Source.Tree), parse path source = .ok tree →
      ∀ (file : String) (matcher : Matcher) (records : List Record),
      ∃ added, collect file matcher tree records = records ++ added ∧
        ∀ r ∈ added, r.names ≠ [] ∧ ∃ node ∈ tree.preorder,
          node.record? file matcher = some r ∧ ∀ name ∈ r.names,
            (name = "" → ∃ part ∈ node.preorder,
              (part.kind = .namespaceImport ∨ part.kind = .namespaceExport) ∧
                  part.namespaceName? = some "" ∨
                part.kind = .identifier ∧ part.info.missing = true) ∧
            (name ≠ "" → pieces name = [] → ∃ leaf ∈ node.preorder,
              leaf.kind = .string ∧ unquote leaf.text = name)) ∧
      ∀ (s : Scanner) (files : FileTree) (patterns : List String),
        (s.scan files patterns).answer = [] ↔
          ∀ r ∈ (s.scan files patterns).scanner.result.records, ∀ name ∈ r.names,
            ∀ c ∈ name.toList, isFiller c = true := by
  refine ⟨?_, fun s files patterns => by rw [s.answer_scan, Record.uniqueNames_eq_nil_iff]⟩
  intro path source tree hparse file matcher records
  refine ⟨_, collect_eq_append file matcher tree records, ?_⟩
  intro r hr
  obtain ⟨node, hnode, hrecord⟩ := List.mem_filterMap.mp hr
  obtain ⟨kind, specifier, -, -, -, hnames, heq⟩ :=
    (Source.Tree.record?_eq_some_iff ..).mp hrecord
  refine ⟨heq ▸ hnames, node, hnode, hrecord, fun name hname => ⟨?_, fun hne hnone => ?_⟩⟩
  · -- lists leave empty names out, so the name comes from one of the two other kinds of parts
    rintro rfl
    have hbound : "" ∈ node.boundNames := by
      rw [heq] at hname
      exact hname
    obtain ⟨part, hpart, hempty⟩ := Source.Tree.exists_bindsEmpty_of_mem_boundNames hbound
    exact ⟨part, hpart, Source.namespace_or_missing_of_bindsEmpty hparse
      (Source.Tree.preorder_subset hnode hpart) hempty⟩
  · have hwrites := (Source.Tree.writes_of_record? hrecord).1 name hname
    exact (Source.string_of_writes hparse hnode hwrites hnone).resolve_left hne

namespace PackageSample

/-- A scanner for the package `pkg` in the current directory. -/
def scanner : Scanner :=
  { plan := { root := ".", target := { text := "pkg" } }, matcher := .start "pkg".toList }

/-- A project of one file. -/
def project (text : String) : FileTree :=
  { entries := [("a.ts", .file text.toUTF8)] }

def file : SourceFile :=
  { path := "./a.ts", relative := "a.ts", language := .typescript }

/-- A name in quotes of a comma and a blank, and a name that is reported. -/
def mixedText : String :=
  "export \x7b x as ', ', y \x7d from 'pkg';\n"

/-- A name in quotes of a comma only. -/
def commaText : String :=
  "export \x7b x as ',' \x7d from 'pkg';\n"

/-- The records of a scan of one file. -/
theorem records_of_sample {text : String} {records : List Record}
    (hsifted : ∃ events, discover (project text) scanner.plan.root (scanner.options []) =
      .ok ([file], events))
    (hrecords : (ScanResult.ofFiles (project text) scanner.matcher [file]).1.records = records) :
    (scanner.scan (project text) []).scanner.result.records = records := by
  obtain ⟨events, h⟩ := hsifted
  rw [scanner.scanner_scan, (Scanner.tryScan_of_discover h).1]
  exact hrecords

theorem records_mixed :
    (scanner.scan (project mixedText) []).scanner.result.records =
      [{ file := "a.ts", kind := .exporting, specifier := "pkg", names := [", ", "y"], line := 1 }]
    :=
  records_of_sample (discover_of_sifted (by decide +kernel) (by decide +kernel)) (by decide +kernel)

theorem records_comma :
    (scanner.scan (project commaText) []).scanner.result.records =
      [{ file := "a.ts", kind := .exporting, specifier := "pkg", names := [","], line := 1 }] :=
  records_of_sample (discover_of_sifted (by decide +kernel) (by decide +kernel)) (by decide +kernel)

theorem collect_mixed :
    ∃ tree, parse "a.ts" mixedText = .ok tree ∧
      (collect "a.ts" scanner.matcher tree []).map Record.names = [[", ", "y"]] := by
  have hnames : (parse "a.ts" mixedText).toOption.map (fun tree =>
      (collect "a.ts" scanner.matcher tree []).map Record.names) = some [[", ", "y"]] := by
    decide +kernel
  cases hparse : parse "a.ts" mixedText with
  | error e =>
    rw [hparse] at hnames
    cases hnames
  | ok tree =>
    rw [hparse] at hnames
    exact ⟨tree, rfl, Option.some.inj hnames⟩

end PackageSample

open PackageSample in
theorem scan_names_consumers_mixed :
    (scanner.scan (project mixedText) []).answer ≠ [] ∧
      ∃ tree, parse "a.ts" mixedText = .ok tree ∧
        ∃ leaf ∈ tree.preorder, leaf.kind = .string ∧ unquote leaf.text = ", " := by
  obtain ⟨hcollect, hscan⟩ := scan_names_consumers
  refine ⟨fun hnone => ?_, ?_⟩
  · have hfiller := (hscan scanner (project mixedText) []).mp hnone
    rw [records_mixed] at hfiller
    have hshown : isFiller 'y' = true :=
      hfiller _ List.mem_cons_self "y" (by simp) 'y' (by decide)
    exact absurd hshown (by decide)
  · obtain ⟨tree, hparse, hnames⟩ := collect_mixed
    obtain ⟨added, hadded, hall⟩ :=
      hcollect "a.ts" mixedText tree hparse "a.ts" scanner.matcher []
    obtain rfl : collect "a.ts" scanner.matcher tree [] = added := hadded
    obtain ⟨r, hr, hrnames⟩ := List.mem_map.mp (hnames.symm ▸ List.mem_cons_self)
    obtain ⟨-, node, hnode, -, hparts⟩ := hall r hr
    obtain ⟨leaf, hleaf, hstring, hcontents⟩ :=
      (hparts ", " (hrnames ▸ List.mem_cons_self)).2 (by decide)
        (pieces_eq_nil_iff.mpr (List.all_eq_true.mp (by decide)))
    exact ⟨tree, hparse, leaf, Source.Tree.preorder_subset hnode hleaf, hstring, hcontents⟩

open PackageSample in
/-- A scan with a record and no name. -/
theorem scan_names_no_consumer :
    (scanner.scan (project commaText) []).scanner.result.records.map Record.names = [[","]] ∧
      (scanner.scan (project commaText) []).answer = [] := by
  refine ⟨by rw [records_comma]; rfl, ?_⟩
  rw [scanner.answer_scan, records_comma, Record.uniqueNames_eq_nil_iff]
  simp only [List.mem_singleton, forall_eq]
  exact List.all_eq_true.mp (by decide)

end PackageUsage
