import PackageUsage.Collect
import PackageUsage.Proofs.Names.SortedSet
import PackageUsage.Proofs.Source.Identifiers

/-!
# The reported names

What a list of records reports, as a sorted set. Identifiers are reported as they are, with one
exception: where one is spelled with an escape, the braces of the escape are dropped like any others.
-/

namespace PackageUsage

open Record (boundNames uniqueNames)
open Source (parse treeOfText)

/-- The reported names are the sorted set of the pieces of the bound names, in the order of bytes,
which is that of code points. They depend on nothing but which names are bound, so neither the order
nor the repetition of records and of names in them counts, and those of two lists of records
together are the sorted union of both. Names that have the form of pieces are reported as they are,
and an identifier of a text has this form if it is written there and holds no escape. -/
theorem uniqueNames_sorted_pieces (records : List Record) :
    IsSortedSet ((boundNames records).flatMap pieces) (uniqueNames records) ∧
    (∀ a b : String, Text.bytes a < Text.bytes b ↔ a < b) ∧
    (∀ more : List Record, (∀ name, name ∈ boundNames more ↔ name ∈ boundNames records) →
      uniqueNames more = uniqueNames records) ∧
    (∀ more : List Record,
      IsSortedSet (uniqueNames records ++ uniqueNames more) (uniqueNames (records ++ more))) ∧
    ((∀ name ∈ boundNames records, IsPiece name) →
      IsSortedSet (boundNames records) (uniqueNames records)) ∧
    ∀ (language : Language) (source : String), ∀ leaf ∈ (treeOfText language source).preorder,
      leaf.kind = .identifier → leaf.info.missing = false → '\\' ∉ leaf.text.toList →
        IsPiece leaf.text :=
  ⟨Record.isSortedSet_uniqueNames records, fun _ _ => Text.bytes_lt_bytes_iff,
    fun _ => Record.uniqueNames_congr, Record.isSortedSet_append records,
    Record.isSortedSet_boundNames, fun _ _ _ hleaf => Source.isPiece_of_treeOfText hleaf⟩

namespace ReportedSample

/-- A record of an import. -/
def record (names : List String) : Record :=
  { file := "a.ts", kind := .importing, specifier := "pkg", names, line := 1 }

/-- A text with two identifiers. -/
def plainImport : String :=
  "import b, \x7b sleep \x7d from 'pkg';"

/-- A text with an identifier that is spelled with an escape. -/
def escapedImport : String :=
  "import a\\u\x7b62\x7d from 'pkg';"

/-- The identifiers that are written in a text. -/
def identifiers (text : String) : List Source.Tree :=
  (treeOfText .typescript text).preorder.filter fun leaf =>
    leaf.kind == .identifier && !leaf.info.missing

theorem exists_leaf {text name : String}
    (h : name ∈ (identifiers text).map Source.Tree.text) :
    ∃ leaf ∈ (treeOfText .typescript text).preorder,
      leaf.kind = .identifier ∧ leaf.info.missing = false ∧ leaf.text = name := by
  obtain ⟨leaf, hleaf, htext⟩ := List.mem_map.mp h
  obtain ⟨hmem, hwritten⟩ := List.mem_filter.mp hleaf
  rw [Bool.and_eq_true, beq_iff_eq, Bool.not_eq_true'] at hwritten
  exact ⟨leaf, hmem, hwritten.1, hwritten.2, htext⟩

end ReportedSample

open ReportedSample in
theorem uniqueNames_sorted_pieces_plain :
    IsSortedSet ["sleep", "b"] (uniqueNames [record ["sleep"], record ["b"]]) ∧
      uniqueNames [record ["b", "b"], record [], record ["sleep"]] =
        uniqueNames [record ["sleep"], record ["b"]] := by
  obtain ⟨-, -, hsame, -, hplain, hidentifier⟩ :=
    uniqueNames_sorted_pieces [record ["sleep"], record ["b"]]
  have hwritten : (identifiers plainImport).map Source.Tree.text = ["b", "sleep"] := by
    decide +kernel
  have hpiece (name : String) (hname : name ∈ ["b", "sleep"]) (hescape : '\\' ∉ name.toList) :
      IsPiece name := by
    rw [← hwritten] at hname
    obtain ⟨leaf, hleaf, hkind, hmissing, rfl⟩ := exists_leaf hname
    exact hidentifier .typescript plainImport leaf hleaf hkind hmissing hescape
  refine ⟨hplain ?_, hsame _ ?_⟩
  · simpa [boundNames, record] using
      And.intro (hpiece "sleep" (by simp) (by decide)) (hpiece "b" (by simp) (by decide))
  · simp [boundNames, record, or_comm]

open ReportedSample in
/-- An identifier with braces, which is reported without them. -/
theorem uniqueNames_drops_escape_braces :
    (∃ leaf ∈ (treeOfText .typescript escapedImport).preorder, leaf.kind = .identifier ∧
      leaf.info.missing = false ∧ leaf.text = "a\\u\x7b62\x7d" ∧ ¬ IsPiece leaf.text) ∧
    ∃ tree, parse "a.ts" escapedImport = .ok tree ∧
      let records := collect "a.ts" (.start "pkg".toList) tree []
      boundNames records = ["a\\u\x7b62\x7d"] ∧ uniqueNames records = ["a\\u62"] := by
  constructor
  · have hwritten : (identifiers escapedImport).map Source.Tree.text = ["a\\u\x7b62\x7d"] := by
      decide +kernel
    obtain ⟨leaf, hleaf, hkind, hmissing, htext⟩ := exists_leaf (hwritten ▸ List.mem_cons_self)
    refine ⟨leaf, hleaf, hkind, hmissing, htext, fun h => ?_⟩
    exact h.unbraced.1 (by rw [htext]; decide)
  · have hbound : (parse "a.ts" escapedImport).toOption.map (fun tree =>
        boundNames (collect "a.ts" (.start "pkg".toList) tree [])) = some ["a\\u\x7b62\x7d"] := by
      decide +kernel
    cases hparse : parse "a.ts" escapedImport with
    | error e =>
      rw [hparse] at hbound
      cases hbound
    | ok tree =>
      rw [hparse] at hbound
      have hnames : boundNames (collect "a.ts" (.start "pkg".toList) tree []) =
          ["a\\u\x7b62\x7d"] := Option.some.inj hbound
      have hpieces : ["a\\u\x7b62\x7d"].flatMap pieces = ["a\\u62"] := by decide +kernel
      have hset := Record.isSortedSet_uniqueNames (collect "a.ts" (.start "pkg".toList) tree [])
      rw [hnames, hpieces] at hset
      exact ⟨tree, rfl, hnames, hset.unique ⟨List.pairwise_singleton _ _, fun _ => Iff.rfl⟩⟩

end PackageUsage
