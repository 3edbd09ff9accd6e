import Mathlib.Data.List.Forall2
import PackageUsage.Collect
import PackageUsage.Proofs.Source.Walk

/-!
# What a file contributes

The records of a tree are those of its nodes in pre-order. Which nodes count, and what a record says
about its node, is stated here by the parts of the node and not by the function that makes records.
-/

namespace PackageUsage

namespace Source.Tree

/-- A node counts for a target: it is an import or an export, its source is a string whose contents
the target accepts, and it binds some name. -/
def Counts (matcher : Matcher) (node : Tree) : Prop :=
  (node.kind = .importStatement ∨ node.kind = .exportStatement) ∧
  (∃ source ∈ node.child? .source,
    source.kind = .string ∧ matcher.accepts (unquote source.text) = true) ∧
  node.boundNames ≠ []

instance (matcher : Matcher) : DecidablePred (Counts matcher) := fun _ =>
  inferInstanceAs (Decidable (_ ∧ _ ∧ _))

/-- A record describes a node of a file: it carries the file, the kind of the declaration, the
contents of its source, its names and the line it starts on. -/
structure Describes (file : String) (node : Tree) (r : Record) : Prop where
  file : r.file = file
  kind : (node.kind = .importStatement → r.kind = .importing) ∧
    (node.kind = .exportStatement → r.kind = .exporting)
  specifier : ∃ source ∈ node.child? .source, r.specifier = unquote source.text
  names : r.names = node.boundNames
  line : r.line = node.info.line + 1

theorem declarationKind?_eq_some_iff (node : Tree) (kind : DeclarationKind) :
    node.declarationKind? = some kind ↔
      (node.kind = .importStatement ∧ kind = .importing) ∨
      (node.kind = .exportStatement ∧ kind = .exporting) := by
  unfold declarationKind?
  cases node.kind <;> cases kind <;> simp

theorem specifier?_eq_some_iff (node : Tree) (specifier : String) :
    node.specifier? = some specifier ↔
      node.declarationKind?.isSome ∧ ∃ source ∈ node.child? .source,
        source.kind = .string ∧ specifier = unquote source.text := by
  unfold specifier?
  cases node.declarationKind? with
  | none => simp
  | some kind =>
    cases node.child? .source with
    | none => simp
    | some source => by_cases hs : source.kind = .string <;> simp [hs, eq_comm]

theorem record?_eq_some_iff (file : String) (matcher : Matcher) (node : Tree) (r : Record) :
    node.record? file matcher = some r ↔
      ∃ kind specifier, node.declarationKind? = some kind ∧ node.specifier? = some specifier ∧
        matcher.accepts specifier = true ∧ node.boundNames ≠ [] ∧
        r = { file, kind, specifier, names := node.boundNames, line := node.line } := by
  unfold record?
  cases node.declarationKind? with
  | none => simp
  | some kind =>
    cases node.specifier? with
    | none => simp
    | some specifier =>
      by_cases ha : matcher.accepts specifier = true <;>
        by_cases hn : node.boundNames = [] <;> simp [ha, hn, eq_comm (a := r)]

/-- A node has a record exactly when it counts. -/
theorem record?_isSome_iff (file : String) (matcher : Matcher) (node : Tree) :
    (node.record? file matcher).isSome ↔ node.Counts matcher := by
  rw [Option.isSome_iff_exists]
  constructor
  · rintro ⟨r, h⟩
    obtain ⟨kind, specifier, hk, hs, ha, hn, -⟩ := (record?_eq_some_iff ..).mp h
    obtain ⟨-, source, hsource, hstring, rfl⟩ := (specifier?_eq_some_iff ..).mp hs
    refine ⟨?_, ⟨source, hsource, hstring, ha⟩, hn⟩
    exact ((declarationKind?_eq_some_iff ..).mp hk).imp And.left And.left
  · rintro ⟨hkind, ⟨source, hsource, hstring, ha⟩, hn⟩
    obtain ⟨kind, hk⟩ : ∃ kind, node.declarationKind? = some kind := by
      rcases hkind with hi | he
      · exact ⟨.importing, (declarationKind?_eq_some_iff ..).mpr (Or.inl ⟨hi, rfl⟩)⟩
      · exact ⟨.exporting, (declarationKind?_eq_some_iff ..).mpr (Or.inr ⟨he, rfl⟩)⟩
    have hs : node.specifier? = some (unquote source.text) :=
      (specifier?_eq_some_iff ..).mpr ⟨by simp [hk], source, hsource, hstring, rfl⟩
    exact ⟨_, (record?_eq_some_iff ..).mpr ⟨kind, _, hk, hs, ha, hn, rfl⟩⟩

/-- The record of a node describes it. -/
theorem describes_of_record? {file : String} {matcher : Matcher} {node : Tree} {r : Record}
    (h : node.record? file matcher = some r) : Describes file node r := by
  obtain ⟨kind, specifier, hk, hs, -, -, rfl⟩ := (record?_eq_some_iff ..).mp h
  obtain ⟨-, source, hsource, -, rfl⟩ := (specifier?_eq_some_iff ..).mp hs
  refine ⟨rfl, ?_, ⟨source, hsource, rfl⟩, rfl, rfl⟩
  rcases (declarationKind?_eq_some_iff ..).mp hk with ⟨hi, rfl⟩ | ⟨he, rfl⟩
  · exact ⟨fun _ => rfl, fun he => absurd (hi.symm.trans he) (by decide)⟩
  · exact ⟨fun hi => absurd (hi.symm.trans he) (by decide), fun _ => rfl⟩

end Source.Tree

open Source Source.Tree

/-- Visits that put the record of a node, if it has one, in front of those found before leave the
records of all nodes in reverse. -/
theorem foldl_found {f : Tree → Option Record} {visit : List Record → Tree → List Record}
    (hvisit : ∀ found node, visit found node = (f node).toList ++ found) (nodes : List Tree)
    (found : List Record) :
    nodes.foldl visit found = (nodes.filterMap f).reverse ++ found := by
  induction nodes generalizing found with
  | nil => rfl
  | cons node nodes ih =>
    rw [List.foldl_cons, ih, hvisit, List.filterMap_cons]
    cases f node with
    | none => rfl
    | some r => simp

/-- Collecting appends the records of the nodes in pre-order. -/
theorem collect_eq_append (file : String) (matcher : Matcher) (tree : Tree)
    (records : List Record) :
    collect file matcher tree records =
      records ++ tree.preorder.filterMap (Tree.record? file matcher) := by
  rw [collect, walk_eq_foldl, foldl_found (f := Tree.record? file matcher), List.append_nil,
    List.reverse_reverse]
  intro found node
  cases node.record? file matcher <;> rfl

/-- The records of some nodes match, one by one, the nodes that count. -/
theorem forall₂_filterMap_record? (file : String) (matcher : Matcher) (nodes : List Tree) :
    List.Forall₂ (Describes file) (nodes.filter (Counts matcher))
      (nodes.filterMap (Tree.record? file matcher)) := by
  induction nodes with
  | nil => exact .nil
  | cons node nodes ih =>
    have hiff := record?_isSome_iff file matcher node
    cases hr : node.record? file matcher with
    | none =>
      have hn : ¬ node.Counts matcher := fun hc => by simpa [hr] using hiff.mpr hc
      rw [List.filterMap_cons_none hr, List.filter_cons_of_neg (by simpa using hn)]
      exact ih
    | some r =>
      have hc : node.Counts matcher := hiff.mp (by simp [hr])
      rw [List.filterMap_cons_some hr, List.filter_cons_of_pos (by simpa using hc)]
      exact .cons (describes_of_record? hr) ih

/-- Collecting keeps the records found before and appends one record for each node that counts, in
pre-order; each says about its node what a record has to say, and no other node adds one. -/
theorem collect_counted_nodes (file : String) (matcher : Matcher) (tree : Tree)
    (records : List Record) :
    ∃ added, collect file matcher tree records = records ++ added ∧
      List.Forall₂ (Describes file) (tree.preorder.filter (Counts matcher)) added :=
  ⟨_, collect_eq_append file matcher tree records, forall₂_filterMap_record? file matcher _⟩

end PackageUsage
