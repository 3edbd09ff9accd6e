import PackageUsage.Discovery
import PackageUsage.Proofs.Path

/-!
# The order of discovered files

Discovery sorts the files it has sifted and drops the repeated ones. What is left is strictly
increasing in the order of paths, so no path occurs twice.
-/

namespace PackageUsage

namespace SourceFile

/-- One file stands before another: its relative path is smaller. -/
def Before (a b : SourceFile) : Prop :=
  Path.compare a.relative b.relative = .lt

instance : DecidableRel Before := fun a b =>
  inferInstanceAs (Decidable (Path.compare a.relative b.relative = .lt))

end SourceFile

namespace Discovery

theorem inOrder_trans (a b c : SourceFile) (hab : inOrder a b = true) (hbc : inOrder b c = true) :
    inOrder a c = true := by
  rw [inOrder] at hab hbc ⊢
  exact Path.le_trans _ _ _ hab hbc

theorem inOrder_total (a b : SourceFile) : (inOrder a b || inOrder b a) = true := by
  rw [inOrder, inOrder]
  exact Path.le_total _ _

theorem pairwise_mergeSort_inOrder (files : List SourceFile) :
    (files.mergeSort inOrder).Pairwise (fun a b => inOrder a b = true) :=
  List.pairwise_mergeSort inOrder_trans inOrder_total files

theorem mem_of_mem_dropRepeated {files : List SourceFile} {file : SourceFile}
    (h : file ∈ dropRepeated files) : file ∈ files := by
  fun_induction dropRepeated files with
  | case1 a b rest heq ih =>
    rcases List.mem_cons.mp (ih h) with rfl | hrest
    · exact List.mem_cons_self
    · exact List.mem_cons_of_mem a (List.mem_cons_of_mem b hrest)
  | case2 a b rest hne ih =>
    rcases List.mem_cons.mp h with rfl | hrest
    · exact List.mem_cons_self
    · exact List.mem_cons_of_mem a (ih hrest)
  | case3 files => exact h

/-- Without its repetitions, a sorted list of files is strictly increasing. -/
theorem pairwise_dropRepeated {files : List SourceFile}
    (h : files.Pairwise (fun a b => inOrder a b = true)) :
    (dropRepeated files).Pairwise SourceFile.Before := by
  fun_induction dropRepeated files with
  | case1 a b rest heq ih =>
    obtain ⟨ha, hb⟩ := List.pairwise_cons.mp h
    exact ih (List.pairwise_cons.mpr
      ⟨fun c hc => ha c (List.mem_cons_of_mem b hc), (List.pairwise_cons.mp hb).2⟩)
  | case2 a b rest hne ih =>
    obtain ⟨ha, hb⟩ := List.pairwise_cons.mp h
    have hab : a.Before b := Path.lt_of_le_of_ne (ha b List.mem_cons_self) (by simpa using hne)
    refine List.pairwise_cons.mpr ⟨fun c hc => ?_, ih hb⟩
    -- every later file is `b` or stands no earlier than `b`
    rcases List.mem_cons.mp (mem_of_mem_dropRepeated hc) with rfl | hrest
    · exact hab
    · have hbc : Path.le b.relative c.relative = true := (List.pairwise_cons.mp hb).1 c hrest
      exact Std.TransCmp.lt_of_lt_of_isLE hab hbc
  | case3 files hshort =>
    match files, hshort with
    | [], _ => exact .nil
    | [a], _ => exact List.pairwise_singleton _ a
    | a :: b :: rest, hshort => exact absurd rfl (hshort a b rest)

/-- A list of files that is strictly increasing has no repetitions to drop. -/
theorem dropRepeated_eq_self {files : List SourceFile} (h : files.Pairwise SourceFile.Before) :
    dropRepeated files = files := by
  fun_induction dropRepeated files with
  | case1 a b rest heq ih =>
    have hab : a.Before b := (List.pairwise_cons.mp h).1 b List.mem_cons_self
    rw [SourceFile.Before, beq_iff_eq.mp heq] at hab
    cases hab
  | case2 a b rest hne ih => rw [ih (List.pairwise_cons.mp h).2]
  | case3 files hshort => rfl

/-- The files of the walk that some include pattern selects and a grammar exists for, in the order
of the walk; none if the root is no directory or a pattern is no glob. -/
def sifted? (tree : FileTree) (root : String) (options : DiscoveryOptions) :
    Option (List SourceFile) :=
  if tree.isDirectory root then
    match includeGlobs options.patterns, excludeRules options.exclude with
    | .ok globs, .ok excludes =>
      some ((Survey.findings
        { tree, root, excludes, respectIgnoreFiles := options.respectIgnoreFiles }).filterMap
          fun found => (sift root globs found).1)
    | _, _ => none
  else none

end Discovery

open Discovery

/-- Discovery succeeds exactly with the sifted files, sorted and without repetitions. -/
theorem discover_eq_ok_iff (tree : FileTree) (root : String) (options : DiscoveryOptions)
    (files : List SourceFile) :
    (∃ events, discover tree root options = .ok (files, events)) ↔
      ∃ sifted, sifted? tree root options = some sifted ∧
        files = dropRepeated (sifted.mergeSort inOrder) := by
  unfold discover sifted?
  cases hroot : tree.isDirectory root with
  | false => simp [throw, throwThe, MonadExceptOf.throw, bind, Except.bind]
  | true =>
    cases hglobs : includeGlobs options.patterns with
    | error e => simp [bind, Except.bind]
    | ok globs =>
      cases hexcludes : excludeRules options.exclude with
      | error e => simp [bind, Except.bind]
      | ok excludes =>
        let found := ({ tree, root, excludes
                        respectIgnoreFiles := options.respectIgnoreFiles } : Survey).findings
        have hsifted : (found.map (sift root globs)).filterMap (·.1) =
            found.filterMap fun x => (sift root globs x).1 := List.filterMap_map
        simp only [bind, Except.bind, pure, Except.pure, Bool.not_true, Bool.false_eq_true,
          if_false, if_true, hsifted, found, Except.ok.injEq, Prod.mk.injEq, exists_and_left,
          exists_eq', and_true, Option.some.injEq, exists_eq_left', eq_comm (a := files)]

/-- The discovered files are strictly increasing in the order of their relative paths. -/
theorem pairwise_discover {tree : FileTree} {root : String} {options : DiscoveryOptions}
    {files : List SourceFile} {events : List LogEvent}
    (h : discover tree root options = .ok (files, events)) :
    files.Pairwise SourceFile.Before := by
  obtain ⟨sifted, -, rfl⟩ := (discover_eq_ok_iff tree root options files).mp ⟨events, h⟩
  exact pairwise_dropRepeated (pairwise_mergeSort_inOrder sifted)

/-- Sifted files that the walk meets in strict order are the discovered ones. -/
theorem discover_of_sifted {tree : FileTree} {root : String} {options : DiscoveryOptions}
    {files : List SourceFile} (hsifted : sifted? tree root options = some files)
    (hsorted : files.Pairwise SourceFile.Before) :
    ∃ events, discover tree root options = .ok (files, events) := by
  have hle : files.Pairwise (fun a b => inOrder a b = true) :=
    hsorted.imp fun hab => by rw [inOrder, Path.le, hab]; rfl
  refine (discover_eq_ok_iff tree root options files).mpr ⟨files, hsifted, ?_⟩
  rw [List.mergeSort_of_pairwise hle, dropRepeated_eq_self hsorted]

end PackageUsage
