import PackageUsage.Names
import PackageUsage.Proofs.Path.Names
import PackageUsage.Proofs.Path

/-!
# Records in the order of their files

Sorting by file is stable: records of files with the same components stay in the order they had,
however the paths are spelled. Since paths are in a total preorder whose ties are the paths with the
same components, no other list is sorted like this.
-/

namespace PackageUsage

namespace Path

theorem le_refl (path : String) : le path path = true := by
  rw [le, (compare_eq_eq_iff path path).mpr rfl]
  rfl

/-- Each of two paths may stand before the other exactly if they have the same components. -/
theorem le_and_le_iff {a b : String} :
    le a b = true ∧ le b a = true ↔ components a = components b := by
  have hswap : Path.compare b a = (Path.compare a b).swap := Std.OrientedCmp.eq_swap
  rw [← compare_eq_eq_iff, le, le, hswap]
  cases Path.compare a b <;> decide

theorem segments_ne_nil (path : String) : segments path ≠ [] :=
  List.map_eq_nil_iff.not.mpr (Text.splitOn_ne_nil '/' path.toList)

theorem components_congr {path path' first : String} {rest rest' : List String}
    (h : segments path = first :: rest) (h' : segments path' = first :: rest')
    (hrest : rest ≠ []) (hrest' : rest' ≠ [])
    (hsame : rest.filterMap ofSegment = rest'.filterMap ofSegment) :
    components path = components path' := by
  obtain ⟨next, more, rfl⟩ := List.exists_cons_of_ne_nil hrest
  obtain ⟨next', more', rfl⟩ := List.exists_cons_of_ne_nil hrest'
  simp only [components, h, h', hsame]

/-- A segment inside a path that stands for no component may be left out. -/
theorem components_without {segment : String} (hslash : '/' ∉ segment.toList)
    (hnone : ofSegment segment = none) (front back : String) :
    components (front ++ "/" ++ segment ++ "/" ++ back) = components (front ++ "/" ++ back) := by
  obtain ⟨first, rest, hfront⟩ := List.exists_cons_of_ne_nil (segments_ne_nil front)
  obtain ⟨next, more, hback⟩ := List.exists_cons_of_ne_nil (segments_ne_nil back)
  have hwith : segments (front ++ "/" ++ segment ++ "/" ++ back) =
      first :: (rest ++ segment :: next :: more) := by
    rw [segments_append, segments_append, segments_of_not_mem hslash, hfront, hback]
    simp
  have hwithout : segments (front ++ "/" ++ back) = first :: (rest ++ next :: more) := by
    rw [segments_append, hfront, hback, List.cons_append]
  refine components_congr hwith hwithout (by simp) (by simp) ?_
  simp [hnone]

theorem components_double (front back : String) :
    components (front ++ "//" ++ back) = components (front ++ "/" ++ back) := by
  have hsplit : front ++ "//" ++ back = front ++ "/" ++ "" ++ "/" ++ back := by
    rw [show "//" = "/" ++ "" ++ "/" from rfl]
    simp only [String.append_assoc]
  rw [hsplit, components_without (by simp) rfl]

theorem components_dot (front back : String) :
    components (front ++ "/./" ++ back) = components (front ++ "/" ++ back) := by
  have hsplit : front ++ "/./" ++ back = front ++ "/" ++ "." ++ "/" ++ back := by
    rw [show "/./" = "/" ++ "." ++ "/" from rfl]
    simp only [String.append_assoc]
  rw [hsplit, components_without (by decide) rfl]

end Path

namespace Record

/-- Whether the file of a record has the components of a path. -/
def isOf (path : String) (r : Record) : Bool :=
  decide (Path.components r.file = Path.components path)

theorem isOf_iff {path : String} {r : Record} :
    r.isOf path = true ↔ Path.components r.file = Path.components path :=
  decide_eq_true_iff

theorem isOf_self (r : Record) : r.isOf r.file = true :=
  isOf_iff.mpr rfl

/-- A list of records in the order of their files, with those of one file in the given order. -/
structure IsSortedByFile (records sorted : List Record) : Prop where
  perm : sorted.Perm records
  ordered : sorted.Pairwise fun a b => Path.le a.file b.file = true
  stable : ∀ path, sorted.filter (isOf path) = records.filter (isOf path)

variable {records sorted sorted' : List Record}

theorem mem_of_filter_eq (h : ∀ path, sorted.filter (isOf path) = sorted'.filter (isOf path))
    {r : Record} (hr : r ∈ sorted) : r ∈ sorted' := by
  have hmem : r ∈ sorted.filter (isOf r.file) := List.mem_filter.mpr ⟨hr, r.isOf_self⟩
  rw [h] at hmem
  exact List.mem_of_mem_filter hmem

theorem le_head {a r : Record} {rest : List Record}
    (h : (a :: rest).Pairwise fun a b => Path.le a.file b.file = true) (hr : r ∈ a :: rest) :
    Path.le a.file r.file = true := by
  rcases List.mem_cons.mp hr with rfl | hrest
  · exact Path.le_refl _
  · exact List.rel_of_pairwise_cons h hrest

/-- Two sorted lists with the same records of each file are the same. -/
theorem eq_of_filter_eq (h : sorted.Pairwise fun a b => Path.le a.file b.file = true)
    (h' : sorted'.Pairwise fun a b => Path.le a.file b.file = true)
    (hsame : ∀ path, sorted.filter (isOf path) = sorted'.filter (isOf path)) :
    sorted = sorted' := by
  induction sorted generalizing sorted' with
  | nil =>
    refine (List.eq_nil_iff_forall_not_mem.mpr fun r hr => ?_).symm
    exact absurd (mem_of_filter_eq (fun path => (hsame path).symm) hr) List.not_mem_nil
  | cons a rest ih =>
    cases sorted' with
    | nil => exact absurd (mem_of_filter_eq hsame List.mem_cons_self) List.not_mem_nil
    | cons b rest' =>
      -- either head is in both lists, so the heads tie, and they are the first of their file
      have hba := le_head h' (mem_of_filter_eq hsame List.mem_cons_self)
      have hab := le_head h (mem_of_filter_eq (fun path => (hsame path).symm) List.mem_cons_self)
      have htie : b.isOf a.file = true := isOf_iff.mpr (Path.le_and_le_iff.mp ⟨hba, hab⟩)
      have hheads := hsame a.file
      rw [List.filter_cons_of_pos a.isOf_self, List.filter_cons_of_pos htie] at hheads
      obtain rfl : a = b := (List.cons.inj hheads).1
      have hrest (path : String) : rest.filter (isOf path) = rest'.filter (isOf path) := by
        have hpath := hsame path
        rw [List.filter_cons, List.filter_cons] at hpath
        split at hpath
        · exact (List.cons.inj hpath).2
        · exact hpath
      exact congrArg (List.cons a) (ih h.tail h'.tail hrest)

theorem IsSortedByFile.unique (h : IsSortedByFile records sorted)
    (h' : IsSortedByFile records sorted') : sorted = sorted' :=
  eq_of_filter_eq h.ordered h'.ordered fun path => (h.stable path).trans (h'.stable path).symm

/-! ## Sorting -/

theorem le_file_trans (a b c : Record) (hab : Path.le a.file b.file = true)
    (hbc : Path.le b.file c.file = true) : Path.le a.file c.file = true :=
  Path.le_trans _ _ _ hab hbc

theorem le_file_total (a b : Record) : (Path.le a.file b.file || Path.le b.file a.file) = true :=
  Path.le_total _ _

theorem perm_sortedByFile (records : List Record) : (sortedByFile records).Perm records := by
  rw [sortedByFile]
  exact List.mergeSort_perm records _

theorem pairwise_sortedByFile (records : List Record) :
    (sortedByFile records).Pairwise fun a b => Path.le a.file b.file = true := by
  rw [sortedByFile]
  exact List.pairwise_mergeSort le_file_trans le_file_total records

/-- The records of one file stay in their order. -/
theorem filter_sortedByFile (path : String) (records : List Record) :
    (sortedByFile records).filter (isOf path) = records.filter (isOf path) := by
  have hties : (records.filter (isOf path)).Pairwise fun a b => Path.le a.file b.file = true := by
    refine List.pairwise_of_forall_mem_list fun a ha b hb => ?_
    have hcomponents : Path.components a.file = Path.components b.file :=
      (isOf_iff.mp (List.mem_filter.mp ha).2).trans (isOf_iff.mp (List.mem_filter.mp hb).2).symm
    exact (Path.le_and_le_iff.mpr hcomponents).1
  have hsublist : (records.filter (isOf path)).Sublist (sortedByFile records) := by
    rw [sortedByFile]
    exact List.sublist_mergeSort le_file_trans le_file_total hties List.filter_sublist
  have hfiltered := hsublist.filter (isOf path)
  rw [List.filter_filter] at hfiltered
  simp only [Bool.and_self] at hfiltered
  have hlength := ((perm_sortedByFile records).filter (isOf path)).length_eq
  exact (hfiltered.eq_of_length hlength.symm).symm

theorem isSortedByFile_sortedByFile (records : List Record) :
    IsSortedByFile records (sortedByFile records) where
  perm := perm_sortedByFile records
  ordered := pairwise_sortedByFile records
  stable path := filter_sortedByFile path records

/-- Paths are in a total preorder, in which those with the same components tie: repeated separators
and inner `.` components make no difference. Records are sorted by file in this order and keep their
order where their files tie, and there is only one such list, so sorting again changes nothing. -/
theorem sortedByFile_stable :
    ((∀ a b, Path.le a b = true ∨ Path.le b a = true) ∧
      (∀ a b c, Path.le a b = true → Path.le b c = true → Path.le a c = true) ∧
      (∀ a b, Path.le a b = true ∧ Path.le b a = true ↔ Path.components a = Path.components b) ∧
      (∀ a b, Path.compare a b = .eq ↔ Path.components a = Path.components b) ∧
      ∀ a b, Path.components (a ++ "//" ++ b) = Path.components (a ++ "/" ++ b) ∧
        Path.components (a ++ "/./" ++ b) = Path.components (a ++ "/" ++ b)) ∧
    ∀ records : List Record,
      IsSortedByFile records (sortedByFile records) ∧
      (∀ sorted, IsSortedByFile records sorted → sorted = sortedByFile records) ∧
      sortedByFile (sortedByFile records) = sortedByFile records := by
  constructor
  · refine ⟨fun a b => ?_, Path.le_trans, fun _ _ => Path.le_and_le_iff, Path.compare_eq_eq_iff, ?_⟩
    · exact Bool.or_eq_true_iff.mp (Path.le_total a b)
    · exact fun a b => ⟨Path.components_double a b, Path.components_dot a b⟩
  · intro records
    have hsorted := isSortedByFile_sortedByFile records
    refine ⟨hsorted, fun sorted h => h.unique hsorted, ?_⟩
    rw [sortedByFile]
    exact List.mergeSort_of_pairwise hsorted.ordered

/-- Two spellings of one path, and a path that is smaller as a text. -/
def spelledTwice : List Record :=
  ["a/b.ts", "a//b.ts", "a-b.ts"].map fun file =>
    { file, kind := .importing, specifier := "pkg", names := ["x"], line := 1 }

theorem sortedByFile_stable_spellings :
    Path.le "a//b.ts" "a-b.ts" = true ∧ sortedByFile spelledTwice = spelledTwice := by
  obtain ⟨⟨-, htrans, -⟩, hsort⟩ := sortedByFile_stable
  have hordered : spelledTwice.Pairwise fun a b => Path.le a.file b.file = true := by
    decide +kernel
  have hsorted : IsSortedByFile spelledTwice spelledTwice :=
    ⟨.refl _, hordered, fun _ => rfl⟩
  refine ⟨htrans _ "a/b.ts" _ (by decide +kernel) (by decide +kernel), ?_⟩
  exact ((hsort spelledTwice).2.1 spelledTwice hsorted).symm

end Record

end PackageUsage
