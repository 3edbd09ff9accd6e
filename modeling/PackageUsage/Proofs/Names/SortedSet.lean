import PackageUsage.Proofs.Names.Pieces
import PackageUsage.Proofs.Text.Bytes

/-!
# Names as sorted sets

The reported names are the sorted set of the pieces of the bound ones, in the order of bytes. There
is only one sorted set of some texts, so neither order nor repetition of records and names counts,
and the names of two lists of records together are the union of both.
-/

namespace PackageUsage

/-- A list that holds the given texts, each once and in the order of their bytes. -/
structure IsSortedSet (texts sorted : List String) : Prop where
  ascending : sorted.Pairwise fun a b => Text.bytes a < Text.bytes b
  members : ∀ x, x ∈ sorted ↔ x ∈ texts

namespace IsSortedSet

variable {texts more sorted sorted' : List String}

theorem congr (h : IsSortedSet texts sorted) (hmembers : ∀ x, x ∈ texts ↔ x ∈ more) :
    IsSortedSet more sorted :=
  ⟨h.ascending, fun x => (h.members x).trans (hmembers x)⟩

/-- Some texts have only one sorted set. -/
theorem unique (h : IsSortedSet texts sorted) (h' : IsSortedSet texts sorted') :
    sorted = sorted' := by
  have hnodup {s : List String} (hs : IsSortedSet texts s) : s.Nodup :=
    hs.ascending.imp fun hlt => (Text.bytes_lt_bytes_iff.mp hlt).ne
  have hperm : sorted.Perm sorted' :=
    (List.perm_ext_iff_of_nodup (hnodup h) (hnodup h')).mpr fun x =>
      (h.members x).trans (h'.members x).symm
  refine hperm.eq_of_pairwise ?_ h.ascending h'.ascending
  exact fun a b _ _ hab hba => absurd hba (List.lt_asymm hab)

end IsSortedSet

/-- Without the repetitions of neighbours, a sorted list is strictly increasing. -/
theorem pairwise_dropRepeats {texts : List String} (h : texts.Pairwise (· ≤ ·)) :
    (dropRepeats texts).Pairwise (· < ·) := by
  fun_induction dropRepeats texts with
  | case1 => exact .nil
  | case2 x => exact List.pairwise_singleton _ x
  | case3 y rest ih => exact ih h.tail
  | case4 y z rest hne ih =>
    refine List.pairwise_cons.mpr ⟨fun x hx => ?_, ih h.tail⟩
    have hyz : y < z := lt_of_le_of_ne (List.rel_of_pairwise_cons h List.mem_cons_self) hne
    -- what is left is `z` or stands no earlier than `z`
    rcases List.mem_cons.mp (mem_dropRepeats.mp hx) with rfl | hrest
    · exact hyz
    · exact hyz.trans_le (List.rel_of_pairwise_cons h.tail hrest)

theorem isSortedSet_sortedSet (texts : List String) : IsSortedSet texts (sortedSet texts) where
  ascending := by
    have hsorted : (texts.mergeSort fun a b => decide (a ≤ b)).Pairwise (· ≤ ·) := by
      refine (List.pairwise_mergeSort ?_ ?_ texts).imp of_decide_eq_true
      · intro a b c hab hbc
        exact decide_eq_true ((of_decide_eq_true hab).trans (of_decide_eq_true hbc))
      · intro a b
        rcases le_total a b with h | h
        · rw [decide_eq_true h, Bool.true_or]
        · rw [decide_eq_true h, Bool.or_true]
    exact (pairwise_dropRepeats hsorted).imp Text.bytes_lt_bytes_iff.mpr
  members _ := mem_sortedSet

namespace Record

/-- The names that some records bind, in the order of the records. -/
def boundNames (records : List Record) : List String :=
  records.flatMap Record.names

variable {records more : List Record}

theorem isSortedSet_uniqueNames (records : List Record) :
    IsSortedSet ((boundNames records).flatMap pieces) (uniqueNames records) :=
  isSortedSet_sortedSet _

theorem uniqueNames_congr (h : ∀ name, name ∈ boundNames records ↔ name ∈ boundNames more) :
    uniqueNames records = uniqueNames more := by
  refine ((isSortedSet_uniqueNames records).congr fun x => ?_).unique (isSortedSet_uniqueNames more)
  simp only [List.mem_flatMap, h]

theorem isSortedSet_append (records more : List Record) :
    IsSortedSet (uniqueNames records ++ uniqueNames more) (uniqueNames (records ++ more)) := by
  refine (isSortedSet_uniqueNames (records ++ more)).congr fun x => ?_
  rw [boundNames, List.flatMap_append, List.flatMap_append, List.mem_append, List.mem_append,
    (isSortedSet_uniqueNames records).members, (isSortedSet_uniqueNames more).members]
  rfl

/-- Names that have the form of pieces are reported as they are. -/
theorem isSortedSet_boundNames (h : ∀ name ∈ boundNames records, IsPiece name) :
    IsSortedSet (boundNames records) (uniqueNames records) := by
  have hset := isSortedSet_uniqueNames records
  rwa [flatMap_pieces h] at hset

end Record

end PackageUsage
