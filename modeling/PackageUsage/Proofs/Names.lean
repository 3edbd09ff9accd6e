import PackageUsage.Names
import PackageUsage.Proofs.Text

/-!
# The names of some records

Sorting and the removal of repetitions keep exactly the members of a list, so a name is reported
when it is a piece of some name that some record binds.
-/

namespace PackageUsage

theorem mem_dropRepeats {α : Type} [DecidableEq α] {x : α} {xs : List α} :
    x ∈ dropRepeats xs ↔ x ∈ xs := by
  fun_induction dropRepeats xs with
  | case1 => rfl
  | case2 y => rfl
  | case3 y rest ih =>
    rw [ih]
    constructor
    · exact fun hx => List.mem_cons_of_mem y hx
    · rintro (_ | ⟨_, hx⟩)
      · exact List.mem_cons_self
      · exact hx
  | case4 y z rest hne ih =>
    rw [List.mem_cons, ih]
    exact List.mem_cons.symm

theorem mem_sortedSet {x : String} {texts : List String} : x ∈ sortedSet texts ↔ x ∈ texts := by
  rw [sortedSet, mem_dropRepeats, List.mem_mergeSort]

theorem dropRepeats_eq_self {α : Type} [DecidableEq α] {xs : List α}
    (h : xs.IsChain (· ≠ ·)) : dropRepeats xs = xs := by
  fun_induction dropRepeats xs with
  | case1 => rfl
  | case2 x => rfl
  | case3 y rest ih => exact absurd rfl (List.isChain_cons_cons.mp h).1
  | case4 y z rest hne ih => rw [ih (List.isChain_cons_cons.mp h).2]

/-- A list in strict order is a sorted set. -/
theorem sortedSet_eq_self {texts : List String} (h : texts.Pairwise (· < ·)) :
    sortedSet texts = texts := by
  have hsorted : texts.mergeSort (fun a b => decide (a ≤ b)) = texts :=
    List.mergeSort_of_pairwise (h.imp fun hlt => decide_eq_true (String.lt_asymm hlt))
  rw [sortedSet, hsorted]
  exact dropRepeats_eq_self (h.imp String.ne_of_lt).isChain

/-! ## Names without pieces -/

/-- The characters that no piece of a name starts with: braces, commas and blanks. -/
def isFiller (c : Char) : Bool :=
  c == '\x7b' || c == '\x7d' || c == ',' || Text.isBlank c

/-- A name has no pieces exactly if it holds braces, commas and blanks only. -/
theorem pieces_eq_nil_iff {name : String} :
    pieces name = [] ↔ ∀ c ∈ name.toList, isFiller c = true := by
  have hempty (piece : List Char) :
      (Text.trimList piece).isEmpty = true ↔ ∀ c ∈ piece, Text.isBlank c = true := by
    rw [List.isEmpty_iff, Text.trimList_eq_nil_iff]
  have hfiller (c : Char) : isFiller c = true ↔
      (c != '\x7b' && c != '\x7d') = false ∨ c = ',' ∨ Text.isBlank c = true := by
    simp [isFiller, or_assoc]
    grind
  simp only [pieces, List.map_eq_nil_iff, List.filter_eq_nil_iff, List.forall_mem_map,
    Bool.not_eq_true', Bool.not_eq_false, hempty, hfiller]
  generalize hkept : (name.toList.filter fun c => c != '\x7b' && c != '\x7d') = kept
  have hmem (c : Char) : c ∈ kept ↔ c ∈ name.toList ∧ (c != '\x7b' && c != '\x7d') = true := by
    rw [← hkept, List.mem_filter]
  constructor
  · intro h c hc
    by_cases hbrace : (c != '\x7b' && c != '\x7d') = true
    · by_cases hcomma : c = ','
      · exact Or.inr (Or.inl hcomma)
      · obtain ⟨piece, hpiece, hmember⟩ :=
          Text.exists_mem_splitOn_iff.mpr ⟨(hmem c).mpr ⟨hc, hbrace⟩, hcomma⟩
        exact Or.inr (Or.inr (h piece hpiece c hmember))
    · exact Or.inl (Bool.eq_false_iff.mpr hbrace)
  · intro h piece hpiece c hc
    obtain ⟨hmember, hcomma⟩ := Text.exists_mem_splitOn_iff.mp ⟨piece, hpiece, hc⟩
    obtain ⟨hname, hbrace⟩ := (hmem c).mp hmember
    rcases h c hname with hfalse | hcommaOrBlank
    · rw [hbrace] at hfalse
      cases hfalse
    · exact hcommaOrBlank.resolve_left hcomma

/-- The characters of a piece are characters of the name. -/
theorem mem_of_mem_pieces {name piece : String} (h : piece ∈ pieces name) {c : Char}
    (hc : c ∈ piece.toList) : c ∈ name.toList := by
  obtain ⟨cs, hcs, rfl⟩ := List.mem_map.mp h
  obtain ⟨whole, hwhole, rfl⟩ := List.mem_map.mp (List.mem_of_mem_filter hcs)
  rw [String.toList_ofList] at hc
  have hkept := (Text.exists_mem_splitOn_iff.mp ⟨whole, hwhole, Text.mem_of_mem_trimList hc⟩).1
  exact List.mem_of_mem_filter hkept

namespace Record

/-- The reported names are the pieces of the bound ones. -/
theorem mem_uniqueNames {x : String} {records : List Record} :
    x ∈ uniqueNames records ↔ ∃ r ∈ records, ∃ name ∈ r.names, x ∈ pieces name := by
  simp only [uniqueNames, mem_sortedSet, List.mem_flatMap]
  constructor
  · rintro ⟨name, ⟨r, hr, hname⟩, hx⟩
    exact ⟨r, hr, name, hname, hx⟩
  · rintro ⟨r, hr, name, hname, hx⟩
    exact ⟨name, ⟨r, hr, hname⟩, hx⟩

/-- Fewer records report no further names. -/
theorem uniqueNames_subset {records more : List Record} (h : records ⊆ more) :
    uniqueNames records ⊆ uniqueNames more := by
  intro x hx
  obtain ⟨r, hr, hname⟩ := mem_uniqueNames.mp hx
  exact mem_uniqueNames.mpr ⟨r, h hr, hname⟩

/-- No names are reported exactly if all bound names hold braces, commas and blanks only. -/
theorem uniqueNames_eq_nil_iff {records : List Record} :
    uniqueNames records = [] ↔
      ∀ r ∈ records, ∀ name ∈ r.names, ∀ c ∈ name.toList, isFiller c = true := by
  simp only [List.eq_nil_iff_forall_not_mem, mem_uniqueNames, ← pieces_eq_nil_iff]
  constructor
  · intro h r hr name hname x hx
    exact h x ⟨r, hr, name, hname, hx⟩
  · rintro h x ⟨r, hr, name, hname, hx⟩
    exact h r hr name hname x hx

end Record

end PackageUsage
