import PackageUsage.Path

/-!
# The order of paths

The comparison of components is a total order, so the comparison of paths is a total preorder whose
ties are the paths with the same components.
-/

namespace PackageUsage.Path

namespace Component

theorem compare_eq_compareLex :
    Component.compare = compareLex (compareOn Component.rank) (compareOn Component.name) := rfl

instance : Std.TransCmp Component.compare :=
  inferInstanceAs (Std.TransCmp (compareLex (compareOn rank) (compareOn name)))

instance : Std.LawfulEqCmp Component.compare where
  eq_of_compare {a b} h := by
    rw [compare_eq_compareLex, compareLex_eq_eq] at h
    have hrank : a.rank = b.rank := Std.LawfulEqCmp.eq_of_compare h.1
    have hname : a.name = b.name := Std.LawfulEqCmp.eq_of_compare h.2
    cases a <;> cases b <;> simp_all [rank, name]

end Component

theorem compareComponents_eq_compareLex :
    compareComponents = List.compareLex Component.compare := by
  funext as bs
  induction as generalizing bs with
  | nil => cases bs <;> rfl
  | cons a as ih =>
    cases bs with
    | nil => rfl
    | cons b bs => rw [compareComponents, List.compareLex_cons_cons, ih]

theorem compare_eq_compareOn :
    Path.compare = fun a b => List.compareLex Component.compare (components a) (components b) := by
  funext a b
  rw [Path.compare, compareComponents_eq_compareLex]

instance : Std.TransCmp Path.compare where
  eq_swap {a b} := by
    rw [compare_eq_compareOn]
    exact Std.OrientedCmp.eq_swap
  isLE_trans {a b c} hab hbc := by
    rw [compare_eq_compareOn] at hab hbc ⊢
    exact Std.TransCmp.isLE_trans hab hbc

/-- Two paths tie exactly when they have the same components. -/
theorem compare_eq_eq_iff (a b : String) :
    Path.compare a b = .eq ↔ components a = components b := by
  rw [compare_eq_compareOn]
  exact Std.LawfulEqCmp.compare_eq_iff_eq

theorem le_trans (a b c : String) (hab : le a b = true) (hbc : le b c = true) : le a c = true :=
  Std.TransCmp.isLE_trans hab hbc

theorem le_total (a b : String) : (le a b || le b a) = true := by
  have hswap : Path.compare b a = (Path.compare a b).swap := Std.OrientedCmp.eq_swap
  rw [le, le, hswap]
  cases Path.compare a b <;> rfl

theorem lt_of_le_of_ne {a b : String} (hab : le a b = true) (hne : Path.compare a b ≠ .eq) :
    Path.compare a b = .lt := by
  rw [le] at hab
  cases h : Path.compare a b with
  | lt => rfl
  | eq => exact absurd h hne
  | gt =>
    rw [h] at hab
    cases hab

theorem ne_of_lt {a b : String} (h : Path.compare a b = .lt) : a ≠ b := by
  rintro rfl
  rw [(compare_eq_eq_iff a a).mpr rfl] at h
  cases h

end PackageUsage.Path
