import PackageUsage.Source.Walk

/-!
# The walk is the pre-order

A visitor has a list of nodes still ahead of it: those of its focus, then those of the siblings to
the right, from the inside out. One move takes the first node off that list, so the walk visits the
list in order and the fuel is the number of its nodes.
-/

namespace PackageUsage.Source

namespace Tree

variable {σ : Type}

mutual

theorem length_preorder (t : Tree) : t.preorder.length = t.count := by
  cases t with
  | node info children =>
    simp only [preorder, count, List.length_cons]
    rw [length_preorderList children]

theorem length_preorderList (ts : List Tree) : (preorderList ts).length = countList ts := by
  cases ts with
  | nil => rfl
  | cons t rest =>
    simp only [preorderList, countList, List.length_append]
    rw [length_preorder t, length_preorderList rest]

end

theorem preorderList_eq_flatMap (ts : List Tree) : preorderList ts = ts.flatMap preorder := by
  induction ts with
  | nil => rfl
  | cons t ts ih => rw [preorderList, ih, List.flatMap_cons]

theorem preorder_eq (t : Tree) : t.preorder = t :: preorderList t.children := by
  cases t with
  | node info children => rw [preorder, Tree.children]

theorem mem_preorder_self (t : Tree) : t ∈ t.preorder := by
  rw [preorder_eq]
  exact List.mem_cons_self

theorem mem_preorder_of_mem_children {t c : Tree} (h : c ∈ t.children) : c ∈ t.preorder := by
  rw [preorder_eq, preorderList_eq_flatMap]
  exact List.mem_cons_of_mem _ (List.mem_flatMap.mpr ⟨c, h, mem_preorder_self c⟩)

mutual

/-- The nodes below a node of a tree are nodes of the tree. -/
theorem preorder_subset {t u : Tree} (h : u ∈ t.preorder) : u.preorder ⊆ t.preorder := by
  cases t with
  | node info children =>
    rw [preorder] at h ⊢
    rcases List.mem_cons.mp h with rfl | h
    · rw [preorder]
      exact List.Subset.refl _
    · exact List.subset_cons_of_subset _ (preorder_subset_preorderList h)

theorem preorder_subset_preorderList {ts : List Tree} {u : Tree} (h : u ∈ preorderList ts) :
    u.preorder ⊆ preorderList ts := by
  cases ts with
  | nil => cases h
  | cons t rest =>
    rw [preorderList] at h ⊢
    rcases List.mem_append.mp h with h | h
    · exact List.subset_append_of_subset_left _ (preorder_subset h)
    · exact List.subset_append_of_subset_right _ (preorder_subset_preorderList h)

end

end Tree

namespace Visitor

/-- The nodes that a walk from this place has still to visit, the focus first. -/
def ahead (v : Visitor) : List Tree :=
  v.focus.preorder ++ v.right.flatMap Tree.preorderList

@[simp] theorem ahead_top (t : Tree) : (top t).ahead = t.preorder := by
  simp [ahead, top]

/-- The move to the nearest place on the right goes to the first node of the pending siblings. -/
theorem ahead_of_nextSibling? (right : List (List Tree)) :
    (nextSibling? right).elim [] ahead = right.flatMap Tree.preorderList := by
  induction right with
  | nil => rfl
  | cons ts up ih =>
    cases ts with
    | nil => simpa [nextSibling?, Tree.preorderList] using ih
    | cons t rest => simp [nextSibling?, ahead, Tree.preorderList, List.append_assoc]

/-- One move takes the focus, and only the focus, off the nodes ahead. -/
theorem ahead_of_next? (v : Visitor) : v.ahead = v.focus :: v.next?.elim [] ahead := by
  have hfocus := Tree.preorder_eq v.focus
  cases hc : v.focus.children with
  | nil =>
    have hnext : v.next? = nextSibling? v.right := by simp [next?, firstChild?, hc]
    rw [hnext, ahead_of_nextSibling?, ahead, hfocus, hc]
    rfl
  | cons c cs =>
    have hnext : v.next? = some { focus := c, right := cs :: v.right } := by
      simp [next?, firstChild?, hc]
    rw [hnext, ahead, hfocus, hc]
    simp [ahead, Tree.preorderList, List.append_assoc]

end Visitor

namespace Tree

variable {σ : Type}

/-- With fuel for all nodes ahead, a walk visits them in order. -/
theorem walkFrom_eq_foldl (visit : σ → Tree → σ) (fuel : Nat) (v : Visitor) (s : σ)
    (h : v.ahead.length ≤ fuel) : walkFrom visit fuel v s = v.ahead.foldl visit s := by
  induction fuel generalizing v s with
  | zero =>
    have hahead := v.ahead_of_next?
    rw [hahead] at h
    simp at h
  | succ fuel ih =>
    have hahead := v.ahead_of_next?
    rw [walkFrom, hahead, List.foldl_cons]
    rw [hahead, List.length_cons] at h
    cases hnext : v.next? with
    | none => rfl
    | some v' =>
      rw [hnext] at h
      exact ih v' (visit s v.focus) (by simpa using h)

/-- The walk visits the nodes of the pre-order, each once and in order, whatever state the visits
thread. -/
theorem walk_eq_foldl (t : Tree) (s : σ) (visit : σ → Tree → σ) :
    t.walk s visit = t.preorder.foldl visit s := by
  have hfuel : (Visitor.top t).ahead.length ≤ t.count :=
    Nat.le_of_eq (by rw [Visitor.ahead_top, length_preorder t])
  rw [walk, walkFrom_eq_foldl visit t.count (.top t) s hfuel, Visitor.ahead_top]

end Tree

end PackageUsage.Source
