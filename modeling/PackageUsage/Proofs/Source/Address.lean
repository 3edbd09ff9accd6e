import PackageUsage.Proofs.Source.Walk

/-!
# Addresses of nodes

Equal nodes may stand at different places of a tree. A node is told by its address: the numbers of
the children that lead to it. Written down for the nodes in pre-order, the addresses of a tree are
those at which it has a node, each once.
-/

namespace PackageUsage.Source

/-- The way up from a node to the top of its tree: its number among the children of its parent, then
that of its parent, and so on. -/
abbrev Address := List Nat

namespace Tree

/-- The node at an address. -/
def at? (t : Tree) : Address → Option Tree
  | [] => some t
  | i :: up => (t.at? up).bind fun parent => parent.children[i]?

mutual

/-- The addresses of the nodes of a tree that stands at an address, in pre-order. -/
def addressesBelow (up : Address) : Tree → List Address
  | .node _ children => up :: addressesBelowList up 0 children

/-- The addresses of the nodes of a list of trees, the first of which is the child with a number. -/
def addressesBelowList (up : Address) (i : Nat) : List Tree → List Address
  | [] => []
  | t :: rest => addressesBelow (i :: up) t ++ addressesBelowList up (i + 1) rest

end

/-- The addresses of the nodes of a tree, in pre-order. -/
def addresses (t : Tree) : List Address :=
  t.addressesBelow []

theorem addressesBelow_eq (up : Address) (t : Tree) :
    t.addressesBelow up = up :: addressesBelowList up 0 t.children := by
  cases t with
  | node info children => rw [addressesBelow, Tree.children]

theorem at?_cons {root t : Tree} {up : Address} (h : root.at? up = some t) (i : Nat) :
    root.at? (i :: up) = t.children[i]? := by
  rw [at?, h]
  rfl

/-! ## The nodes at the addresses -/

mutual

theorem map_at?_addressesBelow {root t : Tree} {up : Address} (h : root.at? up = some t) :
    (t.addressesBelow up).map root.at? = t.preorder.map some := by
  cases t with
  | node info children =>
    have hchildren : ∀ j, root.at? ((0 + j) :: up) = children[j]? := by
      intro j
      rw [Nat.zero_add, at?_cons h]
      rfl
    rw [addressesBelow, preorder, List.map_cons, List.map_cons, h,
      map_at?_addressesBelowList hchildren]

theorem map_at?_addressesBelowList {root : Tree} {ts : List Tree} {up : Address} {i : Nat}
    (h : ∀ j, root.at? ((i + j) :: up) = ts[j]?) :
    (addressesBelowList up i ts).map root.at? = (preorderList ts).map some := by
  cases ts with
  | nil => rfl
  | cons t rest =>
    have hfirst : root.at? (i :: up) = some t := h 0
    have hrest : ∀ j, root.at? ((i + 1 + j) :: up) = rest[j]? := by
      intro j
      rw [Nat.add_assoc, Nat.add_comm 1 j, h (j + 1)]
      rfl
    rw [addressesBelowList, preorderList, List.map_append, List.map_append,
      map_at?_addressesBelow hfirst, map_at?_addressesBelowList hrest]

end

/-- The nodes at the addresses of a tree are its nodes in pre-order. -/
theorem map_at?_addresses (t : Tree) : t.addresses.map t.at? = t.preorder.map some :=
  map_at?_addressesBelow rfl

theorem filterMap_at?_addresses (t : Tree) : t.addresses.filterMap t.at? = t.preorder := by
  have hsome := congrArg (List.filterMap id) (map_at?_addresses t)
  rw [List.filterMap_map, List.filterMap_map] at hsome
  exact hsome.trans List.filterMap_some

/-! ## Each address once -/

mutual

theorem suffix_of_mem_addressesBelow {t : Tree} {up a : Address} (h : a ∈ t.addressesBelow up) :
    up <:+ a := by
  cases t with
  | node info children =>
    rw [addressesBelow] at h
    rcases List.mem_cons.mp h with rfl | h
    · exact List.suffix_refl a
    · obtain ⟨j, -, hsuffix⟩ := suffix_of_mem_addressesBelowList h
      exact (List.suffix_cons j up).trans hsuffix

theorem suffix_of_mem_addressesBelowList {ts : List Tree} {up a : Address} {i : Nat}
    (h : a ∈ addressesBelowList up i ts) :
    ∃ j, i ≤ j ∧ (j :: up) <:+ a := by
  cases ts with
  | nil => cases h
  | cons t rest =>
    rw [addressesBelowList] at h
    rcases List.mem_append.mp h with h | h
    · exact ⟨i, Nat.le_refl i, suffix_of_mem_addressesBelow h⟩
    · obtain ⟨j, hj, hsuffix⟩ := suffix_of_mem_addressesBelowList h
      exact ⟨j, Nat.le_of_succ_le hj, hsuffix⟩

end

/-- An address below one child is not below another. -/
theorem eq_of_suffix {up a : Address} {j k : Nat} (hj : (j :: up) <:+ a)
    (hk : (k :: up) <:+ a) : j = k := by
  obtain ⟨before, rfl⟩ := hj
  obtain ⟨before', h⟩ := hk
  have hends := (List.append_inj' h rfl).2
  exact (List.cons.inj hends).1.symm

mutual

theorem nodup_addressesBelow (up : Address) (t : Tree) : (t.addressesBelow up).Nodup := by
  cases t with
  | node info children =>
    rw [addressesBelow, List.nodup_cons]
    refine ⟨fun h => ?_, nodup_addressesBelowList up 0 children⟩
    obtain ⟨j, -, hsuffix⟩ := suffix_of_mem_addressesBelowList h
    have hlength := hsuffix.length_le
    rw [List.length_cons] at hlength
    omega

theorem nodup_addressesBelowList (up : Address) (i : Nat) (ts : List Tree) :
    (addressesBelowList up i ts).Nodup := by
  cases ts with
  | nil => exact List.nodup_nil
  | cons t rest =>
    rw [addressesBelowList, List.nodup_append]
    refine ⟨nodup_addressesBelow (i :: up) t, nodup_addressesBelowList up (i + 1) rest, ?_⟩
    intro a ha b hb heq
    subst heq
    obtain ⟨j, hj, hsuffix⟩ := suffix_of_mem_addressesBelowList hb
    have hij := eq_of_suffix (suffix_of_mem_addressesBelow ha) hsuffix
    omega

end

theorem nodup_addresses (t : Tree) : t.addresses.Nodup :=
  nodup_addressesBelow [] t

/-! ## Every node has its address there -/

variable {root t n : Tree} {ts : List Tree} {up a : Address} {i : Nat}

theorem addressesBelow_sublist_addressesBelowList {c : Tree} {j : Nat} (hc : ts[j]? = some c) :
    (c.addressesBelow ((i + j) :: up)).Sublist (addressesBelowList up i ts) := by
  induction ts generalizing i j with
  | nil => cases hc
  | cons t rest ih =>
    rw [addressesBelowList]
    cases j with
    | zero =>
      obtain rfl := Option.some.inj hc
      exact List.sublist_append_left _ _
    | succ j =>
      have hrest := ih (i := i + 1) hc
      rw [Nat.add_assoc, Nat.add_comm 1 j] at hrest
      exact hrest.trans (List.sublist_append_right _ _)

/-- The addresses below a child are addresses below its parent. -/
theorem addressesBelow_child {c : Tree} (hc : t.children[i]? = some c) (up : Address) :
    (c.addressesBelow (i :: up)).Sublist (t.addressesBelow up) := by
  rw [addressesBelow_eq up t]
  have h : (c.addressesBelow ((0 + i) :: up)).Sublist (addressesBelowList up 0 t.children) :=
    addressesBelow_sublist_addressesBelowList hc
  rw [Nat.zero_add] at h
  exact h.trans (List.sublist_cons_self _ _)

theorem mem_addressesBelow_self (up : Address) (t : Tree) : up ∈ t.addressesBelow up := by
  rw [addressesBelow_eq]
  exact List.mem_cons_self

/-- The addresses below a node of a tree are addresses of the tree, in the same order. -/
theorem addressesBelow_sublist (h : root.at? a = some n) :
    (n.addressesBelow a).Sublist root.addresses := by
  induction a generalizing n with
  | nil =>
    obtain rfl := Option.some.inj h
    exact List.Sublist.refl _
  | cons i up ih =>
    obtain ⟨parent, hparent, hn⟩ := Option.bind_eq_some_iff.mp h
    exact (addressesBelow_child hn up).trans (ih hparent)

theorem mem_addresses_iff : a ∈ t.addresses ↔ (t.at? a).isSome := by
  constructor
  · intro h
    have hmem := List.mem_map_of_mem (f := t.at?) h
    rw [map_at?_addresses] at hmem
    obtain ⟨n, -, hn⟩ := List.mem_map.mp hmem
    rw [← hn]
    rfl
  · intro h
    obtain ⟨n, hn⟩ := Option.isSome_iff_exists.mp h
    exact (addressesBelow_sublist hn).subset (mem_addressesBelow_self a n)

end Tree

end PackageUsage.Source
