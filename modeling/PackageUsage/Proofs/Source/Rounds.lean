import PackageUsage.Proofs.Source.Address

/-!
# The rounds of the walk

The walk written as a loop over the addresses of a tree, with nothing to bound its rounds: a round
visits the node at the address and goes to its first child, or else climbs until there is a next
sibling; at the top it stops. The moves of the walk are those of the loop, the loop always ends, and
it comes to every address of the tree once, in pre-order.
-/

namespace PackageUsage.Source

namespace Tree

/-! ## Moves between addresses -/

/-- The address of the next sibling, or else of the next sibling of the parent, and so on. -/
def climb? (t : Tree) : Address → Option Address
  | [] => none
  | i :: up => if (t.at? ((i + 1) :: up)).isSome then some ((i + 1) :: up) else t.climb? up

/-- The address that a round goes to: that of the first child, or else the nearest to the right. -/
def move? (t : Tree) (a : Address) : Option Address :=
  if (t.at? (0 :: a)).isSome then some (0 :: a) else t.climb? a

/-- The place of a visitor at an address. -/
def place? (t : Tree) : Address → Option Visitor
  | [] => some (.top t)
  | i :: up => (t.place? up).bind fun v =>
    match v.focus.children.drop i with
    | [] => none
    | c :: cs => some { focus := c, right := cs :: v.right }

variable {t n : Tree} {a up : Address} {i : Nat} {v : Visitor}

theorem map_focus_place? (t : Tree) (a : Address) : (t.place? a).map Visitor.focus = t.at? a := by
  induction a with
  | nil => rfl
  | cons i up ih =>
    rw [at?, ← ih, place?]
    cases t.place? up with
    | none => rfl
    | some v =>
      simp only [Option.bind_some, Option.map_some]
      rw [← List.head?_drop]
      cases v.focus.children.drop i <;> rfl

theorem at?_of_place? (h : t.place? a = some v) : t.at? a = some v.focus := by
  rw [← map_focus_place?, h]
  rfl

theorem place?_cons (h : t.place? up = some v) (i : Nat) :
    t.place? (i :: up) =
      match v.focus.children.drop i with
      | [] => none
      | c :: cs => some { focus := c, right := cs :: v.right } := by
  rw [place?, h]
  rfl

theorem isSome_at?_cons (h : t.at? up = some n) (i : Nat) :
    (t.at? (i :: up)).isSome = !(n.children.drop i).isEmpty := by
  rw [at?_cons h, ← List.head?_drop]
  cases n.children.drop i <;> rfl

theorem nextSibling?_of_place? (h : t.place? a = some v) :
    Visitor.nextSibling? v.right = (t.climb? a).bind t.place? := by
  induction a generalizing v with
  | nil =>
    obtain rfl := Option.some.inj h
    rfl
  | cons i up ih =>
    obtain ⟨parent, hparent, hv⟩ := Option.bind_eq_some_iff.mp h
    have hnext := place?_cons hparent (i + 1)
    rw [← List.drop_drop] at hnext
    rw [climb?, isSome_at?_cons (at?_of_place? hparent), ← List.drop_drop]
    cases hchildren : parent.focus.children.drop i with
    | nil => simp [hchildren] at hv
    | cons c cs =>
      simp only [hchildren, Option.some.injEq] at hv
      subst hv
      simp only [hchildren, List.drop_one, List.tail_cons] at hnext ⊢
      cases cs with
      | nil => simpa [Visitor.nextSibling?] using ih hparent
      | cons d ds => simpa [Visitor.nextSibling?] using hnext.symm

/-- A visitor moves as the loop does. -/
theorem next?_of_place? (h : t.place? a = some v) : v.next? = (t.move? a).bind t.place? := by
  have hchild := place?_cons h 0
  rw [Visitor.next?, nextSibling?_of_place? h, move?, isSome_at?_cons (at?_of_place? h),
    List.drop_zero]
  rw [List.drop_zero] at hchild
  cases hchildren : v.focus.children with
  | nil => simp [Visitor.firstChild?, hchildren]
  | cons c cs => simp [Visitor.firstChild?, hchildren, hchild]

/-! ## The loop -/

section Loop
variable {σ : Type} (t : Tree) (visit : σ → Tree → σ)

/-- The rounds of the loop from an address on: the addresses it comes to, and what its visits make
of a state. -/
inductive Rounds : Address → σ → List Address → σ → Prop
  | last {a : Address} {n : Tree} {s : σ} : t.at? a = some n → t.move? a = none →
      Rounds a s [a] (visit s n)
  | more {a b : Address} {n : Tree} {s s' : σ} {visited : List Address} : t.at? a = some n →
      t.move? a = some b → Rounds b (visit s n) visited s' → Rounds a s (a :: visited) s'

end Loop

/-- The addresses to the right of the way up from an address, those nearest to it first. -/
def rightOf (t : Tree) : Address → List Address
  | [] => []
  | i :: up =>
    (t.at? up).elim [] (fun parent => addressesBelowList up (i + 1) (parent.children.drop (i + 1)))
      ++ t.rightOf up

/-- The addresses that the loop has still to come to, the one it is at first. -/
def aheadOf (t : Tree) (a : Address) : List Address :=
  (t.at? a).elim [] (·.addressesBelow a) ++ t.rightOf a

theorem aheadOf_top (t : Tree) : t.aheadOf [] = t.addresses :=
  List.append_nil _

/-- The siblings from one child on are that child and those behind it. -/
theorem addressesBelowList_drop (h : t.at? up = some n) (i : Nat) :
    addressesBelowList up i (n.children.drop i) =
      (t.at? (i :: up)).elim [] (·.addressesBelow (i :: up)) ++
        addressesBelowList up (i + 1) (n.children.drop (i + 1)) := by
  rw [at?_cons h, ← List.head?_drop, ← List.drop_drop]
  cases n.children.drop i <;> rfl

theorem rightOf_eq (t : Tree) (a : Address) : t.rightOf a = (t.climb? a).elim [] t.aheadOf := by
  induction a with
  | nil => rfl
  | cons i up ih =>
    rw [rightOf, climb?]
    cases hup : t.at? up with
    | none =>
      have hnone : t.at? ((i + 1) :: up) = none := by rw [at?, hup]; rfl
      simpa [hnone] using ih
    | some parent =>
      show addressesBelowList up (i + 1) (parent.children.drop (i + 1)) ++ _ = _
      rw [addressesBelowList_drop hup]
      cases hnext : t.at? ((i + 1) :: up) with
      | none =>
        have hbeyond : parent.children.drop (i + 1) = [] := by
          have hempty := isSome_at?_cons hup (i + 1)
          rw [hnext] at hempty
          simpa using hempty
        rw [← List.drop_drop, hbeyond]
        simpa [addressesBelowList] using ih
      | some c => simp [aheadOf, rightOf, hup, hnext]

/-- A round takes the address it is at, and only that, off the addresses ahead. -/
theorem aheadOf_eq (h : t.at? a = some n) : t.aheadOf a = a :: (t.move? a).elim [] t.aheadOf := by
  have hchildren := addressesBelowList_drop h 0
  rw [List.drop_zero] at hchildren
  rw [aheadOf, h, Option.elim_some, addressesBelow_eq, hchildren, move?]
  cases hchild : t.at? (0 :: a) with
  | none =>
    have hnone : n.children = [] := by
      have hempty := isSome_at?_cons h 0
      rw [hchild] at hempty
      simpa using hempty
    simp [hnone, addressesBelowList, rightOf_eq]
  | some c => simp [aheadOf, rightOf, h, hchild]

section Loop
variable {σ : Type} {visit : σ → Tree → σ} {s s' : σ} {visited : List Address}

theorem exists_at?_of_climb? (h : t.climb? a = some up) : ∃ n, t.at? up = some n := by
  induction a with
  | nil => cases h
  | cons i a ih =>
    rw [climb?] at h
    split at h
    · next hsome =>
      obtain rfl := Option.some.inj h
      exact Option.isSome_iff_exists.mp hsome
    · exact ih h

theorem exists_at?_of_move? (h : t.move? a = some up) : ∃ n, t.at? up = some n := by
  rw [move?] at h
  split at h
  · next hsome =>
    obtain rfl := Option.some.inj h
    exact Option.isSome_iff_exists.mp hsome
  · exact exists_at?_of_climb? h

/-- The rounds come to the addresses ahead, and visit the nodes there. -/
theorem Rounds.visited_eq (h : Rounds t visit a s visited s') :
    visited = t.aheadOf a ∧ s' = (visited.filterMap t.at?).foldl visit s := by
  induction h with
  | last hn hmove => simp [aheadOf_eq hn, hmove, hn]
  | more hn hmove _ ih => simp [aheadOf_eq hn, hmove, hn, ← ih.1, ih.2]

/-- The loop ends: there are only so many addresses ahead. -/
theorem exists_rounds (h : t.at? a = some n) (visit : σ → Tree → σ) (s : σ) :
    ∃ visited s', Rounds t visit a s visited s' := by
  -- neither the depth nor the width bounds the rounds, but each takes one address off those ahead
  induction hlength : (t.aheadOf a).length generalizing a n s with
  | zero =>
    rw [aheadOf_eq h] at hlength
    cases hlength
  | succ length ih =>
    cases hmove : t.move? a with
    | none => exact ⟨_, _, .last h hmove⟩
    | some b =>
      rw [aheadOf_eq h, hmove, List.length_cons] at hlength
      obtain ⟨m, hb⟩ := exists_at?_of_move? hmove
      obtain ⟨visited, s', hrounds⟩ := ih hb (visit s n) (Nat.succ.inj hlength)
      exact ⟨_, _, .more h hmove hrounds⟩

end Loop

/-- The walk moves like the loop, which ends, comes to every address of the tree once and in
pre-order, and leaves the state that the walk leaves. -/
theorem walk_rounds (t : Tree) {σ : Type} (visit : σ → Tree → σ) (s : σ) :
    (∀ a, (t.place? a).map Visitor.focus = t.at? a ∧
      (t.place? a).bind Visitor.next? = (t.place? a).bind fun _ => (t.move? a).bind t.place?) ∧
    (∀ visited s', Rounds t visit [] s visited s' ↔
      visited = t.addresses ∧ s' = t.walk s visit) ∧
    t.walk s visit = t.preorder.foldl visit s ∧
    t.addresses.map t.at? = t.preorder.map some ∧
    t.addresses.Nodup ∧
    ∀ a, a ∈ t.addresses ↔ (t.at? a).isSome := by
  refine ⟨fun a => ⟨map_focus_place? t a, ?_⟩, fun visited s' => ?_, walk_eq_foldl t s visit,
    map_at?_addresses t, nodup_addresses t, fun _ => mem_addresses_iff⟩
  · cases hplace : t.place? a with
    | none => rfl
    | some v => exact next?_of_place? hplace
  · have hvisited {visited : List Address} {s' : σ} (h : Rounds t visit [] s visited s') :
        visited = t.addresses ∧ s' = t.walk s visit := by
      obtain ⟨hvisited, hs⟩ := h.visited_eq
      rw [aheadOf_top] at hvisited
      rw [hvisited, filterMap_at?_addresses] at hs
      exact ⟨hvisited, hs.trans (walk_eq_foldl t s visit).symm⟩
    constructor
    · exact hvisited
    · rintro ⟨rfl, rfl⟩
      obtain ⟨visited, s', hrounds⟩ := exists_rounds (t := t) (a := []) rfl visit s
      obtain ⟨rfl, rfl⟩ := hvisited hrounds
      exact hrounds

end Tree

end PackageUsage.Source
