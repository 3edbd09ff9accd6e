import PackageUsage.Proofs.Source.Repair

/-!
# The place of a syntax error

The search for the first fault passes over what lies below a node without a fault, and there is no
fault to be missed there. So it finds the first fault of the whole pre-order, it ends on every tree,
and it comes back with a fault whenever there is one. In the tree of a text the pre-order is the
order of the text, so no fault starts before the reported one.
-/

namespace PackageUsage.Source

namespace Tree

mutual

/-- A tree holds a fault exactly if one of its nodes is one. -/
theorem hasFault_iff (t : Tree) : t.hasFault = true ↔ ∃ n ∈ t.preorder, n.isFault = true := by
  cases t with
  | node info children =>
    simp only [hasFault, hasFaultList_iff children, preorder, isFault, Tree.info, Bool.or_eq_true,
      List.mem_cons, exists_eq_or_imp]

theorem hasFaultList_iff (ts : List Tree) :
    hasFaultList ts = true ↔ ∃ n ∈ preorderList ts, n.isFault = true := by
  cases ts with
  | nil => simp [hasFaultList, preorderList]
  | cons t rest =>
    simp only [hasFaultList, preorderList, Bool.or_eq_true, hasFault_iff t, hasFaultList_iff rest,
      List.mem_append, or_and_right, exists_or]

end

theorem hasFault_eq_false_iff (t : Tree) :
    t.hasFault = false ↔ ∀ n ∈ t.preorder, n.isFault = false := by
  rw [← Bool.not_eq_true, hasFault_iff]
  simp

end Tree

/-! ## One move of the search -/

namespace Visitor

/-- Below a node without a fault, the search skips the nodes of its tree. -/
theorem ahead_of_skip {v : Visitor} (h : v.focus.hasFault = false) :
    v.ahead = v.focus.preorder ++ v.onward?.elim [] ahead := by
  have honward : v.onward? = nextSibling? v.right := by simp [onward?, h]
  rw [honward, ahead_of_nextSibling?, ahead]

theorem onward?_eq_next? {v : Visitor} (h : v.focus.hasFault = true) : v.onward? = v.next? := by
  rw [onward?, if_pos h, next?]

/-- What one move takes off the nodes ahead: the focus, and behind it only nodes without a fault. -/
theorem ahead_of_onward? (v : Visitor) :
    ∃ skipped, v.ahead = v.focus :: skipped ++ v.onward?.elim [] ahead ∧
      ∀ n ∈ skipped, n.isFault = false := by
  cases hfault : v.focus.hasFault with
  | true =>
    refine ⟨[], ?_, by simp⟩
    rw [onward?_eq_next? hfault]
    exact v.ahead_of_next?
  | false =>
    refine ⟨Tree.preorderList v.focus.children, ?_, ?_⟩
    · rw [ahead_of_skip hfault, Tree.preorder_eq]
    · rw [Tree.hasFault_eq_false_iff, Tree.preorder_eq] at hfault
      exact fun n hn => hfault n (List.mem_cons_of_mem _ hn)

/-- A move leaves fewer nodes ahead. -/
theorem length_ahead_lt {v v' : Visitor} (h : v.onward? = some v') :
    v'.ahead.length < v.ahead.length := by
  obtain ⟨skipped, hahead, -⟩ := v.ahead_of_onward?
  rw [hahead, h, List.length_append, List.length_cons]
  exact Nat.lt_add_of_pos_left (Nat.succ_pos _)

/-- A move passes over no fault. -/
theorem find?_ahead {v : Visitor} (h : v.focus.isFault = false) :
    v.ahead.find? Tree.isFault = v.onward?.bind fun v' => v'.ahead.find? Tree.isFault := by
  obtain ⟨skipped, hahead, hskipped⟩ := v.ahead_of_onward?
  have hnone : skipped.find? Tree.isFault = none := by simpa using hskipped
  rw [hahead, List.cons_append, List.find?_cons_of_neg (by simp [h]), List.find?_append, hnone,
    Option.none_or]
  cases v.onward? <;> rfl

end Visitor

/-! ## The whole search -/

namespace Tree

/-- With a round for each node ahead, a search ends, and it has found the first fault of them. -/
theorem seekFault_eq_find? (rounds : Nat) (v : Visitor) (h : v.ahead.length ≤ rounds) :
    seekFault rounds v = some (v.ahead.find? isFault) := by
  induction rounds generalizing v with
  | zero =>
    rw [v.ahead_of_next?] at h
    cases h
  | succ rounds ih =>
    rw [seekFault]
    cases hfault : v.focus.isFault with
    | true =>
      rw [v.ahead_of_next?, List.find?_cons_of_pos hfault]
      rfl
    | false =>
      rw [if_neg Bool.false_ne_true, Visitor.find?_ahead hfault]
      cases honward : v.onward? with
      | none => rfl
      | some v' =>
        have hless := Visitor.length_ahead_lt honward
        exact ih v' (by omega)

theorem seekFault_top {rounds : Nat} {t : Tree} (h : t.count ≤ rounds) :
    seekFault rounds (.top t) = some (t.preorder.find? isFault) := by
  have hlength : (Visitor.top t).ahead.length = t.count := by
    rw [Visitor.ahead_top, length_preorder]
  rw [seekFault_eq_find? rounds _ (hlength.le.trans h), Visitor.ahead_top]

/-- The search skips subtrees and finds what is first in the whole pre-order. -/
theorem firstFault?_eq_find? (t : Tree) : t.firstFault? = t.preorder.find? isFault := by
  rw [firstFault?, seekFault_top (le_refl t.count), Option.join_some]

/-- Where there is a fault, it is found, and its place is that of the first fault. -/
theorem faultPlace_of_hasFault {t : Tree} (h : t.hasFault = true) :
    ∃ first, t.preorder.find? isFault = some first ∧
      t.faultPlace = (first.line, first.column) := by
  obtain ⟨first, hfirst⟩ := Option.isSome_iff_exists.mp
    (List.find?_isSome.mpr ((hasFault_iff t).mp h))
  refine ⟨first, hfirst, ?_⟩
  rw [faultPlace, firstFault?_eq_find?, hfirst]

/-- In a tree in the order of its text no fault starts before the first one. -/
theorem InOrder.position_le {text : Cursor} {t first : Tree} (h : t.InOrder text)
    (hfirst : t.preorder.find? isFault = some first) :
    ∀ n ∈ t.preorder, n.isFault = true → first.position ≤ n.position := by
  obtain ⟨-, before, behind, hsplit, hbefore⟩ := List.find?_eq_some_iff_append.mp hfirst
  have hsorted := h.sorted
  rw [hsplit] at hsorted ⊢
  intro n hn hfault
  rcases List.mem_append.mp hn with hn | hn
  · have hclean := hbefore n hn
    rw [hfault] at hclean
    cases hclean
  · rcases List.mem_cons.mp hn with rfl | hn
    · exact le_refl _
    · exact (List.pairwise_cons.mp (List.pairwise_append.mp hsorted).2.1).1 n hn

end Tree

/-! ## The report of a faulty text -/

/-- What comes of a text in a language: its tree, unless this has a fault and the strict dialect
refuses the text as well. -/
theorem parse_of_language {path text : String} {language : Language}
    (h : Language.ofPath? path = some language) :
    parse path text =
      if (treeOfText language text).hasFault = true ∧ isWellFormed path text = false then
        .error (.malformed path (treeOfText language text).faultPlace.1
          (treeOfText language text).faultPlace.2)
      else .ok (treeOfText language text) := by
  simp only [parse, h]
  cases (treeOfText language text).hasFault <;> cases isWellFormed path text <;> simp

/-- The search for a fault ends on every tree and finds what an unpruned search of the pre-order
finds, so there is a place to report whenever there is a fault. A text in a language is refused
exactly if its tree has a fault and the strict dialect refuses it too, and what is reported is the
place of the first fault of the pre-order, before which no fault starts. -/
theorem parse_reports_first_fault :
    (∀ t : Tree,
      (t.hasFault = true ↔ ∃ n ∈ t.preorder, n.isFault = true) ∧
      (∀ rounds, t.count ≤ rounds →
        Tree.seekFault rounds (.top t) = some (t.preorder.find? Tree.isFault)) ∧
      t.firstFault? = t.preorder.find? Tree.isFault ∧
      (t.hasFault = true → ∃ first, t.firstFault? = some first ∧
        t.faultPlace = (first.line, first.column))) ∧
    ∀ (path text : String) (language : Language), Language.ofPath? path = some language →
      let tree := treeOfText language text
      ((∃ cause, parse path text = .error cause) ↔
        (∃ n ∈ tree.preorder, n.isFault = true) ∧ isWellFormed path text = false) ∧
      (∀ found, parse path text = .ok found → found = tree) ∧
      ∀ cause, parse path text = .error cause →
        ∃ first, tree.preorder.find? Tree.isFault = some first ∧
          cause = .malformed path first.line first.column ∧
          ∀ n ∈ tree.preorder, n.isFault = true → first.position ≤ n.position := by
  constructor
  · intro t
    refine ⟨t.hasFault_iff, fun rounds => Tree.seekFault_top, t.firstFault?_eq_find?, ?_⟩
    intro h
    rw [t.firstFault?_eq_find?]
    exact Tree.faultPlace_of_hasFault h
  · intro path text language hlanguage tree
    have hparse : parse path text = _ := parse_of_language hlanguage
    rw [hparse, ← tree.hasFault_iff]
    split_ifs with hrefused
    · refine ⟨⟨fun _ => hrefused, fun _ => ⟨_, rfl⟩⟩, nofun, ?_⟩
      rintro cause ⟨⟩
      obtain ⟨first, hfirst, hplace⟩ := Tree.faultPlace_of_hasFault hrefused.1
      refine ⟨first, hfirst, ?_, (ofText_treeOfText language text).inOrder.position_le hfirst⟩
      rw [hplace]
    · refine ⟨⟨nofun, fun h => absurd h hrefused⟩, ?_, nofun⟩
      rintro found ⟨⟩
      rfl

/-- A fault in a list, behind a faultless declaration and a faultless part of the list. -/
def nestedFault : String :=
  "import a from 'a';\nimport \x7b b, = \x7d from 'b';"

theorem parse_reports_first_fault_nested :
    ∃ first, (treeOfText .typescript nestedFault).preorder.find? Tree.isFault = some first ∧
      parse "a.ts" nestedFault = .error (.malformed "a.ts" first.line first.column) ∧
      (first.line, first.column) = (2, 13) := by
  obtain ⟨hrefused, -, hplace⟩ :=
    parse_reports_first_fault.2 "a.ts" nestedFault .typescript (by decide +kernel)
  have hfault : (treeOfText .typescript nestedFault).hasFault = true := by decide +kernel
  obtain ⟨cause, hcause⟩ := hrefused.mpr ⟨(Tree.hasFault_iff _).mp hfault, by decide +kernel⟩
  obtain ⟨first, hfirst, rfl, -⟩ := hplace cause hcause
  have hposition : ((treeOfText .typescript nestedFault).preorder.find? Tree.isFault).map
      (fun n => (n.line, n.column)) = some (2, 13) := by
    decide +kernel
  rw [hfirst] at hposition
  exact ⟨first, hfirst, hcause, Option.some.inj hposition⟩

end PackageUsage.Source
