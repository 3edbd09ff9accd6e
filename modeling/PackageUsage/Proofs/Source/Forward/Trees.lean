import PackageUsage.Proofs.Source.Forward.Sources
import PackageUsage.Proofs.Source.Walk

/-!
# Trees in the order of a text

The nodes of some trees stand in the order of the text when their positions ascend in pre-order.
They fit it when what text they have is that of words and strings, and they are sources only where
the text names modules.
-/

namespace PackageUsage.Source

/-! ## Trees in the order of the text -/

namespace Tree

/-- The line and the column of a tree, counted from 0. -/
def position (t : Tree) : Nat ×ₗ Nat :=
  toLex (t.info.line, t.info.column)

theorem preorderList_append (ts us : List Tree) :
    preorderList (ts ++ us) = preorderList ts ++ preorderList us := by
  induction ts with
  | nil => rfl
  | cons t ts ih => rw [List.cons_append, preorderList, ih, preorderList, List.append_assoc]

theorem preorderList_singleton (t : Tree) : preorderList [t] = t.preorder :=
  List.append_nil _

/-- The positions of some trees ascend in pre-order, from one position to another. -/
structure Ascend (low : Nat ×ₗ Nat) (ts : List Tree) (high : Nat ×ₗ Nat) : Prop where
  le : low ≤ high
  bounds : ∀ t ∈ preorderList ts, low ≤ t.position ∧ t.position ≤ high
  sorted : (preorderList ts).Pairwise fun t t' => t.position ≤ t'.position

namespace Ascend

variable {low mid high : Nat ×ₗ Nat} {ts us : List Tree}

theorem nil (h : low ≤ high) : Ascend low [] high where
  le := h
  bounds := by simp [preorderList]
  sorted := .nil

theorem append (h : Ascend low ts mid) (h' : Ascend mid us high) : Ascend low (ts ++ us) high where
  le := h.le.trans h'.le
  bounds := by
    intro t ht
    rw [preorderList_append] at ht
    rcases List.mem_append.mp ht with ht | ht
    · exact ⟨(h.bounds t ht).1, (h.bounds t ht).2.trans h'.le⟩
    · exact ⟨h.le.trans (h'.bounds t ht).1, (h'.bounds t ht).2⟩
  sorted := by
    rw [preorderList_append]
    refine List.pairwise_append.mpr ⟨h.sorted, h'.sorted, ?_⟩
    intro t ht t' ht'
    exact (h.bounds t ht).2.trans (h'.bounds t' ht').1

/-- A node starts where its children may start at the earliest. -/
theorem node {info : NodeInfo} (hinfo : toLex (info.line, info.column) = low)
    (h : Ascend low ts high) : Ascend low [.node info ts] high := by
  have hroot : (Tree.node info ts).position = low := hinfo
  refine ⟨h.le, ?_, ?_⟩
  · rw [preorderList_singleton, preorder]
    intro t ht
    rcases List.mem_cons.mp ht with rfl | ht
    · exact ⟨hroot.ge, hroot.le.trans h.le⟩
    · exact h.bounds t ht
  · rw [preorderList_singleton, preorder]
    refine List.pairwise_cons.mpr ⟨?_, h.sorted⟩
    intro t ht
    exact hroot.le.trans (h.bounds t ht).1

theorem leaf {info : NodeInfo} (hinfo : toLex (info.line, info.column) = low) (h : low ≤ high) :
    Ascend low [.node info []] high :=
  node hinfo (nil h)

end Ascend

end Tree

/-! ## Trees of a text -/

/-- A node fits a text: it is spelled there, and it is no source unless the text has one. -/
structure Tree.Fits (text : Cursor) (t : Tree) : Prop where
  spelled : t.Spelled text
  allowed : Role.Allowed text t.info.role

/-- A leaf that is made of a lexeme is spelled like it. -/
theorem Tree.Spelled.of_readIn {text : Cursor} {l : Lexeme} {t : Tree} (h : l.ReadIn text)
    (hkind : t.kind.MadeOf l.kind) (htext : t.text = l.text)
    (hmissing : t.info.missing = l.missing) : t.Spelled text := by
  have hstart := h.within.start
  cases h with
  | supposed _ hsupposed _ hnone =>
    refine .empty ?_ fun _ => hmissing.trans hsupposed
    rw [htext, Lexeme.text, hnone, (Cursor.Passes.nil l.start).textTo_eq]
  | @written d c hd _ hlexeme =>
    subst hlexeme
    exact .leaf hd hstart rfl hkind htext

/-- A node without text and without a role. -/
theorem Tree.Fits.plain {text : Cursor} {t : Tree} (htext : t.text = "")
    (hword : t.kind = .identifier → t.info.missing = true) (hrole : t.info.role = none) :
    t.Fits text :=
  ⟨.empty htext hword, hrole ▸ .none⟩

/-- All nodes of some trees fit a text. -/
def Tree.AllFit (text : Cursor) (ts : List Tree) : Prop :=
  ∀ t ∈ ts, ∀ n ∈ t.preorder, n.Fits text

namespace Tree.AllFit

variable {text : Cursor} {ts us : List Tree}

theorem nil : AllFit text [] := by
  simp [AllFit]

theorem append (h : AllFit text ts) (h' : AllFit text us) : AllFit text (ts ++ us) := by
  intro t ht
  rcases List.mem_append.mp ht with ht | ht
  · exact h t ht
  · exact h' t ht

theorem reverse (h : AllFit text ts) : AllFit text ts.reverse :=
  fun t ht => h t (List.mem_reverse.mp ht)

theorem node {info : NodeInfo} (hinfo : (Tree.node info ts).Fits text)
    (h : AllFit text ts) : AllFit text [.node info ts] := by
  intro t ht n hn
  rw [List.mem_singleton.mp ht, preorder, List.mem_cons] at hn
  rcases hn with rfl | hn
  · exact hinfo
  · rw [preorderList_eq_flatMap] at hn
    obtain ⟨u, hu, hn⟩ := List.mem_flatMap.mp hn
    exact h u hu n hn

theorem leaf {info : NodeInfo} (hinfo : (Tree.node info []).Fits text) :
    AllFit text [.node info []] :=
  node hinfo nil

end Tree.AllFit

end PackageUsage.Source
