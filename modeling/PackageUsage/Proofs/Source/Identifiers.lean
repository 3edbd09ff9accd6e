import PackageUsage.Proofs.Names.Pieces
import PackageUsage.Proofs.Source.Repair

/-!
# Identifiers without escapes

An identifier is made of the characters of words and of escapes. Those of words are no blanks,
braces or commas, so an identifier without an escape has the form of a piece; an escape may bring
braces with it.
-/

namespace PackageUsage.Source

open Cursor

variable {d : Dialect} {c stop : Cursor} {cs : List Char}

/-- Without a backslash, the rest of a word is made of characters of words. -/
theorem continuesWord_of_mem_scanWordRest (pending : Nat) (hrest : c.rest = cs) :
    ∃ read, c.Passes read (scanWordRest d pending cs c) ∧
      (pending = 0 → '\\' ∉ read → ∀ ch ∈ read, d.continuesWord ch = true) := by
  fun_induction scanWordRest d pending cs c with
  | case1 c => exact ⟨[], .nil _, by simp⟩
  | case2 pending ch rest c ih =>
    obtain ⟨read, hread, -⟩ := ih (rest_step ..)
    exact ⟨_, .cons hrest hread, fun hzero => absurd hzero pending.succ_ne_zero⟩
  | case3 ch rest c hword ih =>
    obtain ⟨read, hread, hall⟩ := ih (rest_step ..)
    refine ⟨_, .cons hrest hread, fun hzero hnone => ?_⟩
    rw [List.mem_cons, not_or] at hnone
    exact List.forall_mem_cons.mpr ⟨hword, hall hzero hnone.2⟩
  | case4 ch rest c _ pending hescape ih =>
    obtain ⟨read, hread, -⟩ := ih (rest_step ..)
    refine ⟨_, .cons hrest hread, fun _ hnone => ?_⟩
    obtain rfl := eq_backslash_of_escapeLength? hescape
    exact absurd List.mem_cons_self hnone
  | case5 => exact ⟨[], .nil _, by simp⟩

/-- Without a backslash, a word is made of characters of words. -/
theorem continuesWord_of_mem_scanWord? (hd : d.strict = false) (h : scanWord? d c = some stop) :
    ∃ read, c.Passes read stop ∧ read ≠ [] ∧
      ('\\' ∉ read → ∀ ch ∈ read, d.continuesWord ch = true) := by
  unfold scanWord? at h
  split at h
  · cases h
  · next ch rest hrest =>
    split at h
    · next hstarts =>
      cases h
      obtain ⟨read, hread, hall⟩ :=
        continuesWord_of_mem_scanWordRest (d := d) 0 (c.rest_step ch rest)
      refine ⟨_, .cons hrest hread, List.cons_ne_nil _ _, fun hnone => ?_⟩
      rw [List.mem_cons, not_or] at hnone
      exact List.forall_mem_cons.mpr ⟨continuesWord_of_startsWord hd hstarts, hall rfl hnone.2⟩
    · split at h
      · next pending hescape =>
        cases h
        obtain ⟨read, hread, -⟩ :=
          continuesWord_of_mem_scanWordRest (d := d) pending (c.rest_step ch rest)
        refine ⟨_, .cons hrest hread, List.cons_ne_nil _ _, fun hnone => ?_⟩
        obtain rfl := eq_backslash_of_escapeLength? (hrest ▸ hescape)
        exact absurd List.mem_cons_self hnone
      · cases h

theorem isPiece_of_not_isFiller {name : String} (hne : name ≠ "")
    (h : ∀ ch ∈ name.toList, isFiller ch = false) : IsPiece name := by
  have hmem {ch : Char} (hch : isFiller ch = true) : ch ∉ name.toList := by
    intro hmem
    rw [h ch hmem] at hch
    cases hch
  have hblank {ch : Char} (hch : ch ∈ name.toList) : Text.isBlank ch = false := by
    have hshown := h ch hch
    simp only [isFiller, Bool.or_eq_false_iff] at hshown
    exact hshown.2
  exact ⟨hne, ⟨hmem (by decide), hmem (by decide)⟩, hmem (by decide),
    ⟨fun _ hc => hblank (List.mem_of_head? hc), fun _ hc => hblank (List.mem_of_getLast? hc)⟩⟩

/-- An identifier that is written without an escape has the form of a piece. -/
theorem Tree.Spelled.isPiece {text : Cursor} {t : Tree} (h : t.Spelled text)
    (hkind : t.kind = .identifier) (hwritten : t.info.missing = false)
    (hescape : '\\' ∉ t.text.toList) : IsPiece t.text := by
  cases h with
  | empty _ hword =>
    rw [hword hkind] at hwritten
    cases hwritten
  | @leaf d l hd hstart hscan hmade hspelled =>
    rw [hkind] at hmade
    generalize l.kind = made at hscan hmade
    cases hmade with
    | identifier w =>
      obtain ⟨read, hread, hne, hall⟩ :=
        continuesWord_of_mem_scanWord? hd (scanWord?_of_scanKind hscan).1
      have htext : t.text.toList = read := by
        rw [hspelled, Lexeme.text, hread.textTo_eq, String.toList_ofList]
      rw [htext] at hescape
      refine isPiece_of_not_isFiller ?_ ?_
      · rwa [Ne, ← String.toList_eq_nil_iff, htext]
      · rw [htext]
        exact fun ch hch => isFiller_of_continuesWord hd (hall hescape ch hch)

/-- So it is in the tree of every text. -/
theorem isPiece_of_treeOfText {language : Language} {source : String} {leaf : Tree}
    (hleaf : leaf ∈ (treeOfText language source).preorder) (hkind : leaf.kind = .identifier)
    (hwritten : leaf.info.missing = false) (hescape : '\\' ∉ leaf.text.toList) :
    IsPiece leaf.text :=
  ((ofText_treeOfText language source).fits leaf hleaf).spelled.isPiece hkind hwritten hescape

end PackageUsage.Source
