import Mathlib.Data.List.Forall2
import PackageUsage.Proofs.Source.Item
import PackageUsage.Proofs.Source.Reading
import PackageUsage.Proofs.Source.Walk

/-!
# What the nodes of a declaration say

Nodes without faults and without declarations below them, the names of list elements, and the names
of a whole list.
-/

namespace PackageUsage.Source

namespace Tree

variable {info : NodeInfo} {ts : List Tree} {t : Tree} {names : List String} {name : String}
  {kind : NodeKind}

/-! ## Faults and declarations of several trees -/

theorem hasFaultList_eq_false (h : ∀ t ∈ ts, t.hasFault = false) : hasFaultList ts = false := by
  induction ts with
  | nil => rfl
  | cons t ts ih =>
    rw [hasFaultList, h t (List.mem_cons_self ..), Bool.false_or]
    exact ih fun u hu => h u (List.mem_cons_of_mem _ hu)

theorem filterMap_preorder_node (f : Tree → Option Declared) :
    (Tree.node info ts).preorder.filterMap f =
      (f (.node info ts)).toList ++ ts.flatMap fun t => t.preorder.filterMap f := by
  rw [preorder, preorderList_eq_flatMap, List.filterMap_cons]
  cases f (.node info ts) with
  | none => simp [List.filterMap_flatMap]
  | some d => simp [List.filterMap_flatMap]

theorem hasFault_node (hmissing : info.missing = false) (hkind : info.kind ≠ .error)
    (hts : ∀ t ∈ ts, t.hasFault = false) : (Tree.node info ts).hasFault = false := by
  rw [hasFault, hasFaultList_eq_false hts, hmissing]
  simpa using hkind

/-- A tree without faults that declares nothing. -/
structure Plain (t : Tree) : Prop where
  faultless : t.hasFault = false
  silent : t.preorder.filterMap declared? = []

theorem plain_node (hmissing : info.missing = false)
    (hkind : info.kind ∉ [.error, .importStatement, .exportStatement])
    (hts : ∀ t ∈ ts, t.Plain) : (Tree.node info ts).Plain := by
  simp only [List.mem_cons, List.not_mem_nil, or_false, not_or] at hkind
  obtain ⟨herror, himport, hexport⟩ := hkind
  constructor
  · exact hasFault_node hmissing herror fun t ht => (hts t ht).faultless
  · have hnone : (Tree.node info ts).declared? = none := by
      cases hk : info.kind <;> simp_all [declared?, declarationKind?, Tree.kind, Tree.info]
    rw [filterMap_preorder_node, hnone]
    simp only [Option.toList_none, List.nil_append, List.flatMap_eq_nil_iff]
    exact fun t ht => (hts t ht).silent

/-! ## Names -/

/-- A leaf that spells a name and plays a part. -/
structure NameLeaf (role : Option Role) (name : String) (t : Tree) : Prop where
  role_eq : t.info.role = role
  nameText_eq : t.nameText = name
  plain : t.Plain

/-- An element of a list that binds a name. -/
structure Names (kind : NodeKind) (name : String) (t : Tree) : Prop where
  kind_eq : t.kind = kind
  name_eq : t.specifierName? = some name
  plain : t.Plain

theorem names_of_name (hmissing : info.missing = false)
    (hkind : info.kind ∉ [.error, .importStatement, .exportStatement]) (hname : name ≠ "")
    (h : NameLeaf (some .name) name t) : Names info.kind name (.node info [t]) where
  kind_eq := rfl
  name_eq := by
    have hrenaming : (t.info.role == some Role.renaming) = false := by rw [h.role_eq]; rfl
    have hrole : (t.info.role == some Role.name) = true := by rw [h.role_eq]; rfl
    simp [specifierName?, child?, children, hrenaming, hrole, h.nameText_eq, hname]
  plain := plain_node hmissing hkind (by simpa using h.plain)

theorem names_of_renaming {old : String} {u : Tree} (hmissing : info.missing = false)
    (hkind : info.kind ∉ [.error, .importStatement, .exportStatement]) (hname : name ≠ "")
    (h : NameLeaf (some .name) old t) (h' : NameLeaf (some .renaming) name u) :
    Names info.kind name (.node info [t, u]) where
  kind_eq := rfl
  name_eq := by
    have hrenaming : (t.info.role == some Role.renaming) = false := by rw [h.role_eq]; rfl
    have hrole : (u.info.role == some Role.renaming) = true := by rw [h'.role_eq]; rfl
    simp [specifierName?, child?, children, hrenaming, hrole, h'.nameText_eq, hname]
  plain := plain_node hmissing hkind (by simpa using ⟨h.plain, h'.plain⟩)

/-! ## Leaves -/

theorem plain_leafBetween {role : Option Role} {m c' : Cursor}
    (hkind : kind ∉ [.error, .importStatement, .exportStatement]) :
    (leafBetween kind role m c').Plain :=
  plain_node rfl hkind (by simp)

theorem nameLeaf_identifier {i : Identifier} {m c' : Cursor} (h : m.Passes i.chars c')
    (role : Option Role) : NameLeaf role i.text (leafBetween .identifier role m c') where
  role_eq := rfl
  nameText_eq := h.textTo_eq
  plain := plain_leafBetween (by decide)

theorem unquote_literal (l : Literal) : unquote (String.ofList l.chars) = l.text := by
  have hquote : l.quote.char = '"' ∨ l.quote.char = '\'' := by
    cases l.quote with
    | single => exact .inr rfl
    | double => exact .inl rfl
  simp [unquote, unquoteList, Literal.chars, Literal.text, hquote]

theorem nameLeaf_literal {l : Literal} {m c' : Cursor} (h : m.Passes l.chars c')
    (role : Option Role) : NameLeaf role l.text (leafBetween .string role m c') where
  role_eq := rfl
  nameText_eq := by
    show unquote (m.textTo c') = l.text
    rw [h.textTo_eq, unquote_literal]
  plain := plain_leafBetween (by decide)

/-! ## Lists -/

theorem plain_of_names (h : List.Forall₂ (Names kind) names ts) : ∀ t ∈ ts, t.Plain := by
  induction h with
  | nil => simp
  | cons ht _ ih =>
    intro u hu
    rcases List.mem_cons.mp hu with rfl | hu
    · exact ht.plain
    · exact ih u hu

theorem listNames_eq (h : List.Forall₂ (Names kind) names ts) :
    listNames kind (.node info ts) = names := by
  unfold listNames
  rw [children]
  induction h with
  | nil => rfl
  | cons ht _ ih =>
    rw [List.filter_cons, if_pos (by simpa using ht.kind_eq), List.filterMap_cons, ht.name_eq, ih]

/-- The node of a list that binds some names. -/
structure NamesAll (listKind kind : NodeKind) (names : List String) (t : Tree) : Prop where
  kind_eq : t.kind = listKind
  role_eq : t.info.role = none
  names_eq : t.listNames kind = names
  plain : t.Plain

theorem namesAll_node (info : NodeInfo) (hrole : info.role = none) (hmissing : info.missing = false)
    (hkind : info.kind ∉ [.error, .importStatement, .exportStatement])
    (h : List.Forall₂ (Names kind) names ts) : NamesAll info.kind kind names (.node info ts) where
  kind_eq := rfl
  role_eq := hrole
  names_eq := listNames_eq h
  plain := plain_node hmissing hkind (plain_of_names h)

/-! ## Declarations -/

/-- A tree without faults whose one declaration says this. -/
structure Declares (declared : Declared) (t : Tree) : Prop where
  faultless : t.hasFault = false
  declared_eq : t.preorder.filterMap declared? = [declared]

/-- Trees without faults whose declarations, one tree after the other, say this. -/
structure DeclareAll (declared : List Declared) (ts : List Tree) : Prop where
  faultless : ∀ t ∈ ts, t.hasFault = false
  declared_eq : (ts.flatMap fun t => t.preorder.filterMap declared?) = declared

theorem DeclareAll.nil : DeclareAll [] [] where
  faultless := by simp
  declared_eq := rfl

theorem DeclareAll.cons {declared : Declared} {declareds : List Declared}
    (h : Declares declared t) (hts : DeclareAll declareds ts) :
    DeclareAll (declared :: declareds) (t :: ts) where
  faultless := by
    intro u hu
    rcases List.mem_cons.mp hu with rfl | hu
    · exact h.faultless
    · exact hts.faultless u hu
  declared_eq := by
    rw [List.flatMap_cons, h.declared_eq, hts.declared_eq]
    rfl

variable {parts : List Tree} {l : Literal} {y z : Cursor}

/-- The source of a declaration is its last child, the only one with this role. -/
theorem child?_source (hparts : ∀ t ∈ parts, t.info.role = none) :
    (Tree.node info (parts ++ [leafBetween .string (some .source) y z])).child? .source =
      some (leafBetween .string (some .source) y z) := by
  have hnone : (parts.find? fun t => t.info.role == some Role.source) = none := by
    rw [List.find?_eq_none]
    intro t ht
    rw [hparts t ht]
    decide
  rw [child?, children, List.find?_append, hnone]
  rfl

theorem plain_with_source (hparts : ∀ t ∈ parts, t.Plain) :
    ∀ t ∈ parts ++ [leafBetween .string (some .source) y z], t.Plain := by
  intro t ht
  rcases List.mem_append.mp ht with ht | ht
  · exact hparts t ht
  · rw [List.mem_singleton.mp ht]
    exact plain_leafBetween (by decide)

/-- A declaration with its source as the last child. -/
theorem declares_sourced (info : NodeInfo) {kind : DeclarationKind}
    (hmissing : info.missing = false)
    (hkind : (Tree.node info (parts ++ [leafBetween .string (some .source) y z])).declarationKind? =
      some kind)
    (hnames : (Tree.node info (parts ++ [leafBetween .string (some .source) y z])).boundNames =
      names)
    (hrole : ∀ t ∈ parts, t.info.role = none) (hplain : ∀ t ∈ parts, t.Plain)
    (hsource : y.Passes l.chars z) :
    Declares { kind, line := info.line + 1, specifier := some l.text, names }
      (.node info (parts ++ [leafBetween .string (some .source) y z])) where
  faultless := by
    refine hasFault_node hmissing ?_ fun t ht => (plain_with_source hplain t ht).faultless
    intro herror
    simp [declarationKind?, Tree.kind, Tree.info, herror] at hkind
  declared_eq := by
    have hspecifier :
        (Tree.node info (parts ++ [leafBetween .string (some .source) y z])).specifier? =
          some l.text := by
      simp only [specifier?, hkind, child?_source hrole]
      rw [← unquote_literal, ← hsource.textTo_eq]
      rfl
    have hsilent : ((parts ++ [leafBetween .string (some .source) y z]).flatMap
        fun t => t.preorder.filterMap declared?) = [] :=
      List.flatMap_eq_nil_iff.mpr fun t ht => (plain_with_source hplain t ht).silent
    rw [filterMap_preorder_node, hsilent, declared?, hkind, hspecifier, hnames]
    rfl

theorem declares_import (line column : Nat) (parts : List Tree)
    (hrole : ∀ t ∈ parts, t.info.role = none) (hplain : ∀ t ∈ parts, t.Plain)
    (hsource : y.Passes l.chars z) :
    Declares
      { kind := .importing, line := line + 1, specifier := some l.text
        names := parts.flatMap importNames }
      (.node { kind := .importStatement, line, column }
        (parts ++ [leafBetween .string (some .source) y z])) := by
  refine declares_sourced { kind := .importStatement, line, column } rfl rfl ?_ hrole hplain hsource
  show (parts ++ [leafBetween .string (some .source) y z]).flatMap importNames = _
  rw [List.flatMap_append]
  exact List.append_nil _

theorem declares_export (line column : Nat) (parts : List Tree)
    (hrole : ∀ t ∈ parts, t.info.role = none) (hplain : ∀ t ∈ parts, t.Plain)
    (hsource : y.Passes l.chars z) :
    Declares
      { kind := .exporting, line := line + 1, specifier := some l.text
        names := parts.flatMap exportNames }
      (.node { kind := .exportStatement, line, column }
        (parts ++ [leafBetween .string (some .source) y z])) := by
  refine declares_sourced { kind := .exportStatement, line, column } rfl rfl ?_ hrole hplain hsource
  show (parts ++ [leafBetween .string (some .source) y z]).flatMap exportNames = _
  rw [List.flatMap_append]
  exact List.append_nil _

/-- An export without a source names no module. -/
theorem declares_export_unsourced (line column : Nat) (parts : List Tree)
    (hrole : ∀ t ∈ parts, t.info.role = none) (hplain : ∀ t ∈ parts, t.Plain) :
    Declares
      { kind := .exporting, line := line + 1, specifier := none
        names := parts.flatMap exportNames }
      (.node { kind := .exportStatement, line, column } parts) where
  faultless := hasFault_node rfl (by simp) fun t ht => (hplain t ht).faultless
  declared_eq := by
    have hnone : (Tree.node { kind := .exportStatement, line, column } parts).child? .source =
        none := by
      rw [child?, children, List.find?_eq_none]
      intro t ht
      rw [hrole t ht]
      decide
    have hsilent : (parts.flatMap fun t => t.preorder.filterMap declared?) = [] :=
      List.flatMap_eq_nil_iff.mpr fun t ht => (hplain t ht).silent
    have hspecifier :
        (Tree.node { kind := .exportStatement, line, column } parts).specifier? = none := by
      rw [specifier?, hnone]
      rfl
    rw [filterMap_preorder_node, hsilent, declared?, hspecifier]
    rfl

end Tree

end PackageUsage.Source
