import PackageUsage.Proofs.Collect
import PackageUsage.Proofs.Source.BoundNames
import PackageUsage.Proofs.Source.Repair

/-!
# The names of a record are written in the text

Whatever a declaration binds, some node of it spells the name, and the module it names too. So the
characters of names and modules are characters of words and strings: no line ends in them unless it
is continued, and a word always has a piece.
-/

namespace PackageUsage.Source

namespace Tree

variable {t : Tree} {name specifier : String} {text : Cursor}

/-! ## Names are spelled by nodes -/

/-- Some node of a tree spells a name. -/
def Writes (t : Tree) (name : String) : Prop :=
  ∃ leaf ∈ t.preorder, leaf.nameText = name

theorem Writes.of_mem_preorder {u : Tree} (hu : u ∈ t.preorder) (h : u.Writes name) :
    t.Writes name := by
  obtain ⟨leaf, hleaf, hname⟩ := h
  exact ⟨leaf, preorder_subset hu hleaf, hname⟩

/-- A declaration writes the names it binds. -/
theorem writes_of_mem_boundNames (h : name ∈ t.boundNames) : t.Writes name :=
  List.mem_map.mp ((boundNames_sublist t).subset h)

/-- A declaration writes the module it names. -/
theorem writes_of_specifier? (h : t.specifier? = some specifier) : t.Writes specifier := by
  obtain ⟨-, source, hsource, hkind, rfl⟩ := (specifier?_eq_some_iff ..).mp h
  have hchild : source ∈ t.children := List.mem_of_find?_eq_some hsource
  refine ⟨source, mem_preorder_of_mem_children hchild, ?_⟩
  simp [nameText, hkind]

/-- The node of a record writes its names and its module. -/
theorem writes_of_record? {file : String} {matcher : Matcher} {r : Record}
    (h : t.record? file matcher = some r) :
    (∀ name ∈ r.names, t.Writes name) ∧ t.Writes r.specifier := by
  obtain ⟨kind, specifier, -, hspecifier, -, -, rfl⟩ := (record?_eq_some_iff ..).mp h
  exact ⟨fun name hname => writes_of_mem_boundNames hname, writes_of_specifier? hspecifier⟩

/-! ## Empty names -/

/-- A node binds an empty name: a whole module is bound to it, or it is a word without text. -/
def BindsEmpty (t : Tree) : Prop :=
  (t.kind = .namespaceImport ∨ t.kind = .namespaceExport) ∧ t.namespaceName? = some "" ∨
    t.kind = .identifier ∧ t.text = ""

/-- No list binds an empty name. -/
theorem empty_not_mem_listNames (element : NodeKind) (t : Tree) : "" ∉ t.listNames element := by
  intro h
  obtain ⟨c, -, hname⟩ := List.mem_filterMap.mp h
  unfold specifierName? at hname
  split at hname
  · split at hname
    · cases hname
    · next leaf _ hempty =>
      rw [Option.some.inj hname] at hempty
      exact hempty rfl
  · cases hname

theorem bindsEmpty_of_mem_importPartNames (h : "" ∈ t.importPartNames) : t.BindsEmpty := by
  unfold importPartNames at h
  split at h
  · next hkind => exact .inr ⟨hkind, (List.mem_singleton.mp h).symm⟩
  · exact (empty_not_mem_listNames _ t h).elim
  · next hkind => exact .inl ⟨.inl hkind, Option.mem_toList.mp h⟩
  · cases h

theorem exists_bindsEmpty_of_mem_importNames (h : "" ∈ t.importNames) :
    ∃ part ∈ t.preorder, part.BindsEmpty := by
  unfold importNames at h
  split at h
  · obtain ⟨c, hc, hname⟩ := List.mem_flatMap.mp h
    exact ⟨c, mem_preorder_of_mem_children hc, bindsEmpty_of_mem_importPartNames hname⟩
  · exact (empty_not_mem_listNames _ t h).elim
  · next hkind => exact ⟨t, mem_preorder_self t, .inl ⟨.inl hkind, Option.mem_toList.mp h⟩⟩
  · cases h

theorem bindsEmpty_of_mem_exportNames (h : "" ∈ t.exportNames) : t.BindsEmpty := by
  unfold exportNames at h
  split at h
  · exact (empty_not_mem_listNames _ t h).elim
  · next hkind => exact .inl ⟨.inr hkind, Option.mem_toList.mp h⟩
  · cases h

/-- Only a part that binds an empty name gives one to a declaration. -/
theorem exists_bindsEmpty_of_mem_boundNames (h : "" ∈ t.boundNames) :
    ∃ part ∈ t.preorder, part.BindsEmpty := by
  unfold boundNames at h
  split at h
  · obtain ⟨c, hc, hname⟩ := List.mem_flatMap.mp h
    obtain ⟨part, hpart, hempty⟩ := exists_bindsEmpty_of_mem_importNames hname
    exact ⟨part, preorder_subset (mem_preorder_of_mem_children hc) hpart, hempty⟩
  · obtain ⟨c, hc, hname⟩ := List.mem_flatMap.mp h
    exact ⟨c, mem_preorder_of_mem_children hc, bindsEmpty_of_mem_exportNames hname⟩
  · cases h

/-! ## What a node spells -/

theorem mem_of_mem_unquoteList {c : Char} {cs : List Char} (h : c ∈ unquoteList cs) : c ∈ cs := by
  unfold unquoteList at h
  split at h
  · split at h
    · exact List.mem_cons_of_mem _ (List.dropLast_subset _ h)
    · exact h
  · exact h

/-- The characters of a name are characters of its node. -/
theorem mem_text_of_mem_nameText {c : Char} (h : c ∈ t.nameText.toList) : c ∈ t.text.toList := by
  unfold nameText at h
  split at h
  · rw [unquote, String.toList_ofList] at h
    exact mem_of_mem_unquoteList h
  · exact h

/-- A node spells nothing, is a string, or spells a name that has a piece. -/
theorem Spelled.nameText_cases (h : t.Spelled text) :
    t.nameText = "" ∨ t.kind = .string ∨ ∃ c ∈ t.nameText.toList, isFiller c = false := by
  by_cases hstring : t.kind = .string
  · exact .inr (.inl hstring)
  · have htext : t.nameText = t.text := if_neg hstring
    rw [htext]
    by_cases hidentifier : t.kind = .identifier
    · rcases h.missing_or_exists_not_isFiller hidentifier with ⟨hempty, -⟩ | hshows
      · exact .inl hempty
      · exact .inr (.inr hshows)
    · cases h with
      | empty hnone _ => exact .inl hnone
      | leaf _ _ _ hmade _ =>
        rcases hmade.identifier_or_string with hkind | hkind
        · exact absurd hkind hidentifier
        · exact absurd hkind hstring

/-- A word that spells nothing is missing. -/
theorem Spelled.missing (h : t.Spelled text) (hkind : t.kind = .identifier) (hempty : t.text = "") :
    t.info.missing = true := by
  rcases h.missing_or_exists_not_isFiller hkind with ⟨-, hmissing⟩ | ⟨c, hc, -⟩
  · exact hmissing
  · rw [hempty] at hc
    cases hc

end Tree

variable {path source : String} {tree node : Tree}

/-! ## Records of a text -/

/-- Where no line is continued, no line ends in a name or a module. -/
theorem not_mem_of_writes (hparse : parse path source = .ok tree)
    (hsource : NoLineContinued source.toList) {name : String} (h : tree.Writes name) :
    '\n' ∉ name.toList := by
  obtain ⟨leaf, hleaf, rfl⟩ := h
  intro hmem
  exact ((ofText_of_parse hparse).fits leaf hleaf).spelled.not_mem_text hsource
    (Tree.mem_text_of_mem_nameText hmem)

/-- A name without pieces is empty or the contents of a string. -/
theorem string_of_writes (hparse : parse path source = .ok tree) (hnode : node ∈ tree.preorder)
    {name : String} (h : node.Writes name) (hnone : pieces name = []) :
    name = "" ∨ ∃ leaf ∈ node.preorder, leaf.kind = .string ∧ Tree.unquote leaf.text = name := by
  obtain ⟨leaf, hleaf, rfl⟩ := h
  have hspelled := ((ofText_of_parse hparse).fits leaf (Tree.preorder_subset hnode hleaf)).spelled
  rcases hspelled.nameText_cases with hempty | hstring | hshows
  · exact .inl hempty
  · exact .inr ⟨leaf, hleaf, hstring, (if_pos hstring).symm⟩
  · obtain ⟨c, hc, hshown⟩ := hshows
    rw [pieces_eq_nil_iff.mp hnone c hc] at hshown
    cases hshown

/-- Where an empty name is bound, it is that of a whole module, or a word is missing. -/
theorem namespace_or_missing_of_bindsEmpty (hparse : parse path source = .ok tree)
    (hnode : node ∈ tree.preorder) (h : node.BindsEmpty) :
    (node.kind = .namespaceImport ∨ node.kind = .namespaceExport) ∧ node.namespaceName? = some "" ∨
      node.kind = .identifier ∧ node.info.missing = true := by
  rcases h with hwhole | ⟨hkind, hempty⟩
  · exact .inl hwhole
  · exact .inr ⟨hkind, ((ofText_of_parse hparse).fits node hnode).spelled.missing hkind hempty⟩

end PackageUsage.Source
