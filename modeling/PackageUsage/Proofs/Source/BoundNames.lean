import Mathlib.Data.List.Flatten
import Mathlib.Data.List.NodupEquivFin
import PackageUsage.Proofs.Source.Walk
import PackageUsage.Source.Declaration

/-!
# Where bound names are read, and how many there are

The names of a declaration are spelled by nodes below it that come one after the other in pre-order,
whatever the shape of the tree. There is one for each identifier of an import clause, for each
element of a list that has a name, and for each clause that binds a whole module.
-/

namespace PackageUsage.Source

namespace Tree

variable {t c : Tree} {role : Role} {f : Tree → List String}

/-! ## The nodes that spell the names -/

/-- What the nodes of a tree spell, in pre-order. -/
def spelled (t : Tree) : List String :=
  t.preorder.map nameText

theorem spelled_child (hc : c ∈ t.children) : [c.nameText].Sublist t.spelled :=
  List.singleton_sublist.mpr (List.mem_map_of_mem (mem_preorder_of_mem_children hc))

/-- Names that each child spells are spelled one after the other. -/
theorem spelled_flatMap (h : ∀ c ∈ t.children, (f c).Sublist c.spelled) :
    (t.children.flatMap f).Sublist t.spelled := by
  rw [spelled, preorder_eq, preorderList_eq_flatMap, List.map_cons, List.map_flatMap]
  exact (List.Sublist.flatMap_right _ h).trans (List.sublist_cons_self _ _)

theorem specifierName?_sublist (t : Tree) : t.specifierName?.toList.Sublist t.spelled := by
  unfold specifierName?
  split
  · next leaf hleaf =>
    -- the new name goes before the name, but both are children
    have hchild : leaf ∈ t.children := by
      rcases Option.or_eq_some_iff.mp hleaf with hrenaming | ⟨-, hname⟩
      · exact List.mem_of_find?_eq_some hrenaming
      · exact List.mem_of_find?_eq_some hname
    split
    · exact List.nil_sublist _
    · exact spelled_child hchild
  · exact List.nil_sublist _

theorem listNames_eq_flatMap (element : NodeKind) (t : Tree) :
    t.listNames element =
      t.children.flatMap fun c => if c.kind == element then c.specifierName?.toList else [] := by
  rw [listNames]
  induction t.children with
  | nil => rfl
  | cons c cs ih =>
    rw [List.flatMap_cons, ← ih]
    cases hkind : c.kind == element with
    | false => rw [List.filter_cons_of_neg (by simp [hkind])]; rfl
    | true =>
      rw [List.filter_cons_of_pos (by simpa using hkind), List.filterMap_cons]
      cases c.specifierName? <;> rfl

theorem listNames_sublist (element : NodeKind) (t : Tree) :
    (t.listNames element).Sublist t.spelled := by
  rw [listNames_eq_flatMap]
  refine spelled_flatMap fun c _ => ?_
  split
  · exact specifierName?_sublist c
  · exact List.nil_sublist _

theorem namespaceName?_sublist (t : Tree) : t.namespaceName?.toList.Sublist t.spelled := by
  unfold namespaceName?
  cases hleaf : t.children.find? fun c => c.kind == .identifier || c.kind == .string with
  | none => exact List.nil_sublist _
  | some leaf => exact spelled_child (List.mem_of_find?_eq_some hleaf)

theorem importPartNames_sublist (t : Tree) : t.importPartNames.Sublist t.spelled := by
  unfold importPartNames
  split
  · next hkind =>
    have htext : t.text = t.nameText := by simp [nameText, hkind]
    rw [htext]
    exact List.singleton_sublist.mpr (List.mem_map_of_mem (mem_preorder_self t))
  · exact listNames_sublist _ t
  · exact namespaceName?_sublist t
  · exact List.nil_sublist _

theorem importNames_sublist (t : Tree) : t.importNames.Sublist t.spelled := by
  unfold importNames
  split
  · exact spelled_flatMap fun c _ => importPartNames_sublist c
  · exact listNames_sublist _ t
  · exact namespaceName?_sublist t
  · exact List.nil_sublist _

theorem exportNames_sublist (t : Tree) : t.exportNames.Sublist t.spelled := by
  unfold exportNames
  split
  · exact listNames_sublist _ t
  · exact namespaceName?_sublist t
  · exact List.nil_sublist _

/-- The names of a declaration are spelled below it, one after the other. -/
theorem boundNames_sublist (t : Tree) : t.boundNames.Sublist t.spelled := by
  unfold boundNames
  split
  · exact spelled_flatMap fun c _ => importNames_sublist c
  · exact spelled_flatMap fun c _ => exportNames_sublist c
  · exact List.nil_sublist _

/-! ## The number of names -/

/-- The new name of a list element, or else its name, is there and not empty. -/
def hasName (t : Tree) : Bool :=
  ((t.child? .renaming).or (t.child? .name)).any fun leaf => leaf.nameText ≠ ""

/-- A clause has an identifier or a string to bind a whole module to. -/
def hasWholeName (t : Tree) : Bool :=
  t.children.any fun c => c.kind == .identifier || c.kind == .string

/-- The children of the import clauses among some nodes. -/
def clauseParts (parts : List Tree) : List Tree :=
  (parts.filter (·.kind == .importClause)).flatMap children

/-- The number of elements with a name in the lists among some nodes. -/
def namedElements (list element : NodeKind) (parts : List Tree) : Nat :=
  ((parts.filter (·.kind == list)).flatMap children).countP fun c => c.kind == element && c.hasName

/-- The number of clauses among some nodes that bind a whole module. -/
def wholeModules (clause : NodeKind) (parts : List Tree) : Nat :=
  parts.countP fun c => c.kind == clause && c.hasWholeName

/-- The number of names that an import binds, by what its children and those of its import clauses
are. -/
def importCount (parts : List Tree) : Nat :=
  (clauseParts parts).countP (·.kind == .identifier) +
    namedElements .namedImports .importSpecifier (parts ++ clauseParts parts) +
    wholeModules .namespaceImport (parts ++ clauseParts parts)

/-- The number of names that an export has, by what its children are. -/
def exportCount (parts : List Tree) : Nat :=
  namedElements .exportClause .exportSpecifier parts + wholeModules .namespaceExport parts

theorem length_specifierName? (t : Tree) :
    t.specifierName?.toList.length = if t.hasName then 1 else 0 := by
  unfold specifierName? hasName
  cases (t.child? .renaming).or (t.child? .name) with
  | none => rfl
  | some leaf => by_cases hempty : leaf.nameText = "" <;> simp [hempty]

theorem length_listNames (element : NodeKind) (t : Tree) :
    (t.listNames element).length =
      t.children.countP fun c => c.kind == element && c.hasName := by
  rw [listNames_eq_flatMap]
  induction t.children with
  | nil => rfl
  | cons c cs ih =>
    rw [List.flatMap_cons, List.length_append, ih, List.countP_cons, Nat.add_comm]
    cases hkind : c.kind == element with
    | false => simp
    | true => simp [length_specifierName?]

theorem length_namespaceName? (t : Tree) :
    t.namespaceName?.toList.length = if t.hasWholeName then 1 else 0 := by
  unfold namespaceName? hasWholeName
  cases hleaf : t.children.find? fun c => c.kind == .identifier || c.kind == .string with
  | none =>
    have hany := List.find?_eq_none.mp hleaf
    simp_all
  | some leaf =>
    have hsome := List.find?_some hleaf
    have hmem := List.mem_of_find?_eq_some hleaf
    have hany : (t.children.any fun c => c.kind == .identifier || c.kind == .string) = true :=
      List.any_eq_true.mpr ⟨leaf, hmem, hsome⟩
    rw [hany]
    rfl

section Counts
variable {list clause element : NodeKind} {parts more : List Tree}

@[simp] theorem clauseParts_append :
    clauseParts (parts ++ more) = clauseParts parts ++ clauseParts more := by
  simp [clauseParts]

@[simp] theorem namedElements_append : namedElements list element (parts ++ more) =
    namedElements list element parts + namedElements list element more := by
  simp [namedElements]

@[simp] theorem wholeModules_append :
    wholeModules clause (parts ++ more) = wholeModules clause parts + wholeModules clause more := by
  simp [wholeModules]

@[simp] theorem clauseParts_singleton :
    clauseParts [t] = if t.kind = .importClause then t.children else [] := by
  by_cases hkind : t.kind = .importClause <;> simp [clauseParts, hkind]

@[simp] theorem namedElements_singleton :
    namedElements list element [t] =
      if t.kind = list then t.children.countP fun c => c.kind == element && c.hasName else 0 := by
  by_cases hkind : t.kind = list <;> simp [namedElements, hkind]

@[simp] theorem wholeModules_singleton :
    wholeModules clause [t] = if t.kind = clause ∧ t.hasWholeName = true then 1 else 0 := by
  simp [wholeModules, List.countP_singleton]

theorem importCount_append :
    importCount (parts ++ more) = importCount parts + importCount more := by
  simp only [importCount, clauseParts_append, List.countP_append, namedElements_append,
    wholeModules_append]
  omega

theorem exportCount_append :
    exportCount (parts ++ more) = exportCount parts + exportCount more := by
  simp only [exportCount, namedElements_append, wholeModules_append]
  omega

end Counts

/-- What is counted part by part is counted in all of them. -/
theorem length_flatMap_eq (count : List Tree → Nat) (hnil : count [] = 0)
    (happend : ∀ parts more, count (parts ++ more) = count parts + count more)
    (hf : ∀ c, (f c).length = count [c]) (parts : List Tree) :
    (parts.flatMap f).length = count parts := by
  induction parts with
  | nil => exact hnil.symm
  | cons c cs ih =>
    rw [List.flatMap_cons, List.length_append, ih, hf]
    exact (happend [c] cs).symm

theorem length_importPartNames (t : Tree) :
    t.importPartNames.length =
      [t].countP (·.kind == .identifier) + namedElements .namedImports .importSpecifier [t] +
        wholeModules .namespaceImport [t] := by
  unfold importPartNames
  split <;> simp_all [length_listNames, length_namespaceName?]

theorem length_importNames (t : Tree) : t.importNames.length = importCount [t] := by
  unfold importNames importCount
  split
  · next hkind =>
    rw [length_flatMap_eq (fun parts => parts.countP (·.kind == .identifier) +
      namedElements .namedImports .importSpecifier parts + wholeModules .namespaceImport parts)
      rfl _ length_importPartNames]
    · simp only [namedElements_append, wholeModules_append]
      simp [hkind]
    · intro parts more
      simp only [List.countP_append, namedElements_append, wholeModules_append]
      omega
  all_goals simp_all [length_listNames, length_namespaceName?, namedElements, wholeModules]

theorem length_exportNames (t : Tree) : t.exportNames.length = exportCount [t] := by
  unfold exportNames exportCount
  split <;> simp_all [length_listNames, length_namespaceName?]

/-- The number of names of a node. -/
theorem length_boundNames (t : Tree) :
    t.boundNames.length =
      match t.kind with
      | .importStatement => importCount t.children
      | .exportStatement => exportCount t.children
      | _ => 0 := by
  unfold boundNames declarationKind?
  cases t.kind with
  | importStatement =>
    exact length_flatMap_eq importCount rfl (fun _ _ => importCount_append) length_importNames
      t.children
  | exportStatement =>
    exact length_flatMap_eq exportCount rfl (fun _ _ => exportCount_append) length_exportNames
      t.children
  | _ => rfl

/-- The names of a node are those that nodes at ever later positions of its pre-order spell. A node
that is no declaration has none; a declaration has as many as its clauses and lists tell. -/
theorem boundNames_read_in_order (t : Tree) :
    (∃ position : Nat → Nat, StrictMono position ∧
      ∀ i, t.boundNames[i]? = t.preorder[position i]?.map nameText) ∧
    (t.boundNames = [] ∨ t.kind = .importStatement ∨ t.kind = .exportStatement) ∧
    t.boundNames.length =
      match t.kind with
      | .importStatement => importCount t.children
      | .exportStatement => exportCount t.children
      | _ => 0 := by
  refine ⟨?_, ?_, length_boundNames t⟩
  · obtain ⟨position, hposition⟩ :=
      List.sublist_iff_exists_orderEmbedding_getElem?_eq.mp (boundNames_sublist t)
    refine ⟨position, position.strictMono, fun i => ?_⟩
    rw [hposition i, spelled, List.getElem?_map]
  · have hlength := length_boundNames t
    cases hkind : t.kind with
    | importStatement => exact .inr (.inl rfl)
    | exportStatement => exact .inr (.inr rfl)
    | _ =>
      rw [hkind] at hlength
      exact .inl (List.eq_nil_of_length_eq_zero hlength)

end Tree

end PackageUsage.Source
