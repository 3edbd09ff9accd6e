import PackageUsage.Proofs.FileTree

/-!
# Trees inside other trees

A tree may be held by another one below some directory. Names lead to the same nodes in both, if in
the larger tree they are looked for below that directory; so every path without links, and without
steps to a parent, finds the same in both trees.
-/

namespace PackageUsage

namespace FileNode

/-! ## Tests of all entries -/

mutual

/-- Every entry at any depth below a node passes a test, which is given its name. -/
def everyEntry (test : String → FileNode → Bool) : FileNode → Bool
  | .file _ | .link _ => true
  | .directory entries => everyEntryList test entries

/-- Some entries, and all those below them, pass a test. -/
def everyEntryList (test : String → FileNode → Bool) : List (String × FileNode) → Bool
  | [] => true
  | (name, node) :: rest => test name node && node.everyEntry test && everyEntryList test rest

end

/-- Whether a node is a link. -/
def isLink : FileNode → Bool
  | .link _ => true
  | .file _ | .directory _ => false

variable {test : String → FileNode → Bool} {entries : List (String × FileNode)} {name : String}
  {node : FileNode}

theorem test_of_mem (h : everyEntryList test entries = true) (hmem : (name, node) ∈ entries) :
    test name node = true ∧ node.everyEntry test = true := by
  induction entries with
  | nil => cases hmem
  | cons entry rest ih =>
    obtain ⟨first, head⟩ := entry
    simp only [everyEntryList, Bool.and_eq_true] at h
    rcases List.mem_cons.mp hmem with heq | hrest
    · cases heq
      exact h.1
    · exact ih h.2 hrest

end FileNode

namespace FileTree

theorem everyEntry_of_nodeAt? {test : String → FileNode → Bool} {node found : FileNode}
    {place : Place} (hnode : node.everyEntry test = true) (h : nodeAt? node place = some found) :
    found.everyEntry test = true := by
  induction place generalizing node with
  | nil =>
    cases h
    exact hnode
  | cons name place ih =>
    cases node with
    | file contents => cases h
    | link target => cases h
    | directory entries =>
      rw [nodeAt?] at h
      obtain ⟨child, hchild, hfound⟩ := Option.bind_eq_some_iff.mp h
      rw [FileNode.everyEntry] at hnode
      exact ih (FileNode.test_of_mem hnode (FileNode.mem_of_entry? hchild)).2 hfound

/-- A test that all entries pass is passed by the entry at a place. -/
theorem test_of_nodeAt? {t : FileTree} {test : String → FileNode → Bool} {place : Place}
    {name : String} {node : FileNode} (ht : t.top.everyEntry test = true)
    (h : nodeAt? t.top (place ++ [name]) = some node) : test name node = true := by
  obtain ⟨entries, hplace⟩ := directoryAt_of_concat h
  rw [nodeAt?_concat hplace] at h
  have hentries := everyEntry_of_nodeAt? ht hplace
  rw [FileNode.everyEntry] at hentries
  exact (FileNode.test_of_mem hentries (FileNode.mem_of_entry? h)).1

/-- There are no links in a tree. -/
def LinkFree (t : FileTree) : Prop :=
  t.top.everyEntry (fun _ node => !node.isLink) = true

instance : DecidablePred LinkFree := fun t =>
  inferInstanceAs (Decidable (t.top.everyEntry _ = true))

/-! ## Steps in both trees -/

/-- A tree holds another one below a directory. -/
def Holds (outer : FileTree) (folder : Place) (inner : FileTree) : Prop :=
  nodeAt? outer.top folder = some inner.top

/-- Where steps end below a directory. -/
def Stop.below (folder : Place) : Stop → Stop
  | .arrived place => .arrived (folder ++ place)
  | .atLink there target rest => .atLink (folder ++ there) target rest

variable {inner outer : FileTree} {folder place : Place} {todo : List String}

theorem Holds.nodeAt? (h : outer.Holds folder inner) (place : Place) :
    nodeAt? outer.top (folder ++ place) = FileTree.nodeAt? inner.top place := by
  rw [nodeAt?_append, h, Option.bind_some]

/-- Steps that do not go to a parent lead to the same places in both trees. -/
theorem Holds.follow (h : outer.Holds folder inner) (place : Place) (htodo : ".." ∉ todo) :
    outer.follow (folder ++ place) todo = (inner.follow place todo).map (Stop.below folder) := by
  induction todo generalizing place with
  | nil => rfl
  | cons step todo ih =>
    rw [List.mem_cons, not_or] at htodo
    have hparent : (step == "..") = false := beq_eq_false_iff_ne.mpr (Ne.symm htodo.1)
    rw [FileTree.follow, FileTree.follow, h.nodeAt?]
    split
    · split
      · exact ih place htodo.2
      · rw [hparent, if_neg Bool.false_ne_true, if_neg Bool.false_ne_true]
        split
        · rfl
        · rfl
        · rw [List.append_assoc]
          exact ih (place ++ [step]) htodo.2
    · rfl

/-- Without links, steps end at a place. -/
theorem LinkFree.follow_ne_atLink (h : inner.LinkFree) {there : Place} {target : String}
    {rest : List String} : inner.follow place todo ≠ .ok (.atLink there target rest) := by
  induction todo generalizing place with
  | nil =>
    intro hstop
    cases hstop
  | cons step todo ih =>
    rw [FileTree.follow]
    split
    · next entries hnode =>
      split
      · exact ih
      · split
        · split
          · intro hstop
            cases hstop
          · exact ih
        · split
          · intro hstop
            cases hstop
          · next hentry =>
            have hlink := test_of_nodeAt? h ((nodeAt?_concat hnode step).trans hentry)
            cases hlink
          · exact ih
    · intro hstop
      cases hstop

/-- Names that lead to a place without going through a link are those of the place. -/
theorem eq_of_follow_names {t : FileTree} {place there : Place}
    (hnames : ∀ name ∈ todo, Path.isName name = true)
    (h : t.follow place todo = .ok (.arrived there)) : there = place ++ todo := by
  induction todo generalizing place with
  | nil =>
    cases h
    exact (List.append_nil there).symm
  | cons name todo ih =>
    obtain ⟨hname, hrest⟩ := List.forall_mem_cons.mp hnames
    obtain ⟨-, hcurrent, hparent, -⟩ := Path.isName_iff.mp hname
    rw [FileTree.follow, beq_eq_false_iff_ne.mpr hcurrent, beq_eq_false_iff_ne.mpr hparent] at h
    split at h
    · rw [if_neg Bool.false_ne_true, if_neg Bool.false_ne_true] at h
      split at h
      · cases h
      · cases h
      · rw [ih hrest h, List.append_assoc, List.singleton_append]
    · cases h

/-- In a tree without links, a path finds the same in both trees. -/
theorem Holds.walkTo (h : outer.Holds folder inner) (hfree : inner.LinkFree) (place : Place)
    (htodo : ".." ∉ todo) (links : Nat) :
    outer.walkTo links (folder ++ place) todo =
      (inner.walkTo links place todo).map (folder ++ ·) := by
  rw [FileTree.walkTo, FileTree.walkTo, h.follow place htodo]
  cases hstop : inner.follow place todo with
  | error e => rfl
  | ok stop =>
    cases stop with
    | arrived there => rfl
    | atLink there target rest => exact absurd hstop hfree.follow_ne_atLink

/-! ## Paths in both trees -/

theorem follow_current (t : FileTree) (todo : List String) :
    t.follow [] ("." :: todo) = t.follow [] todo :=
  rfl

theorem relative_current :
    (".".isEmpty || Path.isAbsolute ".") = false ∧ Path.parts "." = ["."] ∧ steps "." = ["."] := by
  decide +kernel

theorem locate_current (t : FileTree) : t.locate "." = .ok [] := by
  obtain ⟨hrelative, -, hsteps⟩ := relative_current
  rw [locate_eq_ok_iff, hsteps, walkTo_eq_ok_iff]
  exact ⟨hrelative, .arrived (t.follow_current [])⟩

theorem parts_intercalate {names : List String} (h : ∀ name ∈ names, Path.isName name = true)
    (hne : names ≠ []) : Path.parts ("/".intercalate names) = names := by
  rw [Path.parts, Path.segments_intercalate h hne, Path.filter_names h]

theorem relative_intercalate {names : List String} (h : ∀ name ∈ names, Path.isName name = true)
    (hne : names ≠ []) :
    (("/".intercalate names).isEmpty || Path.isAbsolute ("/".intercalate names)) = false := by
  rw [Path.isAbsolute_intercalate h hne, Bool.or_false, String.isEmpty_eq_false_iff]
  exact Path.intercalate_ne_empty h hne

/-- Without links, names lead from the working directory to the place that they make up. -/
theorem LinkFree.eq_of_locate_join (h : inner.LinkFree) {names : List String} {there : Place}
    (hnames : ∀ name ∈ names, Path.isName name = true) (hne : names ≠ [])
    (hlocate : inner.locate (Path.join "." ("/".intercalate names)) = .ok there) :
    there = names := by
  obtain ⟨-, hdot, -⟩ := relative_current
  rw [locate_eq_ok_iff, Path.steps_join _ hnames hne, hdot, List.singleton_append,
    walkTo_congr (follow_current inner names), walkTo_eq_ok_iff] at hlocate
  cases hlocate.2 with
  | arrived hfollow => exact eq_of_follow_names hnames hfollow
  | link hfollow => exact absurd hfollow h.follow_ne_atLink

/-- A tree without links is held below a directory. -/
structure HoldsPlainly (outer : FileTree) (folder : Place) (inner : FileTree) : Prop where
  wellFormed : outer.WellFormed
  holds : outer.Holds folder inner
  below : folder ≠ []
  linkFree : inner.LinkFree

namespace HoldsPlainly

variable {names : List String} (h : outer.HoldsPlainly folder inner)
include h

theorem isName : ∀ name ∈ folder, Path.isName name = true :=
  isName_of_nodeAt? h.wellFormed h.holds

theorem inner_wellFormed : inner.WellFormed :=
  wellFormed_of_nodeAt? h.wellFormed h.holds

/-- The names of the directory are steps that lead to it. -/
theorem follow_folder (more : List String) :
    outer.follow [] (folder ++ more) = outer.follow folder more :=
  @FileTree.follow_folder outer [] folder h.wellFormed ⟨inner.entries, h.holds⟩ more

/-- The directory is found by its names. -/
theorem locate_folder : outer.locate ("/".intercalate folder) = .ok folder := by
  have hfollow : outer.follow [] (folder ++ []) = .ok (.arrived folder) := h.follow_folder []
  rw [List.append_nil] at hfollow
  rw [locate_eq_ok_iff, walkTo_eq_ok_iff, Path.steps_intercalate h.isName h.below]
  exact ⟨relative_intercalate h.isName h.below, .arrived hfollow⟩

variable (hnames : ∀ name ∈ names, Path.isName name = true) (hne : names ≠ [])
include hnames hne

/-- Names lead from the directory to where they lead in the held tree. -/
theorem locate_join :
    outer.locate (Path.join ("/".intercalate folder) ("/".intercalate names)) =
      (inner.locate (Path.join "." ("/".intercalate names))).map (folder ++ ·) := by
  obtain ⟨hcurrent, hdot, -⟩ := relative_current
  have hparent : ".." ∉ names := fun hmem => (Path.isName_iff.mp (hnames _ hmem)).2.2.1 rfl
  have houter : outer.walkTo linkLimit [] (folder ++ names) = outer.walkTo linkLimit folder names :=
    walkTo_congr (h.follow_folder names)
  have hinner : inner.walkTo linkLimit [] ("." :: names) = inner.walkTo linkLimit [] names :=
    walkTo_congr (follow_current inner names)
  have hboth := h.holds.walkTo h.linkFree [] hparent linkLimit
  rw [List.append_nil] at hboth
  rw [locate, locate, Path.relative_join (relative_intercalate h.isName h.below) hnames hne,
    Path.relative_join hcurrent hnames hne, if_neg Bool.false_ne_true, if_neg Bool.false_ne_true,
    Path.steps_join _ hnames hne, Path.steps_join _ hnames hne,
    parts_intercalate h.isName h.below, hdot, houter, hboth, List.singleton_append, hinner]

/-- Names find the same from the directory as in the held tree. -/
theorem find_join :
    outer.find (Path.join ("/".intercalate folder) ("/".intercalate names)) =
      inner.find (Path.join "." ("/".intercalate names)) := by
  unfold find
  rw [h.locate_join hnames hne]
  cases inner.locate (Path.join "." ("/".intercalate names)) with
  | error e => rfl
  | ok place =>
    simp only [Except.map, bind, Except.bind, h.holds.nodeAt?]

theorem readText_join :
    outer.readText (Path.join ("/".intercalate folder) ("/".intercalate names)) =
      inner.readText (Path.join "." ("/".intercalate names)) := by
  rw [readText, readBytes, h.find_join hnames hne, ← readBytes, ← readText]

end HoldsPlainly

end FileTree

end PackageUsage
