import PackageUsage.Proofs.Path.Names

/-!
# Ways through a file tree

A tree is well formed if the entries of each directory have different names that are names indeed.
A path that leads somewhere leads to a file or a directory, never to a link, and what is left of the
links that may be followed does not depend on the steps to come: a longer path goes on from where
the shorter one has led.
-/

namespace PackageUsage

namespace FileNode

mutual

/-- In every directory at and below a node, the entries have different names. -/
def wellFormed : FileNode → Bool
  | .file _ | .link _ => true
  | .directory entries => wellFormedList entries

/-- Some entries have different names, and so have those in the directories below them. -/
def wellFormedList : List (String × FileNode) → Bool
  | [] => true
  | (name, node) :: rest =>
    Path.isName name && rest.all (·.1 != name) && node.wellFormed && wellFormedList rest

end

variable {entries : List (String × FileNode)} {name : String} {node : FileNode}

theorem wellFormed_of_mem (h : wellFormedList entries = true) (hmem : (name, node) ∈ entries) :
    Path.isName name = true ∧ node.wellFormed = true := by
  induction entries with
  | nil => cases hmem
  | cons entry rest ih =>
    obtain ⟨first, head⟩ := entry
    simp only [wellFormedList, Bool.and_eq_true] at h
    rcases List.mem_cons.mp hmem with heq | hrest
    · cases heq
      exact ⟨h.1.1.1, h.1.2⟩
    · exact ih h.2 hrest

theorem mem_of_entry? (h : entry? name entries = some node) : (name, node) ∈ entries := by
  induction entries with
  | nil => cases h
  | cons entry rest ih =>
    obtain ⟨first, head⟩ := entry
    unfold entry? at h
    split at h
    · next heq =>
      cases h
      obtain rfl := beq_iff_eq.mp heq
      exact List.mem_cons_self
    · exact List.mem_cons_of_mem _ (ih h)

theorem entry?_of_mem (h : wellFormedList entries = true) (hmem : (name, node) ∈ entries) :
    entry? name entries = some node := by
  induction entries with
  | nil => cases hmem
  | cons entry rest ih =>
    obtain ⟨first, head⟩ := entry
    simp only [wellFormedList, Bool.and_eq_true, List.all_eq_true, bne_iff_ne] at h
    unfold entry?
    rcases List.mem_cons.mp hmem with heq | hrest
    · cases heq
      rw [if_pos (beq_self_eq_true name)]
    · have hne : first ≠ name := Ne.symm (h.1.1.2 (name, node) hrest)
      rw [if_neg (by simpa using hne)]
      exact ih h.2 hrest

theorem directoryCount_le_of_mem (hmem : (name, node) ∈ entries) :
    node.directoryCount ≤ directoryCountList entries := by
  induction entries with
  | nil => cases hmem
  | cons entry rest ih =>
    obtain ⟨first, head⟩ := entry
    rw [directoryCountList]
    rcases List.mem_cons.mp hmem with heq | hrest
    · cases heq
      omega
    · have hle := ih hrest
      omega

end FileNode

namespace FileTree

/-- The entries of every directory have different names. -/
def WellFormed (t : FileTree) : Prop :=
  t.top.wellFormed = true

instance : DecidablePred WellFormed := fun t =>
  inferInstanceAs (Decidable (t.top.wellFormed = true))

/-- There is a directory at a place. -/
def DirectoryAt (t : FileTree) (place : Place) : Prop :=
  ∃ entries, nodeAt? t.top place = some (.directory entries)

/-- There is a file or a directory at a place. -/
def Settled (t : FileTree) (place : Place) : Prop :=
  ∃ node, nodeAt? t.top place = some node ∧ ∀ target, node ≠ .link target

variable {t : FileTree} {place : Place} {entries : List (String × FileNode)} {name : String}

theorem DirectoryAt.settled (h : t.DirectoryAt place) : t.Settled place := by
  obtain ⟨entries, hnode⟩ := h
  exact ⟨_, hnode, by intro target heq; cases heq⟩

/-! ## Places -/

theorem nodeAt?_append (node : FileNode) (p q : Place) :
    nodeAt? node (p ++ q) = (nodeAt? node p).bind (nodeAt? · q) := by
  induction p generalizing node with
  | nil => rfl
  | cons name p ih =>
    cases node with
    | file contents => rfl
    | link target => rfl
    | directory entries =>
      rw [List.cons_append, nodeAt?, nodeAt?]
      cases FileNode.entry? name entries with
      | none => rfl
      | some child => exact ih child

theorem nodeAt?_concat (h : nodeAt? t.top place = some (.directory entries)) (name : String) :
    nodeAt? t.top (place ++ [name]) = FileNode.entry? name entries := by
  rw [nodeAt?_append, h, Option.bind_some, nodeAt?]
  cases FileNode.entry? name entries with
  | none => rfl
  | some child => cases child <;> rfl

theorem directoryAt_of_concat {node : FileNode} (h : nodeAt? t.top (place ++ [name]) = some node) :
    t.DirectoryAt place := by
  rw [nodeAt?_append] at h
  cases hplace : nodeAt? t.top place with
  | none => simp [hplace] at h
  | some parent =>
    cases parent with
    | directory entries => exact ⟨entries, hplace⟩
    | file contents => simp [hplace, nodeAt?] at h
    | link target => simp [hplace, nodeAt?] at h

theorem directory_of_nodeAt? {node : FileNode} {entries : List (String × FileNode)}
    (h : nodeAt? node place = some (.directory entries)) : ∃ own, node = .directory own := by
  cases node with
  | directory own => exact ⟨own, rfl⟩
  | file contents => cases place <;> cases h
  | link target => cases place <;> cases h

theorem wellFormed_of_nodeAt? {node found : FileNode} (hnode : node.wellFormed = true)
    (h : nodeAt? node place = some found) : found.wellFormed = true := by
  induction place generalizing node with
  | nil =>
    cases h
    exact hnode
  | cons name place ih =>
    cases node with
    | file contents => cases h
    | link target => cases h
    | directory entries =>
      rw [nodeAt?] at h
      obtain ⟨child, hchild, hfound⟩ := Option.bind_eq_some_iff.mp h
      rw [FileNode.wellFormed] at hnode
      exact ih (FileNode.wellFormed_of_mem hnode (FileNode.mem_of_entry? hchild)).2 hfound

theorem WellFormed.list (h : t.WellFormed)
    (hnode : nodeAt? t.top place = some (.directory entries)) :
    FileNode.wellFormedList entries = true := by
  have hfound := wellFormed_of_nodeAt? h hnode
  rwa [FileNode.wellFormed] at hfound

theorem isName_of_nodeAt? {node found : FileNode} (hnode : node.wellFormed = true)
    (h : nodeAt? node place = some found) : ∀ name ∈ place, Path.isName name = true := by
  induction place generalizing node with
  | nil =>
    intro name hname
    cases hname
  | cons first place ih =>
    cases node with
    | file contents => cases h
    | link target => cases h
    | directory entries =>
      rw [nodeAt?] at h
      obtain ⟨child, hchild, hfound⟩ := Option.bind_eq_some_iff.mp h
      rw [FileNode.wellFormed] at hnode
      obtain ⟨hfirst, hwf⟩ := FileNode.wellFormed_of_mem hnode (FileNode.mem_of_entry? hchild)
      intro name hname
      rcases List.mem_cons.mp hname with rfl | hrest
      · exact hfirst
      · exact ih hwf hfound name hrest

theorem directoryCount_le_of_nodeAt? {node found : FileNode} (h : nodeAt? node place = some found) :
    found.directoryCount ≤ node.directoryCount := by
  induction place generalizing node with
  | nil =>
    cases h
    exact Nat.le_refl _
  | cons name place ih =>
    cases node with
    | file contents => cases h
    | link target => cases h
    | directory entries =>
      rw [nodeAt?] at h
      obtain ⟨child, hchild, hfound⟩ := Option.bind_eq_some_iff.mp h
      have hle := ih hfound
      have hmem := FileNode.directoryCount_le_of_mem (FileNode.mem_of_entry? hchild)
      rw [FileNode.directoryCount]
      omega

/-! ## Steps -/

/-- Goes on with further steps from where earlier ones have led. -/
def resume (t : FileTree) (later : List String) : Except FileError Stop → Except FileError Stop
  | .error e => .error e
  | .ok (.arrived there) => t.follow there later
  | .ok (.atLink folder target rest) => .ok (.atLink folder target (rest ++ later))

theorem follow_append (t : FileTree) (place : Place) (first later : List String) :
    t.follow place (first ++ later) = t.resume later (t.follow place first) := by
  induction first generalizing place with
  | nil => rfl
  | cons step first ih =>
    rw [List.cons_append, follow, follow]
    split
    · next entries hnode =>
      split
      · exact ih place
      · split
        · split
          · rfl
          · exact ih place.dropLast
        · split
          · rfl
          · rfl
          · exact ih (place ++ [step])
    · rfl

section Name
variable (hwf : t.WellFormed)
include hwf

/-- What is at a place is an entry of the directory above, under a name that is a step to it. -/
theorem exists_entry {node : FileNode} (h : nodeAt? t.top (place ++ [name]) = some node) :
    ∃ entries, nodeAt? t.top place = some (.directory entries) ∧
      FileNode.entry? name entries = some node ∧ name ≠ "." ∧ name ≠ ".." := by
  obtain ⟨entries, hplace⟩ := directoryAt_of_concat h
  rw [nodeAt?_concat hplace] at h
  have hname := (FileNode.wellFormed_of_mem (hwf.list hplace) (FileNode.mem_of_entry? h)).1
  obtain ⟨-, hcurrent, hparent, -⟩ := Path.isName_iff.mp hname
  exact ⟨entries, hplace, h, hcurrent, hparent⟩

theorem follow_link {target : String} (h : nodeAt? t.top (place ++ [name]) = some (.link target))
    (rest : List String) : t.follow place (name :: rest) = .ok (.atLink place target rest) := by
  obtain ⟨entries, hplace, hentry, hcurrent, hparent⟩ := exists_entry hwf h
  rw [follow, hplace]
  simp [hcurrent, hparent, hentry]

theorem follow_name {node : FileNode} (h : nodeAt? t.top (place ++ [name]) = some node)
    (hlink : ∀ target, node ≠ .link target) (rest : List String) :
    t.follow place (name :: rest) = t.follow (place ++ [name]) rest := by
  obtain ⟨entries, hplace, hentry, hcurrent, hparent⟩ := exists_entry hwf h
  rw [follow, hplace]
  cases node with
  | link target => exact absurd rfl (hlink target)
  | file contents => simp [hcurrent, hparent, hentry]
  | directory inner => simp [hcurrent, hparent, hentry]

end Name

/-- Where steps may end: at a file or a directory, or before a link in a directory. -/
def Stop.Sound (t : FileTree) : Stop → Prop
  | .arrived there => t.Settled there
  | .atLink folder _ _ => t.DirectoryAt folder

theorem sound_of_follow {todo : List String} {stop : Stop} (hplace : t.Settled place)
    (h : t.follow place todo = .ok stop) : stop.Sound t := by
  induction todo generalizing place with
  | nil =>
    cases h
    exact hplace
  | cons step todo ih =>
    rw [follow] at h
    split at h
    · next entries hnode =>
      split at h
      · exact ih hplace h
      · split at h
        · split at h
          · cases h
          · next hempty =>
            have hne : place ≠ [] := by simpa using hempty
            rw [← List.dropLast_concat_getLast hne] at hnode
            exact ih (directoryAt_of_concat hnode).settled h
        · split at h
          · cases h
          · cases h
            exact ⟨entries, hnode⟩
          · next node hlink hentry =>
            exact ih ⟨node, (nodeAt?_concat hnode step).trans hentry, hlink⟩ h
    · cases h

/-! ## Paths through links -/

/-- How steps lead from a place to another one: by themselves, or up to a link and on from there
with one link less. -/
inductive LeadsTo (t : FileTree) : Nat → Place → List String → Place → Prop
  | arrived {links place todo there} :
      t.follow place todo = .ok (.arrived there) → LeadsTo t links place todo there
  | link {links place todo there folder target rest} :
      t.follow place todo = .ok (.atLink folder target rest) →
      (target.isEmpty || Path.isAbsolute target) = false →
      LeadsTo t links folder (steps target ++ rest) there →
      LeadsTo t (links + 1) place todo there

variable {links : Nat} {there : Place} {todo : List String}

theorem walkTo_eq_ok_iff :
    t.walkTo links place todo = .ok there ↔ t.LeadsTo links place todo there := by
  constructor
  · intro h
    fun_induction walkTo t links place todo with
    | case1 => cases h
    | case2 links place todo here hfollow =>
      cases h
      exact .arrived hfollow
    | case3 => cases h
    | case4 => cases h
    | case5 place todo folder target rest hfollow htarget links ih =>
      exact .link hfollow (Bool.eq_false_iff.mpr htarget) (ih h)
  · intro h
    induction h with
    | arrived hfollow => rw [walkTo, hfollow]
    | link hfollow htarget _ ih =>
      rw [walkTo, hfollow]
      simpa [htarget] using ih

theorem walkTo_congr {here : Place} {todo' : List String}
    (h : t.follow place todo = t.follow here todo') :
    t.walkTo links place todo = t.walkTo links here todo' := by
  rw [walkTo, walkTo, h]

/-- A path that leads somewhere can be gone on with; the links that it has led through are used
up. -/
theorem walkTo_append (h : t.walkTo links place todo = .ok there) :
    ∃ left, (∀ more, t.walkTo links place (todo ++ more) = t.walkTo left there more) ∧
      left ≤ links ∧ (left = links → t.follow place todo = .ok (.arrived there)) := by
  rw [walkTo_eq_ok_iff] at h
  induction h with
  | @arrived links place todo there hfollow =>
    refine ⟨links, fun more => walkTo_congr ?_, Nat.le_refl _, fun _ => hfollow⟩
    rw [follow_append, hfollow, resume]
  | link hfollow htarget _ ih =>
    obtain ⟨left, hmore, hle, -⟩ := ih
    refine ⟨left, fun more => ?_, by omega, by omega⟩
    rw [walkTo, follow_append, hfollow, resume]
    simp only [htarget, Bool.false_eq_true, if_false]
    rw [← List.append_assoc]
    exact hmore more

/-- The start of a path that leads somewhere leads somewhere. -/
theorem LeadsTo.of_append {more : List String} (h : t.LeadsTo links place (todo ++ more) there) :
    ∃ here, t.LeadsTo links place todo here := by
  generalize hall : todo ++ more = all at h
  -- the first link is met before the end of the start, or the start leads up to its end by itself
  induction h generalizing todo with
  | @arrived links place all there hfollow =>
    subst hall
    rw [follow_append] at hfollow
    cases hfirst : t.follow place todo with
    | error e => simp [hfirst, resume] at hfollow
    | ok stop =>
      cases stop with
      | arrived here => exact ⟨here, .arrived hfirst⟩
      | atLink folder target rest => simp [hfirst, resume] at hfollow
  | @link links place all there folder target rest hfollow htarget _ ih =>
    subst hall
    rw [follow_append] at hfollow
    cases hfirst : t.follow place todo with
    | error e => simp [hfirst, resume] at hfollow
    | ok stop =>
      cases stop with
      | arrived here => exact ⟨here, .arrived hfirst⟩
      | atLink folder target rest =>
        rw [hfirst, resume] at hfollow
        cases hfollow
        obtain ⟨here, hhere⟩ := ih (List.append_assoc _ _ _)
        exact ⟨here, .link hfirst htarget hhere⟩

/-- More links that may be followed do no harm. -/
theorem LeadsTo.mono {more : Nat} (h : t.LeadsTo links place todo there) (hle : links ≤ more) :
    t.LeadsTo more place todo there := by
  induction h generalizing more with
  | arrived hfollow => exact .arrived hfollow
  | link hfollow htarget _ ih =>
    cases more with
    | zero => cases hle
    | succ more => exact .link hfollow htarget (ih (Nat.le_of_succ_le_succ hle))

theorem LeadsTo.settled (h : t.LeadsTo links place todo there) (hplace : t.Settled place) :
    t.Settled there := by
  induction h with
  | arrived hfollow => exact sound_of_follow hplace hfollow
  | link hfollow _ _ ih =>
    have hfolder := sound_of_follow hplace hfollow
    exact ih (DirectoryAt.settled hfolder)

/-- The names that lead to a directory are steps that lead to it. -/
theorem follow_folder {folder : Place} (hwf : t.WellFormed) (h : t.DirectoryAt (place ++ folder))
    (more : List String) : t.follow place (folder ++ more) = t.follow (place ++ folder) more := by
  induction folder generalizing place with
  | nil => rw [List.nil_append, List.append_nil]
  | cons name folder ih =>
    rw [List.append_cons] at h ⊢
    obtain ⟨entries, hentries⟩ := h
    have hsplit := hentries
    rw [nodeAt?_append] at hsplit
    obtain ⟨child, hchild, hrest⟩ := Option.bind_eq_some_iff.mp hsplit
    obtain ⟨own, rfl⟩ := directory_of_nodeAt? hrest
    rw [List.cons_append, follow_name hwf hchild (by simp)]
    exact ih ⟨entries, hentries⟩

theorem directoryAt_top (t : FileTree) : t.DirectoryAt [] :=
  ⟨t.entries, rfl⟩

theorem locate_eq_ok_iff {path : String} :
    t.locate path = .ok there ↔
      (path.isEmpty || Path.isAbsolute path) = false ∧
        t.walkTo linkLimit [] (steps path) = .ok there := by
  rw [locate]
  cases path.isEmpty || Path.isAbsolute path <;> simp

/-- The path of an entry leads where the entry leads from its directory. -/
theorem locate_of_leadsTo {folder : Place} {node : FileNode} (hwf : t.WellFormed)
    (hnode : nodeAt? t.top (folder ++ [name]) = some node) (hlinks : links ≤ linkLimit)
    (h : t.LeadsTo links folder [name] there) :
    t.locate ("/".intercalate (folder ++ [name])) = .ok there := by
  have hnames := isName_of_nodeAt? hwf hnode
  refine locate_eq_ok_iff.mpr ⟨?_, ?_⟩
  · rw [Path.isAbsolute_intercalate hnames (by simp), Bool.or_false]
    simpa using Path.intercalate_ne_empty hnames (by simp)
  · rw [Path.steps_intercalate hnames (by simp)]
    have hfollow : t.follow [] (folder ++ [name]) = t.follow folder [name] :=
      follow_folder hwf (directoryAt_of_concat hnode) [name]
    rw [walkTo_congr hfollow, walkTo_eq_ok_iff]
    exact h.mono hlinks

theorem settled_of_locate {path : String} (h : t.locate path = .ok there) : t.Settled there := by
  rw [locate_eq_ok_iff, walkTo_eq_ok_iff] at h
  exact h.2.settled t.directoryAt_top.settled

theorem find_eq_ok_iff {path : String} {node : FileNode} :
    t.find path = .ok node ↔
      ∃ there, t.locate path = .ok there ∧ nodeAt? t.top there = some node := by
  unfold find
  cases t.locate path with
  | error e => simp [bind, Except.bind]
  | ok there =>
    cases hnode : nodeAt? t.top there <;>
      simp [bind, Except.bind, pure, Except.pure, throw, throwThe, MonadExceptOf.throw, hnode]

theorem exists?_iff {path : String} :
    t.exists? path = true ↔ ∃ there, t.locate path = .ok there := by
  unfold exists?
  constructor
  · intro h
    cases hfind : t.find path with
    | error e => simp [hfind, Except.toOption] at h
    | ok node =>
      obtain ⟨there, hlocate, -⟩ := find_eq_ok_iff.mp hfind
      exact ⟨there, hlocate⟩
  · rintro ⟨there, hlocate⟩
    obtain ⟨node, hnode, -⟩ := settled_of_locate hlocate
    rw [find_eq_ok_iff.mpr ⟨there, hlocate, hnode⟩]
    rfl

theorem isDirectory_iff {path : String} :
    t.isDirectory path = true ↔ ∃ there, t.locate path = .ok there ∧ t.DirectoryAt there := by
  unfold isDirectory
  constructor
  · intro h
    split at h
    · next entries hfind =>
      obtain ⟨there, hlocate, hnode⟩ := find_eq_ok_iff.mp hfind
      exact ⟨there, hlocate, entries, hnode⟩
    · cases h
  · rintro ⟨there, hlocate, entries, hnode⟩
    rw [find_eq_ok_iff.mpr ⟨there, hlocate, hnode⟩]

theorem isFile_iff {path : String} :
    t.isFile path = true ↔
      ∃ there contents, t.locate path = .ok there ∧
        nodeAt? t.top there = some (.file contents) := by
  unfold isFile
  constructor
  · intro h
    split at h
    · next contents hfind =>
      obtain ⟨there, hlocate, hnode⟩ := find_eq_ok_iff.mp hfind
      exact ⟨there, contents, hlocate, hnode⟩
    · cases h
  · rintro ⟨there, contents, hlocate, hnode⟩
    rw [find_eq_ok_iff.mpr ⟨there, hlocate, hnode⟩]

theorem readBytes_eq_ok_iff {path : String} {contents : ByteArray} :
    t.readBytes path = .ok contents ↔
      ∃ there, t.locate path = .ok there ∧ nodeAt? t.top there = some (.file contents) := by
  rw [← find_eq_ok_iff]
  unfold readBytes
  cases t.find path with
  | error e => simp [bind, Except.bind]
  | ok node =>
    cases node <;>
      simp [bind, Except.bind, pure, Except.pure, throw, throwThe, MonadExceptOf.throw]

theorem eq_of_follow_dot {stop : Stop} (h : t.follow place ["."] = .ok stop) :
    stop = .arrived place := by
  rw [follow] at h
  split at h
  · cases h
    rfl
  · cases h

/-- A path through the parts of another one, which leads somewhere, goes on from there. -/
theorem walkTo_parts_of_locate {path : String} (h : t.locate path = .ok there) :
    ∃ left, left ≤ linkLimit ∧
      ∀ more, t.walkTo linkLimit [] (Path.parts path ++ more) = t.walkTo left there more := by
  rw [locate_eq_ok_iff] at h
  obtain ⟨-, hwalk⟩ := h
  have hsteps : steps path = if path.endsWith "/" then Path.parts path ++ ["."]
      else Path.parts path := rfl
  rw [hsteps] at hwalk
  split at hwalk
  · -- a separator at the end asks for a directory and leads no further
    have hleads := hwalk
    rw [walkTo_eq_ok_iff] at hleads
    obtain ⟨here, hhere⟩ := hleads.of_append
    rw [← walkTo_eq_ok_iff] at hhere
    obtain ⟨left, hmore, hle, -⟩ := walkTo_append hhere
    have hsame : there = here := by
      rw [hmore, walkTo_eq_ok_iff] at hwalk
      cases hwalk with
      | arrived hfollow =>
        cases eq_of_follow_dot hfollow
        rfl
      | link hfollow => cases eq_of_follow_dot hfollow
    exact ⟨left, hle, fun more => by rw [hsame, hmore]⟩
  · obtain ⟨left, hmore, hle, -⟩ := walkTo_append hwalk
    exact ⟨left, hle, hmore⟩

end FileTree

end PackageUsage
