import PackageUsage.Discovery.Walk
import PackageUsage.Proofs.FileTree

/-!
# What a walk comes upon

The walk is described without its step limit: `Reaches` tells which directories it enters, one entry
after the other, and `ComesUpon` what it finds at their entries. Every way is shorter than the step
limit: a plain directory is smaller than the one that holds it, and a link uses up one of the links
that a path may lead through. So the walk ends by itself, and its findings are all that there is to
come upon.
-/

namespace PackageUsage.Discovery.Survey

open FileTree

/-- The directories that a walk enters, each below those on the way to it. -/
inductive Reaches (s : Survey) : List Folder → Folder → Prop
  | start {folder : Folder} : s.start? = some folder → Reaches s [] folder
  | enter {way : List Folder} {folder next : Folder} {name : String} {node : FileNode} :
      Reaches s way folder → (name, node) ∈ s.entries folder →
      s.visit way folder name node = .entered next → Reaches s (folder :: way) next

/-- What a walk comes upon at an entry of a directory that it enters. -/
def ComesUpon (s : Survey) (f : Finding) : Prop :=
  ∃ way folder name node, s.Reaches way folder ∧ (name, node) ∈ s.entries folder ∧
    s.visit way folder name node = .found f

variable {s : Survey} {way : List Folder} {folder : Folder} {name : String} {node : FileNode}

theorem mem_entries_iff :
    (name, node) ∈ s.entries folder ↔
      ∃ entries, nodeAt? s.tree.top folder.place = some (.directory entries) ∧
        (name, node) ∈ entries := by
  unfold entries
  split
  · next entries hnode => simp [hnode]
  · next hnone =>
    constructor
    · intro h
      cases h
    · rintro ⟨entries, hnode, -⟩
      exact absurd hnode (hnone entries)

theorem nodeAt?_of_mem_entries (hwf : s.tree.WellFormed) (hmem : (name, node) ∈ s.entries folder) :
    nodeAt? s.tree.top (folder.place ++ [name]) = some node := by
  obtain ⟨entries, hfolder, hentry⟩ := mem_entries_iff.mp hmem
  rw [nodeAt?_concat hfolder]
  exact FileNode.entry?_of_mem (hwf.list hfolder) hentry

theorem mem_entries_of_nodeAt? (h : nodeAt? s.tree.top (folder.place ++ [name]) = some node) :
    (name, node) ∈ s.entries folder := by
  obtain ⟨entries, hfolder⟩ := directoryAt_of_concat h
  rw [nodeAt?_concat hfolder] at h
  exact mem_entries_iff.mpr ⟨entries, hfolder, FileNode.mem_of_entry? h⟩

/-! ## Single entries -/

/-- An entry is a directory, or a link to one that is not on the way. -/
inductive DirectoryEntry (s : Survey) (way : List Folder) (folder : Folder) (name : String) :
    FileNode → Place → Prop
  | plain (inner : List (String × FileNode)) :
      DirectoryEntry s way folder name (.directory inner) (folder.place ++ [name])
  | link (target : String) {place : Place} :
      s.tree.locate (s.pathOf (folder.names ++ [name])) = .ok place → s.tree.DirectoryAt place →
      (∀ above ∈ folder :: way, above.place ≠ place) →
      DirectoryEntry s way folder name (.link target) place

/-- An entry is a regular file, or a link to one. -/
inductive FileEntry (s : Survey) (folder : Folder) (name : String) : FileNode → Prop
  | plain (contents : ByteArray) : FileEntry s folder name (.file contents)
  | link (target : String) {place : Place} {contents : ByteArray} :
      s.tree.locate (s.pathOf (folder.names ++ [name])) = .ok place →
      nodeAt? s.tree.top place = some (.file contents) → FileEntry s folder name (.link target)

/-- What an entry is depends on the tree, on the path to it and on the places on the way only. -/
theorem DirectoryEntry.congr {other : Survey} {otherWay : List Folder} {otherFolder : Folder}
    {place : Place} (h : s.DirectoryEntry way folder name node place)
    (htree : other.tree = s.tree) (hroot : other.root = s.root)
    (hnames : otherFolder.names = folder.names)
    (hplaces : (otherFolder :: otherWay).map Folder.place = (folder :: way).map Folder.place) :
    other.DirectoryEntry otherWay otherFolder name node place := by
  cases h with
  | plain inner =>
    obtain ⟨hplace, -⟩ := List.cons.inj hplaces
    rw [← hplace]
    exact .plain inner
  | link target hlocate hdirectory hway =>
    refine .link target ?_ (by rwa [htree]) ?_
    · rwa [pathOf, htree, hroot, hnames]
    · intro above habove hsame
      obtain ⟨before, hbefore, hplace⟩ :=
        List.mem_map.mp (hplaces ▸ List.mem_map_of_mem (f := Folder.place) habove)
      exact hway before hbefore (hplace.trans hsame)

theorem FileEntry.congr {other : Survey} {otherFolder : Folder} (h : s.FileEntry folder name node)
    (htree : other.tree = s.tree) (hroot : other.root = s.root)
    (hnames : otherFolder.names = folder.names) : other.FileEntry otherFolder name node := by
  cases h with
  | plain contents => exact .plain contents
  | link target hlocate hnode =>
    refine .link target ?_ (by rwa [htree])
    rwa [pathOf, htree, hroot, hnames]

theorem visitDirectory_eq_entered_iff {names : List String} {place : Place} {next : Folder} :
    s.visitDirectory folder names place = .entered next ↔
      s.skips folder.levels names true = false ∧ next = s.enter folder place names := by
  unfold visitDirectory
  cases s.skips folder.levels names true <;> simp [eq_comm]

theorem visitFile_eq_found_iff {names : List String} {f : Finding} :
    s.visitFile folder names = .found f ↔
      s.skips folder.levels names false = false ∧ f = .file names := by
  unfold visitFile
  cases s.skips folder.levels names false <;> simp [eq_comm]

theorem visitFile_ne_entered {names : List String} {next : Folder} :
    s.visitFile folder names ≠ .entered next := by
  unfold visitFile
  split <;> intro h <;> cases h

theorem visitDirectory_ne_found {names : List String} {place : Place} {f : Finding} :
    s.visitDirectory folder names place ≠ .found f := by
  unfold visitDirectory
  split <;> intro h <;> cases h

/-- Which entries are entered, and as what. -/
theorem visit_eq_entered_iff {next : Folder} :
    s.visit way folder name node = .entered next ↔
      ∃ place, s.DirectoryEntry way folder name node place ∧
        s.skips folder.levels (folder.names ++ [name]) true = false ∧
        next = s.enter folder place (folder.names ++ [name]) := by
  cases node with
  | file contents =>
    constructor
    · intro h
      exact absurd h visitFile_ne_entered
    · rintro ⟨place, hentry, -⟩
      cases hentry
  | directory inner =>
    constructor
    · intro h
      exact ⟨_, .plain inner, visitDirectory_eq_entered_iff.mp h⟩
    · rintro ⟨place, hentry, h⟩
      cases hentry
      exact visitDirectory_eq_entered_iff.mpr h
  | link target =>
    unfold visit
    constructor
    · intro h
      dsimp only at h
      split at h
      · cases h
      · next place hlocate =>
        split at h
        · next inner hnode =>
          split at h
          · cases h
          · next hnone =>
            refine ⟨place, .link target hlocate ⟨inner, hnode⟩ ?_,
              visitDirectory_eq_entered_iff.mp h⟩
            intro above habove hsame
            exact absurd (beq_iff_eq.mpr hsame) (List.find?_eq_none.mp hnone above habove)
        · exact absurd h visitFile_ne_entered
    · rintro ⟨place, hentry, h⟩
      cases hentry with
      | link _ hlocate hdirectory hway =>
        obtain ⟨inner, hnode⟩ := hdirectory
        have hnone : (folder :: way).find? (·.place == place) = none := by
          rw [List.find?_eq_none]
          intro above habove hsame
          exact hway above habove (beq_iff_eq.mp hsame)
        simp only [hlocate, hnode, hnone]
        exact visitDirectory_eq_entered_iff.mpr h

/-- Which entries are found as files. -/
theorem visit_eq_file_iff {names : List String} :
    s.visit way folder name node = .found (.file names) ↔
      s.FileEntry folder name node ∧
        s.skips folder.levels (folder.names ++ [name]) false = false ∧
        names = folder.names ++ [name] := by
  have hfile : s.visitFile folder (folder.names ++ [name]) = .found (.file names) ↔
      s.skips folder.levels (folder.names ++ [name]) false = false ∧
        names = folder.names ++ [name] := by
    rw [visitFile_eq_found_iff, Finding.file.injEq]
  cases node with
  | file contents =>
    constructor
    · intro h
      exact ⟨.plain contents, hfile.mp h⟩
    · rintro ⟨-, h⟩
      exact hfile.mpr h
  | directory inner =>
    constructor
    · intro h
      exact absurd h visitDirectory_ne_found
    · rintro ⟨hentry, -⟩
      cases hentry
  | link target =>
    unfold visit
    constructor
    · intro h
      dsimp only at h
      split at h
      · cases h
      · next place hlocate =>
        split at h
        · split at h
          · cases h
          · exact absurd h visitDirectory_ne_found
        · next hdirectory =>
          -- a path leads to a file or a directory, and it is no directory
          obtain ⟨found, hnode, hlink⟩ := settled_of_locate hlocate
          cases found with
          | directory inner => exact absurd hnode (hdirectory inner)
          | link target' => exact absurd rfl (hlink target')
          | file contents => exact ⟨.link target hlocate hnode, hfile.mp h⟩
    · rintro ⟨hentry, h⟩
      cases hentry with
      | link _ hlocate hnode =>
        simp only [hlocate, hnode]
        exact hfile.mpr h

/-! ## Every way is short -/

/-- The number of directories at and below a directory on the way. -/
def size (s : Survey) (folder : Folder) : Nat :=
  ((nodeAt? s.tree.top folder.place).map FileNode.directoryCount).getD 0

theorem size_le (s : Survey) (folder : Folder) : s.size folder ≤ s.tree.top.directoryCount := by
  unfold size
  cases hnode : nodeAt? s.tree.top folder.place with
  | none => exact Nat.zero_le _
  | some node => exact directoryCount_le_of_nodeAt? hnode

/-- A directory on the way, with the number of links that its path may still lead through: whatever
path goes on from the scan root through its names goes on from its place. -/
structure Standing (s : Survey) (folder : Folder) (links : Nat) : Prop where
  isName : ∀ name ∈ folder.names, Path.isName name = true
  onward : ∀ more, s.tree.walkTo linkLimit [] (Path.parts s.root ++ (folder.names ++ more)) =
    s.tree.walkTo links folder.place more

theorem Standing.isName_concat {links : Nat} (h : s.Standing folder links)
    (hwf : s.tree.WellFormed) (hmem : (name, node) ∈ s.entries folder) :
    ∀ n ∈ folder.names ++ [name], Path.isName n = true := by
  obtain ⟨entries, hnode, hentry⟩ := mem_entries_iff.mp hmem
  intro n hn
  rcases List.mem_append.mp hn with hfolder | hlast
  · exact h.isName n hfolder
  · obtain rfl := List.mem_singleton.mp hlast
    exact (FileNode.wellFormed_of_mem (hwf.list hnode) hentry).1

theorem pathOf_concat (s : Survey) (names : List String) (name : String) :
    s.pathOf (names ++ [name]) = Path.join s.root ("/".intercalate (names ++ [name])) := by
  simp [pathOf]

theorem standing_start (h : s.start? = some folder) :
    ∃ links, links ≤ linkLimit ∧ s.Standing folder links := by
  unfold start? at h
  split at h
  · cases h
  · next place hlocate =>
    cases h
    obtain ⟨left, hle, hmore⟩ := walkTo_parts_of_locate hlocate
    exact ⟨left, hle, fun _ hname => (List.not_mem_nil hname).elim, hmore⟩

theorem names_of_start? (h : s.start? = some folder) : folder.names = [] := by
  unfold start? at h
  split at h
  · cases h
  · cases h
    rfl

theorem size_of_directory {entries : List (String × FileNode)}
    (hnode : nodeAt? s.tree.top folder.place = some (.directory entries)) :
    s.size folder = FileNode.directoryCountList entries + 1 := by
  rw [size, hnode]
  rfl

/-- A directory that is entered leaves fewer steps to take than the one that holds it. -/
theorem Standing.enter {links : Nat} {place : Place} (h : s.Standing folder links)
    (hwf : s.tree.WellFormed) (hmem : (name, node) ∈ s.entries folder)
    (hentry : s.DirectoryEntry way folder name node place) :
    let next := s.enter folder place (folder.names ++ [name])
    ∃ left, s.Standing next left ∧
      left * s.tree.top.directoryCount + s.size next + 1 ≤
        links * s.tree.top.directoryCount + s.size folder := by
  intro next
  have hnames := h.isName_concat hwf hmem
  have hfound := nodeAt?_of_mem_entries hwf hmem
  obtain ⟨entries, hnode, hmem⟩ := mem_entries_iff.mp hmem
  have hsize := size_of_directory hnode
  have honward (more : List String) :
      s.tree.walkTo linkLimit [] (Path.parts s.root ++ (folder.names ++ [name] ++ more)) =
        s.tree.walkTo links folder.place (name :: more) := by
    rw [List.append_assoc]
    exact h.onward (name :: more)
  cases hentry with
  | plain inner =>
    refine ⟨links, ⟨hnames, fun more => ?_⟩, ?_⟩
    · refine (honward more).trans ?_
      exact walkTo_congr (follow_name hwf hfound (by simp) more)
    · have hplace : nodeAt? s.tree.top next.place = some (.directory inner) := hfound
      have hle := FileNode.directoryCount_le_of_mem hmem
      rw [FileNode.directoryCount] at hle
      have hnext := size_of_directory hplace
      omega
  | link target hlocate hdirectory hway =>
    have hwalk := (locate_eq_ok_iff.mp hlocate).2
    rw [pathOf_concat, Path.steps_join s.root hnames (by simp), h.onward] at hwalk
    obtain ⟨left, hmore, hle, hplain⟩ := walkTo_append hwalk
    refine ⟨left, ⟨hnames, fun more => ?_⟩, ?_⟩
    · exact (honward more).trans (hmore more)
    · have hlt : left < links := by
        apply Nat.lt_of_le_of_ne hle
        intro heq
        have hfollow := hplain heq
        rw [follow_link hwf hfound] at hfollow
        cases hfollow
      have hmul : (left + 1) * s.tree.top.directoryCount ≤ links * s.tree.top.directoryCount :=
        Nat.mul_le_mul_right _ hlt
      rw [Nat.succ_mul] at hmul
      have hnext := s.size_le next
      omega

/-- On every way the steps taken and the steps left to take stay within the limit. -/
theorem Reaches.standing (h : s.Reaches way folder) (hwf : s.tree.WellFormed) :
    ∃ links, s.Standing folder links ∧
      way.length + (links * s.tree.top.directoryCount + s.size folder) ≤ s.stepLimit := by
  induction h with
  | @start folder hstart =>
    obtain ⟨links, hle, hstanding⟩ := standing_start hstart
    refine ⟨links, hstanding, ?_⟩
    have hmul := Nat.mul_le_mul_right s.tree.top.directoryCount hle
    have hsize := s.size_le folder
    rw [stepLimit, Nat.succ_mul, List.length_nil]
    omega
  | enter _ hmem hvisit ih =>
    obtain ⟨links, hstanding, hle⟩ := ih
    obtain ⟨place, hentry, -, rfl⟩ := visit_eq_entered_iff.mp hvisit
    obtain ⟨left, hnext, hless⟩ := hstanding.enter hwf hmem hentry
    refine ⟨left, hnext, ?_⟩
    rw [List.length_cons]
    omega

/-! ## Files on the way -/

theorem Reaches.locate (h : s.Reaches way folder) : ∃ place, s.tree.locate s.root = .ok place := by
  induction h with
  | start hstart =>
    unfold start? at hstart
    split at hstart
    · cases hstart
    · next place hlocate => exact ⟨place, hlocate⟩
  | enter _ _ _ ih => exact ih

/-- The names of a file that is come upon. -/
theorem ComesUpon.isName {names : List String} (h : s.ComesUpon (.file names))
    (hwf : s.tree.WellFormed) : names ≠ [] ∧ ∀ name ∈ names, Path.isName name = true := by
  obtain ⟨way, folder, name, node, hreach, hmem, hvisit⟩ := h
  obtain ⟨-, -, rfl⟩ := visit_eq_file_iff.mp hvisit
  obtain ⟨links, hstanding, -⟩ := hreach.standing hwf
  exact ⟨by simp, hstanding.isName_concat hwf hmem⟩

/-- What is come upon as a file is a regular file, through links. -/
theorem ComesUpon.isFile {names : List String} (h : s.ComesUpon (.file names))
    (hwf : s.tree.WellFormed) :
    s.tree.isFile (Path.join s.root ("/".intercalate names)) = true := by
  obtain ⟨way, folder, name, node, hreach, hmem, hvisit⟩ := h
  obtain ⟨hentry, -, rfl⟩ := visit_eq_file_iff.mp hvisit
  rw [← pathOf_concat, isFile_iff]
  cases hentry with
  | link target hlocate hnode => exact ⟨_, _, hlocate, hnode⟩
  | plain contents =>
    obtain ⟨links, hstanding, -⟩ := hreach.standing hwf
    have hnames := hstanding.isName_concat hwf hmem
    have hfound := nodeAt?_of_mem_entries hwf hmem
    obtain ⟨place, hroot⟩ := hreach.locate
    refine ⟨folder.place ++ [name], contents, locate_eq_ok_iff.mpr ⟨?_, ?_⟩, hfound⟩
    · rw [pathOf_concat]
      exact Path.relative_join (locate_eq_ok_iff.mp hroot).1 hnames (by simp)
    · rw [pathOf_concat, Path.steps_join s.root hnames (by simp), hstanding.onward]
      rw [walkTo_eq_ok_iff]
      exact .arrived (follow_name hwf hfound (by simp) [])

/-! ## The findings -/

theorem mem_below_succ_iff {fuel : Nat} {f : Finding} :
    f ∈ s.below (fuel + 1) way folder ↔
      ∃ name node, (name, node) ∈ s.entries folder ∧
        (s.visit way folder name node = .found f ∨
          ∃ next, s.visit way folder name node = .entered next ∧
            f ∈ s.below fuel (folder :: way) next) := by
  rw [below, List.mem_flatMap]
  constructor
  · rintro ⟨⟨name, node⟩, hmem, hf⟩
    refine ⟨name, node, hmem, ?_⟩
    dsimp only at hf
    split at hf
    · cases hf
    · next hvisit =>
      obtain rfl := List.mem_singleton.mp hf
      exact Or.inl hvisit
    · next next hvisit => exact Or.inr ⟨next, hvisit, hf⟩
  · rintro ⟨name, node, hmem, hvisit⟩
    refine ⟨(name, node), hmem, ?_⟩
    rcases hvisit with hfound | ⟨next, hentered, hf⟩
    · simp [hfound]
    · simpa [hentered] using hf

theorem below_mono {fuel more : Nat} {f : Finding} (hle : fuel ≤ more)
    (h : f ∈ s.below fuel way folder) : f ∈ s.below more way folder := by
  induction fuel generalizing more way folder with
  | zero => cases h
  | succ fuel ih =>
    obtain ⟨more, rfl⟩ : ∃ n, more = n + 1 := ⟨more - 1, by omega⟩
    obtain ⟨name, node, hmem, hvisit⟩ := mem_below_succ_iff.mp h
    refine mem_below_succ_iff.mpr ⟨name, node, hmem, ?_⟩
    rcases hvisit with hfound | ⟨next, hentered, hf⟩
    · exact Or.inl hfound
    · exact Or.inr ⟨next, hentered, ih (by omega) hf⟩

theorem comesUpon_of_mem_below {fuel : Nat} {f : Finding} (hreach : s.Reaches way folder)
    (h : f ∈ s.below fuel way folder) : s.ComesUpon f := by
  induction fuel generalizing way folder with
  | zero => cases h
  | succ fuel ih =>
    obtain ⟨name, node, hmem, hvisit⟩ := mem_below_succ_iff.mp h
    rcases hvisit with hfound | ⟨next, hentered, hf⟩
    · exact ⟨way, folder, name, node, hreach, hmem, hfound⟩
    · exact ih (.enter hreach hmem hentered) hf

/-- What is found from a directory on the way is found from the start, with as many more steps as
the way is long. -/
theorem mem_below_of_reaches {fuel : Nat} {f : Finding} (hreach : s.Reaches way folder)
    (h : f ∈ s.below fuel way folder) :
    ∃ first, s.start? = some first ∧ f ∈ s.below (way.length + fuel) [] first := by
  induction hreach generalizing fuel with
  | start hstart => exact ⟨_, hstart, by simpa using h⟩
  | @enter way folder next name node _ hmem hvisit ih =>
    have hbelow : f ∈ s.below (fuel + 1) way folder :=
      mem_below_succ_iff.mpr ⟨name, node, hmem, Or.inr ⟨next, hvisit, h⟩⟩
    obtain ⟨first, hstart, hf⟩ := ih hbelow
    refine ⟨first, hstart, ?_⟩
    rwa [List.length_cons, Nat.add_right_comm]

/-- The findings of a walk are what it comes upon, whatever the step limit. -/
theorem mem_findings_iff (hwf : s.tree.WellFormed) {f : Finding} :
    f ∈ s.findings ↔ s.ComesUpon f := by
  unfold findings
  constructor
  · intro h
    split at h
    · cases h
    · next first hstart => exact comesUpon_of_mem_below (.start hstart) h
  · rintro ⟨way, folder, name, node, hreach, hmem, hvisit⟩
    have hone : f ∈ s.below 1 way folder :=
      mem_below_succ_iff.mpr ⟨name, node, hmem, Or.inl hvisit⟩
    obtain ⟨first, hstart, hf⟩ := mem_below_of_reaches hreach hone
    obtain ⟨links, -, hle⟩ := hreach.standing hwf
    obtain ⟨entries, hnode, -⟩ := mem_entries_iff.mp hmem
    have hsize := size_of_directory hnode
    rw [hstart]
    exact below_mono (by omega) hf

end PackageUsage.Discovery.Survey
