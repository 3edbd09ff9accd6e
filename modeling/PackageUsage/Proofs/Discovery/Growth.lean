import PackageUsage.Proofs.Discovery.Walk
import PackageUsage.Proofs.FileTree.Growth

/-!
# Walks through a tree that has grown

A walk through a tree that has grown enters every directory and comes upon every file that it did
before, as long as the ignore files on its way read the same. They do where no path leads anywhere
that it did not lead before.
-/

namespace PackageUsage.Discovery

/-! ## Ignore files in trees in which all paths lead alike -/

section Alike
variable {a b : FileTree} (h : a.LeadsAlike b)
include h

theorem ofFile_congr (path : String) : IgnoreRules.ofFile b path = IgnoreRules.ofFile a path := by
  unfold IgnoreRules.ofFile
  rcases h.readBytes_cases path with ⟨contents, ha, hb⟩ | ⟨e, e', ha, hb⟩ <;> rw [ha, hb]

theorem firstLine?_congr (path : String) : firstLine? b path = firstLine? a path := by
  unfold firstLine?
  rcases h.readBytes_cases path with ⟨contents, ha, hb⟩ | ⟨e, e', ha, hb⟩ <;> rw [ha, hb]

theorem repositoryFiles?_congr (directory : String) :
    repositoryFiles? b directory = repositoryFiles? a directory := by
  simp only [repositoryFiles?, h.isFile_eq, firstLine?_congr h]

theorem Level.read_congr (directory : String) :
    Level.read b directory = Level.read a directory := by
  funext depth above
  simp only [Level.read, ofFile_congr h, repositoryFiles?_congr h, h.exists?_eq]

end Alike

namespace Survey

/-- The ignore files on the way of a walk read the same in another tree. -/
structure SameLevels (s : Survey) (other : FileTree) : Prop where
  above : ∀ place, s.tree.locate s.root = .ok place →
    levelsAbove other place = levelsAbove s.tree place
  entered : ∀ way folder, s.Reaches way folder →
    Level.read other (s.pathOf folder.names) = Level.read s.tree (s.pathOf folder.names)

theorem sameLevels_of_leadsAlike {s : Survey} {other : FileTree} (h : s.tree.LeadsAlike other) :
    s.SameLevels other where
  above place _ := by simp only [levelsAbove, Level.read_congr h]
  entered _ folder _ := Level.read_congr h (s.pathOf folder.names)

variable {s : Survey} {other : FileTree} {way : List Folder} {folder : Folder}

/-- The same walk through another tree. -/
def moved (s : Survey) (other : FileTree) : Survey :=
  { s with tree := other }

theorem enter_moved {parent : Folder} {place : Place} {names : List String}
    (h : s.respectIgnoreFiles = true →
      Level.read other (s.pathOf names) = Level.read s.tree (s.pathOf names)) :
    (s.moved other).enter parent place names = s.enter parent place names := by
  unfold enter
  have hmoved : (s.moved other).respectIgnoreFiles = s.respectIgnoreFiles := rfl
  rw [hmoved]
  cases hrespect : s.respectIgnoreFiles with
  | false => rfl
  | true =>
    have hread : Level.read (s.moved other).tree ((s.moved other).pathOf names) =
        Level.read s.tree (s.pathOf names) := h hrespect
    rw [hread]

section Grown
variable (h : s.tree.GrowsTo other)
include h

theorem mem_entries_moved {name : String} {node : FileNode} (hwf : s.tree.WellFormed)
    (hmem : (name, node) ∈ s.entries folder) :
    ∃ node', (name, node') ∈ (s.moved other).entries folder ∧ FileTree.Stays node node' := by
  obtain ⟨node', hnode', hstays⟩ := h _ _ (nodeAt?_of_mem_entries hwf hmem)
  exact ⟨node', mem_entries_of_nodeAt? hnode', hstays⟩

theorem DirectoryEntry.moved {name : String} {node node' : FileNode} {place : Place}
    (hentry : s.DirectoryEntry way folder name node place) (hstays : FileTree.Stays node node') :
    (s.moved other).DirectoryEntry way folder name node' place := by
  cases hentry with
  | plain inner =>
    cases hstays with
    | directory _ inner' => exact .plain inner'
  | link target hlocate hdirectory hway =>
    cases hstays
    exact .link target (h.locate hlocate) (h.directoryAt hdirectory) hway

theorem FileEntry.moved {name : String} {node node' : FileNode}
    (hentry : s.FileEntry folder name node) (hstays : FileTree.Stays node node') :
    (s.moved other).FileEntry folder name node' := by
  cases hentry with
  | plain contents =>
    cases hstays
    exact .plain contents
  | link target hlocate hnode =>
    cases hstays
    exact .link target (h.locate hlocate) (h.file hnode)

theorem start?_moved (hlevels : s.respectIgnoreFiles = true → s.SameLevels other)
    (hstart : s.start? = some folder) : (s.moved other).start? = some folder := by
  have hreach : s.Reaches [] folder := .start hstart
  unfold start? at hstart ⊢
  split at hstart
  · cases hstart
  · next place hlocate =>
    cases hstart
    have hlocate' : (s.moved other).tree.locate (s.moved other).root = .ok place := h.locate hlocate
    have habove : (if (s.moved other).respectIgnoreFiles then
        levelsAbove (s.moved other).tree place else []) =
        if s.respectIgnoreFiles then levelsAbove s.tree place else [] := by
      cases hrespect : s.respectIgnoreFiles with
      | false => simp [Survey.moved, hrespect]
      | true => simpa [Survey.moved, hrespect] using (hlevels hrespect).above place hlocate
    rw [hlocate']
    simp only [habove]
    have hread : s.respectIgnoreFiles = true →
        Level.read other (s.pathOf []) = Level.read s.tree (s.pathOf []) := by
      intro hrespect
      have hentered := (hlevels hrespect).entered [] _ hreach
      exact hentered
    rw [enter_moved hread]

/-- Every directory that is entered is entered still. -/
theorem Reaches.moved (hwf : s.tree.WellFormed)
    (hlevels : s.respectIgnoreFiles = true → s.SameLevels other) (hreach : s.Reaches way folder) :
    (s.moved other).Reaches way folder := by
  induction hreach with
  | start hstart => exact .start (start?_moved h hlevels hstart)
  | enter hbefore hmem hvisit ih =>
    have hnext := Reaches.enter hbefore hmem hvisit
    obtain ⟨place, hentry, hskips, rfl⟩ := visit_eq_entered_iff.mp hvisit
    obtain ⟨node', hmem', hstays⟩ := mem_entries_moved h hwf hmem
    refine .enter ih hmem' (visit_eq_entered_iff.mpr ⟨place, hentry.moved h hstays, hskips, ?_⟩)
    exact (enter_moved fun hrespect => (hlevels hrespect).entered _ _ hnext).symm

/-- Every file that is come upon is come upon still. -/
theorem ComesUpon.moved (hwf : s.tree.WellFormed)
    (hlevels : s.respectIgnoreFiles = true → s.SameLevels other) {names : List String}
    (hfile : s.ComesUpon (.file names)) : (s.moved other).ComesUpon (.file names) := by
  obtain ⟨way, folder, name, node, hreach, hmem, hvisit⟩ := hfile
  obtain ⟨hentry, hskips, hnames⟩ := visit_eq_file_iff.mp hvisit
  obtain ⟨node', hmem', hstays⟩ := mem_entries_moved h hwf hmem
  exact ⟨way, folder, name, node', hreach.moved h hwf hlevels, hmem',
    visit_eq_file_iff.mpr ⟨hentry.moved h hstays, hskips, hnames⟩⟩

end Grown

end Survey

end PackageUsage.Discovery
