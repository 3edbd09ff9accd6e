import PackageUsage.Proofs.Discovery.Includes
import PackageUsage.Proofs.FileTree.Agreement

/-!
# Disregarded ignore files

Where ignore files are respected they only keep files out. Where they are not, no file is read and
the walk depends on the directories, links and files of the tree alone: in trees that agree but for
their ignore files it comes upon the same files, as far as they are files in both trees. Only a link
that leads to an ignore file is a file in one of them and not in the other.
-/

namespace PackageUsage

namespace Discovery

/-- A directory on the way without the ignore files that bear on its entries. -/
def Folder.bare (folder : Folder) : Folder :=
  { folder with levels := [] }

namespace Survey

variable {s : Survey} {way : List Folder} {folder : Folder} {name : String} {node : FileNode}

/-! ## The same walk without ignore files -/

/-- The same walk, which disregards ignore files. -/
def disregarding (s : Survey) : Survey :=
  { s with respectIgnoreFiles := false }

theorem skips_disregarding {levels : List Level} {names : List String} {isDirectory : Bool}
    (h : s.skips levels names isDirectory = false) :
    s.disregarding.skips [] names isDirectory = false := by
  unfold skips at h ⊢
  rw [Bool.or_eq_false_iff] at h ⊢
  exact ⟨h.1, rfl⟩

theorem map_place_bare (way : List Folder) :
    (way.map Folder.bare).map Folder.place = way.map Folder.place := by
  rw [List.map_map]
  rfl

theorem start?_disregarding (h : s.start? = some folder) :
    s.disregarding.start? = some folder.bare := by
  unfold start? at h ⊢
  have hlocate : s.disregarding.tree.locate s.disregarding.root = s.tree.locate s.root := rfl
  rw [hlocate]
  split at h
  · cases h
  · next place hplace =>
    cases h
    rfl

/-- Every directory that is entered is entered without ignore files. -/
theorem Reaches.disregarding (h : s.Reaches way folder) :
    s.disregarding.Reaches (way.map Folder.bare) folder.bare := by
  induction h with
  | start hstart => exact .start (start?_disregarding hstart)
  | @enter way folder next name node _ hmem hvisit ih =>
    obtain ⟨place, hentry, hskips, rfl⟩ := visit_eq_entered_iff.mp hvisit
    refine .enter ih hmem (visit_eq_entered_iff.mpr ⟨place, ?_, skips_disregarding hskips, rfl⟩)
    exact hentry.congr rfl rfl rfl (congrArg (List.cons folder.place) (map_place_bare way))

theorem ComesUpon.disregarding {names : List String} (h : s.ComesUpon (.file names)) :
    s.disregarding.ComesUpon (.file names) := by
  obtain ⟨way, folder, name, node, hreach, hmem, hvisit⟩ := h
  obtain ⟨hentry, hskips, hnames⟩ := visit_eq_file_iff.mp hvisit
  refine ⟨_, _, name, node, hreach.disregarding, hmem, visit_eq_file_iff.mpr ⟨?_, ?_, hnames⟩⟩
  · exact hentry.congr rfl rfl rfl
  · exact skips_disregarding hskips

/-! ## The same walk through another tree -/

/-- Where an entry that is a directory, or a link to one, leads to. -/
theorem DirectoryEntry.leadsTo {place : Place} (hwf : s.tree.WellFormed)
    (hreach : s.Reaches way folder) (hmem : (name, node) ∈ s.entries folder)
    (hentry : s.DirectoryEntry way folder name node place) :
    s.tree.DirectoryAt place ∧ ∃ links ≤ FileTree.linkLimit,
      s.tree.LeadsTo links folder.place [name] place := by
  cases hentry with
  | plain inner =>
    have hfound := nodeAt?_of_mem_entries hwf hmem
    exact ⟨⟨inner, hfound⟩, 0, Nat.zero_le _, FileTree.leadsTo_name hwf hfound (by simp)⟩
  | link target hlocate hdirectory hway =>
    obtain ⟨links, hstanding, hle⟩ := hreach.standing hwf
    refine ⟨hdirectory, links, ?_, ?_⟩
    · -- the directory itself takes one of the steps
      obtain ⟨entries, hfolder, -⟩ := mem_entries_iff.mp hmem
      have hsize := size_of_directory hfolder
      have hcount := s.size_le folder
      rw [stepLimit] at hle
      have hlt : links * s.tree.top.directoryCount <
          (FileTree.linkLimit + 1) * s.tree.top.directoryCount := by omega
      exact Nat.lt_succ_iff.mp (Nat.lt_of_mul_lt_mul_right hlt)
    · have hwalk := (FileTree.locate_eq_ok_iff.mp hlocate).2
      rw [pathOf_concat, Path.steps_join s.root (hstanding.isName_concat hwf hmem) (by simp),
        hstanding.onward] at hwalk
      exact FileTree.walkTo_eq_ok_iff.mp hwalk

theorem enter_moved_of_disregarded {other : FileTree} {place : Place} {names : List String}
    (hrespect : s.respectIgnoreFiles = false) :
    (s.moved other).enter folder place names = s.enter folder place names := by
  apply enter_moved
  intro hrespected
  rw [hrespect] at hrespected
  cases hrespected

section Kept
variable {other : FileTree} {apart : Place → Prop} (h : s.tree.KeptApart other apart)
  (hflat : s.tree.Flat apart) (hwf : s.tree.WellFormed)
include h hwf

theorem mem_entries_kept (hmem : (name, node) ∈ s.entries folder)
    (hplace : ¬ apart (folder.place ++ [name])) :
    ∃ node', (name, node') ∈ (s.moved other).entries folder ∧ FileTree.Alike node node' := by
  rcases h _ _ (nodeAt?_of_mem_entries hwf hmem) with ⟨node', hnode', halike⟩ | hapart
  · exact ⟨node', mem_entries_of_nodeAt? hnode', halike⟩
  · exact absurd hapart hplace

include hflat

theorem DirectoryEntry.kept {node' : FileNode} {place : Place}
    (hentry : s.DirectoryEntry way folder name node place) (halike : FileTree.Alike node node') :
    (s.moved other).DirectoryEntry way folder name node' place := by
  cases hentry with
  | plain inner =>
    cases halike with
    | directory _ inner' => exact .plain inner'
  | link target hlocate hdirectory hway =>
    cases halike
    exact .link target (h.locate hflat hwf hlocate (Or.inl hdirectory))
      (h.directoryAt hflat hwf hdirectory) hway

variable (hrespect : s.respectIgnoreFiles = false) (hroot : s.tree.isDirectory s.root = true)
include hrespect hroot

theorem start?_kept (hstart : s.start? = some folder) : (s.moved other).start? = some folder := by
  obtain ⟨there, hlocate, hthere⟩ := FileTree.isDirectory_iff.mp hroot
  have hlocate' : (s.moved other).tree.locate (s.moved other).root = .ok there :=
    h.locate hflat hwf hlocate (Or.inl hthere)
  have hrespect' : (s.moved other).respectIgnoreFiles = false := hrespect
  unfold start? at hstart ⊢
  rw [hlocate] at hstart
  rw [hlocate', ← hstart]
  dsimp only
  rw [hrespect, hrespect', enter_moved_of_disregarded hrespect]
  rfl

/-- A walk that reads no ignore files enters the same directories. -/
theorem Reaches.kept (hreach : s.Reaches way folder) : (s.moved other).Reaches way folder := by
  induction hreach with
  | start hstart => exact .start (start?_kept h hflat hwf hrespect hroot hstart)
  | @enter way folder next name node hbefore hmem hvisit ih =>
    obtain ⟨place, hentry, hskips, rfl⟩ := visit_eq_entered_iff.mp hvisit
    obtain ⟨hdirectory, links, hlinks, hleads⟩ := hentry.leadsTo hwf hbefore hmem
    have hplace : ¬ apart (folder.place ++ [name]) := by
      intro hapart
      exact hflat.entry _ _ _ _ _ (nodeAt?_of_mem_entries hwf hmem) hapart hlinks hleads hdirectory
    obtain ⟨node', hmem', halike⟩ := mem_entries_kept h hwf hmem hplace
    refine .enter ih hmem' (visit_eq_entered_iff.mpr
      ⟨place, hentry.kept h hflat hwf halike, hskips, ?_⟩)
    exact (enter_moved_of_disregarded hrespect).symm

/-- It comes upon the same files, as far as their own names are kept and their paths still lead to
files. -/
theorem ComesUpon.kept {names : List String} (hcomes : s.ComesUpon (.file names))
    (hlast : ∀ place name, names.getLast? = some name → ¬ apart (place ++ [name]))
    (hfile : other.isFile (Path.join s.root ("/".intercalate names)) = true) :
    (s.moved other).ComesUpon (.file names) := by
  obtain ⟨way, folder, name, node, hreach, hmem, hvisit⟩ := hcomes
  obtain ⟨hentry, hskips, rfl⟩ := visit_eq_file_iff.mp hvisit
  obtain ⟨node', hmem', halike⟩ :=
    mem_entries_kept h hwf hmem (hlast folder.place name (by simp))
  refine ⟨way, folder, name, node', hreach.kept h hflat hwf hrespect hroot, hmem',
    visit_eq_file_iff.mpr ⟨?_, hskips, rfl⟩⟩
  cases hentry with
  | plain contents =>
    cases halike with
    | file _ contents' => exact .plain contents'
  | link target =>
    cases halike
    rw [← pathOf_concat] at hfile
    obtain ⟨there, contents, hlocate, hnode⟩ := FileTree.isFile_iff.mp hfile
    exact .link target hlocate hnode

end Kept

end Survey

/-- No ignore file is a source file. -/
theorem IsSource.not_mem_ignoreNames {root name : String} {patterns names : List String}
    {file : SourceFile} (h : IsSource root patterns names file)
    (hnames : ∀ name ∈ names, Path.isName name = true) (hlast : names.getLast? = some name) :
    name ∉ FileTree.ignoreNames := by
  obtain ⟨front, rfl⟩ := List.getLast?_eq_some_iff.mp hlast
  obtain ⟨extension, hextension, -⟩ := h.grammar
  rw [h.relative, Path.extension?_concat hnames] at hextension
  have hnone : ∀ name ∈ FileTree.ignoreNames, Path.extensionOf? name = none := by decide
  intro hmem
  rw [hnone name hmem] at hextension
  cases hextension

end Discovery

open Discovery

section Disregards
variable {a b : FileTree} {root : String} {options : DiscoveryOptions} {apart : Place → Prop}

theorem exists_discover_kept (h : a.KeptApart b apart) (hflat : a.Flat apart) (hwf : a.WellFormed)
    (hfound : ∃ result, discover a root options = .ok result) :
    ∃ result, discover b root options = .ok result := by
  obtain ⟨hroot, hpatterns⟩ := exists_discover_iff.mp hfound
  exact exists_discover_iff.mpr ⟨h.isDirectory hflat hwf hroot, hpatterns⟩

theorem mem_discover_kept (h : a.KeptApart b apart) (hflat : a.Flat apart) (hwf : a.WellFormed)
    (hwf' : b.WellFormed) (hrespect : options.respectIgnoreFiles = false)
    (hnames : ∀ place name, apart (place ++ [name]) → name ∈ FileTree.ignoreNames)
    {first second : List SourceFile} {firstEvents secondEvents : List LogEvent}
    (hfirst : discover a root options = .ok (first, firstEvents))
    (hsecond : discover b root options = .ok (second, secondEvents)) {file : SourceFile}
    (hfile : file ∈ first) (hkept : b.isFile file.path = true) : file ∈ second := by
  obtain ⟨hroot, -, excludes, -, hexcludes, -⟩ := discover_eq_ok_iff_outcome.mp hfirst
  rw [mem_discover_iff hwf hfirst hexcludes] at hfile
  rw [mem_discover_iff hwf' hsecond hexcludes]
  obtain ⟨names, hcomes, hsource⟩ := hfile
  rw [hsource.path, hsource.relative] at hkept
  refine ⟨names, hcomes.kept h hflat hwf hrespect hroot ?_ hkept, hsource⟩
  intro place name hlast hapart
  exact hsource.not_mem_ignoreNames (hcomes.isName hwf).2 hlast (hnames place name hapart)

/-- Ignore files only keep files out, and discovery never fails because of them. -/
theorem discover_disregarding (hwf : a.WellFormed) {obeying : List SourceFile}
    {events : List LogEvent}
    (h : discover a root { options with respectIgnoreFiles := true } = .ok (obeying, events)) :
    ∃ all events', discover a root { options with respectIgnoreFiles := false } =
      .ok (all, events') ∧ obeying ⊆ all := by
  obtain ⟨hroot, globs, excludes, hglobs, hexcludes, -⟩ := discover_eq_ok_iff_outcome.mp h
  obtain ⟨⟨all, events'⟩, hall⟩ :
      ∃ result, discover a root { options with respectIgnoreFiles := false } = .ok result :=
    exists_discover_iff.mpr ⟨hroot, ⟨globs, hglobs⟩, excludes, hexcludes⟩
  refine ⟨all, events', hall, ?_⟩
  intro file hfile
  rw [mem_discover_iff hwf h hexcludes] at hfile
  rw [mem_discover_iff hwf hall hexcludes]
  obtain ⟨names, hcomes, hsource⟩ := hfile
  exact ⟨names, hcomes.disregarding, hsource⟩

theorem name_of_ignoreFileAt {place : Place} {name : String}
    (h : a.IgnoreFileAt (place ++ [name])) : name ∈ FileTree.ignoreNames := by
  obtain ⟨⟨last, hmem, hlast⟩, -⟩ := h
  rw [List.getLast?_concat] at hlast
  cases hlast
  exact hmem

/-- What is found in one of two trees that agree but for their ignore files is found in the other
one too, if it is a file there. -/
theorem mem_discover_of_agrees (h : a.AgreesButIgnoreFiles b) (hwf : a.WellFormed)
    (hwf' : b.WellFormed) (hrespect : options.respectIgnoreFiles = false)
    {first second : List SourceFile} {firstEvents secondEvents : List LogEvent}
    (hfirst : discover a root options = .ok (first, firstEvents))
    (hsecond : discover b root options = .ok (second, secondEvents)) {file : SourceFile}
    (hfile : file ∈ first) (hkept : b.isFile file.path = true) : file ∈ second :=
  mem_discover_kept h.kept (FileTree.flat_ignoreFileAt hwf) hwf hwf' hrespect
    (fun _ _ => name_of_ignoreFileAt) hfirst hsecond hfile hkept

theorem isFile_of_mem_discover (hwf : a.WellFormed) {files : List SourceFile}
    {events : List LogEvent} (h : discover a root options = .ok (files, events))
    {file : SourceFile} (hfile : file ∈ files) : a.isFile file.path = true := by
  obtain ⟨-, -, excludes, -, hexcludes, -⟩ := discover_eq_ok_iff_outcome.mp h
  obtain ⟨names, hcomes, hsource⟩ := (mem_discover_iff hwf h hexcludes).mp hfile
  rw [hsource.path, hsource.relative]
  exact hcomes.isFile hwf

theorem subset_discover_of_sameButContents (h : a.SameButContents b) (hwf : a.WellFormed)
    (hwf' : b.WellFormed) (hrespect : options.respectIgnoreFiles = false)
    {first second : List SourceFile} {firstEvents secondEvents : List LogEvent}
    (hfirst : discover a root options = .ok (first, firstEvents))
    (hsecond : discover b root options = .ok (second, secondEvents)) : first ⊆ second := by
  have hflat := a.flat_nowhere
  intro file hfile
  apply mem_discover_kept h.kept hflat hwf hwf' hrespect (fun _ _ => False.elim) hfirst hsecond hfile
  exact h.kept.isFile hflat hwf (fun _ => id) (isFile_of_mem_discover hwf hfirst hfile)

/-- Ignore files only keep files out. Where they are disregarded, they make no difference to what
is a file with and without them, and it makes no difference at all what any file holds. -/
theorem ignore_files_disregarded (root : String) (options : DiscoveryOptions) :
    let found (tree : FileTree) (respectIgnoreFiles : Bool) :=
      discover tree root { options with respectIgnoreFiles }
    (∀ tree, tree.WellFormed → ∀ obeying events, found tree true = .ok (obeying, events) →
      ∃ all events', found tree false = .ok (all, events') ∧ obeying ⊆ all) ∧
    (∀ a b, a.WellFormed → b.WellFormed → a.AgreesButIgnoreFiles b →
      ((∃ result, found a false = .ok result) ↔ ∃ result, found b false = .ok result) ∧
      ∀ first firstEvents second secondEvents, found a false = .ok (first, firstEvents) →
        found b false = .ok (second, secondEvents) →
        first.filter (fun file => b.isFile file.path) =
          second.filter (fun file => a.isFile file.path)) ∧
    ∀ a b, a.WellFormed → b.WellFormed → a.SameButContents b →
      ∀ files events, found a false = .ok (files, events) →
        ∃ events', found b false = .ok (files, events') := by
  intro found
  refine ⟨?_, ?_, ?_⟩
  · intro tree hwf obeying events h
    exact discover_disregarding hwf h
  · intro a b hwf hwf' h
    refine ⟨⟨?_, ?_⟩, ?_⟩
    · exact exists_discover_kept h.kept (FileTree.flat_ignoreFileAt hwf) hwf
    · exact exists_discover_kept h.back (FileTree.flat_ignoreFileAt hwf') hwf'
    · intro first firstEvents second secondEvents hfirst hsecond
      apply ((pairwise_discover hfirst).filter _).eq_of_mem_iff ((pairwise_discover hsecond).filter _)
      intro file
      rw [List.mem_filter, List.mem_filter]
      constructor
      · rintro ⟨hfile, hkept⟩
        exact ⟨mem_discover_of_agrees h hwf hwf' rfl hfirst hsecond hfile hkept,
          isFile_of_mem_discover hwf hfirst hfile⟩
      · rintro ⟨hfile, hkept⟩
        exact ⟨mem_discover_of_agrees h.symm hwf' hwf rfl hsecond hfirst hfile hkept,
          isFile_of_mem_discover hwf' hsecond hfile⟩
  · intro a b hwf hwf' h files events hfiles
    obtain ⟨⟨others, events'⟩, hothers⟩ :=
      exists_discover_kept h.kept a.flat_nowhere hwf ⟨_, hfiles⟩
    have hsame : files = others := by
      apply (pairwise_discover hfiles).eq_of_mem_iff (pairwise_discover hothers)
      intro file
      constructor
      · intro hfile
        exact subset_discover_of_sameButContents h hwf hwf' rfl hfiles hothers hfile
      · intro hfile
        exact subset_discover_of_sameButContents h.symm hwf' hwf rfl hothers hfiles hfile
    rw [hsame]
    exact ⟨events', hothers⟩

end Disregards

namespace IgnoreFileSample

/-- A file, and a link that leads to a file only where there is an ignore file. -/
def bare : FileTree :=
  { entries := [("a.ts", .link ".ignore"), ("b.ts", .file .empty)] }

def ignoring (lines : String) : FileTree :=
  { entries := FileTree.putAt (.file lines.toUTF8) [".ignore"] bare.entries }

def fileA : SourceFile :=
  { path := "./a.ts", relative := "a.ts", language := .typescript }

def fileB : SourceFile :=
  { path := "./b.ts", relative := "b.ts", language := .typescript }

theorem discover_samples :
    (∃ events, discover bare "." { respectIgnoreFiles := false } = .ok ([fileB], events)) ∧
    (∃ events, discover (ignoring "b.ts\n") "." { respectIgnoreFiles := false } =
      .ok ([fileA, fileB], events)) ∧
    ∃ events, discover (ignoring "b.ts\n") "." { respectIgnoreFiles := true } =
      .ok ([fileA], events) :=
  ⟨discover_of_sifted (by decide +kernel) (by decide),
    discover_of_sifted (by decide +kernel) (by decide),
    discover_of_sifted (by decide +kernel) (by decide)⟩

theorem agreesButIgnoreFiles_ignoring : bare.AgreesButIgnoreFiles (ignoring "b.ts\n") :=
  FileTree.agreesButIgnoreFiles_putAt [] rfl rfl (by decide) (by decide)

end IgnoreFileSample

open IgnoreFileSample in
theorem ignore_files_disregarded_b :
    (∃ all events, discover (ignoring "b.ts\n") "." { respectIgnoreFiles := false } =
      .ok (all, events) ∧ [fileA] ⊆ all) ∧
    [fileB].filter (fun file => (ignoring "b.ts\n").isFile file.path) =
      [fileA, fileB].filter (fun file => bare.isFile file.path) ∧
    ∃ events, discover (ignoring "!b.ts\n") "." { respectIgnoreFiles := false } =
      .ok ([fileA, fileB], events) := by
  obtain ⟨⟨bareEvents, hbare⟩, ⟨events, hignoring⟩, obeyingEvents, hobeying⟩ := discover_samples
  have hwf : bare.WellFormed := by decide
  have hwf' : (ignoring "b.ts\n").WellFormed := by decide
  obtain ⟨hsubset, hagrees, hcontents⟩ := ignore_files_disregarded "." {}
  refine ⟨hsubset _ hwf' _ _ hobeying, ?_, ?_⟩
  · obtain ⟨-, hsame⟩ := hagrees _ _ hwf hwf' agreesButIgnoreFiles_ignoring
    exact hsame _ _ _ _ hbare hignoring
  · exact hcontents _ _ hwf' (by decide)
      (FileTree.sameButContents_putAt [] rfl rfl _ _) _ _ hignoring

open IgnoreFileSample in
/-- A link to an ignore file is found as long as that file is there. -/
theorem ignore_file_found_through_link :
    ¬ ∀ (a b : FileTree) (root : String) (options : DiscoveryOptions),
      a.WellFormed → b.WellFormed → a.AgreesButIgnoreFiles b →
      options.respectIgnoreFiles = false →
      ∀ first firstEvents second secondEvents,
        discover a root options = .ok (first, firstEvents) →
        discover b root options = .ok (second, secondEvents) → first = second := by
  obtain ⟨⟨bareEvents, hbare⟩, ⟨events, hignoring⟩, -⟩ := discover_samples
  intro h
  have hsame := h bare (ignoring "b.ts\n") "." { respectIgnoreFiles := false } (by decide)
    (by decide) agreesButIgnoreFiles_ignoring rfl _ _ _ _ hbare hignoring
  exact absurd hsame (by decide)

end PackageUsage
