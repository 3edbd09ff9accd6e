import PackageUsage.Proofs.Discovery.Selection
import PackageUsage.Proofs.FileTree.Held

/-!
# Discovery below a directory

A walk that starts at the directory below which a tree is held comes upon the same as a walk that
starts at the top of the tree itself: it enters the same directories, and the ignore files on its
way have the same say. The paths of the discovered files start with other scan roots, and nothing
else about the files differs.

Three things could tell the walks apart. Ignore files in the directories above have a say, and so
has a repository that starts there: the files of repositories further down hold inside it. Links are
followed from the working directory on. And a file in place of the files of a repository names a
directory by a path of its own, which is not seen from the tree: no tree has such a file here.
-/

namespace PackageUsage

/-- The path of a place, from the working directory on. -/
def FileTree.placePath (place : Place) : String :=
  if place.isEmpty then "." else "/".intercalate place

/-- No directory above a place has an entry with a given name. -/
def FileTree.NoneAbove (t : FileTree) (place : Place) (name : String) : Prop :=
  ∀ n < place.length, t.exists? (Path.join (placePath (place.take n)) name) = false

instance (t : FileTree) (place : Place) (name : String) : Decidable (t.NoneAbove place name) :=
  inferInstanceAs (Decidable (∀ n < place.length, _ = false))

namespace Discovery

/-! ## Levels without a say -/

/-- A level has no rules that hold everywhere, and no repository starts there. -/
structure Level.Silent (l : Level) : Prop where
  own : l.own.rules = []
  startsRepository : l.startsRepository = false

section Silent
variable {levels above : List Level} (h : ∀ l ∈ above, l.Silent)
include h

theorem any_startsRepository_append :
    (levels ++ above).any Level.startsRepository = levels.any Level.startsRepository := by
  have hnone : above.any Level.startsRepository = false := by
    rw [List.any_eq_false]
    intro l hl
    simp [(h l hl).startsRepository]
  rw [List.any_append, hnone, Bool.or_false]

theorem findSome?_own_append (names : List String) (isDirectory : Bool) :
    (levels ++ above).findSome? (fun l => l.own.verdict? (l.relative names) isDirectory) =
      levels.findSome? (fun l => l.own.verdict? (l.relative names) isDirectory) := by
  have hnone : above.findSome? (fun l => l.own.verdict? (l.relative names) isDirectory) = none := by
    rw [List.findSome?_eq_none_iff]
    intro l hl
    rw [IgnoreRules.verdict?, (h l hl).own]
    rfl
  rw [List.findSome?_append, hnone, Option.or_none]

omit h in
theorem repositoryLevels_append (hstarts : levels.any Level.startsRepository = true) :
    repositoryLevels (levels ++ above) = repositoryLevels levels := by
  induction levels with
  | nil => cases hstarts
  | cons l levels ih =>
    rw [List.cons_append, repositoryLevels, repositoryLevels]
    split
    · rfl
    · next hl =>
      rw [List.any_cons, Bool.eq_false_iff.mpr hl, Bool.false_or] at hstarts
      rw [ih hstarts]

/-- Levels without a say above the others do not matter. -/
theorem verdict?_append (names : List String) (isDirectory : Bool) :
    verdict? (levels ++ above) names isDirectory = verdict? levels names isDirectory := by
  unfold verdict?
  simp only [any_startsRepository_append h, findSome?_own_append h]
  split
  · next hstarts => rw [repositoryLevels_append hstarts]
  · rfl

end Silent

/-! ## Files in place of the files of a repository -/

/-- The directory that the first line of a file names for the files of a repository. -/
def gitdir? (contents : ByteArray) : Option String :=
  (IgnoreRules.linesOf contents).head?.bind fun line =>
    (Text.dropPrefix? "gitdir: ".toList line.toList).map String.ofList

/-- An entry names no directory for the files of a repository. -/
def namesNoGitdir (name : String) : FileNode → Bool
  | .file contents => name != ".git" || (gitdir? contents).isNone
  | .directory _ | .link _ => true

/-- No file in a tree names a directory for the files of a repository. -/
def NoGitdirs (t : FileTree) : Prop :=
  t.top.everyEntry namesNoGitdir = true

instance : DecidablePred NoGitdirs := fun t =>
  inferInstanceAs (Decidable (t.top.everyEntry _ = true))

/-- A file that names no directory leads to no files of a repository. -/
theorem repositoryFiles?_eq_none {t : FileTree} {directory : String} {contents : ByteArray}
    (hread : t.readBytes (Path.join directory ".git") = .ok contents)
    (h : gitdir? contents = none) :
    repositoryFiles? t directory = none := by
  have hfile : t.isFile (Path.join directory ".git") = true := by
    obtain ⟨there, hlocate, hnode⟩ := FileTree.readBytes_eq_ok_iff.mp hread
    exact FileTree.isFile_iff.mpr ⟨there, contents, hlocate, hnode⟩
  have hline : firstLine? t (Path.join directory ".git") =
      (IgnoreRules.linesOf contents).head? := by
    rw [firstLine?, hread]
  rw [repositoryFiles?]
  simp only [hfile, if_true, hline]
  cases hhead : (IgnoreRules.linesOf contents).head? with
  | none => rfl
  | some line =>
    rw [gitdir?, hhead, Option.bind_some, Option.map_eq_none_iff] at h
    rw [Option.bind_eq_bind, Option.bind_some, h]
    rfl

namespace Survey

/-- The walk of a tree, from the directory below which another tree holds it. -/
def relocated (s : Survey) (outer : FileTree) (folder : Place) : Survey :=
  { s with tree := outer, root := "/".intercalate folder }

theorem join_pathOf (s : Survey) {names more : List String}
    (hnames : ∀ name ∈ names, Path.isName name = true)
    (hmore : ∀ name ∈ more, Path.isName name = true) (hne : more ≠ []) :
    Path.join (s.pathOf names) ("/".intercalate more) =
      Path.join s.root ("/".intercalate (names ++ more)) := by
  unfold pathOf
  split
  · next hempty =>
    rw [List.isEmpty_iff.mp hempty]
    rfl
  · next hempty =>
    exact Path.join_join s.root hnames (by simpa using hempty) hmore hne

end Survey

section Relocated
variable {s : Survey} {outer : FileTree} {folder : Place} {names more : List String}
  (h : outer.HoldsPlainly folder s.tree) (hroot : s.root = ".")
  (hnames : ∀ name ∈ names, Path.isName name = true)
include h hroot hnames

/-- Names behind a directory on the way find the same in both trees. -/
theorem find_relocated (hmore : ∀ name ∈ more, Path.isName name = true) (hne : more ≠ []) :
    outer.find (Path.join ((s.relocated outer folder).pathOf names) ("/".intercalate more)) =
      s.tree.find (Path.join (s.pathOf names) ("/".intercalate more)) := by
  rw [Survey.join_pathOf _ hnames hmore hne, Survey.join_pathOf _ hnames hmore hne, hroot]
  exact h.find_join (Path.isName_append hnames hmore) (by simp [hne])

theorem find_name_relocated {name : String} (hname : Path.isName name = true) :
    outer.find (Path.join ((s.relocated outer folder).pathOf names) name) =
      s.tree.find (Path.join (s.pathOf names) name) := by
  have hfind := find_relocated h hroot hnames (List.forall_mem_singleton.mpr hname)
    (List.cons_ne_nil name [])
  rwa [String.intercalate_singleton] at hfind

theorem ofFile_relocated {name : String} (hname : Path.isName name = true) :
    IgnoreRules.ofFile outer (Path.join ((s.relocated outer folder).pathOf names) name) =
      IgnoreRules.ofFile s.tree (Path.join (s.pathOf names) name) := by
  rw [IgnoreRules.ofFile, FileTree.readBytes, find_name_relocated h hroot hnames hname,
    ← FileTree.readBytes, ← IgnoreRules.ofFile]

omit h hroot in
theorem pathOf_name {name : String} (hname : Path.isName name = true) :
    Path.join (s.pathOf names) name = s.pathOf (names ++ [name]) := by
  have hjoin := Survey.join_pathOf s hnames (List.forall_mem_singleton.mpr hname)
    (List.cons_ne_nil name [])
  rwa [String.intercalate_singleton, ← Survey.pathOf_concat] at hjoin

/-- The exclude file of the repository of a directory reads the same in both trees. -/
theorem repositoryExclude_relocated (hgit : NoGitdirs s.tree) (depth : Nat) (above : List String) :
    (Level.read outer ((s.relocated outer folder).pathOf names) depth above).repositoryExclude =
      (Level.read s.tree (s.pathOf names) depth above).repositoryExclude := by
  have hname : Path.isName ".git" = true := by decide
  have hfind := find_name_relocated h hroot hnames hname
  dsimp only [Level.read]
  cases hread : s.tree.readBytes (Path.join (s.pathOf names) ".git") with
  | ok contents =>
    have houter : outer.readBytes (Path.join ((s.relocated outer folder).pathOf names) ".git") =
        .ok contents := by
      rw [← hread, FileTree.readBytes, hfind, ← FileTree.readBytes]
    -- the file is found at its own names, so it has been tested
    have hcontents : gitdir? contents = none := by
      obtain ⟨there, hlocate, hnode⟩ := FileTree.readBytes_eq_ok_iff.mp hread
      rw [pathOf_name hnames hname, Survey.pathOf_concat, hroot] at hlocate
      obtain rfl := h.linkFree.eq_of_locate_join
        (Path.isName_append hnames (List.forall_mem_singleton.mpr hname)) (by simp) hlocate
      have htest := FileTree.test_of_nodeAt? hgit hnode
      rwa [namesNoGitdir, bne_self_eq_false, Bool.false_or, Option.isNone_iff_eq_none] at htest
    rw [repositoryFiles?_eq_none houter hcontents, repositoryFiles?_eq_none hread hcontents]
  | error e =>
    have hinner : s.tree.isFile (Path.join (s.pathOf names) ".git") = false := by
      rw [Bool.eq_false_iff]
      intro hfile
      obtain ⟨there, contents, hlocate, hnode⟩ := FileTree.isFile_iff.mp hfile
      rw [FileTree.readBytes_eq_ok_iff.mpr ⟨there, hlocate, hnode⟩] at hread
      cases hread
    have houter : outer.isFile (Path.join ((s.relocated outer folder).pathOf names) ".git") =
        false := by
      rw [← hinner, FileTree.isFile, hfind, ← FileTree.isFile]
    rw [repositoryFiles?, repositoryFiles?]
    simp only [hinner, houter, Bool.false_eq_true, if_false]
    have hexclude := find_relocated h hroot
      (Path.isName_append hnames (List.forall_mem_singleton.mpr hname))
      (show ∀ name ∈ ["info", "exclude"], Path.isName name = true by decide) (by simp)
    rw [show "/".intercalate ["info", "exclude"] = "info/exclude" by decide] at hexclude
    rw [pathOf_name hnames hname, pathOf_name hnames hname, IgnoreRules.ofFile, FileTree.readBytes,
      hexclude, ← FileTree.readBytes, ← IgnoreRules.ofFile]

/-- The ignore files of a directory read the same in both trees. -/
theorem Level.read_relocated (hgit : NoGitdirs s.tree) :
    Level.read outer ((s.relocated outer folder).pathOf names) =
      Level.read s.tree (s.pathOf names) := by
  funext depth above
  have hexclude := repositoryExclude_relocated h hroot hnames hgit depth above
  have hexists {name : String} (hname : Path.isName name = true) :
      outer.exists? (Path.join ((s.relocated outer folder).pathOf names) name) =
        s.tree.exists? (Path.join (s.pathOf names) name) := by
    rw [FileTree.exists?, find_name_relocated h hroot hnames hname, ← FileTree.exists?]
  dsimp only [Level.read] at hexclude ⊢
  rw [hexclude, hexists (show Path.isName ".git" = true by decide),
    hexists (show Path.isName ".jj" = true by decide),
    ofFile_relocated h hroot hnames (show Path.isName ".ignore" = true by decide),
    ofFile_relocated h hroot hnames (show Path.isName ".gitignore" = true by decide)]

end Relocated

/-! ## The directories above -/

/-- Nothing outside a tree has a say in which of its entries are ignored. -/
structure Secluded (outer : FileTree) (folder : Place) (inner : FileTree) : Prop where
  ignore : outer.NoneAbove folder ".ignore"
  git : outer.NoneAbove folder ".git"
  jj : outer.NoneAbove folder ".jj"
  gitdirs : NoGitdirs inner

theorem ofFile_of_not_exists {t : FileTree} {path : String} (h : t.exists? path = false) :
    IgnoreRules.ofFile t path = {} := by
  rw [IgnoreRules.ofFile]
  cases hread : t.readBytes path with
  | error e => rfl
  | ok contents =>
    obtain ⟨there, hlocate, -⟩ := FileTree.readBytes_eq_ok_iff.mp hread
    rw [FileTree.exists?_iff.mpr ⟨there, hlocate⟩] at h
    cases h

/-- The levels above the directory have no say. -/
theorem Secluded.silent {outer inner : FileTree} {folder : Place}
    (h : Secluded outer folder inner) :
    ∀ l ∈ levelsAbove outer folder, l.Silent := by
  intro l hl
  obtain ⟨n, hn, rfl⟩ := List.mem_map.mp hl
  have hlt : n < folder.length := List.mem_range.mp (List.mem_reverse.mp hn)
  constructor
  · exact congrArg IgnoreRules.rules (ofFile_of_not_exists (h.ignore n hlt))
  · exact Bool.or_eq_false_iff.mpr ⟨h.git n hlt, h.jj n hlt⟩

namespace Survey

/-- What becomes of an entry, with another view of the directory that it is. -/
def Visit.map (f : Folder → Folder) : Visit → Visit
  | .passed => .passed
  | .found finding => .found finding
  | .entered folder => .entered (f folder)

/-- A directory on the way, seen from the larger tree. -/
def raise (outer : FileTree) (folder : Place) (respectIgnoreFiles : Bool) (f : Folder) : Folder :=
  { f with
    place := folder ++ f.place
    levels := f.levels ++ if respectIgnoreFiles then levelsAbove outer folder else [] }

section Walk
variable {s : Survey} {outer : FileTree} {folder : Place} (h : outer.HoldsPlainly folder s.tree)
  (hroot : s.root = ".") (hclear : s.respectIgnoreFiles = true → Secluded outer folder s.tree)
include h hroot hclear

omit h hroot in
theorem verdict?_raise (f : Folder) (names : List String) (isDirectory : Bool) :
    verdict? (raise outer folder s.respectIgnoreFiles f).levels names isDirectory =
      verdict? f.levels names isDirectory := by
  refine verdict?_append ?_ names isDirectory
  split
  · next hrespect => exact (hclear hrespect).silent
  · intro l hl
    cases hl

theorem enter_raise {names : List String} (hnames : ∀ name ∈ names, Path.isName name = true)
    (f : Folder) (place : Place) :
    (s.relocated outer folder).enter (raise outer folder s.respectIgnoreFiles f) (folder ++ place)
      names = raise outer folder s.respectIgnoreFiles (s.enter f place names) := by
  unfold enter raise
  have hsame : (s.relocated outer folder).respectIgnoreFiles = s.respectIgnoreFiles := rfl
  rw [hsame]
  cases hrespect : s.respectIgnoreFiles with
  | false => rfl
  | true =>
    have hread := Level.read_relocated h hroot hnames (hclear hrespect).gitdirs
    have htree : (s.relocated outer folder).tree = outer := rfl
    rw [htree, hread]
    rfl

theorem visit_raise {f : Folder} {name : String} {node : FileNode} (way way' : List Folder)
    (hnames : ∀ n ∈ f.names ++ [name], Path.isName n = true) (hlink : node.isLink = false) :
    (s.relocated outer folder).visit way' (raise outer folder s.respectIgnoreFiles f) name node =
      (s.visit way f name node).map (raise outer folder s.respectIgnoreFiles) := by
  have hskips (isDirectory : Bool) : (s.relocated outer folder).skips
      (raise outer folder s.respectIgnoreFiles f).levels (f.names ++ [name]) isDirectory =
        s.skips f.levels (f.names ++ [name]) isDirectory := by
    rw [skips, skips, verdict?_raise hclear]
    rfl
  cases node with
  | link target => cases hlink
  | file contents =>
    change (s.relocated outer folder).visitFile _ (f.names ++ [name]) =
      (s.visitFile f (f.names ++ [name])).map _
    rw [visitFile, visitFile, hskips]
    split <;> rfl
  | directory inner =>
    change (s.relocated outer folder).visitDirectory _ (f.names ++ [name])
        (folder ++ f.place ++ [name]) =
      (s.visitDirectory f (f.names ++ [name]) (f.place ++ [name])).map _
    rw [visitDirectory, visitDirectory, hskips, List.append_assoc,
      enter_raise h hroot hclear hnames]
    split <;> rfl

/-- From a directory on the way, both walks come upon the same, in the same order. -/
theorem below_raise (fuel : Nat) (way way' : List Folder) {f : Folder}
    (hnames : ∀ n ∈ f.names, Path.isName n = true) :
    (s.relocated outer folder).below fuel way' (raise outer folder s.respectIgnoreFiles f) =
      s.below fuel way f := by
  induction fuel generalizing way way' f with
  | zero => rfl
  | succ fuel ih =>
    have hentries : (s.relocated outer folder).entries (raise outer folder s.respectIgnoreFiles f) =
        s.entries f := by
      have hnode : FileTree.nodeAt? outer.top (folder ++ f.place) =
          FileTree.nodeAt? s.tree.top f.place := h.holds.nodeAt? f.place
      simp only [entries, relocated, raise, hnode]
    rw [below, below, hentries]
    refine List.flatMap_congr fun entry hmem => ?_
    obtain ⟨name, node⟩ := entry
    obtain ⟨entries, hnode, hentry⟩ := mem_entries_iff.mp hmem
    have hwf := h.inner_wellFormed.list hnode
    have hall := Path.isName_append hnames
      (List.forall_mem_singleton.mpr (FileNode.wellFormed_of_mem hwf hentry).1)
    have hlink : node.isLink = false := by
      have htest := FileTree.test_of_nodeAt? h.linkFree
        (nodeAt?_of_mem_entries h.inner_wellFormed hmem)
      simpa using htest
    dsimp only
    rw [visit_raise h hroot hclear way way' hall hlink]
    cases hvisit : s.visit way f name node with
    | passed => rfl
    | found finding => rfl
    | entered next =>
      obtain ⟨place, -, -, rfl⟩ := visit_eq_entered_iff.mp hvisit
      exact ih (f :: way) _ hall

/-- Both walks start in the same directory. -/
theorem start?_relocated :
    (s.relocated outer folder).start? =
      s.start?.map (raise outer folder s.respectIgnoreFiles) := by
  have houter : (s.relocated outer folder).tree.locate (s.relocated outer folder).root =
      .ok folder := h.locate_folder
  have hinner : s.tree.locate s.root = .ok [] := by
    rw [hroot]
    exact s.tree.locate_current
  have habove : levelsAbove s.tree [] = [] := rfl
  rw [start?, start?, houter, hinner]
  have henter := enter_raise h hroot hclear (List.forall_mem_nil _)
    { place := [], levels := [] } []
  simp only [habove, ite_self, Option.map_some]
  rw [← henter, List.append_nil]
  simp only [raise, List.append_nil, List.nil_append]
  rfl

/-- Both walks come upon the same. -/
theorem mem_findings_relocated {finding : Finding} :
    finding ∈ (s.relocated outer folder).findings ↔ finding ∈ s.findings := by
  unfold findings
  rw [start?_relocated h hroot hclear]
  cases hstart : s.start? with
  | none => rfl
  | some first =>
    have hnames : ∀ n ∈ first.names, Path.isName n = true := by
      rw [names_of_start? hstart]
      exact List.forall_mem_nil _
    rw [Option.map_some]
    dsimp only
    rw [below_raise h hroot hclear _ [] [] hnames]
    constructor
    · intro hfound
      have hcomes := comesUpon_of_mem_below (.start hstart) hfound
      have hall := (mem_findings_iff h.inner_wellFormed).mpr hcomes
      rwa [findings, hstart] at hall
    · intro hfound
      have hle : s.stepLimit ≤ (s.relocated outer folder).stepLimit :=
        Nat.mul_le_mul_left _ (FileTree.directoryCount_le_of_nodeAt? h.holds)
      exact below_mono hle hfound

end Walk

end Survey

end Discovery

/-- A source file, seen from another scan root. -/
def SourceFile.under (root : String) (file : SourceFile) : SourceFile :=
  { file with path := Path.join root file.relative }

namespace Discovery

theorem IsSource.under {root other : String} {patterns names : List String} {file : SourceFile}
    (h : IsSource root patterns names file) : IsSource other patterns names (file.under other) where
  relative := h.relative
  path := rfl
  accepted := h.accepted
  grammar := h.grammar

theorem IsSource.under_self {root : String} {patterns names : List String} {file : SourceFile}
    (h : IsSource root patterns names file) : file.under root = file := by
  rw [SourceFile.under, ← h.path]

/-- The same files are selected from the findings of both walks. -/
theorem selected_relocated {outer inner : FileTree} {folder : Place} {options : DiscoveryOptions}
    {globs : List Glob} {excludes : IgnoreRules} (h : outer.HoldsPlainly folder inner)
    (hclear : options.respectIgnoreFiles = true → Secluded outer folder inner)
    (hglobs : includeGlobs options.patterns = .ok globs) :
    selected ("/".intercalate folder) globs
        (surveyOf outer ("/".intercalate folder) options excludes).findings =
      (selected "." globs (surveyOf inner "." options excludes).findings).map
        (SourceFile.under ("/".intercalate folder)) := by
  have hpairwise : ((selected "." globs (surveyOf inner "." options excludes).findings).map
      (SourceFile.under ("/".intercalate folder))).Pairwise SourceFile.Before :=
    List.pairwise_map.mpr (pairwise_selected _ _ _)
  apply (pairwise_selected _ _ _).eq_of_mem_iff hpairwise
  intro file
  have hcomes (names : List String) :
      (surveyOf outer ("/".intercalate folder) options excludes).ComesUpon (.file names) ↔
        (surveyOf inner "." options excludes).ComesUpon (.file names) := by
    rw [← Survey.mem_findings_iff h.wellFormed, ← Survey.mem_findings_iff h.inner_wellFormed]
    exact @Survey.mem_findings_relocated (surveyOf inner "." options excludes) outer folder h rfl
      hclear (.file names)
  rw [mem_selected_iff_comesUpon h.wellFormed hglobs fun _ => Iff.rfl, List.mem_map]
  constructor
  · rintro ⟨names, hfile, hsource⟩
    refine ⟨file.under ".", ?_, hsource.under_self⟩
    exact (mem_selected_iff_comesUpon h.inner_wellFormed hglobs fun _ => Iff.rfl).mpr
      ⟨names, (hcomes names).mp hfile, hsource.under⟩
  · rintro ⟨file, hmem, rfl⟩
    obtain ⟨names, hfile, hsource⟩ :=
      (mem_selected_iff_comesUpon h.inner_wellFormed hglobs fun _ => Iff.rfl).mp hmem
    exact ⟨names, (hcomes names).mpr hfile, hsource.under⟩

end Discovery

open Discovery

/-- Discovery from the directory below which a tree is held finds the files of the tree, and fails
for the same reason. -/
theorem discover_relocates {outer inner : FileTree} {folder : Place} {options : DiscoveryOptions}
    (h : outer.HoldsPlainly folder inner)
    (hclear : options.respectIgnoreFiles = true → Secluded outer folder inner) :
    (discover outer ("/".intercalate folder) options).map Prod.fst =
      (discover inner "." options).map fun found =>
        found.1.map (SourceFile.under ("/".intercalate folder)) := by
  have houter : outer.isDirectory ("/".intercalate folder) = true :=
    FileTree.isDirectory_iff.mpr ⟨folder, h.locate_folder, inner.entries, h.holds⟩
  have hinner : inner.isDirectory "." = true :=
    FileTree.isDirectory_iff.mpr ⟨[], inner.locate_current, inner.directoryAt_top⟩
  unfold discover
  rw [houter, hinner]
  cases hglobs : includeGlobs options.patterns with
  | error e => rfl
  | ok globs =>
    cases excludeRules options.exclude with
    | error e => rfl
    | ok excludes =>
      have hselected :=
        @selected_relocated outer inner folder options globs excludes h hclear hglobs
      simpa [selected, surveyOf, Except.map, bind, Except.bind, pure, Except.pure] using hselected

end PackageUsage
