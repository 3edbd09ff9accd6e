import PackageUsage.Proofs.FileTree.Growth

/-!
# Trees that agree apart from some places

What is in a tree may be kept in another one apart from some places, whatever the files hold. If no
way to a directory leads through these places, then every path that leads to a directory leads to it
in the other tree too. Nothing is said of a path that leads to a file: it may come through one of
the places, as a link to a file that the other tree does not have.
-/

namespace PackageUsage.FileTree

/-- Nodes of one kind: links with the same target, files whatever they hold, and directories. -/
inductive Alike : FileNode → FileNode → Prop
  | file (contents contents' : ByteArray) : Alike (.file contents) (.file contents')
  | link (target : String) : Alike (.link target) (.link target)
  | directory (entries entries' : List (String × FileNode)) :
      Alike (.directory entries) (.directory entries')

/-- What is in a tree is in another one too, apart from some places. -/
def KeptApart (a b : FileTree) (apart : Place → Prop) : Prop :=
  ∀ place node, nodeAt? a.top place = some node →
    (∃ node', nodeAt? b.top place = some node' ∧ Alike node node') ∨ apart place

/-- No way to a directory leads through some places. -/
structure Flat (t : FileTree) (apart : Place → Prop) : Prop where
  root : ¬ apart []
  entry : ∀ folder name node links there, nodeAt? t.top (folder ++ [name]) = some node →
    apart (folder ++ [name]) → links ≤ linkLimit →
    t.LeadsTo links folder [name] there → ¬ t.DirectoryAt there

variable {a b t : FileTree} {apart : Place → Prop} {place there : Place} {todo : List String}
  {links : Nat}

theorem Alike.trans {node node' node'' : FileNode} (h : Alike node node')
    (h' : Alike node' node'') : Alike node node'' := by
  cases h with
  | file contents =>
    cases h' with
    | file _ contents'' => exact .file contents contents''
  | link target => exact h'
  | directory entries =>
    cases h' with
    | directory _ entries'' => exact .directory entries entries''

/-- Two trees have the same directories, links and files, whatever the files hold. -/
structure SameButContents (a b : FileTree) : Prop where
  kept : a.KeptApart b fun _ => False
  back : b.KeptApart a fun _ => False

theorem SameButContents.symm (h : a.SameButContents b) : b.SameButContents a :=
  ⟨h.back, h.kept⟩

theorem flat_nowhere (t : FileTree) : t.Flat fun _ => False where
  root h := h
  entry _ _ _ _ _ _ h := h.elim

theorem Stays.alike {node node' : FileNode} (h : Stays node node') : Alike node node' := by
  cases h with
  | file contents => exact .file contents contents
  | link target => exact .link target
  | directory entries entries' => exact .directory entries entries'

theorem Alike.symm {node node' : FileNode} (h : Alike node node') : Alike node' node := by
  cases h with
  | file contents contents' => exact .file contents' contents
  | link target => exact .link target
  | directory entries entries' => exact .directory entries' entries

/-- The way from a directory through the name of a file or a directory in it. -/
theorem leadsTo_name (hwf : t.WellFormed) {name : String} {node : FileNode}
    (hnode : nodeAt? t.top (place ++ [name]) = some node) (hlink : ∀ target, node ≠ .link target) :
    t.LeadsTo 0 place [name] (place ++ [name]) :=
  .arrived (follow_name hwf hnode hlink [])

theorem Flat.not_apart (h : t.Flat apart) (hwf : t.WellFormed) (hplace : t.DirectoryAt place) :
    ¬ apart place := by
  rcases List.eq_nil_or_concat place with rfl | ⟨folder, name, rfl⟩
  · exact h.root
  · rw [List.concat_eq_append] at hplace ⊢
    obtain ⟨entries, hnode⟩ := hplace
    intro hapart
    exact h.entry folder name _ 0 _ hnode hapart (Nat.zero_le _)
      (leadsTo_name hwf hnode (by simp)) ⟨entries, hnode⟩

/-- Steps that lead on to a directory start in one. -/
theorem directoryAt_of_leadsTo (h : t.LeadsTo links place todo there) (hthere : t.DirectoryAt there) :
    t.DirectoryAt place := by
  cases todo with
  | nil =>
    cases h with
    | arrived hfollow =>
      cases hfollow
      exact hthere
    | link hfollow => cases hfollow
  | cons step todo =>
    have hstart : ∃ stop, t.follow place (step :: todo) = .ok stop := by
      cases h with
      | arrived hfollow => exact ⟨_, hfollow⟩
      | link hfollow => exact ⟨_, hfollow⟩
    obtain ⟨stop, hstop⟩ := hstart
    rw [follow] at hstop
    split at hstop
    · next entries hnode => exact ⟨entries, hnode⟩
    · cases hstop

/-- Steps end at a file at one of some places, or before a link there. -/
inductive Stop.Lost (t : FileTree) (apart : Place → Prop) : Stop → Prop
  | atFile {place : Place} {contents : ByteArray} :
      nodeAt? t.top place = some (.file contents) → apart place → Lost t apart (.arrived place)
  | beforeLink {folder : Place} {name target : String} {rest : List String} :
      nodeAt? t.top (folder ++ [name]) = some (.link target) → apart (folder ++ [name]) →
      Lost t apart (.atLink folder target rest)

section Kept
variable (h : a.KeptApart b apart) (hflat : a.Flat apart) (hwf : a.WellFormed)
include h hflat hwf

theorem KeptApart.directoryAt (hplace : a.DirectoryAt place) : b.DirectoryAt place := by
  obtain ⟨entries, hnode⟩ := hplace
  rcases h place _ hnode with ⟨node', hnode', halike⟩ | hapart
  · cases halike with
    | directory _ entries' => exact ⟨entries', hnode'⟩
  · exact absurd hapart (hflat.not_apart hwf ⟨entries, hnode⟩)

theorem KeptApart.follow {stop : Stop} (hstop : a.follow place todo = .ok stop) :
    b.follow place todo = .ok stop ∨ stop.Lost a apart := by
  induction todo generalizing place with
  | nil => exact Or.inl hstop
  | cons step todo ih =>
    rw [FileTree.follow] at hstop ⊢
    split at hstop
    · next entries hnode =>
      obtain ⟨entries', hnode'⟩ := h.directoryAt hflat hwf ⟨entries, hnode⟩
      rw [hnode']
      dsimp only
      split at hstop
      · next hcurrent =>
        rw [if_pos hcurrent]
        exact ih hstop
      · next hcurrent =>
        rw [if_neg hcurrent]
        split at hstop
        · next hparent =>
          rw [if_pos hparent]
          split at hstop
          · cases hstop
          · next hempty =>
            rw [if_neg hempty]
            exact ih hstop
        · next hparent =>
          rw [if_neg hparent, ← nodeAt?_concat hnode' step]
          rw [← nodeAt?_concat hnode step] at hstop
          split at hstop
          · cases hstop
          · next target hentry =>
            cases hstop
            rcases h _ _ hentry with ⟨node', hentry', halike⟩ | hapart
            · cases halike
              rw [hentry']
              exact Or.inl rfl
            · exact Or.inr (.beforeLink hentry hapart)
          · next node hlink hentry =>
            rcases h _ _ hentry with ⟨node', hentry', halike⟩ | hapart
            · rw [hentry']
              cases halike with
              | file contents contents' => exact ih hstop
              | directory inner inner' => exact ih hstop
              | link target => exact absurd rfl (hlink target)
            · cases node with
              | link target => exact absurd rfl (hlink target)
              | directory inner => exact absurd hapart (hflat.not_apart hwf ⟨inner, hentry⟩)
              | file contents =>
                -- no step leads on from a file
                cases todo with
                | nil =>
                  cases hstop
                  exact Or.inr (.atFile hentry hapart)
                | cons next todo => simp [FileTree.follow, hentry] at hstop
    · cases hstop

/-- A way to a directory is kept, and every way is if nothing is apart. -/
theorem KeptApart.leadsTo (hleads : a.LeadsTo links place todo there) (hlinks : links ≤ linkLimit)
    (hthere : a.DirectoryAt there ∨ ∀ place, ¬ apart place) : b.LeadsTo links place todo there := by
  induction hleads with
  | arrived hfollow =>
    rcases h.follow hflat hwf hfollow with hsame | hlost
    · exact .arrived hsame
    · cases hlost with
      | atFile hnode hapart =>
        rcases hthere with ⟨entries, hdirectory⟩ | hnone
        · rw [hnode] at hdirectory
          cases hdirectory
        · exact absurd hapart (hnone _)
  | @link links place todo there folder target rest hfollow htarget hrest ih =>
    rcases h.follow hflat hwf hfollow with hsame | hlost
    · exact .link hsame htarget (ih (by omega) hthere)
    · cases hlost with
      | @beforeLink _ name _ _ hnode hapart =>
        rcases hthere with hdirectory | hnone
        · -- the target of the link would be on the way to a directory
          obtain ⟨here, hhere⟩ := hrest.of_append
          obtain ⟨left, hmore, -, -⟩ := walkTo_append (walkTo_eq_ok_iff.mpr hhere)
          rw [← walkTo_eq_ok_iff, hmore, walkTo_eq_ok_iff] at hrest
          have hlink : a.LeadsTo (links + 1) folder [name] here :=
            .link (follow_link hwf hnode []) htarget (by rwa [List.append_nil])
          exact absurd (directoryAt_of_leadsTo hrest hdirectory)
            (hflat.entry folder name _ _ _ hnode hapart hlinks hlink)
        · exact absurd hapart (hnone _)

theorem KeptApart.locate {path : String} (hlocate : a.locate path = .ok there)
    (hthere : a.DirectoryAt there ∨ ∀ place, ¬ apart place) : b.locate path = .ok there := by
  rw [locate_eq_ok_iff, walkTo_eq_ok_iff] at hlocate ⊢
  exact ⟨hlocate.1, h.leadsTo hflat hwf hlocate.2 (Nat.le_refl _) hthere⟩

theorem KeptApart.isDirectory {path : String} (hpath : a.isDirectory path = true) :
    b.isDirectory path = true := by
  rw [isDirectory_iff] at hpath ⊢
  obtain ⟨there, hlocate, hthere⟩ := hpath
  exact ⟨there, h.locate hflat hwf hlocate (Or.inl hthere), h.directoryAt hflat hwf hthere⟩

theorem KeptApart.isFile (hnone : ∀ place, ¬ apart place) {path : String}
    (hpath : a.isFile path = true) : b.isFile path = true := by
  rw [isFile_iff] at hpath ⊢
  obtain ⟨there, contents, hlocate, hnode⟩ := hpath
  rcases h there _ hnode with ⟨node', hnode', halike⟩ | hapart
  · cases halike with
    | file _ contents' =>
      exact ⟨there, contents', h.locate hflat hwf hlocate (Or.inr hnone), hnode'⟩
  · exact absurd hapart (hnone there)

end Kept

/-! ## Ignore files -/

/-- The last names of ignore files; the exclude file of a repository may be in any directory that
stands for the repository. -/
def ignoreNames : List String :=
  [".gitignore", ".ignore", "exclude"]

/-- Whatever is at a place is an ignore file: it has the name of one and leads to no directory. -/
def IgnoreFileAt (t : FileTree) (place : Place) : Prop :=
  (∃ name ∈ ignoreNames, place.getLast? = some name) ∧
    t.isDirectory ("/".intercalate place) = false

/-- Two trees have the same directories, links and files, apart from ignore files. -/
structure AgreesButIgnoreFiles (a b : FileTree) : Prop where
  kept : a.KeptApart b a.IgnoreFileAt
  back : b.KeptApart a b.IgnoreFileAt

theorem AgreesButIgnoreFiles.symm (h : a.AgreesButIgnoreFiles b) : b.AgreesButIgnoreFiles a :=
  ⟨h.back, h.kept⟩

theorem flat_ignoreFileAt (hwf : t.WellFormed) : t.Flat t.IgnoreFileAt where
  root h := by
    obtain ⟨⟨name, -, hlast⟩, -⟩ := h
    cases hlast
  entry folder name node links there hnode hignore hlinks hleads hthere := by
    have hlocate := locate_of_leadsTo hwf hnode hlinks hleads
    have hdirectory := isDirectory_iff.mpr ⟨there, hlocate, hthere⟩
    rw [hignore.2] at hdirectory
    cases hdirectory

/-! ## A file that is put somewhere -/

section Put
variable (folder : Place) {name : String} {inner : List (String × FileNode)}
  (hfolder : nodeAt? t.top folder = some (.directory inner))
  (hfree : FileNode.entry? name inner = none)
include hfolder hfree

theorem keptApart_of_putAt {contents : ByteArray} (hapart : apart (folder ++ [name])) :
    KeptApart { entries := putAt (.file contents) (folder ++ [name]) t.entries } t apart := by
  intro place node hnode
  rcases nodeAt?_putAt_leaf (by simp) hfolder hnode with hold | rfl
  · obtain ⟨old, hold⟩ := Option.ne_none_iff_exists'.mp hold
    obtain ⟨node', hnode', hstays⟩ := growsTo_putAt (.file contents) hfolder hfree place old hold
    obtain rfl := Option.some.inj (hnode.symm.trans hnode')
    exact Or.inl ⟨old, hold, hstays.alike.symm⟩
  · exact Or.inr hapart

/-- A tree agrees with the one that has another ignore file. -/
theorem agreesButIgnoreFiles_putAt {contents : ByteArray} (hname : name ∈ ignoreNames)
    (hwf : WellFormed { entries := putAt (.file contents) (folder ++ [name]) t.entries }) :
    t.AgreesButIgnoreFiles { entries := putAt (.file contents) (folder ++ [name]) t.entries } where
  kept place node hnode := by
    obtain ⟨node', hnode', hstays⟩ := growsTo_putAt (.file contents) hfolder hfree place node hnode
    exact Or.inl ⟨node', hnode', hstays.alike⟩
  back := by
    apply keptApart_of_putAt folder hfolder hfree
    refine ⟨⟨name, hname, List.getLast?_concat⟩, ?_⟩
    -- the path of a file leads to the file
    have hself : nodeAt? (top { entries := putAt (.file contents) (folder ++ [name]) t.entries })
        (folder ++ [name]) = some (.file contents) := nodeAt?_putAt_self _ hfolder
    have hlocate := locate_of_leadsTo hwf hself (Nat.zero_le _)
      (leadsTo_name hwf hself (by simp))
    rw [isDirectory, find_eq_ok_iff.mpr ⟨_, hlocate, hself⟩]

theorem keptApart_putAt_putAt (contents contents' : ByteArray) :
    KeptApart { entries := putAt (.file contents) (folder ++ [name]) t.entries }
      { entries := putAt (.file contents') (folder ++ [name]) t.entries } apart := by
  intro place node hnode
  refine Or.inl ?_
  rcases nodeAt?_putAt_leaf (by simp) hfolder hnode with hold | rfl
  · obtain ⟨old, hold⟩ := Option.ne_none_iff_exists'.mp hold
    obtain ⟨node', hnode', hstays⟩ := growsTo_putAt (.file contents) hfolder hfree place old hold
    obtain ⟨other, hother, hstays'⟩ := growsTo_putAt (.file contents') hfolder hfree place old hold
    obtain rfl := Option.some.inj (hnode.symm.trans hnode')
    exact ⟨other, hother, hstays.alike.symm.trans hstays'.alike⟩
  · rw [top, nodeAt?_putAt_self (.file contents) hfolder] at hnode
    cases hnode
    exact ⟨_, nodeAt?_putAt_self (.file contents') hfolder, .file contents contents'⟩

/-- It does not matter what the file holds that is put somewhere. -/
theorem sameButContents_putAt (contents contents' : ByteArray) :
    SameButContents { entries := putAt (.file contents) (folder ++ [name]) t.entries }
      { entries := putAt (.file contents') (folder ++ [name]) t.entries } where
  kept := keptApart_putAt_putAt folder hfolder hfree contents contents'
  back := keptApart_putAt_putAt folder hfolder hfree contents' contents

end Put

end PackageUsage.FileTree
