import PackageUsage.Proofs.FileTree

/-!
# Trees that grow

A tree has grown into another one if every file, link and directory of it is still in its place.
Then every path that led somewhere leads there still. A tree may grow by new entries, or not at all
but for the order of its entries; and where the new entry is a link that leads nowhere, no path
leads anywhere that it did not lead before.
-/

namespace PackageUsage.FileTree

/-- A node that is still what it was; a directory may have got other entries. -/
inductive Stays : FileNode → FileNode → Prop
  | file (contents : ByteArray) : Stays (.file contents) (.file contents)
  | link (target : String) : Stays (.link target) (.link target)
  | directory (entries entries' : List (String × FileNode)) :
      Stays (.directory entries) (.directory entries')

/-- All that is below one node stays in its place below another one. -/
def KeepsBelow (a b : FileNode) : Prop :=
  ∀ place node, nodeAt? a place = some node →
    ∃ node', nodeAt? b place = some node' ∧ Stays node node'

/-- Every file, link and directory of a tree is in the same place of another tree. -/
def GrowsTo (a b : FileTree) : Prop :=
  KeepsBelow a.top b.top

variable {a b : FileTree} {place there : Place} {todo : List String}

theorem Stays.refl (node : FileNode) : Stays node node := by
  cases node with
  | file contents => exact .file contents
  | link target => exact .link target
  | directory entries => exact .directory entries entries

theorem GrowsTo.file (h : a.GrowsTo b) {contents : ByteArray}
    (hplace : nodeAt? a.top place = some (.file contents)) :
    nodeAt? b.top place = some (.file contents) := by
  obtain ⟨node', hnode', hstays⟩ := h place _ hplace
  cases hstays
  exact hnode'

theorem GrowsTo.directoryAt (h : a.GrowsTo b) (hplace : a.DirectoryAt place) :
    b.DirectoryAt place := by
  obtain ⟨entries, hnode⟩ := hplace
  obtain ⟨node', hnode', hstays⟩ := h place _ hnode
  cases hstays with
  | directory _ entries' => exact ⟨entries', hnode'⟩

/-! ## Paths in a tree that has grown -/

theorem GrowsTo.entry? (h : a.GrowsTo b) {entries entries' : List (String × FileNode)}
    (ha : nodeAt? a.top place = some (.directory entries))
    (hb : nodeAt? b.top place = some (.directory entries')) {name : String} {node : FileNode}
    (hentry : FileNode.entry? name entries = some node) :
    ∃ node', FileNode.entry? name entries' = some node' ∧ Stays node node' := by
  obtain ⟨node', hnode', hstays⟩ := h (place ++ [name]) node ((nodeAt?_concat ha name).trans hentry)
  rw [nodeAt?_concat hb] at hnode'
  exact ⟨node', hnode', hstays⟩

theorem GrowsTo.follow (h : a.GrowsTo b) {stop : Stop} (hstop : a.follow place todo = .ok stop) :
    b.follow place todo = .ok stop := by
  induction todo generalizing place with
  | nil => exact hstop
  | cons step todo ih =>
    rw [FileTree.follow] at hstop ⊢
    split at hstop
    · next entries hnode =>
      obtain ⟨entries', hnode'⟩ := h.directoryAt ⟨entries, hnode⟩
      rw [hnode']
      dsimp only
      split at hstop
      · next hcurrent =>
        rw [if_pos hcurrent]
        exact ih hstop
      · next hcurrent =>
        rw [if_neg hcurrent]
        split at hstop
        · next hparent =>
          rw [if_pos hparent]
          split at hstop
          · cases hstop
          · next hempty =>
            rw [if_neg hempty]
            exact ih hstop
        · next hparent =>
          rw [if_neg hparent]
          split at hstop
          · cases hstop
          · next target hentry =>
            obtain ⟨node', hentry', hstays⟩ := h.entry? hnode hnode' hentry
            cases hstays
            rw [hentry']
            exact hstop
          · next node hlink hentry =>
            obtain ⟨node', hentry', hstays⟩ := h.entry? hnode hnode' hentry
            rw [hentry']
            cases hstays with
            | file contents => exact ih hstop
            | directory inner inner' => exact ih hstop
            | link target => exact absurd rfl (hlink target)
    · cases hstop

theorem GrowsTo.leadsTo (h : a.GrowsTo b) {links : Nat}
    (hleads : a.LeadsTo links place todo there) : b.LeadsTo links place todo there := by
  induction hleads with
  | arrived hfollow => exact .arrived (h.follow hfollow)
  | link hfollow htarget _ ih => exact .link (h.follow hfollow) htarget ih

theorem GrowsTo.locate (h : a.GrowsTo b) {path : String} (hlocate : a.locate path = .ok there) :
    b.locate path = .ok there := by
  rw [locate_eq_ok_iff, walkTo_eq_ok_iff] at hlocate ⊢
  exact ⟨hlocate.1, h.leadsTo hlocate.2⟩

theorem GrowsTo.isDirectory (h : a.GrowsTo b) {path : String} (hpath : a.isDirectory path = true) :
    b.isDirectory path = true := by
  rw [isDirectory_iff] at hpath ⊢
  obtain ⟨there, hlocate, hthere⟩ := hpath
  exact ⟨there, h.locate hlocate, h.directoryAt hthere⟩

/-- The same entries in another order. -/
theorem growsTo_of_perm (hwf : b.WellFormed) (h : a.entries.Perm b.entries) : a.GrowsTo b := by
  intro place node hnode
  cases place with
  | nil =>
    cases hnode
    exact ⟨b.top, rfl, .directory _ _⟩
  | cons first rest =>
    refine ⟨node, ?_, Stays.refl node⟩
    rw [top, nodeAt?] at hnode ⊢
    obtain ⟨child, hchild, hrest⟩ := Option.bind_eq_some_iff.mp hnode
    have hmem := h.mem_iff.mp (FileNode.mem_of_entry? hchild)
    have htop : nodeAt? b.top [] = some (.directory b.entries) := rfl
    rw [FileNode.entry?_of_mem (hwf.list htop) hmem]
    exact hrest

/-! ## New entries -/

theorem entry?_putEntry (name other : String) (node : FileNode)
    (entries : List (String × FileNode)) :
    FileNode.entry? other (FileNode.putEntry name node entries) =
      if name = other then some node else FileNode.entry? other entries := by
  induction entries with
  | nil =>
    by_cases hname : name = other <;> simp [FileNode.putEntry, FileNode.entry?, hname]
  | cons entry rest ih =>
    obtain ⟨first, old⟩ := entry
    rw [FileNode.putEntry]
    by_cases hfirst : first = name
    · subst hfirst
      by_cases hname : first = other <;> simp [FileNode.entry?, hname]
    · rw [if_neg (by simpa using hfirst), FileNode.entry?, FileNode.entry?, ih]
      by_cases hother : first = other
      · have hne : name ≠ other := fun heq => hfirst (hother.trans heq.symm)
        simp [hother, hne]
      · simp [hother]

theorem keepsBelow_putEntry {entries : List (String × FileNode)} {name : String} {node : FileNode}
    (h : ∀ old, FileNode.entry? name entries = some old → KeepsBelow old node) :
    KeepsBelow (.directory entries) (.directory (FileNode.putEntry name node entries)) := by
  intro place found hfound
  cases place with
  | nil =>
    cases hfound
    exact ⟨_, rfl, .directory _ _⟩
  | cons first rest =>
    rw [nodeAt?, entry?_putEntry]
    by_cases hname : name = first
    · subst hname
      rw [nodeAt?] at hfound
      obtain ⟨old, hold, hrest⟩ := Option.bind_eq_some_iff.mp hfound
      rw [if_pos rfl]
      exact h old hold rest found hrest
    · rw [if_neg hname]
      exact ⟨found, hfound, Stays.refl found⟩

/-- The entry that is put below a directory on the way to its place. -/
theorem putAt_cons {first name : String} {folder : Place} {entries own : List (String × FileNode)}
    (node : FileNode) (hown : FileNode.entry? first entries = some (.directory own)) :
    putAt node (first :: (folder ++ [name])) entries =
      FileNode.putEntry first (.directory (putAt node (folder ++ [name]) own)) entries := by
  obtain ⟨next, more, hmore⟩ : ∃ next more, folder ++ [name] = next :: more :=
    List.exists_cons_of_ne_nil (by simp)
  rw [hmore, putAt, hown]
  intro hnil
  cases hnil

section Put
variable {folder : Place} {name : String} {inner : List (String × FileNode)}

/-- An entry that is put in a free place of a directory leaves all others where they are. -/
theorem keepsBelow_putAt (node : FileNode) {entries : List (String × FileNode)}
    (hfolder : nodeAt? (.directory entries) folder = some (.directory inner))
    (hfree : FileNode.entry? name inner = none) :
    KeepsBelow (.directory entries) (.directory (putAt node (folder ++ [name]) entries)) := by
  induction folder generalizing entries with
  | nil =>
    cases hfolder
    apply keepsBelow_putEntry
    intro old hold
    rw [hfree] at hold
    cases hold
  | cons first folder ih =>
    rw [nodeAt?] at hfolder
    obtain ⟨child, hchild, hrest⟩ := Option.bind_eq_some_iff.mp hfolder
    obtain ⟨own, rfl⟩ := directory_of_nodeAt? hrest
    rw [List.cons_append, putAt_cons node hchild]
    apply keepsBelow_putEntry
    intro old hold
    obtain rfl := Option.some.inj (hchild.symm.trans hold)
    exact ih hrest

theorem growsTo_putAt {t : FileTree} (node : FileNode)
    (hfolder : nodeAt? t.top folder = some (.directory inner))
    (hfree : FileNode.entry? name inner = none) :
    t.GrowsTo { entries := putAt node (folder ++ [name]) t.entries } :=
  keepsBelow_putAt node hfolder hfree

/-- What is put somewhere is there. -/
theorem nodeAt?_putAt_self (node : FileNode) {entries : List (String × FileNode)}
    (hfolder : nodeAt? (.directory entries) folder = some (.directory inner)) :
    nodeAt? (.directory (putAt node (folder ++ [name]) entries)) (folder ++ [name]) = some node := by
  induction folder generalizing entries with
  | nil =>
    rw [List.nil_append, putAt, nodeAt?, entry?_putEntry, if_pos rfl]
    rfl
  | cons first folder ih =>
    rw [nodeAt?] at hfolder
    obtain ⟨child, hchild, hrest⟩ := Option.bind_eq_some_iff.mp hfolder
    obtain ⟨own, rfl⟩ := directory_of_nodeAt? hrest
    rw [List.cons_append, putAt_cons node hchild, nodeAt?, entry?_putEntry, if_pos rfl]
    exact ih hrest

/-- A link or a file that is put somewhere is the only new entry. -/
theorem nodeAt?_putAt_leaf {leaf node : FileNode} {entries : List (String × FileNode)}
    (hleaf : ∀ own, leaf ≠ .directory own)
    (hfolder : nodeAt? (.directory entries) folder = some (.directory inner))
    (h : nodeAt? (.directory (putAt leaf (folder ++ [name]) entries)) place = some node) :
    nodeAt? (.directory entries) place ≠ none ∨ place = folder ++ [name] := by
  induction folder generalizing entries place with
  | nil =>
    cases place with
    | nil => exact Or.inl (by rw [nodeAt?]; exact Option.some_ne_none _)
    | cons first rest =>
      rw [List.nil_append, putAt, nodeAt?, entry?_putEntry] at h
      by_cases hname : name = first
      · subst hname
        rw [if_pos rfl] at h
        cases rest with
        | nil => exact Or.inr rfl
        | cons second rest =>
          cases leaf with
          | file contents => cases h
          | link target => cases h
          | directory own => exact absurd rfl (hleaf own)
      · rw [if_neg hname] at h
        exact Or.inl (by rw [nodeAt?, h]; exact Option.some_ne_none _)
  | cons head folder ih =>
    rw [nodeAt?] at hfolder
    obtain ⟨child, hchild, hrest⟩ := Option.bind_eq_some_iff.mp hfolder
    obtain ⟨own, rfl⟩ := directory_of_nodeAt? hrest
    rw [List.cons_append, putAt_cons _ hchild] at h
    cases place with
    | nil => exact Or.inl (by rw [nodeAt?]; exact Option.some_ne_none _)
    | cons first rest =>
      rw [nodeAt?, entry?_putEntry] at h
      by_cases hname : head = first
      · subst hname
        rw [if_pos rfl] at h
        rcases ih hrest h with hold | hnew
        · exact Or.inl (by rwa [nodeAt?, hchild])
        · exact Or.inr (by rw [hnew, List.cons_append])
      · rw [if_neg hname] at h
        exact Or.inl (by rw [nodeAt?, h]; exact Option.some_ne_none _)

end Put

/-! ## Links that lead nowhere -/

/-- A tree has grown, and whatever is new leads nowhere from its directory. -/
structure GrowsDead (a b : FileTree) : Prop where
  grows : a.GrowsTo b
  dead : ∀ folder name node links there, nodeAt? b.top (folder ++ [name]) = some node →
    nodeAt? a.top (folder ++ [name]) = none → links ≤ linkLimit →
    ¬ b.LeadsTo links folder [name] there

/-- Steps that can be taken in the grown tree can be taken before, or end at a new link. -/
theorem GrowsDead.follow (h : a.GrowsDead b) (hwf : b.WellFormed) {stop : Stop}
    (hplace : a.Settled place) (hstop : b.follow place todo = .ok stop) :
    a.follow place todo = .ok stop ∨
      ∃ folder name target rest, stop = .atLink folder target rest ∧
        nodeAt? b.top (folder ++ [name]) = some (.link target) ∧
        nodeAt? a.top (folder ++ [name]) = none := by
  induction todo generalizing place with
  | nil => exact Or.inl hstop
  | cons step todo ih =>
    obtain ⟨found, hfound, hlink⟩ := hplace
    obtain ⟨found', hfound', hstays⟩ := h.grows place found hfound
    rw [FileTree.follow] at hstop ⊢
    split at hstop
    · next entries' hnode' =>
      obtain rfl := Option.some.inj (hfound'.symm.trans hnode')
      cases hstays with
      | directory entries _ =>
        rw [hfound]
        dsimp only
        split at hstop
        · next hcurrent =>
          rw [if_pos hcurrent]
          exact ih ⟨_, hfound, hlink⟩ hstop
        · next hcurrent =>
          rw [if_neg hcurrent]
          split at hstop
          · next hparent =>
            rw [if_pos hparent]
            split at hstop
            · cases hstop
            · next hempty =>
              rw [if_neg hempty]
              have hne : place ≠ [] := by simpa using hempty
              rw [← List.dropLast_concat_getLast hne] at hfound
              exact ih (directoryAt_of_concat hfound).settled hstop
          · next hparent =>
            rw [if_neg hparent]
            cases hentry : FileNode.entry? step entries with
            | some node =>
              obtain ⟨node', hentry', hstays⟩ := h.grows.entry? hfound hnode' hentry
              rw [hentry'] at hstop
              have hstep : nodeAt? a.top (place ++ [step]) = some node :=
                (nodeAt?_concat hfound step).trans hentry
              cases hstays with
              | file contents => exact ih ⟨_, hstep, by simp⟩ hstop
              | directory inner inner' => exact ih ⟨_, hstep, by simp⟩ hstop
              | link target => exact Or.inl hstop
            | none =>
              have hnone : nodeAt? a.top (place ++ [step]) = none :=
                (nodeAt?_concat hfound step).trans hentry
              split at hstop
              · cases hstop
              · next target hentry' =>
                cases hstop
                exact Or.inr ⟨place, step, target, todo, rfl,
                  (nodeAt?_concat hnode' step).trans hentry', hnone⟩
              · next node' hlink' hentry' =>
                -- a new file or directory would lead somewhere
                have hnew := (nodeAt?_concat hnode' step).trans hentry'
                have hleads : b.LeadsTo 0 place [step] (place ++ [step]) :=
                  .arrived (follow_name hwf hnew hlink' [])
                exact absurd hleads (h.dead place step node' 0 _ hnew hnone (Nat.zero_le _))
    · cases hstop

theorem GrowsDead.leadsTo (h : a.GrowsDead b) (hwf : b.WellFormed) {links : Nat}
    (hplace : a.Settled place) (hlinks : links ≤ linkLimit)
    (hleads : b.LeadsTo links place todo there) : a.LeadsTo links place todo there := by
  induction hleads with
  | arrived hfollow =>
    rcases h.follow hwf hplace hfollow with hsame | ⟨_, _, _, _, hstop, -⟩
    · exact .arrived hsame
    · cases hstop
  | @link links place todo there folder target rest hfollow htarget hrest ih =>
    rcases h.follow hwf hplace hfollow with hsame | ⟨_, name, _, _, hstop, hnew, hnone⟩
    · have hfolder : a.DirectoryAt folder := sound_of_follow hplace hsame
      exact .link hsame htarget (ih hfolder.settled (by omega))
    · cases hstop
      -- the new link would lead as far as its target does
      obtain ⟨here, hhere⟩ := hrest.of_append
      have hlink : b.LeadsTo (links + 1) folder [name] here :=
        .link (follow_link hwf hnew []) htarget (by rwa [List.append_nil])
      exact absurd hlink (h.dead folder name _ _ _ hnew hnone hlinks)

theorem GrowsDead.locate (h : a.GrowsDead b) (hwf : b.WellFormed) {path : String}
    (hlocate : b.locate path = .ok there) : a.locate path = .ok there := by
  rw [locate_eq_ok_iff, walkTo_eq_ok_iff] at hlocate ⊢
  exact ⟨hlocate.1, h.leadsTo hwf a.directoryAt_top.settled (Nat.le_refl _) hlocate.2⟩

/-- A tree has grown, but no path leads anywhere that it did not lead before. -/
structure LeadsAlike (a b : FileTree) : Prop where
  grows : a.GrowsTo b
  back : ∀ path there, b.locate path = .ok there → a.locate path = .ok there

theorem GrowsDead.leadsAlike (h : a.GrowsDead b) (hwf : b.WellFormed) : a.LeadsAlike b :=
  ⟨h.grows, fun _ _ => h.locate hwf⟩

theorem GrowsTo.leadsAlike (h : a.GrowsTo b) (h' : b.GrowsTo a) : a.LeadsAlike b :=
  ⟨h, fun _ _ => h'.locate⟩

theorem LeadsAlike.readBytes_iff (h : a.LeadsAlike b) {path : String} {contents : ByteArray} :
    b.readBytes path = .ok contents ↔ a.readBytes path = .ok contents := by
  rw [readBytes_eq_ok_iff, readBytes_eq_ok_iff]
  constructor
  · rintro ⟨there, hlocate, hnode⟩
    have hback := h.back path there hlocate
    obtain ⟨node, hold, -⟩ := settled_of_locate hback
    obtain ⟨node', hnode', hstays⟩ := h.grows there node hold
    obtain rfl := Option.some.inj (hnode.symm.trans hnode')
    cases hstays
    exact ⟨there, hback, hold⟩
  · rintro ⟨there, hlocate, hnode⟩
    exact ⟨there, h.grows.locate hlocate, h.grows.file hnode⟩

theorem LeadsAlike.readBytes_cases (h : a.LeadsAlike b) (path : String) :
    (∃ contents, a.readBytes path = .ok contents ∧ b.readBytes path = .ok contents) ∨
      ∃ e e', a.readBytes path = .error e ∧ b.readBytes path = .error e' := by
  cases ha : a.readBytes path with
  | ok contents => exact Or.inl ⟨contents, rfl, h.readBytes_iff.mpr ha⟩
  | error e =>
    cases hb : b.readBytes path with
    | error e' => exact Or.inr ⟨e, e', rfl, rfl⟩
    | ok contents =>
      rw [h.readBytes_iff.mp hb] at ha
      cases ha

theorem LeadsAlike.exists?_eq (h : a.LeadsAlike b) (path : String) :
    b.exists? path = a.exists? path := by
  rw [Bool.eq_iff_iff, exists?_iff, exists?_iff]
  constructor
  · rintro ⟨there, hlocate⟩
    exact ⟨there, h.back path there hlocate⟩
  · rintro ⟨there, hlocate⟩
    exact ⟨there, h.grows.locate hlocate⟩

theorem isFile_iff_readBytes {t : FileTree} {path : String} :
    t.isFile path = true ↔ ∃ contents, t.readBytes path = .ok contents := by
  rw [isFile_iff]
  constructor
  · rintro ⟨there, contents, h⟩
    exact ⟨contents, readBytes_eq_ok_iff.mpr ⟨there, h⟩⟩
  · rintro ⟨contents, h⟩
    obtain ⟨there, hthere⟩ := readBytes_eq_ok_iff.mp h
    exact ⟨there, contents, hthere⟩

theorem LeadsAlike.isFile_eq (h : a.LeadsAlike b) (path : String) :
    b.isFile path = a.isFile path := by
  rw [Bool.eq_iff_iff, isFile_iff_readBytes, isFile_iff_readBytes]
  exact exists_congr fun contents => h.readBytes_iff

end PackageUsage.FileTree
