import PackageUsage.Proofs.Toml.Document

/-!
# Keys of the top table stay

Once a document has given a key to its top table, by an entry or a header, no later line takes it
away. So a document that starts with an entry for a key ends in a table with that key, or nowhere.
-/

namespace PackageUsage.Toml

/-! ## Keys of tables -/

/-- The keys of a table, in the order of their entries. -/
def TableOf.keys {α : Type} (t : TableOf α) : List String :=
  t.entries.map Prod.fst

section Keys
variable {α : Type} {j k : String} {entries : List (String × α)}

theorem mem_keys_put (h : k = j ∨ k ∈ entries.map Prod.fst) (a : α) :
    k ∈ (put j a entries).map Prod.fst := by
  induction entries with
  | nil => simpa [put] using h
  | cons e entries ih =>
    obtain ⟨i, b⟩ := e
    by_cases hi : i = j
    · subst hi
      simpa [put] using h
    · rw [put, if_neg (by simpa using hi)]
      rw [List.map_cons, List.mem_cons] at h ⊢
      rcases h with rfl | rfl | h
      · exact .inr (ih (.inl rfl))
      · exact .inl rfl
      · exact .inr (ih (.inr h))

theorem mem_keys_erase (h : k ∈ entries.map Prod.fst) (hne : k ≠ j) :
    k ∈ (erase j entries).map Prod.fst := by
  obtain ⟨e, he, rfl⟩ := List.mem_map.mp h
  exact List.mem_map_of_mem (List.mem_filter.mpr ⟨he, by simpa using hne⟩)

end Keys

/-- The table with an item under a key. -/
def Table.with (t : Table) (key : String) (item : Item) : Table :=
  { t with entries := put key item t.entries }

theorem Table.mem_keys_with {t : Table} {j k : String} (h : k = j ∨ k ∈ t.keys) (item : Item) :
    k ∈ (t.with j item).keys :=
  mem_keys_put h item

theorem exists_of_bind_eq_ok {α β : Type} {x : Except Cause α} {f : α → Except Cause β} {b : β}
    (h : x >>= f = .ok b) : ∃ a, x = .ok a ∧ f a = .ok b := by
  cases x with
  | error cause => cases h
  | ok a => exact ⟨a, rfl, h⟩

/-- A change below a table leaves its keys and adds the first one of the path. -/
theorem editAt_cons {dotted : Bool} {whole path : List String} {edit : Table → Except Cause Table}
    {seen : Nat} {k : String} {t t' : Table}
    (h : editAt dotted whole edit seen (k :: path) t = .ok t') : ∃ item, t' = t.with k item := by
  unfold editAt at h
  split at h
  · obtain ⟨inner, -, hinner⟩ := exists_of_bind_eq_ok h
    cases hinner
    exact ⟨_, rfl⟩
  · cases h
  · split at h
    · cases h
    · obtain ⟨inner, -, hinner⟩ := exists_of_bind_eq_ok h
      cases hinner
      exact ⟨_, rfl⟩
  · split at h
    · cases h
    · obtain ⟨inner, -, hinner⟩ := exists_of_bind_eq_ok h
      cases hinner
      exact ⟨_, rfl⟩

/-! ## Keys of documents -/

/-- The top table has a key, or will have it once the current table is put into its place. -/
def Building.Knows (b : Building) (k : String) : Prop :=
  match b.path with
  | [] => k ∈ b.current.keys
  | first :: _ => k = first ∨ k ∈ b.root.keys

section Building
variable {b b' : Building} {k first : String} {path more : List String} {t : Table} {v : Value}

/-- The table of a header comes to stand below the first part of its path. -/
theorem close_of_path (hpath : b.path = first :: more) (h : b.close = .ok t) :
    ∃ item, t = b.root.with first item := by
  rw [Building.close, hpath, List.getLast?_cons] at h
  cases more with
  | nil =>
    simp only [List.dropLast_singleton, editAt] at h
    split at h <;> try split at h
    all_goals cases h
    all_goals exact ⟨_, rfl⟩
  | cons second more => exact editAt_cons h

theorem Building.Knows.close (hk : b.Knows k) (h : b.close = .ok t) : k ∈ t.keys := by
  unfold Knows at hk
  split at hk
  · next hpath =>
    rw [Building.close, hpath] at h
    cases h
    exact hk
  · next first more hpath =>
    obtain ⟨item, rfl⟩ := close_of_path hpath h
    exact Table.mem_keys_with hk item

theorem entry_eq_ok (h : b.entry (first :: more) v = .ok b') :
    ∃ item, b' = { b with current := b.current.with first item } := by
  obtain ⟨current, hcurrent, heq⟩ := exists_of_bind_eq_ok h
  cases heq
  cases more with
  | nil =>
    simp only [List.getLast?_singleton, List.dropLast_singleton, editAt] at hcurrent
    split at hcurrent
    · cases hcurrent
    · split at hcurrent <;> cases hcurrent
      exact ⟨_, rfl⟩
  | cons second more =>
    obtain ⟨item, rfl⟩ := editAt_cons hcurrent
    exact ⟨item, rfl⟩

theorem Building.Knows.entry (hk : b.Knows k) (h : b.entry (first :: more) v = .ok b') :
    b'.Knows k := by
  obtain ⟨item, rfl⟩ := entry_eq_ok h
  unfold Knows at hk ⊢
  split at hk
  · next hpath =>
    simp only [hpath]
    exact Table.mem_keys_with (.inr hk) item
  · next hpath =>
    simp only [hpath]
    exact hk

/-- To make room for a table takes no other key away. -/
theorem mem_keys_of_editAndSee {root root' : Table} {found : Option Item} (hk : k ∈ root.keys)
    (h : Building.header.editAndSee (first :: more).dropLast root
      ((first :: more).getLast?.getD "") = .ok (root', found)) :
    k = first ∨ k ∈ root'.keys := by
  obtain ⟨edited, hedited, heq⟩ := exists_of_bind_eq_ok h
  cases heq
  cases more with
  | nil =>
    cases hedited
    by_cases hne : k = first
    · exact .inl hne
    · exact .inr (mem_keys_erase hk hne)
  | cons second more =>
    obtain ⟨item, rfl⟩ := editAt_cons hedited
    exact .inr (Table.mem_keys_with (.inr hk) item)

theorem Building.Knows.header (hk : b.Knows k) (h : b.header (first :: more) = .ok b') :
    b'.Knows k := by
  obtain ⟨root, hroot, h⟩ := exists_of_bind_eq_ok h
  obtain ⟨⟨root', found⟩, hsee, h⟩ := exists_of_bind_eq_ok h
  have hkept := mem_keys_of_editAndSee (hk.close hroot) hsee
  cases found with
  | none =>
    cases h
    exact hkept
  | some item =>
    cases item with
    | table t =>
      dsimp only at h
      split at h <;> cases h
      exact hkept
    | _ => cases h

theorem Building.Knows.arrayHeader (hk : b.Knows k) (h : b.arrayHeader (first :: more) = .ok b') :
    b'.Knows k := by
  obtain ⟨root, hroot, h⟩ := exists_of_bind_eq_ok h
  obtain ⟨root', hroot', h⟩ := exists_of_bind_eq_ok h
  cases h
  refine .inr ?_
  have hk' := hk.close hroot
  cases more with
  | nil =>
    simp only [List.dropLast_singleton, editAt] at hroot'
    split at hroot' <;> cases hroot'
    · exact Table.mem_keys_with (.inr hk') _
    · exact hk'
  | cons second more =>
    obtain ⟨item, rfl⟩ := editAt_cons hroot'
    exact Table.mem_keys_with (.inr hk') item

end Building

/-! ## Keys of texts -/

section Texts
variable {b b' : Building} {k : String} {path : List String} {cs rest : List Char}

theorem ok_of_takes_built {α : Type} {x : Except Cause α} {a : α} (h : Takes (built x) cs a rest) :
    x = .ok a := by
  cases x with
  | error cause => cases h
  | ok a' =>
    cases h
    rfl

/-- A key has a first part. -/
theorem exists_first_of_takes_key (h : Takes key cs path rest) :
    ∃ first more, path = first :: more := by
  obtain ⟨parts, mid, hparts, h⟩ := h.of_bind
  obtain ⟨first, _, -, hrest⟩ := hparts.of_explain.of_bind
  obtain ⟨more, _, -, hpure⟩ := hrest.of_bind
  cases hpure
  split at h
  · cases h
  · cases h
    exact ⟨first, more, rfl⟩

theorem knows_of_documentEntry (hk : b.Knows k) (h : Takes (documentEntry b) cs b' rest) :
    b'.Knows k := by
  obtain ⟨path, mid, hkey, h⟩ := h.of_bind
  obtain ⟨v, mid', -, h⟩ := h.of_bind
  obtain ⟨first, more, rfl⟩ := exists_first_of_takes_key hkey
  exact hk.entry (ok_of_takes_built h)

/-- The lines of both kinds of headers. -/
theorem knows_of_headerLine {opening closing : List Char} {what : List String}
    {step : List String → Except Cause Building}
    (hstep : ∀ first more, step (first :: more) = .ok b' → b'.Knows k)
    (h : Takes (do
      Reader.word opening
      let path ← Reader.committed key
      Reader.expecting what (Reader.committed (Reader.word closing))
      Reader.committed lineRestOnly
      built (step path)) cs b' rest) : b'.Knows k := by
  obtain ⟨-, _, -, h⟩ := h.of_bind
  obtain ⟨path, _, hkey, h⟩ := h.of_bind
  obtain ⟨-, _, -, h⟩ := h.of_bind
  obtain ⟨-, _, -, h⟩ := h.of_bind
  obtain ⟨first, more, rfl⟩ := exists_first_of_takes_key hkey.of_committed
  exact hstep first more (ok_of_takes_built h)

theorem knows_of_documentHeader (hk : b.Knows k) (h : Takes (documentHeader b) cs b' rest) :
    b'.Knows k := by
  have hheader := h.of_explain
  unfold Takes at hheader
  dsimp only at hheader
  split at hheader
  · exact knows_of_headerLine (fun _ _ => hk.arrayHeader) hheader
  · exact knows_of_headerLine (fun _ _ => hk.header) hheader
  · cases hheader

theorem knows_of_documentPart (hk : b.Knows k) (h : Takes (documentPart b) cs b' rest) :
    b'.Knows k := by
  obtain ⟨o, mid, -, h⟩ := h.of_bind
  split at h
  · cases h
  · obtain ⟨-, _, -, hb⟩ := h.of_bind
    cases hb
    exact hk
  · exact knows_of_documentHeader hk h.of_committed
  · obtain ⟨-, _, -, hb⟩ := h.of_bind
    cases hb
    exact hk
  · obtain ⟨-, _, -, hb⟩ := h.of_bind
    cases hb
    exact hk
  · exact knows_of_documentEntry hk h.of_committed

theorem knows_of_documentParts (hk : b.Knows k) {n : Nat}
    (h : Takes (documentParts n b) cs b' rest) : b'.Knows k := by
  induction n generalizing b cs with
  | zero =>
    cases h
    exact hk
  | succ n ih =>
    obtain ⟨o, mid, hpart, h⟩ := h.of_bind
    cases o with
    | none =>
      cases h
      exact hk
    | some b₁ =>
      obtain ⟨-, _, -, h⟩ := h.of_bind
      exact ih (knows_of_documentPart hk hpart.of_optional) h

/-- A line that starts with a key leads to an entry with that key, or nowhere. -/
theorem knows_of_line {spelled before : List Char} (hpath : b.path = [])
    (hkey : SpellsKey k spelled) (hbefore : IsBlanks before) {mid : List Char}
    (h : Takes (documentPart b) (spelled ++ (before ++ '=' :: mid)) b' rest) : b'.Knows k := by
  have hkeyTaken := takes_key hkey hbefore mid
  obtain ⟨c, more, rfl, hc⟩ := hkey.exists_head
  obtain ⟨o, _, ho, h⟩ := h.of_bind
  cases ho
  split at h
  · next heq => cases heq
  · next heq => cases heq; cases hc
  · next heq => cases heq; cases hc
  · next heq => cases heq; cases hc
  · next heq => cases heq; cases hc
  · obtain ⟨path, _, hpathTaken, h⟩ := h.of_committed.of_bind
    cases hkeyTaken.symm.trans hpathTaken
    obtain ⟨v, _, -, h⟩ := h.of_bind
    obtain ⟨item, rfl⟩ := entry_eq_ok (ok_of_takes_built h)
    unfold Building.Knows
    simp only [hpath]
    exact Table.mem_keys_with (.inl rfl) item

theorem knows_of_lines {spelled before mid : List Char} (hpath : b.path = [])
    (hkey : SpellsKey k spelled) (hbefore : IsBlanks before) {n : Nat}
    (hn : (spelled ++ (before ++ '=' :: mid)).length ≤ n)
    (h : Takes (documentParts n b) (spelled ++ (before ++ '=' :: mid)) b' []) : b'.Knows k := by
  cases n with
  | zero => simp at hn
  | succ n =>
    obtain ⟨o, _, hpart, h⟩ := h.of_bind
    cases o with
    | none =>
      -- the line is no part of a document, and then the text does not end here
      have hstays := hpart.of_optional_none
      cases h
      simp at hstays
    | some b₁ =>
      obtain ⟨-, _, -, h⟩ := h.of_bind
      exact knows_of_documentParts (knows_of_line hpath hkey hbefore hpart.of_optional) h

/-- A document of lines that goes on with a key has that key in its table, whatever follows. -/
theorem mem_keys_of_read {entries : List (String × Value)} {spelled before : List Char}
    {t : Table} (hlines : SpellsLines entries cs) (hnodup : (entries.map Prod.fst).Nodup)
    (hkey : SpellsKey k spelled) (hbefore : IsBlanks before)
    (h : read (String.ofList (cs ++ (spelled ++ (before ++ '=' :: rest)))) = .ok t) :
    k ∈ t.keys := by
  have hnotNext (q : Char → Bool) (hq : ∀ c, startsKey c → q c = false) :
      NotNext q (cs ++ (spelled ++ (before ++ '=' :: rest))) :=
    hlines.notNext hq (hkey.notNext hq _)
  have hmark : NotNext (· == '\uFEFF') (cs ++ (spelled ++ (before ++ '=' :: rest))) :=
    hnotNext _ fun c hc => beq_eq_false_iff_ne.mpr (startsKey_ne hc (by decide))
  have hblank : NotNext isBlank (spelled ++ (before ++ '=' :: rest)) :=
    hkey.notNext (fun _ => isBlank_of_startsKey) _
  obtain ⟨m, hm, hparts⟩ := documentParts_lines hlines (rfl : ({} : Building).current.isDotted = _)
    (by simpa using hnodup) hblank (Nat.le_refl _)
  rw [read, String.toList_ofList, document_eq hmark (hnotNext _ fun _ => isBlank_of_startsKey)] at h
  split at h
  · next b' rest' hdone =>
    obtain ⟨b, mid, hb, hend⟩ := Takes.of_bind hdone
    obtain ⟨_, mid', hatEnd, hpure⟩ := hend.of_bind
    cases hpure
    cases mid with
    | cons c mid => cases hatEnd
    | nil =>
      have hknows := knows_of_lines rfl hkey hbefore hm (hparts.symm.trans hb)
      split at h
      · next hclose =>
        cases h
        exact hknows.close hclose
      · cases h
  · cases h
  · cases h

end Texts

end PackageUsage.Toml
