import PackageUsage.Settings
import PackageUsage.Proofs.Toml.Kept

/-!
# Settings written and read back

Settings are read back from every text that spells their entries, in whatever order these stand, and
a text with a key of its own in the top table is no settings file.
-/

namespace PackageUsage.Settings

open Toml (Value Item SpellsKey SpellsLines SpellsValue IsBlanks)

/-- The keys of a settings file. -/
def fieldNames : List String :=
  ["target", "mode", "exclude", "patterns", "respect_gitignore"]

/-- A list of texts under a key; an empty one may be left out. -/
def listEntry (key : String) (texts : List String) (shown : Bool) : List (String × Value) :=
  if texts.isEmpty && !shown then [] else [(key, .array (texts.map .string))]

/-- The entries that say what settings hold. Two flags tell whether lists that are empty have an
entry. -/
def entries (s : Settings) (emptyExclude emptyPatterns : Bool) : List (String × Value) :=
  (s.target.map fun text => ("target", Value.string text)).toList
    ++ (s.mode.map fun mode => ("mode", Value.string mode.name)).toList
    ++ listEntry "exclude" s.exclude emptyExclude
    ++ listEntry "patterns" s.patterns emptyPatterns
    ++ (s.respectIgnoreFiles.map fun b => ("respect_gitignore", Value.boolean b)).toList

/-- Takes the field with a key from other settings. -/
def copy (s t : Settings) (key : String) : Settings where
  target := if key = "target" then s.target else t.target
  mode := if key = "mode" then s.mode else t.mode
  exclude := if key = "exclude" then s.exclude else t.exclude
  patterns := if key = "patterns" then s.patterns else t.patterns
  respectIgnoreFiles := if key = "respect_gitignore" then s.respectIgnoreFiles
    else t.respectIgnoreFiles

section Entries
variable {s t : Settings} {emptyExclude emptyPatterns : Bool} {key : String} {v : Value}
  {es : List (String × Value)}

theorem mem_listEntry_iff {texts : List String} {shown : Bool} {e : String × Value} {k : String} :
    e ∈ listEntry k texts shown ↔
      e = (k, .array (texts.map .string)) ∧ (texts ≠ [] ∨ shown) := by
  unfold listEntry
  cases texts <;> cases shown <;> simp

theorem textsOf_strings (texts : List String) :
    textsOf (.value (.array (texts.map .string))) = .ok texts := by
  show (texts.map Value.string).mapM (fun v => textOf (.value v)) = _
  induction texts with
  | nil => rfl
  | cons text texts ih => rw [List.map_cons, List.mapM_cons, ih]; rfl

theorem modeOf_name (mode : TargetMode) : modeOf (.value (.string mode.name)) = .ok mode := by
  cases mode <;> rfl

/-- What the entries of settings are. -/
inductive IsEntry (s : Settings) : String → Value → Prop
  | target {text : String} (h : s.target = some text) : IsEntry s "target" (.string text)
  | mode {mode : TargetMode} (h : s.mode = some mode) : IsEntry s "mode" (.string mode.name)
  | exclude : IsEntry s "exclude" (.array (s.exclude.map .string))
  | patterns : IsEntry s "patterns" (.array (s.patterns.map .string))
  | respectIgnoreFiles {b : Bool} (h : s.respectIgnoreFiles = some b) :
    IsEntry s "respect_gitignore" (.boolean b)

theorem isEntry_of_mem (h : (key, v) ∈ s.entries emptyExclude emptyPatterns) :
    IsEntry s key v := by
  simp only [entries, List.mem_append, mem_listEntry_iff, Option.mem_toList,
    Option.map_eq_some_iff, Prod.mk.injEq] at h
  rcases h with (((⟨text, htext, rfl, rfl⟩ | ⟨mode, hmode, rfl, rfl⟩) | ⟨⟨rfl, rfl⟩, -⟩) |
    ⟨⟨rfl, rfl⟩, -⟩) | ⟨b, hb, rfl, rfl⟩
  · exact .target htext
  · exact .mode hmode
  · exact .exclude
  · exact .patterns
  · exact .respectIgnoreFiles hb

/-- An entry of settings is taken for what it says. -/
theorem IsEntry.set_eq (h : IsEntry s key v) (t : Settings) :
    set t (key, .value v) = .ok (copy s t key) := by
  cases h with
  | @target text h =>
    show Except.ok { t with target := some text } = _
    simp [copy, h]
  | @mode mode h =>
    show modeOf (.value (.string mode.name)) >>= _ = _
    rw [modeOf_name]
    show Except.ok { t with mode := some mode } = _
    simp [copy, h]
  | exclude =>
    show textsOf (.value (.array (s.exclude.map .string))) >>= _ = _
    rw [textsOf_strings]
    show Except.ok { t with exclude := s.exclude } = _
    simp [copy]
  | patterns =>
    show textsOf (.value (.array (s.patterns.map .string))) >>= _ = _
    rw [textsOf_strings]
    show Except.ok { t with patterns := s.patterns } = _
    simp [copy]
  | @respectIgnoreFiles b h =>
    show Except.ok { t with respectIgnoreFiles := some b } = _
    simp [copy, h]

theorem IsEntry.mem_fieldNames (h : IsEntry s key v) : key ∈ fieldNames := by
  cases h <;> decide

theorem IsEntry.spellsKey (h : IsEntry s key v) : SpellsKey key key.toList := by
  have hall : ∀ k ∈ fieldNames, k.toList ≠ [] ∧ k.toList.all Toml.isBare := by decide
  obtain ⟨hne, hbare⟩ := hall key h.mem_fieldNames
  exact .bare hne (List.all_eq_true.mp hbare)

theorem IsEntry.spellsValue (h : IsEntry s key v) : SpellsValue v (Toml.writeValue v) := by
  cases h with
  | target | mode => exact Toml.spellsValue_string _
  | exclude | patterns => exact Toml.spellsValue_texts _
  | respectIgnoreFiles => exact Toml.spellsValue_boolean _

/-- Entries of settings are taken one after the other. -/
theorem foldlM_set (h : ∀ e ∈ es, e ∈ s.entries emptyExclude emptyPatterns) (t : Settings) :
    (es.map fun e => (e.1, Item.value e.2)).foldlM set t =
      .ok ((es.map Prod.fst).foldl (copy s) t) := by
  induction es generalizing t with
  | nil => rfl
  | cons e es ih =>
    rw [List.map_cons, List.foldlM_cons, (isEntry_of_mem (h e List.mem_cons_self)).set_eq]
    exact ih (fun e he => h e (List.mem_cons_of_mem _ he)) _

theorem foldl_copy (s t : Settings) (keys : List String) :
    keys.foldl (copy s) t =
      { target := if "target" ∈ keys then s.target else t.target
        mode := if "mode" ∈ keys then s.mode else t.mode
        exclude := if "exclude" ∈ keys then s.exclude else t.exclude
        patterns := if "patterns" ∈ keys then s.patterns else t.patterns
        respectIgnoreFiles := if "respect_gitignore" ∈ keys then s.respectIgnoreFiles
          else t.respectIgnoreFiles } := by
  induction keys generalizing t with
  | nil => simp
  | cons key keys ih =>
    have hfield {α : Type} (k : String) (a b : α) :
        (if k ∈ keys then a else if key = k then a else b) =
          if k ∈ key :: keys then a else b := by
      by_cases hk : k ∈ keys
      · simp [hk]
      · by_cases hkey : key = k
        · simp [hkey]
        · simp [hk, hkey, Ne.symm hkey]
    rw [List.foldl_cons, ih]
    simp only [copy, hfield]

theorem mem_keys_entries_iff :
    key ∈ (s.entries emptyExclude emptyPatterns).map Prod.fst ↔
      key = "target" ∧ s.target ≠ none ∨ key = "mode" ∧ s.mode ≠ none ∨
      key = "exclude" ∧ (s.exclude ≠ [] ∨ emptyExclude) ∨
      key = "patterns" ∧ (s.patterns ≠ [] ∨ emptyPatterns) ∨
      key = "respect_gitignore" ∧ s.respectIgnoreFiles ≠ none := by
  have hoption {α : Type} (k : String) (o : Option α) (f : α → Value) :
      key ∈ (o.map fun a => (k, f a)).toList.map Prod.fst ↔ key = k ∧ o ≠ none := by
    cases o <;> simp
  have hlist (k : String) (texts : List String) (shown : Bool) :
      key ∈ (listEntry k texts shown).map Prod.fst ↔ key = k ∧ (texts ≠ [] ∨ shown) := by
    unfold listEntry
    cases texts <;> cases shown <;> simp
  simp only [entries, List.map_append, List.mem_append, hoption, hlist, or_assoc]

/-- The fields without an entry are empty. -/
theorem foldl_copy_entries (s : Settings) (emptyExclude emptyPatterns : Bool) :
    ((s.entries emptyExclude emptyPatterns).map Prod.fst).foldl (copy s) {} = s := by
  have hoption {α : Type} (o : Option α) : (if o ≠ none then o else none) = o := by
    cases o <;> rfl
  have hlist (texts : List String) (shown : Bool) :
      (if texts ≠ [] ∨ shown then texts else []) = texts := by
    cases texts <;> simp
  rw [foldl_copy]
  simp only [mem_keys_entries_iff]
  simp [hoption, hlist]

theorem nodup_entries (s : Settings) (emptyExclude emptyPatterns : Bool) :
    ((s.entries emptyExclude emptyPatterns).map Prod.fst).Nodup := by
  unfold entries listEntry
  cases s.target <;> cases s.mode <;> cases s.respectIgnoreFiles <;> split <;> split <;> simp

theorem nodup_of_perm (h : es.Perm (s.entries emptyExclude emptyPatterns)) :
    (es.map Prod.fst).Nodup :=
  (h.map Prod.fst).nodup_iff.mpr (nodup_entries ..)

theorem foldl_copy_of_perm (h : es.Perm (s.entries emptyExclude emptyPatterns)) :
    (es.map Prod.fst).foldl (copy s) {} = s := by
  have hkeys (k : String) : k ∈ es.map Prod.fst ↔
      k ∈ (s.entries emptyExclude emptyPatterns).map Prod.fst := (h.map Prod.fst).mem_iff
  have hentries := foldl_copy_entries s emptyExclude emptyPatterns
  rw [foldl_copy] at hentries ⊢
  simp only [hkeys]
  exact hentries

/-- Settings are read back from every spelling of their entries in every order. -/
theorem ofText_spelled (h : es.Perm (s.entries emptyExclude emptyPatterns)) {text : List Char}
    (htext : SpellsLines es text) : ofText (String.ofList text) = .ok s := by
  have hset := foldlM_set (fun e he => h.mem_iff.mp he) ({} : Settings)
  rw [foldl_copy_of_perm h] at hset
  rw [ofText, Toml.read_lines htext (nodup_of_perm h)]
  simp only [hset]

/-- Every list of entries that settings have can be written. -/
theorem spellsLines_of_perm (h : es.Perm (s.entries emptyExclude emptyPatterns)) :
    SpellsLines es (Toml.writeLines es) :=
  Toml.spellsLines_writeLines (fun _ he => (isEntry_of_mem (h.mem_iff.mp he)).spellsKey)
    fun _ he => (isEntry_of_mem (h.mem_iff.mp he)).spellsValue

/-! ## Other keys -/

theorem set_of_not_mem (h : key ∉ fieldNames) (t : Settings) (item : Item) :
    set t (key, item) = .error (.unknownField key) := by
  unfold set
  split <;> next heq =>
    cases heq
    first
      | exact absurd (by decide) h
      | rfl

theorem foldlM_set_of_not_mem {items : List (String × Item)} (h : ∃ e ∈ items, e.1 ∉ fieldNames)
    (t : Settings) : ∃ misfit, items.foldlM set t = .error misfit := by
  induction items generalizing t with
  | nil =>
    obtain ⟨e, he, -⟩ := h
    cases he
  | cons item items ih =>
    rw [List.foldlM_cons]
    cases hset : set t item with
    | error misfit => exact ⟨misfit, rfl⟩
    | ok t' =>
      obtain ⟨e, he, hname⟩ := h
      rcases List.mem_cons.mp he with rfl | he
      · rw [set_of_not_mem hname] at hset
        cases hset
      · exact ih ⟨e, he, hname⟩ t'

end Entries

/-- A text with another key in its top table, however it is spelled, is refused. -/
theorem ofText_of_key {text : String} {table : Toml.Table} (hread : Toml.read text = .ok table)
    (hkey : ∃ k ∈ table.keys, k ∉ fieldNames) : ∃ message, ofText text = .error message := by
  have hentry : ∃ e ∈ table.entries, e.1 ∉ fieldNames := by
    obtain ⟨k, hk, hname⟩ := hkey
    obtain ⟨e, he, rfl⟩ := List.mem_map.mp hk
    exact ⟨e, he, hname⟩
  obtain ⟨misfit, hmisfit⟩ := foldlM_set_of_not_mem hentry {}
  refine ⟨misfit.message, ?_⟩
  rw [ofText, hread]
  simp only [hmisfit]

/-- Settings survive being written and read: every spelling of their entries, in every order and
with empty lists written or left out, is read back as exactly these settings, and such a spelling
exists for every order. A further key is refused: at every place among the entries, whatever value
and whatever else follows it, and also where a dotted key or a header gives it to the top table. -/
theorem ofText_written (s : Settings) (emptyExclude emptyPatterns : Bool)
    {es : List (String × Value)} (hes : es.Perm (s.entries emptyExclude emptyPatterns)) :
    SpellsLines es (Toml.writeLines es) ∧
    (∀ text, SpellsLines es text → ofText (String.ofList text) = .ok s) ∧
    (∀ before after text key spelled blanks rest, es = before ++ after →
      SpellsLines before text → key ∉ fieldNames → SpellsKey key spelled → IsBlanks blanks →
      ∃ message, ofText (String.ofList (text ++ (spelled ++ (blanks ++ '=' :: rest)))) =
        .error message) ∧
    ∀ text table, Toml.read text = .ok table → (∃ key ∈ table.keys, key ∉ fieldNames) →
      ∃ message, ofText text = .error message := by
  refine ⟨spellsLines_of_perm hes, fun text => ofText_spelled hes, ?_, fun _ _ => ofText_of_key⟩
  rintro before after text key spelled blanks rest rfl htext hkey hspelled hblanks
  have hnodup : (before.map Prod.fst).Nodup := by
    have hboth := nodup_of_perm hes
    rw [List.map_append] at hboth
    exact (List.nodup_append.mp hboth).1
  cases hread : Toml.read (String.ofList (text ++ (spelled ++ (blanks ++ '=' :: rest)))) with
  | error message => exact ⟨message, by rw [ofText, hread]⟩
  | ok table =>
    have hmem := Toml.mem_keys_of_read htext hnodup hspelled hblanks hread
    exact ofText_of_key hread ⟨key, hmem, hkey⟩

/-- A text in the order of the keys read backwards, with a quote, a control character and a list
that is empty; and a name with a slip. -/
theorem ofText_written_reversed :
    ofText "patterns = []\nexclude = [\"x\",\"ü\"]\ntarget = \"a\\\"b\\u0001\"\n" =
      .ok { target := some "a\"b\x01", exclude := ["x", "ü"] } ∧
    ∃ message, ofText "targt = 1\n" = .error message := by
  have hwritten := ofText_written { target := some "a\"b\x01", exclude := ["x", "ü"] } false true
    (List.reverse_perm _)
  obtain ⟨hspelled, hread, hforeign, -⟩ := hwritten
  constructor
  · exact hread _ hspelled
  · have hbare : "targt".toList.all Toml.isBare := by decide
    have hkey : SpellsKey "targt" "targt".toList := .bare (by decide) (List.all_eq_true.mp hbare)
    exact hforeign [] _ [] "targt" "targt".toList [' '] [' ', '1', '\n'] rfl .nil (by decide) hkey
      (by simp [IsBlanks, Toml.isBlank])

end PackageUsage.Settings
