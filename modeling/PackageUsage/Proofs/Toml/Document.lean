import PackageUsage.Proofs.Toml.Spelling

/-!
# Documents without headers

The lines of a document, each a key with its value, build up the top table in their order. A key of
the top table stays there whatever else the document says.
-/

namespace PackageUsage.Toml

/-! ## Keys -/

/-- The ways to spell a key of one part: as it is, or as a basic string. -/
inductive SpellsKey (k : String) : List Char → Prop
  | bare (hne : k.toList ≠ []) (hk : ∀ c ∈ k.toList, isBare c) : SpellsKey k k.toList
  | quoted {cs : List Char} (h : SpellsString k cs) : SpellsKey k cs

/-- The characters that a key starts with. -/
def startsKey (c : Char) : Bool :=
  isBare c || c == '"'

section Keys
variable {k : String} {c : Char} {cs before rest : List Char}

theorem startsKey_ne (h : startsKey c) {d : Char} (hd : startsKey d = false) : c ≠ d := by
  rintro rfl
  rw [hd] at h
  cases h

theorem SpellsKey.exists_head (h : SpellsKey k cs) : ∃ c more, cs = c :: more ∧ startsKey c := by
  cases h with
  | bare hne hk =>
    cases hchars : k.toList with
    | nil => exact absurd hchars hne
    | cons c more =>
      refine ⟨c, more, rfl, ?_⟩
      rw [startsKey, hk c (by simp [hchars])]
      rfl
  | quoted h =>
    obtain ⟨body, -, rfl⟩ := h
    exact ⟨'"', _, rfl, rfl⟩

theorem SpellsKey.notNext (h : SpellsKey k cs) {q : Char → Bool}
    (hq : ∀ c, startsKey c → q c = false) (rest : List Char) : NotNext q (cs ++ rest) := by
  obtain ⟨c, more, rfl, hc⟩ := h.exists_head
  exact .cons (hq c hc) _

theorem isBlank_of_startsKey (h : startsKey c) : isBlank c = false := by
  rw [isBlank, Bool.or_eq_false_iff, beq_eq_false_iff_ne, beq_eq_false_iff_ne]
  exact ⟨startsKey_ne h rfl, startsKey_ne h rfl⟩

theorem takes_simpleKey (h : SpellsKey k cs) (hrest : NotNext isBare rest) :
    Takes simpleKey (cs ++ rest) k rest := by
  cases h with
  | bare hne hk =>
    have htaken := Takes.takeWhile1 hne hk hrest
    cases hchars : k.toList with
    | nil => exact absurd hchars hne
    | cons c more =>
      have hc : isBare c := hk c (by simp [hchars])
      rw [hchars] at htaken
      refine (Takes.next? c _).bind ?_
      split
      · next heq => cases heq; cases hc
      · next heq => cases heq; cases hc
      · refine htaken.bind ?_
        rw [← hchars, String.ofList_toList]
        exact .pure _ _
      · next heq => cases heq
  | quoted h =>
    obtain ⟨body, hbody, rfl⟩ := h
    have htaken := takes_basicString hbody rest
    rw [String.ofList_toList] at htaken
    rw [List.cons_append, List.append_assoc]
    exact (Takes.next? '"' _).bind htaken

/-- A part of a key with the blanks around it. -/
def keyPart : Reader String := do
  blanks
  let k ← simpleKey
  blanks
  return k

theorem takes_key (h : SpellsKey k cs) (hbefore : IsBlanks before) (rest : List Char) :
    Takes key (cs ++ (before ++ '=' :: rest)) [k] ('=' :: rest) := by
  have hbare : NotNext isBare (before ++ '=' :: rest) :=
    .append_of_forall (hbefore.forall_false rfl rfl) (.cons rfl rest)
  have hfront : Takes blanks (cs ++ (before ++ '=' :: rest)) () (cs ++ (before ++ '=' :: rest)) :=
    takes_noBlanks (h.notNext (fun _ => isBlank_of_startsKey) _)
  have hbehind := takes_blanks hbefore (.cons rfl rest : NotNext isBlank ('=' :: rest))
  have hpart : Takes keyPart (cs ++ (before ++ '=' :: rest)) k ('=' :: rest) :=
    hfront.bind ((takes_simpleKey h hbare).bind (hbehind.bind (.pure k _)))
  have hlast : Repeats (Reader.andThen (Reader.char '.') fun _ => keyPart) ('=' :: rest) []
      ('=' :: rest) :=
    .stop (.bind (.charWhere (.cons rfl rest)) _)
  have hparts : Takes (Reader.labelled "key" do
      let first ← keyPart
      let rest ← Reader.many (Reader.andThen (Reader.char '.') fun _ => keyPart)
      return first :: rest) (cs ++ (before ++ '=' :: rest)) [k] ('=' :: rest) :=
    .labelled (hpart.bind (hlast.many.bind (.pure [k] _))) _
  exact hparts.bind (.pure [k] _)

end Keys

/-! ## Tables -/

section Tables
variable {α : Type} {k : String} {entries : List (String × α)}

theorem lookup?_eq_none_iff : lookup? k entries = none ↔ k ∉ entries.map Prod.fst := by
  induction entries with
  | nil => simp [lookup?]
  | cons e entries ih =>
    obtain ⟨j, a⟩ := e
    by_cases hj : j = k
    · simp [lookup?, hj]
    · simp [lookup?, hj, ih, Ne.symm hj]

theorem put_of_not_mem (h : k ∉ entries.map Prod.fst) (a : α) :
    put k a entries = entries ++ [(k, a)] := by
  induction entries with
  | nil => rfl
  | cons e entries ih =>
    rw [List.map_cons, List.mem_cons, not_or] at h
    rw [put, if_neg (by simpa using Ne.symm h.1), ih h.2]
    rfl

end Tables

/-- Some more entries below those of the current table. -/
def Building.add (b : Building) (entries : List (String × Value)) : Building :=
  { b with current := { b.current with
      entries := b.current.entries ++ entries.map fun e => (e.1, .value e.2) } }

theorem Building.entry_new {b : Building} {k : String} (hdotted : b.current.isDotted = false)
    (hnew : k ∉ b.current.entries.map Prod.fst) (v : Value) :
    b.entry [k] v = .ok (b.add [(k, v)]) := by
  obtain ⟨root, ⟨isImplicit, isDotted, entries⟩, path, inArray⟩ := b
  obtain rfl : isDotted = false := hdotted
  have hlookup : lookup? k entries = none := lookup?_eq_none_iff.mpr hnew
  have hput : put k (Item.value v) entries = entries ++ [(k, .value v)] := put_of_not_mem hnew _
  simp only [Building.entry, editAt, List.dropLast_singleton, List.getLast?_singleton,
    Option.getD_some, hlookup, hput]
  rfl

/-! ## Lines -/

/-- A line with a key and its value. -/
inductive SpellsLine (k : String) (v : Value) : List Char → Prop
  | mk {key before after value behind : List Char} (hkey : SpellsKey k key)
      (hbefore : IsBlanks before) (hafter : IsBlanks after) (hvalue : SpellsValue v value)
      (hbehind : IsBlanks behind) :
      SpellsLine k v (key ++ (before ++ '=' :: (after ++ (value ++ (behind ++ ['\n'])))))

/-- Lines one below the other. -/
inductive SpellsLines : List (String × Value) → List Char → Prop
  | nil : SpellsLines [] []
  | cons {k : String} {v : Value} {entries : List (String × Value)} {line cs : List Char}
      (hline : SpellsLine k v line) (hmore : SpellsLines entries cs) :
      SpellsLines ((k, v) :: entries) (line ++ cs)

section Lines
variable {k : String} {v : Value} {entries : List (String × Value)} {b b' : Building}
  {cs line behind rest : List Char}

theorem takes_equalsSign (rest : List Char) : Takes equalsSign ('=' :: rest) () rest :=
  .expecting (.bind (.char '=' rest) (.pure () _)) _

theorem takes_lineRestOnly (hbehind : IsBlanks behind) (rest : List Char) :
    Takes lineRestOnly (behind ++ '\n' :: rest) () rest := by
  have hblanks := takes_blanks hbehind (.cons rfl rest : NotNext isBlank ('\n' :: rest))
  have hcomment : Refuses comment ('\n' :: rest) := .bind (.charWhere (.cons rfl rest)) _
  exact .expecting (hblanks.bind (hcomment.optional.bind (.orTry (.orTry (.word ['\n'] rest))))) _

theorem SpellsValue.notNext_blank (h : SpellsValue v cs) (rest : List Char) :
    NotNext isBlank (cs ++ rest) := by
  cases h with
  | string h =>
    obtain ⟨body, -, rfl⟩ := h
    exact .cons rfl _
  | _ => exact .cons rfl _

theorem takes_documentEntry (h : SpellsLine k v line) (hb : b.entry [k] v = .ok b')
    (rest : List Char) : Takes (documentEntry b) (line ++ rest) b' rest := by
  obtain ⟨hkey, hbefore, hafter, hvalue, hbehind⟩ := h
  simp only [List.append_assoc, List.cons_append, List.nil_append]
  have hquote : NotNext (· == '"') (_ ++ '\n' :: rest) :=
    .append_of_forall (hbehind.forall_false rfl rfl) (.cons rfl rest)
  have hbuilt : Takes (built (b.entry [k] v)) rest b' rest := by
    rw [hb]
    exact .pure b' rest
  refine (takes_key hkey hbefore _).bind (Takes.bind (.committed ?_) hbuilt)
  refine (takes_equalsSign _).bind ((takes_blanks hafter (hvalue.notNext_blank _)).bind ?_)
  exact (takes_value hvalue hquote 78).bind ((takes_lineRestOnly hbehind rest).bind (.pure v _))

theorem takes_documentPart (h : SpellsLine k v line) (hb : b.entry [k] v = .ok b')
    (rest : List Char) : Takes (documentPart b) (line ++ rest) b' rest := by
  have hentry := takes_documentEntry h hb rest
  obtain ⟨hkey, -, -, -, -⟩ := h
  obtain ⟨c, more, rfl, hc⟩ := hkey.exists_head
  refine (Takes.next? c _).bind ?_
  split
  · next heq => cases heq
  · next heq => cases heq; cases hc
  · next heq => cases heq; cases hc
  · next heq => cases heq; cases hc
  · next heq => cases heq; cases hc
  · exact hentry.committed

theorem documentParts_eq (h : Takes (documentPart b) cs b' rest) (hrest : NotNext isBlank rest)
    (n : Nat) : documentParts (n + 1) b cs = documentParts n b' rest :=
  (h.optional.bind_eq _).trans ((takes_noBlanks hrest).bind_eq _)

theorem SpellsLine.exists_key (h : SpellsLine k v line) (rest : List Char) :
    ∃ key rest', SpellsKey k key ∧ line ++ rest = key ++ rest' := by
  obtain ⟨hkey, -, -, -, -⟩ := h
  exact ⟨_, _, hkey, List.append_assoc ..⟩

theorem SpellsLines.notNext (h : SpellsLines entries cs) {q : Char → Bool}
    (hq : ∀ c, startsKey c → q c = false) (hrest : NotNext q rest) : NotNext q (cs ++ rest) := by
  cases h with
  | nil => exact hrest
  | cons hline _ =>
    rw [List.append_assoc]
    obtain ⟨key, rest', hkey, heq⟩ := hline.exists_key _
    rw [heq]
    exact hkey.notNext hq _

/-- Lines with new keys add their entries to the current table, whatever follows them. -/
theorem documentParts_lines (h : SpellsLines entries cs) (hdotted : b.current.isDotted = false)
    (hnew : (b.current.entries.map Prod.fst ++ entries.map Prod.fst).Nodup)
    (hrest : NotNext isBlank rest) {n : Nat} (hn : (cs ++ rest).length ≤ n) :
    ∃ m, rest.length ≤ m ∧
      documentParts n b (cs ++ rest) = documentParts m (b.add entries) rest := by
  induction h generalizing b n with
  | nil =>
    have hadd : b.add [] = b := by simp [Building.add]
    exact ⟨n, hn, by rw [hadd]; rfl⟩
  | @cons k v entries line cs hline hmore ih =>
    have hk : k ∉ b.current.entries.map Prod.fst := by
      intro hmem
      exact (List.nodup_append.mp hnew).2.2 k hmem k List.mem_cons_self rfl
    have hadd : (b.add [(k, v)]).add entries = b.add ((k, v) :: entries) := by
      simp [Building.add]
    have hmid : NotNext isBlank (cs ++ rest) :=
      hmore.notNext (fun _ => isBlank_of_startsKey) hrest
    have hpart := takes_documentPart hline (Building.entry_new hdotted hk v) (cs ++ rest)
    have hlength : 0 < line.length := by
      obtain ⟨key, rest', hkey, heq⟩ := hline.exists_key []
      obtain ⟨c, more, rfl, -⟩ := hkey.exists_head
      rw [List.append_nil] at heq
      simp [heq]
    rw [List.append_assoc] at hn ⊢
    obtain ⟨n, rfl⟩ : ∃ n', n = n' + 1 := ⟨n - 1, by rw [List.length_append] at hn; omega⟩
    have hnew' : ((b.add [(k, v)]).current.entries.map Prod.fst ++
        entries.map Prod.fst).Nodup := by
      simpa [Building.add] using hnew
    have hn' : (cs ++ rest).length ≤ n := by
      rw [List.length_append] at hn
      omega
    obtain ⟨m, hm, heq⟩ := ih (b := b.add [(k, v)]) hdotted hnew' hn'
    refine ⟨m, hm, ?_⟩
    rw [documentParts_eq hpart hmid, heq, hadd]

theorem documentParts_end (b : Building) (n : Nat) : Takes (documentParts n b) [] b [] := by
  cases n with
  | zero => exact .pure b []
  | succ n =>
    have hpart : Refuses (documentPart b) [] := ⟨_, rfl⟩
    exact hpart.optional.bind (.pure b [])

theorem document_eq (hmark : NotNext (· == '\uFEFF') cs) (hblank : NotNext isBlank cs) :
    document cs =
      (documentParts cs.length {} >>= fun b => Reader.atEnd >>= fun _ => pure b) cs := by
  have hnoMark : Refuses (Reader.char '\uFEFF') cs := .charWhere hmark
  have hlength : Takes Reader.remaining cs cs.length cs := rfl
  exact (hnoMark.optional.bind_eq _).trans
    (((takes_noBlanks hblank).bind_eq _).trans (hlength.bind_eq _))

/-- The entries of a document of lines, in their order. -/
theorem read_lines (h : SpellsLines entries cs) (hnodup : (entries.map Prod.fst).Nodup) :
    read (String.ofList cs) = .ok { entries := entries.map fun e => (e.1, .value e.2) } := by
  have hnotNext (q : Char → Bool) (hq : ∀ c, startsKey c → q c = false) : NotNext q cs := by
    have hend := h.notNext hq (nofun : NotNext q [])
    rwa [List.append_nil] at hend
  have hmark : NotNext (· == '\uFEFF') cs :=
    hnotNext _ fun c hc => beq_eq_false_iff_ne.mpr (startsKey_ne hc (by decide))
  have hend : NotNext isBlank [] := nofun
  obtain ⟨m, -, hparts⟩ : ∃ m, 0 ≤ m ∧
      documentParts cs.length {} (cs ++ []) = documentParts m (Building.add {} entries) [] :=
    documentParts_lines h rfl (by simpa using hnodup) hend (by simp)
  rw [List.append_nil] at hparts
  have hdocument : document cs = .done (Building.add {} entries) [] := by
    rw [document_eq hmark (hnotNext _ fun _ => isBlank_of_startsKey)]
    exact Takes.bind (hparts.trans (documentParts_end _ m)) (.pure _ _)
  rw [read, String.toList_ofList, hdocument]
  simp [Building.add, Building.close]

end Lines

/-- Lines for entries, with their keys as they are. -/
def writeLines (entries : List (String × Value)) : List Char :=
  entries.flatMap fun e =>
    e.1.toList ++ ([' '] ++ '=' :: ([' '] ++ (writeValue e.2 ++ ([] ++ ['\n']))))

theorem spellsLines_writeLines {entries : List (String × Value)}
    (hkeys : ∀ e ∈ entries, SpellsKey e.1 e.1.toList)
    (hvalues : ∀ e ∈ entries, SpellsValue e.2 (writeValue e.2)) :
    SpellsLines entries (writeLines entries) := by
  have hblank : IsBlanks [' '] := by simp [IsBlanks, isBlank]
  induction entries with
  | nil => exact .nil
  | cons e entries ih =>
    have hline := SpellsLine.mk (hkeys e List.mem_cons_self) hblank hblank
      (hvalues e List.mem_cons_self) isBlanks_nil
    exact .cons hline (ih (fun e he => hkeys e (List.mem_cons_of_mem _ he))
      fun e he => hvalues e (List.mem_cons_of_mem _ he))

end PackageUsage.Toml
