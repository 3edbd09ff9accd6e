import PackageUsage.Proofs.Source.Declared
import PackageUsage.Source.Grammar.Modules

/-!
# Lists between braces

The lists of imports and of exports differ in how a name is spelled and read, and in what may stand
before an element. From a reader of names follow the elements, from these the list of any length, by
induction on the elements behind the first, and from it the list with its braces.
-/

namespace PackageUsage.Source

open PackageUsage.Source.Parser PackageUsage.Source.Grammar

variable {ν : Type} {spell : ν → List Char} {text : ν → String} {name : Role → Parser Unit}
  {e : Context} {c c' m : Cursor} {d : Dialect}

/-! ## Elements -/

/-- A mark comes next, and a word could end here. -/
structure Divides (d : Dialect) (c : Cursor) : Prop where
  ends : WordEnds c.rest
  next : ∃ x m c', Lexes d c (.mark x) m c'

/-- Parsers of names in two roles, with the characters and the text of each name. -/
structure NameReader (e : Context) (spell : ν → List Char) (text : ν → String)
    (name : Role → Parser Unit) : Prop where
  nonempty : ∀ n, text n ≠ ""
  lexes : ∀ {n c m c'}, Stands e.dialect c m (spell n) c' → WordEnds c'.rest →
    ∃ k, Lexes e.dialect c k m c' ∧ ∀ x, k ≠ .mark x
  reads : ∀ {n c m c'}, Stands e.dialect c m (spell n) c' → WordEnds c'.rest → ∀ role,
    ∃ t, Reads e (name role) c () [t] c' ∧ t.NameLeaf (some role) (text n)

/-- An element starts with its name. -/
theorem element_name (hd : d.strict = false) {el : Element ν}
    (h : Stands d c m (el.chars spell) c') (hends : WordEnds c'.rest) :
    ∃ x, Stands d c m (spell el.name) x ∧ WordEnds x.rest := by
  obtain ⟨n, new⟩ := el
  cases new with
  | none =>
    rw [Element.chars, List.append_nil] at h
    exact ⟨c', h, hends⟩
  | some r =>
    simp only [Element.chars, List.append_assoc] at h
    obtain ⟨x, y, hx, hblank, -⟩ := h.split_gap hd
    exact ⟨x, hx, hblank.wordEnds⟩

/-- The name of an element, and the new name behind the word `as`. -/
def renamable (name : Role → Parser Unit) : Parser Unit := do
  name .name
  if ← optionalWord "as" then name .renaming

namespace NameReader

theorem reads_renamable (hd : e.dialect.strict = false) (hname : NameReader e spell text name)
    {el : Element ν} (h : Stands e.dialect c m (el.chars spell) c') (hdiv : Divides e.dialect c') :
    ∃ ts, Reads e (renamable name) c () ts c' ∧
      ∀ info : NodeInfo, info.missing = false →
        info.kind ∉ [.error, .importStatement, .exportStatement] →
        Tree.Names info.kind (text el.bound) (.node info ts) := by
  obtain ⟨n, new⟩ := el
  cases new with
  | none =>
    rw [Element.chars, List.append_nil] at h
    obtain ⟨t, hread, ht⟩ := hname.reads h hdiv.ends .name
    obtain ⟨x, y, z, hmark⟩ := hdiv.next
    refine ⟨[t], ?_, fun info hmissing hkind =>
      Tree.names_of_name hmissing hkind (hname.nonempty n) ht⟩
    exact hread.bind (.silent_bind (.optionalWord_absent hmark (by simp)) (.pure ()))
  | some r =>
    simp only [Element.chars, List.append_assoc] at h
    obtain ⟨x, y, hx, hblank, hy⟩ := h.split_gap hd
    obtain ⟨z, w, hz, hblank', hw⟩ := hy.split_gap hd
    obtain ⟨t, hread, ht⟩ := hname.reads hx hblank.wordEnds .name
    obtain ⟨u, hread', hu⟩ := hname.reads hw hdiv.ends .renaming
    have has : Lexes e.dialect x (.word "as") y z :=
      Lexes.keyword hd hz (by decide) hblank'.wordEnds
    refine ⟨[t, u], ?_, fun info hmissing hkind =>
      Tree.names_of_renaming hmissing hkind (hname.nonempty r.name) ht hu⟩
    exact hread.bind ((Reads.optionalWord has).bind hread')

end NameReader

/-! ## Lists -/

/-- A parser of elements, each into one node that binds the name of the element. -/
structure ElementReader (e : Context) (spell : ν → List Char) (text : ν → String)
    (kind : NodeKind) (item : Parser Unit) : Prop where
  lexes : ∀ {el : Element ν} {c m c'}, Stands e.dialect c m (el.chars spell) c' →
    WordEnds c'.rest → ∃ k x, Lexes e.dialect c k m x ∧ ∀ y, k ≠ .mark y
  reads : ∀ {el : Element ν} {c m c'}, Stands e.dialect c m (el.chars spell) c' →
    Divides e.dialect c' → ∃ t, Reads e item c () [t] c' ∧ t.Names kind (text el.bound)

theorem followingChars_cons (f : Following ν) (fs : List (Following ν)) :
    Braced.followingChars spell (f :: fs) = layout f.before ++
      ([','] ++ (layout f.after ++ (f.element.chars spell ++ Braced.followingChars spell fs))) := by
  simp [Braced.followingChars]

theorem length_le_followingChars (spell : ν → List Char) (fs : List (Following ν)) :
    fs.length ≤ (Braced.followingChars spell fs).length := by
  induction fs with
  | nil => exact Nat.le_refl 0
  | cons f fs ih =>
    rw [followingChars_cons]
    simp only [List.length_cons, List.length_append, List.length_nil]
    omega

/-- The comma before an element, and the places around it. -/
theorem following_split (hd : d.strict = false) {f : Following ν} {fs : List (Following ν)}
    (h : c.Passes (Braced.followingChars spell (f :: fs)) c') :
    ∃ w x y z, Lexes d c (.mark ",") w x ∧ WordEnds c.rest ∧
      Stands d x y (f.element.chars spell) z ∧ z.Passes (Braced.followingChars spell fs) c' := by
  rw [followingChars_cons] at h
  have hends : WordEnds c.rest := by
    rw [h.rest_eq, List.append_assoc]
    exact wordEnds_layout (.comma _) f.before
  obtain ⟨w, -, hw⟩ := Stands.of_skips (skips_layout hd f.before) h
  obtain ⟨x, y, hx, -, hy⟩ := hw.split_layout hd
  obtain ⟨z, hz, hrest⟩ := hy.split
  exact ⟨w, x, y, z, Lexes.mark hd hx .comma (by simp), hends, hz, hrest.passes⟩

theorem divides_following (hd : d.strict = false) {fs : List (Following ν)}
    (h : c.Passes (Braced.followingChars spell fs) c') (hdiv : Divides d c') : Divides d c := by
  cases fs with
  | nil =>
    cases h with
    | nil => exact hdiv
  | cons f fs =>
    obtain ⟨w, x, y, z, hcomma, hends, -, -⟩ := following_split hd h
    exact ⟨hends, ",", w, x, hcomma⟩

/-- One turn of a list: a comma and an element, or nothing before the closing mark. -/
def listTurn (close : String) (item : Parser Unit) : Parser Bool := do
  if ← optionalMark "," then
    if ← atMark close then return false
    symbol item <|> refuse [.mark close]
    return true
  else if ← atMark close then return false
  else refuse [.mark close]

theorem commaList_eq (close : String) (item : Parser Unit) :
    commaList close item = (do
      if ← atMark close then pure ()
      else
        symbol item <|> refuse [.mark close]
        many (listTurn close item)) :=
  rfl

variable {kind : NodeKind} {item : Parser Unit}

theorem listTurn_more (hitem : ElementReader e spell text kind item) {el : Element ν}
    {w x y z : Cursor} (hcomma : Lexes e.dialect c (.mark ",") w x)
    (hel : Stands e.dialect x y (el.chars spell) z) (hdiv : Divides e.dialect z) :
    ∃ t, Reads e (listTurn "\x7d" item) c true [t] z ∧ t.Names kind (text el.bound) := by
  obtain ⟨k, x', hlex, hk⟩ := hitem.lexes hel hdiv.ends
  obtain ⟨t, hread, ht⟩ := hitem.reads hel hdiv
  refine ⟨t, ?_, ht⟩
  refine (Reads.optionalMark hcomma).silent_bind (.silent_bind (Reads.atMark hlex) ?_)
  rw [if_neg (by simpa using hk "\x7d")]
  exact (Reads.orTry hread.symbol).bind_silent (.pure true)

theorem listTurn_last {y z : Cursor} (hclose : Lexes e.dialect c (.mark "\x7d") y z) :
    Reads e (listTurn "\x7d" item) c false [] c := by
  refine Reads.silent_bind (Reads.optionalMark_absent hclose (by decide)) ?_
  exact Reads.silent_bind (Reads.atMark hclose) (.pure false)

theorem reads_following (hd : e.dialect.strict = false)
    (hitem : ElementReader e spell text kind item) {fs : List (Following ν)} {fuel : Nat}
    (hfuel : fs.length < fuel) {y z : Cursor} (hclose : Lexes e.dialect c' (.mark "\x7d") y z)
    (hends : WordEnds c'.rest) (h : c.Passes (Braced.followingChars spell fs) c') :
    ∃ ts, (∀ depth, Reads e (gatherTurns depth (listTurn "\x7d" item) fuel) c () ts c') ∧
      List.Forall₂ (Tree.Names kind) (fs.map fun f => text f.element.bound) ts := by
  induction fs generalizing c fuel with
  | nil =>
    cases h with
    | nil =>
      obtain ⟨fuel, rfl⟩ : ∃ n, fuel = n + 1 := ⟨fuel - 1, by simp at hfuel; omega⟩
      exact ⟨[], fun depth => .gatherTurns_last (listTurn_last hclose), .nil⟩
  | cons f fs ih =>
    obtain ⟨fuel, rfl⟩ : ∃ n, fuel = n + 1 := ⟨fuel - 1, by omega⟩
    obtain ⟨w, x, u, v, hcomma, -, hel, hrest⟩ := following_split hd h
    have hdiv : Divides e.dialect v :=
      divides_following hd hrest ⟨hends, "\x7d", y, z, hclose⟩
    obtain ⟨t, hread, ht⟩ := listTurn_more hitem hcomma hel hdiv
    obtain ⟨ts, hreads, hts⟩ := ih (by simpa using hfuel) hrest
    exact ⟨t :: ts, fun depth => Reads.gatherTurns_more hread (hreads depth), .cons ht hts⟩

theorem reads_commaList (hd : e.dialect.strict = false)
    (hitem : ElementReader e spell text kind item) {first : Element ν} {fs : List (Following ν)}
    (hfuel : c.rest.length < e.fuel) {y z : Cursor}
    (hclose : Lexes e.dialect c' (.mark "\x7d") y z) (hends : WordEnds c'.rest)
    (h : Stands e.dialect c m (first.chars spell ++ Braced.followingChars spell fs) c') :
    ∃ ts, Reads e (commaList "\x7d" item) c () ts c' ∧
      List.Forall₂ (Tree.Names kind)
        (text first.bound :: fs.map fun f => text f.element.bound) ts := by
  obtain ⟨x, hx, hrest⟩ := h.split
  have hdiv : Divides e.dialect x :=
    divides_following hd hrest.passes ⟨hends, "\x7d", y, z, hclose⟩
  obtain ⟨k, x', hlex, hk⟩ := hitem.lexes hx hdiv.ends
  obtain ⟨t, hread, ht⟩ := hitem.reads hx hdiv
  have hlength : fs.length < e.fuel := by
    have htext := length_le_followingChars spell fs
    have hroom := hx.rest_length
    have hroom' := hrest.rest_length
    omega
  obtain ⟨ts, hreads, hts⟩ := reads_following hd hitem hlength hclose hends hrest.passes
  refine ⟨t :: ts, ?_, .cons ht hts⟩
  rw [commaList_eq]
  refine .silent_bind (Reads.atMark hlex) ?_
  rw [if_neg (by simpa using hk "\x7d")]
  exact (Reads.orTry hread.symbol).bind (Reads.many hreads)

/-! ## Braces -/

/-- A list with its braces. A single comma may stand for the list. -/
def braced (item : Parser Unit) : Parser Unit := do
  mark "\x7b"
  enclosed do
    if ← atMark "," then bump
    else commaList "\x7d" item
  closing "\x7d"

theorem braced_split (hd : d.strict = false) {b : Braced ν}
    (h : Stands d c m (b.chars spell) c') :
    ∃ x y u v, Lexes d c (.mark "\x7b") m x ∧ x.rest.length ≤ c.rest.length ∧
      Stands d x y (b.elementsChars spell) u ∧ WordEnds u.rest ∧ Stands d u v ['\x7d'] c' := by
  have hchars : b.chars spell = ['\x7b'] ++ (layout b.opening ++
      (b.elementsChars spell ++ (layout b.closing ++ ['\x7d']))) := by
    simp [Braced.chars]
  rw [hchars] at h
  obtain ⟨x, y, hx, -, hy⟩ := h.split_layout hd
  obtain ⟨u, v, hu, hrest, hv⟩ := hy.split_layout hd
  have hends : WordEnds u.rest := by
    rw [hrest]
    exact wordEnds_layout (.brace _) b.closing
  have hroom := hx.rest_length
  exact ⟨x, y, u, v, Lexes.mark hd hx .opening (by simp), by omega, hu, hends, hv⟩

/-- What stands between the braces: nothing at all, or a list. -/
theorem reads_elements (hd : e.dialect.strict = false)
    (hitem : ElementReader e spell text kind item) (hfuel : c.rest.length < e.fuel)
    {b : Braced ν} {v z : Cursor} (h : Stands e.dialect c m (b.elementsChars spell) c')
    (hends : WordEnds c'.rest) (hclose : Stands e.dialect c' v ['\x7d'] z) :
    ∃ ts u, Reads e (do if ← atMark "," then bump else commaList "\x7d" item) c () ts u ∧
      Lexes e.dialect u (.mark "\x7d") v z ∧
      List.Forall₂ (Tree.Names kind) (b.bound.map text) ts := by
  obtain ⟨opening, elements, closing⟩ := b
  cases elements with
  | none =>
    have hbrace : Lexes e.dialect c (.mark "\x7d") v z :=
      Lexes.mark hd (h.trans hclose) .closing (by simp)
    refine ⟨[], c, .silent_bind (Reads.atMark hbrace) ?_, hbrace, .nil⟩
    exact .silent_bind (Reads.atMark hbrace) (.pure ())
  | some elements =>
    obtain ⟨first, fs⟩ := elements
    have hbrace : Lexes e.dialect c' (.mark "\x7d") v z := Lexes.mark hd hclose .closing (by simp)
    obtain ⟨x, hx, hrest⟩ := h.split
    have hdiv : Divides e.dialect x :=
      divides_following hd hrest.passes ⟨hends, "\x7d", v, z, hbrace⟩
    obtain ⟨k, x', hlex, hk⟩ := hitem.lexes hx hdiv.ends
    obtain ⟨ts, hread, hts⟩ := reads_commaList hd hitem hfuel hbrace hends h
    refine ⟨ts, c', .silent_bind (Reads.atMark hlex) ?_, hbrace, ?_⟩
    · rw [if_neg (by simpa using hk ",")]
      exact hread
    · simpa only [Braced.bound, List.map_cons, List.map_map, Function.comp_def] using hts

theorem reads_braced (hd : e.dialect.strict = false)
    (hitem : ∀ e' : Context, e'.dialect = e.dialect → ElementReader e' spell text kind item)
    (hfuel : c.rest.length < e.fuel) {b : Braced ν}
    (h : Stands e.dialect c m (b.chars spell) c') :
    ∃ ts x, Lexes e.dialect c (.mark "\x7b") m x ∧ Reads e (braced item) c () ts c' ∧
      List.Forall₂ (Tree.Names kind) (b.bound.map text) ts := by
  obtain ⟨x, y, u, v, hopen, hroom, hu, hends, hclose⟩ := braced_split hd h
  -- the context that `enclosed` reads in
  let inside (e : Context) : Context := { e with
    lineEnds := false, noIn := false, noResultType := false, noCondition := false }
  have hfuel' : x.rest.length < (inside e).fuel := Nat.lt_of_le_of_lt hroom hfuel
  obtain ⟨ts, w, hread, hbrace, hts⟩ :=
    reads_elements (e := inside e) hd (hitem _ rfl) hfuel' hu hends hclose
  refine ⟨ts, x, hopen, ?_, hts⟩
  have hlist := Reads.within (f := inside) (e := e) rfl hread
  exact (Reads.mark hopen).silent_bind (hlist.bind_silent (Reads.closing hbrace))

/-- The node of a list with its braces has the names of the elements. -/
theorem reads_list (hd : e.dialect.strict = false)
    (hitem : ∀ e' : Context, e'.dialect = e.dialect → ElementReader e' spell text kind item)
    (listKind : NodeKind) (hkind : listKind ∉ [.error, .importStatement, .exportStatement])
    (hfuel : c.rest.length < e.fuel) {b : Braced ν}
    (h : Stands e.dialect c m (b.chars spell) c') :
    ∃ t x, Lexes e.dialect c (.mark "\x7b") m x ∧
      Reads e (node listKind (braced item)) c () [t] c' ∧
      t.NamesAll listKind kind (b.bound.map text) := by
  obtain ⟨ts, x, hopen, hread, hts⟩ := reads_braced hd hitem hfuel h
  let info : NodeInfo := { kind := listKind, line := m.line, column := m.column }
  exact ⟨.node info ts, x, hopen, Reads.node hopen hread,
    Tree.namesAll_node info rfl rfl hkind hts⟩

end PackageUsage.Source
