import PackageUsage.Proofs.Source.Rules.Statements
import PackageUsage.Source.Parse

/-!
# Trees in the order of the text

Every tree is in the order of its text, however faulty the text is: in pre-order the positions of
its nodes ascend, none lies behind the end of the text, and what text they have is that of words
and strings. A node is a source only where the text names modules. The search for repairs keeps this
of all the ways it follows, since each way only skips text that lies ahead, from lexeme to lexeme.
-/

namespace PackageUsage.Source

open PackageUsage.Source.Tree (Ascend)

theorem line_le_of_toLex_le {line line' column column' : Nat}
    (h : toLex (line, column) ≤ toLex (line', column')) : line ≤ line' := by
  rcases Prod.Lex.toLex_le_toLex.mp h with hlt | ⟨heq, -⟩
  · exact hlt.le
  · exact heq.le

/-- The positions of a tree ascend in pre-order up to a place of the text. -/
def Tree.InOrder (text : Cursor) (t : Tree) : Prop :=
  ∃ c, text ≤ c ∧ Ascend (toLex (0, 0)) [t] c.position

namespace Tree.InOrder

variable {text : Cursor} {t : Tree}

theorem sorted (h : t.InOrder text) : t.preorder.Pairwise fun a b => a.position ≤ b.position := by
  obtain ⟨c, -, h⟩ := h
  have hsorted := h.sorted
  rwa [preorderList_singleton] at hsorted

/-- No node starts behind the last line. -/
theorem line_le (h : t.InOrder text) {a : Tree} (ha : a ∈ t.preorder) :
    a.info.line ≤ text.line + text.rest.count '\n' := by
  obtain ⟨c, hc, h⟩ := h
  have hbound := (h.bounds a (by rwa [preorderList_singleton])).2
  have hline : a.info.line ≤ c.line := line_le_of_toLex_le hbound
  exact hline.trans (Cursor.line_le_count hc)

end Tree.InOrder

/-- A tree whose nodes are in the order of a text and fit it. -/
structure Tree.OfText (text : Cursor) (t : Tree) : Prop where
  inOrder : t.InOrder text
  fits : ∀ n ∈ t.preorder, n.Fits text

theorem zero_le_position (p : Nat ×ₗ Nat) : toLex (0, 0) ≤ p := by
  refine Prod.Lex.toLex_le_toLex.mpr ?_
  rcases Nat.eq_zero_or_pos (ofLex p).1 with hzero | hpos
  · exact Or.inr ⟨hzero.symm, Nat.zero_le _⟩
  · exact Or.inl hpos

/-! ## What is read under repairs -/

/-- An outcome of a reading: a tree of the text, or a refusal in the text. -/
def Step.OfText (text : Cursor) : Step Unit → Prop
  | .done _ s => (Search.treeOf s).OfText text
  | .refused r => r.Within text

theorem ofText_treeOf {text : Cursor} {s : State} {ts : List Tree} {low : Nat ×ₗ Nat}
    (hs : s.Within text) (hout : s.out = ts.reverse)
    (hts : Ascend low ts s.lexeme.start.position) : (Search.treeOf s).OfText text := by
  have hfit : Tree.AllFit text [Search.treeOf s] := .node (.plain rfl nofun rfl) hs.out.reverse
  refine ⟨⟨s.lexeme.start, hs.lexeme.within.start, ?_⟩, hfit _ List.mem_cons_self⟩
  rw [Search.treeOf, hout, List.reverse_reverse]
  exact .node rfl ((Ascend.nil (zero_le_position low)).append hts)

theorem ofText_read {d : Dialect} (hd : d.strict = false) {text : Cursor} {repairs : List Repair}
    (h : ∀ r ∈ repairs, r.Within text) : (Grammar.read d text repairs).OfText text := by
  have hfirst : Continues text text [] (lexemeWith d repairs text []) :=
    continues_lexemeWith hd repairs .start h
  obtain ⟨ts, hout, hts, hfit⟩ := hfirst.out
  have hall : Tree.AllFit text (lexemeWith d repairs text []).2.2 :=
    hout ▸ hfit.reverse.append .nil
  have hnone : Mark.AllWithin text [] := by simp [Mark.AllWithin]
  let reading := lexemeWith d repairs text []
  let context : Context := { dialect := d, fuel := text.rest.length + 2 }
  let start : State :=
    { lexeme := reading.1, previous := text, out := reading.2.2, marks := [], repairs := reading.2.1
      reach :=
        { lexeme := { reading.1 with start := text, stop := text }, previous := text, marks := []
          wanted := [] } }
  have hstart : start.Within text :=
    ⟨hfirst.lexeme, hall, .start, hnone, hnone,
      ⟨⟨le_refl text, le_refl text, .start⟩, .start, hnone⟩, hfirst.repairs⟩
  have hstep : Step.Follows text start
      (Grammar.program (16 * text.rest.length + 64) context start) :=
    Forward.follows hd hstart rfl
  show Step.OfText text (Grammar.program (16 * text.rest.length + 64) context start)
  cases hprogram : Grammar.program (16 * text.rest.length + 64) context start with
  | refused r =>
    rw [hprogram] at hstep
    exact hstep
  | done value s =>
    rw [hprogram] at hstep
    obtain ⟨hs, us, hmore, hus⟩ := hstep
    have hout' : s.out = (ts ++ us).reverse := by
      rw [hmore, List.reverse_append]
      exact congrArg _ (hout.trans (List.append_nil _))
    exact ofText_treeOf hs hout' (hts.append hus)

/-! ## Ways -/

/-- The skipped lexemes are lexemes of the text. -/
structure Skipped.Within (text : Cursor) (s : Skipped) : Prop where
  reach : s.reach.Within text
  start : text ≤ s.start
  stop : text.Reached s.stop

/-- What a way does, it does in the text. -/
def Stage.Within (text : Cursor) : Stage → Prop
  | .reading outcome => outcome.OfText text
  | .skipping s => s.Within text

/-- A way through the text. -/
structure Way.Within (text : Cursor) (w : Way) : Prop where
  repairs : ∀ r ∈ w.repairs, r.Within text
  stage : w.stage.Within text

namespace Job

variable {job : Job}

theorem within_reading (hd : job.dialect.strict = false)
    {repairs : List Repair} (h : ∀ r ∈ repairs, r.Within job.start)
    (cost since : Nat) :
    Way.Within job.start { repairs, cost, since, stage := .reading (job.read repairs) } :=
  ⟨h, ofText_read hd h⟩

theorem within_append {text : Cursor} {repairs : List Repair} (h : ∀ r ∈ repairs, r.Within text)
    {last : Repair} (hlast : last.Within text) : ∀ r ∈ repairs ++ [last], r.Within text := by
  intro r hr
  rcases List.mem_append.mp hr with hr | hr
  · exact h r hr
  · rw [List.mem_singleton.mp hr]
    exact hlast

theorem within_suppose? (hd : job.dialect.strict = false)
    {repairs : List Repair} (h : ∀ r ∈ repairs, r.Within job.start)
    {cost index : Nat} {r : Reach} {w : Way} (hw : job.suppose? repairs cost index r = some w) :
    w.Within job.start := by
  obtain ⟨kind, hkind, rfl⟩ := Option.map_eq_some_iff.mp hw
  have hsuppose : Repair.Within job.start (.suppose r.previous kind) :=
    List.mem_of_find?_eq_some hkind
  exact within_reading hd (within_append h hsuppose) _ _

theorem within_backwards {text : Cursor} {marks : List Mark} (h : Mark.AllWithin text marks)
    (symbols : Nat) : ∀ p ∈ places.backwards marks symbols, text ≤ p.1 := by
  induction marks generalizing symbols with
  | nil => simp [places.backwards]
  | cons m marks ih =>
    intro p hp
    rcases List.mem_cons.mp hp with rfl | hp
    · exact h m List.mem_cons_self
    · exact ih (fun m' hm' => h m' (List.mem_cons_of_mem _ hm')) _ p hp

/-- A way back leads to a place before the end of what is skipped. -/
theorem within_places {text : Cursor} {s : Skipped} (h : s.Within text) :
    ∀ p ∈ places s, text ≤ p.1 ∧ p.1 ≤ s.stop := by
  intro p hp
  obtain ⟨hp, hoffset⟩ := List.mem_filter.mp hp
  have hplace : text ≤ p.1 := by
    rcases List.mem_append.mp hp with hown | hback
    · split at hown
      · cases hown
      · rw [List.mem_singleton.mp hown]
        exact h.start
    · exact within_backwards (fun m hm => h.reach.marks m (List.mem_of_mem_take hm)) 0 p hback
  exact ⟨hplace, Cursor.le_of_offset_le hplace h.stop.le (by simpa using hoffset)⟩

theorem within_recover? (hd : job.dialect.strict = false)
    {repairs : List Repair} (h : ∀ r ∈ repairs, r.Within job.start)
    {s : Skipped} (hs : s.Within job.start) {cost index : Nat} {l : Lexeme} {reading : WordReading}
    {worse : Nat → Bool} {w : Way}
    (hw : job.recover? repairs cost index s l reading worse = some w) : w.Within job.start := by
  have hgo (ps : List (Cursor × Nat)) (hps : ∀ p ∈ ps, job.start ≤ p.1 ∧ p.1 ≤ s.stop)
      (hw : recover?.go job repairs cost index s l reading worse ps = some w) :
      w.Within job.start := by
    induction ps with
    | nil => cases hw
    | cons p ps ih =>
      rw [recover?.go] at hw
      split at hw
      · cases hw
      · dsimp only at hw
        split at hw
        · cases hw
          have hplace := hps p List.mem_cons_self
          have hskip : Repair.Within job.start (.skip p.1 s.stop) :=
            ⟨hplace.1, hplace.2, hs.stop⟩
          exact within_reading hd (within_append h hskip) _ _
        · exact ih (fun q hq => hps q (List.mem_cons_of_mem _ hq)) hw
  exact hgo (places s) (within_places hs) hw

end Job

namespace Way

theorem of_refusedAt? {w : Way} {l : Lexeme} {r : Reach} (h : w.refusedAt? l = some r) :
    w.stage = .reading (.refused r) := by
  unfold refusedAt? at h
  split at h
  · next r' hstage =>
    split at h
    · cases h
      exact hstage
    · cases h
  · cases h

theorem mem_insert {index : Nat} {l : Lexeme} {w x : Way} {ways : List Way}
    (h : x ∈ insert index l w ways) : x = w ∨ x ∈ ways := by
  induction ways with
  | nil => exact Or.inl (List.mem_singleton.mp h)
  | cons best rest ih =>
    rw [insert] at h
    split at h
    · exact Or.inr h
    · exact (ih h).imp_right (List.mem_cons_of_mem _)
    · exact List.mem_cons.mp h
    · rcases List.mem_cons.mp h with rfl | h
      · exact Or.inr List.mem_cons_self
      · exact (ih h).imp_right (List.mem_cons_of_mem _)

/-- Only ways that were there are kept. -/
theorem mem_of_mem_condense {index : Nat} {l : Lexeme} {x : Way} {ways : List Way}
    (h : x ∈ condense index l ways) : x ∈ ways := by
  have hfold : ∀ y ∈ ways.foldl (fun kept w => insert index l w kept) [], y ∈ ways := by
    refine List.foldlRecOn ways _ (motive := fun kept => ∀ y ∈ kept, y ∈ ways) (by simp) ?_
    intro kept hkept w hw y hy
    rcases mem_insert hy with rfl | hy
    · exact hw
    · exact hkept y hy
  exact hfold x (List.mem_of_mem_take h)

end Way

/-! ## The search -/

namespace Search

/-- The ways of a search are ways through the text, and its tree is one of the text. -/
structure Within (text : Cursor) (s : Search) : Prop where
  ending : ∀ e ∈ s.ending, e.tree.OfText text
  ways : ∀ w ∈ s.ways, w.Within text

variable {text : Cursor} {search : Search}

theorem Within.finish (h : search.Within text) {e : Ending} (he : e.tree.OfText text) :
    (search.finish e).Within text := by
  have hnew : Within text { search with ending := some e } :=
    ⟨by rintro _ ⟨⟩; exact he, h.ways⟩
  unfold Search.finish
  split
  · split
    · exact h
    · exact hnew
  · exact hnew

theorem Within.add (h : search.Within text) {w : Way} (hw : w.Within text) :
    (search.add w).Within text := by
  refine ⟨h.ending, ?_⟩
  intro x hx
  rcases List.mem_append.mp hx with hx | hx
  · exact h.ways x hx
  · rw [List.mem_singleton.mp hx]
    exact hw

/-- A way that may be there is added when it is. -/
theorem Within.addOption (h : search.Within text) {way : Option Way} :
    (∀ w, way = some w → w.Within text) →
      Within text (match way with
        | some w => search.add w
        | none => search) := by
  intro hway
  cases way with
  | none => exact h
  | some w => exact h.add (hway w rfl)

theorem ofText_allError {root : Lexeme} (h : text ≤ root.start) :
    (allError root).OfText text := by
  have hfit : Tree.AllFit text [allError root] := .leaf (.plain rfl nofun rfl)
  exact ⟨⟨root.start, h, (Ascend.nil (zero_le_position _)).append (.leaf rfl (le_refl _))⟩,
    hfit _ List.mem_cons_self⟩

variable {job : Job} {first l : Lexeme} {others : List Way} {index : Nat} {w : Way}

theorem Within.skipOn (hd : job.dialect.strict = false) (h : search.Within job.start)
    (hfirst : first.Within job.start)
    (hw : ∀ r ∈ w.repairs, r.Within job.start) {s : Skipped} (hs : s.Within job.start)
    (hl : l.Within job.start) (reading : WordReading) :
    (skipOn job first search others index w s l reading).Within job.start := by
  have hrecovered (way : Way) (hway : job.recover? w.repairs w.cost index s l reading
      (search.worse others index l) = some way) : way.Within job.start :=
    Job.within_recover? hd hw hs hway
  unfold Search.skipOn
  dsimp only
  split
  · refine (h.addOption hrecovered).finish ?_
    exact ofText_allError hfirst.start
  · have hstart : job.start ≤ if s.count = 0 then l.start else s.start := by
      split
      · exact hl.start
      · exact hs.start
    generalize (if s.count = 0 then l.start else s.start) = start at hstart ⊢
    have hskipped :
        Skipped.Within job.start { s with count := s.count + 1, start, stop := l.stop } :=
      ⟨hs.reach, hstart, hl.reached⟩
    refine Within.addOption ?_ hrecovered
    split
    · exact h
    · exact h.add ⟨hw, hskipped⟩

theorem Within.repair (hd : job.dialect.strict = false) (h : search.Within job.start)
    (hfirst : first.Within job.start)
    (hw : w.Within job.start) {r : Reach} (hr : r.Within job.start) (others : List Way)
    (index : Nat) : (repair job first search others index w r).Within job.start := by
  have hskipped :
      Skipped.Within job.start { reach := r, start := r.lexeme.start, stop := r.previous } :=
    ⟨hr, hr.lexeme.start, hr.previous⟩
  have hl : (skippedLexeme job.dialect r.lexeme.start).Within job.start :=
    within_skippedLexeme hd hr.lexeme.start
  unfold Search.repair
  exact (Within.skipOn hd h hfirst hw.repairs hskipped hl _).addOption
    fun way hway => Job.within_suppose? hd hw.repairs hway

/-- One round keeps to the text. -/
theorem Within.round (hd : job.dialect.strict = false) (h : search.Within job.start)
    (hfirst : first.Within job.start)
    (hl : l.Within job.start) : (round job first index l search).Within job.start := by
  unfold Search.round
  extract_lets moved kept
  have hmoved : moved.Within job.start := by
    refine List.foldlRecOn search.ways _ (motive := Within job.start) ⟨h.ending, by simp⟩ ?_
    intro acc hacc w hw
    have hway := h.ways w hw
    have hstage := hway.stage
    split
    · next s heq =>
      rw [heq] at hstage
      exact hacc.skipOn hd hfirst hway.repairs hstage hl _
    · next state heq =>
      rw [heq] at hstage
      split
      · exact hacc.finish hstage
      · exact hacc.add hway
    · exact hacc.add hway
  have hkept : ∀ w ∈ kept, w.Within job.start := fun w hw =>
    hmoved.ways w (Way.mem_of_mem_condense hw)
  clear_value kept
  cases kept with
  | nil => exact ⟨hmoved.ending, by simp⟩
  | cons best rest =>
    have hbest := hkept best List.mem_cons_self
    have hothers : ∀ w ∈ rest.filter fun w => (w.refusedAt? l).isNone, w.Within job.start :=
      fun w hw => hkept w (List.mem_cons_of_mem _ (List.mem_filter.mp hw).1)
    dsimp only
    split
    · exact ⟨hmoved.ending, List.forall_mem_cons.mpr ⟨hbest, hothers⟩⟩
    · next r hr =>
      have hreach := hbest.stage
      rw [Way.of_refusedAt? hr] at hreach
      have hstart : Within job.start { ending := moved.ending } := ⟨hmoved.ending, by simp⟩
      have hrepaired := hstart.repair hd hfirst hbest hreach
        (rest.filter fun w => (w.refusedAt? l).isNone) index
      exact ⟨hrepaired.ending, List.forall_mem_append.mpr ⟨hrepaired.ways, hothers⟩⟩

/-- A whole search keeps to the text. -/
theorem Within.follow (hd : job.dialect.strict = false) (h : search.Within job.start)
    (hfirst : first.Within job.start)
    (hl : l.Within job.start) (fuel index : Nat) :
    (follow job first fuel index l search).Within job.start := by
  induction fuel generalizing index l search with
  | zero => exact h
  | succ fuel ih =>
    have hround : (Search.round job first index l search).Within job.start := h.round hd hfirst hl
    unfold Search.follow
    dsimp only
    split
    · exact hround
    · split
      · refine List.foldlRecOn _ _ (motive := Within job.start) ⟨hround.ending, by simp⟩ ?_
        intro acc hacc w hw
        have hstage := (hround.ways w hw).stage
        split
        · next state heq =>
          rw [heq] at hstage
          exact hacc.finish hstage
        · exact hacc
      · exact ih hround (within_skippedLexeme hd hl.reached.le) _

end Search

/-- The tree of every text is one of that text. -/
theorem ofText_treeOfText (language : Language) (text : String) :
    (treeOfText language text).OfText (Cursor.ofText text) := by
  let job : Job := { dialect := Dialect.tolerant language, start := Cursor.ofText text }
  have hd : job.dialect.strict = false := strict_tolerant language
  have hread : (job.read []).OfText job.start := ofText_read hd (by simp)
  have hfirst : (lexeme job.dialect job.start).Within job.start :=
    within_lexeme hd (le_refl job.start)
  unfold treeOfText
  dsimp only
  split
  · next state heq =>
    rw [heq] at hread
    exact hread
  · next r heq =>
    rw [heq] at hread
    let way : Way := { repairs := [], cost := 0, since := 0, stage := .reading (.refused r) }
    have hway : way.Within job.start := ⟨by simp [way], hread⟩
    have hstart : Search.Within job.start { ways := [way] } := ⟨by simp, by simpa using hway⟩
    have hend := (hstart.follow hd hfirst hread.lexeme (text.length + 2) 0).ending
    split
    · next e he => exact hend e he
    · exact Search.ofText_allError hfirst.start

/-- The tree of a file is one of its text. -/
theorem ofText_of_parse {path text : String} {tree : Tree} (h : parse path text = .ok tree) :
    tree.OfText (Cursor.ofText text) := by
  unfold parse at h
  split at h
  · cases h
  · next language _ =>
    have htree := ofText_treeOfText language text
    dsimp only at h
    split at h
    · split at h
      · cases h
        exact htree
      · cases h
    · cases h
      exact htree

end PackageUsage.Source
