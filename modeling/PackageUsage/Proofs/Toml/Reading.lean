import PackageUsage.Toml.Reader

/-!
# What a reader takes

A reader takes a value from the start of a text and leaves a rest, or it is refused. One lemma for
each way to put readers together says what the whole takes; read backwards, it says what the parts
have taken.
-/

namespace PackageUsage.Toml

variable {α β : Type}

/-- The reader takes a value from the start of a text and leaves the rest. -/
def Takes (p : Reader α) (cs : List Char) (a : α) (rest : List Char) : Prop :=
  p cs = .done a rest

/-- The reader is refused, and another one may be tried. -/
def Refuses (p : Reader α) (cs : List Char) : Prop :=
  ∃ f, p cs = .refused f

/-- A reader takes values one after the other, each from a shorter text, until it is refused. -/
inductive Repeats (p : Reader α) : List Char → List α → List Char → Prop
  | stop {cs : List Char} (h : Refuses p cs) : Repeats p cs [] cs
  | turn {cs mid rest : List Char} {a : α} {as : List α} (h : Takes p cs a mid)
      (hshorter : mid.length < cs.length) (hrest : Repeats p mid as rest) :
      Repeats p cs (a :: as) rest

/-- No character of the class comes next. -/
def NotNext (q : Char → Bool) (rest : List Char) : Prop :=
  ∀ c, rest.head? = some c → q c = false

theorem NotNext.cons {q : Char → Bool} {c : Char} (hq : q c = false) (rest : List Char) :
    NotNext q (c :: rest) := by
  intro d hd
  cases hd
  exact hq

theorem NotNext.append {q : Char → Bool} {c : Char} {cs : List Char} (hcs : cs.head? = some c)
    (hq : q c = false) (rest : List Char) : NotNext q (cs ++ rest) := by
  intro d hd
  rw [List.head?_append, hcs] at hd
  cases hd
  exact hq

theorem NotNext.append_of_forall {q : Char → Bool} {cs rest : List Char}
    (hcs : ∀ c ∈ cs, q c = false) (hrest : NotNext q rest) : NotNext q (cs ++ rest) := by
  cases cs with
  | nil => exact hrest
  | cons c cs => exact .cons (hcs c List.mem_cons_self) _

theorem NotNext.mono {q q' : Char → Bool} {rest : List Char} (h : NotNext q rest)
    (hq : ∀ c, q' c → q c) : NotNext q' rest := by
  intro c hc
  have hfalse := h c hc
  cases hq' : q' c with
  | false => rfl
  | true =>
    rw [hq c hq'] at hfalse
    cases hfalse

namespace Takes

variable {p q : Reader α} {f : α → Reader β} {a : α} {b : β} {cs mid rest : List Char}

theorem pure (a : α) (cs : List Char) : Takes (Pure.pure a) cs a cs :=
  rfl

theorem bind_eq (hp : Takes p cs a mid) (f : α → Reader β) : (p >>= f) cs = f a mid := by
  show Reader.andThen p f cs = _
  rw [Reader.andThen, hp]

theorem bind (hp : Takes p cs a mid) (hf : Takes (f a) mid b rest) :
    Takes (p >>= f) cs b rest :=
  (hp.bind_eq f).trans hf

theorem of_bind (h : Takes (p >>= f) cs b rest) :
    ∃ a mid, Takes p cs a mid ∧ Takes (f a) mid b rest := by
  change Reader.andThen p f cs = _ at h
  unfold Reader.andThen at h
  split at h
  · next a mid hp => exact ⟨a, mid, hp, h⟩
  · cases h
  · cases h

theorem orTry (hp : Takes p cs a rest) : Takes (Reader.orTry p q) cs a rest := by
  rw [Takes, Reader.orTry, hp]

theorem committed (hp : Takes p cs a rest) : Takes (Reader.committed p) cs a rest := by
  rw [Takes, Reader.committed, hp]

theorem of_committed (h : Takes (Reader.committed p) cs a rest) : Takes p cs a rest := by
  unfold Takes Reader.committed at h
  split at h
  · cases h
  · exact h

theorem explain (hp : Takes p cs a rest) (g : Fault → Fault) :
    Takes (Reader.explain g p) cs a rest := by
  rw [Takes, Reader.explain, hp]

theorem of_explain {g : Fault → Fault} (h : Takes (Reader.explain g p) cs a rest) :
    Takes p cs a rest := by
  unfold Takes Reader.explain at h
  split at h
  · next hp => exact hp.trans h
  · cases h
  · cases h

theorem labelled (hp : Takes p cs a rest) (name : String) :
    Takes (Reader.labelled name p) cs a rest :=
  hp.explain _

theorem expecting (hp : Takes p cs a rest) (what : List String) :
    Takes (Reader.expecting what p) cs a rest :=
  hp.explain _

theorem optional (hp : Takes p cs a rest) : Takes (Reader.optional p) cs (some a) rest := by
  rw [Takes, Reader.optional, hp]

theorem of_optional (h : Takes (Reader.optional p) cs (some a) rest) : Takes p cs a rest := by
  unfold Takes Reader.optional at h
  split at h
  · next hp =>
    cases h
    exact hp
  · cases h
  · cases h

theorem of_optional_none (h : Takes (Reader.optional p) cs none rest) : rest = cs := by
  unfold Takes Reader.optional at h
  split at h <;> cases h
  rfl

/-! ## Characters -/

theorem next? (c : Char) (rest : List Char) :
    Takes Reader.next? (c :: rest) (some c) (c :: rest) :=
  rfl

theorem charWhere {q : Char → Bool} {c : Char} (hc : q c) (rest : List Char) :
    Takes (Reader.charWhere q) (c :: rest) c rest :=
  if_pos hc

theorem char (c : Char) (rest : List Char) : Takes (Reader.char c) (c :: rest) c rest :=
  charWhere (beq_self_eq_true c) rest

theorem word (w rest : List Char) : Takes (Reader.word w) (w ++ rest) () rest := by
  induction w with
  | nil => rfl
  | cons c w ih => exact (if_pos (beq_self_eq_true c)).trans ih

theorem takeWhile {q : Char → Bool} {run : List Char} (hrun : ∀ c ∈ run, q c)
    (hrest : NotNext q rest) : Takes (Reader.takeWhile q) (run ++ rest) run rest := by
  have hstop : rest.takeWhile q = [] ∧ rest.dropWhile q = rest := by
    cases rest with
    | nil => exact ⟨rfl, rfl⟩
    | cons c rest => simp [hrest c rfl]
  rw [Takes, Reader.takeWhile, List.takeWhile_append_of_pos hrun, List.dropWhile_append_of_pos hrun,
    hstop.1, hstop.2, List.append_nil]

theorem takeWhile1 {q : Char → Bool} {run : List Char} (hne : run ≠ []) (hrun : ∀ c ∈ run, q c)
    (hrest : NotNext q rest) : Takes (Reader.takeWhile1 q) (run ++ rest) run rest := by
  have htaken : Reader.takeWhile q (run ++ rest) = .done run rest := takeWhile hrun hrest
  injection htaken with hrun' hrest'
  unfold Takes Reader.takeWhile1
  rw [hrun', hrest']
  cases run with
  | nil => exact absurd rfl hne
  | cons c run => rfl

end Takes

namespace Refuses

variable {p q : Reader α} {f : α → Reader β} {a : α} {cs mid rest : List Char}

theorem bind (hp : Refuses p cs) (f : α → Reader β) : Refuses (p >>= f) cs := by
  obtain ⟨e, he⟩ := hp
  refine ⟨e, ?_⟩
  show Reader.andThen p f cs = _
  rw [Reader.andThen, he]

theorem bind_of_takes (hp : Takes p cs a mid) (hf : Refuses (f a) mid) :
    Refuses (p >>= f) cs := by
  obtain ⟨e, he⟩ := hf
  refine ⟨e, ?_⟩
  show Reader.andThen p f cs = _
  rw [Reader.andThen, hp]
  exact he

theorem orTry (hp : Refuses p cs) (hq : Refuses q cs) : Refuses (Reader.orTry p q) cs := by
  obtain ⟨e, he⟩ := hp
  obtain ⟨e', he'⟩ := hq
  exact ⟨e', by rw [Reader.orTry, he]; exact he'⟩

theorem orTry_takes (hp : Refuses p cs) (hq : Takes q cs a rest) :
    Takes (Reader.orTry p q) cs a rest := by
  obtain ⟨e, he⟩ := hp
  rw [Takes, Reader.orTry, he]
  exact hq

theorem explain (hp : Refuses p cs) (g : Fault → Fault) : Refuses (Reader.explain g p) cs := by
  obtain ⟨e, he⟩ := hp
  exact ⟨g e, by rw [Reader.explain, he]⟩

theorem optional (hp : Refuses p cs) : Takes (Reader.optional p) cs none cs := by
  obtain ⟨e, he⟩ := hp
  rw [Takes, Reader.optional, he]

theorem charWhere {q : Char → Bool} (h : NotNext q cs) : Refuses (Reader.charWhere q) cs := by
  cases cs with
  | nil => exact ⟨_, rfl⟩
  | cons c cs => exact ⟨{}, if_neg (by simp [h c rfl])⟩

theorem takeWhile1 {q : Char → Bool} (h : NotNext q cs) : Refuses (Reader.takeWhile1 q) cs := by
  refine ⟨{}, ?_⟩
  cases cs with
  | nil => rfl
  | cons c cs => simp [Reader.takeWhile1, h c rfl]

theorem word {c : Char} (h : NotNext (· == c) cs) (w : List Char) :
    Refuses (Reader.word (c :: w)) cs := by
  refine ⟨{}, ?_⟩
  cases cs with
  | nil => rfl
  | cons d cs =>
    have hne : (d == c) = false := h d rfl
    refine if_neg ?_
    rw [BEq.comm, hne]
    exact Bool.false_ne_true

theorem word_cons {w : List Char} (h : Refuses (Reader.word w) cs) (c : Char) :
    Refuses (Reader.word (c :: w)) (c :: cs) := by
  obtain ⟨e, he⟩ := h
  exact ⟨e, (if_pos (beq_self_eq_true c)).trans he⟩

end Refuses

/-! ## Many turns -/

namespace Repeats

variable {p : Reader α} {as : List α} {cs mid rest : List Char}

theorem turns (h : Repeats p cs as rest) {n : Nat} (hn : cs.length ≤ n) :
    Takes (Reader.turns p n) cs as rest := by
  induction h generalizing n with
  | stop hp =>
    cases n with
    | zero => exact .pure _ _
    | succ n => exact hp.optional.bind (.pure _ _)
  | turn hp hshorter _ ih =>
    cases n with
    | zero => omega
    | succ n => exact hp.optional.bind ((ih (by omega)).bind (.pure _ _))

theorem many (h : Repeats p cs as rest) : Takes (Reader.many p) cs as rest :=
  h.turns (Nat.le_refl _)

/-- A reader that takes a whole run of a class may find one more run in front. -/
theorem after_run {q : Char → Bool} (value : List Char → α) {run : List Char}
    (hp : ∀ run mid, run ≠ [] → (∀ c ∈ run, q c) → NotNext q mid →
      Takes p (run ++ mid) (value run) mid)
    (hrun : ∀ c ∈ run, q c) (hmid : NotNext q mid) (h : Repeats p mid as rest) :
    Repeats p (run ++ mid) (if run = [] then as else value run :: as) rest := by
  by_cases hempty : run = []
  · rw [hempty, if_pos rfl]
    exact h
  · rw [if_neg hempty]
    refine .turn (hp run mid hempty hrun hmid) ?_ h
    have hlength := List.length_pos_iff.mpr hempty
    rw [List.length_append]
    omega

end Repeats

theorem Takes.separated {p : Reader α} {sep : Reader β} {a : α} {as : List α}
    {cs mid rest : List Char} (ha : Takes p cs a mid)
    (hrest : Repeats (Reader.andThen sep fun _ => p) mid as rest) :
    Takes (Reader.separated p sep) cs (a :: as) rest :=
  ha.optional.bind (hrest.many.bind (.pure _ _))

theorem Refuses.separated {p : Reader α} {cs : List Char} (h : Refuses p cs) (sep : Reader β) :
    Takes (Reader.separated p sep) cs [] cs :=
  h.optional.bind (.pure _ _)

end PackageUsage.Toml
