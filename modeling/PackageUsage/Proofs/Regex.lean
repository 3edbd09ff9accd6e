import PackageUsage.Regex

/-!
# Where matches end

An expression spans two places of a text if it matches what stands between them: `Spans` says when,
for single places and without any bound on repetitions. The places that are computed for a set of
places at once are exactly those that are spanned from one of them. A repetition that takes more
turns than the text has characters takes one of them in place, and that turn may as well be left out
or taken once more; so the bound on the turns loses nothing.

Without assertions it does not matter where a match stands: `Matches` says which words an expression
matches, and it spans two places if the word between them is one of these.
-/

namespace PackageUsage.Regex

/-! ## Places that an expression spans -/

/-- A number of turns of a step from place to place. -/
def Turns (R : Nat → Nat → Prop) : Nat → Nat → Nat → Prop
  | 0, i, k => i = k
  | n + 1, i, k => ∃ j, R i j ∧ Turns R n j k

/-- An expression matches what stands between two places of a text. -/
def Spans (text : Array Char) : Regex → Nat → Nat → Prop
  | .empty, i, k => i = k
  | .char c, i, k => text[i]? = some c ∧ i + 1 = k
  | .set s, i, k => text[i]?.any s.contains = true ∧ i + 1 = k
  | .assertion a, i, k => a.holds text i = true ∧ i = k
  | .group e, i, k => Spans text e i k
  | .seq e f, i, k => ∃ j, Spans text e i j ∧ Spans text f j k
  | .alt e f, i, k => Spans text e i k ∨ Spans text f i k
  | .repetition e least most, i, k =>
    ∃ n, least ≤ n ∧ (∀ m ∈ most, n ≤ max least m) ∧ Turns (Spans text e) n i k

variable {text : Array Char} {e f : Regex} {R : Nat → Nat → Prop} {i k n : Nat}
  {places : List Nat}

theorem turns_add_iff {m : Nat} :
    Turns R (m + n) i k ↔ ∃ j, Turns R m i j ∧ Turns R n j k := by
  induction m generalizing i with
  | zero => simp [Turns]
  | succ m ih =>
    rw [Nat.add_right_comm, Turns]
    simp only [Turns, ih]
    constructor
    · rintro ⟨h, hstep, j, hfirst, hrest⟩
      exact ⟨j, ⟨h, hstep, hfirst⟩, hrest⟩
    · rintro ⟨j, ⟨h, hstep, hfirst⟩, hrest⟩
      exact ⟨h, hstep, j, hfirst, hrest⟩

/-- Steps lead onward, and not beyond the end of a text. -/
def StaysIn (size : Nat) (R : Nat → Nat → Prop) : Prop :=
  ∀ i k, R i k → i ≤ k ∧ (i < k → k ≤ size)

theorem StaysIn.turns {size : Nat} (hR : StaysIn size R) (n : Nat) : StaysIn size (Turns R n) := by
  induction n with
  | zero =>
    intro i k h
    obtain rfl : i = k := h
    exact ⟨Nat.le_refl i, fun hlt => absurd hlt (Nat.lt_irrefl i)⟩
  | succ n ih =>
    rintro i k ⟨j, hstep, hrest⟩
    obtain ⟨hij, hj⟩ := hR i j hstep
    obtain ⟨hjk, hk⟩ := ih j k hrest
    omega

theorem staysIn_spans (text : Array Char) (e : Regex) : StaysIn text.size (Spans text e) := by
  induction e with
  | empty => exact StaysIn.turns (fun _ _ h => h.elim) (R := fun _ _ => False) 0
  | char c =>
    rintro i k ⟨hc, rfl⟩
    have hlt := (Array.getElem?_eq_some_iff.mp hc).1
    omega
  | set s =>
    rintro i k ⟨hs, rfl⟩
    obtain ⟨c, hat, -⟩ := (Option.any_eq_true _ _).mp hs
    have hlt := (Array.getElem?_eq_some_iff.mp hat).1
    omega
  | assertion a =>
    rintro i k ⟨-, rfl⟩
    omega
  | group e ih => exact ih
  | seq e f he hf =>
    rintro i k ⟨j, hfirst, hrest⟩
    have hij := he i j hfirst
    have hjk := hf j k hrest
    omega
  | alt e f he hf =>
    rintro i k (h | h)
    · exact he i k h
    · exact hf i k h
  | repetition e least most ih =>
    rintro i k ⟨n, -, -, h⟩
    exact ih.turns n i k h

/-! ## The number of turns -/

/-- Of more turns than there are characters one is taken in place. -/
theorem Turns.exists_in_place {size : Nat} (hR : StaysIn size R) (hn : size - i < n)
    (h : Turns R n i k) : ∃ p q j, n = p + 1 + q ∧ Turns R p i j ∧ R j j ∧ Turns R q j k := by
  induction n generalizing i with
  | zero => cases hn
  | succ n ih =>
    obtain ⟨j, hstep, hrest⟩ := h
    obtain ⟨hij, hj⟩ := hR i j hstep
    rcases Nat.eq_or_lt_of_le hij with rfl | hlt
    · exact ⟨0, n, i, by omega, rfl, hstep, hrest⟩
    · have hsize := hj hlt
      obtain ⟨p, q, l, rfl, hfirst, hplace, hlast⟩ := ih (by omega) hrest
      exact ⟨p + 1, q, l, by omega, ⟨j, hstep, hfirst⟩, hplace, hlast⟩

theorem turns_succ_iff {size : Nat} (hR : StaysIn size R) (hn : size < n) :
    Turns R (n + 1) i k ↔ Turns R n i k := by
  constructor
  · intro h
    obtain ⟨p, q, j, hpq, hfirst, -, hlast⟩ := h.exists_in_place hR (by omega)
    obtain rfl : n = p + q := by omega
    exact turns_add_iff.mpr ⟨j, hfirst, hlast⟩
  · intro h
    obtain ⟨p, q, j, rfl, hfirst, hplace, hlast⟩ := h.exists_in_place hR (by omega)
    have hmore : Turns R (p + (q + 1 + 1)) i k :=
      turns_add_iff.mpr ⟨j, hfirst, j, hplace, j, hplace, hlast⟩
    have hcount : p + 1 + q + 1 = p + (q + 1 + 1) := by omega
    rwa [hcount]

/-- Beyond the number of characters the number of turns does not matter. -/
theorem Turns.recount {size m : Nat} (hR : StaysIn size R) (hn : size < n) (hm : size < m)
    (h : Turns R n i k) : Turns R m i k := by
  have hleast (d : Nat) : Turns R (size + 1 + d) i k ↔ Turns R (size + 1) i k := by
    induction d with
    | zero => exact Iff.rfl
    | succ d ih => exact (turns_succ_iff (n := size + 1 + d) hR (by omega)).trans ih
  obtain ⟨d, rfl⟩ := Nat.exists_eq_add_of_le hn
  obtain ⟨d', rfl⟩ := Nat.exists_eq_add_of_le hm
  exact (hleast d').mpr ((hleast d).mp h)

/-- The turns that are computed, at first those that have to be taken and then further ones, are as
good as all that may be taken. -/
theorem turns_bounded_iff {size bound least further : Nat} {most : Option Nat}
    (hR : StaysIn size R) (hbound : size < bound)
    (hfurther : ∀ d, d ≤ further ↔ d ≤ bound ∧ ∀ m ∈ most, d ≤ m - least) :
    (∃ m ≤ further, Turns R (min least bound + m) i k) ↔
      ∃ n, least ≤ n ∧ (∀ m ∈ most, n ≤ max least m) ∧ Turns R n i k := by
  constructor
  · rintro ⟨m, hm, h⟩
    obtain ⟨-, hmost⟩ := (hfurther m).mp hm
    by_cases hleast : least ≤ bound
    · rw [Nat.min_eq_left hleast] at h
      refine ⟨least + m, Nat.le_add_right _ _, ?_, h⟩
      intro limit hlimit
      have hle := hmost limit hlimit
      omega
    · exact ⟨least, Nat.le_refl _, fun limit _ => Nat.le_max_left _ _,
        h.recount hR (by omega) (by omega)⟩
  · rintro ⟨n, hn, hmost, h⟩
    refine ⟨min (n - least) bound, (hfurther _).mpr ⟨Nat.min_le_right _ _, ?_⟩, ?_⟩
    · intro limit hlimit
      have hle := hmost limit hlimit
      omega
    · by_cases hsmall : least ≤ bound ∧ n - least ≤ bound
      · have hcount : min least bound + min (n - least) bound = n := by omega
        rwa [hcount]
      · exact h.recount hR (by omega) (by omega)

/-! ## The places that are computed -/

theorem mem_merge {is js : List Nat} : k ∈ merge is js ↔ k ∈ is ∨ k ∈ js := by
  fun_induction merge is js with
  | case1 js => simp
  | case2 i is => simp
  | case3 i is j js hlt ih => simp only [List.mem_cons, ih, or_assoc]
  | case4 i is j js hle hlt ih => simp only [List.mem_cons, ih]; grind
  | case5 i is j js hle hge ih =>
    obtain rfl : i = j := by omega
    simp only [List.mem_cons, ih]
    grind

section Step
variable {step : List Nat → List Nat}
  (hstep : ∀ places k, k ∈ step places ↔ ∃ i ∈ places, R i k)
include hstep

theorem mem_iterate_iff : k ∈ iterate step n places ↔ ∃ i ∈ places, Turns R n i k := by
  induction n generalizing places with
  | zero => simp [iterate, Turns]
  | succ n ih =>
    rw [iterate, ih]
    simp only [hstep, Turns]
    constructor
    · rintro ⟨j, ⟨i, hi, hfirst⟩, hrest⟩
      exact ⟨i, hi, j, hfirst, hrest⟩
    · rintro ⟨i, hi, j, hfirst, hrest⟩
      exact ⟨j, ⟨i, hi, hfirst⟩, hrest⟩

/-- No turn leads out of places that a step adds nothing to. -/
theorem mem_of_turns (hclosed : merge places (step places) = places) (hi : i ∈ places)
    (h : Turns R n i k) : k ∈ places := by
  induction n generalizing i with
  | zero =>
    obtain rfl : i = k := h
    exact hi
  | succ n ih =>
    obtain ⟨j, hfirst, hrest⟩ := h
    refine ih ?_ hrest
    rw [← hclosed]
    exact mem_merge.mpr (Or.inr ((hstep places j).mpr ⟨i, hi, hfirst⟩))

theorem mem_closure_iff :
    k ∈ closure step n places ↔ ∃ m ≤ n, ∃ i ∈ places, Turns R m i k := by
  induction n generalizing places with
  | zero => simp [closure, Turns]
  | succ n ih =>
    rw [closure]
    split
    · next hclosed =>
      constructor
      · intro h
        exact ⟨0, Nat.zero_le _, k, h, rfl⟩
      · rintro ⟨m, -, i, hi, h⟩
        exact mem_of_turns hstep (beq_iff_eq.mp hclosed) hi h
    · rw [ih]
      simp only [mem_merge, hstep]
      constructor
      · rintro ⟨m, hm, j, hj | ⟨i, hi, hfirst⟩, hrest⟩
        · exact ⟨m, by omega, j, hj, hrest⟩
        · exact ⟨m + 1, by omega, i, hi, j, hfirst, hrest⟩
      · rintro ⟨m, hm, i, hi, h⟩
        cases m with
        | zero => exact ⟨0, Nat.zero_le _, i, Or.inl hi, h⟩
        | succ m =>
          obtain ⟨j, hfirst, hrest⟩ := h
          exact ⟨m, by omega, j, Or.inr ⟨i, hi, hfirst⟩, hrest⟩

end Step

/-- The computed places are those that the expression spans from one of the given places. -/
theorem mem_ends_iff : k ∈ e.ends text places ↔ ∃ i ∈ places, e.Spans text i k := by
  induction e generalizing places k with
  | empty => simp [ends, Spans]
  | char c => simp [ends, Spans, and_assoc]
  | set s => simp [ends, Spans, and_assoc]
  | assertion a => simp [ends, Spans, ← and_assoc]
  | group e ih => exact ih
  | seq e f he hf =>
    rw [ends, hf]
    simp only [he, Spans]
    constructor
    · rintro ⟨j, ⟨i, hi, hfirst⟩, hrest⟩
      exact ⟨i, hi, j, hfirst, hrest⟩
    · rintro ⟨i, hi, j, hfirst, hrest⟩
      exact ⟨j, ⟨i, hi, hfirst⟩, hrest⟩
  | alt e f he hf =>
    rw [ends, mem_merge, he, hf]
    simp only [Spans, and_or_left, exists_or]
  | repetition e least most ih =>
    have hstep (places : List Nat) (k : Nat) :
        k ∈ e.ends text places ↔ ∃ i ∈ places, e.Spans text i k := ih
    unfold ends
    extract_lets bound start further
    have hsize : text.size < bound := by omega
    have hfurther (d : Nat) : d ≤ further ↔ d ≤ bound ∧ ∀ m ∈ most, d ≤ m - least := by
      cases most with
      | none => simp [further]
      | some limit =>
        simp only [further, Nat.le_min, and_comm (a := d ≤ limit - least)]
        simp
    have hbounded (i : Nat) := turns_bounded_iff (i := i) (k := k)
      (staysIn_spans text e) hsize hfurther
    rw [mem_closure_iff hstep]
    simp only [start, mem_iterate_iff hstep, Spans, ← hbounded, turns_add_iff]
    constructor
    · rintro ⟨m, hm, j, ⟨i, hi, hfirst⟩, hrest⟩
      exact ⟨i, hi, m, hm, j, hfirst, hrest⟩
    · rintro ⟨i, hi, m, hm, j, hfirst, hrest⟩
      exact ⟨m, hm, j, ⟨i, hi, hfirst⟩, hrest⟩

/-- An expression matches some part of a text if it spans two places of it. -/
theorem matchesIn_iff {text : String} :
    e.matchesIn text = true ↔
      ∃ i ≤ text.toList.length, ∃ k, e.Spans text.toList.toArray i k := by
  unfold matchesIn
  dsimp only
  rw [Bool.not_eq_true', List.isEmpty_eq_false_iff_exists_mem]
  simp only [mem_ends_iff, List.mem_range, List.size_toArray, Nat.lt_succ_iff]
  constructor
  · rintro ⟨k, i, hi, h⟩
    exact ⟨i, hi, k, h⟩
  · rintro ⟨i, hi, k, h⟩
    exact ⟨k, i, hi, h⟩

/-! ## Words -/

/-- Whether an expression has no assertions. -/
def isPlain : Regex → Bool
  | .empty | .char _ | .set _ => true
  | .assertion _ => false
  | .group e | .repetition e _ _ => e.isPlain
  | .seq e f | .alt e f => e.isPlain && f.isPlain

/-- The words that an expression matches, if it has no assertions. -/
def Matches : Regex → List Char → Prop
  | .empty, w => w = []
  | .char c, w => w = [c]
  | .set s, w => ∃ c, s.contains c = true ∧ w = [c]
  | .assertion _, _ => False
  | .group e, w => Matches e w
  | .seq e f, w => ∃ u v, Matches e u ∧ Matches f v ∧ w = u ++ v
  | .alt e f, w => Matches e w ∨ Matches f w
  | .repetition e least most, w =>
    ∃ parts : List (List Char), least ≤ parts.length ∧ (∀ m ∈ most, parts.length ≤ max least m) ∧
      (∀ part ∈ parts, Matches e part) ∧ w = parts.flatten

/-- A word stands between two places of a text. -/
def Between (text : Array Char) (i : Nat) (w : List Char) (k : Nat) : Prop :=
  w <+: text.toList.drop i ∧ i + w.length = k

variable {w u v : List Char}

theorem between_nil_iff : Between text i [] k ↔ i = k := by
  simp [Between]

theorem between_singleton_iff {c : Char} :
    Between text i [c] k ↔ text[i]? = some c ∧ i + 1 = k := by
  have hhead : [c] <+: text.toList.drop i ↔ text[i]? = some c := by
    rw [← Array.getElem?_toList, ← List.head?_drop]
    cases text.toList.drop i <;> simp [List.cons_prefix_cons, eq_comm]
  rw [Between, hhead]
  rfl

theorem between_append_iff :
    Between text i (u ++ v) k ↔ ∃ j, Between text i u j ∧ Between text j v k := by
  constructor
  · rintro ⟨⟨rest, hrest⟩, hk⟩
    rw [List.append_assoc] at hrest
    refine ⟨i + u.length, ⟨⟨v ++ rest, hrest⟩, rfl⟩, ⟨rest, ?_⟩, ?_⟩
    · rw [← List.drop_drop, ← hrest, List.drop_left]
    · rw [← hk, List.length_append, Nat.add_assoc]
  · rintro ⟨j, ⟨⟨rest, hrest⟩, rfl⟩, ⟨rest', hrest'⟩, rfl⟩
    rw [← List.drop_drop, ← hrest, List.drop_left] at hrest'
    refine ⟨⟨rest', ?_⟩, ?_⟩
    · rw [List.append_assoc, hrest', hrest]
    · rw [List.length_append, Nat.add_assoc]

theorem between_all_iff : Between text 0 w text.size ↔ w = text.toList := by
  constructor
  · rintro ⟨hstart, hlength⟩
    rw [List.drop_zero] at hstart
    exact hstart.eq_of_length (by rw [← Array.length_toList] at hlength; omega)
  · rintro rfl
    exact ⟨List.prefix_refl _, by simp⟩

theorem turns_iff_flatten (hR : ∀ i k, R i k ↔ ∃ w, e.Matches w ∧ Between text i w k) :
    Turns R n i k ↔
      ∃ parts : List (List Char), parts.length = n ∧ (∀ part ∈ parts, e.Matches part) ∧
        Between text i parts.flatten k := by
  induction n generalizing i with
  | zero =>
    constructor
    · intro h
      exact ⟨[], rfl, fun _ hpart => absurd hpart List.not_mem_nil, between_nil_iff.mpr h⟩
    · rintro ⟨parts, hlength, -, h⟩
      rw [List.length_eq_zero_iff] at hlength
      subst hlength
      exact between_nil_iff.mp h
  | succ n ih =>
    constructor
    · rintro ⟨j, hfirst, hrest⟩
      obtain ⟨w, hw, hbetween⟩ := (hR i j).mp hfirst
      obtain ⟨parts, hlength, hparts, hflatten⟩ := ih.mp hrest
      exact ⟨w :: parts, congrArg Nat.succ hlength, List.forall_mem_cons.mpr ⟨hw, hparts⟩,
        between_append_iff.mpr ⟨j, hbetween, hflatten⟩⟩
    · rintro ⟨parts, hlength, hparts, hflatten⟩
      cases parts with
      | nil => cases hlength
      | cons w parts =>
        obtain ⟨hw, hparts⟩ := List.forall_mem_cons.mp hparts
        obtain ⟨j, hbetween, hrest⟩ := between_append_iff.mp hflatten
        exact ⟨j, (hR i j).mpr ⟨w, hw, hbetween⟩,
          ih.mpr ⟨parts, Nat.succ.inj hlength, hparts, hrest⟩⟩

/-- Without assertions an expression spans two places if it matches the word between them. -/
theorem spans_iff_matches (h : e.isPlain = true) :
    e.Spans text i k ↔ ∃ w, e.Matches w ∧ Between text i w k := by
  induction e generalizing i k with
  | empty => simp [Spans, Matches, between_nil_iff]
  | char c => simp [Spans, Matches, between_singleton_iff]
  | set s =>
    simp only [Spans, Matches, Option.any_eq_true]
    constructor
    · rintro ⟨⟨c, hat, hc⟩, rfl⟩
      exact ⟨[c], ⟨c, hc, rfl⟩, between_singleton_iff.mpr ⟨hat, rfl⟩⟩
    · rintro ⟨_, ⟨c, hc, rfl⟩, hbetween⟩
      obtain ⟨hat, rfl⟩ := between_singleton_iff.mp hbetween
      exact ⟨⟨c, hat, hc⟩, rfl⟩
  | assertion a => cases h
  | group e ih => exact ih h
  | seq e f he hf =>
    rw [isPlain, Bool.and_eq_true] at h
    simp only [Spans, Matches, he h.1, hf h.2]
    constructor
    · rintro ⟨j, ⟨u, hu, hfirst⟩, v, hv, hrest⟩
      exact ⟨u ++ v, ⟨u, v, hu, hv, rfl⟩, between_append_iff.mpr ⟨j, hfirst, hrest⟩⟩
    · rintro ⟨_, ⟨u, v, hu, hv, rfl⟩, hbetween⟩
      obtain ⟨j, hfirst, hrest⟩ := between_append_iff.mp hbetween
      exact ⟨j, ⟨u, hu, hfirst⟩, v, hv, hrest⟩
  | alt e f he hf =>
    rw [isPlain, Bool.and_eq_true] at h
    simp only [Spans, Matches, he h.1, hf h.2, or_and_right, exists_or]
  | repetition e least most ih =>
    have hturns (n : Nat) := turns_iff_flatten (n := n) (i := i) (k := k) fun _ _ => ih h
    simp only [Spans, Matches, hturns]
    constructor
    · rintro ⟨_, hleast, hmost, parts, rfl, hparts, hflatten⟩
      exact ⟨_, ⟨parts, hleast, hmost, hparts, rfl⟩, hflatten⟩
    · rintro ⟨_, ⟨parts, hleast, hmost, hparts, rfl⟩, hflatten⟩
      exact ⟨_, hleast, hmost, parts, rfl, hparts, hflatten⟩

/-- An expression without assertions leads from the start of a text to its end if it matches the
whole of it. -/
theorem size_mem_ends_iff (h : e.isPlain = true) :
    text.size ∈ e.ends text [0] ↔ e.Matches text.toList := by
  rw [mem_ends_iff]
  simp only [List.mem_singleton, exists_eq_left, spans_iff_matches h, between_all_iff,
    exists_eq_right]

theorem matches_seqAll_cons_iff {es : List Regex} :
    (seqAll (e :: es)).Matches w ↔
      ∃ u v, e.Matches u ∧ (seqAll es).Matches v ∧ w = u ++ v := by
  cases es with
  | nil => simp [seqAll, Matches]
  | cons f es => rfl

theorem spans_seqAll_cons_iff {es : List Regex} :
    (seqAll (e :: es)).Spans text i k ↔ ∃ j, e.Spans text i j ∧ (seqAll es).Spans text j k := by
  cases es with
  | nil => simp [seqAll, Spans]
  | cons f es => rfl

theorem matches_seqAll_append_iff {es fs : List Regex} :
    (seqAll (es ++ fs)).Matches w ↔
      ∃ u v, (seqAll es).Matches u ∧ (seqAll fs).Matches v ∧ w = u ++ v := by
  induction es generalizing w with
  | nil => simp [seqAll, Matches]
  | cons e es ih =>
    simp only [List.cons_append, matches_seqAll_cons_iff, ih]
    constructor
    · rintro ⟨u, _, hu, ⟨v, x, hv, hx, rfl⟩, rfl⟩
      exact ⟨u ++ v, x, ⟨u, v, hu, hv, rfl⟩, hx, (List.append_assoc u v x).symm⟩
    · rintro ⟨_, x, ⟨u, v, hu, hv, rfl⟩, hx, rfl⟩
      exact ⟨u, v ++ x, hu, ⟨v, x, hv, hx, rfl⟩, List.append_assoc u v x⟩

theorem isPlain_seqAll {es : List Regex} (h : ∀ e ∈ es, e.isPlain = true) :
    (seqAll es).isPlain = true := by
  induction es with
  | nil => rfl
  | cons e es ih =>
    obtain ⟨he, hes⟩ := List.forall_mem_cons.mp h
    cases es with
    | nil => exact he
    | cons f es =>
      rw [seqAll, isPlain, he, ih hes, Bool.and_self]
      intro hnil
      cases hnil

theorem isPlain_altAll {es : List Regex} (he : e.isPlain = true)
    (hes : ∀ f ∈ es, f.isPlain = true) : (altAll e es).isPlain = true := by
  induction es generalizing e with
  | nil => exact he
  | cons f es ih =>
    obtain ⟨hf, hes⟩ := List.forall_mem_cons.mp hes
    rw [altAll, isPlain, he, ih hf hes, Bool.and_self]

end PackageUsage.Regex
