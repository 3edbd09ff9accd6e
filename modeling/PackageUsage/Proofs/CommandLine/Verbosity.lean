import PackageUsage.Proofs.CommandLine.Line

/-!
# Arguments that ask for more events

Two command lines that differ only in how often they ask for more events are both refused, or ask
for the same help, or for invocations that differ in their verbosity alone.
-/

namespace PackageUsage.CommandLine

/-- The argument asks for more events. -/
def Given.isVerbose : Given → Bool
  | .flag _ .verbose => true
  | _ => false

/-- How often the words of a command line ask for more events. -/
def askedForEvents (words : List String) : Nat :=
  (givens words).countP (·.isVerbose)

/-- Two command lines give the same arguments and patterns in the same order, but for those that
ask for more events. -/
def SameButVerbosity (words words' : List String) : Prop :=
  (givens words).filter (!·.isVerbose) = (givens words').filter (!·.isVerbose) ∧
    behind words = behind words'

instance (words words' : List String) : Decidable (SameButVerbosity words words') :=
  inferInstanceAs (Decidable (_ ∧ _))

/-- The invocation without its verbosity. -/
def silent (i : Invocation) : Invocation :=
  { i with verbosity := 0 }

theorem eq_silent {i : Invocation} {n : Nat} (h : i.verbosity = n) :
    i = { silent i with verbosity := n } := by
  subst h
  rfl

namespace Reading

/-- The reading without what asks for more events. -/
def silent (r : Reading) : Reading :=
  { r with invocation := CommandLine.silent r.invocation, given := r.given.filter (· != .verbose) }

variable {r r' s : Reading} {a : Argument} {g : Given}

theorem takeGiven_of_isVerbose (hg : g.isVerbose) (r : Reading) :
    r.takeGiven g = .ok { r with
      given := r.given ++ [.verbose]
      invocation := { r.invocation with
        verbosity := min (r.invocation.verbosity + 1) verbosityLimit } } := by
  obtain ⟨style, rfl⟩ : ∃ style, g = .flag style .verbose := by
    unfold Given.isVerbose at hg
    split at hg
    · exact ⟨_, rfl⟩
    · cases hg
  have hnote : r.note .verbose = .ok { r with given := r.given ++ [.verbose] } :=
    if_neg (by simp [Argument.isRepeatable])
  exact congrArg (· >>= fun r => .ok { r with invocation := raised r.invocation .verbose }) hnote

@[simp] theorem silent_silent (r : Reading) : r.silent.silent = r.silent := by
  simp [silent, CommandLine.silent]

theorem note_silent (r : Reading) (a : Argument) :
    (r.note a).map silent = (r.silent.note a).map silent := by
  have hrefused : (r.silent.given.contains a && !a.isRepeatable) =
      (r.given.contains a && !a.isRepeatable) := by
    by_cases ha : a = .verbose
    · subst ha
      simp [Argument.isRepeatable]
    · rw [Bool.eq_iff_iff]
      simp [silent, ha]
  unfold note
  rw [hrefused]
  split
  · rfl
  · simp [Except.map, silent, CommandLine.silent]

theorem noteGiven_silent (r : Reading) (g : Given) :
    (r.noteGiven g).map silent = (r.silent.noteGiven g).map silent := by
  unfold noteGiven
  cases g.noted? with
  | none => simp [Except.map]
  | some a => exact note_silent r a

theorem assigned_silent (i : Invocation) (value : String) (a : Argument) :
    (assigned i value a).map CommandLine.silent = assigned (CommandLine.silent i) value a := by
  cases a with
  | searchPath | config => cases hempty : value.isEmpty <;> simp [assigned, hempty] <;> rfl
  | format => cases hformat : ReportFormat.ofName? value <;> simp [assigned, hformat] <;> rfl
  | _ => rfl

theorem effect_silent (hg : g.isVerbose = false) (i : Invocation) :
    (g.effect i).map CommandLine.silent = g.effect (CommandLine.silent i) := by
  cases g with
  | flag style a =>
    cases a with
    | verbose => cases hg
    | _ => rfl
  | attached a value | apart a value =>
    simp only [Given.effect, ← assigned_silent]
    cases assigned i value a <;> rfl
  | _ => rfl

theorem takeGiven_silent (hg : g.isVerbose = false) (hrs : r.silent = s.silent) :
    (r.takeGiven g).map silent = (s.takeGiven g).map silent := by
  have hnote : (r.noteGiven g).map silent = (s.noteGiven g).map silent := by
    rw [noteGiven_silent, hrs, ← noteGiven_silent]
  refine map_bind_congr hnote fun r₁ s₁ _ _ hrs₁ => ?_
  have heffect : (g.effect r₁.invocation).map CommandLine.silent =
      (g.effect s₁.invocation).map CommandLine.silent := by
    rw [effect_silent hg, effect_silent hg]
    exact congrArg g.effect (congrArg invocation hrs₁)
  refine map_bind_congr heffect fun i j _ _ hij => ?_
  have hgiven := congrArg given hrs₁
  have hwaiting := congrArg waiting hrs₁
  simp_all [silent, Except.map, pure, Except.pure]

/-- What asks for more events changes nothing else. -/
theorem foldlM_takeGiven_silent (gs : List Given) (hrs : r.silent = s.silent) :
    (gs.foldlM takeGiven r).map silent =
      ((gs.filter (!·.isVerbose)).foldlM takeGiven s).map silent := by
  induction gs generalizing r s with
  | nil => exact congrArg Except.ok hrs
  | cons g gs ih =>
    rw [List.foldlM_cons]
    cases hg : g.isVerbose with
    | true =>
      rw [takeGiven_of_isVerbose hg, List.filter_cons_of_neg (by simp [hg])]
      refine ih (Eq.trans ?_ hrs)
      simp [silent, CommandLine.silent]
    | false =>
      rw [List.filter_cons_of_pos (by simp [hg]), List.foldlM_cons]
      exact map_bind_congr (takeGiven_silent hg hrs) fun _ _ _ _ => ih

theorem conflict?_filter (as : List Argument) :
    conflict? (as.filter (· != .verbose)) = conflict? as := by
  have hothers (a : Argument) :
      (as.filter (· != .verbose)).filter a.excludes = as.filter a.excludes := by
    rw [List.filter_filter]
    refine List.filter_congr fun b _ => ?_
    cases b <;> simp [Argument.excludes, Argument.selectsFormat]
  have hnone : as.filter Argument.verbose.excludes = [] := by
    simp [Argument.excludes, Argument.selectsFormat]
  unfold conflict?
  simp only [hothers]
  rw [← List.head?_filterMap, List.filterMap_filter, List.head?_filterMap]
  refine congrArg (as.findSome? ·) (funext fun a => ?_)
  cases a <;> simp [hnone]

theorem finish_silent (hr : r.waiting = none) (hrs : r.silent = s.silent) (rest : List String) :
    (r.finish rest).map CommandLine.silent = (s.finish rest).map CommandLine.silent := by
  have hs : s.waiting = none := (congrArg waiting hrs).symm.trans hr
  have hconflict : conflict? r.given = conflict? s.given := by
    rw [← conflict?_filter, ← conflict?_filter s.given]
    exact congrArg (conflict? ·.given) hrs
  have hinvocation : CommandLine.silent r.invocation = CommandLine.silent s.invocation :=
    congrArg invocation hrs
  rw [finish_of_none hr, finish_of_none hs, hconflict]
  cases conflict? s.given with
  | some e => rfl
  | none =>
    exact congrArg (fun i => Except.ok { i with patterns := i.patterns ++ rest }) hinvocation

/-- What is asked for beside more events depends on the other arguments only. -/
theorem takeGivens_silent (hr : r.waiting = none) (gs : List Given) (rest : List String) :
    (r.takeGivens gs rest).map CommandLine.silent =
      (r.takeGivens (gs.filter (!·.isVerbose)) rest).map CommandLine.silent :=
  map_bind_congr (foldlM_takeGiven_silent gs rfl) fun _ _ htaken _ hsilent =>
    finish_silent ((foldlM_takeGiven_waiting htaken).trans hr) hsilent rest

theorem assigned_verbosity {i i' : Invocation} {value : String}
    (h : assigned i value a = .ok i') : i'.verbosity = i.verbosity := by
  unfold assigned at h
  split at h <;> try split at h
  all_goals cases h
  all_goals rfl

theorem effect_verbosity {i i' : Invocation} (h : g.effect i = .ok i')
    (hi : i.verbosity ≤ verbosityLimit) :
    i'.verbosity = min (i.verbosity + if g.isVerbose then 1 else 0) verbosityLimit := by
  have hkept (hg : g.isVerbose = false) (hi' : i'.verbosity = i.verbosity) :
      i'.verbosity = min (i.verbosity + if g.isVerbose then 1 else 0) verbosityLimit := by
    rw [hg, hi']
    exact (Nat.min_eq_left hi).symm
  cases g with
  | flag style a =>
    cases a with
    | help | version => cases h
    | verbose =>
      cases h
      rfl
    | _ =>
      cases h
      exact hkept rfl rfl
  | attached a value | apart a value =>
    simp only [Given.effect] at h
    cases hassigned : assigned i value a with
    | error e =>
      rw [hassigned] at h
      cases h
    | ok i₁ =>
      rw [hassigned] at h
      cases h
      exact hkept rfl (assigned_verbosity hassigned)
  | plain word =>
    cases h
    exact hkept rfl rfl
  | _ => cases h

theorem verbosity_foldlM {gs : List Given} (h : gs.foldlM takeGiven r = .ok r')
    (hr : r.invocation.verbosity ≤ verbosityLimit) :
    r'.invocation.verbosity =
      min (r.invocation.verbosity + gs.countP (·.isVerbose)) verbosityLimit := by
  induction gs generalizing r with
  | nil =>
    cases h
    simp [hr]
  | cons g gs ih =>
    rw [List.foldlM_cons] at h
    cases hstep : r.takeGiven g with
    | error s =>
      rw [hstep] at h
      cases h
    | ok r₁ =>
      rw [hstep] at h
      obtain ⟨i, hi, rfl⟩ := takeGiven_eq_ok hstep
      have hverbosity : i.verbosity = _ := effect_verbosity hi hr
      have hlimit : i.verbosity ≤ verbosityLimit := by
        rw [hverbosity]
        exact Nat.min_le_right ..
      rw [ih h hlimit, List.countP_cons]
      show min (i.verbosity + _) _ = _
      omega

theorem verbosity_takeGivens {gs : List Given} {rest : List String} {i : Invocation}
    (hr : r.waiting = none) (hlimit : r.invocation.verbosity ≤ verbosityLimit)
    (h : r.takeGivens gs rest = .ok i) :
    i.verbosity = min (r.invocation.verbosity + gs.countP (·.isVerbose)) verbosityLimit := by
  unfold takeGivens at h
  cases htaken : gs.foldlM takeGiven r with
  | error s =>
    rw [htaken] at h
    cases h
  | ok r' =>
    rw [htaken] at h
    have hfinish : r'.finish rest = .ok i := h
    rw [finish_of_none ((foldlM_takeGiven_waiting htaken).trans hr)] at hfinish
    rw [← verbosity_foldlM htaken hlimit]
    split at hfinish <;> cases hfinish
    rfl

end Reading

section SameButVerbosity
variable {words words' : List String}

theorem exists_isApart_filter (gs : List Given) :
    (∃ g ∈ gs.filter (!·.isVerbose), g.isApart) ↔ ∃ g ∈ gs, g.isApart := by
  have hverbose (g : Given) (hg : g.isApart) : g.isVerbose = false := by
    cases g <;> first | rfl | cases hg
  constructor
  · rintro ⟨g, hg, hapart⟩
    exact ⟨g, (List.mem_filter.mp hg).1, hapart⟩
  · rintro ⟨g, hg, hapart⟩
    exact ⟨g, List.mem_filter.mpr ⟨hg, by simp [hverbose g hapart]⟩, hapart⟩

theorem SameButVerbosity.exists_isApart (h : SameButVerbosity words words') :
    (∃ g ∈ givens words, g.isApart) ↔ ∃ g ∈ givens words', g.isApart := by
  rw [← exists_isApart_filter, h.1, exists_isApart_filter]

theorem SameButVerbosity.takeGivens (h : SameButVerbosity words words') :
    (Reading.takeGivens {} (givens words) (behind words)).map silent =
      (Reading.takeGivens {} (givens words') (behind words')).map silent := by
  rw [Reading.takeGivens_silent rfl, h.1, h.2, ← Reading.takeGivens_silent rfl]

/-- Two command lines that differ in their verbosity only are both refused, or they ask for the
same. -/
theorem SameButVerbosity.read_cases (h : SameButVerbosity words words') :
    (∃ i : Invocation,
      read words = .ok { i with verbosity := min (askedForEvents words) verbosityLimit } ∧
      read words' = .ok { i with verbosity := min (askedForEvents words') verbosityLimit }) ∨
    (∃ s, read words = .error s ∧ read words' = .error s) ∨
    (∃ g ∈ givens words, g.isApart) ∧ IsUsage (read words) ∧ IsUsage (read words') := by
  have hsame := h.takeGivens
  have hread := read_endAlike words
  have hread' := read_endAlike words'
  rw [← h.exists_isApart] at hread'
  rcases hread with hread | ⟨hapart, hrefused, hrefused₀⟩
  · rcases hread' with hread' | ⟨hapart, hrefused', hrefused₀'⟩
    · rw [hread, hread']
      cases hx : Reading.takeGivens {} (givens words) (behind words) with
      | error s =>
        rw [hx] at hsame
        exact .inr (.inl ⟨s, rfl, error_of_map hsame⟩)
      | ok i =>
        rw [hx] at hsame
        cases hy : Reading.takeGivens {} (givens words') (behind words') with
        | error s =>
          rw [hy] at hsame
          cases hsame
        | ok j =>
          rw [hy] at hsame
          have hverbosity : i.verbosity = _ :=
            Reading.verbosity_takeGivens rfl (Nat.zero_le _) hx
          have hverbosity' : j.verbosity = _ :=
            Reading.verbosity_takeGivens rfl (Nat.zero_le _) hy
          have hsilent : silent i = silent j := Except.ok.inj hsame
          refine .inl ⟨silent i, congrArg Except.ok ?_, congrArg Except.ok ?_⟩
          · rw [eq_silent hverbosity, Nat.zero_add]
            rfl
          · rw [eq_silent hverbosity', hsilent, Nat.zero_add]
            rfl
    · refine .inr (.inr ⟨hapart, ?_, hrefused'⟩)
      rw [hread]
      exact hrefused₀'.of_map hsame.symm
  · refine .inr (.inr ⟨hapart, hrefused, hread'.isUsage (hrefused₀.of_map hsame)⟩)

end SameButVerbosity

end PackageUsage.CommandLine
