import PackageUsage.Proofs.CommandLine.Given

/-!
# Settling an argument

A reading ends with what it has read, with help, or refused. Before it takes an argument it settles
the one that waits for its value, and that is either refused or leaves nothing that waits.
-/

namespace PackageUsage.CommandLine

/-! ## Ends of a reading -/

/-- A reading is refused. -/
def IsUsage {α : Type} (x : Except Stop α) : Prop :=
  ∃ e, x = .error (.usage e)

/-- Two readings end in the same way, or under a condition both are refused. -/
def EndAlike {α : Type} (condition : Prop) (x y : Except Stop α) : Prop :=
  x = y ∨ condition ∧ IsUsage x ∧ IsUsage y

section EndAlike
variable {α β : Type} {P Q : Prop} {x y : Except Stop α} {f g : α → Except Stop β}

theorem EndAlike.mono (h : EndAlike P x y) (hPQ : P → Q) : EndAlike Q x y :=
  h.imp id fun ⟨hP, hboth⟩ => ⟨hPQ hP, hboth⟩

theorem EndAlike.isUsage (h : EndAlike P x y) (hy : IsUsage y) : IsUsage x := by
  rcases h with rfl | ⟨-, hx, -⟩
  · exact hy
  · exact hx

theorem IsUsage.bind (h : IsUsage x) (f : α → Except Stop β) : IsUsage (x >>= f) := by
  obtain ⟨e, rfl⟩ := h
  exact ⟨e, rfl⟩

theorem EndAlike.bind (h : EndAlike P x y) (hfg : ∀ a, y = .ok a → EndAlike P (f a) (g a)) :
    EndAlike P (x >>= f) (y >>= g) := by
  rcases h with rfl | ⟨hP, hx, hy⟩
  · cases hx : x with
    | error s => exact .inl rfl
    | ok a => exact hfg a hx
  · exact .inr ⟨hP, hx.bind f, hy.bind g⟩

end EndAlike

theorem error_of_map {α β : Type} {p : α → β} {s : Stop} {y : Except Stop α}
    (h : (.error s : Except Stop α).map p = y.map p) : y = .error s := by
  cases y with
  | error s' =>
    cases h
    rfl
  | ok a => cases h

theorem IsUsage.of_map {α β : Type} {p : α → β} {x y : Except Stop α} (hx : IsUsage x)
    (h : x.map p = y.map p) : IsUsage y := by
  obtain ⟨e, rfl⟩ := hx
  exact ⟨e, error_of_map h⟩

/-- Steps that agree up to what is looked at agree after the next step. -/
theorem map_bind_congr {α β γ δ : Type} {p : α → γ} {q : β → δ} {x y : Except Stop α}
    {f g : α → Except Stop β} (hxy : x.map p = y.map p)
    (hfg : ∀ a b, x = .ok a → y = .ok b → p a = p b → (f a).map q = (g b).map q) :
    (x >>= f).map q = (y >>= g).map q := by
  cases x with
  | error s =>
    cases y with
    | error s' => cases hxy; rfl
    | ok b => cases hxy
  | ok a =>
    cases y with
    | error s' => cases hxy
    | ok b => exact hfg a b rfl rfl (Except.ok.inj hxy)

namespace Reading

variable {r r' : Reading} {a : Argument} {value word : String} {style : HelpStyle} {g : Given}
  {gs : List Given}

theorem note_cases (r : Reading) (a : Argument) :
    r.note a = .ok { r with given := r.given ++ [a] } ∨ IsUsage (r.note a) := by
  unfold note
  split
  · exact .inr ⟨_, rfl⟩
  · exact .inl rfl

/-- What a given argument that is taken does. -/
theorem takeGiven_eq_ok (h : r.takeGiven g = .ok r') :
    ∃ i, g.effect r.invocation = .ok i ∧
      r' = { r with invocation := i, given := r.given ++ g.noted?.toList } := by
  have hnoted : r.noteGiven g = .ok { r with given := r.given ++ g.noted?.toList } ∨
      IsUsage (r.noteGiven g) := by
    unfold noteGiven
    cases g.noted? with
    | none => exact .inl (by simp)
    | some a => exact note_cases r a
  unfold takeGiven at h
  rcases hnoted with hok | ⟨e, he⟩
  · rw [hok] at h
    cases hi : g.effect r.invocation with
    | error s =>
      simp only [bind, Except.bind, hi] at h
      cases h
    | ok i =>
      simp only [bind, Except.bind, hi] at h
      exact ⟨i, rfl, (Except.ok.inj h).symm⟩
  · rw [he] at h
    cases h

theorem takeGiven_waiting (h : r.takeGiven g = .ok r') : r'.waiting = r.waiting := by
  obtain ⟨i, -, rfl⟩ := takeGiven_eq_ok h
  rfl

theorem foldlM_takeGiven_waiting (h : gs.foldlM takeGiven r = .ok r') :
    r'.waiting = r.waiting := by
  induction gs generalizing r with
  | nil =>
    obtain rfl := Except.ok.inj h
    rfl
  | cons g gs ih =>
    rw [List.foldlM_cons] at h
    cases hg : r.takeGiven g with
    | error s =>
      rw [hg] at h
      cases h
    | ok r₁ =>
      rw [hg] at h
      exact (ih h).trans (takeGiven_waiting hg)

/-- A value is assigned at once, wherever it stands. -/
theorem assign_eq (r : Reading) (a : Argument) (value : String) :
    r.assign a value = r.takeGiven (.attached a value) := by
  unfold assign takeGiven
  refine congrArg (r.note a >>= ·) (funext fun r => ?_)
  cases a with
  | searchPath | config =>
    cases hempty : value.isEmpty <;> simp [Given.effect, assigned, hempty] <;> rfl
  | format =>
    cases hformat : ReportFormat.ofName? value <;> simp [Given.effect, assigned, hformat] <;> rfl
  | _ => rfl

theorem settle_of_none (hr : r.waiting = none) : r.settle = .ok r := by
  rw [settle, hr]

theorem raise_of_none (hr : r.waiting = none) (style : HelpStyle) (a : Argument) :
    r.raise style a = r.takeGiven (.flag style a) := by
  rw [raise, settle_of_none hr]
  cases a <;> rfl

/-- A value is taken, and what waits is not touched, or it is refused. -/
theorem assign_cases (r : Reading) (a : Argument) (value : String) :
    (∃ r', r.assign a value = .ok r' ∧ r'.waiting = r.waiting) ∨ IsUsage (r.assign a value) := by
  cases h : r.assign a value with
  | ok r' =>
    rw [assign_eq] at h
    exact .inl ⟨r', rfl, takeGiven_waiting h⟩
  | error s =>
    refine .inr ?_
    have hnote : r.assign a value = r.note a >>= fun r =>
        (assigned r.invocation value a).mapError .usage >>= fun i =>
          .ok { r with invocation := i } := assign_eq r a value
    rw [← h, hnote]
    rcases note_cases r a with hok | hrefused
    · rw [hok] at hnote ⊢
      show IsUsage ((assigned r.invocation value a).mapError .usage >>= _)
      cases hassigned : assigned r.invocation value a with
      | error e => exact ⟨e, rfl⟩
      | ok i =>
        rw [h] at hnote
        change _ = (assigned r.invocation value a).mapError Stop.usage >>= _ at hnote
        rw [hassigned] at hnote
        cases hnote
    · exact hrefused.bind _

/-! ## Settling -/

/-- Settling leaves nothing that waits, or it is refused. -/
theorem settle_cases (r : Reading) :
    (∃ r', r.settle = .ok r' ∧ r'.waiting = none) ∨ r.waiting ≠ none ∧ IsUsage r.settle := by
  unfold settle
  cases hwaiting : r.waiting with
  | none => exact .inl ⟨r, rfl, hwaiting⟩
  | some waiting =>
    obtain ⟨a, value⟩ := waiting
    cases value with
    | none => exact .inr ⟨nofun, _, rfl⟩
    | some value =>
      exact (assign_cases { r with waiting := none } a value).imp id fun h => ⟨nofun, h⟩

/-- What settles first is the same once everything is settled. -/
theorem settle_bind {α : Type} {f : Reading → Except Stop α} {k : Reading → Except Stop α}
    (hf : ∀ r, f r = r.settle >>= k) (r : Reading) : f r = r.settle >>= f := by
  rcases settle_cases r with ⟨r', hr, hwaiting⟩ | ⟨-, e, he⟩
  · rw [hf, hr]
    show k r' = f r'
    rw [hf, settle_of_none hwaiting]
    rfl
  · rw [hf, he]
    rfl

theorem raise_eq (r : Reading) (style : HelpStyle) (a : Argument) :
    r.raise style a = r.settle >>= fun r => r.raise style a :=
  settle_bind (fun _ => rfl) r

theorem finish_eq (r : Reading) (rest : List String) :
    r.finish rest = r.settle >>= fun r => r.finish rest :=
  settle_bind (fun _ => rfl) r

theorem finish_of_none (hr : r.waiting = none) (rest : List String) :
    r.finish rest =
      match conflict? r.given with
      | some e => .error (.usage e)
      | none => .ok { r.invocation with patterns := r.invocation.patterns ++ rest } := by
  unfold finish
  rw [settle_of_none hr]
  show (match conflict? r.given with | some e => _ | none => _) = _
  cases conflict? r.given <;> rfl

theorem takePlain_eq (h : ∀ a, r.waiting ≠ some (a, none)) (word : String) :
    r.takePlain word = r.settle >>= fun r => r.takeGiven (.plain word) := by
  have hlate : r.takePlain word = r.settle >>= fun r =>
      .ok { r with invocation := { r.invocation with
        patterns := r.invocation.patterns ++ [word] } } := by
    unfold takePlain
    split
    · next a hwaiting => exact absurd hwaiting (h a)
    · rfl
  rw [hlate]
  rfl

theorem settle_congr {α : Type} {f g : Reading → Except Stop α}
    (h : ∀ r', r'.waiting = none → f r' = g r') : r.settle >>= f = r.settle >>= g := by
  rcases settle_cases r with ⟨r', hr, hwaiting⟩ | ⟨-, e, he⟩
  · rw [hr]
    exact h r' hwaiting
  · rw [he]
    rfl

/-- A fault of the next word may be reported before one in what waits. -/
theorem endAlike_fault {α : Type} (e : UsageError) (r : Reading) :
    EndAlike (r.waiting ≠ none) (.error (.usage e) : Except Stop α)
      (r.settle >>= fun _ => .error (.usage e)) := by
  rcases settle_cases r with ⟨r', hr, -⟩ | ⟨hwaits, hsettle⟩
  · rw [hr]
    exact .inl rfl
  · exact .inr ⟨hwaits, ⟨e, rfl⟩, hsettle.bind _⟩

theorem waiting_of_settle (h : r.settle = .ok r') : r'.waiting = none := by
  rcases settle_cases r with ⟨r₁, hr₁, hwaiting⟩ | ⟨-, e, he⟩
  · cases hr₁.symm.trans h
    exact hwaiting
  · cases he.symm.trans h

theorem waiting_of_settled {f : Reading → Except Stop Reading}
    (hf : ∀ r₁, f r₁ = .ok r' → r'.waiting = r₁.waiting) (h : r.settle >>= f = .ok r') :
    r'.waiting = none := by
  cases hr₁ : r.settle with
  | error s =>
    rw [hr₁] at h
    cases h
  | ok r₁ =>
    rw [hr₁] at h
    exact (hf r₁ h).trans (waiting_of_settle hr₁)

theorem endAlike_of_settled {α : Type} {Q : Prop} {x : Except Stop α}
    {f : Reading → Except Stop α} (hr : r.waiting = none)
    (h : EndAlike (r.waiting ≠ none ∨ Q) x (r.settle >>= f)) : EndAlike Q x (f r) := by
  rw [settle_of_none hr] at h
  exact h.mono fun hor => hor.resolve_left (absurd hr)

end Reading

end PackageUsage.CommandLine
