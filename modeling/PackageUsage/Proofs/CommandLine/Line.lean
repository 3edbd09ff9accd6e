import PackageUsage.Proofs.CommandLine.Settling

/-!
# A command line, argument by argument

The reading settles an argument with its value in the next word late. To settle every argument at
once leads to the same invocation or the same help; only of two faults the other one may be
reported.
-/

namespace PackageUsage.CommandLine

namespace Reading

variable {r r' : Reading} {a : Argument} {value word : String} {style : HelpStyle} {g : Given}
  {gs : List Given}

/-! ## One word -/

theorem takeLetters_of_none (hr : r.waiting = none) (cs : List Char) :
    r.takeLetters cs = (cs.map Given.ofLetter).foldlM takeGiven r := by
  induction cs generalizing r with
  | nil => rfl
  | cons c cs ih =>
    rw [takeLetters, List.map_cons, List.foldlM_cons, Given.ofLetter]
    cases Argument.ofLetter? c with
    | none => rfl
    | some a =>
      show (r.raise .brief a >>= fun r => r.takeLetters cs) = _
      rw [raise_of_none hr]
      cases htake : r.takeGiven (.flag .brief a) with
      | error s => rfl
      | ok r' => exact ih ((takeGiven_waiting htake).trans hr)

theorem takeLetters_endAlike (r : Reading) (c : Char) (cs : List Char) :
    EndAlike (r.waiting ≠ none) (r.takeLetters (c :: cs))
      (r.settle >>= fun r => ((c :: cs).map Given.ofLetter).foldlM takeGiven r) := by
  rw [settle_congr fun r' hr' => (takeLetters_of_none hr' (c :: cs)).symm]
  simp only [takeLetters]
  cases Argument.ofLetter? c with
  | none => exact endAlike_fault _ r
  | some a =>
    refine .inl ?_
    show (r.raise .brief a >>= fun r => r.takeLetters cs) = _
    rw [raise_eq]
    cases r.settle <;> rfl

/-- A name that gives an argument of its own is settled after what waits. -/
theorem takeNamed_endAlike {name : String} {value : Option String}
    (hword : Word.ofName name value = .whole gs) :
    EndAlike (r.waiting ≠ none) (r.takeNamed name value)
      (r.settle >>= fun r => gs.foldlM takeGiven r) := by
  unfold takeNamed
  cases hname : Argument.ofName? name with
  | none =>
    simp only [Word.ofName, hname, Word.whole.injEq] at hword
    subst hword
    exact endAlike_fault _ r
  | some a =>
    cases htakes : a.takesValue with
    | true =>
      cases value with
      | none => simp [Word.ofName, hname, htakes] at hword
      | some value =>
        simp only [Word.ofName, hname, htakes, Word.whole.injEq] at hword
        subst hword
        simp only [htakes]
        refine .inl (settle_congr fun r' _ => ?_)
        rw [assign_eq]
        exact (bind_pure _).symm
    | false =>
      cases value with
      | none =>
        simp only [Word.ofName, hname, htakes, Word.whole.injEq] at hword
        subst hword
        simp only [htakes]
        refine .inl ((raise_eq r .full a).trans (settle_congr fun r' hr' => ?_))
        rw [raise_of_none hr']
        exact (bind_pure _).symm
      | some value =>
        simp only [Word.ofName, hname, htakes, Word.whole.injEq] at hword
        subst hword
        simp only [htakes]
        exact endAlike_fault _ r

theorem takeNamed_awaiting {name : String} {value : Option String}
    (hword : Word.ofName name value = .awaiting a) :
    r.takeNamed name value = r.settle >>= fun r => .ok { r with waiting := some (a, none) } := by
  unfold takeNamed
  cases hname : Argument.ofName? name with
  | none => simp [Word.ofName, hname] at hword
  | some b =>
    cases htakes : b.takesValue <;> cases value <;>
      simp only [Word.ofName, hname, htakes, Word.awaiting.injEq, reduceCtorEq] at hword
    subst hword
    simp only [htakes]
    rfl

/-- A word is a name behind two hyphens, letters behind one, or no argument. -/
theorem take_cases (r : Reading) (word : String) :
    (∃ name value, Word.of word = .ofName name value ∧ r.take word = r.takeNamed name value) ∨
    (∃ c cs, Word.of word = .whole ((c :: cs).map .ofLetter) ∧
      r.take word = r.takeLetters (c :: cs)) ∨
    Word.of word = .plain ∧ r.take word = r.takePlain word := by
  unfold Word.of take
  cases word.toList with
  | nil => exact .inr (.inr ⟨rfl, rfl⟩)
  | cons c cs =>
    by_cases hc : c = '-'
    · subst hc
      cases cs with
      | nil => exact .inr (.inr ⟨rfl, rfl⟩)
      | cons d ds =>
        by_cases hd : d = '-'
        · subst hd
          exact .inl ⟨_, _, rfl, rfl⟩
        · exact .inr (.inl ⟨d, ds, by simp, by simp⟩)
    · exact .inr (.inr ⟨by simp [hc], by simp [hc]⟩)

/-- A word that is whole on its own is what it gives. -/
theorem take_whole (hword : Word.of word = .whole gs) :
    EndAlike (r.waiting ≠ none) (r.take word) (r.settle >>= fun r => gs.foldlM takeGiven r) := by
  rcases take_cases r word with ⟨name, value, hof, htake⟩ | ⟨c, cs, hof, htake⟩ | ⟨hof, htake⟩
  · rw [htake]
    exact takeNamed_endAlike (hof.symm.trans hword)
  · cases hof.symm.trans hword
    rw [htake]
    exact takeLetters_endAlike r c cs
  · cases hof.symm.trans hword

theorem take_awaiting (hword : Word.of word = .awaiting a) :
    r.take word = r.settle >>= fun r => .ok { r with waiting := some (a, none) } := by
  rcases take_cases r word with ⟨name, value, hof, htake⟩ | ⟨c, cs, hof, htake⟩ | ⟨hof, htake⟩
  · rw [htake]
    exact takeNamed_awaiting (hof.symm.trans hword)
  · cases hof.symm.trans hword
  · cases hof.symm.trans hword

theorem ofName_ne_plain (name : String) (value : Option String) :
    Word.ofName name value ≠ .plain := by
  cases hname : Argument.ofName? name with
  | none => simp [Word.ofName, hname]
  | some a => cases htakes : a.takesValue <;> cases value <;> simp [Word.ofName, hname, htakes]

theorem take_plain (hword : Word.of word = .plain) : r.take word = r.takePlain word := by
  rcases take_cases r word with ⟨name, value, hof, -⟩ | ⟨c, cs, hof, -⟩ | ⟨-, htake⟩
  · exact absurd (hof.symm.trans hword) (ofName_ne_plain name value)
  · cases hof.symm.trans hword
  · exact htake

/-! ## A whole line -/

/-- An argument that lacks its value is never forgotten. -/
theorem isUsage_takeAll_of_lacking (hr : r.waiting = some (a, none))
    (hword : Word.of word ≠ .plain) (rest : List String) : IsUsage (r.takeAll (word :: rest)) := by
  have hsettle : IsUsage r.settle := ⟨.valueMissing a, by rw [settle, hr]⟩
  rw [takeAll]
  split
  · rw [finish_eq]
    exact hsettle.bind _
  · refine IsUsage.bind ?_ _
    cases hof : Word.of word with
    | whole gs => exact (take_whole hof).isUsage (hsettle.bind _)
    | awaiting b =>
      rw [take_awaiting hof]
      exact hsettle.bind _
    | plain => exact absurd hof hword

theorem takeGivens_append (r : Reading) (gs gs' : List Given) (rest : List String) :
    r.takeGivens (gs ++ gs') rest =
      gs.foldlM takeGiven r >>= fun r => r.takeGivens gs' rest := by
  rw [takeGivens, List.foldlM_append, bind_assoc]
  rfl

theorem takeGivens_cons (r : Reading) (g : Given) (gs : List Given) (rest : List String) :
    r.takeGivens (g :: gs) rest = r.takeGiven g >>= fun r => r.takeGivens gs rest := by
  rw [takeGivens, List.foldlM_cons, bind_assoc]
  rfl

/-- To settle late is to settle every argument at once, but for which of two faults is reported. -/
theorem takeAll_endAlike (words : List String) (hr : ∀ a, r.waiting ≠ some (a, none)) :
    EndAlike (r.waiting ≠ none ∨ ∃ g ∈ givens words, g.isApart) (r.takeAll words)
      (r.settle >>= fun r => r.takeGivens (givens words) (behind words)) := by
  induction words using givens.induct generalizing r with
  | case1 => exact .inl (finish_eq r [])
  | case2 word rest hhyphens =>
    obtain rfl : word = "--" := by simpa using hhyphens
    exact .inl (finish_eq r rest)
  | case3 word rest hhyphens gs hword ih =>
    rw [takeAll, if_neg hhyphens, givens_of_whole hhyphens hword, behind_cons hhyphens]
    simp only [takeGivens_append, ← bind_assoc]
    refine ((take_whole hword).mono .inl).bind fun r' hr' => ?_
    -- the word has settled what waited, so nothing of it is left to the rest of the line
    have hsettled := waiting_of_settled (fun _ => foldlM_takeGiven_waiting) hr'
    exact (endAlike_of_settled hsettled (ih (by simp [hsettled]))).mono
      fun ⟨g, hg, hapart⟩ => .inr ⟨g, List.mem_append_right gs hg, hapart⟩
  | case4 word rest hhyphens hword ih =>
    rw [takeAll, if_neg hhyphens, givens_of_plain hword, behind_cons hhyphens, take_plain hword,
      takePlain_eq hr]
    simp only [takeGivens_cons, ← bind_assoc]
    refine EndAlike.bind (.inl rfl) fun r' hr' => ?_
    have hsettled := waiting_of_settled (fun _ => takeGiven_waiting) hr'
    exact (endAlike_of_settled hsettled (ih (by simp [hsettled]))).mono
      fun ⟨g, hg, hapart⟩ => .inr ⟨g, List.mem_cons_of_mem _ hg, hapart⟩
  | case5 word hhyphens a hword =>
    rw [takeAll, if_neg hhyphens, givens_of_last hhyphens hword, take_awaiting hword, bind_assoc]
    exact .inl rfl
  | case6 word hhyphens a hword next rest hnext ih =>
    have hnext' := ne_hyphens_of_plain hnext
    rw [takeAll, if_neg hhyphens, givens_of_apart hhyphens hword hnext, take_awaiting hword,
      bind_assoc, behind_cons hhyphens, behind_cons hnext']
    refine EndAlike.bind (.inl rfl) fun r' hr' => ?_
    -- the value waits on, and is settled with the rest of the line
    have hvalue : ({ r' with waiting := some (a, none) } : Reading).takeAll (next :: rest) =
        ({ r' with waiting := some (a, some next) } : Reading).takeAll rest := by
      rw [takeAll, if_neg hnext', take_plain hnext]
      rfl
    have hsettle : ({ r' with waiting := some (a, some next) } : Reading).settle =
        r'.takeGiven (.apart a next) := by
      have hsettled : ({ r' with waiting := none } : Reading) = r' := by
        rw [← waiting_of_settle hr']
      rw [settle]
      exact (congrArg (·.assign a next) hsettled).trans (assign_eq r' a next)
    show EndAlike _ (takeAll _ (next :: rest)) _
    rw [hvalue, takeGivens_cons, ← hsettle]
    exact (ih (by simp)).mono fun _ => .inr ⟨.apart a next, List.mem_cons_self, rfl⟩
  | case7 word hhyphens a hword next rest hnext ih =>
    rw [takeAll, if_neg hhyphens, givens_of_lacking hhyphens hword hnext, take_awaiting hword,
      bind_assoc]
    refine EndAlike.bind (.inl rfl) fun r' _ => .inr ⟨?_, ?_, ?_⟩
    · exact .inr ⟨.lacking a, List.mem_cons_self, rfl⟩
    · exact isUsage_takeAll_of_lacking rfl hnext rest
    · exact ⟨.valueMissing a, rfl⟩

end Reading

/-- What the words of a command line ask for is what the arguments they give ask for, one after
the other; only of two faults the later one may be reported, where a value stands apart. -/
theorem read_endAlike (words : List String) :
    EndAlike (∃ g ∈ givens words, g.isApart) (read words)
      (Reading.takeGivens {} (givens words) (behind words)) :=
  Reading.endAlike_of_settled rfl (Reading.takeAll_endAlike words (by simp))

end PackageUsage.CommandLine
