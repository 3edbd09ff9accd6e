import PackageUsage.Program
import PackageUsage.Proofs.CommandLine.Verbosity

/-!
# Events and what they are about

How often a command line asks for more events decides which events are shown and nothing else:
neither the exit code nor the output, nor whether the line is understood, nor what is said beside
the events if it is. Of two faults in a line that is refused another one may come first.
-/

namespace PackageUsage.Program

open CommandLine

/-- A command line is carried out without a look at its verbosity. -/
theorem carryOut_verbosity (tree : FileTree) (i : Invocation) (n : Nat) :
    carryOut tree { i with verbosity := n } = carryOut tree i :=
  rfl

theorem sublist_shown {n m : Nat} (h : n ≤ m) (o : Outcome) :
    (shown n o).events.Sublist (shown m o).events := by
  have htwice : (shown n o).events = (shown m o).events.filter (·.shownAt n) := by
    show o.events.filter _ = (o.events.filter _).filter _
    rw [List.filter_filter]
    refine List.filter_congr fun e _ => ?_
    rw [Bool.eq_iff_iff]
    simp only [LogEvent.shownAt, Bool.and_eq_true, decide_eq_true_iff]
    exact ⟨fun hn => ⟨hn, Nat.le_trans hn h⟩, And.left⟩
  rw [htwice]
  exact List.filter_sublist

theorem not_isUsage_of_ok {α : Type} {x : Except Stop α} {a : α} (h : x = .ok a) :
    ¬ IsUsage x := by
  rintro ⟨e, he⟩
  cases h.symm.trans he

theorem run_of_isUsage {words : List String} (h : IsUsage (read words)) (tree : FileTree) :
    (run tree words).exit = 2 ∧ (run tree words).output = "" ∧ (run tree words).events = [] := by
  obtain ⟨e, he⟩ := h
  rw [run, he]
  exact ⟨rfl, rfl, rfl⟩

/-- Two command lines that differ only in how often they ask for more events have the same exit code
and the same output, and the one that asks more often shows the lines of the other one and more.
They say the same beside that if they are understood. If they are refused, the first line of it is
the same, unless a value stands apart from its argument: the argument that asks for more events has
that value looked at before what follows. -/
theorem run_verbosity {words words' : List String} (h : SameButVerbosity words words')
    (tree : FileTree) :
    let o := run tree words
    let o' := run tree words'
    o.exit = o'.exit ∧ o.output = o'.output ∧
    (IsUsage (read words) ↔ IsUsage (read words')) ∧
    (¬ IsUsage (read words) → o.remarks = o'.remarks) ∧
    ((¬ ∃ g ∈ givens words, g.isApart) → o.remarks.head? = o'.remarks.head?) ∧
    (askedForEvents words ≤ askedForEvents words' →
      (o.events.map LogEvent.line).Sublist (o'.events.map LogEvent.line)) := by
  intro o o'
  rcases h.read_cases with ⟨i, hi, hi'⟩ | ⟨s, hs, hs'⟩ | ⟨hapart, hrefused, hrefused'⟩
  · have ho : o = shown (min (askedForEvents words) verbosityLimit) (carryOut tree i) := by
      show run tree words = _
      rw [run, hi]
      exact congrArg (shown _) (carryOut_verbosity tree i _)
    have ho' : o' = shown (min (askedForEvents words') verbosityLimit) (carryOut tree i) := by
      show run tree words' = _
      rw [run, hi']
      exact congrArg (shown _) (carryOut_verbosity tree i _)
    have hneither : IsUsage (read words) ↔ IsUsage (read words') :=
      iff_of_false (not_isUsage_of_ok hi) (not_isUsage_of_ok hi')
    rw [ho, ho']
    refine ⟨rfl, rfl, hneither, fun _ => rfl, fun _ => rfl, fun hle => ?_⟩
    exact (sublist_shown (by omega) (carryOut tree i)).map LogEvent.line
  · have ho : o = o' := by
      show run tree words = run tree words'
      rw [run, run, hs, hs']
    rw [ho, hs, hs']
    exact ⟨rfl, rfl, .rfl, fun _ => rfl, fun _ => rfl, fun _ => .refl _⟩
  · obtain ⟨hexit, houtput, hevents⟩ := run_of_isUsage hrefused tree
    obtain ⟨hexit', houtput', hevents'⟩ := run_of_isUsage hrefused' tree
    have hsame : o.events = o'.events := hevents.trans hevents'.symm
    refine ⟨hexit.trans hexit'.symm, houtput.trans houtput'.symm,
      iff_of_true hrefused hrefused', fun hnot => absurd hrefused hnot,
      fun hnone => absurd hapart hnone, fun _ => ?_⟩
    exact hsame ▸ .refl _

/-- More events asked for in the middle of a line and twice at its end; and at the start of a line
that asks for two formats. -/
theorem run_verbosity_pattern :
    let tree : FileTree := { entries := [("a.ts", .file "import a from 'pkg';".toUTF8)] }
    let words := ["--target-pkg=pkg", "src/**"]
    let words' := ["--target-pkg=pkg", "-v", "src/**", "-vv"]
    SameButVerbosity words words' ∧ askedForEvents words = 0 ∧ askedForEvents words' = 3 ∧
      (run tree words).exit = (run tree words').exit ∧
      (run tree words).output = (run tree words').output ∧
      (run tree words).remarks = (run tree words').remarks ∧
      ((run tree words).events.map LogEvent.line).Sublist
        ((run tree words').events.map LogEvent.line) ∧
      let refused := ["--json", "--detailed"]
      let refused' := ["-v", "--json", "--detailed"]
      SameButVerbosity refused refused' ∧ IsUsage (read refused') ∧
        (run tree refused).remarks.head? = (run tree refused').remarks.head? := by
  intro tree words words'
  have hsame : SameButVerbosity words words' := by decide
  have hasked : askedForEvents words ≤ askedForEvents words' := by decide
  have hread : read words = .ok { patterns := ["src/**"], targetPackage := some "pkg" } := rfl
  obtain ⟨hexit, houtput, -, hremarks, -, hevents⟩ := run_verbosity hsame tree
  refine ⟨hsame, by decide, by decide, hexit, houtput, hremarks (not_isUsage_of_ok hread),
    hevents hasked, ?_⟩
  intro refused refused'
  have hsame' : SameButVerbosity refused refused' := by decide
  have hrefused : IsUsage (read refused) := ⟨.conflict .json [.detailed], rfl⟩
  obtain ⟨-, -, hboth, -, hfirst, -⟩ := run_verbosity hsame' tree
  exact ⟨hsame', hboth.mp hrefused, hfirst (by decide)⟩

/-- Asked for more events in between, the program looks at a value before the unknown word behind
it; and an argument loses its value to a word that comes between the two. -/
theorem run_verbosity_refused :
    (SameButVerbosity ["--format", "xml", "-x"] ["--format", "xml", "-v", "-x"] ∧
      (run {} ["--format", "xml", "-x"]).remarks = ["error: unexpected argument '-x' found"] ∧
      (run {} ["--format", "xml", "-v", "-x"]).remarks =
        ["error: invalid value 'xml' for '--format <FORMAT>'"]) ∧
    ["--search-path", "-v", "p"].filter (· != "-v") = ["--search-path", "p"] ∧
      (run {} ["--search-path", "p"]).exit = 1 ∧
      (run {} ["--search-path", "-v", "p"]).exit = 2 := by
  refine ⟨⟨by decide, by decide, by decide⟩, by decide, by decide +kernel, by decide⟩

end PackageUsage.Program
