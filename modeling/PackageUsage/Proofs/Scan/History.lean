import PackageUsage.Proofs.Scan.Session

/-!
# Scans have no history

A scan depends on the plan, the target, the files it finds and the patterns it is called with, and
on nothing that earlier calls have left behind. No call changes the plan or the target, so after
every run a scan does what it would do as the first call of a new scanner.
-/

namespace PackageUsage

namespace Scanner

/-- Two scanners look in the same places for the same target; their results may differ. -/
structure SamePlan (a b : Scanner) : Prop where
  plan : a.plan = b.plan
  matcher : a.matcher = b.matcher

variable {a b : Scanner}

/-- The results of earlier scans have no part in a scan. -/
theorem SamePlan.tryScan (h : SamePlan a b) (files : FileTree) (patterns : List String) :
    a.tryScan files patterns = b.tryScan files patterns := by
  obtain ⟨plan, matcher, result⟩ := a
  obtain ⟨plan', matcher', result'⟩ := b
  obtain rfl : plan = plan' := h.plan
  obtain rfl : matcher = matcher' := h.matcher
  rfl

theorem SamePlan.scan (h : SamePlan a b) (files : FileTree) (patterns : List String) :
    a.scan files patterns = b.scan files patterns := by
  have hevent (e : DiscoveryError) : a.abortEvent e = b.abortEvent e := by
    rw [abortEvent, abortEvent, h.plan]
  simp only [Scanner.scan, h.tryScan files patterns, hevent]

/-- A call that looks for files, and so gives new results. -/
inductive Call.IsScan : Call → Prop
  | scan (patterns : List String) : IsScan (.scan patterns)
  | tryScan (patterns : List String) : IsScan (.tryScan patterns)

/-- The files after a call. -/
def Call.filesAfter (files : FileTree) : Call → FileTree
  | .change files' => files'
  | .scan _ | .tryScan _ | .render _ => files

namespace Session

/-- A run has no other effect on the files than its changes. -/
theorem files_run (s : Session) (calls : List Call) :
    (s.run calls).files = calls.foldl Call.filesAfter s.files := by
  induction calls generalizing s with
  | nil => rfl
  | cons call calls ih =>
    rw [run, ih, List.foldl_cons]
    cases call <;> rfl

/-- Sessions with the same plan and the same files do the same in a scan: they give the same reply
and are left in the same state. -/
theorem perform_eq_of_samePlan {s t : Session} (hplan : SamePlan s.scanner t.scanner)
    (hfiles : s.files = t.files) {call : Call} (hcall : call.IsScan) :
    s.perform call = t.perform call := by
  cases hcall with
  | scan patterns => simp only [perform, hfiles, hplan.scan]
  | tryScan patterns => simp only [perform, hfiles, hplan.tryScan]

/-- Two sessions that are sound for one plan and one target have both. -/
theorem Sound.samePlan {plan : ScanPlan} {matcher : Matcher} {s t : Session}
    (hs : s.Sound plan matcher) (ht : t.Sound plan matcher) : SamePlan s.scanner t.scanner :=
  ⟨hs.plan_eq.trans ht.plan_eq.symm, hs.matcher_eq.trans ht.matcher_eq.symm⟩

end Session

end Scanner

open Scanner

/-- After any run, a scan gives the reply and leaves the state that the scanner made of the plan at
the start would give and leave if this scan were its only call. So a scan that is repeated after any
calls at all, with the same files as before, is answered and leaves everything as before. -/
theorem scan_forgets_history {plan : ScanPlan} {scanner : Scanner}
    (h : Scanner.ofPlan plan = .ok scanner) (files : FileTree) (calls : List Call) {call : Call}
    (hcall : call.IsScan) :
    let s := ({ scanner, files } : Session).run calls
    s.perform call = ({ scanner, files := s.files } : Session).perform call ∧
    ∀ between, (s.run between).files = s.files →
      (s.run between).perform call = s.perform call := by
  intro s
  have hs : s.Sound plan scanner.matcher := (Session.sound_of_ofPlan h files).run calls
  constructor
  · have hfresh : ({ scanner, files := s.files } : Session).Sound plan scanner.matcher :=
      Session.sound_of_ofPlan h s.files
    exact Session.perform_eq_of_samePlan (hs.samePlan hfresh) rfl hcall
  · intro between hfiles
    exact Session.perform_eq_of_samePlan ((hs.run between).samePlan hs) hfiles hcall

/-- A scan with patterns of its own that finds something, one that cannot find anything, and a
change of the files that is taken back leave the next scan as it is. -/
theorem scan_forgets_history_overridden :
    let plan : ScanPlan := { root := "src", target := { text := "pkg" } }
    let scanner : Scanner := { plan, matcher := .start "pkg".toList }
    let sources : FileTree := { entries := [("src", .directory
      [("a.ts", .file "import a from 'pkg';".toUTF8), ("b.js", .file "import \x7b".toUTF8)])] }
    let between : List Call :=
      [.scan ["*.js"], .change {}, .tryScan [], .change sources, .render .detailed, .scan ["["]]
    let s := ({ scanner, files := {} } : Session).run [.change sources, .scan []]
    Scanner.ofPlan plan = .ok scanner ∧ (s.run between).files = s.files ∧
      (s.run between).perform (.scan []) = s.perform (.scan []) := by
  intro plan scanner sources between s
  have h : Scanner.ofPlan plan = .ok scanner := rfl
  have hfiles : (s.run between).files = s.files := by
    rw [Session.files_run, Session.files_run]
    rfl
  obtain ⟨-, hrepeat⟩ := scan_forgets_history h {} [.change sources, .scan []] (.scan [])
  exact ⟨h, hfiles, hrepeat between hfiles⟩

end PackageUsage
