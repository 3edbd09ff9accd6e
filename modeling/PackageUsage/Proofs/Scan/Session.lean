import PackageUsage.Proofs.Scan.Soundness

/-!
# Sessions

A scanner lives through any sequence of calls, and between two calls the files may change in any
way. After every such run its results are sound, and a scan answers with the names of the records it
leaves; where nothing can be discovered it leaves nothing.
-/

namespace PackageUsage

namespace Scanner

/-- A call of a scanner, or a change of the files between two calls. -/
inductive Call
  | scan (patterns : List String)
  | tryScan (patterns : List String)
  | render (format : ReportFormat)
  | change (files : FileTree)

/-- What a call answers. -/
inductive Reply
  | names (names : List String)
  | attempt (outcome : Except DiscoveryError (List String))
  | text (text : String)
  | done

/-- A scanner together with the files it would find. -/
structure Session where
  scanner : Scanner
  files : FileTree

namespace Session

/-- Carries out one call. -/
def perform (s : Session) : Call → Reply × Session
  | .scan patterns =>
    let step := s.scanner.scan s.files patterns
    (.names step.answer, { s with scanner := step.scanner })
  | .tryScan patterns =>
    let step := s.scanner.tryScan s.files patterns
    (.attempt step.answer, { s with scanner := step.scanner })
  | .render format => (.text (s.scanner.render format), s)
  | .change files => (.done, { s with files })

/-- The session after some calls. -/
def run (s : Session) : List Call → Session
  | [] => s
  | call :: calls => (s.perform call).2.run calls

/-- The records, failures and numbers that a session shows. -/
def result (s : Session) : ScanResult :=
  s.scanner.result

/-- What a scan of this session discovers. -/
def discovery (s : Session) (patterns : List String) :
    Except DiscoveryError (List SourceFile × List LogEvent) :=
  discover s.files s.scanner.plan.root (s.scanner.options patterns)

/-! ## Single calls -/

/-- A scan leaves the plan and the target as they are, and sound results. -/
theorem sound_tryScan (s : Scanner) (files : FileTree) (patterns : List String) :
    (s.tryScan files patterns).scanner.plan = s.plan ∧
      (s.tryScan files patterns).scanner.matcher = s.matcher ∧
      (s.tryScan files patterns).scanner.result.Sound s.matcher := by
  cases h : discover files s.plan.root (s.options patterns) with
  | error e =>
    rw [(tryScan_of_error h).1]
    exact ⟨rfl, rfl, ScanResult.sound_empty s.matcher⟩
  | ok found =>
    rw [(tryScan_of_discover h).1]
    exact ⟨rfl, rfl, ScanResult.sound_ofFiles (pairwise_discover h)⟩

/-- A session is sound for a plan and a target: the scanner has both, and its results are sound. -/
structure Sound (plan : ScanPlan) (matcher : Matcher) (s : Session) : Prop where
  plan_eq : s.scanner.plan = plan
  matcher_eq : s.scanner.matcher = matcher
  result : s.result.Sound matcher

variable {plan : ScanPlan} {matcher : Matcher} {s : Session}

/-- Every call keeps a session sound. -/
theorem Sound.perform (h : s.Sound plan matcher) (call : Call) :
    (s.perform call).2.Sound plan matcher := by
  obtain ⟨rfl, rfl, hresult⟩ := h
  cases call with
  | scan patterns =>
    obtain ⟨hplan, hmatcher, hsound⟩ := sound_tryScan s.scanner s.files patterns
    rw [← scanner_scan] at hplan hmatcher hsound
    exact ⟨hplan, hmatcher, hsound⟩
  | tryScan patterns =>
    obtain ⟨hplan, hmatcher, hsound⟩ := sound_tryScan s.scanner s.files patterns
    exact ⟨hplan, hmatcher, hsound⟩
  | render format => exact ⟨rfl, rfl, hresult⟩
  | change files => exact ⟨rfl, rfl, hresult⟩

/-- Every run keeps a session sound. -/
theorem Sound.run (h : s.Sound plan matcher) (calls : List Call) :
    (s.run calls).Sound plan matcher := by
  induction calls generalizing s with
  | nil => exact h
  | cons call calls ih => exact ih (h.perform call)

/-- A scanner that was made for a plan is sound before its first scan. -/
theorem sound_of_ofPlan {scanner : Scanner} (h : Scanner.ofPlan plan = .ok scanner)
    (files : FileTree) :
    ({ scanner, files } : Session).Sound plan scanner.matcher := by
  unfold Scanner.ofPlan at h
  cases hmatcher : Matcher.ofTarget plan.target with
  | error e => simp [hmatcher, bind, Except.bind] at h
  | ok m =>
    simp only [hmatcher, bind, Except.bind, pure, Except.pure, Except.ok.injEq] at h
    subst h
    exact ⟨rfl, rfl, ScanResult.sound_empty m⟩

/-! ## Answers -/

/-- A scan that discovers files answers with the names of the records it leaves. -/
theorem perform_of_discovery {patterns : List String} {found : List SourceFile × List LogEvent}
    (h : s.discovery patterns = .ok found) :
    (s.perform (.scan patterns)).1 =
        .names (Record.uniqueNames (s.perform (.scan patterns)).2.result.records) ∧
      (s.perform (.tryScan patterns)).1 =
        .attempt (.ok (Record.uniqueNames (s.perform (.tryScan patterns)).2.result.records)) := by
  obtain ⟨hscanner, hanswer⟩ := tryScan_of_discover h
  constructor
  · simp only [Session.perform, Session.result, scanner_scan, hscanner]
    simp only [Scanner.scan, hanswer, ScanResult.names]
  · simp only [Session.perform, Session.result, hscanner, hanswer, ScanResult.names]

/-- A scan that cannot discover anything leaves nothing. -/
theorem perform_of_error {patterns : List String} {e : DiscoveryError}
    (h : s.discovery patterns = .error e) :
    (s.perform (.scan patterns)).1 = .names [] ∧
      (s.perform (.scan patterns)).2.result = {} ∧
      (s.perform (.tryScan patterns)).1 = .attempt (.error e) ∧
      (s.perform (.tryScan patterns)).2.result = {} := by
  obtain ⟨hscanner, hanswer⟩ := tryScan_of_error h
  refine ⟨?_, ?_, ?_, ?_⟩
  · simp only [Session.perform, Scanner.scan, hanswer]
  · simp only [Session.perform, Session.result, scanner_scan, hscanner]
  · simp only [Session.perform, hanswer]
  · simp only [Session.perform, Session.result, hscanner]

end Session

end Scanner

open Scanner

/-- After every run of a scanner that was made for a plan, over files that change in any way, the
results are sound for its target. A scan then answers with the names of the records it leaves, or,
where nothing can be discovered, with no names or the reason, and leaves neither records nor
failures nor any count. -/
theorem session_sound {plan : ScanPlan} {scanner : Scanner}
    (h : Scanner.ofPlan plan = .ok scanner) (files : FileTree) (calls : List Call) :
    let s := ({ scanner, files } : Session).run calls
    s.result.Sound scanner.matcher ∧ s.scanner.matcher = scanner.matcher ∧
    ∀ patterns,
      (∀ found, s.discovery patterns = .ok found →
        (s.perform (.scan patterns)).1 =
          .names (Record.uniqueNames (s.perform (.scan patterns)).2.result.records) ∧
        (s.perform (.tryScan patterns)).1 =
          .attempt (.ok (Record.uniqueNames (s.perform (.tryScan patterns)).2.result.records))) ∧
      (∀ e, s.discovery patterns = .error e →
        (s.perform (.scan patterns)).1 = .names [] ∧
        (s.perform (.tryScan patterns)).1 = .attempt (.error e) ∧
        ∀ r ∈ [(s.perform (.scan patterns)).2.result, (s.perform (.tryScan patterns)).2.result],
          r.records = [] ∧ r.failures = [] ∧ r.stats.filesDiscovered = 0 ∧
          r.stats.filesScanned = 0 ∧ r.stats.filesFailed = 0 ∧ r.stats.records = 0) := by
  intro s
  have hsound : s.Sound plan scanner.matcher := (Session.sound_of_ofPlan h files).run calls
  refine ⟨hsound.result, hsound.matcher_eq, fun patterns => ⟨?_, ?_⟩⟩
  · intro found hfound
    exact Session.perform_of_discovery hfound
  · intro e he
    obtain ⟨hnames, hscan, hattempt, htry⟩ := Session.perform_of_error he
    refine ⟨hnames, hattempt, ?_⟩
    intro r hr
    have hempty : r = {} := by
      rcases List.mem_pair.mp hr with rfl | rfl
      · exact hscan
      · exact htry
    rw [hempty]
    exact ⟨rfl, rfl, rfl, rfl, rfl, rfl⟩

namespace SessionSample

def plan : ScanPlan :=
  { root := "src", target := { text := "pkg" } }

def scanner : Scanner :=
  { plan, matcher := .start "pkg".toList }

def fileA : SourceFile :=
  { path := "src/a.ts", relative := "a.ts", language := .typescript }

def fileB : SourceFile :=
  { path := "src/b.ts", relative := "b.ts", language := .typescript }

/-- A sound file, and one that breaks off. -/
def files : FileTree :=
  { entries := [("src", .directory
      [("a.ts", .file "import a from 'pkg';".toUTF8), ("b.ts", .file "import \x7b".toUTF8)])] }

/-- A scan of nothing, then one of the files. -/
def calls : List Call :=
  [.scan [], .change files, .tryScan []]

/-- The session after the calls. -/
def session : Session :=
  ({ scanner, files := {} } : Session).run calls

theorem ofPlan_plan : Scanner.ofPlan plan = .ok scanner :=
  rfl

theorem result_session :
    session.result.records =
        [{ file := "a.ts", kind := .importing, specifier := "pkg", names := ["a"], line := 1 }] ∧
      session.result.failures.map FileFailure.path = ["b.ts"] := by
  let before : Session := ({ scanner, files := {} } : Session).run [.scan [], .change files]
  have hbefore : before.Sound plan scanner.matcher :=
    (Session.sound_of_ofPlan ofPlan_plan {}).run [.scan [], .change files]
  have hdiscover : ∃ events, discover files plan.root (scanner.options []) =
      .ok ([fileA, fileB], events) :=
    discover_of_sifted (by decide +kernel) (by decide +kernel)
  obtain ⟨events, hdiscover⟩ := hdiscover
  have hfound : before.discovery [] = .ok ([fileA, fileB], events) := by
    rw [Session.discovery, Scanner.options, hbefore.plan_eq]
    exact hdiscover
  have hresult : session.result =
      (ScanResult.ofFiles files scanner.matcher [fileA, fileB]).1 := by
    rw [← hbefore.matcher_eq]
    exact congrArg Scanner.result (tryScan_of_discover hfound).1
  rw [hresult]
  decide +kernel

end SessionSample

open SessionSample in
theorem session_sound_rescan :
    Scanner.ofPlan plan = .ok scanner ∧ session.result.Sound scanner.matcher ∧
      session.result.records =
        [{ file := "a.ts", kind := .importing, specifier := "pkg", names := ["a"], line := 1 }] ∧
      session.result.failures.map FileFailure.path = ["b.ts"] ∧
      (session.run [.render .json, .scan ["["]]).result.Sound scanner.matcher := by
  obtain ⟨hrecords, hfailures⟩ := result_session
  let more : List Call := calls ++ [.render .json, .scan ["["]]
  have hmore : (session.run [.render .json, .scan ["["]]).result.Sound scanner.matcher :=
    (session_sound ofPlan_plan {} more).1
  exact ⟨ofPlan_plan, (session_sound ofPlan_plan {} calls).1, hrecords, hfailures, hmore⟩

end PackageUsage
