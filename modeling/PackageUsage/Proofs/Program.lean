import PackageUsage.Program
import PackageUsage.Proofs.Scan.Plan
import PackageUsage.Proofs.Scan.Soundness

/-!
# What a run of the program leaves behind

A command line that is understood ends in one of four ways: there is no plan, the target is no
pattern, nothing can be discovered, or the scan is reported. The exit code tells which, and only the
last has an output. Files that fail change neither: each is one warning, and their number is said at
the end.
-/

namespace PackageUsage

/-! ## Warnings about files -/

/-- The warning about a failure. -/
def FileFailure.event (f : FileFailure) : LogEvent :=
  { level := .warn, message := "skipping file"
    fields := [("path", f.path), ("error", f.fault.message)] }

namespace ScanResult

variable {tree : FileTree} {matcher : Matcher}

end ScanResult

namespace Invocation

end Invocation

namespace Program

section Ends
variable {tree : FileTree} {i : Invocation}

/-- How a command line that was understood may end. -/
inductive Ends (tree : FileTree) (i : Invocation) : Outcome → ScanResult → Prop
  | noPlan {e : PlanError} : i.plan tree = .error e →
      Ends tree i { exit := 1, remarks := linesOf ("Error: " ++ e.message) } {}
  | badTarget {plan : ScanPlan} {e : PatternError} : i.plan tree = .ok plan →
      Matcher.ofTarget plan.target = .error e →
      Ends tree i { exit := 1, remarks := patternRemarks e } {}
  | noFiles {plan : ScanPlan} {matcher : Matcher} {e : DiscoveryError} : i.plan tree = .ok plan →
      Matcher.ofTarget plan.target = .ok matcher →
      discover tree plan.root plan.toDiscoveryOptions = .error e →
      Ends tree i { exit := 2, events := [Scanner.abortEvent { plan, matcher } e] } {}
  | scanned {plan : ScanPlan} {matcher : Matcher} {files : List SourceFile}
      {found : List LogEvent} : i.plan tree = .ok plan →
      Matcher.ofTarget plan.target = .ok matcher →
      discover tree plan.root plan.toDiscoveryOptions = .ok (files, found) →
      Ends tree i
        { exit := 0
          output := outputOf (report i.reportFormat
            (ScanResult.ofFiles tree matcher files).1.records)
          events := found ++ (ScanResult.ofFiles tree matcher files).2
          remarks := skippedRemarks (ScanResult.ofFiles tree matcher files).1.failures.length }
        (ScanResult.ofFiles tree matcher files).1

theorem options_nil (s : Scanner) : s.options [] = s.plan.toDiscoveryOptions := rfl

theorem ofPlan_eq (plan : ScanPlan) :
    Scanner.ofPlan plan = (Matcher.ofTarget plan.target).map fun matcher => { plan, matcher } := by
  unfold Scanner.ofPlan
  cases Matcher.ofTarget plan.target <;> rfl

section Plan
variable {plan : ScanPlan} (hplan : i.plan tree = .ok plan)
include hplan

end Plan

variable {o : Outcome} {r : ScanResult}

theorem Ends.failures_distinct (h : Ends tree i o r) : (r.failures.map FileFailure.path).Nodup := by
  cases h with
  | noPlan => exact List.nodup_nil
  | badTarget => exact List.nodup_nil
  | noFiles => exact List.nodup_nil
  | scanned _ _ hdiscover =>
    exact (ScanResult.sound_ofFiles (pairwise_discover hdiscover)).failures_distinct

end Ends

namespace OutcomeSample

/-- A sound file and one that breaks off. -/
def tree : FileTree :=
  { entries := [("a.ts", .file "import a from 'pkg';".toUTF8),
      ("b.ts", .file "import \x7b".toUTF8)] }

def files : List SourceFile :=
  [{ path := "./a.ts", relative := "a.ts", language := .typescript },
    { path := "./b.ts", relative := "b.ts", language := .typescript }]

def plan : ScanPlan :=
  { root := ".", target := { text := "pkg" } }

end OutcomeSample

end Program

end PackageUsage
