import PackageUsage.CommandLine
import PackageUsage.Discovery
import PackageUsage.Settings.File

/-!
# Scan plans

Where a scan looks and what for. The command line goes before the settings file; excludes of both
are used.
-/

namespace PackageUsage

/-- Where a scan looks and what for. -/
structure ScanPlan extends DiscoveryOptions where
  root : String
  target : Target
deriving DecidableEq, Repr, Inhabited

inductive PlanError
  | settings (e : SettingsError)
  | targetMissing
deriving DecidableEq, Repr

def PlanError.message : PlanError → String
  | .settings e => e.message
  | .targetMissing => "--target-pkg is required (or set `target` in importscan.toml)"

namespace Invocation

/-- The plan of a command line and the settings that go with it. -/
def planWith (i : Invocation) (settings : Settings) : Except PlanError ScanPlan :=
  match (i.targetPackage <|> settings.target).filter (!·.isEmpty) with
  | none => .error .targetMissing
  | some text =>
    .ok {
      root := i.searchPath
      target := { text, mode := if i.regex then .pattern else settings.mode.getD .start }
      exclude := settings.exclude ++ i.excludePaths.filter fun p => !(Text.trim p).isEmpty
      patterns := if i.patterns.isEmpty then settings.patterns else i.patterns
      respectIgnoreFiles := !i.noIgnoreFiles && settings.respectIgnoreFiles.getD true }

def plan (i : Invocation) (tree : FileTree) : Except PlanError ScanPlan :=
  match Settings.forRoot tree i.searchPath i.config with
  | .error e => .error (.settings e)
  | .ok settings => i.planWith settings

end Invocation

end PackageUsage
