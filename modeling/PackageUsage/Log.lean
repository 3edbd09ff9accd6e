/-!
# Log lines

What a run reports beside its result: events with a level, a message and named values.
-/

namespace PackageUsage

inductive LogLevel
  | error
  | warn
  | info
  | debug
deriving DecidableEq, Repr

def LogLevel.name : LogLevel → String
  | .error => "ERROR"
  | .warn => "WARN"
  | .info => "INFO"
  | .debug => "DEBUG"

/-- The least verbosity at which events of a level are shown. -/
def LogLevel.threshold : LogLevel → Nat
  | .error | .warn => 0
  | .info => 1
  | .debug => 2

structure LogEvent where
  level : LogLevel
  message : String
  fields : List (String × String) := []
deriving DecidableEq, Repr

def LogEvent.line (e : LogEvent) : String :=
  " ".intercalate ([e.level.name, e.message] ++ e.fields.map fun (k, v) => k ++ "=" ++ v)

/-- Whether an event is shown at a verbosity. The environment sets no filter, which would go before
the verbosity. -/
def LogEvent.shownAt (verbosity : Nat) (e : LogEvent) : Bool :=
  e.level.threshold ≤ verbosity

end PackageUsage
