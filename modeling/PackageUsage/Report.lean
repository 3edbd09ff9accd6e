import PackageUsage.Json.Printer
import PackageUsage.Names
import PackageUsage.Record.Json

/-!
# Reports

The four spellings of a list of records.
-/

namespace PackageUsage

inductive ReportFormat where
  /-- The names, one a line. -/
  | simple
  /-- One line for each record, in the order of the files. -/
  | detailed
  /-- The records as indented JSON. -/
  | json
  /-- The records as JSON on one line. -/
  | compact
deriving DecidableEq, Repr, Inhabited

namespace ReportFormat

/-- The word that selects a format. -/
def name : ReportFormat → String
  | .simple => "simple"
  | .detailed => "detailed"
  | .json => "json"
  | .compact => "compact"

def ofName? : String → Option ReportFormat
  | "simple" => some .simple
  | "detailed" => some .detailed
  | "json" => some .json
  | "compact" => some .compact
  | _ => none

end ReportFormat

def Record.detail (r : Record) : String :=
  r.file ++ ": " ++ ", ".intercalate r.names ++ " (" ++ r.kind.keyword ++ " from " ++ r.specifier ++
    ")"

def Record.listToJson (records : List Record) : Json :=
  .arr (records.map Record.toJson)

def report (format : ReportFormat) (records : List Record) : String :=
  match format with
  | .simple => "\n".intercalate (Record.uniqueNames records)
  | .detailed => "\n".intercalate ((Record.sortedByFile records).map Record.detail)
  | .json => (Record.listToJson records).pretty
  | .compact => (Record.listToJson records).compact

end PackageUsage
