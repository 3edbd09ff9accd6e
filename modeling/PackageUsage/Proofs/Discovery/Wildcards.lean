import PackageUsage.Proofs.Discovery.Patterns
import PackageUsage.Proofs.Glob.Segments

/-!
# Wildcards in include patterns

An include pattern of characters and single wildcards stands as it is given, so it selects the paths
that it matches segment by segment; with a double star and a separator before it, it selects the
paths that end with such segments. No wildcard crosses the boundary of a directory, and no double
star splits the name of a file.
-/

namespace PackageUsage

namespace Discovery

variable {pattern : String} {glob : Glob}

theorem normalize_eq_self (htrimmed : Text.IsTrimmed pattern.toList)
    (hcurrent : ¬ ['.', '/'] <+: pattern.toList) : normalize pattern = pattern := by
  have hdrop : dropCurrentSteps pattern.toList = pattern.toList := by
    unfold dropCurrentSteps
    split
    · next rest heq => exact absurd ⟨rest, heq.symm⟩ hcurrent
    · rfl
  rw [normalize, htrimmed.trimList_eq, hdrop, String.ofList_toList]

theorem includeGlobs_singleton (h : Glob.ofText false (normalize pattern) = .ok glob) :
    includeGlobs [pattern] = .ok [glob] := by
  unfold includeGlobs
  rw [if_neg (by simp), List.mapM_cons, h]
  rfl

/-- A double star and a separator before a pattern leave no blanks around it. -/
theorem isTrimmed_below (hne : pattern ≠ "") (htrimmed : Text.IsTrimmed pattern.toList) :
    Text.IsTrimmed ("**/" ++ pattern).toList where
  head c hc := by
    rw [String.toList_append] at hc
    cases hc
    rfl
  last c hc := by
    have hlast := List.getLast?_eq_some_getLast (mt String.toList_eq_nil_iff.mp hne)
    rw [String.toList_append, List.getLast?_append, hlast, Option.some_or] at hc
    exact htrimmed.last c (hlast.trans hc)

end Discovery

open Discovery

/-- A pattern of segments accepts the paths of as many names, each of which its segment accepts as a
pattern of its own; below a double star it accepts the paths of which it accepts the last names. -/
theorem include_globs_by_segments {segments : List String} (hne : segments ≠ [])
    (hsegments : ∀ segment ∈ segments, Glob.IsSegmentPattern segment)
    (htrimmed : Text.IsTrimmed ("/".intercalate segments).toList)
    (hcurrent : ¬ ['.', '/'] <+: ("/".intercalate segments).toList) :
    (∃ glob below, includeGlobs ["/".intercalate segments] = .ok [glob] ∧
      includeGlobs ["**/" ++ "/".intercalate segments] = .ok [below] ∧
      ∀ names, names ≠ [] → (∀ name ∈ names, Glob.IsSegment name) →
        (glob.accepts ("/".intercalate names) = true ↔
          List.Forall₂ (fun segment name => ∃ single, Glob.ofText false segment = .ok single ∧
            single.accepts name = true) segments names) ∧
        (below.accepts ("/".intercalate names) = true ↔
          ∃ before after, names = before ++ after ∧ after ≠ [] ∧
            glob.accepts ("/".intercalate after) = true)) ∧
    ∀ segment ∈ segments, Text.IsTrimmed segment.toList →
      ∃ single, Glob.ofText false segment = .ok single ∧
        includeGlobs [segment] = .ok [single] := by
  have hreads := Glob.readsPlainly_intercalate hsegments
  have hempty := Glob.intercalate_ne_empty hsegments hne
  constructor
  · have hglob : includeGlobs ["/".intercalate segments] =
        .ok [⟨Glob.tokensOf ("/".intercalate segments)⟩] := by
      apply includeGlobs_singleton
      rw [normalize_eq_self htrimmed hcurrent]
      exact Glob.ofText_of_readsPlainly hreads
    have hbelow : includeGlobs ["**/" ++ "/".intercalate segments] =
        .ok [⟨.leadingSegments :: Glob.tokensOf ("/".intercalate segments)⟩] := by
      apply includeGlobs_singleton
      rw [normalize_eq_self (isTrimmed_below hempty htrimmed)]
      · exact Glob.ofText_below hreads
      · rintro ⟨rest, heq⟩
        rw [String.toList_append] at heq
        cases heq
    refine ⟨_, _, hglob, hbelow, ?_⟩
    intro names hnames hall
    exact ⟨Glob.accepts_intercalate_iff hsegments hall hne hnames,
      Glob.accepts_below_iff hall hnames hempty⟩
  · intro segment hmem hsegment
    obtain ⟨-, hsingle, hplain⟩ := hsegments segment hmem
    refine ⟨_, Glob.ofText_of_readsPlainly hplain, includeGlobs_singleton ?_⟩
    rw [normalize_eq_self hsegment]
    · exact Glob.ofText_of_readsPlainly hplain
    · rintro ⟨rest, heq⟩
      exact hsingle (heq ▸ List.mem_cons_of_mem _ List.mem_cons_self)

/-- Neither wildcard crosses a separator, and a double star leaves out whole directories. -/
theorem include_globs_by_segments_source :
    ∃ glob below, includeGlobs ["src/*.t?"] = .ok [glob] ∧
      includeGlobs ["**/src/*.t?"] = .ok [below] ∧
      glob.accepts "src/a.ts" = true ∧ glob.accepts "src/lib/a.ts" = false ∧
      below.accepts "lib/src/a.ts" = true := by
  have hjoin : "/".intercalate ["src", "*.t?"] = "src/*.t?" := by decide
  have hsegments : ∀ segment ∈ ["src", "*.t?"], Glob.IsSegmentPattern segment := by
    rw [List.forall_mem_cons, List.forall_mem_singleton]
    constructor
    · exact ⟨by decide, by decide, List.all_eq_true.mp rfl, by decide⟩
    · exact ⟨by decide, by decide, List.all_eq_true.mp rfl, by decide⟩
  have htrimmed : Text.IsTrimmed ("/".intercalate ["src", "*.t?"]).toList := by
    rw [hjoin]
    constructor
    · intro c hc
      cases hc
      rfl
    · intro c hc
      cases hc
      rfl
  have hname : ∀ name ∈ ["lib", "src", "a.ts"], Glob.IsSegment name := by
    have hall : ∀ name ∈ ["lib", "src", "a.ts"],
        Path.isName name = true ∧ name.endsWith "." = false := by decide +kernel
    exact fun name hmem => ⟨(hall name hmem).1, (hall name hmem).2⟩
  obtain ⟨⟨glob, below, hglob, hbelow, hlaw⟩, -⟩ :=
    include_globs_by_segments (by decide) hsegments htrimmed (by rw [hjoin]; decide)
  have hsource : glob.accepts "src/a.ts" = true := by
    refine (hlaw ["src", "a.ts"] (by decide) fun name hmem => hname name ?_).1.mpr ?_
    · exact List.mem_cons_of_mem _ hmem
    · exact .cons ⟨_, rfl, by decide +kernel⟩ (.cons ⟨_, rfl, by decide +kernel⟩ .nil)
  refine ⟨glob, below, hglob, hbelow, hsource, ?_, ?_⟩
  · rw [Bool.eq_false_iff]
    intro haccepts
    have hmatched := (hlaw ["src", "lib", "a.ts"] (by decide) fun name hmem => hname name
      (by revert name; decide)).1.mp haccepts
    exact absurd hmatched.length_eq (by decide)
  · exact (hlaw ["lib", "src", "a.ts"] (by decide) hname).2.mpr
      ⟨["lib"], ["src", "a.ts"], rfl, by decide, hsource⟩

end PackageUsage
