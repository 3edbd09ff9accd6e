import PackageUsage.FileTree
import PackageUsage.Language
import PackageUsage.Proofs.Text

/-!
# Paths that are put together from names

A name is what an entry of a directory may be called. Names joined by separators can be told apart
again: as segments, as components and as the steps that a path takes, also when the joined names
stand behind a base directory. So the extension of such a path is that of its last name.
-/

namespace PackageUsage

theorem Text.endsWith_iff {text ending : String} :
    text.endsWith ending = true ↔ ending.toList <:+ text.toList := by
  rw [← String.endsWith_toSlice, String.Slice.endsWith_string_iff, String.copy_toSlice]

namespace Path

/-- What an entry of a directory may be called. -/
def isName (name : String) : Bool :=
  name != "" && name != "." && name != ".." && !name.toList.contains '/'

theorem isName_iff {name : String} :
    isName name = true ↔ name ≠ "" ∧ name ≠ "." ∧ name ≠ ".." ∧ '/' ∉ name.toList := by
  simp [isName, and_assoc]

variable {names : List String}

/-! ## Segments -/

theorem segments_append (base path : String) :
    segments (base ++ "/" ++ path) = segments base ++ segments path :=
  Text.cut_append '/' base path

theorem segments_of_not_mem {name : String} (h : '/' ∉ name.toList) : segments name = [name] :=
  Text.cut_of_not_mem h

/-- Joined names are the segments of their path. -/
theorem segments_intercalate (h : ∀ name ∈ names, isName name = true) (hne : names ≠ []) :
    segments ("/".intercalate names) = names :=
  (Text.cut_intercalate_eq_iff hne).mpr fun name hname => (isName_iff.mp (h name hname)).2.2.2

theorem intercalate_ne_empty (h : ∀ name ∈ names, isName name = true) (hne : names ≠ []) :
    "/".intercalate names ≠ "" := by
  intro hempty
  have hsegments := segments_intercalate h hne
  rw [hempty, segments_of_not_mem (by simp)] at hsegments
  have hname := h "" (by rw [← hsegments]; exact List.mem_singleton_self "")
  exact (isName_iff.mp hname).1 rfl

/-! ## Components -/

theorem ofSegment_of_isName {name : String} (h : isName name = true) :
    ofSegment name = some (.named name) := by
  obtain ⟨hempty, hcurrent, hparent, -⟩ := isName_iff.mp h
  unfold ofSegment
  split
  · exact absurd rfl hempty
  · exact absurd rfl hcurrent
  · exact absurd rfl hparent
  · rfl

theorem filterMap_ofSegment (h : ∀ name ∈ names, isName name = true) :
    names.filterMap ofSegment = names.map .named := by
  induction names with
  | nil => rfl
  | cons name rest ih =>
    rw [List.filterMap_cons_some (ofSegment_of_isName (h name List.mem_cons_self)),
      ih fun n hn => h n (List.mem_cons_of_mem name hn), List.map_cons]

theorem components_of_segments {path first : String} {rest : List String}
    (hsegments : segments path = first :: rest) (hfirst : isName first = true) :
    components path = .named first :: rest.filterMap ofSegment := by
  obtain ⟨hempty, hcurrent, -, -⟩ := isName_iff.mp hfirst
  unfold components
  rw [hsegments]
  split
  · next heq => cases heq
  · next heq =>
    cases heq
    exact absurd rfl hempty
  · next first' rest' _ heq =>
    cases heq
    split
    · exact absurd rfl hempty
    · exact absurd rfl hcurrent
    · rw [ofSegment_of_isName hfirst]
      rfl

/-- Joined names are the components of their path. -/
theorem components_intercalate (h : ∀ name ∈ names, isName name = true) (hne : names ≠ []) :
    components ("/".intercalate names) = names.map .named := by
  cases names with
  | nil => exact absurd rfl hne
  | cons name rest =>
    rw [components_of_segments (segments_intercalate h hne) (h name List.mem_cons_self),
      filterMap_ofSegment fun n hn => h n (List.mem_cons_of_mem name hn), List.map_cons]

/-- A path whose last segment is a name has this name for its last component. -/
theorem fileName?_of_segments {path last : String} {before : List String}
    (hsegments : segments path = before ++ [last]) (hlast : isName last = true) :
    fileName? path = some last := by
  have hcomponents : ∃ start : List Component, components path = start ++ [.named last] := by
    cases before with
    | nil => exact ⟨[], components_of_segments hsegments hlast⟩
    | cons first rest =>
      unfold components
      rw [hsegments]
      split
      · next heq => cases heq
      · next heq => simp at heq
      · next first' rest' _ heq =>
        obtain ⟨rfl, hrest⟩ := List.cons.inj heq
        rw [← hrest, List.append_eq, List.filterMap_append,
          List.filterMap_cons_some (ofSegment_of_isName hlast), List.filterMap_nil,
          ← List.append_assoc]
        exact ⟨_, rfl⟩
  obtain ⟨start, hstart⟩ := hcomponents
  rw [fileName?, hstart, List.getLast?_concat]

/-! ## Names behind a base directory -/

theorem isAbsolute_intercalate (h : ∀ name ∈ names, isName name = true) (hne : names ≠ []) :
    isAbsolute ("/".intercalate names) = false := by
  cases hslash : isAbsolute ("/".intercalate names) with
  | false => rfl
  | true =>
    rw [isAbsolute, String.startsWith_string_iff] at hslash
    obtain ⟨rest, hrest⟩ := hslash
    have hsegments := segments_intercalate h hne
    rw [segments, ← hrest] at hsegments
    have hempty : "" ∈ names := by
      rw [← hsegments]
      simp [Text.splitOn]
    exact absurd rfl (isName_iff.mp (h "" hempty)).1

theorem not_endsWith_of_segments {path last : String} {before : List String}
    (hsegments : segments path = before ++ [last]) (hlast : last ≠ "") :
    path.endsWith "/" = false := by
  cases hslash : path.endsWith "/" with
  | false => rfl
  | true =>
    rw [Text.endsWith_iff] at hslash
    obtain ⟨front, hfront⟩ := hslash
    rw [segments, ← hfront, show "/".toList = '/' :: [] from rfl, Text.splitOn_append,
      List.map_append] at hsegments
    have hends := congrArg List.getLast? hsegments
    simp only [Text.splitOn, List.map_cons, List.map_nil, List.getLast?_concat,
      Option.some.injEq] at hends
    exact absurd hends.symm hlast

theorem exists_last (h : ∀ name ∈ names, isName name = true) (hne : names ≠ []) :
    ∃ before last, names = before ++ [last] ∧ isName last = true :=
  ⟨names.dropLast, names.getLast hne, (List.dropLast_concat_getLast hne).symm,
    h _ (List.getLast_mem hne)⟩

theorem toList_join (base : String) (h : ∀ name ∈ names, isName name = true) (hne : names ≠ []) :
    base.toList <+: (join base ("/".intercalate names)).toList := by
  unfold join
  rw [isAbsolute_intercalate h hne, if_neg Bool.false_ne_true]
  split
  · rw [String.toList_append]
    exact List.prefix_append _ _
  · rw [String.append_assoc, String.toList_append]
    exact List.prefix_append _ _

/-- A base directory that is neither empty nor absolute keeps a path from being so. -/
theorem relative_join {base : String} (hbase : (base.isEmpty || isAbsolute base) = false)
    (h : ∀ name ∈ names, isName name = true) (hne : names ≠ []) :
    ((join base ("/".intercalate names)).isEmpty ||
      isAbsolute (join base ("/".intercalate names))) = false := by
  obtain ⟨hempty, habsolute⟩ := Bool.or_eq_false_iff.mp hbase
  obtain ⟨rest, hrest⟩ := toList_join base h hne
  have hchars : base.toList ≠ [] := by
    rw [Ne, String.toList_eq_nil_iff]
    exact String.isEmpty_eq_false_iff.mp hempty
  obtain ⟨first, more, hfirst⟩ := List.exists_cons_of_ne_nil hchars
  rw [hfirst] at hrest
  refine Bool.or_eq_false_iff.mpr ⟨?_, ?_⟩
  · rw [String.isEmpty_eq_false_iff, Ne, ← String.toList_eq_nil_iff, ← hrest]
    exact List.cons_ne_nil _ _
  · rw [isAbsolute, Bool.eq_false_iff, Ne, String.startsWith_string_iff] at habsolute ⊢
    rw [← hrest]
    rw [hfirst] at habsolute
    intro hstart
    obtain ⟨tail, htail⟩ := hstart
    apply habsolute
    rw [List.cons_append] at htail
    have hslash : '/' = first := (List.cons.inj htail).1
    rw [← hslash]
    exact ⟨more, rfl⟩

/-- The parts of a path that a walk along it comes through. -/
def parts (path : String) : List String :=
  (segments path).filter (· != "")

theorem filter_names (h : ∀ name ∈ names, isName name = true) :
    names.filter (· != "") = names := by
  rw [List.filter_eq_self]
  intro name hname
  simpa using (isName_iff.mp (h name hname)).1

/-- The segments of a base directory and joined names behind it: an empty segment may be lost. -/
theorem segments_join (base : String) (h : ∀ name ∈ names, isName name = true) (hne : names ≠ []) :
    ∃ before, segments (join base ("/".intercalate names)) = before ++ names ∧
      before.filter (· != "") = parts base := by
  unfold join
  rw [isAbsolute_intercalate h hne, if_neg Bool.false_ne_true]
  by_cases hbase : base.isEmpty || base.endsWith "/"
  · rw [if_pos hbase]
    rcases Bool.or_eq_true_iff.mp hbase with hempty | hslash
    · obtain rfl := String.isEmpty_iff.mp hempty
      refine ⟨[], ?_, ?_⟩
      · rw [String.empty_append, segments_intercalate h hne, List.nil_append]
      · rw [parts, segments_of_not_mem (by simp)]
        rfl
    · rw [Text.endsWith_iff] at hslash
      obtain ⟨front, hfront⟩ := hslash
      have hsplit : base = String.ofList front ++ "/" := by
        rw [← String.toList_inj, ← hfront]
        simp
      refine ⟨segments (String.ofList front), ?_, ?_⟩
      · rw [hsplit, segments_append, segments_intercalate h hne]
      · have hempty : segments "" = [""] := segments_of_not_mem (by simp)
        rw [parts, hsplit, ← String.append_empty (s := String.ofList front ++ "/"),
          segments_append, hempty, List.filter_append]
        simp
  · rw [if_neg hbase]
    exact ⟨segments base, by rw [segments_append, segments_intercalate h hne], rfl⟩

/-- The steps along a base directory and joined names behind it. -/
theorem steps_join (base : String) (h : ∀ name ∈ names, isName name = true) (hne : names ≠ []) :
    FileTree.steps (join base ("/".intercalate names)) = parts base ++ names := by
  obtain ⟨before, hsegments, hbefore⟩ := segments_join base h hne
  obtain ⟨front, last, hlast, hname⟩ := exists_last h hne
  have hend : (join base ("/".intercalate names)).endsWith "/" = false := by
    have hend : segments (join base ("/".intercalate names)) = (before ++ front) ++ [last] := by
      rw [hsegments, hlast, List.append_assoc]
    exact not_endsWith_of_segments hend (isName_iff.mp hname).1
  simp only [FileTree.steps, hend, Bool.false_eq_true, if_false, hsegments, List.filter_append,
    hbefore, filter_names h]

theorem steps_intercalate (h : ∀ name ∈ names, isName name = true) (hne : names ≠ []) :
    FileTree.steps ("/".intercalate names) = names := by
  have hjoin : join "" ("/".intercalate names) = "/".intercalate names := by
    rw [join, isAbsolute_intercalate h hne]
    simp
  have hsteps := steps_join "" h hne
  rw [hjoin, parts, segments_of_not_mem (by simp)] at hsteps
  exact hsteps

theorem isName_append {more : List String} (h : ∀ name ∈ names, isName name = true)
    (hmore : ∀ name ∈ more, isName name = true) : ∀ name ∈ names ++ more, isName name = true := by
  intro name hname
  rcases List.mem_append.mp hname with hfirst | hlast
  · exact h name hfirst
  · exact hmore name hlast

theorem intercalate_append {more : List String} (hne : names ≠ []) (hmore : more ≠ []) :
    "/".intercalate (names ++ more) = "/".intercalate names ++ "/" ++ "/".intercalate more := by
  induction names with
  | nil => exact absurd rfl hne
  | cons name rest ih =>
    cases rest with
    | nil =>
      obtain ⟨next, later, rfl⟩ := List.exists_cons_of_ne_nil hmore
      rw [List.singleton_append, String.intercalate_cons_cons, String.intercalate_singleton]
    | cons next rest =>
      rw [List.cons_append, List.cons_append, String.intercalate_cons_cons,
        String.intercalate_cons_cons, ← List.cons_append, ih (List.cons_ne_nil next rest)]
      simp only [String.append_assoc]

/-- Names behind names behind a base directory. -/
theorem join_join (base : String) {more : List String} (h : ∀ name ∈ names, isName name = true)
    (hne : names ≠ []) (hmore : ∀ name ∈ more, isName name = true) (hmore' : more ≠ []) :
    join (join base ("/".intercalate names)) ("/".intercalate more) =
      join base ("/".intercalate (names ++ more)) := by
  have hall := isName_append h hmore
  obtain ⟨before, hsegments, -⟩ := segments_join base h hne
  obtain ⟨front, last, hlast, hname⟩ := exists_last h hne
  have hend : (join base ("/".intercalate names)).endsWith "/" = false := by
    rw [hlast, ← List.append_assoc, ← hlast] at hsegments
    exact not_endsWith_of_segments hsegments (isName_iff.mp hname).1
  have hempty : (join base ("/".intercalate names)).isEmpty = false := by
    rw [String.isEmpty_eq_false_iff]
    intro hempty
    rw [hempty, segments_of_not_mem (by simp), hlast, ← List.append_assoc] at hsegments
    exact (isName_iff.mp hname).1 (List.eq_of_mem_singleton
      (hsegments ▸ List.mem_append_right (before ++ front) (List.mem_singleton_self last)))
  rw [join, isAbsolute_intercalate hmore hmore', if_neg Bool.false_ne_true, hempty, hend,
    Bool.or_false, if_neg Bool.false_ne_true, join, join, isAbsolute_intercalate h hne,
    isAbsolute_intercalate hall (by simp [hne]), intercalate_append hne hmore']
  split
  · simp_all
  · split <;> simp only [String.append_assoc]

/-- The extension of a path is that of its last name. -/
theorem extension?_concat {last : String} (h : ∀ name ∈ names ++ [last], isName name = true) :
    extension? ("/".intercalate (names ++ [last])) = extensionOf? last := by
  have hsegments := segments_intercalate h (by simp)
  rw [extension?, fileName?_of_segments hsegments (h last (by simp)), Option.bind_some]

/-- A base directory has no part in the extension, and so in the language, of a path. -/
theorem language_join (base : String) (h : ∀ name ∈ names, isName name = true) (hne : names ≠ []) :
    Language.ofPath? (join base ("/".intercalate names)) =
      Language.ofPath? ("/".intercalate names) := by
  obtain ⟨before, hsegments, -⟩ := segments_join base h hne
  obtain ⟨front, last, hlast, hname⟩ := exists_last h hne
  have hjoined : fileName? (join base ("/".intercalate names)) = some last := by
    have hend : segments (join base ("/".intercalate names)) = (before ++ front) ++ [last] := by
      rw [hsegments, hlast, List.append_assoc]
    exact fileName?_of_segments hend hname
  have halone : extension? ("/".intercalate names) = extensionOf? last := by
    rw [hlast] at h ⊢
    exact extension?_concat h
  rw [Language.ofPath?, Language.ofPath?, halone, extension?, hjoined, Option.bind_some]

end Path

end PackageUsage
