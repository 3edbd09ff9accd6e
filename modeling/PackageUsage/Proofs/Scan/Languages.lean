import PackageUsage.Proofs.Names.FileOrder
import PackageUsage.Proofs.Scan.Relocation
import PackageUsage.Proofs.Source.Fault

/-!
# The language of a found file

The language of a file is asked for three times: of the path that the walk came along when the file
is found, of the path below the scan root when its tree is built, and of the latter's extension when
the strict dialect gives the second opinion. A path below a directory has the components of the
directory in front of its own, however the directory is spelled, so the three answers agree. Hence
no found file is without a grammar, and what is said of one that fails is that it cannot be read or
where its syntax error is.
-/

namespace PackageUsage

namespace Text

variable {α : Type} [BEq α] [LawfulBEq α]

theorem dropPrefix?_append (front back : List α) :
    dropPrefix? front (front ++ back) = some back := by
  induction front with
  | nil => rfl
  | cons a front ih => rw [List.cons_append, dropPrefix?, if_pos (beq_self_eq_true a), ih]

end Text

/-! ## Paths below a directory -/

namespace Path

variable {names : List String}

/-- What the first segment of a path stands for, when the path is not empty. -/
def leading : String → List Component
  | "" => [.root]
  | "." => [.current]
  | s => (ofSegment s).toList

theorem components_of_leading {path first : String} {rest : List String}
    (h : segments path = first :: rest) (hne : first :: rest ≠ [""]) :
    components path = leading first ++ rest.filterMap ofSegment := by
  unfold components
  rw [h]
  split
  · next heq => cases heq
  · next heq => exact absurd heq hne
  · next first' rest' _ heq =>
    cases heq
    rfl

theorem segments_eq_empty_iff {path : String} : segments path = [""] ↔ path = "" := by
  constructor
  · intro h
    have hone : (segments path).length = path.toList.count '/' + 1 := Text.length_cut '/' path
    rw [h, List.length_singleton] at hone
    have hslash : '/' ∉ path.toList := by
      apply List.count_eq_zero.mp
      omega
    rw [segments_of_not_mem hslash] at h
    exact List.singleton_injective h
  · rintro rfl
    exact segments_of_not_mem (by simp)

theorem components_empty : components "" = [] := by
  rw [components, segments_eq_empty_iff.mpr rfl]
  rfl

/-- Segments that are appended to those of a path, but for a last one that stands for nothing, append
their components. -/
theorem components_of_append {base path : String} {front last : List String}
    (hbase : segments base = front ++ last) (hpath : segments path = front ++ names)
    (hlast : last.filterMap ofSegment = []) (hfront : front ≠ []) (hne : base ≠ "")
    (hne' : path ≠ "") (h : ∀ name ∈ names, isName name = true) :
    components path = components base ++ names.map .named := by
  obtain ⟨first, rest, rfl⟩ := List.exists_cons_of_ne_nil hfront
  rw [List.cons_append] at hbase hpath
  have hbase' : first :: (rest ++ last) ≠ [""] := by
    rw [← hbase]
    exact segments_eq_empty_iff.not.mpr hne
  have hpath' : first :: (rest ++ names) ≠ [""] := by
    rw [← hpath]
    exact segments_eq_empty_iff.not.mpr hne'
  rw [components_of_leading hbase hbase', components_of_leading hpath hpath', List.filterMap_append,
    List.filterMap_append, hlast, filterMap_ofSegment h, List.append_nil, List.append_assoc]

/-- Joined names behind a base directory have its components in front of theirs. -/
theorem components_join (base : String) (h : ∀ name ∈ names, isName name = true) (hne : names ≠ []) :
    components (join base ("/".intercalate names)) = components base ++ names.map .named := by
  rw [join, isAbsolute_intercalate h hne, if_neg Bool.false_ne_true]
  by_cases hempty : base = ""
  · subst hempty
    rw [if_pos (by simp), String.empty_append, components_intercalate h hne, components_empty,
      List.nil_append]
  · have hisEmpty : base.isEmpty = false := String.isEmpty_eq_false_iff.mpr hempty
    rw [hisEmpty, Bool.false_or]
    cases hslash : base.endsWith "/" with
    | false =>
      rw [if_neg Bool.false_ne_true]
      refine components_of_append (List.append_nil _).symm ?_ rfl (segments_ne_nil base) hempty ?_ h
      · rw [segments_append, segments_intercalate h hne]
      · simp [hempty]
    | true =>
      -- the segment behind the last separator is empty, and the first name takes its place
      obtain ⟨front, hfront⟩ := Text.endsWith_iff.mp hslash
      have hsplit : base = String.ofList front ++ "/" ++ "" := by
        rw [← String.toList_inj, ← hfront]
        simp
      have hsegments : segments base = segments (String.ofList front) ++ [""] := by
        rw [hsplit, segments_append, segments_eq_empty_iff.mpr rfl]
      rw [if_pos rfl]
      refine components_of_append hsegments ?_ rfl (segments_ne_nil _) hempty ?_ h
      · rw [hsplit, String.append_empty, segments_append, segments_intercalate h hne]
      · simp [hempty]

theorem ofComponents_named (names : List String) :
    ofComponents (names.map .named) = "/".intercalate names := by
  have htexts : (names.map Component.named).map Component.text = names := by
    rw [List.map_map]
    exact List.map_id names
  have hjoined : ofComponents (names.map .named) =
      "/".intercalate ((names.map Component.named).map Component.text) := by
    cases names <;> rfl
  rw [hjoined, htexts]

/-- What is seen from the base directory are the names behind it. -/
theorem stripBase?_join (base : String) (h : ∀ name ∈ names, isName name = true)
    (hne : names ≠ []) :
    (stripBase? base (join base ("/".intercalate names))).map ofComponents =
      some ("/".intercalate names) := by
  rw [stripBase?, components_join base h hne, Text.dropPrefix?_append, Option.map_some,
    ofComponents_named]

end Path

/-! ## The three answers -/

/-- Whatever has a grammar has a strict dialect, which allows types exactly if the tolerant one
does. -/
theorem Source.Dialect.strict?_of_ofExtension? {extension : String} {language : Language}
    (h : Language.ofExtension? extension = some language) :
    ∃ d, Dialect.strict? extension = some d ∧ d.strict = true ∧
      d.types = (Dialect.tolerant language).types := by
  unfold Language.ofExtension? at h
  split at h <;> cases h <;> exact ⟨_, rfl, rfl, rfl⟩

theorem Source.parse_ne_unsupported {path path' text : String} {language : Language}
    (h : Language.ofPath? path = some language) : parse path text ≠ .error (.unsupported path') := by
  rw [parse_of_language h]
  split_ifs <;> nofun

namespace SourceFile

/-- A file lies below the scan root, and all readers of its paths agree on its language. -/
structure Typed (root : String) (file : SourceFile) : Prop where
  below : (Path.stripBase? root file.path).map Path.ofComponents = some file.relative
  walked : Language.ofPath? file.path = some file.language
  relative : Language.ofPath? file.relative = some file.language
  strict : ∃ d, (Path.extension? file.relative).bind Source.Dialect.strict? = some d ∧
    d.strict = true ∧ d.types = (Source.Dialect.tolerant file.language).types

/-- Why a file fails and what is said of it: it cannot be read, or its first fault is at a place. -/
inductive FailsWith (tree : FileTree) (file : SourceFile) : FileFault → String → Prop
  | unreadable {cause : FileError} (hread : tree.readText file.path = .error cause) :
      FailsWith tree file (.unreadable file.relative cause)
        ("failed to read " ++ file.relative ++ ": " ++ cause.message)
  | malformed {text : String} {first : Source.Tree} (hread : tree.readText file.path = .ok text)
      (hfirst : (Source.treeOfText file.language text).preorder.find? Source.Tree.isFault =
        some first)
      (hrefused : Source.isWellFormed file.relative text = false) :
      FailsWith tree file (.noTree (.malformed file.relative first.line first.column))
        ("syntax error in " ++ file.relative ++ " at line " ++ toString first.line ++
          ", column " ++ toString first.column)

variable {root : String} {patterns names : List String} {file : SourceFile}

theorem typed_of_isSource (hnames : Discovery.AreNames names)
    (h : Discovery.IsSource root patterns names file) : file.Typed root := by
  obtain ⟨extension, hextension, hlanguage⟩ := h.grammar
  have hrelative : Language.ofPath? file.relative = some file.language := by
    rw [Language.ofPath?, hextension, Option.bind_some, hlanguage]
  constructor
  · rw [h.path, h.relative]
    exact Path.stripBase?_join root hnames.2 hnames.1
  · rw [h.path, h.relative, Path.language_join root hnames.2 hnames.1, ← h.relative]
    exact hrelative
  · exact hrelative
  · rw [hextension, Option.bind_some]
    exact Source.Dialect.strict?_of_ofExtension? hlanguage

theorem typed_of_discover {tree : FileTree} {options : DiscoveryOptions} {files : List SourceFile}
    {events : List LogEvent} (hwf : tree.WellFormed)
    (h : discover tree root options = .ok (files, events)) : ∀ file ∈ files, file.Typed root := by
  intro file hfile
  obtain ⟨names, hnames, hsource⟩ := exists_names_of_discover hwf h file hfile
  exact typed_of_isSource hnames hsource

/-- A file whose language is known has no tree exactly for one of the two reasons. -/
theorem failsWith_iff {tree : FileTree} {fault : FileFault} {message : String}
    (h : Language.ofPath? file.relative = some file.language) :
    file.FailsWith tree fault message ↔
      ScanResult.treeOf tree file = .error fault ∧ fault.message = message := by
  constructor
  · rintro (hread | ⟨hread, hfirst, hrefused⟩)
    · refine ⟨?_, rfl⟩
      rw [ScanResult.treeOf, hread]
    · next text first =>
      have hfault : (Source.treeOfText file.language text).hasFault = true :=
        (Source.Tree.hasFault_iff _).mpr (List.find?_isSome.mp (hfirst ▸ rfl))
      obtain ⟨first', hfirst', hplace⟩ := Source.Tree.faultPlace_of_hasFault hfault
      obtain rfl := Option.some.inj (hfirst.symm.trans hfirst')
      refine ⟨?_, rfl⟩
      rw [ScanResult.treeOf, hread]
      dsimp only
      rw [Source.parse_of_language h, if_pos ⟨hfault, hrefused⟩, hplace]
  · rintro ⟨htree, rfl⟩
    unfold ScanResult.treeOf at htree
    split at htree
    · next cause hread =>
      cases htree
      exact .unreadable hread
    · next text hread =>
      rw [Source.parse_of_language h] at htree
      split_ifs at htree with hrefused
      · cases htree
        obtain ⟨first, hfirst, hplace⟩ := Source.Tree.faultPlace_of_hasFault hrefused.1
        rw [hplace]
        exact .malformed hread hfirst hrefused.2

end SourceFile

/-! ## Whole scans -/

namespace ScanResult

theorem mem_failures_alone_iff {tree : FileTree} {matcher : Matcher} {file : SourceFile}
    {failure : FileFailure} :
    failure ∈ (alone tree matcher file).failures ↔
      failure.path = file.relative ∧ treeOf tree file = .error failure.fault := by
  obtain ⟨path, fault⟩ := failure
  cases htree : treeOf tree file with
  | error cause =>
    rw [(alone_of_treeOf_error matcher htree).2, List.mem_singleton]
    simp [eq_comm]
  | ok parsed =>
    rw [(alone_of_treeOf_ok matcher htree).2]
    simp

theorem mem_failures_ofFiles_iff {tree : FileTree} {matcher : Matcher} {files : List SourceFile}
    {failure : FileFailure} :
    failure ∈ (ofFiles tree matcher files).1.failures ↔
      ∃ file ∈ files, failure.path = file.relative ∧ treeOf tree file = .error failure.fault := by
  rw [failures_ofFiles, List.mem_flatMap]
  simp only [mem_failures_alone_iff]

end ScanResult

/-- In every scan, the language of a found file is that of both its paths and is one the strict
dialects know, so its tree is asked of the grammar of that language and the answer is never that
there is none. The failures of the scan are the found files that cannot be read or have a fault that
the strict dialect refuses as well, each with the wording of its reason and with its path from the
scan root. -/
theorem scan_knows_languages (s : Scanner) {tree : FileTree} (hwf : tree.WellFormed)
    (patterns : List String) :
    (∀ files events, discover tree s.plan.root (s.options patterns) = .ok (files, events) →
      (∀ file ∈ files, file.Typed s.plan.root ∧
        ∀ text, (∀ path, Source.parse file.relative text ≠ .error (.unsupported path)) ∧
          Source.parse file.relative text =
            let parsed := Source.treeOfText file.language text
            if parsed.hasFault = true ∧ Source.isWellFormed file.relative text = false then
              .error (.malformed file.relative parsed.faultPlace.1 parsed.faultPlace.2)
            else .ok parsed) ∧
      ∀ failure, failure ∈ (s.tryScan tree patterns).scanner.result.failures ↔
        ∃ file ∈ files, failure.path = file.relative ∧
          file.FailsWith tree failure.fault failure.fault.message) ∧
    (∀ e, discover tree s.plan.root (s.options patterns) = .error e →
      (s.tryScan tree patterns).scanner.result.failures = []) ∧
    (s.scan tree patterns).scanner = (s.tryScan tree patterns).scanner := by
  refine ⟨?_, ?_, s.scanner_scan tree patterns⟩
  · intro files events hdiscover
    have htyped := SourceFile.typed_of_discover hwf hdiscover
    refine ⟨?_, ?_⟩
    · intro file hfile
      have hlanguage := (htyped file hfile).relative
      exact ⟨htyped file hfile, fun text =>
        ⟨fun _ => Source.parse_ne_unsupported hlanguage, Source.parse_of_language hlanguage⟩⟩
    · intro failure
      rw [(Scanner.tryScan_of_discover hdiscover).1, ScanResult.mem_failures_ofFiles_iff]
      apply exists_congr
      intro file
      apply and_congr_right
      intro hfile
      rw [SourceFile.failsWith_iff (htyped file hfile).relative, eq_self_iff_true, and_true]
  · intro e hdiscover
    rw [(Scanner.tryScan_of_error hdiscover).1]

namespace LanguageSample

def brokenText : String :=
  "import a from 'pkg';\nimport \x7b"

/-- A scan root that is called like a source file, with a file that is all extension, one that breaks
off, one that is no text, and a sound one in a directory with an extension of another language. -/
def project : FileTree :=
  { entries := [("src.ts", .directory [(".ts", .file .empty), ("a.b.mts", .file brokenText.toUTF8),
      ("b.js", .file ⟨#[0xff]⟩), ("d.js", .directory [("c.d.tsx", .file .empty)])])] }

/-- A scanner whose root is spelled with separators to spare. -/
def scanner : Scanner :=
  { plan := { root := "./src.ts//", target := { text := "pkg" } }, matcher := .start "pkg".toList }

def broken : SourceFile :=
  { path := "./src.ts//a.b.mts", relative := "a.b.mts", language := .typescript }

def unreadable : SourceFile :=
  { path := "./src.ts//b.js", relative := "b.js", language := .javascript }

def sound : SourceFile :=
  { path := "./src.ts//d.js/c.d.tsx", relative := "d.js/c.d.tsx", language := .tsx }

theorem discover_project : ∃ events,
    discover project scanner.plan.root (scanner.options ["**/*"]) =
      .ok ([broken, unreadable, sound], events) :=
  discover_of_sifted (by decide +kernel) (by decide)

theorem failsWith_broken :
    broken.FailsWith project (.noTree (.malformed "a.b.mts" 2 1))
      "syntax error in a.b.mts at line 2, column 1" := by
  have hread : project.readText broken.path = .ok brokenText := by decide +kernel
  obtain ⟨first, hfirst, hplace⟩ :=
    @Source.Tree.faultPlace_of_hasFault (Source.treeOfText .typescript brokenText)
      (by decide +kernel)
  have htwo : (Source.treeOfText .typescript brokenText).faultPlace = (2, 1) := by decide +kernel
  obtain ⟨hline, hcolumn⟩ := Prod.mk.inj (hplace.symm.trans htwo)
  have hfails := SourceFile.FailsWith.malformed hread hfirst (by decide +kernel)
  rw [hline, hcolumn] at hfails
  exact hfails

theorem failsWith_unreadable :
    unreadable.FailsWith project (.unreadable "b.js" .invalidText)
      "failed to read b.js: stream did not contain valid UTF-8" := by
  have hread : project.readText unreadable.path = .error .invalidText := by decide +kernel
  exact SourceFile.FailsWith.unreadable hread

end LanguageSample

open LanguageSample in
theorem scan_knows_languages_odd_names :
    (∀ file ∈ [broken, unreadable, sound], file.Typed "./src.ts//") ∧
    (∃ failure ∈ (scanner.tryScan project ["**/*"]).scanner.result.failures,
      failure.path = "a.b.mts" ∧
        failure.fault.message = "syntax error in a.b.mts at line 2, column 1") ∧
    ∃ failure ∈ (scanner.tryScan project ["**/*"]).scanner.result.failures,
      failure.path = "b.js" ∧
        failure.fault.message = "failed to read b.js: stream did not contain valid UTF-8" := by
  obtain ⟨events, hdiscover⟩ := discover_project
  have hwf : project.WellFormed := by decide +kernel
  obtain ⟨hfiles, hfailures⟩ := (scan_knows_languages scanner hwf ["**/*"]).1 _ events hdiscover
  refine ⟨fun file hfile => (hfiles file hfile).1, ?_, ?_⟩
  · refine ⟨{ path := "a.b.mts", fault := .noTree (.malformed "a.b.mts" 2 1) }, ?_, rfl, rfl⟩
    exact (hfailures _).mpr ⟨broken, by simp, rfl, failsWith_broken⟩
  · refine ⟨{ path := "b.js", fault := .unreadable "b.js" .invalidText }, ?_, rfl, rfl⟩
    exact (hfailures _).mpr ⟨unreadable, by simp, rfl, failsWith_unreadable⟩

end PackageUsage
