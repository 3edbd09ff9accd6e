import PackageUsage.Proofs.Glob.Matching

/-!
# Globs segment by segment

Neither a character nor a single wildcard matches a separator, so a pattern of such segments matches
a path if there are as many segments in both and each of them matches the one in its place. A double
star and a separator before a pattern leave out any number of whole segments of the path. So a glob
of a double star and a name accepts every path whose last name this is.
-/

namespace PackageUsage

namespace Glob

/-- A segment of a path that may be decided by its last characters: a name without a dot at its
end. -/
structure IsSegment (name : String) : Prop where
  isName : Path.isName name = true
  undotted : name.endsWith "." = false

/-- A segment of a pattern: characters and single wildcards. -/
structure IsSegmentPattern (text : String) : Prop where
  ne_empty : text ≠ ""
  single : '/' ∉ text.toList
  reads : ReadsPlainly text.toList

variable {names segments : List String} {name text : String} {ts us : List Token} {c : Char}
  {u v w : List Char}

/-! ## Joined names -/

theorem IsSegment.slash_not_mem (h : IsSegment name) : '/' ∉ bytes name := by
  rw [slash_mem_bytes_iff]
  exact (Path.isName_iff.mp h.isName).2.2.2

theorem bytes_intercalate_cons {more : List String} (hmore : more ≠ []) :
    bytes ("/".intercalate (name :: more)) = bytes name ++ '/' :: bytes ("/".intercalate more) := by
  rw [String.intercalate_cons_of_ne_nil hmore, bytes_append, bytes_append, List.append_assoc]
  rfl

theorem endsWith_dot_append (hne : text ≠ "") (hdot : text.endsWith "." = false) (front : String) :
    (front ++ text).endsWith "." = false := by
  rw [Bool.eq_false_iff, Ne, Text.endsWith_iff] at hdot ⊢
  rw [String.toList_append]
  intro hsuffix
  have hpos : 0 < text.toList.length :=
    List.length_pos_iff.mpr fun hnil => hne (String.toList_eq_nil_iff.mp hnil)
  exact hdot (List.suffix_of_suffix_length_le hsuffix (List.suffix_append _ _) hpos)

theorem endsWith_dot_intercalate (hnames : ∀ name ∈ names, IsSegment name) (hne : names ≠ []) :
    ("/".intercalate names).endsWith "." = false := by
  induction names with
  | nil => exact absurd rfl hne
  | cons name more ih =>
    obtain ⟨hname, hmore⟩ := List.forall_mem_cons.mp hnames
    by_cases hlast : more = []
    · rw [hlast, String.intercalate_singleton]
      exact hname.undotted
    · have hjoined := Path.intercalate_ne_empty (fun name hmem => (hmore name hmem).isName) hlast
      rw [String.intercalate_cons_of_ne_nil hlast]
      exact endsWith_dot_append hjoined (ih hmore hlast) _

/-- A separator behind bytes without one is the first of all. -/
theorem separator_cases {a b : List Char} (ha : '/' ∉ a) (h : a ++ '/' :: b = u ++ '/' :: v) :
    (u = a ∧ v = b) ∨ ∃ d, u = a ++ '/' :: d ∧ b = d ++ '/' :: v := by
  rcases List.append_eq_append_iff.mp h with ⟨d, rfl, hrest⟩ | ⟨d, rfl, hrest⟩
  · cases d with
    | nil => exact Or.inl ⟨List.append_nil a, (List.cons.inj hrest).2.symm⟩
    | cons first d =>
      obtain ⟨rfl, hafter⟩ := List.cons.inj hrest
      exact Or.inr ⟨d, rfl, hafter⟩
  · cases d with
    | nil => exact Or.inl ⟨(List.append_nil u).symm, (List.cons.inj hrest).2⟩
    | cons first d =>
      obtain rfl := (List.cons.inj hrest).1
      exact absurd (List.mem_append_right u List.mem_cons_self) ha

/-- What comes behind a separator in joined names are the last of these names. -/
theorem exists_names_of_separator (hnames : ∀ name ∈ names, IsSegment name) (hne : names ≠ [])
    (h : bytes ("/".intercalate names) = u ++ '/' :: v) :
    ∃ before after, names = before ++ after ∧ after ≠ [] ∧ v = bytes ("/".intercalate after) := by
  induction names generalizing u with
  | nil => exact absurd rfl hne
  | cons name more ih =>
    obtain ⟨hname, hmore⟩ := List.forall_mem_cons.mp hnames
    have hslash := hname.slash_not_mem
    by_cases hlast : more = []
    · rw [hlast, String.intercalate_singleton] at h
      exact absurd (h ▸ List.mem_append_right u List.mem_cons_self) hslash
    · rw [bytes_intercalate_cons hlast] at h
      rcases separator_cases hslash h with ⟨-, hv⟩ | ⟨d, -, hrest⟩
      · exact ⟨[name], more, rfl, hlast, hv⟩
      · obtain ⟨before, after, rfl, hafter, hv⟩ := ih hmore hlast hrest
        exact ⟨name :: before, after, rfl, hafter, hv⟩

/-! ## The words of segments -/

theorem slash_not_mem_of_matches (hc : c ≠ '/') (h : (tokenOf c).regex.Matches w) : '/' ∉ w := by
  unfold tokenOf at h
  split at h
  · obtain ⟨b, hb, rfl⟩ := matches_any_iff.mp h
    rw [List.mem_singleton]
    exact hb.2.symm
  · split at h
    · intro hslash
      exact (matches_zeroOrMore_iff.mp h '/' hslash).2 rfl
    · rw [matches_literal_iff.mp h, slash_mem_bytesOf_iff]
      exact hc

/-- What a segment of a pattern matches lies within a segment. -/
theorem slash_not_mem_of_matchAll {cs : List Char} (hcs : '/' ∉ cs)
    (h : MatchAll (cs.map tokenOf) w) : '/' ∉ w := by
  induction cs generalizing w with
  | nil =>
    rw [matchAll_nil_iff.mp h]
    exact List.not_mem_nil
  | cons c cs ih =>
    rw [List.mem_cons, not_or] at hcs
    obtain ⟨u, v, hu, hv, rfl⟩ := matchAll_cons_iff.mp h
    rw [List.mem_append, not_or]
    exact ⟨slash_not_mem_of_matches (Ne.symm hcs.1) hu, ih hcs.2 hv⟩

theorem matchAll_separator_iff :
    MatchAll (ts ++ .literal '/' :: us) w ↔
      ∃ u v, MatchAll ts u ∧ MatchAll us v ∧ w = u ++ '/' :: v := by
  have hslash : bytesOf '/' = ['/'] := rfl
  simp only [matchAll_append_iff, matchAll_cons_iff, matches_literal_iff, hslash]
  constructor
  · rintro ⟨u, _, hu, ⟨_, v, rfl, hv, rfl⟩, rfl⟩
    exact ⟨u, v, hu, hv, rfl⟩
  · rintro ⟨u, v, hu, hv, rfl⟩
    exact ⟨u, '/' :: v, hu, ⟨['/'], v, rfl, hv, rfl⟩, rfl⟩

theorem tokensOf_intercalate_cons {rest : List String} (hrest : rest ≠ []) :
    tokensOf ("/".intercalate (text :: rest)) =
      tokensOf text ++ .literal '/' :: tokensOf ("/".intercalate rest) := by
  rw [String.intercalate_cons_of_ne_nil hrest, tokensOf, String.toList_append,
    String.toList_append, List.append_assoc, List.map_append]
  rfl

/-- Joined segments match joined names one by one. -/
theorem matchAll_intercalate_iff (hsegments : ∀ text ∈ segments, '/' ∉ text.toList)
    (hnames : ∀ name ∈ names, IsSegment name) (hne : segments ≠ []) (hne' : names ≠ []) :
    MatchAll (tokensOf ("/".intercalate segments)) (bytes ("/".intercalate names)) ↔
      List.Forall₂ (fun text name => MatchAll (tokensOf text) (bytes name)) segments names := by
  induction segments generalizing names with
  | nil => exact absurd rfl hne
  | cons text rest ih =>
    obtain ⟨name, more, rfl⟩ := List.exists_cons_of_ne_nil hne'
    obtain ⟨htext, hrest⟩ := List.forall_mem_cons.mp hsegments
    obtain ⟨hname, hmore⟩ := List.forall_mem_cons.mp hnames
    rw [List.forall₂_cons]
    by_cases hlast : rest = []
    · subst hlast
      rw [String.intercalate_singleton, List.forall₂_nil_left_iff]
      by_cases hlast' : more = []
      · rw [hlast', String.intercalate_singleton]
        exact (and_iff_left rfl).symm
      · -- a segment does not match beyond the separator
        rw [bytes_intercalate_cons hlast']
        apply iff_of_false
        · intro h
          exact slash_not_mem_of_matchAll htext h (List.mem_append_right _ List.mem_cons_self)
        · exact fun h => hlast' h.2
    · rw [tokensOf_intercalate_cons hlast, matchAll_separator_iff]
      by_cases hlast' : more = []
      · subst hlast'
        rw [String.intercalate_singleton, List.forall₂_nil_right_iff]
        apply iff_of_false
        · rintro ⟨u, v, -, -, heq⟩
          exact hname.slash_not_mem (heq ▸ List.mem_append_right u List.mem_cons_self)
        · exact fun h => hlast h.2
      · rw [bytes_intercalate_cons hlast', ← ih hrest hmore hlast hlast']
        constructor
        · rintro ⟨u, v, hu, hv, heq⟩
          rcases separator_cases hname.slash_not_mem heq with ⟨rfl, rfl⟩ | ⟨d, rfl, -⟩
          · exact ⟨hu, hv⟩
          · exact absurd (List.mem_append_right _ List.mem_cons_self)
              (slash_not_mem_of_matchAll htext hu)
        · rintro ⟨hu, hv⟩
          exact ⟨_, _, hu, hv, rfl⟩

theorem matchAll_below (before : List String) {after : List String} (hafter : after ≠ [])
    (h : MatchAll ts (bytes ("/".intercalate after))) :
    MatchAll (.leadingSegments :: ts) (bytes ("/".intercalate (before ++ after))) := by
  by_cases hbefore : before = []
  · subst hbefore
    exact matchAll_cons_iff.mpr ⟨[], _, matches_leadingSegments_iff.mpr (Or.inl rfl), h, rfl⟩
  · have hleading : Token.leadingSegments.regex.Matches (bytes ("/".intercalate before) ++ ['/']) :=
      matches_leadingSegments_iff.mpr (Or.inr ⟨_, fun _ hb => toNat_le_of_mem_bytes hb, rfl⟩)
    refine matchAll_cons_iff.mpr ⟨_, _, hleading, h, ?_⟩
    rw [String.intercalate_append_of_ne_nil hbefore hafter, bytes_append, bytes_append]
    rfl

/-- Leading segments leave out whole names. -/
theorem matchAll_below_iff (hnames : ∀ name ∈ names, IsSegment name) (hne : names ≠ []) :
    MatchAll (.leadingSegments :: ts) (bytes ("/".intercalate names)) ↔
      ∃ before after, names = before ++ after ∧ after ≠ [] ∧
        MatchAll ts (bytes ("/".intercalate after)) := by
  constructor
  · intro h
    obtain ⟨_, v, hleading, hv, heq⟩ := matchAll_cons_iff.mp h
    rcases matches_leadingSegments_iff.mp hleading with rfl | ⟨u, -, rfl⟩
    · exact ⟨[], names, rfl, hne, heq ▸ hv⟩
    · rw [List.append_assoc] at heq
      obtain ⟨before, after, hsplit, hafter, rfl⟩ := exists_names_of_separator hnames hne heq
      exact ⟨before, after, hsplit, hafter, hv⟩
  · rintro ⟨before, after, rfl, hafter, h⟩
    exact matchAll_below before hafter h

/-! ## Patterns of segments -/

theorem tokensOf_ne_leadingSegments (text : String) : tokensOf text ≠ [.leadingSegments] := by
  intro h
  obtain ⟨c, -, hc⟩ := List.mem_map.mp (h ▸ List.mem_singleton_self Token.leadingSegments)
  unfold tokenOf at hc
  split at hc
  · cases hc
  · split at hc <;> cases hc

theorem accepts_tokensOf_iff {path : String} (hdot : path.endsWith "." = false) :
    accepts ⟨tokensOf text⟩ path = true ↔ MatchAll (tokensOf text) (bytes path) :=
  accepts_iff_matchAll hdot (tokensOf_ne_leadingSegments text)

theorem intercalate_ne_empty (hsegments : ∀ text ∈ segments, IsSegmentPattern text)
    (hne : segments ≠ []) : "/".intercalate segments ≠ "" := by
  obtain ⟨text, rest, rfl⟩ := List.exists_cons_of_ne_nil hne
  have htext := (hsegments text List.mem_cons_self).ne_empty
  by_cases hlast : rest = []
  · rwa [hlast, String.intercalate_singleton]
  · rw [String.intercalate_cons_of_ne_nil hlast, String.append_assoc]
    intro hempty
    exact htext (String.append_eq_empty_iff.mp hempty).1

theorem readsPlainly_intercalate (hsegments : ∀ text ∈ segments, IsSegmentPattern text) :
    ReadsPlainly ("/".intercalate segments).toList := by
  induction segments with
  | nil => exact ⟨fun _ hc => absurd hc List.not_mem_nil, .nil⟩
  | cons text rest ih =>
    obtain ⟨htext, hrest⟩ := List.forall_mem_cons.mp hsegments
    by_cases hlast : rest = []
    · rw [hlast, String.intercalate_singleton]
      exact htext.reads
    · obtain ⟨hplain, hapart⟩ := ih hrest
      have hchars : ("/".intercalate (text :: rest)).toList =
          text.toList ++ '/' :: ("/".intercalate rest).toList := by
        rw [String.intercalate_cons_of_ne_nil hlast, String.toList_append, String.toList_append,
          List.append_assoc]
        rfl
      rw [hchars]
      constructor
      · intro c hc
        rcases List.mem_append.mp hc with hc | hc
        · exact htext.reads.plain c hc
        · rcases List.mem_cons.mp hc with rfl | hc
          · rfl
          · exact hplain c hc
      · refine List.isChain_append.mpr ⟨htext.reads.apart, List.isChain_cons.mpr ⟨?_, hapart⟩, ?_⟩
        · intro d _ hstar
          cases hstar
        · intro c _ d hd _
          cases hd
          exact Char.ne_of_val_ne (by decide)

/-- A pattern of segments accepts a path if each segment accepts the name in its place. -/
theorem accepts_intercalate_iff (hsegments : ∀ text ∈ segments, IsSegmentPattern text)
    (hnames : ∀ name ∈ names, IsSegment name) (hne : segments ≠ []) (hne' : names ≠ []) :
    accepts ⟨tokensOf ("/".intercalate segments)⟩ ("/".intercalate names) = true ↔
      List.Forall₂ (fun text name =>
        ∃ glob, ofText false text = .ok glob ∧ glob.accepts name = true) segments names := by
  have hsegment {text name : String} (hmem : (text, name) ∈ segments.zip names) :
      MatchAll (tokensOf text) (bytes name) ↔
        ∃ glob, ofText false text = .ok glob ∧ glob.accepts name = true := by
    obtain ⟨htext, hname⟩ := List.of_mem_zip hmem
    rw [ofText_of_readsPlainly (hsegments text htext).reads]
    simp only [Except.ok.injEq, exists_eq_left']
    exact (accepts_tokensOf_iff (hnames name hname).undotted).symm
  rw [accepts_tokensOf_iff (endsWith_dot_intercalate hnames hne'),
    matchAll_intercalate_iff (fun text htext => (hsegments text htext).single) hnames hne hne',
    List.forall₂_iff_zip, List.forall₂_iff_zip]
  apply and_congr_right
  intro _
  constructor
  · intro h text name hmem
    exact (hsegment hmem).mp (h hmem)
  · intro h text name hmem
    exact (hsegment hmem).mpr (h hmem)

/-- A double star and a separator before a pattern leave out any number of whole segments. -/
theorem accepts_below_iff (hnames : ∀ name ∈ names, IsSegment name) (hne : names ≠ [])
    (htext : text ≠ "") :
    accepts ⟨.leadingSegments :: tokensOf text⟩ ("/".intercalate names) = true ↔
      ∃ before after, names = before ++ after ∧ after ≠ [] ∧
        accepts ⟨tokensOf text⟩ ("/".intercalate after) = true := by
  have htokens : (.leadingSegments :: tokensOf text : List Token) ≠ [.leadingSegments] := by
    intro h
    have hnil := (List.cons.inj h).2
    rw [tokensOf, List.map_eq_nil_iff] at hnil
    exact htext (String.toList_eq_nil_iff.mp hnil)
  rw [accepts_iff_matchAll (endsWith_dot_intercalate hnames hne) htokens,
    matchAll_below_iff hnames hne]
  refine exists_congr fun before => exists_congr fun after => and_congr_right fun hsplit =>
    and_congr_right fun hafter => ?_
  have hafter' : ∀ name ∈ after, IsSegment name := fun name hmem =>
    hnames name (hsplit ▸ List.mem_append_right before hmem)
  exact (accepts_tokensOf_iff (endsWith_dot_intercalate hafter' hafter)).symm

/-! ## Names -/

/-- The glob of a name at any depth. -/
def ofName (name : String) : Glob :=
  ⟨.leadingSegments :: name.toList.map .literal⟩

/-- Characters that spell themselves wherever they stand in a glob. -/
def isLiteral (c : Char) : Bool :=
  ['?', '*', '[', '{', '}', ',', '\\'].all (c != ·)

theorem ne_of_isLiteral {d : Char} (hc : isLiteral c = true) (hd : isLiteral d = false) :
    c ≠ d := by
  rintro rfl
  rw [hc] at hd
  cases hd

theorem readsPlainly_of_isLiteral {cs : List Char} (h : ∀ c ∈ cs, isLiteral c = true) :
    ReadsPlainly cs where
  plain c hc := by
    have hne (d : Char) (hd : isLiteral d = false) : (c != d) = true :=
      bne_iff_ne.mpr (ne_of_isLiteral (h c hc) hd)
    rw [isPlain, hne '[' rfl, hne '{' rfl, hne '}' rfl, hne '\\' rfl]
    rfl
  apart := by
    induction cs with
    | nil => exact .nil
    | cons c cs ih =>
      obtain ⟨hc, hcs⟩ := List.forall_mem_cons.mp h
      refine List.isChain_cons.mpr ⟨fun d _ hstar => ?_, ih hcs⟩
      exact absurd hstar (ne_of_isLiteral hc rfl)

/-- A double star and a name of plain characters spell the glob of the name. -/
theorem ofText_name {name : List Char} (h : ∀ c ∈ name, isLiteral c = true) :
    ofText false (String.ofList (['*', '*', '/'] ++ name)) = .ok (ofName (String.ofList name)) := by
  have htokens : tokensOf (String.ofList name) = (String.ofList name).toList.map .literal := by
    rw [tokensOf, String.toList_ofList]
    refine List.map_congr_left fun c hc => ?_
    rw [tokenOf, if_neg (ne_of_isLiteral (h c hc) rfl), if_neg (ne_of_isLiteral (h c hc) rfl)]
  have htext : String.ofList (['*', '*', '/'] ++ name) = "**/" ++ String.ofList name :=
    String.ofList_append
  rw [htext, ofText_below (by rw [String.toList_ofList]; exact readsPlainly_of_isLiteral h),
    htokens]
  rfl

/-- The glob of a name accepts every path that ends with the name. -/
theorem accepts_ofName {name : String} (hname : Path.isName name = true)
    (hdot : name.endsWith "." = false) (before : List String) :
    (ofName name).accepts ("/".intercalate (before ++ [name])) = true := by
  have hne := (Path.isName_iff.mp hname).1
  have hundotted : ("/".intercalate (before ++ [name])).endsWith "." = false := by
    by_cases hbefore : before = []
    · rw [hbefore, List.nil_append, String.intercalate_singleton]
      exact hdot
    · rw [String.intercalate_append_of_ne_nil hbefore (List.cons_ne_nil _ _),
        String.intercalate_singleton]
      exact endsWith_dot_append hne hdot _
  have htokens : (ofName name).tokens ≠ [.leadingSegments] := by
    intro h
    have hnil := List.map_eq_nil_iff.mp (List.cons.inj h).2
    exact hne (String.toList_eq_nil_iff.mp hnil)
  rw [accepts_iff_matchAll hundotted htokens]
  apply matchAll_below before (List.cons_ne_nil _ _)
  rw [String.intercalate_singleton]
  exact matchAll_literals_iff.mpr rfl

end Glob

end PackageUsage
