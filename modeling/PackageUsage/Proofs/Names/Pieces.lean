import PackageUsage.Proofs.Names

/-!
# Cutting names into pieces

A piece shows at both ends and holds no brace and no comma, and such a name is its own only piece.
Names joined by commas have the pieces of each, and braces count nowhere, so the pieces of a name
can be joined and are found again.
-/

namespace PackageUsage

/-- A name that has nothing to be cut off or cut at. -/
structure IsPiece (name : String) : Prop where
  nonempty : name ≠ ""
  unbraced : '\x7b' ∉ name.toList ∧ '\x7d' ∉ name.toList
  undivided : ',' ∉ name.toList
  trimmed : Text.IsTrimmed name.toList

/-- The characters of a name that are no braces. -/
def unbraced (cs : List Char) : List Char :=
  cs.filter fun c => c != '\x7b' && c != '\x7d'

/-- What is left of the stretches between commas. -/
def trimmedStretches (stretches : List (List Char)) : List String :=
  ((stretches.map Text.trimList).filter (!·.isEmpty)).map String.ofList

theorem pieces_eq_trimmedStretches (name : String) :
    pieces name = trimmedStretches (Text.splitOn ',' (unbraced name.toList)) := rfl

theorem trimmedStretches_append (front back : List (List Char)) :
    trimmedStretches (front ++ back) = trimmedStretches front ++ trimmedStretches back := by
  simp only [trimmedStretches, List.map_append, List.filter_append]

theorem unbraced_append (front back : List Char) :
    unbraced (front ++ back) = unbraced front ++ unbraced back :=
  List.filter_append _ _

theorem not_mem_unbraced (cs : List Char) : '\x7b' ∉ unbraced cs ∧ '\x7d' ∉ unbraced cs := by
  simp [unbraced]

theorem unbraced_eq_self {cs : List Char} (h : '\x7b' ∉ cs ∧ '\x7d' ∉ cs) : unbraced cs = cs := by
  refine List.filter_eq_self.mpr fun c hc => ?_
  have hopening : c ≠ '\x7b' := fun heq => h.1 (heq ▸ hc)
  have hclosing : c ≠ '\x7d' := fun heq => h.2 (heq ▸ hc)
  simp [hopening, hclosing]

/-! ## The form of a piece -/

theorem isPiece_of_mem_pieces {name piece : String} (h : piece ∈ pieces name) : IsPiece piece := by
  rw [pieces_eq_trimmedStretches] at h
  obtain ⟨cs, hcs, rfl⟩ := List.mem_map.mp h
  obtain ⟨hmem, hnonempty⟩ := List.mem_filter.mp hcs
  obtain ⟨stretch, hstretch, rfl⟩ := List.mem_map.mp hmem
  have hsource {c : Char} (hc : c ∈ Text.trimList stretch) :
      c ∈ unbraced name.toList ∧ c ≠ ',' :=
    Text.exists_mem_splitOn_iff.mp ⟨stretch, hstretch, Text.mem_of_mem_trimList hc⟩
  obtain ⟨hopening, hclosing⟩ := not_mem_unbraced name.toList
  constructor
  · intro hempty
    rw [← String.toList_eq_nil_iff, String.toList_ofList] at hempty
    simp [hempty] at hnonempty
  · rw [String.toList_ofList]
    exact ⟨fun hc => hopening (hsource hc).1, fun hc => hclosing (hsource hc).1⟩
  · rw [String.toList_ofList]
    exact fun hc => (hsource hc).2 rfl
  · rw [String.toList_ofList]
    exact Text.isTrimmed_trimList stretch

/-- What has the form of a piece is its own only piece. -/
theorem IsPiece.pieces_eq {name : String} (h : IsPiece name) : pieces name = [name] := by
  have hnonempty : name.toList.isEmpty = false := by
    rw [List.isEmpty_eq_false_iff, Ne, String.toList_eq_nil_iff]
    exact h.nonempty
  rw [pieces_eq_trimmedStretches, unbraced_eq_self h.unbraced, Text.splitOn_of_not_mem h.undivided,
    trimmedStretches, List.map_singleton, h.trimmed.trimList_eq, List.filter_singleton, hnonempty]
  simp

/-! ## Pieces of names put together -/

theorem pieces_comma (front back : String) :
    pieces (front ++ "," ++ back) = pieces front ++ pieces back := by
  have hchars : (front ++ "," ++ back).toList = front.toList ++ ',' :: back.toList := by
    simp [String.toList_append]
  have hcomma : unbraced (',' :: back.toList) = ',' :: unbraced back.toList :=
    List.filter_cons_of_pos (by decide)
  rw [pieces_eq_trimmedStretches, hchars, unbraced_append, hcomma, Text.splitOn_append,
    trimmedStretches_append]
  rfl

/-- A brace makes no difference wherever it stands. -/
theorem pieces_brace {brace : Char} (hbrace : brace = '\x7b' ∨ brace = '\x7d')
    (front back : String) :
    pieces (front ++ String.singleton brace ++ back) = pieces (front ++ back) := by
  have hnone : unbraced [brace] = [] := by
    rcases hbrace with rfl | rfl <;> decide
  simp only [pieces_eq_trimmedStretches, String.toList_append, String.toList_singleton,
    unbraced_append, hnone, List.append_nil]

/-- A blank in front makes no difference. -/
theorem pieces_blank {blank : Char} (hblank : Text.isBlank blank = true) (name : String) :
    pieces (String.singleton blank ++ name) = pieces name := by
  have hne {c : Char} (hc : Text.isBlank c = false) : blank ≠ c := by
    rintro rfl
    rw [hblank] at hc
    cases hc
  have hkept : unbraced (blank :: name.toList) = blank :: unbraced name.toList :=
    List.filter_cons_of_pos (by simp [hne (c := '\x7b') (by decide), hne (c := '\x7d') (by decide)])
  obtain ⟨stretch, stretches, hname, hcons⟩ :=
    Text.splitOn_cons_of_ne (hne (c := ',') (by decide)) (unbraced name.toList)
  rw [pieces_eq_trimmedStretches, String.toList_append, String.toList_singleton,
    List.singleton_append, hkept, hcons, pieces_eq_trimmedStretches, hname, trimmedStretches,
    trimmedStretches, List.map_cons, List.map_cons, Text.trimList_cons hblank]

/-- Joined names have the pieces of each, if two of them have. -/
theorem pieces_intercalate {between : String}
    (h : ∀ front back, pieces (front ++ between ++ back) = pieces front ++ pieces back)
    (names : List String) : pieces (between.intercalate names) = names.flatMap pieces := by
  induction names with
  | nil => rfl
  | cons name rest ih =>
    cases rest with
    | nil => rw [String.intercalate_singleton, List.flatMap_singleton]
    | cons next rest =>
      rw [String.intercalate_cons_cons, h, ih]
      rfl

theorem pieces_comma_blank (front back : String) :
    pieces (front ++ ", " ++ back) = pieces front ++ pieces back := by
  have hsplit : front ++ ", " ++ back = front ++ "," ++ (String.singleton ' ' ++ back) := by
    rw [show ", " = "," ++ String.singleton ' ' from rfl]
    simp only [String.append_assoc]
  rw [hsplit, pieces_comma, pieces_blank (by decide)]

theorem flatMap_pieces {names : List String} (h : ∀ name ∈ names, IsPiece name) :
    names.flatMap pieces = names := by
  calc names.flatMap pieces = names.flatMap ([·]) :=
        List.flatMap_congr fun name hname => (h name hname).pieces_eq
    _ = names := by simp

/-- The pieces of a name are found again when they are joined by a separator that cuts. -/
theorem pieces_rejoined {between : String}
    (h : ∀ front back, pieces (front ++ between ++ back) = pieces front ++ pieces back)
    (name : String) : pieces (between.intercalate (pieces name)) = pieces name := by
  rw [pieces_intercalate h, flatMap_pieces fun piece => isPiece_of_mem_pieces]

/-- Every piece has the form of one. A comma between two names separates their pieces and a brace
between two parts of a name does nothing. The pieces of a name are found again when they are joined
by commas, with a blank behind each or not, and each piece is its own only one. -/
theorem pieces_cut_and_rejoin (a b : String) :
    (∀ piece ∈ pieces a, IsPiece piece) ∧
    pieces (a ++ "," ++ b) = pieces a ++ pieces b ∧
    (pieces (a ++ "\x7b" ++ b) = pieces (a ++ b) ∧ pieces (a ++ "\x7d" ++ b) = pieces (a ++ b)) ∧
    pieces (",".intercalate (pieces a)) = pieces a ∧
    pieces (", ".intercalate (pieces a)) = pieces a ∧
    ∀ piece ∈ pieces a, pieces piece = [piece] :=
  ⟨fun _ => isPiece_of_mem_pieces, pieces_comma a b,
    ⟨pieces_brace (.inl rfl) a b, pieces_brace (.inr rfl) a b⟩,
    pieces_rejoined pieces_comma a, pieces_rejoined pieces_comma_blank a,
    fun _ h => (isPiece_of_mem_pieces h).pieces_eq⟩

/-- A name with braces between blanks and commas, and a blank beyond ASCII. -/
theorem pieces_cut_and_rejoin_sample :
    pieces "\x7b a ,\x7d\u2003b\x7b , " = ["a", "b"] ∧ IsPiece "a" ∧ pieces "b" = ["b"] := by
  have hpieces : pieces "\x7b a ,\x7d\u2003b\x7b , " = ["a", "b"] := by decide +kernel
  obtain ⟨hform, -, -, -, -, hown⟩ := pieces_cut_and_rejoin "\x7b a ,\x7d\u2003b\x7b , " ""
  rw [hpieces] at hform hown
  exact ⟨hpieces, hform "a" (by simp), hown "b" (by simp)⟩

end PackageUsage
