import Mathlib.Data.List.Basic
import Mathlib.Data.List.TakeWhile
import PackageUsage.Text.Blank

/-!
# Cutting and trimming

The pieces between the separators of a text hold all its other characters, there is one more of them
than separators, and pieces without separators are told apart again when they have been joined.
Trimming leaves nothing of a text exactly if it is blank; what it leaves has no blank at its ends
and is left as it is when it is trimmed again.
-/

namespace PackageUsage.Text

variable {sep : Char} {cs : List Char}

/-! ## Cutting -/

theorem splitOn_ne_nil (sep : Char) (cs : List Char) : splitOn sep cs ≠ [] := by
  cases cs with
  | nil => exact List.cons_ne_nil _ _
  | cons c cs =>
    rw [splitOn]
    split
    · exact List.cons_ne_nil _ _
    · cases splitOn sep cs with
      | nil => exact List.cons_ne_nil _ _
      | cons piece pieces => exact List.cons_ne_nil _ _

/-- A character that is no separator belongs to the first piece. -/
theorem splitOn_cons_of_ne {c : Char} (hc : c ≠ sep) (cs : List Char) :
    ∃ piece pieces, splitOn sep cs = piece :: pieces ∧
      splitOn sep (c :: cs) = (c :: piece) :: pieces := by
  obtain ⟨piece, pieces, hcs⟩ := List.exists_cons_of_ne_nil (splitOn_ne_nil sep cs)
  exact ⟨piece, pieces, hcs, by simp [splitOn, hcs, hc]⟩

theorem splitOn_cons_self (sep : Char) (cs : List Char) :
    splitOn sep (sep :: cs) = [] :: splitOn sep cs := by
  simp [splitOn]

theorem splitOn_append (sep : Char) (cs ds : List Char) :
    splitOn sep (cs ++ sep :: ds) = splitOn sep cs ++ splitOn sep ds := by
  induction cs with
  | nil => exact splitOn_cons_self sep ds
  | cons c cs ih =>
    by_cases hc : c = sep
    · rw [hc, List.cons_append, splitOn_cons_self, splitOn_cons_self, ih, List.cons_append]
    · obtain ⟨piece, pieces, hcs, hcons⟩ := splitOn_cons_of_ne hc cs
      obtain ⟨first, rest, hall, hcons'⟩ := splitOn_cons_of_ne hc (cs ++ sep :: ds)
      rw [ih, hcs, List.cons_append] at hall
      obtain ⟨rfl, rfl⟩ := List.cons.inj hall
      rw [List.cons_append, hcons', hcons, List.cons_append]

theorem splitOn_of_not_mem (h : sep ∉ cs) : splitOn sep cs = [cs] := by
  induction cs with
  | nil => rfl
  | cons c cs ih =>
    rw [List.mem_cons, not_or] at h
    rw [splitOn, ih h.2, if_neg (by simpa using Ne.symm h.1)]

theorem length_splitOn (sep : Char) (cs : List Char) :
    (splitOn sep cs).length = cs.count sep + 1 := by
  induction cs with
  | nil => rfl
  | cons c cs ih =>
    by_cases hc : c = sep
    · rw [hc, splitOn_cons_self, List.length_cons, ih, List.count_cons_self]
    · obtain ⟨piece, pieces, hcs, hcons⟩ := splitOn_cons_of_ne hc cs
      rw [hcs] at ih
      rw [hcons, List.count_cons_of_ne hc, ← ih]
      rfl

/-- The pieces together are the text without its separators. -/
theorem flatten_splitOn (sep : Char) (cs : List Char) :
    (splitOn sep cs).flatten = cs.filter (· ≠ sep) := by
  induction cs with
  | nil => rfl
  | cons c cs ih =>
    by_cases hc : c = sep
    · rw [hc, splitOn_cons_self, List.flatten_cons, List.nil_append, ih,
        List.filter_cons_of_neg (by simp)]
    · obtain ⟨piece, pieces, hcs, hcons⟩ := splitOn_cons_of_ne hc cs
      rw [hcons, List.flatten_cons, List.cons_append, ← List.flatten_cons, ← hcs, ih,
        List.filter_cons_of_pos (by simpa using hc)]

theorem exists_mem_splitOn_iff {c : Char} :
    (∃ piece ∈ splitOn sep cs, c ∈ piece) ↔ c ∈ cs ∧ c ≠ sep := by
  rw [← List.mem_flatten, flatten_splitOn, List.mem_filter, decide_eq_true_iff]

/-! ## Joining -/

/-- The texts between the separators of a text. -/
def cut (sep : Char) (text : String) : List String :=
  (splitOn sep text.toList).map String.ofList

theorem cut_append (sep : Char) (text more : String) :
    cut sep (text ++ String.singleton sep ++ more) = cut sep text ++ cut sep more := by
  have hchars : (text ++ String.singleton sep ++ more).toList =
      text.toList ++ sep :: more.toList := by
    simp
  rw [cut, hchars, splitOn_append, List.map_append]
  rfl

theorem cut_of_not_mem {text : String} (h : sep ∉ text.toList) : cut sep text = [text] := by
  rw [cut, splitOn_of_not_mem h, List.map_singleton, String.ofList_toList]

/-- Joined texts are cut into the pieces of each. -/
theorem cut_intercalate {texts : List String} (hne : texts ≠ []) :
    cut sep ((String.singleton sep).intercalate texts) = texts.flatMap (cut sep) := by
  induction texts with
  | nil => exact absurd rfl hne
  | cons text rest ih =>
    cases rest with
    | nil => rw [String.intercalate_singleton, List.flatMap_singleton]
    | cons next rest =>
      rw [String.intercalate_cons_cons, cut_append, ih (List.cons_ne_nil next rest)]
      rfl

theorem not_mem_of_mem_cut {text piece : String} (h : piece ∈ cut sep text) :
    sep ∉ piece.toList := by
  obtain ⟨cs, hcs, rfl⟩ := List.mem_map.mp h
  rw [String.toList_ofList]
  intro hmem
  exact (exists_mem_splitOn_iff.mp ⟨cs, hcs, hmem⟩).2 rfl

/-- Texts are told apart again if none of them holds a separator. -/
theorem cut_intercalate_eq_iff {texts : List String} (hne : texts ≠ []) :
    cut sep ((String.singleton sep).intercalate texts) = texts ↔
      ∀ text ∈ texts, sep ∉ text.toList := by
  constructor
  · intro h text htext
    rw [← h] at htext
    exact not_mem_of_mem_cut htext
  · intro h
    rw [cut_intercalate hne]
    calc texts.flatMap (cut sep) = texts.flatMap ([·]) :=
          List.flatMap_congr fun text htext => cut_of_not_mem (h text htext)
      _ = texts := by simp

theorem length_cut (sep : Char) (text : String) :
    (cut sep text).length = text.toList.count sep + 1 := by
  rw [cut, List.length_map, length_splitOn]

/-- Joined texts are cut into as many pieces as there are texts if none of them holds a
separator. -/
theorem length_cut_intercalate_eq_iff {texts : List String} (hne : texts ≠ []) :
    (cut sep ((String.singleton sep).intercalate texts)).length = texts.length ↔
      ∀ text ∈ texts, sep ∉ text.toList := by
  have hlength : (texts.flatMap (cut sep)).length =
      (texts.map fun text => text.toList.count sep).sum + texts.length := by
    clear hne
    induction texts with
    | nil => rfl
    | cons text texts ih =>
      rw [List.flatMap_cons, List.length_append, length_cut, ih, List.map_cons, List.sum_cons,
        List.length_cons]
      omega
  rw [cut_intercalate hne, hlength, Nat.add_eq_right, List.sum_eq_zero_iff_forall_eq_nat,
    List.forall_mem_map]
  simp only [List.count_eq_zero]

/-- The characters of joined texts are theirs and those of the separator. -/
theorem mem_intercalate {c : Char} {between : String} {texts : List String}
    (h : c ∈ (between.intercalate texts).toList) :
    c ∈ between.toList ∨ ∃ text ∈ texts, c ∈ text.toList := by
  induction texts with
  | nil => cases h
  | cons text rest ih =>
    cases rest with
    | nil =>
      rw [String.intercalate_singleton] at h
      exact .inr ⟨text, List.mem_cons_self, h⟩
    | cons next rest =>
      rw [String.intercalate_cons_cons] at h
      simp only [String.toList_append, List.mem_append] at h
      rcases h with (h | h) | h
      · exact .inr ⟨text, List.mem_cons_self, h⟩
      · exact .inl h
      · rcases ih h with hbetween | ⟨more, hmore, hc⟩
        · exact .inl hbetween
        · exact .inr ⟨more, List.mem_cons_of_mem _ hmore, hc⟩

/-! ## Trimming -/

theorem trimRight_eq_nil_iff : trimRight cs = [] ↔ ∀ c ∈ cs, isBlank c = true := by
  simp [trimRight, List.dropWhile_eq_nil_iff]

theorem trimList_eq_nil_iff : trimList cs = [] ↔ ∀ c ∈ cs, isBlank c = true := by
  rw [trimList, trimRight_eq_nil_iff]
  constructor
  · intro h c hc
    rw [← List.takeWhile_append_dropWhile (p := isBlank) (l := cs)] at hc
    rcases List.mem_append.mp hc with hfront | hrest
    · exact List.all_eq_true.mp List.all_takeWhile c hfront
    · exact h c hrest
  · intro h c hc
    exact h c ((List.dropWhile_sublist _).subset hc)

theorem mem_of_mem_trimList {c : Char} (h : c ∈ trimList cs) : c ∈ cs := by
  rw [trimList, trimRight, List.mem_reverse] at h
  have hleft : c ∈ trimLeft cs := List.mem_reverse.mp ((List.dropWhile_sublist _).subset h)
  exact (List.dropWhile_sublist _).subset hleft

theorem head?_trimLeft {c : Char} (h : (trimLeft cs).head? = some c) : isBlank c = false := by
  unfold trimLeft at h
  have hfirst := List.head?_dropWhile_not isBlank cs
  rw [h] at hfirst
  exact hfirst

theorem getLast?_trimRight {c : Char} (h : (trimRight cs).getLast? = some c) :
    isBlank c = false := by
  rw [trimRight, List.getLast?_reverse] at h
  exact head?_trimLeft h

theorem trimRight_of_getLast? {c : Char} (h : cs.getLast? = some c) (hc : isBlank c = false) :
    trimRight cs = cs := by
  rw [← List.head?_reverse] at h
  obtain ⟨rest, hreverse⟩ := List.head?_eq_some_iff.mp h
  rw [trimRight, hreverse, List.dropWhile_cons_of_neg (by simp [hc]), ← hreverse,
    List.reverse_reverse]

theorem trimRight_prefix (cs : List Char) : trimRight cs <+: cs := by
  rw [← List.reverse_suffix, trimRight, List.reverse_reverse]
  exact List.dropWhile_suffix _

/-- No blank stands at either end of a list. -/
structure IsTrimmed (cs : List Char) : Prop where
  head : ∀ c, cs.head? = some c → isBlank c = false
  last : ∀ c, cs.getLast? = some c → isBlank c = false

theorem isTrimmed_trimList (cs : List Char) : IsTrimmed (trimList cs) where
  head c h := by
    obtain ⟨rest, hrest⟩ := List.head?_eq_some_iff.mp h
    obtain ⟨after, hleft⟩ := trimRight_prefix (trimLeft cs)
    rw [← trimList, hrest] at hleft
    exact head?_trimLeft (by rw [← hleft]; rfl)
  last _ h := getLast?_trimRight h

theorem IsTrimmed.trimList_eq (h : IsTrimmed cs) : trimList cs = cs := by
  cases cs with
  | nil => rfl
  | cons c rest =>
    have hleft : trimLeft (c :: rest) = c :: rest :=
      List.dropWhile_cons_of_neg (by simp [h.head c rfl])
    have hlast := List.getLast?_eq_some_getLast (List.cons_ne_nil c rest)
    rw [trimList, hleft, trimRight_of_getLast? hlast (h.last _ hlast)]

theorem trimList_cons {c : Char} (hc : isBlank c = true) (cs : List Char) :
    trimList (c :: cs) = trimList cs := by
  rw [trimList, trimLeft, List.dropWhile_cons_of_pos hc]
  rfl

theorem trimLeft_append {before : List Char} (h : ∀ c ∈ before, isBlank c = true) :
    trimLeft (before ++ cs) = trimLeft cs :=
  List.dropWhile_append_of_pos h

theorem trimRight_append {after : List Char} (h : ∀ c ∈ after, isBlank c = true) :
    trimRight (cs ++ after) = trimRight cs := by
  rw [trimRight, List.reverse_append, List.dropWhile_append_of_pos, trimRight]
  intro c hc
  exact h c (List.mem_reverse.mp hc)

theorem trimRight_cons {c : Char} (hc : isBlank c = false) (cs : List Char) :
    trimRight (c :: cs) = c :: trimRight cs := by
  have hself : [c].dropWhile isBlank = [c] := List.dropWhile_cons_of_neg (by simp [hc])
  rw [trimRight, trimRight, List.reverse_cons, List.dropWhile_append, hself]
  split
  · next hempty => simp [List.isEmpty_iff.mp hempty]
  · simp

/-- Blanks around a text do not matter. -/
theorem trimList_padded {before after : List Char} (hbefore : ∀ c ∈ before, isBlank c = true)
    (hafter : ∀ c ∈ after, isBlank c = true) :
    trimList (before ++ cs ++ after) = trimList cs := by
  rw [List.append_assoc, trimList, trimLeft_append hbefore, trimLeft, List.dropWhile_append]
  split
  · next hempty =>
    have hblank : after.dropWhile isBlank = [] := by
      simpa [List.dropWhile_eq_nil_iff] using hafter
    rw [trimList, trimLeft, List.isEmpty_iff.mp hempty, hblank]
  · exact trimRight_append hafter

end PackageUsage.Text
