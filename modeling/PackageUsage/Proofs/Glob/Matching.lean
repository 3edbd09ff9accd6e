import Mathlib.Data.List.Chain
import PackageUsage.Proofs.Glob
import PackageUsage.Proofs.Path.Names
import PackageUsage.Proofs.Regex
import PackageUsage.Proofs.Text.Bytes

/-!
# What globs accept

A glob accepts a path if its expression matches the bytes of the path: there are no assertions in
it, and the places that are computed along the path stand for words. Where no two stars meet and
neither classes nor alternatives are opened, the tokens of a text are those of its characters, and
what they match is told token by token.
-/

namespace PackageUsage

namespace Glob

/-! ## Texts that are read character by character -/

/-- The token of a character that stands by itself. -/
def tokenOf (c : Char) : Token :=
  if c = '?' then .any else if c = '*' then .zeroOrMore else .literal c

/-- The tokens of a text that is read character by character. -/
def tokensOf (text : String) : List Token :=
  text.toList.map tokenOf

/-- A text is read character by character: it opens no class and no alternatives, it escapes
nothing, and no star follows another one. -/
structure ReadsPlainly (cs : List Char) : Prop where
  plain : ∀ c ∈ cs, isPlain c = true
  apart : cs.IsChain fun c d => c = '*' → d ≠ '*'

theorem step_of_isPlain {r : Reading} {c : Char} {rest : List Char} (hc : isPlain c = true)
    (hr : r.groups = []) (hstar : c = '*' → rest.head? ≠ some '*') :
    r.step false c rest = .ok (r.add c [tokenOf c], rest) := by
  unfold Reading.step
  split
  · rfl
  · have hsingle : r.star rest = (r.add '*' [.zeroOrMore], rest) := by
      unfold Reading.star
      split
      · exact absurd rfl (hstar rfl)
      · rfl
    rw [hsingle]
    rfl
  · cases hc
  · cases hc
  · cases hc
  · rw [hr]
    rfl
  · cases hc
  · next hany hstar _ _ _ _ _ =>
    rw [tokenOf, if_neg hany, if_neg hstar]

theorem readFrom_of_readsPlainly {cs : List Char} (h : ReadsPlainly cs) {fuel : Nat}
    (hfuel : cs.length ≤ fuel) {r : Reading} (hr : r.groups = []) :
    readFrom false fuel r cs = .ok (r.tokens.reverse ++ cs.map tokenOf) := by
  induction cs generalizing fuel r with
  | nil => cases fuel <;> simp [readFrom, hr]
  | cons c cs ih =>
    cases fuel with
    | zero => cases hfuel
    | succ fuel =>
      obtain ⟨hc, hcs⟩ := List.forall_mem_cons.mp h.plain
      obtain ⟨hhead, hapart⟩ := List.isChain_cons.mp h.apart
      have hstar : c = '*' → cs.head? ≠ some '*' := by
        intro heq hnext
        exact hhead '*' hnext heq rfl
      rw [readFrom, step_of_isPlain hc hr hstar]
      have hrest := ih ⟨hcs, hapart⟩ (Nat.le_of_succ_le_succ hfuel) (r := r.add c [tokenOf c]) hr
      refine hrest.trans ?_
      simp [Reading.add]

theorem ofText_of_readsPlainly {text : String} (h : ReadsPlainly text.toList) :
    ofText false text = .ok ⟨tokensOf text⟩ := by
  unfold ofText
  rw [readFrom_of_readsPlainly h (Nat.le_of_eq String.length_toList) rfl]
  rfl

theorem ofText_below {text : String} (h : ReadsPlainly text.toList) :
    ofText false ("**/" ++ text) = .ok ⟨.leadingSegments :: tokensOf text⟩ := by
  have hstar (fuel : Nat) : readFrom false (fuel + 1) {} ('*' :: '*' :: '/' :: text.toList) =
      readFrom false fuel (Reading.add {} '/' [.leadingSegments]) text.toList := rfl
  have hlength : ("**/" ++ text).length = (text.toList.length + 2) + 1 := by
    rw [String.length_append, String.length_toList, Nat.add_comm]
    rfl
  have hchars : ("**/" ++ text).toList = '*' :: '*' :: '/' :: text.toList := String.toList_append
  unfold ofText
  rw [hlength, hchars, hstar, readFrom_of_readsPlainly h (Nat.le_add_right _ 2) rfl]
  rfl

/-! ## Bytes -/

theorem contains_anyByte_iff {c : Char} :
    (Unicode.Ranges.between 0 255).contains c = true ↔ c.toNat ≤ 255 := by
  simp [Unicode.Ranges.contains, Unicode.Ranges.containsNat, Unicode.Ranges.between,
    Unicode.Ranges.search]

/-- The bytes that may stand within a segment. -/
def IsSegmentByte (c : Char) : Prop :=
  c.toNat ≤ 255 ∧ c ≠ '/'

theorem contains_segmentByte_iff {c : Char} :
    Unicode.Ranges.contains ⟨#[(0, 0x2E), (0x30, 255)]⟩ c = true ↔ IsSegmentByte c := by
  have hslash : c ≠ '/' ↔ c.toNat ≠ 0x2F := (Char.toNat_inj (c := c) (d := '/')).symm.not
  rw [IsSegmentByte, hslash]
  simp [Unicode.Ranges.contains, Unicode.Ranges.containsNat, Unicode.Ranges.search]
  split <;> omega

theorem toNat_le_of_mem_bytes {path : String} {c : Char} (h : c ∈ bytes path) : c.toNat ≤ 255 := by
  obtain ⟨d, -, hd⟩ := List.mem_flatMap.mp h
  obtain ⟨b, -, rfl⟩ := List.mem_map.mp hd
  have hlt := b.toNat_lt
  rw [Char.ofNat, dif_pos (Or.inl (by omega))]
  exact Nat.le_of_lt_succ hlt

theorem bytes_append (a b : String) : bytes (a ++ b) = bytes a ++ bytes b := by
  rw [bytes, String.toList_append, List.flatMap_append]
  rfl

theorem slash_mem_bytesOf_iff {c : Char} : '/' ∈ bytesOf c ↔ c = '/' := by
  constructor
  · intro h
    obtain ⟨b, hb, heq⟩ := List.mem_map.mp h
    have hlt := b.toNat_lt
    have hnumber : b.toNat = 0x2F := by
      have hof := congrArg Char.toNat heq
      rwa [Char.ofNat, dif_pos (Or.inl (by omega))] at hof
    have hc := Text.eq_of_mem_utf8EncodeChar hb (by omega)
    exact Char.toNat_inj.mp (hc.trans hnumber)
  · rintro rfl
    exact List.mem_singleton_self '/'

theorem slash_mem_bytes_iff {text : String} : '/' ∈ bytes text ↔ '/' ∈ text.toList := by
  rw [bytes, List.mem_flatMap]
  constructor
  · rintro ⟨c, hc, hslash⟩
    rwa [slash_mem_bytesOf_iff.mp hslash] at hc
  · intro h
    exact ⟨'/', h, slash_mem_bytesOf_iff.mpr rfl⟩

/-! ## The words of tokens -/

/-- Tokens in a row match some bytes. -/
def MatchAll (ts : List Token) (w : List Char) : Prop :=
  (Regex.seqAll (tokenRegexes ts)).Matches w

variable {ts us : List Token} {t : Token} {c : Char} {w : List Char}

theorem matchAll_nil_iff : MatchAll [] w ↔ w = [] :=
  Iff.rfl

theorem matchAll_cons_iff :
    MatchAll (t :: ts) w ↔ ∃ u v, t.regex.Matches u ∧ MatchAll ts v ∧ w = u ++ v := by
  rw [MatchAll, tokenRegexes, Regex.matches_seqAll_cons_iff]
  rfl

theorem tokenRegexes_append : tokenRegexes (ts ++ us) = tokenRegexes ts ++ tokenRegexes us := by
  induction ts with
  | nil => rfl
  | cons t ts ih => rw [List.cons_append, tokenRegexes, tokenRegexes, ih, List.cons_append]

theorem matchAll_append_iff :
    MatchAll (ts ++ us) w ↔ ∃ u v, MatchAll ts u ∧ MatchAll us v ∧ w = u ++ v := by
  rw [MatchAll, tokenRegexes_append, Regex.matches_seqAll_append_iff]
  rfl

theorem matches_literal_iff : (Token.literal c).regex.Matches w ↔ w = bytesOf c := by
  rw [Token.regex, exactly, List.flatMap_singleton]
  induction bytesOf c generalizing w with
  | nil => exact Iff.rfl
  | cons b bs ih =>
    rw [List.map_cons, Regex.matches_seqAll_cons_iff]
    constructor
    · rintro ⟨u, v, hu, hv, rfl⟩
      obtain rfl : u = [b] := hu
      rw [ih.mp hv]
      rfl
    · rintro rfl
      exact ⟨[b], bs, rfl, ih.mpr rfl, rfl⟩

theorem matches_any_iff : Token.any.regex.Matches w ↔ ∃ b, IsSegmentByte b ∧ w = [b] := by
  rw [Token.regex, segmentByte, Regex.Matches]
  exact exists_congr fun b => and_congr_left fun _ => contains_segmentByte_iff

theorem matches_star_set_iff {chars : Unicode.Ranges} :
    (star (.set chars)).Matches w ↔ ∀ b ∈ w, chars.contains b = true := by
  rw [star, Regex.Matches]
  constructor
  · rintro ⟨parts, -, -, hparts, rfl⟩ b hb
    obtain ⟨part, hpart, hb⟩ := List.mem_flatten.mp hb
    obtain ⟨d, hd, rfl⟩ := hparts part hpart
    rwa [List.mem_singleton.mp hb]
  · intro h
    refine ⟨w.map fun b => [b], Nat.zero_le _, fun _ hm => absurd hm (Option.not_mem_none _), ?_, ?_⟩
    · intro part hpart
      obtain ⟨b, hb, rfl⟩ := List.mem_map.mp hpart
      exact ⟨b, h b hb, rfl⟩
    · rw [← List.flatMap_def, List.flatMap_singleton']

theorem matches_zeroOrMore_iff :
    Token.zeroOrMore.regex.Matches w ↔ ∀ b ∈ w, IsSegmentByte b := by
  rw [Token.regex, segmentByte, matches_star_set_iff]
  exact forall₂_congr fun b _ => contains_segmentByte_iff

/-- Leading segments are nothing, or any bytes up to a separator. -/
theorem matches_leadingSegments_iff :
    Token.leadingSegments.regex.Matches w ↔
      w = [] ∨ ∃ v, (∀ b ∈ v, b.toNat ≤ 255) ∧ w = v ++ ['/'] := by
  have hany (v : List Char) : (star anyByte).Matches v ↔ ∀ b ∈ v, b.toNat ≤ 255 := by
    rw [anyByte, matches_star_set_iff]
    exact forall₂_congr fun b _ => contains_anyByte_iff
  rw [Token.regex, Regex.Matches]
  constructor
  · rintro (⟨parts, -, hcount, hparts, rfl⟩ | ⟨v, _, hv, rfl, rfl⟩)
    · -- at most one separator, and nothing before it
      have hlength := hcount 1 rfl
      rcases parts with _ | ⟨part, _ | ⟨_, _⟩⟩
      · exact Or.inl rfl
      · obtain rfl : part = ['/'] := hparts part List.mem_cons_self
        exact Or.inr ⟨[], fun _ hb => absurd hb List.not_mem_nil, rfl⟩
      · simp at hlength
    · exact Or.inr ⟨v, (hany v).mp hv, rfl⟩
  · rintro (rfl | ⟨v, hv, rfl⟩)
    · exact Or.inl ⟨[], Nat.zero_le _, fun _ _ => Nat.zero_le _,
        fun _ hpart => absurd hpart List.not_mem_nil, rfl⟩
    · exact Or.inr ⟨v, ['/'], (hany v).mpr hv, rfl, rfl⟩

theorem matchAll_literals_iff {cs : List Char} :
    MatchAll (cs.map .literal) w ↔ w = cs.flatMap bytesOf := by
  induction cs generalizing w with
  | nil => exact matchAll_nil_iff
  | cons c cs ih =>
    rw [List.map_cons, matchAll_cons_iff, List.flatMap_cons]
    simp only [matches_literal_iff, ih]
    constructor
    · rintro ⟨u, v, rfl, rfl, hw⟩
      exact hw
    · intro hw
      exact ⟨_, _, rfl, rfl, hw⟩

/-! ## The expressions of globs -/

mutual

theorem isPlain_regex : ∀ t : Token, t.regex.isPlain = true
  | .literal c => by
    rw [Token.regex, exactly]
    apply Regex.isPlain_seqAll
    intro e he
    obtain ⟨b, -, rfl⟩ := List.mem_map.mp he
    rfl
  | .any | .zeroOrMore | .leadingSegments | .trailingSegments | .innerSegments => rfl
  | .set negated ranges => rfl
  | .alternatives branches => by
    have hbranches := isPlain_branchRegexes branches
    rw [Token.regex]
    split
    · rfl
    · next e rest heq =>
      rw [heq] at hbranches
      obtain ⟨he, hrest⟩ := List.forall_mem_cons.mp hbranches
      exact Regex.isPlain_altAll he hrest

theorem isPlain_tokenRegexes : ∀ ts : List Token, ∀ e ∈ tokenRegexes ts, e.isPlain = true
  | [] => by
    rw [tokenRegexes]
    exact fun _ he => absurd he List.not_mem_nil
  | t :: ts => by
    rw [tokenRegexes]
    exact List.forall_mem_cons.mpr ⟨isPlain_regex t, isPlain_tokenRegexes ts⟩

theorem isPlain_branchRegexes :
    ∀ branches : List (List Token), ∀ e ∈ branchRegexes branches, e.isPlain = true
  | [] => by
    rw [branchRegexes]
    exact fun _ he => absurd he List.not_mem_nil
  | ts :: rest => by
    rw [branchRegexes]
    split
    · exact isPlain_branchRegexes rest
    · exact List.forall_mem_cons.mpr
        ⟨Regex.isPlain_seqAll (isPlain_tokenRegexes ts), isPlain_branchRegexes rest⟩

end

/-- What a glob accepts: the paths that its expression matches byte by byte, except a path with a dot
at its end where the last name decides. -/
theorem accepts_iff (g : Glob) (path : String) :
    g.accepts path = true ↔
      (g.isByName && path.endsWith ".") = false ∧ g.regex.Matches (bytes path) := by
  have hplain : g.regex.isPlain = true := by
    unfold regex
    split
    · rfl
    · exact Regex.isPlain_seqAll (isPlain_tokenRegexes g.tokens)
  have hends : (g.regex.ends (bytes path).toArray [0]).contains (bytes path).toArray.size = true ↔
      g.regex.Matches (bytes path) := by
    rw [List.contains_iff_mem, Regex.size_mem_ends_iff hplain]
  unfold accepts
  dsimp only
  rw [← hends]
  cases g.isByName && path.endsWith "." <;> simp

theorem accepts_iff_matchAll {g : Glob} {path : String} (hdot : path.endsWith "." = false)
    (h : g.tokens ≠ [.leadingSegments]) :
    g.accepts path = true ↔ MatchAll g.tokens (bytes path) := by
  have hregex : g.regex = Regex.seqAll (tokenRegexes g.tokens) := by
    unfold regex
    split
    · next heq => exact absurd heq h
    · rfl
  rw [accepts_iff, hdot, Bool.and_false, hregex]
  exact and_iff_right rfl

end Glob

end PackageUsage
