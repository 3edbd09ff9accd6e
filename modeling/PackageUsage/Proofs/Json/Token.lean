import Mathlib.Algebra.Group.Int.Defs
import Mathlib.Algebra.Group.Nat.Defs
import Mathlib.Tactic.SplitIfs
import PackageUsage.Json.Printer
import PackageUsage.Json.Reader

/-!
# Strings and numbers of JSON

Each token is read back from its spelling, whatever follows it; only what follows a number must not
continue it. No spelling holds a character below U+0020.
-/

namespace PackageUsage.Json

/-- The characters from U+0020 on. -/
def Shown (c : Char) : Prop :=
  32 ≤ c.toNat

instance : DecidablePred Shown := fun c =>
  inferInstanceAs (Decidable (32 ≤ c.toNat))

/-! ## Strings -/

theorem hexValue?_hexDigit {n : Nat} (h : n < 16) : hexValue? (hexDigit n) = some n := by
  have hall : ∀ n < 16, hexValue? (hexDigit n) = some n := by decide
  exact hall n h

theorem shown_hexDigit {n : Nat} (h : n < 16) : Shown (hexDigit n) := by
  have hall : ∀ n < 16, Shown (hexDigit n) := by decide
  exact hall n h

/-- The three ways to write a character inside a string: by a short escape, by its code, or as it
is. -/
inductive Escaped (c : Char) : List Char → Prop
  | short {x : Char} (hx : shortEscape? x = some c) (hshown : Shown x) (hu : x ≠ 'u') :
      Escaped c ['\\', x]
  | code (h : c.toNat < 32) :
      Escaped c ['\\', 'u', '0', '0', hexDigit (c.toNat / 16), hexDigit (c.toNat % 16)]
  | plain (hshown : Shown c) (hquote : c ≠ '"') (hslash : c ≠ '\\') : Escaped c [c]

theorem escaped_escapeChar (c : Char) : Escaped c (escapeChar c) := by
  have hcode {n : Nat} {x : Char} (h : c.toNat = n) (hx : shortEscape? x = some (Char.ofNat n)) :
      shortEscape? x = some c := by
    rw [hx, ← h, Char.ofNat_toNat]
  unfold escapeChar
  split_ifs with hquote hslash hline hreturn htab hback hfeed hcontrol
  · exact .short (by rw [hquote]; rfl) (by decide) (by decide)
  · exact .short (by rw [hslash]; rfl) (by decide) (by decide)
  · exact .short (by rw [hline]; rfl) (by decide) (by decide)
  · exact .short (by rw [hreturn]; rfl) (by decide) (by decide)
  · exact .short (by rw [htab]; rfl) (by decide) (by decide)
  · exact .short (hcode hback rfl) (by decide) (by decide)
  · exact .short (hcode hfeed rfl) (by decide) (by decide)
  · exact .code hcontrol
  · exact .plain (Nat.le_of_not_lt hcontrol) hquote hslash

theorem Escaped.shown {c d : Char} {spelling : List Char} (h : Escaped c spelling)
    (hd : d ∈ spelling) : Shown d := by
  cases h with
  | short _ hshown _ =>
    simp only [List.mem_cons, List.not_mem_nil, or_false] at hd
    rcases hd with rfl | rfl
    · decide
    · exact hshown
  | code hcontrol =>
    simp only [List.mem_cons, List.not_mem_nil, or_false] at hd
    rcases hd with rfl | rfl | rfl | rfl | rfl | rfl
    · decide
    · decide
    · decide
    · decide
    · exact shown_hexDigit (by omega)
    · exact shown_hexDigit (Nat.mod_lt _ (by decide))
  | plain hshown _ _ =>
    rw [List.mem_singleton.mp hd]
    exact hshown

theorem readUnicodeEscape_code {c : Char} (h : c.toNat < 32) (rest : List Char) :
    readUnicodeEscape ('0' :: '0' :: hexDigit (c.toNat / 16) :: hexDigit (c.toNat % 16) :: rest) =
      some (c, rest) := by
  have hzero : hexValue? '0' = some 0 := rfl
  have hhigh : hexValue? (hexDigit (c.toNat / 16)) = some (c.toNat / 16) :=
    hexValue?_hexDigit (by omega)
  have hlow : hexValue? (hexDigit (c.toNat % 16)) = some (c.toNat % 16) :=
    hexValue?_hexDigit (Nat.mod_lt _ (by decide))
  have hvalue : ((0 * 16 + 0) * 16 + c.toNat / 16) * 16 + c.toNat % 16 = c.toNat := by omega
  have hnotHigh : ¬ (0xD800 ≤ c.toNat ∧ c.toNat < 0xDC00) := by omega
  have hnotLow : ¬ (0xDC00 ≤ c.toNat ∧ c.toNat < 0xE000) := by omega
  simp only [readUnicodeEscape, readHex4, hzero, hhigh, hlow, hvalue, hnotHigh, hnotLow, if_false,
    Char.ofNat_toNat]

/-- A character is read back from each way to write it. -/
theorem Escaped.readStringChar_eq {c : Char} {spelling : List Char} (h : Escaped c spelling)
    (rest : List Char) :
    readStringChar (spelling ++ rest) = some (some c, rest) := by
  cases h with
  | @short x hx _ hu =>
    rw [List.cons_append, List.cons_append, List.nil_append, readStringChar, hx]
    · rfl
    · exact hu
  | code hcontrol =>
    simp only [List.cons_append, List.nil_append, readStringChar,
      readUnicodeEscape_code hcontrol rest, Option.map_some]
  | plain hshown hquote hslash =>
    rw [List.cons_append, List.nil_append, readStringChar, if_neg (Nat.not_lt.mpr hshown)]
    · exact hquote
    · intro _ hc
      exact absurd hc hslash
    · intro _ _ hc
      exact absurd hc hslash
    · intro hc
      exact absurd hc hslash

theorem Escaped.length_pos {c : Char} {spelling : List Char} (h : Escaped c spelling) :
    0 < spelling.length := by
  cases h <;> simp

/-- The inside of a string is read back up to its closing quote. -/
theorem readString_eq (s rest : List Char) (fuel : Nat)
    (h : (s.flatMap escapeChar).length < fuel) :
    readString fuel (s.flatMap escapeChar ++ '"' :: rest) = some (s, rest) := by
  induction s generalizing fuel with
  | nil =>
    obtain ⟨fuel, rfl⟩ : ∃ n, fuel = n + 1 := ⟨fuel - 1, by omega⟩
    rfl
  | cons c s ih =>
    obtain ⟨fuel, rfl⟩ : ∃ n, fuel = n + 1 := ⟨fuel - 1, by omega⟩
    have hpos := (escaped_escapeChar c).length_pos
    rw [List.flatMap_cons, List.length_append] at h
    rw [List.flatMap_cons, List.append_assoc]
    simp only [readString, (escaped_escapeChar c).readStringChar_eq, ih fuel (by omega),
      Option.map_some]

/-- A string literal is read back, once its opening quote has been taken off. -/
theorem readString_quote (s rest : List Char) :
    ∃ inside, quote s ++ rest = '"' :: inside ∧
      readString (inside.length + 1) inside = some (s, rest) := by
  refine ⟨s.flatMap escapeChar ++ '"' :: rest, by simp [quote], readString_eq s rest _ ?_⟩
  rw [List.length_append]
  omega

theorem shown_quote {s : List Char} {c : Char} (h : c ∈ quote s) : Shown c := by
  simp only [quote, List.cons_append, List.mem_cons, List.mem_append, List.mem_flatMap,
    List.not_mem_nil, or_false] at h
  rcases h with rfl | ⟨d, -, hd⟩ | rfl
  · decide
  · exact (escaped_escapeChar d).shown hd
  · decide

/-! ## Numbers -/

/-- What follows a number does not continue it. -/
def EndsNumber (rest : List Char) : Prop :=
  ∀ c ∈ rest.head?, c.isDigit = false ∧ c ≠ '.' ∧ c ≠ 'e' ∧ c ≠ 'E'

theorem readDigits_append {digits rest : List Char} (hdigits : ∀ c ∈ digits, c.isDigit = true)
    (hrest : ∀ c ∈ rest.head?, c.isDigit = false) :
    readDigits (digits ++ rest) = (digits, rest) := by
  have hnone : rest.takeWhile Char.isDigit = [] ∧ rest.dropWhile Char.isDigit = rest := by
    cases rest with
    | nil => exact ⟨rfl, rfl⟩
    | cons c rest => simp [hrest c rfl]
  rw [readDigits, List.takeWhile_append_of_pos hdigits, List.dropWhile_append_of_pos hdigits,
    hnone.1, hnone.2, List.append_nil]

theorem digitsValue_toDigits (n : Nat) : digitsValue (Nat.toDigits 10 n) = n := by
  have hfold : digitsValue (Nat.toDigits 10 n) = Nat.ofDigitChars 10 (Nat.toDigits 10 n) 0 := by
    rw [digitsValue, Nat.ofDigitChars_eq_foldl]
    congr 1
    funext sofar c
    rw [Nat.mul_comm]
    rfl
  rw [hfold, Nat.ofDigitChars_ten_toDigits]

theorem isDigit_toDigits {n : Nat} {c : Char} (h : c ∈ Nat.toDigits 10 n) : c.isDigit = true :=
  Nat.isDigit_of_mem_toDigits (by decide) (by decide) h

/-- Only zero is written with a leading zero. -/
theorem head?_toDigits {n : Nat} (h : 0 < n) : (Nat.toDigits 10 n).head? ≠ some '0' := by
  induction n using Nat.strongRecOn with
  | ind n ih =>
    rw [Nat.toDigits_eq_if (by decide)]
    split
    case isTrue hlt =>
      have hall : ∀ n < 10, 0 < n → [n.digitChar].head? ≠ some '0' := by decide
      exact hall n hlt h
    case isFalse hge =>
      have hhead := ih (n / 10) (by omega) (by omega)
      rw [List.head?_append]
      cases hdigits : (Nat.toDigits 10 (n / 10)).head? with
      | none => exact absurd (List.head?_eq_none_iff.mp hdigits) Nat.toDigits_ne_nil
      | some d => rwa [hdigits] at hhead

theorem no_leading_zero (n : Nat) :
    ¬ ((Nat.toDigits 10 n).length > 1 ∧ (Nat.toDigits 10 n).head? = some '0') := by
  rintro ⟨hlong, hzero⟩
  by_cases hn : 0 < n
  · exact head?_toDigits hn hzero
  · obtain rfl : n = 0 := by omega
    simp at hlong

/-- The digits of a number, whatever follows them that is no digit. -/
theorem readDigits_toDigits (n : Nat) {rest : List Char}
    (hrest : ∀ c ∈ rest.head?, c.isDigit = false) :
    readDigits (Nat.toDigits 10 n ++ rest) = (Nat.toDigits 10 n, rest) :=
  readDigits_append (fun _ => isDigit_toDigits) hrest

/-- A whole number that fits 64 bits, with its sign or without one. -/
def WholeFits (n : Int) : Prop :=
  -2 ^ 63 ≤ n ∧ n < 2 ^ 64

theorem readFraction_of_endsNumber {rest : List Char} (h : EndsNumber rest) :
    readFraction rest = some (none, rest) := by
  cases rest with
  | nil => rfl
  | cons c rest =>
    obtain ⟨-, hpoint, -⟩ := h c rfl
    rw [readFraction]
    intro _ hc
    exact hpoint (List.cons.inj hc).1

theorem readExponent_of_endsNumber {rest : List Char} (h : EndsNumber rest) :
    readExponent rest = some (none, rest) := by
  cases rest with
  | nil => rfl
  | cons c rest =>
    obtain ⟨-, -, hlower, hupper⟩ := h c rfl
    simp [readExponent, hlower, hupper]

/-- The digits of a whole number. -/
theorem readUnsigned_whole (negative : Bool) (n : Nat) {rest : List Char} (h : EndsNumber rest) :
    readUnsigned negative (Nat.toDigits 10 n ++ rest) =
      if (negative ∧ n ≤ Nat.pow 2 63 ∧ n ≠ 0) ∨ (¬ negative ∧ n < Nat.pow 2 64) then
        some (.int (if negative then -Int.ofNat n else Int.ofNat n), rest)
      else some (.decimal negative n 0, rest) := by
  have hdigits := readDigits_toDigits n fun c hc => (h c hc).1
  cases hn : Nat.toDigits 10 n with
  | nil => exact absurd hn Nat.toDigits_ne_nil
  | cons d ds =>
    rw [hn] at hdigits
    have hzero := no_leading_zero n
    have hvalue := digitsValue_toDigits n
    rw [hn] at hzero hvalue
    simp only [readUnsigned, hdigits, hzero, if_false, readFraction_of_endsNumber h,
      readExponent_of_endsNumber h, hvalue]

theorem toList_toString_nat (n : Nat) : (toString n).toList = Nat.toDigits 10 n := by
  rw [Nat.toString_eq_ofList_toDigits, String.toList_ofList]

theorem numberChars_ofNat (n : Nat) : numberChars (.int (.ofNat n)) = Nat.toDigits 10 n :=
  toList_toString_nat n

theorem numberChars_negSucc (n : Nat) :
    numberChars (.int (.negSucc n)) = '-' :: Nat.toDigits 10 (n + 1) := by
  have hsign : toString (Int.negSucc n) = "-" ++ toString (n + 1) := rfl
  rw [numberChars, hsign, String.toList_append, toList_toString_nat]
  rfl

/-- A whole number is read back. -/
theorem readNumber_numberChars {n : Int} (hn : WholeFits n) {rest : List Char}
    (h : EndsNumber rest) : readNumber (numberChars (.int n) ++ rest) = some (.int n, rest) := by
  obtain ⟨hlow, hhigh⟩ := hn
  cases n with
  | ofNat n =>
    have hfits : n < 2 ^ 64 := by
      have hcast : (n : Int) < 2 ^ 64 := hhigh
      omega
    rw [numberChars_ofNat]
    cases hdigits : Nat.toDigits 10 n with
    | nil => exact absurd hdigits Nat.toDigits_ne_nil
    | cons d ds =>
      have hd : d.isDigit = true := isDigit_toDigits (n := n) (by simp [hdigits])
      have hsign : d ≠ '-' := by
        rintro rfl
        exact absurd hd (by decide)
      rw [List.cons_append, readNumber, ← List.cons_append, ← hdigits, readUnsigned_whole false n h,
        if_pos (Or.inr ⟨by simp, hfits⟩)]
      · rfl
      · intro _ heq
        exact hsign (List.cons.inj heq).1
  | negSucc n =>
    have hfits : n + 1 ≤ 2 ^ 63 := by
      rw [Int.negSucc_eq] at hlow
      omega
    rw [numberChars_negSucc, List.cons_append, readNumber, readUnsigned_whole true (n + 1) h,
      if_pos (Or.inl ⟨rfl, hfits, by omega⟩)]
    rfl

theorem shown_numberChars {n : Int} {c : Char} (h : c ∈ numberChars (.int n)) : Shown c := by
  have hdigit {m : Nat} (hc : c ∈ Nat.toDigits 10 m) : Shown c := by
    have hbounds := Char.isDigit_iff_toNat.mp (isDigit_toDigits hc)
    exact Nat.le_trans (by decide) hbounds.1
  cases n with
  | ofNat n =>
    rw [numberChars_ofNat] at h
    exact hdigit h
  | negSucc n =>
    rw [numberChars_negSucc] at h
    rcases List.mem_cons.mp h with rfl | hc
    · decide
    · exact hdigit hc

end PackageUsage.Json
