import Mathlib.Data.String.Basic

/-!
# The order of texts is that of their bytes

Texts are ordered by the code points of their characters. In UTF-8 a character is spelled by a first
byte, which grows with the number of bytes, and bytes of six bits each, the highest first. So the
first difference of two texts is the first difference of their bytes, and it is in the same
direction.
-/

namespace PackageUsage.Text

/-- The bytes of a text in UTF-8. -/
def bytes (text : String) : List UInt8 :=
  text.toUTF8.data.toList

theorem bytes_eq_flatMap (text : String) :
    bytes text = text.toList.flatMap String.utf8EncodeChar := by
  conv_lhs => rw [bytes, ← String.ofList_toList (s := text), String.toUTF8_eq_toByteArray,
    String.toByteArray_ofList, List.utf8Encode]
  exact List.toList_data_toByteArray

/-! ## The bytes of a character -/

section Spelling
variable {n m : Nat} {xs ys : List UInt8}

theorem byte_cons_lt (hlt : n < m) (hm : m < 256) :
    UInt8.ofNat n :: xs < UInt8.ofNat m :: ys := by
  refine List.cons_lt_cons_iff.mpr (.inl ?_)
  rw [UInt8.lt_iff_toNat_lt, UInt8.toNat_ofNat', UInt8.toNat_ofNat']
  omega

theorem byte_cons_lt_of_eq (heq : n = m) (hlt : xs < ys) :
    UInt8.ofNat n :: xs < UInt8.ofNat m :: ys :=
  List.cons_lt_cons_iff.mpr (.inr ⟨by rw [heq], hlt⟩)

/-- The last bytes of the spelling of a code point, of six bits each. -/
def continuation : Nat → Nat → List UInt8
  | 0, _ => []
  | k + 1, n => UInt8.ofNat (n / 64 ^ k % 64 + 128) :: continuation k n

/-- Where the bits before them are the same, the last bytes are in the order of the code points. -/
theorem continuation_lt (k : Nat) (hlt : n < m) (hbefore : n / 64 ^ k = m / 64 ^ k) :
    continuation k n ++ xs < continuation k m ++ ys := by
  induction k with
  | zero =>
    rw [Nat.pow_zero, Nat.div_one, Nat.div_one] at hbefore
    omega
  | succ k ih =>
    rw [Nat.pow_succ, ← Nat.div_div_eq_div_mul, ← Nat.div_div_eq_div_mul] at hbefore
    have hle : n / 64 ^ k ≤ m / 64 ^ k := Nat.div_le_div_right hlt.le
    rw [continuation, continuation, List.cons_append, List.cons_append]
    rcases hle.eq_or_lt with heq | hless
    · exact byte_cons_lt_of_eq (by rw [heq]) (ih heq)
    · exact byte_cons_lt (by omega) (by omega)

/-- The spelling of a code point with a number of last bytes: the highest bits are in the first byte,
behind a mark of that number. -/
def spelling (k mark n : Nat) : List UInt8 :=
  UInt8.ofNat (n / 64 ^ k + mark) :: continuation k n

theorem spelling_lt {k mark : Nat} (hlt : n < m) (hm : m / 64 ^ k + mark < 256) :
    spelling k mark n ++ xs < spelling k mark m ++ ys := by
  have hle : n / 64 ^ k ≤ m / 64 ^ k := Nat.div_le_div_right hlt.le
  rcases hle.eq_or_lt with heq | hless
  · exact byte_cons_lt_of_eq (by rw [heq]) (continuation_lt k hlt heq)
  · exact byte_cons_lt (by omega) hm

theorem spelling_lt_of_mark {k k' mark mark' : Nat} (hlt : n / 64 ^ k + mark < m / 64 ^ k' + mark')
    (hm : m / 64 ^ k' + mark' < 256) : spelling k mark n ++ xs < spelling k' mark' m ++ ys :=
  byte_cons_lt hlt hm

end Spelling

theorem codePoint_lt (c : Char) : c.val.toNat < 1114112 := by
  have hvalid := c.valid
  simp only [UInt32.isValidChar, Nat.isValidChar] at hvalid
  omega

theorem utf8EncodeChar_eq (c : Char) :
    String.utf8EncodeChar c =
      if c.val.toNat ≤ 127 then spelling 0 0 c.val.toNat
      else if c.val.toNat ≤ 2047 then spelling 1 192 c.val.toNat
      else if c.val.toNat ≤ 65535 then spelling 2 224 c.val.toNat
      else spelling 3 240 c.val.toNat := by
  have hmax := codePoint_lt c
  unfold String.utf8EncodeChar
  generalize c.val.toNat = n at hmax
  dsimp only [spelling, continuation]
  split_ifs
  · rw [Nat.pow_zero, Nat.div_one, Nat.add_zero]
  · rw [Nat.mod_eq_of_lt (show n / 64 < 32 by omega)]
    simp
  · rw [Nat.mod_eq_of_lt (show n / 4096 < 16 by omega)]
    simp
  · rw [Nat.mod_eq_of_lt (show n / 262144 < 8 by omega)]
    simp

/-- The spelling of the smaller of two characters is smaller, whatever follows. -/
theorem utf8EncodeChar_append_lt {c d : Char} (h : c < d) (xs ys : List UInt8) :
    String.utf8EncodeChar c ++ xs < String.utf8EncodeChar d ++ ys := by
  have hlt : c.val.toNat < d.val.toNat := h
  have hmax := codePoint_lt d
  rw [utf8EncodeChar_eq, utf8EncodeChar_eq]
  generalize c.val.toNat = n at hlt
  generalize d.val.toNat = m at hlt hmax
  -- with as many bytes the bits decide, with more of them the mark in the first byte
  split_ifs <;> first
    | (exfalso; omega)
    | exact spelling_lt_of_mark (by omega) (by omega)
    | exact spelling_lt hlt (by omega)

/-- A byte below the marks is the whole spelling of the character with its number. -/
theorem eq_of_mem_utf8EncodeChar {c : Char} {b : UInt8} (h : b ∈ String.utf8EncodeChar c)
    (hb : b.toNat < 128) : c.toNat = b.toNat := by
  have hcontinuation (k n : Nat) : b ∉ continuation k n := by
    induction k with
    | zero => exact List.not_mem_nil
    | succ k ih =>
      rw [continuation, List.mem_cons, not_or]
      refine ⟨?_, ih⟩
      rintro rfl
      rw [UInt8.toNat_ofNat'] at hb
      omega
  have hspelling (k mark n : Nat) (hmark : 128 ≤ mark) (hn : n / 64 ^ k + mark < 256) :
      b ∉ spelling k mark n := by
    rw [spelling, List.mem_cons, not_or]
    refine ⟨?_, hcontinuation k n⟩
    rintro rfl
    generalize n / 64 ^ k = first at hn hb
    rw [UInt8.toNat_ofNat'] at hb
    omega
  have hmax := codePoint_lt c
  rw [utf8EncodeChar_eq] at h
  split_ifs at h
  · obtain rfl := List.mem_singleton.mp h
    rw [UInt8.toNat_ofNat', Nat.pow_zero, Nat.div_one, Nat.add_zero]
    have hsmall : c.val.toNat < 2 ^ 8 := by omega
    exact (Nat.mod_eq_of_lt hsmall).symm
  · exact absurd h (hspelling 1 192 _ (by omega) (by omega))
  · exact absurd h (hspelling 2 224 _ (by omega) (by omega))
  · exact absurd h (hspelling 3 240 _ (by omega) (by omega))

/-! ## The bytes of a text -/

theorem flatMap_utf8EncodeChar_lt {cs ds : List Char} (h : cs < ds) :
    cs.flatMap String.utf8EncodeChar < ds.flatMap String.utf8EncodeChar := by
  induction cs generalizing ds with
  | nil =>
    cases ds with
    | nil => exact absurd h (List.lt_irrefl _)
    | cons d ds =>
      obtain ⟨first, rest, hbytes⟩ := List.exists_cons_of_ne_nil
        (List.ne_nil_of_length_pos (by rw [String.length_utf8EncodeChar]; exact d.utf8Size_pos) :
          String.utf8EncodeChar d ≠ [])
      rw [List.flatMap_cons, hbytes]
      exact List.nil_lt_cons _ _
  | cons c cs ih =>
    cases ds with
    | nil => exact absurd h (List.not_lt_nil _)
    | cons d ds =>
      rw [List.flatMap_cons, List.flatMap_cons]
      rcases List.cons_lt_cons_iff.mp h with hless | ⟨rfl, hrest⟩
      · exact utf8EncodeChar_append_lt hless _ _
      · exact List.Lex.append_left _ (ih hrest) _

/-- The order of texts is that of their bytes. -/
theorem bytes_lt_bytes_iff {a b : String} : bytes a < bytes b ↔ a < b := by
  have hmono {a b : String} (h : a < b) : bytes a < bytes b := by
    rw [bytes_eq_flatMap, bytes_eq_flatMap]
    exact flatMap_utf8EncodeChar_lt (String.lt_iff_toList_lt.mp h)
  refine ⟨fun h => ?_, hmono⟩
  rcases lt_trichotomy a b with hless | rfl | hgreater
  · exact hless
  · exact absurd h (List.lt_irrefl _)
  · exact absurd (hmono hgreater) (List.lt_asymm h)

end PackageUsage.Text
