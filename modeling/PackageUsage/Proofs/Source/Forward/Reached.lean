import PackageUsage.Proofs.Source.Spelling
import PackageUsage.Source.Repair

/-!
# Places where reading starts

No lexeme ends with a blank, and text that is not read by lexemes is left at a character that shows
or at the end of a line. So the next lexeme is looked for from the start of the text, from behind a
character that shows, or from before a line feed. Only markup, and a first line for the system, may
be left anywhere.
-/

namespace PackageUsage.Source

open Cursor

variable {text c c' stop : Cursor} {cs : List Char} {d : Dialect} {ch : Char}

/-- A text may hold markup, or a line for the system. -/
class Cursor.HasRaw (text : Cursor) : Prop where
  marked : '<' ∈ text.rest ∨ "#!".toList <:+: text.rest

/-- The places of a text from which a lexeme is looked for. -/
inductive Cursor.Reached (text : Cursor) : Cursor → Prop
  | start : Reached text text
  | shown {c : Cursor} {ch : Char} {rest : List Char} (hc : text ≤ c) (hrest : c.rest = ch :: rest)
      (hch : isTolerantBlank ch = false) : Reached text (c.step ch rest)
  | lineEnd {c : Cursor} (hc : text ≤ c) (h : ∀ ch ∈ c.rest.head?, ch = '\n') : Reached text c
  | raw {c : Cursor} (hc : text ≤ c) (h : text.HasRaw) : Reached text c

namespace Cursor

theorem Reached.le (h : text.Reached c) : text ≤ c := by
  cases h with
  | start => exact le_refl text
  | shown hc hrest => exact hc.trans (le_step hrest)
  | lineEnd hc | raw hc => exact hc

/-- Behind characters that show, reading may start. -/
theorem Reached.of_passes (hc : text ≤ c) (h : c.Passes cs c') (hne : cs ≠ [])
    (hshown : ∀ ch ∈ cs, isTolerantBlank ch = false) : text.Reached c' := by
  obtain ⟨before, last, rfl⟩ := cs.eq_nil_or_concat'.resolve_left hne
  obtain ⟨m, hm, hlast⟩ := h.split
  obtain ⟨rest, hrest, rfl⟩ := hlast.of_singleton
  exact .shown (hc.trans hm.le) hrest (hshown last (by simp))

theorem Reached.passes (hc : text.Reached c) (h : c.Passes cs c')
    (hshown : ∀ ch ∈ cs, isTolerantBlank ch = false) : text.Reached c' := by
  cases cs with
  | nil =>
    cases h
    exact hc
  | cons ch cs => exact .of_passes hc.le h (by simp) hshown

theorem Reached.next (hc : text ≤ c) (hshown : ∀ ch ∈ c.rest.head?, isTolerantBlank ch = false) :
    text.Reached c.next := by
  cases hrest : c.rest with
  | nil =>
    rw [Cursor.next, hrest]
    exact .lineEnd hc (by simp [hrest])
  | cons ch rest =>
    rw [next_eq_step hrest]
    exact .shown hc hrest (hshown ch (by simp [hrest]))

/-! ## Runs of characters -/

theorem Reached.skipWhile {p : Char → Bool} (hp : ∀ ch, p ch = true → isTolerantBlank ch = false)
    (hc : text.Reached c) : text.Reached (c.skipWhile p) := by
  obtain ⟨cs, hpass, hall, -⟩ := c.exists_passes_skipWhile p
  exact hc.passes hpass fun ch hch => hp ch (hall ch hch)

/-- The rest of a line is left before its line feed. -/
theorem Reached.lineRest (hc : text ≤ c) : text.Reached (c.skipWhile fun ch => ch != '\n') := by
  obtain ⟨cs, hpass, -, hend⟩ := c.exists_passes_skipWhile fun ch => ch != '\n'
  exact .lineEnd (hc.trans hpass.le) fun ch hch => by simpa using hend ch hch

end Cursor

/-! ## Numbers -/

theorem reached_scanDigits {p : Char → Bool} (hp : ∀ ch, p ch = true → isTolerantBlank ch = false)
    (hc : text.Reached c) : text.Reached (scanDigits p c) := by
  refine hc.skipWhile fun ch hch => ?_
  rcases Bool.or_eq_true _ _ ▸ hch with hdigit | hline
  · exact hp ch hdigit
  · rw [beq_iff_eq.mp hline]
    decide

theorem not_isTolerantBlank_of_exponent {e : Char} (h : (e == 'e' || e == 'E') = true) :
    isTolerantBlank e = false := by
  simp only [Bool.or_eq_true, beq_iff_eq] at h
  rcases h with rfl | rfl <;> decide

theorem reached_scanExponent (hc : text.Reached c) : text.Reached (scanExponent c) := by
  have hdigits {c : Cursor} (hc : text.Reached c) : text.Reached (scanDigits Char.isDigit c) :=
    reached_scanDigits (fun _ => not_isTolerantBlank_of_isDigit) hc
  have hone {e : Char} {rest : List Char} (hrest : c.rest = e :: rest)
      (he : (e == 'e' || e == 'E') = true) : text.Reached (c.skip 1) := by
    refine .next hc.le ?_
    simpa [hrest] using not_isTolerantBlank_of_exponent he
  unfold scanExponent
  split
  · next e sign digit _ hrest =>
    split_ifs with hsigned hplain
    · simp only [Bool.and_eq_true] at hsigned
      refine hdigits (.next (hone hrest hsigned.1.1).le ?_)
      have hsign : isTolerantBlank sign = false := by
        rcases Bool.or_eq_true _ _ ▸ hsigned.1.2 with h | h <;>
          (rw [beq_iff_eq.mp h]; decide)
      simpa [next_eq_step hrest] using hsign
    · exact hdigits (hone hrest (Bool.and_eq_true _ _ ▸ hplain).1)
    · exact hc
  · next e digit hrest =>
    split_ifs with hplain
    · exact hdigits (hone hrest (Bool.and_eq_true _ _ ▸ hplain).1)
    · exact hc
  · exact hc

theorem reached_of_scanBased {p : Char → Bool}
    (hp : ∀ ch, p ch = true → isTolerantBlank ch = false) {base : Char} {rest : List Char}
    (hc : text ≤ c) (hrest : c.rest = '0' :: base :: rest) (hbase : isTolerantBlank base = false)
    (h : scanBased p c = some stop) : text.Reached stop := by
  have hstart : text.Reached (c.skip 2) := by
    have hzero : text.Reached c.next := .next hc (by simp [hrest]; decide)
    exact .next hzero.le (by simpa [next_eq_step hrest] using hbase)
  have hdigits := reached_scanDigits hp hstart
  unfold scanBased at h
  split at h
  · split_ifs at h
    cases h
    split_ifs with hlast
    · exact .next hdigits.le (by simp_all [Cursor.peek?]; decide)
    · exact hdigits
  · cases h

/-- A decimal number starts with a digit, so it ends behind a character that shows. -/
theorem reached_scanDecimal {first : Char} {rest : List Char} (hc : text ≤ c)
    (hrest : c.rest = first :: rest) (hfirst : first.isDigit = true) :
    text.Reached (scanDecimal c) := by
  have hdigits {c : Cursor} (hc : text.Reached c) : text.Reached (scanDigits Char.isDigit c) :=
    reached_scanDigits (fun _ => not_isTolerantBlank_of_isDigit) hc
  have hwhole : text.Reached (scanDigits Char.isDigit c) := by
    have hnext : scanDigits Char.isDigit c = scanDigits Char.isDigit c.next := by
      rw [next_eq_step hrest]
      simp [scanDigits, Cursor.skipWhile, hrest, skipWhile.go, hfirst]
    rw [hnext]
    exact hdigits (.next hc (by simpa [hrest] using not_isTolerantBlank_of_isDigit hfirst))
  unfold scanDecimal
  dsimp only
  split
  · next heq => exact .next hwhole.le (by simp [heq]; decide)
  · next heq =>
    exact reached_scanExponent (hdigits (.next hwhole.le (by simp [heq]; decide)))
  · exact reached_scanExponent hwhole

theorem reached_of_scanNumber? (hc : text ≤ c) (h : scanNumber? c = some stop) :
    text.Reached stop := by
  unfold scanNumber? at h
  split at h
  · next base rest hrest =>
    split_ifs at h with hhex hbinary hoctal
    · refine reached_of_scanBased (fun _ => not_isTolerantBlank_of_isHexDigit) hc hrest ?_ h
      rcases Bool.or_eq_true _ _ ▸ hhex with h | h <;> (rw [beq_iff_eq.mp h]; decide)
    · refine reached_of_scanBased (fun ch hch => ?_) hc hrest ?_ h
      · rcases Bool.or_eq_true _ _ ▸ hch with h | h <;> (rw [beq_iff_eq.mp h]; decide)
      · rcases Bool.or_eq_true _ _ ▸ hbinary with h | h <;> (rw [beq_iff_eq.mp h]; decide)
    · refine reached_of_scanBased (fun ch hch => ?_) hc hrest ?_ h
      · simp only [Bool.and_eq_true, decide_eq_true_eq] at hch
        exact not_isTolerantBlank (le_trans (by decide) hch.1) (le_trans hch.2 (by decide))
      · rcases Bool.or_eq_true _ _ ▸ hoctal with h | h <;> (rw [beq_iff_eq.mp h]; decide)
    · cases h
      exact reached_scanDecimal hc hrest (by decide)
  · next digit rest hrest =>
    split_ifs at h
    cases h
    have hpoint : text.Reached c.next := .next hc (by simp [hrest]; decide)
    exact reached_scanExponent
      (reached_scanDigits (fun _ => not_isTolerantBlank_of_isDigit) hpoint)
  · next first rest _ _ hrest =>
    split_ifs at h with hdigit
    cases h
    exact reached_scanDecimal hc hrest hdigit
  · cases h

end PackageUsage.Source
