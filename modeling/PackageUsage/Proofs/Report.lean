import PackageUsage.Proofs.Json.Reading
import PackageUsage.Report

/-!
# Reports that can be read back

The two JSON reports lose nothing: the records come back from either text, in their order. The
report on one line holds no control character, so it is one line.
-/

namespace PackageUsage

namespace Record

/-- The records that a JSON text spells. -/
def listOfText? (text : String) : Option (List Record) :=
  (Json.read? text).bind fun v => (listOfJson v).toOption

/-! ## Values -/

theorem decodeTexts_map_str (texts : List String) :
    decodeTexts (texts.map Json.str) = .ok texts := by
  induction texts with
  | nil => rfl
  | cons text texts ih =>
    rw [List.map_cons, decodeTexts, ih]
    rfl

theorem decodeKind_keyword (kind : DeclarationKind) :
    decodeKind (.str kind.keyword) = .ok kind := by
  cases kind <;> rfl

theorem decodeLine_nat {n : Nat} (h : n < 2 ^ 64) : decodeLine (Json.nat n) = .ok n := by
  have hfits : 0 ≤ Int.ofNat n ∧ (Int.ofNat n).toNat < Nat.pow 2 64 := ⟨Int.natCast_nonneg n, h⟩
  rw [Json.nat, decodeLine, if_pos hfits]
  rfl

/-- A record is read back from its object. -/
theorem ofJson_toJson {r : Record} (h : r.line < 2 ^ 64) : ofJson r.toJson = .ok r := by
  have hkind := decodeKind_keyword r.kind
  have hnames : decodeNames (Json.strings r.names) = .ok r.names := decodeTexts_map_str r.names
  have hline := decodeLine_nat h
  simp only [toJson, ofJson, List.foldlM_cons, List.foldlM_nil, Draft.take, hkind, hnames, hline,
    decodeText]
  rfl

theorem listOfJson_listToJson {records : List Record} (h : ∀ r ∈ records, r.line < 2 ^ 64) :
    listOfJson (listToJson records) = .ok records := by
  rw [listToJson, listOfJson]
  induction records with
  | nil => rfl
  | cons r records ih =>
    rw [List.map_cons, List.mapM_cons, ofJson_toJson (h r List.mem_cons_self),
      ih fun r hr => h r (List.mem_cons_of_mem _ hr)]
    rfl

/-! ## Numbers -/

theorem plainItems_map_str (texts : List String) : Json.PlainItems (texts.map Json.str) := by
  induction texts with
  | nil => trivial
  | cons text texts ih => exact ⟨trivial, ih⟩

theorem plain_toJson {r : Record} (h : r.line < 2 ^ 64) : r.toJson.Plain := by
  have hline : Json.WholeFits (Int.ofNat r.line) := by
    constructor
    · exact Int.le_trans (by decide) (Int.natCast_nonneg r.line)
    · exact Int.ofNat_lt.mpr h
  exact ⟨trivial, trivial, trivial, plainItems_map_str r.names, hline, trivial⟩

theorem plain_listToJson {records : List Record} (h : ∀ r ∈ records, r.line < 2 ^ 64) :
    (listToJson records).Plain := by
  rw [listToJson, Json.Plain]
  induction records with
  | nil => trivial
  | cons r records ih =>
    exact ⟨plain_toJson (h r List.mem_cons_self), ih fun r hr => h r (List.mem_cons_of_mem _ hr)⟩

end Record

/-! ## Reports -/

/-- Both JSON reports give the records back, and the one on one line holds no control
character. -/
theorem report_lossless (records : List Record) (h : ∀ r ∈ records, r.line < 2 ^ 64) :
    Record.listOfText? (report .json records) = some records ∧
      Record.listOfText? (report .compact records) = some records ∧
      ∀ c ∈ (report .compact records).toList, 0x20 ≤ c.toNat := by
  have hplain := Record.plain_listToJson h
  have hvalue : (Record.listOfJson (Record.listToJson records)).toOption = some records := by
    rw [Record.listOfJson_listToJson h]
    rfl
  refine ⟨?_, ?_, ?_⟩
  · rw [report, Record.listOfText?, Json.read?_pretty hplain]
    exact hvalue
  · rw [report, Record.listOfText?, Json.read?_compact hplain]
    exact hvalue
  · intro c hc
    exact Json.shown_compact hplain hc

/-- Texts with quotes, backslashes, control characters and a character beyond the first plane; a
record without names; the largest line. -/
theorem report_lossless_escapes :
    let plain : Record :=
      { file := "a\"b\\c/\n.ts", kind := .importing, specifier := "\u0000\t\u001f\u007f",
        names := ["😀", "", "é\u0008\u000c\r"], line := 2 ^ 64 - 1 }
    let bare : Record :=
      { file := "", kind := .exporting, specifier := "", names := [], line := 0 }
    Record.listOfText? (report .json [plain, bare]) = some [plain, bare] ∧
      Record.listOfText? (report .compact [plain, bare]) = some [plain, bare] ∧
      ∀ c ∈ (report .compact [plain, bare]).toList, 0x20 ≤ c.toNat := by
  intro plain bare
  refine report_lossless [plain, bare] ?_
  intro r hr
  simp only [List.mem_cons, List.not_mem_nil, or_false] at hr
  rcases hr with rfl | rfl <;> decide

end PackageUsage
