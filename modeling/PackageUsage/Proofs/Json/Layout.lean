import PackageUsage.Json.Printer
import PackageUsage.Json.Reader

/-!
# Layouts of JSON

The two ways of printing differ only in the blanks between the tokens. A layout says where blanks
stand; each printer follows a layout, so what holds of all layouts holds of both.
-/

namespace PackageUsage.Json

/-- The blanks between the tokens of a text. -/
structure Layout where
  /-- The blanks in front of an item or a closing bracket at a level of nesting. -/
  gap : Nat → List Char
  /-- The blanks between a colon and its value. -/
  afterColon : List Char
  gap_blank : ∀ level, ∀ c ∈ gap level, isSpace c = true
  afterColon_blank : ∀ c ∈ afterColon, isSpace c = true

namespace Layout

mutual

/-- A value at a level of nesting. -/
def chars (l : Layout) (level : Nat) : Json → List Char
  | .null => ['n', 'u', 'l', 'l']
  | .bool true => ['t', 'r', 'u', 'e']
  | .bool false => ['f', 'a', 'l', 's', 'e']
  | .int n => numberChars (.int n)
  | .decimal s m e => numberChars (.decimal s m e)
  | .str s => quote s.toList
  | .arr [] => ['[', ']']
  | .arr (v :: rest) => '[' :: (l.gap (level + 1) ++ l.items level (v :: rest))
  | .obj [] => ['{', '}']
  | .obj (m :: rest) => '{' :: (l.gap (level + 1) ++ l.members level (m :: rest))

/-- The items of an array, up to the closing bracket. -/
def items (l : Layout) (level : Nat) : List Json → List Char
  | [] => []
  | [v] => l.chars (level + 1) v ++ (l.gap level ++ [']'])
  | v :: w :: rest =>
    l.chars (level + 1) v ++ ',' :: (l.gap (level + 1) ++ l.items level (w :: rest))

/-- The members of an object, up to the closing brace. -/
def members (l : Layout) (level : Nat) : List (String × Json) → List Char
  | [] => []
  | [(key, v)] =>
    quote key.toList ++ ':' :: (l.afterColon ++ (l.chars (level + 1) v ++ (l.gap level ++ ['}'])))
  | (key, v) :: m :: rest =>
    quote key.toList ++ ':' :: (l.afterColon ++ (l.chars (level + 1) v ++
      ',' :: (l.gap (level + 1) ++ l.members level (m :: rest))))

end

/-- No blanks at all. -/
def oneLine : Layout where
  gap _ := []
  afterColon := []
  gap_blank := by simp
  afterColon_blank := by simp

/-- One item a line, indented by two spaces a level. -/
def indented : Layout where
  gap := newline
  afterColon := [' ']
  gap_blank := by
    intro level c hc
    rcases List.mem_cons.mp hc with rfl | hspace
    · rfl
    · rw [List.eq_of_mem_replicate hspace]
      rfl
  afterColon_blank := by simp [isSpace]

/-! ## The printers -/

mutual

theorem chars_oneLine (level : Nat) (v : Json) : oneLine.chars level v = compactChars v := by
  cases v with
  | null => rfl
  | bool b => cases b <;> rfl
  | int n => rfl
  | decimal negative mantissa exponent => rfl
  | str s => rfl
  | arr items =>
    cases items with
    | nil => rfl
    | cons v rest =>
      rw [chars, compactChars, items_oneLine level (v :: rest) (List.cons_ne_nil v rest)]
      rfl
  | obj members =>
    cases members with
    | nil => rfl
    | cons m rest =>
      rw [chars, compactChars, members_oneLine level (m :: rest) (List.cons_ne_nil m rest)]
      rfl

theorem items_oneLine (level : Nat) (items : List Json) (h : items ≠ []) :
    oneLine.items level items = joinWith [','] (compactItems items) ++ [']'] := by
  match items, h with
  | [v], _ =>
    rw [Layout.items, chars_oneLine (level + 1) v]
    rfl
  | v :: w :: rest, _ =>
    rw [Layout.items, chars_oneLine (level + 1) v,
      items_oneLine level (w :: rest) (List.cons_ne_nil w rest)]
    simp [compactItems, joinWith, oneLine]

theorem members_oneLine (level : Nat) (members : List (String × Json)) (h : members ≠ []) :
    oneLine.members level members = joinWith [','] (compactMembers members) ++ ['}'] := by
  match members, h with
  | [(key, v)], _ =>
    rw [Layout.members, chars_oneLine (level + 1) v]
    simp [compactMembers, joinWith, oneLine]
  | (key, v) :: (key', w) :: rest, _ =>
    rw [Layout.members, chars_oneLine (level + 1) v,
      members_oneLine level ((key', w) :: rest) (List.cons_ne_nil _ rest)]
    simp [compactMembers, joinWith, oneLine]

end

mutual

theorem chars_indented (level : Nat) (v : Json) : indented.chars level v = prettyChars level v := by
  cases v with
  | null => rfl
  | bool b => cases b <;> rfl
  | int n => rfl
  | decimal negative mantissa exponent => rfl
  | str s => rfl
  | arr items =>
    cases items with
    | nil => rfl
    | cons v rest =>
      rw [chars, prettyChars, items_indented level (v :: rest) (List.cons_ne_nil v rest)]
      simp [indented]
  | obj members =>
    cases members with
    | nil => rfl
    | cons m rest =>
      rw [chars, prettyChars, members_indented level (m :: rest) (List.cons_ne_nil m rest)]
      simp [indented]

theorem items_indented (level : Nat) (items : List Json) (h : items ≠ []) :
    indented.items level items =
      joinWith (',' :: newline (level + 1)) (prettyItems (level + 1) items) ++ newline level ++
        [']'] := by
  match items, h with
  | [v], _ =>
    rw [Layout.items, chars_indented (level + 1) v]
    simp [prettyItems, joinWith, indented]
  | v :: w :: rest, _ =>
    rw [Layout.items, chars_indented (level + 1) v,
      items_indented level (w :: rest) (List.cons_ne_nil w rest)]
    simp [prettyItems, joinWith, indented]

theorem members_indented (level : Nat) (members : List (String × Json)) (h : members ≠ []) :
    indented.members level members =
      joinWith (',' :: newline (level + 1)) (prettyMembers (level + 1) members) ++ newline level ++
        ['}'] := by
  match members, h with
  | [(key, v)], _ =>
    rw [Layout.members, chars_indented (level + 1) v]
    simp [prettyMembers, joinWith, indented]
  | (key, v) :: (key', w) :: rest, _ =>
    rw [Layout.members, chars_indented (level + 1) v,
      members_indented level ((key', w) :: rest) (List.cons_ne_nil _ rest)]
    simp [prettyMembers, joinWith, indented]

end

end Layout

end PackageUsage.Json
