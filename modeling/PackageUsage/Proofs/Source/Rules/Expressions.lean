import PackageUsage.Proofs.Source.Rules.Types
import PackageUsage.Source.Grammar.Classes
import PackageUsage.Source.Grammar.Markup

/-!
# Rules for expressions go forward

Expressions, the members of classes, and markup. The lists of a rule are read with a fuel, on which
the induction is.
-/

namespace PackageUsage.Source

open PackageUsage.Source.Parser PackageUsage.Source.Grammar

set_option synthInstance.maxSize 100000000

variable {text : Cursor} {l : Lexeme} {rule : Rules} [∀ l r, Forward text l (rule r)]

instance (r : Rule) : Forward text l (value rule r) := by
  unfold value
  infer_instance

instance : Forward text l (arguments rule) := by
  unfold arguments
  infer_instance

instance (async generator : Bool) : Forward text l (functionBody rule async generator) := by
  unfold functionBody
  infer_instance

instance (async generator : Bool) : Forward text l (functionParameters rule async generator) := by
  unfold functionParameters
  infer_instance

instance (async : Bool) : Forward text l (arrowRest rule async) := by
  unfold arrowRest
  infer_instance

instance (async : Bool) : Forward text l (typedArrow rule async) := by
  unfold typedArrow
  infer_instance

instance (async declaration : Bool) : Forward text l (function rule async declaration) := by
  unfold function
  infer_instance

instance (fuel : Nat) (shape : Shape) : Forward text l (array.items rule fuel shape) := by
  induction fuel generalizing l shape with
  | zero => exact .refuse []
  | succ fuel ih =>
    unfold array.items
    infer_instance

instance : Forward text l (array rule) := by
  unfold array
  infer_instance

instance (async generator : Bool) : Forward text l (methodRest rule async generator) := by
  unfold methodRest
  infer_instance

instance : Forward text l (objectMember rule) := by
  unfold objectMember
  infer_instance

instance (fuel : Nat) (shape : Shape) : Forward text l (object.members rule fuel shape) := by
  induction fuel generalizing l shape with
  | zero => exact .refuse []
  | succ fuel ih =>
    unfold object.members
    infer_instance

instance : Forward text l (object rule) := by
  unfold object
  infer_instance

instance (first : Bool) (fuel : Nat) (group : Group) :
    Forward text l (groupItems rule first fuel group) := by
  induction fuel generalizing l first group with
  | zero => exact .refuse []
  | succ fuel ih =>
    unfold groupItems
    infer_instance

instance : Forward text l atArrow := by
  unfold atArrow
  infer_instance

instance : Forward text l (group rule) := by
  unfold group
  infer_instance

instance : Forward text l (asyncForms rule) := by
  unfold asyncForms
  refine .seq inferInstance fun e l => .seq inferInstance fun next l => ?_
  split <;> infer_instance

instance (named : Bool) : Forward text l (classRest rule named) := by
  unfold classRest
  infer_instance

instance : Forward text l (angleExpression rule) := by
  unfold angleExpression
  infer_instance

instance : Forward text l (genericArrow rule) := by
  unfold genericArrow
  infer_instance

instance : Forward text l (newExpression rule) := by
  unfold newExpression
  infer_instance

/-- A closing angle bracket is read by itself, whatever mark it belongs to. -/
theorem forward_jump_angle (h : (l.start.peek? == some '>') = true) :
    Forward text l (jump l.start.next) := by
  refine .jump l.start.le_next fun hl => .next hl.within.start fun ch hch => ?_
  obtain rfl : '>' = ch := Option.some.inj ((beq_iff_eq.mp h).symm.trans hch)
  decide

instance : Forward text l (primary.wholeElement rule) := by
  unfold primary.wholeElement
  refine .seq inferInstance fun _ l => .look_bind (h := ?_)
  dsimp only
  split
  · next hangle => exact .seq (forward_jump_angle hangle) inferInstance
  · infer_instance

instance : Forward text l (scanned scanRegex) :=
  forward_scanned fun _ _ hstop =>
    ⟨(reached_of_scanRegex (le_refl _) hstop).le, fun hc => reached_of_scanRegex hc hstop⟩

instance : Forward text l (primary rule) := by
  unfold primary
  refine .seq inferInstance fun _ l => .seq inferInstance fun e l => .look_bind (h :=
    .seq inferInstance fun next l' => ?_)
  dsimp only
  split <;> infer_instance

instance (shape : Shape) : Forward text l (suffix rule shape) := by
  unfold suffix
  refine .seq inferInstance fun e l => .look_bind (h := ?_)
  dsimp only
  split
  case h_1 | h_2 =>
    refine .seq inferInstance fun _ l => .look_bind (h := ?_)
    split <;> infer_instance
  all_goals infer_instance

instance (fuel : Nat) (shape : Shape) : Forward text l (suffixes rule fuel shape) := by
  induction fuel generalizing l shape with
  | zero => exact .refuse []
  | succ fuel ih =>
    unfold suffixes
    refine .seq inferInstance fun more l => ?_
    split <;> infer_instance

instance : Forward text l operand.atSuffix := by
  unfold operand.atSuffix
  infer_instance

instance : Forward text l (operand rule) := by
  unfold operand
  refine .symbol (h := .seq inferInstance fun _ l => .seq inferInstance fun e l => .look_bind (h :=
    .seq inferInstance fun next l' => ?_))
  dsimp only
  split <;> infer_instance

instance : Forward text l (rightOperand rule) := by
  unfold rightOperand
  infer_instance

instance (shape : Shape) : Forward text l (binaryStep rule shape) := by
  unfold binaryStep
  refine .seq inferInstance fun e l => .look_bind (h := ?_)
  split <;> infer_instance

instance (fuel : Nat) (read : List String) (shape : Shape) :
    Forward text l (binaries rule fuel read shape) := by
  induction fuel generalizing l read shape with
  | zero => exact .refuse []
  | succ fuel ih =>
    unfold binaries
    refine .look_bind (h := .seq inferInstance fun more l' => ?_)
    split
    · infer_instance
    · split <;> infer_instance

instance : Forward text l (alternatives rule) := by
  unfold alternatives
  infer_instance

instance : Forward text l (assignment rule) := by
  unfold assignment
  refine .symbol (h := .seq inferInstance fun e l => .seq inferInstance fun first l => ?_)
  split
  · infer_instance
  · refine .seq inferInstance fun shape l => .seq inferInstance fun question l =>
      .seq inferInstance fun next l => ?_
    split
    · infer_instance
    · refine .look_bind (h := ?_)
      split <;> infer_instance

instance : Forward text l (expression rule) := by
  unfold expression
  infer_instance

/-! ## Members of classes -/

instance (fuel : Nat) (read : List String) : Forward text l (modifiers fuel read) := by
  induction fuel generalizing l read with
  | zero => exact .refuse []
  | succ fuel ih =>
    unfold modifiers
    infer_instance

instance (async generator : Bool) : Forward text l (methodTail rule async generator) := by
  unfold methodTail
  infer_instance

instance : Forward text l (fieldTail rule) := by
  unfold fieldTail
  infer_instance

instance : Forward text l (classMember rule) := by
  unfold classMember
  infer_instance

instance : Forward text l (classBody rule) := by
  unfold classBody
  infer_instance

/-! ## Markup -/

instance : Forward text l lastAngle := by
  unfold lastAngle
  refine .look_bind (h := ?_)
  split
  · next hangle => exact forward_jump_angle hangle
  · infer_instance

theorem kind_of_openingAngle {e : Context} {s s' : State} {u : Unit}
    (h : openingAngle e s = .done u s') :
    s.lexeme.kind = .mark "<" ∨ s.lexeme.kind = .mark "<<" := by
  simp only [openingAngle, Bind.bind, Parser.andThen, look] at h
  generalize s.lexeme.kind = kind at h ⊢
  cases kind with
  | mark m =>
    dsimp only at h
    split at h
    · next hangle => simpa using hangle
    · cases h
  | _ => cases h

/-- Behind an opening angle bracket, the text is one that may hold markup. -/
theorem openingAngle_bind {α : Type} {f : Unit → Parser α}
    (h : text.HasRaw → ∀ u l', Forward text l' (f u)) : Forward text l (openingAngle >>= f) := by
  refine .of_read fun hl => .of_done inferInstance fun hnext hdone => h ⟨.inl ?_⟩ _
  rcases hnext ▸ kind_of_openingAngle hdone with hkind | hkind
  · exact (hl.isInfix (.inr hkind) (by rw [hkind]; decide)).subset (by decide)
  · exact (hl.isInfix (.inr hkind) (by rw [hkind]; decide)).subset (by decide)

section Markup

variable [text.HasRaw]

theorem forward_scanned_raw {scan : Cursor → Option Cursor}
    (h : ∀ c stop, scan c = some stop → c ≤ stop) : Forward text l (scanned scan) :=
  forward_scanned fun c stop hstop =>
    have hle := h c stop hstop
    ⟨hle, fun hc => .raw (hc.trans hle) inferInstance⟩

instance (d : Dialect) : Forward text l (scanned (scanMarkupName d)) :=
  forward_scanned_raw fun _ _ => le_of_scanMarkupName

instance : Forward text l previousEnd :=
  .of_look fun _ _ => ⟨_, rfl⟩

instance (fuel : Nat) (name : String) : Forward text l (tagName.dotted fuel name) := by
  induction fuel generalizing l name with
  | zero => exact .refuse []
  | succ fuel ih =>
    unfold tagName.dotted
    infer_instance

instance : Forward text l tagName := by
  unfold tagName
  infer_instance

instance (optional : Bool) : Forward text l (markupExpression rule optional) := by
  unfold markupExpression
  infer_instance

instance : Forward text l (scanned scanMarkupString) :=
  forward_scanned_raw fun _ _ => le_of_scanMarkupString

instance : Forward text l (attributes rule) := by
  unfold attributes
  refine .many (h := fun l => .seq inferInstance fun e l => .look_bind (h := ?_))
  split
  · infer_instance
  · split
    · refine .seq (.symbol (h := .seq inferInstance fun _ l =>
        .seq inferInstance fun colon l => ?_)) inferInstance
      extract_lets attributeValue
      have hvalue (u : Unit) (l : Lexeme) : Forward text l (attributeValue u) := by
        refine .seq inferInstance fun equals l => ?_
        split
        · refine .seq inferInstance fun _ l => .look_bind (h := ?_)
          split <;> infer_instance
        · infer_instance
      clear_value attributeValue
      infer_instance
    · infer_instance

instance : Forward text l afterText := by
  unfold afterText
  refine .seq inferInstance fun e l => .look_bind (h := ?_)
  have honward := l.start.le_next.trans (le_scanMarkupText e.dialect e.fuel _)
  exact .jump honward fun hl => .raw (hl.within.start.trans honward) inferInstance

instance : Forward text l (children rule) := by
  unfold children
  infer_instance

end Markup

instance : Forward text l (element rule) := by
  unfold element
  exact .symbol (h := .seq inferInstance fun e l =>
    openingAngle_bind fun hraw _ l' => inferInstance)

end PackageUsage.Source
