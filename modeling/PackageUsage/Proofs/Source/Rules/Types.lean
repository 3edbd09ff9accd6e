import PackageUsage.Proofs.Source.Forward.Kit
import PackageUsage.Source.Grammar.Types

/-!
# Rules for types go forward

The common rules of the grammar and those for types, patterns and parameters. A rule made of rules
that go forward does so too, which the instances of the kit find; only where a rule decides by what
comes next is it taken apart.
-/

namespace PackageUsage.Source

open PackageUsage.Source.Parser PackageUsage.Source.Grammar

set_option synthInstance.maxSize 100000000

variable {α : Type} {text : Cursor} {l : Lexeme} {rule : Rules} [∀ l r, Forward text l (rule r)]

/-! ## Common rules -/

instance (valid : List String) : Forward text l (identifier valid) := by
  unfold identifier
  infer_instance

/-- Only words are identifiers. -/
theorem kind_of_isIdentifier {e : Context} {valid : List String}
    (h : isIdentifier e valid l = true) : ∃ w, l.kind = .word w := by
  unfold isIdentifier at h
  split at h
  · next w hw => exact ⟨w, hw⟩
  · cases h

instance (role : Option Role) (completedBy : List String) [Role.Allowed text role] :
    Forward text l (identifierLeaf role completedBy) := by
  unfold identifierLeaf
  refine .look_bind (h := .context_bind (h := fun e => ?_))
  split
  · next hidentifier =>
    obtain ⟨w, hw⟩ := kind_of_isIdentifier hidentifier
    exact .leaf (hw ▸ .identifier w) role
  · infer_instance

instance : Forward text l anyWord := by
  unfold anyWord
  refine .look_bind (h := ?_)
  split <;> infer_instance

instance (expression : Bool) : Forward text l (semicolon expression) := by
  unfold semicolon
  infer_instance

instance : Forward text l lineEndsHere := by
  unfold lineEndsHere
  infer_instance

instance {p : Parser α} [Forward text l p] : Forward text l (enclosed p) := by
  unfold enclosed
  infer_instance

instance forward_commaList (close : String) {item : Parser Unit} [h : ∀ l, Forward text l item] :
    Forward text l (commaList close item) := by
  unfold commaList
  infer_instance

/-- Only the front of a lexeme that is written is read. -/
theorem forward_jump_next (h : l.kind ∉ Job.supposable ∨ l.missing = false) :
    Forward text l (jump l.start.next) :=
  .jump l.start.le_next fun hl => hl.reached_next h

instance : Forward text l closingAngle := by
  unfold closingAngle
  refine .look_bind (h := ?_)
  split
  · split
    · infer_instance
    · split
      · infer_instance
      · next hwritten => exact forward_jump_next (.inr (by simpa using hwritten))
  · infer_instance

instance : Forward text l openingAngle := by
  unfold openingAngle
  refine .look_bind (h := ?_)
  split
  · next m hm =>
    split
    · next hangle =>
      refine forward_jump_next (.inl ?_)
      rw [hm]
      rcases Bool.or_eq_true _ _ ▸ hangle with h | h <;> (rw [beq_iff_eq.mp h]; decide)
    · infer_instance
  · infer_instance

instance : Forward text l atAngle := by
  unfold atAngle
  infer_instance

/-- A scanner that goes onward, and where it stops reading may start again. -/
theorem forward_scanned {scan : Cursor → Option Cursor}
    (h : ∀ c stop, scan c = some stop → c ≤ stop ∧ (text ≤ c → text.Reached stop)) :
    Forward text l (scanned scan) := by
  unfold scanned
  refine .look_bind (h := ?_)
  split
  · next stop hstop =>
    have hscan := h l.start stop hstop
    exact .jump hscan.1 fun hl => hscan.2 hl.within.start
  · infer_instance

instance : Forward text l (jump (l.start.skipWhile fun c => c != '\n')) :=
  .jump (l.start.le_skipWhile _) fun hl => .lineRest hl.within.start

instance : Forward text l skipMarkupComments := by
  unfold skipMarkupComments
  infer_instance

theorem forward_jump_template {d : Dialect} {stop : Cursor} {closed : Bool}
    (h : scanTemplateText d false l.start.next.rest l.start.next = some (closed, stop)) :
    Forward text l (jump stop) :=
  .jump (l.start.le_next.trans (reached_of_scanTemplateText (le_refl _) rfl h).le) fun hl =>
    reached_of_scanTemplateText (hl.within.start.trans l.start.le_next) rfl h

instance {substitution : Parser Unit} [∀ l, Forward text l substitution] :
    Forward text l (template substitution) := by
  unfold template
  refine .symbol (h := .seq inferInstance fun e l => .look_bind (h := ?_))
  split
  · infer_instance
  · next closed stop hstop =>
    refine .seq (forward_jump_template hstop) fun _ l => ?_
    split
    · infer_instance
    · refine .whileTrue (h := fun l => .seq inferInstance fun _ l => .look_bind (h := ?_))
      split
      · infer_instance
      · split
        · infer_instance
        · split
          · infer_instance
          · next closed stop hstop =>
            exact .seq (forward_jump_template hstop) inferInstance

instance : Forward text l atClosingAngle := by
  unfold atClosingAngle
  refine .look_bind (h := ?_)
  split <;> infer_instance

instance forward_angleList {item : Parser Unit} [h : ∀ l, Forward text l item] :
    Forward text l (angleList item) := by
  unfold angleList
  infer_instance

instance : Forward text l (typeArguments rule) := by
  unfold typeArguments
  infer_instance

instance : Forward text l (typeParameters rule) := by
  unfold typeParameters
  refine forward_angleList (h := fun l =>
    .seq inferInstance fun e l => .seq inferInstance fun _ l => ?_)
  extract_lets afterBound afterVariance afterConst
  have hconst (u : Unit) (l : Lexeme) : Forward text l (afterConst u) := by
    dsimp only [afterConst, afterVariance, afterBound]
    split
    · refine .seq (.whileTrue (h := fun l =>
        .look_bind (h := .seq inferInstance fun next l' => ?_))) inferInstance
      split <;> infer_instance
    · infer_instance
  clear_value afterConst
  infer_instance

instance : Forward text l (optionalTypeParameters rule) := by
  unfold optionalTypeParameters
  infer_instance

/-! ## Patterns and parameters -/

instance : Forward text l (memberName rule) := by
  unfold memberName
  refine .symbol (h := .look_bind (h := ?_))
  split <;> infer_instance

instance : Forward text l (optionalDefault rule) := by
  unfold optionalDefault
  infer_instance

instance : Forward text l (objectPattern rule) := by
  unfold objectPattern
  infer_instance

instance : Forward text l (arrayPattern rule) := by
  unfold arrayPattern
  infer_instance

instance : Forward text l (pattern rule) := by
  unfold pattern
  infer_instance

instance : Forward text l (decorators rule) := by
  unfold decorators
  refine .many (h := fun l => .seq inferInstance fun more l => ?_)
  split
  · refine .seq (.symbol (h := .seq inferInstance fun group l => ?_)) inferInstance
    split
    · infer_instance
    · refine .seq inferInstance fun _ l => .seq (.whileTrue (h := fun l =>
        .seq inferInstance fun more l => ?_)) inferInstance
      split
      · refine .look_bind (h := ?_)
        dsimp only
        split <;> infer_instance
      · infer_instance
  · infer_instance

instance : Forward text l ( optionalAnnotation rule) := by
  unfold optionalAnnotation
  infer_instance

instance : Forward text l (parameter rule) := by
  unfold parameter
  infer_instance

instance : Forward text l (parameters rule) := by
  unfold parameters
  infer_instance

/-! ## Types -/

instance : Forward text l (resultType rule) := by
  unfold resultType
  refine .symbol (h := .look_bind (h := .seq inferInstance fun next l' => ?_))
  split <;> infer_instance

instance : Forward text l (optionalResult rule) := by
  unfold optionalResult
  infer_instance

instance : Forward text l (functionType rule) := by
  unfold functionType
  infer_instance

instance : Forward text l (optionalTypeArguments rule) := by
  unfold optionalTypeArguments
  infer_instance

instance : Forward text l dottedName := by
  unfold dottedName
  refine .run (h := .seq inferInstance fun _ l => .whileTrue (h := fun l =>
    .seq inferInstance fun more l => ?_))
  split
  · refine .look_bind (h := ?_)
    split <;> infer_instance
  · infer_instance

instance : Forward text l (indexedMember rule) := by
  unfold indexedMember
  refine .seq inferInstance fun _ l => .seq inferInstance fun next l => ?_
  split <;> infer_instance

instance : Forward text l (typeMember rule) := by
  unfold typeMember
  refine .symbol (h := .seq (.whileTrue (h := fun l => ?_)) fun _ l => ?_)
  · refine .look_bind (h := .seq inferInstance fun next l' => ?_)
    split <;> infer_instance
  · refine .look_bind (h := .seq inferInstance fun next l' => ?_)
    split <;> infer_instance

instance : Forward text l (objectType rule) := by
  unfold objectType
  infer_instance

instance : Forward text l (tupleElement rule) := by
  unfold tupleElement
  infer_instance

instance : Forward text l (importedType rule) := by
  unfold importedType
  infer_instance

instance : Forward text l (primaryType rule) := by
  unfold primaryType
  refine .symbol (h := .look_bind (h := .seq inferInstance fun next l' => ?_))
  split <;> infer_instance

instance : Forward text l (typeSuffixes rule) := by
  unfold typeSuffixes
  infer_instance

instance (fuel : Nat) : Forward text l (unaryType rule fuel) := by
  induction fuel generalizing l with
  | zero => exact .refuse []
  | succ fuel ih =>
    unfold unaryType
    refine .symbol (h := .look_bind (h := .seq inferInstance fun next l' => ?_))
    dsimp only
    split <;> infer_instance

instance : Forward text l (type rule) := by
  unfold type
  infer_instance

instance : Forward text l (typeAliasRest rule) := by
  unfold typeAliasRest
  infer_instance

end PackageUsage.Source
