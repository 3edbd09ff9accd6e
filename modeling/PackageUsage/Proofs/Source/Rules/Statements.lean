import PackageUsage.Proofs.Source.Rules.Expressions
import PackageUsage.Source.Grammar

/-!
# Rules for statements go forward

Module declarations, statements, and with them the whole grammar: under any repairs that skip
forward, what is read of a text is a list of trees in the order of the text.
-/

namespace PackageUsage.Source

open PackageUsage.Source.Parser PackageUsage.Source.Grammar

set_option synthInstance.maxSize 100000000

variable {text : Cursor} {l : Lexeme} {rule : Rules} [∀ l r, Forward text l (rule r)]

/-! ## Module declarations -/

instance (role : Role) [Role.Allowed text (some role)] : Forward text l (stringLeaf role) := by
  unfold stringLeaf
  infer_instance

instance [text.Sourced] : Forward text l fromClause := by
  unfold fromClause
  infer_instance

instance : Forward text l (importAttributes rule) := by
  unfold importAttributes
  infer_instance

instance (role : Role) [Role.Allowed text (some role)] : Forward text l (exportedName role) := by
  unfold exportedName
  infer_instance

instance : Forward text l importSpecifier := by
  unfold importSpecifier
  infer_instance

instance : Forward text l namedImports := by
  unfold namedImports
  infer_instance

instance : Forward text l namespaceImport := by
  unfold namespaceImport
  infer_instance

instance : Forward text l importList := by
  unfold importList
  infer_instance

instance : Forward text l importValue := by
  unfold importValue
  infer_instance

instance : Forward text l (tolerantImport rule) := by
  unfold tolerantImport
  refine .nodeOf (h := .seq inferInstance fun e l => .keyword_bind fun hword hl _ _ => ?_)
  have hsourced : text.Sourced := ⟨l, hl, .word_import hword⟩
  infer_instance

instance : Forward text l exportSpecifier := by
  unfold exportSpecifier
  infer_instance

instance : Forward text l exportClause := by
  unfold exportClause
  infer_instance

instance : Forward text l namespaceExport := by
  unfold namespaceExport
  infer_instance

/-- Only a word `from` that goes on with the statement leads to a module. -/
instance : Forward text l exportListRest := by
  unfold exportListRest
  refine .seq inferInstance fun e l => .of_read fun hl => .look_bind (h :=
    .atWord_bind fun here hword => ?_)
  split
  · next hgoes =>
    simp only [Bool.and_eq_true, Bool.not_eq_true'] at hgoes
    have hsourced : text.Sourced := ⟨l, hl, .word_from (hword hgoes.1) hgoes.2⟩
    infer_instance
  · infer_instance

instance : Forward text l (defaultExport.ended rule) := by
  unfold defaultExport.ended
  infer_instance

instance (async : Bool) : Forward text l (defaultExport.functionDefault rule async) := by
  unfold defaultExport.functionDefault
  infer_instance

instance : Forward text l (defaultExport rule) := by
  unfold defaultExport
  refine .seq inferInstance fun _ l => .seq inferInstance fun e l => .look_bind (h :=
    .seq inferInstance fun next l' => ?_)
  split <;> infer_instance

instance : Forward text l (exportBody rule) := by
  unfold exportBody
  refine .seq inferInstance fun e l => .seq inferInstance fun _ l => .of_read fun hl =>
    .look_bind (h := .seq inferInstance fun next l' => ?_)
  split
  case h_1 hkind =>
    have hsourced : text.Sourced := ⟨l, hl, .star hkind⟩
    infer_instance
  all_goals infer_instance

instance : Forward text l (tolerantExport rule) := by
  unfold tolerantExport
  infer_instance

instance : Forward text l anyExportName := by
  unfold anyExportName
  refine .look_bind (h := ?_)
  split <;> infer_instance

instance : Forward text l atExportName := by
  unfold atExportName
  refine .look_bind (h := ?_)
  split <;> infer_instance

instance : Forward text l strictSpecifier := by
  unfold strictSpecifier
  infer_instance

instance : Forward text l strictNamedImports := by
  unfold strictNamedImports
  infer_instance

instance : Forward text l (strictAttributes rule) := by
  unfold strictAttributes
  infer_instance

instance : Forward text l strictBindings := by
  unfold strictBindings
  infer_instance

instance : Forward text l (strictImport rule) := by
  unfold strictImport
  infer_instance

instance (fuel : Nat) (read : List (String × String)) :
    Forward text l (strictExportList.elements fuel read) := by
  induction fuel generalizing l read with
  | zero => exact .refuse []
  | succ fuel ih =>
    unfold strictExportList.elements
    infer_instance

instance : Forward text l strictExportList := by
  unfold strictExportList
  infer_instance

instance (items : List (String × String)) : Forward text l (strictExportRest rule items) := by
  unfold strictExportRest
  refine .seq inferInstance fun _ l => .seq inferInstance fun sourced l => ?_
  dsimp only
  split
  · refine .look_bind (h := ?_)
    split <;> infer_instance
  · infer_instance

instance : Forward text l (strictExportAll rule) := by
  unfold strictExportAll
  infer_instance

instance : Forward text l (strictExport rule) := by
  unfold strictExport
  refine .seq inferInstance fun e l => .seq inferInstance fun _ l => .look_bind (h :=
    .seq inferInstance fun next l' => ?_)
  split <;> infer_instance

/-! ## Statements -/

instance (wanted : List LexemeKind) : Forward text l (statements rule wanted) := by
  unfold statements
  infer_instance

instance : Forward text l (block rule) := by
  unfold block
  infer_instance

instance : Forward text l (parenthesized rule) := by
  unfold parenthesized
  infer_instance

instance (constant loop : Bool) : Forward text l (declarator rule constant loop) := by
  unfold declarator
  infer_instance

instance (constant loop : Bool) : Forward text l (declarators rule constant loop) := by
  unfold declarators
  infer_instance

instance : Forward text l (variableDeclaration rule) := by
  unfold variableDeclaration
  infer_instance

instance : Forward text l (loopRange rule) := by
  unfold loopRange
  infer_instance

instance (target : Bool) : Forward text l (loopRest rule target) := by
  unfold loopRest
  infer_instance

instance : Forward text l (forLoop rule) := by
  unfold forLoop
  infer_instance

instance : Forward text l (switch rule) := by
  unfold switch
  infer_instance

instance : Forward text l (tryStatement rule) := by
  unfold tryStatement
  infer_instance

instance : Forward text l (typeList rule) := by
  unfold typeList
  infer_instance

instance : Forward text l (interface rule) := by
  unfold interface
  infer_instance

instance : Forward text l (enumeration rule) := by
  unfold enumeration
  refine .seq inferInstance fun _ l => .look_bind (h := .seq inferInstance fun _ l =>
    .seq inferInstance fun _ l => .symbol (h := .seq inferInstance fun _ l =>
      .seq (.within (h := forward_commaList "\x7d" (h := fun l => .look_bind (h := ?_))))
        inferInstance))
  dsimp only
  split <;> infer_instance

instance : Forward text l (namespaceDeclaration rule) := by
  unfold namespaceDeclaration
  infer_instance

instance : Forward text l optionalLabel := by
  unfold optionalLabel
  infer_instance

instance : Forward text l (expressionStatement rule) := by
  unfold expressionStatement
  infer_instance

instance : Forward text l (ambientDeclaration rule) := by
  unfold ambientDeclaration
  infer_instance

instance (l' next : Lexeme) : Forward text l (wordStatement rule l' next) := by
  unfold wordStatement
  refine .seq inferInstance fun e l => ?_
  dsimp only
  split <;> infer_instance

instance : Forward text l (statement rule) := by
  unfold statement
  refine .symbol (h := .seq inferInstance fun e l => .look_bind (h :=
    .seq inferInstance fun next l' => ?_))
  dsimp only
  split <;> infer_instance

/-! ## The whole grammar -/

instance (r : Rule) : Forward text l (step rule r) := by
  cases r <;> (unfold step; infer_instance)

instance (depth : Nat) (r : Rule) : Forward text l (rules depth r) := by
  induction depth generalizing l r with
  | zero => exact .refuse []
  | succ depth ih =>
    unfold rules
    infer_instance

instance (depth : Nat) : Forward text l (program depth) := by
  unfold program
  refine .of_read fun hl => .look_bind (h := ?_)
  dsimp only
  split
  · next hsystem =>
    have honward := l.start.le_skipWhile fun c => !isLineEnd c
    have hstart : "#!".toList <+: l.start.rest :=
      List.isPrefixOf_iff_prefix.mp (Bool.and_eq_true _ _ ▸ hsystem).2
    have hraw : text.HasRaw :=
      ⟨.inr (hstart.isInfix.trans (Tree.Spelled.suffix_of_le hl.within.start).isInfix)⟩
    exact .seq (.jump honward fun _ => .raw (hl.within.start.trans honward) hraw) inferInstance
  · infer_instance

end PackageUsage.Source
