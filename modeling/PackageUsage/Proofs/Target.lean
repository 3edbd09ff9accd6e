import PackageUsage.Proofs.Collect

/-!
# Quotes around specifiers

A target is compared with what is left of a specifier when up to one quote is dropped at each of its
ends, whether or not the two are the same. A specifier is taken out of its literal differently: by
dropping a pair of equal quotes. A text without a quote at its ends is what both leave of it in
quotes, so a target accepts such a text, the text in quotes and the contents of its literal alike.
-/

namespace PackageUsage

namespace Matcher

/-- The two characters that a specifier may stand between. -/
def quotes : List Char :=
  ['\'', '"']

theorem isQuote_iff {c : Char} : isQuote c = true ↔ c ∈ quotes := by
  simp [isQuote, quotes]

/-- A text has no quote at either end. -/
structure IsBare (cs : List Char) : Prop where
  head : ∀ c, cs.head? = some c → c ∉ quotes
  last : ∀ c, cs.getLast? = some c → c ∉ quotes

/-- A text with a character put before it and one put behind it, where they are given. -/
def enclosed (before after : Option Char) (text : String) : String :=
  String.ofList (before.toList ++ text.toList ++ after.toList)

variable {cs : List Char} {before after : Option Char}

theorem dropOpeningQuote_cons {q : Char} (hq : q ∈ quotes) : dropOpeningQuote (q :: cs) = cs :=
  if_pos (isQuote_iff.mpr hq)

theorem dropOpeningQuote_append (hbefore : ∀ q ∈ before, q ∈ quotes)
    (h : ∀ c, cs.head? = some c → c ∉ quotes) :
    dropOpeningQuote (before.toList ++ cs) = cs := by
  cases before with
  | some q => exact dropOpeningQuote_cons (hbefore q rfl)
  | none =>
    cases cs with
    | nil => rfl
    | cons c cs =>
      apply if_neg
      rw [isQuote_iff]
      exact h c rfl

theorem dropQuotes_enclosed (h : IsBare cs) (hbefore : ∀ q ∈ before, q ∈ quotes)
    (hafter : ∀ q ∈ after, q ∈ quotes) :
    dropQuotes (before.toList ++ cs ++ after.toList) = cs := by
  by_cases hcs : cs = []
  · -- nothing stands between the quotes, so the first drop may take the one behind
    subst hcs
    cases before <;> cases after <;>
      simp_all [dropQuotes, dropOpeningQuote_cons, show dropOpeningQuote [] = [] from rfl]
  · have hfront : dropOpeningQuote (before.toList ++ (cs ++ after.toList)) = cs ++ after.toList := by
      apply dropOpeningQuote_append hbefore
      intro c hc
      rw [List.head?_append_of_ne_nil _ hcs] at hc
      exact h.head c hc
    have hback : dropOpeningQuote (after.toList ++ cs.reverse) = cs.reverse := by
      apply dropOpeningQuote_append hafter
      intro c hc
      rw [List.head?_reverse] at hc
      exact h.last c hc
    have hreverse : (cs ++ after.toList).reverse = after.toList ++ cs.reverse := by
      rw [List.reverse_append]
      cases after <;> rfl
    rw [dropQuotes, List.append_assoc, hfront, hreverse, hback, List.reverse_reverse]

theorem accepts_congr (m : Matcher) {specifier other : String}
    (h : dropQuotes specifier.toList = dropQuotes other.toList) :
    m.accepts specifier = m.accepts other := by
  unfold accepts
  rw [h]

theorem accepts_enclosed (m : Matcher) {text : String} (h : IsBare text.toList)
    (hbefore : ∀ q ∈ before, q ∈ quotes) (hafter : ∀ q ∈ after, q ∈ quotes) :
    m.accepts (enclosed before after text) = m.accepts text := by
  have hnone : ∀ q ∈ (none : Option Char), q ∈ quotes := nofun
  have hself : dropQuotes text.toList = text.toList := by
    simpa using dropQuotes_enclosed h hnone hnone
  apply m.accepts_congr
  rw [enclosed, String.toList_ofList, dropQuotes_enclosed h hbefore hafter, hself]

theorem unquote_enclosed {q : Char} (hq : q ∈ quotes) (text : String) :
    Source.Tree.unquote (enclosed (some q) (some q) text) = text := by
  have hquote : q = '"' ∨ q = '\'' := by simpa [quotes, or_comm] using hq
  have hcontents : Source.Tree.unquoteList (q :: (text.toList ++ [q])) = text.toList := by
    rw [Source.Tree.unquoteList, if_pos ⟨hquote, List.getLast?_concat⟩, List.dropLast_concat]
  rw [enclosed, Source.Tree.unquote, String.toList_ofList]
  exact (congrArg String.ofList hcontents).trans String.ofList_toList

end Matcher

open Matcher

/-- Quotes change no decision of a target: it accepts a text without quotes at its ends exactly if it
accepts the text with one quote more at either end or at both, the same or not. A literal in equal
quotes holds just what stands between them. So the module that a declaration names is accepted
exactly if its literal is, in whichever quotes that is written. -/
theorem quotes_change_no_decision (m : Matcher) :
    (∀ (text : String) (before after : Option Char), IsBare text.toList →
      (∀ q ∈ before, q ∈ quotes) → (∀ q ∈ after, q ∈ quotes) →
      m.accepts (enclosed before after text) = m.accepts text) ∧
    (∀ (text : String), ∀ q ∈ quotes,
      Source.Tree.unquote (enclosed (some q) (some q) text) = text) ∧
    ∀ (node source : Source.Tree) (text : String), ∀ q ∈ quotes, IsBare text.toList →
      node.declarationKind?.isSome = true → node.child? .source = some source →
      source.kind = .string → source.text = enclosed (some q) (some q) text →
      ∃ specifier, node.specifier? = some specifier ∧ specifier = text ∧
        m.accepts specifier = m.accepts source.text := by
  refine ⟨fun text before after h => m.accepts_enclosed h, fun text q hq => unquote_enclosed hq text,
    ?_⟩
  intro node source text q hq hbare hkind hsource hstring htext
  have hgiven : ∀ c ∈ some q, c ∈ quotes := by
    intro c hc
    rwa [← Option.mem_some_iff.mp hc]
  refine ⟨text, ?_, rfl, ?_⟩
  · apply (Source.Tree.specifier?_eq_some_iff ..).mpr
    refine ⟨hkind, source, hsource, hstring, ?_⟩
    rw [htext, unquote_enclosed hq]
  · rw [htext, m.accepts_enclosed hbare hgiven hgiven]

/-- An import whose literal holds another quote between its own, for a target that looks for it. -/
theorem quotes_change_no_decision_inner :
    let literal : Source.Tree :=
      .node { kind := .string, role := some .source, text := "\"it's\"" } []
    let node : Source.Tree := .node { kind := .importStatement } [literal]
    let m : Matcher := .start "it'".toList
    m.accepts "'it's\"" = m.accepts "it's" ∧ node.specifier? = some "it's" ∧
      m.accepts literal.text = true := by
  intro literal node m
  obtain ⟨henclosed, -, hliteral⟩ := quotes_change_no_decision m
  have hbare : IsBare "it's".toList := by
    constructor <;> intro c hc <;> cases hc <;> decide
  obtain ⟨specifier, hspecifier, rfl, haccepts⟩ :=
    hliteral node literal "it's" '"' (by decide) hbare rfl rfl rfl (by decide)
  refine ⟨?_, hspecifier, ?_⟩
  · exact henclosed "it's" (some '\'') (some '"') hbare (by simp [quotes]) (by simp [quotes])
  · rw [← haccepts]
    decide

end PackageUsage
