import PackageRecipe.Proofs.Condition.Grammar

/-!
The grammar of conditions is unambiguous, even where more tokens follow, as long as
they cannot belong to the derivation.
-/

namespace PackageRecipe.Condition

namespace Derivation

/-- Whether the tokens of a derivation, with tokens after them that end its category,
are those of no other derivation and leave no others to follow. -/
def IsDetermined {category : Category} (left : Derivation category) : Prop :=
  ∀ ⦃right : Derivation category⦄ ⦃follow other : List Token⦄,
    category.Ends follow → category.Ends other →
      left.yield ++ follow = right.yield ++ other → left = right ∧ follow = other

variable {connective : Connective}

theorem isDetermined_junction {first : Derivation (.level connective.operand)}
    {others : Derivation (.operands connective)} (firstDetermined : first.IsDetermined)
    (othersDetermined : others.IsDetermined) :
    (junction connective first others).IsDetermined := by
  intro right follow other leftEnds rightEnds equal
  rw [Category.ends_junction_iff] at leftEnds rightEnds
  cases right with
  | junction _ first' others' =>
      simp only [yield, List.append_assoc] at equal
      rcases firstDetermined (others.operands_ends leftEnds) (others'.operands_ends
          rightEnds) equal with
        ⟨rfl, rest⟩
      rcases othersDetermined leftEnds rightEnds rest with ⟨rfl, rfl⟩
      exact ⟨rfl, rfl⟩

theorem isDetermined_noOperand : (noOperand connective).IsDetermined := by
  intro right follow other leftEnds rightEnds equal
  cases right with
  | noOperand => exact ⟨rfl, equal⟩
  | nextOperand _ head tail =>
      rw [show follow = _ from equal] at leftEnds
      exact absurd rfl leftEnds.head?_ne

theorem isDetermined_nextOperand {head : Derivation (.level connective.operand)}
    {tail : Derivation (.operands connective)} (headDetermined : head.IsDetermined)
    (tailDetermined : tail.IsDetermined) :
    (nextOperand connective head tail).IsDetermined := by
  intro right follow other leftEnds rightEnds equal
  cases right with
  | noOperand =>
      rw [show other = _ from equal.symm] at rightEnds
      exact absurd rfl rightEnds.head?_ne
  | nextOperand _ head' tail' =>
      simp only [yield, List.cons_append, List.append_assoc, List.cons.injEq,
        true_and] at equal
      rcases headDetermined (tail.operands_ends leftEnds) (tail'.operands_ends rightEnds)
          equal with
        ⟨rfl, rest⟩
      rcases tailDetermined leftEnds rightEnds rest with ⟨rfl, rfl⟩
      exact ⟨rfl, rfl⟩

theorem isDetermined_negated {inner : Derivation (.level .negation)}
    (determined : inner.IsDetermined) : (negated inner).IsDetermined := by
  intro right follow other leftEnds rightEnds equal
  cases right with
  | negated inner' =>
      rcases determined leftEnds rightEnds (List.cons.inj equal).2 with ⟨rfl, rfl⟩
      exact ⟨rfl, rfl⟩
  | plain inner' => exact absurd equal.symm (inner'.comparison_ne_negation _ _)

theorem isDetermined_plain {inner : Derivation (.level .comparison)}
    (determined : inner.IsDetermined) : (plain inner).IsDetermined := by
  intro right follow other leftEnds rightEnds equal
  cases right with
  | negated inner' => exact absurd equal (inner.comparison_ne_negation _ _)
  | plain inner' =>
      rcases determined leftEnds rightEnds equal with ⟨rfl, rfl⟩
      exact ⟨rfl, rfl⟩

theorem isDetermined_comparison {first : Derivation (.level .operand)}
    {others : Derivation .steps} (firstDetermined : first.IsDetermined)
    (othersDetermined : others.IsDetermined) :
    (comparison first others).IsDetermined := by
  intro right follow other leftEnds rightEnds equal
  cases right with
  | comparison first' others' =>
      simp only [yield, List.append_assoc] at equal
      rcases firstDetermined trivial trivial equal with ⟨rfl, rest⟩
      rcases othersDetermined leftEnds rightEnds rest with ⟨rfl, rfl⟩
      exact ⟨rfl, rfl⟩

theorem not_steps_ends_nextStep (relation : Relation)
    (head : Derivation (.level .operand))
    (tail : Derivation .steps) (follow : List Token) :
    ¬Category.steps.Ends ((nextStep relation head tail).yield ++ follow) := by
  rw [yield, List.append_assoc, Category.Ends, startsStep_relationTokens]
  decide

theorem isDetermined_noStep : noStep.IsDetermined := by
  intro right follow other leftEnds rightEnds equal
  cases right with
  | noStep => exact ⟨rfl, equal⟩
  | nextStep relation head tail =>
      rw [show follow = _ from equal] at leftEnds
      exact absurd leftEnds (not_steps_ends_nextStep _ _ _ _)

theorem isDetermined_nextStep {relation : Relation} {head : Derivation (.level .operand)}
    {tail : Derivation .steps} (headDetermined : head.IsDetermined)
    (tailDetermined : tail.IsDetermined) :
    (nextStep relation head tail).IsDetermined := by
  intro right follow other leftEnds rightEnds equal
  cases right with
  | noStep =>
      rw [show other = _ from equal.symm] at rightEnds
      exact absurd rightEnds (not_steps_ends_nextStep _ _ _ _)
  | nextStep relation' head' tail' =>
      simp only [yield, List.append_assoc] at equal
      rcases relationTokens_append_inj equal with ⟨rfl, operands⟩
      rcases headDetermined trivial trivial operands with ⟨rfl, rest⟩
      rcases tailDetermined leftEnds rightEnds rest with ⟨rfl, rfl⟩
      exact ⟨rfl, rfl⟩

/-! The three productions that start with an opening parenthesis differ in what
follows the first condition after it, or in having none. -/

theorem parenthesized_yield_append (inner : Derivation (.level (.junction .disjunction)))
    (follow : List Token) : (parenthesized inner).yield ++ follow =
      .opening :: (inner.yield ++ .closing :: follow) := by
  simp [yield]

theorem tuple_yield_append (first : Derivation (.level (.junction .disjunction)))
    (others : Derivation .items) (follow : List Token) :
    (tuple first others).yield ++ follow =
      .opening :: (first.yield ++ (others.yield ++ .closing :: follow)) := by
  simp [yield]

theorem isDetermined_parenthesized {inner : Derivation (.level (.junction .disjunction))}
    (determined : inner.IsDetermined) : (parenthesized inner).IsDetermined := by
  intro right follow other _ _ equal
  have closes := Category.ends_closing (.junction .disjunction)
  rw [parenthesized_yield_append] at equal
  cases right with
  | parenthesized inner' =>
      rw [parenthesized_yield_append] at equal
      rcases determined (closes _) (closes _) (List.cons.inj equal).2 with ⟨rfl, rest⟩
      exact ⟨rfl, (List.cons.inj rest).2⟩
  | emptyTuple => exact absurd (List.cons.inj equal).2 (inner.level_ne_closing _ _)
  | tuple first others =>
      rw [tuple_yield_append] at equal
      rcases determined (closes _) (others.items_ends _ _) (List.cons.inj equal).2 with
        ⟨rfl, rest⟩
      exact absurd rest.symm (others.items_ne_closing _ _)
  | name | integer | text | boolean => simp [yield] at equal

theorem isDetermined_emptyTuple : emptyTuple.IsDetermined := by
  intro right follow other _ _ equal
  cases right with
  | parenthesized inner =>
      rw [parenthesized_yield_append] at equal
      exact absurd (List.cons.inj equal).2.symm (inner.level_ne_closing _ _)
  | emptyTuple => exact ⟨rfl, List.append_cancel_left equal⟩
  | tuple first others =>
      rw [tuple_yield_append] at equal
      exact absurd (List.cons.inj equal).2.symm (first.level_ne_closing _ _)
  | name | integer | text | boolean => simp [yield] at equal

theorem isDetermined_tuple {first : Derivation (.level (.junction .disjunction))}
    {others : Derivation .items} (firstDetermined : first.IsDetermined)
    (othersDetermined : others.IsDetermined) : (tuple first others).IsDetermined := by
  intro right follow other _ _ equal
  rw [tuple_yield_append] at equal
  cases right with
  | parenthesized inner =>
      rw [parenthesized_yield_append] at equal
      rcases firstDetermined (others.items_ends _ _) (Category.ends_closing _ _)
          (List.cons.inj equal).2 with
        ⟨rfl, rest⟩
      exact absurd rest (others.items_ne_closing _ _)
  | emptyTuple => exact absurd (List.cons.inj equal).2 (first.level_ne_closing _ _)
  | tuple first' others' =>
      rw [tuple_yield_append] at equal
      rcases firstDetermined (others.items_ends _ _) (others'.items_ends _ _)
          (List.cons.inj equal).2 with
        ⟨rfl, rest⟩
      rcases othersDetermined ⟨_, rfl⟩ ⟨_, rfl⟩ rest with ⟨rfl, last⟩
      exact ⟨rfl, (List.cons.inj last).2⟩
  | name | integer | text | boolean => simp [yield] at equal

theorem nextItem_yield_append (head : Derivation (.level (.junction .disjunction)))
    (tail : Derivation .items) (follow : List Token) :
    (nextItem head tail).yield ++ follow =
      .comma :: (head.yield ++ (tail.yield ++ follow)) := by
  simp [yield]

theorem isDetermined_lastComma : lastComma.IsDetermined := by
  rintro right _ other ⟨next, rfl⟩ _ equal
  cases right with
  | lastComma => exact ⟨rfl, (List.cons.inj equal).2⟩
  | lastItem item =>
      exact absurd (List.cons.inj equal).2.symm (item.level_ne_closing _ _)
  | nextItem head tail =>
      rw [nextItem_yield_append] at equal
      exact absurd (List.cons.inj equal).2.symm (head.level_ne_closing _ _)

theorem isDetermined_lastItem {item : Derivation (.level (.junction .disjunction))}
    (determined : item.IsDetermined) : (lastItem item).IsDetermined := by
  rintro right _ _ ⟨next, rfl⟩ ⟨next', rfl⟩ equal
  have closes := Category.ends_closing (.junction .disjunction)
  cases right with
  | lastComma => exact absurd (List.cons.inj equal).2 (item.level_ne_closing _ _)
  | lastItem item' =>
      rcases determined (closes _) (closes _) (List.cons.inj equal).2 with ⟨rfl, rest⟩
      exact ⟨rfl, rest⟩
  | nextItem head tail =>
      rw [nextItem_yield_append] at equal
      rcases determined (closes _) (tail.items_ends _ _) (List.cons.inj equal).2 with
        ⟨rfl, rest⟩
      exact absurd rest.symm (tail.items_ne_closing _ _)

theorem isDetermined_nextItem {head : Derivation (.level (.junction .disjunction))}
    {tail : Derivation .items} (headDetermined : head.IsDetermined)
    (tailDetermined : tail.IsDetermined) : (nextItem head tail).IsDetermined := by
  intro right follow other leftEnds rightEnds equal
  rw [nextItem_yield_append] at equal
  cases right with
  | lastComma =>
      rcases rightEnds with ⟨next, rfl⟩
      exact absurd (List.cons.inj equal).2 (head.level_ne_closing _ _)
  | lastItem item =>
      rcases rightEnds with ⟨next, rfl⟩
      rcases headDetermined (tail.items_ends _ _) (Category.ends_closing _ _)
          (List.cons.inj equal).2 with
        ⟨rfl, rest⟩
      exact absurd rest (tail.items_ne_closing _ _)
  | nextItem head' tail' =>
      rw [nextItem_yield_append] at equal
      rcases headDetermined (tail.items_ends _ _) (tail'.items_ends _ _) (List.cons.inj
          equal).2 with
        ⟨rfl, rest⟩
      rcases tailDetermined leftEnds rightEnds rest with ⟨rfl, last⟩
      exact ⟨rfl, last⟩

theorem isDetermined {category : Category} (derivation : Derivation category) :
    derivation.IsDetermined := by
  induction derivation with
  | junction _ _ _ first others => exact isDetermined_junction first others
  | noOperand => exact isDetermined_noOperand
  | nextOperand _ _ _ head tail => exact isDetermined_nextOperand head tail
  | negated _ inner => exact isDetermined_negated inner
  | plain _ inner => exact isDetermined_plain inner
  | comparison _ _ first others => exact isDetermined_comparison first others
  | noStep => exact isDetermined_noStep
  | nextStep _ _ _ head tail => exact isDetermined_nextStep head tail
  | name | integer | text | boolean =>
      intro right follow other _ _ equal
      cases right <;> simp_all [yield]
  | parenthesized _ inner => exact isDetermined_parenthesized inner
  | emptyTuple => exact isDetermined_emptyTuple
  | tuple _ _ first others => exact isDetermined_tuple first others
  | lastComma => exact isDetermined_lastComma
  | lastItem _ item => exact isDetermined_lastItem item
  | nextItem _ _ head tail => exact isDetermined_nextItem head tail

/-- No two derivations of conditions stand for the same tokens. -/
theorem yield_injective {level : Level} (left right : Derivation (.level level))
    (equal : left.yield = right.yield) : left = right :=
  (left.isDetermined (Category.ends_nil level) (Category.ends_nil level)
    (congrArg (· ++ []) equal)).1

end Derivation

end PackageRecipe.Condition
