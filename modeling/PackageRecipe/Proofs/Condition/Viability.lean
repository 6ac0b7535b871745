import PackageRecipe.Proofs.Condition.Spelling
import PackageRecipe.Proofs.Condition.Unambiguity

/-!
Tokens that a derivation can start with. Where tokens stop to be the start of any derivation,
the token at which they do is told apart by itself; only a negation sign after an operand
needs the token after it too, since the two can be a relation.
-/

namespace PackageRecipe.Condition

/-- The tokens are the start of a derivation that nests less deep than a bound, and what is
missing of it can be written. -/
def Viable (bound : Nat) (category : Category) (before : List Token) : Prop :=
  ∃ (derivation : Derivation category) (missing : List Token),
    derivation.nesting < bound ∧ missing ≠ [] ∧ (∀ token ∈ missing, token.IsSpellable) ∧
      derivation.yield = before ++ missing

/-- A condition can go on with another operand. -/
theorem viable_yield {bound : Nat} (derivation : Derivation (.level (.junction .disjunction)))
    (nesting : derivation.nesting < bound) :
    Viable bound (.level (.junction .disjunction)) derivation.yield := by
  cases derivation with
  | junction _ first others =>
      refine ⟨.junction .disjunction first (others.append (.nextOperand .disjunction
        (.junction .conjunction (.plain (.comparison (.boolean true) .noStep)) (.noOperand _))
        (.noOperand _))), [.disjunction, .boolean true], ?_, by simp, ?_, ?_⟩
      · simpa [Derivation.nesting, Derivation.nesting_append] using nesting
      · exact List.forall_mem_cons.mpr ⟨Token.isSpellable_connective .disjunction, by simp⟩
      · simp [Derivation.yield, Derivation.yield_append, Connective.token]

/-- No derivation, with tokens after it that end its category, has the tokens before, and
then as many of the remaining ones as are seen. Where fewer remain, their end is seen. -/
def Blocked (seen : Nat) (category : Category) (before remaining : List Token) : Prop :=
  ∀ (derivation : Derivation category) {follow other : List Token}, category.Ends follow →
    derivation.yield ++ follow = before ++ other → other.take seen ≠ remaining.take seen

/-- The last of the tokens complete an operand. -/
def EndsOperand (before : List Token) : Prop :=
  ∃ (front : List Token) (operand : Derivation (.level .operand)),
    before = front ++ operand.yield

theorem EndsOperand.append {before : List Token} (complete : EndsOperand before)
    (front : List Token) : EndsOperand (front ++ before) := by
  rcases complete with ⟨others, operand, rfl⟩
  exact ⟨front ++ others, operand, (List.append_assoc _ _ _).symm⟩

-- By recursion on the derivation: the rest of a junction or of a comparison is empty, or ends
-- in an operand of its own.
mutual
theorem Derivation.endsOperand : {level : Level} → (derivation : Derivation (.level level)) →
    EndsOperand derivation.yield
  | _, .junction _ first others => first.endsOperand.operands others
  | _, .negated inner => inner.endsOperand.append [.negation]
  | _, .plain inner => inner.endsOperand
  | _, .comparison first others => first.endsOperand.steps others
  | .operand, operand => ⟨[], operand, rfl⟩

theorem EndsOperand.operands {connective : Connective} {before : List Token}
    (complete : EndsOperand before) : (others : Derivation (.operands connective)) →
      EndsOperand (before ++ others.yield)
  | .noOperand _ => by rwa [Derivation.yield, List.append_nil]
  | .nextOperand _ head tail => by
      have next := (head.endsOperand.operands tail).append (before ++ [connective.token])
      simpa [Derivation.yield] using next

theorem EndsOperand.steps {before : List Token} (complete : EndsOperand before) :
    (others : Derivation .steps) → EndsOperand (before ++ others.yield)
  | .noStep => by rwa [Derivation.yield, List.append_nil]
  | .nextStep relation head tail => by
      have next := (head.endsOperand.steps tail).append (before ++ relationTokens relation)
      simpa [Derivation.yield] using next
end

/-- How many of the remaining tokens are seen: two, if the first is a negation sign right
after an operand. -/
inductive Sees (before remaining : List Token) : Nat → Prop
  | one : Sees before remaining 1
  | two (complete : EndsOperand before) (negates : remaining.head? = some .negation) :
      Sees before remaining 2

namespace Sees

variable {before remaining : List Token} {seen : Nat}

theorem append (sees : Sees before remaining seen) (front : List Token) :
    Sees (front ++ before) remaining seen := by
  cases sees with
  | one => exact .one
  | two complete negates => exact .two (complete.append front) negates

theorem head?_eq (sees : Sees before remaining seen) {other : List Token}
    (alike : other.take seen = remaining.take seen) : other.head? = remaining.head? := by
  have positive : seen ≠ 0 := by
    cases sees <;> decide
  have heads := congrArg List.head? alike
  rwa [List.head?_take, List.head?_take, if_neg positive, if_neg positive] at heads

end Sees

/-! ## Tokens that end a condition -/

theorem startsStep_take_two (tokens : List Token) :
    startsStep (tokens.take 2) = startsStep tokens := by
  rcases tokens with _ | ⟨first, _ | ⟨second, rest⟩⟩
  · rfl
  · rfl
  · cases first with
    | negation => cases second <;> rfl
    | _ => rfl

theorem startsStep_take_one {tokens : List Token} (notNegation : tokens.head? ≠ some .negation) :
    startsStep (tokens.take 1) = startsStep tokens := by
  cases tokens with
  | nil => rfl
  | cons first rest =>
      cases first with
      | negation => exact absurd rfl notNegation
      | _ => rfl

theorem Category.ends_congr {level : Level} {remaining other : List Token}
    (sameStart : startsStep other = startsStep remaining)
    (sameHead : other.head? = remaining.head?) :
    (Category.level level).Ends other ↔ (Category.level level).Ends remaining := by
  rcases level with ⟨_ | _⟩ | _ | _ | _ <;> simp only [Ends, sameStart, sameHead]

/-- After a condition enough is seen of the tokens that end it to tell that they do. -/
theorem Derivation.exists_sees {level : Level} (derivation : Derivation (.level level))
    (remaining : List Token) :
    ∃ seen, Sees derivation.yield remaining seen ∧
      ∀ {other : List Token}, other.take seen = remaining.take seen →
        ((Category.level level).Ends other ↔ (Category.level level).Ends remaining) := by
  by_cases negates : remaining.head? = some .negation
  · have sees : Sees derivation.yield remaining 2 := .two derivation.endsOperand negates
    refine ⟨2, sees, ?_⟩
    intro other alike
    apply Category.ends_congr _ (sees.head?_eq alike)
    rw [← startsStep_take_two other, alike, startsStep_take_two]
  · have sees : Sees derivation.yield remaining 1 := .one
    refine ⟨1, sees, ?_⟩
    intro other alike
    have sameHead := sees.head?_eq alike
    apply Category.ends_congr _ sameHead
    rw [← startsStep_take_one (sameHead ▸ negates), alike, startsStep_take_one negates]

/-- The first of the remaining tokens is at fault: those before it are the start of a
derivation, and with it they are not. -/
structure Offends (bound : Nat) (category : Category) (before remaining : List Token) :
    Prop where
  viable : Viable bound category before
  blocked : ∃ seen, Sees before remaining seen ∧ Blocked seen category before remaining

/-- What is at fault in a part is at fault in a whole that has the part after other tokens.
Each derivation of the part has to be one of the whole, with tokens around it, and each of
the whole has to have one of the part in it, if its first token in the part is the same. -/
theorem Offends.lift {bound outerBound : Nat} {category outer : Category}
    {before remaining front : List Token} (offends : Offends bound category before remaining)
    (extend : ∀ derivation : Derivation category, derivation.nesting < bound →
      ∃ (whole : Derivation outer) (after : List Token), whole.nesting < outerBound ∧
        (∀ token ∈ after, token.IsSpellable) ∧
        whole.yield = front ++ (derivation.yield ++ after))
    (restrict : ∀ (whole : Derivation outer) {follow other : List Token}, outer.Ends follow →
      whole.yield ++ follow = front ++ (before ++ other) →
      (before ++ other).head? = (before ++ remaining).head? →
        ∃ (derivation : Derivation category) (after : List Token), category.Ends after ∧
          derivation.yield ++ after = before ++ other) :
    Offends outerBound outer (front ++ before) remaining where
  viable := by
    rcases offends.viable with ⟨derivation, missing, nesting, notEmpty, spellable, yields⟩
    rcases extend derivation nesting with ⟨whole, after, wholeNesting, afterSpellable, equal⟩
    refine ⟨whole, missing ++ after, wholeNesting, ?_, ?_, ?_⟩
    · exact List.append_ne_nil_of_left_ne_nil notEmpty after
    · exact List.forall_mem_append.mpr ⟨spellable, afterSpellable⟩
    · rw [equal, yields]
      simp only [List.append_assoc]
  blocked := by
    rcases offends.blocked with ⟨seen, sees, blocked⟩
    refine ⟨seen, sees.append front, ?_⟩
    intro whole follow other ends equal alike
    have sameHead : (before ++ other).head? = (before ++ remaining).head? := by
      rw [List.head?_append, List.head?_append, sees.head?_eq alike]
    rw [List.append_assoc] at equal
    rcases restrict whole ends equal sameHead with ⟨derivation, after, afterEnds, inner⟩
    exact blocked derivation afterEnds inner alike

namespace Offends

variable {bound : Nat} {before remaining : List Token}

/-! ## Junctions -/

section Junctions

variable {connective : Connective}

theorem firstOperand (offends : Offends bound (.level connective.operand) before remaining) :
    Offends bound (.level (.junction connective)) before remaining := by
  change Offends bound _ ([] ++ before) remaining
  apply offends.lift
  · intro first nesting
    exact ⟨.junction connective first (.noOperand connective), [],
      Nat.max_lt.mpr ⟨nesting, Nat.zero_lt_of_lt nesting⟩, by simp, rfl⟩
  · intro whole follow other ends equal _
    cases whole with
    | junction _ first others =>
        rw [Category.ends_junction_iff] at ends
        rw [Derivation.yield, List.append_assoc] at equal
        exact ⟨first, others.yield ++ follow, others.operands_ends ends, equal⟩

theorem otherOperands (first : Derivation (.level connective.operand))
    (nesting : first.nesting < bound) (starts : before.head? = some connective.token)
    (offends : Offends bound (.operands connective) before remaining) :
    Offends bound (.level (.junction connective)) (first.yield ++ before) remaining := by
  apply offends.lift
  · intro others othersNesting
    exact ⟨.junction connective first others, [], Nat.max_lt.mpr ⟨nesting, othersNesting⟩,
      by simp, by simp [Derivation.yield]⟩
  · intro whole follow other ends equal _
    cases whole with
    | junction _ head others =>
        rw [Category.ends_junction_iff] at ends
        rw [Derivation.yield, List.append_assoc] at equal
        rcases List.head?_eq_some_iff.mp starts with ⟨tail, rfl⟩
        rcases head.isDetermined (others.operands_ends ends)
            (Category.ends_connective connective _) equal with ⟨rfl, rest⟩
        exact ⟨others, follow, ends, rest⟩

theorem nextOperand (offends : Offends bound (.level connective.operand) before remaining) :
    Offends bound (.operands connective) (connective.token :: before) remaining := by
  change Offends bound _ ([connective.token] ++ before) remaining
  apply offends.lift
  · intro head nesting
    exact ⟨.nextOperand connective head (.noOperand connective), [],
      Nat.max_lt.mpr ⟨nesting, Nat.zero_lt_of_lt nesting⟩, by simp, by simp [Derivation.yield]⟩
  · intro whole follow other ends equal _
    cases whole with
    | noOperand =>
        rw [show follow = _ from equal] at ends
        exact absurd rfl ends.head?_ne
    | nextOperand _ head tail =>
        rw [Derivation.yield, List.cons_append, List.append_assoc] at equal
        exact ⟨head, tail.yield ++ follow, tail.operands_ends ends, (List.cons.inj equal).2⟩

theorem laterOperands (head : Derivation (.level connective.operand))
    (nesting : head.nesting < bound) (starts : before.head? = some connective.token)
    (offends : Offends bound (.operands connective) before remaining) :
    Offends bound (.operands connective) (connective.token :: (head.yield ++ before))
      remaining := by
  change Offends bound _ ((connective.token :: head.yield) ++ before) remaining
  apply offends.lift
  · intro tail tailNesting
    exact ⟨.nextOperand connective head tail, [], Nat.max_lt.mpr ⟨nesting, tailNesting⟩,
      by simp, by simp [Derivation.yield]⟩
  · intro whole follow other ends equal _
    cases whole with
    | noOperand =>
        rw [show follow = _ from equal] at ends
        exact absurd rfl ends.head?_ne
    | nextOperand _ first tail =>
        rw [Derivation.yield, List.cons_append, List.append_assoc] at equal
        rcases List.head?_eq_some_iff.mp starts with ⟨after, rfl⟩
        rcases first.isDetermined (tail.operands_ends ends)
            (Category.ends_connective connective _) (List.cons.inj equal).2 with ⟨rfl, rest⟩
        exact ⟨tail, follow, ends, rest⟩

end Junctions

/-! ## Negations -/

theorem negated (offends : Offends bound (.level .negation) before remaining) :
    Offends (bound + 1) (.level .negation) (.negation :: before) remaining := by
  change Offends (bound + 1) _ ([.negation] ++ before) remaining
  apply offends.lift
  · intro inner nesting
    exact ⟨.negated inner, [], Nat.succ_lt_succ nesting, by simp, by simp [Derivation.yield]⟩
  · intro whole follow other ends equal _
    cases whole with
    | negated inner => exact ⟨inner, follow, ends, (List.cons.inj equal).2⟩
    | plain inner => exact absurd equal (inner.comparison_ne_negation _ _)

theorem plain (notNegation : (before ++ remaining).head? ≠ some .negation)
    (offends : Offends bound (.level .comparison) before remaining) :
    Offends bound (.level .negation) before remaining := by
  change Offends bound _ ([] ++ before) remaining
  apply offends.lift
  · intro inner nesting
    exact ⟨.plain inner, [], nesting, by simp, by simp [Derivation.yield]⟩
  · intro whole follow other ends equal sameHead
    cases whole with
    | negated inner =>
        rw [← sameHead, ← show _ = before ++ other from equal] at notNegation
        exact absurd rfl notNegation
    | plain inner => exact ⟨inner, follow, ends, equal⟩

/-! ## Comparisons -/

theorem comparedFirst (offends : Offends bound (.level .operand) before remaining) :
    Offends bound (.level .comparison) before remaining := by
  change Offends bound _ ([] ++ before) remaining
  apply offends.lift
  · intro first nesting
    exact ⟨.comparison first .noStep, [], Nat.max_lt.mpr ⟨nesting, Nat.zero_lt_of_lt nesting⟩,
      by simp, rfl⟩
  · intro whole follow other ends equal _
    cases whole with
    | comparison first others =>
        rw [Derivation.yield, List.append_assoc] at equal
        exact ⟨first, others.yield ++ follow, trivial, equal⟩

theorem steps (first : Derivation (.level .operand)) (nesting : first.nesting < bound)
    (offends : Offends bound .steps before remaining) :
    Offends bound (.level .comparison) (first.yield ++ before) remaining := by
  apply offends.lift
  · intro others othersNesting
    exact ⟨.comparison first others, [], Nat.max_lt.mpr ⟨nesting, othersNesting⟩, by simp,
      by simp [Derivation.yield]⟩
  · intro whole follow other ends equal _
    cases whole with
    | comparison head others =>
        rw [Derivation.yield, List.append_assoc] at equal
        rcases head.isDetermined trivial trivial equal with ⟨rfl, rest⟩
        exact ⟨others, follow, ends, rest⟩

theorem nextStep (relation : Relation)
    (offends : Offends bound (.level .operand) before remaining) :
    Offends bound .steps (relationTokens relation ++ before) remaining := by
  apply offends.lift
  · intro head nesting
    exact ⟨.nextStep relation head .noStep, [],
      Nat.max_lt.mpr ⟨nesting, Nat.zero_lt_of_lt nesting⟩, by simp, by simp [Derivation.yield]⟩
  · intro whole follow other ends equal _
    cases whole with
    | noStep =>
        rw [show follow = _ from equal, Category.Ends, startsStep_relationTokens] at ends
        cases ends
    | nextStep _ head tail =>
        simp only [Derivation.yield, List.append_assoc] at equal
        rcases relationTokens_append_inj equal with ⟨rfl, rest⟩
        exact ⟨head, tail.yield ++ follow, trivial, rest⟩

theorem laterSteps (relation : Relation) (head : Derivation (.level .operand))
    (nesting : head.nesting < bound) (offends : Offends bound .steps before remaining) :
    Offends bound .steps (relationTokens relation ++ (head.yield ++ before)) remaining := by
  rw [← List.append_assoc]
  apply offends.lift
  · intro tail tailNesting
    exact ⟨.nextStep relation head tail, [], Nat.max_lt.mpr ⟨nesting, tailNesting⟩, by simp,
      by simp [Derivation.yield]⟩
  · intro whole follow other ends equal _
    rw [List.append_assoc] at equal
    cases whole with
    | noStep =>
        rw [show follow = _ from equal, Category.Ends, startsStep_relationTokens] at ends
        cases ends
    | nextStep _ first tail =>
        simp only [Derivation.yield, List.append_assoc] at equal
        rcases relationTokens_append_inj equal with ⟨rfl, operands⟩
        rcases first.isDetermined trivial trivial operands with ⟨rfl, rest⟩
        exact ⟨tail, follow, ends, rest⟩

/-! ## Parentheses -/

/-- What follows an opening parenthesis is at fault, but for a closing one. -/
theorem grouped (notEmpty : (before ++ remaining).head? ≠ some .closing)
    (offends : Offends bound (.level (.junction .disjunction)) before remaining) :
    Offends (bound + 1) (.level .operand) (.opening :: before) remaining := by
  change Offends (bound + 1) _ ([.opening] ++ before) remaining
  apply offends.lift
  · intro inner nesting
    exact ⟨.parenthesized inner, [.closing], Nat.succ_lt_succ nesting, by simp, rfl⟩
  · intro whole follow other _ equal sameHead
    cases whole with
    | name | integer | text | boolean => simp [Derivation.yield] at equal
    | parenthesized inner =>
        rw [Derivation.parenthesized_yield_append] at equal
        exact ⟨inner, .closing :: follow, Category.ends_closing _ _, (List.cons.inj equal).2⟩
    | emptyTuple =>
        have empty : _ = before ++ other := (List.cons.inj equal).2
        rw [← sameHead, ← empty] at notEmpty
        exact absurd rfl notEmpty
    | tuple first others =>
        rw [Derivation.tuple_yield_append] at equal
        exact ⟨first, others.yield ++ .closing :: follow, others.items_ends _ _,
          (List.cons.inj equal).2⟩

theorem tupleItems (first : Derivation (.level (.junction .disjunction)))
    (nesting : first.nesting < bound) (starts : before.head? = some .comma)
    (offends : Offends bound .items before remaining) :
    Offends (bound + 1) (.level .operand) (.opening :: (first.yield ++ before)) remaining := by
  change Offends (bound + 1) _ ((.opening :: first.yield) ++ before) remaining
  apply offends.lift
  · intro others othersNesting
    exact ⟨.tuple first others, [.closing],
      Nat.succ_lt_succ (Nat.max_lt.mpr ⟨nesting, othersNesting⟩), by simp,
      by simp [Derivation.yield]⟩
  · intro whole follow other _ equal _
    rw [List.cons_append] at equal
    rcases List.head?_eq_some_iff.mp starts with ⟨after, rfl⟩
    cases whole with
    | name | integer | text | boolean => simp [Derivation.yield] at equal
    | parenthesized inner =>
        rw [Derivation.parenthesized_yield_append] at equal
        rcases inner.isDetermined (Category.ends_closing _ _) (Category.ends_comma _ _)
            (List.cons.inj equal).2 with ⟨_, impossible⟩
        cases impossible
    | emptyTuple => exact absurd (List.cons.inj equal).2.symm (first.level_ne_closing _ _)
    | tuple head others =>
        rw [Derivation.tuple_yield_append] at equal
        rcases head.isDetermined (others.items_ends _ _) (Category.ends_comma _ _)
            (List.cons.inj equal).2 with ⟨rfl, rest⟩
        exact ⟨others, .closing :: follow, ⟨follow, rfl⟩, rest⟩

theorem nextItem (notLast : (before ++ remaining).head? ≠ some .closing)
    (offends : Offends bound (.level (.junction .disjunction)) before remaining) :
    Offends bound .items (.comma :: before) remaining := by
  change Offends bound _ ([.comma] ++ before) remaining
  apply offends.lift
  · intro item nesting
    exact ⟨.lastItem item, [], nesting, by simp, by simp [Derivation.yield]⟩
  · rintro whole _ other ⟨next, rfl⟩ equal sameHead
    cases whole with
    | lastComma =>
        have empty : _ = before ++ other := (List.cons.inj equal).2
        rw [← sameHead, ← empty] at notLast
        exact absurd rfl notLast
    | lastItem item =>
        exact ⟨item, .closing :: next, Category.ends_closing _ _, (List.cons.inj equal).2⟩
    | nextItem head tail =>
        rw [Derivation.nextItem_yield_append] at equal
        exact ⟨head, tail.yield ++ .closing :: next, tail.items_ends _ _,
          (List.cons.inj equal).2⟩

theorem laterItems (head : Derivation (.level (.junction .disjunction)))
    (nesting : head.nesting < bound) (starts : before.head? = some .comma)
    (offends : Offends bound .items before remaining) :
    Offends bound .items (.comma :: (head.yield ++ before)) remaining := by
  change Offends bound _ ((.comma :: head.yield) ++ before) remaining
  apply offends.lift
  · intro tail tailNesting
    exact ⟨.nextItem head tail, [], Nat.max_lt.mpr ⟨nesting, tailNesting⟩, by simp,
      by simp [Derivation.yield]⟩
  · rintro whole _ other ⟨next, rfl⟩ equal _
    rw [List.cons_append] at equal
    rcases List.head?_eq_some_iff.mp starts with ⟨after, rfl⟩
    cases whole with
    | lastComma => exact absurd (List.cons.inj equal).2.symm (head.level_ne_closing _ _)
    | lastItem item =>
        rcases item.isDetermined (Category.ends_closing _ _) (Category.ends_comma _ _)
            (List.cons.inj equal).2 with ⟨_, impossible⟩
        cases impossible
    | nextItem first tail =>
        rw [Derivation.nextItem_yield_append] at equal
        rcases first.isDetermined (tail.items_ends _ _) (Category.ends_comma _ _)
            (List.cons.inj equal).2 with ⟨rfl, rest⟩
        exact ⟨tail, .closing :: next, ⟨next, rfl⟩, rest⟩

/-! ## Where the fault is -/

/-- No operand starts with the token. -/
theorem operand (notStart : ∀ token ∈ remaining.head?, token.startsOperand = false) :
    Offends (bound + 1) (.level .operand) [] remaining where
  viable := ⟨.boolean true, [.boolean true], Nat.succ_pos bound, by simp, by simp, rfl⟩
  blocked := by
    refine ⟨1, .one, ?_⟩
    intro whole follow other _ equal alike
    rcases whole.operand_first with ⟨head, tail, yields, starts⟩
    have sees : Sees [] remaining 1 := .one
    have found : remaining.head? = some head := by
      rw [← sees.head?_eq alike, ← show _ = other from equal, yields]
      rfl
    rw [notStart head found] at starts
    cases starts

/-- Neither a comma nor a closing parenthesis follows the first condition after an opening
one. -/
theorem unclosed (first : Derivation (.level (.junction .disjunction)))
    (nesting : first.nesting < bound)
    (ends : (Category.level (.junction .disjunction)).Ends remaining)
    (notComma : remaining.head? ≠ some .comma) (notClosing : remaining.head? ≠ some .closing) :
    Offends (bound + 1) (.level .operand) (.opening :: first.yield) remaining where
  viable := ⟨.parenthesized first, [.closing], Nat.succ_lt_succ nesting, by simp, by simp, rfl⟩
  blocked := by
    rcases first.exists_sees remaining with ⟨seen, sees, same⟩
    refine ⟨seen, sees.append [.opening], ?_⟩
    intro whole follow other _ equal alike
    rw [← sees.head?_eq alike] at notComma notClosing
    cases whole with
    | name | integer | text | boolean => simp [Derivation.yield] at equal
    | parenthesized inner =>
        rw [Derivation.parenthesized_yield_append] at equal
        rcases inner.isDetermined (Category.ends_closing _ _) ((same alike).mpr ends)
            (List.cons.inj equal).2 with ⟨_, rfl⟩
        exact absurd rfl notClosing
    | emptyTuple => exact absurd (List.cons.inj equal).2.symm (first.level_ne_closing _ _)
    | tuple head others =>
        rw [Derivation.tuple_yield_append] at equal
        rcases head.isDetermined (others.items_ends _ _) ((same alike).mpr ends)
            (List.cons.inj equal).2 with ⟨_, rfl⟩
        rcases others.items_first with ⟨tail, yields⟩
        rw [yields] at notComma
        exact absurd rfl notComma

/-- Neither a comma nor a closing parenthesis follows an item of a tuple. -/
theorem unclosedItems (item : Derivation (.level (.junction .disjunction)))
    (nesting : item.nesting < bound)
    (ends : (Category.level (.junction .disjunction)).Ends remaining)
    (notComma : remaining.head? ≠ some .comma) (notClosing : remaining.head? ≠ some .closing) :
    Offends bound .items (.comma :: item.yield) remaining where
  viable := ⟨.nextItem item .lastComma, [.comma],
    Nat.max_lt.mpr ⟨nesting, Nat.zero_lt_of_lt nesting⟩, by simp, by simp, rfl⟩
  blocked := by
    rcases item.exists_sees remaining with ⟨seen, sees, same⟩
    refine ⟨seen, sees.append [.comma], ?_⟩
    rintro whole _ other ⟨next, rfl⟩ equal alike
    rw [← sees.head?_eq alike] at notComma notClosing
    cases whole with
    | lastComma => exact absurd (List.cons.inj equal).2.symm (item.level_ne_closing _ _)
    | lastItem last =>
        rcases last.isDetermined (Category.ends_closing _ _) ((same alike).mpr ends)
            (List.cons.inj equal).2 with ⟨_, rfl⟩
        exact absurd rfl notClosing
    | nextItem head tail =>
        rw [Derivation.nextItem_yield_append] at equal
        rcases head.isDetermined (tail.items_ends _ _) ((same alike).mpr ends)
            (List.cons.inj equal).2 with ⟨_, rfl⟩
        rcases tail.items_first with ⟨after, yields⟩
        rw [yields] at notComma
        exact absurd rfl notComma

end Offends

end PackageRecipe.Condition
