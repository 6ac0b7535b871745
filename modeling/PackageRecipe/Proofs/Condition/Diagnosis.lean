import PackageRecipe.Proofs.Condition.Parsing
import PackageRecipe.Proofs.Condition.Viability

/-!
Where the reader of conditions finds a fault. Other than too deep nesting, what it reports is
the first token with which the tokens can no longer become a condition.
-/

namespace PackageRecipe.Condition

namespace Reader

/-- A reader of a category that stops only where the category ends, and fails at the first
token that offends, unless the nesting is too deep. What it leaves is always the last part
of its tokens. -/
structure Diagnoses (bound : Nat) (category : Category)
    (reader : List Located → Except Failure (category.Meaning × List Located)) : Prop
    extends Reads bound category reader where
  stops : ∀ {tokens rest : List Located} {value : category.Meaning},
    reader tokens = .ok (value, rest) → rest <:+ tokens ∧ category.Ends (bare rest)
  fails : ∀ {tokens remaining : List Located} {fault : Fault},
    (∀ token ∈ bare tokens, token.IsScanned) → reader tokens = .error ⟨remaining, fault⟩ →
      ∃ taken, tokens = taken ++ remaining ∧
        (fault ≠ .tooDeep → Offends bound category (bare taken) (bare remaining))

theorem bare_append (taken rest : List Located) : bare (taken ++ rest) = bare taken ++ bare rest :=
  List.map_append

theorem exists_taken_of_suffix {tokens rest : List Located} {yield : List Token}
    (left : rest <:+ tokens) (equal : bare tokens = yield ++ bare rest) :
    ∃ taken, tokens = taken ++ rest ∧ bare taken = yield := by
  rcases left with ⟨taken, rfl⟩
  rw [bare_append] at equal
  exact ⟨taken, rfl, List.append_cancel_right equal⟩

/-- What a reader takes is the tokens of a derivation, and others are left. -/
theorem Diagnoses.exists_taken {bound : Nat} {category : Category}
    {reader : List Located → Except Failure (category.Meaning × List Located)}
    (diagnoses : Diagnoses bound category reader) {tokens rest : List Located}
    {value : category.Meaning} (scanned : ∀ token ∈ bare tokens, token.IsScanned)
    (equal : reader tokens = .ok (value, rest)) :
    ∃ (derivation : Derivation category) (taken : List Located),
      derivation.nesting < bound ∧ tokens = taken ++ rest ∧ bare taken = derivation.yield ∧
        ∀ token ∈ bare rest, token.IsScanned := by
  rcases diagnoses.sound scanned equal with ⟨derivation, nesting, _, yields⟩
  rcases exists_taken_of_suffix (diagnoses.stops equal).1 yields with ⟨taken, split, takenYields⟩
  exact ⟨derivation, taken, nesting, split, takenYields, scanned_of_append scanned yields⟩

theorem diagnoses_fail (level : Level) : Diagnoses 0 (.level level) (fail .tooDeep) where
  toReads := reads_fail level .tooDeep
  stops equal := nomatch equal
  fails _ equal := by
    cases equal
    exact ⟨[], rfl, fun shallow => absurd rfl shallow⟩

/-! ## Junctions -/

section Junctions

variable {bound : Nat} {connective : Connective} {operand : Reader Condition}

theorem ends_operands_iff {follow : List Token} :
    (Category.operands connective).Ends follow ↔
      (Category.level connective.operand).Ends follow ∧
        follow.head? ≠ some connective.token := by
  cases connective with
  | disjunction => exact and_assoc.symm
  | conjunction => exact Iff.rfl

theorem others_stops (diagnoses : Diagnoses bound (.level connective.operand) operand)
    {limit : Nat} {tokens rest : List Located} {values : List Condition}
    (enough : tokens.length ≤ limit)
    (ends : (Category.level connective.operand).Ends (bare tokens))
    (equal : others connective.token operand limit tokens = .ok (values, rest)) :
    rest <:+ tokens ∧ (Category.operands connective).Ends (bare rest) := by
  induction limit, tokens using others.induct connective.token generalizing values with
  | case1 limit position tokens induction =>
      rw [others, if_pos rfl] at equal
      rcases exists_of_bind_eq_ok equal with ⟨⟨head, between⟩, headRead, equal⟩
      rcases exists_of_bind_eq_ok equal with ⟨⟨tail, _⟩, tailRead, equal⟩
      cases equal
      rcases diagnoses.stops headRead with ⟨left, headEnds⟩
      have enoughBetween := left.length_le.trans (Nat.le_of_succ_le_succ enough)
      rcases induction between enoughBetween headEnds tailRead with ⟨leftBetween, restEnds⟩
      exact ⟨(leftBetween.trans left).trans (List.suffix_cons _ _), restEnds⟩
  | case2 limit position token tokens different =>
      rw [others, if_neg different] at equal
      cases equal
      refine ⟨List.suffix_rfl, ends_operands_iff.mpr ⟨ends, ?_⟩⟩
      intro starts
      exact different (Option.some.inj starts)
  | case3 limit tokens stops =>
      have empty : tokens = [] := by
        rcases tokens with _ | ⟨⟨position, token⟩, tokens⟩
        · rfl
        · rcases exists_succ_of_cons_length_le enough with ⟨before, rfl, _⟩
          exact (stops before position token tokens rfl rfl).elim
      rw [others.eq_2 _ _ _ _ stops, empty] at equal
      cases equal
      exact ⟨List.nil_suffix, ends_operands_iff.mpr ⟨Category.ends_nil _, by simp⟩⟩

theorem others_fails (diagnoses : Diagnoses bound (.level connective.operand) operand)
    {limit : Nat} {tokens remaining : List Located} {fault : Fault}
    (scanned : ∀ token ∈ bare tokens, token.IsScanned)
    (equal : others connective.token operand limit tokens = .error ⟨remaining, fault⟩) :
    ∃ taken, tokens = taken ++ remaining ∧ (bare taken).head? = some connective.token ∧
      (fault ≠ .tooDeep →
        Offends bound (.operands connective) (bare taken) (bare remaining)) := by
  induction limit, tokens using others.induct connective.token with
  | case1 limit position tokens induction =>
      have scannedTokens := scanned_of_cons scanned
      rw [others, if_pos rfl] at equal
      rcases eq_error_or_of_bind_eq_error equal with headFails | ⟨⟨head, between⟩, headRead, equal⟩
      · rcases diagnoses.fails scannedTokens headFails with ⟨taken, rfl, offends⟩
        exact ⟨⟨position, connective.token⟩ :: taken, rfl, rfl,
          fun shallow => (offends shallow).nextOperand⟩
      · have tailFails := eq_error_of_bind_eq_error (fun _ => ⟨_, rfl⟩) equal
        rcases diagnoses.exists_taken scannedTokens headRead with
          ⟨head, headTaken, nesting, rfl, headYields, scannedBetween⟩
        rcases induction between scannedBetween tailFails with ⟨taken, rfl, starts, offends⟩
        refine ⟨⟨position, connective.token⟩ :: (headTaken ++ taken), by simp, rfl, ?_⟩
        intro shallow
        have later := (offends shallow).laterOperands head nesting starts
        rwa [← headYields, ← bare_append] at later
  | case2 limit position token tokens different =>
      rw [others, if_neg different] at equal
      cases equal
  | case3 limit tokens stops =>
      rw [others.eq_2 _ _ _ _ stops] at equal
      cases equal

theorem diagnoses_junction (diagnoses : Diagnoses bound (.level connective.operand) operand)
    (positive : 0 < bound) : Diagnoses bound (.level (.junction connective))
      (junction connective.token connective.join operand) where
  toReads := reads_junction diagnoses.toReads positive
  stops := by
    intro tokens rest value equal
    rcases exists_of_bind_eq_ok equal with ⟨⟨_, between⟩, firstRead, equal⟩
    rcases exists_of_bind_eq_ok equal with ⟨⟨_, _⟩, othersRead, equal⟩
    cases equal
    rcases diagnoses.stops firstRead with ⟨left, firstEnds⟩
    rcases others_stops diagnoses (Nat.le_refl between.length) firstEnds othersRead with
      ⟨leftBetween, restEnds⟩
    exact ⟨leftBetween.trans left, (Category.ends_junction_iff _ _).mpr restEnds⟩
  fails := by
    intro tokens remaining fault scanned equal
    rcases eq_error_or_of_bind_eq_error equal with
      firstFails | ⟨⟨_, between⟩, firstRead, equal⟩
    · rcases diagnoses.fails scanned firstFails with ⟨taken, rfl, offends⟩
      exact ⟨taken, rfl, fun shallow => (offends shallow).firstOperand⟩
    · have othersFails := eq_error_of_bind_eq_error (fun _ => ⟨_, rfl⟩) equal
      rcases diagnoses.exists_taken scanned firstRead with
        ⟨first, firstTaken, nesting, rfl, firstYields, scannedBetween⟩
      rcases others_fails diagnoses scannedBetween othersFails with
        ⟨taken, rfl, starts, offends⟩
      refine ⟨firstTaken ++ taken, (List.append_assoc _ _ _).symm, ?_⟩
      intro shallow
      rw [bare_append, firstYields]
      exact (offends shallow).otherOperands first nesting starts

theorem diagnoses_disjunction (diagnoses : Diagnoses bound (.level .negation) operand)
    (positive : 0 < bound) :
    Diagnoses bound (.level (.junction .disjunction)) (disjunction operand) :=
  have conjunctions : Diagnoses bound (.level (.junction .conjunction)) (conjunction operand) :=
    diagnoses_junction diagnoses positive
  diagnoses_junction conjunctions positive

end Junctions

/-! ## Comparisons -/

theorem relation?_eq_some_suffix {tokens rest : List Located} {relation : Relation}
    (found : relation? tokens = some (relation, rest)) : rest <:+ tokens := by
  fun_cases relation? tokens with
  | case1 | case2 =>
      cases found
      exact List.suffix_cons _ _
  | case3 =>
      cases found
      exact (List.suffix_cons _ _).trans (List.suffix_cons _ _)
  | case4 => simp_all [relation?]

theorem startsStep_of_relation?_eq_none {tokens : List Located}
    (noRelation : relation? tokens = none) : startsStep (bare tokens) = false := by
  rcases tokens with _ | ⟨⟨_, first⟩, rest⟩
  · rfl
  · cases first with
    | negation =>
        rcases rest with _ | ⟨⟨_, second⟩, rest⟩
        · rfl
        · cases second with
          | membership => cases noRelation
          | _ => rfl
    | relation | membership => cases noRelation
    | _ => rfl

section Comparisons

variable {bound : Nat} {operand : Reader Condition}

theorem steps_stops (diagnoses : Diagnoses bound (.level .operand) operand) {limit : Nat}
    {tokens rest : List Located} {values : List (Relation × Condition)}
    (enough : tokens.length ≤ limit) (equal : steps operand limit tokens = .ok (values, rest)) :
    rest <:+ tokens ∧ Category.steps.Ends (bare rest) := by
  induction limit, tokens using steps.induct generalizing values with
  | case1 tokens =>
      cases equal
      rw [List.eq_nil_of_length_eq_zero (Nat.le_zero.mp enough)]
      exact ⟨List.suffix_rfl, rfl⟩
  | case2 limit tokens relation between found induction =>
      rw [steps, found] at equal
      rcases exists_of_bind_eq_ok equal with ⟨⟨_, after⟩, headRead, equal⟩
      rcases exists_of_bind_eq_ok equal with ⟨⟨_, _⟩, tailRead, equal⟩
      cases equal
      have left := (diagnoses.stops headRead).1
      have shorter := relation?_length_lt found
      have enoughAfter : after.length ≤ limit := by
        have := left.length_le
        omega
      rcases induction after enoughAfter tailRead with ⟨leftAfter, restEnds⟩
      exact ⟨(leftAfter.trans left).trans (relation?_eq_some_suffix found), restEnds⟩
  | case3 limit tokens noRelation =>
      rw [steps, noRelation] at equal
      cases equal
      exact ⟨List.suffix_rfl, startsStep_of_relation?_eq_none noRelation⟩

theorem steps_fails (diagnoses : Diagnoses bound (.level .operand) operand) {limit : Nat}
    {tokens remaining : List Located} {fault : Fault}
    (scanned : ∀ token ∈ bare tokens, token.IsScanned)
    (equal : steps operand limit tokens = .error ⟨remaining, fault⟩) :
    ∃ taken, tokens = taken ++ remaining ∧
      (fault ≠ .tooDeep → Offends bound .steps (bare taken) (bare remaining)) := by
  induction limit, tokens using steps.induct with
  | case1 tokens => cases equal
  | case2 limit tokens relation between found induction =>
      have relationYields := bare_eq_of_relation?_eq_some scanned found
      have scannedBetween := scanned_of_append scanned relationYields
      rcases exists_taken_of_suffix (relation?_eq_some_suffix found) relationYields with
        ⟨relationTaken, rfl, takenYields⟩
      rw [steps, found] at equal
      rcases eq_error_or_of_bind_eq_error equal with headFails | ⟨⟨_, after⟩, headRead, equal⟩
      · rcases diagnoses.fails scannedBetween headFails with ⟨taken, rfl, offends⟩
        refine ⟨relationTaken ++ taken, (List.append_assoc _ _ _).symm, ?_⟩
        intro shallow
        rw [bare_append, takenYields]
        exact (offends shallow).nextStep relation
      · have tailFails := eq_error_of_bind_eq_error (fun _ => ⟨_, rfl⟩) equal
        rcases diagnoses.exists_taken scannedBetween headRead with
          ⟨head, headTaken, nesting, rfl, headYields, scannedAfter⟩
        rcases induction after scannedAfter tailFails with ⟨taken, rfl, offends⟩
        refine ⟨relationTaken ++ (headTaken ++ taken), by simp, ?_⟩
        intro shallow
        rw [bare_append, bare_append, takenYields, headYields]
        exact (offends shallow).laterSteps relation head nesting
  | case3 limit tokens noRelation =>
      rw [steps, noRelation] at equal
      cases equal

theorem diagnoses_comparison (diagnoses : Diagnoses bound (.level .operand) operand)
    (positive : 0 < bound) :
    Diagnoses bound (.level .comparison) (comparison operand) where
  toReads := reads_comparison diagnoses.toReads positive
  stops := by
    intro tokens rest value equal
    rcases exists_of_bind_eq_ok equal with ⟨⟨_, between⟩, firstRead, equal⟩
    rcases exists_of_bind_eq_ok equal with ⟨⟨_, _⟩, stepsRead, equal⟩
    cases equal
    rcases steps_stops diagnoses (Nat.le_refl between.length) stepsRead with
      ⟨leftBetween, restEnds⟩
    exact ⟨leftBetween.trans (diagnoses.stops firstRead).1, restEnds⟩
  fails := by
    intro tokens remaining fault scanned equal
    rcases eq_error_or_of_bind_eq_error equal with
      firstFails | ⟨⟨_, between⟩, firstRead, equal⟩
    · rcases diagnoses.fails scanned firstFails with ⟨taken, rfl, offends⟩
      exact ⟨taken, rfl, fun shallow => (offends shallow).comparedFirst⟩
    · have stepsFails := eq_error_of_bind_eq_error (fun _ => ⟨_, rfl⟩) equal
      rcases diagnoses.exists_taken scanned firstRead with
        ⟨first, firstTaken, nesting, rfl, firstYields, scannedBetween⟩
      rcases steps_fails diagnoses scannedBetween stepsFails with ⟨taken, rfl, offends⟩
      refine ⟨firstTaken ++ taken, (List.append_assoc _ _ _).symm, ?_⟩
      intro shallow
      rw [bare_append, firstYields]
      exact (offends shallow).steps first nesting

end Comparisons

/-! ## Parentheses -/

/-- The first token is none that the tokens were matched for. -/
theorem head?_bare_ne {token : Token} {tokens : List Located}
    (different : ∀ position rest, tokens = ⟨position, token⟩ :: rest → False) :
    (bare tokens).head? ≠ some token := by
  intro starts
  rcases List.head?_eq_some_iff.mp starts with ⟨tail, cons⟩
  rcases exists_of_bare_eq_cons cons with ⟨position, rest, rfl, _⟩
  exact different position rest rfl

theorem closing_eq_error {tokens remaining : List Located} {fault : Fault}
    (equal : closing tokens = .error ⟨remaining, fault⟩) :
    remaining = tokens ∧ (bare tokens).head? ≠ some .closing := by
  fun_cases closing tokens with
  | case1 => cases equal
  | case2 _ stops =>
      rw [closing.eq_2 _ stops] at equal
      cases equal
      exact ⟨rfl, head?_bare_ne stops⟩

section Parentheses

variable {bound : Nat} {inner : Reader Condition}

theorem items_of_not_comma (limit : Nat) {tokens : List Located}
    (notComma : (bare tokens).head? ≠ some .comma) :
    items inner limit tokens = .ok ([], tokens) := by
  apply items.eq_3
  · rintro comma closing rest rfl
    exact notComma rfl
  · rintro _ comma rest _ rfl
    exact notComma rfl

theorem items_stops (diagnoses : Diagnoses bound (.level (.junction .disjunction)) inner)
    {limit : Nat} {tokens rest : List Located} {values : List Condition}
    (equal : items inner limit tokens = .ok (values, rest)) : rest <:+ tokens := by
  induction limit, tokens using items.induct generalizing values with
  | case1 limit comma closing tokens =>
      rw [items.eq_1] at equal
      cases equal
      exact List.suffix_cons _ _
  | case2 limit comma tokens notLast induction =>
      rw [items.eq_2 _ _ _ _ notLast] at equal
      rcases exists_of_bind_eq_ok equal with ⟨⟨_, between⟩, headRead, equal⟩
      rcases exists_of_bind_eq_ok equal with ⟨⟨_, _⟩, tailRead, equal⟩
      cases equal
      exact ((induction between tailRead).trans (diagnoses.stops headRead).1).trans
        (List.suffix_cons _ _)
  | case3 limit tokens notLast notNext =>
      rw [items.eq_3 _ _ _ notLast notNext] at equal
      cases equal
      exact List.suffix_rfl

theorem items_fails (diagnoses : Diagnoses bound (.level (.junction .disjunction)) inner)
    {limit : Nat} {tokens remaining : List Located} {fault : Fault}
    (scanned : ∀ token ∈ bare tokens, token.IsScanned)
    (equal : items inner limit tokens = .error ⟨remaining, fault⟩) :
    ∃ taken, tokens = taken ++ remaining ∧ (bare taken).head? = some .comma ∧
      (fault ≠ .tooDeep → Offends bound .items (bare taken) (bare remaining)) := by
  induction limit, tokens using items.induct with
  | case1 limit comma closing tokens =>
      rw [items.eq_1] at equal
      cases equal
  | case2 limit comma tokens notLast induction =>
      have scannedTokens := scanned_of_cons scanned
      have notClosing := head?_bare_ne notLast
      rw [items.eq_2 _ _ _ _ notLast] at equal
      rcases eq_error_or_of_bind_eq_error equal with headFails | ⟨⟨_, between⟩, headRead, equal⟩
      · rcases diagnoses.fails scannedTokens headFails with ⟨taken, rfl, offends⟩
        rw [bare_append] at notClosing
        exact ⟨⟨comma, .comma⟩ :: taken, rfl, rfl,
          fun shallow => (offends shallow).nextItem notClosing⟩
      · have tailFails := eq_error_of_bind_eq_error (fun _ => ⟨_, rfl⟩) equal
        rcases diagnoses.exists_taken scannedTokens headRead with
          ⟨head, headTaken, nesting, rfl, headYields, scannedBetween⟩
        rcases induction between scannedBetween tailFails with ⟨taken, rfl, starts, offends⟩
        refine ⟨⟨comma, .comma⟩ :: (headTaken ++ taken), by simp, rfl, ?_⟩
        intro shallow
        have later := (offends shallow).laterItems head nesting starts
        rwa [← headYields, ← bare_append] at later
  | case3 limit tokens notLast notNext =>
      rw [items.eq_3 _ _ _ notLast notNext] at equal
      cases equal

/-- After the last item that the items reader takes there is no comma. If there is no closing
parenthesis either, the token offends. -/
theorem items_unclosed (diagnoses : Diagnoses bound (.level (.junction .disjunction)) inner)
    {limit : Nat} {tokens rest : List Located} {values : List Condition}
    (scanned : ∀ token ∈ bare tokens, token.IsScanned) (enough : tokens.length ≤ limit)
    (starts : (bare tokens).head? = some .comma)
    (notClosing : (bare rest).head? ≠ some .closing)
    (equal : items inner limit tokens = .ok (values, rest)) :
    ∃ taken, tokens = taken ++ rest ∧ (bare taken).head? = some .comma ∧
      Offends bound .items (bare taken) (bare rest) := by
  induction limit, tokens using items.induct generalizing values with
  | case1 limit comma closing tokens =>
      rw [items.eq_1] at equal
      cases equal
      exact absurd rfl notClosing
  | case2 limit comma tokens notLast induction =>
      have scannedTokens := scanned_of_cons scanned
      rw [items.eq_2 _ _ _ _ notLast] at equal
      rcases exists_of_bind_eq_ok equal with ⟨⟨_, between⟩, headRead, equal⟩
      rcases exists_of_bind_eq_ok equal with ⟨⟨_, _⟩, tailRead, equal⟩
      cases equal
      rcases diagnoses.stops headRead with ⟨left, headEnds⟩
      rcases diagnoses.exists_taken scannedTokens headRead with
        ⟨head, headTaken, nesting, rfl, headYields, scannedBetween⟩
      by_cases more : (bare between).head? = some .comma
      · have enoughBetween := left.length_le.trans (Nat.le_of_succ_le_succ enough)
        rcases induction between scannedBetween enoughBetween more tailRead with
          ⟨taken, rfl, tailStarts, offends⟩
        refine ⟨⟨comma, .comma⟩ :: (headTaken ++ taken), by simp, rfl, ?_⟩
        have later := offends.laterItems head nesting tailStarts
        rwa [← headYields, ← bare_append] at later
      · rw [items_of_not_comma limit more] at tailRead
        cases tailRead
        have offends := Offends.unclosedItems head nesting headEnds more notClosing
        rw [← headYields] at offends
        exact ⟨⟨comma, .comma⟩ :: headTaken, rfl, rfl, offends⟩
  | case3 limit tokens notLast notNext =>
      rcases List.head?_eq_some_iff.mp starts with ⟨tail, cons⟩
      rcases exists_of_bare_eq_cons cons with ⟨position, others, rfl, _⟩
      rcases exists_succ_of_cons_length_le enough with ⟨before, rfl, _⟩
      exact (notNext before position others rfl rfl).elim

/-- The items of a tuple fail, or the closing parenthesis after them is missing. -/
theorem tuple_fails (diagnoses : Diagnoses bound (.level (.junction .disjunction)) inner)
    {tokens remaining : List Located} {fault : Fault}
    (scanned : ∀ token ∈ bare tokens, token.IsScanned)
    (starts : (bare tokens).head? = some .comma)
    (cause : items inner tokens.length tokens = .error ⟨remaining, fault⟩ ∨
      ∃ values rest, items inner tokens.length tokens = .ok (values, rest) ∧
        closing rest = .error ⟨remaining, fault⟩) :
    ∃ taken, tokens = taken ++ remaining ∧ (bare taken).head? = some .comma ∧
      (fault ≠ .tooDeep → Offends bound .items (bare taken) (bare remaining)) := by
  rcases cause with itemsFail | ⟨values, rest, itemsRead, closingFails⟩
  · exact items_fails diagnoses scanned itemsFail
  · rcases closing_eq_error closingFails with ⟨rfl, notClosing⟩
    rcases items_unclosed diagnoses scanned (Nat.le_refl _) starts notClosing itemsRead with
      ⟨taken, split, takenStarts, offends⟩
    exact ⟨taken, split, takenStarts, fun _ => offends⟩

theorem group_stops (diagnoses : Diagnoses bound (.level (.junction .disjunction)) inner)
    {tokens rest : List Located} {value : Condition}
    (equal : group inner tokens = .ok (value, rest)) : rest <:+ tokens := by
  fun_cases group inner tokens with
  | case1 =>
      cases equal
      exact List.suffix_cons _ _
  | case2 _ notEmpty =>
      rw [group.eq_2 _ _ notEmpty] at equal
      rcases exists_of_bind_eq_ok equal with ⟨⟨_, between⟩, firstRead, afterFirst⟩
      have left := (diagnoses.stops firstRead).1
      dsimp only at afterFirst
      split at afterFirst
      · rcases exists_of_bind_eq_ok afterFirst with ⟨⟨_, last⟩, othersRead, afterOthers⟩
        rcases exists_of_bind_eq_ok afterOthers with ⟨⟨_, _⟩, closes, done⟩
        cases done
        rcases closing_eq_ok closes with ⟨_, rfl⟩
        exact ((List.suffix_cons _ _).trans (items_stops diagnoses othersRead)).trans left
      · rcases exists_of_bind_eq_ok afterFirst with ⟨⟨_, _⟩, closes, done⟩
        cases done
        rcases closing_eq_ok closes with ⟨_, rfl⟩
        exact (List.suffix_cons _ _).trans left

theorem group_fails (diagnoses : Diagnoses bound (.level (.junction .disjunction)) inner)
    {tokens remaining : List Located} {fault : Fault}
    (scanned : ∀ token ∈ bare tokens, token.IsScanned)
    (equal : group inner tokens = .error ⟨remaining, fault⟩) :
    ∃ taken, tokens = taken ++ remaining ∧
      (fault ≠ .tooDeep → Offends (bound + 1) (.level .operand)
        (.opening :: bare taken) (bare remaining)) := by
  fun_cases group inner tokens with
  | case1 => cases equal
  | case2 _ notEmpty =>
      have notClosing := head?_bare_ne notEmpty
      rw [group.eq_2 _ _ notEmpty] at equal
      rcases eq_error_or_of_bind_eq_error equal with
        firstFails | ⟨⟨_, between⟩, firstRead, afterFirst⟩
      · rcases diagnoses.fails scanned firstFails with ⟨taken, rfl, offends⟩
        rw [bare_append] at notClosing
        exact ⟨taken, rfl, fun shallow => (offends shallow).grouped notClosing⟩
      · have firstEnds := (diagnoses.stops firstRead).2
        rcases diagnoses.exists_taken scanned firstRead with
          ⟨first, firstTaken, nesting, rfl, firstYields, scannedBetween⟩
        dsimp only at afterFirst
        split at afterFirst
        case h_1 position after =>
          have cause : items inner (after.length + 1) (⟨position, .comma⟩ :: after) =
                .error ⟨remaining, fault⟩ ∨
              ∃ values rest, items inner (after.length + 1) (⟨position, .comma⟩ :: after) =
                .ok (values, rest) ∧ closing rest = .error ⟨remaining, fault⟩ := by
            rcases eq_error_or_of_bind_eq_error afterFirst with
              itemsFail | ⟨⟨values, rest⟩, itemsRead, afterItems⟩
            · exact .inl itemsFail
            · have closingFails := eq_error_of_bind_eq_error (fun _ => ⟨_, rfl⟩) afterItems
              exact .inr ⟨values, rest, itemsRead, closingFails⟩
          rcases tuple_fails diagnoses scannedBetween rfl cause with
            ⟨taken, split, starts, offends⟩
          refine ⟨firstTaken ++ taken, by rw [split, List.append_assoc], ?_⟩
          intro shallow
          rw [bare_append, firstYields]
          exact (offends shallow).tupleItems first nesting starts
        case h_2 notComma =>
          have closingFails := eq_error_of_bind_eq_error (fun _ => ⟨_, rfl⟩) afterFirst
          rcases closing_eq_error closingFails with ⟨rfl, notClosing⟩
          refine ⟨firstTaken, rfl, ?_⟩
          intro _
          rw [firstYields]
          exact .unclosed first nesting firstEnds (head?_bare_ne notComma) notClosing

end Parentheses

/-- What `Diagnoses` says of operands, about those that start with a parenthesis. The reader
gets the parenthesis too. -/
structure DiagnosesGroup (bound : Nat) (reader : Reader Condition) : Prop
    extends ReadsGroup bound reader where
  stops : ∀ {position : Nat} {tokens rest : List Located} {value : Condition},
    reader (⟨position, .opening⟩ :: tokens) = .ok (value, rest) →
      rest <:+ ⟨position, .opening⟩ :: tokens
  fails : ∀ {position : Nat} {tokens remaining : List Located} {fault : Fault},
    (∀ token ∈ bare tokens, token.IsScanned) →
      reader (⟨position, .opening⟩ :: tokens) = .error ⟨remaining, fault⟩ →
        ∃ taken, ⟨position, .opening⟩ :: tokens = taken ++ remaining ∧
          (fault ≠ .tooDeep → Offends bound (.level .operand) (bare taken) (bare remaining))

theorem diagnosesGroup_fail : DiagnosesGroup 1 (fail .tooDeep) where
  toReadsGroup := readsGroup_fail .tooDeep
  stops equal := nomatch equal
  fails _ equal := by
    cases equal
    exact ⟨[], rfl, fun shallow => absurd rfl shallow⟩

theorem diagnosesGroup_group {bound : Nat} {inner : Reader Condition}
    (diagnoses : Diagnoses bound (.level (.junction .disjunction)) inner) (positive : 0 < bound) :
    DiagnosesGroup (bound + 1) fun tokens => group inner tokens.tail where
  toReadsGroup := readsGroup_group diagnoses.toReads positive
  stops equal := (group_stops diagnoses equal).trans (List.suffix_cons _ _)
  fails := by
    intro position tokens remaining fault scanned equal
    rcases group_fails diagnoses scanned equal with ⟨taken, rfl, offends⟩
    exact ⟨⟨position, .opening⟩ :: taken, rfl, offends⟩

/-! ## Operands and negations -/

section Levels

variable {bound : Nat} {negated parenthesized : Reader Condition}

theorem diagnoses_operand (group : DiagnosesGroup (bound + 1) parenthesized) :
    Diagnoses (bound + 1) (.level .operand) (operand parenthesized) where
  toReads := reads_operand group.toReadsGroup
  stops := by
    intro tokens rest value equal
    refine ⟨?_, trivial⟩
    fun_cases operand parenthesized tokens with
    | case1 | case2 | case3 | case4 =>
        cases equal
        exact List.suffix_cons _ _
    | case5 position tokens => exact group.stops equal
    | case6 => cases equal
    | case7 _ notName notInteger notText notBoolean notOpening notEmpty =>
        rw [operand.eq_7 _ _ notName notInteger notText notBoolean notOpening notEmpty]
          at equal
        cases equal
  fails := by
    intro tokens remaining fault scanned equal
    fun_cases operand parenthesized tokens with
    | case1 | case2 | case3 | case4 => cases equal
    | case5 position tokens => exact group.fails (scanned_of_cons scanned) equal
    | case6 =>
        cases equal
        exact ⟨[], rfl, fun _ => .operand (by simp)⟩
    | case7 _ notName notInteger notText notBoolean notOpening notEmpty =>
        rw [operand.eq_7 _ _ notName notInteger notText notBoolean notOpening notEmpty]
          at equal
        cases equal
        refine ⟨[], rfl, fun _ => .operand ?_⟩
        intro token starts
        rcases List.head?_eq_some_iff.mp starts with ⟨tail, cons⟩
        rcases exists_of_bare_eq_cons cons with ⟨position, rest, rfl, _⟩
        cases token with
        | name word => exact (notName position word rest rfl).elim
        | integer value => exact (notInteger position value rest rfl).elim
        | text value => exact (notText position value rest rfl).elim
        | boolean value => exact (notBoolean position value rest rfl).elim
        | opening => exact (notOpening position rest rfl).elim
        | _ => rfl

theorem diagnoses_negationOr (diagnoses : Diagnoses bound (.level .negation) negated)
    (group : DiagnosesGroup (bound + 1) parenthesized) :
    Diagnoses (bound + 1) (.level .negation) (negationOr negated parenthesized) where
  toReads := reads_negationOr diagnoses.toReads group.toReadsGroup
  stops := by
    intro tokens rest value equal
    fun_cases negationOr negated parenthesized tokens with
    | case1 _ tokens =>
        rcases exists_of_bind_eq_ok equal with ⟨⟨_, _⟩, innerRead, equal⟩
        cases equal
        rcases diagnoses.stops innerRead with ⟨left, ends⟩
        exact ⟨left.trans (List.suffix_cons _ _), ends⟩
    | case2 _ notNegation =>
        rw [negationOr.eq_2 _ _ _ notNegation] at equal
        exact (diagnoses_comparison (diagnoses_operand group) (Nat.succ_pos bound)).stops equal
  fails := by
    intro tokens remaining fault scanned equal
    fun_cases negationOr negated parenthesized tokens with
    | case1 position tokens =>
        have innerFails := eq_error_of_bind_eq_error (fun _ => ⟨_, rfl⟩) equal
        rcases diagnoses.fails (scanned_of_cons scanned) innerFails with ⟨taken, rfl, offends⟩
        exact ⟨⟨position, .negation⟩ :: taken, rfl, fun shallow => (offends shallow).negated⟩
    | case2 _ notNegation =>
        have notSign := head?_bare_ne notNegation
        rw [negationOr.eq_2 _ _ _ notNegation] at equal
        rcases (diagnoses_comparison (diagnoses_operand group) (Nat.succ_pos bound)).fails
            scanned equal with ⟨taken, rfl, offends⟩
        rw [bare_append] at notSign
        exact ⟨taken, rfl, fun shallow => (offends shallow).plain notSign⟩

theorem diagnoses_negation :
    ∀ depth, Diagnoses (depth + 1) (.level .negation) (negation depth)
  | 0 => diagnoses_negationOr (diagnoses_fail .negation) diagnosesGroup_fail
  | depth + 1 =>
      have diagnoses := diagnoses_negation depth
      have conditions := diagnoses_disjunction diagnoses depth.succ_pos
      diagnoses_negationOr diagnoses (diagnosesGroup_group conditions depth.succ_pos)

theorem diagnoses_condition (depth : Nat) :
    Diagnoses (depth + 1) (.level (.junction .disjunction)) (condition depth) :=
  diagnoses_disjunction (diagnoses_negation depth) depth.succ_pos

end Levels

end Reader

end PackageRecipe.Condition
