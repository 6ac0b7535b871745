import PackageRecipe.Proofs.Condition.Scanning
import PackageRecipe.Proofs.Condition.Unambiguity

/-!
The reader of conditions accepts exactly the tokens that the grammar derives within
the depth limit, and gives the condition that the derivation means. Every reader of
the parser has one statement here, about the category that it reads; each level
follows from the next one, and a depth from the depth below it.
-/

namespace PackageRecipe.Condition

/-- The tokens, without their positions. -/
abbrev bare (tokens : List Located) : List Token :=
  tokens.map Located.token

namespace Reader

/-- A reader of a category takes exactly the tokens that have a derivation nested
less deep than a bound, if the tokens after them end the category, and its value is
what the derivation means. -/
structure Reads (bound : Nat) (category : Category)
    (reader : List Located → Except Failure (category.Meaning × List Located)) :
    Prop where
  sound : ∀ {tokens rest : List Located} {value : category.Meaning},
    (∀ token ∈ bare tokens, token.IsScanned) → reader tokens = .ok (value, rest) →
      ∃ derivation : Derivation category, derivation.nesting < bound ∧
        derivation.meaning = value ∧ bare tokens = derivation.yield ++ bare rest
  complete : ∀ (derivation : Derivation category) {tokens : List Located}
    {follow : List Token}, derivation.nesting < bound → category.Ends follow →
      bare tokens = derivation.yield ++ follow →
        ∃ rest, bare rest = follow ∧ reader tokens = .ok (derivation.meaning, rest)

/-- Nothing nests less deep than zero. -/
theorem reads_fail (level : Level) (fault : Fault) :
    Reads 0 (.level level) (fail fault) where
  sound _ equal := nomatch equal
  complete _ _ _ less := absurd less (Nat.not_lt_zero _)

theorem scanned_of_append {tokens rest : List Located} {taken : List Token}
    (scanned : ∀ token ∈ bare tokens, token.IsScanned)
    (equal : bare tokens = taken ++ bare rest) :
    ∀ token ∈ bare rest, token.IsScanned := by
  intro token member
  exact scanned token (equal ▸ List.mem_append_right taken member)

theorem scanned_of_cons {position : Nat} {head : Token} {tokens : List Located}
    (scanned : ∀ token ∈ bare (⟨position, head⟩ :: tokens), token.IsScanned) :
    ∀ token ∈ bare tokens, token.IsScanned :=
  fun token member => scanned token (List.mem_cons_of_mem _ member)

theorem exists_of_bare_eq_cons {tokens : List Located} {head : Token} {tail : List Token}
    (equal : bare tokens = head :: tail) :
    ∃ position rest, tokens = ⟨position, head⟩ :: rest ∧ bare rest = tail := by
  rcases List.map_eq_cons_iff.mp equal with ⟨⟨position, _⟩, rest, rfl, rfl, tailEqual⟩
  exact ⟨position, rest, rfl, tailEqual⟩

theorem length_le_of_append {tokens rest : List Located} {taken : List Token}
    (equal : bare tokens = taken ++ bare rest) : rest.length ≤ tokens.length := by
  have lengths := congrArg List.length equal
  simp only [bare, List.length_append, List.length_map] at lengths
  omega

theorem exists_succ_of_cons_length_le {limit : Nat} {head : Located} {tail : List Located}
    (enough : (head :: tail).length ≤ limit) :
    ∃ before, limit = before + 1 ∧ tail.length ≤ before := by
  cases limit with
  | zero => exact absurd enough (Nat.not_succ_le_zero _)
  | succ before => exact ⟨before, rfl, Nat.le_of_succ_le_succ enough⟩

/-! ## Junctions -/

section Junctions

variable {bound : Nat} {connective : Connective} {operand : Reader Condition}

theorem others_sound (reads : Reads bound (.level connective.operand) operand)
    (positive : 0 < bound) {limit : Nat} {tokens rest : List Located}
    {values : List Condition} (scanned : ∀ token ∈ bare tokens, token.IsScanned)
    (equal : others connective.token operand limit tokens = .ok (values, rest)) :
    ∃ derivation : Derivation (.operands connective), derivation.nesting < bound ∧
      derivation.meaning = values ∧ bare tokens = derivation.yield ++ bare rest := by
  induction limit, tokens using others.induct connective.token generalizing values with
  | case1 limit position tokens induction =>
      rw [others, if_pos rfl] at equal
      rcases exists_of_bind_eq_ok equal with ⟨⟨head, between⟩, headRead, equal⟩
      rcases exists_of_bind_eq_ok equal with ⟨⟨tail, _⟩, tailRead, equal⟩
      cases equal
      have scannedTokens := scanned_of_cons scanned
      rcases reads.sound scannedTokens headRead with ⟨head, headNesting, rfl, headYield⟩
      rcases induction between (scanned_of_append scannedTokens headYield) tailRead with
        ⟨tail, tailNesting, rfl, tailYield⟩
      refine ⟨.nextOperand connective head tail,
        Nat.max_lt.mpr ⟨headNesting, tailNesting⟩, rfl, ?_⟩
      rw [Derivation.yield, List.cons_append, List.append_assoc, ← tailYield, ← headYield]
      rfl
  | case2 limit position token tokens different =>
      rw [others, if_neg different] at equal
      cases equal
      exact ⟨.noOperand connective, positive, rfl, rfl⟩
  | case3 limit tokens stops =>
      rw [others.eq_2 _ _ _ _ stops] at equal
      cases equal
      exact ⟨.noOperand connective, positive, rfl, rfl⟩

theorem others_complete (reads : Reads bound (.level connective.operand) operand) :
    (derivation : Derivation (.operands connective)) → ∀ {limit : Nat}
      {tokens : List Located} {follow : List Token}, derivation.nesting < bound →
      (Category.operands connective).Ends follow → tokens.length ≤ limit →
      bare tokens = derivation.yield ++ follow →
        ∃ rest, bare rest = follow ∧
          others connective.token operand limit tokens = .ok (derivation.meaning, rest)
  | .noOperand _, limit, tokens, follow, _, ends, _, equal => by
      refine ⟨tokens, equal, ?_⟩
      rcases limit with _ | limit
      · rw [others.eq_2 _ _ _ _ (by simp)]
        rfl
      · rcases tokens with _ | ⟨⟨position, token⟩, tokens⟩
        · rw [others.eq_2 _ _ _ _ (by simp)]
          rfl
        · rw [others, if_neg]
          · rfl
          · rintro rfl
            exact ends.head?_ne (by rw [← show _ = follow from equal]; rfl)
  | .nextOperand _ head tail, limit, tokens, follow, nesting, ends, enough, equal => by
      have nestings := Nat.max_lt.mp nesting
      simp only [Derivation.yield, List.cons_append, List.append_assoc] at equal
      rcases exists_of_bare_eq_cons equal with ⟨position, tokens, rfl, operands⟩
      rcases exists_succ_of_cons_length_le enough with ⟨limit, rfl, enoughAfter⟩
      rcases reads.complete head nestings.1 (tail.operands_ends ends) operands with
        ⟨between, betweenTokens, headRead⟩
      have shorter := length_le_of_append (operands.trans (congrArg _ betweenTokens.symm))
      rcases others_complete reads tail nestings.2 ends (shorter.trans enoughAfter)
          betweenTokens with
        ⟨rest, restTokens, tailRead⟩
      refine ⟨rest, restTokens, ?_⟩
      rw [others, if_pos rfl, headRead]
      change (others connective.token operand limit between >>= _) = _
      rw [tailRead]
      rfl

theorem reads_junction (reads : Reads bound (.level connective.operand) operand)
    (positive : 0 < bound) : Reads bound (.level (.junction connective))
      (junction connective.token connective.join operand) where
  sound := by
    intro tokens rest value scanned equal
    rcases exists_of_bind_eq_ok equal with ⟨⟨_, between⟩, firstRead, equal⟩
    rcases exists_of_bind_eq_ok equal with ⟨⟨_, _⟩, othersRead, equal⟩
    cases equal
    rcases reads.sound scanned firstRead with ⟨first, firstNesting, rfl, firstYield⟩
    rcases others_sound reads positive (scanned_of_append scanned firstYield) othersRead
        with
      ⟨others, othersNesting, rfl, othersYield⟩
    refine ⟨.junction connective first others,
      Nat.max_lt.mpr ⟨firstNesting, othersNesting⟩,
      Derivation.meaning_junction first others, ?_⟩
    rw [Derivation.yield, List.append_assoc, ← othersYield, ← firstYield]
  complete := by
    intro derivation tokens follow nesting ends equal
    cases derivation with
    | junction _ first others =>
        have nestings := Nat.max_lt.mp nesting
        rw [Category.ends_junction_iff] at ends
        rw [Derivation.yield, List.append_assoc] at equal
        rcases reads.complete first nestings.1 (others.operands_ends ends) equal with
          ⟨between, betweenTokens, firstRead⟩
        rcases others_complete reads others nestings.2 ends (Nat.le_refl between.length)
            betweenTokens with
          ⟨rest, restTokens, othersRead⟩
        refine ⟨rest, restTokens, ?_⟩
        rw [junction, firstRead]
        change (Reader.others connective.token operand between.length between >>= _) = _
        rw [othersRead, Derivation.meaning_junction]
        rfl

theorem reads_conjunction (reads : Reads bound (.level .negation) operand)
    (positive : 0 < bound) :
    Reads bound (.level (.junction .conjunction)) (conjunction operand) :=
  reads_junction reads positive

theorem reads_disjunction (reads : Reads bound (.level .negation) operand)
    (positive : 0 < bound) :
    Reads bound (.level (.junction .disjunction)) (disjunction operand) :=
  reads_junction (reads_conjunction reads positive) positive

end Junctions

/-! ## Comparisons -/

theorem bare_eq_of_relation?_eq_some {tokens rest : List Located} {relation : Relation}
    (scanned : ∀ token ∈ bare tokens, token.IsScanned)
    (found : relation? tokens = some (relation, rest)) :
    bare tokens = relationTokens relation ++ bare rest := by
  fun_cases relation? tokens with
  | case1 position sign rest =>
      cases found
      have notMembership := scanned (.relation relation) (by simp [bare])
      cases relation with
      | member => exact absurd rfl notMembership.1
      | notMember => exact absurd rfl notMembership.2
      | _ => rfl
  | case2 => cases found; rfl
  | case3 => cases found; rfl
  | case4 => simp_all [relation?]

theorem relation?_eq_some_of_bare_eq {tokens : List Located} {relation : Relation}
    {follow : List Token} (equal : bare tokens = relationTokens relation ++ follow) :
    ∃ rest, relation? tokens = some (relation, rest) ∧ bare rest = follow := by
  cases relation with
  | notMember =>
      rcases exists_of_bare_eq_cons equal with ⟨_, _, rfl, membership⟩
      rcases exists_of_bare_eq_cons membership with ⟨_, rest, rfl, restEqual⟩
      exact ⟨rest, rfl, restEqual⟩
  | _ =>
      rcases exists_of_bare_eq_cons equal with ⟨_, rest, rfl, restEqual⟩
      exact ⟨rest, rfl, restEqual⟩

theorem relation?_length_lt {tokens rest : List Located} {relation : Relation}
    (found : relation? tokens = some (relation, rest)) : rest.length < tokens.length := by
  fun_cases relation? tokens with
  | case1 | case2 | case3 =>
      cases found
      simp only [List.length_cons]
      omega
  | case4 => simp_all [relation?]

theorem relation?_eq_none_of_ends {tokens : List Located}
    (ends : startsStep (bare tokens) = false) : relation? tokens = none := by
  fun_cases relation? tokens <;> simp_all [bare, startsStep]

section Comparisons

variable {bound : Nat} {operand : Reader Condition}

theorem steps_sound (reads : Reads bound (.level .operand) operand)
    (positive : 0 < bound) {limit : Nat} {tokens rest : List Located}
    {values : List (Relation × Condition)}
    (scanned : ∀ token ∈ bare tokens, token.IsScanned)
    (equal : steps operand limit tokens = .ok (values, rest)) :
    ∃ derivation : Derivation .steps, derivation.nesting < bound ∧
      derivation.meaning = values ∧ bare tokens = derivation.yield ++ bare rest := by
  induction limit, tokens using steps.induct generalizing values with
  | case1 tokens =>
      cases equal
      exact ⟨.noStep, positive, rfl, rfl⟩
  | case2 limit tokens relation between found induction =>
      rw [steps, found] at equal
      rcases exists_of_bind_eq_ok equal with ⟨⟨_, after⟩, headRead, equal⟩
      rcases exists_of_bind_eq_ok equal with ⟨⟨_, _⟩, tailRead, equal⟩
      cases equal
      have relationYield := bare_eq_of_relation?_eq_some scanned found
      have scannedBetween := scanned_of_append scanned relationYield
      rcases reads.sound scannedBetween headRead with ⟨head, headNesting, rfl, headYield⟩
      rcases induction after (scanned_of_append scannedBetween headYield) tailRead with
        ⟨tail, tailNesting, rfl, tailYield⟩
      refine ⟨.nextStep relation head tail, Nat.max_lt.mpr ⟨headNesting, tailNesting⟩,
        rfl, ?_⟩
      rw [Derivation.yield, List.append_assoc, List.append_assoc, ← tailYield,
        ← headYield, ← relationYield]
  | case3 limit tokens noRelation =>
      rw [steps, noRelation] at equal
      cases equal
      exact ⟨.noStep, positive, rfl, rfl⟩

theorem steps_complete (reads : Reads bound (.level .operand) operand) :
    (derivation : Derivation .steps) → ∀ {limit : Nat} {tokens : List Located}
      {follow : List Token}, derivation.nesting < bound → Category.steps.Ends follow →
      tokens.length ≤ limit → bare tokens = derivation.yield ++ follow →
        ∃ rest, bare rest = follow ∧
          steps operand limit tokens = .ok (derivation.meaning, rest)
  | .noStep, limit, tokens, follow, _, ends, _, equal => by
      refine ⟨tokens, equal, ?_⟩
      cases limit with
      | zero => rfl
      | succ limit =>
          have noRelation : relation? tokens = none :=
            relation?_eq_none_of_ends ((congrArg startsStep equal).trans ends)
          rw [steps, noRelation]
          rfl
  | .nextStep relation head tail, limit, tokens, follow, nesting, ends, enough,
      equal => by
      have nestings := Nat.max_lt.mp nesting
      simp only [Derivation.yield, List.append_assoc] at equal
      rcases relation?_eq_some_of_bare_eq equal with ⟨after, found, afterTokens⟩
      rcases reads.complete head nestings.1 trivial afterTokens with
        ⟨between, betweenTokens, headRead⟩
      have shorter : after.length < tokens.length := relation?_length_lt found
      have shorterBetween :=
        length_le_of_append (afterTokens.trans (congrArg _ betweenTokens.symm))
      cases limit with
      | zero => omega
      | succ limit =>
          have enoughBetween : between.length ≤ limit := by omega
          rcases steps_complete reads tail nestings.2 ends enoughBetween
              betweenTokens with
            ⟨rest, restTokens, tailRead⟩
          refine ⟨rest, restTokens, ?_⟩
          rw [steps, found]
          change (operand after >>= _) = _
          rw [headRead]
          change (steps operand limit between >>= _) = _
          rw [tailRead]
          rfl

theorem reads_comparison (reads : Reads bound (.level .operand) operand)
    (positive : 0 < bound) : Reads bound (.level .comparison) (comparison operand) where
  sound := by
    intro tokens rest value scanned equal
    rcases exists_of_bind_eq_ok equal with ⟨⟨_, between⟩, firstRead, equal⟩
    rcases exists_of_bind_eq_ok equal with ⟨⟨_, _⟩, othersRead, equal⟩
    cases equal
    rcases reads.sound scanned firstRead with ⟨first, firstNesting, rfl, firstYield⟩
    rcases steps_sound reads positive (scanned_of_append scanned firstYield) othersRead
        with
      ⟨others, othersNesting, rfl, othersYield⟩
    refine ⟨.comparison first others, Nat.max_lt.mpr ⟨firstNesting, othersNesting⟩,
      Derivation.meaning_comparison first others, ?_⟩
    rw [Derivation.yield, List.append_assoc, ← othersYield, ← firstYield]
  complete := by
    intro derivation tokens follow nesting ends equal
    cases derivation with
    | comparison first others =>
        have nestings := Nat.max_lt.mp nesting
        rw [Derivation.yield, List.append_assoc] at equal
        rcases reads.complete first nestings.1 trivial equal with
          ⟨between, betweenTokens, firstRead⟩
        rcases steps_complete reads others nestings.2 ends (Nat.le_refl between.length)
            betweenTokens with
          ⟨rest, restTokens, othersRead⟩
        refine ⟨rest, restTokens, ?_⟩
        rw [comparison, firstRead]
        change (steps operand between.length between >>= _) = _
        rw [othersRead, Derivation.meaning_comparison]
        rfl

end Comparisons

/-! ## Parentheses -/

section Parentheses

variable {bound : Nat} {inner : Reader Condition}

theorem items_closing (limit position : Nat) (tokens : List Located) :
    items inner limit (⟨position, .closing⟩ :: tokens) =
      .ok ([], ⟨position, .closing⟩ :: tokens) :=
  items.eq_3 _ _ _ (by simp) (by simp)

theorem not_closing {level : Level} (derivation : Derivation (.level level))
    {tokens : List Located} {follow : List Token}
    (equal : bare tokens = derivation.yield ++ follow) (position : Nat)
    (rest : List Located) : tokens = ⟨position, .closing⟩ :: rest → False := by
  rintro rfl
  exact derivation.level_ne_closing _ _ equal.symm

/-- What the items reader takes before a closing parenthesis, nothing at all apart,
are the items of a tuple. -/
theorem items_sound (reads : Reads bound (.level (.junction .disjunction)) inner)
    (positive : 0 < bound) {limit position : Nat} {tokens rest : List Located}
    {values : List Condition} (scanned : ∀ token ∈ bare tokens, token.IsScanned)
    (equal : items inner limit tokens = .ok (values, ⟨position, .closing⟩ :: rest)) :
    (tokens = ⟨position, .closing⟩ :: rest ∧ values = []) ∨
      ∃ derivation : Derivation .items, derivation.nesting < bound ∧
        derivation.meaning = values ∧
        bare tokens = derivation.yield ++ .closing :: bare rest := by
  induction limit, tokens using items.induct generalizing values with
  | case1 limit comma closing tokens =>
      rw [items.eq_1] at equal
      cases equal
      exact .inr ⟨.lastComma, positive, rfl, rfl⟩
  | case2 limit comma tokens notLast induction =>
      rw [items.eq_2 _ _ _ _ notLast] at equal
      rcases exists_of_bind_eq_ok equal with ⟨⟨_, between⟩, headRead, equal⟩
      rcases exists_of_bind_eq_ok equal with ⟨⟨_, _⟩, tailRead, equal⟩
      cases equal
      have scannedTokens := scanned_of_cons scanned
      rcases reads.sound scannedTokens headRead with ⟨head, headNesting, rfl, headYield⟩
      rcases induction between (scanned_of_append scannedTokens headYield) tailRead with
        ⟨rfl, rfl⟩ | ⟨tail, tailNesting, rfl, tailYield⟩
      · exact .inr ⟨.lastItem head, headNesting, rfl,
          congrArg (Token.comma :: ·) headYield⟩
      · refine .inr ⟨.nextItem head tail, Nat.max_lt.mpr ⟨headNesting, tailNesting⟩,
          rfl, ?_⟩
        rw [Derivation.nextItem_yield_append, ← tailYield, ← headYield]
        rfl
  | case3 limit tokens notLast notNext =>
      rw [items.eq_3 _ _ _ notLast notNext] at equal
      cases equal
      exact .inl ⟨rfl, rfl⟩

theorem items_complete (reads : Reads bound (.level (.junction .disjunction)) inner) :
    (derivation : Derivation .items) → ∀ {limit : Nat} {tokens : List Located}
      {follow : List Token}, derivation.nesting < bound → tokens.length ≤ limit →
      bare tokens = derivation.yield ++ .closing :: follow →
        ∃ rest, bare rest = .closing :: follow ∧
          items inner limit tokens = .ok (derivation.meaning, rest)
  | .lastComma, limit, tokens, follow, _, _, equal => by
      rcases exists_of_bare_eq_cons equal with ⟨_, between, rfl, closing⟩
      rcases exists_of_bare_eq_cons closing with ⟨_, rest, rfl, _⟩
      exact ⟨_, closing, items.eq_1 _ _ _ _ _⟩
  | .lastItem item, limit, tokens, follow, nesting, enough, equal => by
      rcases exists_of_bare_eq_cons equal with ⟨_, tokens, rfl, itemTokens⟩
      rcases exists_succ_of_cons_length_le enough with ⟨limit, rfl, _⟩
      rcases reads.complete item nesting (Category.ends_closing _ _) itemTokens with
        ⟨between, betweenTokens, itemRead⟩
      rcases exists_of_bare_eq_cons betweenTokens with ⟨_, rest, rfl, _⟩
      refine ⟨_, betweenTokens, ?_⟩
      rw [items.eq_2 _ _ _ _ (not_closing item itemTokens), itemRead]
      change (items inner limit _ >>= _) = _
      rw [items_closing]
      rfl
  | .nextItem head tail, limit, tokens, follow, nesting, enough, equal => by
      have nestings := Nat.max_lt.mp nesting
      rw [Derivation.nextItem_yield_append] at equal
      rcases exists_of_bare_eq_cons equal with ⟨_, tokens, rfl, itemTokens⟩
      rcases exists_succ_of_cons_length_le enough with ⟨limit, rfl, enoughAfter⟩
      rcases reads.complete head nestings.1 (tail.items_ends _ _) itemTokens with
        ⟨between, betweenTokens, headRead⟩
      have shorter :=
        length_le_of_append (itemTokens.trans (congrArg _ betweenTokens.symm))
      rcases items_complete reads tail nestings.2 (shorter.trans enoughAfter)
          betweenTokens with
        ⟨rest, restTokens, tailRead⟩
      refine ⟨rest, restTokens, ?_⟩
      rw [items.eq_2 _ _ _ _ (not_closing head itemTokens), headRead]
      change (items inner limit between >>= _) = _
      rw [tailRead]
      rfl

/-- What `Reads` says of operands, about those that start with a parenthesis. The
reader gets the parenthesis too. -/
structure ReadsGroup (bound : Nat) (reader : Reader Condition) : Prop where
  sound : ∀ {position : Nat} {tokens rest : List Located} {value : Condition},
    (∀ token ∈ bare tokens, token.IsScanned) →
      reader (⟨position, .opening⟩ :: tokens) = .ok (value, rest) →
        ∃ derivation : Derivation (.level .operand), derivation.nesting < bound ∧
          derivation.meaning = value ∧
          .opening :: bare tokens = derivation.yield ++ bare rest
  complete : ∀ (derivation : Derivation (.level .operand)) {position : Nat}
    {tokens : List Located} {follow : List Token}, derivation.nesting < bound →
      .opening :: bare tokens = derivation.yield ++ follow →
        ∃ rest, bare rest = follow ∧
          reader (⟨position, .opening⟩ :: tokens) = .ok (derivation.meaning, rest)

theorem readsGroup_fail (fault : Fault) : ReadsGroup 1 (fail fault) where
  sound _ equal := nomatch equal
  complete := by
    intro derivation position tokens follow nesting equal
    cases derivation with
    | name | integer | text | boolean => simp [Derivation.yield] at equal
    | parenthesized | emptyTuple | tuple =>
        exact absurd nesting (by simp [Derivation.nesting])

theorem closing_eq_ok {tokens rest : List Located}
    (equal : closing tokens = .ok ((), rest)) :
    ∃ position, tokens = ⟨position, .closing⟩ :: rest := by
  fun_cases closing tokens with
  | case1 position rest =>
      cases equal
      exact ⟨position, rfl⟩
  | case2 _ stops => rw [closing.eq_2 _ stops] at equal; cases equal

/-- What the group reader takes after an opening parenthesis. -/
theorem group_sound (reads : Reads bound (.level (.junction .disjunction)) inner)
    (positive : 0 < bound) {tokens rest : List Located} {value : Condition}
    (scanned : ∀ token ∈ bare tokens, token.IsScanned)
    (equal : group inner tokens = .ok (value, rest)) :
    ∃ derivation : Derivation (.level .operand), derivation.nesting < bound + 1 ∧
      derivation.meaning = value ∧
      .opening :: bare tokens = derivation.yield ++ bare rest := by
  fun_cases group inner tokens with
  | case1 =>
      cases equal
      exact ⟨.emptyTuple, Nat.succ_lt_succ positive, rfl, rfl⟩
  | case2 _ notEmpty =>
      rw [group.eq_2 _ _ notEmpty] at equal
      rcases exists_of_bind_eq_ok equal with ⟨⟨_, between⟩, firstRead, afterFirst⟩
      rcases reads.sound scanned firstRead with ⟨first, firstNesting, rfl, firstYield⟩
      have scannedBetween := scanned_of_append scanned firstYield
      dsimp only at afterFirst
      split at afterFirst
      · rcases exists_of_bind_eq_ok afterFirst with ⟨⟨_, last⟩, othersRead, afterOthers⟩
        rcases exists_of_bind_eq_ok afterOthers with ⟨⟨_, _⟩, closes, done⟩
        cases done
        rcases closing_eq_ok closes with ⟨_, rfl⟩
        rcases items_sound reads positive scannedBetween othersRead with
          ⟨impossible, _⟩ | ⟨others, othersNesting, rfl, othersYield⟩
        · cases impossible
        · refine ⟨.tuple first others,
            Nat.succ_lt_succ (Nat.max_lt.mpr ⟨firstNesting, othersNesting⟩), rfl, ?_⟩
          rw [Derivation.tuple_yield_append, ← othersYield, ← firstYield]
      · rcases exists_of_bind_eq_ok afterFirst with ⟨⟨_, _⟩, closes, done⟩
        cases done
        rcases closing_eq_ok closes with ⟨_, rfl⟩
        refine ⟨.parenthesized first, Nat.succ_lt_succ firstNesting, rfl, ?_⟩
        rw [Derivation.parenthesized_yield_append, firstYield]
        rfl

theorem group_complete_parenthesized
    (reads : Reads bound (.level (.junction .disjunction)) inner)
    (first : Derivation (.level (.junction .disjunction))) {tokens : List Located}
    {follow : List Token} (nesting : first.nesting < bound)
    (firstTokens : bare tokens = first.yield ++ .closing :: follow) :
    ∃ rest, bare rest = follow ∧ group inner tokens = .ok (first.meaning, rest) := by
  rcases reads.complete first nesting (Category.ends_closing _ _) firstTokens with
    ⟨between, betweenTokens, firstRead⟩
  rcases exists_of_bare_eq_cons betweenTokens with ⟨_, rest, rfl, restTokens⟩
  refine ⟨rest, restTokens, ?_⟩
  rw [group.eq_2 _ _ (not_closing first firstTokens), firstRead]
  rfl

theorem group_complete_tuple
    (reads : Reads bound (.level (.junction .disjunction)) inner)
    (first : Derivation (.level (.junction .disjunction))) (others : Derivation .items)
    {tokens : List Located} {follow : List Token} (firstNesting : first.nesting < bound)
    (othersNesting : others.nesting < bound)
    (firstTokens : bare tokens = first.yield ++ (others.yield ++ .closing :: follow)) :
    ∃ rest, bare rest = follow ∧
      group inner tokens = .ok (.tuple (first.meaning :: others.meaning), rest) := by
  rcases reads.complete first firstNesting (others.items_ends _ _) firstTokens with
    ⟨between, betweenTokens, firstRead⟩
  rcases items_complete reads others othersNesting (Nat.le_refl between.length)
      betweenTokens with
    ⟨last, lastTokens, othersRead⟩
  rcases exists_of_bare_eq_cons lastTokens with ⟨_, rest, rfl, restTokens⟩
  rcases others.items_first with ⟨_, starts⟩
  rw [starts] at betweenTokens
  rcases exists_of_bare_eq_cons betweenTokens with ⟨_, after, rfl, _⟩
  refine ⟨rest, restTokens, ?_⟩
  rw [group.eq_2 _ _ (not_closing first firstTokens), firstRead]
  change (items inner _ _ >>= _) = _
  rw [othersRead]
  rfl

theorem readsGroup_group (reads : Reads bound (.level (.junction .disjunction)) inner)
    (positive : 0 < bound) :
    ReadsGroup (bound + 1) fun tokens => group inner tokens.tail where
  sound scanned equal := group_sound reads positive scanned equal
  complete := by
    intro derivation position tokens follow nesting equal
    change ∃ rest, _ ∧ group inner tokens = _
    cases derivation with
    | name | integer | text | boolean => simp [Derivation.yield] at equal
    | emptyTuple =>
        rcases exists_of_bare_eq_cons (List.cons.inj equal).2 with
          ⟨_, rest, rfl, restTokens⟩
        exact ⟨rest, restTokens, rfl⟩
    | parenthesized first =>
        rw [Derivation.parenthesized_yield_append] at equal
        exact group_complete_parenthesized reads first (Nat.lt_of_succ_lt_succ nesting)
          (List.cons.inj equal).2
    | tuple first others =>
        have nestings := Nat.max_lt.mp (Nat.lt_of_succ_lt_succ nesting)
        rw [Derivation.tuple_yield_append] at equal
        exact group_complete_tuple reads first others nestings.1 nestings.2
          (List.cons.inj equal).2

end Parentheses

/-! ## Operands and negations -/

section Levels

variable {bound : Nat} {negated parenthesized : Reader Condition}

theorem reads_operand (group : ReadsGroup (bound + 1) parenthesized) :
    Reads (bound + 1) (.level .operand) (operand parenthesized) where
  sound := by
    intro tokens rest value scanned equal
    fun_cases operand parenthesized tokens with
    | case1 _ word =>
        cases equal
        exact ⟨.name word, Nat.succ_pos bound, rfl, rfl⟩
    | case2 _ number =>
        cases equal
        exact ⟨.integer number, Nat.succ_pos bound, rfl, rfl⟩
    | case3 _ text =>
        cases equal
        exact ⟨.text text, Nat.succ_pos bound, rfl, rfl⟩
    | case4 _ truth =>
        cases equal
        exact ⟨.boolean truth, Nat.succ_pos bound, rfl, rfl⟩
    | case5 position tokens =>
        exact group.sound (scanned_of_cons scanned) equal
    | case6 => cases equal
    | case7 _ notName notInteger notText notBoolean notOpening notEmpty =>
        rw [operand.eq_7 _ _ notName notInteger notText notBoolean notOpening notEmpty]
          at equal
        cases equal
  complete := by
    intro derivation tokens follow nesting _ equal
    cases derivation with
    | name | integer | text | boolean =>
        rcases exists_of_bare_eq_cons equal with ⟨_, rest, rfl, restTokens⟩
        exact ⟨rest, restTokens, rfl⟩
    | parenthesized | emptyTuple | tuple =>
        rcases exists_of_bare_eq_cons equal with ⟨_, _, rfl, _⟩
        exact group.complete _ nesting equal

theorem reads_negationOr (reads : Reads bound (.level .negation) negated)
    (group : ReadsGroup (bound + 1) parenthesized) :
    Reads (bound + 1) (.level .negation) (negationOr negated parenthesized) where
  sound := by
    intro tokens rest value scanned equal
    fun_cases negationOr negated parenthesized tokens with
    | case1 _ tokens =>
        rcases exists_of_bind_eq_ok equal with ⟨⟨_, _⟩, innerRead, equal⟩
        cases equal
        have scannedTokens := scanned_of_cons scanned
        rcases reads.sound scannedTokens innerRead with
          ⟨inner, innerNesting, rfl, innerYield⟩
        exact ⟨.negated inner, Nat.succ_lt_succ innerNesting, rfl,
          congrArg (Token.negation :: ·) innerYield⟩
    | case2 _ notNegation =>
        rw [negationOr.eq_2 _ _ _ notNegation] at equal
        rcases (reads_comparison (reads_operand group) (Nat.succ_pos bound)).sound scanned
            equal with
          ⟨inner, innerNesting, rfl, innerYield⟩
        exact ⟨.plain inner, innerNesting, rfl, innerYield⟩
  complete := by
    intro derivation tokens follow nesting ends equal
    cases derivation with
    | negated inner =>
        rcases exists_of_bare_eq_cons equal with ⟨_, tokens, rfl, innerTokens⟩
        rcases reads.complete inner (Nat.lt_of_succ_lt_succ nesting) ends innerTokens with
          ⟨rest, restTokens, innerRead⟩
        refine ⟨rest, restTokens, ?_⟩
        rw [negationOr, innerRead]
        rfl
    | plain inner =>
        have notNegation :
            ∀ position rest, tokens = ⟨position, .negation⟩ :: rest → False := by
          rintro position rest rfl
          exact inner.comparison_ne_negation _ _ equal.symm
        rw [negationOr.eq_2 _ _ _ notNegation]
        exact (reads_comparison (reads_operand group) (Nat.succ_pos bound)).complete
          inner nesting ends equal

/-- One level of nesting more takes one parenthesis or negation sign more. -/
theorem reads_negation : ∀ depth, Reads (depth + 1) (.level .negation) (negation depth)
  | 0 => reads_negationOr (reads_fail .negation .tooDeep) (readsGroup_fail .tooDeep)
  | depth + 1 =>
      have reads := reads_negation depth
      have conditions := reads_disjunction reads depth.succ_pos
      reads_negationOr reads (readsGroup_group conditions depth.succ_pos)

theorem reads_condition (depth : Nat) :
    Reads (depth + 1) (.level (.junction .disjunction)) (condition depth) :=
  reads_disjunction (reads_negation depth) depth.succ_pos

end Levels

end Reader

/-! ## Whole conditions -/

theorem ofTokens_eq_ok_iff (stop : Nat) (tokens : List Located) (condition : Condition) :
    ofTokens stop tokens = .ok condition ↔
      Reader.condition depthLimit tokens = .ok (condition, []) := by
  fun_cases ofTokens stop tokens <;> simp_all

theorem exists_malformed_of_ofTokens_eq_error {stop : Nat} {tokens : List Located}
    {error : Error} (equal : ofTokens stop tokens = .error error) :
    ∃ position fault, error = .malformed position fault := by
  revert equal
  fun_cases ofTokens stop tokens <;> rintro ⟨⟩ <;> exact ⟨_, _, rfl⟩

theorem parse_of_tokens {text : List Char} {scanned : List Located}
    (lexed : tokens text = .ok scanned) : parse text = ofTokens text.length scanned := by
  rw [parse, lexed]
  rfl

theorem exists_tokens_of_parse_eq_ok {text : List Char} {condition : Condition}
    (parsed : parse text = .ok condition) : ∃ located, tokens text = .ok located := by
  rcases exists_of_bind_eq_ok parsed with ⟨located, lexed, _⟩
  exact ⟨located, lexed⟩

theorem parse_eq_ok_of_yield {text : List Char} {scanned : List Located}
    (lexed : tokens text = .ok scanned)
    (derivation : Derivation (.level (.junction .disjunction)))
    (yields : derivation.yield = scanned.map Located.token)
    (nesting : derivation.nesting ≤ depthLimit) :
    parse text = .ok derivation.meaning := by
  have reads := Reader.reads_condition depthLimit
  have scannedTokens : bare scanned = derivation.yield ++ [] := by
    rw [List.append_nil, yields]
  rcases reads.complete derivation (Nat.lt_succ_of_le nesting) (Category.ends_nil _)
      scannedTokens with
    ⟨rest, restTokens, equal⟩
  rw [parse_of_tokens lexed, ofTokens_eq_ok_iff, equal, List.map_eq_nil_iff.mp restTokens]

theorem exists_derivation_of_parse_eq_ok {text : List Char} {scanned : List Located}
    {condition : Condition} (lexed : tokens text = .ok scanned)
    (equal : parse text = .ok condition) :
    ∃ derivation : Derivation (.level (.junction .disjunction)),
      derivation.yield = scanned.map Located.token ∧ derivation.nesting ≤ depthLimit ∧
        derivation.meaning = condition := by
  have reads := Reader.reads_condition depthLimit
  have scannedTokens : ∀ token ∈ bare scanned, token.IsScanned :=
    fun token member => (isSpellable_of_tokens lexed token member).isScanned
  rw [parse_of_tokens lexed, ofTokens_eq_ok_iff] at equal
  rcases reads.sound scannedTokens equal with ⟨derivation, nesting, meaning, yields⟩
  exact ⟨derivation, by simpa using yields.symm, Nat.le_of_lt_succ nesting, meaning⟩

/-- A text that has tokens is a condition if and only if they have a derivation in
which no parenthesis and no negation stands inside 64 others, and it is then the
condition that the derivation means. There is at most one derivation of any tokens,
and a text whose tokens have none is malformed. -/
theorem parse_eq_ok_iff_derivation {text : List Char} {scanned : List Located}
    (lexed : tokens text = .ok scanned) :
    (∀ condition, parse text = .ok condition ↔
      ∃ derivation : Derivation (.level (.junction .disjunction)),
        derivation.yield = scanned.map Located.token ∧ derivation.nesting ≤ 64 ∧
          derivation.meaning = condition) ∧
    (∀ left right : Derivation (.level (.junction .disjunction)),
      left.yield = right.yield → left = right) ∧
    ((∀ derivation : Derivation (.level (.junction .disjunction)),
        derivation.yield = scanned.map Located.token → 64 < derivation.nesting) →
      ∃ position fault, parse text = .error (.malformed position fault)) := by
  refine ⟨?accepts, Derivation.yield_injective, ?rejects⟩
  case accepts =>
    intro condition
    constructor
    · exact exists_derivation_of_parse_eq_ok lexed
    · rintro ⟨derivation, yields, nesting, rfl⟩
      exact parse_eq_ok_of_yield lexed derivation yields nesting
  case rejects =>
    intro tooDeep
    cases read : parse text with
    | ok condition =>
        rcases exists_derivation_of_parse_eq_ok lexed read with
          ⟨derivation, yields, nesting, _⟩
        exact absurd nesting (Nat.not_le_of_lt (tooDeep derivation yields))
    | error error =>
        rw [parse_of_tokens lexed] at read
        rcases exists_malformed_of_ofTokens_eq_error read with ⟨position, fault, rfl⟩
        exact ⟨position, fault, rfl⟩

/-- The sign in a membership test is no negation, and the last comma of a tuple adds
no item. -/
theorem parse_negated_membership :
    ∃ scanned, tokens "not py not in (26, 27,)".toList = .ok scanned ∧
      parse "not py not in (26, 27,)".toList = .ok (.negation (.comparison (.name "py")
        [(.notMember, .tuple [.integer 26, .integer 27])])) := by
  refine ⟨_, rfl, ((parse_eq_ok_iff_derivation rfl).1 _).mpr ⟨?_, ?_, ?_, ?_⟩⟩
  · exact .junction .disjunction (.junction .conjunction (.negated (.plain (.comparison
      (.name "py") (.nextStep .notMember (.tuple
        (.junction .disjunction (.junction .conjunction (.plain (.comparison
          (.integer 26) .noStep)) (.noOperand _)) (.noOperand _))
        (.nextItem (.junction .disjunction (.junction .conjunction (.plain (.comparison
          (.integer 27) .noStep)) (.noOperand _)) (.noOperand _)) .lastComma)) .noStep))))
      (.noOperand _)) (.noOperand _)
  · rfl
  · decide
  · rfl

end PackageRecipe.Condition
