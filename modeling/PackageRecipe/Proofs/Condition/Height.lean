import PackageRecipe.Condition.Evaluation
import PackageRecipe.Proofs.Condition.RoundTrip

/-!
How far down a condition goes. Only what stands in parentheses or after a negation sign is
nested; from there to what is nested next there are at most four parts, one for each level.
So the limit of nesting bounds every way from a condition down to its parts, and the tuples
inside each other in its values, while chains are as long as their texts are.
-/

namespace PackageRecipe.Condition

/-! ## Ways down -/

/-- The parts that a condition is made of. -/
def children : Condition → List Condition
  | .name _ | .integer _ | .text _ | .boolean _ => []
  | .tuple items => items
  | .negation operand => [operand]
  | .conjunction operands | .disjunction operands => operands
  | .comparison first steps => first :: steps.map Prod.snd

/-- A path leads from a condition down to one of its parts, and each condition on it is
made of the next. -/
inductive IsPath : Condition → List Condition → Prop
  | stay (condition : Condition) : IsPath condition [condition]
  | down {condition child : Condition} {path : List Condition}
      (member : child ∈ condition.children) (rest : IsPath child path) :
      IsPath condition (condition :: path)

/-- The level that is expected of the parts of a condition. -/
def place : Condition → Level
  | .tuple _ => .junction .disjunction
  | .negation _ => .negation
  | .conjunction _ => Connective.conjunction.operand
  | .disjunction _ => Connective.disjunction.operand
  | .comparison _ _ | .name _ | .integer _ | .text _ | .boolean _ => .operand

/-- By how much the parts of a condition are nested deeper than the condition. -/
def opens : Condition → Nat
  | .tuple _ | .negation _ => 1
  | .name _ | .integer _ | .text _ | .boolean _ => 0
  | .conjunction _ | .disjunction _ | .comparison _ _ => 0

/-- The height of the highest conditions of a level with nothing nested in them. -/
def Level.height : Level → Nat
  | .junction .disjunction => 4
  | .junction .conjunction => 3
  | .negation | .comparison => 2
  | .operand => 1

theorem Level.height_bounds (level : Level) : 1 ≤ level.height ∧ level.height ≤ 4 := by
  rcases level with ⟨_ | _⟩ | _ | _ | _ <;> decide

theorem Level.height_le_of_fits {expected own : Level}
    (fits : expected.tightness ≤ own.tightness) : own.height ≤ expected.height := by
  rcases expected with ⟨_ | _⟩ | _ | _ | _ <;> rcases own with ⟨_ | _⟩ | _ | _ | _ <;>
    first | decide | exact absurd fits (by decide)

/-- Parentheses around what is too loose for its place cost as much as they allow for. -/
theorem height_le_of_deepened (expected own : Level) (nesting : Nat) :
    4 * nesting + own.height ≤ 4 * deepened expected own nesting + expected.height := by
  have bounds := own.height_bounds
  by_cases fits : expected.tightness ≤ own.tightness
  · rw [deepened, if_pos fits]
    exact Nat.add_le_add_left (Level.height_le_of_fits fits) _
  · rw [deepened, if_neg fits]
    omega

/-! ## Parts in their places -/

theorem nestingOfAll_le_iff {expected : Level} {conditions : List Condition} {bound : Nat} :
    nestingOfAll expected conditions ≤ bound ↔
      ∀ condition ∈ conditions, deepened expected condition.level condition.nesting ≤ bound := by
  induction conditions with
  | nil => simp [nestingOfAll]
  | cons head tail induction =>
      rw [nestingOfAll, Nat.max_le, List.forall_mem_cons, induction]

theorem nestingOfSteps_eq (steps : List (Relation × Condition)) :
    nestingOfSteps steps = nestingOfAll .operand (steps.map Prod.snd) := by
  induction steps with
  | nil => rfl
  | cons head tail induction => rw [nestingOfSteps, List.map_cons, nestingOfAll, induction]

/-- A condition is nested as deep as the deepest of its parts in their places, and one more
if it opens something itself. -/
theorem nesting_eq (condition : Condition) :
    condition.nesting = nestingOfAll condition.place condition.children + condition.opens := by
  cases condition with
  | name | integer | text | boolean => rfl
  | tuple | conjunction | disjunction => rfl
  | negation operand =>
      rw [nesting, place, children, nestingOfAll, nestingOfAll, Nat.max_zero, opens]
  | comparison first steps =>
      rw [nesting, nestingOfSteps_eq]
      rfl

theorem deepened_add_opens_le {condition child : Condition}
    (member : child ∈ condition.children) :
    deepened condition.place child.level child.nesting + condition.opens ≤
      condition.nesting := by
  have each := nestingOfAll_le_iff.mp
    (Nat.le_refl (nestingOfAll condition.place condition.children))
  rw [nesting_eq condition]
  exact Nat.add_le_add_right (each child member) _

theorem nesting_le_of_mem_children {condition child : Condition}
    (member : child ∈ condition.children) : child.nesting ≤ condition.nesting := by
  have inPlace := deepened_add_opens_le member
  have kept := le_deepened child.level child.nesting condition.place
  omega

/-- A place is lower than the condition around it, unless that opens something. -/
theorem height_place_lt {condition child : Condition} (member : child ∈ condition.children) :
    condition.place.height < 4 * condition.opens + condition.level.height := by
  cases condition with
  | name | integer | text | boolean => cases member
  | tuple | negation | conjunction | disjunction | comparison =>
      simp [place, opens, level, Level.height, Connective.operand]

/-- One step down costs one of the height that nesting and level allow for. -/
theorem height_lt_of_mem_children {condition child : Condition}
    (member : child ∈ condition.children) :
    4 * child.nesting + child.level.height <
      4 * condition.nesting + condition.level.height := by
  have inPlace := deepened_add_opens_le member
  have lower := height_place_lt member
  have paid := height_le_of_deepened condition.place child.level child.nesting
  omega

namespace IsPath

variable {condition part : Condition} {path : List Condition}

theorem length_le (isPath : IsPath condition path) :
    path.length ≤ 4 * condition.nesting + condition.level.height := by
  induction isPath with
  | stay condition =>
      have positive := condition.level.height_bounds.1
      rw [List.length_singleton]
      omega
  | down member _ induction =>
      have lower := height_lt_of_mem_children member
      rw [List.length_cons]
      omega

theorem nesting_le (isPath : IsPath condition path) (member : part ∈ path) :
    part.nesting ≤ condition.nesting := by
  induction isPath with
  | stay condition => rw [List.mem_singleton.mp member]
  | down childMember _ induction =>
      rcases List.mem_cons.mp member with rfl | member
      · exact Nat.le_refl _
      · exact Nat.le_trans (induction member) (nesting_le_of_mem_children childMember)

end IsPath

/-! ## Values -/

mutual
/-- How many tuples stand inside each other in a value. -/
def Value.nesting : Value → Nat
  | .boolean _ | .integer _ | .text _ => 0
  | .tuple items => Value.nestingOfAll items + 1

def Value.nestingOfAll : List Value → Nat
  | [] => 0
  | head :: tail => max head.nesting (Value.nestingOfAll tail)
end

theorem Value.nesting_ofFact (fact : Fact) : (Value.ofFact fact).nesting = 0 := by
  cases fact <;> rfl

section Values

variable {facts : Facts}

-- By recursion on the condition, as it is evaluated. Only a tuple puts values into one
-- another, and it opens a parenthesis.
mutual
theorem nesting_value_le : (condition : Condition) → {result : Value} →
    condition.value facts = .ok result → result.nesting ≤ condition.nesting
  | .name word, result, found => by
      rw [value] at found
      split at found
      · cases found
        rw [Value.nesting_ofFact]
        exact Nat.zero_le _
      · cases found
  | .integer _, _, found | .text _, _, found | .boolean _, _, found => by
      rw [value] at found
      cases found
      exact Nat.zero_le _
  | .tuple items, result, found => by
      rw [value] at found
      rcases exists_of_bind_eq_ok found with ⟨results, itemsFound, equal⟩
      cases equal
      exact Nat.succ_le_succ (nesting_values_le items itemsFound)
  | .negation operand, result, found => by
      rw [value] at found
      rcases exists_of_bind_eq_ok found with ⟨_, _, equal⟩
      cases equal
      exact Nat.zero_le _
  | .conjunction operands, result, found | .disjunction operands, result, found => by
      rw [value] at found
      exact nesting_deciding_le _ operands (Nat.zero_le _) (Nat.le_refl _) found
  | .comparison first steps, result, found => by
      rw [value] at found
      rcases exists_of_bind_eq_ok found with ⟨left, _, found⟩
      rcases exists_of_bind_eq_ok found with ⟨_, _, equal⟩
      cases equal
      exact Nat.zero_le _

theorem nesting_values_le : (items : List Condition) → {results : List Value} →
    values facts items = .ok results →
      Value.nestingOfAll results ≤ nestingOfAll (.junction .disjunction) items
  | [], _, found => by
      rw [values] at found
      cases found
      exact Nat.le_refl _
  | head :: tail, _, found => by
      rw [values] at found
      rcases exists_of_bind_eq_ok found with ⟨first, headFound, found⟩
      rcases exists_of_bind_eq_ok found with ⟨others, tailFound, equal⟩
      cases equal
      rw [nestingOfAll, deepened_loosest]
      exact max_le_max (nesting_value_le head headFound) (nesting_values_le tail tailFound)

theorem nesting_deciding_le {decisive : Bool} {last : Value} {bound : Nat} (expected : Level) :
    (operands : List Condition) → {result : Value} → last.nesting ≤ bound →
      nestingOfAll expected operands ≤ bound →
      deciding facts decisive last operands = .ok result → result.nesting ≤ bound
  | [], _, shallow, _, found => by
      rw [deciding] at found
      cases found
      exact shallow
  | head :: tail, result, _, inPlace, found => by
      rw [nestingOfAll, Nat.max_le] at inPlace
      rw [deciding] at found
      rcases exists_of_bind_eq_ok found with ⟨first, headFound, found⟩
      have headShallow : first.nesting ≤ bound := by
        have kept := le_deepened head.level head.nesting expected
        have shallow := nesting_value_le head headFound
        omega
      split at found
      · cases found
        exact headShallow
      · exact nesting_deciding_le expected tail headShallow inPlace.2 found
end

theorem value_of_evaluate_eq_ok {condition : Condition} {result : Value}
    (found : condition.evaluate facts = .ok result) : condition.value facts = .ok result := by
  rw [evaluate] at found
  split at found
  · cases found
  · exact found

end Values

/-! ## Chains -/

theorem nestingOfAll_le_depthLimit {expected : Level} {conditions : List Condition}
    (each : ∀ condition ∈ conditions, condition.nesting < depthLimit) :
    nestingOfAll expected conditions ≤ depthLimit := by
  rw [nestingOfAll_le_iff]
  intro condition member
  have inPlace := deepened_le condition.level condition.nesting expected
  have shallow := each condition member
  omega

/-- Operands that may stand in parentheses can be joined, however many they are. -/
theorem parse_print_join (connective : Connective) {operands : List Condition}
    (several : 2 ≤ operands.length) (wellFormed : ∀ operand ∈ operands, operand.IsWellFormed)
    (shallow : ∀ operand ∈ operands, operand.nesting < depthLimit) :
    parse (connective.join operands).print = .ok (connective.join operands) := by
  have joined : (connective.join operands).IsWellFormed := by
    cases connective with
    | disjunction => exact .disjunction several wellFormed
    | conjunction => exact .conjunction several wellFormed
  apply joined.parse_print_of_nesting_le
  rw [nesting_join]
  exact nestingOfAll_le_depthLimit shallow

/-- Operands that may stand in parentheses can be compared in a row, however many they are. -/
theorem parse_print_comparison {first : Condition} {steps : List (Relation × Condition)}
    (notEmpty : steps ≠ [])
    (wellFormed : first.IsWellFormed ∧ ∀ step ∈ steps, step.2.IsWellFormed)
    (shallow : first.nesting < depthLimit ∧ ∀ step ∈ steps, step.2.nesting < depthLimit) :
    parse (comparison first steps).print = .ok (comparison first steps) := by
  have compared := IsWellFormed.comparison wellFormed.1 notEmpty wellFormed.2
  apply compared.parse_print_of_nesting_le
  rw [nesting_eq, opens, Nat.add_zero]
  apply nestingOfAll_le_depthLimit
  rw [children, List.forall_mem_cons, List.forall_mem_map]
  exact shallow

/-! ## The bounds -/

/-- Whatever the length of a text, no path in the condition that is read from it is longer
than four conditions for each nesting and four more, and no value of the condition or of a
part of it has more tuples inside each other than may be nested. Connectives and comparisons
may still have any number of operands. -/
theorem height_bounded :
    (∀ text condition, parse text = .ok condition → ∀ path, IsPath condition path →
      path.length ≤ 4 * depthLimit + 4 ∧
        ∀ part ∈ path, ∀ facts result,
          part.value facts = .ok result ∨ part.evaluate facts = .ok result →
            result.nesting ≤ depthLimit) ∧
    (∀ (connective : Connective) (count : Nat), 2 ≤ count → ∃ text operands,
      operands.length = count ∧ parse text = .ok (connective.join operands)) ∧
    (∀ relations : List Relation, relations ≠ [] → ∃ text first steps,
      steps.map Prod.fst = relations ∧ parse text = .ok (comparison first steps)) := by
  have shallowZero : (integer 0).nesting < depthLimit := by decide
  have zero : (integer 0).IsWellFormed := .integer (Int.le_refl 0) (by decide)
  refine ⟨?bounds, ?connectives, ?comparisons⟩
  case bounds =>
    intro text condition parsed path isPath
    have shallow := (isWellFormed_of_parse_eq_ok parsed).2
    constructor
    · have length := isPath.length_le
      have height := condition.level.height_bounds.2
      omega
    · intro part member facts result found
      have inside := isPath.nesting_le member
      have own : result.nesting ≤ part.nesting := by
        rcases found with found | found
        · exact nesting_value_le part found
        · exact nesting_value_le part (value_of_evaluate_eq_ok found)
      omega
  case connectives =>
    intro connective count several
    refine ⟨_, List.replicate count (integer 0), List.length_replicate,
      parse_print_join connective ?_ ?_ ?_⟩
    · rwa [List.length_replicate]
    · intro operand member
      rwa [List.eq_of_mem_replicate member]
    · intro operand member
      rwa [List.eq_of_mem_replicate member]
  case comparisons =>
    intro relations notEmpty
    refine ⟨_, integer 0, relations.map (·, integer 0), ?_, parse_print_comparison ?_ ?_ ?_⟩
    · rw [List.map_map]
      exact List.map_id relations
    · simpa using notEmpty
    · exact ⟨zero, List.forall_mem_map.mpr fun _ _ => zero⟩
    · exact ⟨shallowZero, List.forall_mem_map.mpr fun _ _ => shallowZero⟩

/-- The path goes through the negation and the comparison to the name in the tuple. -/
theorem height_bounded_tuple :
    ∃ condition path result,
      parse "not (np,) == ()".toList = .ok condition ∧ IsPath condition path ∧
        path.length = 4 ∧ path.length ≤ 260 ∧ tuple [name "np"] ∈ path ∧
        (tuple [name "np"]).value [("np", .integer 19)] = .ok result ∧
        result.nesting = 1 ∧ result.nesting ≤ 64 := by
  have lexed : tokens "not (np,) == ()".toList =
      .ok [⟨0, .negation⟩, ⟨4, .opening⟩, ⟨5, .name "np"⟩, ⟨7, .comma⟩, ⟨8, .closing⟩,
        ⟨10, .relation .equal⟩, ⟨13, .opening⟩, ⟨14, .closing⟩] := rfl
  have parsed : parse "not (np,) == ()".toList =
      .ok (negation (comparison (tuple [name "np"]) [(.equal, tuple [])])) := by
    rw [parse_of_tokens lexed]
    rfl
  have isPath : IsPath (negation (comparison (tuple [name "np"]) [(.equal, tuple [])]))
      [negation (comparison (tuple [name "np"]) [(.equal, tuple [])]),
        comparison (tuple [name "np"]) [(.equal, tuple [])], tuple [name "np"], name "np"] :=
    .down List.mem_cons_self (.down List.mem_cons_self (.down List.mem_cons_self (.stay _)))
  have found : (tuple [name "np"]).value [("np", .integer 19)] =
      .ok (.tuple [.integer 19]) := rfl
  rcases height_bounded.1 _ _ parsed _ isPath with ⟨short, shallow⟩
  exact ⟨_, _, _, parsed, isPath, rfl, short, by simp, found, rfl,
    shallow _ (by simp) _ _ (.inl found)⟩

/-! ## The bound is reached -/

/-- One condition of each level around an operand. -/
def storey (inner : Condition) : Condition :=
  .disjunction [.conjunction [.comparison inner [(.equal, .integer 0)], .integer 0], .integer 0]

def tower : Nat → Condition
  | 0 => storey (.integer 0)
  | nested + 1 => storey (.tuple [tower nested])

theorem isWellFormed_storey {inner : Condition} (wellFormed : inner.IsWellFormed) :
    (storey inner).IsWellFormed := by
  have zero : (integer 0).IsWellFormed := .integer (Int.le_refl 0) (by decide)
  have compared : (comparison inner [(.equal, .integer 0)]).IsWellFormed :=
    .comparison wellFormed (List.cons_ne_nil _ _) (List.forall_mem_singleton.mpr zero)
  have joined : (conjunction [comparison inner [(.equal, .integer 0)],
      .integer 0]).IsWellFormed :=
    .conjunction (Nat.le_refl 2) (by simp [compared, zero])
  exact .disjunction (Nat.le_refl 2) (by simp [joined, zero])

theorem nesting_storey {inner : Condition} (isOperand : inner.level = .operand) :
    (storey inner).nesting = inner.nesting := by
  have flat : (storey inner).nesting =
      max (max (max (deepened .operand inner.level inner.nesting) 0) 0) 0 := rfl
  rw [flat, isOperand, deepened_self, Nat.max_zero, Nat.max_zero, Nat.max_zero]

theorem IsPath.storey {inner : Condition} {path : List Condition} (isPath : IsPath inner path) :
    ∃ longer, IsPath (storey inner) longer ∧ longer.length = path.length + 3 :=
  ⟨_, .down List.mem_cons_self (.down List.mem_cons_self (.down List.mem_cons_self isPath)), rfl⟩

theorem tower_bounds (nested : Nat) :
    (tower nested).IsWellFormed ∧ (tower nested).nesting = nested ∧
      ∃ path, IsPath (tower nested) path ∧ path.length = 4 * nested + 4 := by
  induction nested with
  | zero =>
      refine ⟨isWellFormed_storey (.integer (Int.le_refl 0) (by decide)),
        nesting_storey rfl, ?_⟩
      exact (IsPath.stay (integer 0)).storey
  | succ nested induction =>
      rcases induction with ⟨wellFormed, nesting, path, isPath, length⟩
      refine ⟨isWellFormed_storey (.tuple (List.forall_mem_singleton.mpr wellFormed)), ?_, ?_⟩
      · rw [tower, nesting_storey rfl, Condition.nesting, nestingOfAll, nestingOfAll,
          deepened_loosest, Nat.max_zero, nesting]
      · rcases (IsPath.down List.mem_cons_self isPath :
          IsPath (tuple [tower nested]) _).storey with ⟨longer, leads, steps⟩
        refine ⟨longer, leads, ?_⟩
        rw [steps, List.length_cons, length]
        omega

/-- No smaller bound on the paths would do. -/
theorem exists_path_length_eq : ∃ text condition path,
    parse text = .ok condition ∧ IsPath condition path ∧ path.length = 4 * depthLimit + 4 := by
  rcases tower_bounds depthLimit with ⟨wellFormed, nesting, path, isPath, length⟩
  have parsed := wellFormed.parse_print_of_nesting_le (Nat.le_of_eq nesting)
  exact ⟨_, _, path, parsed, isPath, length⟩

end PackageRecipe.Condition
