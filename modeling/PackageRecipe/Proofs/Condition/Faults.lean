import PackageRecipe.Proofs.Condition.Diagnosis

/-!
Where a malformed condition is said to be at fault. The position is that of the first token
with which the tokens are no longer the start of any condition.
-/

namespace PackageRecipe.Condition

/-! ## Positions -/

/-- The tokens, and the end after them. -/
def ended (tokens : List Token) : List (Option Token) :=
  tokens.map some ++ [none]

/-- Tokens that start like others, down to the end of those if it is reached, have the same
first tokens. -/
theorem take_eq_of_starts {left right : List Token} {count : Nat}
    (starts : (ended left).take count <+: ended right) : right.take count = left.take count := by
  induction left generalizing right count with
  | nil =>
      cases count with
      | zero => rfl
      | succ count =>
          cases right with
          | nil => rfl
          | cons head tail => simp [ended] at starts
  | cons first others induction =>
      cases count with
      | zero => rfl
      | succ count =>
          cases right with
          | nil => simp [ended] at starts
          | cons head tail =>
              have parts : some first = some head ∧ (ended others).take count <+: ended tail :=
                List.cons_prefix_cons.mp starts
              rw [List.take_succ_cons, List.take_succ_cons, induction parts.2,
                Option.some.inj parts.1]

theorem exists_of_take_append_eq {before remaining other : List Token} {count : Nat}
    (equal : other.take (before.length + count) =
      (before ++ remaining).take (before.length + count)) :
    ∃ rest, other = before ++ rest ∧ rest.take count = remaining.take count := by
  rw [List.take_length_add_append] at equal
  have starts : before <+: other.take (before.length + count) :=
    equal.symm ▸ List.prefix_append _ _
  rcases starts.trans (List.take_prefix _ _) with ⟨rest, rfl⟩
  rw [List.take_length_add_append] at equal
  exact ⟨rest, rfl, List.append_cancel_left equal⟩

theorem lt_positionOf {stop : Nat} {before remaining : List Located}
    (increasing : ((before ++ remaining).map Located.position ++ [stop]).Pairwise (· < ·)) :
    ∀ token ∈ before, token.position < positionOf stop remaining := by
  intro token member
  rw [List.map_append, List.append_assoc, List.pairwise_append] at increasing
  have earlier := increasing.2.2 token.position (List.mem_map_of_mem member)
  cases remaining with
  | nil => exact earlier stop (by simp)
  | cons head tail => exact earlier head.position (by simp)

theorem getElem?_eq_positionOf {stop : Nat} {before remaining : List Located} :
    ((before ++ remaining).map Located.position ++ [stop])[before.length]? =
      some (positionOf stop remaining) := by
  rw [List.map_append, List.append_assoc, List.getElem?_append_right (by simp), List.length_map,
    Nat.sub_self]
  cases remaining <;> rfl

/-- Only the first token can stand at the start of the text, or the end if there is none. -/
theorem eq_nil_of_positionOf_eq_zero {text : List Char} {before remaining : List Located}
    (lexed : tokens text = .ok (before ++ remaining))
    (zero : positionOf text.length remaining = 0) : before = [] := by
  have increasing := (spelled_of_tokensFrom lexed).increasing.1
  rw [Nat.zero_add] at increasing
  cases before with
  | nil => rfl
  | cons head tail =>
      have earlier := lt_positionOf increasing head List.mem_cons_self
      rw [zero] at earlier
      exact absurd earlier (Nat.not_lt_zero _)

/-! ## Accepted tokens -/

/-- The tokens are those of a text that is a condition. -/
def IsAccepted (accepted : List Token) : Prop :=
  ∃ text located condition, tokens text = .ok located ∧ bare located = accepted ∧
    parse text = .ok condition

theorem isAccepted_iff {accepted : List Token} :
    IsAccepted accepted ↔ (∀ token ∈ accepted, token.IsSpellable) ∧
      ∃ derivation : Derivation (.level (.junction .disjunction)),
        derivation.yield = accepted ∧ derivation.nesting ≤ depthLimit := by
  constructor
  · rintro ⟨text, located, condition, lexed, rfl, parsed⟩
    rcases exists_derivation_of_parse_eq_ok lexed parsed with ⟨derivation, yields, nesting, _⟩
    exact ⟨isSpellable_of_tokens lexed, derivation, yields, nesting⟩
  · rintro ⟨spellable, derivation, yields, nesting⟩
    rcases exists_tokens_spell spellable with ⟨located, lexed, same⟩
    have parsed := parse_eq_ok_of_yield lexed derivation (yields.trans same.symm) nesting
    exact ⟨_, located, derivation.meaning, lexed, same, parsed⟩

/-- The token at the index is a negation sign, and the tokens before it end in an operand. -/
def NegatesOperand (tokens : List Token) (index : Nat) : Prop :=
  tokens[index]? = some .negation ∧ EndsOperand (tokens.take index)

namespace Sees

variable {before remaining : List Token} {seen : Nat}

theorem le_one (sees : Sees before remaining seen)
    (plain : ¬NegatesOperand (before ++ remaining) before.length) : seen ≤ 1 := by
  cases sees with
  | one => exact Nat.le_refl 1
  | two complete negates =>
      refine absurd ⟨?_, ?_⟩ plain
      · rwa [List.getElem?_append_right (Nat.le_refl _), Nat.sub_self, ← List.head?_eq_getElem?]
      · rwa [List.take_left]

theorem le_two (sees : Sees before remaining seen) : seen ≤ 2 := by
  cases sees <;> decide

end Sees

/-- The first of the remaining tokens is at fault in a condition with nothing after it. -/
structure OffendsAlone (before remaining : List Token) : Prop where
  viable : Viable (depthLimit + 1) (.level (.junction .disjunction)) before
  blocked : ∃ seen, Sees before remaining seen ∧
    ∀ (derivation : Derivation (.level (.junction .disjunction))) {other : List Token},
      derivation.yield = before ++ other → other.take seen ≠ remaining.take seen

namespace OffendsAlone

variable {before remaining : List Token}

theorem of_offends
    (offends : Offends (depthLimit + 1) (.level (.junction .disjunction)) before remaining) :
    OffendsAlone before remaining where
  viable := offends.viable
  blocked := by
    rcases offends.blocked with ⟨seen, sees, blocked⟩
    refine ⟨seen, sees, ?_⟩
    intro derivation other yields
    apply blocked derivation (Category.ends_nil _)
    rw [List.append_nil, yields]

/-- What is left after a condition is at fault. -/
theorem trailing (derivation : Derivation (.level (.junction .disjunction)))
    (nesting : derivation.nesting < depthLimit + 1)
    (ends : (Category.level (.junction .disjunction)).Ends remaining) (more : remaining ≠ []) :
    OffendsAlone derivation.yield remaining where
  viable := viable_yield derivation nesting
  blocked := by
    rcases derivation.exists_sees remaining with ⟨seen, sees, same⟩
    refine ⟨seen, sees, ?_⟩
    intro whole other equal alike
    have split : whole.yield ++ [] = derivation.yield ++ other := by
      rw [List.append_nil, equal]
    rcases whole.isDetermined (Category.ends_nil _) ((same alike).mpr ends) split with
      ⟨_, rfl⟩
    exact more (List.head?_eq_none_iff.mp (sees.head?_eq alike).symm)

theorem exists_isAccepted (offends : OffendsAlone before remaining)
    (spellable : ∀ token ∈ before, token.IsSpellable) :
    ∃ accepted, IsAccepted accepted ∧ before <+: accepted ∧ before ≠ accepted := by
  rcases offends.viable with ⟨derivation, missing, nesting, notEmpty, missingSpellable, yields⟩
  refine ⟨before ++ missing, isAccepted_iff.mpr ⟨?_, derivation, yields, ?_⟩, ?_, ?_⟩
  · exact List.forall_mem_append.mpr ⟨spellable, missingSpellable⟩
  · exact Nat.le_of_lt_succ nesting
  · exact List.prefix_append _ _
  · intro equal
    exact notEmpty (List.self_eq_append_right.mp equal)

theorem not_starts (offends : OffendsAlone before remaining) {count : Nat}
    (enough : ∀ {seen}, Sees before remaining seen → seen ≤ count) {accepted : List Token}
    (accepts : IsAccepted accepted) :
    ¬(ended (before ++ remaining)).take (before.length + count) <+: ended accepted := by
  intro starts
  rcases offends.blocked with ⟨seen, sees, blocked⟩
  rcases isAccepted_iff.mp accepts with ⟨_, derivation, rfl, _⟩
  rcases exists_of_take_append_eq (take_eq_of_starts starts) with
    ⟨other, yields, alike⟩
  apply blocked derivation yields
  have fewer := congrArg (List.take seen) alike
  rwa [List.take_take, List.take_take, Nat.min_eq_left (enough sees)] at fewer

end OffendsAlone

/-! ## Faults -/

theorem exists_offendsAlone_of_ofTokens_eq_error {stop : Nat} {scanned : List Located}
    {error : Error} (scannable : ∀ token ∈ bare scanned, token.IsScanned)
    (refused : ofTokens stop scanned = .error error) :
    ∃ before remaining fault, scanned = before ++ remaining ∧
      error = .malformed (positionOf stop remaining) fault ∧
        (fault ≠ .tooDeep → OffendsAlone (bare before) (bare remaining)) := by
  have diagnoses := Reader.diagnoses_condition depthLimit
  revert refused
  fun_cases ofTokens stop scanned with
  | case1 remaining fault fails =>
      rintro ⟨⟩
      rcases diagnoses.fails scannable fails with ⟨before, rfl, offends⟩
      exact ⟨before, remaining, fault, rfl, rfl, fun shallow => .of_offends (offends shallow)⟩
  | case2 =>
      intro impossible
      cases impossible
  | case3 _ remaining more read =>
      rintro ⟨⟩
      rcases diagnoses.exists_taken scannable read with
        ⟨derivation, before, nesting, rfl, yields, _⟩
      have ends := (diagnoses.stops read).2
      have left : bare remaining ≠ [] := mt List.map_eq_nil_iff.mp more
      refine ⟨before, remaining, .trailingInput, rfl, rfl, ?_⟩
      intro _
      rw [yields]
      exact .trailing derivation nesting ends left

/-- A text that has tokens and is refused is at fault at one of them, or at the end. Unless
the nesting is too deep, the tokens before that one are the start of a condition, which has
more of them, and with it they are the start of none. If it is a negation sign after an
operand, which can be part of a relation, they are the start of none with the one after it. -/
theorem fault_is_first_offence {text : List Char} {scanned : List Located} {error : Error}
    (lexed : tokens text = .ok scanned) (refused : parse text = .error error) :
    ∃ index position fault, error = .malformed position fault ∧
      (scanned.map Located.position ++ [text.length])[index]? = some position ∧
      (position = 0 → index = 0) ∧
      (fault ≠ .tooDeep →
        (∃ accepted, IsAccepted accepted ∧ (bare scanned).take index <+: accepted ∧
          (bare scanned).take index ≠ accepted) ∧
        (¬NegatesOperand (bare scanned) index → ∀ accepted, IsAccepted accepted →
          ¬(ended (bare scanned)).take (index + 1) <+: ended accepted) ∧
        (NegatesOperand (bare scanned) index → ∀ accepted, IsAccepted accepted →
          ¬(ended (bare scanned)).take (index + 2) <+: ended accepted)) := by
  have spellable := isSpellable_of_tokens lexed
  have scannable : ∀ token ∈ bare scanned, token.IsScanned :=
    fun token member => (spellable token member).isScanned
  rw [parse_of_tokens lexed] at refused
  rcases exists_offendsAlone_of_ofTokens_eq_error scannable refused with
    ⟨before, remaining, fault, rfl, rfl, offends⟩
  have length : (bare before).length = before.length := List.length_map _
  refine ⟨before.length, _, fault, rfl, ?position, ?zero, fun shallow => ?_⟩
  case position => exact getElem?_eq_positionOf
  case zero =>
    intro zero
    rw [eq_nil_of_positionOf_eq_zero lexed zero]
    rfl
  rw [Reader.bare_append, ← length, List.take_left]
  refine ⟨?start, ?plain, ?negation⟩
  case start =>
    apply (offends shallow).exists_isAccepted
    intro token member
    exact spellable token (by simp_all)
  case plain =>
    intro plain accepted accepts
    exact (offends shallow).not_starts (fun sees => sees.le_one plain) accepts
  case negation =>
    intro _ accepted accepts
    exact (offends shallow).not_starts Sees.le_two accepts

/-- A number after a negation sign is at fault only with it, as the sign alone can be part of
a relation. -/
theorem fault_is_first_offence_negation :
    parse "py not 27".toList = .error (.malformed 3 .trailingInput) ∧
      ∀ accepted, IsAccepted accepted →
        ¬[some (.name "py"), some .negation, some (.integer 27)] <+: ended accepted := by
  have lexed : tokens "py not 27".toList =
      .ok [⟨0, .name "py"⟩, ⟨3, .negation⟩, ⟨7, .integer 27⟩] := rfl
  have refused : parse "py not 27".toList = .error (.malformed 3 .trailingInput) := by
    rw [parse_of_tokens lexed]
    rfl
  refine ⟨refused, ?_⟩
  rcases fault_is_first_offence lexed refused with ⟨index, _, _, same, found, _, offends⟩
  cases same
  have second : index = 1 := by
    rcases index with _ | _ | _ | _ | _ <;> simp at found ⊢
  subst second
  exact (offends (by decide)).2.2 ⟨rfl, [], .name "py", rfl⟩

end PackageRecipe.Condition
