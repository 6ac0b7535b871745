import PackageRecipe.Proofs.Condition.Failures
import PackageRecipe.Proofs.Condition.Names
import PackageRecipe.Proofs.Condition.Parsing

/-!
The names in the text of a condition. Evaluation reports the first of them that is no
fact, before any other error and wherever it stands; once all are facts, only the values
of operands can be at fault.
-/

namespace PackageRecipe.Condition

/-- The names among the tokens, from left to right and with repeats. -/
def identifiers (located : List Located) : List String :=
  located.filterMap fun token => token.token.name?

example : (tokens "py == 27 and (np in (py, 17) or not x)".toList).map identifiers =
    .ok ["py", "np", "py", "x"] := rfl

theorem names_of_parse_eq_ok {text : List Char} {condition : Condition}
    {located : List Located} (lexed : tokens text = .ok located)
    (parsed : parse text = .ok condition) : condition.names = identifiers located := by
  rcases exists_derivation_of_parse_eq_ok lexed parsed with ⟨derivation, yields, _, rfl⟩
  have named := derivation.names_meaning
  rw [yields, List.filterMap_map] at named
  exact named

def IsFirstUnknown (facts : Facts) (names : List String) (word : String) : Prop :=
  facts.lookup word = none ∧ ∃ before after, names = before ++ word :: after ∧
    ∀ other ∈ before, (facts.lookup other).isSome

theorem find?_unknown_eq_some_iff {facts : Facts} {names : List String} {word : String} :
    (names.find? fun word => (facts.lookup word).isNone) = some word ↔
      IsFirstUnknown facts names word := by
  rw [List.find?_eq_some_iff_append, IsFirstUnknown, Option.isNone_iff_eq_none]
  simp only [Bool.not_eq_true', Option.isNone_eq_false_iff]

theorem exists_isFirstUnknown_iff {facts : Facts} {names : List String} :
    (∃ word, IsFirstUnknown facts names word) ↔ ∃ word ∈ names, facts.lookup word = none := by
  simp only [← find?_unknown_eq_some_iff, ← Option.isSome_iff_exists, List.find?_isSome,
    Option.isNone_iff_eq_none]

/-- The names of a condition are those of its text, from left to right. Evaluation reports
a name that is no fact if and only if the text has one, and then the leftmost; otherwise
it gives a value, or a mismatch of values. -/
theorem unknownName_is_leftmost {text : List Char} {condition : Condition}
    (parsed : parse text = .ok condition) (facts : Facts) :
    ∃ located, tokens text = .ok located ∧ condition.names = identifiers located ∧
      (∀ word, condition.evaluate facts = .error (.unknownName word) ↔
        IsFirstUnknown facts (identifiers located) word) ∧
      ((∃ word, condition.evaluate facts = .error (.unknownName word)) ↔
        ∃ word ∈ identifiers located, facts.lookup word = none) ∧
      ((∀ word ∈ identifiers located, (facts.lookup word).isSome) →
        (∃ value, condition.evaluate facts = .ok value) ∨
          ∃ relation left right,
            condition.evaluate facts = .error (.mismatch relation left right)) := by
  rcases exists_tokens_of_parse_eq_ok parsed with ⟨located, lexed⟩
  have named := names_of_parse_eq_ok lexed parsed
  have reports : ∀ word, condition.evaluate facts = .error (.unknownName word) ↔
      IsFirstUnknown facts (identifiers located) word := by
    intro word
    rw [evaluate_eq_unknownName_iff, find?_unknown_eq_some_iff, named]
  refine ⟨located, lexed, named, reports, ?someUnknown, ?allKnown⟩
  case someUnknown =>
    simp only [reports, exists_isFirstUnknown_iff]
  case allKnown =>
    intro known
    rw [← named] at known
    have typed := isTyped_evaluate known
    cases evaluated : condition.evaluate facts with
    | ok value => exact .inl ⟨value, rfl⟩
    | error cause =>
        have mismatch := typed cause evaluated
        cases cause with
        | mismatch relation left right => exact .inr ⟨relation, left, right, rfl⟩
        | malformed | unknownName => cases mismatch

/-- The comparison before the unknown name has no answer, and the operand with the name is
never reached. -/
theorem unknownName_is_leftmost_skipped :
    let condition : Condition := .conjunction [.name "win",
      .comparison (.text "a") [(.less, .name "py")], .disjunction [.name "a", .name "b"]]
    parse "win and 'a' < py and (a or b)".toList = .ok condition ∧
      condition.names = ["win", "py", "a", "b"] ∧
      condition.evaluate (Target.facts ⟨"linux-64", 27, 19⟩) = .error (.unknownName "a") := by
  intro condition
  have lexed : tokens "win and 'a' < py and (a or b)".toList =
      .ok [⟨0, .name "win"⟩, ⟨4, .conjunction⟩, ⟨8, .text "a"⟩, ⟨12, .relation .less⟩,
        ⟨14, .name "py"⟩, ⟨17, .conjunction⟩, ⟨21, .opening⟩, ⟨22, .name "a"⟩,
        ⟨24, .disjunction⟩, ⟨27, .name "b"⟩, ⟨28, .closing⟩] := rfl
  have parsed : parse "win and 'a' < py and (a or b)".toList = .ok condition := by
    rw [parse_of_tokens lexed]
    rfl
  rcases unknownName_is_leftmost parsed (Target.facts ⟨"linux-64", 27, 19⟩) with
    ⟨located, relexed, named, reports, _⟩
  cases lexed.symm.trans relexed
  refine ⟨parsed, named, (reports "a").mpr ⟨rfl, ["win", "py"], ["b"], rfl, ?_⟩⟩
  decide

end PackageRecipe.Condition
