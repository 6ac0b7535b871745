import PackageRecipe.Proofs.Condition.Failures
import PackageRecipe.Proofs.Selector.Lines

/-!
Errors on different targets. What is wrong with a condition itself, in its text or its
names, is wrong on every target. Only values that cannot be compared depend on the target,
and can be met before it.
-/

namespace PackageRecipe.Selector

/-! ## Where selection fails -/

section Rows

variable {facts : Facts} {number : Nat}

theorem line_of_keepLine_eq_error {row : List Char} {error : Error}
    (fails : keepLine facts number row = .error error) : error.line = number := by
  revert fails
  fun_cases keepLine facts number row <;> rintro ⟨⟩
  rfl

/-- Selection fails at the first line or, if that is kept or dropped, at one of the
others. -/
theorem keepLines_cons_eq_error {row : List Char} {rows : List (List Char)} {error : Error}
    (fails : keepLines facts number (row :: rows) = .error error) :
    keepLine facts number row = .error error ∨
      (∃ kept, keepLine facts number row = .ok kept) ∧
        keepLines facts (number + 1) rows = .error error := by
  rw [keepLines] at fails
  rcases eq_error_or_of_bind_eq_error fails with headFails | ⟨kept, headKept, rest⟩
  · exact .inl headFails
  · have tailFails := eq_error_of_bind_eq_error (fun _ => ⟨_, rfl⟩) rest
    exact .inr ⟨⟨kept, headKept⟩, tailFails⟩

theorem le_line_of_keepLines_eq_error {rows : List (List Char)} {error : Error}
    (fails : keepLines facts number rows = .error error) : number ≤ error.line := by
  induction rows generalizing number with
  | nil => cases fails
  | cons head tail induction =>
      rcases keepLines_cons_eq_error fails with headFails | ⟨_, tailFails⟩
      · exact Nat.le_of_eq (line_of_keepLine_eq_error headFails).symm
      · exact Nat.le_of_succ_le (induction tailFails)

theorem keepLines_cons_of_error {row : List Char} {error : Error}
    (fails : keepLine facts number row = .error error) (rows : List (List Char)) :
    keepLines facts number (row :: rows) = .error error := by
  rw [keepLines, fails, error_bind]

theorem keepLines_cons_of_ok {row : List Char} {kept : Option (List Char)} {error : Error}
    {rows : List (List Char)} (headKept : keepLine facts number row = .ok kept)
    (tailFails : keepLines facts (number + 1) rows = .error error) :
    keepLines facts number (row :: rows) = .error error := by
  rw [keepLines, headKept, ok_bind, tailFails, error_bind]

/-- Selection fails no later than at a line that is an error. -/
theorem exists_keepLines_eq_error {rows : List (List Char)} {index : Nat}
    {row : List Char} (found : rows[index]? = some row)
    (fails : ∀ number, ∃ error, keepLine facts number row = .error error) :
    ∃ error, keepLines facts number rows = .error error ∧
      error.line ≤ number + index := by
  induction rows generalizing number index with
  | nil => cases found
  | cons head tail induction =>
      cases headKept : keepLine facts number head with
      | error error =>
          refine ⟨error, keepLines_cons_of_error headKept tail, ?_⟩
          rw [line_of_keepLine_eq_error headKept]
          exact Nat.le_add_right number index
      | ok kept =>
          cases index with
          | zero =>
              cases found
              rcases fails number with ⟨error, headFails⟩
              cases headKept.symm.trans headFails
          | succ index =>
              have tailFails : ∃ error, keepLines facts (number + 1) tail = .error error ∧
                  error.line ≤ number + 1 + index := induction found
              rcases tailFails with ⟨error, tailFails, atMost⟩
              exact ⟨error, keepLines_cons_of_ok headKept tailFails, by omega⟩

end Rows

/-! ## Two targets -/

section SameNames

variable {first second : Facts}

theorem isSelected_eq_error_of_sameNames (same : first.SameNames second)
    {condition : List Char} {cause : Condition.Error}
    (fails : isSelected first condition = .error cause)
    (definite : cause.isMismatch = false) :
    isSelected second condition = .error cause := by
  rw [isSelected] at fails ⊢
  rcases eq_error_or_of_bind_eq_error fails with malformed | ⟨parsed, read, rest⟩
  · rw [malformed, error_bind]
  · have unknown := eq_error_of_bind_eq_error (fun _ => ⟨_, rfl⟩) rest
    rw [read, ok_bind, Condition.evaluate_eq_error_of_sameNames same unknown definite,
      error_bind]

theorem keepLine_eq_error_of_sameNames (same : first.SameNames second) {number : Nat}
    {row : List Char} {error : Error} (fails : keepLine first number row = .error error)
    (definite : error.cause.isMismatch = false) :
    keepLine second number row = .error error := by
  revert fails
  fun_cases keepLine first number row with
  | case2 line content condition found cause answered =>
      rintro ⟨⟩
      have answeredToo := isSelected_eq_error_of_sameNames same answered definite
      have foundToo : split? (Text.trimEnd row) = some (content, condition) := found
      simp only [keepLine, foundToo, answeredToo]
  | _ => rintro ⟨⟩

/-- An error in a condition itself is found on both targets, unless a mismatch comes
first on the second one. -/
theorem keepLines_eq_error_of_sameNames (same : first.SameNames second) {number : Nat}
    {rows : List (List Char)} {error : Error}
    (fails : keepLines first number rows = .error error)
    (definite : error.cause.isMismatch = false) :
    keepLines second number rows = .error error ∨
      ∃ earlier, keepLines second number rows = .error earlier ∧
        earlier.cause.isMismatch ∧ earlier.line < error.line := by
  induction rows generalizing number with
  | nil => cases fails
  | cons head tail induction =>
      rcases keepLines_cons_eq_error fails with headFails | ⟨⟨kept, headKept⟩, tailFails⟩
      · have headFailsToo := keepLine_eq_error_of_sameNames same headFails definite
        exact .inl (keepLines_cons_of_error headFailsToo tail)
      · cases secondHead : keepLine second number head with
        | ok secondKept =>
            rcases induction tailFails with tailFailsToo | ⟨earlier, tailFailsToo, rest⟩
            · exact .inl (keepLines_cons_of_ok secondHead tailFailsToo)
            · exact .inr ⟨earlier, keepLines_cons_of_ok secondHead tailFailsToo, rest⟩
        | error earlier =>
            -- A definite error here would be one on the first target too.
            have mismatch : earlier.cause.isMismatch := by
              by_contra definiteToo
              rw [Bool.not_eq_true] at definiteToo
              have headFails := keepLine_eq_error_of_sameNames same.symm secondHead definiteToo
              cases headKept.symm.trans headFails
            have later := le_line_of_keepLines_eq_error tailFails
            rw [← line_of_keepLine_eq_error secondHead] at later
            exact .inr ⟨earlier, keepLines_cons_of_error secondHead tail, mismatch, later⟩

end SameNames

/-! ## Texts -/

theorem select_eq_error_iff {facts : Facts} {text : String} {error : Error} :
    select facts text = .error error ↔
      keepLines facts 1 (Text.lines text.toList) = .error error := by
  constructor
  · intro fails
    rw [select] at fails
    exact eq_error_of_bind_eq_error (fun _ => ⟨_, rfl⟩) fails
  · intro linesFail
    rw [select, linesFail, error_bind]

/-- A condition is wrong in itself: it cannot be read, or it has a name that no target has
a fact for. -/
def IsWrong (condition : List Char) : Prop :=
  (∃ cause, Condition.parse condition = .error cause) ∨
    ∃ parsed, Condition.parse condition = .ok parsed ∧
      ∃ word ∈ parsed.names, word ∉ Facts.names

theorem exists_isSelected_eq_error {condition : List Char} (wrong : IsWrong condition)
    (target : Target) : ∃ cause, isSelected target.facts condition = .error cause := by
  rcases wrong with ⟨cause, malformed⟩ | ⟨parsed, read, word, member, unknown⟩
  · exact ⟨cause, by rw [isSelected, malformed, error_bind]⟩
  · have noFact : (target.facts.lookup word).isNone := by
      rw [← Option.not_isSome, Bool.not_eq_true', ← Bool.not_eq_true,
        target.isSome_lookup_facts_iff]
      exact unknown
    rcases Condition.exists_evaluate_eq_error member noFact with ⟨cause, fails⟩
    exact ⟨cause, by rw [isSelected, read, ok_bind, fails, error_bind]⟩

theorem exists_keepLine_eq_error {row content condition : List Char}
    (found : split? (Text.trimEnd row) = some (content, condition))
    (wrong : IsWrong condition) (target : Target) (number : Nat) :
    ∃ error, keepLine target.facts number row = .error error := by
  rcases exists_isSelected_eq_error wrong target with ⟨cause, fails⟩
  exact ⟨⟨number, String.ofList condition, cause⟩, by simp only [keepLine, found, fails]⟩

/-- If a text has an error in a condition itself for one target, then it has the same error
for every other, or a mismatch of values on an earlier line. No target passes by a condition
that is wrong in itself, even where no evaluation would reach what is wrong. -/
theorem select_error_for_every_target :
    (∀ (first second : Target) (text : String) (error : Error),
      select first.facts text = .error error → error.cause.isMismatch = false →
        select second.facts text = .error error ∨
          ∃ earlier, select second.facts text = .error earlier ∧
            earlier.cause.isMismatch ∧ earlier.line < error.line) ∧
    ∀ (text : String) (index : Nat) (row content condition : List Char),
      (Text.lines text.toList)[index]? = some row →
        split? (Text.trimEnd row) = some (content, condition) → IsWrong condition →
          ∀ target : Target, ∃ error, select target.facts text = .error error ∧
            error.line ≤ index + 1 := by
  constructor
  · intro first second text error fails definite
    simp only [select_eq_error_iff] at fails ⊢
    exact keepLines_eq_error_of_sameNames (first.sameNames_facts second) fails definite
  · intro text index row content condition found splits wrong target
    simp only [select_eq_error_iff, Nat.add_comm index]
    exact exists_keepLines_eq_error found (exists_keepLine_eq_error splits wrong target)

/-- A name that is no fact stands where no evaluation reaches it, on the line after a
comparison that only Windows evaluates. -/
theorem select_error_for_every_target_mismatch :
    select (Target.facts ⟨"linux-64", 27, 19⟩)
        "a [win and py < 'x']\nb [win and mac]" =
      .error ⟨2, "win and mac", .unknownName "mac"⟩ ∧
    (∃ earlier, select (Target.facts ⟨"win-64", 27, 19⟩)
        "a [win and py < 'x']\nb [win and mac]" = .error earlier ∧
      earlier.cause.isMismatch ∧ earlier.line < 2) ∧
    ∃ error, select (Target.facts ⟨"osx-64", 27, 19⟩)
        "a [win and py < 'x']\nb [win and mac]" = .error error ∧ error.line ≤ 2 := by
  have unknown : select (Target.facts ⟨"linux-64", 27, 19⟩)
      "a [win and py < 'x']\nb [win and mac]" =
        .error ⟨2, "win and mac", .unknownName "mac"⟩ := by decide +kernel
  have mismatch : select (Target.facts ⟨"win-64", 27, 19⟩)
      "a [win and py < 'x']\nb [win and mac]" =
        .error ⟨1, "win and py < 'x'", .mismatch .less .integer .text⟩ := by decide +kernel
  rcases select_error_for_every_target with ⟨errors, found⟩
  refine ⟨unknown, ?_, ?_⟩
  · rcases errors _ ⟨"win-64", 27, 19⟩ _ _ unknown rfl with same | earlier
    · rw [mismatch] at same
      cases same
    · exact earlier
  · have lexed : Condition.tokens "win and mac".toList =
        .ok [⟨0, .name "win"⟩, ⟨4, .conjunction⟩, ⟨8, .name "mac"⟩] := rfl
    have read : Condition.parse "win and mac".toList =
        .ok (.conjunction [.name "win", .name "mac"]) := by
      rw [Condition.parse, lexed]
      rfl
    have wrong : IsWrong "win and mac".toList :=
      .inr ⟨_, read, "mac", by decide, by decide⟩
    exact found "a [win and py < 'x']\nb [win and mac]" 1 "b [win and mac]".toList ['b']
      "win and mac".toList (by decide) (by decide) wrong ⟨"osx-64", 27, 19⟩

end PackageRecipe.Selector
