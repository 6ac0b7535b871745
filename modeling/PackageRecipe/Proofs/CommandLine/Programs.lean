import PackageRecipe.CommandLine.Program
import PackageRecipe.Proofs.Outcome

/-!
What a program has printed by the time it fails. A program that prints nothing until all
its steps that may fail are taken has printed nothing if it fails.
-/

namespace PackageRecipe.CommandLine

namespace Program

variable {ε α β : Type} {program : Program α} {next : α → Program β} {failure : Failure}

/-- What a program returns or fails with. -/
def result (program : Program α) : Except Failure α :=
  (program.runFrom "").1

/-- A program prints nothing. -/
def IsSilent (program : Program α) : Prop :=
  (program.runFrom "").2 = ""

/-- A program prints nothing if it fails. -/
def IsClean (program : Program α) : Prop :=
  ∀ failure, program.result = .error failure → program.IsSilent

theorem IsSilent.runFrom_eq (silent : program.IsSilent) :
    program.runFrom "" = (program.result, "") :=
  Prod.ext rfl silent

theorem isClean_of_result_eq_ok {value : α} (returns : program.result = .ok value) :
    program.IsClean := by
  intro failure fails
  rw [returns] at fails
  cases fails

/-! ## Steps in a row -/

theorem result_bind (silent : program.IsSilent) :
    (program >>= next).result = program.result >>= fun value => (next value).result := by
  rw [result, runFrom_bind, silent.runFrom_eq]
  cases program.result <;> rfl

/-- What comes after a step that prints nothing decides on what is printed. -/
theorem IsClean.bind (silent : program.IsSilent) (clean : ∀ value, (next value).IsClean) :
    (program >>= next).IsClean := by
  intro failure fails
  rw [result_bind silent] at fails
  rw [IsSilent, runFrom_bind, silent.runFrom_eq]
  rcases eq_error_or_of_bind_eq_error fails with first | ⟨value, returned, later⟩
  · rw [first]
  · rw [returned]
    exact clean value failure later

/-! ## Steps that may fail -/

theorem isSilent_attempt (result : Except Failure α) : (attempt result).IsSilent := by
  rw [IsSilent, runFrom_attempt]

@[simp] theorem result_attempt (result : Except Failure α) : (attempt result).result = result := by
  rw [Program.result, runFrom_attempt]

theorem IsClean.attempt_bind {result : Except Failure α}
    (clean : ∀ value, (next value).IsClean) : (attempt result >>= next).IsClean :=
  .bind (isSilent_attempt result) clean

/-- A program whose first step may fail does so with its error, or fails later. -/
theorem result_attempt_bind_eq_error_iff {result : Except ε α} {translate : ε → Failure} :
    (attempt (result.mapError translate) >>= next).result = .error failure ↔
      (∃ cause, result = .error cause ∧ failure = translate cause) ∨
        ∃ value, result = .ok value ∧ (next value).result = .error failure := by
  rw [result_bind (isSilent_attempt _), result_attempt]
  cases result <;> simp [Except.mapError, eq_comm]

/-- A program of two steps that may fail and others that do not fails in one of the two. -/
theorem result_attempts_eq_error_iff {ε' γ : Type} {first : Except ε α}
    {translate : ε → Failure} {second : α → Except ε' β} {translateSecond : ε' → Failure}
    {last : α → β → Program γ}
    (returns : ∀ value other, second value = .ok other →
      ∃ final, (last value other).result = .ok final) :
    (attempt (first.mapError translate) >>= fun value =>
        attempt ((second value).mapError translateSecond) >>= last value).result =
          .error failure ↔
      (∃ cause, first = .error cause ∧ failure = translate cause) ∨
        ∃ value, first = .ok value ∧
          ∃ cause, second value = .error cause ∧ failure = translateSecond cause := by
  rw [result_attempt_bind_eq_error_iff]
  refine or_congr_right (exists_congr fun value => and_congr_right fun _ => ?_)
  rw [result_attempt_bind_eq_error_iff]
  refine or_iff_left fun fails => ?_
  rcases fails with ⟨other, found, fails⟩
  rcases returns value other found with ⟨final, equal⟩
  rw [equal] at fails
  cases fails

/-! ## Steps that print -/

@[simp] theorem result_print (text : String) : (print text).result = .ok () := rfl

theorem runFrom_printAll (printed : String) (texts : List String) :
    (printAll texts).runFrom printed = (.ok (), texts.foldl (· ++ ·) printed) := by
  induction texts generalizing printed with
  | nil => rfl
  | cons text rest induction =>
      have first : printAll (text :: rest) = print text >>= fun _ => printAll rest := rfl
      rw [first, runFrom_bind, runFrom_print]
      exact induction _

@[simp] theorem result_printAll (texts : List String) : (printAll texts).result = .ok () := by
  rw [result, runFrom_printAll]

theorem isClean_print (text : String) : (print text).IsClean :=
  isClean_of_result_eq_ok (result_print text)

theorem isClean_printAll (texts : List String) : (printAll texts).IsClean :=
  isClean_of_result_eq_ok (result_printAll texts)

/-! ## Outcomes -/

section Outcome

variable {command : Program Unit}

theorem outcome_of_result_eq_ok (returns : command.result = .ok ()) :
    (outcome command).exitCode = 0 ∧ (outcome command).failure = none := by
  have ran : command.runFrom "" = (.ok (), (command.runFrom "").2) := Prod.ext returns rfl
  rw [outcome, ran]
  exact ⟨rfl, rfl⟩

theorem outcome_of_result_eq_error (fails : command.result = .error failure) :
    (outcome command).exitCode = failure.exitCode ∧
      (outcome command).failure = some failure := by
  have ran : command.runFrom "" = (.error failure, (command.runFrom "").2) := Prod.ext fails rfl
  rw [outcome, ran]
  exact ⟨rfl, rfl⟩

theorem output_outcome (command : Program Unit) :
    (outcome command).output = (command.runFrom "").2 := by
  rw [outcome]
  cases command.runFrom "" with
  | mk result output => cases result <;> rfl

theorem exitCode_outcome (command : Program Unit) :
    (outcome command).exitCode = 0 ∨ (outcome command).exitCode = 1 ∨
      (outcome command).exitCode = 2 := by
  cases result : command.result with
  | ok value => exact .inl (outcome_of_result_eq_ok result).1
  | error failure =>
      rw [(outcome_of_result_eq_error result).1, Failure.exitCode]
      split
      · exact .inr (.inr rfl)
      · exact .inr (.inl rfl)

theorem output_outcome_of_isClean (clean : command.IsClean)
    (code : (outcome command).exitCode ≠ 0) : (outcome command).output = "" := by
  cases result : command.result with
  | ok value => exact absurd (outcome_of_result_eq_ok result).1 code
  | error failure =>
      rw [output_outcome]
      exact clean failure result

end Outcome

end Program

end PackageRecipe.CommandLine
