import PackageRecipe.Proofs.CommandLine.Faults
import PackageRecipe.Proofs.Configuration.Precedence

/-!
Exit codes. They are told from how a message starts, and still say what has failed: the
recipe, or else the configuration or the writing of JSON. A command that fails prints
nothing.
-/

namespace PackageRecipe.CommandLine

variable {files : Files} {environment : Configuration.Environment} {host : Target}
  {options : Options} {target : Target} {command : Command} {failure : Failure}

/-! ## Messages -/

/-- The message of a failure starts as those about recipes do. -/
def Failure.IsMarked (failure : Failure) : Prop :=
  recipeErrorStart.toList <+: failure.message.toList

theorem exitCode_of_isMarked (marked : failure.IsMarked) :
    failure.exitCode = 2 :=
  if_pos (List.isPrefixOf_iff_prefix.mpr marked)

theorem exitCode_of_not_isMarked (unmarked : ¬failure.IsMarked) :
    failure.exitCode = 1 :=
  if_neg fun starts => unmarked (List.isPrefixOf_iff_prefix.mp starts)

theorem isMarked_of_message_eq {message : String}
    (equal : failure.message = recipeMessage message) : failure.IsMarked := by
  rw [Failure.IsMarked, equal, recipeMessage, String.toList_append, String.toList_append,
    List.append_assoc]
  exact List.prefix_append _ _

theorem not_isMarked_of_message_eq {start rest : String} {first : Char}
    (begins : start.toList.head? = some first) (other : first ≠ 'r')
    (equal : failure.message = start ++ rest) : ¬failure.IsMarked := by
  intro marked
  rcases marked with ⟨remaining, same⟩
  have heads := congrArg List.head? same
  rw [equal, String.toList_append, List.head?_append, List.head?_append, begins] at heads
  exact other (Option.some.inj heads).symm

theorem not_isMarked_serialization (fault : Yaml.KeyFault) :
    ¬(Failure.serialization fault).IsMarked := by
  have begins : "JSON serialization failed: ".toList.head? = some 'J' := rfl
  exact not_isMarked_of_message_eq begins (by decide) rfl

/-- The name of a variable can be at the start of a message, and no other text that is given
from outside. -/
theorem not_isMarked_configuration {error : Configuration.Error}
    (fails : configuration files environment host options = .error error) :
    ¬(Failure.configuration error).IsMarked := by
  cases error with
  | unreadable reason =>
      have begins : "failed to read config file: ".toList.head? = some 'f' := rfl
      exact not_isMarked_of_message_eq begins (by decide) rfl
  | malformed =>
      have begins : "failed to parse config file: ".toList.head? = some 'f' := rfl
      exact not_isMarked_of_message_eq begins (by decide) rfl
  | invalidSubdir subdir =>
      have begins : "invalid platform subdir '".toList.head? = some 'i' := rfl
      exact not_isMarked_of_message_eq begins (by decide) String.append_assoc
  | invalidVersion name value =>
      rw [Configuration.configuration_eq_applyAll, Configuration.applyAll_eq_error_iff] at fails
      rcases List.mem_flatMap.mp (List.mem_of_mem_head? fails) with ⟨source, _, member⟩
      have begins : name.toList.head? = some 'R' := by
        rcases Configuration.variableName_of_mem_faults member with rfl | rfl <;> rfl
      exact not_isMarked_of_message_eq begins (by decide)
        (String.append_assoc.trans String.append_assoc)

theorem RecipeFault.isMarked (fault : RecipeFault files target command failure) :
    failure.IsMarked := by
  cases fault <;> exact isMarked_of_message_eq rfl

/-! ## What the commands have printed if they fail -/

theorem isClean_printJson (value : Except Yaml.KeyFault Json) : (printJson value).IsClean :=
  .attempt_bind fun json => Program.isClean_print (line json.indented)

/-- The last step of a command is the first that prints. -/
theorem isClean_runFor : (runFor files options target command).IsClean := by
  cases command with
  | inspect path =>
      refine .attempt_bind fun recipe => .attempt_bind fun summary => ?_
      split
      · exact isClean_printJson _
      · exact Program.isClean_printAll _
  | render path normalized =>
      rw [runFor, render]
      split
      · exact .attempt_bind fun recipe => .attempt_bind fun text => Program.isClean_print text
      · exact .attempt_bind fun text => .attempt_bind fun selected => Program.isClean_print selected
  | dist path =>
      refine .attempt_bind fun recipe => .attempt_bind fun name => ?_
      split
      · exact .attempt_bind fun build => isClean_printJson _
      · exact Program.isClean_print _
  | depends path kind =>
      refine .attempt_bind fun recipe => .attempt_bind fun requirements => ?_
      split
      · exact isClean_printJson _
      · exact Program.isClean_printAll _
  | facts => exact Program.isClean_of_result_eq_ok result_printFacts
  | completions shell => exact Program.isClean_print _

/-! ## Outcomes -/

section Targeted

variable (targeted : ∀ shell, command ≠ .completions shell)

include targeted

theorem runCommand_eq :
    runCommand files environment host options command =
      attempt ((configuration files environment host options).mapError .configuration) >>=
        fun target => runFor files options target command := by
  cases command with
  | completions shell => exact absurd rfl (targeted shell)
  | _ => rfl

theorem isClean_runCommand :
    (runCommand files environment host options command).IsClean := by
  rw [runCommand_eq targeted]
  exact .attempt_bind fun target => isClean_runFor

theorem run_of_configuration_eq_error {error : Configuration.Error}
    (refused : configuration files environment host options = .error error) :
    (run files environment host (.run options command)).exitCode = 1 ∧
      (run files environment host (.run options command)).failure =
        some (.configuration error) := by
  rw [← exitCode_of_not_isMarked (not_isMarked_configuration refused)]
  apply Program.outcome_of_result_eq_error
  rw [runCommand_eq targeted, Program.result_attempt_bind_eq_error_iff]
  exact .inl ⟨error, refused, rfl⟩

section Resolved

variable (resolved : configuration files environment host options = .ok target)

include resolved

theorem result_runCommand :
    (runCommand files environment host options command).result =
      (runFor files options target command).result := by
  rw [runCommand_eq targeted, Program.result_bind (Program.isSilent_attempt _), resolved,
    Program.result_attempt]
  rfl

theorem run_of_recipeFault (fault : RecipeFault files target command failure) :
    (run files environment host (.run options command)).exitCode = 2 ∧
      (run files environment host (.run options command)).failure = some failure := by
  rw [← exitCode_of_isMarked fault.isMarked]
  apply Program.outcome_of_result_eq_error
  rw [result_runCommand targeted resolved, runFor_fails_iff]
  exact .inl fault

theorem run_of_serializationFault {fault : Yaml.KeyFault}
    (serialization : SerializationFault files options target command fault) :
    (run files environment host (.run options command)).exitCode = 1 ∧
      (run files environment host (.run options command)).failure =
        some (.serialization fault) := by
  rw [← exitCode_of_not_isMarked (not_isMarked_serialization fault)]
  apply Program.outcome_of_result_eq_error
  rw [result_runCommand targeted resolved, runFor_fails_iff]
  exact .inr ⟨fault, serialization, rfl⟩

theorem run_of_no_fault (sound : ¬∃ failure, RecipeFault files target command failure)
    (serialized : ¬∃ fault, SerializationFault files options target command fault) :
    (run files environment host (.run options command)).exitCode = 0 := by
  refine (Program.outcome_of_result_eq_ok ?_).1
  rw [result_runCommand targeted resolved]
  cases result : (runFor files options target command).result with
  | ok value => rfl
  | error failure =>
      rcases runFor_fails_iff.mp result with fault | ⟨fault, serialization, _⟩
      · exact absurd ⟨failure, fault⟩ sound
      · exact absurd ⟨fault, serialization⟩ serialized

theorem exitCode_eq_two_iff :
    (run files environment host (.run options command)).exitCode = 2 ↔
      ∃ failure, RecipeFault files target command failure := by
  constructor
  · intro code
    by_contra sound
    by_cases unserialized : ∃ fault, SerializationFault files options target command fault
    · rcases unserialized with ⟨fault, serialization⟩
      rw [(run_of_serializationFault targeted resolved serialization).1] at code
      cases code
    · rw [run_of_no_fault targeted resolved sound unserialized] at code
      cases code
  · intro faulty
    rcases faulty with ⟨failure, fault⟩
    exact (run_of_recipeFault targeted resolved fault).1

theorem exitCode_eq_one_iff :
    (run files environment host (.run options command)).exitCode = 1 ↔
      (¬∃ failure, RecipeFault files target command failure) ∧
        ∃ fault, SerializationFault files options target command fault := by
  constructor
  · intro code
    have sound : ¬∃ failure, RecipeFault files target command failure := by
      rw [← exitCode_eq_two_iff targeted resolved, code]
      decide
    refine ⟨sound, ?_⟩
    by_contra serialized
    rw [run_of_no_fault targeted resolved sound serialized] at code
    cases code
  · intro unserialized
    rcases unserialized with ⟨_, fault, serialization⟩
    exact (run_of_serializationFault targeted resolved serialization).1

theorem exitCode_eq_zero_iff :
    (run files environment host (.run options command)).exitCode = 0 ↔
      (¬∃ failure, RecipeFault files target command failure) ∧
        ¬∃ fault, SerializationFault files options target command fault := by
  constructor
  · intro code
    rw [← exitCode_eq_two_iff targeted resolved, code]
    refine ⟨by decide, ?_⟩
    intro unserialized
    rcases unserialized with ⟨fault, serialization⟩
    rw [(run_of_serializationFault targeted resolved serialization).1] at code
    cases code
  · intro parts
    exact run_of_no_fault targeted resolved parts.1 parts.2

end Resolved

end Targeted

/-- The exit code of a command says what has failed, though it is told from the message: the
configuration, whatever the recipe is; or else the recipe; or else only the JSON. If anything
has failed, nothing is printed. -/
theorem exitCode_tells_fault (files : Files) (environment : Configuration.Environment)
    (host : Target) (options : Options) (command : Command)
    (targeted : ∀ shell, command ≠ .completions shell) :
    let outcome := run files environment host (.run options command)
    (outcome.exitCode = 0 ∨ outcome.exitCode = 1 ∨ outcome.exitCode = 2) ∧
    (outcome.exitCode ≠ 0 → outcome.output = "") ∧
    (∀ error, configuration files environment host options = .error error →
      outcome.exitCode = 1 ∧ outcome.failure = some (.configuration error) ∧
        ¬(Failure.configuration error).IsMarked) ∧
    ∀ target, configuration files environment host options = .ok target →
      (outcome.exitCode = 2 ↔ ∃ failure, RecipeFault files target command failure) ∧
      (outcome.exitCode = 1 ↔ (¬∃ failure, RecipeFault files target command failure) ∧
        ∃ fault, SerializationFault files options target command fault) ∧
      (outcome.exitCode = 0 ↔ (¬∃ failure, RecipeFault files target command failure) ∧
        ¬∃ fault, SerializationFault files options target command fault) ∧
      (∀ failure, RecipeFault files target command failure →
        outcome.failure = some failure ∧ failure.IsMarked) ∧
      ∀ fault, SerializationFault files options target command fault →
        outcome.failure = some (.serialization fault) ∧
          ¬(Failure.serialization fault).IsMarked := by
  intro outcome
  refine ⟨Program.exitCode_outcome _,
    Program.output_outcome_of_isClean (isClean_runCommand targeted), ?refused, ?resolved⟩
  case refused =>
    intro error refused
    rcases run_of_configuration_eq_error targeted refused with ⟨code, failure⟩
    exact ⟨code, failure, not_isMarked_configuration refused⟩
  case resolved =>
    intro target resolved
    refine ⟨exitCode_eq_two_iff targeted resolved, exitCode_eq_one_iff targeted resolved,
      exitCode_eq_zero_iff targeted resolved, ?recipe, ?json⟩
    case recipe =>
      intro failure fault
      exact ⟨(run_of_recipeFault targeted resolved fault).2, fault.isMarked⟩
    case json =>
      intro fault serialization
      exact ⟨(run_of_serializationFault targeted resolved serialization).2,
        not_isMarked_serialization fault⟩

/-- A recipe of an application with a key that JSON cannot have. -/
def keyedFiles : Files :=
  (FileTree.empty.add "r/meta.yaml" (some
    "package:\n  name: a\n  version: '1'\napp:\n  entry: {null: 1}\n".toUTF8.data.toList)).files

/-- Only the JSON of the recipe that there is fails, and no other recipe can be loaded. A value in
the environment that is written like the start of a message about a recipe is not taken for
one. -/
theorem exitCode_tells_fault_keyed :
    let options : Options := ⟨none, Configuration.Overrides.none, true, false, false⟩
    let host : Target := ⟨"linux-64", 27, 19⟩
    let unset : Configuration.Environment := fun _ => none
    let marked : Configuration.Environment :=
      fun name => [(Configuration.pythonVariable, recipeErrorStart)].lookup name
    let outcome := fun environment path =>
      run keyedFiles environment host (.run options (.inspect path))
    (outcome unset "r").exitCode = 1 ∧ (outcome unset "r").output = "" ∧
      (∃ fault, SerializationFault keyedFiles options host (.inspect "r") fault) ∧
      (outcome unset "s").exitCode = 2 ∧ (outcome unset "s").output = "" ∧
      (∃ failure, RecipeFault keyedFiles host (.inspect "s") failure) ∧
      (outcome marked "s").exitCode = 1 ∧ (outcome marked "s").output = "" := by
  intro options host unset marked outcome
  have unserialized : (outcome unset "r").exitCode = 1 := by decide +kernel
  have faulty : (outcome unset "s").exitCode = 2 := by decide +kernel
  have refused : (outcome marked "s").exitCode = 1 := by decide +kernel
  rcases exitCode_tells_fault keyedFiles unset host options (.inspect "r") (by simp) with
    ⟨_, silent, _, settled⟩
  rcases exitCode_tells_fault keyedFiles unset host options (.inspect "s") (by simp) with
    ⟨_, otherSilent, _, otherSettled⟩
  rcases exitCode_tells_fault keyedFiles marked host options (.inspect "s") (by simp) with
    ⟨_, refusedSilent, _⟩
  refine ⟨unserialized, silent ?_, ((settled host rfl).2.1.mp unserialized).2, faulty,
    otherSilent ?_, (otherSettled host rfl).1.mp faulty, refused, refusedSilent ?_⟩
  · rw [unserialized]
    decide
  · rw [faulty]
    decide
  · rw [refused]
    decide

end PackageRecipe.CommandLine
