import PackageRecipe.CommandLine
import PackageRecipe.Proofs.CommandLine.Programs
import PackageRecipe.Proofs.Recipe.DistributionName

/-!
What can be wrong for a command: with the recipe, of which it cannot be said what the command
prints, or with the JSON for it. The commands fail in just these cases.
-/

namespace PackageRecipe.CommandLine

/-! ## What can be wrong -/

/-- The recipe that a command loads. -/
def Command.loaded? : Command → Option String
  | .inspect path | .render path true | .dist path | .depends path _ => some path
  | .render _ false | .facts | .completions _ => none

section Faults

variable (files : Files) (options : Options) (target : Target)

/-- What is wrong with a recipe for a command: it cannot be loaded, the lines of its manifest
cannot be selected, or what the command prints cannot be derived from it. -/
inductive RecipeFault : Command → Failure → Prop
  | load {command : Command} {path : String} {error : Recipe.Error}
      (loads : command.loaded? = some path) (fails : Recipe.load files path target = .error error) :
      RecipeFault command (.recipe error)
  | summary {path : String} {recipe : Recipe} {error : Recipe.Error}
      (loaded : Recipe.load files path target = .ok recipe)
      (fails : recipe.summary files.digest = .error error) :
      RecipeFault (.inspect path) (.recipe error)
  | manifest {path : String} {recipe : Recipe} {error : Yaml.Error}
      (loaded : Recipe.load files path target = .ok recipe)
      (fails : recipe.manifest.print = .error error) :
      RecipeFault (.render path true) (.unwritable error)
  | unreadable {path reason : String}
      (fails : files.text (Path.join path Recipe.manifestFile) = .error reason) :
      RecipeFault (.render path false)
        (.unreadable (Path.join path Recipe.manifestFile) reason)
  | selection {path text : String} {error : Selector.Error}
      (read : files.text (Path.join path Recipe.manifestFile) = .ok text)
      (fails : Selector.select target.facts text = .error error) :
      RecipeFault (.render path false) (.selector (Path.join path Recipe.manifestFile) error)
  | distribution {path : String} {recipe : Recipe} {error : Recipe.Error}
      (loaded : Recipe.load files path target = .ok recipe)
      (fails : recipe.distributionName = .error error) : RecipeFault (.dist path) (.recipe error)
  | dependencies {path : String} {kind : DependencyKind} {recipe : Recipe} {error : Recipe.Error}
      (loaded : Recipe.load files path target = .ok recipe)
      (fails : recipe.dependencies kind = .error error) :
      RecipeFault (.depends path kind) (.recipe error)

/-- What is wrong with the JSON for a command whose recipe is in order. -/
inductive SerializationFault : Command → Yaml.KeyFault → Prop
  | summary {path : String} {recipe : Recipe} {summary : Summary} {fault : Yaml.KeyFault}
      (json : options.json) (loaded : Recipe.load files path target = .ok recipe)
      (summarized : recipe.summary files.digest = .ok summary)
      (fails : summary.toJson = .error fault) : SerializationFault (.inspect path) fault

end Faults

variable {files : Files} {options : Options} {target : Target} {command : Command}
  {failure : Failure}

/-! ## What the commands fail with -/

theorem result_printJson_eq_error_iff {value : Except Yaml.KeyFault Json} :
    (printJson value).result = .error failure ↔
      ∃ fault, value = .error fault ∧ failure = .serialization fault := by
  rw [printJson, Program.result_attempt_bind_eq_error_iff]
  simp

theorem inspect_fails_iff {path : String} :
    (inspect files path target options.json).result = .error failure ↔
      RecipeFault files target (.inspect path) failure ∨
        ∃ fault, SerializationFault files options target (.inspect path) fault ∧
          failure = .serialization fault := by
  rw [inspect, loadRecipe, Program.result_attempt_bind_eq_error_iff]
  simp only [Program.result_attempt_bind_eq_error_iff]
  constructor
  · intro fails
    rcases fails with ⟨error, fails, rfl⟩ | ⟨recipe, loaded, fails⟩
    · exact .inl (.load rfl fails)
    · rcases fails with ⟨error, fails, rfl⟩ | ⟨summary, summarized, fails⟩
      · exact .inl (.summary loaded fails)
      · cases json : options.json with
        | false => simp [json] at fails
        | true =>
            rw [json, if_pos rfl, result_printJson_eq_error_iff] at fails
            rcases fails with ⟨fault, fails, rfl⟩
            exact .inr ⟨fault, .summary json loaded summarized fails, rfl⟩
  · intro fault
    rcases fault with fault | ⟨fault, serialization, rfl⟩
    · cases fault with
      | load loads fails =>
          cases loads
          exact .inl ⟨_, fails, rfl⟩
      | summary loaded fails => exact .inr ⟨_, loaded, .inl ⟨_, fails, rfl⟩⟩
    · cases serialization with
      | summary json loaded summarized fails =>
          refine .inr ⟨_, loaded, .inr ⟨_, summarized, ?_⟩⟩
          rw [if_pos json, result_printJson_eq_error_iff]
          exact ⟨fault, fails, rfl⟩

theorem render_fails_iff {path : String} {normalized : Bool} :
    (render files path target normalized).result = .error failure ↔
      RecipeFault files target (.render path normalized) failure := by
  cases normalized with
  | true =>
      rw [render, if_pos rfl, loadRecipe,
        Program.result_attempts_eq_error_iff fun _ text _ => ⟨(), Program.result_print text⟩]
      constructor
      · intro fails
        rcases fails with ⟨error, fails, rfl⟩ | ⟨recipe, loaded, error, fails, rfl⟩
        · exact .load rfl fails
        · exact .manifest loaded fails
      · intro fault
        cases fault with
        | load loads fails =>
            cases loads
            exact .inl ⟨_, fails, rfl⟩
        | manifest loaded fails => exact .inr ⟨_, loaded, _, fails, rfl⟩
  | false =>
      rw [render, if_neg Bool.false_ne_true,
        Program.result_attempts_eq_error_iff fun _ text _ => ⟨(), Program.result_print text⟩]
      constructor
      · intro fails
        rcases fails with ⟨reason, fails, rfl⟩ | ⟨text, read, error, fails, rfl⟩
        · exact .unreadable fails
        · exact .selection read fails
      · intro fault
        cases fault with
        | load loads fails => cases loads
        | unreadable fails => exact .inl ⟨_, fails, rfl⟩
        | selection read fails => exact .inr ⟨_, read, _, fails, rfl⟩

theorem dist_fails_iff {path : String} {json : Bool} :
    (dist files path target json).result = .error failure ↔
      RecipeFault files target (.dist path) failure := by
  rw [dist, loadRecipe, Program.result_attempts_eq_error_iff ?returns]
  case returns =>
    intro recipe name named
    -- A recipe with a distribution name has a build id as well.
    rcases Recipe.distributionName_eq_ok_iff.mp named with ⟨_, id, _, _, derived, _⟩
    refine ⟨(), ?_⟩
    cases json with
    | false => rfl
    | true =>
        rw [derived]
        rfl
  constructor
  · intro fails
    rcases fails with ⟨error, fails, rfl⟩ | ⟨recipe, loaded, error, fails, rfl⟩
    · exact .load rfl fails
    · exact .distribution loaded fails
  · intro fault
    cases fault with
    | load loads fails =>
        cases loads
        exact .inl ⟨_, fails, rfl⟩
    | distribution loaded fails => exact .inr ⟨_, loaded, _, fails, rfl⟩

theorem depends_fails_iff {path : String} {kind : DependencyKind} {json : Bool} :
    (depends files path target kind json).result = .error failure ↔
      RecipeFault files target (.depends path kind) failure := by
  rw [depends, loadRecipe, Program.result_attempts_eq_error_iff ?returns]
  case returns =>
    intro recipe requirements resolved
    refine ⟨(), ?_⟩
    cases json with
    | false => exact Program.result_printAll _
    | true => rfl
  constructor
  · intro fails
    rcases fails with ⟨error, fails, rfl⟩ | ⟨recipe, loaded, error, fails, rfl⟩
    · exact .load rfl fails
    · exact .dependencies loaded fails
  · intro fault
    cases fault with
    | load loads fails =>
        cases loads
        exact .inl ⟨_, fails, rfl⟩
    | dependencies loaded fails => exact .inr ⟨_, loaded, _, fails, rfl⟩

theorem result_printFacts {json : Bool} : (printFacts target json).result = .ok () := by
  cases json with
  | false => rw [printFacts, if_neg Bool.false_ne_true, Program.result_printAll]
  | true => rfl

/-- Only what is in a summary can be no good for JSON. -/
theorem SerializationFault.exists_path {fault : Yaml.KeyFault}
    (serialization : SerializationFault files options target command fault) :
    ∃ path, command = .inspect path := by
  cases serialization
  exact ⟨_, rfl⟩

/-- A command for a target fails over the recipe, or over the JSON for a recipe that is in
order. -/
theorem runFor_fails_iff :
    (runFor files options target command).result = .error failure ↔
      RecipeFault files target command failure ∨
        ∃ fault, SerializationFault files options target command fault ∧
          failure = .serialization fault := by
  -- All commands but one print texts, or values that are in JSON already.
  have unserialized (other : ∀ path, command ≠ .inspect path) :
      ¬∃ fault, SerializationFault files options target command fault ∧
        failure = .serialization fault := by
    intro found
    rcases found with ⟨fault, serialization, _⟩
    rcases serialization.exists_path with ⟨path, equal⟩
    exact other path equal
  cases command with
  | inspect path => exact inspect_fails_iff
  | render path normalized =>
      rw [or_iff_left (unserialized (by simp))]
      exact render_fails_iff
  | dist path =>
      rw [or_iff_left (unserialized (by simp))]
      exact dist_fails_iff
  | depends path kind =>
      rw [or_iff_left (unserialized (by simp))]
      exact depends_fails_iff
  | facts =>
      rw [or_iff_left (unserialized (by simp)), runFor, result_printFacts]
      refine iff_of_false (by simp) fun fault => ?_
      cases fault with
      | load loads fails => cases loads
  | completions shell =>
      rw [or_iff_left (unserialized (by simp)), runFor, Program.result_print]
      refine iff_of_false (by simp) fun fault => ?_
      cases fault with
      | load loads fails => cases loads

end PackageRecipe.CommandLine
