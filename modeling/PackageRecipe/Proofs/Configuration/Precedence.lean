import PackageRecipe.CommandLine
import PackageRecipe.Proofs.Configuration.Sources

/-!
Sources of settings in a row. The last one that gives a part decides on it, and the first
fault in any of them is the error of them all.
-/

namespace PackageRecipe.Configuration

open Target (IsShaped)

/-! ## Sources in a row -/

theorem applyAll_append (first second : List Source) (target : Target) :
    applyAll (first ++ second) target = applyAll first target >>= applyAll second := by
  induction first generalizing target with
  | nil => rfl
  | cons source rest induction =>
      rw [List.cons_append, applyAll, applyAll]
      split
      · exact induction _
      · rfl

theorem applyAll_eq_error_iff {sources : List Source} {target : Target} {error : Error} :
    applyAll sources target = .error error ↔
      (sources.flatMap Source.faults).head? = some error := by
  induction sources generalizing target with
  | nil => simp [applyAll]
  | cons source rest induction =>
      rw [applyAll, List.flatMap_cons]
      rcases apply_cases source target with ⟨given, gives, applied⟩ | ⟨first, given, stops, applied⟩
      · rw [applied, gives.faults_eq_nil, List.nil_append]
        exact induction
      · rw [applied, List.head?_append, stops.head?_faults]
        simp

theorem exists_of_applyAll_eq_ok {sources : List Source} {target result : Target}
    (applied : applyAll sources target = .ok result) :
    ∃ givens, List.Forall₂ Gives sources givens ∧
      result = givens.foldl (fun target given => given.over target) target := by
  induction sources generalizing target with
  | nil =>
      cases applied
      exact ⟨[], .nil, rfl⟩
  | cons source rest induction =>
      rw [applyAll] at applied
      rcases apply_cases source target with ⟨given, gives, change⟩ | ⟨error, given, stops, change⟩
      · rw [change] at applied
        rcases induction applied with ⟨givens, all, equal⟩
        exact ⟨given :: givens, .cons gives all, equal⟩
      · rw [change] at applied
        cases applied

/-! ## The configuration of a command -/

/-- The sources of a command's settings, in the order in which they are read. -/
def sourcesOf (files : Files) (environment : Environment) (options : CommandLine.Options) :
    List Source :=
  (options.settingsFile.map fun path => Source.file (files.text path)).toList ++
    [.environment environment, .overrides options.overrides]

theorem configuration_eq_applyAll (files : Files) (environment : Environment) (host : Target)
    (options : CommandLine.Options) :
    CommandLine.configuration files environment host options =
      applyAll (sourcesOf files environment options) host := by
  rw [sourcesOf, List.append_cons, applyAll_append, CommandLine.configuration, resolve,
    Option.toList_map, Option.toList_map, List.map_map]
  rfl

/-- A part of a command's target is what the options give, or else the environment, the
settings file or the machine. All of them are read, whatever is given in a later one: the
first fault that there is in any of them is the error. -/
theorem configuration_precedence (files : Files) (environment : Environment) (host : Target)
    (options : CommandLine.Options) :
    let result := CommandLine.configuration files environment host options
    let sources := sourcesOf files environment options
    (∀ target, result = .ok target →
      ∃ inFile inEnvironment,
        (∀ path ∈ options.settingsFile, Gives (.file (files.text path)) inFile) ∧
        (options.settingsFile = none → inFile = Overrides.none) ∧
        Gives (.environment environment) inEnvironment ∧
        target.subdir = options.overrides.subdir.getD
          (inEnvironment.subdir.getD (inFile.subdir.getD host.subdir)) ∧
        target.python = options.overrides.python.getD
          (inEnvironment.python.getD (inFile.python.getD host.python)) ∧
        target.numpy = options.overrides.numpy.getD
          (inEnvironment.numpy.getD (inFile.numpy.getD host.numpy))) ∧
    (∀ error, result = .error error ↔ (sources.flatMap Source.faults).head? = some error) ∧
    ((∃ error, result = .error error) ↔ ∃ source ∈ sources, source.faults ≠ []) := by
  intro result sources
  have equal : result = applyAll sources host :=
    configuration_eq_applyAll files environment host options
  have fails : ∀ error, result = .error error ↔
      (sources.flatMap Source.faults).head? = some error := by
    intro error
    rw [equal, applyAll_eq_error_iff]
  refine ⟨?parts, fails, ?faulty⟩
  case parts =>
    intro target settled
    rw [equal] at settled
    rcases exists_of_applyAll_eq_ok settled with ⟨givens, gives, rfl⟩
    change List.Forall₂ Gives
      ((options.settingsFile.map fun path => Source.file (files.text path)).toList ++ _) _ at gives
    cases found : options.settingsFile with
    | none =>
        rw [found] at gives
        rcases gives with _ | ⟨environmentGives, _ | ⟨overridesGives, _ | _⟩⟩
        cases overridesGives
        exact ⟨Overrides.none, _, by simp, fun _ => rfl, environmentGives, rfl, rfl, rfl⟩
    | some path =>
        rw [found] at gives
        rcases gives with _ | ⟨fileGives, _ | ⟨environmentGives, _ | ⟨overridesGives, _ | _⟩⟩⟩
        cases overridesGives
        exact ⟨_, _, by simpa using fileGives, by simp, environmentGives, rfl, rfl, rfl⟩
  case faulty =>
    have first : ∀ faults : List Error, (∃ error, faults.head? = some error) ↔ faults ≠ [] := by
      intro faults
      cases faults <;> simp
    simp only [fails, first, ne_eq, List.flatMap_eq_nil_iff]
    push Not
    rfl

/-- A settings file with a subdir and a version. -/
def settingsFiles : Files :=
  (FileTree.empty.add "c.toml" (some "subdir = 'osx-64'\npython = 35\n".toUTF8.data.toList)).files

/-- The subdir is from the options, python from the file and numpy from the environment. A
subdir in the environment that is no good is an error, though the options give a good one. -/
theorem configuration_precedence_mixed :
    let options : CommandLine.Options :=
      ⟨some "c.toml", ⟨some "win-32", none, none⟩, false, false, false⟩
    let numpy : Environment := fun name => [(numpyVariable, " 19 ")].lookup name
    let subdir : Environment := fun name => [(subdirVariable, "linux")].lookup name
    let result := fun environment =>
      CommandLine.configuration settingsFiles environment ⟨"linux-64", 27, 17⟩ options
    (∃ target inFile inEnvironment, result numpy = .ok target ∧
      Gives (.file (settingsFiles.text "c.toml")) inFile ∧
      Gives (.environment numpy) inEnvironment ∧ target.subdir = "win-32" ∧
      target.python = inEnvironment.python.getD (inFile.python.getD 27)) ∧
    result numpy = .ok ⟨"win-32", 35, 19⟩ ∧ result subdir = .error (.invalidSubdir "linux") := by
  intro options numpy subdir result
  have settled : result numpy = .ok ⟨"win-32", 35, 19⟩ := by decide +kernel
  refine ⟨?parts, settled, ?fault⟩
  case parts =>
    rcases (configuration_precedence settingsFiles numpy ⟨"linux-64", 27, 17⟩ options).1 _ settled
      with ⟨inFile, inEnvironment, fileGives, _, environmentGives, subdirEqual, pythonEqual, _⟩
    exact ⟨_, inFile, inEnvironment, settled, fileGives _ rfl, environmentGives, subdirEqual,
      pythonEqual⟩
  case fault =>
    refine ((configuration_precedence settingsFiles subdir ⟨"linux-64", 27, 17⟩ options).2.1 _).mpr ?_
    decide +kernel

end PackageRecipe.Configuration
