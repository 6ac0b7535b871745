import PackageRecipe.Proofs.Manifest.Agreement
import PackageRecipe.Proofs.Manifest.Normalization
import PackageRecipe.Proofs.Requirement
import PackageRecipe.Recipe.Summary

/-!
Requirements on a target. A runtime without a version gets the target's version, all else
is kept as it is written, and what comes out is not changed by the target again.
-/

namespace PackageRecipe

open Requirement (wordsOf HasParts ofWords)

/-! ## One requirement -/

namespace Target

/-- The digits of a version with points between them, and a star after them. -/
def versionPattern (version : UInt32) : String :=
  String.intercalate "." ((Nat.toDigits 10 version.toNat).map String.singleton) ++ "*"

example : versionPattern 110 = "1.1.0*" := by decide +kernel

/-- What words require on a target. -/
inductive Resolves (target : Target) (words : List String) : Requirement → Prop
  | python (alone : words = ["python"]) :
      Resolves target words ⟨"python " ++ versionPattern target.python, "python", 2⟩
  | numpy (alone : words = ["numpy"]) :
      Resolves target words ⟨"numpy " ++ versionPattern target.numpy, "numpy", 2⟩
  | kept {name : String} {others : List String} (notPython : words ≠ ["python"])
      (notNumpy : words ≠ ["numpy"]) (split : words = name :: others)
      (atMost : words.length ≤ 3) :
      Resolves target words ⟨String.intercalate " " words, name, words.length⟩

theorem versionPattern_eq (version : UInt32) :
    versionPattern version = Requirement.dotted version ++ "*" := by
  have digits : String.intercalate "." ((Nat.toDigits 10 version.toNat).map String.singleton) =
      Requirement.dotted version := by
    apply String.ext
    rw [String.toList_intercalate, List.map_map, Requirement.dotted, String.toList_ofList,
      ← Text.intercalate_map_singleton]
    simp [Function.comp_def]
  rw [versionPattern, digits]

theorem pinned_eq (runtime : String) (version : UInt32) :
    Requirement.pinned runtime version =
      ⟨runtime ++ " " ++ versionPattern version, runtime, 2⟩ := by
  rw [versionPattern_eq, Requirement.pinned_eq_ofWords]
  simp [ofWords, Requirement.joined]

variable {target : Target} {words : List String} {requirement : Requirement}

theorem pin_ofWords_of_ne (notPython : words ≠ ["python"]) (notNumpy : words ≠ ["numpy"]) :
    target.pin (ofWords words) = ofWords words := by
  rw [pin, ofWords]
  rcases words with _ | ⟨first, _ | ⟨second, others⟩⟩ <;> simp_all

theorem resolves_iff :
    target.Resolves words requirement ↔
      (1 ≤ words.length ∧ words.length ≤ 3) ∧ requirement = target.pin (ofWords words) := by
  constructor
  · intro resolved
    cases resolved with
    | python alone =>
        subst alone
        exact ⟨by simp, (pinned_eq "python" target.python).symm⟩
    | numpy alone =>
        subst alone
        exact ⟨by simp, (pinned_eq "numpy" target.numpy).symm⟩
    | kept notPython notNumpy split atMost =>
        rw [pin_ofWords_of_ne notPython notNumpy]
        subst split
        exact ⟨⟨by simp, atMost⟩, rfl⟩
  · intro pinned
    rcases pinned with ⟨⟨atLeast, atMost⟩, rfl⟩
    by_cases python : words = ["python"]
    · subst python
      have text : target.pin (ofWords ["python"]) = _ := pinned_eq "python" target.python
      rw [text]
      exact .python rfl
    by_cases numpy : words = ["numpy"]
    · subst numpy
      have text : target.pin (ofWords ["numpy"]) = _ := pinned_eq "numpy" target.numpy
      rw [text]
      exact .numpy rfl
    rw [pin_ofWords_of_ne python numpy]
    cases words with
    | nil => simp at atLeast
    | cons name others => exact .kept python numpy rfl atMost

/-- A runtime never stays without a version. -/
theorem Resolves.strictness_ne_one (resolved : target.Resolves words requirement)
    (runtime : requirement.name = "python" ∨ requirement.name = "numpy") :
    requirement.strictness ≠ 1 := by
  cases resolved with
  | python _ => simp
  | numpy _ => simp
  | kept notPython notNumpy split _ =>
      subst split
      intro single
      have alone := List.length_eq_zero_iff.mp (Nat.succ.inj single)
      subst alone
      rcases runtime with rfl | rfl
      · exact notPython rfl
      · exact notNumpy rfl

/-- Two words or three are kept. -/
theorem resolves_ofWords (areWords : ∀ word ∈ words, Text.IsWord word.toList)
    (atLeast : 2 ≤ words.length) (atMost : words.length ≤ 3) :
    target.Resolves (wordsOf (ofWords words).text) (ofWords words) := by
  rw [ofWords, Requirement.wordsOf_joined areWords, ← ofWords, resolves_iff, pin_ofWords_of_ne]
  · exact ⟨⟨by omega, atMost⟩, rfl⟩
  · intro python
    simp [python] at atLeast
  · intro numpy
    simp [numpy] at atLeast

theorem resolves_pinned {runtime : String} (isWord : Text.IsWord runtime.toList)
    (version : UInt32) :
    target.Resolves (wordsOf (Requirement.pinned runtime version).text)
      (Requirement.pinned runtime version) := by
  rw [Requirement.pinned_eq_ofWords]
  apply resolves_ofWords
  · simp only [List.forall_mem_cons, isWord, Requirement.isWord_dotted version, true_and]
    exact List.forall_mem_nil _
  · simp
  · simp

theorem Resolves.again {text : String} (resolved : target.Resolves (wordsOf text) requirement) :
    target.Resolves (wordsOf requirement.text) requirement := by
  cases resolved with
  | python alone =>
      have isWord : Text.IsWord "python".toList := by decide
      have pinned := pinned_eq "python" target.python
      exact pinned ▸ resolves_pinned isWord target.python
  | numpy alone =>
      have isWord : Text.IsWord "numpy".toList := by decide
      have pinned := pinned_eq "numpy" target.numpy
      exact pinned ▸ resolves_pinned isWord target.numpy
  | kept notPython notNumpy split atMost =>
      have same : wordsOf (String.intercalate " " (wordsOf text)) = wordsOf text := by
        apply Requirement.wordsOf_joined
        intro word member
        exact Requirement.isWord_of_mem_wordsOf member
      rw [same]
      exact .kept notPython notNumpy split atMost

end Target

/-! ## All requirements of a recipe -/

def DependencyKind.key : DependencyKind → String
  | .build => "build"
  | .run => "run"

theorem DependencyKind.field_eq (kind : DependencyKind) :
    kind.field = "requirements" ++ "/" ++ kind.key := by
  cases kind <;> rfl

namespace Recipe

variable {recipe first second : Recipe} {kind : DependencyKind}

theorem pin_parse_eq_ok_iff {text : String} {requirement : Requirement} :
    (do
      let parsed ← (Requirement.parse text).mapError (Error.requirement recipe.manifestPath)
      return recipe.target.pin parsed) = .ok requirement ↔
        recipe.target.Resolves (wordsOf text) requirement := by
  rw [Target.resolves_iff]
  constructor
  · intro equal
    rcases exists_of_bind_eq_ok equal with ⟨parsed, read, equal⟩
    cases equal
    rw [mapError_eq_ok_iff, Requirement.parse_eq_ok_iff] at read
    exact ⟨read.1, congrArg recipe.target.pin read.2⟩
  · intro resolved
    have read := Requirement.parse_eq_ok_iff.mpr ⟨resolved.1, rfl⟩
    rw [read, resolved.2]
    rfl

theorem pin_parse_eq_error_iff {text : String} {error : Error} :
    (do
      let parsed ← (Requirement.parse text).mapError (Error.requirement recipe.manifestPath)
      return recipe.target.pin parsed) = .error error ↔
        ∃ cause, Requirement.parse text = .error cause ∧
          error = .requirement recipe.manifestPath cause := by
  rw [← mapError_eq_error_iff]
  cases (Requirement.parse text).mapError (Error.requirement recipe.manifestPath) with
  | error cause => rfl
  | ok parsed =>
      constructor
      · intro impossible
        cases impossible
      · intro impossible
        cases impossible

theorem dependencies_eq_ok_iff {requirements : List Requirement} :
    recipe.dependencies kind = .ok requirements ↔
      List.Forall₂ (fun text requirement => recipe.target.Resolves (wordsOf text) requirement)
        (recipe.manifest.texts kind.field) requirements := by
  rw [dependencies, mapM_eq_ok_iff]
  simp only [pin_parse_eq_ok_iff]

theorem dependencies_eq_error_iff {error : Error} :
    recipe.dependencies kind = .error error ↔
      ∃ before text after, recipe.manifest.texts kind.field = before ++ text :: after ∧
        (∀ other ∈ before, HasParts other) ∧
          ∃ cause, Requirement.parse text = .error cause ∧
            error = .requirement recipe.manifestPath cause := by
  rw [dependencies, mapM_eq_error_iff]
  simp only [pin_parse_eq_ok_iff, pin_parse_eq_error_iff, Target.resolves_iff, exists_and_left,
    exists_eq, and_true, HasParts]

theorem exists_dependencies_iff :
    (∃ requirements, recipe.dependencies kind = .ok requirements) ↔
      ∀ text ∈ recipe.manifest.texts kind.field, HasParts text := by
  simp only [dependencies_eq_ok_iff]
  constructor
  · intro resolved
    rcases resolved with ⟨requirements, resolved⟩
    have parts := resolved.imp fun text requirement resolves =>
      And.intro (Target.resolves_iff.mp resolves).1 resolves
    exact ((List.forall₂_and_left _ _).mp parts).1
  · intro parts
    refine ⟨(recipe.manifest.texts kind.field).map fun text =>
      recipe.target.pin (ofWords (wordsOf text)), ?_⟩
    rw [List.forall₂_map_right_iff, List.forall₂_same]
    intro text member
    exact Target.resolves_iff.mpr ⟨parts text member, rfl⟩

theorem exists_resolves {requirements : List Requirement}
    (resolved : recipe.dependencies kind = .ok requirements) :
    ∀ requirement ∈ requirements, ∃ text,
      recipe.target.Resolves (wordsOf text) requirement := by
  rw [dependencies_eq_ok_iff] at resolved
  have sources := resolved.flip.imp fun requirement text resolves =>
    And.intro (Exists.intro text resolves) resolves
  exact ((List.forall₂_and_left _ _).mp sources).1

/-! ## Resolved requirements in place of those that were written -/

/-- A recipe that differs from another only in its requirements: where those of the other
can be resolved, it has what they are resolved to. -/
structure IsResolutionOf (recipe written : Recipe) : Prop where
  path : recipe.path = written.path
  target : recipe.target = written.target
  others : Manifest.AgreeExceptAt [DependencyKind.build.field, DependencyKind.run.field]
    written.manifest recipe.manifest
  lists : ∀ kind requirements, written.dependencies kind = .ok requirements →
    recipe.manifest.texts kind.field = requirements.map Requirement.text

/-- A recipe with other requirements in place of its own. -/
def withRequirements (recipe : Recipe) (kind : DependencyKind)
    (requirements : List Requirement) : Recipe :=
  { recipe with
    manifest := recipe.manifest.withValue "requirements" kind.key
      (.sequence (requirements.map fun requirement => .string requirement.text)) }

theorem agreeExceptAt_withRequirements (recipe : Recipe) (kind : DependencyKind)
    (requirements : List Requirement) :
    Manifest.AgreeExceptAt [kind.field] recipe.manifest
      (recipe.withRequirements kind requirements).manifest := by
  rw [kind.field_eq]
  exact Manifest.agreeExceptAt_withValue

theorem texts_withRequirements (recipe : Recipe) (kind : DependencyKind)
    (requirements : List Requirement) :
    (recipe.withRequirements kind requirements).manifest.texts kind.field =
      requirements.map Requirement.text := by
  rw [kind.field_eq, Manifest.texts, withRequirements, Manifest.get?_withValue (by decide)]
  have texts := Manifest.filterMap_string? (requirements.map Requirement.text)
  rwa [List.map_map] at texts

theorem isResolutionOf_withRequirements {written : Recipe} {build run : List Requirement}
    (buildResolved : written.dependencies .build = .ok build)
    (runResolved : written.dependencies .run = .ok run) :
    ((written.withRequirements .build build).withRequirements .run run).IsResolutionOf
      written where
  path := rfl
  target := rfl
  others :=
    (written.agreeExceptAt_withRequirements .build build).trans
      (agreeExceptAt_withRequirements _ .run run)
  lists := by
    intro kind requirements resolved
    cases kind with
    | run =>
        rw [runResolved] at resolved
        cases resolved
        exact texts_withRequirements _ .run run
    | build =>
        rw [buildResolved] at resolved
        cases resolved
        have kept := agreeExceptAt_withRequirements (written.withRequirements .build build) .run
          run DependencyKind.build.field (by decide)
        rw [← written.texts_withRequirements .build build, Manifest.texts, Manifest.texts, kept]

theorem IsResolutionOf.dependencies {requirements : List Requirement}
    (resolution : second.IsResolutionOf first)
    (resolved : first.dependencies kind = .ok requirements) :
    second.dependencies kind = .ok requirements := by
  have lists := resolution.lists kind requirements resolved
  rw [dependencies_eq_ok_iff, lists, resolution.target, List.forall₂_map_left_iff,
    List.forall₂_same]
  intro requirement member
  rcases exists_resolves resolved requirement member with ⟨text, resolves⟩
  exact resolves.again

theorem buildNumber_congr (path : second.path = first.path)
    (number : second.manifest.get? "build/number" = first.manifest.get? "build/number") :
    second.buildNumber = first.buildNumber := by
  rw [buildNumber, buildNumber, number, manifestPath, manifestPath, path]

theorem buildId_congr (path : second.path = first.path)
    (run : second.dependencies .run = first.dependencies .run)
    (number : second.buildNumber = first.buildNumber) : second.buildId = first.buildId := by
  have part : second.runtimePart = first.runtimePart := by
    funext requirements runtime tag
    rw [runtimePart, runtimePart, manifestPath, manifestPath, path]
  rw [buildId, buildId, run, part, number]

/-- Requirements that are all words in the right number are resolved one by one, and the first
that is not is the error. What they are resolved to is resolved to itself, so a recipe that
has it in place of its requirements is the same build. -/
theorem dependencies_resolve :
    (∀ (recipe : Recipe) (kind : DependencyKind),
      ((∃ error, recipe.dependencies kind = .error error) ↔
        ∃ text ∈ recipe.manifest.texts kind.field, ¬HasParts text) ∧
      (∀ error, recipe.dependencies kind = .error error ↔
        ∃ before text after, recipe.manifest.texts kind.field = before ++ text :: after ∧
          (∀ other ∈ before, HasParts other) ∧
            (wordsOf text = [] ∧ error = .requirement recipe.manifestPath .empty ∨
              3 < (wordsOf text).length ∧
                error = .requirement recipe.manifestPath (.tooManyParts text))) ∧
      (∀ requirements, recipe.dependencies kind = .ok requirements ↔
        List.Forall₂ (fun text requirement =>
            recipe.target.Resolves (wordsOf text) requirement)
          (recipe.manifest.texts kind.field) requirements) ∧
      ∀ requirements, recipe.dependencies kind = .ok requirements →
        ∀ requirement ∈ requirements,
          requirement.name = "python" ∨ requirement.name = "numpy" →
            requirement.strictness ≠ 1) ∧
    ∀ written recipe : Recipe, recipe.IsResolutionOf written →
      (∀ kind requirements, written.dependencies kind = .ok requirements →
        recipe.dependencies kind = .ok requirements) ∧
      ((∃ requirements, written.dependencies .run = .ok requirements) →
        recipe.buildId = written.buildId ∧ recipe.depends = written.depends) := by
  constructor
  · intro recipe kind
    refine ⟨?fails, ?errors, fun requirements => dependencies_eq_ok_iff, ?runtimes⟩
    case fails =>
      have resolved := not_congr (@exists_dependencies_iff recipe kind)
      simp only [not_forall, exists_prop] at resolved
      rw [← resolved]
      cases recipe.dependencies kind <;> simp
    case errors =>
      intro error
      rw [dependencies_eq_error_iff]
      simp only [Requirement.parse_eq_error_iff, or_and_right, exists_or, and_assoc,
        exists_and_left, exists_eq_left]
    case runtimes =>
      intro requirements resolved requirement member runtime
      rcases exists_resolves resolved requirement member with ⟨text, resolves⟩
      exact resolves.strictness_ne_one runtime
  · intro written recipe resolution
    refine ⟨fun kind requirements resolved => resolution.dependencies resolved, ?_⟩
    intro resolved
    rcases resolved with ⟨requirements, resolved⟩
    have run : recipe.dependencies .run = written.dependencies .run := by
      rw [resolved, resolution.dependencies resolved]
    have number : recipe.buildNumber = written.buildNumber :=
      buildNumber_congr resolution.path (resolution.others "build/number" (by decide)).symm
    refine ⟨buildId_congr resolution.path run number, ?_⟩
    rw [depends, depends, run]

/-- Requirements with more blanks than they need, one of them for a runtime alone. -/
def looseRecipe : Recipe :=
  ⟨"r", ⟨[(.string "requirements", .mapping [
    (.string "build", .sequence [.string "python-dateutil"]),
    (.string "run", .sequence [.string " python", .string "numpy\t 1.9*", .string "zlib"])])]⟩,
    ⟨"linux-64", 27, 110⟩⟩

theorem dependencies_resolve_loose :
    ∃ recipe : Recipe, recipe.IsResolutionOf looseRecipe ∧
      recipe.dependencies .run =
        .ok [⟨"python 2.7*", "python", 2⟩, ⟨"numpy 1.9*", "numpy", 2⟩, ⟨"zlib", "zlib", 1⟩] ∧
      recipe.buildId = .ok ⟨"np19py27_0"⟩ ∧
      recipe.depends = looseRecipe.depends := by
  have build : looseRecipe.dependencies .build =
      .ok [⟨"python-dateutil", "python-dateutil", 1⟩] := rfl
  have run : looseRecipe.dependencies .run =
      .ok [⟨"python 2.7*", "python", 2⟩, ⟨"numpy 1.9*", "numpy", 2⟩, ⟨"zlib", "zlib", 1⟩] := rfl
  have buildId : looseRecipe.buildId = .ok ⟨"np19py27_0"⟩ := rfl
  have resolution := isResolutionOf_withRequirements build run
  rcases dependencies_resolve.2 looseRecipe _ resolution with ⟨again, same⟩
  rcases same ⟨_, run⟩ with ⟨sameId, sameDepends⟩
  exact ⟨_, resolution, again .run _ run, sameId.trans buildId, sameDepends⟩

end Recipe

end PackageRecipe
