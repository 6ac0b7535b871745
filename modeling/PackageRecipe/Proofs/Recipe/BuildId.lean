import PackageRecipe.Proofs.Recipe.Dependencies

/-!
Build ids. A build id shows the versions of the runtimes and ends in the number of the
build, which can be read off it whatever the versions hold. There is none if one of its
parts cannot be derived, and the first such part is the reason.
-/

namespace PackageRecipe

/-! ## Runtimes -/

namespace Requirement

/-- The first requirement with a name. -/
def IsFirst (requirements : List Requirement) (runtime : String) (requirement : Requirement) :
    Prop :=
  ∃ before after, requirements = before ++ requirement :: after ∧
    requirement.name = runtime ∧ ∀ other ∈ before, other.name ≠ runtime

def HasLongVersion (requirement : Requirement) : Prop :=
  ∃ version, requirement.version? = some version ∧ 3 ≤ version.length

/-- What requirements show of a runtime: its tag with the first and the third character of
its version, or nothing if it is not required. -/
inductive Shows (requirements : List Requirement) (runtime tag : String) : List Char → Prop
  | absent (notNamed : ∀ requirement ∈ requirements, requirement.name ≠ runtime) :
      Shows requirements runtime tag []
  | present {requirement : Requirement} {version : String} {first second third : Char}
      {rest : List Char} (isFirst : IsFirst requirements runtime requirement)
      (found : requirement.version? = some version)
      (characters : version.toList = first :: second :: third :: rest) :
      Shows requirements runtime tag (tag.toList ++ [first, third])

/-- A runtime is not required, or has a long enough version. -/
def IsShown (requirements : List Requirement) (runtime : String) : Prop :=
  ∀ requirement, IsFirst requirements runtime requirement → requirement.HasLongVersion

variable {requirements : List Requirement} {runtime tag : String} {requirement : Requirement}

theorem find?_eq_some_iff :
    requirements.find? (·.name == runtime) = some requirement ↔
      IsFirst requirements runtime requirement := by
  rw [List.find?_eq_some_iff_append, IsFirst]
  constructor
  · intro found
    rcases found with ⟨named, before, after, equal, others⟩
    exact ⟨before, after, equal, by simpa using named, by simpa using others⟩
  · intro found
    rcases found with ⟨before, after, equal, named, others⟩
    exact ⟨by simpa using named, before, after, equal, by simpa using others⟩

theorem find?_eq_none_iff :
    requirements.find? (·.name == runtime) = none ↔
      ∀ requirement ∈ requirements, requirement.name ≠ runtime := by
  simp

theorem exists_version_of_getD {head : Char} {tail : List Char}
    (characters : (requirement.version?.getD "").toList = head :: tail) :
    ∃ version, requirement.version? = some version ∧ version.toList = head :: tail := by
  cases found : requirement.version? with
  | none =>
      rw [found] at characters
      cases characters
  | some version =>
      rw [found] at characters
      exact ⟨version, rfl, characters⟩

theorem HasLongVersion.exists_characters (long : requirement.HasLongVersion) :
    ∃ version first second third rest, requirement.version? = some version ∧
      version.toList = first :: second :: third :: rest := by
  rcases long with ⟨version, found, atLeast⟩
  rw [← String.length_toList] at atLeast
  rcases characters : version.toList with _ | ⟨first, _ | ⟨second, _ | ⟨third, rest⟩⟩⟩
  case cons.cons.cons => exact ⟨version, first, second, third, rest, found, characters⟩
  all_goals simp [characters] at atLeast

theorem hasLongVersion_of_characters {version : String} {first second third : Char}
    {rest : List Char} (found : requirement.version? = some version)
    (characters : version.toList = first :: second :: third :: rest) :
    requirement.HasLongVersion := by
  refine ⟨version, found, ?_⟩
  rw [← String.length_toList, characters]
  simp

theorem IsFirst.unique {other : Requirement} (isFirst : IsFirst requirements runtime requirement)
    (otherFirst : IsFirst requirements runtime other) : requirement = other := by
  rw [← find?_eq_some_iff] at isFirst otherFirst
  exact Option.some.inj (isFirst.symm.trans otherFirst)

theorem isShown_of_shows {part : List Char} (shows : Shows requirements runtime tag part) :
    IsShown requirements runtime := by
  intro requirement isFirst
  cases shows with
  | absent notNamed =>
      rw [← find?_eq_none_iff, find?_eq_some_iff.mpr isFirst] at notNamed
      cases notNamed
  | present otherFirst found characters =>
      rw [isFirst.unique otherFirst]
      exact hasLongVersion_of_characters found characters

theorem shows_or_short (requirements : List Requirement) (runtime tag : String) :
    (∃ part, Shows requirements runtime tag part) ∨
      ∃ requirement, IsFirst requirements runtime requirement ∧
        ¬requirement.HasLongVersion := by
  cases found : requirements.find? (·.name == runtime) with
  | none => exact .inl ⟨_, .absent (find?_eq_none_iff.mp found)⟩
  | some requirement =>
      have isFirst := find?_eq_some_iff.mp found
      by_cases long : requirement.HasLongVersion
      · rcases long.exists_characters with ⟨version, first, second, third, rest, found, characters⟩
        exact .inl ⟨_, .present isFirst found characters⟩
      · exact .inr ⟨requirement, isFirst, long⟩

theorem exists_shows_iff : (∃ part, Shows requirements runtime tag part) ↔
    IsShown requirements runtime := by
  constructor
  · intro shown
    rcases shown with ⟨part, shows⟩
    exact isShown_of_shows shows
  · intro shown
    rcases shows_or_short requirements runtime tag with shows | ⟨requirement, isFirst, short⟩
    · exact shows
    · exact absurd (shown requirement isFirst) short

end Requirement

namespace Recipe

open Requirement

variable {recipe first second : Recipe} {requirements : List Requirement}
  {runtime tag : String}

theorem runtimePart_of_shows {part : List Char} (shows : Shows requirements runtime tag part) :
    recipe.runtimePart requirements runtime tag = .ok part := by
  cases shows with
  | absent notNamed => rw [runtimePart, find?_eq_none_iff.mpr notNamed]
  | present isFirst found characters =>
      simp only [runtimePart, find?_eq_some_iff.mpr isFirst, found, Option.getD_some, characters]

theorem runtimePart_of_short {requirement : Requirement}
    (isFirst : IsFirst requirements runtime requirement)
    (short : ¬requirement.HasLongVersion) :
    recipe.runtimePart requirements runtime tag =
      .error (.shortPin recipe.manifestPath requirement.text) := by
  simp only [runtimePart, find?_eq_some_iff.mpr isFirst]
  split
  · rename_i characters
    rcases exists_version_of_getD characters with ⟨version, found, characters⟩
    exact absurd (hasLongVersion_of_characters found characters) short
  · rfl

theorem runtimePart_eq_ok_iff {part : List Char} :
    recipe.runtimePart requirements runtime tag = .ok part ↔
      Shows requirements runtime tag part := by
  constructor
  · intro equal
    rcases shows_or_short requirements runtime tag with ⟨shown, shows⟩ | ⟨_, isFirst, short⟩
    · rw [runtimePart_of_shows shows] at equal
      cases equal
      exact shows
    · rw [runtimePart_of_short isFirst short] at equal
      cases equal
  · exact runtimePart_of_shows

theorem runtimePart_eq_error_iff {error : Error} :
    recipe.runtimePart requirements runtime tag = .error error ↔
      ∃ requirement, IsFirst requirements runtime requirement ∧
        ¬requirement.HasLongVersion ∧ error = .shortPin recipe.manifestPath requirement.text := by
  constructor
  · intro equal
    rcases shows_or_short requirements runtime tag with ⟨_, shows⟩ | ⟨_, isFirst, short⟩
    · rw [runtimePart_of_shows shows] at equal
      cases equal
    · rw [runtimePart_of_short isFirst short] at equal
      cases equal
      exact ⟨_, isFirst, short, rfl⟩
  · intro found
    rcases found with ⟨requirement, isFirst, short, rfl⟩
    exact runtimePart_of_short isFirst short

/-! ## Numbers -/

/-- What stands before the number: what is shown of the runtimes, and a low line after it. -/
def front (runtimes : List Char) : List Char :=
  if runtimes = [] then [] else runtimes ++ ['_']

theorem toDigits_injective {number other : Nat}
    (same : Nat.toDigits 10 number = Nat.toDigits 10 other) : number = other := by
  have value := congrArg (Nat.ofDigitChars 10 · 0) same
  simpa using value

/-- No digit is a low line, so the last low line is the one before the number. -/
theorem getLast?_pieces_front (runtimes : List Char) (number : Nat) :
    (Text.pieces (· == '_') (front runtimes ++ Nat.toDigits 10 number)).getLast? =
      some (Nat.toDigits 10 number) := by
  have digits : ∀ character ∈ Nat.toDigits 10 number, (character == '_') = false := by
    intro character member
    rw [beq_eq_false_iff_ne]
    intro equal
    exact Nat.underscore_not_in_toDigits (equal ▸ member)
  rw [front]
  split
  · rw [List.nil_append, Text.pieces_of_not_separated digits]
    rfl
  · rw [List.append_assoc, List.singleton_append, Text.pieces_append_cons rfl,
      Text.pieces_of_not_separated digits, List.getLast?_concat]

/-! ## Build ids -/

theorem buildId_eq_ok_iff {id : BuildId} :
    recipe.buildId = .ok id ↔
      ∃ requirements numpy python number, recipe.dependencies .run = .ok requirements ∧
        Shows requirements "numpy" "np" numpy ∧ Shows requirements "python" "py" python ∧
          recipe.buildNumber = .ok number ∧
            id = ⟨String.ofList (front (numpy ++ python) ++ Nat.toDigits 10 number)⟩ := by
  have text : ∀ runtimes digits : List Char,
      runtimes ++ (if runtimes = [] then [] else ['_']) ++ digits = front runtimes ++ digits := by
    intro runtimes digits
    rw [front]
    split
    · simp_all
    · rfl
  constructor
  · intro equal
    rcases exists_of_bind_eq_ok equal with ⟨requirements, resolved, equal⟩
    rcases exists_of_bind_eq_ok equal with ⟨numpy, numpyEqual, equal⟩
    rcases exists_of_bind_eq_ok equal with ⟨python, pythonEqual, equal⟩
    rcases exists_of_bind_eq_ok equal with ⟨number, numberEqual, equal⟩
    cases equal
    refine ⟨requirements, numpy, python, number, resolved, runtimePart_eq_ok_iff.mp numpyEqual,
      runtimePart_eq_ok_iff.mp pythonEqual, numberEqual, ?_⟩
    rw [text]
  · intro parts
    rcases parts with ⟨requirements, numpy, python, number, resolved, numpyShows, pythonShows,
      numberEqual, rfl⟩
    rw [← text, buildId, resolved, ok_bind, runtimePart_of_shows numpyShows, ok_bind,
      runtimePart_of_shows pythonShows, ok_bind, numberEqual]
    rfl

/-- Why there is no build id. A reason counts only where none of those before it does. -/
inductive BuildFault (recipe : Recipe) : Error → Prop
  | requirement {before after : List String} {text : String} {cause : Requirement.Error}
      (list : recipe.manifest.texts "requirements/run" = before ++ text :: after)
      (earlier : ∀ other ∈ before, ∃ requirement, Requirement.parse other = .ok requirement)
      (fails : Requirement.parse text = .error cause) :
      BuildFault recipe (.requirement recipe.manifestPath cause)
  | numpy {requirements : List Requirement} {requirement : Requirement}
      (resolved : recipe.dependencies .run = .ok requirements)
      (isFirst : IsFirst requirements "numpy" requirement)
      (short : ¬requirement.HasLongVersion) :
      BuildFault recipe (.shortPin recipe.manifestPath requirement.text)
  | python {requirements : List Requirement} {requirement : Requirement}
      (resolved : recipe.dependencies .run = .ok requirements)
      (numpy : IsShown requirements "numpy")
      (isFirst : IsFirst requirements "python" requirement)
      (short : ¬requirement.HasLongVersion) :
      BuildFault recipe (.shortPin recipe.manifestPath requirement.text)
  | number {requirements : List Requirement} {error : Error}
      (resolved : recipe.dependencies .run = .ok requirements)
      (numpy : IsShown requirements "numpy") (python : IsShown requirements "python")
      (fails : recipe.buildNumber = .error error) :
      BuildFault recipe error

theorem buildId_eq_error_iff {error : Error} :
    recipe.buildId = .error error ↔ recipe.BuildFault error := by
  constructor
  -- Each part that is there leaves the error to the parts after it.
  · intro equal
    rcases eq_error_or_of_bind_eq_error equal with fails | ⟨requirements, resolved, equal⟩
    · rcases dependencies_eq_error_iff.mp fails with
        ⟨before, text, after, list, earlier, cause, unread, rfl⟩
      simp only [← Requirement.exists_parse_eq_ok_iff] at earlier
      exact .requirement list earlier unread
    rcases eq_error_or_of_bind_eq_error equal with fails | ⟨numpy, numpyEqual, equal⟩
    · rcases runtimePart_eq_error_iff.mp fails with ⟨requirement, isFirst, short, rfl⟩
      exact .numpy resolved isFirst short
    have numpyShown := isShown_of_shows (runtimePart_eq_ok_iff.mp numpyEqual)
    rcases eq_error_or_of_bind_eq_error equal with fails | ⟨python, pythonEqual, equal⟩
    · rcases runtimePart_eq_error_iff.mp fails with ⟨requirement, isFirst, short, rfl⟩
      exact .python resolved numpyShown isFirst short
    have pythonShown := isShown_of_shows (runtimePart_eq_ok_iff.mp pythonEqual)
    rcases eq_error_or_of_bind_eq_error equal with fails | ⟨number, numberEqual, equal⟩
    · exact .number resolved numpyShown pythonShown fails
    · cases equal
  · intro fault
    cases fault with
    | @requirement before after text cause list earlier fails =>
        simp only [Requirement.exists_parse_eq_ok_iff] at earlier
        have unresolved : recipe.dependencies .run =
            .error (.requirement recipe.manifestPath cause) :=
          dependencies_eq_error_iff.mpr ⟨before, text, after, list, earlier, cause, fails, rfl⟩
        rw [buildId, unresolved, error_bind]
    | numpy resolved isFirst short =>
        rw [buildId, resolved, ok_bind, runtimePart_of_short isFirst short, error_bind]
    | python resolved numpy isFirst short =>
        rcases exists_shows_iff.mpr numpy with ⟨part, numpyShows⟩
        rw [buildId, resolved, ok_bind, runtimePart_of_shows numpyShows, ok_bind,
          runtimePart_of_short isFirst short, error_bind]
    | number resolved numpy python fails =>
        rcases exists_shows_iff.mpr numpy with ⟨part, numpyShows⟩
        rcases exists_shows_iff.mpr python with ⟨other, pythonShows⟩
        rw [buildId, resolved, ok_bind, runtimePart_of_shows numpyShows, ok_bind,
          runtimePart_of_shows pythonShows, ok_bind, fails, error_bind]

theorem exists_buildId_iff :
    (∃ id, recipe.buildId = .ok id) ↔
      (∀ text ∈ recipe.manifest.texts "requirements/run",
        ∃ requirement, Requirement.parse text = .ok requirement) ∧
      (∀ requirements, recipe.dependencies .run = .ok requirements →
        IsShown requirements "numpy" ∧ IsShown requirements "python") ∧
      ∃ number, recipe.buildNumber = .ok number := by
  have parses : (∃ requirements, recipe.dependencies .run = .ok requirements) ↔
      ∀ text ∈ recipe.manifest.texts "requirements/run",
        ∃ requirement, Requirement.parse text = .ok requirement := by
    simp only [Requirement.exists_parse_eq_ok_iff]
    exact exists_dependencies_iff
  rw [← parses]
  constructor
  · intro found
    rcases found with ⟨id, equal⟩
    rcases buildId_eq_ok_iff.mp equal with
      ⟨requirements, numpy, python, number, resolved, numpyShows, pythonShows, numberEqual, _⟩
    refine ⟨⟨requirements, resolved⟩, ?_, ⟨number, numberEqual⟩⟩
    intro others othersResolved
    rw [resolved] at othersResolved
    cases othersResolved
    exact ⟨isShown_of_shows numpyShows, isShown_of_shows pythonShows⟩
  · intro parts
    rcases parts with ⟨⟨requirements, resolved⟩, shown, ⟨number, numberEqual⟩⟩
    rcases shown requirements resolved with ⟨numpyShown, pythonShown⟩
    rcases exists_shows_iff.mpr numpyShown with ⟨numpy, numpyShows⟩
    rcases exists_shows_iff.mpr pythonShown with ⟨python, pythonShows⟩
    exact ⟨_, buildId_eq_ok_iff.mpr ⟨requirements, numpy, python, number, resolved, numpyShows,
      pythonShows, numberEqual, rfl⟩⟩

theorem dependencies_congr (target : first.target = second.target)
    (texts : first.manifest.texts DependencyKind.run.field =
      second.manifest.texts DependencyKind.run.field)
    {requirements : List Requirement} (resolved : first.dependencies .run = .ok requirements) :
    second.dependencies .run = .ok requirements := by
  rw [dependencies_eq_ok_iff] at resolved ⊢
  rwa [target, texts] at resolved

/-- Recipes that differ in the number alone have the same front. -/
theorem exists_front_of_agree (target : first.target = second.target)
    (agree : Manifest.AgreeExceptAt ["build/number"] first.manifest second.manifest)
    {id other : BuildId} (firstId : first.buildId = .ok id) (secondId : second.buildId = .ok other) :
    ∃ runtimes number otherNumber, first.buildNumber = .ok number ∧
      second.buildNumber = .ok otherNumber ∧
        id = ⟨String.ofList (front runtimes ++ Nat.toDigits 10 number)⟩ ∧
          other = ⟨String.ofList (front runtimes ++ Nat.toDigits 10 otherNumber)⟩ := by
  rcases buildId_eq_ok_iff.mp firstId with
    ⟨requirements, numpy, python, number, resolved, numpyShows, pythonShows, numberEqual, idEqual⟩
  rcases buildId_eq_ok_iff.mp secondId with ⟨_, _, _, otherNumber, _, _, _, otherEqual, _⟩
  have texts : first.manifest.texts DependencyKind.run.field =
      second.manifest.texts DependencyKind.run.field := by
    rw [Manifest.texts, Manifest.texts, agree DependencyKind.run.field (by decide)]
  have otherId := buildId_eq_ok_iff.mpr ⟨requirements, numpy, python, otherNumber,
    dependencies_congr target texts resolved, numpyShows, pythonShows, otherEqual, rfl⟩
  rw [secondId] at otherId
  exact ⟨numpy ++ python, number, otherNumber, numberEqual, otherEqual, idEqual,
    Except.ok.inj otherId⟩

/-- A build id shows numpy and then python, as far as they are required at run time, and ends
in the number of the build, after a low line if a runtime is shown. There is one unless a
requirement, a version or the number is at fault, and the first of these is the error. The
number is what stands after the last low line; it alone tells recipes apart that differ in
nothing else. -/
theorem buildId_encodes :
    (∀ recipe : Recipe,
      ((∃ id, recipe.buildId = .ok id) ↔
        (∀ text ∈ recipe.manifest.texts "requirements/run",
          ∃ requirement, Requirement.parse text = .ok requirement) ∧
        (∀ requirements, recipe.dependencies .run = .ok requirements →
          IsShown requirements "numpy" ∧ IsShown requirements "python") ∧
        ∃ number, recipe.buildNumber = .ok number) ∧
      (∀ error, recipe.buildId = .error error ↔ recipe.BuildFault error) ∧
      (∀ id, recipe.buildId = .ok id ↔
        ∃ requirements numpy python number, recipe.dependencies .run = .ok requirements ∧
          Shows requirements "numpy" "np" numpy ∧ Shows requirements "python" "py" python ∧
            recipe.buildNumber = .ok number ∧
              id = ⟨String.ofList (front (numpy ++ python) ++ Nat.toDigits 10 number)⟩) ∧
      ∀ id, recipe.buildId = .ok id → ∃ number, recipe.buildNumber = .ok number ∧
        (Text.pieces (· == '_') id.text.toList).getLast? = some (Nat.toDigits 10 number)) ∧
    ∀ first second : Recipe, first.target = second.target →
      Manifest.AgreeExceptAt ["build/number"] first.manifest second.manifest →
        ∀ id other, first.buildId = .ok id → second.buildId = .ok other →
          ∃ runtimes number otherNumber, first.buildNumber = .ok number ∧
            second.buildNumber = .ok otherNumber ∧
            id.text.toList = front runtimes ++ Nat.toDigits 10 number ∧
            other.text.toList = front runtimes ++ Nat.toDigits 10 otherNumber ∧
            (id = other ↔ number = otherNumber) := by
  constructor
  · intro recipe
    refine ⟨exists_buildId_iff, fun error => buildId_eq_error_iff,
      fun id => buildId_eq_ok_iff, ?_⟩
    intro id equal
    rcases buildId_eq_ok_iff.mp equal with ⟨_, numpy, python, number, _, _, _, numberEqual, rfl⟩
    refine ⟨number, numberEqual, ?_⟩
    rw [String.toList_ofList, getLast?_pieces_front]
  · intro first second target agree id other firstId secondId
    rcases exists_front_of_agree target agree firstId secondId with
      ⟨runtimes, number, otherNumber, numberEqual, otherEqual, rfl, rfl⟩
    refine ⟨runtimes, number, otherNumber, numberEqual, otherEqual, String.toList_ofList,
      String.toList_ofList, ?_⟩
    constructor
    · intro same
      rw [BuildId.mk.injEq, String.ofList_inj, List.append_cancel_left_eq] at same
      exact toDigits_injective same
    · intro same
      rw [same]

/-- A version with low lines in the places that are shown. -/
def underscoredRecipe : Recipe :=
  ⟨"r", ⟨[(.string "requirements", .mapping [
    (.string "run", .sequence [.string "python", .string "numpy _1_2", .string "numpy"])])]⟩,
    ⟨"linux-64", 27, 19⟩⟩

def renumberedRecipe : Recipe :=
  { underscoredRecipe with
    manifest := underscoredRecipe.manifest.withValue "build" "number" (.number (.integer 7)) }

theorem buildId_encodes_underscored :
    underscoredRecipe.buildId = .ok ⟨"np__py27_0"⟩ ∧
      renumberedRecipe.buildId = .ok ⟨"np__py27_7"⟩ ∧
      (∃ number, renumberedRecipe.buildNumber = .ok number ∧
        (Text.pieces (· == '_') "np__py27_7".toList).getLast? = some (Nat.toDigits 10 number)) ∧
      ∃ runtimes number, "np__py27_0".toList = front runtimes ++ ['0'] ∧
        "np__py27_7".toList = front runtimes ++ Nat.toDigits 10 number ∧ 0 ≠ number := by
  have agree : Manifest.AgreeExceptAt ["build/number"] underscoredRecipe.manifest
      renumberedRecipe.manifest :=
    @Manifest.agreeExceptAt_withValue _ "build" "number" _
  have firstId : underscoredRecipe.buildId = .ok ⟨"np__py27_0"⟩ := rfl
  have resolved : renumberedRecipe.dependencies .run =
      .ok [⟨"python 2.7*", "python", 2⟩, ⟨"numpy _1_2", "numpy", 2⟩, ⟨"numpy 1.9*", "numpy", 2⟩] :=
    rfl
  have secondId : renumberedRecipe.buildId = .ok ⟨"np__py27_7"⟩ := by
    rw [buildId, resolved]
    rfl
  have firstNumber : underscoredRecipe.buildNumber = .ok 0 := rfl
  rcases buildId_encodes with ⟨each, pairs⟩
  rcases pairs underscoredRecipe renumberedRecipe rfl agree _ _ firstId secondId with
    ⟨runtimes, found, number, foundEqual, numberEqual, text, otherText, same⟩
  rw [firstNumber] at foundEqual
  cases foundEqual
  have different : (⟨"np__py27_0"⟩ : BuildId) ≠ ⟨"np__py27_7"⟩ := by decide
  exact ⟨firstId, secondId, (each renumberedRecipe).2.2.2 _ secondId, runtimes, number, text,
    otherText, fun equal => different (same.mpr equal)⟩

end Recipe

end PackageRecipe
