import PackageRecipe.Proofs.Manifest.Relevance
import PackageRecipe.Proofs.Recipe.Failures
import PackageRecipe.Proofs.Yaml.Equality

/-!
Versions of runtimes in build ids. A runtime that is required without a version gets the
target's, of which the build id shows the first two digits. So it tells versions of two
digits apart, and versions of more digits only if they differ in one of these.
-/

namespace PackageRecipe

/-! ## Runtimes -/

inductive Runtime where
  | python
  | numpy
  deriving DecidableEq, Repr

namespace Runtime

def name : Runtime → String
  | .python => "python"
  | .numpy => "numpy"

def tag : Runtime → String
  | .python => "py"
  | .numpy => "np"

theorem name_injective {runtime other : Runtime} (same : runtime.name = other.name) :
    runtime = other := by
  revert same
  cases runtime <;> cases other <;> decide

theorem isWord_name (runtime : Runtime) : Text.IsWord runtime.name.toList := by
  cases runtime <;> decide

end Runtime

namespace Target

def version (target : Target) : Runtime → UInt32
  | .python => target.python
  | .numpy => target.numpy

def withVersion (target : Target) (runtime : Runtime) (version : UInt32) : Target :=
  match runtime with
  | .python => { target with python := version }
  | .numpy => { target with numpy := version }

variable {target : Target} {runtime other : Runtime} {requirement : Requirement}

theorem version_withVersion (target : Target) (runtime : Runtime) (version : UInt32) :
    (target.withVersion runtime version).version runtime = version := by
  cases runtime <;> rfl

theorem version_withVersion_of_ne (target : Target) (version : UInt32)
    (different : other ≠ runtime) :
    (target.withVersion runtime version).version other = target.version other := by
  cases runtime with
  | python =>
      cases other with
      | python => exact absurd rfl different
      | numpy => rfl
  | numpy =>
      cases other with
      | python => rfl
      | numpy => exact absurd rfl different

/-- Whether a requirement is a runtime's name alone. -/
def IsBare (requirement : Requirement) : Prop :=
  requirement.strictness = 1 ∧ ∃ runtime : Runtime, requirement.name = runtime.name

theorem pin_of_name (single : requirement.strictness = 1)
    (name : requirement.name = runtime.name) :
    target.pin requirement = .pinned runtime.name (target.version runtime) := by
  rw [pin, if_pos single]
  cases runtime with
  | python => exact if_pos name
  | numpy =>
      have notPython : requirement.name ≠ "python" := by
        rw [name]
        decide
      rw [if_neg notPython]
      exact if_pos name

theorem pin_of_not_isBare (notBare : ¬IsBare requirement) :
    target.pin requirement = requirement := by
  rw [pin]
  by_cases single : requirement.strictness = 1
  · have notPython : requirement.name ≠ "python" := fun name => notBare ⟨single, .python, name⟩
    have notNumpy : requirement.name ≠ "numpy" := fun name => notBare ⟨single, .numpy, name⟩
    rw [if_pos single, if_neg notPython, if_neg notNumpy]
  · rw [if_neg single]

theorem name_pin (target : Target) (requirement : Requirement) :
    (target.pin requirement).name = requirement.name := by
  by_cases bare : IsBare requirement
  · rcases bare with ⟨single, runtime, name⟩
    rw [pin_of_name single name, name]
    rfl
  · rw [pin_of_not_isBare bare]

/-- The version of one runtime matters to no requirement of another name. -/
theorem pin_withVersion_of_ne (target : Target) (version : UInt32)
    (different : requirement.name ≠ runtime.name) :
    (target.withVersion runtime version).pin requirement = target.pin requirement := by
  by_cases bare : IsBare requirement
  · rcases bare with ⟨single, found, name⟩
    have apart : found ≠ runtime := fun same => different (same ▸ name)
    rw [pin_of_name single name, pin_of_name single name,
      version_withVersion_of_ne target version apart]
  · rw [pin_of_not_isBare bare, pin_of_not_isBare bare]

end Target

/-! ## Versions -/

namespace Requirement

/-- What a build id shows of the version of a requirement: its first and its third
character. -/
def shown? (requirement : Requirement) : Option (List Char) :=
  match (requirement.version?.getD "").toList with
  | first :: _ :: third :: _ => some [first, third]
  | _ => none

variable {requirements others : List Requirement} {requirement : Requirement}
  {runtime tag : String} {part : List Char}

theorem shown?_of_characters {version : String} {first second third : Char} {rest : List Char}
    (found : requirement.version? = some version)
    (characters : version.toList = first :: second :: third :: rest) :
    requirement.shown? = some [first, third] := by
  rw [shown?, found, Option.getD_some, characters]

theorem length_of_shown? {characters : List Char} (shown : requirement.shown? = some characters) :
    characters.length = 2 := by
  rw [shown?] at shown
  split at shown
  · cases shown
    rfl
  · cases shown

theorem IsFirst.mem (isFirst : IsFirst requirements runtime requirement) :
    requirement ∈ requirements := by
  rcases isFirst with ⟨before, after, rfl, _⟩
  exact List.mem_append_right before List.mem_cons_self

theorem IsFirst.name_eq (isFirst : IsFirst requirements runtime requirement) :
    requirement.name = runtime := by
  rcases isFirst with ⟨_, _, _, named, _⟩
  exact named

theorem IsFirst.mem_names (isFirst : IsFirst requirements runtime requirement) :
    runtime ∈ requirements.map name :=
  List.mem_map.mpr ⟨requirement, isFirst.mem, isFirst.name_eq⟩

theorem Shows.eq_nil_or (shows : Shows requirements runtime tag part) :
    (∀ requirement ∈ requirements, requirement.name ≠ runtime) ∧ part = [] ∨
      ∃ requirement characters, IsFirst requirements runtime requirement ∧
        requirement.shown? = some characters ∧ part = tag.toList ++ characters := by
  cases shows with
  | absent notNamed => exact .inl ⟨notNamed, rfl⟩
  | present isFirst found characters =>
      exact .inr ⟨_, _, isFirst, shown?_of_characters found characters, rfl⟩

/-- Requirements that both have a runtime, or both lack it, show as much of it, and the same
if the first of each do. -/
theorem Shows.eq_iff {other : List Char} (shows : Shows requirements runtime tag part)
    (otherShows : Shows others runtime tag other)
    (alike : runtime ∈ requirements.map name ↔ runtime ∈ others.map name) :
    part.length = other.length ∧
      (part = other ↔ ∀ requirement counterpart, IsFirst requirements runtime requirement →
        IsFirst others runtime counterpart → requirement.shown? = counterpart.shown?) := by
  rcases shows.eq_nil_or with ⟨notNamed, rfl⟩ | ⟨requirement, characters, isFirst, shown, rfl⟩
  · rcases otherShows.eq_nil_or with ⟨_, rfl⟩ | ⟨counterpart, _, otherFirst, _, _⟩
    · refine ⟨rfl, fun _ requirement _ isFirst _ => ?_, fun _ => rfl⟩
      exact absurd isFirst.name_eq (notNamed requirement isFirst.mem)
    · rcases List.mem_map.mp (alike.mpr otherFirst.mem_names) with ⟨requirement, member, named⟩
      exact absurd named (notNamed requirement member)
  · rcases otherShows.eq_nil_or with
      ⟨notNamed, _⟩ | ⟨counterpart, otherCharacters, otherFirst, otherShown, rfl⟩
    · rcases List.mem_map.mp (alike.mp isFirst.mem_names) with ⟨counterpart, member, named⟩
      exact absurd named (notNamed counterpart member)
    · constructor
      · rw [List.length_append, List.length_append, length_of_shown? shown,
          length_of_shown? otherShown]
      · rw [List.append_cancel_left_eq, ← Option.some.injEq, ← shown, ← otherShown]
        constructor
        · intro same found otherFound foundFirst otherFoundFirst
          rw [foundFirst.unique isFirst, otherFoundFirst.unique otherFirst, same]
        · intro same
          exact same requirement counterpart isFirst otherFirst

def shownDigits (version : UInt32) : List Char :=
  (Nat.toDigits 10 version.toNat).take 2

example : shownDigits 27 = ['2', '7'] ∧ shownDigits 110 = ['1', '1'] := by decide

/-- With two digits or more, the point and the star leave the first two in place. -/
theorem shown?_pinned (runtime : Runtime) (version : UInt32) :
    (pinned runtime.name version).shown? =
      if 10 ≤ version.toNat then some (shownDigits version) else none := by
  rw [shown?, version?_pinned runtime.isWord_name, Option.getD_some, String.toList_append,
    dotted, String.toList_ofList, shownDigits]
  have long : 10 ≤ version.toNat ↔ 2 ≤ (Nat.toDigits 10 version.toNat).length := by
    have short : (Nat.toDigits 10 version.toNat).length ≤ 1 ↔ version.toNat < 10 ^ 1 :=
      Nat.length_toDigits_le_iff (by omega) (by omega)
    omega
  simp only [long]
  rcases Nat.toDigits 10 version.toNat with _ | ⟨first, _ | ⟨second, _ | ⟨third, rest⟩⟩⟩ <;> simp

theorem eq_of_shownDigits {version other : UInt32} (bound : version.toNat < 100)
    (otherBound : other.toNat < 100) (same : shownDigits version = shownDigits other) :
    version = other := by
  have atMost : ∀ {number : Nat}, number < 100 → (Nat.toDigits 10 number).length ≤ 2 :=
    fun bound => (Nat.length_toDigits_le_iff (by omega) (by omega)).mpr bound
  rw [shownDigits, shownDigits, List.take_of_length_le (atMost bound),
    List.take_of_length_le (atMost otherBound)] at same
  exact UInt32.toNat_inj.mp (Recipe.toDigits_injective same)

end Requirement

/-! ## Requirements of a recipe -/

namespace Recipe

open Requirement (wordsOf ofWords IsFirst Shows shownDigits)

variable {recipe first second : Recipe} {runtime : Runtime}
  {requirements others : List Requirement}

theorem dependencies_eq_map {kind : DependencyKind}
    (resolved : recipe.dependencies kind = .ok requirements) :
    requirements = (recipe.manifest.texts kind.field).map fun text =>
      recipe.target.pin (ofWords (wordsOf text)) := by
  rw [dependencies_eq_ok_iff] at resolved
  have pinned := resolved.imp fun text requirement resolves =>
    (Target.resolves_iff.mp resolves).2.symm
  rwa [← List.forall₂_map_left_iff, List.forall₂_eq_eq_eq, eq_comm] at pinned

/-- The first requirement of a name is that of the first text with this name. -/
theorem find?_dependencies (resolved : recipe.dependencies .run = .ok requirements)
    (name : String) :
    requirements.find? (·.name == name) =
      ((recipe.manifest.texts DependencyKind.run.field).find? fun text =>
        (ofWords (wordsOf text)).name == name).map fun text =>
          recipe.target.pin (ofWords (wordsOf text)) := by
  rw [dependencies_eq_map resolved, List.find?_map]
  simp only [Function.comp_def, Target.name_pin]

theorem names_dependencies (resolved : recipe.dependencies .run = .ok requirements) :
    requirements.map Requirement.name =
      (recipe.manifest.texts DependencyKind.run.field).map fun text =>
        (ofWords (wordsOf text)).name := by
  rw [dependencies_eq_map resolved, List.map_map]
  simp only [Function.comp_def, Target.name_pin]

/-- A recipe requires a runtime at run time, but never more of it than its name. -/
def RequiresBare (recipe : Recipe) (runtime : Runtime) : Prop :=
  (∃ text ∈ recipe.manifest.texts "requirements/run", wordsOf text = [runtime.name]) ∧
    ∀ text ∈ recipe.manifest.texts "requirements/run",
      (wordsOf text).head? = some runtime.name → wordsOf text = [runtime.name]

theorem eq_pinned_of_requiresBare (bare : recipe.RequiresBare runtime)
    (resolved : recipe.dependencies .run = .ok requirements) {requirement : Requirement}
    (member : requirement ∈ requirements) (name : requirement.name = runtime.name) :
    requirement = .pinned runtime.name (recipe.target.version runtime) := by
  rw [dependencies_eq_map resolved] at member
  rcases List.mem_map.mp member with ⟨text, textMember, rfl⟩
  rw [Target.name_pin] at name
  have head : (wordsOf text).head? = some runtime.name := by
    change (wordsOf text).headD "" = runtime.name at name
    cases words : wordsOf text with
    | nil =>
        rw [words] at name
        cases runtime <;> exact absurd name (by decide)
    | cons first rest =>
        rw [words] at name
        exact congrArg some name
  have alone := bare.2 text textMember head
  rw [alone]
  exact Target.pin_of_name rfl rfl

theorem shown_of_requiresBare {tag : String} {part : List Char}
    (bare : recipe.RequiresBare runtime) (resolved : recipe.dependencies .run = .ok requirements)
    (shows : Shows requirements runtime.name tag part) :
    10 ≤ (recipe.target.version runtime).toNat ∧
      ∃ requirement, IsFirst requirements runtime.name requirement ∧
        requirement.shown? = some (shownDigits (recipe.target.version runtime)) := by
  rcases shows.eq_nil_or with ⟨notNamed, rfl⟩ | ⟨requirement, characters, isFirst, shown, rfl⟩
  · rcases bare.1 with ⟨text, member, alone⟩
    refine absurd ?_ (notNamed (recipe.target.pin (ofWords (wordsOf text))) ?_)
    · rw [Target.name_pin, alone]
      rfl
    · rw [dependencies_eq_map resolved]
      exact List.mem_map_of_mem member
  · have pinned := eq_pinned_of_requiresBare bare resolved isFirst.mem isFirst.name_eq
    have found := shown
    rw [pinned, Requirement.shown?_pinned] at found
    split_ifs at found with atLeast
    rw [← found] at shown
    exact ⟨atLeast, requirement, isFirst, shown⟩

theorem find?_eq_of_withVersion {target : Target} {version other : UInt32} {name : String}
    (manifest : first.manifest = second.manifest)
    (firstTarget : first.target = target.withVersion runtime version)
    (secondTarget : second.target = target.withVersion runtime other)
    (resolved : first.dependencies .run = .ok requirements)
    (otherResolved : second.dependencies .run = .ok others) (different : name ≠ runtime.name) :
    requirements.find? (·.name == name) = others.find? (·.name == name) := by
  rw [find?_dependencies resolved, find?_dependencies otherResolved, manifest]
  apply Option.map_congr
  intro text found
  have named : (ofWords (wordsOf text)).name ≠ runtime.name := by
    have same := List.find?_some found
    rw [beq_iff_eq] at same
    rwa [same]
  rw [firstTarget, secondTarget, Target.pin_withVersion_of_ne target version named,
    Target.pin_withVersion_of_ne target other named]

/-! ## Build ids -/

theorem front_injective {runtimes others : List Char} (same : front runtimes = front others) :
    runtimes = others := by
  rw [front, front] at same
  split_ifs at same with none noOthers noOthers
  · rw [none, noOthers]
  · simp at same
  · simp at same
  · exact List.append_cancel_right same

theorem exists_parts_of_buildId {id : BuildId}
    (resolved : recipe.dependencies .run = .ok requirements) (equal : recipe.buildId = .ok id) :
    ∃ (part : Runtime → List Char) (number : Nat),
      (∀ runtime : Runtime, Shows requirements runtime.name runtime.tag (part runtime)) ∧
        recipe.buildNumber = .ok number ∧
          id = ⟨String.ofList (front (part .numpy ++ part .python) ++
            Nat.toDigits 10 number)⟩ := by
  rcases buildId_eq_ok_iff.mp equal with
    ⟨_, numpy, python, number, again, numpyShows, pythonShows, numberEqual, rfl⟩
  rw [resolved] at again
  cases again
  refine ⟨fun
    | .numpy => numpy
    | .python => python, number, ?_, numberEqual, rfl⟩
  intro runtime
  cases runtime
  · exact pythonShows
  · exact numpyShows

/-- Build ids of one number are equal exactly if they show the same of each runtime, as far
as each shows a runtime in as many characters as the other. -/
theorem id_eq_iff {part other : Runtime → List Char} {number : Nat}
    (lengths : ∀ runtime, (part runtime).length = (other runtime).length) :
    (⟨String.ofList (front (part .numpy ++ part .python) ++ Nat.toDigits 10 number)⟩ :
        BuildId) =
      ⟨String.ofList (front (other .numpy ++ other .python) ++ Nat.toDigits 10 number)⟩ ↔
      ∀ runtime, part runtime = other runtime := by
  rw [BuildId.mk.injEq, String.ofList_inj, List.append_cancel_right_eq]
  constructor
  · intro same
    have parts := List.append_inj (front_injective same) (lengths .numpy)
    intro runtime
    cases runtime
    · exact parts.2
    · exact parts.1
  · intro same
    rw [same, same]

/-- A number is read off the manifest alone, only the error about one names the path. -/
theorem buildNumber_of_get? {number : Nat}
    (same : second.manifest.get? "build/number" = first.manifest.get? "build/number")
    (equal : first.buildNumber = .ok number) : second.buildNumber = .ok number := by
  rw [buildNumber] at equal
  rw [buildNumber, same]
  split at equal
  · exact equal
  · exact equal
  · split at equal
    · exact equal
    · cases equal

/-- Recipes that require the same runtimes and have the same number have the same build id
exactly if the first requirement of each runtime shows the same of its version. -/
theorem buildId_eq_iff {id other : BuildId} (resolved : first.dependencies .run = .ok requirements)
    (otherResolved : second.dependencies .run = .ok others)
    (alike : ∀ runtime : Runtime, runtime.name ∈ requirements.map Requirement.name ↔
      runtime.name ∈ others.map Requirement.name)
    (number : second.manifest.get? "build/number" = first.manifest.get? "build/number")
    (equal : first.buildId = .ok id) (otherEqual : second.buildId = .ok other) :
    id = other ↔ ∀ (runtime : Runtime) (requirement counterpart : Requirement),
      IsFirst requirements runtime.name requirement →
        IsFirst others runtime.name counterpart →
          requirement.shown? = counterpart.shown? := by
  rcases exists_parts_of_buildId resolved equal with ⟨part, count, shows, countEqual, rfl⟩
  rcases exists_parts_of_buildId otherResolved otherEqual with
    ⟨otherPart, otherCount, otherShows, otherCountEqual, rfl⟩
  have sameCount := buildNumber_of_get? number countEqual
  rw [otherCountEqual] at sameCount
  cases sameCount
  have parts := fun runtime => (shows runtime).eq_iff (otherShows runtime) (alike runtime)
  rw [id_eq_iff fun runtime => (parts runtime).1]
  exact forall_congr' fun runtime => (parts runtime).2

theorem ofText_of_plain {path text : String} {target : Target}
    (plain : ∀ row ∈ Text.lines text.toList, Selector.split? (Text.trimEnd row) = none)
    (loaded : ofText path target text = .ok recipe) (other : Target) :
    ofText path other text = .ok { recipe with target := other } := by
  rcases ofText_eq_ok_iff.mp loaded with ⟨read, located, rfl, name, named⟩
  have agree : Facts.AgreeOn (Selector.names text) other.facts recipe.target.facts := by
    rw [Selector.names_eq_nil plain]
    exact List.forall_mem_nil _
  rw [← Manifest.read_congr (Selector.select_congr agree)] at read
  exact ofText_eq_ok_iff.mpr ⟨read, located, rfl, name, named⟩

/-- Build ids for two versions of a runtime that is required by its name alone. -/
theorem buildId_eq_iff_shownDigits {target : Target} {version other : UInt32} {id otherId : BuildId}
    (manifest : first.manifest = second.manifest)
    (firstTarget : first.target = target.withVersion runtime version)
    (secondTarget : second.target = target.withVersion runtime other)
    (bare : first.RequiresBare runtime) (equal : first.buildId = .ok id)
    (otherEqual : second.buildId = .ok otherId) :
    10 ≤ version.toNat ∧ 10 ≤ other.toNat ∧
      (id = otherId ↔ shownDigits version = shownDigits other) := by
  have otherBare : second.RequiresBare runtime := by
    rwa [RequiresBare, ← manifest]
  rcases (parts_of_buildId equal).1 with ⟨requirements, resolved⟩
  rcases (parts_of_buildId otherEqual).1 with ⟨others, otherResolved⟩
  rcases exists_parts_of_buildId resolved equal with ⟨_, _, shows, _⟩
  rcases exists_parts_of_buildId otherResolved otherEqual with ⟨_, _, otherShows, _⟩
  rcases shown_of_requiresBare bare resolved (shows runtime) with
    ⟨atLeast, requirement, isFirst, shown⟩
  rcases shown_of_requiresBare otherBare otherResolved (otherShows runtime) with
    ⟨otherAtLeast, counterpart, otherFirst, otherShown⟩
  rw [firstTarget, Target.version_withVersion] at atLeast shown
  rw [secondTarget, Target.version_withVersion] at otherAtLeast otherShown
  have names : requirements.map Requirement.name = others.map Requirement.name := by
    rw [names_dependencies resolved, names_dependencies otherResolved, manifest]
  refine ⟨atLeast, otherAtLeast, ?_⟩
  rw [buildId_eq_iff resolved otherResolved (fun _ => by rw [names]) (by rw [manifest]) equal
    otherEqual]
  constructor
  · intro same
    have digits := same runtime requirement counterpart isFirst otherFirst
    rwa [shown, otherShown, Option.some.injEq] at digits
  · intro same found foundRequirement foundCounterpart foundFirst otherFoundFirst
    by_cases atRuntime : found = runtime
    · subst atRuntime
      rw [foundFirst.unique isFirst, otherFoundFirst.unique otherFirst, shown, otherShown, same]
    -- The other runtime is required alike, so its first requirement is the same one.
    · have elsewhere := find?_eq_of_withVersion manifest firstTarget secondTarget resolved
        otherResolved fun named => atRuntime (Runtime.name_injective named)
      rw [Requirement.find?_eq_some_iff.mpr foundFirst,
        Requirement.find?_eq_some_iff.mpr otherFoundFirst, Option.some.injEq] at elsewhere
      rw [elsewhere]

/-- A runtime that is required by its name alone is shown in the target's version. The build
ids for two versions differ exactly if the first two digits of the versions do, which always
is so for different versions of two digits. -/
theorem buildId_shows_versions {path text : String} {target : Target} {version other : UInt32}
    {id otherId : BuildId}
    (plain : ∀ row ∈ Text.lines text.toList, Selector.split? (Text.trimEnd row) = none)
    (loaded : ofText path (target.withVersion runtime version) text = .ok first)
    (otherLoaded : ofText path (target.withVersion runtime other) text = .ok second)
    (bare : first.RequiresBare runtime) (equal : first.buildId = .ok id)
    (otherEqual : second.buildId = .ok otherId) :
    10 ≤ version.toNat ∧ 10 ≤ other.toNat ∧
      (id ≠ otherId ↔ shownDigits version ≠ shownDigits other) ∧
      (version ≠ other → version.toNat < 100 → other.toNat < 100 → id ≠ otherId) := by
  have again := ofText_of_plain plain loaded (target.withVersion runtime other)
  rw [otherLoaded] at again
  have manifest : first.manifest = second.manifest := by rw [Except.ok.inj again]
  have firstTarget := (ofText_eq_ok_iff.mp loaded).2.2.1
  have secondTarget := (ofText_eq_ok_iff.mp otherLoaded).2.2.1
  rcases buildId_eq_iff_shownDigits manifest firstTarget secondTarget bare equal otherEqual with
    ⟨atLeast, otherAtLeast, same⟩
  refine ⟨atLeast, otherAtLeast, not_congr same, ?_⟩
  intro different bound otherBound equalIds
  exact different (Requirement.eq_of_shownDigits bound otherBound (same.mp equalIds))

def runText (run : List String) : String :=
  "package:\n  name: a\n  version: 1\nrequirements:\n  run:\n" ++
    String.join (run.map fun text => "    - " ++ text ++ "\n")

def runRecipe (target : Target) (run : List String) : Recipe :=
  ⟨"r", ⟨[(.string "package", .mapping [(.string "name", .string "a"),
      (.string "version", .string "1")]),
    (.string "requirements", .mapping [(.string "run", .sequence (run.map .string)),
      (.string "build", .sequence []), (.string "conflicts", .sequence [])]),
    (.string "source", .mapping [(.string "patches", .sequence []),
      (.string "git_tag", .string ""), (.string "git_branch", .string ""),
      (.string "md5", .string "")]),
    (.string "build", .mapping [(.string "entry_points", .sequence []),
      (.string "features", .sequence []), (.string "track_features", .sequence [])]),
    (.string "test", .mapping [(.string "requires", .sequence []), (.string "files", .sequence []),
      (.string "commands", .sequence []), (.string "imports", .sequence [])])]⟩, target⟩

/-- Python alone is as the target has it, numpy is not. -/
theorem buildId_shows_versions_mixed :
    ∃ first second,
      ofText "r" ⟨"linux-64", 27, 110⟩ (runText ["python", "numpy 1.9*"]) = .ok first ∧
        ofText "r" ⟨"linux-64", 34, 110⟩ (runText ["python", "numpy 1.9*"]) = .ok second ∧
        first.RequiresBare .python ∧ first.buildId = .ok ⟨"np19py27_0"⟩ ∧
        second.buildId = .ok ⟨"np19py34_0"⟩ ∧
        (⟨"np19py27_0"⟩ : BuildId) ≠ ⟨"np19py34_0"⟩ := by
  have plain : ∀ row ∈ Text.lines (runText ["python", "numpy 1.9*"]).toList,
      Selector.split? (Text.trimEnd row) = none := by decide +kernel
  have loaded : ofText "r" (Target.withVersion ⟨"linux-64", 27, 110⟩ .python 27)
      (runText ["python", "numpy 1.9*"]) =
        .ok (runRecipe ⟨"linux-64", 27, 110⟩ ["python", "numpy 1.9*"]) := by decide +kernel
  have otherLoaded := ofText_of_plain plain loaded
    (Target.withVersion ⟨"linux-64", 27, 110⟩ .python 34)
  have bare : (runRecipe ⟨"linux-64", 27, 110⟩ ["python", "numpy 1.9*"]).RequiresBare
      .python := by
    rw [RequiresBare]
    decide +kernel
  have shown := buildId_shows_versions plain loaded otherLoaded bare rfl rfl
  exact ⟨_, _, loaded, otherLoaded, bare, rfl, rfl,
    shown.2.2.2 (by decide) (by decide) (by decide)⟩

/-- Of a version with three digits the last one is not shown. -/
theorem buildId_hides_third_digit :
    ((∀ row ∈ Text.lines (runText ["numpy"]).toList,
        Selector.split? (Text.trimEnd row) = none) ∧
      ∃ first second, ofText "r" ⟨"linux-64", 27, 110⟩ (runText ["numpy"]) = .ok first ∧
        ofText "r" ⟨"linux-64", 27, 111⟩ (runText ["numpy"]) = .ok second ∧
        first.RequiresBare .numpy ∧ first.buildId = .ok ⟨"np11_0"⟩ ∧
        second.buildId = .ok ⟨"np11_0"⟩) ∧
    (∀ row ∈ Text.lines (runText ["python"]).toList,
        Selector.split? (Text.trimEnd row) = none) ∧
      ∃ first second, ofText "r" ⟨"linux-64", 310, 19⟩ (runText ["python"]) = .ok first ∧
        ofText "r" ⟨"linux-64", 311, 19⟩ (runText ["python"]) = .ok second ∧
        first.RequiresBare .python ∧ first.buildId = .ok ⟨"py31_0"⟩ ∧
        second.buildId = .ok ⟨"py31_0"⟩ := by
  have numpyPlain : ∀ row ∈ Text.lines (runText ["numpy"]).toList,
      Selector.split? (Text.trimEnd row) = none := by decide +kernel
  have pythonPlain : ∀ row ∈ Text.lines (runText ["python"]).toList,
      Selector.split? (Text.trimEnd row) = none := by decide +kernel
  have numpy : ofText "r" ⟨"linux-64", 27, 110⟩ (runText ["numpy"]) =
      .ok (runRecipe ⟨"linux-64", 27, 110⟩ ["numpy"]) := by decide +kernel
  have python : ofText "r" ⟨"linux-64", 310, 19⟩ (runText ["python"]) =
      .ok (runRecipe ⟨"linux-64", 310, 19⟩ ["python"]) := by decide +kernel
  refine ⟨⟨numpyPlain, _, _, numpy, ofText_of_plain numpyPlain numpy _, ?_, rfl, rfl⟩,
    pythonPlain, _, _, python, ofText_of_plain pythonPlain python _, ?_, rfl, rfl⟩
  · rw [RequiresBare]
    decide +kernel
  · rw [RequiresBare]
    decide +kernel

end Recipe

end PackageRecipe
