import PackageRecipe.Proofs.Recipe.Summary

/-!
What can fail. A text is a recipe if a manifest can be read from it that names its package
in lower case. What is asked of such a recipe later fails only where the answer is derived
from a field that is at fault, and never again over the manifest or the name.
-/

namespace PackageRecipe

/-! ## Names -/

theorem Binary64.finiteText_ne_empty (plus : String) (negative : Bool) (significand : Nat)
    (exponent : Int) : finiteText plus negative significand exponent ≠ "" := by
  have positional_ne_nil (digits : List Char) (whole : Int) : positional digits whole ≠ [] := by
    rw [positional]
    split_ifs <;> simp
  have scientific_ne_nil (digits : List Char) (power : Int) :
      scientific plus.toList digits power ≠ [] := by
    simp [scientific]
  intro empty
  have characters := congrArg String.toList empty
  rw [finiteText, String.toList_ofList] at characters
  split_ifs at characters <;> simp_all

theorem Yaml.Number.text_ne_empty (number : Number) : number.text ≠ "" := by
  cases number with
  | integer value =>
      intro empty
      have characters := congrArg String.toList empty
      cases value <;> simp [Number.text, toString, Int.repr] at characters
  | float value =>
      cases value with
      | nan => simp [Number.text]
      | infinity negative => cases negative <;> simp [Number.text]
      | finite negative significand exponent => exact Binary64.finiteText_ne_empty _ _ _ _

/-- The text of a scalar that counts as given is not empty. -/
theorem Yaml.Value.scalarText?_ne_empty {value : Value} {text : String}
    (given : value.untagged.isGiven) (rendered : value.untagged.scalarText? = some text) :
    text ≠ "" := by
  have plain := value.isTagged_untagged
  cases found : value.untagged with
  | null => simp [found, isGiven] at given
  | boolean flag =>
      rw [found] at rendered
      cases rendered
      cases flag <;> decide
  | number number =>
      rw [found] at rendered
      cases rendered
      exact number.text_ne_empty
  | string name =>
      rw [found] at given rendered
      cases rendered
      simpa [isGiven] using given
  | sequence items => simp [found, scalarText?, untagged] at rendered
  | mapping entries => simp [found, scalarText?, untagged] at rendered
  | tagged tag value => simp [found, isTagged] at plain

namespace Recipe

variable {recipe : Recipe} {digest : String → Except String String} {error : Error}

/-- The name that a manifest gives to its package, in whatever case. -/
def nameText? (recipe : Recipe) : Option String :=
  (((recipe.manifest.get? "package/name").map Yaml.Value.untagged).filter
    Yaml.Value.isGiven).bind Yaml.Value.scalarText?

theorem nameText?_ne_empty {name : String} (found : recipe.nameText? = some name) :
    name ≠ "" := by
  rcases Option.bind_eq_some_iff.mp found with ⟨value, valueFound, rendered⟩
  rcases Option.filter_eq_some_iff.mp valueFound with ⟨untaggedFound, given⟩
  rcases Option.map_eq_some_iff.mp untaggedFound with ⟨tagged, _, rfl⟩
  exact Yaml.Value.scalarText?_ne_empty given rendered

theorem name_eq (recipe : Recipe) :
    recipe.name =
      match recipe.nameText? with
      | none => .error (.missingName recipe.manifestPath)
      | some name =>
          if Text.lowercase name.toList = name.toList then .ok name
          else .error (.nameNotLowercase name recipe.manifestPath) := rfl

theorem name_eq_ok_iff {name : String} :
    recipe.name = .ok name ↔
      recipe.nameText? = some name ∧ Text.lowercase name.toList = name.toList := by
  rw [name_eq]
  cases recipe.nameText? with
  | none => simp
  | some found =>
      by_cases lower : Text.lowercase found.toList = found.toList
      · simp only [if_pos lower, Except.ok.injEq, Option.some.injEq]
        constructor
        · rintro rfl
          exact ⟨rfl, lower⟩
        · exact fun same => same.1
      · simp only [if_neg lower, reduceCtorEq, Option.some.injEq, false_iff, not_and]
        rintro rfl
        exact lower

theorem name_eq_error_iff :
    recipe.name = .error error ↔
      recipe.nameText? = none ∧ error = .missingName recipe.manifestPath ∨
        ∃ name, recipe.nameText? = some name ∧ Text.lowercase name.toList ≠ name.toList ∧
          error = .nameNotLowercase name recipe.manifestPath := by
  rw [name_eq]
  cases recipe.nameText? with
  | none => simp [eq_comm]
  | some found =>
      by_cases lower : Text.lowercase found.toList = found.toList
      · simp [lower]
      · simp only [if_neg lower, Except.error.injEq, reduceCtorEq, false_and, false_or,
          Option.some.injEq]
        constructor
        · rintro rfl
          exact ⟨found, rfl, lower, rfl⟩
        · rintro ⟨name, rfl, _, rfl⟩
          rfl

/-! ## Loading -/

theorem ofText_eq_ok_iff {path text : String} {target : Target} :
    ofText path target text = .ok recipe ↔
      Manifest.read target.facts text = .ok recipe.manifest ∧ recipe.path = path ∧
        recipe.target = target ∧ ∃ name, recipe.name = .ok name := by
  constructor
  · intro loaded
    rcases exists_of_bind_eq_ok loaded with ⟨manifest, read, loaded⟩
    rcases exists_of_bind_eq_ok loaded with ⟨name, named, loaded⟩
    cases loaded
    exact ⟨mapError_eq_ok_iff.mp read, rfl, rfl, name, named⟩
  · intro parts
    rcases parts with ⟨read, rfl, rfl, name, named⟩
    rw [ofText, mapError_eq_ok_iff.mpr read, ok_bind]
    change recipe.name >>= (fun _ => .ok recipe) = .ok recipe
    rw [named, ok_bind]

theorem ofText_eq_error_iff {path text : String} {target : Target} :
    ofText path target text = .error error ↔
      (∃ cause, Manifest.read target.facts text = .error cause ∧
        error = .manifest (Path.join path manifestFile) cause) ∨
      ∃ manifest, Manifest.read target.facts text = .ok manifest ∧
        Recipe.name ⟨path, manifest, target⟩ = .error error := by
  constructor
  · intro fails
    rcases eq_error_or_of_bind_eq_error fails with unread | ⟨manifest, read, fails⟩
    · exact .inl (mapError_eq_error_iff.mp unread)
    · have unnamed := eq_error_of_bind_eq_error (fun _ => ⟨_, rfl⟩) fails
      exact .inr ⟨manifest, mapError_eq_ok_iff.mp read, unnamed⟩
  · intro fault
    rcases fault with unread | ⟨manifest, read, unnamed⟩
    · rw [ofText, mapError_eq_error_iff.mpr unread, error_bind]
    · rw [ofText, mapError_eq_ok_iff.mpr read, ok_bind]
      change Recipe.name ⟨path, manifest, target⟩ >>= _ = _
      rw [unnamed, error_bind]

theorem exists_ofText_of_load {files : Files} {path : String} {target : Target}
    (loaded : load files path target = .ok recipe) :
    ∃ text, ofText path target text = .ok recipe := by
  rw [load] at loaded
  split_ifs at loaded
  cases found : files.text (Path.join path manifestFile) with
  | error reason =>
      rw [found] at loaded
      cases loaded
  | ok text =>
      rw [found] at loaded
      exact ⟨text, loaded⟩

/-! ## What is asked of a recipe -/

/-- What is asked of a recipe and may be answered by an error. Files are read by their
digests alone. -/
inductive Query where
  | name
  | buildNumber
  | dependencies (kind : DependencyKind)
  | buildId
  | distributionName
  | application (digest : String → Except String String)
  | summary (digest : String → Except String String)

/-- The answer to a query is an error. -/
def Fails (recipe : Recipe) (error : Error) : Query → Prop
  | .name => recipe.name = .error error
  | .buildNumber => recipe.buildNumber = .error error
  | .dependencies kind => recipe.dependencies kind = .error error
  | .buildId => recipe.buildId = .error error
  | .distributionName => recipe.distributionName = .error error
  | .application digest => recipe.application digest = .error error
  | .summary digest => recipe.summary digest = .error error

/-- The errors that queries to a loaded recipe admit. There is none for its name. -/
inductive Admits (recipe : Recipe) : Query → Error → Prop
  | number (found : String) :
      Admits recipe .buildNumber (.invalidNumber recipe.manifestPath found)
  | requirement (kind : DependencyKind) (cause : Requirement.Error) :
      Admits recipe (.dependencies kind) (.requirement recipe.manifestPath cause)
  | runRequirement {error : Error} (dependencies : Admits recipe (.dependencies .run) error) :
      Admits recipe .buildId error
  | shortPin (pinned : String) : Admits recipe .buildId (.shortPin recipe.manifestPath pinned)
  | buildNumber {error : Error} (number : Admits recipe .buildNumber error) :
      Admits recipe .buildId error
  | missingVersion (empty : recipe.version = "") :
      Admits recipe .distributionName (.missingVersion recipe.manifestPath)
  | buildId {error : Error} (build : Admits recipe .buildId error) :
      Admits recipe .distributionName error
  | invalidIcon (digest : String → Except String String) :
      Admits recipe (.application digest) (.invalidIcon recipe.manifestPath)
  | unreadableIcon {digest : String → Except String String} {path reason : String}
      (unread : digest path = .error reason) :
      Admits recipe (.application digest) (.unreadableIcon path reason)
  | distributionName {error : Error} (digest : String → Except String String)
      (shared : Admits recipe .distributionName error) : Admits recipe (.summary digest) error
  | application {digest : String → Except String String} {error : Error}
      (isApplication : recipe.isApplication)
      (described : Admits recipe (.application digest) error) :
      Admits recipe (.summary digest) error

/-- Whether an error is about a configuration, or about loading a recipe. -/
def Error.isOfLoading : Error → Bool
  | .configuration _ | .noDirectory _ | .manifest _ _ | .missingName _
  | .nameNotLowercase _ _ => true
  | .missingVersion _ | .invalidNumber _ _ | .invalidIcon _ | .requirement _ _ | .shortPin _ _
  | .unreadableIcon _ _ => false

theorem Admits.isOfLoading_eq_false {query : Query} (admitted : Admits recipe query error) :
    error.isOfLoading = false := by
  induction admitted with
  | number | requirement | shortPin | missingVersion | invalidIcon | unreadableIcon => rfl
  | runRequirement _ induction | buildNumber _ induction | buildId _ induction
  | distributionName _ _ induction | application _ _ induction => exact induction

theorem admits_of_buildNumber (fails : recipe.buildNumber = .error error) :
    Admits recipe .buildNumber error := by
  rw [buildNumber] at fails
  split at fails
  · cases fails
  · cases fails
  · split at fails
    · cases fails
    · cases fails
      exact .number _

theorem admits_of_dependencies {kind : DependencyKind}
    (fails : recipe.dependencies kind = .error error) :
    Admits recipe (.dependencies kind) error := by
  rcases dependencies_eq_error_iff.mp fails with ⟨_, _, _, _, _, cause, _, rfl⟩
  exact .requirement kind cause

theorem admits_of_buildId (fails : recipe.buildId = .error error) :
    Admits recipe .buildId error := by
  cases buildId_eq_error_iff.mp fails with
  | requirement => exact .runRequirement (.requirement .run _)
  | numpy => exact .shortPin _
  | python => exact .shortPin _
  | number _ _ _ fails => exact .buildNumber (admits_of_buildNumber fails)

theorem distributionName_eq_error_iff {name : String} (named : recipe.name = .ok name) :
    recipe.distributionName = .error error ↔
      recipe.version = "" ∧ error = .missingVersion recipe.manifestPath ∨
        recipe.version ≠ "" ∧ recipe.buildId = .error error := by
  rw [distributionName, named, ok_bind, requiredVersion]
  by_cases empty : recipe.version = ""
  · simp [empty, eq_comm]
  · rw [if_neg empty, ok_bind]
    cases recipe.buildId <;> simp [empty]

theorem admits_of_distributionName {name : String} (named : recipe.name = .ok name)
    (fails : recipe.distributionName = .error error) :
    Admits recipe .distributionName error := by
  rcases (distributionName_eq_error_iff named).mp fails with ⟨empty, rfl⟩ | ⟨_, fails⟩
  · exact .missingVersion empty
  · exact .buildId (admits_of_buildId fails)

theorem admits_of_application (fails : recipe.application digest = .error error) :
    Admits recipe (.application digest) error := by
  have unnamed := eq_error_of_bind_eq_error (fun _ => ⟨_, rfl⟩) fails
  rcases eq_error_or_of_bind_eq_error unnamed with noPath | ⟨path, pathEqual, unread⟩
  · rw [iconPath?] at noPath
    split at noPath
    · cases noPath
    · split at noPath
      · cases noPath
      · cases noPath
        exact .invalidIcon digest
  · cases path with
    | none => cases unread
    | some path =>
        have fails := eq_error_of_bind_eq_error (fun _ => ⟨_, rfl⟩) unread
        rcases mapError_eq_error_iff.mp fails with ⟨reason, noDigest, rfl⟩
        exact .unreadableIcon noDigest

theorem admits_of_application? {cause : Error}
    (fails : recipe.application? digest = .error cause) :
    Admits recipe (.summary digest) cause := by
  rw [application?] at fails
  split_ifs at fails with isApplication
  cases described : recipe.application digest with
  | ok application =>
      rw [described] at fails
      cases fails
  | error cause =>
      rw [described] at fails
      cases fails
      exact .application isApplication (admits_of_application described)

theorem admits_of_summary {name : String} (named : recipe.name = .ok name)
    (fails : recipe.summary digest = .error error) : Admits recipe (.summary digest) error := by
  have shared : ∀ {error : Error}, recipe.distributionName = .error error →
      Admits recipe (.summary digest) error :=
    fun fails => .distributionName digest (admits_of_distributionName named fails)
  rcases eq_error_or_of_bind_eq_error fails with unsorted | ⟨depends, _, fails⟩
  · have unresolved := eq_error_of_bind_eq_error (fun _ => ⟨_, rfl⟩) unsorted
    exact .distributionName digest
      (.buildId (.runRequirement (admits_of_dependencies unresolved)))
  rcases eq_error_or_of_bind_eq_error fails with undescribed | ⟨application, _, fails⟩
  · exact admits_of_application? undescribed
  rcases eq_error_or_of_bind_eq_error fails with unnamed | ⟨_, _, fails⟩
  · rw [named] at unnamed
    cases unnamed
  rcases eq_error_or_of_bind_eq_error fails with unversioned | ⟨version, versionEqual, fails⟩
  · apply shared
    rw [distributionName, named, ok_bind, unversioned, error_bind]
  rcases eq_error_or_of_bind_eq_error fails with unbuilt | ⟨build, built, fails⟩
  · apply shared
    rw [distributionName, named, ok_bind, versionEqual, ok_bind, unbuilt, error_bind]
  -- The number is part of the build id, so it is there.
  rcases parts_of_buildId built with ⟨_, number, numberEqual, _⟩
  rw [numberEqual] at fails
  cases fails

/-- A query to a recipe with a name fails only with an error that the query admits. -/
theorem admits_of_fails {name : String} (named : recipe.name = .ok name) {query : Query}
    (fails : recipe.Fails error query) : Admits recipe query error := by
  cases query with
  | name =>
      rw [Fails, named] at fails
      cases fails
  | buildNumber => exact admits_of_buildNumber fails
  | dependencies kind => exact admits_of_dependencies fails
  | buildId => exact admits_of_buildId fails
  | distributionName => exact admits_of_distributionName named fails
  | application digest => exact admits_of_application fails
  | summary digest => exact admits_of_summary named fails

/-- A text is refused because no manifest can be read from it, or because its package has no
name or one that is not in lower case. Else it is a recipe with a name in lower case for
good, and what is asked of it fails only with the errors that each query admits: never with
one about loading. -/
theorem ofText_settles_name :
    (∀ (path : String) (target : Target) (text : String),
      (∀ error, ofText path target text = .error error →
        (∃ cause, error = .manifest (Path.join path manifestFile) cause) ∨
          error = .missingName (Path.join path manifestFile) ∨
          ∃ name, error = .nameNotLowercase name (Path.join path manifestFile)) ∧
      (∀ cause, ofText path target text = .error (.manifest (Path.join path manifestFile) cause) ↔
        Manifest.read target.facts text = .error cause) ∧
      ∀ recipe, ofText path target text = .ok recipe →
        (∃ name, recipe.name = .ok name ∧ name ≠ "" ∧
          Text.lowercase name.toList = name.toList) ∧
        (∀ query error, recipe.Fails error query →
          Admits recipe query error ∧ error.isOfLoading = false) ∧
        ((∃ shared, recipe.distributionName = .ok shared) ↔
          recipe.version ≠ "" ∧ ∃ id, recipe.buildId = .ok id) ∧
        ∀ error, recipe.distributionName = .error error ↔
          recipe.version = "" ∧ error = .missingVersion recipe.manifestPath ∨
            recipe.version ≠ "" ∧ recipe.buildId = .error error) ∧
    ∀ files path target recipe, load files path target = .ok recipe →
      ∃ text, ofText path target text = .ok recipe := by
  refine ⟨?_, fun _ _ _ _ loaded => exists_ofText_of_load loaded⟩
  intro path target text
  refine ⟨?refused, ?unread, ?loaded⟩
  case refused =>
    intro error fails
    rcases ofText_eq_error_iff.mp fails with ⟨cause, _, rfl⟩ | ⟨manifest, _, unnamed⟩
    · exact .inl ⟨cause, rfl⟩
    · rcases name_eq_error_iff.mp unnamed with ⟨_, rfl⟩ | ⟨name, _, _, rfl⟩
      · exact .inr (.inl rfl)
      · exact .inr (.inr ⟨name, rfl⟩)
  case unread =>
    intro cause
    rw [ofText_eq_error_iff]
    constructor
    · intro fault
      rcases fault with ⟨_, unread, same⟩ | ⟨manifest, _, unnamed⟩
      · cases same
        exact unread
      · rcases name_eq_error_iff.mp unnamed with ⟨_, impossible⟩ | ⟨_, _, _, impossible⟩
        · cases impossible
        · cases impossible
    · intro unread
      exact .inl ⟨cause, unread, rfl⟩
  case loaded =>
    intro recipe loaded
    rcases ofText_eq_ok_iff.mp loaded with ⟨_, _, _, name, named⟩
    rcases name_eq_ok_iff.mp named with ⟨found, lower⟩
    refine ⟨⟨name, named, nameText?_ne_empty found, lower⟩, ?_, ?_,
      fun error => distributionName_eq_error_iff named⟩
    · intro query error fails
      have admitted := admits_of_fails named fails
      exact ⟨admitted, admitted.isOfLoading_eq_false⟩
    · simp only [distributionName_eq_ok_iff, named]
      constructor
      · rintro ⟨_, _, id, _, given, idEqual, _⟩
        exact ⟨given, id, idEqual⟩
      · rintro ⟨given, id, idEqual⟩
        exact ⟨_, name, id, rfl, given, idEqual, rfl⟩

/-- An application with an icon that is not there. -/
def iconFiles : Files :=
  (FileTree.empty.add "r/meta.yaml" (some
    "package: {name: a, version: 1}\napp: {entry: b, icon: x.png}".toUTF8.data.toList)).files

theorem ofText_settles_name_missing_icon :
    (∃ error, ofText "r" ⟨"linux-64", 27, 19⟩ "package: {name: A}" = .error error ∧
      ((∃ cause, error = .manifest "r/meta.yaml" cause) ∨ error = .missingName "r/meta.yaml" ∨
        ∃ name, error = .nameNotLowercase name "r/meta.yaml")) ∧
    ∃ recipe, load iconFiles "r" ⟨"linux-64", 27, 19⟩ = .ok recipe ∧
      (∃ name, recipe.name = .ok name ∧ name ≠ "") ∧
      (∃ shared, recipe.distributionName = .ok shared) ∧
      recipe.Fails (.unreadableIcon "r/x.png" "No such file or directory")
        (.summary iconFiles.digest) ∧
      Admits recipe (.summary iconFiles.digest)
        (.unreadableIcon "r/x.png" "No such file or directory") := by
  rcases ofText_settles_name with ⟨texts, directories⟩
  constructor
  · have capital : ((ofText "r" ⟨"linux-64", 27, 19⟩ "package: {name: A}").map fun _ => ()) =
        .error (.nameNotLowercase "A" "r/meta.yaml") := by decide +kernel
    cases refused : ofText "r" ⟨"linux-64", 27, 19⟩ "package: {name: A}" with
    | ok recipe =>
        rw [refused] at capital
        cases capital
    | error error =>
        have path : Path.join "r" manifestFile = "r/meta.yaml" := by decide +kernel
        have settled := (texts "r" ⟨"linux-64", 27, 19⟩ "package: {name: A}").1 error refused
        rw [path] at settled
        exact ⟨error, rfl, settled⟩
  · have answers : ((load iconFiles "r" ⟨"linux-64", 27, 19⟩).map fun recipe =>
          (recipe.version, recipe.buildId, (recipe.summary iconFiles.digest).map fun _ => ())) =
        .ok ("1", .ok ⟨"0"⟩, .error (.unreadableIcon "r/x.png" "No such file or directory")) := by
      decide +kernel
    cases loaded : load iconFiles "r" ⟨"linux-64", 27, 19⟩ with
    | error error =>
        rw [loaded] at answers
        cases answers
    | ok recipe =>
        rw [loaded] at answers
        simp only [Except.map, Except.ok.injEq, Prod.mk.injEq] at answers
        rcases answers with ⟨version, build, unsummed⟩
        have fails : recipe.Fails (.unreadableIcon "r/x.png" "No such file or directory")
            (.summary iconFiles.digest) := by
          cases summed : recipe.summary iconFiles.digest with
          | ok summary =>
              rw [summed] at unsummed
              cases unsummed
          | error error =>
              rw [summed] at unsummed
              cases unsummed
              exact summed
        rcases directories _ _ _ _ loaded with ⟨text, fromText⟩
        rcases (texts _ _ _).2.2 recipe fromText with ⟨⟨name, named, given, _⟩, errors, shared, _⟩
        refine ⟨recipe, rfl, ⟨name, named, given⟩, shared.mpr ⟨?_, _, build⟩, fails,
          (errors _ _ fails).1⟩
        rw [version]
        decide

end Recipe

end PackageRecipe
