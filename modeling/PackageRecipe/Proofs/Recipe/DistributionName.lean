import PackageRecipe.Proofs.Recipe.BuildId

/-!
Distribution names. Names, versions and the versions that build ids show may all have
hyphens, and a distribution name does not say which hyphens are the two that it puts between
them. So it can be shared by different builds, but only if a version or a build id has more
hyphens in one than in the other.
-/

namespace PackageRecipe

/-! ## The place of a separator -/

section Separator

variable {separator : Char} {before after otherBefore otherAfter between : List Char}

theorem eq_nil_of_count_eq (same : separator :: after = between ++ separator :: otherAfter)
    (counts : after.count separator = otherAfter.count separator) : between = [] := by
  -- What stands between the two separators would make the first rest hold one more.
  cases between with
  | nil => rfl
  | cons head tail =>
      rw [List.cons_append, List.cons.injEq] at same
      rw [same.2, List.count_append, List.count_cons_self] at counts
      omega

theorem append_cons_inj_of_count_eq
    (same : before ++ separator :: after = otherBefore ++ separator :: otherAfter)
    (counts : after.count separator = otherAfter.count separator) :
    before = otherBefore ∧ after = otherAfter := by
  rcases List.append_eq_append_iff.mp same with ⟨between, rfl, rest⟩ | ⟨between, rfl, rest⟩
  · cases eq_nil_of_count_eq rest counts
    simpa using rest
  · cases eq_nil_of_count_eq rest counts.symm
    simpa [eq_comm] using rest

end Separator

namespace Recipe

variable {recipe first second : Recipe} {shared : DistributionName}

def hyphens (text : String) : Nat :=
  text.toList.count '-'

theorem distributionName_eq_ok_iff :
    recipe.distributionName = .ok shared ↔
      ∃ name id, recipe.name = .ok name ∧ recipe.version ≠ "" ∧ recipe.buildId = .ok id ∧
        shared = ⟨name ++ "-" ++ recipe.version ++ "-" ++ id.text⟩ := by
  rw [distributionName, requiredVersion]
  constructor
  · intro equal
    rcases exists_of_bind_eq_ok equal with ⟨name, nameEqual, equal⟩
    rcases exists_of_bind_eq_ok equal with ⟨version, versionEqual, equal⟩
    rcases exists_of_bind_eq_ok equal with ⟨id, idEqual, equal⟩
    by_cases empty : recipe.version = ""
    · rw [if_pos empty] at versionEqual
      cases versionEqual
    · rw [if_neg empty] at versionEqual
      cases versionEqual
      cases equal
      exact ⟨name, id, nameEqual, empty, idEqual, rfl⟩
  · intro parts
    rcases parts with ⟨name, id, nameEqual, given, idEqual, rfl⟩
    rw [nameEqual, ok_bind, if_neg given, ok_bind, idEqual]
    rfl

theorem parts_eq_of_hyphens {name version build otherName otherVersion otherBuild : String}
    (same : name ++ "-" ++ version ++ "-" ++ build =
      otherName ++ "-" ++ otherVersion ++ "-" ++ otherBuild)
    (versions : hyphens version = hyphens otherVersion)
    (builds : hyphens build = hyphens otherBuild) :
    name = otherName ∧ version = otherVersion ∧ build = otherBuild := by
  have characters := congrArg String.toList same
  simp only [String.toList_append, List.append_assoc] at characters
  change name.toList ++ '-' :: (version.toList ++ '-' :: build.toList) =
    otherName.toList ++ '-' :: (otherVersion.toList ++ '-' :: otherBuild.toList) at characters
  have counts : (version.toList ++ '-' :: build.toList).count '-' =
      (otherVersion.toList ++ '-' :: otherBuild.toList).count '-' := by
    rw [List.count_append, List.count_append, List.count_cons_self, List.count_cons_self]
    exact congrArg₂ (· + ·) versions (congrArg Nat.succ builds)
  rcases append_cons_inj_of_count_eq characters counts with ⟨names, rest⟩
  rcases append_cons_inj_of_count_eq rest builds with ⟨versionsEqual, buildsEqual⟩
  exact ⟨String.ext names, String.ext versionsEqual, String.ext buildsEqual⟩

/-- Recipes that share a distribution name have the same name, version and build id exactly if
their versions have as many hyphens as each other, and so have their build ids. -/
theorem distributionName_identifies (firstNamed : first.distributionName = .ok shared)
    (secondNamed : second.distributionName = .ok shared) :
    ∃ id other, first.buildId = .ok id ∧ second.buildId = .ok other ∧
      ((first.name = second.name ∧ first.version = second.version ∧ id = other) ↔
        hyphens first.version = hyphens second.version ∧
          hyphens id.text = hyphens other.text) := by
  rcases distributionName_eq_ok_iff.mp firstNamed with
    ⟨name, id, nameEqual, _, idEqual, sharedEqual⟩
  rcases distributionName_eq_ok_iff.mp secondNamed with
    ⟨otherName, other, otherNameEqual, _, otherEqual, otherShared⟩
  refine ⟨id, other, idEqual, otherEqual, ?_⟩
  constructor
  · intro same
    rcases same with ⟨_, versions, rfl⟩
    exact ⟨congrArg hyphens versions, rfl⟩
  · intro counts
    rw [sharedEqual, DistributionName.mk.injEq] at otherShared
    rcases parts_eq_of_hyphens otherShared counts.1 counts.2 with ⟨names, versions, builds⟩
    rw [nameEqual, otherNameEqual, names]
    exact ⟨rfl, versions, congrArg BuildId.mk builds⟩

def packageRecipe (name version : String) : Recipe :=
  ⟨"r", ⟨[(.string "package", .mapping [(.string "name", .string name),
    (.string "version", .string version)])]⟩, ⟨"linux-64", 27, 19⟩⟩

theorem distributionName_identifies_hyphenated :
    (packageRecipe "a-1" "2").distributionName = .ok ⟨"a-1-2-0"⟩ ∧
      (packageRecipe "a" "1-2").distributionName = .ok ⟨"a-1-2-0"⟩ ∧
      ∃ id other, (packageRecipe "a-1" "2").buildId = .ok id ∧
        (packageRecipe "a" "1-2").buildId = .ok other ∧
        ¬(hyphens "2" = hyphens "1-2" ∧ hyphens id.text = hyphens other.text) := by
  have first : (packageRecipe "a-1" "2").distributionName = .ok ⟨"a-1-2-0"⟩ := rfl
  have second : (packageRecipe "a" "1-2").distributionName = .ok ⟨"a-1-2-0"⟩ := rfl
  rcases distributionName_identifies first second with ⟨id, other, idEqual, otherEqual, same⟩
  refine ⟨first, second, id, other, idEqual, otherEqual, ?_⟩
  intro counts
  have versions : "2" = "1-2" := (same.mpr counts).2.1
  exact absurd versions (by decide)

/-- The name, the version, the build id and the distribution name of the recipe in a text. -/
def identity (text : String) : Except Error (String × String × BuildId × DistributionName) := do
  let recipe ← ofText "r" ⟨"linux-64", 27, 19⟩ text
  let name ← recipe.name
  let id ← recipe.buildId
  let shared ← recipe.distributionName
  return (name, recipe.version, id, shared)

theorem exists_of_identity {text name version : String} {id : BuildId}
    (equal : (identity text).toOption = some (name, version, id, shared)) :
    ∃ recipe, ofText "r" ⟨"linux-64", 27, 19⟩ text = .ok recipe ∧ recipe.name = .ok name ∧
      recipe.version = version ∧ recipe.buildId = .ok id ∧
        recipe.distributionName = .ok shared := by
  cases known : identity text with
  | error error =>
      rw [known] at equal
      cases equal
  | ok parts =>
      rw [known] at equal
      cases equal
      rcases exists_of_bind_eq_ok known with ⟨recipe, loaded, known⟩
      rcases exists_of_bind_eq_ok known with ⟨name, nameEqual, known⟩
      rcases exists_of_bind_eq_ok known with ⟨id, idEqual, known⟩
      rcases exists_of_bind_eq_ok known with ⟨shared, sharedEqual, known⟩
      cases known
      exact ⟨recipe, loaded, nameEqual, rfl, idEqual, sharedEqual⟩

/-- A hyphen of a name is taken for the one after it. Where versions have none, so may be a
hyphen that a build id shows of the version of numpy. -/
theorem distributionName_shared :
    (∃ first second shared,
      ofText "r" ⟨"linux-64", 27, 19⟩ "package: {name: a-1, version: 2}" = .ok first ∧
        ofText "r" ⟨"linux-64", 27, 19⟩ "package: {name: a, version: 1-2}" = .ok second ∧
        first.distributionName = .ok shared ∧ second.distributionName = .ok shared ∧
        first.name ≠ second.name ∧ first.version ≠ second.version) ∧
    ∃ first second shared,
      ofText "r" ⟨"linux-64", 27, 19⟩
          "package: {name: a, version: 1}\nrequirements: {run: [numpy x1-, python]}" = .ok first ∧
        ofText "r" ⟨"linux-64", 27, 19⟩
          "package: {name: a-1, version: npx}\nrequirements: {run: [python]}" = .ok second ∧
        first.distributionName = .ok shared ∧ second.distributionName = .ok shared ∧
        hyphens first.version = 0 ∧ hyphens second.version = 0 ∧
        first.buildId ≠ second.buildId := by
  have hyphenatedName : (identity "package: {name: a-1, version: 2}").toOption =
      some ("a-1", "2", ⟨"0"⟩, ⟨"a-1-2-0"⟩) := by decide +kernel
  have hyphenatedVersion : (identity "package: {name: a, version: 1-2}").toOption =
      some ("a", "1-2", ⟨"0"⟩, ⟨"a-1-2-0"⟩) := by decide +kernel
  have hyphenatedRuntime : (identity
      "package: {name: a, version: 1}\nrequirements: {run: [numpy x1-, python]}").toOption =
        some ("a", "1", ⟨"npx-py27_0"⟩, ⟨"a-1-npx-py27_0"⟩) := by decide +kernel
  have plainRuntime : (identity
      "package: {name: a-1, version: npx}\nrequirements: {run: [python]}").toOption =
        some ("a-1", "npx", ⟨"py27_0"⟩, ⟨"a-1-npx-py27_0"⟩) := by decide +kernel
  constructor
  · rcases exists_of_identity hyphenatedName with
      ⟨first, loaded, name, version, _, shared⟩
    rcases exists_of_identity hyphenatedVersion with
      ⟨second, otherLoaded, otherName, otherVersion, _, otherShared⟩
    refine ⟨first, second, _, loaded, otherLoaded, shared, otherShared, ?_, ?_⟩
    · rw [name, otherName]
      simp
    · rw [version, otherVersion]
      decide
  · rcases exists_of_identity hyphenatedRuntime with
      ⟨first, loaded, _, version, id, shared⟩
    rcases exists_of_identity plainRuntime with
      ⟨second, otherLoaded, _, otherVersion, otherId, otherShared⟩
    refine ⟨first, second, _, loaded, otherLoaded, shared, otherShared, ?_, ?_, ?_⟩
    · rw [version]
      decide
    · rw [otherVersion]
      decide
    · rw [id, otherId]
      simp

end Recipe

end PackageRecipe
