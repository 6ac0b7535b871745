import PackageRecipe.Proofs.Recipe.DistributionName
import PackageRecipe.Proofs.Text.ByteOrder

/-!
Summaries for a package index. A summary agrees with what is derived from the recipe one by
one, and there is one exactly if the build has a distribution name and the application, if
the recipe describes one, can be described.
-/

namespace PackageRecipe.Recipe

variable {recipe : Recipe} {digest : String → Except String String}

/-! ## Applications -/

theorem isApplication_iff :
    recipe.isApplication ↔ ∃ value, recipe.given? "app/entry" = some value := by
  rw [isApplication, given?]
  cases recipe.manifest.get? "app/entry" <;> simp [Option.filter]

theorem application_eq_ok_iff {application : Application} :
    recipe.application digest = .ok application ↔
      ∃ icon, recipe.iconName? digest = .ok icon ∧
        application = ⟨icon, recipe.given? "app/entry", recipe.given? "app/type",
          recipe.given? "app/cli_opts", recipe.given? "app/summary"⟩ := by
  constructor
  · intro described
    rcases exists_of_bind_eq_ok described with ⟨icon, named, described⟩
    cases described
    exact ⟨icon, named, rfl⟩
  · intro parts
    rcases parts with ⟨icon, named, rfl⟩
    rw [Recipe.application, named]
    rfl

theorem application?_eq_ok_iff {described : Option Application} :
    recipe.application? digest = .ok described ↔
      ¬recipe.isApplication ∧ described = none ∨
        recipe.isApplication ∧
          ∃ application, recipe.application digest = .ok application ∧
            described = some application := by
  rw [application?]
  by_cases isApplication : recipe.isApplication
  · rw [if_pos isApplication]
    cases recipe.application digest <;> simp [isApplication, Except.map, eq_comm]
  · rw [if_neg isApplication]
    simp [isApplication, eq_comm]

theorem exists_application?_iff :
    (∃ described, recipe.application? digest = .ok described) ↔
      (recipe.isApplication → ∃ application, recipe.application digest = .ok application) := by
  simp only [application?_eq_ok_iff]
  by_cases isApplication : recipe.isApplication
  · simp only [isApplication, not_true_eq_false, false_and, true_and, false_or, forall_const]
    constructor
    · intro found
      rcases found with ⟨_, application, described, rfl⟩
      exact ⟨application, described⟩
    · intro found
      rcases found with ⟨application, described⟩
      exact ⟨some application, application, described, rfl⟩
  · simp [isApplication]

/-- Only an application has a description, which then says how it is entered. -/
theorem isSome_of_application? {described : Option Application}
    (found : recipe.application? digest = .ok described) :
    (described.isSome ↔ recipe.isApplication) ∧
      ∀ application, described = some application → ∃ value, application.entry = some value := by
  rcases application?_eq_ok_iff.mp found with
    ⟨plain, rfl⟩ | ⟨isApplication, application, describes, rfl⟩
  · simp [plain]
  · rcases application_eq_ok_iff.mp describes with ⟨icon, _, rfl⟩
    rcases isApplication_iff.mp isApplication with ⟨value, given⟩
    simp [isApplication, given]

/-! ## Requirements in order -/

theorem pairwise_mergeSort_texts (texts : List String) :
    (texts.mergeSort fun left right => (compare left right).isLE).Pairwise
      fun left right => Text.bytes left ≤ Text.bytes right := by
  have sorted : (texts.mergeSort fun left right => (compare left right).isLE).Pairwise
      fun left right => (compare left right).isLE := by
    apply List.pairwise_mergeSort
    · simp only [Text.isLE_compare_iff]
      exact fun _ _ _ => le_trans
    · simp only [Bool.or_eq_true, Text.isLE_compare_iff]
      exact le_total
  apply sorted.imp
  intro left right ordered
  exact Text.bytes_le_bytes_iff.mpr (Text.isLE_compare_iff.mp ordered)

/-- There is one ascending order of given texts. -/
theorem eq_of_perm_of_ascending {texts others : List String} (permuted : texts.Perm others)
    (ascending : texts.Pairwise fun left right => Text.bytes left ≤ Text.bytes right)
    (othersAscending : others.Pairwise fun left right => Text.bytes left ≤ Text.bytes right) :
    texts = others := by
  apply permuted.eq_of_pairwise _ ascending othersAscending
  intro left right _ _ before after
  rw [Text.bytes_le_bytes_iff] at before after
  exact le_antisymm before after

theorem depends_eq_ok_iff {texts : List String} :
    recipe.depends = .ok texts ↔
      ∃ requirements, recipe.dependencies .run = .ok requirements ∧
        texts.Perm (requirements.map Requirement.text) ∧
          texts.Pairwise fun left right => Text.bytes left ≤ Text.bytes right := by
  constructor
  · intro equal
    rcases exists_of_bind_eq_ok equal with ⟨requirements, resolved, equal⟩
    cases equal
    exact ⟨requirements, resolved, List.mergeSort_perm _ _, pairwise_mergeSort_texts _⟩
  · intro parts
    rcases parts with ⟨requirements, resolved, permuted, ascending⟩
    have sorted := eq_of_perm_of_ascending (permuted.trans (List.mergeSort_perm _ _).symm)
      ascending (pairwise_mergeSort_texts _)
    rw [depends, resolved, sorted]
    rfl

theorem exists_depends_iff :
    (∃ texts, recipe.depends = .ok texts) ↔
      ∃ requirements, recipe.dependencies .run = .ok requirements := by
  constructor
  · intro found
    rcases found with ⟨texts, equal⟩
    rcases depends_eq_ok_iff.mp equal with ⟨requirements, resolved, _⟩
    exact ⟨requirements, resolved⟩
  · intro found
    rcases found with ⟨requirements, resolved⟩
    rw [depends, resolved]
    exact ⟨_, rfl⟩

/-! ## Summaries -/

theorem requiredVersion_eq_ok_iff {version : String} :
    recipe.requiredVersion = .ok version ↔ recipe.version ≠ "" ∧ version = recipe.version := by
  rw [requiredVersion]
  by_cases empty : recipe.version = ""
  · simp [empty]
  · simp [empty, eq_comm]

theorem summary_eq_ok_iff {summary : Summary} :
    recipe.summary digest = .ok summary ↔
      recipe.depends = .ok summary.depends ∧
        recipe.application? digest = .ok summary.application ∧
          recipe.name = .ok summary.name ∧ recipe.requiredVersion = .ok summary.version ∧
            recipe.buildId = .ok summary.build ∧ recipe.buildNumber = .ok summary.number ∧
              summary.platform = recipe.target.platform ∧
                summary.architecture = recipe.target.architecture := by
  constructor
  · intro equal
    rcases exists_of_bind_eq_ok equal with ⟨depends, dependsEqual, equal⟩
    rcases exists_of_bind_eq_ok equal with ⟨application, applicationEqual, equal⟩
    rcases exists_of_bind_eq_ok equal with ⟨name, nameEqual, equal⟩
    rcases exists_of_bind_eq_ok equal with ⟨version, versionEqual, equal⟩
    rcases exists_of_bind_eq_ok equal with ⟨build, buildEqual, equal⟩
    rcases exists_of_bind_eq_ok equal with ⟨number, numberEqual, equal⟩
    cases equal
    exact ⟨dependsEqual, applicationEqual, nameEqual, versionEqual, buildEqual, numberEqual,
      rfl, rfl⟩
  · intro parts
    rcases parts with ⟨dependsEqual, applicationEqual, nameEqual, versionEqual, buildEqual,
      numberEqual, platformEqual, architectureEqual⟩
    rw [Recipe.summary, dependsEqual, ok_bind, applicationEqual, ok_bind, nameEqual, ok_bind,
      versionEqual, ok_bind, buildEqual, ok_bind, numberEqual, ok_bind, ← platformEqual,
      ← architectureEqual]
    rfl

/-- What a build id is derived from is there as well. -/
theorem parts_of_buildId {id : BuildId} (equal : recipe.buildId = .ok id) :
    (∃ requirements, recipe.dependencies .run = .ok requirements) ∧
      ∃ number, recipe.buildNumber = .ok number ∧
        Nat.toDigits 10 number <:+ id.text.toList := by
  rcases buildId_eq_ok_iff.mp equal with
    ⟨requirements, numpy, python, number, resolved, _, _, numberEqual, rfl⟩
  refine ⟨⟨requirements, resolved⟩, number, numberEqual, ?_⟩
  rw [String.toList_ofList]
  exact List.suffix_append _ _

theorem exists_summary_iff :
    (∃ summary, recipe.summary digest = .ok summary) ↔
      (∃ shared, recipe.distributionName = .ok shared) ∧
        (recipe.isApplication → ∃ application, recipe.application digest = .ok application) := by
  rw [← exists_application?_iff]
  constructor
  · intro found
    rcases found with ⟨summary, equal⟩
    rcases summary_eq_ok_iff.mp equal with
      ⟨_, applicationEqual, nameEqual, versionEqual, buildEqual, _⟩
    refine ⟨⟨_, distributionName_eq_ok_iff.mpr ⟨summary.name, summary.build, nameEqual,
      (requiredVersion_eq_ok_iff.mp versionEqual).1, buildEqual, rfl⟩⟩, _, applicationEqual⟩
  · intro parts
    rcases parts with ⟨⟨shared, equal⟩, application, applicationEqual⟩
    rcases distributionName_eq_ok_iff.mp equal with ⟨name, id, nameEqual, given, idEqual, _⟩
    rcases parts_of_buildId idEqual with ⟨resolved, number, numberEqual, _⟩
    rcases exists_depends_iff.mpr resolved with ⟨depends, dependsEqual⟩
    have versionEqual := requiredVersion_eq_ok_iff.mpr ⟨given, rfl⟩
    exact ⟨⟨name, recipe.version, id, number, _, _, depends, application⟩,
      summary_eq_ok_iff.mpr ⟨dependsEqual, applicationEqual, nameEqual, versionEqual, idEqual,
        numberEqual, rfl, rfl⟩⟩

/-- A summary repeats what the distribution name is made of, lists the requirements at run
time in the order of their bytes, and describes the application if there is one. A recipe
has a summary exactly if it has a distribution name and, where it describes an application,
this can be described. -/
theorem summary_agrees (recipe : Recipe) (digest : String → Except String String) :
    (∀ summary, recipe.summary digest = .ok summary →
      recipe.distributionName =
          .ok ⟨summary.name ++ "-" ++ summary.version ++ "-" ++ summary.build.text⟩ ∧
        recipe.buildId = .ok summary.build ∧ recipe.buildNumber = .ok summary.number ∧
        Nat.toDigits 10 summary.number <:+ summary.build.text.toList ∧ summary.version ≠ "" ∧
        (∃ requirements, recipe.dependencies .run = .ok requirements ∧
          summary.depends.Perm (requirements.map Requirement.text) ∧
            summary.depends.Pairwise fun left right => Text.bytes left ≤ Text.bytes right) ∧
        (summary.application.isSome ↔ recipe.isApplication) ∧
        ∀ application, summary.application = some application →
          ∃ value, application.entry = some value) ∧
    ((∃ summary, recipe.summary digest = .ok summary) ↔
      (∃ shared, recipe.distributionName = .ok shared) ∧
        (recipe.isApplication →
          ∃ application, recipe.application digest = .ok application)) := by
  refine ⟨?agrees, exists_summary_iff⟩
  case agrees =>
    intro summary equal
    rcases summary_eq_ok_iff.mp equal with
      ⟨dependsEqual, applicationEqual, nameEqual, versionEqual, buildEqual, numberEqual, _⟩
    rcases requiredVersion_eq_ok_iff.mp versionEqual with ⟨given, version⟩
    rcases parts_of_buildId buildEqual with ⟨_, number, again, suffix⟩
    rw [numberEqual] at again
    cases again
    have shared := distributionName_eq_ok_iff.mpr
      ⟨summary.name, summary.build, nameEqual, given, buildEqual, rfl⟩
    rw [← version] at shared given
    exact ⟨shared, buildEqual, numberEqual, suffix, given, depends_eq_ok_iff.mp dependsEqual,
      isSome_of_application? applicationEqual⟩

/-- An application with a requirement that is listed twice. -/
def notebookRecipe : Recipe :=
  ⟨"r", ⟨[(.string "package", .mapping [(.string "name", .string "notebook"),
      (.string "version", .string "2.0")]),
    (.string "requirements", .mapping [(.string "run", .sequence [.string "zlib",
      .string "python", .string "zlib", .string "libgcc 4"])]),
    (.string "app", .mapping [(.string "entry", .string "start"),
      (.string "icon", .string "icon.png")])]⟩, ⟨"linux-64", 27, 19⟩⟩

theorem summary_agrees_notebook :
    ∃ summary, notebookRecipe.summary (fun _ => .ok "d41d") = .ok summary ∧
      summary.name ++ "-" ++ summary.version ++ "-" ++ summary.build.text =
        "notebook-2.0-py27_0" ∧
      summary.depends = ["libgcc 4", "python 2.7*", "zlib", "zlib"] ∧
      ∃ application, summary.application = some application ∧
        ∃ value, application.entry = some value := by
  have shared : notebookRecipe.distributionName = .ok ⟨"notebook-2.0-py27_0"⟩ := rfl
  have resolved : notebookRecipe.dependencies .run = .ok [⟨"zlib", "zlib", 1⟩,
    ⟨"python 2.7*", "python", 2⟩, ⟨"zlib", "zlib", 1⟩, ⟨"libgcc 4", "libgcc", 2⟩] := rfl
  rcases summary_agrees notebookRecipe (fun _ => .ok "d41d") with ⟨agrees, derived⟩
  rcases derived.mpr ⟨⟨_, shared⟩, fun _ => ⟨_, rfl⟩⟩ with ⟨summary, equal⟩
  rcases agrees summary equal with ⟨again, _, _, _, _, listed, described, entered⟩
  rcases listed with ⟨requirements, same, permuted, ascending⟩
  refine ⟨summary, equal, ?_, ?_, ?_⟩
  · rw [shared] at again
    exact (congrArg DistributionName.text (Except.ok.inj again)).symm
  · rw [resolved] at same
    cases same
    apply eq_of_perm_of_ascending (permuted.trans _) ascending
    · decide
    · decide
  · rcases Option.isSome_iff_exists.mp (described.mpr rfl) with ⟨application, found⟩
    exact ⟨application, found, entered application found⟩

end PackageRecipe.Recipe
