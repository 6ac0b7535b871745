import PackageRecipe.Proofs.Manifest.Tags
import PackageRecipe.Proofs.Recipe.Dependencies
import PackageRecipe.Proofs.Recipe.Failures

/-!
Tags and what identifies a build. Recipes over documents that differ only in the tags on the
values of fields have the same name, version, number and requirements, and so the same build
id and distribution name, or the same errors.
-/

namespace PackageRecipe.Recipe

/-- Recipes give the same to all that identifies a build, whether a value or an error. -/
structure SameIdentity (first second : Recipe) : Prop where
  name : second.name = first.name
  version : second.version = first.version
  number : second.buildNumber = first.buildNumber
  dependencies : ∀ kind, second.dependencies kind = first.dependencies kind
  buildId : second.buildId = first.buildId
  distributionName : second.distributionName = first.distributionName

/-! ## What the name and the number depend on

A name or a number that is absent is like one that is null. -/

section Parts

variable {first second : Recipe}

theorem nameText?_eq_of_getD (recipe : Recipe) :
    recipe.nameText? =
      ((some ((recipe.manifest.get? "package/name").getD .null).untagged).filter
        Yaml.Value.isGiven).bind Yaml.Value.scalarText? := by
  rw [nameText?]
  cases recipe.manifest.get? "package/name" with
  | none => rfl
  | some value => rfl

theorem name_congr (path : second.path = first.path)
    (value : ((second.manifest.get? "package/name").getD .null).untagged =
      ((first.manifest.get? "package/name").getD .null).untagged) :
    second.name = first.name := by
  rw [name_eq, name_eq, nameText?_eq_of_getD, nameText?_eq_of_getD, value, manifestPath,
    manifestPath, path]

theorem buildNumber_eq_of_getD (recipe : Recipe) :
    recipe.buildNumber =
      match ((recipe.manifest.get? "build/number").getD .null).untagged with
      | .null => .ok 0
      | value =>
          match number? value with
          | some number => .ok number
          | none => .error (.invalidNumber recipe.manifestPath (shownNumber value)) := by
  rw [buildNumber]
  cases recipe.manifest.get? "build/number" with
  | none => rfl
  | some value =>
      rw [Option.map_some, Option.getD_some]
      cases value.untagged <;> rfl

theorem buildNumber_congr_of_getD (path : second.path = first.path)
    (value : ((second.manifest.get? "build/number").getD .null).untagged =
      ((first.manifest.get? "build/number").getD .null).untagged) :
    second.buildNumber = first.buildNumber := by
  rw [buildNumber_eq_of_getD, buildNumber_eq_of_getD, value, manifestPath, manifestPath, path]

theorem version_congr
    (version : second.manifest.get? "package/version" = first.manifest.get? "package/version") :
    second.version = first.version := by
  rw [Recipe.version, Recipe.version, Manifest.text, Manifest.text, version]

theorem dependencies_eq_of_get? {kind : DependencyKind} (path : second.path = first.path)
    (target : second.target = first.target)
    (list : second.manifest.get? kind.field = first.manifest.get? kind.field) :
    second.dependencies kind = first.dependencies kind := by
  rw [dependencies, dependencies, Manifest.texts, Manifest.texts, list, manifestPath,
    manifestPath, path, target]

theorem distributionName_congr (path : second.path = first.path)
    (name : second.name = first.name) (version : second.version = first.version)
    (buildId : second.buildId = first.buildId) :
    second.distributionName = first.distributionName := by
  rw [distributionName, distributionName, name, requiredVersion, requiredVersion, version,
    manifestPath, manifestPath, path, buildId]

/-- Recipes have the same identity if their manifests give the same to each field. -/
theorem sameIdentity_of_fields (path : second.path = first.path)
    (target : second.target = first.target)
    (shaped : ∀ field ∈ Manifest.schema,
      second.manifest.get? field.path = first.manifest.get? field.path)
    (asWritten : ∀ field ∈ Manifest.unshaped,
      ((second.manifest.get? field.path).getD .null).untagged =
        ((first.manifest.get? field.path).getD .null).untagged) : SameIdentity first second := by
  have name := name_congr path (asWritten ⟨"package", "name", .text⟩ (by decide))
  have version := version_congr (shaped ⟨"package", "version", .text⟩ (by decide))
  have number :=
    buildNumber_congr_of_getD path (asWritten ⟨"build", "number", .text⟩ (by decide))
  have dependencies : ∀ kind, second.dependencies kind = first.dependencies kind := by
    intro kind
    apply dependencies_eq_of_get? path target
    cases kind with
    | build => exact shaped ⟨"requirements", "build", .list⟩ (by decide)
    | run => exact shaped ⟨"requirements", "run", .list⟩ (by decide)
  have id := buildId_congr path (dependencies .run) number
  exact ⟨name, version, number, dependencies, id, distributionName_congr path name version id⟩

end Parts

/-! ## Recipes over tagged documents -/

/-- Any number of tags on the values of fields, and on the items of lists, changes nothing in
what identifies a build. The document with the tags can be normalized exactly if the one without
them can, and the recipes over both have the same identity for every target. -/
theorem tagging_keeps_identity {document wrapped : Yaml.Mapping}
    (tagging : Manifest.IsTagging document wrapped) :
    ((∃ manifest, Manifest.normalize document = .ok manifest) ↔
        ∃ manifest, Manifest.normalize wrapped = .ok manifest) ∧
      ∀ first second, Manifest.normalize document = .ok first →
        Manifest.normalize wrapped = .ok second → ∀ path target,
          SameIdentity ⟨path, first, target⟩ ⟨path, second, target⟩ := by
  have alike := tagging.alike
  refine ⟨alike.exists_normalize_iff, ?_⟩
  intro first second firstNormalized secondNormalized path target
  refine sameIdentity_of_fields rfl rfl ?shaped ?asWritten
  case shaped => exact fun _ member => alike.get?_eq firstNormalized secondNormalized member
  case asWritten =>
    exact fun _ member => alike.untagged_eq firstNormalized secondNormalized member

def plainDocument : Yaml.Mapping :=
  [(.string "package", .mapping [(.string "name", .string "a"),
      (.string "version", .number (.integer 1))]),
    (.string "build", .mapping [(.string "number", .number (.integer 4))]),
    (.string "requirements", .mapping [(.string "run", .sequence [.string "python"])])]

def tagsDocument : Yaml.Mapping :=
  [(.string "package", .mapping [(.string "name", .tagged "t" (.string "a")),
      (.string "version", .number (.integer 1))]),
    (.string "build", .mapping [(.string "number",
      .tagged "u" (.tagged "t" (.number (.integer 4))))]),
    (.string "requirements", .mapping [(.string "run",
      .tagged "t" (.sequence [.tagged "u" (.string "python")]))])]

theorem isTagging_tagsDocument : Manifest.IsTagging plainDocument tagsDocument := by
  apply Relation.ReflTransGen.head
    (.field ⟨"package", "name", .text⟩ (by decide) rfl (.entry rfl (.whole "t" _)))
  apply Relation.ReflTransGen.head
    (.field ⟨"build", "number", .text⟩ (by decide) rfl (.entry rfl (.whole "t" _)))
  apply Relation.ReflTransGen.head
    (.field ⟨"build", "number", .text⟩ (by decide) rfl (.entry rfl (.whole "u" _)))
  apply Relation.ReflTransGen.head
    (.field ⟨"requirements", "run", .list⟩ (by decide) rfl (.entry rfl (.whole "t" _)))
  apply Relation.ReflTransGen.head
    (.field ⟨"requirements", "run", .list⟩ (by decide) rfl
      (.entry rfl (.inside "t" (.item rfl "u" [] _ []))))
  exact .refl

/-- What is derived without tags is derived with them. -/
theorem tagging_keeps_identity_tags :
    ∃ first second, Manifest.normalize plainDocument = .ok first ∧
      Manifest.normalize tagsDocument = .ok second ∧
      Recipe.distributionName ⟨"r", first, ⟨"linux-64", 27, 19⟩⟩ = .ok ⟨"a-1-py27_4"⟩ ∧
      Recipe.distributionName ⟨"r", second, ⟨"linux-64", 27, 19⟩⟩ = .ok ⟨"a-1-py27_4"⟩ := by
  rcases tagging_keeps_identity isTagging_tagsDocument with ⟨derived, same⟩
  obtain ⟨first, firstNormalized⟩ : ∃ first, Manifest.normalize plainDocument = .ok first :=
    ⟨_, rfl⟩
  rcases derived.mp ⟨first, firstNormalized⟩ with ⟨second, secondNormalized⟩
  have identity := same first second firstNormalized secondNormalized "r" ⟨"linux-64", 27, 19⟩
  have named : Recipe.distributionName ⟨"r", first, ⟨"linux-64", 27, 19⟩⟩ =
      .ok ⟨"a-1-py27_4"⟩ := by
    cases firstNormalized
    rfl
  exact ⟨first, second, firstNormalized, secondNormalized, named,
    identity.distributionName.trans named⟩

end PackageRecipe.Recipe
