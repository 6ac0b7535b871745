import PackageRecipe.Manifest
import PackageRecipe.Proofs.Text

/-!
Manifests that differ in a few values. A value that is put at one path of a manifest
changes nothing at any other.
-/

namespace PackageRecipe.Manifest

/-- Two manifests have the same value, or none, at every path but the given ones. -/
def AgreeExceptAt (paths : List String) (first second : Manifest) : Prop :=
  ∀ path, path ∉ paths → first.get? path = second.get? path

theorem AgreeExceptAt.trans {paths others : List String} {first second third : Manifest}
    (before : AgreeExceptAt paths first second) (after : AgreeExceptAt others second third) :
    AgreeExceptAt (paths ++ others) first third := by
  intro path apart
  rw [List.mem_append, not_or] at apart
  rw [before path apart.1, after path apart.2]

/-- A manifest with a value put in a section, which is made if there is none. -/
def withValue (manifest : Manifest) (name key : String) (value : Yaml.Value) : Manifest :=
  let entries := (manifest.sectionOf? name).getD []
  ⟨manifest.document.put name (.mapping (entries.put key value))⟩

variable {manifest : Manifest} {name key : String} {value : Yaml.Value}

theorem sectionOf?_withValue :
    (manifest.withValue name key value).sectionOf? name =
      some (((manifest.sectionOf? name).getD []).put key value) := by
  rw [withValue, sectionOf?, Yaml.Mapping.get?_put]
  rfl

theorem sectionOf?_withValue_of_ne {other : String} (different : other ≠ name) :
    (manifest.withValue name key value).sectionOf? other = manifest.sectionOf? other := by
  rw [withValue, sectionOf?, Yaml.Mapping.get?_put_of_ne _ _ different, sectionOf?]

theorem get?_withValue (noSlash : '/' ∉ name.toList) :
    (manifest.withValue name key value).get? (name ++ "/" ++ key) = some value := by
  have path : (name ++ "/" ++ key).toList = name.toList ++ '/' :: key.toList := by simp
  rw [get?, path, Text.splitFirst?_append noSlash]
  simp [sectionOf?_withValue]

theorem path_eq_of_splitFirst? {path : String} {before after : List Char}
    (split : Text.splitFirst? '/' path.toList = some (before, after)) :
    path = String.ofList before ++ "/" ++ String.ofList after := by
  apply String.ext
  rw [Text.eq_append_of_splitFirst? split]
  simp

theorem agreeExceptAt_withValue :
    AgreeExceptAt [name ++ "/" ++ key] manifest (manifest.withValue name key value) := by
  intro path apart
  rw [List.mem_singleton] at apart
  rw [get?, get?]
  cases split : Text.splitFirst? '/' path.toList with
  | none => rfl
  | some parts =>
      rcases parts with ⟨before, after⟩
      have pathEqual := path_eq_of_splitFirst? split
      simp only [Option.bind_eq_bind, Option.bind_some]
      by_cases inSection : String.ofList before = name
      · have otherKey : String.ofList after ≠ key := by
          intro same
          rw [inSection, same] at pathEqual
          exact apart pathEqual
        rw [inSection, sectionOf?_withValue, Option.bind_some,
          Yaml.Mapping.get?_put_of_ne _ _ otherKey]
        cases manifest.sectionOf? name <;> rfl
      · rw [sectionOf?_withValue_of_ne inSection]

end PackageRecipe.Manifest
