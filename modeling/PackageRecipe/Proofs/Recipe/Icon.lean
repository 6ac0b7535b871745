import PackageRecipe.Proofs.Outcome
import PackageRecipe.Proofs.Path
import PackageRecipe.Recipe.Summary

/-!
The file that a recipe reads. Of all files, only the icon of a recipe makes a difference to what
an index holds about it. Where the icon is, the manifest says: nothing keeps it in the directory
of the recipe.
-/

namespace PackageRecipe.Recipe

/-- Digests of files that agree on the icon of a recipe, if it has one. -/
def AgreeOnIcon (recipe : Recipe) (digest other : String → Except String String) : Prop :=
  ∀ path, recipe.iconPath? = .ok (some path) → digest path = other path

section Digests

variable {recipe : Recipe} {digest other : String → Except String String}

theorem iconPath?_eq_ok_some_iff {path : String} :
    recipe.iconPath? = .ok (some path) ↔
      ∃ icon, (recipe.given? "app/icon").bind Yaml.Value.string? = some icon ∧
        path = Path.join recipe.path icon := by
  rw [iconPath?]
  cases recipe.given? "app/icon" with
  | none => simp
  | some value =>
      rw [Option.bind_some]
      cases found : value.string? <;> simp [found, eq_comm]

theorem iconName?_congr (agree : recipe.AgreeOnIcon digest other) :
    recipe.iconName? digest = recipe.iconName? other := by
  rw [iconName?, iconName?]
  cases found : recipe.iconPath? with
  | error error => rfl
  | ok path =>
      cases path with
      | none => rfl
      | some path => simp only [ok_bind, agree path found]

theorem application_congr (agree : recipe.AgreeOnIcon digest other) :
    recipe.application digest = recipe.application other := by
  rw [Recipe.application, Recipe.application, iconName?_congr agree]

theorem summary_congr (agree : recipe.AgreeOnIcon digest other) :
    recipe.summary digest = recipe.summary other := by
  rw [Recipe.summary, Recipe.summary, application?, application?, application_congr agree]

end Digests

/-- An application and a summary depend on the digest of no file but the icon, whose path is what
the manifest says, seen from the directory of the recipe. That leads inside of the directory if
the path is an inner one. With any other path there are directories that it leads out of. -/
theorem only_icon_is_read (recipe : Recipe) :
    (∀ digest other, recipe.AgreeOnIcon digest other →
      recipe.application digest = recipe.application other ∧
        recipe.summary digest = recipe.summary other) ∧
    ∀ path, recipe.iconPath? = .ok (some path) → ∃ icon,
      (recipe.given? "app/icon").bind Yaml.Value.string? = some icon ∧
        path = Path.join recipe.path icon ∧
        (Path.IsInner icon → ∀ around, Path.IsInside around recipe.path path) ∧
        (¬Path.IsInner icon → ∃ around directory, Path.IsPlace around ∧
          ¬Path.IsInside around directory (Path.join directory icon)) := by
  constructor
  · intro digest other agree
    exact ⟨application_congr agree, summary_congr agree⟩
  · intro path found
    rcases iconPath?_eq_ok_some_iff.mp found with ⟨icon, given, rfl⟩
    refine ⟨icon, given, rfl, fun isInner around => isInner.isInside around recipe.path, ?_⟩
    intro notInner
    rw [Path.isInner_iff] at notInner
    push Not at notInner
    rcases notInner with ⟨around, isPlace, directory, leaves⟩
    exact ⟨around, directory, isPlace, leaves⟩

def iconRecipe (icon : String) : Recipe :=
  ⟨"r", ⟨[(.string "package", .mapping [(.string "name", .string "a"),
      (.string "version", .string "1")]),
    (.string "app", .mapping [(.string "entry", .string "b"),
      (.string "icon", .string icon)])]⟩, ⟨"linux-64", 27, 19⟩⟩

/-- What other files hold makes no difference. -/
theorem only_icon_is_read_inner :
    (iconRecipe "art/../icon.png").summary (fun _ => .ok "d41d") =
        (iconRecipe "art/../icon.png").summary (fun path =>
          if path = "r/art/../icon.png" then .ok "d41d" else .error "locked") ∧
      ∀ around, Path.IsInside around "r" "r/art/../icon.png" := by
  have found : (iconRecipe "art/../icon.png").iconPath? = .ok (some "r/art/../icon.png") := by
    decide +kernel
  rcases only_icon_is_read (iconRecipe "art/../icon.png") with ⟨read, inside⟩
  constructor
  · apply And.right
    apply read
    intro path again
    rw [found] at again
    cases again
    rfl
  · rcases inside _ found with ⟨icon, given, _, inner, _⟩
    have same : some "art/../icon.png" = some icon := given
    cases same
    exact inner (by decide +kernel)

/-- Manifests may name an icon in another directory, by points or from the root. -/
theorem icon_outside :
    (∃ recipe, ofText "r" ⟨"linux-64", 27, 19⟩
          "package: {name: a, version: 1}\napp: {entry: b, icon: ../up.png}" = .ok recipe ∧
        recipe.iconPath? = .ok (some "r/../up.png") ∧
        (recipe.application Except.ok).map Application.icon = .ok (some "r/../up.png.png") ∧
        ∀ around, ¬Path.IsInside around "r" "r/../up.png") ∧
      ∃ recipe, ofText "r" ⟨"linux-64", 27, 19⟩
          "package: {name: a, version: 1}\napp: {entry: b, icon: /up.png}" = .ok recipe ∧
        recipe.iconPath? = .ok (some "/up.png") ∧
        (recipe.application Except.ok).map Application.icon = .ok (some "/up.png.png") ∧
        ∀ around, ¬Path.IsInside around "r" "/up.png" := by
  constructor
  · have answers : (ofText "r" ⟨"linux-64", 27, 19⟩
          "package: {name: a, version: 1}\napp: {entry: b, icon: ../up.png}").map (fun recipe =>
            (recipe.iconPath?, (recipe.application Except.ok).map Application.icon)) =
        .ok (.ok (some "r/../up.png"), .ok (some "r/../up.png.png")) := by decide +kernel
    rcases exists_of_map_eq_ok answers with ⟨recipe, loaded, both⟩
    rcases Prod.mk.inj both with ⟨path, icon⟩
    refine ⟨recipe, loaded, path, icon, ?_⟩
    intro around inside
    exact lt_irrefl (around.length + 1) inside.length_lt
  · have answers : (ofText "r" ⟨"linux-64", 27, 19⟩
          "package: {name: a, version: 1}\napp: {entry: b, icon: /up.png}").map (fun recipe =>
            (recipe.iconPath?, (recipe.application Except.ok).map Application.icon)) =
        .ok (.ok (some "/up.png"), .ok (some "/up.png.png")) := by decide +kernel
    rcases exists_of_map_eq_ok answers with ⟨recipe, loaded, both⟩
    rcases Prod.mk.inj both with ⟨path, icon⟩
    refine ⟨recipe, loaded, path, icon, ?_⟩
    intro around inside
    have deeper : around.length + 1 < 1 := inside.length_lt
    omega

end PackageRecipe.Recipe
