import PackageRecipe.Proofs.Recipe.RuntimeVersions

/-!
The order of requirements. A summary lists the requirements in an order of its own, but a
build id shows each runtime as it is required first. So recipes that list the same
requirements in different orders have the same build id unless one requires a runtime in
several versions.
-/

namespace PackageRecipe.Recipe

open Requirement (IsFirst)

/-- A recipe requires the same at run time as another, listed in any order, and differs from
it in nothing else. -/
structure IsReorderingOf (recipe listed : Recipe) : Prop where
  target : recipe.target = listed.target
  others : Manifest.AgreeExceptAt [DependencyKind.run.field] listed.manifest recipe.manifest
  texts : (listed.manifest.texts DependencyKind.run.field).Perm
    (recipe.manifest.texts DependencyKind.run.field)

variable {recipe first second : Recipe}

theorem isReorderingOf_withRequirements {requirements : List Requirement}
    (permuted : (recipe.manifest.texts DependencyKind.run.field).Perm
      (requirements.map Requirement.text)) :
    (recipe.withRequirements .run requirements).IsReorderingOf recipe where
  target := rfl
  others := recipe.agreeExceptAt_withRequirements .run requirements
  texts := by
    rw [texts_withRequirements]
    exact permuted

theorem IsReorderingOf.perm_dependencies {requirements others : List Requirement}
    (reordering : second.IsReorderingOf first)
    (resolved : first.dependencies .run = .ok requirements)
    (otherResolved : second.dependencies .run = .ok others) : requirements.Perm others := by
  rw [dependencies_eq_map resolved, dependencies_eq_map otherResolved, reordering.target]
  exact reordering.texts.map _

theorem IsReorderingOf.depends_eq {texts others : List String}
    (reordering : second.IsReorderingOf first) (listed : first.depends = .ok texts)
    (otherListed : second.depends = .ok others) : texts = others := by
  rcases depends_eq_ok_iff.mp listed with ⟨requirements, resolved, permuted, ascending⟩
  rcases depends_eq_ok_iff.mp otherListed with
    ⟨otherRequirements, otherResolved, otherPermuted, otherAscending⟩
  have reordered := (reordering.perm_dependencies resolved otherResolved).map Requirement.text
  exact eq_of_perm_of_ascending (permuted.trans (reordered.trans otherPermuted.symm)) ascending
    otherAscending

/-- In another order the requirements have the same build id exactly if the first requirement
of each runtime shows the same of its version, so in particular if no runtime is required in
several versions. A summary lists them alike in any case. -/
theorem reordering_keeps_identity (reordering : second.IsReorderingOf first) :
    (∀ id other, first.buildId = .ok id → second.buildId = .ok other →
      ∃ requirements others, first.dependencies .run = .ok requirements ∧
        second.dependencies .run = .ok others ∧ requirements.Perm others ∧
          (id = other ↔ ∀ (runtime : Runtime) (requirement counterpart : Requirement),
            IsFirst requirements runtime.name requirement →
              IsFirst others runtime.name counterpart →
                requirement.shown? = counterpart.shown?) ∧
          ((∀ runtime : Runtime, ∀ requirement ∈ requirements, ∀ counterpart ∈ requirements,
            requirement.name = runtime.name → counterpart.name = runtime.name →
              requirement.shown? = counterpart.shown?) → id = other)) ∧
    ∀ digest otherDigest summary other, first.summary digest = .ok summary →
      second.summary otherDigest = .ok other → summary.depends = other.depends := by
  constructor
  · intro id other equal otherEqual
    rcases (parts_of_buildId equal).1 with ⟨requirements, resolved⟩
    rcases (parts_of_buildId otherEqual).1 with ⟨others, otherResolved⟩
    have permuted := reordering.perm_dependencies resolved otherResolved
    have same := buildId_eq_iff resolved otherResolved (fun _ => (permuted.map _).mem_iff)
      (reordering.others "build/number" (by decide)).symm equal otherEqual
    refine ⟨requirements, others, resolved, otherResolved, permuted, same, ?_⟩
    intro unambiguous
    rw [same]
    intro runtime requirement counterpart isFirst otherFirst
    exact unambiguous runtime requirement isFirst.mem counterpart
      (permuted.mem_iff.mpr otherFirst.mem) isFirst.name_eq otherFirst.name_eq
  · intro digest otherDigest summary other equal otherEqual
    exact reordering.depends_eq (summary_eq_ok_iff.mp equal).1
      (summary_eq_ok_iff.mp otherEqual).1

/-- The requirements of the notebook with zlib and python in other places. -/
def reorderedNotebook : Recipe :=
  notebookRecipe.withRequirements .run [⟨"python", "python", 1⟩, ⟨"libgcc 4", "libgcc", 2⟩,
    ⟨"zlib", "zlib", 1⟩, ⟨"zlib", "zlib", 1⟩]

theorem reordering_keeps_identity_notebook :
    reorderedNotebook.IsReorderingOf notebookRecipe ∧
      notebookRecipe.buildId = .ok ⟨"py27_0"⟩ ∧ reorderedNotebook.buildId = .ok ⟨"py27_0"⟩ ∧
      ∃ summary other, notebookRecipe.summary (fun _ => .ok "d41d") = .ok summary ∧
        reorderedNotebook.summary (fun _ => .ok "8cd9") = .ok other ∧
        summary.depends = other.depends := by
  have reordering : reorderedNotebook.IsReorderingOf notebookRecipe := by
    apply isReorderingOf_withRequirements
    decide +kernel
  have equal : notebookRecipe.buildId = .ok ⟨"py27_0"⟩ := rfl
  have resolved : notebookRecipe.dependencies .run = .ok [⟨"zlib", "zlib", 1⟩,
    ⟨"python 2.7*", "python", 2⟩, ⟨"zlib", "zlib", 1⟩, ⟨"libgcc 4", "libgcc", 2⟩] := rfl
  obtain ⟨summary, summed⟩ : ∃ summary,
      notebookRecipe.summary (fun _ => .ok "d41d") = .ok summary := ⟨_, rfl⟩
  obtain ⟨other, otherSummed⟩ : ∃ other,
      reorderedNotebook.summary (fun _ => .ok "8cd9") = .ok other := ⟨_, rfl⟩
  obtain ⟨id, otherEqual⟩ : ∃ id, reorderedNotebook.buildId = .ok id := ⟨_, rfl⟩
  rcases reordering_keeps_identity reordering with ⟨ids, listed⟩
  rcases ids _ id equal otherEqual with ⟨requirements, _, again, _, _, _, unambiguous⟩
  rw [resolved] at again
  cases again
  have same : (⟨"py27_0"⟩ : BuildId) = id := by
    apply unambiguous
    intro runtime
    cases runtime
    · decide +kernel
    · decide +kernel
  rw [← same] at otherEqual
  exact ⟨reordering, equal, otherEqual, summary, other, summed, otherSummed,
    listed _ _ summary other summed otherSummed⟩

/-- Of two versions of numpy the build id shows the one that is listed first. -/
theorem buildId_of_reversed :
    ∃ first second,
      ofText "r" ⟨"linux-64", 27, 19⟩ (runText ["numpy 1.9*", "numpy 1.7*"]) = .ok first ∧
        ofText "r" ⟨"linux-64", 27, 19⟩ (runText ["numpy 1.7*", "numpy 1.9*"]) = .ok second ∧
        second.IsReorderingOf first ∧ first.buildId = .ok ⟨"np19_0"⟩ ∧
        second.buildId = .ok ⟨"np17_0"⟩ := by
  have reordering :
      ((runRecipe ⟨"linux-64", 27, 19⟩ ["numpy 1.9*", "numpy 1.7*"]).withRequirements .run
        [⟨"numpy 1.7*", "numpy", 2⟩, ⟨"numpy 1.9*", "numpy", 2⟩]).IsReorderingOf
          (runRecipe ⟨"linux-64", 27, 19⟩ ["numpy 1.9*", "numpy 1.7*"]) := by
    apply isReorderingOf_withRequirements
    exact List.Perm.swap _ _ _
  exact ⟨runRecipe _ ["numpy 1.9*", "numpy 1.7*"], runRecipe _ ["numpy 1.7*", "numpy 1.9*"],
    by decide +kernel, by decide +kernel, reordering, rfl, rfl⟩

end PackageRecipe.Recipe
