import PackageRecipe.Proofs.Text
import PackageRecipe.Target.Platform

/-!
The shape of a subdir: a platform and a suffix, neither of them empty, with the first
hyphen between them.
-/

namespace PackageRecipe.Target

/-- A subdir has a platform and a suffix. -/
def IsShaped (subdir : String) : Prop :=
  ∃ platform suffix : List Char, platform ≠ [] ∧ suffix ≠ [] ∧ '-' ∉ platform ∧
    subdir.toList = platform ++ '-' :: suffix

theorem parts?_eq_some_iff {subdir : String} {platform suffix : List Char} :
    parts? subdir = some (platform, suffix) ↔
      '-' ∉ platform ∧ subdir.toList = platform ++ '-' :: suffix :=
  Text.splitFirst?_eq_some_iff

theorem isWellFormed_iff {subdir : String} : isWellFormed subdir ↔ IsShaped subdir := by
  rw [isWellFormed]
  constructor
  · intro wellFormed
    split at wellFormed
    next platform suffix parts =>
      rcases parts?_eq_some_iff.mp parts with ⟨absent, equal⟩
      simp only [Bool.and_eq_true, Bool.not_eq_true', List.isEmpty_eq_false_iff] at wellFormed
      exact ⟨platform, suffix, wellFormed.1, wellFormed.2, absent, equal⟩
    · cases wellFormed
  · intro shaped
    rcases shaped with ⟨platform, suffix, platformGiven, suffixGiven, absent, equal⟩
    rw [parts?_eq_some_iff.mpr ⟨absent, equal⟩]
    simp [platformGiven, suffixGiven]

instance : DecidablePred IsShaped := fun _ =>
  decidable_of_iff _ isWellFormed_iff

/-- The two views of a target's subdir show its parts. -/
theorem IsShaped.parts {target : Target} (shaped : IsShaped target.subdir) :
    target.platform ≠ "" ∧ '-' ∉ target.platform.toList ∧ target.architecture ≠ "" ∧
      ∃ suffix, suffix ≠ "" ∧ target.subdir = target.platform ++ "-" ++ suffix := by
  rcases shaped with ⟨platform, suffix, platformGiven, suffixGiven, absent, equal⟩
  have parts := parts?_eq_some_iff.mpr ⟨absent, equal⟩
  have platformEqual : target.platform = String.ofList platform := by
    rw [Target.platform, parts]
  rw [platformEqual, Target.architecture, parts]
  refine ⟨by simpa using platformGiven, by rwa [String.toList_ofList], ?_,
    String.ofList suffix, by simpa using suffixGiven, ?_⟩
  · split
    · decide
    · decide
    next found =>
      cases found
      simpa using suffixGiven
    next impossible => cases impossible
  · apply String.toList_injective
    simp [equal]

end PackageRecipe.Target
