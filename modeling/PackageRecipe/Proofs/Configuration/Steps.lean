import PackageRecipe.Proofs.Configuration.Sources

/-!
Targets that sources change in place. A target never loses its shape, and a source that
stops leaves behind just what it gave before its fault.
-/

namespace PackageRecipe.Configuration

open Target (IsShaped)

/-- A target after sources have changed it in turn, each as far as it could. -/
def afterAll (sources : List Source) (target : Target) : Target :=
  sources.foldl (fun target source => (source.apply target).1) target

theorem isShaped_over {given : Overrides} {target : Target}
    (givenShaped : ∀ subdir ∈ given.subdir, IsShaped subdir)
    (shaped : IsShaped target.subdir) : IsShaped (given.over target).subdir := by
  rw [Overrides.over]
  cases found : given.subdir with
  | none => exact shaped
  | some subdir => exact givenShaped subdir found

theorem Gives.isShaped {source : Source} {given : Overrides} (gives : Gives source given) :
    ∀ subdir ∈ given.subdir, IsShaped subdir := by
  cases gives with
  | overrides shaped => exact shaped
  | file _ shaped => exact shaped
  | environment _ shaped => exact shaped

theorem Stops.isShaped {source : Source} {error : Error} {given : Overrides}
    (stops : Stops source error given) : ∀ subdir ∈ given.subdir, IsShaped subdir := by
  cases stops with
  | python shaped => exact shaped
  | numpy shaped => exact shaped
  | _ => simp

theorem isShaped_apply (source : Source) {target : Target} (shaped : IsShaped target.subdir) :
    IsShaped (source.apply target).1.subdir := by
  rcases apply_cases source target with ⟨given, gives, applied⟩ | ⟨error, given, stops, applied⟩
  · rw [applied]
    exact isShaped_over gives.isShaped shaped
  · rw [applied]
    exact isShaped_over stops.isShaped shaped

theorem isShaped_afterAll (sources : List Source) {target : Target}
    (shaped : IsShaped target.subdir) : IsShaped (afterAll sources target).subdir := by
  induction sources generalizing target with
  | nil => exact shaped
  | cons source rest induction => exact induction (isShaped_apply source shaped)

/-- Only the environment may give something before its first fault. -/
theorem exists_stops_of_apply {source : Source} {target : Target} {error : Error}
    (failed : (source.apply target).2 = some error) :
    ∃ given, Stops source error given ∧ (source.apply target).1 = given.over target := by
  rcases apply_cases source target with ⟨given, gives, applied⟩ | ⟨first, given, stops, applied⟩
  · rw [applied] at failed
    cases failed
  · rw [applied] at failed ⊢
    cases failed
    exact ⟨given, stops, rfl⟩

/-- From a target that was accepted, sources of any kind, successful or not, lead to targets
with a platform and an architecture, of which the subdir is made up. Overrides and files that
fail change nothing, and an environment that fails changes what it gives before its first
fault. -/
theorem steps_keep_shape {subdir : String} {python numpy : UInt32} {start : Target}
    (created : target subdir python numpy = .ok start) (sources : List Source) :
    let final := afterAll sources start
    (final.platform ≠ "" ∧ '-' ∉ final.platform.toList ∧ final.architecture ≠ "" ∧
      ∃ suffix, suffix ≠ "" ∧ final.subdir = final.platform ++ "-" ++ suffix) ∧
    (∀ given error, ((Source.overrides given).apply final).2 = some error →
      ((Source.overrides given).apply final).1 = final) ∧
    (∀ content error, ((Source.file content).apply final).2 = some error →
      ((Source.file content).apply final).1 = final) ∧
    ∀ values error, ((Source.environment values).apply final).2 = some error →
      ∃ given, Stops (.environment values) error given ∧
        ((Source.environment values).apply final).1 = given.over final := by
  intro final
  rcases target_eq_ok_iff.mp created with ⟨shaped, rfl⟩
  refine ⟨(isShaped_afterAll sources shaped).parts, ?overrides, ?file, ?environment⟩
  case overrides =>
    intro given error failed
    rcases exists_stops_of_apply failed with ⟨before, stops, equal⟩
    rw [equal]
    cases stops
    rfl
  case file =>
    intro content error failed
    rcases exists_stops_of_apply failed with ⟨before, stops, equal⟩
    rw [equal]
    cases stops <;> rfl
  case environment =>
    intro values error failed
    exact exists_stops_of_apply failed

/-- An override that is refused, an environment with a good version and a bad one, and a file
that is not there: only the first two values of the environment are taken. -/
theorem steps_keep_shape_refused :
    let values : Environment := fun name =>
      [(subdirVariable, "linux-armv6l"), (pythonVariable, " +34"), (numpyVariable, "1.9")].lookup
        name
    let sources := [.overrides ⟨some "linux", some 33, none⟩, .environment values,
      .file (.error "missing")]
    let start : Target := ⟨"osx-64", 27, 17⟩
    let final := afterAll sources start
    target "osx-64" 27 17 = .ok start ∧ final = ⟨"linux-armv6l", 34, 17⟩ ∧
      final.platform ≠ "" ∧ final.architecture ≠ "" ∧
      ((Source.overrides ⟨some "-64", none, some 19⟩).apply final).1 = final ∧
      ((Source.environment values).apply start).2 =
        some (.invalidVersion numpyVariable "1.9") ∧
      ∃ given, Stops (.environment values) (.invalidVersion numpyVariable "1.9") given ∧
        ((Source.environment values).apply start).1 = given.over start := by
  intro values sources start final
  have created : target "osx-64" 27 17 = .ok start := by decide +kernel
  have failed : ((Source.environment values).apply start).2 =
      some (.invalidVersion numpyVariable "1.9") := by decide +kernel
  rcases steps_keep_shape created sources with
    ⟨⟨platform, _, architecture, _⟩, overrides, _, _⟩
  rcases steps_keep_shape created [] with ⟨_, _, _, environment⟩
  exact ⟨created, by decide +kernel, platform, architecture,
    overrides ⟨some "-64", none, some 19⟩ (.invalidSubdir "-64") (by decide +kernel), failed,
    environment values _ failed⟩

end PackageRecipe.Configuration
