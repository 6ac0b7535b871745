import PackageRecipe.Configuration
import PackageRecipe.Proofs.Outcome
import PackageRecipe.Proofs.Target.Platform
import PackageRecipe.Proofs.Text.Numeral

/-!
Sources of settings. A source changes a target in all the parts that it gives, or stops at
the first value that is no good. In a row of sources the last one that gives a part decides
on it, and the first fault in any of them is the error of them all.
-/

namespace PackageRecipe.Configuration

open Target (IsShaped)

/-! ## Values -/

/-- A text in the environment stands for a version. -/
def IsVersion (value : String) (number : UInt32) : Prop :=
  Text.Denotes (Text.trim value.toList) number.toNat

theorem version_eq_ok_iff {variableName value : String} {number : UInt32} :
    version variableName value = .ok number ↔ IsVersion value number := by
  have read : Text.readUnsigned? versionBound (Text.trim value.toList) = some number.toNat ↔
      IsVersion value number := by
    rw [Text.readUnsigned?_eq_some_iff]
    exact and_iff_left number.toNat_lt
  rw [← read, version]
  cases found : Text.readUnsigned? versionBound (Text.trim value.toList) with
  | none => simp
  | some other =>
      have small : other < UInt32.size := (Text.readUnsigned?_eq_some_iff.mp found).2
      rw [Except.ok.injEq, Option.some.injEq]
      constructor
      · rintro rfl
        exact (UInt32.toNat_ofNat_of_lt small).symm
      · rintro rfl
        exact UInt32.ofNat_toNat

def HasVersion (value : String) : Prop :=
  ∃ number, IsVersion value number

theorem version_eq_error_iff {variableName value : String} {error : Error} :
    version variableName value = .error error ↔
      ¬HasVersion value ∧ error = .invalidVersion variableName value := by
  have read : (∃ number, version variableName value = .ok number) ↔ HasVersion value :=
    exists_congr fun _ => version_eq_ok_iff
  rw [← read, version]
  cases Text.readUnsigned? versionBound (Text.trim value.toList) <;> simp [eq_comm]

instance : DecidablePred HasVersion := fun value =>
  match read : version "" value with
  | .ok number => isTrue ⟨number, version_eq_ok_iff.mp read⟩
  | .error _ => isFalse (version_eq_error_iff.mp read).1

theorem target_eq_ok_iff {subdir : String} {python numpy : UInt32} {created : Target} :
    target subdir python numpy = .ok created ↔
      IsShaped subdir ∧ created = ⟨subdir, python, numpy⟩ := by
  rw [← Target.isWellFormed_iff, target, checkSubdir]
  split <;> simp [eq_comm, *]

theorem assignSubdir_of_isShaped {subdir : String} (shaped : IsShaped subdir) :
    assignSubdir subdir = .ok (.subdir subdir) := by
  rw [assignSubdir, checkSubdir, if_pos (Target.isWellFormed_iff.mpr shaped)]
  rfl

theorem assignSubdir_of_not_isShaped {subdir : String} (notShaped : ¬IsShaped subdir) :
    assignSubdir subdir = .error (.invalidSubdir subdir) := by
  rw [assignSubdir, checkSubdir, if_neg fun wellFormed => notShaped
    (Target.isWellFormed_iff.mp wellFormed)]
  rfl

/-! ## What a source gives, and what is wrong in it -/

def Overrides.over (given : Overrides) (target : Target) : Target :=
  ⟨given.subdir.getD target.subdir, given.python.getD target.python,
    given.numpy.getD target.numpy⟩

/-- What a source in which nothing is wrong gives. -/
inductive Gives : Source → Overrides → Prop
  | overrides {given : Overrides} (shaped : ∀ subdir ∈ given.subdir, IsShaped subdir) :
      Gives (.overrides given) given
  | file {text : String} {given : Overrides} (parsed : fileOverrides text = .ok given)
      (shaped : ∀ subdir ∈ given.subdir, IsShaped subdir) : Gives (.file (.ok text)) given
  | environment {values : Environment} {given : Overrides}
      (subdir : given.subdir = values subdirVariable)
      (shaped : ∀ subdir ∈ given.subdir, IsShaped subdir)
      (python : Option.Rel IsVersion (values pythonVariable) given.python)
      (numpy : Option.Rel IsVersion (values numpyVariable) given.numpy) :
      Gives (.environment values) given

/-- The first fault in a source, and what the source gives before it. -/
inductive Stops : Source → Error → Overrides → Prop
  | overrides {given : Overrides} {subdir : String} (found : given.subdir = some subdir)
      (notShaped : ¬IsShaped subdir) :
      Stops (.overrides given) (.invalidSubdir subdir) ⟨none, none, none⟩
  | unreadable (reason : String) :
      Stops (.file (.error reason)) (.unreadable reason) ⟨none, none, none⟩
  | malformed {text : String} {error : Error} (unparsed : fileOverrides text = .error error) :
      Stops (.file (.ok text)) error ⟨none, none, none⟩
  | file {text : String} {given : Overrides} {subdir : String}
      (parsed : fileOverrides text = .ok given) (found : given.subdir = some subdir)
      (notShaped : ¬IsShaped subdir) :
      Stops (.file (.ok text)) (.invalidSubdir subdir) ⟨none, none, none⟩
  | subdir {values : Environment} {subdir : String}
      (found : values subdirVariable = some subdir) (notShaped : ¬IsShaped subdir) :
      Stops (.environment values) (.invalidSubdir subdir) ⟨none, none, none⟩
  | python {values : Environment} {value : String}
      (shaped : ∀ subdir ∈ values subdirVariable, IsShaped subdir)
      (found : values pythonVariable = some value)
      (noVersion : ¬HasVersion value) :
      Stops (.environment values) (.invalidVersion pythonVariable value)
        ⟨values subdirVariable, none, none⟩
  | numpy {values : Environment} {python : Option UInt32} {value : String}
      (shaped : ∀ subdir ∈ values subdirVariable, IsShaped subdir)
      (pythonRead : Option.Rel IsVersion (values pythonVariable) python)
      (found : values numpyVariable = some value)
      (noVersion : ¬HasVersion value) :
      Stops (.environment values) (.invalidVersion numpyVariable value)
        ⟨values subdirVariable, python, none⟩

/-! ## Steps of a source -/

variable {target : Target}

theorem assignAll_subdir (value : Option String) (rest : Layer) (target : Target) :
    ((∀ subdir ∈ value, IsShaped subdir) ∧
      assignAll (layerOf assignSubdir value ++ rest) target =
        assignAll rest { target with subdir := value.getD target.subdir }) ∨
    ∃ subdir, value = some subdir ∧ ¬IsShaped subdir ∧
      assignAll (layerOf assignSubdir value ++ rest) target =
        (target, some (.invalidSubdir subdir)) := by
  cases value with
  | none => exact .inl ⟨by simp, rfl⟩
  | some subdir =>
      have layer : layerOf assignSubdir (some subdir) = [assignSubdir subdir] := rfl
      rw [layer]
      by_cases shaped : IsShaped subdir
      · rw [assignSubdir_of_isShaped shaped]
        exact .inl ⟨by simpa using shaped, rfl⟩
      · rw [assignSubdir_of_not_isShaped shaped]
        exact .inr ⟨subdir, rfl, shaped, rfl⟩

theorem assignAll_version (place : UInt32 → Assignment) (variableName : String)
    (value : Option String) (rest : Layer) (target : Target) :
    (∃ given, Option.Rel IsVersion value given ∧
      assignAll (layerOf (fun value => return place (← version variableName value)) value ++ rest)
          target =
        assignAll rest (given.elim target fun number => (place number).apply target)) ∨
    ∃ text, value = some text ∧ ¬HasVersion text ∧
      assignAll (layerOf (fun value => return place (← version variableName value)) value ++ rest)
          target =
        (target, some (.invalidVersion variableName text)) := by
  cases value with
  | none => exact .inl ⟨none, .none, rfl⟩
  | some text =>
      cases read : version variableName text with
      | ok number =>
          refine .inl ⟨some number, .some (version_eq_ok_iff.mp read), ?_⟩
          simp [layerOf, read, assignAll]
      | error error =>
          rcases version_eq_error_iff.mp read with ⟨noVersion, rfl⟩
          refine .inr ⟨text, rfl, noVersion, ?_⟩
          simp [layerOf, read, assignAll]

theorem assignAll_number (place : UInt32 → Assignment) (value : Option UInt32) (rest : Layer)
    (target : Target) :
    assignAll (layerOf (fun value => .ok (place value)) value ++ rest) target =
      assignAll rest (value.elim target fun number => (place number).apply target) := by
  cases value <;> rfl

/-- Overrides are made all or, if the subdir is no good, not at all. -/
theorem assignAll_overrides (given : Overrides) (target : Target) :
    ((∀ subdir ∈ given.subdir, IsShaped subdir) ∧
      assignAll given.layer target = (given.over target, none)) ∨
    ∃ subdir, given.subdir = some subdir ∧ ¬IsShaped subdir ∧
      assignAll given.layer target = (target, some (.invalidSubdir subdir)) := by
  rw [Overrides.layer, List.append_assoc, ← List.append_nil (layerOf _ given.numpy)]
  rcases assignAll_subdir given.subdir _ target with ⟨shaped, assigned⟩ | refused
  · refine .inl ⟨shaped, ?_⟩
    rw [assigned, assignAll_number, assignAll_number]
    rcases given with ⟨subdir, python, numpy⟩
    cases python <;> cases numpy <;> rfl
  · exact .inr refused

theorem apply_cases (source : Source) (target : Target) :
    (∃ given, Gives source given ∧ source.apply target = (given.over target, none)) ∨
      ∃ error given, Stops source error given ∧
        source.apply target = (given.over target, some error) := by
  cases source with
  | overrides given =>
      rcases assignAll_overrides given target with ⟨shaped, assigned⟩ | refused
      · exact .inl ⟨given, .overrides shaped, assigned⟩
      · rcases refused with ⟨subdir, found, notShaped, stopped⟩
        exact .inr ⟨_, _, .overrides found notShaped, stopped⟩
  | file content =>
      cases content with
      | error reason => exact .inr ⟨_, _, .unreadable reason, rfl⟩
      | ok text =>
          rw [Source.apply, Source.layer]
          cases parsed : fileOverrides text with
          | error error => exact .inr ⟨error, _, .malformed parsed, rfl⟩
          | ok given =>
              rcases assignAll_overrides given target with ⟨shaped, assigned⟩ | refused
              · exact .inl ⟨given, .file parsed shaped, assigned⟩
              · rcases refused with ⟨subdir, found, notShaped, stopped⟩
                exact .inr ⟨_, _, .file parsed found notShaped, stopped⟩
  | environment values =>
      rw [Source.apply, Source.layer, environmentLayer, List.append_assoc,
        ← List.append_nil (layerOf _ (values numpyVariable))]
      let withSubdir : Target :=
        { target with subdir := (values subdirVariable).getD target.subdir }
      rcases assignAll_subdir (values subdirVariable) _ target with ⟨shaped, assigned⟩ | refused
      · rw [assigned]
        rcases assignAll_version .python pythonVariable (values pythonVariable) _ withSubdir with
          ⟨python, pythonRead, assigned⟩ | refused
        · let withPython : Target :=
            python.elim withSubdir fun number => (Assignment.python number).apply withSubdir
          rw [assigned]
          rcases assignAll_version .numpy numpyVariable (values numpyVariable) [] withPython with
            ⟨numpy, numpyRead, assigned⟩ | refused
          · rw [assigned]
            refine .inl ⟨⟨values subdirVariable, python, numpy⟩,
              .environment rfl shaped pythonRead numpyRead, ?_⟩
            cases python <;> cases numpy <;> rfl
          · rcases refused with ⟨value, found, noVersion, stopped⟩
            rw [stopped]
            refine .inr ⟨_, _, .numpy shaped pythonRead found noVersion, ?_⟩
            cases python <;> rfl
        · rcases refused with ⟨value, found, noVersion, stopped⟩
          exact .inr ⟨_, _, .python shaped found noVersion, stopped⟩
      · rcases refused with ⟨subdir, found, notShaped, stopped⟩
        exact .inr ⟨_, _, .subdir found notShaped, stopped⟩

/-! ## Faults -/

/-- The fault of a value: none, if it is good or is not given. -/
def faultOf {α : Type} (isGood : α → Prop) [DecidablePred isGood] (fault : α → Error)
    (value : Option α) : List Error :=
  ((value.filter fun found => ¬isGood found).map fault).toList

/-- All faults of a source, in the order in which it is read. -/
def Source.faults : Source → List Error
  | .overrides given => faultOf IsShaped .invalidSubdir given.subdir
  | .file (.error reason) => [.unreadable reason]
  | .file (.ok text) =>
      match fileOverrides text with
      | .ok given => faultOf IsShaped .invalidSubdir given.subdir
      | .error error => [error]
  | .environment values =>
      faultOf IsShaped .invalidSubdir (values subdirVariable) ++
        faultOf HasVersion (.invalidVersion pythonVariable) (values pythonVariable) ++
        faultOf HasVersion (.invalidVersion numpyVariable) (values numpyVariable)

section FaultOf

variable {α : Type} {isGood : α → Prop} [DecidablePred isGood] {fault : α → Error}
  {value : Option α}

theorem faultOf_of_good (good : ∀ found ∈ value, isGood found) :
    faultOf isGood fault value = [] := by
  cases value with
  | none => rfl
  | some found => simp [faultOf, good found rfl]

theorem faultOf_of_bad {found : α} (given : value = some found) (bad : ¬isGood found) :
    faultOf isGood fault value = [fault found] := by
  simp [faultOf, given, bad]

theorem mem_faultOf_iff {error : Error} :
    error ∈ faultOf isGood fault value ↔
      ∃ found, value = some found ∧ ¬isGood found ∧ fault found = error := by
  rw [faultOf, Option.mem_toList, Option.map_eq_some_iff]
  simp only [Option.filter_eq_some_iff, decide_eq_true_eq, and_assoc]

end FaultOf

theorem hasVersion_of_rel {value : Option String} {given : Option UInt32}
    (read : Option.Rel IsVersion value given) : ∀ text ∈ value, HasVersion text := by
  cases read with
  | none => simp
  | some isVersion => simpa using ⟨_, isVersion⟩

theorem Gives.faults_eq_nil {source : Source} {given : Overrides} (gives : Gives source given) :
    source.faults = [] := by
  cases gives with
  | overrides shaped => exact faultOf_of_good shaped
  | file parsed shaped =>
      rw [Source.faults, parsed]
      exact faultOf_of_good shaped
  | environment subdir shaped python numpy =>
      rw [subdir] at shaped
      rw [Source.faults, faultOf_of_good shaped, faultOf_of_good (hasVersion_of_rel python),
        faultOf_of_good (hasVersion_of_rel numpy)]
      rfl

theorem Stops.head?_faults {source : Source} {error : Error} {given : Overrides}
    (stops : Stops source error given) : source.faults.head? = some error := by
  cases stops with
  | overrides found notShaped => rw [Source.faults, faultOf_of_bad found notShaped, List.head?_cons]
  | unreadable reason => rfl
  | malformed unparsed => rw [Source.faults, unparsed, List.head?_cons]
  | file parsed found notShaped =>
      rw [Source.faults, parsed]
      exact congrArg List.head? (faultOf_of_bad found notShaped)
  | subdir found notShaped =>
      rw [Source.faults, faultOf_of_bad found notShaped]
      rfl
  | python shaped found noVersion =>
      rw [Source.faults, faultOf_of_good shaped, faultOf_of_bad found noVersion]
      rfl
  | numpy shaped pythonRead found noVersion =>
      rw [Source.faults, faultOf_of_good shaped, faultOf_of_good (hasVersion_of_rel pythonRead),
        faultOf_of_bad found noVersion]
      rfl

theorem fileOverrides_eq_error {text : String} {error : Error}
    (fails : fileOverrides text = .error error) : error = .malformed := by
  rw [fileOverrides] at fails
  split at fails <;> cases fails
  rfl

/-- A version that is no good is in one of the two variables for versions. -/
theorem variableName_of_mem_faults {source : Source} {name value : String}
    (member : .invalidVersion name value ∈ source.faults) :
    name = pythonVariable ∨ name = numpyVariable := by
  cases source with
  | overrides given =>
      rcases mem_faultOf_iff.mp member with ⟨subdir, _, _, equal⟩
      cases equal
  | file content =>
      cases content with
      | error reason =>
          cases List.mem_singleton.mp member
      | ok text =>
          rw [Source.faults] at member
          cases parsed : fileOverrides text with
          | ok given =>
              rw [parsed] at member
              rcases mem_faultOf_iff.mp member with ⟨subdir, _, _, equal⟩
              cases equal
          | error error =>
              rw [parsed, fileOverrides_eq_error parsed] at member
              cases List.mem_singleton.mp member
  | environment values =>
      rw [Source.faults, List.mem_append, List.mem_append, mem_faultOf_iff, mem_faultOf_iff,
        mem_faultOf_iff] at member
      rcases member with (⟨_, _, _, equal⟩ | ⟨_, _, _, equal⟩) | ⟨_, _, _, equal⟩
      · cases equal
      · exact .inl (Error.invalidVersion.inj equal).1.symm
      · exact .inr (Error.invalidVersion.inj equal).1.symm

end PackageRecipe.Configuration
