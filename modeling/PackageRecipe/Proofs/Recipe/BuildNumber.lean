import PackageRecipe.Proofs.Binary64
import PackageRecipe.Proofs.Recipe.Tags
import PackageRecipe.Proofs.Text.Numeral
import PackageRecipe.Proofs.Yaml.Equality
import PackageRecipe.Proofs.Yaml.Integers

/-!
The number of a build. It is the number that the manifest gives, whether as an integer, a
float or a numeral, and never another one: floats are exact, and numbers that do not fit in
64 bits are refused. The one exception is the float just at the bound, which counts as the
greatest number.
-/

namespace PackageRecipe

/-- Normalization does not shape the number of the build, so its integers are those of the
document. -/
theorem Manifest.hasShortIntegers_of_read {facts : Facts} {text : String} {manifest : Manifest}
    (read : read facts text = .ok manifest) :
    ((manifest.get? "build/number").getD .null).HasShortIntegers := by
  rcases exists_of_bind_eq_ok read with ⟨selected, _, read⟩
  rcases exists_of_bind_eq_ok read with ⟨document, parsed, normalized⟩
  have short := Document.hasShortIntegers_of_parse (mapError_eq_ok_iff.mp parsed)
  have given : (manifest.get? "build/number").getD .null =
      Field.source document ⟨"build", "number", .text⟩ := by
    rw [← source_of_normalize (mapError_eq_ok_iff.mp normalized) (by decide)]
    have noSlash : '/' ∉ (Field.mk "build" "number" .text).sectionName.toList := by decide
    exact getD_get?_path noSlash
  rw [given, Field.source]
  cases found : ((document.get? "build").bind Yaml.Value.mapping?).bind
      (Yaml.Mapping.get? · "number") with
  | none => exact .null
  | some value =>
      rcases Option.bind_eq_some_iff.mp found with ⟨entries, mapping, entry⟩
      rcases Option.bind_eq_some_iff.mp mapping with ⟨contents, sectionFound, mapping⟩
      exact ((short.of_get? sectionFound).of_mapping? mapping).of_get? entry

namespace Recipe

variable {recipe : Recipe} {number : Nat} {value : Yaml.Value}

inductive IsLoaded : Recipe → Prop
  | text {path text : String} {target : Target} {recipe : Recipe}
      (loaded : ofText path target text = .ok recipe) : IsLoaded recipe
  | directory {files : Files} {path : String} {target : Target} {recipe : Recipe}
      (loaded : load files path target = .ok recipe) : IsLoaded recipe

/-- What the manifest has for the number of the build, without its tags. -/
def givenNumber (recipe : Recipe) : Option Yaml.Value :=
  (recipe.manifest.get? "build/number").map Yaml.Value.untagged

/-- What is given stands for a number: nothing and a null for zero, an integer and a float for
what they are equal to, and a string for what it denotes between blanks. -/
inductive StandsFor : Option Yaml.Value → Nat → Prop
  | absent : StandsFor none 0
  | null : StandsFor (some .null) 0
  | integer (number : Nat) : StandsFor (some (.number (.integer number))) number
  | float {float : Binary64} {number : Nat} (equal : float.rational? = some (number : ℚ)) :
      StandsFor (some (.number (.float float))) number
  | numeral {text : String} {number : Nat}
      (denotes : Text.Denotes (Text.trim text.toList) number) :
      StandsFor (some (.string text)) number

def IsFloatAtBound (given : Option Yaml.Value) : Prop :=
  ∃ float : Binary64, given = some (.number (.float float)) ∧ float.rational? = some (2 ^ 64)

@[simp] theorem standsFor_none_iff : StandsFor none number ↔ number = 0 := by
  constructor
  · rintro ⟨⟩
    rfl
  · rintro rfl
    exact .absent

@[simp] theorem standsFor_some_iff :
    StandsFor (some value) number ↔
      match value with
      | .null => number = 0
      | .number (.integer given) => given = number
      | .number (.float float) => float.rational? = some (number : ℚ)
      | .string text => Text.Denotes (Text.trim text.toList) number
      | _ => False := by
  constructor
  · rintro ⟨⟩
    · rfl
    · rfl
    · assumption
    · assumption
  · intro stands
    split at stands
    · exact stands ▸ .null
    · exact stands ▸ .integer number
    · exact .float stands
    · exact .numeral stands
    · exact stands.elim

theorem IsLoaded.hasShortIntegers (loaded : recipe.IsLoaded)
    (given : recipe.givenNumber = some value) : value.HasShortIntegers := by
  have read : ∃ facts text, Manifest.read facts text = .ok recipe.manifest := by
    cases loaded with
    | text loaded => exact ⟨_, _, (ofText_eq_ok_iff.mp loaded).1⟩
    | directory loaded =>
        rcases exists_ofText_of_load loaded with ⟨text, loaded⟩
        exact ⟨_, _, (ofText_eq_ok_iff.mp loaded).1⟩
  rcases read with ⟨facts, text, read⟩
  have short := Manifest.hasShortIntegers_of_read read
  rcases Option.map_eq_some_iff.mp given with ⟨tagged, found, rfl⟩
  rw [found] at short
  exact short.untagged

/-! ## One value -/

theorem numberBound_eq : numberBound = 2 ^ 64 := rfl

theorem number?_float_eq_some_iff {float : Binary64} :
    number? (.number (.float float)) = some number ↔
      float.rational? = some (number : ℚ) ∧ number < 2 ^ 64 ∨
        float.rational? = some (2 ^ 64) ∧ number = 2 ^ 64 - 1 := by
  have bound : float.rational? = some (2 ^ 64) ↔ float.toNat? = some (2 ^ 64) := by
    rw [Binary64.toNat?_eq_some_iff]
    norm_num
  rw [number?, ← Binary64.toNat?_eq_some_iff, bound]
  cases float.toNat? with
  | none => simp
  | some whole =>
      simp only [Option.bind_eq_bind, Option.bind_some, Option.ite_none_right_eq_some,
        Option.some.injEq]
      rw [numberBound_eq]
      omega

/-- Floats below the bound are exact, and the one at the bound counts as the greatest number. -/
theorem number?_eq_some_iff (short : value.HasShortIntegers) (notNull : value ≠ .null) :
    number? value = some number ↔
      StandsFor (some value) number ∧ number < 2 ^ 64 ∨
        IsFloatAtBound (some value) ∧ number = 2 ^ 64 - 1 := by
  cases value with
  | null => exact absurd rfl notNull
  | boolean | sequence | mapping | tagged => simp [number?, IsFloatAtBound]
  | string text =>
      simp [number?, IsFloatAtBound, Text.readUnsigned?_eq_some_iff, numberBound_eq]
  | number value =>
      cases value with
      | integer value =>
          cases short with
          | integer _ high =>
              simp only [number?, standsFor_some_iff, IsFloatAtBound, reduceCtorEq,
                Option.ite_none_right_eq_some, Option.some.injEq, Yaml.Value.number.injEq,
                false_and, exists_false, or_false]
              omega
      | float float =>
          rw [number?_float_eq_some_iff]
          simp [IsFloatAtBound]

/-! ## Recipes -/

theorem buildNumber_of_nothing
    (nothing : recipe.givenNumber = none ∨ recipe.givenNumber = some .null) :
    recipe.buildNumber = .ok 0 := by
  rw [givenNumber] at nothing
  rcases nothing with given | given
  · rw [buildNumber, given]
  · rw [buildNumber, given]

theorem buildNumber_of_given (given : recipe.givenNumber = some value)
    (notNull : value ≠ .null) :
    recipe.buildNumber =
      match number? value with
      | some number => .ok number
      | none => .error (.invalidNumber recipe.manifestPath (shownNumber value)) := by
  rw [givenNumber] at given
  rw [buildNumber, given]
  cases value with
  | null => exact absurd rfl notNull
  | _ => rfl

theorem buildNumber_eq_ok_iff (loaded : recipe.IsLoaded) :
    recipe.buildNumber = .ok number ↔
      StandsFor recipe.givenNumber number ∧ number < 2 ^ 64 ∨
        IsFloatAtBound recipe.givenNumber ∧ number = 2 ^ 64 - 1 := by
  cases given : recipe.givenNumber with
  | none =>
      simp only [buildNumber_of_nothing (.inl given), IsFloatAtBound, Except.ok.injEq,
        standsFor_none_iff, reduceCtorEq, false_and, exists_false, or_false]
      omega
  | some value =>
      by_cases null : value = .null
      · rw [null] at given
        simp only [null, buildNumber_of_nothing (.inr given), IsFloatAtBound, Except.ok.injEq,
          standsFor_some_iff, Option.some.injEq, reduceCtorEq, false_and, exists_false, or_false]
        omega
      · rw [buildNumber_of_given given null,
          ← number?_eq_some_iff (loaded.hasShortIntegers given) null]
        cases number? value <;> simp

theorem exists_of_buildNumber_eq_error {error : Error}
    (fails : recipe.buildNumber = .error error) :
    ∃ value, recipe.givenNumber = some value ∧
      error = .invalidNumber recipe.manifestPath (shownNumber value) := by
  rw [buildNumber] at fails
  split at fails
  · cases fails
  · cases fails
  next value _ given =>
    split at fails
    · cases fails
    · cases fails
      exact ⟨value, given, rfl⟩

/-- The number of the build is the number below `2 ^ 64` that is given for it, and zero if none
is given. Only the float `2 ^ 64` counts as another number, the greatest one. Whatever else is
given is refused as an invalid number. -/
theorem buildNumber_exact (loaded : recipe.IsLoaded) :
    (∀ number, recipe.buildNumber = .ok number ↔
      StandsFor recipe.givenNumber number ∧ number < 2 ^ 64 ∨
        IsFloatAtBound recipe.givenNumber ∧ number = 2 ^ 64 - 1) ∧
    ∀ error, recipe.buildNumber = .error error ↔
      (∀ number, StandsFor recipe.givenNumber number → 2 ^ 64 ≤ number) ∧
        ¬IsFloatAtBound recipe.givenNumber ∧
        ∃ value, recipe.givenNumber = some value ∧
          error = .invalidNumber recipe.manifestPath (shownNumber value) := by
  refine ⟨fun number => buildNumber_eq_ok_iff loaded, ?_⟩
  intro error
  constructor
  · intro fails
    refine ⟨?_, ?_, exists_of_buildNumber_eq_error fails⟩
    · intro number stands
      by_contra small
      have found := (buildNumber_eq_ok_iff loaded).mpr (.inl ⟨stands, Nat.lt_of_not_le small⟩)
      rw [fails] at found
      cases found
    · intro atBound
      have found := (buildNumber_eq_ok_iff loaded).mpr (.inr ⟨atBound, rfl⟩)
      rw [fails] at found
      cases found
  · rintro ⟨large, notAtBound, value, given, rfl⟩
    cases result : recipe.buildNumber with
    | ok number =>
        rcases (buildNumber_eq_ok_iff loaded).mp result with ⟨stands, small⟩ | ⟨atBound, _⟩
        · exact absurd (large number stands) (Nat.not_le_of_lt small)
        · exact absurd atBound notAtBound
    | error error =>
        rcases exists_of_buildNumber_eq_error result with ⟨other, same, rfl⟩
        cases given.symm.trans same
        rfl

def numberText (number : String) : String :=
  "package: {name: a, version: 1}\nbuild:\n  number: " ++ number

theorem exists_of_numbers {text : String} {given : Option Yaml.Value}
    {result : Except Error Nat}
    (equal : ((ofText "r" ⟨"linux-64", 27, 19⟩ text).map fun recipe =>
      (recipe.givenNumber, recipe.buildNumber)) = .ok (given, result)) :
    ∃ recipe, ofText "r" ⟨"linux-64", 27, 19⟩ text = .ok recipe ∧
      recipe.givenNumber = given ∧ recipe.buildNumber = result := by
  rcases exists_of_map_eq_ok equal with ⟨recipe, loaded, same⟩
  cases same
  exact ⟨recipe, loaded, rfl, rfl⟩

/-- A float under a tag is the number that it is equal to, and a negative integer is refused. -/
theorem buildNumber_exact_tagged :
    (∃ recipe, ofText "r" ⟨"linux-64", 27, 19⟩ (numberText "!t 3.0") = .ok recipe ∧
      recipe.buildNumber = .ok 3) ∧
    ∃ recipe, ofText "r" ⟨"linux-64", 27, 19⟩ (numberText "-1") = .ok recipe ∧
      recipe.buildNumber = .error (.invalidNumber "r/meta.yaml" "-1") := by
  constructor
  · have answers : ((ofText "r" ⟨"linux-64", 27, 19⟩ (numberText "!t 3.0")).map fun recipe =>
        (recipe.givenNumber, recipe.buildNumber)) =
        .ok (some (.number (.float (.finite false (3 * 2 ^ 51) (-51)))), .ok 3) := by
      decide +kernel
    rcases exists_of_numbers answers with ⟨recipe, loaded, given, _⟩
    have equal : Binary64.rational? (.finite false (3 * 2 ^ 51) (-51)) = some ((3 : ℕ) : ℚ) := by
      norm_num [Binary64.rational?]
    refine ⟨recipe, loaded, (buildNumber_exact (.text loaded)).1 3 |>.mpr (.inl ⟨?_, ?_⟩)⟩
    · rw [given]
      exact .float equal
    · decide
  · have answers : ((ofText "r" ⟨"linux-64", 27, 19⟩ (numberText "-1")).map fun recipe =>
        (recipe.givenNumber, recipe.manifestPath)) =
        .ok (some (.number (.integer (-1))), "r/meta.yaml") := by
      decide +kernel
    rcases exists_of_map_eq_ok answers with ⟨recipe, loaded, same⟩
    simp only [Prod.mk.injEq] at same
    refine ⟨recipe, loaded, (buildNumber_exact (.text loaded)).2 _ |>.mpr ⟨?_, ?_, ?_⟩⟩
    · rw [same.1]
      intro number stands
      have negative := standsFor_some_iff.mp stands
      simp only at negative
      omega
    · rw [same.1]
      rintro ⟨_, ⟨⟩, _⟩
    · exact ⟨_, same.1, by rw [same.2]; rfl⟩

/-- The float `2 ^ 64` is not refused, though it is too large, and is taken for a smaller
number. -/
theorem buildNumber_at_bound :
    ∃ recipe float, ofText "r" ⟨"linux-64", 27, 19⟩ (numberText "1.8446744073709552e19") =
        .ok recipe ∧
      recipe.givenNumber = some (.number (.float float)) ∧ float.rational? = some (2 ^ 64) ∧
      recipe.buildNumber = .ok (2 ^ 64 - 1) := by
  have answers : ((ofText "r" ⟨"linux-64", 27, 19⟩ (numberText "1.8446744073709552e19")).map
        fun recipe => (recipe.givenNumber, recipe.buildNumber)) =
      .ok (some (.number (.float (.finite false (2 ^ 52) 12))), .ok (2 ^ 64 - 1)) := by
    decide +kernel
  rcases exists_of_numbers answers with ⟨recipe, loaded, given, found⟩
  have equal : Binary64.rational? (.finite false (2 ^ 52) 12) = some (2 ^ 64) := by
    norm_num [Binary64.rational?]
  exact ⟨recipe, _, loaded, given, equal, found⟩

end Recipe

end PackageRecipe
