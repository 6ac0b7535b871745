import Mathlib.Data.List.Forall2

/-!
Results that may be errors: how steps follow each other, and what they have done when
all succeed. A list is gone through up to the first item that has an error. What each step of
a computation over a state ensures, the computation ensures.
-/

namespace PackageRecipe

@[simp] theorem ok_bind {ε α β : Type} (value : α) (next : α → Except ε β) :
    (Except.ok value >>= next) = next value := rfl

@[simp] theorem error_bind {ε α β : Type} (error : ε) (next : α → Except ε β) :
    (Except.error error >>= next) = .error error := rfl

theorem exists_of_bind_eq_ok {ε α β : Type} {result : Except ε α}
    {next : α → Except ε β} {value : β} (equal : result >>= next = .ok value) :
    ∃ between, result = .ok between ∧ next between = .ok value := by
  cases result with
  | error _ => cases equal
  | ok between => exact ⟨between, rfl, equal⟩

/-- A step fails, or those after it do. -/
theorem eq_error_or_of_bind_eq_error {ε α β : Type} {result : Except ε α}
    {next : α → Except ε β} {error : ε} (equal : result >>= next = .error error) :
    result = .error error ∨ ∃ between, result = .ok between ∧ next between = .error error := by
  cases result with
  | error first => exact .inl (congrArg Except.error (Except.error.inj equal))
  | ok between => exact .inr ⟨between, rfl, equal⟩

/-- If what follows a step cannot fail, the step does. -/
theorem eq_error_of_bind_eq_error {ε α β : Type} {result : Except ε α} {next : α → Except ε β}
    {error : ε} (succeeds : ∀ between, ∃ value, next between = .ok value)
    (equal : result >>= next = .error error) : result = .error error := by
  rcases eq_error_or_of_bind_eq_error equal with fails | ⟨between, _, nextFails⟩
  · exact fails
  · rcases succeeds between with ⟨value, found⟩
    rw [found] at nextFails
    cases nextFails

/-- Results with the same values, whatever their errors are, have the same values after a step. -/
theorem bind_eq_ok_congr {ε α β : Type} {result other : Except ε α}
    (alike : ∀ between, result = .ok between ↔ other = .ok between)
    {next : α → Except ε β} {value : β} :
    result >>= next = .ok value ↔ other >>= next = .ok value := by
  constructor
  · intro equal
    rcases exists_of_bind_eq_ok equal with ⟨between, found, nextEqual⟩
    rw [(alike between).mp found, ok_bind, nextEqual]
  · intro equal
    rcases exists_of_bind_eq_ok equal with ⟨between, found, nextEqual⟩
    rw [(alike between).mpr found, ok_bind, nextEqual]

theorem exists_eq_ok_iff {ε α : Type} {result : Except ε α} :
    (∃ value, result = .ok value) ↔ ∀ error, result ≠ .error error := by
  cases result <;> simp

theorem eq_ok_iff_toOption_eq_some {ε α : Type} {result : Except ε α} {value : α} :
    result = .ok value ↔ result.toOption = some value := by
  cases result <;> simp [Except.toOption]

theorem toOption_map {ε α β : Type} (change : α → β) (result : Except ε α) :
    (result.map change).toOption = result.toOption.map change := by
  cases result <;> rfl

theorem exists_of_map_eq_ok {ε α β : Type} {result : Except ε α} {change : α → β} {value : β}
    (equal : result.map change = .ok value) :
    ∃ former, result = .ok former ∧ change former = value := by
  cases result with
  | error _ => cases equal
  | ok former => exact ⟨former, rfl, Except.ok.inj equal⟩

theorem mapError_eq_ok_iff {ε ε' α : Type} {result : Except ε α} {translate : ε → ε'}
    {value : α} : result.mapError translate = .ok value ↔ result = .ok value := by
  cases result <;> simp [Except.mapError]

theorem mapError_eq_error_iff {ε ε' α : Type} {result : Except ε α} {translate : ε → ε'}
    {error : ε'} :
    result.mapError translate = .error error ↔
      ∃ cause, result = .error cause ∧ error = translate cause := by
  cases result <;> simp [Except.mapError, eq_comm]

section Traversal

variable {ε α β : Type} {step : α → Except ε β}

theorem mapM_cons_of_error {head : α} {error : ε} (fails : step head = .error error)
    (tail : List α) : (head :: tail).mapM step = .error error := by
  rw [List.mapM_cons, fails, error_bind]

theorem mapM_eq_ok_iff {items : List α} {results : List β} :
    items.mapM step = .ok results ↔
      List.Forall₂ (fun item result => step item = .ok result) items results := by
  induction items generalizing results with
  | nil =>
      rw [List.mapM_nil, List.forall₂_nil_left_iff]
      exact ⟨fun equal => (Except.ok.inj equal).symm, fun equal => congrArg Except.ok equal.symm⟩
  | cons head tail induction =>
      rw [List.mapM_cons]
      constructor
      · intro equal
        rcases exists_of_bind_eq_ok equal with ⟨result, headEqual, rest⟩
        rcases exists_of_bind_eq_ok rest with ⟨others, tailEqual, equal⟩
        cases equal
        exact .cons headEqual (induction.mp tailEqual)
      · intro pairs
        cases pairs with
        | cons headEqual tailPairs =>
            rw [headEqual, ok_bind, induction.mpr tailPairs]
            rfl

theorem exists_mapM_eq_ok_iff {items : List α} :
    (∃ results, items.mapM step = .ok results) ↔
      ∀ item ∈ items, ∃ result, step item = .ok result := by
  simp only [mapM_eq_ok_iff]
  constructor
  · intro found
    rcases found with ⟨results, pairs⟩
    induction pairs with
    | nil => exact List.forall_mem_nil _
    | cons headEqual _ induction =>
        exact List.forall_mem_cons.mpr ⟨⟨_, headEqual⟩, induction⟩
  · intro each
    induction items with
    | nil => exact ⟨[], .nil⟩
    | cons head tail induction =>
        rw [List.forall_mem_cons] at each
        rcases each.1 with ⟨result, headEqual⟩
        rcases induction each.2 with ⟨results, pairs⟩
        exact ⟨result :: results, .cons headEqual pairs⟩

/-- Lists have the same results if their items have, one by one. -/
theorem mapM_eq_ok_iff_of_forall₂ {items others : List α} {results : List β}
    (alike : List.Forall₂ (fun item other =>
      ∀ result, step item = .ok result ↔ step other = .ok result) items others) :
    items.mapM step = .ok results ↔ others.mapM step = .ok results := by
  rw [mapM_eq_ok_iff, mapM_eq_ok_iff]
  induction alike generalizing results with
  | nil => rfl
  | cons headAlike _ induction =>
      rw [List.forall₂_cons_left_iff, List.forall₂_cons_left_iff]
      simp only [headAlike, induction]

/-- The error is that of the first item that has one. -/
theorem mapM_eq_error_iff {items : List α} {error : ε} :
    items.mapM step = .error error ↔
      ∃ before item after, items = before ++ item :: after ∧
        (∀ other ∈ before, ∃ result, step other = .ok result) ∧ step item = .error error := by
  induction items with
  | nil =>
      rw [List.mapM_nil]
      constructor
      · intro equal
        cases equal
      · intro found
        rcases found with ⟨before, item, after, equal, _⟩
        simp at equal
  | cons head tail induction =>
      constructor
      · intro equal
        cases headEqual : step head with
        | error cause =>
            rw [mapM_cons_of_error headEqual] at equal
            cases equal
            exact ⟨[], head, tail, rfl, List.forall_mem_nil _, headEqual⟩
        | ok result =>
            rw [List.mapM_cons, headEqual, ok_bind] at equal
            have tailFails := eq_error_of_bind_eq_error (fun _ => ⟨_, rfl⟩) equal
            rcases induction.mp tailFails with ⟨before, item, after, rfl, earlier, fails⟩
            exact ⟨head :: before, item, after, rfl,
              List.forall_mem_cons.mpr ⟨⟨result, headEqual⟩, earlier⟩, fails⟩
      · intro found
        rcases found with ⟨before, item, after, equal, earlier, fails⟩
        cases before with
        | nil =>
            cases equal
            exact mapM_cons_of_error fails tail
        | cons first others =>
            cases equal
            rw [List.forall_mem_cons] at earlier
            rcases earlier.1 with ⟨result, headEqual⟩
            have tailFails := induction.mpr ⟨others, item, after, rfl, earlier.2, fails⟩
            rw [List.mapM_cons, headEqual, ok_bind, tailFails, error_bind]

end Traversal

/-! ## Computations over a state -/

/-- Every value that a computation ends with has a property, whatever state it starts from. -/
def Ensures {σ ε α : Type} (holds : α → Prop) (computation : StateT σ (Except ε) α) : Prop :=
  ∀ before value after, computation.run before = .ok (value, after) → holds value

namespace Ensures

variable {σ ε α β : Type} {holds : α → Prop} {later : β → Prop}

theorem pure {value : α} (has : holds value) :
    Ensures holds (Pure.pure value : StateT σ (Except ε) α) := by
  intro before result after equal
  cases equal
  exact has

theorem lift {result : Except ε α} (has : ∀ value, result = .ok value → holds value) :
    Ensures holds (liftM result : StateT σ (Except ε) α) := by
  intro before value after equal
  rcases exists_of_bind_eq_ok equal with ⟨found, resultEqual, pairEqual⟩
  cases pairEqual
  exact has value resultEqual

theorem fail (error : ε) : Ensures holds (throw error : StateT σ (Except ε) α) := by
  intro before value after equal
  cases equal

theorem anything (computation : StateT σ (Except ε) α) : Ensures (fun _ => True) computation :=
  fun _ _ _ _ => trivial

theorem bind {computation : StateT σ (Except ε) α} {next : α → StateT σ (Except ε) β}
    (first : Ensures holds computation)
    (second : ∀ value, holds value → Ensures later (next value)) :
    Ensures later (computation >>= next) := by
  intro before value after equal
  rw [StateT.run_bind] at equal
  rcases exists_of_bind_eq_ok equal with ⟨between, firstEqual, secondEqual⟩
  exact second _ (first _ _ _ firstEqual) _ _ _ secondEqual

theorem mapM {items : List α} {step : α → StateT σ (Except ε) β}
    (each : ∀ item, Ensures later (step item)) :
    Ensures (fun results => ∀ result ∈ results, later result) (items.mapM step) := by
  induction items with
  | nil =>
      rw [List.mapM_nil]
      exact .pure (List.forall_mem_nil _)
  | cons head tail induction =>
      rw [List.mapM_cons]
      refine (each head).bind fun first headHas => ?_
      refine induction.bind fun others tailHas => ?_
      exact .pure (List.forall_mem_cons.mpr ⟨headHas, tailHas⟩)

end Ensures

end PackageRecipe
