import PackageRecipe.Proofs.Text
import PackageRecipe.Selector

/-!
What is split off a line: a line that ends in a selector is its content, blanks, and the
condition in brackets, and every line that is made of these is split into them.
-/

namespace PackageRecipe.Selector

structure Split (line content condition gap : List Char) : Prop where
  line_eq : line = content ++ gap ++ '[' :: (condition ++ [']'])
  gapBlank : ∀ character ∈ gap, Text.isBlank character
  contentTrimmed : Text.trimEnd content = content
  contentNotEmpty : content ≠ []
  conditionNotBlank : condition.all Text.isBlank = false
  conditionOpen : '[' ∉ condition
  conditionClosed : ']' ∉ condition

theorem exists_split_of_split? {line content condition : List Char}
    (found : split? line = some (content, condition)) :
    ∃ gap, Split line content condition gap := by
  revert found
  fun_cases split? line with
  | case3 body reversed bracket before opened inside outside valid =>
      intro found
      rcases Prod.mk.inj (Option.some.inj found) with ⟨contentEqual, conditionEqual⟩
      rw [contentEqual, conditionEqual] at valid
      simp only [not_or, Bool.not_eq_true] at valid
      rcases Text.append_of_dropWhile_eq_cons opened with ⟨bodyEqual, stops⟩
      have bracketEqual : bracket = '[' := by simpa using stops
      have conditionReversed : body.takeWhile (· != '[') = condition.reverse :=
        List.reverse_eq_iff.mp conditionEqual
      have contentReversed : before.dropWhile Text.isBlank = content.reverse :=
        List.reverse_eq_iff.mp contentEqual
      rw [bracketEqual, conditionReversed, ← before.takeWhile_append_dropWhile
        (p := Text.isBlank), contentReversed] at bodyEqual
      refine ⟨(before.takeWhile Text.isBlank).reverse, ?_⟩
      constructor
      case line_eq =>
        rw [← line.reverse_reverse, reversed, bodyEqual]
        simp
      case gapBlank =>
        intro character member
        exact List.mem_takeWhile_imp (List.mem_reverse.mp member)
      case contentTrimmed =>
        rw [Text.trimEnd, ← contentReversed, List.dropWhile_idempotent, contentReversed,
          List.reverse_reverse]
      case contentNotEmpty => exact valid.2.2
      case conditionNotBlank => exact valid.2.1
      case conditionOpen =>
        rw [← List.mem_reverse, ← conditionReversed]
        intro member
        simpa using List.mem_takeWhile_imp member
      case conditionClosed => exact valid.1
  | _ => rintro ⟨⟩

theorem Split.split?_eq {line content condition gap : List Char}
    (split : Split line content condition gap) : split? line = some (content, condition) := by
  have reversed : line.reverse =
      ']' :: (condition.reverse ++ '[' :: (gap.reverse ++ content.reverse)) := by
    rw [split.line_eq]
    simp
  have notOpening : ∀ character ∈ condition.reverse, (character != '[') = true := by
    intro character member
    apply bne_iff_ne.mpr
    intro equal
    exact split.conditionOpen (equal ▸ List.mem_reverse.mp member)
  have trimmed : (gap.reverse ++ content.reverse).dropWhile Text.isBlank = content.reverse := by
    rw [List.dropWhile_append_of_pos fun character member =>
      split.gapBlank character (List.mem_reverse.mp member)]
    exact List.reverse_eq_iff.mp split.contentTrimmed
  rw [split?, reversed]
  simp only [List.dropWhile_append_of_pos notOpening,
    List.takeWhile_append_of_pos notOpening]
  simp [trimmed, split.conditionClosed, split.contentNotEmpty, split.conditionNotBlank]

theorem split?_eq_some_iff {line content condition : List Char} :
    split? line = some (content, condition) ↔ ∃ gap, Split line content condition gap := by
  constructor
  · exact exists_split_of_split?
  · rintro ⟨gap, split⟩
    exact split.split?_eq

/-- The parts of a line, each described by its own characters. -/
theorem split_iff {line content condition gap : List Char} :
    Split line content condition gap ↔
      line = content ++ gap ++ '[' :: (condition ++ [']']) ∧
        (∀ character ∈ gap, Text.isBlank character) ∧
        (∃ notEmpty : content ≠ [], Text.isBlank (content.getLast notEmpty) = false) ∧
        (∃ character ∈ condition, Text.isBlank character = false) ∧
        '[' ∉ condition ∧ ']' ∉ condition := by
  have ends : (∃ notEmpty : content ≠ [], Text.isBlank (content.getLast notEmpty) = false) ↔
      Text.trimEnd content = content ∧ content ≠ [] := by
    rw [Text.trimEnd_eq_rdropWhile, List.rdropWhile_eq_self_iff]
    constructor
    · rintro ⟨notEmpty, shows⟩
      exact ⟨fun _ => by simp [shows], notEmpty⟩
    · rintro ⟨shows, notEmpty⟩
      exact ⟨notEmpty, by simpa using shows notEmpty⟩
  have notBlank : (∃ character ∈ condition, Text.isBlank character = false) ↔
      condition.all Text.isBlank = false := by
    simp
  rw [ends, notBlank]
  constructor
  · intro split
    exact ⟨split.line_eq, split.gapBlank, ⟨split.contentTrimmed, split.contentNotEmpty⟩,
      split.conditionNotBlank, split.conditionOpen, split.conditionClosed⟩
  · rintro ⟨line_eq, gapBlank, ⟨contentTrimmed, contentNotEmpty⟩, shows, opened, closed⟩
    exact ⟨line_eq, gapBlank, contentTrimmed, contentNotEmpty, shows, opened, closed⟩

theorem Split.unique {line content condition gap other otherCondition otherGap : List Char}
    (split : Split line content condition gap)
    (again : Split line other otherCondition otherGap) :
    content = other ∧ condition = otherCondition ∧ gap = otherGap := by
  have same := split.split?_eq.symm.trans again.split?_eq
  rw [Option.some.injEq, Prod.mk.injEq] at same
  rcases same with ⟨rfl, rfl⟩
  have lines := split.line_eq.symm.trans again.line_eq
  rw [List.append_cancel_right_eq, List.append_cancel_left_eq] at lines
  exact ⟨rfl, rfl, lines⟩

/-- A line is split if and only if it is a content, blanks, and a condition in brackets: the
content does not end in a blank and is not empty, and the condition is not blank and holds no
bracket. There is at most one way to take a line apart like that, and a line for which there
is none is not split. -/
theorem split?_recognizes_selector (line : List Char) :
    (∀ content condition, split? line = some (content, condition) ↔
      ∃ gap, line = content ++ gap ++ '[' :: (condition ++ [']']) ∧
        (∀ character ∈ gap, Text.isBlank character) ∧
        (∃ notEmpty : content ≠ [], Text.isBlank (content.getLast notEmpty) = false) ∧
        (∃ character ∈ condition, Text.isBlank character = false) ∧
        '[' ∉ condition ∧ ']' ∉ condition) ∧
    (∀ content condition gap other otherCondition otherGap,
      Split line content condition gap → Split line other otherCondition otherGap →
        content = other ∧ condition = otherCondition ∧ gap = otherGap) ∧
    (split? line = none ↔ ∀ content condition gap, ¬Split line content condition gap) := by
  refine ⟨?recognizes, ?unique, ?passes⟩
  case recognizes =>
    intro content condition
    simp only [split?_eq_some_iff, split_iff]
  case unique =>
    intro content condition gap other otherCondition otherGap
    exact Split.unique
  case passes =>
    rw [Option.eq_none_iff_forall_ne_some]
    constructor
    · intro unsplit content condition gap split
      exact unsplit _ split.split?_eq
    · rintro unsplit ⟨content, condition⟩ found
      rcases exists_split_of_split? found with ⟨gap, split⟩
      exact unsplit content condition gap split

/-- Of several groups the last one is the condition, and a bracket inside it leaves the line
whole. -/
theorem split?_recognizes_selector_nested :
    split? "deps: [a, b] \u2003[linux]".toList =
        some ("deps: [a, b]".toList, "linux".toList) ∧
      ∀ content condition gap, ¬Split "x: [a [b] c]".toList content condition gap := by
  constructor
  · apply ((split?_recognizes_selector _).1 _ _).mpr
    have blank : ∀ character ∈ [' ', '\u2003'], Text.isBlank character := by
      simp only [List.forall_mem_cons]
      exact ⟨rfl, rfl, List.forall_mem_nil _⟩
    refine ⟨[' ', '\u2003'], by decide, blank, ?_, ⟨'l', by decide, rfl⟩, by decide,
      by decide⟩
    exact ⟨by decide, rfl⟩
  · have unsplit : split? "x: [a [b] c]".toList = none := rfl
    exact (split?_recognizes_selector _).2.2.mp unsplit

end PackageRecipe.Selector
