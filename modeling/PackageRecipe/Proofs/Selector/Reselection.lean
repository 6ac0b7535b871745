import PackageRecipe.Proofs.Selector.Lines
import PackageRecipe.Proofs.Selector.Splitting

/-!
Texts that selection leaves as they are. Every line that is dropped, split or trimmed
makes the text shorter, and nothing makes it longer again, so only texts whose lines are
all kept whole come out unchanged; and those do for every target.
-/

namespace PackageRecipe.Selector

/-- A line that every target keeps as it is. -/
def IsSettled (line : List Char) : Prop :=
  Text.trimEnd line = line ∧ split? line = none

theorem isSettled_nil : IsSettled [] := ⟨rfl, rfl⟩

/-! ## Kept lines -/

section Kept

variable {facts : Facts} {number : Nat} {row line : List Char}

theorem keepLine_of_isSettled (settled : IsSettled row) :
    keepLine facts number row = .ok (some row) := by
  rw [keepLine, settled.1]
  simp only [settled.2]

/-- What is kept of a line is a trimmed part of it, and the whole of it only if the line
is settled. -/
theorem keepLine_eq_ok_some (kept : keepLine facts number row = .ok (some line)) :
    Text.trimEnd line = line ∧ line <+: row ∧ (line = row → IsSettled row) := by
  have trims := Text.trimEnd_isPrefix row
  cases found : split? (Text.trimEnd row) with
  | none =>
      simp only [keepLine, found] at kept
      cases kept
      refine ⟨Text.trimEnd_trimEnd row, trims, fun whole => ⟨whole, ?_⟩⟩
      rwa [whole] at found
  | some parts =>
      rcases parts with ⟨content, condition⟩
      have same : content = line := by
        simp only [keepLine, found] at kept
        cases answered : isSelected facts condition with
        | error cause => simp [answered] at kept
        | ok selected =>
            simp only [answered] at kept
            cases selected <;> cases kept
            rfl
      subst same
      rcases exists_split_of_split? found with ⟨gap, split⟩
      have inside : content <+: Text.trimEnd row := by
        rw [split.line_eq, List.append_assoc]
        exact List.prefix_append _ _
      refine ⟨split.contentTrimmed, inside.trans trims, ?_⟩
      -- The brackets are missing from the content, so it is not the whole line.
      intro whole
      have shorter : content.length < (Text.trimEnd row).length := by
        rw [split.line_eq]
        simp only [List.length_append, List.length_cons]
        omega
      have atMost := trims.length_le
      rw [← whole] at atMost shorter
      omega

end Kept

section Rows

variable {facts : Facts} {number : Nat} {rows lines : List (List Char)}

theorem exists_of_keepLines_cons {row : List Char}
    (kept : keepLines facts number (row :: rows) = .ok lines) :
    ∃ (first : Option (List Char)) (others : List (List Char)),
      keepLine facts number row = .ok first ∧
        keepLines facts (number + 1) rows = .ok others ∧ lines = first.toList ++ others := by
  rw [keepLines] at kept
  rcases exists_of_bind_eq_ok kept with ⟨first, firstKept, rest⟩
  rcases exists_of_bind_eq_ok rest with ⟨others, othersKept, equal⟩
  cases equal
  exact ⟨first, others, firstKept, othersKept, rfl⟩

theorem keepLines_of_isSettled (settled : ∀ row ∈ rows, IsSettled row) :
    keepLines facts number rows = .ok rows := by
  induction rows generalizing number with
  | nil => rfl
  | cons head tail induction =>
      rw [List.forall_mem_cons] at settled
      rw [keepLines, keepLine_of_isSettled settled.1, ok_bind, induction settled.2, ok_bind]
      rfl

theorem trimmed_of_keepLines (kept : keepLines facts number rows = .ok lines) :
    ∀ line ∈ lines, Text.trimEnd line = line ∧ ∃ row ∈ rows, line <+: row := by
  induction rows generalizing number lines with
  | nil =>
      cases kept
      exact List.forall_mem_nil _
  | cons head tail induction =>
      rcases exists_of_keepLines_cons kept with ⟨first, others, headKept, tailKept, rfl⟩
      intro line member
      rcases List.mem_append.mp member with member | member
      · rw [Option.mem_toList] at member
        rw [Option.mem_def.mp member] at headKept
        rcases keepLine_eq_ok_some headKept with ⟨trimmed, inside, _⟩
        exact ⟨trimmed, head, List.mem_cons_self, inside⟩
      · rcases induction tailKept line member with ⟨trimmed, row, rowMember, inside⟩
        exact ⟨trimmed, row, List.mem_cons_of_mem head rowMember, inside⟩

theorem length_le_of_keepLines (kept : keepLines facts number rows = .ok lines) :
    lines.length ≤ rows.length := by
  induction rows generalizing number lines with
  | nil =>
      cases kept
      exact Nat.le_refl 0
  | cons head tail induction =>
      rcases exists_of_keepLines_cons kept with ⟨first, others, _, tailKept, rfl⟩
      have atMost := induction tailKept
      rw [List.length_append, List.length_cons]
      have atMostOne : first.toList.length ≤ 1 := by cases first <;> simp
      omega

/-- Lines that are all kept as they are are settled: were one of them dropped, too few
would be left. -/
theorem isSettled_of_keepLines (kept : keepLines facts number rows = .ok rows) :
    ∀ row ∈ rows, IsSettled row := by
  induction rows generalizing number with
  | nil => exact List.forall_mem_nil _
  | cons head tail induction =>
      rcases exists_of_keepLines_cons kept with ⟨first, others, headKept, tailKept, equal⟩
      cases first with
      | none =>
          have tooFew := length_le_of_keepLines tailKept
          rw [← List.nil_append others, ← Option.toList_none, ← equal] at tooFew
          exact absurd tooFew (Nat.not_succ_le_self _)
      | some line =>
          rcases List.cons.inj equal with ⟨rfl, rfl⟩
          rw [List.forall_mem_cons]
          exact ⟨(keepLine_eq_ok_some headKept).2.2 rfl, induction tailKept⟩

end Rows

/-! ## Texts -/

/-- A text is made of one or more lines that each end in a line feed. -/
structure IsTextOf (text : String) (rows : List (List Char)) : Prop where
  notEmpty : rows ≠ []
  single : ∀ row ∈ rows, '\n' ∉ row
  text_eq : text.toList = rows.flatMap (· ++ ['\n'])

section IsTextOf

variable {text : String} {rows : List (List Char)}

theorem IsTextOf.lines (made : IsTextOf text rows) : Text.lines text.toList = rows := by
  have found := Text.lines_flatMap_append made.single (List.not_mem_nil (a := '\n'))
  rwa [List.append_nil, ← made.text_eq, if_pos rfl, List.append_nil] at found

theorem IsTextOf.pieces (made : IsTextOf text rows) :
    Text.pieces (· == '\n') text.toList = rows ++ [[]] := by
  have found := Text.pieces_flatMap_append made.single (List.not_mem_nil (a := '\n'))
  rwa [List.append_nil, ← made.text_eq] at found

theorem IsTextOf.getLast? (made : IsTextOf text rows) :
    text.toList.getLast? = some '\n' := by
  rw [made.text_eq, ← List.dropLast_concat_getLast made.notEmpty]
  simp

theorem exists_isTextOf (ends : text.toList.getLast? = some '\n') :
    ∃ rows, IsTextOf text rows := by
  rcases Text.exists_flatMap_append text.toList with ⟨rows, last, equal, single, lastSingle⟩
  have noLast : last = [] := by
    rcases last.eq_nil_or_concat with rfl | ⟨before, character, rfl⟩
    · rfl
    · rw [equal] at ends
      simp at ends
      simp [ends] at lastSingle
  subst noLast
  rw [List.append_nil] at equal
  refine ⟨rows, ?_, single, equal⟩
  rintro rfl
  simp [equal] at ends

end IsTextOf

/-- The lines of a selected text: an empty one if no line is kept. -/
def shown : List (List Char) → List (List Char)
  | [] => [[]]
  | lines => lines

theorem joinLines_eq (lines : List (List Char)) :
    joinLines lines = (shown lines).flatMap (· ++ ['\n']) := by
  cases lines <;> rfl

theorem forall_mem_shown {property : List Char → Prop} {lines : List (List Char)}
    (empty : property []) (each : ∀ line ∈ lines, property line) :
    ∀ line ∈ shown lines, property line := by
  cases lines with
  | nil => exact List.forall_mem_singleton.mpr empty
  | cons head tail => exact each

/-- A selected text is made of trimmed lines. -/
theorem exists_of_select_eq_ok {facts : Facts} {text output : String}
    (selected : select facts text = .ok output) :
    ∃ lines, keepLines facts 1 (Text.lines text.toList) = .ok lines ∧
      IsTextOf output (shown lines) ∧ ∀ line ∈ shown lines, Text.trimEnd line = line := by
  rcases exists_of_bind_eq_ok selected with ⟨lines, kept, equal⟩
  cases equal
  have trimmed := trimmed_of_keepLines kept
  refine ⟨lines, kept, ⟨?_, ?_, ?_⟩, ?_⟩
  · cases lines <;> simp [shown]
  · refine forall_mem_shown List.not_mem_nil ?_
    intro line member
    rcases (trimmed line member).2 with ⟨row, rowMember, inside⟩
    exact fun feed => Text.feed_not_mem_of_mem_lines rowMember (inside.subset feed)
  · rw [String.toList_ofList, joinLines_eq]
  · exact forall_mem_shown rfl fun line member => (trimmed line member).1

theorem IsTextOf.select_iff_isSettled {text : String} {rows : List (List Char)}
    (made : IsTextOf text rows) (facts : Facts) :
    select facts text = .ok text ↔ ∀ row ∈ rows, IsSettled row := by
  constructor
  · intro selected
    rcases exists_of_select_eq_ok selected with ⟨lines, kept, shownMade, _⟩
    have same : shown lines = rows := shownMade.lines.symm.trans made.lines
    rw [made.lines] at kept
    subst same
    cases lines with
    | nil => exact List.forall_mem_singleton.mpr isSettled_nil
    | cons head tail => exact isSettled_of_keepLines kept
  · intro settled
    have shownRows : shown rows = rows := by
      cases rows with
      | nil => exact absurd rfl made.notEmpty
      | cons head tail => rfl
    rw [select, made.lines, keepLines_of_isSettled settled, ok_bind, joinLines_eq, shownRows,
      ← made.text_eq, String.ofList_toList]
    rfl

/-- Selection leaves a text as it is if and only if the text ends in a line feed and all
its lines are trimmed and end in no selector. A selected text is therefore left as it is,
by every target, if and only if no line of it ends in a selector. -/
theorem select_eq_self_iff (facts : Facts) (text : String) :
    (select facts text = .ok text ↔
      text ≠ "" ∧ text.toList.getLast? = some '\n' ∧
        ∀ piece ∈ Text.pieces (· == '\n') text.toList,
          Text.trimEnd piece = piece ∧ split? piece = none) ∧
    ∀ output, select facts text = .ok output → ∀ others : Facts,
      (select others output = .ok output ↔
        ∀ line ∈ Text.lines output.toList, split? line = none) := by
  refine ⟨⟨?whole, ?unchanged⟩, ?again⟩
  case whole =>
    intro selected
    rcases exists_of_select_eq_ok selected with ⟨lines, _, made, _⟩
    refine ⟨?_, made.getLast?, ?_⟩
    · rintro rfl
      simpa using made.getLast?
    · rw [made.pieces, List.forall_mem_append]
      exact ⟨(made.select_iff_isSettled facts).mp selected,
        List.forall_mem_singleton.mpr isSettled_nil⟩
  case unchanged =>
    rintro ⟨_, ends, settled⟩
    rcases exists_isTextOf ends with ⟨rows, made⟩
    rw [made.pieces, List.forall_mem_append] at settled
    exact (made.select_iff_isSettled facts).mpr settled.1
  case again =>
    intro output selected others
    rcases exists_of_select_eq_ok selected with ⟨lines, _, made, trimmed⟩
    rw [made.select_iff_isSettled others, made.lines]
    exact forall₂_congr fun line member => and_iff_right (trimmed line member)

/-- A content that ends in a selector of its own is not left as it is a second time. -/
theorem select_eq_self_iff_nested :
    select [("linux", .boolean true)] "a [win] [linux]" = .ok "a [win]\n" ∧
      select [("win", .boolean true)] "a [win]\n" ≠ .ok "a [win]\n" := by
  let line : SelectorLine :=
    ⟨"a [win]".toList, [' '], "linux".toList, [], rfl, by decide,
      List.forall_mem_singleton.mpr rfl, List.forall_mem_nil _, rfl, by decide, by decide,
      by decide⟩
  have read : Condition.parse line.condition = .ok (.name "linux") := rfl
  have answered : isSelected [("linux", .boolean true)] line.condition = .ok true := by
    rw [isSelected, read, ok_bind]
    rfl
  have text : String.ofList (line.body ++ line.trail) = "a [win] [linux]" := by decide
  have selected := select_selectorLine answered
  rw [text] at selected
  refine ⟨selected, fun unchanged => ?_⟩
  have lines := ((select_eq_self_iff _ _).2 _ selected _).mp unchanged
  have unsplit := lines "a [win]".toList (by decide)
  exact absurd unsplit (by decide)

end PackageRecipe.Selector
