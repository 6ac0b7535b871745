import Mathlib.Data.List.Forall2
import Mathlib.Data.List.ReduceOption
import PackageRecipe.Proofs.Outcome
import PackageRecipe.Proofs.Selector.Splitting

/-!
Recipes as lines that were written one by one: plain lines, and contents with a
selector each. Selection keeps the plain lines and the contents whose conditions are
true, or else fails at the first condition that has no answer.
-/

namespace PackageRecipe.Selector

/-! ## Written lines -/

/-- A line that does not end in a selector. -/
structure PlainLine where
  text : List Char
  unsplit : split? (Text.trimEnd text) = none
  single : '\n' ∉ text

/-- A content with a condition in brackets after it, and blanks around the brackets. -/
structure SelectorLine where
  content : List Char
  gap : List Char
  condition : List Char
  trail : List Char
  contentTrimmed : Text.trimEnd content = content
  contentNotEmpty : content ≠ []
  gapBlank : ∀ character ∈ gap, Text.isBlank character
  trailBlank : ∀ character ∈ trail, Text.isBlank character
  conditionNotBlank : condition.all Text.isBlank = false
  conditionOpen : '[' ∉ condition
  conditionClosed : ']' ∉ condition
  single : '\n' ∉ content ++ gap ++ condition ++ trail

inductive Line where
  | plain (line : PlainLine)
  | selector (line : SelectorLine)

inductive Ending where
  | feed
  | returnFeed
  deriving DecidableEq, Repr

namespace SelectorLine

/-- The line up to its closing bracket. -/
def body (line : SelectorLine) : List Char :=
  line.content ++ line.gap ++ '[' :: (line.condition ++ [']'])

end SelectorLine

def Line.text : Line → List Char
  | .plain line => line.text
  | .selector line => line.body ++ line.trail

def Ending.text : Ending → List Char
  | .feed => ['\n']
  | .returnFeed => ['\r', '\n']

/-- The text of lines that each have an ending, and of a last one that has none. -/
def written (lines : List (Line × Ending)) (last : Option Line) : List Char :=
  lines.flatMap (fun (line, ending) => line.text ++ ending.text) ++
    (last.map Line.text).getD []

/-- The lines that a text is found to have: an empty text after the last ending is no
line. -/
def counted (lines : List (Line × Ending)) (last : Option Line) : List Line :=
  lines.map Prod.fst ++ (last.filter fun line => line.text ≠ []).toList

/-! ## What becomes of a line -/

/-- A target keeps plain lines without the blanks at their end, and the content of a
line whose condition is true for it. -/
def Line.Keeps (facts : Facts) : Line → Option (List Char) → Prop
  | .plain line, kept => kept = some (Text.trimEnd line.text)
  | .selector line, kept =>
      ∃ condition value, Condition.parse line.condition = .ok condition ∧
        condition.evaluate facts = .ok value ∧
        kept = if value.isTrue then some line.content else none

/-- A condition has no answer for a target if it cannot be read or evaluated. -/
def SelectorLine.Fails (facts : Facts) (line : SelectorLine) (cause : Condition.Error) :
    Prop :=
  Condition.parse line.condition = .error cause ∨
    ∃ condition, Condition.parse line.condition = .ok condition ∧
      condition.evaluate facts = .error cause

/-! ## Single lines -/

namespace SelectorLine

theorem split_body (line : SelectorLine) :
    Split line.body line.content line.condition line.gap :=
  ⟨rfl, line.gapBlank, line.contentTrimmed, line.contentNotEmpty, line.conditionNotBlank,
    line.conditionOpen, line.conditionClosed⟩

theorem split?_body (line : SelectorLine) :
    split? line.body = some (line.content, line.condition) :=
  line.split_body.split?_eq

theorem trimEnd_text (line : SelectorLine) :
    Text.trimEnd (line.body ++ line.trail) = line.body := by
  rw [Text.trimEnd_append_of_blank line.body line.trailBlank, body, ← List.cons_append,
    ← List.append_assoc]
  exact Text.trimEnd_append_singleton _ rfl

end SelectorLine

/-- A line is found again as any text that differs from it in the blanks at its end. -/
def Line.IsFoundAs (row : List Char) (line : Line) : Prop :=
  Text.trimEnd row = Text.trimEnd line.text

theorem keepLine_of_keeps {facts : Facts} {row : List Char} {line : Line}
    {kept : Option (List Char)} (found : line.IsFoundAs row)
    (keeps : line.Keeps facts kept) (number : Nat) :
    keepLine facts number row = .ok kept := by
  rw [keepLine, found]
  cases line with
  | plain line =>
      simp only [Line.text, line.unsplit]
      exact congrArg Except.ok keeps.symm
  | selector line =>
      rcases keeps with ⟨condition, value, read, evaluated, rfl⟩
      have selected : isSelected facts line.condition = .ok value.isTrue := by
        rw [isSelected, read, ok_bind, evaluated]
        rfl
      simp only [Line.text, line.trimEnd_text, line.split?_body, selected]

theorem keepLine_of_fails {facts : Facts} {row : List Char} {line : SelectorLine}
    {cause : Condition.Error} (found : (Line.selector line).IsFoundAs row)
    (fails : line.Fails facts cause) (number : Nat) :
    keepLine facts number row =
      .error ⟨number, String.ofList line.condition, cause⟩ := by
  have unanswered : isSelected facts line.condition = .error cause := by
    rcases fails with malformed | ⟨condition, read, unknown⟩
    · rw [isSelected, malformed, error_bind]
    · rw [isSelected, read, ok_bind, unknown, error_bind]
  rw [keepLine, found]
  simp only [Line.text, line.trimEnd_text, line.split?_body, unanswered]

theorem exists_keeps_or_fails (facts : Facts) (line : Line) :
    (∃ kept, line.Keeps facts kept) ∨
      ∃ selector cause, line = .selector selector ∧ selector.Fails facts cause := by
  cases line with
  | plain line => exact .inl ⟨_, rfl⟩
  | selector line =>
      cases read : Condition.parse line.condition with
      | error cause => exact .inr ⟨line, cause, rfl, .inl read⟩
      | ok condition =>
          cases evaluated : condition.evaluate facts with
          | error cause =>
              exact .inr ⟨line, cause, rfl, .inr ⟨condition, read, evaluated⟩⟩
          | ok value => exact .inl ⟨_, condition, value, read, evaluated, rfl⟩

/-! ## Lines in order -/

section Order

variable {facts : Facts} {lines : List Line} {rows : List (List Char)}

theorem keepLines_of_keeps {kept : List (Option (List Char))}
    (found : List.Forall₂ Line.IsFoundAs rows lines)
    (keeps : List.Forall₂ (Line.Keeps facts) lines kept) (number : Nat) :
    keepLines facts number rows = .ok kept.reduceOption := by
  induction found generalizing kept number with
  | nil =>
      cases keeps
      rfl
  | cons rowFound _ induction =>
      cases keeps with
      | @cons _ keptLine _ _ lineKeeps restKeeps =>
          rw [keepLines, keepLine_of_keeps rowFound lineKeeps, ok_bind,
            induction restKeeps, ok_bind]
          cases keptLine <;> rfl

/-- The lines after the first one that fails do not matter. -/
theorem keepLines_of_fails {before after : List Line} {line : SelectorLine}
    {cause : Condition.Error}
    (found : List.Forall₂ Line.IsFoundAs rows (before ++ .selector line :: after))
    (keeps : ∀ line ∈ before, ∃ kept, line.Keeps facts kept)
    (fails : line.Fails facts cause) (number : Nat) :
    keepLines facts number rows =
      .error ⟨number + before.length, String.ofList line.condition, cause⟩ := by
  induction before generalizing rows number with
  | nil =>
      cases found with
      | cons rowFound _ => rw [keepLines, keepLine_of_fails rowFound fails]; rfl
  | cons head tail induction =>
      cases found with
      | cons rowFound restFound =>
          rcases keeps head List.mem_cons_self with ⟨kept, headKeeps⟩
          have tailKeeps : ∀ line ∈ tail, ∃ kept, line.Keeps facts kept :=
            fun line member => keeps line (List.mem_cons_of_mem head member)
          rw [keepLines, keepLine_of_keeps rowFound headKeeps, ok_bind,
            induction restFound tailKeeps, error_bind, List.length_cons, Nat.add_assoc,
            Nat.add_comm 1]

theorem exists_keeps_or_first_fails (facts : Facts) (lines : List Line) :
    (∃ kept, List.Forall₂ (Line.Keeps facts) lines kept) ∨
      ∃ before line after cause, lines = before ++ .selector line :: after ∧
        (∀ line ∈ before, ∃ kept, line.Keeps facts kept) ∧ line.Fails facts cause := by
  induction lines with
  | nil => exact .inl ⟨[], .nil⟩
  | cons head tail induction =>
      rcases exists_keeps_or_fails facts head with
        ⟨kept, headKeeps⟩ | ⟨line, cause, rfl, fails⟩
      · rcases induction with
          ⟨others, tailKeep⟩ | ⟨before, line, after, cause, rfl, keeps, fails⟩
        · exact .inl ⟨kept :: others, .cons headKeeps tailKeep⟩
        · refine .inr ⟨head :: before, line, after, cause, rfl, ?_, fails⟩
          intro line member
          rcases List.mem_cons.mp member with rfl | member
          · exact ⟨kept, headKeeps⟩
          · exact keeps line member
      · exact .inr ⟨[], line, tail, cause, rfl, by simp, fails⟩

end Order

/-! ## Written texts -/

namespace Ending

/-- What an ending puts before its line feed. -/
def blanks : Ending → List Char
  | .feed => []
  | .returnFeed => ['\r']

theorem text_eq (ending : Ending) : ending.text = ending.blanks ++ ['\n'] := by
  cases ending <;> rfl

theorem blank_of_mem_blanks (ending : Ending) :
    ∀ character ∈ ending.blanks, Text.isBlank character := by
  cases ending with
  | feed => simp [blanks]
  | returnFeed =>
      intro character member
      rw [List.mem_singleton.mp member]
      rfl

theorem feed_not_mem_blanks (ending : Ending) : '\n' ∉ ending.blanks := by
  cases ending <;> decide

end Ending

theorem Line.feed_not_mem_text (line : Line) : '\n' ∉ line.text := by
  cases line with
  | plain line => exact line.single
  | selector line =>
      have single := line.single
      simp only [List.mem_append, not_or] at single
      simp [Line.text, SelectorLine.body, single]

theorem isFoundAs_append (line : Line) (ending : Ending) :
    line.IsFoundAs (line.text ++ ending.blanks) :=
  Text.trimEnd_append_of_blank line.text ending.blank_of_mem_blanks

/-- Every line of a written text is found again, up to its ending. -/
theorem forall₂_lines_written (lines : List (Line × Ending)) (last : Option Line) :
    List.Forall₂ Line.IsFoundAs (Text.lines (written lines last))
      (counted lines last) := by
  let rows := lines.map fun (line, ending) => line.text ++ ending.blanks
  have text : written lines last =
      rows.flatMap (· ++ ['\n']) ++ (last.map Line.text).getD [] := by
    simp [written, rows, List.flatMap_map, Ending.text_eq]
  have single : ∀ row ∈ rows, '\n' ∉ row := by
    intro row member
    rcases List.mem_map.mp member with ⟨⟨line, ending⟩, _, rfl⟩
    simp [line.feed_not_mem_text, ending.feed_not_mem_blanks]
  have lastSingle : '\n' ∉ (last.map Line.text).getD [] := by
    cases last with
    | none => simp
    | some line => exact line.feed_not_mem_text
  rw [text, Text.lines_flatMap_append single lastSingle, counted]
  apply List.rel_append
  · rw [List.forall₂_map_left_iff, List.forall₂_map_right_iff, List.forall₂_same]
    rintro ⟨line, ending⟩ _
    exact isFoundAs_append line ending
  · cases last with
    | none => exact .nil
    | some line =>
        by_cases empty : line.text = []
        · simp [empty]
        · simp [Option.filter, empty, Line.IsFoundAs]

theorem select_selectorLine {facts : Facts} {line : SelectorLine} {selected : Bool}
    (answered : isSelected facts line.condition = .ok selected) :
    select facts (String.ofList (line.body ++ line.trail)) =
      .ok (String.ofList (if selected then line.content ++ ['\n'] else ['\n'])) := by
  rcases exists_of_bind_eq_ok answered with ⟨condition, read, evaluates⟩
  rcases exists_of_bind_eq_ok evaluates with ⟨value, evaluated, equal⟩
  cases equal
  have found : List.Forall₂ Line.IsFoundAs (Text.lines (line.body ++ line.trail))
      [.selector line] := by
    have notEmpty : (Line.selector line).text ≠ [] := by
      simp [Line.text, SelectorLine.body]
    have only : counted [] (some (.selector line)) = [.selector line] := by
      simp [counted, Option.filter, notEmpty]
    exact only ▸ forall₂_lines_written [] (some (.selector line))
  have keeps : List.Forall₂ (Line.Keeps facts) [.selector line]
      [if value.isTrue then some line.content else none] :=
    .cons ⟨condition, value, read, evaluated, rfl⟩ .nil
  rw [select, String.toList_ofList, keepLines_of_keeps found keeps, ok_bind]
  cases value.isTrue with
  | false => rfl
  | true => exact congrArg (Except.ok ∘ String.ofList) (List.append_nil _)

/-- What a target keeps of a text that was written line by line: if all conditions
have an answer, the plain lines and the contents whose conditions are true; if not,
the first condition without an answer is the error, whatever stands after it. -/
theorem select_written (facts : Facts) (lines : List (Line × Ending))
    (last : Option Line) :
    (∀ kept, List.Forall₂ (Line.Keeps facts) (counted lines last) kept →
      select facts (String.ofList (written lines last)) =
        .ok (String.ofList (if kept.reduceOption = [] then ['\n']
          else kept.reduceOption.flatMap (· ++ ['\n'])))) ∧
    ((¬∃ kept, List.Forall₂ (Line.Keeps facts) (counted lines last) kept) →
      ∃ before line after cause,
        counted lines last = before ++ .selector line :: after ∧
          (∀ line ∈ before, ∃ kept, line.Keeps facts kept) ∧ line.Fails facts cause ∧
          select facts (String.ofList (written lines last)) =
            .error ⟨before.length + 1, String.ofList line.condition, cause⟩) := by
  have found := forall₂_lines_written lines last
  constructor
  · intro kept keeps
    rw [select, String.toList_ofList, keepLines_of_keeps found keeps, ok_bind]
    cases kept.reduceOption <;> rfl
  · intro unanswered
    rcases exists_keeps_or_first_fails facts (counted lines last) with
      answered | ⟨before, line, after, cause, equal, keeps, fails⟩
    · exact absurd answered unanswered
    · refine ⟨before, line, after, cause, equal, keeps, fails, ?_⟩
      rw [equal] at found
      rw [select, String.toList_ofList, keepLines_of_fails found keeps fails, error_bind,
        Nat.add_comm]

def plainLine (text : String) (unsplit : split? (Text.trimEnd text.toList) = none)
    (single : '\n' ∉ text.toList) : Line :=
  .plain ⟨text.toList, unsplit, single⟩

/-- A content with a name as its condition. -/
def namedLine (name : String) (notBlank : name.toList.all Text.isBlank = false)
    (opened : '[' ∉ name.toList) (closed : ']' ∉ name.toList)
    (single : '\n' ∉ ['a'] ++ [' '] ++ name.toList ++ []) : Line :=
  .selector ⟨['a'], [' '], name.toList, [], rfl, by simp, List.forall_mem_singleton.mpr rfl,
    List.forall_mem_nil _, notBlank, opened, closed, single⟩

/-- A line that is dropped and ends in a carriage return, before one that is kept; and a
condition that has no answer. -/
theorem select_written_named :
    select [("win", .boolean false)] "a [win]\r\nb " = .ok "b\n" ∧
      ∃ error, select [("win", .boolean false)] "b \na [mac]\n" = .error error := by
  let facts : Facts := [("win", .boolean false)]
  let dropped := namedLine "win" rfl (by decide) (by decide) (by decide)
  let failing := namedLine "mac" rfl (by decide) (by decide) (by decide)
  let plain := plainLine "b " rfl (by decide)
  constructor
  · have text : String.ofList (written [(dropped, .returnFeed)] (some plain)) =
        "a [win]\r\nb " := by decide
    have keeps : List.Forall₂ (Line.Keeps facts)
        (counted [(dropped, .returnFeed)] (some plain)) [none, some ['b']] :=
      .cons ⟨.name "win", .boolean false, rfl, rfl, rfl⟩ (.cons rfl .nil)
    have equal := (select_written facts [(dropped, .returnFeed)] (some plain)).1 _ keeps
    rw [text] at equal
    exact equal
  · have text : String.ofList (written [(plain, .feed), (failing, .feed)] none) =
        "b \na [mac]\n" := by decide
    have unanswered : ¬∃ kept, List.Forall₂ (Line.Keeps facts)
        (counted [(plain, .feed), (failing, .feed)] none) kept := by
      rintro ⟨_, _ | ⟨_, _ | ⟨⟨condition, value, read, evaluated, _⟩, _⟩⟩⟩
      cases read
      cases evaluated
    rcases (select_written facts [(plain, .feed), (failing, .feed)] none).2 unanswered
        with
      ⟨_, _, _, _, _, _, _, equal⟩
    rw [text] at equal
    exact ⟨_, equal⟩

/-- An empty last line without an ending is not counted: the text is the same without
it. -/
theorem select_written_empty_last :
    ¬∀ (facts : Facts) (lines : List (Line × Ending)) (last : Option Line) kept,
      List.Forall₂ (Line.Keeps facts) (lines.map Prod.fst ++ last.toList) kept →
        select facts (String.ofList (written lines last)) =
          .ok (String.ofList (if kept.reduceOption = [] then ['\n']
            else kept.reduceOption.flatMap (· ++ ['\n']))) := by
  intro always
  have added := always [] [(plainLine "a" rfl (by decide), .feed)]
    (some (plainLine "" rfl (by decide))) [some ['a'], some []]
    (.cons rfl (.cons rfl .nil))
  have kept : select [] "a\n" = .ok "a\n" := by decide
  have different : (.ok "a\n" : Except Error String) ≠ .ok "a\n\n" := by decide
  exact different (kept.symm.trans added)

end PackageRecipe.Selector
