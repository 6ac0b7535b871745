import PackageRecipe.Proofs.Condition.Relevance
import PackageRecipe.Proofs.Document.Transparency
import PackageRecipe.Proofs.Target

/-!
What a manifest depends on. Two targets that agree on the names that the conditions of a
text mention keep the same of the text, or find the same error in it, and so read the same
manifest from it.
-/

namespace PackageRecipe

namespace Selector

def namesOfLine (line : List Char) : List String :=
  match split? (Text.trimEnd line) with
  | none => []
  | some (_, condition) =>
      match Condition.parse condition with
      | .error _ => []
      | .ok condition => condition.names

def names (text : String) : List String :=
  (Text.lines text.toList).flatMap namesOfLine

/-- A line whose condition cannot be read mentions no name. -/
example : names "a: 1 [py < 30 or not osx]\nb: 2 [(np]\nc: 3 [np]" = ["py", "osx", "np"] := by
  decide +kernel

section Agreement

variable {first second : Facts}

theorem isSelected_congr {condition : List Char}
    (agree : ∀ parsed, Condition.parse condition = .ok parsed →
      Facts.AgreeOn parsed.names first second) :
    isSelected first condition = isSelected second condition := by
  rw [isSelected, isSelected]
  cases read : Condition.parse condition with
  | error cause => rfl
  | ok parsed => rw [ok_bind, ok_bind, Condition.evaluate_congr (agree parsed read)]

theorem keepLine_congr {line : List Char}
    (agree : Facts.AgreeOn (namesOfLine line) first second) (number : Nat) :
    keepLine first number line = keepLine second number line := by
  rw [namesOfLine] at agree
  rw [keepLine, keepLine]
  cases found : split? (Text.trimEnd line) with
  | none => rfl
  | some parts =>
      rcases parts with ⟨content, condition⟩
      have same : isSelected first condition = isSelected second condition := by
        apply isSelected_congr
        intro parsed read
        simpa only [found, read] using agree
      simp only [same]

theorem keepLines_congr {rows : List (List Char)}
    (agree : Facts.AgreeOn (rows.flatMap namesOfLine) first second) (number : Nat) :
    keepLines first number rows = keepLines second number rows := by
  induction rows generalizing number with
  | nil => rfl
  | cons head tail induction =>
      rw [List.flatMap_cons, Facts.agreeOn_append_iff] at agree
      rw [keepLines, keepLines, keepLine_congr agree.1, induction agree.2]

theorem select_congr {text : String} (agree : Facts.AgreeOn (names text) first second) :
    select first text = select second text := by
  rw [select, select, keepLines_congr agree]

end Agreement

theorem names_eq_nil {text : String}
    (plain : ∀ row ∈ Text.lines text.toList, split? (Text.trimEnd row) = none) :
    names text = [] := by
  rw [names, List.flatMap_eq_nil_iff]
  intro row member
  rw [namesOfLine, plain row member]

end Selector

/-- Words that are no names of facts have no fact for any target. -/
theorem Target.agreeOn_facts {words : List String} {first second : Target}
    (agree : ∀ word ∈ words, word ∈ Facts.names →
      first.facts.lookup word = second.facts.lookup word) :
    Facts.AgreeOn words first.facts second.facts := by
  intro word member
  by_cases isFact : word ∈ Facts.names
  · exact agree word member isFact
  · have unknown : ∀ target : Target, target.facts.lookup word = none := by
      intro target
      rw [← Option.not_isSome_iff_eq_none, target.isSome_lookup_facts_iff]
      exact isFact
    rw [unknown, unknown]

namespace Manifest

theorem read_congr {first second : Facts} {text : String}
    (same : Selector.select first text = Selector.select second text) :
    read first text = read second text := by
  rw [read, read, same]

/-- A manifest that was just read with a cache is read from it again. -/
theorem readWith_readWith {Key : Type} [DecidableEq Key] {first second : Facts} {text : String}
    (same : Selector.select first text = Selector.select second text)
    (cache : Document.Cache Key) :
    readWith (readWith cache first text).2 second text = readWith cache first text := by
  rw [readWith, readWith, same]
  cases selected : Selector.select second text with
  | error error => rfl
  | ok kept => simp only [cache.load_load kept]

/-- A target matters to a manifest only in the facts that the conditions of its text
mention, if they can be read: targets with the same values for these names read the same
manifest, or have the same error, also one after the other with a cache of documents. A
text without selectors is read alike for all targets. -/
theorem read_depends_on_names :
    (∀ (first second : Target) (text : String),
      (∀ word ∈ Selector.names text, word ∈ Facts.names →
        first.facts.lookup word = second.facts.lookup word) →
      read first.facts text = read second.facts text ∧
        ∀ {Key : Type} [DecidableEq Key] (cache : Document.Cache Key),
          readWith cache first.facts text = readWith cache second.facts text ∧
            readWith (readWith cache first.facts text).2 second.facts text =
              readWith cache first.facts text) ∧
    ∀ text : String,
      (∀ row ∈ Text.lines text.toList, Selector.split? (Text.trimEnd row) = none) →
        ∀ first second : Target, read first.facts text = read second.facts text := by
  constructor
  · intro first second text agree
    have same := Selector.select_congr (Target.agreeOn_facts agree)
    refine ⟨read_congr same, ?_⟩
    intro Key _ cache
    refine ⟨?_, readWith_readWith same cache⟩
    rw [readWith, readWith, same]
  · intro text plain first second
    apply read_congr
    apply Selector.select_congr
    rw [Selector.names_eq_nil plain]
    exact List.forall_mem_nil _

/-- Word size and numpy differ, and only the other facts decide about the lines. A condition
that cannot be read is the same error, whatever it seems to mention. -/
theorem read_depends_on_names_elsewhere :
    (∃ manifest,
      read (Target.facts ⟨"linux-64", 27, 19⟩) "# a [py < 30 or not osx]\n- b [win]" =
          .ok manifest ∧
        read (Target.facts ⟨"linux-32", 27, 110⟩) "# a [py < 30 or not osx]\n- b [win]" =
          .ok manifest) ∧
      read (Target.facts ⟨"linux-64", 27, 19⟩) "a: 1 [(np]" =
        read (Target.facts ⟨"linux-32", 27, 110⟩) "a: 1 [(np]" ∧
      read (Target.facts ⟨"osx-64", 35, 19⟩) "a: []" =
        read (Target.facts ⟨"win-64", 27, 17⟩) "a: []" := by
  rcases read_depends_on_names with ⟨agreeing, plain⟩
  have mentioned : Selector.names "# a [py < 30 or not osx]\n- b [win]" =
      ["py", "osx", "win"] := by decide +kernel
  have noNames : Selector.names "a: 1 [(np]" = [] := by decide +kernel
  refine ⟨?_, ?_, ?_⟩
  · have selected : Selector.select (Target.facts ⟨"linux-64", 27, 19⟩)
        "# a [py < 30 or not osx]\n- b [win]" = .ok "# a\n" := by decide +kernel
    obtain ⟨manifest, found⟩ : ∃ manifest,
        read (Target.facts ⟨"linux-64", 27, 19⟩) "# a [py < 30 or not osx]\n- b [win]" =
          .ok manifest := by
      rw [read, selected]
      exact ⟨_, rfl⟩
    have same := (agreeing ⟨"linux-64", 27, 19⟩ ⟨"linux-32", 27, 110⟩
      "# a [py < 30 or not osx]\n- b [win]" (by rw [mentioned]; decide)).1
    exact ⟨manifest, found, same ▸ found⟩
  · exact (agreeing _ _ _ (by rw [noNames]; decide)).1
  · exact plain "a: []" (by decide) _ _

end Manifest

end PackageRecipe
