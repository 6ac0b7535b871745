import Mathlib.Data.List.DropRight
import PackageRecipe.Text.Blank

/-!
Laws of the cuts in texts: blanks at an end can be trimmed away, and lines that were
each ended by a line feed are found again, as are words with spaces between them.
-/

namespace PackageRecipe.Text

/-! ## Trimmed ends -/

theorem trimEnd_eq_rdropWhile (text : List Char) :
    trimEnd text = text.rdropWhile isBlank := rfl

theorem trimEnd_append_of_blank (text : List Char) {blanks : List Char}
    (blank : ∀ character ∈ blanks, isBlank character) :
    trimEnd (text ++ blanks) = trimEnd text := by
  rw [trimEnd, List.reverse_append, List.dropWhile_append_of_pos]
  · rfl
  · intro character member
    exact blank character (List.mem_reverse.mp member)

theorem trimEnd_append_singleton (text : List Char) {last : Char}
    (notBlank : isBlank last = false) : trimEnd (text ++ [last]) = text ++ [last] := by
  rw [trimEnd_eq_rdropWhile]
  exact List.rdropWhile_concat_neg isBlank text last (by simp [notBlank])

theorem trimEnd_trimEnd (text : List Char) : trimEnd (trimEnd text) = trimEnd text :=
  List.rdropWhile_idempotent isBlank text

theorem trimEnd_isPrefix (text : List Char) : trimEnd text <+: text :=
  List.rdropWhile_prefix isBlank text

/-! ## Lines -/

theorem pieces_of_not_separated {separates : Char → Bool} {text : List Char}
    (unseparated : ∀ character ∈ text, separates character = false) :
    pieces separates text = [text] := by
  induction text with
  | nil => rfl
  | cons head tail induction =>
      rw [pieces, if_neg (by simp [unseparated head List.mem_cons_self]),
        induction fun character member => unseparated character (List.mem_cons_of_mem _ member)]

/-- A separator ends a piece, whatever stands before it. -/
theorem pieces_append_cons {separates : Char → Bool} {separator : Char}
    (separated : separates separator) (before rest : List Char) :
    pieces separates (before ++ separator :: rest) =
      pieces separates before ++ pieces separates rest := by
  induction before with
  | nil => simp [pieces, separated]
  | cons head tail induction =>
      rw [List.cons_append, pieces, pieces, induction]
      by_cases headSeparates : separates head
      · rw [if_pos headSeparates, if_pos headSeparates, List.cons_append]
      · rw [if_neg headSeparates, if_neg headSeparates]
        cases others : pieces separates tail with
        | nil => exact absurd others (pieces_ne_nil separates tail)
        | cons first others => rfl

theorem pieces_append_separator {separates : Char → Bool} {text : List Char}
    {separator : Char} (unseparated : ∀ character ∈ text, separates character = false)
    (separated : separates separator) (rest : List Char) :
    pieces separates (text ++ separator :: rest) = text :: pieces separates rest := by
  rw [pieces_append_cons separated, pieces_of_not_separated unseparated, List.singleton_append]

theorem pieces_flatMap_append {texts : List (List Char)} {last : List Char}
    (single : ∀ text ∈ texts, '\n' ∉ text) (lastSingle : '\n' ∉ last) :
    pieces (· == '\n') (texts.flatMap (· ++ ['\n']) ++ last) = texts ++ [last] := by
  have notFeed : ∀ {text : List Char}, '\n' ∉ text →
      ∀ character ∈ text, (character == '\n') = false := by
    intro text single character member
    exact beq_eq_false_iff_ne.mpr fun equal => single (equal ▸ member)
  induction texts with
  | nil => exact pieces_of_not_separated (notFeed lastSingle)
  | cons head tail induction =>
      rw [List.flatMap_cons, List.append_assoc, List.append_assoc, List.singleton_append,
        pieces_append_separator (notFeed (single head List.mem_cons_self)) rfl,
        induction fun text member => single text (List.mem_cons_of_mem _ member),
        List.cons_append]

/-- Texts that each end in a line feed are lines, and so is a last text without one
unless it is empty. -/
theorem lines_flatMap_append {texts : List (List Char)} {last : List Char}
    (single : ∀ text ∈ texts, '\n' ∉ text) (lastSingle : '\n' ∉ last) :
    lines (texts.flatMap (· ++ ['\n']) ++ last) =
      texts ++ if last = [] then [] else [last] := by
  rw [lines, pieces_flatMap_append single lastSingle]
  by_cases empty : last = []
  · simp [empty]
  · simp [empty]

/-- Every text is made of lines that end in a line feed and a last one without. -/
theorem exists_flatMap_append (text : List Char) :
    ∃ (texts : List (List Char)) (last : List Char),
      text = texts.flatMap (· ++ ['\n']) ++ last ∧
        (∀ text ∈ texts, '\n' ∉ text) ∧ '\n' ∉ last := by
  induction text with
  | nil => exact ⟨[], [], rfl, List.forall_mem_nil _, List.not_mem_nil⟩
  | cons head tail induction =>
      rcases induction with ⟨texts, last, rfl, single, lastSingle⟩
      by_cases feed : head = '\n'
      · subst feed
        exact ⟨[] :: texts, last, rfl,
          List.forall_mem_cons.mpr ⟨List.not_mem_nil, single⟩, lastSingle⟩
      · have headSingle : ∀ {text : List Char}, '\n' ∉ text → '\n' ∉ head :: text :=
          fun absent => List.not_mem_cons_of_ne_of_not_mem (Ne.symm feed) absent
        cases texts with
        | nil => exact ⟨[], head :: last, rfl, single, headSingle lastSingle⟩
        | cons first others =>
            rw [List.forall_mem_cons] at single
            exact ⟨(head :: first) :: others, last, rfl,
              List.forall_mem_cons.mpr ⟨headSingle single.1, single.2⟩, lastSingle⟩

theorem feed_not_mem_of_mem_lines {text line : List Char} (member : line ∈ lines text) :
    '\n' ∉ line := by
  rcases exists_flatMap_append text with ⟨texts, last, rfl, single, lastSingle⟩
  rw [lines_flatMap_append single lastSingle] at member
  rcases List.mem_append.mp member with member | member
  · exact single line member
  · by_cases empty : last = []
    · rw [if_pos empty] at member
      cases member
    · rw [if_neg empty, List.mem_singleton] at member
      exact member ▸ lastSingle

/-! ## Parts -/

/-- The part from the first character that stops a search on. -/
theorem append_of_dropWhile_eq_cons {passes : Char → Bool} {text after : List Char}
    {stop : Char} (found : text.dropWhile passes = stop :: after) :
    text = text.takeWhile passes ++ stop :: after ∧ passes stop = false := by
  have stops := List.head?_dropWhile_not passes text
  rw [found] at stops
  exact ⟨found ▸ List.takeWhile_append_dropWhile.symm, stops⟩

theorem splitFirst?_append {separator : Char} {before : List Char}
    (absent : separator ∉ before) (after : List Char) :
    splitFirst? separator (before ++ separator :: after) = some (before, after) := by
  have others : ∀ character ∈ before, (character != separator) = true := by
    intro character member
    exact bne_iff_ne.mpr fun equal => absent (equal ▸ member)
  rw [splitFirst?, List.dropWhile_append_of_pos others,
    List.takeWhile_append_of_pos others]
  simp

theorem eq_append_of_splitFirst? {separator : Char} {text before after : List Char}
    (split : splitFirst? separator text = some (before, after)) :
    text = before ++ separator :: after := by
  rw [splitFirst?] at split
  cases found : text.dropWhile (· != separator) with
  | nil =>
      rw [found] at split
      cases split
  | cons stop rest =>
      rw [found] at split
      rcases append_of_dropWhile_eq_cons found with ⟨equal, stops⟩
      have stopEqual : stop = separator := by simpa using stops
      cases split
      rwa [stopEqual] at equal

/-- The separator between the parts is the first one. -/
theorem splitFirst?_eq_some_iff {separator : Char} {text before after : List Char} :
    splitFirst? separator text = some (before, after) ↔
      separator ∉ before ∧ text = before ++ separator :: after := by
  constructor
  · intro split
    refine ⟨?_, eq_append_of_splitFirst? split⟩
    rw [splitFirst?] at split
    split at split
    · cases split
    · cases split
      intro member
      simpa using List.mem_takeWhile_imp member
  · rintro ⟨absent, rfl⟩
    exact splitFirst?_append absent after

/-! ## Pieces and words -/

theorem separates_of_mem_pieces {separates : Char → Bool} {text piece : List Char}
    (member : piece ∈ pieces separates text) :
    ∀ character ∈ piece, separates character = false := by
  induction text generalizing piece with
  | nil =>
      rw [pieces_nil, List.mem_singleton] at member
      simp [member]
  | cons head tail induction =>
      rw [pieces] at member
      by_cases separated : separates head
      · rw [if_pos separated] at member
        rcases List.mem_cons.mp member with rfl | member
        · exact List.forall_mem_nil _
        · exact induction member
      · rw [if_neg separated] at member
        have headPasses : separates head = false := (Bool.not_eq_true _).mp separated
        cases others : pieces separates tail with
        | nil => exact absurd others (pieces_ne_nil separates tail)
        | cons first rest =>
            rw [others] at induction
            simp only [others] at member
            rcases List.mem_cons.mp member with rfl | member
            · exact List.forall_mem_cons.mpr ⟨headPasses, induction List.mem_cons_self⟩
            · exact induction (List.mem_cons_of_mem first member)

theorem pieces_intercalate {separates : Char → Bool} {separator : Char}
    {texts : List (List Char)} (separated : separates separator)
    (unseparated : ∀ text ∈ texts, ∀ character ∈ text, separates character = false)
    (notEmpty : texts ≠ []) :
    pieces separates (List.intercalate [separator] texts) = texts := by
  induction texts with
  | nil => exact absurd rfl notEmpty
  | cons head tail induction =>
      rw [List.forall_mem_cons] at unseparated
      cases tail with
      | nil => rw [List.intercalate_singleton, pieces_of_not_separated unseparated.1]
      | cons second others =>
          rw [List.intercalate_cons_cons, List.append_assoc, List.singleton_append,
            pieces_append_separator unseparated.1 separated,
            induction unseparated.2 (List.cons_ne_nil second others)]

/-- A word is not empty, and all its characters show. -/
def IsWord (word : List Char) : Prop :=
  word ≠ [] ∧ ∀ character ∈ word, isBlank character = false

-- Named, since another instance goes through all characters there are.
instance : DecidablePred IsWord :=
  fun word => @instDecidableAnd _ _ _ (List.decidableBAll _ word)

theorem isWord_of_mem_words {text word : List Char} (member : word ∈ words text) :
    IsWord word := by
  rw [words, List.mem_filter] at member
  exact ⟨by simpa using member.2, separates_of_mem_pieces member.1⟩

/-- Words with a space between each two are found again. -/
theorem words_intercalate {found : List (List Char)} (areWords : ∀ word ∈ found, IsWord word) :
    words (List.intercalate [' '] found) = found := by
  cases found with
  | nil => rfl
  | cons first others =>
      rw [words, pieces_intercalate rfl (fun word member => (areWords word member).2)
        (List.cons_ne_nil first others), List.filter_eq_self]
      intro word member
      simpa using (areWords word member).1

theorem isBlank_eq_false_of_isDigit {character : Char} (digit : character.isDigit) :
    isBlank character = false := by
  have bounds : 48 ≤ character.toNat ∧ character.toNat ≤ 57 := Char.isDigit_iff_toNat.mp digit
  simp only [isBlank, Bool.or_eq_false_iff, Bool.and_eq_false_iff, decide_eq_false_iff_not,
    beq_eq_false_iff_ne]
  omega

theorem eq_or_mem_of_mem_intersperse {separator character : Char} {text : List Char}
    (member : character ∈ text.intersperse separator) :
    character = separator ∨ character ∈ text := by
  induction text with
  | nil => cases member
  | cons head tail induction =>
      cases tail with
      | nil => exact .inr member
      | cons second others =>
          rw [List.intersperse_cons_cons, List.mem_cons, List.mem_cons] at member
          rcases member with rfl | rfl | member
          · exact .inr List.mem_cons_self
          · exact .inl rfl
          · exact (induction member).imp_right (List.mem_cons_of_mem head)

/-- Separators that were put between the characters of a text can be taken out again. -/
theorem filter_intersperse {separator : Char} {text : List Char} (absent : separator ∉ text) :
    (text.intersperse separator).filter (· != separator) = text := by
  induction text with
  | nil => rfl
  | cons head tail induction =>
      have different : head ≠ separator := (List.ne_of_not_mem_cons absent).symm
      have shorter := induction (List.not_mem_of_not_mem_cons absent)
      cases tail with
      | nil => simp [different]
      | cons second others =>
          rw [List.intersperse_cons_cons, List.filter_cons_of_pos (by simp [different]),
            List.filter_cons_of_neg (by simp), shorter]

theorem intercalate_map_singleton (separator : Char) (text : List Char) :
    List.intercalate [separator] (text.map fun character => [character]) =
      text.intersperse separator := by
  induction text with
  | nil => rfl
  | cons head tail induction =>
      cases tail with
      | nil => rfl
      | cons second others =>
          rw [List.map_cons] at induction
          rw [List.map_cons, List.map_cons, List.intercalate_cons_cons, induction,
            List.intersperse_cons_cons]
          rfl

end PackageRecipe.Text
