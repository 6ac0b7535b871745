import PackageRecipe.Proofs.Outcome
import PackageRecipe.Proofs.Text
import PackageRecipe.Requirement

/-!
Requirements as words. Reading a requirement keeps its words and nothing of the blanks
between them, so the text of a requirement is read as the same requirement again.
-/

namespace PackageRecipe.Requirement

/-! ## Words -/

def wordsOf (text : String) : List String :=
  (Text.words text.toList).map String.ofList

/-- A text has the number of words that a requirement has. -/
def HasParts (text : String) : Prop :=
  1 ≤ (wordsOf text).length ∧ (wordsOf text).length ≤ 3

theorem isWord_of_mem_wordsOf {text word : String} (member : word ∈ wordsOf text) :
    Text.IsWord word.toList := by
  rcases List.mem_map.mp member with ⟨characters, found, rfl⟩
  rw [String.toList_ofList]
  exact Text.isWord_of_mem_words found

theorem toList_joined (words : List String) :
    (joined words).toList = List.intercalate [' '] (words.map String.toList) :=
  String.toList_intercalate

theorem wordsOf_joined {words : List String}
    (areWords : ∀ word ∈ words, Text.IsWord word.toList) : wordsOf (joined words) = words := by
  have characters : ∀ word ∈ words.map String.toList, Text.IsWord word := by
    simpa using areWords
  rw [wordsOf, toList_joined, Text.words_intercalate characters]
  simp

/-! ## Requirements from words -/

def ofWords (words : List String) : Requirement :=
  ⟨joined words, words.headD "", words.length⟩

theorem parse_eq (text : String) :
    parse text =
      if wordsOf text = [] then .error .empty
      else if 3 < (wordsOf text).length then .error (.tooManyParts text)
      else .ok (ofWords (wordsOf text)) := by
  rw [parse, wordsOf]
  rcases (Text.words text.toList).map String.ofList with
    _ | ⟨first, _ | ⟨second, _ | ⟨third, _ | ⟨fourth, others⟩⟩⟩⟩
  · rfl
  · rfl
  · rfl
  · rfl
  · simp

theorem parse_eq_ok_iff {text : String} {requirement : Requirement} :
    parse text = .ok requirement ↔ HasParts text ∧ requirement = ofWords (wordsOf text) := by
  rw [parse_eq, HasParts]
  by_cases noWords : wordsOf text = []
  · simp [noWords]
  · have positive : 1 ≤ (wordsOf text).length := List.length_pos_iff.mpr noWords
    rw [if_neg noWords]
    by_cases many : 3 < (wordsOf text).length
    · rw [if_pos many]
      simp only [reduceCtorEq, false_iff, not_and]
      omega
    · rw [if_neg many]
      simp only [positive, Nat.not_lt.mp many, Except.ok.injEq, true_and, eq_comm]

theorem parse_eq_error_iff {text : String} {cause : Error} :
    parse text = .error cause ↔
      wordsOf text = [] ∧ cause = .empty ∨
        3 < (wordsOf text).length ∧ cause = .tooManyParts text := by
  rw [parse_eq]
  by_cases noWords : wordsOf text = []
  · simp [noWords, eq_comm]
  · rw [if_neg noWords]
    by_cases many : 3 < (wordsOf text).length
    · rw [if_pos many]
      simp only [noWords, many, Except.error.injEq, false_and, false_or, true_and, eq_comm]
    · rw [if_neg many]
      simp only [noWords, many, reduceCtorEq, false_and, or_false]

theorem exists_parse_eq_ok_iff {text : String} :
    (∃ requirement, parse text = .ok requirement) ↔ HasParts text := by
  simp [parse_eq_ok_iff]

theorem parts_ofWords {words : List String} (notEmpty : words ≠ [])
    (areWords : ∀ word ∈ words, Text.IsWord word.toList) : (ofWords words).parts = words := by
  have noSpace : ∀ word ∈ words.map String.toList, ∀ character ∈ word,
      (character == ' ') = false := by
    intro characters member character within
    rcases List.mem_map.mp member with ⟨word, wordMember, rfl⟩
    have shows := (areWords word wordMember).2 character within
    rw [beq_eq_false_iff_ne]
    intro equal
    rw [equal] at shows
    cases shows
  rw [parts, ofWords, toList_joined,
    Text.pieces_intercalate rfl noSpace (List.map_eq_nil_iff.not.mpr notEmpty)]
  simp

/-! ## Runtimes in given versions -/

theorem isWord_dotted (version : UInt32) : Text.IsWord (dotted version ++ "*").toList := by
  constructor
  · simp
  · intro character member
    rw [String.toList_append, dotted, String.toList_ofList, List.mem_append] at member
    rcases member with member | member
    · rcases Text.eq_or_mem_of_mem_intersperse member with rfl | digit
      · rfl
      · apply Text.isBlank_eq_false_of_isDigit
        exact Nat.isDigit_of_mem_toDigits (by omega) (by omega) digit
    · rw [List.mem_singleton.mp member]
      rfl

theorem pinned_eq_ofWords (runtime : String) (version : UInt32) :
    pinned runtime version = ofWords [runtime, dotted version ++ "*"] := by
  have text : s!"{runtime} {dotted version}*" = joined [runtime, dotted version ++ "*"] := by
    apply String.ext
    simp [joined, toString]
  rw [pinned, text]
  rfl

theorem areWords_pinned {name : String} (isWord : Text.IsWord name.toList) (version : UInt32) :
    ∀ word ∈ [name, dotted version ++ "*"], Text.IsWord word.toList := by
  simp only [List.forall_mem_cons]
  exact ⟨isWord, isWord_dotted version, List.forall_mem_nil _⟩

theorem version?_pinned {name : String} (isWord : Text.IsWord name.toList) (version : UInt32) :
    (pinned name version).version? = some (dotted version ++ "*") := by
  rw [pinned_eq_ofWords, version?,
    parts_ofWords (List.cons_ne_nil _ _) (areWords_pinned isWord version)]
  rfl

end PackageRecipe.Requirement
