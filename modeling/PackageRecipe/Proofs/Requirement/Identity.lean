import PackageRecipe.Proofs.Requirement
import PackageRecipe.Proofs.Text.ByteOrder
import PackageRecipe.Proofs.Text.Numeral

/-!
The text of a requirement tells everything about it. Requirements are the same, and come in
the same order, as their texts, and name, version, build and strictness are found again in
the words of the text.
-/

namespace PackageRecipe.Requirement

/-- A requirement is made of the words of the text that it is read from, or of the name and
the version of the runtime that it pins. -/
inductive MadeOf : Requirement → List String → Prop
  | parsed {text : String} {requirement : Requirement} (read : parse text = .ok requirement) :
      MadeOf requirement (wordsOf text)
  | pinned {name : String} (isWord : Text.IsWord name.toList) (version : UInt32) :
      MadeOf (pinned name version) [name, dotted version ++ "*"]

def IsObtained (requirement : Requirement) : Prop :=
  ∃ words, MadeOf requirement words

/-! ## Words -/

namespace MadeOf

variable {requirement : Requirement} {words : List String}

theorem eq_ofWords (made : MadeOf requirement words) : requirement = ofWords words := by
  cases made with
  | parsed read => exact (parse_eq_ok_iff.mp read).2
  | pinned _ version => exact pinned_eq_ofWords _ version

theorem areWords (made : MadeOf requirement words) :
    ∀ word ∈ words, Text.IsWord word.toList := by
  cases made with
  | parsed => exact fun _ => isWord_of_mem_wordsOf
  | pinned isWord version => exact areWords_pinned isWord version

theorem length_bounds (made : MadeOf requirement words) :
    1 ≤ words.length ∧ words.length ≤ 3 := by
  cases made with
  | parsed read => exact (parse_eq_ok_iff.mp read).1
  | pinned => simp

theorem ne_nil (made : MadeOf requirement words) : words ≠ [] :=
  List.length_pos_iff.mp made.length_bounds.1

theorem parts_eq (made : MadeOf requirement words) : requirement.parts = words := by
  rw [made.eq_ofWords]
  exact parts_ofWords made.ne_nil made.areWords

theorem head?_eq (made : MadeOf requirement words) : words.head? = some requirement.name := by
  rw [made.eq_ofWords]
  cases words with
  | nil => exact absurd rfl made.ne_nil
  | cons => rfl

/-- The words are those of the text. -/
theorem wordsOf_text (made : MadeOf requirement words) : wordsOf requirement.text = words := by
  rw [made.eq_ofWords]
  exact wordsOf_joined made.areWords

theorem parse_text (made : MadeOf requirement words) :
    parse requirement.text = .ok requirement := by
  rw [parse_eq_ok_iff, HasParts, made.wordsOf_text]
  exact ⟨made.length_bounds, made.eq_ofWords⟩

end MadeOf

/-! ## Equality and order -/

variable {left right : Requirement}

theorem IsObtained.eq_iff (leftObtained : IsObtained left) (rightObtained : IsObtained right) :
    left = right ↔ left.text = right.text := by
  rcases leftObtained with ⟨_, leftMade⟩
  rcases rightObtained with ⟨_, rightMade⟩
  constructor
  · exact congrArg text
  · intro same
    have read := leftMade.parse_text
    rw [same, rightMade.parse_text] at read
    exact (Except.ok.inj read).symm

/-- Name and strictness, which come after the texts in the order, never decide. -/
theorem IsObtained.compare_eq (leftObtained : IsObtained left)
    (rightObtained : IsObtained right) :
    compare left right = compare (Text.bytes left.text) (Text.bytes right.text) := by
  have order : compare left right =
      ((compare left.text right.text).then (compare left.name right.name)).then
        (compare left.strictness right.strictness) := rfl
  rw [Text.compare_bytes, order]
  cases found : compare left.text right.text with
  | lt => rfl
  | gt => rfl
  | eq =>
      rw [(leftObtained.eq_iff rightObtained).mpr (compare_eq_iff_eq.mp found),
        Std.compare_self, Std.compare_self]
      rfl

theorem map_text_mergeSort {requirements : List Requirement}
    (obtained : ∀ requirement ∈ requirements, IsObtained requirement) :
    (requirements.mergeSort fun left right => (compare left right).isLE).map text =
      (requirements.map text).mergeSort fun left right =>
        (compare (Text.bytes left) (Text.bytes right)).isLE := by
  apply List.map_mergeSort
  intro left leftMember right rightMember
  rw [(obtained left leftMember).compare_eq (obtained right rightMember)]

/-! ## Texts with the same words -/

/-- The blanks around the words of a text are seen in the error that repeats it, and nowhere
else. -/
theorem parse_congr {text other : String}
    (same : Text.words text.toList = Text.words other.toList) :
    (wordsOf text).length ≤ 3 ∧ parse text = parse other ∨
      4 ≤ (wordsOf text).length ∧ parse text = .error (.tooManyParts text) ∧
        parse other = .error (.tooManyParts other) := by
  have sameWords : wordsOf other = wordsOf text := by rw [wordsOf, wordsOf, same]
  by_cases few : (wordsOf text).length ≤ 3
  · apply Or.inl
    refine ⟨few, ?_⟩
    rw [parse_eq, parse_eq, sameWords, if_neg (Nat.not_lt.mpr few), if_neg (Nat.not_lt.mpr few)]
  · apply Or.inr
    have many : 3 < (wordsOf text).length := by omega
    refine ⟨many, parse_eq_error_iff.mpr (.inr ⟨many, rfl⟩), parse_eq_error_iff.mpr (.inr ?_)⟩
    exact ⟨sameWords ▸ many, rfl⟩

theorem parse_eq_empty_iff {text : String} :
    parse text = .error .empty ↔ Text.words text.toList = [] := by
  simp [parse_eq_error_iff, wordsOf]

/-! ## Versions of pinned runtimes -/

theorem readUnsigned?_toDigits (version : UInt32) :
    Text.readUnsigned? UInt32.size (Nat.toDigits 10 version.toNat) = some version.toNat := by
  rw [Text.readUnsigned?_eq_some_iff]
  refine ⟨⟨_, .inl rfl, Nat.toDigits_ne_nil, ?_, Text.decimalValue_toDigits _⟩,
    version.toNat_lt⟩
  exact fun digit member => Nat.isDigit_of_mem_toDigits (by omega) (by omega) member

/-- The points that `dotted` puts between digits are the only ones. -/
theorem filter_dotted (version : UInt32) :
    (dotted version).toList.filter (· != '.') = Nat.toDigits 10 version.toNat := by
  rw [dotted, String.toList_ofList]
  apply Text.filter_intersperse
  intro member
  have digit := Nat.isDigit_of_mem_toDigits (b := 10) (by omega) (by omega) member
  cases digit

/-- Without its points and the star at its end, the version of a pin is the decimal numeral
of the version that was asked for. -/
theorem readUnsigned?_version?_pinned {name : String} (isWord : Text.IsWord name.toList)
    (version : UInt32) :
    ∃ shown, (pinned name version).version? = some (String.ofList (shown ++ ['*'])) ∧
      Text.readUnsigned? UInt32.size (shown.filter (· != '.')) = some version.toNat := by
  refine ⟨(dotted version).toList, ?_, ?_⟩
  · rw [version?_pinned isWord]
    simp
  · rw [filter_dotted]
    exact readUnsigned?_toDigits version

theorem pinned_inj {name other : String} (isWord : Text.IsWord name.toList)
    (otherIsWord : Text.IsWord other.toList) {version otherVersion : UInt32} :
    pinned name version = pinned other otherVersion ↔
      name = other ∧ version = otherVersion := by
  constructor
  · intro same
    refine ⟨congrArg Requirement.name same, ?_⟩
    have versions : some (dotted version ++ "*") = some (dotted otherVersion ++ "*") := by
      rw [← version?_pinned isWord, same, version?_pinned otherIsWord]
    have shown : (dotted version).toList = (dotted otherVersion).toList := by
      simpa using congrArg (Option.map String.toList) versions
    have numerals := congrArg (List.filter (· != '.')) shown
    rw [filter_dotted, filter_dotted] at numerals
    have values := congrArg Text.decimalValue numerals
    rw [Text.decimalValue_toDigits, Text.decimalValue_toDigits] at values
    exact UInt32.toNat_inj.mp values
  · rintro ⟨rfl, rfl⟩
    rfl

/-! ## Requirements and their texts -/

/-- A requirement that is read or pinned is its text. The text has the words of the
requirement between single spaces, the parts are found again in it, and it reads as the same
requirement. Requirements are equal as their texts are and are sorted as their texts are, by
bytes. Texts with the same words are read alike, except that the error about too many words
repeats the text. A pin keeps the version it was made for. -/
theorem text_decides_requirement :
    (∀ (requirement : Requirement) (words : List String), MadeOf requirement words →
      (∀ word ∈ words, Text.IsWord word.toList) ∧
        requirement.text = String.intercalate " " words ∧
        words[0]? = some requirement.name ∧
        requirement.version? = words[1]? ∧ requirement.build? = words[2]? ∧
        requirement.strictness = words.length ∧
        parse requirement.text = .ok requirement) ∧
    (∀ left right : Requirement, IsObtained left → IsObtained right →
      (left = right ↔ left.text = right.text) ∧
        compare left right = compare (Text.bytes left.text) (Text.bytes right.text)) ∧
    (∀ requirements : List Requirement, (∀ requirement ∈ requirements, IsObtained requirement) →
      (requirements.mergeSort fun left right => (compare left right).isLE).map text =
        (requirements.map text).mergeSort fun left right =>
          (compare (Text.bytes left) (Text.bytes right)).isLE) ∧
    (∀ text other : String, Text.words text.toList = Text.words other.toList →
      (wordsOf text).length ≤ 3 ∧ parse text = parse other ∨
        4 ≤ (wordsOf text).length ∧ parse text = .error (.tooManyParts text) ∧
          parse other = .error (.tooManyParts other)) ∧
    (∀ text : String, parse text = .error .empty ↔ Text.words text.toList = []) ∧
    (∀ (name : String) (version : UInt32), Text.IsWord name.toList →
      ∃ shown, (pinned name version).version? = some (String.ofList (shown ++ ['*'])) ∧
        Text.readUnsigned? UInt32.size (shown.filter (· != '.')) = some version.toNat) ∧
    (∀ (name other : String) (version otherVersion : UInt32), Text.IsWord name.toList →
      Text.IsWord other.toList → version ≠ otherVersion →
        pinned name version ≠ pinned other otherVersion) := by
  refine ⟨?words, ?equality, ?sorting, ?blanks, ?empty, ?version, ?pins⟩
  case words =>
    intro requirement words made
    refine ⟨made.areWords, congrArg text made.eq_ofWords, ?_, ?_, ?_,
      congrArg strictness made.eq_ofWords, made.parse_text⟩
    · rw [← List.head?_eq_getElem?, made.head?_eq]
    · rw [version?, made.parts_eq]
    · rw [build?, made.parts_eq]
  case equality =>
    intro left right leftObtained rightObtained
    exact ⟨leftObtained.eq_iff rightObtained, leftObtained.compare_eq rightObtained⟩
  case sorting => exact fun _ obtained => map_text_mergeSort obtained
  case blanks => exact fun _ _ same => parse_congr same
  case empty => exact fun _ => parse_eq_empty_iff
  case version => exact fun _ version isWord => readUnsigned?_version?_pinned isWord version
  case pins =>
    intro name other version otherVersion isWord otherIsWord different same
    exact different ((pinned_inj isWord otherIsWord).mp same).2

/-- A pin of one version and a requirement read from spaced words are ordered by their
texts. -/
theorem text_decides_requirement_numpy :
    ∃ requirement, parse " numpy\t1.9*  py27_0 " = .ok requirement ∧
      parse requirement.text = .ok requirement ∧
      requirement.version? = some "1.9*" ∧
      compare (pinned "numpy" 110) requirement =
        compare (Text.bytes "numpy 1.1.0*") (Text.bytes "numpy 1.9* py27_0") ∧
      pinned "numpy" 110 ≠ pinned "numpy" 11 := by
  rcases text_decides_requirement with ⟨words, equality, -, -, -, -, pins⟩
  have isWord : Text.IsWord "numpy".toList := by decide
  have read : parse " numpy\t1.9*  py27_0 " = .ok ⟨"numpy 1.9* py27_0", "numpy", 3⟩ := by
    decide +kernel
  have made := MadeOf.parsed read
  have parts := words _ _ made
  refine ⟨_, read, parts.2.2.2.2.2.2, ?_, ?_, pins _ _ _ _ isWord isWord (by decide)⟩
  · rw [parts.2.2.2.1]
    decide +kernel
  · exact (equality _ _ ⟨_, .pinned isWord 110⟩ ⟨_, made⟩).2

end PackageRecipe.Requirement
