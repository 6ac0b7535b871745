import PackageRecipe.Proofs.Condition.Grammar
import PackageRecipe.Proofs.Condition.Scanning

/-!
Texts for tokens. A token that some text is made of has a written form of its own, and any
tokens that have one make a text in which the lexer finds them again.
-/

namespace PackageRecipe.Condition

namespace Token

/-- The written form of a token. A text goes into single quotes unless it has one. -/
def spelling : Token → List Char
  | .name word => word.toList
  | .integer value => Nat.toDigits 10 value
  | .text value =>
      let quote := if '\'' ∈ value.toList then '"' else '\''
      quote :: (value.toList ++ [quote])
  | .boolean true => ['T', 'r', 'u', 'e']
  | .boolean false => ['F', 'a', 'l', 's', 'e']
  | .conjunction => ['a', 'n', 'd']
  | .disjunction => ['o', 'r']
  | .negation => ['n', 'o', 't']
  | .membership => ['i', 'n']
  | .relation sign => sign.symbol.toList
  | .opening => ['(']
  | .closing => [')']
  | .comma => [',']

/-- The words that are tokens of their own. -/
def keywords : List String :=
  ["and", "or", "not", "in", "True", "False"]

/-- A letter or a low line, and letters, digits and low lines after it. -/
def IsIdentifier (word : String) : Prop :=
  ∃ head tail, word.toList = head :: tail ∧ isNameStart head ∧
    ∀ part ∈ tail, isNamePart part

theorem spelling_ofWord (word : List Char) : (ofWord word).spelling = word := by
  fun_cases ofWord word
  case case7 => exact String.toList_ofList
  all_goals rfl

theorem ofWord_eq_name_iff {word : List Char} {name : String} :
    ofWord word = .name name ↔ word = name.toList ∧ name ∉ keywords := by
  have keyword : name ∈ keywords ↔ name.toList ∈ [['a', 'n', 'd'], ['o', 'r'],
      ['n', 'o', 't'], ['i', 'n'], ['T', 'r', 'u', 'e'], ['F', 'a', 'l', 's', 'e']] := by
    simp [keywords, ← String.toList_inj]
  rw [keyword]
  fun_cases ofWord word
  case case7 notAnd notOr notNot notIn notTrue notFalse =>
    constructor
    · rintro ⟨⟩
      rw [String.toList_ofList]
      refine ⟨rfl, ?_⟩
      simp only [List.mem_cons, List.not_mem_nil, or_false, not_or]
      exact ⟨notAnd, notOr, notNot, notIn, notTrue, notFalse⟩
    · rintro ⟨rfl, _⟩
      rw [String.ofList_toList]
  all_goals
    constructor
    · rintro ⟨⟩
    · rintro ⟨equal, others⟩
      simp [← equal] at others

/-- Whether a lexeme is a written form of a token. Integers are below `2 ^ 63`. -/
def IsWrittenAs (lexeme : List Char) : Token → Prop
  | .name word => lexeme = word.toList ∧ IsIdentifier word ∧ word ∉ keywords
  | .integer value =>
      lexeme ≠ [] ∧ (∀ digit ∈ lexeme, digit.isDigit) ∧ Text.decimalValue lexeme = value ∧
        value < 0x8000000000000000
  | .text value =>
      ∃ quote, (quote = '\'' ∨ quote = '"') ∧ quote ∉ value.toList ∧
        lexeme = quote :: (value.toList ++ [quote])
  | .relation .member | .relation .notMember => False
  | token => lexeme = token.spelling

theorem isWrittenAs_ofWord {head : Char} {tail : List Char} (starts : isNameStart head)
    (continues : ∀ part ∈ tail, isNamePart part) :
    (ofWord (head :: tail)).IsWrittenAs (head :: tail) := by
  have spelled := spelling_ofWord (head :: tail)
  cases found : ofWord (head :: tail) with
  | name word =>
      rcases ofWord_eq_name_iff.mp found with ⟨letters, free⟩
      exact ⟨letters, ⟨head, tail, letters.symm, starts, continues⟩, free⟩
  | integer | text | relation =>
      revert found
      fun_cases ofWord (head :: tail) <;> rintro ⟨⟩
  | _ =>
      rw [found] at spelled
      exact spelled.symm

theorem isWrittenAs_of_lexeme {token : Token} {lexeme : List Char}
    (written : Lexeme token lexeme) : token.IsWrittenAs lexeme := by
  cases written with
  | opening | closing | comma => rfl
  | word starts continues => exact isWrittenAs_ofWord starts continues
  | integer digits small => exact ⟨List.cons_ne_nil _ _, digits, rfl, small⟩
  | @text quote body quotes closes =>
      refine ⟨quote, quotes, ?_, ?_⟩
      · rwa [String.toList_ofList]
      · rw [String.toList_ofList]
  | @relation sign signs =>
      cases sign with
      | member => exact absurd rfl signs.1
      | notMember => exact absurd rfl signs.2
      | _ => rfl

/-! ## Tokens that can be written -/

@[simp] theorem isSpellable_name_iff {word : String} :
    (Token.name word).IsSpellable ↔ IsIdentifier word ∧ word ∉ keywords := by
  constructor
  · rintro ⟨lexeme, written⟩
    exact (isWrittenAs_of_lexeme written).2
  · rintro ⟨⟨head, tail, letters, starts, continues⟩, free⟩
    have named : ofWord (head :: tail) = .name word :=
      ofWord_eq_name_iff.mpr ⟨letters.symm, free⟩
    exact ⟨head :: tail, named ▸ .word starts continues⟩

theorem lexeme_toDigits {value : Nat} (small : value < integerBound) :
    Lexeme (.integer value) (Nat.toDigits 10 value) := by
  have denotes := Text.decimalValue_toDigits value
  cases digits : Nat.toDigits 10 value with
  | nil => exact absurd digits Nat.toDigits_ne_nil
  | cons head tail =>
      rw [digits] at denotes
      have written : Lexeme (.integer (Text.decimalValue (head :: tail))) (head :: tail) := by
        refine .integer ?_ (denotes.symm ▸ small)
        intro digit member
        rw [← digits] at member
        exact Nat.isDigit_of_mem_toDigits (by omega) (by omega) member
      rwa [denotes] at written

@[simp] theorem isSpellable_integer_iff {value : Nat} :
    (Token.integer value).IsSpellable ↔ value < integerBound := by
  constructor
  · rintro ⟨lexeme, written⟩
    rcases isWrittenAs_of_lexeme written with ⟨_, _, _, small⟩
    exact small
  · intro small
    exact ⟨_, lexeme_toDigits small⟩

theorem lexeme_text {quote : Char} {value : String} (quotes : quote = '\'' ∨ quote = '"')
    (closes : quote ∉ value.toList) :
    Lexeme (.text value) (quote :: (value.toList ++ [quote])) := by
  have written := Lexeme.text quotes closes
  rwa [String.ofList_toList] at written

theorem lexeme_spelling_text {value : String}
    (quotable : '\'' ∉ value.toList ∨ '"' ∉ value.toList) :
    Lexeme (.text value) (Token.text value).spelling := by
  rw [spelling]
  by_cases single : '\'' ∈ value.toList
  · rw [if_pos single]
    exact lexeme_text (.inr rfl) (quotable.resolve_left (not_not_intro single))
  · rw [if_neg single]
    exact lexeme_text (.inl rfl) single

@[simp] theorem isSpellable_text_iff {value : String} :
    (Token.text value).IsSpellable ↔ '\'' ∉ value.toList ∨ '"' ∉ value.toList := by
  constructor
  · rintro ⟨lexeme, written⟩
    rcases isWrittenAs_of_lexeme written with ⟨quote, rfl | rfl, closes, _⟩
    · exact .inl closes
    · exact .inr closes
  · intro quotable
    exact ⟨_, lexeme_spelling_text quotable⟩

/-! The tokens that stand for themselves can be written. -/

@[simp] theorem isSpellable_opening : opening.IsSpellable :=
  ⟨_, .opening⟩

@[simp] theorem isSpellable_closing : closing.IsSpellable :=
  ⟨_, .closing⟩

@[simp] theorem isSpellable_comma : comma.IsSpellable :=
  ⟨_, .comma⟩

theorem isSpellable_ofWord (head : Char) (tail : List Char) (starts : isNameStart head)
    (continues : tail.all isNamePart) : (ofWord (head :: tail)).IsSpellable :=
  ⟨head :: tail, .word starts (List.all_eq_true.mp continues)⟩

@[simp] theorem isSpellable_negation : negation.IsSpellable :=
  isSpellable_ofWord 'n' ['o', 't'] rfl rfl

@[simp] theorem isSpellable_connective (connective : Connective) :
    connective.token.IsSpellable := by
  cases connective with
  | disjunction => exact isSpellable_ofWord 'o' ['r'] rfl rfl
  | conjunction => exact isSpellable_ofWord 'a' ['n', 'd'] rfl rfl

@[simp] theorem isSpellable_boolean (value : Bool) : (boolean value).IsSpellable := by
  cases value with
  | true => exact isSpellable_ofWord 'T' ['r', 'u', 'e'] rfl rfl
  | false => exact isSpellable_ofWord 'F' ['a', 'l', 's', 'e'] rfl rfl

theorem isSpellable_relationTokens (relation : Relation) :
    ∀ token ∈ relationTokens relation, token.IsSpellable := by
  have membership : Token.membership.IsSpellable :=
    isSpellable_ofWord 'i' ['n'] rfl rfl
  cases relation with
  | member | notMember => simpa [relationTokens] using membership
  | _ =>
      simp only [relationTokens, List.forall_mem_singleton]
      exact ⟨_, .relation (by decide)⟩

theorem IsSpellable.lexeme {token : Token} (spellable : token.IsSpellable) :
    Lexeme token token.spelling := by
  rcases spellable with ⟨_, written⟩
  cases written with
  | opening => exact .opening
  | closing => exact .closing
  | comma => exact .comma
  | word starts continues =>
      rw [spelling_ofWord]
      exact .word starts continues
  | integer digits small => exact lexeme_toDigits small
  | text quotes closes =>
      exact lexeme_spelling_text (isSpellable_text_iff.mp ⟨_, .text quotes closes⟩)
  | relation signs => exact .relation signs

theorem lexeme_of_isWrittenAs {token : Token} {lexeme : List Char}
    (written : token.IsWrittenAs lexeme) : Lexeme token lexeme := by
  cases token with
  | name word =>
      rcases written with ⟨rfl, identifier, free⟩
      exact (isSpellable_name_iff.mpr ⟨identifier, free⟩).lexeme
  | integer value =>
      rcases written with ⟨notEmpty, digits, rfl, small⟩
      rcases List.exists_cons_of_ne_nil notEmpty with ⟨head, tail, rfl⟩
      exact .integer digits small
  | text value =>
      rcases written with ⟨quote, quotes, closes, rfl⟩
      exact lexeme_text quotes closes
  | relation sign =>
      cases sign with
      | member | notMember => exact written.elim
      | _ => exact written ▸ .relation (by decide)
  | opening => exact written ▸ .opening
  | closing => exact written ▸ .closing
  | comma => exact written ▸ .comma
  | boolean value => exact written ▸ (isSpellable_boolean value).lexeme
  | conjunction => exact written ▸ (isSpellable_connective .conjunction).lexeme
  | disjunction => exact written ▸ (isSpellable_connective .disjunction).lexeme
  | negation => exact written ▸ isSpellable_negation.lexeme
  | membership => exact written ▸ (isSpellable_ofWord 'i' ['n'] rfl rfl).lexeme

/-- Whether two tokens stand next to each other without a blank. -/
def adjoins (left right : Token) : Bool :=
  left = .opening || right = .closing || right = .comma

end Token

/-- The tokens as a text. -/
def spell : List Token → List Char
  | [] => []
  | [token] => token.spelling
  | left :: right :: rest =>
      left.spelling ++ ((if left.adjoins right then [] else [' ']) ++ spell (right :: rest))

example : spell [.opening, .name "py", .comma, .integer 27, .comma, .closing] =
    "(py, 27,)".toList := by decide

theorem exists_spell_cons (token : Token) (rest : List Token) :
    ∃ follow, spell (token :: rest) = token.spelling ++ follow := by
  cases rest with
  | nil => exact ⟨[], (List.append_nil _).symm⟩
  | cons next rest => exact ⟨_, rfl⟩

/-- A parenthesis or a comma keeps the tokens around it apart without a blank. -/
theorem stopsBefore_of_adjoins {left right : Token} (adjoins : left.adjoins right)
    (rest : List Token) : left.StopsBefore (spell (right :: rest)) := by
  rcases exists_spell_cons right rest with ⟨follow, equal⟩
  simp only [Token.adjoins, Bool.or_eq_true, decide_eq_true_eq] at adjoins
  rcases adjoins with (rfl | rfl) | rfl
  · trivial
  · rw [equal]
    exact stopsBefore_cons left rfl (by decide) follow
  · rw [equal]
    exact stopsBefore_cons left rfl (by decide) follow

theorem stopsBefore_nil (token : Token) : token.StopsBefore [] := by
  cases token with
  | relation sign => cases sign <;> simp [Token.StopsBefore]
  | _ => simp [Token.StopsBefore]

theorem exists_spelled_spell {tokens : List Token}
    (spellable : ∀ token ∈ tokens, token.IsSpellable) (position : Nat) :
    ∃ located, located.map Located.token = tokens ∧
      Spelled position (spell tokens) located := by
  induction tokens using spell.induct generalizing position with
  | case1 => exact ⟨[], rfl, .nil position⟩
  | case2 token =>
      have written := (spellable token List.mem_cons_self).lexeme
      have spelled : Spelled position (token.spelling ++ []) [⟨position, token⟩] :=
        .lexeme written (stopsBefore_nil token) (.nil _)
      rw [List.append_nil] at spelled
      exact ⟨_, rfl, spelled⟩
  | case3 left right rest induction =>
      rw [List.forall_mem_cons] at spellable
      have written := spellable.1.lexeme
      rw [spell]
      by_cases adjoins : left.adjoins right
      · rcases induction spellable.2 (position + left.spelling.length) with
          ⟨located, same, spelled⟩
        rw [if_pos adjoins, List.nil_append]
        exact ⟨⟨position, left⟩ :: located, by rw [List.map_cons, same],
          .lexeme written (stopsBefore_of_adjoins adjoins rest) spelled⟩
      · rcases induction spellable.2 (position + left.spelling.length + 1) with
          ⟨located, same, spelled⟩
        rw [if_neg adjoins, List.singleton_append]
        exact ⟨⟨position, left⟩ :: located, by rw [List.map_cons, same],
          .lexeme written (stopsBefore_of_isBlank left rfl _) (.blank rfl spelled)⟩

/-- The lexer finds the tokens again in the text that they make. -/
theorem exists_tokens_spell {scanned : List Token}
    (spellable : ∀ token ∈ scanned, token.IsSpellable) :
    ∃ located, tokens (spell scanned) = .ok located ∧ located.map Located.token = scanned := by
  rcases exists_spelled_spell spellable 0 with ⟨located, same, spelled⟩
  exact ⟨located, tokensFrom_of_spelled spelled, same⟩

end PackageRecipe.Condition
