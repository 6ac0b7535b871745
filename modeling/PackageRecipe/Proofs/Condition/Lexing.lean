import Mathlib.Data.List.TakeWhile
import PackageRecipe.Condition.Token
import PackageRecipe.Proofs.Outcome

/-!
What the lexer makes of a text. A text is spelled from lexemes with blanks between
them, and none is needed where a lexeme cannot go on into the next one; the lexer
finds the tokens of every text that is spelled in this way, and their positions.
-/

namespace PackageRecipe.Condition

/-- The written forms of the tokens. -/
inductive Lexeme : Token → List Char → Prop
  | opening : Lexeme .opening ['(']
  | closing : Lexeme .closing [')']
  | comma : Lexeme .comma [',']
  | word {head : Char} {tail : List Char} (starts : Token.isNameStart head)
      (continues : ∀ part ∈ tail, Token.isNamePart part) :
      Lexeme (Token.ofWord (head :: tail)) (head :: tail)
  | integer {head : Char} {tail : List Char}
      (digits : ∀ digit ∈ head :: tail, digit.isDigit)
      (small : Text.decimalValue (head :: tail) < Token.integerBound) :
      Lexeme (.integer (Text.decimalValue (head :: tail))) (head :: tail)
  | text {quote : Char} {body : List Char} (quotes : quote = '\'' ∨ quote = '"')
      (closes : quote ∉ body) :
      Lexeme (.text (String.ofList body)) (quote :: (body ++ [quote]))
  | relation {sign : Relation} (signs : sign ≠ .member ∧ sign ≠ .notMember) :
      Lexeme (.relation sign) sign.symbol.toList

/-- Whether a lexeme of a token cannot go on into the text after it. -/
def Token.StopsBefore (follow : List Char) : Token → Prop
  | .name _ | .boolean _ | .conjunction | .disjunction | .negation | .membership =>
      ∀ next ∈ follow.head?, isNamePart next = false
  | .integer _ => ∀ next ∈ follow.head?, next.isAlphanum = false
  | .relation .less | .relation .greater => follow.head? ≠ some '='
  | .relation _ | .text _ | .opening | .closing | .comma => True

/-- A text that stands `position` characters into a condition is spelled from the
lexemes of tokens, at their positions, and from blanks. -/
inductive Spelled : (position : Nat) → List Char → List Located → Prop
  | nil (position : Nat) : Spelled position [] []
  | blank {position : Nat} {head : Char} {tail : List Char} {tokens : List Located}
      (blank : Text.isBlank head) (rest : Spelled (position + 1) tail tokens) :
      Spelled position (head :: tail) tokens
  | lexeme {position : Nat} {token : Token} {lexeme text : List Char}
      {tokens : List Located} (written : Lexeme token lexeme)
      (stops : token.StopsBefore text)
      (rest : Spelled (position + lexeme.length) text tokens) :
      Spelled position (lexeme ++ text) (⟨position, token⟩ :: tokens)

/-! ## Characters -/

theorem isDigit_iff (character : Char) :
    character.isDigit ↔ 48 ≤ character.toNat ∧ character.toNat ≤ 57 :=
  Char.isDigit_iff_toNat

theorem isAlpha_iff (character : Char) :
    character.isAlpha ↔ (65 ≤ character.toNat ∧ character.toNat ≤ 90) ∨
      (97 ≤ character.toNat ∧ character.toNat ≤ 122) := by
  have upper : character.isUpper ↔ 65 ≤ character.toNat ∧ character.toNat ≤ 90 := by
    change decide ('A'.val ≤ character.val ∧ character.val ≤ 'Z'.val) = true ↔ _
    simp [UInt32.le_iff_toNat_le, ← Char.toNat_val]
  have lower : character.isLower ↔ 97 ≤ character.toNat ∧ character.toNat ≤ 122 := by
    change (decide ('a'.val ≤ character.val) && decide (character.val ≤ 'z'.val)) = true ↔ _
    simp [UInt32.le_iff_toNat_le, ← Char.toNat_val]
  rw [← upper, ← lower, ← Bool.or_eq_true]
  rfl

theorem eq_underscore_iff (character : Char) : character = '_' ↔ character.toNat = 95 :=
  ⟨fun equal => equal ▸ rfl, fun equal => Char.toNat_inj.mp equal⟩

/-- Name parts are letters, digits and the underscore, all of them between these code
points. -/
theorem isNamePart_iff (character : Char) : Token.isNamePart character ↔
    (48 ≤ character.toNat ∧ character.toNat ≤ 57) ∨
      (65 ≤ character.toNat ∧ character.toNat ≤ 90) ∨ character.toNat = 95 ∨
      (97 ≤ character.toNat ∧ character.toNat ≤ 122) := by
  simp only [Token.isNamePart, Char.isAlphanum, Bool.or_eq_true, beq_iff_eq, isDigit_iff,
    isAlpha_iff, eq_underscore_iff]
  omega

theorem isNamePart_of_isNameStart {character : Char}
    (starts : Token.isNameStart character) : Token.isNamePart character := by
  simp only [Token.isNameStart, Token.isNamePart, Char.isAlphanum, Bool.or_eq_true] at *
  exact starts.imp_left .inl

theorem isDigit_eq_false_of_isNameStart {character : Char}
    (starts : Token.isNameStart character) : character.isDigit = false := by
  rw [← Bool.not_eq_true, isDigit_iff]
  simp only [Token.isNameStart, Bool.or_eq_true, beq_iff_eq, isAlpha_iff,
    eq_underscore_iff] at starts
  omega

theorem isNamePart_of_isDigit {character : Char} (digit : character.isDigit) :
    Token.isNamePart character := by
  simp [Token.isNamePart, Char.isAlphanum, digit]

theorem isBlank_eq_false_of_isNamePart {character : Char}
    (part : Token.isNamePart character) : Text.isBlank character = false := by
  rw [isNamePart_iff] at part
  simp only [Text.isBlank, Bool.or_eq_false_iff, Bool.and_eq_false_iff,
    decide_eq_false_iff_not, beq_eq_false_iff_ne]
  omega

/-- What can stand in a name is no sign that the lexer knows. -/
theorem not_sign_of_isNamePart {character : Char} (part : Token.isNamePart character) :
    character ≠ '(' ∧ character ≠ ')' ∧ character ≠ ',' ∧
      ¬(character = '\'' ∨ character = '"') ∧
      ¬(character = '=' ∨ character = '!' ∨ character = '<' ∨ character = '>') := by
  have different : ∀ other, Token.isNamePart other = false → character ≠ other := by
    rintro other notPart rfl
    simp [part] at notPart
  refine ⟨different _ rfl, different _ rfl, different _ rfl, ?_, ?_⟩
  · rintro (equal | equal) <;> exact different _ rfl equal
  · rintro (equal | equal | equal | equal) <;> exact different _ rfl equal

/-! ## Lexemes -/

theorem takeWhile_append_of_stops {follow taken : List Char} {continues : Char → Bool}
    (all : ∀ character ∈ taken, continues character)
    (stops : ∀ next ∈ follow.head?, continues next = false) :
    (taken ++ follow).takeWhile continues = taken := by
  rw [List.takeWhile_append_of_pos all]
  cases follow with
  | nil => simp
  | cons next rest => simp [stops next rfl]

/-- What can neither stand in a name nor end a sign ends every lexeme. -/
theorem stopsBefore_cons (token : Token) {next : Char}
    (notPart : Token.isNamePart next = false) (notEquals : next ≠ '=') (rest : List Char) :
    token.StopsBefore (next :: rest) := by
  have notAlphanum : next.isAlphanum = false := by
    rw [Token.isNamePart, Bool.or_eq_false_iff] at notPart
    exact notPart.1
  cases token with
  | relation sign => cases sign <;> simp [Token.StopsBefore, notEquals]
  | _ => simp [Token.StopsBefore, notPart, notAlphanum]

/-- Blanks end every lexeme. -/
theorem stopsBefore_of_isBlank (token : Token) {next : Char} (blank : Text.isBlank next)
    (rest : List Char) : token.StopsBefore (next :: rest) := by
  have notPart : Token.isNamePart next = false := by
    by_contra part
    have notBlank := isBlank_eq_false_of_isNamePart (Bool.not_eq_false _ ▸ part)
    simp [blank] at notBlank
  have notEquals : next ≠ '=' := by
    rintro rfl
    exact absurd blank (by decide)
  exact stopsBefore_cons token notPart notEquals rest

theorem first_name {head : Char} {tail follow : List Char}
    (starts : Token.isNameStart head) (continues : ∀ part ∈ tail, Token.isNamePart part)
    (stops : ∀ next ∈ follow.head?, Token.isNamePart next = false) :
    Token.first head (tail ++ follow) =
      .ok (Token.ofWord (head :: tail), tail.length) := by
  have part := isNamePart_of_isNameStart starts
  rcases not_sign_of_isNamePart part with
    ⟨notOpening, notClosing, notComma, notQuote, notSign⟩
  have notDigit : ¬head.isDigit = true := by
    simp [isDigit_eq_false_of_isNameStart starts]
  rw [Token.first, if_neg notOpening, if_neg notClosing, if_neg notComma, if_neg notQuote,
    if_neg notSign, if_neg notDigit, if_pos starts,
    takeWhile_append_of_stops continues stops]

theorem stops_of_ofWord {word follow : List Char}
    (stops : (Token.ofWord word).StopsBefore follow) :
    ∀ next ∈ follow.head?, Token.isNamePart next = false := by
  revert stops
  fun_cases Token.ofWord word <;> exact id

theorem first_integer {head : Char} {tail follow : List Char}
    (digits : ∀ digit ∈ head :: tail, digit.isDigit)
    (small : Text.decimalValue (head :: tail) < Token.integerBound)
    (stops : ∀ next ∈ follow.head?, next.isAlphanum = false) :
    Token.first head (tail ++ follow) =
      .ok (.integer (Text.decimalValue (head :: tail)), tail.length) := by
  have digit := digits head List.mem_cons_self
  have part := isNamePart_of_isDigit digit
  rcases not_sign_of_isNamePart part with
    ⟨notOpening, notClosing, notComma, notQuote, notSign⟩
  have others : (tail ++ follow).takeWhile (·.isAlphanum) = tail :=
    takeWhile_append_of_stops
      (fun next member => by
        simp [Char.isAlphanum, digits next (List.mem_cons_of_mem _ member)]) stops
  have value : Text.readUnsigned? Token.integerBound (head :: tail) =
      some (Text.decimalValue (head :: tail)) := by
    rw [Text.readUnsigned?, Text.readDigits?,
      if_pos ⟨List.cons_ne_nil _ _, List.all_eq_true.mpr digits⟩]
    · exact if_pos small
    · rintro rest equal
      rw [(List.cons.inj equal).1] at digit
      simp at digit
  rw [Token.first, if_neg notOpening, if_neg notClosing, if_neg notComma, if_neg notQuote,
    if_neg notSign, if_pos digit, others]
  simp only [value]

theorem first_text {quote : Char} {body : List Char} (follow : List Char)
    (quotes : quote = '\'' ∨ quote = '"') (closes : quote ∉ body) :
    Token.first quote (body ++ [quote] ++ follow) =
      .ok (.text (String.ofList body), body.length + 1) := by
  have before : (body ++ [quote] ++ follow).takeWhile (· != quote) = body := by
    rw [List.append_assoc]
    refine takeWhile_append_of_stops ?_ ?_
    · intro character member
      exact bne_iff_ne.mpr fun equal => closes (equal ▸ member)
    · simp
  have different : ∀ other, other ≠ '\'' ∧ other ≠ '"' → quote ≠ other := by
    rintro other neither rfl
    exact quotes.elim neither.1 neither.2
  have ended : body.length < (body ++ [quote] ++ follow).length := by simp
  rw [Token.first, if_neg (different '(' (by decide)), if_neg (different ')' (by decide)),
    if_neg (different ',' (by decide)), if_pos quotes, before, if_pos ended]

/-- The lexer takes a whole lexeme, and no more, from the front of a text. -/
theorem first_lexeme {token : Token} {lexeme follow : List Char}
    (written : Lexeme token lexeme) (stops : token.StopsBefore follow) :
    ∃ head tail, lexeme = head :: tail ∧ Text.isBlank head = false ∧
      Token.first head (tail ++ follow) = .ok (token, tail.length) := by
  cases written with
  | opening => exact ⟨_, _, rfl, rfl, rfl⟩
  | closing => exact ⟨_, _, rfl, rfl, rfl⟩
  | comma => exact ⟨_, _, rfl, rfl, rfl⟩
  | word starts continues =>
      exact ⟨_, _, rfl, isBlank_eq_false_of_isNamePart (isNamePart_of_isNameStart starts),
        first_name starts continues (stops_of_ofWord stops)⟩
  | @integer head tail digits small =>
      have digit := digits head List.mem_cons_self
      exact ⟨_, _, rfl, isBlank_eq_false_of_isNamePart (isNamePart_of_isDigit digit),
        first_integer digits small stops⟩
  | text quotes closes =>
      refine ⟨_, _, rfl, ?_, by simpa using first_text follow quotes closes⟩
      rcases quotes with rfl | rfl <;> rfl
  | @relation sign signs =>
      cases sign with
      | equal => exact ⟨'=', ['='], rfl, rfl, by simp [Token.first, Token.ofSign?]⟩
      | different => exact ⟨'!', ['='], rfl, rfl, by simp [Token.first, Token.ofSign?]⟩
      | less =>
          have alone : follow.head? ≠ some '=' := stops
          exact ⟨'<', [], rfl, rfl, by simp [Token.first, Token.ofSign?, alone]⟩
      | atMost => exact ⟨'<', ['='], rfl, rfl, by simp [Token.first, Token.ofSign?]⟩
      | greater =>
          have alone : follow.head? ≠ some '=' := stops
          exact ⟨'>', [], rfl, rfl, by simp [Token.first, Token.ofSign?, alone]⟩
      | atLeast => exact ⟨'>', ['='], rfl, rfl, by simp [Token.first, Token.ofSign?]⟩
      | member => exact absurd rfl signs.1
      | notMember => exact absurd rfl signs.2

theorem tokensFrom_append (position : Nat) (taken text : List Char) :
    tokensFrom position taken.length (taken ++ text) =
      tokensFrom (position + taken.length) 0 text := by
  induction taken generalizing position with
  | nil => rfl
  | cons head tail induction =>
      change tokensFrom (position + 1) tail.length (tail ++ text) = _
      rw [induction, List.length_cons, Nat.add_assoc, Nat.add_comm 1]

/-- A lexeme gives its token, and the lexer goes on after it. -/
theorem tokensFrom_lexeme {token : Token} {lexeme text : List Char}
    (written : Lexeme token lexeme) (stops : token.StopsBefore text) (position : Nat) :
    tokensFrom position 0 (lexeme ++ text) = do
      let others ← tokensFrom (position + lexeme.length) 0 text
      return ⟨position, token⟩ :: others := by
  rcases first_lexeme written stops with ⟨head, tail, rfl, notBlank, first⟩
  rw [List.cons_append, tokensFrom, if_neg (by simp [notBlank]), first]
  change (tokensFrom (position + 1) tail.length (tail ++ text) >>= _) = _
  rw [tokensFrom_append, Nat.add_assoc, Nat.add_comm 1, ← List.length_cons]

/-- The tokens of a text that is spelled from lexemes are those of the lexemes. -/
theorem tokensFrom_of_spelled {position : Nat} {text : List Char} {tokens : List Located}
    (spelled : Spelled position text tokens) :
    tokensFrom position 0 text = .ok tokens := by
  induction spelled with
  | nil => rfl
  | blank blank _ induction =>
      rw [tokensFrom, if_pos blank]
      exact induction
  | lexeme written stops _ induction =>
      rw [tokensFrom_lexeme written stops, induction]
      rfl

/-- No lexeme but that of a text holds a bracket. -/
theorem not_bracket_of_lexeme {token : Token} {lexeme : List Char}
    (written : Lexeme token lexeme) (notText : ∀ body, token ≠ .text body) :
    ∀ character ∈ lexeme, character ≠ '[' ∧ character ≠ ']' := by
  have ofPart : ∀ {character : Char}, Token.isNamePart character →
      character ≠ '[' ∧ character ≠ ']' := by
    intro character part
    constructor <;> rintro rfl <;> exact absurd part (by decide)
  cases written with
  | opening | closing | comma => simp
  | word starts continues =>
      intro character member
      rcases List.mem_cons.mp member with rfl | member
      · exact ofPart (isNamePart_of_isNameStart starts)
      · exact ofPart (continues character member)
  | integer digits small =>
      intro character member
      exact ofPart (isNamePart_of_isDigit (digits character member))
  | text quotes closes => exact absurd rfl (notText _)
  | @relation sign signs =>
      cases sign with
      | member => exact absurd rfl signs.1
      | notMember => exact absurd rfl signs.2
      | _ => simp [Relation.symbol]

theorem Spelled.not_bracket {position : Nat} {text : List Char} {tokens : List Located}
    (spelled : Spelled position text tokens)
    (notText : ∀ token ∈ tokens.map Located.token, ∀ body, token ≠ .text body) :
    ∀ character ∈ text, character ≠ '[' ∧ character ≠ ']' := by
  induction spelled with
  | nil => simp
  | blank blank _ induction =>
      intro character member
      rcases List.mem_cons.mp member with rfl | member
      · constructor <;> rintro rfl <;> exact absurd blank (by decide)
      · exact induction notText character member
  | lexeme written _ _ induction =>
      rw [List.map_cons, List.forall_mem_cons] at notText
      intro character member
      rcases List.mem_append.mp member with member | member
      · exact not_bracket_of_lexeme written notText.1 character member
      · exact induction notText.2 character member

theorem Lexeme.length_pos {token : Token} {lexeme : List Char}
    (written : Lexeme token lexeme) : 0 < lexeme.length := by
  cases written with
  | @relation sign signs => cases sign <;> decide
  | opening | closing | comma | word | integer | text => exact Nat.succ_pos _

/-- Every token of a text stands after those before it, and all before the end. -/
theorem Spelled.increasing {position : Nat} {text : List Char} {tokens : List Located}
    (spelled : Spelled position text tokens) :
    (tokens.map Located.position ++ [position + text.length]).Pairwise (· < ·) ∧
      ∀ later ∈ tokens.map Located.position ++ [position + text.length], position ≤ later := by
  induction spelled with
  | nil => simp
  | blank _ _ induction =>
      rw [List.length_cons, Nat.add_comm _ 1, ← Nat.add_assoc]
      exact ⟨induction.1, fun later member => Nat.le_of_succ_le (induction.2 later member)⟩
  | lexeme written _ _ induction =>
      have long := written.length_pos
      rw [List.length_append, ← Nat.add_assoc, List.map_cons, List.cons_append]
      refine ⟨List.pairwise_cons.mpr ⟨?_, induction.1⟩,
        List.forall_mem_cons.mpr ⟨Nat.le_refl _, ?_⟩⟩
      · intro later member
        exact Nat.lt_of_lt_of_le (Nat.lt_add_of_pos_right long) (induction.2 later member)
      · intro later member
        exact (Nat.le_add_right _ _).trans (induction.2 later member)

theorem Spelled.exists_not_blank {position : Nat} {text : List Char}
    {tokens : List Located} (spelled : Spelled position text tokens)
    (notEmpty : tokens ≠ []) : text.all Text.isBlank = false := by
  induction spelled with
  | nil => exact absurd rfl notEmpty
  | blank _ _ induction => rw [List.all_cons, induction notEmpty, Bool.and_false]
  | lexeme written stops _ _ =>
      rcases first_lexeme written stops with ⟨head, tail, rfl, notBlank, _⟩
      rw [List.cons_append, List.all_cons, notBlank, Bool.false_and]

end PackageRecipe.Condition
