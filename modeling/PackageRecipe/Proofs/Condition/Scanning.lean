import PackageRecipe.Proofs.Condition.Lexing
import PackageRecipe.Proofs.Text.Numeral

/-!
What the lexer finds in any text. The text is spelled from the tokens, at their positions,
so every token has a written form, and blanks are all that is left out.
-/

namespace PackageRecipe.Condition

/-- Membership has tokens of its own, so the lexer makes no relation token of it. -/
def Token.IsScanned : Token → Prop
  | .relation sign => sign ≠ .member ∧ sign ≠ .notMember
  | _ => True

namespace Token

theorem isScanned_ofWord (word : List Char) : (ofWord word).IsScanned := by
  fun_cases ofWord word <;> trivial

theorem isScanned_ofSign? {sign : Char} {beforeEquals : Bool} {tested : Relation}
    (equal : ofSign? sign beforeEquals = some tested) : (relation tested).IsScanned := by
  revert equal
  fun_cases ofSign? sign beforeEquals <;> rintro ⟨⟩ <;> exact ⟨nofun, nofun⟩

end Token

/-- A token takes the front of the text after its first character, and cannot go on into
what is left. -/
def Takes (head : Char) (tail : List Char) (token : Token) (count : Nat) : Prop :=
  ∃ taken follow, tail = taken ++ follow ∧ taken.length = count ∧
    Lexeme token (head :: taken) ∧ token.StopsBefore follow

theorem head?_dropWhile_eq_false {continues : Char → Bool} {text : List Char} :
    ∀ next ∈ (text.dropWhile continues).head?, continues next = false := by
  intro next found
  have stops := List.head?_dropWhile_not continues text
  rw [Option.mem_def.mp found] at stops
  exact stops

theorem symbol_of_ofSign? {sign : Char} {beforeEquals : Bool} {tested : Relation}
    (found : Token.ofSign? sign beforeEquals = some tested) :
    tested.symbol.toList = sign :: if beforeEquals then ['='] else [] := by
  revert found
  fun_cases Token.ofSign? sign beforeEquals <;> rintro ⟨⟩ <;> rfl

theorem stopsBefore_of_ofSign? {sign : Char} {beforeEquals : Bool} {tested : Relation}
    {follow : List Char} (found : Token.ofSign? sign beforeEquals = some tested)
    (alone : beforeEquals = false → follow.head? ≠ some '=') :
    (Token.relation tested).StopsBefore follow := by
  revert found alone
  fun_cases Token.ofSign? sign beforeEquals <;> rintro ⟨⟩ alone
  case case3 | case5 => exact alone rfl
  all_goals trivial

theorem takes_sign {head : Char} {tail : List Char} {tested : Relation}
    (found : Token.ofSign? head (tail.head? = some '=') = some tested) :
    Takes head tail (.relation tested) (if tail.head? = some '=' then 1 else 0) := by
  have written : Lexeme (.relation tested) tested.symbol.toList :=
    .relation (Token.isScanned_ofSign? found)
  rw [symbol_of_ofSign? found] at written
  by_cases equals : tail.head? = some '='
  · rcases List.head?_eq_some_iff.mp equals with ⟨follow, rfl⟩
    exact ⟨['='], follow, rfl, rfl, written, stopsBefore_of_ofSign? found nofun⟩
  · simp only [equals, decide_false, Bool.false_eq_true, if_false] at written ⊢
    exact ⟨[], tail, rfl, rfl, written, stopsBefore_of_ofSign? found fun _ => equals⟩

theorem takes_text {quote : Char} {tail : List Char} (quotes : quote = '\'' ∨ quote = '"')
    (closed : (tail.takeWhile (· != quote)).length < tail.length) :
    Takes quote tail (.text (String.ofList (tail.takeWhile (· != quote))))
      ((tail.takeWhile (· != quote)).length + 1) := by
  have parts := List.takeWhile_append_dropWhile (p := (· != quote)) (l := tail)
  rcases rest : tail.dropWhile (· != quote) with _ | ⟨next, follow⟩
  · rw [rest, List.append_nil] at parts
    rw [parts] at closed
    exact absurd closed (Nat.lt_irrefl _)
  · have ends : next = quote := by
      have stops := @head?_dropWhile_eq_false (· != quote) tail
      rw [rest] at stops
      simpa using stops next rfl
    subst ends
    rw [rest] at parts
    refine ⟨tail.takeWhile (· != next) ++ [next], follow, ?_, by simp, ?_, trivial⟩
    · simpa using parts.symm
    · refine .text quotes ?_
      intro member
      simpa using List.mem_takeWhile_imp member

theorem takes_integer {head : Char} {tail : List Char} {value : Nat} (digit : head.isDigit)
    (read : Text.readUnsigned? Token.integerBound (head :: tail.takeWhile (·.isAlphanum)) =
      some value) :
    Takes head tail (.integer value) (tail.takeWhile (·.isAlphanum)).length := by
  have noPlus : (head :: tail.takeWhile (·.isAlphanum)).head? ≠ some '+' := by
    intro plus
    cases plus
    simp at digit
  rw [Text.readUnsigned?_eq_some_iff, Text.denotes_iff_of_ne noPlus,
    Text.readDigits?_eq_some_iff] at read
  rcases read with ⟨⟨_, digits, rfl⟩, small⟩
  exact ⟨_, tail.dropWhile (·.isAlphanum), List.takeWhile_append_dropWhile.symm, rfl,
    .integer digits small, head?_dropWhile_eq_false⟩

theorem stopsBefore_ofWord {word follow : List Char}
    (stops : ∀ next ∈ follow.head?, Token.isNamePart next = false) :
    (Token.ofWord word).StopsBefore follow := by
  fun_cases Token.ofWord word <;> exact stops

theorem takes_word {head : Char} {tail : List Char} (starts : Token.isNameStart head) :
    Takes head tail (Token.ofWord (head :: tail.takeWhile Token.isNamePart))
      (tail.takeWhile Token.isNamePart).length :=
  ⟨_, tail.dropWhile Token.isNamePart, List.takeWhile_append_dropWhile.symm, rfl,
    .word starts fun _ member => List.mem_takeWhile_imp member,
    stopsBefore_ofWord head?_dropWhile_eq_false⟩

/-- Every token of the lexer is written at the place where it is found. -/
theorem takes_of_first {head : Char} {tail : List Char} {token : Token} {count : Nat}
    (scanned : Token.first head tail = .ok (token, count)) : Takes head tail token count := by
  revert scanned
  fun_cases Token.first head tail <;> rintro ⟨⟩
  case case1 equal => exact ⟨[], tail, rfl, rfl, equal ▸ .opening, trivial⟩
  case case2 equal => exact ⟨[], tail, rfl, rfl, equal ▸ .closing, trivial⟩
  case case3 equal => exact ⟨[], tail, rfl, rfl, equal ▸ .comma, trivial⟩
  case case4 quotes body closed => exact takes_text quotes closed
  case case6 found => exact takes_sign found
  case case8 digit others value read => exact takes_integer digit read
  case case10 starts others => exact takes_word starts

/-- A text is spelled from the tokens that the lexer finds in it. -/
theorem spelled_of_tokensFrom {position : Nat} : {text : List Char} → {located : List Located} →
    tokensFrom position 0 text = .ok located → Spelled position text located
  | [], _, lexed => by
      cases lexed
      exact .nil position
  | head :: tail, located, lexed => by
      rw [tokensFrom] at lexed
      split at lexed
      next blank => exact .blank blank (spelled_of_tokensFrom lexed)
      · split at lexed
        · cases lexed
        next token count found =>
          rcases exists_of_bind_eq_ok lexed with ⟨others, othersLexed, done⟩
          cases done
          rcases takes_of_first found with ⟨taken, follow, equal, rfl, written, stops⟩
          have shorter : follow.length ≤ tail.length := by simp [equal]
          rw [equal, tokensFrom_append] at othersLexed
          have rest : Spelled (position + (head :: taken).length) follow others := by
            rw [List.length_cons, Nat.add_comm taken.length, ← Nat.add_assoc]
            exact spelled_of_tokensFrom othersLexed
          rw [equal]
          exact .lexeme written stops rest
termination_by text => text.length
decreasing_by
  · exact Nat.lt_succ_of_le shorter
  · exact Nat.lt_succ_self _

/-- A token that some text is made of. -/
def Token.IsSpellable (token : Token) : Prop :=
  ∃ lexeme, Lexeme token lexeme

theorem Token.IsSpellable.isScanned {token : Token} (spellable : token.IsSpellable) :
    token.IsScanned := by
  rcases spellable with ⟨_, written⟩
  cases written with
  | word => exact isScanned_ofWord _
  | relation signs => exact signs
  | opening | closing | comma | integer | text => trivial

theorem Spelled.isSpellable {position : Nat} {text : List Char} {located : List Located}
    (spelled : Spelled position text located) :
    ∀ token ∈ located.map Located.token, token.IsSpellable := by
  induction spelled with
  | nil => simp
  | blank _ _ induction => exact induction
  | lexeme written _ _ induction => exact List.forall_mem_cons.mpr ⟨⟨_, written⟩, induction⟩

theorem isSpellable_of_tokens {text : List Char} {located : List Located}
    (lexed : tokens text = .ok located) :
    ∀ token ∈ located.map Located.token, token.IsSpellable :=
  (spelled_of_tokensFrom lexed).isSpellable

end PackageRecipe.Condition
