import Mathlib.Data.List.Chain
import PackageRecipe.Proofs.Condition.Parsing
import PackageRecipe.Proofs.Condition.Spelling

/-!
Texts as layouts. A layout is a list of lexemes with blanks before, between and after them,
and at least one blank between two lexemes that would run into each other. The texts that
have tokens are those of layouts. A blank ends what stands before it, so a text that is cut
at one has the tokens of its two parts.
-/

namespace PackageRecipe.Condition

/-! ## Lexemes -/

namespace Token

/-- Whether the lexeme of a token, with the next lexeme right after it, would be read as
another: a word goes on into letters, digits and low lines, an integer into letters and
digits, and an order sign into an equality sign. -/
def RunsInto (next : List Char) : Token → Prop
  | .name _ | .boolean _ | .conjunction | .disjunction | .negation | .membership =>
      ∃ part ∈ next.head?, isNamePart part
  | .integer _ => ∃ part ∈ next.head?, part.isAlphanum
  | .relation .less | .relation .greater => next = ['=', '=']
  | .relation _ | .text _ | .opening | .closing | .comma => False

end Token

/-- No lexeme but that of the equality sign starts with the sign that order signs go on
into. -/
theorem Lexeme.eq_equal {token : Token} {tail : List Char}
    (written : Lexeme token ('=' :: tail)) : '=' :: tail = ['=', '='] := by
  generalize equal : '=' :: tail = lexeme at written
  cases written with
  | opening | closing | comma => cases equal
  | word starts =>
      cases equal
      exact absurd starts (by decide)
  | integer digits =>
      cases equal
      exact absurd (digits '=' List.mem_cons_self) (by decide)
  | text quotes =>
      cases equal
      exact absurd quotes (by decide)
  | @relation sign _ =>
      cases sign with
      | equal =>
          cases equal
          rfl
      | _ => cases equal

theorem stopsBefore_append_iff {token later : Token} {lexeme : List Char}
    (written : Lexeme later lexeme) (rest : List Char) :
    token.StopsBefore (lexeme ++ rest) ↔ ¬token.RunsInto lexeme := by
  rcases List.exists_cons_of_length_pos written.length_pos with ⟨head, tail, rfl⟩
  have order : head ≠ '=' ↔ head :: tail ≠ ['=', '='] := by
    constructor
    · rintro different equal
      exact different (List.cons.inj equal).1
    · rintro different rfl
      exact different written.eq_equal
  cases token with
  | relation sign => cases sign <;> simp [Token.StopsBefore, Token.RunsInto, order]
  | _ => simp [Token.StopsBefore, Token.RunsInto]

/-! ## Blanks -/

theorem stopsBefore_congr {follow other : List Char} (same : follow.head? = other.head?)
    (token : Token) : token.StopsBefore follow ↔ token.StopsBefore other := by
  cases token with
  | relation sign => cases sign <;> simp [Token.StopsBefore, same]
  | _ => simp [Token.StopsBefore, same]

/-- A lexeme that ends where the text does, or before, still does so if the text goes on after
a blank. -/
theorem Token.StopsBefore.append {token : Token} {text blanks : List Char}
    (stops : token.StopsBefore text) (notEmpty : blanks ≠ [])
    (blank : ∀ character ∈ blanks, Text.isBlank character) (rest : List Char) :
    token.StopsBefore (text ++ (blanks ++ rest)) := by
  cases text with
  | nil =>
      rcases List.exists_cons_of_ne_nil notEmpty with ⟨head, tail, rfl⟩
      exact stopsBefore_of_isBlank token (blank head List.mem_cons_self) (tail ++ rest)
  | cons head tail => exact (stopsBefore_congr rfl token).mp stops

theorem tokensFrom_blanks {blanks : List Char}
    (blank : ∀ character ∈ blanks, Text.isBlank character) (position : Nat)
    (text : List Char) :
    tokensFrom position 0 (blanks ++ text) = tokensFrom (position + blanks.length) 0 text := by
  induction blanks generalizing position with
  | nil => rfl
  | cons head tail induction =>
      rw [List.forall_mem_cons] at blank
      rw [List.cons_append, tokensFrom, if_pos blank.1, induction blank.2, List.length_cons,
        Nat.add_assoc, Nat.add_comm 1]

theorem Spelled.blanks {position : Nat} {blanks text : List Char} {located : List Located}
    (blank : ∀ character ∈ blanks, Text.isBlank character)
    (rest : Spelled (position + blanks.length) text located) :
    Spelled position (blanks ++ text) located := by
  induction blanks generalizing position with
  | nil => exact rest
  | cons head tail induction =>
      rw [List.forall_mem_cons] at blank
      rw [List.length_cons, Nat.add_comm tail.length, ← Nat.add_assoc] at rest
      exact .blank blank.1 (induction blank.2 rest)

/-! ## Layouts -/

structure Piece where
  gap : List Char
  lexeme : List Char
  token : Token
  blank : ∀ character ∈ gap, Text.isBlank character
  written : token.IsWrittenAs lexeme

namespace Piece

def text (piece : Piece) : List Char :=
  piece.gap ++ piece.lexeme

/-- There is a blank between two pieces that would run into each other. -/
def Parted (earlier later : Piece) : Prop :=
  earlier.token.RunsInto later.lexeme → later.gap ≠ []

/-- The pieces stand `position` characters into a text, and each token is where its
lexeme starts. -/
def locate (position : Nat) : List Piece → List Located
  | [] => []
  | piece :: rest =>
      ⟨position + piece.gap.length, piece.token⟩ :: locate (position + piece.text.length) rest

def indent (piece : Piece) (head : Char) (blank : Text.isBlank head) : Piece where
  gap := head :: piece.gap
  lexeme := piece.lexeme
  token := piece.token
  blank := List.forall_mem_cons.mpr ⟨blank, piece.blank⟩
  written := piece.written

theorem locate_indent (piece : Piece) {head : Char} (blank : Text.isBlank head)
    (rest : List Piece) (position : Nat) :
    locate position (piece.indent head blank :: rest) =
      locate (position + 1) (piece :: rest) := by
  simp only [locate, indent, text, List.cons_append, List.length_cons, Nat.add_assoc,
    Nat.add_comm 1]

end Piece

/-- Pieces, each parted from the next, and the blanks after the last. -/
structure Layout where
  pieces : List Piece
  last : List Char
  parted : pieces.IsChain Piece.Parted
  blank : ∀ character ∈ last, Text.isBlank character

namespace Layout

def text (layout : Layout) : List Char :=
  layout.pieces.flatMap Piece.text ++ layout.last

def located (layout : Layout) : List Located :=
  Piece.locate 0 layout.pieces

theorem stopsBefore_text_iff (layout : Layout) (token : Token) :
    token.StopsBefore layout.text ↔
      ∀ first ∈ layout.pieces.head?, token.RunsInto first.lexeme → first.gap ≠ [] := by
  rcases layout with ⟨pieces, last, parted, blank⟩
  cases pieces with
  | nil =>
      have stops : token.StopsBefore last := by
        cases last with
        | nil => exact stopsBefore_nil token
        | cons head tail => exact stopsBefore_of_isBlank token (blank head List.mem_cons_self) tail
      simpa [text] using stops
  | cons first rest =>
      rcases first with ⟨gap, lexeme, own, gapBlank, written⟩
      cases gap with
      | nil =>
          have written := Token.lexeme_of_isWrittenAs written
          simpa [text, Piece.text] using stopsBefore_append_iff written _
      | cons head tail =>
          have stops := stopsBefore_of_isBlank token (gapBlank head List.mem_cons_self)
          simpa [text, Piece.text] using stops _

theorem spelled {pieces : List Piece} {last : List Char}
    (parted : pieces.IsChain Piece.Parted)
    (blank : ∀ character ∈ last, Text.isBlank character) (position : Nat) :
    Spelled position (pieces.flatMap Piece.text ++ last) (Piece.locate position pieces) := by
  induction pieces generalizing position with
  | nil =>
      have ends := Spelled.blanks blank (.nil (position + last.length))
      rwa [List.append_nil] at ends
  | cons piece rest induction =>
      rw [List.isChain_cons] at parted
      have stops := (stopsBefore_text_iff ⟨rest, last, parted.2, blank⟩ piece.token).mpr parted.1
      rw [List.flatMap_cons, Piece.text, List.append_assoc, List.append_assoc]
      refine .blanks piece.blank (.lexeme (Token.lexeme_of_isWrittenAs piece.written) stops ?_)
      rw [Nat.add_assoc, ← List.length_append]
      exact induction parted.2 _

theorem exists_of_spelled {position : Nat} {text : List Char} {located : List Located}
    (spelled : Spelled position text located) :
    ∃ layout : Layout, layout.text = text ∧ Piece.locate position layout.pieces = located := by
  induction spelled with
  | nil => exact ⟨⟨[], [], .nil, nofun⟩, rfl, rfl⟩
  | blank blank _ induction =>
      rcases induction with ⟨⟨pieces, last, parted, lastBlank⟩, rfl, rfl⟩
      cases pieces with
      | nil => exact ⟨⟨[], _ :: last, .nil, List.forall_mem_cons.mpr ⟨blank, lastBlank⟩⟩, rfl, rfl⟩
      | cons first rest =>
          -- The chain looks at the gap of the later of two pieces only, so the first may grow.
          rw [List.isChain_cons] at parted
          exact ⟨⟨first.indent _ blank :: rest, last, List.isChain_cons.mpr parted, lastBlank⟩, rfl,
            first.locate_indent blank rest _⟩
  | @lexeme position token lexeme _ _ written stops _ induction =>
      rcases induction with ⟨layout, rfl, rfl⟩
      have parted := (layout.stopsBefore_text_iff token).mp stops
      refine ⟨⟨⟨[], lexeme, token, nofun, Token.isWrittenAs_of_lexeme written⟩ :: layout.pieces,
        layout.last, List.isChain_cons.mpr ⟨parted, layout.parted⟩, layout.blank⟩, ?_, rfl⟩
      simp [Layout.text, Piece.text]

end Layout

theorem tokens_eq_ok_iff_layout {text : List Char} {located : List Located} :
    tokens text = .ok located ↔
      ∃ layout : Layout, layout.text = text ∧ layout.located = located := by
  constructor
  · intro lexed
    exact Layout.exists_of_spelled (spelled_of_tokensFrom lexed)
  · rintro ⟨layout, rfl, rfl⟩
    exact tokensFrom_of_spelled (Layout.spelled layout.parted layout.blank 0)

/-! ## Cuts

What the lexer says of a text moves with the place of the text. -/

def Located.shift (offset : Nat) (located : Located) : Located where
  position := located.position + offset
  token := located.token

def Error.shift (offset : Nat) : Error → Error
  | .malformed position fault => .malformed (position + offset) fault
  | error => error

theorem tokensFrom_add (position offset taken : Nat) (text : List Char) :
    tokensFrom (position + offset) taken text =
      ((tokensFrom position taken text).map (List.map (Located.shift offset))).mapError
        (Error.shift offset) := by
  induction text generalizing position taken with
  | nil => rfl
  | cons head tail induction =>
      cases taken with
      | succ taken => simp only [tokensFrom, Nat.add_right_comm _ offset, induction]
      | zero =>
          simp only [tokensFrom, Nat.add_right_comm _ offset, induction]
          by_cases blank : Text.isBlank head = true
          · rw [if_pos blank, if_pos blank]
          · rw [if_neg blank, if_neg blank]
            rcases Token.first head tail with fault | ⟨token, count⟩
            · rfl
            · cases found : tokensFrom (position + 1) count tail <;> simp only [found] <;> rfl

/-- After the lexemes of a text and a blank, the lexer starts anew. -/
theorem Spelled.tokensFrom_append {position : Nat} {text : List Char} {located : List Located}
    (spelled : Spelled position text located) {blanks : List Char} (notEmpty : blanks ≠ [])
    (blank : ∀ character ∈ blanks, Text.isBlank character) (others : List Char) :
    tokensFrom position 0 (text ++ (blanks ++ others)) =
      (tokensFrom (position + (text ++ blanks).length) 0 others).map (located ++ ·) := by
  -- By the lexemes of the text: each ends where it did, as a blank comes before all that is new.
  induction spelled with
  | nil position =>
      rw [List.nil_append, List.nil_append, tokensFrom_blanks blank]
      cases tokensFrom (position + blanks.length) 0 others <;> rfl
  | blank headBlank _ induction =>
      rw [List.cons_append, tokensFrom, if_pos headBlank, induction, List.cons_append,
        List.length_cons, Nat.add_assoc, Nat.add_comm 1]
  | @lexeme position token lexeme text located written stops _ induction =>
      rw [List.append_assoc, tokensFrom_lexeme written (stops.append notEmpty blank others),
        induction, Nat.add_assoc, ← List.length_append, List.append_assoc]
      cases tokensFrom (position + (lexeme ++ (text ++ blanks)).length) 0 others <;> rfl

theorem tokens_append {text : List Char} {located : List Located}
    (lexed : tokens text = .ok located) {blanks : List Char} (notEmpty : blanks ≠ [])
    (blank : ∀ character ∈ blanks, Text.isBlank character) (others : List Char) :
    tokens (text ++ blanks ++ others) =
      ((tokens others).map fun found =>
        located ++ found.map (Located.shift (text ++ blanks).length)).mapError
          (Error.shift (text ++ blanks).length) := by
  have shifted := tokensFrom_add 0 (text ++ blanks).length 0 others
  rw [tokens, List.append_assoc,
    (spelled_of_tokensFrom lexed).tokensFrom_append notEmpty blank others, shifted, tokens]
  cases tokensFrom 0 0 others <;> rfl

/-- A text has tokens exactly if it has a layout, and its tokens are then the pieces of every
layout that it has. The parser gets them with the length of the text as their end, and their
positions increase up to it. A text that goes on after a blank has its own tokens, and after
them those of what follows, or the error of what follows, as many characters further on. -/
theorem lexer_reads_layouts (text : List Char) :
    (∀ located, tokens text = .ok located ↔
      ∃ layout : Layout, layout.text = text ∧ layout.located = located) ∧
    ∀ located, tokens text = .ok located →
      parse text = ofTokens text.length located ∧
      (located.map Located.position ++ [text.length]).Pairwise (· < ·) ∧
      ∀ blanks others, blanks ≠ [] → (∀ character ∈ blanks, Text.isBlank character) →
        (∀ found, tokens others = .ok found →
          tokens (text ++ blanks ++ others) =
            .ok (located ++ found.map (Located.shift (text ++ blanks).length))) ∧
        (∀ error, tokens others = .error error →
          tokens (text ++ blanks ++ others) = .error (error.shift (text ++ blanks).length)) := by
  refine ⟨fun located => tokens_eq_ok_iff_layout, ?_⟩
  intro located lexed
  refine ⟨parse_of_tokens lexed, ?increasing, ?cut⟩
  case increasing =>
    have increasing := (spelled_of_tokensFrom lexed).increasing.1
    rwa [Nat.zero_add] at increasing
  case cut =>
    intro blanks others notEmpty blank
    have cut := tokens_append lexed notEmpty blank others
    constructor
    · intro found read
      rw [cut, read]
      rfl
    · intro error fails
      rw [cut, fails]
      rfl

/-- An integer ends before a low line without a blank, and the fault after the cut is found at
its place in the whole text. -/
theorem lexer_reads_layouts_adjacent :
    tokens "1_a<=".toList =
        .ok [⟨0, .integer 1⟩, ⟨1, .name "_a"⟩, ⟨3, .relation .atMost⟩] ∧
      tokens ("1_a<=".toList ++ ['\u2003'] ++ ['!']) =
        .error (.malformed 6 (.unsupportedOperator '!')) := by
  let one : Piece :=
    ⟨[], ['1'], .integer 1, nofun, by decide, List.forall_mem_singleton.mpr rfl, rfl, by decide⟩
  let name : Piece :=
    ⟨[], ['_', 'a'], .name "_a", nofun, rfl,
      ⟨'_', ['a'], rfl, rfl, List.forall_mem_singleton.mpr rfl⟩, by decide⟩
  let sign : Piece := ⟨[], ['<', '='], .relation .atMost, nofun, rfl⟩
  have parted : [one, name, sign].IsChain Piece.Parted := by
    refine .cons_cons ?_ (.cons_cons ?_ (.singleton sign))
    · rintro ⟨_, ⟨⟩, runs⟩
      exact absurd runs (by decide)
    · rintro ⟨_, ⟨⟩, runs⟩
      exact absurd runs (by decide)
  have lexed := ((lexer_reads_layouts "1_a<=".toList).1 _).mpr
    ⟨⟨[one, name, sign], [], parted, nofun⟩, rfl, rfl⟩
  have cut := ((lexer_reads_layouts _).2 _ lexed).2.2 ['\u2003'] ['!'] (List.cons_ne_nil _ _)
    (List.forall_mem_singleton.mpr rfl)
  exact ⟨lexed, cut.2 _ rfl⟩

end PackageRecipe.Condition
