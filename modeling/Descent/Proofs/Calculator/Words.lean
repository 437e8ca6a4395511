import Descent.Calculator.Kind
import Descent.Proofs.Lexer.Words

/-!
# The words of the calculator

The lexer of the calculator is one of words (`Calculator.reads_lexer`): each kind of token has its
word, and white space and comments are words that are skipped. No two of them begin with the same
character (`Calculator.apart_words`), so the order of the rules plays no part.

What a token of a kind can say (`Calculator.Kind.IsLexeme`) is cut off a text as the word of its
kind, if white space follows it or nothing.
-/

namespace Descent.Calculator

/-- Letters and the underscore. -/
def letters : CharSet := .ofRanges [('A', 'Z'), ('_', '_'), ('a', 'z')]

/-- The word of a token of one character. -/
def symbol (c : Char) (kind : Kind) : Word Kind := ⟨⟨.single c, .empty⟩, some kind⟩

/-- The word of a kind. -/
def Kind.word : Kind → Word Kind
  | number => ⟨⟨Unicode.decimalDigit, Unicode.decimalDigit⟩, some number⟩
  | ident => ⟨⟨letters, letters.union (.range '0' '9')⟩, some ident⟩
  | plus => symbol '+' plus
  | minus => symbol '-' minus
  | star => symbol '*' star
  | slash => symbol '/' slash
  | leftParen => symbol '(' leftParen
  | rightParen => symbol ')' rightParen

/-- White space, which is skipped. -/
def space : Word Kind := ⟨⟨Unicode.whiteSpace, Unicode.whiteSpace⟩, none⟩

/-- A comment, which goes to the end of the line. -/
def comment : Word Kind := ⟨⟨.single '#', .complement (.single '\n')⟩, none⟩

/-- The words of the calculator, one for each rule. -/
def words : List (Word Kind) := Kind.all.map Kind.word ++ [space, comment]

theorem compile_lexicon : lexicon.compile = .ok lexer := by
  have hsome : lexicon.compile.toOption.isSome = true := by decide +kernel
  unfold lexer
  cases h : lexicon.compile with
  | ok l => rfl
  | error e =>
    rw [h] at hsome
    cases hsome

theorem reads_lexer : lexer.Reads words := by
  refine Lexicon.reads_of_compile compile_lexicon ?_ rfl
  decide +kernel

theorem apart_words : Word.Apart words := by decide +kernel

theorem Kind.word_mem (k : Kind) : k.word ∈ words := by
  cases k <;> simp [words, Kind.all]

/-! ## Lexemes -/

theorem isUpper_iff {c : Char} : c.isUpper = true ↔ 65 ≤ c.toNat ∧ c.toNat ≤ 90 :=
  decide_eq_true_iff

theorem isLower_iff {c : Char} : c.isLower = true ↔ 97 ≤ c.toNat ∧ c.toNat ≤ 122 :=
  Bool.and_eq_true_iff.trans (and_congr decide_eq_true_iff decide_eq_true_iff)

theorem isAlpha_iff {c : Char} : c.isAlpha = true ↔ c.isUpper = true ∨ c.isLower = true :=
  Bool.or_eq_true_iff

theorem isAlphanum_iff {c : Char} : c.isAlphanum = true ↔ c.isAlpha = true ∨ c.isDigit = true :=
  Bool.or_eq_true_iff

theorem contains_letters {c : Char} : letters.contains c = true ↔ c.isAlpha = true ∨ c = '_' := by
  have hletters : letters = ⟨[65, 91, 95, 96, 97, 123]⟩ := by decide
  have hc : c = '_' ↔ c.toNat = 95 := (Char.toNat_inj (d := '_')).symm
  rw [hletters, CharSet.contains, isAlpha_iff, isUpper_iff, isLower_iff, hc]
  simp only [CharSet.inside]
  split_ifs <;> simp <;> omega

theorem contains_digits {c : Char} :
    (CharSet.range '0' '9').contains c = true ↔ c.isDigit = true := by
  have hdigits : CharSet.range '0' '9' = ⟨[48, 58]⟩ := by decide
  have hc : c.isDigit = true ↔ 48 ≤ c.toNat ∧ c.toNat ≤ 57 := Char.isDigit_iff_toNat
  rw [hdigits, CharSet.contains, hc]
  simp only [CharSet.inside]
  split_ifs <;> simp <;> omega

theorem contains_letters_digits {c : Char} :
    (letters.union (.range '0' '9')).contains c = true ↔ c.isAlphanum = true ∨ c = '_' := by
  rw [CharSet.union, CharSet.contains_zip rfl (by decide) (by decide), Bool.or_eq_true,
    contains_letters, contains_digits, isAlphanum_iff, or_right_comm]

namespace Kind

/-- A token of the kind can say so: a number has digits and nothing else, a name has letters, digits
and underscores and does not begin with a digit, and all other kinds have one text each. -/
def IsLexeme (kind : Kind) (lexeme : String) : Prop :=
  match kind with
  | number => lexeme.toList ≠ [] ∧ ∀ c ∈ lexeme.toList, Unicode.decimalDigit.contains c = true
  | ident => ∃ c cs, lexeme.toList = c :: cs ∧ (c.isAlpha = true ∨ c = '_') ∧
      ∀ d ∈ cs, d.isAlphanum = true ∨ d = '_'
  | plus => lexeme = "+"
  | minus => lexeme = "-"
  | star => lexeme = "*"
  | slash => lexeme = "/"
  | leftParen => lexeme = "("
  | rightParen => lexeme = ")"

/-- The digits of ASCII make numbers, though not they alone. -/
theorem isLexeme_number {lexeme : String} (hne : lexeme.toList ≠ [])
    (hall : lexeme.toList.all Char.isDigit = true) : number.IsLexeme lexeme := by
  refine ⟨hne, fun c hc => ?_⟩
  exact CharSet.contains_of_diff (by decide) (by decide +kernel) (by decide +kernel)
    (contains_digits.2 (List.all_eq_true.1 hall c hc))

/-- A lexeme begins as the word of its kind begins, and goes on as that does. -/
theorem IsLexeme.exists_cons {kind : Kind} {lexeme : String} (h : kind.IsLexeme lexeme) :
    ∃ c cs, lexeme.toList = c :: cs ∧ kind.word.run.first.contains c = true ∧
      ∀ d ∈ cs, kind.word.run.more.contains d = true := by
  cases kind with
  | number =>
    obtain ⟨hne, hall⟩ := h
    obtain ⟨c, cs, hcs⟩ := List.exists_cons_of_ne_nil hne
    rw [hcs] at hall
    obtain ⟨hc, hcs'⟩ := List.forall_mem_cons.1 hall
    exact ⟨c, cs, hcs, hc, hcs'⟩
  | ident =>
    obtain ⟨c, cs, hcs, hc, hall⟩ := h
    exact ⟨c, cs, hcs, contains_letters.2 hc, fun d hd => contains_letters_digits.2 (hall d hd)⟩
  | plus | minus | star | slash | leftParen | rightParen =>
    subst h
    exact ⟨_, [], rfl, by decide, nofun⟩

/-- Behind a lexeme, white space ends the word. -/
theorem not_more_of_space (kind : Kind) {c : Char} (hc : Unicode.whiteSpace.contains c = true) :
    kind.word.run.more.contains c = false := by
  refine CharSet.not_contains_of_inter (s := Unicode.whiteSpace) ?_ ?_ ?_ hc
  · decide +kernel
  · cases kind <;> decide +kernel
  · cases kind <;> decide +kernel

/-- A lexeme is cut off a text as the word of its kind, if white space follows or nothing. -/
theorem IsLexeme.cuts {kind : Kind} {lexeme : String} (h : kind.IsLexeme lexeme)
    {rest : List Char} (hrest : ∀ c ∈ rest.head?, Unicode.whiteSpace.contains c = true) :
    Word.Cuts words kind.word lexeme.toList rest := by
  obtain ⟨c, cs, hcs, hc, hall⟩ := h.exists_cons
  rw [hcs]
  exact .intro (apart_words.of?_eq_some kind.word_mem hc) hall fun d hd =>
    kind.not_more_of_space (hrest d hd)

end Kind

/-! ## What is skipped -/

variable {c : Char}

theorem of?_space (hc : Unicode.whiteSpace.contains c = true) : Word.of? words c = some space :=
  apart_words.of?_eq_some (by simp [words]) hc

theorem of?_comment : Word.of? words '#' = some comment :=
  apart_words.of?_eq_some (by simp [words]) (by decide)

/-- White space is skipped character by character. -/
theorem yieldFrom_space (hc : Unicode.whiteSpace.contains c = true) (start : Nat)
    (rest : List Char) :
    lexer.yieldFrom start (c :: rest) = lexer.yieldFrom (start + c.utf8Size) rest :=
  reads_lexer.yieldFrom_cons_of_skip (fun _ => of?_space) hc start rest

/-- A comment goes to the end of its line. -/
theorem contains_comment_more {d : Char} : comment.run.more.contains d = true ↔ d ≠ '\n' := by
  change (CharSet.single '\n').complement.contains d = true ↔ _
  rw [CharSet.contains_complement (by decide), Bool.not_eq_true', ← Bool.not_eq_true,
    CharSet.contains_single]

/-- A comment is skipped up to the end of its line. -/
theorem yieldFrom_comment {body rest : List Char} (hbody : '\n' ∉ body)
    (hrest : ∀ d ∈ rest.head?, d = '\n') (start : Nat) :
    lexer.yieldFrom start ('#' :: body ++ rest) =
      lexer.yieldFrom (start + Text.byteLength ('#' :: body)) rest := by
  have hcuts : Word.Cuts words comment ('#' :: body) rest := by
    refine .intro of?_comment (fun d hd => ?_) fun d hd => ?_
    · exact contains_comment_more.2 fun heq => hbody (heq ▸ hd)
    · rw [← Bool.not_eq_true, contains_comment_more, not_not]
      exact hrest d hd
  exact reads_lexer.yieldFrom_append_of_none hcuts rfl start

end Descent.Calculator
