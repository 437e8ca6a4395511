import Descent.Proofs.Calculator.Words
import Mathlib.Algebra.GroupWithZero.Nat

/-!
# Printing tokens

Tokens are printed by writing their values with a space between any two of them. The space ends the
word before it and is skipped, so the text that is printed has these tokens again, and each of them
stands behind the values and spaces that were printed before it (`Calculator.lex_print`).
-/

namespace Descent.Calculator

/-- The offset at which the `i`-th value is printed: behind the others, each with its space. -/
def offset (items : List (Kind × String)) (i : Nat) : Nat :=
  ((items.take i).map fun item => item.2.utf8ByteSize).sum + i

@[simp] theorem offset_zero (items : List (Kind × String)) : offset items 0 = 0 := rfl

theorem offset_cons_succ (item : Kind × String) (items : List (Kind × String)) (i : Nat) :
    offset (item :: items) (i + 1) = item.2.utf8ByteSize + 1 + offset items i := by
  rw [offset, offset, List.take_succ_cons, List.map_cons, List.sum_cons]
  omega

/-- The tokens of what is printed from an offset on. -/
def printed (start : Nat) (items : List (Kind × String)) : List (Token Kind) :=
  items.mapIdx fun i (kind, lexeme) =>
    ⟨kind, lexeme, start + offset items i, start + offset items i + lexeme.utf8ByteSize⟩

theorem printed_cons (start : Nat) (kind : Kind) (lexeme : String) (items : List (Kind × String)) :
    printed start ((kind, lexeme) :: items) =
      ⟨kind, lexeme, start, start + lexeme.utf8ByteSize⟩ ::
        printed (start + lexeme.utf8ByteSize + 1) items := by
  rw [printed, printed, List.mapIdx_cons]
  simp only [offset_zero, offset_cons_succ, Nat.add_zero, Nat.add_assoc]

/-- A lexeme makes its token, if white space follows or nothing. -/
theorem yieldFrom_lexeme {kind : Kind} {lexeme : String} (h : kind.IsLexeme lexeme) (start : Nat)
    {rest : List Char} (hrest : ∀ c ∈ rest.head?, Unicode.whiteSpace.contains c = true) :
    lexer.yieldFrom start (lexeme.toList ++ rest) =
      (lexer.yieldFrom (start + lexeme.utf8ByteSize) rest).behind
        [⟨kind, lexeme, start, start + lexeme.utf8ByteSize⟩] := by
  have hkind : kind.word.kind = some kind := by cases kind <;> rfl
  rw [reads_lexer.yieldFrom_append (h.cuts hrest), Word.token?, hkind, Option.map_some,
    String.ofList_toList, Text.byteLength_toList]
  rfl

/-- The values with single spaces between them have their tokens again. -/
theorem yieldFrom_intercalate {items : List (Kind × String)}
    (h : ∀ item ∈ items, item.1.IsLexeme item.2) (start : Nat) :
    lexer.yieldFrom start ([' '].intercalate (items.map fun item => item.2.toList)) =
      ⟨printed start items, none⟩ := by
  induction items generalizing start with
  | nil => exact Lexer.yieldFrom_nil lexer start
  | cons item items ih =>
    obtain ⟨kind, lexeme⟩ := item
    obtain ⟨hlexeme, h⟩ := List.forall_mem_cons.1 h
    cases items with
    | nil =>
      have hyield : lexer.yieldFrom start (lexeme.toList ++ []) = _ :=
        yieldFrom_lexeme hlexeme start nofun
      rw [List.append_nil, Lexer.yieldFrom_nil] at hyield
      rw [List.map_singleton, List.intercalate_singleton, hyield, printed_cons]
      rfl
    | cons next items =>
      have hspace : Unicode.whiteSpace.contains ' ' = true := by decide +kernel
      have hends (cs : List Char) :
          ∀ c ∈ (' ' :: cs).head?, Unicode.whiteSpace.contains c = true := by
        rintro c ⟨rfl⟩
        exact hspace
      have hrest := ih h (start + lexeme.utf8ByteSize + ' '.utf8Size)
      rw [List.map_cons] at hrest ⊢
      rw [List.map_cons, List.intercalate_cons_cons, List.append_assoc, List.singleton_append,
        yieldFrom_lexeme hlexeme start (hends _), yieldFrom_space hspace, hrest,
        printed_cons start]
      rfl

/-- **What is printed is read again.** If each lexeme is one of its kind, then the text of the
lexemes with single spaces between them has these tokens, and the `i`-th of them stands behind the
lexemes and the spaces before it. -/
theorem lex_print (items : List (Kind × String)) (h : ∀ item ∈ items, item.1.IsLexeme item.2) :
    lexer.lex (" ".intercalate (items.map Prod.snd)) =
      .ok (items.mapIdx fun i (kind, lexeme) =>
        ⟨kind, lexeme, offset items i, offset items i + lexeme.utf8ByteSize⟩) := by
  have htext : (" ".intercalate (items.map Prod.snd)).toList =
      [' '].intercalate (items.map fun item => item.2.toList) := by
    rw [String.toList_intercalate, List.map_map]
    rfl
  have hyield := yieldFrom_intercalate h 0
  rw [← htext] at hyield
  rw [Lexer.lex_eq_ok_iff]
  refine ⟨congrArg Yield.stuck hyield, (congrArg Yield.tokens hyield).trans ?_⟩
  simp only [printed, Nat.zero_add]

/-- A sum of a number and a name. -/
theorem lex_print_sum :
    Kind.number.IsLexeme "12" ∧ Kind.plus.IsLexeme "+" ∧ Kind.ident.IsLexeme "x_1" ∧
      lexer.lex "12 + x_1" =
        .ok [⟨.number, "12", 0, 2⟩, ⟨.plus, "+", 3, 4⟩, ⟨.ident, "x_1", 5, 8⟩] := by
  have hnumber : Kind.number.IsLexeme "12" := Kind.isLexeme_number (by decide) (by decide)
  have hplus : Kind.plus.IsLexeme "+" := rfl
  have hname : Kind.ident.IsLexeme "x_1" := by
    refine ⟨'x', ['_', '1'], rfl, .inl rfl, ?_⟩
    exact List.forall_mem_cons.2 ⟨.inr rfl, List.forall_mem_singleton.2 (.inl rfl)⟩
  refine ⟨hnumber, hplus, hname, ?_⟩
  exact lex_print [(.number, "12"), (.plus, "+"), (.ident, "x_1")] (by
    simp [hnumber, hplus, hname])

end Descent.Calculator
