import Descent.Calculator
import Mathlib.Data.Nat.Digits.Defs

/-!
# Numerals

What a numeral is and which number it stands for, without saying how it is read: some ASCII digits,
maybe with a sign in front, which stand for a number in base ten. The calculator reads the numerals
of the numbers of 64 bits, and nothing else (`Calculator.number?_eq_some_iff`).
-/

namespace Descent.Calculator

/-! ## Numbers of 64 bits -/

/-- The numbers of 64 bits. -/
def Fits (n : Int) : Prop := -2 ^ 63 ≤ n ∧ n ≤ 2 ^ 63 - 1

instance (n : Int) : Decidable (Fits n) := inferInstanceAs (Decidable (_ ∧ _))

theorem fits_iff {n : Int} : fits n = true ↔ Fits n := by
  have hpow : ((Nat.pow 2 63 : Nat) : Int) = 2 ^ 63 := rfl
  unfold fits Fits
  rw [Bool.and_eq_true, decide_eq_true_iff, decide_eq_true_iff, hpow]
  omega

/-! ## What a numeral stands for -/

/-- The digits of a numeral: what is left without the sign. -/
def digitsOf : List Char → List Char
  | '+' :: digits => digits
  | '-' :: digits => digits
  | digits => digits

/-- The number that some digits stand for in base ten. -/
def magnitude (digits : List Char) : Nat :=
  Nat.ofDigits 10 (digits.reverse.map fun c => c.toNat - '0'.toNat)

/-- Is the text a numeral? -/
def IsNumeral (text : String) : Prop :=
  digitsOf text.toList ≠ [] ∧ ∀ c ∈ digitsOf text.toList, c.isDigit = true

/-- The number that a numeral stands for. -/
def numeralValue (text : String) : Int :=
  if text.toList.head? = some '-' then -(magnitude (digitsOf text.toList) : Int)
  else magnitude (digitsOf text.toList)

/-! ## Reading numerals -/

theorem digit?_eq (c : Char) :
    digit? c = if c.isDigit = true then some (c.toNat - '0'.toNat) else none := by
  have hiff : ('0' ≤ c ∧ c ≤ '9') ↔ c.isDigit = true := by
    rw [Char.isDigit_iff_toNat]
    exact Iff.rfl
  unfold digit?
  simp only [hiff]

theorem magnitude_concat (digits : List Char) (c : Char) :
    magnitude (digits ++ [c]) = 10 * magnitude digits + (c.toNat - '0'.toNat) := by
  unfold magnitude
  rw [List.reverse_append, List.reverse_singleton, List.singleton_append, List.map_cons,
    Nat.ofDigits_cons, Nat.add_comm]

/-- The digits that were read so far stand for the number that the rest is added to. -/
theorem foldlM_digit? (read digits : List Char) :
    digits.foldlM (fun n c => (digit? c).map (10 * n + ·)) (magnitude read) =
      if digits.all Char.isDigit then some (magnitude (read ++ digits)) else none := by
  induction digits generalizing read with
  | nil => simp
  | cons c digits ih =>
    rw [List.foldlM_cons, digit?_eq]
    by_cases hc : c.isDigit = true
    · -- the digit has been read now
      have hread := ih (read ++ [c])
      rw [magnitude_concat, List.append_assoc, List.singleton_append] at hread
      simpa [hc] using hread
    · simp [hc]

theorem natural?_eq_some_iff {digits : List Char} {n : Nat} :
    natural? digits = some n ↔
      (digits ≠ [] ∧ ∀ c ∈ digits, c.isDigit = true) ∧ magnitude digits = n := by
  have hfold := foldlM_digit? [] digits
  have hzero : magnitude [] = 0 := rfl
  rw [hzero, List.nil_append] at hfold
  cases digits with
  | nil => simp [natural?]
  | cons c digits =>
    rw [natural?, hfold]
    · split <;> simp_all
    · exact List.cons_ne_nil c digits

theorem numeral?_eq_some_iff {text : String} {n : Int} :
    numeral? text.toList = some n ↔ IsNumeral text ∧ numeralValue text = n := by
  unfold IsNumeral numeralValue numeral?
  split
  case h_1 digits h =>
    simp [digitsOf, h, Option.bind_eq_some_iff, natural?_eq_some_iff]
  case h_2 digits h =>
    simp [digitsOf, h, Option.bind_eq_some_iff, natural?_eq_some_iff]
  case h_3 digits hplus hminus =>
    -- without a sign, all that is there has to be digits
    have hdigits : digitsOf text.toList = text.toList := by
      unfold digitsOf
      split <;> simp_all
    have hhead : text.toList.head? ≠ some '-' := by
      intro h
      obtain ⟨rest, hrest⟩ := List.head?_eq_some_iff.1 h
      exact hminus rest hrest
    rw [hdigits, if_neg hhead]
    simp [Option.bind_eq_some_iff, natural?_eq_some_iff]

/-- **The calculator reads a number if and only if it is a numeral of 64 bits.** -/
theorem number?_eq_some_iff {text : String} {n : Int} :
    number? text = some n ↔ IsNumeral text ∧ numeralValue text = n ∧ Fits n := by
  rw [number?, Option.filter_eq_some_iff, numeral?_eq_some_iff, fits_iff, and_assoc]

end Descent.Calculator
